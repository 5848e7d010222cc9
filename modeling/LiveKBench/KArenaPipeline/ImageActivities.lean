import LiveKBench.KArenaDb.HfSync
import LiveKBench.KArenaPipeline.PatchImporter

/-! What uses the docker images of one machine at a time: batches of agent runs, the population of
developer patches and imports of patches. Each has image managers of its own, and they share the
images by name; meanwhile crawls write to the table of bugs. The semaphores only delay: every order
of awaits that they allow is an order here. -/
namespace LiveKBench.KArenaPipeline
open KArenaWeb (DateTime)
open KArenaDb
open Lib

/-! ## Developer patches -/

/-- What is awaited about the images is done by the image manager. -/
def KenvImageManager.perform (m : KenvImageManager) : (r : Eval.Request) → ImageCode r.Answer
  | .ensureKenvImage bugId => AgentCode.lift (m.ensureKenvImage bugId)
  | .cleanupImages bugId => AgentCode.lift (m.cleanupImages bugId [])
  | r => awaitEval r

/-- Code without an `except`: a cancellation runs what is in its `finally`, like an exception. -/
def KenvImageManager.performs (m : KenvImageManager) {α : Type} : Eval.Work α → ImageCode α
  | .done a => .done a
  | .raise e => .raise (.raised e)
  | .await r k => do
    let x ← tryCatch
      (do
        let a ← m.perform r
        return .ok a)
      fun e => return .error e.toRaised
    m.performs (k x)

/-! ## The machine -/

/-- A call that works on several bugs, a task for each. The bugs without developer patches are read
from the database before the tasks start. -/
inductive Activity
  | agentPatches (p : AgentPatchProcess) (unionId : ℤ)
  | developerPatches (dockerPrefix : String) (preserveKenvBase : Bool) (bugIds : List String)
  | importPatches (p : PatchImporter) (unionId : ℤ) (startTime : DateTime)

namespace Activity

def bugIds : Activity → List String
  | .agentPatches p _ => p.bugIds
  | .developerPatches _ _ bugIds => bugIds
  | .importPatches p _ _ => p.bugIds

/-- The task of a bug. -/
def body : Activity → String → ImageCode Unit
  | .agentPatches p unionId,bugId => AgentCode.lift do
    let patches ← p.guarded unionId bugId
    let _ ← p.afterwards bugId patches
  | .developerPatches dockerPrefix preserveKenvBase _,bugId =>
    KenvImageManager.performs ⟨dockerPrefix,preserveKenvBase,.parentCommit⟩ (Eval.processOne bugId)
  | .importPatches p unionId startTime,bugId => do
    let _ ← p.importBugPatches bugId (p.patches bugId) unionId startTime (p.offset bugId)

end Activity

structure ImageWorld where
  /-- The names of the local images. -/
  images : List String
  bugs : BugTable

/-- What comes from outside when an await ends: the answer, where nothing else decides it; whether a
docker command takes effect; and which of its images a removal can take. An image that a container
uses stays. -/
structure ImageReply where
  answers : (r : ImageRequest) → Except ImageError r.Answer
  effect : Bool
  removed : List String

/-- The images after a command that takes effect. -/
def DockerCommand.run (removed : List String) : DockerCommand → List String → List String
  | .inspect _,images => images
  | .pull image _,images => image :: images
  | .tag _ target,images => target :: images
  | .build _ _ image,images => image :: images
  | .rmi targets,images => images.filter fun image => !(image ∈ targets && image ∈ removed)
  | .prune,images => images

/-- Docker exits with code 0 only where it has found the image, or has made it. -/
def DockerCommand.Honest (command : DockerCommand) (images : List String) (effect : Bool)
    (output : DockerOutput) : Prop :=
  output.returncode = 0 →
    match command with
    | .inspect image => image ∈ images
    | .pull _ _ => effect = true
    | .tag _ _ => effect = true
    | .build _ _ _ => effect = true
    | .rmi _ => True
    | .prune => True

instance (command : DockerCommand) (images : List String) (effect : Bool) (output : DockerOutput) :
    Decidable (command.Honest images effect output) := by
  unfold DockerCommand.Honest
  cases command <;> infer_instance

/-- `get_bug`. -/
def getBug (bugs : BugTable) (bugId : String) : Except ImageError SyzbotBug :=
  match bugs.get? bugId with
  | none => .error (.raised (.valueError s!"Bug not found: {bugId}"))
  | some row =>
    match rowToBug row with
    | none => .error (.raised (.exception "ValueError" ""))
    | some bug => .ok bug

/-- A command whose await is cancelled may take effect all the same. -/
def ImageWorld.exec (w : ImageWorld) (reply : ImageReply) :
    (r : ImageRequest) → Option (ImageWorld × Except ImageError r.Answer)
  | .agent (.docker command) =>
    let images := if reply.effect then command.run reply.removed w.images else w.images
    match reply.answers (.agent (.docker command)) with
    | .error e => some ({ w with images },.error e)
    | .ok output =>
      if command.Honest w.images reply.effect output then some ({ w with images },.ok output)
      else none
  | .agent (.getBug bugId attempt) =>
    match reply.answers (.agent (.getBug bugId attempt)) with
    | .error e => some (w,.error e)
    | .ok _ => some (w,getBug w.bugs bugId)
  | r => some (w,reply.answers r)

/-- The activities of the machine, and crawls as what happens apart from them. An await of a task
can be cancelled at any time: then its answer is that. -/
def imageActivities : Pipeline ImageWorld Activity String ImageRequest ImageRequest.Answer
    ImageError ImageReply CrawlInsert where
  select a _ := a.bugIds
  body := Activity.body
  limit _ := none
  cancels _ := false
  exec _ _ r w reply := w.exec reply r
  other c w := some { w with bugs := crawlInsert w.bugs c }

end LiveKBench.KArenaPipeline
