import LiveKBench.KArenaDb.TimeOrder
import LiveKBench.KArenaPipeline.AgentPatchProcess
import LiveKBench.KArenaPipeline.Evaluations

/-! Imports of patches. The patches of a bug are analyzed and stored one after the other while the
image of the bug is there; what goes wrong with one of them becomes a message. -/
namespace LiveKBench.KArenaPipeline
open KArenaWeb (DateTime)
open KArenaDb
open Lib

inductive ImageRequest
  | agent (r : AgentRequest)
  | eval (r : Eval.Request)

abbrev ImageRequest.Answer : ImageRequest → Type
  | .agent r => r.Answer
  | .eval r => r.Answer

/-- What an await raises. A `CancelledError` is no `Exception`. -/
inductive ImageError
  | agent (e : AgentError)
  | raised (e : Raised)
  | cancelled

def AgentError.raised : AgentError → Raised
  | .runtimeError message => .exception "RuntimeError" message
  | .other type message => .exception type message

def ImageError.toRaised : ImageError → Raised
  | .agent e => e.raised
  | .raised e => e
  | .cancelled => .exception "CancelledError" ""

abbrev ImageCode (α : Type) := Coroutine ImageRequest ImageRequest.Answer ImageError α

/-- The code of the agent's batches and of the image managers. Its handlers are for exceptions, so
a cancellation ends it. -/
def AgentCode.lift {α : Type} : AgentCode α → ImageCode α
  | .done a => .done a
  | .raise e => .raise (.agent e)
  | .await r k => .await (.agent r) fun
    | .ok a => AgentCode.lift (k (.ok a))
    | .error (.agent e) => AgentCode.lift (k (.error e))
    | .error (.raised e) => .raise (.raised e)
    | .error .cancelled => .raise .cancelled

def awaitAgent (r : AgentRequest) : ImageCode r.Answer := AgentCode.lift (awaitRequest r)

lemma awaitAgent_eq (r : AgentRequest) : awaitAgent r =
    @Coroutine.request ImageRequest ImageRequest.Answer ImageError (.agent r) := by
  unfold awaitAgent awaitRequest Coroutine.request AgentCode.lift
  congr 1
  funext x
  cases x with
  | ok a => rfl
  | error e => cases e <;> rfl

lemma AgentCode.lift_bind {α β : Type} (c : AgentCode α) (f : α → AgentCode β) :
    AgentCode.lift (c >>= f) = AgentCode.lift c >>= fun a => AgentCode.lift (f a) := by
  induction c with
  | done a => rfl
  | raise e => rfl
  | await r k ih =>
    have hawait : (Coroutine.await r k >>= f : AgentCode β) = .await r fun x => k x >>= f := rfl
    rw [hawait,AgentCode.lift,AgentCode.lift]
    refine congrArg (Coroutine.await (ImageRequest.agent r)) ?_
    funext x
    cases x with
    | ok a => exact ih (.ok a)
    | error e =>
      cases e with
      | agent e => exact ih (.error e)
      | raised e => rfl
      | cancelled => rfl

def awaitEval (r : Eval.Request) : ImageCode r.Answer :=
  @Coroutine.request ImageRequest ImageRequest.Answer ImageError (.eval r)

/-- `try: … except Exception`. -/
def tryExcept {α : Type} (body : ImageCode α) (handler : Raised → ImageCode α) : ImageCode α :=
  tryCatch body fun
    | .cancelled => throw .cancelled
    | e => handler e.toRaised

/-- `try: … finally`. -/
def withCleanup {α : Type} (body : ImageCode α) (cleanup : ImageCode Unit) : ImageCode α := do
  let a ← tryCatch body fun e => do
    cleanup
    throw e
  cleanup
  return a

/-! ## The importer -/

structure ImportPatchResult where
  id : ℤ
  patchContent : String
  dollarCost : Option ℚ
  timeCost : Option ℤ
  exitReason : Option ExitReason
  trajectoryPath : Option String
  logPath : Option String
  attrs : StrDict
  crashResolved : Option Bool

/-- The import data, and what the validation has read. -/
structure PatchImporter where
  dockerPrefix : String
  preserveKenvBase : Bool
  agentConfigId : ℤ
  baseCommit : BaseCommit
  crashResolutionEvaluated : Bool
  results : OrderedMap String (List ImportPatchResult)
  bugCache : OrderedMap String SyzbotBug
  kcacheCache : OrderedMap String KCache
  filterBinaryFilesFromPatch : String → String

namespace PatchImporter
variable (p : PatchImporter)

def imageManager : KenvImageManager := ⟨p.dockerPrefix,p.preserveKenvBase,p.baseCommit⟩

/-- `d[key]`. -/
def lookup {α : Type} (d : OrderedMap String α) (key : String) : ImageCode α :=
  match d.value? key with
  | some value => return value
  | none => throw (.raised (.exception "KeyError" s!"'{key}'"))

def analyzePatch (bugId patchContent : String) : ImageCode PatchAnalysis := do
  let bug ← lookup p.bugCache bugId
  awaitAgent (.analyze ⟨bug.syzbotData,p.baseCommit,some patchContent⟩ 0)

/-- The entry of a patch. -/
def agentPatchOf (bugId : String) (patchData : ImportPatchResult) (unionId : ℤ)
    (addedTime : DateTime) (patchId : ℤ) : AgentPatch where
  agentPatchId := 0
  patchId := patchId
  bugId := bugId
  addedTime := addedTime
  agentConfigId := p.agentConfigId
  unionId := unionId
  baseCommit := p.baseCommit
  status := .success
  systemMessage := "Imported patch"
  dollarCost := patchData.dollarCost
  timeCost := patchData.timeCost
  exitReason := patchData.exitReason
  trajectoryKey := patchData.trajectoryPath
  logKey := patchData.logPath
  attrs := patchData.attrs

/-- The evaluation that came with a patch. -/
def storeEvaluation (bugId : String) (patchData : ImportPatchResult) (agentPatchId : ℕ) :
    ImageCode Unit :=
  match p.crashResolutionEvaluated,patchData.crashResolved with
  | true,some crashResolved => do
    let kcache ← lookup p.kcacheCache bugId
    let _ ← awaitEval (.insertCrashResolutionEval
      { evalId := 0
        agentPatchId := agentPatchId
        kCacheId := kcache.kCacheId
        kGymEvalJobId := "imported"
        status := .success
        systemMessage := "Imported evaluation result"
        kGymEvaluation := some (if crashResolved then .notReproduced else .reproduced)
        kGymEvaluationResult := none })
  | _,_ => return ()

/-- The rows of a patch: it, its entry and the evaluation that came with it. -/
def storePatch (bugId : String) (patchData : ImportPatchResult) (unionId : ℤ)
    (addedTime : DateTime) : ImageCode ℕ := do
  let filteredContent := p.filterBinaryFilesFromPatch patchData.patchContent
  let analysis ← p.analyzePatch bugId filteredContent
  let patchId ← awaitAgent (.insertPatch (patchFromAnalysis analysis) 0)
  let agentPatchId ← awaitAgent (.insertAgentPatch
    (p.agentPatchOf bugId patchData unionId addedTime (patchId : ℕ)) 0)
  p.storeEvaluation bugId patchData agentPatchId
  return agentPatchId

/-- The id of the new patch, or an error message. -/
def importSinglePatch (bugId : String) (patchData : ImportPatchResult) (unionId : ℤ)
    (addedTime : DateTime) : ImageCode (ℕ ⊕ String) :=
  tryExcept (Sum.inl <$> p.storePatch bugId patchData unionId addedTime) fun e =>
    pure (.inr s!"Failed to import patch for bug {bugId} (id={patchData.id}): {e.text}")

/-- `Failed to setup/process bug`. -/
def setupError (bugId : String) (e : Raised) : ℕ ⊕ String :=
  .inr s!"Failed to setup/process bug {bugId}: {e.text}"

/-- The loop over the patches, each with its number in the import; `results` are those so far. A
time after the end of the calendar raises, and ends the loop. -/
def importEach (bugId : String) (unionId : ℤ) (startTime : DateTime) :
    List (ImportPatchResult × ℕ) → List (ℕ ⊕ String) → ImageCode (List (ℕ ⊕ String))
  | [],results => return results
  | (patchData,number) :: rest,results =>
    match addSeconds startTime number with
    | none => return results ++
        [setupError bugId (.exception "OverflowError" "date value out of range")]
    | some addedTime => do
      let result ← p.importSinglePatch bugId patchData unionId addedTime
      importEach bugId unionId startTime rest (results ++ [result])

/-- `sorted(patches, key=lambda x: x.id)`. -/
def sortedPatches (patches : List ImportPatchResult) : List ImportPatchResult :=
  patches.mergeSort fun a b => a.id ≤ b.id

/-- `_import_bug_patches`: the ids and the errors, in their order. -/
def importBugPatches (bugId : String) (patches : List ImportPatchResult) (unionId : ℤ)
    (startTime : DateTime) (patchIndexOffset : ℕ) : ImageCode (List (ℕ ⊕ String)) :=
  withCleanup
    (tryExcept
      (do
        AgentCode.lift (p.imageManager.ensureKenvImage bugId)
        p.importEach bugId unionId startTime
          ((sortedPatches patches).zipIdx patchIndexOffset) [])
      fun e => return [setupError bugId e])
    (AgentCode.lift (p.imageManager.cleanupImages bugId []))

/-- `sorted(results.keys())`. -/
def bugIds : List String := (p.results.rows.map Prod.fst).mergeSort fun a b => a ≤ b

def patches (bugId : String) : List ImportPatchResult := (p.results.value? bugId).getD []

/-- How many patches come before those of a bug. -/
def offset (bugId : String) : ℕ :=
  ((p.bugIds.takeWhile fun b => b ≠ bugId).map fun b => (p.patches b).length).sum

end PatchImporter

end LiveKBench.KArenaPipeline
