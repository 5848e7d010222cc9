import LiveKBench.KArenaDb.Entities
import LiveKBench.Lib.GuardedTasks

/-! The docker images of a bug: their names, and how they are pulled, built and removed. The code
that does so awaits docker, the database and the containers of the agents. -/
namespace LiveKBench.KArenaPipeline
open KArenaDb
open KArenaWeb (DateTime)
open KClient (SyzbotData)
open Lib

/-- The commands given to docker. The pulls of one image are told apart by the number of the
attempt. -/
inductive DockerCommand
  | inspect (image : String)
  | pull (image : String) (attempt : ℕ)
  | tag (source target : String)
  | build (dockerfile buildArg image : String)
  | rmi (images : List String)
  | prune
  deriving DecidableEq

/-- What `_run_docker` returns. -/
structure DockerOutput where
  returncode : ℤ
  stdout : String
  stderr : String

inductive AgentError
  | runtimeError (message : String)
  | other (type message : String)
  deriving DecidableEq

/-- A run of `AgentInvoker` in the container of the agent. -/
structure AgentRun where
  bug : SyzbotData
  baseCommit : BaseCommit
  statefulEdit : Bool
  kcache : KCache
  timeout : ℕ

namespace AgentRun

structure Result where
  status : EntryStatus
  systemMessage : String
  dollarCost : Option ℚ
  timeCost : Option ℤ
  exitReason : Option ExitReason
  patch : Option String
  trajectory : Option (List UInt8)
  log : Option (List UInt8)

end AgentRun

/-- A run of `PatchAnalyzer` in the kenv container. -/
structure PatchAnalyzer where
  bug : SyzbotData
  baseCommit : BaseCommit
  patch : Option String

/-- What `PatchAnalyzer.run_agent` returns. -/
structure PatchAnalysis where
  patchContent : String
  status : EntryStatus
  systemMessage : String
  modifiedFiles : Option (List String)
  modifiedFunctions : Option (List String)
  numModifiedLines : ℤ

/-- `patch_from_analysis`. -/
def patchFromAnalysis (analysis : PatchAnalysis) : Patch where
  patchId := 0
  patchContent := analysis.patchContent
  status := analysis.status
  systemMessage := analysis.systemMessage
  modifiedFiles := analysis.modifiedFiles.getD []
  modifiedFunctions := analysis.modifiedFunctions.getD []
  numModifiedLines := max 0 analysis.numModifiedLines

/-- What is awaited. The requests of the attempts at one bug are told apart by the number of the
attempt. -/
inductive AgentRequest
  | docker (command : DockerCommand)
  | sleep (seconds : ℕ)
  | getBug (bugId : String) (attempt : ℕ)
  | getLatestKcache (bugId : String) (baseCommit : BaseCommit) (attempt : ℕ)
  | runAgent (run : AgentRun) (attempt : ℕ)
  | analyze (analyzer : PatchAnalyzer) (attempt : ℕ)
  | now (attempt : ℕ)
  | insertPatch (patch : Patch) (attempt : ℕ)
  | insertAgentPatch (patch : AgentPatch) (attempt : ℕ)
  | saveFiles (agentPatchId : ℕ) (trajectory log : Option (List UInt8)) (attempt : ℕ)
  | updateAgentPatchKeys (agentPatchId : ℕ) (trajectoryKey logKey : String) (attempt : ℕ)

abbrev AgentRequest.Answer : AgentRequest → Type
  | .docker _ => DockerOutput
  | .sleep _ => Unit
  | .getBug _ _ => SyzbotBug
  | .getLatestKcache _ _ _ => KCache
  | .runAgent _ _ => AgentRun.Result
  | .analyze _ _ => PatchAnalysis
  | .now _ => DateTime
  | .insertPatch _ _ => ℕ
  | .insertAgentPatch _ _ => ℕ
  | .saveFiles _ _ _ _ => Unit
  | .updateAgentPatchKeys _ _ _ _ => Unit

/-- A command to docker, or a pause between two of them. -/
def AgentRequest.IsDocker : AgentRequest → Prop
  | .docker _ => True
  | .sleep _ => True
  | _ => False

abbrev AgentCode (α : Type) := Coroutine AgentRequest AgentRequest.Answer AgentError α

def awaitRequest (r : AgentRequest) : AgentCode r.Answer := Coroutine.request r

def runDocker (command : DockerCommand) : AgentCode DockerOutput := awaitRequest (.docker command)

/-- `get_docker_base_commit`. -/
def getDockerBaseCommit (baseCommit : BaseCommit) : String :=
  let text := baseCommit.text.toList
  .ofList (text.take (text.length-"Commit".length)) ++ "-commit"

/-- `dockerPrefix` and `preserveKenvBase` are those of the configuration. -/
structure KenvImageManager where
  dockerPrefix : String
  preserveKenvBase : Bool
  baseCommit : BaseCommit

namespace KenvImageManager
variable (m : KenvImageManager) (bugId agent : String)

def kenvBaseImageName : String :=
  s!"kenv-base-{bugId}-{getDockerBaseCommit m.baseCommit}:latest"

def remoteKenvBaseImageName : String :=
  s!"{m.dockerPrefix}/kenv-base-{bugId}-{getDockerBaseCommit m.baseCommit}:latest"

def kenvImageName : String :=
  s!"kenv-{bugId}-{getDockerBaseCommit m.baseCommit}:latest"

def agentImageName : String :=
  s!"kenv-{agent}-{bugId}-{getDockerBaseCommit m.baseCommit}:latest"

def checkImageExists (image : String) : AgentCode Bool := do
  let output ← runDocker (.inspect image)
  return output.returncode == 0

/-- The attempts of `pull_kenv_base_image` that are left. -/
def pullAttempts (maxRetries : ℕ) : List ℕ → AgentCode Unit
  | [] => throw (.runtimeError
      s!"Failed to pull {m.remoteKenvBaseImageName bugId} after {maxRetries} attempts")
  | attempt :: attempts => do
    let output ← runDocker (.pull (m.remoteKenvBaseImageName bugId) attempt)
    if output.returncode == 0 then
      let output ← runDocker
        (.tag (m.remoteKenvBaseImageName bugId) (m.kenvBaseImageName bugId))
      if output.returncode == 0 then return ()
      else throw (.runtimeError "Docker tag failed")
    else
      awaitRequest (.sleep (2^attempt))
      pullAttempts maxRetries attempts

def pullKenvBaseImage (maxRetries : ℕ) : AgentCode Unit :=
  m.pullAttempts bugId maxRetries (List.range maxRetries)

/-- `text[-800:]`. -/
def lastOf (text : String) : String := .ofList (text.toList.drop (text.toList.length-800))

def build (dockerfile buildArg image : String) : AgentCode Unit := do
  let output ← runDocker (.build dockerfile buildArg image)
  if output.returncode == 0 then return ()
  else throw (.runtimeError s!"Docker build failed for {image}: {lastOf output.stderr}")

def buildKenvImage : AgentCode Unit :=
  build "docker/kenv.Dockerfile" s!"KENV_BASE_IMAGE={m.kenvBaseImageName bugId}"
    (m.kenvImageName bugId)

def buildAgentImage : AgentCode Unit :=
  build s!"docker/kenv-{agent}.Dockerfile" s!"KENV_IMAGE={m.kenvImageName bugId}"
    (m.agentImageName bugId agent)

def ensureKenvImage : AgentCode Unit := do
  if ← checkImageExists (m.kenvImageName bugId) then return ()
  else
    if ← checkImageExists (m.kenvBaseImageName bugId) then pure ()
    else m.pullKenvBaseImage bugId 3
    m.buildKenvImage bugId

def ensureAgentImage : AgentCode Unit := do
  if ← checkImageExists (m.agentImageName bugId agent) then return ()
  else
    m.ensureKenvImage bugId
    m.buildAgentImage bugId agent

def imagesToRemove (agents : List String) : List String :=
  (if m.preserveKenvBase then []
    else [m.kenvBaseImageName bugId,m.remoteKenvBaseImageName bugId]) ++
  m.kenvImageName bugId :: agents.map (m.agentImageName bugId)

/-- There is always the kenv image to remove. Of docker only the exit codes are ignored. -/
def cleanupImages (agents : List String) : AgentCode Unit := do
  let _ ← runDocker (.rmi (m.imagesToRemove bugId agents))
  let _ ← runDocker .prune

/-! ## What the images take -/

section Makes
variable {m : KenvImageManager} {bugId : String}

lemma makes_runDocker (command : DockerCommand) : (runDocker command).Makes AgentRequest.IsDocker :=
  Coroutine.makes_request trivial

lemma makes_checkImageExists (image : String) :
    (checkImageExists image).Makes AgentRequest.IsDocker :=
  (makes_runDocker _).bind fun _ => Coroutine.makes_pure _

lemma makes_build (dockerfile buildArg image : String) :
    (build dockerfile buildArg image).Makes AgentRequest.IsDocker :=
  (makes_runDocker _).bind fun _ =>
    Coroutine.makes_ite _ (Coroutine.makes_pure _) (Coroutine.makes_throw _)

lemma makes_pullAttempts (maxRetries : ℕ) (attempts : List ℕ) :
    (m.pullAttempts bugId maxRetries attempts).Makes AgentRequest.IsDocker := by
  induction attempts with
  | nil => exact Coroutine.makes_throw _
  | cons attempt attempts ih =>
    refine (makes_runDocker _).bind fun output => Coroutine.makes_ite _ ?_ ?_
    · exact (makes_runDocker _).bind fun _ =>
        Coroutine.makes_ite _ (Coroutine.makes_pure _) (Coroutine.makes_throw _)
    · exact Coroutine.Makes.bind (Coroutine.makes_request trivial) fun _ => ih

theorem makes_ensureKenvImage : (m.ensureKenvImage bugId).Makes AgentRequest.IsDocker := by
  refine (makes_checkImageExists _).bind fun found =>
    Coroutine.makes_ite found (Coroutine.makes_pure _) ?_
  refine (makes_checkImageExists _).bind fun base => Coroutine.makes_ite base (makes_build _ _ _) ?_
  exact (makes_pullAttempts 3 _).bind fun _ => makes_build _ _ _

theorem makes_ensureAgentImage (agent : String) :
    (m.ensureAgentImage bugId agent).Makes AgentRequest.IsDocker := by
  refine (makes_checkImageExists _).bind fun found =>
    Coroutine.makes_ite found (Coroutine.makes_pure _) ?_
  exact makes_ensureKenvImage.bind fun _ => makes_build _ _ _

theorem makes_cleanupImages (agents : List String) :
    (m.cleanupImages bugId agents).Makes AgentRequest.IsDocker :=
  (makes_runDocker _).bind fun _ => (makes_runDocker _).bind fun _ => Coroutine.makes_pure _

end Makes

/-! ## When the images are ready -/

section Ready
variable (answers : (r : AgentRequest) → Except AgentError r.Answer)

/-- Docker exits with code 0. -/
def Exits (command : DockerCommand) : Prop :=
  ∃ output, answers (.docker command) = .ok output ∧ output.returncode = 0

/-- Docker exits with another code. -/
def ExitsOtherwise (command : DockerCommand) : Prop :=
  ∃ output, answers (.docker command) = .ok output ∧ output.returncode ≠ 0

/-- The first attempts exit with other codes, and the next one pulls the image, which gets its
local name. -/
def Pulled (attempts : List ℕ) : Prop :=
  ∃ failed attempt later, attempts = failed ++ attempt :: later ∧
    (∀ a ∈ failed, ExitsOtherwise answers (.pull (m.remoteKenvBaseImageName bugId) a) ∧
      answers (.sleep (2^a)) = .ok ()) ∧
    Exits answers (.pull (m.remoteKenvBaseImageName bugId) attempt) ∧
    Exits answers (.tag (m.remoteKenvBaseImageName bugId) (m.kenvBaseImageName bugId))

def KenvReady : Prop :=
  Exits answers (.inspect (m.kenvImageName bugId)) ∨
    ExitsOtherwise answers (.inspect (m.kenvImageName bugId)) ∧
    (Exits answers (.inspect (m.kenvBaseImageName bugId)) ∨
      ExitsOtherwise answers (.inspect (m.kenvBaseImageName bugId)) ∧
        m.Pulled bugId answers (List.range 3)) ∧
    Exits answers (.build "docker/kenv.Dockerfile" s!"KENV_BASE_IMAGE={m.kenvBaseImageName bugId}"
      (m.kenvImageName bugId))

/-- The image of the agent is there, or docker makes it from what is there or pulled. -/
def AgentReady : Prop :=
  Exits answers (.inspect (m.agentImageName bugId agent)) ∨
    ExitsOtherwise answers (.inspect (m.agentImageName bugId agent)) ∧
    m.KenvReady bugId answers ∧
    Exits answers (.build s!"docker/kenv-{agent}.Dockerfile" s!"KENV_IMAGE={m.kenvImageName bugId}"
      (m.agentImageName bugId agent))

/-- Docker can be started for the commands of the cleanup. -/
def CleanupRuns (agents : List String) : Prop :=
  (∃ output, answers (.docker (.rmi (m.imagesToRemove bugId agents))) = .ok output) ∧
    ∃ output, answers (.docker .prune) = .ok output

variable {m bugId agent answers}

lemma returns_runDocker {command : DockerCommand} {output : DockerOutput} :
    (runDocker command).Returns answers output ↔ answers (.docker command) = .ok output :=
  Coroutine.returns_request

lemma returns_checkImageExists {image : String} :
    (checkImageExists image).Returns answers true ↔ Exits answers (.inspect image) := by
  simp [checkImageExists,returns_runDocker,Exits]

lemma returns_checkImageExists_false {image : String} :
    (checkImageExists image).Returns answers false ↔ ExitsOtherwise answers (.inspect image) := by
  simp [checkImageExists,returns_runDocker,ExitsOtherwise]

/-- What is done only where an image is missing. -/
lemma returns_unless {image : String} {c : AgentCode Unit} :
    (do if ← checkImageExists image then return () else c : AgentCode Unit).Returns answers () ↔
      Exits answers (.inspect image) ∨
        ExitsOtherwise answers (.inspect image) ∧ c.Returns answers () := by
  rw [Coroutine.returns_bind]
  constructor
  · rintro ⟨found,hfound,hc⟩
    cases found with
    | true => exact .inl (returns_checkImageExists.mp hfound)
    | false => exact .inr ⟨returns_checkImageExists_false.mp hfound,hc⟩
  · rintro (h | ⟨h,hc⟩)
    · exact ⟨true,returns_checkImageExists.mpr h,rfl⟩
    · exact ⟨false,returns_checkImageExists_false.mpr h,hc⟩

lemma returns_build {dockerfile buildArg image : String} :
    (build dockerfile buildArg image).Returns answers () ↔
      Exits answers (.build dockerfile buildArg image) := by
  rw [build,Coroutine.returns_bind]
  refine exists_congr fun output => ?_
  rw [returns_runDocker]
  refine and_congr_right fun _ => ?_
  by_cases hcode : output.returncode = 0 <;> simp [hcode]

lemma pulled_cons {attempt : ℕ} {attempts : List ℕ} : m.Pulled bugId answers (attempt :: attempts) ↔
    (Exits answers (.pull (m.remoteKenvBaseImageName bugId) attempt) ∧
        Exits answers (.tag (m.remoteKenvBaseImageName bugId) (m.kenvBaseImageName bugId))) ∨
      (ExitsOtherwise answers (.pull (m.remoteKenvBaseImageName bugId) attempt) ∧
        answers (.sleep (2^attempt)) = .ok ()) ∧ m.Pulled bugId answers attempts := by
  constructor
  · rintro ⟨failed,last,later,heq,hfailed,hlast,htag⟩
    cases failed with
    | nil =>
      cases heq
      exact .inl ⟨hlast,htag⟩
    | cons first failed =>
      cases heq
      obtain ⟨hfirst,hrest⟩ := List.forall_mem_cons.mp hfailed
      exact .inr ⟨hfirst,failed,last,later,rfl,hrest,hlast,htag⟩
  · rintro (⟨hlast,htag⟩ | ⟨hfirst,failed,last,later,rfl,hrest,hlast,htag⟩)
    · exact ⟨[],attempt,attempts,rfl,nofun,hlast,htag⟩
    · exact ⟨attempt :: failed,last,later,rfl,List.forall_mem_cons.mpr ⟨hfirst,hrest⟩,hlast,htag⟩

lemma returns_pullAttempts {maxRetries : ℕ} (attempts : List ℕ) :
    (m.pullAttempts bugId maxRetries attempts).Returns answers () ↔
      m.Pulled bugId answers attempts := by
  induction attempts with
  | nil =>
    rw [pullAttempts,Coroutine.returns_throw,false_iff]
    rintro ⟨failed,last,later,heq,-⟩
    cases failed <;> cases heq
  | cons attempt attempts ih =>
    rw [pullAttempts,pulled_cons,Coroutine.returns_bind]
    constructor
    · rintro ⟨output,hout,h⟩
      rw [returns_runDocker] at hout
      by_cases hcode : output.returncode = 0
      · left
        simp only [hcode,beq_self_eq_true,if_true,Coroutine.returns_bind,returns_runDocker] at h
        obtain ⟨tagged,htag,h⟩ := h
        refine ⟨⟨output,hout,hcode⟩,tagged,htag,?_⟩
        by_contra hne
        simp [hne] at h
      · right
        simp only [beq_iff_eq,hcode,if_false,Coroutine.returns_bind] at h
        obtain ⟨u,hsleep,h⟩ := h
        exact ⟨⟨⟨output,hout,hcode⟩,Coroutine.returns_request.mp hsleep⟩,ih.mp h⟩
    · rintro (⟨⟨output,hout,hcode⟩,tagged,htag,htagged⟩ | ⟨⟨⟨output,hout,hcode⟩,hsleep⟩,hrest⟩)
      · refine ⟨output,returns_runDocker.mpr hout,?_⟩
        simp only [hcode,beq_self_eq_true,if_true,Coroutine.returns_bind,returns_runDocker]
        exact ⟨tagged,htag,by simp [htagged]⟩
      · refine ⟨output,returns_runDocker.mpr hout,?_⟩
        simp only [beq_iff_eq,hcode,if_false,Coroutine.returns_bind]
        exact ⟨(),Coroutine.returns_request.mpr hsleep,ih.mpr hrest⟩

lemma returns_ensureKenvImage :
    (m.ensureKenvImage bugId).Returns answers () ↔ m.KenvReady bugId answers := by
  rw [ensureKenvImage,returns_unless,KenvReady]
  refine or_congr_right (and_congr_right fun _ => ?_)
  have hbase := @returns_unless answers (m.kenvBaseImageName bugId) (m.pullKenvBaseImage bugId 3)
  rw [pullKenvBaseImage,returns_pullAttempts] at hbase
  rw [← hbase,← @returns_build answers,← buildKenvImage,Coroutine.returns_bind,
    Coroutine.returns_bind,← exists_and_right]
  refine exists_congr fun found => ?_
  rw [and_assoc]
  refine and_congr_right fun _ => ?_
  cases found with
  | true => simp
  | false => exact Coroutine.returns_seq

theorem returns_ensureAgentImage :
    (m.ensureAgentImage bugId agent).Returns answers () ↔ m.AgentReady bugId agent answers := by
  rw [ensureAgentImage,returns_unless,AgentReady]
  refine or_congr_right (and_congr_right fun _ => ?_)
  rw [Coroutine.returns_seq,returns_ensureKenvImage,buildAgentImage,returns_build]

end Ready

end KenvImageManager

end LiveKBench.KArenaPipeline
