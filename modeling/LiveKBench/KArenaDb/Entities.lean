import LiveKBench.KArena.Verdict
import LiveKBench.KArenaWeb.MonthWindow
import LiveKBench.KClient.SyzbotData

/-! The entities of kArena with all their fields, as the pipelines build them and the database hands
them back. -/
namespace LiveKBench.KArenaDb
open KArenaWeb (DateTime)
open KArena (Evaluation EvaluationResult)
open KClient (SyzbotData)
open Lib

inductive BugStatus
  | «open»
  | fixed
  deriving DecidableEq, Repr

inductive BaseCommit
  | parentCommit
  | crashCommit
  deriving DecidableEq, Repr

def BaseCommit.text : BaseCommit → String
  | .parentCommit => "parentCommit"
  | .crashCommit => "crashCommit"

inductive EntryStatus
  | success
  | error
  deriving DecidableEq, Repr

inductive LocalizationStatus
  | success
  | error
  | invalid
  deriving DecidableEq, Repr

inductive ExitReason
  | normal
  | costLimitExceeded
  | timeLimitExceeded
  deriving DecidableEq, Repr

inductive KEnvStatus
  | pending
  | building
  | built
  | pushed
  | error
  deriving DecidableEq, Repr

def baseCommitForStatus : BugStatus → BaseCommit
  | .fixed => .parentCommit
  | .open => .crashCommit

/-- A `dict[str, str]`: no key occurs twice. -/
structure StrDict where
  entries : List (String × String)
  nodup : (entries.map Prod.fst).Nodup

def StrDict.empty : StrDict := ⟨[],List.nodup_nil⟩

structure SyzbotBug where
  bugId : String
  extid : String
  title : String
  addedTime : DateTime
  reportedTime : DateTime
  status : BugStatus
  subsystem : List String
  syzbotCrashReport : String
  syzbotReproducer : String
  syzkallerCommitId : String
  syzkallerRollbackTag : String
  syzbotData : SyzbotData

structure KCache where
  kCacheId : ℕ
  bugId : String
  baseCommit : BaseCommit
  addedTime : DateTime
  kGymJobId : String
  status : EntryStatus
  systemMessage : String
  storageKey : Option String
  storageUri : Option String
  kGymEvaluation : Option Evaluation
  kGymEvaluationResult : Option EvaluationResult
  crashReport : Option String

structure Patch where
  patchId : ℕ
  patchContent : String
  status : EntryStatus
  systemMessage : String
  modifiedFiles : List String
  modifiedFunctions : List String
  numModifiedLines : ℤ

structure AgentPatch where
  agentPatchId : ℕ
  patchId : ℤ
  bugId : String
  addedTime : DateTime
  agentConfigId : ℤ
  unionId : ℤ
  baseCommit : BaseCommit
  status : EntryStatus
  systemMessage : String
  dollarCost : Option ℚ
  timeCost : Option ℤ
  exitReason : Option ExitReason
  trajectoryKey : Option String
  logKey : Option String
  attrs : StrDict

structure DeveloperPatch where
  devPatchId : ℕ
  patchId : ℤ
  bugId : String
  commitId : String
  addedTime : DateTime
  fixedTime : DateTime
  patchMessage : String
  attrs : StrDict

structure PatchLocalizationEvaluation where
  evalId : ℕ
  bugId : String
  devPatchId : ℤ
  agentPatchId : ℤ
  status : LocalizationStatus
  systemMessage : String
  fileIntersectionSize : ℤ
  fileUnionSize : ℤ
  fileEvaluation : ℚ
  functionIntersectionSize : ℤ
  functionUnionSize : ℤ
  functionEvaluation : ℚ

structure PatchCrashResolutionEvaluation where
  evalId : ℕ
  agentPatchId : ℤ
  kCacheId : ℤ
  kGymEvalJobId : String
  status : EntryStatus
  systemMessage : String
  kGymEvaluation : Option Evaluation
  kGymEvaluationResult : Option EvaluationResult

/-- A message of a conversation with a model is a dictionary of JSON values. -/
structure PatchLLMJudgeEvaluation where
  evalId : ℕ
  judgeId : ℤ
  bugId : String
  devPatchId : ℤ
  agentPatchId : ℤ
  status : EntryStatus
  systemMessage : String
  yesCount : Option ℤ
  noCount : Option ℤ
  errorCount : Option ℤ
  llmMessages : Option (List (List (List (String × Json))))

structure BugDataset where
  datasetId : ℕ
  datasetName : String
  description : String
  addedTime : DateTime
  bugIds : List String
  attrs : StrDict

structure KEnvBaseImage where
  kEnvImageId : ℕ
  bugId : String
  baseCommit : BaseCommit
  addedTime : DateTime
  commitId : String
  gitUrl : String
  mirrorPath : String
  localImageName : String
  remoteImageName : String
  status : KEnvStatus
  systemMessage : String
  builtTime : Option DateTime
  pushedTime : Option DateTime

/-! A row keeps the key under which it is stored. -/

lemma Patch.key_stored (patch : Patch) (patchId : ℕ) :
    { patch with patchId }.patchId = patchId := rfl

lemma AgentPatch.key_stored (agentPatch : AgentPatch) (agentPatchId : ℕ) :
    { agentPatch with agentPatchId }.agentPatchId = agentPatchId := rfl

lemma PatchCrashResolutionEvaluation.key_stored (eval : PatchCrashResolutionEvaluation)
    (evalId : ℕ) : { eval with evalId }.evalId = evalId := rfl

end LiveKBench.KArenaDb
