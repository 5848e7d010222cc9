import LiveKBench.KArena.Verdict
import LiveKBench.Lib.Table
import Mathlib.Data.Rat.Defs

/-! The tables of the kArena database that the web application reads. A table holds the columns that
some query selects, joins on or orders by. -/
namespace LiveKBench.KArena
open KCore Lib

structure SyzbotBug where
  bugId : String
  status : String
  subsystem : String
  deriving DecidableEq, Repr

structure Patch where
  patchId : ℕ
  numModifiedLines : ℤ
  deriving DecidableEq, Repr

structure AgentPatch where
  agentPatchId : ℕ
  patchId : ℕ
  bugId : String
  agentConfigId : ℕ
  unionId : ℤ
  deriving DecidableEq, Repr

structure DeveloperPatch where
  devPatchId : ℕ
  patchId : ℕ
  bugId : String
  fixedTime : String
  deriving DecidableEq, Repr

structure AgentConfiguration where
  agentConfigId : ℕ
  agent : String
  agentConfigName : String
  model : String
  modelConfigName : String
  statefulEdit : ℤ
  oracleMode : ℤ
  deriving DecidableEq, Repr

structure PatchLocalizationEvaluation where
  evalId : ℕ
  bugId : String
  devPatchId : ℕ
  agentPatchId : ℕ
  status : String
  fileEvaluation : ℚ
  functionEvaluation : ℚ
  deriving DecidableEq, Repr

structure LLMJudgeConfiguration where
  judgeId : ℕ
  judgeName : String
  deriving DecidableEq, Repr

structure PatchLLMJudgeEvaluation where
  evalId : ℕ
  judgeId : ℕ
  bugId : String
  devPatchId : ℕ
  agentPatchId : ℕ
  status : String
  yesCount : Option ℤ
  noCount : Option ℤ
  deriving DecidableEq, Repr

structure BugDataset where
  datasetId : ℕ
  datasetName : String
  deriving DecidableEq, Repr

structure BugDatasetMember where
  datasetId : ℕ
  bugId : String
  deriving DecidableEq, Repr

def BugDatasetMember.key (m : BugDatasetMember) : ℕ × String := (m.datasetId,m.bugId)

structure Database where
  syzbotBugs : Table SyzbotBug.bugId
  patches : Table Patch.patchId
  agentPatches : Table AgentPatch.agentPatchId
  developerPatches : Table DeveloperPatch.devPatchId
  agentConfigurations : Table AgentConfiguration.agentConfigId
  patchLocalizationEvaluations : Table PatchLocalizationEvaluation.evalId
  patchCrashResolutionEvaluations : Table PatchCrashResolutionEvaluation.evalId
  llmJudgeConfigurations : Table LLMJudgeConfiguration.judgeId
  patchLLMJudgeEvaluations : Table PatchLLMJudgeEvaluation.evalId
  bugDatasets : Table BugDataset.datasetId
  bugDatasetMembers : Table BugDatasetMember.key

namespace Database

def empty : Database where
  syzbotBugs := .empty
  patches := .empty
  agentPatches := .empty
  developerPatches := .empty
  agentConfigurations := .empty
  patchLocalizationEvaluations := .empty
  patchCrashResolutionEvaluations := .empty
  llmJudgeConfigurations := .empty
  patchLLMJudgeEvaluations := .empty
  bugDatasets := .empty
  bugDatasetMembers := .empty

/-- The row with the key is there. -/
def Refers {κ ρ : Type*} {key : ρ → κ} (t : Table key) (k : κ) : Prop := ∃ r ∈ t.rows, key r = k

instance {κ ρ : Type*} [DecidableEq κ] {key : ρ → κ} (t : Table key) (k : κ) :
    Decidable (Refers t k) := inferInstanceAs (Decidable (∃ r ∈ t.rows, key r = k))

/-- The foreign keys that the schema declares between these tables. -/
structure ForeignKeys (db : Database) : Prop where
  agentPatches : ∀ ap ∈ db.agentPatches.rows, Refers db.patches ap.patchId ∧
    Refers db.syzbotBugs ap.bugId ∧ Refers db.agentConfigurations ap.agentConfigId
  developerPatches : ∀ dp ∈ db.developerPatches.rows, Refers db.patches dp.patchId ∧
    Refers db.syzbotBugs dp.bugId
  localization : ∀ loc ∈ db.patchLocalizationEvaluations.rows, Refers db.syzbotBugs loc.bugId ∧
    Refers db.developerPatches loc.devPatchId ∧ Refers db.agentPatches loc.agentPatchId
  crashResolution : ∀ crr ∈ db.patchCrashResolutionEvaluations.rows,
    Refers db.agentPatches crr.agentPatchId
  llmJudge : ∀ llm ∈ db.patchLLMJudgeEvaluations.rows,
    Refers db.llmJudgeConfigurations llm.judgeId ∧ Refers db.syzbotBugs llm.bugId ∧
    Refers db.developerPatches llm.devPatchId ∧ Refers db.agentPatches llm.agentPatchId
  members : ∀ bdm ∈ db.bugDatasetMembers.rows, Refers db.bugDatasets bdm.datasetId ∧
    Refers db.syzbotBugs bdm.bugId

/-- A state that the schema admits: the foreign keys, and the constraints `UNIQUE` and `CHECK`. -/
structure Admitted (db : Database) : Prop extends ForeignKeys db where
  judgeNames : (db.llmJudgeConfigurations.rows.map LLMJudgeConfiguration.judgeName).Nodup
  judgements : (db.patchLLMJudgeEvaluations.rows.map fun llm =>
    (llm.judgeId,llm.devPatchId,llm.agentPatchId)).Nodup
  datasetNames : (db.bugDatasets.rows.map BugDataset.datasetName).Nodup
  bugStatus : ∀ b ∈ db.syzbotBugs.rows, b.status ∈ ["open","fixed"]
  localizationStatus : ∀ loc ∈ db.patchLocalizationEvaluations.rows,
    loc.status ∈ ["success","error","invalid"]
  crashResolutionStatus : ∀ crr ∈ db.patchCrashResolutionEvaluations.rows,
    crr.status ∈ ["success","error"]
  llmJudgeStatus : ∀ llm ∈ db.patchLLMJudgeEvaluations.rows, llm.status ∈ ["success","error"]

end Database
end LiveKBench.KArena
