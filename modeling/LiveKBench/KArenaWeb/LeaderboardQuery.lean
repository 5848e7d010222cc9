import LiveKBench.KArenaWeb.Leaderboard
import LiveKBench.KArena.Schema
import LiveKBench.Lib.Relational
import LiveKBench.Lib.FirstSeen
import LiveKBench.Lib.Text
import Mathlib.Data.List.Dedup

/-! The leaderboard of a dataset over a range of months: the bugs fixed in the range, the rows of
every agent configuration on them, and its metrics. -/
namespace LiveKBench.KArenaWeb
open KArena Lib

inductive ScoreKey
  | crr
  | epr
  | fileIou
  | funcIou
  deriving DecidableEq, Repr

inductive Aggregation
  | pass
  | mean
  deriving DecidableEq, Repr

def Scores.get (scores : Scores) : ScoreKey → ℚ
  | .crr => scores.crr
  | .epr => scores.epr
  | .fileIou => scores.fileIou
  | .funcIou => scores.funcIou

/-- `reduce((total, value) => total + value, 0)`. -/
def total (values : List ℚ) : ℚ := values.foldl (fun total value => total+value) 0

def mean (values : List ℚ) : ℚ := total values / values.length

/-- What the scores of a bug's first `k` runs count for the bug. -/
def bugValue (aggregation : Aggregation) (k : ℕ) (scores : List ℚ) : ℚ :=
  match aggregation with
  | .pass => if scores.any fun score => score > 0 then 1 else 0
  | .mean => total scores / k

/-- The order of `sort` in `calculateCell`. It sorts the stored runs in place; to sort them again
for the next cell changes nothing. -/
def sortRuns (runs : List RunScore) : List RunScore :=
  sortOn (fun run => (run.unionId,run.agentPatchId)) runs

structure LeaderboardMetricCell where
  key : ScoreKey × Aggregation
  label : String
  value : Option ℚ
  availableRuns : ℕ
  requiredRuns : ℕ
  deriving DecidableEq, Repr

def metricLabel : ScoreKey × Aggregation → String
  | (.crr,.pass) => "CRR pass"
  | (.crr,.mean) => "CRR mean"
  | (.epr,.pass) => "EPR pass"
  | (.epr,.mean) => "EPR mean"
  | (.fileIou,.pass) => "File IoU pass"
  | (.fileIou,.mean) => "File IoU mean"
  | (.funcIou,.pass) => "Func IoU pass"
  | (.funcIou,.mean) => "Func IoU mean"

/-- One pass of the loop over the bugs: the runs found so far, and the values of the bugs that have
`k` of them. -/
def cellPass (scoreKey : ScoreKey) (aggregation : Aggregation) (runsByBug : RunsByBug) (k : ℕ)
    (state : ℕ × List ℚ) (bugId : String) : ℕ × List ℚ :=
  let runs := (sortRuns (runsByBug.runs bugId)).take k
  if runs.length < k then (state.1+runs.length,state.2)
  else (state.1+runs.length,
    state.2 ++ [bugValue aggregation k (runs.map fun run => run.scores.get scoreKey)])

def calculateCell (scoreKey : ScoreKey) (aggregation : Aggregation) (bugIds : List String)
    (runsByBug : RunsByBug) (k : ℕ) : LeaderboardMetricCell :=
  let (availableRuns,bugValues) :=
    bugIds.foldl (cellPass scoreKey aggregation runsByBug k) (0,[])
  { key := (scoreKey,aggregation)
    label := s!"{metricLabel (scoreKey,aggregation)}@{k}"
    value :=
      if bugValues.length = bugIds.length ∧ bugValues.length > 0 then some (mean bugValues)
      else none
    availableRuns := availableRuns
    requiredRuns := bugIds.length*k }

def leaderboardMetrics : List (ScoreKey × Aggregation) :=
  [(.crr,.pass),(.crr,.mean),(.epr,.pass),(.epr,.mean),(.fileIou,.pass),(.fileIou,.mean),
   (.funcIou,.pass),(.funcIou,.mean)]

def calculateMetrics (bugIds : List String) (runsByBug : RunsByBug) (k : ℕ) :
    List LeaderboardMetricCell :=
  leaderboardMetrics.map fun metric => calculateCell metric.1 metric.2 bugIds runsByBug k

def countBugsWithKRuns (bugIds : List String) (runsByBug : RunsByBug) (k : ℕ) : ℕ :=
  (bugIds.filter fun bugId => (runsByBug.runs bugId).length ≥ k).length

/-- A row of the query: the columns of the configuration and those of the run. -/
structure ConfigRow where
  config : AgentConfiguration
  row : LeaderboardRow
  deriving DecidableEq, Repr

/-- An entry but for the icons, which depend on the names of agent and model only. -/
structure LeaderboardEntry where
  agentConfigId : ℕ
  agent : String
  agentConfigName : String
  model : String
  modelConfigName : String
  statefulEdit : Bool
  oracleMode : Bool
  bugCount : ℕ
  bugsWithKRuns : ℕ
  runCount : ℕ
  metrics : List LeaderboardMetricCell
  deriving DecidableEq, Repr

/-- The map `byConfig` of the rows of each configuration. -/
def byConfig (rows : List ConfigRow) : OrderedMap ℕ (List ConfigRow) :=
  rows.foldl (fun m row => OrderedMap.set m row.config.agentConfigId
    ((OrderedMap.value? m row.config.agentConfigId).getD [] ++ [row])) OrderedMap.empty

/-- The entry of a configuration, from its first row and all of them. -/
def buildEntry (selectedBugIds : List String) (k : ℕ) (first : ConfigRow)
    (configRows : List ConfigRow) : LeaderboardEntry :=
  let runsByBug := buildRunsByBug (configRows.map ConfigRow.row)
  { agentConfigId := first.config.agentConfigId
    agent := first.config.agent
    agentConfigName := first.config.agentConfigName
    model := first.config.model
    modelConfigName := first.config.modelConfigName
    statefulEdit := first.config.statefulEdit ≠ 0
    oracleMode := first.config.oracleMode ≠ 0
    bugCount := selectedBugIds.length
    bugsWithKRuns := countBugsWithKRuns selectedBugIds runsByBug k
    runCount := (configRows.filterMap fun row => row.row.agentPatchId).dedup.length
    metrics := calculateMetrics selectedBugIds runsByBug k }

def buildEntries (rows : List ConfigRow) (selectedBugIds : List String) (k : ℕ) :
    List LeaderboardEntry :=
  (byConfig rows).rows.filterMap fun entry =>
    entry.2.head?.map fun first => buildEntry selectedBugIds k first entry.2

section Queries
variable (db : Database) (datasetId : ℕ) (fixedTimeStart fixedTimeEnd : String)

/-- The comparison of the query: the patch's time, as text, is in the window. -/
def inWindow (dp : DeveloperPatch) : Bool :=
  textLe fixedTimeStart.toList dp.fixedTime.toList && textLe dp.fixedTime.toList fixedTimeEnd.toList

/-- `selected_bugs`. -/
def selectedBugs : List String :=
  (((innerJoin db.bugDatasetMembers.rows db.developerPatches.rows
    fun bdm dp => dp.bugId = bdm.bugId).filter fun joined =>
      joined.1.datasetId = datasetId && inWindow fixedTimeStart fixedTimeEnd joined.2).map
        fun joined => joined.1.bugId).dedup

def fetchSelectedBugIds : List String :=
  (selectedBugs db datasetId fixedTimeStart fixedTimeEnd).insertionSort
    fun a b => textLe a.toList b.toList

/-- A null joins nothing. -/
def onPatch (ap : Option AgentPatch) (agentPatchId : ℕ) : Bool :=
  ap.any fun ap => agentPatchId = ap.agentPatchId

def leaderboardRow (bugId : String) (ap : Option AgentPatch)
    (crr : Option PatchCrashResolutionEvaluation) (llm : Option PatchLLMJudgeEvaluation)
    (loc : Option PatchLocalizationEvaluation) : LeaderboardRow where
  bugId := bugId
  agentPatchId := ap.map AgentPatch.agentPatchId
  unionId := ap.map AgentPatch.unionId
  crrEvaluation := (crr.bind PatchCrashResolutionEvaluation.kGymEvaluation).map Evaluation.text
  llmStatus := llm.map PatchLLMJudgeEvaluation.status
  yesCount := llm.bind PatchLLMJudgeEvaluation.yesCount
  noCount := llm.bind PatchLLMJudgeEvaluation.noCount
  fileEvaluation := loc.map PatchLocalizationEvaluation.fileEvaluation
  functionEvaluation := loc.map PatchLocalizationEvaluation.functionEvaluation
  localizationStatus := loc.map PatchLocalizationEvaluation.status

/-- The rows that the joins with the evaluations make of a patch on a bug, or of none. -/
def patchRows (bugId : String) (ap : Option AgentPatch) : List LeaderboardRow :=
  (matches? db.patchCrashResolutionEvaluations.rows fun crr => onPatch ap crr.agentPatchId).flatMap
    fun crr =>
  (matches? db.patchLLMJudgeEvaluations.rows fun llm => onPatch ap llm.agentPatchId).flatMap
    fun llm =>
  (matches? db.patchLocalizationEvaluations.rows fun loc => onPatch ap loc.agentPatchId).map
    fun loc => leaderboardRow bugId ap crr llm loc

/-- The rows of a configuration on a bug. -/
def configRows (ac : AgentConfiguration) (bugId : String) : List LeaderboardRow :=
  (matches? db.agentPatches.rows fun ap =>
    ap.agentConfigId = ac.agentConfigId && ap.bugId = bugId).flatMap (patchRows db bugId)

/-- The rows in the order of the nested joins. The query asks for no order, so that the database may
return any permutation of them. -/
def fetchLeaderboardRows : List ConfigRow :=
  db.agentConfigurations.rows.flatMap fun ac =>
    (selectedBugs db datasetId fixedTimeStart fixedTimeEnd).flatMap fun bugId =>
      (configRows db ac bugId).map (ConfigRow.mk ac)

end Queries
end LiveKBench.KArenaWeb
