import LiveKBench.KArenaWeb.Cells

/-! The metrics of the research page: the rows of a dataset in the order of their query, and the
cell of a metric over some of them. -/
namespace LiveKBench.KArenaWeb
open KArena Lib

/-- The columns of a research row that a metric reads or that the query orders by. -/
structure ResearchRow where
  bugId : String
  agentPatchId : Option ℕ
  unionId : Option ℤ
  judgeName : Option String
  crrEvaluation : Option String
  llmStatus : Option String
  yesCount : Option ℤ
  noCount : Option ℤ
  fileEvaluation : Option ℚ
  functionEvaluation : Option ℚ
  localizationStatus : Option String
  deriving DecidableEq, Repr

/-- An absent judge and an empty name both stand for no judge. -/
structure MetricSpec where
  id : ScoreKey
  aggregation : Aggregation
  k : ℕ
  judgeName : Option String
  deriving DecidableEq, Repr

structure ResearchRun where
  agentPatchId : ℕ
  unionId : ℤ
  score : Option ℚ
  deriving DecidableEq, Repr

structure MetricCell where
  metricKey : String
  label : String
  value : Option ℚ
  availableRuns : ℕ
  requiredRuns : ℕ
  bugCount : ℕ
  deriving DecidableEq, Repr

def isTruthy (text : Option String) : Bool := text.any fun text => text ≠ ""

def metricScore (row : ResearchRow) : ScoreKey → Option ℚ
  | .crr =>
    if row.crrEvaluation = some "notReproduced" then some 1
    else if isTruthy row.crrEvaluation then some 0 else none
  | .epr =>
    match row.yesCount,row.noCount with
    | some yesCount,some noCount =>
      if !isTruthy row.crrEvaluation || row.llmStatus ≠ some "success" then none
      else if row.crrEvaluation = some "notReproduced" ∧ yesCount > noCount then some 1 else some 0
    | _,_ => none
  | .fileIou => if row.localizationStatus = some "success" then row.fileEvaluation else none
  | .funcIou => if row.localizationStatus = some "success" then row.functionEvaluation else none

/-- The columns that the leaderboard reads too. -/
def ResearchRow.leaderboardColumns (row : ResearchRow) : LeaderboardRow where
  bugId := row.bugId
  agentPatchId := row.agentPatchId
  unionId := row.unionId
  crrEvaluation := row.crrEvaluation
  llmStatus := row.llmStatus
  yesCount := row.yesCount
  noCount := row.noCount
  fileEvaluation := row.fileEvaluation
  functionEvaluation := row.functionEvaluation
  localizationStatus := row.localizationStatus

/-- Both pages score the same columns alike, a missing score counted as zero. -/
theorem metricScore_getD (row : ResearchRow) (scoreKey : ScoreKey) :
    (metricScore row scoreKey).getD 0 = row.leaderboardColumns.scores.get scoreKey := by
  obtain ⟨bugId,patch,union,judge,crr,status,yesCount,noCount,file,function,located⟩ := row
  cases scoreKey with
  | crr =>
    by_cases hcrr : crr = some "notReproduced"
    · simp [metricScore,Scores.get,LeaderboardRow.scores,ResearchRow.leaderboardColumns,hcrr]
    · by_cases htruthy : isTruthy crr <;>
        simp [metricScore,Scores.get,LeaderboardRow.scores,ResearchRow.leaderboardColumns,hcrr,
          htruthy]
  | epr =>
    cases yesCount with
    | none =>
      simp [metricScore,Scores.get,LeaderboardRow.scores,LeaderboardRow.majority,
        ResearchRow.leaderboardColumns]
    | some yesCount =>
      cases noCount with
      | none =>
        simp [metricScore,Scores.get,LeaderboardRow.scores,LeaderboardRow.majority,
          ResearchRow.leaderboardColumns]
      | some noCount =>
        simp only [metricScore,Scores.get,LeaderboardRow.scores,LeaderboardRow.majority,
          ResearchRow.leaderboardColumns]
        by_cases hcrr : crr = some "notReproduced"
        · by_cases hstatus : status = some "success"
          · by_cases hmajority : noCount < yesCount <;> simp [isTruthy,hcrr,hstatus,hmajority]
          · simp [hstatus]
        · by_cases hskip : (!isTruthy crr || status ≠ some "success") = true
          · simp only [hskip,if_true,hcrr,false_and,if_false,Option.getD_none]
          · simp only [hskip,hcrr,false_and,if_false]
            rfl
  | fileIou =>
    by_cases hlocated : located = some "success" <;>
      simp [metricScore,Scores.get,LeaderboardRow.scores,ResearchRow.leaderboardColumns,hlocated]
  | funcIou =>
    by_cases hlocated : located = some "success" <;>
      simp [metricScore,Scores.get,LeaderboardRow.scores,ResearchRow.leaderboardColumns,hlocated]

/-- The row is of another judge than the one selected. -/
def MetricSpec.skips (metric : MetricSpec) (row : ResearchRow) : Bool :=
  metric.id = .epr && isTruthy metric.judgeName && row.judgeName ≠ metric.judgeName

/-- The map `bugRuns`: of the rows that are not skipped the first one of each patch. -/
def researchRuns (metric : MetricSpec) : Collection ResearchRow String ℕ ResearchRun where
  group := ResearchRow.bugId
  id? row := if metric.skips row then none else row.agentPatchId
  make row agentPatchId := ⟨agentPatchId,row.unionId.getD 0,metricScore row metric.id⟩
  idOf := ResearchRun.agentPatchId
  idOf_make _ _ := rfl

def sortResearchRuns (runs : List ResearchRun) : List ResearchRun :=
  sortOn (fun run => (run.unionId,run.agentPatchId)) runs

/-- The code units of a text, by which `sort` orders texts. -/
def utf16 (text : String) : List ℕ :=
  text.toList.flatMap fun c =>
    let n := c.toNat
    if n < 0x10000 then [n] else [0xd800+(n-0x10000)/0x400,0xdc00+(n-0x10000)%0x400]

/-- `Array.from(new Set(rows.map((row) => row.bugId))).sort()`. -/
def metricBugIds (rows : List ResearchRow) : List String :=
  (rows.map ResearchRow.bugId).dedup.insertionSort fun a b =>
    (utf16 b).lex (utf16 a) (fun m n => m < n) = false

/-- One pass of the loop over the bugs. -/
def metricPass (metric : MetricSpec) (bugRuns : OrderedMap String (List ResearchRun))
    (state : ℕ × List ℚ) (bugId : String) : ℕ × List ℚ :=
  let runs := (sortResearchRuns (Collection.members bugRuns bugId)).take metric.k
  if runs.length < metric.k then (state.1+runs.length,state.2)
  else (state.1+runs.length,
    state.2 ++ [bugValue metric.aggregation metric.k (runs.map fun run => run.score.getD 0)])

def metricId : ScoreKey → String
  | .crr => "crr"
  | .epr => "epr"
  | .fileIou => "file_iou"
  | .funcIou => "func_iou"

def metricName : ScoreKey → String
  | .crr => "CRR"
  | .epr => "EPR"
  | .fileIou => "File IoU"
  | .funcIou => "Func IoU"

def aggregationText : Aggregation → String
  | .pass => "pass"
  | .mean => "mean"

def calculateMetric (rows : List ResearchRow) (metric : MetricSpec) : MetricCell :=
  let bugRuns := (researchRuns metric).collect rows
  let bugIds := metricBugIds rows
  let (availableRuns,bugValues) := bugIds.foldl (metricPass metric bugRuns) (0,[])
  let suffix := if isTruthy metric.judgeName then "_" ++ metric.judgeName.getD "" else ""
  { metricKey :=
      s!"{metricId metric.id}_{aggregationText metric.aggregation}@{metric.k}" ++ suffix
    label := s!"{metricName metric.id} {aggregationText metric.aggregation}@{metric.k}"
    value :=
      if bugValues.length = bugIds.length ∧ bugValues.length > 0 then some (mean bugValues)
      else none
    availableRuns := availableRuns
    requiredRuns := bugIds.length*metric.k
    bugCount := bugIds.length }

/-- The order of texts and numbers in a query, nulls first. -/
def nullsFirst {α : Type*} (before : α → α → Bool) : Option α → Option α → Bool
  | none, some _ => true
  | some a, some b => before a b
  | _, none => false

/-- `ORDER BY bugId, unionId, agentPatchId, judgeName`: the first row comes before the second. -/
def ResearchRow.before (a b : ResearchRow) : Bool :=
  textBefore a.bugId.toList b.bugId.toList || (a.bugId = b.bugId &&
    (nullsFirst (fun m n => m < n) a.unionId b.unionId || (a.unionId = b.unionId &&
      (nullsFirst (fun m n => m < n) a.agentPatchId b.agentPatchId ||
        (a.agentPatchId = b.agentPatchId &&
          nullsFirst (fun s t => textBefore s.toList t.toList) a.judgeName b.judgeName)))))

section Query
variable (db : Database) (datasetId : ℕ)

/-- A row with the configuration that its patch is joined to. -/
structure FetchedRow where
  agentConfigId : Option ℕ
  row : ResearchRow
  deriving DecidableEq, Repr

def researchRow (bugId : String) (ap : Option AgentPatch)
    (crr : Option PatchCrashResolutionEvaluation) (llm : Option PatchLLMJudgeEvaluation)
    (ljc : Option LLMJudgeConfiguration) (loc : Option PatchLocalizationEvaluation) :
    ResearchRow where
  bugId := bugId
  agentPatchId := ap.map AgentPatch.agentPatchId
  unionId := ap.map AgentPatch.unionId
  judgeName := ljc.map LLMJudgeConfiguration.judgeName
  crrEvaluation := (crr.bind PatchCrashResolutionEvaluation.kGymEvaluation).map Evaluation.text
  llmStatus := llm.map PatchLLMJudgeEvaluation.status
  yesCount := llm.bind PatchLLMJudgeEvaluation.yesCount
  noCount := llm.bind PatchLLMJudgeEvaluation.noCount
  fileEvaluation := loc.map PatchLocalizationEvaluation.fileEvaluation
  functionEvaluation := loc.map PatchLocalizationEvaluation.functionEvaluation
  localizationStatus := loc.map PatchLocalizationEvaluation.status

/-- The rows that the joins after `agent_patches` make of a patch on a bug, or of none. -/
def fetchedRows (bugId : String) (ap : Option AgentPatch) : List FetchedRow :=
  (matches? db.agentConfigurations.rows fun ac =>
    ap.any fun ap => ac.agentConfigId = ap.agentConfigId).flatMap fun ac =>
  (matches? db.patchCrashResolutionEvaluations.rows fun crr => onPatch ap crr.agentPatchId).flatMap
    fun crr =>
  (matches? db.patchLLMJudgeEvaluations.rows fun llm => onPatch ap llm.agentPatchId).flatMap
    fun llm =>
  (matches? db.llmJudgeConfigurations.rows fun ljc =>
    llm.any fun llm => ljc.judgeId = llm.judgeId).flatMap fun ljc =>
  (matches? db.patchLocalizationEvaluations.rows fun loc => onPatch ap loc.agentPatchId).map
    fun loc => ⟨ac.map AgentConfiguration.agentConfigId,researchRow bugId ap crr llm ljc loc⟩

/-- The rows of a bug, once for each developer patch. -/
def bugRows (bugId : String) : List FetchedRow :=
  (matches? db.developerPatches.rows fun dp => dp.bugId = bugId).flatMap fun dp =>
  (matches? db.patches.rows fun devPatch =>
    dp.any fun dp => devPatch.patchId = dp.patchId).flatMap fun _ =>
  (matches? db.agentPatches.rows fun ap => ap.bugId = bugId).flatMap (fetchedRows db bugId)

def joinedRows : List FetchedRow :=
  (innerJoin (db.bugDatasetMembers.rows.filter fun bdm => bdm.datasetId = datasetId)
    db.syzbotBugs.rows fun bdm b => b.bugId = bdm.bugId).flatMap fun joined =>
      bugRows db joined.2.bugId

/-- The rows in the order of the query; rows that it does not tell apart may come in any order. -/
def fetchRows : List FetchedRow :=
  (joinedRows db datasetId).insertionSort fun a b => b.row.before a.row = false

end Query

/-- The rows of one configuration. -/
def restrictRows (rows : List FetchedRow) (agentConfigId : ℕ) : List ResearchRow :=
  (rows.filter fun row => row.agentConfigId = some agentConfigId).map FetchedRow.row

def MetricCell.cell (c : MetricCell) : Cell := ⟨c.value,c.availableRuns,c.requiredRuns⟩

/-- The scores that the cell of a metric counts, for each bug. -/
def metricScores (rows : List ResearchRow) (metric : MetricSpec) : List (List ℚ) :=
  (metricBugIds rows).map fun bugId =>
    ((sortResearchRuns (Collection.members ((researchRuns metric).collect rows) bugId)).take
      metric.k).map fun run => run.score.getD 0

/-- The score of the first research row about a patch. -/
def researchScoreOf (metric : MetricSpec) (rows : List ResearchRow) (bugId : String)
    (agentPatchId : ℕ) : Option ℚ :=
  (rows.find? ((researchRuns metric).IsFor bugId agentPatchId)).bind fun row =>
    metricScore row metric.id

theorem calculateMetric_cell (rows : List ResearchRow) (metric : MetricSpec) :
    (calculateMetric rows metric).cell =
      Cell.of metric.aggregation metric.k (metricScores rows metric) := by
  have hloop : (metricBugIds rows).foldl (metricPass metric ((researchRuns metric).collect rows))
      (0,[]) = (metricScores rows metric).foldl (Cell.pass metric.aggregation metric.k) (0,[]) := by
    rw [metricScores,List.foldl_map]
    congr 1
    funext state bugId
    simp only [metricPass,Cell.pass,List.length_map]
  have hcell := @cell_of_pass metric.aggregation metric.k (metricScores rows metric)
  have hlen : (metricScores rows metric).length = (metricBugIds rows).length := by
    simp [metricScores]
  rw [hlen,← hloop] at hcell
  exact hcell

theorem mem_metricBugIds {rows : List ResearchRow} {bugId : String} :
    bugId ∈ metricBugIds rows ↔ ∃ row ∈ rows, row.bugId = bugId := by
  rw [metricBugIds,List.mem_insertionSort,List.mem_dedup,List.mem_map]

theorem nodup_metricBugIds (rows : List ResearchRow) : (metricBugIds rows).Nodup :=
  (List.perm_insertionSort _ _).nodup_iff.mpr (List.nodup_dedup _)

end LiveKBench.KArenaWeb
