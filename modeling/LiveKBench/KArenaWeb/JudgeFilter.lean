import LiveKBench.KArenaWeb.ResearchQuery
import Mathlib.Algebra.BigOperators.Group.Finset.Basic
import Mathlib.Algebra.Order.BigOperators.Group.Finset
import Mathlib.Algebra.Order.BigOperators.Group.List
import Mathlib.Algebra.Order.Field.Rat

/-! What the choice of a judge does to the EPR of the research page. The rows of other judges are
dropped before the first runs of a bug are taken, so that the EPR may be about other runs than the
CRR, and then it may exceed it. -/
namespace LiveKBench.KArenaWeb
open Lib

/-- The same cell of another metric. -/
def MetricSpec.of (metric : MetricSpec) (scoreKey : ScoreKey) : MetricSpec :=
  { metric with id := scoreKey }

/-- If both cells are not null then the EPR is at most the CRR. -/
def EprAtMostCrr (rows : List ResearchRow) (metric : MetricSpec) : Prop :=
  ∀ epr ∈ (calculateMetric rows (metric.of .epr)).value,
    ∀ crr ∈ (calculateMetric rows (metric.of .crr)).value, epr ≤ crr

/-- The rows are in the order of `fetchRows`. -/
def Ordered (rows : List ResearchRow) : Prop := rows.Pairwise fun a b => b.before a = false

instance (rows : List ResearchRow) : Decidable (Ordered rows) :=
  inferInstanceAs (Decidable (rows.Pairwise fun a b => b.before a = false))

/-- The runs that the cell of a metric counts on a bug. -/
def firstRuns (rows : List ResearchRow) (metric : MetricSpec) (bugId : String) : List ℕ :=
  ((sortResearchRuns (Collection.members ((researchRuns metric).collect rows) bugId)).take
    metric.k).map ResearchRun.agentPatchId

/-- In the row that the metric reads of a run its patch stopped the crash. -/
def Resolved (rows : List ResearchRow) (metric : MetricSpec) (bugId : String) (agentPatchId : ℕ) :
    Prop :=
  ∃ row ∈ rows.find? ((researchRuns metric).IsFor bugId agentPatchId),
    row.crrEvaluation = some "notReproduced"

/-- Some bug has too few runs of the judge, so that the EPR is null. -/
def LacksRuns (rows : List ResearchRow) (metric : MetricSpec) : Prop :=
  ∃ bugId ∈ metricBugIds rows, (firstRuns rows (metric.of .epr) bugId).length < metric.k

/-- The judge brings no run among the first of a bug that is not there without the judge. -/
def KeepsRuns (rows : List ResearchRow) (metric : MetricSpec) : Prop :=
  LacksRuns rows metric ∨ ∀ bugId ∈ metricBugIds rows,
    ∀ i ∈ firstRuns rows (metric.of .epr) bugId, i ∈ firstRuns rows (metric.of .crr) bugId

/-- The judge brings no run whose patch stopped the crash among the first of a bug, unless the CRR
counts it as well. -/
def KeepsResolved (rows : List ResearchRow) (metric : MetricSpec) : Prop :=
  LacksRuns rows metric ∨ ∀ bugId ∈ metricBugIds rows,
    ∀ i ∈ firstRuns rows (metric.of .epr) bugId, Resolved rows (metric.of .epr) bugId i →
      i ∈ firstRuns rows (metric.of .crr) bugId ∧ Resolved rows (metric.of .crr) bugId i

section Scores
variable {rows : List ResearchRow} {metric : MetricSpec} {bugId : String} {row : ResearchRow}

lemma isFor_researchRuns {i : ℕ} : (researchRuns metric).IsFor bugId i row = true ↔
    row.bugId = bugId ∧ metric.skips row = false ∧ row.agentPatchId = some i := by
  rw [Collection.IsFor,Bool.and_eq_true,decide_eq_true_iff,decide_eq_true_iff]
  simp only [researchRuns]
  cases metric.skips row <;> simp

lemma nodup_firstRuns : (firstRuns rows metric bugId).Nodup := by
  have hruns : ((sortResearchRuns (Collection.members ((researchRuns metric).collect rows)
      bugId)).map ResearchRun.agentPatchId).Nodup :=
    ((perm_sortOn _).map _).nodup_iff.mpr
      (Collection.nodup_collect (c := researchRuns metric) rows bugId)
  exact hruns.sublist ((List.take_sublist _ _).map _)

/-- A counted run has a row. -/
lemma exists_row_of_mem_firstRuns {i : ℕ} (h : i ∈ firstRuns rows metric bugId) :
    ∃ row, rows.find? ((researchRuns metric).IsFor bugId i) = some row := by
  obtain ⟨run,hrun,rfl⟩ := List.mem_map.mp h
  obtain ⟨row,i,hrow,rfl⟩ :=
    (Collection.mem_collect rows bugId run).mp (mem_sortOn.mp (List.mem_of_mem_take hrun))
  exact ⟨row,hrow⟩

/-- The counted scores are those of the rows that the metric reads of the counted runs. -/
theorem metricScores_eq : metricScores rows metric = (metricBugIds rows).map fun bugId =>
    (firstRuns rows metric bugId).map fun i =>
      (researchScoreOf metric rows bugId i).getD 0 := by
  unfold metricScores firstRuns
  apply List.map_congr_left
  intro bugId _
  rw [List.map_map]
  apply List.map_congr_left
  intro run hrun
  obtain ⟨row,i,hrow,rfl⟩ :=
    (Collection.mem_collect rows bugId run).mp (mem_sortOn.mp (List.mem_of_mem_take hrun))
  change (metricScore row metric.id).getD 0 = (researchScoreOf metric rows bugId i).getD 0
  rw [researchScoreOf,hrow,Option.bind_some]

theorem value_calculateMetric : (calculateMetric rows metric).value =
    if Complete metric.k (metricScores rows metric) then
      some (mean ((metricBugIds rows).map fun bugId => bugValue metric.aggregation metric.k
        ((firstRuns rows metric bugId).map fun i =>
          (researchScoreOf metric rows bugId i).getD 0)))
    else none := by
  have hcell := congrArg Cell.value (calculateMetric_cell rows metric)
  have hmap : (metricScores rows metric).map (bugValue metric.aggregation metric.k) =
      (metricBugIds rows).map fun bugId => bugValue metric.aggregation metric.k
        ((firstRuns rows metric bugId).map fun i =>
          (researchScoreOf metric rows bugId i).getD 0) := by
    rw [metricScores_eq,List.map_map]
    rfl
  rw [← hmap]
  exact hcell

lemma complete_metricScores : Complete metric.k (metricScores rows metric) ↔
    metricBugIds rows ≠ [] ∧
      ∀ bugId ∈ metricBugIds rows, metric.k ≤ (firstRuns rows metric bugId).length := by
  rw [metricScores_eq,Complete,ne_eq,List.map_eq_nil_iff]
  simp only [List.forall_mem_map,List.length_map]

lemma crrScore (row : ResearchRow) : (metricScore row .crr).getD 0 =
    if row.crrEvaluation = some "notReproduced" then 1 else 0 := metricScore_getD row .crr

lemma eprScore_nonneg (row : ResearchRow) : 0 ≤ (metricScore row .epr).getD 0 := by
  rw [metricScore_getD]
  simp only [Scores.get,LeaderboardRow.scores]
  split <;> simp

/-- Only a patch that stopped the crash scores. -/
lemma eprScore_le (row : ResearchRow) :
    (metricScore row .epr).getD 0 ≤ (metricScore row .crr).getD 0 := by
  rw [metricScore_getD,metricScore_getD]
  simp only [Scores.get,LeaderboardRow.scores]
  split
  · rename_i hfixed
    rw [if_pos hfixed.1]
  · split <;> simp

/-- The score of a run in the CRR. -/
lemma crrScoreOf (rows : List ResearchRow) (metric : MetricSpec) (bugId : String) (i : ℕ) :
    0 ≤ (researchScoreOf (metric.of .crr) rows bugId i).getD 0 ∧
      (Resolved rows (metric.of .crr) bugId i →
        (researchScoreOf (metric.of .crr) rows bugId i).getD 0 = 1) := by
  unfold researchScoreOf Resolved
  cases rows.find? ((researchRuns (metric.of .crr)).IsFor bugId i) with
  | none => simp
  | some row =>
    have hscore := crrScore row
    simp only [Option.bind_some,MetricSpec.of,hscore]
    refine ⟨by split <;> simp,?_⟩
    rintro ⟨row',hrow',hresolved⟩
    obtain rfl := Option.some.inj hrow'
    rw [if_pos hresolved]

/-- The score of a run in the EPR. -/
lemma eprScoreOf (rows : List ResearchRow) (metric : MetricSpec) (bugId : String) (i : ℕ) :
    0 ≤ (researchScoreOf (metric.of .epr) rows bugId i).getD 0 ∧
      (researchScoreOf (metric.of .epr) rows bugId i).getD 0 ≤ 1 ∧
      (0 < (researchScoreOf (metric.of .epr) rows bugId i).getD 0 →
        Resolved rows (metric.of .epr) bugId i) := by
  unfold researchScoreOf Resolved
  cases rows.find? ((researchRuns (metric.of .epr)).IsFor bugId i) with
  | none => simp
  | some row =>
    have hle := eprScore_le row
    rw [crrScore] at hle
    refine ⟨eprScore_nonneg row,hle.trans (by split <;> simp),?_⟩
    intro hpos
    refine ⟨row,rfl,?_⟩
    by_contra hnot
    rw [if_neg hnot] at hle
    exact absurd hpos (not_lt.mpr hle)

end Scores

section Bound
variable {rows : List ResearchRow} {metric : MetricSpec} {J C : List ℕ} {e c : ℕ → ℚ}

/-- Where every run that scores in one list scores no less in the other, so does the bug. -/
lemma bugValue_le {aggregation : Aggregation} {k : ℕ} (hJ : J.Nodup) (hC : C.Nodup)
    (he : ∀ i, 0 ≤ e i) (hc : ∀ i, 0 ≤ c i) (h : ∀ i ∈ J, 0 < e i → i ∈ C ∧ e i ≤ c i) :
    bugValue aggregation k (J.map e) ≤ bugValue aggregation k (C.map c) := by
  cases aggregation with
  | pass =>
    simp only [bugValue]
    by_cases hany : (J.map e).any fun score => score > 0
    · obtain ⟨score,hscore,hpos⟩ := List.any_eq_true.mp hany
      obtain ⟨i,hi,rfl⟩ := List.mem_map.mp hscore
      have hpos : 0 < e i := by simpa using hpos
      obtain ⟨hiC,hle⟩ := h i hi hpos
      have hanyC : (C.map c).any fun score => score > 0 := by
        rw [List.any_eq_true]
        exact ⟨c i,List.mem_map_of_mem hiC,by simpa using hpos.trans_le hle⟩
      rw [if_pos hany,if_pos hanyC]
    · rw [if_neg hany]
      split <;> simp
  | mean =>
    simp only [bugValue,total_eq_sum]
    have hsum : (J.map e).sum ≤ (C.map c).sum := by
      rw [← List.sum_toFinset e hJ,← List.sum_toFinset c hC]
      calc ∑ i ∈ J.toFinset, e i = ∑ i ∈ J.toFinset with 0 < e i, e i := by
            rw [Finset.sum_filter]
            apply Finset.sum_congr rfl
            intro i _
            split
            · rfl
            · rename_i hnot
              exact le_antisymm (not_lt.mp hnot) (he i)
        _ ≤ ∑ i ∈ J.toFinset with 0 < e i, c i := by
            apply Finset.sum_le_sum
            intro i hi
            obtain ⟨hiJ,hpos⟩ := Finset.mem_filter.mp hi
            exact (h i (List.mem_toFinset.mp hiJ) hpos).2
        _ ≤ ∑ i ∈ C.toFinset, c i := by
            apply Finset.sum_le_sum_of_subset_of_nonneg
            · intro i hi
              obtain ⟨hiJ,hpos⟩ := Finset.mem_filter.mp hi
              exact List.mem_toFinset.mpr (h i (List.mem_toFinset.mp hiJ) hpos).1
            · intro i _ _
              exact hc i
    exact div_le_div_of_nonneg_right hsum (Nat.cast_nonneg k)

/-- A bug with one run that scores has a value. -/
lemma bugValue_pos {aggregation : Aggregation} {k i : ℕ} (hk : k ≠ 0) (hi : i ∈ J) (hpos : 0 < e i)
    (he : ∀ j ∈ J, 0 ≤ e j) : 0 < bugValue aggregation k (J.map e) := by
  cases aggregation with
  | pass =>
    have hany : (J.map e).any fun score => score > 0 := by
      rw [List.any_eq_true]
      exact ⟨e i,List.mem_map_of_mem hi,by simpa using hpos⟩
    simp only [bugValue]
    rw [if_pos hany]
    exact one_pos
  | mean =>
    simp only [bugValue,total_eq_sum]
    apply div_pos
    · have hle : e i ≤ (J.map e).sum := List.single_le_sum
        (List.forall_mem_map.mpr he) _ (List.mem_map_of_mem hi)
      exact hpos.trans_le hle
    · exact Nat.cast_pos.mpr (Nat.pos_of_ne_zero hk)

lemma bugValue_zero {aggregation : Aggregation} {k : ℕ} (hc : ∀ i ∈ C, c i = 0) :
    bugValue aggregation k (C.map c) = 0 := by
  have hzero : C.map c = C.map fun _ => 0 := List.map_congr_left hc
  rw [hzero]
  cases aggregation with
  | pass => simp [bugValue]
  | mean => simp [bugValue,total_eq_sum]

lemma bugValue_nonneg {aggregation : Aggregation} {k : ℕ} (hc : ∀ i ∈ C, 0 ≤ c i) :
    0 ≤ bugValue aggregation k (C.map c) := by
  cases aggregation with
  | pass =>
    simp only [bugValue]
    split <;> simp
  | mean =>
    simp only [bugValue,total_eq_sum]
    exact div_nonneg (List.sum_nonneg (List.forall_mem_map.mpr hc)) (Nat.cast_nonneg k)

lemma mean_zero {bugIds : List String} {f : String → ℚ} (h : ∀ bugId ∈ bugIds, f bugId = 0) :
    mean (bugIds.map f) = 0 := by
  have hzero : bugIds.map f = bugIds.map fun _ => 0 := List.map_congr_left h
  rw [hzero]
  simp [mean_eq]

lemma mean_pos {bugIds : List String} {f : String → ℚ} {bugId : String} (hbug : bugId ∈ bugIds)
    (hpos : 0 < f bugId) (hf : ∀ b ∈ bugIds, 0 ≤ f b) : 0 < mean (bugIds.map f) := by
  rw [mean_eq]
  apply div_pos
  · have hle : f bugId ≤ (bugIds.map f).sum := List.single_le_sum
      (List.forall_mem_map.mpr hf) _ (List.mem_map_of_mem hbug)
    exact hpos.trans_le hle
  · rw [List.length_map]
    exact Nat.cast_pos.mpr (List.length_pos_of_mem hbug)

lemma mean_map_le {bugIds : List String} {f g : String → ℚ} (h : ∀ bugId ∈ bugIds, f bugId ≤ g bugId) :
    mean (bugIds.map f) ≤ mean (bugIds.map g) := by
  rw [mean_eq,mean_eq,List.length_map,List.length_map]
  exact div_le_div_of_nonneg_right (List.sum_le_sum h) (Nat.cast_nonneg _)

/-- A cell that is not null has its runs on every bug. -/
lemma of_mem_value {value : ℚ} (h : value ∈ (calculateMetric rows metric).value) :
    (∀ bugId ∈ metricBugIds rows, metric.k ≤ (firstRuns rows metric bugId).length) ∧
      value = mean ((metricBugIds rows).map fun bugId => bugValue metric.aggregation metric.k
        ((firstRuns rows metric bugId).map fun i =>
          (researchScoreOf metric rows bugId i).getD 0)) := by
  rw [value_calculateMetric,Option.mem_def] at h
  split at h
  · rename_i hcomplete
    exact ⟨(complete_metricScores.mp hcomplete).2,(Option.some.inj h).symm⟩
  · exact absurd h (by simp)

/-- Without a run of the judge's that only the EPR counts it is at most the CRR. -/
theorem eprAtMostCrr_of_keepsResolved (h : KeepsResolved rows metric) :
    EprAtMostCrr rows metric := by
  intro epr hepr crr hcrr
  obtain ⟨hruns,rfl⟩ := of_mem_value hepr
  obtain ⟨-,rfl⟩ := of_mem_value hcrr
  obtain ⟨bugId,hbug,hlacks⟩ | hkeeps := h
  · exact absurd hlacks (not_lt.mpr (hruns bugId hbug))
  · apply mean_map_le
    intro bugId hbug
    apply bugValue_le nodup_firstRuns nodup_firstRuns
    · exact fun i => (eprScoreOf rows metric bugId i).1
    · exact fun i => (crrScoreOf rows metric bugId i).1
    · intro i hi hpos
      obtain ⟨-,hle,hresolved⟩ := eprScoreOf rows metric bugId i
      obtain ⟨hmem,hcounted⟩ := hkeeps bugId hbug i hi (hresolved hpos)
      rw [(crrScoreOf rows metric bugId i).2 hcounted]
      exact ⟨hmem,hle⟩

end Bound

/-- The columns that say which runs a bug has, and whose judgement a row holds. -/
structure RowLayout where
  bugId : String
  agentPatchId : Option ℕ
  unionId : Option ℤ
  judgeName : Option String
  deriving DecidableEq, Repr

def ResearchRow.layout (row : ResearchRow) : RowLayout :=
  ⟨row.bugId,row.agentPatchId,row.unionId,row.judgeName⟩

/-- A row without evaluations. -/
def RowLayout.row (layout : RowLayout) : ResearchRow :=
  ⟨layout.bugId,layout.agentPatchId,layout.unionId,layout.judgeName,none,none,none,none,none,none,
    none⟩

def SameLayout (rows rows' : List ResearchRow) : Prop :=
  rows'.map ResearchRow.layout = rows.map ResearchRow.layout

/-- Each patch has one verdict about the crash. -/
def OneVerdict (rows : List ResearchRow) : Prop :=
  ∀ row ∈ rows, ∀ row' ∈ rows, row.bugId = row'.bugId → row.agentPatchId = row'.agentPatchId →
    row.crrEvaluation = row'.crrEvaluation

/-- The runs of a bug without their scores. -/
def layoutRuns (metric : MetricSpec) : Collection RowLayout String ℕ (ℤ × ℕ) where
  group := RowLayout.bugId
  id? layout :=
    if metric.id = .epr && isTruthy metric.judgeName && layout.judgeName ≠ metric.judgeName then none
    else layout.agentPatchId
  make layout agentPatchId := (layout.unionId.getD 0,agentPatchId)
  idOf := Prod.snd
  idOf_make _ _ := rfl

section Layout
variable {rows rows' : List ResearchRow} {metric : MetricSpec} {bugId : String}

/-- Which runs are counted can be told from the layout. -/
theorem firstRuns_eq : firstRuns rows metric bugId =
    ((sortOn (fun run => run) (Collection.members
      ((layoutRuns metric).collect (rows.map ResearchRow.layout)) bugId)).take metric.k).map
        Prod.snd := by
  have hruns : (Collection.members ((layoutRuns metric).collect (rows.map ResearchRow.layout))
      bugId).map (fun run => run) = (Collection.members ((researchRuns metric).collect rows)
        bugId).map fun run => (run.unionId,run.agentPatchId) := by
    refine Collection.members_congr (g := Prod.snd) ?_ ?_ ?_ ?_ ?_ rows bugId <;> intros <;> rfl
  rw [List.map_id'] at hruns
  rw [hruns,sortOn_map,← List.map_take,List.map_map]
  rfl

theorem firstRuns_of_sameLayout (h : SameLayout rows rows') :
    firstRuns rows' metric bugId = firstRuns rows metric bugId := by
  rw [firstRuns_eq,firstRuns_eq,h]

lemma metricBugIds_of_sameLayout (h : SameLayout rows rows') :
    metricBugIds rows' = metricBugIds rows := by
  have hbugs : rows'.map ResearchRow.bugId = rows.map ResearchRow.bugId := by
    have hmap := congrArg (List.map RowLayout.bugId) h
    rw [List.map_map,List.map_map] at hmap
    exact hmap
  rw [metricBugIds,metricBugIds,hbugs]

/-- The order of the query is one of layouts. -/
theorem ordered_of_sameLayout (h : SameLayout rows rows') (hordered : Ordered rows) :
    Ordered rows' := by
  have hlayout : ∀ rows : List ResearchRow, Ordered rows ↔
      (rows.map ResearchRow.layout).Pairwise fun a b => b.row.before a.row = false := by
    intro rows
    rw [Ordered,List.pairwise_map]
    rfl
  rw [hlayout,h,← hlayout]
  exact hordered

/-- Without a judge both metrics count the same runs. -/
lemma firstRuns_of_no_judge (hjudge : isTruthy metric.judgeName = false) :
    firstRuns rows (metric.of .epr) bugId = firstRuns rows (metric.of .crr) bugId := by
  have hruns : layoutRuns (metric.of .epr) = layoutRuns (metric.of .crr) := by
    simp [layoutRuns,MetricSpec.of,hjudge]
  rw [firstRuns_eq,firstRuns_eq,hruns]
  rfl

/-- Without a judge both metrics read the same rows. -/
lemma resolved_of_no_judge (hjudge : isTruthy metric.judgeName = false) {i : ℕ} :
    Resolved rows (metric.of .epr) bugId i ↔ Resolved rows (metric.of .crr) bugId i := by
  have hfor : (researchRuns (metric.of .epr)).IsFor bugId i =
      (researchRuns (metric.of .crr)).IsFor bugId i := by
    funext row
    have hskips : ∀ scoreKey, (metric.of scoreKey).skips row = false := by
      intro scoreKey
      simp [MetricSpec.skips,MetricSpec.of,hjudge]
    rw [Bool.eq_iff_iff,isFor_researchRuns,isFor_researchRuns,hskips,hskips]
  rw [Resolved,Resolved,hfor]

/-- Without a judge the EPR is at most the CRR. -/
theorem eprAtMostCrr_of_no_judge (hjudge : isTruthy metric.judgeName = false) :
    EprAtMostCrr rows metric := by
  apply eprAtMostCrr_of_keepsResolved
  refine .inr fun bugId _ i hi hresolved => ?_
  exact ⟨firstRuns_of_no_judge hjudge ▸ hi,(resolved_of_no_judge hjudge).mp hresolved⟩

/-- With one verdict for each patch it does not matter which of its rows is read. -/
theorem keepsResolved_of_keepsRuns (hverdict : OneVerdict rows) (h : KeepsRuns rows metric) :
    KeepsResolved rows metric := by
  refine h.imp_right fun hkeeps bugId hbug i hi hresolved => ?_
  have hmem := hkeeps bugId hbug i hi
  refine ⟨hmem,?_⟩
  obtain ⟨row,hrow,hcrr⟩ := hresolved
  obtain ⟨row',hrow'⟩ := exists_row_of_mem_firstRuns hmem
  obtain ⟨hb,-,hp⟩ := isFor_researchRuns.mp (List.find?_some hrow)
  obtain ⟨hb',-,hp'⟩ := isFor_researchRuns.mp (List.find?_some hrow')
  refine ⟨row',hrow',?_⟩
  rw [← hverdict row (List.mem_of_find?_eq_some hrow) row' (List.mem_of_find?_eq_some hrow')
    (hb.trans hb'.symm) (hp.trans hp'.symm)]
  exact hcrr

lemma keepsRuns_of_sameLayout (h : SameLayout rows rows') :
    KeepsRuns rows' metric ↔ KeepsRuns rows metric := by
  simp only [KeepsRuns,LacksRuns,metricBugIds_of_sameLayout h,firstRuns_of_sameLayout h]

/-- The judge takes runs away from a bug and adds none. -/
lemma length_firstRuns_le : (firstRuns rows (metric.of .epr) bugId).length ≤
    (firstRuns rows (metric.of .crr) bugId).length := by
  have hsub : (Collection.members ((researchRuns (metric.of .epr)).collect rows) bugId).map
      ResearchRun.agentPatchId ⊆ (Collection.members
        ((researchRuns (metric.of .crr)).collect rows) bugId).map ResearchRun.agentPatchId := by
    intro j hj
    obtain ⟨run,hrun,rfl⟩ := List.mem_map.mp hj
    obtain ⟨row,i,hrow,rfl⟩ := (Collection.mem_collect rows bugId run).mp hrun
    obtain ⟨hb,-,hp⟩ := isFor_researchRuns.mp (List.find?_some hrow)
    have hfound : (rows.find? ((researchRuns (metric.of .crr)).IsFor bugId i)).isSome :=
      List.find?_isSome.mpr ⟨row,List.mem_of_find?_eq_some hrow,
        isFor_researchRuns.mpr ⟨hb,rfl,hp⟩⟩
    obtain ⟨row',hrow'⟩ := Option.isSome_iff_exists.mp hfound
    exact List.mem_map.mpr ⟨_,(Collection.mem_collect rows bugId _).mpr ⟨row',i,hrow',rfl⟩,rfl⟩
  have hlen := (List.Nodup.subperm
    (Collection.nodup_collect (c := researchRuns (metric.of .epr)) rows bugId) hsub).length_le
  rw [List.length_map,List.length_map] at hlen
  simp only [firstRuns,sortResearchRuns,List.length_map,List.length_take,length_sortOn]
  exact min_le_min_left _ hlen

/-- The row evaluated so that the patch `agentPatchId` alone stops its crash and every judge accepts
every patch. -/
def ResearchRow.resolvedOnly (bugId : String) (agentPatchId : ℕ) (row : ResearchRow) :
    ResearchRow :=
  { row with
    crrEvaluation := if row.bugId = bugId ∧ row.agentPatchId = some agentPatchId
      then some "notReproduced" else some "reproduced"
    llmStatus := some "success"
    yesCount := some 1
    noCount := some 0 }

lemma sameLayout_resolvedOnly {i : ℕ} :
    SameLayout rows (rows.map (ResearchRow.resolvedOnly bugId i)) := by
  rw [SameLayout,List.map_map]
  rfl

lemma oneVerdict_resolvedOnly {i : ℕ} :
    OneVerdict (rows.map (ResearchRow.resolvedOnly bugId i)) := by
  intro row hrow row' hrow' hb hp
  obtain ⟨a,-,rfl⟩ := List.mem_map.mp hrow
  obtain ⟨a',-,rfl⟩ := List.mem_map.mp hrow'
  change a.bugId = a'.bugId at hb
  change a.agentPatchId = a'.agentPatchId at hp
  simp only [ResearchRow.resolvedOnly,hb,hp]

/-- The score of a counted run after `resolvedOnly`. -/
lemma researchScoreOf_resolvedOnly {b : String} {i j : ℕ} {scoreKey : ScoreKey}
    (hkey : scoreKey = .epr ∨ scoreKey = .crr)
    (h : j ∈ firstRuns rows (metric.of scoreKey) b) :
    (researchScoreOf (metric.of scoreKey) (rows.map (ResearchRow.resolvedOnly bugId i)) b j).getD 0
      = if b = bugId ∧ j = i then 1 else 0 := by
  rw [← firstRuns_of_sameLayout (@sameLayout_resolvedOnly rows bugId i)] at h
  obtain ⟨row,hrow⟩ := exists_row_of_mem_firstRuns h
  obtain ⟨a,-,rfl⟩ := List.mem_map.mp (List.mem_of_find?_eq_some hrow)
  obtain ⟨hb,-,hp⟩ := isFor_researchRuns.mp (List.find?_some hrow)
  change a.bugId = b at hb
  change a.agentPatchId = some j at hp
  rw [researchScoreOf,hrow,Option.bind_some,metricScore_getD]
  by_cases hij : b = bugId ∧ j = i
  · obtain rfl | rfl := hkey <;>
      simp [MetricSpec.of,Scores.get,LeaderboardRow.scores,LeaderboardRow.majority,
        ResearchRow.leaderboardColumns,ResearchRow.resolvedOnly,hb,hp,hij]
  · obtain rfl | rfl := hkey <;>
      simp [MetricSpec.of,Scores.get,LeaderboardRow.scores,
        ResearchRow.leaderboardColumns,ResearchRow.resolvedOnly,hb,hp,hij]

/-- The cells after `resolvedOnly`: the counted runs of one patch score and no others do. -/
lemma value_resolvedOnly {i : ℕ} {scoreKey : ScoreKey} (hkey : scoreKey = .epr ∨ scoreKey = .crr)
    (hsome : metricBugIds rows ≠ []) (hruns : ¬ LacksRuns rows metric) :
    (calculateMetric (rows.map (ResearchRow.resolvedOnly bugId i)) (metric.of scoreKey)).value =
      some (mean ((metricBugIds rows).map fun b => bugValue metric.aggregation metric.k
        ((firstRuns rows (metric.of scoreKey) b).map fun j =>
          if b = bugId ∧ j = i then (1 : ℚ) else 0))) := by
  have hlayout := @sameLayout_resolvedOnly rows bugId i
  have hcomplete : Complete (metric.of scoreKey).k
      (metricScores (rows.map (ResearchRow.resolvedOnly bugId i)) (metric.of scoreKey)) := by
    apply complete_metricScores.mpr
    rw [metricBugIds_of_sameLayout hlayout]
    refine ⟨hsome,fun b hb => ?_⟩
    rw [firstRuns_of_sameLayout hlayout]
    have hepr : metric.k ≤ (firstRuns rows (metric.of .epr) b).length :=
      not_lt.mp fun hlacks => hruns ⟨b,hb,hlacks⟩
    obtain rfl | rfl := hkey
    · exact hepr
    · exact hepr.trans length_firstRuns_le
  rw [value_calculateMetric,if_pos hcomplete,metricBugIds_of_sameLayout hlayout]
  congr 2
  apply List.map_congr_left
  intro b _
  rw [firstRuns_of_sameLayout hlayout]
  congr 1
  apply List.map_congr_left
  intro j hj
  exact researchScoreOf_resolvedOnly hkey hj

/-- A run that only the EPR counts can raise it above the CRR. -/
theorem keepsRuns_of_eprAtMostCrr
    (h : ∀ rows', SameLayout rows rows' → OneVerdict rows' → EprAtMostCrr rows' metric) :
    KeepsRuns rows metric := by
  by_contra hnot
  obtain ⟨hruns,hnot⟩ := not_or.mp hnot
  push Not at hnot
  obtain ⟨bugId,hbug,i,hi,hnew⟩ := hnot
  have hsome : metricBugIds rows ≠ [] := List.ne_nil_of_mem hbug
  have hle := h _ (@sameLayout_resolvedOnly rows bugId i) oneVerdict_resolvedOnly _
    (Option.mem_def.mpr (value_resolvedOnly (.inl rfl) hsome hruns)) _
    (Option.mem_def.mpr (value_resolvedOnly (.inr rfl) hsome hruns))
  have hk : metric.k ≠ 0 := by
    intro hk
    rw [firstRuns,show (metric.of .epr).k = 0 from hk] at hi
    simp at hi
  -- No run of the CRR scores, so that it is zero; the bug has a run of the EPR that scores.
  have hzero : mean ((metricBugIds rows).map fun b => bugValue metric.aggregation metric.k
      ((firstRuns rows (metric.of .crr) b).map fun j =>
        if b = bugId ∧ j = i then (1 : ℚ) else 0)) = 0 := by
    apply mean_zero
    intro b _
    apply bugValue_zero
    intro j hj
    rw [if_neg]
    rintro ⟨rfl,rfl⟩
    exact hnew hj
  have hpos : 0 < mean ((metricBugIds rows).map fun b => bugValue metric.aggregation metric.k
      ((firstRuns rows (metric.of .epr) b).map fun j =>
        if b = bugId ∧ j = i then (1 : ℚ) else 0)) := by
    apply mean_pos hbug
    · exact bugValue_pos hk hi (by simp) (fun j _ => by split <;> simp)
    · intro b _
      exact bugValue_nonneg fun j _ => by split <;> simp
  rw [hzero] at hle
  exact absurd hpos (not_lt.mpr hle)

/-- The EPR is at most the CRR if the choice of the judge brings no resolved run among the first of
a bug which the CRR does not count. For a layout of the rows in which it brings any run there at
all, some evaluation of the patches puts the EPR above the CRR; otherwise none does. -/
theorem eprAtMostCrr_judged (rows : List ResearchRow) (metric : MetricSpec) :
    (KeepsResolved rows metric → EprAtMostCrr rows metric) ∧
      ((∀ rows', SameLayout rows rows' → OneVerdict rows' → EprAtMostCrr rows' metric) ↔
        KeepsRuns rows metric) := by
  refine ⟨eprAtMostCrr_of_keepsResolved,keepsRuns_of_eprAtMostCrr,?_⟩
  intro hkeeps rows' hlayout hverdict
  exact eprAtMostCrr_of_keepsResolved
    (keepsResolved_of_keepsRuns hverdict ((keepsRuns_of_sameLayout hlayout).mpr hkeeps))

/-- A bug with two runs, of which the judge has judged the second only. -/
def judgedSecond : List ResearchRow :=
  [⟨"bug",some 1,some 0,none,some "reproduced",none,none,none,none,none,none⟩,
   ⟨"bug",some 2,some 1,some "judge",some "notReproduced",some "success",some 3,some 0,none,none,
     none⟩]

/-- With the judge the second run is the first, and it alone resolves the bug. -/
theorem not_eprAtMostCrr_judgedSecond : ¬ ∀ rows : List ResearchRow, Ordered rows →
    ∀ metric : MetricSpec, 1 ≤ metric.k → EprAtMostCrr rows metric := by
  intro h
  have hle := h judgedSecond (by decide) ⟨.epr,.mean,1,some "judge"⟩ (by decide) 1 (by decide +kernel)
    0 (by decide +kernel)
  exact absurd hle (by decide)

end Layout
end LiveKBench.KArenaWeb
