import LiveKBench.KArenaWeb.Cells
import Mathlib.Algebra.Order.BigOperators.Group.List
import Mathlib.Algebra.Order.Field.Basic
import Mathlib.Algebra.Order.Field.Rat
import Mathlib.Tactic.NormNum.Ineq
import Mathlib.Tactic.Positivity

/-! Laws of the leaderboard's cells: when a cell has a value, how the values of two cells compare,
and that a cell sorts the runs it shares with the others without changing them. -/
namespace LiveKBench.KArenaWeb
open Lib

/-! ## The arrays that the cells share -/

/-- `runs.sort(…)` on the array of a bug where it is stored; a bug without runs gets a new one. -/
def RunsByBug.sortInPlace (runsByBug : RunsByBug) (bugId : String) : RunsByBug :=
  match OrderedMap.value? runsByBug bugId with
  | none => runsByBug
  | some runs => OrderedMap.set runsByBug bugId (sortRuns runs)

/-- One pass of the loop over the bugs, on the shared arrays. -/
def cellPassInPlace (scoreKey : ScoreKey) (aggregation : Aggregation) (k : ℕ)
    (state : RunsByBug × ℕ × List ℚ) (bugId : String) : RunsByBug × ℕ × List ℚ :=
  let runsByBug := state.1.sortInPlace bugId
  let runs := (runsByBug.runs bugId).take k
  let availableRuns := state.2.1+runs.length
  if runs.length < k then (runsByBug,availableRuns,state.2.2)
  else (runsByBug,availableRuns,
    state.2.2 ++ [bugValue aggregation k (runs.map fun run => run.scores.get scoreKey)])

/-- `calculateCell`, and the arrays as it leaves them. -/
def calculateCellInPlace (scoreKey : ScoreKey) (aggregation : Aggregation) (bugIds : List String)
    (runsByBug : RunsByBug) (k : ℕ) : LeaderboardMetricCell × RunsByBug :=
  let (runsByBug,availableRuns,bugValues) :=
    bugIds.foldl (cellPassInPlace scoreKey aggregation k) (runsByBug,0,[])
  ({ key := (scoreKey,aggregation)
     label := s!"{metricLabel (scoreKey,aggregation)}@{k}"
     value :=
       if bugValues.length = bugIds.length ∧ bugValues.length > 0 then some (mean bugValues)
       else none
     availableRuns := availableRuns
     requiredRuns := bugIds.length*k },runsByBug)

/-- The cells of `calculateMetrics`, one after the other on the same arrays. -/
def calculateMetricsInPlace (bugIds : List String) (k : ℕ) :
    List (ScoreKey × Aggregation) → RunsByBug → List LeaderboardMetricCell × RunsByBug
  | [], runsByBug => ([],runsByBug)
  | metric :: metrics, runsByBug =>
    let (cell,runsByBug) := calculateCellInPlace metric.1 metric.2 bugIds runsByBug k
    let (cells,runsByBug) := calculateMetricsInPlace bugIds k metrics runsByBug
    (cell :: cells,runsByBug)

/-- The arrays of each bug sort to the same. -/
def SameSorted (r r' : RunsByBug) : Prop :=
  ∀ bugId, sortRuns (r.runs bugId) = sortRuns (r'.runs bugId)

section InPlace
variable {r r' r'' : RunsByBug} {scoreKey : ScoreKey} {aggregation : Aggregation} {k : ℕ}
  {bugIds : List String}

lemma SameSorted.trans (h : SameSorted r r') (h' : SameSorted r' r'') : SameSorted r r'' :=
  fun bugId => (h bugId).trans (h' bugId)

lemma runs_sortInPlace (bugId bugId' : String) : (r.sortInPlace bugId).runs bugId' =
    if bugId = bugId' then sortRuns (r.runs bugId) else r.runs bugId' := by
  unfold RunsByBug.sortInPlace
  cases hv : OrderedMap.value? r bugId with
  | none =>
    by_cases hb : bugId = bugId'
    · subst hb
      simp [RunsByBug.runs,hv,sortRuns,sortOn]
    · rw [if_neg hb]
  | some runs =>
    have hruns : r.runs bugId = runs := by simp [RunsByBug.runs,hv]
    rw [hruns,← runs_set]

lemma sameSorted_sortInPlace (r : RunsByBug) (bugId : String) :
    SameSorted (r.sortInPlace bugId) r := by
  intro bugId'
  rw [runs_sortInPlace]
  split
  · rename_i h
    subst h
    exact sortOn_sortOn _
  · rfl

/-- A pass on the arrays as the passes before have left them finds what one on the first arrays
finds. -/
lemma cellPassInPlace_eq (h : SameSorted r r') (counts : ℕ × List ℚ) (bugId : String) :
    cellPassInPlace scoreKey aggregation k (r,counts) bugId =
      (r.sortInPlace bugId,cellPass scoreKey aggregation r' k counts bugId) := by
  have hruns : (r.sortInPlace bugId).runs bugId = sortRuns (r'.runs bugId) := by
    rw [runs_sortInPlace,if_pos rfl,h bugId]
  simp only [cellPassInPlace,cellPass,hruns]
  split <;> rfl

lemma foldl_cellPassInPlace (h : SameSorted r r') (counts : ℕ × List ℚ) :
    (bugIds.foldl (cellPassInPlace scoreKey aggregation k) (r,counts)).2 =
        bugIds.foldl (cellPass scoreKey aggregation r' k) counts ∧
      SameSorted (bugIds.foldl (cellPassInPlace scoreKey aggregation k) (r,counts)).1 r' := by
  induction bugIds generalizing r counts with
  | nil => exact ⟨rfl,h⟩
  | cons bugId bugIds ih =>
    rw [List.foldl_cons,List.foldl_cons,cellPassInPlace_eq h]
    exact ih ((sameSorted_sortInPlace r bugId).trans h) _

/-- A cell on the shared arrays is the cell of the arrays as they were, and it leaves them so that
they sort to the same. -/
theorem calculateCellInPlace_spec (h : SameSorted r r') :
    (calculateCellInPlace scoreKey aggregation bugIds r k).1 =
        calculateCell scoreKey aggregation bugIds r' k ∧
      SameSorted (calculateCellInPlace scoreKey aggregation bugIds r k).2 r' := by
  obtain ⟨hcounts,hsorted⟩ :=
    @foldl_cellPassInPlace r r' scoreKey aggregation k bugIds h (0,[])
  refine ⟨?_,hsorted⟩
  simp only [calculateCellInPlace,calculateCell,hcounts]

theorem calculateMetricsInPlace_spec (h : SameSorted r r')
    (metrics : List (ScoreKey × Aggregation)) :
    (calculateMetricsInPlace bugIds k metrics r).1 =
        metrics.map (fun metric => calculateCell metric.1 metric.2 bugIds r' k) ∧
      SameSorted (calculateMetricsInPlace bugIds k metrics r).2 r' := by
  induction metrics generalizing r with
  | nil => exact ⟨rfl,h⟩
  | cons metric metrics ih =>
    obtain ⟨hcell,hsorted⟩ :=
      @calculateCellInPlace_spec r r' metric.1 metric.2 k bugIds h
    obtain ⟨hcells,hrest⟩ := ih hsorted
    refine ⟨?_,hrest⟩
    rw [calculateMetricsInPlace,List.map_cons,← hcell,← hcells]

end InPlace

/-! ## Values -/

section Values
variable {r : RunsByBug} {scoreKey scoreKey' : ScoreKey} {aggregation aggregation' : Aggregation}
  {k k' : ℕ} {bugIds : List String}

/-- The scores of a bug that a cell counts. -/
def countedOf (scoreKey : ScoreKey) (r : RunsByBug) (k : ℕ) (bugId : String) : List ℚ :=
  ((sortRuns (r.runs bugId)).take k).map fun run => run.scores.get scoreKey

def RunsByBug.InUnit (r : RunsByBug) : Prop :=
  ∀ bugId, ∀ run ∈ r.runs bugId, ∀ scoreKey,
    0 ≤ run.scores.get scoreKey ∧ run.scores.get scoreKey ≤ 1

lemma length_countedOf (bugId : String) :
    (countedOf scoreKey r k bugId).length = min k (r.runs bugId).length := by
  simp [countedOf,sortRuns]

/-- The value of a cell: none unless every bug of a list that is not empty has its runs. -/
theorem value_eq_some {v : ℚ} :
    (calculateCell scoreKey aggregation bugIds r k).value = some v ↔
      (bugIds ≠ [] ∧ ∀ bugId ∈ bugIds, k ≤ (r.runs bugId).length) ∧
        mean (bugIds.map fun bugId => bugValue aggregation k (countedOf scoreKey r k bugId)) = v := by
  have hcell : (calculateCell scoreKey aggregation bugIds r k).value =
      (Cell.of aggregation k (bugIds.map (countedOf scoreKey r k))).value :=
    congrArg Cell.value calculateCell_cell
  have hcomplete : Complete k (bugIds.map (countedOf scoreKey r k)) ↔
      bugIds ≠ [] ∧ ∀ bugId ∈ bugIds, k ≤ (r.runs bugId).length := by
    simp [Complete,length_countedOf]
  rw [hcell,Cell.of,← hcomplete,List.map_map]
  dsimp only
  split
  · rename_i h
    simp [h,Function.comp_def]
  · rename_i h
    simp [h]

theorem value_ne_none :
    (calculateCell scoreKey aggregation bugIds r k).value ≠ none ↔
      bugIds ≠ [] ∧ ∀ bugId ∈ bugIds, k ≤ (r.runs bugId).length := by
  rw [Option.ne_none_iff_exists']
  simp only [value_eq_some,exists_and_left,exists_eq',and_true]

lemma sum_min_le {α : Type*} (xs : List α) (f : α → ℕ) (k : ℕ) :
    (xs.map fun x => min k (f x)).sum ≤ xs.length*k := by
  induction xs with
  | nil => simp
  | cons x xs ih =>
    rw [List.map_cons,List.sum_cons,List.length_cons,Nat.succ_mul]
    omega

/-- Numbers of runs, none of them above `k`, add up to `k` for each bug only if each is `k`. -/
lemma sum_min_eq_iff {α : Type*} (xs : List α) (f : α → ℕ) (k : ℕ) :
    (xs.map fun x => min k (f x)).sum = xs.length*k ↔ ∀ x ∈ xs, k ≤ f x := by
  induction xs with
  | nil => simp
  | cons x xs ih =>
    have hrest := sum_min_le xs f k
    rw [List.map_cons,List.sum_cons,List.length_cons,Nat.succ_mul,List.forall_mem_cons,← ih]
    omega

theorem availableRuns_eq_iff :
    (calculateCell scoreKey aggregation bugIds r k).availableRuns =
        (calculateCell scoreKey aggregation bugIds r k).requiredRuns ↔
      ∀ bugId ∈ bugIds, k ≤ (r.runs bugId).length := by
  have havailable : (calculateCell scoreKey aggregation bugIds r k).availableRuns =
      (Cell.of aggregation k (bugIds.map (countedOf scoreKey r k))).availableRuns :=
    congrArg Cell.availableRuns calculateCell_cell
  have hsum : (Cell.of aggregation k (bugIds.map (countedOf scoreKey r k))).availableRuns =
      (bugIds.map fun bugId => min k (r.runs bugId).length).sum := by
    simp [Cell.of,Function.comp_def,length_countedOf]
  rw [havailable,hsum]
  exact sum_min_eq_iff bugIds (fun bugId => (r.runs bugId).length) k

/-! ## Comparisons -/

lemma mean_le_mean {α : Type*} {f g : α → ℚ} {xs : List α} (h : ∀ x ∈ xs, f x ≤ g x) :
    mean (xs.map f) ≤ mean (xs.map g) := by
  rw [mean_eq,mean_eq,List.length_map,List.length_map]
  exact div_le_div_of_nonneg_right (List.sum_le_sum h) (by positivity)

lemma mean_const {α : Type*} {xs : List α} (h : xs ≠ []) (q : ℚ) :
    mean (xs.map fun _ => q) = q := by
  have hlen : (xs.length : ℚ) ≠ 0 := by
    rw [Ne,Nat.cast_eq_zero,List.length_eq_zero_iff]
    exact h
  rw [mean_eq,List.length_map,List.map_const',List.sum_replicate,nsmul_eq_mul,
    mul_div_cancel_left₀ q hlen]

/-- Of two cells with values, one is at most the other if it is so bug by bug. -/
theorem value_le_value {r' : RunsByBug} {v v' : ℚ}
    (h : ∀ bugId ∈ bugIds, bugValue aggregation k (countedOf scoreKey r k bugId) ≤
      bugValue aggregation' k' (countedOf scoreKey' r' k' bugId))
    (hv : (calculateCell scoreKey aggregation bugIds r k).value = some v)
    (hv' : (calculateCell scoreKey' aggregation' bugIds r' k').value = some v') : v ≤ v' := by
  obtain ⟨-,rfl⟩ := value_eq_some.mp hv
  obtain ⟨-,rfl⟩ := value_eq_some.mp hv'
  exact mean_le_mean h

lemma bugValue_pass (scores : List ℚ) :
    bugValue .pass k scores = if ∃ score ∈ scores, 0 < score then 1 else 0 := by
  rw [bugValue]
  simp

lemma bugValue_mean (scores : List ℚ) : bugValue .mean k scores = scores.sum/k := by
  rw [bugValue,total_eq_sum]

lemma bugValue_pass_mono {scores scores' : List ℚ}
    (h : (∃ score ∈ scores, 0 < score) → ∃ score ∈ scores', 0 < score) :
    bugValue .pass k scores ≤ bugValue .pass k' scores' := by
  rw [bugValue_pass,bugValue_pass]
  by_cases hs : ∃ score ∈ scores, 0 < score
  · rw [if_pos hs,if_pos (h hs)]
  · rw [if_neg hs]
    split <;> simp

lemma mem_countedOf {bugId : String} {score : ℚ} (h : score ∈ countedOf scoreKey r k bugId) :
    ∃ run ∈ r.runs bugId, run.scores.get scoreKey = score := by
  obtain ⟨run,hrun,rfl⟩ := List.mem_map.mp h
  exact ⟨run,mem_sortOn.mp (List.mem_of_mem_take hrun),rfl⟩

/-- The score of a bug is one between zero and one, and no less as pass than as mean. -/
lemma bugValue_bounds {scores : List ℚ} (hk : 0 < k) (hlen : scores.length ≤ k)
    (h : ∀ score ∈ scores, 0 ≤ score ∧ score ≤ 1) :
    0 ≤ bugValue .mean k scores ∧ bugValue .mean k scores ≤ bugValue .pass k scores ∧
      bugValue .pass k scores ≤ 1 := by
  have hk' : (0 : ℚ) < k := Nat.cast_pos.mpr hk
  have hsum : scores.sum ≤ k := by
    have hcard := List.sum_le_card_nsmul scores 1 fun score hs => (h score hs).2
    rw [nsmul_eq_mul,mul_one] at hcard
    exact hcard.trans (Nat.cast_le.mpr hlen)
  have hnonneg : 0 ≤ scores.sum := List.sum_nonneg fun score hs => (h score hs).1
  rw [bugValue_mean,bugValue_pass]
  refine ⟨div_nonneg hnonneg hk'.le,?_,?_⟩
  · by_cases hs : ∃ score ∈ scores, 0 < score
    · rw [if_pos hs]
      exact (div_le_one hk').mpr hsum
    · have hzero : scores.sum = 0 := by
        apply List.sum_eq_zero
        intro score hscore
        by_contra hne
        exact hs ⟨score,hscore,lt_of_le_of_ne (h score hscore).1 (Ne.symm hne)⟩
      rw [hzero,zero_div,if_neg hs]
  · split <;> simp

lemma bounds_of_inUnit (hk : 0 < k) (h : r.InUnit) (scoreKey : ScoreKey) (bugId : String) :
    0 ≤ bugValue .mean k (countedOf scoreKey r k bugId) ∧
      bugValue .mean k (countedOf scoreKey r k bugId) ≤
        bugValue .pass k (countedOf scoreKey r k bugId) ∧
      bugValue .pass k (countedOf scoreKey r k bugId) ≤ 1 := by
  apply bugValue_bounds hk
  · rw [length_countedOf]
    exact Nat.min_le_left _ _
  · intro score hscore
    obtain ⟨run,hrun,rfl⟩ := mem_countedOf hscore
    exact h bugId run hrun scoreKey

theorem value_inUnit (hk : 0 < k) (h : r.InUnit) {v : ℚ}
    (hv : (calculateCell scoreKey aggregation bugIds r k).value = some v) : 0 ≤ v ∧ v ≤ 1 := by
  obtain ⟨⟨hne,-⟩,rfl⟩ := value_eq_some.mp hv
  have hbug : ∀ bugId ∈ bugIds, 0 ≤ bugValue aggregation k (countedOf scoreKey r k bugId) ∧
      bugValue aggregation k (countedOf scoreKey r k bugId) ≤ 1 := by
    intro bugId _
    obtain ⟨hzero,hle,hone⟩ := bounds_of_inUnit hk h scoreKey bugId
    cases aggregation with
    | pass => exact ⟨hzero.trans hle,hone⟩
    | mean => exact ⟨hzero,hle.trans hone⟩
  constructor
  · rw [← mean_const hne 0]
    exact mean_le_mean fun bugId hb => (hbug bugId hb).1
  · rw [← mean_const hne 1]
    exact mean_le_mean fun bugId hb => (hbug bugId hb).2

/-- A run scored from a row has no patch that is equivalent but does not resolve the crash. -/
lemma epr_le_crr {rows : List LeaderboardRow} {bugId : String} {run : RunScore}
    (h : run ∈ (buildRunsByBug rows).runs bugId) :
    run.scores.epr ≤ run.scores.crr := by
  rw [buildRunsByBug_eq] at h
  obtain ⟨row,i,-,rfl⟩ := (leaderboardRuns.mem_collect rows bugId run).mp h
  change row.scores.epr ≤ row.scores.crr
  unfold LeaderboardRow.scores
  dsimp only
  by_cases hcrr : row.crrEvaluation = some "notReproduced"
  · rw [if_pos hcrr]
    split <;> simp
  · rw [if_neg hcrr,if_neg fun hall => hcrr hall.1]

theorem epr_value_le_crr (rows : List LeaderboardRow) {v v' : ℚ}
    (hv : (calculateCell .epr aggregation bugIds (buildRunsByBug rows) k).value = some v)
    (hv' : (calculateCell .crr aggregation bugIds (buildRunsByBug rows) k).value = some v') :
    v ≤ v' := by
  apply value_le_value _ hv hv'
  intro bugId _
  have hrun : ∀ run ∈ (sortRuns ((buildRunsByBug rows).runs bugId)).take k,
      run.scores.get .epr ≤ run.scores.get .crr :=
    fun run h => epr_le_crr (mem_sortOn.mp (List.mem_of_mem_take h))
  cases aggregation with
  | mean =>
    rw [bugValue_mean,bugValue_mean]
    exact div_le_div_of_nonneg_right (List.sum_le_sum hrun) (by positivity)
  | pass =>
    apply bugValue_pass_mono
    rintro ⟨score,hscore,hpos⟩
    obtain ⟨run,hmem,rfl⟩ := List.mem_map.mp hscore
    exact ⟨_,List.mem_map_of_mem hmem,hpos.trans_le (hrun run hmem)⟩

/-- The first runs of a bug are among its first runs and one more. -/
theorem pass_value_mono {v v' : ℚ}
    (hv : (calculateCell scoreKey .pass bugIds r k).value = some v)
    (hv' : (calculateCell scoreKey .pass bugIds r (k+1)).value = some v') : v ≤ v' := by
  apply value_le_value _ hv hv'
  intro bugId _
  apply bugValue_pass_mono
  rintro ⟨score,hscore,hpos⟩
  refine ⟨score,?_,hpos⟩
  exact ((List.take_sublist_take_left (Nat.le_succ k)).map _).subset hscore

end Values

section Laws
variable (r : RunsByBug) (bugIds : List String) (k : ℕ)

/-- The values of one map of runs, compared with each other. -/
structure CellLaws : Prop where
  value_ne_none : ∀ scoreKey aggregation,
    (calculateCell scoreKey aggregation bugIds r k).value ≠ none ↔
      bugIds ≠ [] ∧ (calculateCell scoreKey aggregation bugIds r k).availableRuns =
        (calculateCell scoreKey aggregation bugIds r k).requiredRuns
  inUnit : ∀ scoreKey aggregation v,
    (calculateCell scoreKey aggregation bugIds r k).value = some v → 0 ≤ v ∧ v ≤ 1
  mean_le_pass : ∀ scoreKey mean pass,
    (calculateCell scoreKey .mean bugIds r k).value = some mean →
    (calculateCell scoreKey .pass bugIds r k).value = some pass → mean ≤ pass
  value_of_succ : ∀ scoreKey aggregation,
    (calculateCell scoreKey aggregation bugIds r (k+1)).value ≠ none →
      (calculateCell scoreKey aggregation bugIds r k).value ≠ none
  pass_mono : ∀ scoreKey pass pass',
    (calculateCell scoreKey .pass bugIds r k).value = some pass →
    (calculateCell scoreKey .pass bugIds r (k+1)).value = some pass' → pass ≤ pass'

/-- Whatever metrics are computed first on the same arrays, in place, they and every later cell are
those of the arrays as they were. -/
def SharedSafely : Prop :=
  ∀ metrics, (calculateMetricsInPlace bugIds k metrics r).1 =
      metrics.map (fun metric => calculateCell metric.1 metric.2 bugIds r k) ∧
    ∀ scoreKey aggregation bugIds' k',
      (calculateCellInPlace scoreKey aggregation bugIds'
        (calculateMetricsInPlace bugIds k metrics r).2 k').1 =
      calculateCell scoreKey aggregation bugIds' r k'

end Laws

theorem sharedSafely (r : RunsByBug) (bugIds : List String) (k : ℕ) : SharedSafely r bugIds k := by
  intro metrics
  have hsame : SameSorted r r := fun _ => rfl
  obtain ⟨hcells,hsorted⟩ := @calculateMetricsInPlace_spec r r k bugIds hsame metrics
  refine ⟨hcells,?_⟩
  intro scoreKey aggregation bugIds' k'
  exact (calculateCellInPlace_spec hsorted).1

theorem cellLaws {r : RunsByBug} (bugIds : List String) {k : ℕ} (hk : 1 ≤ k) (h : r.InUnit) :
    CellLaws r bugIds k where
  value_ne_none := by
    intro scoreKey aggregation
    rw [value_ne_none,availableRuns_eq_iff]
  inUnit _ _ _ := value_inUnit hk h
  mean_le_pass := by
    intro scoreKey mean pass hmean hpass
    exact value_le_value (fun bugId _ => (bounds_of_inUnit hk h scoreKey bugId).2.1) hmean hpass
  value_of_succ := by
    intro scoreKey aggregation hv
    obtain ⟨hne,hall⟩ := value_ne_none.mp hv
    exact value_ne_none.mpr ⟨hne,fun bugId hb => Nat.le_of_succ_le (hall bugId hb)⟩
  pass_mono _ _ _ := pass_value_mono

/-- The laws of the cells of one map of runs, those of the maps that are made of rows, and those of
the arrays that the cells share. -/
theorem leaderboard_cell_laws (bugIds : List String) (k : ℕ) (hk : 1 ≤ k) (r : RunsByBug)
    (h : r.InUnit) :
    CellLaws r bugIds k ∧ SharedSafely r bugIds k ∧
      ∀ (rows : List LeaderboardRow) (aggregation : Aggregation) (epr crr : ℚ),
        (calculateCell .epr aggregation bugIds (buildRunsByBug rows) k).value = some epr →
        (calculateCell .crr aggregation bugIds (buildRunsByBug rows) k).value = some crr →
          epr ≤ crr :=
  ⟨cellLaws bugIds hk h,sharedSafely r bugIds k,fun rows _ _ _ => epr_value_le_crr rows⟩

/-- Two runs on one bug, the later of them stored first. -/
def twoRuns : RunsByBug :=
  OrderedMap.set OrderedMap.empty "bug" [⟨2,1,⟨1,1,1/2,0⟩⟩,⟨1,0,⟨0,0,1,1⟩⟩]

theorem leaderboard_cell_laws_twoRuns :
    CellLaws twoRuns ["bug"] 1 ∧ SharedSafely twoRuns ["bug"] 1 ∧
      ∀ (rows : List LeaderboardRow) (aggregation : Aggregation) (epr crr : ℚ),
        (calculateCell .epr aggregation ["bug"] (buildRunsByBug rows) 1).value = some epr →
        (calculateCell .crr aggregation ["bug"] (buildRunsByBug rows) 1).value = some crr →
          epr ≤ crr := by
  apply leaderboard_cell_laws ["bug"] 1 (by decide) twoRuns
  intro bugId run hrun scoreKey
  rw [twoRuns,runs_set] at hrun
  split at hrun
  · simp only [List.mem_cons,List.not_mem_nil,or_false] at hrun
    obtain rfl | rfl := hrun
    · cases scoreKey <;> norm_num [Scores.get]
    · cases scoreKey <;> norm_num [Scores.get]
  · simp [RunsByBug.runs] at hrun

end LiveKBench.KArenaWeb
