import LiveKBench.KArenaWeb.LeaderboardQuery
import Mathlib.Algebra.BigOperators.Group.List.Basic
import Mathlib.Algebra.Field.Rat
import Mathlib.Tactic.Ring

/-! What a cell of the leaderboard says, away from the loops that compute it: the bugs' counted
scores come in, one list for each bug, and the mean of the bugs' values goes out if no bug has too
few of them. -/
namespace LiveKBench.KArenaWeb
open KArena Lib

structure Cell where
  value : Option ℚ
  availableRuns : ℕ
  requiredRuns : ℕ
  deriving DecidableEq, Repr

/-- There is a bug, and each of them has its `k` scores. -/
def Complete (k : ℕ) (counted : List (List ℚ)) : Prop :=
  counted ≠ [] ∧ ∀ scores ∈ counted, k ≤ scores.length

instance (k : ℕ) (counted : List (List ℚ)) : Decidable (Complete k counted) :=
  inferInstanceAs (Decidable (_ ∧ _))

def Cell.of (aggregation : Aggregation) (k : ℕ) (counted : List (List ℚ)) : Cell where
  value := if Complete k counted then some (mean (counted.map (bugValue aggregation k))) else none
  availableRuns := (counted.map List.length).sum
  requiredRuns := counted.length*k

/-- The pass of the loops of both pages. -/
def Cell.pass (aggregation : Aggregation) (k : ℕ) (state : ℕ × List ℚ) (scores : List ℚ) :
    ℕ × List ℚ :=
  if scores.length < k then (state.1+scores.length,state.2)
  else (state.1+scores.length,state.2 ++ [bugValue aggregation k scores])

def LeaderboardMetricCell.cell (c : LeaderboardMetricCell) : Cell :=
  ⟨c.value,c.availableRuns,c.requiredRuns⟩

section Loop
variable {aggregation : Aggregation} {k : ℕ} {counted counted' : List (List ℚ)}

theorem total_eq_sum (values : List ℚ) : total values = values.sum := by
  have h : ∀ acc : ℚ, values.foldl (fun total value => total+value) acc = acc+values.sum := by
    induction values with
    | nil => simp
    | cons value values ih =>
      intro acc
      rw [List.foldl_cons,ih,List.sum_cons]
      ring
  rw [total,h,zero_add]

theorem mean_eq (values : List ℚ) : mean values = values.sum/values.length := by
  rw [mean,total_eq_sum]

lemma foldl_pass (n : ℕ) (values : List ℚ) :
    counted.foldl (Cell.pass aggregation k) (n,values) =
      (n+(counted.map List.length).sum,values ++
        (counted.filter fun scores => k ≤ scores.length).map (bugValue aggregation k)) := by
  induction counted generalizing n values with
  | nil => simp
  | cons scores counted ih =>
    rw [List.foldl_cons,Cell.pass]
    by_cases hk : scores.length < k
    · rw [if_pos hk,ih,List.filter_cons_of_neg (by simpa using hk)]
      simp [Nat.add_assoc]
    · rw [if_neg hk,ih,List.filter_cons_of_pos (by simpa using hk)]
      simp [Nat.add_assoc]

/-- The loop and the test after it compute the cell. -/
theorem cell_of_pass (counted : List (List ℚ)) :
    let state := counted.foldl (Cell.pass aggregation k) (0,[])
    Cell.mk (if state.2.length = counted.length ∧ state.2.length > 0 then some (mean state.2)
      else none) state.1 (counted.length*k) = Cell.of aggregation k counted := by
  intro state
  have hstate : state = ((counted.map List.length).sum,
      (counted.filter fun scores => k ≤ scores.length).map (bugValue aggregation k)) := by
    simpa using @foldl_pass aggregation k counted 0 []
  have hfull : (counted.filter fun scores => decide (k ≤ scores.length)).length =
      counted.length ↔ ∀ scores ∈ counted, k ≤ scores.length := by
    rw [List.length_filter_eq_length_iff]
    simp
  unfold Cell.of
  rw [hstate]
  simp only [List.length_map]
  by_cases hc : Complete k counted
  · have hall : (counted.filter fun scores => decide (k ≤ scores.length)) = counted :=
      List.filter_eq_self.mpr fun scores hs => by simpa using hc.2 scores hs
    rw [if_pos hc,hall,if_pos ⟨rfl,List.length_pos_of_ne_nil hc.1⟩]
  · rw [if_neg hc,if_neg]
    rintro ⟨hlen,hpos⟩
    refine hc ⟨?_,hfull.mp hlen⟩
    rintro rfl
    simp at hpos

/-- Where some bug has too few scores only their numbers matter. -/
theorem Cell.of_eq_of_not_complete (h : ¬ Complete k counted)
    (hl : counted.map List.length = counted'.map List.length) :
    Cell.of aggregation k counted = Cell.of aggregation k counted' := by
  have hlen : counted.length = counted'.length := by simpa using congrArg List.length hl
  have h' : ¬ Complete k counted' := by
    rintro ⟨hne,hall⟩
    refine h ⟨?_,?_⟩
    · rintro rfl
      exact hne (List.length_eq_zero_iff.mp hlen.symm)
    · intro scores hs
      have hmem : scores.length ∈ counted'.map List.length :=
        hl ▸ List.mem_map_of_mem hs
      obtain ⟨scores',hs',heq⟩ := List.mem_map.mp hmem
      exact heq ▸ hall scores' hs'
  unfold Cell.of
  rw [if_neg h,if_neg h',hl,hlen]

/-- The order of the bugs does not matter. -/
theorem Cell.of_perm (h : counted.Perm counted') :
    Cell.of aggregation k counted = Cell.of aggregation k counted' := by
  have hc : Complete k counted ↔ Complete k counted' := by
    unfold Complete
    have hnil : counted = [] ↔ counted' = [] :=
      ⟨fun hn => (hn ▸ h).nil_eq.symm,fun hn => (hn ▸ h).eq_nil⟩
    simp only [ne_eq,hnil,h.mem_iff]
  have hmean : mean (counted.map (bugValue aggregation k)) =
      mean (counted'.map (bugValue aggregation k)) := by
    rw [mean_eq,mean_eq,(h.map _).sum_eq,(h.map _).length_eq]
  unfold Cell.of
  rw [hmean,(h.map List.length).sum_eq,h.length_eq]
  simp only [hc]

/-- The mean of the means is the sum of all the scores over their number. -/
theorem Cell.of_mean_value (h : Complete k counted) : (Cell.of .mean k counted).value =
    some ((counted.map List.sum).sum/(k*counted.length)) := by
  have hvalue : ∀ scores : List ℚ, bugValue .mean k scores = scores.sum/k := by
    intro scores
    rw [bugValue,total_eq_sum]
  have hsum : ∀ xss : List (List ℚ), (xss.map fun scores => scores.sum/(k : ℚ)).sum =
      (xss.map List.sum).sum/k := by
    intro xss
    induction xss with
    | nil => simp
    | cons scores xss ih => rw [List.map_cons,List.sum_cons,ih,List.map_cons,List.sum_cons,add_div]
  unfold Cell.of
  rw [if_pos h,mean_eq,List.length_map,
    show (bugValue .mean k : List ℚ → ℚ) = fun scores => scores.sum/(k : ℚ) from
      funext hvalue,hsum,div_div]

end Loop

section Leaderboard
variable {scoreKey : ScoreKey} {aggregation : Aggregation} {k : ℕ} {bugIds : List String}
  {runsByBug : RunsByBug}

/-- The scores that the cell of a metric counts, for each bug. -/
def countedScores (scoreKey : ScoreKey) (bugIds : List String) (runsByBug : RunsByBug) (k : ℕ) :
    List (List ℚ) :=
  bugIds.map fun bugId =>
    ((sortRuns (runsByBug.runs bugId)).take k).map fun run => run.scores.get scoreKey

theorem calculateCell_cell : (calculateCell scoreKey aggregation bugIds runsByBug k).cell =
    Cell.of aggregation k (countedScores scoreKey bugIds runsByBug k) := by
  have hloop : bugIds.foldl (cellPass scoreKey aggregation runsByBug k) (0,[]) =
      (countedScores scoreKey bugIds runsByBug k).foldl (Cell.pass aggregation k) (0,[]) := by
    rw [countedScores,List.foldl_map]
    congr 1
    funext state bugId
    simp only [cellPass,Cell.pass,List.length_map]
  have hcell := @cell_of_pass aggregation k (countedScores scoreKey bugIds runsByBug k)
  have hlen : (countedScores scoreKey bugIds runsByBug k).length = bugIds.length := by
    simp [countedScores]
  rw [hlen,← hloop] at hcell
  exact hcell

/-- The runs of a bug are collected from the rows, the first row of each patch. -/
def leaderboardRuns : Collection LeaderboardRow String ℕ RunScore where
  group := LeaderboardRow.bugId
  id? := LeaderboardRow.agentPatchId
  make := LeaderboardRow.run
  idOf := RunScore.agentPatchId
  idOf_make _ _ := rfl

theorem buildRunsByBug_eq (rows : List LeaderboardRow) :
    buildRunsByBug rows = leaderboardRuns.collect rows := by
  unfold buildRunsByBug Collection.collect
  congr 1
  funext runsByBug row
  simp only [addRow,Collection.add,leaderboardRuns]
  cases row.agentPatchId <;> rfl

end Leaderboard
end LiveKBench.KArenaWeb
