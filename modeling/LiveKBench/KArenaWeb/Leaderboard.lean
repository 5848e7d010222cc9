import LiveKBench.Lib.OrderedMap
import Mathlib.Data.Rat.Defs
import Mathlib.Algebra.Order.Ring.Unbundled.Rat

/-! How the leaderboard scores the runs of one agent configuration on each bug. -/
namespace LiveKBench.KArenaWeb
open Lib

/-- The columns of a leaderboard row that a run's scores are read from; `none` is `null`. -/
structure LeaderboardRow where
  bugId : String
  agentPatchId : Option ℕ
  unionId : Option ℤ
  crrEvaluation : Option String
  llmStatus : Option String
  yesCount : Option ℤ
  noCount : Option ℤ
  fileEvaluation : Option ℚ
  functionEvaluation : Option ℚ
  localizationStatus : Option String
  deriving DecidableEq, Repr

structure Scores where
  crr : ℚ
  epr : ℚ
  fileIou : ℚ
  funcIou : ℚ
  deriving DecidableEq, Repr

structure RunScore where
  agentPatchId : ℕ
  unionId : ℤ
  scores : Scores
  deriving DecidableEq, Repr

/-- Both counts are there and the yes votes are the majority. -/
def LeaderboardRow.majority (row : LeaderboardRow) : Bool :=
  match row.yesCount,row.noCount with
  | some yesCount,some noCount => yesCount > noCount
  | _,_ => false

def LeaderboardRow.scores (row : LeaderboardRow) : Scores where
  crr := if row.crrEvaluation = some "notReproduced" then 1 else 0
  epr :=
    if row.crrEvaluation = some "notReproduced" ∧ row.llmStatus = some "success" ∧ row.majority
    then 1 else 0
  fileIou := if row.localizationStatus = some "success" then row.fileEvaluation.getD 0 else 0
  funcIou := if row.localizationStatus = some "success" then row.functionEvaluation.getD 0 else 0

/-- The run that a row makes of its agent's patch. -/
def LeaderboardRow.run (row : LeaderboardRow) (agentPatchId : ℕ) : RunScore :=
  ⟨agentPatchId,row.unionId.getD 0,row.scores⟩

abbrev RunsByBug := OrderedMap String (List RunScore)

def RunsByBug.runs (runsByBug : RunsByBug) (bugId : String) : List RunScore :=
  (OrderedMap.value? runsByBug bugId).getD []

/-- One pass of the loop: only the first row of an agent's patch counts. -/
def addRow (runsByBug : RunsByBug) (row : LeaderboardRow) : RunsByBug :=
  match row.agentPatchId with
  | none => runsByBug
  | some agentPatchId =>
    let runs := runsByBug.runs row.bugId
    if runs.any fun run => run.agentPatchId = agentPatchId then runsByBug
    else OrderedMap.set runsByBug row.bugId (runs ++ [row.run agentPatchId])

def buildRunsByBug (rows : List LeaderboardRow) : RunsByBug := rows.foldl addRow OrderedMap.empty

/-- The run of an agent's patch among the runs on a bug. -/
def RunsByBug.run? (runsByBug : RunsByBug) (bugId : String) (agentPatchId : ℕ) :
    Option RunScore :=
  (runsByBug.runs bugId).find? fun run => run.agentPatchId = agentPatchId

/-- The row is about the agent's patch on the bug. -/
def LeaderboardRow.IsFor (row : LeaderboardRow) (bugId : String) (agentPatchId : ℕ) : Prop :=
  row.bugId = bugId ∧ row.agentPatchId = some agentPatchId

instance (row : LeaderboardRow) (bugId : String) (agentPatchId : ℕ) :
    Decidable (row.IsFor bugId agentPatchId) := inferInstanceAs (Decidable (_ ∧ _))

section Runs
variable {runsByBug : RunsByBug} {row : LeaderboardRow} {bugId : String} {agentPatchId : ℕ}

@[simp] theorem run?_empty :
    RunsByBug.run? (OrderedMap.empty : RunsByBug) bugId agentPatchId = none := by
  simp [RunsByBug.run?,RunsByBug.runs]

theorem runs_set (runs : List RunScore) (bugId' : String) :
    RunsByBug.runs (OrderedMap.set runsByBug bugId' runs) bugId =
      if bugId' = bugId then runs else runsByBug.runs bugId := by
  unfold RunsByBug.runs
  rw [OrderedMap.value?_set]
  split <;> rfl

/-- What one row does to the run of an agent's patch: a row of another patch leaves it alone, and so
does every row after the first of its own. -/
theorem run?_addRow : (addRow runsByBug row).run? bugId agentPatchId =
    (runsByBug.run? bugId agentPatchId).or
      (if row.IsFor bugId agentPatchId then some (row.run agentPatchId) else none) := by
  unfold addRow
  cases hp : row.agentPatchId with
  | none => simp [LeaderboardRow.IsFor,hp]
  | some patch =>
    dsimp only
    by_cases hf : row.IsFor bugId agentPatchId
    · have hb : row.bugId = bugId := hf.1
      have hi : patch = agentPatchId := by simpa [hp] using hf.2
      subst hi hb
      rw [if_pos hf]
      split
      · rename_i hany
        have hs : (runsByBug.run? row.bugId patch).isSome := by
          simpa [RunsByBug.run?] using hany
        obtain ⟨run,hr⟩ := Option.isSome_iff_exists.mp hs
        rw [hr,Option.some_or]
      · rename_i hany
        have hnone : runsByBug.run? row.bugId patch = none := by
          simpa [RunsByBug.run?] using hany
        rw [hnone,RunsByBug.run?,runs_set,if_pos rfl,List.find?_append]
        change (runsByBug.run? row.bugId patch).or _ = _
        rw [hnone]
        simp [LeaderboardRow.run]
    · rw [if_neg hf,Option.or_none]
      split
      · rfl
      · rw [RunsByBug.run?,runs_set]
        split
        · rename_i hb
          have hi : patch ≠ agentPatchId := fun hi => hf ⟨hb,by rw [hp,hi]⟩
          rw [hb,List.find?_append]
          simp [RunsByBug.run?,LeaderboardRow.run,hi]
        · rfl

lemma run?_foldl_addRow (rows : List LeaderboardRow) :
    (rows.foldl addRow runsByBug).run? bugId agentPatchId =
      (runsByBug.run? bugId agentPatchId).or
        ((rows.find? fun row => row.IsFor bugId agentPatchId).map fun row =>
          row.run agentPatchId) := by
  induction rows generalizing runsByBug with
  | nil => simp
  | cons row rows ih =>
    rw [List.foldl_cons,ih,run?_addRow,Option.or_assoc,List.find?_cons]
    by_cases hf : row.IsFor bugId agentPatchId <;> simp [hf]

/-- The run of an agent's patch is made from the first row about it. -/
theorem run?_buildRunsByBug (rows : List LeaderboardRow) :
    (buildRunsByBug rows).run? bugId agentPatchId =
      (rows.find? fun row => row.IsFor bugId agentPatchId).map fun row =>
        row.run agentPatchId := by
  rw [buildRunsByBug,run?_foldl_addRow,run?_empty,Option.none_or]

end Runs
end LiveKBench.KArenaWeb
