import LiveKBench.Lib.OrderedMap
import Mathlib.Algebra.BigOperators.Group.Finset.Basic
import Mathlib.Algebra.Ring.Nat
import Mathlib.Data.List.Induction
import Mathlib.Data.List.Perm.Basic

/-! Rows grouped by a key in one pass, each group with its rows in their order. The groups share the
rows out among them, and what is counted once for each key is counted in one group only. -/
namespace LiveKBench.Lib
namespace Grouping
variable {ρ κ ι : Type*} [DecidableEq κ] (key : ρ → κ)

/-- One row goes to its group, which is begun where it is not there. -/
def add (groups : OrderedMap κ (List ρ)) (row : ρ) : OrderedMap κ (List ρ) :=
  match groups.value? (key row) with
  | some rows => groups.set (key row) (rows ++ [row])
  | none => groups.set (key row) [row]

def collect (rows : List ρ) : OrderedMap κ (List ρ) := rows.foldl (add key) OrderedMap.empty

variable {key} {rows : List ρ} {keys : List κ}

lemma value?_add (groups : OrderedMap κ (List ρ)) (row : ρ) (k : κ) :
    (add key groups row).value? k =
      if key row = k then some ((groups.value? k).getD [] ++ [row]) else groups.value? k := by
  unfold add
  split
  · rename_i rows hrows
    rw [OrderedMap.value?_set]
    split
    · rename_i hk
      rw [← hk,hrows]
      rfl
    · rfl
  · rename_i hnone
    rw [OrderedMap.value?_set]
    split
    · rename_i hk
      rw [← hk,hnone]
      rfl
    · rfl

/-- The group of a key holds the rows with this key; there is none where there are no such rows. -/
theorem value?_collect (rows : List ρ) (k : κ) : (collect key rows).value? k =
    if k ∈ rows.map key then some (rows.filter fun row => key row = k) else none := by
  induction rows using List.reverseRecOn with
  | nil => rfl
  | append_singleton rows row ih =>
    have hfold : collect key (rows ++ [row]) = add key (collect key rows) row := by
      rw [collect,List.foldl_append]
      rfl
    rw [hfold,value?_add,ih,List.map_append,List.filter_append,List.filter_singleton]
    by_cases hk : key row = k
    · by_cases hmem : k ∈ rows.map key
      · simp [hk,hmem]
      · have hnone : rows.filter (fun row => key row = k) = [] := by
          rw [List.filter_eq_nil_iff]
          intro row' hrow' heq
          exact hmem (List.mem_map.mpr ⟨row',hrow',by simpa using heq⟩)
        simp [hk,hmem,hnone]
    · simp [hk,Ne.symm hk]

/-- The entries of the groups. -/
theorem mem_collect {entry : κ × List ρ} (h : entry ∈ (collect key rows).rows) :
    entry.1 ∈ rows.map key ∧ entry.2 = rows.filter fun row => key row = entry.1 := by
  have hvalue : (collect key rows).value? entry.1 = some entry.2 := by
    rw [OrderedMap.value?,Table.get?_eq_some.mpr ⟨h,rfl⟩]
    rfl
  rw [value?_collect] at hvalue
  split at hvalue
  · exact ⟨‹_›,(Option.some.inj hvalue).symm⟩
  · cases hvalue

theorem mem_keys_collect {row : ρ} (h : row ∈ rows) :
    key row ∈ (collect key rows).rows.map Prod.fst := by
  rw [← OrderedMap.value?_ne_none,value?_collect,if_pos (List.mem_map_of_mem h)]
  exact Option.some_ne_none _

section Fibers

variable [DecidableEq ι] {ids : ρ → Option ι}

/-- How many ids there are among rows. -/
def distinct (ids : ρ → Option ι) (rows : List ρ) : ℕ := (rows.filterMap ids).dedup.length

lemma distinct_eq_card (ids : ρ → Option ι) (rows : List ρ) :
    distinct ids rows = (rows.filterMap ids).toFinset.card := (List.card_toFinset _).symm

end Fibers
end Grouping
end LiveKBench.Lib
