import Mathlib.Data.List.Basic
import Mathlib.Data.Nat.Notation
import Mathlib.Tactic.Lemma
import Mathlib.Tactic.TypeStar

/-! Listings that are handed out page by page, and what a client collects that walks through
them. -/
namespace LiveKBench.Lib
variable {α : Type*}

/-- `LIMIT … OFFSET …`. -/
def limitOffset (rows : List α) (limit offset : ℕ) : List α := (rows.drop offset).take limit

lemma length_limitOffset (rows : List α) (limit offset : ℕ) :
    (limitOffset rows limit offset).length = min limit (rows.length-offset) := by
  simp [limitOffset]

/-- A page and what comes behind it. -/
lemma limitOffset_append_drop (rows : List α) (limit offset : ℕ) :
    limitOffset rows limit offset ++ rows.drop (offset+(limitOffset rows limit offset).length) =
      rows.drop offset := by
  have hdrop : rows.drop (offset+(limitOffset rows limit offset).length) =
      (rows.drop offset).drop limit := by
    rw [length_limitOffset,List.drop_drop]
    obtain h | h := Nat.le_total limit (rows.length-offset)
    · rw [Nat.min_eq_left h]
    · rw [Nat.min_eq_right h,List.drop_of_length_le (by omega),List.drop_of_length_le (by omega)]
  rw [hdrop,limitOffset,List.take_append_drop]

/-- The pages of one size, one after the other. -/
theorem flatMap_limitOffset (rows : List α) (limit n : ℕ) :
    (List.range n).flatMap (fun k => limitOffset rows limit (k*limit)) = rows.take (n*limit) := by
  induction n with
  | zero => simp
  | succ n ih =>
    rw [List.range_succ,List.flatMap_append,ih,Nat.succ_mul,List.take_add]
    simp [limitOffset]

/-- What a client collects from some position on. A call gives a page and, unless the listing ends
there, the position of the next one. -/
inductive Walk (call : ℕ → Option (List α × Option ℕ)) : ℕ → List α → Prop
  | last {position : ℕ} {page : List α} (h : call position = some (page,none)) :
      Walk call position page
  | next {position position' : ℕ} {page rest : List α}
      (h : call position = some (page,some position')) (tail : Walk call position' rest) :
      Walk call position (page ++ rest)

/-- A walk leads to one collection. -/
theorem Walk.unique {call : ℕ → Option (List α × Option ℕ)} {position : ℕ} {xs ys : List α}
    (hx : Walk call position xs) (hy : Walk call position ys) : xs = ys := by
  induction hx generalizing ys with
  | last h =>
    cases hy with
    | last h' =>
      have he := h.symm.trans h'
      cases he
      rfl
    | next h' tail =>
      have he := h.symm.trans h'
      cases he
  | next h tail ih =>
    cases hy with
    | last h' =>
      have he := h.symm.trans h'
      cases he
    | next h' tail' =>
      have he := h.symm.trans h'
      cases he
      rw [ih tail']

/-- A call on a listing: its page, and the next position where that is not the end. -/
def callOn (rows : List α) (limit position : ℕ) : List α × Option ℕ :=
  let page := limitOffset rows limit position
  (page,if position+page.length < rows.length then some (position+page.length) else none)

/-- Pages of at least one row collect the whole listing. -/
theorem walk_callOn {call : ℕ → Option (List α × Option ℕ)} {rows : List α} {limit : ℕ}
    (hlimit : 0 < limit) (h : ∀ position ≤ rows.length, call position = some (callOn rows limit position))
    {position : ℕ} (hp : position ≤ rows.length) : Walk call position (rows.drop position) := by
  induction hn : rows.length-position using Nat.strongRecOn generalizing position with
  | ind n ih =>
    subst hn
    have hcall := h position hp
    have hlen := length_limitOffset rows limit position
    by_cases hend : position+(limitOffset rows limit position).length < rows.length
    · rw [callOn,if_pos hend] at hcall
      rw [← limitOffset_append_drop rows limit position]
      exact .next hcall (ih _ (by omega) (by omega) rfl)
    · rw [callOn,if_neg hend] at hcall
      have hall : limitOffset rows limit position = rows.drop position := by
        have happend := limitOffset_append_drop rows limit position
        rw [List.drop_of_length_le (by omega),List.append_nil] at happend
        exact happend
      rw [← hall]
      exact .last hcall

end LiveKBench.Lib
