import Mathlib.Data.List.Dedup
import Mathlib.Data.List.Nodup
import Mathlib.Tactic.TypeStar
import Mathlib.Tactic.Lemma

/-! The joins of two lists of rows, and their groups. -/
namespace LiveKBench.Lib

variable {α β γ : Type*}

/-- `xs INNER JOIN ys ON on`. -/
def innerJoin (xs : List α) (ys : List β) (on : α → β → Bool) : List (α × β) :=
  xs.flatMap fun x => (ys.filter (on x)).map fun y => (x,y)

/-- The rows that the left row `x` is joined to; `none` stands for the row of nulls. -/
def matches? (ys : List β) (on : β → Bool) : List (Option β) :=
  match ys.filter on with
  | [] => [none]
  | y :: rest => (y :: rest).map some

/-- `xs LEFT JOIN ys ON on`. -/
def leftJoin (xs : List α) (ys : List β) (on : α → β → Bool) : List (α × Option β) :=
  xs.flatMap fun x => (matches? ys (on x)).map fun y => (x,y)

/-- `GROUP BY`: the rows of each key. -/
def groupBy [DecidableEq γ] (key : α → γ) (rows : List α) : List (γ × List α) :=
  (rows.map key).dedup.map fun k => (k,rows.filter fun r => key r = k)

theorem mem_innerJoin {xs : List α} {ys : List β} {on : α → β → Bool} {x : α} {y : β} :
    (x,y) ∈ innerJoin xs ys on ↔ x ∈ xs ∧ y ∈ ys ∧ on x y = true := by
  simp only [innerJoin,List.mem_flatMap,List.mem_map,List.mem_filter,Prod.mk.injEq]
  constructor
  · rintro ⟨x',hx,y',⟨hy,hon⟩,rfl,rfl⟩
    exact ⟨hx,hy,hon⟩
  · rintro ⟨hx,hy,hon⟩
    exact ⟨x,hx,y,⟨hy,hon⟩,rfl,rfl⟩

theorem matches?_ne_nil (ys : List β) (on : β → Bool) : matches? ys on ≠ [] := by
  unfold matches?
  split <;> simp

theorem of_mem_matches? {ys : List β} {on : β → Bool} {y? : Option β} (h : y? ∈ matches? ys on)
    (y : β) (hy : y? = some y) : y ∈ ys ∧ on y = true := by
  subst hy
  unfold matches? at h
  split at h
  · cases List.mem_singleton.mp h
  · rename_i y' rest hfilter
    obtain ⟨y'',hmem,heq⟩ := List.mem_map.mp h
    cases heq
    rw [← hfilter] at hmem
    exact List.mem_filter.mp hmem

/-- `COUNT` of a column that is null in no row of the right table. -/
theorem countP_matches? (ys : List β) (on : β → Bool) :
    (matches? ys on).countP Option.isSome = ys.countP on := by
  rw [@List.countP_eq_length_filter _ on]
  unfold matches?
  cases ys.filter on with
  | nil => rfl
  | cons y rest => simp [List.countP_map,Function.comp_def]

/-- A condition on the left rows can be checked before the join. -/
theorem filter_leftJoin (xs : List α) (ys : List β) (on : α → β → Bool) (p : α → Bool) :
    (leftJoin xs ys on).filter (fun row => p row.1) = leftJoin (xs.filter p) ys on := by
  induction xs with
  | nil => rfl
  | cons x xs ih =>
    have hrows : ((matches? ys (on x)).map fun y => (x,y)).filter (fun row => p row.1) =
        if p x then (matches? ys (on x)).map fun y => (x,y) else [] := by
      rw [List.filter_map]
      cases hp : p x with
      | true => simp [Function.comp_def,hp]
      | false => simp [Function.comp_def,hp]
    unfold leftJoin at ih ⊢
    rw [List.flatMap_cons,List.filter_append,ih,hrows,List.filter_cons]
    cases p x <;> rfl

theorem mem_leftJoin {xs : List α} {ys : List β} {on : α → β → Bool} {x : α} :
    (∃ y, (x,y) ∈ leftJoin xs ys on) ↔ x ∈ xs := by
  simp only [leftJoin,List.mem_flatMap,List.mem_map,Prod.mk.injEq]
  constructor
  · rintro ⟨_,x',hx,_,_,rfl,-⟩
    exact hx
  · intro hx
    obtain ⟨y,hy⟩ := List.exists_mem_of_ne_nil _ (matches?_ne_nil ys (on x))
    exact ⟨y,x,hx,y,hy,rfl,rfl⟩

/-- Where the rows have distinct keys, a condition that fixes the key selects one row. -/
theorem filter_of_unique {rows : List α} {key : α → γ} (hn : (rows.map key).Nodup) {p : α → Bool}
    {k : γ} (hp : ∀ r ∈ rows, p r = true → key r = k) {r : α} (hr : r ∈ rows) (hpr : p r = true) :
    rows.filter p = [r] := by
  induction rows with
  | nil => cases hr
  | cons a rows ih =>
    simp only [List.map_cons,List.nodup_cons] at hn
    have hrest : ∀ r' ∈ rows, p r' = true → key r' = k :=
      fun r' hr' => hp r' (List.mem_cons_of_mem a hr')
    cases hpa : p a with
    | true =>
      have hnone : rows.filter p = [] := by
        rw [List.filter_eq_nil_iff]
        intro r' hr' hpr'
        apply hn.1
        rw [hp a List.mem_cons_self hpa,← hrest r' hr' hpr']
        exact List.mem_map_of_mem hr'
      rw [List.filter_cons_of_pos hpa,hnone]
      obtain rfl | hr := List.mem_cons.mp hr
      · rfl
      · have hmem : r ∈ rows.filter p := List.mem_filter.mpr ⟨hr,hpr⟩
        rw [hnone] at hmem
        cases hmem
    | false =>
      rw [List.filter_cons_of_neg (by simp [hpa])]
      obtain rfl | hr := List.mem_cons.mp hr
      · rw [hpr] at hpa
        cases hpa
      · exact ih hn.2 hrest hr

/-- A join in which a left row meets at most one right row selects left rows. -/
theorem map_fst_innerJoin {xs : List α} {ys : List β} {on : α → β → Bool}
    (h : ∀ x ∈ xs, ∀ y ∈ ys, on x y = true → ys.filter (on x) = [y]) :
    (innerJoin xs ys on).map Prod.fst = xs.filter fun x => ys.any (on x) := by
  induction xs with
  | nil => rfl
  | cons x xs ih =>
    have hrest := ih fun x' hx' => h x' (List.mem_cons_of_mem x hx')
    unfold innerJoin at hrest ⊢
    rw [List.flatMap_cons,List.map_append,hrest]
    rw [List.filter_cons]
    cases hany : ys.any (on x) with
    | true =>
      obtain ⟨y,hy,hon⟩ := List.any_eq_true.mp hany
      rw [h x List.mem_cons_self y hy hon]
      rfl
    | false =>
      have hnone : ys.filter (on x) = [] :=
        List.filter_eq_nil_iff.mpr (List.any_eq_false.mp hany)
      rw [hnone]
      rfl

section Groups
variable [DecidableEq γ] {key : α → γ} {rows : List α}

theorem mem_groupBy {k : γ} {group : List α} : (k,group) ∈ groupBy key rows ↔
    (∃ r ∈ rows, key r = k) ∧ group = rows.filter fun r => key r = k := by
  simp only [groupBy,List.mem_map,List.mem_dedup,Prod.mk.injEq]
  constructor
  · rintro ⟨_,⟨r,hr,rfl⟩,rfl,rfl⟩
    exact ⟨⟨r,hr,rfl⟩,rfl⟩
  · rintro ⟨⟨r,hr,rfl⟩,rfl⟩
    exact ⟨_,⟨r,hr,rfl⟩,rfl,rfl⟩

theorem nodup_groupBy : ((groupBy key rows).map Prod.fst).Nodup := by
  have hkeys : (groupBy key rows).map Prod.fst = (rows.map key).dedup := by
    simp [groupBy,Function.comp_def]
  rw [hkeys]
  exact List.nodup_dedup _

end Groups
end LiveKBench.Lib
