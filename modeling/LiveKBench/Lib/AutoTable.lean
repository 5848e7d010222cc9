import LiveKBench.Lib.Table

/-! Tables whose key is `INTEGER PRIMARY KEY AUTOINCREMENT`: the database hands out the keys, each
one greater than every key before it, also than those of deleted rows. -/
namespace LiveKBench.Lib

/-- `last` is the greatest key handed out so far, in `sqlite_sequence`. -/
structure AutoTable {ρ : Type*} (key : ρ → ℕ) where
  table : Table key
  last : ℕ
  le_last : ∀ r ∈ table.rows, key r ≤ last

namespace AutoTable
variable {ρ υ : Type*} {key : ρ → ℕ}

def empty : AutoTable key := ⟨.empty,0,by simp⟩

abbrev rows (t : AutoTable key) : List ρ := t.table.rows

abbrev get? (t : AutoTable key) (k : ℕ) : Option ρ := t.table.get? k

@[simp] theorem get?_empty (k : ℕ) : (empty : AutoTable key).get? k = none := rfl

theorem get?_fresh (t : AutoTable key) : t.get? (t.last+1) = none := by
  rw [Table.get?_eq_none]
  intro r hr he
  have hle := t.le_last r hr
  omega

/-- `UPDATE … WHERE`. -/
def update (t : AutoTable key) (p : ρ → Bool) (f : ρ → ρ) (hf : ∀ r, key (f r) = key r) :
    AutoTable key where
  table := t.table.update p f hf
  last := t.last
  le_last := by
    intro r hr
    obtain ⟨r₀,hr₀,rfl⟩ := List.mem_map.mp hr
    by_cases hp : p r₀
    · rw [if_pos hp,hf]
      exact t.le_last r₀ hr₀
    · rw [if_neg hp]
      exact t.le_last r₀ hr₀

@[simp] theorem last_update (t : AutoTable key) (p : ρ → Bool) (f : ρ → ρ)
    (hf : ∀ r, key (f r) = key r) : (t.update p f hf).last = t.last := rfl

@[simp] theorem rows_update (t : AutoTable key) (p : ρ → Bool) (f : ρ → ρ)
    (hf : ∀ r, key (f r) = key r) :
    (t.update p f hf).rows = t.rows.map fun r => if p r then f r else r := rfl

@[simp] theorem get?_update (t : AutoTable key) (p : ρ → Bool) (f : ρ → ρ)
    (hf : ∀ r, key (f r) = key r) (k : ℕ) :
    (t.update p f hf).get? k = (t.get? k).map fun r => if p r then f r else r :=
  Table.get?_update t.table p f hf k

/-- `DELETE … WHERE`; the keys of deleted rows are not handed out again. -/
def delete (t : AutoTable key) (p : ρ → Bool) : AutoTable key where
  table := t.table.delete p
  last := t.last
  le_last := fun r hr => t.le_last r (List.mem_of_mem_filter hr)

/-- `INSERT` of a row that gets the next key. -/
def append (t : AutoTable key) (row : ℕ → ρ) (hrow : ∀ n, key (row n) = n) : AutoTable key where
  table := t.table.insert (row (t.last+1)) (by rw [hrow]; exact t.get?_fresh)
  last := t.last+1
  le_last := by
    intro r hr
    obtain hr | hr := List.mem_append.mp hr
    · exact Nat.le_succ_of_le (t.le_last r hr)
    · exact Nat.le_of_eq (by rw [List.mem_singleton.mp hr,hrow])

@[simp] theorem last_append (t : AutoTable key) (row : ℕ → ρ) (hrow : ∀ n, key (row n) = n) :
    (t.append row hrow).last = t.last+1 := rfl

@[simp] theorem rows_append (t : AutoTable key) (row : ℕ → ρ) (hrow : ∀ n, key (row n) = n) :
    (t.append row hrow).rows = t.rows ++ [row (t.last+1)] := rfl

theorem get?_append (t : AutoTable key) (row : ℕ → ρ) (hrow : ∀ n, key (row n) = n) (k : ℕ) :
    (t.append row hrow).get? k = if t.last+1 = k then some (row (t.last+1)) else t.get? k := by
  have hfree : t.table.get? (key (row (t.last+1))) = none := by
    rw [hrow]
    exact t.get?_fresh
  calc (t.append row hrow).get? k
    _ = if key (row (t.last+1)) = k then some (row (t.last+1)) else t.get? k :=
      Table.get?_insert t.table _ hfree k
    _ = if t.last+1 = k then some (row (t.last+1)) else t.get? k := by rw [hrow]

/-- An `INSERT` under a constraint `UNIQUE`, with the key of the new row where it succeeds. -/
def insert? [DecidableEq υ] (t : AutoTable key) (unique : ρ → υ) (row : ℕ → ρ)
    (hrow : ∀ n, key (row n) = n) : Option (AutoTable key) :=
  if ∃ r ∈ t.rows, unique r = unique (row (t.last+1)) then none else some (t.append row hrow)

theorem insert?_eq_some [DecidableEq υ] {t u : AutoTable key} {unique : ρ → υ} {row : ℕ → ρ}
    {hrow : ∀ n, key (row n) = n} :
    t.insert? unique row hrow = some u ↔
      (∀ r ∈ t.rows, unique r ≠ unique (row (t.last+1))) ∧ t.append row hrow = u := by
  unfold insert?
  split
  · rename_i h
    obtain ⟨r,hr,hu⟩ := h
    simp only [reduceCtorEq,false_iff,not_and]
    intro hfree
    exact absurd hu (hfree r hr)
  · rename_i h
    simp only [not_exists,not_and] at h
    constructor
    · intro hs
      exact ⟨h,Option.some.inj hs⟩
    · rintro ⟨-,rfl⟩
      rfl

end AutoTable
end LiveKBench.Lib
