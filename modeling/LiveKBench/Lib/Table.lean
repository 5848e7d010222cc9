import Mathlib.Data.List.Nodup
import Mathlib.Data.List.Basic
import Mathlib.Tactic.TypeStar
import Mathlib.Tactic.Lemma

/-! Tables of a relational database with a primary key: rows in insertion order, no two of them
with the same key. `update` is `UPDATE … WHERE`, `rowcount` the number of rows such a statement
matches, `delete` is `DELETE … WHERE`, `insert?` an `INSERT` that fails on a taken key, `insertMany`
the `executemany` of one. -/
namespace LiveKBench.Lib

structure Table {κ ρ : Type*} (key : ρ → κ) where
  rows : List ρ
  nodup : (rows.map key).Nodup

namespace Table
variable {κ ρ : Type*} {key : ρ → κ}

def empty : Table key := ⟨[],List.nodup_nil⟩

def singleton (r : ρ) : Table key := ⟨[r],List.nodup_singleton _⟩

/-- Every row that meets the condition is replaced; no statement changes a primary key. -/
def update (t : Table key) (p : ρ → Bool) (f : ρ → ρ) (hf : ∀ r, key (f r) = key r) :
    Table key where
  rows := t.rows.map fun r => if p r then f r else r
  nodup := by
    have hk : (t.rows.map fun r => if p r then f r else r).map key = t.rows.map key := by
      rw [List.map_map]
      apply List.map_congr_left
      intro r _
      by_cases hp : p r <;> simp [hp,hf]
    rw [hk]
    exact t.nodup

def rowcount (t : Table key) (p : ρ → Bool) : ℕ := t.rows.countP p

def select (t : Table key) (p : ρ → Bool) : List ρ := t.rows.filter p

def delete (t : Table key) (p : ρ → Bool) : Table key where
  rows := t.rows.filter fun r => !p r
  nodup := t.nodup.sublist (List.filter_sublist.map key)

@[simp] theorem rows_empty : (empty : Table key).rows = [] := rfl

section Lookup
variable [DecidableEq κ]

/-- The row with the key `k`. -/
def get? (t : Table key) (k : κ) : Option ρ := t.rows.find? fun r => key r = k

@[simp] theorem get?_empty (k : κ) : (empty : Table key).get? k = none := rfl

theorem get?_eq_some {t : Table key} {k : κ} {r : ρ} :
    t.get? k = some r ↔ r ∈ t.rows ∧ key r = k := by
  constructor
  · intro h
    exact ⟨List.mem_of_find?_eq_some h,by simpa using List.find?_some h⟩
  · rintro ⟨hm,rfl⟩
    obtain ⟨rows,hn⟩ := t
    change rows.find? (fun r' => key r' = key r) = some r
    induction rows with
    | nil => simp at hm
    | cons a rows ih =>
      simp only [List.map_cons,List.nodup_cons] at hn
      rcases List.mem_cons.mp hm with rfl | hm
      · simp
      · have hne : key a ≠ key r := by
          intro he
          exact hn.1 (he ▸ List.mem_map_of_mem hm)
        rw [List.find?_cons_of_neg (by simpa using hne)]
        exact ih hn.2 hm

theorem get?_eq_none {t : Table key} {k : κ} :
    t.get? k = none ↔ ∀ r ∈ t.rows, key r ≠ k := by
  simp [get?]

theorem key_of_get? {t : Table key} {k : κ} {r : ρ} (h : t.get? k = some r) : key r = k :=
  (get?_eq_some.mp h).2

/-- What an `UPDATE` leaves under each key. -/
@[simp] theorem get?_update (t : Table key) (p : ρ → Bool) (f : ρ → ρ)
    (hf : ∀ r, key (f r) = key r) (k : κ) :
    (t.update p f hf).get? k = (t.get? k).map fun r => if p r then f r else r := by
  have hq : (fun r => decide (key r = k)) ∘ (fun r => if p r then f r else r) =
      fun r => decide (key r = k) := by
    funext r
    by_cases hp : p r <;> simp [hp,hf]
  simp only [get?,update,List.find?_map,hq]

/-- A statement that addresses one key matches at most one row. -/
theorem rowcount_of_key {t : Table key} {p : ρ → Bool} {k : κ} (hp : ∀ r, p r → key r = k) :
    t.rowcount p = if (t.get? k).any p then 1 else 0 := by
  obtain ⟨rows,hn⟩ := t
  change rows.countP p = if (rows.find? fun r => key r = k).any p then 1 else 0
  induction rows with
  | nil => simp
  | cons a rows ih =>
    simp only [List.map_cons,List.nodup_cons] at hn
    by_cases ha : key a = k
    · have hrest : rows.countP p = 0 := by
        rw [List.countP_eq_zero]
        intro r hr hpr
        exact hn.1 (by rw [ha,← hp r hpr]; exact List.mem_map_of_mem hr)
      by_cases hpa : p a <;> simp [ha,hpa,hrest]
    · have hpa : p a = false := by
        by_contra h
        exact ha (hp a (by simpa using h))
      rw [List.countP_cons,List.find?_cons_of_neg (by simpa using ha),ih hn.2]
      simp [hpa]

theorem rowcount_eq_one (t : Table key) (p : ρ → Bool) (k : κ) (hp : ∀ r, p r → key r = k) :
    t.rowcount p = 1 ↔ ∃ r, t.get? k = some r ∧ p r := by
  rw [rowcount_of_key hp]
  cases h : t.get? k <;> simp

/-- An `INSERT` of a row whose key is free. -/
def insert (t : Table key) (r : ρ) (h : t.get? (key r) = none) : Table key where
  rows := t.rows ++ [r]
  nodup := by
    rw [List.map_append,List.map_singleton,List.nodup_append]
    refine ⟨t.nodup,List.nodup_singleton _,?_⟩
    intro a ha b hb
    obtain ⟨r',hr',rfl⟩ := List.mem_map.mp ha
    rw [List.mem_singleton.mp hb]
    exact get?_eq_none.mp h r' hr'

@[simp] theorem rows_insert (t : Table key) (r : ρ) (h : t.get? (key r) = none) :
    (t.insert r h).rows = t.rows ++ [r] := rfl

/-- An `INSERT`; it fails where the key is taken. -/
def insert? (t : Table key) (r : ρ) : Option (Table key) :=
  if h : t.get? (key r) = none then some (t.insert r h) else none

theorem rows_insert? {t u : Table key} {r : ρ} (h : t.insert? r = some u) :
    u.rows = t.rows ++ [r] := by
  unfold insert? at h
  split at h
  · cases h; rfl
  · cases h

theorem insert?_isSome {t : Table key} {r : ρ} (h : t.get? (key r) = none) :
    ∃ u, t.insert? r = some u := by
  unfold insert?
  rw [dif_pos h]
  exact ⟨_,rfl⟩

/-- `INSERT … ON CONFLICT DO UPDATE`: where the key is taken, the row under it is replaced. -/
def upsert (t : Table key) (r : ρ) (f : ρ → ρ) (hf : ∀ r, key (f r) = key r) : Table key :=
  if h : t.get? (key r) = none then t.insert r h else t.update (fun r' => key r' = key r) f hf

/-- `executemany` of an `INSERT`: the rows are inserted in order up to the first that fails, and
the flag says whether all of them were. -/
def insertMany (t : Table key) : List ρ → Table key × Bool
  | [] => (t,true)
  | r :: rs =>
    match t.insert? r with
    | none => (t,false)
    | some u => u.insertMany rs

/-- Whatever happens, an `executemany` only appends rows it was given. -/
theorem rows_insertMany (t : Table key) (rs : List ρ) :
    ∃ done, done <+: rs ∧ (t.insertMany rs).1.rows = t.rows ++ done := by
  induction rs generalizing t with
  | nil => exact ⟨[],List.nil_prefix,by simp [insertMany]⟩
  | cons r rs ih =>
    cases hi : t.insert? r with
    | none => exact ⟨[],List.nil_prefix,by simp [insertMany,hi]⟩
    | some u =>
      obtain ⟨done,hp,hr⟩ := ih u
      refine ⟨r :: done,by simpa using hp,?_⟩
      simp [insertMany,hi,hr,rows_insert? hi]

/-- An `executemany` of rows with fresh and distinct keys inserts them all. -/
theorem insertMany_of_fresh (t : Table key) (rs : List ρ) (hn : (rs.map key).Nodup)
    (hf : ∀ r ∈ rs, t.get? (key r) = none) :
    (t.insertMany rs).2 = true ∧ (t.insertMany rs).1.rows = t.rows ++ rs := by
  induction rs generalizing t with
  | nil => simp [insertMany]
  | cons r rs ih =>
    obtain ⟨u,hu⟩ := insert?_isSome (hf r (by simp))
    simp only [List.map_cons,List.nodup_cons] at hn
    have hfresh : ∀ r' ∈ rs, u.get? (key r') = none := by
      intro r' hr'
      rw [get?_eq_none,rows_insert? hu]
      intro q hq
      rcases List.mem_append.mp hq with hq | hq
      · exact get?_eq_none.mp (hf r' (by simp [hr'])) q hq
      · rw [List.mem_singleton.mp hq]
        intro he
        exact hn.1 (he ▸ List.mem_map_of_mem hr')
    obtain ⟨hok,hrows⟩ := ih u hn.2 hfresh
    simp [insertMany,hu,hok,hrows,rows_insert? hu]

/-- An `executemany` succeeds exactly where the keys of its rows are free and distinct. -/
theorem insertMany_eq_true_iff {t : Table key} {rs : List ρ} :
    (t.insertMany rs).2 = true ↔ (rs.map key).Nodup ∧ ∀ r ∈ rs, t.get? (key r) = none := by
  constructor
  · intro h
    induction rs generalizing t with
    | nil => simp
    | cons r rs ih =>
      cases hi : t.insert? r with
      | none => simp [insertMany,hi] at h
      | some u =>
        have hfree : t.get? (key r) = none := by
          by_contra hne
          simp [insert?,hne] at hi
        simp only [insertMany,hi] at h
        obtain ⟨hn,hf⟩ := ih h
        have hrows := rows_insert? hi
        have hold : ∀ r' ∈ rs, t.get? (key r') = none ∧ key r ≠ key r' := by
          intro r' hr'
          have hu := get?_eq_none.mp (hf r' hr')
          rw [hrows] at hu
          exact ⟨get?_eq_none.mpr fun q hq => hu q (List.mem_append_left _ hq),
            hu r (List.mem_append_right _ (List.mem_singleton.mpr rfl))⟩
        refine ⟨?_,?_⟩
        · rw [List.map_cons,List.nodup_cons]
          refine ⟨?_,hn⟩
          intro hmem
          obtain ⟨r',hr',hk⟩ := List.mem_map.mp hmem
          exact (hold r' hr').2 hk.symm
        · intro r' hr'
          rcases List.mem_cons.mp hr' with rfl | hr'
          · exact hfree
          · exact (hold r' hr').1
  · rintro ⟨hn,hf⟩
    exact (t.insertMany_of_fresh rs hn hf).1

/-- A lookup sees the old rows first. -/
theorem get?_append {t u : Table key} {rs : List ρ} (h : u.rows = t.rows ++ rs) (k : κ) :
    u.get? k = (t.get? k).or (rs.find? fun r => key r = k) := by
  simp [get?,h,List.find?_append]

@[simp] theorem get?_insert (t : Table key) (r : ρ) (h : t.get? (key r) = none) (k : κ) :
    (t.insert r h).get? k = if key r = k then some r else t.get? k := by
  rw [get?_append (t.rows_insert r h)]
  by_cases hk : key r = k
  · subst hk
    simp [h]
  · simp [hk]

/-- What an upsert leaves under each key. -/
theorem get?_upsert (t : Table key) (r : ρ) (f : ρ → ρ) (hf : ∀ r, key (f r) = key r) (k : κ) :
    (t.upsert r f hf).get? k =
      if key r = k then some ((t.get? k).elim r f) else t.get? k := by
  unfold upsert
  split
  · next h =>
    rw [get?_insert]
    by_cases hk : key r = k
    · subst hk
      simp [h]
    · simp [hk]
  · next h =>
    obtain ⟨r₀,hr₀⟩ := Option.ne_none_iff_exists'.mp h
    rw [get?_update]
    by_cases hk : key r = k
    · subst hk
      simp [hr₀,key_of_get? hr₀]
    · rw [if_neg hk]
      cases hg : t.get? k with
      | none => rfl
      | some r₁ =>
        have hne : ¬key r₁ = key r := by
          rw [key_of_get? hg]
          exact Ne.symm hk
        simp [hne]

/-- What a `DELETE` leaves under each key. -/
theorem get?_delete (t : Table key) (p : ρ → Bool) (k : κ) :
    (t.delete p).get? k = (t.get? k).filter fun r => !p r := by
  cases hg : t.get? k with
  | none =>
    rw [get?_eq_none] at hg
    simp only [Option.filter_none]
    rw [get?_eq_none]
    intro r hr
    exact hg r (List.mem_of_mem_filter hr)
  | some r =>
    obtain ⟨hm,hk⟩ := get?_eq_some.mp hg
    by_cases hp : p r
    · rw [Option.filter_some_neg (by simp [hp]),get?_eq_none]
      intro r' hr' hk'
      obtain ⟨hm',hp'⟩ := List.mem_filter.mp hr'
      have hsame : t.get? k = some r' := get?_eq_some.mpr ⟨hm',hk'⟩
      obtain rfl : r = r' := Option.some.inj (hg.symm.trans hsame)
      simp [hp] at hp'
    · rw [Option.filter_some_pos (by simp [hp])]
      exact get?_eq_some.mpr ⟨List.mem_filter.mpr ⟨hm,by simp [hp]⟩,hk⟩

end Lookup

@[simp] theorem rows_update (t : Table key) (p : ρ → Bool) (f : ρ → ρ)
    (hf : ∀ r, key (f r) = key r) :
    (t.update p f hf).rows = t.rows.map fun r => if p r then f r else r := rfl

theorem mem_select {t : Table key} {p : ρ → Bool} {r : ρ} :
    r ∈ t.select p ↔ r ∈ t.rows ∧ p r := by
  simp [select]

/-- A `DELETE` leaves the rows that do not meet its condition. -/
theorem select_delete (t : Table key) {p q : ρ → Bool} (h : ∀ r, q r → p r = false) :
    (t.delete p).select q = t.select q := by
  unfold select delete
  rw [List.filter_filter]
  apply List.filter_congr
  intro r _
  cases hq : q r with
  | true => simp [h r hq]
  | false => rfl

/-- Appended rows that do not meet a condition are not selected by it. -/
theorem select_append {t u : Table key} {rs : List ρ} (hu : u.rows = t.rows ++ rs) {q : ρ → Bool}
    (h : ∀ r ∈ rs, q r = false) : u.select q = t.select q := by
  have hnil : rs.filter q = [] := List.filter_eq_nil_iff.mpr fun r hr => by simp [h r hr]
  rw [select,hu,List.filter_append,hnil,List.append_nil]
  rfl

end Table
end LiveKBench.Lib
