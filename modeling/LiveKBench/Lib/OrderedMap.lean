import LiveKBench.Lib.Table

/-! Maps that remember the order in which their keys were first set. A map is the table of its
entries; setting a key that is there replaces its value in place. -/
namespace LiveKBench.Lib

abbrev OrderedMap (κ ν : Type*) := Table (Prod.fst : κ × ν → κ)

namespace OrderedMap
variable {κ ν : Type*}

def empty : OrderedMap κ ν := Table.empty

variable [DecidableEq κ]

def value? (m : OrderedMap κ ν) (k : κ) : Option ν := (m.get? k).map Prod.snd

def set (m : OrderedMap κ ν) (k : κ) (v : ν) : OrderedMap κ ν :=
  if h : m.get? k = none then m.insert (k,v) h
  else m.update (fun entry => entry.1 = k) (fun entry => (entry.1,v)) (fun _ => rfl)

@[simp] theorem value?_empty (k : κ) : (empty : OrderedMap κ ν).value? k = none := rfl

@[simp] theorem value?_set (m : OrderedMap κ ν) (k k' : κ) (v : ν) :
    (m.set k v).value? k' = if k = k' then some v else m.value? k' := by
  unfold set
  split
  · rename_i h
    simp only [value?,Table.get?_insert]
    split <;> rfl
  · rename_i h
    simp only [value?,Table.get?_update]
    by_cases hk : k = k'
    · subst hk
      obtain ⟨entry,he⟩ := Option.ne_none_iff_exists'.mp h
      simp [he,Table.key_of_get? he]
    · cases he : m.get? k' with
      | none => simp [hk]
      | some entry => simp [Table.key_of_get? he,hk,Ne.symm hk]

def erase (m : OrderedMap κ ν) (k : κ) : OrderedMap κ ν := m.delete fun entry => entry.1 = k

@[simp] theorem value?_erase (m : OrderedMap κ ν) (k k' : κ) :
    (m.erase k).value? k' = if k = k' then none else m.value? k' := by
  rw [value?,erase,Table.get?_delete]
  cases he : m.get? k' with
  | none => simp [value?,he]
  | some entry =>
    obtain rfl : entry.1 = k' := Table.key_of_get? he
    by_cases hk : entry.1 = k
    · rw [Option.filter_some_neg (by simp [hk]),if_pos hk.symm]
      rfl
    · rw [Option.filter_some_pos (by simp [hk]),if_neg (Ne.symm hk),value?,he]

theorem value?_eq_some {m : OrderedMap κ ν} {k : κ} {v : ν} :
    m.value? k = some v ↔ (k,v) ∈ m.rows := by
  rw [value?,Option.map_eq_some_iff]
  constructor
  · rintro ⟨⟨k',v'⟩,hget,rfl⟩
    obtain ⟨hmem,rfl⟩ := Table.get?_eq_some.mp hget
    exact hmem
  · intro hmem
    exact ⟨(k,v),Table.get?_eq_some.mpr ⟨hmem,rfl⟩,rfl⟩

theorem value?_ne_none {m : OrderedMap κ ν} {k : κ} :
    m.value? k ≠ none ↔ k ∈ m.rows.map Prod.fst := by
  rw [Ne,value?,Option.map_eq_none_iff,Table.get?_eq_none]
  simp

/-- A dictionary made of entries, one after the other: the last value of a key is the one that is
kept. -/
def ofEntries (entries : List (κ × ν)) : OrderedMap κ ν :=
  entries.foldl (fun m entry => m.set entry.1 entry.2) empty

theorem rows_set_of_new {m : OrderedMap κ ν} {k : κ} (v : ν) (h : m.get? k = none) :
    (m.set k v).rows = m.rows ++ [(k,v)] := by
  unfold set
  rw [dif_pos h]
  rfl

/-- Entries of distinct keys stay as they are. -/
theorem rows_ofEntries {entries : List (κ × ν)} (h : (entries.map Prod.fst).Nodup) :
    (ofEntries entries).rows = entries := by
  have hfold : ∀ (entries : List (κ × ν)) (m : OrderedMap κ ν), (entries.map Prod.fst).Nodup →
      (∀ entry ∈ entries, m.get? entry.1 = none) →
      (entries.foldl (fun m entry => m.set entry.1 entry.2) m).rows = m.rows ++ entries := by
    intro entries
    induction entries with
    | nil => simp
    | cons entry entries ih =>
      intro m hn hfree
      have hrows := rows_set_of_new entry.2 (hfree entry List.mem_cons_self)
      simp only [List.map_cons,List.nodup_cons] at hn
      rw [List.foldl_cons,ih _ hn.2,hrows,List.append_assoc,List.singleton_append]
      intro later hlater
      rw [Table.get?_eq_none,hrows]
      intro row hrow
      rcases List.mem_append.mp hrow with hrow | hrow
      · exact Table.get?_eq_none.mp (hfree later (List.mem_cons_of_mem _ hlater)) row hrow
      · rw [List.mem_singleton.mp hrow]
        intro he
        exact hn.1 (he ▸ List.mem_map_of_mem hlater)
  exact hfold entries empty h fun entry _ => Table.get?_empty _

end OrderedMap
end LiveKBench.Lib
