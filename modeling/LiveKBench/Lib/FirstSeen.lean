import LiveKBench.Lib.OrderedMap
import Mathlib.Data.List.Induction
import Mathlib.Data.List.Sort

/-! Rows that are collected by group, the first one of each identity only, and the order in which
the members of a group are then ranked. -/
namespace LiveKBench.Lib

section Collect
variable {ρ β ι μ : Type*} [DecidableEq β] [DecidableEq ι]

/-- How rows are collected: their groups, their identities, the members made of them, and the
identities of the members. -/
structure Collection (ρ β ι μ : Type*) where
  group : ρ → β
  id? : ρ → Option ι
  make : ρ → ι → μ
  idOf : μ → ι
  idOf_make : ∀ r i, idOf (make r i) = i

namespace Collection
variable (c : Collection ρ β ι μ)

/-- The members of a group. -/
def members (m : OrderedMap β (List μ)) (b : β) : List μ := (OrderedMap.value? m b).getD []

/-- One pass: a row whose identity is in its group already changes nothing. -/
def add (m : OrderedMap β (List μ)) (r : ρ) : OrderedMap β (List μ) :=
  match c.id? r with
  | none => m
  | some i =>
    if (members m (c.group r)).any fun x => c.idOf x = i then m
    else OrderedMap.set m (c.group r) (members m (c.group r) ++ [c.make r i])

def collect (rows : List ρ) : OrderedMap β (List μ) := rows.foldl c.add OrderedMap.empty

def IsFor (b : β) (i : ι) (r : ρ) : Bool := c.group r = b && c.id? r = some i

variable {c}

theorem members_set (m : OrderedMap β (List μ)) (b b' : β) (xs : List μ) :
    members (OrderedMap.set m b' xs) b = if b' = b then xs else members m b := by
  unfold members
  rw [OrderedMap.value?_set]
  split <;> rfl

theorem collect_append (rows : List ρ) (r : ρ) :
    c.collect (rows ++ [r]) = c.add (c.collect rows) r := by
  rw [collect,List.foldl_append]
  rfl

/-- What a row adds to a group. -/
theorem members_add (m : OrderedMap β (List μ)) (r : ρ) (b : β) :
    members (c.add m r) b = members m b ++
      match c.id? r with
      | none => []
      | some i =>
        if c.group r = b ∧ ∀ x ∈ members m b, c.idOf x ≠ i then [c.make r i] else [] := by
  cases hi : c.id? r with
  | none => simp [add,hi]
  | some i =>
    have hadd : c.add m r = if (members m (c.group r)).any fun x => c.idOf x = i then m
        else OrderedMap.set m (c.group r) (members m (c.group r) ++ [c.make r i]) := by
      simp only [add,hi]
    have hany : ((members m (c.group r)).any fun x => c.idOf x = i) = true ↔
        ¬ ∀ x ∈ members m (c.group r), c.idOf x ≠ i := by simp
    rw [hadd]
    by_cases hb : c.group r = b
    · subst hb
      by_cases hall : ∀ x ∈ members m (c.group r), c.idOf x ≠ i
      · rw [if_neg (by rw [hany]; exact not_not_intro hall),members_set,if_pos rfl]
        simp [if_pos hall]
      · rw [if_pos (hany.mpr hall)]
        simp [if_neg hall]
    · have hsame : members (OrderedMap.set m (c.group r)
          (members m (c.group r) ++ [c.make r i])) b = members m b := by
        rw [members_set,if_neg hb]
      simp only [hb,false_and,if_false,List.append_nil]
      split
      · rfl
      · exact hsame

/-- No identity occurs twice in a group. -/
theorem nodup_collect (rows : List ρ) (b : β) :
    ((members (c.collect rows) b).map c.idOf).Nodup := by
  induction rows using List.reverseRecOn with
  | nil => simp [collect,members]
  | append_singleton rows r ih =>
    rw [collect_append,members_add]
    cases hi : c.id? r with
    | none => simpa using ih
    | some i =>
      dsimp only
      split
      · rename_i h
        rw [List.map_append,List.nodup_append]
        refine ⟨ih,by simp,?_⟩
        intro j hj j' hj'
        obtain ⟨x,hx,rfl⟩ := List.mem_map.mp hj
        obtain rfl : j' = i := by simpa [c.idOf_make] using hj'
        exact h.2 x hx
      · simpa using ih

/-- A member is made of the first row of its group with its identity. -/
theorem mem_collect (rows : List ρ) (b : β) (x : μ) : x ∈ members (c.collect rows) b ↔
    ∃ r i, rows.find? (c.IsFor b i) = some r ∧ x = c.make r i := by
  induction rows using List.reverseRecOn generalizing x with
  | nil => simp [collect,members]
  | append_singleton rows r ih =>
    -- An identity is known to the group as soon as one of the rows carried it.
    have hknown : ∀ i, (∀ y ∈ members (c.collect rows) b, c.idOf y ≠ i) ↔
        rows.find? (c.IsFor b i) = none := by
      intro i
      constructor
      · intro h
        by_contra hne
        obtain ⟨r',hr'⟩ := Option.ne_none_iff_exists'.mp hne
        exact h _ ((ih _).mpr ⟨r',i,hr',rfl⟩) (c.idOf_make r' i)
      · rintro h y hy rfl
        obtain ⟨r',i,hr',rfl⟩ := (ih _).mp hy
        rw [c.idOf_make,hr'] at h
        exact absurd h (by simp)
    rw [collect_append,members_add,List.mem_append]
    constructor
    · rintro (hx | hx)
      · obtain ⟨r',i,hr',rfl⟩ := (ih _).mp hx
        exact ⟨r',i,by rw [List.find?_append,hr',Option.some_or],rfl⟩
      · cases hi : c.id? r with
        | none => simp [hi] at hx
        | some i =>
          simp only [hi] at hx
          split at hx
          · rename_i hnew
            refine ⟨r,i,?_,by simpa using hx⟩
            rw [List.find?_append,(hknown i).mp hnew.2,Option.none_or]
            simp [IsFor,hnew.1,hi]
          · simp at hx
    · rintro ⟨r',i,hf,rfl⟩
      rw [List.find?_append] at hf
      cases hold : rows.find? (c.IsFor b i) with
      | some first =>
        rw [hold,Option.some_or] at hf
        exact .inl ((ih _).mpr ⟨r',i,hold.trans hf,rfl⟩)
      | none =>
        rw [hold,Option.none_or] at hf
        obtain rfl : r = r' := List.mem_singleton.mp (List.mem_of_find?_eq_some hf) |>.symm
        have hfor : c.group r = b ∧ c.id? r = some i := by
          simpa [IsFor] using List.find?_some hf
        right
        simp only [hfor.2]
        rw [if_pos ⟨hfor.1,(hknown i).mpr hold⟩]
        exact List.mem_singleton_self _

/-- Rows with the same groups and identities have the same members, as far as these are made of what
the rows share. -/
theorem members_congr {ρ' μ' ν : Type*} {c : Collection ρ β ι μ} {c' : Collection ρ' β ι μ'}
    {f : ρ → ρ'} (hgroup : ∀ r, c'.group (f r) = c.group r) (hid : ∀ r, c'.id? (f r) = c.id? r)
    {h : μ → ν} {h' : μ' → ν} {g : ν → ι} (hg : ∀ x, g (h x) = c.idOf x)
    (hg' : ∀ x, g (h' x) = c'.idOf x) (hmake : ∀ r i, h' (c'.make (f r) i) = h (c.make r i))
    (rows : List ρ) (b : β) :
    (members (c'.collect (rows.map f)) b).map h' = (members (c.collect rows) b).map h := by
  induction rows using List.reverseRecOn with
  | nil => rfl
  | append_singleton rows r ih =>
    rw [List.map_append,List.map_singleton,collect_append,collect_append,members_add,members_add,
      List.map_append,List.map_append,ih,hid,hgroup]
    congr 1
    cases c.id? r with
    | none => rfl
    | some i =>
      -- The identity is new to the one group exactly if it is new to the other.
      have hnew : (∀ x ∈ members (c'.collect (rows.map f)) b, c'.idOf x ≠ i) ↔
          ∀ x ∈ members (c.collect rows) b, c.idOf x ≠ i := by
        have hids : (members (c'.collect (rows.map f)) b).map c'.idOf =
            (members (c.collect rows) b).map c.idOf := by
          have := congrArg (List.map g) ih
          simpa only [List.map_map,Function.comp_def,hg,hg'] using this
        rw [← List.forall_mem_map (P := fun j => j ≠ i),hids,List.forall_mem_map]
      dsimp only
      simp only [hnew]
      split
      · rw [List.map_singleton,List.map_singleton,hmake]
      · rfl

/-- A group whose identities are those of `ps` consists of the members made of the first row of
each. -/
theorem members_perm {π : Type*} {rows : List ρ} {b : β} {ps : List π} {f : π → ι} {g : π → μ}
    (hn : (ps.map f).Nodup) (hsound : ∀ r ∈ rows, ∀ i, c.IsFor b i r → i ∈ ps.map f)
    (hcomplete : ∀ p ∈ ps, ∃ r ∈ rows, c.IsFor b (f p) r)
    (hg : ∀ p ∈ ps, ∀ r, rows.find? (c.IsFor b (f p)) = some r → c.make r (f p) = g p) :
    (members (c.collect rows) b).Perm (ps.map g) := by
  have hfirst : ∀ p ∈ ps, ∃ r, rows.find? (c.IsFor b (f p)) = some r := by
    intro p hp
    rw [← Option.isSome_iff_exists,List.find?_isSome]
    exact hcomplete p hp
  have hids : (ps.map g).map c.idOf = ps.map f := by
    rw [List.map_map]
    apply List.map_congr_left
    intro p hp
    obtain ⟨r,hr⟩ := hfirst p hp
    change c.idOf (g p) = f p
    rw [← hg p hp r hr,c.idOf_make]
  rw [List.perm_ext_iff_of_nodup (nodup_collect rows b).of_map (by
    apply List.Nodup.of_map c.idOf
    rw [hids]
    exact hn)]
  intro x
  rw [mem_collect,List.mem_map]
  constructor
  · rintro ⟨r,i,hr,rfl⟩
    have hi := hsound r (List.mem_of_find?_eq_some hr) i (List.find?_some hr)
    obtain ⟨p,hp,rfl⟩ := List.mem_map.mp hi
    exact ⟨p,hp,(hg p hp r hr).symm⟩
  · rintro ⟨p,hp,rfl⟩
    obtain ⟨r,hr⟩ := hfirst p hp
    exact ⟨r,f p,hr,(hg p hp r hr).symm⟩

end Collection
end Collect

section Rank
variable {α β μ ν : Type*} [LinearOrder α] [LinearOrder β]

/-- Pairs in the order of their first parts and then of their second. -/
def PairLe (a b : α × β) : Prop := a.1 < b.1 ∨ (a.1 = b.1 ∧ a.2 ≤ b.2)

instance (a b : α × β) : Decidable (PairLe a b) := inferInstanceAs (Decidable (_ ∨ _))

theorem pairLe_antisymm {a b : α × β} (h : PairLe a b) (h' : PairLe b a) : a = b := by
  obtain h | ⟨h,hle⟩ := h
  · obtain h' | ⟨h',-⟩ := h'
    · exact absurd (h.trans h') (lt_irrefl _)
    · exact absurd h (by rw [h']; exact lt_irrefl _)
  · obtain h' | ⟨-,hle'⟩ := h'
    · exact absurd h' (by rw [h]; exact lt_irrefl _)
    · exact Prod.ext h (le_antisymm hle hle')

/-- The stable sort by a key. -/
def sortOn (key : μ → α × β) (xs : List μ) : List μ :=
  xs.insertionSort fun x y => PairLe (key x) (key y)

variable {key : μ → α × β}

theorem perm_sortOn (xs : List μ) : (sortOn key xs).Perm xs := List.perm_insertionSort _ xs

@[simp] theorem mem_sortOn {xs : List μ} {x : μ} : x ∈ sortOn key xs ↔ x ∈ xs :=
  (perm_sortOn xs).mem_iff

@[simp] theorem length_sortOn (xs : List μ) : (sortOn key xs).length = xs.length :=
  (perm_sortOn xs).length_eq

theorem pairwise_sortOn (xs : List μ) :
    (sortOn key xs).Pairwise fun x y => PairLe (key x) (key y) := by
  have htotal : Std.Total fun x y : μ => PairLe (key x) (key y) := ⟨fun x y => by
    obtain h | h | h := lt_trichotomy (key x).1 (key y).1
    · exact .inl (.inl h)
    · obtain h' | h' := le_total (key x).2 (key y).2
      · exact .inl (.inr ⟨h,h'⟩)
      · exact .inr (.inr ⟨h.symm,h'⟩)
    · exact .inr (.inl h)⟩
  have htrans : IsTrans μ fun x y => PairLe (key x) (key y) := ⟨fun x y z hxy hyz => by
    obtain h | ⟨h,hle⟩ := hxy
    · obtain h' | ⟨h',-⟩ := hyz
      · exact .inl (h.trans h')
      · exact .inl (h'.symm ▸ h)
    · obtain h' | ⟨h',hle'⟩ := hyz
      · exact .inl (h ▸ h')
      · exact .inr ⟨h.trans h',hle.trans hle'⟩⟩
  exact List.pairwise_insertionSort _ xs

theorem sortOn_sortOn (xs : List μ) : sortOn key (sortOn key xs) = sortOn key xs :=
  (pairwise_sortOn xs).insertionSort_eq

/-- Where no two members have one key, their order does not matter. -/
theorem sortOn_eq_of_perm {xs ys : List μ} (h : xs.Perm ys) (hn : (xs.map key).Nodup) :
    sortOn key xs = sortOn key ys := by
  apply List.Perm.eq_of_pairwise _ (pairwise_sortOn xs) (pairwise_sortOn ys)
    ((perm_sortOn xs).trans (h.trans (perm_sortOn ys).symm))
  intro x y hx hy hxy hyx
  exact List.inj_on_of_nodup_map hn ((mem_sortOn).mp hx) (h.mem_iff.mpr (mem_sortOn.mp hy))
    (pairLe_antisymm hxy hyx)

theorem sortOn_map (f : ν → μ) (xs : List ν) :
    sortOn key (xs.map f) = (sortOn (fun x => key (f x)) xs).map f :=
  (List.map_insertionSort _ _ f xs fun _ _ _ _ => Iff.rfl).symm

/-- The first members of a group that is made of others by a map which keeps their keys. -/
theorem take_sortOn_of_perm {key' : ν → α × β} {f : ν → μ} {xs : List μ} {ys : List ν}
    (h : xs.Perm (ys.map f)) (hkey : ∀ y, key (f y) = key' y) (hn : (ys.map key').Nodup) (n : ℕ) :
    (sortOn key xs).take n = ((sortOn key' ys).take n).map f := by
  have hkeys : (ys.map f).map key = ys.map key' := by
    rw [List.map_map]
    exact List.map_congr_left fun y _ => hkey y
  have hnodup : (xs.map key).Nodup := by
    rw [(h.map key).nodup_iff,hkeys]
    exact hn
  rw [sortOn_eq_of_perm h hnodup,sortOn_map,List.map_take]
  simp only [hkey]

end Rank
end LiveKBench.Lib
