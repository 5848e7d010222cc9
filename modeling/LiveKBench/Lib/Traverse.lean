import Mathlib.Data.List.Forall2
import Mathlib.Tactic.Lemma

/-! Traversals that stop at the first exception. -/
namespace LiveKBench.Lib

universe u
variable {ε : Type*} {α : Type*} {β : Type u} {f : α → Except ε β}

/-- A sequence succeeds exactly where both of its parts do. -/
theorem bind_eq_ok_iff {α β : Type u} {x : Except ε α} {f : α → Except ε β} {b : β} :
    x >>= f = .ok b ↔ ∃ a, x = .ok a ∧ f a = .ok b := by
  cases x with
  | ok a => simp [bind,Except.bind]
  | error e => simp [bind,Except.bind]

/-- A traversal succeeds exactly with the results of its passes, in their order. -/
theorem mapM_eq_ok_iff {xs : List α} {ys : List β} :
    xs.mapM f = .ok ys ↔ List.Forall₂ (fun x y => f x = .ok y) xs ys := by
  induction xs generalizing ys with
  | nil => cases ys <;> simp [pure,Except.pure]
  | cons x xs ih =>
    rw [List.mapM_cons]
    cases hx : f x with
    | error e => cases ys <;> simp [bind,Except.bind,hx]
    | ok y =>
      cases hxs : xs.mapM f with
      | error e => cases ys <;> simp [bind,Except.bind,← ih,hxs]
      | ok ys' =>
        cases ys with
        | nil => simp [bind,Except.bind,pure,Except.pure]
        | cons z zs => simp [bind,Except.bind,pure,Except.pure,← ih,hx,hxs]

/-- A traversal whose passes all succeed with results of one kind does so itself. -/
theorem exists_mapM_ok {P : β → Prop} {xs : List α} (h : ∀ x ∈ xs, ∃ y, f x = .ok y ∧ P y) :
    ∃ ys, xs.mapM f = .ok ys ∧ ys.length = xs.length ∧ ∀ y ∈ ys, P y := by
  induction xs with
  | nil => exact ⟨[],rfl,rfl,by simp⟩
  | cons x xs ih =>
    obtain ⟨y,hy,hp⟩ := h x (by simp)
    obtain ⟨ys,hys,hl,hps⟩ := ih fun x' hx' => h x' (by simp [hx'])
    refine ⟨y :: ys,mapM_eq_ok_iff.mpr (.cons hy (mapM_eq_ok_iff.mp hys)),by simp [hl],?_⟩
    intro y' hy'
    rcases List.mem_cons.mp hy' with rfl | hy'
    · exact hp
    · exact hps y' hy'

/-- A loop that reads each element, with a pass that cannot fail, reads them all and then folds. -/
theorem foldlM_map_eq {γ : Type u} (g : γ → β → γ) (xs : List α) (acc : γ) :
    xs.foldlM (fun acc x => (f x).map (g acc)) acc = (xs.mapM f).map fun ys => ys.foldl g acc := by
  induction xs generalizing acc with
  | nil => rfl
  | cons x xs ih =>
    rw [List.foldlM_cons,List.mapM_cons]
    cases hx : f x with
    | error e => rfl
    | ok y =>
      change xs.foldlM _ (g acc y) = _
      rw [ih]
      cases xs.mapM f <;> rfl

/-- A loop over the results of another one is one loop. -/
theorem mapM_bind_eq_ok_iff {γ : Type u} {g : β → Except ε γ} {xs : List α} {zs : List γ} :
    xs.mapM (fun x => f x >>= g) = .ok zs ↔ ∃ ys, xs.mapM f = .ok ys ∧ ys.mapM g = .ok zs := by
  simp only [mapM_eq_ok_iff,bind_eq_ok_iff]
  constructor
  · intro h
    induction h with
    | nil => exact ⟨[],.nil,.nil⟩
    | cons hxz _ ih =>
      obtain ⟨y,hxy,hyz⟩ := hxz
      obtain ⟨ys,hxys,hyzs⟩ := ih
      exact ⟨y :: ys,.cons hxy hxys,.cons hyz hyzs⟩
  · rintro ⟨ys,hxys,hyzs⟩
    induction hxys generalizing zs with
    | nil =>
      cases hyzs
      exact .nil
    | cons hxy _ ih =>
      cases hyzs with
      | cons hyz hyzs => exact .cons ⟨_,hxy,hyz⟩ (ih hyzs)

/-- A loop over the results of another one, which reads what was there before. -/
theorem mapM_congr_of_mapM {γ : Type u} {g : β → Except ε γ} {g' : α → Except ε γ} {xs : List α}
    {ys : List β} (h : xs.mapM f = .ok ys) (hgg : ∀ x y, f x = .ok y → g y = g' x) :
    ys.mapM g = xs.mapM g' := by
  have hall := mapM_eq_ok_iff.mp h
  clear h
  induction hall with
  | nil => rfl
  | cons hxy _ ih => rw [List.mapM_cons,List.mapM_cons,hgg _ _ hxy,ih]

/-- Two loops whose passes agree on the elements agree. -/
theorem foldlM_congr {γ : Type*} {g h : γ → α → Except ε γ} {xs : List α}
    (hgh : ∀ x ∈ xs, ∀ acc, g acc x = h acc x) (acc : γ) : xs.foldlM g acc = xs.foldlM h acc := by
  induction xs generalizing acc with
  | nil => rfl
  | cons x xs ih =>
    rw [List.foldlM_cons,List.foldlM_cons,hgh x (by simp)]
    have hrest := ih fun x' hx' => hgh x' (by simp [hx'])
    simp only [hrest]

section Forall₂
variable {α β : Type*} {R : α → β → Prop} {xs : List α} {ys : List β}

theorem exists_right_of_forall₂ (h : List.Forall₂ R xs ys) {x : α} (hx : x ∈ xs) :
    ∃ y ∈ ys, R x y := by
  induction h with
  | nil => cases hx
  | cons hxy _ ih =>
    obtain rfl | hx := List.mem_cons.mp hx
    · exact ⟨_,List.mem_cons_self,hxy⟩
    · obtain ⟨y,hy,h⟩ := ih hx
      exact ⟨y,List.mem_cons_of_mem _ hy,h⟩

theorem exists_left_of_forall₂ (h : List.Forall₂ R xs ys) {y : β} (hy : y ∈ ys) :
    ∃ x ∈ xs, R x y := by
  obtain ⟨x,hx,hxy⟩ := exists_right_of_forall₂ h.flip hy
  exact ⟨x,hx,hxy⟩

theorem map_eq_map_of_forall₂ {γ : Type*} {f : α → γ} {g : β → γ} (h : List.Forall₂ R xs ys)
    (hfg : ∀ x y, R x y → g y = f x) : ys.map g = xs.map f := by
  induction h with
  | nil => rfl
  | cons hxy _ ih => rw [List.map_cons,List.map_cons,hfg _ _ hxy,ih]

end Forall₂

end LiveKBench.Lib
