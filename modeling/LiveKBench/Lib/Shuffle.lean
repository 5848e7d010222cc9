import Mathlib.Data.List.Forall2
import Mathlib.Data.List.Perm.Basic
import Mathlib.Tactic.Lemma
import Mathlib.Tactic.TypeStar

/-! Permutations of a list that move only the marked elements. -/
namespace LiveKBench.Lib
variable {α : Type*} {p : α → Bool} {xs ys : List α}

/-- The marked elements change places among themselves, and every other element keeps its place. -/
structure Shuffles (p : α → Bool) (xs ys : List α) : Prop where
  perm : xs.Perm ys
  fixed : List.Forall₂ (fun x y => x = y ∨ p x ∧ p y) xs ys

namespace Shuffles

lemma places_refl (xs : List α) : List.Forall₂ (fun x y => x = y ∨ p x ∧ p y) xs xs :=
  List.forall₂_same.mpr fun _ _ => .inl rfl

lemma refl (xs : List α) : Shuffles p xs xs := ⟨.refl xs,places_refl xs⟩

lemma cons (x : α) (h : Shuffles p xs ys) : Shuffles p (x :: xs) (x :: ys) :=
  ⟨h.perm.cons x,.cons (.inl rfl) h.fixed⟩

lemma filter_perm (h : Shuffles p xs ys) : (xs.filter p).Perm (ys.filter p) := h.perm.filter p

/-- An unmarked first element stays first. -/
lemma head?_of_unmarked {x : α} (h : Shuffles p (x :: xs) ys) (hx : p x = false) :
    ys.head? = some x := by
  cases h.fixed with
  | cons hplace _ =>
    obtain rfl | ⟨hmarked,-⟩ := hplace
    · rfl
    · simp [hx] at hmarked

/-- The first element of a list that begins with a marked one is marked. -/
lemma marked_head {x y : α} (h : Shuffles p (x :: xs) (y :: ys)) (hx : p x) : p y := by
  cases h.fixed with
  | cons hplace _ =>
    obtain rfl | ⟨-,hy⟩ := hplace
    · exact hx
    · exact hy

/-- Any marked element can be brought before the other marked ones. -/
theorem exists_first {x : α} (hm : x ∈ xs) (hx : p x) :
    ∃ ys, Shuffles p xs ys ∧ (ys.filter p).head? = some x := by
  induction xs with
  | nil => cases hm
  | cons a xs ih =>
    by_cases ha : p a
    · obtain rfl | hm := List.mem_cons.mp hm
      · exact ⟨x :: xs,refl _,by simp [hx]⟩
      · obtain ⟨before,after,rfl⟩ := List.append_of_mem hm
        refine ⟨x :: (before ++ a :: after),⟨?_,?_⟩,by simp [hx]⟩
        · calc (a :: (before ++ x :: after)).Perm (a :: x :: (before ++ after)) :=
                List.perm_middle.cons a
            List.Perm _ (x :: a :: (before ++ after)) := .swap x a _
            List.Perm _ (x :: (before ++ a :: after)) := List.perm_middle.symm.cons x
        · exact .cons (.inr ⟨ha,hx⟩)
            (List.rel_append (places_refl before) (.cons (.inr ⟨hx,ha⟩) (places_refl after)))
    · obtain rfl | hm := List.mem_cons.mp hm
      · exact absurd hx ha
      · obtain ⟨ys,hys,hhead⟩ := ih hm
        exact ⟨a :: ys,hys.cons a,by simpa [ha] using hhead⟩

end Shuffles
end LiveKBench.Lib
