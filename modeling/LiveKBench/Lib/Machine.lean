import Mathlib.Data.Nat.Notation
import Mathlib.Logic.Function.Basic
import Mathlib.Tactic.TypeStar

/-! Transition systems whose step is a partial function of an event, and their runs under a
condition on the steps. A run keeps its history, newest step first, so that a statement may
speak of what happened before as well as of the state reached. -/
namespace LiveKBench.Lib

/-- `step s e` is the state after the event `e`, or `none` where `e` cannot happen in `s`. -/
structure Machine (σ ε : Type*) where
  init : σ → Prop
  step : σ → ε → Option σ

namespace Machine
variable {σ ε : Type*} (M : Machine σ ε)

/-- A run from an initial state whose steps all meet `C`, a condition on the state before a step
and its event. -/
inductive Run (C : σ → ε → Prop) : List (σ × ε) → σ → Prop
  | start {s} (initial : M.init s) : Run C [] s
  | next {tr s e s'} (before : Run C tr s) (meets : C s e) (taken : M.step s e = some s') :
      Run C ((s,e) :: tr) s'

/-- The states reached by the runs whose steps all meet `C`. -/
def ReachableBy (C : σ → ε → Prop) (s : σ) : Prop := ∃ tr, M.Run C tr s

/-- The states reached by any run. -/
abbrev Reachable (s : σ) : Prop := M.ReachableBy (fun _ _ => True) s

variable {M} {C D : σ → ε → Prop}

theorem ReachableBy.start {s : σ} (h : M.init s) : M.ReachableBy C s := ⟨[],.start h⟩

theorem ReachableBy.next {s s' : σ} {e : ε} (hs : M.ReachableBy C s) (hc : C s e)
    (h : M.step s e = some s') : M.ReachableBy C s' := by
  obtain ⟨tr,hr⟩ := hs
  exact ⟨_,hr.next hc h⟩

/-- The invariant rule for a property of the history and the state. -/
theorem Run.invariant {I : List (σ × ε) → σ → Prop} {tr : List (σ × ε)} {s : σ}
    (h : M.Run C tr s) (hinit : ∀ s, M.init s → I [] s)
    (hstep : ∀ tr s e s', M.Run C tr s → I tr s → C s e → M.step s e = some s' →
      I ((s,e) :: tr) s') : I tr s := by
  induction h with
  | start hi => exact hinit _ hi
  | next hr hc ht ih => exact hstep _ _ _ _ hr ih hc ht

/-- The invariant rule for a property of the state. The step case may use that the state before
is reachable, so invariants proved earlier serve as lemmas. -/
theorem ReachableBy.invariant {I : σ → Prop} {s : σ} (h : M.ReachableBy C s)
    (hinit : ∀ s, M.init s → I s)
    (hstep : ∀ s e s', M.ReachableBy C s → I s → C s e → M.step s e = some s' → I s') : I s := by
  obtain ⟨tr,hr⟩ := h
  exact hr.invariant (I := fun _ s => I s) hinit
    (fun tr s e s' hr hi hc ht => hstep s e s' ⟨tr,hr⟩ hi hc ht)

theorem Run.mono (himp : ∀ s e, C s e → D s e) {tr : List (σ × ε)} {s : σ}
    (h : M.Run C tr s) : M.Run D tr s := by
  induction h with
  | start hi => exact .start hi
  | next _ hc ht ih => exact ih.next (himp _ _ hc) ht

theorem Run.meets {tr : List (σ × ε)} {s : σ} (h : M.Run C tr s) :
    ∀ s e, (s,e) ∈ tr → C s e := by
  induction h with
  | start hi => simp
  | next _ hc ht ih =>
    intro s e hmem
    rcases List.mem_cons.mp hmem with he | hmem
    · cases he
      exact hc
    · exact ih s e hmem

/-- A run of which more is known meets a stronger condition. -/
theorem Run.restrict {tr : List (σ × ε)} {s : σ} (h : M.Run C tr s)
    (htr : ∀ s e, (s,e) ∈ tr → D s e) : M.Run (fun s e => C s e ∧ D s e) tr s := by
  induction h with
  | start hi => exact .start hi
  | next _ hc ht ih =>
    have hbefore := ih fun s e hmem => htr s e (List.mem_cons_of_mem _ hmem)
    exact hbefore.next ⟨hc,htr _ _ List.mem_cons_self⟩ ht

theorem ReachableBy.mono (himp : ∀ s e, C s e → D s e) {s : σ} (h : M.ReachableBy C s) :
    M.ReachableBy D s := by
  obtain ⟨tr,hr⟩ := h
  exact ⟨tr,hr.mono himp⟩

/-- A change of the condition that may use that the state before is reachable. -/
theorem Run.mono_of_reachable (himp : ∀ s e, M.ReachableBy C s → C s e → D s e)
    {tr : List (σ × ε)} {s : σ} (h : M.Run C tr s) : M.Run D tr s := by
  induction h with
  | start hi => exact .start hi
  | next hr hc ht ih => exact ih.next (himp _ _ ⟨_,hr⟩ hc) ht

theorem ReachableBy.mono_of_reachable (himp : ∀ s e, M.ReachableBy C s → C s e → D s e) {s : σ}
    (h : M.ReachableBy C s) : M.ReachableBy D s := by
  obtain ⟨tr,hr⟩ := h
  exact ⟨tr,hr.mono_of_reachable himp⟩

/-- Where all runs are bounded in length, one of them comes to a state from which no step leads. -/
theorem exists_stuck {n : ℕ} (hinit : ∃ s, M.init s)
    (hbound : ∀ tr s, M.Run C tr s → tr.length ≤ n) :
    ∃ tr s, M.Run C tr s ∧ ∀ e, C s e → M.step s e = none := by
  have hmore : ∀ m tr s, M.Run C tr s → n < tr.length+m →
      ∃ tr s, M.Run C tr s ∧ ∀ e, C s e → M.step s e = none := by
    intro m
    induction m with
    | zero =>
      intro tr s h hlong
      exact absurd (hbound tr s h) (by omega)
    | succ m ih =>
      intro tr s h hlong
      by_cases hstuck : ∀ e, C s e → M.step s e = none
      · exact ⟨tr,s,h,hstuck⟩
      · simp only [not_forall,exists_prop] at hstuck
        obtain ⟨e,hc,hne⟩ := hstuck
        obtain ⟨s',hs'⟩ := Option.ne_none_iff_exists'.mp hne
        exact ih _ s' (h.next hc hs') (by simp; omega)
  obtain ⟨s,hs⟩ := hinit
  exact hmore (n+1) [] s (.start hs) (by simp)

variable (M)

/-- Take the events in order while each can happen and meets the condition, and keep the history. -/
def replay (C : σ → ε → Prop) [∀ s e, Decidable (C s e)] :
    List ε → List (σ × ε) × σ → Option (List (σ × ε) × σ)
  | [], r => some r
  | e :: es, (tr,s) =>
    if C s e then (M.step s e).bind fun s' => replay C es ((s,e) :: tr,s') else none

variable {M}

/-- A replay is a run. -/
theorem Run.replay [∀ s e, Decidable (C s e)] {es : List ε} {tr : List (σ × ε)} {s : σ}
    {r : List (σ × ε) × σ} (hs : M.Run C tr s) (h : M.replay C es (tr,s) = some r) :
    M.Run C r.1 r.2 := by
  induction es generalizing tr s with
  | nil =>
    cases h
    exact hs
  | cons e es ih =>
    by_cases hc : C s e
    · cases ht : M.step s e with
      | none => simp [Machine.replay,hc,ht] at h
      | some u =>
        have hu : M.replay C es ((s,e) :: tr,u) = some r := by
          simpa [Machine.replay,hc,ht] using h
        exact ih (hs.next hc ht) hu
    · simp [Machine.replay,hc] at h

/-- A replay from an initial state that ends where the test `p` is true. -/
theorem exists_run_of_replay (M : Machine σ ε) (C : σ → ε → Prop) [∀ s e, Decidable (C s e)]
    (es : List ε) (p : List (σ × ε) → σ → Bool) {s : σ} (hs : M.init s)
    (h : (M.replay C es ([],s)).any (fun r => p r.1 r.2) = true) :
    ∃ tr s', M.Run C tr s' ∧ p tr s' = true := by
  cases he : M.replay C es ([],s) with
  | none => simp [he] at h
  | some r =>
    rw [he] at h
    exact ⟨r.1,r.2,(Run.start hs).replay he,h⟩

theorem exists_of_replay (M : Machine σ ε) (C : σ → ε → Prop) [∀ s e, Decidable (C s e)]
    (es : List ε) (p : σ → Bool) {s : σ} (hs : M.init s)
    (h : (M.replay C es ([],s)).any (fun r => p r.2) = true) :
    ∃ s', M.ReachableBy C s' ∧ p s' = true := by
  obtain ⟨tr,s',hr,hp⟩ := exists_run_of_replay M C es (fun _ => p) hs h
  exact ⟨s',⟨tr,hr⟩,hp⟩

/-- `P` holds, and it has held in every state from the one to which a step that meets `Q` led. -/
def Since (P : σ → Prop) (Q : σ → ε → Prop) : List (σ × ε) → σ → Prop
  | [],_ => False
  | (s,e) :: tr,s' => P s' ∧ (Q s e ∨ Since P Q tr s)

section Since
variable {P : σ → Prop} {Q : σ → ε → Prop} {tr : List (σ × ε)} {s s' : σ} {e : ε}

theorem Since.holds (h : Since P Q tr s) : P s := by
  cases tr with
  | nil => exact h.elim
  | cons step tr => exact h.1

theorem Since.next (h : Since P Q tr s) (hp : P s') : Since P Q ((s,e) :: tr) s' :=
  ⟨hp,.inr h⟩

theorem since_of_step (hq : Q s e) (hp : P s') : Since P Q ((s,e) :: tr) s' := ⟨hp,.inl hq⟩

end Since

end Machine
end LiveKBench.Lib
