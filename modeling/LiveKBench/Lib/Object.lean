import Mathlib.Data.List.Forall2
import Mathlib.Tactic.Lemma
import Mathlib.Tactic.TypeStar

/-! Objects that answer calls, and when the answers of one are those of another. -/
namespace LiveKBench.Lib

/-- What an object does on a call: its next state and its answer. -/
structure Object (σ κ ω : Type*) where
  step : σ → κ → σ × ω

namespace Object
variable {σ τ κ ω ω' : Type*}

/-- The state that a sequence of calls leads to. -/
def after (O : Object σ κ ω) (s : σ) (calls : List κ) : σ :=
  calls.foldl (fun s c => (O.step s c).1) s

def answers (O : Object σ κ ω) : σ → List κ → List ω
  | _, [] => []
  | s, c :: calls => (O.step s c).2 :: O.answers (O.step s c).1 calls

/-- Each call meets the condition in the state in which it comes. -/
def Along (O : Object σ κ ω) (C : σ → κ → Prop) : σ → List κ → Prop
  | _, [] => True
  | s, c :: calls => C s c ∧ O.Along C (O.step s c).1 calls

instance (O : Object σ κ ω) (C : σ → κ → Prop) [∀ s c, Decidable (C s c)] :
    (s : σ) → (calls : List κ) → Decidable (O.Along C s calls)
  | _, [] => isTrue trivial
  | s, c :: calls =>
    haveI := instDecidableAlong O C (O.step s c).1 calls
    inferInstanceAs (Decidable (C s c ∧ O.Along C (O.step s c).1 calls))

section Simulation
variable {O : Object σ κ ω} {P : Object τ κ ω'} {C : σ → κ → Prop} {R : σ → τ → Prop}
  {same : ω → ω' → Prop}

/-- Where each call keeps two states related and is answered in the same way, so is a sequence of
calls. -/
theorem answers_of_simulation
    (hstep : ∀ s t c, R s t → C s c →
      R (O.step s c).1 (P.step t c).1 ∧ same (O.step s c).2 (P.step t c).2)
    {s : σ} {t : τ} {calls : List κ} (h : R s t) (hc : O.Along C s calls) :
    R (O.after s calls) (P.after t calls) ∧
      List.Forall₂ same (O.answers s calls) (P.answers t calls) := by
  induction calls generalizing s t with
  | nil => exact ⟨h,.nil⟩
  | cons c calls ih =>
    obtain ⟨hnext,hsame⟩ := hstep s t c h hc.1
    obtain ⟨hafter,hanswers⟩ := ih hnext hc.2
    exact ⟨hafter,.cons hsame hanswers⟩

end Simulation
end Object
end LiveKBench.Lib
