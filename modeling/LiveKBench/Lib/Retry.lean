import Mathlib.Data.Nat.Basic

/-! A bounded number of attempts, each made when the one before has run out of time. -/
namespace LiveKBench.Lib

/-- How an attempt ends, and the state it leaves. -/
inductive Attempt (σ : Type*)
  | returned (after : σ)
  | timedOut (after : σ)
  | raised (after : σ)

section Retry
variable {σ : Type*}

/-- The next attempt follows a time-out only. -/
def Attempt.orElse (a : Attempt σ) (next : σ → Attempt σ) : Attempt σ :=
  match a with
  | .returned s => .returned s
  | .timedOut s => next s
  | .raised s => .raised s

/-- The first `n` attempts, up to one that does not time out. -/
def retry (attempts : ℕ → σ → Attempt σ) (s : σ) : ℕ → Attempt σ
  | 0 => .timedOut s
  | n+1 => (retry attempts s n).orElse (attempts n)

variable {attempts : ℕ → σ → Attempt σ} {s : σ}

@[simp] theorem retry_zero : retry attempts s 0 = .timedOut s := rfl

theorem retry_succ_timedOut {n : ℕ} {s' : σ} :
    retry attempts s (n+1) = .timedOut s' ↔
      ∃ s₁, retry attempts s n = .timedOut s₁ ∧ attempts n s₁ = .timedOut s' := by
  rw [retry]
  cases retry attempts s n <;> simp [Attempt.orElse]

/-- What every attempt that returns brings about holds when the loop is left by one. -/
theorem retry_returned {Q : σ → Prop} (hQ : ∀ i s s', attempts i s = .returned s' → Q s') {n : ℕ}
    {s' : σ} (h : retry attempts s n = .returned s') : Q s' := by
  induction n with
  | zero => cases h
  | succ n ih =>
    rw [retry] at h
    cases hn : retry attempts s n with
    | returned s₁ =>
      rw [hn] at h
      exact ih (hn.trans h)
    | timedOut s₁ =>
      rw [hn] at h
      exact hQ n s₁ s' h
    | raised s₁ =>
      rw [hn] at h
      cases h

/-- When the attempts are spent, each of them has timed out. -/
theorem retry_spent {n : ℕ} {s' : σ} (h : retry attempts s n = .timedOut s') {i : ℕ} (hi : i < n) :
    ∃ s₁ s₂, attempts i s₁ = .timedOut s₂ := by
  induction n generalizing s' with
  | zero => omega
  | succ n ih =>
    obtain ⟨s₁,hn,hlast⟩ := retry_succ_timedOut.mp h
    by_cases hin : i = n
    · exact ⟨s₁,s',hin ▸ hlast⟩
    · exact ih hn (by omega)

/-- Time-outs that leave the state alone leave it alone together. -/
theorem retry_of_idle {n : ℕ} (h : ∀ i < n, attempts i s = .timedOut s) :
    retry attempts s n = .timedOut s := by
  induction n with
  | zero => rfl
  | succ n ih =>
    apply retry_succ_timedOut.mpr
    exact ⟨s,ih fun i hi => h i (by omega),h n (by omega)⟩

end Retry

end LiveKBench.Lib
