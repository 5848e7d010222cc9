import Mathlib.Data.Nat.Notation
import Mathlib.Tactic.Lemma
import Mathlib.Tactic.TypeStar

/-! Coroutines as their runs unfold: at each await one of them makes a request, and the answer, a
value or an exception, decides how it goes on. A protocol says which requests may be made in which
phase and where the answers lead; the rules here tell that a coroutine follows one. -/
namespace LiveKBench.Lib

inductive Coroutine (Req : Type) (Ans : Req → Type) (ε α : Type)
  | done (a : α)
  | raise (e : ε)
  | await (r : Req) (k : Except ε (Ans r) → Coroutine Req Ans ε α)

namespace Coroutine
variable {Req : Type} {Ans : Req → Type} {ε α β : Type}

/-- One await; what the answer raises is raised here. -/
def request (r : Req) : Coroutine Req Ans ε (Ans r) :=
  .await r fun
    | .ok a => .done a
    | .error e => .raise e

protected def bind : Coroutine Req Ans ε α → (α → Coroutine Req Ans ε β) → Coroutine Req Ans ε β
  | .done a, f => f a
  | .raise e, _ => .raise e
  | .await r k, f => .await r fun x => (k x).bind f

/-- `try: … except`: the handler takes over where the body raises. -/
protected def tryCatch : Coroutine Req Ans ε α → (ε → Coroutine Req Ans ε α) →
    Coroutine Req Ans ε α
  | .done a, _ => .done a
  | .raise e, h => h e
  | .await r k, h => .await r fun x => (k x).tryCatch h

instance : Monad (Coroutine Req Ans ε) where
  pure := .done
  bind := Coroutine.bind

instance : MonadExcept ε (Coroutine Req Ans ε) where
  throw := .raise
  tryCatch := Coroutine.tryCatch

/-- A function that raises where it does not return. -/
def ofExcept : Except ε α → Coroutine Req Ans ε α
  | .ok a => .done a
  | .error e => .raise e

/-- Every run ends after at most `n` awaits. -/
def Within : Coroutine Req Ans ε α → ℕ → Prop
  | .done _, _ => True
  | .raise _, _ => True
  | .await _ _, 0 => False
  | .await _ k, n+1 => ∀ x, (k x).Within n

end Coroutine

/-- Which requests are allowed in a phase, and the phases to which an answer may lead. An answer
that leads to no phase is not given. -/
structure Protocol (Req : Type) (Ans : Req → Type) (ε : Type) (τ : Type*) where
  allowed : τ → Req → Prop
  leads : τ → (r : Req) → Except ε (Ans r) → τ → Prop

namespace Coroutine
variable {Req : Type} {Ans : Req → Type} {ε α β : Type} {τ : Type*}
  {P : Protocol Req Ans ε τ} {Q Q' : τ → Except ε α → Prop} {t : τ}

/-- From the phase `t` on the coroutine makes allowed requests only, and where it ends its phase
and its outcome meet `Q`. -/
def Follows (P : Protocol Req Ans ε τ) (Q : τ → Except ε α → Prop) :
    Coroutine Req Ans ε α → τ → Prop
  | .done a, t => Q t (.ok a)
  | .raise e, t => Q t (.error e)
  | .await r k, t => P.allowed t r ∧ ∀ x t', P.leads t r x t' → (k x).Follows P Q t'

@[simp] theorem follows_done {a : α} : (done a : Coroutine Req Ans ε α).Follows P Q t ↔
    Q t (.ok a) := Iff.rfl

@[simp] theorem follows_pure {a : α} : (pure a : Coroutine Req Ans ε α).Follows P Q t ↔
    Q t (.ok a) := Iff.rfl

@[simp] theorem follows_raise {e : ε} : (raise e : Coroutine Req Ans ε α).Follows P Q t ↔
    Q t (.error e) := Iff.rfl

@[simp] theorem follows_throw {e : ε} : (throw e : Coroutine Req Ans ε α).Follows P Q t ↔
    Q t (.error e) := Iff.rfl

theorem follows_await {r : Req} {k : Except ε (Ans r) → Coroutine Req Ans ε α} :
    (await r k).Follows P Q t ↔
      P.allowed t r ∧ ∀ x t', P.leads t r x t' → (k x).Follows P Q t' := Iff.rfl

@[simp] theorem follows_request {r : Req} {Q : τ → Except ε (Ans r) → Prop} :
    (request r).Follows P Q t ↔ P.allowed t r ∧ ∀ x t', P.leads t r x t' → Q t' x := by
  constructor
  · rintro ⟨ha,h⟩
    refine ⟨ha,fun x t' hx => ?_⟩
    cases x with
    | ok a => exact h _ _ hx
    | error e => exact h _ _ hx
  · rintro ⟨ha,h⟩
    refine ⟨ha,fun x t' hx => ?_⟩
    cases x with
    | ok a => exact h _ _ hx
    | error e => exact h _ _ hx

/-- What the rest of a sequence has to meet, after its first part. -/
def After (P : Protocol Req Ans ε τ) (Q : τ → Except ε β → Prop)
    (f : α → Coroutine Req Ans ε β) (t : τ) : Except ε α → Prop
  | .ok a => (f a).Follows P Q t
  | .error e => Q t (.error e)

@[simp] theorem after_ok {Q : τ → Except ε β → Prop} {f : α → Coroutine Req Ans ε β} {a : α} :
    After P Q f t (.ok a) ↔ (f a).Follows P Q t := Iff.rfl

@[simp] theorem after_error {Q : τ → Except ε β → Prop} {f : α → Coroutine Req Ans ε β} {e : ε} :
    After P Q f t (.error e) ↔ Q t (.error e) := Iff.rfl

/-- The rule of sequences. -/
@[simp] theorem follows_bind {Q : τ → Except ε β → Prop} {c : Coroutine Req Ans ε α}
    {f : α → Coroutine Req Ans ε β} :
    (c >>= f).Follows P Q t ↔ c.Follows P (After P Q f) t := by
  induction c generalizing t with
  | done a => exact Iff.rfl
  | raise e => exact Iff.rfl
  | await r k ih =>
    constructor
    · rintro ⟨ha,h⟩
      exact ⟨ha,fun x t' hx => (ih x).mp (h x t' hx)⟩
    · rintro ⟨ha,h⟩
      exact ⟨ha,fun x t' hx => (ih x).mpr (h x t' hx)⟩

/-- What a handler has to meet, after the body. -/
def Handled (P : Protocol Req Ans ε τ) (Q : τ → Except ε α → Prop)
    (h : ε → Coroutine Req Ans ε α) (t : τ) : Except ε α → Prop
  | .ok a => Q t (.ok a)
  | .error e => (h e).Follows P Q t

@[simp] theorem handled_ok {h : ε → Coroutine Req Ans ε α} {a : α} :
    Handled P Q h t (.ok a) ↔ Q t (.ok a) := Iff.rfl

@[simp] theorem handled_error {h : ε → Coroutine Req Ans ε α} {e : ε} :
    Handled P Q h t (.error e) ↔ (h e).Follows P Q t := Iff.rfl

/-- The rule of handlers. -/
@[simp] theorem follows_tryCatch {c : Coroutine Req Ans ε α} {h : ε → Coroutine Req Ans ε α} :
    (tryCatch c h).Follows P Q t ↔ c.Follows P (Handled P Q h) t := by
  induction c generalizing t with
  | done a => exact Iff.rfl
  | raise e => exact Iff.rfl
  | await r k ih =>
    constructor
    · rintro ⟨ha,hk⟩
      exact ⟨ha,fun x t' hx => (ih x).mp (hk x t' hx)⟩
    · rintro ⟨ha,hk⟩
      exact ⟨ha,fun x t' hx => (ih x).mpr (hk x t' hx)⟩

/-- The rule of consequence. -/
theorem Follows.mono {c : Coroutine Req Ans ε α} (h : c.Follows P Q t)
    (himp : ∀ t x, Q t x → Q' t x) : c.Follows P Q' t := by
  induction c generalizing t with
  | done a => exact himp _ _ h
  | raise e => exact himp _ _ h
  | await r k ih => exact ⟨h.1,fun x t' hx => ih x (h.2 x t' hx)⟩

theorem Within.mono {c : Coroutine Req Ans ε α} {m n : ℕ} (h : c.Within m) (hmn : m ≤ n) :
    c.Within n := by
  induction c generalizing m n with
  | done a => trivial
  | raise e => trivial
  | await r k ih =>
    cases m with
    | zero => exact h.elim
    | succ m =>
      cases n with
      | zero => omega
      | succ n => exact fun x => ih x (h x) (by omega)

theorem within_request (r : Req) : (request r : Coroutine Req Ans ε (Ans r)).Within 1 := by
  intro x
  cases x <;> trivial

theorem within_pure (a : α) (n : ℕ) : (pure a : Coroutine Req Ans ε α).Within n := trivial

theorem Within.bind {c : Coroutine Req Ans ε α} {f : α → Coroutine Req Ans ε β} {m n : ℕ}
    (h : c.Within m) (hf : ∀ a, (f a).Within n) : (c >>= f).Within (m+n) := by
  induction c generalizing m with
  | done a => exact (hf a).mono (by omega)
  | raise e => trivial
  | await r k ih =>
    cases m with
    | zero => exact h.elim
    | succ m =>
      rw [Nat.succ_add]
      exact fun x => ih x (h x)

theorem Within.tryCatch {c : Coroutine Req Ans ε α} {f : ε → Coroutine Req Ans ε α} {m n : ℕ}
    (h : c.Within m) (hf : ∀ e, (f e).Within n) : (tryCatch c f).Within (m+n) := by
  induction c generalizing m with
  | done a => trivial
  | raise e => exact (hf e).mono (by omega)
  | await r k ih =>
    cases m with
    | zero => exact h.elim
    | succ m =>
      rw [Nat.succ_add]
      exact fun x => ih x (h x)

section Makes
variable {Req : Type} {Ans : Req → Type} {ε α β : Type} {P Q : Req → Prop}

/-- Every request of the coroutine, whatever it is answered, meets `P`. -/
def Makes (P : Req → Prop) : Coroutine Req Ans ε α → Prop
  | .done _ => True
  | .raise _ => True
  | .await r k => P r ∧ ∀ x, (k x).Makes P

theorem makes_pure (a : α) : (pure a : Coroutine Req Ans ε α).Makes P := trivial

theorem makes_throw (e : ε) : (throw e : Coroutine Req Ans ε α).Makes P := trivial

theorem makes_request {r : Req} (h : P r) : (request r : Coroutine Req Ans ε (Ans r)).Makes P := by
  refine ⟨h,fun x => ?_⟩
  cases x <;> trivial

theorem Makes.bind {c : Coroutine Req Ans ε α} {f : α → Coroutine Req Ans ε β} (h : c.Makes P)
    (hf : ∀ a, (f a).Makes P) : (c >>= f).Makes P := by
  induction c with
  | done a => exact hf a
  | raise e => trivial
  | await r k ih => exact ⟨h.1,fun x => ih x (h.2 x)⟩

theorem Makes.tryCatch {c : Coroutine Req Ans ε α} {f : ε → Coroutine Req Ans ε α}
    (h : c.Makes P) (hf : ∀ e, (f e).Makes P) : (tryCatch c f).Makes P := by
  induction c with
  | done a => trivial
  | raise e => exact hf e
  | await r k ih => exact ⟨h.1,fun x => ih x (h.2 x)⟩

theorem Makes.mono {c : Coroutine Req Ans ε α} (h : c.Makes P) (himp : ∀ r, P r → Q r) :
    c.Makes Q := by
  induction c with
  | done a => trivial
  | raise e => trivial
  | await r k ih => exact ⟨himp r h.1,fun x => ih x (h.2 x)⟩

theorem makes_ite (b : Bool) {c d : Coroutine Req Ans ε α} (hc : c.Makes P) (hd : d.Makes P) :
    (if b then c else d).Makes P := by
  cases b with
  | true => exact hc
  | false => exact hd

end Makes

section Run
variable {Req : Type} {Ans : Req → Type} {ε α β : Type}

/-- The requests that the coroutine makes under the answers, and how it ends. -/
def run (answers : (r : Req) → Except ε (Ans r)) : Coroutine Req Ans ε α → List Req × Except ε α
  | .done a => ([],.ok a)
  | .raise e => ([],.error e)
  | .await r k => (r :: ((k (answers r)).run answers).1,((k (answers r)).run answers).2)

variable {answers : (r : Req) → Except ε (Ans r)}

@[simp] theorem run_done (a : α) : (done a : Coroutine Req Ans ε α).run answers = ([],.ok a) := rfl

@[simp] theorem run_pure (a : α) : (pure a : Coroutine Req Ans ε α).run answers = ([],.ok a) := rfl

@[simp] theorem run_raise (e : ε) : (raise e : Coroutine Req Ans ε α).run answers =
    ([],.error e) := rfl

@[simp] theorem run_throw (e : ε) : (throw e : Coroutine Req Ans ε α).run answers =
    ([],.error e) := rfl

@[simp] theorem run_request (r : Req) : (request r : Coroutine Req Ans ε (Ans r)).run answers =
    ([r],answers r) := by
  unfold request run
  cases answers r <;> rfl

theorem Makes.of_mem_run {P : Req → Prop} {c : Coroutine Req Ans ε α} (h : c.Makes P) :
    ∀ r ∈ (c.run answers).1, P r := by
  induction c with
  | done a => exact fun _ hr => absurd hr List.not_mem_nil
  | raise e => exact fun _ hr => absurd hr List.not_mem_nil
  | await r k ih =>
    intro r' hr'
    obtain rfl | hr' := List.mem_cons.mp hr'
    · exact h.1
    · exact ih _ (h.2 _) r' hr'

/-- The rest of a sequence runs where its first part does not raise. -/
def runAfter (answers : (r : Req) → Except ε (Ans r)) (f : α → Coroutine Req Ans ε β) :
    List Req × Except ε α → List Req × Except ε β
  | (rs,.ok a) => (rs ++ ((f a).run answers).1,((f a).run answers).2)
  | (rs,.error e) => (rs,.error e)

theorem run_bind (c : Coroutine Req Ans ε α) (f : α → Coroutine Req Ans ε β) :
    (c >>= f).run answers = runAfter answers f (c.run answers) := by
  induction c with
  | done a => rfl
  | raise e => rfl
  | await r k ih =>
    have hk := ih (answers r)
    change (r :: ((k (answers r) >>= f).run answers).1,((k (answers r) >>= f).run answers).2) = _
    rw [hk,run]
    cases (k (answers r)).run answers with
    | mk rs x => cases x <;> rfl

theorem run_bind_of_ok {c : Coroutine Req Ans ε α} {f : α → Coroutine Req Ans ε β} {a : α}
    {rs : List Req} (h : c.run answers = (rs,.ok a)) :
    (c >>= f).run answers = (rs ++ ((f a).run answers).1,((f a).run answers).2) := by
  rw [run_bind,h,runAfter]

/-- A handler runs where the body raises. -/
theorem run_tryCatch (c : Coroutine Req Ans ε α) (h : ε → Coroutine Req Ans ε α) :
    (tryCatch c h).run answers =
      match c.run answers with
      | (rs,.ok a) => (rs,.ok a)
      | (rs,.error e) => (rs ++ ((h e).run answers).1,((h e).run answers).2) := by
  induction c with
  | done a => rfl
  | raise e => rfl
  | await r k ih =>
    have hk := ih (answers r)
    change (r :: ((tryCatch (k (answers r)) h).run answers).1,
      ((tryCatch (k (answers r)) h).run answers).2) = _
    rw [hk,run]
    cases (k (answers r)).run answers with
    | mk rs x => cases x <;> rfl

/-- Under the answers the coroutine returns the value. -/
def Returns (answers : (r : Req) → Except ε (Ans r)) (c : Coroutine Req Ans ε α) (a : α) : Prop :=
  (c.run answers).2 = .ok a

@[simp] theorem returns_done {a b : α} :
    (done a : Coroutine Req Ans ε α).Returns answers b ↔ a = b := Except.ok.injEq a b ▸ Iff.rfl

@[simp] theorem returns_pure {a b : α} :
    (pure a : Coroutine Req Ans ε α).Returns answers b ↔ a = b := returns_done

@[simp] theorem returns_throw {e : ε} {a : α} :
    (throw e : Coroutine Req Ans ε α).Returns answers a ↔ False := iff_of_false nofun not_false

@[simp] theorem returns_request {r : Req} {x : Ans r} :
    (request r : Coroutine Req Ans ε (Ans r)).Returns answers x ↔ answers r = .ok x := by
  rw [Returns,run_request]

@[simp] theorem returns_bind {c : Coroutine Req Ans ε α} {f : α → Coroutine Req Ans ε β} {b : β} :
    (c >>= f).Returns answers b ↔ ∃ a, c.Returns answers a ∧ (f a).Returns answers b := by
  rw [Returns,run_bind]
  unfold Returns
  cases c.run answers with
  | mk rs x =>
    cases x with
    | ok a => simp [runAfter]
    | error e => simp [runAfter]

theorem returns_seq {c : Coroutine Req Ans ε Unit} {d : Coroutine Req Ans ε β} {b : β} :
    (c >>= fun _ => d).Returns answers b ↔ c.Returns answers () ∧ d.Returns answers b := by
  rw [returns_bind]
  constructor
  · rintro ⟨⟨⟩,hc,hd⟩
    exact ⟨hc,hd⟩
  · rintro ⟨hc,hd⟩
    exact ⟨(),hc,hd⟩

/-- A coroutine that does not return raises. -/
theorem exists_error_of_not_returns {c : Coroutine Req Ans ε α} (h : ¬∃ a, c.Returns answers a) :
    ∃ e, (c.run answers).2 = .error e := by
  cases hx : (c.run answers).2 with
  | ok a => exact absurd ⟨a,hx⟩ h
  | error e => exact ⟨e,rfl⟩

end Run

end Coroutine
end LiveKBench.Lib
