import LiveKBench.Lib.Coroutine

/-! Coroutines inside a system with more requests than theirs. Each request is made as one of the
system's and its answer is read back; what is known of the coroutine's requests tells which
protocols of the system it follows. -/
namespace LiveKBench.Lib
namespace Coroutine
variable {Req Req' : Type} {Ans : Req → Type} {Ans' : Req' → Type} {ε α : Type} {τ : Type*}

/-- The coroutine with its requests made as `f` says. -/
def lift (f : Req → Req') (g : ∀ r, Ans' (f r) → Ans r) :
    Coroutine Req Ans ε α → Coroutine Req' Ans' ε α
  | .done a => .done a
  | .raise e => .raise e
  | .await r k => .await (f r) fun x => (k (x.map (g r))).lift f g

variable {f : Req → Req'} {g : ∀ r, Ans' (f r) → Ans r} {P : Protocol Req' Ans' ε τ}
  {Q : τ → Except ε α → Prop} {t : τ}

/-- The part of a protocol of the system that is about the requests of the coroutine. -/
def pull (f : Req → Req') (g : ∀ r, Ans' (f r) → Ans r) (P : Protocol Req' Ans' ε τ) :
    Protocol Req Ans ε τ where
  allowed t r := P.allowed t (f r)
  leads t r x t' := ∃ y, x = y.map (g r) ∧ P.leads t (f r) y t'

@[simp] theorem follows_lift {c : Coroutine Req Ans ε α} :
    (c.lift f g).Follows P Q t ↔ c.Follows (pull f g P) Q t := by
  induction c generalizing t with
  | done a => exact Iff.rfl
  | raise e => exact Iff.rfl
  | await r k ih =>
    constructor
    · rintro ⟨ha,h⟩
      refine ⟨ha,?_⟩
      rintro _ t' ⟨y,rfl,hy⟩
      exact (ih _).mp (h y t' hy)
    · rintro ⟨ha,h⟩
      exact ⟨ha,fun y t' hy => (ih _).mpr (h _ t' ⟨y,rfl,hy⟩)⟩

end Coroutine
end LiveKBench.Lib
