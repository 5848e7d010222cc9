import LiveKBench.Lib.Coroutine

/-! The ways a coroutine can go. A play is one of them: the requests with what each was answered,
in order, and the outcome. -/
namespace LiveKBench.Lib.Coroutine

/-- A request with its answer. -/
abbrev Exchange (Req : Type) (Ans : Req → Type) (ε : Type) := (r : Req) × Except ε (Ans r)

variable {Req : Type} {Ans : Req → Type} {ε α β : Type}

inductive Plays : Coroutine Req Ans ε α → List (Exchange Req Ans ε) → Except ε α → Prop
  | done (a : α) : Plays (.done a) [] (.ok a)
  | raise (e : ε) : Plays (.raise e) [] (.error e)
  | await {r : Req} {k : Except ε (Ans r) → Coroutine Req Ans ε α} (answer : Except ε (Ans r))
      {history : List (Exchange Req Ans ε)} {x : Except ε α} (rest : Plays (k answer) history x) :
      Plays (.await r k) (⟨r,answer⟩ :: history) x

variable {history : List (Exchange Req Ans ε)}

@[simp] theorem plays_pure {a : α} {x : Except ε α} :
    (pure a : Coroutine Req Ans ε α).Plays history x ↔ history = [] ∧ x = .ok a := by
  constructor
  · intro h
    cases h
    exact ⟨rfl,rfl⟩
  · rintro ⟨rfl,rfl⟩
    exact .done a

@[simp] theorem plays_throw {e : ε} {x : Except ε α} :
    (throw e : Coroutine Req Ans ε α).Plays history x ↔ history = [] ∧ x = .error e := by
  constructor
  · intro h
    cases h
    exact ⟨rfl,rfl⟩
  · rintro ⟨rfl,rfl⟩
    exact .raise e

@[simp] theorem plays_ofExcept {y x : Except ε α} :
    (ofExcept y : Coroutine Req Ans ε α).Plays history x ↔ history = [] ∧ x = y := by
  cases y with
  | ok a => exact plays_pure
  | error e => exact plays_throw

@[simp] theorem plays_request {r : Req} {x : Except ε (Ans r)} :
    (request r).Plays history x ↔ history = [⟨r,x⟩] := by
  constructor
  · intro h
    cases h with
    | await answer rest =>
      cases answer with
      | ok a =>
        cases rest
        rfl
      | error e =>
        cases rest
        rfl
  · rintro rfl
    refine .await x ?_
    cases x with
    | ok a => exact .done a
    | error e => exact .raise e

/-- The rule of sequences: the second part plays after the first one, or the first part raises. -/
theorem plays_bind {c : Coroutine Req Ans ε α} {f : α → Coroutine Req Ans ε β} {x : Except ε β} :
    (c >>= f).Plays history x ↔
      (∃ a earlier later, history = earlier ++ later ∧ c.Plays earlier (.ok a) ∧
        (f a).Plays later x) ∨
      ∃ e, x = .error e ∧ c.Plays history (.error e) := by
  induction c generalizing history with
  | done a =>
    constructor
    · intro h
      exact .inl ⟨a,[],history,rfl,.done a,h⟩
    · rintro (⟨a',earlier,later,rfl,hc,hf⟩ | ⟨e,-,hc⟩)
      · cases hc
        exact hf
      · cases hc
  | raise e =>
    constructor
    · intro h
      cases h
      exact .inr ⟨e,rfl,.raise e⟩
    · rintro (⟨a',earlier,later,rfl,hc,-⟩ | ⟨e',rfl,hc⟩)
      · cases hc
      · cases hc
        exact .raise e
  | await r k ih =>
    constructor
    · intro h
      cases h with
      | await answer rest =>
        obtain ⟨a,earlier,later,rfl,hc,hf⟩ | ⟨e,rfl,hc⟩ := (ih answer).mp rest
        · exact .inl ⟨a,⟨r,answer⟩ :: earlier,later,rfl,.await answer hc,hf⟩
        · exact .inr ⟨e,rfl,.await answer hc⟩
    · rintro (⟨a,earlier,later,rfl,hc,hf⟩ | ⟨e,rfl,hc⟩)
      · cases hc with
        | await answer rest =>
          exact .await answer ((ih answer).mpr (.inl ⟨a,_,later,rfl,rest,hf⟩))
      · cases hc with
        | await answer rest => exact .await answer ((ih answer).mpr (.inr ⟨e,rfl,rest⟩))

theorem plays_bind_ok {c : Coroutine Req Ans ε α} {f : α → Coroutine Req Ans ε β} {b : β} :
    (c >>= f).Plays history (.ok b) ↔
      ∃ a earlier later, history = earlier ++ later ∧ c.Plays earlier (.ok a) ∧
        (f a).Plays later (.ok b) := by
  rw [plays_bind]
  constructor
  · rintro (h | ⟨e,he,-⟩)
    · exact h
    · cases he
  · exact .inl

/-- What holds of every play of the parts of a traversal, and of plays one after the other, holds
of the play of the traversal. -/
theorem history_of_plays_mapM' {P : List (Exchange Req Ans ε) → Prop} (hnil : P [])
    (happend : ∀ earlier later, P earlier → P later → P (earlier ++ later))
    {f : α → Coroutine Req Ans ε β}
    (hf : ∀ a history b, (f a).Plays history (.ok b) → P history) {xs : List α} {ys : List β}
    (h : (xs.mapM' f).Plays history (.ok ys)) : P history := by
  induction xs generalizing history ys with
  | nil =>
    rw [(plays_pure.mp h).1]
    exact hnil
  | cons x xs ih =>
    obtain ⟨y,earlier,later,rfl,hx,hrest⟩ := plays_bind_ok.mp h
    obtain ⟨ys',earlier',later',rfl,hxs,hpure⟩ := plays_bind_ok.mp hrest
    rw [(plays_pure.mp hpure).1,List.append_nil]
    exact happend _ _ (hf x _ _ hx) (ih hxs)

/-- A run under fixed answers is a play. -/
theorem plays_run (answers : (r : Req) → Except ε (Ans r)) (c : Coroutine Req Ans ε α) :
    c.Plays ((c.run answers).1.map fun r => ⟨r,answers r⟩) (c.run answers).2 := by
  induction c with
  | done a => exact .done a
  | raise e => exact .raise e
  | await r k ih => exact .await (answers r) (ih (answers r))

end LiveKBench.Lib.Coroutine
