import LiveKBench.Lib.Coroutine
import LiveKBench.Lib.Machine

/-! The tasks of one group over a state that they share with what happens apart from them. Their
awaits interleave, and every await has its answer from the shared state and from outside. A task
keeps the answers that it has got; what may be asked after which answers is the protocol that it
follows, whatever the other tasks do. -/
namespace LiveKBench.Lib

/-- An answer, with the request that it answers. -/
abbrev Answered (Req : Type) (Ans : Req → Type) (ε : Type) : Type := Σ r : Req, Except ε (Ans r)

/-- The protocol whose phase is what has been answered so far. -/
def historyProtocol {Req : Type} {Ans : Req → Type} {ε : Type}
    (allowed : List (Answered Req Ans ε) → Req → Prop) :
    Protocol Req Ans ε (List (Answered Req Ans ε)) where
  allowed := allowed
  leads history r x history' := history' = history ++ [⟨r,x⟩]

/-- `exec` is what a request of a task does to the shared state, under an input from outside. -/
structure SharedGroup (σ ι Req : Type) (Ans : Req → Type) (ε α Input η : Type) where
  body : ι → Coroutine Req Ans ε α
  exec : ι → (r : Req) → σ → Input → Option (σ × Except ε (Ans r))
  other : η → σ → Option σ

namespace SharedGroup
variable {σ ι Req : Type} {Ans : Req → Type} {ε α Input η : Type}

/-- `rest` is what a task still has to run. -/
structure State (σ ι Req : Type) (Ans : Req → Type) (ε α : Type) where
  shared : σ
  rest : ι → Coroutine Req Ans ε α
  answered : ι → List (Answered Req Ans ε)

inductive Event (ι Input η : Type)
  | resume (i : ι) (input : Input)
  | other (e : η)

variable [DecidableEq ι] (G : SharedGroup σ ι Req Ans ε α Input η)

def begun (s : σ) : State σ ι Req Ans ε α := ⟨s,G.body,fun _ => []⟩

/-- A task that has got an answer goes on. -/
def State.resumed (s : State σ ι Req Ans ε α) (i : ι) (r : Req) (x : Except ε (Ans r))
    (c : Coroutine Req Ans ε α) (shared : σ) : State σ ι Req Ans ε α :=
  ⟨shared,Function.update s.rest i c,
    Function.update s.answered i (s.answered i ++ [⟨r,x⟩])⟩

def step (s : State σ ι Req Ans ε α) : Event ι Input η → Option (State σ ι Req Ans ε α)
  | .resume i input =>
    match s.rest i with
    | .await r k =>
      match G.exec i r s.shared input with
      | some (shared,x) => some (s.resumed i r x (k x) shared)
      | none => none
    | _ => none
  | .other e => (G.other e s.shared).map fun shared => { s with shared }

def machine (s : σ) : Machine (State σ ι Req Ans ε α) (Event ι Input η) where
  init s' := s' = G.begun s
  step := G.step

section Rules
variable {G} {s : State σ ι Req Ans ε α} {s₀ : σ}

/-- What one step does. -/
inductive Moves (G : SharedGroup σ ι Req Ans ε α Input η) (s : State σ ι Req Ans ε α) :
    State σ ι Req Ans ε α → Prop
  | resume {i r k input shared x} (awaits : s.rest i = .await r k)
      (exec : G.exec i r s.shared input = some (shared,x)) :
      Moves G s (s.resumed i r x (k x) shared)
  | other {e shared} (happens : G.other e s.shared = some shared) : Moves G s { s with shared }

theorem moves_of_step {s' : State σ ι Req Ans ε α} {e : Event ι Input η}
    (h : G.step s e = some s') : G.Moves s s' := by
  cases e with
  | resume i input =>
    simp only [step] at h
    split at h
    · rename_i r k hawaits
      split at h
      · rename_i shared x hexec
        cases h
        exact .resume hawaits hexec
      · cases h
    · cases h
  | other e =>
    obtain ⟨shared,hother,rfl⟩ := Option.map_eq_some_iff.mp h
    exact .other hother

variable {allowed : ι → List (Answered Req Ans ε) → Req → Prop}
  {Q : ι → List (Answered Req Ans ε) → Except ε α → Prop}

/-- Every task follows its protocol. -/
def Following (allowed : ι → List (Answered Req Ans ε) → Req → Prop)
    (Q : ι → List (Answered Req Ans ε) → Except ε α → Prop) (s : State σ ι Req Ans ε α) : Prop :=
  ∀ i, (s.rest i).Follows (historyProtocol (allowed i)) (Q i) (s.answered i)

lemma Following.step {s' : State σ ι Req Ans ε α} (h : Following allowed Q s)
    (hm : G.Moves s s') : Following allowed Q s' := by
  cases hm with
  | other happens => exact h
  | @resume i r k input shared x awaits exec =>
    intro j
    by_cases hj : j = i
    · subst hj
      have hawait := h j
      rw [awaits] at hawait
      simpa [State.resumed] using hawait.2 x _ rfl
    · simpa [State.resumed,Function.update_of_ne hj] using h j

/-- In every state reached the tasks follow the protocols that their bodies follow. -/
theorem following_of_reachable
    (hbody : ∀ i, (G.body i).Follows (historyProtocol (allowed i)) (Q i) [])
    (h : (G.machine s₀).Reachable s) : Following allowed Q s := by
  refine h.invariant ?_ ?_
  · rintro _ rfl
    exact hbody
  · intro s e s' _ hi _ ht
    exact hi.step (moves_of_step ht)

omit [DecidableEq ι] in
/-- What holds of a task that has ended. -/
theorem Following.ended (h : Following allowed Q s) {i : ι} {a : α} (hdone : s.rest i = .done a) :
    Q i (s.answered i) (.ok a) := by
  have hi := h i
  rwa [hdone] at hi

omit [DecidableEq ι] in
theorem Following.raised (h : Following allowed Q s) {i : ι} {e : ε}
    (hraise : s.rest i = .raise e) : Q i (s.answered i) (.error e) := by
  have hi := h i
  rwa [hraise] at hi

/-- The invariant rule for the shared state and the answers: a request changes them only where the
task's protocol allows it. -/
theorem invariant_of_reachable {I : σ → (ι → List (Answered Req Ans ε)) → Prop}
    (hbody : ∀ i, (G.body i).Follows (historyProtocol (allowed i)) (Q i) [])
    (hinit : I s₀ fun _ => [])
    (hexec : ∀ s answered i r input s' x, I s answered → allowed i (answered i) r →
      G.exec i r s input = some (s',x) →
      I s' (Function.update answered i (answered i ++ [⟨r,x⟩])))
    (hother : ∀ s answered e s', I s answered → G.other e s = some s' → I s' answered)
    (h : (G.machine s₀).Reachable s) : I s.shared s.answered := by
  refine h.invariant (I := fun s => I s.shared s.answered) ?_ ?_
  · rintro _ rfl
    exact hinit
  · intro s e s' hs hi _ ht
    cases moves_of_step ht with
    | other happens => exact hother _ _ _ _ hi happens
    | @resume i r k input shared x awaits exec =>
      have hfollows := following_of_reachable hbody hs i
      rw [awaits] at hfollows
      exact hexec _ _ _ _ _ _ _ hi hfollows.1 exec

end Rules
end SharedGroup
end LiveKBench.Lib
