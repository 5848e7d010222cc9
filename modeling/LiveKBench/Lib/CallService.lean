import LiveKBench.Lib.Refinement

/-! What a remote procedure call promises over a transport that may deliver a request again: a call
is executed any number of times, each time on its own argument, and is answered at most once, with
the reply of one of these executions. -/
namespace LiveKBench.Lib

/-- `accepts a i` says that `i` is an execution of the argument `a`, and `reply` is what it sends
back. -/
structure CallService (α ι ρ : Type*) where
  accepts : α → ι → Prop
  reply : ι → ρ

namespace CallService
variable {κ α ι ρ : Type*}

structure State (κ α ι ρ : Type*) where
  asked : κ → Option α
  executions : κ → List ι
  answer : κ → Option ρ

inductive Event (κ α ι ρ : Type*)
  | ask (k : κ) (a : α)
  | execute (k : κ) (i : ι)
  | answer (k : κ) (r : ρ)

section Machine
variable [DecidableEq κ]

open Classical in
noncomputable def step (S : CallService α ι ρ) (s : State κ α ι ρ) :
    Event κ α ι ρ → Option (State κ α ι ρ)
  | .ask k a =>
    if s.asked k = none then some { s with asked := Function.update s.asked k (some a) } else none
  | .execute k i =>
    if ∃ a, s.asked k = some a ∧ S.accepts a i then
      some { s with executions := Function.update s.executions k (i :: s.executions k) }
    else none
  | .answer k r =>
    if s.answer k = none ∧ ∃ i ∈ s.executions k, S.reply i = r then
      some { s with answer := Function.update s.answer k (some r) }
    else none

noncomputable def machine (S : CallService α ι ρ) : Machine (State κ α ι ρ) (Event κ α ι ρ) where
  init s := s = ⟨fun _ => none,fun _ => [],fun _ => none⟩
  step := S.step

end Machine

variable {S : CallService α ι ρ} {s s' : State κ α ι ρ} {tr : List (State κ α ι ρ × Event κ α ι ρ)}

/-- What a step can do. -/
inductive Moves (S : CallService α ι ρ) [DecidableEq κ] (s : State κ α ι ρ) :
    Event κ α ι ρ → State κ α ι ρ → Prop
  | ask {k a} (fresh : s.asked k = none) :
      Moves S s (.ask k a) { s with asked := Function.update s.asked k (some a) }
  | execute {k i a} (asked : s.asked k = some a) (accepts : S.accepts a i) :
      Moves S s (.execute k i)
        { s with executions := Function.update s.executions k (i :: s.executions k) }
  | answer {k i} (unanswered : s.answer k = none) (executed : i ∈ s.executions k) :
      Moves S s (.answer k (S.reply i))
        { s with answer := Function.update s.answer k (some (S.reply i)) }

variable [DecidableEq κ]

theorem moves_of_step {e : Event κ α ι ρ} (h : S.step s e = some s') : Moves S s e s' := by
  cases e with
  | ask k a =>
    by_cases hk : s.asked k = none
    · obtain rfl : { s with asked := Function.update s.asked k (some a) } = s' := by
        simpa [step,hk] using h
      exact .ask hk
    · simp [step,hk] at h
  | execute k i =>
    by_cases hk : ∃ a, s.asked k = some a ∧ S.accepts a i
    · simp only [step,if_pos hk,Option.some.injEq] at h
      obtain ⟨a,ha,hi⟩ := hk
      exact h ▸ .execute ha hi
    · simp [step,if_neg hk] at h
  | answer k r =>
    by_cases hk : s.answer k = none ∧ ∃ i ∈ s.executions k, S.reply i = r
    · simp only [step,if_pos hk,Option.some.injEq] at h
      obtain ⟨hnone,i,hi,rfl⟩ := hk
      exact h ▸ .answer hnone hi
    · simp [step,if_neg hk] at h

theorem step_of_moves {e : Event κ α ι ρ} (h : Moves S s e s') : S.step s e = some s' := by
  cases h with
  | ask fresh => simp [step,fresh]
  | execute asked accepts => exact if_pos ⟨_,asked,accepts⟩
  | answer unanswered executed => exact if_pos ⟨unanswered,_,executed,rfl⟩

/-- The executions of a call are those that happened, and all of them are of its argument. -/
theorem mem_executions (h : S.machine.Run (fun _ _ => True) tr s) {k : κ} {i : ι}
    (hi : i ∈ s.executions k) :
    .execute k i ∈ tr.map Prod.snd ∧ ∃ a, s.asked k = some a ∧ S.accepts a i := by
  induction h with
  | start hinit =>
    obtain rfl := hinit
    cases hi
  | @next tr s e s' _ _ ht ih =>
    cases moves_of_step ht with
    | @ask k' a fresh =>
      obtain ⟨hmem,a',ha',hacc⟩ := ih hi
      have hne : k ≠ k' := by
        rintro rfl
        simp [fresh] at ha'
      exact ⟨List.mem_cons_of_mem _ hmem,a',by simpa [Function.update_of_ne hne] using ha',hacc⟩
    | @execute k' i' a asked accepts =>
      by_cases hk : k = k'
      · subst hk
        simp only [Function.update_self,List.mem_cons] at hi
        rcases hi with rfl | hi
        · exact ⟨List.mem_cons_self,a,asked,accepts⟩
        · exact (ih hi).imp (List.mem_cons_of_mem _) id
      · simp only [Function.update_of_ne hk] at hi
        exact (ih hi).imp (List.mem_cons_of_mem _) id
    | answer unanswered executed => exact (ih hi).imp (List.mem_cons_of_mem _) id

/-- An answer is the reply of an execution of the call's argument. -/
theorem answer_sound (h : S.machine.Run (fun _ _ => True) tr s) {k : κ} {r : ρ}
    (hr : s.answer k = some r) : ∃ i ∈ s.executions k, S.reply i = r := by
  induction h with
  | start hinit =>
    obtain rfl := hinit
    cases hr
  | @next tr s e s' _ _ ht ih =>
    cases moves_of_step ht with
    | ask fresh => exact ih hr
    | @execute k' i' a asked accepts =>
      obtain ⟨i,hi,he⟩ := ih hr
      refine ⟨i,?_,he⟩
      by_cases hk : k = k'
      · subst hk
        simpa using .inr hi
      · simpa [Function.update_of_ne hk] using hi
    | @answer k' i unanswered executed =>
      by_cases hk : k = k'
      · subst hk
        simp only [Function.update_self,Option.some.injEq] at hr
        exact ⟨i,executed,hr⟩
      · exact ih (by simpa [Function.update_of_ne hk] using hr)

end CallService
end LiveKBench.Lib
