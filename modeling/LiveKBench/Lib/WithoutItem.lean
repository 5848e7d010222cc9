import LiveKBench.Lib.SoleCall

/-! A call that runs alone, and the same call without one of its items: where the task of the item
leaves alone what the other tasks see, taking its events out of a run gives a run of the others, in
which they are answered the same. -/
namespace LiveKBench.Lib

/-- The event is not of the task of an item. -/
def Pool.Event.spares {κ ι Input η : Type} [DecidableEq ι] (i : ι) : Event κ ι Input η → Bool
  | .enter _ j => j ≠ i
  | .resume _ j _ => j ≠ i
  | .cancel _ j => j ≠ i
  | _ => true

namespace Pipeline
variable {σ κ ι Req : Type} {Ans : Req → Type} {ε Input η : Type} [DecidableEq ι]

/-- `R` relates the shared states of a call with an item and of one without it, where the tasks ask
for nothing but what `asks` tells: the others do not see the difference, and what the item's task
does keeps to it. -/
structure Spares (S : Pipeline σ κ ι Req Ans ε Input η) (k : ℕ) (args : κ) (i : ι)
    (asks : ι → Req → Prop) (R : σ → σ → Prop) : Prop where
  select : ∀ s s', R s s' → S.select args s' = (S.select args s).filter (· ≠ i)
  others : ∀ j r s s' input t x, j ≠ i → asks j r → R s s' →
    S.exec args (k,j) r s input = some (t,x) →
    ∃ t', S.exec args (k,j) r s' input = some (t',x) ∧ R t t'
  item : ∀ r s s' input t x, asks i r → R s s' → S.exec args (k,i) r s input = some (t,x) → R t s'

/-- The tasks of the call ask for nothing but what `asks` tells, and none of them failed. -/
structure Calm (k : ℕ) (asks : ι → Req → Prop) (p : Pool σ κ ι Req Ans ε) : Prop where
  asks : ∀ j r c, p.task (k,j) = .active (.await r c) → asks j r
  unfailed : ∀ items, p.anyFailed k items = false

/-- A call and the call without the item have got equally far. -/
inductive SameCall (i : ι) : Option (Call κ ι) → Option (Call κ ι) → Prop
  | none : SameCall i none none
  | started {args} : SameCall i (some ⟨args,none⟩) (some ⟨args,none⟩)
  | spawned {args items} :
      SameCall i (some ⟨args,some items⟩) (some ⟨args,some (items.filter (· ≠ i))⟩)

section SameCall
variable {i : ι} {args : κ} {items : List ι} {call : Option (Call κ ι)}

lemma SameCall.of_none (h : SameCall i .none call) : call = .none := by
  cases h
  rfl

lemma SameCall.of_started (h : SameCall i (some ⟨args,.none⟩) call) :
    call = some ⟨args,.none⟩ := by
  cases h
  rfl

lemma SameCall.of_spawned (h : SameCall i (some ⟨args,some items⟩) call) :
    call = some ⟨args,some (items.filter (· ≠ i))⟩ := by
  cases h
  rfl

lemma SameCall.of_some {c : Call κ ι} (h : SameCall i (some c) call) :
    ∃ c', call = some c' ∧ c'.args = c.args := by
  cases h with
  | started => exact ⟨_,rfl,rfl⟩
  | spawned => exact ⟨_,rfl,rfl⟩

end SameCall

/-- The call with the item and the call without it. -/
structure Alike (R : σ → σ → Prop) (k : ℕ) (i : ι) (p p' : Pool σ κ ι Req Ans ε) : Prop where
  shared : R p.shared p'.shared
  calls : SameCall i (p.calls k) (p'.calls k)
  task : ∀ j, j ≠ i → p'.task (k,j) = p.task (k,j)

variable {S : Pipeline σ κ ι Req Ans ε Input η} {asks : ι → Req → Prop} {R : σ → σ → Prop}
  {k : ℕ} {args : κ} {i : ι}
  {p p' q : Pool σ κ ι Req Ans ε} {s s' : σ}

/-- A step of the item's task changes nothing for the others. -/
lemma Alike.item (h : Alike R k i p p') {task : Task Req Ans ε} {t : σ} (ht : R t p'.shared) :
    Alike R k i { p.setTask k i task with shared := t } p' := by
  refine ⟨ht,h.calls,fun j hj => ?_⟩
  have hne : (k,j) ≠ (k,i) := by simpa using hj
  simpa [Pool.setTask,Function.update_of_ne hne] using h.task j hj

/-- The same step of another task keeps the two calls alike. -/
lemma Alike.other (h : Alike R k i p p') {j : ι} {task : Task Req Ans ε} {t t' : σ}
    (ht : R t t') : Alike R k i { p.setTask k j task with shared := t }
      { p'.setTask k j task with shared := t' } := by
  refine ⟨ht,h.calls,fun l hl => ?_⟩
  by_cases hlj : (k,l) = (k,j)
  · simp [Pool.setTask,hlj]
  · simpa [Pool.setTask,Function.update_of_ne hlj] using h.task l hl

/-- No more tasks are at work without the item. -/
lemma Alike.busy_le (h : Alike R k i p p') (items : List ι) :
    p'.busy k (items.filter (· ≠ i)) ≤ p.busy k items := by
  unfold Pool.busy
  rw [List.countP_filter]
  refine List.countP_mono_left fun j _ hj => ?_
  simp only [Bool.and_eq_true,decide_eq_true_eq] at hj
  rw [← h.task j hj.2]
  exact hj.1

lemma Alike.permits (h : Alike R k i p p') {items : List ι}
    (hp : S.permits p k args items = true) :
    S.permits p' k args (items.filter (· ≠ i)) = true := by
  have hle := h.busy_le items
  cases hlimit : S.limit args with
  | none => simp [Pipeline.permits,hlimit]
  | some n =>
    simp only [Pipeline.permits,hlimit,decide_eq_true_eq] at hp ⊢
    omega

/-- One step of a call: the call without the item makes the same one, or none where the step is of
the item's task. -/
theorem Alike.step (hspares : Spares S k args i asks R) (h : Alike R k i p p')
    (hargs : ∀ call, p.calls k = some call → call.args = args) (hcalm : Calm k asks p)
    {e : Pool.Event κ ι Input η} (hc : OfCall k args e) (hm : S.Moves p e q) :
    if e.spares i then ∃ q', S.step p' e = some q' ∧ Alike R k i q q' else Alike R k i q p' := by
  have hcalls := h.calls
  cases hm with
  | @start k' args' fresh =>
    obtain ⟨rfl,rfl⟩ := hc
    have hfresh : p'.calls k' = none := (fresh ▸ hcalls).of_none
    rw [if_pos (by rfl)]
    refine ⟨_,Moves.step (.start hfresh),h.shared,?_,h.task⟩
    simpa using SameCall.started
  | @select k' args' call =>
    obtain rfl : k' = k := hc
    obtain rfl : args' = args := hargs _ call
    have hcall : p'.calls k' = some ⟨args',none⟩ := (call ▸ hcalls).of_started
    have hitems := hspares.select _ _ h.shared
    rw [if_pos (by rfl)]
    refine ⟨_,Moves.step (.select hcall),h.shared,?_,fun j hj => ?_⟩
    · simpa [Pool.spawn,hitems] using SameCall.spawned (i := i)
    · simp [Pool.spawn,hitems,hj,h.task j hj]
  | @enter k' j args' items call queued permit =>
    obtain rfl : k' = k := hc
    obtain rfl : args' = args := hargs _ call
    by_cases hj : j = i
    · rw [if_neg (by simp [Pool.Event.spares,hj])]
      exact hj ▸ h.item h.shared
    · have hcall : p'.calls k' = some ⟨args',some (items.filter (· ≠ i))⟩ :=
        (call ▸ hcalls).of_spawned
      have hqueued : p'.task (k',j) = .queued := (h.task j hj).trans queued
      rw [if_pos (by simp [Pool.Event.spares,hj])]
      exact ⟨_,Moves.step (.enter hcall hqueued (h.permits permit)),h.other h.shared⟩
  | @resume k' j input call r c t x called active exec =>
    obtain rfl : k' = k := hc
    obtain rfl : call.args = args := hargs _ called
    by_cases hj : j = i
    · rw [if_neg (by simp [Pool.Event.spares,hj])]
      subst hj
      exact h.item (hspares.item r _ _ input t x (hcalm.asks j r c active) h.shared exec)
    · obtain ⟨t',hexec,hr⟩ :=
        hspares.others j r _ _ input t x hj (hcalm.asks j r c active) h.shared exec
      obtain ⟨call',hcall,hargs'⟩ := (called ▸ hcalls).of_some
      have hactive : p'.task (k',j) = .active (.await r c) := (h.task j hj).trans active
      rw [if_pos (by simp [Pool.Event.spares,hj])]
      exact ⟨_,Moves.step (.resume hcall hactive (hargs' ▸ hexec)),h.other hr⟩
  | @cancel k' j args' items call cancels failed live =>
    obtain rfl : k' = k := hc
    rw [hcalm.unfailed items] at failed
    cases failed
  | other happens => exact hc.elim

/-- The calls of a call's run have its arguments. -/
lemma args_of_run {tr : List (Pool σ κ ι Req Ans ε × Pool.Event κ ι Input η)} {init : σ → Prop}
    (h : (S.machine init).Run (fun _ e => OfCall k args e) tr p) :
    ∀ call, p.calls k = some call → call.args = args := by
  induction h with
  | start hi =>
    obtain ⟨s,-,rfl⟩ := hi
    intro call hcall
    cases hcall
  | @next tr p e p' hrun hc htaken ih =>
    intro call hcall
    cases S.moves_of_step htaken with
    | @start k' args' fresh =>
      obtain ⟨rfl,rfl⟩ := hc
      simp only [Function.update_self,Option.some.injEq] at hcall
      exact hcall ▸ rfl
    | @select k' args' called =>
      obtain rfl : k' = k := hc
      have hargs := ih _ called
      simp only [Pool.spawn,Function.update_self,Option.some.injEq] at hcall
      exact hcall ▸ hargs
    | enter called queued permit => exact ih call hcall
    | resume called active exec => exact ih call hcall
    | cancel called cancels failed live => exact ih call hcall
    | other happens => exact hc.elim

/-- Where no task of a call fails, none is cancelled. -/
theorem not_cancelled_of_calm
    (hcalm : ∀ tr p, (S.machine (· = s)).Run (fun _ e => OfCall k args e) tr p → Calm k asks p)
    {tr : List (Pool σ κ ι Req Ans ε × Pool.Event κ ι Input η)}
    (h : (S.machine (· = s)).Run (fun _ e => OfCall k args e) tr p) (j : ι) :
    p.task (k,j) ≠ .cancelled := by
  induction h with
  | start hi =>
    obtain ⟨_,rfl,rfl⟩ := hi
    simp [Pool.idle]
  | @next tr p e q hrun hc htaken ih =>
    have hset : ∀ k' i' task, task ≠ Task.cancelled →
        (p.setTask k' i' task).task (k,j) ≠ .cancelled := by
      intro k' i' task htask
      by_cases hj : (k,j) = (k',i')
      · simpa [Pool.setTask,hj] using htask
      · simpa [Pool.setTask,Function.update_of_ne hj] using ih
    have hbody : ∀ c : Coroutine Req Ans ε Unit, Task.ofCoroutine c ≠ .cancelled := by
      intro c
      cases c <;> simp [Task.ofCoroutine]
    cases S.moves_of_step htaken with
    | start fresh => exact ih
    | @select k' args' call =>
      by_cases hj : k = k' ∧ j ∈ S.select args' p.shared
      · simp [Pool.spawn,hj]
      · simpa [Pool.spawn,hj] using ih
    | enter call queued permit => exact hset _ _ _ (hbody _)
    | resume called active exec => exact hset _ _ _ (hbody _)
    | @cancel k' i' args' items call cancels failed live =>
      obtain rfl : k' = k := hc
      rw [(hcalm tr p hrun).unfailed items] at failed
      cases failed
    | other happens => exact hc.elim

/-- What is left of a run when the events of an item's task are taken out is a run without the
item, in which the other tasks get as far. -/
theorem exists_run_without (hspares : Spares S k args i asks R) (hs : R s s')
    (hcalm : ∀ tr p, (S.machine (· = s)).Run (fun _ e => OfCall k args e) tr p → Calm k asks p)
    {tr : List (Pool σ κ ι Req Ans ε × Pool.Event κ ι Input η)}
    (h : (S.machine (· = s)).Run (fun _ e => OfCall k args e) tr p) :
    ∃ tr' p', (S.machine (· = s')).Run (fun _ e => OfCall k args e) tr' p' ∧
      tr'.map Prod.snd = (tr.map Prod.snd).filter (Pool.Event.spares i) ∧ Alike R k i p p' := by
  induction h with
  | start hi =>
    obtain ⟨_,rfl,rfl⟩ := hi
    exact ⟨[],.idle s',.start ⟨s',rfl,rfl⟩,rfl,hs,.none,fun _ _ => rfl⟩
  | @next tr p e q hrun hc htaken ih =>
    obtain ⟨tr',p',hrun',htr,halike⟩ := ih
    have hstep := halike.step hspares (args_of_run hrun) (hcalm tr p hrun) hc
      (S.moves_of_step htaken)
    cases he : e.spares i with
    | true =>
      rw [if_pos he] at hstep
      obtain ⟨q',htaken',halike'⟩ := hstep
      exact ⟨_,q',hrun'.next hc htaken',by simp [he,htr],halike'⟩
    | false =>
      rw [if_neg (by simp [he])] at hstep
      exact ⟨tr',p',hrun',by simp [he,htr],hstep⟩

end Pipeline
end LiveKBench.Lib
