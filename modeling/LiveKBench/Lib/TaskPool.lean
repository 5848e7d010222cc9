import LiveKBench.Lib.Coroutine
import LiveKBench.Lib.Machine

/-! Calls that fetch a list of items once and then start a task for each of them, on one shared
state. A task waits for the call's semaphore and then runs a coroutine, await by await; the tasks
of all calls interleave. Where a task of a group raises, the group cancels the others. The rule at
the end turns a protocol that the coroutines follow into an invariant of all interleavings. -/
namespace LiveKBench.Lib

/-- What has become of the task of an item. -/
inductive Task (Req : Type) (Ans : Req → Type) (ε : Type)
  | absent
  | queued
  | active (c : Coroutine Req Ans ε Unit)
  | ended (result : Except ε Unit)
  | cancelled

namespace Task
variable {Req : Type} {Ans : Req → Type} {ε : Type}

def ofCoroutine : Coroutine Req Ans ε Unit → Task Req Ans ε
  | .done a => .ended (.ok a)
  | .raise e => .ended (.error e)
  | .await r k => .active (.await r k)

def isActive : Task Req Ans ε → Bool
  | .active _ => true
  | _ => false

def isLive : Task Req Ans ε → Bool
  | .queued => true
  | .active _ => true
  | _ => false

def failed : Task Req Ans ε → Bool
  | .ended (.error _) => true
  | _ => false

end Task

/-- A call: its arguments, and its items once it has fetched them. -/
structure Call (κ ι : Type) where
  args : κ
  items : Option (List ι)

/-- `exec` is what a request does to the shared state, made by the task of an item of a call known
by its number, under an input from outside; `other` is what happens apart from the calls. A call
without a `limit` has no semaphore. -/
structure Pipeline (σ κ ι Req : Type) (Ans : Req → Type) (ε Input η : Type) where
  select : κ → σ → List ι
  body : κ → ι → Coroutine Req Ans ε Unit
  limit : κ → Option ℕ
  cancels : κ → Bool
  exec : κ → ℕ × ι → (r : Req) → σ → Input → Option (σ × Except ε (Ans r))
  other : η → σ → Option σ

/-- The calls and their tasks by the numbers of the calls. -/
structure Pool (σ κ ι Req : Type) (Ans : Req → Type) (ε : Type) where
  shared : σ
  calls : ℕ → Option (Call κ ι)
  task : ℕ × ι → Task Req Ans ε

namespace Pool

inductive Event (κ ι Input η : Type)
  | start (k : ℕ) (args : κ)
  | select (k : ℕ)
  | enter (k : ℕ) (i : ι)
  | resume (k : ℕ) (i : ι) (input : Input)
  | cancel (k : ℕ) (i : ι)
  | other (e : η)

variable {σ κ ι Req : Type} {Ans : Req → Type} {ε Input η : Type}

def idle (s : σ) : Pool σ κ ι Req Ans ε := ⟨s,fun _ => none,fun _ => .absent⟩

def busy (p : Pool σ κ ι Req Ans ε) (k : ℕ) (items : List ι) : ℕ :=
  items.countP fun i => (p.task (k,i)).isActive

def anyFailed (p : Pool σ κ ι Req Ans ε) (k : ℕ) (items : List ι) : Bool :=
  items.any fun i => (p.task (k,i)).failed

variable [DecidableEq ι]

def setTask (p : Pool σ κ ι Req Ans ε) (k : ℕ) (i : ι) (task : Task Req Ans ε) :
    Pool σ κ ι Req Ans ε :=
  { p with task := Function.update p.task (k,i) task }

/-- The call has fetched its items and starts their tasks. -/
def spawn (p : Pool σ κ ι Req Ans ε) (k : ℕ) (args : κ) (items : List ι) :
    Pool σ κ ι Req Ans ε where
  shared := p.shared
  calls := Function.update p.calls k (some ⟨args,some items⟩)
  task := fun t => if t.1 = k ∧ t.2 ∈ items then .queued else p.task t

end Pool

namespace Pipeline
variable {σ κ ι Req : Type} {Ans : Req → Type} {ε Input η : Type} [DecidableEq ι]
  (S : Pipeline σ κ ι Req Ans ε Input η)

/-- The semaphore lets one more task in. -/
def permits (p : Pool σ κ ι Req Ans ε) (k : ℕ) (args : κ) (items : List ι) : Bool :=
  match S.limit args with
  | none => true
  | some n => p.busy k items < n

def step (p : Pool σ κ ι Req Ans ε) :
    Pool.Event κ ι Input η → Option (Pool σ κ ι Req Ans ε)
  | .start k args =>
    match p.calls k with
    | none => some { p with calls := Function.update p.calls k (some ⟨args,none⟩) }
    | some _ => none
  | .select k =>
    match p.calls k with
    | some ⟨args,none⟩ => some (p.spawn k args (S.select args p.shared))
    | _ => none
  | .enter k i =>
    match p.calls k, p.task (k,i) with
    | some ⟨args,some items⟩, .queued =>
      if S.permits p k args items then some (p.setTask k i (.ofCoroutine (S.body args i)))
      else none
    | _, _ => none
  | .resume k i input =>
    match p.calls k, p.task (k,i) with
    | some call, .active (.await r c) =>
      match S.exec call.args (k,i) r p.shared input with
      | some (s,x) => some { p.setTask k i (.ofCoroutine (c x)) with shared := s }
      | none => none
    | _, _ => none
  | .cancel k i =>
    match p.calls k with
    | some ⟨args,some items⟩ =>
      if S.cancels args && p.anyFailed k items && (p.task (k,i)).isLive then
        some (p.setTask k i .cancelled)
      else none
    | _ => none
  | .other e =>
    match S.other e p.shared with
    | some s => some { p with shared := s }
    | none => none

/-- The runs from a shared state that meets `init`, with no call yet. -/
def machine (init : σ → Prop) :
    Machine (Pool σ κ ι Req Ans ε) (Pool.Event κ ι Input η) where
  init p := ∃ s, init s ∧ p = .idle s
  step := S.step

/-- What an event does, with the guard under which it can happen. -/
inductive Moves (p : Pool σ κ ι Req Ans ε) :
    Pool.Event κ ι Input η → Pool σ κ ι Req Ans ε → Prop
  | start {k args} (fresh : p.calls k = none) :
      Moves p (.start k args) { p with calls := Function.update p.calls k (some ⟨args,none⟩) }
  | select {k args} (call : p.calls k = some ⟨args,none⟩) :
      Moves p (.select k) (p.spawn k args (S.select args p.shared))
  | enter {k i args items} (call : p.calls k = some ⟨args,some items⟩)
      (queued : p.task (k,i) = .queued) (permit : S.permits p k args items = true) :
      Moves p (.enter k i) (p.setTask k i (.ofCoroutine (S.body args i)))
  | resume {k i input call r c s x} (called : p.calls k = some call)
      (active : p.task (k,i) = .active (.await r c))
      (exec : S.exec call.args (k,i) r p.shared input = some (s,x)) :
      Moves p (.resume k i input) { p.setTask k i (.ofCoroutine (c x)) with shared := s }
  | cancel {k i args items} (call : p.calls k = some ⟨args,some items⟩)
      (cancels : S.cancels args = true) (failed : p.anyFailed k items = true)
      (live : (p.task (k,i)).isLive = true) :
      Moves p (.cancel k i) (p.setTask k i .cancelled)
  | other {e s} (happens : S.other e p.shared = some s) : Moves p (.other e) { p with shared := s }

theorem moves_of_step {p p' : Pool σ κ ι Req Ans ε} {e : Pool.Event κ ι Input η}
    (h : S.step p e = some p') : S.Moves p e p' := by
  cases e with
  | start k args =>
    simp only [step] at h
    split at h
    · rename_i hc
      cases h
      exact .start hc
    · cases h
  | select k =>
    simp only [step] at h
    split at h
    · rename_i hc
      cases h
      exact .select hc
    · cases h
  | enter k i =>
    simp only [step] at h
    split at h
    · rename_i hc ht
      split at h
      · rename_i hp
        cases h
        exact .enter hc ht hp
      · cases h
    · cases h
  | resume k i input =>
    simp only [step] at h
    split at h
    · rename_i hc ht
      split at h
      · rename_i hx
        cases h
        exact .resume hc ht hx
      · cases h
    · cases h
  | cancel k i =>
    simp only [step] at h
    split at h
    · rename_i hc
      split at h
      · rename_i hg
        cases h
        simp only [Bool.and_eq_true] at hg
        exact .cancel hc hg.1.1 hg.1.2 hg.2
      · cases h
    · cases h
  | other e =>
    simp only [step] at h
    split at h
    · rename_i hs
      cases h
      exact .other hs
    · cases h

variable {S} in
theorem Moves.step {p p' : Pool σ κ ι Req Ans ε} {e : Pool.Event κ ι Input η}
    (h : S.Moves p e p') : S.step p e = some p' := by
  cases h with
  | start fresh => simp [Pipeline.step,fresh]
  | select call => simp [Pipeline.step,call]
  | enter call queued permit => simp [Pipeline.step,call,queued,permit]
  | resume called active exec => simp [Pipeline.step,called,active,exec]
  | cancel call cancels failed live => simp [Pipeline.step,call,cancels,failed,live]
  | other happens => simp [Pipeline.step,happens]

section Shape
variable {S} {p p' : Pool σ κ ι Req Ans ε}

/-- Exactly the items that the calls fetched have tasks. -/
def Formed (p : Pool σ κ ι Req Ans ε) : Prop :=
  ∀ k i, p.task (k,i) ≠ .absent ↔ ∃ args items, p.calls k = some ⟨args,some items⟩ ∧ i ∈ items

omit [DecidableEq ι] in
lemma Formed.absent (h : Formed p) {k : ℕ}
    (hk : ∀ args items, p.calls k ≠ some ⟨args,some items⟩) (i : ι) : p.task (k,i) = .absent := by
  by_contra hne
  obtain ⟨args,items,hc,-⟩ := (h k i).mp hne
  exact hk args items hc

lemma ofCoroutine_ne_absent (c : Coroutine Req Ans ε Unit) : Task.ofCoroutine c ≠ .absent := by
  cases c <;> simp [Task.ofCoroutine]

lemma Formed.setTask (h : Formed p) {k : ℕ} {i : ι} {task : Task Req Ans ε}
    (hi : p.task (k,i) ≠ .absent) (htask : task ≠ .absent) : Formed (p.setTask k i task) := by
  intro k' i'
  by_cases hki : (k',i') = (k,i)
  · cases hki
    simpa [Pool.setTask,htask] using (h k i).mp hi
  · simpa [Pool.setTask,Function.update_of_ne hki] using h k' i'

theorem Formed.step (h : Formed p) {e : Pool.Event κ ι Input η} (hm : S.Moves p e p') :
    Formed p' := by
  cases hm with
  | @start k args fresh =>
    intro k' i
    by_cases hk : k' = k
    · subst hk
      simp [h.absent (k := k') (by simp [fresh]) i]
    · simpa [Function.update_of_ne hk] using h k' i
  | @select k args call =>
    intro k' i
    by_cases hk : k' = k
    · subst hk
      by_cases hi : i ∈ S.select args p.shared
      · have hitems : ∃ args' items, (p.spawn k' args (S.select args p.shared)).calls k' =
            some ⟨args',some items⟩ ∧ i ∈ items :=
          ⟨args,_,Function.update_self _ _ _,hi⟩
        exact ⟨fun _ => hitems,fun _ => by simp [Pool.spawn,hi]⟩
      · simp [Pool.spawn,hi,h.absent (k := k') (by simp [call]) i]
    · simpa [Pool.spawn,hk] using h k' i
  | enter call queued permit => exact h.setTask (by simp [queued]) (ofCoroutine_ne_absent _)
  | resume called active exec => exact h.setTask (by simp [active]) (ofCoroutine_ne_absent _)
  | @cancel k i args items call cancels failed live =>
    refine h.setTask ?_ (by simp)
    intro habsent
    simp [habsent,Task.isLive] at live
  | other happens => exact h

variable {init : σ → Prop} {C : Pool σ κ ι Req Ans ε → Pool.Event κ ι Input η → Prop}

theorem formed_of_reachable (h : (S.machine init).ReachableBy C p) : Formed p := by
  refine h.invariant ?_ ?_
  · rintro _ ⟨s,-,rfl⟩ k i
    simp [Pool.idle]
  · intro p e p' _ hf _ hs
    exact hf.step (S.moves_of_step hs)

end Shape

/-- Every call has fetched its items and all its tasks came to an end. -/
def AllEnded (p : Pool σ κ ι Req Ans ε) : Prop :=
  ∀ k call, p.calls k = some call →
    ∃ items, call.items = some items ∧ ∀ i ∈ items, (p.task (k,i)).isLive = false

section Ended
variable {S} {init : σ → Prop} {C : Pool σ κ ι Req Ans ε → Pool.Event κ ι Input η → Prop}
  {tr : List (Pool σ κ ι Req Ans ε × Pool.Event κ ι Input η)} {p : Pool σ κ ι Req Ans ε}

/-- Every call was started in the run. -/
theorem started_of_run (h : (S.machine init).Run C tr p) :
    ∀ k call, p.calls k = some call → ∃ q, (q,.start k call.args) ∈ tr := by
  induction h with
  | start hi =>
    obtain ⟨s,-,rfl⟩ := hi
    intro k call hcall
    cases hcall
  | @next tr p e p' hrun hc htaken ih =>
    intro k call hcall
    have hold : p.calls k = some call → ∃ q, (q,Pool.Event.start k call.args) ∈ (p,e) :: tr := by
      intro hp
      obtain ⟨q,hq⟩ := ih k call hp
      exact ⟨q,List.mem_cons_of_mem _ hq⟩
    cases S.moves_of_step htaken with
    | @start k' args fresh =>
      by_cases hk : k = k'
      · subst hk
        simp only [Function.update_self,Option.some.injEq] at hcall
        subst hcall
        exact ⟨p,List.mem_cons_self⟩
      · exact hold (by simpa [Function.update_of_ne hk] using hcall)
    | @select k' args called =>
      by_cases hk : k = k'
      · subst hk
        simp only [Pool.spawn,Function.update_self,Option.some.injEq] at hcall
        subst hcall
        obtain ⟨q,hq⟩ := ih k _ called
        exact ⟨q,List.mem_cons_of_mem _ hq⟩
      · exact hold (by simpa [Pool.spawn,Function.update_of_ne hk] using hcall)
    | enter call queued permit => exact hold hcall
    | resume called active exec => exact hold hcall
    | cancel call cancels failed live => exact hold hcall
    | other happens => exact hold hcall

/-- Where only the first `n` calls may start, the others have no tasks. -/
theorem absent_of_unstarted {n : ℕ} (h : (S.machine init).ReachableBy C p)
    (hstart : ∀ p k args, C p (.start k args) → k < n) {k : ℕ} (hk : n ≤ k) (i : ι) :
    p.task (k,i) = .absent := by
  have hformed : Formed p := formed_of_reachable h
  obtain ⟨tr,hrun⟩ := h
  have hmeets : ∀ q k args, (q,.start k args) ∈ tr → k < n := by
    clear hformed hk
    induction hrun with
    | start hi => simp
    | next hrun hc htaken ih =>
      intro q k args hmem
      rcases List.mem_cons.mp hmem with he | hmem
      · cases he
        exact hstart _ _ _ hc
      · exact ih q k args hmem
  refine hformed.absent (fun args items hcall => ?_) i
  obtain ⟨q,hq⟩ := started_of_run hrun k _ hcall
  exact absurd (hmeets q k args hq) (by omega)

/-- Whether the calls that a run started have all ended. -/
def allEnded (tr : List (Pool σ κ ι Req Ans ε × Pool.Event κ ι Input η))
    (p : Pool σ κ ι Req Ans ε) : Bool :=
  tr.all fun (_,e) =>
    match e with
    | .start k _ => (p.calls k).all fun call =>
      call.items.any fun items => items.all fun i => !(p.task (k,i)).isLive
    | _ => true

theorem allEnded_of_run (h : (S.machine init).Run C tr p) (hended : allEnded tr p = true) :
    AllEnded p := by
  intro k call hcall
  obtain ⟨q,hq⟩ := started_of_run h k call hcall
  have hk := List.all_eq_true.mp hended _ hq
  simp only [hcall,Option.all_some,Option.any_eq_true_iff_get,List.all_eq_true] at hk
  obtain ⟨hsome,hall⟩ := hk
  exact ⟨call.items.get hsome,by simp,fun i hi => by simpa using hall i hi⟩

end Ended

/-! ## Protocols of the tasks and invariants of the pool -/

section Phases
variable {S} {τ : Type*} {P : Protocol Req Ans ε τ} {Q : τ → Except ε Unit → Prop}
  {start : κ → ι → τ} {p p' : Pool σ κ ι Req Ans ε} {g : ℕ × ι → Option τ}

/-- The phase of a task fits what has become of it. A task is cancelled in a phase in which it could
have ended. -/
def Fits (P : Protocol Req Ans ε τ) (Q : τ → Except ε Unit → Prop) (first : Option τ)
    (phase : Option τ) : Task Req Ans ε → Prop
  | .absent => phase = none
  | .queued => phase = first ∧ first ≠ none
  | .active c => ∃ t, phase = some t ∧ c.Follows P Q t
  | .ended x => ∃ t, phase = some t ∧ Q t x
  | .cancelled => ∃ t x, phase = some t ∧ Q t x

/-- Every task is in a phase of the protocol, from where it goes on as the protocol says. -/
def Typed (P : Protocol Req Ans ε τ) (Q : τ → Except ε Unit → Prop) (start : κ → ι → τ)
    (p : Pool σ κ ι Req Ans ε) (g : ℕ × ι → Option τ) : Prop :=
  ∀ k i, Fits P Q ((p.calls k).map fun call => start call.args i) (g (k,i)) (p.task (k,i))

/-- The phases once a call has started the tasks of its items. -/
def spawned (start : κ → ι → τ) (g : ℕ × ι → Option τ) (k : ℕ) (args : κ) (items : List ι) :
    ℕ × ι → Option τ :=
  fun t => if t.1 = k ∧ t.2 ∈ items then some (start args t.2) else g t

/-- A call that had no tasks has those of its items, and the other calls keep theirs. -/
lemma spawned_cases {k k' : ℕ} {args : κ} {items : List ι} {i : ι} {t : τ}
    (hnone : ∀ i, g (k,i) = none) (h : spawned start g k args items (k',i) = some t) :
    (k' = k ∧ i ∈ items ∧ t = start args i) ∨ (k' ≠ k ∧ g (k',i) = some t) := by
  unfold spawned at h
  split at h
  · rename_i hc
    exact .inl ⟨hc.1,hc.2,(Option.some.inj h).symm⟩
  · refine .inr ⟨?_,h⟩
    rintro rfl
    rw [hnone] at h
    cases h

lemma spawned_of_some {k k' : ℕ} {args : κ} {items : List ι} {i : ι} {t : τ}
    (hnone : ∀ i, g (k,i) = none) (h : g (k',i) = some t) :
    spawned start g k args items (k',i) = some t := by
  have hk : k' ≠ k := by
    rintro rfl
    rw [hnone] at h
    cases h
  simpa [spawned,hk] using h

lemma fits_ofCoroutine {first : Option τ} {t : τ} {c : Coroutine Req Ans ε Unit}
    (h : c.Follows P Q t) : Fits P Q first (some t) (.ofCoroutine c) := by
  cases c with
  | done a => exact ⟨t,rfl,h⟩
  | raise e => exact ⟨t,rfl,h⟩
  | await r k => exact ⟨t,rfl,h⟩

lemma Typed.setTask (h : Typed P Q start p g) {k : ℕ} {i : ι} {task : Task Req Ans ε}
    {phase : Option τ} (hfits : Fits P Q ((p.calls k).map fun call => start call.args i) phase task) :
    Typed P Q start (p.setTask k i task) (Function.update g (k,i) phase) := by
  intro k' i'
  by_cases hki : (k',i') = (k,i)
  · cases hki
    simpa [Pool.setTask] using hfits
  · simpa [Pool.setTask,Function.update_of_ne hki] using h k' i'

/-- A protocol that the coroutines follow, and a property of the shared state, the calls and the
phases of the tasks that every allowed request keeps. `C` is a condition on the steps. -/
structure Upholds (S : Pipeline σ κ ι Req Ans ε Input η) (P : Protocol Req Ans ε τ)
    (Q : τ → Except ε Unit → Prop) (start : κ → ι → τ)
    (C : Pool σ κ ι Req Ans ε → Pool.Event κ ι Input η → Prop)
    (I : σ → (ℕ → Option (Call κ ι)) → (ℕ × ι → Option τ) → Prop) : Prop where
  body : ∀ args i, (S.body args i).Follows P Q (start args i)
  starts : ∀ (p : Pool σ κ ι Req Ans ε) g k args, Typed P Q start p g → I p.shared p.calls g →
    C p (.start k args) → p.calls k = none → (∀ i, g (k,i) = none) →
    I p.shared (Function.update p.calls k (some ⟨args,none⟩)) g
  selects : ∀ (p : Pool σ κ ι Req Ans ε) g k args, Typed P Q start p g → I p.shared p.calls g →
    C p (.select k) → p.calls k = some ⟨args,none⟩ → (∀ i, g (k,i) = none) →
    I p.shared (Function.update p.calls k (some ⟨args,some (S.select args p.shared)⟩))
      (spawned start g k args (S.select args p.shared))
  resumes : ∀ (p : Pool σ κ ι Req Ans ε) g k i input call r c s x t, Typed P Q start p g →
    I p.shared p.calls g → C p (.resume k i input) → p.calls k = some call →
    p.task (k,i) = .active (.await r c) → g (k,i) = some t → P.allowed t r →
    S.exec call.args (k,i) r p.shared input = some (s,x) →
    ∃ t', P.leads t r x t' ∧ I s p.calls (Function.update g (k,i) (some t'))
  cancels : ∀ (p : Pool σ κ ι Req Ans ε) g k i args items t, Typed P Q start p g →
    I p.shared p.calls g → C p (.cancel k i) → p.calls k = some ⟨args,some items⟩ →
    S.cancels args = true → p.anyFailed k items = true → (p.task (k,i)).isLive = true →
    g (k,i) = some t → ∃ t' x, Q t' x ∧ I p.shared p.calls (Function.update g (k,i) (some t'))
  others : ∀ (p : Pool σ κ ι Req Ans ε) g e s, Typed P Q start p g → I p.shared p.calls g →
    C p (.other e) → S.other e p.shared = some s → I s p.calls g

variable {C : Pool σ κ ι Req Ans ε → Pool.Event κ ι Input η → Prop}
  {I : σ → (ℕ → Option (Call κ ι)) → (ℕ × ι → Option τ) → Prop}

omit [DecidableEq ι] in
lemma Typed.none_of_absent (ht : Typed P Q start p g) {k : ℕ} {i : ι}
    (ha : p.task (k,i) = .absent) : g (k,i) = none := by
  have hfits := ht k i
  rw [ha] at hfits
  exact hfits

omit [DecidableEq ι] in
/-- A task that is there is in some phase. -/
lemma Typed.exists_phase (ht : Typed P Q start p g) {k : ℕ} {i : ι}
    (hi : p.task (k,i) ≠ .absent) : ∃ t, g (k,i) = some t := by
  have hfits := ht k i
  cases htask : p.task (k,i) with
  | absent => exact absurd htask hi
  | queued =>
    rw [htask] at hfits
    exact Option.ne_none_iff_exists'.mp (hfits.1 ▸ hfits.2)
  | active c =>
    rw [htask] at hfits
    obtain ⟨t,hg,-⟩ := hfits
    exact ⟨t,hg⟩
  | ended x =>
    rw [htask] at hfits
    obtain ⟨t,hg,-⟩ := hfits
    exact ⟨t,hg⟩
  | cancelled =>
    rw [htask] at hfits
    obtain ⟨t,x,hg,-⟩ := hfits
    exact ⟨t,hg⟩

/-- One step keeps the phases and the invariant. -/
theorem Upholds.step (h : Upholds S P Q start C I) {e : Pool.Event κ ι Input η}
    (ht : Typed P Q start p g) (hi : I p.shared p.calls g) (hn : Formed p) (hc : C p e)
    (hm : S.Moves p e p') : ∃ g', Typed P Q start p' g' ∧ I p'.shared p'.calls g' := by
  cases hm with
  | @start k args fresh =>
    have habsent : ∀ i, p.task (k,i) = .absent := hn.absent (by simp [fresh])
    have hnone : ∀ i, g (k,i) = none := fun i => ht.none_of_absent (habsent i)
    refine ⟨g,?_,h.starts p g k args ht hi hc fresh hnone⟩
    intro k' i
    by_cases hk : k' = k
    · subst hk
      simpa [habsent i,Fits] using hnone i
    · simpa [Function.update_of_ne hk] using ht k' i
  | @select k args call =>
    have habsent : ∀ i, p.task (k,i) = .absent := hn.absent (by simp [call])
    have hnone : ∀ i, g (k,i) = none := fun i => ht.none_of_absent (habsent i)
    refine ⟨_,?_,h.selects p g k args ht hi hc call hnone⟩
    intro k' i
    by_cases hk : k' = k
    · subst hk
      by_cases hm : i ∈ S.select args p.shared
      · simp [Pool.spawn,spawned,hm,Fits]
      · simpa [Pool.spawn,spawned,hm,habsent i,Fits] using hnone i
    · simpa [Pool.spawn,spawned,hk] using ht k' i
  | @enter k i args items call queued permit =>
    have hfits := ht k i
    rw [queued,call] at hfits
    obtain ⟨hg,-⟩ := hfits
    have hg' : Function.update g (k,i) (some (start args i)) = g := by
      rw [← Function.update_eq_self (k,i) g]
      simpa using hg.symm
    refine ⟨Function.update g (k,i) (some (start args i)),?_,?_⟩
    · exact ht.setTask (fits_ofCoroutine (h.body args i))
    · rw [hg']
      exact hi
  | @resume k i input call r c s x called active exec =>
    have hfits := ht k i
    rw [active] at hfits
    obtain ⟨t,hg,hallowed,hnext⟩ := hfits
    obtain ⟨t',hleads,hi'⟩ :=
      h.resumes p g k i input call r c s x t ht hi hc called active hg hallowed exec
    exact ⟨_,ht.setTask (fits_ofCoroutine (hnext x t' hleads)),hi'⟩
  | @cancel k i args items call cancels failed live =>
    have hexists : p.task (k,i) ≠ .absent := by
      intro habsent
      simp [habsent,Task.isLive] at live
    obtain ⟨t,hg⟩ := ht.exists_phase hexists
    obtain ⟨t',x,hend,hi'⟩ := h.cancels p g k i args items t ht hi hc call cancels failed live hg
    exact ⟨_,ht.setTask ⟨t',x,rfl,hend⟩,hi'⟩
  | @other e s happens => exact ⟨g,ht,h.others p g e s ht hi hc happens⟩

/-- The invariant holds in every state that the interleavings reach. -/
theorem Upholds.reachable {init : σ → Prop} (h : Upholds S P Q start C I)
    (hinit : ∀ s, init s → I s (fun _ => none) (fun _ => none))
    (hp : (S.machine init).ReachableBy C p) :
    ∃ g, Typed P Q start p g ∧ I p.shared p.calls g := by
  refine hp.invariant (I := fun p => ∃ g, Typed P Q start p g ∧ I p.shared p.calls g) ?_ ?_
  · rintro _ ⟨s,hs,rfl⟩
    exact ⟨fun _ => none,fun _ _ => rfl,hinit s hs⟩
  · rintro p e p' hr ⟨g,ht,hi⟩ hc hs
    exact h.step ht hi (formed_of_reachable hr) hc (S.moves_of_step hs)

omit [DecidableEq ι] in
/-- Where no coroutine ends with an exception, none of a call's tasks failed. -/
lemma Typed.anyFailed_eq_false (ht : Typed P Q start p g) (hQ : ∀ t e, ¬Q t (.error e)) (k : ℕ)
    (items : List ι) : p.anyFailed k items = false := by
  refine List.any_eq_false.mpr fun i _ => ?_
  have hfits := ht k i
  cases htask : p.task (k,i) with
  | ended x =>
    rw [htask] at hfits
    obtain ⟨t,-,hend⟩ := hfits
    cases x with
    | ok a => simp [Task.failed]
    | error e => exact absurd hend (hQ t e)
  | absent => simp [Task.failed]
  | queued => simp [Task.failed]
  | active c => simp [Task.failed]
  | cancelled => simp [Task.failed]

omit [DecidableEq ι] in
/-- A task that is there and not live any more is in a phase in which it could end. -/
lemma Typed.ends (ht : Typed P Q start p g) {k : ℕ} {i : ι} {t : τ} (hg : g (k,i) = some t)
    (hdead : (p.task (k,i)).isLive = false) : ∃ x, Q t x := by
  have hfits := ht k i
  rw [hg] at hfits
  cases htask : p.task (k,i) with
  | ended x =>
    rw [htask] at hfits
    obtain ⟨_,⟨⟩,hend⟩ := hfits
    exact ⟨x,hend⟩
  | cancelled =>
    rw [htask] at hfits
    obtain ⟨_,x,⟨⟩,hend⟩ := hfits
    exact ⟨x,hend⟩
  | absent =>
    rw [htask] at hfits
    cases hfits
  | queued => simp [htask,Task.isLive] at hdead
  | active c => simp [htask,Task.isLive] at hdead

omit [DecidableEq ι] in
/-- What a task asks for is allowed in its phase. -/
lemma Typed.allowed (ht : Typed P Q start p g) {k : ℕ} {i : ι} {r : Req}
    {c : Except ε (Ans r) → Coroutine Req Ans ε Unit}
    (ha : p.task (k,i) = .active (.await r c)) : ∃ t, g (k,i) = some t ∧ P.allowed t r := by
  have hfits := ht k i
  rw [ha] at hfits
  obtain ⟨t,hg,hallowed,-⟩ := hfits
  exact ⟨t,hg,hallowed⟩

end Phases
end Pipeline
end LiveKBench.Lib
