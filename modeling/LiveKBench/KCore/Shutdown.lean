import LiveKBench.KCore.Worker
import LiveKBench.Lib.Machine
import Mathlib.Algebra.Order.BigOperators.Group.Finset
import Mathlib.Logic.Relation

/-! How a worker goes offline: `Worker._signal_handler` beside `Worker._on_dispatch`. On SIGTERM the
handler cancels the job and waits for a semaphore that the dispatch releases once it has reported a
yield. Each may go on wherever the other awaits. -/
namespace LiveKBench.KCore.Shutdown
open Lib

/-- Where `_on_dispatch` stands. `current_task` is there in `running` and `cleaning`, its `task`
only in `running`, with the codes it was cancelled with so far. -/
inductive DispatchPc
  | idle
  | focusing
  | running (cancels : List String)
  | cleaning (result : JobResult)
  | updating (result : JobResult)
  deriving DecidableEq, Repr

/-- Where one call of `_signal_handler` stands. -/
inductive HandlerPc
  | reporting
  | waiting (blocker : ℕ)
  | exiting
  | disconnected
  | raised
  deriving DecidableEq, Repr

/-- The semaphores are numbered in the order of their creation; `value` holds their permits.
`left` says that the process has ended. -/
structure State where
  closed : Bool
  connected : Bool
  dispatch : DispatchPc
  yieldBlocker : Option ℕ
  blockers : ℕ
  value : ℕ → ℕ
  handlers : ℕ → Option HandlerPc
  left : Bool

inductive DispatchEvent
  | deliver
  | focus (accepted : Bool)
  /-- `abort_job` or `yield_job` for the job that runs. -/
  | cancel (code : String)
  /-- A run that exits the interpreter ends the process and is left out. -/
  | ended (run : TaskRun)
  | cleaned
  | updated
  | raises

inductive HandlerEvent
  | sigterm
  | reported
  | acquired
  | closes
  | releases
  | raises
  deriving DecidableEq, Repr

inductive Event
  | dispatch (e : DispatchEvent)
  | handler (i : ℕ) (e : HandlerEvent)

namespace State

def started : State where
  closed := false
  connected := true
  dispatch := .idle
  yieldBlocker := none
  blockers := 0
  value := fun _ => 0
  handlers := fun _ => none
  left := false

def setHandler (s : State) (i : ℕ) (pc : HandlerPc) : State :=
  { s with handlers := Function.update s.handlers i (some pc) }

def takePermit (s : State) (b : ℕ) : State :=
  { s with value := Function.update s.value b (s.value b-1) }

/-- The last lines of `_on_dispatch`. What `release` returns cannot be awaited, so the message is
requeued then; the permit is there. -/
def afterUpdate (s : State) (result : JobResult) : State :=
  match result.yielded,s.yieldBlocker with
  | true,some b =>
    { s with dispatch := .idle, value := Function.update s.value b (s.value b+1) }
  | _,_ => { s with dispatch := .idle }

/-- `if self._yield_blocker: await self._yield_blocker.acquire()`. -/
def blocked (s : State) : HandlerPc :=
  match s.yieldBlocker with
  | some b => .waiting b
  | none => .exiting

/-- `_signal_handler` up to its first await. -/
def onSignal (s : State) (i : ℕ) : State :=
  if s.connected then
    match s.dispatch with
    | .running cancels => setHandler
        { s with
          closed := true
          dispatch := .running (cancels ++ [workerYieldedExceptionCode])
          yieldBlocker := some s.blockers
          blockers := s.blockers+1
          value := Function.update s.value s.blockers 0 } i .reporting
    | .cleaning _ => setHandler { s with closed := true } i s.blocked
    | _ => setHandler { s with closed := true } i .exiting
  else { s with closed := true, left := true }

end State

def dispatchStep (s : State) (e : DispatchEvent) : Option State :=
  match e,s.dispatch with
  | .deliver,.idle => some (if s.closed then s else { s with dispatch := .focusing })
  | .deliver,_ => some s
  | .focus accepted,.focusing =>
    if s.connected then some { s with dispatch := if accepted then .running [] else .idle }
    else none
  | .cancel code,.running cancels => some { s with dispatch := .running (cancels ++ [code]) }
  | .ended run,.running cancels =>
    if run.cancels = cancels then
      run.run.map fun result => { s with dispatch := .cleaning result }
    else none
  | .cleaned,.cleaning result => some { s with dispatch := .updating result }
  | .updated,.updating result => if s.connected then some (s.afterUpdate result) else none
  | .raises,.focusing => some { s with dispatch := .idle }
  | .raises,.updating _ => some { s with dispatch := .idle }
  | _,_ => none

def handlerStep (s : State) (i : ℕ) (e : HandlerEvent) : Option State :=
  match e,s.handlers i with
  | .sigterm,none => some (s.onSignal i)
  | .reported,some .reporting => if s.connected then some (s.setHandler i s.blocked) else none
  | .acquired,some (.waiting b) =>
    if 0 < s.value b then some ((s.takePermit b).setHandler i .exiting) else none
  | .closes,some .exiting =>
    if s.connected then some (State.setHandler { s with connected := false } i .disconnected)
    else none
  | .releases,some .disconnected => some { s with left := true }
  | .raises,some .reporting => some (s.setHandler i .raised)
  | .raises,some .exiting => some (s.setHandler i .raised)
  | _,_ => none

def step (s : State) : Event → Option State
  | .dispatch e => if s.left then none else dispatchStep s e
  | .handler i e => if s.left then none else handlerStep s i e

/-- A worker that has connected, over all its runs. -/
def machine : Machine State Event where
  init s := s = .started
  step := step

variable {s s' : State} {i : ℕ}

/-! ### What a step can be -/

/-- What a step of the dispatch can be. -/
inductive DispatchMoves (s : State) : DispatchEvent → State → Prop
  | reject : DispatchMoves s .deliver s
  | take (hopen : s.closed = false) (hd : s.dispatch = .idle) :
      DispatchMoves s .deliver { s with dispatch := .focusing }
  | focus {accepted : Bool} (hd : s.dispatch = .focusing) :
      DispatchMoves s (.focus accepted)
        { s with dispatch := if accepted then .running [] else .idle }
  | cancel {code : String} {cancels : List String} (hd : s.dispatch = .running cancels) :
      DispatchMoves s (.cancel code) { s with dispatch := .running (cancels ++ [code]) }
  | ended {run : TaskRun} {cancels : List String} {result : JobResult}
      (hd : s.dispatch = .running cancels) (hcancels : run.cancels = cancels)
      (hrun : run.run = some result) :
      DispatchMoves s (.ended run) { s with dispatch := .cleaning result }
  | cleaned {result : JobResult} (hd : s.dispatch = .cleaning result) :
      DispatchMoves s .cleaned { s with dispatch := .updating result }
  | updated {result : JobResult} (hd : s.dispatch = .updating result) :
      DispatchMoves s .updated (s.afterUpdate result)
  | unfocused (hd : s.dispatch = .focusing) : DispatchMoves s .raises { s with dispatch := .idle }
  | unreported {result : JobResult} (hd : s.dispatch = .updating result) :
      DispatchMoves s .raises { s with dispatch := .idle }

lemma dispatchMoves_of_step {e : DispatchEvent} (h : dispatchStep s e = some s') :
    DispatchMoves s e s' := by
  unfold dispatchStep at h
  split at h
  case h_1 hd =>
    split at h
    · cases h
      exact .reject
    · cases h
      exact .take (by simpa using ‹¬s.closed = true›) hd
  case h_2 =>
    cases h
    exact .reject
  case h_3 hd =>
    split at h
    · cases h
      exact .focus hd
    · cases h
  case h_4 hd =>
    cases h
    exact .cancel hd
  case h_5 hd =>
    split at h
    · next hcancels =>
      obtain ⟨result,hrun,rfl⟩ := Option.map_eq_some_iff.mp h
      exact .ended hd hcancels hrun
    · cases h
  case h_6 hd =>
    cases h
    exact .cleaned hd
  case h_7 hd =>
    split at h
    · cases h
      exact .updated hd
    · cases h
  case h_8 hd =>
    cases h
    exact .unfocused hd
  case h_9 hd =>
    cases h
    exact .unreported hd
  case h_10 => cases h

/-- What a step of a handler can be. -/
inductive HandlerMoves (s : State) (i : ℕ) : HandlerEvent → State → Prop
  | sigterm (hi : s.handlers i = none) : HandlerMoves s i .sigterm (s.onSignal i)
  | reported (hi : s.handlers i = some .reporting) (hc : s.connected = true) :
      HandlerMoves s i .reported (s.setHandler i s.blocked)
  | acquired {b : ℕ} (hi : s.handlers i = some (.waiting b)) (hv : 0 < s.value b) :
      HandlerMoves s i .acquired ((s.takePermit b).setHandler i .exiting)
  | closes (hi : s.handlers i = some .exiting) (hc : s.connected = true) :
      HandlerMoves s i .closes (State.setHandler { s with connected := false } i .disconnected)
  | releases (hi : s.handlers i = some .disconnected) :
      HandlerMoves s i .releases { s with left := true }
  | raises (hi : s.handlers i = some .reporting ∨ s.handlers i = some .exiting) :
      HandlerMoves s i .raises (s.setHandler i .raised)

lemma handlerMoves_of_step {e : HandlerEvent} (h : handlerStep s i e = some s') :
    HandlerMoves s i e s' := by
  unfold handlerStep at h
  split at h
  case h_1 hi =>
    cases h
    exact .sigterm hi
  case h_2 hi =>
    split at h
    · cases h
      exact .reported hi ‹_›
    · cases h
  case h_3 hi =>
    split at h
    · cases h
      exact .acquired hi ‹_›
    · cases h
  case h_4 hi =>
    split at h
    · cases h
      exact .closes hi ‹_›
    · cases h
  case h_5 hi =>
    cases h
    exact .releases hi
  case h_6 hi =>
    cases h
    exact .raises (.inl hi)
  case h_7 hi =>
    cases h
    exact .raises (.inr hi)
  case h_8 => cases h

/-- What a step of the worker can be. -/
lemma step_cases {e : Event} (h : step s e = some s') : s.left = false ∧
    ((∃ d, e = .dispatch d ∧ DispatchMoves s d s') ∨
      ∃ i d, e = .handler i d ∧ HandlerMoves s i d s') := by
  cases e with
  | dispatch d =>
    simp only [step] at h
    split at h
    · cases h
    · exact ⟨by simpa using ‹¬s.left = true›,.inl ⟨d,rfl,dispatchMoves_of_step h⟩⟩
  | handler i d =>
    simp only [step] at h
    split at h
    · cases h
    · exact ⟨by simpa using ‹¬s.left = true›,.inr ⟨i,d,rfl,handlerMoves_of_step h⟩⟩

/-! ### When a worker can still leave -/

/-- The job's result may still be a yield. -/
def DispatchPc.mayYield : DispatchPc → Bool
  | .running _ => true
  | .cleaning result => result.yielded
  | .updating result => result.yielded
  | _ => false

/-- The semaphore has a permit or may still get one. -/
def Frees (s : State) (b : ℕ) : Prop :=
  0 < s.value b ∨ s.yieldBlocker = some b ∧ s.dispatch.mayYield = true

/-- A handler that is there may still end the process. -/
def Promising (s : State) : HandlerPc → Prop
  | .reporting => s.connected = true ∧ ∀ b, s.yieldBlocker = some b → Frees s b
  | .waiting b => s.connected = true ∧ Frees s b
  | .exiting => s.connected = true
  | .disconnected => True
  | .raised => False

def CanLeave (s : State) : Prop :=
  s.left = true ∨ ∃ i pc, s.handlers i = some pc ∧ Promising s pc

@[simp] lemma setHandler_self (pc : HandlerPc) : (s.setHandler i pc).handlers i = some pc :=
  Function.update_self ..

lemma setHandler_of_ne {j : ℕ} (pc : HandlerPc) (hj : j ≠ i) :
    (s.setHandler i pc).handlers j = s.handlers j := Function.update_of_ne hj ..

@[simp] lemma promising_setHandler {pc pc' : HandlerPc} :
    Promising (s.setHandler i pc) pc' ↔ Promising s pc' := by
  cases pc' <;> rfl

lemma Promising.mono {pc : HandlerPc} (hc : s'.connected = s.connected)
    (hy : s'.yieldBlocker = s.yieldBlocker) (hf : ∀ b, Frees s b → Frees s' b)
    (h : Promising s pc) : Promising s' pc := by
  cases pc with
  | reporting => exact ⟨hc.trans h.1,fun b hb => hf b (h.2 b (hy ▸ hb))⟩
  | waiting b => exact ⟨hc.trans h.1,hf b h.2⟩
  | exiting => exact hc.trans h
  | disconnected => trivial
  | raised => exact h

/-- The state in which a handler goes on after its report decides as the one before. -/
lemma promising_blocked : Promising s s.blocked ↔ Promising s .reporting := by
  unfold State.blocked
  split
  · simp_all [Promising]
  · simp_all [Promising]

lemma canLeave_setHandler {pc : HandlerPc} (hpc : Promising s pc) :
    CanLeave (s.setHandler i pc) := .inr ⟨i,pc,setHandler_self pc,promising_setHandler.mpr hpc⟩

/-- A change of one handler leaves the others as they were. -/
lemma canLeave_setHandler_iff {pc : HandlerPc} (hleft : s.left = false) :
    CanLeave (s.setHandler i pc) ↔
      Promising s pc ∨ ∃ j pc', j ≠ i ∧ s.handlers j = some pc' ∧ Promising s pc' := by
  constructor
  · rintro (h | ⟨j,pc',hj,hp⟩)
    · cases hleft.symm.trans h
    · rw [promising_setHandler] at hp
      by_cases hji : j = i
      · subst hji
        rw [setHandler_self] at hj
        cases hj
        exact .inl hp
      · exact .inr ⟨j,pc',hji,(setHandler_of_ne pc hji) ▸ hj,hp⟩
  · rintro (h | ⟨j,pc',hji,hj,hp⟩)
    · exact canLeave_setHandler h
    · exact .inr ⟨j,pc',(setHandler_of_ne pc hji).trans hj,promising_setHandler.mpr hp⟩

lemma CanLeave.mono (hh : s'.handlers = s.handlers) (hl : s'.left = s.left)
    (hc : s'.connected = s.connected) (hy : s'.yieldBlocker = s.yieldBlocker)
    (hf : ∀ b, Frees s b → Frees s' b) (h : CanLeave s) : CanLeave s' := by
  obtain h | ⟨i,pc,hi,hp⟩ := h
  · exact .inl (hl.trans h)
  · exact .inr ⟨i,pc,hh ▸ hi,hp.mono hc hy hf⟩

/-- A semaphore is there only after a SIGTERM, and from then on no job starts. -/
structure Settled (s : State) : Prop where
  closed : s.yieldBlocker.isSome = true → s.closed = true
  focused : s.yieldBlocker.isSome = true → s.dispatch ≠ .focusing

/-- The last lines of `_on_dispatch` change nothing else. -/
lemma afterUpdate_eq (result : JobResult) :
    ∃ value, s.afterUpdate result = { s with dispatch := .idle, value := value } := by
  unfold State.afterUpdate
  split
  · exact ⟨_,rfl⟩
  · exact ⟨s.value,rfl⟩

/-- A report is a release only where it is the report of a yield. -/
lemma afterUpdate_value {result : JobResult} {b : ℕ}
    (hb : ¬ (result.yielded = true ∧ s.yieldBlocker = some b)) :
    (s.afterUpdate result).value b = s.value b := by
  unfold State.afterUpdate
  split
  case h_1 c hr hc =>
    have hne : b ≠ c := by
      rintro rfl
      exact hb ⟨hr,hc⟩
    exact Function.update_of_ne hne ..
  case h_2 => rfl

lemma Settled.dispatch {e : DispatchEvent} (hs : Settled s) (h : DispatchMoves s e s') :
    Settled s' := by
  cases h with
  | reject => exact hs
  | take hopen hd =>
    refine ⟨hs.closed,fun hy => ?_⟩
    cases hopen.symm.trans (hs.closed hy)
  | focus hd => exact ⟨hs.closed,fun hy => absurd hd (hs.focused hy)⟩
  | cancel hd => exact ⟨hs.closed,fun _ => by simp⟩
  | ended hd hcancels hrun => exact ⟨hs.closed,fun _ => by simp⟩
  | cleaned hd => exact ⟨hs.closed,fun _ => by simp⟩
  | @updated result hd =>
    obtain ⟨value,he⟩ := afterUpdate_eq (s := s) result
    rw [he]
    exact ⟨hs.closed,fun _ => by simp⟩
  | unfocused hd => exact ⟨hs.closed,fun _ => by simp⟩
  | unreported hd => exact ⟨hs.closed,fun _ => by simp⟩

lemma Settled.handler {e : HandlerEvent} (hs : Settled s) (h : HandlerMoves s i e s') :
    Settled s' := by
  cases h with
  | sigterm hi =>
    unfold State.onSignal
    split
    · split
      · exact ⟨fun _ => rfl,fun _ => by simp [State.setHandler]⟩
      · exact ⟨fun _ => rfl,hs.focused⟩
      · exact ⟨fun _ => rfl,hs.focused⟩
    · exact ⟨fun _ => rfl,hs.focused⟩
  | reported hi hc => exact ⟨hs.closed,hs.focused⟩
  | acquired hi hv => exact ⟨hs.closed,hs.focused⟩
  | closes hi hc => exact ⟨hs.closed,hs.focused⟩
  | releases hi => exact ⟨hs.closed,hs.focused⟩
  | raises hi => exact ⟨hs.closed,hs.focused⟩

lemma settled_of_reachable {C : State → Event → Prop} (h : machine.ReachableBy C s) :
    Settled s := by
  refine h.invariant ?_ ?_
  · rintro _ rfl
    exact ⟨by simp [State.started],by simp [State.started]⟩
  · intro s e s' _ hs _ hstep
    obtain ⟨-,⟨d,-,hd⟩ | ⟨i,d,-,hd⟩⟩ := step_cases hstep
    · exact hs.dispatch hd
    · exact hs.handler hd

/-- A step of the dispatch gives no semaphore a chance that it did not have. -/
lemma Frees.of_dispatch {e : DispatchEvent} (hs : Settled s) (h : DispatchMoves s e s') {b : ℕ}
    (hb : Frees s' b) : Frees s b := by
  obtain hv | ⟨hy,hm⟩ := hb
  · cases h with
    | @updated result hd =>
      by_cases hg : result.yielded = true ∧ s.yieldBlocker = some b
      · exact .inr ⟨hg.2,by rw [hd]; exact hg.1⟩
      · exact .inl (by rwa [afterUpdate_value hg] at hv)
    | _ => exact .inl hv
  · cases h with
    | reject => exact .inr ⟨hy,hm⟩
    | take hopen hd => cases hm
    | focus hd => exact absurd hd (hs.focused (Option.isSome_of_eq_some hy))
    | cancel hd => exact .inr ⟨hy,by rw [hd]; rfl⟩
    | ended hd hcancels hrun => exact .inr ⟨hy,by rw [hd]; rfl⟩
    | cleaned hd => exact .inr ⟨hy,by rw [hd]; exact hm⟩
    | @updated result hd =>
      obtain ⟨value,he⟩ := afterUpdate_eq (s := s) result
      rw [he] at hm
      cases hm
    | unfocused hd => cases hm
    | unreported hd => cases hm

lemma DispatchMoves.same {e : DispatchEvent} (h : DispatchMoves s e s') :
    s'.handlers = s.handlers ∧ s'.left = s.left ∧ s'.connected = s.connected ∧
      s'.yieldBlocker = s.yieldBlocker ∧ s'.closed = s.closed := by
  cases h with
  | @updated result hd =>
    obtain ⟨value,he⟩ := afterUpdate_eq (s := s) result
    rw [he]
    exact ⟨rfl,rfl,rfl,rfl,rfl⟩
  | _ => exact ⟨rfl,rfl,rfl,rfl,rfl⟩

lemma CanLeave.of_dispatch {e : DispatchEvent} (hs : Settled s) (h : DispatchMoves s e s')
    (hl : CanLeave s') : CanLeave s := by
  obtain ⟨hh,hleft,hc,hy,-⟩ := h.same
  exact hl.mono hh.symm hleft.symm hc.symm hy.symm fun b => Frees.of_dispatch hs h

/-- A handler that takes a permit frees no semaphore. -/
lemma Frees.of_takePermit {b c : ℕ} (h : Frees (s.takePermit b) c) : Frees s c := by
  obtain hv | hy := h
  · unfold State.takePermit at hv
    by_cases hc : c = b
    · subst hc
      simp only [Function.update_self] at hv
      exact .inl (by omega)
    · simp only [Function.update_of_ne hc] at hv
      exact .inl hv
  · exact .inr hy

lemma CanLeave.of_handler {e : HandlerEvent} (hleft : s.left = false) (he : e ≠ .sigterm)
    (h : HandlerMoves s i e s') (hl : CanLeave s') : CanLeave s := by
  cases h with
  | sigterm hi => exact absurd rfl he
  | reported hi hc =>
    obtain hp | ⟨j,pc,-,hj,hp⟩ := (canLeave_setHandler_iff hleft).mp hl
    · exact .inr ⟨i,_,hi,promising_blocked.mp hp⟩
    · exact .inr ⟨j,pc,hj,hp⟩
  | @acquired b hi hv =>
    obtain hp | ⟨j,pc,-,hj,hp⟩ := (canLeave_setHandler_iff (s := s.takePermit b) hleft).mp hl
    · exact .inr ⟨i,_,hi,hp,.inl hv⟩
    · exact .inr ⟨j,pc,hj,Promising.mono (s := s.takePermit b) rfl rfl
        (fun c => Frees.of_takePermit) hp⟩
  | closes hi hc => exact .inr ⟨i,_,hi,hc⟩
  | releases hi => exact .inr ⟨i,_,hi,trivial⟩
  | raises hi =>
    obtain hp | ⟨j,pc,-,hj,hp⟩ := (canLeave_setHandler_iff hleft).mp hl
    · exact hp.elim
    · exact .inr ⟨j,pc,hj,hp⟩

def Event.isSignal : Event → Bool
  | .handler _ .sigterm => true
  | _ => false

/-- A step that is not another SIGTERM. -/
def Quiet (s s' : State) : Prop := ∃ e : Event, e.isSignal = false ∧ step s e = some s'

/-- The process may end without another SIGTERM. -/
def Leaves (s : State) : Prop := ∃ s', Relation.ReflTransGen Quiet s s' ∧ s'.left = true

lemma Settled.quiet (hs : Settled s) (h : Quiet s s') : Settled s' := by
  obtain ⟨e,-,hstep⟩ := h
  obtain ⟨-,⟨d,-,hd⟩ | ⟨i,d,-,hd⟩⟩ := step_cases hstep
  · exact hs.dispatch hd
  · exact hs.handler hd

lemma CanLeave.of_quiet (hs : Settled s) (h : Quiet s s') (hl : CanLeave s') : CanLeave s := by
  obtain ⟨e,hsignal,hstep⟩ := h
  obtain ⟨hleft,⟨d,rfl,hd⟩ | ⟨i,d,rfl,hd⟩⟩ := step_cases hstep
  · exact hl.of_dispatch hs hd
  · refine hl.of_handler hleft ?_ hd
    rintro rfl
    cases hsignal

lemma canLeave_of_leaves (hs : Settled s) (h : Leaves s) : CanLeave s := by
  obtain ⟨t,hleads,ht⟩ := h
  induction hleads using Relation.ReflTransGen.head_induction_on with
  | refl => exact .inl ht
  | head hstep _ ih => exact (ih (hs.quiet hstep)).of_quiet hs hstep

/-! ### The worker's own steps -/

/-- A step that needs nothing from outside of the worker: no message, no request and no signal. -/
def Event.isOwn : Event → Bool
  | .dispatch .deliver => false
  | .dispatch (.cancel _) => false
  | .handler _ .sigterm => false
  | _ => true

lemma isSignal_of_isOwn {e : Event} (h : e.isOwn = true) : e.isSignal = false := by
  unfold Event.isSignal
  split
  · cases h
  · rfl

def Advances (s s' : State) : Prop := ∃ e : Event, e.isOwn = true ∧ step s e = some s'

def DispatchPc.rank : DispatchPc → ℕ
  | .idle => 0
  | .updating _ => 1
  | .cleaning _ => 2
  | .running _ => 3
  | .focusing => 4

def HandlerPc.rank : HandlerPc → ℕ
  | .raised => 0
  | .disconnected => 1
  | .exiting => 2
  | .waiting _ => 3
  | .reporting => 4

def handlersRank (n : ℕ) (handlers : ℕ → Option HandlerPc) : ℕ :=
  ∑ i ∈ Finset.range n, (handlers i).elim 0 HandlerPc.rank

/-- How many steps of its own the worker may yet take, where all its handlers are among the first
`n`. -/
def State.rank (n : ℕ) (s : State) : ℕ :=
  (if s.left then 0 else 1)+s.dispatch.rank+handlersRank n s.handlers

def Bounded (n : ℕ) (s : State) : Prop := ∀ i, n ≤ i → s.handlers i = none

lemma Bounded.lt {n : ℕ} {pc : HandlerPc} (hn : Bounded n s) (hi : s.handlers i = some pc) :
    i < n := by
  by_contra hge
  cases hi.symm.trans (hn i (by omega))

lemma Bounded.setHandler {n : ℕ} (hn : Bounded n s) (hi : i < n) (pc : HandlerPc) :
    Bounded n (s.setHandler i pc) := by
  intro j hj
  rw [setHandler_of_ne pc (by omega)]
  exact hn j hj

lemma handlersRank_update_lt {n : ℕ} {handlers : ℕ → Option HandlerPc} {pc pc' : HandlerPc}
    (hn : i < n) (hi : handlers i = some pc) (hlt : pc'.rank < pc.rank) :
    handlersRank n (Function.update handlers i (some pc')) < handlersRank n handlers := by
  refine Finset.sum_lt_sum (fun j _ => ?_) ⟨i,Finset.mem_range.mpr hn,?_⟩
  · by_cases hj : j = i
    · subst hj
      simpa [hi] using hlt.le
    · rw [Function.update_of_ne hj]
  · simpa [hi] using hlt

lemma setHandler_advances {n : ℕ} {u : State} {pc pc' : HandlerPc} (hn : Bounded n s)
    (hh : u.handlers = s.handlers) (hl : u.left = s.left) (hd : u.dispatch = s.dispatch)
    (hi : s.handlers i = some pc) (hlt : pc'.rank < pc.rank) :
    Bounded n (u.setHandler i pc') ∧ (u.setHandler i pc').rank n < s.rank n := by
  have hu : Bounded n u := fun j hj => hh ▸ hn j hj
  have hrank := handlersRank_update_lt (hn.lt hi) hi hlt
  refine ⟨hu.setHandler (hn.lt hi) pc',?_⟩
  simp only [State.rank,State.setHandler,hh,hl,hd]
  omega

/-- A handler's own step brings it on, or ends the process. -/
lemma HandlerMoves.advances {e : HandlerEvent} {n : ℕ} (hn : Bounded n s) (hleft : s.left = false)
    (he : e ≠ .sigterm) (h : HandlerMoves s i e s') : Bounded n s' ∧ s'.rank n < s.rank n := by
  cases h with
  | sigterm hi => exact absurd rfl he
  | reported hi hc =>
    refine setHandler_advances hn rfl rfl rfl hi ?_
    unfold State.blocked
    split <;> simp [HandlerPc.rank]
  | @acquired b hi hv =>
    exact setHandler_advances (u := s.takePermit b) hn rfl rfl rfl hi (by simp [HandlerPc.rank])
  | closes hi hc =>
    exact setHandler_advances (u := { s with connected := false }) hn rfl rfl rfl hi
      (by simp [HandlerPc.rank])
  | releases hi => exact ⟨hn,by simp [State.rank,hleft]⟩
  | raises hi =>
    obtain hi | hi := hi
    · exact setHandler_advances hn rfl rfl rfl hi (by decide)
    · exact setHandler_advances hn rfl rfl rfl hi (by decide)

lemma DispatchMoves.rank_lt {e : DispatchEvent} (he : (Event.dispatch e).isOwn = true)
    (h : DispatchMoves s e s') : s'.dispatch.rank < s.dispatch.rank := by
  cases h with
  | reject => cases he
  | take hopen hd => cases he
  | @focus accepted hd => cases accepted <;> simp [hd,DispatchPc.rank]
  | cancel hd => cases he
  | ended hd hcancels hrun => simp [hd,DispatchPc.rank]
  | cleaned hd => simp [hd,DispatchPc.rank]
  | @updated result hd =>
    obtain ⟨value,he⟩ := afterUpdate_eq (s := s) result
    simp [hd,he,DispatchPc.rank]
  | unfocused hd => simp [hd,DispatchPc.rank]
  | unreported hd => simp [hd,DispatchPc.rank]

lemma Advances.rank_lt {n : ℕ} (hn : Bounded n s) (h : Advances s s') :
    Bounded n s' ∧ s'.rank n < s.rank n := by
  obtain ⟨e,hown,hstep⟩ := h
  obtain ⟨hleft,⟨d,rfl,hd⟩ | ⟨i,d,rfl,hd⟩⟩ := step_cases hstep
  · obtain ⟨hh,hl,-⟩ := hd.same
    have hlt := hd.rank_lt hown
    refine ⟨fun j hj => hh ▸ hn j hj,?_⟩
    simp only [State.rank,hh,hl]
    omega
  · refine hd.advances hn hleft ?_
    rintro rfl
    cases hown

lemma bounded_onSignal {n : ℕ} (hn : Bounded n s) : Bounded (max n (i+1)) (s.onSignal i) := by
  have hset : ∀ {u : State} {pc : HandlerPc}, u.handlers = s.handlers →
      Bounded (max n (i+1)) (u.setHandler i pc) := by
    intro u pc hh
    have hu : Bounded (max n (i+1)) u := fun j hj => hh ▸ hn j (by omega)
    exact hu.setHandler (by omega) pc
  unfold State.onSignal
  split
  · split
    · exact hset rfl
    · exact hset rfl
    · exact hset rfl
  · exact fun j hj => hn j (by omega)

/-- No more handlers than signals. -/
lemma bounded_of_reachable {C : State → Event → Prop} (h : machine.ReachableBy C s) :
    ∃ n, Bounded n s := by
  refine h.invariant (I := fun s => ∃ n, Bounded n s) ?_ ?_
  · rintro _ rfl
    exact ⟨0,fun _ _ => rfl⟩
  · rintro s e s' _ ⟨n,hn⟩ _ hstep
    obtain ⟨hleft,⟨d,-,hd⟩ | ⟨i,d,-,hd⟩⟩ := step_cases hstep
    · exact ⟨n,fun j hj => hd.same.1 ▸ hn j hj⟩
    · by_cases he : d = .sigterm
      · subst he
        cases hd
        exact ⟨max n (i+1),bounded_onSignal hn⟩
      · exact ⟨n,(hd.advances hn hleft he).1⟩

/-- The worker's own steps come to an end. -/
lemma acc_of_bounded {n : ℕ} (hn : Bounded n s) : Acc (fun t s => Advances s t) s := by
  induction hk : s.rank n using Nat.strong_induction_on generalizing s with
  | _ k ih =>
    refine .intro _ fun t ht => ?_
    obtain ⟨ht',hlt⟩ := ht.rank_lt hn
    exact ih _ (hk ▸ hlt) ht' rfl

/-! ### Runs in which no SIGTERM is lost -/

/-- Once a SIGTERM has cancelled the job, the job ends by a yield that is reported, and no handler
raises. -/
def Prompt (s : State) : Event → Prop
  | .dispatch (.ended run) => s.yieldBlocker.isSome = true →
      ∀ result, run.run = some result → result.yielded = true
  | .dispatch .raises => s.yieldBlocker = none
  | .handler _ .raises => False
  | _ => True

lemma Frees.dispatch {e : DispatchEvent} (hp : Prompt s (.dispatch e)) (h : DispatchMoves s e s')
    {b : ℕ} (hb : Frees s b) : Frees s' b := by
  obtain hv | ⟨hy,hm⟩ := hb
  · cases h with
    | updated hd =>
      refine .inl ?_
      unfold State.afterUpdate
      split
      case h_1 c hr hc =>
        by_cases hbc : b = c
        · subst hbc
          simp
        · simpa only [Function.update_of_ne hbc] using hv
      case h_2 => exact hv
    | _ => exact .inl hv
  · cases h with
    | reject => exact .inr ⟨hy,hm⟩
    | take hopen hd => simp [DispatchPc.mayYield,hd] at hm
    | focus hd => simp [DispatchPc.mayYield,hd] at hm
    | cancel hd => exact .inr ⟨hy,rfl⟩
    | ended hd hcancels hrun => exact .inr ⟨hy,hp (Option.isSome_of_eq_some hy) _ hrun⟩
    | cleaned hd =>
      rw [hd] at hm
      exact .inr ⟨hy,hm⟩
    | @updated result hd =>
      have hr : result.yielded = true := by
        rw [hd] at hm
        exact hm
      exact .inl (by simp [State.afterUpdate,hr,hy])
    | unfocused hd => simp [DispatchPc.mayYield,hd] at hm
    | unreported hd => cases hy.symm.trans hp

lemma promising_of_disconnected {pc : HandlerPc} (hc : s.connected = false)
    (hp : Promising s pc) : pc = .disconnected := by
  cases pc <;> simp_all [Promising]

lemma CanLeave.handler {e : HandlerEvent} (hleft : s.left = false) (he : e ≠ .sigterm)
    (hr : e ≠ .raises) (h : HandlerMoves s i e s') (hl : CanLeave s) : CanLeave s' := by
  obtain hl | ⟨j,pc,hj,hpc⟩ := hl
  · cases hleft.symm.trans hl
  cases h with
  | sigterm hi => exact absurd rfl he
  | reported hi hc =>
    by_cases hji : j = i
    · subst hji
      cases hi.symm.trans hj
      exact canLeave_setHandler (promising_blocked.mpr hpc)
    · exact (canLeave_setHandler_iff hleft).mpr (.inr ⟨j,pc,hji,hj,hpc⟩)
  | @acquired b hi hv =>
    cases hc : s.connected with
    | true => exact canLeave_setHandler (s := s.takePermit b) hc
    | false =>
      -- only a handler that has closed the connection goes on
      cases promising_of_disconnected hc hpc
      have hji : j ≠ i := by
        rintro rfl
        cases hi.symm.trans hj
      exact (canLeave_setHandler_iff (s := s.takePermit b) hleft).mpr (.inr ⟨j,_,hji,hj,trivial⟩)
  | closes hi hc => exact canLeave_setHandler (s := { s with connected := false }) trivial
  | releases hi => exact .inl rfl
  | raises hi => exact absurd rfl hr

lemma CanLeave.step {e : Event} (he : e.isSignal = false) (hp : Prompt s e)
    (hstep : step s e = some s') (hl : CanLeave s) : CanLeave s' := by
  obtain ⟨hleft,⟨d,rfl,hd⟩ | ⟨i,d,rfl,hd⟩⟩ := step_cases hstep
  · obtain ⟨hh,hleft',hc,hy,-⟩ := hd.same
    exact hl.mono hh hleft' hc hy fun b => Frees.dispatch hp hd
  · refine hl.handler hleft ?_ ?_ hd
    · rintro rfl
      cases he
    · rintro rfl
      exact hp

/-- A task that lets the cancellation of `_signal_handler` through. -/
def yieldingRun (cancels : List String) : TaskRun where
  code := .ends (.cancelled [workerYieldedExceptionCode])
  cancels := cancels
  pendingResult := ⟨"builder",none,none,none,none⟩
  returnsPending := false
  budget := .inTime
  traceback := ""

lemma run_yieldingRun (cancels : List String) :
    (yieldingRun cancels).run = some ((yieldingRun cancels).workerException
      workerYieldedExceptionCode "asyncio.exceptions.CancelledError") := rfl

lemma prompt_yieldingRun (cancels : List String) :
    Prompt s (.dispatch (.ended (yieldingRun cancels))) := by
  intro _ result hrun
  cases (run_yieldingRun cancels).symm.trans hrun
  rfl

/-- A step of the worker's own, on its way out. -/
def Goes (s s' : State) : Prop :=
  ∃ e : Event, e.isOwn = true ∧ Prompt s e ∧ step s e = some s'

lemma exists_goes_of_frees {b : ℕ} (hleft : s.left = false) (hi : s.handlers i = some (.waiting b))
    (hc : s.connected = true) (hf : Frees s b) : ∃ s', Goes s s' := by
  obtain hv | ⟨-,hm⟩ := hf
  · exact ⟨(s.takePermit b).setHandler i .exiting,.handler i .acquired,rfl,trivial,
      by simp [step,hleft,handlerStep,hi,hv]⟩
  · cases hd : s.dispatch with
    | running cancels =>
      refine ⟨{ s with dispatch := .cleaning ((yieldingRun cancels).workerException
          workerYieldedExceptionCode "asyncio.exceptions.CancelledError") },
        .dispatch (.ended (yieldingRun cancels)),rfl,prompt_yieldingRun cancels,?_⟩
      have hcancels : (yieldingRun cancels).cancels = cancels := rfl
      simp [step,hleft,dispatchStep,hd,hcancels,run_yieldingRun]
    | cleaning result =>
      exact ⟨{ s with dispatch := .updating result },.dispatch .cleaned,rfl,trivial,
        by simp [step,hleft,dispatchStep,hd]⟩
    | updating result =>
      exact ⟨s.afterUpdate result,.dispatch .updated,rfl,trivial,
        by simp [step,hleft,dispatchStep,hd,hc]⟩
    | idle => simp [DispatchPc.mayYield,hd] at hm
    | focusing => simp [DispatchPc.mayYield,hd] at hm

/-- A worker that can leave has a next step of its own. -/
lemma exists_goes (hleft : s.left = false) (h : CanLeave s) : ∃ s', Goes s s' := by
  obtain h | ⟨i,pc,hi,hp⟩ := h
  · cases hleft.symm.trans h
  · cases pc with
    | reporting =>
      exact ⟨s.setHandler i s.blocked,.handler i .reported,rfl,trivial,
        by simp [step,hleft,handlerStep,hi,hp.1]⟩
    | waiting b => exact exists_goes_of_frees hleft hi hp.1 hp.2
    | exiting =>
      have hc : s.connected = true := hp
      exact ⟨State.setHandler { s with connected := false } i .disconnected,.handler i .closes,rfl,
        trivial,by simp [step,hleft,handlerStep,hi,hc]⟩
    | disconnected =>
      exact ⟨{ s with left := true },.handler i .releases,rfl,trivial,
        by simp [step,hleft,handlerStep,hi]⟩
    | raised => exact hp.elim

lemma Leaves.head {e : Event} (hstep : step s e = some s') (he : e.isSignal = false)
    (h : Leaves s') : Leaves s := by
  obtain ⟨t,hleads,ht⟩ := h
  exact ⟨t,.head ⟨e,he,hstep⟩ hleads,ht⟩

lemma leaves_of_left (h : s.left = true) : Leaves s := ⟨s,.refl,h⟩

lemma leaves_of_canLeave {n : ℕ} (hn : Bounded n s) (h : CanLeave s) : Leaves s := by
  induction acc_of_bounded hn with
  | intro s _ ih =>
    cases hleft : s.left with
    | true => exact leaves_of_left hleft
    | false =>
      obtain ⟨t,e,hown,hp,hstep⟩ := exists_goes hleft h
      have ht : Advances s t := ⟨e,hown,hstep⟩
      have hsignal := isSignal_of_isOwn hown
      exact (ih t ht (ht.rank_lt hn).1 (h.step hsignal hp hstep)).head hstep hsignal

/-- A worker can still end without another SIGTERM exactly if one of its handlers is past its wait,
or waits for a semaphore that has a permit or that the job may yet release by a yield. A job that
ended otherwise after the SIGTERM keeps the worker up. -/
theorem leaves_iff_canLeave (h : machine.Reachable s) : Leaves s ↔ CanLeave s := by
  obtain ⟨n,hn⟩ := bounded_of_reachable h
  exact ⟨canLeave_of_leaves (settled_of_reachable h),leaves_of_canLeave hn⟩

/-- The worker after a SIGTERM during a job that failed. -/
def afterFailedJob : State where
  closed := true
  connected := true
  dispatch := .idle
  yieldBlocker := some 0
  blockers := 1
  value := Function.update (fun _ => 0) 0 0
  handlers := Function.update (Function.update (fun _ => none) 0 (some .reporting)) 0
    (some (.waiting 0))
  left := false

/-- A task whose code raises as it is cancelled. -/
def failingRun : TaskRun :=
  { yieldingRun [workerYieldedExceptionCode] with
    code := .ends (.raised (.single (.other "OSError"))) }

/-- The job still runs and the handler waits for its yield. -/
lemma reachable_cancelledJob : machine.ReachableBy Prompt
    { afterFailedJob with dispatch := .running [workerYieldedExceptionCode] } :=
  ((((Machine.ReachableBy.start (M := machine) (s := .started) rfl).next
    (e := .dispatch .deliver) trivial rfl).next
    (e := .dispatch (.focus true)) trivial rfl).next
    (e := .handler 0 .sigterm) trivial rfl).next
    (e := .handler 0 .reported) trivial rfl

lemma reachable_afterFailedJob : machine.Reachable afterFailedJob := by
  have hcancelled : machine.Reachable _ := reachable_cancelledJob.mono fun _ _ _ => trivial
  have hended := hcancelled.next (e := .dispatch (.ended failingRun)) trivial rfl
  have hcleaned := hended.next (e := .dispatch .cleaned) trivial rfl
  exact hcleaned.next (e := .dispatch .updated) trivial rfl

theorem leaves_iff_canLeave_failedJob : ¬ Leaves afterFailedJob := by
  rw [leaves_iff_canLeave reachable_afterFailedJob]
  rintro (h | ⟨i,pc,hi,hp⟩)
  · cases h
  · have hpc : pc = .waiting 0 := by
      by_cases h0 : i = 0
      · subst h0
        simpa [afterFailedJob] using hi.symm
      · simp [afterFailedJob,h0] at hi
    subst hpc
    obtain ⟨-,hv | ⟨-,hm⟩⟩ := hp
    · cases hv
    · cases hm

lemma CanLeave.signal (hleft : s.left = false) (hs : Settled s)
    (hi : s.handlers i = none) (h : s.closed = true → CanLeave s) : CanLeave (s.onSignal i) := by
  unfold State.onSignal
  split
  case isFalse => exact .inl rfl
  case isTrue hc =>
    split
    · exact canLeave_setHandler ⟨hc,fun b hb => .inr ⟨hb,rfl⟩⟩
    case h_2 result hd =>
      cases hclosed : s.closed with
      | false =>
        have hy : s.yieldBlocker = none := by
          by_contra hy
          cases hclosed.symm.trans (hs.closed (Option.isSome_iff_ne_none.mpr hy))
        have hb : s.blocked = .exiting := by simp [State.blocked,hy]
        rw [hb]
        exact canLeave_setHandler hc
      | true =>
        obtain h | ⟨j,pc,hj,hp⟩ := h hclosed
        · cases hleft.symm.trans h
        · have hji : j ≠ i := by
            rintro rfl
            cases hi.symm.trans hj
          refine (canLeave_setHandler_iff (s := { s with closed := true }) hleft).mpr
            (.inr ⟨j,pc,hji,hj,?_⟩)
          exact hp.mono rfl rfl fun b hb => hb
    · exact canLeave_setHandler hc

@[simp] lemma closed_onSignal : (s.onSignal i).closed = true := by
  unfold State.onSignal
  split
  · split <;> rfl
  · rfl

lemma closed_of_step {e : Event} (hstep : step s e = some s') (hc : s.closed = true) :
    s'.closed = true := by
  obtain ⟨-,⟨d,-,hd⟩ | ⟨i,d,-,hd⟩⟩ := step_cases hstep
  · exact hd.same.2.2.2.2.trans hc
  · cases hd with
    | sigterm hi => exact closed_onSignal
    | _ => exact hc

lemma canLeave_of_prompt (h : machine.ReachableBy Prompt s) (hclosed : s.closed = true) :
    CanLeave s := by
  refine h.invariant (I := fun s => s.closed = true → CanLeave s) ?_ ?_ hclosed
  · rintro _ rfl hc
    cases hc
  · intro s e s' hr hl hp hstep hc
    obtain ⟨hleft,⟨d,rfl,hd⟩ | ⟨i,d,rfl,hd⟩⟩ := step_cases hstep
    · exact (hl (hd.same.2.2.2.2 ▸ hc)).step rfl hp hstep
    · cases hd with
      | sigterm hi => exact CanLeave.signal hleft (settled_of_reachable hr) hi hl
      | _ => exact (hl hc).step rfl hp hstep

/-- In every run in which the job yields once a SIGTERM has cancelled it, whatever the number of
signals and whenever they come: from the first SIGTERM on the worker's own steps come to an end, and
the end is that the process has left. -/
theorem ends_of_prompt (h : machine.ReachableBy Prompt s) (hclosed : s.closed = true) :
    Acc (fun t s => Advances s t) s ∧
      ∀ s', Relation.ReflTransGen Goes s s' → (∀ t, ¬ Goes s' t) → s'.left = true := by
  obtain ⟨n,hn⟩ := bounded_of_reachable h
  refine ⟨acc_of_bounded hn,fun s' hleads hstuck => ?_⟩
  have hreach : machine.ReachableBy Prompt s' ∧ s'.closed = true := by
    clear hstuck
    induction hleads with
    | refl => exact ⟨h,hclosed⟩
    | tail _ hgoes ih =>
      obtain ⟨e,-,hp,hstep⟩ := hgoes
      exact ⟨ih.1.next hp hstep,closed_of_step hstep ih.2⟩
  by_contra hleft
  obtain ⟨t,ht⟩ := exists_goes (by simpa using hleft) (canLeave_of_prompt hreach.1 hreach.2)
  exact hstuck t ht

/-- The worker after a SIGTERM during a job that yielded. -/
def afterYieldedJob : State :=
  { afterFailedJob with value := Function.update (Function.update (fun _ => 0) 0 0) 0 1 }

lemma reachable_afterYieldedJob : machine.ReachableBy Prompt afterYieldedJob := by
  have hended := reachable_cancelledJob.next (e := Event.dispatch (.ended (yieldingRun [workerYieldedExceptionCode])))
    (prompt_yieldingRun _) rfl
  have hcleaned := hended.next (e := Event.dispatch .cleaned) trivial rfl
  exact hcleaned.next (e := Event.dispatch .updated) trivial rfl

theorem ends_of_prompt_yieldedJob : Acc (fun t s => Advances s t) afterYieldedJob ∧
    ∀ s', Relation.ReflTransGen Goes afterYieldedJob s' → (∀ t, ¬ Goes s' t) → s'.left = true :=
  ends_of_prompt reachable_afterYieldedJob rfl

/-! ### A handler that waited -/

/-- The scheduler was told of a yield while the semaphore was the one to release. -/
def ReportedYield (b : ℕ) (tr : List (State × Event)) : Prop :=
  ∃ u result, (u,.dispatch .updated) ∈ tr ∧ u.dispatch = .updating result ∧
    result.yielded = true ∧ u.yieldBlocker = some b

lemma ReportedYield.cons {b : ℕ} {tr : List (State × Event)} (e : State × Event)
    (h : ReportedYield b tr) : ReportedYield b (e :: tr) := by
  obtain ⟨u,result,hmem,hu⟩ := h
  exact ⟨u,result,List.mem_cons_of_mem _ hmem,hu⟩

lemma permit_of_onSignal {b : ℕ} (hv : 0 < (s.onSignal i).value b) : 0 < s.value b := by
  unfold State.onSignal at hv
  split at hv
  · split at hv
    · by_cases hb : b = s.blockers
      · subst hb
        simp [State.setHandler] at hv
      · simpa [State.setHandler,Function.update_of_ne hb] using hv
    · exact hv
    · exact hv
  · exact hv

/-- A permit comes from the report of a yield. -/
lemma reportedYield_of_permit {C : State → Event → Prop} {tr : List (State × Event)}
    (h : machine.Run C tr s) : ∀ b, 0 < s.value b → ReportedYield b tr := by
  refine h.invariant (I := fun tr s => ∀ b, 0 < s.value b → ReportedYield b tr) ?_ ?_
  · rintro _ rfl b hv
    cases hv
  · intro tr s e s' _ ih _ hstep b hv
    obtain ⟨-,⟨d,rfl,hd⟩ | ⟨i,d,rfl,hd⟩⟩ := step_cases hstep
    · cases hd with
      | @updated result hd =>
        by_cases hg : result.yielded = true ∧ s.yieldBlocker = some b
        · exact ⟨s,result,List.mem_cons_self,hd,hg⟩
        · exact (ih b (afterUpdate_value hg ▸ hv)).cons _
      | _ => exact (ih b hv).cons _
    · refine (ih b ?_).cons _
      cases hd with
      | sigterm hi => exact permit_of_onSignal hv
      | @acquired c hi hc =>
        by_cases hbc : b = c
        · exact hbc ▸ hc
        · simpa [State.takePermit,State.setHandler,Function.update_of_ne hbc] using hv
      | _ => exact hv

/-- A handler that waited for the job goes on only after the scheduler was told of its yield, so
the job is not lost with the worker. -/
theorem reportedYield_of_acquired {C : State → Event → Prop} {tr : List (State × Event)} {b : ℕ}
    (h : machine.Run C tr s) (hi : s.handlers i = some (.waiting b))
    (hstep : machine.step s (.handler i .acquired) = some s') : ReportedYield b tr := by
  obtain ⟨-,⟨d,hd,-⟩ | ⟨j,d,hj,hd⟩⟩ := step_cases (e := .handler i .acquired) hstep
  · cases hd
  · cases hj
    cases hd with
    | @acquired c hc hv =>
      cases hi.symm.trans hc
      exact reportedYield_of_permit h b hv

theorem reportedYield_of_acquired_yieldedJob :
    ∃ tr, machine.Run Prompt tr afterYieldedJob ∧ ReportedYield 0 tr := by
  obtain ⟨tr,h⟩ := reachable_afterYieldedJob
  exact ⟨tr,h,reportedYield_of_acquired (i := 0) h rfl rfl⟩

end LiveKBench.KCore.Shutdown
