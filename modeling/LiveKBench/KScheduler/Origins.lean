import LiveKBench.KScheduler.Writes

/-! Where the parts of a state come from: an operation, what a worker handles, or a request in
flight is, after a move, what it was before or what the move made of it. -/
namespace LiveKBench.KScheduler
open KCore Lib Backend

/-- How an operation goes on after a piece. -/
def Outcome.next? {π : Type} : Outcome π → Option π
  | .exec _ next => some next
  | .commit next => some next
  | .publish _ next => next
  | .finish _ => none
  | .raise _ _ => none

namespace State
variable (s : State)

@[simp] theorem operations_setHandling (w : ℕ) (h : Option Handling) :
    (s.setHandling w h).operations = s.operations := rfl
@[simp] theorem operations_setOperation (i : ℕ) (op : Option Operation) :
    (s.setOperation i op).operations = Function.update s.operations i op := rfl
@[simp] theorem operations_finishDispatch (w : ℕ) :
    (s.finishDispatch w).operations = s.operations := rfl
@[simp] theorem operations_failDispatch (w : ℕ) :
    (s.failDispatch w).operations = s.operations := rfl

@[simp] theorem operations_replyFocus (call : FocusCall) (receipt : JobFocusReceipt) :
    (s.replyFocus call receipt).operations = s.operations := by
  rcases s.replyFocus_cases call receipt with ⟨j,_,⟨_,h⟩ | ⟨_,h⟩⟩ | ⟨_,h⟩ <;> simp [h]

@[simp] theorem operations_replyUpdate (call : UpdateCall) :
    (s.replyUpdate call).operations = s.operations := by
  rcases s.replyUpdate_cases call with ⟨j,_,h⟩ | ⟨_,h⟩ <;> simp [h]

@[simp] theorem operations_publish (i : ℕ) (m : Publication) :
    (s.publish i m).operations = s.operations := by
  cases m <;> simp [publish]

@[simp] theorem operations_requeue (i : ℕ) (op : Operation) :
    (s.requeue i op).operations = s.operations := by
  cases op <;> rfl

@[simp] theorem operations_settle (i : ℕ) (op : Operation) (o : Outcome Operation) :
    (s.settle i op o).operations = Function.update s.operations i o.next? := by
  cases o <;> simp [settle,Outcome.next?]

@[simp] theorem workers_setOperation (i : ℕ) (op : Option Operation) :
    (s.setOperation i op).workers = s.workers := rfl
@[simp] theorem workers_requeue (i : ℕ) (op : Operation) :
    (s.requeue i op).workers = s.workers := by
  cases op <;> rfl

/-- What worker `w` handles, if its lock is taken. -/
def handling (w : ℕ) : Option Handling := (s.workers w).handling

theorem handling_setHandling (w v : ℕ) (h : Option Handling) :
    (s.setHandling w h).handling v = if v = w then h else s.handling v := by
  by_cases hv : v = w
  · subst hv
    simp [handling,setHandling]
  · simp [handling,setHandling,hv]

@[simp] theorem handling_setOperation (i : ℕ) (op : Option Operation) :
    (s.setOperation i op).handling = s.handling := rfl
@[simp] theorem handling_requeue (i : ℕ) (op : Operation) :
    (s.requeue i op).handling = s.handling := by
  cases op <;> rfl

theorem handling_finishDispatch (w v : ℕ) :
    (s.finishDispatch w).handling v = if v = w then none else s.handling v :=
  handling_setHandling _ w v none

theorem handling_failDispatch (w v : ℕ) :
    (s.failDispatch w).handling v = if v = w then none else s.handling v :=
  handling_setHandling _ w v none

/-! The queues of the RPCs; a reply to a worker touches neither. -/

@[simp] theorem focusCalls_replyFocus (call : FocusCall) (receipt : JobFocusReceipt) :
    (s.replyFocus call receipt).focusCalls = s.focusCalls := by
  rcases s.replyFocus_cases call receipt with ⟨j,_,⟨_,h⟩ | ⟨_,h⟩⟩ | ⟨_,h⟩ <;> rw [h] <;> rfl
@[simp] theorem updateCalls_replyFocus (call : FocusCall) (receipt : JobFocusReceipt) :
    (s.replyFocus call receipt).updateCalls = s.updateCalls := by
  rcases s.replyFocus_cases call receipt with ⟨j,_,⟨_,h⟩ | ⟨_,h⟩⟩ | ⟨_,h⟩ <;> rw [h] <;> rfl
@[simp] theorem focusCalls_replyUpdate (call : UpdateCall) :
    (s.replyUpdate call).focusCalls = s.focusCalls := by
  rcases s.replyUpdate_cases call with ⟨j,_,h⟩ | ⟨_,h⟩
  · rw [h]; rfl
  · rw [h]
@[simp] theorem updateCalls_replyUpdate (call : UpdateCall) :
    (s.replyUpdate call).updateCalls = s.updateCalls := by
  rcases s.replyUpdate_cases call with ⟨j,_,h⟩ | ⟨_,h⟩
  · rw [h]; rfl
  · rw [h]
@[simp] theorem nextCorrelationId_replyFocus (call : FocusCall) (receipt : JobFocusReceipt) :
    (s.replyFocus call receipt).nextCorrelationId = s.nextCorrelationId := by
  rcases s.replyFocus_cases call receipt with ⟨j,_,⟨_,h⟩ | ⟨_,h⟩⟩ | ⟨_,h⟩ <;> rw [h] <;> rfl
@[simp] theorem nextCorrelationId_replyUpdate (call : UpdateCall) :
    (s.replyUpdate call).nextCorrelationId = s.nextCorrelationId := by
  rcases s.replyUpdate_cases call with ⟨j,_,h⟩ | ⟨_,h⟩
  · rw [h]; rfl
  · rw [h]

@[simp] theorem nextCorrelationId_settle (i : ℕ) (op : Operation) (o : Outcome Operation) :
    (s.settle i op o).nextCorrelationId = s.nextCorrelationId := by
  rcases o with _ | _ | ⟨m,_⟩ | _ | _
  case publish => cases m <;> simp [settle,publish,setOperation]
  case raise => cases op <;> rfl
  all_goals rfl

end State

theorem State.advancing_eq_some {s : State} {e : Event} {op : Operation}
    (h : s.advancing e = some op) : ∃ i ts, e = .advance i ts ∧ s.operations i = some op := by
  cases e with
  | advance i ts => exact ⟨i,ts,rfl,h⟩
  | _ => cases h

/-- The writing statement of an event is that of the operation that it advances. -/
theorem State.statement_eq_some {s : State} {e : Event} {st : Statement}
    (h : s.statement e = some st) :
    ∃ i ts op, e = .advance i ts ∧ s.operations i = some op ∧ op.statement = some st := by
  obtain ⟨op,hop,hst⟩ := Option.bind_eq_some_iff.mp h
  obtain ⟨i,ts,rfl,hop⟩ := advancing_eq_some hop
  exact ⟨i,ts,op,rfl,hop,hst⟩

/-- The operations that an event starts. -/
inductive Starts : Event → ℕ → Operation → Prop
  | newJob {i request ts} : Starts (.newJob i request ts) i (.newJob request (.digest ts))
  | abortJob {i jobId} : Starts (.abortJob i jobId) i (.abort jobId (.read .digest))
  | restartJob {i jobId restartFrom} (bound : -1 ≤ restartFrom) :
      Starts (.restartJob i jobId restartFrom) i (.restart jobId restartFrom (.read .digest))
  | handleFocus {i call ts} : Starts (.handleFocus i call ts) i (.focus call (.write ts))
  | handleUpdate {i call ts} :
      Starts (.handleUpdate i call ts) i (.update call (.start call.argument ts))

/-- What becomes of an operation: it stays, runs one piece, or ends. -/
inductive OperationFate (s u : State) (i : ℕ) (op : Operation) : Event → Prop
  | kept {e} (after : u.operations i = some op) : OperationFate s u i op e
  | piece {ts o} (ran : Piece ts s.db op o) (after : u = s.settle i op o) :
      OperationFate s u i op (.advance i ts)
  | failed (after : u = (s.setOperation i none).requeue i op) : OperationFate s u i op (.fail i)
  | lost (replies : State.atReply op = true)
      (after : u = { s with
        focusCalls := s.focusCalls.ack i, updateCalls := s.updateCalls.ack i
        }.setOperation i none) : OperationFate s u i op (.loseReply i)
  | stopped {graceful ts} : OperationFate s u i op (.restartScheduler graceful ts)
  | answered {w call jobId} (awaits : op = .abort jobId .await) :
      OperationFate s u i op (.answerAbort w call)

namespace Move
variable {fleet : Fleet} {s u : State} {e : Event}

/-- An operation after a move was there before, or has run one piece, or has been started. -/
theorem operation_origin (h : Move fleet s e u) {k : ℕ} {op : Operation}
    (hk : u.operations k = some op) :
    (s.operations k = some op ∧ ∀ ts, e ≠ .advance k ts) ∨
      (∃ ts op₀ o, e = .advance k ts ∧ s.operations k = some op₀ ∧ Piece ts s.db op₀ o ∧
        o.next? = some op) ∨
      Starts e k op ∧ s.operations k = none := by
  have hupdate : ∀ {i : ℕ} {op' : Option Operation},
      Function.update s.operations i op' k = some op →
        k ≠ i ∧ s.operations k = some op ∨ k = i ∧ op' = some op := by
    intro i op' hu
    by_cases hi : k = i
    · subst hi
      exact .inr ⟨rfl,by simpa using hu⟩
    · exact .inl ⟨hi,by simpa [hi] using hu⟩
  cases h with
  | newJob free =>
    rcases hupdate hk with ⟨-,hk⟩ | ⟨rfl,ho⟩
    · exact .inl ⟨hk,by simp⟩
    · cases ho
      exact .inr (.inr ⟨.newJob,free⟩)
  | abortJob free =>
    rcases hupdate hk with ⟨-,hk⟩ | ⟨rfl,ho⟩
    · exact .inl ⟨hk,by simp⟩
    · cases ho
      exact .inr (.inr ⟨.abortJob,free⟩)
  | restartJob free bound =>
    rcases hupdate hk with ⟨-,hk⟩ | ⟨rfl,ho⟩
    · exact .inl ⟨hk,by simp⟩
    · cases ho
      exact .inr (.inr ⟨.restartJob bound,free⟩)
  | handleFocus free =>
    rcases hupdate hk with ⟨-,hk⟩ | ⟨rfl,ho⟩
    · exact .inl ⟨hk,by simp⟩
    · cases ho
      exact .inr (.inr ⟨.handleFocus,free⟩)
  | handleUpdate free =>
    rcases hupdate hk with ⟨-,hk⟩ | ⟨rfl,ho⟩
    · exact .inl ⟨hk,by simp⟩
    · cases ho
      exact .inr (.inr ⟨.handleUpdate,free⟩)
  | @advance i ts op₀ o running piece =>
    rw [State.operations_settle] at hk
    rcases hupdate hk with ⟨hi,hk⟩ | ⟨rfl,ho⟩
    · exact .inl ⟨hk,fun _ he => hi (Event.advance.inj he).1.symm⟩
    · exact .inr (.inl ⟨ts,op₀,o,rfl,running,piece,ho⟩)
  | fail =>
    rw [State.operations_requeue] at hk
    rcases hupdate hk with ⟨-,hk⟩ | ⟨_,ho⟩
    · exact .inl ⟨hk,by simp⟩
    · cases ho
  | loseReply | answerAbort =>
    rcases hupdate hk with ⟨-,hk⟩ | ⟨_,ho⟩
    · exact .inl ⟨hk,by simp⟩
    · cases ho
  | restartScheduler => cases hk
  | _ => exact .inl ⟨hk,by simp⟩

theorem operation_fate (h : Move fleet s e u) {i : ℕ} {op : Operation}
    (hop : s.operations i = some op) : OperationFate s u i op e := by
  have hupdate : ∀ {j : ℕ} {op' : Option Operation}, i ≠ j →
      Function.update s.operations j op' i = some op := by
    intro j op' hij
    rw [Function.update_of_ne hij]
    exact hop
  have hfree : ∀ {j : ℕ}, s.operations j = none → i ≠ j := by
    rintro j hj rfl
    exact absurd (hj.symm.trans hop) (by simp)
  cases h with
  | newJob free | abortJob free | restartJob free | handleFocus free | handleUpdate free =>
    exact .kept (hupdate (hfree free))
  | @advance j ts op' o running piece =>
    by_cases hij : i = j
    · subst hij
      cases running.symm.trans hop
      exact .piece piece rfl
    · exact .kept (by rw [State.operations_settle]; exact hupdate hij)
  | @fail j op' running =>
    by_cases hij : i = j
    · subst hij
      cases running.symm.trans hop
      exact .failed rfl
    · exact .kept (by rw [State.operations_requeue]; exact hupdate hij)
  | @loseReply j op' running replies =>
    by_cases hij : i = j
    · subst hij
      cases running.symm.trans hop
      exact .lost replies rfl
    · exact .kept (hupdate hij)
  | restartScheduler => exact .stopped
  | @answerAbort w call jobId awaited =>
    by_cases hij : i = call.awaiter
    · subst hij
      cases awaited.symm.trans hop
      exact .answered rfl
    · exact .kept (hupdate hij)
  | _ => exact .kept hop

end Move

/-! ## The workers -/

/-- The worker that an event is a step of. -/
def Event.worker? : Event → Option ℕ
  | .deliver w _ => some w
  | .requestFocus w => some w
  | .report w _ => some w
  | .raise w => some w
  | _ => none

/-- Where what a worker handles comes from. -/
inductive HandlingOrigin (fleet : Fleet) (s : State) (w : ℕ) : Event → Handling → Prop
  | kept {e h} (before : s.handling w = some h) (other : e.worker? ≠ some w) :
      HandlingOrigin fleet s w e h
  | delivered {m} (ready : m ∈ s.dispatches.ready) (consumes : (fleet w).Consumes m)
      (unlocked : s.handling w = none) :
      HandlingOrigin fleet s w (.deliver w m) ⟨m.jobId,.received⟩
  | requested {jobId} (before : s.handling w = some ⟨jobId,.received⟩) :
      HandlingOrigin fleet s w (.requestFocus w) ⟨jobId,.focusing s.nextCorrelationId⟩
  | focused {i ts call receipt jobId} (running : s.operations i = some (.focus call (.reply receipt)))
      (status : receipt.status = .focused) (caller : call.caller = w)
      (before : s.handling w = some ⟨jobId,.focusing call.correlationId⟩) :
      HandlingOrigin fleet s w (.advance i ts) ⟨jobId,.running receipt.jobContext⟩
  | reported {result jobId jobContext} (before : s.handling w = some ⟨jobId,.running jobContext⟩) :
      HandlingOrigin fleet s w (.report w result) ⟨jobId,.updating s.nextCorrelationId⟩

/-- What a publication makes of what a worker handles. -/
lemma State.handling_publish {s : State} {i w : ℕ} {m : Publication} {h : Handling}
    (hh : (s.publish i m).handling w = some h) :
    s.handling w = some h ∨ ∃ call receipt jobId, m = .focusReply call receipt ∧
      receipt.status = .focused ∧ call.caller = w ∧
        s.handling w = some ⟨jobId,.focusing call.correlationId⟩ ∧
          h = ⟨jobId,.running receipt.jobContext⟩ := by
  cases m with
  | dispatch m => exact .inl hh
  | abortRequest hostname jobId => exact .inl hh
  | focusReply call receipt =>
    change (State.replyFocus { s with focusCalls := s.focusCalls.ack i } call receipt).handling w =
      some h at hh
    rcases State.replyFocus_cases call receipt with
      ⟨jobId,hw,⟨hs,hr⟩ | ⟨-,hr⟩⟩ | ⟨-,hr⟩
    · rw [hr,State.handling_setHandling] at hh
      split at hh
      · next he =>
        subst he
        exact .inr ⟨call,receipt,jobId,rfl,hs,rfl,hw,(Option.some.inj hh).symm⟩
      · exact .inl hh
    · rw [hr,State.handling_finishDispatch] at hh
      split at hh
      · cases hh
      · exact .inl hh
    · rw [hr] at hh
      exact .inl hh
  | updateReply call =>
    change (State.replyUpdate { s with updateCalls := s.updateCalls.ack i } call).handling w =
      some h at hh
    rcases State.replyUpdate_cases call with ⟨jobId,-,hr⟩ | ⟨-,hr⟩
    · rw [hr,State.handling_finishDispatch] at hh
      split at hh
      · cases hh
      · exact .inl hh
    · rw [hr] at hh
      exact .inl hh

/-- What a worker handles after a piece of an operation. -/
lemma State.handling_settle {s : State} {i w : ℕ} {op : Operation} {o : Outcome Operation}
    {ts : TimeStamp} {h : Handling} (hp : Piece ts s.db op o)
    (hh : (s.settle i op o).handling w = some h) :
    s.handling w = some h ∨ ∃ call receipt jobId, op = .focus call (.reply receipt) ∧
      receipt.status = .focused ∧ call.caller = w ∧
        s.handling w = some ⟨jobId,.focusing call.correlationId⟩ ∧
          h = ⟨jobId,.running receipt.jobContext⟩ := by
  rcases o with ⟨db,next⟩ | next | ⟨m,next⟩ | db | ⟨db,err⟩
  case exec | commit | finish => exact .inl hh
  case raise =>
    rw [State.settle,State.handling_requeue] at hh
    exact .inl hh
  case publish =>
    rcases State.handling_publish hh with hh | ⟨call,receipt,jobId,rfl,hs,hc,hw,hr⟩
    · exact .inl hh
    · cases hp
      exact .inr ⟨call,receipt,jobId,rfl,hs,hc,hw,hr⟩

namespace Move
variable {fleet : Fleet} {s u : State} {e : Event}

theorem handling_origin (h : Move fleet s e u) {w : ℕ} {hd : Handling}
    (hh : u.handling w = some hd) : HandlingOrigin fleet s w e hd := by
  cases h with
  | @advance i ts op o running piece =>
    rcases State.handling_settle piece hh with hh | ⟨call,receipt,jobId,rfl,hs,hc,hw,rfl⟩
    · exact .kept hh (by simp [Event.worker?])
    · exact .focused running hs hc hw
  | fail =>
    rw [State.handling_requeue] at hh
    exact .kept hh (by simp [Event.worker?])
  | @deliver v m ready free consumes unlocked =>
    rw [State.handling_setHandling] at hh
    split at hh
    · next he =>
      subst he
      cases hh
      exact .delivered ready consumes unlocked
    · next he => exact .kept hh (by simpa [Event.worker?] using Ne.symm he)
  | @requestFocus v jobId received =>
    rw [State.handling_setHandling] at hh
    split at hh
    · next he =>
      subst he
      cases hh
      exact .requested received
    · next he => exact .kept hh (by simpa [Event.worker?] using Ne.symm he)
  | @report v result jobId jobContext running =>
    rw [State.handling_setHandling] at hh
    split at hh
    · next he =>
      subst he
      cases hh
      exact .reported running
    · next he => exact .kept hh (by simpa [Event.worker?] using Ne.symm he)
  | @raise v h' locked =>
    rw [State.handling_failDispatch] at hh
    split at hh
    · cases hh
    · next he => exact .kept hh (by simpa [Event.worker?] using Ne.symm he)
  | @close v =>
    refine .kept ?_ (by simp [Event.worker?])
    by_cases hv : w = v
    · subst hv
      simpa [State.handling] using hh
    · simpa [State.handling,hv] using hh
  | _ => exact .kept hh (by simp [Event.worker?])

end Move
end LiveKBench.KScheduler
