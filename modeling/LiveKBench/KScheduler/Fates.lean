import LiveKBench.KScheduler.Wiring

/-! What becomes of the parts of a state: a dispatch message, what a worker handles, and an update
request stay, or a move turns them into something that the next state shows. -/
namespace LiveKBench.KScheduler
open KCore Lib Backend

namespace State
variable {s : State}

/-- What an answer ends: the worker's dispatch, with its message. -/
def Ended (s : State) (e : Event) (w : ℕ) : Prop :=
  ∃ i ts, e = .advance i ts ∧
    ((∃ call receipt jobId, s.operations i = some (.focus call (.reply receipt)) ∧
        receipt.status = .rejected ∧ call.caller = w ∧
          s.handling w = some ⟨jobId,.focusing call.correlationId⟩) ∨
      ∃ call jobId, s.operations i = some (.update call .reply) ∧ call.caller = w ∧
        s.handling w = some ⟨jobId,.updating call.correlationId⟩)

@[simp] theorem dispatches_setHandling (w : ℕ) (h : Option Handling) :
    (s.setHandling w h).dispatches = s.dispatches := rfl
@[simp] theorem dispatches_setOperation (i : ℕ) (op : Option Operation) :
    (s.setOperation i op).dispatches = s.dispatches := rfl
@[simp] theorem dispatches_finishDispatch (w : ℕ) :
    (s.finishDispatch w).dispatches = s.dispatches.ack (w,false) := rfl
@[simp] theorem dispatches_failDispatch (w : ℕ) :
    (s.failDispatch w).dispatches = s.dispatches.nack (w,false) := rfl
@[simp] theorem dispatches_requeue (i : ℕ) (op : Operation) :
    (s.requeue i op).dispatches = s.dispatches := by
  cases op <;> rfl

/-- The dispatch messages after a piece of an operation. -/
theorem dispatches_settle {i : ℕ} {op : Operation} {o : Outcome Operation} {ts : TimeStamp}
    (hop : s.operations i = some op) (h : Piece ts s.db op o) :
    (s.settle i op o).dispatches = s.dispatches ∨
      (∃ m next, o = .publish (.dispatch m) next ∧
        (s.settle i op o).dispatches = s.dispatches.post m) ∨
      ∃ w, s.Ended (.advance i ts) w ∧
        (s.settle i op o).dispatches = s.dispatches.ack (w,false) := by
  cases h with
  | newJobPublish | updatePublish | restartPublish => exact .inr (.inl ⟨_,_,rfl,rfl⟩)
  | @focusReply call receipt =>
    rcases State.replyFocus_cases (s := { s.setOperation i none with
        focusCalls := s.focusCalls.ack i }) call receipt with
      ⟨jobId,hw,⟨-,hr⟩ | ⟨hs,hr⟩⟩ | ⟨-,hr⟩
    all_goals have hd := congrArg State.dispatches hr
    · exact .inl hd
    · exact .inr (.inr ⟨call.caller,⟨i,ts,rfl,.inl ⟨call,receipt,jobId,hop,hs,rfl,hw⟩⟩,hd⟩)
    · exact .inl hd
  | @updateReply call =>
    rcases State.replyUpdate_cases (s := { s.setOperation i none with
        updateCalls := s.updateCalls.ack i }) call with ⟨jobId,hw,hr⟩ | ⟨-,hr⟩
    all_goals have hd := congrArg State.dispatches hr
    · exact .inr (.inr ⟨call.caller,⟨i,ts,rfl,.inr ⟨call,jobId,hop,rfl,hw⟩⟩,hd⟩)
    · exact .inl hd
  | abortMissing | focusMissing | newJobWithoutStage | restartWithoutStage | restartDenied
  | restartFail | updateUnbound | workersTaken | tagsTaken =>
    exact .inl (State.dispatches_requeue _ _)
  | _ => exact .inl rfl

end State

namespace Move
variable {fleet : Fleet} {s u : State} {e : Event}

/-- Where a queued message comes from. -/
theorem dispatchReady_origin (hm : Move fleet s e u) {m : Dispatch} (h : m ∈ u.dispatches.ready) :
    m ∈ s.dispatches.ready ∨
      (∃ i ts op next, e = .advance i ts ∧ s.operations i = some op ∧
        Piece ts s.db op (.publish (.dispatch m) next)) ∨
      ∃ w rejected, ((w,rejected),m) ∈ s.dispatches.unacked ∧
        (e = .raise w ∨ e = .reject w ∨ e = .disconnect w) := by
  cases hm with
  | @advance i ts op o running piece =>
    rcases State.dispatches_settle running piece with hd | ⟨m',next,ho,hd⟩ | ⟨w,-,hd⟩ <;>
      rw [hd] at h
    · exact .inl h
    · rcases List.mem_cons.mp h with rfl | h
      · exact .inr (.inl ⟨i,ts,op,next,rfl,running,ho ▸ piece⟩)
      · exact .inl h
    · exact .inl h
  | fail =>
    rw [State.dispatches_requeue] at h
    exact .inl h
  | deliver | bounce => exact .inl (Inbox.mem_ready_of_take h)
  | @reject w =>
    rcases (Inbox.mem_ready_nack _ _ _).mp h with h | h
    · exact .inl h
    · exact .inr (.inr ⟨w,true,h,.inr (.inl rfl)⟩)
  | @raise w =>
    rcases (Inbox.mem_ready_nack _ _ _).mp h with h | h
    · exact .inl h
    · exact .inr (.inr ⟨w,false,h,.inl rfl⟩)
  | @disconnect w =>
    rcases (Inbox.mem_ready_nack _ _ _).mp h with h | h
    · rcases (Inbox.mem_ready_nack _ _ _).mp h with h | h
      · exact .inl h
      · exact .inr (.inr ⟨w,false,h,.inr (.inr rfl)⟩)
    · exact .inr (.inr ⟨w,true,((Inbox.mem_unacked_nack _ _ _).mp h).1,.inr (.inr rfl)⟩)
  | _ => exact .inl h

/-- A waiting message goes on waiting unless it is delivered. -/
theorem dispatchReady_fate (hm : Move fleet s e u) {m : Dispatch} (h : m ∈ s.dispatches.ready) :
    m ∈ u.dispatches.ready ∨
      ∃ w, (e = .deliver w m ∧ ((w,false),m) ∈ u.dispatches.unacked ∧
          u.handling w = some ⟨m.jobId,.received⟩) ∨
        (e = .bounce w m ∧ ((w,true),m) ∈ u.dispatches.unacked) := by
  cases hm with
  | @advance i ts op o running piece =>
    rcases State.dispatches_settle running piece with hd | ⟨m',-,-,hd⟩ | ⟨w,-,hd⟩ <;> rw [hd]
    · exact .inl h
    · exact .inl (List.mem_cons_of_mem _ h)
    · exact .inl h
  | fail =>
    rw [State.dispatches_requeue]
    exact .inl h
  | @deliver w m' ready free consumes unlocked =>
    by_cases hmm : m = m'
    · subst hmm
      exact .inr ⟨w,.inl ⟨rfl,List.mem_cons_self,by simp [State.handling_setHandling]⟩⟩
    · exact .inl (Inbox.mem_ready_take h hmm)
  | @bounce w m' ready =>
    by_cases hmm : m = m'
    · subst hmm
      exact .inr ⟨w,.inr ⟨rfl,List.mem_cons_self⟩⟩
    · exact .inl (Inbox.mem_ready_take h hmm)
  | reject | raise => exact .inl ((Inbox.mem_ready_nack _ _ _).mpr (.inl h))
  | disconnect =>
    exact .inl ((Inbox.mem_ready_nack _ _ _).mpr (.inl ((Inbox.mem_ready_nack _ _ _).mpr (.inl h))))
  | _ => exact .inl h

/-- A delivered message stays with its worker, goes back to its queue, or is dropped because the
worker's dispatch has ended. -/
theorem dispatchUnacked_fate (hm : Move fleet s e u) {w : ℕ} {rejected : Bool} {m : Dispatch}
    (h : ((w,rejected),m) ∈ s.dispatches.unacked) :
    ((w,rejected),m) ∈ u.dispatches.unacked ∨ m ∈ u.dispatches.ready ∨
      rejected = false ∧ s.Ended e w := by
  have hnack : ∀ k, ((w,rejected),m) ∈ (s.dispatches.nack k).unacked ∨
      m ∈ (s.dispatches.nack k).ready := by
    intro k
    by_cases hk : (w,rejected) = k
    · exact .inr ((Inbox.mem_ready_nack _ _ _).mpr (.inr (hk ▸ h)))
    · exact .inl ((Inbox.mem_unacked_nack _ _ _).mpr ⟨h,hk⟩)
  cases hm with
  | @advance i ts op o running piece =>
    rcases State.dispatches_settle running piece with hd | ⟨m',-,-,hd⟩ | ⟨v,he,hd⟩ <;> rw [hd]
    · exact .inl h
    · exact .inl h
    · by_cases hk : (w,rejected) = (v,false)
      · obtain ⟨rfl,rfl⟩ := Prod.mk.inj hk
        exact .inr (.inr ⟨rfl,he⟩)
      · exact .inl ((Inbox.mem_unacked_ack _ _ _).mpr ⟨h,hk⟩)
  | fail =>
    rw [State.dispatches_requeue]
    exact .inl h
  | deliver | bounce => exact .inl (List.mem_cons_of_mem _ h)
  | @reject v => exact (hnack (v,true)).imp id .inl
  | @raise v => exact (hnack (v,false)).imp id .inl
  | @disconnect v =>
    rcases hnack (v,false) with hk | hk
    · by_cases hw : (w,rejected) = (v,true)
      · exact .inr (.inl ((Inbox.mem_ready_nack _ _ _).mpr (.inr (hw ▸ hk))))
      · exact .inl ((Inbox.mem_unacked_nack _ _ _).mpr ⟨hk,hw⟩)
    · exact .inr (.inl ((Inbox.mem_ready_nack _ _ _).mpr (.inl hk)))
  | _ => exact .inl h

end Move

/-! ## The workers -/

/-- What becomes of what a worker handles. -/
inductive HandlingFate (fleet : Fleet) (s u : State) (w : ℕ) : Event → Handling → Prop
  | kept {e h} (after : u.handling w = some h) : HandlingFate fleet s u w e h
  | requested {jobId} (after : u.handling w = some ⟨jobId,.focusing s.nextCorrelationId⟩) :
      HandlingFate fleet s u w (.requestFocus w) ⟨jobId,.received⟩
  | focused {i ts call receipt jobId}
      (running : s.operations i = some (.focus call (.reply receipt)))
      (status : receipt.status = .focused) (caller : call.caller = w)
      (after : u.handling w = some ⟨jobId,.running receipt.jobContext⟩) :
      HandlingFate fleet s u w (.advance i ts) ⟨jobId,.focusing call.correlationId⟩
  | reported {result jobId jobContext}
      (sent : s.updateCall fleet w jobId jobContext result ∈ u.updateCalls.ready) :
      HandlingFate fleet s u w (.report w result) ⟨jobId,.running jobContext⟩
  | ended {e h} (ends : s.Ended e w) : HandlingFate fleet s u w e h
  | raised {h} : HandlingFate fleet s u w (.raise w) h

namespace Move
variable {fleet : Fleet} {s u : State} {e : Event}

lemma handlingFate_settle {i w : ℕ} {op : Operation} {o : Outcome Operation} {ts : TimeStamp}
    {h : Handling} (hop : s.operations i = some op) (hp : Piece ts s.db op o)
    (hh : s.handling w = some h) : HandlingFate fleet s (s.settle i op o) w (.advance i ts) h := by
  cases hp with
  | @focusReply call receipt =>
    rcases State.replyFocus_cases (s := { s.setOperation i none with
        focusCalls := s.focusCalls.ack i }) call receipt with
      ⟨jobId,hw,⟨hs,hr⟩ | ⟨hs,hr⟩⟩ | ⟨-,hr⟩
    all_goals have hd := congrFun (congrArg State.handling hr) w
    · by_cases hv : w = call.caller
      · subst hv
        cases hh.symm.trans hw
        exact .focused hop hs rfl (hd.trans (by simp [State.handling_setHandling]))
      · exact .kept (hd.trans (by rw [State.handling_setHandling,if_neg hv]; exact hh))
    · by_cases hv : w = call.caller
      · exact .ended ⟨i,ts,rfl,.inl ⟨call,receipt,jobId,hop,hs,hv.symm,hv ▸ hw⟩⟩
      · exact .kept (hd.trans (by rw [State.handling_finishDispatch,if_neg hv]; exact hh))
    · exact .kept (hd.trans hh)
  | @updateReply call =>
    rcases State.replyUpdate_cases (s := { s.setOperation i none with
        updateCalls := s.updateCalls.ack i }) call with ⟨jobId,hw,hr⟩ | ⟨-,hr⟩
    all_goals have hd := congrFun (congrArg State.handling hr) w
    · by_cases hv : w = call.caller
      · exact .ended ⟨i,ts,rfl,.inr ⟨call,jobId,hop,hv.symm,hv ▸ hw⟩⟩
      · exact .kept (hd.trans (by rw [State.handling_finishDispatch,if_neg hv]; exact hh))
    · exact .kept (hd.trans hh)
  | abortMissing | focusMissing | newJobWithoutStage | restartWithoutStage | restartDenied
  | restartFail | updateUnbound | workersTaken | tagsTaken =>
    refine .kept ?_
    rw [State.settle,State.handling_requeue]
    exact hh
  | _ => exact .kept hh

theorem handling_fate (hm : Move fleet s e u) {w : ℕ} {h : Handling}
    (hh : s.handling w = some h) : HandlingFate fleet s u w e h := by
  have hset : ∀ {t : State} {v : ℕ} {h' : Option Handling}, t.handling = s.handling → w ≠ v →
      (t.setHandling v h').handling w = some h := by
    intro t v h' ht hv
    rw [State.handling_setHandling,if_neg hv,ht]
    exact hh
  cases hm with
  | @advance i ts op o running piece => exact handlingFate_settle running piece hh
  | fail =>
    refine .kept ?_
    rw [State.handling_requeue]
    exact hh
  | @deliver v m ready free consumes unlocked =>
    refine .kept (hset rfl ?_)
    rintro rfl
    exact absurd (hh.symm.trans unlocked) (by simp)
  | @requestFocus v jobId received =>
    by_cases hv : w = v
    · subst hv
      cases hh.symm.trans received
      exact .requested (by simp [State.handling_setHandling])
    · exact .kept (hset rfl hv)
  | @report v result jobId jobContext running =>
    by_cases hv : w = v
    · subst hv
      cases hh.symm.trans running
      exact .reported List.mem_cons_self
    · exact .kept (hset rfl hv)
  | @raise v h' locked =>
    by_cases hv : w = v
    · subst hv
      exact .raised
    · exact .kept (hset rfl hv)
  | @close v =>
    refine .kept ?_
    by_cases hv : w = v
    · subst hv
      simpa [State.handling] using hh
    · simpa [State.handling,hv] using hh
  | _ => exact .kept hh

/-! ## The update requests -/

/-- A waiting update request goes on waiting unless an operation starts on it. -/
theorem updateReady_fate (hm : Move fleet s e u) {call : UpdateCall}
    (h : call ∈ s.updateCalls.ready) :
    call ∈ u.updateCalls.ready ∨ ∃ i ts, e = .handleUpdate i call ts ∧
      (i,call) ∈ u.updateCalls.unacked ∧
        u.operations i = some (.update call (.start call.argument ts)) := by
  cases hm with
  | @advance i ts op o running piece =>
    rw [State.updateCalls_settle piece]
    split
    · exact .inl ((Inbox.mem_ready_nack _ _ _).mpr (.inl h))
    · exact .inl h
    · exact .inl h
  | @fail i op running =>
    cases op with
    | update => exact .inl ((Inbox.mem_ready_nack _ _ _).mpr (.inl h))
    | _ => exact .inl h
  | redeliverUpdate => exact .inl ((Inbox.mem_ready_nack _ _ _).mpr (.inl h))
  | restartScheduler => exact .inl ((Inbox.mem_ready_recover _ _).mpr (.inl h))
  | report => exact .inl (List.mem_cons_of_mem _ h)
  | @handleUpdate i call' ts free ready =>
    by_cases hc : call = call'
    · subst hc
      exact .inr ⟨i,ts,rfl,List.mem_cons_self,Function.update_self _ _ _⟩
    · exact .inl (Inbox.mem_ready_take h hc)
  | _ => exact .inl h

/-- A delivered update request stays with its operation, or goes back to the queue, until the
operation has come to its reply. -/
theorem updateUnacked_fate (hm : Move fleet s e u) {i : ℕ} {call : UpdateCall} {pc : UpdatePc}
    (h : (i,call) ∈ s.updateCalls.unacked) (hop : s.operations i = some (.update call pc))
    (hpc : pc ≠ .reply) : (i,call) ∈ u.updateCalls.unacked ∨ call ∈ u.updateCalls.ready := by
  have hnack : ∀ k, (i,call) ∈ (s.updateCalls.nack k).unacked ∨
      call ∈ (s.updateCalls.nack k).ready := by
    intro k
    by_cases hk : i = k
    · exact .inr ((Inbox.mem_ready_nack _ _ _).mpr (.inr (hk ▸ h)))
    · exact .inl ((Inbox.mem_unacked_nack _ _ _).mpr ⟨h,hk⟩)
  -- Only an operation that is at its reply takes a request out of the queue.
  have hack : ∀ {k op}, s.operations k = some op → State.atReply op = true →
      (i,call) ∈ (s.updateCalls.ack k).unacked := by
    intro k op hk hr
    refine (Inbox.mem_unacked_ack _ _ _).mpr ⟨h,?_⟩
    rintro rfl
    cases hk.symm.trans hop
    cases pc with
    | reply => exact hpc rfl
    | _ => cases hr
  cases hm with
  | @advance k ts op o running piece =>
    rw [State.updateCalls_settle piece]
    split
    · exact hnack k
    · exact .inl (hack running rfl)
    · exact .inl h
  | @fail k op running =>
    cases op with
    | update => exact hnack k
    | _ => exact .inl h
  | loseReply running replies => exact .inl (hack running replies)
  | @redeliverUpdate k => exact hnack k
  | restartScheduler => exact .inr ((Inbox.mem_ready_recover _ _).mpr (.inr ⟨i,h⟩))
  | handleUpdate => exact .inl (List.mem_cons_of_mem _ h)
  | _ => exact .inl h

end Move
end LiveKBench.KScheduler
