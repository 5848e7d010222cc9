import LiveKBench.KScheduler.Origins

/-! The requests of the RPCs. A request is a message that exists once; it carries its worker's host
name and a correlation id of its own; what is delivered is known to the operation that handles it;
and a worker waits for the answer about the job that it handles. This holds in every run. -/
namespace LiveKBench.KScheduler
open KCore Lib Backend

namespace State
variable (s : State)

/-- The focus request is waiting, delivered or being handled. -/
def FocusInFlight (call : FocusCall) : Prop :=
  call ∈ s.focusCalls.ready ∨ (∃ i, (i,call) ∈ s.focusCalls.unacked) ∨
    ∃ i pc, s.operations i = some (.focus call pc)

def UpdateInFlight (call : UpdateCall) : Prop :=
  call ∈ s.updateCalls.ready ∨ (∃ i, (i,call) ∈ s.updateCalls.unacked) ∨
    ∃ i pc, s.operations i = some (.update call pc)

/-! ## The queues after a piece of an operation -/

section Settle
variable {s} {i : ℕ} {op : Operation} {o : Outcome Operation} {ts : TimeStamp}

theorem updateCalls_settle (h : Piece ts s.db op o) :
    (s.settle i op o).updateCalls =
      match op with
      | .update _ .unbound => s.updateCalls.nack i
      | .update _ .reply => s.updateCalls.ack i
      | _ => s.updateCalls := by
  cases h with
  | focusReply => exact State.updateCalls_replyFocus _ _ _
  | updateReply => exact State.updateCalls_replyUpdate _ _
  | _ => rfl

theorem focusCalls_settle (h : Piece ts s.db op o) :
    (s.settle i op o).focusCalls =
      match op, o.next? with
      | .focus _ (.reply _), none => s.focusCalls.ack i
      | .focus _ _, none => s.focusCalls.nack i
      | _, _ => s.focusCalls := by
  cases h with
  | focusReply => exact State.focusCalls_replyFocus _ _ _
  | updateReply => exact State.focusCalls_replyUpdate _ _
  | _ => rfl

end Settle
end State

/-- `get_job` finds no job at its first read or not at all. -/
lemma GetJob.digest_of_done_none {db : Db} {jobId : JobId} {g : GetJob}
    (h : g.step db jobId = .done none) : g = .digest ∧ db.digest? jobId = none := by
  cases g with
  | digest =>
    refine ⟨rfl,?_⟩
    cases hd : db.digest? jobId with
    | none => rfl
    | some d => simp [GetJob.step,hd] at h
  | workers d => cases h
  | tags d ws => cases h

namespace Move
variable {fleet : Fleet} {s u : State} {e : Event}

/-- Where a waiting update request comes from. -/
theorem updateReady_origin (h : Move fleet s e u) {call : UpdateCall}
    (hr : call ∈ u.updateCalls.ready) :
    call ∈ s.updateCalls.ready ∨
      (∃ i, (i,call) ∈ s.updateCalls.unacked ∧
        ((∃ ts call', e = .advance i ts ∧ s.operations i = some (.update call' .unbound)) ∨
          (∃ call' pc, e = .fail i ∧ s.operations i = some (.update call' pc)) ∨
          e = .redeliverUpdate i ∨ ∃ graceful ts, e = .restartScheduler graceful ts)) ∨
      ∃ w result jobId jobContext, e = .report w result ∧
        s.handling w = some ⟨jobId,.running jobContext⟩ ∧
          call = s.updateCall fleet w jobId jobContext result := by
  cases h with
  | @advance i ts op o running piece =>
    rw [State.updateCalls_settle piece] at hr
    split at hr
    · rcases (Inbox.mem_ready_nack _ _ _).mp hr with hr | hr
      · exact .inl hr
      · exact .inr (.inl ⟨i,hr,.inl ⟨ts,_,rfl,running⟩⟩)
    · exact .inl hr
    · exact .inl hr
  | @fail i op running =>
    cases op with
    | update call' pc =>
      rcases (Inbox.mem_ready_nack _ _ _).mp hr with hr | hr
      · exact .inl hr
      · exact .inr (.inl ⟨i,hr,.inr (.inl ⟨call',pc,rfl,running⟩)⟩)
    | _ => exact .inl hr
  | @redeliverUpdate i =>
    rcases (Inbox.mem_ready_nack _ _ _).mp hr with hr | hr
    · exact .inl hr
    · exact .inr (.inl ⟨i,hr,.inr (.inr (.inl rfl))⟩)
  | @restartScheduler graceful ts =>
    rcases (Inbox.mem_ready_recover _ _).mp hr with hr | ⟨i,hr⟩
    · exact .inl hr
    · exact .inr (.inl ⟨i,hr,.inr (.inr (.inr ⟨graceful,ts,rfl⟩))⟩)
  | handleUpdate => exact .inl (Inbox.mem_ready_of_take hr)
  | @report w result jobId jobContext running =>
    rcases List.mem_cons.mp hr with hr | hr
    · exact .inr (.inr ⟨w,result,jobId,jobContext,rfl,running,hr⟩)
    · exact .inl hr
  | _ => exact .inl hr

/-- A delivered update request was delivered before, or an operation has just been started for
it. -/
theorem updateUnacked_origin (h : Move fleet s e u) {i : ℕ} {call : UpdateCall}
    (hr : (i,call) ∈ u.updateCalls.unacked) :
    (i,call) ∈ s.updateCalls.unacked ∨ ∃ ts, e = .handleUpdate i call ts := by
  cases h with
  | @advance j ts op o running piece =>
    rw [State.updateCalls_settle piece] at hr
    split at hr
    · exact .inl ((Inbox.mem_unacked_nack _ _ _).mp hr).1
    · exact .inl ((Inbox.mem_unacked_ack _ _ _).mp hr).1
    · exact .inl hr
  | @fail j op running =>
    cases op with
    | update call' pc => exact .inl ((Inbox.mem_unacked_nack _ _ _).mp hr).1
    | _ => exact .inl hr
  | loseReply => exact .inl ((Inbox.mem_unacked_ack _ _ _).mp hr).1
  | redeliverUpdate => exact .inl ((Inbox.mem_unacked_nack _ _ _).mp hr).1
  | restartScheduler => cases hr
  | @handleUpdate j call' ts =>
    rcases List.mem_cons.mp hr with hr | hr
    · cases hr
      exact .inr ⟨ts,rfl⟩
    · exact .inl hr
  | _ => exact .inl hr

theorem focusReady_origin (h : Move fleet s e u) {call : FocusCall}
    (hr : call ∈ u.focusCalls.ready) :
    call ∈ s.focusCalls.ready ∨
      (∃ i, (i,call) ∈ s.focusCalls.unacked ∧
        ((∃ ts call' status, e = .advance i ts ∧
            s.operations i = some (.focus call' (.read status .digest)) ∧
              s.db.digest? call'.argument.jobId = none) ∨
          e = .fail i ∨ e = .redeliverFocus i ∨ ∃ graceful ts, e = .restartScheduler graceful ts)) ∨
      ∃ w jobId, e = .requestFocus w ∧ s.handling w = some ⟨jobId,.received⟩ ∧
        call = s.focusCall fleet w jobId := by
  cases h with
  | @advance i ts op o running piece =>
    rw [State.focusCalls_settle piece] at hr
    cases piece with
    | @focusMissing call' status g reads =>
      rcases (Inbox.mem_ready_nack _ _ _).mp hr with hw | hback
      · exact .inl hw
      · obtain ⟨rfl,hd⟩ := GetJob.digest_of_done_none reads
        exact .inr (.inl ⟨i,hback,.inl ⟨ts,_,status,rfl,running,hd⟩⟩)
    | _ => exact .inl hr
  | @fail i op running =>
    cases op with
    | focus call' pc =>
      rcases (Inbox.mem_ready_nack _ _ _).mp hr with hr | hr
      · exact .inl hr
      · exact .inr (.inl ⟨i,hr,.inr (.inl rfl)⟩)
    | _ => exact .inl hr
  | @redeliverFocus i =>
    rcases (Inbox.mem_ready_nack _ _ _).mp hr with hr | hr
    · exact .inl hr
    · exact .inr (.inl ⟨i,hr,.inr (.inr (.inl rfl))⟩)
  | @restartScheduler graceful ts =>
    rcases (Inbox.mem_ready_recover _ _).mp hr with hr | ⟨i,hr⟩
    · exact .inl hr
    · exact .inr (.inl ⟨i,hr,.inr (.inr (.inr ⟨graceful,ts,rfl⟩))⟩)
  | handleFocus => exact .inl (Inbox.mem_ready_of_take hr)
  | @requestFocus w jobId received =>
    rcases List.mem_cons.mp hr with hr | hr
    · exact .inr (.inr ⟨w,jobId,rfl,received,hr⟩)
    · exact .inl hr
  | _ => exact .inl hr

theorem focusUnacked_origin (h : Move fleet s e u) {i : ℕ} {call : FocusCall}
    (hr : (i,call) ∈ u.focusCalls.unacked) :
    (i,call) ∈ s.focusCalls.unacked ∨ ∃ ts, e = .handleFocus i call ts := by
  cases h with
  | @advance j ts op o running piece =>
    rw [State.focusCalls_settle piece] at hr
    split at hr
    · exact .inl ((Inbox.mem_unacked_ack _ _ _).mp hr).1
    · exact .inl ((Inbox.mem_unacked_nack _ _ _).mp hr).1
    · exact .inl hr
  | @fail j op running =>
    cases op with
    | focus call' pc => exact .inl ((Inbox.mem_unacked_nack _ _ _).mp hr).1
    | _ => exact .inl hr
  | loseReply => exact .inl ((Inbox.mem_unacked_ack _ _ _).mp hr).1
  | redeliverFocus => exact .inl ((Inbox.mem_unacked_nack _ _ _).mp hr).1
  | restartScheduler => cases hr
  | @handleFocus j call' ts =>
    rcases List.mem_cons.mp hr with hr | hr
    · cases hr
      exact .inr ⟨ts,rfl⟩
    · exact .inl hr
  | _ => exact .inl hr

end Move

/-! ## Requests in flight -/

/-- A focus operation goes on about its own request. -/
lemma Piece.of_next_focus {ts : TimeStamp} {db : Db} {op : Operation} {o : Outcome Operation}
    {call : FocusCall} {pc : FocusPc} (h : Piece ts db op o)
    (hn : o.next? = some (.focus call pc)) : ∃ pc₀, op = .focus call pc₀ := by
  cases h with
  | focusTaken | focusRefused | focusCommit | focusRead | focusReceipt =>
    cases hn
    exact ⟨_,rfl⟩
  | updateRelease =>
    cases hn
  | _ => cases hn

lemma Piece.of_next_update {ts : TimeStamp} {db : Db} {op : Operation} {o : Outcome Operation}
    {call : UpdateCall} {pc : UpdatePc} (h : Piece ts db op o)
    (hn : o.next? = some (.update call pc)) : ∃ pc₀, op = .update call pc₀ := by
  cases h with
  | updateResult | updateRelease | updateLast | updateNext | updateFinish | updateExclQueue
  | updateCommit | updateCommitNext | updatePublish =>
    cases hn
    exact ⟨_,rfl⟩
  | _ => cases hn

/-- A focus operation ends or goes on about its own request. -/
lemma Piece.focus_goes_on {ts : TimeStamp} {db : Db} {o : Outcome Operation} {call : FocusCall}
    {pc : FocusPc} (h : Piece ts db (.focus call pc) o) :
    o.next? = none ∨ ∃ pc', o.next? = some (.focus call pc') := by
  cases h with
  | focusMissing | focusReply => exact .inl rfl
  | _ => exact .inr ⟨_,rfl⟩

lemma Piece.update_goes_on {ts : TimeStamp} {db : Db} {o : Outcome Operation} {call : UpdateCall}
    {pc : UpdatePc} (h : Piece ts db (.update call pc) o) :
    (pc = .unbound ∧ o.next? = none) ∨ (pc = .reply ∧ o.next? = none) ∨
      ∃ pc', o.next? = some (.update call pc') := by
  cases h with
  | updateUnbound => exact .inl ⟨rfl,rfl⟩
  | updateReply => exact .inr (.inl ⟨rfl,rfl⟩)
  | _ => exact .inr (.inr ⟨_,rfl⟩)

namespace Move
variable {fleet : Fleet} {s u : State} {e : Event}

/-- A focus request in flight was in flight before, or its worker has just sent it. -/
theorem focusInFlight_origin (hm : Move fleet s e u) {call : FocusCall}
    (h : u.FocusInFlight call) :
    s.FocusInFlight call ∨ ∃ w jobId, e = .requestFocus w ∧
      s.handling w = some ⟨jobId,.received⟩ ∧ call = s.focusCall fleet w jobId := by
  rcases h with h | ⟨i,h⟩ | ⟨i,pc,h⟩
  · rcases hm.focusReady_origin h with h | ⟨i,h,-⟩ | h
    · exact .inl (.inl h)
    · exact .inl (.inr (.inl ⟨i,h⟩))
    · exact .inr h
  · rcases hm.focusUnacked_origin h with h | ⟨ts,rfl⟩
    · exact .inl (.inr (.inl ⟨i,h⟩))
    · cases hm with
      | handleFocus free ready => exact .inl (.inl ready)
  · rcases hm.operation_origin h with ⟨h,-⟩ | ⟨ts,op₀,o,rfl,hop₀,hp,hn⟩ | ⟨hs,-⟩
    · exact .inl (.inr (.inr ⟨i,pc,h⟩))
    · obtain ⟨pc₀,rfl⟩ := hp.of_next_focus hn
      exact .inl (.inr (.inr ⟨i,pc₀,hop₀⟩))
    · cases hs
      cases hm with
      | handleFocus free ready => exact .inl (.inl ready)

theorem updateInFlight_origin (hm : Move fleet s e u) {call : UpdateCall}
    (h : u.UpdateInFlight call) :
    s.UpdateInFlight call ∨ ∃ w result jobId jobContext, e = .report w result ∧
      s.handling w = some ⟨jobId,.running jobContext⟩ ∧
        call = s.updateCall fleet w jobId jobContext result := by
  rcases h with h | ⟨i,h⟩ | ⟨i,pc,h⟩
  · rcases hm.updateReady_origin h with h | ⟨i,h,-⟩ | h
    · exact .inl (.inl h)
    · exact .inl (.inr (.inl ⟨i,h⟩))
    · exact .inr h
  · rcases hm.updateUnacked_origin h with h | ⟨ts,rfl⟩
    · exact .inl (.inr (.inl ⟨i,h⟩))
    · cases hm with
      | handleUpdate free ready => exact .inl (.inl ready)
  · rcases hm.operation_origin h with ⟨h,-⟩ | ⟨ts,op₀,o,rfl,hop₀,hp,hn⟩ | ⟨hs,-⟩
    · exact .inl (.inr (.inr ⟨i,pc,h⟩))
    · obtain ⟨pc₀,rfl⟩ := hp.of_next_update hn
      exact .inl (.inr (.inr ⟨i,pc₀,hop₀⟩))
    · cases hs
      cases hm with
      | handleUpdate free ready => exact .inl (.inl ready)

/-- A new correlation id is drawn for each request and for nothing else. -/
theorem nextCorrelationId_eq (hm : Move fleet s e u) :
    u.nextCorrelationId = s.nextCorrelationId ∨
      u.nextCorrelationId = s.nextCorrelationId+1 := by
  cases hm with
  | advance => exact .inl (State.nextCorrelationId_settle _ _ _ _)
  | @fail i op => cases op <;> exact .inl rfl
  | requestFocus | report => exact .inr rfl
  | _ => exact .inl rfl

theorem nextCorrelationId_le (hm : Move fleet s e u) :
    s.nextCorrelationId ≤ u.nextCorrelationId := by
  rcases hm.nextCorrelationId_eq with h | h <;> omega

end Move

/-- The requests of the RPCs and the parties that know of them. -/
structure Wired (fleet : Fleet) (s : State) : Prop where
  focusHost : ∀ call, s.FocusInFlight call →
    call.argument.workerHostname = (fleet call.caller).hostname
  updateHost : ∀ call, s.UpdateInFlight call →
    call.argument.workerHostname = (fleet call.caller).hostname
  focusCorrelation : ∀ call, s.FocusInFlight call → call.correlationId < s.nextCorrelationId
  updateCorrelation : ∀ call, s.UpdateInFlight call → call.correlationId < s.nextCorrelationId
  focusing : ∀ w jobId c, s.handling w = some ⟨jobId,.focusing c⟩ → c < s.nextCorrelationId ∧
    ∀ call, s.FocusInFlight call → call.caller = w → call.correlationId = c →
      call.argument.jobId = jobId
  focusUnacked : ∀ i call, (i,call) ∈ s.focusCalls.unacked →
    ∃ pc, s.operations i = some (.focus call pc)
  updateUnacked : ∀ i call, (i,call) ∈ s.updateCalls.unacked →
    ∃ pc, s.operations i = some (.update call pc)
  updateOnce : s.updateCalls.Once

namespace Wired
variable {fleet : Fleet} {s u : State} {e : Event}

lemma focusHost_step (hi : Wired fleet s) (hm : Move fleet s e u) : ∀ call, u.FocusInFlight call →
    call.argument.workerHostname = (fleet call.caller).hostname := by
  intro call h
  rcases hm.focusInFlight_origin h with h | ⟨w,jobId,-,-,rfl⟩
  · exact hi.focusHost call h
  · rfl

lemma updateHost_step (hi : Wired fleet s) (hm : Move fleet s e u) :
    ∀ call, u.UpdateInFlight call →
      call.argument.workerHostname = (fleet call.caller).hostname := by
  intro call h
  rcases hm.updateInFlight_origin h with h | ⟨w,result,jobId,jobContext,-,-,rfl⟩
  · exact hi.updateHost call h
  · rfl

lemma focusCorrelation_step (hi : Wired fleet s) (hm : Move fleet s e u) :
    ∀ call, u.FocusInFlight call → call.correlationId < u.nextCorrelationId := by
  intro call h
  rcases hm.focusInFlight_origin h with h | ⟨w,jobId,rfl,-,rfl⟩
  · exact (hi.focusCorrelation call h).trans_le hm.nextCorrelationId_le
  · cases hm with
    | requestFocus => exact Nat.lt_succ_self _

lemma updateCorrelation_step (hi : Wired fleet s) (hm : Move fleet s e u) :
    ∀ call, u.UpdateInFlight call → call.correlationId < u.nextCorrelationId := by
  intro call h
  rcases hm.updateInFlight_origin h with h | ⟨w,result,jobId,jobContext,rfl,-,rfl⟩
  · exact (hi.updateCorrelation call h).trans_le hm.nextCorrelationId_le
  · cases hm with
    | report => exact Nat.lt_succ_self _

lemma focusing_step (hi : Wired fleet s) (hm : Move fleet s e u) :
    ∀ w jobId c, u.handling w = some ⟨jobId,.focusing c⟩ → c < u.nextCorrelationId ∧
      ∀ call, u.FocusInFlight call → call.caller = w → call.correlationId = c →
        call.argument.jobId = jobId := by
  intro w jobId c hw
  cases hm.handling_origin hw with
  | kept before other =>
    obtain ⟨hlt,hcall⟩ := hi.focusing w jobId c before
    refine ⟨hlt.trans_le hm.nextCorrelationId_le,?_⟩
    intro call h hc hcorr
    rcases hm.focusInFlight_origin h with h | ⟨v,j,rfl,-,rfl⟩
    · exact hcall call h hc hcorr
    · exact absurd (congrArg some hc) other
  | requested before =>
    -- The new request is the only one with the new correlation id.
    cases hm with
    | requestFocus received =>
      refine ⟨Nat.lt_succ_self _,?_⟩
      intro call h hc hcorr
      rcases Move.focusInFlight_origin (.requestFocus received) h with h | ⟨v,j,he,hj,rfl⟩
      · exact absurd (hi.focusCorrelation call h) (by omega)
      · cases he
        cases hj.symm.trans before
        rfl

lemma focusUnacked_step (hi : Wired fleet s) (hm : Move fleet s e u) :
    ∀ i call, (i,call) ∈ u.focusCalls.unacked → ∃ pc, u.operations i = some (.focus call pc) := by
  intro i call h
  rcases hm.focusUnacked_origin h with hold | ⟨ts,rfl⟩
  · obtain ⟨pc,hop⟩ := hi.focusUnacked i call hold
    cases hm.operation_fate hop with
    | kept after => exact ⟨pc,after⟩
    | @piece ts o ran after =>
      subst after
      rcases ran.focus_goes_on with hn | ⟨pc',hn⟩
      · -- The operation ends, and its delivery with it.
        rw [State.focusCalls_settle ran,hn] at h
        cases pc with
        | reply => exact absurd rfl ((Inbox.mem_unacked_ack _ _ _).mp h).2
        | _ => exact absurd rfl ((Inbox.mem_unacked_nack _ _ _).mp h).2
      · exact ⟨pc',by simp [hn]⟩
    | failed after =>
      subst after
      exact absurd rfl ((Inbox.mem_unacked_nack _ _ _).mp h).2
    | lost replies after =>
      subst after
      exact absurd rfl ((Inbox.mem_unacked_ack _ _ _).mp h).2
    | stopped =>
      cases hm
      cases h
    | answered awaits => cases awaits
  · cases hm with
    | handleFocus => exact ⟨_,Function.update_self _ _ _⟩

lemma updateUnacked_step (hi : Wired fleet s) (hm : Move fleet s e u) :
    ∀ i call, (i,call) ∈ u.updateCalls.unacked →
      ∃ pc, u.operations i = some (.update call pc) := by
  intro i call h
  rcases hm.updateUnacked_origin h with hold | ⟨ts,rfl⟩
  · obtain ⟨pc,hop⟩ := hi.updateUnacked i call hold
    cases hm.operation_fate hop with
    | kept after => exact ⟨pc,after⟩
    | @piece ts o ran after =>
      subst after
      rw [State.updateCalls_settle ran] at h
      rcases ran.update_goes_on with ⟨rfl,-⟩ | ⟨rfl,-⟩ | ⟨pc',hn⟩
      · exact absurd rfl ((Inbox.mem_unacked_nack _ _ _).mp h).2
      · exact absurd rfl ((Inbox.mem_unacked_ack _ _ _).mp h).2
      · exact ⟨pc',by simp [hn]⟩
    | failed after =>
      subst after
      exact absurd rfl ((Inbox.mem_unacked_nack _ _ _).mp h).2
    | lost replies after =>
      subst after
      exact absurd rfl ((Inbox.mem_unacked_ack _ _ _).mp h).2
    | stopped =>
      cases hm
      cases h
    | answered awaits => cases awaits
  · cases hm with
    | handleUpdate => exact ⟨_,Function.update_self _ _ _⟩

lemma updateOnce_step (hi : Wired fleet s) (hm : Move fleet s e u) : u.updateCalls.Once := by
  have h := hi.updateOnce
  cases hm with
  | @advance i ts op o running piece =>
    rw [State.updateCalls_settle piece]
    split
    · exact h.nack
    · exact h.ack
    · exact h
  | @fail i op running =>
    cases op with
    | update => exact h.nack
    | _ => exact h
  | loseReply => exact h.ack
  | redeliverUpdate => exact h.nack
  | restartScheduler => exact h.recover
  | handleUpdate free ready => exact h.take ready
  | @report w result jobId jobContext running =>
    -- A new request differs from those in flight in its correlation id.
    have hnew : ¬s.UpdateInFlight (s.updateCall fleet w jobId jobContext result) :=
      fun hf => absurd (hi.updateCorrelation _ hf) (lt_irrefl _)
    exact h.post (fun hr => hnew (.inl hr)) (fun i hr => hnew (.inr (.inl ⟨i,hr⟩)))
  | _ => exact h

theorem step (hi : Wired fleet s) (hm : Move fleet s e u) : Wired fleet u where
  focusHost := hi.focusHost_step hm
  updateHost := hi.updateHost_step hm
  focusCorrelation := hi.focusCorrelation_step hm
  updateCorrelation := hi.updateCorrelation_step hm
  focusing := hi.focusing_step hm
  focusUnacked := hi.focusUnacked_step hm
  updateUnacked := hi.updateUnacked_step hm
  updateOnce := hi.updateOnce_step hm

end Wired

theorem wired {fleet : Fleet} {C : State → Event → Prop} {s : State}
    (h : (system fleet).ReachableBy C s) : Wired fleet s := by
  refine h.invariant ?_ ?_
  · rintro s rfl
    have hfocus : ∀ call, ¬State.initial.FocusInFlight call := by
      rintro call (h | ⟨i,h⟩ | ⟨i,pc,h⟩) <;> cases h
    have hupdate : ∀ call, ¬State.initial.UpdateInFlight call := by
      rintro call (h | ⟨i,h⟩ | ⟨i,pc,h⟩) <;> cases h
    constructor
    case focusHost | focusCorrelation => exact fun call h => absurd h (hfocus call)
    case updateHost | updateCorrelation => exact fun call h => absurd h (hupdate call)
    case focusing => exact fun w jobId c h => nomatch h
    case focusUnacked | updateUnacked => exact fun i call h => nomatch h
    case updateOnce => exact Inbox.once_empty
  · rintro s e s' - hi - hstep
    obtain ⟨u,hm,rfl⟩ := Move.of_step hstep
    have hu := hi.step hm
    exact ⟨hu.focusHost,hu.updateHost,hu.focusCorrelation,hu.updateCorrelation,hu.focusing,
      hu.focusUnacked,hu.updateUnacked,hu.updateOnce⟩

end LiveKBench.KScheduler
