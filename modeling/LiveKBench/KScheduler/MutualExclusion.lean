import LiveKBench.KScheduler.Fates
import LiveKBench.KScheduler.Stages
import LiveKBench.KScheduler.Clock
import LiveKBench.Lib.Token

/-! Mutual exclusion on a job. From the focus statement that took effect up to the commit of the
worker's own update, the worker's hold on the job is in one place: the reply that carries the
receipt, the running task, the waiting update request, or the update operation. Until the release
in that update the job is in progress and no other focus takes effect. Between the release and the
commit a focus can take effect, and the rest of the update then acts on another worker's job. -/
namespace LiveKBench.KScheduler
open KCore Lib Backend

/-- The focus statement has taken effect. -/
def FocusPc.focused : FocusPc → Bool
  | .write _ => false
  | .commit status => status = .focused
  | .read status _ => status = .focused
  | .reply receipt => receipt.status = .focused

/-- The update has not come to its release yet. -/
def UpdatePc.beforeRelease : UpdatePc → Bool
  | .unbound => true
  | .result _ => true
  | .release _ => true
  | _ => false

/-- `update_job` has committed; what is left is to publish. -/
def UpdatePc.processed : UpdatePc → Bool
  | .enqueue _ _ => true
  | .reply => true
  | _ => false

/-- The places of a hold: a focus operation, a worker, the queue of update requests, an update
operation. -/
inductive Token
  | focusing (i : ℕ)
  | running (w : ℕ)
  | waiting (call : UpdateCall)
  | updating (i : ℕ)

/-- Worker `w` holds the job, and the place of its hold is the token. -/
inductive State.Holding (s : State) : Token → ℕ → JobId → Prop
  | focusing {i call pc} (handles : s.operations i = some (.focus call pc))
      (focused : pc.focused = true) : s.Holding (.focusing i) call.caller call.argument.jobId
  | running {w jobId jobContext} (runs : s.handling w = some ⟨jobId,.running jobContext⟩) :
      s.Holding (.running w) w jobId
  | waiting {call} (ready : call ∈ s.updateCalls.ready) :
      s.Holding (.waiting call) call.caller call.argument.jobId
  | updating {i call pc} (handles : s.operations i = some (.update call pc))
      (pending : pc.processed = false) :
      s.Holding (.updating i) call.caller call.argument.jobId

/-- Operation `i` is an update of the job between its release and its commit. -/
def State.between (s : State) (i : ℕ) (jobId : JobId) : Bool :=
  match s.operations i with
  | some (.update call pc) =>
    call.argument.jobId = jobId && !pc.beforeRelease && !pc.processed
  | _ => false

/-- The hold is with an update that has released the job. -/
def State.Released (s : State) (jobId : JobId) : Token → Prop
  | .updating i => s.between i jobId = true
  | _ => False

def Operation.isUpdate : Operation → Bool
  | .update _ _ => true
  | _ => false

/-- Each update is processed once, and the scheduler is not restarted. -/
def ProcessedOnce (s : State) : Event → Prop
  | .redeliverUpdate _ => False
  | .restartScheduler _ _ => False
  | .fail i => (s.operations i).any Operation.isUpdate = false
  | _ => True

instance (s : State) : (e : Event) → Decidable (ProcessedOnce s e)
  | .redeliverUpdate _ | .restartScheduler _ _ => instDecidableFalse
  | .fail _ => instDecidableEqBool _ _
  | .newJob _ _ _ | .abortJob _ _ | .restartJob _ _ _ | .handleFocus _ _ _ | .handleUpdate _ _ _
  | .advance _ _ | .loseReply _ | .redeliverFocus _ | .deliver _ _ | .bounce _ _ | .reject _
  | .requestFocus _ | .report _ _ | .raise _ | .disconnect _ | .close _ | .answerAbort _ _ =>
    instDecidableTrue

/-- No focus takes effect on a job between the release and the commit of an update of it. -/
def Uninterrupted (s : State) (e : Event) : Prop :=
  ∀ st ∈ s.statement e, match st with
    | .focus jobId _ ts => (∃ d ∈ s.db.digest? jobId, Db.Focusable jobId ts d) →
        ∀ p ∈ s.updateCalls.unacked, s.between p.1 jobId = false
    | _ => True

instance (s : State) (e : Event) : Decidable (Uninterrupted s e) :=
  have (st : Statement) : Decidable (match st with
      | .focus jobId _ ts => (∃ d ∈ s.db.digest? jobId, Db.Focusable jobId ts d) →
          ∀ p ∈ s.updateCalls.unacked, s.between p.1 jobId = false
      | _ => True) :=
    match st with
    | .focus _ _ _ => inferInstanceAs (Decidable (_ → _))
    | .insertDigest _ | .insertWorkers _ _ | .insertTags _ _ | .restart _ _ _
    | .writeResult _ _ _ | .release _ _ | .finish _ | .abort _ => instDecidableTrue
  inferInstanceAs (Decidable (∀ st ∈ s.statement e, _))

/-- From where to where an event moves a hold. -/
def State.moved (fleet : Fleet) (s : State) : Event → Option (Token × Token)
  | .advance i _ =>
    match s.operations i with
    | some (.focus call (.reply _)) => some (.focusing i,.running call.caller)
    | some (.update call .unbound) => some (.updating i,.waiting call)
    | _ => none
  | .report w result =>
    match s.handling w with
    | some ⟨jobId,.running jobContext⟩ =>
      some (.running w,.waiting (s.updateCall fleet w jobId jobContext result))
    | _ => none
  | .handleUpdate i call _ => some (.waiting call,.updating i)
  | _ => none

def made : Event → Option Token
  | .advance i _ => some (.focusing i)
  | _ => none

/-- A focus operation takes effect. -/
def Takes (s : State) (e : Event) (t : Token) (w : ℕ) (jobId : JobId) : Prop :=
  ∃ i ts call t' d, t = .focusing i ∧ e = .advance i ts ∧ w = call.caller ∧
    jobId = call.argument.jobId ∧ s.operations i = some (.focus call (.write t')) ∧
      s.db.digest? jobId = some d ∧ Db.Focusable jobId t' d

/-- Where a hold after a move comes from. -/
inductive HoldOrigin (fleet : Fleet) (s : State) (e : Event) (t : Token) (w : ℕ) (jobId : JobId) :
    Prop
  | kept (before : s.Holding t w jobId) (stays : ∀ p, s.moved fleet e = some p → p.1 ≠ t)
  | moved {a} (moves : s.moved fleet e = some (a,t)) (before : s.Holding a w jobId)
  | made (takes : Takes s e t w jobId)

section Step
variable {fleet : Fleet} {s u : State} {e : Event}

lemma holdOrigin_focusing (hm : Move fleet s e u) {i : ℕ} {call : FocusCall} {pc : FocusPc}
    (hop : u.operations i = some (.focus call pc)) (hf : pc.focused = true) :
    HoldOrigin fleet s e (.focusing i) call.caller call.argument.jobId := by
  rcases hm.operation_origin hop with ⟨hop,he⟩ | ⟨ts,op₀,o,rfl,hop₀,hp,hn⟩ | ⟨hs,-⟩
  · refine .kept (.focusing hop hf) ?_
    intro p hp
    unfold State.moved at hp
    split at hp
    · next j ts =>
      split at hp <;> cases hp
      · intro hj
        cases hj
        exact he ts rfl
      · simp
    · split at hp <;> cases hp
      simp
    · cases hp
      simp
    · cases hp
  · cases hp with
    | focusTaken present focusable =>
      cases hn
      exact .made ⟨i,ts,_,_,_,rfl,rfl,rfl,rfl,hop₀,present,focusable⟩
    | focusRefused =>
      cases hn
      cases hf
    | focusCommit | focusRead | focusReceipt =>
      cases hn
      exact .kept (.focusing hop₀ hf) (by simp [State.moved,hop₀])
    | _ => cases hn
  · cases hs
    cases hf

lemma holdOrigin_running (hi : Wired fleet s) (hm : Move fleet s e u) {w : ℕ} {jobId : JobId}
    {jobContext : JobContext} (hw : u.handling w = some ⟨jobId,.running jobContext⟩) :
    HoldOrigin fleet s e (.running w) w jobId := by
  have ho := hm.handling_origin hw
  generalize hh : (⟨jobId,.running jobContext⟩ : Handling) = h at ho
  cases ho with
  | kept before other =>
    subst hh
    refine .kept (.running before) ?_
    intro p hp
    unfold State.moved at hp
    split at hp
    · split at hp <;> cases hp <;> simp
    · split at hp <;> cases hp
      intro hv
      cases hv
      exact other rfl
    · cases hp
      simp
    · cases hp
  | @focused i ts call receipt jobId' running status caller before =>
    cases hh
    subst caller
    have hj := (hi.focusing _ _ _ before).2 call (.inr (.inr ⟨i,_,running⟩)) rfl rfl
    have hb : s.Holding (.focusing i) call.caller call.argument.jobId :=
      .focusing running (by simp [FocusPc.focused,status])
    exact .moved (by simp [State.moved,running]) (hj ▸ hb)
  | delivered | requested | reported => cases hh

lemma holdOrigin_waiting (hi : Wired fleet s) (hc : ProcessedOnce s e) (hm : Move fleet s e u)
    {call : UpdateCall} (hr : call ∈ u.updateCalls.ready) :
    HoldOrigin fleet s e (.waiting call) call.caller call.argument.jobId := by
  rcases hm.updateReady_origin hr with hold | ⟨i,hun,hback⟩ | ⟨w,result,jobId,jobContext,rfl,hw,rfl⟩
  · refine .kept (.waiting hold) ?_
    intro p hp
    unfold State.moved at hp
    split at hp
    · split at hp <;> cases hp <;> simp
    · split at hp <;> cases hp
      simp
    · next i call' ts =>
      cases hp
      intro hcall
      cases hcall
      cases hm with
      | handleUpdate => exact hi.updateOnce.not_mem_take hr
    · cases hp
  · obtain ⟨pc,hop⟩ := hi.updateUnacked i call hun
    rcases hback with ⟨ts,call',rfl,hop'⟩ | ⟨call',pc',rfl,hop'⟩ | rfl | ⟨graceful,ts,rfl⟩
    · cases hop.symm.trans hop'
      exact .moved (by simp [State.moved,hop]) (.updating hop rfl)
    · simp [ProcessedOnce,hop',Operation.isUpdate] at hc
    · exact hc.elim
    · exact hc.elim
  · exact .moved (a := .running w) (by simp [State.moved,hw]) (.running hw)

lemma holdOrigin_updating (hm : Move fleet s e u) {i : ℕ} {call : UpdateCall} {pc : UpdatePc}
    (hop : u.operations i = some (.update call pc)) (hb : pc.processed = false) :
    HoldOrigin fleet s e (.updating i) call.caller call.argument.jobId := by
  rcases hm.operation_origin hop with ⟨hop,he⟩ | ⟨ts,op₀,o,rfl,hop₀,hp,hn⟩ | ⟨hs,-⟩
  · refine .kept (.updating hop hb) ?_
    intro p hp
    unfold State.moved at hp
    split at hp
    · next j ts =>
      split at hp <;> cases hp
      · simp
      · intro hj
        cases hj
        exact he ts rfl
    · split at hp <;> cases hp
      simp
    · cases hp
      simp
    · cases hp
  · cases hp with
    | updateResult | updateRelease | updateLast | updateNext | updateFinish | updateExclQueue =>
      cases hn
      exact .kept (.updating hop₀ rfl) (by simp [State.moved,hop₀])
    | updateCommit | updateCommitNext | updatePublish =>
      cases hn
      cases hb
    | _ => cases hn
  · cases hs
    cases hm with
    | handleUpdate free ready => exact .moved rfl (.waiting ready)

/-- Every hold after a move was there, has been moved, or has just been taken. -/
theorem hold_origin (hi : Wired fleet s) (hc : ProcessedOnce s e) (hm : Move fleet s e u)
    {t : Token} {w : ℕ} {jobId : JobId} (h : u.Holding t w jobId) :
    HoldOrigin fleet s e t w jobId := by
  cases h with
  | focusing handles focused => exact holdOrigin_focusing hm handles focused
  | running runs => exact holdOrigin_running hi hm runs
  | waiting ready => exact holdOrigin_waiting hi hc hm ready
  | updating handles pending => exact holdOrigin_updating hm handles pending

/-- Until its release a held job is in progress on its holder's host, the hold is in one place, and
an update is worked on once. -/
structure Exclusive (fleet : Fleet) (s : State) : Prop where
  inProgress : ∀ t w jobId, s.Holding t w jobId → ¬s.Released jobId t →
    ∃ d ∈ s.db.digest? jobId, d.status = .inProgress ∧
      d.currentWorkerHostname = (fleet w).hostname
  single : ∀ jobId t t', (∃ w, s.Holding t w jobId) → (∃ w, s.Holding t' w jobId) → t = t'
  delivered : ∀ i call pc, s.operations i = some (.update call pc) →
    (i,call) ∈ s.updateCalls.unacked

/-- An update between its release and its commit stays there until it has committed. -/
lemma released_next (hm : Move fleet s e u) {t : Token} {w : ℕ} {jobId : JobId}
    (hr : s.Released jobId t) (h : u.Holding t w jobId) : u.Released jobId t := by
  cases h with
  | @updating i call pc handles pending =>
    simp only [State.Released,State.between] at hr ⊢
    rcases hm.operation_origin handles with ⟨hop,-⟩ | ⟨ts,op₀,o,rfl,hop₀,hp,hn⟩ | ⟨-,hfree⟩
    · rw [hop] at hr
      rw [handles]
      exact hr
    · rw [hop₀] at hr
      rw [handles]
      cases hp with
      | updateResult => simp [UpdatePc.beforeRelease] at hr
      | updateRelease => simp [UpdatePc.beforeRelease] at hr
      | updateLast | updateNext | updateFinish | updateExclQueue =>
        cases hn
        simp [UpdatePc.beforeRelease,UpdatePc.processed]
      | updateCommit | updateCommitNext | updatePublish =>
        cases hn
        cases pending
      | _ => cases hn
    · rw [hfree] at hr
      cases hr
  | focusing | running | waiting => exact hr.elim

/-- A hold that moves has not been released. -/
lemma not_released_of_moved {a t : Token} {jobId : JobId}
    (h : s.moved fleet e = some (a,t)) : ¬s.Released jobId a := by
  unfold State.moved at h
  split at h
  · next i ts =>
    split at h <;> cases h
    · exact id
    · next hop => simp [State.Released,State.between,hop,UpdatePc.beforeRelease]
  · split at h <;> cases h
    exact id
  · cases h
    exact id
  · cases h

/-- A delivered update stays delivered while its operation goes on. -/
lemma unacked_kept (hc : ProcessedOnce s e) (hm : Move fleet s e u) {i : ℕ} {call : UpdateCall}
    {op : Operation} (h : (i,call) ∈ s.updateCalls.unacked) (hop : u.operations i = some op) :
    (i,call) ∈ u.updateCalls.unacked := by
  cases hm with
  | @advance k ts op' o running piece =>
    rw [State.operations_settle] at hop
    have hne : o.next? = none → i ≠ k := by
      rintro hn rfl
      simp [hn] at hop
    have hend : ∀ call', op' = .update call' .unbound ∨ op' = .update call' .reply →
        o.next? = none := by
      rintro call' (rfl | rfl) <;> cases piece <;> rfl
    rw [State.updateCalls_settle piece]
    split
    · exact (Inbox.mem_unacked_nack _ _ _).mpr ⟨h,hne (hend _ (.inl rfl))⟩
    · exact (Inbox.mem_unacked_ack _ _ _).mpr ⟨h,hne (hend _ (.inr rfl))⟩
    · exact h
  | @fail k op' running =>
    cases op' with
    | update => simp [ProcessedOnce,running,Operation.isUpdate] at hc
    | _ => exact h
  | @loseReply k op' running replies =>
    refine (Inbox.mem_unacked_ack _ _ _).mpr ⟨h,?_⟩
    rintro rfl
    simp at hop
  | redeliverUpdate | restartScheduler => exact hc.elim
  | handleUpdate => exact List.mem_cons_of_mem _ h
  | _ => exact h

namespace Exclusive

/-- Nobody holds a job that a focus finds. -/
lemma not_holding (hi : Exclusive fleet s) (hu : Uninterrupted s e) {jobId : JobId}
    {hostname : String} {ts : TimeStamp} {d : JobDigest}
    (hst : s.statement e = some (.focus jobId hostname ts)) (hd : s.db.digest? jobId = some d)
    (hf : Db.Focusable jobId ts d) (t : Token) (w : ℕ) : ¬s.Holding t w jobId := by
  intro h
  by_cases hr : s.Released jobId t
  · cases h with
    | @updating i call pc handles pending =>
      have hno := hu _ hst ⟨d,hd,hf⟩ _ (hi.delivered i call pc handles)
      exact absurd (hr.symm.trans hno) (by simp)
    | focusing | running | waiting => exact hr
  · obtain ⟨d',hd',hs,-⟩ := hi.inProgress t w jobId h hr
    cases Option.mem_unique hd hd'
    rcases hf.2.2.1 with h' | h' <;> cases hs.symm.trans h'

lemma delivered_step (hi : Exclusive fleet s) (hc : ProcessedOnce s e) (hm : Move fleet s e u) :
    ∀ i call pc, u.operations i = some (.update call pc) →
      (i,call) ∈ u.updateCalls.unacked := by
  intro i call pc hop
  rcases hm.operation_origin hop with ⟨hop₀,-⟩ | ⟨ts,op₀,o,rfl,hop₀,hp,hn⟩ | ⟨hs,-⟩
  · exact unacked_kept hc hm (hi.delivered i call pc hop₀) hop
  · obtain ⟨pc₀,rfl⟩ := hp.of_next_update hn
    exact unacked_kept hc hm (hi.delivered i call pc₀ hop₀) hop
  · cases hs
    cases hm with
    | handleUpdate => exact List.mem_cons_self

lemma single_step (hi : Exclusive fleet s) (hw : Wired fleet s) (hc : ProcessedOnce s e)
    (hu : Uninterrupted s e) (hm : Move fleet s e u) : ∀ jobId t t', (∃ w, u.Holding t w jobId) →
      (∃ w, u.Holding t' w jobId) → t = t' := by
  intro jobId
  have hcons : Conserves (fun t => ∃ w, s.Holding t w jobId) (fun t => ∃ w, u.Holding t w jobId)
      (s.moved fleet e) (made e) := by
    refine ⟨?_⟩
    rintro t ⟨w,h⟩
    cases hold_origin hw hc hm h with
    | kept before stays => exact .inl ⟨⟨w,before⟩,stays⟩
    | moved moves before => exact .inr (.inl ⟨_,moves,w,before⟩)
    | made takes =>
      obtain ⟨i,ts,call,t',d,rfl,rfl,rfl,rfl,hop,hd,hf⟩ := takes
      have hst : s.statement (.advance i ts) =
          some (.focus call.argument.jobId call.argument.workerHostname t') := by
        simp [State.statement,State.advancing,hop,Operation.statement]
      refine .inr (.inr ⟨rfl,?_⟩)
      rintro t ⟨w,hold⟩
      exact hi.not_holding hu hst hd hf t w hold
  exact hcons.unique (hi.single jobId)

/-- The statements that act on a job in progress are those of an update of it. -/
lemma row_inProgress {jobId : JobId} {d : JobDigest} {st : Statement} {hostname : String}
    (hd : s.db.digest? jobId = some d) (hs : d.status = .inProgress)
    (hh : d.currentWorkerHostname = hostname)
    (hrelease : ∀ request ts, st = .release request ts → request.jobId ≠ jobId)
    (hfinish : ∀ j, st = .finish j → j ≠ jobId) :
    (st.row d).status = .inProgress ∧ (st.row d).currentWorkerHostname = hostname := by
  have hid := Db.digest?_jobId hd
  rcases st.row_cases d with hrow | hc
  · rw [hrow]
    exact ⟨hs,hh⟩
  · generalize st.row d = d' at hc
    cases hc with
    | focus takes => rcases takes.2.2.1 with h | h <;> cases hs.symm.trans h
    | restart takes => rcases takes.2.2.1 with h | h <;> cases hs.symm.trans h
    | abort takes => rcases takes.2.2 with h | h <;> cases hs.symm.trans h
    | release takes => exact absurd (takes.1.symm.trans hid) (hrelease _ _ rfl)
    | finish takes => exact absurd (takes.symm.trans hid) (hfinish _ rfl)

lemma inProgress_step (hi : Exclusive fleet s) (hw : Wired fleet s) (hc : ProcessedOnce s e)
    (hm : Move fleet s e u) : ∀ t w jobId, u.Holding t w jobId → ¬u.Released jobId t →
      ∃ d ∈ u.db.digest? jobId, d.status = .inProgress ∧
        d.currentWorkerHostname = (fleet w).hostname := by
  intro t w jobId h hnot
  have hdb : u.db = s.write e := by
    rcases hm.writes with ⟨graceful,ts,rfl,-⟩ | ⟨hu,-⟩
    · exact hc.elim
    · exact hu
  rw [hdb]
  -- A hold before its release survives unless its own update releases or ends the job.
  have hold : ∀ a, s.Holding a w jobId → ¬s.Released jobId a →
      (∀ i ts call t', a = .updating i → e = .advance i ts →
        s.operations i ≠ some (.update call (.release t'))) →
      ∃ d ∈ (s.write e).digest? jobId, d.status = .inProgress ∧
        d.currentWorkerHostname = (fleet w).hostname := by
    intro a ha hna hrel
    obtain ⟨d,hd,hs,hh⟩ := hi.inProgress a w jobId ha hna
    rcases s.write_cases e with hwr | ⟨st,hst,hwr⟩
    · exact ⟨d,hwr ▸ hd,hs,hh⟩
    · refine ⟨st.row d,hwr ▸ Statement.digest?_run_of_some hd,?_⟩
      obtain ⟨i,ts,op,rfl,hop,hst⟩ := State.statement_eq_some hst
      refine row_inProgress hd hs hh ?_ ?_
      · rintro request ts' rfl hj
        obtain ⟨call,rfl,rfl⟩ := Operation.of_release hst
        have hown : s.Holding (.updating i) call.caller call.argument.jobId := .updating hop rfl
        have ha' := hi.single jobId a (.updating i) ⟨w,ha⟩ ⟨_,hj ▸ hown⟩
        exact hrel i ts call ts' ha' rfl hop
      · rintro j rfl rfl
        obtain ⟨call,released,rfl,rfl⟩ := Operation.of_finish hst
        have hown : s.Holding (.updating i) call.caller call.argument.jobId := .updating hop rfl
        have ha' := hi.single _ a (.updating i) ⟨w,ha⟩ ⟨_,hown⟩
        refine hna ?_
        rw [ha']
        simp [State.Released,State.between,hop,UpdatePc.beforeRelease,UpdatePc.processed]
  cases hold_origin hw hc hm h with
  | kept before stays =>
    refine hold t before (fun hr => hnot (released_next hm hr h)) ?_
    rintro i ts call t' rfl rfl hop
    cases h with
    | updating handles pending =>
      rcases hm.operation_origin handles with ⟨-,he⟩ | ⟨ts',op₀,o,-,hop₀,hp,hn⟩ | ⟨-,hfree⟩
      · exact he ts rfl
      · cases hop.symm.trans hop₀
        cases hp
        cases hn
        refine hnot ?_
        simp only [State.Released,State.between,handles]
        split <;> simp [UpdatePc.beforeRelease,UpdatePc.processed]
      · exact absurd (hop.symm.trans hfree) (by simp)
  | moved moves before =>
    refine hold _ before (not_released_of_moved moves) ?_
    rintro i ts call t' rfl rfl hop
    simp [State.moved,hop] at moves
  | made takes =>
    obtain ⟨i,ts,call,t',d,rfl,rfl,rfl,rfl,hop,hd,hf⟩ := takes
    rw [State.write_advance hop]
    refine ⟨Db.focusRow call.argument.workerHostname t' d,?_,rfl,
      hw.focusHost call (.inr (.inr ⟨i,_,hop⟩))⟩
    have hrow : (Statement.focus call.argument.jobId call.argument.workerHostname t').row d =
        Db.focusRow call.argument.workerHostname t' d := if_pos hf
    exact hrow ▸ Statement.digest?_run_of_some hd

end Exclusive
end Step

theorem exclusive {fleet : Fleet} {s : State}
    (h : (system fleet).ReachableBy (fun s e => ProcessedOnce s e ∧ Uninterrupted s e) s) :
    Exclusive fleet s := by
  refine h.invariant ?_ ?_
  · rintro s rfl
    have hnone : ∀ t w jobId, ¬State.initial.Holding t w jobId := by
      rintro t w jobId (⟨hop,-⟩ | hw | hr | ⟨hop,-⟩)
      · cases hop
      · cases hw
      · cases hr
      · cases hop
    constructor
    · exact fun t w jobId h => absurd h (hnone t w jobId)
    · exact fun jobId t t' h => absurd h.choose_spec (hnone t _ jobId)
    · exact fun i call pc h => nomatch h
  · rintro s e s' hs hi ⟨hc,hu⟩ hstep
    obtain ⟨u,hm,rfl⟩ := Move.of_step hstep
    have hprogress := hi.inProgress_step (wired hs) hc hm
    have hsingle := hi.single_step (wired hs) hc hu hm
    have hold : ∀ {clock t w jobId}, State.Holding { u with clock := clock } t w jobId →
        u.Holding t w jobId := by
      rintro clock t w jobId (⟨hop,hf⟩ | hw | hr | ⟨hop,hb⟩)
      · exact .focusing hop hf
      · exact .running hw
      · exact .waiting hr
      · exact .updating hop hb
    constructor
    · intro t w jobId h hn
      refine hprogress t w jobId (hold h) (fun hr => hn ?_)
      cases t <;> exact hr
    · rintro jobId t t' ⟨w,h⟩ ⟨w',h'⟩
      exact hsingle jobId t t' ⟨w,hold h⟩ ⟨w',hold h'⟩
    · exact fun i call pc hop => hi.delivered_step hc hm i call pc hop

/-- A place holds one worker's hold. -/
lemma State.Holding.worker_unique {s : State} {t : Token} {v w : ℕ} {jobId jobId' : JobId}
    (h : s.Holding t v jobId) (h' : s.Holding t w jobId') : v = w := by
  cases h with
  | focusing handles =>
    cases h' with
    | focusing handles' =>
      cases handles.symm.trans handles'
      rfl
  | running => cases h'; rfl
  | waiting => cases h'; rfl
  | updating handles =>
    cases h' with
    | updating handles' =>
      cases handles.symm.trans handles'
      rfl

/-- Where each update is processed once and no focus takes effect between the release and the commit
of an update of its job, a job that a worker holds, from its own focus to the commit of its own
update, is held in that one place: no other focus comes to a receipt that says `focused`. Until
the release no focus takes effect at all. -/
theorem focus_refused_while_held {fleet : Fleet} {s : State}
    (h : (system fleet).ReachableBy (fun s e => ProcessedOnce s e ∧ Uninterrupted s e) s)
    {t : Token} {w : ℕ} {jobId : JobId} (holding : s.Holding t w jobId) :
    (∀ t' v, s.Holding t' v jobId → t' = t ∧ v = w) ∧
      (∀ i call receipt, s.operations i = some (.focus call (.reply receipt)) →
        call.argument.jobId = jobId → receipt.status = .focused → t = .focusing i) ∧
      (¬s.Released jobId t →
        ∀ request ts, request.jobId = jobId → ¬FocusTakes s.db request ts) := by
  have hex := exclusive h
  refine ⟨?_,?_,?_⟩
  · intro t' v h'
    obtain rfl := hex.single jobId t' t ⟨v,h'⟩ ⟨w,holding⟩
    exact ⟨rfl,h'.worker_unique holding⟩
  · rintro i call receipt hop rfl hs
    have hown : s.Holding (.focusing i) call.caller call.argument.jobId :=
      .focusing hop (by simp [FocusPc.focused,hs])
    exact hex.single _ t (.focusing i) ⟨w,holding⟩ ⟨_,hown⟩
  · rintro hn request ts rfl ⟨jobContext,hf⟩
    obtain ⟨d',hd',hs,-⟩ := hex.inProgress t w _ holding hn
    have hone : (s.db.focus request.jobId request.workerHostname ts).2 = 1 := by
      by_contra hno
      cases hg : getJob (s.db.focus request.jobId request.workerHostname ts).1 request.jobId with
      | none => simp [focusJob,hg,focusReceipt] at hf
      | some c => simp [focusJob,hg,focusReceipt,focusStatus,hno] at hf
    obtain ⟨d,hd,hfoc⟩ := (Db.focus_eq_one _).mp hone
    cases Option.mem_unique hd hd'
    rcases hfoc.2.2.1 with h' | h' <;> cases hs.symm.trans h'

/-- The first builder runs a job. -/
def firstBuilderRuns : List Event :=
  Event.serveNewJob 0 buildRequest 1 ++ [.deliver 0 (buildDispatch 1)] ++
  Event.serveFocus 0 0 0 ⟨1,"builder-0"⟩ 2

def State.Runs (s : State) (w : ℕ) (jobId : JobId) : Bool :=
  match s.handling w with
  | some ⟨j,.running _⟩ => j = jobId
  | _ => false

lemma State.holding_of_runs {s : State} {w : ℕ} {jobId : JobId} (h : s.Runs w jobId = true) :
    s.Holding (.running w) w jobId := by
  unfold State.Runs at h
  split at h
  · next j jobContext hh =>
    obtain rfl : j = jobId := of_decide_eq_true h
    exact .running hh
  · cases h

lemma State.exists_of_between {s : State} {i : ℕ} {jobId : JobId}
    (h : s.between i jobId = true) : ∃ call pc, s.operations i = some (.update call pc) ∧
      call.argument.jobId = jobId ∧ pc.processed = false := by
  unfold State.between at h
  split at h
  · next call pc hop =>
    simp only [Bool.and_eq_true,decide_eq_true_eq,Bool.not_eq_true'] at h
    exact ⟨call,pc,hop,h.1.1,h.2⟩
  · cases h

lemma State.exists_holding_of_between {s : State} {i : ℕ} {jobId : JobId}
    (h : s.between i jobId = true) : ∃ w, s.Holding (.updating i) w jobId := by
  obtain ⟨call,pc,hop,rfl,hb⟩ := State.exists_of_between h
  exact ⟨call.caller,.updating hop hb⟩

/-- The first builder's update has been released, and the message of its job is with the second
builder, as its connection was lost; the second builder asks for the job once the update has
committed. -/
def secondAfterCommit : List Event :=
  firstBuilderRuns ++ [.report 0 (successOf "kbuilder"),.disconnect 0,.deliver 1 (buildDispatch 1)] ++
  Event.serveUpdate 0 2 firstUpdate 3

theorem focus_refused_while_first_updates :
    ∃ s, (system builders).ReachableBy (fun s e => ProcessedOnce s e ∧ Uninterrupted s e) s ∧
      s.Released 1 (.updating 0) ∧ (∃ w, s.Holding (.updating 0) w 1) ∧
        ∀ v, ¬s.Holding (.running 1) v 1 := by
  obtain ⟨s,hs,hp⟩ := Machine.exists_of_replay (system builders)
    (fun s e => ProcessedOnce s e ∧ Uninterrupted s e) secondAfterCommit
    (fun s => s.between 0 1) rfl (by decide)
  obtain ⟨w,hold⟩ := State.exists_holding_of_between hp
  refine ⟨s,hs,hp,⟨w,hold⟩,?_⟩
  intro v h'
  cases ((focus_refused_while_held hs hold).1 (.running 1) v h').1

/-- The condition is needed at each of its steps: where a focus takes effect between the release
and the commit of an update of its job, the job is held twice. -/
theorem held_twice_of_interrupted {fleet : Fleet} {s s' : State} {e : Event}
    (hstep : (system fleet).step s e = some s') (hc : ¬Uninterrupted s e) :
    ∃ i k v w jobId, s'.Holding (.focusing i) v jobId ∧ s'.Holding (.updating k) w jobId := by
  obtain ⟨u,hm,rfl⟩ := Move.of_step hstep
  simp only [Uninterrupted,not_forall] at hc
  obtain ⟨st,hst,hc⟩ := hc
  cases st with
  | focus jobId hostname ts =>
    simp only [not_forall,Bool.not_eq_false] at hc
    obtain ⟨⟨d,hd,hf⟩,p,-,hb⟩ := hc
    obtain ⟨i,ts',op,rfl,hop,hst⟩ := State.statement_eq_some hst
    obtain ⟨call,rfl,rfl,-⟩ := Operation.of_focus hst
    obtain ⟨other,pc,handles,hj,pending⟩ := State.exists_of_between hb
    cases hm with
    | @advance _ _ op' o running piece =>
      cases hop.symm.trans running
      cases piece with
      | focusTaken =>
        have hne : p.1 ≠ i := by
          intro he
          cases (he ▸ handles).symm.trans hop
        refine ⟨i,p.1,call.caller,other.caller,call.argument.jobId,?_,?_⟩
        · have hnext : Function.update s.operations i (some (.focus call (.commit .focused))) i =
              some (.focus call (.commit .focused)) := Function.update_self _ _ _
          exact .focusing hnext rfl
        · rw [← hj]
          exact .updating ((Function.update_of_ne hne _ _).trans handles) pending
      | focusRefused refused => exact absurd hf (refused d hd)
  | _ => exact absurd trivial hc

/-! ## A focus in the midst of an update -/

/-- Builders on hosts of different names. -/
def namedBuilders : Fleet := fun w =>
  ⟨if w = 0 then "a" else if w = 1 then "bb" else String.ofList (List.replicate (w+1) 'b'),
    "kbuilder",none⟩

lemma namedBuilders_length (w : ℕ) : (namedBuilders w).hostname.length = w+1 := by
  unfold namedBuilders
  split
  · subst_vars
    rfl
  · split
    · subst_vars
      rfl
    · simp

lemma namedBuilders_injective : Function.Injective fun w => (namedBuilders w).hostname := by
  intro v w hvw
  have hl := congrArg String.length hvw
  simp only [namedBuilders_length] at hl
  omega

lemma namedBuilders_named (w : ℕ) : (namedBuilders w).hostname ≠ "" := by
  intro h
  have hl := namedBuilders_length w
  simp [h] at hl

/-- The first builder's update on its last stage. -/
def lastUpdate : UpdateCall := ⟨0,1,⟨"a","kbuilder",0,1,successOf "kbuilder"⟩⟩

/-- The first builder loses its connection while it builds, so that the message of its job is with
the second builder; that asks for the job after the release and before the commit of the first
builder's update. -/
def focusedWithinUpdate : List Event :=
  Event.serveNewJob 0 buildRequest 1 ++ [.deliver 0 (buildDispatch 1)] ++
  Event.serveFocus 0 0 0 ⟨1,"a"⟩ 2 ++
  [.report 0 (successOf "kbuilder"),.disconnect 0,.deliver 1 (buildDispatch 1)] ++
  Event.serveUpdate 0 2 lastUpdate 3 ++ Event.serveFocus 1 1 2 ⟨1,"bb"⟩ 4

/-- With hosts of different names and each update processed once, the second builder runs a job
whose first builder's update is still at work, and the rest of that update ends the job. -/
theorem second_builder_runs_within_update :
    (Function.Injective fun w => (namedBuilders w).hostname) ∧
      (∀ w, (namedBuilders w).hostname ≠ "") ∧
      (∃ s, (system namedBuilders).ReachableBy ProcessedOnce s ∧
        (∃ w, s.Holding (.updating 0) w 1) ∧ s.Holding (.running 1) 1 1) ∧
      ∃ s, (system namedBuilders).ReachableBy ProcessedOnce s ∧ s.Holding (.running 1) 1 1 ∧
        ∃ d ∈ s.db.digest? 1, d.status = .finished := by
  refine ⟨namedBuilders_injective,namedBuilders_named,?_,?_⟩
  · obtain ⟨s,hs,hp⟩ := Machine.exists_of_replay (system namedBuilders) ProcessedOnce
      focusedWithinUpdate (fun s => s.between 0 1 ∧ s.Runs 1 1) rfl (by decide)
    obtain ⟨hb,hr⟩ := of_decide_eq_true hp
    exact ⟨s,hs,State.exists_holding_of_between hb,State.holding_of_runs hr⟩
  · obtain ⟨s,hs,hp⟩ := Machine.exists_of_replay (system namedBuilders) ProcessedOnce
      (focusedWithinUpdate ++ Event.advances 0 2 5)
      (fun s => s.Runs 1 1 ∧ ∃ d ∈ s.db.digest? 1, d.status = .finished) rfl (by decide)
    obtain ⟨hr,hd⟩ := of_decide_eq_true hp
    exact ⟨s,hs,State.holding_of_runs hr,hd⟩

end LiveKBench.KScheduler
