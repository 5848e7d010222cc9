import LiveKBench.KScheduler.Fates
import LiveKBench.KScheduler.Carried
import LiveKBench.KScheduler.Clock

/-! Jobs that wait for a worker. A worker drops its message when its focus is rejected, so a message
counts for a job only as long as the focus that comes of it would take effect. With strictly
increasing readings every job that waits has such a message, or an operation that made it wait and
goes on with it. -/
namespace LiveKBench.KScheduler
open KCore Lib Backend

/-- The job waits for a worker. -/
def JobDigest.Waits (d : JobDigest) : Prop := d.status = .pending ∨ d.status = .waiting

instance (d : JobDigest) : Decidable d.Waits := inferInstanceAs (Decidable (_ ∨ _))

/-- The update has released the job, and its message is still to be published. -/
def UpdatePc.toPublish : UpdatePc → Bool
  | .nextType released => released
  | .exclQueue released _ => released
  | .commit released ret => released && ret.isSome
  | .enqueue released _ => released
  | _ => false

/-- The update has released the job from its last stage and is still to end it. -/
def UpdatePc.toFinish : UpdatePc → Bool
  | .finish released => released
  | _ => false

def RestartPc.toPublish : RestartPc → Bool
  | .commit _ _ ok => ok
  | .enqueue _ _ => true
  | _ => false

/-- The operation has changed the status of the job and is still to publish its message. -/
def Operation.toPublish (jobId : JobId) : Operation → Bool
  | .newJob _ pc => pc.jobId? = some jobId
  | .restart j _ pc => pc.toPublish && j = jobId
  | .update call pc => pc.toPublish && call.argument.jobId = jobId
  | _ => false

def Operation.toFinish (jobId : JobId) : Operation → Bool
  | .update call pc => pc.toFinish && call.argument.jobId = jobId
  | _ => false

/-- A dispatch message for the job is queued, or delivered and not acknowledged. -/
def State.HasMessage (s : State) (jobId : JobId) : Prop :=
  (∃ m ∈ s.dispatches.ready, m.jobId = jobId) ∨
    ∃ p ∈ s.dispatches.unacked, p.2.jobId = jobId

instance (s : State) (jobId : JobId) : Decidable (s.HasMessage jobId) :=
  inferInstanceAs (Decidable ((∃ m ∈ s.dispatches.ready, m.jobId = jobId) ∨
    ∃ p ∈ s.dispatches.unacked, p.2.jobId = jobId))

def State.ToPublish (s : State) (jobId : JobId) : Prop :=
  ∃ i, (s.operations i).any (Operation.toPublish jobId) = true

def State.ToFinish (s : State) (jobId : JobId) : Prop :=
  ∃ i, (s.operations i).any (Operation.toFinish jobId) = true

/-! ## The runs considered -/

/-- Every reading is later than the one before, every new job has a stage, and nothing crashes. -/
def Orderly (s : State) (e : Event) : Prop :=
  StrictClock s e ∧
    match e with
    | .newJob _ request _ => request.jobWorkers ≠ []
    | .fail _ => False
    | .restartScheduler _ _ => False
    | _ => True

instance (s : State) (e : Event) : Decidable (Orderly s e) := by
  unfold Orderly
  have : Decidable (match e with
      | .newJob _ request _ => request.jobWorkers ≠ []
      | .fail _ => False
      | .restartScheduler _ _ => False
      | _ => True) := by
    split <;> infer_instance
  infer_instance

/-- A restart that takes effect has found stages of the job. -/
def ReadsStages (s : State) (e : Event) : Prop :=
  match s.advancing e with
  | some (.restart jobId _ (.write jobContext _ ts)) =>
    (∃ d ∈ s.db.digest? jobId, Db.Restartable jobId ts d) → jobContext.jobWorkers ≠ []
  | _ => True

instance (s : State) (e : Event) : Decidable (ReadsStages s e) := by
  unfold ReadsStages
  split <;> infer_instance

/-- The stages that the operation's last step, the publication, looks up. -/
def Operation.HasStages : Operation → Prop
  | .newJob request _ => request.jobWorkers ≠ []
  | .restart _ _ (.commit jobContext _ true) => jobContext.jobWorkers ≠ []
  | .restart _ _ (.enqueue jobContext _) => jobContext.jobWorkers ≠ []
  | _ => True

/-- A condition of runs for the invariants below. -/
def Settled (s : State) (e : Event) : Prop := Orderly s e ∧ ReadsStages s e

instance (s : State) (e : Event) : Decidable (Settled s e) :=
  inferInstanceAs (Decidable (_ ∧ _))

theorem hasStages {fleet : Fleet} {s : State} (h : (system fleet).ReachableBy Settled s) :
    ∀ i op, s.operations i = some op → op.HasStages := by
  refine h.invariant (I := fun s => ∀ i op, s.operations i = some op → op.HasStages) ?_ ?_
  · rintro s rfl i op hop
    cases hop
  · rintro s e s' - hi hc hstep i op hop
    obtain ⟨u,hm,rfl⟩ := Move.of_step hstep
    rcases hm.operation_origin hop with ⟨hop,-⟩ | ⟨ts,op₀,o,rfl,hop₀,hp,hn⟩ | ⟨hs,-⟩
    · exact hi i op hop
    · have hop' := hi i op₀ hop₀
      cases hp with
      | insertDigest | insertWorkers | insertTags | restartCommit =>
        cases hn
        exact hop'
      | @restartWrite _ _ _ _ _ ok reads =>
        cases hn
        cases ok with
        | false => trivial
        | true =>
          have hr := hc.2
          simp only [ReadsStages,State.advancing,hop₀] at hr
          obtain ⟨d,hd,hres⟩ := reads.mp rfl
          exact hr ⟨d,hd,hres⟩
      | updateRelease =>
        cases hn
        split <;> trivial
      | _ => cases hn <;> trivial
    · cases hs with
      | newJob => exact hc.1.2
      | _ => trivial

/-- A digest that waits after a statement waited before, or the statement is the restart or the
release that made it wait. -/
lemma row_waits {st : Statement} {d : JobDigest} (h : (st.row d).Waits) :
    st.row d = d ∨
      (∃ jobId target ts, st = .restart jobId target ts ∧ Db.Restartable jobId ts d) ∨
      ∃ request ts, st = .release request ts ∧ Db.Releasable request ts d ∧
        (updatePlan request).nextAvailable = true := by
  rcases st.row_cases d with hrow | hc
  · exact .inl hrow
  · generalize st.row d = d' at hc h
    cases hc with
    | restart takes => exact .inr (.inl ⟨_,_,_,rfl,takes⟩)
    | @release request ts takes =>
      refine .inr (.inr ⟨request,ts,rfl,takes,?_⟩)
      simp only [Db.releaseRow,JobDigest.Waits] at h
      rcases updatePlan_cases request with ⟨-,hp⟩ | ⟨-,-,hp⟩ | ⟨-,-,hp⟩ <;> simp [hp] at h ⊢
    | focus | finish | abort => simp [Db.focusRow,JobDigest.Waits] at h

/-- A job that waits is held by nobody. -/
theorem unheld {fleet : Fleet} {C : State → Event → Prop} {s : State}
    (h : (system fleet).ReachableBy C s) :
    ∀ jobId, ∀ d ∈ s.db.digest? jobId, d.Waits → d.currentWorkerHostname = "" := by
  refine (db_invariant (P := fun db => ∀ jobId, ∀ d ∈ db.digest? jobId, d.Waits →
    d.currentWorkerHostname = "") ?_ ?_ ?_ h).1
  · intro jobId d hd
    cases hd
  · intro s e st _ _ _ hi jobId d hd hwait
    rcases Statement.digest?_run hd with ⟨d₀,hd₀,rfl⟩ | ⟨ts,rfl,rfl,rfl⟩
    · rcases row_waits hwait with hrow | ⟨j,target,ts,rfl,hr⟩ | ⟨request,ts,rfl,hr,-⟩
      · rw [hrow] at hwait ⊢
        exact hi jobId d₀ hd₀ hwait
      · rw [Statement.row,if_pos hr]
        exact hr.2.1
      · rw [Statement.row,if_pos hr]
        rfl
    · rfl
  · intro db ts hi jobId d hd hwait
    exact absurd (.inr hwait) (not_leftOver_abortLeftOver hd)

/-! ## What will make a waiting job run -/

/-- A message or an operation that will make the job run, if its digest stays as it is: a message
that is queued or that a worker has not asked for yet, a worker whose focus will take effect, or
an operation that goes on with the job. -/
inductive State.Pursued (s : State) (jobId : JobId) (modifiedTime : TimeStamp) : Prop
  | queued {m} (ready : m ∈ s.dispatches.ready) (job : m.jobId = jobId)
  | bounced {w m} (delivered : ((w,true),m) ∈ s.dispatches.unacked) (job : m.jobId = jobId)
  | received {w m} (delivered : ((w,false),m) ∈ s.dispatches.unacked) (job : m.jobId = jobId)
      (handles : s.handling w = some ⟨jobId,.received⟩)
  | focusing {w m c} (delivered : ((w,false),m) ∈ s.dispatches.unacked) (job : m.jobId = jobId)
      (handles : s.handling w = some ⟨jobId,.focusing c⟩)
      (fresh : ∀ i call pc, s.operations i = some (.focus call pc) → call.caller = w →
        call.correlationId = c → ∃ ts, pc = .write ts ∧ modifiedTime < ts)
  | owed {i op} (runs : s.operations i = some op)
      (owes : op.toPublish jobId = true ∨ op.toFinish jobId = true)

section Step
variable {fleet : Fleet} {s u : State} {e : Event} {jobId : JobId} {d : JobDigest}

/-- A message that is not in the hands of a working dispatch stays. -/
lemma pursued_queued (hm : Move fleet s e u) {m : Dispatch} {ts : TimeStamp}
    (ready : m ∈ s.dispatches.ready) (job : m.jobId = jobId) : u.Pursued jobId ts := by
  rcases hm.dispatchReady_fate ready with hr | ⟨w,⟨-,hd,hh⟩ | ⟨-,hd⟩⟩
  · exact .queued hr job
  · exact .received hd job (job ▸ hh)
  · exact .bounced hd job

lemma pursued_bounced (hm : Move fleet s e u) {w : ℕ} {m : Dispatch} {ts : TimeStamp}
    (delivered : ((w,true),m) ∈ s.dispatches.unacked) (job : m.jobId = jobId) :
    u.Pursued jobId ts := by
  rcases hm.dispatchUnacked_fate delivered with hd | hr | ⟨hf,-⟩
  · exact .bounced hd job
  · exact .queued hr job
  · cases hf

/-- A worker that raises gives its message back. -/
lemma not_unacked_of_raise {w : ℕ} {m : Dispatch} (hm : Move fleet s (.raise w) u) :
    ((w,false),m) ∉ u.dispatches.unacked := by
  cases hm
  exact fun h => ((Inbox.mem_unacked_nack _ _ _).mp h).2 rfl

lemma pursued_received (hw : Wired fleet s) (hm : Move fleet s e u) {w : ℕ} {m : Dispatch}
    {ts : TimeStamp} (delivered : ((w,false),m) ∈ s.dispatches.unacked) (job : m.jobId = jobId)
    (handles : s.handling w = some ⟨jobId,.received⟩) : u.Pursued jobId ts := by
  have hnot : ¬s.Ended e w := by
    rintro ⟨i,ts,rfl,⟨call,receipt,j,-,-,rfl,hh⟩ | ⟨call,j,-,rfl,hh⟩⟩ <;>
      cases handles.symm.trans hh
  rcases hm.dispatchUnacked_fate delivered with hd | hr | ⟨-,he⟩
  · have hf := hm.handling_fate handles
    generalize hh : (⟨jobId,.received⟩ : Handling) = h at hf
    cases hf with
    | kept after =>
      subst hh
      exact .received hd job after
    | requested after =>
      cases hh
      refine .focusing hd job after ?_
      intro i call pc hop hcaller hcorr
      rcases hm.operation_origin hop with ⟨hop,-⟩ | ⟨ts,op₀,o,he,-⟩ | ⟨hs,-⟩
      · -- No request of an earlier draw has the new correlation id.
        exact absurd (hw.focusCorrelation call (.inr (.inr ⟨i,pc,hop⟩))) (by omega)
      · cases he
      · cases hs
    | ended ends => exact absurd ends hnot
    | raised => exact absurd hd (not_unacked_of_raise hm)
    | focused | reported => cases hh
  · exact .queued hr job
  · exact absurd he hnot

/-- The digest after a piece with a writing statement. -/
lemma row_of_advance {i : ℕ} {ts : TimeStamp} {op : Operation} {st : Statement} {d' : JobDigest}
    (hm : Move fleet s (.advance i ts) u) (hop : s.operations i = some op)
    (hst : op.statement = some st) (hd : s.db.digest? jobId = some d)
    (hd' : u.db.digest? jobId = some d') : st.row d = d' := by
  rw [hm.db_advance hop,Operation.write,hst] at hd'
  exact Option.some.inj ((Statement.digest?_run_of_some hd).symm.trans hd')

/-- The focus of a worker that pursues the job is ahead, and it will find the job as it is. -/
lemma pursued_focusing (hw : Wired fleet s) (ht : Timely s) (hc : StrictClock s e)
    (hm : Move fleet s e u) (hd : s.db.digest? jobId = some d)
    (hd' : u.db.digest? jobId = some d) (hwait : d.Waits)
    (hhost : d.currentWorkerHostname = "") {w : ℕ} {m : Dispatch} {c : ℕ}
    (delivered : ((w,false),m) ∈ s.dispatches.unacked) (job : m.jobId = jobId)
    (handles : s.handling w = some ⟨jobId,.focusing c⟩)
    (fresh : ∀ i call pc, s.operations i = some (.focus call pc) → call.caller = w →
      call.correlationId = c → ∃ ts, pc = .write ts ∧ d.modifiedTime < ts) :
    u.Pursued jobId d.modifiedTime := by
  have hnot : ¬s.Ended e w := by
    rintro ⟨i,ts,rfl,⟨call,receipt,j,hop,-,rfl,hh⟩ | ⟨call,j,-,rfl,hh⟩⟩
    · cases handles.symm.trans hh
      obtain ⟨t,hpc,-⟩ := fresh i call _ hop rfl rfl
      cases hpc
    · cases handles.symm.trans hh
  rcases hm.dispatchUnacked_fate delivered with hdel | hr | ⟨-,he⟩
  · have hf := hm.handling_fate handles
    generalize hh : (⟨jobId,.focusing c⟩ : Handling) = h at hf
    cases hf with
    | kept after =>
      subst hh
      refine .focusing hdel job after ?_
      intro i call pc hop hcaller hcorr
      rcases hm.operation_origin hop with ⟨hop,-⟩ | ⟨ts,op₀,o,rfl,hop₀,hp,hn⟩ | ⟨hs,-⟩
      · exact fresh i call pc hop hcaller hcorr
      · obtain ⟨pc₀,rfl⟩ := hp.of_next_focus hn
        obtain ⟨t,rfl,hlt⟩ := fresh i call pc₀ hop₀ hcaller hcorr
        have hj := (hw.focusing w jobId c handles).2 call (.inr (.inr ⟨i,_,hop₀⟩)) hcaller hcorr
        have hfoc : Db.Focusable call.argument.jobId t d :=
          ⟨(Db.digest?_jobId hd).trans hj.symm,hhost,hwait.symm,hlt⟩
        cases hp with
        | focusTaken present focusable =>
          -- The focus takes effect, and the job does not wait any more.
          have hrow := row_of_advance hm hop₀ rfl hd hd'
          rw [Statement.row,if_pos hfoc] at hrow
          rw [← hrow] at hwait
          simp [Db.focusRow,JobDigest.Waits] at hwait
        | focusRefused refused => exact absurd hfoc (refused d (hj ▸ hd))
      · cases hs with
        | @handleFocus _ _ ts =>
          exact ⟨ts,rfl,lt_of_le_of_lt (ht.db jobId d hd) (hc ts rfl)⟩
    | @focused i ts call receipt j running status caller after =>
      cases hh
      obtain ⟨t,hpc,-⟩ := fresh i call _ running caller rfl
      cases hpc
    | ended ends => exact absurd ends hnot
    | raised => exact absurd hdel (not_unacked_of_raise hm)
    | requested | reported => cases hh
  · exact .queued hr job
  · exact absurd he hnot

lemma pyIndex_isSome {α : Type*} {xs : List α} {i : ℤ} (hne : xs ≠ []) (hlo : -1 ≤ i)
    (hhi : i < xs.length) : ∃ x, pyIndex xs i = some x := by
  have hpos := List.length_pos_iff.mpr hne
  unfold pyIndex
  split
  · exact ⟨_,List.getElem?_eq_getElem (by omega)⟩
  · rw [if_pos (by omega)]
    exact ⟨_,List.getElem?_eq_getElem (by omega)⟩

/-- A piece of an operation that goes on with the job either leaves it so, or publishes the job's
message, or ends the job; it does not raise. -/
lemma Piece.goes_on (hst : Staged s) {i : ℕ} {ts : TimeStamp} {op : Operation}
    {o : Outcome Operation} (runs : s.operations i = some op) (hp : Piece ts s.db op o)
    (hsound : op.Sound) (hstages : op.HasStages)
    (owes : op.toPublish jobId = true ∨ op.toFinish jobId = true) :
    (∃ next, o.next? = some next ∧
        (next.toPublish jobId = true ∨ next.toFinish jobId = true)) ∨
      (∃ m next, o = .publish (.dispatch m) next ∧ m.jobId = jobId) ∨
      op.statement = some (.finish jobId) := by
  cases hp with
  | insertWorkers ok | insertTags ok =>
    exact .inl ⟨_,rfl,by simpa [Operation.toPublish,Operation.toFinish,NewJobPc.jobId?] using owes⟩
  | @workersTaken request j taken =>
    exact absurd (Db.insertWorkers_of_unstaged (hst.unstaged i request j runs)).1 taken
  | @tagsTaken request j taken =>
    have hun := hst.untagged i request _ j runs (.inr rfl)
    exact absurd (Db.insertTags_of_untagged request.distinctTags hun).1 taken
  | newJobWithoutStage empty =>
    refine absurd ?_ hstages
    simpa using empty
  | newJobPublish first =>
    refine .inr (.inl ⟨_,_,rfl,?_⟩)
    simpa [Operation.toPublish,Operation.toFinish,NewJobPc.jobId?] using owes
  | updateLast | updateNext =>
    refine .inl ⟨_,rfl,?_⟩
    simpa [Operation.toPublish,Operation.toFinish,UpdatePc.toPublish,UpdatePc.toFinish] using owes
  | updateFinish =>
    refine .inr (.inr ?_)
    have hj := by
      simpa [Operation.toPublish,Operation.toFinish,UpdatePc.toPublish,UpdatePc.toFinish] using owes
    exact congrArg (fun j => some (Statement.finish j)) hj.2
  | updateExclQueue | updateCommitNext =>
    refine .inl ⟨_,rfl,?_⟩
    simpa [Operation.toPublish,Operation.toFinish,UpdatePc.toPublish,UpdatePc.toFinish] using owes
  | updatePublish =>
    refine .inr (.inl ⟨_,_,rfl,hsound.2.trans ?_⟩)
    have hj := by
      simpa [Operation.toPublish,Operation.toFinish,UpdatePc.toPublish,UpdatePc.toFinish] using owes
    exact hj.2
  | restartCommit =>
    refine .inl ⟨_,rfl,?_⟩
    simpa [Operation.toPublish,Operation.toFinish,RestartPc.toPublish] using owes
  | restartWithoutStage missing =>
    obtain ⟨worker,hw⟩ := pyIndex_isSome hstages hsound.2.1 hsound.2.2
    exact absurd (missing.symm.trans hw) (by simp)
  | restartPublish =>
    refine .inr (.inl ⟨_,_,rfl,?_⟩)
    simpa [Operation.toPublish,Operation.toFinish,RestartPc.toPublish] using owes
  | _ =>
    simp [Operation.toPublish,Operation.toFinish,UpdatePc.toPublish,UpdatePc.toFinish,
      RestartPc.toPublish,NewJobPc.jobId?] at owes

/-- An operation that goes on with the job publishes its message or ends it. -/
lemma pursued_owed (hst : Staged s) (hsound : ∀ i op, s.operations i = some op → op.Sound)
    (hstages : ∀ i op, s.operations i = some op → op.HasStages) (hc : Orderly s e)
    (hm : Move fleet s e u) (hd : s.db.digest? jobId = some d)
    (hd' : u.db.digest? jobId = some d) (hwait : d.Waits) {i : ℕ} {op : Operation}
    (runs : s.operations i = some op)
    (owes : op.toPublish jobId = true ∨ op.toFinish jobId = true) {t : TimeStamp} :
    u.Pursued jobId t := by
  cases hm.operation_fate runs with
  | kept after => exact .owed after owes
  | failed => exact hc.2.elim
  | stopped => exact hc.2.elim
  | lost replies =>
    unfold State.atReply at replies
    split at replies <;> simp [Operation.toPublish,Operation.toFinish,UpdatePc.toPublish,
      UpdatePc.toFinish] at owes replies
  | answered awaits =>
    subst awaits
    simp [Operation.toPublish,Operation.toFinish] at owes
  | @piece ts o ran after =>
    rcases ran.goes_on hst runs (hsound i op runs) (hstages i op runs) owes with
      ⟨next,hn,hnext⟩ | ⟨m,next,rfl,hj⟩ | hfin
    · refine .owed (i := i) ?_ hnext
      rw [after,State.operations_settle,hn]
      exact Function.update_self _ _ _
    · refine .queued (m := m) ?_ hj
      rw [after]
      exact List.mem_cons_self
    · have hrow := row_of_advance hm runs hfin hd hd'
      rw [Statement.row,if_pos (Db.digest?_jobId hd)] at hrow
      rw [← hrow] at hwait
      simp [JobDigest.Waits] at hwait

/-- The statement that makes a job wait belongs to an operation that goes on with it. -/
lemma pursued_of_statement {st : Statement} (hm : Move fleet s e u) (hst : s.statement e = some st)
    (hnew : (∃ ts, st = .insertDigest ts ∧ jobId = s.db.sequence+1) ∨
      ∃ d₀, s.db.digest? jobId = some d₀ ∧
        ((∃ j target ts, st = .restart j target ts ∧ Db.Restartable j ts d₀) ∨
          ∃ request ts, st = .release request ts ∧ Db.Releasable request ts d₀ ∧
            (updatePlan request).nextAvailable = true)) {t : TimeStamp} : u.Pursued jobId t := by
  obtain ⟨i,ts,op,rfl,hop,hst⟩ := State.statement_eq_some hst
  cases hm with
  | @advance _ _ op' o running piece =>
    cases running.symm.trans hop
    have hnext : ∀ {next}, o.next? = some next →
        (s.settle i op o).operations i = some next := by
      intro next hn
      rw [State.operations_settle,hn]
      exact Function.update_self _ _ _
    rcases hnew with ⟨t,rfl,rfl⟩ | ⟨d₀,hd₀,⟨j,target,t,rfl,hr⟩ | ⟨request,t,rfl,hr,ha⟩⟩
    · unfold Operation.statement at hst
      split at hst <;> cases hst
      cases piece
      exact .owed (hnext rfl) (.inl (by simp [Operation.toPublish,NewJobPc.jobId?]))
    · obtain ⟨restartFrom,jobContext,rfl⟩ := Operation.of_restart hst
      obtain rfl : j = jobId := hr.1.symm.trans (Db.digest?_jobId hd₀)
      cases piece with
      | restartWrite reads =>
        refine .owed (hnext rfl) (.inl ?_)
        simpa [Operation.toPublish,RestartPc.toPublish] using reads.mpr ⟨d₀,hd₀,hr⟩
    · obtain ⟨call,rfl,rfl⟩ := Operation.of_release hst
      obtain rfl : call.argument.jobId = jobId := hr.1.symm.trans (Db.digest?_jobId hd₀)
      cases piece with
      | updateRelease reads =>
        refine .owed (hnext rfl) (.inl ?_)
        rw [if_pos ha]
        simpa [Operation.toPublish,UpdatePc.toPublish] using reads.mpr ⟨d₀,hd₀,hr⟩

/-- What makes a waiting job run stays as long as the job's digest does. -/
lemma State.Pursued.step (hs : (system fleet).ReachableBy Settled s) (hc : Settled s e)
    (hm : Move fleet s e u) (hd : s.db.digest? jobId = some d)
    (hd' : u.db.digest? jobId = some d) (hwait : d.Waits)
    (h : s.Pursued jobId d.modifiedTime) : u.Pursued jobId d.modifiedTime := by
  have hstrict := hs.mono (D := StrictClock) fun _ _ hc => hc.1.1
  cases h with
  | queued ready job => exact pursued_queued hm ready job
  | bounced delivered job => exact pursued_bounced hm delivered job
  | received delivered job handles => exact pursued_received (wired hs) hm delivered job handles
  | focusing delivered job handles fresh =>
    exact pursued_focusing (wired hs) (timely_of_strict hstrict) hc.1.1 hm hd hd' hwait
      (unheld hs jobId d hd hwait) delivered job handles fresh
  | owed runs owes =>
    exact pursued_owed (staged hs) (sound hs) (hasStages hs) hc.1 hm hd hd' hwait runs owes

end Step

/-- In every run, what makes it run is there for each job that waits. -/
theorem pursued {fleet : Fleet} {s : State} (h : (system fleet).ReachableBy Settled s) :
    ∀ jobId d, s.db.digest? jobId = some d → d.Waits → s.Pursued jobId d.modifiedTime := by
  refine h.invariant (I := fun s => ∀ jobId d, s.db.digest? jobId = some d → d.Waits →
    s.Pursued jobId d.modifiedTime) ?_ ?_
  · rintro s rfl jobId d hd
    cases hd
  · rintro s e s' hs hi hc hstep jobId d hd hwait
    obtain ⟨u,hm,rfl⟩ := Move.of_step hstep
    have hu : u.Pursued jobId d.modifiedTime := by
      change u.db.digest? jobId = some d at hd
      rcases hm.writes with ⟨graceful,ts,rfl,-⟩ | ⟨hdb,-⟩
      · exact hc.1.2.elim
      · rcases s.write_cases e with hw | ⟨st,hst,hw⟩
        · have hd₀ : s.db.digest? jobId = some d := by rw [← hw,← hdb]; exact hd
          exact (hi jobId d hd₀ hwait).step hs hc hm hd₀ hd hwait
        · have hrun := hd
          rw [hdb,hw] at hrun
          rcases Statement.digest?_run hrun with ⟨d₀,hd₀,rfl⟩ | ⟨ts,rfl,hj,-⟩
          · rcases row_waits hwait with hrow | hrestart | hrelease
            · rw [hrow] at hd hwait ⊢
              exact (hi jobId d₀ hd₀ hwait).step hs hc hm hd₀ hd hwait
            · exact pursued_of_statement hm hst (.inr ⟨d₀,hd₀,.inl hrestart⟩)
            · exact pursued_of_statement hm hst (.inr ⟨d₀,hd₀,.inr hrelease⟩)
          · exact pursued_of_statement hm hst (.inl ⟨ts,rfl,hj⟩)
    cases hu with
    | queued ready job => exact .queued ready job
    | bounced delivered job => exact .bounced delivered job
    | received delivered job handles => exact .received delivered job handles
    | focusing delivered job handles fresh => exact .focusing delivered job handles fresh
    | owed runs owes => exact .owed runs owes

/-- Every job that waits has a message in a queue or with a worker, or an operation that has changed
its status and is still to publish the message or, after the last stage, to end the job. -/
theorem waiting_job_has_message {fleet : Fleet} {s : State}
    (h : (system fleet).ReachableBy Settled s) {jobId : JobId} {d : JobDigest}
    (hd : s.db.digest? jobId = some d) (hwait : d.Waits) :
    s.HasMessage jobId ∨ s.ToPublish jobId ∨ s.ToFinish jobId := by
  cases pursued h jobId d hd hwait with
  | queued ready job => exact .inl (.inl ⟨_,ready,job⟩)
  | bounced delivered job => exact .inl (.inr ⟨_,delivered,job⟩)
  | received delivered job => exact .inl (.inr ⟨_,delivered,job⟩)
  | focusing delivered job => exact .inl (.inr ⟨_,delivered,job⟩)
  | owed runs owes =>
    right
    rcases owes with ho | ho
    · exact .inl ⟨_,by rw [runs]; exact ho⟩
    · exact .inr ⟨_,by rw [runs]; exact ho⟩

theorem waiting_job_has_message_pending :
    ∃ s, (system builders).ReachableBy Settled s ∧
      ∃ d, s.db.digest? 1 = some d ∧ d.Waits ∧
        (s.HasMessage 1 ∨ s.ToPublish 1 ∨ s.ToFinish 1) := by
  obtain ⟨s,hs,hp⟩ := Machine.exists_of_replay (system builders) Settled
    (Event.serveNewJob 0 buildRequest 1)
    (fun s => ∃ d ∈ s.db.digest? 1, d.Waits) rfl (by decide)
  obtain ⟨d,hd,hw⟩ := of_decide_eq_true hp
  exact ⟨s,hs,d,hd,hw,waiting_job_has_message hs hd hw⟩

/-! ## Jobs that wait without a message -/

/-- The number under which an event starts an operation. -/
def Event.starts : Event → Option ℕ
  | .newJob i _ _ => some i
  | .abortJob i _ => some i
  | .restartJob i _ _ => some i
  | .handleFocus i _ _ => some i
  | .handleUpdate i _ _ => some i
  | _ => none

/-- Operations run under the numbers that were given out. -/
lemma operations_eq_none {fleet : Fleet} {C : State → Event → Prop} {n : ℕ} {s : State}
    (h : (system fleet).ReachableBy (fun s e => C s e ∧ ∀ k ∈ e.starts, k < n) s) :
    ∀ i, n ≤ i → s.operations i = none := by
  refine h.invariant (I := fun s => ∀ i, n ≤ i → s.operations i = none) ?_ ?_
  · rintro s rfl i -
    rfl
  · rintro s e s' - hi hc hstep i hn
    obtain ⟨u,hm,rfl⟩ := Move.of_step hstep
    by_contra hop
    obtain ⟨op,hop⟩ := Option.ne_none_iff_exists'.mp hop
    rcases hm.operation_origin hop with ⟨hop,-⟩ | ⟨ts,op₀,o,-,hop₀,-⟩ | ⟨hs,-⟩
    · exact absurd ((hi i hn).symm.trans hop) (by simp)
    · exact absurd ((hi i hn).symm.trans hop₀) (by simp)
    · have hlt : i < n := by cases hs <;> exact hc.2 i rfl
      omega

/-- No message for the job is left, and no operation under a number below `n` will publish one. -/
def State.Stranded (s : State) (n : ℕ) (jobId : JobId) : Prop :=
  ¬s.HasMessage jobId ∧ ∀ i < n, (s.operations i).any (Operation.toPublish jobId) = false

instance (s : State) (n : ℕ) (jobId : JobId) : Decidable (s.Stranded n jobId) :=
  inferInstanceAs (Decidable (_ ∧ ∀ i < n, (s.operations i).any _ = false))

lemma not_attended {fleet : Fleet} {n : ℕ} {s : State} {jobId : JobId}
    (h : (system fleet).ReachableBy (fun s e => Orderly s e ∧ ∀ k ∈ e.starts, k < n) s)
    (hs : s.Stranded n jobId) : ¬(s.HasMessage jobId ∨ s.ToPublish jobId) := by
  rintro (hm | ⟨i,hi⟩)
  · exact hs.1 hm
  · by_cases hn : i < n
    · exact absurd (hi.symm.trans (hs.2 i hn)) (by simp)
    · rw [operations_eq_none h i (by omega)] at hi
      cases hi

/-- The first builder loses its connection while it builds. The second one gets the message, is
turned away and drops it; then the first one reports its success. -/
def droppedWhileBuilding : List Event :=
  Event.serveNewJob 0 buildRequest 1 ++ [.deliver 0 (buildDispatch 1)] ++
  Event.serveFocus 0 0 0 ⟨1,"builder-0"⟩ 2 ++ [.disconnect 0,.deliver 1 (buildDispatch 1)] ++
  Event.serveFocus 0 1 1 ⟨1,"builder-1"⟩ 3 ++ [.report 0 (successOf "kbuilder")] ++
  Event.serveUpdate 0 3 ⟨0,2,⟨"builder-0","kbuilder",0,1,successOf "kbuilder"⟩⟩ 4

/-- Between the release from the last stage and the end of the job, the job waits and nobody will
publish a message for it. -/
theorem released_job_waits_for_nothing :
    ∃ s, (system builders).ReachableBy Orderly s ∧ (∃ d ∈ s.db.digest? 1, d.Waits) ∧
      ¬(s.HasMessage 1 ∨ s.ToPublish 1) := by
  obtain ⟨s,hs,hp⟩ := Machine.exists_of_replay (system builders)
    (fun s e => Orderly s e ∧ ∀ k ∈ e.starts, k < 1) droppedWhileBuilding
    (fun s => (∃ d ∈ s.db.digest? 1, d.Waits) ∧ s.Stranded 1 1) rfl (by decide)
  obtain ⟨hw,hn⟩ := of_decide_eq_true hp
  exact ⟨s,hs.mono fun _ _ hc => hc.1,hw,not_attended hs hn⟩

/-- A job is aborted while its stages are being inserted, and a restart reads it before they are.
The message of the new job is dropped, and then the restart writes and raises. -/
def restartedBeforeStages : List Event :=
  .newJob 0 buildRequest 1 :: Event.advances 0 1 1 ++ Event.serveAbort 1 1 ++
  .restartJob 1 1 (-1) :: Event.advances 1 4 2 ++ Event.advances 0 3 1 ++
  [.deliver 0 (buildDispatch 1)] ++ Event.serveFocus 0 0 0 ⟨1,"builder-0"⟩ 3 ++
  Event.advances 1 3 2

/-- The job waits for ever. -/
theorem restart_without_stages_strands_job :
    ∃ s, (system builders).ReachableBy Orderly s ∧ (∃ d ∈ s.db.digest? 1, d.Waits) ∧
      ¬(s.HasMessage 1 ∨ s.ToPublish 1) ∧ ∀ i, s.operations i = none := by
  obtain ⟨s,hs,hp⟩ := Machine.exists_of_replay (system builders)
    (fun s e => Orderly s e ∧ ∀ k ∈ e.starts, k < 2) restartedBeforeStages
    (fun s => (∃ d ∈ s.db.digest? 1, d.Waits) ∧ s.Stranded 2 1 ∧
      (s.operations 0).isNone ∧ (s.operations 1).isNone) rfl (by decide)
  obtain ⟨hw,hn,h0,h1⟩ := of_decide_eq_true hp
  refine ⟨s,hs.mono fun _ _ hc => hc.1,hw,not_attended hs hn,?_⟩
  intro i
  match i with
  | 0 => exact Option.isNone_iff_eq_none.mp h0
  | 1 => exact Option.isNone_iff_eq_none.mp h1
  | i+2 => exact operations_eq_none hs (i+2) (by omega)

end LiveKBench.KScheduler
