import LiveKBench.KScheduler.Origins
import LiveKBench.KScheduler.StaleUpdate

/-! The readings of the clock. Focus, update and restart compare the job's `modifiedTime` with the
reading made when the operation began, and that comparison alone decides between an operation that
takes effect and one that does not. -/
namespace LiveKBench.KScheduler
open KCore Lib Backend

/-- The reading that an operation carries to a later statement. -/
def Operation.held : Operation → Option TimeStamp
  | .newJob _ (.digest ts) => some ts
  | .focus _ (.write ts) => some ts
  | .update _ (.result ts) => some ts
  | .update _ (.release ts) => some ts
  | .restart _ _ (.write _ _ ts) => some ts
  | _ => none

/-- No digest was modified after `clock`. -/
def Db.ModifiedBy (db : Db) (clock : TimeStamp) : Prop :=
  ∀ jobId, ∀ d ∈ db.digest? jobId, d.modifiedTime ≤ clock

lemma Db.ModifiedBy.mono {db : Db} {clock clock' : TimeStamp} (h : db.ModifiedBy clock)
    (hle : clock ≤ clock') : db.ModifiedBy clock' :=
  fun jobId d hd => (h jobId d hd).trans hle

/-- The readings are in the past. -/
structure Timely (s : State) : Prop where
  db : s.db.ModifiedBy s.clock
  committed : s.committed.ModifiedBy s.clock
  held : ∀ i op ts, s.operations i = some op → op.held = some ts → ts ≤ s.clock

section Timely
variable {db : Db} {clock ts : TimeStamp}

/-- A statement writes no reading but its operation's. -/
lemma modifiedTime_row_le {op : Operation} {st : Statement} {d : JobDigest}
    (hst : op.statement = some st) (hheld : ∀ ts, op.held = some ts → ts ≤ clock)
    (hd : d.modifiedTime ≤ clock) : (st.row d).modifiedTime ≤ clock := by
  unfold Operation.statement at hst
  split at hst <;> cases hst <;> simp only [Statement.row]
  all_goals first
    | exact hd
    | split
      · first
          | exact hheld _ rfl
          | exact hd
      · exact hd

lemma modifiedBy_write {op : Operation} (hheld : ∀ ts, op.held = some ts → ts ≤ clock)
    (h : db.ModifiedBy clock) : (op.write db).ModifiedBy clock := by
  intro jobId d hd
  unfold Operation.write at hd
  cases hst : op.statement with
  | none =>
    rw [hst] at hd
    exact h jobId d hd
  | some st =>
    rw [hst] at hd
    rcases Statement.digest?_run hd with ⟨d₀,hd₀,rfl⟩ | ⟨ts,rfl,rfl,rfl⟩
    · exact modifiedTime_row_le hst hheld (h jobId d₀ hd₀)
    · unfold Operation.statement at hst
      split at hst <;> cases hst
      exact hheld _ rfl

lemma modifiedBy_abortLeftOver (h : db.ModifiedBy clock) (hts : ts ≤ clock) :
    (db.abortLeftOver ts).ModifiedBy clock := by
  intro jobId d hd
  rw [digest?_abortLeftOver] at hd
  obtain ⟨d₀,hd₀,rfl⟩ := Option.map_eq_some_iff.mp hd
  split
  · exact hts
  · exact h jobId d₀ hd₀

/-- An operation carries its reading unchanged from its start to its statement. -/
lemma held_of_piece {op next : Operation} {o : Outcome Operation} {t : TimeStamp}
    (h : Piece ts db op o) (hnext : o.next? = some next) (ht : next.held = some t) :
    op.held = some t ∨ (op.readsClock = true ∧ t = ts) := by
  cases h with
  | @restartChecked jobId restartFrom jobContext target checks =>
    cases hnext
    cases ht
    exact .inr ⟨by simp [Operation.readsClock,checks],rfl⟩
  | updateResult =>
    cases hnext
    cases ht
    exact .inl rfl
  | updateRelease =>
    cases hnext
    split at ht <;> cases ht
  | _ => cases hnext <;> cases ht

lemma held_of_start {e : Event} {i : ℕ} {op : Operation} {s : State} {t : TimeStamp}
    (h : Starts e i op) (ht : op.held = some t) : s.reading e = some t := by
  cases h with
  | newJob => exact ht
  | handleFocus => exact ht
  | @handleUpdate _ call ts =>
    cases hy : call.argument.deliverable.yielded with
    | true =>
      rw [UpdatePc.start,updatePlan_of_yielded hy] at ht
      cases ht
    | false =>
      rcases updatePlan_cases call.argument with ⟨hy',-⟩ | ⟨-,-,hp⟩ | ⟨-,-,hp⟩
      · exact absurd (hy.symm.trans hy') (by decide)
      all_goals
        rw [UpdatePc.start,hp] at ht
        simpa [State.reading,hy,Operation.held] using ht
  | abortJob => cases ht
  | restartJob => cases ht

end Timely

lemma clock_le_of_strict {s : State} {e : Event} (h : StrictClock s e) :
    s.clock ≤ (s.reading e).getD s.clock := by
  cases hr : s.reading e with
  | none => exact le_refl _
  | some ts => exact le_of_lt (h ts hr)

lemma Timely.reopened {s : State} (hi : Timely s) (graceful : Bool) {ts : TimeStamp}
    (hle : s.clock ≤ ts) : (s.reopened graceful ts).ModifiedBy ts := by
  unfold State.reopened
  split
  · exact modifiedBy_abortLeftOver (hi.db.mono hle) (le_refl _)
  · exact modifiedBy_abortLeftOver (hi.committed.mono hle) (le_refl _)

lemma Timely.write {s : State} (hi : Timely s) (e : Event) {clock : TimeStamp}
    (hle : s.clock ≤ clock) : (s.write e).ModifiedBy clock := by
  cases hop : s.advancing e with
  | none =>
    have hw : s.write e = s.db := by simp [State.write,State.statement,hop]
    exact hw ▸ hi.db.mono hle
  | some op =>
    obtain ⟨i,ts,rfl,hop⟩ := State.advancing_eq_some hop
    rw [State.write_advance hop]
    exact modifiedBy_write (fun t ht => (hi.held i op t hop ht).trans hle) (hi.db.mono hle)

/-- With strictly increasing readings, every reading in the state is in the past. -/
theorem timely_of_strict {fleet : Fleet} {s : State}
    (h : (system fleet).ReachableBy StrictClock s) : Timely s := by
  refine h.invariant ?_ ?_
  · rintro s rfl
    constructor
    · intro jobId d hd
      cases hd
    · intro jobId d hd
      cases hd
    · intro i op ts hop
      cases hop
  · rintro s e s' - hi hc hstep
    obtain ⟨u,hm,rfl⟩ := Move.of_step hstep
    have hle := clock_le_of_strict hc
    constructor
    · change u.db.ModifiedBy _
      rcases hm.writes with ⟨graceful,ts,rfl,hu,-⟩ | ⟨hu,-⟩
      · exact hu ▸ hi.reopened graceful hle
      · exact hu ▸ hi.write e hle
    · change u.committed.ModifiedBy _
      rcases hm.writes with ⟨graceful,ts,rfl,-,hv⟩ | ⟨-,hv⟩
      · exact hv ▸ hi.reopened graceful hle
      · rcases s.commit_cases e with hc | hc
        · exact hv.trans hc ▸ hi.committed.mono hle
        · exact hv.trans hc ▸ hi.db.mono hle
    · intro i op t hop ht
      rcases hm.operation_origin hop with ⟨hop,-⟩ | ⟨ts,op₀,o,rfl,hop₀,hp,hn⟩ | ⟨hs,-⟩
      · exact (hi.held i op t hop ht).trans hle
      · rcases held_of_piece hp hn ht with ht | ⟨hr,rfl⟩
        · exact (hi.held i op₀ t hop₀ ht).trans hle
        · simp [State.reading,hop₀,hr]
      · simp [held_of_start hs ht]

/-! ## What the comparison decides -/

/-- The clock reads later than the job's last change. -/
def Db.Later (db : Db) (jobId : JobId) (ts : TimeStamp) : Prop :=
  ∀ d ∈ db.digest? jobId, d.modifiedTime < ts

/-- The job waits for a worker and nobody holds it. -/
def Db.Open (db : Db) (jobId : JobId) : Prop :=
  ∃ d ∈ db.digest? jobId, (d.status = .pending ∨ d.status = .waiting) ∧
    d.currentWorkerHostname = ""

/-- The job has ended and nobody holds it. -/
def Db.Inactive (db : Db) (jobId : JobId) : Prop :=
  ∃ d ∈ db.digest? jobId, (d.status = .aborted ∨ d.status = .finished) ∧
    d.currentWorkerHostname = ""

def FocusTakes (db : Db) (request : JobFocusRequest) (ts : TimeStamp) : Prop :=
  ∃ jobContext, (focusJob db request ts).2 = .ok ⟨.focused,jobContext⟩

/-- The job is out of the hands of its holder and at the stage that the update leads to. -/
def UpdateTakes (db : Db) (request : JobUpdateRequest) (ts : TimeStamp) : Prop :=
  ∃ d ∈ (updateJob db request ts).1.digest? request.jobId, d.status ≠ .inProgress ∧
    d.currentWorkerHostname = "" ∧ d.currentWorker = (updatePlan request).nextWorkerIndex

def RestartTakes (db : Db) (jobId : JobId) (restartFrom : ℤ) (ts : TimeStamp) : Prop :=
  (restartJob db jobId restartFrom ts).2 = .ok ()

/-- The operations that the state allows take effect exactly when their reading is later than the
job's last change. -/
structure ClockDecides (db : Db) (ts : TimeStamp) : Prop where
  focus : ∀ request : JobFocusRequest, db.Open request.jobId →
    (FocusTakes db request ts ↔ db.Later request.jobId ts)
  update : ∀ request : JobUpdateRequest, db.Holds request →
    request.deliverable.yielded = false →
    (UpdateTakes db request ts ↔ db.Later request.jobId ts)
  restart : ∀ jobId restartFrom, db.Inactive jobId →
    (RestartTakes db jobId restartFrom ts ↔ db.Later jobId ts)

section Decides
variable {db : Db} {ts : TimeStamp}

lemma later_iff {jobId : JobId} {d : JobDigest} (hd : db.digest? jobId = some d) :
    db.Later jobId ts ↔ d.modifiedTime < ts := by
  simp [Db.Later,hd]

lemma focusTakes_iff {request : JobFocusRequest} (h : db.Open request.jobId) :
    FocusTakes db request ts ↔ db.Later request.jobId ts := by
  obtain ⟨d,hd,hs,hh⟩ := h
  have hrow : (db.focus request.jobId request.workerHostname ts).2 = 1 ↔ d.modifiedTime < ts := by
    rw [Db.focus_eq_one]
    constructor
    · rintro ⟨d',hd',hf⟩
      cases hd.symm.trans hd'
      exact hf.2.2.2
    · intro hlt
      exact ⟨d,hd,Db.digest?_jobId hd,hh,hs.symm,hlt⟩
  have hget : getJob (db.focus request.jobId request.workerHostname ts).1 request.jobId ≠ none := by
    have : (Statement.run db (.focus request.jobId request.workerHostname ts)).digest?
        request.jobId = some _ := Statement.digest?_run_of_some hd
    simp only [getJob,ne_eq,Option.map_eq_none_iff]
    exact fun hn => absurd (this.symm.trans hn) (by simp)
  obtain ⟨jobContext,hctx⟩ := Option.ne_none_iff_exists'.mp hget
  rw [later_iff hd,← hrow]
  unfold FocusTakes
  simp only [focusJob,hctx,focusReceipt,focusStatus]
  split <;> simp_all

lemma restartTakes_iff {jobId : JobId} {restartFrom : ℤ} (h : db.Inactive jobId) :
    RestartTakes db jobId restartFrom ts ↔ db.Later jobId ts := by
  obtain ⟨d,hd,hs,hh⟩ := h
  have hrow : (db.restart jobId restartFrom ts).2 = 1 ↔ d.modifiedTime < ts := by
    rw [Db.restart_eq_one]
    constructor
    · rintro ⟨d',hd',hf⟩
      cases hd.symm.trans hd'
      exact hf.2.2.2
    · intro hlt
      exact ⟨d,hd,Db.digest?_jobId hd,hh,hs,hlt⟩
  rw [later_iff hd,← hrow]
  unfold RestartTakes
  simp only [restartJob]
  split <;> simp_all

/-- The digest of the job after a result that is no yield. -/
lemma digest?_updateJob (ts : TimeStamp) {request : JobUpdateRequest} {d : JobDigest}
    (hd : db.digest? request.jobId = some d) (hy : request.deliverable.yielded = false) :
    ∃ finished : Bool, (finished = true → request.deliverable.succeeded = true) ∧
      (updateJob db request ts).1.digest? request.jobId =
        some (if finished then
          { (Statement.release request ts).row d with status := .finished }
          else (Statement.release request ts).row d) := by
  have hrel : (released db request ts).digest? request.jobId =
      some ((Statement.release request ts).row d) :=
    @Statement.digest?_run_of_some (.release request ts)
      (db.writeResult request.jobId request.workerIndex request.deliverable) _ _ hd
  cases hs : request.deliverable.succeeded with
  | false =>
    refine ⟨false,by simp,?_⟩
    rw [updateJob_of_failed hy hs,hrel]
    rfl
  | true =>
    cases hn : (released db request ts).selectWorkerType request.jobId
        (request.workerIndex+1) with
    | none =>
      refine ⟨true,by simp,?_⟩
      rw [updateJob_of_last hs hn,digest?_finish,hrel]
      rfl
    | some nextType =>
      refine ⟨false,by simp,?_⟩
      rw [updateJob_of_next hs hn,hrel]
      rfl

lemma updateTakes_iff {request : JobUpdateRequest} (h : db.Holds request)
    (hy : request.deliverable.yielded = false) :
    UpdateTakes db request ts ↔ db.Later request.jobId ts := by
  obtain ⟨d,hd,hs,hh,hw⟩ := h
  obtain ⟨finished,hfin,hdig⟩ := digest?_updateJob ts hd hy
  rw [later_iff hd]
  unfold UpdateTakes
  rw [hdig]
  by_cases hlt : d.modifiedTime < ts
  · have hrel : Db.Releasable request ts d := ⟨Db.digest?_jobId hd,hs,hh,hw,hlt⟩
    cases finished <;>
      simp [Statement.row,hrel,Db.releaseRow,hlt,updatePlan_status_ne request]
  · have hrel : ¬Db.Releasable request ts d := fun hr => hlt hr.2.2.2.2
    simp only [hlt,iff_false,Statement.row,hrel,if_false]
    rintro ⟨d',hd',hs',-,hw'⟩
    cases finished with
    | false =>
      cases hd'
      exact hs' hs
    | true =>
      cases hd'
      rw [updatePlan_of_succeeded (hfin rfl)] at hw'
      have hnext : request.workerIndex = request.workerIndex+1 := hw.symm.trans hw'
      omega

theorem clockDecides (db : Db) (ts : TimeStamp) : ClockDecides db ts where
  focus _ h := focusTakes_iff h
  update _ h hy := updateTakes_iff h hy
  restart _ _ h := restartTakes_iff h

end Decides

/-- In every state, focus, update and restart take effect exactly when their reading is later than
the job's last change; where the scheduler's readings strictly increase, its next reading is. -/
theorem clock_decides_locks :
    (∀ db ts, ClockDecides db ts) ∧
      ∀ fleet s, (system fleet).ReachableBy StrictClock s → ∀ ts, s.clock < ts →
        ∀ jobId, s.db.Later jobId ts := by
  refine ⟨clockDecides,?_⟩
  intro fleet s hs ts hts jobId d hd
  exact lt_of_le_of_lt ((timely_of_strict hs).db jobId d hd) hts

instance (db : Db) (jobId : JobId) : Decidable (db.Open jobId) :=
  inferInstanceAs (Decidable (∃ d ∈ db.digest? jobId, _))

/-- A worker that asks for a new job within one tick of the clock is turned away. -/
theorem equal_reading_rejects :
    ∃ s, (system builders).Reachable s ∧ s.db.Open 1 ∧ ¬FocusTakes s.db ⟨1,"builder-0"⟩ 1 := by
  obtain ⟨s,hs,hp⟩ := Machine.exists_of_replay (system builders) (fun _ _ => True)
    (Event.serveNewJob 0 buildRequest 1)
    (fun s => s.db.Open 1 ∧ (s.db.focus 1 "builder-0" 1).2 = 0) rfl (by decide)
  obtain ⟨ho,hz⟩ := of_decide_eq_true hp
  refine ⟨s,hs,ho,?_⟩
  rintro ⟨jobContext,hf⟩
  simp only [focusJob,hz,focusStatus] at hf
  cases hg : getJob (s.db.focus 1 "builder-0" 1).1 1 with
  | none => simp [hg,focusReceipt] at hf
  | some c => simp [hg,focusReceipt] at hf

end LiveKBench.KScheduler
