import LiveKBench.KScheduler.Fates
import LiveKBench.KScheduler.MutualExclusion

/-! Who answers for a job in progress: a worker of the host that the digest names, which is between
its focus and its update of the job, or whose update is on its way to the release. An exception
that leaves `_on_dispatch` before the update request is out ends this, and the message that goes
back to its queue does not bring it back. -/
namespace LiveKBench.KScheduler
open KCore Lib Backend

/-- Where the responsibility for a job can be: a worker, the queue of update requests, an update
operation. -/
inductive Place
  | worker (w : ℕ)
  | waiting (call : UpdateCall)
  | updating (i : ℕ)
  deriving DecidableEq

/-- Worker `w` answers for the job at the place. -/
inductive State.Responsible (s : State) : Place → ℕ → JobId → Prop
  | focusing {w jobId c} (handles : s.handling w = some ⟨jobId,.focusing c⟩) :
      s.Responsible (.worker w) w jobId
  | running {w jobId jobContext} (handles : s.handling w = some ⟨jobId,.running jobContext⟩) :
      s.Responsible (.worker w) w jobId
  | waiting {call} (ready : call ∈ s.updateCalls.ready) :
      s.Responsible (.waiting call) call.caller call.argument.jobId
  | updating {i call pc} (delivered : (i,call) ∈ s.updateCalls.unacked)
      (handles : s.operations i = some (.update call pc)) (pending : pc.beforeRelease = true) :
      s.Responsible (.updating i) call.caller call.argument.jobId

/-- The job is in progress on the host. -/
def Db.InProgressOn (db : Db) (jobId : JobId) (hostname : String) : Prop :=
  ∃ d ∈ db.digest? jobId, d.status = .inProgress ∧ d.currentWorkerHostname = hostname

instance (db : Db) (jobId : JobId) (hostname : String) :
    Decidable (db.InProgressOn jobId hostname) :=
  inferInstanceAs (Decidable (∃ d ∈ db.digest? jobId, _))

/-- Whether the worker that sent the request waits for its receipt. -/
def State.awaits (s : State) (call : FocusCall) : Bool :=
  match s.handling call.caller with
  | some ⟨_,.focusing c⟩ => c = call.correlationId
  | _ => false

/-- The place that an event ends without passing the job on: an exception in `_on_dispatch`, a
rejection, or the release. -/
def State.leaves (s : State) : Event → Option Place
  | .raise w => some (.worker w)
  | .advance i _ =>
    match s.operations i with
    | some (.focus call (.reply receipt)) =>
      if receipt.status = .rejected ∧ s.awaits call = true then some (.worker call.caller)
      else none
    | some (.update _ (.release _)) => some (.updating i)
    | _ => none
  | _ => none

/-- The event is a release that takes effect on the job. -/
def Releases (s : State) (e : Event) (jobId : JobId) : Prop :=
  ∃ i ts call t d, e = .advance i ts ∧ s.operations i = some (.update call (.release t)) ∧
    s.db.digest? jobId = some d ∧ Db.Releasable call.argument t d

/-- A step leaves no job behind. A place that ends for a job in progress on its worker's host has
released the job, or a worker of the host answers for the job elsewhere; and a focus that takes
effect has a worker of its host that answers for the job. -/
structure Accounted (fleet : Fleet) (s : State) (e : Event) : Prop where
  leaving : ∀ place w jobId, s.leaves e = some place → s.Responsible place w jobId →
    s.db.InProgressOn jobId (fleet w).hostname → Releases s e jobId ∨
      ∃ place' v, place' ≠ place ∧ (fleet v).hostname = (fleet w).hostname ∧
        s.Responsible place' v jobId
  taking : ∀ i ts call t d, e = .advance i ts → s.operations i = some (.focus call (.write t)) →
    s.db.digest? call.argument.jobId = some d → Db.Focusable call.argument.jobId t d →
      ∃ place v, (fleet v).hostname = call.argument.workerHostname ∧
        s.Responsible place v call.argument.jobId

/-- Every job in progress has a worker on its host that answers for it. -/
def Answered (fleet : Fleet) (s : State) : Prop :=
  ∀ jobId hostname, s.db.InProgressOn jobId hostname →
    ∃ place w, (fleet w).hostname = hostname ∧ s.Responsible place w jobId

section Step
variable {fleet : Fleet} {s u : State} {e : Event}

lemma beforeRelease_start (request : JobUpdateRequest) (ts : TimeStamp) :
    (UpdatePc.start request ts).beforeRelease = true := by
  unfold UpdatePc.start
  split <;> rfl

lemma State.awaits_of_handling {call : FocusCall} {jobId : JobId}
    (h : s.handling call.caller = some ⟨jobId,.focusing call.correlationId⟩) :
    s.awaits call = true := by
  simp [State.awaits,h]

/-- A worker that answers for a job goes on doing so, at the same place or at the next, unless the
event ends the place. -/
theorem responsible_fate (hu : Wired fleet u) (hm : Move fleet s e u) {place : Place} {w : ℕ}
    {jobId : JobId} (h : s.Responsible place w jobId) :
    (∃ place', u.Responsible place' w jobId) ∨ s.leaves e = some place := by
  cases h with
  | focusing handles =>
    have hf := hm.handling_fate handles
    generalize hh : (⟨jobId,.focusing _⟩ : Handling) = hd at hf
    cases hf with
    | kept after =>
      subst hh
      exact .inl ⟨_,.focusing after⟩
    | focused running status caller after =>
      cases hh
      exact .inl ⟨_,.running after⟩
    | ended ends =>
      obtain ⟨i,ts,rfl,⟨call,receipt,j,hop,hs,rfl,hw⟩ | ⟨call,j,hop,rfl,hw⟩⟩ := ends
      · right
        simp [State.leaves,hop,hs,State.awaits_of_handling hw]
      · cases handles.symm.trans hw
    | raised => exact .inr rfl
    | requested | reported => cases hh
  | running handles =>
    have hf := hm.handling_fate handles
    generalize hh : (⟨jobId,.running _⟩ : Handling) = hd at hf
    cases hf with
    | kept after =>
      subst hh
      exact .inl ⟨_,.running after⟩
    | reported sent =>
      cases hh
      exact .inl ⟨_,.waiting sent⟩
    | ended ends =>
      obtain ⟨i,ts,rfl,⟨call,receipt,j,hop,hs,rfl,hw⟩ | ⟨call,j,hop,rfl,hw⟩⟩ := ends <;>
        cases handles.symm.trans hw
    | raised => exact .inr rfl
    | requested | focused => cases hh
  | @waiting call ready =>
    rcases hm.updateReady_fate ready with hr | ⟨i,ts,-,hd,hop⟩
    · exact .inl ⟨_,.waiting hr⟩
    · exact .inl ⟨_,.updating hd hop (beforeRelease_start _ _)⟩
  | @updating i call pc delivered handles pending =>
    have hpc : pc ≠ .reply := by
      rintro rfl
      cases pending
    rcases hm.updateUnacked_fate delivered handles hpc with hd | hr
    · obtain ⟨pc',hop⟩ := hu.updateUnacked i call hd
      rcases hm.operation_origin hop with ⟨hop',-⟩ | ⟨ts,op₀,o,rfl,hop₀,hp,hn⟩ | ⟨-,hfree⟩
      · cases handles.symm.trans hop'
        exact .inl ⟨_,.updating hd hop pending⟩
      · cases handles.symm.trans hop₀
        cases hp with
        | updateResult =>
          cases hn
          exact .inl ⟨_,.updating hd hop rfl⟩
        | updateRelease =>
          right
          simp [State.leaves,handles]
        | updateUnbound => cases hn
        | _ => cases pending
      · exact absurd (handles.symm.trans hfree) (by simp)
    · exact .inl ⟨_,.waiting hr⟩

/-- A digest that is in progress after a statement was so before, or the statement is the focus
that made it so. -/
lemma row_inProgress {st : Statement} {d : JobDigest} (h : (st.row d).status = .inProgress) :
    st.row d = d ∨ ∃ jobId hostname ts, st = .focus jobId hostname ts ∧
      Db.Focusable jobId ts d := by
  rcases st.row_cases d with hrow | hc
  · exact .inl hrow
  · generalize st.row d = d' at hc h
    cases hc with
    | focus takes => exact .inr ⟨_,_,_,rfl,takes⟩
    | @release request => exact absurd h (updatePlan_status_ne request)
    | restart | finish | abort => cases h

/-- The release gives the job out of its worker's hands. -/
lemma not_inProgressOn_of_releases {jobId : JobId} {hostname : String}
    (h : Releases s e jobId) : ¬(s.write e).InProgressOn jobId hostname := by
  obtain ⟨i,ts,call,t,d,rfl,hop,hd,hr⟩ := h
  rintro ⟨d',hd',hs,-⟩
  rw [State.write_advance hop] at hd'
  have hrow :=
    (@Statement.digest?_run_of_some (.release call.argument t) _ _ _ hd).symm.trans hd'
  obtain rfl := Option.some.inj hrow
  simp only [Statement.row,if_pos hr,Db.releaseRow] at hs
  exact updatePlan_status_ne call.argument hs

/-- A job that was in progress on the host and still is has somebody who answers for it. -/
lemma responsible_of_inProgressOn (hu : Wired fleet u) (hm : Move fleet s e u)
    (hi : Answered fleet s) (hc : Accounted fleet s e) {jobId : JobId} {hostname : String}
    (hs : s.db.InProgressOn jobId hostname) (hw : (s.write e).InProgressOn jobId hostname) :
    ∃ place w, (fleet w).hostname = hostname ∧ u.Responsible place w jobId := by
  obtain ⟨place,w,hh,hr⟩ := hi jobId hostname hs
  rcases responsible_fate hu hm hr with ⟨place',hr'⟩ | hl
  · exact ⟨place',w,hh,hr'⟩
  · rcases hc.leaving place w jobId hl hr (hh ▸ hs) with hrel | ⟨place',v,hne,hv,hr'⟩
    · exact absurd hw (not_inProgressOn_of_releases hrel)
    · -- The event ends one place only.
      rcases responsible_fate hu hm hr' with ⟨place'',hr''⟩ | hl'
      · exact ⟨place'',v,hv.trans hh,hr''⟩
      · exact absurd (Option.some.inj (hl'.symm.trans hl)) hne

theorem Answered.step (hi : Answered fleet s) (hu : Wired fleet u) (hc : Accounted fleet s e)
    (hm : Move fleet s e u) : Answered fleet u := by
  intro jobId hostname h
  rcases hm.writes with ⟨graceful,ts,-,hdb,-⟩ | ⟨hdb,-⟩
  · -- A new process has no job in progress.
    obtain ⟨d,hd,hs,-⟩ := h
    rw [hdb] at hd
    exact absurd (.inl hs) (not_leftOver_abortLeftOver hd)
  · rw [hdb] at h
    have hkept := @responsible_of_inProgressOn _ _ _ _ hu hm hi hc jobId hostname
    obtain ⟨d,hd,hs,hh⟩ := h
    rcases s.write_cases e with hw | ⟨st,hst,hw⟩
    · exact hkept ⟨d,hw ▸ hd,hs,hh⟩ ⟨d,hd,hs,hh⟩
    · have hrun := hd
      rw [hw] at hrun
      rcases Statement.digest?_run hrun with ⟨d₀,hd₀,rfl⟩ | ⟨ts,-,-,rfl⟩
      · rcases row_inProgress hs with hrow | ⟨j,host,ts,rfl,hf⟩
        · rw [hrow] at hs hh
          exact hkept ⟨d₀,hd₀,hs,hh⟩ ⟨_,hd,hrow.symm ▸ hs,hrow.symm ▸ hh⟩
        · obtain ⟨i,ts',op,rfl,hop,hst⟩ := State.statement_eq_some hst
          obtain ⟨call,rfl,rfl,rfl⟩ := Operation.of_focus hst
          obtain rfl : call.argument.jobId = jobId := hf.1.symm.trans (Db.digest?_jobId hd₀)
          obtain ⟨place,v,hv,hr⟩ := hc.taking i ts' call ts d₀ rfl hop hd₀ hf
          simp only [Statement.row,if_pos hf,Db.focusRow] at hh
          rcases responsible_fate hu hm hr with ⟨place',hr'⟩ | hl
          · exact ⟨place',v,hv.trans hh,hr'⟩
          · simp [State.leaves,hop] at hl
      · cases hs

end Step

theorem answered {fleet : Fleet} {s : State} (h : (system fleet).ReachableBy (Accounted fleet) s) :
    Answered fleet s := by
  refine h.invariant ?_ ?_
  · rintro s rfl jobId hostname ⟨d,hd,-⟩
    cases hd
  · rintro s e s' hs hi hc hstep
    obtain ⟨u,hm,rfl⟩ := Move.of_step hstep
    intro jobId hostname hd
    obtain ⟨place,w,hh,hr⟩ := hi.step ((wired hs).step hm) hc hm jobId hostname hd
    refine ⟨place,w,hh,?_⟩
    cases hr with
    | focusing handles => exact .focusing handles
    | running handles => exact .running handles
    | waiting ready => exact .waiting ready
    | updating delivered handles pending => exact .updating delivered handles pending

/-- Where every step is accounted for, a job in progress has a worker on its host that handles it
or whose update is in flight, and that worker can answer an abort request for the job. -/
theorem in_progress_answered_for {fleet : Fleet} {s : State}
    (h : (system fleet).ReachableBy (Accounted fleet) s) {jobId : JobId} {d : JobDigest}
    (hd : s.db.digest? jobId = some d) (hs : d.status = .inProgress) :
    ∃ place w, (fleet w).hostname = d.currentWorkerHostname ∧ s.Responsible place w jobId ∧
      ∀ call ∈ s.abortCalls, call.hostname = d.currentWorkerHostname →
        (s.effect fleet (.answerAbort w call)).isSome := by
  obtain ⟨place,w,hh,hr⟩ := answered h jobId d.currentWorkerHostname ⟨d,hd,hs,rfl⟩
  refine ⟨place,w,hh,hr,?_⟩
  intro call hcall hhost
  have hguard : call ∈ s.abortCalls ∧ call.hostname = (fleet w).hostname :=
    ⟨hcall,hhost.trans hh.symm⟩
  simp only [State.effect,if_pos hguard]
  split <;> rfl

/-- No place ends, and whoever asks for a job waits for its receipt. -/
def Undisturbed (fleet : Fleet) (s : State) (e : Event) : Prop :=
  s.leaves e = none ∧
    match s.advancing e with
    | some (.focus call (.write _)) => call.argument.workerHostname = (fleet call.caller).hostname ∧
        s.handling call.caller = some ⟨call.argument.jobId,.focusing call.correlationId⟩
    | _ => True

instance (fleet : Fleet) (s : State) (e : Event) : Decidable (Undisturbed fleet s e) := by
  unfold Undisturbed
  have : ∀ o : Option Operation, Decidable (match o with
      | some (.focus call (.write _)) =>
        call.argument.workerHostname = (fleet call.caller).hostname ∧
          s.handling call.caller = some ⟨call.argument.jobId,.focusing call.correlationId⟩
      | _ => True) := by
    intro o
    split <;> infer_instance
  infer_instance

lemma accounted_of_undisturbed {fleet : Fleet} (s : State) (e : Event)
    (h : Undisturbed fleet s e) : Accounted fleet s e := by
  constructor
  · intro place w jobId hl
    exact absurd (hl.symm.trans h.1) (by simp)
  · rintro i ts call t d rfl hop - -
    have hw := h.2
    simp only [State.advancing,hop] at hw
    exact ⟨_,call.caller,hw.1.symm,.focusing hw.2⟩

theorem in_progress_answered_for_first_builder :
    ∃ s, (system builders).ReachableBy (Accounted builders) s ∧
      ∃ d, s.db.digest? 1 = some d ∧ d.status = .inProgress ∧
        ∃ place w, (builders w).hostname = d.currentWorkerHostname ∧ s.Responsible place w 1 := by
  obtain ⟨s,hs,hp⟩ := Machine.exists_of_replay (system builders) (Undisturbed builders)
    firstBuilderRuns (fun s => s.db.InProgressOn 1 "builder-0") rfl (by decide)
  obtain ⟨d,hd,hi,-⟩ := of_decide_eq_true hp
  have hr := hs.mono accounted_of_undisturbed
  obtain ⟨place,w,hh,hw,-⟩ := in_progress_answered_for hr hd hi
  exact ⟨s,hr,d,hd,hi,place,w,hh,hw⟩

/-! ## An exception after the focus -/

/-- The storage backend of the first builder cannot be created. Its message is delivered again, the
focus is rejected, and the message is dropped. -/
def storageRaises : List Event :=
  firstBuilderRuns ++ [.raise 0,.deliver 0 (buildDispatch 1)] ++
  Event.serveFocus 0 0 1 ⟨1,"builder-0"⟩ 3

/-- The job is in progress on the first builder, which no longer knows it; nothing is left that
would report on it. -/
theorem raise_orphans_job :
    ∃ s, (system builders).Reachable s ∧ s.db.InProgressOn 1 "builder-0" ∧
      ¬∃ place w, (builders w).hostname = "builder-0" ∧ s.Responsible place w 1 := by
  obtain ⟨s,hs,hp⟩ := Machine.exists_of_replay (system builders) (fun _ _ => True) storageRaises
    (fun s => s.db.InProgressOn 1 "builder-0" ∧ s.handling 0 = none ∧
      s.updateCalls.ready = [] ∧ s.updateCalls.unacked = []) rfl (by decide)
  obtain ⟨hi,hh,hr,hu⟩ := of_decide_eq_true hp
  have hnobody : ∀ {place w jobId}, s.Responsible place w jobId → w ≠ 0 := by
    rintro place w jobId (handles | handles | ready | delivered)
    · rintro rfl
      exact absurd (hh.symm.trans handles) (by simp)
    · rintro rfl
      exact absurd (hh.symm.trans handles) (by simp)
    · simp [hr] at ready
    · simp [hu] at delivered
  refine ⟨s,hs,hi,?_⟩
  rintro ⟨place,w,hw,h⟩
  simp only [builders,if_neg (hnobody h)] at hw
  split at hw <;> exact absurd hw (by decide)

end LiveKBench.KScheduler
