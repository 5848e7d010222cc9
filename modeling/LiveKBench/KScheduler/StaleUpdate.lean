import LiveKBench.KScheduler.Writes

/-! Updates that do not come from the holder of the job, and the holder's yield. Of the writing
statements of `update_job` only the release looks at the holder; the result is stored, and the job
is finished, by job id alone. -/
namespace LiveKBench.KScheduler
open KCore Lib Backend

/-- The job is in progress at the stage and the host that the request names. -/
def Db.Holds (db : Db) (request : JobUpdateRequest) : Prop :=
  ∃ d ∈ db.digest? request.jobId, d.status = .inProgress ∧
    d.currentWorkerHostname = request.workerHostname ∧ d.currentWorker = request.workerIndex

instance (db : Db) (request : JobUpdateRequest) : Decidable (db.Holds request) :=
  inferInstanceAs (Decidable (∃ d ∈ db.digest? request.jobId, _))

/-- `update_job` leaves the job as it is and publishes nothing. -/
structure IsNoOp (db : Db) (request : JobUpdateRequest) (ts : TimeStamp) : Prop where
  digest : (updateJob db request ts).1.digest? request.jobId = db.digest? request.jobId
  stages : ∀ k, (updateJob db request ts).1.worker? request.jobId k = db.worker? request.jobId k
  returnsNone : (updateJob db request ts).2 = .ok none
  publishesNothing : published (updateJob db request ts).2 = []

/-- The stage already stores the result that the request delivers, or there is no such stage. -/
def Db.Recorded (db : Db) (request : JobUpdateRequest) : Prop :=
  ∀ row ∈ db.worker? request.jobId request.workerIndex,
    row.workerResult = some request.deliverable

instance (db : Db) (request : JobUpdateRequest) : Decidable (db.Recorded request) :=
  inferInstanceAs (Decidable (∀ row ∈ db.worker? request.jobId request.workerIndex, _))

/-- The stage after the one that the request names does not exist, and the job has finished. -/
def Db.OverAfter (db : Db) (request : JobUpdateRequest) : Prop :=
  db.worker? request.jobId (request.workerIndex+1) = none ∧
    ∀ d ∈ db.digest? request.jobId, d.status = .finished

instance (db : Db) (request : JobUpdateRequest) : Decidable (db.OverAfter request) :=
  inferInstanceAs (Decidable (_ ∧ ∀ d ∈ db.digest? request.jobId, _))

section Stale
variable {db : Db} {request : JobUpdateRequest} {ts : TimeStamp}

/-- The guard of the release. -/
lemma digest?_release_of_stale (h : ¬db.Holds request) (status : JobStatus) (next : ℤ) :
    (db.release request status next ts).1.digest? request.jobId = db.digest? request.jobId := by
  have hu := Db.digest?_updateDigest db (fun d => decide (Db.Releasable request ts d))
    (Db.releaseRow status next ts) (fun _ => rfl) request.jobId
  change (db.updateDigest _ _ _).digest? _ = _
  rw [hu]
  cases hd : db.digest? request.jobId with
  | none => rfl
  | some d =>
    have hr : ¬Db.Releasable request ts d := by
      rintro ⟨_,hs,hh,hw,_⟩
      exact h ⟨d,hd,hs,hh,hw⟩
    simp [hr]

lemma digest?_finish (jobId : JobId) :
    (db.finish jobId).digest? jobId =
      (db.digest? jobId).map fun d => { d with status := .finished } := by
  have hu := Db.digest?_updateDigest db (fun d => decide (d.jobId = jobId))
    (fun d => { d with status := .finished }) (fun _ => rfl) jobId
  change (db.updateDigest _ _ _).digest? _ = _
  rw [hu]
  cases hd : db.digest? jobId with
  | none => rfl
  | some d => simp [Db.digest?_jobId hd]

lemma digest?_finish_eq_iff (jobId : JobId) :
    (db.finish jobId).digest? jobId = db.digest? jobId ↔
      ∀ d ∈ db.digest? jobId, d.status = .finished := by
  rw [digest?_finish]
  cases hd : db.digest? jobId with
  | none => simp
  | some d =>
    obtain ⟨i,c,m,status,h,w⟩ := d
    simp only [Option.map_some,Option.some.injEq,JobDigest.mk.injEq,Option.mem_def,
      forall_eq',true_and,and_true]
    exact eq_comm

lemma worker?_writeResult_eq_iff :
    (∀ k, (db.writeResult request.jobId request.workerIndex request.deliverable).worker?
      request.jobId k = db.worker? request.jobId k) ↔ db.Recorded request := by
  constructor
  · intro h row hrow
    have hk := h request.workerIndex
    rw [Db.worker?_writeResult,hrow] at hk
    obtain ⟨hj,hi⟩ := Db.worker?_key hrow
    simp only [Option.map_some,hj,hi,and_self,if_true] at hk
    exact (congrArg JobWorkerRow.workerResult (Option.some.inj hk)).symm
  · intro h k
    rw [Db.worker?_writeResult]
    cases hrow : db.worker? request.jobId k with
    | none => rfl
    | some row =>
      by_cases hm : row.jobId = request.jobId ∧ row.workerIndex = request.workerIndex
      · obtain ⟨-,hi⟩ := Db.worker?_key hrow
        have hk : k = request.workerIndex := hi.symm.trans hm.2
        subst hk
        have hr := h row hrow
        obtain ⟨j,i,t,a,r⟩ := row
        simp_all
      · simp [hm]

/-- The next stage's type is read from columns that no update changes. -/
lemma selectWorkerType_eq_none_iff (k : ℤ) :
    db.selectWorkerType request.jobId k = none ↔ db.worker? request.jobId k = none := by
  simp [Db.selectWorkerType]

lemma selectWorkerType_writeResult (k i : ℤ) (result : JobResult) (jobId : JobId) :
    (db.writeResult jobId i result).selectWorkerType request.jobId k =
      db.selectWorkerType request.jobId k := by
  simp only [Db.selectWorkerType,Db.worker?_writeResult,Option.map_map]
  congr 1
  funext row
  simp only [Function.comp]
  split <;> rfl

lemma selectWorkerType_released (k : ℤ) :
    (released db request ts).selectWorkerType request.jobId k =
      db.selectWorkerType request.jobId k :=
  selectWorkerType_writeResult k request.workerIndex request.deliverable request.jobId

lemma digest?_released_of_stale (h : ¬db.Holds request) :
    (released db request ts).digest? request.jobId = db.digest? request.jobId := by
  have hstale : ¬(db.writeResult request.jobId request.workerIndex request.deliverable).Holds
      request := h
  exact digest?_release_of_stale hstale _ _

/-- A failure writes its result. -/
lemma isNoOp_iff_of_failed (h : ¬db.Holds request) (hy : request.deliverable.yielded = false)
    (hs : request.deliverable.succeeded = false) : IsNoOp db request ts ↔ db.Recorded request := by
  have hu := updateJob_of_failed hy hs db ts
  constructor
  · intro hno
    have hst := hno.stages
    rw [hu] at hst
    exact worker?_writeResult_eq_iff.mp hst
  · intro hrec
    constructor
    · rw [hu]
      exact digest?_released_of_stale h
    · rw [hu]
      exact worker?_writeResult_eq_iff.mpr hrec
    · rw [hu]
    · rw [hu]
      rfl

/-- A success at the last stage also ends the job. -/
lemma isNoOp_iff_of_last (h : ¬db.Holds request) (hs : request.deliverable.succeeded = true)
    (hn : db.selectWorkerType request.jobId (request.workerIndex+1) = none) :
    IsNoOp db request ts ↔
      db.Recorded request ∧ ∀ d ∈ db.digest? request.jobId, d.status = .finished := by
  have hlast : (released db request ts).selectWorkerType request.jobId
      (request.workerIndex+1) = none := (selectWorkerType_released _).trans hn
  have hu := updateJob_of_last hs hlast
  have hfin : ((released db request ts).finish request.jobId).digest? request.jobId =
      db.digest? request.jobId ↔ ∀ d ∈ db.digest? request.jobId, d.status = .finished := by
    have hd : (released db request ts).digest? request.jobId = db.digest? request.jobId :=
      digest?_released_of_stale h
    rw [← hd]
    exact digest?_finish_eq_iff request.jobId
  constructor
  · intro hno
    have hdig := hno.digest
    have hst := hno.stages
    rw [hu] at hdig hst
    exact ⟨worker?_writeResult_eq_iff.mp hst,hfin.mp hdig⟩
  · rintro ⟨hrec,hover⟩
    constructor
    · rw [hu]
      exact hfin.mpr hover
    · rw [hu]
      exact worker?_writeResult_eq_iff.mpr hrec
    · rw [hu]
    · rw [hu]
      rfl

/-- A success at an earlier stage returns a dispatch. -/
lemma not_isNoOp_of_next (hs : request.deliverable.succeeded = true) {nextType : String}
    (hn : db.selectWorkerType request.jobId (request.workerIndex+1) = some nextType) :
    ¬IsNoOp db request ts := by
  intro hno
  have hret := hno.returnsNone
  rw [updateJob_of_next hs ((selectWorkerType_released _).trans hn)] at hret
  cases hret

/-- When an update that does not come from the holder is a no-op: it is no yield, its result is
stored already, and, if it is a success, it leads to no further stage of a job that is over. -/
theorem isNoOp_iff_of_stale (h : ¬db.Holds request) :
    IsNoOp db request ts ↔
      request.deliverable.yielded = false ∧ db.Recorded request ∧
        (request.deliverable.succeeded = true → db.OverAfter request) := by
  cases hy : request.deliverable.yielded with
  | true =>
    simp only [Bool.true_eq_false,false_and,iff_false]
    intro hno
    have hret := hno.returnsNone
    rw [updateJob_of_yielded hy db ts] at hret
    cases hret
  | false =>
    cases hs : request.deliverable.succeeded with
    | false => simp [isNoOp_iff_of_failed h hy hs]
    | true =>
      simp only [true_and,forall_const,Db.OverAfter,← selectWorkerType_eq_none_iff]
      cases hn : db.selectWorkerType request.jobId (request.workerIndex+1) with
      | none => simp [isNoOp_iff_of_last h hs hn]
      | some nextType => simp [not_isNoOp_of_next hs hn]

end Stale

/-! ## A stale update that is no no-op -/

/-- A job of one stage for the builders. -/
def buildRequest : JobRequest := ⟨[⟨"kbuilder",""⟩],[],by simp⟩

def buildDispatch (jobId : JobId) : Dispatch := ⟨"kbuilder",none,jobId⟩

def successOf (workerType : String) : JobResult := ⟨workerType,none,none,none,none⟩

def failureOf (workerType : String) : JobResult :=
  ⟨workerType,some ⟨"kbuilder.BuildFailure","",""⟩,none,none,none⟩

def yieldOf (workerType : String) : JobResult :=
  ⟨workerType,none,some ⟨workerYieldedExceptionCode,"TimeoutError",""⟩,none,none⟩

/-- Builders, each on a host of its own. -/
def builders : Fleet := fun w =>
  ⟨if w = 0 then "builder-0" else if w = 1 then "builder-1" else "builder-2","kbuilder",none⟩

/-- The update with which the first builder reports its success on job 1. -/
def firstUpdate : UpdateCall := ⟨0,1,⟨"builder-0","kbuilder",0,1,successOf "kbuilder"⟩⟩

/-- The first builder's update is processed, but the connection is lost before its
acknowledgement; the job is restarted and the second builder takes it. -/
def redeliveredAfterRestart : List Event :=
  Event.serveNewJob 0 buildRequest 1 ++ [.deliver 0 (buildDispatch 1)] ++
  Event.serveFocus 0 0 0 ⟨1,"builder-0"⟩ 2 ++ [.report 0 (successOf "kbuilder")] ++
  Event.serveUpdate 0 5 firstUpdate 3 ++ [.redeliverUpdate 0] ++ Event.advances 0 1 3 ++
  Event.serveRestart 0 1 0 4 ++ [.deliver 1 (buildDispatch 1)] ++
  Event.serveFocus 0 1 2 ⟨1,"builder-1"⟩ 5

/-- The rule at a failure that comes in for a job that waits for its first worker. -/
theorem isNoOp_iff_of_stale_pending :
    ¬(newJob .empty buildRequest 1).1.Holds ⟨"builder-0","kbuilder",0,1,failureOf "kbuilder"⟩ ∧
      (IsNoOp (newJob .empty buildRequest 1).1
          ⟨"builder-0","kbuilder",0,1,failureOf "kbuilder"⟩ 2 ↔
        (failureOf "kbuilder").yielded = false ∧
          (newJob .empty buildRequest 1).1.Recorded
            ⟨"builder-0","kbuilder",0,1,failureOf "kbuilder"⟩ ∧
          ((failureOf "kbuilder").succeeded = true →
            (newJob .empty buildRequest 1).1.OverAfter
              ⟨"builder-0","kbuilder",0,1,failureOf "kbuilder"⟩)) :=
  ⟨by decide,isNoOp_iff_of_stale (by decide)⟩

/-- Job 1 is held by the second builder when the first builder's update comes in again. -/
theorem stale_update_finishes_live_job :
    ∃ s, (system builders).Reachable s ∧ firstUpdate ∈ s.updateCalls.ready ∧
      ¬s.db.Holds firstUpdate.argument ∧ ¬IsNoOp s.db firstUpdate.argument 6 := by
  obtain ⟨s,hs,hp⟩ := Machine.exists_of_replay (system builders) (fun _ _ => True)
    redeliveredAfterRestart
    (fun s => firstUpdate ∈ s.updateCalls.ready ∧ ¬s.db.Holds firstUpdate.argument ∧
      (updateJob s.db firstUpdate.argument 6).1.digest? 1 ≠ s.db.digest? 1) rfl (by decide)
  obtain ⟨hr,hh,hd⟩ := of_decide_eq_true hp
  exact ⟨s,hs,hr,hh,fun hn => hd hn.digest⟩

/-! ## Yields -/

/-- `update_job` gives the job back to the queue of its stage. -/
structure GivesBack (db : Db) (request : JobUpdateRequest) (ts : TimeStamp) : Prop where
  returns : ∃ ret, (updateJob db request ts).2 = .ok ret
  waits : ∃ d, (updateJob db request ts).1.digest? request.jobId = some d ∧ d.status = .waiting ∧
    d.currentWorkerHostname = "" ∧ d.currentWorker = request.workerIndex
  stages : ∀ k, (updateJob db request ts).1.worker? request.jobId k = db.worker? request.jobId k
  publishes : ∀ row, db.worker? request.jobId request.workerIndex = some row →
    published (updateJob db request ts).2 =
      [⟨row.workerType,db.selectTag request.jobId exclQueueTag,request.jobId⟩]

/-- The holder's yield raises, changes nothing and publishes nothing, whatever the state. -/
theorem yield_never_gives_back {db : Db} {request : JobUpdateRequest} {ts : TimeStamp}
    (holds : db.Holds request) (yields : request.deliverable.yielded = true) :
    updateJob db request ts = (db,.error .unboundLocalError) ∧
      published (updateJob db request ts).2 = [] ∧ (updateJob db request ts).1.Holds request ∧
      ¬GivesBack db request ts := by
  have hu := updateJob_of_yielded yields db ts
  rw [hu]
  refine ⟨rfl,rfl,holds,?_⟩
  intro h
  obtain ⟨ret,hret⟩ := h.returns
  rw [hu] at hret
  cases hret

def yieldRequest : JobUpdateRequest := ⟨"builder-0","kbuilder",0,1,yieldOf "kbuilder"⟩

/-- Job 1, a build, in the hands of the first builder. -/
def focusedBuild : Db := (focusJob (newJob .empty buildRequest 1).1 ⟨1,"builder-0"⟩ 2).1

theorem yield_never_gives_back_focused :
    updateJob focusedBuild yieldRequest 3 = (focusedBuild,.error .unboundLocalError) ∧
      ¬GivesBack focusedBuild yieldRequest 3 :=
  have h := @yield_never_gives_back focusedBuild yieldRequest 3 (by decide) (by decide)
  ⟨h.1,h.2.2.2⟩

/-- A builder takes a job and yields it. -/
theorem yield_raises :
    ∃ s, (system builders).Reachable s ∧ s.db.Holds yieldRequest ∧
      yieldRequest.deliverable.yielded = true ∧ ¬GivesBack s.db yieldRequest 3 := by
  obtain ⟨s,hs,hp⟩ := Machine.exists_of_replay (system builders) (fun _ _ => True)
    (Event.serveNewJob 0 buildRequest 1 ++ [.deliver 0 (buildDispatch 1)] ++
      Event.serveFocus 0 0 0 ⟨1,"builder-0"⟩ 2)
    (fun s => s.db.Holds yieldRequest) rfl (by decide)
  refine ⟨s,hs,of_decide_eq_true hp,by decide,?_⟩
  intro h
  obtain ⟨ret,hret⟩ := h.returns
  rw [updateJob_of_yielded (by decide)] at hret
  cases hret

end LiveKBench.KScheduler
