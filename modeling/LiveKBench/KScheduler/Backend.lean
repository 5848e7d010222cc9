import LiveKBench.KScheduler.Database

/-! The operations of `SchedulerBackend`, each run from its first statement to its last with no
other operation in between. Where operations interleave, `KScheduler.Operation` runs the same
statements one at a time. -/
namespace LiveKBench.KScheduler
open KCore

/-- A message to the workers of one type: its routing key names the queue, its body the job. -/
structure Dispatch where
  workerType : String
  exclQueue : Option String
  jobId : JobId
  deriving DecidableEq, Repr

/-- The routing key that `enqueue_job` builds. -/
def Dispatch.routingKey (m : Dispatch) : String :=
  match m.exclQueue with
  | none => m.workerType
  | some queue => m.workerType ++ "." ++ queue

def exclQueueTag : String := "excl-queue"

def JobDigest.context (d : JobDigest) (jobWorkers : List JobWorker)
    (tags : List (String × String)) : JobContext :=
  { jobId := d.jobId, createdTime := d.createdTime, modifiedTime := d.modifiedTime,
    status := d.status, currentWorkerHostname := d.currentWorkerHostname,
    currentWorker := d.currentWorker, jobWorkers, tags }

namespace Backend

def getJob (db : Db) (jobId : JobId) : Option JobContext :=
  (db.digest? jobId).map fun d => d.context (db.selectWorkers jobId) (db.selectTags jobId)

/-- The receipt of `focus_job`; without a context it does not validate. -/
def focusReceipt (status : JobFocusStatus) : Option JobContext → Except PyError JobFocusReceipt
  | some jobContext => .ok ⟨status,jobContext⟩
  | none => .error .validationError

def focusStatus (rowcount : ℕ) : JobFocusStatus :=
  if rowcount = 1 then .focused else .rejected

def focusJob (db : Db) (request : JobFocusRequest) (ts : TimeStamp) :
    Db × Except PyError JobFocusReceipt :=
  let (db,rowcount) := db.focus request.jobId request.workerHostname ts
  (db,focusReceipt (focusStatus rowcount) (getJob db request.jobId))

def restartJob (db : Db) (jobId : JobId) (restartFrom : ℤ) (ts : TimeStamp) :
    Db × Except PyError Unit :=
  let (db,rowcount) := db.restart jobId restartFrom ts
  (db,if rowcount = 1 then .ok () else .error (.httpException 400 "Failed to restart job"))

def newJob (db : Db) (request : JobRequest) (ts : TimeStamp) : Db × Except PyError JobId :=
  let (db,jobId) := db.insertDigest ts
  let (db,ok) := db.insertWorkers jobId request.jobWorkers
  if ok then
    let (db,ok) := db.insertTags jobId request.tags
    (db,if ok then .ok jobId else .error .integrityError)
  else (db,.error .integrityError)

/-- What `update_job` decides before its first statement. -/
structure UpdatePlan where
  yielded : Bool
  status : JobStatus
  nextAvailable : Bool
  nextWorkerIndex : ℤ
  deriving DecidableEq, Repr

def updatePlan (request : JobUpdateRequest) : UpdatePlan :=
  match request.deliverable.workerException with
  | some e =>
    if e.code == workerYieldedExceptionCode then ⟨true,.waiting,true,request.workerIndex⟩
    else ⟨false,.aborted,false,request.workerIndex⟩
  | none =>
    match request.deliverable.jobException with
    | none => ⟨false,.waiting,true,request.workerIndex+1⟩
    | some _ => ⟨false,.aborted,false,request.workerIndex⟩

/-- `ts` is assigned on the path of a result that is stored and on no other, so the path of a
yield reads an unbound local variable before its first statement. -/
def updateJob (db : Db) (request : JobUpdateRequest) (ts : TimeStamp) :
    Db × Except PyError (Option Dispatch) :=
  let plan := updatePlan request
  if plan.yielded then (db,.error .unboundLocalError)
  else
    let db := db.writeResult request.jobId request.workerIndex request.deliverable
    let (db,_) := db.release request plan.status plan.nextWorkerIndex ts
    if plan.nextAvailable then
      match db.selectWorkerType request.jobId plan.nextWorkerIndex with
      | none => (db.finish request.jobId,.ok none)
      | some nextType =>
        (db,.ok (some ⟨nextType,db.selectTag request.jobId exclQueueTag,request.jobId⟩))
    else (db,.ok none)

def abortJob (db : Db) (jobId : JobId) : Db × Bool :=
  let (db,rowcount) := db.abort jobId
  (db,rowcount = 1)

def shutdownLeftOverJobs (db : Db) (ts : TimeStamp) : Db := db.abortLeftOver ts

/-! ## Specifications -/

section Plan
variable {request : JobUpdateRequest}

theorem updatePlan_of_yielded (h : request.deliverable.yielded = true) :
    updatePlan request = ⟨true,.waiting,true,request.workerIndex⟩ := by
  unfold JobResult.yielded at h
  cases he : request.deliverable.workerException with
  | none => simp [he] at h
  | some e => simp_all [updatePlan]

theorem updatePlan_of_succeeded (h : request.deliverable.succeeded = true) :
    updatePlan request = ⟨false,.waiting,true,request.workerIndex+1⟩ := by
  simp only [JobResult.succeeded,Bool.and_eq_true,Option.isNone_iff_eq_none] at h
  simp [updatePlan,h.1,h.2]

theorem updatePlan_of_failed (hy : request.deliverable.yielded = false)
    (hs : request.deliverable.succeeded = false) :
    updatePlan request = ⟨false,.aborted,false,request.workerIndex⟩ := by
  unfold JobResult.yielded at hy
  cases he : request.deliverable.workerException with
  | some e => simp_all [updatePlan]
  | none =>
    cases hj : request.deliverable.jobException with
    | none => simp [JobResult.succeeded,he,hj] at hs
    | some _ => simp [updatePlan,he,hj]

/-- A result is a yield, a success or a failure, and no two of these. -/
theorem updatePlan_cases (request : JobUpdateRequest) :
    (request.deliverable.yielded = true ∧
      updatePlan request = ⟨true,.waiting,true,request.workerIndex⟩) ∨
    (request.deliverable.yielded = false ∧ request.deliverable.succeeded = true ∧
      updatePlan request = ⟨false,.waiting,true,request.workerIndex+1⟩) ∨
    (request.deliverable.yielded = false ∧ request.deliverable.succeeded = false ∧
      updatePlan request = ⟨false,.aborted,false,request.workerIndex⟩) := by
  cases hy : request.deliverable.yielded with
  | true => exact .inl ⟨rfl,updatePlan_of_yielded hy⟩
  | false =>
    cases hs : request.deliverable.succeeded with
    | true => exact .inr (.inl ⟨rfl,rfl,updatePlan_of_succeeded hs⟩)
    | false => exact .inr (.inr ⟨rfl,rfl,updatePlan_of_failed hy hs⟩)

/-- The plan of an update puts the job out of progress. -/
lemma updatePlan_status_ne (request : JobUpdateRequest) :
    (updatePlan request).status ≠ .inProgress := by
  rcases updatePlan_cases request with ⟨-,hp⟩ | ⟨-,-,hp⟩ | ⟨-,-,hp⟩ <;> simp [hp]

end Plan

/-- The database that an update which is no yield leaves after its release. -/
def released (db : Db) (request : JobUpdateRequest) (ts : TimeStamp) : Db :=
  ((db.writeResult request.jobId request.workerIndex request.deliverable).release request
    (updatePlan request).status (updatePlan request).nextWorkerIndex ts).1

theorem updateJob_of_failed {request : JobUpdateRequest}
    (hy : request.deliverable.yielded = false) (hs : request.deliverable.succeeded = false)
    (db : Db) (ts : TimeStamp) : updateJob db request ts = (released db request ts,.ok none) := by
  simp [updateJob,released,updatePlan_of_failed hy hs]

theorem updateJob_of_last {request : JobUpdateRequest} (hs : request.deliverable.succeeded = true)
    {db : Db} {ts : TimeStamp} (hn : (released db request ts).selectWorkerType request.jobId
      (request.workerIndex+1) = none) :
    updateJob db request ts = ((released db request ts).finish request.jobId,.ok none) := by
  simp only [released,updatePlan_of_succeeded hs] at hn
  simp [updateJob,released,updatePlan_of_succeeded hs,hn]

theorem updateJob_of_next {request : JobUpdateRequest} (hs : request.deliverable.succeeded = true)
    {db : Db} {ts : TimeStamp} {nextType : String}
    (hn : (released db request ts).selectWorkerType request.jobId (request.workerIndex+1) =
      some nextType) :
    updateJob db request ts = (released db request ts,.ok (some
      ⟨nextType,(released db request ts).selectTag request.jobId exclQueueTag,request.jobId⟩)) := by
  simp only [released,updatePlan_of_succeeded hs] at hn
  simp [updateJob,released,updatePlan_of_succeeded hs,hn]

theorem updateJob_of_yielded {request : JobUpdateRequest}
    (h : request.deliverable.yielded = true) (db : Db) (ts : TimeStamp) :
    updateJob db request ts = (db,.error .unboundLocalError) := by
  simp [updateJob,updatePlan_of_yielded h]

end Backend

/-- What `SchedulerServer.update_job` publishes for a value of the backend's `update_job`. -/
def published : Except PyError (Option Dispatch) → List Dispatch
  | .ok (some m) => [m]
  | _ => []

end LiveKBench.KScheduler
