import LiveKBench.KScheduler.Backend

/-! The operations of the scheduler as coroutines that stop at every statement, commit and
publication. The step function runs one such piece; between two pieces any other operation may
run. `drive` runs the pieces of one operation without interruption, which gives back the
sequential operations of `Backend`. -/
namespace LiveKBench.KScheduler
open KCore Backend

/-- A request of a worker to the scheduler: `caller` waits for the reply to `correlationId`. -/
structure RpcCall (α : Type) where
  caller : ℕ
  correlationId : ℕ
  argument : α
  deriving DecidableEq

abbrev FocusCall := RpcCall JobFocusRequest
abbrev UpdateCall := RpcCall JobUpdateRequest

inductive Publication
  | dispatch (m : Dispatch)
  | focusReply (call : FocusCall) (receipt : JobFocusReceipt)
  | updateReply (call : UpdateCall)
  | abortRequest (hostname : String) (jobId : JobId)

/-- What one piece of an operation does: a statement, a commit or a publication, after which the
operation goes on at `next`, or the end of the operation. -/
inductive Outcome (π : Type)
  | exec (db : Db) (next : π)
  | commit (next : π)
  | publish (m : Publication) (next : Option π)
  | finish (db : Db)
  | raise (db : Db) (e : PyError)

def Outcome.map {π ρ : Type} (f : π → ρ) : Outcome π → Outcome ρ
  | .exec db next => .exec db (f next)
  | .commit next => .commit (f next)
  | .publish m next => .publish m (next.map f)
  | .finish db => .finish db
  | .raise db e => .raise db e

/-! ## The reads of `get_job` -/

inductive GetJob
  | digest
  | workers (d : JobDigest)
  | tags (d : JobDigest) (jobWorkers : List JobWorker)
  deriving DecidableEq

inductive GetJob.Read
  | more (g : GetJob)
  | done (jobContext : Option JobContext)

def GetJob.step (db : Db) (jobId : JobId) : GetJob → GetJob.Read
  | .digest =>
    match db.digest? jobId with
    | none => .done none
    | some d => .more (.workers d)
  | .workers d => .more (.tags d (db.selectWorkers jobId))
  | .tags d jobWorkers => .done (some (d.context jobWorkers (db.selectTags jobId)))

/-! ## `POST /newJob` -/

inductive NewJobPc
  | digest (ts : TimeStamp)
  | workers (jobId : JobId)
  | tags (jobId : JobId)
  | enqueue (jobId : JobId)
  deriving DecidableEq

def NewJobPc.step (request : JobRequest) (db : Db) : NewJobPc → Outcome NewJobPc
  | .digest ts =>
    let (db,jobId) := db.insertDigest ts
    .exec db (.workers jobId)
  | .workers jobId =>
    let (db,ok) := db.insertWorkers jobId request.jobWorkers
    if ok then .exec db (.tags jobId) else .raise db .integrityError
  | .tags jobId =>
    let (db,ok) := db.insertTags jobId request.tags
    if ok then .exec db (.enqueue jobId) else .raise db .integrityError
  | .enqueue jobId =>
    match request.jobWorkers[0]? with
    | none => .raise db .indexError
    | some argument =>
      .publish (.dispatch ⟨argument.workerType,request.tags.lookup exclQueueTag,jobId⟩) none

/-! ## The RPC `scheduler.focus_job` -/

inductive FocusPc
  | write (ts : TimeStamp)
  | commit (status : JobFocusStatus)
  | read (status : JobFocusStatus) (g : GetJob)
  | reply (receipt : JobFocusReceipt)
  deriving DecidableEq

def FocusPc.step (call : FocusCall) (db : Db) : FocusPc → Outcome FocusPc
  | .write ts =>
    let (db,rowcount) := db.focus call.argument.jobId call.argument.workerHostname ts
    .exec db (.commit (focusStatus rowcount))
  | .commit status => .commit (.read status .digest)
  | .read status g =>
    match g.step db call.argument.jobId with
    | .more g => .exec db (.read status g)
    | .done jobContext =>
      match focusReceipt status jobContext with
      | .ok receipt => .exec db (.reply receipt)
      | .error e => .raise db e
  | .reply receipt => .publish (.focusReply call receipt) none

/-! ## The RPC `scheduler.update_job` -/

/-- `released` records whether the guarded `UPDATE` changed its row, the `rowcount` that the code
does not look at; no step depends on it. -/
inductive UpdatePc
  | unbound
  | result (ts : TimeStamp)
  | release (ts : TimeStamp)
  | nextType (released : Bool)
  | finish (released : Bool)
  | exclQueue (released : Bool) (workerType : String)
  | commit (released : Bool) (ret : Option Dispatch)
  | enqueue (released : Bool) (m : Dispatch)
  | reply
  deriving DecidableEq

def UpdatePc.start (request : JobUpdateRequest) (ts : TimeStamp) : UpdatePc :=
  if (updatePlan request).yielded then .unbound else .result ts

def UpdatePc.step (call : UpdateCall) (db : Db) : UpdatePc → Outcome UpdatePc
  | .unbound => .raise db .unboundLocalError
  | .result ts =>
    .exec (db.writeResult call.argument.jobId call.argument.workerIndex call.argument.deliverable)
      (.release ts)
  | .release ts =>
    let plan := updatePlan call.argument
    let (db,rowcount) := db.release call.argument plan.status plan.nextWorkerIndex ts
    .exec db (if plan.nextAvailable then .nextType (rowcount = 1) else .commit (rowcount = 1) none)
  | .nextType released =>
    match db.selectWorkerType call.argument.jobId (updatePlan call.argument).nextWorkerIndex with
    | none => .exec db (.finish released)
    | some workerType => .exec db (.exclQueue released workerType)
  | .finish released => .exec (db.finish call.argument.jobId) (.commit released none)
  | .exclQueue released workerType =>
    .exec db (.commit released
      (some ⟨workerType,db.selectTag call.argument.jobId exclQueueTag,call.argument.jobId⟩))
  | .commit released ret =>
    .commit (match ret with
      | none => .reply
      | some m => .enqueue released m)
  | .enqueue _ m => .publish (.dispatch m) (some .reply)
  | .reply => .publish (.updateReply call) none

/-! ## `POST /jobs/{jobId}/abort` -/

inductive AbortPc
  | read (g : GetJob)
  | write (jobContext : JobContext)
  | control (jobContext : JobContext)
  | await
  deriving DecidableEq

/-- At `await` the handler has no step of its own: it waits for the worker's reply. -/
def AbortPc.step (jobId : JobId) (db : Db) : AbortPc → Option (Outcome AbortPc)
  | .read g =>
    match g.step db jobId with
    | .more g => some (.exec db (.read g))
    | .done none => some (.raise db (.httpException 404 "Job not found"))
    | .done (some jobContext) =>
      if jobContext.status = .aborted then some (.finish db)
      else some (.exec db (.write jobContext))
  | .write jobContext =>
    let (db,rowcount) := db.abort jobId
    if rowcount = 1 then some (.finish db) else some (.exec db (.control jobContext))
  | .control jobContext =>
    some (.publish (.abortRequest jobContext.currentWorkerHostname jobId) (some .await))
  | .await => none

/-! ## `POST /jobs/{jobId}/restart` -/

inductive RestartPc
  | read (g : GetJob)
  | check (jobContext : Option JobContext)
  | write (jobContext : JobContext) (restartFrom : ℤ) (ts : TimeStamp)
  | commit (jobContext : JobContext) (restartFrom : ℤ) (ok : Bool)
  | fail
  | enqueue (jobContext : JobContext) (restartFrom : ℤ)
  deriving DecidableEq

/-- The checks of the handler between its read and its write, and the stage they settle on. -/
def restartTarget (restartFrom : ℤ) : Option JobContext → Except PyError (JobContext × ℤ)
  | none => .error (.httpException 404 "Job not found")
  | some jobContext =>
    if jobContext.status = .aborted ∨ jobContext.status = .finished then
      let restartFrom :=
        if restartFrom = -1 then (jobContext.jobWorkers.length : ℤ) - 1 else restartFrom
      if (jobContext.jobWorkers.length : ℤ) ≤ restartFrom then
        .error (.httpException 400 "Worker index out of bound")
      else .ok (jobContext,restartFrom)
    else .error (.httpException 400 "Job needs to be inactive")

/-- `ts` is the clock's reading where the step makes one, which is when the checks pass. -/
def RestartPc.step (jobId : JobId) (restartFrom : ℤ) (ts : TimeStamp) (db : Db) :
    RestartPc → Outcome RestartPc
  | .read g =>
    match g.step db jobId with
    | .more g => .exec db (.read g)
    | .done jobContext => .exec db (.check jobContext)
  | .check jobContext =>
    match restartTarget restartFrom jobContext with
    | .error e => .raise db e
    | .ok (jobContext,target) => .exec db (.write jobContext target ts)
  | .write jobContext target ts =>
    let (db,rowcount) := db.restart jobId target ts
    .exec db (.commit jobContext target (rowcount = 1))
  | .commit jobContext target ok =>
    .commit (if ok then .enqueue jobContext target else .fail)
  | .fail => .raise db (.httpException 400 "Failed to restart job")
  | .enqueue jobContext target =>
    match pyIndex jobContext.jobWorkers target with
    | none => .raise db .indexError
    | some worker =>
      .publish (.dispatch ⟨worker.workerType,jobContext.tags.lookup exclQueueTag,jobId⟩) none

/-! ## All operations -/

inductive Operation
  | newJob (request : JobRequest) (pc : NewJobPc)
  | focus (call : FocusCall) (pc : FocusPc)
  | update (call : UpdateCall) (pc : UpdatePc)
  | abort (jobId : JobId) (pc : AbortPc)
  | restart (jobId : JobId) (restartFrom : ℤ) (pc : RestartPc)
  deriving DecidableEq

def Operation.step (ts : TimeStamp) (db : Db) : Operation → Option (Outcome Operation)
  | .newJob request pc => some ((pc.step request db).map (.newJob request))
  | .focus call pc => some ((pc.step call db).map (.focus call))
  | .update call pc => some ((pc.step call db).map (.update call))
  | .abort jobId pc => (pc.step jobId db).map (Outcome.map (.abort jobId))
  | .restart jobId restartFrom pc =>
    some ((pc.step jobId restartFrom ts db).map (.restart jobId restartFrom))

/-- Whether the operation's next step reads the clock. -/
def Operation.readsClock : Operation → Bool
  | .restart _ restartFrom (.check jobContext) =>
    match restartTarget restartFrom jobContext with
    | .error _ => false
    | .ok _ => true
  | _ => false

/-! ## Uninterrupted runs -/

/-- Run an operation's steps with nothing in between: the database it leaves, what it publishes
in order, and the exception it ends with. -/
def drive {π : Type} (step : Db → π → Outcome π) : ℕ → π → Db →
    Db × List Publication × Option PyError
  | 0, _, db => (db,[],none)
  | n+1, pc, db =>
    match step db pc with
    | .exec db next => drive step n next db
    | .commit next => drive step n next db
    | .publish m none => (db,[m],none)
    | .publish m (some next) =>
      let (db,ms,e) := drive step n next db
      (db,m :: ms,e)
    | .finish db => (db,[],none)
    | .raise db e => (db,[],some e)

/-- The RPC handler of `update_job`, run alone, does what `Backend.updateJob` does, publishes the
dispatch it returns and replies; where that raises, the handler raises. -/
theorem drive_update (call : UpdateCall) (ts : TimeStamp) (db : Db) :
    drive (UpdatePc.step call) 8 (UpdatePc.start call.argument ts) db =
      match updateJob db call.argument ts with
      | (db,.ok ret) =>
        (db,(ret.toList.map Publication.dispatch) ++ [Publication.updateReply call],none)
      | (db,.error e) => (db,[],some e) := by
  rcases updatePlan_cases call.argument with ⟨_,hp⟩ | ⟨_,_,hp⟩ | ⟨_,_,hp⟩
  · simp [UpdatePc.start,updateJob,hp,drive,UpdatePc.step]
  · simp only [UpdatePc.start,updateJob,hp,drive,UpdatePc.step,Bool.false_eq_true,if_false,if_true]
    cases hn : ((db.writeResult call.argument.jobId call.argument.workerIndex
        call.argument.deliverable).release call.argument .waiting
          (call.argument.workerIndex+1) ts).1.selectWorkerType call.argument.jobId
            (call.argument.workerIndex+1) with
    | none => simp
    | some workerType => simp
  · simp [UpdatePc.start,updateJob,hp,drive,UpdatePc.step]

/-- The RPC handler of `focus_job`, run alone. -/
theorem drive_focus (call : FocusCall) (ts : TimeStamp) (db : Db) :
    drive (FocusPc.step call) 6 (.write ts) db =
      match focusJob db call.argument ts with
      | (db,.ok receipt) => (db,[.focusReply call receipt],none)
      | (db,.error e) => (db,[],some e) := by
  simp only [drive,FocusPc.step,focusJob,getJob,GetJob.step]
  cases hd : (db.focus call.argument.jobId call.argument.workerHostname ts).1.digest?
      call.argument.jobId with
  | none => simp [focusReceipt]
  | some d => simp [focusReceipt]

/-- The handler of `newJob`, run alone, leaves the database that `Backend.newJob` leaves. -/
theorem drive_newJob (request : JobRequest) (ts : TimeStamp) (db : Db) :
    (drive (NewJobPc.step request) 4 (.digest ts) db).1 = (newJob db request ts).1 := by
  simp only [drive,NewJobPc.step,newJob]
  cases hw : ((db.insertDigest ts).1.insertWorkers (db.insertDigest ts).2
      request.jobWorkers).2 with
  | false => simp
  | true =>
    simp only [if_true]
    cases ht : (((db.insertDigest ts).1.insertWorkers (db.insertDigest ts).2
        request.jobWorkers).1.insertTags (db.insertDigest ts).2 request.tags).2 with
    | false => simp
    | true => cases request.jobWorkers[0]? <;> simp

end LiveKBench.KScheduler
