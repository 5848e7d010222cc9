import LiveKBench.KScheduler.Stages

/-! The scheduler's process with a ledger of what its clients were told. The ledger is written down
beside the run and nothing reads it. Next to the operations stand the other users of the shared
connection: the statements of the tag API, and the commits of that API and of the two log queues. -/
namespace LiveKBench.KScheduler
open KCore Lib Backend

/-- The job of which an operation of `newJob` has inserted the digest. -/
def Operation.inserting : Operation → Option JobId
  | .newJob _ pc => pc.jobId?
  | _ => none

/-- What `newJob` returns after its next piece, and to which request. -/
def Operation.returning : Operation → Option (JobId × JobRequest)
  | .newJob request (.enqueue jobId) =>
    if request.jobWorkers[0]?.isSome then some (jobId,request) else none
  | _ => none

namespace Statement

/-- The job of which the statement inserts rows. -/
def inserts (db : Db) : Statement → Option JobId
  | .insertDigest _ => some (db.sequence+1)
  | .insertWorkers jobId _ => some jobId
  | .insertTags jobId tags => if tags = [] then none else some jobId
  | _ => none

/-- The job that the statement aborts. -/
def aborts (db : Db) : Statement → Option JobId
  | .abort jobId => if (db.digest? jobId).any fun d => Db.Abortable jobId d then some jobId else none
  | _ => none

/-- An abort is written down exactly where `abort_job` returns true. -/
theorem aborts_abort {db : Db} {jobId : JobId} :
    (Statement.abort jobId).aborts db = some jobId ↔ (Backend.abortJob db jobId).2 = true := by
  have hrow : (Backend.abortJob db jobId).2 = true ↔ (db.abort jobId).2 = 1 := decide_eq_true_iff
  rw [hrow,Db.abort_eq_one]
  simp [aborts,Option.any_eq_true]

/-- The stage whose result the statement writes. -/
def reports : Statement → Option (JobId × ℤ)
  | .writeResult jobId workerIndex _ => some (jobId,workerIndex)
  | _ => none

/-- Whether the statement leaves the job's digest as it is. -/
def leaves (st : Statement) (db : Db) (jobId : JobId) : Bool :=
  (db.digest? jobId).all fun d => st.row d = d

end Statement

/-- `returned` has the values of the calls of `newJob`, `aborted` the jobs whose digest is as an
abort left it, `unsaved` the jobs of which the open transaction has inserted rows, `reported` the
stages that an update has written and `retagged` the jobs whose tags the tag API has edited. -/
structure Ledger where
  returned : List (JobId × JobRequest)
  aborted : List JobId
  unsaved : List JobId
  reported : List (JobId × ℤ)
  retagged : List JobId

def Ledger.empty : Ledger := ⟨[],[],[],[],[]⟩

/-- `jobId` was returned by a call of `newJob`. -/
def Ledger.Returned (l : Ledger) (jobId : JobId) : Prop := jobId ∈ l.returned.map Prod.fst

instance (l : Ledger) (jobId : JobId) : Decidable (l.Returned jobId) :=
  inferInstanceAs (Decidable (_ ∈ _))

/-- The ledger after the next piece of an operation. -/
def Ledger.piece (l : Ledger) (db : Db) (op : Operation) : Ledger :=
  match op.statement with
  | some st =>
    { l with
      aborted := (st.aborts db).toList ++ l.aborted.filter (st.leaves db)
      unsaved := (st.inserts db).toList ++ l.unsaved
      reported := st.reports.toList ++ l.reported }
  | none =>
    { l with
      returned := op.returning.toList ++ l.returned
      unsaved := if op.commits then [] else l.unsaved }

inductive ServiceEvent
  | scheduler (e : Event)
  /-- The tag API or the insertion of a log entry commits. -/
  | commit
  | deleteTag (jobId : JobId) (tagKey : String)
  | insertTag (jobId : JobId) (tagKey tagValue : String)

structure Service where
  scheduler : State
  ledger : Ledger

namespace Service
variable (fleet : Fleet) (s : Service)

/-- What an event does to the scheduler. The three pieces of the tag API are events of their own,
which may come in any order. -/
def act : ServiceEvent → Option State
  | .scheduler e => s.scheduler.step fleet e
  | .commit => some { s.scheduler with committed := s.scheduler.db }
  | .deleteTag jobId tagKey =>
    some { s.scheduler with db := s.scheduler.db.deleteTag jobId tagKey }
  | .insertTag jobId tagKey tagValue =>
    some { s.scheduler with db := (s.scheduler.db.insertTags jobId [(tagKey,tagValue)]).1 }

def note : ServiceEvent → Ledger
  | .scheduler (.advance i _) =>
    match s.scheduler.operations i with
    | some op => s.ledger.piece s.scheduler.db op
    | none => s.ledger
  | .scheduler (.restartScheduler _ _) | .commit => { s.ledger with unsaved := [] }
  | .deleteTag jobId _ | .insertTag jobId _ _ =>
    { s.ledger with retagged := jobId :: s.ledger.retagged }
  | _ => s.ledger

def step (e : ServiceEvent) : Option Service := (s.act fleet e).map fun u => ⟨u,s.note e⟩

end Service

/-- The process started on an empty database. -/
def service (fleet : Fleet) : Machine Service ServiceEvent where
  init s := s = ⟨.initial,.empty⟩
  step := Service.step fleet

/-! ## What a request asks for -/

def JobArgument.asked (argument : JobArgument) : String × JobArgument :=
  (argument.workerType,argument)

def JobWorker.asked (worker : JobWorker) : String × JobArgument :=
  (worker.workerType,worker.workerArgument)

def JobWorkerRow.asked (row : JobWorkerRow) : String × JobArgument :=
  (row.workerType,row.workerArgument)

namespace Service

/-- The job is there with the stages and the tags of its request. A stage has no result unless an
update has written one, and the tags are those of the request unless the tag API has edited them. -/
structure Kept (s : Service) (jobId : JobId) (request : JobRequest) : Prop where
  digest : ∃ d, s.scheduler.db.digest? jobId = some d
  workers : (s.scheduler.db.selectWorkers jobId).map JobWorker.asked =
    request.jobWorkers.map JobArgument.asked
  results : ∀ (n : ℕ) worker, (s.scheduler.db.selectWorkers jobId)[n]? = some worker →
    worker.workerResult = none ∨ (jobId,(n : ℤ)) ∈ s.ledger.reported
  tags : jobId ∈ s.ledger.retagged ∨ s.scheduler.db.selectTags jobId = request.tags

/-- `newJob` and `abort` are atomic and durable. A digest belongs to a call that has returned it or
is still running, so a call that failed has left none; every job that was returned is there as it
was asked for, under an id that no other call got; an abort stands until the job's digest is changed
again. -/
structure Durable (s : Service) : Prop where
  accounted : ∀ jobId d, s.scheduler.db.digest? jobId = some d → s.ledger.Returned jobId ∨
    ∃ i op, s.scheduler.operations i = some op ∧ op.inserting = some jobId
  kept : ∀ jobId request, (jobId,request) ∈ s.ledger.returned → s.Kept jobId request
  distinct : (s.ledger.returned.map Prod.fst).Nodup
  aborted : ∀ jobId ∈ s.ledger.aborted,
    ∃ d, s.scheduler.db.digest? jobId = some d ∧ d.status = .aborted

/-- What the process finds when it starts again: no job of a call that has not returned; and, where
it was not stopped with a commit, no row of a returned job in the transaction that is lost, and
every aborted job in the file, unfinished or aborted. -/
structure Saved (s : Service) (graceful : Bool) : Prop where
  complete : ∀ d ∈ (if graceful then s.scheduler.db else s.scheduler.committed).jobDigest.rows,
    s.ledger.Returned d.jobId
  returned : graceful = false → ∀ jobId ∈ s.ledger.unsaved, ¬s.ledger.Returned jobId
  aborted : graceful = false → ∀ jobId ∈ s.ledger.aborted,
    ∃ d ∈ s.scheduler.committed.digest? jobId, d.status ≠ .finished

instance (s : Service) (graceful : Bool) : Decidable (s.Saved graceful) :=
  decidable_of_iff
    ((∀ d ∈ (if graceful then s.scheduler.db else s.scheduler.committed).jobDigest.rows,
        s.ledger.Returned d.jobId) ∧
      (graceful = false → ∀ jobId ∈ s.ledger.unsaved, ¬s.ledger.Returned jobId) ∧
      (graceful = false → ∀ jobId ∈ s.ledger.aborted,
        ∃ d ∈ s.scheduler.committed.digest? jobId, d.status ≠ .finished))
    ⟨fun h => ⟨h.1,h.2.1,h.2.2⟩,fun h => ⟨h.complete,h.returned,h.aborted⟩⟩

/-- The steps that cannot show the missing commits: requests have a stage, no exception reaches a
`newJob` between its first statement and its return, the tag API edits jobs that `newJob` has
returned, and the process starts again on what was saved. -/
def Careful (s : Service) : ServiceEvent → Prop
  | .scheduler (.newJob _ request _) => request.jobWorkers ≠ []
  | .scheduler (.fail i) => (s.scheduler.operations i).bind Operation.inserting = none
  | .scheduler (.restartScheduler graceful _) => s.Saved graceful
  | .deleteTag jobId _ | .insertTag jobId _ _ => s.ledger.Returned jobId
  | _ => True

instance (s : Service) : (e : ServiceEvent) → Decidable (s.Careful e)
  | .scheduler e =>
    match e with
    | .newJob _ request _ => inferInstanceAs (Decidable (request.jobWorkers ≠ []))
    | .fail i =>
      inferInstanceAs (Decidable ((s.scheduler.operations i).bind Operation.inserting = none))
    | .restartScheduler graceful _ => inferInstanceAs (Decidable (s.Saved graceful))
    | .abortJob .. | .restartJob .. | .handleFocus .. | .handleUpdate .. | .advance ..
    | .loseReply .. | .redeliverFocus .. | .redeliverUpdate .. | .deliver .. | .bounce ..
    | .reject .. | .requestFocus .. | .report .. | .raise .. | .disconnect .. | .close ..
    | .answerAbort .. => isTrue trivial
  | .commit => isTrue trivial
  | .deleteTag jobId _ => inferInstanceAs (Decidable (s.ledger.Returned jobId))
  | .insertTag jobId _ _ => inferInstanceAs (Decidable (s.ledger.Returned jobId))

end Service
end LiveKBench.KScheduler
