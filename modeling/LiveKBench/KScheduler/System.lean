import LiveKBench.KScheduler.Operation
import LiveKBench.Lib.Inbox
import LiveKBench.Lib.Machine

/-! The scheduler with its broker and its workers. The scheduler runs any number of operations,
one piece at a time; the broker keeps the dispatch messages and the two RPC queues; each worker
runs `_on_dispatch` for one message at a time. Exceptions at any `await`, lost replies,
redeliveries, disconnections and restarts of the scheduler are events of their own. -/
namespace LiveKBench.KScheduler
open KCore Lib

/-- What does not change about a worker: `platform.node()`, its type, and the value of
`KGYM_EXCL_QUEUE`. -/
structure WorkerInfo where
  hostname : String
  workerType : String
  exclQueue : Option String
  deriving DecidableEq, Repr

/-- The workers of a deployment, numbered; two of them may run on one host. -/
abbrev Fleet := ℕ → WorkerInfo

/-- Whether a message is in one of the queues that the worker consumes. -/
def WorkerInfo.Consumes (info : WorkerInfo) (m : Dispatch) : Prop :=
  m.workerType = info.workerType ∧ (m.exclQueue = none ∨ m.exclQueue = info.exclQueue)

instance (info : WorkerInfo) (m : Dispatch) : Decidable (info.Consumes m) :=
  inferInstanceAs (Decidable (_ ∧ _))

/-- How far `_on_dispatch` is: the message is here, the focus request is out, the task runs in
the context of the receipt, the update request is out. -/
inductive DispatchPc
  | received
  | focusing (correlationId : ℕ)
  | running (jobContext : JobContext)
  | updating (correlationId : ℕ)
  deriving DecidableEq

structure Handling where
  jobId : JobId
  pc : DispatchPc
  deriving DecidableEq

/-- `handling` is present while `_on_dispatch` holds the worker's lock. -/
structure WorkerState where
  handling : Option Handling
  closed : Bool
  deriving DecidableEq

/-- A request in the queue `workers.{hostname}.abort_job`; the operation `awaiter` waits for it. -/
structure AbortCall where
  hostname : String
  jobId : JobId
  awaiter : ℕ
  deriving DecidableEq

/-- A delivery of a dispatch message: the worker, and whether the worker was locked or closed and
is about to reject it. -/
abbrev DeliveryKey := ℕ × Bool

/-- `committed` is what the database file would hold after a crash. `clock` is the scheduler's
latest clock reading. The deliveries of the RPC queues are known by the operations that handle
them. -/
structure State where
  db : Db
  committed : Db
  clock : TimeStamp
  operations : ℕ → Option Operation
  dispatches : Inbox DeliveryKey Dispatch
  focusCalls : Inbox ℕ FocusCall
  updateCalls : Inbox ℕ UpdateCall
  abortCalls : List AbortCall
  nextCorrelationId : ℕ
  workers : ℕ → WorkerState

namespace State

def initial : State :=
  { db := .empty, committed := .empty, clock := 0, operations := fun _ => none,
    dispatches := .empty, focusCalls := .empty, updateCalls := .empty, abortCalls := [],
    nextCorrelationId := 0, workers := fun _ => ⟨none,false⟩ }

def setHandling (s : State) (w : ℕ) (handling : Option Handling) : State :=
  { s with workers := Function.update s.workers w { s.workers w with handling := handling } }

def setOperation (s : State) (i : ℕ) (op : Option Operation) : State :=
  { s with operations := Function.update s.operations i op }

/-- `_on_dispatch` returns: it acknowledges its message and releases the lock. -/
def finishDispatch (s : State) (w : ℕ) : State :=
  { s with dispatches := s.dispatches.ack (w,false) }.setHandling w none

/-- `_on_dispatch` raises: its message goes back to its queue, if the broker had not taken it
back already. -/
def failDispatch (s : State) (w : ℕ) : State :=
  { s with dispatches := s.dispatches.nack (w,false) }.setHandling w none

/-- The worker gets the receipt; a reply that nobody waits for is dropped. -/
def replyFocus (s : State) (call : FocusCall) (receipt : JobFocusReceipt) : State :=
  match (s.workers call.caller).handling with
  | some h =>
    if h.pc = .focusing call.correlationId then
      match receipt.status with
      | .focused => s.setHandling call.caller (some { h with pc := .running receipt.jobContext })
      | .rejected => s.finishDispatch call.caller
    else s
  | none => s

def replyUpdate (s : State) (call : UpdateCall) : State :=
  match (s.workers call.caller).handling with
  | some h => if h.pc = .updating call.correlationId then s.finishDispatch call.caller else s
  | none => s

/-- The publication of operation `i` takes effect. After an RPC's reply its request is
acknowledged. -/
def publish (s : State) (i : ℕ) : Publication → State
  | .dispatch m => { s with dispatches := s.dispatches.post m }
  | .focusReply call receipt => { s with focusCalls := s.focusCalls.ack i }.replyFocus call receipt
  | .updateReply call => { s with updateCalls := s.updateCalls.ack i }.replyUpdate call
  | .abortRequest hostname jobId => { s with abortCalls := ⟨hostname,jobId,i⟩ :: s.abortCalls }

/-- `message.process(requeue=True)`: the request of an RPC whose handler raised goes back. -/
def requeue (s : State) (i : ℕ) : Operation → State
  | .focus _ _ => { s with focusCalls := s.focusCalls.nack i }
  | .update _ _ => { s with updateCalls := s.updateCalls.nack i }
  | _ => s

/-- Operation `i`, which is `op`, has run one piece. -/
def settle (s : State) (i : ℕ) (op : Operation) : Outcome Operation → State
  | .exec db next => { s with db := db }.setOperation i (some next)
  | .commit next => { s with committed := s.db }.setOperation i (some next)
  | .publish m next => (s.setOperation i next).publish i m
  | .finish db => { s with db := db }.setOperation i none
  | .raise db _ => ({ s with db := db }.setOperation i none).requeue i op

end State

inductive Event
  /-- `POST /newJob` arrives and runs as operation `i`. -/
  | newJob (i : ℕ) (request : JobRequest) (ts : TimeStamp)
  | abortJob (i : ℕ) (jobId : JobId)
  | restartJob (i : ℕ) (jobId : JobId) (restartFrom : ℤ)
  /-- The scheduler's consumer gets a request and runs it as operation `i`. -/
  | handleFocus (i : ℕ) (call : FocusCall) (ts : TimeStamp)
  | handleUpdate (i : ℕ) (call : UpdateCall) (ts : TimeStamp)
  /-- Operation `i` runs one piece. -/
  | advance (i : ℕ) (ts : TimeStamp)
  /-- An exception reaches operation `i` at an `await`. -/
  | fail (i : ℕ)
  /-- Operation `i` replies to a queue that is gone. -/
  | loseReply (i : ℕ)
  /-- The broker gives the request that operation `i` handles to be delivered again. -/
  | redeliverFocus (i : ℕ)
  | redeliverUpdate (i : ℕ)
  /-- The scheduler stops, with a commit if it is told to, and starts again. -/
  | restartScheduler (graceful : Bool) (ts : TimeStamp)
  /-- An open and unlocked worker gets a message. -/
  | deliver (w : ℕ) (m : Dispatch)
  /-- A closed or locked worker gets a message and then rejects it. -/
  | bounce (w : ℕ) (m : Dispatch)
  | reject (w : ℕ)
  | requestFocus (w : ℕ)
  /-- The task is constructed, which looks its stage up, `TaskBase.run` returns and its result
  goes out with the update request. -/
  | report (w : ℕ) (result : JobResult)
  /-- An exception leaves `_on_dispatch`. -/
  | raise (w : ℕ)
  | disconnect (w : ℕ)
  /-- `SIGTERM`. -/
  | close (w : ℕ)
  | answerAbort (w : ℕ) (call : AbortCall)

namespace State
variable (fleet : Fleet) (s : State)

/-- Start operation `i` under a number that is free. -/
def spawn (i : ℕ) (op : Operation) : Option State :=
  if (s.operations i).isNone then some (s.setOperation i (some op)) else none

def focusCall (w : ℕ) (jobId : JobId) : FocusCall :=
  ⟨w,s.nextCorrelationId,⟨jobId,(fleet w).hostname⟩⟩

def updateCall (w : ℕ) (jobId : JobId) (jobContext : JobContext) (result : JobResult) :
    UpdateCall :=
  ⟨w,s.nextCorrelationId,
    { workerHostname := (fleet w).hostname, workerType := (fleet w).workerType,
      workerIndex := jobContext.currentWorker, jobId, deliverable := result }⟩

/-- Where the operation stands before the publication of an RPC's reply. -/
def atReply : Operation → Bool
  | .focus _ (.reply _) => true
  | .update _ .reply => true
  | _ => false

/-- `prefetch_count=1` on the channel of the dispatch messages: the broker delivers to a worker
that has no message to acknowledge. The queue of an RPC has the same limit. -/
def Free (w : ℕ) : Prop := ∀ p ∈ s.dispatches.unacked, p.1.1 ≠ w

instance (w : ℕ) : Decidable (s.Free w) :=
  inferInstanceAs (Decidable (∀ p ∈ s.dispatches.unacked, p.1.1 ≠ w))

/-- The database that a new process opens, after `_shutdown_left_over_jobs`. -/
def reopened (graceful : Bool) (ts : TimeStamp) : Db :=
  Backend.shutdownLeftOverJobs (if graceful then s.db else s.committed) ts

/-- The state after an event, up to the clock. -/
def effect : Event → Option State
  | .newJob i request ts => s.spawn i (.newJob request (.digest ts))
  | .abortJob i jobId => s.spawn i (.abort jobId (.read .digest))
  | .restartJob i jobId restartFrom =>
    if -1 ≤ restartFrom then s.spawn i (.restart jobId restartFrom (.read .digest)) else none
  | .handleFocus i call ts =>
    if call ∈ s.focusCalls.ready ∧ s.focusCalls.unacked = [] then
      { s with focusCalls := s.focusCalls.take i call }.spawn i (.focus call (.write ts))
    else none
  | .handleUpdate i call ts =>
    if call ∈ s.updateCalls.ready ∧ s.updateCalls.unacked = [] then
      { s with updateCalls := s.updateCalls.take i call }.spawn i
        (.update call (.start call.argument ts))
    else none
  | .advance i ts => do
    let op ← s.operations i
    let outcome ← op.step ts s.db
    return s.settle i op outcome
  | .fail i => do
    let op ← s.operations i
    return (s.setOperation i none).requeue i op
  | .loseReply i => do
    let op ← s.operations i
    if atReply op then
      return { s with focusCalls := s.focusCalls.ack i, updateCalls := s.updateCalls.ack i
        }.setOperation i none
    else none
  | .redeliverFocus i => some { s with focusCalls := s.focusCalls.nack i }
  | .redeliverUpdate i => some { s with updateCalls := s.updateCalls.nack i }
  | .restartScheduler graceful ts =>
    some { s with
      db := s.reopened graceful ts, committed := s.reopened graceful ts,
      operations := fun _ => none, focusCalls := s.focusCalls.recover,
      updateCalls := s.updateCalls.recover }
  | .deliver w m =>
    if m ∈ s.dispatches.ready ∧ s.Free w ∧ (fleet w).Consumes m ∧
        (s.workers w).handling.isNone ∧ (s.workers w).closed = false then
      some ({ s with dispatches := s.dispatches.take (w,false) m }.setHandling w
        (some ⟨m.jobId,.received⟩))
    else none
  | .bounce w m =>
    if m ∈ s.dispatches.ready ∧ s.Free w ∧ (fleet w).Consumes m ∧
        ((s.workers w).handling.isSome ∨ (s.workers w).closed = true) then
      some { s with dispatches := s.dispatches.take (w,true) m }
    else none
  | .reject w => some { s with dispatches := s.dispatches.nack (w,true) }
  | .requestFocus w =>
    match (s.workers w).handling with
    | some ⟨jobId,.received⟩ =>
      some ({ s with
        focusCalls := s.focusCalls.post (s.focusCall fleet w jobId),
        nextCorrelationId := s.nextCorrelationId+1
        }.setHandling w (some ⟨jobId,.focusing s.nextCorrelationId⟩))
    | _ => none
  | .report w result =>
    match (s.workers w).handling with
    | some ⟨jobId,.running jobContext⟩ =>
      if (pyIndex jobContext.jobWorkers jobContext.currentWorker).isSome then
        some ({ s with
          updateCalls := s.updateCalls.post (s.updateCall fleet w jobId jobContext result),
          nextCorrelationId := s.nextCorrelationId+1
          }.setHandling w (some ⟨jobId,.updating s.nextCorrelationId⟩))
      else none
    | _ => none
  | .raise w => if (s.workers w).handling.isSome then some (s.failDispatch w) else none
  | .disconnect w =>
    some { s with dispatches := (s.dispatches.nack (w,false)).nack (w,true) }
  | .close w =>
    some { s with workers := Function.update s.workers w { s.workers w with closed := true } }
  | .answerAbort w call =>
    if call ∈ s.abortCalls ∧ call.hostname = (fleet w).hostname then
      match s.operations call.awaiter with
      | some (.abort _ .await) =>
        some ({ s with abortCalls := s.abortCalls.erase call }.setOperation call.awaiter none)
      | _ => some { s with abortCalls := s.abortCalls.erase call }
    else none

/-- The clock reading that the scheduler makes at an event, if it makes one. -/
def reading : Event → Option TimeStamp
  | .newJob _ _ ts => some ts
  | .handleFocus _ _ ts => some ts
  | .handleUpdate _ call ts => if call.argument.deliverable.yielded then none else some ts
  | .advance i ts => if (s.operations i).any Operation.readsClock then some ts else none
  | .restartScheduler _ ts => some ts
  | _ => none

def step (e : Event) : Option State :=
  (s.effect fleet e).map fun u => { u with clock := (s.reading e).getD s.clock }

end State

/-- The system started on an empty database. -/
def system (fleet : Fleet) : Machine State Event where
  init s := s = State.initial
  step := State.step fleet

/-- Every clock reading is later than the one before. -/
def StrictClock (s : State) (e : Event) : Prop := ∀ ts, s.reading e = some ts → s.clock < ts

instance (s : State) (e : Event) : Decidable (StrictClock s e) :=
  decidable_of_iff (∀ ts ∈ s.reading e, s.clock < ts) Iff.rfl

/-! ## Requests served without interruption

The events of one request each, as operation `i`, with nothing else in between. -/
namespace Event

/-- Operation `i` runs `n` pieces. -/
def advances (i n : ℕ) (ts : TimeStamp) : List Event := List.replicate n (.advance i ts)

def serveNewJob (i : ℕ) (request : JobRequest) (ts : TimeStamp) : List Event :=
  .newJob i request ts :: advances i 4 ts

/-- Worker `w` asks for the job under `correlationId` and gets its receipt. -/
def serveFocus (i w correlationId : ℕ) (request : JobFocusRequest) (ts : TimeStamp) :
    List Event :=
  .requestFocus w :: .handleFocus i ⟨w,correlationId,request⟩ ts :: advances i 6 ts

/-- An update of `n` pieces: four after a failure, six after the last stage, seven after
another. -/
def serveUpdate (i n : ℕ) (call : UpdateCall) (ts : TimeStamp) : List Event :=
  .handleUpdate i call ts :: advances i n ts

/-- An abort of a job that no worker holds. -/
def serveAbort (i : ℕ) (jobId : JobId) : List Event := .abortJob i jobId :: advances i 4 0

def serveRestart (i : ℕ) (jobId : JobId) (restartFrom : ℤ) (ts : TimeStamp) : List Event :=
  .restartJob i jobId restartFrom :: advances i 7 ts

end Event

end LiveKBench.KScheduler
