import Mathlib.Data.List.Basic
import Mathlib.Data.List.Nodup
import Mathlib.Data.Int.Basic

/-! The data models that the scheduler, the workers and the clients exchange. -/
namespace LiveKBench.KCore

/-- `JobId` is an `int` that prints as hexadecimal text. -/
abbrev JobId := ℕ

/-- A clock reading in microseconds. The scheduler stores and compares readings as the ISO text
`datetime.now(UTC).isoformat()`. -/
abbrev TimeStamp := ℕ

inductive JobStatus
  | pending
  | inProgress
  | waiting
  | aborted
  | finished
  deriving DecidableEq, Repr

/-- What a client asks of one stage; the fields beyond the worker's type stay serialized. -/
structure JobArgument where
  workerType : String
  fields : String
  deriving DecidableEq, Repr

structure JobException where
  code : String
  traceback : String
  content : String
  deriving DecidableEq, Repr

structure WorkerException where
  code : String
  exceptionType : String
  traceback : String
  deriving DecidableEq, Repr

def workerAbortedExceptionCode : String := "kworker.AbortedException"
def workerYieldedExceptionCode : String := "kworker.YieldedException"
def workerGeneralExceptionCode : String := "kworker.GeneralException"

structure JobResource where
  key : String
  storageUri : String
  deriving DecidableEq, Repr

structure CrashIncident where
  log : Option JobResource
  report : Option JobResource
  deriving DecidableEq, Repr

inductive CrashType
  | crash
  | special
  deriving DecidableEq, Repr

structure Crash where
  crashId : ℕ
  title : String
  crashType : CrashType
  incidents : List CrashIncident
  deriving DecidableEq, Repr

inductive ImageAbility
  | normal
  | warning
  | error
  deriving DecidableEq, Repr

/-- The fields that `kVMManagerResult` adds to a `JobResult`. -/
structure VMManagerFields where
  crushLog : Option JobResource
  crashes : Option (List Crash)
  finalSyzkallerCheckout : Option String
  imageAbility : Option ImageAbility
  deriving DecidableEq, Repr

/-- The field of those that `kBuilderResult` adds to a `JobResult` which its readers here use. -/
structure BuilderFields where
  kBuilderStderr : Option JobResource
  deriving DecidableEq, Repr

/-- The outcome of one stage. `vmManager` and `builder` hold the extra fields of a
`kVMManagerResult` and of a `kBuilderResult`; they are `none` for the results of the other
workers. -/
structure JobResult where
  workerType : String
  jobException : Option JobException
  workerException : Option WorkerException
  vmManager : Option VMManagerFields
  builder : Option BuilderFields
  deriving DecidableEq, Repr

/-- Neither the job's code nor the worker raised. -/
def JobResult.succeeded (result : JobResult) : Bool :=
  result.jobException.isNone && result.workerException.isNone

/-- The worker gave the job back, on its time limit or on its way out. -/
def JobResult.yielded (result : JobResult) : Bool :=
  match result.workerException with
  | some e => e.code == workerYieldedExceptionCode
  | none => false

structure JobWorker where
  workerType : String
  workerArgument : JobArgument
  workerResult : Option JobResult
  deriving DecidableEq, Repr

structure JobContext where
  jobId : JobId
  createdTime : TimeStamp
  modifiedTime : TimeStamp
  status : JobStatus
  currentWorkerHostname : String
  currentWorker : ℤ
  jobWorkers : List JobWorker
  tags : List (String × String)
  deriving DecidableEq, Repr

/-- `tags` is a dictionary: no key occurs twice. -/
structure JobRequest where
  jobWorkers : List JobArgument
  tags : List (String × String)
  distinctTags : (tags.map Prod.fst).Nodup
  deriving DecidableEq

structure JobUpdateRequest where
  workerHostname : String
  workerType : String
  workerIndex : ℤ
  jobId : JobId
  deliverable : JobResult
  deriving DecidableEq, Repr

structure JobFocusRequest where
  jobId : JobId
  workerHostname : String
  deriving DecidableEq, Repr

inductive JobFocusStatus
  | focused
  | rejected
  deriving DecidableEq, Repr

structure JobFocusReceipt where
  status : JobFocusStatus
  jobContext : JobContext
  deriving DecidableEq, Repr

/-- The exceptions that the modelled code can raise. -/
inductive PyError
  | unboundLocalError
  | attributeError
  | indexError
  | fileNotFoundError
  | integrityError
  | validationError
  | valueError (message : String)
  | httpException (status : ℕ) (detail : String)
  deriving DecidableEq, Repr

/-- `xs[i]` of a Python list: a negative index counts from the end. -/
def pyIndex {α : Type*} (xs : List α) (i : ℤ) : Option α :=
  if 0 ≤ i then xs[i.toNat]?
  else if 0 ≤ xs.length + i then xs[(xs.length + i).toNat]?
  else none

/-- `str.isspace` of one character. -/
def isPySpace (c : Char) : Bool :=
  let n := c.toNat
  (9 ≤ n && n ≤ 13) || (28 ≤ n && n ≤ 32) || n == 0x85 || n == 0xa0 || n == 0x1680 ||
    (0x2000 ≤ n && n ≤ 0x200a) || n == 0x2028 || n == 0x2029 || n == 0x202f || n == 0x205f ||
    n == 0x3000

/-- `str.strip`. -/
def pyStrip (s : String) : String :=
  String.ofList ((s.toList.dropWhile isPySpace).reverse.dropWhile isPySpace).reverse

/-- `needle in s` of Python strings. -/
def pyIn (needle s : String) : Bool := s.toList.tails.any needle.toList.isPrefixOf

end LiveKBench.KCore
