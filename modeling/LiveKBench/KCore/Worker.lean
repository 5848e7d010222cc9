import LiveKBench.KCore.Models
import LiveKBench.Lib.TaskGroup

/-! How a worker runs a task and what it makes of the way the task's code ended:
`TaskBase.run`. -/
namespace LiveKBench.KCore
open Lib.TaskGroup

/-- The plain exceptions of a task's code, as the handlers of `run` tell them apart. -/
inductive PyException
  | jobExceptionError (code content : String)
  | timeoutError (typeName : String)
  | other (typeName : String)
  deriving DecidableEq, Repr

/-- The exceptions with the code and content of a job exception. -/
def PyException.jobError? : PyException → Option (String × String)
  | .jobExceptionError code content => some (code,content)
  | _ => none

/-- A task's code; a cancellation carries the arguments of its `CancelledError`. -/
abbrev TaskCode := Code PyException (List String)

/-- What became of the budget of an hour while `run` awaited the task. -/
inductive Budget
  | inTime
  /-- It expired, and the task was cancelled and ended before `run` went on. -/
  | cancelledTask
  /-- It expired as the task had ended already and `run` had not gone on yet. -/
  | cancelledAwait
  deriving DecidableEq, Repr

/-- One run of a task: its code, the codes with which `_cancel_job` cancelled it before it had ended,
`self.pending_result` at its end and whether this is what the code returned, and the text of the
traceback. A cancellation need not be how the code ends: a task group whose task fails meanwhile
raises a group, and code may go on after it. -/
structure TaskRun where
  code : TaskCode
  cancels : List String
  pendingResult : JobResult
  returnsPending : Bool
  budget : Budget
  traceback : String

namespace TaskRun

def Expired (run : TaskRun) : Prop := run.budget ≠ .inTime

instance (run : TaskRun) : Decidable run.Expired := inferInstanceAs (Decidable (_ ≠ _))

/-- `asyncio.timeout`: the cancellation by an expired budget leaves the block as a
`TimeoutError`. -/
def awaited (run : TaskRun) : Ending PyException (List String) :=
  let timedOut := .raised (.single (.timeoutError "builtins.TimeoutError"))
  match run.code.ending,run.budget with
  | .exited,_ => .exited
  | _,.cancelledAwait => timedOut
  | .cancelled _,.cancelledTask => timedOut
  | ending,_ => ending

def workerException (run : TaskRun) (code exceptionType : String) : JobResult :=
  { run.pendingResult with
    workerException := some ⟨code,exceptionType,run.traceback⟩
    jobException := none }

/-- `get_type_fullname` of an exception that the last handler catches. -/
def otherType : Raised PyException → String
  | .single (.jobExceptionError _ _) => "KBDr.kcore.models.JobExceptionError"
  | .single (.timeoutError typeName) => typeName
  | .single (.other typeName) => typeName
  | .group _ => "builtins.ExceptionGroup"

def cancelCode (args : List String) : String :=
  match args with
  | [code] =>
    if code ∈ [workerAbortedExceptionCode,workerYieldedExceptionCode] then code
    else workerGeneralExceptionCode
  | _ => workerGeneralExceptionCode

/-- The handlers of `run`, in their order. Nothing is returned where the interpreter exits. -/
def run (run : TaskRun) : Option JobResult :=
  match run.awaited with
  | .exited => none
  | .completed =>
    if run.returnsPending then some run.pendingResult
    else some (run.workerException workerGeneralExceptionCode "builtins.AssertionError")
  | .raised (.single (.jobExceptionError code content)) => some
      { run.pendingResult with
        jobException := some ⟨code,run.traceback,content⟩
        workerException := none }
  | .raised (.single (.timeoutError typeName)) =>
    some (run.workerException workerYieldedExceptionCode typeName)
  | .cancelled args =>
    some (run.workerException (cancelCode args) "asyncio.exceptions.CancelledError")
  | .raised e => some (run.workerException workerGeneralExceptionCode (otherType e))

end TaskRun

/-- The code of the worker's exception that a result reports. -/
def JobResult.workerCode? (result : JobResult) : Option String :=
  result.workerException.map WorkerException.code

/-- The outcome of a task is told as it was: the code of a job exception that the task's code raised
at any depth, a yield for an expired budget or a cancellation with that code, an abort for a
cancellation with that code, and nothing for a normal return. -/
structure TaskRun.Classified (run : TaskRun) (result : JobResult) : Prop where
  jobError : ∀ e ∈ run.code.leaves.filterMap PyException.jobError?,
    result.jobException.map JobException.code = some e.1 ∧ result.workerException = none
  yielded : result.workerCode? = some workerYieldedExceptionCode ↔
    run.Expired ∨ workerYieldedExceptionCode ∈ run.cancels
  aborted : result.workerCode? = some workerAbortedExceptionCode ↔
    workerAbortedExceptionCode ∈ run.cancels
  returned : run.code.ending = .completed →
    result.jobException = none ∧ result.workerException = none

/-- The ways of ending that `run` classifies right. An exception group has no job exception in it,
a timeout of the task's own comes with the expired budget or a cancellation that asks for a yield,
the budget does not expire beside a return or another exception, and a task that was cancelled with
one of the two codes ends by the cancellation with this code. -/
def TaskRun.Clear (run : TaskRun) : Prop :=
  let yielded := workerYieldedExceptionCode ∈ run.cancels
  let aborted := workerAbortedExceptionCode ∈ run.cancels
  match run.code.ending with
  | .exited => True
  | .completed => (run.budget = .inTime ∧ ¬yielded ∧ ¬aborted) ∧ run.returnsPending = true ∧
      run.pendingResult.jobException = none ∧ run.pendingResult.workerException = none
  | .raised (.single (.jobExceptionError _ _)) => run.budget = .inTime ∧ ¬yielded ∧ ¬aborted
  | .raised (.single (.timeoutError _)) => (run.Expired ∨ yielded) ∧ ¬aborted
  | .raised (.single (.other _)) =>
    (run.budget = .cancelledAwait ∨ run.budget = .inTime ∧ ¬yielded) ∧ ¬aborted
  | .raised (.group errors) =>
    (errors.flatMap Raised.leaves).filterMap PyException.jobError? = [] ∧
      (run.budget = .cancelledAwait ∨ run.budget = .inTime ∧ ¬yielded) ∧ ¬aborted
  | .cancelled args =>
    if run.Expired then ¬aborted
    else (args = [workerYieldedExceptionCode] ↔ yielded) ∧
      (args = [workerAbortedExceptionCode] ↔ aborted)

section Classification
variable {run : TaskRun} {result : JobResult}

lemma general_ne_yielded : workerGeneralExceptionCode ≠ workerYieldedExceptionCode := by decide
lemma general_ne_aborted : workerGeneralExceptionCode ≠ workerAbortedExceptionCode := by decide
lemma yielded_ne_aborted : workerYieldedExceptionCode ≠ workerAbortedExceptionCode := by decide

/-- Only the two known reasons of a cancellation are passed on. -/
lemma cancelCode_eq_iff {args : List String} {code : String}
    (h : code ∈ [workerAbortedExceptionCode,workerYieldedExceptionCode]) :
    TaskRun.cancelCode args = code ↔ args = [code] := by
  have hgeneral : workerGeneralExceptionCode ≠ code := by
    rintro rfl
    exact absurd h (by decide)
  unfold TaskRun.cancelCode
  match args with
  | [] => simp [hgeneral]
  | [reason] =>
    by_cases hr : reason ∈ [workerAbortedExceptionCode,workerYieldedExceptionCode]
    · simp [hr]
    · have hne : reason ≠ code := by
        rintro rfl
        exact hr h
      simp only [if_neg hr]
      simp [hgeneral,hne]
  | _ :: _ :: _ => simp [hgeneral]

/-- What the code raised, where it does not exit. -/
lemma leaves_of_ending {ending : Ending PyException (List String)}
    (he : run.code.ending = ending) (hx : ending.isExited = false) :
    run.code.leaves = ending.leaves := by
  subst he
  exact run.code.leaves_eq hx

@[simp] theorem workerCode?_workerException (code exceptionType : String) :
    (run.workerException code exceptionType).workerCode? = some code := rfl

/-- A result that reports an exception of the worker, as the run is classified by it. -/
lemma classified_workerException {code exceptionType : String} :
    run.Classified (run.workerException code exceptionType) ↔
      run.code.leaves.filterMap PyException.jobError? = [] ∧
      (code = workerYieldedExceptionCode ↔
        run.Expired ∨ workerYieldedExceptionCode ∈ run.cancels) ∧
      (code = workerAbortedExceptionCode ↔ workerAbortedExceptionCode ∈ run.cancels) ∧
      run.code.ending ≠ .completed := by
  constructor
  · intro h
    refine ⟨?_,by simpa using h.yielded,by simpa using h.aborted,?_⟩
    · rw [List.eq_nil_iff_forall_not_mem]
      intro e he
      exact absurd (h.jobError e he).2 (by simp [TaskRun.workerException])
    · intro hc
      exact absurd (h.returned hc).2 (by simp [TaskRun.workerException])
  · rintro ⟨hleaves,hyielded,haborted,hcompleted⟩
    refine ⟨?_,by simpa using hyielded,by simpa using haborted,fun hc => absurd hc hcompleted⟩
    simp [hleaves]

lemma classified_iff_of_run (h : run.run = some result) :
    (∀ r, run.run = some r → run.Classified r) ↔ run.Classified result := by
  simp [h]

/-- A run whose own await was cancelled reports a yield whatever the task did. -/
lemma run_of_cancelledAwait (hb : run.budget = .cancelledAwait) (hx : run.code.ending ≠ .exited) :
    run.run = some
      (run.workerException workerYieldedExceptionCode "builtins.TimeoutError") := by
  unfold TaskRun.run TaskRun.awaited
  rw [hb]
  cases he : run.code.ending with
  | exited => exact absurd he hx
  | completed => rfl
  | raised e => rfl
  | cancelled args => rfl

lemma classified_iff_of_cancelledAwait (hb : run.budget = .cancelledAwait)
    (hx : run.code.ending ≠ .exited) :
    (∀ result, run.run = some result → run.Classified result) ↔
      run.code.leaves.filterMap PyException.jobError? = [] ∧
      workerAbortedExceptionCode ∉ run.cancels ∧ run.code.ending ≠ .completed := by
  rw [classified_iff_of_run (run_of_cancelledAwait hb hx),classified_workerException]
  simp [TaskRun.Expired,hb,yielded_ne_aborted]

/-- A result that reports no exception of the worker, as the run is classified by it. -/
lemma inTime_of_classified (h : run.Classified result) (hw : result.workerException = none) :
    run.budget = .inTime ∧ workerYieldedExceptionCode ∉ run.cancels ∧
      workerAbortedExceptionCode ∉ run.cancels := by
  have hy := h.yielded
  have ha := h.aborted
  simp only [JobResult.workerCode?,hw,Option.map_none,reduceCtorEq,false_iff,not_or] at hy ha
  exact ⟨not_not.mp hy.1,hy.2,ha⟩

lemma classified_iff_of_completed (he : run.code.ending = .completed) :
    (∀ result, run.run = some result → run.Classified result) ↔
      (run.budget = .inTime ∧ workerYieldedExceptionCode ∉ run.cancels ∧
        workerAbortedExceptionCode ∉ run.cancels) ∧
      run.returnsPending = true ∧ run.pendingResult.jobException = none ∧
      run.pendingResult.workerException = none := by
  have hleaves : run.code.leaves = [] := leaves_of_ending he rfl
  by_cases hb : run.budget = .cancelledAwait
  · rw [classified_iff_of_cancelledAwait hb (by simp [he])]
    simp [hb,he]
  · have hawaited : run.awaited = .completed := by
      cases hb' : run.budget <;> simp_all [TaskRun.awaited]
    cases hp : run.returnsPending with
    | false =>
      have hrun : run.run = some
          (run.workerException workerGeneralExceptionCode "builtins.AssertionError") := by
        simp [TaskRun.run,hawaited,hp]
      rw [classified_iff_of_run hrun,classified_workerException]
      simp [he]
    | true =>
      have hrun : run.run = some run.pendingResult := by simp [TaskRun.run,hawaited,hp]
      rw [classified_iff_of_run hrun]
      constructor
      · intro h
        obtain ⟨hjob,hworker⟩ := h.returned he
        exact ⟨inTime_of_classified h hworker,rfl,hjob,hworker⟩
      · rintro ⟨⟨hb,hy,ha⟩,-,hjob,hworker⟩
        constructor <;>
          simp [hleaves,he,hjob,hworker,JobResult.workerCode?,TaskRun.Expired,hb,hy,ha]

lemma classified_iff_of_cancelled {args : List String} (he : run.code.ending = .cancelled args) :
    (∀ result, run.run = some result → run.Classified result) ↔
      if run.Expired then workerAbortedExceptionCode ∉ run.cancels
      else (args = [workerYieldedExceptionCode] ↔ workerYieldedExceptionCode ∈ run.cancels) ∧
        (args = [workerAbortedExceptionCode] ↔ workerAbortedExceptionCode ∈ run.cancels) := by
  have hleaves : run.code.leaves = [] := leaves_of_ending he rfl
  cases hb : run.budget with
  | inTime =>
    have hrun : run.run = some (run.workerException (TaskRun.cancelCode args)
        "asyncio.exceptions.CancelledError") := by
      simp only [TaskRun.run,TaskRun.awaited,he,hb]
    rw [classified_iff_of_run hrun,classified_workerException,cancelCode_eq_iff (by simp),
      cancelCode_eq_iff (by simp)]
    simp [hleaves,he,TaskRun.Expired,hb]
  | cancelledTask =>
    have hrun : run.run = some
        (run.workerException workerYieldedExceptionCode "builtins.TimeoutError") := by
      simp only [TaskRun.run,TaskRun.awaited,he,hb]
    rw [classified_iff_of_run hrun,classified_workerException]
    simp [hleaves,he,TaskRun.Expired,hb,yielded_ne_aborted]
  | cancelledAwait =>
    rw [classified_iff_of_cancelledAwait hb (by simp [he])]
    simp [hleaves,he,TaskRun.Expired,hb]

/-- An exception of the task's own comes through the expiry of its budget. -/
lemma awaited_of_raised {e : Raised PyException} (he : run.code.ending = .raised e)
    (hb : run.budget ≠ .cancelledAwait) : run.awaited = .raised e := by
  cases hb' : run.budget <;> simp_all [TaskRun.awaited]

lemma classified_iff_of_jobExceptionError {code content : String}
    (he : run.code.ending = .raised (.single (.jobExceptionError code content))) :
    (∀ result, run.run = some result → run.Classified result) ↔
      run.budget = .inTime ∧ workerYieldedExceptionCode ∉ run.cancels ∧
        workerAbortedExceptionCode ∉ run.cancels := by
  have hleaves : run.code.leaves = [.jobExceptionError code content] := leaves_of_ending he rfl
  by_cases hb : run.budget = .cancelledAwait
  · rw [classified_iff_of_cancelledAwait hb (by simp [he])]
    simp [hleaves,hb,PyException.jobError?]
  · have hrun : run.run = some
        { run.pendingResult with
          jobException := some ⟨code,run.traceback,content⟩
          workerException := none } := by
      simp [TaskRun.run,awaited_of_raised he hb]
    rw [classified_iff_of_run hrun]
    constructor
    · exact fun h => inTime_of_classified h rfl
    · rintro ⟨hb,hy,ha⟩
      constructor <;> simp [hleaves,he,JobResult.workerCode?,TaskRun.Expired,hb,hy,ha,
        PyException.jobError?]

lemma classified_iff_of_timeoutError {typeName : String}
    (he : run.code.ending = .raised (.single (.timeoutError typeName))) :
    (∀ result, run.run = some result → run.Classified result) ↔
      (run.Expired ∨ workerYieldedExceptionCode ∈ run.cancels) ∧
        workerAbortedExceptionCode ∉ run.cancels := by
  have hleaves : run.code.leaves = [.timeoutError typeName] := leaves_of_ending he rfl
  by_cases hb : run.budget = .cancelledAwait
  · rw [classified_iff_of_cancelledAwait hb (by simp [he])]
    simp [hleaves,he,hb,PyException.jobError?,TaskRun.Expired]
  · have hrun : run.run = some (run.workerException workerYieldedExceptionCode typeName) := by
      simp [TaskRun.run,awaited_of_raised he hb]
    rw [classified_iff_of_run hrun,classified_workerException]
    simp [hleaves,he,PyException.jobError?,yielded_ne_aborted]

/-- Every other exception is a general one, and the job exceptions inside it are lost. -/
lemma classified_iff_of_general {e : Raised PyException} (he : run.code.ending = .raised e)
    (hrun : run.awaited = .raised e → run.run =
      some (run.workerException workerGeneralExceptionCode (TaskRun.otherType e))) :
    (∀ result, run.run = some result → run.Classified result) ↔
      e.leaves.filterMap PyException.jobError? = [] ∧
        (run.budget = .cancelledAwait ∨
          run.budget = .inTime ∧ workerYieldedExceptionCode ∉ run.cancels) ∧
        workerAbortedExceptionCode ∉ run.cancels := by
  have hleaves : run.code.leaves = e.leaves := leaves_of_ending he rfl
  by_cases hb : run.budget = .cancelledAwait
  · rw [classified_iff_of_cancelledAwait hb (by simp [he])]
    simp [hleaves,he,hb]
  · rw [classified_iff_of_run (hrun (awaited_of_raised he hb)),classified_workerException,hleaves]
    cases hb' : run.budget <;>
      simp_all [TaskRun.Expired,general_ne_yielded,general_ne_aborted]

/-- `run` classifies exactly the clear endings right. -/
theorem classified_iff (run : TaskRun) :
    (∀ result, run.run = some result → run.Classified result) ↔ run.Clear := by
  unfold TaskRun.Clear
  cases he : run.code.ending with
  | exited => simp [TaskRun.run,TaskRun.awaited,he]
  | completed => exact classified_iff_of_completed he
  | cancelled args => exact classified_iff_of_cancelled he
  | raised e =>
    cases e with
    | group errors =>
      have h := classified_iff_of_general he fun ha => by simp only [TaskRun.run,ha]
      simpa using h
    | single e =>
      cases e with
      | jobExceptionError code content => exact classified_iff_of_jobExceptionError he
      | timeoutError typeName => exact classified_iff_of_timeoutError he
      | other typeName =>
        have h := classified_iff_of_general he fun ha => by simp only [TaskRun.run,ha]
        simpa [PyException.jobError?] using h

/-- The end of a `VMTask` whose image cannot be decompressed: one of the two tasks of its group
raises while the other is under way and is cancelled. -/
def undecompressedRun : TaskRun where
  code := .taskGroup
    [.taskGroup
      [.ends .completed,.ends (.raised (.single
        (.jobExceptionError "kvmmanager.ImageDecompressionError" "Failed to decompress")))]
      (.ends .completed) (.ends .completed),
     .ends (.cancelled [])]
    (.ends .completed) (.ends .completed)
  cancels := []
  pendingResult := ⟨"kvmmanager",none,none,some ⟨none,none,none,none⟩,none⟩
  returnsPending := true
  budget := .inTime
  traceback := ""

theorem not_classified_undecompressedRun :
    ¬ ∀ run : TaskRun, ∀ result, run.run = some result → run.Classified result := by
  intro h
  have hrun : undecompressedRun.run = some
      (undecompressedRun.workerException workerGeneralExceptionCode "builtins.ExceptionGroup") :=
    rfl
  have hjob : ("kvmmanager.ImageDecompressionError","Failed to decompress") ∈
      undecompressedRun.code.leaves.filterMap PyException.jobError? := by decide
  exact absurd ((h _ _ hrun).jobError _ hjob).2 (by simp [TaskRun.workerException])

end Classification
end LiveKBench.KCore
