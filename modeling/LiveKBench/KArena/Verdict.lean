import LiveKBench.KCore.Models

/-! How a finished or aborted job becomes a verdict, and how the verdict is stored as the
crash-resolution evaluation of an agent's patch. -/
namespace LiveKBench.KArena
open KCore

inductive Evaluation
  | notReproduced
  | reproduced
  | compilationError
  | imageError
  | error
  deriving DecidableEq, Repr

/-- The text that the database keeps. -/
def Evaluation.text : Evaluation → String
  | .notReproduced => "notReproduced"
  | .reproduced => "reproduced"
  | .compilationError => "compilationError"
  | .imageError => "imageError"
  | .error => "error"

structure EvaluationResult where
  jobId : JobId
  jobContext : JobContext
  status : JobStatus
  evaluation : Evaluation
  image : Option ImageAbility
  title : Option String
  resources : Option CrashIncident
  deriving DecidableEq, Repr

def builderErrors : List String := ["kbuilder.KernelBuildError","kbuilder.PatchApplicationError"]

/-- The verdict on a job that did not finish, from what its first stage raised. -/
def builderVerdict (builder : JobWorker) : Evaluation :=
  match builder.workerResult.bind JobResult.jobException with
  | none => .error
  | some e => if e.code ∈ builderErrors then .compilationError else .error

/-- `w.workerResult` as a `kVMManagerResult`; reading the field of one on anything else fails. -/
def vmResult (w : JobWorker) : Except PyError VMManagerFields :=
  match w.workerResult.bind JobResult.vmManager with
  | none => .error .attributeError
  | some fields => .ok fields

def vmWorkers (jobCtx : JobContext) : List JobWorker :=
  jobCtx.jobWorkers.filter fun w => w.workerType = "kvmmanager"

/-- One pass of the loop that looks for the best image ability. -/
def betterImage (image : ImageAbility) (result : VMManagerFields) : ImageAbility :=
  if result.imageAbility = some .normal then .normal
  else if result.imageAbility = some .warning ∧ image ≠ .normal then .warning
  else image

def bestImage (results : List VMManagerFields) : ImageAbility := results.foldl betterImage .error

/-- The first crash that is not special, in the order of the stages. -/
def firstCrash (results : List VMManagerFields) : Option Crash :=
  results.findSome? fun result =>
    result.crashes.bind fun crashes => crashes.find? fun crash => crash.crashType ≠ .special

/-- A machine found the image usable. -/
def Usable (results : List VMManagerFields) : Prop :=
  ∃ result ∈ results, result.imageAbility = some .normal ∨ result.imageAbility = some .warning

/-- The crashes of all machines that are not special, in the order of the stages. -/
def realCrashes (results : List VMManagerFields) : List Crash :=
  (results.flatMap fun result => result.crashes.getD []).filter fun crash =>
    crash.crashType ≠ .special

def interpretKgymVerdict (jobCtx : JobContext) (jobId : JobId) : Except PyError EvaluationResult :=
  let er : EvaluationResult :=
    { jobId := jobId, jobContext := jobCtx, status := jobCtx.status, evaluation := .error,
      image := none, title := none, resources := none }
  if jobCtx.status ≠ .finished then
    match jobCtx.jobWorkers with
    | [] => .error .indexError
    | builder :: _ => .ok { er with evaluation := builderVerdict builder }
  else do
    let results ← (vmWorkers jobCtx).mapM vmResult
    let image := bestImage results
    if image = .error then return { er with image := some image, evaluation := .imageError }
    match firstCrash results with
    | none => return { er with image := some image, evaluation := .notReproduced }
    | some crash =>
      match crash.incidents with
      | [] => .error .indexError
      | incident :: _ =>
        return { er with
          image := some image
          evaluation := .reproduced
          title := some crash.title
          resources := some incident }

/-- A row of `patch_crash_resolution_evaluations`; the job's number is kept as text. -/
structure PatchCrashResolutionEvaluation where
  evalId : ℕ
  agentPatchId : ℕ
  kCacheId : ℕ
  kGymEvalJobId : JobId
  status : String
  systemMessage : String
  kGymEvaluation : Option Evaluation
  kGymEvaluationResult : Option EvaluationResult
  deriving DecidableEq, Repr

/-- `poll_eval` on the stored record and the job that the scheduler returns; the answer is `none`
while the job is in progress. -/
def pollEval (evalRecord : PatchCrashResolutionEvaluation) (jobCtx : JobContext) :
    Except PyError (Option PatchCrashResolutionEvaluation) :=
  match evalRecord.kGymEvaluation with
  | some evaluation => .error (.valueError
      s!"Evaluation {evalRecord.evalId} already polled: kGymEvaluation={evaluation.text}")
  | none =>
    if jobCtx.status ∉ [.finished,.aborted] then .ok none
    else do
      let verdict ← interpretKgymVerdict jobCtx evalRecord.kGymEvalJobId
      return some { evalRecord with
        status := "success"
        systemMessage := s!"Evaluation completed: {verdict.evaluation.text}"
        kGymEvaluation := some verdict.evaluation
        kGymEvaluationResult := some verdict }

section Verdict
variable {jobCtx : JobContext} {results : List VMManagerFields}

lemma foldl_betterImage_eq_normal (image : ImageAbility) :
    results.foldl betterImage image = .normal ↔
      image = .normal ∨ ∃ result ∈ results, result.imageAbility = some .normal := by
  induction results generalizing image with
  | nil => simp
  | cons result results ih =>
    rw [List.foldl_cons,ih]
    by_cases hn : result.imageAbility = some .normal
    · simp [betterImage,hn]
    · have hstep : betterImage image result = .normal ↔ image = .normal := by
        by_cases hw : result.imageAbility = some .warning ∧ image ≠ .normal
        · simp [betterImage,hw]
        · simp [betterImage,hn,hw]
      simp [hstep,hn]

lemma foldl_betterImage_eq_error (image : ImageAbility) :
    results.foldl betterImage image = .error ↔ image = .error ∧ ¬Usable results := by
  induction results generalizing image with
  | nil => simp [Usable]
  | cons result results ih =>
    rw [List.foldl_cons,ih]
    have hstep : betterImage image result = .error ↔
        image = .error ∧ result.imageAbility ≠ some .normal ∧
          result.imageAbility ≠ some .warning := by
      by_cases hn : result.imageAbility = some .normal
      · simp [betterImage,hn]
      · by_cases hw : result.imageAbility = some .warning
        · cases image <;> simp [betterImage,hw]
        · simp [betterImage,hn,hw]
    simp only [hstep,Usable,List.mem_cons,exists_eq_or_imp,not_or]
    tauto

/-- One normal image is enough. -/
theorem bestImage_eq_normal_iff : bestImage results = .normal ↔
    ∃ result ∈ results, result.imageAbility = some .normal := by
  simp [bestImage,foldl_betterImage_eq_normal]

/-- The best image is usable exactly if one of them is. -/
theorem bestImage_eq_error_iff : bestImage results = .error ↔ ¬Usable results := by
  simp [bestImage,foldl_betterImage_eq_error]

lemma realCrashes_cons (result : VMManagerFields) :
    realCrashes (result :: results) =
      ((result.crashes.getD []).filter fun crash => crash.crashType ≠ .special) ++
        realCrashes results := by
  simp [realCrashes,List.filter_append]

/-- The loop finds the first crash that is not special. -/
theorem firstCrash_eq (results : List VMManagerFields) :
    firstCrash results = (realCrashes results).head? := by
  unfold firstCrash realCrashes
  rw [List.head?_filter,List.find?_flatMap]
  congr 1
  funext result
  cases result.crashes <;> rfl

lemma firstCrash_of_no_crashes (h : ∀ result ∈ results, result.crashes = some []) :
    firstCrash results = none := by
  unfold firstCrash
  rw [List.findSome?_eq_none_iff]
  intro result hr
  simp [h result hr]

/-- A finished job one of whose images is normal and none of whose machines saved a crash counts as
a crash that did not reproduce. -/
theorem interpretKgymVerdict_of_no_crashes (jobId : JobId) (hs : jobCtx.status = .finished)
    (hr : (vmWorkers jobCtx).mapM vmResult = .ok results)
    (hn : ∃ result ∈ results, result.imageAbility = some .normal)
    (hc : ∀ result ∈ results, result.crashes = some []) :
    interpretKgymVerdict jobCtx jobId = .ok
      { jobId := jobId, jobContext := jobCtx, status := jobCtx.status,
        evaluation := .notReproduced, image := some .normal, title := none,
        resources := none } := by
  have himage : bestImage results = .normal := bestImage_eq_normal_iff.mpr hn
  have hcrash : firstCrash results = none := firstCrash_of_no_crashes hc
  rw [interpretKgymVerdict,if_neg (by simp [hs]),hr]
  change (if bestImage results = .error then _ else _) = _
  rw [himage,hcrash]
  rfl

end Verdict
end LiveKBench.KArena
