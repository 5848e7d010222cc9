import LiveKBench.KArena.Verdict
import LiveKBench.Lib.OrderedMap
import LiveKBench.Lib.Traverse

/-! The client's own verdicts: `kBench.poll_kgym_evaluation` waits for the jobs of an evaluation and
then classifies each of them in its own loops, without `interpret_kgym_verdict`. -/
namespace LiveKBench.KClient
open KCore KArena Lib

/-- What stands first: the fields of a `kVMManagerResult`, or the exception of reading one from
`None` or from the result of another worker. -/
def readResult (workerResult : Option JobResult) : Except PyError VMManagerFields :=
  match workerResult.bind JobResult.vmManager with
  | none => .error .attributeError
  | some fields => .ok fields

/-- The loop that collects the results of the machines. -/
def collectResults (jobWorkers : List JobWorker) : List (Option JobResult) :=
  jobWorkers.foldl (fun results worker =>
    if worker.workerType = "kvmmanager" then results ++ [worker.workerResult] else results) []

/-- One pass of the loop that looks for the image ability. -/
def imagePass (er : EvaluationResult) (result : VMManagerFields) : EvaluationResult :=
  if result.imageAbility = some .normal then { er with image := some .normal }
  else if result.imageAbility = some .warning ∧ er.image ≠ some .normal then
    { er with image := some .warning }
  else er

def scanImage (er : EvaluationResult) (results : List (Option JobResult)) :
    Except PyError EvaluationResult :=
  results.foldlM (fun er workerResult => (readResult workerResult).map (imagePass er)) er

/-- The inner loop over the crashes of one machine, with its flag `found`. -/
def scanCrashes (er : EvaluationResult) : List Crash → Except PyError (EvaluationResult × Bool)
  | [] => .ok (er,false)
  | crash :: crashes =>
    if crash.crashType = .special then scanCrashes er crashes
    else match crash.incidents with
      | [] => .error .indexError
      | incident :: _ => .ok
        ({ er with
            evaluation := .reproduced
            title := some crash.title
            resources := some incident },true)

/-- The outer loop over the machines, left once the inner one has `found` a crash. -/
def scanResults (er : EvaluationResult) : List (Option JobResult) → Except PyError EvaluationResult
  | [] => .ok er
  | workerResult :: results => do
    let result ← readResult workerResult
    match result.crashes with
    | none => scanResults er results
    | some crashes =>
      let (er,found) ← scanCrashes er crashes
      if found then return er else scanResults er results

/-- One pass of the loop over the receipt. -/
def classifyJob (jobId : JobId) (jobCtx : JobContext) : Except PyError EvaluationResult :=
  let er : EvaluationResult :=
    { jobId := jobId, jobContext := jobCtx, status := jobCtx.status, evaluation := .error,
      image := none, title := none, resources := none }
  if jobCtx.status ≠ .finished then
    match jobCtx.jobWorkers with
    | [] => .error .indexError
    | builder :: _ =>
      match builder.workerResult with
      | none => .error .attributeError
      | some result =>
        match result.jobException with
        | none => .ok er
        | some e =>
          if e.code ∈ builderErrors then .ok { er with evaluation := .compilationError } else .ok er
  else do
    let results := collectResults jobCtx.jobWorkers
    let er ← scanImage { er with image := some .error } results
    if er.image = some .error then return { er with evaluation := .imageError }
    else scanResults { er with evaluation := .notReproduced, resources := none } results

/-- The loop over the receipt, once the jobs were waited for. -/
def pollKgymEvaluation (getJob : JobId → Except PyError JobContext)
    (receipt : OrderedMap String JobId) : Except PyError (OrderedMap String EvaluationResult) :=
  receipt.rows.foldlM (fun ret entry => do
    let jobCtx ← getJob entry.2
    let er ← classifyJob entry.2 jobCtx
    return ret.set entry.1 er) OrderedMap.empty

/-- The two verdicts on one job: both raise, or both give the same evaluation, image, title and
resources. -/
def SameVerdict : Except PyError EvaluationResult → Except PyError EvaluationResult → Prop
  | .error _, .error _ => True
  | .ok a, .ok b => a.evaluation = b.evaluation ∧ a.image = b.image ∧ a.title = b.title ∧
      a.resources = b.resources
  | _, _ => False

/-- The job has no stages, or its first stage reported a result. -/
def BuilderReported (jobCtx : JobContext) : Prop :=
  ∀ builder ∈ jobCtx.jobWorkers.head?, builder.workerResult ≠ none

section Agreement
variable {jobCtx : JobContext} {jobId : JobId} {er : EvaluationResult}

lemma collectResults_eq (jobWorkers : List JobWorker) : collectResults jobWorkers =
    (jobWorkers.filter fun w => w.workerType = "kvmmanager").map JobWorker.workerResult := by
  have h : ∀ acc : List (Option JobResult), jobWorkers.foldl (fun results worker =>
      if worker.workerType = "kvmmanager" then results ++ [worker.workerResult] else results) acc =
      acc ++ (jobWorkers.filter fun w => w.workerType = "kvmmanager").map
        JobWorker.workerResult := by
    induction jobWorkers with
    | nil => simp
    | cons worker jobWorkers ih =>
      intro acc
      by_cases hw : worker.workerType = "kvmmanager" <;> simp [ih,hw]
  exact h []

/-- The machines' results as `interpret_kgym_verdict` reads them. -/
lemma mapM_collectResults :
    (collectResults jobCtx.jobWorkers).mapM readResult = (vmWorkers jobCtx).mapM vmResult := by
  rw [collectResults_eq,List.mapM_map]
  rfl

lemma imagePass_eq {image : ImageAbility} (h : er.image = some image) (result : VMManagerFields) :
    imagePass er result = { er with image := some (betterImage image result) } := by
  unfold imagePass betterImage
  simp only [h,ne_eq,Option.some.injEq]
  split
  · rfl
  · split
    · rfl
    · rw [← h]

lemma foldl_imagePass {image : ImageAbility} (h : er.image = some image)
    (rs : List VMManagerFields) :
    rs.foldl imagePass er = { er with image := some (rs.foldl betterImage image) } := by
  induction rs generalizing er image with
  | nil => simp [← h]
  | cons result rs ih => rw [List.foldl_cons,imagePass_eq h,ih rfl,List.foldl_cons]

/-- The loop over the abilities stops where a result is missing, and folds the abilities
otherwise. -/
lemma scanImage_eq {image : ImageAbility} (h : er.image = some image)
    (results : List (Option JobResult)) : scanImage er results =
      (results.mapM readResult).map fun rs =>
        { er with image := some (rs.foldl betterImage image) } := by
  rw [scanImage,foldlM_map_eq]
  simp only [foldl_imagePass h]

/-- What a found crash makes of the evaluation. -/
def reproducedBy (er : EvaluationResult) (crash : Crash) : Except PyError EvaluationResult :=
  match crash.incidents with
  | [] => .error .indexError
  | incident :: _ => .ok
    { er with
        evaluation := .reproduced
        title := some crash.title
        resources := some incident }

lemma scanCrashes_eq (crashes : List Crash) : scanCrashes er crashes =
    match crashes.find? fun crash => crash.crashType ≠ .special with
    | none => .ok (er,false)
    | some crash => (reproducedBy er crash).map fun er => (er,true) := by
  induction crashes with
  | nil => rfl
  | cons crash crashes ih =>
    rw [scanCrashes]
    by_cases hc : crash.crashType = .special
    · rw [if_pos hc,ih,List.find?_cons_of_neg (by simp [hc])]
    · rw [if_neg hc,List.find?_cons_of_pos (by simp [hc])]
      simp only [reproducedBy]
      cases crash.incidents <;> rfl

lemma scanResults_eq {results : List (Option JobResult)} {rs : List VMManagerFields}
    (h : results.mapM readResult = .ok rs) : scanResults er results =
    match firstCrash rs with
    | none => .ok er
    | some crash => reproducedBy er crash := by
  rw [mapM_eq_ok_iff] at h
  induction h with
  | nil => rfl
  | @cons workerResult result results rs hr _ ih =>
    rw [scanResults,hr]
    change (match result.crashes with | none => _ | some crashes => _) = _
    cases hc : result.crashes with
    | none =>
      have hf : firstCrash (result :: rs) = firstCrash rs := by simp [firstCrash,hc]
      rw [hf]
      exact ih
    | some crashes =>
      simp only [scanCrashes_eq]
      cases hf : crashes.find? fun crash => crash.crashType ≠ .special with
      | none =>
        have hfirst : firstCrash (result :: rs) = firstCrash rs := by
          simp only [firstCrash,List.findSome?_cons,hc,Option.bind_some,hf]
        rw [hfirst]
        exact ih
      | some crash =>
        have hfirst : firstCrash (result :: rs) = some crash := by
          simp only [firstCrash,List.findSome?_cons,hc,Option.bind_some,hf]
        rw [hfirst]
        change ((reproducedBy er crash).map (fun er => (er,true)) >>= _) = reproducedBy er crash
        cases reproducedBy er crash <;> rfl

/-- On a finished job the two implementations compute the same. -/
theorem classifyJob_of_finished (hs : jobCtx.status = .finished) :
    classifyJob jobId jobCtx = interpretKgymVerdict jobCtx jobId := by
  have himages := @scanImage_eq
    { jobId := jobId, jobContext := jobCtx, status := jobCtx.status, evaluation := .error,
      image := some .error, title := none, resources := none } _ rfl
    (collectResults jobCtx.jobWorkers)
  rw [classifyJob,interpretKgymVerdict,if_neg (by simp [hs]),if_neg (by simp [hs])]
  simp only [himages,mapM_collectResults]
  cases hr : (vmWorkers jobCtx).mapM vmResult with
  | error e => rfl
  | ok rs =>
    have hloop := @scanResults_eq
      { jobId := jobId, jobContext := jobCtx, status := jobCtx.status, evaluation := .notReproduced,
        image := some (bestImage rs), title := none, resources := none } _ _
      (mapM_collectResults.trans hr)
    change (if some (bestImage rs) = some .error then _ else scanResults _ _) =
      (if bestImage rs = .error then _ else _)
    by_cases himage : bestImage rs = .error
    · rw [if_pos (by rw [himage]),if_pos himage]
      rfl
    · rw [if_neg (by simpa using himage),if_neg himage]
      refine hloop.trans ?_
      cases firstCrash rs with
      | none => rfl
      | some crash =>
        simp only [reproducedBy]
        cases crash.incidents <;> rfl

/-- So they do on a job whose first stage reported. -/
theorem classifyJob_of_reported (hs : jobCtx.status ≠ .finished) (h : BuilderReported jobCtx) :
    classifyJob jobId jobCtx = interpretKgymVerdict jobCtx jobId := by
  rw [classifyJob,interpretKgymVerdict,if_pos hs,if_pos hs]
  cases hw : jobCtx.jobWorkers with
  | nil => rfl
  | cons builder jobWorkers =>
    have hb : builder.workerResult ≠ none := h builder (by simp [hw])
    obtain ⟨result,hresult⟩ := Option.ne_none_iff_exists'.mp hb
    simp only [builderVerdict,hresult,Option.bind_some]
    cases he : result.jobException with
    | none => rfl
    | some e => by_cases hcode : e.code ∈ builderErrors <;> simp [hcode]

/-- A job that ended before its first stage reported has a verdict from `interpret_kgym_verdict`
and raises in the client's loop. -/
theorem classifyJob_of_unreported (hs : jobCtx.status ≠ .finished) (h : ¬ BuilderReported jobCtx) :
    classifyJob jobId jobCtx = .error .attributeError ∧
      ∃ er, interpretKgymVerdict jobCtx jobId = .ok er ∧ er.evaluation = .error := by
  unfold BuilderReported at h
  push Not at h
  obtain ⟨builder,hb,hnone⟩ := h
  cases hw : jobCtx.jobWorkers with
  | nil => simp [hw] at hb
  | cons first jobWorkers =>
    obtain rfl : first = builder := by simpa [hw] using hb
    constructor
    · simp only [classifyJob,if_pos hs,hw,hnone]
    · rw [interpretKgymVerdict,if_pos hs,hw]
      exact ⟨_,rfl,by simp [builderVerdict,hnone]⟩

lemma sameVerdict_refl (r : Except PyError EvaluationResult) : SameVerdict r r := by
  cases r <;> simp [SameVerdict]

/-- The two implementations agree exactly on the jobs that finished or whose first stage
reported. -/
theorem sameVerdict_classifyJob_iff (jobId : JobId) (jobCtx : JobContext) :
    SameVerdict (classifyJob jobId jobCtx) (interpretKgymVerdict jobCtx jobId) ↔
      jobCtx.status = .finished ∨ BuilderReported jobCtx := by
  by_cases hs : jobCtx.status = .finished
  · rw [classifyJob_of_finished hs]
    simp [hs,sameVerdict_refl]
  · by_cases hb : BuilderReported jobCtx
    · rw [classifyJob_of_reported hs hb]
      simp [hb,sameVerdict_refl]
    · obtain ⟨hclassify,er,hinterpret,-⟩ := @classifyJob_of_unreported _ jobId hs hb
      rw [hclassify,hinterpret]
      simp [SameVerdict,hs,hb]

/-- A job that was aborted while it was pending. -/
def abortedWhilePending : JobContext where
  jobId := 1
  createdTime := 0
  modifiedTime := 0
  status := .aborted
  currentWorkerHostname := ""
  currentWorker := 0
  jobWorkers := [⟨"kbuilder",⟨"kbuilder",""⟩,none⟩,⟨"kvmmanager",⟨"kvmmanager",""⟩,none⟩]
  tags := []

theorem not_sameVerdict_abortedWhilePending :
    ¬ ∀ (jobId : JobId) (jobCtx : JobContext),
      SameVerdict (classifyJob jobId jobCtx) (interpretKgymVerdict jobCtx jobId) := by
  intro h
  have hsame := h 1 abortedWhilePending
  have hclassify : classifyJob 1 abortedWhilePending = .error .attributeError := rfl
  have hinterpret : ∃ er, interpretKgymVerdict abortedWhilePending 1 = .ok er := ⟨_,rfl⟩
  obtain ⟨er,her⟩ := hinterpret
  rw [hclassify,her] at hsame
  exact hsame

/-- Where every job of the receipt finished or its first stage reported, the client returns the
verdicts that `interpret_kgym_verdict` gives. -/
theorem pollKgymEvaluation_eq {getJob : JobId → Except PyError JobContext}
    {receipt : OrderedMap String JobId}
    (h : ∀ entry ∈ receipt.rows, ∀ jobCtx, getJob entry.2 = .ok jobCtx →
      jobCtx.status = .finished ∨ BuilderReported jobCtx) :
    pollKgymEvaluation getJob receipt = receipt.rows.foldlM (fun ret entry => do
      let jobCtx ← getJob entry.2
      let er ← interpretKgymVerdict jobCtx entry.2
      return ret.set entry.1 er) OrderedMap.empty := by
  unfold pollKgymEvaluation
  apply foldlM_congr
  intro entry hentry ret
  cases hjob : getJob entry.2 with
  | error e => rfl
  | ok jobCtx =>
    change (classifyJob entry.2 jobCtx >>= _) = (interpretKgymVerdict jobCtx entry.2 >>= _)
    by_cases hs : jobCtx.status = .finished
    · rw [classifyJob_of_finished hs]
    · rw [classifyJob_of_reported hs ((h entry hentry jobCtx hjob).resolve_left hs)]

end Agreement
end LiveKBench.KClient
