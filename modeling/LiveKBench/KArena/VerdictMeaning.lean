import LiveKBench.KArena.Verdict
import LiveKBench.KVMManager.VMTask
import LiveKBench.Lib.Shuffle
import LiveKBench.Lib.Traverse

/-! The verdict on a job in terms of what its stages report, and when the function that finds it
comes to an end with it, in whatever order the machines ran. -/
namespace LiveKBench.KArena
open KCore Lib

/-- The results of the stages that ran virtual machines, in the order of the stages. -/
def vmFields (jobCtx : JobContext) : List VMManagerFields :=
  (vmWorkers jobCtx).filterMap fun w => w.workerResult.bind JobResult.vmManager

/-- Every stage that ran virtual machines has a result. -/
def HasResults (jobCtx : JobContext) : Prop :=
  ∀ w ∈ vmWorkers jobCtx, ∃ fields, w.workerResult.bind JobResult.vmManager = some fields

/-- What stage 0 raised is one of the two errors of the build. -/
def BuildFailed (jobCtx : JobContext) : Prop :=
  ∃ builder ∈ jobCtx.jobWorkers.head?, ∃ result ∈ builder.workerResult,
    ∃ e ∈ result.jobException, e.code ∈ builderErrors

/-- Normal is better than warning, and warning than error. -/
def bestAbility (results : List VMManagerFields) : ImageAbility :=
  if ∃ result ∈ results, result.imageAbility = some .normal then .normal
  else if ∃ result ∈ results, result.imageAbility = some .warning then .warning
  else .error

/-- The verdict that the stages of the job call for. -/
structure VerdictOn (jobCtx : JobContext) (er : EvaluationResult) : Prop where
  compilationError : jobCtx.status ≠ .finished →
    (er.evaluation = .compilationError ↔ BuildFailed jobCtx)
  error : jobCtx.status ≠ .finished → (er.evaluation = .error ↔ ¬BuildFailed jobCtx)
  image : jobCtx.status = .finished → er.image = some (bestAbility (vmFields jobCtx))
  imageError : jobCtx.status = .finished →
    (er.evaluation = .imageError ↔ ¬Usable (vmFields jobCtx))
  reproduced : jobCtx.status = .finished → (er.evaluation = .reproduced ↔
    Usable (vmFields jobCtx) ∧ realCrashes (vmFields jobCtx) ≠ [])
  notReproduced : jobCtx.status = .finished → (er.evaluation = .notReproduced ↔
    Usable (vmFields jobCtx) ∧ realCrashes (vmFields jobCtx) = [])
  firstCrash : jobCtx.status = .finished → Usable (vmFields jobCtx) →
    ∀ crash ∈ (realCrashes (vmFields jobCtx)).head?,
      er.title = some crash.title ∧ er.resources = crash.incidents.head?

/-- The stages that ran virtual machines have changed places among themselves. -/
def StagesPermuted (jobWorkers jobWorkers' : List JobWorker) : Prop :=
  Shuffles (fun w => w.workerType = "kvmmanager") jobWorkers jobWorkers'

/-- The job with its stages in another order. -/
def reordered (jobCtx : JobContext) (jobWorkers : List JobWorker) : JobContext :=
  { jobCtx with jobWorkers := jobWorkers }

/-- The job gets the verdict that its stages call for, and one with the same evaluation and image
whatever the order of its machines. -/
def Characterised (jobCtx : JobContext) (jobId : JobId) : Prop :=
  ∃ er, interpretKgymVerdict jobCtx jobId = .ok er ∧ VerdictOn jobCtx er ∧
    ∀ jobWorkers, StagesPermuted jobCtx.jobWorkers jobWorkers →
      ∃ er', interpretKgymVerdict (reordered jobCtx jobWorkers) jobId = .ok er' ∧
        er'.evaluation = er.evaluation ∧ er'.image = er.image

/-- A job that did not finish has a first stage, and if that ran virtual machines, the others of its
kind raised the same; where the image is usable, the first crash that a machine lists and that is
not special has an incident. -/
def Settled (jobCtx : JobContext) : Prop :=
  (jobCtx.status ≠ .finished → ∃ builder ∈ jobCtx.jobWorkers.head?,
    builder.workerType = "kvmmanager" →
      ∀ w ∈ vmWorkers jobCtx, builderVerdict w = builderVerdict builder) ∧
  (jobCtx.status = .finished → Usable (vmFields jobCtx) →
    ∀ result ∈ vmFields jobCtx, ∀ crash ∈ (realCrashes [result]).head?, crash.incidents ≠ [])

section Meaning
variable {jobCtx : JobContext} {jobId : JobId} {results results' : List VMManagerFields}
  {jobWorkers : List JobWorker}

lemma mapM_vmResult {ws : List JobWorker}
    (h : ∀ w ∈ ws, ∃ fields, w.workerResult.bind JobResult.vmManager = some fields) :
    ws.mapM vmResult = .ok (ws.filterMap fun w => w.workerResult.bind JobResult.vmManager) := by
  induction ws with
  | nil => rfl
  | cons w ws ih =>
    obtain ⟨fields,hf⟩ := h w (by simp)
    have hread : vmResult w = .ok fields := by rw [vmResult,hf]
    rw [List.mapM_cons,hread,ih fun w' hw' => h w' (by simp [hw']),List.filterMap_cons,hf]
    rfl

/-- The loop finds the best ability. -/
theorem bestImage_eq (results : List VMManagerFields) : bestImage results = bestAbility results := by
  rw [bestAbility]
  split
  · rename_i hn
    exact bestImage_eq_normal_iff.mpr hn
  · rename_i hn
    split
    · rename_i hw
      obtain ⟨result,hm,hr⟩ := hw
      cases hb : bestImage results with
      | normal => exact absurd (bestImage_eq_normal_iff.mp hb) hn
      | warning => rfl
      | error => exact absurd ⟨result,hm,.inr hr⟩ (bestImage_eq_error_iff.mp hb)
    · rename_i hw
      refine bestImage_eq_error_iff.mpr ?_
      intro ⟨result,hm,hr⟩
      obtain hr | hr := hr
      · exact hn ⟨result,hm,hr⟩
      · exact hw ⟨result,hm,hr⟩

lemma bestAbility_eq_error : bestAbility results = .error ↔ ¬Usable results := by
  rw [← bestImage_eq,bestImage_eq_error_iff]

section Perm
variable (hp : results.Perm results')
include hp

lemma usable_iff_of_perm : Usable results ↔ Usable results' := by
  simp only [Usable,hp.mem_iff]

lemma bestAbility_of_perm : bestAbility results = bestAbility results' := by
  simp only [bestAbility,hp.mem_iff]

lemma realCrashes_perm : (realCrashes results).Perm (realCrashes results') :=
  (hp.flatMap_right _).filter _

end Perm

/-- A crash that some machine lists first is among the real ones, and the first of all is the first
of some machine. -/
lemma head?_realCrashes {crash : Crash} (h : crash ∈ (realCrashes results).head?) :
    ∃ result ∈ results, crash ∈ (realCrashes [result]).head? := by
  induction results with
  | nil => simp [realCrashes] at h
  | cons result results ih =>
    have happend : realCrashes (result :: results) =
        realCrashes [result] ++ realCrashes results := by
      simp [realCrashes]
    rw [happend,List.head?_append] at h
    cases hf : (realCrashes [result]).head? with
    | none =>
      rw [hf,Option.none_or] at h
      obtain ⟨result',hm,hr⟩ := ih h
      exact ⟨result',List.mem_cons_of_mem _ hm,hr⟩
    | some crash' =>
      rw [hf] at h
      obtain rfl : crash' = crash := by simpa using h
      exact ⟨result,List.mem_cons_self,hf⟩

/-- What the function returns for a finished job, by the results of its machines. -/
theorem interpretKgymVerdict_finished (hs : jobCtx.status = .finished) (h : HasResults jobCtx) :
    interpretKgymVerdict jobCtx jobId =
      if bestAbility (vmFields jobCtx) = .error then
        .ok ⟨jobId,jobCtx,jobCtx.status,.imageError,some .error,none,none⟩
      else
        match (realCrashes (vmFields jobCtx)).head? with
        | none => .ok ⟨jobId,jobCtx,jobCtx.status,.notReproduced,
            some (bestAbility (vmFields jobCtx)),none,none⟩
        | some crash =>
          match crash.incidents with
          | [] => .error .indexError
          | incident :: _ => .ok ⟨jobId,jobCtx,jobCtx.status,.reproduced,
              some (bestAbility (vmFields jobCtx)),some crash.title,some incident⟩ := by
  have hresults : (vmWorkers jobCtx).mapM vmResult = .ok (vmFields jobCtx) := mapM_vmResult h
  rw [interpretKgymVerdict,if_neg (by simp [hs]),hresults,← bestImage_eq,← firstCrash_eq]
  change (if bestImage (vmFields jobCtx) = .error then _ else _) = _
  split
  · rename_i herror
    rw [herror]
    rfl
  · cases firstCrash (vmFields jobCtx) with
    | none => rfl
    | some crash => cases crash.incidents <;> rfl

lemma vmWorkers_perm (hp : StagesPermuted jobCtx.jobWorkers jobWorkers) :
    (vmWorkers jobCtx).Perm (vmWorkers (reordered jobCtx jobWorkers)) :=
  hp.filter_perm

lemma vmFields_perm (hp : StagesPermuted jobCtx.jobWorkers jobWorkers) :
    (vmFields jobCtx).Perm (vmFields (reordered jobCtx jobWorkers)) :=
  (vmWorkers_perm hp).filterMap _

lemma hasResults_permuted (h : HasResults jobCtx)
    (hp : StagesPermuted jobCtx.jobWorkers jobWorkers) :
    HasResults (reordered jobCtx jobWorkers) :=
  fun w hw => h w ((vmWorkers_perm hp).mem_iff.mpr hw)

section Unfinished

lemma builderVerdict_cases (builder : JobWorker) :
    builderVerdict builder = .compilationError ∨ builderVerdict builder = .error := by
  rw [builderVerdict]
  split
  · exact .inr rfl
  · split
    · exact .inl rfl
    · exact .inr rfl

lemma builderVerdict_eq_iff {builder : JobWorker} (h : builder ∈ jobCtx.jobWorkers.head?) :
    builderVerdict builder = .compilationError ↔ BuildFailed jobCtx := by
  have hhead : jobCtx.jobWorkers.head? = some builder := h
  cases hr : builder.workerResult with
  | none => simp [builderVerdict,BuildFailed,hhead,hr]
  | some result => cases he : result.jobException <;> simp [builderVerdict,BuildFailed,hhead,hr,he]

lemma interpretKgymVerdict_unfinished (jobCtx : JobContext) (hs : jobCtx.status ≠ .finished)
    {builder : JobWorker} (h : builder ∈ jobCtx.jobWorkers.head?) : interpretKgymVerdict jobCtx jobId =
      .ok ⟨jobId,jobCtx,jobCtx.status,builderVerdict builder,none,none,none⟩ := by
  obtain ⟨rest,hw⟩ : ∃ rest, jobCtx.jobWorkers = builder :: rest :=
    List.head?_eq_some_iff.mp h
  rw [interpretKgymVerdict,if_pos hs,hw]

theorem verdictOn_unfinished (hs : jobCtx.status ≠ .finished)
    {builder : JobWorker} (h : builder ∈ jobCtx.jobWorkers.head?) :
    VerdictOn jobCtx ⟨jobId,jobCtx,jobCtx.status,builderVerdict builder,none,none,none⟩ where
  compilationError _ := builderVerdict_eq_iff h
  error _ := by
    rw [← builderVerdict_eq_iff h]
    rcases builderVerdict_cases builder with hv | hv <;> simp [hv]
  image hf := absurd hf hs
  imageError hf := absurd hf hs
  reproduced hf := absurd hf hs
  notReproduced hf := absurd hf hs
  firstCrash hf := absurd hf hs

/-- The stage that comes first after a permutation raised what the first stage raised. -/
lemma head?_permuted {builder : JobWorker} (h : builder ∈ jobCtx.jobWorkers.head?)
    (hall : builder.workerType = "kvmmanager" →
      ∀ w ∈ vmWorkers jobCtx, builderVerdict w = builderVerdict builder)
    (hp : StagesPermuted jobCtx.jobWorkers jobWorkers) :
    ∃ builder' ∈ jobWorkers.head?, builderVerdict builder' = builderVerdict builder := by
  obtain ⟨rest,hw⟩ : ∃ rest, jobCtx.jobWorkers = builder :: rest := List.head?_eq_some_iff.mp h
  rw [hw] at hp
  by_cases hvm : builder.workerType = "kvmmanager"
  · cases jobWorkers with
    | nil => exact absurd hp.perm.length_eq (by simp)
    | cons builder' rest' =>
      have hmarked : builder'.workerType = "kvmmanager" := by
        simpa using hp.marked_head (by simpa using hvm)
      have hmem : builder' ∈ vmWorkers jobCtx := by
        rw [vmWorkers,List.mem_filter,hw]
        exact ⟨hp.perm.mem_iff.mpr List.mem_cons_self,by simpa using hmarked⟩
      exact ⟨builder',rfl,hall hvm builder' hmem⟩
  · exact ⟨builder,hp.head?_of_unmarked (by simpa using hvm),rfl⟩

end Unfinished

section Finished
variable (jobCtx : JobContext) (hs : jobCtx.status = .finished) (h : HasResults jobCtx)
include hs h

/-- Where the crash that counts has an incident, the verdict is the one called for. -/
theorem verdictOn_finished (hincident : Usable (vmFields jobCtx) →
      ∀ crash ∈ (realCrashes (vmFields jobCtx)).head?, crash.incidents ≠ []) :
    ∃ er, interpretKgymVerdict jobCtx jobId = .ok er ∧ VerdictOn jobCtx er := by
  rw [interpretKgymVerdict_finished hs h]
  by_cases hu : Usable (vmFields jobCtx)
  · have hbest : bestAbility (vmFields jobCtx) ≠ .error := fun he => bestAbility_eq_error.mp he hu
    rw [if_neg hbest]
    cases hc : (realCrashes (vmFields jobCtx)).head? with
    | none =>
      have hnil := List.head?_eq_none_iff.mp hc
      refine ⟨_,rfl,?_⟩
      constructor <;> simp [hs,hu,hnil]
    | some crash =>
      have hne : realCrashes (vmFields jobCtx) ≠ [] := by
        intro hnil
        simp [hnil] at hc
      cases hi : crash.incidents with
      | nil => exact absurd hi (hincident hu crash hc)
      | cons incident incidents =>
        simp only [hi]
        refine ⟨_,rfl,?_⟩
        constructor <;> simp [hs,hu,hne,hc,hi]
  · rw [if_pos (bestAbility_eq_error.mpr hu)]
    refine ⟨_,rfl,?_⟩
    constructor <;> simp [hs,hu,bestAbility_eq_error.mpr hu]

/-- Without an incident it raises. -/
theorem interpretKgymVerdict_raises (hu : Usable (vmFields jobCtx)) {crash : Crash}
    (hc : crash ∈ (realCrashes (vmFields jobCtx)).head?) (hi : crash.incidents = []) :
    interpretKgymVerdict jobCtx jobId = .error .indexError := by
  have hbest : bestAbility (vmFields jobCtx) ≠ .error := fun he => bestAbility_eq_error.mp he hu
  have hhead : (realCrashes (vmFields jobCtx)).head? = some crash := hc
  rw [interpretKgymVerdict_finished hs h,if_neg hbest,hhead]
  simp only [hi]

end Finished

/-- The evaluation and the image of a finished job depend on the machines as a collection. -/
lemma VerdictOn.eq_of_perm {jobCtx' : JobContext} {er er' : EvaluationResult}
    (hv : VerdictOn jobCtx er) (hv' : VerdictOn jobCtx' er') (hs : jobCtx.status = .finished)
    (hs' : jobCtx'.status = .finished) (hp : (vmFields jobCtx).Perm (vmFields jobCtx')) :
    er'.evaluation = er.evaluation ∧ er'.image = er.image := by
  have husable := usable_iff_of_perm hp
  have hnil : realCrashes (vmFields jobCtx) = [] ↔ realCrashes (vmFields jobCtx') = [] := by
    rw [← List.isEmpty_iff,← List.isEmpty_iff,(realCrashes_perm hp).isEmpty_eq]
  constructor
  · by_cases hu : Usable (vmFields jobCtx)
    · by_cases hr : realCrashes (vmFields jobCtx) = []
      · rw [(hv.notReproduced hs).mpr ⟨hu,hr⟩,
          (hv'.notReproduced hs').mpr ⟨husable.mp hu,hnil.mp hr⟩]
      · rw [(hv.reproduced hs).mpr ⟨hu,hr⟩,
          (hv'.reproduced hs').mpr ⟨husable.mp hu,fun hr' => hr (hnil.mpr hr')⟩]
    · rw [(hv.imageError hs).mpr hu,(hv'.imageError hs').mpr fun hu' => hu (husable.mpr hu')]
  · rw [hv.image hs,hv'.image hs',bestAbility_of_perm hp]

/-- Some order of the machines lets the first crash of a given machine count. -/
lemma exists_permuted_first {result : VMManagerFields} (hm : result ∈ vmFields jobCtx) :
    ∃ jobWorkers, StagesPermuted jobCtx.jobWorkers jobWorkers ∧
      ∃ rest, vmFields (reordered jobCtx jobWorkers) = result :: rest := by
  obtain ⟨w,hw,hr⟩ := List.mem_filterMap.mp hm
  obtain ⟨hmem,hvm⟩ := List.mem_filter.mp hw
  obtain ⟨jobWorkers,hp,hhead⟩ := Shuffles.exists_first (p := fun w => w.workerType = "kvmmanager")
    hmem hvm
  obtain ⟨rest,hrest⟩ := List.head?_eq_some_iff.mp hhead
  refine ⟨jobWorkers,hp,rest.filterMap fun w => w.workerResult.bind JobResult.vmManager,?_⟩
  change (jobWorkers.filter _).filterMap _ = _
  rw [hrest,List.filterMap_cons,hr]

lemma settled_of_characterised (h : jobCtx.status = .finished → HasResults jobCtx)
    (hc : Characterised jobCtx jobId) : Settled jobCtx := by
  obtain ⟨er,her,-,hperm⟩ := hc
  constructor
  · intro hs
    cases hw : jobCtx.jobWorkers with
    | nil => simp [interpretKgymVerdict,hs,hw] at her
    | cons builder rest =>
      have hhead : builder ∈ jobCtx.jobWorkers.head? := by rw [hw]; rfl
      refine ⟨builder,rfl,?_⟩
      intro hvm w hmem
      obtain ⟨hmem,hwvm⟩ := List.mem_filter.mp hmem
      obtain ⟨jobWorkers,hp,hfirst⟩ := Shuffles.exists_first
        (p := fun w => w.workerType = "kvmmanager") hmem hwvm
      obtain ⟨er',her',heval,-⟩ := hperm jobWorkers hp
      have hhead' : w ∈ jobWorkers.head? := by
        rw [hw] at hp
        cases jobWorkers with
        | nil => exact absurd hp.perm.length_eq (by simp)
        | cons w' rest' =>
          have hmarked := hp.marked_head (by simpa using hvm)
          simpa [hmarked] using hfirst
      rw [interpretKgymVerdict_unfinished jobCtx hs hhead] at her
      rw [interpretKgymVerdict_unfinished (reordered jobCtx jobWorkers) hs
        hhead'] at her'
      cases her
      cases her'
      exact heval
  · intro hs hu result hm crash hcrash hi
    obtain ⟨jobWorkers,hp,rest,hrest⟩ := exists_permuted_first hm
    obtain ⟨er',her',-,-⟩ := hperm jobWorkers hp
    have hfirst : crash ∈ (realCrashes (vmFields (reordered jobCtx jobWorkers))).head? := by
      have hsingle : (realCrashes [result]).head? = some crash := hcrash
      rw [hrest,realCrashes_cons,List.head?_append]
      rw [realCrashes_cons,List.head?_append,show realCrashes [] = [] from rfl,List.head?_nil,
        Option.or_none] at hsingle
      rw [hsingle]
      rfl
    rw [interpretKgymVerdict_raises (reordered jobCtx jobWorkers) hs
      (hasResults_permuted (h hs) hp)
      ((usable_iff_of_perm (vmFields_perm hp)).mp hu) hfirst hi] at her'
    cases her'

/-- The verdict is the one that the stages call for, in every order of the machines, exactly where
no empty list of incidents and no missing stage comes in. -/
theorem characterised_iff_settled (h : jobCtx.status = .finished → HasResults jobCtx) :
    Characterised jobCtx jobId ↔ Settled jobCtx := by
  constructor
  · exact settled_of_characterised h
  · intro ⟨hunfinished,hfinished⟩
    by_cases hs : jobCtx.status = .finished
    · have hincident : ∀ {ctx : JobContext}, (vmFields jobCtx).Perm (vmFields ctx) →
          Usable (vmFields ctx) → ∀ crash ∈ (realCrashes (vmFields ctx)).head?,
            crash.incidents ≠ [] := by
        intro ctx hp hu crash hc
        obtain ⟨result,hm,hr⟩ := head?_realCrashes hc
        exact hfinished hs ((usable_iff_of_perm hp).mpr hu) result (hp.mem_iff.mpr hm) crash hr
      obtain ⟨er,her,hv⟩ := verdictOn_finished jobCtx hs (h hs) (hincident (.refl _))
      refine ⟨er,her,hv,?_⟩
      intro jobWorkers hp
      obtain ⟨er',her',hv'⟩ := verdictOn_finished
        (reordered jobCtx jobWorkers) hs
        (hasResults_permuted (h hs) hp) (hincident (vmFields_perm hp))
      exact ⟨er',her',hv.eq_of_perm hv' hs hs (vmFields_perm hp)⟩
    · obtain ⟨builder,hb,hall⟩ := hunfinished hs
      refine ⟨_,interpretKgymVerdict_unfinished jobCtx hs hb,verdictOn_unfinished hs hb,?_⟩
      intro jobWorkers hp
      obtain ⟨builder',hb',heq⟩ := head?_permuted hb hall hp
      exact ⟨_,interpretKgymVerdict_unfinished (reordered jobCtx jobWorkers) hs hb',heq,rfl⟩

end Meaning

/-- A run whose only crash directory holds a description and nothing else. -/
def noLogRun : KVMManager.CrushRun where
  nInstance := 2
  log := []
  logSize := 0
  crashDirs := some [⟨some "KASAN: use-after-free",[]⟩]
  finalSyzkallerCheckout := none

def noLogResult : JobResult :=
  ⟨"kvmmanager",none,none,some ⟨none,some [⟨0,"KASAN: use-after-free",.crash,[]⟩],none,
    some .normal⟩,none⟩

/-- A finished job with a stage that built the kernel and one that ran it. -/
def finishedJob (result : JobResult) : JobContext where
  jobId := 1
  createdTime := 0
  modifiedTime := 0
  status := .finished
  currentWorkerHostname := ""
  currentWorker := -1
  jobWorkers := [⟨"kbuilder",⟨"kbuilder",""⟩,some ⟨"kbuilder",none,none,none,none⟩⟩,
    ⟨"kvmmanager",⟨"kvmmanager",""⟩,some result⟩]
  tags := []

/-- The crash without a log is collected with no incident, and the verdict on the job raises. -/
theorem noLog_not_characterised : noLogRun.result ⟨"",id⟩ = .ok noLogResult ∧
    HasResults (finishedJob noLogResult) ∧ ¬Characterised (finishedJob noLogResult) 1 := by
  refine ⟨by decide +kernel,?_,?_⟩
  · intro w hw
    obtain rfl : w = ⟨"kvmmanager",⟨"kvmmanager",""⟩,some noLogResult⟩ := by
      simpa [vmWorkers,finishedJob] using hw
    exact ⟨_,rfl⟩
  · intro hc
    obtain ⟨er,her,-⟩ := hc
    have hraises : interpretKgymVerdict (finishedJob noLogResult) 1 = .error .indexError := rfl
    rw [hraises] at her
    cases her

def oneLogResult : JobResult :=
  ⟨"kvmmanager",none,none,some ⟨none,some [⟨0,"KASAN: use-after-free",.crash,[⟨none,none⟩]⟩],none,
    some .normal⟩,none⟩

theorem oneLog_characterised : Characterised (finishedJob oneLogResult) 1 := by
  apply (characterised_iff_settled _).mpr
  · constructor
    · intro hs
      exact absurd rfl hs
    · intro _ _ result hm crash hc
      obtain rfl : result = ⟨none,some [⟨0,"KASAN: use-after-free",.crash,[⟨none,none⟩]⟩],none,
          some .normal⟩ := by
        simpa [vmFields,vmWorkers,finishedJob,oneLogResult] using hm
      obtain rfl : crash = ⟨0,"KASAN: use-after-free",.crash,[⟨none,none⟩]⟩ := by
        simpa [realCrashes] using hc.symm
      exact List.cons_ne_nil _ _
  · intro _ w hw
    obtain rfl : w = ⟨"kvmmanager",⟨"kvmmanager",""⟩,some oneLogResult⟩ := by
      simpa [vmWorkers,finishedJob] using hw
    exact ⟨_,rfl⟩

end LiveKBench.KArena
