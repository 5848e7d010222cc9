import LiveKBench.KVMManager.VMTask
import LiveKBench.KArena.Verdict
import LiveKBench.KArenaWeb.Leaderboard
import LiveKBench.Lib.Traverse

/-! An agent's patch from the machines that try the reproducer on it to its score. -/
namespace LiveKBench.KArenaWeb
open KCore KVMManager KArena Lib

/-- One finished evaluation of an agent's patch: each machine worker of its job ran `syz-crush` and
reported the result, the job's verdict was polled and stored, and the leaderboard reads the stored
evaluation in every row about the patch. -/
structure CrashResolution where
  runs : List (Storage × CrushRun)
  ran : runs ≠ []
  jobCtx : JobContext
  finished : jobCtx.status = .finished
  reported : List.Forall₂
    (fun w run => ∃ result, run.2.result run.1 = .ok result ∧ w.workerResult = some result)
    (vmWorkers jobCtx) runs
  submitted : PatchCrashResolutionEvaluation
  stored : PatchCrashResolutionEvaluation
  polled : pollEval submitted jobCtx = .ok (some stored)
  rows : List LeaderboardRow
  bugId : String
  listed : ∃ row ∈ rows, row.IsFor bugId stored.agentPatchId
  read : ∀ row ∈ rows, row.IsFor bugId stored.agentPatchId →
    row.crrEvaluation = stored.kGymEvaluation.map Evaluation.text

namespace CrashResolution

/-- The score that the patch's run gets. -/
def crr (r : CrashResolution) : Option ℚ :=
  ((buildRunsByBug r.rows).run? r.bugId r.stored.agentPatchId).map fun run => run.scores.crr

/-- Every machine worker reports this image ability. -/
def Images (r : CrashResolution) (ability : ImageAbility) : Prop :=
  ∀ w ∈ vmWorkers r.jobCtx, ∃ fields, vmResult w = .ok fields ∧ fields.imageAbility = some ability

/-- What an evaluation none of whose machines came up should come to. -/
def VerdictSound (r : CrashResolution) : Prop :=
  r.Images .error ∧ r.stored.kGymEvaluation = some .imageError ∧ r.crr = some 0

/-- No machine came up: every run reports all its instances as failed and saves no crash. -/
def NeverRan (r : CrashResolution) : Prop :=
  ∀ run ∈ r.runs, run.2.NoneSetUp ∧ run.2.NoCrashSaved

variable {r : CrashResolution}

/-- The score is what the stored evaluation says. -/
theorem crr_eq (r : CrashResolution) :
    r.crr = some (if r.stored.kGymEvaluation = some .notReproduced then 1 else 0) := by
  obtain ⟨row,hm,hf⟩ := r.listed
  have hs : (r.rows.find? fun row => row.IsFor r.bugId r.stored.agentPatchId).isSome := by
    rw [List.find?_isSome]
    exact ⟨row,hm,by simpa using hf⟩
  obtain ⟨first,hfirst⟩ := Option.isSome_iff_exists.mp hs
  have hfor : first.IsFor r.bugId r.stored.agentPatchId := by
    simpa using List.find?_some hfirst
  have hread := r.read first (List.mem_of_find?_eq_some hfirst) hfor
  rw [crr,run?_buildRunsByBug,hfirst]
  simp only [Option.map_some,LeaderboardRow.run,LeaderboardRow.scores,hread]
  cases r.stored.kGymEvaluation with
  | none => simp
  | some evaluation => cases evaluation <;> simp [Evaluation.text]

/-- What a machine worker reports whose run saved no crash. -/
lemma vmResult_of_noCrashSaved (h : ∀ run ∈ r.runs, run.2.NoCrashSaved) {w : JobWorker}
    (hw : w ∈ vmWorkers r.jobCtx) : ∃ fields, vmResult w = .ok fields ∧
      fields.imageAbility = some .normal ∧ fields.crashes = some [] := by
  obtain ⟨i,hi,rfl⟩ := List.getElem_of_mem hw
  have hlen : (vmWorkers r.jobCtx).length = r.runs.length := r.reported.length_eq
  obtain ⟨result,hr,hres⟩ := List.Forall₂.get r.reported hi (hlen ▸ hi)
  obtain ⟨fields,hf,hability,hcrashes⟩ :=
    result_of_noCrashSaved (h _ (List.get_mem r.runs ⟨i,hlen ▸ hi⟩))
  have he : result = ⟨"kvmmanager",none,none,some fields,none⟩ := Except.ok.inj (hr.symm.trans hf)
  subst he
  refine ⟨fields,?_,hability,hcrashes⟩
  change (vmWorkers r.jobCtx)[i].workerResult = _ at hres
  rw [vmResult,hres]
  rfl

theorem images_of_neverRan (h : r.NeverRan) : r.Images .normal := by
  intro w hw
  obtain ⟨fields,hf,hability,_⟩ := vmResult_of_noCrashSaved (fun run hr => (h run hr).2) hw
  exact ⟨fields,hf,hability⟩

theorem stored_of_neverRan (h : r.NeverRan) :
    r.stored.kGymEvaluation = some .notReproduced := by
  obtain ⟨results,hres,hlen,hall⟩ := exists_mapM_ok fun w hw =>
    vmResult_of_noCrashSaved (fun run hr => (h run hr).2) hw
  have hne : results ≠ [] := by
    intro he
    apply r.ran
    rw [← List.length_eq_zero_iff,← r.reported.length_eq,← hlen,he,List.length_nil]
  obtain ⟨result,hm⟩ := List.exists_mem_of_ne_nil results hne
  have hverdict := interpretKgymVerdict_of_no_crashes r.submitted.kGymEvalJobId r.finished hres
    ⟨result,hm,(hall result hm).1⟩ (fun fields hf => (hall fields hf).2)
  have hp := r.polled
  unfold pollEval at hp
  split at hp
  · cases hp
  · rw [if_neg (by simp [r.finished]),hverdict] at hp
    have hs := Option.some.inj (Except.ok.inj hp)
    rw [← hs]

/-- An evaluation none of whose machines came up is scored as a resolved crash: with no crash saved
every image counts as normal, whatever the log says. -/
theorem unsound_of_neverRan (r : CrashResolution) (h : r.NeverRan) :
    ¬ r.VerdictSound ∧ r.Images .normal ∧ r.stored.kGymEvaluation = some .notReproduced ∧
      r.crr = some 1 := by
  have hstored := stored_of_neverRan h
  refine ⟨?_,images_of_neverRan h,hstored,by rw [crr_eq,hstored]; rfl⟩
  rintro ⟨_,hs,_⟩
  rw [hstored] at hs
  cases hs

/-- One machine worker with one instance, which could not be set up. -/
def deadRun : CrushRun where
  nInstance := 1
  log := ["failed to set up instance: failed to create instance"]
  logSize := 52
  crashDirs := none
  finalSyzkallerCheckout := none

def deadStorage : Storage := ⟨"jobs/2a/1_kvmmanager/",fun key => key⟩

def deadResult : JobResult where
  workerType := "kvmmanager"
  jobException := none
  workerException := none
  vmManager := some {
    crushLog := deadStorage.submitResource "syz-crush.log" deadRun.logSize
    crashes := some []
    finalSyzkallerCheckout := none
    imageAbility := some .normal }
  builder := none

def deadJob : JobContext where
  jobId := 42
  createdTime := 0
  modifiedTime := 9
  status := .finished
  currentWorkerHostname := ""
  currentWorker := 1
  jobWorkers :=
    [⟨"kbuilder",⟨"kbuilder",""⟩,some ⟨"kbuilder",none,none,none,none⟩⟩,
     ⟨"kvmmanager",⟨"kvmmanager",""⟩,some deadResult⟩]
  tags := []

def deadEvaluation : PatchCrashResolutionEvaluation :=
  ⟨1,7,3,42,"success","Job submitted: 2a",none,none⟩

def deadVerdict : EvaluationResult :=
  ⟨42,deadJob,.finished,.notReproduced,some .normal,none,none⟩

def deadRow : LeaderboardRow where
  bugId := "bug"
  agentPatchId := some 7
  unionId := some 0
  crrEvaluation := some "notReproduced"
  llmStatus := none
  yesCount := none
  noCount := none
  fileEvaluation := none
  functionEvaluation := none
  localizationStatus := none

def deadMachine : CrashResolution where
  runs := [(deadStorage,deadRun)]
  ran := by simp
  jobCtx := deadJob
  finished := rfl
  reported := .cons ⟨deadResult,rfl,rfl⟩ .nil
  submitted := deadEvaluation
  stored := { deadEvaluation with
    systemMessage := s!"Evaluation completed: {Evaluation.notReproduced.text}"
    kGymEvaluation := some .notReproduced
    kGymEvaluationResult := some deadVerdict }
  polled := rfl
  rows := [deadRow]
  bugId := "bug"
  listed := ⟨deadRow,by simp,rfl,rfl⟩
  read := by
    intro row hr _
    rw [List.mem_singleton.mp hr]
    rfl

lemma deadMachine_neverRan : deadMachine.NeverRan := by
  intro run hr
  rw [List.mem_singleton.mp hr]
  exact ⟨by decide,by decide⟩

theorem unsound_of_dead_machine : ¬ deadMachine.VerdictSound ∧ deadMachine.Images .normal ∧
    deadMachine.stored.kGymEvaluation = some .notReproduced ∧ deadMachine.crr = some 1 :=
  unsound_of_neverRan deadMachine deadMachine_neverRan

/-- An instance that could not be set up resolves the crash. -/
theorem dead_machine_resolves_crash : ¬ ∀ r : CrashResolution, r.NeverRan → r.VerdictSound := by
  intro h
  obtain ⟨_,hs,_⟩ := h deadMachine deadMachine_neverRan
  cases hs

end CrashResolution
end LiveKBench.KArenaWeb
