import LiveKBench.KVMManager.VMTask
import Mathlib.Algebra.GroupWithZero.Nat

/-! What the ability of an image says of the instances that ran it. An instance that was set up and
crashed leaves one log file in the directory of its crash; the directories stand for the titles. -/
namespace LiveKBench.KVMManager
open KCore

/-- `log` and a number. -/
def CrashFile.isLog (file : CrashFile) : Bool :=
  match file.name.toList with
  | 'l' :: 'o' :: 'g' :: number => number ≠ [] && number.all Char.isDigit
  | _ => false

/-- The incidents of one crash. -/
def CrashDir.logCount (dir : CrashDir) : ℕ := dir.files.countP CrashFile.isLog

namespace CrushRun

def dirs (run : CrushRun) : List CrashDir := run.crashDirs.getD []

def incidentCount (run : CrushRun) : ℕ := (run.dirs.map CrashDir.logCount).sum

/-- Every crash directory is one of a crash, whose title it describes. -/
def Described (run : CrushRun) : Prop := ∀ dir ∈ run.dirs, dir.description.isSome

def AllSpecial (run : CrushRun) : Prop :=
  ∀ dir ∈ run.dirs, ∀ description ∈ dir.description, pyStrip description ∈ specialCrashes

instance (run : CrushRun) : Decidable run.Described :=
  inferInstanceAs (Decidable (∀ dir ∈ run.dirs, dir.description.isSome))

instance (run : CrushRun) : Decidable run.AllSpecial :=
  inferInstanceAs (Decidable (∀ dir ∈ run.dirs, ∀ description ∈ dir.description,
    pyStrip description ∈ specialCrashes))

/-- The ability says what the comments say: all instances died, the living ones all crashed in a
special way, or neither. -/
structure AbilityMeans (run : CrushRun) (ability : ImageAbility) : Prop where
  error : ability = .error ↔ (failedToSetupCnt run.log : ℤ) = run.nInstance
  warning : ability = .warning ↔ (failedToSetupCnt run.log : ℤ) < run.nInstance ∧
    (run.incidentCount : ℤ) = run.nInstance-failedToSetupCnt run.log ∧ run.AllSpecial
  normal : ability = .normal ↔ (failedToSetupCnt run.log : ℤ) ≠ run.nInstance ∧
    ¬((failedToSetupCnt run.log : ℤ) < run.nInstance ∧
      (run.incidentCount : ℤ) = run.nInstance-failedToSetupCnt run.log ∧ run.AllSpecial)

/-- The task reports an ability that says so. -/
def ReportsAbility (storage : Storage) (run : CrushRun) : Prop := ∃ fields ability,
  run.result storage = .ok ⟨"kvmmanager",none,none,some fields,none⟩ ∧
    fields.imageAbility = some ability ∧ run.AbilityMeans ability

/-- Where all instances died there is a directory all the same, and where every title is special the
titles are as many as the living instances exactly if the incidents are. -/
def CountsAgree (run : CrushRun) : Prop :=
  ((failedToSetupCnt run.log : ℤ) = run.nInstance → run.dirs ≠ []) ∧
  ((failedToSetupCnt run.log : ℤ) < run.nInstance → run.AllSpecial →
    ((run.dirs.length : ℤ) = run.nInstance-failedToSetupCnt run.log ↔
      (run.incidentCount : ℤ) = run.nInstance-failedToSetupCnt run.log))

instance (run : CrushRun) : Decidable run.CountsAgree := inferInstanceAs (Decidable (_ ∧ _))

end CrushRun

section Collected
variable {storage : Storage} {nInstance : ℤ} {run : CrushRun}

/-- Every directory gives a crash, special exactly if its title is. -/
lemma collect_of_described {dirs : List CrashDir} (h : ∀ dir ∈ dirs, dir.description.isSome)
    (start : ℕ) : ∃ crashes,
      (dirs.zipIdx start).mapM (fun p => collectCrash storage nInstance p.2 p.1) = .ok crashes ∧
      crashes.length = dirs.length ∧
      ((∀ crash ∈ crashes, crash.crashType = .special) ↔
        ∀ dir ∈ dirs, ∀ description ∈ dir.description, pyStrip description ∈ specialCrashes) := by
  induction dirs generalizing start with
  | nil => exact ⟨[],rfl,rfl,by simp⟩
  | cons dir dirs ih =>
    obtain ⟨crashes,hc,hlen,hspecial⟩ := ih (fun d hd => h d (by simp [hd])) (start+1)
    obtain ⟨description,hd⟩ := Option.isSome_iff_exists.mp (h dir (by simp))
    obtain ⟨crash,hcrash,htype⟩ : ∃ crash, collectCrash storage nInstance start dir = .ok crash ∧
        (crash.crashType = .special ↔ pyStrip description ∈ specialCrashes) := by
      rw [collectCrash,hd]
      refine ⟨_,rfl,?_⟩
      change (if _ then _ else _) = _ ↔ _
      split <;> simp [*]
    refine ⟨crash :: crashes,?_,by simp [hlen],?_⟩
    · rw [List.zipIdx_cons,List.mapM_cons,hcrash,hc]
      rfl
    · simp [htype,hspecial,hd]

lemma collectCrashes_of_described (h : run.Described) : ∃ crashes,
    collectCrashes storage run.nInstance run.crashDirs = .ok crashes ∧
      crashes.length = run.dirs.length ∧
      ((∀ crash ∈ crashes, crash.crashType = .special) ↔ run.AllSpecial) := by
  unfold CrushRun.Described CrushRun.AllSpecial CrushRun.dirs at *
  cases hd : run.crashDirs with
  | none => exact ⟨[],rfl,rfl,by simp⟩
  | some dirs =>
    rw [hd] at h
    exact collect_of_described h 0

end Collected

section Meaning
variable {storage : Storage} {run : CrushRun}

lemma incidentCount_of_no_dirs (h : run.dirs = []) : run.incidentCount = 0 := by
  rw [CrushRun.incidentCount,h]
  rfl

/-- The ability by the number of titles, where the code counts instances. -/
lemma collectImageAbility_eq {crashes : List Crash} (hlen : crashes.length = run.dirs.length)
    (hspecial : (∀ crash ∈ crashes, crash.crashType = .special) ↔ run.AllSpecial) :
    (collectImageAbility run.nInstance run.log crashes = .error ↔
      run.dirs ≠ [] ∧ (failedToSetupCnt run.log : ℤ) = run.nInstance) ∧
    (collectImageAbility run.nInstance run.log crashes = .warning ↔
      run.dirs ≠ [] ∧ (failedToSetupCnt run.log : ℤ) ≠ run.nInstance ∧
        (run.dirs.length : ℤ) = run.nInstance-failedToSetupCnt run.log ∧ run.AllSpecial) := by
  have hne : run.dirs ≠ [] ↔ ¬crashes.length = 0 := by rw [hlen,List.length_eq_zero_iff]
  have hall : (crashes.all fun crash => crash.crashType = .special) = true ↔ run.AllSpecial := by
    rw [← hspecial,List.all_eq_true]
    simp
  rw [collectImageAbility,hne,← hlen,← hall]
  clear hlen hspecial hne hall
  split
  · rename_i hnone
    simp [hnone]
  · rename_i hsome
    split
    · rename_i hdied
      simp [hsome,hdied]
    · rename_i hliving
      split
      · rename_i hcount
        split <;> simp_all
      · rename_i hcount
        simp [hliving,hcount]

lemma reportsAbility_iff_means {crashes : List Crash}
    (hc : collectCrashes storage run.nInstance run.crashDirs = .ok crashes) :
    run.ReportsAbility storage ↔
      run.AbilityMeans (collectImageAbility run.nInstance run.log crashes) := by
  rw [CrushRun.ReportsAbility,CrushRun.result,hc]
  constructor
  · intro h
    obtain ⟨fields,ability,hr,hf,hm⟩ := h
    cases hr
    cases hf
    exact hm
  · intro hm
    exact ⟨_,_,rfl,rfl,hm⟩

/-- The ability says what it should exactly where the count of the titles stands for the count of
the incidents. -/
theorem reportsAbility_iff (h : run.Described)
    (hle : (failedToSetupCnt run.log+run.incidentCount : ℤ) ≤ run.nInstance) :
    run.ReportsAbility storage ↔ run.CountsAgree := by
  have hcrashes : ∃ crashes, collectCrashes storage run.nInstance run.crashDirs = .ok crashes ∧
      crashes.length = run.dirs.length ∧
        ((∀ crash ∈ crashes, crash.crashType = .special) ↔ run.AllSpecial) :=
    collectCrashes_of_described h
  obtain ⟨crashes,hc,hlen,hspecial⟩ := hcrashes
  rw [reportsAbility_iff_means hc]
  obtain ⟨herror,hwarning⟩ := collectImageAbility_eq hlen hspecial
  have hmeans : ∀ {ability : ImageAbility},
      (ability = .error ↔ (failedToSetupCnt run.log : ℤ) = run.nInstance) →
      (ability = .warning ↔ (failedToSetupCnt run.log : ℤ) < run.nInstance ∧
        (run.incidentCount : ℤ) = run.nInstance-failedToSetupCnt run.log ∧ run.AllSpecial) →
      run.AbilityMeans ability := by
    intro ability he hw
    refine ⟨he,hw,?_⟩
    rw [Ne,← he,← hw]
    cases ability <;> simp
  have hliving : (failedToSetupCnt run.log : ℤ) < run.nInstance ↔
      (failedToSetupCnt run.log : ℤ) ≠ run.nInstance := by omega
  -- Without a directory both counts are zero.
  have hempty : run.dirs = [] →
      ((run.dirs.length : ℤ) = run.nInstance-failedToSetupCnt run.log ↔
        (run.incidentCount : ℤ) = run.nInstance-failedToSetupCnt run.log) := by
    intro hd
    rw [incidentCount_of_no_dirs hd,hd]
    rfl
  constructor
  · intro hm
    refine ⟨fun hall => (herror.mp (hm.error.mpr hall)).1,?_⟩
    intro hl hs
    by_cases hd : run.dirs = []
    · exact hempty hd
    · constructor
      · intro hcount
        exact (hm.warning.mp (hwarning.mpr ⟨hd,hliving.mp hl,hcount,hs⟩)).2.1
      · intro hcount
        exact (hwarning.mp (hm.warning.mpr ⟨hl,hcount,hs⟩)).2.2.1
  · intro ⟨hdied,hcounts⟩
    apply hmeans
    · rw [herror]
      exact ⟨And.right,fun hall => ⟨hdied hall,hall⟩⟩
    · rw [hwarning]
      constructor
      · intro ⟨_,hl,hcount,hs⟩
        exact ⟨hliving.mpr hl,(hcounts (hliving.mpr hl) hs).mp hcount,hs⟩
      · intro ⟨hl,hcount,hs⟩
        refine ⟨?_,hliving.mp hl,(hcounts hl hs).mpr hcount,hs⟩
        intro hd
        rw [incidentCount_of_no_dirs hd] at hcount
        omega

end Meaning

/-- Two instances crash in a special way, both under one title. -/
def oneTitleRun (nInstance : ℤ) : CrushRun where
  nInstance := nInstance
  log := []
  logSize := 0
  crashDirs := some [⟨some "no output from test machine",[⟨"log0",1⟩,⟨"log1",1⟩]⟩]
  finalSyzkallerCheckout := none

/-- The image is called normal, though both living instances crashed in a special way. -/
theorem oneTitle_not_reportsAbility : (oneTitleRun 2).Described ∧
    (failedToSetupCnt (oneTitleRun 2).log+(oneTitleRun 2).incidentCount : ℤ) ≤ 2 ∧
      ¬(oneTitleRun 2).ReportsAbility ⟨"",id⟩ := by
  refine ⟨by decide +kernel,by decide +kernel,?_⟩
  intro ⟨fields,ability,hr,hf,hm⟩
  have hreported : ((oneTitleRun 2).result ⟨"",id⟩).map (fun result =>
      result.vmManager.bind VMManagerFields.imageAbility) = .ok (some .normal) := by
    decide +kernel
  rw [hr] at hreported
  obtain rfl : ability = .normal := by
    simpa [Except.map,hf] using hreported
  exact (hm.normal.mp rfl).2 (by decide +kernel)

/-- With a third instance that lives, the image is normal by both counts. -/
theorem oneTitle_reportsAbility : (oneTitleRun 3).ReportsAbility ⟨"",id⟩ :=
  (reportsAbility_iff (by decide +kernel) (by decide +kernel)).mpr (by decide +kernel)

end LiveKBench.KVMManager
