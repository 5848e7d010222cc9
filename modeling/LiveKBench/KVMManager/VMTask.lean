import LiveKBench.KCore.Models

/-! What the machine manager makes of a run of `syz-crush`: the crash directories become crashes,
and the log and the crashes together say how usable the image is. -/
namespace LiveKBench.KVMManager
open KCore

def lostConnCrash : String := "lost connection to test machine"
def noOutputCrash : String := "no output from test machine"
def testMachineCrash : String := "test machine is not executing programs"

def specialCrashes : List String := [lostConnCrash,noOutputCrash,testMachineCrash]

/-- A file of a crash directory. -/
structure CrashFile where
  name : String
  size : ℕ
  deriving DecidableEq, Repr

/-- A directory below `crashes`: the text of its file `description`, if there is one, and its other
files. -/
structure CrashDir where
  description : Option String
  files : List CrashFile
  deriving DecidableEq, Repr

/-- What a run of `syz-crush` leaves behind. `log` holds the lines of `syz-crush.log`, and
`crashDirs` the directories in the order of `os.listdir`, or `none` where there is no directory
`crashes`. -/
structure CrushRun where
  nInstance : ℤ
  log : List String
  logSize : ℕ
  crashDirs : Option (List CrashDir)
  finalSyzkallerCheckout : Option String
  deriving DecidableEq, Repr

/-- Where the task stores its files: `_get_storage_prefix` and `get_resource_url`. -/
structure Storage where
  storagePrefix : String
  resourceUrl : String → String

/-- `submit_resource` of a file of the given size. -/
def Storage.submitResource (storage : Storage) (inFolderKey : String) (size : ℕ) :
    Option JobResource :=
  if size = 0 then none
  else
    let key := storage.storagePrefix ++ inFolderKey
    some ⟨key,storage.resourceUrl key⟩

def CrashDir.file? (dir : CrashDir) (name : String) : Option CrashFile :=
  dir.files.find? fun file => file.name = name

/-- The loop over `max_id`: the number of consecutive logs from `log0` on, looking no further than
`fuel` of them. -/
def CrashDir.maxId (dir : CrashDir) : ℕ → ℕ → ℕ
  | 0, k => k
  | fuel+1, k => if (dir.file? s!"log{k}").isSome then dir.maxId fuel (k+1) else k

section Collect
variable (storage : Storage) (nInstance : ℤ)

def collectIncident (dir : CrashDir) (crashIdx nid : ℕ) : CrashIncident where
  log := (dir.file? s!"log{nid}").bind fun file =>
    storage.submitResource s!"{crashIdx}/log{nid}" file.size
  report := (dir.file? s!"report{nid}").bind fun file =>
    storage.submitResource s!"{crashIdx}/report{nid}" file.size

/-- One pass of the loop over the crash directories. -/
def collectCrash (crashIdx : ℕ) (dir : CrashDir) : Except PyError Crash :=
  match dir.description with
  | none => .error .fileNotFoundError
  | some description =>
    let title := pyStrip description
    .ok { crashId := crashIdx
          title := title
          crashType := if title ∈ specialCrashes then .special else .crash
          incidents := (List.range (dir.maxId (nInstance+1).toNat 0)).map
            (collectIncident storage dir crashIdx) }

def collectCrashes (crashDirs : Option (List CrashDir)) : Except PyError (List Crash) :=
  match crashDirs with
  | none => .ok []
  | some dirs => dirs.zipIdx.mapM fun p => collectCrash storage nInstance p.2 p.1

end Collect

/-- The number of lines that report an instance that could not be set up. -/
def failedToSetupCnt (log : List String) : ℕ := log.countP (pyIn "failed to set up instance")

def collectImageAbility (nInstance : ℤ) (log : List String) (crashes : List Crash) :
    ImageAbility :=
  if crashes.length = 0 then .normal
  else if (failedToSetupCnt log : ℤ) = nInstance then .error
  else if (crashes.length : ℤ) = nInstance-failedToSetupCnt log then
    if crashes.all fun crash => crash.crashType = .special then .warning else .normal
  else .normal

/-- The end of `on_task`: the result that the task reports. -/
def CrushRun.result (storage : Storage) (run : CrushRun) : Except PyError JobResult := do
  let crashes ← collectCrashes storage run.nInstance run.crashDirs
  return { workerType := "kvmmanager", jobException := none, workerException := none,
           vmManager := some {
             crushLog := storage.submitResource "syz-crush.log" run.logSize
             crashes := some crashes
             finalSyzkallerCheckout := run.finalSyzkallerCheckout
             imageAbility := some (collectImageAbility run.nInstance run.log crashes) }
           builder := none }

/-- Every instance was reported as one that could not be set up. -/
def CrushRun.NoneSetUp (run : CrushRun) : Prop := run.nInstance ≤ failedToSetupCnt run.log

/-- No crash was saved. -/
def CrushRun.NoCrashSaved (run : CrushRun) : Prop := ∀ dirs ∈ run.crashDirs, dirs = []

instance (run : CrushRun) : Decidable run.NoneSetUp := inferInstanceAs (Decidable (_ ≤ _))
instance (run : CrushRun) : Decidable run.NoCrashSaved :=
  inferInstanceAs (Decidable (∀ dirs ∈ run.crashDirs, dirs = []))

section Ability
variable {storage : Storage} {run : CrushRun} {nInstance : ℤ} {log : List String}
  {crashes : List Crash}

@[simp] theorem collectImageAbility_nil :
    collectImageAbility nInstance log [] = .normal := rfl

/-- Where no instance was set up, the image is found unusable exactly if a crash was saved all the
same. -/
theorem collectImageAbility_eq_error_iff (h : (failedToSetupCnt log : ℤ) = nInstance) :
    collectImageAbility nInstance log crashes = .error ↔ crashes ≠ [] := by
  cases crashes with
  | nil => simp
  | cons crash crashes => simp [collectImageAbility,h]

lemma collectCrashes_of_noCrashSaved (h : run.NoCrashSaved) :
    collectCrashes storage run.nInstance run.crashDirs = .ok [] := by
  unfold collectCrashes
  cases hd : run.crashDirs with
  | none => rfl
  | some dirs =>
    rw [h dirs hd]
    rfl

/-- A run that saves no crash reports a normal image, whatever its log says. -/
theorem result_of_noCrashSaved (h : run.NoCrashSaved) : ∃ fields : VMManagerFields,
    run.result storage = .ok ⟨"kvmmanager",none,none,some fields,none⟩ ∧
      fields.imageAbility = some .normal ∧ fields.crashes = some [] := by
  refine ⟨{ crushLog := storage.submitResource "syz-crush.log" run.logSize
            crashes := some []
            finalSyzkallerCheckout := run.finalSyzkallerCheckout
            imageAbility := some .normal },?_,rfl,rfl⟩
  rw [CrushRun.result,collectCrashes_of_noCrashSaved h]
  rfl

end Ability
end LiveKBench.KVMManager
