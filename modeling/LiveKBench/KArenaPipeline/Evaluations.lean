import LiveKBench.KArenaDb.KEnvBase
import LiveKBench.KArenaPipeline.KGymJobs
import LiveKBench.KArenaPipeline.KenvImageManager
import LiveKBench.Lib.SharedDatabase
import LiveKBench.Lib.TaskPool
import Mathlib.Data.Finset.Card
import Mathlib.Data.Rat.Defs

/-! The runs of `submit_crash_resolution_evaluations`, `populate_localization_evaluations` and
`populate_developer_patches` on one database. Each of them selects once the items that have no
result yet, works on them for a while, and then inserts their results. -/
namespace LiveKBench.KArenaPipeline
open KCore
open KArenaWeb (DateTime)
open KArenaDb
open Lib

namespace Eval

/-- A bug as `get_bug` returns it, with the date that its data hold as text. -/
structure DatedBug extends SyzbotBug where
  patchCommitDate : Option DateTime

/-- The tables from which the pipelines select and read. -/
structure Sources where
  bugs : Table (fun row : DatedBug => row.bugId)
  kenvBaseImages : KEnvBaseTable
  kcaches : AutoTable KCache.kCacheId
  patches : AutoTable Patch.patchId
  agentPatches : AutoTable AgentPatch.agentPatchId

/-- The database: the sources, and the tables of the results, which have no constraint `UNIQUE`. -/
structure Db where
  sources : Sources
  crashEvals : AutoTable PatchCrashResolutionEvaluation.evalId
  localizationEvals : AutoTable PatchLocalizationEvaluation.evalId
  developerPatches : AutoTable DeveloperPatch.devPatchId

/-- An item of work: the table that its result goes to, and the key under which it is there. -/
inductive Item
  | crashResolution (agentPatchId : ℕ)
  | localization (agentPatchId : ℕ)
  | developerPatch (bugId : String)
  deriving DecidableEq

/-- How many results an item has. -/
def Db.results (db : Db) : Item → ℕ
  | .crashResolution id => db.crashEvals.rows.countP fun row => row.agentPatchId = (id : ℤ)
  | .localization id => db.localizationEvals.rows.countP fun row => row.agentPatchId = (id : ℤ)
  | .developerPatch bugId => db.developerPatches.rows.countP fun row => row.bugId = bugId

/-! ## The queries -/

/-- The agent's patches that succeeded and that the query's own filter lets through. -/
def Db.succeeded (db : Db) (agentConfigId : Option ℤ) : List ℕ :=
  (db.sources.agentPatches.rows.filter fun row =>
    row.status = .success && agentConfigId.all fun id => row.agentConfigId = id).map
    AgentPatch.agentPatchId

/-- `get_yet_evaluated_agent_patches('crashResolution')`. -/
def Db.crashYetEvaluated (db : Db) (agentConfigId : Option ℤ) : List ℕ :=
  (db.succeeded agentConfigId).filter fun id => db.results (.crashResolution id) = 0

/-- `get_yet_evaluated_agent_patches('localization')`. -/
def Db.localizationYetEvaluated (db : Db) : List ℕ :=
  (db.succeeded none).filter fun id => db.results (.localization id) = 0

/-- The image of the bug at its parent commit is there. -/
def Db.kenvBuilt (db : Db) (bugId : String) : Bool :=
  db.sources.kenvBaseImages.rows.any fun ki =>
    ki.bugId = bugId && ki.baseCommit = .parentCommit &&
      (ki.status = .built || ki.status = .pushed)

def Db.bugsNeedingDeveloperPatches (db : Db) : List String :=
  (db.sources.bugs.rows.filter fun sb =>
    sb.status = .fixed && db.kenvBuilt sb.bugId &&
      db.results (.developerPatch sb.bugId) = 0).map fun sb => sb.bugId

/-- `get_latest_kcache`: the row with the latest addedTime, the first of those among equals. -/
def Db.latestKcache (db : Db) (bugId : String) (baseCommit : BaseCommit) : Option KCache :=
  (db.sources.kcaches.rows.filter fun row =>
    row.bugId = bugId && row.baseCommit = baseCommit && row.status = .success).foldl
    (fun best row => match best with
      | none => some row
      | some b =>
        if textBefore b.addedTime.isoformat.toList row.addedTime.isoformat.toList then some row
        else some b) none

def Db.developerPatchByBugId (db : Db) (bugId : String) : Option DeveloperPatch :=
  db.developerPatches.rows.find? fun row => row.bugId = bugId

/-! ## The tasks -/

inductive Request
  | getAgentPatch (agentPatchId : ℕ)
  | getBug (bugId : String)
  | getLatestKcache (bugId : String) (baseCommit : BaseCommit)
  | getPatch (patchId : ℤ)
  | getDeveloperPatchByBugId (bugId : String)
  | getJob (jobId : String)
  | createJob (request : KJobRequest)
  | ensureKenvImage (bugId : String)
  | runAgent (bugId : String) (patch : String)
  | cleanupImages (bugId : String)
  | insertCrashResolutionEval (eval : PatchCrashResolutionEvaluation)
  | insertLocalizationEval (eval : PatchLocalizationEvaluation)
  | insertPatch (patch : Patch)
  | insertDeveloperPatch (devPatch : DeveloperPatch)
  | commit
  | now

abbrev Request.Answer : Request → Type
  | .getAgentPatch _ => Option AgentPatch
  | .getBug _ => Option DatedBug
  | .getLatestKcache _ _ => Option KCache
  | .getPatch _ => Option Patch
  | .getDeveloperPatchByBugId _ => Option DeveloperPatch
  | .getJob _ => Option KGymJob
  | .createJob _ => JobId
  | .ensureKenvImage _ => Unit
  | .runAgent _ _ => Option PatchAnalysis
  | .cleanupImages _ => Unit
  | .insertCrashResolutionEval _ => ℕ
  | .insertLocalizationEval _ => ℕ
  | .insertPatch _ => ℕ
  | .insertDeveloperPatch _ => ℕ
  | .commit => Unit
  | .now => DateTime

abbrev Work (α : Type) := Coroutine Request Request.Answer Raised α

def ask (r : Request) : Work r.Answer := Coroutine.request r

def getAgentPatch (agentPatchId : ℕ) : Work AgentPatch := do
  orRaise s!"Agent patch not found: {agentPatchId}" (← ask (.getAgentPatch agentPatchId))

def getBug (bugId : String) : Work DatedBug := do
  orRaise s!"Bug not found: {bugId}" (← ask (.getBug bugId))

def getLatestKcache (bugId : String) (baseCommit : BaseCommit) : Work KCache := do
  orRaise s!"kCache not found for bug {bugId} with baseCommit {baseCommit.text}"
    (← ask (.getLatestKcache bugId baseCommit))

def getPatch (patchId : ℤ) : Work Patch := do
  orRaise s!"Patch not found: {patchId}" (← ask (.getPatch patchId))

/-- An `INSERT` and its commit. -/
def inserted (r : Request) (id : r.Answer → ℕ) : Work ℕ := do
  let rowid ← ask r
  ask .commit
  return id rowid

def insertCrashResolutionEval (eval : PatchCrashResolutionEvaluation) : Work ℕ :=
  inserted (.insertCrashResolutionEval eval) id

def insertLocalizationEval (eval : PatchLocalizationEvaluation) : Work ℕ :=
  inserted (.insertLocalizationEval eval) id

def insertPatch (patch : Patch) : Work ℕ := inserted (.insertPatch patch) id

def insertDeveloperPatch (devPatch : DeveloperPatch) : Work ℕ :=
  inserted (.insertDeveloperPatch devPatch) id

/-- `_submit_kgym_job`: a job that builds the patched kernel and runs five machines on it. -/
def submitKgymJob (bugId kcacheJobId patchContent syzkallerTag : String) : Work String := do
  match ← ask (.getJob kcacheJobId) with
  | none => throw (.attributeError "jobWorkers")
  | some job =>
    let kcache ← Coroutine.ofExcept job.readKCache
    let bug ← getBug bugId
    let syzbotData := bug.syzbotData
    match kcache with
    | none => throw (.validationError "kBuilderArgument")
    | some resource =>
      let userspaceImage ← Coroutine.ofExcept
        (requireText "kBuilderArgument" syzbotData.userspaceImage)
      let vm ← Coroutine.ofExcept (KVMManagerArgument.modelFromSyzbotData syzbotData 0 syzkallerTag 5)
      let jobId ← ask (.createJob
        ⟨⟨.kcache resource,userspaceImage,patchContent⟩,List.replicate 5 vm,[]⟩)
      return JobId.str jobId

def submitEval (agentPatchId : ℕ) : Work PatchCrashResolutionEvaluation := do
  let agentPatch ← getAgentPatch agentPatchId
  let bug ← getBug agentPatch.bugId
  let kcache ← getLatestKcache agentPatch.bugId agentPatch.baseCommit
  let patch ← getPatch agentPatch.patchId
  let jobId ← submitKgymJob bug.bugId kcache.kGymJobId patch.patchContent bug.syzkallerRollbackTag
  return {
    evalId := 0
    agentPatchId := agentPatch.agentPatchId
    kCacheId := kcache.kCacheId
    kGymEvalJobId := jobId
    status := .success
    systemMessage := s!"Job submitted: {jobId}"
    kGymEvaluation := none
    kGymEvaluationResult := none }

/-- `submit_single`; what is raised is logged. -/
def submitSingle (agentPatchId : ℕ) : Work Unit := do
  try
    let evalResult ← submitEval agentPatchId
    let _ ← insertCrashResolutionEval evalResult
  catch _ => pure ()

def sourceExtensions : List String :=
  [".c",".h",".cpp",".cc",".cxx",".hpp",".hh",".hxx",".S",".s",".asm"]

def filterSourceFiles (files : List String) : Finset String :=
  (files.filter fun f => sourceExtensions.any fun ext => ext.toList.isSuffixOf f.toList).toFinset

/-- The sizes of the intersection and of the union, and their quotient. -/
def overlap (a b : Finset String) : ℕ × ℕ × ℚ :=
  let intersection := (a ∩ b).card
  let union := (a ∪ b).card
  (intersection,union,if union > 0 then intersection/union else 0)

def emptyResult (agentPatch : AgentPatch) (devPatch : DeveloperPatch) (status : LocalizationStatus)
    (systemMessage : String) : PatchLocalizationEvaluation :=
  { evalId := 0
    bugId := agentPatch.bugId
    devPatchId := devPatch.devPatchId
    agentPatchId := agentPatch.agentPatchId
    status := status
    systemMessage := systemMessage
    fileIntersectionSize := 0
    fileUnionSize := 0
    fileEvaluation := 0
    functionIntersectionSize := 0
    functionUnionSize := 0
    functionEvaluation := 0 }

/-- The evaluation of an agent's patch against the developer's. -/
def localize (agentPatch : AgentPatch) (devPatch : DeveloperPatch) (agentData devData : Patch) :
    PatchLocalizationEvaluation :=
  if agentData.status ≠ .success then
    emptyResult agentPatch devPatch .invalid
      s!"Agent patch analysis failed: {agentData.systemMessage}"
  else if devData.status ≠ .success then
    emptyResult agentPatch devPatch .invalid
      s!"Developer patch analysis failed: {devData.systemMessage}"
  else
    let files := overlap (filterSourceFiles agentData.modifiedFiles)
      (filterSourceFiles devData.modifiedFiles)
    let functions := overlap agentData.modifiedFunctions.toFinset
      devData.modifiedFunctions.toFinset
    { emptyResult agentPatch devPatch .success
        "Localization evaluation completed successfully" with
      fileIntersectionSize := files.1
      fileUnionSize := files.2.1
      fileEvaluation := files.2.2
      functionIntersectionSize := functions.1
      functionUnionSize := functions.2.1
      functionEvaluation := functions.2.2 }

/-- What `run_eval` returns where it would raise. -/
def failedLocalization (agentPatch : AgentPatch) (devPatch : DeveloperPatch) :
    Raised → PatchLocalizationEvaluation
  | .valueError message =>
    emptyResult agentPatch devPatch .error s!"Database error: {message}"
  | e => emptyResult agentPatch devPatch .error s!"Evaluation error: {e.text}"

/-- `run_eval` of a `LocalizationEval`. -/
def runLocalization (agentPatch : AgentPatch) (devPatch : DeveloperPatch) :
    Work PatchLocalizationEvaluation := do
  try
    let agentData ← getPatch agentPatch.patchId
    let devData ← getPatch devPatch.patchId
    pure (localize agentPatch devPatch agentData devData)
  catch e => pure (failedLocalization agentPatch devPatch e)

/-- `evaluate_single`; what is raised is logged. -/
def evaluateSingle (agentPatchId : ℕ) : Work Unit := do
  try
    let agentPatch ← getAgentPatch agentPatchId
    match ← ask (.getDeveloperPatchByBugId agentPatch.bugId) with
    | none => pure ()
    | some devPatch =>
      let evalResult ← runLocalization agentPatch devPatch
      let _ ← insertLocalizationEval evalResult
  catch _ => pure ()

/-- `try: … finally`. -/
def tryFinally (body final : Work Unit) : Work Unit := do
  tryCatch body fun e => do
    final
    throw e
  final

/-- The commit that a developer patch is recorded under. -/
def fixCommitId (bug : DatedBug) : String :=
  match bug.syzbotData.fixCommits with
  | [] => ""
  | commit :: _ => commit.hashValue.getD ""

/-- `bug.patchCommitDate or datetime.now()`. -/
def fixedTimeOf (bug : DatedBug) : Work DateTime :=
  match bug.patchCommitDate with
  | some date => pure date
  | none => ask .now

/-- What a successful analysis is recorded as. -/
def recordAnalysis (bugId : String) (bug : DatedBug) (analysis : PatchAnalysis) : Work Unit := do
  let patchId ← insertPatch
    { patchId := 0
      patchContent := analysis.patchContent
      status := analysis.status
      systemMessage := analysis.systemMessage
      modifiedFiles := analysis.modifiedFiles.getD []
      modifiedFunctions := analysis.modifiedFunctions.getD []
      numModifiedLines := analysis.numModifiedLines }
  let addedTime ← ask .now
  let fixedTime ← fixedTimeOf bug
  let patchMessage ← Coroutine.ofExcept (requireText "DeveloperPatch" bug.syzbotData.patchMessage)
  let _ ← insertDeveloperPatch
    { devPatchId := 0
      patchId := patchId
      bugId := bugId
      commitId := fixCommitId bug
      addedTime := addedTime
      fixedTime := fixedTime
      patchMessage := patchMessage
      attrs := .empty }

/-- What is done while the image is there. -/
def analyzePatch (bugId : String) (bug : DatedBug) : Work Unit := do
  ask (.ensureKenvImage bugId)
  match ← ask (.runAgent bugId (bug.syzbotData.patch.getD "")) with
  | none => pure ()
  | some analysis =>
    if analysis.status = .success then recordAnalysis bugId bug analysis else pure ()

/-- `_process_one`; what it raises `gather` hands to the caller, who logs it. -/
def processOne (bugId : String) : Work Unit := do
  let bug ← getBug bugId
  if isFalsy bug.syzbotData.patch then pure ()
  else tryFinally (analyzePatch bugId bug) (ask (.cleanupImages bugId))

/-! ## The runs -/

inductive Kind
  | submitCrashResolution (maxConcurrent : ℕ) (agentConfigId : Option ℤ)
  | localization (maxConcurrent : ℕ)
  | developerPatches

structure Args where
  connection : ℕ
  kind : Kind

def selectItems (args : Args) (s : Shared Db) : List Item :=
  let db := s.view args.connection
  match args.kind with
  | .submitCrashResolution _ agentConfigId =>
    (db.crashYetEvaluated agentConfigId).map .crashResolution
  | .localization _ => db.localizationYetEvaluated.map .localization
  | .developerPatches => db.bugsNeedingDeveloperPatches.map .developerPatch

def work : Item → Work Unit
  | .crashResolution agentPatchId => submitSingle agentPatchId
  | .localization agentPatchId => evaluateSingle agentPatchId
  | .developerPatch bugId => processOne bugId

/-- What comes from outside: that the awaited goes on, what it returns, or an exception. -/
inductive Input
  | go
  | time (now : DateTime)
  | job (job : Option KGymJob)
  | jobId (jobId : JobId)
  | analysis (analysis : Option PatchAnalysis)
  | raises (e : Raised)

def Db.insertCrashResolutionEval (eval : PatchCrashResolutionEvaluation) (db : Db) : Db × ℕ :=
  let crashEvals := db.crashEvals.append (fun n => { eval with evalId := n }) (fun _ => rfl)
  ({ db with crashEvals := crashEvals },crashEvals.last)

def Db.insertLocalizationEval (eval : PatchLocalizationEvaluation) (db : Db) : Db × ℕ :=
  let localizationEvals := db.localizationEvals.append (fun n => { eval with evalId := n })
    (fun _ => rfl)
  ({ db with localizationEvals := localizationEvals },localizationEvals.last)

def Db.insertPatch (patch : Patch) (db : Db) : Db × ℕ :=
  let patches := db.sources.patches.append (fun n => { patch with patchId := n }) (fun _ => rfl)
  ({ db with sources.patches := patches },patches.last)

def Db.insertDeveloperPatch (devPatch : DeveloperPatch) (db : Db) : Db × ℕ :=
  let developerPatches := db.developerPatches.append (fun n => { devPatch with devPatchId := n })
    (fun _ => rfl)
  ({ db with developerPatches := developerPatches },developerPatches.last)

/-- Whatever is awaited can raise, and then it changed nothing; the clock does not. -/
def exec (args : Args) (r : Request) (s : Shared Db) (input : Input) :
    Option (Shared Db × Except Raised r.Answer) :=
  let db := s.view args.connection
  let statement := fun f : Db → Db × ℕ =>
    (s.execute args.connection f).map fun (s,id) => (s,(.ok id : Except Raised ℕ))
  match r,input with
  | .now,.raises _ => none
  | _,.raises e => some (s,.error e)
  | .getAgentPatch id,.go => some (s,.ok (db.sources.agentPatches.get? id))
  | .getBug bugId,.go => some (s,.ok (db.sources.bugs.get? bugId))
  | .getLatestKcache bugId baseCommit,.go => some (s,.ok (db.latestKcache bugId baseCommit))
  | .getPatch id,.go => some (s,.ok (db.sources.patches.rows.find? fun row => row.patchId = id))
  | .getDeveloperPatchByBugId bugId,.go => some (s,.ok (db.developerPatchByBugId bugId))
  | .getJob _,.job job => some (s,.ok job)
  | .createJob _,.jobId jobId => some (s,.ok jobId)
  | .ensureKenvImage _,.go => some (s,.ok ())
  | .runAgent _ _,.analysis analysis => some (s,.ok analysis)
  | .cleanupImages _,.go => some (s,.ok ())
  | .insertCrashResolutionEval eval,.go => statement (Db.insertCrashResolutionEval eval)
  | .insertLocalizationEval eval,.go => statement (Db.insertLocalizationEval eval)
  | .insertPatch patch,.go => statement (Db.insertPatch patch)
  | .insertDeveloperPatch devPatch,.go => statement (Db.insertDeveloperPatch devPatch)
  | .commit,.go => some (s.commit args.connection,.ok ())
  | .now,.time now => some (s,.ok now)
  | _,_ => none

/-- What else happens: somebody changes what the pipelines select and read from, or commits. -/
inductive Other
  | write (connection : ℕ) (f : Sources → Sources)
  | commit (connection : ℕ)

def happen (e : Other) (s : Shared Db) : Option (Shared Db) :=
  match e with
  | .write connection f =>
    (s.execute connection fun db => ({ db with sources := f db.sources },())).map Prod.fst
  | .commit connection => some (s.commit connection)

def evaluations : Pipeline (Shared Db) Args Item Request Request.Answer Raised Input Other where
  select := selectItems
  body _ := work
  limit args :=
    match args.kind with
    | .submitCrashResolution maxConcurrent _ => some maxConcurrent
    | .localization maxConcurrent => some maxConcurrent
    | .developerPatches => none
  cancels args :=
    match args.kind with
    | .developerPatches => false
    | _ => true
  exec args _ := exec args
  other := happen

/-- No item has two results. -/
def AtMostOne (db : Db) : Prop := ∀ i, db.results i ≤ 1

end Eval
end LiveKBench.KArenaPipeline
