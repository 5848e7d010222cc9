import LiveKBench.KArenaPipeline.KGymJobs
import LiveKBench.Lib.AutoTable
import LiveKBench.Lib.SharedDatabase
import LiveKBench.Lib.TaskPool

/-! The passes that fill the table `kcache`: `submit_kcache_builds` creates a kGym job for each bug
that has no row yet and inserts one, `populate_kcache_builds` polls the jobs and fills in their
verdicts. -/
namespace LiveKBench.KArenaPipeline
open KCore
open KArena (Evaluation EvaluationResult interpretKgymVerdict)
open KArenaWeb (DateTime)
open KArenaDb
open Lib

namespace Kcache

structure Db where
  bugs : Table SyzbotBug.bugId
  kcaches : AutoTable KCache.kCacheId

def pair (row : KCache) : String × BaseCommit := (row.bugId,row.baseCommit)

/-- `INSERT INTO kcache`, with the new key where no row has the pair. -/
def Db.insertKcache (kcache : KCache) (db : Db) : Db × Option ℕ :=
  match db.kcaches.insert? pair (fun n => { kcache with kCacheId := n }) (fun _ => rfl) with
  | some kcaches => ({ db with kcaches := kcaches },some kcaches.last)
  | none => (db,none)

/-- A row is submitted and not polled yet. -/
def submitted (row : KCache) : Bool := row.status = .success && row.kGymEvaluation.isNone

def Db.submittedKcacheBuilds (db : Db) : List ℕ :=
  (db.kcaches.table.select submitted).map KCache.kCacheId

/-- The columns that `update_kcache_poll_result` sets. -/
def setPollResult (kcache row : KCache) : KCache :=
  { row with
    status := kcache.status
    systemMessage := kcache.systemMessage
    storageKey := kcache.storageKey
    storageUri := kcache.storageUri
    kGymEvaluation := kcache.kGymEvaluation
    kGymEvaluationResult := kcache.kGymEvaluationResult
    crashReport := kcache.crashReport }

def Db.updateKcachePollResult (kcache : KCache) (db : Db) : Db :=
  let kcaches := db.kcaches.update (fun row => row.kCacheId = kcache.kCacheId)
    (setPollResult kcache) (fun _ => rfl)
  { db with kcaches := kcaches }

/-- `get_bugs_needing_kcache`. -/
def Db.bugsNeedingKcache (db : Db) (status : BugStatus) : List SyzbotBug :=
  db.bugs.select fun bug => bug.status = status &&
    !db.kcaches.rows.any fun row => row.baseCommit = baseCommitForStatus status &&
      row.bugId = bug.bugId

/-! ## Submissions -/

structure SubmitArgs where
  status : BugStatus
  userspaceImageName : String
  nBatch : ℕ
  ninstance : ℤ
  syzkallerLatestTag : String
  deriving DecidableEq

/-- What the request for a bug is, or why there is none. -/
def requestOf (args : SubmitArgs) (bug : SyzbotBug) : Except Raised KJobRequest := do
  let builder ← KBuilderArgument.modelFromSyzbotData bug.syzbotData args.userspaceImageName
    (args.status = .fixed)
  let vms ← (List.replicate args.nBatch ()).mapM fun _ =>
    KVMManagerArgument.modelFromSyzbotData bug.syzbotData 0 args.syzkallerLatestTag args.ninstance
  return ⟨builder,vms,[("bugId",bug.bugId),
    ("baseCommit",(baseCommitForStatus args.status).text),("phase","kcache")]⟩

/-- A bug that was selected, with the request that its data give. -/
structure Submission where
  bugId : String
  request : Except Raised KJobRequest
  deriving DecidableEq

inductive Request
  | createJob (request : KJobRequest)
  | insertKcache (kcache : KCache)
  | commit
  | now
  | getKcacheById (kCacheId : ℕ)
  | getJob (jobId : JobId)
  | downloadReport (key : String)
  | updateKcachePollResult (kcache : KCache)

abbrev Request.Answer : Request → Type
  | .createJob _ => JobId
  | .insertKcache _ => ℕ
  | .commit => Unit
  | .now => DateTime
  | .getKcacheById _ => Option KCache
  | .getJob _ => Option KGymJob
  | .downloadReport _ => String
  | .updateKcachePollResult _ => Unit

abbrev Work (α : Type) := Coroutine Request Request.Answer Raised α

def ask (r : Request) : Work r.Answer := Coroutine.request r

def insertKcache (kcache : KCache) : Work ℕ := do
  let rowid ← ask (.insertKcache kcache)
  ask .commit
  return rowid

/-- The row of a submission. -/
def newKcache (bugId : String) (baseCommit : BaseCommit) (addedTime : DateTime)
    (kGymJobId : String) (status : EntryStatus) (systemMessage : String) : KCache :=
  { kCacheId := 0
    bugId := bugId
    baseCommit := baseCommit
    addedTime := addedTime
    kGymJobId := kGymJobId
    status := status
    systemMessage := systemMessage
    storageKey := none
    storageUri := none
    kGymEvaluation := none
    kGymEvaluationResult := none
    crashReport := none }

/-- The body of the `try`. -/
def createJob (submission : Submission) : Work JobId := do
  let request ← Coroutine.ofExcept submission.request
  ask (.createJob request)

/-- `_submit_single_kcache_build`. -/
def submitSingle (baseCommit : BaseCommit) (submission : Submission) : Work Unit := do
  let created ← tryCatch (.ok <$> createJob submission) fun e => pure (.error e)
  match (created : Except Raised JobId) with
  | .error e =>
    let addedTime ← ask .now
    let _ ← insertKcache (newKcache submission.bugId baseCommit addedTime "" .error
      s!"Submit failed: {e.text}")
  | .ok jobId =>
    let addedTime ← ask .now
    let _ ← insertKcache (newKcache submission.bugId baseCommit addedTime (JobId.str jobId)
      .success "Submitted")

/-! ## Polls -/

/-- `kCache` of the first stage's result, where there is one. -/
def builtKCache (job : KGymJob) : Option JobResource :=
  match job.readKCache with
  | .ok kCache => kCache
  | .error _ => none

/-- The row once its job has a verdict: any verdict where the build itself failed is final. -/
def withVerdict (kcache : KCache) (job : KGymJob) (verdict : EvaluationResult)
    (crashReport : Option String) : KCache :=
  let storage := builtKCache job
  let buildFailed := verdict.evaluation = .compilationError ∨ storage = none
  { kcache with
    status := if buildFailed then .error else .success
    systemMessage :=
      if buildFailed then s!"kCache build failed: {verdict.evaluation.text}"
      else s!"kCache ready: {verdict.evaluation.text}"
    storageKey := storage.map JobResource.key
    storageUri := storage.map JobResource.storageUri
    kGymEvaluation := some verdict.evaluation
    kGymEvaluationResult := some verdict
    crashReport := crashReport }

/-- The report of a crash that was reproduced. -/
def reportOf (verdict : EvaluationResult) : Option JobResource :=
  if verdict.evaluation = .reproduced then verdict.resources.bind CrashIncident.report else none

/-- What the interpretation of a job raises. -/
def Raised.ofPyError : PyError → Raised
  | .valueError message => .valueError message
  | .indexError => .indexError
  | _ => .attributeError "imageAbility"

def getKcacheById (kCacheId : ℕ) : Work KCache := do
  orRaise s!"kCache not found: {kCacheId}" (← ask (.getKcacheById kCacheId))

/-- The report's text, where it can be downloaded. -/
def downloadReport (verdict : EvaluationResult) : Work (Option String) :=
  match reportOf verdict with
  | none => pure none
  | some report => tryCatch (some <$> ask (.downloadReport report.key)) fun _ => pure none

/-- The job of a row, where it has come to its end. -/
def doneJob (job : Option KGymJob) : Option KGymJob :=
  job.filter fun job => job.context.status = .finished || job.context.status = .aborted

def updateKcachePollResult (kcache : KCache) : Work Unit := do
  ask (.updateKcachePollResult kcache)
  ask .commit

/-- `_poll_single_kcache_build`; what it returns is only counted. -/
def pollSingle (kCacheId : ℕ) : Work Unit := do
  let kcache ← getKcacheById kCacheId
  if kcache.kGymJobId = "" then pure ()
  else
    let jobId ← Coroutine.ofExcept (parseJobId kcache.kGymJobId)
    match doneJob (← ask (.getJob jobId)) with
    | none => pure ()
    | some job =>
      let verdict ← Coroutine.ofExcept
        ((interpretKgymVerdict job.context jobId).mapError Raised.ofPyError)
      let crashReport ← downloadReport verdict
      updateKcachePollResult (withVerdict kcache job verdict crashReport)

/-- `poll_one`; what is raised is logged. -/
def pollOne (kCacheId : ℕ) : Work Unit := do
  try pollSingle kCacheId
  catch _ => pure ()

/-! ## The passes -/

inductive Kind
  | submit (args : SubmitArgs)
  | poll
  deriving DecidableEq

structure Args where
  connection : ℕ
  kind : Kind
  maxConcurrent : ℕ
  deriving DecidableEq

inductive Item
  | submission (submission : Submission)
  | row (kCacheId : ℕ)
  deriving DecidableEq

/-- The database, and the jobs that the tasks were given. -/
structure State where
  db : Shared Db
  created : List ((ℕ × Item) × JobId)

def selectItems (args : Args) (s : State) : List Item :=
  let db := s.db.view args.connection
  match args.kind with
  | .submit submitArgs => (db.bugsNeedingKcache submitArgs.status).map fun bug =>
      .submission ⟨bug.bugId,requestOf submitArgs bug⟩
  | .poll => db.submittedKcacheBuilds.map .row

def work (args : Args) : Item → Work Unit
  | .submission submission =>
    match args.kind with
    | .submit submitArgs => submitSingle (baseCommitForStatus submitArgs.status) submission
    | .poll => pure ()
  | .row kCacheId => pollOne kCacheId

/-- What comes from outside: that the awaited goes on, what it returns, or an exception. -/
inductive Input
  | go
  | time (now : DateTime)
  | jobId (jobId : JobId)
  | job (job : Option KGymJob)
  | report (text : String)
  | raises (e : Raised)

def integrityError : Raised :=
  .exception "IntegrityError" "UNIQUE constraint failed: kcache.bugId, kcache.baseCommit"

/-- What an insertion answers. -/
def insertionAnswer : Option ℕ → Except Raised ℕ
  | some id => .ok id
  | none => .error integrityError

/-- Whatever is awaited can raise, and then it changed nothing; the clock does not. -/
def exec (args : Args) (task : ℕ × Item) (r : Request) (s : State) (input : Input) :
    Option (State × Except Raised r.Answer) :=
  match r,input with
  | .now,.raises _ => none
  | _,.raises e => some (s,.error e)
  | .createJob _,.jobId jobId =>
    some ({ s with created := (task,jobId) :: s.created },.ok jobId)
  | .insertKcache kcache,.go =>
    (s.db.execute args.connection (Db.insertKcache kcache)).map fun (db,id) =>
      ({ s with db := db },insertionAnswer id)
  | .commit,.go => some ({ s with db := s.db.commit args.connection },.ok ())
  | .now,.time now => some (s,.ok now)
  | .getKcacheById kCacheId,.go =>
    some (s,.ok ((s.db.view args.connection).kcaches.get? kCacheId))
  | .getJob _,.job job => some (s,.ok job)
  | .downloadReport _,.report text => some (s,.ok text)
  | .updateKcachePollResult kcache,.go =>
    (s.db.execute args.connection fun db => (db.updateKcachePollResult kcache,())).map
      fun (db,a) => ({ s with db := db },.ok a)
  | _,_ => none

/-- What else happens: somebody changes the bugs, or commits. -/
inductive Other
  | writeBugs (connection : ℕ) (f : Table SyzbotBug.bugId → Table SyzbotBug.bugId)
  | commit (connection : ℕ)

def happen (e : Other) (s : State) : Option State :=
  match e with
  | .writeBugs connection f =>
    (s.db.execute connection fun db => ({ db with bugs := f db.bugs },())).map fun (db,_) =>
      { s with db := db }
  | .commit connection => some { s with db := s.db.commit connection }

def kcacheBuilds : Pipeline State Args Item Request Request.Answer Raised Input Other where
  select := selectItems
  body := work
  limit args := some args.maxConcurrent
  cancels _ := true
  exec := exec
  other := happen

abbrev Runs := Pool State Args Item Request Request.Answer Raised

abbrev RunEvent := Pool.Event Args Item Input Other

/-- What the answers can be. -/
inductive Answers (args : Args) (task : ℕ × Item) (s : State) :
    (r : Request) → State → Except Raised r.Answer → Prop
  | raised {r e} : Answers args task s r s (.error e)
  | createJob {request jobId} : Answers args task s (.createJob request)
      { s with created := (task,jobId) :: s.created } (.ok jobId)
  | insertKcache {kcache db' id}
      (hx : s.db.Executes args.connection (Db.insertKcache kcache) db' id) :
      Answers args task s (.insertKcache kcache) { s with db := db' } (insertionAnswer id)
  | commit : Answers args task s .commit { s with db := s.db.commit args.connection } (.ok ())
  | now {now} : Answers args task s .now s (.ok now)
  | getKcacheById {kCacheId} : Answers args task s (.getKcacheById kCacheId) s
      (.ok ((s.db.view args.connection).kcaches.get? kCacheId))
  | getJob {jobId job} : Answers args task s (.getJob jobId) s (.ok job)
  | downloadReport {key text} : Answers args task s (.downloadReport key) s (.ok text)
  | updateKcachePollResult {kcache db' a} (hx : s.db.Executes args.connection
      (fun db => (db.updateKcachePollResult kcache,())) db' a) :
      Answers args task s (.updateKcachePollResult kcache) { s with db := db' } (.ok a)

lemma answers_of_exec {args : Args} {task : ℕ × Item} {r : Request} {s s' : State}
    {input : Input} {x : Except Raised r.Answer} (h : exec args task r s input = some (s',x)) :
    Answers args task s r s' x := by
  cases input with
  | raises e =>
    cases r <;> cases h <;> exact .raised
  | go =>
    cases r with
    | insertKcache kcache =>
      obtain ⟨⟨db',id⟩,he,hpair⟩ := Option.map_eq_some_iff.mp h
      cases hpair
      exact .insertKcache (Shared.executes_of_execute he)
    | updateKcachePollResult kcache =>
      obtain ⟨⟨db',a⟩,he,hpair⟩ := Option.map_eq_some_iff.mp h
      cases hpair
      exact .updateKcachePollResult (Shared.executes_of_execute he)
    | commit => cases h; exact .commit
    | getKcacheById kCacheId => cases h; exact .getKcacheById
    | createJob request => cases h
    | now => cases h
    | getJob jobId => cases h
    | downloadReport key => cases h
  | time now => cases r <;> cases h; exact .now
  | jobId jobId => cases r <;> cases h; exact .createJob
  | job job => cases r <;> cases h; exact .getJob
  | report text => cases r <;> cases h; exact .downloadReport

end Kcache
end LiveKBench.KArenaPipeline
