import LiveKBench.KArenaPipeline.Evaluations
import LiveKBench.KArenaPipeline.KcacheBuilds
import LiveKBench.Lib.CoroutineLift

/-! The two phases of a crash resolution evaluation on one database:
`submit_crash_resolution_evaluations` inserts a row for each job that it creates, and
`populate_crash_resolution_evaluations` polls the jobs of the rows without a verdict and fills in
their verdicts. Any number of passes of both run at the same time, on any connections. -/
namespace LiveKBench.KArenaPipeline
open KCore
open KArena (Evaluation EvaluationResult interpretKgymVerdict)
open KArenaDb
open Lib

namespace CrashRuns

/-- `get_submitted_crash_resolution_evals`. -/
def submittedEvals (db : Eval.Db) : List ℕ :=
  (db.crashEvals.table.select fun row => row.status = .success && row.kGymEvaluation.isNone).map
    PatchCrashResolutionEvaluation.evalId

/-- The columns that `update_crash_resolution_eval` sets. -/
def setVerdict (eval row : PatchCrashResolutionEvaluation) : PatchCrashResolutionEvaluation :=
  { row with
    status := eval.status
    systemMessage := eval.systemMessage
    kGymEvaluation := eval.kGymEvaluation
    kGymEvaluationResult := eval.kGymEvaluationResult }

def updateEval (eval : PatchCrashResolutionEvaluation) (db : Eval.Db) : Eval.Db :=
  let crashEvals := db.crashEvals.update (fun row => row.evalId = eval.evalId) (setVerdict eval)
    (fun _ => rfl)
  { db with crashEvals := crashEvals }

/-- What a submission asks for, and what a poll asks for besides its commit. -/
inductive Request
  | submission (r : Eval.Request)
  | getCrashResolutionEval (evalId : ℕ)
  | getJob (jobId : JobId)
  | updateCrashResolutionEval (eval : PatchCrashResolutionEvaluation)

abbrev Request.Answer : Request → Type
  | .submission r => r.Answer
  | .getCrashResolutionEval _ => Option PatchCrashResolutionEvaluation
  | .getJob _ => Option KGymJob
  | .updateCrashResolutionEval _ => Unit

abbrev Work (α : Type) := Coroutine Request Request.Answer Raised α

def ask (r : Request) : Work r.Answer := Coroutine.request r

def getCrashResolutionEval (evalId : ℕ) : Work PatchCrashResolutionEvaluation := do
  orRaise s!"Crash resolution evaluation not found: {evalId}"
    (← ask (.getCrashResolutionEval evalId))

/-- The record with the verdict on its job. -/
def withVerdict (record : PatchCrashResolutionEvaluation) (verdict : EvaluationResult) :
    PatchCrashResolutionEvaluation :=
  { record with
    status := .success
    systemMessage := s!"Evaluation completed: {verdict.evaluation.text}"
    kGymEvaluation := some verdict.evaluation
    kGymEvaluationResult := some verdict }

/-- The job has come to its end. -/
def Ended (job : KGymJob) : Prop := job.context.status = .finished ∨ job.context.status = .aborted

instance (job : KGymJob) : Decidable (Ended job) := inferInstanceAs (Decidable (_ ∨ _))

/-- What `poll_eval` makes of the job of its record. -/
def judgeJob (record : PatchCrashResolutionEvaluation) (jobId : JobId) (job : KGymJob) :
    Work (Option PatchCrashResolutionEvaluation) :=
  if Ended job then do
    let verdict ← Coroutine.ofExcept
      ((interpretKgymVerdict job.context jobId).mapError Kcache.Raised.ofPyError)
    return some (withVerdict record verdict)
  else return none

/-- The part of `poll_eval` after the record has turned out to have no verdict. -/
def pollJob (record : PatchCrashResolutionEvaluation) :
    Work (Option PatchCrashResolutionEvaluation) := do
  let jobId ← Coroutine.ofExcept (parseJobId record.kGymEvalJobId)
  match ← ask (.getJob jobId) with
  | none => throw (.attributeError "status")
  | some job => judgeJob record jobId job

/-- `poll_eval`; it returns nothing while the job is in progress. -/
def pollEval (evalId : ℕ) : Work (Option PatchCrashResolutionEvaluation) := do
  let record ← getCrashResolutionEval evalId
  match record.kGymEvaluation with
  | some evaluation => throw (.valueError
      s!"Evaluation {evalId} already polled: kGymEvaluation={evaluation.text}")
  | none => pollJob record

def updateCrashResolutionEval (eval : PatchCrashResolutionEvaluation) : Work Unit := do
  ask (.updateCrashResolutionEval eval)
  ask (.submission .commit)

/-- What `poll_single` does with the outcome. -/
def storeResult : Option PatchCrashResolutionEvaluation → Work Unit
  | none => pure ()
  | some evalResult => updateCrashResolutionEval evalResult

/-- `poll_single`; what is raised is logged. -/
def pollSingle (evalId : ℕ) : Work Unit := do
  try storeResult (← pollEval evalId)
  catch _ => pure ()

/-- `submit_single` among the requests of both phases. -/
def submitSingle (agentPatchId : ℕ) : Work Unit :=
  (Eval.submitSingle agentPatchId).lift Request.submission fun _ x => x

/-! ## The passes -/

inductive Kind
  | submit (agentConfigId : Option ℤ)
  | poll
  deriving DecidableEq

structure Args where
  connection : ℕ
  kind : Kind
  maxConcurrent : ℕ
  deriving DecidableEq

/-- The arguments as the requests of a submission see them. -/
def Args.eval (args : Args) : Eval.Args :=
  ⟨args.connection,.submitCrashResolution args.maxConcurrent none⟩

inductive Item
  | agentPatch (agentPatchId : ℕ)
  | evaluation (evalId : ℕ)
  deriving DecidableEq

/-- The database, and what the kGym service has answered: the jobs that it created, the builds that
it returned to submissions, and the jobs that it returned to polls. Nothing reads these. -/
structure State where
  db : Shared Eval.Db
  created : List (KJobRequest × JobId)
  builds : List (String × KGymJob)
  answered : List (JobId × KGymJob)

def selectItems (args : Args) (s : State) : List Item :=
  let db := s.db.view args.connection
  match args.kind with
  | .submit agentConfigId => (db.crashYetEvaluated agentConfigId).map .agentPatch
  | .poll => (submittedEvals db).map .evaluation

def work (_ : Args) : Item → Work Unit
  | .agentPatch agentPatchId => submitSingle agentPatchId
  | .evaluation evalId => pollSingle evalId

/-- The job that an answer to a submission has created. -/
def createdBy : (r : Eval.Request) → Except Raised r.Answer → Option (KJobRequest × JobId)
  | .createJob request,.ok jobId => some (request,jobId)
  | _,_ => none

/-- The build that an answer to a submission has returned. -/
def buildOf : (r : Eval.Request) → Except Raised r.Answer → Option (String × KGymJob)
  | .getJob jobId,.ok (some job) => some (jobId,job)
  | _,_ => none

/-- Whatever is awaited can raise, and then it changed nothing. -/
def exec (args : Args) (r : Request) (s : State) (input : Eval.Input) :
    Option (State × Except Raised r.Answer) :=
  match r,input with
  | .submission r,input =>
    (Eval.exec args.eval r s.db input).map fun (db,x) =>
      ({ s with
        db := db
        created := (createdBy r x).toList ++ s.created
        builds := (buildOf r x).toList ++ s.builds },x)
  | _,.raises e => some (s,.error e)
  | .getCrashResolutionEval evalId,.go =>
    some (s,.ok ((s.db.view args.connection).crashEvals.get? evalId))
  | .getJob jobId,.job job =>
    some ({ s with answered := (job.map fun job => (jobId,job)).toList ++ s.answered },.ok job)
  | .updateCrashResolutionEval eval,.go =>
    (s.db.execute args.connection fun db => (updateEval eval db,())).map fun (db,a) =>
      ({ s with db := db },.ok a)
  | _,_ => none

def happen (e : Eval.Other) (s : State) : Option State :=
  (Eval.happen e s.db).map fun db => { s with db := db }

def crashRuns : Pipeline State Args Item Request Request.Answer Raised Eval.Input Eval.Other where
  select := selectItems
  body := work
  limit args := some args.maxConcurrent
  cancels _ := true
  exec args _ := exec args
  other := happen

/-- A database without evaluations. -/
def Unevaluated (s : State) : Prop :=
  ∃ db : Eval.Db, s = ⟨.opened db,[],[],[]⟩ ∧ db.crashEvals.rows = []

abbrev Runs := Pool State Args Item Request Request.Answer Raised

abbrev RunEvent := Pool.Event Args Item Eval.Input Eval.Other

abbrev machine : Machine Runs RunEvent := crashRuns.machine Unevaluated

end CrashRuns
end LiveKBench.KArenaPipeline
