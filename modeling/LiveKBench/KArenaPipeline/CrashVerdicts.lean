import LiveKBench.KArenaPipeline.CrashPolls
import LiveKBench.KArenaPipeline.EvaluationRuns
import LiveKBench.KArenaPipeline.KcacheJobs
import LiveKBench.KArenaPipeline.KcachePolls
import LiveKBench.Lib.SharedAdvance

/-! Whose verdict a row has. Passes of submissions and of polls overlap as they like; a row with a
verdict has one on its own job, given after that job had ended. Polls of one row may overlap too:
nothing keeps the later one from writing over the verdict of the earlier, but where an ended job is
reported the same each time, it writes the same verdict again. -/
namespace LiveKBench.KArenaPipeline
open KCore
open KArena (Evaluation EvaluationResult interpretKgymVerdict)
open KArenaDb
open Lib

namespace CrashRuns

/-- The verdict is one on the job with this number, as a poll was given it after its end. -/
def VerdictOn (answered : List (JobId × KGymJob)) (kGymEvalJobId : String)
    (verdict : EvaluationResult) : Prop :=
  ∃ jobId job, parseJobId kGymEvalJobId = .ok jobId ∧ (jobId,job) ∈ answered ∧
    Ended job ∧ interpretKgymVerdict job.context jobId = .ok verdict

/-- The row has no verdict yet, or has the one on its own job. -/
inductive Vouched (answered : List (JobId × KGymJob)) (row : PatchCrashResolutionEvaluation) : Prop
  | waits (status : row.status = .success) (evaluation : row.kGymEvaluation = none)
      (result : row.kGymEvaluationResult = none)
  | polled (verdict : EvaluationResult) (on : VerdictOn answered row.kGymEvalJobId verdict)
      (filled : row = withVerdict row verdict)

/-! ## What a task may ask for -/

/-- What a submission has been told. -/
structure Knows where
  agentPatch : Option AgentPatch
  kcache : Option KCache
  build : Option (String × KGymJob)
  patch : Option Patch
  job : Option (KJobRequest × JobId)

namespace Knows

def nothing : Knows := ⟨none,none,none,none,none⟩

def learn (knows : Knows) : (r : Eval.Request) → Except Raised r.Answer → Knows
  | .getAgentPatch _,.ok row => { knows with agentPatch := row }
  | .getLatestKcache _ _,.ok row => { knows with kcache := row }
  | .getPatch _,.ok row => { knows with patch := row }
  | .getJob jobId,.ok job => { knows with build := job.map fun job => (jobId,job) }
  | .createJob request,.ok jobId => { knows with job := some (request,jobId) }
  | _,_ => knows

end Knows

/-- The row is about a job that builds the agent's patch on the build of the row's kCache. -/
structure JobOf (agentPatch : AgentPatch) (kcache : KCache) (build : KGymJob) (patch : Patch)
    (request : KJobRequest) (jobId : JobId) (row : PatchCrashResolutionEvaluation) : Prop where
  agentPatchId : row.agentPatchId = agentPatch.agentPatchId
  kCacheId : row.kCacheId = kcache.kCacheId
  bug : kcache.bugId = agentPatch.bugId ∧ kcache.baseCommit = agentPatch.baseCommit
  patchId : (patch.patchId : ℤ) = agentPatch.patchId
  content : request.builder.patch = patch.patchContent
  source : ∃ resource, build.readKCache = .ok (some resource) ∧
    request.builder.kernelSource = .kcache resource
  job : row.kGymEvalJobId = JobId.str jobId

/-- The row of a submission that knows so much. -/
inductive Submits : Knows → PatchCrashResolutionEvaluation → Prop
  | mk {agentPatch kcache build patch request jobId row}
      (job : JobOf agentPatch kcache build patch request jobId row)
      (status : row.status = .success) (evaluation : row.kGymEvaluation = none)
      (result : row.kGymEvaluationResult = none) :
      Submits ⟨some agentPatch,some kcache,some (kcache.kGymJobId,build),some patch,
        some (request,jobId)⟩ row

/-- How far a task is: a submission with what it knows, or a poll that has its record, and the job
of that record, and has written the verdict. -/
inductive Phase
  | submitting (knows : Knows)
  | polling (evalId : ℕ)
  | read (record : PatchCrashResolutionEvaluation)
  | fetched (record : PatchCrashResolutionEvaluation) (jobId : JobId) (job : KGymJob)
  | written

/-- What a submission may be answered. -/
def Answerable : (r : Eval.Request) → Except Raised r.Answer → Prop
  | .getAgentPatch id,.ok row => ∀ agentPatch ∈ row, agentPatch.agentPatchId = id
  | .getLatestKcache bugId baseCommit,.ok row =>
    ∀ kcache ∈ row, kcache.bugId = bugId ∧ kcache.baseCommit = baseCommit
  | .getPatch id,.ok row => ∀ patch ∈ row, (patch.patchId : ℤ) = id
  | _,_ => True

/-- A submission inserts its row and nothing else. -/
def mayAsk (knows : Knows) : Eval.Request → Prop
  | .insertCrashResolutionEval eval => Submits knows eval
  | .insertLocalizationEval _ | .insertPatch _ | .insertDeveloperPatch _ => False
  | _ => True

def allowed : Phase → Request → Prop
  | .submitting knows,.submission r => mayAsk knows r
  | .polling evalId,.getCrashResolutionEval id => id = evalId
  | .read record,.getJob jobId => parseJobId record.kGymEvalJobId = .ok jobId
  | .fetched record jobId job,.updateCrashResolutionEval eval =>
    Ended job ∧
      ∃ verdict, interpretKgymVerdict job.context jobId = .ok verdict ∧
        eval = withVerdict record verdict
  | .written,.submission r => r = .commit
  | _,_ => False

def leads (t : Phase) : (r : Request) → Except Raised r.Answer → Phase → Prop
  | .submission r,x,t' =>
    match t with
    | .submitting knows => Answerable r x ∧ t' = .submitting (knows.learn r x)
    | t => t' = t
  | .getCrashResolutionEval evalId,.ok (some record),t' =>
    record.evalId = evalId ∧ t' = .read record
  | .getJob jobId,.ok (some job),t' =>
    match t with
    | .read record => t' = .fetched record jobId job
    | t => t' = t
  | .updateCrashResolutionEval _,.ok _,t' => t' = .written
  | _,_,t' => t' = t

def protocol : Protocol Request Request.Answer Raised Phase := ⟨allowed,leads⟩

def Anyhow (_ : Phase) (_ : Except Raised Unit) : Prop := True

def firstPhase (_ : Args) : Item → Phase
  | .agentPatch _ => .submitting .nothing
  | .evaluation evalId => .polling evalId

section Polls
variable {α : Type} {t : Phase}

lemma ofExcept_follows {x : Except Raised α} {Q : Phase → Except Raised α → Prop}
    (h : ∀ y, x = y → Q t y) : (Coroutine.ofExcept x : Work α).Follows protocol Q t := by
  cases x <;> exact h _ rfl

lemma getCrashResolutionEval_follows {evalId : ℕ}
    {Q : Phase → Except Raised PatchCrashResolutionEvaluation → Prop}
    (hok : ∀ record, record.evalId = evalId → Q (.read record) (.ok record))
    (herror : ∀ t e, Q t (.error e)) :
    (getCrashResolutionEval evalId).Follows protocol Q (.polling evalId) := by
  refine Coroutine.follows_bind.mpr (Coroutine.follows_request.mpr ⟨rfl,?_⟩)
  intro x t' hx
  match x,hx with
  | .error e,hx =>
    obtain rfl : t' = .polling evalId := hx
    exact herror _ e
  | .ok none,hx =>
    obtain rfl : t' = .polling evalId := hx
    exact herror _ _
  | .ok (some record),hx =>
    obtain ⟨hid,rfl⟩ := hx
    exact hok record hid

lemma updateCrashResolutionEval_follows {record eval : PatchCrashResolutionEvaluation}
    {jobId : JobId} {job : KGymJob} {Q : Phase → Except Raised Unit → Prop}
    (hallowed : allowed (.fetched record jobId job) (.updateCrashResolutionEval eval))
    (hQ : ∀ t x, Q t x) :
    (updateCrashResolutionEval eval).Follows protocol Q (.fetched record jobId job) := by
  refine Coroutine.follows_bind.mpr (Coroutine.follows_request.mpr ⟨hallowed,?_⟩)
  intro x t' hx
  cases x with
  | error e => exact hQ _ _
  | ok a =>
    obtain rfl : t' = .written := hx
    refine Coroutine.follows_request.mpr ⟨rfl,?_⟩
    intro y t' hy
    exact hQ _ _

lemma judgeJob_follows {record : PatchCrashResolutionEvaluation} {jobId : JobId} {job : KGymJob}
    {Q : Phase → Except Raised (Option PatchCrashResolutionEvaluation) → Prop}
    (hnone : Q (.fetched record jobId job) (.ok none))
    (hok : ∀ eval, allowed (.fetched record jobId job) (.updateCrashResolutionEval eval) →
      Q (.fetched record jobId job) (.ok (some eval)))
    (herror : ∀ t e, Q t (.error e)) :
    (judgeJob record jobId job).Follows protocol Q (.fetched record jobId job) := by
  unfold judgeJob
  split
  · next hended =>
    refine Coroutine.follows_bind.mpr (ofExcept_follows ?_)
    intro x hx
    cases x with
    | error e => exact herror _ _
    | ok verdict =>
      refine hok _ ⟨hended,verdict,?_,rfl⟩
      cases hv : interpretKgymVerdict job.context jobId with
      | error e => simp [hv,Except.mapError] at hx
      | ok v => simpa [hv,Except.mapError] using hx
  · exact hnone

lemma pollJob_follows {record : PatchCrashResolutionEvaluation}
    {Q : Phase → Except Raised (Option PatchCrashResolutionEvaluation) → Prop}
    (hnone : ∀ t, Q t (.ok none))
    (hok : ∀ jobId job eval,
      allowed (.fetched record jobId job) (.updateCrashResolutionEval eval) →
      Q (.fetched record jobId job) (.ok (some eval)))
    (herror : ∀ t e, Q t (.error e)) : (pollJob record).Follows protocol Q (.read record) := by
  refine Coroutine.follows_bind.mpr (ofExcept_follows ?_)
  intro x hjobId
  cases x with
  | error e => exact herror _ _
  | ok jobId =>
    refine Coroutine.follows_bind.mpr (Coroutine.follows_request.mpr ⟨hjobId,?_⟩)
    intro y t' hy
    match y,hy with
    | .error e,hy => exact herror _ _
    | .ok none,hy => exact herror _ _
    | .ok (some job),hy =>
      obtain rfl : t' = .fetched record jobId job := hy
      exact judgeJob_follows (hnone _) (hok jobId job) herror

lemma pollSingle_follows (evalId : ℕ) :
    (pollSingle evalId).Follows protocol Anyhow (.polling evalId) := by
  have hcaught : ∀ (t : Phase) (x : Except Raised Unit),
      Coroutine.Handled protocol Anyhow (fun _ => pure ()) t x := by
    intro t x
    cases x <;> trivial
  have herror : ∀ (t : Phase) (e : Raised), Coroutine.After protocol
      (Coroutine.Handled protocol Anyhow fun _ => pure ()) storeResult t (.error e) :=
    fun t e => hcaught t (.error e)
  refine Coroutine.follows_tryCatch.mpr (Coroutine.follows_bind.mpr (Coroutine.follows_bind.mpr
    (getCrashResolutionEval_follows ?_ herror)))
  intro record hid
  rw [Coroutine.after_ok]
  cases record.kGymEvaluation with
  | some evaluation => exact herror _ (.valueError _)
  | none =>
    refine pollJob_follows (fun t => hcaught t (.ok ())) ?_ herror
    intro jobId job eval hallowed
    exact updateCrashResolutionEval_follows hallowed hcaught

end Polls

/-! ## Submissions -/

section Submissions
variable {α : Type} {knows : Knows}

/-- The protocol as a submission sees it. -/
abbrev submission : Protocol Eval.Request Eval.Request.Answer Raised Phase :=
  Coroutine.pull Request.submission (fun _ x => x) protocol

lemma submission_leads {r : Eval.Request} {x : Except Raised r.Answer} {t' : Phase}
    (h : submission.leads (.submitting knows) r x t') :
    Answerable r x ∧ t' = .submitting (knows.learn r x) := by
  obtain ⟨y,rfl,hy⟩ := h
  have hy' : y.map (fun x => x) = y := by cases y <;> rfl
  rw [hy']
  exact hy

lemma ask_follows {r : Eval.Request} {Q : Phase → Except Raised r.Answer → Prop}
    (hallowed : mayAsk knows r)
    (hok : ∀ a, Answerable r (.ok a) → Q (.submitting (knows.learn r (.ok a))) (.ok a))
    (herror : ∀ t e, Q t (.error e)) :
    (Eval.ask r).Follows submission Q (.submitting knows) := by
  refine Coroutine.follows_request.mpr ⟨hallowed,?_⟩
  intro x t' hx
  obtain ⟨ha,rfl⟩ := submission_leads hx
  cases x with
  | error e => exact herror _ e
  | ok a => exact hok a ha

lemma orRaise_follows {message : String} {row : Option α} {t : Phase}
    {Q : Phase → Except Raised α → Prop} (hok : ∀ a, row = some a → Q t (.ok a))
    (herror : ∀ t e, Q t (.error e)) : (orRaise message row : Eval.Work α).Follows submission Q t := by
  cases row with
  | none => exact herror _ _
  | some a => exact hok a rfl

lemma fromExcept_follows {x : Except Raised α} {t : Phase} {Q : Phase → Except Raised α → Prop}
    (hok : ∀ a, x = .ok a → Q t (.ok a)) (herror : ∀ t e, Q t (.error e)) :
    (Coroutine.ofExcept x : Eval.Work α).Follows submission Q t := by
  cases x with
  | error e => exact herror _ _
  | ok a => exact hok a rfl

/-- A row that is read and has to be there. -/
lemma readRow_follows {r : Eval.Request} {message : String} (read : r.Answer → Option α)
    {Q : Phase → Except Raised α → Prop} (hallowed : mayAsk knows r)
    (hok : ∀ a row, Answerable r (.ok a) → read a = some row →
      Q (.submitting (knows.learn r (.ok a))) (.ok row))
    (herror : ∀ t e, Q t (.error e)) :
    (do orRaise message (read (← Eval.ask r)) : Eval.Work α).Follows submission Q
      (.submitting knows) := by
  refine Coroutine.follows_bind.mpr (ask_follows hallowed ?_ herror)
  intro a ha
  exact orRaise_follows (fun row hrow => hok a row ha hrow) herror

lemma getAgentPatch_follows {id : ℕ} {Q : Phase → Except Raised AgentPatch → Prop}
    (hok : ∀ row, Q (.submitting { knows with agentPatch := some row }) (.ok row))
    (herror : ∀ t e, Q t (.error e)) :
    (Eval.getAgentPatch id).Follows submission Q (.submitting knows) := by
  refine readRow_follows (r := .getAgentPatch id) (fun row => row) trivial ?_ herror
  rintro _ row _ rfl
  exact hok row

lemma getBug_follows {bugId : String} {Q : Phase → Except Raised Eval.DatedBug → Prop}
    (hok : ∀ bug, Q (.submitting knows) (.ok bug)) (herror : ∀ t e, Q t (.error e)) :
    (Eval.getBug bugId).Follows submission Q (.submitting knows) :=
  readRow_follows (r := .getBug bugId) (fun row => row) trivial (fun _ bug _ _ => hok bug) herror

lemma getLatestKcache_follows {bugId : String} {baseCommit : BaseCommit}
    {Q : Phase → Except Raised KCache → Prop}
    (hok : ∀ row, row.bugId = bugId ∧ row.baseCommit = baseCommit →
      Q (.submitting { knows with kcache := some row }) (.ok row))
    (herror : ∀ t e, Q t (.error e)) :
    (Eval.getLatestKcache bugId baseCommit).Follows submission Q (.submitting knows) := by
  refine readRow_follows (r := .getLatestKcache bugId baseCommit) (fun row => row) trivial ?_ herror
  rintro _ row ha rfl
  exact hok row (ha row rfl)

lemma getPatch_follows {patchId : ℤ} {Q : Phase → Except Raised Patch → Prop}
    (hok : ∀ row : Patch, (row.patchId : ℤ) = patchId →
      Q (.submitting { knows with patch := some row }) (.ok row))
    (herror : ∀ t e, Q t (.error e)) :
    (Eval.getPatch patchId).Follows submission Q (.submitting knows) := by
  refine readRow_follows (r := .getPatch patchId) (fun row => row) trivial ?_ herror
  rintro _ row ha rfl
  exact hok row (ha row rfl)

/-- The job of a submission builds the patch on the build of the kCache. -/
lemma submitKgymJob_follows {bugId kcacheJobId patchContent syzkallerTag : String}
    {Q : Phase → Except Raised String → Prop}
    (hok : ∀ build resource request jobId, build.readKCache = .ok (some resource) →
      request.builder.kernelSource = .kcache resource → request.builder.patch = patchContent →
      Q (.submitting { knows with build := some (kcacheJobId,build), job := some (request,jobId) })
        (.ok (JobId.str jobId)))
    (herror : ∀ t e, Q t (.error e)) :
    (Eval.submitKgymJob bugId kcacheJobId patchContent syzkallerTag).Follows submission Q
      (.submitting knows) := by
  refine Coroutine.follows_bind.mpr (ask_follows trivial ?_ herror)
  intro build _
  cases build with
  | none => exact herror _ _
  | some build =>
    refine Coroutine.follows_bind.mpr (fromExcept_follows ?_ herror)
    intro kcache hkcache
    refine Coroutine.follows_bind.mpr (getBug_follows ?_ herror)
    intro bug
    cases kcache with
    | none => exact herror _ _
    | some resource =>
      refine Coroutine.follows_bind.mpr (fromExcept_follows ?_ herror)
      intro userspaceImage _
      refine Coroutine.follows_bind.mpr (fromExcept_follows ?_ herror)
      intro vm _
      refine Coroutine.follows_bind.mpr (ask_follows trivial ?_ herror)
      intro jobId _
      exact hok build resource _ jobId hkcache rfl rfl

lemma submitEval_follows (agentPatchId : ℕ)
    {Q : Phase → Except Raised PatchCrashResolutionEvaluation → Prop}
    (hok : ∀ knows eval, Submits knows eval → Q (.submitting knows) (.ok eval))
    (herror : ∀ t e, Q t (.error e)) :
    (Eval.submitEval agentPatchId).Follows submission Q (.submitting .nothing) := by
  refine Coroutine.follows_bind.mpr (getAgentPatch_follows ?_ herror)
  intro agentPatch
  refine Coroutine.follows_bind.mpr (getBug_follows ?_ herror)
  intro bug
  refine Coroutine.follows_bind.mpr (getLatestKcache_follows ?_ herror)
  intro kcache hkcache
  refine Coroutine.follows_bind.mpr (getPatch_follows ?_ herror)
  intro patch hpatch
  refine Coroutine.follows_bind.mpr (submitKgymJob_follows ?_ herror)
  intro build resource request jobId hbuild hsource hcontent
  refine hok _ _ (.mk ?_ rfl rfl rfl)
  exact ⟨rfl,rfl,hkcache,hpatch,hcontent,⟨resource,hbuild,hsource⟩,rfl⟩

lemma submitSingle_follows (agentPatchId : ℕ) :
    (submitSingle agentPatchId).Follows protocol Anyhow (.submitting .nothing) := by
  refine Coroutine.follows_lift.mpr (Coroutine.follows_tryCatch.mpr (Coroutine.follows_bind.mpr
    (submitEval_follows agentPatchId ?_ fun _ _ => trivial)))
  intro knows eval hsubmits
  refine Coroutine.follows_bind.mpr (Coroutine.follows_bind.mpr (ask_follows hsubmits ?_
    fun _ _ => trivial))
  intro rowid _
  refine Coroutine.follows_bind.mpr (ask_follows trivial ?_ fun _ _ => trivial)
  intro _ _
  trivial

end Submissions

theorem work_follows (args : Args) (i : Item) :
    (work args i).Follows protocol Anyhow (firstPhase args i) := by
  cases i with
  | agentPatch agentPatchId => exact submitSingle_follows agentPatchId
  | evaluation evalId => exact pollSingle_follows evalId

/-! ## What the answers can be -/

/-- What a submission hears leaves a note. -/
def State.heard (s : State) (r : Eval.Request) (x : Except Raised r.Answer) : State :=
  { s with
    created := (createdBy r x).toList ++ s.created
    builds := (buildOf r x).toList ++ s.builds }

/-- What a submission reads of the database. -/
def Reads (db : Eval.Db) : (r : Eval.Request) → Except Raised r.Answer → Prop
  | .getAgentPatch id,.ok row => row = db.sources.agentPatches.get? id
  | .getLatestKcache bugId baseCommit,.ok row => row = db.latestKcache bugId baseCommit
  | .getPatch id,.ok row => row = db.sources.patches.rows.find? fun row => row.patchId = id
  | _,_ => True

inductive Answers (args : Args) (s : State) : (r : Request) → State → Except Raised r.Answer → Prop
  | heard {r x} (reads : Reads (s.db.view args.connection) r x) :
      Answers args s (.submission r) (s.heard r x) x
  | commit : Answers args s (.submission .commit)
      { s with db := s.db.commit args.connection } (.ok ())
  | insert {eval db' id}
      (hx : s.db.Executes args.connection (Eval.Db.insertCrashResolutionEval eval) db' id) :
      Answers args s (.submission (.insertCrashResolutionEval eval)) { s with db := db' } (.ok id)
  | raised {r e} : Answers args s r s (.error e)
  | getCrashResolutionEval {evalId} : Answers args s (.getCrashResolutionEval evalId) s
      (.ok ((s.db.view args.connection).crashEvals.get? evalId))
  | getJob {jobId job} : Answers args s (.getJob jobId)
      { s with answered := (job.map fun job => (jobId,job)).toList ++ s.answered } (.ok job)
  | update {eval db' a}
      (hx : s.db.Executes args.connection (fun db => (updateEval eval db,())) db' a) :
      Answers args s (.updateCrashResolutionEval eval) { s with db := db' } (.ok a)

lemma answers_of_submission {args : Args} {knows : Knows} {r : Eval.Request} {s s' : State}
    {input : Eval.Input} {x : Except Raised r.Answer} (hr : mayAsk knows r)
    (h : exec args (.submission r) s input = some (s',x)) : Answers args s (.submission r) s' x := by
  obtain ⟨⟨db,y⟩,he,hpair⟩ := Option.map_eq_some_iff.mp h
  cases hpair
  cases input with
  | raises e => cases r <;> cases he <;> exact .raised
  | go =>
    cases r with
    | insertCrashResolutionEval eval =>
      obtain ⟨⟨db',id⟩,hx,hpair⟩ := Option.map_eq_some_iff.mp he
      cases hpair
      exact .insert (Shared.executes_of_execute hx)
    | insertLocalizationEval eval => exact hr.elim
    | insertPatch patch => exact hr.elim
    | insertDeveloperPatch devPatch => exact hr.elim
    | commit =>
      cases he
      exact .commit
    | getAgentPatch id =>
      cases he
      exact .heard rfl
    | getLatestKcache bugId baseCommit =>
      cases he
      exact .heard rfl
    | getPatch id =>
      cases he
      exact .heard rfl
    | getBug bugId =>
      cases he
      exact .heard trivial
    | getDeveloperPatchByBugId bugId =>
      cases he
      exact .heard trivial
    | ensureKenvImage bugId =>
      cases he
      exact .heard trivial
    | cleanupImages bugId =>
      cases he
      exact .heard trivial
    | getJob jobId => cases he
    | createJob request => cases he
    | runAgent bugId patch => cases he
    | now => cases he
  | time now =>
    cases r <;> cases he
    exact .heard trivial
  | job job =>
    cases r <;> cases he
    exact .heard trivial
  | jobId jobId =>
    cases r <;> cases he
    exact .heard trivial
  | analysis analysis =>
    cases r <;> cases he
    exact .heard trivial

lemma answers_of_exec {args : Args} {t : Phase} {r : Request} {s s' : State} {input : Eval.Input}
    {x : Except Raised r.Answer} (hr : allowed t r) (h : exec args r s input = some (s',x)) :
    Answers args s r s' x := by
  cases r with
  | submission r =>
    cases t with
    | submitting knows => exact answers_of_submission hr h
    | written =>
      obtain rfl : r = .commit := hr
      exact @answers_of_submission args .nothing _ _ _ _ _ trivial h
    | polling evalId => exact hr.elim
    | read record => exact hr.elim
    | fetched record jobId job => exact hr.elim
  | getCrashResolutionEval evalId =>
    cases input <;> cases h
    · exact .getCrashResolutionEval
    · exact .raised
  | getJob jobId =>
    cases input <;> cases h
    · exact .getJob
    · exact .raised
  | updateCrashResolutionEval eval =>
    cases input with
    | go =>
      obtain ⟨⟨db',a⟩,he,hpair⟩ := Option.map_eq_some_iff.mp h
      cases hpair
      exact .update (Shared.executes_of_execute he)
    | raises e =>
      cases h
      exact .raised
    | _ => cases h

/-- A scan that keeps one of two rows at a time ends with one of the rows. -/
lemma mem_of_foldl_keeps {α : Type} {keep : Option α → α → Option α}
    (hkeep : ∀ best row a, keep best row = some a → a = row ∨ best = some a) {rows : List α}
    {best : Option α} {a : α} (h : rows.foldl keep best = some a) : a ∈ rows ∨ best = some a := by
  induction rows generalizing best with
  | nil => exact .inr h
  | cons row rows ih =>
    rcases ih h with hmem | hkept
    · exact .inl (List.mem_cons_of_mem _ hmem)
    · rcases hkeep best row a hkept with rfl | hbest
      · exact .inl List.mem_cons_self
      · exact .inr hbest

lemma mem_of_latestKcache {db : Eval.Db} {bugId : String} {baseCommit : BaseCommit} {row : KCache}
    (h : db.latestKcache bugId baseCommit = some row) :
    row ∈ db.sources.kcaches.rows ∧ row.bugId = bugId ∧ row.baseCommit = baseCommit := by
  refine (mem_of_foldl_keeps (fun best row a hkept => ?_) h).elim (fun hmem => ?_)
    fun hnone => absurd hnone (by simp)
  · cases best with
    | none => exact .inl (Option.some.inj hkept).symm
    | some b =>
      simp only at hkept
      split at hkept
      · exact .inl (Option.some.inj hkept).symm
      · exact .inr hkept
  · obtain ⟨hrow,hp⟩ := List.mem_filter.mp hmem
    simp only [Bool.and_eq_true,decide_eq_true_eq] at hp
    exact ⟨hrow,hp.1.1,hp.1.2⟩

lemma answerable_of_reads {db : Eval.Db} {r : Eval.Request} {x : Except Raised r.Answer}
    (h : Reads db r x) : Answerable r x := by
  cases x with
  | error e => cases r <;> trivial
  | ok a =>
    cases r with
    | getAgentPatch id =>
      obtain rfl : a = db.sources.agentPatches.get? id := h
      exact fun agentPatch hrow => Table.key_of_get? hrow
    | getLatestKcache bugId baseCommit =>
      obtain rfl : a = db.latestKcache bugId baseCommit := h
      exact fun kcache hrow => (mem_of_latestKcache hrow).2
    | getPatch id =>
      obtain rfl : a = db.sources.patches.rows.find? _ := h
      intro patch hrow
      have hfound : db.sources.patches.rows.find? (fun row => decide ((row.patchId : ℤ) = id)) =
          some patch := hrow
      simpa using List.find?_some hfound
    | _ => trivial

/-! ## What holds between the steps -/

/-- The row of the record is there and has the job of the record. -/
def HasJob (db : Eval.Db) (record : PatchCrashResolutionEvaluation) : Prop :=
  ∃ row, db.crashEvals.get? record.evalId = some row ∧ row.kGymEvalJobId = record.kGymEvalJobId

/-- No row is lost or gets another job. -/
def SameJobs (db db' : Eval.Db) : Prop := ∀ record, HasJob db record → HasJob db' record

instance : Std.Refl SameJobs := ⟨fun _ _ h => h⟩

instance : IsTrans Eval.Db SameJobs := ⟨fun _ _ _ h h' record hr => h' record (h record hr)⟩

def AllVouched (answered : List (JobId × KGymJob)) (db : Eval.Db) : Prop :=
  ∀ row ∈ db.crashEvals.rows, Vouched answered row

/-- What a poll remembers is so. -/
def Fine (s : State) : Phase → Prop
  | .read record => HasJob s.db.current record
  | .fetched record jobId job =>
    HasJob s.db.current record ∧ parseJobId record.kGymEvalJobId = .ok jobId ∧
      (jobId,job) ∈ s.answered
  | _ => True

structure Inv (s : State) (g : ℕ × Item → Option Phase) : Prop where
  current : AllVouched s.answered s.db.current
  committed : AllVouched s.answered s.db.committed
  jobs : SameJobs s.db.committed s.db.current
  phases : ∀ k i t, g (k,i) = some t → Fine s t

section Keeping
variable {s s' : State} {g : ℕ × Item → Option Phase} {k : ℕ} {i : Item} {t : Phase}
  {answered answered' : List (JobId × KGymJob)} {db : Eval.Db}

lemma Vouched.mono {row : PatchCrashResolutionEvaluation} (h : Vouched answered row)
    (hsub : answered ⊆ answered') : Vouched answered' row := by
  cases h with
  | waits status evaluation result => exact .waits status evaluation result
  | polled verdict on filled =>
    obtain ⟨jobId,job,hparse,hmem,hended,hverdict⟩ := on
    exact .polled verdict ⟨jobId,job,hparse,hsub hmem,hended,hverdict⟩ filled

lemma AllVouched.mono (h : AllVouched answered db) (hsub : answered ⊆ answered') :
    AllVouched answered' db := fun row hr => (h row hr).mono hsub

lemma AllVouched.insert {eval : PatchCrashResolutionEvaluation} (h : AllVouched answered db)
    (status : eval.status = .success) (evaluation : eval.kGymEvaluation = none)
    (result : eval.kGymEvaluationResult = none) :
    AllVouched answered (Eval.Db.insertCrashResolutionEval eval db).1 := by
  intro row hr
  rcases List.mem_append.mp hr with hr | hr
  · exact h row hr
  · obtain rfl := List.mem_singleton.mp hr
    exact .waits status evaluation result

/-- The verdict on the job of a record is one on the job of its row. -/
lemma AllVouched.update {record : PatchCrashResolutionEvaluation} {verdict : EvaluationResult}
    (h : AllVouched answered db) (hjob : HasJob db record)
    (hverdict : VerdictOn answered record.kGymEvalJobId verdict) :
    AllVouched answered (updateEval (withVerdict record verdict) db) := by
  intro _ hupdated
  obtain ⟨row,hr,rfl⟩ := List.mem_map.mp hupdated
  split
  · next hkey =>
    have hkey : row.evalId = record.evalId := of_decide_eq_true hkey
    obtain ⟨row',hrow',hsame⟩ := hjob
    have hrow : db.crashEvals.get? record.evalId = some row := Table.get?_eq_some.mpr ⟨hr,hkey⟩
    obtain rfl : row = row' := Option.some.inj (hrow.symm.trans hrow')
    exact .polled verdict (hsame ▸ hverdict) rfl
  · exact h row hr

lemma sameJobs_insert (eval : PatchCrashResolutionEvaluation) (db : Eval.Db) :
    SameJobs db (Eval.Db.insertCrashResolutionEval eval db).1 := by
  rintro record ⟨row,hrow,hjob⟩
  obtain ⟨hr,hkey⟩ := Table.get?_eq_some.mp hrow
  exact ⟨row,Table.get?_eq_some.mpr ⟨List.mem_append_left _ hr,hkey⟩,hjob⟩

lemma sameJobs_update (eval : PatchCrashResolutionEvaluation) (db : Eval.Db) :
    SameJobs db (updateEval eval db) := by
  rintro record ⟨row,hrow,hjob⟩
  refine ⟨_,(AutoTable.get?_update db.crashEvals _ _ _ _).trans (by rw [hrow]; rfl),?_⟩
  dsimp only
  split <;> exact hjob

lemma Fine.mono (h : Fine s t) (hdb : s.db.Advances SameJobs s'.db)
    (hanswered : s.answered ⊆ s'.answered) : Fine s' t := by
  cases t with
  | read record => exact hdb.current record h
  | fetched record jobId job => exact ⟨hdb.current record h.1,h.2.1,hanswered h.2.2⟩
  | _ => trivial

/-- A task goes on, and what the others remember is still so. -/
lemma Inv.goes (h : Inv s g) (current : AllVouched s'.answered s'.db.current)
    (committed : AllVouched s'.answered s'.db.committed) (hdb : s.db.Advances SameJobs s'.db)
    (hanswered : s.answered ⊆ s'.answered) (hfine : Fine s' t) :
    Inv s' (Function.update g (k,i) (some t)) := by
  refine ⟨current,committed,hdb.ahead,?_⟩
  intro k' i' t' ht'
  by_cases hki : (k',i') = (k,i)
  · rw [hki,Function.update_self] at ht'
    cases ht'
    exact hfine
  · rw [Function.update_of_ne hki] at ht'
    exact (h.phases k' i' t' ht').mono hdb hanswered

/-- A task goes on, and the database is as it was. -/
lemma Inv.moves (h : Inv s g) (hdb : s'.db = s.db) (hanswered : s.answered ⊆ s'.answered)
    (hfine : Fine s' t) : Inv s' (Function.update g (k,i) (some t)) := by
  refine h.goes ?_ ?_ ?_ hanswered hfine
  · exact hdb ▸ h.current.mono hanswered
  · exact hdb ▸ h.committed.mono hanswered
  · rw [hdb]
    exact Shared.advances_refl h.jobs

/-- A connection writes. -/
lemma Inv.executes {α : Type} {f : Eval.Db → Eval.Db × α} {c : ℕ} {db' : Shared Eval.Db} {a : α}
    (h : Inv s g) (hx : s.db.Executes c f db' a) (hjobs : ∀ db, SameJobs db (f db).1)
    (hcurrent : AllVouched s.answered (f s.db.current).1)
    (hfine : Fine { s with db := db' } t) :
    Inv { s with db := db' } (Function.update g (k,i) (some t)) := by
  refine h.goes ?_ ?_ (hx.advances h.jobs (hjobs _)) (List.Subset.refl _) hfine
  · exact hx.current ▸ hcurrent
  · exact hx.committed ▸ h.committed

lemma Inv.commit (h : Inv s g) (c : ℕ) : Inv { s with db := s.db.commit c } g := by
  have hdb : s.db.Advances SameJobs (s.db.commit c) := Shared.advances_commit h.jobs c
  refine ⟨?_,?_,hdb.ahead,fun k i t ht => (h.phases k i t ht).mono hdb (List.Subset.refl _)⟩
  · change AllVouched s.answered (s.db.commit c).current
    rw [Shared.current_commit]
    exact h.current
  · change AllVouched s.answered (s.db.commit c).committed
    rw [Shared.committed_commit]
    rcases s.db.view_eq c with he | he
    · exact he ▸ h.current
    · exact he ▸ h.committed

lemma Inv.stays (h : Inv s g) (hg : g (k,i) = some t) : Inv s (Function.update g (k,i) (some t)) := by
  rw [← hg,Function.update_eq_self]
  exact h

/-- A record that a connection reads has its job still. -/
lemma Inv.hasJob_of_view (h : Inv s g) {c : ℕ} {evalId : ℕ}
    {record : PatchCrashResolutionEvaluation}
    (hrecord : (s.db.view c).crashEvals.get? evalId = some record) :
    HasJob s.db.current record := by
  have hkey : record.evalId = evalId := Table.key_of_get? hrecord
  exact Shared.view_to_current h.jobs c record ⟨record,hkey ▸ hrecord,rfl⟩

end Keeping

lemma leads_error (t : Phase) (r : Request) (e : Raised) : leads t r (.error e) t := by
  cases r with
  | submission r =>
    cases t with
    | submitting knows => exact ⟨by cases r <;> trivial,by cases r <;> rfl⟩
    | _ => rfl
  | _ => cases t <;> rfl

section Resumption
variable {s : State} {g : ℕ × Item → Option Phase} {k : ℕ} {i : Item} {t : Phase} {args : Args}

/-- A request that raises has changed nothing. -/
lemma Inv.raises (h : Inv s g) (hg : g (k,i) = some t) (r : Request) (e : Raised) :
    ∃ t', leads t r (.error e) t' ∧ Inv s (Function.update g (k,i) (some t')) :=
  ⟨t,leads_error t r e,h.stays hg⟩

/-- A request of a submission is answered. -/
lemma Inv.submission {r : Eval.Request} {s' : State} {x : Except Raised r.Answer} (h : Inv s g)
    (hg : g (k,i) = some t) (hr : allowed t (.submission r))
    (hx : Answers args s (.submission r) s' x) :
    ∃ t', leads t (.submission r) x t' ∧ Inv s' (Function.update g (k,i) (some t')) := by
  cases hx with
  | raised => exact h.raises hg _ _
  | heard reads =>
    cases t with
    | submitting knows =>
      refine ⟨_,⟨answerable_of_reads reads,rfl⟩,?_⟩
      exact h.moves rfl (List.Subset.refl _) trivial
    | written => exact ⟨_,rfl,h.moves rfl (List.Subset.refl _) trivial⟩
    | polling evalId => exact hr.elim
    | read record => exact hr.elim
    | fetched record jobId job => exact hr.elim
  | commit =>
    cases t with
    | submitting knows =>
      refine ⟨_,⟨trivial,rfl⟩,(h.commit args.connection).moves rfl (List.Subset.refl _) trivial⟩
    | written =>
      exact ⟨_,rfl,(h.commit args.connection).moves rfl (List.Subset.refl _) trivial⟩
    | polling evalId => exact hr.elim
    | read record => exact hr.elim
    | fetched record jobId job => exact hr.elim
  | @insert eval db' id hx =>
    cases t with
    | submitting knows =>
      have hsubmits : Submits knows eval := hr
      obtain ⟨-,status,evaluation,result⟩ := hsubmits
      refine ⟨_,⟨trivial,rfl⟩,h.executes hx (sameJobs_insert eval) ?_ trivial⟩
      exact h.current.insert status evaluation result
    | written => cases hr
    | polling evalId => exact hr.elim
    | read record => exact hr.elim
    | fetched record jobId job => exact hr.elim

/-- The record of a poll is read. -/
lemma Inv.getCrashResolutionEval (h : Inv s g) (hg : g (k,i) = some t) (c evalId : ℕ) :
    ∃ t', leads t (.getCrashResolutionEval evalId)
        (.ok ((s.db.view c).crashEvals.get? evalId)) t' ∧
      Inv s (Function.update g (k,i) (some t')) := by
  cases hrecord : (s.db.view c).crashEvals.get? evalId with
  | none => exact ⟨t,rfl,h.stays hg⟩
  | some record =>
    refine ⟨.read record,⟨Table.key_of_get? hrecord,rfl⟩,?_⟩
    exact h.moves rfl (List.Subset.refl _) (h.hasJob_of_view hrecord)

/-- The job of a record is returned to its poll. -/
lemma Inv.getJob {jobId : JobId} (h : Inv s g) (hg : g (k,i) = some t)
    (hr : allowed t (.getJob jobId)) (job : Option KGymJob) :
    ∃ t', leads t (.getJob jobId) (.ok job) t' ∧
      Inv { s with answered := (job.map fun job => (jobId,job)).toList ++ s.answered }
        (Function.update g (k,i) (some t')) := by
  cases t with
  | read record =>
    have hparse : parseJobId record.kGymEvalJobId = .ok jobId := hr
    have hjob : HasJob s.db.current record := h.phases k i _ hg
    cases job with
    | none => exact ⟨.read record,rfl,h.moves rfl (List.Subset.refl _) hjob⟩
    | some job =>
      refine ⟨.fetched record jobId job,rfl,h.moves rfl (List.subset_cons_self _ _) ?_⟩
      exact ⟨hjob,hparse,List.mem_cons_self⟩
  | submitting knows => exact hr.elim
  | polling evalId => exact hr.elim
  | fetched record jobId' job => exact hr.elim
  | written => exact hr.elim

/-- A verdict is written. -/
lemma Inv.update {eval : PatchCrashResolutionEvaluation} {c : ℕ} {db' : Shared Eval.Db} {a : Unit}
    (h : Inv s g) (hg : g (k,i) = some t) (hr : allowed t (.updateCrashResolutionEval eval))
    (hx : s.db.Executes c (fun db => (updateEval eval db,())) db' a) :
    ∃ t', leads t (.updateCrashResolutionEval eval) (.ok a) t' ∧
      Inv { s with db := db' } (Function.update g (k,i) (some t')) := by
  cases t with
  | fetched record jobId job =>
    obtain ⟨hended,verdict,hverdict,rfl⟩ := hr
    obtain ⟨hjob,hparse,hmem⟩ := h.phases k i _ hg
    refine ⟨.written,rfl,h.executes hx (sameJobs_update _) ?_ trivial⟩
    exact h.current.update hjob ⟨jobId,job,hparse,hmem,hended,hverdict⟩
  | submitting knows => exact hr.elim
  | polling evalId => exact hr.elim
  | read record => exact hr.elim
  | written => exact hr.elim

end Resumption

/-- What others do to the database leaves the evaluations alone. -/
lemma Inv.happen {s s' : State} {g : ℕ × Item → Option Phase} {e : Eval.Other} (h : Inv s g)
    (he : CrashRuns.happen e s = some s') : Inv s' g := by
  obtain ⟨db,hdb,rfl⟩ := Option.map_eq_some_iff.mp he
  cases e with
  | commit c =>
    cases hdb
    exact h.commit c
  | write c f =>
    obtain ⟨⟨db',a⟩,hx,rfl⟩ := Option.map_eq_some_iff.mp hdb
    have hx := Shared.executes_of_execute hx
    have hdb : s.db.Advances SameJobs db' := hx.advances h.jobs fun _ hr => hr
    refine ⟨?_,?_,hdb.ahead,fun k i t ht => (h.phases k i t ht).mono hdb (List.Subset.refl _)⟩
    · change AllVouched s.answered db'.current
      rw [hx.current]
      exact h.current
    · exact hx.committed ▸ h.committed

theorem upholds (C : Runs → RunEvent → Prop) :
    crashRuns.Upholds protocol Anyhow firstPhase C fun s _ g => Inv s g where
  body := work_follows
  starts _ _ _ _ _ hi _ _ _ := hi
  selects := by
    intro p g k args _ hi _ _ hnone
    refine ⟨hi.current,hi.committed,hi.jobs,?_⟩
    intro k' i t ht
    rcases Pipeline.spawned_cases hnone ht with ⟨-,-,rfl⟩ | ⟨-,ht⟩
    · cases i <;> trivial
    · exact hi.phases k' i t ht
  resumes := by
    intro p g k i input call r c s x t _ hi _ _ _ hg hr hexec
    have hx := answers_of_exec hr hexec
    cases r with
    | submission r => exact hi.submission hg hr hx
    | getCrashResolutionEval evalId =>
      cases hx with
      | @raised _ e => exact hi.raises hg (.getCrashResolutionEval evalId) e
      | getCrashResolutionEval => exact hi.getCrashResolutionEval hg _ evalId
    | getJob jobId =>
      cases hx with
      | @raised _ e => exact hi.raises hg (.getJob jobId) e
      | getJob => exact hi.getJob hg hr _
    | updateCrashResolutionEval eval =>
      cases hx with
      | @raised _ e => exact hi.raises hg (.updateCrashResolutionEval eval) e
      | update hx => exact hi.update hg hr hx
  cancels := by
    intro p g k i args items t _ hi _ _ _ _ _ hg
    exact ⟨t,.ok (),trivial,hi.stays hg⟩
  others _ _ _ _ _ hi _ he := hi.happen he

lemma inv_of_unevaluated {s : State} (h : Unevaluated s) : Inv s fun _ => none := by
  obtain ⟨db,rfl,hempty⟩ := h
  have hnone : AllVouched [] db := by simp [AllVouched,hempty]
  exact ⟨hnone,hnone,fun _ h => h,fun _ _ _ ht => nomatch ht⟩

theorem inv_of_reachable {C : Runs → RunEvent → Prop} {p : Runs} (h : machine.ReachableBy C p) :
    ∃ g, Pipeline.Typed protocol Anyhow firstPhase p g ∧ Inv p.shared g :=
  (upholds C).reachable (fun _ => inv_of_unevaluated) h

lemma agentPatchId_of_renumbered (n : ℕ) :
    ({ Eval.agentPatch with agentPatchId := n } : AgentPatch).agentPatchId = n := rfl

/-- A patch of an agent with all that its submission reads. -/
def oneUnevaluated : Eval.Db where
  sources :=
    { bugs := ⟨[{ Kcache.openBug "bug" with
        syzbotData := { Kcache.openData "bug" with userspaceImage := some "image" }
        patchCommitDate := none }],List.nodup_singleton _⟩
      kenvBaseImages := .empty
      kcaches := AutoTable.empty.append
        (fun n => { KcacheLife.submittedRow "bug" n with baseCommit := .parentCommit }) fun _ => rfl
      patches := AutoTable.empty.append (fun n => ⟨n,"patch",.success,"",[],[],1⟩) fun _ => rfl
      agentPatches := AutoTable.empty.append
        (fun n => { Eval.agentPatch with agentPatchId := n }) agentPatchId_of_renumbered }
  crashEvals := .empty
  localizationEvals := .empty
  developerPatches := .empty

lemma oneUnevaluated_init : machine.init (.idle ⟨.opened oneUnevaluated,[],[],[]⟩) :=
  ⟨_,⟨_,rfl,rfl⟩,rfl⟩

/-- A submission, up to the commit of its row about the job 7. -/
def submits : List RunEvent :=
  [.start 0 ⟨0,.submit none,16⟩,.select 0,.enter 0 (.agentPatch 1)] ++
    [.go,.go,.go,.go,.job (some KcacheLife.imageJob),.go,.jobId 7,.go,.go].map
      (.resume 0 (.agentPatch 1))

/-- The poll of the call `k` is told that the row has no verdict. -/
def reads (k : ℕ) : List RunEvent :=
  [.start k ⟨k,.poll,16⟩,.select k,.enter k (.evaluation 1),.resume k (.evaluation 1) .go]

/-- It is given the job and writes the verdict. -/
def judges (k : ℕ) (job : KGymJob) : List RunEvent :=
  [.job (some job),.go,.go].map (.resume k (.evaluation 1))

/-- Two polls of the row that overlap. -/
def bothPoll (job job' : KGymJob) : List RunEvent :=
  submits ++ reads 1 ++ reads 2 ++ judges 1 job ++ judges 2 job'

def verdictsIn (db : Eval.Db) : List (Option Evaluation) :=
  db.crashEvals.rows.map PatchCrashResolutionEvaluation.kGymEvaluation

/-- Whatever passes overlap, no connection ever sees a row with a verdict on another job than its
own, or on one that had not ended. -/
theorem verdicts_of_own_jobs {p : Runs} (h : machine.Reachable p) (connection : ℕ) :
    ∀ row ∈ (p.shared.db.view connection).crashEvals.rows, Vouched p.shared.answered row := by
  obtain ⟨g,-,hi⟩ := inv_of_reachable h
  rcases p.shared.db.view_eq connection with he | he
  · exact he ▸ hi.current
  · exact he ▸ hi.committed

theorem verdicts_of_own_jobs_overlapping : ∃ p, machine.Reachable p ∧
    verdictsIn (p.shared.db.view 0) = [some .imageError] ∧
    ∀ row ∈ (p.shared.db.view 0).crashEvals.rows, Vouched p.shared.answered row := by
  obtain ⟨p,hp,htest⟩ := Machine.exists_of_replay machine (fun _ _ => True)
    (bothPoll KcacheLife.imageJob KcacheLife.imageJob)
    (fun p => verdictsIn (p.shared.db.view 0) = [some .imageError]) oneUnevaluated_init
    (by decide +kernel)
  exact ⟨p,hp,of_decide_eq_true htest,verdicts_of_own_jobs hp 0⟩

/-! ## Verdicts that stay -/

/-- An ended job is the same in every answer. -/
def Consistent (answered : List (JobId × KGymJob)) : Prop :=
  ∀ jobId job job', (jobId,job) ∈ answered → (jobId,job') ∈ answered → Ended job → Ended job' →
    job'.context = job.context

/-- The job that a task has asked for. -/
def awaitedJob : Task Request Request.Answer Raised → Option JobId
  | .active (.await (.getJob jobId) _) => some jobId
  | _ => none

/-- An ended job is returned to a poll as it was to the polls before. -/
def Final (p : Runs) : RunEvent → Prop
  | .resume k i (.job (some job)) => ∀ jobId ∈ awaitedJob (p.task (k,i)), Ended job →
      ∀ answer ∈ p.shared.answered, answer.1 = jobId → Ended answer.2 →
        answer.2.context = job.context
  | _ => True

/-- No verdict is lost or replaced. -/
def KeepsVerdicts (db db' : Eval.Db) : Prop :=
  ∀ evalId row, db.crashEvals.get? evalId = some row → row.kGymEvaluation ≠ none →
    db'.crashEvals.get? evalId = some row

instance : Std.Refl KeepsVerdicts := ⟨fun _ _ _ h _ => h⟩

instance : IsTrans Eval.Db KeepsVerdicts :=
  ⟨fun _ _ _ h h' evalId row hrow hpolled => h' evalId row (h evalId row hrow hpolled) hpolled⟩

section Verdicts
variable {answered : List (JobId × KGymJob)} {db : Eval.Db}

lemma Consistent.verdict_unique (h : Consistent answered) {kGymEvalJobId : String}
    {verdict verdict' : EvaluationResult} (hv : VerdictOn answered kGymEvalJobId verdict)
    (hv' : VerdictOn answered kGymEvalJobId verdict') : verdict = verdict' := by
  obtain ⟨jobId,job,hparse,hmem,hended,hverdict⟩ := hv
  obtain ⟨jobId',job',hparse',hmem',hended',hverdict'⟩ := hv'
  obtain rfl : jobId = jobId' := Except.ok.inj (hparse.symm.trans hparse')
  rw [h jobId job job' hmem hmem' hended hended'] at hverdict'
  exact Except.ok.inj (hverdict.symm.trans hverdict')

lemma Consistent.cons (h : Consistent answered) {jobId : JobId} {job : KGymJob}
    (hjob : Ended job → ∀ answer ∈ answered, answer.1 = jobId → Ended answer.2 →
      answer.2.context = job.context) : Consistent ((jobId,job) :: answered) := by
  intro jobId' job₁ job₂ hmem₁ hmem₂ hended₁ hended₂
  rcases List.mem_cons.mp hmem₁ with he₁ | hmem₁
  · cases he₁
    rcases List.mem_cons.mp hmem₂ with he₂ | hmem₂
    · cases he₂
      rfl
    · exact hjob hended₁ _ hmem₂ rfl hended₂
  · rcases List.mem_cons.mp hmem₂ with he₂ | hmem₂
    · cases he₂
      exact (hjob hended₂ _ hmem₁ rfl hended₁).symm
    · exact h jobId' job₁ job₂ hmem₁ hmem₂ hended₁ hended₂

lemma keepsVerdicts_insert (eval : PatchCrashResolutionEvaluation) (db : Eval.Db) :
    KeepsVerdicts db (Eval.Db.insertCrashResolutionEval eval db).1 := by
  intro evalId row hrow _
  obtain ⟨hr,hkey⟩ := Table.get?_eq_some.mp hrow
  exact Table.get?_eq_some.mpr ⟨List.mem_append_left _ hr,hkey⟩

/-- A verdict that is written over is written again. -/
lemma keepsVerdicts_update (hc : Consistent answered) (hdb : AllVouched answered db)
    {record : PatchCrashResolutionEvaluation} {verdict : EvaluationResult}
    (hjob : HasJob db record) (hv : VerdictOn answered record.kGymEvalJobId verdict) :
    KeepsVerdicts db (updateEval (withVerdict record verdict) db) := by
  intro evalId row hrow hpolled
  refine (AutoTable.get?_update db.crashEvals _ _ _ evalId).trans ?_
  rw [hrow,Option.map_some]
  split
  · next hkey =>
    have hkey : row.evalId = record.evalId := of_decide_eq_true hkey
    obtain ⟨row',hrow',hsame⟩ := hjob
    have hid : row.evalId = evalId := Table.key_of_get? hrow
    rw [← hkey,hid] at hrow'
    obtain rfl : row = row' := Option.some.inj (hrow.symm.trans hrow')
    cases hdb row (Table.get?_eq_some.mp hrow).1 with
    | waits status evaluation result => exact absurd evaluation hpolled
    | polled verdict' on filled =>
      obtain rfl : verdict' = verdict := hc.verdict_unique on (hsame ▸ hv)
      exact congrArg some filled.symm
  · rfl

end Verdicts

/-! ### Runs in which the reports are final -/

/-- What a step does to the jobs that were returned. -/
lemma answered_of_exec {args : Args} {r : Request} {s s' : State} {input : Eval.Input}
    {x : Except Raised r.Answer} (h : exec args r s input = some (s',x)) :
    s'.answered = s.answered ∨ ∃ jobId job, r = .getJob jobId ∧ input = .job (some job) ∧
      s'.answered = (jobId,job) :: s.answered := by
  cases r with
  | submission r =>
    obtain ⟨_,-,hpair⟩ := Option.map_eq_some_iff.mp h
    cases hpair
    exact .inl rfl
  | getCrashResolutionEval evalId => cases input <;> cases h <;> exact .inl rfl
  | getJob jobId =>
    cases input <;> cases h
    · next job =>
      cases job with
      | none => exact .inl rfl
      | some job => exact .inr ⟨jobId,job,rfl,rfl,rfl⟩
    · exact .inl rfl
  | updateCrashResolutionEval eval =>
    cases input with
    | go =>
      obtain ⟨_,-,hpair⟩ := Option.map_eq_some_iff.mp h
      cases hpair
      exact .inl rfl
    | raises e =>
      cases h
      exact .inl rfl
    | _ => cases h

lemma answered_of_happen {s s' : State} {e : Eval.Other} (h : happen e s = some s') :
    s'.answered = s.answered := by
  obtain ⟨db,-,rfl⟩ := Option.map_eq_some_iff.mp h
  rfl

theorem consistent_of_final {p : Runs} (h : machine.ReachableBy Final p) :
    Consistent p.shared.answered := by
  refine h.invariant (I := fun p => Consistent p.shared.answered) ?_ ?_
  · rintro _ ⟨_,⟨db,rfl,-⟩,rfl⟩
    exact fun _ _ _ hmem => nomatch hmem
  · intro p e p' _ hc hfinal hs
    cases crashRuns.moves_of_step hs with
    | start fresh => exact hc
    | select call => exact hc
    | enter call queued permit => exact hc
    | cancel call cancels failed live => exact hc
    | other happens => exact answered_of_happen happens ▸ hc
    | @resume k i input call r c s x called active exec =>
      rcases answered_of_exec exec with he | ⟨jobId,job,rfl,rfl,he⟩
      · exact he ▸ hc
      · change Consistent s.answered
        rw [he]
        refine hc.cons fun hended => hfinal jobId ?_ hended
        rw [active]
        rfl

/-- One step of a run with final reports leaves the verdicts. -/
lemma advances_of_final {p p' : Runs} {e : RunEvent} (h : machine.ReachableBy Final p)
    (hahead : KeepsVerdicts p.shared.db.committed p.shared.db.current)
    (hs : machine.step p e = some p') : p.shared.db.Advances KeepsVerdicts p'.shared.db := by
  have hrefl : p.shared.db.Advances KeepsVerdicts p.shared.db := Shared.advances_refl hahead
  cases crashRuns.moves_of_step hs with
  | start fresh => exact hrefl
  | select call => exact hrefl
  | enter call queued permit => exact hrefl
  | cancel call cancels failed live => exact hrefl
  | @other e s happens =>
    obtain ⟨db,hdb,rfl⟩ := Option.map_eq_some_iff.mp happens
    cases e with
    | commit c =>
      cases hdb
      exact Shared.advances_commit hahead c
    | write c f =>
      obtain ⟨⟨db',a⟩,hx,rfl⟩ := Option.map_eq_some_iff.mp hdb
      exact (Shared.executes_of_execute hx).advances hahead fun _ _ hrow _ => hrow
  | @resume k i input call r c s x called active exec =>
    obtain ⟨g,ht,hi⟩ := inv_of_reachable h
    obtain ⟨t,hg,hr⟩ := ht.allowed active
    cases answers_of_exec hr exec with
    | heard reads => exact hrefl
    | commit => exact Shared.advances_commit hahead _
    | insert hx => exact hx.advances hahead (keepsVerdicts_insert _ _)
    | raised => exact hrefl
    | getCrashResolutionEval => exact hrefl
    | getJob => exact hrefl
    | update hx =>
      cases t with
      | fetched record jobId job =>
        obtain ⟨hended,verdict,hverdict,rfl⟩ := hr
        obtain ⟨hjob,hparse,hmem⟩ := hi.phases k i _ hg
        exact hx.advances hahead (keepsVerdicts_update (consistent_of_final h) hi.current hjob
          ⟨jobId,job,hparse,hmem,hended,hverdict⟩)
      | submitting knows => exact hr.elim
      | polling evalId => exact hr.elim
      | read record => exact hr.elim
      | written => exact hr.elim

lemma ahead_of_final {p : Runs} (h : machine.ReachableBy Final p) :
    KeepsVerdicts p.shared.db.committed p.shared.db.current := by
  refine h.invariant
    (I := fun p => KeepsVerdicts p.shared.db.committed p.shared.db.current) ?_ ?_
  · rintro _ ⟨_,⟨db,rfl,-⟩,rfl⟩
    exact fun _ _ hrow _ => hrow
  · intro p e p' hp hahead _ hs
    exact (advances_of_final hp hahead hs).ahead

/-- Where an ended job is reported the same each time, a verdict that a connection has seen is what
it sees from then on, whatever polls still run on the row. -/
theorem verdict_stays {tr : List (Runs × RunEvent)} {p q : Runs} {e : RunEvent}
    (h : machine.Run Final tr p) (hq : (q,e) ∈ tr) (connection : ℕ) :
    KeepsVerdicts (q.shared.db.view connection) (p.shared.db.view connection) := by
  induction h with
  | start hi => cases hq
  | @next tr p e' p' hrun hc htaken ih =>
    have hp : machine.ReachableBy Final p := ⟨tr,hrun⟩
    have hstep := (advances_of_final hp (ahead_of_final hp) htaken).view connection
    rcases List.mem_cons.mp hq with he | hq
    · cases he
      exact hstep
    · exact trans_of KeepsVerdicts (ih hq) hstep

instance (p : Runs) (e : RunEvent) : Decidable (Final p e) := by
  unfold Final
  split
  · next k i job =>
    cases awaitedJob (p.task (k,i)) with
    | none => exact .isTrue fun _ h => nomatch h
    | some jobId => exact decidable_of_iff (Ended job → ∀ answer ∈ p.shared.answered,
        answer.1 = jobId → Ended answer.2 → answer.2.context = job.context) (by simp)
  · exact .isTrue trivial

/-- The second poll writes the verdict that the first has written. -/
theorem verdict_stays_overlapping : ∃ tr p q e, machine.Run Final tr p ∧ (q,e) ∈ tr ∧
    verdictsIn (q.shared.db.view 0) = [some .imageError] ∧
    KeepsVerdicts (q.shared.db.view 0) (p.shared.db.view 0) := by
  obtain ⟨tr,p,hp,htest⟩ := Machine.exists_run_of_replay machine Final
    (bothPoll KcacheLife.imageJob KcacheLife.imageJob)
    (fun tr _ => tr.any fun (q,_) => verdictsIn (q.shared.db.view 0) = [some .imageError])
    oneUnevaluated_init (by decide +kernel)
  obtain ⟨⟨q,e⟩,hq,hseen⟩ := List.any_eq_true.mp htest
  exact ⟨tr,p,q,e,hp,hq,of_decide_eq_true hseen,verdict_stays hp hq 0⟩

/-- The same job, but aborted. -/
def abortedJob : KGymJob :=
  { KcacheLife.imageJob with context := { KcacheLife.imageJob.context with status := .aborted } }

/-- A job that is reported anew lets the second poll replace the verdict of the first. -/
theorem verdict_replaced : ∃ tr p q e, machine.Run (fun _ _ => True) tr p ∧ (q,e) ∈ tr ∧
    verdictsIn (q.shared.db.view 0) = [some .imageError] ∧
    verdictsIn (p.shared.db.view 0) = [some .error] := by
  obtain ⟨tr,p,hp,htest⟩ := Machine.exists_run_of_replay machine (fun _ _ => True)
    (bothPoll KcacheLife.imageJob abortedJob)
    (fun tr p => (tr.any fun (q,_) => verdictsIn (q.shared.db.view 0) = [some .imageError]) &&
      verdictsIn (p.shared.db.view 0) = [some .error]) oneUnevaluated_init (by decide +kernel)
  obtain ⟨hseen,hlast⟩ := Bool.and_eq_true_iff.mp htest
  obtain ⟨⟨q,e⟩,hq,hseen⟩ := List.any_eq_true.mp hseen
  exact ⟨tr,p,q,e,hp,hq,of_decide_eq_true hseen,of_decide_eq_true hlast⟩

end CrashRuns
end LiveKBench.KArenaPipeline
