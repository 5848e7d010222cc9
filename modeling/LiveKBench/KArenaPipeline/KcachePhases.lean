import LiveKBench.KArenaPipeline.KcacheBuilds

/-! The phases of the tasks of a pass: what a task may ask for after what it was answered so far,
and where it ends. -/
namespace LiveKBench.KArenaPipeline
open KCore
open KArena (EvaluationResult)
open KArenaDb
open Lib

namespace Kcache

def Item.bugId : Item → Option String
  | .submission s => some s.bugId
  | .row _ => none

lemma exists_submission {i : Item} {bugId : String} (h : i.bugId = some bugId) :
    ∃ submission, i = .submission submission := by
  cases i with
  | submission submission => exact ⟨submission,rfl⟩
  | row kCacheId => cases h

/-- A row with a verdict on a build that succeeded knows where the build is stored. -/
def Sound (row : KCache) : Prop :=
  row.status = .success → row.kGymEvaluation ≠ none →
    row.storageKey ≠ none ∧ row.storageUri ≠ none

lemma sound_of_unevaluated {row : KCache} (h : row.kGymEvaluation = none) : Sound row :=
  fun _ he => absurd h he

lemma sound_withVerdict (kcache : KCache) (job : KGymJob) (verdict : EvaluationResult)
    (crashReport : Option String) : Sound (withVerdict kcache job verdict crashReport) := by
  intro hstatus _
  cases hstorage : builtKCache job with
  | none => simp [withVerdict,hstorage] at hstatus
  | some storage => simp [withVerdict,hstorage]

/-- A submission has no job yet, has one, has inserted its row or has it on record; a poll has no
finished job yet, has one, or has written its verdict. -/
inductive Stage
  | idle
  | holding (jobId : JobId)
  | inserted (jobId : JobId)
  | recorded (jobId : JobId)
  | fetched
  | written
  deriving DecidableEq

/-- The job that a submission was given. -/
def Stage.job : Stage → Option JobId
  | .holding jobId => some jobId
  | .inserted jobId => some jobId
  | .recorded jobId => some jobId
  | _ => none

/-- Where a task ends early. -/
def Stage.settled : Stage → Stage
  | .holding jobId => .recorded jobId
  | .inserted jobId => .recorded jobId
  | stage => stage

/-- No job was given, or it is on record. -/
def Stage.Settled (stage : Stage) : Prop := ∀ jobId, stage.job = some jobId → stage = .recorded jobId

@[simp] theorem Stage.job_settled (stage : Stage) : stage.settled.job = stage.job := by
  cases stage <;> rfl

lemma Stage.settled_of_settled (stage : Stage) : stage.settled.Settled := by
  intro jobId hjob
  cases stage <;> simp [Stage.settled,Stage.job] at hjob ⊢ <;> exact hjob

lemma Stage.settled_of_job_none {stage : Stage} (h : stage.job = none) : stage.Settled := by
  intro jobId hjob
  rw [h] at hjob
  cases hjob

structure Phase where
  item : Item
  stage : Stage

/-- A submission with a job asks for nothing but the time, the insertion of the job's row and its
commit; a poll reads and writes the row of its item only, and writes once a finished job is
fetched. -/
def allowed (t : Phase) : Request → Prop
  | .createJob _ => (∃ submission, t.item = .submission submission) ∧ t.stage = .idle
  | .now => t.stage = .idle ∨ ∃ jobId, t.stage = .holding jobId
  | .insertKcache kcache => t.item.bugId = some kcache.bugId ∧ kcache.kGymEvaluation = none ∧
      (t.stage = .idle ∨ ∃ jobId, t.stage = .holding jobId ∧ kcache.kGymJobId = JobId.str jobId)
  | .commit => t.stage = .idle ∨ (∃ jobId, t.stage = .inserted jobId) ∨ t.stage = .written
  | .getKcacheById id => t.item = .row id ∧ t.stage = .idle
  | .getJob _ => t.stage = .idle
  | .downloadReport _ => t.stage = .fetched
  | .updateKcachePollResult kcache =>
    t.item = .row kcache.kCacheId ∧ t.stage = .fetched ∧ Sound kcache

/-- The stage after a request that was not refused. -/
def nextStage (stage : Stage) : (r : Request) → r.Answer → Stage
  | .createJob _,jobId => .holding jobId
  | .insertKcache _,_ =>
    match stage with
    | .holding jobId => .inserted jobId
    | _ => stage
  | .commit,_ =>
    match stage with
    | .inserted jobId => .recorded jobId
    | _ => stage
  | .getJob _,job => if (doneJob job).isSome then .fetched else stage
  | .updateKcachePollResult _,_ => .written
  | _,_ => stage

/-- A row is found under its own key. -/
def Fits : (r : Request) → r.Answer → Prop
  | .getKcacheById id,row => ∀ kcache ∈ row, kcache.kCacheId = id
  | _,_ => True

/-- A submission with a job gets an exception only once the job is on record. -/
def leads (t : Phase) (r : Request) : Except Raised r.Answer → Phase → Prop
  | .ok a,t' => Fits r a ∧ t' = { t with stage := nextStage t.stage r a }
  | .error _,t' => t' = { t with stage := t.stage.settled }

def protocol : Protocol Request Request.Answer Raised Phase := ⟨allowed,leads⟩

/-- No submission ends with a job off the record, and no poll fails. -/
structure Ends (t : Phase) (x : Except Raised Unit) : Prop where
  settled : t.stage.Settled
  polled : (∃ id, t.item = .row id) → x = .ok ()

def firstPhase (_ : Args) (i : Item) : Phase := ⟨i,.idle⟩

section Works
variable {α : Type} {i : Item} {t : Phase} {stage : Stage}

lemma ask_follows {r : Request} {Q : Phase → Except Raised r.Answer → Prop}
    (hallowed : allowed ⟨i,stage⟩ r) (hok : ∀ a, Fits r a → Q ⟨i,nextStage stage r a⟩ (.ok a))
    (herror : ∀ e, Q ⟨i,stage.settled⟩ (.error e)) : (ask r).Follows protocol Q ⟨i,stage⟩ := by
  refine Coroutine.follows_request.mpr ⟨hallowed,?_⟩
  intro x t' hx
  cases x with
  | ok a =>
    obtain ⟨hfits,rfl⟩ := hx
    exact hok a hfits
  | error e =>
    cases hx
    exact herror e

lemma orRaise_follows {message : String} {row : Option α} {Q : Phase → Except Raised α → Prop}
    (hok : ∀ a, row = some a → Q t (.ok a)) (herror : ∀ e, Q t (.error e)) :
    (orRaise message row : Work α).Follows protocol Q t := by
  cases row with
  | none => exact herror _
  | some a => exact hok a rfl

lemma ofExcept_follows {x : Except Raised α} {Q : Phase → Except Raised α → Prop}
    (h : ∀ x, Q t x) : (Coroutine.ofExcept x : Work α).Follows protocol Q t := by
  cases x <;> exact h _

/-! ## Polls -/

/-- Whatever a poll raises is caught. -/
lemma handled_row {id : ℕ} (hjob : stage.job = none) (x : Except Raised Unit) :
    Coroutine.Handled protocol Ends (fun _ => pure ()) ⟨.row id,stage⟩ x := by
  cases x with
  | ok a => exact ⟨Stage.settled_of_job_none hjob,fun _ => rfl⟩
  | error e => exact ⟨Stage.settled_of_job_none hjob,fun _ => rfl⟩

lemma getKcacheById_follows {id : ℕ} {Q : Phase → Except Raised KCache → Prop}
    (hok : ∀ kcache, kcache.kCacheId = id → Q ⟨.row id,.idle⟩ (.ok kcache))
    (herror : ∀ e, Q ⟨.row id,.idle⟩ (.error e)) :
    (getKcacheById id).Follows protocol Q ⟨.row id,.idle⟩ := by
  refine Coroutine.follows_bind.mpr (ask_follows ⟨rfl,rfl⟩ (fun row hid => ?_) herror)
  exact orRaise_follows (fun kcache hrow => hok kcache (hid kcache hrow)) herror

lemma downloadReport_follows {verdict : EvaluationResult}
    {Q : Phase → Except Raised (Option String) → Prop}
    (hok : ∀ report, Q ⟨i,.fetched⟩ (.ok report)) :
    (downloadReport verdict).Follows protocol Q ⟨i,.fetched⟩ := by
  unfold downloadReport
  cases reportOf verdict with
  | none => exact hok none
  | some report =>
    exact Coroutine.follows_tryCatch.mpr (Coroutine.follows_bind.mpr
      (ask_follows rfl (fun text _ => hok (some text)) fun e => hok none))

lemma updateKcachePollResult_follows {kcache : KCache} (hsound : Sound kcache) :
    (updateKcachePollResult kcache).Follows protocol
      (Coroutine.Handled protocol Ends fun _ => pure ()) ⟨.row kcache.kCacheId,.fetched⟩ :=
  Coroutine.follows_bind.mpr (ask_follows ⟨rfl,rfl,hsound⟩
    (fun _ _ => ask_follows (.inr (.inr rfl)) (fun a _ => handled_row rfl (.ok a))
      fun e => handled_row rfl (.error e)) fun e => handled_row rfl (.error e))

lemma pollOne_follows (id : ℕ) : (pollOne id).Follows protocol Ends ⟨.row id,.idle⟩ := by
  refine Coroutine.follows_tryCatch.mpr (Coroutine.follows_bind.mpr (getKcacheById_follows ?_
    fun e => handled_row rfl (.error e)))
  intro kcache hid
  rw [Coroutine.after_ok]
  split
  · exact handled_row rfl (.ok ())
  · refine Coroutine.follows_bind.mpr (ofExcept_follows fun x => ?_)
    cases x with
    | error e => exact handled_row rfl (.error e)
    | ok jobId =>
      refine Coroutine.follows_bind.mpr
        (ask_follows rfl (fun job _ => ?_) fun e => handled_row rfl (.error e))
      rw [Coroutine.after_ok]
      cases hdone : doneJob job with
      | none => exact handled_row (by simp [nextStage,hdone,Stage.job]) (.ok ())
      | some done =>
        simp only [nextStage,hdone,Option.isSome_some,if_true]
        refine Coroutine.follows_bind.mpr (ofExcept_follows fun x => ?_)
        cases x with
        | error e => exact handled_row rfl (.error e)
        | ok verdict =>
          refine Coroutine.follows_bind.mpr (downloadReport_follows fun report => ?_)
          subst hid
          exact updateKcachePollResult_follows (sound_withVerdict kcache done verdict report)

/-! ## Submissions -/

lemma ends_submission {submission : Submission} (h : stage.Settled) (x : Except Raised Unit) :
    Ends ⟨.submission submission,stage⟩ x := by
  refine ⟨h,?_⟩
  intro ⟨id,hid⟩
  cases hid

/-- The row of a submission is inserted and committed, with its job where it has one. -/
lemma record_follows {bugId : String} {request : Except Raised KJobRequest} {kGymJobId : String}
    (hstage : stage = .idle ∨ ∃ jobId, stage = .holding jobId ∧ kGymJobId = JobId.str jobId)
    (baseCommit : BaseCommit) (status : EntryStatus) (message : String) :
    (do let addedTime ← ask .now
        let _ ← insertKcache (newKcache bugId baseCommit addedTime kGymJobId status message)
        : Work Unit).Follows protocol Ends ⟨.submission ⟨bugId,request⟩,stage⟩ := by
  have hsettled : ∀ (stage : Stage) (x : Except Raised Unit),
      Ends ⟨.submission ⟨bugId,request⟩,stage.settled⟩ x :=
    fun stage x => ends_submission stage.settled_of_settled x
  have hnow : stage = .idle ∨ ∃ jobId, stage = .holding jobId :=
    hstage.imp_right fun ⟨jobId,hstage,_⟩ => ⟨jobId,hstage⟩
  refine Coroutine.follows_bind.mpr (ask_follows hnow (fun addedTime _ => ?_)
    fun e => hsettled stage (.error e))
  refine Coroutine.follows_bind.mpr (Coroutine.follows_bind.mpr
    (ask_follows ⟨rfl,rfl,hstage⟩ (fun rowid _ => ?_) fun e => hsettled stage (.error e)))
  -- the stage is idle or holds a job, so that the commit finds it idle or with the job's row
  obtain rfl | ⟨jobId,rfl⟩ := hnow
  · exact Coroutine.follows_bind.mpr (ask_follows (.inl rfl)
      (fun a _ => ends_submission (Stage.settled_of_job_none rfl) (.ok ()))
      fun e => hsettled _ (.error e))
  · exact Coroutine.follows_bind.mpr (ask_follows (.inr (.inl ⟨jobId,rfl⟩))
      (fun a _ => hsettled (.inserted jobId) (.ok ())) fun e => hsettled _ (.error e))

lemma submitSingle_follows (baseCommit : BaseCommit) (submission : Submission) :
    (submitSingle baseCommit submission).Follows protocol Ends ⟨.submission submission,.idle⟩ := by
  refine Coroutine.follows_bind.mpr (Coroutine.follows_tryCatch.mpr
    (Coroutine.follows_bind.mpr (Coroutine.follows_bind.mpr ?_)))
  cases hrequest : submission.request with
  | error e => exact record_follows (.inl rfl) _ _ _
  | ok request =>
    refine ask_follows ⟨⟨_,rfl⟩,rfl⟩ (fun jobId _ => ?_) fun e => ?_
    · exact record_follows (.inr ⟨jobId,rfl,rfl⟩) _ _ _
    · exact record_follows (.inl rfl) _ _ _

theorem work_follows (args : Args) (i : Item) :
    (work args i).Follows protocol Ends (firstPhase args i) := by
  cases i with
  | row id => exact pollOne_follows id
  | submission submission =>
    unfold work
    cases args.kind with
    | poll => exact ends_submission (Stage.settled_of_job_none rfl) _
    | submit submitArgs => exact submitSingle_follows _ _

end Works
end Kcache
end LiveKBench.KArenaPipeline
