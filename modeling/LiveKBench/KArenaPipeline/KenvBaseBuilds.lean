import LiveKBench.KArenaDb.KEnvBase
import LiveKBench.Lib.SharedDatabase
import LiveKBench.Lib.TaskPool

/-! The runs of `populate_kenv_base_builds`: each one lists the images that need work and drives
them one by one, from the claim over the builder to the state that is written back. -/
namespace LiveKBench.KArenaPipeline
open KArenaWeb (DateTime)
open KArenaDb KArenaDb.KEnvBase
open Lib

/-- What a run asks of the builder. -/
inductive BuilderCall
  | build (row : KEnvBaseImage)
  | push (row : KEnvBaseImage)
  | removeLocal (imageNames : List String)

/-- What the builder raises: its own error, or an exception of any other class. -/
inductive BuildError
  | kenvBaseBuildError (message : String)
  | exception (typeName message : String)

/-- The systemMessage of a failed build. -/
def BuildError.text : BuildError → String
  | .kenvBaseBuildError message => message
  | .exception typeName message => s!"unexpected: {typeName}: {message}"

namespace Kenv

/-- `push=None` leaves the decision to the prefix of the registry. -/
structure Args where
  connection : ℕ
  push : Option Bool
  dockerPrefix : String
  maxConcurrent : ℕ

def Args.shouldPush (args : Args) : Bool := args.push.getD (args.dockerPrefix ≠ "")

/-- A call of the builder is made in one step and comes back in another. -/
inductive Request
  | claim (kEnvImageId : ℕ)
  | setState (kEnvImageId : ℕ) (new : NewState)
  | commit
  | getById (kEnvImageId : ℕ)
  | now
  | invoke (call : BuilderCall)
  | wait (call : BuilderCall)

abbrev Request.Answer : Request → Type
  | .claim _ => ℕ
  | .setState _ _ => Unit
  | .commit => Unit
  | .getById _ => Option KEnvBaseImage
  | .now => DateTime
  | .invoke _ => Unit
  | .wait _ => Unit

abbrev Driver (α : Type) := Coroutine Request Request.Answer BuildError α

def ask (r : Request) : Driver r.Answer := Coroutine.request r

def claimKenvBaseBuild (kEnvImageId : ℕ) : Driver Bool := do
  let rowcount ← ask (.claim kEnvImageId)
  ask .commit
  return decide (rowcount > 0)

def getKenvBaseById (kEnvImageId : ℕ) : Driver KEnvBaseImage := do
  match ← ask (.getById kEnvImageId) with
  | some row => return row
  | none => throw (.exception "ValueError" s!"kenv_base_image not found: {kEnvImageId}")

def setKenvBaseState (kEnvImageId : ℕ) (new : NewState) : Driver Unit := do
  ask (.setState kEnvImageId new)
  ask .commit

/-- `message or default`. -/
def orDefault (message default : String) : String := if message = "" then default else message

def markKenvBaseBuilt (kEnvImageId : ℕ) (pushed : Bool) (message : String) : Driver Unit := do
  let now ← ask .now
  if pushed then
    setKenvBaseState kEnvImageId ⟨.pushed,orDefault message "built and pushed",some now,some now⟩
  else
    setKenvBaseState kEnvImageId ⟨.built,orDefault message "built (not pushed)",some now,none⟩

def markKenvBaseError (kEnvImageId : ℕ) (message : String) : Driver Unit :=
  setKenvBaseState kEnvImageId ⟨.error,message,none,none⟩

def await (call : BuilderCall) : Driver Unit := do
  ask (.invoke call)
  ask (.wait call)

def driveOne (shouldPush : Bool) (kEnvImageId : ℕ) : Driver Unit := do
  if ← claimKenvBaseBuild kEnvImageId then
    let row ← getKenvBaseById kEnvImageId
    try
      await (.build row)
      if shouldPush then
        await (.push row)
        await (.removeLocal [row.localImageName,row.remoteImageName])
      markKenvBaseBuilt kEnvImageId shouldPush
        (if shouldPush then "built and pushed" else "built (local only)")
    catch e => markKenvBaseError kEnvImageId e.text

/-- `get_docker_base_commit`. -/
def getDockerBaseCommit : BaseCommit → String
  | .parentCommit => "parent-commit"
  | .crashCommit => "crash-commit"

/-- What `submit_kenv_base_builds` found out about a bug. -/
structure Submission where
  bugId : String
  baseCommit : BaseCommit
  addedTime : DateTime
  commitId : String
  gitUrl : String
  mirrorPath : String
  dockerPrefix : String

def Submission.row (sub : Submission) : KEnvBaseImage :=
  let name := s!"kenv-base-{sub.bugId}-{getDockerBaseCommit sub.baseCommit}:latest"
  { kEnvImageId := 0
    bugId := sub.bugId
    baseCommit := sub.baseCommit
    addedTime := sub.addedTime
    commitId := sub.commitId
    gitUrl := sub.gitUrl
    mirrorPath := sub.mirrorPath
    localImageName := name
    remoteImageName := s!"{sub.dockerPrefix}/{name}"
    status := .pending
    systemMessage := "Submitted"
    builtTime := none
    pushedTime := none }

/-- The database and what was asked of the builder, the last call first. -/
structure State where
  db : Shared KEnvBaseTable
  asked : List BuilderCall

/-- What comes from outside: that the database or the builder goes on, a reading of the clock, an
exception of the builder. -/
inductive Input
  | go
  | time (now : DateTime)
  | raises (e : BuildError)

/-- The database raises nothing here. -/
def exec (args : Args) (r : Request) (s : State) (input : Input) :
    Option (State × Except BuildError r.Answer) :=
  match r,input with
  | .claim kEnvImageId,.go =>
    (s.db.execute args.connection (claim kEnvImageId)).map fun (db,n) => ({ s with db := db },.ok n)
  | .setState kEnvImageId new,.go =>
    (s.db.execute args.connection fun t => (setState kEnvImageId new t,())).map fun (db,a) =>
      ({ s with db := db },.ok a)
  | .commit,.go => some ({ s with db := s.db.commit args.connection },.ok ())
  | .getById kEnvImageId,.go => some (s,.ok ((s.db.view args.connection).get? kEnvImageId))
  | .now,.time now => some (s,.ok now)
  | .invoke call,.go => some ({ s with asked := call :: s.asked },.ok ())
  | .wait _,.go => some (s,.ok ())
  | .wait _,.raises e => some (s,.error e)
  | _,_ => none

/-- What else happens to the table: `submit_kenv_base_builds` inserts a row, and somebody commits
on a connection. -/
inductive Other
  | insert (connection : ℕ) (sub : Submission)
  | commit (connection : ℕ)

def happen (e : Other) (s : State) : Option State :=
  match e with
  | .insert connection sub =>
    (s.db.execute connection fun t => ((insertKenvBase sub.row t).getD t,())).map fun (db,_) =>
      { s with db := db }
  | .commit connection => some { s with db := s.db.commit connection }

def populateKenvBaseBuilds :
    Pipeline State Args ℕ Request Request.Answer BuildError Input Other where
  select args s := getPendingKenvBaseBuilds (s.db.view args.connection)
  body args := driveOne args.shouldPush
  limit args := some args.maxConcurrent
  cancels _ := true
  exec args _ := exec args
  other := happen

/-! ## How far a driver has come -/

inductive Stage
  | waiting
  | claimed
  | building
  | over
  deriving DecidableEq

structure Phase where
  kEnvImageId : ℕ
  stage : Stage

/-- What a driver writes at the end: the times that belong to the status. -/
inductive Final : NewState → Prop
  | pushed {message built pushed} : Final ⟨.pushed,message,some built,some pushed⟩
  | built {message built} : Final ⟨.built,message,some built,none⟩
  | error {message} : Final ⟨.error,message,none,none⟩

def BuilderCall.isBuild : BuilderCall → Bool
  | .build _ => true
  | _ => false

/-- What a driver may ask for: one claim, then one build of the row it won, then one final state. -/
def allowed (t : Phase) : Request → Prop
  | .claim kEnvImageId => t.stage = .waiting ∧ kEnvImageId = t.kEnvImageId
  | .setState kEnvImageId new =>
    t.stage = .building ∧ kEnvImageId = t.kEnvImageId ∧ Final new
  | .commit => t.stage = .claimed ∨ t.stage = .over
  | .getById kEnvImageId => t.stage = .claimed ∧ kEnvImageId = t.kEnvImageId
  | .now => t.stage = .building
  | .invoke (.build row) => t.stage = .claimed ∧ row.kEnvImageId = t.kEnvImageId
  | .invoke _ => t.stage = .building
  | .wait _ => t.stage = .building

def leads (t : Phase) : (r : Request) → Except BuildError r.Answer → Phase → Prop
  | .claim _,.ok n,t' => t' = { t with stage := if 0 < n then .claimed else .over }
  | .setState _ _,.ok _,t' => t' = { t with stage := .over }
  | .getById _,.ok row,t' => (∃ r, row = some r ∧ r.kEnvImageId = t.kEnvImageId) ∧ t' = t
  | .invoke _,.ok _,t' => t' = { t with stage := .building }
  | .commit,.ok _,t' => t' = t
  | .now,.ok _,t' => t' = t
  | .wait _,_,t' => t' = t
  | _,.error _,_ => False

def protocol : Protocol Request Request.Answer BuildError Phase := ⟨allowed,leads⟩

/-- A driver ends with nothing left to do, and raises nothing. -/
def Finished (t : Phase) (x : Except BuildError Unit) : Prop := t.stage = .over ∧ x = .ok ()

section Driver
variable {kEnvImageId : ℕ} {t : Phase} {α : Type}

/-- A request that raises nothing here. -/
lemma ask_follows {r : Request} {Q : Phase → Except BuildError r.Answer → Prop}
    (hr : ∀ e t', ¬leads t r (.error e) t') (hallowed : allowed t r)
    (hQ : ∀ a t', leads t r (.ok a) t' → Q t' (.ok a)) : (ask r).Follows protocol Q t := by
  refine Coroutine.follows_request.mpr ⟨hallowed,fun x t' hl => ?_⟩
  cases x with
  | error e => exact absurd hl (hr e t')
  | ok a => exact hQ a t' hl

lemma claimKenvBaseBuild_follows {Q : Phase → Except BuildError Bool → Prop}
    (hwon : Q ⟨kEnvImageId,.claimed⟩ (.ok true)) (hlost : Q ⟨kEnvImageId,.over⟩ (.ok false)) :
    (claimKenvBaseBuild kEnvImageId).Follows protocol Q ⟨kEnvImageId,.waiting⟩ := by
  refine Coroutine.follows_bind.mpr (ask_follows (fun _ _ h => h) ⟨rfl,rfl⟩ ?_)
  rintro n t' rfl
  by_cases hn : 0 < n
  · simp only [hn,if_true]
    refine Coroutine.follows_bind.mpr (ask_follows (fun _ _ h => h) (.inl rfl) ?_)
    rintro a t' rfl
    simpa [Coroutine.After,hn] using hwon
  · simp only [hn,if_false]
    refine Coroutine.follows_bind.mpr (ask_follows (fun _ _ h => h) (.inr rfl) ?_)
    rintro a t' rfl
    simpa [Coroutine.After,hn] using hlost

lemma getKenvBaseById_follows {Q : Phase → Except BuildError KEnvBaseImage → Prop}
    (hQ : ∀ row : KEnvBaseImage, row.kEnvImageId = kEnvImageId →
      Q ⟨kEnvImageId,.claimed⟩ (.ok row)) :
    (getKenvBaseById kEnvImageId).Follows protocol Q ⟨kEnvImageId,.claimed⟩ := by
  refine Coroutine.follows_bind.mpr (ask_follows (fun _ _ h => h) ⟨rfl,rfl⟩ ?_)
  rintro row? t' ⟨⟨row,rfl,hid⟩,rfl⟩
  exact hQ row hid

/-- The builder may raise or not, and the driver still holds its row. -/
lemma await_follows {Q : Phase → Except BuildError Unit → Prop} (call : BuilderCall)
    (hallowed : allowed t (.invoke call)) (hQ : ∀ x, Q { t with stage := .building } x) :
    (await call).Follows protocol Q t := by
  refine Coroutine.follows_bind.mpr (ask_follows (fun _ _ h => h) hallowed ?_)
  rintro a t' rfl
  refine Coroutine.follows_request.mpr ⟨rfl,?_⟩
  rintro x t' rfl
  exact hQ x

lemma setKenvBaseState_follows {Q : Phase → Except BuildError Unit → Prop} {new : NewState}
    (hnew : Final new) (hQ : Q ⟨kEnvImageId,.over⟩ (.ok ())) :
    (setKenvBaseState kEnvImageId new).Follows protocol Q ⟨kEnvImageId,.building⟩ := by
  refine Coroutine.follows_bind.mpr (ask_follows (fun _ _ h => h) ⟨rfl,rfl,hnew⟩ ?_)
  rintro a t' rfl
  refine ask_follows (fun _ _ h => h) (.inr rfl) ?_
  rintro a t' rfl
  exact hQ

lemma markKenvBaseBuilt_follows {Q : Phase → Except BuildError Unit → Prop} {pushed : Bool}
    {message : String} (hQ : Q ⟨kEnvImageId,.over⟩ (.ok ())) :
    (markKenvBaseBuilt kEnvImageId pushed message).Follows protocol Q
      ⟨kEnvImageId,.building⟩ := by
  refine Coroutine.follows_bind.mpr (ask_follows (fun _ _ h => h) rfl ?_)
  rintro now t' rfl
  cases pushed with
  | true => exact setKenvBaseState_follows .pushed hQ
  | false => exact setKenvBaseState_follows .built hQ

/-- A driver claims its row at most once, and what it won it builds once and brings to an end. -/
theorem driveOne_follows (shouldPush : Bool) :
    (driveOne shouldPush kEnvImageId).Follows protocol Finished ⟨kEnvImageId,.waiting⟩ := by
  refine Coroutine.follows_bind.mpr (claimKenvBaseBuild_follows ?_ ⟨rfl,rfl⟩)
  refine Coroutine.follows_bind.mpr (getKenvBaseById_follows ?_)
  intro row hid
  have herror : ∀ e : BuildError, (markKenvBaseError kEnvImageId e.text).Follows protocol Finished
      ⟨kEnvImageId,.building⟩ := fun e => setKenvBaseState_follows .error ⟨rfl,rfl⟩
  refine Coroutine.follows_tryCatch.mpr (Coroutine.follows_bind.mpr
    (await_follows (t := ⟨kEnvImageId,.claimed⟩) _ ⟨rfl,hid⟩ ?_))
  rintro (e | a)
  · exact herror e
  · cases shouldPush with
    | false => exact markKenvBaseBuilt_follows ⟨rfl,rfl⟩
    | true =>
      refine Coroutine.follows_bind.mpr (await_follows (.push row) rfl ?_)
      rintro (e | a)
      · exact herror e
      · refine Coroutine.follows_bind.mpr (await_follows (.removeLocal _) rfl ?_)
        rintro (e | a)
        · exact herror e
        · exact markKenvBaseBuilt_follows ⟨rfl,rfl⟩

end Driver

end Kenv
end LiveKBench.KArenaPipeline
