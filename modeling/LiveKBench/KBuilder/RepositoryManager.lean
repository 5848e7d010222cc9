import LiveKBench.KBuilder.BuildTask
import LiveKBench.KClient.Agentic
import LiveKBench.Lib.OrderedMap

/-! `RepositoryManager`: bare clones of the repositories that jobs ask for, in one directory, where
`repo.json` lists them. Several builders may use the directory and nothing locks it; a builder runs
one task at a time, and it can be killed at every await. A `git clone` or an `rmtree` whose await is
cancelled goes on by itself. -/
namespace LiveKBench.KBuilder.Repositories
open KClient (osPathJoin)
open Lib

/-- The names of the clones by the URLs of their repositories. -/
abbrev Repos := OrderedMap String String

/-- `repo.json`. It is empty from the moment it is opened for writing until it is written. -/
inductive Listing
  | absent
  | empty
  | written (repos : Repos)

/-- The directory of a clone: also one that is being made or removed is there. -/
inductive Clone
  | unfinished
  | complete (gitUrl : String)
  deriving DecidableEq

/-! ## The manager of a task -/

/-- Long operations have a request at each end. -/
inductive Request
  | begin
  | listingExists
  | readListing
  | truncateListing
  | writeListing (repos : Repos)
  | reportJobLog (message : String)
  | cloneExists (localName : String)
  | rmtree (localName : String)
  | rmtreeEnd (localName : String)
  | clone (gitUrl localName : String)
  | cloneEnd (gitUrl localName : String)
  | fetch (localName : String)
  | lastUpdated (localName : String)
  | now
  | setLastUpdated (localName : String) (now : ℤ)
  | obtained (gitUrl path : String)
  | finish

abbrev Request.Answer : Request → Type
  | .listingExists => Bool
  | .readListing => Repos
  | .cloneExists _ => Bool
  | .cloneEnd _ _ => Bool
  | .fetch _ => Bool
  | .lastUpdated _ => ℤ
  | .now => ℤ
  | _ => Unit

abbrev Work (α : Type) := Coroutine Request Request.Answer TaskError α

def ask (r : Request) : Work r.Answer := Coroutine.request r

/-- An empty text has no last character. -/
def canonicalizeGitUrl (gitUrl : String) : Except TaskError String :=
  match gitUrl.toList.getLast? with
  | none => .error (pyError "builtins.IndexError")
  | some c => .ok (if c = '/' then String.ofList gitUrl.toList.dropLast else gitUrl)

def saveLocalRepositoryList (repos : Repos) : Work Unit := do
  ask .truncateListing
  ask (.writeListing repos)

def loadLocalRepositoryList : Work Repos := do
  if !(← ask .listingExists) then do
    saveLocalRepositoryList .empty
    return .empty
  else ask .readListing

/-- The list is the one that the manager has loaded. -/
def updateLocalRepositoryList (repos : Repos) (gitUrl localName : String) : Work Unit :=
  saveLocalRepositoryList (repos.set gitUrl localName)

/-- The rest of an unfinished clone is removed. -/
def removeClone (localName : String) : Work Unit := do
  if ← ask (.cloneExists localName) then do
    ask (.rmtree localName)
    ask (.rmtreeEnd localName)
  else pure ()

def updateLocalRepository (localName : String) : Work Unit := do
  if !(← ask (.fetch localName)) then
    throw (jobError "kbuilder.RepositoryManagerError"
      s!"Failed to update cached repository \"{localName}\"")
  else pure ()

/-- `interval.days >= 1`, in microseconds. -/
def dayOld (now updated : ℤ) : Bool := 1 ≤ (now - updated) / 86400000000

/-- A clone is brought up to date once a day by each process. -/
def refresh (localName : String) : Work Unit := do
  let updated ← ask (.lastUpdated localName)
  let now ← ask .now
  if dayOld now updated then do
    ask (.reportJobLog s!"Updating cached repository \"{localName}\"")
    updateLocalRepository localName
    ask (.setLastUpdated localName (← ask .now))
  else pure ()

section Manager
variable (digest : String → String) (repoDir : String)

/-- `digest` is the MD5 of a text. -/
def cloneBareRepository (repos : Repos) (gitUrl : String) : Work String := do
  let localName := digest gitUrl
  ask (.reportJobLog s!"Cloning bare repository \"{gitUrl}\" to \"{localName}\"")
  removeClone localName
  ask (.clone gitUrl localName)
  if !(← ask (.cloneEnd gitUrl localName)) then
    throw (jobError "kbuilder.GitError" s!"Failed to clone base repository \"{gitUrl}\"")
  else do
    updateLocalRepositoryList repos gitUrl localName
    return localName

/-- The clone that the list names, or a new one. -/
def cachedRepository (repos : Repos) (gitUrl : String) : Work String :=
  match repos.value? gitUrl with
  | none => cloneBareRepository digest repos gitUrl
  | some localName => do
    refresh localName
    return localName

def getRepository (gitUrl : String) : Work String := do
  let gitUrl ← Coroutine.ofExcept (canonicalizeGitUrl gitUrl)
  let repos ← loadLocalRepositoryList
  let localName ← cachedRepository digest repos gitUrl
  ask (.reportJobLog s!"Use cached bare repository \"{localName}\"")
  return osPathJoin repoDir localName

/-- A task of a builder; what it has obtained is noted. -/
def getAndNote (gitUrl : String) : Work Unit := do
  let path ← getRepository digest repoDir gitUrl
  ask (.obtained gitUrl path)

def work (gitUrl : String) : Work Unit := do
  ask .begin
  tryCatch (getAndNote digest repoDir gitUrl) fun _ => pure ()
  ask .finish

end Manager

/-! ## Builders on one directory -/

/-- What git or a thread does for a task. -/
inductive Operation
  | clone (gitUrl localName : String)
  | rmtree (localName : String)

def Operation.localName : Operation → String
  | .clone _ localName => localName
  | .rmtree localName => localName

/-- `running` is the task that a process runs and `doing` what it awaits; `orphans` are at work, and
nothing awaits them. Nothing reads what was `obtained`. -/
structure State where
  listing : Listing
  clones : String → Option Clone
  lastUpdated : ℕ → String → Option ℤ
  running : ℕ → Option ℕ
  obtained : List (String × String)
  doing : ℕ → Option Operation
  orphans : List Operation

/-- A job, with the process of the builder that takes it. -/
structure Job where
  process : ℕ
  gitUrl : String

/-- A clone that fails is removed by git itself, where git is not killed. -/
inductive Input
  | go
  | time (now : ℤ)
  | code (succeeded : Bool)
  | cleaned
  | raises (e : TaskError)

def State.setClone (s : State) (localName : String) (clone : Option Clone) : State :=
  { s with clones := Function.update s.clones localName clone }

def State.setRunning (s : State) (process : ℕ) (k : Option ℕ) : State :=
  { s with running := Function.update s.running process k }

def State.setDoing (s : State) (process : ℕ) (o : Option Operation) : State :=
  { s with doing := Function.update s.doing process o }

/-- `git clone` refuses a directory that is there. -/
def State.startClone (s : State) (process : ℕ) (gitUrl localName : String) : State :=
  match s.clones localName with
  | none =>
    (s.setClone localName (some .unfinished)).setDoing process (some (.clone gitUrl localName))
  | some _ => s

/-- An exception ends the task, and not what it awaited. -/
def State.abandon (s : State) (process : ℕ) : State :=
  { s.setDoing process none with orphans := (s.doing process).toList ++ s.orphans }

def Listing.read : Listing → Except TaskError Repos
  | .absent => .error (pyError "builtins.FileNotFoundError")
  | .empty => .error (pyError "json.decoder.JSONDecodeError")
  | .written repos => .ok repos

def Listing.exists : Listing → Bool
  | .absent => false
  | _ => true

/-- What becomes of a request of the task that the process runs. -/
def answer (process : ℕ) (r : Request) (s : State) (input : Input) :
    Option (State × Except TaskError r.Answer) :=
  match r,input with
  | .begin,_ => none
  | .finish,.go => some (s.setRunning process none,.ok ())
  | _,.raises e => some (s.abandon process,.error e)
  | .listingExists,.go => some (s,.ok s.listing.exists)
  | .readListing,.go => some (s,s.listing.read)
  | .truncateListing,.go => some ({ s with listing := .empty },.ok ())
  | .writeListing repos,.go => some ({ s with listing := .written repos },.ok ())
  | .reportJobLog _,.go => some (s,.ok ())
  | .cloneExists localName,.go => some (s,.ok (s.clones localName).isSome)
  | .rmtree localName,.go =>
    some ((s.setClone localName (some .unfinished)).setDoing process (some (.rmtree localName)),
      .ok ())
  | .rmtreeEnd localName,.go => some ((s.setClone localName none).setDoing process none,.ok ())
  | .clone gitUrl localName,.go => some (s.startClone process gitUrl localName,.ok ())
  | .cloneEnd gitUrl localName,.code true =>
    if (s.doing process).isSome ∧ s.clones localName = some .unfinished then
      some ((s.setClone localName (some (.complete gitUrl))).setDoing process none,.ok true)
    else none
  | .cloneEnd _ _,.code false => some (s.setDoing process none,.ok false)
  | .cloneEnd _ localName,.cleaned =>
    if (s.doing process).isSome then
      some ((s.setClone localName none).setDoing process none,.ok false)
    else none
  | .fetch _,.code succeeded => some (s,.ok succeeded)
  | .lastUpdated localName,.go => some (s,.ok ((s.lastUpdated process localName).getD 0))
  | .now,.time now => some (s,.ok now)
  | .setLastUpdated localName now,.go =>
    let updated := Function.update (s.lastUpdated process) localName (some now)
    some ({ s with lastUpdated := Function.update s.lastUpdated process updated },.ok ())
  | .obtained gitUrl path,.go => some ({ s with obtained := (gitUrl,path) :: s.obtained },.ok ())
  | _,_ => none

/-- A process takes a task when it has none, and a task that it does not run does not go on. -/
def exec (process k : ℕ) (r : Request) (s : State) (input : Input) :
    Option (State × Except TaskError r.Answer) :=
  match r with
  | .begin => if s.running process = none then some (s.setRunning process (some k),.ok ()) else none
  | r => if s.running process = some k then answer process r s input else none

def Operation.isClone : Operation → Bool
  | .clone _ _ => true
  | .rmtree _ => false

/-- A process is killed, with its threads, but not its git; the next process of its number knows of
no update. -/
def crash (process : ℕ) (s : State) : State :=
  { (s.setRunning process none).setDoing process none with
    lastUpdated := Function.update s.lastUpdated process fun _ => none
    orphans := (s.doing process).toList.filter Operation.isClone ++ s.orphans }

/-- How an orphan goes on. -/
inductive Progress
  | goesOn
  | succeeds
  | fails
  | stops
  deriving DecidableEq

/-- What it makes of its directory: git removes it where a clone fails, whatever is there by then. -/
def Operation.leaves (progress : Progress) (clone : Option Clone) : Operation → Option Clone
  | .clone gitUrl _ =>
    match progress with
    | .succeeds => if clone = some .unfinished then some (.complete gitUrl) else clone
    | .fails => none
    | _ => clone
  | .rmtree _ =>
    match progress with
    | .goesOn => clone.map fun _ => .unfinished
    | .succeeds => none
    | _ => clone

def State.goOn (s : State) (n : ℕ) (progress : Progress) (o : Operation) : State :=
  { s.setClone o.localName (o.leaves progress (s.clones o.localName)) with
    orphans := if progress = .goesOn then s.orphans else s.orphans.eraseIdx n }

inductive Outside
  | crash (process : ℕ)
  | orphan (n : ℕ) (progress : Progress)

def happen (e : Outside) (s : State) : Option State :=
  match e with
  | .crash process => some (crash process s)
  | .orphan n progress => s.orphans[n]?.map (s.goOn n progress)

def builders (digest : String → String) (repoDir : String) :
    Pipeline State Job Unit Request Request.Answer TaskError Input Outside where
  select _ _ := [()]
  body job _ := work digest repoDir job.gitUrl
  limit _ := none
  cancels _ := false
  exec job t := exec job.process t.1
  other := happen

/-- Nothing is listed, whatever is left in the directory. -/
def Initial (s : State) : Prop :=
  s.listing = .absent ∧ (∀ process, s.running process = none) ∧ s.obtained = [] ∧
    (∀ process, s.doing process = none) ∧ s.orphans = []

abbrev Runs := Pool State Job Unit Request Request.Answer TaskError

abbrev RunEvent := Pool.Event Job Unit Input Outside

abbrev machine (digest : String → String) (repoDir : String) : Machine Runs RunEvent :=
  (builders digest repoDir).machine Initial

end LiveKBench.KBuilder.Repositories
