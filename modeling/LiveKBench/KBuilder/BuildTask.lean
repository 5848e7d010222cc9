import LiveKBench.KArenaPipeline.KGymJobs
import LiveKBench.KCore.Resources
import LiveKBench.KCore.Worker
import LiveKBench.KPreBuilder.PrebuilderTask
import LiveKBench.Lib.TaskPool

/-! `kBuilderTask.on_task`: a kernel is checked out, from its repository or from the kCache of an
earlier job, patched, configured and built, and what is in the checkout then becomes a kCache. Jobs
run at the same time, each in a working directory of its own, on one storage. What the processes do
to the checkout is a parameter, with the circumstances under which they run. -/
namespace LiveKBench.KBuilder
open KCore
open KArenaPipeline (KernelSource KernelGitCommit KBuilderArgument)
open KPreBuilder (SeedText)
open Lib Lib.TaskGroup

/-! ## The checkout -/

inductive Node
  | dir
  | file (text : String)
  deriving DecidableEq, Repr

/-- What is at each path below a directory. -/
abbrev Tree := String → Option Node

namespace Tree

def empty : Tree := fun _ => none

def write (path text : String) (tree : Tree) : Tree := Function.update tree path (some (.file text))

def text? (tree : Tree) (path : String) : Option String :=
  match tree path with
  | some (.file text) => some text
  | _ => none

/-- `shutil.rmtree`. -/
def rmtree (path : String) (tree : Tree) : Tree := fun p =>
  if p = path ∨ (path.toList ++ ['/']).isPrefixOf p.toList then none else tree p

/-- What is left without the folder of git, where it is one. -/
def rmtreeGit (tree : Tree) : Tree := if tree ".git" = some .dir then tree.rmtree ".git" else tree

end Tree

/-- A blob: a kCache is a tree, packed. -/
inductive Object
  | kcache (tree : Tree)
  | other

/-! ## What a task awaits -/

inductive TaskError
  | exception (e : PyException)
  | group (errors : List (Raised PyException))
  | cancelled (args : List String)

def pyError (typeName : String) : TaskError := .exception (.other typeName)

def jobError (code content : String) : TaskError := .exception (.jobExceptionError code content)

/-- A process that is started and awaited; it runs in the checkout, except for the first. -/
inductive Command
  | clone (localRepoPath : String)
  | setUrl (remoteRepoUrl : String)
  | checkout (commitId : String)
  | fetch (commitId : String)
  | isAncestor (commitId : String)
  | cherryPick (theirs : Bool) (fixHash : String)
  | apply (patch : String)
  | untar
  | tar
  | oldconfig (makeArguments : List String)
  | make (makeArguments : List String)

/-- `deliver` is the group of tasks at the end of `LinuxBuilder.make`. -/
inductive Request
  | reportJobLog (message : String)
  | getRepository (gitUrl : String)
  | downloadResource (key : String)
  | downloadImage (key : String)
  | pathExists (path : String)
  | checkoutExists
  | rmtreeCheckout
  | makedirs
  | removeKcache
  | rmtreeGit
  | readFile (path : String)
  | writeFile (path text : String)
  | process (command : Command)
  | getCommitIdByMessage (message : String)
  | fileEmpty (inFolderKey : String)
  | startUpload (inFolderKey : String)
  | awaitUpload (inFolderKey : String)
  | getResourceUrl (key : String)
  | deliver

abbrev Request.Answer : Request → Type
  | .getRepository _ => String
  | .pathExists _ => Bool
  | .checkoutExists => Bool
  | .readFile _ => String
  | .process _ => Bool
  | .getCommitIdByMessage _ => Option String
  | .fileEmpty _ => Bool
  | .getResourceUrl _ => String
  | _ => Unit

abbrev Work (α : Type) := Coroutine Request Request.Answer TaskError α

def ask (r : Request) : Work r.Answer := Coroutine.request r

/-- Whether the process ends with the code zero. -/
def process (command : Command) : Work Bool := ask (.process command)

/-! ## `CheckoutManager` -/

structure BackportCommit where
  guiltyHash : Option String
  fixTitle : String
  fixHash : String
  forceMerge : Bool

def commitPrefixes : List String :=
  ["UPSTREAM:","CHROMIUM:","FROMLIST:","BACKPORT:","FROMGIT:","net-backports:"]

/-- `text.strip()`, of the blanks of ASCII. -/
def strip (text : List Char) : List Char :=
  ((text.dropWhile isPySpace).reverse.dropWhile isPySpace).reverse

/-- One of the prefixes of other trees is left out. -/
def canonicalizeCommitTitle (title : String) : String :=
  match commitPrefixes.find? fun p => p.toList.isPrefixOf title.toList with
  | some p => String.ofList (strip (title.toList.drop p.length))
  | none => String.ofList (strip title.toList)

/-- The last attempt fetches the commit itself, which no branch may lead to. -/
def checkout (remoteRepoUrl commitId : String) : Work Unit := do
  if !(← process (.checkout commitId)) then
    if !(← process (.fetch commitId)) then
      throw (jobError "kbuilder.GitError" (s!"Failed to fetch the commit \"{commitId}\" from " ++
        s!"\"{remoteRepoUrl}\", even as if it's dangling commit"))
    else if !(← process (.checkout commitId)) then
      throw (jobError "kbuilder.GitError" ("Fetched the dangling commit successfully, but " ++
        s!"failed to checkout \"{commitId}\""))
    else pure ()
  else pure ()

/-- The rest of an unfinished checkout is removed. -/
def removeCheckout : Work Unit := do
  if ← ask .checkoutExists then ask .rmtreeCheckout else pure ()

def cloneRepository (localRepoPath remoteRepoUrl : String) : Work Unit := do
  ask (.reportJobLog "Cloning from cached repository")
  if !(← process (.clone localRepoPath)) then
    throw (jobError "kbuilder.GitError"
      s!"Failed to clone from the local repo: \"{localRepoPath}\"")
  else if !(← process (.setUrl remoteRepoUrl)) then
    throw (jobError "kbuilder.GitError" ("Failed to set the remote URL of the local repo " ++
      s!"\"{localRepoPath}\" to \"{remoteRepoUrl}\""))
  else pure ()

def cloneAndCheckout (localRepoPath remoteRepoUrl commitId : String) : Work Unit := do
  removeCheckout
  cloneRepository localRepoPath remoteRepoUrl
  checkout remoteRepoUrl commitId
  ask (.reportJobLog "Checkout obtained")

/-- The commit that needs the fix is there, or is not named. -/
def isProblematic (commit : BackportCommit) : Work Bool :=
  match commit.guiltyHash with
  | some guiltyHash => process (.isAncestor guiltyHash)
  | none => pure true

/-- `get_cherry_pick_cmdlet`: the arguments of the cherry-pick, where it is needed. -/
def getCherryPickCmdlet (commit : BackportCommit) : Work (Option (Bool × String)) := do
  if ← isProblematic commit then
    match ← ask (.getCommitIdByMessage (canonicalizeCommitTitle commit.fixTitle)) with
    | some _ => pure none
    | none => pure (some (commit.forceMerge,commit.fixHash))
  else pure none

/-- A cherry-pick that fails is passed over. -/
def cherryPicks : List (Option (Bool × String)) → Work Unit
  | [] => pure ()
  | none :: cmdlets => cherryPicks cmdlets
  | some (theirs,fixHash) :: cmdlets => do
    let _ ← process (.cherryPick theirs fixHash)
    cherryPicks cmdlets

/-- `apply_backport`; here the checks of the `gather` run in the order of the list. -/
def applyBackport (backportCommits : List BackportCommit) : Work Unit := do
  ask (.reportJobLog "Finding necessary backport commits")
  let cmdlets ← backportCommits.mapM' getCherryPickCmdlet
  ask (.reportJobLog "Applying necessary backport commits")
  cherryPicks cmdlets
  ask (.reportJobLog "Backport commits applied")

/-- One of the files of `ensure_reproducible`, where its directory is there. -/
def ensureFile (directory path text : String) : Work Unit := do
  if ← ask (.pathExists directory) then ask (.writeFile path text) else pure ()

def ensureReproducible (seedText : SeedText → String) : Work Unit := do
  ensureFile "scripts/gcc-plugins" "scripts/gcc-plugins/randomize_layout_seed.h"
    (seedText .kernelSeed)
  ensureFile "certs" "certs/signing_key.pem" (seedText .kernelModuleSigningKey)

/-! ## `LinuxBuilder` -/

/-- `kcache_cfg[name]`; of two members of one name the last one counts. -/
def configItem (kcacheCfg : Json) (name : String) : Except TaskError Json :=
  match kcacheCfg with
  | .obj members =>
    match members.reverse.lookup name with
    | some value => .ok value
    | none => .error (pyError "builtins.KeyError")
  | _ => .error (pyError "builtins.TypeError")

/-- The names of the architectures in the arguments of `make`. -/
def archName : Json → Except TaskError String
  | .str "amd64" => .ok "x86_64"
  | .str "386" => .ok "i386"
  | .arr _ => .error (pyError "builtins.TypeError")
  | .obj _ => .error (pyError "builtins.TypeError")
  | _ => .error (pyError "builtins.KeyError")

def textOf : Json → Except TaskError String
  | .str text => .ok text
  | _ => .error (pyError "builtins.TypeError")

/-- The arguments that `LinuxBuilder` makes of the items of a kCache's configuration. -/
def makeArguments (maxWorkers : ℕ) (kcacheCfg : Json) : Except TaskError (List String) := do
  let arch ← configItem kcacheCfg "kernel-arch"
  let compiler ← configItem kcacheCfg "compiler"
  let linker ← configItem kcacheCfg "linker"
  let arch ← archName arch
  let compiler ← textOf compiler
  let linker ← textOf linker
  return ["-j" ++ toString maxWorkers,"ARCH=" ++ arch,"CC=" ++ compiler,"LD=" ++ linker] ++
    if compiler = "clang" ∧ linker = "ld.lld" then ["LLVM=1"] else []

/-- A stage of a job. -/
structure Slot where
  jobId : JobId
  currentWorker : ℕ
  deriving DecidableEq, Repr

def workerType : String := "kbuilder"

def Slot.taskBase (slot : Slot) : Resources.TaskBase :=
  ⟨JobId.str slot.jobId,slot.currentWorker,workerType,""⟩

def Slot.resourceKey (slot : Slot) (inFolderKey : String) : String :=
  slot.taskBase.storagePrefix ++ inFolderKey

/-- `submit_resource`; the upload runs in a thread, which goes on where the task does not. -/
def submitResource (slot : Slot) (inFolderKey : String) : Work (Option JobResource) := do
  if ← ask (.fileEmpty inFolderKey) then return none
  else do
    let key := slot.resourceKey inFolderKey
    ask (.startUpload inFolderKey)
    ask (.awaitUpload inFolderKey)
    let storageUri ← ask (.getResourceUrl key)
    return some ⟨key,storageUri⟩

def makeKernelConfig (slot : Slot) (arguments : List String) : Work Unit := do
  if !(← process (.oldconfig arguments)) then
    throw (jobError "kbuilder.KernelConfigError" "Unable to `make oldconfig`")
  else do
    let _ ← submitResource slot "kconfig"

/-- Both architectures have their compressed image in the same place. -/
def makeKernel (slot : Slot) (arguments : List String) : Work Unit := do
  let succeeded ← process (.make arguments)
  let _ ← submitResource slot "LinuxBuilder.log"
  let _ ← submitResource slot "LinuxBuilder.err.log"
  if !succeeded then
    throw (jobError "kbuilder.KernelBuildError" "Unable to build the kernel")
  else pure ()

def linuxBuilderMake (slot : Slot) (arguments : List String) : Work Unit := do
  makeKernelConfig slot arguments
  makeKernel slot arguments
  ask .deliver

/-! ## `kBuilderTask` -/

def pullFromScratch (backportCommits : List BackportCommit) (commit : KernelGitCommit) :
    Work Unit := do
  ask (.reportJobLog "Pulling source from scratch")
  let localGitPath ← ask (.getRepository commit.gitUrl)
  cloneAndCheckout localGitPath commit.gitUrl commit.commitId
  applyBackport backportCommits
  ask (.writeFile ".config" commit.kConfig)

def kcacheFilename : String := "kcache.tar.zstd"

def pullFromKcache (kcacheKey : String) : Work Unit := do
  ask (.reportJobLog "Pulling source from kcache")
  ask (.downloadResource kcacheKey)
  ask .makedirs
  if !(← process .untar) then
    throw (jobError "kbuilder.KcacheUntarError" s!"Failed to untar the {kcacheFilename}")
  else ask .removeKcache

/-- The configuration of a commit. -/
def commitCfg (commit : KernelGitCommit) : Json :=
  .obj [("kernel-arch",.str commit.arch),("compiler",.str commit.compiler),
    ("linker",.str commit.linker)]

/-- `json.loads`, where it raises nothing. -/
def loadsCfg (text : String) : Except TaskError Json :=
  match Json.loads text.toList with
  | some kcacheCfg => .ok kcacheCfg
  | none => .error (pyError "json.decoder.JSONDecodeError")

def dumpsCfg (kcacheCfg : Json) : String := String.ofList kcacheCfg.dumps

def applyPatch (patch : String) : Work Unit := do
  if patch ≠ "" then
    if !(← process (.apply patch)) then
      throw (jobError "kbuilder.PatchApplicationError" "Patch is not applicable")
    else ask (.reportJobLog "Successful patch application")
  else pure ()

/-- The storage: a bucket, or a directory. -/
inductive Backend
  | gcs (bucketName : String)
  | local (root : String)
  deriving DecidableEq, Repr

/-- `get_resource_url`; the root is absolute. -/
def Backend.resourceUrl (key : String) : Backend → String
  | .gcs bucketName => s!"https://storage.cloud.google.com/{bucketName}/{key}"
  | .local root => s!"{root}/{key}"

def Backend.isLocal : Backend → Bool
  | .gcs _ => false
  | .local _ => true

/-- What is outside: the repositories' directories, the texts of `utils.py`, the processors of each
builder, the configuration, and what the processes leave of a tree. Where a task goes on after a
process that failed, its effect depends on the failure, too. -/
structure Site (Ω : Type) where
  localPath : String → String
  seedText : SeedText → String
  cpuCount : ℕ → ℕ
  backportCommits : List BackportCommit
  backend : Backend
  clone : Ω → String → Tree
  checkout : Ω → String → Tree → Tree
  cherryPick : Ω → Bool → Bool → String → Tree → Tree
  apply : Ω → String → Tree → Tree
  oldconfig : Ω → List String → Tree → Tree
  make : Ω → List String → Tree → Tree
  deliver : Ω → Tree → Tree

/-- A stage that is given to a builder. -/
structure Delivery where
  slot : Slot
  builder : ℕ
  deriving DecidableEq, Repr

section Task
variable {Ω : Type} (site : Site Ω) (delivery : Delivery) (argument : KBuilderArgument)

/-- The source of the argument in the checkout, with its configuration. -/
def pullSource : Work Json :=
  match argument.kernelSource with
  | .kcache resource => do
    pullFromKcache resource.key
    Coroutine.ofExcept (loadsCfg (← ask (.readFile "kcache.json")))
  | .gitCommit commit => do
    pullFromScratch site.backportCommits commit
    return commitCfg commit

def pull : Work Json := do
  let kcacheCfg ← pullSource site argument
  ask (.writeFile "kcache.json" (dumpsCfg kcacheCfg))
  applyPatch argument.patch
  ensureReproducible site.seedText
  return kcacheCfg

def build (kcacheCfg : Json) : Work Unit := do
  ask (.reportJobLog "Downloading userspace image")
  ask (.downloadImage s!"userspace-images/{argument.userspaceImage}")
  ask (.reportJobLog "Userspace image downloaded")
  ask (.reportJobLog "Invoking LinuxBuilder")
  let arguments ← Coroutine.ofExcept (makeArguments (site.cpuCount delivery.builder) kcacheCfg)
  linuxBuilderMake delivery.slot arguments
  ask (.reportJobLog "LinuxBuilder finished")

def buildKcache (slot : Slot) : Work (Option JobResource) := do
  ask .rmtreeGit
  ask (.reportJobLog "Building kcache")
  if !(← process .tar) then
    throw (jobError "kbuilder.KcacheBuildError" "Failed to create kcache")
  else do
    ask (.reportJobLog "kcache was built successfully")
    submitResource slot kcacheFilename

/-- `on_task`; of `self.pending_result` it returns `kCache` and `kernelArch`. -/
def onTask : Work (Option JobResource × Json) := do
  let kcacheCfg ← pull site argument
  let kernelArch ← Coroutine.ofExcept (configItem kcacheCfg "kernel-arch")
  build site delivery argument kcacheCfg
  let kCache ← buildKcache delivery.slot
  return (kCache,kernelArch)

end Task

/-! ## Jobs on one storage -/

def Slot.kcacheKey (slot : Slot) : String := slot.resourceKey kcacheFilename

/-- The working directory of a task: the checkout, and the file of its kCache. -/
structure Workspace where
  checkout : Option Tree
  kcacheFile : Option Object

/-- An upload of a task; once it is over, `ended` says whether it has arrived. -/
structure Copy where
  task : ℕ
  key : String
  blob : Object
  ended : Option Bool

/-- `made` are the arguments with which `make` has succeeded; nothing reads them. -/
structure State where
  storage : String → Option Object
  workspace : ℕ → Workspace
  made : List (Delivery × List String)
  copies : List Copy

/-- What comes from outside: the commit that is found, how a process ends and under which circumstances,
whether a file is empty, three attempts of a transfer that all time out, how the last group of tasks
ends, what it has uploaded and is still uploading then, an exception. -/
inductive Input (Ω : Type)
  | go
  | commitId (found : Option String)
  | code (succeeded : Bool) (circumstances : Ω)
  | size (empty : Bool)
  | lost
  | delivered (names : List String) (circumstances : Ω)
  | undelivered (names late : List String) (e : TaskError)
  | raises (e : TaskError)

section Execution
variable {Ω : Type} (site : Site Ω)

/-- What a process that succeeds makes of the working directory, and a cherry-pick in any case.
Nothing can be unpacked but a kCache. -/
def Command.effect (ω : Ω) (succeeded : Bool) (w : Workspace) : Command → Option Workspace
  | .clone localRepoPath => some { w with checkout := some (site.clone ω localRepoPath) }
  | .setUrl _ => some w
  | .checkout commitId => some { w with checkout := w.checkout.map (site.checkout ω commitId) }
  | .fetch _ => some w
  | .isAncestor _ => some w
  | .cherryPick theirs fixHash =>
    some { w with checkout := w.checkout.map (site.cherryPick ω succeeded theirs fixHash) }
  | .apply patch => some { w with checkout := w.checkout.map (site.apply ω patch) }
  | .untar =>
    match w.kcacheFile with
    | some (.kcache tree) => some { w with checkout := some tree }
    | _ => none
  | .tar => some { w with kcacheFile := w.checkout.map .kcache }
  | .oldconfig arguments =>
    some { w with checkout := w.checkout.map (site.oldconfig ω arguments) }
  | .make arguments => some { w with checkout := w.checkout.map (site.make ω arguments) }

/-- A task goes on after this process whether it has succeeded or not. -/
def Command.passedOver : Command → Bool
  | .cherryPick _ _ => true
  | _ => false

def Command.exec (ω : Ω) (succeeded : Bool) (w : Workspace) (command : Command) :
    Option Workspace :=
  if succeeded || command.passedOver then command.effect site ω succeeded w else some w

def madeBy (delivery : Delivery) : Command → Bool → List (Delivery × List String)
  | .make arguments,true => [(delivery,arguments)]
  | _,_ => []

def State.setWorkspace (s : State) (k : ℕ) (w : Workspace) : State :=
  { s with workspace := Function.update s.workspace k w }

/-- What a task uploads under a name. -/
def uploaded (inFolderKey : String) (w : Workspace) : Option Object :=
  if inFolderKey = kcacheFilename then w.kcacheFile else some .other

def State.upload (s : State) (key : String) (blob : Object) : State :=
  { s with storage := Function.update s.storage key (some blob) }

def State.startCopy (s : State) (k : ℕ) (key : String) (blob : Object) : State :=
  { s with copies := ⟨k,key,blob,none⟩ :: s.copies }

/-- Whether a task's upload is over, and has arrived. -/
def State.arrived? (s : State) (k : ℕ) (key : String) : Option Bool :=
  (s.copies.find? fun c => c.task = k ∧ c.key = key).bind Copy.ended

/-- The names under which the tasks of the last group submit their files. -/
def deliverables : List String :=
  ["bzImage","vmlinux","image.tar.gz","compile_commands.json","cscope.files","cscope.out",
    "cscope.out.in","cscope.out.po"]

def State.deliver (s : State) (slot : Slot) (names : List String) : State :=
  names.foldl (fun s name => s.upload (slot.resourceKey name) .other) s

def State.startCopies (s : State) (slot : Slot) (k : ℕ) (names : List String) : State :=
  names.foldl (fun s name => s.startCopy k (slot.resourceKey name) .other) s

/-- Whatever is awaited can raise, and then it changed nothing; an upload goes on even so. -/
def exec (delivery : Delivery) (k : ℕ) (r : Request) (s : State) (input : Input Ω) :
    Option (State × Except TaskError r.Answer) :=
  let w := s.workspace k
  let slot := delivery.slot
  match r,input with
  | _,.raises e => some (s,.error e)
  | .reportJobLog _,.go => some (s,.ok ())
  | .getRepository gitUrl,.go => some (s,.ok (site.localPath gitUrl))
  | .downloadResource key,.go =>
    (s.storage key).map fun blob =>
      (s.setWorkspace k { w with kcacheFile := some blob },.ok ())
  | .downloadResource key,.lost =>
    if site.backend.isLocal then none
    else (s.storage key).map fun _ => (s.setWorkspace k { w with kcacheFile := some .other },.ok ())
  | .downloadImage _,.go => some (s,.ok ())
  | .pathExists path,.go => w.checkout.map fun tree => (s,.ok (tree path).isSome)
  | .checkoutExists,.go => some (s,.ok w.checkout.isSome)
  | .rmtreeCheckout,.go => some (s.setWorkspace k { w with checkout := none },.ok ())
  | .makedirs,.go => some (s.setWorkspace k { w with checkout := some .empty },.ok ())
  | .removeKcache,.go => some (s.setWorkspace k { w with kcacheFile := none },.ok ())
  | .rmtreeGit,.go => w.checkout.map fun tree =>
    (s.setWorkspace k { w with checkout := some tree.rmtreeGit },.ok ())
  | .readFile path,.go => w.checkout.bind fun tree => (tree.text? path).map fun text => (s,.ok text)
  | .writeFile path text,.go => w.checkout.map fun tree =>
    (s.setWorkspace k { w with checkout := some (tree.write path text) },.ok ())
  | .process command,.code succeeded ω =>
    (command.exec site ω succeeded w).map fun w =>
      ({ s.setWorkspace k w with made := madeBy delivery command succeeded ++ s.made },
        .ok succeeded)
  | .getCommitIdByMessage _,.commitId found => some (s,.ok found)
  | .fileEmpty _,.size empty => some (s,.ok empty)
  | .startUpload inFolderKey,.go => (uploaded inFolderKey w).map fun blob =>
    (s.startCopy k (slot.resourceKey inFolderKey) blob,.ok ())
  | .awaitUpload inFolderKey,.go =>
    if s.arrived? k (slot.resourceKey inFolderKey) = some true then some (s,.ok ()) else none
  -- after three time-outs the loop of the bucket's client ends as after a success
  | .awaitUpload inFolderKey,.lost =>
    if !site.backend.isLocal ∧ s.arrived? k (slot.resourceKey inFolderKey) = some false then
      some (s,.ok ())
    else none
  | .getResourceUrl key,.go => some (s,.ok (site.backend.resourceUrl key))
  | .deliver,.delivered names ω =>
    if ∀ name ∈ names, name ∈ deliverables then
      some ((s.setWorkspace k { w with checkout := w.checkout.map (site.deliver ω) }).deliver slot
        names,.ok ())
    else none
  | .deliver,.undelivered names late e =>
    if ∀ name ∈ names ++ late, name ∈ deliverables then
      some ((s.deliver slot names).startCopies slot k late,.error e)
    else none
  | _,_ => none

/-- Apart from the tasks, those of other workers store their resources, and the uploads go on: an
object of a bucket appears whole or not at all, while a file is emptied first, and torn where two
uploads write it. -/
inductive Other
  | stores (slot : Slot) (workerType inFolderKey : String)
  | truncates (n : ℕ)
  | lands (n : ℕ) (torn : Bool)
  | breaks (n : ℕ)

def otherKey (slot : Slot) (workerType inFolderKey : String) : String :=
  (⟨JobId.str slot.jobId,slot.currentWorker,workerType,""⟩ : Resources.TaskBase).storagePrefix ++
    inFolderKey

def State.endCopy (s : State) (n : ℕ) (c : Copy) (arrived : Bool) : State :=
  { s with copies := s.copies.set n { c with ended := some arrived } }

/-- The upload with a number, while it is under way. -/
def State.underway? (s : State) (n : ℕ) : Option Copy :=
  s.copies[n]?.filter fun c => c.ended.isNone

def happen (e : Other) (s : State) : Option State :=
  match e with
  | .stores slot workerType' inFolderKey =>
    if workerType' = workerType ∨ '/' ∈ workerType'.toList then none
    else some (s.upload (otherKey slot workerType' inFolderKey) .other)
  | .truncates n =>
    if site.backend.isLocal then (s.underway? n).map fun c => s.upload c.key .other else none
  | .lands n torn =>
    if torn && !site.backend.isLocal then none
    else (s.underway? n).map fun c =>
      (s.upload c.key (if torn then .other else c.blob)).endCopy n c true
  | .breaks n => (s.underway? n).map fun c => s.endCopy n c false

/-- A stage that is given to a builder again runs again, in a new working directory. -/
def builds (argument : Slot → KBuilderArgument) :
    Pipeline State Delivery Unit Request Request.Answer TaskError (Input Ω) Other where
  select _ _ := [()]
  body delivery _ := do let _ ← onTask site delivery (argument delivery.slot)
  limit _ := none
  cancels _ := false
  exec delivery t := KBuilder.exec site delivery t.1
  other := happen site

/-- Nothing is stored that passes for a kCache. -/
def Initial (s : State) : Prop :=
  (∀ key tree, s.storage key ≠ some (.kcache tree)) ∧ (∀ k, s.workspace k = ⟨none,none⟩) ∧
    s.made = [] ∧ s.copies = []

end Execution

abbrev Runs := Pool State Delivery Unit Request Request.Answer TaskError

abbrev RunEvent (Ω : Type) := Pool.Event Delivery Unit (Input Ω) Other

abbrev machine {Ω : Type} (site : Site Ω) (argument : Slot → KBuilderArgument) :
    Machine Runs (RunEvent Ω) := (builds site argument).machine Initial

end LiveKBench.KBuilder
