import LiveKBench.KArenaDb.Entities
import LiveKBench.KCore.JobIdCodec
import LiveKBench.Lib.Coroutine

/-! The jobs that the pipelines ask of kGym: how the arguments of the builder and of the virtual
machines are made from the data of a bug, and what stands in the way. -/
namespace LiveKBench.KArenaPipeline
open KCore
open KClient (SyzbotData SyzbotCrash)

/-- What the awaited code raises. -/
inductive Raised
  | valueError (message : String)
  | validationError (model : String)
  | exception (typeName message : String)
  deriving DecidableEq, Repr

/-- `str(e)`; of a validation error its first line. -/
def Raised.text : Raised → String
  | .valueError message => message
  | .validationError model => s!"1 validation error for {model}"
  | .exception _ message => message

def Raised.attributeError (name : String) : Raised :=
  .exception "AttributeError" s!"'NoneType' object has no attribute '{name}'"

def Raised.indexError : Raised := .exception "IndexError" "list index out of range"

/-- `if not row: raise ValueError(…)`. -/
def orRaise {Req : Type} {Ans : Req → Type} {α : Type} (message : String) :
    Option α → Lib.Coroutine Req Ans Raised α
  | some row => pure row
  | none => throw (.valueError message)

/-- `JobId(text)`, with what `int` raises. -/
def parseJobId (text : String) : Except Raised JobId :=
  match JobId.new (.str text) with
  | some jobId => .ok jobId.toNat
  | none => .error (.valueError s!"invalid literal for int() with base 16: '0x{text}'")

structure KernelGitCommit where
  gitUrl : String
  commitId : String
  kConfig : String
  arch : String
  compiler : String
  linker : String
  deriving DecidableEq, Repr

/-- A kernel is built from scratch or from what an earlier build left. -/
inductive KernelSource
  | kcache (resource : JobResource)
  | gitCommit (commit : KernelGitCommit)
  deriving DecidableEq, Repr

structure KBuilderArgument where
  kernelSource : KernelSource
  userspaceImage : String
  patch : String
  deriving DecidableEq, Repr

structure Reproducer where
  reproducerType : String
  reproducerText : String
  syzkallerCheckout : String
  syzkallerCheckoutRollback : Bool
  syzkallerLatestTag : String
  restartTime : String
  nInstance : ℤ
  threaded : Bool
  nProc : ℕ
  deriving DecidableEq, Repr

/-- The image is that of the stage with the number `image`. -/
structure KVMManagerArgument where
  reproducer : Reproducer
  image : ℤ
  machineType : String
  deriving DecidableEq, Repr

/-- A `kJobRequest` of a builder and machines. -/
structure KJobRequest where
  builder : KBuilderArgument
  vms : List KVMManagerArgument
  tags : List (String × String)
  deriving DecidableEq, Repr

/-- `text.split(separator)[0]`. -/
def splitFirst (separator text : List Char) : List Char :=
  match text with
  | [] => []
  | c :: rest => if separator.isPrefixOf text then [] else c :: splitFirst separator rest

/-- `parse_url`. -/
def parseUrl (gitUrl : String) : Except Raised String :=
  if pyIn "/commit/?id=" gitUrl then
    .ok (.ofList (splitFirst "/commit/?id=".toList gitUrl.toList))
  else if pyIn "https://github.com/" gitUrl then
    .ok (.ofList (splitFirst "/commits/".toList gitUrl.toList))
  else if pyIn "https://git.kernel.org/pub/scm/linux/kernel/git/" gitUrl then
    .ok (.ofList (splitFirst "/log/?id=".toList gitUrl.toList))
  else if gitUrl = "" then
    .ok "https://git.kernel.org/pub/scm/linux/kernel/git/torvalds/linux.git"
  else if "git://".toList.isPrefixOf gitUrl.toList && ".git".toList.isSuffixOf gitUrl.toList then
    .ok ("https://" ++ String.ofList (gitUrl.toList.drop "git://".length))
  else .error (.valueError s!"Unsupported git URL: {gitUrl}")

/-- `ARCH_MAP`. -/
def archMap (architecture : String) : Option String :=
  [("amd64","amd64"),("i386","386"),("arm64","arm64"),("arm","arm")].lookup architecture

/-- `not text`. -/
def isFalsy (text : Option String) : Bool := text.getD "" = ""

/-- A field of a pydantic model that must be a text. -/
def requireText (model : String) : Option String → Except Raised String
  | some text => .ok text
  | none => .error (.validationError model)

/-- `userspaceImage if not userspace_image_name else userspace_image_name`. -/
def userspaceImageOr (data : SyzbotData) (userspaceImageName : String) : Option String :=
  if userspaceImageName = "" then data.userspaceImage else some userspaceImageName

/-- `kBuilderArgument.model_from_syzbot_data` on the first crash; the compiler and the linker are
detected. -/
def KBuilderArgument.modelFromSyzbotData (data : SyzbotData) (userspaceImageName : String)
    (fromParent : Bool) : Except Raised KBuilderArgument := do
  match data.crashes with
  | [] => throw (.valueError s!"No crashes found in bug {data.bugId}")
  | crash :: _ =>
    if isFalsy crash.kernelConfig then throw (.valueError "Missing kernel-config in crash 0")
    if crash.kernelSourceCommit = "" then
      throw (.valueError "Missing kernel-source-commit in crash 0")
    match archMap crash.architecture with
    | none => throw (.valueError s!"Unsupported architecture: {crash.architecture}")
    | some arch =>
      let gitUrl ← parseUrl crash.kernelSourceGit
      let compiler := if pyIn "clang" crash.compilerDescription.toLower then "clang" else "gcc"
      let linker := if compiler = "clang" then "ld.lld" else "ld"
      let commitId ← requireText "KernelGitCommit"
        (if fromParent then data.parentOfFixCommit else some crash.kernelSourceCommit)
      let kernelSource : KernelGitCommit :=
        ⟨gitUrl,commitId,crash.kernelConfig.getD "",arch,compiler,linker⟩
      let userspaceImage ← requireText "kBuilderArgument"
        (userspaceImageOr data userspaceImageName)
      return ⟨.gitCommit kernelSource,userspaceImage,""⟩

/-- `kVMManagerArgument.model_from_syzbot_data` on the first crash, with its preference for a log
of syzkaller. -/
def KVMManagerArgument.modelFromSyzbotData (data : SyzbotData) (image : ℤ)
    (syzkallerLatestTag : String) (ninstance : ℤ) : Except Raised KVMManagerArgument := do
  match data.crashes with
  | [] => throw (.valueError s!"No crashes found in bug {data.bugId}")
  | crash :: _ =>
    if isFalsy crash.syzReproducer && isFalsy crash.cReproducer then
      throw (.valueError "No reproducer found in crash 0")
    let (reproducerType,reproducerText) :=
      if isFalsy crash.syzReproducer then ("c",crash.cReproducer.getD "")
      else ("log",crash.syzReproducer.getD "")
    return ⟨⟨reproducerType,reproducerText,crash.syzkallerCommit,true,syzkallerLatestTag,"10m",
      ninstance,true,8⟩,image,"gce:e2-standard-2"⟩

/-- A job as the kGym service returns it, with the `kCache` of the result of its first stage where
that is a builder's. -/
structure KGymJob where
  context : JobContext
  kCache : Option JobResource

/-- `jobWorkers[0].workerResult.kCache`. -/
def KGymJob.readKCache (job : KGymJob) : Except Raised (Option JobResource) :=
  match job.context.jobWorkers with
  | [] => .error .indexError
  | worker :: _ =>
    match worker.workerResult with
    | none => .error (.attributeError "kCache")
    | some result =>
      match result.builder with
      | none => .error (.exception "AttributeError" "no attribute 'kCache'")
      | some _ => .ok job.kCache

end LiveKBench.KArenaPipeline
