import LiveKBench.KClient.SyzbotData

/-! What an agent is given of its bug: the copy of the record that `AgentInvoker` cleans, the
`kBench.json` that it writes of it, and the command of the container. -/
namespace LiveKBench.KArena
open KClient Lib

/-- A path: its root, which is empty for a relative one, and its parts. -/
structure Path where
  root : String
  parts : List String
  deriving DecidableEq, Repr

namespace Path

/-- `Path(text)`: two leading slashes stay two, and empty and single-dot parts are dropped. -/
def parse (text : String) : Path where
  root :=
    match (text.toList.takeWhile fun c => c = '/').length with
    | 0 => ""
    | 2 => "//"
    | _ => "/"
  parts := (text.splitOn "/").filter fun part => part ≠ "" && part ≠ "."

/-- `path / text`: an absolute right side takes the place of the path. -/
def join (path : Path) (text : String) : Path :=
  let right := parse text
  if right.root ≠ "" then right else ⟨path.root,path.parts ++ right.parts⟩

def absolute (cwd path : Path) : Path :=
  if path.root ≠ "" then path else ⟨cwd.root,cwd.parts ++ path.parts⟩

def text (path : Path) : String :=
  if path.root = "" ∧ path.parts = [] then "." else path.root ++ "/".intercalate path.parts

end Path

inductive BaseCommit
  | parentCommit
  | crashCommit
  deriving DecidableEq, Repr

def BaseCommit.text : BaseCommit → String
  | .parentCommit => "parentCommit"
  | .crashCommit => "crashCommit"

/-- `f'{base_commit[:-len("Commit")]}-commit'`. -/
def BaseCommit.docker (baseCommit : BaseCommit) : String :=
  let text := baseCommit.text.toList
  .ofList (text.take (text.length-"Commit".length)) ++ "-commit"

structure KArenaConfig where
  kGymEndpoint : String
  workspaceRoot : Path
  googleApplicationCredentials : Option Path
  litellmProxyConfigPath : Option Path
  litellmProxyPort : ℤ

structure KCache where
  kGymJobId : String

/-- What the machine is like on which the agent is invoked. -/
structure Environment where
  cwd : Path
  pathExists : Path → Bool
  /-- `hashlib.md5` of a text, in hexadecimal digits. -/
  md5Hex : String → String
  /-- The directory that `TemporaryDirectory` made, and the one that holds the model's
  configuration. -/
  tempDir : String
  modelConfigPath : Path

/-- The result that stands in the place of a command; its other fields keep their defaults. -/
structure AgentResult where
  status : String
  systemMessage : String
  deriving DecidableEq, Repr

structure WorkspacePaths where
  kbenchPath : Path
  oraclePath : Path
  patchPath : Path
  trajPath : Path
  logPath : Path
  stdoutPath : Path
  stderrPath : Path
  metadataPath : Path

/-- The records that live in the process, by their address. An attribute is assigned in one record;
nothing is ever written into the lists and models that its attributes hold, so that a record holds
these by value, and a shallow copy shares nothing that changes. -/
abbrev Heap := List SyzbotData

namespace AgentInvoker

structure AgentConfiguration where
  agent : String
  agentConfigName : String
  modelConfigName : String
  oracleMode : Bool

end AgentInvoker

/-- The arguments of `AgentInvoker` beside the bug, and the machine that it runs on. -/
structure Invocation where
  env : Environment
  config : KArenaConfig
  agentConfig : AgentInvoker.AgentConfiguration
  baseCommit : BaseCommit
  statefulEdit : Bool
  kcache : KCache

structure AgentInvoker where
  config : KArenaConfig
  workspaceRoot : Path
  /-- The address of its own copy. -/
  bug : ℕ
  bugId : String
  agentConfig : AgentInvoker.AgentConfiguration
  baseCommit : BaseCommit
  kcache : KCache
  agentConfigPath : Path
  statefulEdit : Bool

/-- `bug.model_copy()`. -/
def modelCopy (heap : Heap) (bug : ℕ) : Option (ℕ × Heap) :=
  heap[bug]?.map fun d => (heap.length,heap ++ [d])

/-- The assignments of `clean_bug_fields`. -/
def cleanBugFields (d : SyzbotData) : SyzbotData :=
  { d with
    fixCommits := []
    discussions := []
    causeCommit := none
    causeCommitDate := none
    causeModifiedFunctions := some []
    patch := none
    patchMessage := none
    patchModifiedFiles := none
    patchModifiedFunctions := none
    patchCommitDate := none }

namespace AgentInvoker

def init (inv : Invocation) (heap : Heap) (bug : ℕ) : Option (AgentInvoker × Heap) := do
  let (copy,heap) ← modelCopy heap bug
  let heap := heap.modify copy cleanBugFields
  let original ← heap[bug]?
  let workspaceRoot := inv.config.workspaceRoot
  some
    ({ config := inv.config
       workspaceRoot := workspaceRoot
       bug := copy
       bugId := original.bugId
       agentConfig := inv.agentConfig
       baseCommit := inv.baseCommit
       kcache := inv.kcache
       agentConfigPath :=
        ((workspaceRoot.join "shared").join "agent-configs").join inv.agentConfig.agentConfigName
       statefulEdit := inv.statefulEdit },heap)

/-- The paths that `_prepare_workspace` returns. -/
def workspacePaths (tempDir : Path) : WorkspacePaths :=
  let outputDir := tempDir.join "output"
  { kbenchPath := tempDir.join "kBench.json"
    oraclePath := tempDir.join "oracle-files.txt"
    patchPath := outputDir.join "patch.txt"
    trajPath := outputDir.join "traj.json"
    logPath := outputDir.join "log.txt"
    stdoutPath := outputDir.join "docker_stdout.txt"
    stderrPath := outputDir.join "docker_stderr.txt"
    metadataPath := outputDir.join "metadata.json" }

variable (invoker : AgentInvoker)

/-- `to_json(kbench_data)`. -/
def kbenchData (d : SyzbotData) : Json :=
  .obj [("dataset",.arr [d.toJson]),
    ("kCache",.obj [(invoker.bugId,.str invoker.kcache.kGymJobId)])]

/-- The text of `oracle-files.txt`. -/
def oracleFiles (d : SyzbotData) : String := "\n".intercalate (d.patchModifiedFiles.getD [])

def pythonBool (b : Bool) : String := if b then "True" else "False"

def buildDockerCmd (env : Environment) (paths : WorkspacePaths) (modelConfigPath : Path)
    (containerName : String) : Except AgentResult (List String) :=
  let absolute (path : Path) : String := (path.absolute env.cwd).text
  let containerCredsPath := "/KBDr/gcp-credentials.json"
  let proxyEnv :=
    if invoker.config.litellmProxyConfigPath.isSome then
      ["-e","SINGLE_LITELLM_PROXY=http://host-gateway:" ++ toString invoker.config.litellmProxyPort]
    else []
  let oracleMount :=
    if invoker.agentConfig.oracleMode then
      ["-v",absolute paths.oraclePath ++ ":/KBDr/oracle-files.txt:ro"]
    else []
  let command (gcsCredentialsMount gcsCredentialsEnv : List String) : List String :=
    ["docker","run","--rm","--name",containerName] ++
    ["--add-host","host-gateway:host-gateway"] ++
    ["-e","KENV_KGYM_ENDPOINT=" ++ invoker.config.kGymEndpoint,
      "-e","KENV_COMMIT_FROM=" ++ invoker.baseCommit.text,
      "-e","KENV_SYZBOT_BUG_ID=" ++ invoker.bugId,
      "-e","KENV_STATEFUL_EDIT=" ++ pythonBool invoker.statefulEdit,
      "-e","KENV_ORACLE_MODE=" ++ (pythonBool invoker.agentConfig.oracleMode).toLower] ++
    proxyEnv ++ gcsCredentialsEnv ++
    ["-v",absolute paths.kbenchPath ++ ":/KBDr/kBench.json",
      "-v",absolute invoker.agentConfigPath ++ ":/KBDr/agent-config:ro",
      "-v",absolute modelConfigPath ++ ":/KBDr/model-config:ro",
      "-v",absolute paths.patchPath ++ ":/KBDr/output/patch.txt",
      "-v",absolute paths.trajPath ++ ":/KBDr/output/traj.json",
      "-v",absolute paths.logPath ++ ":/KBDr/output/log.txt",
      "-v",absolute paths.metadataPath ++ ":/KBDr/output/metadata.json"] ++
    oracleMount ++
    ["-v",absolute ((invoker.workspaceRoot.join "shared").join "storageCfg.json") ++
      ":/KBDr/storageCfg.json:ro"] ++
    gcsCredentialsMount ++
    ["kenv-" ++ invoker.agentConfig.agent ++ "-" ++ invoker.bugId ++ "-" ++
      invoker.baseCommit.docker ++ ":latest"]
  match invoker.config.googleApplicationCredentials with
  | none => .ok (command [] [])
  | some credentials =>
    if env.pathExists credentials then
      .ok (command ["-v",absolute credentials ++ ":" ++ containerCredsPath ++ ":ro"]
        ["-e","GOOGLE_APPLICATION_CREDENTIALS=" ++ containerCredsPath])
    else .error ⟨"error","GCS credentials file not found: " ++ credentials.text⟩

/-- What `run_agent` has made when it starts the container. -/
structure Prepared where
  kBench : String
  oracleFiles : String
  dockerCmd : Except AgentResult (List String)

def runAgent (env : Environment) (heap : Heap) : Option Prepared :=
  heap[invoker.bug]?.map fun d =>
    let paths := workspacePaths (.parse env.tempDir)
    let containerName := "kenv-" ++ invoker.bugId ++ "-" ++
      .ofList ((env.md5Hex env.tempDir).toList.take 6)
    { kBench := (invoker.kbenchData d).text
      oracleFiles := oracleFiles d
      dockerCmd := invoker.buildDockerCmd env paths env.modelConfigPath containerName }

end AgentInvoker

/-- An invoker is made for the bug at the address and run; the heap is the one that it leaves. -/
def Invocation.invoke (inv : Invocation) (heap : Heap) (bug : ℕ) :
    Option (AgentInvoker.Prepared × Heap) := do
  let (invoker,heap) ← AgentInvoker.init inv heap bug
  let prepared ← invoker.runAgent inv.env heap
  some (prepared,heap)

/-- What is left of a bug without the fix: the fields that hold the truth about it are emptied, and
no record keeps a field that its model does not declare. -/
def withoutGroundTruth (d : SyzbotData) : SyzbotData :=
  { d with
    fixCommits := []
    causeCommit := none
    causeCommitDate := none
    causeModifiedFunctions := none
    discussions := []
    patch := none
    patchMessage := none
    patchCommitDate := none
    patchModifiedFiles := none
    patchModifiedFunctions := none
    crashes := d.crashes.map fun crash => { crash with extra := [] }
    extra := [] }

/-- The records keep the same undeclared fields. -/
def SameExtra (d d' : SyzbotData) : Prop :=
  d.extra = d'.extra ∧ d.crashes.map SyzbotCrash.extra = d'.crashes.map SyzbotCrash.extra

/-- For both bugs, wherever they are, the same `kBench.json` is written and the same command run,
and both records of the caller are as they were. -/
def LeaksNothing (inv : Invocation) (d d' : SyzbotData) : Prop :=
  ∀ (heap heap' : Heap) (bug bug' : ℕ), heap[bug]? = some d → heap'[bug']? = some d' →
    ∃ prepared prepared' after after',
      inv.invoke heap bug = some (prepared,after) ∧
      inv.invoke heap' bug' = some (prepared',after') ∧
      prepared.kBench = prepared'.kBench ∧ prepared.dockerCmd = prepared'.dockerCmd ∧
      after[bug]? = some d ∧ after'[bug']? = some d'

section Leak
variable {inv : Invocation} {heap : Heap} {bug : ℕ} {d d' : SyzbotData}

/-- The invoker of a record at an address. -/
def Invocation.invoker (inv : Invocation) (copy : ℕ) (bugId : String) : AgentInvoker where
  config := inv.config
  workspaceRoot := inv.config.workspaceRoot
  bug := copy
  bugId := bugId
  agentConfig := inv.agentConfig
  baseCommit := inv.baseCommit
  kcache := inv.kcache
  agentConfigPath := ((inv.config.workspaceRoot.join "shared").join "agent-configs").join
    inv.agentConfig.agentConfigName
  statefulEdit := inv.statefulEdit

lemma modify_last {α : Type*} (xs : List α) (x : α) (f : α → α) :
    (xs ++ [x]).modify xs.length f = xs ++ [f x] := by
  induction xs with
  | nil => rfl
  | cons y xs ih =>
    rw [List.cons_append,List.length_cons,List.modify_succ_cons,ih]
    rfl

/-- The one new record is the cleaned copy; every older one stays as it is. -/
theorem init_eq (h : heap[bug]? = some d) : AgentInvoker.init inv heap bug =
    some (inv.invoker heap.length d.bugId,heap ++ [cleanBugFields d]) := by
  have hlt : bug < heap.length := (List.getElem?_eq_some_iff.mp h).1
  have hold : (heap ++ [cleanBugFields d])[bug]? = some d := by
    rw [List.getElem?_append_left hlt,h]
  simp only [AgentInvoker.init,modelCopy,h,Option.map_some,Option.bind_eq_bind,Option.bind_some,
    modify_last,hold]
  rfl

/-- What is made of a bug. -/
def Invocation.prepared (inv : Invocation) (copy : ℕ) (d : SyzbotData) : AgentInvoker.Prepared where
  kBench := ((inv.invoker copy d.bugId).kbenchData (cleanBugFields d)).text
  oracleFiles := AgentInvoker.oracleFiles (cleanBugFields d)
  dockerCmd := (inv.invoker copy d.bugId).buildDockerCmd inv.env
    (AgentInvoker.workspacePaths (.parse inv.env.tempDir)) inv.env.modelConfigPath
    ("kenv-" ++ d.bugId ++ "-" ++ .ofList ((inv.env.md5Hex inv.env.tempDir).toList.take 6))

theorem invoke_eq (h : heap[bug]? = some d) : inv.invoke heap bug =
    some (inv.prepared heap.length d,heap ++ [cleanBugFields d]) := by
  have hcopy : (heap ++ [cleanBugFields d])[heap.length]? = some (cleanBugFields d) := by simp
  simp only [Invocation.invoke,init_eq h,Option.bind_eq_bind,Option.bind_some,
    AgentInvoker.runAgent]
  change ((heap ++ [cleanBugFields d])[heap.length]?.map _).bind _ = _
  rw [hcopy]
  rfl

/-- The caller's record is not touched. -/
theorem getElem?_of_invoke {prepared : AgentInvoker.Prepared} {after : Heap}
    (h : heap[bug]? = some d) (hinvoke : inv.invoke heap bug = some (prepared,after)) :
    after[bug]? = some d := by
  rw [invoke_eq h,Option.some.injEq,Prod.mk.injEq] at hinvoke
  rw [← hinvoke.2,List.getElem?_append_left (List.getElem?_eq_some_iff.mp h).1,h]

lemma bugId_of_withoutGroundTruth (h : withoutGroundTruth d = withoutGroundTruth d') :
    d.bugId = d'.bugId := by
  have hbug := congrArg SyzbotData.bugId h
  exact hbug

/-- The command knows the bug by its id only. -/
theorem dockerCmd_eq (h : d.bugId = d'.bugId) (copy copy' : ℕ) :
    (inv.prepared copy d).dockerCmd = (inv.prepared copy' d').dockerCmd := by
  unfold Invocation.prepared
  rw [h]
  rfl

/-- A crash is its declared fields and the others. -/
lemma crash_ext {c c' : SyzbotCrash}
    (h : ({ c with extra := [] } : SyzbotCrash) = { c' with extra := [] })
    (hextra : c.extra = c'.extra) : c = c' := by
  cases c
  cases c'
  simp_all

/-- With the same undeclared fields the cleaned records are the same. -/
lemma cleanBugFields_eq (h : withoutGroundTruth d = withoutGroundTruth d') (hextra : SameExtra d d') :
    cleanBugFields d = cleanBugFields d' := by
  have hcrashes : d.crashes = d'.crashes := by
    have hdeclared : d.crashes.map (fun crash => ({ crash with extra := [] } : SyzbotCrash)) =
        d'.crashes.map fun crash => { crash with extra := [] } := congrArg SyzbotData.crashes h
    have hundeclared := hextra.2
    generalize d.crashes = crashes at hdeclared hundeclared ⊢
    generalize d'.crashes = crashes' at hdeclared hundeclared ⊢
    induction crashes generalizing crashes' with
    | nil =>
      cases crashes' with
      | nil => rfl
      | cons crash' crashes' => simp at hundeclared
    | cons crash crashes ih =>
      cases crashes' with
      | nil => simp at hundeclared
      | cons crash' crashes' =>
        rw [List.map_cons,List.map_cons,List.cons.injEq] at hdeclared hundeclared
        rw [crash_ext hdeclared.1 hundeclared.1,ih crashes' hdeclared.2 hundeclared.2]
  have hrest := hextra.1
  cases d
  cases d'
  simp_all [withoutGroundTruth,cleanBugFields]

/-- The undeclared fields can be read off the JSON. -/
lemma sameExtra_of_toJson (h : (cleanBugFields d).toJson = (cleanBugFields d').toJson) :
    SameExtra d d' := by
  have hmembers := Json.obj.inj h
  have hlen : (cleanBugFields d).members.length = (cleanBugFields d').members.length := rfl
  obtain ⟨hdeclared,hextra⟩ := List.append_inj hmembers hlen
  refine ⟨hextra,?_⟩
  have hcrashes : d.crashes.map SyzbotCrash.toJson = d'.crashes.map SyzbotCrash.toJson := by
    have hitem := congrArg (fun members => members[8]?) hdeclared
    simpa [SyzbotData.members,cleanBugFields] using hitem
  -- The declared fields of a crash are fifteen.
  let undeclared : Json → Extra
    | .obj members => members.drop 15
    | _ => []
  have hread : ∀ crash : SyzbotCrash, undeclared crash.toJson = crash.extra := fun _ => rfl
  have hmap := congrArg (List.map undeclared) hcrashes
  simpa only [List.map_map,Function.comp_def,hread] using hmap

/-- `kBench.json` is the same exactly if the undeclared fields are. -/
theorem kBench_eq_iff (h : withoutGroundTruth d = withoutGroundTruth d') (copy copy' : ℕ) :
    (inv.prepared copy d).kBench = (inv.prepared copy' d').kBench ↔ SameExtra d d' := by
  have hbug := bugId_of_withoutGroundTruth h
  unfold Invocation.prepared
  rw [Json.text_inj]
  constructor
  · intro hjson
    apply sameExtra_of_toJson
    simp only [AgentInvoker.kbenchData,Json.obj.injEq,List.cons.injEq,Prod.mk.injEq,
      Json.arr.injEq,true_and,and_true] at hjson
    exact hjson.1
  · intro hextra
    rw [cleanBugFields_eq h hextra,hbug]
    rfl

lemma sameExtra_of_leaksNothing (h : withoutGroundTruth d = withoutGroundTruth d')
    (hleak : LeaksNothing inv d d') : SameExtra d d' := by
  obtain ⟨prepared,prepared',after,after',hinvoke,hinvoke',hbench,-⟩ :=
    hleak [d] [d'] 0 0 rfl rfl
  rw [invoke_eq rfl,Option.some.injEq,Prod.mk.injEq] at hinvoke hinvoke'
  rw [← hinvoke.1,← hinvoke'.1] at hbench
  exact (kBench_eq_iff h _ _).mp hbench

/-- Of two bugs that agree but for the truth about their fix the agent is given the same exactly if
their records, and those of their crashes, keep the same undeclared fields. -/
theorem leaksNothing_iff (inv : Invocation) (d d' : SyzbotData)
    (h : withoutGroundTruth d = withoutGroundTruth d') :
    LeaksNothing inv d d' ↔ SameExtra d d' := by
  refine ⟨sameExtra_of_leaksNothing h,?_⟩
  intro hextra heap heap' bug bug' hd hd'
  refine ⟨_,_,_,_,invoke_eq hd,invoke_eq hd',(kBench_eq_iff h _ _).mpr hextra,
    dockerCmd_eq (bugId_of_withoutGroundTruth h) _ _,?_,?_⟩
  · exact @getElem?_of_invoke inv _ _ _ _ _ hd (invoke_eq hd)
  · exact @getElem?_of_invoke inv _ _ _ _ _ hd' (invoke_eq hd')

/-- A bug of which nothing is known but that it is fixed. -/
def fixedBug : SyzbotData where
  version := 1
  title := "KASAN: use-after-free"
  displayTitle := ""
  bugId := "bug"
  status := "fixed"
  fixCommits := []
  causeCommit := none
  discussions := []
  crashes := []
  patchModifiedFunctions := none
  patchCommitDate := none
  causeCommitDate := none
  subsystems := none
  parentOfFixCommit := none
  patch := none
  patchMessage := none
  patchModifiedFiles := none
  rawCrashReport := none
  cleanCrashReport := none
  crashKernelId := none
  causeModifiedFunctions := none
  userspaceImage := some "buildroot.raw"
  extra := []

def plainInvocation : Invocation where
  env := ⟨⟨"/",["root"]⟩,fun _ => true,fun _ => "d41d8cd98f00b204","/tmp/kenv-bug-0",
    ⟨"/",["models"]⟩⟩
  config := ⟨"http://localhost:8000",⟨"/",["workspace"]⟩,none,none,4000⟩
  agentConfig := ⟨"mini-swe-agent","default","model",false⟩
  baseCommit := .parentCommit
  statefulEdit := false
  kcache := ⟨"0000000a"⟩

/-- `fixedBug` with its fix. -/
def patchedBug : SyzbotData :=
  { fixedBug with
    patch := some "diff --git a/mm/slub.c b/mm/slub.c"
    patchModifiedFiles := some ["mm/slub.c"]
    discussions := ["https://lore.kernel.org/"] }

theorem leaksNothing_patchedBug : LeaksNothing plainInvocation fixedBug patchedBug :=
  (leaksNothing_iff plainInvocation fixedBug patchedBug rfl).mpr ⟨rfl,rfl⟩

/-- `fixedBug` with its fix in a field that the model does not declare. -/
def leakingBug : SyzbotData := { fixedBug with extra := [("fix",.str "mm/slub.c")] }

/-- What the model does not declare is handed to the agent. -/
theorem not_leaksNothing : ¬ ∀ (inv : Invocation) (d d' : SyzbotData),
    inv.agentConfig.oracleMode = false → withoutGroundTruth d = withoutGroundTruth d' →
      LeaksNothing inv d d' := by
  intro h
  have hsame : withoutGroundTruth fixedBug = withoutGroundTruth leakingBug := rfl
  have hextra := sameExtra_of_leaksNothing hsame (h plainInvocation fixedBug leakingBug rfl hsame)
  exact absurd (congrArg List.length hextra.1) (by decide)

end Leak
end LiveKBench.KArena
