import LiveKBench.KClient.Agentic
import LiveKBench.KCore.Worker
import LiveKBench.KPreBuilder.AnalyzeBinary
import LiveKBench.Lib.JsonText
import LiveKBench.Lib.Play

/-! `PrebuildTask.on_task`: the patches of an argument are applied, compiled and taken back one
after the other in one checkout of the kernel. -/
namespace LiveKBench.KPreBuilder
open KCore KClient Lib Lib.Coroutine Lib.TaskGroup

/-- `extra` holds what a request gives beyond the fields of the model. -/
structure KPreBuilderArgument where
  kCache : JobResource
  patches : List String
  extra : List (String × Json)

inductive PatchResultStatus
  | patchUnapplicable
  | compilationError
  | patchApplicable
  deriving DecidableEq, Repr

structure PatchResult where
  status : PatchResultStatus
  modifiedFiles : List String
  deriving DecidableEq, Repr

/-- What `ret` collects: a `PatchResult`, or a dictionary with a `patch-status` and the
`modified-files`, each a file's name with its functions. -/
inductive Entry
  | patchResult (result : PatchResult)
  | dict (patchStatus : String) (modifiedFiles : List (String × List ModifiedFunction))
  deriving DecidableEq, Repr

/-- The status that an entry tells. -/
def Entry.status? : Entry → Option PatchResultStatus
  | .patchResult result => some result.status
  | .dict patchStatus _ =>
    if patchStatus = "compilation-error" then some .compilationError
    else if patchStatus = "success" then some .patchApplicable
    else none

/-- What the task's code returns: `self.pending_result`, with these `patchResults`, or the list. -/
inductive Returned
  | pendingResult (patchResults : Option (List PatchResult))
  | list (ret : List Entry)
  deriving DecidableEq, Repr

/-- What the task's code raises. -/
inductive TaskError
  | exception (e : PyException)
  | cancelled (args : List String)
  deriving DecidableEq, Repr

/-- The texts of `utils.py` that are written into a checkout. -/
inductive SeedText
  | kernelSeed
  | kernelModuleSigningKey
  deriving DecidableEq, Repr

inductive Request
  | reportJobLog (message : String)
  | downloadResource (key : Json) (localPath : String)
  | makedirs (path : String)
  | remove (path : String)
  | pathExists (path : String)
  | readFile (path : String)
  | writeFile (path : String) (content : SeedText)
  /-- A process that is started and awaited. -/
  | exec (argv : List String) (cwd stdin : Option String)
  /-- A process of which the lines that it prints are read. -/
  | output (argv : List String)

abbrev Answer : Request → Type
  | .pathExists _ => Bool
  | .readFile _ => String
  | .exec _ _ _ => ℤ
  | .output _ => List String
  | _ => Unit

abbrev PrebuildM := Coroutine Request Answer TaskError

abbrev Exchange := Coroutine.Exchange Request Answer TaskError

def ask (r : Request) : PrebuildM (Answer r) := request r

def exec (argv : List String) (cwd stdin : Option String) : PrebuildM ℤ :=
  ask (.exec argv cwd stdin)

/-- A part of the code that awaits nothing. -/
def call {α : Type} (x : Except TaskError α) : PrebuildM α := Coroutine.ofExcept x

def pyError (typeName : String) : TaskError := .exception (.other typeName)

/-- A `JobExceptionError`; its content is null where the source gives none. -/
def jobError (code content : String) : TaskError := .exception (.jobExceptionError code content)

/-- What is outside of the repository: the paths that `PatchSet` finds in a patch, and `str` of a
value other than a text. -/
structure Outside where
  patchSet : String → Except TaskError (List String)
  str : Json → String

/-! ## `CheckoutManager` -/

def patchArgs : List String := ["patch","-p1","--forward","-r","-"]

def applyPatch (checkoutPath patch : String) : PrebuildM Bool := do
  let code ← exec patchArgs (some checkoutPath) (some patch)
  pure (code = 0)

def applyReversePatch (checkoutPath patch : String) : PrebuildM Bool := do
  let code ← exec (patchArgs ++ ["-R"]) (some checkoutPath) (some patch)
  pure (code = 0)

/-- One of the files of `ensure_reproducible`, where its directory is there. -/
def ensureFile (directory name : String) (content : SeedText) : PrebuildM Unit := do
  let found ← ask (.pathExists directory)
  if found then ask (.writeFile (osPathJoin directory name) content)
  else pure ()

def ensureReproducible (checkoutPath : String) : PrebuildM Unit := do
  ensureFile (osPathJoin (osPathJoin checkoutPath "scripts") "gcc-plugins")
    "randomize_layout_seed.h" .kernelSeed
  ensureFile (osPathJoin checkoutPath "certs") "signing_key.pem" .kernelModuleSigningKey

/-! ## `PrebuildTask` -/

/-- `name[:-2]`. -/
def stem (name : String) : String := String.ofList (name.toList.take (name.toList.length-2))

/-- `fname[-2:] == '.c'`. -/
def isSource (fname : String) : Bool := fname.toList.drop (fname.toList.length-2) = ['.','c']

/-- The objects of the sources of a patch, with a log line for each other file. -/
def targetObjects (i : ℕ) : List String → PrebuildM (List String)
  | [] => pure []
  | fname :: fnames =>
    if isSource fname then do
      let objects ← targetObjects i fnames
      pure ((stem fname ++ ".o") :: objects)
    else do
      ask (.reportJobLog s!"Neglecting file {fname} in patch {i}")
      targetObjects i fnames

def makeArgv (makeArgs objects : List String) : List String :=
  "make" :: (makeArgs ++ ["-j4","KCFLAGS=\"-fno-inline\""] ++ objects)

/-- The object of the patched tree. -/
def newObject (object : String) : String := stem object ++ "_new.o"

/-- One task of the first `gather`; here they run in the order of the list. -/
def mvTargetObject (checkoutPath object : String) : PrebuildM Unit := do
  let _ ← exec ["mv",object,newObject object] (some checkoutPath) none
  pure ()

/-- One task of the second `gather`. -/
def compareBinary (checkoutPath object : String) :
    PrebuildM (String × List ModifiedFunction) := do
  let lines1 ← ask (.output ["objdump","-d","-l",osPathJoin checkoutPath object])
  let lines2 ← ask (.output ["objdump","-d","-l",osPathJoin checkoutPath (newObject object)])
  let modifiedFunctions := compareBinariesSubutil lines1 lines2 (stem object ++ ".c")
  let _ ← exec ["rm",newObject object] (some checkoutPath) none
  pure (stem object ++ ".c",modifiedFunctions)

section Task
variable (outside : Outside)

/-- The rest of a round once the patched tree compiled. -/
def compareTrees (checkoutPath : String) (makeArgs : List String) (patch : String)
    (objects : List String) : PrebuildM Entry := do
  let _ ← objects.mapM' (mvTargetObject checkoutPath)
  if !(← applyReversePatch checkoutPath patch) then
    throw (jobError "Reverse patch unapplicable" "null")
  else do
    let _ ← exec (makeArgv makeArgs objects) (some checkoutPath) none
    let modifiedFiles ← objects.mapM' (compareBinary checkoutPath)
    pure (.dict "success" modifiedFiles)

/-- The rest of a round once the patch applied. -/
def compilePatch (checkoutPath : String) (makeArgs : List String) (i : ℕ) (patch : String)
    (patchSet : List String) : PrebuildM Entry := do
  ask (.reportJobLog s!"Successful patch application: {i}")
  ensureReproducible checkoutPath
  let objects ← targetObjects i patchSet
  let code ← exec (makeArgv makeArgs objects) (some checkoutPath) none
  if code ≠ 0 then do
    if !(← applyReversePatch checkoutPath patch) then
      throw (jobError "Reverse patch unapplicable" "null")
    else
      pure (.dict "compilation-error" [])
  else compareTrees checkoutPath makeArgs patch objects

/-- One round of the loop over the patches. -/
def prebuildPatch (checkoutPath : String) (makeArgs : List String) (i : ℕ) (patch : String) :
    PrebuildM Entry := do
  let patchSet ← call (outside.patchSet patch)
  if !(← applyPatch checkoutPath patch) then
    ask (.reportJobLog s!"Unsuccessful patch application: {i}")
    if !(← applyReversePatch checkoutPath patch) then
      throw (jobError "kprebuilder.PatchReverseFailed" "Reverse patch unapplicable")
    else
      pure (.patchResult ⟨.patchUnapplicable,[]⟩)
  else compilePatch checkoutPath makeArgs i patch patchSet

/-- The loop over the patches. -/
def prebuildPatches (checkoutPath : String) (makeArgs : List String) :
    ℕ → List String → List Entry → PrebuildM (List Entry)
  | _,[],ret => pure ret
  | i,patch :: patches,ret => do
    let entry ← prebuildPatch outside checkoutPath makeArgs i patch
    prebuildPatches checkoutPath makeArgs (i+1) patches (ret ++ [entry])

def kcacheFilename : String := "kcache.tar.zstd"

def pullFromKcache (cwd : String) (kcacheKey : Json) : PrebuildM String := do
  ask (.reportJobLog "Pulling source from kcache")
  let kcacheLocalPath := osPathJoin cwd kcacheFilename
  ask (.downloadResource kcacheKey kcacheLocalPath)
  let checkoutPath := osPathJoin cwd "linux"
  ask (.makedirs checkoutPath)
  let code ← exec ["tar","-x","--use-compress-program=zstdmt","-f",kcacheLocalPath,"-C",
    checkoutPath] none none
  if code ≠ 0 then
    throw (jobError "kprebuilder.FailedUntarError" s!"Failed to untar the {kcacheFilename}")
  else do
    ask (.remove kcacheLocalPath)
    pure checkoutPath

/-- `self.argument.cacheKey`: the model has no such field, so it is looked up in the extra ones. -/
def KPreBuilderArgument.cacheKey (argument : KPreBuilderArgument) : Except TaskError Json :=
  match argument.extra.lookup "cacheKey" with
  | some key => .ok key
  | none => .error (pyError "builtins.AttributeError")

/-- `self.argument[name]`: the class of a model has no `__getitem__`. -/
def KPreBuilderArgument.getItem (_ : KPreBuilderArgument) (_name : String) :
    Except TaskError (List String) :=
  .error (pyError "builtins.TypeError")

/-- `kcache_cfg[name]`; of two members of one name the last one counts. -/
def configItem (config : Json) (name : String) : Except TaskError Json :=
  match config with
  | .obj members =>
    match members.reverse.lookup name with
    | some value => .ok value
    | none => .error (pyError "builtins.KeyError")
  | _ => .error (pyError "builtins.TypeError")

/-- The name of an architecture in the arguments of `make`. -/
def archName : Json → Except TaskError String
  | .str "amd64" => .ok "x86_64"
  | .str "386" => .ok "i386"
  | .arr _ => .error (pyError "builtins.TypeError")
  | .obj _ => .error (pyError "builtins.TypeError")
  | _ => .error (pyError "builtins.KeyError")

/-- A value in a formatted text. -/
def Outside.format : Json → String
  | .str s => s
  | value => outside.str value

def makeArguments (config : Json) : Except TaskError (List String) := do
  let arch ← archName (← configItem config "kernel-arch")
  let compiler ← configItem config "compiler"
  let linker ← configItem config "linker"
  pure ["ARCH=" ++ arch,"CC=" ++ outside.format compiler,"LD=" ++ outside.format linker]

def jsonLoads (text : String) : Except TaskError Json :=
  match Json.loads text.toList with
  | some value => .ok value
  | none => .error (pyError "json.decoder.JSONDecodeError")

/-- `on_task` in the directory `cwd`, from the validated argument on. -/
def onTask (cwd : String) (argument : KPreBuilderArgument) : PrebuildM Returned := do
  let cacheKey ← call argument.cacheKey
  let checkoutPath ← pullFromKcache cwd cacheKey
  let text ← ask (.readFile (osPathJoin checkoutPath "kcache.json"))
  let kcacheCfg ← call (jsonLoads text)
  let makeArgs ← call (makeArguments outside kcacheCfg)
  let patches ← call (argument.getItem "patches")
  let ret ← prebuildPatches outside checkoutPath makeArgs 0 patches []
  pure (.list ret)

/-! ## What the rounds tell -/

/-- The code with which the first of these processes exited. -/
def exitCode? (p : List String → Bool) (round : List Exchange) : Option ℤ :=
  round.findSome? fun
    | ⟨.exec argv _ _,.ok code⟩ => if p argv then some code else none
    | _ => none

def isApply (argv : List String) : Bool := argv = patchArgs

def isReverse (argv : List String) : Bool := argv = patchArgs ++ ["-R"]

def isMake (argv : List String) : Bool := argv.head? = some "make"

/-- The status of a patch by its own round. -/
def statusIn (round : List Exchange) : PatchResultStatus :=
  if exitCode? isApply round ≠ some 0 then .patchUnapplicable
  else if exitCode? isMake round ≠ some 0 then .compilationError
  else .patchApplicable

section Rounds
variable {p : List String → Bool} {outside : Outside} {checkoutPath patch : String}
  {makeArgs argv : List String} {history : List Exchange} {i : ℕ}

@[simp] lemma plays_ask {r : Request} {x : Except TaskError (Answer r)} :
    (ask r).Plays history x ↔ history = [⟨r,x⟩] := plays_request

@[simp] lemma plays_call {α : Type} {x y : Except TaskError α} :
    (call x).Plays history y ↔ history = [] ∧ y = x := plays_ofExcept

@[simp] lemma plays_exec {cwd stdin : Option String} {x : Except TaskError ℤ} :
    (exec argv cwd stdin).Plays history x ↔ history = [⟨.exec argv cwd stdin,x⟩] := plays_request

lemma exitCode?_append (earlier later : List Exchange) :
    exitCode? p (earlier ++ later) = (exitCode? p earlier).or (exitCode? p later) :=
  List.findSome?_append

lemma exitCode?_exec {cwd stdin : Option String} {code : ℤ} {rest : List Exchange} :
    exitCode? p (⟨.exec argv cwd stdin,.ok code⟩ :: rest) =
      if p argv then some code else exitCode? p rest := by
  by_cases hp : p argv = true
  · simp [exitCode?,hp]
  · simp [exitCode?,hp]

lemma exitCode?_reportJobLog {message : String} {x : Except TaskError Unit}
    {rest : List Exchange} :
    exitCode? p (⟨.reportJobLog message,x⟩ :: rest) = exitCode? p rest := rfl

/-- Of a process that none of the looked for started nothing is told. -/
lemma exitCode?_append_eq_none {earlier later : List Exchange} (h : exitCode? p earlier = none)
    (h' : exitCode? p later = none) : exitCode? p (earlier ++ later) = none := by
  rw [exitCode?_append,h,h',Option.or_none]

lemma exitCode?_ensureFile {directory name : String} {content : SeedText} {x : Except TaskError Unit}
    (h : (ensureFile directory name content).Plays history x) : exitCode? p history = none := by
  obtain ⟨found,earlier,later,rfl,hask,hrest⟩ | ⟨e,-,hask⟩ := plays_bind.mp h
  · rw [plays_ask.mp hask]
    cases found with
    | true =>
      rw [plays_ask.mp hrest]
      rfl
    | false =>
      rw [(plays_pure.mp hrest).1]
      rfl
  · rw [plays_ask.mp hask]
    rfl

lemma exitCode?_ensureReproducible {x : Except TaskError Unit}
    (h : (ensureReproducible checkoutPath).Plays history x) : exitCode? p history = none := by
  obtain ⟨⟨⟩,earlier,later,rfl,hfirst,hsecond⟩ | ⟨e,-,hfirst⟩ := plays_bind.mp h
  · exact exitCode?_append_eq_none (exitCode?_ensureFile hfirst) (exitCode?_ensureFile hsecond)
  · exact exitCode?_ensureFile hfirst

lemma exitCode?_targetObjects {fnames objects : List String}
    (h : (targetObjects i fnames).Plays history (.ok objects)) : exitCode? p history = none := by
  induction fnames generalizing history objects with
  | nil =>
    rw [(plays_pure.mp h).1]
    rfl
  | cons fname fnames ih =>
    unfold targetObjects at h
    by_cases hsource : isSource fname = true
    · rw [if_pos hsource] at h
      obtain ⟨rest,earlier,later,rfl,hrest,hpure⟩ := plays_bind_ok.mp h
      rw [(plays_pure.mp hpure).1,List.append_nil]
      exact ih hrest
    · rw [if_neg hsource] at h
      obtain ⟨⟨⟩,earlier,later,rfl,hlog,hrest⟩ := plays_bind_ok.mp h
      rw [plays_ask.mp hlog]
      exact exitCode?_append_eq_none rfl (ih hrest)

/-- A patch is applied, forward or in reverse, by one process. -/
lemma plays_applyPatch {applied : Bool} (h : (applyPatch checkoutPath patch).Plays history
    (.ok applied)) : ∃ code : ℤ, applied = decide (code = 0) ∧
      history = [⟨.exec patchArgs (some checkoutPath) (some patch),.ok code⟩] := by
  obtain ⟨code,earlier,later,rfl,hexec,hpure⟩ := plays_bind_ok.mp h
  refine ⟨code,Except.ok.inj (plays_pure.mp hpure).2,?_⟩
  rw [plays_exec.mp hexec,(plays_pure.mp hpure).1,List.append_nil]

lemma plays_applyReversePatch {reversed : Bool} (h : (applyReversePatch checkoutPath patch).Plays
    history (.ok reversed)) : ∃ code : ℤ, reversed = decide (code = 0) ∧
      history = [⟨.exec (patchArgs ++ ["-R"]) (some checkoutPath) (some patch),.ok code⟩] := by
  obtain ⟨code,earlier,later,rfl,hexec,hpure⟩ := plays_bind_ok.mp h
  refine ⟨code,Except.ok.inj (plays_pure.mp hpure).2,?_⟩
  rw [plays_exec.mp hexec,(plays_pure.mp hpure).1,List.append_nil]

/-- Where a round goes on after taking its patch back, the patch was taken back. -/
lemma plays_reversed {α : Type} {c : PrebuildM α} {e : TaskError} {a : α}
    (h : (do
      if !(← applyReversePatch checkoutPath patch) then throw e
      else c : PrebuildM α).Plays history (.ok a)) :
    ∃ later, history = ⟨.exec (patchArgs ++ ["-R"]) (some checkoutPath) (some patch),.ok 0⟩ ::
      later ∧ c.Plays later (.ok a) := by
  obtain ⟨reversed,earlier,later,rfl,happly,hrest⟩ := plays_bind_ok.mp h
  obtain ⟨code,rfl,rfl⟩ := plays_applyReversePatch happly
  by_cases hcode : code = 0
  · subst hcode
    exact ⟨later,rfl,hrest⟩
  · simp [hcode] at hrest

/-- What one round tells of its patch, and that it took the patch back. -/
structure Tells (round : List Exchange) (entry : Entry) : Prop where
  status : entry.status? = some (statusIn round)
  reversed : exitCode? isReverse round = some 0

lemma isMake_makeArgv {objects : List String} : isMake (makeArgv makeArgs objects) = true := by
  simp [isMake,makeArgv]

lemma isReverse_makeArgv {objects : List String} :
    isReverse (makeArgv makeArgs objects) = false := by
  simp [isReverse,makeArgv,patchArgs]

/-- The objects are moved away without a process that takes a patch back. -/
lemma exitCode?_mvTargetObjects {objects : List String} {units : List Unit}
    (h : (objects.mapM' (mvTargetObject checkoutPath)).Plays history (.ok units)) :
    exitCode? isReverse history = none := by
  apply history_of_plays_mapM' (P := fun history => exitCode? isReverse history = none) rfl ?_ ?_ h
  · intro earlier later
    exact exitCode?_append_eq_none
  · intro object history b hmv
    obtain ⟨code,earlier,later,rfl,hexec,hpure⟩ := plays_bind_ok.mp hmv
    rw [plays_exec.mp hexec,(plays_pure.mp hpure).1,List.append_nil,exitCode?_exec]
    rfl

lemma tells_compareTrees {objects : List String} {entry : Entry}
    (h : (compareTrees checkoutPath makeArgs patch objects).Plays history (.ok entry)) :
    entry.status? = some .patchApplicable ∧ exitCode? isReverse history = some 0 := by
  obtain ⟨units,moved,later,rfl,hmv,hback⟩ := plays_bind_ok.mp h
  obtain ⟨later',rfl,hmake⟩ := plays_reversed hback
  obtain ⟨code,make,later'',rfl,-,hcompare⟩ := plays_bind_ok.mp hmake
  obtain ⟨files,compared,last,rfl,-,hpure⟩ := plays_bind_ok.mp hcompare
  rw [Except.ok.inj (plays_pure.mp hpure).2]
  constructor
  · rfl
  · rw [exitCode?_append,exitCode?_mvTargetObjects hmv,exitCode?_exec]
    rfl

/-- The round of a patch that applied. -/
lemma tells_compilePatch {patchSet : List String} {entry : Entry}
    (h : (compilePatch checkoutPath makeArgs i patch patchSet).Plays history (.ok entry)) :
    entry.status? = some (if exitCode? isMake history ≠ some 0 then .compilationError
      else .patchApplicable) ∧ exitCode? isReverse history = some 0 := by
  obtain ⟨⟨⟩,log,later,rfl,hlog,hnext⟩ := plays_bind_ok.mp h
  obtain ⟨⟨⟩,ensured,later',rfl,hensure,hcollect⟩ := plays_bind_ok.mp hnext
  obtain ⟨objects,targets,later'',rfl,htargets,hmake⟩ := plays_bind_ok.mp hcollect
  obtain ⟨code,make,rest,rfl,hexec,hrest⟩ := plays_bind_ok.mp hmake
  rw [plays_ask.mp hlog,plays_exec.mp hexec]
  have hskip : ∀ p : List String → Bool,
      exitCode? p ([⟨.reportJobLog s!"Successful patch application: {i}",.ok ()⟩] ++
        (ensured ++ (targets ++ ([⟨.exec (makeArgv makeArgs objects) (some checkoutPath) none,
          .ok code⟩] ++ rest)))) =
        if p (makeArgv makeArgs objects) then some code else exitCode? p rest := by
    intro p
    rw [List.singleton_append,exitCode?_reportJobLog,exitCode?_append,exitCode?_append,
      exitCode?_ensureReproducible hensure,exitCode?_targetObjects htargets,
      List.singleton_append,exitCode?_exec]
    rfl
  rw [hskip,hskip,isMake_makeArgv,isReverse_makeArgv,if_pos rfl,if_neg Bool.false_ne_true]
  by_cases hcode : code = 0
  · subst hcode
    exact tells_compareTrees hrest
  · rw [if_pos hcode] at hrest
    obtain ⟨last,rfl,hpure⟩ := plays_reversed hrest
    rw [Except.ok.inj (plays_pure.mp hpure).2,if_pos fun h => hcode (Option.some.inj h),
      exitCode?_exec]
    exact ⟨rfl,rfl⟩

/-- One round: its entry is the one that the outcomes of its own processes call for. -/
lemma tells_prebuildPatch {entry : Entry}
    (h : (prebuildPatch outside checkoutPath makeArgs i patch).Plays history (.ok entry)) :
    Tells history entry := by
  obtain ⟨patchSet,parsed,later,rfl,hparse,hround⟩ := plays_bind_ok.mp h
  obtain ⟨applied,forward,rest,rfl,happly,hrest⟩ := plays_bind_ok.mp hround
  obtain ⟨code,rfl,rfl⟩ := plays_applyPatch happly
  rw [(plays_call.mp hparse).1,List.nil_append,List.singleton_append]
  by_cases hcode : code = 0
  · subst hcode
    obtain ⟨hstatus,hreversed⟩ := tells_compilePatch hrest
    refine ⟨hstatus.trans ?_,?_⟩
    · rw [statusIn,exitCode?_exec,exitCode?_exec]
      rfl
    · rw [exitCode?_exec]
      exact hreversed
  · simp only [hcode,decide_false,Bool.not_false,if_true] at hrest
    obtain ⟨⟨⟩,log,later,rfl,hlog,hback⟩ := plays_bind_ok.mp hrest
    obtain ⟨last,rfl,hpure⟩ := plays_reversed hback
    rw [Except.ok.inj (plays_pure.mp hpure).2,plays_ask.mp hlog]
    constructor
    · have happly : exitCode? isApply (⟨.exec patchArgs (some checkoutPath) (some patch),.ok code⟩ ::
          ([⟨.reportJobLog s!"Unsuccessful patch application: {i}",.ok ()⟩] ++
            ⟨.exec (patchArgs ++ ["-R"]) (some checkoutPath) (some patch),.ok 0⟩ :: last)) ≠
          some 0 := by
        rw [exitCode?_exec]
        exact fun h => hcode (Option.some.inj h)
      rw [statusIn,if_pos happly]
      rfl
    · rw [exitCode?_exec,List.singleton_append,exitCode?_reportJobLog,exitCode?_exec]
      rfl

/-- The loop: one entry for each patch, in the order of the patches. -/
theorem tells_prebuildPatches {patches : List String} {ret ret' : List Entry}
    (h : (prebuildPatches outside checkoutPath makeArgs i patches ret).Plays history (.ok ret')) :
    ∃ rounds entries, history = rounds.flatten ∧ ret' = ret ++ entries ∧
      rounds.length = patches.length ∧ List.Forall₂ Tells rounds entries := by
  induction patches generalizing i ret history with
  | nil =>
    rw [(plays_pure.mp h).1,Except.ok.inj (plays_pure.mp h).2]
    exact ⟨[],[],rfl,(List.append_nil ret).symm,rfl,.nil⟩
  | cons patch patches ih =>
    obtain ⟨entry,round,later,rfl,hround,hrest⟩ := plays_bind_ok.mp h
    obtain ⟨rounds,entries,rfl,rfl,hlength,htells⟩ := ih hrest
    refine ⟨round :: rounds,entry :: entries,rfl,?_,congrArg (·+1) hlength,
      .cons (tells_prebuildPatch hround) htells⟩
    rw [List.append_assoc,List.singleton_append]

end Rounds

end Task

/-! ## A run of the task -/

section Results
variable {Tree : Type} (after : Exchange → Tree → Tree) (checkout : Tree)

/-- The source tree after the requests of a history. -/
def treeAfter (history : List Exchange) : Tree :=
  history.foldl (fun tree exchange => after exchange tree) checkout

/-- The results match the patches: the pending result is returned, with a status for each patch in
their order that the patch's own round calls for, and a round whose patch does not apply or compile
leaves the tree as it found it. -/
def ResultsMatch (argument : KPreBuilderArgument) (history : List Exchange)
    (outcome : Except TaskError Returned) : Prop :=
  ∃ results before rounds, outcome = .ok (.pendingResult (some results)) ∧
    history = before ++ rounds.flatten ∧ rounds.length = argument.patches.length ∧
    results.map PatchResult.status = rounds.map statusIn ∧
    ∀ earlier round later, rounds = earlier ++ round :: later →
      statusIn round ≠ .patchApplicable →
        treeAfter after checkout (before ++ earlier.flatten ++ round) =
          treeAfter after checkout (before ++ earlier.flatten)

end Results

section Runs
variable {outside : Outside} {cwd : String} {argument : KPreBuilderArgument}
  {history : List Exchange} {outcome : Except TaskError Returned}

/-- The patches are never read, so that nothing is returned. -/
theorem not_plays_onTask_ok {returned : Returned} :
    ¬(onTask outside cwd argument).Plays history (.ok returned) := by
  intro h
  obtain ⟨cacheKey,_,_,-,-,hpull⟩ := plays_bind_ok.mp h
  obtain ⟨checkoutPath,_,_,-,-,hread⟩ := plays_bind_ok.mp hpull
  obtain ⟨text,_,_,-,-,hloads⟩ := plays_bind_ok.mp hread
  obtain ⟨kcacheCfg,_,_,-,-,hargs⟩ := plays_bind_ok.mp hloads
  obtain ⟨makeArgs,_,_,-,-,hpatches⟩ := plays_bind_ok.mp hargs
  obtain ⟨patches,_,_,-,hitem,-⟩ := plays_bind_ok.mp hpatches
  cases (plays_call.mp hitem).2

theorem exists_error_of_plays_onTask (h : (onTask outside cwd argument).Plays history outcome) :
    ∃ e, outcome = .error e := by
  cases outcome with
  | ok returned => exact absurd h not_plays_onTask_ok
  | error e => exact ⟨e,rfl⟩

/-- However the requests are answered, the task's code raises, and its results do not match the
patches. -/
theorem onTask_never_matches {Tree : Type} (after : Exchange → Tree → Tree) (checkout : Tree)
    (h : (onTask outside cwd argument).Plays history outcome) :
    (∃ e, outcome = .error e) ∧ ¬ResultsMatch after checkout argument history outcome := by
  refine ⟨exists_error_of_plays_onTask h,?_⟩
  rintro ⟨results,before,rounds,rfl,-⟩
  exact not_plays_onTask_ok h

/-- How the code of the task ended, for the worker. -/
def endingOf : Except TaskError Returned → Ending PyException (List String)
  | .ok _ => .completed
  | .error (.exception e) => .raised (.single e)
  | .error (.cancelled args) => .cancelled args

/-- Whatever the worker makes of code that raises has an exception in it. -/
lemma not_succeeded_of_awaited {run : TaskRun} {result : JobResult} (hrun : run.run = some result)
    (hraises : (∃ e, run.awaited = .raised (.single e)) ∨ ∃ args, run.awaited = .cancelled args) :
    result.succeeded = false := by
  unfold TaskRun.run at hrun
  obtain ⟨e,he⟩ | ⟨args,hargs⟩ := hraises
  · rw [he] at hrun
    cases e with
    | jobExceptionError code content =>
      cases hrun
      rfl
    | timeoutError typeName =>
      cases hrun
      exact Bool.and_false _
    | other typeName =>
      cases hrun
      exact Bool.and_false _
  · rw [hargs] at hrun
    cases hrun
    exact Bool.and_false _

/-- A worker reports no stage of this kind as done: the result has an exception in it. -/
theorem not_succeeded_of_onTask {run : TaskRun} {result : JobResult}
    (h : (onTask outside cwd argument).Plays history outcome)
    (hcode : run.code.ending = endingOf outcome) (hrun : run.run = some result) :
    result.succeeded = false := by
  apply not_succeeded_of_awaited hrun
  obtain ⟨e,rfl⟩ := exists_error_of_plays_onTask h
  unfold TaskRun.awaited
  rw [hcode]
  cases e with
  | exception e => cases run.budget <;> exact .inl ⟨_,rfl⟩
  | cancelled args =>
    cases run.budget with
    | inTime => exact .inr ⟨_,rfl⟩
    | cancelledTask => exact .inl ⟨_,rfl⟩
    | cancelledAwait => exact .inl ⟨_,rfl⟩

end Runs

/-! A run in which every request is answered: the archive is unpacked and tells the compiler. -/

def kcacheJson : String :=
  "\x7b\"kernel-arch\": \"amd64\", \"compiler\": \"gcc\", \"linker\": \"ld\"\x7d"

def answers : (r : Request) → Except TaskError (Answer r)
  | .pathExists _ => .ok true
  | .readFile _ => .ok kcacheJson
  | .exec _ _ _ => .ok 0
  | .output _ => .ok []
  | .reportJobLog _ => .ok ()
  | .downloadResource _ _ => .ok ()
  | .makedirs _ => .ok ()
  | .remove _ => .ok ()
  | .writeFile _ _ => .ok ()

def outside : Outside where
  patchSet _ := .ok []
  str _ := ""

def onePatch : KPreBuilderArgument where
  kCache := ⟨"k","s"⟩
  patches := ["p"]
  extra := [("cacheKey",.str "k")]

/-- Every request is answered, and the argument is not subscriptable. -/
theorem onTask_raises_on_onePatch :
    ¬∀ (outside : Outside) (cwd : String) (argument : KPreBuilderArgument)
      (history : List Exchange) (outcome : Except TaskError Returned),
      (onTask outside cwd argument).Plays history outcome →
        ResultsMatch (fun _ tree => tree) () argument history outcome := by
  intro h
  have hplays := plays_run answers (onTask outside "/w" onePatch)
  have hraised : ((onTask outside "/w" onePatch).run answers).2 =
      .error (pyError "builtins.TypeError") := by decide +kernel
  obtain ⟨results,before,rounds,hreturned,-⟩ := h _ _ _ _ _ hplays
  rw [hraised] at hreturned
  cases hreturned

theorem onTask_never_matches_onePatch :
    (∃ e, ((onTask outside "/w" onePatch).run answers).2 = .error e) ∧
      ¬ResultsMatch (fun _ tree => tree) () onePatch
        (((onTask outside "/w" onePatch).run answers).1.map fun r => ⟨r,answers r⟩)
        ((onTask outside "/w" onePatch).run answers).2 :=
  onTask_never_matches (fun _ tree => tree) () (plays_run answers (onTask outside "/w" onePatch))

end LiveKBench.KPreBuilder
