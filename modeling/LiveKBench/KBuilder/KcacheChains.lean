import LiveKBench.KBuilder.BuildTask
import LiveKBench.KCore.ResourceKeys

/-! Where a kCache comes from. Every kCache in the storage derives from a commit: a job has checked
it out and built it, and further jobs, each on the kCache of the one before, have applied their
patches and built again. The configuration of the commit goes along in `kcache.json`. -/
namespace LiveKBench.KBuilder
open KCore
open KArenaPipeline (KernelSource KernelGitCommit KBuilderArgument)
open Lib

/-- `ensure_reproducible` on a tree. -/
def Tree.ensure (directory path text : String) (tree : Tree) : Tree :=
  if (tree directory).isSome then tree.write path text else tree

def Tree.ensureReproducible (seedText : KPreBuilder.SeedText → String) (tree : Tree) : Tree :=
  (tree.ensure "scripts/gcc-plugins" "scripts/gcc-plugins/randomize_layout_seed.h"
    (seedText .kernelSeed)).ensure "certs" "certs/signing_key.pem"
    (seedText .kernelModuleSigningKey)

/-- What a tree says of its configuration. -/
def Tree.Configured (tree : Tree) (kcacheCfg : Json) : Prop :=
  ∃ text, tree.text? "kcache.json" = some text ∧ Json.loads text.toList = some kcacheCfg

section Derivations
variable {Ω : Type} (site : Site Ω) (argument : Slot → KBuilderArgument)

/-- The tree of a commit, with some of the backports picked. -/
inductive Scratch (commit : KernelGitCommit) : Tree → Prop
  | checkout (ω ω' : Ω) : Scratch commit
      (site.checkout ω' commit.commitId (site.clone ω (site.localPath commit.gitUrl)))
  | cherryPick {tree : Tree} (before : Scratch commit tree) (ω : Ω) (succeeded : Bool)
      {backport : BackportCommit} (listed : backport ∈ site.backportCommits) :
      Scratch commit (site.cherryPick ω succeeded backport.forceMerge backport.fixHash tree)

/-- The tree on which `make` is called. -/
inductive Patched (patch : String) (kcacheCfg : Json) (source : Tree) : Tree → Prop
  | unpatched (empty : patch = "") : Patched patch kcacheCfg source
      ((source.write "kcache.json" (dumpsCfg kcacheCfg)).ensureReproducible site.seedText)
  | applied (nonempty : patch ≠ "") (ω : Ω) : Patched patch kcacheCfg source
      ((site.apply ω patch (source.write "kcache.json" (dumpsCfg kcacheCfg))).ensureReproducible
        site.seedText)

/-- What a job makes of its source. -/
inductive Made (patch : String) (kcacheCfg : Json) (source : Tree) : Tree → Prop
  | mk {tree : Tree} (patched : Patched site patch kcacheCfg source tree)
      {arguments : List String} {builder : ℕ}
      (accepted : makeArguments (site.cpuCount builder) kcacheCfg = .ok arguments)
      (ω ω' ω'' : Ω) : Made patch kcacheCfg source
      (site.deliver ω'' (site.make ω' arguments (site.oldconfig ω arguments tree)))

/-- The tree of a kCache with this key, as the arguments of the jobs let it come about. -/
inductive Derives : String → Tree → Prop
  | scratch {slot : Slot} {commit : KernelGitCommit} {tree tree' : Tree}
      (source : (argument slot).kernelSource = .gitCommit commit)
      (checkout : Scratch site commit tree)
      (made : Made site (argument slot).patch (commitCfg commit)
        (tree.write ".config" commit.kConfig) tree') : Derives slot.kcacheKey tree'.rmtreeGit
  | kcache {slot : Slot} {resource : JobResource} {tree tree' : Tree} {kcacheCfg : Json}
      (source : (argument slot).kernelSource = .kcache resource)
      (before : Derives resource.key tree) (configured : tree.Configured kcacheCfg)
      (made : Made site (argument slot).patch kcacheCfg tree tree') :
      Derives slot.kcacheKey tree'.rmtreeGit

/-- A source of a job, with its configuration. -/
inductive SourceOf (slot : Slot) : Json → Tree → Prop
  | scratch {commit : KernelGitCommit} {tree : Tree}
      (source : (argument slot).kernelSource = .gitCommit commit)
      (checkout : Scratch site commit tree) :
      SourceOf slot (commitCfg commit) (tree.write ".config" commit.kConfig)
  | kcache {resource : JobResource} {tree : Tree} {kcacheCfg : Json}
      (source : (argument slot).kernelSource = .kcache resource)
      (before : Derives site argument resource.key tree) (configured : tree.Configured kcacheCfg) :
      SourceOf slot kcacheCfg tree

lemma SourceOf.derives {slot : Slot} {kcacheCfg : Json} {source tree : Tree}
    (h : SourceOf site argument slot kcacheCfg source)
    (hmade : Made site (argument slot).patch kcacheCfg source tree) :
    Derives site argument slot.kcacheKey tree.rmtreeGit := by
  cases h with
  | scratch hsource checkout => exact .scratch hsource checkout hmade
  | kcache hsource before configured => exact .kcache hsource before configured hmade

/-- `make` is called as the configuration of the source says. -/
def MakesFor (delivery : Delivery) (arguments : List String) : Prop :=
  ∃ kcacheCfg source, SourceOf site argument delivery.slot kcacheCfg source ∧
    makeArguments (site.cpuCount delivery.builder) kcacheCfg = .ok arguments

/-! ## What a task does in its working directory -/

/-- A task of a stage, with what is in its working directory. -/
structure Phase where
  delivery : Delivery
  work : Workspace

/-- The requests that leave the working directory alone, whatever they are answered. -/
def quiet : Request → Bool
  | .reportJobLog _ => true
  | .downloadImage _ => true
  | .getCommitIdByMessage _ => true
  | .checkoutExists => true
  | .fileEmpty _ => true
  | .startUpload _ => true
  | .awaitUpload _ => true
  | .getResourceUrl _ => true
  | _ => false

/-- What an awaited request does in the working directory. -/
inductive Effect (w : Workspace) : (r : Request) → Except TaskError r.Answer → Workspace → Prop
  | raised {r e} : Effect w r (.error e) w
  | quiet {r a} (h : quiet r = true) : Effect w r (.ok a) w
  | getRepository {gitUrl} : Effect w (.getRepository gitUrl) (.ok (site.localPath gitUrl)) w
  | downloadResource {key blob} (derives : ∀ tree, blob = .kcache tree →
      Derives site argument key tree) :
      Effect w (.downloadResource key) (.ok ()) { w with kcacheFile := some blob }
  | pathExists {tree path} (h : w.checkout = some tree) :
      Effect w (.pathExists path) (.ok (tree path).isSome) w
  | rmtreeCheckout : Effect w .rmtreeCheckout (.ok ()) { w with checkout := none }
  | makedirs : Effect w .makedirs (.ok ()) { w with checkout := some .empty }
  | removeKcache : Effect w .removeKcache (.ok ()) { w with kcacheFile := none }
  | rmtreeGit {tree} (h : w.checkout = some tree) :
      Effect w .rmtreeGit (.ok ()) { w with checkout := some tree.rmtreeGit }
  | readFile {tree path text} (h : w.checkout = some tree) (htext : tree.text? path = some text) :
      Effect w (.readFile path) (.ok text) w
  | writeFile {tree path text} (h : w.checkout = some tree) :
      Effect w (.writeFile path text) (.ok ()) { w with checkout := some (tree.write path text) }
  | process {command w'} (ω : Ω) (succeeded : Bool)
      (h : command.exec site ω succeeded w = some w') :
      Effect w (.process command) (.ok succeeded) w'
  | deliver (ω : Ω) : Effect w .deliver (.ok ())
      { w with checkout := w.checkout.map (site.deliver ω) }

/-- What a task uploads as its kCache derives as it should, and so do its calls of `make`. -/
def allowed (t : Phase) : Request → Prop
  | .startUpload inFolderKey => inFolderKey = kcacheFilename →
      ∃ tree, t.work.kcacheFile = some (.kcache tree) ∧
        Derives site argument t.delivery.slot.kcacheKey tree
  | .process (.make arguments) => MakesFor site argument t.delivery arguments
  | _ => True

def protocol : Protocol Request Request.Answer TaskError Phase where
  allowed := allowed site argument
  leads t r x t' := t'.delivery = t.delivery ∧ Effect site argument t.work r x t'.work

end Derivations

def Anyhow (_ : Phase) (_ : Except TaskError Unit) : Prop := True

def firstPhase (delivery : Delivery) (_ : Unit) : Phase := ⟨delivery,⟨none,none⟩⟩

section Works
variable {Ω : Type} {site : Site Ω} {argument : Slot → KBuilderArgument} {α : Type} {d : Delivery}
  {w : Workspace} {tree : Tree}

lemma ask_follows {r : Request} {Q : Phase → Except TaskError r.Answer → Prop}
    (hallowed : allowed site argument ⟨d,w⟩ r)
    (h : ∀ x w', Effect site argument w r x w' → Q ⟨d,w'⟩ x) :
    (ask r).Follows (protocol site argument) Q ⟨d,w⟩ := by
  refine Coroutine.follows_request.mpr ⟨hallowed,?_⟩
  rintro x ⟨d',w'⟩ ⟨hdelivery,hx⟩
  obtain rfl : d' = d := hdelivery
  exact h x w' hx

/-- A request that leaves the working directory alone. -/
lemma quiet_follows {r : Request} {Q : Phase → Except TaskError r.Answer → Prop}
    (hr : quiet r = true) (hallowed : allowed site argument ⟨d,w⟩ r)
    (hok : ∀ a, Q ⟨d,w⟩ (.ok a)) (herror : ∀ t e, Q t (.error e)) :
    (ask r).Follows (protocol site argument) Q ⟨d,w⟩ := by
  refine ask_follows hallowed fun x w' hx => ?_
  cases hx with
  | raised => exact herror _ _
  | quiet h => exact hok _
  | _ => cases hr

lemma log_follows {message : String} {Q : Phase → Except TaskError Unit → Prop}
    (hok : Q ⟨d,w⟩ (.ok ())) (herror : ∀ t e, Q t (.error e)) :
    (ask (.reportJobLog message)).Follows (protocol site argument) Q ⟨d,w⟩ :=
  quiet_follows rfl trivial (fun _ => hok) herror

lemma ofExcept_follows {x : Except TaskError α} {t : Phase}
    {Q : Phase → Except TaskError α → Prop} (hok : ∀ a, x = .ok a → Q t (.ok a))
    (herror : ∀ t e, Q t (.error e)) :
    (Coroutine.ofExcept x : Work α).Follows (protocol site argument) Q t := by
  cases x with
  | error e => exact herror _ _
  | ok a => exact hok a rfl

/-- A process, with its effect where it has succeeded. -/
lemma process_follows {command : Command} {Q : Phase → Except TaskError Bool → Prop}
    (hallowed : allowed site argument ⟨d,w⟩ (.process command))
    (hok : ∀ ω succeeded w', command.exec site ω succeeded w = some w' → Q ⟨d,w'⟩ (.ok succeeded))
    (herror : ∀ t e, Q t (.error e)) :
    (process command).Follows (protocol site argument) Q ⟨d,w⟩ := by
  refine ask_follows hallowed fun x w' hx => ?_
  cases hx with
  | raised => exact herror _ _
  | quiet h => cases h
  | process ω succeeded h => exact hok ω succeeded w' h

lemma writeFile_follows {path text : String} {Q : Phase → Except TaskError Unit → Prop}
    (hw : w.checkout = some tree)
    (hok : Q ⟨d,{ w with checkout := some (tree.write path text) }⟩ (.ok ()))
    (herror : ∀ t e, Q t (.error e)) :
    (ask (.writeFile path text)).Follows (protocol site argument) Q ⟨d,w⟩ := by
  refine ask_follows trivial fun x w' hx => ?_
  cases hx with
  | raised => exact herror _ _
  | quiet h => cases h
  | writeFile h =>
    obtain rfl := Option.some.inj (hw.symm.trans h)
    exact hok

/-! ### The source -/

lemma pullFromKcache_follows {key : String} {Q : Phase → Except TaskError Unit → Prop}
    (hok : ∀ w tree, w.checkout = some tree → Derives site argument key tree →
      Q ⟨d,w⟩ (.ok ())) (herror : ∀ t e, Q t (.error e)) :
    (pullFromKcache key).Follows (protocol site argument) Q ⟨d,w⟩ := by
  refine Coroutine.follows_bind.mpr (log_follows ?_ herror)
  refine Coroutine.follows_bind.mpr (ask_follows trivial fun x w₁ hx => ?_)
  cases hx with
  | raised => exact herror _ _
  | quiet h => cases h
  | @downloadResource _ blob derives =>
    refine Coroutine.follows_bind.mpr (ask_follows trivial fun x w₂ hx => ?_)
    cases hx with
    | raised => exact herror _ _
    | quiet h => cases h
    | makedirs =>
      refine Coroutine.follows_bind.mpr (process_follows trivial ?_ herror)
      intro ω succeeded w₃ hw₃
      cases succeeded with
      | false => exact herror _ _
      | true =>
        cases blob with
        | other => cases hw₃
        | kcache tree =>
          cases hw₃
          refine ask_follows trivial fun x w₄ hx => ?_
          cases hx with
          | raised => exact herror _ _
          | quiet h => cases h
          | removeKcache => exact hok _ tree rfl (derives tree rfl)

lemma checkout_follows {remoteRepoUrl commitId : String} {Q : Phase → Except TaskError Unit → Prop}
    (hw : w.checkout = some tree)
    (hok : ∀ ω w, w.checkout = some (site.checkout ω commitId tree) → Q ⟨d,w⟩ (.ok ()))
    (herror : ∀ t e, Q t (.error e)) :
    (checkout remoteRepoUrl commitId).Follows (protocol site argument) Q ⟨d,w⟩ := by
  have hdone : ∀ (w : Workspace) ω w', w.checkout = some tree →
      (Command.checkout commitId).exec site ω true w = some w' → Q ⟨d,w'⟩ (.ok ()) := by
    intro w ω w' hw hw'
    cases hw'
    exact hok ω _ (by simp [hw])
  refine Coroutine.follows_bind.mpr (process_follows trivial ?_ herror)
  intro ω succeeded w₁ hw₁
  cases succeeded with
  | true => exact hdone w ω w₁ hw hw₁
  | false =>
    cases hw₁
    refine Coroutine.follows_bind.mpr (process_follows trivial ?_ herror)
    intro ω succeeded w₂ hw₂
    cases succeeded with
    | false => exact herror _ _
    | true =>
      cases hw₂
      refine Coroutine.follows_bind.mpr (process_follows trivial ?_ herror)
      intro ω succeeded w₃ hw₃
      cases succeeded with
      | false => exact herror _ _
      | true => exact hdone _ ω w₃ hw hw₃

lemma removeCheckout_follows {Q : Phase → Except TaskError Unit → Prop}
    (hok : ∀ w, Q ⟨d,w⟩ (.ok ())) (herror : ∀ t e, Q t (.error e)) :
    removeCheckout.Follows (protocol site argument) Q ⟨d,w⟩ := by
  refine Coroutine.follows_bind.mpr (quiet_follows rfl trivial (fun found => ?_) herror)
  cases found with
  | false => exact hok w
  | true =>
    refine ask_follows trivial fun x w' hx => ?_
    cases hx with
    | raised => exact herror _ _
    | quiet h => cases h
    | rmtreeCheckout => exact hok _

lemma cloneRepository_follows {localRepoPath remoteRepoUrl : String}
    {Q : Phase → Except TaskError Unit → Prop}
    (hok : ∀ ω w, w.checkout = some (site.clone ω localRepoPath) → Q ⟨d,w⟩ (.ok ()))
    (herror : ∀ t e, Q t (.error e)) :
    (cloneRepository localRepoPath remoteRepoUrl).Follows (protocol site argument) Q ⟨d,w⟩ := by
  refine Coroutine.follows_bind.mpr (log_follows ?_ herror)
  refine Coroutine.follows_bind.mpr (process_follows trivial ?_ herror)
  intro ω succeeded w₁ hw₁
  cases succeeded with
  | false => exact herror _ _
  | true =>
    cases hw₁
    refine Coroutine.follows_bind.mpr (process_follows trivial ?_ herror)
    intro _ succeeded w₂ hw₂
    cases succeeded with
    | false => exact herror _ _
    | true =>
      cases hw₂
      exact hok ω _ rfl

lemma cloneAndCheckout_follows {localRepoPath remoteRepoUrl commitId : String}
    {Q : Phase → Except TaskError Unit → Prop}
    (hok : ∀ ω ω' w, w.checkout = some (site.checkout ω' commitId (site.clone ω localRepoPath)) →
      Q ⟨d,w⟩ (.ok ())) (herror : ∀ t e, Q t (.error e)) :
    (cloneAndCheckout localRepoPath remoteRepoUrl commitId).Follows (protocol site argument) Q
      ⟨d,w⟩ := by
  refine Coroutine.follows_bind.mpr (removeCheckout_follows (fun w₁ => ?_) herror)
  refine Coroutine.follows_bind.mpr (cloneRepository_follows (fun ω w₂ hw₂ => ?_) herror)
  refine Coroutine.follows_bind.mpr (checkout_follows hw₂ (fun ω' w₃ hw₃ => ?_) herror)
  exact log_follows (hok ω ω' w₃ hw₃) herror

/-- Whether a backport is needed is found out without a change. -/
lemma getCherryPickCmdlet_follows {backport : BackportCommit}
    {Q : Phase → Except TaskError (Option (Bool × String)) → Prop}
    (hok : ∀ cmdlet : Option (Bool × String),
      (∀ args ∈ cmdlet, args = (backport.forceMerge,backport.fixHash)) → Q ⟨d,w⟩ (.ok cmdlet))
    (herror : ∀ t e, Q t (.error e)) :
    (getCherryPickCmdlet backport).Follows (protocol site argument) Q ⟨d,w⟩ := by
  have hproblematic : ∀ {R : Phase → Except TaskError Bool → Prop},
      (∀ problematic, R ⟨d,w⟩ (.ok problematic)) → (∀ t e, R t (.error e)) →
      (isProblematic backport).Follows (protocol site argument) R ⟨d,w⟩ := by
    intro R hR herror
    unfold isProblematic
    cases backport.guiltyHash with
    | none => exact hR true
    | some guiltyHash =>
      refine process_follows trivial ?_ herror
      intro ω succeeded w' hw'
      cases succeeded <;> cases hw' <;> exact hR _
  refine Coroutine.follows_bind.mpr (hproblematic (fun problematic => ?_) herror)
  cases problematic with
  | false => exact hok none fun _ h => nomatch h
  | true =>
    refine Coroutine.follows_bind.mpr (quiet_follows rfl trivial (fun found => ?_) herror)
    cases found with
    | some commitId => exact hok none fun _ h => nomatch h
    | none =>
      refine hok _ fun args h => ?_
      cases h
      rfl

/-- The cherry-picks are of listed backports. -/
def FromBackports (backports : List BackportCommit) (cmdlets : List (Option (Bool × String))) :
    Prop :=
  ∀ cmdlet ∈ cmdlets, ∀ args ∈ cmdlet,
    ∃ backport ∈ backports, args = (backport.forceMerge,backport.fixHash)

lemma cmdlets_follow {backports : List BackportCommit}
    {Q : Phase → Except TaskError (List (Option (Bool × String))) → Prop}
    (hok : ∀ cmdlets, FromBackports backports cmdlets → Q ⟨d,w⟩ (.ok cmdlets))
    (herror : ∀ t e, Q t (.error e)) :
    (backports.mapM' getCherryPickCmdlet).Follows (protocol site argument) Q ⟨d,w⟩ := by
  induction backports generalizing Q with
  | nil => exact hok [] fun _ h => nomatch h
  | cons backport backports ih =>
    refine Coroutine.follows_bind.mpr (getCherryPickCmdlet_follows ?_ herror)
    intro cmdlet hcmdlet
    refine Coroutine.follows_bind.mpr (ih ?_ herror)
    intro cmdlets hcmdlets
    refine hok _ fun c hc args hargs => ?_
    rcases List.mem_cons.mp hc with rfl | hc
    · exact ⟨backport,List.mem_cons_self,hcmdlet args hargs⟩
    · obtain ⟨b,hb,he⟩ := hcmdlets c hc args hargs
      exact ⟨b,List.mem_cons_of_mem _ hb,he⟩

lemma cherryPicks_follows {commit : KernelGitCommit} {cmdlets : List (Option (Bool × String))}
    {Q : Phase → Except TaskError Unit → Prop} (hlisted : FromBackports site.backportCommits cmdlets)
    (hw : w.checkout = some tree) (htree : Scratch site commit tree)
    (hok : ∀ w tree, w.checkout = some tree → Scratch site commit tree → Q ⟨d,w⟩ (.ok ()))
    (herror : ∀ t e, Q t (.error e)) :
    (cherryPicks cmdlets).Follows (protocol site argument) Q ⟨d,w⟩ := by
  induction cmdlets generalizing w tree with
  | nil => exact hok w tree hw htree
  | cons cmdlet cmdlets ih =>
    have hrest : FromBackports site.backportCommits cmdlets :=
      fun c hc => hlisted c (List.mem_cons_of_mem _ hc)
    cases cmdlet with
    | none => exact ih hrest hw htree
    | some args =>
      obtain ⟨backport,hbackport,rfl⟩ := hlisted _ List.mem_cons_self args rfl
      refine Coroutine.follows_bind.mpr (process_follows trivial ?_ herror)
      intro ω succeeded w' hw'
      have hpicked : w'.checkout =
          some (site.cherryPick ω succeeded backport.forceMerge backport.fixHash tree) := by
        cases succeeded <;> cases hw' <;> simp [hw]
      exact ih hrest hpicked (htree.cherryPick ω succeeded hbackport)

lemma pullFromScratch_follows {commit : KernelGitCommit} {Q : Phase → Except TaskError Unit → Prop}
    (hok : ∀ w tree, w.checkout = some (tree.write ".config" commit.kConfig) →
      Scratch site commit tree → Q ⟨d,w⟩ (.ok ())) (herror : ∀ t e, Q t (.error e)) :
    (pullFromScratch site.backportCommits commit).Follows (protocol site argument) Q ⟨d,w⟩ := by
  refine Coroutine.follows_bind.mpr (log_follows ?_ herror)
  refine Coroutine.follows_bind.mpr (ask_follows trivial fun x w₁ hx => ?_)
  cases hx with
  | raised => exact herror _ _
  | quiet h => cases h
  | getRepository =>
    refine Coroutine.follows_bind.mpr (cloneAndCheckout_follows ?_ herror)
    intro ω ω' w₂ hw₂
    refine Coroutine.follows_bind.mpr (Coroutine.follows_bind.mpr (log_follows ?_ herror))
    refine Coroutine.follows_bind.mpr (cmdlets_follow (fun cmdlets hcmdlets => ?_) herror)
    refine Coroutine.follows_bind.mpr (log_follows ?_ herror)
    refine Coroutine.follows_bind.mpr
      (cherryPicks_follows hcmdlets hw₂ (.checkout ω ω') (fun w₃ tree hw₃ htree => ?_) herror)
    refine log_follows ?_ herror
    exact writeFile_follows hw₃ (hok _ tree rfl htree) herror

lemma pullSource_follows {Q : Phase → Except TaskError Json → Prop}
    (hok : ∀ w kcacheCfg source, w.checkout = some source →
      SourceOf site argument d.slot kcacheCfg source → Q ⟨d,w⟩ (.ok kcacheCfg))
    (herror : ∀ t e, Q t (.error e)) :
    (pullSource site (argument d.slot)).Follows (protocol site argument) Q ⟨d,w⟩ := by
  unfold pullSource
  cases hsource : (argument d.slot).kernelSource with
  | gitCommit commit =>
    refine Coroutine.follows_bind.mpr (pullFromScratch_follows (fun w tree hw htree => ?_) herror)
    exact hok w _ _ hw (.scratch hsource htree)
  | kcache resource =>
    refine Coroutine.follows_bind.mpr (pullFromKcache_follows (fun w tree hw htree => ?_) herror)
    refine Coroutine.follows_bind.mpr (ask_follows trivial fun x w' hx => ?_)
    cases hx with
    | raised => exact herror _ _
    | quiet h => cases h
    | readFile h htext =>
      obtain rfl := Option.some.inj (hw.symm.trans h)
      refine ofExcept_follows (fun kcacheCfg hcfg => ?_) herror
      refine hok w kcacheCfg tree hw (.kcache hsource htree ⟨_,htext,?_⟩)
      unfold loadsCfg at hcfg
      split at hcfg
      · next cfg hloads =>
        cases hcfg
        exact hloads
      · cases hcfg

/-! ### The build -/

lemma ensureFile_follows {directory path text : String} {Q : Phase → Except TaskError Unit → Prop}
    (hw : w.checkout = some tree)
    (hok : ∀ w, w.checkout = some (tree.ensure directory path text) → Q ⟨d,w⟩ (.ok ()))
    (herror : ∀ t e, Q t (.error e)) :
    (ensureFile directory path text).Follows (protocol site argument) Q ⟨d,w⟩ := by
  refine Coroutine.follows_bind.mpr (ask_follows trivial fun x w' hx => ?_)
  cases hx with
  | raised => exact herror _ _
  | quiet h => cases h
  | pathExists h =>
    obtain rfl := Option.some.inj (hw.symm.trans h)
    cases hfound : (tree directory).isSome with
    | false => exact hok w (by simp [Tree.ensure,hfound,hw])
    | true => exact writeFile_follows hw (hok _ (by simp [Tree.ensure,hfound])) herror

lemma ensureReproducible_follows {Q : Phase → Except TaskError Unit → Prop}
    (hw : w.checkout = some tree)
    (hok : ∀ w, w.checkout = some (tree.ensureReproducible site.seedText) → Q ⟨d,w⟩ (.ok ()))
    (herror : ∀ t e, Q t (.error e)) :
    (ensureReproducible site.seedText).Follows (protocol site argument) Q ⟨d,w⟩ :=
  Coroutine.follows_bind.mpr (ensureFile_follows hw
    (fun _ hw => ensureFile_follows hw (fun w hw => hok w hw) herror) herror)

/-- The tree with the patch is the one that it applies to, where there is none. -/
lemma applyPatch_follows {patch : String} {Q : Phase → Except TaskError Unit → Prop}
    (hw : w.checkout = some tree) (hnone : patch = "" → Q ⟨d,w⟩ (.ok ()))
    (hok : ∀ ω w, patch ≠ "" → w.checkout = some (site.apply ω patch tree) → Q ⟨d,w⟩ (.ok ()))
    (herror : ∀ t e, Q t (.error e)) :
    (applyPatch patch).Follows (protocol site argument) Q ⟨d,w⟩ := by
  unfold applyPatch
  split
  · next hpatch =>
    refine Coroutine.follows_bind.mpr (process_follows trivial ?_ herror)
    intro ω succeeded w' hw'
    cases succeeded with
    | false => exact herror _ _
    | true =>
      cases hw'
      exact log_follows (hok ω _ hpatch (by simp [hw])) herror
  · next hpatch => exact hnone (not_not.mp hpatch)

lemma pull_follows {Q : Phase → Except TaskError Json → Prop}
    (hok : ∀ w kcacheCfg source tree, w.checkout = some tree →
      SourceOf site argument d.slot kcacheCfg source →
      Patched site (argument d.slot).patch kcacheCfg source tree → Q ⟨d,w⟩ (.ok kcacheCfg))
    (herror : ∀ t e, Q t (.error e)) :
    (pull site (argument d.slot)).Follows (protocol site argument) Q ⟨d,w⟩ := by
  refine Coroutine.follows_bind.mpr (pullSource_follows (fun w kcacheCfg source hw hsource => ?_)
    herror)
  refine Coroutine.follows_bind.mpr (writeFile_follows hw ?_ herror)
  refine Coroutine.follows_bind.mpr (applyPatch_follows rfl (fun hempty => ?_)
    (fun ω w' hpatch hw' => ?_) herror)
  · refine Coroutine.follows_bind.mpr (ensureReproducible_follows rfl (fun w hw => ?_) herror)
    exact hok w kcacheCfg source _ hw hsource (.unpatched hempty)
  · refine Coroutine.follows_bind.mpr (ensureReproducible_follows hw' (fun w hw => ?_) herror)
    exact hok w kcacheCfg source _ hw hsource (.applied hpatch ω)

/-- Whatever becomes of the upload, the working directory stays as it is. -/
lemma submitResource_follows {inFolderKey : String}
    {Q : Phase → Except TaskError (Option JobResource) → Prop}
    (hallowed : allowed site argument ⟨d,w⟩ (.startUpload inFolderKey))
    (hok : ∀ a, Q ⟨d,w⟩ (.ok a)) (herror : ∀ t e, Q t (.error e)) :
    (submitResource d.slot inFolderKey).Follows (protocol site argument) Q ⟨d,w⟩ := by
  refine Coroutine.follows_bind.mpr (quiet_follows rfl trivial (fun empty => ?_) herror)
  cases empty with
  | true => exact hok none
  | false =>
    refine Coroutine.follows_bind.mpr (quiet_follows rfl hallowed (fun _ => ?_) herror)
    refine Coroutine.follows_bind.mpr (quiet_follows rfl trivial (fun _ => ?_) herror)
    refine Coroutine.follows_bind.mpr (quiet_follows rfl trivial (fun storageUri => ?_) herror)
    exact hok _

lemma linuxBuilderMake_follows {arguments : List String} {Q : Phase → Except TaskError Unit → Prop}
    (hw : w.checkout = some tree) (hmakes : MakesFor site argument d arguments)
    (hok : ∀ ω ω' ω'' w, w.checkout = some (site.deliver ω'' (site.make ω' arguments
      (site.oldconfig ω arguments tree))) → Q ⟨d,w⟩ (.ok ()))
    (herror : ∀ t e, Q t (.error e)) :
    (linuxBuilderMake d.slot arguments).Follows (protocol site argument) Q ⟨d,w⟩ := by
  refine Coroutine.follows_bind.mpr (Coroutine.follows_bind.mpr (process_follows trivial ?_ herror))
  intro ω succeeded w₁ hw₁
  cases succeeded with
  | false => exact herror _ _
  | true =>
    cases hw₁
    refine Coroutine.follows_bind.mpr (submitResource_follows (fun h => absurd h (by decide)) (fun _ => ?_) herror)
    refine Coroutine.follows_bind.mpr (Coroutine.follows_bind.mpr
      (process_follows hmakes ?_ herror))
    intro ω' succeeded w₂ hw₂
    refine Coroutine.follows_bind.mpr (submitResource_follows (fun h => absurd h (by decide)) (fun _ => ?_) herror)
    refine Coroutine.follows_bind.mpr (submitResource_follows (fun h => absurd h (by decide)) (fun _ => ?_) herror)
    cases succeeded with
    | false => exact herror _ _
    | true =>
      cases hw₂
      refine ask_follows trivial fun x w₃ hx => ?_
      cases hx with
      | raised => exact herror _ _
      | quiet h => cases h
      | deliver ω'' => exact hok ω ω' ω'' _ (by simp [hw])

lemma build_follows {kcacheCfg : Json} {source : Tree} {Q : Phase → Except TaskError Unit → Prop}
    (hw : w.checkout = some tree) (hsource : SourceOf site argument d.slot kcacheCfg source)
    (hpatched : Patched site (argument d.slot).patch kcacheCfg source tree)
    (hok : ∀ w tree, w.checkout = some tree → Made site (argument d.slot).patch kcacheCfg source tree →
      Q ⟨d,w⟩ (.ok ()))
    (herror : ∀ t e, Q t (.error e)) :
    (build site d (argument d.slot) kcacheCfg).Follows (protocol site argument) Q ⟨d,w⟩ := by
  refine Coroutine.follows_bind.mpr (log_follows ?_ herror)
  refine Coroutine.follows_bind.mpr (quiet_follows rfl trivial (fun _ => ?_) herror)
  refine Coroutine.follows_bind.mpr (log_follows ?_ herror)
  refine Coroutine.follows_bind.mpr (log_follows ?_ herror)
  refine Coroutine.follows_bind.mpr (ofExcept_follows (fun arguments harguments => ?_) herror)
  refine Coroutine.follows_bind.mpr (linuxBuilderMake_follows hw ⟨_,_,hsource,harguments⟩
    (fun ω ω' ω'' w hw => ?_) herror)
  exact log_follows (hok w _ hw (.mk hpatched harguments ω ω' ω'')) herror

lemma buildKcache_follows {Q : Phase → Except TaskError (Option JobResource) → Prop}
    (hw : w.checkout = some tree)
    (hderives : Derives site argument d.slot.kcacheKey tree.rmtreeGit)
    (hQ : ∀ t x, Q t x) :
    (buildKcache d.slot).Follows (protocol site argument) Q ⟨d,w⟩ := by
  refine Coroutine.follows_bind.mpr (ask_follows trivial fun x w₁ hx => ?_)
  cases hx with
  | raised => exact hQ _ _
  | quiet h => cases h
  | rmtreeGit h =>
    obtain rfl := Option.some.inj (hw.symm.trans h)
    refine Coroutine.follows_bind.mpr (log_follows ?_ fun t e => hQ t _)
    refine Coroutine.follows_bind.mpr (process_follows trivial ?_ fun t e => hQ t _)
    intro ω succeeded w₂ hw₂
    cases succeeded with
    | false => exact hQ _ _
    | true =>
      cases hw₂
      refine Coroutine.follows_bind.mpr (log_follows ?_ fun t e => hQ t _)
      exact submitResource_follows (fun _ => ⟨_,rfl,hderives⟩) (fun _ => hQ _ _) fun t e => hQ t _

theorem onTask_follows (d : Delivery) :
    (do let _ ← onTask site d (argument d.slot) : Work Unit).Follows (protocol site argument)
      Anyhow (firstPhase d ()) := by
  have herror : ∀ {β : Type} (t : Phase) (e : TaskError),
      Coroutine.After (protocol site argument) Anyhow (fun _ : β => pure ()) t (.error e) :=
    fun _ _ => trivial
  refine Coroutine.follows_bind.mpr (Coroutine.follows_bind.mpr
    (pull_follows (fun w kcacheCfg source tree hw hsource hpatched => ?_) fun _ _ => trivial))
  refine Coroutine.follows_bind.mpr (ofExcept_follows (fun kernelArch _ => ?_) fun _ _ => trivial)
  refine Coroutine.follows_bind.mpr
    (build_follows hw hsource hpatched (fun w tree hw hmade => ?_) fun _ _ => trivial)
  refine Coroutine.follows_bind.mpr
    (buildKcache_follows hw (hsource.derives site argument hmade) fun t x => ?_)
  cases x <;> trivial

end Works

/-! ## All jobs together -/

section Jobs
variable {Ω : Type} (site : Site Ω) (argument : Slot → KBuilderArgument)

def Stored (storage : String → Option Object) : Prop :=
  ∀ key tree, storage key = some (.kcache tree) → Derives site argument key tree

def AllMade (made : List (Delivery × List String)) : Prop :=
  ∀ e ∈ made, MakesFor site argument e.1 e.2

/-- What is on its way to a key belongs there. -/
structure Fit (key : String) (blob : Object) : Prop where
  derives : ∀ tree, blob = .kcache tree → Derives site argument key tree
  kcache : ∀ slot, key = Slot.kcacheKey slot → ∃ tree, blob = .kcache tree

def AllFit (copies : List Copy) : Prop := ∀ c ∈ copies, Fit site argument c.key c.blob

structure Inv (s : State) (calls : ℕ → Option (Call Delivery Unit))
    (g : ℕ × Unit → Option Phase) : Prop where
  stored : Stored site argument s.storage
  made : AllMade site argument s.made
  copies : AllFit site argument s.copies
  work : ∀ k t, g (k,()) = some t → t.work = s.workspace k
  delivery : ∀ k t call, g (k,()) = some t → calls k = some call → t.delivery = call.args
  fresh : ∀ k, g (k,()) = none → s.workspace k = ⟨none,none⟩

/-- The part of it that is about what the jobs share. -/
structure Kept (s : State) : Prop where
  stored : Stored site argument s.storage
  made : AllMade site argument s.made
  copies : AllFit site argument s.copies

/-- A request that is answered, as it looks from the task and from the others. -/
structure Executes (k : ℕ) (s : State) (r : Request) (s' : State)
    (x : Except TaskError r.Answer) (w : Workspace) : Prop where
  effect : Effect site argument (s.workspace k) r x w
  workspace : s'.workspace = Function.update s.workspace k w
  stored : Stored site argument s'.storage
  made : AllMade site argument s'.made
  copies : AllFit site argument s'.copies

variable {site argument} {slot slot' : Slot} {d : Delivery} {k : ℕ} {s s' : State}
  {name name' : String}

/-! ### The keys -/

lemma resourceKey_inj (h : slot.resourceKey name = slot'.resourceKey name') :
    slot = slot' ∧ name = name' := by
  obtain ⟨hjob,hworker,-,hname⟩ := Resources.key_inj (by decide) (by decide) h
  cases slot
  cases slot'
  cases hjob
  cases hworker
  exact ⟨rfl,hname⟩

lemma kcacheKey_inj (h : slot.kcacheKey = slot'.kcacheKey) : slot = slot' := (resourceKey_inj h).1

/-- What the last group uploads is no kCache, and its keys are not of one. -/
lemma fit_other (hname : name ∈ deliverables) : Fit site argument (slot.resourceKey name) .other :=
  ⟨nofun,fun slot' hkey => by
    obtain rfl := (resourceKey_inj hkey).2
    exact absurd hname (by decide)⟩

/-! ### The storage -/

lemma Stored.upload {storage : String → Option Object} (h : Stored site argument storage)
    {key : String} {blob : Object}
    (hblob : ∀ tree, blob = .kcache tree → Derives site argument key tree) :
    Stored site argument (Function.update storage key (some blob)) := by
  intro key' tree htree
  by_cases hkey : key' = key
  · subst hkey
    rw [Function.update_self] at htree
    exact hblob tree (Option.some.inj htree)
  · rw [Function.update_of_ne hkey] at htree
    exact h key' tree htree

lemma Stored.deliver {names : List String} (h : Stored site argument s.storage) :
    Stored site argument (s.deliver slot names).storage := by
  induction names generalizing s with
  | nil => exact h
  | cons name names ih => exact ih (h.upload fun tree htree => nomatch htree)

/-- What was stored of the last group, apart from the storage. -/
lemma deliver_rest (s : State) (slot : Slot) (names : List String) :
    (s.deliver slot names).workspace = s.workspace ∧ (s.deliver slot names).made = s.made ∧
      (s.deliver slot names).copies = s.copies := by
  induction names generalizing s with
  | nil => exact ⟨rfl,rfl,rfl⟩
  | cons name names ih => exact ih _

/-- What is still uploaded of it is on its way only. -/
lemma startCopies_rest (s : State) (slot : Slot) (k : ℕ) (names : List String) :
    (s.startCopies slot k names).workspace = s.workspace ∧
      (s.startCopies slot k names).made = s.made ∧
      (s.startCopies slot k names).storage = s.storage := by
  induction names generalizing s with
  | nil => exact ⟨rfl,rfl,rfl⟩
  | cons name names ih => exact ih _

lemma AllFit.startCopy (h : AllFit site argument s.copies) {key : String} {blob : Object}
    (hfit : Fit site argument key blob) : AllFit site argument (s.startCopy k key blob).copies := by
  intro c hc
  obtain rfl | hc := List.mem_cons.mp hc
  · exact hfit
  · exact h c hc

lemma AllFit.startCopies {names : List String} (h : AllFit site argument s.copies)
    (hnames : ∀ name ∈ names, name ∈ deliverables) :
    AllFit site argument (s.startCopies slot k names).copies := by
  induction names generalizing s with
  | nil => exact h
  | cons name names ih =>
    exact ih (h.startCopy (fit_other (hnames name List.mem_cons_self)))
      fun n hn => hnames n (List.mem_cons_of_mem _ hn)

/-- What the last group has uploaded is not in the way of a kCache. -/
lemma Executes.deliver {r : Request} {x : Except TaskError r.Answer} {w : Workspace}
    (h : Executes site argument k s r s' x w) (names : List String) :
    Executes site argument k s r (s'.deliver slot names) x w := by
  obtain ⟨hworkspace,hmade,hcopies⟩ := deliver_rest s' slot names
  exact ⟨h.effect,hworkspace.trans h.workspace,h.stored.deliver,hmade ▸ h.made,
    hcopies ▸ h.copies⟩

lemma Executes.startCopies {r : Request} {x : Except TaskError r.Answer} {w : Workspace}
    (h : Executes site argument k s r s' x w) {names : List String}
    (hnames : ∀ name ∈ names, name ∈ deliverables) :
    Executes site argument k s r (s'.startCopies slot k names) x w := by
  obtain ⟨hworkspace,hmade,hstorage⟩ := startCopies_rest s' slot k names
  exact ⟨h.effect,hworkspace.trans h.workspace,hstorage ▸ h.stored,hmade ▸ h.made,
    h.copies.startCopies hnames⟩

/-- A request that changes the task's own working directory at most. -/
lemma executes_own {r : Request} {x : Except TaskError r.Answer} {w : Workspace}
    (hi : Kept site argument s) (heffect : Effect site argument (s.workspace k) r x w) :
    Executes site argument k s r (s.setWorkspace k w) x w :=
  ⟨heffect,rfl,hi.stored,hi.made,hi.copies⟩

lemma executes_unchanged {r : Request} {x : Except TaskError r.Answer} (hi : Kept site argument s)
    (heffect : Effect site argument (s.workspace k) r x (s.workspace k)) :
    Executes site argument k s r s x (s.workspace k) :=
  ⟨heffect,(Function.update_eq_self k s.workspace).symm,hi.stored,hi.made,hi.copies⟩

/-- What a task may upload under a name is what belongs under its key. -/
lemma fit_of_uploaded {inFolderKey : String} {blob : Object}
    (hr : allowed site argument ⟨d,s.workspace k⟩ (.startUpload inFolderKey))
    (hblob : uploaded inFolderKey (s.workspace k) = some blob) :
    Fit site argument (d.slot.resourceKey inFolderKey) blob := by
  unfold uploaded at hblob
  split at hblob
  · next hname =>
    subst hname
    obtain ⟨tree,hfile,hderives⟩ := hr rfl
    rw [hfile] at hblob
    cases hblob
    refine ⟨fun tree' htree => ?_,fun _ _ => ⟨tree,rfl⟩⟩
    cases htree
    exact hderives
  · next hname =>
    cases hblob
    exact ⟨nofun,fun slot' hkey => absurd (resourceKey_inj hkey).2 hname⟩

lemma allMade_of_process {command : Command} {succeeded : Bool}
    (hr : allowed site argument ⟨d,s.workspace k⟩ (.process command))
    (hmade : AllMade site argument s.made) :
    AllMade site argument (madeBy d command succeeded ++ s.made) := by
  intro e he
  rcases List.mem_append.mp he with he | he
  · unfold madeBy at he
    split at he
    · obtain rfl := List.mem_singleton.mp he
      exact hr
    · cases he
  · exact hmade e he

theorem executes_of_exec {r : Request} {input : Input Ω} {x : Except TaskError r.Answer}
    (hi : Kept site argument s) (hr : allowed site argument ⟨d,s.workspace k⟩ r)
    (h : exec site d k r s input = some (s',x)) : ∃ w, Executes site argument k s r s' x w := by
  cases input with
  | raises e =>
    cases r <;> cases h <;> exact ⟨_,executes_unchanged hi .raised⟩
  | size empty =>
    cases r <;> cases h
    exact ⟨_,executes_unchanged hi (.quiet rfl)⟩
  | commitId found =>
    cases r <;> cases h
    exact ⟨_,executes_unchanged hi (.quiet rfl)⟩
  | lost =>
    cases r with
    | downloadResource key =>
      obtain ⟨-,h⟩ := Option.ite_none_left_eq_some.mp h
      obtain ⟨blob,hblob,hpair⟩ := Option.map_eq_some_iff.mp h
      cases hpair
      exact ⟨_,executes_own hi (.downloadResource fun tree htree => nomatch htree)⟩
    | awaitUpload name =>
      obtain ⟨-,hpair⟩ := Option.ite_none_right_eq_some.mp h
      cases hpair
      exact ⟨_,executes_unchanged hi (.quiet rfl)⟩
    | _ => cases h
  | code succeeded ω =>
    cases r with
    | process command =>
      obtain ⟨w,hw,hpair⟩ := Option.map_eq_some_iff.mp h
      cases hpair
      exact ⟨w,.process ω succeeded hw,rfl,hi.stored,allMade_of_process hr hi.made,hi.copies⟩
    | _ => cases h
  | delivered names ω =>
    cases r <;> try cases h
    obtain ⟨-,hpair⟩ := Option.ite_none_right_eq_some.mp h
    cases hpair
    exact ⟨_,(executes_own hi (.deliver ω)).deliver names⟩
  | undelivered names late e =>
    cases r <;> try cases h
    obtain ⟨hnames,hpair⟩ := Option.ite_none_right_eq_some.mp h
    cases hpair
    exact ⟨_,((executes_unchanged hi .raised).deliver names).startCopies
      fun name hname => hnames name (List.mem_append_right _ hname)⟩
  | go =>
    cases r with
    | reportJobLog message =>
      cases h
      exact ⟨_,executes_unchanged hi (.quiet rfl)⟩
    | getRepository gitUrl =>
      cases h
      exact ⟨_,executes_unchanged hi .getRepository⟩
    | downloadResource key =>
      obtain ⟨blob,hblob,hpair⟩ := Option.map_eq_some_iff.mp h
      cases hpair
      refine ⟨_,executes_own hi (.downloadResource fun tree htree => ?_)⟩
      exact hi.stored key tree (htree ▸ hblob)
    | downloadImage key =>
      cases h
      exact ⟨_,executes_unchanged hi (.quiet rfl)⟩
    | pathExists path =>
      obtain ⟨tree,htree,hpair⟩ := Option.map_eq_some_iff.mp h
      cases hpair
      exact ⟨_,executes_unchanged hi (.pathExists htree)⟩
    | checkoutExists =>
      cases h
      exact ⟨_,executes_unchanged hi (.quiet rfl)⟩
    | rmtreeCheckout =>
      cases h
      exact ⟨_,executes_own hi .rmtreeCheckout⟩
    | makedirs =>
      cases h
      exact ⟨_,executes_own hi .makedirs⟩
    | removeKcache =>
      cases h
      exact ⟨_,executes_own hi .removeKcache⟩
    | rmtreeGit =>
      obtain ⟨tree,htree,hpair⟩ := Option.map_eq_some_iff.mp h
      cases hpair
      exact ⟨_,executes_own hi (.rmtreeGit htree)⟩
    | readFile path =>
      obtain ⟨tree,htree,hpair⟩ := Option.bind_eq_some_iff.mp h
      obtain ⟨text,htext,hpair⟩ := Option.map_eq_some_iff.mp hpair
      cases hpair
      exact ⟨_,executes_unchanged hi (.readFile htree htext)⟩
    | writeFile path text =>
      obtain ⟨tree,htree,hpair⟩ := Option.map_eq_some_iff.mp h
      cases hpair
      exact ⟨_,executes_own hi (.writeFile htree)⟩
    | startUpload name =>
      obtain ⟨blob,hblob,hpair⟩ := Option.map_eq_some_iff.mp h
      cases hpair
      have hunchanged := executes_unchanged hi (.quiet rfl : Effect site argument (s.workspace k)
        (.startUpload name) (.ok ()) (s.workspace k))
      exact ⟨_,hunchanged.effect,hunchanged.workspace,hi.stored,hi.made,
        hi.copies.startCopy (fit_of_uploaded hr hblob)⟩
    | awaitUpload name =>
      obtain ⟨-,hpair⟩ := Option.ite_none_right_eq_some.mp h
      cases hpair
      exact ⟨_,executes_unchanged hi (.quiet rfl)⟩
    | getResourceUrl key =>
      cases h
      exact ⟨_,executes_unchanged hi (.quiet rfl)⟩
    | _ => cases h

/-- What the uploads under way do to the storage. -/
lemma kept_of_happen {e : Other} (hi : Kept site argument s) (h : happen site e s = some s') :
    Kept site argument s' ∧ s'.workspace = s.workspace := by
  have hunderway : ∀ {n c}, s.underway? n = some c → Fit site argument c.key c.blob := by
    intro n c hc
    exact hi.copies c (List.mem_of_getElem? (Option.filter_eq_some_iff.mp hc).1)
  have hend : ∀ {n c arrived}, s.underway? n = some c →
      AllFit site argument (s.copies.set n { c with ended := arrived }) := by
    intro n c arrived hc c' hc'
    obtain hc' | rfl := List.mem_or_eq_of_mem_set hc'
    · exact hi.copies c' hc'
    · have hfit := hunderway hc
      exact hfit
  cases e with
  | stores slot workerType' inFolderKey =>
    obtain ⟨-,h⟩ := Option.ite_none_left_eq_some.mp h
    cases h
    exact ⟨⟨hi.stored.upload nofun,hi.made,hi.copies⟩,rfl⟩
  | truncates n =>
    obtain ⟨-,h⟩ := Option.ite_none_right_eq_some.mp h
    obtain ⟨c,hc,rfl⟩ := Option.map_eq_some_iff.mp h
    exact ⟨⟨hi.stored.upload nofun,hi.made,hi.copies⟩,rfl⟩
  | lands n torn =>
    obtain ⟨-,h⟩ := Option.ite_none_left_eq_some.mp h
    obtain ⟨c,hc,rfl⟩ := Option.map_eq_some_iff.mp h
    refine ⟨⟨?_,hi.made,hend hc⟩,rfl⟩
    cases torn with
    | true => exact hi.stored.upload nofun
    | false => exact hi.stored.upload (hunderway hc).derives
  | breaks n =>
    obtain ⟨c,hc,rfl⟩ := Option.map_eq_some_iff.mp h
    exact ⟨⟨hi.stored,hi.made,hend hc⟩,rfl⟩

theorem upholds (C : Runs → RunEvent Ω → Prop) :
    (builds site argument).Upholds (protocol site argument) Anyhow firstPhase C
      (Inv site argument) where
  body d _ := onTask_follows d
  starts := by
    intro p g k args _ hi _ _ hnone
    refine ⟨hi.stored,hi.made,hi.copies,hi.work,?_,hi.fresh⟩
    intro k' t call hg hcall
    have hk : k' ≠ k := by
      rintro rfl
      rw [hnone] at hg
      cases hg
    rw [Function.update_of_ne hk] at hcall
    exact hi.delivery k' t call hg hcall
  selects := by
    intro p g k args _ hi _ _ hnone
    refine ⟨hi.stored,hi.made,hi.copies,?_,?_,?_⟩
    · intro k' t hg
      rcases Pipeline.spawned_cases hnone hg with ⟨rfl,-,rfl⟩ | ⟨-,hg⟩
      · exact (hi.fresh k' (hnone ())).symm
      · exact hi.work k' t hg
    · intro k' t call hg hcall
      rcases Pipeline.spawned_cases hnone hg with ⟨rfl,-,rfl⟩ | ⟨hk,hg⟩
      · rw [Function.update_self] at hcall
        cases hcall
        rfl
      · rw [Function.update_of_ne hk] at hcall
        exact hi.delivery k' t call hg hcall
    · intro k' hg
      refine hi.fresh k' ?_
      by_contra hne
      obtain ⟨t,ht⟩ := Option.ne_none_iff_exists'.mp hne
      rw [Pipeline.spawned_of_some hnone ht] at hg
      cases hg
  resumes := by
    rintro p g k ⟨⟩ input call r c s x t _ hi _ hcall _ hg hr hexec
    have ht : t = ⟨call.args,p.shared.workspace k⟩ := by
      rw [← hi.work k t hg,← hi.delivery k t call hg hcall]
    subst ht
    obtain ⟨w,hx⟩ := executes_of_exec ⟨hi.stored,hi.made,hi.copies⟩ hr hexec
    refine ⟨⟨call.args,w⟩,⟨rfl,hx.effect⟩,hx.stored,hx.made,hx.copies,?_,?_,?_⟩
    · intro k' t hg'
      rw [hx.workspace]
      by_cases hk : k' = k
      · subst hk
        rw [Function.update_self] at hg' ⊢
        cases hg'
        rfl
      · rw [Function.update_of_ne (by simpa using hk)] at hg'
        rw [Function.update_of_ne hk]
        exact hi.work k' t hg'
    · intro k' t call' hg' hcall'
      by_cases hk : k' = k
      · subst hk
        rw [Function.update_self] at hg'
        cases hg'
        exact congrArg Call.args (Option.some.inj (hcall.symm.trans hcall'))
      · rw [Function.update_of_ne (by simpa using hk)] at hg'
        exact hi.delivery k' t call' hg' hcall'
    · intro k' hg'
      rw [hx.workspace]
      by_cases hk : k' = k
      · subst hk
        rw [Function.update_self] at hg'
        cases hg'
      · rw [Function.update_of_ne (by simpa using hk)] at hg'
        rw [Function.update_of_ne hk]
        exact hi.fresh k' hg'
  cancels := by
    intro p g k i args items t _ hi _ _ hcancels
    cases hcancels
  others := by
    intro p g e s _ hi _ happens
    obtain ⟨hkept,hworkspace⟩ := kept_of_happen ⟨hi.stored,hi.made,hi.copies⟩ happens
    exact ⟨hkept.stored,hkept.made,hkept.copies,hworkspace ▸ hi.work,hi.delivery,
      hworkspace ▸ hi.fresh⟩

lemma inv_of_initial (h : Initial s) : Inv site argument s (fun _ => none) fun _ => none := by
  obtain ⟨hstorage,hworkspace,hmade,hcopies⟩ := h
  refine ⟨fun key tree htree => absurd htree (hstorage key tree),?_,?_,(fun _ _ hg => nomatch hg),
    (fun _ _ _ hg => nomatch hg),fun k _ => hworkspace k⟩
  · intro e he
    rw [hmade] at he
    cases he
  · intro c hc
    rw [hcopies] at hc
    cases hc

theorem inv_of_reachable {C : Runs → RunEvent Ω → Prop} {p : Runs}
    (h : (machine site argument).ReachableBy C p) : ∃ g, Inv site argument p.shared p.calls g := by
  obtain ⟨g,-,hi⟩ := (upholds C).reachable (fun _ => inv_of_initial) h
  exact ⟨g,hi⟩

/-- Every kCache in the storage is what the arguments of a chain of jobs make of a commit. -/
theorem stored_kcache_derives {p : Runs} (h : (machine site argument).Reachable p) {key : String}
    {tree : Tree} (hstored : p.shared.storage key = some (.kcache tree)) :
    Derives site argument key tree := by
  obtain ⟨g,hi⟩ := inv_of_reachable h
  exact hi.stored key tree hstored

end Jobs

/-! ### A patch on the kCache of another job -/

/-- A commit is one file, and a patch is noted in another. -/
def plainSite : Site Unit where
  localPath _ := "linux"
  seedText _ := ""
  cpuCount builder := if builder = 0 then 8 else 4
  backportCommits := []
  backend := .gcs "bucket"
  clone _ _ := .empty
  checkout _ commitId tree := tree.write "HEAD" commitId
  cherryPick _ _ _ _ tree := tree
  apply _ patch tree := tree.write "patch" patch
  oldconfig _ _ tree := tree
  make _ _ tree := tree
  deliver _ tree := tree

def firstSlot : Slot := ⟨0,0⟩

def secondSlot : Slot := ⟨1,0⟩

/-- The first job builds a commit, any other one a patch on the first one's kCache. -/
def patchOnKcache (slot : Slot) : KBuilderArgument :=
  if slot = firstSlot then
    { kernelSource := .gitCommit ⟨"url","commit","","amd64","gcc","ld"⟩
      userspaceImage := "image"
      patch := "" }
  else
    { kernelSource := .kcache ⟨firstSlot.kcacheKey,""⟩
      userspaceImage := "image"
      patch := "patch" }

def resumes (k : ℕ) (inputs : List (Input Unit)) : List (RunEvent Unit) := inputs.map (.resume k ())

/-- An upload, which arrives before anything else happens. -/
def uploads (k : ℕ) : List (RunEvent Unit) :=
  resumes k [.size false,.go] ++ .other (.lands 0 false) :: resumes k [.go,.go]

/-- A builder begins with a stage. -/
def begins (k : ℕ) (slot : Slot) (builder : ℕ) : List (RunEvent Unit) :=
  [.start k ⟨slot,builder⟩,.select k,.enter k ()]

/-- The commit is checked out. -/
def checksOut (k : ℕ) : List (RunEvent Unit) :=
  resumes k [.go,.go,.go,.go,.code true (),.code true (),.code true (),.go,.go,.go,.go,.go,.go]

/-- What comes after the source up to the kCache, where all processes succeed. -/
def makes (k : ℕ) : List (RunEvent Unit) :=
  resumes k [.go,.go,.go,.go,.go,.go,.code true ()] ++ uploads k ++ resumes k [.code true ()] ++
    uploads k ++ resumes k [.size true,.delivered ["bzImage","vmlinux"] (),.go,.go,.go,
      .code true (),.go]

/-- The second job starts when the kCache of the first one is there. -/
def bothBuild : List (RunEvent Unit) :=
  begins 0 firstSlot 0 ++ checksOut 0 ++ makes 0 ++ uploads 0 ++
  begins 1 secondSlot 1 ++ resumes 1 [.go,.go,.go,.code true (),.go,.go,.go,.code true (),.go] ++
    makes 1 ++ uploads 1

def idleState : State := ⟨fun _ => none,fun _ => ⟨none,none⟩,[],[]⟩

lemma idle_init : (machine plainSite patchOnKcache).init (Pool.idle idleState) :=
  ⟨idleState,⟨(fun _ _ h => nomatch h),(fun _ => rfl),rfl,rfl⟩,rfl⟩

/-- What a stored kCache has at some paths. -/
def storedTexts (paths : List String) (s : State) (key : String) : Option (List (Option String)) :=
  match s.storage key with
  | some (.kcache tree) => some (paths.map tree.text?)
  | _ => none

lemma stored_of_texts {paths : List String} {s : State} {key : String}
    {texts : List (Option String)} (h : storedTexts paths s key = some texts) :
    ∃ tree, s.storage key = some (.kcache tree) ∧ paths.map tree.text? = texts := by
  unfold storedTexts at h
  split at h
  · next tree htree => exact ⟨tree,htree,Option.some.inj h⟩
  · cases h

/-- The second kCache has the file of the commit and the note of the patch. -/
theorem stored_kcache_derives_patched : ∃ p tree, (machine plainSite patchOnKcache).Reachable p ∧
    tree.text? "HEAD" = some "commit" ∧ tree.text? "patch" = some "patch" ∧
    Derives plainSite patchOnKcache secondSlot.kcacheKey tree := by
  obtain ⟨p,hp,htest⟩ := Machine.exists_of_replay (machine plainSite patchOnKcache)
    (fun _ _ => True) bothBuild
    (fun p => storedTexts ["HEAD","patch"] p.shared secondSlot.kcacheKey =
      some [some "commit",some "patch"]) idle_init (by decide +kernel)
  obtain ⟨tree,hstored,htexts⟩ := stored_of_texts (of_decide_eq_true htest)
  obtain ⟨hcommit,hpatch⟩ := List.cons.inj htexts
  exact ⟨p,tree,hp,hcommit,(List.cons.inj hpatch).1,stored_kcache_derives hp hstored⟩

end LiveKBench.KBuilder
