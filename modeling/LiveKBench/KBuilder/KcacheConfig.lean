import LiveKBench.KBuilder.KcacheChains

/-! The configuration along a chain of kCaches. `kcache.json` is written anew by each job; as long as
no patch and no build touches it, every job of a chain calls `make` for the architecture, the
compiler and the linker of the commit at its root. -/
namespace LiveKBench.KBuilder
open KCore
open KArenaPipeline (KernelGitCommit KBuilderArgument)
open Lib

section Configuration
variable {Ω : Type} (site : Site Ω) (argument : Slot → KBuilderArgument)

/-- The commit that the chain of kCaches before a stage begins with. -/
inductive RootOf : Slot → KernelGitCommit → Prop
  | scratch {slot : Slot} {commit : KernelGitCommit}
      (source : (argument slot).kernelSource = .gitCommit commit) : RootOf slot commit
  | kcache {slot slot' : Slot} {resource : JobResource} {commit : KernelGitCommit}
      (source : (argument slot).kernelSource = .kcache resource)
      (key : resource.key = slot'.kcacheKey) (before : RootOf slot' commit) : RootOf slot commit

/-- No patch and no step of a build touches the configuration. -/
structure KeepsConfig : Prop where
  apply : ∀ slot ω tree,
    site.apply ω (argument slot).patch tree "kcache.json" = tree "kcache.json"
  oldconfig : ∀ ω arguments tree, site.oldconfig ω arguments tree "kcache.json" = tree "kcache.json"
  make : ∀ ω arguments tree, site.make ω arguments tree "kcache.json" = tree "kcache.json"
  deliver : ∀ ω tree, site.deliver ω tree "kcache.json" = tree "kcache.json"

variable {site argument} {kcacheCfg : Json} {source tree : Tree} {slot : Slot}

lemma ensure_config {directory path text : String} (hpath : path ≠ "kcache.json") :
    tree.ensure directory path text "kcache.json" = tree "kcache.json" := by
  unfold Tree.ensure
  split
  · exact Function.update_of_ne hpath.symm _ _
  · rfl

lemma ensureReproducible_config (seedText : KPreBuilder.SeedText → String) (tree : Tree) :
    tree.ensureReproducible seedText "kcache.json" = tree "kcache.json" :=
  (ensure_config (by decide)).trans (ensure_config (by decide))

lemma rmtreeGit_config (tree : Tree) : tree.rmtreeGit "kcache.json" = tree "kcache.json" := by
  unfold Tree.rmtreeGit
  split
  · exact if_neg (by decide)
  · rfl

/-- What a job leaves says the configuration of its source. -/
lemma Made.config (hk : KeepsConfig site argument)
    (h : Made site (argument slot).patch kcacheCfg source tree) :
    tree.rmtreeGit "kcache.json" = some (.file (dumpsCfg kcacheCfg)) := by
  obtain ⟨hpatched,-,ω,ω',ω''⟩ := h
  rw [rmtreeGit_config,hk.deliver,hk.make,hk.oldconfig]
  cases hpatched with
  | unpatched hempty =>
    rw [ensureReproducible_config]
    exact Function.update_self _ _ _
  | applied hpatch ω =>
    rw [ensureReproducible_config,hk.apply]
    exact Function.update_self _ _ _

lemma configured_dumps (h : tree "kcache.json" = some (.file (dumpsCfg kcacheCfg))) {cfg : Json}
    (hcfg : tree.Configured cfg) : cfg = kcacheCfg := by
  obtain ⟨text,htext,hloads⟩ := hcfg
  rw [Tree.text?,h] at htext
  cases htext
  rw [dumpsCfg,String.toList_ofList,Json.loads_dumps] at hloads
  exact (Option.some.inj hloads).symm

/-- A kCache says the configuration of the commit at its root. -/
lemma Derives.config (hk : KeepsConfig site argument) {key : String}
    (h : Derives site argument key tree) : ∃ slot commit, key = slot.kcacheKey ∧
      RootOf argument slot commit ∧
      tree "kcache.json" = some (.file (dumpsCfg (commitCfg commit))) := by
  induction h with
  | scratch hsource checkout hmade =>
    exact ⟨_,_,rfl,.scratch hsource,hmade.config hk⟩
  | kcache hsource before hconfigured hmade ih =>
    obtain ⟨slot',commit,hkey,hroot,hconfig⟩ := ih
    obtain rfl := configured_dumps hconfig hconfigured
    exact ⟨_,commit,rfl,.kcache hsource hkey hroot,hmade.config hk⟩

lemma SourceOf.config (hk : KeepsConfig site argument)
    (h : SourceOf site argument slot kcacheCfg source) :
    ∃ commit, RootOf argument slot commit ∧ kcacheCfg = commitCfg commit := by
  cases h with
  | scratch hsource checkout => exact ⟨_,.scratch hsource,rfl⟩
  | kcache hsource before hconfigured =>
    obtain ⟨slot',commit,hkey,hroot,hconfig⟩ := before.config hk
    exact ⟨commit,.kcache hsource hkey hroot,configured_dumps hconfig hconfigured⟩

/-- However the jobs interleave and however long the chains get, `make` is called as for the commit
at the root. -/
theorem made_for_root (hk : KeepsConfig site argument) {p : Runs}
    (h : (machine site argument).Reachable p) :
    ∀ delivery arguments, (delivery,arguments) ∈ p.shared.made →
      ∃ commit, RootOf argument delivery.slot commit ∧
        makeArguments (site.cpuCount delivery.builder) (commitCfg commit) = .ok arguments := by
  intro delivery arguments hmem
  obtain ⟨g,hi⟩ := inv_of_reachable h
  obtain ⟨kcacheCfg,source,hsource,harguments⟩ := hi.made _ hmem
  obtain ⟨commit,hroot,rfl⟩ := hsource.config hk
  exact ⟨commit,hroot,harguments⟩

end Configuration

lemma keepsConfig_plain : KeepsConfig plainSite patchOnKcache where
  apply slot _ tree := by
    change tree.write "patch" (patchOnKcache slot).patch "kcache.json" = tree "kcache.json"
    exact Function.update_of_ne (by decide) _ tree
  oldconfig _ _ _ := rfl
  make _ _ _ := rfl
  deliver _ _ := rfl

/-- The second job, which knows the commit by its kCache only, on a builder of its own. -/
theorem made_for_root_patched : ∃ (p : Runs) (arguments : List String),
    (⟨secondSlot,1⟩,arguments) ∈ p.shared.made ∧ ∃ commit, RootOf patchOnKcache secondSlot commit ∧
    makeArguments (plainSite.cpuCount 1) (commitCfg commit) = .ok arguments := by
  obtain ⟨p,hp,htest⟩ := Machine.exists_of_replay (machine plainSite patchOnKcache)
    (fun _ _ => True) bothBuild
    (fun p => (⟨secondSlot,1⟩,["-j4","ARCH=x86_64","CC=gcc","LD=ld"]) ∈ p.shared.made) idle_init
    (by decide +kernel)
  have hmade := of_decide_eq_true htest
  exact ⟨p,_,hmade,made_for_root keepsConfig_plain hp _ _ hmade⟩

end LiveKBench.KBuilder
