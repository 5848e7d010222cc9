import LiveKBench.KBuilder.KcacheChains

/-! The key of a kCache names one stage. What is stored under it was made by this very stage, and in
a bucket it stays for the jobs that build on it: no other stage, no other file and no other worker
overwrites it, and where the stage runs again a kCache takes its place. In a directory it does not
stay: an upload empties the file first. -/
namespace LiveKBench.KBuilder
open KCore
open KArenaPipeline (KBuilderArgument)
open Lib Lib.Pipeline

/-- Another worker writes elsewhere. -/
lemma otherKey_ne {slot slot' : Slot} {name type : String} (htype : type ≠ workerType)
    (hslash : '/' ∉ type.toList) : otherKey slot' type name ≠ slot.kcacheKey := by
  intro h
  obtain ⟨-,-,htypes,-⟩ := Resources.key_inj hslash (by decide) h
  exact htype htypes

section Stays
variable {Ω : Type} {site : Site Ω} {argument : Slot → KBuilderArgument} {slot slot' : Slot}
  {d : Delivery} {k : ℕ} {s s' : State}

/-- A tree that a stage makes of its source. -/
def OfStage (site : Site Ω) (argument : Slot → KBuilderArgument) (slot : Slot) (tree : Tree) : Prop :=
  ∃ kcacheCfg source tree', SourceOf site argument slot kcacheCfg source ∧
    Made site (argument slot).patch kcacheCfg source tree' ∧ tree = tree'.rmtreeGit

lemma Derives.ofStage {key : String} {tree : Tree} (h : Derives site argument key tree)
    (hkey : key = slot.kcacheKey) : OfStage site argument slot tree := by
  cases h with
  | scratch hsource checkout hmade =>
    obtain rfl := kcacheKey_inj hkey
    exact ⟨_,_,_,.scratch hsource checkout,hmade,rfl⟩
  | kcache hsource before hconfigured hmade =>
    obtain rfl := kcacheKey_inj hkey
    exact ⟨_,_,_,.kcache hsource before hconfigured,hmade,rfl⟩

/-- There is a kCache under the key of the stage. -/
def HasKcache (s : State) (slot : Slot) : Prop :=
  ∃ tree, s.storage slot.kcacheKey = some (.kcache tree)

lemma HasKcache.upload (h : HasKcache s slot) {key : String} {blob : Object}
    (hblob : key = slot.kcacheKey → ∃ tree, blob = .kcache tree) :
    HasKcache (s.upload key blob) slot := by
  obtain ⟨tree,htree⟩ := h
  by_cases hkey : slot.kcacheKey = key
  · obtain ⟨tree',rfl⟩ := hblob hkey.symm
    refine ⟨tree',?_⟩
    rw [hkey]
    exact Function.update_self _ _ _
  · exact ⟨tree,(Function.update_of_ne hkey _ _).trans htree⟩

lemma HasKcache.deliver (h : HasKcache s slot) {names : List String}
    (hnames : ∀ name ∈ names, name ∈ deliverables) : HasKcache (s.deliver slot' names) slot := by
  induction names generalizing s with
  | nil => exact h
  | cons name names ih =>
    refine ih (h.upload fun hkey => ?_) fun n hn => hnames n (List.mem_cons_of_mem _ hn)
    obtain rfl := (resourceKey_inj hkey).2
    exact absurd (hnames _ List.mem_cons_self) (by decide)

/-- But for the last group of a build, no request stores anything by itself. -/
lemma storage_of_exec {r : Request} {input : Input Ω} {x : Except TaskError r.Answer}
    (hr : r ≠ .deliver) (h : exec site d k r s input = some (s',x)) : s'.storage = s.storage := by
  unfold exec at h
  simp only at h
  split at h
  all_goals
    first
    | (exact absurd rfl hr)
    | (cases h <;> rfl)
    | simp only [Option.map_eq_some_iff,Option.bind_eq_some_iff,Option.ite_none_left_eq_some,
        Option.ite_none_right_eq_some] at h
      grind [State.setWorkspace,State.startCopy]

lemma hasKcache_of_exec {r : Request} {input : Input Ω} {x : Except TaskError r.Answer}
    (h : exec site d k r s input = some (s',x)) (hhas : HasKcache s slot) : HasKcache s' slot := by
  by_cases hr : r = .deliver
  · subst hr
    cases input with
    | delivered names ω =>
      obtain ⟨hnames,hpair⟩ := Option.ite_none_right_eq_some.mp h
      cases hpair
      exact HasKcache.deliver (s := s.setWorkspace k _) hhas hnames
    | undelivered names late e =>
      obtain ⟨hnames,hpair⟩ := Option.ite_none_right_eq_some.mp h
      cases hpair
      have hdelivered : HasKcache (s.deliver d.slot names) slot :=
        hhas.deliver fun name hname => hnames name (List.mem_append_left _ hname)
      obtain ⟨tree,htree⟩ := hdelivered
      refine ⟨tree,?_⟩
      rw [(startCopies_rest _ d.slot k late).2.2]
      exact htree
    | raises e =>
      cases h
      exact hhas
    | _ => cases h
  · obtain ⟨tree,htree⟩ := hhas
    exact ⟨tree,storage_of_exec hr h ▸ htree⟩

/-- In a bucket an upload to the key is there when a kCache is. -/
lemma hasKcache_of_happen {e : Other} (hbucket : site.backend.isLocal = false)
    (hcopies : AllFit site argument s.copies) (h : happen site e s = some s')
    (hhas : HasKcache s slot) : HasKcache s' slot := by
  cases e with
  | stores slot' workerType' inFolderKey =>
    obtain ⟨hother,h⟩ := Option.ite_none_left_eq_some.mp h
    cases h
    rw [not_or] at hother
    exact hhas.upload fun hkey => absurd hkey (otherKey_ne hother.1 hother.2)
  | truncates n =>
    obtain ⟨hlocal,-⟩ := Option.ite_none_right_eq_some.mp h
    rw [hbucket] at hlocal
    cases hlocal
  | lands n torn =>
    obtain ⟨hwhole,h⟩ := Option.ite_none_left_eq_some.mp h
    obtain ⟨c,hc,rfl⟩ := Option.map_eq_some_iff.mp h
    cases torn with
    | true =>
      rw [hbucket] at hwhole
      exact absurd rfl hwhole
    | false =>
      have hmem := List.mem_of_getElem? (Option.filter_eq_some_iff.mp hc).1
      exact hhas.upload fun hkey => (hcopies c hmem).kcache slot hkey
  | breaks n =>
    obtain ⟨c,hc,rfl⟩ := Option.map_eq_some_iff.mp h
    exact hhas

lemma hasKcache_step {p p' : Runs} {e : RunEvent Ω} {C : Runs → RunEvent Ω → Prop}
    (hbucket : site.backend.isLocal = false) (h : (machine site argument).ReachableBy C p)
    (hs : (machine site argument).step p e = some p') (hhas : HasKcache p.shared slot) :
    HasKcache p'.shared slot := by
  cases (builds site argument).moves_of_step hs with
  | start fresh => exact hhas
  | select call => exact hhas
  | enter call queued permit => exact hhas
  | cancel call cancels failed live => exact hhas
  | other happens =>
    obtain ⟨g,hi⟩ := inv_of_reachable h
    exact hasKcache_of_happen hbucket hi.copies happens hhas
  | resume called active exec => exact hasKcache_of_exec exec hhas

/-- A kCache that was stored in a bucket is there in every later state, or another one of the same
stage. -/
theorem kcache_stays {C : Runs → RunEvent Ω → Prop} {tr : List (Runs × RunEvent Ω)} {p q : Runs}
    {e : RunEvent Ω} {bucketName : String} (hbucket : site.backend = .gcs bucketName)
    (h : (machine site argument).Run C tr p) (hq : (q,e) ∈ tr) {tree : Tree}
    (hstored : q.shared.storage slot.kcacheKey = some (.kcache tree)) :
    ∃ tree', p.shared.storage slot.kcacheKey = some (.kcache tree') ∧
      OfStage site argument slot tree' := by
  have hnotLocal : site.backend.isLocal = false := by rw [hbucket]; rfl
  have hstays : HasKcache p.shared slot := by
    induction h with
    | start hi => cases hq
    | @next tr p e' p' hrun hc htaken ih =>
      refine hasKcache_step hnotLocal ⟨tr,hrun⟩ htaken ?_
      rcases List.mem_cons.mp hq with he | hq
      · cases he
        exact ⟨tree,hstored⟩
      · exact ih hq
  obtain ⟨tree',htree⟩ := hstays
  refine ⟨tree',htree,?_⟩
  exact (stored_kcache_derives ⟨tr,h.mono fun _ _ _ => trivial⟩ htree).ofStage rfl

end Stays

/-- The first stage runs again after the second one has built on its kCache, up to the upload. -/
def rebuilds : List (RunEvent Unit) :=
  bothBuild ++ begins 2 firstSlot 2 ++ checksOut 2 ++ makes 2 ++ resumes 2 [.size false,.go]

/-- Its upload times out, and the kCache of the first time is still there. -/
theorem kcache_stays_rebuilt : ∃ p tree, (machine plainSite patchOnKcache).Reachable p ∧
    p.shared.storage firstSlot.kcacheKey = some (.kcache tree) ∧
    OfStage plainSite patchOnKcache firstSlot tree := by
  obtain ⟨tr,p,hp,htest⟩ := Machine.exists_run_of_replay (machine plainSite patchOnKcache)
    (fun _ _ => True) (rebuilds ++ .other (.breaks 0) :: resumes 2 [.lost,.go])
    (fun tr _ => tr.any fun (q,_) => storedTexts ["HEAD"] q.shared firstSlot.kcacheKey =
      some [some "commit"]) idle_init (by decide +kernel)
  obtain ⟨⟨q,e⟩,hq,hseen⟩ := List.any_eq_true.mp htest
  obtain ⟨tree,hstored,-⟩ := stored_of_texts (of_decide_eq_true hseen)
  obtain ⟨tree',hstored',hstage⟩ := kcache_stays rfl hp hq hstored
  exact ⟨p,tree',⟨tr,hp⟩,hstored',hstage⟩

/-- The same jobs on a directory. -/
def fileSite : Site Unit := { plainSite with backend := .local "/mnt/bucket" }

/-- There the upload of the second time leaves no kCache, neither while it runs nor when it breaks. -/
theorem kcache_lost_rebuilt : ∃ (tr : List (Runs × RunEvent Unit)) (p : Runs),
    (machine fileSite patchOnKcache).Run (fun _ _ => True) tr p ∧
    (∃ q e, (q,e) ∈ tr ∧ HasKcache q.shared firstSlot) ∧ ¬HasKcache p.shared firstSlot := by
  obtain ⟨tr,p,hp,htest⟩ := Machine.exists_run_of_replay (machine fileSite patchOnKcache)
    (fun _ _ => True) (rebuilds ++ [.other (.truncates 0),.other (.breaks 0)])
    (fun tr p => (tr.any fun (q,_) => (storedTexts [] q.shared firstSlot.kcacheKey).isSome) &&
      (storedTexts [] p.shared firstSlot.kcacheKey).isNone) idle_init (by decide +kernel)
  obtain ⟨hbefore,hafter⟩ := (Bool.and_eq_true _ _).mp htest
  refine ⟨tr,p,hp,?_,?_⟩
  · obtain ⟨⟨q,e⟩,hq,hseen⟩ := List.any_eq_true.mp hbefore
    obtain ⟨texts,htexts⟩ := Option.isSome_iff_exists.mp hseen
    obtain ⟨tree,hstored,-⟩ := stored_of_texts htexts
    exact ⟨q,e,hq,tree,hstored⟩
  · rintro ⟨tree,hstored⟩
    simp [storedTexts,hstored] at hafter

end LiveKBench.KBuilder
