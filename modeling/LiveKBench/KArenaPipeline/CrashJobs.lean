import LiveKBench.KArenaPipeline.CrashVerdicts

/-! What the job of a row builds. A submission reads the agent's patch, the kCache and the content of
the patch one after the other, while other passes and other writers go on; the job that it creates
and the row that it inserts still belong together, as long as nobody takes back what it has read. -/
namespace LiveKBench.KArenaPipeline
open KCore
open KArenaDb
open Lib

namespace CrashRuns

/-- A row of a kCache that differs in its verdict at most. -/
structure SameBuild (kcache kcache' : KCache) : Prop where
  kCacheId : kcache'.kCacheId = kcache.kCacheId
  bugId : kcache'.bugId = kcache.bugId
  baseCommit : kcache'.baseCommit = kcache.baseCommit
  kGymJobId : kcache'.kGymJobId = kcache.kGymJobId

/-- Patches stay as they are, and kCaches stay those of their builds. -/
structure Grows (sources sources' : Eval.Sources) : Prop where
  agentPatches : ∀ id row, sources.agentPatches.get? id = some row →
    sources'.agentPatches.get? id = some row
  patches : ∀ id row, sources.patches.get? id = some row → sources'.patches.get? id = some row
  kcaches : ∀ id row, sources.kcaches.get? id = some row →
    ∃ row', sources'.kcaches.get? id = some row' ∧ SameBuild row row'

def DbGrows (db db' : Eval.Db) : Prop := Grows db.sources db'.sources

/-- Nobody takes back what the submissions read. -/
def Appends (_ : Runs) : RunEvent → Prop
  | .other (.write _ f) => ∀ sources, Grows sources (f sources)
  | _ => True

lemma SameBuild.refl (kcache : KCache) : SameBuild kcache kcache := ⟨rfl,rfl,rfl,rfl⟩

lemma SameBuild.trans {a b c : KCache} (h : SameBuild a b) (h' : SameBuild b c) : SameBuild a c where
  kCacheId := h'.kCacheId.trans h.kCacheId
  bugId := h'.bugId.trans h.bugId
  baseCommit := h'.baseCommit.trans h.baseCommit
  kGymJobId := h'.kGymJobId.trans h.kGymJobId

lemma Grows.refl (sources : Eval.Sources) : Grows sources sources :=
  ⟨fun _ _ h => h,fun _ _ h => h,fun _ row h => ⟨row,h,.refl row⟩⟩

lemma Grows.trans {a b c : Eval.Sources} (h : Grows a b) (h' : Grows b c) : Grows a c := by
  refine ⟨fun id row hrow => h'.agentPatches id row (h.agentPatches id row hrow),
    fun id row hrow => h'.patches id row (h.patches id row hrow),?_⟩
  intro id row hrow
  obtain ⟨row',hrow',hsame⟩ := h.kcaches id row hrow
  obtain ⟨row'',hrow'',hsame'⟩ := h'.kcaches id row' hrow'
  exact ⟨row'',hrow'',hsame.trans hsame'⟩

instance : Std.Refl DbGrows := ⟨fun db => .refl db.sources⟩

instance : IsTrans Eval.Db DbGrows := ⟨fun _ _ _ h h' => h.trans h'⟩

/-- What kGym has told is not forgotten. -/
structure Notes (s s' : State) : Prop where
  builds : s.builds ⊆ s'.builds
  created : s.created ⊆ s'.created

lemma notes_db (s : State) (db : Shared Eval.Db) : Notes s { s with db := db } :=
  ⟨List.Subset.refl _,List.Subset.refl _⟩

lemma notes_heard (s : State) (r : Eval.Request) (x : Except Raised r.Answer) :
    Notes s (s.heard r x) := ⟨List.subset_append_right _ _,List.subset_append_right _ _⟩

/-- The row is about a job that kGym was asked for, with what the row refers to. -/
def Backed (s : State) (db : Eval.Db) (row : PatchCrashResolutionEvaluation) : Prop :=
  ∃ agentPatch kcache build patch request jobId,
    JobOf agentPatch kcache build patch request jobId row ∧
    db.sources.agentPatches.get? agentPatch.agentPatchId = some agentPatch ∧
    db.sources.kcaches.get? kcache.kCacheId = some kcache ∧
    db.sources.patches.get? patch.patchId = some patch ∧
    (kcache.kGymJobId,build) ∈ s.builds ∧ (request,jobId) ∈ s.created

def AllBacked (s : State) (db : Eval.Db) : Prop := ∀ row ∈ db.crashEvals.rows, Backed s db row

/-- What a submission has been told is so in this database. -/
structure Known (s : State) (db : Eval.Db) (knows : Knows) : Prop where
  agentPatch : ∀ row ∈ knows.agentPatch,
    db.sources.agentPatches.get? row.agentPatchId = some row
  kcache : ∀ row ∈ knows.kcache,
    ∃ row', db.sources.kcaches.get? row.kCacheId = some row' ∧ SameBuild row row'
  patch : ∀ row ∈ knows.patch, db.sources.patches.get? row.patchId = some row
  build : ∀ build ∈ knows.build, build ∈ s.builds
  job : ∀ job ∈ knows.job, job ∈ s.created

section Knowledge
variable {s s' : State} {db db' : Eval.Db} {knows : Knows} {row : PatchCrashResolutionEvaluation}

lemma known_nothing : Known s db .nothing :=
  ⟨(fun _ h => nomatch h),(fun _ h => nomatch h),(fun _ h => nomatch h),(fun _ h => nomatch h),
    (fun _ h => nomatch h)⟩

lemma Known.mono (h : Known s db knows) (hdb : DbGrows db db') (hs : Notes s s') :
    Known s' db' knows := by
  refine ⟨fun row hrow => hdb.agentPatches _ row (h.agentPatch row hrow),?_,
    fun row hrow => hdb.patches _ row (h.patch row hrow),
    fun build hbuild => hs.builds (h.build build hbuild),
    fun job hjob => hs.created (h.job job hjob)⟩
  intro row hrow
  obtain ⟨row',hrow',hsame⟩ := h.kcache row hrow
  obtain ⟨row'',hrow'',hsame'⟩ := hdb.kcaches _ row' hrow'
  exact ⟨row'',hrow'',hsame.trans hsame'⟩

lemma JobOf.sameBuild {agentPatch : AgentPatch} {kcache kcache' : KCache} {build : KGymJob}
    {patch : Patch} {request : KJobRequest} {jobId : JobId}
    (h : JobOf agentPatch kcache build patch request jobId row) (hsame : SameBuild kcache kcache') :
    JobOf agentPatch kcache' build patch request jobId row :=
  { h with
    kCacheId := h.kCacheId.trans (congrArg _ hsame.kCacheId.symm)
    bug := ⟨hsame.bugId.trans h.bug.1,hsame.baseCommit.trans h.bug.2⟩ }

lemma Backed.mono (h : Backed s db row) (hdb : DbGrows db db') (hs : Notes s s') :
    Backed s' db' row := by
  obtain ⟨agentPatch,kcache,build,patch,request,jobId,hjob,ha,hk,hp,hb,hc⟩ := h
  obtain ⟨kcache',hk',hsame⟩ := hdb.kcaches _ kcache hk
  refine ⟨agentPatch,kcache',build,patch,request,jobId,hjob.sameBuild hsame,
    hdb.agentPatches _ _ ha,hsame.kCacheId ▸ hk',hdb.patches _ _ hp,?_,hs.created hc⟩
  exact hsame.kGymJobId ▸ hs.builds hb

lemma AllBacked.mono (h : AllBacked s db) (hdb : DbGrows db db') (hs : Notes s s')
    (hrows : db'.crashEvals = db.crashEvals) : AllBacked s' db' :=
  fun row hrow => (h row (hrows ▸ hrow)).mono hdb hs

/-- The row that a submission inserts is about the job that it has created. -/
lemma AllBacked.insert {eval : PatchCrashResolutionEvaluation} (h : AllBacked s db)
    (hknown : Known s db knows) (hsubmits : Submits knows eval) :
    AllBacked s (Eval.Db.insertCrashResolutionEval eval db).1 := by
  intro row hrow
  rcases List.mem_append.mp hrow with hrow | hrow
  · exact h row hrow
  · obtain rfl := List.mem_singleton.mp hrow
    obtain ⟨hjob,-,-,-⟩ := hsubmits
    obtain ⟨kcache',hk',hsame⟩ := hknown.kcache _ rfl
    have hjob' := hjob.sameBuild hsame
    refine ⟨_,kcache',_,_,_,_,⟨hjob'.agentPatchId,hjob'.kCacheId,hjob'.bug,hjob'.patchId,
      hjob'.content,hjob'.source,hjob'.job⟩,hknown.agentPatch _ rfl,hsame.kCacheId ▸ hk',
      hknown.patch _ rfl,?_,hknown.job _ rfl⟩
    exact hsame.kGymJobId ▸ hknown.build _ rfl

lemma AllBacked.update (h : AllBacked s db) (eval : PatchCrashResolutionEvaluation) :
    AllBacked s (updateEval eval db) := by
  intro _ hupdated
  obtain ⟨row,hrow,rfl⟩ := List.mem_map.mp hupdated
  split
  · obtain ⟨agentPatch,kcache,build,patch,request,jobId,hjob,hrest⟩ := h row hrow
    exact ⟨agentPatch,kcache,build,patch,request,jobId,⟨hjob.agentPatchId,hjob.kCacheId,hjob.bug,
      hjob.patchId,hjob.content,hjob.source,hjob.job⟩,hrest⟩
  · exact h row hrow

/-- What a submission hears it knows. -/
lemma Known.heard {r : Eval.Request} {x : Except Raised r.Answer} (h : Known s db knows)
    (hreads : Reads db r x) : Known (s.heard r x) db (knows.learn r x) := by
  have hmono : Known (s.heard r x) db knows := h.mono (refl_of DbGrows db) (notes_heard s r x)
  cases x with
  | error e => cases r <;> exact hmono
  | ok a =>
    cases r with
    | getAgentPatch id =>
      refine { hmono with agentPatch := ?_ }
      intro row hrow
      obtain rfl : a = db.sources.agentPatches.get? id := hreads
      exact Table.key_of_get? hrow ▸ hrow
    | getLatestKcache bugId baseCommit =>
      refine { hmono with kcache := ?_ }
      intro row hrow
      obtain rfl : a = db.latestKcache bugId baseCommit := hreads
      exact ⟨row,Table.get?_eq_some.mpr ⟨(mem_of_latestKcache hrow).1,rfl⟩,.refl row⟩
    | getPatch id =>
      refine { hmono with patch := ?_ }
      intro row hrow
      obtain rfl : a = db.sources.patches.rows.find? _ := hreads
      exact Table.get?_eq_some.mpr ⟨List.mem_of_find?_eq_some hrow,rfl⟩
    | getJob jobId =>
      refine { hmono with build := ?_ }
      intro build hbuild
      cases a with
      | none => cases hbuild
      | some job =>
        cases hbuild
        exact List.mem_cons_self
    | createJob request =>
      refine { hmono with job := ?_ }
      intro job hjob
      cases hjob
      exact List.mem_cons_self
    | _ => exact hmono

end Knowledge

/-! ## What holds between the steps -/

structure JobInv (s : State) (calls : ℕ → Option (Call Args Item)) (g : ℕ × Item → Option Phase) :
    Prop where
  current : AllBacked s s.db.current
  committed : AllBacked s s.db.committed
  ahead : DbGrows s.db.committed s.db.current
  known : ∀ k i knows call, g (k,i) = some (.submitting knows) → calls k = some call →
    Known s (s.db.view call.args.connection) knows

section Keeping
variable {s s' : State} {calls : ℕ → Option (Call Args Item)} {g : ℕ × Item → Option Phase} {k : ℕ}
  {i : Item} {t : Phase} {c : ℕ}

/-- What the submissions know they know of what comes after, too. -/
lemma JobInv.known_mono (h : JobInv s calls g) (hdb : s.db.Advances DbGrows s'.db)
    (hs : Notes s s') : ∀ k i knows call, g (k,i) = some (.submitting knows) →
      calls k = some call → Known s' (s'.db.view call.args.connection) knows :=
  fun k i knows call hg hcall => (h.known k i knows call hg hcall).mono (hdb.view _) hs

/-- A task goes on, and what the others know is still so. -/
lemma JobInv.goes (h : JobInv s calls g) (current : AllBacked s' s'.db.current)
    (committed : AllBacked s' s'.db.committed) (hdb : s.db.Advances DbGrows s'.db)
    (hs : Notes s s') (hknown : ∀ knows call, t = .submitting knows → calls k = some call →
      Known s' (s'.db.view call.args.connection) knows) :
    JobInv s' calls (Function.update g (k,i) (some t)) := by
  refine ⟨current,committed,hdb.ahead,?_⟩
  intro k' i' knows call hg hcall
  by_cases hki : (k',i') = (k,i)
  · cases hki
    rw [Function.update_self] at hg
    exact hknown knows call (Option.some.inj hg) hcall
  · rw [Function.update_of_ne hki] at hg
    exact h.known_mono hdb hs k' i' knows call hg hcall

/-- A task goes on, and the database is as it was. -/
lemma JobInv.moves (h : JobInv s calls g) (hdb : s'.db = s.db) (hs : Notes s s')
    (hknown : ∀ knows call, t = .submitting knows → calls k = some call →
      Known s' (s.db.view call.args.connection) knows) :
    JobInv s' calls (Function.update g (k,i) (some t)) := by
  refine h.goes ?_ ?_ ?_ hs fun knows call ht hcall => hdb ▸ hknown knows call ht hcall
  · exact hdb ▸ h.current.mono (refl_of DbGrows _) hs rfl
  · exact hdb ▸ h.committed.mono (refl_of DbGrows _) hs rfl
  · rw [hdb]
    exact Shared.advances_refl h.ahead

lemma JobInv.commit (h : JobInv s calls g) (c : ℕ) :
    JobInv { s with db := s.db.commit c } calls g := by
  have hdb : s.db.Advances DbGrows (s.db.commit c) := Shared.advances_commit h.ahead c
  refine ⟨?_,?_,hdb.ahead,h.known_mono hdb (notes_db s _)⟩
  · change AllBacked s (s.db.commit c).current
    rw [Shared.current_commit]
    exact h.current
  · change AllBacked s (s.db.commit c).committed
    rw [Shared.committed_commit]
    rcases s.db.view_eq c with he | he
    · exact he ▸ h.current
    · exact he ▸ h.committed

lemma JobInv.stays (h : JobInv s calls g) (hg : g (k,i) = some t) :
    JobInv s calls (Function.update g (k,i) (some t)) := by
  rw [← hg,Function.update_eq_self]
  exact h

/-- A connection writes. -/
lemma JobInv.executes {α : Type} {f : Eval.Db → Eval.Db × α} {db' : Shared Eval.Db} {a : α}
    (h : JobInv s calls g) (hx : s.db.Executes c f db' a) (hgrows : ∀ db, DbGrows db (f db).1)
    (hcurrent : AllBacked s (f s.db.current).1) : JobInv { s with db := db' } calls g := by
  have hdb : s.db.Advances DbGrows db' := hx.advances h.ahead (hgrows _)
  exact ⟨hx.current ▸ hcurrent,hx.committed ▸ h.committed,hdb.ahead,h.known_mono hdb (notes_db s _)⟩

end Keeping

section Resumption
variable {s : State} {calls : ℕ → Option (Call Args Item)} {g : ℕ × Item → Option Phase} {k : ℕ}
  {i : Item} {t : Phase} {call : Call Args Item}

lemma JobInv.raises (h : JobInv s calls g) (hg : g (k,i) = some t) (r : Request) (e : Raised) :
    ∃ t', leads t r (.error e) t' ∧ JobInv s calls (Function.update g (k,i) (some t')) :=
  ⟨t,leads_error t r e,h.stays hg⟩

/-- A request of a submission is answered. -/
lemma JobInv.submission {r : Eval.Request} {s' : State} {x : Except Raised r.Answer}
    (h : JobInv s calls g) (hg : g (k,i) = some t) (hcall : calls k = some call)
    (hr : allowed t (.submission r)) (hx : Answers call.args s (.submission r) s' x) :
    ∃ t', leads t (.submission r) x t' ∧
      JobInv s' calls (Function.update g (k,i) (some t')) := by
  cases hx with
  | raised => exact h.raises hg _ _
  | heard reads =>
    cases t with
    | submitting knows =>
      refine ⟨_,⟨answerable_of_reads reads,rfl⟩,?_⟩
      refine h.moves rfl (notes_heard s r x) ?_
      rintro _ _ ⟨⟩ hcall'
      obtain rfl : call = _ := Option.some.inj (hcall.symm.trans hcall')
      exact (h.known k i knows call hg hcall).heard reads
    | written => exact ⟨_,rfl,h.moves rfl (notes_heard s r x) (fun _ _ ht => nomatch ht)⟩
    | polling evalId => exact hr.elim
    | read record => exact hr.elim
    | fetched record jobId job => exact hr.elim
  | commit =>
    cases t with
    | submitting knows => exact ⟨_,⟨trivial,rfl⟩,(h.commit call.args.connection).stays hg⟩
    | written => exact ⟨_,rfl,(h.commit call.args.connection).stays hg⟩
    | polling evalId => exact hr.elim
    | read record => exact hr.elim
    | fetched record jobId job => exact hr.elim
  | @insert eval db' id hx =>
    cases t with
    | submitting knows =>
      have hknown := h.known k i knows call hg hcall
      rw [hx.view] at hknown
      refine ⟨_,⟨trivial,rfl⟩,JobInv.stays (h.executes hx (fun db => .refl _) ?_) hg⟩
      exact h.current.insert hknown hr
    | written => cases hr
    | polling evalId => exact hr.elim
    | read record => exact hr.elim
    | fetched record jobId job => exact hr.elim

lemma notes_answered (s : State) (answered : List (JobId × KGymJob)) :
    Notes s { s with answered := answered } := ⟨List.Subset.refl _,List.Subset.refl _⟩

/-- A request of a poll is answered. -/
lemma JobInv.poll {r : Request} {s' : State} {x : Except Raised r.Answer} (h : JobInv s calls g)
    (hg : g (k,i) = some t) (hr : allowed t r) (hpoll : ∀ r', r ≠ .submission r')
    (hx : Answers call.args s r s' x) :
    ∃ t', leads t r x t' ∧ JobInv s' calls (Function.update g (k,i) (some t')) := by
  cases hx with
  | heard reads => exact absurd rfl (hpoll _)
  | commit => exact absurd rfl (hpoll _)
  | insert hx => exact absurd rfl (hpoll _)
  | raised => exact h.raises hg _ _
  | @getCrashResolutionEval evalId =>
    cases hrecord : (s.db.view call.args.connection).crashEvals.get? evalId with
    | none => exact ⟨t,rfl,h.stays hg⟩
    | some record =>
      refine ⟨.read record,⟨Table.key_of_get? hrecord,rfl⟩,h.moves rfl (notes_db s _) (fun _ _ ht => nomatch ht)⟩
  | @getJob jobId job =>
    cases t with
    | read record =>
      cases job with
      | none => exact ⟨.read record,rfl,h.moves rfl (notes_answered s _) (fun _ _ ht => nomatch ht)⟩
      | some job => exact ⟨.fetched record jobId job,rfl,h.moves rfl (notes_answered s _) (fun _ _ ht => nomatch ht)⟩
    | submitting knows => exact hr.elim
    | polling evalId => exact hr.elim
    | fetched record jobId' job => exact hr.elim
    | written => exact hr.elim
  | @update eval db' a hx =>
    have hwritten := h.executes hx (fun db => .refl _) (h.current.update eval)
    exact ⟨.written,rfl,hwritten.moves rfl (notes_db _ _) (fun _ _ ht => nomatch ht)⟩

end Resumption

/-- Others write only what takes nothing back. -/
lemma JobInv.happen {p : Runs} {s : State} {g : ℕ × Item → Option Phase} {e : Eval.Other}
    (h : JobInv p.shared p.calls g) (hc : Appends p (.other e))
    (he : CrashRuns.happen e p.shared = some s) : JobInv s p.calls g := by
  obtain ⟨db,hdb,rfl⟩ := Option.map_eq_some_iff.mp he
  cases e with
  | commit c =>
    cases hdb
    exact h.commit c
  | write c f =>
    obtain ⟨⟨db',a⟩,hx,rfl⟩ := Option.map_eq_some_iff.mp hdb
    have hgrows : ∀ db : Eval.Db, DbGrows db { db with sources := f db.sources } :=
      fun db => hc db.sources
    exact h.executes (Shared.executes_of_execute hx) hgrows
      (h.current.mono (hgrows _) (notes_db _ p.shared.db) rfl)

theorem jobs_upheld : crashRuns.Upholds protocol Anyhow firstPhase Appends JobInv where
  body := work_follows
  starts := by
    intro p g k args _ hi _ _ hnone
    refine ⟨hi.current,hi.committed,hi.ahead,?_⟩
    intro k' i knows call hg hcall
    have hk : k' ≠ k := by
      rintro rfl
      rw [hnone] at hg
      cases hg
    rw [Function.update_of_ne hk] at hcall
    exact hi.known k' i knows call hg hcall
  selects := by
    intro p g k args _ hi _ _ hnone
    refine ⟨hi.current,hi.committed,hi.ahead,?_⟩
    intro k' i knows call hg hcall
    rcases Pipeline.spawned_cases hnone hg with ⟨-,-,ht⟩ | ⟨hk,hg⟩
    · cases i <;> cases ht
      exact known_nothing
    · rw [Function.update_of_ne hk] at hcall
      exact hi.known k' i knows call hg hcall
  resumes := by
    intro p g k i input call r c s x t _ hi _ hcall _ hg hr hexec
    have hx := answers_of_exec hr hexec
    cases r with
    | submission r => exact hi.submission hg hcall hr hx
    | getCrashResolutionEval evalId => exact hi.poll hg hr (fun _ h => nomatch h) hx
    | getJob jobId => exact hi.poll hg hr (fun _ h => nomatch h) hx
    | updateCrashResolutionEval eval => exact hi.poll hg hr (fun _ h => nomatch h) hx
  cancels := by
    intro p g k i args items t _ hi _ _ _ _ _ hg
    exact ⟨t,.ok (),trivial,hi.stays hg⟩
  others _ _ _ _ _ hi hc he := hi.happen hc he

/-- As long as nobody takes back what submissions read, every row that a connection sees is about a
job that builds the very patch of its agent on the kCache that the row names. -/
theorem jobs_of_own_patches {p : Runs} (h : machine.ReachableBy Appends p) (connection : ℕ) :
    ∀ row ∈ (p.shared.db.view connection).crashEvals.rows,
      Backed p.shared (p.shared.db.view connection) row := by
  have hinit : ∀ s, Unevaluated s → JobInv s (fun _ => none) fun _ => none := by
    rintro _ ⟨db,rfl,hempty⟩
    have hnone : AllBacked ⟨.opened db,[],[],[]⟩ db := by simp [AllBacked,hempty]
    exact ⟨hnone,hnone,.refl _,fun _ _ _ _ hg => nomatch hg⟩
  obtain ⟨g,-,hi⟩ := jobs_upheld.reachable hinit h
  rcases p.shared.db.view_eq connection with he | he
  · exact he ▸ hi.current
  · exact he ▸ hi.committed

/-- Nobody else writes. -/
def alone : RunEvent → Bool
  | .other (.write _ _) => false
  | _ => true

theorem jobs_of_own_patches_overlapping : ∃ p, machine.ReachableBy Appends p ∧
    (p.shared.db.view 3).crashEvals.rows.map (fun row => row.kGymEvalJobId) = ["00000007"] ∧
    ∀ row ∈ (p.shared.db.view 3).crashEvals.rows, Backed p.shared (p.shared.db.view 3) row := by
  obtain ⟨p,hp,htest⟩ := Machine.exists_of_replay machine (fun _ e => alone e = true)
    (bothPoll KcacheLife.imageJob KcacheLife.imageJob)
    (fun p => (p.shared.db.view 3).crashEvals.rows.map (fun row => row.kGymEvalJobId) =
      ["00000007"]) oneUnevaluated_init (by decide +kernel)
  have happends : machine.ReachableBy Appends p := by
    refine hp.mono fun p e he => ?_
    cases e with
    | other e =>
      cases e with
      | write c f => cases he
      | commit c => trivial
    | _ => trivial
  exact ⟨p,happends,of_decide_eq_true htest,jobs_of_own_patches happends 3⟩

end CrashRuns
end LiveKBench.KArenaPipeline
