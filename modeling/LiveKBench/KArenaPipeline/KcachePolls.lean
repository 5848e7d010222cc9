import LiveKBench.KArenaPipeline.KcacheLife
import LiveKBench.Lib.WithoutItem

/-! What `populate_kcache_builds` does to the rows over all sequences of passes: it ends normally
whatever its polls raise, and each row is polled as if the others were not there. -/
namespace LiveKBench.KArenaPipeline
open KCore
open KArena (EvaluationResult)
open KArenaWeb (DateTime midJanuary)
open KArenaDb
open Lib Kcache

namespace KcacheLife

section Poll
variable {s₀ : State} {args : Args} {tr : Trace} {p : Runs}

lemma unfinished_false (e : RunEvent) : Unfinished (fun _ => False) e := by
  unfold Unfinished
  split
  · exact False.elim
  · trivial

theorem inv_of_pass {U : ℕ → Prop} (hs : Coherent s₀.db) (h : Pass s₀ args tr p)
    (hU : ∀ q e, (q,e) ∈ tr → Unfinished U e) :
    ∃ g, Pipeline.Typed protocol Ends firstPhase p g ∧ Inv s₀ args U p.shared p.calls g := by
  refine upholds.reachable ?_ ⟨tr,h.restrict hU⟩
  rintro _ rfl
  exact ⟨by simp,by simp,fun _ => rfl,by simp,by simp,fun _ _ hr _ => hr,by simp,hs,
    fun _ => Keeps.refl _⟩

/-- What a poll asks of the database. -/
def asks (i : Item) : Request → Prop
  | .insertKcache _ => False
  | .getKcacheById id => i = .row id
  | .updateKcachePollResult kcache => i = .row kcache.kCacheId
  | _ => True

/-- The polls ask for their own rows only, and none of them fails. -/
lemma calm_of_pass (hs : Coherent s₀.db) (hpoll : args.kind = .poll) (h : Pass s₀ args tr p) :
    Pipeline.Calm 0 asks p := by
  obtain ⟨g,ht,hi⟩ := inv_of_pass hs h fun _ e _ => unfinished_false e
  constructor
  · intro i r c hactive
    obtain ⟨t,hg,hallowed⟩ := ht.allowed hactive
    have hitem := (hi.item 0 i t hg).2
    obtain ⟨id,rfl⟩ := hi.rows hpoll 0 i t hg
    cases r with
    | insertKcache kcache =>
      obtain ⟨submission,hsubmission⟩ := exists_submission hallowed.1
      rw [hitem] at hsubmission
      cases hsubmission
    | getKcacheById id' => exact hitem ▸ hallowed.1
    | updateKcachePollResult kcache => exact hitem ▸ hallowed.1
    | _ => trivial
  · intro items
    refine List.any_eq_false.mpr fun i _ => ?_
    have hfits := ht 0 i
    cases htask : p.task (0,i) with
    | ended x =>
      rw [htask] at hfits
      obtain ⟨t,hg,hend⟩ := hfits
      obtain ⟨id,rfl⟩ := hi.rows hpoll 0 i t hg
      rw [hend.polled ⟨id,(hi.item 0 _ t hg).2⟩]
      simp [Task.failed]
    | absent => simp [Task.failed]
    | queued => simp [Task.failed]
    | active c => simp [Task.failed]
    | cancelled => simp [Task.failed]

lemma within_ask (r : Request) : (ask r).Within 1 := Coroutine.within_request r

lemma within_ofExcept {α : Type} (x : Except Raised α) :
    (Coroutine.ofExcept x : Work α).Within 0 := by
  cases x <;> trivial

lemma within_orRaise {α : Type} (message : String) (row : Option α) :
    (orRaise message row : Work α).Within 0 := by
  cases row <;> trivial

lemma within_record (kcache : DateTime → KCache) :
    (do let addedTime ← ask .now
        let _ ← insertKcache (kcache addedTime)
        : Work Unit).Within 3 :=
  (within_ask .now).bind fun _ => ((within_ask _).bind fun _ => (within_ask .commit).bind fun _ =>
    Coroutine.within_pure _ 0).bind fun _ => Coroutine.within_pure _ 0

lemma within_submitSingle (baseCommit : BaseCommit) (submission : Submission) :
    (submitSingle baseCommit submission).Within 4 := by
  have hcreate : (createJob submission).Within 1 :=
    (within_ofExcept _).bind fun request => within_ask (.createJob request)
  change (submitSingle baseCommit submission).Within (1+0+0+3)
  refine ((hcreate.bind fun _ => Coroutine.within_pure _ 0).tryCatch
    fun _ => Coroutine.within_pure _ 0).bind fun created => ?_
  cases created with
  | error e => exact within_record _
  | ok jobId => exact within_record _

lemma within_pollOne (id : ℕ) : (pollOne id).Within 5 := by
  have hget : (getKcacheById id).Within 1 := (within_ask _).bind fun _ => within_orRaise _ _
  have hreport : ∀ verdict, (downloadReport verdict).Within 1 := by
    intro verdict
    unfold downloadReport
    cases reportOf verdict with
    | none => exact Coroutine.within_pure _ 1
    | some report =>
      exact ((within_ask _).bind fun _ => Coroutine.within_pure _ 0).tryCatch
        fun _ => Coroutine.within_pure _ 0
  have hupdate : ∀ kcache, (updateKcachePollResult kcache).Within 2 := fun kcache =>
    (within_ask _).bind fun _ => within_ask _
  have hpoll : (pollSingle id).Within 5 := by
    refine hget.bind (n := 4) fun kcache => ?_
    split
    · exact Coroutine.within_pure _ 4
    · refine (within_ofExcept _).bind (n := 4) fun jobId =>
        (within_ask _).bind (n := 3) fun job => ?_
      cases doneJob job with
      | none => exact Coroutine.within_pure _ 3
      | some job =>
        exact (within_ofExcept _).bind fun verdict => (hreport verdict).bind fun report =>
          hupdate _
  exact hpoll.tryCatch fun _ => Coroutine.within_pure _ 0

lemma within_work (args : Args) (i : Item) : (work args i).Within 5 := by
  cases i with
  | row id => exact within_pollOne id
  | submission submission =>
    unfold work
    cases args.kind with
    | poll => exact Coroutine.within_pure _ 5
    | submit submitArgs => exact (within_submitSingle _ _).mono (by omega)

/-- Every request can be answered, be it with an exception. -/
lemma exec_isSome (args : Args) (task : ℕ × Item) (r : Request) (s : State) :
    ∃ input s' x, exec args task r s input = some (s',x) := by
  cases r with
  | now => exact ⟨.time midJanuary,_,_,rfl⟩
  | _ => exact ⟨.raises .indexError,_,_,rfl⟩

/-- A poll pass with no step left has brought all its polls to a normal end. -/
theorem ended_of_stuck (hs : Coherent s₀.db) (hpoll : args.kind = .poll)
    (hlimit : 0 < args.maxConcurrent) (h : Pass s₀ args tr p)
    (hstuck : ∀ e, Pipeline.OfCall 0 args e → kcacheBuilds.step p e = none) :
    ∀ id ∈ (s₀.db.view args.connection).submittedKcacheBuilds,
      p.task (0,.row id) = .ended (.ok ()) := by
  intro id hid
  have hmem : Item.row id ∈ selectItems args s₀ := by
    simpa [selectItems,hpoll] using hid
  obtain ⟨hcall,hdead⟩ := Pipeline.ended_of_stuck within_work h hstuck (by
    simp only [kcacheBuilds,ne_eq,Option.some.injEq]
    omega) fun i r => exec_isSome args (0,i) r p.shared
  have hexists : p.task (0,.row id) ≠ .absent :=
    (Pipeline.formed_of_reachable ⟨tr,h⟩ 0 _).mpr ⟨_,_,hcall,hmem⟩
  have hnot := Pipeline.not_cancelled_of_calm
    (fun _ _ h' => calm_of_pass hs hpoll h') h (.row id)
  have hunfailed := (calm_of_pass hs hpoll h).unfailed [.row id]
  have hlive := hdead _ hmem
  cases htask : p.task (0,.row id) with
  | absent => exact absurd htask hexists
  | queued => simp [htask,Task.isLive] at hlive
  | active c => simp [htask,Task.isLive] at hlive
  | cancelled => exact absurd htask hnot
  | ended x =>
    cases x with
    | ok a => rfl
    | error e => simp [Pool.anyFailed,htask,Task.failed] at hunfailed

end Poll

/-! ## A pass without one of its rows -/

def withoutRow (id : ℕ) (db : Db) : Db :=
  { db with kcaches := db.kcaches.delete fun row => row.kCacheId = id }

def stateWithoutRow (id : ℕ) (s : State) : State :=
  { s with db := s.db.map (KcacheLife.withoutRow id) }

/-- The second database has the rows of the first but one. -/
def Lacks (id : ℕ) (db db' : Db) : Prop :=
  db'.kcaches.rows = db.kcaches.rows.filter fun row => row.kCacheId ≠ id

/-- A connection sees two databases of which the second lacks a row. -/
structure Apart (c id : ℕ) (s s' : State) : Prop where
  view : Lacks id (s.db.view c) (s'.db.view c)
  current : Lacks id s.db.current s'.db.current
  waits : (∀ w ∈ s.db.writer, w.1 = c) ↔ ∀ w ∈ s'.db.writer, w.1 = c

section Without
variable {id c : ℕ} {db db' : Db} {s s' : State} {args : Args} {kcache : KCache}

lemma lacks_withoutRow (id : ℕ) (db : Db) : Lacks id db (withoutRow id db) := by
  change db.kcaches.rows.filter _ = _
  congr 1
  funext row
  simp

lemma apart_withoutRow (c id : ℕ) (s : State) : Apart c id s (stateWithoutRow id s) := by
  refine ⟨?_,?_,?_⟩
  · simpa [stateWithoutRow] using lacks_withoutRow id (s.db.view c)
  · simpa [stateWithoutRow] using lacks_withoutRow id s.db.current
  · constructor
    · intro hw w hmem
      obtain ⟨w₀,hw₀,rfl⟩ := Shared.mem_writer_map.mp hmem
      exact hw w₀ hw₀
    · intro hw w hmem
      exact hw (w.1,KcacheLife.withoutRow id w.2) (Shared.mem_writer_map.mpr ⟨w,hmem,rfl⟩)

lemma Lacks.get? (h : Lacks id db db') {j : ℕ} (hj : j ≠ id) :
    db'.kcaches.get? j = db.kcaches.get? j := by
  change db'.kcaches.rows.find? _ = db.kcaches.rows.find? _
  rw [h,List.find?_filter]
  congr 1
  funext row
  by_cases hrow : row.kCacheId = j
  · simp [hrow,hj]
  · simp [hrow]

lemma Lacks.submitted (h : Lacks id db db') :
    db'.submittedKcacheBuilds = db.submittedKcacheBuilds.filter (· ≠ id) := by
  change (db'.kcaches.rows.filter _).map _ = ((db.kcaches.rows.filter _).map _).filter _
  rw [h,List.filter_map,List.filter_filter,List.filter_filter]
  congr 1
  refine List.filter_congr fun row _ => ?_
  simp [Bool.and_comm]

/-- The same update keeps the databases apart. -/
lemma Lacks.update (h : Lacks id db db') :
    Lacks id (db.updateKcachePollResult kcache) (db'.updateKcachePollResult kcache) := by
  change db'.kcaches.rows.map _ = (db.kcaches.rows.map _).filter _
  rw [h,List.filter_map]
  congr 1
  refine List.filter_congr fun row _ => ?_
  simp only [Function.comp_apply]
  split <;> rfl

/-- An update of the row that the second database lacks is no change to it. -/
lemma Lacks.update_row (h : Lacks kcache.kCacheId db db') :
    Lacks kcache.kCacheId (db.updateKcachePollResult kcache) db' := by
  change db'.kcaches.rows = (db.kcaches.rows.map _).filter _
  rw [h,List.filter_map]
  have hkept : ∀ row : KCache, row.kCacheId ≠ kcache.kCacheId →
      (if decide (row.kCacheId = kcache.kCacheId) then setPollResult kcache row else row) = row :=
    fun row hrow => by simp [hrow]
  refine ((List.map_congr_left fun row hrow => ?_).trans (List.map_id _)).symm.trans
    (congrArg _ (List.filter_congr fun row _ => ?_))
  · exact hkept row (by simpa using (List.mem_filter.mp hrow).2)
  · simp only [Function.comp_apply]
    split <;> rfl

lemma Apart.execute {f : Db → Db × Unit} (h : Apart c id s s')
    (hf : ∀ db db', Lacks id db db' → Lacks id (f db).1 (f db').1) {t : Shared Db} {a : Unit}
    (hx : s.db.Executes c f t a) : ∃ t', s'.db.execute c f = some (t',a) ∧
      Apart c id { s with db := t } { s' with db := t' } := by
  obtain ⟨t',a',he⟩ := Shared.execute_isSome (h.waits.mp hx.waits) f
  have hx' := Shared.executes_of_execute he
  have hcurrent : Lacks id t.current t'.current := by
    rw [hx.current,hx'.current]
    exact hf _ _ h.current
  refine ⟨t',he,?_,hcurrent,?_⟩
  · change Lacks id (t.view c) (t'.view c)
    rwa [hx.view_eq,if_pos rfl,hx'.view_eq,if_pos rfl]
  · simp [hx.writer,hx'.writer]

/-- The connection sees its own last state where it does not wait for another. -/
lemma view_eq_current {db : Shared Db} (h : ∀ w ∈ db.writer, w.1 = c) : db.view c = db.current := by
  cases hw : db.writer with
  | none => simp [Shared.view,Shared.current,hw]
  | some w => simp [Shared.view,Shared.current,hw,h w hw]

lemma writer_commit_own {db : Shared Db} :
    (∀ w ∈ (db.commit c).writer, w.1 = c) ↔ ∀ w ∈ db.writer, w.1 = c := by
  cases hw : db.writer with
  | none => simp [Shared.commit,hw]
  | some w => by_cases hc : w.1 = c <;> simp [Shared.commit,hw,hc]

lemma view_commit_own {db : Shared Db} : (db.commit c).view c = db.view c := by
  cases hw : db.writer with
  | none => simp [Shared.commit,hw]
  | some w => by_cases hc : w.1 = c <;> simp [Shared.commit,Shared.view,hw,hc]

lemma Apart.commit_left (h : Apart c id s s') : Apart c id { s with db := s.db.commit c } s' := by
  refine ⟨?_,?_,writer_commit_own.trans h.waits⟩
  · exact view_commit_own.symm ▸ h.view
  · exact (Shared.current_commit s.db c).symm ▸ h.current

lemma Apart.commit_right (h : Apart c id s s') :
    Apart c id s { s' with db := s'.db.commit c } := by
  refine ⟨?_,?_,h.waits.trans writer_commit_own.symm⟩
  · exact view_commit_own.symm ▸ h.view
  · exact (Shared.current_commit s'.db c).symm ▸ h.current

theorem spares (hpoll : args.kind = .poll) :
    Pipeline.Spares kcacheBuilds 0 args (.row id) asks (Apart args.connection id) where
  select := by
    intro s s' h
    simp only [kcacheBuilds,selectItems,hpoll,h.view.submitted,List.filter_map]
    congr 1
    refine List.filter_congr fun j _ => ?_
    simp
  others := by
    intro i r s s' input t x hi hasks h hexec
    cases input with
    | raises e => cases r <;> cases hexec <;> exact ⟨s',rfl,h⟩
    | go =>
      cases r with
      | insertKcache kcache => exact hasks.elim
      | updateKcachePollResult kcache =>
        obtain ⟨⟨db',a⟩,he,hpair⟩ := Option.map_eq_some_iff.mp hexec
        cases hpair
        obtain ⟨t',he',hapart⟩ := h.execute (fun _ _ hl => hl.update)
          (Shared.executes_of_execute he)
        exact ⟨_,Option.map_eq_some_iff.mpr ⟨_,he',rfl⟩,hapart⟩
      | commit =>
        cases hexec
        exact ⟨_,rfl,h.commit_left.commit_right⟩
      | getKcacheById j =>
        cases hexec
        have hj : j ≠ id := by
          rintro rfl
          exact hi hasks
        refine ⟨s',?_,h⟩
        change some (s',Except.ok ((s'.db.view _).kcaches.get? j)) = _
        rw [h.view.get? hj]
      | createJob request => cases hexec
      | now => cases hexec
      | getJob jobId => cases hexec
      | downloadReport key => cases hexec
    | time now => cases r <;> cases hexec; exact ⟨s',rfl,h⟩
    | jobId jobId => cases r <;> cases hexec; exact ⟨_,rfl,h.view,h.current,h.waits⟩
    | job job => cases r <;> cases hexec; exact ⟨s',rfl,h⟩
    | report text => cases r <;> cases hexec; exact ⟨s',rfl,h⟩
  item := by
    intro r s s' input t x hasks h hexec
    have hanswer : exec args (0,.row id) r s input = some (t,x) := hexec
    cases answers_of_exec hanswer with
    | raised => exact h
    | createJob => exact ⟨h.view,h.current,h.waits⟩
    | now => exact h
    | downloadReport => exact h
    | getKcacheById => exact h
    | getJob => exact h
    | commit => exact h.commit_left
    | insertKcache hx => exact hasks.elim
    | @updateKcachePollResult kcache db' a hx =>
      obtain rfl : id = kcache.kCacheId := Item.row.inj hasks
      have hview : s.db.view args.connection = s.db.current := hx.view
      have hview' : s'.db.view args.connection = s'.db.current :=
        view_eq_current (h.waits.mp hx.waits)
      have hcurrent : Lacks kcache.kCacheId db'.current s'.db.current := by
        rw [hx.current]
        exact h.current.update_row
      refine ⟨?_,hcurrent,?_⟩
      · change Lacks _ (db'.view args.connection) _
        rwa [hx.view_eq,if_pos rfl,hview']
      · simpa [hx.writer] using h.waits.mp hx.waits

end Without

/-! ## Sequences of passes -/

/-- What passes one after the other, and changes of the bugs and commits between them, make of a
state. A pass may have stopped at any step. -/
inductive Later (s : State) : State → Prop
  | refl : Later s s
  | pass {s' args tr p} (before : Later s s') (run : Pass s' args tr p) : Later s p.shared
  | other {s' e s''} (before : Later s s') (happens : happen e s' = some s'') : Later s s''

section Sequences
variable {s s' : State} {args : Args} {tr : Trace} {p : Runs}

lemma coherent_happen {e : Other} (h : Coherent s.db) (he : happen e s = some s') :
    Coherent s'.db ∧ ∀ c, Keeps (s.db.view c) (s'.db.view c) := by
  cases e with
  | writeBugs c f =>
    obtain ⟨⟨db',a⟩,hx,rfl⟩ := Option.map_eq_some_iff.mp he
    exact h.executes (Shared.executes_of_execute hx) h.current fun _ _ hr _ => hr
  | commit c =>
    cases he
    exact h.commit c

/-- However the passes go on, what is sound stays so, and a row that is over stays as it is. -/
theorem Later.coherent (h : Later s s') (hs : Coherent s.db) :
    Coherent s'.db ∧ ∀ c, Keeps (s.db.view c) (s'.db.view c) := by
  induction h with
  | refl => exact ⟨hs,fun _ => Keeps.refl _⟩
  | pass before run ih =>
    obtain ⟨g,-,hi⟩ := inv_of_pass ih.1 run fun _ e _ => unfinished_false e
    exact ⟨hi.coherent,fun c => (ih.2 c).trans (hi.kept c)⟩
  | other before happens ih =>
    obtain ⟨hcoherent,hkept⟩ := coherent_happen ih.1 happens
    exact ⟨hcoherent,fun c => (ih.2 c).trans (hkept c)⟩

/-- A pass has no task for a row that was over when it began. -/
theorem absent_of_over (hs : Coherent s.db) (h : Pass s args tr p) {id : ℕ} {row : KCache}
    (hrow : (s.db.view args.connection).kcaches.get? id = some row) (ho : Over row) :
    p.task (0,.row id) = .absent := by
  obtain ⟨g,ht,hi⟩ := inv_of_pass hs h fun _ e _ => unfinished_false e
  by_contra hexists
  obtain ⟨t,hg⟩ := ht.exists_phase hexists
  obtain ⟨row',hrow',hsub⟩ := hi.submitted 0 id t hg
  rw [hrow] at hrow'
  cases hrow'
  rw [over_iff,hsub] at ho
  cases ho

/-- What a run of a poll pass does, up to any of its steps. -/
structure PollsWell (s : State) (args : Args) (tr : Trace) (p : Runs) : Prop where
  /-- A row whose job was not found to be finished or aborted is as it was. -/
  unchanged : ∀ id row, (s.db.view args.connection).kcaches.get? id = some row →
    (∀ q job, (q,Pool.Event.resume 0 (.row id) (.job (some job))) ∈ tr →
      job.context.status ≠ .finished ∧ job.context.status ≠ .aborted) →
    (p.shared.db.view args.connection).kcaches.get? id = some row
  /-- Whatever the polls raise, the pass comes to an end, with all its polls ended normally. -/
  bounded : tr.length ≤ 2+(selectItems args s).length*6
  returns : 0 < args.maxConcurrent →
    (∀ e, Pipeline.OfCall 0 args e → kcacheBuilds.step p e = none) →
    ∀ id ∈ (s.db.view args.connection).submittedKcacheBuilds, p.task (0,.row id) = .ended (.ok ())
  /-- The others are polled as if a row were absent. -/
  independent : ∀ id, ∃ tr' p', Pass (stateWithoutRow id s) args tr' p' ∧
    tr'.map Prod.snd = (tr.map Prod.snd).filter (Pool.Event.spares (.row id)) ∧
    ∀ j, j ≠ id → p'.task (0,.row j) = p.task (0,.row j) ∧
      (p'.shared.db.view args.connection).kcaches.get? j =
        (p.shared.db.view args.connection).kcaches.get? j

lemma doneJob_eq_none {job : Option KGymJob} (h : ∀ j, job = some j →
    j.context.status ≠ .finished ∧ j.context.status ≠ .aborted) : doneJob job = none := by
  cases job with
  | none => rfl
  | some j =>
    obtain ⟨hfinished,haborted⟩ := h j rfl
    simp [doneJob,Option.filter,hfinished,haborted]

theorem pollsWell (hs : Coherent s.db) (hpoll : args.kind = .poll) (h : Pass s args tr p) :
    PollsWell s args tr p := by
  refine ⟨?_,Pipeline.length_le within_work h,fun hlimit => ended_of_stuck hs hpoll hlimit h,?_⟩
  · intro id row hrow hunfinished
    obtain ⟨g,-,hi⟩ := inv_of_pass (U := (· = id)) hs h (by
      intro q e hmem
      have hcall := h.meets q e hmem
      unfold Unfinished
      split
      · rintro rfl
        obtain rfl := hcall
        exact doneJob_eq_none fun job hjob => hunfinished q job (hjob ▸ hmem)
      · trivial)
    refine hi.unwritten id row hrow fun t hg => ?_
    rw [hi.idle 0 id t rfl hg]
    exact nofun
  · intro id
    obtain ⟨tr',p',hrun,htr,halike⟩ := Pipeline.exists_run_without (spares hpoll)
      (apart_withoutRow args.connection id s) (fun _ _ h' => calm_of_pass hs hpoll h') h
    refine ⟨tr',p',hrun,htr,fun j hj => ⟨halike.task _ (by simpa using hj),?_⟩⟩
    exact halike.shared.view.get? hj

/-- What holds of a state that passes have reached, and from there on. -/
structure RowsLive (s : State) : Prop where
  sound : ∀ c, AllSound (s.db.view c)
  settled : ∀ s', Later s s' → ∀ c id row, (s.db.view c).kcaches.get? id = some row → Over row →
    (s'.db.view c).kcaches.get? id = some row ∧
    ∀ args tr p, args.connection = c → Pass s' args tr p → p.task (0,.row id) = .absent
  polls : ∀ args tr p, args.kind = .poll → Pass s args tr p → PollsWell s args tr p

/-- The life of the rows over all sequences of passes. -/
theorem kcaches_live {db : Db} (hdb : AllSound db) {s : State} (h : Later ⟨.opened db,[]⟩ s) :
    RowsLive s := by
  have hs : Coherent s.db := (h.coherent ⟨hdb,hdb,Keeps.refl _⟩).1
  refine ⟨hs.view,?_,fun args tr p hpoll hpass => pollsWell hs hpoll hpass⟩
  intro s' hlater c id row hrow ho
  obtain ⟨hs',hkept⟩ := hlater.coherent hs
  have hrow' := hkept c id row hrow ho
  refine ⟨hrow',?_⟩
  rintro args tr p rfl hpass
  exact absent_of_over hs' hpass hrow' ho

end Sequences

/-! ## Two rows, of which the polls of one raise -/

instance (args : Args) (e : RunEvent) : Decidable (Pipeline.OfCall 0 args e) :=
  Pipeline.decidableOfCall 0 args e

/-- A job that built an image which does not boot. -/
def imageJob : KGymJob where
  context := ⟨1,0,0,.finished,"",0,
    [⟨"kbuilder",⟨"kbuilder",""⟩,some ⟨"kbuilder",none,none,none,some ⟨none⟩⟩⟩],[]⟩
  kCache := some ⟨"key","uri"⟩

def runningJob : KGymJob :=
  { imageJob with context := { imageJob.context with status := .inProgress } }

def submittedRow (bugId : String) (id : ℕ) : KCache :=
  { newKcache bugId .crashCommit midJanuary "00000001" .success "Submitted" with kCacheId := id }

def twoSubmitted : Db :=
  ⟨.empty,(AutoTable.empty.append (submittedRow "A") fun _ => rfl).append (submittedRow "B")
    fun _ => rfl⟩

def pollArgs : Args := ⟨0,.poll,16⟩

/-- The polls take turns; the job of A is finished, and that of B cannot be read. -/
def firstPolls : List RunEvent :=
  [.start 0 pollArgs,.select 0,.enter 0 (.row 1),.enter 0 (.row 2),.resume 0 (.row 2) .go,
    .resume 0 (.row 1) .go,.resume 0 (.row 1) (.job (some imageJob)),
    .resume 0 (.row 2) (.raises (.exception "HTTPError" "")),.resume 0 (.row 1) .go,
    .resume 0 (.row 1) .go]

/-- Only B is left, and its job goes on. -/
def secondPolls : List RunEvent :=
  [.start 0 pollArgs,.select 0,.enter 0 (.row 2),.resume 0 (.row 2) .go,
    .resume 0 (.row 2) (.job (some runningJob))]

/-- A pass that brings one row to its end, and one that finds the other as it was. -/
theorem twoSubmitted_live : ∃ s, Later ⟨.opened twoSubmitted,[]⟩ s ∧
    s.db.committed.kcaches.rows.map KCache.storageKey = [some "key",none] ∧ RowsLive s := by
  obtain ⟨tr,p,hp,htest⟩ := Machine.exists_run_of_replay
    (kcacheBuilds.machine (· = ⟨.opened twoSubmitted,[]⟩)) (fun _ e => Pipeline.OfCall 0 pollArgs e)
    firstPolls (fun _ p => ((kcacheBuilds.machine (· = p.shared)).replay
      (fun _ e => Pipeline.OfCall 0 pollArgs e) secondPolls ([],.idle p.shared)).any fun r =>
        r.2.shared.db.committed.kcaches.rows.map KCache.storageKey = [some "key",none])
    (s := .idle ⟨.opened twoSubmitted,[]⟩) ⟨_,rfl,rfl⟩ (by decide +kernel)
  obtain ⟨tr',p',hp',htest'⟩ := Machine.exists_run_of_replay (kcacheBuilds.machine (· = p.shared))
    _ secondPolls (fun _ p => p.shared.db.committed.kcaches.rows.map KCache.storageKey =
      [some "key",none]) ⟨_,rfl,rfl⟩ htest
  have hlater : Later ⟨.opened twoSubmitted,[]⟩ p'.shared := .pass (.pass .refl hp) hp'
  refine ⟨p'.shared,hlater,of_decide_eq_true htest',kcaches_live ?_ hlater⟩
  intro row hrow
  obtain rfl | rfl := List.mem_pair.mp hrow
  · exact sound_of_unevaluated rfl
  · exact sound_of_unevaluated rfl

end KcacheLife
end LiveKBench.KArenaPipeline
