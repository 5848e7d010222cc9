import LiveKBench.KArenaPipeline.KcachePhases

/-! What becomes of the jobs that `submit_kcache_builds` creates. A job is on record once its row is
committed; before that it is known to one task only, and is lost with it. -/
namespace LiveKBench.KArenaPipeline
open KCore
open KArenaWeb (DateTime midJanuary)
open KArenaDb
open Lib

namespace Kcache

/-- The passes over a database with any rows. -/
def machine : Machine Runs RunEvent := kcacheBuilds.machine fun s => ∃ db, s = ⟨.opened db,[]⟩

/-- A row has the job of the item. -/
def Recorded (db : Db) (i : Item) (jobId : JobId) : Prop :=
  ∃ row ∈ db.kcaches.rows, i.bugId = some row.bugId ∧ row.kGymJobId = JobId.str jobId

/-! ## What holds between the steps -/

/-- No job goes off the record. -/
def Keeps (db db' : Db) : Prop := ∀ i jobId, Recorded db i jobId → Recorded db' i jobId

structure Inv (s : State) (calls : ℕ → Option (Call Args Item)) (g : ℕ × Item → Option Phase) :
    Prop where
  item : ∀ k i t, g (k,i) = some t → t.item = i
  created : ∀ k i jobId,
    ((k,i),jobId) ∈ s.created ↔ ∃ t, g (k,i) = some t ∧ t.stage.job = some jobId
  inserted : ∀ k i t jobId call, g (k,i) = some t → t.stage = .inserted jobId →
    calls k = some call → Recorded (s.db.view call.args.connection) i jobId
  recorded : ∀ k i t jobId, g (k,i) = some t → t.stage = .recorded jobId →
    Recorded s.db.committed i jobId
  kept : Keeps s.db.committed s.db.current

section Statements
variable {s : State} {calls : ℕ → Option (Call Args Item)} {g : ℕ × Item → Option Phase} {c : ℕ}
  {db' : Shared Db}

lemma keeps_insertKcache (kcache : KCache) (db : Db) : Keeps db (db.insertKcache kcache).1 := by
  intro i jobId ⟨row,hr,hrow⟩
  unfold Db.insertKcache
  split
  · rename_i kcaches hinsert
    obtain ⟨-,rfl⟩ := AutoTable.insert?_eq_some.mp hinsert
    exact ⟨row,List.mem_append_left _ hr,hrow⟩
  · exact ⟨row,hr,hrow⟩

lemma keeps_updateKcachePollResult (kcache : KCache) (db : Db) :
    Keeps db (db.updateKcachePollResult kcache) := by
  intro i jobId ⟨row,hr,hrow⟩
  refine ⟨_,List.mem_map_of_mem hr,?_⟩
  split <;> exact hrow

lemma keeps_writeBugs (f : Table SyzbotBug.bugId → Table SyzbotBug.bugId) (db : Db) :
    Keeps db { db with bugs := f db.bugs } := fun _ _ h => h

lemma Inv.executes (h : Inv s calls g) {α : Type} {f : Db → Db × α} {a : α}
    (hx : s.db.Executes c f db' a) (hf : ∀ db, Keeps db (f db).1) :
    Inv { s with db := db' } calls g := by
  refine ⟨h.item,h.created,?_,?_,?_⟩
  · intro k i t jobId call hg hstage hcall
    have hrecorded := h.inserted k i t jobId call hg hstage hcall
    change Recorded (db'.view call.args.connection) i jobId
    rw [hx.view_eq]
    split
    · rename_i hc
      rw [← hc,hx.view] at hrecorded
      rw [hx.current]
      exact hf _ i jobId hrecorded
    · exact hrecorded
  · intro k i t jobId hg hstage
    exact hx.committed ▸ h.recorded k i t jobId hg hstage
  · intro i jobId hrecorded
    change Recorded db'.current i jobId
    rw [hx.current]
    exact hf _ i jobId (h.kept i jobId (hx.committed ▸ hrecorded))

/-- What was committed stays so, and is joined by what the connection wrote. -/
lemma Inv.keeps_commit (h : Inv s calls g) (c : ℕ) :
    Keeps s.db.committed (s.db.commit c).committed := by
  intro i jobId hrecorded
  rw [Shared.committed_commit]
  rcases s.db.view_eq c with he | he
  · exact he ▸ h.kept i jobId hrecorded
  · exact he ▸ hrecorded

lemma Inv.commit (h : Inv s calls g) (c : ℕ) :
    Inv { s with db := s.db.commit c } calls g := by
  refine ⟨h.item,h.created,?_,?_,?_⟩
  · intro k i t jobId call hg hstage hcall
    have hrecorded := h.inserted k i t jobId call hg hstage hcall
    rcases s.db.view_commit c call.args.connection with he | ⟨he,hbefore⟩
    · exact he ▸ hrecorded
    · exact he ▸ h.kept i jobId (hbefore ▸ hrecorded)
  · intro k i t jobId hg hstage
    exact h.keeps_commit c i jobId (h.recorded k i t jobId hg hstage)
  · intro i jobId hrecorded
    change Recorded (s.db.commit c).current i jobId
    rw [Shared.current_commit]
    rw [Shared.committed_commit] at hrecorded
    rcases s.db.view_eq c with he | he
    · exact he ▸ hrecorded
    · exact h.kept i jobId (he ▸ hrecorded)

/-- A task goes on to a stage with the same job or, after a creation, with a new one. -/
lemma Inv.goes (h : Inv s calls g) {k : ℕ} {i : Item} {t : Phase} {stage : Stage}
    (hg : g (k,i) = some t) {created : List ((ℕ × Item) × JobId)}
    (hcreated : ∀ k' i' jobId, ((k',i'),jobId) ∈ created ↔
      if (k',i') = (k,i) then stage.job = some jobId else ((k',i'),jobId) ∈ s.created)
    (hinserted : ∀ jobId call, stage = .inserted jobId → calls k = some call →
      Recorded (s.db.view call.args.connection) i jobId)
    (hrecorded : ∀ jobId, stage = .recorded jobId → Recorded s.db.committed i jobId) :
    Inv { s with created := created } calls
      (Function.update g (k,i) (some { t with stage := stage })) := by
  have hphase : ∀ {k' i' t'}, Function.update g (k,i) (some { t with stage := stage }) (k',i') =
      some t' → ((k',i') = (k,i) ∧ t' = { t with stage := stage }) ∨
        (k',i') ≠ (k,i) ∧ g (k',i') = some t' := by
    intro k' i' t' ht'
    by_cases hki : (k',i') = (k,i)
    · rw [hki,Function.update_self] at ht'
      exact .inl ⟨hki,(Option.some.inj ht').symm⟩
    · rw [Function.update_of_ne hki] at ht'
      exact .inr ⟨hki,ht'⟩
  refine ⟨?_,?_,?_,?_,h.kept⟩
  · intro k' i' t' ht'
    rcases hphase ht' with ⟨he,rfl⟩ | ⟨-,ht'⟩
    · cases he
      exact h.item k i t hg
    · exact h.item k' i' t' ht'
  · intro k' i' jobId
    refine (hcreated k' i' jobId).trans ?_
    by_cases hki : (k',i') = (k,i)
    · rw [if_pos hki,hki,Function.update_self]
      simp
    · rw [if_neg hki,Function.update_of_ne hki]
      exact h.created k' i' jobId
  · intro k' i' t' jobId call ht' hstage hcall
    rcases hphase ht' with ⟨he,rfl⟩ | ⟨-,ht'⟩
    · cases he
      exact hinserted jobId call hstage hcall
    · exact h.inserted k' i' t' jobId call ht' hstage hcall
  · intro k' i' t' jobId ht' hstage
    rcases hphase ht' with ⟨he,rfl⟩ | ⟨-,ht'⟩
    · cases he
      exact hrecorded jobId hstage
    · exact h.recorded k' i' t' jobId ht' hstage

/-- A task goes on with the job that it has. -/
lemma Inv.moves (h : Inv s calls g) {k : ℕ} {i : Item} {t : Phase} {stage : Stage}
    (hg : g (k,i) = some t) (hjob : stage.job = t.stage.job)
    (hinserted : ∀ jobId call, stage = .inserted jobId → calls k = some call →
      Recorded (s.db.view call.args.connection) i jobId)
    (hrecorded : ∀ jobId, stage = .recorded jobId → Recorded s.db.committed i jobId) :
    Inv s calls (Function.update g (k,i) (some { t with stage := stage })) := by
  refine h.goes hg (fun k' i' jobId => ?_) hinserted hrecorded
  by_cases hki : (k',i') = (k,i)
  · cases hki
    rw [if_pos rfl,hjob,h.created k i jobId,hg]
    simp
  · rw [if_neg hki]

/-- A task ends early whose job is on record. -/
lemma Inv.settles (h : Inv s calls g) {k : ℕ} {i : Item} {t : Phase} (hg : g (k,i) = some t)
    (honRecord : ∀ jobId, ((k,i),jobId) ∈ s.created → Recorded s.db.committed i jobId) :
    Inv s calls (Function.update g (k,i) (some { t with stage := t.stage.settled })) := by
  refine h.moves hg t.stage.job_settled ?_ ?_
  · intro jobId call hstage _
    have hsettled := t.stage.settled_of_settled jobId (by rw [hstage]; rfl)
    rw [hstage] at hsettled
    cases hsettled
  · intro jobId hstage
    refine honRecord jobId ((h.created k i jobId).mpr ⟨t,hg,?_⟩)
    rw [← t.stage.job_settled,hstage]
    rfl

/-- An insertion that succeeds brings the job of its task to the table. -/
lemma recorded_insertKcache {kcache : KCache} {db : Db} {id : ℕ} {i : Item} {jobId : JobId}
    (h : (db.insertKcache kcache).2 = some id) (hbug : i.bugId = some kcache.bugId)
    (hjob : kcache.kGymJobId = JobId.str jobId) :
    Recorded (db.insertKcache kcache).1 i jobId := by
  unfold Db.insertKcache at h ⊢
  split at h
  · rename_i kcaches hinsert
    obtain ⟨-,rfl⟩ := AutoTable.insert?_eq_some.mp hinsert
    exact ⟨_,List.mem_append_right _ (List.mem_singleton_self _),hbug,hjob⟩
  · cases h

end Statements

/-! ## Runs -/

instance (db : Db) (i : Item) (jobId : JobId) : Decidable (Recorded db i jobId) :=
  inferInstanceAs (Decidable (∃ row ∈ db.kcaches.rows,
    i.bugId = some row.bugId ∧ row.kGymJobId = JobId.str jobId))

/-- The job that a task was given is on record. -/
def OnRecord (p : Runs) (k : ℕ) (i : Item) : Prop :=
  ∀ e ∈ p.shared.created, e.1 = (k,i) → Recorded p.shared.db.committed i e.2

instance (p : Runs) (k : ℕ) (i : Item) : Decidable (OnRecord p k i) :=
  inferInstanceAs (Decidable (∀ e ∈ p.shared.created, _))

lemma OnRecord.recorded {p : Runs} {k : ℕ} {i : Item} (h : OnRecord p k i) {jobId : JobId}
    (hmem : ((k,i),jobId) ∈ p.shared.created) : Recorded p.shared.db.committed i jobId :=
  h ((k,i),jobId) hmem rfl

/-- What the task is answered is an exception. -/
def fails (p : Runs) (k : ℕ) (i : Item) (input : Input) : Bool :=
  match p.calls k,p.task (k,i) with
  | some call,.active (.await r _) =>
    match exec call.args (k,i) r p.shared input with
    | some (_,.error _) => true
    | _ => false
  | _,_ => false

/-- No task gets an exception or is cancelled while the job that it was given is not on record. -/
def Careful (p : Runs) : RunEvent → Prop
  | .resume k i input => fails p k i input = true → OnRecord p k i
  | .cancel k i => OnRecord p k i
  | _ => True

instance (p : Runs) (e : RunEvent) : Decidable (Careful p e) :=
  match e with
  | .resume k i input => inferInstanceAs (Decidable (fails p k i input = true → OnRecord p k i))
  | .cancel k i => inferInstanceAs (Decidable (OnRecord p k i))
  | .start _ _ => .isTrue trivial
  | .select _ => .isTrue trivial
  | .enter _ _ => .isTrue trivial
  | .other _ => .isTrue trivial

section Steps
variable {s : State} {calls : ℕ → Option (Call Args Item)} {g : ℕ × Item → Option Phase} {k : ℕ}
  {i : Item} {t : Phase} {call : Call Args Item}

/-- A call starts, which has no tasks yet. -/
lemma Inv.start (h : Inv s calls g) {new : Option (Call Args Item)} (hnone : ∀ i, g (k,i) = none) :
    Inv s (Function.update calls k new) g := by
  refine ⟨h.item,h.created,?_,h.recorded,h.kept⟩
  intro k' i t jobId call hg hstage hcall
  have hk : k' ≠ k := by
    rintro rfl
    rw [hnone] at hg
    cases hg
  rw [Function.update_of_ne hk] at hcall
  exact h.inserted k' i t jobId call hg hstage hcall

/-- The tasks of a call begin without a job. -/
lemma Inv.spawn (h : Inv s calls g) {new : Option (Call Args Item)} {args : Args}
    {items : List Item} (hnone : ∀ i, g (k,i) = none) :
    Inv s (Function.update calls k new) (Pipeline.spawned firstPhase g k args items) := by
  refine ⟨?_,?_,?_,?_,h.kept⟩
  · intro k' i t ht
    rcases Pipeline.spawned_cases hnone ht with ⟨-,-,rfl⟩ | ⟨-,ht⟩
    · rfl
    · exact h.item k' i t ht
  · intro k' i jobId
    refine (h.created k' i jobId).trans ⟨?_,?_⟩
    · intro ⟨t,hg,hjob⟩
      exact ⟨t,Pipeline.spawned_of_some hnone hg,hjob⟩
    · intro ⟨t,ht,hjob⟩
      rcases Pipeline.spawned_cases hnone ht with ⟨-,-,rfl⟩ | ⟨-,ht⟩
      · cases hjob
      · exact ⟨t,ht,hjob⟩
  · intro k' i t jobId call ht hstage hcall
    rcases Pipeline.spawned_cases hnone ht with ⟨-,-,rfl⟩ | ⟨hk,ht⟩
    · cases hstage
    · rw [Function.update_of_ne hk] at hcall
      exact h.inserted k' i t jobId call ht hstage hcall
  · intro k' i t jobId ht hstage
    rcases Pipeline.spawned_cases hnone ht with ⟨-,-,rfl⟩ | ⟨-,ht⟩
    · cases hstage
    · exact h.recorded k' i t jobId ht hstage

/-- The row of the task's job joins the table that its connection sees. -/
lemma Inv.inserts (h : Inv s calls g) (hg : g (k,i) = some t) (hcall : calls k = some call)
    {kcache : KCache} (hallowed : allowed t (.insertKcache kcache)) {db' : Shared Db} {id : ℕ}
    (hx : s.db.Executes call.args.connection (Db.insertKcache kcache) db' (some id)) :
    Inv { s with db := db' } calls (Function.update g (k,i)
      (some { t with stage := nextStage t.stage (.insertKcache kcache) id })) := by
  have h' := h.executes hx (keeps_insertKcache kcache)
  obtain ⟨hbug,-,hidle | ⟨jobId,hholding,hjob⟩⟩ := hallowed
  · refine h'.moves hg ?_ ?_ ?_ <;> simp [nextStage,hidle]
  · refine h'.moves hg (by simp [nextStage,hholding,Stage.job]) ?_ (by simp [nextStage,hholding])
    rintro jobId' call' hstage hcall'
    rw [hcall] at hcall'
    cases hcall'
    simp only [nextStage,hholding,Stage.inserted.injEq] at hstage
    subst hstage
    change Recorded (db'.view call.args.connection) i jobId
    rw [hx.view_eq,if_pos rfl,hx.current]
    exact recorded_insertKcache hx.answer.symm (h.item k i t hg ▸ hbug) hjob

/-- What the task inserted is on record. -/
lemma Inv.commits (h : Inv s calls g) (hg : g (k,i) = some t) (hcall : calls k = some call)
    (hallowed : allowed t .commit) :
    Inv { s with db := s.db.commit call.args.connection } calls (Function.update g (k,i)
      (some { t with stage := nextStage t.stage .commit () })) := by
  have h' := h.commit call.args.connection
  rcases hallowed with hidle | ⟨jobId,hinserted⟩ | hwritten
  · refine h'.moves hg ?_ ?_ ?_ <;> simp [nextStage,hidle]
  · refine h'.moves hg (by simp [nextStage,hinserted,Stage.job]) (by simp [nextStage,hinserted]) ?_
    intro jobId' hstage
    simp only [nextStage,hinserted,Stage.recorded.injEq] at hstage
    subst hstage
    change Recorded (s.db.commit call.args.connection).committed i jobId
    rw [Shared.committed_commit]
    exact h.inserted k i t jobId call hg hinserted hcall
  · refine h'.moves hg ?_ ?_ ?_ <;> simp [nextStage,hwritten]

end Steps

theorem upholds : kcacheBuilds.Upholds protocol Ends firstPhase Careful Inv where
  body := work_follows
  starts p g k args _ hi _ _ hnone := hi.start hnone
  selects p g k args _ hi _ _ hnone := hi.spawn hnone
  resumes := by
    intro p g k i input call r c s x t ht hi hc hcall hactive hg hallowed hexec
    have hexec' : exec call.args (k,i) r p.shared input = some (s,x) := hexec
    have hfails : ∀ e, x = .error e → OnRecord p k i := by
      rintro e rfl
      exact hc (by simp [fails,hcall,hactive,hexec'])
    have hnone : t.stage = .idle → ∀ jobId, ((k,i),jobId) ∉ p.shared.created := by
      intro hidle jobId hmem
      obtain ⟨t',hg',hjob⟩ := (hi.created k i jobId).mp hmem
      rw [hg] at hg'
      cases hg'
      simp [hidle,Stage.job] at hjob
    have hsame : ∀ r a, nextStage t.stage r a = t.stage → Inv p.shared p.calls
        (Function.update g (k,i) (some { t with stage := nextStage t.stage r a })) := by
      intro r a hstage
      have hupdate : Function.update g (k,i) (some t) = g := by rw [← hg,Function.update_eq_self]
      rw [hstage,hupdate]
      exact hi
    cases answers_of_exec hexec with
    | raised => exact ⟨_,rfl,hi.settles hg fun jobId hmem => (hfails _ rfl).recorded hmem⟩
    | @createJob request jobId =>
      have hidle : t.stage = .idle := hallowed.2
      refine ⟨_,⟨trivial,rfl⟩,hi.goes hg (fun k' i' jobId' => ?_) (by simp [nextStage]) (by simp [nextStage])⟩
      by_cases hki : (k',i') = (k,i)
      · cases hki
        simp [nextStage,Stage.job,hnone hidle,eq_comm]
      · rw [if_neg hki,List.mem_cons]
        simp [hki]
    | @insertKcache kcache db' id hx =>
      have hi' := hi.executes hx (keeps_insertKcache kcache)
      cases id with
      | none =>
        refine ⟨_,rfl,hi'.settles hg fun jobId hmem => ?_⟩
        exact hx.committed ▸ (hfails _ rfl).recorded hmem
      | some id => exact ⟨_,⟨trivial,rfl⟩,hi.inserts hg hcall hallowed hx⟩
    | commit => exact ⟨_,⟨trivial,rfl⟩,hi.commits hg hcall hallowed⟩
    | now => exact ⟨_,⟨trivial,rfl⟩,hsame .now _ rfl⟩
    | @getKcacheById kCacheId =>
      exact ⟨_,⟨fun _ => Table.key_of_get?,rfl⟩,hsame (.getKcacheById kCacheId) _ rfl⟩
    | @getJob jobId job =>
      have hidle : t.stage = .idle := hallowed
      refine ⟨_,⟨trivial,rfl⟩,?_⟩
      cases hdone : (doneJob job).isSome with
      | true => refine hi.moves hg ?_ ?_ ?_ <;> simp [nextStage,hdone,hidle,Stage.job]
      | false => exact hsame (.getJob jobId) job (by simp [nextStage,hdone])
    | @downloadReport key text =>
      exact ⟨_,⟨trivial,rfl⟩,hsame (.downloadReport key) text rfl⟩
    | @updateKcachePollResult kcache db' a hx =>
      have hfetched : t.stage = .fetched := hallowed.2.1
      have hi' := hi.executes hx (keeps_updateKcachePollResult kcache)
      refine ⟨_,⟨trivial,rfl⟩,?_⟩
      refine hi'.moves hg ?_ ?_ ?_ <;> simp [nextStage,hfetched,Stage.job]
  cancels := by
    intro p g k i args items t ht hi hc _ _ _ _ hg
    exact ⟨_,.ok (),⟨t.stage.settled_of_settled,fun _ => rfl⟩,
      hi.settles hg fun jobId hmem => OnRecord.recorded hc hmem⟩
  others := by
    intro p g e s _ hi _ he
    cases e with
    | writeBugs c f =>
      obtain ⟨⟨db',a⟩,hx,rfl⟩ := Option.map_eq_some_iff.mp he
      exact hi.executes (Shared.executes_of_execute hx) (keeps_writeBugs f)
    | commit c =>
      cases he
      exact hi.commit c

/-- A job that a task was given is on record, or the task is still there. -/
theorem job_recorded_or_live {p : Runs} (h : machine.ReachableBy Careful p) :
    ∀ k i jobId, ((k,i),jobId) ∈ p.shared.created →
      Recorded p.shared.db.committed i jobId ∨ (p.task (k,i)).isLive = true := by
  have hinit : ∀ s, (∃ db, s = ⟨.opened db,[]⟩) → Inv s (fun _ => none) (fun _ => none) := by
    rintro _ ⟨db,rfl⟩
    exact ⟨by simp,by simp,by simp,by simp,fun _ _ hr => hr⟩
  obtain ⟨g,ht,hi⟩ := upholds.reachable hinit h
  intro k i jobId hmem
  obtain ⟨t,hg,hjob⟩ := (hi.created k i jobId).mp hmem
  cases hlive : (p.task (k,i)).isLive with
  | true => exact .inr rfl
  | false =>
    obtain ⟨x,hends⟩ := ht.ends hg hlive
    exact .inl (hi.recorded k i t jobId hg (hends.settled jobId hjob))

/-- Where no task loses its job, every job that was created comes on record, at the latest when all
passes have ended. -/
theorem jobs_recorded {p : Runs} (h : machine.ReachableBy Careful p) :
    (∀ k i jobId, ((k,i),jobId) ∈ p.shared.created →
      Recorded p.shared.db.committed i jobId ∨ (p.task (k,i)).isLive = true) ∧
    (Pipeline.AllEnded p → ∀ k i jobId, ((k,i),jobId) ∈ p.shared.created →
      Recorded p.shared.db.committed i jobId) := by
  refine ⟨job_recorded_or_live h,fun hended k i jobId hmem => ?_⟩
  rcases job_recorded_or_live h k i jobId hmem with hrecorded | hlive
  · exact hrecorded
  · have hexists : p.task (k,i) ≠ .absent := by
      intro habsent
      simp [habsent,Task.isLive] at hlive
    obtain ⟨args,items,hcall,hi⟩ := (Pipeline.formed_of_reachable h k i).mp hexists
    obtain ⟨_,⟨⟩,hdead⟩ := hended k _ hcall
    rw [hdead i hi] at hlive
    cases hlive

/-! ## Two runs over the same bugs -/

def openCrash : KClient.SyzbotCrash :=
  ⟨"crash",none,some "repro",none,none,"",some "config","","kernel","","syzkaller","gcc","amd64",
    none,none,[]⟩

def openData (bugId : String) : KClient.SyzbotData where
  version := 1
  title := "crash"
  displayTitle := "crash"
  bugId := bugId
  status := "open"
  fixCommits := []
  causeCommit := none
  discussions := []
  crashes := [openCrash]
  patchModifiedFunctions := none
  patchCommitDate := none
  causeCommitDate := none
  subsystems := none
  parentOfFixCommit := none
  patch := none
  patchMessage := none
  patchModifiedFiles := none
  rawCrashReport := none
  cleanCrashReport := none
  crashKernelId := none
  causeModifiedFunctions := none
  userspaceImage := none
  extra := []

def openBug (bugId : String) : SyzbotBug :=
  ⟨bugId,bugId,"crash",midJanuary,midJanuary,.open,[],"","repro","syzkaller","",openData bugId⟩

def twoBugs : Db := ⟨⟨[openBug "A",openBug "B"],by decide⟩,.empty⟩

def openArgs : SubmitArgs := ⟨.open,"image",1,1,"latest"⟩

def submitRun (connection : ℕ) : Args := ⟨connection,.submit openArgs,16⟩

def openItem (bugId : String) : Item := .submission ⟨bugId,requestOf openArgs (openBug bugId)⟩

def createsJob (k : ℕ) (bugId : String) (jobId : JobId) : List RunEvent :=
  [.enter k (openItem bugId),.resume k (openItem bugId) (.jobId jobId)]

def inserts (k : ℕ) (bugId : String) : List RunEvent :=
  [.resume k (openItem bugId) (.time midJanuary),.resume k (openItem bugId) .go]

/-- A run that gets the jobs 1 and 2, and brings both on record. -/
def recordsBoth : List RunEvent :=
  createsJob 0 "A" 1 ++ createsJob 0 "B" 2 ++ inserts 0 "A" ++ inserts 0 "B" ++
    [.resume 0 (openItem "A") .go,.resume 0 (openItem "B") .go]

/-- The creation of a job fails. -/
def lacksJob (k : ℕ) (bugId : String) : List RunEvent :=
  [.enter k (openItem bugId),.resume k (openItem bugId) (.raises (.exception "HTTPError" ""))]

/-- Two runs select both bugs; each gets one job and does not get the other. -/
def sharedBugs : List RunEvent :=
  [.start 0 (submitRun 0),.start 1 (submitRun 1),.select 0,.select 1] ++ createsJob 0 "A" 1 ++
    lacksJob 1 "A" ++ createsJob 1 "B" 2 ++ lacksJob 0 "B" ++ inserts 0 "A" ++
    [.resume 0 (openItem "A") .go] ++ inserts 1 "B" ++ [.resume 1 (openItem "B") .go] ++
    inserts 0 "B" ++ [.resume 1 (openItem "A") (.time midJanuary),
      .resume 1 (openItem "A") (.raises (.exception "OperationalError" "database is locked"))]

/-- The row about the failure for B violates the constraint, and the one about A finds the database
locked; both jobs are on record by then. -/
theorem sharedBugs_recorded : ∃ p, machine.ReachableBy Careful p ∧
    p.shared.created = [((1,openItem "B"),2),((0,openItem "A"),1)] ∧ ∀ k i jobId,
      ((k,i),jobId) ∈ p.shared.created → Recorded p.shared.db.committed i jobId := by
  obtain ⟨tr,p,hp,htest⟩ := Machine.exists_run_of_replay machine Careful sharedBugs
    (fun tr p => Pipeline.allEnded tr p &&
      p.shared.created = [((1,openItem "B"),2),((0,openItem "A"),1)])
    (s := .idle ⟨.opened twoBugs,[]⟩) ⟨_,⟨_,rfl⟩,rfl⟩ (by decide +kernel)
  simp only [Bool.and_eq_true,decide_eq_true_eq] at htest
  exact ⟨p,⟨tr,hp⟩,htest.2,(jobs_recorded ⟨tr,hp⟩).2 (Pipeline.allEnded_of_run hp htest.1)⟩

/-- A second run selects both bugs before the first has inserted them: its insertion of A fails and
cancels B, whose job 4 nobody knows then. -/
theorem secondRun_loses : ∃ p, machine.Reachable p ∧ Pipeline.AllEnded p ∧
    ((1,openItem "B"),4) ∈ p.shared.created ∧
    ¬∃ row ∈ p.shared.db.current.kcaches.rows, row.kGymJobId = JobId.str 4 := by
  obtain ⟨tr,p,hp,htest⟩ := Machine.exists_run_of_replay machine (fun _ _ => True)
    ([.start 0 (submitRun 0),.start 1 (submitRun 1),.select 0,.select 1] ++ recordsBoth ++
      createsJob 1 "A" 3 ++ createsJob 1 "B" 4 ++ inserts 1 "A" ++ [.cancel 1 (openItem "B")])
    (fun tr p => Pipeline.allEnded tr p && ((1,openItem "B"),4) ∈ p.shared.created &&
      p.shared.db.current.kcaches.rows.all fun row => row.kGymJobId ≠ JobId.str 4)
    (s := .idle ⟨.opened twoBugs,[]⟩) ⟨_,⟨_,rfl⟩,rfl⟩ (by decide +kernel)
  simp only [Bool.and_eq_true,decide_eq_true_eq,List.all_eq_true] at htest
  obtain ⟨⟨hended,hcreated⟩,hrows⟩ := htest
  refine ⟨p,⟨tr,hp⟩,Pipeline.allEnded_of_run hp hended,hcreated,?_⟩
  intro ⟨row,hrow,hjob⟩
  exact hrows row hrow hjob

end Kcache
end LiveKBench.KArenaPipeline
