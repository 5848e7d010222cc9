import LiveKBench.KArenaPipeline.KcachePhases
import LiveKBench.Lib.SoleCall

/-! The life of the rows of `kcache` over the steps of a pass: a row waits for the verdict on its
job, gets it once, and stays as it is from then on. -/
namespace LiveKBench.KArenaPipeline
open KCore
open KArena (Evaluation EvaluationResult interpretKgymVerdict)
open KArenaDb
open Lib Kcache

namespace KcacheLife

/-! ## Rows with a verdict -/

/-- A row that is not to be polled any more. -/
def Over (row : KCache) : Prop := row.status = .error ∨ row.kGymEvaluation ≠ none

def AllSound (db : Db) : Prop := ∀ row ∈ db.kcaches.rows, Sound row

/-- The rows that are over stay as they are. -/
def Keeps (db db' : Db) : Prop :=
  ∀ id row, db.kcaches.get? id = some row → Over row → db'.kcaches.get? id = some row

/-- All rows stay as they are. -/
def Extends (db db' : Db) : Prop :=
  ∀ id row, db.kcaches.get? id = some row → db'.kcaches.get? id = some row

/-- What is committed is sound, and so is what a transaction makes of it, which keeps the rows that
are over. -/
structure Coherent (db : Shared Db) : Prop where
  committed : AllSound db.committed
  current : AllSound db.current
  kept : Keeps db.committed db.current

section Rows
variable {row kcache : KCache} {db db₁ db₂ db₃ : Db} {id : ℕ}

lemma over_iff : Over row ↔ submitted row = false := by
  cases hs : row.status <;> cases he : row.kGymEvaluation <;> simp [Over,submitted,hs,he]

lemma Keeps.refl (db : Db) : Keeps db db := fun _ _ h _ => h

lemma Keeps.trans (h₁ : Keeps db₁ db₂) (h₂ : Keeps db₂ db₃) : Keeps db₁ db₃ :=
  fun id row h ho => h₂ id row (h₁ id row h ho) ho

lemma Extends.keeps (h : Extends db₁ db₂) : Keeps db₁ db₂ := fun id row hr _ => h id row hr

lemma extends_insertKcache (kcache : KCache) (db : Db) :
    Extends db (db.insertKcache kcache).1 := by
  intro id row hr
  unfold Db.insertKcache
  split
  · rename_i kcaches hinsert
    obtain ⟨-,rfl⟩ := AutoTable.insert?_eq_some.mp hinsert
    have hne : db.kcaches.last+1 ≠ id := by
      rintro rfl
      rw [db.kcaches.get?_fresh] at hr
      cases hr
    change (db.kcaches.append _ _).get? id = some row
    rw [AutoTable.get?_append,if_neg hne]
    exact hr
  · exact hr

lemma allSound_insertKcache (h : AllSound db) (hrow : kcache.kGymEvaluation = none) :
    AllSound (db.insertKcache kcache).1 := by
  unfold Db.insertKcache
  split
  · rename_i kcaches hinsert
    obtain ⟨-,rfl⟩ := AutoTable.insert?_eq_some.mp hinsert
    intro row hr
    rcases List.mem_append.mp hr with hr | hr
    · exact h row hr
    · rw [List.mem_singleton.mp hr]
      exact sound_of_unevaluated hrow
  · exact h

/-- What an update leaves under each key. -/
lemma get?_updateKcachePollResult : (db.updateKcachePollResult kcache).kcaches.get? id =
    (db.kcaches.get? id).map fun row =>
      if row.kCacheId = kcache.kCacheId then setPollResult kcache row else row := by
  have hget := AutoTable.get?_update db.kcaches (fun row => row.kCacheId = kcache.kCacheId)
    (setPollResult kcache) (fun _ => rfl) id
  simp only [decide_eq_true_eq] at hget
  exact hget

lemma get?_updateKcachePollResult_of_ne (h : id ≠ kcache.kCacheId) :
    (db.updateKcachePollResult kcache).kcaches.get? id = db.kcaches.get? id := by
  rw [get?_updateKcachePollResult]
  cases hr : db.kcaches.get? id with
  | none => rfl
  | some row =>
    have hid : row.kCacheId = id := Table.key_of_get? hr
    simp [hid,h]

lemma allSound_updateKcachePollResult (h : AllSound db) (hrow : Sound kcache) :
    AllSound (db.updateKcachePollResult kcache) := by
  intro row hr
  obtain ⟨row₀,hr₀,rfl⟩ := List.mem_map.mp hr
  split
  · exact hrow
  · exact h row₀ hr₀

/-- An update of a row that is not over keeps those that are. -/
lemma keeps_updateKcachePollResult_of_submitted
    (hrow : db.kcaches.get? kcache.kCacheId = some row) (hs : submitted row = true) :
    Keeps db (db.updateKcachePollResult kcache) := by
  intro id row' hr ho
  have hne : id ≠ kcache.kCacheId := by
    rintro rfl
    rw [hrow] at hr
    cases hr
    rw [over_iff,hs] at ho
    cases ho
  rw [get?_updateKcachePollResult_of_ne hne]
  exact hr

end Rows

section Shares
variable {db db' : Shared Db} {c : ℕ} {α : Type} {f : Db → Db × α} {a : α}

lemma Coherent.view (h : Coherent db) (c : ℕ) : AllSound (db.view c) := by
  rcases db.view_eq c with he | he
  · exact he ▸ h.current
  · exact he ▸ h.committed

lemma Coherent.executes (h : Coherent db) (hx : db.Executes c f db' a)
    (hsound : AllSound (f db.current).1) (hkeeps : Keeps db.current (f db.current).1) :
    Coherent db' ∧ ∀ c', Keeps (db.view c') (db'.view c') := by
  refine ⟨⟨hx.committed ▸ h.committed,hx.current ▸ hsound,?_⟩,fun c' => ?_⟩
  · rw [hx.committed,hx.current]
    exact h.kept.trans hkeeps
  · rw [hx.view_eq]
    split
    · rename_i hc
      rw [← hc,hx.view,hx.current]
      exact hkeeps
    · exact Keeps.refl _

lemma Coherent.commit (h : Coherent db) (c : ℕ) :
    Coherent (db.commit c) ∧ ∀ c', Keeps (db.view c') ((db.commit c).view c') := by
  refine ⟨⟨?_,(Shared.current_commit db c).symm ▸ h.current,?_⟩,fun c' => ?_⟩
  · exact (Shared.committed_commit db c).symm ▸ h.view c
  · rw [Shared.current_commit,Shared.committed_commit]
    rcases db.view_eq c with he | he
    · exact he ▸ Keeps.refl _
    · exact he ▸ h.kept
  · rcases db.view_commit c c' with he | ⟨he,hbefore⟩
    · exact he ▸ Keeps.refl _
    · rw [he,hbefore]
      exact h.kept

end Shares

/-! ## One pass -/

abbrev Trace := List (Runs × RunEvent)

/-- A run of one pass from a state of the database on, up to any of its steps. -/
abbrev Pass (s : State) (args : Args) (tr : Trace) (p : Runs) : Prop :=
  (kcacheBuilds.machine (· = s)).Run (fun _ e => Pipeline.OfCall 0 args e) tr p

/-- The event is not the answer that the job of one of the rows `U` has come to its end. -/
def Unfinished (U : ℕ → Prop) : RunEvent → Prop
  | .resume _ (.row id) (.job job) => U id → doneJob job = none
  | _ => True

def OfPass (args : Args) (U : ℕ → Prop) (_ : Runs) (e : RunEvent) : Prop :=
  Pipeline.OfCall 0 args e ∧ Unfinished U e

/-- What holds between the steps of a pass that found the state `s₀`. -/
structure Inv (s₀ : State) (args : Args) (U : ℕ → Prop) (s : State)
    (calls : ℕ → Option (Call Args Item)) (g : ℕ × Item → Option Phase) : Prop where
  call : ∀ k call, calls k = some call → call.args = args
  item : ∀ k i t, g (k,i) = some t → k = 0 ∧ t.item = i
  fresh : (∀ i, g (0,i) = none) → s = s₀
  submitted : ∀ k id t, g (k,.row id) = some t →
    ∃ row, (s₀.db.view args.connection).kcaches.get? id = some row ∧ submitted row = true
  rows : args.kind = .poll → ∀ k i t, g (k,i) = some t → ∃ id, i = .row id
  unwritten : ∀ id row, (s₀.db.view args.connection).kcaches.get? id = some row →
    (∀ t, g (0,.row id) = some t → t.stage ≠ .written) →
    (s.db.view args.connection).kcaches.get? id = some row
  idle : ∀ k id t, U id → g (k,.row id) = some t → t.stage = .idle
  coherent : Coherent s.db
  kept : ∀ c, Keeps (s₀.db.view c) (s.db.view c)

section Pass
variable {s₀ s : State} {args : Args} {U : ℕ → Prop} {calls : ℕ → Option (Call Args Item)}
  {g : ℕ × Item → Option Phase} {k : ℕ} {i : Item} {t : Phase} {stage : Stage}

/-- A task goes on to another stage, over a database in which at most the row that it wrote has
changed. -/
lemma Inv.goes (h : Inv s₀ args U s calls g) (hg : g (k,i) = some t)
    (hwritten : t.stage = .written → stage = .written)
    (hidle : ∀ id, i = .row id → U id → stage = .idle) {s' : State} (hcoherent : Coherent s'.db)
    (hkept : ∀ c, Keeps (s.db.view c) (s'.db.view c))
    (hview : ∀ id row, (s.db.view args.connection).kcaches.get? id = some row →
      (i = .row id → stage ≠ .written) →
      (s'.db.view args.connection).kcaches.get? id = some row) :
    Inv s₀ args U s' calls (Function.update g (k,i) (some { t with stage := stage })) := by
  obtain ⟨rfl,hitem⟩ := h.item k i t hg
  have hold : ∀ {k' i' t'}, Function.update g (0,i) (some { t with stage := stage }) (k',i') =
      some t' → ∃ t₀, g (k',i') = some t₀ ∧ t'.item = t₀.item ∧
        ((k',i') = (0,i) ∧ t'.stage = stage ∨ (k',i') ≠ (0,i) ∧ t' = t₀) := by
    intro k' i' t' ht'
    by_cases hki : (k',i') = (0,i)
    · rw [hki,Function.update_self] at ht'
      cases ht'
      exact ⟨t,hki ▸ hg,rfl,.inl ⟨hki,rfl⟩⟩
    · rw [Function.update_of_ne hki] at ht'
      exact ⟨t',ht',rfl,.inr ⟨hki,rfl⟩⟩
  constructor
  · exact h.call
  · intro k' i' t' ht'
    obtain ⟨t₀,hg₀,hitem₀,-⟩ := hold ht'
    exact ⟨(h.item k' i' t₀ hg₀).1,hitem₀.trans (h.item k' i' t₀ hg₀).2⟩
  · intro hnone
    have := hnone i
    simp at this
  · intro k' id t' ht'
    obtain ⟨t₀,hg₀,-⟩ := hold ht'
    exact h.submitted k' id t₀ hg₀
  · intro hpoll k' i' t' ht'
    obtain ⟨t₀,hg₀,-⟩ := hold ht'
    exact h.rows hpoll k' i' t₀ hg₀
  · intro id row hrow hstage
    have hi : i = .row id → stage ≠ .written := by
      rintro rfl
      exact hstage _ (Function.update_self _ _ _)
    refine hview id row (h.unwritten id row hrow fun t₀ hg₀ => ?_) hi
    by_cases hid : i = .row id
    · subst hid
      rw [hg] at hg₀
      cases hg₀
      exact mt hwritten (hi rfl)
    · refine hstage t₀ ?_
      rwa [Function.update_of_ne (by simpa using Ne.symm hid)]
  · intro k' id t' hU ht'
    obtain ⟨t₀,hg₀,-,⟨he,hs⟩ | ⟨-,rfl⟩⟩ := hold ht'
    · cases he
      exact hs.trans (hidle id rfl hU)
    · exact h.idle k' id t' hU hg₀
  · exact hcoherent
  · exact fun c => (h.kept c).trans (hkept c)

/-- A task goes on in its stage. -/
lemma Inv.stays (h : Inv s₀ args U s calls g) (hg : g (k,i) = some t) {s' : State}
    (hcoherent : Coherent s'.db) (hkept : ∀ c, Keeps (s.db.view c) (s'.db.view c))
    (hview : Extends (s.db.view args.connection) (s'.db.view args.connection)) :
    Inv s₀ args U s' calls (Function.update g (k,i) (some t)) := by
  refine h.goes hg id (fun id hi hU => ?_) hcoherent hkept fun id row hrow _ => hview id row hrow
  exact h.idle k id t hU (hi ▸ hg)

/-- A task goes on, and the database is as before. -/
lemma Inv.reads (h : Inv s₀ args U s calls g) (hg : g (k,i) = some t)
    {created : List ((ℕ × Item) × JobId)} :
    Inv s₀ args U { s with created := created } calls (Function.update g (k,i) (some t)) :=
  h.stays hg h.coherent (fun _ => Keeps.refl _) fun _ _ hr => hr

/-- A submission goes on to any stage, over a database with all the rows. -/
lemma Inv.submits (h : Inv s₀ args U s calls g) (hg : g (k,i) = some t)
    (hsubmission : ∃ submission, t.item = .submission submission) (hunwritten : t.stage ≠ .written)
    {s' : State} (hcoherent : Coherent s'.db) (hkept : ∀ c, Keeps (s.db.view c) (s'.db.view c))
    (hview : Extends (s.db.view args.connection) (s'.db.view args.connection)) :
    Inv s₀ args U s' calls (Function.update g (k,i) (some { t with stage := stage })) := by
  refine h.goes hg (absurd · hunwritten) ?_ hcoherent hkept fun id row hr _ => hview id row hr
  rintro id rfl
  obtain ⟨submission,hsubmission⟩ := hsubmission
  rw [(h.item k _ t hg).2] at hsubmission
  cases hsubmission

/-- A task ends early. -/
lemma Inv.settles (h : Inv s₀ args U s calls g) (hg : g (k,i) = some t) :
    Inv s₀ args U s calls (Function.update g (k,i) (some { t with stage := t.stage.settled })) := by
  refine h.goes hg ?_ ?_ h.coherent (fun _ => Keeps.refl _) fun _ _ hr _ => hr
  · intro hwritten
    rw [hwritten]
    rfl
  · rintro id rfl hU
    rw [h.idle k id t hU hg]
    rfl

lemma extends_commit {db : Shared Db} (c : ℕ) : Extends (db.view c) ((db.commit c).view c) := by
  intro id row hr
  rcases db.view_commit c c with he | ⟨he,-⟩
  · rwa [he]
  · rw [he]
    cases hw : db.writer with
    | none => simpa [Shared.current,Shared.view,hw] using hr
    | some w =>
      by_cases hc : w.1 = c
      · simpa [Shared.current,Shared.view,hw,hc] using hr
      · have hcommit := db.view_commit c c
        simp [Shared.commit,Shared.view,Shared.current,hw,hc] at he hr ⊢
        rwa [← he]

lemma job_of_exec {task : ℕ × Item} {jobId : JobId} {input : Input} {s' : State}
    {job : Option KGymJob} (h : exec args task (.getJob jobId) s input = some (s',.ok job)) :
    input = .job job := by
  cases input <;> cases h
  rfl

/-- The pass selects its tasks. -/
lemma Inv.spawn (h : Inv s₀ args U s calls g) (hnone : ∀ i, g (0,i) = none) :
    Inv s₀ args U s
      (Function.update calls 0 (some ⟨args,some (kcacheBuilds.select args s)⟩))
      (Pipeline.spawned firstPhase g 0 args (kcacheBuilds.select args s)) := by
  have hs : s = s₀ := h.fresh hnone
  have hspawned : ∀ {k' i t}, Pipeline.spawned firstPhase g 0 args
      (kcacheBuilds.select args s) (k',i) = some t →
      k' = 0 ∧ i ∈ selectItems args s₀ ∧ t = ⟨i,.idle⟩ := by
    intro k' i t ht
    rcases Pipeline.spawned_cases hnone ht with ⟨hk,hmem,ht⟩ | ⟨hk,hg⟩
    · exact ⟨hk,hs ▸ hmem,ht⟩
    · exact absurd (h.item k' i t hg).1 hk
  constructor
  · intro k call hcall
    by_cases hk : k = 0
    · subst hk
      simp only [Function.update_self,Option.some.injEq] at hcall
      exact hcall ▸ rfl
    · exact h.call k call (by simpa [Function.update_of_ne hk] using hcall)
  · intro k' i t ht
    obtain ⟨hk,-,rfl⟩ := hspawned ht
    exact ⟨hk,rfl⟩
  · exact fun _ => hs
  · intro k' id t ht
    obtain ⟨-,hmem,-⟩ := hspawned ht
    cases hkind : args.kind with
    | submit submitArgs => simp [selectItems,hkind] at hmem
    | poll =>
      simp only [selectItems,hkind,List.mem_map,Item.row.injEq,exists_eq_right] at hmem
      obtain ⟨row,hrow,rfl⟩ := List.mem_map.mp hmem
      obtain ⟨hrow,hsub⟩ := Table.mem_select.mp hrow
      exact ⟨row,Table.get?_eq_some.mpr ⟨hrow,rfl⟩,hsub⟩
  · intro hpoll k' i t ht
    obtain ⟨-,hmem,-⟩ := hspawned ht
    simp only [selectItems,hpoll,List.mem_map] at hmem
    obtain ⟨id,-,rfl⟩ := hmem
    exact ⟨id,rfl⟩
  · intro id row hrow _
    rwa [hs]
  · intro k' id t _ ht
    obtain ⟨-,-,rfl⟩ := hspawned ht
    rfl
  · exact h.coherent
  · exact h.kept

/-- A task writes the poll result of the row that it fetched. -/
lemma Inv.writes {kcache : KCache} (h : Inv s₀ args U s calls g)
    (hg : g (0,.row kcache.kCacheId) = some t) (hfetched : t.stage = .fetched)
    (hsound : Sound kcache) {db' : Shared Db} {a : Unit}
    (hx : s.db.Executes args.connection (fun db => (db.updateKcachePollResult kcache,())) db' a) :
    Inv s₀ args U { s with db := db' } calls
      (Function.update g (0,.row kcache.kCacheId) (some { t with stage := .written })) := by
  obtain ⟨row,hrow,hsub⟩ := h.submitted 0 _ t hg
  have hcurrent : s.db.current.kcaches.get? kcache.kCacheId = some row := by
    rw [← hx.view]
    refine h.unwritten _ row hrow fun t' hg' => ?_
    rw [hg] at hg'
    cases hg'
    simp [hfetched]
  obtain ⟨hcoherent',hkept⟩ := h.coherent.executes hx
    (allSound_updateKcachePollResult h.coherent.current hsound)
    (keeps_updateKcachePollResult_of_submitted hcurrent hsub)
  refine h.goes hg (fun _ => rfl) ?_ hcoherent' hkept ?_
  · rintro id hid hU
    cases hid
    have hidle := h.idle 0 _ t hU hg
    rw [hfetched] at hidle
    cases hidle
  · intro id row' hr hne
    change (db'.view _).kcaches.get? id = some row'
    rw [hx.view_eq,if_pos rfl,hx.current,get?_updateKcachePollResult_of_ne,← hx.view]
    · exact hr
    · rintro rfl
      exact hne rfl rfl

theorem upholds :
    kcacheBuilds.Upholds protocol Ends firstPhase (OfPass args U) (Inv s₀ args U) where
  body := work_follows
  starts := by
    rintro p g k args' _ hi ⟨⟨rfl,rfl⟩,-⟩ _ _
    refine ⟨?_,hi.item,hi.fresh,hi.submitted,hi.rows,hi.unwritten,hi.idle,hi.coherent,hi.kept⟩
    intro k call hcall
    by_cases hk : k = 0
    · subst hk
      simp only [Function.update_self,Option.some.injEq] at hcall
      exact hcall ▸ rfl
    · exact hi.call k call (by simpa [Function.update_of_ne hk] using hcall)
  selects := by
    rintro p g k args' _ hi ⟨hk,-⟩ hcall hnone
    obtain rfl : k = 0 := hk
    obtain rfl : args' = args := hi.call 0 _ hcall
    exact hi.spawn hnone
  resumes := by
    intro p g k i input call r c s x t _ hi hc hcall _ hg hallowed hexec
    obtain rfl : call.args = args := hi.call k call hcall
    have hexec' : exec call.args (k,i) r p.shared input = some (s,x) := hexec
    obtain ⟨rfl,hitem⟩ := hi.item k i t hg
    cases answers_of_exec hexec' with
    | @raised r e => exact ⟨_,rfl,hi.settles hg⟩
    | createJob =>
      obtain ⟨hsubmission,hidle⟩ := hallowed
      exact ⟨_,⟨trivial,rfl⟩,hi.submits hg hsubmission (by simp [hidle]) hi.coherent
        (fun _ => Keeps.refl _) fun _ _ hr => hr⟩
    | now => exact ⟨t,⟨trivial,rfl⟩,hi.reads hg⟩
    | downloadReport => exact ⟨t,⟨trivial,rfl⟩,hi.reads hg⟩
    | getKcacheById => exact ⟨t,⟨fun _ => Table.key_of_get?,rfl⟩,hi.reads hg⟩
    | @getJob jobId job =>
      have hidle : t.stage = .idle := hallowed
      refine ⟨_,⟨trivial,rfl⟩,hi.goes hg ?_ ?_ hi.coherent (fun _ => Keeps.refl _) fun _ _ hr _ => hr⟩
      · simp [hidle]
      · rintro id rfl hU
        have hinput := job_of_exec hexec'
        subst hinput
        have hnone : doneJob job = none := hc.2 hU
        simpa [nextStage,hnone] using hidle
    | commit =>
      obtain ⟨hcoherent',hkept⟩ := hi.coherent.commit call.args.connection
      refine ⟨_,⟨trivial,rfl⟩,hi.goes hg ?_ ?_ hcoherent' hkept
        fun id row hr _ => extends_commit _ id row hr⟩
      · intro hwritten
        simp [nextStage,hwritten]
      · rintro id rfl hU
        simp [nextStage,hi.idle 0 id t hU hg]
    | @insertKcache kcache db' id hx =>
      obtain ⟨hbug,hrow,hstage⟩ := hallowed
      obtain ⟨hcoherent',hkept⟩ := hi.coherent.executes hx
        (allSound_insertKcache hi.coherent.current hrow) (extends_insertKcache _ _).keeps
      have hview : Extends (p.shared.db.view call.args.connection)
          (db'.view call.args.connection) := by
        rw [hx.view_eq,if_pos rfl,hx.view,hx.current]
        exact extends_insertKcache _ _
      have hunwritten : t.stage ≠ .written := by
        obtain hidle | ⟨jobId,hholding,-⟩ := hstage
        · simp [hidle]
        · simp [hholding]
      have hgoes : ∀ stage, Inv s₀ call.args U { p.shared with db := db' } p.calls
          (Function.update g (0,i) (some { t with stage := stage })) := fun stage =>
        hi.submits hg (exists_submission hbug) hunwritten hcoherent' hkept hview
      cases id with
      | none => exact ⟨_,rfl,hgoes _⟩
      | some id => exact ⟨_,⟨trivial,rfl⟩,hgoes _⟩
    | @updateKcachePollResult kcache db' a hx =>
      obtain ⟨hrowItem,hfetched,hsound⟩ := hallowed
      obtain rfl : i = .row kcache.kCacheId := hitem ▸ hrowItem
      exact ⟨_,⟨trivial,rfl⟩,hi.writes hg hfetched hsound hx⟩
  cancels := by
    intro p g k i args' items t _ hi _ _ _ _ _ hg
    exact ⟨_,.ok (),⟨t.stage.settled_of_settled,fun _ => rfl⟩,hi.settles hg⟩
  others := by
    rintro p g e s _ _ ⟨hc,-⟩ _
    exact hc.elim

end Pass

end KcacheLife
end LiveKBench.KArenaPipeline
