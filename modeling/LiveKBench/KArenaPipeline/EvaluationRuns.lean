import LiveKBench.KArenaPipeline.Evaluations

/-! How many results an item gets under overlapping runs. Nothing but the selections keeps the runs
apart, so an item gets one result where no selection finds it while another task works on it. -/
namespace LiveKBench.KArenaPipeline
open KArenaWeb (DateTime midJanuary)
open KArenaDb
open Lib

namespace Eval

abbrev Runs := Pool (Shared Db) Args Item Request Request.Answer Raised

abbrev RunEvent := Pool.Event Args Item Input Other

/-- The runs on a database in which no item has two results. -/
def machine : Machine Runs RunEvent :=
  evaluations.machine fun s => ∃ db, AtMostOne db ∧ s = .opened db

/-! ## What a task may ask for -/

/-- The request inserts a result of the item. -/
def InsertsFor (i : Item) : Request → Prop
  | .insertCrashResolutionEval eval => ∃ id : ℕ, i = .crashResolution id ∧ eval.agentPatchId = id
  | .insertLocalizationEval eval => ∃ id : ℕ, i = .localization id ∧ eval.agentPatchId = id
  | .insertDeveloperPatch devPatch => i = .developerPatch devPatch.bugId
  | _ => False

/-- The request inserts a result. -/
def inserts : Request → Bool
  | .insertCrashResolutionEval _ => true
  | .insertLocalizationEval _ => true
  | .insertDeveloperPatch _ => true
  | _ => false

/-- An item, and whether its task has inserted the result. -/
abbrev Phase := Item × Bool

/-- What may be answered to a request. -/
def Answerable : (r : Request) → Except Raised r.Answer → Prop
  | .getAgentPatch id,.ok row => ∀ agentPatch ∈ row, agentPatch.agentPatchId = id
  | _,_ => True

/-- The request has inserted a result. -/
def hasInserted (r : Request) : Except Raised r.Answer → Bool
  | .ok _ => inserts r
  | .error _ => false

/-- A task inserts one result at most, and that for its item. -/
def protocol : Protocol Request Request.Answer Raised Phase where
  allowed t r := inserts r = true → t.2 = false ∧ InsertsFor t.1 r
  leads t r x t' := Answerable r x ∧ t' = (t.1,t.2 || hasInserted r x)

def Anyhow (_ : Phase) (_ : Except Raised Unit) : Prop := True

section Works
variable {α β : Type} {R : α → Prop} {R' : β → Prop} {i : Item} {b : Bool}

/-- The work inserts no result, and what it returns is in `R`. -/
def Yields (c : Work α) (R : α → Prop) : Prop :=
  ∀ (t : Phase) (Q : Phase → Except Raised α → Prop), (∀ e, Q t (.error e)) →
    (∀ a, R a → Q t (.ok a)) → c.Follows protocol Q t

lemma yields_pure {a : α} (h : R a) : Yields (pure a) R := fun _ _ _ hok => hok a h

lemma yields_throw (e : Raised) : Yields (throw e : Work α) R := fun _ _ herror _ => herror e

lemma yields_ask {r : Request} (hr : inserts r = false) :
    Yields (ask r) fun a => Answerable r (.ok a) := by
  intro t Q herror hok
  refine Coroutine.follows_request.mpr ⟨fun h => absurd h (by simp [hr]),?_⟩
  rintro x t' ⟨hx,rfl⟩
  cases x with
  | error e => simpa [hasInserted] using herror e
  | ok a => simpa [hasInserted,hr] using hok a hx

lemma Yields.bind {c : Work α} {f : α → Work β} (h : Yields c R)
    (hf : ∀ a, R a → Yields (f a) R') : Yields (c >>= f) R' := by
  intro t Q herror hok
  refine Coroutine.follows_bind.mpr (h t _ herror fun a ha => ?_)
  exact hf a ha t Q herror hok

lemma Yields.mono {c : Work α} {R' : α → Prop} (h : Yields c R) (himp : ∀ a, R a → R' a) :
    Yields c R' :=
  fun t Q herror hok => h t Q herror fun a ha => hok a (himp a ha)

lemma Yields.tryCatch {c : Work α} {f : Raised → Work α} (h : Yields c R)
    (hf : ∀ e, Yields (f e) R) : Yields (tryCatch c f) R := by
  intro t Q herror hok
  exact Coroutine.follows_tryCatch.mpr (h t _ (fun e => hf e t Q herror hok) hok)

lemma Yields.follows {c : Work Unit} {R : Unit → Prop} (h : Yields c R) (t : Phase) :
    c.Follows protocol Anyhow t := h t _ (fun _ => trivial) fun _ _ => trivial

lemma yields_orRaise {message : String} {row : Option α} (h : ∀ a ∈ row, R a) :
    Yields (orRaise message row : Work α) R := by
  cases row with
  | none => exact yields_throw _
  | some a => exact yields_pure (h a rfl)

lemma yields_ofExcept {x : Except Raised α} : Yields (Coroutine.ofExcept x) fun _ => True := by
  cases x with
  | error e => exact yields_throw e
  | ok a => exact yields_pure trivial

/-- A work after which a quiet one comes. -/
lemma Yields.andThen {c : Work α} {f : α → Work β} (h : Yields c R)
    (hf : ∀ a, Yields (f a) fun _ => True) : Yields (c >>= f) fun _ => True :=
  h.bind fun a _ => hf a

lemma yields_getAgentPatch (id : ℕ) :
    Yields (getAgentPatch id) fun agentPatch => agentPatch.agentPatchId = id :=
  (yields_ask rfl).bind fun _ hrow => yields_orRaise hrow

lemma yields_getBug (bugId : String) : Yields (getBug bugId) fun _ => True :=
  (yields_ask rfl).bind fun _ _ => yields_orRaise fun _ _ => trivial

lemma yields_getLatestKcache (bugId : String) (baseCommit : BaseCommit) :
    Yields (getLatestKcache bugId baseCommit) fun _ => True :=
  (yields_ask rfl).bind fun _ _ => yields_orRaise fun _ _ => trivial

lemma yields_getPatch (patchId : ℤ) : Yields (getPatch patchId) fun _ => True :=
  (yields_ask rfl).bind fun _ _ => yields_orRaise fun _ _ => trivial

lemma yields_submitKgymJob (bugId kcacheJobId patchContent syzkallerTag : String) :
    Yields (submitKgymJob bugId kcacheJobId patchContent syzkallerTag) fun _ => True := by
  refine (yields_ask rfl).andThen fun job => ?_
  cases job with
  | none => exact yields_throw _
  | some job =>
    refine yields_ofExcept.andThen fun kcache => (yields_getBug bugId).andThen fun bug => ?_
    cases kcache with
    | none => exact yields_throw _
    | some resource =>
      exact yields_ofExcept.andThen fun _ => yields_ofExcept.andThen fun _ =>
        (yields_ask rfl).andThen fun _ => yields_pure trivial

/-- The record of a submission is one of the patch that was submitted. -/
lemma yields_submitEval (id : ℕ) :
    Yields (submitEval id) fun eval => eval.agentPatchId = (id : ℤ) := by
  refine (yields_getAgentPatch id).bind fun agentPatch hid => (yields_getBug _).bind fun _ _ =>
    (yields_getLatestKcache _ _).bind fun _ _ => (yields_getPatch _).bind fun _ _ =>
    (yields_submitKgymJob _ _ _ _).bind fun _ _ => yields_pure ?_
  rw [hid]

/-- What `run_eval` returns is a record of the patch that it was given, also where it raised. -/
lemma yields_runLocalization (agentPatch : AgentPatch) (devPatch : DeveloperPatch) :
    Yields (runLocalization agentPatch devPatch) fun eval =>
      eval.agentPatchId = (agentPatch.agentPatchId : ℤ) := by
  refine Yields.tryCatch ((yields_getPatch _).bind fun agentData _ => (yields_getPatch _).bind
    fun devData _ => yields_pure ?_) fun e => yields_pure ?_
  · unfold localize
    split
    · rfl
    · split <;> rfl
  · cases e <;> rfl

/-- An insertion of a result, made once. -/
lemma inserted_follows {r : Request} {id : r.Answer → ℕ} {Q : Phase → Except Raised ℕ → Prop}
    (hr : InsertsFor i r) (hQ : ∀ b x, Q (i,b) x) :
    (inserted r id).Follows protocol Q (i,false) := by
  refine Coroutine.follows_bind.mpr (Coroutine.follows_request.mpr ⟨fun _ => ⟨rfl,hr⟩,?_⟩)
  rintro x t' ⟨-,rfl⟩
  cases x with
  | error e => exact hQ _ _
  | ok a =>
    have hcommit : Yields (do ask .commit; return id a) fun _ => True :=
      (yields_ask rfl).bind fun _ _ => yields_pure trivial
    exact hcommit _ _ (fun e => hQ _ _) fun a _ => hQ _ _

lemma submitSingle_follows (id : ℕ) :
    (submitSingle id).Follows protocol Anyhow (.crashResolution id,false) := by
  refine Coroutine.follows_tryCatch.mpr (Coroutine.follows_bind.mpr
    (yields_submitEval id _ _ (fun _ => trivial) fun eval heval => ?_))
  refine Coroutine.follows_bind.mpr (inserted_follows ⟨id,rfl,heval⟩ fun b x => ?_)
  cases x <;> trivial

lemma evaluateSingle_follows (id : ℕ) :
    (evaluateSingle id).Follows protocol Anyhow (.localization id,false) := by
  refine Coroutine.follows_tryCatch.mpr (Coroutine.follows_bind.mpr
    (yields_getAgentPatch id _ _ (fun _ => trivial) fun agentPatch hid => ?_))
  refine Coroutine.follows_bind.mpr (yields_ask rfl _ _ (fun _ => trivial) fun devPatch _ => ?_)
  cases devPatch with
  | none => trivial
  | some devPatch =>
    refine Coroutine.follows_bind.mpr
      (yields_runLocalization _ _ _ _ (fun _ => trivial) fun eval heval => ?_)
    refine Coroutine.follows_bind.mpr (inserted_follows ⟨id,rfl,hid ▸ heval⟩ fun b x => ?_)
    cases x <;> trivial

lemma recordAnalysis_follows {bugId : String} {bug : DatedBug} {analysis : PatchAnalysis}
    {Q : Phase → Except Raised Unit → Prop} (hQ : ∀ b x, Q (.developerPatch bugId,b) x) :
    (recordAnalysis bugId bug analysis).Follows protocol Q (.developerPatch bugId,false) := by
  have hpatch : ∀ patch, Yields (insertPatch patch) fun _ => True := fun patch =>
    (yields_ask rfl).andThen fun _ => (yields_ask rfl).andThen fun _ => yields_pure trivial
  have hfixed : Yields (fixedTimeOf bug) fun _ => True := by
    unfold fixedTimeOf
    cases bug.patchCommitDate with
    | none => exact (yields_ask rfl).mono fun _ _ => trivial
    | some date => exact yields_pure trivial
  refine Coroutine.follows_bind.mpr (hpatch _ _ _ (fun _ => hQ _ _) fun patchId _ => ?_)
  refine Coroutine.follows_bind.mpr (yields_ask rfl _ _ (fun _ => hQ _ _) fun addedTime _ => ?_)
  refine Coroutine.follows_bind.mpr (hfixed _ _ (fun _ => hQ _ _) fun fixedTime _ => ?_)
  refine Coroutine.follows_bind.mpr (yields_ofExcept _ _ (fun _ => hQ _ _) fun message _ => ?_)
  refine Coroutine.follows_bind.mpr (inserted_follows rfl fun b x => ?_)
  cases x <;> exact hQ _ _

lemma analyzePatch_follows {bugId : String} {bug : DatedBug}
    {Q : Phase → Except Raised Unit → Prop} (hQ : ∀ b x, Q (.developerPatch bugId,b) x) :
    (analyzePatch bugId bug).Follows protocol Q (.developerPatch bugId,false) := by
  refine Coroutine.follows_bind.mpr (yields_ask rfl _ _ (fun _ => hQ _ _) fun _ _ => ?_)
  refine Coroutine.follows_bind.mpr (yields_ask rfl _ _ (fun _ => hQ _ _) fun analysis _ => ?_)
  cases analysis with
  | none => exact hQ _ _
  | some analysis =>
    by_cases hs : analysis.status = .success
    · simpa [Coroutine.After,hs] using recordAnalysis_follows hQ
    · simpa [Coroutine.After,hs] using hQ _ _

lemma processOne_follows (bugId : String) :
    (processOne bugId).Follows protocol Anyhow (.developerPatch bugId,false) := by
  have hcleanup : Yields (ask (.cleanupImages bugId)) fun _ => True :=
    (yields_ask rfl).mono fun _ _ => trivial
  refine Coroutine.follows_bind.mpr (yields_getBug bugId _ _ (fun _ => trivial) fun bug _ => ?_)
  by_cases hpatch : isFalsy bug.syzbotData.patch
  · simp [Coroutine.After,hpatch,Anyhow]
  · simp only [Coroutine.After,hpatch]
    refine Coroutine.follows_bind.mpr (Coroutine.follows_tryCatch.mpr
      (analyzePatch_follows fun b x => ?_))
    cases x with
    | ok a => exact hcleanup.follows _
    | error e =>
      exact Coroutine.follows_bind.mpr (hcleanup _ _ (fun _ => trivial) fun _ _ => trivial)

theorem work_follows (i : Item) : (work i).Follows protocol Anyhow (i,false) := by
  cases i with
  | crashResolution id => exact submitSingle_follows id
  | localization id => exact evaluateSingle_follows id
  | developerPatch bugId => exact processOne_follows bugId

/-- A task that has inserted its result follows the protocol also from before that. -/
lemma follows_of_inserted {c : Work Unit} (h : c.Follows protocol Anyhow (i,true)) :
    c.Follows protocol Anyhow (i,false) := by
  induction c with
  | done a => trivial
  | raise e => trivial
  | await r k ih =>
    have hr : inserts r = false := by
      by_contra hr
      simpa using (h.1 (by simpa using hr)).1
    refine ⟨fun hins => absurd hins (by simp [hr]),?_⟩
    rintro x t' ⟨hx,rfl⟩
    have hnot : hasInserted r x = false := by cases x <;> simp [hasInserted,hr]
    rw [hnot]
    exact ih x (h.2 x (i,true) ⟨hx,by simp [hnot]⟩)

end Works

/-! ## What a request does to the results -/

lemma results_append {ρ : Type} {key : ρ → ℕ} (t : AutoTable key) (row : ℕ → ρ)
    (hrow : ∀ n, key (row n) = n) (p : ρ → Bool) :
    (t.append row hrow).rows.countP p = t.rows.countP p + if p (row (t.last+1)) then 1 else 0 := by
  rw [AutoTable.rows_append,List.countP_append,List.countP_singleton]

lemma results_insertCrash {eval : PatchCrashResolutionEvaluation} {i : Item}
    (h : InsertsFor i (.insertCrashResolutionEval eval)) (db : Db) (j : Item) :
    (Db.insertCrashResolutionEval eval db).1.results j =
      db.results j + if j = i then 1 else 0 := by
  obtain ⟨id,rfl,hid⟩ := h
  cases j with
  | crashResolution id' =>
    refine (results_append _ _ _ _).trans ?_
    simp [Db.results,hid,eq_comm]
  | localization id' => simp [Db.results,Db.insertCrashResolutionEval]
  | developerPatch bugId => simp [Db.results,Db.insertCrashResolutionEval]

lemma results_insertLocalization {eval : PatchLocalizationEvaluation} {i : Item}
    (h : InsertsFor i (.insertLocalizationEval eval)) (db : Db) (j : Item) :
    (Db.insertLocalizationEval eval db).1.results j =
      db.results j + if j = i then 1 else 0 := by
  obtain ⟨id,rfl,hid⟩ := h
  cases j with
  | localization id' =>
    refine (results_append _ _ _ _).trans ?_
    simp [Db.results,hid,eq_comm]
  | crashResolution id' => simp [Db.results,Db.insertLocalizationEval]
  | developerPatch bugId => simp [Db.results,Db.insertLocalizationEval]

lemma results_insertDeveloperPatch {devPatch : DeveloperPatch} {i : Item}
    (h : InsertsFor i (.insertDeveloperPatch devPatch)) (db : Db) (j : Item) :
    (Db.insertDeveloperPatch devPatch db).1.results j =
      db.results j + if j = i then 1 else 0 := by
  obtain rfl : i = .developerPatch devPatch.bugId := h
  cases j with
  | developerPatch bugId =>
    refine (results_append _ _ _ _).trans ?_
    simp [Db.results,eq_comm]
  | crashResolution id' => simp [Db.results,Db.insertDeveloperPatch]
  | localization id' => simp [Db.results,Db.insertDeveloperPatch]

/-- What an answered request has done to the results of the items, where it was for the item `i`. -/
inductive Effects (s s' : Shared Db) (i : Item) : Bool → Prop
  | same (current : s'.current.results = s.current.results)
      (committed : s'.committed.results = s.current.results ∨
        s'.committed.results = s.committed.results) : Effects s s' i false
  | inserted (current : ∀ j, s'.current.results j = s.current.results j + if j = i then 1 else 0)
      (committed : s'.committed.results = s.committed.results) : Effects s s' i true

lemma effects_of_executes {s s' : Shared Db} {i : Item} {c id : ℕ} {f : Db → Db × ℕ}
    (hx : s.Executes c f s' id)
    (hf : ∀ db j, (f db).1.results j = db.results j + if j = i then 1 else 0) :
    Effects s s' i true := by
  refine .inserted (fun j => ?_) (congrArg _ hx.committed)
  rw [hx.current]
  exact hf _ j

lemma effects_of_exec {args : Args} {r : Request} {s s' : Shared Db} {input : Input} {i : Item}
    {x : Except Raised r.Answer} (h : exec args r s input = some (s',x))
    (hr : inserts r = true → InsertsFor i r) :
    Answerable r x ∧ Effects s s' i (hasInserted r x) := by
  have hquiet : ∀ {b : Bool}, b = false → s' = s → Effects s s' i b := by
    rintro b rfl rfl
    exact .same rfl (.inr rfl)
  cases input with
  | raises e =>
    cases r <;> cases h <;> exact ⟨trivial,hquiet rfl rfl⟩
  | go =>
    cases r with
    | getAgentPatch id =>
      cases h
      exact ⟨fun agentPatch ha => Table.key_of_get? ha,hquiet rfl rfl⟩
    | insertCrashResolutionEval eval =>
      obtain ⟨⟨db',id⟩,he,hpair⟩ := Option.map_eq_some_iff.mp h
      cases hpair
      exact ⟨trivial,effects_of_executes (Shared.executes_of_execute he)
        (results_insertCrash (hr rfl))⟩
    | insertLocalizationEval eval =>
      obtain ⟨⟨db',id⟩,he,hpair⟩ := Option.map_eq_some_iff.mp h
      cases hpair
      exact ⟨trivial,effects_of_executes (Shared.executes_of_execute he)
        (results_insertLocalization (hr rfl))⟩
    | insertDeveloperPatch devPatch =>
      obtain ⟨⟨db',id⟩,he,hpair⟩ := Option.map_eq_some_iff.mp h
      cases hpair
      exact ⟨trivial,effects_of_executes (Shared.executes_of_execute he)
        (results_insertDeveloperPatch (hr rfl))⟩
    | insertPatch patch =>
      obtain ⟨⟨db',id⟩,he,hpair⟩ := Option.map_eq_some_iff.mp h
      cases hpair
      have hx := Shared.executes_of_execute he
      refine ⟨trivial,.same ?_ (.inr (congrArg _ hx.committed))⟩
      rw [hx.current]
      funext j
      cases j <;> rfl
    | commit =>
      cases h
      refine ⟨trivial,.same (congrArg _ (Shared.current_commit _ _)) ?_⟩
      rw [Shared.committed_commit]
      exact (s.view_eq args.connection).imp (congrArg _) (congrArg _)
    | getBug bugId => cases h; exact ⟨trivial,hquiet rfl rfl⟩
    | getLatestKcache bugId baseCommit => cases h; exact ⟨trivial,hquiet rfl rfl⟩
    | getPatch patchId => cases h; exact ⟨trivial,hquiet rfl rfl⟩
    | getDeveloperPatchByBugId bugId => cases h; exact ⟨trivial,hquiet rfl rfl⟩
    | ensureKenvImage bugId => cases h; exact ⟨trivial,hquiet rfl rfl⟩
    | cleanupImages bugId => cases h; exact ⟨trivial,hquiet rfl rfl⟩
    | getJob jobId => cases h
    | createJob request => cases h
    | runAgent bugId patch => cases h
    | now => cases h
  | time now => cases r <;> cases h; exact ⟨trivial,hquiet rfl rfl⟩
  | job job => cases r <;> cases h; exact ⟨trivial,hquiet rfl rfl⟩
  | jobId jobId => cases r <;> cases h; exact ⟨trivial,hquiet rfl rfl⟩
  | analysis analysis => cases r <;> cases h; exact ⟨trivial,hquiet rfl rfl⟩

/-! ## Runs -/

/-- A task that may still insert its result. -/
def Pending (p : Runs) (k : ℕ) (i : Item) : Prop :=
  p.task (k,i) = .queued ∨
    ∃ c, p.task (k,i) = .active c ∧ ¬c.Follows protocol Anyhow (i,true)

/-- An item has one result at most, and none while one task may still insert it. -/
structure Inv (p : Runs) : Prop where
  once : AtMostOne p.shared.current
  onceCommitted : AtMostOne p.shared.committed
  body : ∀ k i c, p.task (k,i) = .active c → c.Follows protocol Anyhow (i,false)
  unfinished : ∀ k i, Pending p k i → p.shared.current.results i = 0
  sole : ∀ k k' i, Pending p k i → Pending p k' i → k = k'

/-- A selection finds no item on which another task still works, and none whose result is written
on another connection. -/
def SelectsFree (p : Runs) : RunEvent → Prop
  | .select k => ∀ call, p.calls k = some call → ∀ i ∈ selectItems call.args p.shared,
      (∀ k', (p.task (k',i)).isLive = false) ∧ p.shared.current.results i = 0
  | _ => True

section Steps
variable {p p' : Runs} {k : ℕ} {i : Item}

lemma Pending.live (h : Pending p k i) : (p.task (k,i)).isLive = true := by
  rcases h with h | ⟨c,h,-⟩ <;> simp [h,Task.isLive]

/-- Where the tasks may do no more than before, and the results are those of before. -/
lemma Inv.same (h : Inv p) (hcurrent : p'.shared.current.results = p.shared.current.results)
    (hcommitted : AtMostOne p'.shared.committed)
    (hbody : ∀ k i c, p'.task (k,i) = .active c → c.Follows protocol Anyhow (i,false))
    (hpending : ∀ k i, Pending p' k i → Pending p k i) : Inv p' := by
  refine ⟨?_,hcommitted,hbody,?_,?_⟩
  · intro i
    rw [hcurrent]
    exact h.once i
  · intro k i hp
    rw [hcurrent]
    exact h.unfinished k i (hpending k i hp)
  · intro k k' i hp hp'
    exact h.sole k k' i (hpending k i hp) (hpending k' i hp')

/-- The task of one item goes on. -/
lemma body_setTask (h : Inv p) {c : Work Unit} (hc : c.Follows protocol Anyhow (i,false)) :
    ∀ k' i' c', (p.setTask k i (.ofCoroutine c)).task (k',i') = .active c' →
      c'.Follows protocol Anyhow (i',false) := by
  intro k' i' c' hc'
  by_cases hki : (k',i') = (k,i)
  · cases hki
    have htask : Task.ofCoroutine c = .active c' := by simpa [Pool.setTask] using hc'
    cases c with
    | done a => cases htask
    | raise e => cases htask
    | await r f =>
      cases htask
      exact hc
  · exact h.body k' i' c' (by simpa [Pool.setTask,Function.update_of_ne hki] using hc')

lemma pending_setTask {task : Task Request Request.Answer Raised} {k' : ℕ} {i' : Item}
    (h : Pending (p.setTask k i task) k' i') : (k',i') = (k,i) ∧ (task = .queued ∨
      ∃ c, task = .active c ∧ ¬c.Follows protocol Anyhow (i,true)) ∨
      (k',i') ≠ (k,i) ∧ Pending p k' i' := by
  by_cases hki : (k',i') = (k,i)
  · cases hki
    exact .inl ⟨rfl,by simpa [Pending,Pool.setTask] using h⟩
  · exact .inr ⟨hki,by simpa [Pending,Pool.setTask,Function.update_of_ne hki] using h⟩

lemma follows_of_ofCoroutine {c c' : Work Unit} {t : Phase} (h : Task.ofCoroutine c = .active c')
    (hc : c.Follows protocol Anyhow t) : c'.Follows protocol Anyhow t := by
  cases c with
  | done a => cases h
  | raise e => cases h
  | await r f =>
    cases h
    exact hc

/-- A selection that finds free items. -/
lemma Inv.select (h : Inv p) (hformed : Pipeline.Formed p) {args : Args}
    (hc : SelectsFree p (.select k)) (call : p.calls k = some ⟨args,none⟩) :
    Inv (p.spawn k args (selectItems args p.shared)) := by
  have habsent : ∀ i, p.task (k,i) = .absent := hformed.absent (by simp [call])
  have hitem := hc _ call
  have hold : ∀ k' i, Pending (p.spawn k args (selectItems args p.shared)) k' i →
      k' = k ∧ i ∈ selectItems args p.shared ∨ k' ≠ k ∧ Pending p k' i := by
    intro k' i hp
    by_cases hki : k' = k ∧ i ∈ selectItems args p.shared
    · exact .inl hki
    · have hbefore : Pending p k' i := by simpa [Pending,Pool.spawn,hki] using hp
      refine .inr ⟨?_,hbefore⟩
      rintro rfl
      have hlive := hbefore.live
      rw [habsent i] at hlive
      cases hlive
  have hfree : ∀ k' i, i ∈ selectItems args p.shared → ¬Pending p k' i := by
    intro k' i hi hp
    have hlive := hp.live
    rw [(hitem i hi).1 k'] at hlive
    cases hlive
  refine ⟨h.once,h.onceCommitted,?_,?_,?_⟩
  · intro k' i c hcoroutine
    by_cases hki : k' = k ∧ i ∈ selectItems args p.shared
    · simp [Pool.spawn,hki] at hcoroutine
    · exact h.body k' i c (by simpa [Pool.spawn,hki] using hcoroutine)
  · intro k' i hp
    rcases hold k' i hp with ⟨-,hi⟩ | ⟨-,hp⟩
    · exact (hitem i hi).2
    · exact h.unfinished k' i hp
  · intro k₁ k₂ i hp₁ hp₂
    rcases hold k₁ i hp₁ with ⟨he₁,hi⟩ | ⟨-,hbefore₁⟩
    · rcases hold k₂ i hp₂ with ⟨he₂,-⟩ | ⟨-,hbefore₂⟩
      · exact he₁.trans he₂.symm
      · exact absurd hbefore₂ (hfree k₂ i hi)
    · rcases hold k₂ i hp₂ with ⟨-,hi⟩ | ⟨-,hbefore₂⟩
      · exact absurd hbefore₁ (hfree k₁ i hi)
      · exact h.sole k₁ k₂ i hbefore₁ hbefore₂

lemma Inv.resume (h : Inv p) {call : Call Args Item} {r : Request} {input : Input}
    {c : Except Raised r.Answer → Work Unit} {s : Shared Db} {x : Except Raised r.Answer}
    (active : p.task (k,i) = .active (.await r c))
    (exec : Eval.exec call.args r p.shared input = some (s,x)) :
    Inv { p.setTask k i (.ofCoroutine (c x)) with shared := s } := by
  obtain ⟨hallowed,hnext⟩ := h.body k i _ active
  obtain ⟨hanswer,heffects⟩ := effects_of_exec exec fun hr => (hallowed hr).2
  have hfollows := hnext x _ ⟨hanswer,rfl⟩
  generalize hb : hasInserted r x = b at heffects hfollows
  cases heffects with
  | same current committed =>
    refine h.same current ?_ (body_setTask h hfollows) ?_
    · intro j
      rcases committed with he | he
      · exact he ▸ h.once j
      · exact he ▸ h.onceCommitted j
    · intro k' j hp
      rcases pending_setTask (p := p) hp with ⟨he,hq | ⟨c',hc',hnot⟩⟩ | ⟨-,hp⟩
      · cases hx : c x <;> simp [hx,Task.ofCoroutine] at hq
      · cases he
        -- had the task inserted before, it would have inserted still
        refine .inr ⟨_,active,fun hbefore => hnot (follows_of_ofCoroutine hc' ?_)⟩
        exact hbefore.2 x _ ⟨hanswer,by simp⟩
      · exact hp
  | inserted current committed =>
    have hins : inserts r = true := by
      cases x with
      | error e => cases hb
      | ok a => exact hb
    have hp : Pending p k i := by
      refine .inr ⟨_,active,fun hbefore => ?_⟩
      simpa using (hbefore.1 hins).1
    have hnone := h.unfinished k i hp
    have hothers : ∀ k' j, Pending { p.setTask k i (.ofCoroutine (c x)) with shared := s } k' j →
        j ≠ i ∧ Pending p k' j := by
      intro k' j hpending
      rcases pending_setTask (p := p) hpending with ⟨-,hq | ⟨c',hc',hnot⟩⟩ | ⟨hne,hbefore⟩
      · cases hx : c x <;> simp [hx,Task.ofCoroutine] at hq
      · exact absurd (follows_of_ofCoroutine hc' hfollows) hnot
      · refine ⟨?_,hbefore⟩
        rintro rfl
        exact hne (by rw [h.sole k' k j hbefore hp])
    refine ⟨?_,?_,body_setTask h (follows_of_inserted hfollows),?_,?_⟩
    · intro j
      refine (current j).trans_le ?_
      by_cases hj : j = i
      · simp [hj,hnone]
      · simpa [hj] using h.once j
    · intro j
      exact committed ▸ h.onceCommitted j
    · intro k' j hpending
      obtain ⟨hj,hpending⟩ := hothers k' j hpending
      refine (current j).trans ?_
      simp [hj,h.unfinished k' j hpending]
    · intro k₁ k₂ j hp₁ hp₂
      exact h.sole k₁ k₂ j (hothers k₁ j hp₁).2 (hothers k₂ j hp₂).2

theorem Inv.step (h : Inv p) (hformed : Pipeline.Formed p) {e : RunEvent} (hc : SelectsFree p e)
    (hm : evaluations.Moves p e p') : Inv p' := by
  cases hm with
  | start fresh => exact ⟨h.once,h.onceCommitted,h.body,h.unfinished,h.sole⟩
  | select call => exact h.select hformed hc call
  | @enter k i args items call queued permit =>
    refine h.same rfl h.onceCommitted (body_setTask h (work_follows i)) fun k' i' hp => ?_
    rcases pending_setTask hp with ⟨he,-⟩ | ⟨-,hp⟩
    · cases he
      exact .inl queued
    · exact hp
  | resume called active exec => exact h.resume active exec
  | @cancel k i args items call cancels failed live =>
    refine h.same rfl h.onceCommitted ?_ fun k' i' hp => ?_
    · intro k' i' c hcoroutine
      by_cases hki : (k',i') = (k,i)
      · simp [Pool.setTask,hki] at hcoroutine
      · exact h.body k' i' c (by simpa [Pool.setTask,Function.update_of_ne hki] using hcoroutine)
    · rcases pending_setTask hp with ⟨-,hq | ⟨c,hc,-⟩⟩ | ⟨-,hp⟩
      · cases hq
      · cases hc
      · exact hp
  | @other e s happens =>
    have hsame : s.current.results = p.shared.current.results ∧ AtMostOne s.committed := by
      cases e with
      | write c f =>
        obtain ⟨⟨db',a⟩,he,rfl⟩ := Option.map_eq_some_iff.mp happens
        have hx := Shared.executes_of_execute he
        refine ⟨?_,hx.committed ▸ h.onceCommitted⟩
        rw [hx.current]
        funext j
        cases j <;> rfl
      | commit c =>
        cases happens
        refine ⟨congrArg _ (Shared.current_commit _ _),?_⟩
        rw [Shared.committed_commit]
        rcases p.shared.view_eq c with he | he
        · exact he ▸ h.once
        · exact he ▸ h.onceCommitted
    exact h.same hsame.1 hsame.2 h.body fun _ _ hp => hp

end Steps

/-- Where every selection finds free items, no item ever has two results. -/
theorem atMostOne_of_selectsFree {p : Runs} (h : machine.ReachableBy SelectsFree p) :
    AtMostOne p.shared.current ∧ AtMostOne p.shared.committed := by
  have hinv : Inv p := by
    refine h.invariant ?_ ?_
    · rintro _ ⟨_,⟨db,hdb,rfl⟩,rfl⟩
      have hidle : ∀ k i, ¬Pending (Pool.idle (.opened db) : Runs) k i := by
        rintro k i (hq | ⟨c,hc,-⟩)
        · cases hq
        · cases hc
      refine ⟨hdb,hdb,?_,fun k i hp => absurd hp (hidle k i),fun k k' i hp => absurd hp (hidle k i)⟩
      intro k i c hc
      cases hc
    · intro p e p' hr hi hc hs
      exact hi.step (Pipeline.formed_of_reachable hr) hc (evaluations.moves_of_step hs)
  exact ⟨hinv.once,hinv.onceCommitted⟩

/-- `SelectsFree` where only the first `n` calls start. -/
def selectsFreeBelow (n : ℕ) (p : Runs) : RunEvent → Bool
  | .start k _ => k < n
  | .select k => (p.calls k).all fun call => (selectItems call.args p.shared).all fun i =>
      (List.range n).all (fun k' => !(p.task (k',i)).isLive) && p.shared.current.results i = 0
  | _ => true

lemma selectsFree_of_below {n : ℕ} {p : Runs} (h : machine.ReachableBy
    (fun p e => selectsFreeBelow n p e = true) p) : machine.ReachableBy SelectsFree p := by
  refine h.mono_of_reachable fun p e hp he => ?_
  cases e with
  | select k =>
    intro call hcall i hi
    simp only [selectsFreeBelow,hcall,Option.all_some,List.all_eq_true] at he
    have hi := he i hi
    simp only [Bool.and_eq_true,List.all_eq_true,decide_eq_true_eq] at hi
    refine ⟨fun k' => ?_,hi.2⟩
    by_cases hk : k' < n
    · simpa using hi.1 k' (List.mem_range.mpr hk)
    · have habsent := Pipeline.absent_of_unstarted hp
        (fun p k args hs => of_decide_eq_true hs) (Nat.le_of_not_lt hk) i
      rw [habsent]
      rfl
  | start k args => trivial
  | enter k i => trivial
  | resume k i input => trivial
  | cancel k i => trivial
  | other e => trivial

def agentPatch : AgentPatch :=
  ⟨1,1,"bug",midJanuary,1,1,.parentCommit,.success,"",none,none,none,none,none,.empty⟩

def devPatch : DeveloperPatch := ⟨1,1,"bug","commit",midJanuary,midJanuary,"",.empty⟩

/-- A patch of an agent that nobody has evaluated yet. -/
def onePatch : Db where
  sources :=
    { bugs := .empty
      kenvBaseImages := .empty
      kcaches := .empty
      patches := .empty
      agentPatches := AutoTable.empty.append (fun n => { agentPatch with agentPatchId := n })
        fun _ => rfl }
  crashEvals := .empty
  localizationEvals := .empty
  developerPatches := AutoTable.empty.append (fun n => { devPatch with devPatchId := n })
    fun _ => rfl

lemma onePatch_atMostOne : AtMostOne onePatch := by
  intro i
  cases i with
  | crashResolution id => exact Nat.zero_le 1
  | localization id => exact Nat.zero_le 1
  | developerPatch bugId =>
    have h : onePatch.results (.developerPatch bugId) ≤ onePatch.developerPatches.rows.length :=
      List.countP_le_length
    exact h

/-- A task of a localization run, from its start to its end. -/
def localizes (k : ℕ) : List RunEvent :=
  .enter k (.localization 1) :: List.replicate 5 (.resume k (.localization 1) .go)

def localizationRun : Args := ⟨0,.localization 16⟩

/-- A localization run and a submission run that overlap. -/
def twoKinds : List RunEvent :=
  [.start 0 localizationRun,.start 1 ⟨0,.submitCrashResolution 16 none⟩,.select 0,.select 1,
    .enter 1 (.crashResolution 1)] ++ localizes 0

theorem twoKinds_atMostOne : ∃ p, machine.ReachableBy SelectsFree p ∧
    p.shared.committed.results (.localization 1) = 1 ∧ AtMostOne p.shared.current ∧
    AtMostOne p.shared.committed := by
  obtain ⟨p,hp,htest⟩ := Machine.exists_of_replay machine
    (fun p e => selectsFreeBelow 2 p e = true) twoKinds
    (fun p => p.shared.committed.results (.localization 1) = 1) (s := .idle (.opened onePatch))
    ⟨_,⟨_,onePatch_atMostOne,rfl⟩,rfl⟩ (by decide +kernel)
  have hfree := selectsFree_of_below hp
  exact ⟨p,hfree,of_decide_eq_true htest,atMostOne_of_selectsFree hfree⟩

/-- Two localization runs that overlap, after both have selected the same patch. -/
theorem sameSelection_not_atMostOne : ∃ p, machine.Reachable p ∧
    ¬AtMostOne p.shared.committed := by
  obtain ⟨p,hp,htest⟩ := Machine.exists_of_replay machine (fun _ _ => True)
    ([.start 0 localizationRun,.start 1 localizationRun,.select 0,.select 1] ++ localizes 0 ++
      localizes 1)
    (fun p => p.shared.committed.results (.localization 1) = 2) (s := .idle (.opened onePatch))
    ⟨_,⟨_,onePatch_atMostOne,rfl⟩,rfl⟩ (by decide +kernel)
  refine ⟨p,hp,fun hone => ?_⟩
  have htwo := of_decide_eq_true htest
  have hle := hone (.localization 1)
  omega

end Eval
end LiveKBench.KArenaPipeline
