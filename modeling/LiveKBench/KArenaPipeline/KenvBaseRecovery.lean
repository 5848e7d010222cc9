import LiveKBench.KArenaPipeline.KenvBaseRuns
import LiveKBench.Lib.SoleCall

/-! What a later run of `populate_kenv_base_builds` makes of the rows that an interrupted one left:
it takes up those that are pending, and none that is building. -/
namespace LiveKBench.KArenaPipeline
open KArenaWeb (midJanuary)
open KArenaDb KArenaDb.KEnvBase
open Lib

namespace Kenv

/-- The runs on a table with any rows. -/
def anyTable : Machine Runs (Pool.Event Args ℕ Input Other) :=
  populateKenvBaseBuilds.machine fun s => ∃ db, s = ⟨.opened db,[]⟩

/-- What an interruption leaves to a run on the connection `c`: where the process was killed, what
is committed; where the run was cancelled, its connection with what it had written. -/
inductive Interrupted (s : State) (c : ℕ) : State → Prop
  | killed : Interrupted s c { s with db := s.db.reopened }
  | cancelled (own : ∀ w ∈ s.db.writer, w.1 = c) : Interrupted s c s

/-- One run that nothing interrupts. -/
abbrev Alone (s : State) (args : Args) (tr : List (Runs × Pool.Event Args ℕ Input Other))
    (p : Runs) : Prop :=
  (populateKenvBaseBuilds.machine (· = s)).Run (fun _ e => Pipeline.OfCall 0 args e) tr p

/-- Nothing is left to do for the run. -/
def Over (args : Args) (p : Runs) : Prop :=
  ∀ e, Pipeline.OfCall 0 args e → populateKenvBaseBuilds.step p e = none

/-- A run from here comes to its end, and brings every row to a final state. -/
structure Recovers (s : State) (args : Args) : Prop where
  ends : ∃ n, ∀ tr p, Alone s args tr p → tr.length ≤ n
  final : ∀ tr p, Alone s args tr p → Over args p → ∀ i row, s.db.current.get? i = some row →
    ¬Terminal row → ∃ row', p.shared.db.current.get? i = some row' ∧ Terminal row'

/-- No row is building, and where one is pending the semaphore lets a driver in. -/
def Recoverable (db : KEnvBaseTable) (args : Args) : Prop :=
  ∀ i row, db.get? i = some row →
    row.status ≠ .building ∧ (row.status = .pending → 0 < args.maxConcurrent)

/-! ## A run alone -/

lemma within_ask (r : Request) : (ask r).Within 1 := Coroutine.within_request r

lemma within_setKenvBaseState (kEnvImageId : ℕ) (new : NewState) :
    (setKenvBaseState kEnvImageId new).Within 2 :=
  (within_ask _).bind fun _ => within_ask _

lemma within_await (call : BuilderCall) : (await call).Within 2 :=
  (within_ask _).bind fun _ => within_ask _

lemma within_markKenvBaseBuilt (kEnvImageId : ℕ) (pushed : Bool) (message : String) :
    (markKenvBaseBuilt kEnvImageId pushed message).Within 3 := by
  refine (within_ask _).bind (n := 2) fun now => ?_
  cases pushed <;> exact within_setKenvBaseState _ _

lemma within_driveOne (shouldPush : Bool) (kEnvImageId : ℕ) :
    (driveOne shouldPush kEnvImageId).Within 14 := by
  have hclaim : (claimKenvBaseBuild kEnvImageId).Within 2 :=
    (within_ask _).bind fun _ => (within_ask _).bind (n := 0) fun _ => Coroutine.within_pure _ _
  have hget : (getKenvBaseById kEnvImageId).Within 1 := by
    refine (within_ask _).bind (n := 0) fun row => ?_
    cases row <;> trivial
  refine hclaim.bind (n := 12) fun won => ?_
  cases won with
  | false => trivial
  | true =>
    refine hget.bind (n := 11) fun row => Coroutine.Within.tryCatch (m := 9) (n := 2) ?_ fun e =>
      within_setKenvBaseState _ _
    refine (within_await _).bind (n := 7) fun _ => ?_
    cases shouldPush with
    | false => exact (within_markKenvBaseBuilt _ _ _).mono (by decide)
    | true =>
      exact (within_await _).bind (n := 5) fun _ => (within_await _).bind (n := 3) fun _ =>
        within_markKenvBaseBuilt _ _ _

/-- What a run alone has made of a row, by the stage of the row's driver. -/
inductive RowOf (row₀ : Option KEnvBaseImage) : Option KEnvBaseImage → Option Stage → Prop
  | unlisted : RowOf row₀ row₀ none
  | waiting : RowOf row₀ row₀ (some .waiting)
  | held {row t} (was : row₀ = some row) (pending : row.status = .pending)
      (holds : t = .claimed ∨ t = .building) :
      RowOf row₀ (some { row with status := .building }) (some t)
  | finished {row row'} (was : row₀ = some row) (pending : row.status = .pending)
      (final : Terminal row') : RowOf row₀ (some row') (some .over)
  | lost {row} (was : row₀ = some row) (taken : row.status ≠ .pending) :
      RowOf row₀ row₀ (some .over)

/-- What holds while a run goes on alone from `s₀`. -/
structure AloneInv (s₀ : State) (args : Args) (s : State) (calls : ℕ → Option (Call Args ℕ))
    (g : ℕ × ℕ → Option Phase) : Prop where
  own : ∀ w ∈ s.db.writer, w.1 = args.connection
  args : ∀ k call, calls k = some call → k = 0 ∧ call.args = args
  item : ∀ k i t, g (k,i) = some t → k = 0 ∧ t.kEnvImageId = i ∧ Present s₀.db.current i
  rows : ∀ i, RowOf (s₀.db.current.get? i) (s.db.current.get? i) ((g (0,i)).map Phase.stage)

section Steps
variable {s₀ s : State} {args : Args} {calls : ℕ → Option (Call Args ℕ)}
  {g : ℕ × ℕ → Option Phase} {i : ℕ} {t t' : Phase}

/-- The one connection sees what it wrote. -/
lemma AloneInv.view (h : AloneInv s₀ args s calls g) :
    s.db.view args.connection = s.db.current := by
  cases hw : s.db.writer with
  | none => simp [Shared.view,Shared.current,hw]
  | some w =>
    have hc : w.1 = args.connection := h.own w hw
    simp [Shared.view,Shared.current,hw,hc]

/-- A driver goes on, and only its own row may change. -/
lemma AloneInv.moved (h : AloneInv s₀ args s calls g) (hg : g (0,i) = some t) {s' : State}
    (hown : ∀ w ∈ s'.db.writer, w.1 = args.connection) (hid : t'.kEnvImageId = t.kEnvImageId)
    (hothers : ∀ j ≠ i, s'.db.current.get? j = s.db.current.get? j)
    (hrow : RowOf (s₀.db.current.get? i) (s'.db.current.get? i) (some t'.stage)) :
    AloneInv s₀ args s' calls (Function.update g (0,i) (some t')) := by
  refine ⟨hown,h.args,?_,?_⟩
  · intro k j t₁ h₁
    rcases phase_update h₁ with ⟨he,rfl⟩ | ⟨-,h₁⟩
    · cases he
      rw [hid]
      exact h.item 0 i t hg
    · exact h.item k j t₁ h₁
  · intro j
    by_cases hj : j = i
    · subst hj
      simpa using hrow
    · rw [hothers j hj,Function.update_of_ne (by simp [hj])]
      exact h.rows j

lemma AloneInv.claim (h : AloneInv s₀ args s calls g) (hg : g (0,i) = some t)
    (hstage : t.stage = .waiting) {db' : Shared KEnvBaseTable} {n : ℕ}
    (hx : s.db.Executes args.connection (KEnvBase.claim i) db' n) :
    AloneInv s₀ args { s with db := db' } calls
      (Function.update g (0,i) (some { t with stage := if 0 < n then .claimed else .over })) := by
  have hown : ∀ w ∈ db'.writer, w.1 = args.connection := by simp [hx.writer]
  have hrow := h.rows i
  obtain ⟨-,-,row,hwas⟩ := h.item 0 i t hg
  generalize hcur : s.db.current.get? i = cur at hrow
  rw [hg,Option.map_some,hstage] at hrow
  cases hrow with
  | waiting =>
    rw [hwas] at hcur
    by_cases hs : row.status = .pending
    · have hn : 0 < n := by
        rw [hx.answer,claim_pos]
        exact ⟨row,hcur,hs⟩
      have hdb : ∀ j, db'.current.get? j =
          if j = i then some { row with status := .building } else s.db.current.get? j := by
        intro j
        rw [hx.current]
        exact get?_claim_won hcur hs
      rw [if_pos hn]
      refine h.moved hg hown rfl (fun j hj => (hdb j).trans (if_neg hj)) ?_
      rw [(hdb i).trans (if_pos rfl)]
      exact .held hwas hs (.inl rfl)
    · have hn : ¬0 < n := by
        rw [hx.answer,claim_pos]
        rintro ⟨row',hr',hs'⟩
        rw [hcur] at hr'
        cases hr'
        exact hs hs'
      have hdb : ∀ j, db'.current.get? j = s.db.current.get? j := by
        intro j
        rw [hx.current]
        exact get?_claim_lost (hx.answer ▸ hn)
      rw [if_neg hn]
      refine h.moved hg hown rfl (fun j _ => hdb j) ?_
      rw [hdb i,hcur,← hwas]
      exact .lost hwas hs
  | held was pending holds => simp at holds

lemma AloneInv.setState (h : AloneInv s₀ args s calls g) (hg : g (0,i) = some t)
    (hstage : t.stage = .building) {new : NewState} (hnew : Final new)
    {db' : Shared KEnvBaseTable} {a : Unit}
    (hx : s.db.Executes args.connection (fun db => (KEnvBase.setState i new db,())) db' a) :
    AloneInv s₀ args { s with db := db' } calls
      (Function.update g (0,i) (some { t with stage := .over })) := by
  have hown : ∀ w ∈ db'.writer, w.1 = args.connection := by simp [hx.writer]
  have hrow := h.rows i
  generalize hcur : s.db.current.get? i = cur at hrow
  rw [hg,Option.map_some,hstage] at hrow
  cases hrow with
  | @held row _ was pending holds =>
    have hdb : ∀ j, db'.current.get? j =
        if j = i then some (new.apply { row with status := .building }) else s.db.current.get? j := by
      intro j
      rw [hx.current]
      exact get?_setState_eq hcur
    refine h.moved hg hown rfl (fun j hj => (hdb j).trans (if_neg hj)) ?_
    rw [(hdb i).trans (if_pos rfl)]
    exact .finished was pending (terminal_apply hnew)

/-- A driver that holds its row asks for something else. -/
lemma AloneInv.asked (h : AloneInv s₀ args s calls g) (hg : g (0,i) = some t) {s' : State}
    (hown : ∀ w ∈ s'.db.writer, w.1 = args.connection) (hdb : s'.db.current = s.db.current)
    (ht : t' = t ∨ t.stage = .claimed ∧ t' = { t with stage := .building }) :
    AloneInv s₀ args s' calls (Function.update g (0,i) (some t')) := by
  have hrow := h.rows i
  rw [hg,Option.map_some] at hrow
  rcases ht with rfl | ⟨hstage,rfl⟩
  · exact h.moved hg hown rfl (fun j _ => by rw [hdb]) (by rw [hdb]; exact hrow)
  · refine h.moved hg hown rfl (fun j _ => by rw [hdb]) ?_
    rw [hdb]
    generalize s.db.current.get? i = cur at hrow
    rw [hstage] at hrow
    cases hrow with
    | held was pending holds => exact .held was pending (.inr rfl)

/-- A call with the same arguments begins or selects its rows. -/
lemma AloneInv.args_update (h : AloneInv s₀ args s calls g) {items : Option (List ℕ)} (k : ℕ)
    (call : Call Args ℕ) (hcall : Function.update calls 0 (some ⟨args,items⟩) k = some call) :
    k = 0 ∧ call.args = args := by
  by_cases hk : k = 0
  · subst hk
    simp only [Function.update_self,Option.some.injEq] at hcall
    exact ⟨rfl,hcall ▸ rfl⟩
  · rw [Function.update_of_ne hk] at hcall
    exact h.args k call hcall

/-- The drivers of a call begin at the rows that are pending. -/
lemma AloneInv.spawn (h : AloneInv s₀ args s calls g) (hnone : ∀ i, g (0,i) = none) :
    AloneInv s₀ args s
      (Function.update calls 0 (some ⟨args,some (getPendingKenvBaseBuilds s.db.current)⟩))
      (Pipeline.spawned firstPhase g 0 args (getPendingKenvBaseBuilds s.db.current)) := by
  have hrows : ∀ i, s₀.db.current.get? i = s.db.current.get? i := by
    intro i
    have hrow := h.rows i
    rw [hnone i] at hrow
    generalize s.db.current.get? i = cur at hrow
    cases hrow
    rfl
  refine ⟨h.own,h.args_update,?_,?_⟩
  · intro k i t ht
    rcases Pipeline.spawned_cases hnone ht with ⟨hk,hmem,rfl⟩ | ⟨-,hg⟩
    · obtain ⟨row,hr,-⟩ := mem_pending.mp hmem
      exact ⟨hk,rfl,row,(hrows i).trans hr⟩
    · exact h.item k i t hg
  · intro i
    rw [hrows i]
    unfold Pipeline.spawned
    split
    · exact .waiting
    · rw [hnone i]
      exact .unlisted

end Steps

theorem upholds_alone (s₀ : State) (args : Args) :
    populateKenvBaseBuilds.Upholds protocol Finished firstPhase
      (fun _ e => Pipeline.OfCall 0 args e) (AloneInv s₀ args) where
  body args i := driveOne_follows args.shouldPush
  starts := by
    rintro p g k args' _ hi ⟨rfl,rfl⟩ _ _
    exact ⟨hi.own,hi.args_update,hi.item,hi.rows⟩
  selects := by
    intro p g k args' _ hi hc hcall hnone
    obtain ⟨rfl,rfl⟩ : k = 0 ∧ args' = args := hi.args k _ hcall
    have hselect : populateKenvBaseBuilds.select args' p.shared =
        getPendingKenvBaseBuilds p.shared.db.current := by
      rw [← hi.view]
      rfl
    rw [hselect]
    exact hi.spawn hnone
  resumes := by
    intro p g k i input call r c s x t ht hi _ hcall _ hg hallowed hexec
    obtain ⟨hk,hid,row,hrow⟩ := hi.item k i t hg
    subst hk
    obtain ⟨-,rfl⟩ := hi.args 0 call hcall
    cases answers_of_exec hexec with
    | claim hx =>
      obtain ⟨hstage,rfl⟩ := hallowed
      rw [hid] at hx
      exact ⟨_,rfl,hi.claim hg hstage hx⟩
    | setState hx =>
      obtain ⟨hstage,rfl,hnew⟩ := hallowed
      rw [hid] at hx
      exact ⟨_,rfl,hi.setState hg hstage hnew hx⟩
    | commit =>
      refine ⟨t,rfl,hi.asked hg ?_ (Shared.current_commit _ _) (.inl rfl)⟩
      exact fun w hw => hi.own w (Shared.writer_commit hw).1
    | @getById j =>
      obtain ⟨hstage,rfl⟩ := hallowed
      have hheld := hi.rows i
      rw [hg,Option.map_some,hstage] at hheld
      have hpresent : ∃ r, p.shared.db.current.get? i = some r := by
        generalize p.shared.db.current.get? i = cur at hheld
        cases hheld with
        | held was pending holds => exact ⟨_,rfl⟩
      obtain ⟨r,hr⟩ := hpresent
      refine ⟨t,⟨⟨r,?_,(key_of_get? hr).trans hid.symm⟩,rfl⟩,hi.asked hg hi.own rfl (.inl rfl)⟩
      rw [hi.view,hid,hr]
    | now => exact ⟨t,rfl,hi.asked hg hi.own rfl (.inl rfl)⟩
    | @invoke asked =>
      cases asked with
      | build image => exact ⟨_,rfl,hi.asked hg hi.own rfl (.inr ⟨hallowed.1,rfl⟩)⟩
      | push image =>
        have hstage : t.stage = .building := hallowed
        exact ⟨_,rfl,hi.asked hg hi.own rfl (.inl (by rw [← hstage]))⟩
      | removeLocal names =>
        have hstage : t.stage = .building := hallowed
        exact ⟨_,rfl,hi.asked hg hi.own rfl (.inl (by rw [← hstage]))⟩
    | wait => exact ⟨t,rfl,hi.asked hg hi.own rfl (.inl rfl)⟩
  cancels := by
    intro p g k i args items t ht _ _ _ _ hfailed
    rw [ht.anyFailed_eq_false finished_ne_error] at hfailed
    cases hfailed
  others p g e s _ _ hc := hc.elim

section Ends
variable {s : State} {args : Args} {p : Runs}
  {tr : List (Runs × Pool.Event Args ℕ Input Other)}

lemma aloneInv_start (own : ∀ w ∈ s.db.writer, w.1 = args.connection) :
    AloneInv s args s (fun _ => none) (fun _ => none) :=
  ⟨own,by simp,by simp,fun _ => .unlisted⟩

lemma aloneInv_of_run (own : ∀ w ∈ s.db.writer, w.1 = args.connection) (h : Alone s args tr p) :
    ∃ g, Pipeline.Typed protocol Finished firstPhase p g ∧
      AloneInv s args p.shared p.calls g := by
  refine (upholds_alone s args).reachable ?_ ⟨tr,h⟩
  rintro _ rfl
  exact aloneInv_start own

/-- While no other connection writes, every request is answered. -/
lemma exec_isSome (own : ∀ w ∈ s.db.writer, w.1 = args.connection) (r : Request) :
    ∃ input s' x, exec args r s input = some (s',x) := by
  cases r with
  | claim i =>
    obtain ⟨db',n,hx⟩ := Shared.execute_isSome own (KEnvBase.claim i)
    exact ⟨.go,_,_,by rw [exec,hx]; rfl⟩
  | setState i new =>
    obtain ⟨db',a,hx⟩ := Shared.execute_isSome own fun t => (KEnvBase.setState i new t,())
    exact ⟨.go,_,_,by rw [exec,hx]; rfl⟩
  | commit => exact ⟨.go,_,_,rfl⟩
  | getById i => exact ⟨.go,_,_,rfl⟩
  | now => exact ⟨.time midJanuary,_,_,rfl⟩
  | invoke call => exact ⟨.go,_,_,rfl⟩
  | wait call => exact ⟨.go,_,_,rfl⟩

/-- At the end of a run alone the pending rows are in a final state, and the building ones as they
were. -/
lemma row_of_over (own : ∀ w ∈ s.db.writer, w.1 = args.connection) (hmax : 0 < args.maxConcurrent)
    (h : Alone s args tr p) (hover : Over args p) {i : ℕ} {row : KEnvBaseImage}
    (hr : s.db.current.get? i = some row) (hopen : ¬Terminal row) :
    ∃ row', p.shared.db.current.get? i = some row' ∧ (row.status = .pending → Terminal row') ∧
      (row.status ≠ .pending → row' = row) := by
  obtain ⟨g,ht,hi⟩ := aloneInv_of_run own h
  have hlimit : populateKenvBaseBuilds.limit args ≠ some 0 :=
    fun he => absurd (Option.some.inj he) hmax.ne'
  obtain ⟨hcall,hended⟩ := Pipeline.ended_of_stuck (fun args i => within_driveOne args.shouldPush i)
    h hover hlimit (fun _ => exec_isSome hi.own)
  have hmem : i ∈ populateKenvBaseBuilds.select args s := by
    refine mem_pending.mpr ⟨row,?_,hopen⟩
    rw [(aloneInv_start own).view]
    exact hr
  have hexists : p.task (0,i) ≠ .absent :=
    (Pipeline.formed_of_reachable ⟨tr,h⟩ 0 i).mpr ⟨args,_,hcall,hmem⟩
  obtain ⟨t,hg⟩ := ht.exists_phase hexists
  obtain ⟨x,hend,-⟩ := ht.ends hg (hended i hmem)
  have hstage : (g (0,i)).map Phase.stage = some .over := by rw [hg,Option.map_some,hend]
  have hrow := hi.rows i
  rw [hstage,hr] at hrow
  generalize p.shared.db.current.get? i = cur at hrow
  cases hrow with
  | held was pending holds => simp at holds
  | finished was pending final =>
    cases was
    exact ⟨_,rfl,fun _ => final,fun hs => absurd pending hs⟩
  | lost was taken =>
    cases was
    exact ⟨_,rfl,fun hs => absurd hs taken,fun _ => rfl⟩

/-- Where the semaphore lets no driver in, a run alone leaves the rows as they are. -/
lemma row_of_limit (own : ∀ w ∈ s.db.writer, w.1 = args.connection)
    (hmax : args.maxConcurrent = 0) (h : Alone s args tr p) (i : ℕ) :
    p.shared.db.current.get? i = s.db.current.get? i := by
  obtain ⟨g,ht,hi⟩ := aloneInv_of_run own h
  have hlimit : populateKenvBaseBuilds.limit args = some 0 := congrArg some hmax
  have hfits := ht 0 i
  have hrow := hi.rows i
  have hstage : g (0,i) = none ∨ (g (0,i)).map Phase.stage = some .waiting := by
    rcases (Pipeline.unstarted_of_limit hlimit h).2 i with htask | htask
    · rw [htask] at hfits
      exact .inl hfits
    · rw [htask] at hfits
      obtain ⟨hg,hne⟩ := hfits
      rw [hg]
      cases hcall : p.calls 0 with
      | none => simp [hcall] at hne
      | some call => exact .inr rfl
  generalize p.shared.db.current.get? i = cur at hrow ⊢
  rcases hstage with hg | hg <;> rw [hg] at hrow <;> cases hrow
  · rfl
  · rfl
  · rename_i holds
    simp at holds

theorem recovers_iff (own : ∀ w ∈ s.db.writer, w.1 = args.connection) :
    Recovers s args ↔ Recoverable s.db.current args := by
  have hbody : ∀ args i, (populateKenvBaseBuilds.body args i).Within 14 :=
    fun args i => within_driveOne args.shouldPush i
  constructor
  · intro hrecovers i row hr
    obtain ⟨tr,p,hrun,hover⟩ := Pipeline.exists_stuck hbody s 0 args
    constructor
    · intro hs
      have hopen : ¬Terminal row := fun hterminal => (terminal_iff.mp hterminal).2 hs
      obtain ⟨row',hr',hterminal⟩ := hrecovers.final tr p hrun hover i row hr hopen
      have heq : row' = row := by
        rcases Nat.eq_zero_or_pos args.maxConcurrent with hmax | hmax
        · rw [row_of_limit own hmax hrun i,hr] at hr'
          exact (Option.some.inj hr').symm
        · obtain ⟨row'',hr'',-,hsame⟩ := row_of_over own hmax hrun hover hr hopen
          rw [hr''] at hr'
          cases hr'
          exact hsame (by simp [hs])
      exact hopen (heq ▸ hterminal)
    · intro hs
      by_contra hmax
      have hopen : ¬Terminal row := fun hterminal => (terminal_iff.mp hterminal).1 hs
      obtain ⟨row',hr',hterminal⟩ := hrecovers.final tr p hrun hover i row hr hopen
      rw [row_of_limit own (Nat.eq_zero_of_not_pos hmax) hrun i,hr] at hr'
      cases hr'
      exact hopen hterminal
  · intro hrecoverable
    refine ⟨⟨_,fun tr p hrun => Pipeline.length_le hbody hrun⟩,?_⟩
    intro tr p hrun hover i row hr hopen
    obtain ⟨hbuilding,hmax⟩ := hrecoverable i row hr
    have hs : row.status = .pending := by
      by_contra hs
      exact hopen (terminal_iff.mpr ⟨hs,hbuilding⟩)
    obtain ⟨row',hr',hterminal,-⟩ := row_of_over own (hmax hs) hrun hover hr hopen
    exact ⟨row',hr',hterminal hs⟩

end Ends

/-- A run after an interruption recovers what the interrupted run left if and only if that left no
row building. -/
theorem populateKenvBaseBuilds_recovers_iff {p : Runs} {s : State} {args : Args}
    (_ : anyTable.Reachable p) (h : Interrupted p.shared args.connection s) :
    Recovers s args ↔ Recoverable s.db.current args := by
  cases h with
  | killed => exact recovers_iff (by simp)
  | cancelled own => exact recovers_iff own

/-- A run up to its claim, which it has not committed. -/
def upToClaim : List (Pool.Event Args ℕ Input Other) :=
  [.other (.insert 0 submission),.other (.commit 0),.start 0 localRun,.select 0,.enter 0 1,
    .resume 0 1 .go]

/-- Killed before the commit of its claim, the run left its row pending. -/
theorem upToClaim_recovers : ∃ p s, anyTable.Reachable p ∧
    Interrupted p.shared localRun.connection s ∧
    (∃ row ∈ s.db.current.rows, row.status = .pending) ∧ Recovers s localRun := by
  obtain ⟨p,hp,htest⟩ := Machine.exists_of_replay anyTable (fun _ _ => True) upToClaim
    (fun p => (∀ row ∈ p.shared.db.committed.rows, row.status = .pending) ∧
      ∃ row ∈ p.shared.db.committed.rows, row.status = .pending)
    (s := .idle ⟨.opened .empty,[]⟩) ⟨_,⟨_,rfl⟩,rfl⟩ (by decide +kernel)
  obtain ⟨hpending,hsome⟩ := of_decide_eq_true htest
  refine ⟨p,_,hp,.killed,hsome,(populateKenvBaseBuilds_recovers_iff hp .killed).mpr ?_⟩
  intro i row hr
  have hs : row.status = .pending := hpending row (Table.get?_eq_some.mp hr).1
  exact ⟨by simp [hs],fun _ => by decide⟩

/-- Killed after the commit, it left a row that no later run brings to an end. -/
theorem upToCommit_not_recovers : ∃ p s, anyTable.Reachable p ∧
    Interrupted p.shared localRun.connection s ∧ ¬Recovers s localRun := by
  obtain ⟨p,hp,htest⟩ := Machine.exists_of_replay anyTable (fun _ _ => True)
    (upToClaim ++ [.resume 0 1 .go])
    (fun p => (p.shared.db.committed.get? 1).map KEnvBaseImage.status = some .building)
    (s := .idle ⟨.opened .empty,[]⟩) ⟨_,⟨_,rfl⟩,rfl⟩ (by decide +kernel)
  obtain ⟨row,hr,hs⟩ := Option.map_eq_some_iff.mp (of_decide_eq_true htest)
  refine ⟨p,_,hp,.killed,fun hrecovers => ?_⟩
  have hrecoverable := (recovers_iff (by simp)).mp hrecovers
  exact (hrecoverable 1 row hr).1 hs

end Kenv
end LiveKBench.KArenaPipeline
