import LiveKBench.KArenaPipeline.KenvBaseStates

/-! Any number of runs of `populate_kenv_base_builds` in any interleaving: what a row's status may
become from step to step, and that the runs leave none behind that they found pending. -/
namespace LiveKBench.KArenaPipeline
open KArenaWeb (DateTime midJanuary)
open KArenaDb KArenaDb.KEnvBase
open Lib

namespace Kenv

/-- What the answers can be: a request is one of these steps on the database and the builder. -/
inductive Answers (args : Args) (s : State) :
    (r : Request) → State → Except BuildError r.Answer → Prop
  | claim {i db' n} (hx : s.db.Executes args.connection (KEnvBase.claim i) db' n) :
      Answers args s (.claim i) { s with db := db' } (.ok n)
  | setState {i new db' a}
      (hx : s.db.Executes args.connection (fun db => (KEnvBase.setState i new db,())) db' a) :
      Answers args s (.setState i new) { s with db := db' } (.ok a)
  | commit : Answers args s .commit { s with db := s.db.commit args.connection } (.ok ())
  | getById {i} : Answers args s (.getById i) s (.ok ((s.db.view args.connection).get? i))
  | now {now} : Answers args s .now s (.ok now)
  | invoke {call} : Answers args s (.invoke call) { s with asked := call :: s.asked } (.ok ())
  | wait {call x} : Answers args s (.wait call) s x

lemma answers_of_exec {args : Args} {r : Request} {s s' : State} {input : Input}
    {x : Except BuildError r.Answer} (h : exec args r s input = some (s',x)) :
    Answers args s r s' x := by
  cases r with
  | claim i =>
    cases input with
    | go =>
      obtain ⟨⟨db',n⟩,he,hpair⟩ := Option.map_eq_some_iff.mp h
      cases hpair
      exact .claim (Shared.executes_of_execute he)
    | time now => cases h
    | raises e => cases h
  | setState i new =>
    cases input with
    | go =>
      obtain ⟨⟨db',a⟩,he,hpair⟩ := Option.map_eq_some_iff.mp h
      cases hpair
      exact .setState (Shared.executes_of_execute he)
    | time now => cases h
    | raises e => cases h
  | commit => cases input <;> cases h; exact .commit
  | getById i => cases input <;> cases h; exact .getById
  | now => cases input <;> cases h; exact .now
  | invoke call => cases input <;> cases h; exact .invoke
  | wait call => cases input <;> cases h <;> exact .wait

lemma finished_ne_error (t : Phase) (e : BuildError) : ¬Finished t (.error e) := by
  simp [Finished]

theorem upholds : populateKenvBaseBuilds.Upholds protocol Finished firstPhase (fun _ _ => True)
    Inv where
  body args i := driveOne_follows args.shouldPush
  starts p g k args _ hi _ _ hnone := hi.start hnone
  selects p g k args _ hi _ _ hnone := hi.spawn hnone
  resumes := by
    intro p g k i input call r c s x t ht hi _ hcall _ hg hallowed hexec
    have hid : t.kEnvImageId = i := hi.item k i t hg
    have hsame : ∀ s', Inv s' p.calls g → Inv s' p.calls (Function.update g (k,i) (some t)) := by
      intro s' hi'
      rw [← hg,Function.update_eq_self]
      exact hi'
    cases answers_of_exec hexec with
    | claim hx =>
      obtain ⟨hstage,rfl⟩ := hallowed
      rw [hid] at hx
      exact ⟨_,rfl,hi.claim hg hstage hcall hx⟩
    | setState hx =>
      obtain ⟨hstage,rfl,hnew⟩ := hallowed
      rw [hid] at hx
      exact ⟨_,rfl,hi.setState hg hstage hnew hx⟩
    | commit => exact ⟨t,rfl,hsame _ hi.commit⟩
    | @getById j =>
      obtain ⟨-,rfl⟩ := hallowed
      obtain ⟨row,hr⟩ := hi.seen k i t call hg hcall
      exact ⟨t,⟨⟨row,hid ▸ hr,(key_of_get? hr).trans hid.symm⟩,rfl⟩,hsame _ hi⟩
    | now => exact ⟨t,rfl,hsame _ hi⟩
    | @invoke asked =>
      cases asked with
      | build image =>
        obtain ⟨hstage,himage⟩ := hallowed
        exact ⟨_,rfl,hi.invokeBuild hg hstage (himage.trans hid)⟩
      | push image =>
        have hstage : t.stage = .building := hallowed
        have hsame' : ({ t with stage := .building } : Phase) = t := by rw [← hstage]
        exact ⟨t,hsame'.symm,hsame _ (hi.invoke fun _ => rfl)⟩
      | removeLocal names =>
        have hstage : t.stage = .building := hallowed
        have hsame' : ({ t with stage := .building } : Phase) = t := by rw [← hstage]
        exact ⟨t,hsame'.symm,hsame _ (hi.invoke fun _ => rfl)⟩
    | wait => exact ⟨t,rfl,hsame _ hi⟩
  cancels := by
    intro p g k i args items t ht _ _ _ _ hfailed
    rw [ht.anyFailed_eq_false finished_ne_error] at hfailed
    cases hfailed
  others := by
    intro p g e s _ hi _ he
    cases e with
    | insert c sub =>
      obtain ⟨⟨db',a⟩,hx,rfl⟩ := Option.map_eq_some_iff.mp he
      exact hi.insert (Shared.executes_of_execute hx)
    | commit c =>
      cases he
      exact hi.commit

lemma inv_empty (c : ℕ → Option (Call Args ℕ)) : Inv ⟨.opened .empty,[]⟩ c (fun _ => none) := by
  constructor
  · simp
  · simp
  · simp
  · constructor <;> simp
  · constructor <;> simp [State.builds]
  · simp
  · simp

theorem inv_of_reachable {C : Runs → Pool.Event Args ℕ Input Other → Prop} {p : Runs}
    (h : machine.ReachableBy C p) : ∃ g, Pipeline.Typed protocol Finished firstPhase p g ∧
      Inv p.shared p.calls g := by
  refine upholds.reachable ?_ (h.mono fun _ _ _ => trivial)
  rintro s rfl
  exact inv_empty _

section Steps
variable {p p' : Runs} {g : ℕ × ℕ → Option Phase} {e : Pool.Event Args ℕ Input Other}

/-- A step keeps the order of the statuses, and no connection loses a row from its sight. -/
lemma follow_step (ht : Pipeline.Typed protocol Finished firstPhase p g)
    (hi : Inv p.shared p.calls g) (hm : populateKenvBaseBuilds.Moves p e p') :
    Follow p.shared.db.current p'.shared.db.current ∧
      ∀ c j, Present (p.shared.db.view c) j → Present (p'.shared.db.view c) j := by
  cases hm with
  | start fresh => exact ⟨follow_rfl,fun _ _ hv => hv⟩
  | select call => exact ⟨follow_rfl,fun _ _ hv => hv⟩
  | enter call queued permit => exact ⟨follow_rfl,fun _ _ hv => hv⟩
  | cancel call cancels failed live => exact ⟨follow_rfl,fun _ _ hv => hv⟩
  | @resume k i input call r c s x called active exec =>
    obtain ⟨t,hg,hallowed⟩ := ht.allowed active
    cases answers_of_exec exec with
    | @claim j db' n hx =>
      exact ⟨hx.current ▸ follow_claim,fun c' j => view_executes hx follow_claim⟩
    | @setState j new db' a hx =>
      obtain ⟨hstage,rfl,hnew⟩ := hallowed
      obtain ⟨row,hr,hs⟩ := hi.held.row k i t hg (.inr hstage)
      have hfollow := follow_setState (hi.item k i t hg ▸ hr) hs hnew
      exact ⟨hx.current ▸ hfollow,fun c' j => view_executes hx hfollow⟩
    | commit =>
      refine ⟨?_,fun c' j => hi.view_commit⟩
      change Follow _ (p.shared.db.commit _).current
      rw [Shared.current_commit]
      exact follow_rfl
    | getById => exact ⟨follow_rfl,fun _ _ hv => hv⟩
    | now => exact ⟨follow_rfl,fun _ _ hv => hv⟩
    | invoke => exact ⟨follow_rfl,fun _ _ hv => hv⟩
    | wait => exact ⟨follow_rfl,fun _ _ hv => hv⟩
  | @other e s happens =>
    cases e with
    | insert c sub =>
      obtain ⟨⟨db',a⟩,he,rfl⟩ := Option.map_eq_some_iff.mp happens
      have hx := Shared.executes_of_execute he
      exact ⟨hx.current ▸ follow_submitted,fun c' j => view_executes hx follow_submitted⟩
    | commit c =>
      cases happens
      refine ⟨?_,fun c' j => hi.view_commit⟩
      change Follow _ (p.shared.db.commit _).current
      rw [Shared.current_commit]
      exact follow_rfl

/-- A row that a run saw pending at its start: the run has it on its list, or has not made the list
yet, or the row needs no work any more. -/
def Remembered (p : Runs) (k : ℕ) (args : Args) (i : ℕ) : Prop :=
  ∃ items, p.calls k = some ⟨args,items⟩ ∧ Present (p.shared.db.view args.connection) i ∧
    ∀ ids ∈ items, i ∈ ids ∨ ∃ row, p.shared.db.current.get? i = some row ∧ Terminal row

/-- What a call of `p` has become in `p'`. -/
lemma calls_step (hm : populateKenvBaseBuilds.Moves p e p') {k : ℕ} {call : Call Args ℕ}
    (hcall : p.calls k = some call) :
    p'.calls k = some call ∨ call.items = none ∧ p'.shared = p.shared ∧ p'.calls k = some ⟨call.args,
      some (getPendingKenvBaseBuilds (p.shared.db.view call.args.connection))⟩ := by
  cases hm with
  | @start k' args fresh =>
    have hk : k ≠ k' := by
      rintro rfl
      rw [fresh] at hcall
      cases hcall
    exact .inl (by simpa [Function.update_of_ne hk] using hcall)
  | @select k' args called =>
    by_cases hk : k = k'
    · subst hk
      rw [called] at hcall
      cases hcall
      exact .inr ⟨rfl,rfl,Function.update_self _ _ _⟩
    · exact .inl (by simpa [Pool.spawn,Function.update_of_ne hk] using hcall)
  | enter => exact .inl hcall
  | resume => exact .inl hcall
  | cancel => exact .inl hcall
  | other => exact .inl hcall

lemma Remembered.step {k i : ℕ} {args : Args} (h : Remembered p k args i)
    (ht : Pipeline.Typed protocol Finished firstPhase p g) (hi : Inv p.shared p.calls g)
    (hm : populateKenvBaseBuilds.Moves p e p') : Remembered p' k args i := by
  obtain ⟨items,hcall,hview,hlist⟩ := h
  obtain ⟨hfollow,hviews⟩ := follow_step ht hi hm
  rcases calls_step hm hcall with hcall' | ⟨hnone,hshared,hcall'⟩
  · refine ⟨items,hcall',hviews _ _ hview,fun ids hids => ?_⟩
    rcases hlist ids hids with hmem | ⟨row,hr,hterminal⟩
    · exact .inl hmem
    · obtain ⟨row',hr',hstep⟩ := hfollow i row hr
      have heq : row' = row := eq_of_later (.single hstep) hterminal
      exact .inr ⟨row',hr',heq ▸ hterminal⟩
  · refine ⟨_,hcall',hviews _ _ hview,?_⟩
    rintro ids hids
    cases hids
    obtain ⟨row,hr⟩ := hview
    by_cases hterminal : Terminal row
    · right
      rw [hshared]
      rcases p.shared.db.view_eq args.connection with he | he
      · exact ⟨row,he ▸ hr,hterminal⟩
      · obtain ⟨row',hr',hlater⟩ := hi.known i row (he ▸ hr)
        exact ⟨row',hr',eq_of_later hlater hterminal ▸ hterminal⟩
    · exact .inl (mem_pending.mpr ⟨row,hr,hterminal⟩)

/-- What a run saw pending when it began is remembered in all that follows. -/
lemma remembered_of_run {C : Runs → Pool.Event Args ℕ Input Other → Prop}
    {tr : List (Runs × Pool.Event Args ℕ Input Other)} (h : machine.Run C tr p) :
    ∀ q k args, (q,.start k args) ∈ tr → ∀ i, Present (q.shared.db.view args.connection) i →
      Remembered p k args i := by
  induction h with
  | start => simp
  | @next tr p e p' hrun hc htaken ih =>
    have hm := populateKenvBaseBuilds.moves_of_step htaken
    obtain ⟨g,ht,hi⟩ := inv_of_reachable ⟨tr,hrun⟩
    intro q k args hmem i hview
    rcases List.mem_cons.mp hmem with he | hmem
    · cases he
      cases hm with
      | start fresh => exact ⟨none,Function.update_self _ _ _,hview,by simp⟩
    · exact (ih q k args hmem i hview).step ht hi hm

/-- When all runs ended, no driver is under way. -/
lemma over_of_ended (ht : Pipeline.Typed protocol Finished firstPhase p g)
    (hended : Pipeline.AllEnded p) (hformed : Pipeline.Formed p) {k i : ℕ} {t : Phase}
    (hg : g (k,i) = some t) : t.stage = .over := by
  have hdead : (p.task (k,i)).isLive = false := by
    by_cases habsent : p.task (k,i) = .absent
    · rw [habsent]
      rfl
    · obtain ⟨args,items,hcall,hi⟩ := (hformed k i).mp habsent
      obtain ⟨items',hitems,hall⟩ := hended k _ hcall
      cases hitems
      exact hall i hi
  obtain ⟨x,hover,-⟩ := ht.ends hg hdead
  exact hover

/-- When all runs ended, the rows that some run saw at its start need no more work. -/
lemma terminal_of_ended (ht : Pipeline.Typed protocol Finished firstPhase p g)
    (hi : Inv p.shared p.calls g) (hended : Pipeline.AllEnded p) (hformed : Pipeline.Formed p)
    {k i : ℕ} {args : Args} (h : Remembered p k args i) :
    ∃ row, p.shared.db.current.get? i = some row ∧ Terminal row := by
  obtain ⟨items,hcall,hview,hlist⟩ := h
  obtain ⟨ids,hids,hall⟩ := hended k _ hcall
  rcases hlist ids hids with hmem | hterminal
  · have hexists : p.task (k,i) ≠ .absent := (hformed k i).mpr ⟨args,ids,hids ▸ hcall,hmem⟩
    obtain ⟨row,hr⟩ := hi.present hview
    have hbuilding : row.status ≠ .building := by
      intro hb
      obtain ⟨k',t,hg,hh⟩ := hi.held.holder i row hr hb
      have hover := over_of_ended ht hended hformed hg
      simp [Phase.Holds,hover] at hh
    obtain ⟨t,hg⟩ := ht.exists_phase hexists
    obtain ⟨row',hr',hpending⟩ := hi.held.passed k i t hg (over_of_ended ht hended hformed hg)
    rw [hr] at hr'
    cases hr'
    exact ⟨row,hr,terminal_iff.mpr ⟨hpending,hbuilding⟩⟩
  · exact hterminal

end Steps

/-- What the runs do to the images, after the history `tr` and in all that may happen next. -/
structure Lives (tr : List (Runs × Pool.Event Args ℕ Input Other)) (p : Runs) : Prop where
  /-- A status goes from `pending` to `building` to a final one, and stays there. -/
  advances : ∀ e p', machine.step p e = some p' →
    Follow p.shared.db.current p'.shared.db.current
  once : ∀ i, p.shared.builds i ≤ 1
  dated : ∀ i row, p.shared.db.current.get? i = some row → Dated row
  datedCommitted : ∀ i row, p.shared.db.committed.get? i = some row → Dated row
  /-- When all runs ended, what one of them found pending at its start is in a final state. -/
  final : Pipeline.AllEnded p → ∀ q k args, (q,.start k args) ∈ tr → ∀ i row,
    (q.shared.db.view args.connection).get? i = some row → row.status = .pending →
    ∃ row', p.shared.db.current.get? i = some row' ∧ Terminal row'

theorem populateKenvBaseBuilds_lives {tr : List (Runs × Pool.Event Args ℕ Input Other)} {p : Runs}
    (h : machine.Run (fun _ _ => True) tr p) : Lives tr p := by
  have hreach : machine.Reachable p := ⟨tr,h⟩
  obtain ⟨g,ht,hi⟩ := inv_of_reachable hreach
  constructor
  · intro e p' hstep
    exact (follow_step ht hi (populateKenvBaseBuilds.moves_of_step hstep)).1
  · exact hi.builtOnce.once
  · exact hi.dated
  · exact hi.datedCommitted
  · intro hended q k args hmem i row hr _
    exact terminal_of_ended ht hi hended (Pipeline.formed_of_reachable hreach)
      (remembered_of_run h q k args hmem i ⟨row,hr⟩)

def submission : Submission := ⟨"bug",.parentCommit,midJanuary,"commit","git","mirror","docker"⟩

def localRun : Args := ⟨0,some false,"",16⟩

/-- Two runs on one connection, of which one builds the image and the other loses its claim. -/
def twoRuns : List (Pool.Event Args ℕ Input Other) :=
  [.other (.insert 0 submission),.other (.commit 0),.start 0 localRun,.start 1 localRun,.select 0,
    .select 1,.enter 0 1,.enter 1 1,.resume 1 1 .go,.resume 0 1 .go,.resume 1 1 .go,
    .resume 0 1 .go] ++ [.resume 1 1 .go,.resume 1 1 .go,.resume 1 1 .go,.resume 1 1 (.time midJanuary),
    .resume 1 1 .go,.resume 1 1 .go]

/-- Two runs that both found an image pending. -/
theorem twoRuns_live : ∃ tr p, machine.Run (fun _ _ => True) tr p ∧ Pipeline.AllEnded p ∧
    (p.shared.db.committed.get? 1).map KEnvBaseImage.status = some .built ∧ Lives tr p := by
  obtain ⟨tr,p,h,htest⟩ := Machine.exists_run_of_replay machine (fun _ _ => True) twoRuns
    (fun tr p => Pipeline.allEnded tr p &&
      ((p.shared.db.committed.get? 1).map KEnvBaseImage.status = some .built))
    (s := .idle ⟨.opened .empty,[]⟩) ⟨_,rfl,rfl⟩ (by decide +kernel)
  rw [Bool.and_eq_true] at htest
  exact ⟨tr,p,h,Pipeline.allEnded_of_run h htest.1,of_decide_eq_true htest.2,
    populateKenvBaseBuilds_lives h⟩

end Kenv
end LiveKBench.KArenaPipeline
