import LiveKBench.Lib.TaskPool
import Mathlib.Algebra.GroupWithZero.Nat
import Mathlib.Algebra.Order.BigOperators.Group.List
import Mathlib.Algebra.Order.Group.Nat

/-! One call of a pipeline that runs alone. Its length is bounded where its coroutines are, and
where no step is left the call has fetched its items and all its tasks came to an end. -/
namespace LiveKBench.Lib
namespace Pipeline
variable {σ κ ι Req : Type} {Ans : Req → Type} {ε Input η : Type} [DecidableEq ι]

/-- The events of one call. -/
def OfCall (k : ℕ) (args : κ) : Pool.Event κ ι Input η → Prop
  | .start k' args' => k' = k ∧ args' = args
  | .select k' => k' = k
  | .enter k' _ => k' = k
  | .resume k' _ _ => k' = k
  | .cancel k' _ => k' = k
  | .other _ => False

def decidableOfCall [DecidableEq κ] (k : ℕ) (args : κ) :
    ∀ e : Pool.Event κ ι Input η, Decidable (OfCall k args e)
  | .start k' args' => inferInstanceAs (Decidable (k' = k ∧ args' = args))
  | .select k' => inferInstanceAs (Decidable (k' = k))
  | .enter k' _ => inferInstanceAs (Decidable (k' = k))
  | .resume k' _ _ => inferInstanceAs (Decidable (k' = k))
  | .cancel k' _ => inferInstanceAs (Decidable (k' = k))
  | .other _ => .isFalse id

/-- How many steps a task may still take. -/
def Budget (n : ℕ) : Task Req Ans ε → ℕ → Prop
  | .queued, b => n < b
  | .active c, b => 0 < b ∧ c.Within b
  | _, _ => True

/-- The coroutines that are under way wait for an answer. -/
def Awaiting (p : Pool σ κ ι Req Ans ε) : Prop :=
  ∀ k i c, p.task (k,i) = .active c → ∃ r f, c = .await r f

variable {S : Pipeline σ κ ι Req Ans ε Input η} {p p' : Pool σ κ ι Req Ans ε} {k n : ℕ} {args : κ}
  {s : σ} {tr : List (Pool σ κ ι Req Ans ε × Pool.Event κ ι Input η)}

lemma Awaiting.setTask (h : Awaiting p) {i : ι} {task : Task Req Ans ε}
    (htask : ∀ c, task = .active c → ∃ r f, c = .await r f) : Awaiting (p.setTask k i task) := by
  intro k' i' c hc
  by_cases hki : (k',i') = (k,i)
  · cases hki
    exact htask c (by simpa [Pool.setTask] using hc)
  · exact h k' i' c (by simpa [Pool.setTask,Function.update_of_ne hki] using hc)

lemma await_of_ofCoroutine (c c' : Coroutine Req Ans ε Unit) (h : Task.ofCoroutine c = .active c') :
    ∃ r f, c' = .await r f := by
  cases c with
  | done a => cases h
  | raise e => cases h
  | await r f =>
    cases h
    exact ⟨r,f,rfl⟩

theorem awaiting_of_reachable {init : σ → Prop}
    {C : Pool σ κ ι Req Ans ε → Pool.Event κ ι Input η → Prop}
    (h : (S.machine init).ReachableBy C p) : Awaiting p := by
  refine h.invariant ?_ ?_
  · rintro _ ⟨s,-,rfl⟩ k i c hc
    cases hc
  · intro p e p' _ ha _ hs
    cases S.moves_of_step hs with
    | start fresh => exact ha
    | @select k args call =>
      intro k' i c hc
      by_cases hki : k' = k ∧ i ∈ S.select args p.shared
      · simp [Pool.spawn,hki] at hc
      · exact ha k' i c (by simpa [Pool.spawn,hki] using hc)
    | enter call queued permit => exact ha.setTask (await_of_ofCoroutine _)
    | resume called active exec => exact ha.setTask (await_of_ofCoroutine _)
    | cancel call cancels failed live => exact ha.setTask (by simp)
    | other happens => exact ha

/-- A call since it found the state `s`: the steps it took, and what its tasks may still take. -/
inductive Spent (S : Pipeline σ κ ι Req Ans ε Input η) (s : σ) (k n : ℕ) (args : κ) :
    ℕ → Pool σ κ ι Req Ans ε → Prop
  | idle {p : Pool σ κ ι Req Ans ε} (fresh : p.calls k = none) (shared : p.shared = s) :
      Spent S s k n args 0 p
  | started {p : Pool σ κ ι Req Ans ε} (call : p.calls k = some ⟨args,none⟩)
      (shared : p.shared = s) : Spent S s k n args 1 p
  | spawned {p : Pool σ κ ι Req Ans ε} {length : ℕ} (b : ι → ℕ)
      (call : p.calls k = some ⟨args,some (S.select args s)⟩)
      (budget : ∀ i, Budget n (p.task (k,i)) (b i))
      (bound : length+((S.select args s).map b).sum ≤ 2+(S.select args s).length*(n+1)) :
      Spent S s k n args length p

lemma budget_setTask {i : ι} {b : ι → ℕ} {m : ℕ} {task : Task Req Ans ε}
    (hb : ∀ i, Budget n (p.task (k,i)) (b i)) (hm : Budget n task m) :
    ∀ j, Budget n ((p.setTask k i task).task (k,j)) (Function.update b i m j) := by
  intro j
  by_cases hj : j = i
  · subst hj
    simpa [Pool.setTask] using hm
  · simpa [Pool.setTask,hj,Function.update_of_ne hj] using hb j

lemma sum_update_lt {i : ι} {b : ι → ℕ} {m : ℕ} {items : List ι} (hi : i ∈ items) (hm : m < b i) :
    (items.map (Function.update b i m)).sum < (items.map b).sum := by
  refine List.sum_lt_sum _ _ ?_ ⟨i,hi,by simpa using hm⟩
  intro j _
  by_cases hj : j = i
  · subst hj
    simpa using hm.le
  · rw [Function.update_of_ne hj]

/-- A step of a task takes from its budget. -/
lemma Spent.setTask {length : ℕ} (h : Spent S s k n args length p) {i : ι} {items : List ι}
    {args' : κ} (hcall : p.calls k = some ⟨args',some items⟩) (hi : i ∈ items)
    {task : Task Req Ans ε} {s' : σ}
    (htask : ∀ b, Budget n (p.task (k,i)) b → ∃ m < b, Budget n task m) :
    Spent S s k n args (length+1) { p.setTask k i task with shared := s' } := by
  cases h with
  | idle fresh shared =>
    rw [fresh] at hcall
    cases hcall
  | started call shared =>
    rw [call] at hcall
    cases hcall
  | spawned b call budget bound =>
    rw [call] at hcall
    cases hcall
    obtain ⟨m,hm,htask⟩ := htask (b i) (budget i)
    have hlt := sum_update_lt hi hm
    exact .spawned _ call (budget_setTask budget htask) (by omega)

lemma budget_ofCoroutine {c : Coroutine Req Ans ε Unit} {b : ℕ} (h : c.Within b) :
    Budget n (.ofCoroutine c) b := by
  cases c with
  | done a => trivial
  | raise e => trivial
  | await r f =>
    cases b with
    | zero => exact h.elim
    | succ b => exact ⟨b.succ_pos,h⟩

lemma spent_of_run (hbody : ∀ args i, (S.body args i).Within n)
    (h : (S.machine (· = s)).Run (fun _ e => OfCall k args e) tr p) :
    Spent S s k n args tr.length p := by
  induction h with
  | start hi =>
    obtain ⟨_,rfl,rfl⟩ := hi
    exact .idle rfl rfl
  | @next tr p e p' hrun hc htaken ih =>
    have hformed : Formed p := formed_of_reachable ⟨tr,hrun⟩
    cases S.moves_of_step htaken with
    | @start k' args' fresh =>
      obtain ⟨rfl,rfl⟩ := hc
      generalize hlength : tr.length = length at ih
      cases ih with
      | idle fresh shared => simpa [hlength] using .started (Function.update_self _ _ _) shared
      | started call shared => simp [fresh] at call
      | spawned b call budget bound => simp [fresh] at call
    | @select k' args' called =>
      obtain rfl : k' = k := hc
      generalize hlength : tr.length = length at ih
      cases ih with
      | idle fresh shared => simp [called] at fresh
      | started call shared =>
        rw [called] at call
        cases call
        subst shared
        refine .spawned (fun _ => n+1) (by simp [Pool.spawn]) ?_ (by simp [hlength])
        intro i
        by_cases hi : i ∈ S.select args p.shared
        · simp [Pool.spawn,hi,Budget]
        · have habsent := hformed.absent (k := k') (by simp [called]) i
          simp [Pool.spawn,hi,habsent,Budget]
      | spawned b call budget bound => simp [called] at call
    | @enter k' i args' items call queued permit =>
      obtain rfl : k' = k := hc
      have hi : i ∈ items := by
        obtain ⟨_,items',hcall,hi⟩ := (hformed k' i).mp (by simp [queued])
        rw [call] at hcall
        cases hcall
        exact hi
      refine ih.setTask call hi fun b hb => ?_
      rw [queued] at hb
      exact ⟨n,hb,budget_ofCoroutine (hbody args' i)⟩
    | @resume k' i input call r c s' x called active exec =>
      obtain rfl : k' = k := hc
      obtain ⟨args',items,hcall,hi⟩ := (hformed k' i).mp (by simp [active])
      refine ih.setTask hcall hi fun b hb => ?_
      rw [active] at hb
      obtain ⟨hpos,hwithin⟩ := hb
      cases b with
      | zero => omega
      | succ b => exact ⟨b,b.lt_succ_self,budget_ofCoroutine (hwithin x)⟩
    | @cancel k' i args' items call cancels failed live =>
      obtain rfl : k' = k := hc
      have hexists : p.task (k',i) ≠ .absent := by
        intro habsent
        simp [habsent,Task.isLive] at live
      obtain ⟨_,items',hcall,hi⟩ := (hformed k' i).mp hexists
      refine ih.setTask hcall hi fun b hb => ⟨0,?_,trivial⟩
      cases htask : p.task (k',i) with
      | queued =>
        rw [htask] at hb
        exact Nat.zero_lt_of_lt hb
      | active c =>
        rw [htask] at hb
        exact hb.1
      | absent => exact absurd htask hexists
      | ended x => simp [htask,Task.isLive] at live
      | cancelled => simp [htask,Task.isLive] at live
    | other happens => exact hc.elim

/-- A call alone takes so many steps at most. -/
theorem length_le (hbody : ∀ args i, (S.body args i).Within n)
    (h : (S.machine (· = s)).Run (fun _ e => OfCall k args e) tr p) :
    tr.length ≤ 2+(S.select args s).length*(n+1) := by
  have hspent := spent_of_run hbody h
  generalize hlength : tr.length = length at hspent
  cases hspent with
  | idle fresh shared => omega
  | started call shared => omega
  | spawned b call budget bound => omega

/-- A call alone comes to a state from which no step leads. -/
theorem exists_stuck (hbody : ∀ args i, (S.body args i).Within n) (s : σ) (k : ℕ) (args : κ) :
    ∃ tr p, (S.machine (· = s)).Run (fun _ e => OfCall k args e) tr p ∧
      ∀ e, OfCall k args e → S.step p e = none :=
  Machine.exists_stuck ⟨_,s,rfl,rfl⟩ fun _ _ h => length_le hbody h

/-- Where no step is left and every request would be answered, the call has come to its end. -/
theorem ended_of_stuck (hbody : ∀ args i, (S.body args i).Within n)
    (h : (S.machine (· = s)).Run (fun _ e => OfCall k args e) tr p)
    (hstuck : ∀ e, OfCall k args e → S.step p e = none) (hlimit : S.limit args ≠ some 0)
    (hserves : ∀ i r, ∃ input s' x, S.exec args (k,i) r p.shared input = some (s',x)) :
    p.calls k = some ⟨args,some (S.select args s)⟩ ∧
      ∀ i ∈ S.select args s, (p.task (k,i)).isLive = false := by
  have hspent := spent_of_run hbody h
  generalize tr.length = length at hspent
  cases hspent with
  | idle fresh shared =>
    have hstart := hstuck (.start k args) ⟨rfl,rfl⟩
    simp [step,fresh] at hstart
  | started call shared =>
    have hselect := hstuck (.select k) rfl
    simp [step,call] at hselect
  | spawned b call budget bound =>
    have hactive : ∀ i, (p.task (k,i)).isActive = false := by
      intro i
      cases htask : p.task (k,i) with
      | active c =>
        obtain ⟨r,f,rfl⟩ := awaiting_of_reachable ⟨tr,h⟩ k i c htask
        obtain ⟨input,s',x,hexec⟩ := hserves i r
        have hresume := hstuck (.resume k i input) rfl
        simp [step,call,htask,hexec] at hresume
      | absent => rfl
      | queued => rfl
      | ended x => rfl
      | cancelled => rfl
    have hpermits : S.permits p k args (S.select args s) = true := by
      unfold permits
      split
      · rfl
      · rename_i m hm
        have hbusy : p.busy k (S.select args s) = 0 := by
          simp [Pool.busy,hactive]
        have hpos : m ≠ 0 := by
          rintro rfl
          exact hlimit hm
        simpa [hbusy] using Nat.pos_of_ne_zero hpos
    refine ⟨call,fun i _ => ?_⟩
    cases htask : p.task (k,i) with
    | queued =>
      have henter := hstuck (.enter k i) rfl
      simp [step,call,htask,hpermits] at henter
    | active c => simpa [htask,Task.isActive] using hactive i
    | absent => rfl
    | ended x => rfl
    | cancelled => rfl

/-- Where the semaphore lets no task in, none of them begins. -/
theorem unstarted_of_limit (hlimit : S.limit args = some 0)
    (h : (S.machine (· = s)).Run (fun _ e => OfCall k args e) tr p) :
    (∀ call, p.calls k = some call → call.args = args) ∧
      ∀ i, p.task (k,i) = .absent ∨ p.task (k,i) = .queued := by
  induction h with
  | start hi =>
    obtain ⟨_,rfl,rfl⟩ := hi
    exact ⟨by simp [Pool.idle],fun i => .inl rfl⟩
  | @next tr p e p' hrun hc htaken ih =>
    obtain ⟨hargs,htask⟩ := ih
    cases S.moves_of_step htaken with
    | @start k' args' fresh =>
      obtain ⟨rfl,rfl⟩ := hc
      exact ⟨by simp,htask⟩
    | @select k' args' call =>
      obtain rfl : k' = k := hc
      refine ⟨by simpa [Pool.spawn] using hargs _ call,fun i => ?_⟩
      by_cases hi : i ∈ S.select args' p.shared
      · exact .inr (by simp [Pool.spawn,hi])
      · simpa [Pool.spawn,hi] using htask i
    | @enter k' i args' items call queued permit =>
      obtain rfl : k' = k := hc
      obtain rfl : args' = args := hargs _ call
      simp [permits,hlimit] at permit
    | @resume k' i input call r c s' x called active exec =>
      obtain rfl : k' = k := hc
      have := htask i
      simp [active] at this
    | @cancel k' i args' items call cancels failed live =>
      obtain rfl : k' = k := hc
      obtain ⟨j,-,hj⟩ := List.any_eq_true.mp failed
      rcases htask j with htask | htask <;> simp [htask,Task.failed] at hj
    | other happens => exact hc.elim

end Pipeline
end LiveKBench.Lib
