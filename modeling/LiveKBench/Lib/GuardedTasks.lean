import LiveKBench.Lib.Coroutine
import LiveKBench.Lib.Machine
import Mathlib.Algebra.Order.BigOperators.Group.List
import Mathlib.Algebra.GroupWithZero.Nat
import Mathlib.Algebra.Order.Group.Nat

/-! The tasks of one group, under fixed answers to their requests. Each of them runs a part under
a common semaphore and then a rest outside of it; their awaits interleave. Where a task raises, the
group cancels those that have not ended, and raises once all of them have. -/
namespace LiveKBench.Lib

/-- What has become of a task of the group. -/
inductive GuardedTask (Req : Type) (Ans : Req → Type) (ε β α : Type)
  | waiting
  | inside (r : Req) (k : Except ε (Ans r) → Coroutine Req Ans ε β)
  | outside (r : Req) (k : Except ε (Ans r) → Coroutine Req Ans ε α)
  | ended (x : Except ε α)
  | cancelled

namespace GuardedTask
variable {Req : Type} {Ans : Req → Type} {ε β α : Type}

def isInside : GuardedTask Req Ans ε β α → Bool
  | .inside _ _ => true
  | _ => false

def isLive : GuardedTask Req Ans ε β α → Bool
  | .ended _ => false
  | .cancelled => false
  | _ => true

def result? : GuardedTask Req Ans ε β α → Option α
  | .ended (.ok a) => some a
  | _ => none

def error? : GuardedTask Req Ans ε β α → Option ε
  | .ended (.error e) => some e
  | _ => none

/-- The task as its coroutine starts outside of the semaphore. -/
def ofRest : Coroutine Req Ans ε α → GuardedTask Req Ans ε β α
  | .done a => .ended (.ok a)
  | .raise e => .ended (.error e)
  | .await r k => .outside r k

end GuardedTask

/-- The tasks of the items, with the permits of their semaphore. -/
structure GuardedTasks (ι Req : Type) (Ans : Req → Type) (ε β α : Type) where
  items : List ι
  nodup : items.Nodup
  permits : ℕ
  guarded : ι → Coroutine Req Ans ε β
  rest : ι → β → Coroutine Req Ans ε α

namespace GuardedTasks

/-- `made` holds the requests that each task has made and had answered. -/
structure State (ι Req : Type) (Ans : Req → Type) (ε β α : Type) where
  task : ι → GuardedTask Req Ans ε β α
  made : ι → List Req
  aborting : Bool

inductive Event (ι : Type)
  | enter (i : ι)
  | resume (i : ι)
  | abort
  | cancel (i : ι)

variable {ι Req : Type} {Ans : Req → Type} {ε β α : Type}
  (G : GuardedTasks ι Req Ans ε β α) (answers : ι → (r : Req) → Except ε (Ans r))

def begun : State ι Req Ans ε β α := ⟨fun _ => .waiting,fun _ => [],false⟩

def busy (s : State ι Req Ans ε β α) : ℕ := G.items.countP fun i => (s.task i).isInside

def errors (s : State ι Req Ans ε β α) : List ε := G.items.filterMap fun i => (s.task i).error?

/-- The task of an item as its guarded coroutine starts or goes on. -/
def ofGuarded (i : ι) : Coroutine Req Ans ε β → GuardedTask Req Ans ε β α
  | .done b => .ofRest (G.rest i b)
  | .raise e => .ended (.error e)
  | .await r k => .inside r k

/-- What leaves the group once all tasks ended: the exceptions, or the results. -/
def leave (s : State ι Req Ans ε β α) : Option (Except (List ε) (List α)) :=
  if G.items.any fun i => (s.task i).isLive then none
  else match G.errors s with
    | [] => some (.ok (G.items.filterMap fun i => (s.task i).result?))
    | errors => some (.error errors)

/-- All that the task of an item does where it is not cancelled. -/
def alone (i : ι) : List Req × Except ε α := (G.guarded i >>= G.rest i).run (answers i)

/-! ## A task by itself and among the others -/

/-- The coroutine that a task still has to run, unless it has been cancelled. -/
def whole (i : ι) : GuardedTask Req Ans ε β α → Option (Coroutine Req Ans ε α)
  | .waiting => some (G.guarded i >>= G.rest i)
  | .inside r k => some (.await r fun x => k x >>= G.rest i)
  | .outside r k => some (.await r k)
  | .ended (.ok a) => some (.done a)
  | .ended (.error e) => some (.raise e)
  | .cancelled => none

@[simp] theorem whole_ofRest (i : ι) (c : Coroutine Req Ans ε α) :
    G.whole i (.ofRest c) = some c := by
  cases c <;> rfl

@[simp] theorem whole_ofGuarded (i : ι) (c : Coroutine Req Ans ε β) :
    G.whole i (G.ofGuarded i c) = some (c >>= G.rest i) := by
  cases c with
  | done b => exact whole_ofRest G i (G.rest i b)
  | raise e => rfl
  | await r k => rfl

/-- Each task that has not been cancelled is where it would be by itself, and one that has been
cancelled goes back to one that raised. -/
structure Along (s : State ι Req Ans ε β α) : Prop where
  alone : ∀ i c, G.whole i (s.task i) = some c →
    (s.made i ++ (c.run (answers i)).1,(c.run (answers i)).2) = G.alone answers i
  cancelled : ∀ i, s.task i = .cancelled → s.aborting = true
  aborting : s.aborting = true → G.errors s ≠ []

section
variable {G} {answers} {s : State ι Req Ans ε β α}

lemma along_begun : G.Along answers (begun : State ι Req Ans ε β α) where
  alone := by
    intro i c hc
    cases hc
    rfl
  cancelled := nofun
  aborting := nofun

lemma errors_eq_nil : G.errors s = [] ↔ ∀ i ∈ G.items, (s.task i).error? = none :=
  List.filterMap_eq_nil_iff

lemma error?_of_live {task : GuardedTask Req Ans ε β α} (h : task.isLive = true) :
    task.error? = none := by
  cases task with
  | ended x => cases h
  | waiting => rfl
  | inside r k => rfl
  | outside r k => rfl
  | cancelled => rfl

lemma ofRest_ne_cancelled (c : Coroutine Req Ans ε α) :
    (GuardedTask.ofRest c : GuardedTask Req Ans ε β α) ≠ .cancelled := by
  cases c <;> exact nofun

lemma ofGuarded_ne_cancelled (i : ι) (c : Coroutine Req Ans ε β) :
    G.ofGuarded i c ≠ .cancelled := by
  cases c with
  | done b => exact ofRest_ne_cancelled (G.rest i b)
  | raise e => exact nofun
  | await r k => exact nofun

end

/-! ## The steps -/

variable [DecidableEq ι]

def setTask (s : State ι Req Ans ε β α) (i : ι) (task : GuardedTask Req Ans ε β α) :
    State ι Req Ans ε β α :=
  { s with task := Function.update s.task i task }

lemma task_setTask (s : State ι Req Ans ε β α) (i : ι) (task : GuardedTask Req Ans ε β α) :
    (setTask s i task).task i = task := by simp [setTask]

def record (s : State ι Req Ans ε β α) (i : ι) (r : Req) : State ι Req Ans ε β α :=
  { s with made := Function.update s.made i (s.made i ++ [r]) }

def step (s : State ι Req Ans ε β α) : Event ι → Option (State ι Req Ans ε β α)
  | .enter i =>
    if i ∈ G.items ∧ s.aborting = false ∧ G.busy s < G.permits then
      match s.task i with
      | .waiting => some (setTask s i (G.ofGuarded i (G.guarded i)))
      | _ => none
    else none
  | .resume i =>
    if i ∈ G.items ∧ s.aborting = false then
      match s.task i with
      | .inside r k => some (setTask (record s i r) i (G.ofGuarded i (k (answers i r))))
      | .outside r k => some (setTask (record s i r) i (.ofRest (k (answers i r))))
      | _ => none
    else none
  | .abort =>
    if s.aborting = false ∧ G.errors s ≠ [] then some { s with aborting := true } else none
  | .cancel i =>
    if i ∈ G.items ∧ s.aborting = true ∧ (s.task i).isLive then some (setTask s i .cancelled)
    else none

def machine : Machine (State ι Req Ans ε β α) (Event ι) where
  init s := s = begun
  step := G.step answers

/-- Nothing more can happen. -/
def Stuck (s : State ι Req Ans ε β α) : Prop := ∀ e, G.step answers s e = none

section Moves
variable {G : GuardedTasks ι Req Ans ε β α} {answers : ι → (r : Req) → Except ε (Ans r)}
  {s s' : State ι Req Ans ε β α}

/-- What one step does. -/
inductive Moves (G : GuardedTasks ι Req Ans ε β α)
    (answers : ι → (r : Req) → Except ε (Ans r)) (s : State ι Req Ans ε β α) :
    State ι Req Ans ε β α → Prop
  | enter (i : ι) (mem : i ∈ G.items) (going : s.aborting = false) (task : s.task i = .waiting) :
      Moves G answers s (setTask s i (G.ofGuarded i (G.guarded i)))
  | inside (i : ι) (mem : i ∈ G.items) (going : s.aborting = false) (r : Req)
      (k : Except ε (Ans r) → Coroutine Req Ans ε β) (task : s.task i = .inside r k) :
      Moves G answers s (setTask (record s i r) i (G.ofGuarded i (k (answers i r))))
  | outside (i : ι) (mem : i ∈ G.items) (going : s.aborting = false) (r : Req)
      (k : Except ε (Ans r) → Coroutine Req Ans ε α) (task : s.task i = .outside r k) :
      Moves G answers s (setTask (record s i r) i (.ofRest (k (answers i r))))
  | abort (going : s.aborting = false) (failed : G.errors s ≠ []) :
      Moves G answers s { s with aborting := true }
  | cancel (i : ι) (mem : i ∈ G.items) (aborting : s.aborting = true)
      (live : (s.task i).isLive = true) : Moves G answers s (setTask s i .cancelled)

theorem moves_of_step {e : Event ι} (h : G.step answers s e = some s') :
    Moves G answers s s' := by
  cases e with
  | enter i =>
    simp only [step] at h
    split at h
    · next hc =>
      split at h
      · next ht =>
        cases h
        exact .enter i hc.1 hc.2.1 ht
      · cases h
    · cases h
  | resume i =>
    simp only [step] at h
    split at h
    · next hc =>
      split at h
      · next r k ht =>
        cases h
        exact .inside i hc.1 hc.2 r k ht
      · next r k ht =>
        cases h
        exact .outside i hc.1 hc.2 r k ht
      · cases h
    · cases h
  | abort =>
    simp only [step] at h
    split at h
    · next hc =>
      cases h
      exact .abort hc.1 hc.2
    · cases h
  | cancel i =>
    simp only [step] at h
    split at h
    · next hc =>
      cases h
      exact .cancel i hc.1 hc.2.1 hc.2.2
    · cases h

end Moves

section Along
variable {G : GuardedTasks ι Req Ans ε β α} {answers : ι → (r : Req) → Except ε (Ans r)}
  {s s' : State ι Req Ans ε β α}

/-- A task that raised stays as it is. -/
lemma errors_setTask (h : G.errors s ≠ []) {i : ι} (hi : (s.task i).error? = none)
    (task : GuardedTask Req Ans ε β α) : G.errors (setTask s i task) ≠ [] := by
  rw [Ne,errors_eq_nil] at h ⊢
  intro hnone
  apply h
  intro j hj
  have hj' := hnone j hj
  by_cases hji : j = i
  · rw [hji]
    exact hi
  · simpa [setTask,Function.update_of_ne hji] using hj'

/-- One task goes on, to one that has the same to do. -/
lemma Along.setTask (h : G.Along answers s) {i : ι} {task : GuardedTask Req Ans ε β α}
    (hgoing : s.aborting = false) {made : ι → List Req}
    (hmade : ∀ j, j ≠ i → made j = s.made j) (hne : task ≠ .cancelled)
    (halone : ∀ c, G.whole i task = some c →
      (made i ++ (c.run (answers i)).1,(c.run (answers i)).2) = G.alone answers i) :
    G.Along answers ⟨Function.update s.task i task,made,s.aborting⟩ where
  alone := by
    intro j c hc
    by_cases hj : j = i
    · subst hj
      simp only [Function.update_self] at hc
      exact halone c hc
    · simp only [Function.update_of_ne hj] at hc
      simp only [hmade j hj]
      exact h.alone j c hc
  cancelled := by
    intro j hj
    by_cases hji : j = i
    · subst hji
      simp only [Function.update_self] at hj
      exact absurd hj hne
    · simp only [Function.update_of_ne hji] at hj
      exact h.cancelled j hj
  aborting := by
    intro hab
    rw [hgoing] at hab
    cases hab

theorem Along.step (h : G.Along answers s) (hm : Moves G answers s s') :
    G.Along answers s' := by
  cases hm with
  | enter i mem going task =>
    refine h.setTask going (fun _ _ => rfl) (ofGuarded_ne_cancelled i _) fun c hc => ?_
    rw [whole_ofGuarded] at hc
    cases hc
    exact h.alone i _ (by rw [task]; rfl)
  | inside i mem going r k task =>
    refine h.setTask going (fun j hj => Function.update_of_ne hj _ _)
      (ofGuarded_ne_cancelled i _) fun c hc => ?_
    rw [whole_ofGuarded] at hc
    cases hc
    have halone := h.alone i (.await r fun x => k x >>= G.rest i) (by rw [task]; rfl)
    simpa [Coroutine.run,record] using halone
  | outside i mem going r k task =>
    refine h.setTask going (fun j hj => Function.update_of_ne hj _ _) (ofRest_ne_cancelled _)
      fun c hc => ?_
    rw [whole_ofRest] at hc
    cases hc
    have halone := h.alone i (.await r k) (by rw [task]; rfl)
    simpa [Coroutine.run,record] using halone
  | abort going failed => exact ⟨h.alone,fun _ _ => rfl,fun _ => failed⟩
  | cancel i mem aborting live =>
    refine ⟨?_,fun _ _ => aborting,fun _ => ?_⟩
    · intro j c hc
      by_cases hj : j = i
      · subst hj
        simp [GuardedTasks.setTask,whole] at hc
      · simp only [GuardedTasks.setTask,Function.update_of_ne hj] at hc
        exact h.alone j c hc
    · exact errors_setTask (h.aborting aborting) (error?_of_live live) _

theorem along_of_reachable (h : (G.machine answers).Reachable s) : G.Along answers s := by
  refine h.invariant ?_ ?_
  · intro s hs
    cases hs
    exact along_begun
  · intro s e s' _ hi _ ht
    exact hi.step (moves_of_step ht)

/-- What a task has made is what it begins with by itself, also where it has been cancelled. -/
theorem made_prefix (h : (G.machine answers).Reachable s) (i : ι) :
    s.made i <+: (G.alone answers i).1 := by
  have hboth : G.Along answers s ∧ ∀ i, s.made i <+: (G.alone answers i).1 := by
    refine @Machine.ReachableBy.invariant _ _ (G.machine answers) _
      (fun s => G.Along answers s ∧ ∀ i, s.made i <+: (G.alone answers i).1) s h ?_ ?_
    · intro s hs
      cases hs
      exact ⟨along_begun,fun i => List.nil_prefix⟩
    · intro s e s' _ hi _ ht
      have hmoves := moves_of_step ht
      have halong := hi.1.step hmoves
      have hgoes : ∀ i c, G.whole i (s'.task i) = some c → s'.made i <+: (G.alone answers i).1 := by
        intro i c hc
        rw [← halong.alone i c hc]
        exact List.prefix_append _ _
      refine ⟨halong,fun i => ?_⟩
      cases hmoves with
      | enter j mem going task => exact hi.2 i
      | inside j mem going r k task =>
        by_cases hij : i = j
        · apply hgoes i _
          rw [hij,task_setTask,whole_ofGuarded]
        · simpa [GuardedTasks.setTask,record,Function.update_of_ne hij] using hi.2 i
      | outside j mem going r k task =>
        by_cases hij : i = j
        · apply hgoes i _
          rw [hij,task_setTask,whole_ofRest]
        · simpa [GuardedTasks.setTask,record,Function.update_of_ne hij] using hi.2 i
      | abort going failed => exact hi.2 i
      | cancel j mem aborting live => exact hi.2 i
  exact hboth.2 i

end Along

/-! ## How long the steps go on -/

def weight (i : ι) (task : GuardedTask Req Ans ε β α) : ℕ :=
  match G.whole i task,task with
  | none,_ => 0
  | some c,.waiting => (c.run (answers i)).1.length+1
  | some c,_ => (c.run (answers i)).1.length

/-- The steps that are left: an entry and an answer to each request for every task, and one
abort. -/
def left (s : State ι Req Ans ε β α) : ℕ :=
  (G.items.map fun i => G.weight answers i (s.task i)).sum+(if s.aborting then 0 else 1)

section Left
variable {G : GuardedTasks ι Req Ans ε β α} {answers : ι → (r : Req) → Except ε (Ans r)}
  {s s' : State ι Req Ans ε β α}

omit [DecidableEq ι] in
lemma weight_ofRest (i : ι) (c : Coroutine Req Ans ε α) :
    G.weight answers i (.ofRest c) = (c.run (answers i)).1.length := by
  cases c <;> rfl

omit [DecidableEq ι] in
lemma weight_ofGuarded (i : ι) (c : Coroutine Req Ans ε β) :
    G.weight answers i (G.ofGuarded i c) = ((c >>= G.rest i).run (answers i)).1.length := by
  cases c with
  | done b => exact weight_ofRest i (G.rest i b)
  | raise e => rfl
  | await r k => rfl

omit [DecidableEq ι] in
lemma weight_pos {i : ι} {task : GuardedTask Req Ans ε β α} (h : task.isLive = true) :
    0 < G.weight answers i task := by
  cases task with
  | waiting => exact Nat.succ_pos _
  | inside r k => exact Nat.succ_pos _
  | outside r k => exact Nat.succ_pos _
  | ended x => cases h
  | cancelled => cases h

lemma sum_weight_lt {i : ι} (hi : i ∈ G.items) {task : GuardedTask Req Ans ε β α}
    (h : G.weight answers i task < G.weight answers i (s.task i)) :
    (G.items.map fun j => G.weight answers j (Function.update s.task i task j)).sum <
      (G.items.map fun j => G.weight answers j (s.task j)).sum := by
  apply List.sum_lt_sum
  · intro j _
    by_cases hj : j = i
    · subst hj
      rw [Function.update_self]
      exact h.le
    · rw [Function.update_of_ne hj]
  · refine ⟨i,hi,?_⟩
    rw [Function.update_self]
    exact h

/-- Every step leaves fewer. -/
theorem Moves.left_lt (hm : Moves G answers s s') : G.left answers s' < G.left answers s := by
  cases hm with
  | enter i mem going task =>
    refine Nat.add_lt_add_right (sum_weight_lt mem ?_) _
    rw [weight_ofGuarded,task]
    exact Nat.lt_succ_self _
  | inside i mem going r k task =>
    refine Nat.add_lt_add_right (sum_weight_lt mem ?_) _
    change _ < G.weight answers i (s.task i)
    rw [weight_ofGuarded,task]
    exact Nat.lt_succ_self _
  | outside i mem going r k task =>
    refine Nat.add_lt_add_right (sum_weight_lt mem ?_) _
    change _ < G.weight answers i (s.task i)
    rw [weight_ofRest,task]
    exact Nat.lt_succ_self _
  | abort going failed =>
    simp [left,going]
  | cancel i mem aborting live =>
    have hpos : G.weight answers i .cancelled < G.weight answers i (s.task i) := weight_pos live
    exact Nat.add_lt_add_right (sum_weight_lt mem hpos) _

theorem length_le_of_run {tr : List (State ι Req Ans ε β α × Event ι)} {C : _ → _ → Prop}
    (h : (G.machine answers).Run C tr s) :
    tr.length+G.left answers s ≤ G.left answers (begun : State ι Req Ans ε β α) := by
  induction h with
  | start hi =>
    cases hi
    simp
  | next _ _ ht ih =>
    have hlt := (moves_of_step ht).left_lt
    simp only [List.length_cons]
    omega

end Left

/-! ## Where the steps end -/

section Stuck
variable {G : GuardedTasks ι Req Ans ε β α} {answers : ι → (r : Req) → Except ε (Ans r)}
  {s : State ι Req Ans ε β α}

/-- Where nothing more happens and no task raised, all tasks have ended, if the semaphore let any
of them in. -/
theorem Stuck.isLive_eq_false (h : G.Stuck answers s) (hpermits : 0 < G.permits) {i : ι}
    (hi : i ∈ G.items) : (s.task i).isLive = false := by
  cases hab : s.aborting with
  | true =>
    have hcancel := h (.cancel i)
    by_contra hlive
    rw [Bool.not_eq_false] at hlive
    simp [step,hi,hab,hlive] at hcancel
  | false =>
    have hquiet : ∀ j ∈ G.items, (s.task j).isInside = false := by
      intro j hj
      cases ht : s.task j with
      | inside r k =>
        have hresume := h (.resume j)
        simp [step,hj,hab,ht] at hresume
      | waiting => rfl
      | outside r k => rfl
      | ended x => rfl
      | cancelled => rfl
    have hbusy : G.busy s = 0 := by
      rw [busy,List.countP_eq_zero]
      intro j hj
      rw [hquiet j hj]
      exact Bool.false_ne_true
    cases ht : s.task i with
    | waiting =>
      have henter := h (.enter i)
      simp [step,hi,hab,hbusy,hpermits,ht] at henter
    | inside r k =>
      have hin := hquiet i hi
      rw [ht] at hin
      cases hin
    | outside r k =>
      have hresume := h (.resume i)
      simp [step,hi,hab,ht] at hresume
    | ended x => rfl
    | cancelled => rfl

/-- By itself every task returns: then each one has returned what it does by itself. -/
theorem Stuck.ended_ok (h : G.Stuck answers s) (hs : (G.machine answers).Reachable s)
    (hpermits : G.items ≠ [] → 0 < G.permits)
    (hok : ∀ i ∈ G.items, ∃ a, (G.alone answers i).2 = .ok a) {i : ι} (hi : i ∈ G.items) {a : α}
    (halone : (G.alone answers i).2 = .ok a) :
    s.task i = .ended (.ok a) ∧ s.made i = (G.alone answers i).1 := by
  have ha := along_of_reachable hs
  have herrors : G.errors s = [] := by
    rw [errors_eq_nil]
    intro j hj
    cases ht : s.task j with
    | ended x =>
      cases x with
      | ok b => rfl
      | error e =>
        obtain ⟨b,hb⟩ := hok j hj
        have hj' := ha.alone j (.raise e) (by rw [ht]; rfl)
        rw [← hj'] at hb
        cases hb
    | waiting => rfl
    | inside r k => rfl
    | outside r k => rfl
    | cancelled => rfl
  have hlive := h.isLive_eq_false (hpermits (List.ne_nil_of_mem hi)) hi
  cases ht : s.task i with
  | ended x =>
    cases x with
    | ok b =>
      have hb := ha.alone i (.done b) (by rw [ht]; rfl)
      rw [← hb] at halone ⊢
      cases halone
      exact ⟨rfl,(List.append_nil _).symm⟩
    | error e => simpa [ht,GuardedTask.error?] using errors_eq_nil.mp herrors i hi
  | cancelled => exact absurd herrors (ha.aborting (ha.cancelled i ht))
  | waiting => simp [ht,GuardedTask.isLive] at hlive
  | inside r k => simp [ht,GuardedTask.isLive] at hlive
  | outside r k => simp [ht,GuardedTask.isLive] at hlive

/-- By itself some task raises: then the group does. -/
theorem Stuck.leave_of_error (h : G.Stuck answers s) (hs : (G.machine answers).Reachable s)
    (hpermits : 0 < G.permits) {i : ι} (hi : i ∈ G.items) {e : ε}
    (halone : (G.alone answers i).2 = .error e) : ∃ errors, G.leave s = some (.error errors) := by
  have ha := along_of_reachable hs
  have hlive : ∀ j ∈ G.items, (s.task j).isLive = false :=
    fun j hj => h.isLive_eq_false hpermits hj
  have herrors : G.errors s ≠ [] := by
    intro hnil
    have hnone := errors_eq_nil.mp hnil i hi
    have hi' := hlive i hi
    cases ht : s.task i with
    | ended x =>
      cases x with
      | ok b =>
        have hb := ha.alone i (.done b) (by rw [ht]; rfl)
        rw [← hb] at halone
        cases halone
      | error e' => simp [ht,GuardedTask.error?] at hnone
    | cancelled => exact ha.aborting (ha.cancelled i ht) hnil
    | waiting => simp [ht,GuardedTask.isLive] at hi'
    | inside r k => simp [ht,GuardedTask.isLive] at hi'
    | outside r k => simp [ht,GuardedTask.isLive] at hi'
  have hany : (G.items.any fun j => (s.task j).isLive) = false := by
    rw [List.any_eq_false]
    intro j hj
    rw [hlive j hj]
    exact Bool.false_ne_true
  unfold leave
  rw [hany,if_neg Bool.false_ne_true]
  cases hl : G.errors s with
  | nil => exact absurd hl herrors
  | cons e' errors => exact ⟨e' :: errors,rfl⟩

variable (G)

omit [DecidableEq ι] in
lemma leave_of_ended (results : ι → α) (h : ∀ i ∈ G.items, s.task i = .ended (.ok (results i))) :
    G.leave s = some (.ok (G.items.map results)) := by
  have hlive : (G.items.any fun i => (s.task i).isLive) = false := by
    rw [List.any_eq_false]
    intro i hi
    rw [h i hi]
    exact Bool.false_ne_true
  have herrors : G.errors s = [] := by
    rw [errors_eq_nil]
    intro i hi
    rw [h i hi]
    rfl
  have hresults : G.items.filterMap (fun i => (s.task i).result?) = G.items.map results := by
    rw [← List.filterMap_eq_map]
    apply List.filterMap_congr
    intro i hi
    rw [h i hi]
    rfl
  rw [leave,hlive,if_neg Bool.false_ne_true,herrors,hresults]

omit [DecidableEq ι] in
lemma leave_begun (h : G.items ≠ []) : G.leave (begun : State ι Req Ans ε β α) = none := by
  obtain ⟨i,hi⟩ := List.exists_mem_of_ne_nil _ h
  exact if_pos (List.any_eq_true.mpr ⟨i,hi,rfl⟩)

variable (answers)

/-- A semaphore without permits lets nothing happen. -/
lemma stuck_begun (h : G.permits = 0) : G.Stuck answers (begun : State ι Req Ans ε β α) := by
  intro e
  cases e with
  | enter i => simp [step,h]
  | resume i => simp [step,begun]
  | abort => exact if_neg fun hc => hc.2 (errors_eq_nil.mpr fun _ _ => rfl)
  | cancel i => simp [step,begun]

/-- Some run comes to its end. -/
theorem exists_stuck : ∃ s, (G.machine answers).Reachable s ∧ G.Stuck answers s := by
  obtain ⟨tr,s,hr,hstuck⟩ := (G.machine answers).exists_stuck (C := fun _ _ => True)
    ⟨begun,rfl⟩ (n := G.left answers begun) fun tr s hr => by
      have hle := length_le_of_run hr
      omega
  exact ⟨s,⟨tr,hr⟩,fun e => hstuck e trivial⟩

end Stuck

end GuardedTasks
end LiveKBench.Lib
