import LiveKBench.Lib.AsyncLock
import LiveKBench.Lib.Machine
import LiveKBench.Lib.OrderedMap
import Mathlib.Algebra.Order.Group.Unbundled.Int
import Mathlib.Data.List.MinMax

/-! The replicas of the model configs. Each agent run holds the directory of one replica while its
context is open, and gets one that the fewest others hold. -/
namespace LiveKBench.KArena
open Lib

/-- `_discover_replicas` on the paths that exist. There are no more replicas than paths, so that the
loop ends among these candidates. -/
def discoverReplicas (files : List String) (baseDir modelConfigName : String) :
    Option (List String) :=
  let candidates := (List.range (files.length+1)).map fun i => s!"{baseDir}/{modelConfigName}.{i}"
  match candidates.takeWhile (· ∈ files) with
  | [] =>
    let plain := s!"{baseDir}/{modelConfigName}"
    if plain ∈ files then some [plain] else none
  | replicas => some replicas

/-- `counts.index(min(counts))`. -/
def leastUsed (counts : List ℤ) : ℕ := counts.idxOf (counts.min?.getD 0)

structure ConfigRequest where
  modelConfigName : String
  agent : String
  workspaceRoot : String
  deriving DecidableEq, Repr

def ConfigRequest.key (r : ConfigRequest) : String := s!"{r.agent}/{r.modelConfigName}"

def ConfigRequest.baseDir (r : ConfigRequest) : String :=
  s!"{r.workspaceRoot}/shared/model-configs/{r.agent}"

/-- Where a context of `get_model_config` is. It is closed where it has been left, and where it has
never been opened. -/
inductive ConfigContext
  | entering (request : ConfigRequest)
  | opened (key : String) (idx : ℕ) (path : String)
  | leaving (key : String) (idx : ℕ)
  | closed
  deriving DecidableEq, Repr

/-- The context holds the replica with the number `idx` until its `finally` is through. -/
def ConfigContext.holds (key : String) (idx : ℕ) : ConfigContext → Bool
  | opened key' idx' _ => key' = key && idx' = idx
  | leaving key' idx' => key' = key && idx' = idx
  | _ => false

def ConfigContext.waits : ConfigContext → Bool
  | entering _ => true
  | leaving _ _ => true
  | _ => false

inductive ContextExit
  | normal
  | exception
  | cancelled
  deriving DecidableEq, Repr

/-- A context goes by its place among those that have begun. -/
inductive ConfigEvent
  | enter (request : ConfigRequest) (files : List String)
  | leave (context : ℕ) (how : ContextExit)
  | resume (context : ℕ) (files : List String)
  | cancelWait (context : ℕ)

structure ModelConfigManager where
  replicaLists : OrderedMap String (List String)
  refcounts : OrderedMap String (List ℤ)
  lock : AsyncLock
  contexts : List ConfigContext

namespace ModelConfigManager
variable (m : ModelConfigManager)

/-- The lists of a key, which are made where it is new. -/
def withKey (r : ConfigRequest) (files : List String) : Option ModelConfigManager :=
  if (m.replicaLists.value? r.key).isSome then some m
  else (discoverReplicas files r.baseDir r.modelConfigName).map fun replicas =>
    { m with
      replicaLists := m.replicaLists.set r.key replicas
      refcounts := m.refcounts.set r.key (List.replicate replicas.length 0) }

/-- The replica that the entry of a key takes. -/
def take (key : String) : ModelConfigManager × ConfigContext :=
  let counts := (m.refcounts.value? key).getD []
  let idx := leastUsed counts
  let path := (((m.replicaLists.value? key).getD [])[idx]?).getD ""
  ({ m with refcounts := m.refcounts.set key (counts.modify idx (·+1)) },.opened key idx path)

/-- The entry under the lock. Without a config there is a `FileNotFoundError`. -/
def enter (r : ConfigRequest) (files : List String) : ModelConfigManager × ConfigContext :=
  match m.withKey r files with
  | none => (m,.closed)
  | some m => m.take r.key

/-- `cls._refcounts[key][idx] -= 1`. -/
def giveBack (key : String) (idx : ℕ) : ModelConfigManager :=
  { m with refcounts := m.refcounts.set key (((m.refcounts.value? key).getD []).modify idx (·-1)) }

def setContext (context : ℕ) (c : ConfigContext) : ModelConfigManager :=
  { m with contexts := m.contexts.set context c }

def release : ModelConfigManager := { m with lock := m.lock.release }

def step : ConfigEvent → Option ModelConfigManager
  | .enter r files =>
    match m.lock.acquire? with
    | some lock =>
      let (m,c) := { m with lock }.enter r files
      some { m.release with contexts := m.contexts ++ [c] }
    | none => some
      { m with lock := m.lock.wait m.contexts.length, contexts := m.contexts ++ [.entering r] }
  | .leave context _ =>
    match m.contexts[context]? with
    | some (.opened key idx _) =>
      match m.lock.acquire? with
      | some lock => some (({ m with lock }.giveBack key idx).release.setContext context .closed)
      | none => some ({ m with lock := m.lock.wait context }.setContext context (.leaving key idx))
    | _ => none
  | .resume context files =>
    match m.contexts[context]?,m.lock.resume? context with
    | some (.entering r),some lock =>
      let (m,c) := { m with lock }.enter r files
      some (m.release.setContext context c)
    | some (.leaving key idx),some lock =>
      some (({ m with lock }.giveBack key idx).release.setContext context .closed)
    | _,_ => none
  | .cancelWait context =>
    match m.contexts[context]? with
    | some (.entering _) => some
      ({ m with lock := m.lock.cancel context }.setContext context .closed)
    -- the count stays as it is
    | some (.leaving _ _) => some
      ({ m with lock := m.lock.cancel context }.setContext context .closed)
    | _ => none

/-- How many contexts are open on a replica. -/
def openOn (key : String) (idx : ℕ) : ℕ := m.contexts.countP (ConfigContext.holds key idx)

end ModelConfigManager

/-- The runs in which the cache is not cleared. -/
def modelConfigs : Machine ModelConfigManager ConfigEvent where
  init m := m = ⟨.empty,.empty,.free,[]⟩
  step := ModelConfigManager.step

section LeastUsed
variable {counts : List ℤ}

lemma leastUsed_lt (h : counts ≠ []) : leastUsed counts < counts.length := by
  obtain ⟨n,hn⟩ := Option.ne_none_iff_exists'.mp (List.min?_eq_none_iff.not.mpr h)
  rw [leastUsed,hn]
  exact List.idxOf_lt_length_of_mem (List.min?_mem hn)

/-- No other count is less. -/
lemma leastUsed_le (h : counts ≠ []) {j : ℕ} {n n' : ℤ} (hn : counts[leastUsed counts]? = some n)
    (hn' : counts[j]? = some n') : n ≤ n' := by
  obtain ⟨least,hleast⟩ := Option.ne_none_iff_exists'.mp (List.min?_eq_none_iff.not.mpr h)
  have hidx : counts[leastUsed counts]? = some least := by
    rw [List.getElem?_eq_getElem (leastUsed_lt h)]
    congr 1
    simp only [leastUsed,hleast,Option.getD_some]
    exact List.getElem_idxOf _
  rw [hidx] at hn
  cases hn
  exact (List.min?_eq_some_iff.mp hleast).2 n' (List.mem_of_getElem? hn')

end LeastUsed

namespace ModelConfigManager

/-- The counts are those of the open contexts; nobody waits for the lock. -/
structure Held (m : ModelConfigManager) : Prop where
  lock : m.lock = .free
  waiting : ∀ c ∈ m.contexts, c.waits = false
  lists : ∀ key, (m.replicaLists.value? key).map List.length =
    (m.refcounts.value? key).map List.length
  nonempty : ∀ key counts, m.refcounts.value? key = some counts → counts ≠ []
  counts : ∀ key counts, m.refcounts.value? key = some counts → ∀ idx < counts.length,
    counts[idx]? = some (m.openOn key idx : ℤ)
  opened : ∀ key idx, m.openOn key idx ≠ 0 → ∃ counts, m.refcounts.value? key = some counts ∧
    idx < counts.length

/-- What a step can do where nobody waits for the lock: a context fails to open, it opens, or it is
left. -/
inductive Moves (m : ModelConfigManager) : ConfigEvent → ModelConfigManager → Prop
  | failed {r files} (missing : m.withKey r files = none) :
    Moves m (.enter r files) { m with contexts := m.contexts ++ [.closed] }
  | entered {r files m₁} (found : m.withKey r files = some m₁) :
    Moves m (.enter r files)
      { (m₁.take r.key).1 with contexts := m₁.contexts ++ [(m₁.take r.key).2] }
  | left {context how key idx path} (was : m.contexts[context]? = some (.opened key idx path)) :
    Moves m (.leave context how) ((m.giveBack key idx).setContext context .closed)

section Steps
variable {m m' : ModelConfigManager} {e : ConfigEvent}

lemma withKey_lock (m : ModelConfigManager) (lock : AsyncLock) (r : ConfigRequest)
    (files : List String) :
    { m with lock }.withKey r files = (m.withKey r files).map fun m => { m with lock } := by
  unfold withKey
  dsimp only
  split
  · rfl
  · rw [Option.map_map]
    rfl

lemma lock_of_withKey {r : ConfigRequest} {files : List String} (h : m.withKey r files = some m') :
    m'.lock = m.lock ∧ m'.contexts = m.contexts := by
  unfold withKey at h
  split at h
  · cases h
    exact ⟨rfl,rfl⟩
  · obtain ⟨replicas,-,rfl⟩ := Option.map_eq_some_iff.mp h
    exact ⟨rfl,rfl⟩

theorem moves_of_step (hi : m.Held) (h : m.step e = some m') : m.Moves e m' := by
  have hfree := hi.lock
  cases e with
  | enter r files =>
    have hacquired := withKey_lock m ⟨true,[]⟩ r files
    rw [step,hfree,AsyncLock.acquire?_free] at h
    simp only [enter,hacquired] at h
    cases hfound : m.withKey r files with
    | none =>
      simp only [hfound,Option.map_none] at h
      cases h
      have hsame : ({ m with lock := ⟨true,[]⟩ } : ModelConfigManager).release = m := by
        rw [release,AsyncLock.release_of_acquired,← hfree]
      rw [hsame]
      exact .failed hfound
    | some m₁ =>
      simp only [hfound,Option.map_some] at h
      cases h
      have hsame : (({ m₁ with lock := ⟨true,[]⟩ } : ModelConfigManager).take r.key).1.release =
          (m₁.take r.key).1 := by
        rw [release,take,take,AsyncLock.release_of_acquired,← hfree,← (lock_of_withKey hfound).1]
      rw [hsame]
      exact .entered hfound
  | leave context how =>
    rw [step] at h
    split at h
    · rename_i key idx path hwas
      rw [hfree,AsyncLock.acquire?_free] at h
      cases h
      have hsame : (({ m with lock := ⟨true,[]⟩ } : ModelConfigManager).giveBack key idx).release =
          m.giveBack key idx := by
        rw [release,giveBack,giveBack,AsyncLock.release_of_acquired,← hfree]
      rw [hsame]
      exact .left hwas
    · cases h
  | resume context files =>
    rw [step,hfree,AsyncLock.resume?_free] at h
    split at h <;> simp_all
  | cancelWait context =>
    rw [step] at h
    split at h
    · rename_i r hwas
      cases hi.waiting _ (List.mem_of_getElem? hwas)
    · rename_i key idx hwas
      cases hi.waiting _ (List.mem_of_getElem? hwas)
    · cases h

@[simp] lemma holds_closed (key : String) (idx : ℕ) :
    ConfigContext.closed.holds key idx = false := rfl

lemma holds_opened {key key' path : String} {idx idx' : ℕ} :
    (ConfigContext.opened key idx path).holds key' idx' = true ↔ key = key' ∧ idx = idx' := by
  simp [ConfigContext.holds]

lemma openOn_append (m : ModelConfigManager) (c : ConfigContext) (key : String) (idx : ℕ) :
    { m with contexts := m.contexts ++ [c] }.openOn key idx =
      m.openOn key idx+if c.holds key idx then 1 else 0 := by
  rw [openOn,List.countP_append,List.countP_singleton]
  rfl

lemma discoverReplicas_ne {files replicas : List String} {baseDir modelConfigName : String}
    (h : discoverReplicas files baseDir modelConfigName = some replicas) : replicas ≠ [] := by
  unfold discoverReplicas at h
  dsimp only at h
  split at h
  · split at h
    · cases h
      exact List.cons_ne_nil _ _
    · cases h
  · rename_i hne
    cases h
    exact hne

lemma Held.failed (h : m.Held) : Held { m with contexts := m.contexts ++ [.closed] } := by
  have hopen : ∀ key idx, { m with
      contexts := m.contexts ++ [ConfigContext.closed] }.openOn key idx = m.openOn key idx := by
    intro key idx
    rw [openOn_append,holds_closed]
    rfl
  refine ⟨h.lock,fun c hc => ?_,h.lists,h.nonempty,fun key counts hcounts idx hidx => ?_,
    fun key idx hne => ?_⟩
  · obtain hc | hc := List.mem_append.mp hc
    · exact h.waiting c hc
    · rw [List.mem_singleton.mp hc]
      rfl
  · rw [hopen]
    exact h.counts key counts hcounts idx hidx
  · rw [hopen] at hne
    exact h.opened key idx hne

/-- The lists of a new key count nothing, since no context is open on it. -/
lemma Held.withKey (h : m.Held) {r : ConfigRequest} {files : List String}
    (hfound : m.withKey r files = some m') :
    m'.Held ∧ ∃ counts, m'.refcounts.value? r.key = some counts := by
  unfold ModelConfigManager.withKey at hfound
  split at hfound
  · rename_i hkey
    cases hfound
    refine ⟨h,?_⟩
    have hlists := h.lists r.key
    obtain ⟨replicas,hreplicas⟩ := Option.isSome_iff_exists.mp hkey
    rw [hreplicas] at hlists
    obtain ⟨counts,hcounts,-⟩ := Option.map_eq_some_iff.mp hlists.symm
    exact ⟨counts,hcounts⟩
  · rename_i hkey
    obtain ⟨replicas,hreplicas,rfl⟩ := Option.map_eq_some_iff.mp hfound
    have hne := discoverReplicas_ne hreplicas
    have hnone : m.refcounts.value? r.key = none := by
      have hlists := h.lists r.key
      rw [Option.not_isSome_iff_eq_none.mp hkey] at hlists
      exact Option.map_eq_none_iff.mp hlists.symm
    have hclosed : ∀ idx, m.openOn r.key idx = 0 := by
      intro idx
      by_contra hopen
      obtain ⟨counts,hcounts,-⟩ := h.opened r.key idx hopen
      rw [hnone] at hcounts
      cases hcounts
    refine ⟨⟨h.lock,h.waiting,fun key => ?_,fun key counts hcounts => ?_,
      fun key counts hcounts idx hidx => ?_,fun key idx hopen => ?_⟩,
      List.replicate replicas.length 0,by simp⟩
    · simp only [OrderedMap.value?_set]
      split
      · simp
      · exact h.lists key
    · simp only [OrderedMap.value?_set] at hcounts
      split at hcounts
      · cases hcounts
        simpa using hne
      · exact h.nonempty key counts hcounts
    · simp only [OrderedMap.value?_set] at hcounts
      split at hcounts
      · rename_i hkey
        subst hkey
        cases hcounts
        have hzero := hclosed idx
        rw [List.getElem?_replicate,if_pos (by simpa using hidx)]
        exact congrArg some (congrArg Nat.cast hzero).symm
      · exact h.counts key counts hcounts idx hidx
    · simp only [OrderedMap.value?_set]
      split
      · rename_i hkey
        subst hkey
        exact absurd (hclosed idx) hopen
      · exact h.opened key idx hopen

/-- An entry counts the context that it opens. -/
lemma Held.take (h : m.Held) {key : String} {counts : List ℤ}
    (hcounts : m.refcounts.value? key = some counts) :
    Held { (m.take key).1 with contexts := m.contexts ++ [(m.take key).2] } := by
  have hlt := leastUsed_lt (h.nonempty key counts hcounts)
  have hopen : ∀ key' idx', openOn { (m.take key).1 with
      contexts := m.contexts ++ [(m.take key).2] } key' idx' =
        m.openOn key' idx'+if key = key' ∧ leastUsed counts = idx' then 1 else 0 := by
    intro key' idx'
    rw [openOn,List.countP_append,List.countP_singleton]
    simp only [ModelConfigManager.take,hcounts,Option.getD_some,holds_opened]
    rfl
  refine ⟨h.lock,fun c hc => ?_,fun key' => ?_,fun key' counts' hcounts' => ?_,
    fun key' counts' hcounts' idx hidx => ?_,fun key' idx hne => ?_⟩
  · obtain hc | hc := List.mem_append.mp hc
    · exact h.waiting c hc
    · rw [List.mem_singleton.mp hc]
      rfl
  · simp only [ModelConfigManager.take,hcounts,Option.getD_some,OrderedMap.value?_set]
    split
    · rename_i hkey
      subst hkey
      rw [h.lists key,hcounts]
      simp
    · exact h.lists key'
  · simp only [ModelConfigManager.take,hcounts,Option.getD_some,OrderedMap.value?_set] at hcounts'
    split at hcounts'
    · cases hcounts'
      rw [Ne,← List.length_eq_zero_iff,List.length_modify]
      omega
    · exact h.nonempty key' counts' hcounts'
  · rw [hopen]
    simp only [ModelConfigManager.take,hcounts,Option.getD_some,OrderedMap.value?_set] at hcounts'
    split at hcounts'
    · rename_i hkey
      subst hkey
      cases hcounts'
      rw [List.length_modify] at hidx
      rw [List.getElem?_modify,h.counts key counts hcounts idx hidx]
      by_cases hleast : leastUsed counts = idx
      · simp [hleast]
      · simp [hleast]
    · rename_i hkey
      rw [if_neg fun hc => hkey hc.1]
      exact h.counts key' counts' hcounts' idx hidx
  · rw [hopen] at hne
    simp only [ModelConfigManager.take,hcounts,Option.getD_some,OrderedMap.value?_set]
    split
    · rename_i hkey
      subst hkey
      refine ⟨_,rfl,?_⟩
      rw [List.length_modify]
      by_cases hleast : leastUsed counts = idx
      · omega
      · rw [if_neg fun hc => hleast hc.2] at hne
        obtain ⟨counts',hcounts',hidx⟩ := h.opened key idx hne
        rw [hcounts] at hcounts'
        cases hcounts'
        exact hidx
    · rename_i hkey
      rw [if_neg fun hc => hkey hc.1] at hne
      exact h.opened key' idx hne

/-- A context that is left is counted no more. -/
lemma Held.left (h : m.Held) {context idx : ℕ} {key path : String}
    (hwas : m.contexts[context]? = some (.opened key idx path)) :
    ((m.giveBack key idx).setContext context .closed).Held := by
  obtain ⟨hlt,hget⟩ := List.getElem?_eq_some_iff.mp hwas
  have hmem : 0 < m.openOn key idx := by
    rw [openOn,List.countP_pos_iff]
    exact ⟨_,List.mem_of_getElem? hwas,holds_opened.mpr ⟨rfl,rfl⟩⟩
  have hopen : ∀ key' idx', ((m.giveBack key idx).setContext context .closed).openOn key' idx' =
      m.openOn key' idx'-if key = key' ∧ idx = idx' then 1 else 0 := by
    intro key' idx'
    simp only [openOn,setContext,giveBack]
    rw [List.countP_set hlt,hget,holds_closed]
    simp only [holds_opened,Bool.false_eq_true,if_false,Nat.add_zero]
  obtain ⟨counts,hcounts,hidx⟩ := h.opened key idx (by omega)
  refine ⟨h.lock,fun c hc => ?_,fun key' => ?_,fun key' counts' hcounts' => ?_,
    fun key' counts' hcounts' idx' hidx' => ?_,fun key' idx' hne => ?_⟩
  · obtain hc | rfl := List.mem_or_eq_of_mem_set hc
    · exact h.waiting c hc
    · rfl
  · simp only [setContext,giveBack,hcounts,Option.getD_some,OrderedMap.value?_set]
    split
    · rename_i hkey
      subst hkey
      rw [h.lists key,hcounts]
      simp
    · exact h.lists key'
  · simp only [setContext,giveBack,hcounts,Option.getD_some,OrderedMap.value?_set] at hcounts'
    split at hcounts'
    · cases hcounts'
      rw [Ne,← List.length_eq_zero_iff,List.length_modify]
      omega
    · exact h.nonempty key' counts' hcounts'
  · rw [hopen]
    simp only [setContext,giveBack,hcounts,Option.getD_some,OrderedMap.value?_set] at hcounts'
    split at hcounts'
    · rename_i hkey
      subst hkey
      cases hcounts'
      rw [List.length_modify] at hidx'
      rw [List.getElem?_modify,h.counts key counts hcounts idx' hidx']
      by_cases hsame : idx = idx'
      · subst hsame
        simp only [if_true,and_self,Option.map_eq_map,Option.map_some,Option.some.injEq]
        omega
      · simp [hsame]
    · rename_i hkey
      rw [if_neg fun hc => hkey hc.1]
      exact h.counts key' counts' hcounts' idx' hidx'
  · rw [hopen] at hne
    obtain ⟨counts',hcounts',hidx'⟩ := h.opened key' idx' (by omega)
    simp only [setContext,giveBack,hcounts,Option.getD_some,OrderedMap.value?_set]
    split
    · rename_i hkey
      subst hkey
      rw [hcounts] at hcounts'
      cases hcounts'
      exact ⟨_,rfl,by rwa [List.length_modify]⟩
    · exact ⟨counts',hcounts',hidx'⟩

theorem Held.step (h : m.Held) (hs : m.step e = some m') : m'.Held := by
  cases moves_of_step h hs with
  | failed missing => exact h.failed
  | @entered r files m₁ found =>
    obtain ⟨h₁,counts,hcounts⟩ := h.withKey found
    exact h₁.take hcounts
  | left was => exact h.left was

theorem held_of_reachable (h : modelConfigs.Reachable m) : m.Held := by
  refine h.invariant ?_ fun m e m' _ hi _ hs => hi.step hs
  intro m hm
  obtain rfl := hm
  have hnone : ∀ (key : String) (idx : ℕ), openOn ⟨.empty,.empty,.free,[]⟩ key idx = 0 :=
    fun key idx => rfl
  refine ⟨rfl,fun c hc => absurd hc List.not_mem_nil,fun key => rfl,fun key counts hc => ?_,
    fun key counts hc => ?_,fun key idx hne => absurd (hnone key idx) hne⟩
  · rw [OrderedMap.value?_empty] at hc
    cases hc
  · rw [OrderedMap.value?_empty] at hc
    cases hc

/-- An entry gets the path of a replica on which no more contexts are open than on any other. -/
lemma Held.leastUsed_of_entered (h : m.Held) {counts : List ℤ} {key : String}
    (hcounts : m.refcounts.value? key = some counts) :
    ∃ replicas idx path, (m.take key).2 = .opened key idx path ∧
      (m.take key).1.replicaLists.value? key = some replicas ∧ replicas[idx]? = some path ∧
      ∀ j < replicas.length, m.openOn key idx ≤ m.openOn key j := by
  have hne := h.nonempty key counts hcounts
  have hlt := leastUsed_lt hne
  have hlists := h.lists key
  rw [hcounts] at hlists
  obtain ⟨replicas,hreplicas,hlength⟩ := Option.map_eq_some_iff.mp hlists
  have hidx : leastUsed counts < replicas.length := by
    rw [hlength]
    exact hlt
  refine ⟨replicas,leastUsed counts,replicas[leastUsed counts],?_,hreplicas,
    List.getElem?_eq_getElem hidx,fun j hj => ?_⟩
  · simp only [ModelConfigManager.take,hcounts,hreplicas,Option.getD_some,
      List.getElem?_eq_getElem hidx]
  · have hle := leastUsed_le hne (h.counts key counts hcounts _ hlt)
      (h.counts key counts hcounts j (hlength ▸ hj))
    exact Int.ofNat_le.mp hle

end Steps

lemma eq_of_new {α : Type} {l : List α} {a b : α} {i : ℕ} (h : (l ++ [a])[i]? = some b)
    (hnew : l[i]? ≠ some b) : b = a := by
  by_cases hi : i < l.length
  · rw [List.getElem?_append_left hi] at h
    exact absurd h hnew
  · rw [List.getElem?_append_right (Nat.le_of_not_lt hi)] at h
    exact List.mem_singleton.mp (List.mem_of_getElem? h)

/-- The counts of the replicas in every state of every run. -/
theorem refcounts_of_reachable {m : ModelConfigManager} (h : modelConfigs.Reachable m) :
    (∀ key counts, m.refcounts.value? key = some counts → ∀ idx < counts.length,
      counts[idx]? = some (m.openOn key idx : ℤ)) ∧
    (∀ key idx, m.openOn key idx ≠ 0 → ∃ counts, m.refcounts.value? key = some counts ∧
      idx < counts.length) ∧
    ∀ (e : ConfigEvent) (m' : ModelConfigManager) (context idx : ℕ) (key path : String),
      m.step e = some m' →
      m'.contexts[context]? = some (ConfigContext.opened key idx path) →
      m.contexts[context]? ≠ some (ConfigContext.opened key idx path) →
      ∃ replicas, m'.replicaLists.value? key = some replicas ∧ replicas[idx]? = some path ∧
        ∀ j < replicas.length, m.openOn key idx ≤ m.openOn key j := by
  have hi := held_of_reachable h
  refine ⟨hi.counts,hi.opened,fun e m' context idx key path hs hopened hnew => ?_⟩
  cases moves_of_step hi hs with
  | failed missing => cases eq_of_new hopened hnew
  | @entered r files m₁ found =>
    obtain ⟨h₁,counts,hcounts⟩ := hi.withKey found
    obtain ⟨replicas,idx₁,path₁,htake,hreplicas,hpath,hleast⟩ := h₁.leastUsed_of_entered hcounts
    have hcontexts := (lock_of_withKey found).2
    simp only [hcontexts,htake] at hopened
    cases eq_of_new hopened hnew
    have hsame : ∀ j, m₁.openOn r.key j = m.openOn r.key j := by
      intro j
      rw [openOn,openOn,hcontexts]
    refine ⟨replicas,hreplicas,hpath,fun j hj => ?_⟩
    rw [← hsame,← hsame]
    exact hleast j hj
  | @left context' how key' idx' path' was =>
    simp only [setContext,giveBack,List.getElem?_set] at hopened
    split at hopened
    · split at hopened <;> cases hopened
    · exact absurd hopened hnew

def vllm : List String :=
  ["/ws/shared/model-configs/mphase/qwen.0","/ws/shared/model-configs/mphase/qwen.1"]

def vllmRun : ConfigRequest := ⟨"qwen","mphase","/ws"⟩

/-- Three runs on a model with two replicas, of which the second has been cancelled. -/
def overlappingRuns : ModelConfigManager where
  replicaLists := .singleton ("mphase/qwen",vllm)
  refcounts := .singleton ("mphase/qwen",[2,0])
  lock := .free
  contexts := [.opened "mphase/qwen" 0 "/ws/shared/model-configs/mphase/qwen.0",.closed,
    .opened "mphase/qwen" 0 "/ws/shared/model-configs/mphase/qwen.0"]

lemma overlappingRuns_reachable : modelConfigs.Reachable overlappingRuns := by
  have hbegun : modelConfigs.Reachable ⟨.empty,.empty,.free,[]⟩ := .start rfl
  exact (((hbegun.next (e := .enter vllmRun vllm) trivial rfl).next
    (e := .enter vllmRun vllm) trivial rfl).next
    (e := .enter vllmRun vllm) trivial rfl).next (e := .leave 1 .cancelled) trivial rfl

/-- The next run gets the second replica, which nobody holds any more. -/
theorem refcounts_overlappingRuns :
    (∀ idx < 2, [(2 : ℤ),0][idx]? = some (overlappingRuns.openOn "mphase/qwen" idx : ℤ)) ∧
    ∃ m' path, overlappingRuns.step (.enter vllmRun vllm) = some m' ∧
      m'.contexts[3]? = some (.opened "mphase/qwen" 1 path) ∧
      ∃ replicas, m'.replicaLists.value? "mphase/qwen" = some replicas ∧
        replicas[1]? = some path ∧ ∀ j < replicas.length,
          overlappingRuns.openOn "mphase/qwen" 1 ≤ overlappingRuns.openOn "mphase/qwen" j := by
  obtain ⟨hcounts,-,hleast⟩ := refcounts_of_reachable overlappingRuns_reachable
  refine ⟨hcounts "mphase/qwen" [2,0] rfl,_,_,rfl,rfl,?_⟩
  exact hleast (.enter vllmRun vllm) _ 3 1 "mphase/qwen" _ rfl rfl (by decide)

end ModelConfigManager
end LiveKBench.KArena
