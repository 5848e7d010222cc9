import LiveKBench.KArenaPipeline.ImportRuns
import LiveKBench.KArenaPipeline.KcacheJobs
import Mathlib.Algebra.BigOperators.Ring.Finset

/-! The numbers and the sums of an import, in every state that it reaches beside the other batches.
What is kept goes through every insertion: an entry in the tables was asked for by the task of its
bug, and each task asks for its entries in the order of their numbers. -/
namespace LiveKBench.KArenaPipeline
open KArenaWeb (DateTime)
open KArenaDb
open Lib

/-! ## What a request does to the tables -/

/-- A request that stores nothing has raised, or is no insertion of an entry. -/
inductive BatchDb.Stores (db : BatchDb) :
    (r : ImageRequest) → BatchDb → Except ImageError r.Answer → Prop
  | entry {agentPatch attempt x}
      (id : ∀ agentPatchId, x = .ok agentPatchId → agentPatchId = db.agentPatches.last+1) :
      Stores db (.agent (.insertAgentPatch agentPatch attempt)) (db.insertAgentPatch agentPatch) x
  | none {r db' x} (agentPatches : db'.agentPatches = db.agentPatches)
      (unionCounters : db'.unionCounters = db.unionCounters) (begun : db'.begun = db.begun)
      (raises : ∀ agentPatch attempt, r = .agent (.insertAgentPatch agentPatch attempt) →
        ∃ e, x = .error e) : Stores db r db' x

theorem BatchDb.stores_exec (db : BatchDb) (reply : ImportReply) (r : ImageRequest) :
    db.Stores r (db.exec reply r).1 (db.exec reply r).2 := by
  unfold BatchDb.exec
  split
  · split
    · split
      · exact .none rfl rfl rfl fun _ _ hr => by cases hr
      · exact .none rfl rfl rfl fun _ _ hr => by cases hr
    · exact .none rfl rfl rfl fun _ _ hr => by cases hr
  · split
    · rename_i e he
      split
      · exact .entry nofun
      · exact .none rfl rfl rfl fun _ _ _ => ⟨e,rfl⟩
    · refine .entry fun agentPatchId h => ?_
      cases h
      rfl
  · split
    · split
      · exact .none rfl rfl rfl fun _ _ hr => by cases hr
      · exact .none rfl rfl rfl fun _ _ hr => by cases hr
    · exact .none rfl rfl rfl fun _ _ hr => by cases hr
  · rename_i hpatch hentry heval
    exact .none rfl rfl rfl fun agentPatch attempt hr => absurd hr (hentry agentPatch attempt)

/-! ## The union counters -/

/-- No counter is behind the ids that it has given. -/
def NotBehind (unionCounters : OrderedMap ℤ ℤ) (begun : List (ℤ × ℤ)) : Prop :=
  ∀ batch ∈ begun, ∀ counter, unionCounters.value? batch.1 = some counter → batch.2 ≤ counter

section Counters
variable {unionCounters : OrderedMap ℤ ℤ} {begun begun' : List (ℤ × ℤ)} {agentConfigId counter : ℤ}

lemma NotBehind.mono (h : NotBehind unionCounters begun) (hmem : ∀ batch ∈ begun', batch ∈ begun) :
    NotBehind unionCounters begun' := fun batch hbatch => h batch (hmem batch hbatch)

/-- The next id is new. -/
lemma NotBehind.notMem (h : NotBehind unionCounters begun)
    (hcounter : unionCounters.value? agentConfigId = some counter) :
    (agentConfigId,counter+1) ∉ begun := by
  intro hmem
  have hle := h _ hmem counter hcounter
  simp only at hle
  omega

lemma NotBehind.next (h : NotBehind unionCounters begun)
    (hcounter : unionCounters.value? agentConfigId = some counter) :
    NotBehind (unionCounters.set agentConfigId (counter+1))
      ((agentConfigId,counter+1) :: begun) := by
  intro batch hbatch counter' hcounter'
  rw [OrderedMap.value?_set] at hcounter'
  split at hcounter'
  · cases hcounter'
    rename_i hsame
    obtain rfl | hmem := List.mem_cons.mp hbatch
    · exact le_refl _
    · have hle := h batch hmem counter (hsame ▸ hcounter)
      omega
  · rename_i hother
    obtain rfl | hmem := List.mem_cons.mp hbatch
    · exact absurd rfl hother
    · exact h batch hmem counter' hcounter'

end Counters

/-- Every row was stored by a batch that has begun, with an id from the counter. -/
structure BatchDb.Counted (db : BatchDb) : Prop where
  rows : ∀ row ∈ db.agentPatches.rows, (row.agentConfigId,row.unionId) ∈ db.begun
  counters : NotBehind db.unionCounters db.begun

theorem counted_of_reachable {db : BatchDb} (h : batches.Reachable db) : db.Counted := by
  refine h.invariant ?_ ?_
  · rintro db ⟨hrows,hbegun⟩
    exact ⟨fun row hrow => absurd (hrows ▸ hrow) List.not_mem_nil,
      fun batch hbatch => absurd (hbegun ▸ hbatch) List.not_mem_nil⟩
  · intro db e db' _ hi _ hexec
    cases e with
    | begins agentConfigId =>
      obtain ⟨⟨db₁,unionId₁⟩,hnext,rfl⟩ := Option.map_eq_some_iff.mp hexec
      obtain ⟨counter,hcounter,hdb⟩ := Option.map_eq_some_iff.mp hnext
      cases hdb
      exact ⟨fun row hrow => List.mem_cons_of_mem _ (hi.rows row hrow),hi.counters.next hcounter⟩
    | insertAgentPatch agentPatch =>
      simp only [batches,OtherBatch.exec] at hexec
      split at hexec
      · cases hexec
        refine ⟨fun row hrow => ?_,hi.counters⟩
        obtain hrow | hrow := List.mem_append.mp hrow
        · exact hi.rows row hrow
        · rw [List.mem_singleton.mp hrow]
          assumption
      · cases hexec
    | insertPatch patch =>
      cases hexec
      exact ⟨hi.rows,hi.counters⟩
    | insertCrashResolutionEval eval =>
      cases hexec
      exact ⟨hi.rows,hi.counters⟩

namespace PatchImporter
variable (p : PatchImporter) (unionId : ℤ) (startTime : DateTime)

/-- The entry of the patch has been asked for. -/
def Asked (bugId : String) (patch : ImportPatchResult × ℕ) (history : ImportHistory) : Prop :=
  ∃ a ∈ history, ∃ agentPatch attempt, a.1 = .agent (.insertAgentPatch agentPatch attempt) ∧
    p.IsEntry unionId startTime bugId patch agentPatch

/-- The invariant of the tables and of what the tasks were answered. -/
structure Held (db : BatchDb) (answered : String → ImportHistory) : Prop where
  own : (p.agentConfigId,unionId) ∉ db.begun
  counters : NotBehind db.unionCounters ((p.agentConfigId,unionId) :: db.begun)
  rows : ∀ row ∈ db.agentPatches.rows, (row.agentConfigId,row.unionId) ∈ db.begun ∨
    ∃ bugId patch, p.IsEntry unionId startTime bugId patch row ∧
      p.Asked unionId startTime bugId patch (answered bugId)
  distinct : db.agentPatches.rows.Pairwise fun row row' => ∀ bugId patch bugId' patch',
    p.IsEntry unionId startTime bugId patch row → p.IsEntry unionId startTime bugId' patch' row' →
      patch.2 ≠ patch'.2
  ids : ∀ bugId, ∀ agentPatchId ∈ successes (answered bugId), ∃ row ∈ db.agentPatches.rows,
    row.agentPatchId = agentPatchId ∧ ∃ patch, p.IsEntry unionId startTime bugId patch row
  nodup : ∀ bugId, (successes (answered bugId)).Nodup

section Steps
variable {p : PatchImporter} {unionId : ℤ} {startTime : DateTime} {bugId : String}
  {db db' : BatchDb} {answered : String → ImportHistory}
  {a : Answered ImageRequest ImageRequest.Answer ImageError}

lemma Asked.mono {patch : ImportPatchResult × ℕ} {history history' : ImportHistory}
    (h : p.Asked unionId startTime bugId patch history) (hmem : ∀ a ∈ history, a ∈ history') :
    p.Asked unionId startTime bugId patch history' := by
  obtain ⟨a,ha,hasked⟩ := h
  exact ⟨a,hmem a ha,hasked⟩

lemma mem_answered {b : String} (a' : Answered ImageRequest ImageRequest.Answer ImageError)
    (h : a' ∈ answered b) :
    a' ∈ Function.update answered bugId (answered bugId ++ [a]) b := by
  by_cases hb : b = bugId
  · subst hb
    rw [Function.update_self]
    exact List.mem_append_left _ h
  · rwa [Function.update_of_ne hb]

lemma successes_update (b : String) :
    successes (Function.update answered bugId (answered bugId ++ [a]) b) =
      if b = bugId then success (successes (answered b)) a else successes (answered b) := by
  by_cases hb : b = bugId
  · subst hb
    rw [Function.update_self,successes_append,if_pos rfl]
  · rw [Function.update_of_ne hb,if_neg hb]

/-- Without a new entry there is no new success. -/
lemma success_sublist {ids : List ℕ} (h : ∀ agentPatch attempt,
    a.1 = .agent (.insertAgentPatch agentPatch attempt) → ∃ e, a.2 = .error e) :
    (success ids a).Sublist ids := by
  unfold success
  split
  · obtain ⟨e,he⟩ := h _ _ rfl
    cases he
  · exact List.dropLast_sublist _
  · exact List.Sublist.refl _

/-- The rows of the import are where the task of their bug asked for them. -/
lemma Held.asked (h : p.Held unionId startTime db answered) {row : AgentPatch}
    (hrow : row ∈ db.agentPatches.rows) {patch : ImportPatchResult × ℕ}
    (hentry : p.IsEntry unionId startTime bugId patch row) :
    p.Asked unionId startTime bugId patch (answered bugId) := by
  obtain hbegun | ⟨b,q,hentry',hasked⟩ := h.rows row hrow
  · rw [hentry.agentConfigId_eq,hentry.unionId_eq] at hbegun
    exact absurd hbegun h.own
  · obtain ⟨rfl,rfl⟩ := hentry.unique hentry'
    exact hasked

/-- The number of the next entry is new. -/
lemma Held.fresh (h : p.Held unionId startTime db answered) {patch : ImportPatchResult × ℕ}
    {agentPatch : AgentPatch} (hentry : p.IsEntry unionId startTime bugId patch agentPatch)
    (hbelow : p.Below unionId startTime patch.2 (answered bugId)) {row : AgentPatch}
    (hrow : row ∈ db.agentPatches.rows) {b : String} {q : ImportPatchResult × ℕ}
    (hentry' : p.IsEntry unionId startTime b q row) : q.2 ≠ patch.2 := by
  intro heq
  obtain ⟨rfl,rfl⟩ := hentry'.eq_of_number hentry heq
  obtain ⟨a,ha,stored,attempt,hr,hstored⟩ := h.asked hrow hentry'
  exact lt_irrefl _ (hbelow a ha stored attempt hr _ _ hstored)

/-- A request that stores nothing. -/
lemma Held.plain (h : p.Held unionId startTime db answered)
    (hsame : db'.agentPatches = db.agentPatches)
    (hcounters : db'.unionCounters = db.unionCounters) (hbegun : db'.begun = db.begun)
    (hraises : ∀ agentPatch attempt,
      a.1 = .agent (.insertAgentPatch agentPatch attempt) → ∃ e, a.2 = .error e) :
    p.Held unionId startTime db' (Function.update answered bugId (answered bugId ++ [a])) := by
  have hsublist : ∀ b,
      (successes (Function.update answered bugId (answered bugId ++ [a]) b)).Sublist
        (successes (answered b)) := by
    intro b
    rw [successes_update]
    split
    · exact success_sublist hraises
    · exact List.Sublist.refl _
  refine ⟨?_,?_,?_,?_,?_,?_⟩
  · rw [hbegun]
    exact h.own
  · rw [hbegun,hcounters]
    exact h.counters
  · rw [hsame,hbegun]
    intro row hrow
    obtain hrow | ⟨b,q,hentry,hasked⟩ := h.rows row hrow
    · exact .inl hrow
    · exact .inr ⟨b,q,hentry,hasked.mono mem_answered⟩
  · rw [hsame]
    exact h.distinct
  · rw [hsame]
    intro b id hid
    exact h.ids b id ((hsublist b).subset hid)
  · exact fun b => (h.nodup b).sublist (hsublist b)

/-- The task of the bug stores the entry of its next patch; without an answer no id is listed. -/
lemma Held.entry (h : p.Held unionId startTime db answered) {patch : ImportPatchResult × ℕ}
    {agentPatch : AgentPatch} {attempt : ℕ} {x : Except ImageError ℕ}
    (hentry : p.IsEntry unionId startTime bugId patch agentPatch)
    (hbelow : p.Below unionId startTime patch.2 (answered bugId))
    (hid : ∀ agentPatchId, x = .ok agentPatchId → agentPatchId = db.agentPatches.last+1) :
    p.Held unionId startTime (db.insertAgentPatch agentPatch)
      (Function.update answered bugId
        (answered bugId ++ [⟨.agent (.insertAgentPatch agentPatch attempt),x⟩])) := by
  have hnew := hentry.withId (db.agentPatches.last+1)
  have hrows : (db.insertAgentPatch agentPatch).agentPatches.rows =
      db.agentPatches.rows ++ [{ agentPatch with agentPatchId := db.agentPatches.last+1 }] := rfl
  have hsuccesses : ∀ b, ∀ id ∈ successes (Function.update answered bugId
      (answered bugId ++ [⟨.agent (.insertAgentPatch agentPatch attempt),x⟩]) b),
      id ∈ successes (answered b) ∨ b = bugId ∧ id = db.agentPatches.last+1 := by
    intro b id hmem
    rw [successes_update] at hmem
    split at hmem
    · cases x with
      | error e => exact .inl hmem
      | ok agentPatchId =>
        obtain hmem | hmem := List.mem_append.mp hmem
        · exact .inl hmem
        · exact .inr ⟨‹_›,(List.mem_singleton.mp hmem).trans (hid _ rfl)⟩
    · exact .inl hmem
  refine ⟨h.own,h.counters,?_,?_,?_,?_⟩
  · intro row hrow
    rw [hrows] at hrow
    obtain hrow | hrow := List.mem_append.mp hrow
    · obtain hrow | ⟨b,q,hentry',hasked⟩ := h.rows row hrow
      · exact .inl hrow
      · exact .inr ⟨b,q,hentry',hasked.mono mem_answered⟩
    · rw [List.mem_singleton.mp hrow]
      refine .inr ⟨bugId,patch,hnew,?_⟩
      rw [Function.update_self]
      exact ⟨_,List.mem_append_right _ (List.mem_singleton_self _),agentPatch,attempt,rfl,hentry⟩
  · rw [hrows]
    refine List.pairwise_append.mpr ⟨h.distinct,List.pairwise_singleton _ _,?_⟩
    intro row hrow row' hrow' b q b' q' hb hb'
    rw [List.mem_singleton.mp hrow'] at hb'
    obtain ⟨rfl,rfl⟩ := hnew.unique hb'
    exact h.fresh hentry hbelow hrow hb
  · intro b id hmem
    rw [hrows]
    obtain hmem | ⟨rfl,rfl⟩ := hsuccesses b id hmem
    · obtain ⟨row,hrow,hrowId⟩ := h.ids b id hmem
      exact ⟨row,List.mem_append_left _ hrow,hrowId⟩
    · exact ⟨_,List.mem_append_right _ (List.mem_singleton_self _),rfl,patch,hnew⟩
  · intro b
    rw [successes_update]
    split
    · cases x with
      | error e => exact h.nodup b
      | ok agentPatchId =>
        -- the id is larger than those before it
        obtain rfl := hid _ rfl
        refine List.nodup_append.mpr ⟨h.nodup b,List.nodup_singleton _,?_⟩
        intro id hmem id' hmem' heq
        obtain ⟨row,hrow,hrowId,-⟩ := h.ids b id hmem
        have hle := db.agentPatches.le_last row hrow
        rw [List.mem_singleton] at hmem'
        omega
    · exact h.nodup b

/-- Another batch gets the next union id of its configuration. -/
lemma Held.begins (h : p.Held unionId startTime db answered) {agentConfigId counter : ℤ}
    (hcounter : db.unionCounters.value? agentConfigId = some counter) :
    p.Held unionId startTime
      { db with
        unionCounters := db.unionCounters.set agentConfigId (counter+1)
        begun := (agentConfigId,counter+1) :: db.begun } answered := by
  refine ⟨?_,?_,?_,h.distinct,h.ids,h.nodup⟩
  · intro hmem
    obtain heq | hmem := List.mem_cons.mp hmem
    · exact h.counters.notMem hcounter (heq ▸ List.mem_cons_self)
    · exact h.own hmem
  · refine (h.counters.next hcounter).mono fun batch hbatch => ?_
    simp only [List.mem_cons] at hbatch ⊢
    tauto
  · intro row hrow
    exact (h.rows row hrow).imp_left (List.mem_cons_of_mem _)

/-- Another batch stores an entry under its own union id. -/
lemma Held.foreign (h : p.Held unionId startTime db answered) {agentPatch : AgentPatch}
    (hbegun : (agentPatch.agentConfigId,agentPatch.unionId) ∈ db.begun) :
    p.Held unionId startTime (db.insertAgentPatch agentPatch) answered := by
  have hrows : (db.insertAgentPatch agentPatch).agentPatches.rows =
      db.agentPatches.rows ++ [{ agentPatch with agentPatchId := db.agentPatches.last+1 }] := rfl
  refine ⟨h.own,h.counters,?_,?_,?_,h.nodup⟩
  · intro row hrow
    rw [hrows] at hrow
    obtain hrow | hrow := List.mem_append.mp hrow
    · exact h.rows row hrow
    · rw [List.mem_singleton.mp hrow]
      exact .inl hbegun
  · rw [hrows]
    refine List.pairwise_append.mpr ⟨h.distinct,List.pairwise_singleton _ _,?_⟩
    intro row hrow row' hrow' b q b' q' hb hb'
    rw [List.mem_singleton.mp hrow'] at hb'
    have hown := hb'.withoutId
    rw [hown.agentConfigId_eq,hown.unionId_eq] at hbegun
    exact absurd hbegun h.own
  · intro b id hmem
    obtain ⟨row,hrow,hrowId⟩ := h.ids b id hmem
    exact ⟨row,List.mem_append_left _ hrow,hrowId⟩

/-- What the other batches do. -/
lemma Held.other (h : p.Held unionId startTime db answered) {e : OtherBatch}
    (hexec : e.exec db = some db') : p.Held unionId startTime db' answered := by
  cases e with
  | begins agentConfigId =>
    obtain ⟨⟨db₁,unionId₁⟩,hnext,rfl⟩ := Option.map_eq_some_iff.mp hexec
    obtain ⟨counter,hcounter,hdb⟩ := Option.map_eq_some_iff.mp hnext
    cases hdb
    exact h.begins hcounter
  | insertPatch patch =>
    cases hexec
    exact ⟨h.own,h.counters,h.rows,h.distinct,h.ids,h.nodup⟩
  | insertAgentPatch agentPatch =>
    simp only [OtherBatch.exec] at hexec
    split at hexec
    · cases hexec
      exact h.foreign ‹_›
    · cases hexec
  | insertCrashResolutionEval eval =>
    cases hexec
    exact ⟨h.own,h.counters,h.rows,h.distinct,h.ids,h.nodup⟩

/-- No batch before has the union id. -/
lemma notMem_begun {earlier : BatchDb} (hcounted : earlier.Counted)
    (hunion : earlier.incrementAndGetUnionCounter p.agentConfigId = some (db,unionId)) :
    (p.agentConfigId,unionId) ∉ earlier.begun := by
  obtain ⟨counter,hcounter,hdb⟩ := Option.map_eq_some_iff.mp hunion
  cases hdb
  exact hcounted.counters.notMem hcounter

/-- The union id is new where the import begins. -/
lemma held_of_counted {earlier : BatchDb} (hcounted : earlier.Counted)
    (hunion : earlier.incrementAndGetUnionCounter p.agentConfigId = some (db,unionId)) :
    p.Held unionId startTime db fun _ => [] := by
  have hown := notMem_begun hcounted hunion
  obtain ⟨counter,hcounter,hdb⟩ := Option.map_eq_some_iff.mp hunion
  cases hdb
  have hnone : ∀ row ∈ earlier.agentPatches.rows, ∀ bugId patch,
      ¬p.IsEntry (counter+1) startTime bugId patch row := by
    intro row hrow bugId patch hentry
    have hbegun := hcounted.rows row hrow
    rw [hentry.agentConfigId_eq,hentry.unionId_eq] at hbegun
    exact hown hbegun
  refine ⟨hown,hcounted.counters.next hcounter,fun row hrow => .inl (hcounted.rows row hrow),?_,
    fun _ _ hid => absurd hid List.not_mem_nil,fun _ => List.nodup_nil⟩
  · exact List.pairwise_of_forall_mem_list fun row hrow row' _ bugId patch _ _ hentry =>
      absurd hentry (hnone row hrow bugId patch)

/-- One request of a task that follows its protocol. -/
lemma Held.exec (h : p.Held unionId startTime db answered) {r : ImageRequest}
    {x : Except ImageError r.Answer}
    (hallowed : p.allowed unionId startTime bugId (answered bugId) r) (hs : db.Stores r db' x) :
    p.Held unionId startTime db'
      (Function.update answered bugId (answered bugId ++ [⟨r,x⟩])) := by
  cases hs with
  | entry hid =>
    obtain ⟨patch,hentry,hbelow⟩ := hallowed
    exact h.entry hentry hbelow hid
  | none hsame hcounters hbegun hraises => exact h.plain hsame hcounters hbegun hraises

end Steps

section Runs
variable {p : PatchImporter} {unionId : ℤ} {startTime : DateTime} {earlier db : BatchDb}
  {s : ImportState}

lemma follows_body (hvalid : p.Validated) (bugId : String) :
    ((p.importGroup unionId startTime).body bugId).Follows
      (historyProtocol (p.allowed unionId startTime bugId)) (p.Ends bugId) [] := by
  change (if bugId ∈ p.bugIds then _ else _ : ImageCode (List (ℕ ⊕ String))).Follows _ _ []
  split
  · exact follows_importBugPatches hvalid ‹_›
  · exact ⟨rfl,Nat.zero_le _⟩

/-- Every state of an import keeps the invariant. -/
theorem held_of_reachable (hvalid : p.Validated) (hcounted : earlier.Counted)
    (hunion : earlier.incrementAndGetUnionCounter p.agentConfigId = some (db,unionId))
    (hs : ((p.importGroup unionId startTime).machine db).Reachable s) :
    p.Held unionId startTime s.shared s.answered := by
  refine SharedGroup.invariant_of_reachable (follows_body hvalid) (held_of_counted hcounted hunion)
    ?_ (fun db answered e db' h hexec => h.other hexec) hs
  intro db answered bugId r reply db' x h hallowed hexec
  have hstores := db.stores_exec reply r
  rw [Option.some.inj hexec] at hstores
  exact h.exec hallowed hstores

end Runs

/-! ## The numbers, the query and the sums -/

section Results
variable {p : PatchImporter} {unionId : ℤ} {startTime : DateTime} {earlier db : BatchDb}
  {answered : String → ImportHistory}

theorem Held.numbered (h : p.Held unionId startTime db answered) :
    p.Numbered unionId startTime db where
  entries row hrow := by
    obtain hbegun | ⟨bugId,patch,hentry,-⟩ := h.rows row hrow
    · exact .inl hbegun
    · exact .inr ⟨bugId,patch,hentry⟩
  distinct := by
    refine h.distinct.imp fun hne bugId patch bugId' patch' hentry hentry' heq => ?_
    exact hne bugId patch bugId' patch' hentry hentry' (hentry.number_eq_of_time hentry' heq)
  ordered row row' bugId patch bugId' patch' hentry hentry' :=
    (hentry.time_lt_iff hentry').trans (hentry.number_lt_iff hentry')
  byId row row' bugId patch patch' hentry hentry' hlt :=
    id_le_of_number hentry.2.1 hentry'.2.1 ((hentry.time_lt_iff hentry').mp hlt)

theorem Held.ownUnion {start : BatchDb} (h : p.Held unionId startTime db answered)
    (hcounted : earlier.Counted)
    (hunion : earlier.incrementAndGetUnionCounter p.agentConfigId = some (start,unionId)) :
    p.OwnUnion unionId earlier db where
  unused row hrow hconfig hsame := by
    have hbegun := hcounted.rows row hrow
    rw [hconfig,hsame] at hbegun
    exact notMem_begun hcounted hunion hbegun
  others := h.own

/-- The texts of the times sort as the times do, which follow the numbers. -/
theorem Held.orderedById (h : p.Held unionId startTime db answered)
    (hnaive : startTime.utcoffset = none) : p.OrderedById unionId startTime db := by
  intro bugIds bugId hids
  have hdistinct : (db.orderedRows p.agentConfigId bugIds).Pairwise fun row row' =>
      ∀ bugId patch bugId' patch', p.IsEntry unionId startTime bugId patch row →
        p.IsEntry unionId startTime bugId' patch' row' → patch.2 ≠ patch'.2 := by
    refine ((perm_sortOn _).pairwise_iff ?_).mpr (h.distinct.sublist List.filter_sublist)
    intro row row' hne bugId patch bugId' patch' hentry hentry'
    exact (hne bugId' patch' bugId patch hentry' hentry).symm
  refine (((pairwise_sortOn _).and hdistinct).sublist List.filter_sublist).imp ?_
  rintro row row' ⟨hle,hne⟩ patch patch' hentry hentry'
  have hlate : row.addedTime.isoformat ≤ row'.addedTime.isoformat := by
    obtain hlt | ⟨-,hle⟩ := hle
    · simp only [hentry.bugId_eq,hentry'.bugId_eq] at hlt
      exact absurd hlt (lt_irrefl _)
    · exact hle
  obtain hlt | heq | hgt := Nat.lt_trichotomy patch.2 patch'.2
  · exact id_lt_of_number hids hentry.2.1 hentry'.2.1 hlt
  · exact absurd heq (hne bugId patch bugId patch' hentry hentry')
  · have hnaive₁ := (utcoffset_addSeconds hentry.addedTime_eq).trans hnaive
    have hnaive₂ := (utcoffset_addSeconds hentry'.addedTime_eq).trans hnaive
    have hearlier := (isoformat_lt_iff hnaive₂ hnaive₁).mpr ((hentry'.time_lt_iff hentry).mpr hgt)
    exact absurd hearlier (not_lt.mpr hlate)

end Results

section Sums
variable {p : PatchImporter} {unionId : ℤ} {startTime : DateTime} {db : BatchDb}
  {answered : String → ImportHistory} {s : ImportState}

lemma forall₂_of_mapM {α β : Type} {f : α → Option β} {as : List α} {bs : List β}
    (h : as.mapM f = some bs) : List.Forall₂ (fun a b => f a = some b) as bs := by
  induction as generalizing bs with
  | nil =>
    cases h
    exact .nil
  | cons a as ih =>
    rw [List.mapM_cons] at h
    obtain ⟨b,hb,h⟩ := Option.bind_eq_some_iff.mp h
    obtain ⟨bs',hbs,h⟩ := Option.bind_eq_some_iff.mp h
    cases h
    exact .cons hb (ih hbs)

/-- What the tasks have returned, when all have. -/
lemma forall₂_ends (hfollowing : SharedGroup.Following (p.allowed unionId startTime) p.Ends s)
    {bugIds : List String} {results : List (List (ℕ ⊕ String))}
    (h : bugIds.mapM (fun bugId => returned? (s.rest bugId)) = some results) :
    List.Forall₂ (fun bugId result => p.Ends bugId (s.answered bugId) (.ok result)) bugIds
      results := by
  refine (forall₂_of_mapM h).imp fun bugId result hreturned => ?_
  unfold returned? at hreturned
  split at hreturned
  · cases hreturned
    exact hfollowing.ended ‹_›
  · cases hreturned

lemma listed_of_ends {bugIds : List String} {results : List (List (ℕ ⊕ String))}
    (h : List.Forall₂ (fun bugId result => p.Ends bugId (answered bugId) (.ok result)) bugIds
      results) :
    results.flatten.filterMap Sum.getLeft? =
        bugIds.flatMap (fun bugId => successes (answered bugId)) ∧
      (results.flatten.filterMap Sum.getLeft?).length ≤
        (bugIds.map fun bugId => (p.patches bugId).length).sum := by
  induction h with
  | nil => exact ⟨rfl,le_refl _⟩
  | cons hone _ ih =>
    rw [List.flatten_cons,List.filterMap_append,List.flatMap_cons,List.map_cons,List.sum_cons,
      List.length_append,hone.1]
    exact ⟨congrArg _ ih.1,Nat.add_le_add hone.2 ih.2⟩

/-- The sum over the dictionary is the sum over the sorted bugs. -/
lemma sum_patches (p : PatchImporter) :
    (p.bugIds.map fun bugId => (p.patches bugId).length).sum =
      (p.results.rows.map fun entry => entry.2.length).sum := by
  have hperm : p.bugIds.Perm (p.results.rows.map Prod.fst) := List.mergeSort_perm _ _
  rw [(hperm.map _).sum_eq,List.map_map]
  refine congrArg List.sum (List.map_congr_left fun entry hentry => ?_)
  have hfound : p.results.get? entry.1 = some entry := Table.get?_eq_some.mpr ⟨hentry,rfl⟩
  simp [patches,OrderedMap.value?,hfound]

/-- The ids of two tasks are of different rows. -/
lemma Held.nodup_successes (h : p.Held unionId startTime db answered) :
    (p.bugIds.flatMap fun bugId => successes (answered bugId)).Nodup := by
  refine List.nodup_flatMap.mpr ⟨fun bugId _ => h.nodup bugId,?_⟩
  refine (pairwise_bugIds p).imp fun {bugId bugId'} hlt id hid hid' => ?_
  obtain ⟨row,hrow,hrowId,patch,hentry⟩ := h.ids bugId id hid
  obtain ⟨row',hrow',hrowId',patch',hentry'⟩ := h.ids bugId' id hid'
  have hsame : row = row' := by
    have hfound := Table.get?_eq_some.mpr ⟨hrow,hrowId⟩
    rw [Table.get?_eq_some.mpr ⟨hrow',hrowId'⟩] at hfound
    exact (Option.some.inj hfound).symm
  subst hsame
  exact absurd (hentry.bugId_eq ▸ hentry'.bugId_eq) (ne_of_lt hlt)

/-- The result of an import that has ended. -/
theorem Held.conserves (h : p.Held unionId startTime s.shared s.answered)
    (hfollowing : SharedGroup.Following (p.allowed unionId startTime) p.Ends s)
    {result : ImportResult} (hfinished : p.finished s = some result) :
    p.Conserves unionId startTime s result := by
  obtain ⟨results,hresults,rfl⟩ := Option.map_eq_some_iff.mp hfinished
  obtain ⟨hlisted,hlength⟩ := listed_of_ends (forall₂_ends hfollowing hresults)
  rw [sum_patches] at hlength
  have htotal : (p.importResult results).totalPatches =
      ((p.results.rows.map fun entry => entry.2.length).sum : ℕ) := by
    rw [Nat.cast_list_sum,List.map_map]
    rfl
  have hids : (p.importResult results).agentPatchIds =
      p.bugIds.flatMap fun bugId => successes (s.answered bugId) := hlisted
  refine ⟨add_sub_cancel _ _,?_,rfl,hids,?_,?_⟩
  · change 0 ≤ (p.importResult results).totalPatches-
      ((results.flatten.filterMap Sum.getLeft?).length : ℤ)
    rw [htotal]
    omega
  · rw [hids]
    exact h.nodup_successes
  · intro id hid
    obtain ⟨bugId,-,hid⟩ := List.mem_flatMap.mp (hids ▸ hid)
    obtain ⟨row,hrow,hrowId,patch,hentry⟩ := h.ids bugId id hid
    exact ⟨row,hrow,hrowId,bugId,patch,hentry⟩

/-- In every state of an import of validated data, beside any other batches and whatever fails: its
entries have distinct times, in the order of the bugs and of the ids; the query gives them in this
order; the union id is its own; and where the import ends, the result adds up and lists what was
stored successfully. A task that raises was cancelled, or could not clean up. -/
theorem import_numbered (hvalid : p.Validated) {earlier : BatchDb}
    (hearlier : batches.Reachable earlier)
    (hunion : earlier.incrementAndGetUnionCounter p.agentConfigId = some (db,unionId))
    (hnaive : startTime.utcoffset = none)
    (hs : ((p.importGroup unionId startTime).machine db).Reachable s) :
    p.Numbered unionId startTime s.shared ∧ p.OrderedById unionId startTime s.shared ∧
      p.OwnUnion unionId earlier s.shared ∧
      (∀ result, p.finished s = some result → p.Conserves unionId startTime s result) ∧
      ∀ bugId e, s.rest bugId = .raise e → Broken (s.answered bugId) := by
  have hcounted := counted_of_reachable hearlier
  have hheld := held_of_reachable hvalid hcounted hunion hs
  have hfollowing := SharedGroup.following_of_reachable (follows_body hvalid) hs
  exact ⟨hheld.numbered,hheld.orderedById hnaive,hheld.ownUnion hcounted hunion,
    fun result hfinished => hheld.conserves hfollowing hfinished,
    fun bugId e hraise => hfollowing.raised hraise⟩

end Sums

/-! ## Two bugs with two patches each -/

def importPatch (id : ℤ) (patchContent : String) (crashResolved : Option Bool) :
    ImportPatchResult :=
  ⟨id,patchContent,none,some 60,none,none,none,.empty,crashResolved⟩

/-- The data is not in the order of the names and ids. The runs of two patches are said to have
resolved the crash. -/
def twoBugs : PatchImporter where
  dockerPrefix := "live-kbench"
  preserveKenvBase := false
  agentConfigId := 1
  baseCommit := .parentCommit
  crashResolutionEvaluated := true
  results := ⟨[
    ("B",[importPatch 9 "diff --git a/mm/slab.c" (some true),importPatch 2 "broken" none]),
    ("A",[importPatch 5 "diff --git a/mm/slub.c" none,
      importPatch 3 "diff --git a/mm/mmap.c" (some true)])],by decide⟩
  bugCache := ⟨[("A",Kcache.openBug "A"),("B",Kcache.openBug "B")],by decide⟩
  kcacheCache := ⟨["A","B"].map fun bugId => (bugId,Kcache.newKcache bugId .parentCommit
    KArenaWeb.midJanuary "00000001" .success ""),by decide⟩
  filterBinaryFilesFromPatch := id

/-- The configuration has had two batches. -/
def twoBatches : BatchDb := ⟨.empty,.empty,.empty,.singleton (1,2),[(1,2),(1,1)]⟩

/-- Docker and the database answer; one of the patches does not apply. -/
def importAnswers : ImportReply where
  answers
    | .agent (.docker _) => .ok ⟨0,"",""⟩
    | .agent (.analyze analyzer _) =>
      if analyzer.patch = some "broken" then .error (.raised (.exception "RuntimeError" ""))
      else .ok ⟨analyzer.patch.getD "",.success,"",none,none,1⟩
    | .agent (.insertPatch _ _) => .ok 0
    | .agent (.insertAgentPatch _ _) => .ok 0
    | .agent _ => .error (.agent (.other "OSError" ""))
    | .eval (.insertCrashResolutionEval _) => .ok 0
    | .eval _ => .error (.raised (.exception "OSError" ""))
  effect := true

/-- The tasks of the two bugs take turns while a batch begins and stores an entry. -/
def takingTurns : List (SharedGroup.Event String ImportReply OtherBatch) :=
  let both := [.resume "A" importAnswers,.resume "B" importAnswers]
  let entry := twoBugs.agentPatchOf "B" (importPatch 1 "" none) 4 KArenaWeb.midJanuary 7
  both ++ [.other (.begins 1)] ++ both ++ both ++ both ++ [.other (.insertAgentPatch entry)] ++
    both ++ both ++ both ++ both ++ [.resume "A" importAnswers,.resume "A" importAnswers]

section TwoBugs
open List.MergeSort.Internal

lemma bugIds_twoBugs : twoBugs.bugIds = ["A","B"] := by
  have hle : ¬"B" ≤ "A" := by decide
  simp [bugIds,twoBugs,List.mergeSort,splitInTwo,hle]

lemma sortedPatches_pair {patch patch' : ImportPatchResult} (h : patch'.id < patch.id) :
    sortedPatches [patch,patch'] = [patch',patch] := by
  have hle : ¬patch.id ≤ patch'.id := not_le.mpr h
  simp [sortedPatches,List.mergeSort,splitInTwo,hle]

end TwoBugs

lemma offset_twoBugs : twoBugs.offset "A" = 0 ∧ twoBugs.offset "B" = 2 := by
  unfold offset
  rw [bugIds_twoBugs]
  decide +kernel

/-- The patches of a bug in their order, with their numbers. -/
def inOrder (bugId : String) : List (ImportPatchResult × ℕ) :=
  if bugId = "A" then [(importPatch 3 "diff --git a/mm/mmap.c" (some true),0),
    (importPatch 5 "diff --git a/mm/slub.c" none,1)]
  else [(importPatch 2 "broken" none,2),(importPatch 9 "diff --git a/mm/slab.c" (some true),3)]

lemma numbered_twoBugs {bugId : String} (h : bugId ∈ ["A","B"]) :
    twoBugs.numbered bugId = inOrder bugId := by
  obtain ⟨hA,hB⟩ := offset_twoBugs
  simp only [List.mem_cons,List.not_mem_nil,or_false] at h
  obtain rfl | rfl := h
  · rw [numbered,hA]
    exact congrArg (List.zipIdx · 0) (sortedPatches_pair (by decide))
  · rw [numbered,hB]
    exact congrArg (List.zipIdx · 2) (sortedPatches_pair (by decide))

lemma validated_twoBugs : twoBugs.Validated := by
  intro bugId hmem
  simp only [bugIds_twoBugs,List.mem_cons,List.not_mem_nil,or_false] at hmem
  obtain rfl | rfl := hmem
  · exact ⟨⟨_,rfl⟩,_,rfl⟩
  · exact ⟨⟨_,rfl⟩,_,rfl⟩

/-- The tasks, with their patches in order. -/
lemma body_twoBugs (unionId : ℤ) (startTime : DateTime) (bugId : String) :
    (twoBugs.importGroup unionId startTime).body bugId =
      if bugId ∈ ["A","B"] then
        withCleanup
          (tryExcept
            (do
              AgentCode.lift (twoBugs.imageManager.ensureKenvImage bugId)
              twoBugs.importEach bugId unionId startTime (inOrder bugId) [])
            fun e => return [setupError bugId e])
          (AgentCode.lift (twoBugs.imageManager.cleanupImages bugId []))
      else return [] := by
  change (if bugId ∈ twoBugs.bugIds then withCleanup (tryExcept (do
      AgentCode.lift (twoBugs.imageManager.ensureKenvImage bugId)
      twoBugs.importEach bugId unionId startTime (twoBugs.numbered bugId) []) _) _ else _) = _
  rw [bugIds_twoBugs]
  split
  · rw [numbered_twoBugs ‹_›]
  · rfl

lemma reachable_twoBatches : batches.Reachable twoBatches :=
  ((Machine.ReachableBy.start (M := batches)
    (s := ⟨.empty,.empty,.empty,.singleton (1,0),[]⟩) ⟨rfl,rfl⟩).next (e := .begins 1) trivial
      rfl).next (e := .begins 1) trivial rfl

/-- The entry of the other batch comes second; the patch that does not apply is counted as failed. -/
theorem import_numbered_twoBugs : ∃ db s result,
    twoBatches.incrementAndGetUnionCounter twoBugs.agentConfigId = some (db,3) ∧
      ((twoBugs.importGroup 3 KArenaWeb.midJanuary).machine db).Reachable s ∧
      twoBugs.finished s = some result ∧ result.agentPatchIds = [1,4,3] ∧
      result.failedPatches = 1 ∧ twoBugs.Numbered 3 KArenaWeb.midJanuary s.shared ∧
      twoBugs.OrderedById 3 KArenaWeb.midJanuary s.shared ∧
      twoBugs.OwnUnion 3 twoBatches s.shared ∧
      twoBugs.Conserves 3 KArenaWeb.midJanuary s result := by
  let db : BatchDb := ⟨.empty,.empty,.empty,.singleton (1,3),[(1,2),(1,1)]⟩
  have hunion : twoBatches.incrementAndGetUnionCounter twoBugs.agentConfigId = some (db,3) := rfl
  obtain ⟨s,hs,hp⟩ := Machine.exists_of_replay
    ((twoBugs.importGroup 3 KArenaWeb.midJanuary).machine db) (fun _ _ => True) takingTurns
    (fun s => (twoBugs.finished s).any fun result =>
      result.agentPatchIds = [1,4,3] ∧ result.failedPatches = 1) rfl
    (by
      simp only [SharedGroup.machine,SharedGroup.begun,finished,bugIds_twoBugs]
      rw [funext (body_twoBugs 3 KArenaWeb.midJanuary)]
      decide +kernel)
  obtain ⟨result,hfinished,hresult⟩ := (Option.any_eq_true _ _).mp hp
  obtain ⟨hids,hfailed⟩ := of_decide_eq_true hresult
  obtain ⟨hnumbered,hordered,hown,hconserves,-⟩ :=
    import_numbered validated_twoBugs reachable_twoBatches hunion rfl hs
  exact ⟨db,s,result,hunion,hs,hfinished,hids,hfailed,hnumbered,hordered,hown,
    hconserves result hfinished⟩

end PatchImporter
end LiveKBench.KArenaPipeline
