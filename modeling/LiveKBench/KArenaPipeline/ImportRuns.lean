import LiveKBench.KArenaPipeline.PatchImporter
import LiveKBench.Lib.SharedGroup
import LiveKBench.Lib.FirstSeen
import Mathlib.Data.String.Basic

/-! Imports of patches into the database, beside the other batches that store patches. An import
takes the next union id of its configuration; then a task for each bug stores the patches of the
bug, with times that are numbered through the whole import. -/
namespace LiveKBench.KArenaPipeline
open KArenaWeb (DateTime)
open KArenaDb
open Lib

/-! ## The database -/

/-- The tables of an import, with the union counters of the configurations. `begun` holds the other
batches that have got a union id, each with its configuration. -/
structure BatchDb where
  patches : AutoTable Patch.patchId
  agentPatches : AutoTable AgentPatch.agentPatchId
  evaluations : AutoTable PatchCrashResolutionEvaluation.evalId
  unionCounters : OrderedMap ℤ ℤ
  begun : List (ℤ × ℤ)

namespace BatchDb
variable (db : BatchDb)

/-- `increment_and_get_union_counter`; without the configuration there is no row to return. -/
def incrementAndGetUnionCounter (agentConfigId : ℤ) : Option (BatchDb × ℤ) :=
  (db.unionCounters.value? agentConfigId).map fun counter =>
    ({ db with unionCounters := db.unionCounters.set agentConfigId (counter+1) },counter+1)

def insertPatch (patch : Patch) : BatchDb :=
  { db with
    patches := db.patches.append (fun patchId => { patch with patchId }) patch.key_stored }

def insertAgentPatch (agentPatch : AgentPatch) : BatchDb :=
  { db with
    agentPatches := db.agentPatches.append (fun agentPatchId => { agentPatch with agentPatchId })
      agentPatch.key_stored }

def insertCrashResolutionEval (eval : PatchCrashResolutionEvaluation) : BatchDb :=
  { db with
    evaluations := db.evaluations.append (fun evalId => { eval with evalId }) eval.key_stored }

/-- The rows of the query, before they are made tuples. -/
def orderedRows (agentConfigId : ℤ) (bugIds : List String) : List AgentPatch :=
  sortOn (fun ap => (ap.bugId,ap.addedTime.isoformat))
    (db.agentPatches.rows.filter fun ap => ap.agentConfigId = agentConfigId && ap.bugId ∈ bugIds)

def getAgentPatchesOrdered (agentConfigId : ℤ) (bugIds : List String) :
    List (String × ℤ × DateTime) :=
  if bugIds = [] then []
  else (db.orderedRows agentConfigId bugIds).map fun ap => (ap.bugId,ap.patchId,ap.addedTime)

end BatchDb

/-- What the other batches do to the tables. -/
inductive OtherBatch
  | begins (agentConfigId : ℤ)
  | insertPatch (patch : Patch)
  | insertAgentPatch (agentPatch : AgentPatch)
  | insertCrashResolutionEval (eval : PatchCrashResolutionEvaluation)

/-- A batch stores patches under the union id that it has got. -/
def OtherBatch.exec : OtherBatch → BatchDb → Option BatchDb
  | .begins agentConfigId,db =>
    (db.incrementAndGetUnionCounter agentConfigId).map fun (db,unionId) =>
      { db with begun := (agentConfigId,unionId) :: db.begun }
  | .insertPatch patch,db => some (db.insertPatch patch)
  | .insertAgentPatch agentPatch,db =>
    if (agentPatch.agentConfigId,agentPatch.unionId) ∈ db.begun then
      some (db.insertAgentPatch agentPatch)
    else none
  | .insertCrashResolutionEval eval,db => some (db.insertCrashResolutionEval eval)

/-- The batches of a database, from before its first one. -/
def batches : Machine BatchDb OtherBatch where
  init db := db.agentPatches.rows = [] ∧ db.begun = []
  step db batch := batch.exec db

/-- What comes from outside when an await ends: the answer, but for the ids that the database hands
out, and whether an insertion that raises has taken effect all the same. -/
structure ImportReply where
  answers : (r : ImageRequest) → Except ImageError r.Answer
  effect : Bool

def BatchDb.exec (db : BatchDb) (reply : ImportReply) :
    (r : ImageRequest) → BatchDb × Except ImageError r.Answer
  | .agent (.insertPatch patch attempt) =>
    match reply.answers (.agent (.insertPatch patch attempt)) with
    | .error e => (if reply.effect then db.insertPatch patch else db,.error e)
    | .ok _ => (db.insertPatch patch,.ok (db.patches.last+1))
  | .agent (.insertAgentPatch agentPatch attempt) =>
    match reply.answers (.agent (.insertAgentPatch agentPatch attempt)) with
    | .error e => (if reply.effect then db.insertAgentPatch agentPatch else db,.error e)
    | .ok _ => (db.insertAgentPatch agentPatch,.ok (db.agentPatches.last+1))
  | .eval (.insertCrashResolutionEval eval) =>
    match reply.answers (.eval (.insertCrashResolutionEval eval)) with
    | .error e => (if reply.effect then db.insertCrashResolutionEval eval else db,.error e)
    | .ok _ => (db.insertCrashResolutionEval eval,.ok (db.evaluations.last+1))
  | r => (db,reply.answers r)

/-! ## An import -/

structure ImportResult where
  totalPatches : ℤ
  successfulPatches : ℤ
  failedPatches : ℤ
  errors : List String
  agentPatchIds : List ℕ

/-- What a task of the import has asked for, with the answers. -/
abbrev ImportHistory : Type := List (Answered ImageRequest ImageRequest.Answer ImageError)

abbrev ImportState : Type :=
  SharedGroup.State BatchDb String ImageRequest ImageRequest.Answer ImageError (List (ℕ ⊕ String))

namespace PatchImporter
variable (p : PatchImporter)

/-- What `_validate` makes sure of: each bug is in both caches. -/
def Validated : Prop :=
  ∀ bugId ∈ p.bugIds, (∃ bug, p.bugCache.value? bugId = some bug) ∧
    ∃ kcache, p.kcacheCache.value? bugId = some kcache

/-- The tasks of `import_patches`. -/
def importGroup (unionId : ℤ) (startTime : DateTime) :
    SharedGroup BatchDb String ImageRequest ImageRequest.Answer ImageError (List (ℕ ⊕ String))
      ImportReply OtherBatch where
  body bugId :=
    if bugId ∈ p.bugIds then
      p.importBugPatches bugId (p.patches bugId) unionId startTime (p.offset bugId)
    else return []
  exec _ r db reply := some (db.exec reply r)
  other := OtherBatch.exec

/-- The sum over the results, and what the tasks returned. -/
def importResult (results : List (List (ℕ ⊕ String))) : ImportResult :=
  let agentPatchIds := results.flatten.filterMap Sum.getLeft?
  let total : ℤ := (p.results.rows.map fun entry => entry.2.length).sum
  { totalPatches := total
    successfulPatches := agentPatchIds.length
    failedPatches := total-agentPatchIds.length
    errors := results.flatten.filterMap Sum.getRight?
    agentPatchIds }

/-- What a task has returned. -/
def returned? : ImageCode (List (ℕ ⊕ String)) → Option (List (ℕ ⊕ String))
  | .done results => some results
  | _ => none

/-- The end of `import_patches`, once every task has returned. -/
def finished (s : ImportState) : Option ImportResult :=
  (p.bugIds.mapM fun bugId => returned? (s.rest bugId)).map p.importResult

/-! ## What an import should have done -/

/-- The patches of a bug in the order of their ids, with their numbers in the import. -/
def numbered (bugId : String) : List (ImportPatchResult × ℕ) :=
  (sortedPatches (p.patches bugId)).zipIdx (p.offset bugId)

/-- The row is the entry of the patch with the number. -/
def IsEntry (unionId : ℤ) (startTime : DateTime) (bugId : String)
    (patch : ImportPatchResult × ℕ) (row : AgentPatch) : Prop :=
  bugId ∈ p.bugIds ∧ patch ∈ p.numbered bugId ∧ ∃ addedTime patchId agentPatchId,
    addSeconds startTime patch.2 = some addedTime ∧
      row = { p.agentPatchOf bugId patch.1 unionId addedTime patchId with agentPatchId }

/-- The rows that are not of other batches are entries of the import; their times are distinct, and
in the order of the bugs and of the patches of a bug. -/
structure Numbered (unionId : ℤ) (startTime : DateTime) (db : BatchDb) : Prop where
  entries : ∀ row ∈ db.agentPatches.rows, (row.agentConfigId,row.unionId) ∈ db.begun ∨
    ∃ bugId patch, p.IsEntry unionId startTime bugId patch row
  distinct : db.agentPatches.rows.Pairwise fun row row' => ∀ bugId patch bugId' patch',
    p.IsEntry unionId startTime bugId patch row → p.IsEntry unionId startTime bugId' patch' row' →
      row.addedTime ≠ row'.addedTime
  ordered : ∀ row row' bugId patch bugId' patch', p.IsEntry unionId startTime bugId patch row →
    p.IsEntry unionId startTime bugId' patch' row' →
      (timeFields row.addedTime < timeFields row'.addedTime ↔
        bugId < bugId' ∨ bugId = bugId' ∧ patch.2 < patch'.2)
  byId : ∀ row row' bugId patch patch', p.IsEntry unionId startTime bugId patch row →
    p.IsEntry unionId startTime bugId patch' row' →
      timeFields row.addedTime < timeFields row'.addedTime → patch.1.id ≤ patch'.1.id

/-- The query gives the import's patches of each bug in the order of their ids. -/
def OrderedById (unionId : ℤ) (startTime : DateTime) (db : BatchDb) : Prop :=
  ∀ bugIds bugId, ((p.patches bugId).map ImportPatchResult.id).Nodup →
    ((db.orderedRows p.agentConfigId bugIds).filter fun row =>
      row.bugId = bugId && row.unionId = unionId).Pairwise fun row row' =>
        ∀ patch patch', p.IsEntry unionId startTime bugId patch row →
          p.IsEntry unionId startTime bugId patch' row' → patch.1.id < patch'.1.id

/-- No other batch of the configuration has the union id. -/
structure OwnUnion (unionId : ℤ) (earlier db : BatchDb) : Prop where
  unused : ∀ row ∈ earlier.agentPatches.rows, row.agentConfigId = p.agentConfigId →
    row.unionId ≠ unionId
  others : (p.agentConfigId,unionId) ∉ db.begun

/-- The ids that a task has got for its entries, without those whose evaluation was not stored. -/
def success (agentPatchIds : List ℕ) :
    Answered ImageRequest ImageRequest.Answer ImageError → List ℕ
  | ⟨.agent (.insertAgentPatch _ _),.ok agentPatchId⟩ => agentPatchIds ++ [agentPatchId]
  | ⟨.eval (.insertCrashResolutionEval _),.error _⟩ => agentPatchIds.dropLast
  | _ => agentPatchIds

def successes (history : ImportHistory) : List ℕ := history.foldl success []

/-- The result lists the successful patches, and every other patch counts as failed. -/
structure Conserves (unionId : ℤ) (startTime : DateTime) (s : ImportState)
    (result : ImportResult) : Prop where
  sum : result.successfulPatches+result.failedPatches = result.totalPatches
  notNegative : 0 ≤ result.failedPatches
  successful : result.successfulPatches = result.agentPatchIds.length
  listed : result.agentPatchIds = p.bugIds.flatMap fun bugId => successes (s.answered bugId)
  nodup : result.agentPatchIds.Nodup
  stored : ∀ agentPatchId ∈ result.agentPatchIds, ∃ row ∈ s.shared.agentPatches.rows,
    row.agentPatchId = agentPatchId ∧ ∃ bugId patch, p.IsEntry unionId startTime bugId patch row

/-! ## The numbers of the patches -/

section Numbers
variable {p : PatchImporter} {unionId : ℤ} {startTime : DateTime} {bugId bugId' : String}
  {patch patch' : ImportPatchResult × ℕ} {row row' : AgentPatch}

lemma pairwise_bugIds (p : PatchImporter) : p.bugIds.Pairwise (· < ·) := by
  have hsorted : p.bugIds.Pairwise fun a b => decide (a ≤ b) = true := by
    apply List.pairwise_mergeSort
    · intro a b c hab hbc
      exact decide_eq_true (le_trans (of_decide_eq_true hab) (of_decide_eq_true hbc))
    · intro a b
      simpa using le_total a b
  have hnodup : p.bugIds.Nodup := (List.mergeSort_perm _ _).nodup_iff.mpr p.results.nodup
  exact (hsorted.and hnodup).imp fun h => lt_of_le_of_ne (of_decide_eq_true h.1) h.2

/-- What comes before the later one of two members of a sorted list. -/
lemma sum_takeWhile_le {bugIds : List String} (h : bugIds.Pairwise (· < ·)) (length : String → ℕ)
    (hmem : bugId ∈ bugIds) (hmem' : bugId' ∈ bugIds) (hlt : bugId < bugId') :
    ((bugIds.takeWhile fun b => b ≠ bugId).map length).sum+length bugId ≤
      ((bugIds.takeWhile fun b => b ≠ bugId').map length).sum := by
  induction bugIds with
  | nil => cases hmem
  | cons first rest ih =>
    obtain ⟨hfirst,hrest⟩ := List.pairwise_cons.mp h
    have hne' : first ≠ bugId' := by
      intro heq
      obtain rfl | hmem := List.mem_cons.mp hmem
      · exact absurd hlt (by rw [heq]; exact lt_irrefl _)
      · exact lt_asymm hlt (heq ▸ hfirst bugId hmem)
    have hmem'' : bugId' ∈ rest := (List.mem_cons.mp hmem').resolve_left (Ne.symm hne')
    have hlater : (first :: rest).takeWhile (fun b => b ≠ bugId') =
        first :: rest.takeWhile fun b => b ≠ bugId' :=
      List.takeWhile_cons_of_pos (by simpa using hne')
    rw [hlater,List.map_cons,List.sum_cons]
    by_cases hfirst' : first = bugId
    · simp [hfirst']
    · have hmem : bugId ∈ rest := (List.mem_cons.mp hmem).resolve_left (Ne.symm hfirst')
      have hle := ih hrest hmem hmem''
      have hearlier : (first :: rest).takeWhile (fun b => b ≠ bugId) =
          first :: rest.takeWhile fun b => b ≠ bugId :=
        List.takeWhile_cons_of_pos (by simpa using hfirst')
      rw [hearlier,List.map_cons,List.sum_cons]
      omega

lemma offset_le (hmem : bugId ∈ p.bugIds) (hmem' : bugId' ∈ p.bugIds) (hlt : bugId < bugId') :
    p.offset bugId+(p.patches bugId).length ≤ p.offset bugId' :=
  sum_takeWhile_le (pairwise_bugIds p) (fun b => (p.patches b).length) hmem hmem' hlt

lemma number_of_mem (h : patch ∈ p.numbered bugId) :
    p.offset bugId ≤ patch.2 ∧ patch.2 < p.offset bugId+(p.patches bugId).length := by
  have hbounds := List.mem_zipIdx h
  have hlength : (sortedPatches (p.patches bugId)).length = (p.patches bugId).length :=
    List.length_mergeSort _
  rw [hlength] at hbounds
  exact ⟨hbounds.1,hbounds.2.1⟩

lemma pairwise_numbered : (p.numbered bugId).Pairwise fun a b => a.2 < b.2 := by
  have h := List.pairwise_lt_range' (s := p.offset bugId)
    (n := (sortedPatches (p.patches bugId)).length)
  rwa [← List.zipIdx_map_snd,List.pairwise_map] at h

lemma pairwise_id (p : PatchImporter) (bugId : String) :
    (sortedPatches (p.patches bugId)).Pairwise fun a b => a.id ≤ b.id := by
  have hsorted : (sortedPatches (p.patches bugId)).Pairwise fun a b => decide (a.id ≤ b.id) := by
    apply List.pairwise_mergeSort
    · intro a b c hab hbc
      exact decide_eq_true (le_trans (of_decide_eq_true hab) (of_decide_eq_true hbc))
    · intro a b
      simpa using le_total a.id b.id
  exact hsorted.imp of_decide_eq_true

/-- The numbers are in the order of the ids. -/
lemma id_le_of_number (h : patch ∈ p.numbered bugId) (h' : patch' ∈ p.numbered bugId)
    (hlt : patch.2 < patch'.2) : patch.1.id ≤ patch'.1.id := by
  obtain ⟨hle,-,hfirst⟩ := List.mem_zipIdx h
  obtain ⟨hle',-,hsecond⟩ := List.mem_zipIdx h'
  rw [hfirst,hsecond]
  exact List.pairwise_iff_getElem.mp (pairwise_id p bugId) _ _ _ _ (by omega)

/-- Distinct ids of one bug are in the order of the numbers. -/
lemma id_lt_of_number (hids : ((p.patches bugId).map ImportPatchResult.id).Nodup)
    (h : patch ∈ p.numbered bugId) (h' : patch' ∈ p.numbered bugId) (hlt : patch.2 < patch'.2) :
    patch.1.id < patch'.1.id := by
  have hnodup : ((sortedPatches (p.patches bugId)).map ImportPatchResult.id).Nodup :=
    ((List.mergeSort_perm _ _).map _).nodup_iff.mpr hids
  have hsorted : (sortedPatches (p.patches bugId)).Pairwise fun a b => a.id < b.id :=
    ((pairwise_id p bugId).and (List.pairwise_map.mp hnodup)).imp fun h => lt_of_le_of_ne h.1 h.2
  obtain ⟨hle,-,hfirst⟩ := List.mem_zipIdx h
  obtain ⟨hle',-,hsecond⟩ := List.mem_zipIdx h'
  rw [hfirst,hsecond]
  exact List.pairwise_iff_getElem.mp hsorted _ _ _ _ (by omega)

lemma eq_of_number (h : patch ∈ p.numbered bugId) (h' : patch' ∈ p.numbered bugId)
    (heq : patch.2 = patch'.2) : patch = patch' := by
  have hfirst := (List.mem_zipIdx h).2.2
  have hsecond := (List.mem_zipIdx h').2.2
  refine Prod.ext ?_ heq
  rw [hfirst,hsecond]
  simp only [heq]

namespace IsEntry

lemma addedTime_eq (h : p.IsEntry unionId startTime bugId patch row) :
    addSeconds startTime patch.2 = some row.addedTime := by
  obtain ⟨-,-,t,patchId,agentPatchId,ht,rfl⟩ := h
  exact ht

lemma bugId_eq (h : p.IsEntry unionId startTime bugId patch row) : row.bugId = bugId := by
  obtain ⟨-,-,t,patchId,agentPatchId,-,rfl⟩ := h
  rfl

lemma agentConfigId_eq (h : p.IsEntry unionId startTime bugId patch row) :
    row.agentConfigId = p.agentConfigId := by
  obtain ⟨-,-,t,patchId,agentPatchId,-,rfl⟩ := h
  rfl

lemma unionId_eq {u : ℤ} (h : p.IsEntry u startTime bugId patch row) : row.unionId = u := by
  obtain ⟨-,-,t,patchId,agentPatchId,-,rfl⟩ := h
  rfl

/-- The id of the row does not matter. -/
lemma withId {u : ℤ} (h : p.IsEntry u startTime bugId patch row) (agentPatchId : ℕ) :
    p.IsEntry u startTime bugId patch { row with agentPatchId } := by
  obtain ⟨hmem,hpatch,t,patchId,agentPatchId',ht,rfl⟩ := h
  exact ⟨hmem,hpatch,t,patchId,agentPatchId,ht,rfl⟩

lemma withoutId {u : ℤ} {agentPatchId : ℕ}
    (h : p.IsEntry u startTime bugId patch { row with agentPatchId }) :
    p.IsEntry u startTime bugId patch row := h.withId row.agentPatchId

/-- The numbers are in the order of the bugs. -/
lemma number_lt_iff {u : ℤ} (h : p.IsEntry u startTime bugId patch row)
    (h' : p.IsEntry u startTime bugId' patch' row') :
    patch.2 < patch'.2 ↔ bugId < bugId' ∨ bugId = bugId' ∧ patch.2 < patch'.2 := by
  have hnumber := number_of_mem h.2.1
  have hnumber' := number_of_mem h'.2.1
  obtain hlt | rfl | hgt := lt_trichotomy bugId bugId'
  · have hle := offset_le h.1 h'.1 hlt
    exact iff_of_true (by omega) (.inl hlt)
  · simp
  · have hle := offset_le h'.1 h.1 hgt
    refine iff_of_false (by omega) ?_
    rintro (hlt | ⟨rfl,-⟩)
    · exact lt_asymm hlt hgt
    · exact lt_irrefl _ hgt

/-- A number belongs to one patch. -/
lemma eq_of_number {u : ℤ} (h : p.IsEntry u startTime bugId patch row)
    (h' : p.IsEntry u startTime bugId' patch' row') (heq : patch.2 = patch'.2) :
    bugId = bugId' ∧ patch = patch' := by
  have hlt := h.number_lt_iff h'
  have hgt := h'.number_lt_iff h
  obtain hbug | rfl | hbug := lt_trichotomy bugId bugId'
  · have := hlt.mpr (.inl hbug)
    omega
  · exact ⟨rfl,PatchImporter.eq_of_number h.2.1 h'.2.1 heq⟩
  · have := hgt.mpr (.inl hbug)
    omega

/-- The times are in the order of the numbers. -/
lemma time_lt_iff {u : ℤ} (h : p.IsEntry u startTime bugId patch row)
    (h' : p.IsEntry u startTime bugId' patch' row') :
    timeFields row.addedTime < timeFields row'.addedTime ↔ patch.2 < patch'.2 :=
  addSeconds_lt_iff h.addedTime_eq h'.addedTime_eq

lemma number_eq_of_time {u : ℤ} (h : p.IsEntry u startTime bugId patch row)
    (h' : p.IsEntry u startTime bugId' patch' row') (heq : row.addedTime = row'.addedTime) :
    patch.2 = patch'.2 := by
  have hlt := h.time_lt_iff h'
  have hgt := h'.time_lt_iff h
  rw [heq] at hlt hgt
  have hirrefl := List.lt_irrefl (timeFields row'.addedTime)
  obtain hn | hn | hn := Nat.lt_trichotomy patch.2 patch'.2
  · exact absurd (hlt.mpr hn) hirrefl
  · exact hn
  · exact absurd (hgt.mpr hn) hirrefl

/-- One row is the entry of one patch. -/
lemma unique {u : ℤ} (h : p.IsEntry u startTime bugId patch row)
    (h' : p.IsEntry u startTime bugId' patch' row) : bugId = bugId' ∧ patch = patch' :=
  h.eq_of_number h' (h.number_eq_of_time h' rfl)

end IsEntry
end Numbers

/-! ## What a task may ask for -/

section Protocol
variable (p : PatchImporter) (unionId : ℤ) (startTime : DateTime)

/-- The entries that have been asked for have numbers below `n`. -/
def Below (n : ℕ) (history : ImportHistory) : Prop :=
  ∀ a ∈ history, ∀ agentPatch attempt, a.1 = .agent (.insertAgentPatch agentPatch attempt) →
    ∀ bugId patch, p.IsEntry unionId startTime bugId patch agentPatch → patch.2 < n

/-- A task stores the entries of its bug, each once and in their order. -/
def allowed (bugId : String) (history : ImportHistory) : ImageRequest → Prop
  | .agent (.insertAgentPatch agentPatch _) => ∃ patch,
    p.IsEntry unionId startTime bugId patch agentPatch ∧ p.Below unionId startTime patch.2 history
  | _ => True

/-- The commands of the cleanup. -/
def IsCleanup : ImageRequest → Prop
  | .agent (.docker (.rmi _)) => True
  | .agent (.docker .prune) => True
  | _ => False

/-- The task has been cancelled, or docker could not be started for the cleanup. -/
def Broken (history : ImportHistory) : Prop :=
  ∃ a ∈ history, a.2 = .error .cancelled ∨ IsCleanup a.1 ∧ ∃ e, a.2 = .error e

/-- Where a task ends, its results hold the successes, at most one for each patch; it only raises
where it was broken. -/
def Ends (bugId : String) (history : ImportHistory) :
    Except ImageError (List (ℕ ⊕ String)) → Prop
  | .ok results => results.filterMap Sum.getLeft? = successes history ∧
    (successes history).length ≤ (p.patches bugId).length
  | .error _ => Broken history

end Protocol

section Histories
variable {p : PatchImporter} {unionId : ℤ} {startTime : DateTime} {bugId : String}
  {history : ImportHistory} {a : Answered ImageRequest ImageRequest.Answer ImageError} {n : ℕ}

/-- The request stores no entry and no evaluation. -/
def IsPlain : ImageRequest → Prop
  | .agent (.insertAgentPatch _ _) => False
  | .eval (.insertCrashResolutionEval _) => False
  | _ => True

lemma allowed_of_plain {r : ImageRequest} (h : IsPlain r) :
    p.allowed unionId startTime bugId history r := by
  unfold allowed
  split
  · exact h.elim
  · trivial

lemma successes_append : successes (history ++ [a]) = success (successes history) a := by
  rw [successes,List.foldl_append]
  rfl

lemma successes_plain (h : IsPlain a.1) : successes (history ++ [a]) = successes history := by
  rw [successes_append]
  unfold success
  split
  · exact h.elim
  · exact h.elim
  · rfl

lemma Below.mono (h : p.Below unionId startTime n history) {m : ℕ} (hle : n ≤ m) :
    p.Below unionId startTime m history :=
  fun a ha agentPatch attempt hr bugId patch hentry =>
    Nat.lt_of_lt_of_le (h a ha agentPatch attempt hr bugId patch hentry) hle

lemma Below.append (h : p.Below unionId startTime n history)
    (ha : ∀ agentPatch attempt, a.1 ≠ .agent (.insertAgentPatch agentPatch attempt)) :
    p.Below unionId startTime n (history ++ [a]) := by
  intro a' ha' agentPatch attempt hr bugId patch hentry
  obtain ha' | ha' := List.mem_append.mp ha'
  · exact h a' ha' agentPatch attempt hr bugId patch hentry
  · rw [List.mem_singleton.mp ha'] at hr
    exact absurd hr (ha agentPatch attempt)

lemma Below.plain (h : p.Below unionId startTime n history) (ha : IsPlain a.1) :
    p.Below unionId startTime n (history ++ [a]) := by
  refine h.append fun agentPatch attempt hr => ?_
  rw [hr] at ha
  exact ha

lemma Below.eval (h : p.Below unionId startTime n history) {r : Eval.Request}
    {x : Except ImageError r.Answer} :
    p.Below unionId startTime n (history ++ [⟨.eval r,x⟩]) := by
  apply h.append
  intro agentPatch attempt hr
  cases hr

/-- After an entry the numbers are up to its own. -/
lemma Below.entry {patch : ImportPatchResult × ℕ} {agentPatch : AgentPatch} {attempt : ℕ}
    {x : Except ImageError ℕ} (h : p.Below unionId startTime patch.2 history)
    (hentry : p.IsEntry unionId startTime bugId patch agentPatch) :
    p.Below unionId startTime (patch.2+1)
      (history ++ [⟨.agent (.insertAgentPatch agentPatch attempt),x⟩]) := by
  intro a' ha' agentPatch' attempt' hr bugId' patch' hentry'
  obtain ha' | ha' := List.mem_append.mp ha'
  · exact Nat.lt_succ_of_lt (h a' ha' agentPatch' attempt' hr bugId' patch' hentry')
  · rw [List.mem_singleton.mp ha'] at hr
    cases hr
    rw [(hentry.unique hentry').2]
    exact Nat.lt_succ_self _

lemma Broken.mono {history' : ImportHistory} (h : Broken history)
    (hmem : ∀ a ∈ history, a ∈ history') : Broken history' := by
  obtain ⟨a,ha,hbroken⟩ := h
  exact ⟨a,hmem a ha,hbroken⟩

lemma broken_of_cancelled (h : a.2 = .error .cancelled) : Broken (history ++ [a]) :=
  ⟨a,List.mem_append_right _ (List.mem_singleton_self a),.inl h⟩

end Histories

/-! ## What a task does -/

section Task
variable {p : PatchImporter} {unionId : ℤ} {startTime : DateTime} {bugId : String}
  {history : ImportHistory} {n : ℕ}

/-- Nothing has been stored since. -/
def Unchanged (p : PatchImporter) (unionId : ℤ) (startTime : DateTime) (n : ℕ)
    (history history' : ImportHistory) : Prop :=
  successes history' = successes history ∧
    (p.Below unionId startTime n history → p.Below unionId startTime n history')

lemma Unchanged.refl : Unchanged p unionId startTime n history history := ⟨rfl,id⟩

lemma Unchanged.trans {history' history'' : ImportHistory}
    (h : Unchanged p unionId startTime n history history')
    (h' : Unchanged p unionId startTime n history' history'') :
    Unchanged p unionId startTime n history history'' :=
  ⟨h'.1.trans h.1,fun hbelow => h'.2 (h.2 hbelow)⟩

lemma unchanged_plain {a : Answered ImageRequest ImageRequest.Answer ImageError}
    (h : IsPlain a.1) : Unchanged p unionId startTime n history (history ++ [a]) :=
  ⟨successes_plain h,fun hbelow => hbelow.plain h⟩

lemma isPlain_of_docker {r : AgentRequest} (h : r.IsDocker) : IsPlain (.agent r) := by
  cases r with
  | insertAgentPatch agentPatch attempt => exact h.elim
  | _ => trivial

/-- To ask docker stores nothing; a cancellation comes from an answer. -/
lemma follows_lift {α : Type} {c : AgentCode α} (h : c.Makes AgentRequest.IsDocker) :
    (AgentCode.lift c).Follows (historyProtocol (p.allowed unionId startTime bugId))
      (fun history' x => (∀ n, Unchanged p unionId startTime n history history') ∧
        (x = .error .cancelled → Broken history')) history := by
  induction c generalizing history with
  | done a => exact ⟨fun n => .refl,fun h => by cases h⟩
  | raise e => exact ⟨fun n => .refl,fun h => by cases h⟩
  | await r k ih =>
    have hplain := isPlain_of_docker h.1
    rw [AgentCode.lift,Coroutine.follows_await]
    refine ⟨allowed_of_plain hplain,fun x history' hleads => ?_⟩
    obtain rfl := hleads
    have hone : ∀ n, Unchanged p unionId startTime n history (history ++ [⟨.agent r,x⟩]) :=
      fun n => unchanged_plain hplain
    cases x with
    | ok a => exact (ih _ (h.2 _)).mono fun t y hy => ⟨fun n => (hone n).trans (hy.1 n),hy.2⟩
    | error e =>
      cases e with
      | agent e => exact (ih _ (h.2 _)).mono fun t y hy => ⟨fun n => (hone n).trans (hy.1 n),hy.2⟩
      | raised e => exact ⟨hone,fun h => by cases h⟩
      | cancelled => exact ⟨hone,fun _ => broken_of_cancelled rfl⟩

/-- One request in a sequence. -/
lemma follows_awaitAgent {β : Type} {r : AgentRequest} {f : r.Answer → ImageCode β}
    {may : ImportHistory → ImageRequest → Prop} {Q : ImportHistory → Except ImageError β → Prop}
    (ha : may history (.agent r))
    (hok : ∀ a, (f a).Follows (historyProtocol may) Q (history ++ [⟨.agent r,.ok a⟩]))
    (herror : ∀ e, Q (history ++ [⟨.agent r,.error e⟩]) (.error e)) :
    (awaitAgent r >>= f).Follows (historyProtocol may) Q history := by
  rw [awaitAgent_eq]
  refine ⟨ha,fun x history' hleads => ?_⟩
  obtain rfl := hleads
  cases x with
  | ok a => exact hok a
  | error e => exact herror e

lemma successes_docker {command : DockerCommand} {x : Except ImageError DockerOutput} :
    successes (history ++ [⟨.agent (.docker command),x⟩]) = successes history :=
  successes_plain (a := ⟨.agent (.docker command),x⟩) trivial

/-- A cleanup raises only where it is broken. -/
lemma follows_cleanup : (AgentCode.lift (p.imageManager.cleanupImages bugId [])).Follows
    (historyProtocol (p.allowed unionId startTime bugId))
    (fun history' x => successes history' = successes history ∧
      (∀ a ∈ history, a ∈ history') ∧ ∀ e, x = .error e → Broken history') history := by
  have hfailed : ∀ (command : DockerCommand) (history : ImportHistory) (e : ImageError),
      IsCleanup (.agent (.docker command)) →
      Broken (history ++ [⟨.agent (.docker command),.error e⟩]) := fun command history e hc =>
    ⟨_,List.mem_append_right _ (List.mem_singleton_self _),.inr ⟨hc,e,rfl⟩⟩
  rw [KenvImageManager.cleanupImages,AgentCode.lift_bind]
  refine follows_awaitAgent trivial (fun output => ?_) fun e =>
    ⟨successes_docker,fun a ha => List.mem_append_left _ ha,fun _ _ =>
      hfailed _ _ e trivial⟩
  rw [AgentCode.lift_bind]
  refine follows_awaitAgent trivial (fun output' => ?_) fun e => ?_
  · refine ⟨successes_docker.trans successes_docker,fun a ha => ?_,fun e h => by cases h⟩
    exact List.mem_append_left _ (List.mem_append_left _ ha)
  · refine ⟨successes_docker.trans successes_docker,fun a ha => ?_,fun _ _ =>
      hfailed _ _ e trivial⟩
    exact List.mem_append_left _ (List.mem_append_left _ ha)

/-- What a patch with the number `n` leaves: its id is among the successes exactly if it is
returned. -/
def Stored (p : PatchImporter) (unionId : ℤ) (startTime : DateTime) (n : ℕ)
    (history : ImportHistory) (history' : ImportHistory) : Except ImageError ℕ → Prop
  | .ok agentPatchId => p.Below unionId startTime (n+1) history' ∧
    successes history' = successes history ++ [agentPatchId]
  | .error e => p.Below unionId startTime (n+1) history' ∧
    successes history' = successes history ∧ (e = .cancelled → Broken history')

lemma storePatch_eq {bug : SyzbotBug} (hbug : p.bugCache.value? bugId = some bug)
    (patchData : ImportPatchResult) (addedTime : DateTime) :
    p.storePatch bugId patchData unionId addedTime =
      awaitAgent (.analyze ⟨bug.syzbotData,p.baseCommit,
        some (p.filterBinaryFilesFromPatch patchData.patchContent)⟩ 0) >>= fun analysis =>
      awaitAgent (.insertPatch (patchFromAnalysis analysis) 0) >>= fun patchId =>
      awaitAgent (.insertAgentPatch
        (p.agentPatchOf bugId patchData unionId addedTime (patchId : ℕ)) 0) >>= fun agentPatchId =>
      p.storeEvaluation bugId patchData agentPatchId >>= fun _ => pure agentPatchId := by
  unfold storePatch analyzePatch lookup
  rw [hbug]
  rfl

/-- An exception that a request raised is a cancellation only where the task is broken. -/
lemma broken_of_error {r : ImageRequest} {e : ImageError} (he : e = .cancelled) :
    Broken (history ++ [⟨r,.error e⟩]) := by
  subst he
  exact broken_of_cancelled rfl

lemma follows_storeEvaluation {kcache : KCache} (hkcache : p.kcacheCache.value? bugId = some kcache)
    (patchData : ImportPatchResult) (agentPatchId : ℕ)
    (hbelow : p.Below unionId startTime n history) :
    (p.storeEvaluation bugId patchData agentPatchId).Follows
      (historyProtocol (p.allowed unionId startTime bugId))
      (fun history' x => p.Below unionId startTime n history' ∧
        (x = .ok () → successes history' = successes history) ∧
        ∀ e, x = .error e → successes history' = (successes history).dropLast ∧
          (e = .cancelled → Broken history')) history := by
  have hnone : p.Below unionId startTime n history ∧
      ((.ok () : Except ImageError Unit) = .ok () → successes history = successes history) ∧
      ∀ e, (.ok () : Except ImageError Unit) = .error e →
        successes history = (successes history).dropLast ∧ (e = .cancelled → Broken history) :=
    ⟨hbelow,fun _ => rfl,nofun⟩
  unfold storeEvaluation
  split
  · unfold lookup
    rw [hkcache]
    refine ⟨trivial,fun x history' hleads => ?_⟩
    obtain rfl := hleads
    cases x with
    | ok evalId => exact ⟨hbelow.eval,fun _ => successes_append,nofun⟩
    | error e =>
      refine ⟨hbelow.eval,nofun,fun e' he => ?_⟩
      cases he
      exact ⟨successes_append,broken_of_error⟩
  · exact hnone

/-- The entry of a patch, and then its evaluation. -/
lemma follows_storeEntry {kcache : KCache} (hkcache : p.kcacheCache.value? bugId = some kcache)
    {patch : ImportPatchResult × ℕ} {agentPatch : AgentPatch}
    (hentry : p.IsEntry unionId startTime bugId patch agentPatch)
    (hbelow : p.Below unionId startTime patch.2 history) :
    (awaitAgent (.insertAgentPatch agentPatch 0) >>= fun agentPatchId =>
      p.storeEvaluation bugId patch.1 agentPatchId >>= fun _ => pure agentPatchId).Follows
      (historyProtocol (p.allowed unionId startTime bugId))
      (Stored p unionId startTime patch.2 history) history := by
  refine follows_awaitAgent ⟨patch,hentry,hbelow⟩ (fun agentPatchId => ?_) fun e =>
    ⟨hbelow.entry hentry,successes_append,broken_of_error⟩
  rw [Coroutine.follows_bind]
  refine (follows_storeEvaluation hkcache patch.1 agentPatchId (hbelow.entry hentry)).mono ?_
  intro history' x hx
  have hid : successes (history ++ [⟨.agent (.insertAgentPatch agentPatch 0),.ok agentPatchId⟩]) =
      successes history ++ [agentPatchId] := successes_append
  cases x with
  | ok u => exact ⟨hx.1,(hx.2.1 rfl).trans hid⟩
  | error e =>
    have herror := hx.2.2 e rfl
    rw [hid,List.dropLast_concat] at herror
    exact ⟨hx.1,herror.1,herror.2⟩

/-- What an import of the patch with the number `n` returns. Only a cancellation gets through. -/
def Imported (p : PatchImporter) (unionId : ℤ) (startTime : DateTime) (n : ℕ)
    (history history' : ImportHistory) : Except ImageError (ℕ ⊕ String) → Prop
  | .ok result => p.Below unionId startTime (n+1) history' ∧
    successes history' = successes history ++ result.getLeft?.toList
  | .error e => e = .cancelled ∧ Broken history'

/-- What the loop returns for at most `m` patches. -/
def Looped (m : ℕ) (history : ImportHistory) : Except ImageError (List (ℕ ⊕ String)) → Prop
  | .ok results => results.filterMap Sum.getLeft? = successes history ∧
    (successes history).length ≤ m
  | .error e => e = .cancelled ∧ Broken history

lemma Stored.congr {history' history'' : ImportHistory} {x : Except ImageError ℕ}
    (h : Stored p unionId startTime n history' history'' x)
    (hsame : successes history' = successes history) :
    Stored p unionId startTime n history history'' x := by
  cases x with
  | ok agentPatchId => exact ⟨h.1,hsame ▸ h.2⟩
  | error e => exact ⟨h.1,hsame ▸ h.2.1,h.2.2⟩

lemma follows_storePatch (hvalid : p.Validated) {patch : ImportPatchResult × ℕ}
    (hb : bugId ∈ p.bugIds) (hpatch : patch ∈ p.numbered bugId) {addedTime : DateTime}
    (htime : addSeconds startTime patch.2 = some addedTime)
    (hbelow : p.Below unionId startTime patch.2 history) :
    (p.storePatch bugId patch.1 unionId addedTime).Follows
      (historyProtocol (p.allowed unionId startTime bugId))
      (Stored p unionId startTime patch.2 history) history := by
  obtain ⟨⟨bug,hbug⟩,kcache,hkcache⟩ := hvalid bugId hb
  have hlater := hbelow.mono (Nat.le_succ patch.2)
  rw [storePatch_eq hbug]
  -- the analysis and the patch store no entry
  refine follows_awaitAgent trivial (fun analysis => ?_) fun e =>
    ⟨hlater.plain trivial,successes_plain trivial,broken_of_error⟩
  refine follows_awaitAgent trivial (fun patchId => ?_) fun e => ?_
  · have hentry : p.IsEntry unionId startTime bugId patch
        (p.agentPatchOf bugId patch.1 unionId addedTime (patchId : ℕ)) :=
      ⟨hb,hpatch,addedTime,_,0,htime,rfl⟩
    refine (follows_storeEntry hkcache hentry ?_).mono fun t x hx => hx.congr ?_
    · exact (hbelow.plain (by trivial)).plain (by trivial)
    · exact (successes_plain (by trivial)).trans (successes_plain (by trivial))
  · refine ⟨(hlater.plain (by trivial)).plain (by trivial),?_,broken_of_error⟩
    exact (successes_plain (by trivial)).trans (successes_plain (by trivial))

lemma follows_importSinglePatch (hvalid : p.Validated) {patch : ImportPatchResult × ℕ}
    (hb : bugId ∈ p.bugIds) (hpatch : patch ∈ p.numbered bugId) {addedTime : DateTime}
    (htime : addSeconds startTime patch.2 = some addedTime)
    (hbelow : p.Below unionId startTime patch.2 history) :
    (p.importSinglePatch bugId patch.1 unionId addedTime).Follows
      (historyProtocol (p.allowed unionId startTime bugId))
      (Imported p unionId startTime patch.2 history) history := by
  have hstore := follows_storePatch hvalid hb hpatch htime hbelow
  rw [importSinglePatch,tryExcept,Coroutine.follows_tryCatch]
  have hmap : ∀ c : ImageCode ℕ,
      (Sum.inl <$> c : ImageCode (ℕ ⊕ String)) = c >>= fun id => pure (.inl id) := fun c => rfl
  rw [hmap,Coroutine.follows_bind]
  refine hstore.mono fun history' x hx => ?_
  cases x with
  | ok agentPatchId => exact hx
  | error e =>
    obtain ⟨hlater,hsame,hbroken⟩ := hx
    cases e with
    | cancelled => exact ⟨rfl,hbroken rfl⟩
    | agent e => exact ⟨hlater,hsame.trans (List.append_nil _).symm⟩
    | raised e => exact ⟨hlater,hsame.trans (List.append_nil _).symm⟩

/-- The loop: the induction is on the patches that are left, which have larger numbers than the
entries asked for. -/
lemma follows_importEach (hvalid : p.Validated) (hb : bugId ∈ p.bugIds)
    {patches : List (ImportPatchResult × ℕ)} (hmem : ∀ patch ∈ patches, patch ∈ p.numbered bugId)
    (hsorted : patches.Pairwise fun a b => a.2 < b.2)
    (hbelow : ∀ patch ∈ patches, p.Below unionId startTime patch.2 history)
    {results : List (ℕ ⊕ String)} (hresults : results.filterMap Sum.getLeft? = successes history)
    {m : ℕ} (hlength : (successes history).length+patches.length ≤ m) :
    (p.importEach bugId unionId startTime patches results).Follows
      (historyProtocol (p.allowed unionId startTime bugId)) (Looped m) history := by
  induction patches generalizing history results with
  | nil => exact ⟨hresults,hlength⟩
  | cons patch rest ih =>
    obtain ⟨hfirst,hrest⟩ := List.pairwise_cons.mp hsorted
    rw [importEach]
    split
    · rw [Coroutine.follows_pure,Looped,List.filterMap_append,hresults]
      exact ⟨List.append_nil _,Nat.le_of_add_right_le hlength⟩
    · rename_i addedTime htime
      rw [Coroutine.follows_bind]
      have hone := follows_importSinglePatch hvalid hb (hmem patch List.mem_cons_self) htime
        (hbelow patch List.mem_cons_self)
      refine hone.mono fun history' x hx => ?_
      cases x with
      | error e => exact hx
      | ok result =>
        refine ih (fun patch' h => hmem patch' (List.mem_cons_of_mem _ h)) hrest
          (fun patch' h => hx.1.mono (hfirst patch' h)) ?_ ?_
        · rw [List.filterMap_append,hresults,hx.2]
          cases result <;> rfl
        · have hone : result.getLeft?.toList.length ≤ 1 := by
            cases result with
            | inl agentPatchId => exact Nat.le_refl 1
            | inr message => exact Nat.zero_le 1
          rw [hx.2,List.length_append]
          rw [List.length_cons] at hlength
          omega

/-- The image first, then the loop; what it raised becomes a message. -/
lemma follows_processBug (hvalid : p.Validated) (hb : bugId ∈ p.bugIds) :
    (tryExcept
      (do
        AgentCode.lift (p.imageManager.ensureKenvImage bugId)
        p.importEach bugId unionId startTime (p.numbered bugId) [])
      fun e => return [setupError bugId e]).Follows
      (historyProtocol (p.allowed unionId startTime bugId))
      (Looped (p.patches bugId).length) [] := by
  rw [tryExcept,Coroutine.follows_tryCatch,Coroutine.follows_bind]
  have hbelow : ∀ n, p.Below unionId startTime n [] := fun n a ha => absurd ha List.not_mem_nil
  refine (follows_lift KenvImageManager.makes_ensureKenvImage).mono fun history x hx => ?_
  obtain ⟨hunchanged,hcancelled⟩ := hx
  have hcount : (successes history).length+(p.numbered bugId).length ≤
      (p.patches bugId).length := by
    rw [(hunchanged 0).1,numbered,List.length_zipIdx,sortedPatches,List.length_mergeSort]
    exact Nat.le_of_eq (Nat.zero_add _)
  cases x with
  | ok u =>
    rw [Coroutine.after_ok]
    have hnone : ([] : List (ℕ ⊕ String)).filterMap Sum.getLeft? = successes history :=
      (hunchanged 0).1.symm
    have hloop : (p.importEach bugId unionId startTime (p.numbered bugId) []).Follows
        (historyProtocol (p.allowed unionId startTime bugId))
        (Looped (p.patches bugId).length) history :=
      follows_importEach hvalid hb (fun patch h => h) pairwise_numbered
        (fun patch _ => (hunchanged patch.2).2 (hbelow patch.2)) hnone hcount
    refine hloop.mono fun history' y hy => ?_
    cases y with
    | ok results => exact hy
    | error e =>
      obtain ⟨rfl,hbroken⟩ := hy
      exact ⟨rfl,hbroken⟩
  | error e =>
    cases e with
    | cancelled => exact ⟨rfl,hcancelled rfl⟩
    | agent e => exact ⟨(hunchanged 0).1.symm,by omega⟩
    | raised e => exact ⟨(hunchanged 0).1.symm,by omega⟩

/-- The protocol of a task of the import. -/
theorem follows_importBugPatches (hvalid : p.Validated) (hb : bugId ∈ p.bugIds) :
    (p.importBugPatches bugId (p.patches bugId) unionId startTime (p.offset bugId)).Follows
      (historyProtocol (p.allowed unionId startTime bugId)) (p.Ends bugId) [] := by
  rw [importBugPatches,withCleanup,Coroutine.follows_bind,Coroutine.follows_tryCatch]
  refine (follows_processBug hvalid hb).mono fun history x hx => ?_
  cases x with
  | ok results =>
    rw [Coroutine.handled_ok,Coroutine.after_ok,Coroutine.follows_bind]
    refine follows_cleanup.mono fun history' y hy => ?_
    cases y with
    | ok u => exact ⟨hx.1.trans hy.1.symm,hy.1 ▸ hx.2⟩
    | error e => exact hy.2.2 e rfl
  | error e =>
    rw [Coroutine.handled_error,Coroutine.follows_bind]
    refine follows_cleanup.mono fun history' y hy => ?_
    cases y with
    | ok u => exact hx.2.mono hy.2.1
    | error e => exact hy.2.2 e rfl

end Task

end PatchImporter
end LiveKBench.KArenaPipeline
