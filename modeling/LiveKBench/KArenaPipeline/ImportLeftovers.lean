import LiveKBench.KArenaPipeline.ImportNumbering

/-! What one patch of an import leaves in the tables where its call returns an error. Every insertion
is committed by itself, and none is taken back. -/
namespace LiveKBench.KArenaPipeline
open KArenaWeb (DateTime)
open KArenaDb
open Lib

/-- The ids of the rows that a call has inserted. -/
structure Inserted where
  patches : List ℕ
  agentPatches : List ℕ
  evaluations : List ℕ

namespace Inserted

def nothing : Inserted := ⟨[],[],[]⟩

/-- The ids that a table has handed out since. -/
def newIds (last last' : ℕ) : List ℕ := List.range' (last+1) (last'-last)

/-- The rows that are new after a request are the call's. -/
def record (i : Inserted) (db db' : BatchDb) : Inserted where
  patches := i.patches ++ newIds db.patches.last db'.patches.last
  agentPatches := i.agentPatches ++ newIds db.agentPatches.last db'.agentPatches.last
  evaluations := i.evaluations ++ newIds db.evaluations.last db'.evaluations.last

@[simp] lemma newIds_self (last : ℕ) : newIds last last = [] := by simp [newIds]

@[simp] lemma newIds_succ (last : ℕ) : newIds last (last+1) = [last+1] := by simp [newIds]

end Inserted

/-- The tables, and the rows of the call in them. -/
structure CallDb where
  db : BatchDb
  inserted : Inserted

def CallDb.exec (c : CallDb) (reply : ImportReply) (r : ImageRequest) :
    CallDb × Except ImageError r.Answer :=
  (⟨(c.db.exec reply r).1,c.inserted.record c.db (c.db.exec reply r).1⟩,(c.db.exec reply r).2)

/-- A call of `_import_single_patch`, on the connection that it shares with all the others. -/
def PatchImporter.callGroup (p : PatchImporter) (bugId : String) (patchData : ImportPatchResult)
    (unionId : ℤ) (addedTime : DateTime) :
    SharedGroup CallDb Unit ImageRequest ImageRequest.Answer ImageError (ℕ ⊕ String) ImportReply
      OtherBatch where
  body _ := p.importSinglePatch bugId patchData unionId addedTime
  exec _ r c reply := some (c.exec reply r)
  other e c := (e.exec c.db).map fun db => { c with db }

/-- The ids are ids of rows. -/
structure CallDb.InTables (c : CallDb) : Prop where
  patches : ∀ id ∈ c.inserted.patches, ∃ row ∈ c.db.patches.rows, row.patchId = id
  agentPatches : ∀ id ∈ c.inserted.agentPatches, ∃ row ∈ c.db.agentPatches.rows,
    row.agentPatchId = id
  evaluations : ∀ id ∈ c.inserted.evaluations, ∃ row ∈ c.db.evaluations.rows, row.evalId = id

/-- The rows of an insertion: the one whose id it returned, or, where it raised, at most one. -/
def HandsOut : Except ImageError ℕ → List ℕ → Prop
  | .ok id,ids => ids = [id]
  | .error _,ids => ids = [] ∨ ∃ id, ids = [id]

/-- What a failed call leaves, for each point at which it can fail: all that it stored before, and
at most the row of the insertion that raised. -/
inductive LeftBehind : ImportHistory → Inserted → Prop
  | unknownBug : LeftBehind [] ⟨[],[],[]⟩
  | analysis {analyzer e} : LeftBehind [⟨.agent (.analyze analyzer 0),.error e⟩] ⟨[],[],[]⟩
  | patch {analyzer analysis patch e ids} (raised : HandsOut (.error e) ids) :
    LeftBehind [⟨.agent (.analyze analyzer 0),.ok analysis⟩,
      ⟨.agent (.insertPatch patch 0),.error e⟩] ⟨ids,[],[]⟩
  | agentPatch {analyzer analysis patch patchId agentPatch e ids} (raised : HandsOut (.error e) ids) :
    LeftBehind [⟨.agent (.analyze analyzer 0),.ok analysis⟩,
      ⟨.agent (.insertPatch patch 0),.ok patchId⟩,
      ⟨.agent (.insertAgentPatch agentPatch 0),.error e⟩] ⟨[patchId],ids,[]⟩
  | unknownKcache {analyzer analysis patch patchId agentPatch agentPatchId} :
    LeftBehind [⟨.agent (.analyze analyzer 0),.ok analysis⟩,
      ⟨.agent (.insertPatch patch 0),.ok patchId⟩,
      ⟨.agent (.insertAgentPatch agentPatch 0),.ok agentPatchId⟩] ⟨[patchId],[agentPatchId],[]⟩
  | evaluation {analyzer analysis patch patchId agentPatch agentPatchId eval e ids}
    (raised : HandsOut (.error e) ids) :
    LeftBehind [⟨.agent (.analyze analyzer 0),.ok analysis⟩,
      ⟨.agent (.insertPatch patch 0),.ok patchId⟩,
      ⟨.agent (.insertAgentPatch agentPatch 0),.ok agentPatchId⟩,
      ⟨.eval (.insertCrashResolutionEval eval),.error e⟩] ⟨[patchId],[agentPatchId],ids⟩

/-! ## The rows of the requests -/

/-- What an answered request adds to the rows of the call. -/
def Adds (i i' : Inserted) : Answered ImageRequest ImageRequest.Answer ImageError → Prop
  | ⟨.agent (.insertPatch _ _),x⟩ => ∃ ids, HandsOut x ids ∧
    i' = { i with patches := i.patches ++ ids }
  | ⟨.agent (.insertAgentPatch _ _),x⟩ => ∃ ids, HandsOut x ids ∧
    i' = { i with agentPatches := i.agentPatches ++ ids }
  | ⟨.eval (.insertCrashResolutionEval _),x⟩ => ∃ ids, HandsOut x ids ∧
    i' = { i with evaluations := i.evaluations ++ ids }
  | _ => i' = i

/-- The rows of a whole history. -/
inductive Accounts : ImportHistory → Inserted → Prop
  | start : Accounts [] .nothing
  | next {history i i' a} (before : Accounts history i) (adds : Adds i i' a) :
    Accounts (history ++ [a]) i'

section Histories
variable {history : ImportHistory} {i i' : Inserted}
  {a : Answered ImageRequest ImageRequest.Answer ImageError}

lemma accounts_nil_iff : Accounts [] i ↔ i = .nothing := by
  constructor
  · intro h
    generalize hhistory : ([] : ImportHistory) = history at h
    cases h with
    | start => rfl
    | next before adds => exact absurd hhistory (by simp)
  · rintro rfl
    exact .start

lemma accounts_append_iff :
    Accounts (history ++ [a]) i' ↔ ∃ i, Accounts history i ∧ Adds i i' a := by
  constructor
  · intro h
    generalize hhistory : history ++ [a] = history' at h
    cases h with
    | start => exact absurd hhistory (by simp)
    | next before adds =>
      obtain ⟨rfl,heq⟩ := List.append_inj' hhistory rfl
      cases heq
      exact ⟨_,before,adds⟩
  · rintro ⟨i,before,adds⟩
    exact .next before adds

end Histories

/-- An answered request adds its rows. -/
lemma adds_exec (c : CallDb) (reply : ImportReply) (r : ImageRequest) :
    Adds c.inserted (c.exec reply r).1.inserted ⟨r,(c.exec reply r).2⟩ := by
  unfold CallDb.exec BatchDb.exec Inserted.record
  split
  · split
    · split
      · exact ⟨[c.db.patches.last+1],.inr ⟨_,rfl⟩,by simp [BatchDb.insertPatch]⟩
      · exact ⟨_,.inl rfl,by simp⟩
    · exact ⟨_,rfl,by simp [BatchDb.insertPatch]⟩
  · split
    · split
      · exact ⟨[c.db.agentPatches.last+1],.inr ⟨_,rfl⟩,by simp [BatchDb.insertAgentPatch]⟩
      · exact ⟨_,.inl rfl,by simp⟩
    · exact ⟨_,rfl,by simp [BatchDb.insertAgentPatch]⟩
  · split
    · split
      · exact ⟨[c.db.evaluations.last+1],.inr ⟨_,rfl⟩,by simp [BatchDb.insertCrashResolutionEval]⟩
      · exact ⟨_,.inl rfl,by simp⟩
    · exact ⟨_,rfl,by simp [BatchDb.insertCrashResolutionEval]⟩
  · rename_i hpatch hentry heval
    unfold Adds
    split
    · rename_i heq
      cases heq
      exact (hpatch _ _ rfl).elim
    · rename_i heq
      cases heq
      exact (hentry _ _ rfl).elim
    · rename_i heq
      cases heq
      exact (heval _ rfl).elim
    · simp

/-! ## The rows are in the tables -/

/-- The table keeps its rows, and the new ids are ids of rows. -/
def Extends {ρ : Type} {key : ρ → ℕ} (t t' : AutoTable key) : Prop :=
  (∀ row ∈ t.rows, row ∈ t'.rows) ∧
    ∀ id ∈ Inserted.newIds t.last t'.last, ∃ row ∈ t'.rows, key row = id

section Tables
variable {ρ : Type} {key : ρ → ℕ} {db db' : BatchDb} {c : CallDb}

lemma Extends.refl (t : AutoTable key) : Extends t t := ⟨fun _ hrow => hrow,by simp⟩

lemma extends_append (t : AutoTable key) (row : ℕ → ρ) (hrow : ∀ n, key (row n) = n) :
    Extends t (t.append row hrow) := by
  refine ⟨fun row' hrow' => ?_,fun id hid => ?_⟩
  · rw [AutoTable.rows_append]
    exact List.mem_append_left _ hrow'
  · rw [AutoTable.last_append,Inserted.newIds_succ,List.mem_singleton] at hid
    subst hid
    rw [AutoTable.rows_append]
    exact ⟨_,List.mem_append_right _ (List.mem_singleton_self _),hrow _⟩

/-- Ids of rows stay so, beside the new ones. -/
lemma Extends.ids {t t' : AutoTable key} (h : Extends t t') {ids : List ℕ}
    (hids : ∀ id ∈ ids, ∃ row ∈ t.rows, key row = id) :
    ∀ id ∈ ids ++ Inserted.newIds t.last t'.last, ∃ row ∈ t'.rows, key row = id := by
  intro id hid
  obtain hid | hid := List.mem_append.mp hid
  · obtain ⟨row,hrow,hkey⟩ := hids id hid
    exact ⟨row,h.1 row hrow,hkey⟩
  · exact h.2 id hid

/-- What happens to the tables takes no row back. -/
structure BatchDb.Grows (db db' : BatchDb) : Prop where
  patches : Extends db.patches db'.patches
  agentPatches : Extends db.agentPatches db'.agentPatches
  evaluations : Extends db.evaluations db'.evaluations

namespace BatchDb

lemma Grows.refl (db : BatchDb) : db.Grows db := ⟨.refl _,.refl _,.refl _⟩

lemma grows_insertPatch (patch : Patch) : db.Grows (db.insertPatch patch) :=
  ⟨extends_append _ _ _,.refl _,.refl _⟩

lemma grows_insertAgentPatch (agentPatch : AgentPatch) :
    db.Grows (db.insertAgentPatch agentPatch) := ⟨.refl _,extends_append _ _ _,.refl _⟩

lemma grows_insertCrashResolutionEval (eval : PatchCrashResolutionEvaluation) :
    db.Grows (db.insertCrashResolutionEval eval) := ⟨.refl _,.refl _,extends_append _ _ _⟩

lemma grows_exec (reply : ImportReply) (r : ImageRequest) : db.Grows (db.exec reply r).1 := by
  unfold BatchDb.exec
  split
  · split
    · split
      · exact grows_insertPatch _
      · exact .refl _
    · exact grows_insertPatch _
  · split
    · split
      · exact grows_insertAgentPatch _
      · exact .refl _
    · exact grows_insertAgentPatch _
  · split
    · split
      · exact grows_insertCrashResolutionEval _
      · exact .refl _
    · exact grows_insertCrashResolutionEval _
  · exact .refl _

end BatchDb

lemma OtherBatch.grows {e : OtherBatch} (h : e.exec db = some db') : db.Grows db' := by
  cases e with
  | begins agentConfigId =>
    obtain ⟨⟨db₁,unionId⟩,hnext,rfl⟩ := Option.map_eq_some_iff.mp h
    obtain ⟨counter,hcounter,hdb⟩ := Option.map_eq_some_iff.mp hnext
    cases hdb
    exact ⟨.refl _,.refl _,.refl _⟩
  | insertPatch patch =>
    cases h
    exact BatchDb.grows_insertPatch patch
  | insertAgentPatch agentPatch =>
    simp only [OtherBatch.exec] at h
    split at h
    · cases h
      exact BatchDb.grows_insertAgentPatch agentPatch
    · cases h
  | insertCrashResolutionEval eval =>
    cases h
    exact BatchDb.grows_insertCrashResolutionEval eval

lemma CallDb.InTables.exec (h : c.InTables) (reply : ImportReply) (r : ImageRequest) :
    (c.exec reply r).1.InTables := by
  have hgrows := @BatchDb.grows_exec c.db reply r
  exact ⟨hgrows.patches.ids h.patches,hgrows.agentPatches.ids h.agentPatches,
    hgrows.evaluations.ids h.evaluations⟩

lemma CallDb.InTables.other (h : c.InTables) (hgrows : c.db.Grows db') :
    CallDb.InTables { c with db := db' } where
  patches id hid :=
    let ⟨row,hrow,hkey⟩ := h.patches id hid
    ⟨row,hgrows.patches.1 row hrow,hkey⟩
  agentPatches id hid :=
    let ⟨row,hrow,hkey⟩ := h.agentPatches id hid
    ⟨row,hgrows.agentPatches.1 row hrow,hkey⟩
  evaluations id hid :=
    let ⟨row,hrow,hkey⟩ := h.evaluations id hid
    ⟨row,hgrows.evaluations.1 row hrow,hkey⟩

end Tables

/-! ## Where the call fails -/

namespace PatchImporter
variable {p : PatchImporter} {bugId : String} {patchData : ImportPatchResult} {unionId : ℤ}
  {addedTime : DateTime}

/-- A body that raises leaves its rows behind. -/
def RaisesLeaving {α : Type} (history : ImportHistory) (x : Except ImageError α) : Prop :=
  ∀ e, x = .error e → ∀ inserted, Accounts history inserted → LeftBehind history inserted

def FailsLeaving (history : ImportHistory) (x : Except ImageError (ℕ ⊕ String)) : Prop :=
  ∀ message, x = .ok (.inr message) → ∀ inserted, Accounts history inserted →
    LeftBehind history inserted

def anyRequest (_ : ImportHistory) (_ : ImageRequest) : Prop := True

lemma raisesLeaving_ok {α : Type} {history : ImportHistory} (a : α) :
    RaisesLeaving history (.ok a) := nofun

section Histories
variable {analyzer : PatchAnalyzer} {analysis : PatchAnalysis} {patch : Patch} {patchId : ℕ}
  {agentPatch : AgentPatch} {agentPatchId : ℕ} {inserted : Inserted}

lemma accounts_analysis {x : Except ImageError PatchAnalysis}
    (h : Accounts [⟨.agent (.analyze analyzer 0),x⟩] inserted) : inserted = ⟨[],[],[]⟩ := by
  obtain ⟨i,hi,hadds⟩ := @accounts_append_iff [] inserted _ |>.mp h
  obtain rfl := accounts_nil_iff.mp hi
  exact hadds

lemma accounts_patch {x : Except ImageError ℕ}
    (h : Accounts [⟨.agent (.analyze analyzer 0),.ok analysis⟩,
      ⟨.agent (.insertPatch patch 0),x⟩] inserted) :
    ∃ ids, HandsOut x ids ∧ inserted = ⟨ids,[],[]⟩ := by
  obtain ⟨i,hi,ids,hids,hadds⟩ := @accounts_append_iff [_] inserted _ |>.mp h
  rw [accounts_analysis hi] at hadds
  exact ⟨ids,hids,hadds⟩

lemma accounts_agentPatch {x : Except ImageError ℕ}
    (h : Accounts [⟨.agent (.analyze analyzer 0),.ok analysis⟩,
      ⟨.agent (.insertPatch patch 0),.ok patchId⟩,
      ⟨.agent (.insertAgentPatch agentPatch 0),x⟩] inserted) :
    ∃ ids, HandsOut x ids ∧ inserted = ⟨[patchId],ids,[]⟩ := by
  obtain ⟨i,hi,ids,hids,hadds⟩ := @accounts_append_iff [_,_] inserted _ |>.mp h
  obtain ⟨ids',hids',rfl⟩ := accounts_patch hi
  rw [show ids' = [patchId] from hids'] at hadds
  exact ⟨ids,hids,hadds⟩

lemma accounts_evaluation {eval : PatchCrashResolutionEvaluation} {x : Except ImageError ℕ}
    (h : Accounts [⟨.agent (.analyze analyzer 0),.ok analysis⟩,
      ⟨.agent (.insertPatch patch 0),.ok patchId⟩,
      ⟨.agent (.insertAgentPatch agentPatch 0),.ok agentPatchId⟩,
      ⟨.eval (.insertCrashResolutionEval eval),x⟩] inserted) :
    ∃ ids, HandsOut x ids ∧ inserted = ⟨[patchId],[agentPatchId],ids⟩ := by
  obtain ⟨i,hi,ids,hids,hadds⟩ := @accounts_append_iff [_,_,_] inserted _ |>.mp h
  obtain ⟨ids',hids',rfl⟩ := accounts_agentPatch hi
  rw [show ids' = [agentPatchId] from hids'] at hadds
  exact ⟨ids,hids,hadds⟩

/-- The evaluation is the last row. -/
lemma follows_storeEvaluation_leaving :
    (p.storeEvaluation bugId patchData agentPatchId >>= fun _ =>
      (pure agentPatchId : ImageCode ℕ)).Follows (historyProtocol anyRequest) RaisesLeaving
      [⟨.agent (.analyze analyzer 0),.ok analysis⟩,⟨.agent (.insertPatch patch 0),.ok patchId⟩,
        ⟨.agent (.insertAgentPatch agentPatch 0),.ok agentPatchId⟩] := by
  unfold storeEvaluation
  split
  · unfold lookup
    cases hkcache : p.kcacheCache.value? bugId with
    | none =>
      intro e he inserted haccounts
      obtain ⟨ids,hids,rfl⟩ := accounts_agentPatch haccounts
      rw [show ids = [agentPatchId] from hids]
      exact .unknownKcache
    | some kcache =>
      refine ⟨trivial,fun x history' hleads => ?_⟩
      obtain rfl := hleads
      cases x with
      | ok evalId => exact raisesLeaving_ok agentPatchId
      | error e =>
        intro e' he inserted haccounts
        obtain ⟨ids,hids,rfl⟩ := accounts_evaluation haccounts
        exact .evaluation hids
  · exact raisesLeaving_ok agentPatchId

end Histories

/-- The rows, one after the other. -/
lemma follows_storePatch_leaving :
    (p.storePatch bugId patchData unionId addedTime).Follows (historyProtocol anyRequest)
      RaisesLeaving [] := by
  cases hbug : p.bugCache.value? bugId with
  | none =>
    have hraise : p.storePatch bugId patchData unionId addedTime =
        .raise (.raised (.exception "KeyError" s!"'{bugId}'")) := by
      unfold storePatch analyzePatch lookup
      rw [hbug]
      rfl
    rw [hraise]
    intro e he inserted haccounts
    rw [accounts_nil_iff.mp haccounts]
    exact .unknownBug
  | some bug =>
    rw [storePatch_eq hbug]
    refine follows_awaitAgent trivial (fun analysis => ?_) fun e e' he inserted haccounts => ?_
    · refine follows_awaitAgent trivial (fun patchId => ?_) fun e e' he inserted haccounts => ?_
      · refine follows_awaitAgent trivial (fun agentPatchId => ?_)
          fun e e' he inserted haccounts => ?_
        · exact follows_storeEvaluation_leaving
        · obtain ⟨ids,hids,rfl⟩ := accounts_agentPatch haccounts
          exact .agentPatch hids
      · obtain ⟨ids,hids,rfl⟩ := accounts_patch haccounts
        exact .patch hids
    · rw [accounts_analysis haccounts]
      exact .analysis

lemma follows_importSinglePatch_leaving :
    (p.importSinglePatch bugId patchData unionId addedTime).Follows (historyProtocol anyRequest)
      FailsLeaving [] := by
  have hstore := @follows_storePatch_leaving p bugId patchData unionId addedTime
  rw [importSinglePatch,tryExcept,Coroutine.follows_tryCatch]
  have hmap : ∀ c : ImageCode ℕ,
      (Sum.inl <$> c : ImageCode (ℕ ⊕ String)) = c >>= fun id => pure (.inl id) := fun c => rfl
  rw [hmap,Coroutine.follows_bind]
  refine hstore.mono fun history x hx => ?_
  cases x with
  | ok agentPatchId =>
    intro message hfailed
    cases hfailed
  | error e =>
    have hleft := hx e rfl
    cases e with
    | cancelled =>
      intro message hfailed
      cases hfailed
    | agent e => exact fun _ _ => hleft
    | raised e => exact fun _ _ => hleft

/-- Where the import of a patch returns an error, beside any other batches, the tables hold all the
rows that it stored before, with at most the row of the insertion that raised. -/
theorem importSinglePatch_leaves {db : BatchDb}
    {s : SharedGroup.State CallDb Unit ImageRequest ImageRequest.Answer ImageError (ℕ ⊕ String)}
    (hs : ((p.callGroup bugId patchData unionId addedTime).machine ⟨db,.nothing⟩).Reachable s)
    {message : String} (hfailed : s.rest () = .done (.inr message)) :
    LeftBehind (s.answered ()) s.shared.inserted ∧ s.shared.InTables := by
  have hbody : ∀ i, ((p.callGroup bugId patchData unionId addedTime).body i).Follows
      (historyProtocol anyRequest) FailsLeaving [] := fun _ => follows_importSinglePatch_leaving
  have hfollowing := SharedGroup.following_of_reachable hbody hs
  have hinvariant : Accounts (s.answered ()) s.shared.inserted ∧ s.shared.InTables := by
    refine SharedGroup.invariant_of_reachable (I := fun c answered =>
      Accounts (answered ()) c.inserted ∧ c.InTables) hbody
      ⟨.start,⟨nofun,nofun,nofun⟩⟩ ?_ ?_ hs
    · rintro c answered ⟨⟩ r reply c' x ⟨haccounts,htables⟩ - hexec
      have hadds := adds_exec c reply r
      have htables' := htables.exec reply r
      rw [Option.some.inj hexec] at hadds htables'
      rw [Function.update_self]
      exact ⟨.next haccounts hadds,htables'⟩
    · rintro c answered e c' ⟨haccounts,htables⟩ hother
      obtain ⟨db',hdb,rfl⟩ := Option.map_eq_some_iff.mp hother
      exact ⟨haccounts,htables.other (OtherBatch.grows hdb)⟩
  exact ⟨hfollowing.ended hfailed message rfl _ hinvariant.1,hinvariant.2⟩

/-- The message of a call that has failed. -/
def failed? : ImageCode (ℕ ⊕ String) → Option String
  | .done (.inr message) => some message
  | _ => none

lemma failed?_eq_some {c : ImageCode (ℕ ⊕ String)} {message : String}
    (h : failed? c = some message) : c = .done (.inr message) := by
  unfold failed? at h
  split at h
  · cases h
    rfl
  · cases h

/-- The table has no column for the cost. -/
def noColumn : ImportReply where
  answers
    | .agent (.insertAgentPatch _ _) => .error (.agent
      (.other "OperationalError" "table agent_patches has no column named dollarCost"))
    | r => importAnswers.answers r
  effect := false

/-- The call for the patch of one bug. -/
def onePatchGroup : SharedGroup CallDb Unit ImageRequest ImageRequest.Answer ImageError (ℕ ⊕ String)
    ImportReply OtherBatch :=
  twoBugs.callGroup "A" ⟨3,"diff --git a/mm/mmap.c",none,some 60,none,none,none,.empty,some true⟩ 3
    KArenaWeb.midJanuary

lemma exists_noColumn : ∃ s message,
    (onePatchGroup.machine ⟨twoBatches,.nothing⟩).Reachable s ∧
      s.rest () = .done (.inr message) ∧ s.shared.inserted = ⟨[1],[],[]⟩ := by
  obtain ⟨s,hs,hp⟩ := Machine.exists_of_replay (onePatchGroup.machine ⟨twoBatches,.nothing⟩)
    (fun _ _ => True) (List.replicate 3 (.resume () noColumn))
    (fun s => (failed? (s.rest ())).isSome && s.shared.inserted.patches = [1] &&
      s.shared.inserted.agentPatches = [] && s.shared.inserted.evaluations = []) rfl
    (by decide +kernel)
  simp only [Bool.and_eq_true,decide_eq_true_eq,Option.isSome_iff_exists] at hp
  obtain ⟨⟨⟨⟨message,hfailed⟩,hpatches⟩,hagentPatches⟩,hevaluations⟩ := hp
  exact ⟨s,message,hs,failed?_eq_some hfailed,
    congr (congrArg₂ Inserted.mk hpatches hagentPatches) hevaluations⟩

theorem importSinglePatch_leaves_noColumn : ∃ s message,
    (onePatchGroup.machine ⟨twoBatches,.nothing⟩).Reachable s ∧
      s.rest () = .done (.inr message) ∧
      LeftBehind (s.answered ()) s.shared.inserted ∧ s.shared.InTables := by
  obtain ⟨s,message,hs,hfailed,-⟩ := exists_noColumn
  exact ⟨s,message,hs,hfailed,importSinglePatch_leaves hs hfailed⟩

/-- The patch stays in its table. -/
theorem importSinglePatch_leaves_patch : ¬∀ (p : PatchImporter) (bugId : String)
    (patchData : ImportPatchResult) (unionId : ℤ) (addedTime : DateTime) (db : BatchDb)
    (s : SharedGroup.State CallDb Unit ImageRequest ImageRequest.Answer ImageError (ℕ ⊕ String))
    (message : String),
    ((p.callGroup bugId patchData unionId addedTime).machine ⟨db,.nothing⟩).Reachable s →
      s.rest () = .done (.inr message) → s.shared.inserted = .nothing := by
  intro h
  obtain ⟨s,message,hs,hfailed,hinserted⟩ := exists_noColumn
  have hnothing := h _ _ _ _ _ _ s message hs hfailed
  rw [hinserted] at hnothing
  cases hnothing

end PatchImporter

end LiveKBench.KArenaPipeline
