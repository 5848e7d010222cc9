import LiveKBench.KArenaDb.Datasets
import LiveKBench.KArenaDb.TimeOrder
import LiveKBench.Lib.Relational

/-! The bugs that a configuration has still to be run on: one grouped query over the tables of the
kernels, the datasets, the developer patches and the agent patches. -/
namespace LiveKBench.KArenaDb
open KArenaWeb (DateTime)
open Lib

/-- The tables of the query. Two of them have a second key beside the one that the database hands
out. -/
structure RunsDb where
  kcache : AutoTable KCache.kCacheId
  members : Table Member.key
  developerPatches : AutoTable DeveloperPatch.devPatchId
  agentPatches : AutoTable AgentPatch.agentPatchId
  uniqueKernels : (kcache.rows.map fun k => (k.bugId,k.baseCommit)).Nodup

namespace RunsDb

/-- `insert_agent_patch`; the entry gets the next id. -/
def insertAgentPatch (db : RunsDb) (agentPatch : AgentPatch) : RunsDb :=
  { db with
    agentPatches := db.agentPatches.append (fun agentPatchId => { agentPatch with agentPatchId })
      agentPatch.key_stored }

def insertAgentPatches (db : RunsDb) (agentPatches : List AgentPatch) : RunsDb :=
  agentPatches.foldl insertAgentPatch db

end RunsDb

/-- The arguments of `_get_unattempted_bugs`. -/
structure RunsQuery where
  baseCommit : BaseCommit
  agentConfigId : ℤ
  independentRuns : ℤ
  datasetId : Option ℤ
  fixedAfter : Option DateTime
  fixedBefore : Option DateTime

namespace RunsQuery
variable (q : RunsQuery) (db : RunsDb)

/-- `FROM kcache k`, with the join of the dataset where one is given. -/
def kernels : List KCache :=
  match q.datasetId with
  | none => db.kcache.rows
  | some datasetId =>
    (innerJoin db.kcache.rows db.members.rows fun k bdm =>
      k.bugId = bdm.bugId && bdm.datasetId = datasetId).map Prod.fst

/-- The subquery of the dates; the times are columns of text. -/
def bugsInDates : List String :=
  (db.developerPatches.rows.filter fun dp =>
    (match q.fixedAfter with
      | none => true
      | some fixedAfter => textLe fixedAfter.isoformat.toList dp.fixedTime.isoformat.toList) &&
    (match q.fixedBefore with
      | none => true
      | some fixedBefore => textLe dp.fixedTime.isoformat.toList fixedBefore.isoformat.toList)).map
    DeveloperPatch.bugId

/-- `date_filter`. -/
def dateFilter (bugId : String) : Bool :=
  if q.fixedAfter.isSome || q.fixedBefore.isSome then bugId ∈ q.bugsInDates db else true

def selects (k : KCache) : Bool :=
  k.baseCommit = q.baseCommit && k.status = .success && k.kGymEvaluation = some .reproduced &&
    q.dateFilter db k.bugId

def counts (k : KCache) (ap : AgentPatch) : Bool :=
  k.bugId = ap.bugId && ap.agentConfigId = q.agentConfigId

/-- The rows before they are grouped. -/
def joined : List (KCache × Option AgentPatch) :=
  (leftJoin (q.kernels db) db.agentPatches.rows q.counts).filter fun row => q.selects db row.1

/-- `COUNT(ap.agentPatchId)`; it passes over the nulls. -/
def count (group : List (KCache × Option AgentPatch)) : ℕ := group.countP fun row => row.2.isSome

/-- `_get_unattempted_bugs`. -/
def getUnattemptedBugs : List (String × ℤ) :=
  ((groupBy (fun row => row.1.bugId) (q.joined db)).filter fun group =>
    (count group.2 : ℤ) < q.independentRuns).map fun group =>
      (group.1,q.independentRuns-(count group.2 : ℤ))

/-! ## What the list should hold -/

/-- The kernel of the bug is there, and reproduces it. -/
def Reproduced (bugId : String) : Prop :=
  ∃ k ∈ db.kcache.rows, k.bugId = bugId ∧ k.baseCommit = q.baseCommit ∧ k.status = .success ∧
    k.kGymEvaluation = some .reproduced

def InDataset (bugId : String) : Prop :=
  ∀ datasetId ∈ q.datasetId, ∃ bdm ∈ db.members.rows, bdm.datasetId = datasetId ∧ bdm.bugId = bugId

def FixedInTime (bugId : String) : Prop :=
  q.fixedAfter.isSome ∨ q.fixedBefore.isSome → ∃ dp ∈ db.developerPatches.rows,
    dp.bugId = bugId ∧ (∀ t ∈ q.fixedAfter, NotLater t dp.fixedTime) ∧
      ∀ t ∈ q.fixedBefore, NotLater dp.fixedTime t

/-- The runs that the configuration has had on the bug. -/
def runsOn (bugId : String) : ℕ :=
  db.agentPatches.rows.countP fun ap => ap.bugId = bugId && ap.agentConfigId = q.agentConfigId

/-- No time that is compared knows an offset; without a bound none is. -/
structure Naive : Prop where
  fixedTime : q.fixedAfter.isSome ∨ q.fixedBefore.isSome →
    ∀ dp ∈ db.developerPatches.rows, dp.fixedTime.utcoffset = none
  fixedAfter : ∀ t ∈ q.fixedAfter, t.utcoffset = none
  fixedBefore : ∀ t ∈ q.fixedBefore, t.utcoffset = none

/-- Each bug at most once, with the runs that it still needs. -/
structure Exact (bugs : List (String × ℤ)) : Prop where
  once : (bugs.map Prod.fst).Nodup
  lists : ∀ bugId remaining, (bugId,remaining) ∈ bugs ↔
    q.Reproduced db bugId ∧ q.InDataset db bugId ∧ q.FixedInTime db bugId ∧
      (q.runsOn db bugId : ℤ) < q.independentRuns ∧
      remaining = q.independentRuns-(q.runsOn db bugId : ℤ)

section Exact
variable {q : RunsQuery} {db : RunsDb}

/-- A member is joined once, so that the join only selects. -/
lemma kernels_eq : q.kernels db = db.kcache.rows.filter fun k =>
    q.datasetId.all fun datasetId =>
      db.members.rows.any fun bdm => k.bugId = bdm.bugId && bdm.datasetId = datasetId := by
  unfold kernels
  cases hd : q.datasetId with
  | none => simp
  | some datasetId =>
    refine (map_fst_innerJoin fun k _ bdm hbdm hon => ?_).trans (by simp)
    refine filter_of_unique db.members.nodup (k := (datasetId,k.bugId)) ?_ hbdm hon
    intro bdm' _ hon'
    simp only [Bool.and_eq_true,decide_eq_true_eq] at hon'
    rw [Member.key,hon'.1,hon'.2]

lemma dateFilter_iff (hnaive : q.Naive db) {bugId : String} :
    q.dateFilter db bugId = true ↔ q.FixedInTime db bugId := by
  have hin : bugId ∈ q.bugsInDates db ↔ ∃ dp ∈ db.developerPatches.rows, dp.bugId = bugId ∧
      (∀ t ∈ q.fixedAfter, NotLater t dp.fixedTime) ∧
      ∀ t ∈ q.fixedBefore, NotLater dp.fixedTime t := by
    rw [bugsInDates,List.mem_map]
    refine exists_congr fun dp => ?_
    rw [List.mem_filter,and_assoc,and_comm (b := dp.bugId = bugId),Bool.and_eq_true]
    refine and_congr_right fun hdp => and_congr_right fun _ => and_congr ?_ ?_
    · cases hafter : q.fixedAfter with
      | none => simp
      | some t =>
        have hfixed := hnaive.fixedTime (.inl (by rw [hafter]; rfl)) dp hdp
        simp [isoformat_textLe_iff (hnaive.fixedAfter t hafter) hfixed]
    · cases hbefore : q.fixedBefore with
      | none => simp
      | some t =>
        have hfixed := hnaive.fixedTime (.inr (by rw [hbefore]; rfl)) dp hdp
        simp [isoformat_textLe_iff hfixed (hnaive.fixedBefore t hbefore)]
  unfold dateFilter FixedInTime
  rw [← hin]
  by_cases hgiven : q.fixedAfter.isSome ∨ q.fixedBefore.isSome
  · simp [hgiven]
  · simp [hgiven]

/-- The kernels that count for a bug. -/
def kernelsOf (q : RunsQuery) (db : RunsDb) (bugId : String) : List KCache :=
  ((q.kernels db).filter (q.selects db)).filter fun k => k.bugId = bugId

/-- There is at most one of them. -/
lemma kernelsOf_eq {bugId : String} {k : KCache}
    (hk : k ∈ q.kernelsOf db bugId) : q.kernelsOf db bugId = [k] := by
  unfold kernelsOf at hk ⊢
  rw [kernels_eq,List.filter_filter,List.filter_filter] at hk ⊢
  obtain ⟨hrow,hselected⟩ := List.mem_filter.mp hk
  refine filter_of_unique db.uniqueKernels (k := (bugId,q.baseCommit)) ?_ hrow hselected
  intro k' _ hk'
  simp only [selects,Bool.and_eq_true,decide_eq_true_eq] at hk'
  rw [hk'.1.1,hk'.1.2.1.1.1]

lemma exists_mem_kernelsOf (hnaive : q.Naive db) {bugId : String} :
    (∃ k, k ∈ q.kernelsOf db bugId) ↔
      q.Reproduced db bugId ∧ q.InDataset db bugId ∧ q.FixedInTime db bugId := by
  have hmember : (q.datasetId.all fun datasetId => db.members.rows.any fun bdm =>
      bugId = bdm.bugId && bdm.datasetId = datasetId) = true ↔ q.InDataset db bugId := by
    unfold InDataset
    cases q.datasetId with
    | none => simp
    | some datasetId =>
      simp only [Option.all_some,List.any_eq_true,Bool.and_eq_true,decide_eq_true_eq,
        Option.mem_def,Option.some.injEq,forall_eq']
      exact exists_congr fun bdm => and_congr_right fun _ => by
        rw [and_comm,eq_comm (a := bugId)]
  rw [← hmember,← dateFilter_iff hnaive]
  unfold kernelsOf Reproduced
  constructor
  · intro ⟨k,hk⟩
    rw [kernels_eq] at hk
    simp only [selects,List.mem_filter,Bool.and_eq_true,decide_eq_true_eq] at hk
    obtain ⟨⟨⟨hrow,hin⟩,⟨⟨hbase,hstatus⟩,hverdict⟩,hdates⟩,rfl⟩ := hk
    exact ⟨⟨k,hrow,rfl,hbase,hstatus,hverdict⟩,hin,hdates⟩
  · rintro ⟨⟨k,hrow,rfl,hbase,hstatus,hverdict⟩,hin,hdates⟩
    refine ⟨k,?_⟩
    rw [kernels_eq]
    simp only [selects,List.mem_filter,Bool.and_eq_true,decide_eq_true_eq,and_true]
    exact ⟨⟨hrow,hin⟩,⟨⟨hbase,hstatus⟩,hverdict⟩,hdates⟩

/-- The rows of a bug in the join are those of its one kernel. -/
lemma filter_joined (bugId : String) :
    (q.joined db).filter (fun row => row.1.bugId = bugId) =
      leftJoin (q.kernelsOf db bugId) db.agentPatches.rows q.counts := by
  unfold joined kernelsOf
  rw [filter_leftJoin]
  exact filter_leftJoin _ _ _ fun k : KCache => decide (k.bugId = bugId)

lemma bugId_of_mem_kernelsOf {bugId : String} {k : KCache} (hk : k ∈ q.kernelsOf db bugId) :
    k.bugId = bugId := by simpa using (List.mem_filter.mp hk).2

/-- The count of a group is that of the runs. -/
lemma count_group {bugId : String} {k : KCache} (hk : k ∈ q.kernelsOf db bugId) :
    count ((q.joined db).filter fun row => row.1.bugId = bugId) = q.runsOn db bugId := by
  have hon : q.counts k = fun ap =>
      ap.bugId = bugId && ap.agentConfigId = q.agentConfigId := by
    funext ap
    rw [counts,bugId_of_mem_kernelsOf hk]
    simp [eq_comm]
  rw [filter_joined,kernelsOf_eq hk,leftJoin,List.flatMap_singleton,count,List.countP_map]
  exact (countP_matches? db.agentPatches.rows (q.counts k)).trans (by rw [hon]; rfl)

lemma exists_mem_joined {bugId : String} :
    (∃ row ∈ q.joined db, row.1.bugId = bugId) ↔ ∃ k, k ∈ q.kernelsOf db bugId := by
  have hrows : (∃ row ∈ q.joined db, row.1.bugId = bugId) ↔
      ∃ k ap, (k,ap) ∈ leftJoin (q.kernelsOf db bugId) db.agentPatches.rows q.counts := by
    rw [← filter_joined]
    simp
  rw [hrows]
  exact exists_congr fun k => mem_leftJoin

/-- The query lists what it should. -/
theorem exact_getUnattemptedBugs (hnaive : q.Naive db) :
    q.Exact db (q.getUnattemptedBugs db) where
  once := by
    rw [getUnattemptedBugs,List.map_map]
    exact nodup_groupBy.sublist (List.filter_sublist.map _)
  lists := by
    intro bugId remaining
    have hselected : ∀ group, (bugId,group) ∈ groupBy (fun row => row.1.bugId) (q.joined db) ↔
        (q.Reproduced db bugId ∧ q.InDataset db bugId ∧ q.FixedInTime db bugId) ∧
          group = (q.joined db).filter fun row => row.1.bugId = bugId := by
      intro group
      rw [mem_groupBy,exists_mem_joined,exists_mem_kernelsOf hnaive]
    have hcount : q.Reproduced db bugId ∧ q.InDataset db bugId ∧ q.FixedInTime db bugId →
        count ((q.joined db).filter fun row => row.1.bugId = bugId) = q.runsOn db bugId := by
      intro h
      obtain ⟨k,hk⟩ := (exists_mem_kernelsOf hnaive).mpr h
      exact count_group hk
    rw [getUnattemptedBugs,List.mem_map]
    constructor
    · intro ⟨⟨bugId',group⟩,hmem,heq⟩
      simp only [Prod.mk.injEq] at heq
      obtain ⟨rfl,hremaining⟩ := heq
      obtain ⟨hgroup,hhaving⟩ := List.mem_filter.mp hmem
      obtain ⟨h,hrows⟩ := (hselected group).mp hgroup
      rw [hrows,hcount h] at hremaining
      simp only [hrows,hcount h,decide_eq_true_eq] at hhaving
      exact ⟨h.1,h.2.1,h.2.2,hhaving,hremaining.symm⟩
    · intro ⟨hreproduced,hin,htime,hfew,hremaining⟩
      have h := hcount ⟨hreproduced,hin,htime⟩
      refine ⟨(bugId,_),List.mem_filter.mpr ⟨(hselected _).mpr ⟨⟨hreproduced,hin,htime⟩,rfl⟩,?_⟩,?_⟩
      · rw [h]
        exact decide_eq_true hfew
      · rw [h,hremaining]

end Exact

/-! ## What insertions leave to do -/

section Insertions
variable {q : RunsQuery} {db : RunsDb}

/-- The other tables stay as they are. -/
lemma tables_insertAgentPatches (agentPatches : List AgentPatch) :
    (db.insertAgentPatches agentPatches).kcache = db.kcache ∧
      (db.insertAgentPatches agentPatches).members = db.members ∧
      (db.insertAgentPatches agentPatches).developerPatches = db.developerPatches := by
  induction agentPatches generalizing db with
  | nil => exact ⟨rfl,rfl,rfl⟩
  | cons agentPatch agentPatches ih => exact @ih (db.insertAgentPatch agentPatch)

/-- The entry is a run of the configuration on the bug. -/
def isRunOn (q : RunsQuery) (bugId : String) (ap : AgentPatch) : Bool :=
  ap.bugId = bugId && ap.agentConfigId = q.agentConfigId

lemma runsOn_insertAgentPatches (agentPatches : List AgentPatch) (bugId : String) :
    q.runsOn (db.insertAgentPatches agentPatches) bugId =
      q.runsOn db bugId+agentPatches.countP (q.isRunOn bugId) := by
  induction agentPatches generalizing db with
  | nil => rfl
  | cons agentPatch agentPatches ih =>
    have hone : q.runsOn (db.insertAgentPatch agentPatch) bugId =
        q.runsOn db bugId+if q.isRunOn bugId agentPatch then 1 else 0 := by
      simp [runsOn,RunsDb.insertAgentPatch,isRunOn,List.countP_append,List.countP_singleton]
    rw [RunsDb.insertAgentPatches,List.foldl_cons]
    refine (@ih (db.insertAgentPatch agentPatch)).trans ?_
    rw [hone,List.countP_cons]
    omega

/-- Insertions that give every listed bug the runs it still needs leave nothing to do. -/
theorem getUnattemptedBugs_eq_nil (hnaive : q.Naive db) {agentPatches : List AgentPatch}
    (h : ∀ bugId remaining, (bugId,remaining) ∈ q.getUnattemptedBugs db →
      remaining ≤ (agentPatches.countP (q.isRunOn bugId) : ℤ)) :
    q.getUnattemptedBugs (db.insertAgentPatches agentPatches) = [] := by
  obtain ⟨hkcache,hmembers,hdev⟩ := @tables_insertAgentPatches db agentPatches
  have hnaive' : q.Naive (db.insertAgentPatches agentPatches) :=
    ⟨by rw [hdev]; exact hnaive.fixedTime,hnaive.fixedAfter,hnaive.fixedBefore⟩
  apply List.eq_nil_iff_forall_not_mem.mpr
  intro ⟨bugId,remaining⟩ hmem
  have hlisted := ((exact_getUnattemptedBugs hnaive').lists bugId remaining).mp hmem
  simp only [Reproduced,InDataset,FixedInTime,hkcache,hmembers,hdev,
    runsOn_insertAgentPatches] at hlisted
  obtain ⟨hreproduced,hin,htime,hfew,-⟩ := hlisted
  push_cast at hfew
  have hbefore := h bugId _ (((exact_getUnattemptedBugs hnaive).lists bugId _).mpr
    ⟨hreproduced,hin,htime,by omega,rfl⟩)
  omega

end Insertions
end RunsQuery
end LiveKBench.KArenaDb
