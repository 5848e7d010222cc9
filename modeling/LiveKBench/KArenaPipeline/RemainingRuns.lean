import LiveKBench.KArenaDb.UnattemptedBugs
import LiveKBench.KArenaPipeline.AgentPatchProcess
import Mathlib.Data.List.Perm.Subperm

/-! A batch over the bugs that a configuration has still to be run on, with the runs that each of
them needs. Where every run stores its patch, nothing is left to do. -/
namespace LiveKBench.KArenaPipeline
open KArenaDb
open Lib

namespace AgentPatchProcess
variable (p : AgentPatchProcess)

/-- The entries that a task has inserted and got an id for, with the numbers of their attempts. -/
def insertions (answers : Answers) (made : List AgentRequest) : List (AgentPatch × ℕ) :=
  made.filterMap fun
    | .insertAgentPatch agentPatch attempt =>
      (answers (.insertAgentPatch agentPatch attempt)).toOption.map fun _ => (agentPatch,attempt)
    | _ => none

/-- What a batch has stored, bug by bug. -/
def storedPatches (answers : String → Answers) (made : String → List AgentRequest) :
    List AgentPatch :=
  p.bugIds.flatMap fun bugId => (insertions (answers bugId) (made bugId)).map Prod.fst

/-- The task of a bug inserts entries of this bug and of the configuration of the batch. -/
def InsertsOwn (bugId : String) : AgentRequest → Prop
  | .insertAgentPatch agentPatch _ =>
    agentPatch.bugId = bugId ∧ agentPatch.agentConfigId = p.agentConfigId
  | _ => True

/-- Every run of the batch has stored its patch. -/
def EveryRunStores (answers : String → Answers) (made : String → List AgentRequest) : Prop :=
  ∀ bugId ∈ p.bugIds, ∀ attempt ∈ p.runs bugId,
    ∃ agentPatch, (agentPatch,attempt) ∈ insertions (answers bugId) (made bugId)

/-- The batch over the list of the query has come to where every run has stored its patch, and the
database has got the entries in some order. -/
structure StoresAll (q : RunsQuery) (db : RunsDb) (nInstance : ℤ) (answers : String → Answers)
    (unionId : ℤ) (s : GuardedTasks.State String AgentRequest AgentRequest.Answer AgentError
      (List AgentPatch) (List AgentPatch)) (agentPatches : List AgentPatch) : Prop where
  config : p.agentConfigId = q.agentConfigId
  bugs : p.bugRuns = runsOf ((q.getUnattemptedBugs db).map .inr) nInstance
  reached : ((p.tasks unionId).machine answers).Reachable s
  stored : p.EveryRunStores answers s.made
  entries : agentPatches.Perm (p.storedPatches answers s.made)

section Stores
variable {p : AgentPatchProcess} {answers : String → Answers} {bugId : String} {unionId : ℤ}

lemma insertsOwn_of_docker (r : AgentRequest) (h : r.IsDocker) : p.InsertsOwn bugId r := by
  cases r with
  | insertAgentPatch agentPatch attempt => exact h.elim
  | _ => trivial

lemma makes_patchOf (result : AgentRun.Result) (bug : SyzbotBug) (baseCommit : BaseCommit)
    (attempt : ℕ) : (patchOf result bug baseCommit attempt).Makes (p.InsertsOwn bugId) := by
  unfold patchOf
  split
  · exact Coroutine.makes_pure _
  · exact Coroutine.Makes.bind (Coroutine.makes_request trivial) fun _ => Coroutine.makes_pure _

lemma makes_processSingleBug (attempt : ℕ) :
    (p.processSingleBug bugId unionId attempt).Makes (p.InsertsOwn bugId) := by
  refine Coroutine.Makes.bind (Coroutine.makes_request trivial) fun bug => ?_
  refine Coroutine.Makes.bind (Coroutine.makes_request trivial) fun kcache => ?_
  refine Coroutine.Makes.bind (Coroutine.makes_request trivial) fun result => ?_
  refine (makes_patchOf result bug _ attempt).bind fun patch => ?_
  refine Coroutine.Makes.bind (Coroutine.makes_request trivial) fun patchId => ?_
  refine Coroutine.Makes.bind (Coroutine.makes_request trivial) fun addedTime => ?_
  refine Coroutine.Makes.bind (Coroutine.makes_request ⟨rfl,rfl⟩) fun agentPatchId => ?_
  refine Coroutine.Makes.bind (Coroutine.makes_request trivial) fun _ => ?_
  exact Coroutine.Makes.bind (Coroutine.makes_request trivial) fun _ => Coroutine.makes_pure _

lemma makes_instances (attempts : List ℕ) :
    (p.instances bugId unionId attempts).Makes (p.InsertsOwn bugId) := by
  induction attempts with
  | nil => exact Coroutine.makes_pure _
  | cons attempt attempts ih =>
    refine Coroutine.Makes.bind (Coroutine.Makes.tryCatch ?_ fun _ => Coroutine.makes_pure _)
      fun patch => ih.bind fun patches => Coroutine.makes_pure _
    exact (makes_processSingleBug attempt).bind fun _ => Coroutine.makes_pure _

/-- All that the task of a bug asks for. -/
lemma makes_task :
    (p.guarded unionId bugId >>= (p.tasks unionId).rest bugId).Makes (p.InsertsOwn bugId) := by
  refine Coroutine.Makes.bind ?_ fun patches => ?_
  · exact (KenvImageManager.makes_ensureAgentImage _).mono insertsOwn_of_docker |>.bind
      fun _ => makes_instances _
  · exact (KenvImageManager.makes_cleanupImages _).mono insertsOwn_of_docker |>.bind
      fun _ => Coroutine.makes_pure _

lemma insertsOwn_of_made {s : GuardedTasks.State String AgentRequest AgentRequest.Answer AgentError
      (List AgentPatch) (List AgentPatch)}
    (hs : ((p.tasks unionId).machine answers).Reachable s) :
    ∀ r ∈ s.made bugId, p.InsertsOwn bugId r := fun r hr =>
  makes_task.of_mem_run r ((GuardedTasks.made_prefix hs bugId).subset hr)

/-- As many entries of the bug as it has runs. -/
lemma runs_le_insertions {made : String → List AgentRequest}
    (hstored : p.EveryRunStores answers made) (hb : bugId ∈ p.bugIds) :
    (p.runs bugId).length ≤ (insertions (answers bugId) (made bugId)).length := by
  have hsubset : p.runs bugId ⊆ (insertions (answers bugId) (made bugId)).map Prod.snd := by
    intro attempt hattempt
    obtain ⟨agentPatch,hmem⟩ := hstored bugId hb attempt hattempt
    exact List.mem_map.mpr ⟨_,hmem,rfl⟩
  have hnodup : (p.runs bugId).Nodup := List.nodup_range
  have hle := (List.subperm_of_subset hnodup hsubset).length_le
  rwa [List.length_map] at hle

lemma isRunOn_of_mem_insertions {q : RunsQuery} (hconfig : p.agentConfigId = q.agentConfigId)
    {made : List AgentRequest} (hown : ∀ r ∈ made, p.InsertsOwn bugId r) {answers : Answers}
    {entry : AgentPatch × ℕ} (h : entry ∈ insertions answers made) :
    q.isRunOn bugId entry.1 = true := by
  obtain ⟨r,hr,hentry⟩ := List.mem_filterMap.mp h
  have hr' := hown r hr
  cases r with
  | insertAgentPatch agentPatch attempt =>
    obtain ⟨agentPatchId,-,rfl⟩ := Option.map_eq_some_iff.mp hentry
    obtain ⟨hbug,hconfig'⟩ := hr'
    simp [RunsQuery.isRunOn,hbug,hconfig',hconfig]
  | _ => cases hentry

/-- The entries of the batch that are runs on one of its bugs. -/
lemma runs_le_countP {q : RunsQuery} (hconfig : p.agentConfigId = q.agentConfigId)
    {s : GuardedTasks.State String AgentRequest AgentRequest.Answer AgentError
      (List AgentPatch) (List AgentPatch)}
    (hs : ((p.tasks unionId).machine answers).Reachable s)
    (hstored : p.EveryRunStores answers s.made) (hb : bugId ∈ p.bugIds) :
    (p.runs bugId).length ≤ (p.storedPatches answers s.made).countP (q.isRunOn bugId) := by
  have hall : ((insertions (answers bugId) (s.made bugId)).map Prod.fst).countP
      (q.isRunOn bugId) = (insertions (answers bugId) (s.made bugId)).length := by
    rw [List.countP_map,List.countP_eq_length]
    exact fun entry h => isRunOn_of_mem_insertions hconfig (insertsOwn_of_made hs) h
  have hpart : ((insertions (answers bugId) (s.made bugId)).map Prod.fst).Sublist
      (p.storedPatches answers s.made) :=
    List.sublist_flatten_of_mem (List.mem_map.mpr ⟨bugId,hb,rfl⟩)
  calc (p.runs bugId).length
    _ ≤ (insertions (answers bugId) (s.made bugId)).length := runs_le_insertions hstored hb
    _ = _ := hall.symm
    _ ≤ _ := hpart.countP_le

/-- Each bug of the list is one of the batch, with the runs that the list gives it. -/
lemma runs_of_listed {q : RunsQuery} {db : RunsDb} {nInstance : ℤ}
    (hbugs : p.bugRuns = runsOf ((q.getUnattemptedBugs db).map .inr) nInstance)
    (honce : ((q.getUnattemptedBugs db).map Prod.fst).Nodup) {remaining : ℤ}
    (hlisted : (bugId,remaining) ∈ q.getUnattemptedBugs db) :
    bugId ∈ p.bugIds ∧ p.runs bugId = List.range remaining.toNat := by
  have hrows : p.bugRuns.rows = q.getUnattemptedBugs db := by
    rw [hbugs,runsOf,List.map_map]
    exact (congrArg (fun entries => (OrderedMap.ofEntries entries).rows) (List.map_id _)).trans
      (OrderedMap.rows_ofEntries honce)
  have hvalue : p.bugRuns.value? bugId = some remaining := by
    have hget : p.bugRuns.get? bugId = some (bugId,remaining) :=
      Table.get?_eq_some.mpr ⟨hrows ▸ hlisted,rfl⟩
    rw [OrderedMap.value?,hget]
    rfl
  refine ⟨?_,by rw [runs,hvalue]; rfl⟩
  rw [bugIds,hrows]
  exact List.mem_map.mpr ⟨_,hlisted,rfl⟩

/-- The query counts the runs that are left, and a batch over its list in which every run stores
its patch leaves none. -/
theorem remaining_runs_exact (q : RunsQuery) (db : RunsDb) (hnaive : q.Naive db) :
    q.Exact db (q.getUnattemptedBugs db) ∧
    ∀ (p : AgentPatchProcess) (nInstance : ℤ) (answers : String → Answers) (unionId : ℤ)
      (s : GuardedTasks.State String AgentRequest AgentRequest.Answer AgentError
        (List AgentPatch) (List AgentPatch)) (agentPatches : List AgentPatch),
      p.StoresAll q db nInstance answers unionId s agentPatches →
      q.getUnattemptedBugs (db.insertAgentPatches agentPatches) = [] := by
  have hexact := RunsQuery.exact_getUnattemptedBugs hnaive
  refine ⟨hexact,fun p nInstance answers unionId s agentPatches hall => ?_⟩
  apply RunsQuery.getUnattemptedBugs_eq_nil hnaive
  intro bugId remaining hlisted
  obtain ⟨hb,hruns⟩ := runs_of_listed hall.bugs hexact.once hlisted
  have hle := runs_le_countP hall.config hall.reached hall.stored hb
  rw [hruns,List.length_range] at hle
  rw [hall.entries.countP_eq]
  omega

/-! ## One bug -/

/-- The kernel reproduces the bug, which was fixed at the end of the month. -/
def oneKernel : RunsDb where
  kcache := .append .empty (fun kCacheId =>
    { kCacheId
      bugId := "b1"
      baseCommit := .parentCommit
      addedTime := KArenaWeb.endOfJanuary
      kGymJobId := "00000001"
      status := .success
      systemMessage := ""
      storageKey := none
      storageUri := none
      kGymEvaluation := some .reproduced
      kGymEvaluationResult := none
      crashReport := none }) fun _ => rfl
  members := .empty
  developerPatches := .append .empty (fun devPatchId =>
    ⟨devPatchId,1,"b1","commit",KArenaWeb.endOfJanuary,KArenaWeb.endOfJanuary,"",.empty⟩) fun _ => rfl
  agentPatches := .empty
  uniqueKernels := List.nodup_singleton _

def sinceMidJanuary : RunsQuery where
  baseCommit := .parentCommit
  agentConfigId := 1
  independentRuns := 2
  datasetId := none
  fixedAfter := some KArenaWeb.midJanuary
  fixedBefore := none

/-- Docker has the images, and the agent ends with an error. -/
def oneFixed : Answers
  | .docker _ => .ok ⟨0,"",""⟩
  | .sleep _ => .ok ()
  | .getBug bugId _ => .ok
      ⟨bugId,"e1","",KArenaWeb.midJanuary,KArenaWeb.midJanuary,.fixed,[],"","","","",renamedBug⟩
  | .getLatestKcache bugId baseCommit _ => .ok
      ⟨1,bugId,baseCommit,KArenaWeb.midJanuary,"",.success,"",none,none,some .reproduced,none,none⟩
  | .runAgent _ _ => .ok ⟨.error,"Agent failed",none,none,none,none,none,none⟩
  | .analyze _ _ => .error (.other "OSError" "")
  | .now _ => .ok KArenaWeb.endOfJanuary
  | .insertPatch _ attempt => .ok (attempt+1)
  | .insertAgentPatch _ attempt => .ok (attempt+1)
  | .saveFiles _ _ _ _ => .ok ()
  | .updateAgentPatchKeys _ _ _ _ => .ok ()

def remainingBatch : AgentPatchProcess :=
  { twoBugs with bugRuns := runsOf [.inr ("b1",2)] 1 }

lemma getUnattemptedBugs_oneKernel :
    sinceMidJanuary.getUnattemptedBugs oneKernel = [("b1",2)] := by decide +kernel

lemma naive_oneKernel : sinceMidJanuary.Naive oneKernel where
  fixedTime := by
    intro _ dp hdp
    obtain rfl := List.mem_singleton.mp hdp
    rfl
  fixedAfter := by
    intro t ht
    cases ht
    rfl
  fixedBefore := nofun

/-- The bug needs two runs; once they have stored their patches it needs none. -/
theorem remaining_runs_exact_oneKernel :
    sinceMidJanuary.getUnattemptedBugs oneKernel = [("b1",2)] ∧
    ∃ s agentPatches, agentPatches ≠ [] ∧
      remainingBatch.StoresAll sinceMidJanuary oneKernel 1 (fun _ => oneFixed) 1 s agentPatches ∧
      sinceMidJanuary.getUnattemptedBugs (oneKernel.insertAgentPatches agentPatches) = [] := by
  refine ⟨getUnattemptedBugs_oneKernel,?_⟩
  obtain ⟨s,hs,hstuck⟩ := (remainingBatch.tasks 1).exists_stuck fun _ => oneFixed
  have hitems : ∀ bugId ∈ remainingBatch.bugIds, bugId = "b1" := by decide
  have halone : ∃ patches, ((remainingBatch.tasks 1).alone (fun _ => oneFixed) "b1").2 =
      .ok patches := ⟨_,rfl⟩
  obtain ⟨patches,hpatches⟩ := halone
  have hmade := (hstuck.ended_ok hs (fun _ => Nat.succ_pos 15) (fun bugId hb => by
    rw [hitems bugId hb]
    exact ⟨patches,hpatches⟩) (by decide) hpatches).2
  have hattempts : ∃ first second, insertions oneFixed (s.made "b1") = [(first,0),(second,1)] := by
    rw [hmade]
    exact ⟨_,_,rfl⟩
  obtain ⟨first,second,hinsertions⟩ := hattempts
  have hall : remainingBatch.StoresAll sinceMidJanuary oneKernel 1 (fun _ => oneFixed) 1 s
      (remainingBatch.storedPatches (fun _ => oneFixed) s.made) := by
    refine ⟨rfl,by rw [getUnattemptedBugs_oneKernel]; rfl,hs,?_,List.Perm.refl _⟩
    intro bugId hb attempt hattempt
    obtain rfl := hitems bugId hb
    have hlt : attempt < 2 := List.mem_range.mp hattempt
    rw [hinsertions]
    interval_cases attempt
    · exact ⟨first,by simp⟩
    · exact ⟨second,by simp⟩
  refine ⟨s,_,?_,hall,(remaining_runs_exact sinceMidJanuary oneKernel naive_oneKernel).2 _ _ _ _ _ _
    hall⟩
  have hbugs : remainingBatch.bugIds = ["b1"] := by decide
  simp [storedPatches,hbugs,hinsertions]

end Stores
end AgentPatchProcess
end LiveKBench.KArenaPipeline
