import LiveKBench.KArenaPipeline.KenvImageManager
import LiveKBench.Lib.OrderedMap

/-! A batch of agent runs. Each bug has a task that makes its images ready, tries the agent on it as
often as it should and cleans up; the tasks run in one group, so that one of them that raises
cancels the others. -/
namespace LiveKBench.KArenaPipeline
open KArenaDb
open Lib

structure AgentPatchProcess where
  dockerPrefix : String
  preserveKenvBase : Bool
  agentConfigId : ℤ
  agent : String
  statefulEdit : Bool
  bugType : BugStatus
  bugRuns : OrderedMap String ℤ
  /-- The permits of the semaphore. -/
  semaphore : ℕ

namespace AgentPatchProcess

/-- `_bug_runs`: an entry of `bug_ids` is a bug, or a bug with the runs that it still needs. -/
def runsOf (bugIds : List (String ⊕ String × ℤ)) (nInstance : ℤ) : OrderedMap String ℤ :=
  .ofEntries (bugIds.map fun
    | .inl bugId => (bugId,nInstance)
    | .inr entry => entry)

variable (p : AgentPatchProcess)

def bugIds : List String := p.bugRuns.rows.map Prod.fst

/-- `range(n_runs)`. -/
def runs (bugId : String) : List ℕ := List.range ((p.bugRuns.value? bugId).getD 0).toNat

/-- The base commit that the images are made for, by the type of the batch. -/
def baseCommit : BaseCommit :=
  match p.bugType with
  | .fixed => .parentCommit
  | .open => .crashCommit

def imageManager : KenvImageManager := ⟨p.dockerPrefix,p.preserveKenvBase,p.baseCommit⟩

/-- What `process_single_bug` makes of an agent's result. -/
def patchOf (result : AgentRun.Result) (bug : SyzbotBug)
    (baseCommit : BaseCommit) (attempt : ℕ) : AgentCode Patch :=
  match result.status with
  | .error => return {
      patchId := 0
      patchContent := result.patch.getD ""
      status := .error
      systemMessage := result.systemMessage
      modifiedFiles := []
      modifiedFunctions := []
      numModifiedLines := 0 }
  | .success => do
    let analysis ← awaitRequest (.analyze ⟨bug.syzbotData,baseCommit,result.patch⟩ attempt)
    return patchFromAnalysis analysis

/-- Here the base commit goes by the status that the bug has in the database. -/
def processSingleBug (bugId : String) (unionId : ℤ) (attempt : ℕ) : AgentCode AgentPatch := do
  let bug ← awaitRequest (.getBug bugId attempt)
  let baseCommit := baseCommitForStatus bug.status
  let kcache ← awaitRequest (.getLatestKcache bugId baseCommit attempt)
  let timeout := if p.statefulEdit then 6*60*60 else 2*60*60
  let result ← awaitRequest (.runAgent ⟨bug.syzbotData,baseCommit,p.statefulEdit,kcache,timeout⟩ attempt)
  let patch ← patchOf result bug baseCommit attempt
  let patchId ← awaitRequest (.insertPatch patch attempt)
  let addedTime ← awaitRequest (.now attempt)
  let agentPatch : AgentPatch :=
    { agentPatchId := 0
      patchId := (patchId : ℕ)
      bugId := bugId
      addedTime := addedTime
      agentConfigId := p.agentConfigId
      unionId := unionId
      baseCommit := baseCommit
      status := result.status
      systemMessage := result.systemMessage
      dollarCost := result.dollarCost
      timeCost := result.timeCost
      exitReason := result.exitReason
      trajectoryKey := none
      logKey := none
      attrs := .empty }
  let agentPatchId ← awaitRequest (.insertAgentPatch agentPatch attempt)
  awaitRequest (.saveFiles agentPatchId (result.trajectory.filter fun t => !t.isEmpty)
    (result.log.filter fun l => !l.isEmpty) attempt)
  let trajectoryKey := s!"agent-patches/{agentPatchId}/traj.json"
  let logKey := s!"agent-patches/{agentPatchId}/log.txt"
  awaitRequest (.updateAgentPatchKeys agentPatchId trajectoryKey logKey attempt)
  return { agentPatch with agentPatchId, trajectoryKey, logKey }

/-- The runs of one bug, in order; one that raises is passed over. -/
def instances (bugId : String) (unionId : ℤ) : List ℕ → AgentCode (List AgentPatch)
  | [] => return []
  | attempt :: attempts => do
    let patch ← tryCatch
      (do
        let patch ← p.processSingleBug bugId unionId attempt
        return some patch)
      fun _ => return none
    let patches ← instances bugId unionId attempts
    return patch.toList ++ patches

/-- `process_bug_instances` under the semaphore. -/
def guarded (unionId : ℤ) (bugId : String) : AgentCode (List AgentPatch) := do
  p.imageManager.ensureAgentImage bugId p.agent
  p.instances bugId unionId (p.runs bugId)

/-- `process_bug_instances` after it. -/
def afterwards (bugId : String) (patches : List AgentPatch) : AgentCode (List AgentPatch) := do
  p.imageManager.cleanupImages bugId [p.agent]
  return patches

/-- The task group of `process_bugs`. -/
def tasks (unionId : ℤ) : GuardedTasks String AgentRequest AgentRequest.Answer AgentError
    (List AgentPatch) (List AgentPatch) where
  items := p.bugIds
  nodup := p.bugRuns.nodup
  permits := p.semaphore
  guarded := p.guarded unionId
  rest := p.afterwards

/-- `process_bugs` from the start of its group on: the exceptions of the group, or the patches. The
task of each bug gets its own answers. -/
def processBugs (unionId : ℤ) (s : GuardedTasks.State String AgentRequest AgentRequest.Answer
    AgentError (List AgentPatch) (List AgentPatch)) :
    Option (Except (List AgentError) (List AgentPatch)) :=
  ((p.tasks unionId).leave s).map (·.map List.flatten)

/-! ## What a batch should do whatever fails -/

abbrev Answers : Type := (r : AgentRequest) → Except AgentError r.Answer

/-- The runs that have been started. -/
def attempted (made : List AgentRequest) : List ℕ :=
  made.filterMap fun
    | .getBug _ attempt => some attempt
    | _ => none

/-- The patches of those runs among them that succeed. -/
def succeeded (answers : Answers) (unionId : ℤ) (bugId : String) (attempts : List ℕ) :
    List AgentPatch :=
  attempts.filterMap fun attempt =>
    ((p.processSingleBug bugId unionId attempt).run answers).2.toOption

/-- The batch returns the patches of the runs that succeed; a bug whose image was made ready has
had all its runs; the images of every bug have been removed, and no task was cancelled. -/
structure Isolated (answers : String → Answers) (unionId : ℤ)
    (s : GuardedTasks.State String AgentRequest AgentRequest.Answer AgentError
      (List AgentPatch) (List AgentPatch)) : Prop where
  patches : p.processBugs unionId s = some (.ok (p.bugIds.flatMap fun bugId =>
    p.succeeded (answers bugId) unionId bugId (attempted (s.made bugId))))
  attempts : ∀ bugId ∈ p.bugIds, p.imageManager.AgentReady bugId p.agent (answers bugId) →
    attempted (s.made bugId) = p.runs bugId
  cleaned : ∀ bugId ∈ p.bugIds,
    .docker (.rmi (p.imageManager.imagesToRemove bugId [p.agent])) ∈ s.made bugId
  uncancelled : ∀ bugId ∈ p.bugIds, s.task bugId ≠ .cancelled

/-- Every order of steps comes to an end, and there the batch has been isolated. -/
def Isolates (answers : String → Answers) (unionId : ℤ) : Prop :=
  (∃ n, ∀ tr s, ((p.tasks unionId).machine answers).Run (fun _ _ => True) tr s →
    tr.length ≤ n) ∧
  ∀ s, ((p.tasks unionId).machine answers).Reachable s → (p.tasks unionId).Stuck answers s →
    p.Isolated answers unionId s

/-! ## What one task does by itself -/

section Alone
variable {p : AgentPatchProcess} {answers : Answers} {bugId : String} {unionId : ℤ}

/-- The coroutine starts no run. -/
def Quiet {α : Type} (c : AgentCode α) : Prop := ∀ answers : Answers, attempted (c.run answers).1 = []

lemma attempted_append (made made' : List AgentRequest) :
    attempted (made ++ made') = attempted made ++ attempted made' := List.filterMap_append

lemma quiet_pure {α : Type} (a : α) : Quiet (pure a : AgentCode α) := fun _ => rfl

lemma quiet_ask {r : AgentRequest} (h : attempted [r] = []) : Quiet (awaitRequest r) := by
  intro answers
  rw [awaitRequest,Coroutine.run_request]
  exact h

lemma Quiet.bind {α β : Type} {c : AgentCode α} {f : α → AgentCode β} (hc : Quiet c)
    (hf : ∀ a, Quiet (f a)) : Quiet (c >>= f) := by
  intro answers
  have hc' := hc answers
  rw [Coroutine.run_bind]
  cases hrun : c.run answers with
  | mk rs x =>
    rw [hrun] at hc'
    cases x with
    | ok a => exact (attempted_append _ _).trans (by rw [hc',hf a answers]; rfl)
    | error e => exact hc'

/-- To ask docker for images is to start no run. -/
lemma quiet_of_makes {α : Type} {c : AgentCode α} (h : c.Makes AgentRequest.IsDocker) :
    Quiet c := by
  intro answers
  apply List.filterMap_eq_nil_iff.mpr
  intro r hr
  have hdocker := h.of_mem_run r hr
  cases r with
  | getBug bugId attempt => exact hdocker.elim
  | _ => rfl

lemma attempted_ask_bind {α : Type} {r : AgentRequest} {f : r.Answer → AgentCode α}
    (hf : ∀ a, Quiet (f a)) : attempted ((awaitRequest r >>= f).run answers).1 = attempted [r] := by
  rw [awaitRequest,Coroutine.run_bind,Coroutine.run_request]
  cases answers r with
  | ok a => exact (attempted_append _ _).trans (by rw [hf a answers,List.append_nil])
  | error e => rfl

lemma quiet_patchOf (result : AgentRun.Result) (bug : SyzbotBug) (baseCommit : BaseCommit)
    (attempt : ℕ) : Quiet (patchOf result bug baseCommit attempt) := by
  unfold patchOf
  split
  · exact quiet_pure _
  · exact (quiet_ask rfl).bind fun _ => quiet_pure _

/-- Each run starts with its question for the bug. -/
lemma attempted_processSingleBug (attempt : ℕ) :
    attempted ((p.processSingleBug bugId unionId attempt).run answers).1 = [attempt] := by
  refine attempted_ask_bind fun bug => ?_
  refine (quiet_ask rfl).bind fun kcache => ?_
  refine (quiet_ask rfl).bind fun result => ?_
  refine (quiet_patchOf result bug _ attempt).bind fun patch => ?_
  refine (quiet_ask rfl).bind fun patchId => ?_
  refine (quiet_ask rfl).bind fun addedTime => ?_
  refine (quiet_ask rfl).bind fun agentPatchId => ?_
  refine (quiet_ask rfl).bind fun _ => ?_
  exact (quiet_ask rfl).bind fun _ => quiet_pure _

/-- All runs of a bug are made, and those that succeed give their patches. -/
lemma run_instances (attempts : List ℕ) :
    attempted ((p.instances bugId unionId attempts).run answers).1 = attempts ∧
      (p.instances bugId unionId attempts).Returns answers
        (p.succeeded answers unionId bugId attempts) := by
  induction attempts with
  | nil => exact ⟨rfl,rfl⟩
  | cons attempt attempts ih =>
    obtain ⟨hattempted,hreturns⟩ := ih
    have hone := @attempted_processSingleBug p answers bugId unionId attempt
    have htry : ∃ rs, attempted rs = [attempt] ∧ (tryCatch
        (do
          let patch ← p.processSingleBug bugId unionId attempt
          return some patch)
        (fun _ => return none) : AgentCode (Option AgentPatch)).run answers =
          (rs,.ok ((p.processSingleBug bugId unionId attempt).run answers).2.toOption) := by
      rw [Coroutine.run_tryCatch,Coroutine.run_bind]
      cases hrun : (p.processSingleBug bugId unionId attempt).run answers with
      | mk rs x =>
        rw [hrun] at hone
        cases x with
        | ok patch => exact ⟨rs,hone,by simp [Coroutine.runAfter,Except.toOption]⟩
        | error e => exact ⟨rs,hone,by simp [Coroutine.runAfter,Except.toOption]⟩
    obtain ⟨rs,hrs,hrun⟩ := htry
    rw [instances,Coroutine.Returns,Coroutine.run_bind_of_ok hrun]
    unfold Coroutine.Returns at hreturns
    cases hrest : (p.instances bugId unionId attempts).run answers with
    | mk rs' x =>
      rw [hrest] at hattempted hreturns
      obtain rfl : x = _ := hreturns
      rw [Coroutine.run_bind_of_ok hrest]
      constructor
      · simp [attempted_append,hrs,hattempted]
      · simp only [Coroutine.run_pure,succeeded,List.filterMap_cons]
        cases ((p.processSingleBug bugId unionId attempt).run answers).2.toOption <;> rfl

/-- A bug whose image is made ready, and whose cleanup can be run, gets everything. -/
theorem alone_of_ready {answers : String → Answers}
    (hready : p.imageManager.AgentReady bugId p.agent (answers bugId))
    (hcleanup : p.imageManager.CleanupRuns bugId (answers bugId) [p.agent]) :
    ∃ made, (p.tasks unionId).alone answers bugId =
        (made,.ok (p.succeeded (answers bugId) unionId bugId (p.runs bugId))) ∧
      attempted made = p.runs bugId ∧
      .docker (.rmi (p.imageManager.imagesToRemove bugId [p.agent])) ∈ made := by
  have hensure := KenvImageManager.returns_ensureAgentImage.mpr hready
  have hquiet := quiet_of_makes
    (@KenvImageManager.makes_ensureAgentImage p.imageManager bugId p.agent) (answers bugId)
  obtain ⟨hattempted,hinstances⟩ := @run_instances p (answers bugId) bugId unionId (p.runs bugId)
  obtain ⟨⟨rmi,hrmi⟩,prune,hprune⟩ := hcleanup
  have hafter : (p.afterwards bugId (p.succeeded (answers bugId) unionId bugId
      (p.runs bugId))).run (answers bugId) =
        ([.docker (.rmi (p.imageManager.imagesToRemove bugId [p.agent])),.docker .prune],
          .ok (p.succeeded (answers bugId) unionId bugId (p.runs bugId))) := by
    simp [afterwards,KenvImageManager.cleanupImages,runDocker,awaitRequest,Coroutine.run_bind,
      Coroutine.runAfter,hrmi,hprune]
  unfold Coroutine.Returns at hensure hinstances
  cases he : (p.imageManager.ensureAgentImage bugId p.agent).run (answers bugId) with
  | mk rs x =>
    cases hi : (p.instances bugId unionId (p.runs bugId)).run (answers bugId) with
    | mk rs' y =>
      rw [he] at hensure hquiet
      rw [hi] at hattempted hinstances
      obtain rfl : x = _ := hensure
      obtain rfl : y = _ := hinstances
      have hguarded : (p.guarded unionId bugId).run (answers bugId) =
          (rs ++ rs',.ok (p.succeeded (answers bugId) unionId bugId (p.runs bugId))) := by
        rw [guarded,Coroutine.run_bind_of_ok he,hi]
      have halone : (p.tasks unionId).alone answers bugId = _ :=
        (Coroutine.run_bind_of_ok hguarded).trans (by rw [show (p.tasks unionId).rest bugId =
          p.afterwards bugId from rfl,hafter])
      refine ⟨_,halone,?_,List.mem_append_right _ List.mem_cons_self⟩
      rw [attempted_append,attempted_append,hquiet,hattempted]
      exact List.append_nil _

/-- Any other raises. -/
theorem alone_of_unready {answers : String → Answers}
    (h : ¬(p.imageManager.AgentReady bugId p.agent (answers bugId) ∧
      p.imageManager.CleanupRuns bugId (answers bugId) [p.agent])) :
    ∃ e, ((p.tasks unionId).alone answers bugId).2 = .error e := by
  apply Coroutine.exists_error_of_not_returns
  rintro ⟨patches,hreturns⟩
  apply h
  obtain ⟨first,hguarded,hafter⟩ := Coroutine.returns_bind.mp hreturns
  obtain ⟨hensure,-⟩ := Coroutine.returns_seq.mp hguarded
  obtain ⟨hcleanup,-⟩ := Coroutine.returns_seq.mp hafter
  refine ⟨KenvImageManager.returns_ensureAgentImage.mp hensure,?_⟩
  obtain ⟨rmi,hrmi,hrest⟩ := Coroutine.returns_bind.mp hcleanup
  obtain ⟨prune,hprune,-⟩ := Coroutine.returns_bind.mp hrest
  exact ⟨⟨rmi,KenvImageManager.returns_runDocker.mp hrmi⟩,
    prune,KenvImageManager.returns_runDocker.mp hprune⟩

end Alone

/-! ## When a batch isolates its bugs -/

section Isolates
variable {p : AgentPatchProcess} {answers : String → Answers} {unionId : ℤ}

/-- Nothing fails but runs of the agent: then every end of the batch is as it should be. -/
lemma isolated_of_ready {s : GuardedTasks.State String AgentRequest AgentRequest.Answer AgentError
      (List AgentPatch) (List AgentPatch)}
    (hpermits : p.bugIds ≠ [] → 0 < p.semaphore)
    (hready : ∀ bugId ∈ p.bugIds, p.imageManager.AgentReady bugId p.agent (answers bugId) ∧
      p.imageManager.CleanupRuns bugId (answers bugId) [p.agent])
    (hs : ((p.tasks unionId).machine answers).Reachable s)
    (hstuck : (p.tasks unionId).Stuck answers s) : p.Isolated answers unionId s := by
  have halone : ∀ bugId ∈ p.bugIds, ∃ made, (p.tasks unionId).alone answers bugId =
        (made,.ok (p.succeeded (answers bugId) unionId bugId (p.runs bugId))) ∧
      attempted made = p.runs bugId ∧
      .docker (.rmi (p.imageManager.imagesToRemove bugId [p.agent])) ∈ made :=
    fun bugId hb => alone_of_ready (hready bugId hb).1 (hready bugId hb).2
  have hends : ∀ bugId ∈ p.bugIds, s.task bugId =
        .ended (.ok (p.succeeded (answers bugId) unionId bugId (p.runs bugId))) ∧
      s.made bugId = ((p.tasks unionId).alone answers bugId).1 := by
    intro bugId hb
    refine hstuck.ended_ok hs hpermits ?_ hb ?_
    · intro b hb'
      obtain ⟨made,hmade,-⟩ := halone b hb'
      exact ⟨_,congrArg Prod.snd hmade⟩
    · obtain ⟨made,hmade,-⟩ := halone bugId hb
      exact congrArg Prod.snd hmade
  have hmade : ∀ bugId ∈ p.bugIds, attempted (s.made bugId) = p.runs bugId ∧
      .docker (.rmi (p.imageManager.imagesToRemove bugId [p.agent])) ∈ s.made bugId := by
    intro bugId hb
    obtain ⟨made,hmade,hattempted,hrmi⟩ := halone bugId hb
    rw [(hends bugId hb).2,hmade]
    exact ⟨hattempted,hrmi⟩
  have hleave := (p.tasks unionId).leave_of_ended
    (fun bugId => p.succeeded (answers bugId) unionId bugId (p.runs bugId))
    fun bugId hb => (hends bugId hb).1
  refine ⟨?_,fun bugId hb _ => (hmade bugId hb).1,fun bugId hb => (hmade bugId hb).2,?_⟩
  · rw [processBugs,hleave]
    refine congrArg (fun patches => some (Except.ok patches)) ?_
    rw [← List.flatMap_def]
    exact List.flatMap_congr fun bugId hb => by rw [(hmade bugId hb).1]
  · intro bugId hb
    rw [(hends bugId hb).1]
    exact nofun

/-- Where some bug is not ready, the group of some run raises. -/
lemma ready_of_isolates (h : p.Isolates answers unionId) : (p.bugIds ≠ [] → 0 < p.semaphore) ∧
    ∀ bugId ∈ p.bugIds, p.imageManager.AgentReady bugId p.agent (answers bugId) ∧
      p.imageManager.CleanupRuns bugId (answers bugId) [p.agent] := by
  have hreturns : ∀ s, ((p.tasks unionId).machine answers).Reachable s →
      (p.tasks unionId).Stuck answers s →
        ∃ patches, (p.tasks unionId).leave s = some (.ok patches) := by
    intro s hs hstuck
    have hpatches := (h.2 s hs hstuck).patches
    rw [processBugs,Option.map_eq_some_iff] at hpatches
    obtain ⟨x,hx,hmap⟩ := hpatches
    cases x with
    | ok patches => exact ⟨patches,hx⟩
    | error errors => cases hmap
  have hpermits : p.bugIds ≠ [] → 0 < p.semaphore := by
    intro hne
    by_contra hzero
    have hbegun := (p.tasks unionId).stuck_begun answers
      (Nat.eq_zero_of_not_pos hzero)
    obtain ⟨patches,hp⟩ := hreturns _ (.start rfl) hbegun
    rw [(p.tasks unionId).leave_begun hne] at hp
    cases hp
  refine ⟨hpermits,fun bugId hb => ?_⟩
  by_contra hunready
  obtain ⟨e,he⟩ := @alone_of_unready p bugId unionId answers hunready
  obtain ⟨s,hs,hstuck⟩ := (p.tasks unionId).exists_stuck answers
  obtain ⟨errors,herrors⟩ := hstuck.leave_of_error hs (hpermits (List.ne_nil_of_mem hb)) hb he
  obtain ⟨patches,hp⟩ := hreturns s hs hstuck
  rw [herrors] at hp
  cases hp

/-- A batch isolates its bugs exactly where the image of each of them is made ready, docker can be
started for the cleanups, and the semaphore lets a task in. -/
theorem isolates_iff : p.Isolates answers unionId ↔ (p.bugIds ≠ [] → 0 < p.semaphore) ∧
    ∀ bugId ∈ p.bugIds, p.imageManager.AgentReady bugId p.agent (answers bugId) ∧
      p.imageManager.CleanupRuns bugId (answers bugId) [p.agent] := by
  refine ⟨ready_of_isolates,?_⟩
  rintro ⟨hpermits,hready⟩
  refine ⟨⟨(p.tasks unionId).left answers GuardedTasks.begun,fun tr s hr => ?_⟩,
    fun s hs hstuck => isolated_of_ready hpermits hready hs hstuck⟩
  have hle := GuardedTasks.length_le_of_run hr
  omega

end Isolates

/-! ## One bug without an image -/

/-- Docker has the images of the first bug; of the second it has none, and can pull none. The agent
does not start. -/
def oneUnpulled (bugId : String) : Answers
  | .docker (.inspect _) => .ok ⟨if bugId = "b1" then 0 else 1,"",""⟩
  | .docker (.pull _ _) => .ok ⟨1,"",""⟩
  | .docker _ => .ok ⟨0,"",""⟩
  | .sleep _ => .ok ()
  | .getBug _ _ => .error (.other "ValueError" "Bug not found")
  | .getLatestKcache _ _ _ => .error (.other "ValueError" "kCache not found")
  | .runAgent _ _ => .error (.other "OSError" "")
  | .analyze _ _ => .error (.other "OSError" "")
  | .now _ => .ok KArenaWeb.midJanuary
  | .insertPatch _ _ => .ok 1
  | .insertAgentPatch _ _ => .ok 1
  | .saveFiles _ _ _ _ => .ok ()
  | .updateAgentPatchKeys _ _ _ _ => .ok ()

/-- Two bugs of a batch, one run each. -/
def twoBugs : AgentPatchProcess where
  dockerPrefix := "live-kbench"
  preserveKenvBase := false
  agentConfigId := 1
  agent := "mini-swe-agent"
  statefulEdit := false
  bugType := .fixed
  bugRuns := runsOf [.inl "b1",.inl "b2"] 1
  semaphore := 16

/-- The bug that cannot be pulled takes the batch with it. -/
theorem oneUnpulled_not_isolates : ¬twoBugs.Isolates oneUnpulled 1 := by
  intro hisolates
  obtain ⟨-,h⟩ := ready_of_isolates hisolates
  have hbug : "b2" ∈ twoBugs.bugIds := by decide
  obtain ⟨⟨output,hout,hcode⟩ | ⟨-,hkenv,-⟩,-⟩ := h "b2" hbug
  · cases hout
    exact absurd hcode (by decide)
  · obtain ⟨output,hout,hcode⟩ | ⟨-,hbase,-⟩ := hkenv
    · cases hout
      exact absurd hcode (by decide)
    · obtain ⟨output,hout,hcode⟩ | ⟨-,failed,attempt,later,-,-,hpull,-⟩ := hbase
      · cases hout
        exact absurd hcode (by decide)
      · obtain ⟨output,hout,hcode⟩ := hpull
        cases hout
        exact absurd hcode (by decide)

end AgentPatchProcess
end LiveKBench.KArenaPipeline
