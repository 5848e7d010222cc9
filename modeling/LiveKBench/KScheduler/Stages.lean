import LiveKBench.KScheduler.Origins

/-! The stages and tags of the jobs. A job's rows are inserted once, under an id that nothing else
uses, and its stages are numbered from zero without gaps. This holds in every run. -/
namespace LiveKBench.KScheduler
open KCore Lib Backend

namespace Db

/-- Stages and tags belong to job ids that were drawn. -/
structure Owned (db : Db) : Prop where
  stages : ∀ jobId k, ∀ row ∈ db.worker? jobId k, jobId ≤ db.sequence
  tags : ∀ tag ∈ db.jobTag.rows, tag.jobId ≤ db.sequence

/-- The job has no stage. -/
def Unstaged (db : Db) (jobId : JobId) : Prop := ∀ k, db.worker? jobId k = none

def Untagged (db : Db) (jobId : JobId) : Prop := ∀ tag ∈ db.jobTag.rows, tag.jobId ≠ jobId

/-- The stages of a job are numbered from zero without gaps. -/
def Contiguous (db : Db) : Prop :=
  ∀ jobId k, ∀ row ∈ db.worker? jobId k, 0 ≤ k ∧ ∀ n : ℕ, (n : ℤ) ≤ k →
    ∃ row', db.worker? jobId n = some row'

/-- The job has the stages that were asked for. -/
def StagedAs (db : Db) (jobId : JobId) (jobWorkers : List JobArgument) : Prop :=
  ∀ (n : ℕ) (argument : JobArgument), jobWorkers[n]? = some argument →
    ∃ row, db.worker? jobId n = some row ∧ row.workerType = argument.workerType

/-! ## The inserting statements -/

section Insert
variable {db : Db} {jobId : JobId} {jobWorkers : List JobArgument}

lemma key_workerRows {row : JobWorkerRow} (h : row ∈ workerRows jobId jobWorkers) :
    row.jobId = jobId := by
  obtain ⟨n,hn,rfl⟩ := List.mem_mapIdx.mp h
  rfl

lemma nodup_workerRows : ((workerRows jobId jobWorkers).map JobWorkerRow.key).Nodup := by
  rw [List.nodup_iff_injective_getElem]
  intro a b hab
  simp only [workerRows,List.getElem_map,List.getElem_mapIdx,JobWorkerRow.key,Prod.mk.injEq,
    true_and] at hab
  exact Fin.ext (Int.ofNat_inj.mp hab)

/-- The stages of a job that has none yet are all inserted. -/
theorem insertWorkers_of_unstaged (h : db.Unstaged jobId) :
    (db.insertWorkers jobId jobWorkers).2 = true ∧
      (db.insertWorkers jobId jobWorkers).1.StagedAs jobId jobWorkers := by
  have hfresh : ∀ row ∈ workerRows jobId jobWorkers, db.jobWorker.get? row.key = none := by
    intro row hrow
    rw [JobWorkerRow.key,key_workerRows hrow]
    exact h row.workerIndex
  obtain ⟨hok,hrows⟩ := Table.insertMany_of_fresh db.jobWorker _ nodup_workerRows hfresh
  refine ⟨hok,?_⟩
  intro n argument hn
  obtain ⟨hlt,rfl⟩ := List.getElem?_eq_some_iff.mp hn
  refine ⟨newStage jobId n jobWorkers[n],Table.get?_eq_some.mpr ⟨?_,rfl⟩,rfl⟩
  change _ ∈ (db.jobWorker.insertMany (workerRows jobId jobWorkers)).1.rows
  rw [hrows]
  exact List.mem_append_right _ (List.mem_mapIdx.mpr ⟨n,hlt,rfl⟩)

/-- The tags of a job that has none yet are all inserted. -/
theorem insertTags_of_untagged {tags : List (String × String)} (hn : (tags.map Prod.fst).Nodup)
    (h : db.Untagged jobId) : (db.insertTags jobId tags).2 = true ∧
      (db.insertTags jobId tags).1.jobTag.rows = db.jobTag.rows ++ tagRows jobId tags := by
  refine Table.insertMany_of_fresh db.jobTag (tagRows jobId tags) ?_ ?_
  · have hk : (tagRows jobId tags).map JobTag.key =
        (tags.map Prod.fst).map fun tagKey => (jobId,tagKey) := by
      simp [tagRows,JobTag.key,List.map_map,Function.comp_def]
    rw [hk]
    exact hn.map fun a b hab => (Prod.mk.inj hab).2
  · intro tag htag
    obtain ⟨kv,-,rfl⟩ := List.mem_map.mp htag
    rw [Table.get?_eq_none]
    intro tag' htag' hk
    exact h tag' htag' (Prod.mk.inj hk).1

/-- An inserted stage has its predecessors. -/
lemma insertWorkers_predecessors {k : ℤ} {row : JobWorkerRow} (hnone : db.worker? jobId k = none)
    (h : (db.insertWorkers jobId jobWorkers).1.worker? jobId k = some row) :
    0 ≤ k ∧ ∀ n : ℕ, (n : ℤ) ≤ k →
      ∃ row', (db.insertWorkers jobId jobWorkers).1.worker? jobId n = some row' := by
  obtain ⟨done,hp,hrows⟩ := db.jobWorker.rows_insertMany (workerRows jobId jobWorkers)
  have hmem : row ∈ done := by
    obtain ⟨hm,hk⟩ := Table.get?_eq_some.mp h
    change row ∈ (db.jobWorker.insertMany _).1.rows at hm
    rw [hrows] at hm
    rcases List.mem_append.mp hm with hm | hm
    · exact absurd hk (Table.get?_eq_none.mp hnone row hm)
    · exact hm
  obtain ⟨p,hlt,rfl⟩ := List.getElem_of_mem hmem
  have hat : ∀ n, ∀ hn : n < done.length, (done[n].jobId = jobId ∧ done[n].workerIndex = n) := by
    intro n hn
    rw [hp.getElem hn]
    simp [workerRows]
  have hpk : (p : ℤ) = k := (hat p hlt).2.symm.trans (worker?_key h).2
  refine ⟨by omega,?_⟩
  intro n hnk
  have hn : n < done.length := by omega
  refine ⟨done[n],Table.get?_eq_some.mpr ⟨?_,?_⟩⟩
  · change _ ∈ (db.jobWorker.insertMany (workerRows jobId jobWorkers)).1.rows
    rw [hrows]
    exact List.mem_append_right _ (List.getElem_mem hn)
  · exact Prod.ext (hat n hn).1 (hat n hn).2

end Insert

/-! ## What the statements keep -/

section Run
variable {db : Db} {st : Statement} {jobId : JobId}

lemma jobTag_run (h : ∀ jobId tags, st ≠ .insertTags jobId tags) :
    (st.run db).jobTag = db.jobTag := by
  cases st with
  | insertTags jobId tags => exact absurd rfl (h jobId tags)
  | _ => rfl

lemma Unstaged.run (h : db.Unstaged jobId) (hst : ∀ ws, st ≠ .insertWorkers jobId ws) :
    (st.run db).Unstaged jobId := by
  intro k
  by_contra hk
  obtain ⟨row,hrow⟩ := Option.ne_none_iff_exists'.mp hk
  rcases Statement.worker?_run hrow with ⟨row₀,hrow₀,-⟩ | ⟨-,ws,hws,-⟩
  · exact absurd ((h k).symm.trans hrow₀) (by simp)
  · exact hst ws hws

lemma mem_jobTag_insertTags {tags : List (String × String)} {tag : JobTag}
    (h : tag ∈ (db.insertTags jobId tags).1.jobTag.rows) :
    tag ∈ db.jobTag.rows ∨ tag.jobId = jobId := by
  obtain ⟨done,hp,hrows⟩ := db.jobTag.rows_insertMany (tagRows jobId tags)
  change tag ∈ (db.jobTag.insertMany _).1.rows at h
  rw [hrows] at h
  rcases List.mem_append.mp h with h | h
  · exact .inl h
  · obtain ⟨kv,-,rfl⟩ := List.mem_map.mp (hp.subset h)
    exact .inr rfl

lemma Untagged.run (h : db.Untagged jobId) (hst : ∀ tags, st ≠ .insertTags jobId tags) :
    (st.run db).Untagged jobId := by
  by_cases ht : ∃ j tags, st = .insertTags j tags
  · obtain ⟨j,tags,rfl⟩ := ht
    intro tag htag he
    rcases mem_jobTag_insertTags htag with hm | hj
    · exact h tag hm he
    · exact hst tags (by rw [← he,hj])
  · unfold Untagged
    rw [jobTag_run fun j tags he => ht ⟨j,tags,he⟩]
    exact h


lemma Contiguous.run (h : db.Contiguous) : (st.run db).Contiguous := by
  intro j k row hrow
  rcases Statement.worker?_run hrow with ⟨row₀,hrow₀,-⟩ | ⟨hnone,ws,rfl,-⟩
  · obtain ⟨hk,hn⟩ := h j k row₀ hrow₀
    refine ⟨hk,?_⟩
    intro n hnk
    obtain ⟨row',hrow'⟩ := hn n hnk
    exact ⟨_,Statement.worker?_run_of_some hrow'⟩
  · exact insertWorkers_predecessors hnone hrow

lemma StagedAs.run {jobWorkers : List JobArgument} (h : db.StagedAs jobId jobWorkers) :
    (st.run db).StagedAs jobId jobWorkers := by
  intro n argument hn
  obtain ⟨row,hrow,ht⟩ := h n argument hn
  exact ⟨_,Statement.worker?_run_of_some hrow,by simpa using ht⟩

/-- The next job id has no stages and no tags yet. -/
lemma Owned.unstaged_next (h : db.Owned) : db.Unstaged (db.sequence+1) := by
  intro k
  by_contra hk
  obtain ⟨row,hrow⟩ := Option.ne_none_iff_exists'.mp hk
  exact absurd (h.stages _ k row hrow) (Nat.not_succ_le_self _)

lemma Owned.untagged_next (h : db.Owned) : db.Untagged (db.sequence+1) := by
  intro tag htag he
  exact absurd (he ▸ h.tags tag htag) (Nat.not_succ_le_self _)

lemma Owned.run (h : db.Owned)
    (hst : ∀ j, (∃ ws, st = .insertWorkers j ws) ∨ (∃ tags, st = .insertTags j tags) →
      j ≤ db.sequence) : (st.run db).Owned := by
  constructor
  · intro j k row hrow
    refine le_trans ?_ (Statement.sequence_le_run st db)
    rcases Statement.worker?_run hrow with ⟨row₀,hrow₀,-⟩ | ⟨-,ws,hws,-⟩
    · exact h.stages j k row₀ hrow₀
    · exact hst j (.inl ⟨ws,hws⟩)
  · intro tag htag
    refine le_trans ?_ (Statement.sequence_le_run st db)
    by_cases ht : ∃ j tags, st = .insertTags j tags
    · obtain ⟨j,tags,rfl⟩ := ht
      rcases mem_jobTag_insertTags htag with hm | hj
      · exact h.tags tag hm
      · rw [hj]
        exact hst j (.inr ⟨tags,rfl⟩)
    · rw [jobTag_run fun j tags he => ht ⟨j,tags,he⟩] at htag
      exact h.tags tag htag

end Run
end Db

/-! ## Reading the stages in order -/

/-- An increasing list of integers that starts at zero and has no gaps counts its positions. -/
lemma getElem_eq_of_initial {l : List ℤ} (hs : l.Pairwise (· < ·))
    (hl : ∀ k ∈ l, 0 ≤ k ∧ ∀ n : ℕ, (n : ℤ) ≤ k → (n : ℤ) ∈ l) (n : ℕ) (hn : n < l.length) :
    l[n] = n := by
  have hlt := List.pairwise_iff_getElem.mp hs
  have hge : ∀ m, ∀ hm : m < l.length, (m : ℤ) ≤ l[m] := by
    intro m
    induction m with
    | zero =>
      intro hm
      exact (hl _ (List.getElem_mem hm)).1
    | succ m ih =>
      intro hm
      have h1 := ih (by omega)
      have h2 := hlt m (m+1) (by omega) hm (by omega)
      omega
  induction n using Nat.strong_induction_on with
  | _ n ih =>
    obtain ⟨p,hp,hpn⟩ := List.getElem_of_mem ((hl _ (List.getElem_mem hn)).2 n (hge n hn))
    rcases Nat.lt_trichotomy p n with h | h | h
    · have := ih p h hp
      omega
    · subst h
      exact hpn
    · have := hge p hp
      omega

def JobWorkerRow.model (row : JobWorkerRow) : JobWorker :=
  ⟨row.workerType,row.workerArgument,row.workerResult⟩

namespace Db

/-- The rows that `selectWorkers` reads, in order. -/
def orderedRows (db : Db) (jobId : JobId) : List JobWorkerRow :=
  (db.jobWorker.select fun row => row.jobId = jobId).insertionSort
    fun a b => a.workerIndex ≤ b.workerIndex

lemma mem_orderedRows {db : Db} {jobId : JobId} {row : JobWorkerRow} :
    row ∈ db.orderedRows jobId ↔ db.worker? jobId row.workerIndex = some row := by
  unfold orderedRows
  rw [(List.perm_insertionSort _ _).mem_iff,Table.mem_select]
  constructor
  · rintro ⟨hm,hj⟩
    exact Table.get?_eq_some.mpr ⟨hm,Prod.ext (of_decide_eq_true hj) rfl⟩
  · intro h
    exact ⟨(Table.get?_eq_some.mp h).1,decide_eq_true (worker?_key h).1⟩

lemma pairwise_orderedRows (db : Db) (jobId : JobId) :
    ((db.orderedRows jobId).map JobWorkerRow.workerIndex).Pairwise (· < ·) := by
  have hle : (db.orderedRows jobId).Pairwise fun a b => a.workerIndex ≤ b.workerIndex := by
    unfold orderedRows
    have : Std.Total fun a b : JobWorkerRow => a.workerIndex ≤ b.workerIndex :=
      ⟨fun a b => le_total _ _⟩
    have : IsTrans JobWorkerRow fun a b => a.workerIndex ≤ b.workerIndex :=
      ⟨fun a b c => le_trans⟩
    exact List.pairwise_insertionSort _ _
  have hnodup : ((db.orderedRows jobId).map JobWorkerRow.key).Nodup := by
    refine List.Perm.nodup ((List.perm_insertionSort _ _).map _).symm ?_
    exact db.jobWorker.nodup.sublist (List.filter_sublist.map _)
  have hne : (db.orderedRows jobId).Pairwise fun a b => a.key ≠ b.key :=
    List.pairwise_map.mp hnodup
  rw [List.pairwise_map]
  refine (hle.and hne).imp_of_mem ?_
  rintro a b ha hb ⟨hab,hk⟩
  refine lt_of_le_of_ne hab fun he => hk (Prod.ext ?_ he)
  exact (worker?_key (mem_orderedRows.mp ha)).1.trans (worker?_key (mem_orderedRows.mp hb)).1.symm

/-- `get_job` lists the stages at their indices. -/
theorem getElem?_selectWorkers {db : Db} (h : db.Contiguous) (jobId : JobId) (n : ℕ) :
    (db.selectWorkers jobId)[n]? = (db.worker? jobId n).map JobWorkerRow.model := by
  have hinit : ∀ k ∈ (db.orderedRows jobId).map JobWorkerRow.workerIndex,
      0 ≤ k ∧ ∀ n : ℕ, (n : ℤ) ≤ k →
        (n : ℤ) ∈ (db.orderedRows jobId).map JobWorkerRow.workerIndex := by
    intro k hk
    obtain ⟨row,hrow,rfl⟩ := List.mem_map.mp hk
    obtain ⟨h0,hn⟩ := h jobId _ row (mem_orderedRows.mp hrow)
    refine ⟨h0,?_⟩
    intro n hnk
    obtain ⟨row',hrow'⟩ := hn n hnk
    have hi := (worker?_key hrow').2
    exact List.mem_map.mpr ⟨row',mem_orderedRows.mpr (by rw [hi]; exact hrow'),hi⟩
  have hat := getElem_eq_of_initial (db.pairwise_orderedRows jobId) hinit
  change ((db.orderedRows jobId).map JobWorkerRow.model)[n]? = _
  rw [List.getElem?_map]
  cases hw : db.worker? jobId n with
  | some row =>
    have hi := (worker?_key hw).2
    have hm : row ∈ db.orderedRows jobId := mem_orderedRows.mpr (by rw [hi]; exact hw)
    obtain ⟨p,hp,hpr⟩ := List.getElem_of_mem hm
    have hpn := hat p (by simpa using hp)
    rw [List.getElem_map,hpr,hi] at hpn
    have hnp : n = p := by omega
    subst hnp
    rw [List.getElem?_eq_getElem hp,hpr]
  | none =>
    have hle : (db.orderedRows jobId).length ≤ n := by
      by_contra hlt
      have hn : n < (db.orderedRows jobId).length := by omega
      have hi := hat n (by simpa using hn)
      rw [List.getElem_map] at hi
      have hrow := mem_orderedRows.mp (List.getElem_mem hn)
      rw [hi] at hrow
      exact absurd (hw.symm.trans hrow) (by simp)
    rw [List.getElem?_eq_none hle]

end Db

/-- The job whose rows the operation inserts. -/
def NewJobPc.jobId? : NewJobPc → Option JobId
  | .digest _ => none
  | .workers jobId => some jobId
  | .tags jobId => some jobId
  | .enqueue jobId => some jobId

/-- How `newJob` goes on. -/
lemma Piece.next_newJob {ts : TimeStamp} {db : Db} {op : Operation} {o : Outcome Operation}
    {request : JobRequest} {pc : NewJobPc} (h : Piece ts db op o)
    (hn : o.next? = some (.newJob request pc)) :
    (∃ t, op = .newJob request (.digest t) ∧ pc = .workers (db.sequence+1)) ∨
      (∃ jobId, op = .newJob request (.workers jobId) ∧ pc = .tags jobId ∧
        (db.insertWorkers jobId request.jobWorkers).2 = true) ∨
      ∃ jobId, op = .newJob request (.tags jobId) ∧ pc = .enqueue jobId ∧
        (db.insertTags jobId request.tags).2 = true := by
  cases h with
  | insertDigest =>
    cases hn
    exact .inl ⟨_,rfl,rfl⟩
  | insertWorkers ok =>
    cases hn
    exact .inr (.inl ⟨_,rfl,rfl,ok⟩)
  | insertTags ok =>
    cases hn
    exact .inr (.inr ⟨_,rfl,rfl,ok⟩)
  | _ => cases hn

/-- The rows of the jobs and of the operations that insert them. -/
structure Staged (s : State) : Prop where
  owned : s.db.Owned
  ownedFile : s.committed.Owned
  contiguous : s.db.Contiguous
  contiguousFile : s.committed.Contiguous
  drawn : ∀ i request pc jobId, s.operations i = some (.newJob request pc) →
    pc.jobId? = some jobId → jobId ≤ s.db.sequence
  distinct : ∀ i i' request request' pc pc' jobId,
    s.operations i = some (.newJob request pc) → pc.jobId? = some jobId →
    s.operations i' = some (.newJob request' pc') → pc'.jobId? = some jobId → i = i'
  unstaged : ∀ i request jobId, s.operations i = some (.newJob request (.workers jobId)) →
    s.db.Unstaged jobId
  untagged : ∀ i request pc jobId, s.operations i = some (.newJob request pc) →
    pc = .workers jobId ∨ pc = .tags jobId → s.db.Untagged jobId
  stagedAs : ∀ i request pc jobId, s.operations i = some (.newJob request pc) →
    pc = .tags jobId ∨ pc = .enqueue jobId → s.db.StagedAs jobId request.jobWorkers

section Inserting
variable {op : Operation} {jobId : JobId}

lemma Operation.of_insertWorkers {ws : List JobArgument}
    (h : op.statement = some (.insertWorkers jobId ws)) :
    ∃ request, op = .newJob request (.workers jobId) := by
  unfold Operation.statement at h
  split at h <;> cases h
  exact ⟨_,rfl⟩

lemma Operation.of_insertTags {tags : List (String × String)}
    (h : op.statement = some (.insertTags jobId tags)) :
    ∃ request, op = .newJob request (.tags jobId) := by
  unfold Operation.statement at h
  split at h <;> cases h
  exact ⟨_,rfl⟩

end Inserting

section Writing
variable {op : Operation} {jobId : JobId} {ts : TimeStamp}

lemma Operation.of_writeResult {k : ℤ} {result : JobResult}
    (h : op.statement = some (.writeResult jobId k result)) :
    ∃ call t, op = .update call (.result t) ∧ call.argument.jobId = jobId ∧
      call.argument.workerIndex = k ∧ call.argument.deliverable = result := by
  unfold Operation.statement at h
  split at h <;> cases h
  exact ⟨_,_,rfl,rfl,rfl,rfl⟩

lemma Operation.of_release {request : JobUpdateRequest}
    (h : op.statement = some (.release request ts)) :
    ∃ call, op = .update call (.release ts) ∧ call.argument = request := by
  unfold Operation.statement at h
  split at h <;> cases h
  exact ⟨_,rfl,rfl⟩

lemma Operation.of_finish (h : op.statement = some (.finish jobId)) :
    ∃ call released, op = .update call (.finish released) ∧ call.argument.jobId = jobId := by
  unfold Operation.statement at h
  split at h <;> cases h
  exact ⟨_,_,rfl,rfl⟩

lemma Operation.of_focus {hostname : String}
    (h : op.statement = some (.focus jobId hostname ts)) :
    ∃ call, op = .focus call (.write ts) ∧ call.argument.jobId = jobId ∧
      call.argument.workerHostname = hostname := by
  unfold Operation.statement at h
  split at h <;> cases h
  exact ⟨_,rfl,rfl,rfl⟩

lemma Operation.of_restart {target : ℤ} (h : op.statement = some (.restart jobId target ts)) :
    ∃ restartFrom jobContext, op = .restart jobId restartFrom (.write jobContext target ts) := by
  unfold Operation.statement at h
  split at h <;> cases h
  exact ⟨_,_,rfl⟩

end Writing

namespace Staged
variable {fleet : Fleet} {s u : State} {e : Event}

lemma owned_write (hi : Staged s) : (s.write e).Owned := by
  rcases s.write_cases e with hw | ⟨st,hst,hw⟩
  · exact hw ▸ hi.owned
  · rw [hw]
    obtain ⟨i,ts,op,rfl,hop,hst⟩ := State.statement_eq_some hst
    refine hi.owned.run ?_
    rintro j (⟨ws,rfl⟩ | ⟨tags,rfl⟩)
    · obtain ⟨request,rfl⟩ := Operation.of_insertWorkers hst
      exact hi.drawn i request _ j hop rfl
    · obtain ⟨request,rfl⟩ := Operation.of_insertTags hst
      exact hi.drawn i request _ j hop rfl

lemma contiguous_write (hi : Staged s) : (s.write e).Contiguous := by
  rcases s.write_cases e with hw | ⟨st,-,hw⟩
  · exact hw ▸ hi.contiguous
  · exact hw ▸ hi.contiguous.run

lemma sequence_le_write : s.db.sequence ≤ (s.write e).sequence := by
  rcases s.write_cases e with hw | ⟨st,-,hw⟩
  · rw [hw]
  · rw [hw]
    exact Statement.sequence_le_run st s.db

/-- Only the operation itself inserts the stages of its job. -/
lemma unstaged_write (hi : Staged s) {i : ℕ} {request : JobRequest} {jobId : JobId}
    (hop : s.operations i = some (.newJob request (.workers jobId)))
    (he : ∀ ts, e ≠ .advance i ts) : (s.write e).Unstaged jobId := by
  have h := hi.unstaged i request jobId hop
  rcases s.write_cases e with hw | ⟨st,hst,hw⟩
  · exact hw ▸ h
  · rw [hw]
    refine h.run ?_
    rintro ws rfl
    obtain ⟨i',ts,op,rfl,hop',hst⟩ := State.statement_eq_some hst
    obtain ⟨request',rfl⟩ := Operation.of_insertWorkers hst
    have hii := hi.distinct i i' request request' _ _ jobId hop rfl hop' rfl
    exact he ts (hii ▸ rfl)

lemma untagged_write (hi : Staged s) {i : ℕ} {request : JobRequest} {pc : NewJobPc}
    {jobId : JobId} (hop : s.operations i = some (.newJob request pc))
    (hpc : pc = .workers jobId ∨ pc = .tags jobId) (he : ∀ ts, e ≠ .advance i ts) :
    (s.write e).Untagged jobId := by
  have h := hi.untagged i request pc jobId hop hpc
  rcases s.write_cases e with hw | ⟨st,hst,hw⟩
  · exact hw ▸ h
  · rw [hw]
    refine h.run ?_
    rintro tags rfl
    obtain ⟨i',ts,op,rfl,hop',hst⟩ := State.statement_eq_some hst
    obtain ⟨request',rfl⟩ := Operation.of_insertTags hst
    have hj : pc.jobId? = some jobId := by rcases hpc with rfl | rfl <;> rfl
    have hii := hi.distinct i i' request request' _ _ jobId hop hj hop' rfl
    exact he ts (hii ▸ rfl)

lemma stagedAs_write {jobId : JobId} {jobWorkers : List JobArgument}
    (h : s.db.StagedAs jobId jobWorkers) : (s.write e).StagedAs jobId jobWorkers := by
  rcases s.write_cases e with hw | ⟨st,-,hw⟩
  · exact hw ▸ h
  · exact hw ▸ h.run

/-- A job that has stages gets no more of them. -/
lemma worker?_write_eq_none (hi : Staged s) {jobId : JobId} {k : ℤ}
    (hu : ¬s.db.Unstaged jobId) (h : s.db.worker? jobId k = none) :
    (s.write e).worker? jobId k = none := by
  rcases s.write_cases e with hw | ⟨st,hst,hw⟩
  · exact hw ▸ h
  · rw [hw]
    by_contra hk
    obtain ⟨row,hrow⟩ := Option.ne_none_iff_exists'.mp hk
    rcases Statement.worker?_run hrow with ⟨row₀,hrow₀,-⟩ | ⟨-,ws,rfl,-⟩
    · exact absurd (h.symm.trans hrow₀) (by simp)
    · obtain ⟨i,ts,op,rfl,hop,hst⟩ := State.statement_eq_some hst
      obtain ⟨request,rfl⟩ := Operation.of_insertWorkers hst
      exact hu (hi.unstaged i request jobId hop)

lemma worker?_write_isSome {jobId : JobId} {k : ℤ} {row : JobWorkerRow}
    (h : s.db.worker? jobId k = some row) : ∃ row', (s.write e).worker? jobId k = some row' ∧
      row'.workerType = row.workerType := by
  rcases s.write_cases e with hw | ⟨st,-,hw⟩
  · exact ⟨row,hw ▸ h,rfl⟩
  · exact ⟨_,hw ▸ Statement.worker?_run_of_some h,by simp⟩

/-- An operation that inserts rows was one before, or has just drawn its id. -/
lemma newJob_origin (hm : Move fleet s e u) {i : ℕ} {request : JobRequest} {pc : NewJobPc}
    {jobId : JobId} (hop : u.operations i = some (.newJob request pc))
    (hj : pc.jobId? = some jobId) :
    (∃ pc₀, s.operations i = some (.newJob request pc₀) ∧ pc₀.jobId? = some jobId) ∨
      jobId = s.db.sequence+1 ∧ (∃ ts, e = .advance i ts) ∧ u.db.sequence = s.db.sequence+1 := by
  rcases hm.operation_origin hop with ⟨hop,-⟩ | ⟨ts,op₀,o,rfl,hop₀,hp,hn⟩ | ⟨hs,-⟩
  · exact .inl ⟨pc,hop,hj⟩
  · rcases hp.next_newJob hn with ⟨t,rfl,rfl⟩ | ⟨j,rfl,rfl,-⟩ | ⟨j,rfl,rfl,-⟩
    · right
      refine ⟨(Option.some.inj hj).symm,⟨ts,rfl⟩,?_⟩
      rw [hm.db_advance hop₀]
      rfl
    · exact .inl ⟨_,hop₀,hj⟩
    · exact .inl ⟨_,hop₀,hj⟩
  · cases hs
    cases hj

lemma owned_reopened (hi : Staged s) (graceful : Bool) (ts : TimeStamp) :
    (s.reopened graceful ts).Owned := by
  unfold State.reopened
  split
  · exact ⟨hi.owned.stages,hi.owned.tags⟩
  · exact ⟨hi.ownedFile.stages,hi.ownedFile.tags⟩

lemma contiguous_reopened (hi : Staged s) (graceful : Bool) (ts : TimeStamp) :
    (s.reopened graceful ts).Contiguous := by
  unfold State.reopened
  split
  · exact hi.contiguous
  · exact hi.contiguousFile

/-- No two calls insert the same job. -/
lemma distinct_move (hi : Staged s) (hm : Move fleet s e u) {i i' : ℕ}
    {request request' : JobRequest} {pc pc' : NewJobPc} {jobId : JobId}
    (hop : u.operations i = some (.newJob request pc)) (hj : pc.jobId? = some jobId)
    (hop' : u.operations i' = some (.newJob request' pc')) (hj' : pc'.jobId? = some jobId) :
    i = i' := by
  rcases newJob_origin hm hop hj with ⟨pc₀,hop₀,hj₀⟩ | ⟨rfl,⟨ts,he⟩,-⟩
  · rcases newJob_origin hm hop' hj' with ⟨pc₁,hop₁,hj₁⟩ | ⟨rfl,-,-⟩
    · exact hi.distinct i i' request request' pc₀ pc₁ jobId hop₀ hj₀ hop₁ hj₁
    · exact absurd (hi.drawn i request pc₀ _ hop₀ hj₀) (Nat.not_succ_le_self _)
  · rcases newJob_origin hm hop' hj' with ⟨pc₁,hop₁,hj₁⟩ | ⟨-,⟨ts',he'⟩,-⟩
    · exact absurd (hi.drawn i' request' pc₁ _ hop₁ hj₁) (Nat.not_succ_le_self _)
    · exact (Event.advance.inj (he.symm.trans he')).1

section Rows
variable (hi : Staged s) (hm : Move fleet s e u) (hu : u.db = s.write e)
include hi hm hu

lemma unstaged_move {i : ℕ} {request : JobRequest} {jobId : JobId}
    (hop : u.operations i = some (.newJob request (.workers jobId))) : u.db.Unstaged jobId := by
  rcases hm.operation_origin hop with ⟨hop,he⟩ | ⟨ts,op₀,o,rfl,hop₀,hp,hn⟩ | ⟨hs,-⟩
  · exact hu ▸ hi.unstaged_write hop he
  · rcases hp.next_newJob hn with ⟨t,rfl,hpc⟩ | ⟨j,-,hpc,-⟩ | ⟨j,-,hpc,-⟩ <;> cases hpc
    rw [hu,State.write_advance hop₀]
    exact hi.owned.unstaged_next.run (by simp)
  · cases hs

lemma untagged_move {i : ℕ} {request : JobRequest} {pc : NewJobPc} {jobId : JobId}
    (hop : u.operations i = some (.newJob request pc))
    (hpc : pc = .workers jobId ∨ pc = .tags jobId) : u.db.Untagged jobId := by
  rcases hm.operation_origin hop with ⟨hop,he⟩ | ⟨ts,op₀,o,rfl,hop₀,hp,hn⟩ | ⟨hs,-⟩
  · exact hu ▸ hi.untagged_write hop hpc he
  · rw [hu,State.write_advance hop₀]
    rcases hp.next_newJob hn with ⟨t,rfl,rfl⟩ | ⟨j,rfl,rfl,-⟩ | ⟨j,rfl,rfl,-⟩
    · obtain rfl : s.db.sequence+1 = jobId := by simpa using hpc
      exact hi.owned.untagged_next.run (by simp)
    · obtain rfl : j = jobId := by simpa using hpc
      exact (hi.untagged i request _ j hop₀ (.inl rfl)).run (by simp)
    · simp at hpc
  · cases hs
    simp at hpc

lemma stagedAs_move {i : ℕ} {request : JobRequest} {pc : NewJobPc} {jobId : JobId}
    (hop : u.operations i = some (.newJob request pc))
    (hpc : pc = .tags jobId ∨ pc = .enqueue jobId) : u.db.StagedAs jobId request.jobWorkers := by
  rcases hm.operation_origin hop with ⟨hop,he⟩ | ⟨ts,op₀,o,rfl,hop₀,hp,hn⟩ | ⟨hs,-⟩
  · exact hu ▸ stagedAs_write (hi.stagedAs i request pc jobId hop hpc)
  · rw [hu,State.write_advance hop₀]
    rcases hp.next_newJob hn with ⟨t,rfl,rfl⟩ | ⟨j,rfl,rfl,-⟩ | ⟨j,rfl,rfl,-⟩
    · simp at hpc
    · obtain rfl : j = jobId := by simpa using hpc
      exact (Db.insertWorkers_of_unstaged (hi.unstaged i request j hop₀)).2
    · obtain rfl : j = jobId := by simpa using hpc
      exact (hi.stagedAs i request _ j hop₀ (.inl rfl)).run
  · cases hs
    simp at hpc

end Rows

theorem step (hi : Staged s) (hm : Move fleet s e u) : Staged u := by
  rcases hm.writes with ⟨graceful,ts,rfl,hu,hv⟩ | ⟨hu,hv⟩
  · -- A new process has no operations.
    have ho : ∀ i, u.operations i = none := by
      intro i
      cases hm
      rfl
    constructor
    case owned => exact hu ▸ hi.owned_reopened graceful ts
    case ownedFile => exact hv ▸ hi.owned_reopened graceful ts
    case contiguous => exact hu ▸ hi.contiguous_reopened graceful ts
    case contiguousFile => exact hv ▸ hi.contiguous_reopened graceful ts
    all_goals
      intro i
      simp [ho i]
  · constructor
    case owned => exact hu ▸ hi.owned_write
    case contiguous => exact hu ▸ hi.contiguous_write
    case ownedFile =>
      rcases s.commit_cases e with hc | hc
      · exact hv.trans hc ▸ hi.ownedFile
      · exact hv.trans hc ▸ hi.owned
    case contiguousFile =>
      rcases s.commit_cases e with hc | hc
      · exact hv.trans hc ▸ hi.contiguousFile
      · exact hv.trans hc ▸ hi.contiguous
    case drawn =>
      intro i request pc jobId hop hj
      rcases newJob_origin hm hop hj with ⟨pc₀,hop₀,hj₀⟩ | ⟨rfl,-,hseq⟩
      · rw [hu]
        exact (hi.drawn i request pc₀ jobId hop₀ hj₀).trans sequence_le_write
      · exact hseq.ge
    case distinct => exact fun i i' _ _ _ _ jobId => hi.distinct_move hm
    case unstaged => exact fun i request jobId => hi.unstaged_move hm hu
    case untagged => exact fun i request pc jobId => hi.untagged_move hm hu
    case stagedAs => exact fun i request pc jobId => hi.stagedAs_move hm hu

end Staged

lemma staged_initial : Staged .initial := by
  have howned : Db.empty.Owned := ⟨fun _ _ row hrow => absurd hrow (by simp),
    fun tag htag => absurd htag (by simp [Db.empty])⟩
  have hcont : Db.empty.Contiguous := fun _ _ row hrow => absurd hrow (by simp)
  constructor
  case owned | ownedFile => exact howned
  case contiguous | contiguousFile => exact hcont
  all_goals
    intro i
    simp [State.initial]

theorem staged {fleet : Fleet} {C : State → Event → Prop} {s : State}
    (h : (system fleet).ReachableBy C s) : Staged s := by
  refine h.invariant ?_ ?_
  · rintro s rfl
    exact staged_initial
  · rintro s e s' - hi - hstep
    obtain ⟨u,hm,rfl⟩ := Move.of_step hstep
    have hu := hi.step hm
    exact ⟨hu.owned,hu.ownedFile,hu.contiguous,hu.contiguousFile,hu.drawn,hu.distinct,hu.unstaged,
      hu.untagged,hu.stagedAs⟩

end LiveKBench.KScheduler
