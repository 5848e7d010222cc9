import LiveKBench.KScheduler.Ledger
import LiveKBench.KScheduler.StaleUpdate

/-! Whether what `newJob` and `abort` told their callers outlives the process. Neither of them
commits, so a job that was returned is lost with the open transaction; in the runs that do not
meet this, every job stays as it was asked for. -/
namespace LiveKBench.KScheduler
open KCore Lib Backend

/-! ## What a statement leaves of a job -/

namespace Db

def tagsOf (db : Db) (jobId : JobId) : List JobTag := db.jobTag.select fun tag => tag.jobId = jobId

/-- A job with its stages as they were asked for, in two databases. -/
structure SameJob (db db' : Db) (jobId : JobId) : Prop where
  digest : (db'.digest? jobId).isSome = (db.digest? jobId).isSome
  stages : ∀ k, (db'.worker? jobId k).map JobWorkerRow.asked =
    (db.worker? jobId k).map JobWorkerRow.asked

lemma SameJob.rfl {db : Db} {jobId : JobId} : db.SameJob db jobId :=
  ⟨Eq.refl _,fun _ => Eq.refl _⟩

lemma SameJob.trans {db₁ db₂ db₃ : Db} {jobId : JobId} (h : db₁.SameJob db₂ jobId)
    (h' : db₂.SameJob db₃ jobId) : db₁.SameJob db₃ jobId :=
  ⟨h'.digest.trans h.digest,fun k => (h'.stages k).trans (h.stages k)⟩

lemma SameJob.symm {db₁ db₂ : Db} {jobId : JobId} (h : db₁.SameJob db₂ jobId) :
    db₂.SameJob db₁ jobId :=
  ⟨h.digest.symm,fun k => (h.stages k).symm⟩

/-- The job has exactly the stages that were asked for. -/
def AskedAs (db : Db) (jobId : JobId) (jobWorkers : List JobArgument) : Prop :=
  ∀ n : ℕ, (db.worker? jobId n).map JobWorkerRow.asked = jobWorkers[n]?.map JobArgument.asked

/-- A stage has no result that was not reported. -/
def Reported (db : Db) (reported : List (JobId × ℤ)) : Prop :=
  ∀ jobId k row, db.worker? jobId k = some row →
    row.workerResult = none ∨ (jobId,k) ∈ reported

variable {db db' : Db} {jobId : JobId} {jobWorkers : List JobArgument}

lemma SameJob.askedAs (h : db.SameJob db' jobId) (ha : db.AskedAs jobId jobWorkers) :
    db'.AskedAs jobId jobWorkers :=
  fun n => (h.stages n).trans (ha n)

lemma SameJob.digest? (h : db.SameJob db' jobId) (hd : ∃ d, db.digest? jobId = some d) :
    ∃ d, db'.digest? jobId = some d := by
  rw [← Option.isSome_iff_exists] at hd ⊢
  rw [h.digest,hd]

lemma untagged_iff : db.Untagged jobId ↔ db.tagsOf jobId = [] := by
  simp [Untagged,tagsOf,Table.select,List.filter_eq_nil_iff]

lemma selectTags_eq (h : db'.tagsOf jobId = db.tagsOf jobId) :
    db'.selectTags jobId = db.selectTags jobId :=
  congrArg (List.map fun tag : JobTag => (tag.tagKey,tag.tagValue)) h

lemma worker?_insertWorkers {n : ℕ} {row : JobWorkerRow} (h : db.Unstaged jobId)
    (hrow : (db.insertWorkers jobId jobWorkers).1.worker? jobId n = some row) :
    ∃ argument, jobWorkers[n]? = some argument ∧ row = newStage jobId n argument := by
  have hrun : ((Statement.insertWorkers jobId jobWorkers).run db).worker? jobId n = some row := hrow
  rcases Statement.worker?_run hrun with ⟨row₀,hrow₀,-⟩ | ⟨-,ws,hws,m,argument,hm,ha,rfl⟩
  · exact absurd ((h n).symm.trans hrow₀) (by simp)
  · cases hws
    obtain rfl : n = m := by omega
    exact ⟨argument,ha,rfl⟩

/-- The stages of a job that had none are those that were asked for. -/
lemma askedAs_insertWorkers (h : db.Unstaged jobId) :
    (db.insertWorkers jobId jobWorkers).1.AskedAs jobId jobWorkers := by
  intro n
  cases hn : jobWorkers[n]? with
  | some argument =>
    obtain ⟨row,hrow,-⟩ := (insertWorkers_of_unstaged h).2 n argument hn
    obtain ⟨argument',ha,rfl⟩ := worker?_insertWorkers h hrow
    cases hn.symm.trans ha
    rw [hrow]
    rfl
  | none =>
    have hnone : (db.insertWorkers jobId jobWorkers).1.worker? jobId n = none := by
      by_contra hne
      obtain ⟨row,hrow⟩ := Option.ne_none_iff_exists'.mp hne
      obtain ⟨argument,ha,-⟩ := worker?_insertWorkers h hrow
      exact absurd (hn.symm.trans ha) (by simp)
    rw [hnone]
    rfl

/-- The tags of a job that had none are those that were asked for. -/
lemma selectTags_insertTags {tags : List (String × String)} (hn : (tags.map Prod.fst).Nodup)
    (h : db.Untagged jobId) : (db.insertTags jobId tags).1.selectTags jobId = tags := by
  have hold : db.jobTag.rows.filter (fun tag => tag.jobId = jobId) = [] := untagged_iff.mp h
  change ((db.insertTags jobId tags).1.jobTag.rows.filter _).map _ = tags
  rw [(insertTags_of_untagged hn h).2,List.filter_append,hold,List.nil_append]
  simp [tagRows,List.filter_map,Function.comp_def]

/-! A new process changes the digests of the jobs that were left over, and nothing else. -/

lemma sameJob_abortLeftOver (db : Db) (ts : TimeStamp) (jobId : JobId) :
    db.SameJob (db.abortLeftOver ts) jobId := by
  refine ⟨?_,fun _ => rfl⟩
  rw [digest?_abortLeftOver]
  exact Option.isSome_map

lemma aborted_abortLeftOver {d : JobDigest} (hd : db.digest? jobId = some d)
    (hs : d.status ≠ .finished) (ts : TimeStamp) :
    ∃ d', (db.abortLeftOver ts).digest? jobId = some d' ∧ d'.status = .aborted := by
  rw [digest?_abortLeftOver,hd]
  refine ⟨_,rfl,?_⟩
  by_cases hl : LeftOver d
  · simp [hl]
  · simp only [hl,if_false]
    cases hstatus : d.status <;> simp_all [LeftOver]

/-- What the jobs of a database have in common, those of the database after its start have. -/
lemma digest?_of_abortLeftOver {d : JobDigest} {ts : TimeStamp}
    (hd : (db.abortLeftOver ts).digest? jobId = some d) :
    ∃ d₀ ∈ db.jobDigest.rows, d₀.jobId = jobId := by
  rw [digest?_abortLeftOver] at hd
  obtain ⟨d₀,hd₀,-⟩ := Option.map_eq_some_iff.mp hd
  exact ⟨d₀,Table.get?_eq_some.mp hd₀⟩

end Db

namespace Statement
variable {st : Statement} {db : Db} {jobId : JobId}

lemma sameJob_run (h : st.inserts db ≠ some jobId) : db.SameJob (st.run db) jobId := by
  constructor
  · cases hd : db.digest? jobId with
    | some d => rw [digest?_run_of_some hd]; rfl
    | none =>
      have hnone : (st.run db).digest? jobId = none := by
        by_contra hne
        obtain ⟨d,hd'⟩ := Option.ne_none_iff_exists'.mp hne
        rcases digest?_run hd' with ⟨d₀,hd₀,-⟩ | ⟨ts,rfl,rfl,-⟩
        · exact absurd (hd.symm.trans hd₀) (by simp)
        · exact h rfl
      rw [hnone]
  · intro k
    cases hw : db.worker? jobId k with
    | some row =>
      rw [worker?_run_of_some hw]
      have hs : (st.stage row).asked = row.asked := by
        cases st <;> simp only [stage]
        split <;> rfl
      simp [hs]
    | none =>
      have hnone : (st.run db).worker? jobId k = none := by
        by_contra hne
        obtain ⟨row,hrow⟩ := Option.ne_none_iff_exists'.mp hne
        rcases worker?_run hrow with ⟨row₀,hrow₀,-⟩ | ⟨-,ws,rfl,-⟩
        · exact absurd (hw.symm.trans hrow₀) (by simp)
        · exact h rfl
      rw [hnone]

lemma tagsOf_insertTags {j : JobId} (hj : j ≠ jobId) (tags : List (String × String)) :
    (db.insertTags j tags).1.tagsOf jobId = db.tagsOf jobId := by
  obtain ⟨done,hp,hrows⟩ := db.jobTag.rows_insertMany (Db.tagRows j tags)
  refine Table.select_append (t := db.jobTag) hrows ?_
  intro tag htag
  obtain ⟨kv,-,rfl⟩ := List.mem_map.mp (hp.subset htag)
  simpa using hj

lemma tagsOf_run (h : st.inserts db ≠ some jobId) : (st.run db).tagsOf jobId = db.tagsOf jobId := by
  cases st with
  | insertTags j tags =>
    by_cases ht : tags = []
    · subst ht
      rfl
    · exact tagsOf_insertTags (by simpa [inserts,ht] using h) tags
  | _ => rfl

lemma reported_run {reported : List (JobId × ℤ)} (h : db.Reported reported) :
    (st.run db).Reported (st.reports.toList ++ reported) := by
  intro jobId k row hrow
  rcases worker?_run hrow with ⟨row₀,hrow₀,rfl⟩ | ⟨-,ws,rfl,n,argument,-,-,rfl⟩
  · have hold := (h jobId k row₀ hrow₀).imp_right fun hr => List.mem_append_right st.reports.toList hr
    cases st with
    | writeResult j i result =>
      simp only [stage]
      split
      · next he =>
        obtain ⟨hj,hk⟩ := Db.worker?_key hrow₀
        right
        simp [reports,← he.1,← he.2,hj,hk]
      · exact hold
    | _ => exact hold
  · exact .inl rfl

/-- Only `newJob` inserts rows, and those of a job that it has drawn. -/
lemma inserts_cases {op : Operation} (hst : op.statement = some st)
    (h : st.inserts db = some jobId) : op.inserting = some jobId ∨ jobId = db.sequence+1 := by
  unfold Operation.statement at hst
  split at hst <;> cases hst
  case h_1 => exact .inr (Option.some.inj h).symm
  case h_2 => exact .inl h
  case h_3 =>
    simp only [inserts] at h
    split at h
    · cases h
    · exact .inl h
  all_goals cases h

end Statement

/-! ## What a step notes -/

namespace Service
variable {fleet : Fleet} {s : Service} {e : Event} {u : State}

/-- The database, the file and the ledger after an event of the scheduler other than its start. -/
inductive Noted (s : Service) (e : Event) : Db → Db → Ledger → Prop
  | wrote {op st} (runs : s.scheduler.advancing e = some op) (writes : op.statement = some st) :
      Noted s e (st.run s.scheduler.db) s.scheduler.committed
        { s.ledger with
          aborted := (st.aborts s.scheduler.db).toList ++
            s.ledger.aborted.filter (st.leaves s.scheduler.db)
          unsaved := (st.inserts s.scheduler.db).toList ++ s.ledger.unsaved
          reported := st.reports.toList ++ s.ledger.reported }
  | returned {request jobId}
      (runs : s.scheduler.advancing e = some (.newJob request (.enqueue jobId))) :
      Noted s e s.scheduler.db s.scheduler.committed
        { s.ledger with returned := (jobId,request) :: s.ledger.returned }
  | committed : Noted s e s.scheduler.db s.scheduler.db { s.ledger with unsaved := [] }
  | nothing : Noted s e s.scheduler.db s.scheduler.committed s.ledger

lemma commits_of_statement {op : Operation} {st : Statement} (h : op.statement = some st) :
    op.commits = false := by
  unfold Operation.statement at h
  split at h <;> first | rfl | cases h

lemma returning_eq_some {op : Operation} {p : JobId × JobRequest} (h : op.returning = some p) :
    op = .newJob p.2 (.enqueue p.1) := by
  unfold Operation.returning at h
  split at h
  · split at h
    · cases h
      rfl
    · cases h
  · cases h

theorem noted (hm : Move fleet s.scheduler e u)
    (hr : ∀ graceful ts, e ≠ .restartScheduler graceful ts) :
    Noted s e u.db u.committed (s.note (.scheduler e)) := by
  obtain ⟨hu,hv⟩ := hm.writes_of_ne hr
  rw [hu,hv]
  cases ha : s.scheduler.advancing e with
  | none =>
    have hnote : s.note (.scheduler e) = s.ledger := by
      cases e with
      | advance i ts => simp only [note,show s.scheduler.operations i = none from ha]
      | restartScheduler graceful ts => exact absurd rfl (hr graceful ts)
      | _ => rfl
    simp only [State.write,State.statement,State.commit,ha,hnote]
    exact .nothing
  | some op =>
    have hnote : s.note (.scheduler e) = s.ledger.piece s.scheduler.db op := by
      obtain ⟨i,ts,rfl,hop⟩ := State.advancing_eq_some ha
      simp only [note,hop]
    cases hst : op.statement with
    | some st =>
      simp only [State.write,State.statement,State.commit,ha,hnote,Option.bind_some,hst,
        Option.any_some,commits_of_statement hst,Ledger.piece]
      exact .wrote ha hst
    | none =>
      simp only [State.write,State.statement,State.commit,ha,hnote,Option.bind_some,hst,
        Option.any_some,Ledger.piece]
      cases hret : op.returning with
      | some p =>
        obtain rfl := returning_eq_some hret
        exact .returned ha
      | none =>
        cases op.commits with
        | true => exact .committed
        | false => exact .nothing

namespace Noted
variable {db file : Db} {l : Ledger} {jobId : JobId}

/-- A job that the running operation is not inserting stays as it was asked for. -/
lemma same (hn : Noted s e db file l) (hid : jobId ≤ s.scheduler.db.sequence)
    (hne : ∀ op, s.scheduler.advancing e = some op → op.inserting ≠ some jobId) :
    s.scheduler.db.SameJob db jobId ∧ db.tagsOf jobId = s.scheduler.db.tagsOf jobId := by
  cases hn with
  | @wrote op st runs writes =>
    have hins : st.inserts s.scheduler.db ≠ some jobId := by
      intro h
      rcases Statement.inserts_cases writes h with h | h
      · exact hne op runs h
      · exact absurd (h ▸ hid) (Nat.not_succ_le_self _)
    exact ⟨Statement.sameJob_run hins,Statement.tagsOf_run hins⟩
  | _ => exact ⟨.rfl,rfl⟩

lemma digest? (hn : Noted s e db file l) (h : ∃ d, s.scheduler.db.digest? jobId = some d) :
    ∃ d, db.digest? jobId = some d := by
  obtain ⟨d,hd⟩ := h
  cases hn with
  | wrote => exact ⟨_,Statement.digest?_run_of_some hd⟩
  | _ => exact ⟨d,hd⟩

lemma returned_of (hn : Noted s e db file l) {request : JobRequest}
    (h : (jobId,request) ∈ l.returned) : (jobId,request) ∈ s.ledger.returned ∨
      s.scheduler.advancing e = some (.newJob request (.enqueue jobId)) ∧
        db = s.scheduler.db := by
  cases hn with
  | returned runs =>
    rcases List.mem_cons.mp h with h | h
    · cases h
      exact .inr ⟨runs,rfl⟩
    · exact .inl h
  | _ => exact .inl h

lemma returned_cases (hn : Noted s e db file l) (h : l.Returned jobId) :
    s.ledger.Returned jobId ∨
      ∃ request, s.scheduler.advancing e = some (.newJob request (.enqueue jobId)) := by
  obtain ⟨⟨j,request⟩,hmem,rfl⟩ := List.mem_map.mp h
  rcases hn.returned_of hmem with h | ⟨hadv,-⟩
  · exact .inl (List.mem_map_of_mem h)
  · exact .inr ⟨request,hadv⟩

lemma returned_subset (hn : Noted s e db file l) (h : s.ledger.Returned jobId) :
    l.Returned jobId := by
  cases hn with
  | returned => exact List.mem_cons_of_mem _ h
  | _ => exact h

lemma retagged (hn : Noted s e db file l) : l.retagged = s.ledger.retagged := by
  cases hn <;> rfl

end Noted

/-! ## The invariant -/

/-- What holds in every careful run: what `Durable` says, how far the running calls of `newJob`
have come, and that the file has every job of which the open transaction has inserted nothing. -/
structure Sound (s : Service) : Prop where
  staged : Staged s.scheduler
  asks : ∀ i request pc, s.scheduler.operations i = some (.newJob request pc) →
    request.jobWorkers ≠ []
  inserted : ∀ i op jobId, s.scheduler.operations i = some op → op.inserting = some jobId →
    (∃ d, s.scheduler.db.digest? jobId = some d) ∧ ¬s.ledger.Returned jobId
  stages : ∀ i request pc jobId, s.scheduler.operations i = some (.newJob request pc) →
    pc = .tags jobId ∨ pc = .enqueue jobId → s.scheduler.db.AskedAs jobId request.jobWorkers
  tags : ∀ i request jobId, s.scheduler.operations i = some (.newJob request (.enqueue jobId)) →
    s.scheduler.db.selectTags jobId = request.tags
  accounted : ∀ jobId d, s.scheduler.db.digest? jobId = some d → s.ledger.Returned jobId ∨
    ∃ i op, s.scheduler.operations i = some op ∧ op.inserting = some jobId
  present : ∀ jobId, s.ledger.Returned jobId → ∃ d, s.scheduler.db.digest? jobId = some d
  keptStages : ∀ jobId request, (jobId,request) ∈ s.ledger.returned →
    s.scheduler.db.AskedAs jobId request.jobWorkers
  keptTags : ∀ jobId request, (jobId,request) ∈ s.ledger.returned →
    jobId ∈ s.ledger.retagged ∨ s.scheduler.db.selectTags jobId = request.tags
  distinct : (s.ledger.returned.map Prod.fst).Nodup
  aborted : ∀ jobId ∈ s.ledger.aborted,
    ∃ d, s.scheduler.db.digest? jobId = some d ∧ d.status = .aborted
  reported : s.scheduler.db.Reported s.ledger.reported
  reportedFile : s.scheduler.committed.Reported s.ledger.reported
  saved : ∀ jobId, jobId ∉ s.ledger.unsaved →
    s.scheduler.committed.SameJob s.scheduler.db jobId
  savedTags : ∀ jobId, jobId ∉ s.ledger.unsaved → jobId ∉ s.ledger.retagged →
    s.scheduler.committed.tagsOf jobId = s.scheduler.db.tagsOf jobId

lemma inserting_eq_some {op : Operation} {jobId : JobId} (h : op.inserting = some jobId) :
    ∃ request pc, op = .newJob request pc ∧ pc.jobId? = some jobId := by
  cases op with
  | newJob request pc => exact ⟨request,pc,rfl,h⟩
  | _ => cases h

namespace Sound
variable {db file : Db} {l : Ledger} {jobId : JobId}

lemma returned_le (hi : Sound s) (h : s.ledger.Returned jobId) :
    jobId ≤ s.scheduler.db.sequence := by
  obtain ⟨d,hd⟩ := hi.present jobId h
  exact Db.digest?_le hd

/-- Two running calls insert two jobs. -/
lemma inserting_distinct (hi : Sound s) {i j : ℕ} {op op' : Operation}
    (hop : s.scheduler.operations i = some op) (hop' : s.scheduler.operations j = some op')
    (h : op.inserting = some jobId) (h' : op'.inserting = some jobId) : i = j := by
  obtain ⟨request,pc,rfl,hj⟩ := inserting_eq_some h
  obtain ⟨request',pc',rfl,hj'⟩ := inserting_eq_some h'
  exact hi.staged.distinct i j request request' pc pc' jobId hop hj hop' hj'

/-- A returned job stays as it was asked for. -/
lemma same_of_returned (hi : Sound s) (hn : Noted s e db file l) (h : s.ledger.Returned jobId) :
    s.scheduler.db.SameJob db jobId ∧ db.tagsOf jobId = s.scheduler.db.tagsOf jobId := by
  refine hn.same (hi.returned_le h) ?_
  intro op hop hins
  obtain ⟨i,ts,-,hop⟩ := State.advancing_eq_some hop
  exact (hi.inserted i op jobId hop hins).2 h

/-- A job that an operation is inserting stays so while that operation waits. -/
lemma same_of_inserting (hi : Sound s) (hn : Noted s e db file l) {i : ℕ} {op : Operation}
    (hop : s.scheduler.operations i = some op) (h : op.inserting = some jobId)
    (he : ∀ ts, e ≠ .advance i ts) :
    s.scheduler.db.SameJob db jobId ∧ db.tagsOf jobId = s.scheduler.db.tagsOf jobId := by
  obtain ⟨d,hd⟩ := (hi.inserted i op jobId hop h).1
  refine hn.same (Db.digest?_le hd) ?_
  intro op' hop' hins
  obtain ⟨j,ts,rfl,hop'⟩ := State.advancing_eq_some hop'
  exact he ts (hi.inserting_distinct hop hop' h hins ▸ rfl)

lemma aborted_noted (hi : Sound s) (hn : Noted s e db file l) (h : jobId ∈ l.aborted) :
    ∃ d, db.digest? jobId = some d ∧ d.status = .aborted := by
  cases hn with
  | @wrote op st runs writes =>
    rcases List.mem_append.mp h with h | h
    · -- The abort has just taken effect.
      cases st with
      | abort j =>
        simp only [Statement.aborts] at h
        split at h
        · next ha =>
          obtain ⟨d,hd,ha⟩ := (Option.any_eq_true _ _).mp ha
          obtain rfl : jobId = j := List.mem_singleton.mp h
          refine ⟨_,Statement.digest?_run_of_some hd,?_⟩
          simp only [Statement.row,if_pos (of_decide_eq_true ha)]
        · cases h
      | _ => cases h
    · obtain ⟨h,hleaves⟩ := List.mem_filter.mp h
      obtain ⟨d,hd,hs⟩ := hi.aborted jobId h
      refine ⟨_,Statement.digest?_run_of_some hd,?_⟩
      simp only [Statement.leaves,hd,Option.all_some,decide_eq_true_eq] at hleaves
      rw [hleaves,hs]
  | _ => exact hi.aborted jobId h

lemma reported_noted (hi : Sound s) (hn : Noted s e db file l) :
    db.Reported l.reported ∧ file.Reported l.reported := by
  cases hn with
  | @wrote op st runs writes =>
    refine ⟨Statement.reported_run hi.reported,?_⟩
    intro j k row hrow
    exact (hi.reportedFile j k row hrow).imp_right (List.mem_append_right _)
  | committed => exact ⟨hi.reported,hi.reported⟩
  | returned | nothing => exact ⟨hi.reported,hi.reportedFile⟩

lemma saved_noted (hi : Sound s) (hn : Noted s e db file l) (h : jobId ∉ l.unsaved) :
    file.SameJob db jobId := by
  cases hn with
  | @wrote op st runs writes =>
    simp only [List.mem_append,Option.mem_toList,not_or] at h
    exact (hi.saved jobId h.2).trans (Statement.sameJob_run fun hins => h.1 hins)
  | committed => exact .rfl
  | returned | nothing => exact hi.saved jobId h

lemma savedTags_noted (hi : Sound s) (hn : Noted s e db file l) (h : jobId ∉ l.unsaved)
    (ht : jobId ∉ l.retagged) : file.tagsOf jobId = db.tagsOf jobId := by
  cases hn with
  | @wrote op st runs writes =>
    simp only [List.mem_append,Option.mem_toList,not_or] at h
    have hrun : (st.run s.scheduler.db).tagsOf jobId = s.scheduler.db.tagsOf jobId :=
      Statement.tagsOf_run fun hins => h.1 hins
    exact (hi.savedTags jobId h.2 ht).trans hrun.symm
  | committed => rfl
  | returned | nothing => exact hi.savedTags jobId h ht

lemma distinct_noted (hi : Sound s) (hn : Noted s e db file l) :
    (l.returned.map Prod.fst).Nodup := by
  cases hn with
  | @returned request j runs =>
    obtain ⟨i,ts,-,hop⟩ := State.advancing_eq_some runs
    exact List.nodup_cons.mpr ⟨(hi.inserted i _ j hop rfl).2,hi.distinct⟩
  | _ => exact hi.distinct

section Move
variable (hi : Sound s) (hm : Move fleet s.scheduler e u)
  (hr : ∀ graceful ts, e ≠ .restartScheduler graceful ts)
include hi hm hr

/-- The job of a running call has a digest and was not returned. -/
lemma inserted_move {i : ℕ} {op : Operation} (hop : u.operations i = some op)
    (hins : op.inserting = some jobId) : (∃ d, u.db.digest? jobId = some d) ∧
      ¬(s.note (.scheduler e)).Returned jobId := by
  have hn := noted hm hr
  obtain ⟨request,pc,rfl,hj⟩ := inserting_eq_some hins
  rcases hm.operation_origin hop with ⟨hop,he⟩ | ⟨ts,op₀,o,rfl,hop₀,hp,hnext⟩ | ⟨hs,-⟩
  · refine ⟨hn.digest? (hi.inserted i _ jobId hop hins).1,?_⟩
    intro hret
    rcases hn.returned_cases hret with hret | ⟨request',hadv⟩
    · exact (hi.inserted i _ jobId hop hins).2 hret
    · obtain ⟨j,ts,rfl,hop'⟩ := State.advancing_eq_some hadv
      exact he ts (hi.inserting_distinct hop hop' hins rfl ▸ rfl)
  · have hold : (s.note (.scheduler (.advance i ts))).Returned jobId →
        s.ledger.Returned jobId := by
      intro hret
      rcases hn.returned_cases hret with hret | ⟨request',hadv⟩
      · exact hret
      · cases hop₀.symm.trans hadv
        cases hp <;> cases hnext
    rcases hp.next_newJob hnext with ⟨t,rfl,rfl⟩ | ⟨j,rfl,rfl,-⟩ | ⟨j,rfl,rfl,-⟩
    · obtain rfl : s.scheduler.db.sequence+1 = jobId := by simpa [NewJobPc.jobId?] using hj
      refine ⟨⟨newDigest (s.scheduler.db.sequence+1) t,?_⟩,?_⟩
      · rw [hm.db_advance hop₀]
        exact (Statement.digest?_insertDigest _ _ _).trans (if_pos rfl)
      · intro hret
        exact absurd (hi.returned_le (hold hret)) (Nat.not_succ_le_self _)
    · obtain ⟨hd,hnot⟩ := hi.inserted i _ jobId hop₀ hj
      exact ⟨hn.digest? hd,fun hret => hnot (hold hret)⟩
    · obtain ⟨hd,hnot⟩ := hi.inserted i _ jobId hop₀ hj
      exact ⟨hn.digest? hd,fun hret => hnot (hold hret)⟩
  · cases hs
    cases hj

lemma stages_move {i : ℕ} {request : JobRequest} {pc : NewJobPc}
    (hop : u.operations i = some (.newJob request pc))
    (hpc : pc = .tags jobId ∨ pc = .enqueue jobId) : u.db.AskedAs jobId request.jobWorkers := by
  have hn := noted hm hr
  have hj : pc.jobId? = some jobId := by rcases hpc with rfl | rfl <;> rfl
  rcases hm.operation_origin hop with ⟨hop,he⟩ | ⟨ts,op₀,o,rfl,hop₀,hp,hnext⟩ | ⟨hs,-⟩
  · exact (hi.same_of_inserting hn hop hj he).1.askedAs (hi.stages i request pc jobId hop hpc)
  · rw [hm.db_advance hop₀]
    rcases hp.next_newJob hnext with ⟨t,rfl,rfl⟩ | ⟨j,rfl,rfl,-⟩ | ⟨j,rfl,rfl,-⟩
    · simp at hpc
    · obtain rfl : j = jobId := by simpa using hpc
      exact Db.askedAs_insertWorkers (hi.staged.unstaged i request j hop₀)
    · obtain rfl : j = jobId := by simpa using hpc
      exact hi.stages i request _ j hop₀ (.inl rfl)
  · cases hs
    simp at hpc

lemma tags_move {i : ℕ} {request : JobRequest}
    (hop : u.operations i = some (.newJob request (.enqueue jobId))) :
    u.db.selectTags jobId = request.tags := by
  have hn := noted hm hr
  rcases hm.operation_origin hop with ⟨hop,he⟩ | ⟨ts,op₀,o,rfl,hop₀,hp,hnext⟩ | ⟨hs,-⟩
  · rw [Db.selectTags_eq (hi.same_of_inserting hn hop rfl he).2]
    exact hi.tags i request jobId hop
  · rw [hm.db_advance hop₀]
    rcases hp.next_newJob hnext with ⟨t,-,hpc⟩ | ⟨j,-,hpc,-⟩ | ⟨j,rfl,hpc,-⟩ <;> cases hpc
    exact Db.selectTags_insertTags request.distinctTags
      (hi.staged.untagged i request _ jobId hop₀ (.inr rfl))
  · cases hs

/-- A running call goes on, or it has returned its job; it does not fail. -/
lemma inserting_fate (hc : s.Careful (.scheduler e)) {i : ℕ} {op : Operation}
    (hop : s.scheduler.operations i = some op) (hins : op.inserting = some jobId) :
    (s.note (.scheduler e)).Returned jobId ∨
      ∃ op', u.operations i = some op' ∧ op'.inserting = some jobId := by
  obtain ⟨request,pc,rfl,hj⟩ := inserting_eq_some hins
  cases hm.operation_fate hop with
  | kept after => exact .inr ⟨_,after,hins⟩
  | @piece ts o ran after =>
    have hnext : u.operations i = o.next? := by
      rw [after,State.operations_settle,Function.update_self]
    cases ran with
    | insertDigest => cases hj
    | insertWorkers => exact .inr ⟨_,hnext,hj⟩
    | insertTags => exact .inr ⟨_,hnext,hj⟩
    | @workersTaken _ j taken =>
      exact absurd (Db.insertWorkers_of_unstaged (hi.staged.unstaged i request j hop)).1 taken
    | @tagsTaken _ j taken =>
      have hun := hi.staged.untagged i request _ j hop (.inr rfl)
      exact absurd (Db.insertTags_of_untagged request.distinctTags hun).1 taken
    | newJobWithoutStage empty =>
      exact absurd (by simpa using empty) (hi.asks i request _ hop)
    | @newJobPublish _ j argument first =>
      obtain rfl : j = jobId := Option.some.inj hj
      left
      simp [note,hop,Ledger.piece,Operation.statement,Operation.returning,first,Ledger.Returned]
  | failed =>
    simp only [Careful,hop,Option.bind_some] at hc
    exact absurd (hins.symm.trans hc) (by simp)
  | lost replies => cases replies
  | @stopped graceful ts => exact absurd rfl (hr graceful ts)
  | answered awaits => cases awaits

lemma accounted_move (hc : s.Careful (.scheduler e)) {d : JobDigest}
    (hd : u.db.digest? jobId = some d) : (s.note (.scheduler e)).Returned jobId ∨
      ∃ i op, u.operations i = some op ∧ op.inserting = some jobId := by
  have hn := noted hm hr
  have hold : (∃ d, s.scheduler.db.digest? jobId = some d) →
      (s.note (.scheduler e)).Returned jobId ∨
        ∃ i op, u.operations i = some op ∧ op.inserting = some jobId := by
    rintro ⟨d₀,hd₀⟩
    rcases hi.accounted jobId d₀ hd₀ with hret | ⟨i,op,hop,hins⟩
    · exact .inl (hn.returned_subset hret)
    · exact (inserting_fate hi hm hr hc hop hins).imp_right fun h => ⟨i,h⟩
  rw [(hm.writes_of_ne hr).1] at hd
  rcases s.scheduler.write_cases e with hw | ⟨st,hst,hw⟩
  · exact hold ⟨d,hw ▸ hd⟩
  · rw [hw] at hd
    rcases Statement.digest?_run hd with ⟨d₀,hd₀,-⟩ | ⟨t,rfl,rfl,-⟩
    · exact hold ⟨d₀,hd₀⟩
    · -- The call that has drawn the id goes on.
      obtain ⟨i,ts,op,rfl,hop,hst⟩ := State.statement_eq_some hst
      obtain ⟨request,rfl⟩ : ∃ request, op = .newJob request (.digest t) := by
        unfold Operation.statement at hst
        split at hst <;> cases hst
        exact ⟨_,rfl⟩
      cases hm with
      | advance running piece =>
        cases running.symm.trans hop
        cases piece
        exact .inr ⟨i,_,by rw [State.operations_settle,Function.update_self]; rfl,rfl⟩

/-- What a step of the scheduler keeps, other than its start. -/
theorem move (hc : s.Careful (.scheduler e)) : Sound ⟨u,s.note (.scheduler e)⟩ := by
  have hn := noted hm hr
  constructor
  case staged => exact hi.staged.step hm
  case asks =>
    intro i request pc hop
    rcases hm.operation_origin hop with ⟨hop,-⟩ | ⟨ts,op₀,o,rfl,hop₀,hp,hnext⟩ | ⟨hs,-⟩
    · exact hi.asks i request pc hop
    · rcases hp.next_newJob hnext with ⟨t,rfl,-⟩ | ⟨j,rfl,-,-⟩ | ⟨j,rfl,-,-⟩ <;>
        exact hi.asks i request _ hop₀
    · cases hs
      exact hc
  case inserted => exact fun i op jobId hop hins => inserted_move hi hm hr hop hins
  case stages => exact fun i request pc jobId hop hpc => stages_move hi hm hr hop hpc
  case tags => exact fun i request jobId hop => tags_move hi hm hr hop
  case accounted => exact fun jobId d hd => accounted_move hi hm hr hc hd
  case present =>
    intro jobId hret
    rcases hn.returned_cases hret with hret | ⟨request,hadv⟩
    · exact hn.digest? (hi.present jobId hret)
    · obtain ⟨i,ts,-,hop⟩ := State.advancing_eq_some hadv
      exact hn.digest? (hi.inserted i _ jobId hop rfl).1
  case keptStages =>
    intro jobId request h
    rcases hn.returned_of h with h | ⟨hadv,hdb⟩
    · have hret : s.ledger.Returned jobId := List.mem_map_of_mem (f := Prod.fst) h
      exact (hi.same_of_returned hn hret).1.askedAs (hi.keptStages jobId request h)
    · obtain ⟨i,ts,-,hop⟩ := State.advancing_eq_some hadv
      exact hdb ▸ hi.stages i request _ jobId hop (.inr rfl)
  case keptTags =>
    intro jobId request h
    change jobId ∈ (s.note (.scheduler e)).retagged ∨ u.db.selectTags jobId = request.tags
    rw [hn.retagged]
    rcases hn.returned_of h with h | ⟨hadv,hdb⟩
    · have hret : s.ledger.Returned jobId := List.mem_map_of_mem (f := Prod.fst) h
      rw [Db.selectTags_eq (hi.same_of_returned hn hret).2]
      exact hi.keptTags jobId request h
    · obtain ⟨i,ts,-,hop⟩ := State.advancing_eq_some hadv
      exact .inr (hdb ▸ hi.tags i request jobId hop)
  case distinct => exact hi.distinct_noted hn
  case aborted => exact fun jobId h => hi.aborted_noted hn h
  case reported => exact (hi.reported_noted hn).1
  case reportedFile => exact (hi.reported_noted hn).2
  case saved => exact fun jobId h => hi.saved_noted hn h
  case savedTags => exact fun jobId h ht => hi.savedTags_noted hn h ht

end Move

/-- The database that a new process opens has every returned job. -/
lemma same_opened (hi : Sound s) {graceful : Bool} (hc : s.Saved graceful)
    (hret : s.ledger.Returned jobId) :
    s.scheduler.db.SameJob (if graceful then s.scheduler.db else s.scheduler.committed) jobId ∧
      (jobId ∈ s.ledger.retagged ∨
        (if graceful then s.scheduler.db else s.scheduler.committed).tagsOf jobId =
          s.scheduler.db.tagsOf jobId) := by
  cases graceful with
  | true => exact ⟨.rfl,.inr rfl⟩
  | false =>
    have hns : jobId ∉ s.ledger.unsaved := fun h => hc.returned rfl jobId h hret
    refine ⟨(hi.saved jobId hns).symm,?_⟩
    by_cases ht : jobId ∈ s.ledger.retagged
    · exact .inl ht
    · exact .inr (hi.savedTags jobId hns ht)

lemma aborted_opened (hi : Sound s) {graceful : Bool} (hc : s.Saved graceful)
    (h : jobId ∈ s.ledger.aborted) :
    ∃ d, (if graceful then s.scheduler.db else s.scheduler.committed).digest? jobId = some d ∧
      d.status ≠ .finished := by
  cases graceful with
  | true =>
    obtain ⟨d,hd,hs⟩ := hi.aborted jobId h
    exact ⟨d,hd,by simp [hs]⟩
  | false => exact hc.aborted rfl jobId h

lemma reported_opened (hi : Sound s) (graceful : Bool) :
    (if graceful then s.scheduler.db else s.scheduler.committed).Reported s.ledger.reported := by
  cases graceful with
  | true => exact hi.reported
  | false => exact hi.reportedFile

/-- What the start of the scheduler keeps. -/
theorem restart (hi : Sound s) {graceful : Bool} {ts : TimeStamp} (hc : s.Saved graceful)
    (hm : Move fleet s.scheduler (.restartScheduler graceful ts) u) :
    Sound ⟨u,{ s.ledger with unsaved := [] }⟩ := by
  have hstaged := hi.staged.step hm
  cases hm
  have hsame : ∀ {jobId}, s.ledger.Returned jobId →
      s.scheduler.db.SameJob (s.scheduler.reopened graceful ts) jobId :=
    fun hret => (hi.same_opened hc hret).1.trans (Db.sameJob_abortLeftOver _ _ _)
  constructor
  case staged => exact hstaged
  case asks | stages | tags => exact fun _ _ _ => nofun
  case inserted => exact fun _ _ _ => nofun
  case accounted =>
    intro jobId d hd
    obtain ⟨d₀,hmem,rfl⟩ := Db.digest?_of_abortLeftOver hd
    exact .inl (hc.complete d₀ hmem)
  case present => exact fun jobId hret => (hsame hret).digest? (hi.present jobId hret)
  case keptStages =>
    intro jobId request h
    exact (hsame (List.mem_map_of_mem (f := Prod.fst) h)).askedAs (hi.keptStages jobId request h)
  case keptTags =>
    intro jobId request h
    rcases (hi.same_opened hc (List.mem_map_of_mem (f := Prod.fst) h)).2 with ht | ht
    · exact .inl ht
    · have hsel : (s.scheduler.reopened graceful ts).selectTags jobId =
          s.scheduler.db.selectTags jobId := Db.selectTags_eq ht
      exact (hi.keptTags jobId request h).imp_right hsel.trans
  case distinct => exact hi.distinct
  case aborted =>
    intro jobId h
    obtain ⟨d,hd,hs⟩ := hi.aborted_opened hc h
    exact Db.aborted_abortLeftOver hd hs ts
  case reported | reportedFile => exact hi.reported_opened graceful
  case saved => exact fun jobId _ => .rfl
  case savedTags => exact fun jobId _ _ => rfl

/-- What a commit by another user of the connection keeps. -/
theorem commit (hi : Sound s) :
    Sound ⟨{ s.scheduler with committed := s.scheduler.db },{ s.ledger with unsaved := [] }⟩ where
  __ := hi
  staged :=
    { __ := hi.staged, ownedFile := hi.staged.owned, contiguousFile := hi.staged.contiguous }
  reportedFile := hi.reported
  saved := fun _ _ => .rfl
  savedTags := fun _ _ _ => rfl

section Retag
variable (hi : Sound s) (hret : s.ledger.Returned jobId) (jobTag : Table JobTag.key)
  (hothers : ∀ j ≠ jobId, { s.scheduler.db with jobTag := jobTag }.tagsOf j =
    s.scheduler.db.tagsOf j)
include hi hret hothers

lemma owned_retag : { s.scheduler.db with jobTag := jobTag }.Owned := by
  refine ⟨hi.staged.owned.stages,?_⟩
  intro tag htag
  by_cases hj : tag.jobId = jobId
  · rw [hj]
    exact hi.returned_le hret
  · have hmem : tag ∈ { s.scheduler.db with jobTag := jobTag }.tagsOf tag.jobId :=
      Table.mem_select.mpr ⟨htag,by simp⟩
    rw [hothers tag.jobId hj] at hmem
    exact hi.staged.owned.tags tag (Table.mem_select.mp hmem).1

omit hothers in
/-- The tag API does not edit the job of a running call. -/
lemma ne_of_inserting {i j : ℕ} {op : Operation} (hop : s.scheduler.operations i = some op)
    (hins : op.inserting = some j) : j ≠ jobId := by
  rintro rfl
  exact (hi.inserted i op j hop hins).2 hret

lemma untagged_retag {i : ℕ} {request : JobRequest} {pc : NewJobPc} {j : JobId}
    (hop : s.scheduler.operations i = some (.newJob request pc))
    (hpc : pc = .workers j ∨ pc = .tags j) :
    { s.scheduler.db with jobTag := jobTag }.Untagged j := by
  have hins : (Operation.newJob request pc).inserting = some j := by
    rcases hpc with rfl | rfl <;> rfl
  rw [Db.untagged_iff,hothers j (ne_of_inserting hi hret hop hins),← Db.untagged_iff]
  exact hi.staged.untagged i request pc j hop hpc

/-- What an edit of a returned job's tags keeps. -/
theorem retag : Sound ⟨{ s.scheduler with db := { s.scheduler.db with jobTag := jobTag } },
    { s.ledger with retagged := jobId :: s.ledger.retagged }⟩ where
  __ := hi
  staged :=
    { __ := hi.staged
      owned := owned_retag hi hret jobTag hothers
      untagged := fun i request pc j => untagged_retag hi hret jobTag hothers }
  tags := by
    intro i request j hop
    have hj := ne_of_inserting hi hret hop rfl
    exact (Db.selectTags_eq (hothers j hj)).trans (hi.tags i request j hop)
  keptTags := by
    intro j request h
    by_cases hj : j = jobId
    · exact .inl (hj ▸ List.mem_cons_self)
    · exact (hi.keptTags j request h).imp (List.mem_cons_of_mem _)
        (Db.selectTags_eq (hothers j hj)).trans
  saved := fun j hns => ⟨(hi.saved j hns).digest,(hi.saved j hns).stages⟩
  savedTags := by
    intro j hns ht
    have hj : j ≠ jobId := fun hj => ht (hj ▸ List.mem_cons_self)
    exact (hi.savedTags j hns (fun h => ht (List.mem_cons_of_mem _ h))).trans (hothers j hj).symm

end Retag

/-- The clock has no part in it. -/
lemma setClock (hi : Sound s) (ts : TimeStamp) :
    Sound ⟨{ s.scheduler with clock := ts },s.ledger⟩ where
  __ := hi
  staged := { __ := hi.staged }

lemma initial : Sound ⟨.initial,.empty⟩ := by
  have hreported : Db.empty.Reported [] := fun _ _ _ hrow => nomatch hrow
  constructor
  case staged => exact staged_initial
  case asks | stages | tags => exact fun _ _ _ => nofun
  case inserted => exact fun _ _ _ => nofun
  case accounted => exact fun _ _ => nofun
  case present => exact fun _ => nofun
  case keptStages | keptTags => exact fun _ _ => nofun
  case distinct => exact List.nodup_nil
  case aborted => exact fun _ => nofun
  case reported | reportedFile => exact hreported
  case saved => exact fun _ _ => .rfl
  case savedTags => exact fun _ _ _ => rfl

theorem step {s' : Service} {e : ServiceEvent} (hi : Sound s) (hc : s.Careful e)
    (hstep : (service fleet).step s e = some s') : Sound s' := by
  obtain ⟨u,hu,rfl⟩ := Option.map_eq_some_iff.mp hstep
  cases e with
  | scheduler e =>
    obtain ⟨u,hm,rfl⟩ := Move.of_step hu
    by_cases hr : ∃ graceful ts, e = .restartScheduler graceful ts
    · obtain ⟨graceful,ts,rfl⟩ := hr
      exact (hi.restart hc hm).setClock _
    · exact (hi.move hm (fun graceful ts he => hr ⟨graceful,ts,he⟩) hc).setClock _
  | commit =>
    cases hu
    exact hi.commit
  | deleteTag jobId tagKey =>
    cases hu
    refine hi.retag hc _ ?_
    intro j hj
    refine Table.select_delete _ ?_
    intro tag htag
    simp only [decide_eq_true_eq] at htag
    simp [htag,hj]
  | insertTag jobId tagKey tagValue =>
    cases hu
    exact hi.retag hc (s.scheduler.db.jobTag.insertMany (Db.tagRows jobId [(tagKey,tagValue)])).1
      fun j hj => Statement.tagsOf_insertTags hj.symm [(tagKey,tagValue)]

end Sound

theorem sound {fleet : Fleet} {s : Service} (h : (service fleet).ReachableBy Careful s) :
    Sound s := by
  refine h.invariant ?_ ?_
  · rintro s rfl
    exact .initial
  · intro s e s' _ hi hc hstep
    exact hi.step hc hstep

lemma Sound.kept_of_returned {s : Service} (hi : Sound s) {jobId : JobId} {request : JobRequest}
    (h : (jobId,request) ∈ s.ledger.returned) : s.Kept jobId request where
  digest := hi.present jobId (List.mem_map_of_mem (f := Prod.fst) h)
  workers := by
    apply List.ext_getElem?
    intro n
    rw [List.getElem?_map,List.getElem?_map,Db.getElem?_selectWorkers hi.staged.contiguous,
      Option.map_map]
    exact hi.keptStages jobId request h n
  results := by
    intro n worker hw
    rw [Db.getElem?_selectWorkers hi.staged.contiguous] at hw
    obtain ⟨row,hrow,rfl⟩ := Option.map_eq_some_iff.mp hw
    exact hi.reported jobId n row hrow
  tags := hi.keptTags jobId request h

/-- In the careful runs, `newJob` and `abort` are atomic and durable. -/
theorem durable_of_careful {fleet : Fleet} {s : Service}
    (h : (service fleet).ReachableBy Careful s) : s.Durable where
  accounted := (sound h).accounted
  kept := fun _ _ hret => (sound h).kept_of_returned hret
  distinct := (sound h).distinct
  aborted := (sound h).aborted

/-- A job is created and aborted, a log entry commits in between, and the process dies. -/
def killedAfterAbort : List ServiceEvent :=
  (Event.serveNewJob 0 buildRequest 1).map .scheduler ++ [.commit] ++
  (Event.serveAbort 1 1).map .scheduler ++ [.scheduler (.restartScheduler false 2)]

theorem durable_of_careful_killed : ∃ s, (service builders).ReachableBy Careful s ∧
    s.ledger.Returned 1 ∧ 1 ∈ s.ledger.aborted ∧ s.Durable := by
  obtain ⟨s,hs,hp⟩ := Machine.exists_of_replay (service builders) Careful killedAfterAbort
    (fun s => s.ledger.Returned 1 ∧ 1 ∈ s.ledger.aborted) rfl (by decide)
  obtain ⟨hret,habort⟩ := of_decide_eq_true hp
  exact ⟨s,hs,hret,habort,durable_of_careful hs⟩

/-- A job is created and the process dies before anything commits. -/
def killedAfterNewJob : List ServiceEvent :=
  (Event.serveNewJob 0 buildRequest 1).map .scheduler ++ [.scheduler (.restartScheduler false 2)]

/-- The job that was returned is gone. -/
theorem not_durable_killed : ¬∀ (fleet : Fleet) (s : Service),
    (service fleet).Reachable s → s.Durable := by
  intro h
  obtain ⟨s,hs,hp⟩ := Machine.exists_of_replay (service builders) (fun _ _ => True)
    killedAfterNewJob (fun s => (1,buildRequest) ∈ s.ledger.returned ∧
      (s.scheduler.db.digest? 1).isNone) rfl (by decide)
  obtain ⟨hret,hnone⟩ := of_decide_eq_true hp
  obtain ⟨d,hd⟩ := ((h builders s hs).kept 1 buildRequest hret).digest
  rw [hd] at hnone
  cases hnone

end Service
end LiveKBench.KScheduler
