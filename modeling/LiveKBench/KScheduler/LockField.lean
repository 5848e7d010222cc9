import LiveKBench.KScheduler.Clock

/-! The host name in the digest as the lock of a job: a job is in progress if and only if a host is
named. All statements but one write the status and the host together or leave both; the statement
that ends a job writes the status of whatever it finds. -/
namespace LiveKBench.KScheduler
open KCore Lib Backend

/-- Exactly the jobs in progress name a host. -/
def Db.LocksAgree (db : Db) : Prop :=
  ∀ jobId, ∀ d ∈ db.digest? jobId, d.status = .inProgress ↔ d.currentWorkerHostname ≠ ""

/-- The statement does not end a job that is in progress and does not give a job to a host without
a name. -/
def Statement.RespectsLock (db : Db) : Statement → Prop
  | .focus jobId hostname ts =>
    (∃ d ∈ db.digest? jobId, Db.Focusable jobId ts d) → hostname ≠ ""
  | .finish jobId => ∀ d ∈ db.digest? jobId, d.status ≠ .inProgress
  | _ => True

instance (db : Db) (st : Statement) : Decidable (st.RespectsLock db) := by
  cases st <;> unfold Statement.RespectsLock <;> infer_instance

/-- Every statement of the step respects the locks. -/
def RespectsLocks (s : State) (e : Event) : Prop := ∀ st ∈ s.statement e, st.RespectsLock s.db

instance (s : State) (e : Event) : Decidable (RespectsLocks s e) :=
  inferInstanceAs (Decidable (∀ st ∈ s.statement e, st.RespectsLock s.db))

section Rows
variable {d : JobDigest}

/-- Each statement that respects the locks keeps them in agreement with the status. -/
lemma locksAgree_row {db : Db} {jobId : JobId} {st : Statement} (hd : db.digest? jobId = some d)
    (hst : st.RespectsLock db) (h : d.status = .inProgress ↔ d.currentWorkerHostname ≠ "") :
    (st.row d).status = .inProgress ↔ (st.row d).currentWorkerHostname ≠ "" := by
  have hid := Db.digest?_jobId hd
  rcases st.row_cases d with hrow | hc
  · rw [hrow]
    exact h
  · generalize st.row d = d' at hc
    cases hc with
    | focus takes =>
      have hne := hst ⟨d,(takes.1.symm.trans hid) ▸ hd,takes⟩
      simp [Db.focusRow,hne]
    | restart takes => simp [Db.restartRow,takes.2.1]
    | release => simp [Db.releaseRow,updatePlan_status_ne]
    | finish takes =>
      have hne := hst d ((takes.symm.trans hid) ▸ hd)
      simpa [hne] using h
    | abort takes => simp [takes.2.1]

end Rows

lemma locksAgree_run {db : Db} {st : Statement} (hst : st.RespectsLock db)
    (h : db.LocksAgree) : (st.run db).LocksAgree := by
  intro jobId d hd
  rcases Statement.digest?_run hd with ⟨d₀,hd₀,rfl⟩ | ⟨ts,rfl,rfl,rfl⟩
  · exact locksAgree_row hd₀ hst (h jobId d₀ hd₀)
  · simp [newDigest]

lemma locksAgree_abortLeftOver {db : Db} (ts : TimeStamp) (h : db.LocksAgree) :
    (db.abortLeftOver ts).LocksAgree := by
  intro jobId d hd
  rw [digest?_abortLeftOver] at hd
  obtain ⟨d₀,hd₀,rfl⟩ := Option.map_eq_some_iff.mp hd
  split
  · simp
  · exact h jobId d₀ hd₀

/-- In runs whose statements respect the locks, exactly the jobs in progress name a host, and so
every job that has ended can be restarted. -/
theorem locksAgree_of_respectsLocks {fleet : Fleet} {s : State}
    (h : (system fleet).ReachableBy RespectsLocks s) :
    s.db.LocksAgree ∧ ∀ jobId, ∀ d ∈ s.db.digest? jobId,
      d.status = .aborted ∨ d.status = .finished →
        s.db.Inactive jobId ∧
          ∀ restartFrom ts, d.modifiedTime < ts → RestartTakes s.db jobId restartFrom ts := by
  have hl : s.db.LocksAgree := by
    refine (db_invariant (P := Db.LocksAgree) ?_ ?_ ?_ h).1
    · intro jobId d hd
      cases hd
    · intro s e st _ hc hst hl
      exact locksAgree_run (hc st hst) hl
    · intro db ts hl
      exact locksAgree_abortLeftOver ts hl
  refine ⟨hl,?_⟩
  intro jobId d hd hs
  have hne : d.status ≠ .inProgress := by rcases hs with hs | hs <;> simp [hs]
  have hh : d.currentWorkerHostname = "" := by
    by_contra hh
    exact hne ((hl jobId d hd).mpr hh)
  have hi : s.db.Inactive jobId := ⟨d,hd,hs,hh⟩
  refine ⟨hi,?_⟩
  intro restartFrom ts hts
  exact (restartTakes_iff hi).mpr ((later_iff hd).mpr hts)

/-- A job of one stage is built, restarted and held again. -/
theorem locksAgree_of_restarted_build :
    ∃ s, (system builders).ReachableBy RespectsLocks s ∧ s.db.LocksAgree ∧
      (s.db.digest? 1).any (fun d => d.status = .inProgress) = true := by
  obtain ⟨s,hs,hp⟩ := Machine.exists_of_replay (system builders) RespectsLocks redeliveredAfterRestart
    (fun s => (s.db.digest? 1).any fun d => d.status = .inProgress) rfl (by decide)
  exact ⟨s,hs,(locksAgree_of_respectsLocks hs).1,hp⟩

/-- The redelivered update of the first builder ends the job under the second one. -/
theorem finish_leaves_lock :
    ∃ s, (system builders).Reachable s ∧ ¬s.db.LocksAgree ∧
      ∃ d ∈ s.db.digest? 1, d.status = .finished ∧ ¬s.db.Inactive 1 := by
  obtain ⟨s,hs,hp⟩ := Machine.exists_of_replay (system builders) (fun _ _ => True)
    (redeliveredAfterRestart ++ Event.serveUpdate 0 6 firstUpdate 6)
    (fun s => ∃ d ∈ s.db.digest? 1,
      d.status = .finished ∧ d.currentWorkerHostname = "builder-1") rfl (by decide)
  obtain ⟨d,hd,hf,hh⟩ := of_decide_eq_true hp
  refine ⟨s,hs,?_,d,hd,hf,?_⟩
  · intro hl
    have hi := (hl 1 d hd).mpr (by simp [hh])
    simp [hf] at hi
  · rintro ⟨d',hd',-,hh'⟩
    cases Option.mem_unique hd hd'
    simp [hh] at hh'

end LiveKBench.KScheduler
