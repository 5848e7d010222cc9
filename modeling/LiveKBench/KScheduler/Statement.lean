import LiveKBench.KScheduler.System

/-! The statements that write, as data. Each is a function on the row of one digest and on the row
of one stage, apart from the two that insert such rows. Whatever holds of the database over whole
runs follows from what holds of these functions. -/
namespace LiveKBench.KScheduler
open KCore Lib Backend

inductive Statement
  | insertDigest (ts : TimeStamp)
  | insertWorkers (jobId : JobId) (jobWorkers : List JobArgument)
  | insertTags (jobId : JobId) (tags : List (String × String))
  | focus (jobId : JobId) (hostname : String) (ts : TimeStamp)
  | restart (jobId : JobId) (restartFrom : ℤ) (ts : TimeStamp)
  | writeResult (jobId : JobId) (workerIndex : ℤ) (result : JobResult)
  | release (request : JobUpdateRequest) (ts : TimeStamp)
  | finish (jobId : JobId)
  | abort (jobId : JobId)
  deriving DecidableEq

/-- A digest as `INSERT INTO jobDigest` leaves it. -/
def newDigest (jobId : JobId) (ts : TimeStamp) : JobDigest :=
  { jobId, createdTime := ts, modifiedTime := ts, status := .pending,
    currentWorkerHostname := "", currentWorker := 0 }

/-- A stage as `INSERT INTO jobWorker` leaves it. -/
def newStage (jobId : JobId) (workerIndex : ℤ) (argument : JobArgument) : JobWorkerRow :=
  { jobId, workerIndex, workerType := argument.workerType, workerArgument := argument,
    workerResult := none }

namespace Statement

def run (db : Db) : Statement → Db
  | .insertDigest ts => (db.insertDigest ts).1
  | .insertWorkers jobId jobWorkers => (db.insertWorkers jobId jobWorkers).1
  | .insertTags jobId tags => (db.insertTags jobId tags).1
  | .focus jobId hostname ts => (db.focus jobId hostname ts).1
  | .restart jobId restartFrom ts => (db.restart jobId restartFrom ts).1
  | .writeResult jobId workerIndex result => db.writeResult jobId workerIndex result
  | .release request ts =>
    (db.release request (updatePlan request).status (updatePlan request).nextWorkerIndex ts).1
  | .finish jobId => db.finish jobId
  | .abort jobId => (db.abort jobId).1

/-- What the statement makes of a digest. -/
def row : Statement → JobDigest → JobDigest
  | .focus jobId hostname ts, d => if Db.Focusable jobId ts d then Db.focusRow hostname ts d else d
  | .restart jobId restartFrom ts, d =>
    if Db.Restartable jobId ts d then Db.restartRow restartFrom ts d else d
  | .release request ts, d =>
    if Db.Releasable request ts d then
      Db.releaseRow (updatePlan request).status (updatePlan request).nextWorkerIndex ts d
    else d
  | .finish jobId, d => if d.jobId = jobId then { d with status := .finished } else d
  | .abort jobId, d => if Db.Abortable jobId d then { d with status := .aborted } else d
  | _, d => d

/-- What the statement makes of a stage. -/
def stage : Statement → JobWorkerRow → JobWorkerRow
  | .writeResult jobId workerIndex result, row =>
    if row.jobId = jobId ∧ row.workerIndex = workerIndex then
      { row with workerResult := some result }
    else row
  | _, row => row

/-- A statement that takes effect on the digest `d`, and what it makes of it. -/
inductive Changes (d : JobDigest) : Statement → JobDigest → Prop
  | focus {jobId hostname ts} (takes : Db.Focusable jobId ts d) :
      Changes d (.focus jobId hostname ts) (Db.focusRow hostname ts d)
  | restart {jobId restartFrom ts} (takes : Db.Restartable jobId ts d) :
      Changes d (.restart jobId restartFrom ts) (Db.restartRow restartFrom ts d)
  | release {request ts} (takes : Db.Releasable request ts d) :
      Changes d (.release request ts)
        (Db.releaseRow (updatePlan request).status (updatePlan request).nextWorkerIndex ts d)
  | finish {jobId} (takes : d.jobId = jobId) :
      Changes d (.finish jobId) { d with status := .finished }
  | abort {jobId} (takes : Db.Abortable jobId d) :
      Changes d (.abort jobId) { d with status := .aborted }

/-- All that a statement can do to a digest. -/
theorem row_cases (st : Statement) (d : JobDigest) : st.row d = d ∨ st.Changes d (st.row d) := by
  cases st with
  | insertDigest | insertWorkers | insertTags | writeResult => exact .inl rfl
  | focus | restart | release | finish | abort =>
    simp only [row]
    split
    · next takes =>
      right
      constructor
      exact takes
    · exact .inl rfl

@[simp] theorem row_jobId (st : Statement) (d : JobDigest) : (st.row d).jobId = d.jobId := by
  cases st <;> simp only [row] <;> split <;> rfl

@[simp] theorem stage_workerType (st : Statement) (row : JobWorkerRow) :
    (st.stage row).workerType = row.workerType := by
  cases st <;> simp only [stage]
  split <;> rfl

/-- A statement that is an `UPDATE jobDigest` acts row by row. -/
def OnRows (st : Statement) : Prop :=
  ∀ db : Db, ∀ jobId : JobId, (st.run db).digest? jobId = (db.digest? jobId).map st.row

lemma onRows_of_updateDigest {st : Statement} (P : JobDigest → Prop) [DecidablePred P]
    (f : JobDigest → JobDigest) (hf : ∀ d, (f d).jobId = d.jobId)
    (hrun : ∀ db, st.run db = db.updateDigest (fun d => P d) f hf)
    (hrow : ∀ d, st.row d = if P d then f d else d) : st.OnRows := by
  intro db jobId
  have h := Db.digest?_updateDigest db (fun d => decide (P d)) f hf jobId
  simp only [decide_eq_true_eq] at h
  rw [hrun,h]
  exact congrArg (fun g => (db.digest? jobId).map g) (funext fun d => (hrow d).symm)

lemma onRows_focus (jobId : JobId) (hostname : String) (ts : TimeStamp) :
    (focus jobId hostname ts).OnRows :=
  onRows_of_updateDigest (Db.Focusable jobId ts) (Db.focusRow hostname ts) (fun _ => rfl)
    (fun _ => rfl) (fun _ => rfl)

lemma onRows_restart (jobId : JobId) (restartFrom : ℤ) (ts : TimeStamp) :
    (restart jobId restartFrom ts).OnRows :=
  onRows_of_updateDigest (Db.Restartable jobId ts) (Db.restartRow restartFrom ts) (fun _ => rfl)
    (fun _ => rfl) (fun _ => rfl)

lemma onRows_release (request : JobUpdateRequest) (ts : TimeStamp) :
    (release request ts).OnRows :=
  onRows_of_updateDigest (Db.Releasable request ts)
    (Db.releaseRow (updatePlan request).status (updatePlan request).nextWorkerIndex ts)
    (fun _ => rfl) (fun _ => rfl) (fun _ => rfl)

lemma onRows_finish (jobId : JobId) : (finish jobId).OnRows :=
  onRows_of_updateDigest (fun d => d.jobId = jobId) (fun d => { d with status := .finished })
    (fun _ => rfl) (fun _ => rfl) (fun _ => rfl)

lemma onRows_abort (jobId : JobId) : (abort jobId).OnRows :=
  onRows_of_updateDigest (Db.Abortable jobId) (fun d => { d with status := .aborted })
    (fun _ => rfl) (fun _ => rfl) (fun _ => rfl)

/-- Every statement but one acts row by row. -/
theorem onRows_of_ne_insert {st : Statement} (h : ∀ ts, st ≠ .insertDigest ts) : st.OnRows := by
  cases st with
  | insertDigest ts => exact absurd rfl (h ts)
  | insertWorkers | insertTags | writeResult =>
    intro db jobId
    exact Option.map_id'.symm
  | focus jobId hostname ts => exact onRows_focus jobId hostname ts
  | restart jobId restartFrom ts => exact onRows_restart jobId restartFrom ts
  | release request ts => exact onRows_release request ts
  | finish jobId => exact onRows_finish jobId
  | abort jobId => exact onRows_abort jobId

theorem digest?_insertDigest (db : Db) (ts : TimeStamp) (jobId : JobId) :
    (db.insertDigest ts).1.digest? jobId =
      if db.sequence+1 = jobId then some (newDigest (db.sequence+1) ts) else db.digest? jobId :=
  Table.get?_insert db.jobDigest _ db.digest?_fresh jobId

/-- What a statement leaves of a digest that is there. -/
theorem digest?_run_of_some {st : Statement} {db : Db} {jobId : JobId} {d : JobDigest}
    (h : db.digest? jobId = some d) : (st.run db).digest? jobId = some (st.row d) := by
  by_cases hi : ∃ ts, st = .insertDigest ts
  · obtain ⟨ts,rfl⟩ := hi
    have hne : db.sequence+1 ≠ jobId := by
      rintro rfl
      exact Nat.not_succ_le_self _ (Db.digest?_le h)
    rw [run,digest?_insertDigest,if_neg hne,h]
    rfl
  · rw [onRows_of_ne_insert (not_exists.mp hi) db jobId,h]
    rfl

/-- Where a digest after a statement comes from. -/
theorem digest?_run {st : Statement} {db : Db} {jobId : JobId} {d : JobDigest}
    (h : (st.run db).digest? jobId = some d) :
    (∃ d₀, db.digest? jobId = some d₀ ∧ d = st.row d₀) ∨
      ∃ ts, st = .insertDigest ts ∧ jobId = db.sequence+1 ∧ d = newDigest jobId ts := by
  cases hd : db.digest? jobId with
  | some d₀ =>
    rw [digest?_run_of_some hd] at h
    exact .inl ⟨d₀,rfl,(Option.some.inj h).symm⟩
  | none =>
    right
    by_cases hi : ∃ ts, st = .insertDigest ts
    · obtain ⟨ts,rfl⟩ := hi
      rw [run,digest?_insertDigest,hd] at h
      split at h
      · next he =>
        subst he
        exact ⟨ts,rfl,rfl,(Option.some.inj h).symm⟩
      · cases h
    · rw [onRows_of_ne_insert (not_exists.mp hi) db jobId,hd] at h
      cases h

/-- A statement touches the digest of the job that it names and no other. -/
def jobId? : Statement → Option JobId
  | .focus jobId _ _ | .restart jobId _ _ | .finish jobId | .abort jobId => some jobId
  | .release request _ => some request.jobId
  | _ => none

/-! ## Stages -/

/-- What a statement leaves of a stage that is there. -/
theorem worker?_run_of_some {st : Statement} {db : Db} {jobId : JobId} {k : ℤ}
    {row : JobWorkerRow} (h : db.worker? jobId k = some row) :
    (st.run db).worker? jobId k = some (st.stage row) := by
  cases st with
  | insertWorkers j jobWorkers =>
    obtain ⟨done,_,hrows⟩ := db.jobWorker.rows_insertMany (Db.workerRows j jobWorkers)
    have hl := Table.get?_append hrows (jobId,k)
    change (db.jobWorker.insertMany _).1.get? _ = _
    rw [hl,show db.jobWorker.get? (jobId,k) = some row from h]
    rfl
  | writeResult j i result =>
    rw [run,Db.worker?_writeResult,h]
    rfl
  | insertDigest | insertTags | focus | restart | release | finish | abort => exact h

/-- Where a stage after a statement comes from; the inserted ones have their predecessors. -/
theorem worker?_run {st : Statement} {db : Db} {jobId : JobId} {k : ℤ} {row : JobWorkerRow}
    (h : (st.run db).worker? jobId k = some row) :
    (∃ row₀, db.worker? jobId k = some row₀ ∧ row = st.stage row₀) ∨
      db.worker? jobId k = none ∧ ∃ jobWorkers, st = .insertWorkers jobId jobWorkers ∧
        ∃ (n : ℕ) (argument : JobArgument), k = n ∧ jobWorkers[n]? = some argument ∧
          row = newStage jobId k argument := by
  cases hr : db.worker? jobId k with
  | some row₀ =>
    rw [worker?_run_of_some hr] at h
    exact .inl ⟨row₀,rfl,(Option.some.inj h).symm⟩
  | none =>
    right
    cases st with
    | insertWorkers j jobWorkers =>
      obtain ⟨done,hp,hrows⟩ := db.jobWorker.rows_insertMany (Db.workerRows j jobWorkers)
      have hl := Table.get?_append hrows (jobId,k)
      rw [show db.jobWorker.get? (jobId,k) = none from hr,Option.none_or] at hl
      have hf := hl.symm.trans h
      have hm := hp.subset (List.mem_of_find?_eq_some hf)
      have hk : row.key = (jobId,k) := by simpa using List.find?_some hf
      obtain ⟨n,hn,rfl⟩ := List.mem_mapIdx.mp hm
      obtain ⟨rfl,rfl⟩ := Prod.mk.inj hk
      exact ⟨rfl,jobWorkers,rfl,n,jobWorkers[n],rfl,List.getElem?_eq_getElem hn,rfl⟩
    | writeResult j i result =>
      rw [run,Db.worker?_writeResult,hr] at h
      cases h
    | insertDigest | insertTags | focus | restart | release | finish | abort =>
      exact absurd (h.symm.trans hr) (by simp)

theorem sequence_le_run (st : Statement) (db : Db) : db.sequence ≤ (st.run db).sequence := by
  cases st with
  | insertDigest ts => exact Nat.le_succ _
  | insertWorkers | insertTags | writeResult | focus | restart | release | finish | abort =>
    exact Nat.le_refl _

end Statement

/-! ## A new process -/

theorem digest?_abortLeftOver (db : Db) (ts : TimeStamp) (jobId : JobId) :
    (db.abortLeftOver ts).digest? jobId = (db.digest? jobId).map fun d =>
      if Db.LeftOver d then
        { d with status := .aborted, currentWorkerHostname := "", modifiedTime := ts }
      else d := by
  have h := Db.digest?_updateDigest db (fun d => decide (Db.LeftOver d))
    (fun d => { d with status := .aborted, currentWorkerHostname := "", modifiedTime := ts })
    (fun _ => rfl) jobId
  simp only [decide_eq_true_eq] at h
  exact h

/-- A new process leaves no job in progress or waiting. -/
theorem not_leftOver_abortLeftOver {db : Db} {ts : TimeStamp} {jobId : JobId} {d : JobDigest}
    (hd : (db.abortLeftOver ts).digest? jobId = some d) : ¬Db.LeftOver d := by
  rw [digest?_abortLeftOver] at hd
  obtain ⟨d₀,-,rfl⟩ := Option.map_eq_some_iff.mp hd
  split
  · simp [Db.LeftOver]
  · assumption

def Db.apply (db : Db) : Option Statement → Db
  | some st => st.run db
  | none => db

@[simp] theorem Db.apply_none (db : Db) : db.apply none = db := rfl
@[simp] theorem Db.apply_some (db : Db) (st : Statement) : db.apply (some st) = st.run db := rfl

end LiveKBench.KScheduler
