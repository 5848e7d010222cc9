import LiveKBench.KCore.Models
import LiveKBench.Lib.Table
import Mathlib.Data.List.Sort

/-! The scheduler's SQLite database: its tables and, one function each, the statements that the
backend executes on the shared connection. A statement is the unit of interleaving: `aiosqlite`
runs the statements of all coroutines one after another in the connection's thread. -/
namespace LiveKBench.KScheduler
open KCore Lib

structure JobDigest where
  jobId : JobId
  createdTime : TimeStamp
  modifiedTime : TimeStamp
  status : JobStatus
  currentWorkerHostname : String
  currentWorker : ℤ
  deriving DecidableEq, Repr

structure JobWorkerRow where
  jobId : JobId
  workerIndex : ℤ
  workerType : String
  workerArgument : JobArgument
  workerResult : Option JobResult
  deriving DecidableEq, Repr

def JobWorkerRow.key (row : JobWorkerRow) : JobId × ℤ := (row.jobId,row.workerIndex)

structure JobTag where
  jobId : JobId
  tagKey : String
  tagValue : String
  deriving DecidableEq, Repr

def JobTag.key (tag : JobTag) : JobId × String := (tag.jobId,tag.tagKey)

/-- The tables that the scheduling code reads and writes. `sequence` is the entry of
`sqlite_sequence` from which `AUTOINCREMENT` draws the next job id. -/
structure Db where
  jobDigest : Table JobDigest.jobId
  jobWorker : Table JobWorkerRow.key
  jobTag : Table JobTag.key
  sequence : ℕ
  drawn : ∀ d ∈ jobDigest.rows, d.jobId ≤ sequence

namespace Db

/-- The tables as `_create_db` leaves them. -/
def empty : Db := ⟨.empty,.empty,.empty,0,by simp⟩

def digest? (db : Db) (jobId : JobId) : Option JobDigest := db.jobDigest.get? jobId

def worker? (db : Db) (jobId : JobId) (workerIndex : ℤ) : Option JobWorkerRow :=
  db.jobWorker.get? (jobId,workerIndex)

theorem digest?_jobId {db : Db} {jobId : JobId} {d : JobDigest} (h : db.digest? jobId = some d) :
    d.jobId = jobId := Table.key_of_get? h

theorem digest?_le {db : Db} {jobId : JobId} {d : JobDigest} (h : db.digest? jobId = some d) :
    jobId ≤ db.sequence := by
  obtain ⟨hm,rfl⟩ := Table.get?_eq_some.mp h
  exact db.drawn d hm

lemma digest?_fresh (db : Db) : db.jobDigest.get? (db.sequence+1) = none := by
  rw [Table.get?_eq_none]
  intro d hd he
  exact Nat.not_succ_le_self _ (he ▸ db.drawn d hd)

theorem worker?_key {db : Db} {jobId : JobId} {i : ℤ} {row : JobWorkerRow}
    (h : db.worker? jobId i = some row) : row.jobId = jobId ∧ row.workerIndex = i := by
  have hk : row.key = (jobId,i) := Table.key_of_get? (show db.jobWorker.get? (jobId,i) = some row from h)
  exact Prod.mk.inj hk

@[simp] theorem digest?_empty (jobId : JobId) : empty.digest? jobId = none := rfl
@[simp] theorem worker?_empty (jobId : JobId) (i : ℤ) : empty.worker? jobId i = none := rfl

/-- An `UPDATE jobDigest`, which changes no job id. -/
def updateDigest (db : Db) (p : JobDigest → Bool) (f : JobDigest → JobDigest)
    (hf : ∀ d, (f d).jobId = d.jobId) : Db :=
  { db with
    jobDigest := db.jobDigest.update p f hf
    drawn := by
      intro d hd
      obtain ⟨d',hd',rfl⟩ := List.mem_map.mp hd
      have hle := db.drawn d' hd'
      split
      · rwa [hf]
      · exact hle }

section UpdateDigest
variable (db : Db) (p : JobDigest → Bool) (f : JobDigest → JobDigest)
  (hf : ∀ d, (f d).jobId = d.jobId)

@[simp] theorem digest?_updateDigest (jobId : JobId) :
    (db.updateDigest p f hf).digest? jobId =
      (db.digest? jobId).map fun d => if p d then f d else d :=
  Table.get?_update db.jobDigest p f hf jobId

@[simp] theorem jobWorker_updateDigest : (db.updateDigest p f hf).jobWorker = db.jobWorker := rfl
@[simp] theorem jobTag_updateDigest : (db.updateDigest p f hf).jobTag = db.jobTag := rfl
@[simp] theorem sequence_updateDigest : (db.updateDigest p f hf).sequence = db.sequence := rfl
@[simp] theorem worker?_updateDigest (jobId : JobId) (i : ℤ) :
    (db.updateDigest p f hf).worker? jobId i = db.worker? jobId i := rfl

end UpdateDigest

/-! ## The statements of `new_job` -/

/-- `INSERT INTO jobDigest … RETURNING jobId`. -/
def insertDigest (db : Db) (ts : TimeStamp) : Db × JobId :=
  ({ db with
    jobDigest := db.jobDigest.insert
      { jobId := db.sequence+1, createdTime := ts, modifiedTime := ts, status := .pending,
        currentWorkerHostname := "", currentWorker := 0 } db.digest?_fresh
    sequence := db.sequence+1
    drawn := by
      intro d hd
      rcases List.mem_append.mp hd with hd | hd
      · exact (db.drawn d hd).trans (Nat.le_succ _)
      · rw [List.mem_singleton.mp hd] },
   db.sequence+1)

/-- The rows of a new job's stages, each without a result. -/
def workerRows (jobId : JobId) (jobWorkers : List JobArgument) : List JobWorkerRow :=
  jobWorkers.mapIdx fun i argument =>
    { jobId, workerIndex := i, workerType := argument.workerType, workerArgument := argument,
      workerResult := none }

/-- `executemany('INSERT INTO jobWorker …')`; the flag is false where a primary key is taken. -/
def insertWorkers (db : Db) (jobId : JobId) (jobWorkers : List JobArgument) : Db × Bool :=
  let (table,ok) := db.jobWorker.insertMany (workerRows jobId jobWorkers)
  ({ db with jobWorker := table },ok)

def tagRows (jobId : JobId) (tags : List (String × String)) : List JobTag :=
  tags.map fun tag => { jobId, tagKey := tag.1, tagValue := tag.2 }

/-- `executemany('INSERT INTO jobTag …')`. -/
def insertTags (db : Db) (jobId : JobId) (tags : List (String × String)) : Db × Bool :=
  let (table,ok) := db.jobTag.insertMany (tagRows jobId tags)
  ({ db with jobTag := table },ok)

/-! ## The statements on a job's digest -/

/-- The `WHERE` clause of `focus_job`. -/
def Focusable (jobId : JobId) (ts : TimeStamp) (d : JobDigest) : Prop :=
  d.jobId = jobId ∧ d.currentWorkerHostname = "" ∧
    (d.status = .waiting ∨ d.status = .pending) ∧ d.modifiedTime < ts

instance (jobId : JobId) (ts : TimeStamp) (d : JobDigest) : Decidable (Focusable jobId ts d) :=
  inferInstanceAs (Decidable (_ ∧ _))

def focusRow (hostname : String) (ts : TimeStamp) (d : JobDigest) : JobDigest :=
  { d with status := .inProgress, currentWorkerHostname := hostname, modifiedTime := ts }

/-- The `UPDATE` of `focus_job` and its row count. -/
def focus (db : Db) (jobId : JobId) (hostname : String) (ts : TimeStamp) : Db × ℕ :=
  (db.updateDigest (fun d => Focusable jobId ts d) (focusRow hostname ts) (fun _ => rfl),
   db.jobDigest.rowcount fun d => Focusable jobId ts d)

/-- The `WHERE` clause of `restart_job`. -/
def Restartable (jobId : JobId) (ts : TimeStamp) (d : JobDigest) : Prop :=
  d.jobId = jobId ∧ d.currentWorkerHostname = "" ∧
    (d.status = .aborted ∨ d.status = .finished) ∧ d.modifiedTime < ts

instance (jobId : JobId) (ts : TimeStamp) (d : JobDigest) : Decidable (Restartable jobId ts d) :=
  inferInstanceAs (Decidable (_ ∧ _))

def restartRow (restartFrom : ℤ) (ts : TimeStamp) (d : JobDigest) : JobDigest :=
  { d with status := .pending, modifiedTime := ts, currentWorker := restartFrom }

/-- The `UPDATE` of `restart_job` and its row count. -/
def restart (db : Db) (jobId : JobId) (restartFrom : ℤ) (ts : TimeStamp) : Db × ℕ :=
  (db.updateDigest (fun d => Restartable jobId ts d) (restartRow restartFrom ts) (fun _ => rfl),
   db.jobDigest.rowcount fun d => Restartable jobId ts d)

/-- The `WHERE` clause of the guarded `UPDATE jobDigest` of `update_job`. -/
def Releasable (request : JobUpdateRequest) (ts : TimeStamp) (d : JobDigest) : Prop :=
  d.jobId = request.jobId ∧ d.status = .inProgress ∧
    d.currentWorkerHostname = request.workerHostname ∧
    d.currentWorker = request.workerIndex ∧ d.modifiedTime < ts

instance (request : JobUpdateRequest) (ts : TimeStamp) (d : JobDigest) :
    Decidable (Releasable request ts d) := inferInstanceAs (Decidable (_ ∧ _))

def releaseRow (status : JobStatus) (nextWorkerIndex : ℤ) (ts : TimeStamp) (d : JobDigest) :
    JobDigest :=
  { d with
    status := status, currentWorkerHostname := "", currentWorker := nextWorkerIndex,
    modifiedTime := ts }

/-- The guarded `UPDATE jobDigest` of `update_job` and its row count. -/
def release (db : Db) (request : JobUpdateRequest) (status : JobStatus) (nextWorkerIndex : ℤ)
    (ts : TimeStamp) : Db × ℕ :=
  (db.updateDigest (fun d => Releasable request ts d) (releaseRow status nextWorkerIndex ts)
    (fun _ => rfl),
   db.jobDigest.rowcount fun d => Releasable request ts d)

/-- The `UPDATE jobDigest` with which `update_job` ends a job; its only condition is the job id. -/
def finish (db : Db) (jobId : JobId) : Db :=
  db.updateDigest (fun d => d.jobId = jobId) (fun d => { d with status := .finished })
    (fun _ => rfl)

/-- The `WHERE` clause of `abort_job`. -/
def Abortable (jobId : JobId) (d : JobDigest) : Prop :=
  d.jobId = jobId ∧ d.currentWorkerHostname = "" ∧ (d.status = .pending ∨ d.status = .waiting)

instance (jobId : JobId) (d : JobDigest) : Decidable (Abortable jobId d) :=
  inferInstanceAs (Decidable (_ ∧ _))

/-- The `UPDATE` of `abort_job` and its row count. -/
def abort (db : Db) (jobId : JobId) : Db × ℕ :=
  (db.updateDigest (fun d => Abortable jobId d) (fun d => { d with status := .aborted })
    (fun _ => rfl),
   db.jobDigest.rowcount fun d => Abortable jobId d)

/-- The `WHERE` clause of `_shutdown_left_over_jobs`. -/
def LeftOver (d : JobDigest) : Prop :=
  d.status = .inProgress ∨ d.status = .pending ∨ d.status = .waiting

instance (d : JobDigest) : Decidable (LeftOver d) := inferInstanceAs (Decidable (_ ∨ _))

def abortLeftOver (db : Db) (ts : TimeStamp) : Db :=
  db.updateDigest (fun d => LeftOver d)
    (fun d => { d with status := .aborted, currentWorkerHostname := "", modifiedTime := ts })
    (fun _ => rfl)

section RowCount
variable {db : Db} {jobId : JobId} {ts : TimeStamp}

/-- The row count of a statement that addresses one job. -/
lemma rowcount_addressed (P : JobDigest → Prop) [DecidablePred P]
    (hP : ∀ d, P d → d.jobId = jobId) :
    (db.jobDigest.rowcount fun d => P d) = 1 ↔ ∃ d, db.digest? jobId = some d ∧ P d := by
  rw [Table.rowcount_eq_one db.jobDigest _ jobId fun d h => hP d (of_decide_eq_true h)]
  simp [digest?]

theorem focus_eq_one (hostname : String) :
    (db.focus jobId hostname ts).2 = 1 ↔
      ∃ d, db.digest? jobId = some d ∧ Focusable jobId ts d :=
  rowcount_addressed (Focusable jobId ts) fun _ h => h.1

theorem restart_eq_one {restartFrom : ℤ} :
    (db.restart jobId restartFrom ts).2 = 1 ↔
      ∃ d, db.digest? jobId = some d ∧ Restartable jobId ts d :=
  rowcount_addressed (Restartable jobId ts) fun _ h => h.1

theorem release_eq_one {request : JobUpdateRequest} {status : JobStatus} {next : ℤ} :
    (db.release request status next ts).2 = 1 ↔
      ∃ d, db.digest? request.jobId = some d ∧ Releasable request ts d :=
  rowcount_addressed (Releasable request ts) fun _ h => h.1

theorem abort_eq_one :
    (db.abort jobId).2 = 1 ↔ ∃ d, db.digest? jobId = some d ∧ Abortable jobId d :=
  rowcount_addressed (Abortable jobId) fun _ h => h.1

end RowCount

/-! ## The statements on a job's stages and tags -/

/-- `_update_sql_script`; its only condition is the stage. -/
def writeResult (db : Db) (jobId : JobId) (workerIndex : ℤ) (result : JobResult) : Db :=
  { db with
    jobWorker := db.jobWorker.update (fun row => row.jobId = jobId ∧ row.workerIndex = workerIndex)
      (fun row => { row with workerResult := some result }) (fun _ => rfl) }

@[simp] theorem digest?_writeResult (db : Db) (jobId k : JobId) (i : ℤ) (result : JobResult) :
    (db.writeResult jobId i result).digest? k = db.digest? k := rfl

@[simp] theorem worker?_writeResult (db : Db) (jobId k : JobId) (i j : ℤ) (result : JobResult) :
    (db.writeResult jobId i result).worker? k j =
      (db.worker? k j).map fun row =>
        if row.jobId = jobId ∧ row.workerIndex = i then { row with workerResult := some result }
        else row := by
  have h := Table.get?_update db.jobWorker
    (fun row => row.jobId = jobId ∧ row.workerIndex = i)
    (fun row => { row with workerResult := some result }) (fun _ => rfl) (k,j)
  simp only [decide_eq_true_eq] at h
  exact h

/-- `SELECT * FROM jobWorker … ORDER BY workerIndex ASC`, as models. -/
def selectWorkers (db : Db) (jobId : JobId) : List JobWorker :=
  ((db.jobWorker.select fun row => row.jobId = jobId).insertionSort
    fun a b => a.workerIndex ≤ b.workerIndex).map
      fun row => ⟨row.workerType,row.workerArgument,row.workerResult⟩

/-- `SELECT workerType FROM jobWorker` for one stage. -/
def selectWorkerType (db : Db) (jobId : JobId) (workerIndex : ℤ) : Option String :=
  (db.worker? jobId workerIndex).map (·.workerType)

/-- `SELECT * FROM jobTag` for one job, as a dictionary. -/
def selectTags (db : Db) (jobId : JobId) : List (String × String) :=
  (db.jobTag.select fun tag => tag.jobId = jobId).map fun tag => (tag.tagKey,tag.tagValue)

/-- `DELETE FROM jobTag` for one key. -/
def deleteTag (db : Db) (jobId : JobId) (tagKey : String) : Db :=
  { db with jobTag := db.jobTag.delete fun tag => tag.jobId = jobId ∧ tag.tagKey = tagKey }

/-- `SELECT tagValue FROM jobTag` for one key. -/
def selectTag (db : Db) (jobId : JobId) (tagKey : String) : Option String :=
  (db.jobTag.get? (jobId,tagKey)).map (·.tagValue)

end Db
end LiveKBench.KScheduler
