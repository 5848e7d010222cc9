import LiveKBench.KArenaDb.Isoformat
import LiveKBench.KArenaDb.Moments
import LiveKBench.KScheduler.Listings
import LiveKBench.KScheduler.Statement
import LiveKBench.Lib.Machine

/-! The times of the scheduler's database as it holds them, which are texts. Its statements compare
them and its listings order them as texts; the other modules read them as numbers. -/
namespace LiveKBench.KScheduler
open KCore Lib
open KArenaWeb (DateTime)
open KArenaDb (timeFields moment moment_lt_iff utc_textBefore_iff fromisoformat
  fromisoformat_isoformat ValidOffset dayLength)

/-- A time that knows that it is in UTC, as `datetime.now(UTC)` and `astimezone(UTC)` give it. -/
structure UtcTime where
  time : DateTime
  utc : time.utcoffset = some 0

namespace UtcTime

def isoformat (t : UtcTime) : String := t.time.isoformat

def timeStamp (t : UtcTime) : TimeStamp := moment t.time

end UtcTime

/-- What a model reads from a column. -/
def readTime (text : String) : TimeStamp := ((fromisoformat text).map moment).getD 0

/-- `a < b` of two columns that are texts. -/
def sqlLess (a b : String) : Bool := textBefore a.toList b.toList

/-- `ORDER BY … DESC` puts `a` before `b`, or does not tell them apart. -/
def sqlDescending (a b : String) : Bool := textLe b.toList a.toList

/-! ## The tables -/

structure DigestRow where
  jobId : JobId
  createdTime : String
  modifiedTime : String
  status : JobStatus
  currentWorkerHostname : String
  currentWorker : ℤ

/-- `DigestTupleToModel`. -/
def DigestRow.read (d : DigestRow) : JobDigest where
  jobId := d.jobId
  createdTime := readTime d.createdTime
  modifiedTime := readTime d.modifiedTime
  status := d.status
  currentWorkerHostname := d.currentWorkerHostname
  currentWorker := d.currentWorker

structure JobLogRow where
  timeStamp : String
  jobId : JobId
  workerType : String
  workerHostname : String
  content : String

/-- `JobLogTupleToModel`. -/
def JobLogRow.read (log : JobLogRow) : Listings.JobLog :=
  ⟨readTime log.timeStamp,log.jobId,log.workerType,log.workerHostname,log.content⟩

structure SystemLogRow where
  timeStamp : String
  workerType : String
  workerHostname : String
  content : String

/-- `SystemLogTupleToModel`. -/
def SystemLogRow.read (log : SystemLogRow) : Listings.SystemLog :=
  ⟨readTime log.timeStamp,log.workerType,log.workerHostname,log.content⟩

/-- The tables that hold times. -/
structure TimeDb where
  jobDigest : List DigestRow
  jobLog : List JobLogRow
  systemLog : List SystemLogRow

/-! ## The statements -/

/-- Each `UPDATE jobDigest`. -/
inductive DigestUpdate
  | focus (jobId : JobId) (hostname : String) (ts : UtcTime)
  | restart (jobId : JobId) (restartFrom : ℤ) (ts : UtcTime)
  | release (request : JobUpdateRequest) (ts : UtcTime)
  | finish (jobId : JobId)
  | abort (jobId : JobId)
  | abortLeftOver (ts : UtcTime)

namespace DigestUpdate

/-- The `WHERE` clauses. -/
def Matches : DigestUpdate → DigestRow → Prop
  | .focus jobId _ ts, d => d.jobId = jobId ∧ d.currentWorkerHostname = "" ∧
    (d.status = .waiting ∨ d.status = .pending) ∧ sqlLess d.modifiedTime ts.isoformat = true
  | .restart jobId _ ts, d => d.jobId = jobId ∧ d.currentWorkerHostname = "" ∧
    (d.status = .aborted ∨ d.status = .finished) ∧ sqlLess d.modifiedTime ts.isoformat = true
  | .release request ts, d => d.jobId = request.jobId ∧ d.status = .inProgress ∧
    d.currentWorkerHostname = request.workerHostname ∧ d.currentWorker = request.workerIndex ∧
    sqlLess d.modifiedTime ts.isoformat = true
  | .finish jobId, d => d.jobId = jobId
  | .abort jobId, d => d.jobId = jobId ∧ d.currentWorkerHostname = "" ∧
    (d.status = .pending ∨ d.status = .waiting)
  | .abortLeftOver _, d => d.status = .inProgress ∨ d.status = .pending ∨ d.status = .waiting

instance (u : DigestUpdate) (d : DigestRow) : Decidable (u.Matches d) :=
  match u with
  | .focus _ _ _ => inferInstanceAs (Decidable (_ ∧ _))
  | .restart _ _ _ => inferInstanceAs (Decidable (_ ∧ _))
  | .release _ _ => inferInstanceAs (Decidable (_ ∧ _))
  | .finish jobId => inferInstanceAs (Decidable (d.jobId = jobId))
  | .abort _ => inferInstanceAs (Decidable (_ ∧ _))
  | .abortLeftOver _ => inferInstanceAs (Decidable (_ ∨ _))

/-- What is set in a row that matches. -/
def set : DigestUpdate → DigestRow → DigestRow
  | .focus _ hostname ts, d =>
    { d with
      status := .inProgress, currentWorkerHostname := hostname, modifiedTime := ts.isoformat }
  | .restart _ restartFrom ts, d =>
    { d with status := .pending, modifiedTime := ts.isoformat, currentWorker := restartFrom }
  | .release request ts, d =>
    { d with
      status := (Backend.updatePlan request).status, currentWorkerHostname := "",
      currentWorker := (Backend.updatePlan request).nextWorkerIndex, modifiedTime := ts.isoformat }
  | .finish _, d => { d with status := .finished }
  | .abort _, d => { d with status := .aborted }
  | .abortLeftOver ts, d =>
    { d with status := .aborted, currentWorkerHostname := "", modifiedTime := ts.isoformat }

def row (u : DigestUpdate) (d : DigestRow) : DigestRow := if u.Matches d then u.set d else d

/-- The same update where the times are numbers. -/
def timed : DigestUpdate → JobDigest → JobDigest
  | .focus jobId hostname ts, d => (Statement.focus jobId hostname ts.timeStamp).row d
  | .restart jobId restartFrom ts, d => (Statement.restart jobId restartFrom ts.timeStamp).row d
  | .release request ts, d => (Statement.release request ts.timeStamp).row d
  | .finish jobId, d => (Statement.finish jobId).row d
  | .abort jobId, d => (Statement.abort jobId).row d
  | .abortLeftOver ts, d =>
    if Db.LeftOver d then
      { d with status := .aborted, currentWorkerHostname := "", modifiedTime := ts.timeStamp }
    else d

end DigestUpdate

/-- The statements that write times, and the updates between them; `newJob` has the id that is
drawn. -/
inductive TimeEvent
  | newJob (jobId : JobId) (ts : UtcTime)
  | update (u : DigestUpdate)
  | insertJobLog (timeStamp : UtcTime) (jobId : JobId) (workerType workerHostname content : String)
  | insertSystemLog (timeStamp : UtcTime) (workerType workerHostname content : String)

def TimeDb.step (db : TimeDb) : TimeEvent → TimeDb
  | .newJob jobId ts =>
    { db with
      jobDigest := db.jobDigest ++ [⟨jobId,ts.isoformat,ts.isoformat,.pending,"",0⟩] }
  | .update u => { db with jobDigest := db.jobDigest.map u.row }
  | .insertJobLog timeStamp jobId workerType workerHostname content =>
    { db with
      jobLog := db.jobLog ++ [⟨timeStamp.isoformat,jobId,workerType,workerHostname,content⟩] }
  | .insertSystemLog timeStamp workerType workerHostname content =>
    { db with
      systemLog := db.systemLog ++ [⟨timeStamp.isoformat,workerType,workerHostname,content⟩] }

/-- The statements one after the other, from the tables that `_create_db` makes. -/
def timeTexts : Machine TimeDb TimeEvent where
  init db := db = ⟨[],[],[]⟩
  step db e := some (db.step e)

/-- The column of the name. -/
def sortedText : Listings.SortingMode → DigestRow → String
  | .modifiedTime, d => d.modifiedTime
  | .createdTime, d => d.createdTime

/-- Each comparison of times decides as their moments do, so that the updates are those of numbers,
and rows are in the order of a listing exactly if they are in the order of time. -/
structure TimeDb.Chronological (db : TimeDb) : Prop where
  guards : ∀ d ∈ db.jobDigest, ∀ ts : UtcTime,
    sqlLess d.modifiedTime ts.isoformat = true ↔ readTime d.modifiedTime < ts.timeStamp
  updates : ∀ d ∈ db.jobDigest, ∀ u : DigestUpdate, (u.row d).read = u.timed d.read
  jobs : ∀ sortBy, ∀ rows ⊆ db.jobDigest,
    rows.Pairwise (fun a b => sqlDescending (sortedText sortBy a) (sortedText sortBy b)) ↔
      (rows.map DigestRow.read).Pairwise fun a b => sortBy.key b ≤ sortBy.key a
  jobLog : ∀ rows ⊆ db.jobLog,
    rows.Pairwise (fun a b => sqlDescending a.timeStamp b.timeStamp) ↔
      (rows.map JobLogRow.read).Pairwise fun a b => b.timeStamp ≤ a.timeStamp
  systemLog : ∀ rows ⊆ db.systemLog,
    rows.Pairwise (fun a b => sqlDescending a.timeStamp b.timeStamp) ↔
      (rows.map SystemLogRow.read).Pairwise fun a b => b.timeStamp ≤ a.timeStamp

/-! ## Texts and moments -/

section Texts
variable {t u : UtcTime} {a b : String}

/-- A text that was written as a time. -/
def Written (text : String) : Prop := ∃ t : UtcTime, text = t.isoformat

@[simp] lemma readTime_isoformat (t : UtcTime) : readTime t.isoformat = t.timeStamp := by
  have hvalid : ValidOffset t.time := by
    intro offset hoffset
    rw [t.utc] at hoffset
    obtain rfl := Option.some.inj hoffset
    decide
  rw [readTime,UtcTime.isoformat,fromisoformat_isoformat hvalid]
  rfl

/-- The texts come in the order of the moments. -/
lemma sqlLess_isoformat : sqlLess t.isoformat u.isoformat = true ↔ t.timeStamp < u.timeStamp :=
  (utc_textBefore_iff t.utc u.utc).trans moment_lt_iff.symm

theorem isoformat_lt_iff : t.isoformat < u.isoformat ↔ t.timeStamp < u.timeStamp := by
  rw [← sqlLess_isoformat,sqlLess,textBefore_iff_lt]
  exact Iff.rfl

lemma Written.sqlLess_iff (ha : Written a) (t : UtcTime) :
    sqlLess a t.isoformat = true ↔ readTime a < t.timeStamp := by
  obtain ⟨s,rfl⟩ := ha
  rw [readTime_isoformat,sqlLess_isoformat]

lemma Written.sqlDescending_iff (ha : Written a) (hb : Written b) :
    sqlDescending a b = true ↔ readTime b ≤ readTime a := by
  obtain ⟨s,rfl⟩ := ha
  obtain ⟨t,rfl⟩ := hb
  rw [readTime_isoformat,readTime_isoformat,← not_lt,← sqlLess_isoformat,sqlDescending,textLe,
    Bool.not_eq_true',← Bool.not_eq_true]
  exact Iff.rfl

/-- Rows whose times were written are in the order of the texts exactly if they are in that of
time. -/
lemma pairwise_descending_iff {ρ σ : Type} {rows : List ρ} {text : ρ → String} {read : ρ → σ}
    {key : σ → TimeStamp} (hwritten : ∀ row ∈ rows, Written (text row))
    (hkey : ∀ row, key (read row) = readTime (text row)) :
    rows.Pairwise (fun a b => sqlDescending (text a) (text b)) ↔
      (rows.map read).Pairwise fun a b => key b ≤ key a := by
  rw [List.pairwise_map]
  simp only [hkey]
  refine List.Pairwise.iff_of_mem fun {a b} ha hb => ?_
  exact (hwritten a ha).sqlDescending_iff (hwritten b hb)

end Texts

/-! ## What is written -/

/-- All times of the tables were written as such. -/
structure TimeDb.AllWritten (db : TimeDb) : Prop where
  createdTime : ∀ d ∈ db.jobDigest, Written d.createdTime
  modifiedTime : ∀ d ∈ db.jobDigest, Written d.modifiedTime
  jobLog : ∀ log ∈ db.jobLog, Written log.timeStamp
  systemLog : ∀ log ∈ db.systemLog, Written log.timeStamp

section Runs
variable {db : TimeDb} {d : DigestRow} {u : DigestUpdate}

/-- An update leaves the time of the creation, and writes a time of its own or none. -/
lemma DigestUpdate.times_row (u : DigestUpdate) (d : DigestRow) :
    (u.row d).createdTime = d.createdTime ∧
      ((u.row d).modifiedTime = d.modifiedTime ∨ Written (u.row d).modifiedTime) := by
  unfold row
  split
  · cases u with
    | focus jobId hostname ts => exact ⟨rfl,.inr ⟨ts,rfl⟩⟩
    | restart jobId restartFrom ts => exact ⟨rfl,.inr ⟨ts,rfl⟩⟩
    | release request ts => exact ⟨rfl,.inr ⟨ts,rfl⟩⟩
    | finish jobId => exact ⟨rfl,.inl rfl⟩
    | abort jobId => exact ⟨rfl,.inl rfl⟩
    | abortLeftOver ts => exact ⟨rfl,.inr ⟨ts,rfl⟩⟩
  · exact ⟨rfl,.inl rfl⟩

lemma forall_mem_append_singleton {ρ : Type} {P : ρ → Prop} {rows : List ρ} {row : ρ}
    (h : ∀ r ∈ rows, P r) (hrow : P row) : ∀ r ∈ rows ++ [row], P r := by
  intro r hr
  obtain hr | hr := List.mem_append.mp hr
  · exact h r hr
  · rw [List.mem_singleton.mp hr]
    exact hrow

lemma TimeDb.AllWritten.step (h : db.AllWritten) (e : TimeEvent) : (db.step e).AllWritten := by
  cases e with
  | newJob jobId ts =>
    exact ⟨forall_mem_append_singleton h.createdTime ⟨ts,rfl⟩,
      forall_mem_append_singleton h.modifiedTime ⟨ts,rfl⟩,h.jobLog,h.systemLog⟩
  | update u =>
    refine ⟨fun d hd => ?_,fun d hd => ?_,h.jobLog,h.systemLog⟩
    · obtain ⟨d₀,hd₀,rfl⟩ := List.mem_map.mp hd
      rw [(u.times_row d₀).1]
      exact h.createdTime d₀ hd₀
    · obtain ⟨d₀,hd₀,rfl⟩ := List.mem_map.mp hd
      obtain hsame | hnew := (u.times_row d₀).2
      · rw [hsame]
        exact h.modifiedTime d₀ hd₀
      · exact hnew
  | insertJobLog timeStamp jobId workerType workerHostname content =>
    exact ⟨h.createdTime,h.modifiedTime,forall_mem_append_singleton h.jobLog ⟨timeStamp,rfl⟩,
      h.systemLog⟩
  | insertSystemLog timeStamp workerType workerHostname content =>
    exact ⟨h.createdTime,h.modifiedTime,h.jobLog,
      forall_mem_append_singleton h.systemLog ⟨timeStamp,rfl⟩⟩

theorem allWritten_of_reachable (h : timeTexts.Reachable db) : db.AllWritten := by
  refine h.invariant ?_ ?_
  · rintro _ rfl
    exact ⟨nofun,nofun,nofun,nofun⟩
  · intro db e db' _ hi _ hstep
    cases hstep
    exact hi.step e

/-- An update is that of the numbers where its clause and what it sets are. -/
lemma DigestUpdate.read_row_of {matching : JobDigest → Prop} [DecidablePred matching]
    {setting : JobDigest → JobDigest} (hmatches : u.Matches d ↔ matching d.read)
    (hset : (u.set d).read = setting d.read) :
    (u.row d).read = if matching d.read then setting d.read else d.read := by
  rw [row,apply_ite DigestRow.read,hset]
  simp only [hmatches]

/-- Where the time of a row was written, an update of it is that of the numbers. -/
lemma DigestUpdate.read_row (hwritten : Written d.modifiedTime) (u : DigestUpdate) :
    (u.row d).read = u.timed d.read := by
  have hguard := hwritten.sqlLess_iff
  cases u with
  | focus jobId hostname ts =>
    have hmatches : (focus jobId hostname ts).Matches d ↔
        Db.Focusable jobId ts.timeStamp d.read := by
      rw [Matches,hguard]
      exact Iff.rfl
    refine read_row_of hmatches ?_
    simp only [set,DigestRow.read,readTime_isoformat,Db.focusRow]
  | restart jobId restartFrom ts =>
    have hmatches : (restart jobId restartFrom ts).Matches d ↔
        Db.Restartable jobId ts.timeStamp d.read := by
      rw [Matches,hguard]
      exact Iff.rfl
    refine read_row_of hmatches ?_
    simp only [set,DigestRow.read,readTime_isoformat,Db.restartRow]
  | release request ts =>
    have hmatches : (release request ts).Matches d ↔
        Db.Releasable request ts.timeStamp d.read := by
      rw [Matches,hguard]
      exact Iff.rfl
    refine read_row_of hmatches ?_
    simp only [set,DigestRow.read,readTime_isoformat,Db.releaseRow]
  | finish jobId =>
    rw [row,timed,Statement.row,apply_ite DigestRow.read]
    rfl
  | abort jobId =>
    rw [row,timed,Statement.row,apply_ite DigestRow.read]
    rfl
  | abortLeftOver ts =>
    refine @read_row_of d (abortLeftOver ts) Db.LeftOver _ (fun digest =>
      { digest with
        status := .aborted, currentWorkerHostname := "", modifiedTime := ts.timeStamp }) Iff.rfl ?_
    simp only [set,DigestRow.read,readTime_isoformat]

theorem TimeDb.AllWritten.chronological (h : db.AllWritten) : db.Chronological where
  guards d hd ts := (h.modifiedTime d hd).sqlLess_iff ts
  updates d hd u := u.read_row (h.modifiedTime d hd)
  jobs sortBy rows hrows := by
    refine pairwise_descending_iff (fun d hd => ?_) fun d => ?_
    · cases sortBy with
      | modifiedTime => exact h.modifiedTime d (hrows hd)
      | createdTime => exact h.createdTime d (hrows hd)
    · cases sortBy with
      | modifiedTime => rfl
      | createdTime => rfl
  jobLog rows hrows := pairwise_descending_iff (fun log hlog => h.jobLog log (hrows hlog))
    fun _ => rfl
  systemLog rows hrows := pairwise_descending_iff (fun log hlog => h.systemLog log (hrows hlog))
    fun _ => rfl

/-- The texts of times in UTC come in the order of time, and so in every state of the database each
comparison of times and each listing by time is chronological. -/
theorem timeTexts_chronological (h : timeTexts.Reachable db) :
    (∀ t u : UtcTime, t.isoformat < u.isoformat ↔ t.timeStamp < u.timeStamp) ∧
      db.Chronological :=
  ⟨fun _ _ => isoformat_lt_iff,(allWritten_of_reachable h).chronological⟩

/-- Noon, a text that has no fraction. -/
def endOfJanuary : UtcTime := ⟨{ KArenaWeb.endOfJanuary with utcoffset := some 0 },rfl⟩

theorem timeTexts_chronological_oneJob :
    (∀ t u : UtcTime, t.isoformat < u.isoformat ↔ t.timeStamp < u.timeStamp) ∧
      (TimeDb.step ⟨[],[],[]⟩ (.newJob 1 endOfJanuary)).Chronological :=
  timeTexts_chronological
    ((Machine.ReachableBy.start (M := timeTexts) rfl).next (e := .newJob 1 endOfJanuary) trivial rfl)

end Runs

end LiveKBench.KScheduler
