import LiveKBench.KScheduler.Carried
import LiveKBench.KScheduler.Clock

/-! The results of the stages of a finished job. A restart may start at any stage; the stages that
it jumps over keep the results they have, and nothing asks whether these are successes. The stages
before the current one have all succeeded, apart from those that the job's last restart jumped
over without a success. -/
namespace LiveKBench.KScheduler
open KCore Lib Backend

/-- The stage stores a result, and neither the job's code nor the worker raised. -/
def JobWorkerRow.Succeeded (row : JobWorkerRow) : Prop :=
  ∃ result ∈ row.workerResult, result.succeeded = true

instance (row : JobWorkerRow) : Decidable row.Succeeded :=
  inferInstanceAs (Decidable (∃ result ∈ row.workerResult, _))

def Db.StageSucceeded (db : Db) (jobId : JobId) (k : ℤ) : Prop :=
  ∃ row ∈ db.worker? jobId k, row.Succeeded

instance (db : Db) (jobId : JobId) (k : ℤ) : Decidable (db.StageSucceeded jobId k) :=
  inferInstanceAs (Decidable (∃ row ∈ db.worker? jobId k, _))

/-! ## What a restart jumps over -/

/-- The stage at which the operation's next piece restarts the job, if it does. -/
def Operation.restarts (db : Db) (op : Operation) (jobId : JobId) : Option ℤ :=
  match op.statement with
  | some (.restart j target ts) =>
    if j = jobId ∧ ∃ d ∈ db.digest? jobId, Db.Restartable jobId ts d then some target else none
  | _ => none

/-- For each job the stages that its last restart jumped over while they had no success: as the
open database has it, and as its file has it. -/
structure Jumped where
  live : JobId → ℤ → Bool
  file : JobId → ℤ → Bool

/-- A piece of the operation `op`. -/
def Jumped.advance (past : Jumped) (db : Db) (op : Operation) : Jumped where
  live jobId k :=
    match op.restarts db jobId with
    | some target => k < target ∧ ¬db.StageSucceeded jobId k
    | none => past.live jobId k
  file := if op.commits then past.live else past.file

def jumped : List (State × Event) → Jumped
  | [] => ⟨fun _ _ => false,fun _ _ => false⟩
  | (s,e) :: before =>
    match e with
    | .restartScheduler graceful _ =>
      if graceful then ⟨(jumped before).live,(jumped before).live⟩
      else ⟨(jumped before).file,(jumped before).file⟩
    | e =>
      match s.advancing e with
      | some op => (jumped before).advance s.db op
      | none => jumped before

/-! ## Updates whose writes are current -/

/-- The unguarded writes of an update find the job as the update describes it: the result is
stored while the job is held as the request says, a release finds the stored result, and only an
update that has released the job ends it, while the job still waits where the release left it. -/
def Operation.Current (db : Db) : Operation → Prop
  | .update call (.result _) => db.Holds call.argument
  | .update call (.release ts) =>
    (∃ d ∈ db.digest? call.argument.jobId, Db.Releasable call.argument ts d) →
      ∃ row ∈ db.worker? call.argument.jobId call.argument.workerIndex,
        row.workerResult = some call.argument.deliverable
  | .update call (.finish released) =>
    released = true ∧ ∀ d ∈ db.digest? call.argument.jobId, d.status = .waiting ∧
      d.currentWorkerHostname = "" ∧ d.currentWorker = call.argument.workerIndex+1
  | _ => True

instance (db : Db) (op : Operation) : Decidable (op.Current db) := by
  unfold Operation.Current
  split <;> infer_instance

def CurrentWrites (s : State) (e : Event) : Prop := ∀ op ∈ s.advancing e, op.Current s.db

instance (s : State) (e : Event) : Decidable (CurrentWrites s e) :=
  inferInstanceAs (Decidable (∀ op ∈ s.advancing e, op.Current s.db))

/-! ## The invariant -/

/-- The stages before the current one have succeeded, apart from the jumped ones; a finished job
has no stage left; a job without stages is at none. -/
structure Good (db : Db) (jumped : ℤ → Bool) (d : JobDigest) : Prop where
  before : ∀ k, ∀ row ∈ db.worker? d.jobId k, k < d.currentWorker → jumped k = false →
    row.Succeeded
  finished : d.status = .finished → 0 ≤ d.currentWorker ∧
    db.worker? d.jobId d.currentWorker = none ∧ ¬db.Unstaged d.jobId
  unstaged : db.Unstaged d.jobId → d.currentWorker ≤ 0

def Db.Succeeds (db : Db) (jumped : JobId → ℤ → Bool) : Prop :=
  ∀ jobId, ∀ d ∈ db.digest? jobId, Good db (jumped jobId) d

section Row
variable {db : Db} {jumped : ℤ → Bool} {d d' : JobDigest}

/-- A digest that stays at its stage and does not finish. -/
lemma Good.stays (h : Good db jumped d) (hj : d'.jobId = d.jobId)
    (hw : d'.currentWorker = d.currentWorker) (hs : d'.status ≠ .finished) :
    Good db jumped d' where
  before := by rw [hj,hw]; exact h.before
  finished hf := absurd hf hs
  unstaged := by rw [hj,hw]; exact h.unstaged

lemma Good.focus (h : Good db jumped d) (jobId : JobId) (hostname : String) (ts : TimeStamp) :
    Good db jumped ((Statement.focus jobId hostname ts).row d) := by
  simp only [Statement.row]
  split
  · exact h.stays rfl rfl (by simp [Db.focusRow])
  · exact h

lemma Good.abort (h : Good db jumped d) (jobId : JobId) :
    Good db jumped ((Statement.abort jobId).row d) := by
  simp only [Statement.row]
  split
  · exact h.stays rfl rfl (by simp)
  · exact h

/-- A release finds the result that it is about, and moves on only after a success. -/
lemma Good.release (h : Good db jumped d) {request : JobUpdateRequest} {ts : TimeStamp}
    (hd : db.digest? request.jobId = some d → Db.Releasable request ts d →
      ∃ row ∈ db.worker? request.jobId request.workerIndex,
        row.workerResult = some request.deliverable)
    (hin : db.digest? d.jobId = some d) :
    Good db jumped ((Statement.release request ts).row d) := by
  simp only [Statement.row]
  split
  · next hr =>
    obtain ⟨row,hrow,hres⟩ := hd (hr.1 ▸ hin) hr
    have hstaged : ¬db.Unstaged d.jobId := by
      intro hu
      rw [hr.1] at hu
      exact absurd ((hu _).symm.trans hrow) (by simp)
    constructor
    case before =>
      intro k row' hrow' hk hjump
      change db.worker? d.jobId k = some row' at hrow'
      change k < (updatePlan request).nextWorkerIndex at hk
      by_cases hlt : k < d.currentWorker
      · exact h.before k row' hrow' hlt hjump
      · rcases updatePlan_cases request with ⟨-,hp⟩ | ⟨-,hs,hp⟩ | ⟨-,-,hp⟩
        · rw [hp] at hk
          exact absurd (hr.2.2.2.1 ▸ hk) hlt
        · rw [hp] at hk
          have hke : k = request.workerIndex := by
            have h1 := hr.2.2.2.1
            change k < request.workerIndex+1 at hk
            omega
          rw [hke,hr.1] at hrow'
          cases Option.mem_unique hrow hrow'
          exact ⟨_,hres,hs⟩
        · rw [hp] at hk
          exact absurd (hr.2.2.2.1 ▸ hk) hlt
    case finished =>
      intro hf
      rcases updatePlan_cases request with ⟨-,hp⟩ | ⟨-,-,hp⟩ | ⟨-,-,hp⟩ <;>
        simp [Db.releaseRow,hp] at hf
    case unstaged =>
      intro hu
      exact absurd hu hstaged
  · exact h

/-- A restart exempts what it jumps over. -/
lemma good_restartRow (target : ℤ) (ts : TimeStamp)
    (hu : db.Unstaged d.jobId → target ≤ 0)
    (hj : ∀ k, jumped k = decide (k < target ∧ ¬db.StageSucceeded d.jobId k)) :
    Good db jumped (Db.restartRow target ts d) where
  before := by
    intro k row hrow hk hjump
    change k < target at hk
    rw [hj k,decide_eq_false_iff_not,not_and_not_right] at hjump
    obtain ⟨row',hrow',hs⟩ := hjump hk
    cases Option.mem_unique hrow hrow'
    exact hs
  finished := by simp [Db.restartRow]
  unstaged := hu

/-- A job ends after its last stage. -/
lemma Good.finish (h : Good db jumped d) (jobId : JobId)
    (hlast : d.jobId = jobId → 0 ≤ d.currentWorker ∧ db.worker? jobId d.currentWorker = none ∧
      ¬db.Unstaged jobId) :
    Good db jumped ((Statement.finish jobId).row d) := by
  simp only [Statement.row]
  split
  · next hj =>
    exact ⟨h.before,fun _ => hj ▸ hlast hj,h.unstaged⟩
  · exact h

/-- A result is stored at the stage that the job is at. -/
lemma Good.writeResult (h : Good db jumped d) {jobId : JobId} {i : ℤ} {result : JobResult}
    (hat : d.jobId = jobId → d.status = .inProgress ∧ d.currentWorker = i) :
    Good (db.writeResult jobId i result) jumped d := by
  have hnone : ∀ k, (db.writeResult jobId i result).worker? d.jobId k = none ↔
      db.worker? d.jobId k = none := by
    intro k
    rw [Db.worker?_writeResult,Option.map_eq_none_iff]
  have hun : (db.writeResult jobId i result).Unstaged d.jobId ↔ db.Unstaged d.jobId :=
    forall_congr' hnone
  constructor
  case before =>
    intro k row hrow hk hjump
    rw [Option.mem_def,Db.worker?_writeResult] at hrow
    obtain ⟨row₀,hrow₀,rfl⟩ := Option.map_eq_some_iff.mp hrow
    split
    · next hm =>
      have hkey := Db.worker?_key hrow₀
      have hw := (hat (hkey.1.symm.trans hm.1)).2
      have hki : k = i := hkey.2.symm.trans hm.2
      omega
    · exact h.before k row₀ hrow₀ hk hjump
  case finished =>
    intro hf
    rw [hnone,hun]
    exact h.finished hf
  case unstaged =>
    rw [hun]
    exact h.unstaged

/-- A database with the same stages. -/
lemma Good.of_stages {db' : Db} (h : Good db jumped d)
    (hw : ∀ k, db'.worker? d.jobId k = db.worker? d.jobId k) : Good db' jumped d where
  before := by
    intro k row hrow
    exact h.before k row ((hw k).symm.trans hrow)
  finished := by
    intro hf
    obtain ⟨h0,hnone,hst⟩ := h.finished hf
    exact ⟨h0,(hw _).trans hnone,fun hu => hst fun k => (hw k).symm.trans (hu k)⟩
  unstaged hu := h.unstaged fun k => (hw k).symm.trans (hu k)

/-- The stages of a job that has none are inserted. -/
lemma Good.insertWorkers (h : Good db jumped d) {jobId : JobId} (ws : List JobArgument)
    (hun : db.Unstaged jobId) : Good ((Statement.insertWorkers jobId ws).run db) jumped d := by
  have hstays : ((Statement.insertWorkers jobId ws).run db).Unstaged d.jobId →
      db.Unstaged d.jobId := by
    intro hu k
    by_contra hk
    obtain ⟨row,hrow⟩ := Option.ne_none_iff_exists'.mp hk
    exact absurd ((hu k).symm.trans (Statement.worker?_run_of_some hrow)) (by simp)
  constructor
  case before =>
    intro k row hrow hk hjump
    rcases Statement.worker?_run hrow with ⟨row₀,hrow₀,he⟩ | ⟨-,ws',hws,n,-,rfl,-⟩
    · exact he ▸ h.before k row₀ hrow₀ hk hjump
    · have hj : jobId = d.jobId := (Statement.insertWorkers.inj hws).1
      have := h.unstaged (hj ▸ hun)
      omega
  case finished =>
    intro hf
    obtain ⟨h0,hnone,hst⟩ := h.finished hf
    refine ⟨h0,?_,fun hu => hst (hstays hu)⟩
    by_contra hk
    obtain ⟨row,hrow⟩ := Option.ne_none_iff_exists'.mp hk
    rcases Statement.worker?_run hrow with ⟨row₀,hrow₀,-⟩ | ⟨-,ws',hws,-⟩
    · exact absurd (hnone.symm.trans hrow₀) (by simp)
    · exact hst ((Statement.insertWorkers.inj hws).1 ▸ hun)
  case unstaged =>
    intro hu
    exact h.unstaged (hstays hu)

end Row

/-- What an update that has released its job knows of the stages. -/
def Operation.Released (db : Db) : Operation → Prop
  | .update call (.nextType true) =>
    ∃ row, db.worker? call.argument.jobId call.argument.workerIndex = some row
  | .update call (.finish true) =>
    (∃ row, db.worker? call.argument.jobId call.argument.workerIndex = some row) ∧
      db.worker? call.argument.jobId (call.argument.workerIndex+1) = none
  | _ => True

section Step
variable {fleet : Fleet} {s u : State} {e : Event}

lemma Operation.Released.write (hs : Staged s) {op : Operation} (h : op.Released s.db) :
    op.Released (s.write e) := by
  unfold Operation.Released at h ⊢
  split
  · obtain ⟨row,hrow⟩ := h
    obtain ⟨row',hrow',-⟩ := Staged.worker?_write_isSome (e := e) hrow
    exact ⟨row',hrow'⟩
  · obtain ⟨⟨row,hrow⟩,hnone⟩ := h
    obtain ⟨row',hrow',-⟩ := Staged.worker?_write_isSome (e := e) hrow
    refine ⟨⟨row',hrow'⟩,hs.worker?_write_eq_none ?_ hnone⟩
    exact fun hu => absurd ((hu _).symm.trans hrow) (by simp)
  · trivial

/-- A release that takes effect has found its stage. -/
lemma Piece.released {ts : TimeStamp} {op next : Operation} {o : Outcome Operation}
    (hp : Piece ts s.db op o) (hn : o.next? = some next) (hso : op.Sound)
    (hcur : op.Current s.db) (h : op.Released s.db) : next.Released (op.write s.db) := by
  cases hp with
  | @updateRelease call t released reads =>
    cases hn
    split
    · cases released with
      | false => trivial
      | true =>
        obtain ⟨row,hrow,-⟩ := hcur (reads.mp rfl)
        exact ⟨row,hrow⟩
    · trivial
  | @updateLast call released reads =>
    cases hn
    cases released with
    | false => trivial
    | true =>
      rw [updatePlan_of_succeeded hso] at reads
      exact ⟨h,Option.map_eq_none_iff.mp reads⟩
  | _ => cases hn <;> trivial

/-- A restart moves the job only to a stage that it has read. -/
lemma good_restart {past : Jumped} {jobId : JobId} {restartFrom target : ℤ}
    {jobContext : JobContext} {ts : TimeStamp}
    (hso : (Operation.restart jobId restartFrom (.write jobContext target ts)).Sound)
    (hlist : s.db.Lists jobId jobContext.jobWorkers) {d : JobDigest}
    (hd : s.db.digest? d.jobId = some d) (h : Good s.db (past.live d.jobId) d) :
    Good s.db ((past.advance s.db
      (.restart jobId restartFrom (.write jobContext target ts))).live d.jobId)
      ((Statement.restart jobId target ts).row d) := by
  by_cases hr : Db.Restartable jobId ts d
  · have hrow : (Statement.restart jobId target ts).row d = Db.restartRow target ts d := if_pos hr
    have hj : d.jobId = jobId := hr.1
    have hre : (Operation.restart jobId restartFrom (.write jobContext target ts)).restarts
        s.db d.jobId = some target := if_pos ⟨hj.symm,d,hd,hj.symm ▸ hr⟩
    rw [hrow]
    apply good_restartRow
    · intro hu
      by_contra hpos
      have hne : jobContext.jobWorkers ≠ [] := by
        rintro hnil
        have := hso.2.2
        simp [hnil] at this
        omega
      exact hlist.staged hne (hj ▸ hu)
    · intro k
      simp [Jumped.advance,hre]
  · have hrow : (Statement.restart jobId target ts).row d = d := if_neg hr
    have hre : (Operation.restart jobId restartFrom (.write jobContext target ts)).restarts
        s.db d.jobId = none := by
      refine if_neg ?_
      rintro ⟨hj,d',hd',hr'⟩
      cases Option.mem_unique hd hd'
      exact hr (hj ▸ hr')
    have hadv : (past.advance s.db
        (.restart jobId restartFrom (.write jobContext target ts))).live d.jobId =
          past.live d.jobId := by
      funext k
      simp [Jumped.advance,hre]
    rw [hrow,hadv]
    exact h

/-- A job that is new has no stages. -/
lemma good_newDigest (hs : Staged s) (jumped : ℤ → Bool) (ts : TimeStamp) :
    Good s.db jumped (newDigest (s.db.sequence+1) ts) := by
  constructor
  case before =>
    intro k row hrow
    exact absurd ((hs.owned.unstaged_next k).symm.trans hrow) (by simp)
  case finished => simp [newDigest]
  case unstaged =>
    intro _
    exact le_refl _

/-- One piece of an operation whose writes are current. -/
lemma Db.Succeeds.write {op : Operation} {past : Jumped} (hs : Staged s) {i : ℕ}
    (hop : s.operations i = some op) (hso : op.Sound)
    (hlist : ∀ jobId ws, op.listing = some (jobId,ws) → s.db.Lists jobId ws)
    (hrel : op.Released s.db) (hcur : op.Current s.db) (h : s.db.Succeeds past.live) :
    (op.write s.db).Succeeds (past.advance s.db op).live := by
  cases hst : op.statement with
  | none =>
    have hl : (past.advance s.db op).live = past.live := by
      simp [Jumped.advance,Operation.restarts,hst]
    rw [hl,Operation.write,hst]
    exact h
  | some st =>
    have hl : (∀ j target ts, st ≠ .restart j target ts) →
        (past.advance s.db op).live = past.live := by
      intro hne
      cases st <;> simp_all [Jumped.advance,Operation.restarts]
    rw [Operation.write,hst,Db.apply_some]
    intro jobId d hd
    rcases Statement.digest?_run hd with ⟨d₀,hd₀,rfl⟩ | ⟨ts,rfl,rfl,rfl⟩
    · have hg := h jobId d₀ hd₀
      have hj := Db.digest?_jobId hd₀
      have hin : s.db.digest? d₀.jobId = some d₀ := hj.symm ▸ hd₀
      cases st with
      | insertDigest | insertTags =>
        rw [hl (by simp)]
        exact hg.of_stages fun _ => rfl
      | insertWorkers j ws =>
        rw [hl (by simp)]
        obtain ⟨request,rfl⟩ := Operation.of_insertWorkers hst
        exact hg.insertWorkers ws (hs.unstaged i request j hop)
      | focus j hostname ts =>
        rw [hl (by simp)]
        exact (hg.focus j hostname ts).of_stages fun _ => rfl
      | abort j =>
        rw [hl (by simp)]
        exact (hg.abort j).of_stages fun _ => rfl
      | release request ts =>
        rw [hl (by simp)]
        obtain ⟨call,rfl,rfl⟩ := Operation.of_release hst
        exact (hg.release (fun hd hr => hcur ⟨d₀,hd,hr⟩) hin).of_stages fun _ => rfl
      | finish j =>
        rw [hl (by simp)]
        obtain ⟨call,released,rfl,rfl⟩ := Operation.of_finish hst
        obtain ⟨rfl,hwait⟩ := hcur
        obtain ⟨⟨row,hrow⟩,hnone⟩ := hrel
        refine (hg.finish call.argument.jobId fun hj' => ?_).of_stages fun _ => rfl
        obtain ⟨-,-,hw⟩ := hwait d₀ (hj' ▸ hin)
        have h0 := (hs.contiguous _ _ row hrow).1
        rw [hw]
        refine ⟨by omega,hnone,?_⟩
        exact fun hu => absurd ((hu _).symm.trans hrow) (by simp)
      | writeResult j k result =>
        rw [hl (by simp)]
        obtain ⟨call,ts,rfl,rfl,rfl,rfl⟩ := Operation.of_writeResult hst
        refine hg.writeResult fun hj' => ?_
        obtain ⟨d',hd',hs',-,hw'⟩ := hcur
        cases Option.mem_unique (hj' ▸ hin) hd'
        exact ⟨hs',hw'⟩
      | restart j target ts =>
        obtain ⟨restartFrom,jobContext,rfl⟩ := Operation.of_restart hst
        subst hj
        exact (good_restart hso (hlist j _ rfl) hin hg).of_stages fun _ => rfl
    · exact (good_newDigest hs _ ts).of_stages fun _ => rfl

end Step

lemma Db.Succeeds.abortLeftOver {db : Db} {jumped : JobId → ℤ → Bool} (h : db.Succeeds jumped)
    (ts : TimeStamp) : (db.abortLeftOver ts).Succeeds jumped := by
  intro jobId d hd
  rw [Option.mem_def,digest?_abortLeftOver] at hd
  obtain ⟨d₀,hd₀,rfl⟩ := Option.map_eq_some_iff.mp hd
  have hg := h jobId d₀ hd₀
  split
  · exact ⟨hg.before,by simp,hg.unstaged⟩
  · exact ⟨hg.before,hg.finished,hg.unstaged⟩

/-- What a run whose updates are current preserves. -/
structure SucceedsIn (past : Jumped) (s : State) : Prop where
  db : s.db.Succeeds past.live
  committed : s.committed.Succeeds past.file
  released : ∀ i op, s.operations i = some op → op.Released s.db

lemma jumped_cons {s : State} {e : Event} {tr : List (State × Event)}
    (he : ∀ graceful ts, e ≠ .restartScheduler graceful ts) :
    jumped ((s,e) :: tr) =
      match s.advancing e with
      | some op => (jumped tr).advance s.db op
      | none => jumped tr := by
  cases e with
  | restartScheduler graceful ts => exact absurd rfl (he graceful ts)
  | _ => rfl

lemma SucceedsIn.released_step {fleet : Fleet} {past : Jumped} {s u : State} {e : Event}
    (hi : SucceedsIn past s) (hs : Staged s) (hsound : ∀ i op, s.operations i = some op → op.Sound)
    (hcur : CurrentWrites s e) (hm : Move fleet s e u) (hdb : u.db = s.write e) :
    ∀ i op, u.operations i = some op → op.Released u.db := by
  intro i op hop
  rw [hdb]
  rcases hm.operation_origin hop with ⟨hop,-⟩ | ⟨ts,op₀,o,rfl,hop₀,hp,hn⟩ | ⟨hst,-⟩
  · exact (hi.released i op hop).write hs
  · rw [State.write_advance hop₀]
    exact hp.released hn (hsound i op₀ hop₀) (hcur op₀ hop₀) (hi.released i op₀ hop₀)
  · cases hst with
    | @handleUpdate _ call ts =>
      unfold UpdatePc.start
      split <;> trivial
    | _ => trivial

/-- A new process starts with what the results say of the database that it opens. -/
lemma SucceedsIn.restart_step {fleet : Fleet} {s u : State} {tr : List (State × Event)}
    {graceful : Bool} {ts : TimeStamp} (hi : SucceedsIn (jumped tr) s)
    (hm : Move fleet s (.restartScheduler graceful ts) u) :
    SucceedsIn (jumped ((s,.restartScheduler graceful ts) :: tr)) u := by
  have hopen : (s.reopened graceful ts).Succeeds
      (jumped ((s,.restartScheduler graceful ts) :: tr)).live := by
    cases graceful with
    | true => exact hi.db.abortLeftOver ts
    | false => exact hi.committed.abortLeftOver ts
  have hfile : (jumped ((s,.restartScheduler graceful ts) :: tr)).file =
      (jumped ((s,.restartScheduler graceful ts) :: tr)).live := by
    cases graceful <;> rfl
  cases hm
  exact ⟨hopen,hfile ▸ hopen,fun i op hop => absurd hop (by simp)⟩

lemma SucceedsIn.committed_step {s : State} {e : Event} {tr : List (State × Event)}
    (hi : SucceedsIn (jumped tr) s) (he : ∀ graceful ts, e ≠ .restartScheduler graceful ts) :
    (s.commit e).Succeeds (jumped ((s,e) :: tr)).file := by
  rw [jumped_cons he]
  unfold State.commit
  cases hop : s.advancing e with
  | none => exact hi.committed
  | some op =>
    simp only [Option.any_some,Jumped.advance]
    split
    · exact hi.db
    · exact hi.committed

theorem succeedsIn {fleet : Fleet} {tr : List (State × Event)} {s : State}
    (h : (system fleet).Run CurrentWrites tr s) : SucceedsIn (jumped tr) s := by
  refine h.invariant (I := fun tr s => SucceedsIn (jumped tr) s) ?_ ?_
  · rintro s rfl
    constructor
    · intro jobId d hd
      cases hd
    · intro jobId d hd
      cases hd
    · intro i op hop
      cases hop
  · rintro tr s e s' hrun hi hcur hstep
    have hs := staged ⟨tr,hrun⟩
    obtain ⟨u,hm,rfl⟩ := Move.of_step hstep
    by_cases he : ∃ graceful ts, e = .restartScheduler graceful ts
    · obtain ⟨graceful,ts,rfl⟩ := he
      obtain ⟨hdb,hcom,hrel⟩ := hi.restart_step hm
      exact ⟨hdb,hcom,hrel⟩
    · have he : ∀ graceful ts, e ≠ .restartScheduler graceful ts :=
        fun graceful ts h' => he ⟨graceful,ts,h'⟩
      obtain ⟨hdb,hcom⟩ := hm.writes_of_ne he
      have hrel := hi.released_step hs (sound ⟨tr,hrun⟩) hcur hm hdb
      refine ⟨?_,hcom ▸ hi.committed_step he,hrel⟩
      change u.db.Succeeds _
      rw [hdb,jumped_cons he]
      cases hop : s.advancing e with
      | none =>
        have hw : s.write e = s.db := by simp [State.write,State.statement,hop]
        exact hw ▸ hi.db
      | some op =>
        obtain ⟨i,ts,rfl,hop⟩ := State.advancing_eq_some hop
        rw [State.write_advance hop]
        exact hi.db.write hs hop (sound ⟨tr,hrun⟩ i op hop)
          (fun jobId ws hl => listed ⟨tr,hrun⟩ i op jobId ws hop hl) (hi.released i op hop)
          (hcur op hop)

/-- In runs whose updates are current, every stage of a finished job has succeeded, apart from
those that the job's last restart jumped over without a success. -/
theorem finished_stages_succeeded {fleet : Fleet} {tr : List (State × Event)} {s : State}
    (h : (system fleet).Run CurrentWrites tr s) {jobId : JobId} {d : JobDigest}
    (hd : s.db.digest? jobId = some d) (hf : d.status = .finished) {k : ℤ} {row : JobWorkerRow}
    (hrow : s.db.worker? jobId k = some row) (hk : (jumped tr).live jobId k = false) :
    row.Succeeded := by
  have hg := (succeedsIn h).db jobId d hd
  have hj := Db.digest?_jobId hd
  obtain ⟨h0,hnone,-⟩ := hg.finished hf
  refine hg.before k row (hj.symm ▸ hrow) ?_ hk
  by_contra hle
  obtain ⟨n,hn⟩ := Int.eq_ofNat_of_zero_le h0
  obtain ⟨row',hrow'⟩ := ((staged ⟨tr,h⟩).contiguous jobId k row hrow).2 n (by omega)
  rw [hj,hn] at hnone
  exact absurd (hnone.symm.trans hrow') (by simp)

/-! ## A restart that jumps over a failed stage -/

/-- A job that is built and then run. -/
def buildAndRunRequest : JobRequest := ⟨[⟨"kbuilder",""⟩,⟨"kvmmanager",""⟩],[],List.nodup_nil⟩

/-- A builder and virtual machine managers. -/
def builderAndManagers : Fleet := fun w =>
  if w = 0 then ⟨"builder-0","kbuilder",none⟩
  else if w = 1 then ⟨"vm-0","kvmmanager",none⟩
  else ⟨"vm-1","kvmmanager",none⟩

def buildFails : UpdateCall := ⟨0,1,⟨"builder-0","kbuilder",0,1,failureOf "kbuilder"⟩⟩

def runSucceeds : UpdateCall := ⟨1,3,⟨"vm-0","kvmmanager",1,1,successOf "kvmmanager"⟩⟩

/-- The build fails, the job is restarted at its second stage, and that stage succeeds. -/
def restartedPastFailure : List Event :=
  Event.serveNewJob 0 buildAndRunRequest 1 ++ [.deliver 0 ⟨"kbuilder",none,1⟩] ++
  Event.serveFocus 0 0 0 ⟨1,"builder-0"⟩ 2 ++ [.report 0 (failureOf "kbuilder")] ++
  Event.serveUpdate 0 4 buildFails 3 ++ Event.serveRestart 0 1 1 4 ++
  [.deliver 1 ⟨"kvmmanager",none,1⟩] ++ Event.serveFocus 0 1 2 ⟨1,"vm-0"⟩ 5 ++
  [.report 1 (successOf "kvmmanager")] ++ Event.serveUpdate 0 6 runSucceeds 6

/-- In that run the second stage counts and the first does not. -/
theorem second_stage_succeeded :
    ∃ tr s, (system builderAndManagers).Run CurrentWrites tr s ∧
      (jumped tr).live 1 0 = true ∧ (jumped tr).live 1 1 = false ∧
      ∃ row ∈ s.db.worker? 1 1, row.Succeeded := by
  obtain ⟨tr,s,hr,hp⟩ := Machine.exists_run_of_replay (system builderAndManagers) CurrentWrites
    restartedPastFailure
    (fun tr s => (∃ d ∈ s.db.digest? 1, d.status = .finished) ∧
      (s.db.worker? 1 1).isSome = true ∧ (jumped tr).live 1 0 = true ∧
      (jumped tr).live 1 1 = false) rfl (by decide)
  obtain ⟨⟨d,hd,hf⟩,hrow,h0,h1⟩ := of_decide_eq_true hp
  obtain ⟨row,hrow⟩ := Option.isSome_iff_exists.mp hrow
  exact ⟨tr,s,hr,h0,h1,row,hrow,finished_stages_succeeded hr hd hf hrow h1⟩

theorem finished_with_failed_stage :
    ∃ s, (system builderAndManagers).Reachable s ∧ ∃ d ∈ s.db.digest? 1, d.status = .finished ∧
      ∃ row ∈ s.db.worker? 1 0, ¬row.Succeeded := by
  obtain ⟨s,hs,hp⟩ := Machine.exists_of_replay (system builderAndManagers) (fun _ _ => True)
    restartedPastFailure
    (fun s => ∃ d ∈ s.db.digest? 1, d.status = .finished ∧
      ∃ row ∈ s.db.worker? 1 0, ¬row.Succeeded) rfl (by decide)
  exact ⟨s,hs,of_decide_eq_true hp⟩

end LiveKBench.KScheduler
