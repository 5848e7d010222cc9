import LiveKBench.KScheduler.Durability
import LiveKBench.KScheduler.MutualExclusion
import LiveKBench.KScheduler.Carried
import LiveKBench.Lib.Refinement

/-! Where what the workers run comes from, and what they report. Job ids are drawn again after a
crash, messages outlive the jobs that they are about, and a request may be handled twice; still a
worker runs the stages of one request as it was submitted, and a stored result was reported by a
worker that ran its stage on the argument stored beside it. -/
namespace LiveKBench.KScheduler
open KCore Lib Backend

/-- A call of `newJob` with this request is in the history. -/
def Submitted (tr : List (State × Event)) (request : JobRequest) : Prop :=
  ∃ s i ts, (s,.newJob i request ts) ∈ tr

/-- The stages are those of one request, or there are none. -/
def AsSubmitted (tr : List (State × Event)) (jobWorkers : List JobWorker) : Prop :=
  jobWorkers = [] ∨ ∃ request, Submitted tr request ∧
    jobWorkers.map JobWorker.asked = request.jobWorkers.map JobArgument.asked

/-- A worker that ran the job in a context at this stage has sent the result. -/
def Sent (tr : List (State × Event)) (jobId : JobId) (workerIndex : ℤ) (result : JobResult) :
    Prop :=
  ∃ s w jobContext, (s,.report w result) ∈ tr ∧
    s.handling w = some ⟨jobId,.running jobContext⟩ ∧ jobContext.currentWorker = workerIndex

namespace Db

def FromRequests (db : Db) (tr : List (State × Event)) : Prop :=
  ∀ jobId, db.Unstaged jobId ∨ ∃ request, Submitted tr request ∧
    db.AskedAs jobId request.jobWorkers

def SentResults (db : Db) (tr : List (State × Event)) : Prop :=
  ∀ jobId k row result, db.worker? jobId k = some row → row.workerResult = some result →
    Sent tr jobId k result

/-- The stages of the file are stages of the open database. -/
structure Within (file db : Db) : Prop where
  sequence : file.sequence ≤ db.sequence
  stages : ∀ jobId k row, file.worker? jobId k = some row →
    ∃ row', db.worker? jobId k = some row' ∧ row'.asked = row.asked

end Db

section History
variable {tr : List (State × Event)} {p : State × Event}

lemma Submitted.mono {request : JobRequest} (h : Submitted tr request) :
    Submitted (p :: tr) request := by
  obtain ⟨s,i,ts,hmem⟩ := h
  exact ⟨s,i,ts,List.mem_cons_of_mem _ hmem⟩

lemma AsSubmitted.mono {jobWorkers : List JobWorker} (h : AsSubmitted tr jobWorkers) :
    AsSubmitted (p :: tr) jobWorkers := by
  rcases h with h | ⟨request,hs,hr⟩
  · exact .inl h
  · exact .inr ⟨request,hs.mono,hr⟩

lemma Sent.mono {jobId : JobId} {k : ℤ} {result : JobResult} (h : Sent tr jobId k result) :
    Sent (p :: tr) jobId k result := by
  obtain ⟨s,w,jobContext,hmem,hw,hk⟩ := h
  exact ⟨s,w,jobContext,List.mem_cons_of_mem _ hmem,hw,hk⟩

lemma Db.FromRequests.mono {db : Db} (h : db.FromRequests tr) : db.FromRequests (p :: tr) := by
  intro jobId
  rcases h jobId with hu | ⟨request,hs,ha⟩
  · exact .inl hu
  · exact .inr ⟨request,hs.mono,ha⟩

lemma Db.SentResults.mono {db : Db} (h : db.SentResults tr) : db.SentResults (p :: tr) :=
  fun jobId k row result hrow hres => (h jobId k row result hrow hres).mono

end History

/-! ## What the statements keep -/

section Statement
variable {st : Statement} {db : Db} {jobId : JobId} {k : ℤ} {tr : List (State × Event)}

@[simp] lemma Statement.asked_stage (st : Statement) (row : JobWorkerRow) :
    (st.stage row).asked = row.asked := by
  cases st <;> simp only [stage]
  split <;> rfl

/-- Only an insertion of its stages changes what is asked of a job. -/
lemma Statement.asked_run (h : ∀ ws, st ≠ .insertWorkers jobId ws) :
    ((st.run db).worker? jobId k).map JobWorkerRow.asked =
      (db.worker? jobId k).map JobWorkerRow.asked := by
  cases hw : db.worker? jobId k with
  | some row => simp [worker?_run_of_some hw]
  | none =>
    have hnone : (st.run db).worker? jobId k = none := by
      by_contra hne
      obtain ⟨row,hrow⟩ := Option.ne_none_iff_exists'.mp hne
      rcases worker?_run hrow with ⟨row₀,hrow₀,-⟩ | ⟨-,ws,hws,-⟩
      · exact absurd (hw.symm.trans hrow₀) (by simp)
      · exact h ws hws
    rw [hnone]

lemma Db.FromRequests.run (h : db.FromRequests tr)
    (hst : ∀ j ws, st = .insertWorkers j ws → db.Unstaged j ∧
      ∃ request, Submitted tr request ∧ ws = request.jobWorkers) : (st.run db).FromRequests tr := by
  intro j
  by_cases hj : ∃ ws, st = .insertWorkers j ws
  · obtain ⟨ws,rfl⟩ := hj
    obtain ⟨hu,request,hs,rfl⟩ := hst j ws rfl
    exact .inr ⟨request,hs,Db.askedAs_insertWorkers hu⟩
  · have hne : ∀ ws, st ≠ .insertWorkers j ws := fun ws hws => hj ⟨ws,hws⟩
    rcases h j with hu | ⟨request,hs,ha⟩
    · exact .inl (hu.run hne)
    · exact .inr ⟨request,hs,fun n => (Statement.asked_run hne).trans (ha n)⟩

lemma Db.SentResults.run (h : db.SentResults tr)
    (hst : ∀ j i result, st = .writeResult j i result → Sent tr j i result) :
    (st.run db).SentResults tr := by
  intro j i row result hrow hres
  rcases Statement.worker?_run hrow with ⟨row₀,hrow₀,rfl⟩ | ⟨-,ws,-,n,argument,-,-,rfl⟩
  · cases st with
    | writeResult j' i' result' =>
      simp only [Statement.stage] at hres
      split at hres
      · next he =>
        obtain ⟨rfl,rfl⟩ := Db.worker?_key hrow₀
        cases hres
        exact he.1 ▸ he.2 ▸ hst _ _ _ rfl
      · exact h j i row₀ result hrow₀ hres
    | _ => exact h j i row₀ result hrow₀ hres
  · cases hres

lemma Db.Within.refl (db : Db) : db.Within db :=
  ⟨Nat.le_refl _,fun _ _ row hrow => ⟨row,hrow,rfl⟩⟩

lemma Db.Within.run {file : Db} (h : file.Within db) : file.Within (st.run db) where
  sequence := h.sequence.trans (Statement.sequence_le_run st db)
  stages := by
    intro j i row hrow
    obtain ⟨row',hrow',ha⟩ := h.stages j i row hrow
    exact ⟨st.stage row',Statement.worker?_run_of_some hrow',(st.asked_stage row').trans ha⟩

/-- `get_job` lists the stages as they were submitted. -/
lemma Db.FromRequests.selectWorkers (h : db.FromRequests tr) (hc : db.Contiguous)
    (jobId : JobId) : AsSubmitted tr (db.selectWorkers jobId) := by
  rcases h jobId with hu | ⟨request,hs,ha⟩
  · refine .inl (List.ext_getElem? ?_)
    intro n
    rw [Db.getElem?_selectWorkers hc,hu n]
    rfl
  · refine .inr ⟨request,hs,List.ext_getElem? ?_⟩
    intro n
    rw [List.getElem?_map,List.getElem?_map,Db.getElem?_selectWorkers hc,Option.map_map]
    exact ha n

end Statement

namespace State
variable {fleet : Fleet} {s u : State} {e : Event}

lemma reopened_cases (s : State) (graceful : Bool) (ts : TimeStamp) :
    s.reopened graceful ts = s.db.abortLeftOver ts ∨
      s.reopened graceful ts = s.committed.abortLeftOver ts := by
  unfold reopened
  split
  · exact .inl rfl
  · exact .inr rfl

/-- A property of the tables that does not read the digests, kept by the statement that an event
executes, holds of the database and of its file after the event. -/
lemma kept_of_move {P : Db → Prop} (hm : Move fleet s e u) (hdb : P s.db) (hfile : P s.committed)
    (hrun : ∀ st, s.statement e = some st → P (st.run s.db))
    (hopen : ∀ db ts, P db → P (db.abortLeftOver ts)) : P u.db ∧ P u.committed := by
  rcases hm.writes with ⟨graceful,ts,-,hu,hv⟩ | ⟨hu,hv⟩
  · have hP : P (s.reopened graceful ts) := by
      rcases s.reopened_cases graceful ts with h | h
      · exact h ▸ hopen _ _ hdb
      · exact h ▸ hopen _ _ hfile
    exact ⟨hu ▸ hP,hv ▸ hP⟩
  · constructor
    · rw [hu]
      rcases s.write_cases e with hw | ⟨st,hst,hw⟩
      · exact hw ▸ hdb
      · exact hw ▸ hrun st hst
    · rcases s.commit_cases e with hc | hc
      · exact hv.trans hc ▸ hfile
      · exact hv.trans hc ▸ hdb

end State

/-! ## What a receipt says of its job -/

def GetJob.Names (jobId : JobId) : GetJob → Prop
  | .digest => True
  | .workers d => d.jobId = jobId
  | .tags d _ => d.jobId = jobId

/-- What the operation has read is about the job of its request. -/
def FocusPc.Names (jobId : JobId) : FocusPc → Prop
  | .read _ g => g.Names jobId
  | .reply receipt => receipt.jobContext.jobId = jobId
  | _ => True

lemma GetJob.names_of_more {db : Db} {jobId : JobId} {g g' : GetJob}
    (h : g.step db jobId = .more g') (hg : g.Names jobId) : g'.Names jobId := by
  cases g with
  | digest =>
    simp only [GetJob.step] at h
    split at h <;> cases h
    next hd => exact Db.digest?_jobId hd
  | workers d =>
    cases h
    exact hg
  | tags d ws => cases h

lemma GetJob.names_of_done {db : Db} {jobId : JobId} {g : GetJob} {jobContext : JobContext}
    (h : g.step db jobId = .done (some jobContext)) (hg : g.Names jobId) :
    jobContext.jobId = jobId := by
  cases g with
  | digest =>
    simp only [GetJob.step] at h
    split at h <;> cases h
  | workers d => cases h
  | tags d ws =>
    cases h
    exact hg

lemma Piece.names {ts : TimeStamp} {db : Db} {o : Outcome Operation} {call : FocusCall}
    {pc pc' : FocusPc} (h : Piece ts db (.focus call pc) o) (hpc : pc.Names call.argument.jobId)
    (hn : o.next? = some (.focus call pc')) : pc'.Names call.argument.jobId := by
  cases h with
  | focusTaken | focusRefused | focusCommit =>
    cases hn
    trivial
  | focusRead reads =>
    cases hn
    exact GetJob.names_of_more reads hpc
  | focusReceipt reads =>
    cases hn
    exact GetJob.names_of_done reads hpc
  | _ => cases hn

/-! ## The stages that the workers get -/

/-- What the requests of the history have left: in the tables, in the lists that operations have
read, and in the contexts of the workers. -/
structure Faithful (tr : List (State × Event)) (s : State) : Prop where
  asks : ∀ i request pc, s.operations i = some (.newJob request pc) → Submitted tr request
  db : s.db.FromRequests tr
  file : s.committed.FromRequests tr
  lists : ∀ i op jobId ws, s.operations i = some op → op.listing = some (jobId,ws) →
    AsSubmitted tr ws
  names : ∀ i call pc, s.operations i = some (.focus call pc) → pc.Names call.argument.jobId
  running : ∀ w jobId jobContext, s.handling w = some ⟨jobId,.running jobContext⟩ →
    jobContext.jobId = jobId ∧ AsSubmitted tr jobContext.jobWorkers

namespace Faithful
variable {fleet : Fleet} {tr : List (State × Event)} {s u : State} {e : Event}

lemma asks_step (hi : Faithful tr s) (hm : Move fleet s e u) {i : ℕ} {request : JobRequest}
    {pc : NewJobPc} (hop : u.operations i = some (.newJob request pc)) :
    Submitted ((s,e) :: tr) request := by
  rcases hm.operation_origin hop with ⟨hop,-⟩ | ⟨ts,op₀,o,rfl,hop₀,hp,hn⟩ | ⟨hs,-⟩
  · exact (hi.asks i request pc hop).mono
  · rcases hp.next_newJob hn with ⟨t,rfl,-⟩ | ⟨j,rfl,-,-⟩ | ⟨j,rfl,-,-⟩ <;>
      exact (hi.asks i request _ hop₀).mono
  · cases hs
    exact ⟨s,i,_,List.mem_cons_self⟩

lemma tables_step (hi : Faithful tr s) (hs : Staged s) (hm : Move fleet s e u) :
    u.db.FromRequests tr ∧ u.committed.FromRequests tr := by
  refine State.kept_of_move (P := fun db => db.FromRequests tr) hm hi.db hi.file ?_
    fun _ _ h => h
  intro st hst
  refine hi.db.run ?_
  rintro j ws rfl
  obtain ⟨i,ts,op,rfl,hop,hst⟩ := State.statement_eq_some hst
  obtain ⟨request,rfl⟩ := Operation.of_insertWorkers hst
  cases hst
  exact ⟨hs.unstaged i request j hop,request,hi.asks i request _ hop,rfl⟩

lemma lists_step (hi : Faithful tr s) (hs : Staged s) (hm : Move fleet s e u) {i : ℕ}
    {op : Operation} {jobId : JobId} {ws : List JobWorker} (hop : u.operations i = some op)
    (hl : op.listing = some (jobId,ws)) : AsSubmitted tr ws := by
  rcases hm.operation_origin hop with ⟨hop,-⟩ | ⟨ts,op₀,o,rfl,hop₀,hp,hn⟩ | ⟨hst,-⟩
  · exact hi.lists i op jobId ws hop hl
  · rcases hp.listing hn hl with hl₀ | ⟨rfl,-⟩
    · exact hi.lists i op₀ jobId ws hop₀ hl₀
    · exact hi.db.selectWorkers hs.contiguous jobId
  · cases hst <;> cases hl

lemma names_step (hi : Faithful tr s) (hm : Move fleet s e u) {i : ℕ} {call : FocusCall}
    {pc : FocusPc} (hop : u.operations i = some (.focus call pc)) :
    pc.Names call.argument.jobId := by
  rcases hm.operation_origin hop with ⟨hop,-⟩ | ⟨ts,op₀,o,rfl,hop₀,hp,hn⟩ | ⟨hst,-⟩
  · exact hi.names i call pc hop
  · obtain ⟨pc₀,rfl⟩ := hp.of_next_focus hn
    exact hp.names (hi.names i call pc₀ hop₀) hn
  · cases hst
    trivial

lemma running_step (hi : Faithful tr s) (hw : Wired fleet s) (hm : Move fleet s e u) {w : ℕ}
    {jobId : JobId} {jobContext : JobContext}
    (h : u.handling w = some ⟨jobId,.running jobContext⟩) :
    jobContext.jobId = jobId ∧ AsSubmitted tr jobContext.jobWorkers := by
  have ho := hm.handling_origin h
  generalize hh : (⟨jobId,.running jobContext⟩ : Handling) = hd at ho
  cases ho with
  | kept before other =>
    subst hh
    exact hi.running w jobId jobContext before
  | @focused i ts call receipt jobId' running status caller before =>
    cases hh
    subst caller
    have hj := (hw.focusing _ _ _ before).2 call (.inr (.inr ⟨i,_,running⟩)) rfl rfl
    exact ⟨(hi.names i call _ running).trans hj,hi.lists i _ _ _ running rfl⟩
  | delivered | requested | reported => cases hh

theorem step (hi : Faithful tr s) (hs : Staged s) (hw : Wired fleet s) (hm : Move fleet s e u) :
    Faithful ((s,e) :: tr) u where
  asks _ _ _ hop := hi.asks_step hm hop
  db := (hi.tables_step hs hm).1.mono
  file := (hi.tables_step hs hm).2.mono
  lists _ _ _ _ hop hl := (hi.lists_step hs hm hop hl).mono
  names _ _ _ hop := hi.names_step hm hop
  running _ _ _ h := (hi.running_step hw hm h).imp_right AsSubmitted.mono

end Faithful

theorem faithful {fleet : Fleet} {C : State → Event → Prop} {tr : List (State × Event)} {s : State}
    (h : (system fleet).Run C tr s) : Faithful tr s := by
  refine h.invariant ?_ ?_
  · rintro s rfl
    have hempty : Db.empty.FromRequests [] := fun jobId => .inl fun k => rfl
    constructor
    case db | file => exact hempty
    case running => exact fun _ _ _ => nofun
    all_goals exact fun _ _ _ => nofun
  · intro tr s e s' hr hi _ hstep
    obtain ⟨u,hm,rfl⟩ := Move.of_step hstep
    have hu := hi.step (staged ⟨tr,hr⟩) (wired ⟨tr,hr⟩) hm
    exact ⟨hu.asks,hu.db,hu.file,hu.lists,hu.names,hu.running⟩

/-- What a worker runs is about the job of its message, and its stages are those of one submitted
request, in number, order, type and argument, or there are none. -/
theorem runs_as_submitted {fleet : Fleet} {C : State → Event → Prop} {tr : List (State × Event)}
    {s : State} (h : (system fleet).Run C tr s) {w : ℕ} {jobId : JobId} {jobContext : JobContext}
    (hw : s.handling w = some ⟨jobId,.running jobContext⟩) :
    jobContext.jobId = jobId ∧ (jobContext.jobWorkers = [] ∨ ∃ request, Submitted tr request ∧
      jobContext.jobWorkers.map JobWorker.asked = request.jobWorkers.map JobArgument.asked) :=
  (faithful h).running w jobId jobContext hw

theorem runs_as_submitted_first_builder : ∃ tr s jobContext,
    (system builders).Run (fun _ _ => True) tr s ∧ s.handling 0 = some ⟨1,.running jobContext⟩ ∧
      jobContext.jobId = 1 ∧ (jobContext.jobWorkers = [] ∨ ∃ request, Submitted tr request ∧
        jobContext.jobWorkers.map JobWorker.asked =
          request.jobWorkers.map JobArgument.asked) := by
  obtain ⟨tr,s,hr,hp⟩ := Machine.exists_run_of_replay (system builders) (fun _ _ => True)
    firstBuilderRuns (fun _ s => s.Runs 0 1) rfl (by decide)
  unfold State.Runs at hp
  split at hp
  · next j jobContext hh =>
    obtain rfl : j = 1 := of_decide_eq_true hp
    exact ⟨tr,s,jobContext,hr,hh,runs_as_submitted hr hh⟩
  · cases hp

/-! ## Stages that stay

From the moment at which a focus has committed, the job's id is in the file and is not drawn again.
The stages that are read after that are the job's stages for good. -/

/-- The stages that were read of the job are those that it has, and no others come. -/
structure Lasting (s : State) (jobId : JobId) (jobWorkers : List JobWorker) : Prop where
  drawn : jobId ≤ s.committed.sequence
  agrees : ∀ (n : ℕ) worker row, jobWorkers[n]? = some worker →
    s.db.worker? jobId n = some row → row.asked = JobWorker.asked worker
  complete : jobWorkers ≠ [] → ∀ i request,
    s.operations i ≠ some (.newJob request (.workers jobId))

theorem within {fleet : Fleet} {C : State → Event → Prop} {s : State}
    (h : (system fleet).ReachableBy C s) : s.committed.Within s.db := by
  refine h.invariant (I := fun s => s.committed.Within s.db) ?_ ?_
  · rintro s rfl
    exact .refl _
  · rintro s e s' - hi - hstep
    obtain ⟨u,hm,rfl⟩ := Move.of_step hstep
    rcases hm.writes with ⟨graceful,ts,-,hu,hv⟩ | ⟨hu,hv⟩
    · exact hu.trans hv.symm ▸ .refl _
    · change u.committed.Within u.db
      rcases s.commit_cases e with hc | hc <;> rw [hu,hv,hc]
      · rcases s.write_cases e with hw | ⟨st,-,hw⟩
        · exact hw ▸ hi
        · exact hw ▸ hi.run
      · rcases s.write_cases e with hw | ⟨st,-,hw⟩
        · exact hw ▸ .refl _
        · exact hw ▸ (Db.Within.refl s.db).run

lemma Db.sequence_abortLeftOver (db : Db) (ts : TimeStamp) :
    (db.abortLeftOver ts).sequence = db.sequence := rfl

lemma Db.worker?_abortLeftOver (db : Db) (ts : TimeStamp) (jobId : JobId) (k : ℤ) :
    (db.abortLeftOver ts).worker? jobId k = db.worker? jobId k := rfl

section Lasting
variable {fleet : Fleet} {s u : State} {e : Event} {jobId : JobId} {jobWorkers : List JobWorker}

/-- The file loses no job id. -/
lemma committed_le (hw : s.committed.Within s.db) (hm : Move fleet s e u) :
    s.committed.sequence ≤ u.committed.sequence := by
  rcases hm.writes with ⟨graceful,ts,-,-,hv⟩ | ⟨-,hv⟩
  · rw [hv]
    rcases s.reopened_cases graceful ts with h | h <;> rw [h,Db.sequence_abortLeftOver]
    exact hw.sequence
  · rw [hv]
    rcases s.commit_cases e with hc | hc <;> rw [hc]
    exact hw.sequence

namespace Lasting

lemma nil (h : jobId ≤ s.committed.sequence) : Lasting s jobId [] :=
  ⟨h,(fun _ _ _ hn => nomatch hn),fun hne => absurd rfl hne⟩

lemma agrees_step (h : Lasting s jobId jobWorkers) (hw : s.committed.Within s.db)
    (hm : Move fleet s e u) {n : ℕ} {worker : JobWorker} {row : JobWorkerRow}
    (hn : jobWorkers[n]? = some worker) (hrow : u.db.worker? jobId n = some row) :
    row.asked = JobWorker.asked worker := by
  rcases hm.writes with ⟨graceful,ts,-,hu,-⟩ | ⟨hu,-⟩
  · rw [hu] at hrow
    rcases s.reopened_cases graceful ts with hr | hr <;>
      rw [hr,Db.worker?_abortLeftOver] at hrow
    · exact h.agrees n worker row hn hrow
    · obtain ⟨row',hrow',ha⟩ := hw.stages _ _ _ hrow
      exact ha.symm.trans (h.agrees n worker row' hn hrow')
  · rw [hu] at hrow
    rcases s.write_cases e with hwr | ⟨st,hst,hwr⟩ <;> rw [hwr] at hrow
    · exact h.agrees n worker row hn hrow
    · rcases Statement.worker?_run hrow with ⟨row₀,hrow₀,rfl⟩ | ⟨-,ws,rfl,-⟩
      · exact (st.asked_stage row₀).trans (h.agrees n worker row₀ hn hrow₀)
      · -- Only the call that has drawn the id inserts its stages.
        obtain ⟨i,ts,op,rfl,hop,hst⟩ := State.statement_eq_some hst
        obtain ⟨request,rfl⟩ := Operation.of_insertWorkers hst
        have hne : jobWorkers ≠ [] := by
          rintro rfl
          cases hn
        exact absurd hop (h.complete hne i request)

lemma complete_step (h : Lasting s jobId jobWorkers) (hw : s.committed.Within s.db)
    (hm : Move fleet s e u) (hne : jobWorkers ≠ []) (i : ℕ) (request : JobRequest) :
    u.operations i ≠ some (.newJob request (.workers jobId)) := by
  intro hop
  rcases hm.operation_origin hop with ⟨hop,-⟩ | ⟨ts,op₀,o,rfl,hop₀,hp,hn⟩ | ⟨hs,-⟩
  · exact h.complete hne i request hop
  · rcases hp.next_newJob hn with ⟨t,rfl,hpc⟩ | ⟨j,-,hpc,-⟩ | ⟨j,-,hpc,-⟩ <;> cases hpc
    exact absurd (h.drawn.trans hw.sequence) (Nat.not_succ_le_self _)
  · cases hs

/-- The clock has no part in it. -/
lemma setClock (h : Lasting s jobId jobWorkers) (ts : TimeStamp) :
    Lasting { s with clock := ts } jobId jobWorkers :=
  ⟨h.drawn,h.agrees,h.complete⟩

theorem step (h : Lasting s jobId jobWorkers) (hw : s.committed.Within s.db)
    (hm : Move fleet s e u) : Lasting u jobId jobWorkers where
  drawn := h.drawn.trans (committed_le hw hm)
  agrees _ _ _ hn hrow := h.agrees_step hw hm hn hrow
  complete := h.complete_step hw hm

/-- What is read of a job whose id is in the file. -/
lemma selectWorkers (h : jobId ≤ s.committed.sequence) (hs : Staged s) :
    Lasting s jobId (s.db.selectWorkers jobId) where
  drawn := h
  agrees := by
    intro n worker row hn hrow
    rw [Db.getElem?_selectWorkers hs.contiguous,hrow] at hn
    cases hn
    rfl
  complete := by
    intro hne i request hop
    exact (Db.lists_selectWorkers hs.contiguous jobId).staged hne
      (hs.unstaged i request jobId hop)

end Lasting
end Lasting

/-- A focus that has taken its job has its id in the database, and after its commit in the file. -/
def FocusPc.Lasting (s : State) (jobId : JobId) : FocusPc → Prop
  | .commit .focused => jobId ≤ s.db.sequence
  | .read .focused g => KScheduler.Lasting s jobId (g.listing.getD [])
  | .reply ⟨.focused,jobContext⟩ => KScheduler.Lasting s jobId jobContext.jobWorkers
  | _ => True

/-- The operations and the workers carry stages that stay. -/
structure Grounded (s : State) : Prop where
  focus : ∀ i call pc, s.operations i = some (.focus call pc) → pc.Lasting s call.argument.jobId
  running : ∀ w jobId jobContext, s.handling w = some ⟨jobId,.running jobContext⟩ →
    Lasting s jobId jobContext.jobWorkers

namespace Grounded
variable {fleet : Fleet} {s u : State} {e : Event}

/-- What an operation carries stays while other events happen. -/
lemma lasting_of_kept {jobId : JobId} {pc : FocusPc} (h : pc.Lasting s jobId)
    (hw : s.committed.Within s.db) (hm : Move fleet s e u)
    (hr : ∀ graceful ts, e ≠ .restartScheduler graceful ts) : pc.Lasting u jobId := by
  match pc,h with
  | .write _,_ | .commit .rejected,_ | .read .rejected _,_ | .reply ⟨.rejected,_⟩,_ => trivial
  | .commit .focused,h =>
    refine Nat.le_trans (m := s.db.sequence) h ?_
    rw [(hm.writes_of_ne hr).1]
    exact Staged.sequence_le_write
  | .read .focused g,h => exact KScheduler.Lasting.step h hw hm
  | .reply ⟨.focused,jobContext⟩,h => exact KScheduler.Lasting.step h hw hm

lemma lasting_of_more {jobId : JobId} {g g' : GetJob}
    (h : Lasting s jobId (g.listing.getD [])) (hs : Staged s)
    (reads : g.step s.db jobId = .more g') : Lasting s jobId (g'.listing.getD []) := by
  cases hl : g'.listing with
  | none => exact .nil h.drawn
  | some ws =>
    obtain rfl := GetJob.listing_of_more reads hl
    exact .selectWorkers h.drawn hs

lemma lasting_of_piece (hs : Staged s) (hw : s.committed.Within s.db) {i : ℕ} {ts : TimeStamp}
    {call : FocusCall} {pc pc' : FocusPc} {o : Outcome Operation}
    (hm : Move fleet s (.advance i ts) u) (hop : s.operations i = some (.focus call pc))
    (h : pc.Lasting s call.argument.jobId) (hp : Piece ts s.db (.focus call pc) o)
    (hn : o.next? = some (.focus call pc')) : pc'.Lasting u call.argument.jobId := by
  cases hp with
  | focusTaken present focusable =>
    cases hn
    change _ ≤ u.db.sequence
    rw [hm.db_advance hop]
    exact (Db.digest?_le present).trans (Statement.sequence_le_run _ s.db)
  | focusRefused =>
    cases hn
    trivial
  | @focusCommit _ status =>
    cases hn
    cases status with
    | focused =>
      refine .nil ?_
      rw [(hm.writes_of_ne fun _ _ => nofun).2]
      simp only [State.commit,State.advancing,hop,Option.any_some,Operation.commits,if_true]
      exact h
    | rejected => trivial
  | @focusRead _ status g g' reads =>
    cases hn
    cases status with
    | focused => exact (lasting_of_more h hs reads).step hw hm
    | rejected => trivial
  | @focusReceipt _ status g jobContext reads =>
    cases hn
    cases status with
    | focused =>
      refine KScheduler.Lasting.step ?_ hw hm
      have hl := GetJob.listing_of_done reads
      simpa [FocusPc.Lasting,hl] using h
    | rejected => trivial
  | _ => cases hn

lemma focus_step (hi : Grounded s) (hs : Staged s) (hw : s.committed.Within s.db)
    (hm : Move fleet s e u) {i : ℕ} {call : FocusCall} {pc : FocusPc}
    (hop : u.operations i = some (.focus call pc)) : pc.Lasting u call.argument.jobId := by
  rcases hm.operation_origin hop with ⟨hop₀,-⟩ | ⟨ts,op₀,o,rfl,hop₀,hp,hn⟩ | ⟨hst,-⟩
  · refine lasting_of_kept (hi.focus i call pc hop₀) hw hm ?_
    rintro graceful ts rfl
    cases hm
    cases hop
  · obtain ⟨pc₀,rfl⟩ := hp.of_next_focus hn
    exact lasting_of_piece hs hw hm hop₀ (hi.focus i call pc₀ hop₀) hp hn
  · cases hst
    trivial

lemma running_step (hi : Grounded s) (hwi : Wired fleet s) (hw : s.committed.Within s.db)
    (hm : Move fleet s e u) {w : ℕ} {jobId : JobId} {jobContext : JobContext}
    (h : u.handling w = some ⟨jobId,.running jobContext⟩) :
    Lasting u jobId jobContext.jobWorkers := by
  have ho := hm.handling_origin h
  generalize hh : (⟨jobId,.running jobContext⟩ : Handling) = hd at ho
  cases ho with
  | kept before other =>
    subst hh
    exact (hi.running w jobId jobContext before).step hw hm
  | @focused i ts call receipt jobId' running status caller before =>
    cases hh
    subst caller
    have hj := (hwi.focusing _ _ _ before).2 call (.inr (.inr ⟨i,_,running⟩)) rfl rfl
    obtain ⟨st,jobContext⟩ := receipt
    subst status
    exact KScheduler.Lasting.step (hj ▸ hi.focus i call _ running) hw hm
  | delivered | requested | reported => cases hh

end Grounded

theorem grounded {fleet : Fleet} {C : State → Event → Prop} {s : State}
    (h : (system fleet).ReachableBy C s) : Grounded s := by
  refine h.invariant ?_ ?_
  · rintro s rfl
    exact ⟨fun _ _ _ => nofun,fun _ _ _ => nofun⟩
  · intro s e s' hs hi _ hstep
    obtain ⟨u,hm,rfl⟩ := Move.of_step hstep
    have hu : Grounded u :=
      ⟨fun _ _ _ hop => hi.focus_step (staged hs) (within hs) hm hop,
        fun _ _ _ h => hi.running_step (wired hs) (within hs) hm h⟩
    refine ⟨?_,fun w jobId jobContext h => (hu.running w jobId jobContext h).setClock _⟩
    intro i call pc hop
    have h := hu.focus i call pc hop
    match pc,h with
    | .write _,_ | .commit .rejected,_ | .read .rejected _,_ | .reply ⟨.rejected,_⟩,_ => trivial
    | .commit .focused,h => exact h
    | .read .focused g,h => exact KScheduler.Lasting.setClock h _
    | .reply ⟨.focused,jobContext⟩,h => exact KScheduler.Lasting.setClock h _

/-! ## The results -/

/-- Every update request and every stored result was sent by a worker. -/
structure Provenance (tr : List (State × Event)) (s : State) : Prop where
  calls : ∀ call, s.UpdateInFlight call →
    Sent tr call.argument.jobId call.argument.workerIndex call.argument.deliverable
  db : s.db.SentResults tr
  file : s.committed.SentResults tr

theorem Provenance.step {fleet : Fleet} {tr : List (State × Event)} {s u : State} {e : Event}
    (hi : Provenance tr s) (hm : Move fleet s e u) : Provenance ((s,e) :: tr) u := by
  have htables : u.db.SentResults tr ∧ u.committed.SentResults tr := by
    refine State.kept_of_move (P := fun db => db.SentResults tr) hm hi.db hi.file ?_
      fun _ _ h => h
    intro st hst
    refine hi.db.run ?_
    rintro j k result rfl
    obtain ⟨i,ts,op,rfl,hop,hst⟩ := State.statement_eq_some hst
    obtain ⟨call,t,rfl,rfl,rfl,rfl⟩ := Operation.of_writeResult hst
    exact hi.calls call (.inr (.inr ⟨i,_,hop⟩))
  refine ⟨?_,htables.1.mono,htables.2.mono⟩
  intro call h
  rcases hm.updateInFlight_origin h with h | ⟨w,result,jobId,jobContext,rfl,hw,rfl⟩
  · exact (hi.calls call h).mono
  · exact ⟨s,w,jobContext,List.mem_cons_self,hw,rfl⟩

theorem provenance {fleet : Fleet} {C : State → Event → Prop} {tr : List (State × Event)}
    {s : State} (h : (system fleet).Run C tr s) : Provenance tr s := by
  refine h.invariant ?_ ?_
  · rintro s rfl
    have hempty : Db.empty.SentResults [] := fun _ _ _ _ hrow => nomatch hrow
    refine ⟨?_,hempty,hempty⟩
    rintro call (h | ⟨i,h⟩ | ⟨i,pc,h⟩) <;> cases h
  · intro tr s e s' _ hi _ hstep
    obtain ⟨u,hm,rfl⟩ := Move.of_step hstep
    have hu := hi.step hm
    exact ⟨hu.calls,hu.db,hu.file⟩

/-- The stages of a context in which a worker ran once last from then on. -/
lemma lasting_of_run {fleet : Fleet} {C : State → Event → Prop} {tr : List (State × Event)}
    {s s₀ : State} {e : Event} (h : (system fleet).Run C tr s) (hmem : (s₀,e) ∈ tr) {w : ℕ}
    {jobId : JobId} {jobContext : JobContext}
    (hw : s₀.handling w = some ⟨jobId,.running jobContext⟩) :
    Lasting s jobId jobContext.jobWorkers := by
  have hkeeps : (system fleet).Reachable s ∧ Lasting s jobId jobContext.jobWorkers := by
    obtain ⟨tr₀,h₀⟩ := h.before hmem
    have hr₀ : (system fleet).Reachable s₀ := ⟨tr₀,h₀.mono fun _ _ _ => trivial⟩
    refine h.keeps (P := fun s => (system fleet).Reachable s ∧
      Lasting s jobId jobContext.jobWorkers) ?_ hmem ⟨hr₀,(grounded hr₀).running w _ _ hw⟩
    rintro s e s' hstep ⟨hr,hset⟩
    obtain ⟨u,hm,rfl⟩ := Move.of_step hstep
    exact ⟨hr.next trivial hstep,(hset.step (within hr) hm).setClock _⟩
  exact hkeeps.2

/-- A worker reports on a stage that its context has. -/
lemma stage_of_report {fleet : Fleet} {s s' : State} {w : ℕ} {result : JobResult} {jobId : JobId}
    {jobContext : JobContext} (h : (system fleet).step s (.report w result) = some s')
    (hw : s.handling w = some ⟨jobId,.running jobContext⟩) :
    ∃ worker, pyIndex jobContext.jobWorkers jobContext.currentWorker = some worker := by
  obtain ⟨u,hu,-⟩ := Option.map_eq_some_iff.mp h
  change (s.workers w).handling = _ at hw
  simp only [State.effect,hw] at hu
  split at hu
  · next hs => exact Option.isSome_iff_exists.mp hs
  · cases hu

/-- A stored result was reported by a worker that ran this stage of the job, on the type and the
argument that are stored with it. -/
theorem result_of_own_stage {fleet : Fleet} {C : State → Event → Prop} {tr : List (State × Event)}
    {s : State} (h : (system fleet).Run C tr s) {jobId : JobId} {k : ℤ} {row : JobWorkerRow}
    {result : JobResult} (hrow : s.db.worker? jobId k = some row)
    (hres : row.workerResult = some result) :
    ∃ s₀ w jobContext worker, (s₀,.report w result) ∈ tr ∧
      s₀.handling w = some ⟨jobId,.running jobContext⟩ ∧ jobContext.currentWorker = k ∧
      pyIndex jobContext.jobWorkers k = some worker ∧ JobWorker.asked worker = row.asked := by
  obtain ⟨s₀,w,jobContext,hmem,hw,rfl⟩ := (provenance h).db jobId k row result hrow hres
  obtain ⟨s₁,htaken⟩ := h.taken hmem
  obtain ⟨worker,hworker⟩ := stage_of_report htaken hw
  refine ⟨s₀,w,jobContext,worker,hmem,hw,rfl,hworker,?_⟩
  have hpos := ((staged ⟨tr,h⟩).contiguous jobId _ row hrow).1
  rw [pyIndex,if_pos hpos] at hworker
  rw [← Int.toNat_of_nonneg hpos] at hrow
  exact ((lasting_of_run h hmem hw).agrees _ worker row hworker hrow).symm

/-- The first builder runs a job and its result is stored. -/
def firstBuilderReports : List Event :=
  firstBuilderRuns ++ [.report 0 (successOf "kbuilder")] ++ Event.serveUpdate 0 6 firstUpdate 3

theorem result_of_own_stage_first_builder : ∃ tr s row s₀ w jobContext worker,
    (system builders).Run (fun _ _ => True) tr s ∧ s.db.worker? 1 0 = some row ∧
      (s₀,.report w (successOf "kbuilder")) ∈ tr ∧
      s₀.handling w = some ⟨1,.running jobContext⟩ ∧ jobContext.currentWorker = 0 ∧
      pyIndex jobContext.jobWorkers 0 = some worker ∧ JobWorker.asked worker = row.asked := by
  obtain ⟨tr,s,hr,hp⟩ := Machine.exists_run_of_replay (system builders) (fun _ _ => True)
    firstBuilderReports (fun _ s => (s.db.worker? 1 0).any fun row =>
      row.workerResult = some (successOf "kbuilder")) rfl (by decide)
  obtain ⟨row,hrow,hres⟩ := (Option.any_eq_true ..).mp hp
  obtain ⟨s₀,w,jobContext,worker,hown⟩ := result_of_own_stage hr hrow (of_decide_eq_true hres)
  exact ⟨tr,s,row,s₀,w,jobContext,worker,hr,hrow,hown⟩

end LiveKBench.KScheduler
