import LiveKBench.KScheduler.Responsibility
import LiveKBench.KScheduler.WaitingJobs
import LiveKBench.KScheduler.StageResults

/-! The types of the stages that workers get. A dispatch message names the job and not the stage, so
the worker that takes it gets whatever stage the job is at when its focus takes effect. Its type is
that of the worker as long as no message, and no request that comes of one, is left behind when the
job is moved to a stage of another type. -/
namespace LiveKBench.KScheduler
open KCore Lib Backend

/-- The type of `jobWorkers[i]` of the job as it is stored. -/
def Db.stageType (db : Db) (jobId : JobId) (i : ℤ) : Option String :=
  (pyIndex (db.selectWorkers jobId) i).map (·.workerType)

/-- If the job waits, it waits for a worker of the type. -/
def Db.Fits (db : Db) (jobId : JobId) (workerType : String) : Prop :=
  ∀ d ∈ db.digest? jobId, d.Waits → db.stageType jobId d.currentWorker = some workerType

instance (db : Db) (jobId : JobId) (workerType : String) : Decidable (db.Fits jobId workerType) :=
  inferInstanceAs (Decidable (∀ d ∈ db.digest? jobId, _))

/-- The focus has taken effect, and the digest has not been read yet. -/
def FocusPc.unread : FocusPc → Bool
  | .commit .focused => true
  | .read .focused .digest => true
  | _ => false

/-- A dispatch that may still make a worker of the type focus the job: a queued message, a worker
that has one, or a focus request that is waiting or about to be executed. -/
inductive State.Outstanding (fleet : Fleet) (s : State) : JobId → String → Prop
  | queued {m} (ready : m ∈ s.dispatches.ready) : s.Outstanding fleet m.jobId m.workerType
  | received {w jobId} (handles : s.handling w = some ⟨jobId,.received⟩) :
      s.Outstanding fleet jobId (fleet w).workerType
  | requested {call} (ready : call ∈ s.focusCalls.ready) (awaits : s.awaits call = true) :
      s.Outstanding fleet call.argument.jobId (fleet call.caller).workerType
  | writing {i call ts} (handles : s.operations i = some (.focus call (.write ts)))
      (awaits : s.awaits call = true) :
      s.Outstanding fleet call.argument.jobId (fleet call.caller).workerType

/-- A worker of the type has focused the job and will be shown the stage that the job is at by
then. -/
inductive State.Unread (fleet : Fleet) (s : State) : JobId → String → Prop
  | intro {i call pc} (handles : s.operations i = some (.focus call pc))
      (unread : pc.unread = true) (awaits : s.awaits call = true) :
      s.Unread fleet call.argument.jobId (fleet call.caller).workerType

/-- A dispatch that the event puts into a queue: a message that is published or given back, or a
focus request that is given back while its worker waits. -/
inductive Added (fleet : Fleet) (s : State) : Event → JobId → String → Prop
  | published {i ts op m next} (runs : s.operations i = some op)
      (piece : Piece ts s.db op (.publish (.dispatch m) next)) :
      Added fleet s (.advance i ts) m.jobId m.workerType
  | returned {w rejected m e} (delivered : ((w,rejected),m) ∈ s.dispatches.unacked)
      (back : e = .raise w ∨ e = .reject w ∨ e = .disconnect w) :
      Added fleet s e m.jobId m.workerType
  | requeued {i call e} (delivered : (i,call) ∈ s.focusCalls.unacked)
      (awaits : s.awaits call = true) (back : e = .fail i ∨ e = .redeliverFocus i) :
      Added fleet s e call.argument.jobId (fleet call.caller).workerType

/-- The stage to which a statement moves the job. -/
def Statement.moves (st : Statement) (d : JobDigest) : Option ℤ :=
  match st with
  | .restart jobId target ts => if Db.Restartable jobId ts d then some target else none
  | .release request ts =>
    if Db.Releasable request ts d ∧ (updatePlan request).nextAvailable = true then
      some (updatePlan request).nextWorkerIndex
    else none
  | _ => none

/-- A dispatch is put into a queue only if the job does not wait for another type, a job is moved
to a stage only if that has the type of every dispatch of the job that is left, and a new job has
an id for which none is left. -/
structure KeepsTypes (fleet : Fleet) (s : State) (e : Event) : Prop where
  added : ∀ jobId workerType, Added fleet s e jobId workerType → s.db.Fits jobId workerType
  moved : ∀ st jobId d k workerType, s.statement e = some st → s.db.digest? jobId = some d →
    st.moves d = some k →
      s.Outstanding fleet jobId workerType ∨ s.Unread fleet jobId workerType →
        s.db.stageType jobId k = some workerType
  drawn : ∀ ts workerType, s.statement e = some (.insertDigest ts) →
    ¬(s.Outstanding fleet (s.db.sequence+1) workerType ∨
      s.Unread fleet (s.db.sequence+1) workerType)

/-- What the operation has read for its worker shows a stage of the type. -/
def FocusPc.Shows (db : Db) (jobId : JobId) (workerType : String) : FocusPc → Prop
  | .read .focused (.workers d) => db.stageType jobId d.currentWorker = some workerType
  | .read .focused (.tags d jobWorkers) =>
    (pyIndex jobWorkers d.currentWorker).map (·.workerType) = some workerType
  | .reply ⟨.focused,jobContext⟩ =>
    (pyIndex jobContext.jobWorkers jobContext.currentWorker).map (·.workerType) = some workerType
  | _ => True

/-! ## The stages do not change their types -/

section Stages
variable {s : State} {e : Event} {jobId : JobId}

lemma pyIndex_map {α β : Type*} (f : α → β) (xs : List α) (i : ℤ) :
    pyIndex (xs.map f) i = (pyIndex xs i).map f := by
  unfold pyIndex
  simp only [List.length_map,List.getElem?_map]
  split
  · rfl
  · split <;> rfl

lemma Db.not_unstaged_of_stageType {db : Db} (h : db.Contiguous) {i : ℤ} {workerType : String}
    (ht : db.stageType jobId i = some workerType) : ¬db.Unstaged jobId := by
  intro hu
  have hnil : db.selectWorkers jobId = [] := by
    apply List.eq_nil_of_length_eq_zero
    by_contra hne
    have h0 := Db.getElem?_selectWorkers h jobId 0
    rw [hu _,List.getElem?_eq_getElem (by omega)] at h0
    cases h0
  simp [Db.stageType,hnil,pyIndex] at ht

lemma workerTypes_write (hi : Staged s) (hu : ¬s.db.Unstaged jobId) :
    ((s.write e).selectWorkers jobId).map (·.workerType) =
      (s.db.selectWorkers jobId).map (·.workerType) := by
  apply List.ext_getElem?
  intro n
  rw [List.getElem?_map,List.getElem?_map,Db.getElem?_selectWorkers hi.contiguous_write,
    Db.getElem?_selectWorkers hi.contiguous]
  cases hw : s.db.worker? jobId n with
  | none => rw [hi.worker?_write_eq_none hu hw]
  | some row =>
    obtain ⟨row',hrow',ht⟩ := Staged.worker?_write_isSome (e := e) hw
    rw [hrow']
    exact congrArg some ht

/-- A stage that is there stays there, with its type. -/
lemma stageType_write (hi : Staged s) {i : ℤ} {workerType : String}
    (h : s.db.stageType jobId i = some workerType) :
    (s.write e).stageType jobId i = some workerType := by
  have hu := Db.not_unstaged_of_stageType hi.contiguous h
  unfold Db.stageType at h ⊢
  rw [← pyIndex_map] at h ⊢
  rwa [workerTypes_write hi hu]

end Stages

/-! ## Where an outstanding dispatch comes from -/

section Step
variable {fleet : Fleet} {s u : State} {e : Event} {jobId : JobId} {workerType : String}

lemma State.awaits_iff {call : FocusCall} : s.awaits call = true ↔
    ∃ jobId, s.handling call.caller = some ⟨jobId,.focusing call.correlationId⟩ := by
  unfold State.awaits
  split
  · next j c hh =>
    constructor
    · intro hc
      exact ⟨j,by rw [hh,of_decide_eq_true hc]⟩
    · rintro ⟨j',hj⟩
      cases hh.symm.trans hj
      exact decide_eq_true rfl
  · next hne =>
    constructor
    · intro hc
      cases hc
    · rintro ⟨j,hj⟩
      exact (hne j call.correlationId hj).elim

/-- A worker waits for the receipt of a request in flight since it sent it. -/
lemma awaits_origin (hw : Wired fleet s) (hm : Move fleet s e u) {call : FocusCall}
    (hin : s.FocusInFlight call) (h : u.awaits call = true) : s.awaits call = true := by
  obtain ⟨jobId,hu⟩ := State.awaits_iff.mp h
  have ho := hm.handling_origin hu
  generalize hh : (⟨jobId,.focusing call.correlationId⟩ : Handling) = hd at ho
  cases ho with
  | kept before =>
    subst hh
    exact State.awaits_iff.mpr ⟨jobId,before⟩
  | requested before =>
    have hlt := hw.focusCorrelation call hin
    obtain ⟨-,hc⟩ := Handling.mk.inj hh
    exact absurd (DispatchPc.focusing.inj hc) (by omega)
  | delivered | focused | reported => cases hh

/-- An outstanding dispatch was outstanding before, or has been put into a queue, or no job is left
for it. -/
theorem outstanding_origin (hw : Wired fleet s) (hm : Move fleet s e u)
    (hr : ∀ graceful ts, e ≠ .restartScheduler graceful ts)
    (h : u.Outstanding fleet jobId workerType) :
    s.Outstanding fleet jobId workerType ∨ Added fleet s e jobId workerType ∨
      s.db.digest? jobId = none ∧ s.write e = s.db := by
  cases h with
  | queued ready =>
    rcases hm.dispatchReady_origin ready with h | ⟨i,ts,op,next,rfl,hop,hp⟩ | ⟨w,b,hd,hback⟩
    · exact .inl (.queued h)
    · exact .inr (.inl (.published hop hp))
    · exact .inr (.inl (.returned hd hback))
  | @received w jobId handles =>
    have ho := hm.handling_origin handles
    generalize hh : (⟨jobId,.received⟩ : Handling) = hd at ho
    cases ho with
    | kept before =>
      subst hh
      exact .inl (.received before)
    | delivered ready consumes =>
      cases hh
      exact .inl (consumes.1 ▸ .queued ready)
    | requested | focused | reported => cases hh
  | @requested call ready awaits =>
    rcases hm.focusReady_origin ready with h | ⟨i,hd,hback⟩ | ⟨w,j,rfl,hj,rfl⟩
    · exact .inl (.requested h (awaits_origin hw hm (.inl h) awaits))
    · have ha := awaits_origin hw hm (.inr (.inl ⟨i,hd⟩)) awaits
      rcases hback with ⟨ts,call',status,rfl,hop,hnone⟩ | rfl | rfl | ⟨graceful,ts,rfl⟩
      · obtain ⟨pc,hop'⟩ := hw.focusUnacked i call hd
        cases hop.symm.trans hop'
        exact .inr (.inr ⟨hnone,State.write_advance hop⟩)
      · exact .inr (.inl (.requeued hd ha (.inl rfl)))
      · exact .inr (.inl (.requeued hd ha (.inr rfl)))
      · exact absurd rfl (hr graceful ts)
    · exact .inl (.received hj)
  | @writing i call ts handles awaits =>
    rcases hm.operation_origin handles with ⟨hop,-⟩ | ⟨ts',op₀,o,rfl,hop₀,hp,hn⟩ | ⟨hs,-⟩
    · exact .inl (.writing hop (awaits_origin hw hm (.inr (.inr ⟨i,_,hop⟩)) awaits))
    · cases hp with
      | updateRelease => cases hn
      | _ => cases hn
    · cases hs
      cases hm with
      | handleFocus free ready =>
        exact .inl (.requested ready (awaits_origin hw (.handleFocus free ready) (.inl ready)
          awaits))

/-- Putting a dispatch into a queue writes nothing. -/
lemma Added.write_eq (h : Added fleet s e jobId workerType) : s.write e = s.db := by
  cases h with
  | published runs piece => exact (State.write_advance runs).trans piece.db_eq.symm
  | returned delivered back => rcases back with rfl | rfl | rfl <;> rfl
  | requeued delivered awaits back => rcases back with rfl | rfl <;> rfl

/-! ## The statements -/

lemma row_moves {st : Statement} {d : JobDigest} (h : (st.row d).Waits) :
    st.row d = d ∨ st.moves d = some (st.row d).currentWorker := by
  rcases row_waits h with hrow | ⟨j,target,ts,rfl,hr⟩ | ⟨request,ts,rfl,hr,ha⟩
  · exact .inl hrow
  · right
    simp [Statement.moves,Statement.row,hr,Db.restartRow]
  · right
    simp [Statement.moves,Statement.row,hr,ha,Db.releaseRow]

/-- A digest keeps its stage unless the statement moves the job. -/
lemma row_currentWorker (st : Statement) (d : JobDigest) :
    (st.row d).currentWorker = d.currentWorker ∨
      st.moves d = some (st.row d).currentWorker := by
  rcases st.row_cases d with hrow | hc
  · exact .inl (congrArg JobDigest.currentWorker hrow)
  · generalize st.row d = d' at hc
    cases hc with
    | focus | finish | abort => exact .inl rfl
    | restart takes => exact .inr (if_pos takes)
    | @release request ts takes =>
      rcases updatePlan_cases request with ⟨-,hp⟩ | ⟨-,-,hp⟩ | ⟨-,-,hp⟩
      · exact .inr (by simp [Statement.moves,takes,hp,Db.releaseRow])
      · exact .inr (by simp [Statement.moves,takes,hp,Db.releaseRow])
      · -- A failure leaves the job at its stage.
        left
        rw [hp]
        exact takes.2.2.2.1.symm

lemma fits_write (hi : Staged s) (hc : KeepsTypes fleet s e) (hf : s.db.Fits jobId workerType)
    (ho : s.Outstanding fleet jobId workerType) : (s.write e).Fits jobId workerType := by
  intro d hd hwait
  rcases s.write_cases e with hw | ⟨st,hst,hw⟩
  · rw [hw] at hd ⊢
    exact hf d hd hwait
  · have hrun := hd
    rw [hw] at hrun
    rcases Statement.digest?_run hrun with ⟨d₀,hd₀,rfl⟩ | ⟨ts,rfl,rfl,-⟩
    · rcases row_moves hwait with hrow | hmove
      · rw [hrow] at hwait ⊢
        exact stageType_write hi (hf d₀ hd₀ hwait)
      · exact stageType_write hi (hc.moved st jobId d₀ _ workerType hst hd₀ hmove (.inl ho))
    · exact absurd (.inl ho) (hc.drawn ts workerType hst)

/-- The stage that a digest is at has the type. -/
def Db.AtType (db : Db) (jobId : JobId) (workerType : String) : Prop :=
  ∀ d ∈ db.digest? jobId, db.stageType jobId d.currentWorker = some workerType

lemma atType_write (hi : Staged s) (hc : KeepsTypes fleet s e)
    (hf : s.db.AtType jobId workerType) (ho : s.Unread fleet jobId workerType) :
    (s.write e).AtType jobId workerType := by
  intro d hd
  rcases s.write_cases e with hw | ⟨st,hst,hw⟩
  · rw [hw] at hd ⊢
    exact hf d hd
  · have hrun := hd
    rw [hw] at hrun
    rcases Statement.digest?_run hrun with ⟨d₀,hd₀,rfl⟩ | ⟨ts,rfl,rfl,-⟩
    · rcases row_currentWorker st d₀ with hrow | hmove
      · rw [hrow]
        exact stageType_write hi (hf d₀ hd₀)
      · exact stageType_write hi (hc.moved st jobId d₀ _ workerType hst hd₀ hmove (.inr ho))
    · exact absurd (.inr ho) (hc.drawn ts workerType hst)

lemma shows_write (hi : Staged s) {pc : FocusPc} (h : pc.Shows s.db jobId workerType) :
    pc.Shows (s.write e) jobId workerType := by
  unfold FocusPc.Shows at h ⊢
  split at h
  · exact stageType_write hi h
  · exact h
  · exact h
  · trivial

/-- Every dispatch that can still lead to a focus, and every focus that has taken effect, is for a
stage of the worker's type. -/
structure TypeSafe (fleet : Fleet) (s : State) : Prop where
  outstanding : ∀ jobId workerType, s.Outstanding fleet jobId workerType →
    s.db.Fits jobId workerType
  unread : ∀ jobId workerType, s.Unread fleet jobId workerType → s.db.AtType jobId workerType
  shows : ∀ i call pc, s.operations i = some (.focus call pc) → s.awaits call = true →
    pc.Shows s.db call.argument.jobId (fleet call.caller).workerType
  running : ∀ w jobId jobContext, s.handling w = some ⟨jobId,.running jobContext⟩ →
    (pyIndex jobContext.jobWorkers jobContext.currentWorker).map (·.workerType) =
      some (fleet w).workerType

namespace TypeSafe

/-- In a new process no job waits. -/
lemma fits_reopened (graceful : Bool) (ts : TimeStamp) :
    (s.reopened graceful ts).Fits jobId workerType := by
  intro d hd hwait
  exact absurd (.inr hwait) (not_leftOver_abortLeftOver hd)

lemma outstanding_step (hi : TypeSafe fleet s) (hw : Wired fleet s) (hs : Staged s)
    (hc : KeepsTypes fleet s e) (hm : Move fleet s e u)
    (hdb : u.db = s.write e) (hr : ∀ graceful ts, e ≠ .restartScheduler graceful ts)
    (h : u.Outstanding fleet jobId workerType) : u.db.Fits jobId workerType := by
  rw [hdb]
  rcases outstanding_origin hw hm hr h with ho | ha | ⟨hnone,hwr⟩
  · exact fits_write hs hc (hi.outstanding jobId workerType ho) ho
  · rw [ha.write_eq]
    exact hc.added jobId workerType ha
  · rw [hwr]
    intro d hd
    cases hnone.symm.trans hd

lemma unread_step (hi : TypeSafe fleet s) (hw : Wired fleet s) (hs : Staged s)
    (hc : KeepsTypes fleet s e) (hm : Move fleet s e u) (hdb : u.db = s.write e)
    (h : u.Unread fleet jobId workerType) : u.db.AtType jobId workerType := by
  rw [hdb]
  cases h with
  | @intro i call pc handles unread awaits =>
    rcases hm.operation_origin handles with ⟨hop,-⟩ | ⟨ts,op₀,o,rfl,hop₀,hp,hn⟩ | ⟨hst,-⟩
    · have hu := @State.Unread.intro fleet _ _ _ _ hop unread
        (awaits_origin hw hm (.inr (.inr ⟨i,pc,hop⟩)) awaits)
      exact atType_write hs hc (hi.unread _ _ hu) hu
    · obtain ⟨pc₀,rfl⟩ := hp.of_next_focus hn
      have ha := awaits_origin hw hm (.inr (.inr ⟨i,pc₀,hop₀⟩)) awaits
      cases hp with
      | @focusTaken _ t d present focusable =>
        -- The stage that the job was waiting at has the type.
        intro d' hd'
        rw [State.write_advance hop₀] at hd'
        have hfit := hi.outstanding _ _ (.writing hop₀ ha) d present focusable.2.2.1.symm
        have hrow := @Statement.digest?_run_of_some
          (.focus call.argument.jobId call.argument.workerHostname t) _ _ _ present
        obtain rfl := Option.some.inj (hrow.symm.trans hd')
        rw [Statement.row,if_pos focusable]
        exact stageType_write hs hfit
      | focusRefused =>
        cases hn
        cases unread
      | @focusCommit _ status =>
        cases hn
        cases status with
        | rejected => cases unread
        | focused =>
          have hu := @State.Unread.intro fleet _ _ _ _ hop₀ rfl ha
          exact atType_write hs hc (hi.unread _ _ hu) hu
      | @focusRead _ status g g' reads =>
        cases hn
        cases g with
        | digest =>
          simp only [GetJob.step] at reads
          split at reads <;> cases reads
          cases status <;> cases unread
        | workers d =>
          cases reads
          cases status <;> cases unread
        | tags d ws => cases reads
      | focusReceipt =>
        cases hn
        cases unread
      | _ => cases hn
    · cases hst
      cases unread

lemma shows_step (hi : TypeSafe fleet s) (hw : Wired fleet s) (hs : Staged s)
    (hm : Move fleet s e u) (hdb : u.db = s.write e) {i : ℕ} {call : FocusCall} {pc : FocusPc}
    (handles : u.operations i = some (.focus call pc)) (awaits : u.awaits call = true) :
    pc.Shows u.db call.argument.jobId (fleet call.caller).workerType := by
  rw [hdb]
  rcases hm.operation_origin handles with ⟨hop,-⟩ | ⟨ts,op₀,o,rfl,hop₀,hp,hn⟩ | ⟨hst,-⟩
  · exact shows_write hs (hi.shows i call pc hop
      (awaits_origin hw hm (.inr (.inr ⟨i,pc,hop⟩)) awaits))
  · obtain ⟨pc₀,rfl⟩ := hp.of_next_focus hn
    have ha := awaits_origin hw hm (.inr (.inr ⟨i,pc₀,hop₀⟩)) awaits
    have hshows := hi.shows i call pc₀ hop₀ ha
    cases hp with
    | @focusRead _ status g g' reads =>
      cases hn
      cases status with
      | rejected => cases g' <;> trivial
      | focused =>
        cases g with
        | digest =>
          simp only [GetJob.step] at reads
          split at reads <;> cases reads
          next d hd =>
          have hat := hi.unread _ _ (.intro hop₀ rfl ha) d hd
          exact stageType_write (e := .advance i ts) hs hat
        | workers d =>
          cases reads
          exact hshows
        | tags d ws => cases reads
    | @focusReceipt _ status g jobContext reads =>
      cases hn
      cases status with
      | rejected => trivial
      | focused =>
        cases g with
        | digest =>
          simp only [GetJob.step] at reads
          split at reads <;> cases reads
        | workers d => cases reads
        | tags d ws =>
          cases reads
          exact hshows
    | focusTaken | focusRefused =>
      cases hn
      trivial
    | @focusCommit _ status =>
      cases hn
      cases status <;> trivial
    | _ => cases hn
  · cases hst
    trivial

lemma running_step (hi : TypeSafe fleet s) (hm : Move fleet s e u) {w : ℕ} {jobId : JobId}
    {jobContext : JobContext} (handles : u.handling w = some ⟨jobId,.running jobContext⟩) :
    (pyIndex jobContext.jobWorkers jobContext.currentWorker).map (·.workerType) =
      some (fleet w).workerType := by
  have ho := hm.handling_origin handles
  generalize hh : (⟨jobId,.running jobContext⟩ : Handling) = hd at ho
  cases ho with
  | kept before =>
    subst hh
    exact hi.running w jobId jobContext before
  | @focused i ts call receipt j running status caller before =>
    cases hh
    subst caller
    have hshows := hi.shows i call _ running (State.awaits_iff.mpr ⟨jobId,before⟩)
    obtain ⟨st,ctx⟩ := receipt
    cases status
    exact hshows
  | delivered | requested | reported => cases hh

theorem step (hi : TypeSafe fleet s) (hw : Wired fleet s) (hs : Staged s)
    (hc : KeepsTypes fleet s e) (hm : Move fleet s e u) : TypeSafe fleet u := by
  have hrunning : ∀ w jobId jobContext, u.handling w = some ⟨jobId,.running jobContext⟩ →
      (pyIndex jobContext.jobWorkers jobContext.currentWorker).map (·.workerType) =
        some (fleet w).workerType := fun w jobId jobContext h => hi.running_step hm h
  by_cases hr : ∃ graceful ts, e = .restartScheduler graceful ts
  · obtain ⟨graceful,ts,rfl⟩ := hr
    cases hm
    constructor
    · exact fun jobId workerType _ => fits_reopened graceful ts
    · rintro jobId workerType ⟨handles,-,-⟩
      cases handles
    · exact fun i call pc handles => nomatch handles
    · exact hrunning
  · have hr : ∀ graceful ts, e ≠ .restartScheduler graceful ts :=
      fun graceful ts he => hr ⟨graceful,ts,he⟩
    have hdb := (hm.writes_of_ne hr).1
    constructor
    · exact fun jobId workerType h => hi.outstanding_step hw hs hc hm hdb hr h
    · exact fun jobId workerType h => hi.unread_step hw hs hc hm hdb h
    · exact fun i call pc handles awaits => hi.shows_step hw hs hm hdb handles awaits
    · exact hrunning

end TypeSafe
end Step

theorem typeSafe {fleet : Fleet} {s : State}
    (h : (system fleet).ReachableBy (KeepsTypes fleet) s) : TypeSafe fleet s := by
  refine h.invariant ?_ ?_
  · rintro s rfl
    constructor
    · intro jobId workerType _ d hd
      cases hd
    · intro jobId workerType _ d hd
      cases hd
    · exact fun i call pc handles => nomatch handles
    · exact fun w jobId jobContext handles => nomatch handles
  · rintro s e s' hs hi hc hstep
    obtain ⟨u,hm,rfl⟩ := Move.of_step hstep
    have hu := hi.step (wired hs) (staged hs) hc hm
    constructor
    · intro jobId workerType h
      refine hu.outstanding jobId workerType ?_
      cases h with
      | queued ready => exact .queued ready
      | received handles => exact .received handles
      | requested ready awaits => exact .requested ready awaits
      | writing handles awaits => exact .writing handles awaits
    · rintro jobId workerType ⟨handles,unread,awaits⟩
      exact hu.unread _ _ (.intro handles unread awaits)
    · exact hu.shows
    · exact hu.running

/-- Where no dispatch for another type is left behind or put into a queue, the stage that a worker
gets with its focus exists and has the worker's type. -/
theorem focused_stage_has_type {fleet : Fleet} {s : State}
    (h : (system fleet).ReachableBy (KeepsTypes fleet) s) {w : ℕ} {jobId : JobId}
    {jobContext : JobContext} (runs : s.handling w = some ⟨jobId,.running jobContext⟩) :
    ∃ worker, pyIndex jobContext.jobWorkers jobContext.currentWorker = some worker ∧
      worker.workerType = (fleet w).workerType :=
  Option.map_eq_some_iff.mp ((typeSafe h).running w jobId jobContext runs)

/-- One worker and one operation at a time, with new jobs and focuses only. -/
def ServesOne (s : State) : Event → Prop
  | .newJob i _ _ => i = 0
  | .handleFocus i _ _ => i = 0
  | .deliver w _ => w = 0
  | .requestFocus w => w = 0
  | .advance i _ =>
    match s.operations i with
    | some (.newJob _ (.digest _)) =>
      i = 0 ∧ s.dispatches.ready = [] ∧ s.focusCalls.ready = [] ∧ s.handling 0 = none
    | some (.newJob request (.enqueue jobId)) =>
      ∀ argument ∈ request.jobWorkers[0]?, s.db.Fits jobId argument.workerType
    | some (.newJob _ _) => True
    | some (.focus _ _) => True
    | _ => False
  | _ => False

instance (s : State) : (e : Event) → Decidable (ServesOne s e)
  | .newJob i _ _ | .handleFocus i _ _ | .deliver i _ | .requestFocus i => instDecidableEqNat i 0
  | .advance i _ => by
    dsimp only [ServesOne]
    split <;> infer_instance
  | .abortJob _ _ | .restartJob _ _ _ | .handleUpdate _ _ _ | .fail _ | .loseReply _
  | .redeliverFocus _ | .redeliverUpdate _ | .restartScheduler _ _ | .bounce _ _ | .reject _
  | .report _ _ | .raise _ | .disconnect _ | .close _ | .answerAbort _ _ => instDecidableFalse

/-- A worker that no event is a step of handles nothing. -/
lemma handling_eq_none {fleet : Fleet} {C : State → Event → Prop} {n : ℕ} {s : State}
    (h : (system fleet).ReachableBy (fun s e => C s e ∧ ∀ w ∈ e.worker?, w < n) s) :
    ∀ w, n ≤ w → s.handling w = none := by
  refine h.invariant (I := fun s => ∀ w, n ≤ w → s.handling w = none) ?_ ?_
  · rintro s rfl w -
    rfl
  · rintro s e s' - hi hc hstep w hn
    obtain ⟨u,hm,rfl⟩ := Move.of_step hstep
    by_contra hh
    obtain ⟨h,hh⟩ := Option.ne_none_iff_exists'.mp hh
    cases hm.handling_origin hh with
    | kept before | requested before | focused _ _ _ before | reported before =>
      exact absurd ((hi w hn).symm.trans before) (by simp)
    | delivered =>
      have := hc.2 w rfl
      omega

/-- No dispatch is left where the queues are empty and no worker and no focus is at work. -/
lemma not_outstanding {fleet : Fleet} {s : State} {jobId : JobId} {workerType : String}
    (hready : s.dispatches.ready = []) (hcalls : s.focusCalls.ready = [])
    (hworkers : ∀ w, s.handling w = none)
    (hops : ∀ i call pc, s.operations i ≠ some (.focus call pc)) :
    ¬(s.Outstanding fleet jobId workerType ∨ s.Unread fleet jobId workerType) := by
  rintro (h | ⟨handles,-,-⟩)
  · cases h with
    | queued ready => simp [hready] at ready
    | received handles => exact absurd ((hworkers _).symm.trans handles) (by simp)
    | requested ready => simp [hcalls] at ready
    | writing handles => exact hops _ _ _ handles
  · exact hops _ _ _ handles

lemma keepsTypes_of_servesOne {fleet : Fleet} (s : State) (e : Event)
    (hs : (system fleet).ReachableBy ServesOne s) (hc : ServesOne s e) : KeepsTypes fleet s e := by
  have hops : ∀ i, 1 ≤ i → s.operations i = none := by
    refine operations_eq_none (C := ServesOne) (hs.mono fun s e hc => ⟨hc,?_⟩)
    intro k hk
    cases e <;> cases hk <;> first
      | exact hc ▸ Nat.one_pos
      | exact hc.elim
  have hworkers : ∀ w, 1 ≤ w → s.handling w = none := by
    refine handling_eq_none (C := ServesOne) (hs.mono fun s e hc => ⟨hc,?_⟩)
    intro w hw
    cases e <;> cases hw <;> first
      | exact hc ▸ Nat.one_pos
      | exact hc.elim
  constructor
  · intro jobId workerType ha
    cases ha with
    | published runs piece =>
      simp only [ServesOne,runs] at hc
      cases piece with
      | newJobPublish first => exact hc _ first
      | updatePublish | restartPublish => exact hc.elim
    | returned delivered back => rcases back with rfl | rfl | rfl <;> exact hc.elim
    | requeued delivered awaits back => rcases back with rfl | rfl <;> exact hc.elim
  · intro st jobId d k workerType hst hd hmove
    obtain ⟨i,ts,op,rfl,hop,hst⟩ := State.statement_eq_some hst
    simp only [ServesOne,hop] at hc
    unfold Operation.statement at hst
    split at hst <;> cases hst <;> first
      | cases hmove
      | exact hc.elim
  · intro ts workerType hst
    obtain ⟨i,ts',op,rfl,hop,hst⟩ := State.statement_eq_some hst
    unfold Operation.statement at hst
    split at hst <;> cases hst
    simp only [ServesOne,hop] at hc
    obtain ⟨rfl,hready,hcalls,hfirst⟩ := hc
    refine not_outstanding hready hcalls ?_ ?_
    · intro w
      cases w with
      | zero => exact hfirst
      | succ w => exact hworkers (w+1) (by omega)
    · intro i call pc h
      cases i with
      | zero => cases hop.symm.trans h
      | succ i => exact absurd ((hops (i+1) (by omega)).symm.trans h) (by simp)

theorem focused_stage_has_type_first_builder :
    ∃ s jobContext, (system builders).ReachableBy (KeepsTypes builders) s ∧
      s.handling 0 = some ⟨1,.running jobContext⟩ ∧
        ∃ worker, pyIndex jobContext.jobWorkers jobContext.currentWorker = some worker ∧
          worker.workerType = "kbuilder" := by
  obtain ⟨s,hs,hp⟩ := Machine.exists_of_replay (system builders) ServesOne firstBuilderRuns
    (fun s => s.Runs 0 1) rfl (by decide)
  have hr := hs.mono_of_reachable keepsTypes_of_servesOne
  cases State.holding_of_runs hp with
  | @running _ _ jobContext runs =>
    exact ⟨s,jobContext,hr,runs,focused_stage_has_type hr runs⟩

/-! ## A message that is left behind -/

/-- A job with a build and a run is aborted before a builder takes its message, and restarted from
its second stage. -/
def restartedPastMessage : List Event :=
  Event.serveNewJob 0 buildAndRunRequest 1 ++ Event.serveAbort 0 1 ++
  Event.serveRestart 0 1 1 2 ++ [.deliver 0 (buildDispatch 1)] ++
  Event.serveFocus 0 0 0 ⟨1,"builder-0"⟩ 3

/-- The stage that the worker runs is not of its type. -/
def State.RunsOther (fleet : Fleet) (s : State) (w : ℕ) : Bool :=
  match s.handling w with
  | some ⟨_,.running jobContext⟩ =>
    (pyIndex jobContext.jobWorkers jobContext.currentWorker).map (·.workerType) ≠
      some (fleet w).workerType
  | _ => false

/-- The builder runs the stage of the machine manager. -/
theorem left_message_starts_other_stage :
    ∃ s w jobId jobContext, (system builderAndManagers).Reachable s ∧
      s.handling w = some ⟨jobId,.running jobContext⟩ ∧
        ¬∃ worker, pyIndex jobContext.jobWorkers jobContext.currentWorker = some worker ∧
          worker.workerType = (builderAndManagers w).workerType := by
  obtain ⟨s,hs,hp⟩ := Machine.exists_of_replay (system builderAndManagers) (fun _ _ => True)
    restartedPastMessage (fun s => s.RunsOther builderAndManagers 0) rfl (by decide)
  unfold State.RunsOther at hp
  split at hp
  · next jobId jobContext hh =>
    refine ⟨s,0,jobId,jobContext,hs,hh,?_⟩
    rintro ⟨worker,hw,ht⟩
    exact of_decide_eq_true hp (by rw [hw,← ht]; rfl)
  · cases hp

end LiveKBench.KScheduler
