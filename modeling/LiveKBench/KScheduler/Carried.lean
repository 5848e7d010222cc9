import LiveKBench.KScheduler.Stages

/-! What the operations carry from one piece to the next: the stages that they have read, the
target that a restart has checked, and what an update knows of its result. -/
namespace LiveKBench.KScheduler
open KCore Lib Backend

/-! ## Facts about the operation alone -/

/-- What an update has found out about its result by the time it is at `pc`. -/
def UpdatePc.Sound (request : JobUpdateRequest) : UpdatePc → Prop
  | .unbound => request.deliverable.yielded = true
  | .result _ => request.deliverable.yielded = false
  | .release _ => request.deliverable.yielded = false
  | .nextType _ => request.deliverable.succeeded = true
  | .finish _ => request.deliverable.succeeded = true
  | .exclQueue _ _ => request.deliverable.succeeded = true
  | .commit _ (some m) => request.deliverable.succeeded = true ∧ m.jobId = request.jobId
  | .enqueue _ m => request.deliverable.succeeded = true ∧ m.jobId = request.jobId
  | _ => True

/-- The target of a restart that has passed the checks. -/
def RestartPc.Sound : RestartPc → Prop
  | .write jobContext target _ => -1 ≤ target ∧ target < jobContext.jobWorkers.length
  | .commit jobContext target _ => -1 ≤ target ∧ target < jobContext.jobWorkers.length
  | .enqueue jobContext target => -1 ≤ target ∧ target < jobContext.jobWorkers.length
  | _ => True

def Operation.Sound : Operation → Prop
  | .update call pc => pc.Sound call.argument
  | .restart _ restartFrom pc => -1 ≤ restartFrom ∧ pc.Sound
  | _ => True

lemma restartTarget_bounds {restartFrom target : ℤ} {read : Option JobContext}
    {jobContext : JobContext} (h : restartTarget restartFrom read = .ok (jobContext,target))
    (hr : -1 ≤ restartFrom) : -1 ≤ target ∧ target < jobContext.jobWorkers.length := by
  obtain rfl := restartTarget_ok h
  simp only [restartTarget] at h
  split at h
  · split at h
    · split at h
      · cases h
      · obtain ⟨-,rfl⟩ := Prod.mk.inj (Except.ok.inj h)
        exact ⟨by omega,by omega⟩
    · split at h
      · cases h
      · next hlt =>
        obtain ⟨-,rfl⟩ := Prod.mk.inj (Except.ok.inj h)
        exact ⟨hr,by omega⟩
  · cases h

lemma succeeded_of_nextAvailable {request : JobUpdateRequest}
    (hy : request.deliverable.yielded = false) (h : (updatePlan request).nextAvailable = true) :
    request.deliverable.succeeded = true := by
  rcases updatePlan_cases request with ⟨hy',-⟩ | ⟨-,hs,-⟩ | ⟨-,-,hp⟩
  · exact absurd (hy.symm.trans hy') (by decide)
  · exact hs
  · simp [hp] at h

lemma Piece.sound {ts : TimeStamp} {db : Db} {op next : Operation} {o : Outcome Operation}
    (h : Piece ts db op o) (hs : op.Sound) (hn : o.next? = some next) : next.Sound := by
  cases h with
  | updateRelease =>
    cases hn
    split
    · next ha => exact succeeded_of_nextAvailable hs ha
    · trivial
  | updateLast | updateNext | updateResult | updateCommitNext =>
    cases hn
    exact hs
  | updateExclQueue =>
    cases hn
    exact ⟨hs,rfl⟩
  | restartRead | restartContext | restartCommitFailed =>
    cases hn
    exact ⟨hs.1,trivial⟩
  | restartChecked checks =>
    cases hn
    exact ⟨hs.1,restartTarget_bounds checks hs.1⟩
  | restartWrite | restartCommit =>
    cases hn
    exact hs
  | _ => cases hn <;> trivial

lemma Starts.sound {e : Event} {i : ℕ} {op : Operation} (h : Starts e i op) : op.Sound := by
  cases h with
  | restartJob bound => exact ⟨bound,trivial⟩
  | @handleUpdate _ call ts =>
    unfold Operation.Sound UpdatePc.start
    rcases updatePlan_cases call.argument with ⟨hy,hp⟩ | ⟨hy,-,hp⟩ | ⟨hy,-,hp⟩ <;>
      simpa [hp,UpdatePc.Sound] using hy
  | _ => trivial

/-- Whatever the run, an operation has established what its position says. -/
theorem sound {fleet : Fleet} {C : State → Event → Prop} {s : State}
    (h : (system fleet).ReachableBy C s) :
    ∀ i op, s.operations i = some op → op.Sound := by
  refine h.invariant (I := fun s => ∀ i op, s.operations i = some op → op.Sound) ?_ ?_
  · rintro s rfl i op hop
    cases hop
  · rintro s e s' - hi - hstep i op hop
    obtain ⟨u,hm,rfl⟩ := Move.of_step hstep
    rcases hm.operation_origin hop with ⟨hop,-⟩ | ⟨ts,op₀,o,rfl,hop₀,hp,hn⟩ | ⟨hs,-⟩
    · exact hi i op hop
    · exact hp.sound (hi i op₀ hop₀) hn
    · exact hs.sound

/-! ## The stages that were read -/

/-- The list shows stages of the job at their indices and with their types. -/
def Db.Lists (db : Db) (jobId : JobId) (jobWorkers : List JobWorker) : Prop :=
  ∀ (n : ℕ) (worker : JobWorker), jobWorkers[n]? = some worker →
    ∃ row, db.worker? jobId n = some row ∧ row.workerType = worker.workerType

lemma Db.Lists.run {db : Db} {st : Statement} {jobId : JobId} {jobWorkers : List JobWorker}
    (h : db.Lists jobId jobWorkers) : (st.run db).Lists jobId jobWorkers := by
  intro n worker hn
  obtain ⟨row,hrow,ht⟩ := h n worker hn
  exact ⟨_,Statement.worker?_run_of_some hrow,by simpa using ht⟩

lemma Db.lists_selectWorkers {db : Db} (h : db.Contiguous) (jobId : JobId) :
    db.Lists jobId (db.selectWorkers jobId) := by
  intro n worker hn
  rw [Db.getElem?_selectWorkers h] at hn
  obtain ⟨row,hrow,rfl⟩ := Option.map_eq_some_iff.mp hn
  exact ⟨row,hrow,rfl⟩

lemma Db.Lists.staged {db : Db} {jobId : JobId} {jobWorkers : List JobWorker}
    (h : db.Lists jobId jobWorkers) (hne : jobWorkers ≠ []) : ¬db.Unstaged jobId := by
  obtain ⟨worker,ws,rfl⟩ := List.exists_cons_of_ne_nil hne
  obtain ⟨row,hrow,-⟩ := h 0 worker rfl
  intro hu
  exact absurd ((hu _).symm.trans hrow) (by simp)

def GetJob.listing : GetJob → Option (List JobWorker)
  | .tags _ jobWorkers => some jobWorkers
  | _ => none

def FocusPc.listing : FocusPc → Option (List JobWorker)
  | .read _ g => g.listing
  | .reply receipt => some receipt.jobContext.jobWorkers
  | _ => none

def RestartPc.listing : RestartPc → Option (List JobWorker)
  | .read g => g.listing
  | .check (some jobContext) => some jobContext.jobWorkers
  | .write jobContext _ _ => some jobContext.jobWorkers
  | .commit jobContext _ _ => some jobContext.jobWorkers
  | .enqueue jobContext _ => some jobContext.jobWorkers
  | _ => none

/-- The job whose stages the operation has read, and the list. -/
def Operation.listing : Operation → Option (JobId × List JobWorker)
  | .focus call pc => pc.listing.map fun ws => (call.argument.jobId,ws)
  | .restart jobId _ pc => pc.listing.map fun ws => (jobId,ws)
  | _ => none

lemma GetJob.listing_of_more {db : Db} {jobId : JobId} {g g' : GetJob} {ws : List JobWorker}
    (h : g.step db jobId = .more g') (hl : g'.listing = some ws) :
    ws = db.selectWorkers jobId := by
  cases g with
  | digest =>
    simp only [GetJob.step] at h
    split at h <;> cases h
    cases hl
  | workers d =>
    cases h
    cases hl
    rfl
  | tags d ws' => cases h

lemma GetJob.listing_of_done {db : Db} {jobId : JobId} {g : GetJob} {jobContext : JobContext}
    (h : g.step db jobId = .done (some jobContext)) : g.listing = some jobContext.jobWorkers := by
  cases g with
  | digest =>
    simp only [GetJob.step] at h
    split at h <;> cases h
  | workers d => cases h
  | tags d ws =>
    cases h
    rfl

/-- A list of stages is read from the database and then carried unchanged. -/
lemma Piece.listing {ts : TimeStamp} {db : Db} {op next : Operation} {o : Outcome Operation}
    {jobId : JobId} {ws : List JobWorker} (h : Piece ts db op o) (hn : o.next? = some next)
    (hl : next.listing = some (jobId,ws)) :
    op.listing = some (jobId,ws) ∨ ws = db.selectWorkers jobId ∧ op.write db = db := by
  cases h with
  | focusRead reads | restartRead reads =>
    cases hn
    obtain ⟨ws',hws,he⟩ := Option.map_eq_some_iff.mp hl
    obtain ⟨rfl,rfl⟩ := Prod.mk.inj he
    exact .inr ⟨GetJob.listing_of_more reads hws,rfl⟩
  | focusReceipt reads =>
    cases hn
    left
    rw [← hl]
    exact congrArg (Option.map _) (GetJob.listing_of_done reads)
  | @restartContext _ _ _ jobContext reads =>
    cases hn
    cases jobContext with
    | none => cases hl
    | some jobContext =>
      left
      rw [← hl]
      exact congrArg (Option.map _) (GetJob.listing_of_done reads)
  | restartChecked | restartWrite | restartCommit =>
    cases hn
    exact .inl hl
  | updateRelease =>
    cases hn
    split at hl <;> cases hl
  | _ => cases hn <;> cases hl

/-- Whatever the run, the stages that an operation has read are stages of the job. -/
theorem listed {fleet : Fleet} {C : State → Event → Prop} {s : State}
    (h : (system fleet).ReachableBy C s) :
    ∀ i op jobId ws, s.operations i = some op → op.listing = some (jobId,ws) →
      s.db.Lists jobId ws := by
  refine h.invariant (I := fun s => ∀ i op jobId ws, s.operations i = some op →
    op.listing = some (jobId,ws) → s.db.Lists jobId ws) ?_ ?_
  · rintro s rfl i op jobId ws hop
    cases hop
  · rintro s e s' hs hi - hstep i op jobId ws hop hl
    obtain ⟨u,hm,rfl⟩ := Move.of_step hstep
    change u.db.Lists jobId ws
    rcases hm.writes with ⟨graceful,ts,rfl,-,-⟩ | ⟨hu,-⟩
    · cases hm
      cases hop
    · rw [hu]
      have hkeep : ∀ {ws}, s.db.Lists jobId ws → (s.write e).Lists jobId ws := by
        intro ws hw
        rcases s.write_cases e with he | ⟨st,-,he⟩
        · exact he ▸ hw
        · exact he ▸ hw.run
      rcases hm.operation_origin hop with ⟨hop,-⟩ | ⟨ts,op₀,o,rfl,hop₀,hp,hn⟩ | ⟨hst,-⟩
      · exact hkeep (hi i op jobId ws hop hl)
      · rcases hp.listing hn hl with hl₀ | ⟨rfl,hw⟩
        · exact hkeep (hi i op₀ jobId ws hop₀ hl₀)
        · exact hkeep (Db.lists_selectWorkers (staged hs).contiguous jobId)
      · cases hst <;> cases hl

end LiveKBench.KScheduler
