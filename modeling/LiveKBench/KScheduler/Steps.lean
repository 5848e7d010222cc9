import LiveKBench.KScheduler.Statement

/-! What a step can do, said once: the pieces of the operations and the moves of the system, each
with the guard under which it happens and the state it leads to. The invariants of the following
modules are proved by cases on these two relations. -/
namespace LiveKBench.KScheduler
open KCore Lib Backend

/-- The writing statement of an operation's next piece. -/
def Operation.statement : Operation → Option Statement
  | .newJob _ (.digest ts) => some (.insertDigest ts)
  | .newJob request (.workers jobId) => some (.insertWorkers jobId request.jobWorkers)
  | .newJob request (.tags jobId) => some (.insertTags jobId request.tags)
  | .focus call (.write ts) =>
    some (.focus call.argument.jobId call.argument.workerHostname ts)
  | .update call (.result _) =>
    some (.writeResult call.argument.jobId call.argument.workerIndex call.argument.deliverable)
  | .update call (.release ts) => some (.release call.argument ts)
  | .update call (.finish _) => some (.finish call.argument.jobId)
  | .abort jobId (.write _) => some (.abort jobId)
  | .restart jobId _ (.write _ target ts) => some (.restart jobId target ts)
  | _ => none

/-- Whether an operation's next piece is a commit. -/
def Operation.commits : Operation → Bool
  | .focus _ (.commit _) => true
  | .update _ (.commit _ _) => true
  | .restart _ _ (.commit _ _ _) => true
  | _ => false

/-- The database after an operation's next piece. -/
def Operation.write (op : Operation) (db : Db) : Db := db.apply op.statement

def Outcome.db {π : Type} (before : Db) : Outcome π → Db
  | .exec db _ => db
  | .commit _ => before
  | .publish _ _ => before
  | .finish db => db
  | .raise db _ => db

/-- One piece of an operation. -/
inductive Piece (ts : TimeStamp) (db : Db) : Operation → Outcome Operation → Prop
  | insertDigest {request t} :
      Piece ts db (.newJob request (.digest t))
        (.exec ((Statement.insertDigest t).run db) (.newJob request (.workers (db.sequence+1))))
  | insertWorkers {request jobId} (ok : (db.insertWorkers jobId request.jobWorkers).2 = true) :
      Piece ts db (.newJob request (.workers jobId))
        (.exec ((Statement.insertWorkers jobId request.jobWorkers).run db)
          (.newJob request (.tags jobId)))
  | workersTaken {request jobId} (taken : ¬(db.insertWorkers jobId request.jobWorkers).2 = true) :
      Piece ts db (.newJob request (.workers jobId))
        (.raise ((Statement.insertWorkers jobId request.jobWorkers).run db) .integrityError)
  | insertTags {request jobId} (ok : (db.insertTags jobId request.tags).2 = true) :
      Piece ts db (.newJob request (.tags jobId))
        (.exec ((Statement.insertTags jobId request.tags).run db)
          (.newJob request (.enqueue jobId)))
  | tagsTaken {request jobId} (taken : ¬(db.insertTags jobId request.tags).2 = true) :
      Piece ts db (.newJob request (.tags jobId))
        (.raise ((Statement.insertTags jobId request.tags).run db) .integrityError)
  | newJobWithoutStage {request jobId} (empty : request.jobWorkers[0]? = none) :
      Piece ts db (.newJob request (.enqueue jobId)) (.raise db .indexError)
  | newJobPublish {request jobId argument} (first : request.jobWorkers[0]? = some argument) :
      Piece ts db (.newJob request (.enqueue jobId))
        (.publish (.dispatch
          ⟨argument.workerType,request.tags.lookup exclQueueTag,jobId⟩) none)
  | focusTaken {call t d} (present : db.digest? call.argument.jobId = some d)
      (focusable : Db.Focusable call.argument.jobId t d) :
      Piece ts db (.focus call (.write t))
        (.exec ((Statement.focus call.argument.jobId call.argument.workerHostname t).run db)
          (.focus call (.commit .focused)))
  | focusRefused {call t}
      (refused : ∀ d, db.digest? call.argument.jobId = some d →
        ¬Db.Focusable call.argument.jobId t d) :
      Piece ts db (.focus call (.write t))
        (.exec ((Statement.focus call.argument.jobId call.argument.workerHostname t).run db)
          (.focus call (.commit .rejected)))
  | focusCommit {call status} :
      Piece ts db (.focus call (.commit status)) (.commit (.focus call (.read status .digest)))
  | focusRead {call status g g'} (reads : g.step db call.argument.jobId = .more g') :
      Piece ts db (.focus call (.read status g)) (.exec db (.focus call (.read status g')))
  | focusReceipt {call status g jobContext}
      (reads : g.step db call.argument.jobId = .done (some jobContext)) :
      Piece ts db (.focus call (.read status g))
        (.exec db (.focus call (.reply ⟨status,jobContext⟩)))
  | focusMissing {call status g} (reads : g.step db call.argument.jobId = .done none) :
      Piece ts db (.focus call (.read status g)) (.raise db .validationError)
  | focusReply {call receipt} :
      Piece ts db (.focus call (.reply receipt)) (.publish (.focusReply call receipt) none)
  | updateUnbound {call} : Piece ts db (.update call .unbound) (.raise db .unboundLocalError)
  | updateResult {call t} :
      Piece ts db (.update call (.result t))
        (.exec ((Statement.writeResult call.argument.jobId call.argument.workerIndex
          call.argument.deliverable).run db) (.update call (.release t)))
  | updateRelease {call t released}
      (reads : released = true ↔ ∃ d, db.digest? call.argument.jobId = some d ∧
        Db.Releasable call.argument t d) :
      Piece ts db (.update call (.release t))
        (.exec ((Statement.release call.argument t).run db)
          (.update call (if (updatePlan call.argument).nextAvailable then .nextType released
            else .commit released none)))
  | updateLast {call released}
      (reads : db.selectWorkerType call.argument.jobId
        (updatePlan call.argument).nextWorkerIndex = none) :
      Piece ts db (.update call (.nextType released)) (.exec db (.update call (.finish released)))
  | updateNext {call released workerType}
      (reads : db.selectWorkerType call.argument.jobId
        (updatePlan call.argument).nextWorkerIndex = some workerType) :
      Piece ts db (.update call (.nextType released))
        (.exec db (.update call (.exclQueue released workerType)))
  | updateFinish {call released} :
      Piece ts db (.update call (.finish released))
        (.exec ((Statement.finish call.argument.jobId).run db)
          (.update call (.commit released none)))
  | updateExclQueue {call released workerType} :
      Piece ts db (.update call (.exclQueue released workerType))
        (.exec db (.update call (.commit released
          (some ⟨workerType,db.selectTag call.argument.jobId exclQueueTag,
            call.argument.jobId⟩))))
  | updateCommit {call released} :
      Piece ts db (.update call (.commit released none)) (.commit (.update call .reply))
  | updateCommitNext {call released m} :
      Piece ts db (.update call (.commit released (some m)))
        (.commit (.update call (.enqueue released m)))
  | updatePublish {call released m} :
      Piece ts db (.update call (.enqueue released m))
        (.publish (.dispatch m) (some (.update call .reply)))
  | updateReply {call} : Piece ts db (.update call .reply) (.publish (.updateReply call) none)
  | abortRead {jobId g g'} (reads : g.step db jobId = .more g') :
      Piece ts db (.abort jobId (.read g)) (.exec db (.abort jobId (.read g')))
  | abortMissing {jobId g} (reads : g.step db jobId = .done none) :
      Piece ts db (.abort jobId (.read g)) (.raise db (.httpException 404 "Job not found"))
  | abortAlready {jobId g} : Piece ts db (.abort jobId (.read g)) (.finish db)
  | abortGoesOn {jobId g jobContext} :
      Piece ts db (.abort jobId (.read g)) (.exec db (.abort jobId (.write jobContext)))
  | abortTaken {jobId jobContext} :
      Piece ts db (.abort jobId (.write jobContext)) (.finish ((Statement.abort jobId).run db))
  | abortRefused {jobId jobContext} :
      Piece ts db (.abort jobId (.write jobContext))
        (.exec ((Statement.abort jobId).run db) (.abort jobId (.control jobContext)))
  | abortControl {jobId jobContext} :
      Piece ts db (.abort jobId (.control jobContext))
        (.publish (.abortRequest jobContext.currentWorkerHostname jobId)
          (some (.abort jobId .await)))
  | restartRead {jobId restartFrom g g'} (reads : g.step db jobId = .more g') :
      Piece ts db (.restart jobId restartFrom (.read g))
        (.exec db (.restart jobId restartFrom (.read g')))
  | restartContext {jobId restartFrom g jobContext}
      (reads : g.step db jobId = .done jobContext) :
      Piece ts db (.restart jobId restartFrom (.read g))
        (.exec db (.restart jobId restartFrom (.check jobContext)))
  | restartDenied {jobId restartFrom jobContext e} :
      Piece ts db (.restart jobId restartFrom (.check jobContext)) (.raise db e)
  | restartChecked {jobId restartFrom jobContext target}
      (checks : restartTarget restartFrom (some jobContext) = .ok (jobContext,target)) :
      Piece ts db (.restart jobId restartFrom (.check (some jobContext)))
        (.exec db (.restart jobId restartFrom (.write jobContext target ts)))
  | restartWrite {jobId restartFrom jobContext target t ok}
      (reads : ok = true ↔ ∃ d, db.digest? jobId = some d ∧ Db.Restartable jobId t d) :
      Piece ts db (.restart jobId restartFrom (.write jobContext target t))
        (.exec ((Statement.restart jobId target t).run db)
          (.restart jobId restartFrom (.commit jobContext target ok)))
  | restartCommit {jobId restartFrom jobContext target} :
      Piece ts db (.restart jobId restartFrom (.commit jobContext target true))
        (.commit (.restart jobId restartFrom (.enqueue jobContext target)))
  | restartCommitFailed {jobId restartFrom jobContext target} :
      Piece ts db (.restart jobId restartFrom (.commit jobContext target false))
        (.commit (.restart jobId restartFrom .fail))
  | restartFail {jobId restartFrom} :
      Piece ts db (.restart jobId restartFrom .fail)
        (.raise db (.httpException 400 "Failed to restart job"))
  | restartWithoutStage {jobId restartFrom jobContext target}
      (missing : pyIndex jobContext.jobWorkers target = none) :
      Piece ts db (.restart jobId restartFrom (.enqueue jobContext target)) (.raise db .indexError)
  | restartPublish {jobId restartFrom jobContext target worker}
      (stage : pyIndex jobContext.jobWorkers target = some worker) :
      Piece ts db (.restart jobId restartFrom (.enqueue jobContext target))
        (.publish (.dispatch
          ⟨worker.workerType,jobContext.tags.lookup exclQueueTag,jobId⟩) none)

/-- The checks settle on the job that was read. -/
lemma restartTarget_ok {restartFrom target : ℤ} {read : Option JobContext}
    {jobContext : JobContext} (h : restartTarget restartFrom read = .ok (jobContext,target)) :
    read = some jobContext := by
  cases read with
  | none => cases h
  | some ctx =>
    simp only [restartTarget] at h
    repeat' split at h
    all_goals first
      | (cases h; rfl)
      | cases h

namespace Piece
variable {ts : TimeStamp} {db : Db}

lemma of_newJob {request : JobRequest} (pc : NewJobPc) :
    Piece ts db (.newJob request pc) ((pc.step request db).map (.newJob request)) := by
  cases pc with
  | digest t => exact .insertDigest
  | workers jobId =>
    simp only [NewJobPc.step]
    split
    · next h => exact .insertWorkers h
    · next h => exact .workersTaken h
  | tags jobId =>
    simp only [NewJobPc.step]
    split
    · next h => exact .insertTags h
    · next h => exact .tagsTaken h
  | enqueue jobId =>
    simp only [NewJobPc.step]
    split
    · next h => exact .newJobWithoutStage h
    · next h => exact .newJobPublish h

lemma of_focus {call : FocusCall} (pc : FocusPc) :
    Piece ts db (.focus call pc) ((pc.step call db).map (.focus call)) := by
  cases pc with
  | write t =>
    by_cases hf : ∃ d, db.digest? call.argument.jobId = some d ∧
        Db.Focusable call.argument.jobId t d
    · have h1 := (Db.focus_eq_one call.argument.workerHostname).mpr hf
      obtain ⟨d,hd,hf⟩ := hf
      simp only [FocusPc.step,focusStatus,h1,if_true]
      exact .focusTaken hd hf
    · have h1 := mt (Db.focus_eq_one call.argument.workerHostname).mp hf
      simp only [FocusPc.step,focusStatus,h1,if_false]
      exact .focusRefused fun d hd hd' => hf ⟨d,hd,hd'⟩
  | commit status => exact .focusCommit
  | read status g =>
    simp only [FocusPc.step]
    split
    · next h => exact .focusRead h
    · next ctx h =>
      cases ctx with
      | none => exact .focusMissing h
      | some ctx => exact .focusReceipt h
  | reply receipt => exact .focusReply

lemma of_update {call : UpdateCall} (pc : UpdatePc) :
    Piece ts db (.update call pc) ((pc.step call db).map (.update call)) := by
  cases pc with
  | unbound => exact .updateUnbound
  | result t => exact .updateResult
  | release t =>
    have h : Piece ts db (.update call (.release t)) _ := .updateRelease ((
      decide_eq_true_iff (p := (db.release call.argument (updatePlan call.argument).status
        (updatePlan call.argument).nextWorkerIndex t).2 = 1)).trans Db.release_eq_one)
    simp only [UpdatePc.step]
    exact h
  | nextType released =>
    simp only [UpdatePc.step]
    split
    · next h => exact .updateLast h
    · next h => exact .updateNext h
  | finish released => exact .updateFinish
  | exclQueue released workerType => exact .updateExclQueue
  | commit released ret =>
    cases ret with
    | none => exact .updateCommit
    | some m => exact .updateCommitNext
  | enqueue released m => exact .updatePublish
  | reply => exact .updateReply

lemma of_abort {jobId : JobId} {pc : AbortPc} {o : Outcome AbortPc}
    (h : pc.step jobId db = some o) : Piece ts db (.abort jobId pc) (o.map (.abort jobId)) := by
  cases pc with
  | read g =>
    simp only [AbortPc.step] at h
    split at h
    · next hg =>
      cases h
      exact .abortRead hg
    · next hg =>
      cases h
      exact .abortMissing hg
    · split at h
      · cases h
        exact .abortAlready
      · cases h
        exact .abortGoesOn
  | write jobContext =>
    simp only [AbortPc.step] at h
    split at h
    · cases h
      exact .abortTaken
    · cases h
      exact .abortRefused
  | control jobContext =>
    cases h
    exact .abortControl
  | await => cases h

lemma of_restart {jobId : JobId} {restartFrom : ℤ} (pc : RestartPc) :
    Piece ts db (.restart jobId restartFrom pc)
      ((pc.step jobId restartFrom ts db).map (.restart jobId restartFrom)) := by
  cases pc with
  | read g =>
    simp only [RestartPc.step]
    split
    · next h => exact .restartRead h
    · next h => exact .restartContext h
  | check jobContext =>
    simp only [RestartPc.step]
    split
    · exact .restartDenied
    · next h =>
      obtain rfl := restartTarget_ok h
      exact .restartChecked h
  | write jobContext target t =>
    exact .restartWrite ((decide_eq_true_iff
      (p := (db.restart jobId target t).2 = 1)).trans Db.restart_eq_one)
  | commit jobContext target ok =>
    cases ok with
    | true => exact .restartCommit
    | false => exact .restartCommitFailed
  | fail => exact .restartFail
  | enqueue jobContext target =>
    simp only [RestartPc.step]
    split
    · next h => exact .restartWithoutStage h
    · next h => exact .restartPublish h

/-- Every step of an operation is one of the pieces. -/
theorem of_step {op : Operation} {o : Outcome Operation} (h : op.step ts db = some o) :
    Piece ts db op o := by
  cases op with
  | newJob request pc =>
    cases h
    exact of_newJob pc
  | focus call pc =>
    cases h
    exact of_focus pc
  | update call pc =>
    cases h
    exact of_update pc
  | abort jobId pc =>
    obtain ⟨o,ho,rfl⟩ := Option.map_eq_some_iff.mp h
    exact of_abort ho
  | restart jobId restartFrom pc =>
    cases h
    exact of_restart pc

/-- A piece writes what its operation's statement writes. -/
theorem db_eq {op : Operation} {o : Outcome Operation} (h : Piece ts db op o) :
    o.db db = op.write db := by
  cases h <;> rfl

end Piece

/-! ## Moves of the system -/

/-- One move of the system, up to the clock. -/
inductive Move (fleet : Fleet) (s : State) : Event → State → Prop
  | newJob {i request ts} (free : s.operations i = none) :
      Move fleet s (.newJob i request ts)
        (s.setOperation i (some (.newJob request (.digest ts))))
  | abortJob {i jobId} (free : s.operations i = none) :
      Move fleet s (.abortJob i jobId) (s.setOperation i (some (.abort jobId (.read .digest))))
  | restartJob {i jobId restartFrom} (free : s.operations i = none) (bound : -1 ≤ restartFrom) :
      Move fleet s (.restartJob i jobId restartFrom)
        (s.setOperation i (some (.restart jobId restartFrom (.read .digest))))
  | handleFocus {i call ts} (free : s.operations i = none) (ready : call ∈ s.focusCalls.ready) :
      Move fleet s (.handleFocus i call ts)
        ({ s with focusCalls := s.focusCalls.take i call }.setOperation i
          (some (.focus call (.write ts))))
  | handleUpdate {i call ts} (free : s.operations i = none)
      (ready : call ∈ s.updateCalls.ready) :
      Move fleet s (.handleUpdate i call ts)
        ({ s with updateCalls := s.updateCalls.take i call }.setOperation i
          (some (.update call (.start call.argument ts))))
  | advance {i ts op o} (running : s.operations i = some op) (piece : Piece ts s.db op o) :
      Move fleet s (.advance i ts) (s.settle i op o)
  | fail {i op} (running : s.operations i = some op) :
      Move fleet s (.fail i) ((s.setOperation i none).requeue i op)
  | loseReply {i op} (running : s.operations i = some op) (replies : State.atReply op = true) :
      Move fleet s (.loseReply i)
        ({ s with focusCalls := s.focusCalls.ack i, updateCalls := s.updateCalls.ack i
          }.setOperation i none)
  | redeliverFocus {i} :
      Move fleet s (.redeliverFocus i) { s with focusCalls := s.focusCalls.nack i }
  | redeliverUpdate {i} :
      Move fleet s (.redeliverUpdate i) { s with updateCalls := s.updateCalls.nack i }
  | restartScheduler {graceful ts} :
      Move fleet s (.restartScheduler graceful ts)
        { s with
          db := s.reopened graceful ts, committed := s.reopened graceful ts,
          operations := fun _ => none, focusCalls := s.focusCalls.recover,
          updateCalls := s.updateCalls.recover }
  | deliver {w m} (ready : m ∈ s.dispatches.ready) (free : s.Free w)
      (consumes : (fleet w).Consumes m) (unlocked : (s.workers w).handling = none) :
      Move fleet s (.deliver w m)
        ({ s with dispatches := s.dispatches.take (w,false) m }.setHandling w
          (some ⟨m.jobId,.received⟩))
  | bounce {w m} (ready : m ∈ s.dispatches.ready) :
      Move fleet s (.bounce w m) { s with dispatches := s.dispatches.take (w,true) m }
  | reject {w} : Move fleet s (.reject w) { s with dispatches := s.dispatches.nack (w,true) }
  | requestFocus {w jobId} (received : (s.workers w).handling = some ⟨jobId,.received⟩) :
      Move fleet s (.requestFocus w)
        ({ s with
          focusCalls := s.focusCalls.post (s.focusCall fleet w jobId),
          nextCorrelationId := s.nextCorrelationId+1
          }.setHandling w (some ⟨jobId,.focusing s.nextCorrelationId⟩))
  | report {w result jobId jobContext}
      (running : (s.workers w).handling = some ⟨jobId,.running jobContext⟩) :
      Move fleet s (.report w result)
        ({ s with
          updateCalls := s.updateCalls.post (s.updateCall fleet w jobId jobContext result),
          nextCorrelationId := s.nextCorrelationId+1
          }.setHandling w (some ⟨jobId,.updating s.nextCorrelationId⟩))
  | raise {w h} (locked : (s.workers w).handling = some h) :
      Move fleet s (.raise w) (s.failDispatch w)
  | disconnect {w} :
      Move fleet s (.disconnect w)
        { s with dispatches := (s.dispatches.nack (w,false)).nack (w,true) }
  | close {w} :
      Move fleet s (.close w)
        { s with workers := Function.update s.workers w { s.workers w with closed := true } }
  | answerAbort {w call jobId} (awaited : s.operations call.awaiter = some (.abort jobId .await)) :
      Move fleet s (.answerAbort w call)
        ({ s with abortCalls := s.abortCalls.erase call }.setOperation call.awaiter none)
  | dropAbort {w call} :
      Move fleet s (.answerAbort w call) { s with abortCalls := s.abortCalls.erase call }

namespace Move
variable {fleet : Fleet} {s u : State} {e : Event}

lemma spawn_eq_some {t : State} {i : ℕ} {op : Operation} (h : t.spawn i op = some u) :
    t.operations i = none ∧ u = t.setOperation i (some op) := by
  unfold State.spawn at h
  split at h
  · next hn => exact ⟨by simpa using hn,(Option.some.inj h).symm⟩
  · cases h

theorem of_effect (h : s.effect fleet e = some u) : Move fleet s e u := by
  cases e with
  | newJob i request ts =>
    obtain ⟨hfree,rfl⟩ := spawn_eq_some h
    exact .newJob hfree
  | abortJob i jobId =>
    obtain ⟨hfree,rfl⟩ := spawn_eq_some h
    exact .abortJob hfree
  | restartJob i jobId restartFrom =>
    simp only [State.effect] at h
    split at h
    · next hb =>
      obtain ⟨hfree,rfl⟩ := spawn_eq_some h
      exact .restartJob hfree hb
    · cases h
  | handleFocus i call ts =>
    simp only [State.effect] at h
    split at h
    · next hr =>
      obtain ⟨hfree,rfl⟩ := spawn_eq_some h
      exact .handleFocus hfree hr.1
    · cases h
  | handleUpdate i call ts =>
    simp only [State.effect] at h
    split at h
    · next hr =>
      obtain ⟨hfree,rfl⟩ := spawn_eq_some h
      exact .handleUpdate hfree hr.1
    · cases h
  | advance i ts =>
    simp only [State.effect,Option.bind_eq_bind,Option.pure_def,Option.bind_eq_some_iff] at h
    obtain ⟨op,hop,o,ho,hu⟩ := h
    cases hu
    exact .advance hop (.of_step ho)
  | fail i =>
    simp only [State.effect,Option.bind_eq_bind,Option.pure_def,Option.bind_eq_some_iff] at h
    obtain ⟨op,hop,hu⟩ := h
    cases hu
    exact .fail hop
  | loseReply i =>
    simp only [State.effect,Option.bind_eq_bind,Option.pure_def,Option.bind_eq_some_iff] at h
    obtain ⟨op,hop,hu⟩ := h
    split at hu
    · next hr =>
      cases hu
      exact .loseReply hop hr
    · cases hu
  | redeliverFocus i =>
    cases h
    exact .redeliverFocus
  | redeliverUpdate i =>
    cases h
    exact .redeliverUpdate
  | restartScheduler graceful ts =>
    cases h
    exact .restartScheduler
  | deliver w m =>
    simp only [State.effect] at h
    split at h
    · next hg =>
      cases h
      exact .deliver hg.1 hg.2.1 hg.2.2.1 (by simpa using hg.2.2.2.1)
    · cases h
  | bounce w m =>
    simp only [State.effect] at h
    split at h
    · next hg =>
      cases h
      exact .bounce hg.1
    · cases h
  | reject w =>
    cases h
    exact .reject
  | requestFocus w =>
    simp only [State.effect] at h
    split at h
    · next hr =>
      cases h
      exact .requestFocus hr
    · cases h
  | report w result =>
    simp only [State.effect] at h
    split at h
    · next hr =>
      split at h
      · cases h
        exact .report hr
      · cases h
    · cases h
  | raise w =>
    simp only [State.effect] at h
    split at h
    · next hs =>
      cases h
      obtain ⟨hd,hh⟩ := Option.isSome_iff_exists.mp hs
      exact .raise hh
    · cases h
  | disconnect w =>
    cases h
    exact .disconnect
  | close w =>
    cases h
    exact .close
  | answerAbort w call =>
    simp only [State.effect] at h
    split at h
    · split at h
      · next ha =>
        cases h
        exact .answerAbort ha
      · cases h
        exact .dropAbort
    · cases h

/-- Every step of the system is a move after which the clock is set. -/
theorem of_step {s' : State} (h : (system fleet).step s e = some s') :
    ∃ u, Move fleet s e u ∧ s' = { u with clock := (s.reading e).getD s.clock } := by
  obtain ⟨u,hu,rfl⟩ := Option.map_eq_some_iff.mp h
  exact ⟨u,of_effect hu,rfl⟩

end Move
end LiveKBench.KScheduler
