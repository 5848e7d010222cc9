import LiveKBench.KScheduler.Steps

/-! What the moves do to the database: every step runs at most one writing statement, and only a
new process replaces the tables by those of the file. A property of the tables that the statements
and the start-up keep therefore holds in every run, of the open database and of the file. -/
namespace LiveKBench.KScheduler
open KCore Lib Backend

namespace State
variable (s : State)

/-- The operation that an event advances. -/
def advancing : Event → Option Operation
  | .advance i _ => s.operations i
  | _ => none

/-- The writing statement that an event executes. -/
def statement (e : Event) : Option Statement := (s.advancing e).bind Operation.statement

/-- The database after an event that is no start of the scheduler. -/
def write (e : Event) : Db := s.db.apply (s.statement e)

/-- Its file after such an event. -/
def commit (e : Event) : Db := if (s.advancing e).any Operation.commits then s.db else s.committed

@[simp] theorem db_setHandling (w : ℕ) (h : Option Handling) : (s.setHandling w h).db = s.db := rfl
@[simp] theorem committed_setHandling (w : ℕ) (h : Option Handling) :
    (s.setHandling w h).committed = s.committed := rfl
@[simp] theorem db_setOperation (i : ℕ) (op : Option Operation) :
    (s.setOperation i op).db = s.db := rfl
@[simp] theorem committed_setOperation (i : ℕ) (op : Option Operation) :
    (s.setOperation i op).committed = s.committed := rfl
@[simp] theorem db_finishDispatch (w : ℕ) : (s.finishDispatch w).db = s.db := rfl
@[simp] theorem committed_finishDispatch (w : ℕ) :
    (s.finishDispatch w).committed = s.committed := rfl
@[simp] theorem db_failDispatch (w : ℕ) : (s.failDispatch w).db = s.db := rfl
@[simp] theorem committed_failDispatch (w : ℕ) :
    (s.failDispatch w).committed = s.committed := rfl

section Reply
variable {s}

/-- A receipt either starts the task, ends the dispatch, or finds nobody who waits for it. -/
theorem replyFocus_cases (call : FocusCall) (receipt : JobFocusReceipt) :
    (∃ jobId, (s.workers call.caller).handling = some ⟨jobId,.focusing call.correlationId⟩ ∧
      (receipt.status = .focused ∧ s.replyFocus call receipt =
          s.setHandling call.caller (some ⟨jobId,.running receipt.jobContext⟩) ∨
        receipt.status = .rejected ∧
          s.replyFocus call receipt = s.finishDispatch call.caller)) ∨
    (∀ jobId, (s.workers call.caller).handling ≠ some ⟨jobId,.focusing call.correlationId⟩) ∧
      s.replyFocus call receipt = s := by
  unfold replyFocus
  cases hh : (s.workers call.caller).handling with
  | none => exact .inr ⟨by simp,rfl⟩
  | some h =>
    obtain ⟨jobId,pc⟩ := h
    by_cases hp : pc = .focusing call.correlationId
    · subst hp
      left
      refine ⟨jobId,rfl,?_⟩
      cases hs : receipt.status with
      | focused => exact .inl ⟨rfl,by simp⟩
      | rejected => exact .inr ⟨rfl,by simp⟩
    · exact .inr ⟨by simp [hp],by simp [hp]⟩

theorem replyUpdate_cases (call : UpdateCall) :
    (∃ jobId, (s.workers call.caller).handling = some ⟨jobId,.updating call.correlationId⟩ ∧
      s.replyUpdate call = s.finishDispatch call.caller) ∨
    (∀ jobId, (s.workers call.caller).handling ≠ some ⟨jobId,.updating call.correlationId⟩) ∧
      s.replyUpdate call = s := by
  unfold replyUpdate
  cases hh : (s.workers call.caller).handling with
  | none => exact .inr ⟨by simp,rfl⟩
  | some h =>
    obtain ⟨jobId,pc⟩ := h
    by_cases hp : pc = .updating call.correlationId
    · subst hp
      exact .inl ⟨jobId,rfl,by simp⟩
    · exact .inr ⟨by simp [hp],by simp [hp]⟩

end Reply

@[simp] theorem db_replyFocus (call : FocusCall) (receipt : JobFocusReceipt) :
    (s.replyFocus call receipt).db = s.db := by
  rcases s.replyFocus_cases call receipt with ⟨j,_,⟨_,h⟩ | ⟨_,h⟩⟩ | ⟨_,h⟩ <;> rw [h] <;> rfl

@[simp] theorem committed_replyFocus (call : FocusCall) (receipt : JobFocusReceipt) :
    (s.replyFocus call receipt).committed = s.committed := by
  rcases s.replyFocus_cases call receipt with ⟨j,_,⟨_,h⟩ | ⟨_,h⟩⟩ | ⟨_,h⟩ <;> rw [h] <;> rfl

@[simp] theorem db_replyUpdate (call : UpdateCall) : (s.replyUpdate call).db = s.db := by
  rcases s.replyUpdate_cases call with ⟨j,_,h⟩ | ⟨_,h⟩ <;> simp [h]

@[simp] theorem committed_replyUpdate (call : UpdateCall) :
    (s.replyUpdate call).committed = s.committed := by
  rcases s.replyUpdate_cases call with ⟨j,_,h⟩ | ⟨_,h⟩ <;> simp [h]

@[simp] theorem db_publish (i : ℕ) (m : Publication) : (s.publish i m).db = s.db := by
  cases m <;> simp [publish]

@[simp] theorem committed_publish (i : ℕ) (m : Publication) :
    (s.publish i m).committed = s.committed := by
  cases m <;> simp [publish]

@[simp] theorem db_requeue (i : ℕ) (op : Operation) : (s.requeue i op).db = s.db := by
  cases op <;> rfl

@[simp] theorem committed_requeue (i : ℕ) (op : Operation) :
    (s.requeue i op).committed = s.committed := by
  cases op <;> rfl

@[simp] theorem db_settle (i : ℕ) (op : Operation) (o : Outcome Operation) :
    (s.settle i op o).db = o.db s.db := by
  cases o <;> simp [settle,Outcome.db]

/-- A commit, and nothing else, brings the file up to date. -/
theorem committed_settle {ts : TimeStamp} (i : ℕ) {op : Operation} {o : Outcome Operation}
    (h : Piece ts s.db op o) :
    (s.settle i op o).committed = if op.commits then s.db else s.committed := by
  cases h <;> simp [settle,Operation.commits]

theorem commit_cases (e : Event) : s.commit e = s.committed ∨ s.commit e = s.db := by
  unfold commit
  split
  · exact .inr rfl
  · exact .inl rfl

end State

namespace Move
variable {fleet : Fleet} {s u : State} {e : Event}

/-- What a move does to the database and to its file. -/
theorem writes (h : Move fleet s e u) :
    (∃ graceful ts, e = .restartScheduler graceful ts ∧ u.db = s.reopened graceful ts ∧
      u.committed = s.reopened graceful ts) ∨
    u.db = s.write e ∧ u.committed = s.commit e := by
  cases h with
  | @restartScheduler graceful ts => exact .inl ⟨graceful,ts,rfl,rfl,rfl⟩
  | @advance i ts op o running piece =>
    right
    constructor
    · simp only [State.db_settle,piece.db_eq,State.write,State.statement,State.advancing,running,
        Option.bind_some,Operation.write]
    · simp only [s.committed_settle i piece,State.commit,State.advancing,running,Option.any_some]
  | fail =>
    exact .inr ⟨by simp [State.write,State.statement,State.advancing],
      by simp [State.commit,State.advancing]⟩
  | raise => exact .inr ⟨rfl,rfl⟩
  | newJob | abortJob | restartJob | handleFocus | handleUpdate | loseReply | redeliverFocus
  | redeliverUpdate | deliver | bounce | reject | requestFocus | report | disconnect | close
  | answerAbort | dropAbort => exact .inr ⟨rfl,rfl⟩

lemma writes_of_ne (h : Move fleet s e u) (he : ∀ graceful ts, e ≠ .restartScheduler graceful ts) :
    u.db = s.write e ∧ u.committed = s.commit e := by
  rcases h.writes with ⟨graceful,ts,he',-⟩ | hu
  · exact absurd he' (he graceful ts)
  · exact hu

end Move

lemma State.write_cases (s : State) (e : Event) :
    s.write e = s.db ∨ ∃ st, s.statement e = some st ∧ s.write e = st.run s.db := by
  unfold State.write
  cases s.statement e with
  | none => exact .inl rfl
  | some st => exact .inr ⟨st,rfl,rfl⟩

lemma State.write_advance {s : State} {i : ℕ} {ts : TimeStamp} {op : Operation}
    (h : s.operations i = some op) : s.write (.advance i ts) = op.write s.db := by
  simp [State.write,State.statement,State.advancing,h,Operation.write]

lemma Move.db_advance {fleet : Fleet} {s u : State} {i : ℕ} {ts : TimeStamp} {op : Operation}
    (h : Move fleet s (.advance i ts) u) (hop : s.operations i = some op) :
    u.db = op.write s.db :=
  (h.writes_of_ne fun _ _ => nofun).1.trans (State.write_advance hop)

/-- The invariant rule for the database. -/
theorem db_invariant {fleet : Fleet} {C : State → Event → Prop} {P : Db → Prop}
    (hempty : P .empty)
    (hrun : ∀ s e st, (system fleet).ReachableBy C s → C s e → s.statement e = some st →
      P s.db → P (st.run s.db))
    (hopen : ∀ db ts, P db → P (db.abortLeftOver ts)) {s : State}
    (h : (system fleet).ReachableBy C s) : P s.db ∧ P s.committed := by
  refine h.invariant (I := fun s => P s.db ∧ P s.committed) ?_ ?_
  · rintro s rfl
    exact ⟨hempty,hempty⟩
  · rintro s e s' hs ⟨hdb,hcom⟩ hc hstep
    obtain ⟨u,hm,rfl⟩ := Move.of_step hstep
    rcases hm.writes with ⟨graceful,ts,-,hu,hv⟩ | ⟨hu,hv⟩
    · have hp : P (s.reopened graceful ts) := by
        unfold State.reopened
        split
        · exact hopen _ _ hdb
        · exact hopen _ _ hcom
      exact ⟨hu ▸ hp,hv ▸ hp⟩
    · constructor
      · change P u.db
        rw [hu]
        rcases s.write_cases e with hw | ⟨st,hst,hw⟩
        · exact hw ▸ hdb
        · exact hw ▸ hrun s e st hs hc hst hdb
      · change P u.committed
        rcases s.commit_cases e with hc | hc
        · exact hv.trans hc ▸ hcom
        · exact hv.trans hc ▸ hdb

end LiveKBench.KScheduler
