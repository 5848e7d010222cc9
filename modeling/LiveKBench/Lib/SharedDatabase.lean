import Mathlib.Data.Nat.Notation
import Mathlib.Tactic.Lemma
import Mathlib.Tactic.TypeStar

/-! A database that several connections share. The first writing statement of a connection opens a
transaction, in which the coroutines on this connection go on until one of them commits; meanwhile
the other connections read what was committed last, and wait with their own writes. -/
namespace LiveKBench.Lib

/-- What is committed, and the connection with the open transaction together with its working
copy. -/
structure Shared (σ : Type*) where
  committed : σ
  writer : Option (ℕ × σ)

namespace Shared
variable {σ α : Type*}

def opened (db : σ) : Shared σ := ⟨db,none⟩

/-- The database as the last statement left it. -/
def current (s : Shared σ) : σ :=
  match s.writer with
  | none => s.committed
  | some (_,w) => w

/-- The database as a connection sees it. -/
def view (s : Shared σ) (c : ℕ) : σ :=
  match s.writer with
  | none => s.committed
  | some (c',w) => if c' = c then w else s.committed

/-- A writing statement with its result; it has to wait while another connection writes. -/
def execute (s : Shared σ) (c : ℕ) (f : σ → σ × α) : Option (Shared σ × α) :=
  match s.writer with
  | none => some (⟨s.committed,some (c,(f s.committed).1)⟩,(f s.committed).2)
  | some (c',w) => if c' = c then some (⟨s.committed,some (c,(f w).1)⟩,(f w).2) else none

def commit (s : Shared σ) (c : ℕ) : Shared σ :=
  match s.writer with
  | none => s
  | some (c',w) => if c' = c then ⟨w,none⟩ else s

/-- The same change in all copies. -/
def map (f : σ → σ) (s : Shared σ) : Shared σ :=
  ⟨f s.committed,s.writer.map fun w => (w.1,f w.2)⟩

/-- What is left when all connections are lost. -/
def reopened (s : Shared σ) : Shared σ := ⟨s.committed,none⟩

@[simp] theorem current_opened (db : σ) : (opened db).current = db := rfl
@[simp] theorem committed_opened (db : σ) : (opened db).committed = db := rfl
@[simp] theorem view_opened (db : σ) (c : ℕ) : (opened db).view c = db := rfl
@[simp] theorem current_reopened (s : Shared σ) : s.reopened.current = s.committed := rfl
@[simp] theorem committed_reopened (s : Shared σ) : s.reopened.committed = s.committed := rfl
@[simp] theorem writer_opened (db : σ) : (opened db).writer = none := rfl
@[simp] theorem writer_reopened (s : Shared σ) : s.reopened.writer = none := rfl

theorem view_eq (s : Shared σ) (c : ℕ) : s.view c = s.current ∨ s.view c = s.committed := by
  cases hw : s.writer with
  | none => exact .inr (by simp [view,hw])
  | some w =>
    by_cases hc : w.1 = c
    · exact .inl (by simp [view,current,hw,hc])
    · exact .inr (by simp [view,hw,hc])

/-- What a writing statement does: it sees the last state and leaves it changed, not committed. -/
structure Executes (s : Shared σ) (c : ℕ) (f : σ → σ × α) (s' : Shared σ) (a : α) : Prop where
  view : s.view c = s.current
  committed : s'.committed = s.committed
  current : s'.current = (f s.current).1
  answer : a = (f s.current).2
  writer : s'.writer = some (c,(f s.current).1)
  waits : ∀ w ∈ s.writer, w.1 = c

theorem executes_of_execute {s s' : Shared σ} {c : ℕ} {f : σ → σ × α} {a : α}
    (h : s.execute c f = some (s',a)) : s.Executes c f s' a := by
  cases hw : s.writer with
  | none =>
    simp only [execute,hw,Option.some.injEq,Prod.mk.injEq] at h
    obtain ⟨rfl,rfl⟩ := h
    constructor <;> simp [Shared.view,Shared.current,hw]
  | some w =>
    by_cases hc : w.1 = c
    · simp only [execute,hw,hc,if_true,Option.some.injEq,Prod.mk.injEq] at h
      obtain ⟨rfl,rfl⟩ := h
      constructor <;> simp [Shared.view,Shared.current,hw,hc]
    · simp [execute,hw,hc] at h

/-- The other connections do not see what is not committed. -/
theorem Executes.view_eq {s s' : Shared σ} {c : ℕ} {f : σ → σ × α} {a : α}
    (h : s.Executes c f s' a) (c' : ℕ) :
    s'.view c' = if c = c' then s'.current else s.view c' := by
  by_cases hc : c = c'
  · subst hc
    simp [Shared.view,Shared.current,h.writer]
  · rw [if_neg hc]
    have hview : s'.view c' = s.committed := by simp [Shared.view,h.writer,hc,h.committed]
    rw [hview]
    cases hw : s.writer with
    | none => simp [Shared.view,hw]
    | some w =>
      have hwc : w.1 = c := h.waits w hw
      simp [Shared.view,hw,hwc,hc]

/-- A connection that nobody holds up can execute. -/
theorem execute_isSome {s : Shared σ} {c : ℕ} (h : ∀ w ∈ s.writer, w.1 = c)
    (f : σ → σ × α) : ∃ s' a, s.execute c f = some (s',a) := by
  cases hw : s.writer with
  | none => exact ⟨_,_,by rw [execute,hw]⟩
  | some w =>
    have hc : w.1 = c := h w hw
    exact ⟨_,_,by rw [execute,hw]; exact if_pos hc⟩

@[simp] theorem current_commit (s : Shared σ) (c : ℕ) : (s.commit c).current = s.current := by
  cases hw : s.writer with
  | none => simp [commit,hw]
  | some w => by_cases hc : w.1 = c <;> simp [commit,current,hw,hc]

theorem committed_commit (s : Shared σ) (c : ℕ) : (s.commit c).committed = s.view c := by
  cases hw : s.writer with
  | none => simp [commit,view,hw]
  | some w => by_cases hc : w.1 = c <;> simp [commit,view,hw,hc]

/-- A commit shows the last state to connections that saw the one before. -/
theorem view_commit (s : Shared σ) (c c' : ℕ) :
    (s.commit c).view c' = s.view c' ∨
      (s.commit c).view c' = s.current ∧ s.view c' = s.committed := by
  cases hw : s.writer with
  | none => exact .inl (by simp [commit,hw])
  | some w =>
    by_cases hc : w.1 = c
    · subst hc
      by_cases hc' : w.1 = c'
      · exact .inl (by simp [commit,view,hw,hc'])
      · exact .inr (by simp [commit,view,current,hw,hc'])
    · exact .inl (by simp [commit,hw,hc])

theorem writer_commit {s : Shared σ} {c : ℕ} {w : ℕ × σ} (h : (s.commit c).writer = some w) :
    s.writer = some w ∧ w.1 ≠ c := by
  cases hw : s.writer with
  | none => simp [commit,hw] at h
  | some w' =>
    by_cases hc : w'.1 = c
    · simp [commit,hw,hc] at h
    · simp only [commit,hw,hc,if_false,Option.some.injEq] at h
      cases h
      exact ⟨rfl,hc⟩

@[simp] theorem current_map (f : σ → σ) (s : Shared σ) : (s.map f).current = f s.current := by
  cases hw : s.writer with
  | none => simp [map,current,hw]
  | some w => simp [map,current,hw]

@[simp] theorem view_map (f : σ → σ) (s : Shared σ) (c : ℕ) :
    (s.map f).view c = f (s.view c) := by
  cases hw : s.writer with
  | none => simp [map,view,hw]
  | some w => by_cases hc : w.1 = c <;> simp [map,view,hw,hc]

theorem mem_writer_map {f : σ → σ} {s : Shared σ} {w : ℕ × σ} :
    w ∈ (s.map f).writer ↔ ∃ w₀ ∈ s.writer, (w₀.1,f w₀.2) = w := Option.map_eq_some_iff

end Shared
end LiveKBench.Lib
