import Mathlib.Tactic.Lemma
import Mathlib.Tactic.TypeStar

/-! One connection to a database. Its operations run on a working copy; one that succeeds commits
at its end, and one that fails leaves what it has written in the open transaction, for the next
commit of the connection. -/
namespace LiveKBench.Lib

structure Connection (σ : Type*) where
  committed : σ
  working : σ

namespace Connection
variable {σ ε α : Type*}

def opened (db : σ) : Connection σ := ⟨db,db⟩

/-- One operation with its result. -/
def call (op : σ → σ × Except ε α) (c : Connection σ) : Connection σ × Except ε α :=
  match op c.working with
  | (db,.ok a) => (⟨db,db⟩,.ok a)
  | (db,.error e) => (⟨c.committed,db⟩,.error e)

/-- The connection after some operations. -/
def calls (ops : List (σ → σ × Except ε α)) (c : Connection σ) : Connection σ :=
  ops.foldl (fun c op => (c.call op).1) c

/-- Every one of the operations succeeds, in their order. -/
def AllSucceed : List (σ → σ × Except ε α) → Connection σ → Prop
  | [], _ => True
  | op :: ops, c => (∃ a, (op c.working).2 = .ok a) ∧ AllSucceed ops (c.call op).1

theorem call_of_ok {op : σ → σ × Except ε α} {c : Connection σ} {a : α}
    (h : (op c.working).2 = .ok a) : (c.call op).1 = opened (op c.working).1 := by
  unfold call opened
  split
  · next db a' hop => rw [hop]
  · next db e hop =>
    rw [hop] at h
    cases h

theorem call_of_error {op : σ → σ × Except ε α} {c : Connection σ} {e : ε}
    (h : (op c.working).2 = .error e) : (c.call op).1 = ⟨c.committed,(op c.working).1⟩ := by
  unfold call
  split
  · next db a hop =>
    rw [hop] at h
    cases h
  · next db e' hop => rw [hop]

/-- The operation succeeds on both of two related databases, if on the first, and leaves related
ones. -/
def Respects (R : σ → σ → Prop) (op : σ → σ × Except ε α) : Prop :=
  ∀ db db', R db db' → ∀ a, (op db).2 = .ok a →
    (∃ a', (op db').2 = .ok a') ∧ R (op db).1 (op db').1

/-- Operations that respect a relation do not tell apart two connections whose databases it
relates. -/
theorem related_calls {R : σ → σ → Prop} {ops : List (σ → σ × Except ε α)}
    (hops : ∀ op ∈ ops, Respects R op) {c d : Connection σ} (hc : R c.committed d.committed)
    (hw : R c.working d.working) (hs : AllSucceed ops c) :
    R (c.calls ops).committed (d.calls ops).committed := by
  induction ops generalizing c d with
  | nil => exact hc
  | cons op ops ih =>
    obtain ⟨⟨a,ha⟩,hrest⟩ := hs
    obtain ⟨⟨a',ha'⟩,hr⟩ := hops op List.mem_cons_self _ _ hw a ha
    have hcd : R (c.call op).1.committed (d.call op).1.committed ∧
        R (c.call op).1.working (d.call op).1.working := by
      rw [call_of_ok ha,call_of_ok ha']
      exact ⟨hr,hr⟩
    exact ih (fun op' h' => hops op' (List.mem_cons_of_mem _ h')) hcd.1 hcd.2 hrest

/-- Each of the operations meets a condition on the database that it works on. -/
def EveryCall {ι : Type*} (run : ι → σ → σ × Except ε α) (condition : ι → σ → Prop) :
    List ι → Connection σ → Prop
  | [], _ => True
  | i :: is, c => condition i c.working ∧ EveryCall run condition is (c.call (run i)).1

/-- What every operation that meets the condition keeps holds of what has been committed. -/
theorem kept_calls {ι : Type*} {run : ι → σ → σ × Except ε α} {condition : ι → σ → Prop}
    {P : σ → Prop} (hkeep : ∀ i db, condition i db → P db → P (run i db).1) {is : List ι}
    {c : Connection σ} (hcommitted : P c.committed) (hworking : P c.working)
    (h : EveryCall run condition is c) : P (c.calls (is.map run)).committed := by
  induction is generalizing c with
  | nil => exact hcommitted
  | cons i is ih =>
    obtain ⟨hi,his⟩ := h
    have hnext := hkeep i c.working hi hworking
    have hcall : P (c.call (run i)).1.committed ∧ P (c.call (run i)).1.working := by
      cases hrun : (run i c.working).2 with
      | ok a =>
        rw [call_of_ok hrun]
        exact ⟨hnext,hnext⟩
      | error e =>
        rw [call_of_error hrun]
        exact ⟨hcommitted,hnext⟩
    exact ih hcall.1 hcall.2 his

end Connection
end LiveKBench.Lib
