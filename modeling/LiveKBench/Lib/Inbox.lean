import Mathlib.Data.List.Basic
import Mathlib.Data.List.Nodup
import Mathlib.Tactic.TypeStar

/-! At-least-once message queues. A message is posted, delivered to a consumer that keeps it
unacknowledged, and leaves the queue when that consumer acknowledges it; a consumer that fails or
disconnects gives its deliveries back. The order of messages is not kept. -/
namespace LiveKBench.Lib

/-- Messages of type `α`; a delivery is known by a key of type `κ`. -/
structure Inbox (κ α : Type*) where
  ready : List α
  unacked : List (κ × α)

namespace Inbox
variable {κ α : Type*}

def empty : Inbox κ α := ⟨[],[]⟩

def post (b : Inbox κ α) (a : α) : Inbox κ α := { b with ready := a :: b.ready }

section Delivery
variable [DecidableEq α]

/-- Deliver `a` under the key `k`. -/
def take (b : Inbox κ α) (k : κ) (a : α) : Inbox κ α :=
  ⟨b.ready.erase a,(k,a) :: b.unacked⟩

end Delivery

section Settle
variable [DecidableEq κ]

/-- Drop what was delivered under `k`. -/
def ack (b : Inbox κ α) (k : κ) : Inbox κ α :=
  { b with unacked := b.unacked.filter fun p => p.1 ≠ k }

/-- Put what was delivered under `k` back. -/
def nack (b : Inbox κ α) (k : κ) : Inbox κ α :=
  ⟨(b.unacked.filter fun p => p.1 = k).map Prod.snd ++ b.ready,
   b.unacked.filter fun p => p.1 ≠ k⟩

end Settle

/-- Put every delivery back, as a broker does for a consumer that is gone. -/
def recover (b : Inbox κ α) : Inbox κ α := ⟨b.unacked.map Prod.snd ++ b.ready,[]⟩

@[simp] theorem ready_empty : (empty : Inbox κ α).ready = [] := rfl
@[simp] theorem unacked_empty : (empty : Inbox κ α).unacked = [] := rfl
@[simp] theorem ready_post (b : Inbox κ α) (a : α) : (b.post a).ready = a :: b.ready := rfl
@[simp] theorem unacked_post (b : Inbox κ α) (a : α) : (b.post a).unacked = b.unacked := rfl
@[simp] theorem unacked_recover (b : Inbox κ α) : b.recover.unacked = [] := rfl

@[simp] theorem mem_ready_recover (b : Inbox κ α) (x : α) :
    x ∈ b.recover.ready ↔ x ∈ b.ready ∨ ∃ k, (k,x) ∈ b.unacked := by
  simp [recover,or_comm]

section Delivery
variable [DecidableEq α]

@[simp] theorem ready_take (b : Inbox κ α) (k : κ) (a : α) :
    (b.take k a).ready = b.ready.erase a := rfl

@[simp] theorem unacked_take (b : Inbox κ α) (k : κ) (a : α) :
    (b.take k a).unacked = (k,a) :: b.unacked := rfl

theorem mem_ready_of_take {b : Inbox κ α} {k : κ} {a x : α} (h : x ∈ (b.take k a).ready) :
    x ∈ b.ready := List.mem_of_mem_erase h

/-- A delivery takes no other message away. -/
theorem mem_ready_take {b : Inbox κ α} {k : κ} {a x : α} (h : x ∈ b.ready) (hne : x ≠ a) :
    x ∈ (b.take k a).ready := (List.mem_erase_of_ne hne).mpr h

end Delivery

section Settle
variable [DecidableEq κ]

@[simp] theorem ready_ack (b : Inbox κ α) (k : κ) : (b.ack k).ready = b.ready := rfl

@[simp] theorem mem_unacked_ack (b : Inbox κ α) (k : κ) (p : κ × α) :
    p ∈ (b.ack k).unacked ↔ p ∈ b.unacked ∧ p.1 ≠ k := by
  simp [ack]

@[simp] theorem mem_unacked_nack (b : Inbox κ α) (k : κ) (p : κ × α) :
    p ∈ (b.nack k).unacked ↔ p ∈ b.unacked ∧ p.1 ≠ k := by
  simp [nack]

@[simp] theorem mem_ready_nack (b : Inbox κ α) (k : κ) (x : α) :
    x ∈ (b.nack k).ready ↔ x ∈ b.ready ∨ (k,x) ∈ b.unacked := by
  simp [nack,or_comm]

end Settle

/-! ## Messages that are in the queue once -/

/-- Every message is in the queue once, waiting or delivered. -/
def Once (b : Inbox κ α) : Prop := (b.ready ++ b.unacked.map Prod.snd).Nodup

theorem once_empty : (empty : Inbox κ α).Once := List.nodup_nil

namespace Once
variable {b : Inbox κ α} {a : α} {k : κ}

theorem post (h : b.Once) (hr : a ∉ b.ready) (hu : ∀ k, (k,a) ∉ b.unacked) :
    (b.post a).Once := by
  refine List.nodup_cons.mpr ⟨?_,h⟩
  simpa [hr] using hu

theorem recover (h : b.Once) : b.recover.Once := by
  have hp : (b.unacked.map Prod.snd ++ b.ready).Perm (b.ready ++ b.unacked.map Prod.snd) :=
    List.perm_append_comm
  simpa [Once,Inbox.recover] using hp.nodup_iff.mpr h

theorem take [DecidableEq α] (h : b.Once) (ha : a ∈ b.ready) : (b.take k a).Once := by
  have hp : (b.ready ++ b.unacked.map Prod.snd).Perm
      (b.ready.erase a ++ a :: b.unacked.map Prod.snd) :=
    ((List.perm_cons_erase ha).append_right _).trans List.perm_middle.symm
  exact hp.nodup_iff.mp h

/-- A message that is delivered does not wait any more. -/
theorem not_mem_take [DecidableEq α] (h : b.Once) : a ∉ (b.take k a).ready := by
  have hn : b.ready.Nodup := (List.nodup_append.mp h).1
  exact hn.not_mem_erase

section Settle
variable [DecidableEq κ]

theorem ack (h : b.Once) : (b.ack k).Once :=
  h.sublist (List.Sublist.append_left (List.filter_sublist.map _) _)

theorem nack (h : b.Once) : (b.nack k).Once := by
  have hf : ((b.unacked.filter fun p => p.1 = k) ++ b.unacked.filter fun p => p.1 ≠ k).Perm
      b.unacked := by
    simpa using List.filter_append_perm (fun p : κ × α => decide (p.1 = k)) b.unacked
  have hp : ((b.unacked.filter fun p => p.1 = k).map Prod.snd ++ b.ready ++
      (b.unacked.filter fun p => p.1 ≠ k).map Prod.snd).Perm
        (b.ready ++ b.unacked.map Prod.snd) := by
    refine (List.perm_append_comm.append_right _).trans ?_
    rw [List.append_assoc,← List.map_append]
    exact (hf.map _).append_left _
  exact hp.nodup_iff.mpr h

end Settle
end Once
end Inbox
end LiveKBench.Lib
