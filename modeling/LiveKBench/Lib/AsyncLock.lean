import Mathlib.Data.Nat.Notation
import Mathlib.Tactic.Lemma

/-! The lock of an event loop. An acquire that need not wait goes on at once; one that waits is woken
by a release, in its turn, and takes the lock when it runs again. -/
namespace LiveKBench.Lib

/-- The waiters are in their order, each with whether it has been woken. -/
structure AsyncLock where
  locked : Bool
  waiters : List (ℕ × Bool)
  deriving DecidableEq, Repr

namespace AsyncLock

def free : AsyncLock := ⟨false,[]⟩

/-- An acquire that need not wait. -/
def acquire? (l : AsyncLock) : Option AsyncLock :=
  if !l.locked && l.waiters.isEmpty then some { l with locked := true } else none

def wait (l : AsyncLock) (waiter : ℕ) : AsyncLock :=
  { l with waiters := l.waiters ++ [(waiter,false)] }

/-- The first waiter is woken. -/
def wakeUpFirst (l : AsyncLock) : AsyncLock :=
  match l.waiters with
  | [] => l
  | (waiter,_) :: rest => { l with waiters := (waiter,true) :: rest }

def release (l : AsyncLock) : AsyncLock := wakeUpFirst { l with locked := false }

def without (l : AsyncLock) (waiter : ℕ) : AsyncLock :=
  { l with waiters := l.waiters.filter fun w => w.1 ≠ waiter }

/-- A waiter that was woken runs again. -/
def resume? (l : AsyncLock) (waiter : ℕ) : Option AsyncLock :=
  if (waiter,true) ∈ l.waiters then some { l.without waiter with locked := true } else none

/-- A waiter is cancelled; where the lock is not held, the next one is woken. -/
def cancel (l : AsyncLock) (waiter : ℕ) : AsyncLock :=
  if l.locked then l.without waiter else (l.without waiter).wakeUpFirst

@[simp] theorem acquire?_free : free.acquire? = some ⟨true,[]⟩ := rfl

@[simp] theorem release_of_acquired : (⟨true,[]⟩ : AsyncLock).release = free := rfl

@[simp] theorem resume?_free (waiter : ℕ) : free.resume? waiter = none := rfl

end AsyncLock
end LiveKBench.Lib
