import Mathlib.Data.List.Basic
import Mathlib.Tactic.TypeStar
import Mathlib.Tactic.Lemma

/-! Structured concurrency: blocks of code that start tasks in a group and leave the group once all
of them ended. What the tasks and the block raise leaves the group as one exception group. -/
namespace LiveKBench.Lib.TaskGroup

variable {ε κ : Type*}

/-- An exception: a plain one, or a group of those that one task group collected. -/
inductive Raised (ε : Type*)
  | single (e : ε)
  | group (errors : List (Raised ε))

mutual
/-- The plain exceptions in an exception, at any depth. -/
def Raised.leaves : Raised ε → List ε
  | .single e => [e]
  | .group errors => Raised.leavesAll errors

def Raised.leavesAll : List (Raised ε) → List ε
  | [] => []
  | e :: errors => e.leaves ++ Raised.leavesAll errors
end

@[simp] theorem Raised.leavesAll_eq (errors : List (Raised ε)) :
    Raised.leavesAll errors = errors.flatMap Raised.leaves := by
  induction errors with
  | nil => rfl
  | cons e errors ih => rw [Raised.leavesAll,ih,List.flatMap_cons]

@[simp] theorem Raised.leaves_single (e : ε) : (Raised.single e).leaves = [e] := rfl

@[simp] theorem Raised.leaves_group (errors : List (Raised ε)) :
    (Raised.group errors).leaves = errors.flatMap Raised.leaves := by
  rw [Raised.leaves,Raised.leavesAll_eq]

/-- How a block ended. `exited` is the exit of the interpreter, which no handler holds up. -/
inductive Ending (ε κ : Type*)
  | completed
  | raised (e : Raised ε)
  | cancelled (reason : κ)
  | exited

namespace Ending

def error? : Ending ε κ → Option (Raised ε)
  | .raised e => some e
  | _ => none

def isExited : Ending ε κ → Bool
  | .exited => true
  | _ => false

def leaves : Ending ε κ → List ε
  | .raised e => e.leaves
  | _ => []

@[simp] theorem error?_completed : (completed : Ending ε κ).error? = none := rfl
@[simp] theorem error?_raised (e : Raised ε) : (raised e : Ending ε κ).error? = some e := rfl
@[simp] theorem error?_cancelled (r : κ) : (cancelled r : Ending ε κ).error? = none := rfl
@[simp] theorem error?_exited : (exited : Ending ε κ).error? = none := rfl
@[simp] theorem isExited_completed : (completed : Ending ε κ).isExited = false := rfl
@[simp] theorem isExited_raised (e : Raised ε) : (raised e : Ending ε κ).isExited = false := rfl
@[simp] theorem isExited_cancelled (r : κ) : (cancelled r : Ending ε κ).isExited = false := rfl
@[simp] theorem isExited_exited : (exited : Ending ε κ).isExited = true := rfl
@[simp] theorem leaves_completed : (completed : Ending ε κ).leaves = [] := rfl
@[simp] theorem leaves_raised (e : Raised ε) : (raised e : Ending ε κ).leaves = e.leaves := rfl
@[simp] theorem leaves_cancelled (r : κ) : (cancelled r : Ending ε κ).leaves = [] := rfl
@[simp] theorem leaves_exited : (exited : Ending ε κ).leaves = [] := rfl

end Ending

/-- How a group ends whose tasks ended as `children` and whose block ended as `body`. A task that
was cancelled leaves no trace; the exceptions of the tasks come before the one of the block. -/
def leaveGroup (children : List (Ending ε κ)) (body : Ending ε κ) : Ending ε κ :=
  if children.any Ending.isExited || body.isExited then .exited
  else
    let errors := children.filterMap Ending.error?
    match errors,body with
    | [],.cancelled reason => .cancelled reason
    | [],.completed => .completed
    | _,_ => .raised (.group (errors ++ body.error?.toList))

/-- Code as its run unfolds: straight code up to its end, or a group of tasks with its block, and
the code after it. -/
inductive Code (ε κ : Type*)
  | ends (ending : Ending ε κ)
  | taskGroup (children : List (Code ε κ)) (body rest : Code ε κ)

/-- The code after a group runs if the group completed. -/
def Ending.followedBy (group rest : Ending ε κ) : Ending ε κ :=
  match group with
  | .completed => rest
  | _ => group

mutual
def Code.ending : Code ε κ → Ending ε κ
  | .ends ending => ending
  | .taskGroup children body rest =>
    (leaveGroup (Code.endings children) body.ending).followedBy rest.ending

def Code.endings : List (Code ε κ) → List (Ending ε κ)
  | [] => []
  | c :: cs => c.ending :: Code.endings cs
end

mutual
/-- The plain exceptions that the code raised, in its own lines or in a task at any depth. -/
def Code.leaves : Code ε κ → List ε
  | .ends ending => ending.leaves
  | .taskGroup children body rest =>
    Code.leavesAll children ++ body.leaves ++
      match leaveGroup (Code.endings children) body.ending with
      | .completed => rest.leaves
      | _ => []

def Code.leavesAll : List (Code ε κ) → List ε
  | [] => []
  | c :: cs => c.leaves ++ Code.leavesAll cs
end

section Leaves
variable {children : List (Ending ε κ)} {body : Ending ε κ}

lemma leaves_eq_error? (e : Ending ε κ) : e.leaves = (e.error?.toList).flatMap Raised.leaves := by
  cases e <;> simp

lemma flatMap_leaves_eq (endings : List (Ending ε κ)) : endings.flatMap Ending.leaves =
    (endings.filterMap Ending.error?).flatMap Raised.leaves := by
  induction endings with
  | nil => rfl
  | cons e endings ih =>
    rw [List.flatMap_cons,ih,leaves_eq_error?]
    cases e <;> simp [List.filterMap_cons]

/-- A group that nothing exits from loses none of the exceptions. -/
theorem leaves_leaveGroup (h : (leaveGroup children body).isExited = false) :
    (leaveGroup children body).leaves = children.flatMap Ending.leaves ++ body.leaves := by
  rw [flatMap_leaves_eq,leaves_eq_error? body]
  unfold leaveGroup at h ⊢
  by_cases hexit : (children.any Ending.isExited || body.isExited) = true
  · rw [if_pos hexit] at h
    exact absurd h (by simp)
  · rw [if_neg hexit]
    cases children.filterMap Ending.error? with
    | cons e errors => simp
    | nil => cases body <;> simp

lemma isExited_leaveGroup : (leaveGroup children body).isExited =
    (children.any Ending.isExited || body.isExited) := by
  unfold leaveGroup
  cases hexit : children.any Ending.isExited || body.isExited with
  | true => rfl
  | false =>
    cases children.filterMap Ending.error? with
    | cons e errors => rfl
    | nil => cases body <;> rfl

lemma isExited_of_followedBy {group rest : Ending ε κ}
    (h : (group.followedBy rest).isExited = false) : group.isExited = false := by
  cases group <;> first | rfl | exact h

mutual
/-- Unless it exits, code ends with exactly the exceptions that it raised. -/
theorem Code.leaves_eq : ∀ c : Code ε κ, c.ending.isExited = false → c.leaves = c.ending.leaves
  | .ends _, _ => by rw [Code.leaves,Code.ending]
  | .taskGroup children body rest, h => by
    rw [Code.ending] at h ⊢
    have hgroup := isExited_of_followedBy h
    have hparts := hgroup
    rw [isExited_leaveGroup,Bool.or_eq_false_iff] at hparts
    have hchildren := Code.leavesAll_eq children hparts.1
    have hbody := Code.leaves_eq body hparts.2
    have hleaves := leaves_leaveGroup hgroup
    rw [Code.leaves,hchildren,hbody,← hleaves]
    cases hg : leaveGroup (Code.endings children) body.ending with
    | completed =>
      rw [hg] at h
      simpa [Ending.followedBy,Ending.leaves] using Code.leaves_eq rest h
    | raised e => simp [Ending.followedBy]
    | cancelled reason => simp [Ending.followedBy]
    | exited => simp [Ending.followedBy]

theorem Code.leavesAll_eq : ∀ cs : List (Code ε κ),
    (Code.endings cs).any Ending.isExited = false →
      Code.leavesAll cs = (Code.endings cs).flatMap Ending.leaves
  | [], _ => rfl
  | c :: cs, h => by
    rw [Code.endings,List.any_cons,Bool.or_eq_false_iff] at h
    rw [Code.leavesAll,Code.endings,List.flatMap_cons,Code.leaves_eq c h.1,
      Code.leavesAll_eq cs h.2]
end

end Leaves
end LiveKBench.Lib.TaskGroup
