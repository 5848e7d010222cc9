import Mathlib.Algebra.Group.Nat.Defs
import Mathlib.Data.List.Basic
import Mathlib.Data.Nat.Notation
import Mathlib.Tactic.Lemma

/-! Texts in the order of their code points, and numbers written with a fixed number of decimal
digits. -/
namespace LiveKBench.Lib

/-- The binary collation: the first text comes before the second. -/
def textBefore : List Char → List Char → Bool
  | _, [] => false
  | [], _ :: _ => true
  | c :: cs, d :: ds => c.toNat < d.toNat || (c = d && textBefore cs ds)

def textLe (a b : List Char) : Bool := !textBefore b a

@[simp] theorem textBefore_nil (a : List Char) : textBefore a [] = false := by cases a <;> rfl

@[simp] theorem nil_textBefore_cons (d : Char) (b : List Char) : textBefore [] (d :: b) = true :=
  rfl

theorem cons_textBefore_cons {c d : Char} {a b : List Char} :
    textBefore (c :: a) (d :: b) = true ↔ c.toNat < d.toNat ∨ (c = d ∧ textBefore a b = true) := by
  simp [textBefore]

@[simp] theorem textBefore_self (a : List Char) : textBefore a a = false := by
  induction a with
  | nil => rfl
  | cons c a ih => simp [textBefore,ih]

/-- It is the lexicographic order. -/
theorem textBefore_iff_lt {a b : List Char} : textBefore a b = true ↔ a < b := by
  induction a generalizing b with
  | nil => cases b <;> simp
  | cons c a ih =>
    cases b with
    | nil => simp
    | cons d b =>
      rw [cons_textBefore_cons,List.cons_lt_cons_iff,ih]
      exact Iff.rfl

/-- Texts whose first parts are of one length compare by these, and then by the rest. -/
theorem append_textBefore_append {a b x y : List Char} (h : a.length = b.length) :
    textBefore (a ++ x) (b ++ y) = true ↔
      textBefore a b = true ∨ (a = b ∧ textBefore x y = true) := by
  induction a generalizing b with
  | nil =>
    obtain rfl : b = [] := List.length_eq_zero_iff.mp h.symm
    simp
  | cons c a ih =>
    cases b with
    | nil => simp at h
    | cons d b =>
      have hlen : a.length = b.length := by simpa using h
      rw [List.cons_append,List.cons_append,cons_textBefore_cons,cons_textBefore_cons,ih hlen]
      simp only [List.cons.injEq]
      tauto

lemma textBefore_trichotomy (a b : List Char) :
    textBefore a b = true ∨ a = b ∨ textBefore b a = true := by
  induction a generalizing b with
  | nil => cases b <;> simp
  | cons c a ih =>
    cases b with
    | nil => simp
    | cons d b =>
      rw [cons_textBefore_cons,cons_textBefore_cons]
      obtain h | h | h := Nat.lt_trichotomy c.toNat d.toNat
      · exact .inl (.inl h)
      · obtain rfl := Char.toNat_inj.mp h
        obtain hab | rfl | hba := ih b
        · exact .inl (.inr ⟨rfl,hab⟩)
        · exact .inr (.inl rfl)
        · exact .inr (.inr (.inr ⟨rfl,hba⟩))
      · exact .inr (.inr (.inl h))

lemma textBefore_trans {a b x : List Char} (hab : textBefore a b = true)
    (hbx : textBefore b x = true) : textBefore a x = true := by
  induction a generalizing b x with
  | nil =>
    cases x with
    | nil => simp at hbx
    | cons _ _ => rfl
  | cons c a ih =>
    cases b with
    | nil => simp at hab
    | cons d b =>
      cases x with
      | nil => simp at hbx
      | cons e x =>
        rw [cons_textBefore_cons] at hab hbx ⊢
        obtain h | ⟨rfl,h⟩ := hab
        · obtain h' | ⟨rfl,_⟩ := hbx
          · exact .inl (Nat.lt_trans h h')
          · exact .inl h
        · obtain h' | ⟨rfl,h'⟩ := hbx
          · exact .inl h'
          · exact .inr ⟨rfl,ih h h'⟩

lemma not_textBefore_of_textBefore {a b : List Char} (h : textBefore a b = true) :
    textBefore b a = false := by
  rw [← Bool.not_eq_true]
  intro h'
  simpa using textBefore_trans h h'

theorem textLe_total (a b : List Char) : textLe a b = true ∨ textLe b a = true := by
  obtain h | rfl | h := textBefore_trichotomy a b
  · exact .inl (by rw [textLe,not_textBefore_of_textBefore h]; rfl)
  · exact .inl (by simp [textLe])
  · exact .inr (by rw [textLe,not_textBefore_of_textBefore h]; rfl)

theorem textLe_trans {a b x : List Char} (h : textLe a b = true) (h' : textLe b x = true) :
    textLe a x = true := by
  obtain hab | rfl | hba := textBefore_trichotomy a b
  · obtain hbx | rfl | hxb := textBefore_trichotomy b x
    · rw [textLe,not_textBefore_of_textBefore (textBefore_trans hab hbx)]
      rfl
    · exact h
    · simp [textLe,hxb] at h'
  · exact h'
  · simp [textLe,hba] at h

/-- The last `w` decimal digits of a number, the highest first. -/
def digits : ℕ → ℕ → List Char
  | 0, _ => []
  | w+1, n => digits w (n/10) ++ [Nat.digitChar (n%10)]

@[simp] theorem length_digits (w n : ℕ) : (digits w n).length = w := by
  induction w generalizing n with
  | zero => rfl
  | succ w ih => simp [digits,ih]

end LiveKBench.Lib
