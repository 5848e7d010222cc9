import LiveKBench.Lib.Text
import Mathlib.Data.List.Induction

/-! Numbers written with a fixed number of digits in some base, and how they are read back. Such
texts compare as their numbers do, so that texts made of them compare field by field. -/
namespace LiveKBench.Lib

/-- The last `w` digits of a number, the highest first. -/
def numeral (base : ℕ) : ℕ → ℕ → List Char
  | 0, _ => []
  | w+1, n => numeral base w (n/base) ++ [Nat.digitChar (n%base)]

/-- The value of a digit, also of a hexadecimal one in either case. -/
def digitValue (c : Char) : Option ℕ :=
  let n := c.toNat
  if 48 ≤ n ∧ n ≤ 57 then some (n-48)
  else if 97 ≤ n ∧ n ≤ 102 then some (n-87)
  else if 65 ≤ n ∧ n ≤ 70 then some (n-55)
  else none

/-- Read exactly `w` digits; what was read before them is `acc`. -/
def readNumeral (base : ℕ) : ℕ → ℕ → List Char → Option (ℕ × List Char)
  | 0, acc, text => some (acc,text)
  | w+1, acc, c :: text =>
    match digitValue c with
    | some d => if d < base then readNumeral base w (base*acc+d) text else none
    | none => none
  | _+1, _, [] => none

section Numerals
variable {base w n acc : ℕ} {text rest : List Char}

@[simp] theorem length_numeral (base w n : ℕ) : (numeral base w n).length = w := by
  induction w generalizing n with
  | zero => rfl
  | succ w ih => simp [numeral,ih]

theorem digits_eq_numeral (w n : ℕ) : digits w n = numeral 10 w n := by
  induction w generalizing n with
  | zero => rfl
  | succ w ih => rw [digits,numeral,ih]

lemma digitValue_digitChar (h : n < 16) : digitValue (Nat.digitChar n) = some n := by
  have hall : ∀ i : Fin 16, digitValue (Nat.digitChar i) = some i.val := by decide
  exact hall ⟨n,h⟩

/-- The digits are read one after the other. -/
lemma readNumeral_succ (w acc : ℕ) (text : List Char) : readNumeral base (w+1) acc text =
    (readNumeral base w acc text).bind fun r => readNumeral base 1 r.1 r.2 := by
  induction w generalizing acc text with
  | zero => rfl
  | succ w ih =>
    cases text with
    | nil => rfl
    | cons c text =>
      rw [readNumeral,readNumeral]
      cases digitValue c with
      | none => rfl
      | some d =>
        by_cases hd : d < base
        · simp only [hd,if_true]
          exact ih (base*acc+d) text
        · simp only [hd,if_false]
          rfl

/-- What was written is read back. -/
theorem readNumeral_numeral (hbase : 0 < base) (h16 : base ≤ 16) (hn : n < base^w)
    (rest : List Char) : readNumeral base w 0 (numeral base w n ++ rest) = some (n,rest) := by
  induction w generalizing n rest with
  | zero =>
    rw [Nat.pow_zero] at hn
    obtain rfl : n = 0 := by omega
    rfl
  | succ w ih =>
    have hdiv : n/base < base^w := by
      rw [Nat.pow_succ] at hn
      exact Nat.div_lt_of_lt_mul (by rwa [Nat.mul_comm])
    have hmod : n%base < base := Nat.mod_lt _ hbase
    have hvalue := digitValue_digitChar (show n%base < 16 by omega)
    rw [readNumeral_succ,numeral,List.append_assoc,ih hdiv]
    simp only [Option.bind_some,List.singleton_append,readNumeral,hvalue,hmod,if_true]
    rw [Nat.div_add_mod]

@[simp] lemma numeral_zero (base w : ℕ) : numeral base w 0 = List.replicate w '0' := by
  induction w with
  | zero => rfl
  | succ w ih =>
    rw [numeral,Nat.zero_div,ih,List.replicate_succ',Nat.zero_mod]
    rfl

/-- The digits of a number, filled up with zeros. -/
theorem replicate_toDigits (hbase : 1 < base) (hw : 0 < w) (hn : n < base^w) :
    List.replicate (w-(Nat.toDigits base n).length) '0' ++ Nat.toDigits base n =
      numeral base w n := by
  induction w generalizing n with
  | zero => omega
  | succ w ih =>
    by_cases hlt : n < base
    · rw [Nat.toDigits_of_lt_base hlt,numeral,Nat.div_eq_of_lt hlt,Nat.mod_eq_of_lt hlt,
        numeral_zero]
      rfl
    · have hle : base ≤ n := Nat.le_of_not_lt hlt
      have hdiv : n/base < base^w := by
        rw [Nat.pow_succ,Nat.mul_comm] at hn
        exact Nat.div_lt_of_lt_mul hn
      have hpos : 0 < w := by
        have hone : 0 < n/base := Nat.div_pos hle (by omega)
        by_contra h
        obtain rfl : w = 0 := by omega
        rw [Nat.pow_zero] at hdiv
        omega
      rw [Nat.toDigits_of_base_le hbase hle,List.length_append,List.length_singleton,
        Nat.add_sub_add_right,← List.append_assoc,ih hpos hdiv,numeral]

lemma mem_numeral {c : Char} (hbase : 0 < base) (h : c ∈ numeral base w n) :
    ∃ d < base, Nat.digitChar d = c := by
  induction w generalizing n with
  | zero => exact absurd h List.not_mem_nil
  | succ w ih =>
    obtain h | h := List.mem_append.mp h
    · exact ih h
    · exact ⟨n%base,Nat.mod_lt n hbase,(List.mem_singleton.mp h).symm⟩

/-- Every text of digits is the numeral of a number. -/
theorem exists_numeral (h : ∀ c ∈ text, ∃ d < base, Nat.digitChar d = c) :
    ∃ n < base^text.length, text = numeral base text.length n := by
  induction text using List.reverseRecOn with
  | nil => exact ⟨0,Nat.one_pos,rfl⟩
  | append_singleton text c ih =>
    obtain ⟨n,hn,htext⟩ := ih fun c' hc' => h c' (List.mem_append_left _ hc')
    obtain ⟨d,hd,rfl⟩ := h c (List.mem_append_right _ (List.mem_singleton_self c))
    have hdiv : (base*n+d)/base = n := by
      rw [Nat.mul_add_div (by omega),Nat.div_eq_of_lt hd,Nat.add_zero]
    refine ⟨base*n+d,?_,?_⟩
    · have hmul : base*(n+1) ≤ base*base^text.length := Nat.mul_le_mul_left base hn
      rw [Nat.mul_add,Nat.mul_one] at hmul
      rw [List.length_append,List.length_singleton,Nat.pow_succ,Nat.mul_comm _ base]
      omega
    · rw [List.length_append,List.length_singleton,numeral,hdiv,Nat.mul_add_mod,
        Nat.mod_eq_of_lt hd,← htext]

lemma digitChar_lt_iff {m : ℕ} (hn : n < 16) (hm : m < 16) :
    (Nat.digitChar n).toNat < (Nat.digitChar m).toNat ↔ n < m := by
  have h : ∀ i j : Fin 16, (Nat.digitChar i).toNat < (Nat.digitChar j).toNat ↔ i < j := by decide
  exact h ⟨n,hn⟩ ⟨m,hm⟩

/-- A number with `w` digits is the value of its numeral. -/
theorem numeral_inj {m : ℕ} (hbase : 0 < base) (h16 : base ≤ 16) (hn : n < base^w)
    (hm : m < base^w) (h : numeral base w n = numeral base w m) : n = m := by
  have hread := readNumeral_numeral hbase h16 hn []
  rw [h,readNumeral_numeral hbase h16 hm] at hread
  cases hread
  rfl

/-- Texts of one width compare as the numbers that they write. -/
theorem numeral_textBefore_iff {m : ℕ} (hbase : 0 < base) (h16 : base ≤ 16) (hn : n < base^w)
    (hm : m < base^w) :
    textBefore (numeral base w n) (numeral base w m) = true ↔ n < m := by
  induction w generalizing n m with
  | zero =>
    rw [Nat.pow_zero] at hn hm
    simp only [numeral,textBefore_nil,Bool.false_eq_true,false_iff]
    omega
  | succ w ih =>
    rw [Nat.pow_succ,Nat.mul_comm] at hn hm
    have hndiv : n/base < base^w := Nat.div_lt_of_lt_mul hn
    have hmdiv : m/base < base^w := Nat.div_lt_of_lt_mul hm
    have hnmod : n%base < base := Nat.mod_lt n hbase
    have hmmod : m%base < base := Nat.mod_lt m hbase
    have hdiv : numeral base w (n/base) = numeral base w (m/base) ↔ n/base = m/base :=
      ⟨numeral_inj hbase h16 hndiv hmdiv,fun h => by rw [h]⟩
    rw [numeral,numeral,append_textBefore_append (by simp),ih hndiv hmdiv,hdiv,
      cons_textBefore_cons,digitChar_lt_iff (by omega) (by omega)]
    simp only [textBefore_nil,Bool.false_eq_true,and_false,or_false]
    -- the numbers compare by their quotients first, and then by their remainders
    have hn' := Nat.div_add_mod n base
    have hm' := Nat.div_add_mod m base
    constructor
    · intro h
      obtain h | ⟨h,hmod⟩ := h
      · have hmul : base*(n/base+1) ≤ base*(m/base) := Nat.mul_le_mul_left base h
        rw [Nat.mul_add,Nat.mul_one] at hmul
        omega
      · rw [h] at hn'
        omega
    · intro h
      have hle : n/base ≤ m/base := Nat.div_le_div_right (Nat.le_of_lt h)
      obtain hlt | heq := Nat.lt_or_eq_of_le hle
      · exact .inl hlt
      · refine .inr ⟨heq,?_⟩
        rw [heq] at hn'
        omega

theorem digits_inj {m : ℕ} (hn : n < 10^w) (hm : m < 10^w) (h : digits w n = digits w m) :
    n = m := by
  rw [digits_eq_numeral,digits_eq_numeral] at h
  exact numeral_inj (by omega) (by omega) hn hm h

theorem digits_textBefore_iff {m : ℕ} (hn : n < 10^w) (hm : m < 10^w) :
    textBefore (digits w n) (digits w m) = true ↔ n < m := by
  rw [digits_eq_numeral,digits_eq_numeral]
  exact numeral_textBefore_iff (by omega) (by omega) hn hm

end Numerals
end LiveKBench.Lib
