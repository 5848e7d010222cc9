import LiveKBench.KCore.Models
import LiveKBench.Lib.Numerals

/-! The texts of job ids: hexadecimal digits, eight at least, which the API takes where there are
exactly eight. -/
namespace LiveKBench.KCore
open Lib

/-- `hex(n)`. -/
def hex (n : ℤ) : List Char :=
  (if n < 0 then ['-'] else []) ++ '0' :: 'x' :: Nat.toDigits 16 n.natAbs

/-- `JobId.__str__`. -/
def JobId.str (jobId : ℤ) : String :=
  let s := (hex jobId).drop 2
  String.ofList (List.replicate (8-s.length) '0' ++ s)

/-- The digits after `0x`, where an underscore may stand before each of them; those read so far are
worth `acc`. -/
def readHex : ℕ → List Char → Option ℕ
  | acc, [] => some acc
  | acc, '_' :: c :: text => (digitValue c).bind fun d => readHex (16*acc+d) text
  | acc, c :: text => (digitValue c).bind fun d => readHex (16*acc+d) text

/-- `int('0x' + value, 16)`, with the digits of ASCII. Only the right end can be stripped. -/
def intOfHex (value : String) : Option ℕ :=
  match (value.toList.reverse.dropWhile isPySpace).reverse with
  | [] => none
  | text => readHex 0 text

/-- What `JobId` is called with. -/
inductive JobIdValue
  | int (value : ℤ)
  | str (value : String)
  | other

/-- `JobId.__new__`; without a value it raises a `ValueError`. -/
def JobId.new : JobIdValue → Option ℤ
  | .int value => some value
  | .str value => (intOfHex value).map fun n => n
  | .other => none

def isHexDigit (c : Char) : Bool :=
  c.isDigit || ('a'.toNat ≤ c.toNat && c.toNat ≤ 'f'.toNat)

/-- `JobIDRegex`; for pydantic's engine `$` is the end of the text. -/
def matchesJobIDRegex (s : String) : Bool := s.toList.length = 8 && s.toList.all isHexDigit

section Digits
variable {c : Char} {text : List Char}

lemma isHexDigit_iff : isHexDigit c = true ↔
    48 ≤ c.toNat ∧ c.toNat ≤ 57 ∨ 97 ≤ c.toNat ∧ c.toNat ≤ 102 := by
  simp only [isHexDigit,Char.isDigit,Bool.or_eq_true,Bool.and_eq_true,decide_eq_true_eq]
  exact Iff.rfl

/-- The sixteen digits. -/
lemma isHexDigit_iff_digitChar : isHexDigit c = true ↔ ∃ d < 16, Nat.digitChar d = c := by
  constructor
  · intro h
    have hall : ∀ i : Fin 128, isHexDigit (Char.ofNat i) = true →
        ∃ d : Fin 16, Nat.digitChar d = Char.ofNat i := by decide
    have hlt : c.toNat < 128 := by
      rw [isHexDigit_iff] at h
      omega
    obtain ⟨d,hd⟩ := hall ⟨c.toNat,hlt⟩ (by simpa using h)
    exact ⟨d,d.isLt,by simpa using hd⟩
  · intro h
    obtain ⟨d,hd,rfl⟩ := h
    have hall : ∀ i : Fin 16, isHexDigit (Nat.digitChar i) = true := by decide
    exact hall ⟨d,hd⟩

lemma isHexDigit_of_mem_numeral {w n : ℕ} (h : c ∈ numeral 16 w n) : isHexDigit c = true :=
  isHexDigit_iff_digitChar.mpr (mem_numeral (by omega) h)

lemma isPySpace_of_isHexDigit (h : isHexDigit c = true) : isPySpace c = false := by
  obtain ⟨d,hd,rfl⟩ := isHexDigit_iff_digitChar.mp h
  have hall : ∀ i : Fin 16, isPySpace (Nat.digitChar i) = false := by decide
  exact hall ⟨d,hd⟩

/-- There is nothing to strip. -/
lemma rstrip_of_isHexDigit (h : ∀ c ∈ text, isHexDigit c = true) :
    (text.reverse.dropWhile isPySpace).reverse = text := by
  induction text using List.reverseRecOn with
  | nil => rfl
  | append_singleton text c _ =>
    have hc := isPySpace_of_isHexDigit (h c (List.mem_append_right _ (List.mem_singleton_self c)))
    rw [List.reverse_append,List.reverse_singleton,List.singleton_append,List.dropWhile_cons,hc]
    simp

/-- Without underscores the digits are those of a numeral. -/
lemma readHex_eq (h : ∀ c ∈ text, isHexDigit c = true) (acc : ℕ) :
    readHex acc text = (readNumeral 16 text.length acc text).map Prod.fst := by
  induction text generalizing acc with
  | nil => rfl
  | cons c text ih =>
    obtain ⟨d,hd,rfl⟩ := isHexDigit_iff_digitChar.mp (h c List.mem_cons_self)
    have hne : Nat.digitChar d ≠ '_' := by
      have hall : ∀ i : Fin 16, Nat.digitChar i ≠ '_' := by decide
      exact hall ⟨d,hd⟩
    rw [readHex,List.length_cons,readNumeral,digitValue_digitChar hd,Option.bind_some]
    · simp only [hd,if_true]
      exact ih (fun c' hc' => h c' (List.mem_cons_of_mem _ hc')) _
    · intro c' text' hc'
      exact absurd hc' hne

end Digits

/-! ## The codec -/

section Codec
variable {j : ℕ}

lemma hex_drop (j : ℕ) : (hex j).drop 2 = Nat.toDigits 16 j := by
  rw [hex,if_neg (by omega)]
  rfl

/-- An id has eight digits, or as many as it needs. -/
theorem JobId.toList_str (j : ℕ) :
    (JobId.str j).toList = numeral 16 (max 8 (Nat.toDigits 16 j).length) j := by
  have hlt : j < 16^max 8 (Nat.toDigits 16 j).length :=
    (Nat.length_toDigits_le_iff (by omega) (by omega)).mp (Nat.le_max_right _ _)
  rw [JobId.str,hex_drop,String.toList_ofList,← replicate_toDigits (by omega) (by omega) hlt]
  congr 2
  omega

lemma JobId.toList_str_of_lt (h : j < 2^32) : (JobId.str j).toList = numeral 16 8 j := by
  have hlen : (Nat.toDigits 16 j).length ≤ 8 :=
    (Nat.length_toDigits_le_iff (by omega) (by omega)).mpr (by omega)
  rw [JobId.toList_str,Nat.max_eq_left hlen]

/-- The printed id is read back. -/
theorem JobId.new_str (j : ℕ) : JobId.new (.str (JobId.str j)) = some (j : ℤ) := by
  have hdigits : ∀ c ∈ (JobId.str j).toList, isHexDigit c = true := by
    intro c hc
    rw [JobId.toList_str] at hc
    exact isHexDigit_of_mem_numeral hc
  have hlt : j < 16^max 8 (Nat.toDigits 16 j).length :=
    (Nat.length_toDigits_le_iff (by omega) (by omega)).mp (Nat.le_max_right _ _)
  have hread : readHex 0 (JobId.str j).toList = some j := by
    have hnumeral := readNumeral_numeral (by omega) (by omega) hlt []
    rw [readHex_eq hdigits,JobId.toList_str,length_numeral]
    rw [List.append_nil] at hnumeral
    rw [hnumeral]
    rfl
  have hne : (JobId.str j).toList ≠ [] := by
    intro hnil
    rw [JobId.toList_str] at hnil
    have hlen := congrArg List.length hnil
    rw [length_numeral,List.length_nil] at hlen
    omega
  rw [JobId.new,intOfHex,rstrip_of_isHexDigit hdigits]
  split
  · exact absurd ‹_› hne
  · rw [hread]
    rfl

/-- A text that the API takes is the printed text of an id with eight digits. -/
theorem JobId.exists_of_matches {s : String} (h : matchesJobIDRegex s = true) :
    ∃ j < 2^32, JobId.str (j : ℕ) = s := by
  simp only [matchesJobIDRegex,Bool.and_eq_true,decide_eq_true_eq,List.all_eq_true] at h
  obtain ⟨n,hn,htext⟩ := exists_numeral fun c hc => isHexDigit_iff_digitChar.mp (h.2 c hc)
  rw [h.1] at hn htext
  refine ⟨n,by omega,String.toList_inj.mp ?_⟩
  rw [JobId.toList_str_of_lt (by omega),htext]

theorem JobId.matches_str_iff (j : ℕ) : matchesJobIDRegex (JobId.str j) = true ↔ j < 2^32 := by
  have hall : (JobId.str j).toList.all isHexDigit = true := by
    rw [JobId.toList_str]
    exact List.all_eq_true.mpr fun c hc => isHexDigit_of_mem_numeral hc
  have hlen : (Nat.toDigits 16 j).length ≤ 8 ↔ j < 16^8 :=
    Nat.length_toDigits_le_iff (by omega) (by omega)
  rw [matchesJobIDRegex,hall,Bool.and_true,decide_eq_true_eq,JobId.toList_str,length_numeral]
  omega

/-- The texts of ids with eight digits are in the order of the ids. -/
theorem JobId.str_textBefore_iff {j j' : ℕ} (h : j < 2^32) (h' : j' < 2^32) :
    textBefore (JobId.str j).toList (JobId.str j').toList = true ↔ j < j' := by
  rw [JobId.toList_str_of_lt h,JobId.toList_str_of_lt h']
  exact numeral_textBefore_iff (by omega) (by omega) (by omega) (by omega)

/-- What is printed is read back, what the API takes is printed again, and it takes the ids with
eight digits, whose texts are in their order. -/
theorem JobId.codec :
    (∀ j : ℕ, JobId.new (.str (JobId.str j)) = some (j : ℤ)) ∧
    (∀ s, matchesJobIDRegex s = true → (JobId.new (.str s)).map JobId.str = some s) ∧
    (∀ j : ℕ, matchesJobIDRegex (JobId.str j) = true ↔ j < 2^32) ∧
    ∀ j j' : ℕ, j < 2^32 → j' < 2^32 →
      (textBefore (JobId.str j).toList (JobId.str j').toList = true ↔ j < j') := by
  refine ⟨JobId.new_str,fun s hs => ?_,JobId.matches_str_iff,fun j j' h h' => ?_⟩
  · obtain ⟨j,-,rfl⟩ := JobId.exists_of_matches hs
    rw [JobId.new_str]
    rfl
  · exact JobId.str_textBefore_iff h h'

end Codec
end LiveKBench.KCore
