import LiveKBench.KScheduler.Backend
import LiveKBench.Lib.Numerals
import Mathlib.Algebra.Group.Nat.Defs
import Mathlib.Data.List.Induction
import Mathlib.Data.List.TakeWhile

/-! The tag API on the table `jobTag` as SQLite stores it. The API names a job by the hexadecimal
text of its id. The reading endpoints turn that text into a number; the writing one binds the text
itself, which the INTEGER affinity of the column `jobId` turns into what it is in decimal. -/
namespace LiveKBench.KScheduler.TagApi
open KCore Lib

/-- A value of a column with the affinity INTEGER; `δ` stands for the floating-point numbers. -/
inductive Stored (δ : Type*)
  | integer (n : ℕ)
  | real (x : δ)
  | text (s : String)
  deriving DecidableEq, Repr

/-- A path parameter that matches `JobIDRegex`. -/
structure JobIdText where
  text : String
  length : text.toList.length = 8
  hex : ∀ c ∈ text.toList, c.isDigit ∨ c ∈ ['a','b','c','d','e','f']

def hexValue (text : List Char) : ℕ :=
  text.foldl (fun n c => 16*n+(digitValue c).getD 0) 0

def decimalValue (text : List Char) : ℕ :=
  text.foldl (fun n c => 10*n+(digitValue c).getD 0) 0

/-- `JobId(text)`. -/
def JobIdText.jobId (s : JobIdText) : JobId := hexValue s.text.toList

/-- The value of a text in lower-case hexadecimal digits that looks like a number to SQLite: digits,
and perhaps an exponent. -/
def numericValue (text : List Char) : Option ℕ :=
  let mantissa := text.takeWhile Char.isDigit
  match text.dropWhile Char.isDigit with
  | [] => if mantissa = [] then none else some (decimalValue mantissa)
  | c :: exponent =>
    if c = 'e' ∧ mantissa ≠ [] ∧ exponent ≠ [] ∧ exponent.all Char.isDigit then
      some (decimalValue mantissa*10^decimalValue exponent)
    else none

section Api
variable {δ : Type} [DecidableEq δ] (double : ℕ → δ)

/-- What a column with the affinity INTEGER makes of a text; `double` rounds a number that has no
place in 64 bits. -/
def affinity (text : String) : Stored δ :=
  match numericValue text.toList with
  | none => .text text
  | some n => if n < 2^63-1 then .integer n else .real (double n)

structure TagRow (δ : Type*) where
  jobId : Stored δ
  tagKey : String
  tagValue : String
  deriving DecidableEq, Repr

def TagRow.key (row : TagRow δ) : Stored δ × String := (row.jobId,row.tagKey)

/-- The table `jobTag`. -/
abbrev TagTable (δ : Type) := Table (TagRow.key : TagRow δ → Stored δ × String)

/-- `SELECT * FROM jobTag` for one job, as a dictionary. -/
def selectTags (tags : TagTable δ) (jobId : JobId) : List (String × String) :=
  (tags.select fun row => row.jobId = .integer jobId).map fun row => (row.tagKey,row.tagValue)

/-- `get_job`, which reads the tags of the job from the same table. -/
def getJob (db : Db) (tags : TagTable δ) (s : JobIdText) : Option JobContext :=
  (db.digest? s.jobId).map fun d => d.context (db.selectWorkers s.jobId) (selectTags tags s.jobId)

/-- `JobId(value)` of a stored id; the texts in the table matched `JobIDRegex`. -/
def Stored.jobId? : Stored δ → Option JobId
  | .integer n => some n
  | .real _ => none
  | .text s => some (hexValue s.toList)

/-- The entries that `/search` lists over all its pages; a row whose id `JobId` does not take makes
its page raise and has no entry. -/
def search (tags : TagTable δ) (tagKey : String) (tagValue : Option String) :
    List (JobId × String × String) :=
  (tags.select fun row => row.tagKey = tagKey ∧ ∀ v ∈ tagValue, row.tagValue = v).filterMap
    fun row => row.jobId.jobId?.map fun jobId => (jobId,row.tagKey,row.tagValue)

/-- The value of one tag of a job. -/
def value? (tags : TagTable δ) (jobId : JobId) (tagKey : String) : Option String :=
  (tags.get? (.integer jobId,tagKey)).map TagRow.tagValue

section Lemmas
variable {double} {tags : TagTable δ} {id : Stored δ} {k v : String}

end Lemmas

section Digits

lemma hexValue_append (text : List Char) (c : Char) :
    hexValue (text ++ [c]) = 16*hexValue text+(digitValue c).getD 0 := by
  simp [hexValue]

lemma decimalValue_append (text : List Char) (c : Char) :
    decimalValue (text ++ [c]) = 10*decimalValue text+(digitValue c).getD 0 := by
  simp [decimalValue]

lemma decimalValue_le (text : List Char) : decimalValue text ≤ hexValue text := by
  induction text using List.reverseRecOn with
  | nil => exact le_refl 0
  | append_singleton text c ih =>
    rw [hexValue_append,decimalValue_append]
    omega

lemma digitValue_of_isDigit {c : Char} (h : c.isDigit) : (digitValue c).getD 0 < 10 := by
  have hrange : 48 ≤ c.toNat ∧ c.toNat ≤ 57 := by
    simp only [Char.isDigit,Bool.and_eq_true,decide_eq_true_eq] at h
    exact h
  simp only [digitValue,hrange,if_true,and_self,Option.getD_some]
  omega

lemma decimalValue_lt {text : List Char} (h : ∀ c ∈ text, c.isDigit) :
    decimalValue text < 10^text.length := by
  induction text using List.reverseRecOn with
  | nil => simp [decimalValue]
  | append_singleton text c ih =>
    have hdigit := digitValue_of_isDigit (h c (by simp))
    have hlt := ih fun c' hc' => h c' (by simp [hc'])
    rw [decimalValue_append,List.length_append,List.length_singleton,Nat.pow_succ]
    omega

/-- The two readings of digits differ from ten on. -/
theorem decimalValue_eq_iff {text : List Char} (h : ∀ c ∈ text, c.isDigit) :
    decimalValue text = hexValue text ↔ hexValue text < 10 := by
  induction text using List.reverseRecOn with
  | nil => simp [decimalValue,hexValue]
  | append_singleton text c _ =>
    have hle := decimalValue_le text
    have hdigit := digitValue_of_isDigit (h c (by simp))
    rw [hexValue_append,decimalValue_append]
    omega

omit [DecidableEq δ] in
/-- An id in digits only is the same number for both sides exactly if it is less than ten. -/
theorem affinity_eq_jobId_iff {s : JobIdText} (h : ∀ c ∈ s.text.toList, c.isDigit) :
    affinity double s.text = .integer s.jobId ↔ s.jobId < 10 := by
  have hne : s.text.toList ≠ [] := by
    intro hnil
    simpa [hnil] using s.length
  have hlt := decimalValue_lt h
  rw [s.length] at hlt
  have hnum : numericValue s.text.toList = some (decimalValue s.text.toList) := by
    rw [numericValue,List.takeWhile_eq_self_iff.mpr h,List.dropWhile_eq_nil_iff.mpr h]
    simp only [if_neg hne]
  rw [affinity,hnum]
  simp only [if_pos (show decimalValue s.text.toList < 2^63-1 by omega),Stored.integer.injEq]
  exact decimalValue_eq_iff h

end Digits

end Api

end LiveKBench.KScheduler.TagApi
