import Mathlib.Data.Char
import Mathlib.Data.List.Basic
import Mathlib.Data.List.TakeWhile
import Mathlib.Tactic.IntervalCases
import Mathlib.Tactic.Lemma

/-! JSON values and the compact text they are printed as. No two values have the same text, also
where more text follows. -/
namespace LiveKBench.Lib

def isNumberChar (c : Char) : Bool := c.isDigit || c = '-' || c = '+' || c = '.' || c = 'e' || c = 'E'

def areDigits (chars : List Char) : Bool := !chars.isEmpty && chars.all Char.isDigit

/-- No digits follow a zero at the start. -/
def isWhole (chars : List Char) : Bool :=
  areDigits chars && (chars.head? ≠ some '0' || chars.length = 1)

def dropSign (signs : List Char) : List Char → List Char
  | [] => []
  | c :: chars => if c ∈ signs then chars else c :: chars

/-- A number: an integer, then a fraction and an exponent if there are any. -/
def isNumber (chars : List Char) : Bool :=
  let mantissa := chars.takeWhile fun c => c ∉ ['e','E']
  let exponent := chars.dropWhile fun c => c ∉ ['e','E']
  let fraction := mantissa.dropWhile (· ≠ '.')
  isWhole (dropSign ['-'] (mantissa.takeWhile (· ≠ '.'))) &&
    (fraction.isEmpty || areDigits fraction.tail) &&
    (exponent.isEmpty || areDigits (dropSign ['+','-'] exponent.tail))

section Numbers
variable {chars : List Char} {c : Char}

lemma isDigit_of_areDigits (h : areDigits chars = true) : ∀ c ∈ chars, c.isDigit = true :=
  List.all_eq_true.mp (Bool.and_eq_true_iff.mp h).2

lemma isNumberChar_of_isDigit (h : c.isDigit = true) : isNumberChar c = true := by
  simp [isNumberChar,h]

lemma mem_of_dropSign {signs : List Char} (h : c ∈ chars) : c ∈ signs ∨ c ∈ dropSign signs chars := by
  cases chars with
  | nil => cases h
  | cons d chars =>
    rw [dropSign]
    split_ifs with hsign
    · obtain rfl | h := List.mem_cons.mp h
      · exact .inl hsign
      · exact .inr h
    · exact .inr h

/-- What a part begins with ends the part before it. -/
lemma mem_of_dropWhile {p : Char → Bool} (h : c ∈ chars.dropWhile p) :
    (p c = false ∧ (chars.dropWhile p).head? = some c) ∨ c ∈ (chars.dropWhile p).tail := by
  cases hdrop : chars.dropWhile p with
  | nil =>
    rw [hdrop] at h
    cases h
  | cons d rest =>
    rw [hdrop] at h
    obtain rfl | h := List.mem_cons.mp h
    · have hne : chars.dropWhile p ≠ [] := by simp [hdrop]
      have hhead := List.head_dropWhile_not p hne
      simp only [hdrop,List.head_cons] at hhead
      exact .inl ⟨hhead,rfl⟩
    · exact .inr h

lemma isNumberChar_of_isNumber (h : isNumber chars = true) :
    ∀ c ∈ chars, isNumberChar c = true := by
  intro c hc
  unfold isNumber at h
  simp only [Bool.and_eq_true,Bool.or_eq_true,List.isEmpty_iff] at h
  obtain ⟨⟨hwhole,hfraction⟩,hexponent⟩ := h
  rw [← List.takeWhile_append_dropWhile (p := fun c => c ∉ ['e','E']) (l := chars),
    List.mem_append] at hc
  obtain hc | hc := hc
  · rw [← List.takeWhile_append_dropWhile (p := (· ≠ '.'))
      (l := chars.takeWhile fun c => c ∉ ['e','E']),List.mem_append] at hc
    obtain hc | hc := hc
    · obtain hsign | hc := @mem_of_dropSign _ _ ['-'] hc
      · obtain rfl := List.mem_singleton.mp hsign
        rfl
      · exact isNumberChar_of_isDigit
          (isDigit_of_areDigits (Bool.and_eq_true_iff.mp hwhole).1 c hc)
    · obtain hempty | hdigits := hfraction
      · rw [hempty] at hc
        cases hc
      · obtain ⟨hdot,-⟩ | hc := mem_of_dropWhile hc
        · obtain rfl : c = '.' := by simpa using hdot
          rfl
        · exact isNumberChar_of_isDigit (isDigit_of_areDigits hdigits c hc)
  · obtain hempty | hdigits := hexponent
    · rw [hempty] at hc
      cases hc
    · obtain ⟨he,-⟩ | hc := mem_of_dropWhile hc
      · have he : c = 'e' ∨ c = 'E' := by simpa [or_iff_not_imp_left] using he
        obtain rfl | rfl := he <;> rfl
      · obtain hsign | hc := @mem_of_dropSign _ _ ['+','-'] hc
        · simp only [List.mem_cons,List.not_mem_nil,or_false] at hsign
          obtain rfl | rfl := hsign <;> rfl
        · exact isNumberChar_of_isDigit (isDigit_of_areDigits hdigits c hc)

/-- An integer has no further part. -/
lemma isNumber_of_isWhole {sign : List Char} (hsign : sign = [] ∨ sign = ['-'])
    (h : isWhole chars = true) : isNumber (sign ++ chars) = true := by
  have hdigits := isDigit_of_areDigits (Bool.and_eq_true_iff.mp h).1
  have hplain : ∀ c ∈ sign ++ chars, c ∉ ['e','E'] ∧ c ≠ '.' := by
    intro c hc
    have hc : c = '-' ∨ c.isDigit = true := by
      obtain hc | hc := List.mem_append.mp hc
      · obtain rfl | rfl := hsign
        · cases hc
        · exact .inl (List.mem_singleton.mp hc)
      · exact .inr (hdigits c hc)
    constructor
    · intro he
      simp only [List.mem_cons,List.not_mem_nil,or_false] at he
      obtain rfl | rfl := he <;> revert hc <;> decide
    · rintro rfl
      revert hc
      decide
  have hmantissa : ∀ c ∈ sign ++ chars, decide (c ∉ ['e','E']) = true :=
    fun c hc => decide_eq_true (hplain c hc).1
  have hpoint : ∀ c ∈ sign ++ chars, decide (c ≠ '.') = true :=
    fun c hc => decide_eq_true (hplain c hc).2
  have hdrop : dropSign ['-'] (sign ++ chars) = chars := by
    obtain rfl | rfl := hsign
    · cases chars with
      | nil => rfl
      | cons c chars =>
        rw [List.nil_append,dropSign,if_neg]
        intro hc
        obtain rfl := List.mem_singleton.mp hc
        have hdigit := hdigits '-' List.mem_cons_self
        cases hdigit
    · rfl
  unfold isNumber
  rw [List.takeWhile_eq_self_iff.mpr hmantissa,List.dropWhile_eq_nil_iff.mpr hmantissa]
  dsimp only
  rw [List.takeWhile_eq_self_iff.mpr hpoint,List.dropWhile_eq_nil_iff.mpr hpoint,hdrop,h]
  rfl

lemma areDigits_toDigits (n : ℕ) : areDigits (Nat.toDigits 10 n) = true := by
  rw [areDigits,Bool.and_eq_true_iff,List.all_eq_true]
  exact ⟨by simp [Nat.toDigits_ne_nil],
    fun c hc => Nat.isDigit_of_mem_toDigits (by decide) (by decide) hc⟩

/-- The induction is on the digits before the last one. -/
lemma head?_toDigits (n : ℕ) : n < 10 ∨ (Nat.toDigits 10 n).head? ≠ some '0' := by
  induction n using Nat.strong_induction_on with
  | _ n ih =>
    by_cases hn : n < 10
    · exact .inl hn
    · refine .inr ?_
      rw [Nat.toDigits_of_base_le (by decide) (not_lt.mp hn),
        List.head?_append_of_ne_nil _ Nat.toDigits_ne_nil]
      obtain hsmall | hhead := ih (n/10) (by omega)
      · rw [Nat.toDigits_of_lt_base hsmall]
        have hpos : 0 < n/10 := by omega
        interval_cases n/10 <;> decide
      · exact hhead

lemma isWhole_toDigits (n : ℕ) : isWhole (Nat.toDigits 10 n) = true := by
  rw [isWhole,areDigits_toDigits,Bool.true_and,Bool.or_eq_true,decide_eq_true_eq,decide_eq_true_eq]
  obtain hsmall | hhead := head?_toDigits n
  · rw [Nat.toDigits_of_lt_base hsmall]
    exact .inr rfl
  · exact .inl hhead

end Numbers

/-- The text of a finite number. -/
structure NumberText where
  chars : List Char
  number : isNumber chars = true
  deriving DecidableEq, Repr

lemma NumberText.all_number (text : NumberText) : ∀ c ∈ text.chars, isNumberChar c = true :=
  isNumberChar_of_isNumber text.number

lemma NumberText.ne_nil (text : NumberText) : text.chars ≠ [] := by
  intro hnil
  have hnumber := text.number
  rw [hnil] at hnumber
  cases hnumber

def NumberText.ofInt (n : ℤ) : NumberText where
  chars := (if n < 0 then ['-'] else []) ++ Nat.toDigits 10 n.natAbs
  number := by
    refine isNumber_of_isWhole ?_ (isWhole_toDigits _)
    split_ifs
    · exact .inr rfl
    · exact .inl rfl

inductive Json
  | null
  | bool (value : Bool)
  | num (text : NumberText)
  | str (value : String)
  | arr (items : List Json)
  /-- The members in the order in which they are printed. -/
  | obj (members : List (String × Json))

def hexDigit (n : ℕ) : Char := Char.ofNat (if n < 10 then 48+n else 87+n)

def hexValue (c : Char) : ℕ := if c.toNat < 87 then c.toNat-48 else c.toNat-87

/-- A control character: the short escapes, and the others by their code. -/
def escapeControl (n : ℕ) : List Char :=
  match n with
  | 8 => ['\\','b']
  | 9 => ['\\','t']
  | 10 => ['\\','n']
  | 12 => ['\\','f']
  | 13 => ['\\','r']
  | n => ['\\','u','0','0',hexDigit (n/16),hexDigit (n%16)]

def escape (c : Char) : List Char :=
  if c = '"' then ['\\','"']
  else if c = '\\' then ['\\','\\']
  else if c.toNat < 32 then escapeControl c.toNat
  else [c]

/-- The character at the start of an escaped text, and the rest of the text. -/
def unescape : List Char → Option (Char × List Char)
  | [] => none
  | '\\' :: 'b' :: rest => some (Char.ofNat 8,rest)
  | '\\' :: 't' :: rest => some (Char.ofNat 9,rest)
  | '\\' :: 'n' :: rest => some (Char.ofNat 10,rest)
  | '\\' :: 'f' :: rest => some (Char.ofNat 12,rest)
  | '\\' :: 'r' :: rest => some (Char.ofNat 13,rest)
  | '\\' :: 'u' :: '0' :: '0' :: high :: low :: rest =>
    some (Char.ofNat (16*hexValue high+hexValue low),rest)
  | '\\' :: c :: rest => some (c,rest)
  | c :: rest => some (c,rest)

/-- The text of a string, without the quote before it. -/
def quoteRest (chars : List Char) : List Char := chars.flatMap escape ++ ['"']

def quote (s : String) : List Char := '"' :: quoteRest s.toList

namespace Json

mutual
def print : Json → List Char
  | .null => ['n','u','l','l']
  | .bool true => ['t','r','u','e']
  | .bool false => ['f','a','l','s','e']
  | .num text => text.chars
  | .str s => quote s
  | .arr [] => ['[',']']
  | .arr (item :: items) => '[' :: (print item ++ printItems items)
  | .obj [] => ['\x7b','\x7d']
  | .obj ((name,value) :: members) =>
    '\x7b' :: (quote name ++ ':' :: (print value ++ printMembers members))

/-- The items after the first one. -/
def printItems : List Json → List Char
  | [] => [']']
  | item :: items => ',' :: (print item ++ printItems items)

def printMembers : List (String × Json) → List Char
  | [] => ['\x7d']
  | (name,value) :: members =>
    ',' :: (quote name ++ ':' :: (print value ++ printMembers members))
end

end Json

section Escape
variable {c d : Char} {s t : List Char}

theorem unescape_escape (c : Char) (rest : List Char) :
    unescape (escape c ++ rest) = some (c,rest) := by
  unfold escape
  split
  · rename_i hquote
    rw [hquote]
    rfl
  · split
    · rename_i hslash
      rw [hslash]
      rfl
    · split
      · rename_i hcontrol
        have hall : ∀ n < 32, unescape (escapeControl n ++ rest) = some (Char.ofNat n,rest) := by
          intro n hn
          interval_cases n <;> rfl
        rw [hall _ hcontrol,Char.ofNat_toNat]
      · rename_i hslash _
        rw [List.singleton_append,unescape]
        all_goals intros; simp_all

/-- An escape never begins as another one goes on. -/
theorem escape_append_inj (h : escape c ++ s = escape d ++ t) : c = d ∧ s = t := by
  have hdecoded := congrArg unescape h
  rw [unescape_escape,unescape_escape,Option.some.injEq,Prod.mk.injEq] at hdecoded
  exact hdecoded

/-- No escape begins with the quote that ends a string. -/
lemma escape_append_ne_quote : escape c ++ s ≠ '"' :: t := by
  intro h
  have hdecoded := congrArg unescape h
  rw [unescape_escape,unescape] at hdecoded
  · obtain ⟨rfl,rfl⟩ := Prod.mk.inj (Option.some.inj hdecoded)
    have hlen := congrArg List.length h
    rw [List.length_append] at hlen
    have hquote : (escape '"').length = 2 := by decide
    rw [hquote,List.length_cons] at hlen
    omega
  all_goals intros; simp_all

theorem quoteRest_append_inj {xs ys : List Char} (h : quoteRest xs ++ s = quoteRest ys ++ t) :
    xs = ys ∧ s = t := by
  have hcons : ∀ x xs, quoteRest (x :: xs) = escape x ++ quoteRest xs := by
    intro x xs
    rw [quoteRest,List.flatMap_cons,List.append_assoc]
    rfl
  induction xs generalizing ys with
  | nil =>
    cases ys with
    | nil => exact ⟨rfl,by simpa [quoteRest] using h⟩
    | cons y ys =>
      rw [hcons,List.append_assoc] at h
      exact absurd h.symm escape_append_ne_quote
  | cons x xs ih =>
    cases ys with
    | nil =>
      rw [hcons,List.append_assoc] at h
      exact absurd h escape_append_ne_quote
    | cons y ys =>
      rw [hcons,hcons,List.append_assoc,List.append_assoc] at h
      obtain ⟨rfl,hrest⟩ := escape_append_inj h
      obtain ⟨rfl,hst⟩ := ih hrest
      exact ⟨rfl,hst⟩

theorem quote_append_inj {x y : String} (h : quote x ++ s = quote y ++ t) : x = y ∧ s = t := by
  obtain ⟨hxy,hst⟩ := quoteRest_append_inj (List.cons.inj h).2
  exact ⟨String.toList_inj.mp hxy,hst⟩

end Escape

/-- No number goes on at the start of the text. -/
def Delimited (s : List Char) : Prop := ∀ c ∈ s.head?, isNumberChar c = false

lemma numberText_append_inj {x y : NumberText} {s t : List Char} (hs : Delimited s)
    (ht : Delimited t) (h : x.chars ++ s = y.chars ++ t) : x = y ∧ s = t := by
  have htake : ∀ (x : NumberText) (s : List Char), Delimited s →
      (x.chars ++ s).takeWhile isNumberChar = x.chars := by
    intro x s hs
    rw [List.takeWhile_append_of_pos x.all_number]
    cases s with
    | nil => simp
    | cons c s =>
      have hc : isNumberChar c = false := hs c rfl
      simp [hc]
  have hchars : x.chars = y.chars := by
    rw [← htake x s hs,h,htake y t ht]
  obtain ⟨xs,hx⟩ := x
  obtain ⟨ys,hy⟩ := y
  obtain rfl : xs = ys := hchars
  exact ⟨rfl,List.append_cancel_left h⟩

namespace Json

/-- The first character of a value's text tells which kind of value it is. -/
def kind : Json → ℕ
  | .null => 0
  | .bool true => 1
  | .bool false => 2
  | .num _ => 3
  | .str _ => 4
  | .arr _ => 5
  | .obj _ => 6

def kindOf (c : Char) : ℕ :=
  if isNumberChar c then 3
  else if c = 'n' then 0
  else if c = 't' then 1
  else if c = 'f' then 2
  else if c = '"' then 4
  else if c = '[' then 5
  else if c = '\x7b' then 6
  else 7

lemma exists_lead (a : Json) : ∃ c rest, print a = c :: rest ∧ kindOf c = a.kind := by
  cases a with
  | null => exact ⟨'n',_,rfl,by decide⟩
  | bool value => cases value <;> exact ⟨_,_,rfl,by decide⟩
  | num text =>
    have hne := text.ne_nil
    have hall := text.all_number
    obtain ⟨chars,hnumber⟩ := text
    cases chars with
    | nil => exact absurd rfl hne
    | cons c rest => exact ⟨c,rest,rfl,by simp [kindOf,kind,hall c List.mem_cons_self]⟩
  | str value => exact ⟨'"',_,rfl,(by decide : kindOf '"' = 4)⟩
  | arr items => cases items <;> exact ⟨'[',_,rfl,(by decide : kindOf '[' = 5)⟩
  | obj members =>
    have hopen : kindOf '\x7b' = 6 := by decide
    cases members <;> exact ⟨'\x7b',_,rfl,hopen⟩

lemma kind_eq_of_print {a b : Json} {s t : List Char} (h : print a ++ s = print b ++ t) :
    a.kind = b.kind := by
  obtain ⟨c,rest,ha,hc⟩ := exists_lead a
  obtain ⟨d,rest',hb,hd⟩ := exists_lead b
  rw [ha,hb] at h
  rw [← hc,← hd,(List.cons.inj h).1]

lemma print_ne_close {a : Json} {s t : List Char} : print a ++ s ≠ ']' :: t := by
  intro h
  obtain ⟨c,rest,ha,hc⟩ := exists_lead a
  rw [ha] at h
  rw [(List.cons.inj h).1] at hc
  have hclose : kindOf ']' = 7 := by decide
  rw [hclose] at hc
  cases a with
  | bool value => cases value <;> simp [kind] at hc
  | _ => simp [kind] at hc

lemma delimited_printItems (items : List Json) (s : List Char) :
    Delimited (printItems items ++ s) := by
  cases items <;> simp [printItems,Delimited,isNumberChar]

lemma delimited_printMembers (members : List (String × Json)) (s : List Char) :
    Delimited (printMembers members ++ s) := by
  cases members <;> simp [printMembers,Delimited,isNumberChar]

mutual
/-- The text of a value ends where it ends, whatever follows. -/
theorem print_append_inj (a b : Json) {s t : List Char} (hs : Delimited s) (ht : Delimited t)
    (h : print a ++ s = print b ++ t) : a = b ∧ s = t := by
  have hkind := kind_eq_of_print h
  match a,b with
  | .null,.null => exact ⟨rfl,List.append_cancel_left h⟩
  | .bool true,.bool true => exact ⟨rfl,List.append_cancel_left h⟩
  | .bool false,.bool false => exact ⟨rfl,List.append_cancel_left h⟩
  | .num x,.num y =>
    obtain ⟨rfl,hst⟩ := numberText_append_inj hs ht h
    exact ⟨rfl,hst⟩
  | .str x,.str y =>
    obtain ⟨rfl,hst⟩ := quote_append_inj h
    exact ⟨rfl,hst⟩
  | .arr xs,.arr ys =>
    match xs,ys with
    | [],[] => exact ⟨rfl,List.append_cancel_left h⟩
    | [],y :: ys =>
      simp only [print,List.cons_append,List.append_assoc,List.cons.injEq,true_and] at h
      exact absurd h.symm print_ne_close
    | x :: xs,[] =>
      simp only [print,List.cons_append,List.append_assoc,List.cons.injEq,true_and] at h
      exact absurd h print_ne_close
    | x :: xs,y :: ys =>
      simp only [print,List.cons_append,List.append_assoc,List.cons.injEq,true_and] at h
      obtain ⟨rfl,htail⟩ := print_append_inj x y (delimited_printItems xs s)
        (delimited_printItems ys t) h
      obtain ⟨rfl,hst⟩ := printItems_append_inj xs ys htail
      exact ⟨rfl,hst⟩
  | .obj xs,.obj ys =>
    match xs,ys with
    | [],[] => exact ⟨rfl,List.append_cancel_left h⟩
    | [],(n,y) :: ys => exact absurd (List.cons.inj (List.cons.inj h).2).1 (by decide)
    | (m,x) :: xs,[] => exact absurd (List.cons.inj (List.cons.inj h).2).1 (by decide)
    | (m,x) :: xs,(n,y) :: ys =>
      simp only [print,List.cons_append,List.append_assoc,List.cons.injEq,true_and] at h
      obtain ⟨rfl,hvalue⟩ := quote_append_inj h
      obtain ⟨rfl,htail⟩ := print_append_inj x y (delimited_printMembers xs s)
        (delimited_printMembers ys t) (List.cons.inj hvalue).2
      obtain ⟨rfl,hst⟩ := printMembers_append_inj xs ys htail
      exact ⟨rfl,hst⟩

theorem printItems_append_inj (xs ys : List Json) {s t : List Char}
    (h : printItems xs ++ s = printItems ys ++ t) : xs = ys ∧ s = t := by
  match xs,ys with
  | [],[] => exact ⟨rfl,List.append_cancel_left h⟩
  | [],y :: ys => exact absurd (List.cons.inj h).1 (by decide)
  | x :: xs,[] => exact absurd (List.cons.inj h).1 (by decide)
  | x :: xs,y :: ys =>
    simp only [printItems,List.cons_append,List.append_assoc,List.cons.injEq,true_and] at h
    obtain ⟨rfl,htail⟩ := print_append_inj x y (delimited_printItems xs s)
      (delimited_printItems ys t) h
    obtain ⟨rfl,hst⟩ := printItems_append_inj xs ys htail
    exact ⟨rfl,hst⟩

theorem printMembers_append_inj (xs ys : List (String × Json)) {s t : List Char}
    (h : printMembers xs ++ s = printMembers ys ++ t) : xs = ys ∧ s = t := by
  match xs,ys with
  | [],[] => exact ⟨rfl,List.append_cancel_left h⟩
  | [],(n,y) :: ys => exact absurd (List.cons.inj h).1 (by decide)
  | (m,x) :: xs,[] => exact absurd (List.cons.inj h).1 (by decide)
  | (m,x) :: xs,(n,y) :: ys =>
    simp only [printMembers,List.cons_append,List.append_assoc,List.cons.injEq,true_and] at h
    obtain ⟨rfl,hvalue⟩ := quote_append_inj h
    obtain ⟨rfl,htail⟩ := print_append_inj x y (delimited_printMembers xs s)
      (delimited_printMembers ys t) (List.cons.inj hvalue).2
    obtain ⟨rfl,hst⟩ := printMembers_append_inj xs ys htail
    exact ⟨rfl,hst⟩
end

/-- `null` for an absent value. -/
def ofOption {α : Type*} (f : α → Json) : Option α → Json
  | none => .null
  | some a => f a

def ofTexts (texts : List String) : Json := .arr (texts.map .str)

def ofInt (n : ℤ) : Json := .num (.ofInt n)

theorem print_inj {a b : Json} (h : print a = print b) : a = b := by
  have happend : print a ++ [] = print b ++ [] := by rw [h]
  exact (print_append_inj a b (by simp [Delimited]) (by simp [Delimited]) happend).1

/-- The text that is written to a file. -/
def text (a : Json) : String := .ofList a.print

theorem text_inj {a b : Json} : a.text = b.text ↔ a = b :=
  ⟨fun h => print_inj (String.ofList_inj.mp h),fun h => h ▸ rfl⟩

end Json
end LiveKBench.Lib
