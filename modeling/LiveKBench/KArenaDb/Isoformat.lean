import LiveKBench.KArenaWeb.MonthWindow
import LiveKBench.Lib.Numerals

/-! `datetime.fromisoformat` on the extended formats with a calendar date, and that it reads back
what `isoformat` writes. -/
namespace LiveKBench.KArenaDb
open KArenaWeb (DateTime dayText clockText offsetText daysInMonth daysInMonth_range)
open Lib

/-- The day in microseconds. -/
def dayLength : ℤ := 86400000000

/-- The offset of a `datetime` is less than a day. -/
def ValidOffset (t : DateTime) : Prop := ∀ offset ∈ t.utcoffset, |offset| < dayLength

def readDate (text : List Char) : Option ((ℕ × ℕ × ℕ) × List Char) := do
  let (year,rest) ← readNumeral 10 4 0 text
  match rest with
  | '-' :: rest => do
    let (month,rest) ← readNumeral 10 2 0 rest
    match rest with
    | '-' :: rest => do
      let (day,rest) ← readNumeral 10 2 0 rest
      some ((year,month,day),rest)
    | _ => none
  | _ => none

/-- A fraction of a second; the digits after the sixth are cut off. -/
def readFraction (text : List Char) : Option ℕ :=
  if text ≠ [] ∧ text.all Char.isDigit then
    (readNumeral 10 6 0 (text ++ List.replicate 6 '0')).map Prod.fst
  else none

/-- `HH[:MM[:SS[.ffffff]]]`. -/
def readClock (text : List Char) : Option (ℕ × ℕ × ℕ × ℕ) := do
  let (hour,rest) ← readNumeral 10 2 0 text
  match rest with
  | [] => some (hour,0,0,0)
  | ':' :: rest => do
    let (minute,rest) ← readNumeral 10 2 0 rest
    match rest with
    | [] => some (hour,minute,0,0)
    | ':' :: rest => do
      let (second,rest) ← readNumeral 10 2 0 rest
      match rest with
      | [] => some (hour,minute,second,0)
      | c :: rest =>
        if c = '.' ∨ c = ',' then (readFraction rest).map fun us => (hour,minute,second,us)
        else none
    | _ => none
  | _ => none

def isOffsetMark (c : Char) : Bool := c = '+' || c = '-' || c = 'Z'

def offsetOf (sign : Char) (clock : ℕ × ℕ × ℕ × ℕ) : ℤ :=
  let (hour,minute,second,us) := clock
  let offset : ℤ := hour*3600000000+minute*60000000+second*1000000+us
  if sign = '-' then -offset else offset

/-- The time of the day and the offset. -/
def readTime (text : List Char) : Option ((ℕ × ℕ × ℕ × ℕ) × Option ℤ) := do
  let clock ← readClock (text.takeWhile fun c => !isOffsetMark c)
  match text.dropWhile fun c => !isOffsetMark c with
  | [] => some (clock,none)
  | sign :: rest =>
    if sign = 'Z' then if rest = [] then some (clock,some 0) else none
    else (readClock rest).map fun offset => (clock,some (offsetOf sign offset))

/-- The constructor, with its checks. -/
def mkDateTime (date : ℕ × ℕ × ℕ) (clock : ℕ × ℕ × ℕ × ℕ) (offset : Option ℤ) : Option DateTime :=
  let (year,month,day) := date
  let (hour,minute,second,us) := clock
  if h : ((1 ≤ year ∧ year ≤ 9999) ∧ (1 ≤ month ∧ month ≤ 12) ∧
      1 ≤ day ∧ day ≤ daysInMonth year month) ∧
      (hour < 24 ∧ minute < 60 ∧ second < 60 ∧ us < 1000000) ∧
      ∀ o ∈ offset, |o| < dayLength then
    some ⟨year,month,day,hour,minute,second,us,offset,h.1.1,h.1.2.1,h.1.2.2,h.2.1⟩
  else none

def fromisoformat (text : String) : Option DateTime := do
  let (date,rest) ← readDate text.toList
  match rest with
  | [] => mkDateTime date (0,0,0,0) none
  | _ :: rest => do
    let (clock,offset) ← readTime rest
    mkDateTime date clock offset

section RoundTrip
variable {year month day hour minute second us : ℕ} {rest : List Char} {t : DateTime}

lemma readNumeral_digits {w n : ℕ} (hn : n < 10^w) (rest : List Char) :
    readNumeral 10 w 0 (digits w n ++ rest) = some (n,rest) := by
  rw [digits_eq_numeral]
  exact readNumeral_numeral (by omega) (by omega) hn rest

lemma readDate_dayText (hy : year < 10^4) (hm : month < 10^2) (hd : day < 10^2)
    (rest : List Char) :
    readDate (dayText year month day ++ rest) = some ((year,month,day),rest) := by
  simp only [readDate,dayText,List.append_assoc,List.cons_append,readNumeral_digits hy,
    readNumeral_digits hm,readNumeral_digits hd,Option.bind_eq_bind,Option.bind_some]

lemma isDigit_of_mem_digits {w n : ℕ} {c : Char} (hc : c ∈ digits w n) : c.isDigit = true := by
  induction w generalizing n with
  | zero => cases hc
  | succ w ih =>
    rcases List.mem_append.mp hc with hc | hc
    · exact ih hc
    · have hall : ∀ i : Fin 10, (Nat.digitChar i).isDigit = true := by decide
      rw [List.mem_singleton.mp hc]
      exact hall ⟨n%10,Nat.mod_lt _ (by omega)⟩

lemma readFraction_digits (hus : us < 10^6) : readFraction (digits 6 us) = some us := by
  have hne : digits 6 us ≠ [] := by simp [digits]
  have hall : (digits 6 us).all Char.isDigit = true :=
    List.all_eq_true.mpr fun c hc => isDigit_of_mem_digits hc
  rw [readFraction,if_pos ⟨hne,hall⟩,readNumeral_digits hus]
  rfl

/-- A clock text is read back, also where it ends after the minutes. -/
lemma readClock_clockText (hh : hour < 10^2) (hm : minute < 10^2) (hs : second < 10^2)
    (hus : us < 10^6) : readClock (clockText hour minute second us) =
      some (hour,minute,second,us) := by
  simp only [readClock,clockText,List.append_assoc,List.cons_append,readNumeral_digits hh,
    readNumeral_digits hm,readNumeral_digits hs,Option.bind_eq_bind,Option.bind_some]
  by_cases h0 : us = 0
  · simp [h0]
  · simp [h0,readFraction_digits hus]

lemma readClock_minutes (hh : hour < 10^2) (hm : minute < 10^2) :
    readClock ((clockText hour minute second us).take 5) = some (hour,minute,0,0) := by
  have htake : (clockText hour minute second us).take 5 =
      digits 2 hour ++ ':' :: (digits 2 minute ++ []) := by
    simp only [clockText,List.append_assoc,List.cons_append,List.take_append,length_digits,
      List.append_nil]
    rw [List.take_of_length_le (by simp)]
    simp
  simp only [htake,readClock,readNumeral_digits hh,readNumeral_digits hm,Option.bind_eq_bind,
    Option.bind_some]

/-- No mark of an offset occurs in a clock text. -/
lemma not_isOffsetMark_of_mem {c : Char} (hc : c ∈ clockText hour minute second us) :
    isOffsetMark c = false := by
  have hdigit : ∀ {w n}, c ∈ digits w n → isOffsetMark c = false := by
    intro w n hmem
    have hd := isDigit_of_mem_digits hmem
    by_contra hmark
    simp only [isOffsetMark,Bool.not_eq_false,Bool.or_eq_true,decide_eq_true_eq] at hmark
    rcases hmark with (rfl | rfl) | rfl <;> revert hd <;> decide
  simp only [clockText,List.mem_append,List.mem_cons] at hc
  rcases hc with ((hc | rfl | hc) | rfl | hc) | hc
  · exact hdigit hc
  · rfl
  · exact hdigit hc
  · rfl
  · exact hdigit hc
  · by_cases h0 : us = 0
    · simp [h0] at hc
    · rw [if_neg h0] at hc
      rcases List.mem_cons.mp hc with rfl | hc
      · rfl
      · exact hdigit hc

lemma isOffsetMark_sign (offset : ℤ) : isOffsetMark (if offset < 0 then '-' else '+') = true := by
  split <;> rfl

/-- The parts of an offset make it up. -/
lemma offsetOf_parts (offset : ℤ) :
    let us := offset.natAbs
    offsetOf (if offset < 0 then '-' else '+')
      (us/3600000000,us/60000000%60,us/1000000%60,us%1000000) = offset := by
  by_cases hneg : offset < 0
  · simp only [offsetOf,hneg,if_true]
    omega
  · simp only [offsetOf,hneg,if_false,show ('+' : Char) ≠ '-' by decide]
    omega

/-- The offset text behind its sign gives the parts back, in the short form as well. -/
lemma readClock_offset {us : ℕ} (hus : us < 86400000000) :
    readClock (if us%60000000 = 0
      then (clockText (us/3600000000) (us/60000000%60) (us/1000000%60) (us%1000000)).take 5
      else clockText (us/3600000000) (us/60000000%60) (us/1000000%60) (us%1000000)) =
      some (us/3600000000,us/60000000%60,us/1000000%60,us%1000000) := by
  by_cases hmin : us%60000000 = 0
  · have hsec : us/1000000%60 = 0 := by omega
    have hmicro : us%1000000 = 0 := by omega
    rw [if_pos hmin,readClock_minutes (by omega) (by omega),hsec,hmicro]
  · rw [if_neg hmin,readClock_clockText (by omega) (by omega) (by omega) (by omega)]

lemma offsetText_eq (offset : ℤ) :
    offsetText offset = (if offset < 0 then '-' else '+') ::
      if offset.natAbs%60000000 = 0
        then (clockText (offset.natAbs/3600000000) (offset.natAbs/60000000%60)
          (offset.natAbs/1000000%60) (offset.natAbs%1000000)).take 5
        else clockText (offset.natAbs/3600000000) (offset.natAbs/60000000%60)
          (offset.natAbs/1000000%60) (offset.natAbs%1000000) := by
  rw [offsetText]
  split <;> rfl

/-- The clock ends where the offset's mark stands. -/
lemma takeWhile_mark {clock rest : List Char} {sign : Char}
    (hclock : ∀ c ∈ clock, (!isOffsetMark c) = true) (hsign : isOffsetMark sign = true) :
    (clock ++ sign :: rest).takeWhile (fun c => !isOffsetMark c) = clock ∧
      (clock ++ sign :: rest).dropWhile (fun c => !isOffsetMark c) = sign :: rest := by
  constructor
  · rw [List.takeWhile_append_of_pos hclock]
    simp [hsign]
  · rw [List.dropWhile_append_of_pos hclock]
    simp [hsign]

lemma readTime_clock (h : ValidOffset t) :
    readTime t.clock = some ((t.hour,t.minute,t.second,t.microsecond),t.utcoffset) := by
  have ht := t.timeRange
  have hread : readClock (clockText t.hour t.minute t.second t.microsecond) =
      some (t.hour,t.minute,t.second,t.microsecond) :=
    readClock_clockText (by omega) (by omega) (by omega) (by omega)
  have hmem : ∀ c ∈ clockText t.hour t.minute t.second t.microsecond,
      (!isOffsetMark c) = true := fun c hc => by rw [not_isOffsetMark_of_mem hc]; rfl
  cases hoff : t.utcoffset with
  | none =>
    have htext : t.clock = clockText t.hour t.minute t.second t.microsecond ++ [] := by
      simp [DateTime.clock,hoff]
    rw [readTime,htext,List.takeWhile_append_of_pos hmem,List.dropWhile_append_of_pos hmem,
      List.takeWhile_nil,List.append_nil,hread]
    rfl
  | some offset =>
    have habs : offset.natAbs < 86400000000 := by
      have hday := abs_lt.mp (h offset hoff)
      simp only [dayLength] at hday
      omega
    have htext : t.clock = clockText t.hour t.minute t.second t.microsecond ++ offsetText offset := by
      simp [DateTime.clock,hoff]
    have hsign : (if offset < 0 then '-' else '+') ≠ 'Z' := by split <;> decide
    obtain ⟨htake,hdrop⟩ := takeWhile_mark hmem (isOffsetMark_sign offset)
    rw [readTime,htext,offsetText_eq,htake,hdrop,hread]
    simp only [Option.bind_eq_bind,Option.bind_some,if_neg hsign,readClock_offset habs,
      Option.map_some,offsetOf_parts offset]

/-- What `isoformat` writes is read back. -/
theorem fromisoformat_isoformat (h : ValidOffset t) : fromisoformat t.isoformat = some t := by
  have hy := t.yearRange
  have hm := t.monthRange
  have hd := t.dayRange
  have hmonth := daysInMonth_range t.year t.month
  have hmk : mkDateTime (t.year,t.month,t.day) (t.hour,t.minute,t.second,t.microsecond)
      t.utcoffset = some t :=
    dif_pos ⟨⟨hy,hm,hd⟩,t.timeRange,h⟩
  rw [fromisoformat,DateTime.isoformat,String.toList_ofList,
    readDate_dayText (by omega) (by omega) (by omega)]
  simp only [Option.bind_eq_bind,Option.bind_some,readTime_clock h,hmk]

end RoundTrip
end LiveKBench.KArenaDb
