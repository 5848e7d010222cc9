import LiveKBench.KArenaWeb.MonthWindow

/-! Times without an offset, as the crawler stores them and the command line gives them, in the
order in which `datetime` compares them. Their texts compare in the same order, and so do the texts of
times in UTC. -/
namespace LiveKBench.KArenaDb
open KArenaWeb (DateTime dayText clockText offsetText daysInMonth daysInMonth_range)
open Lib

/-- What `datetime` compares, one field after the other. -/
def timeFields (t : DateTime) : List ℕ :=
  [t.year,t.month,t.day,t.hour,t.minute,t.second,t.microsecond]

/-- `t <= u` for times without an offset. -/
def NotLater (t u : DateTime) : Prop := ¬timeFields u < timeFields t

instance (t u : DateTime) : Decidable (NotLater t u) :=
  inferInstanceAs (Decidable (¬timeFields u < timeFields t))

lemma one_le_daysInMonth (year month : ℕ) : 1 ≤ daysInMonth year month :=
  Nat.le_trans (by omega) (daysInMonth_range year month).1

section Texts
variable {w n m : ℕ} {x y : List Char} {t u : DateTime}

/-- Two texts with a number of one width in front. -/
lemma digits_append_textBefore_iff (hn : n < 10^w) (hm : m < 10^w) :
    textBefore (digits w n ++ x) (digits w m ++ y) = true ↔
      n < m ∨ (n = m ∧ textBefore x y = true) := by
  have hsame : digits w n = digits w m ↔ n = m := ⟨digits_inj hn hm,fun h => by rw [h]⟩
  rw [append_textBefore_append (by simp),digits_textBefore_iff hn hm,hsame]

lemma cons_textBefore_same {c : Char} :
    textBefore (c :: x) (c :: y) = true ↔ textBefore x y = true := by
  rw [cons_textBefore_cons]
  simp

/-- The fraction is left out where it is zero, and what follows it comes before a point. -/
lemma fraction_textBefore_iff (hx : ∀ c ∈ x.head?, c.toNat < '.'.toNat) (hn : n < 10^6)
    (hm : m < 10^6) : textBefore ((if n = 0 then [] else '.' :: digits 6 n) ++ x)
      ((if m = 0 then [] else '.' :: digits 6 m) ++ x) = true ↔ n < m := by
  by_cases hn0 : n = 0
  · by_cases hm0 : m = 0
    · simp [hn0,hm0]
    · rw [if_pos hn0,if_neg hm0,List.nil_append,List.cons_append]
      refine iff_of_true ?_ (hn0 ▸ Nat.pos_of_ne_zero hm0)
      cases x with
      | nil => rfl
      | cons c x => exact cons_textBefore_cons.mpr (.inl (hx c rfl))
  · by_cases hm0 : m = 0
    · rw [if_neg hn0,if_pos hm0,List.nil_append,List.cons_append]
      refine iff_of_false (fun h => ?_) (hm0 ▸ Nat.not_lt_zero n)
      cases x with
      | nil => cases h
      | cons c x =>
        have hc := hx c rfl
        obtain hlt | ⟨rfl,-⟩ := cons_textBefore_cons.mp h
        · exact absurd hlt (Nat.lt_asymm hc)
        · exact lt_irrefl _ hc
    · rw [if_neg hn0,if_neg hm0,List.cons_append,List.cons_append,cons_textBefore_same,
        digits_append_textBefore_iff hn hm]
      simp

/-- The text of the offset. -/
def offsetSuffix (t : DateTime) : List Char := (t.utcoffset.map offsetText).getD []

lemma toList_isoformat (t : DateTime) :
    t.isoformat.toList = digits 4 t.year ++ '-' :: (digits 2 t.month ++ '-' ::
      (digits 2 t.day ++ 'T' :: (digits 2 t.hour ++ ':' :: (digits 2 t.minute ++ ':' ::
        (digits 2 t.second ++ ((if t.microsecond = 0 then [] else '.' :: digits 6 t.microsecond) ++
          offsetSuffix t)))))) := by
  simp [DateTime.isoformat,DateTime.clock,dayText,clockText,offsetSuffix]

/-- The texts of two times with the same offset compare as the times do, where the text of the offset
comes before a point. -/
theorem isoformat_textBefore_iff_of_offset (hoffset : t.utcoffset = u.utcoffset)
    (hpoint : ∀ c ∈ (offsetSuffix t).head?, c.toNat < '.'.toNat) :
    textBefore t.isoformat.toList u.isoformat.toList = true ↔ timeFields t < timeFields u := by
  have hty := t.yearRange
  have huy := u.yearRange
  have htm := t.monthRange
  have hum := u.monthRange
  have htd := t.dayRange
  have hud := u.dayRange
  have htdays := daysInMonth_range t.year t.month
  have hudays := daysInMonth_range u.year u.month
  have htc := t.timeRange
  have huc := u.timeRange
  have hsuffix : offsetSuffix u = offsetSuffix t := by rw [offsetSuffix,offsetSuffix,hoffset]
  rw [toList_isoformat,toList_isoformat,hsuffix,
    digits_append_textBefore_iff (by omega) (by omega),cons_textBefore_same,
    digits_append_textBefore_iff (by omega) (by omega),cons_textBefore_same,
    digits_append_textBefore_iff (by omega) (by omega),cons_textBefore_same,
    digits_append_textBefore_iff (by omega) (by omega),cons_textBefore_same,
    digits_append_textBefore_iff (by omega) (by omega),cons_textBefore_same,
    digits_append_textBefore_iff (by omega) (by omega),
    fraction_textBefore_iff hpoint (by omega) (by omega)]
  simp [timeFields,List.cons_lt_cons_iff]

/-- The texts compare as the times do. -/
theorem isoformat_textBefore_iff (ht : t.utcoffset = none) (hu : u.utcoffset = none) :
    textBefore t.isoformat.toList u.isoformat.toList = true ↔ timeFields t < timeFields u := by
  refine isoformat_textBefore_iff_of_offset (ht.trans hu.symm) ?_
  rw [offsetSuffix,ht]
  exact fun c hc => absurd hc (by simp)

/-- In UTC the text goes on with a plus, which comes before a point. -/
theorem utc_textBefore_iff (ht : t.utcoffset = some 0) (hu : u.utcoffset = some 0) :
    textBefore t.isoformat.toList u.isoformat.toList = true ↔ timeFields t < timeFields u := by
  refine isoformat_textBefore_iff_of_offset (ht.trans hu.symm) ?_
  rw [offsetSuffix,ht]
  intro c hc
  obtain rfl : '+' = c := Option.some.inj hc
  decide

theorem isoformat_lt_iff (ht : t.utcoffset = none) (hu : u.utcoffset = none) :
    t.isoformat < u.isoformat ↔ timeFields t < timeFields u := by
  rw [← isoformat_textBefore_iff ht hu,textBefore_iff_lt]
  exact Iff.rfl

theorem isoformat_textLe_iff (ht : t.utcoffset = none) (hu : u.utcoffset = none) :
    textLe t.isoformat.toList u.isoformat.toList = true ↔ NotLater t u := by
  rw [textLe,Bool.not_eq_true',← Bool.not_eq_true,isoformat_textBefore_iff hu ht,NotLater]

end Texts

/-! ## Seconds later -/

lemma oneMonthRange : 1 ≤ 1 ∧ 1 ≤ 12 := by decide

/-- The time a second later; the calendar ends with the year 9999. -/
def nextSecond (t : DateTime) : Option DateTime :=
  if hs : t.second+1 < 60 then
    some { t with
      second := t.second+1
      timeRange := ⟨t.timeRange.1,t.timeRange.2.1,hs,t.timeRange.2.2.2⟩ }
  else if hm : t.minute+1 < 60 then
    some { t with
      second := 0, minute := t.minute+1
      timeRange := ⟨t.timeRange.1,hm,Nat.zero_lt_succ 59,t.timeRange.2.2.2⟩ }
  else if hh : t.hour+1 < 24 then
    some { t with
      second := 0, minute := 0, hour := t.hour+1
      timeRange := ⟨hh,Nat.zero_lt_succ 59,Nat.zero_lt_succ 59,t.timeRange.2.2.2⟩ }
  else if hd : t.day+1 ≤ daysInMonth t.year t.month then
    some { t with
      second := 0, minute := 0, hour := 0, day := t.day+1
      dayRange := ⟨Nat.succ_pos _,hd⟩
      timeRange := ⟨Nat.zero_lt_succ 23,Nat.zero_lt_succ 59,Nat.zero_lt_succ 59,
        t.timeRange.2.2.2⟩ }
  else if hmo : t.month+1 ≤ 12 then
    some { t with
      second := 0, minute := 0, hour := 0, day := 1, month := t.month+1
      monthRange := ⟨Nat.succ_pos _,hmo⟩
      dayRange := ⟨le_rfl,one_le_daysInMonth _ _⟩
      timeRange := ⟨Nat.zero_lt_succ 23,Nat.zero_lt_succ 59,Nat.zero_lt_succ 59,
        t.timeRange.2.2.2⟩ }
  else if hy : t.year+1 ≤ 9999 then
    some { t with
      second := 0, minute := 0, hour := 0, day := 1, month := 1, year := t.year+1
      yearRange := ⟨Nat.succ_pos _,hy⟩
      monthRange := oneMonthRange
      dayRange := ⟨le_rfl,one_le_daysInMonth _ _⟩
      timeRange := ⟨Nat.zero_lt_succ 23,Nat.zero_lt_succ 59,Nat.zero_lt_succ 59,
        t.timeRange.2.2.2⟩ }
  else none

/-- `t + timedelta(seconds=n)`. -/
def addSeconds (t : DateTime) : ℕ → Option DateTime
  | 0 => some t
  | n+1 => (addSeconds t n).bind nextSecond

section Seconds
variable {t u v : DateTime} {n m : ℕ}

lemma nextSecond_later (h : nextSecond t = some u) :
    timeFields t < timeFields u ∧ u.utcoffset = t.utcoffset := by
  unfold nextSecond at h
  split at h
  · cases h
    simp [timeFields,List.cons_lt_cons_iff]
  split at h
  · cases h
    simp [timeFields,List.cons_lt_cons_iff]
  split at h
  · cases h
    simp [timeFields,List.cons_lt_cons_iff]
  split at h
  · cases h
    simp [timeFields,List.cons_lt_cons_iff]
  split at h
  · cases h
    simp [timeFields,List.cons_lt_cons_iff]
  split at h
  · cases h
    simp [timeFields,List.cons_lt_cons_iff]
  · cases h

lemma utcoffset_addSeconds (h : addSeconds t n = some u) : u.utcoffset = t.utcoffset := by
  induction n generalizing u with
  | zero =>
    cases h
    rfl
  | succ n ih =>
    obtain ⟨v,hv,hnext⟩ := Option.bind_eq_some_iff.mp h
    rw [(nextSecond_later hnext).2,ih hv]

/-- Fewer seconds later is earlier. -/
lemma addSeconds_lt (hn : addSeconds t n = some u) (hm : addSeconds t m = some v) (h : n < m) :
    timeFields u < timeFields v := by
  induction m generalizing v with
  | zero => exact absurd h (Nat.not_lt_zero n)
  | succ m ih =>
    obtain ⟨w,hw,hnext⟩ := Option.bind_eq_some_iff.mp hm
    have hlast := (nextSecond_later hnext).1
    obtain hnm | rfl := Nat.lt_or_eq_of_le (Nat.le_of_lt_succ h)
    · exact List.lt_trans (ih hw hnm) hlast
    · rw [hn] at hw
      cases hw
      exact hlast

/-- Times that are some seconds later than one time come in the order of these seconds. -/
theorem addSeconds_lt_iff (hn : addSeconds t n = some u) (hm : addSeconds t m = some v) :
    timeFields u < timeFields v ↔ n < m := by
  refine ⟨fun h => ?_,addSeconds_lt hn hm⟩
  by_contra hle
  obtain hmn | rfl := Nat.lt_or_eq_of_le (Nat.le_of_not_lt hle)
  · exact List.lt_asymm h (addSeconds_lt hm hn hmn)
  · rw [hn] at hm
    cases hm
    exact List.lt_irrefl _ h

end Seconds
end LiveKBench.KArenaDb
