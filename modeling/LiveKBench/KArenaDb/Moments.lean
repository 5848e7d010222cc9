import LiveKBench.KArenaDb.TimeOrder

/-! The moments of times in UTC, in microseconds from the first day of the calendar on. Times compare
field by field as their moments do. -/
namespace LiveKBench.KArenaDb
open KArenaWeb (DateTime daysInMonth daysInMonth_range isLeapYear)

/-- The days of all years before. -/
def daysBeforeYear (year : ℕ) : ℕ := (year-1)*365+(year-1)/4-(year-1)/100+(year-1)/400

/-- The days of the first months of a year. -/
def daysOfMonths (year : ℕ) : ℕ → ℕ
  | 0 => 0
  | month+1 => daysOfMonths year month+daysInMonth year (month+1)

/-- `toordinal`. -/
def toordinal (t : DateTime) : ℕ := daysBeforeYear t.year+daysOfMonths t.year (t.month-1)+t.day

def moment (t : DateTime) : ℕ :=
  (((toordinal t*24+t.hour)*60+t.minute)*60+t.second)*1000000+t.microsecond

section Moments
variable {year year' month month' : ℕ} {t u : DateTime}

lemma daysOfMonths_year (year : ℕ) :
    daysOfMonths year 12 = if isLeapYear year then 366 else 365 := by
  cases hyear : isLeapYear year with
  | true => simp [daysOfMonths,daysInMonth,hyear]
  | false => simp [daysOfMonths,daysInMonth,hyear]

/-- Every fourth year has one day more, but not every hundredth one, unless it is a four hundredth. -/
lemma daysBeforeYear_succ (h : 1 ≤ year) :
    daysBeforeYear (year+1) = daysBeforeYear year+daysOfMonths year 12 := by
  obtain ⟨n,rfl⟩ := Nat.exists_eq_add_of_le' h
  have hleap : isLeapYear (n+1) = true ↔ 4 ∣ n+1 ∧ (¬100 ∣ n+1 ∨ 400 ∣ n+1) := by
    simp [isLeapYear,Nat.dvd_iff_mod_eq_zero]
  have hcentury : 100 ∣ n+1 → 4 ∣ n+1 := Nat.dvd_trans (by decide)
  have hcenturies : 400 ∣ n+1 → 100 ∣ n+1 := Nat.dvd_trans (by decide)
  have hle := Nat.div_le_self n 100
  rw [daysOfMonths_year]
  simp only [daysBeforeYear,Nat.add_sub_cancel,Nat.succ_div,hleap]
  generalize n/4 = fourth, n/100 = century, n/400 = centuries at *
  by_cases h4 : 4 ∣ n+1
  · by_cases h100 : 100 ∣ n+1
    · by_cases h400 : 400 ∣ n+1
      · simp only [h4,h100,h400,if_true,not_true_eq_false,or_true,and_self]
        omega
      · simp only [h4,h100,h400,if_true,if_false,not_true_eq_false,or_self,and_false]
        omega
    · have h400 : ¬400 ∣ n+1 := fun h400 => h100 (hcenturies h400)
      simp only [h4,h100,h400,if_true,if_false,not_false_eq_true,true_or,and_self]
      omega
  · have h100 : ¬100 ∣ n+1 := fun h100 => h4 (hcentury h100)
    have h400 : ¬400 ∣ n+1 := fun h400 => h100 (hcenturies h400)
    simp only [h4,h100,h400,if_false,false_and]
    omega

/-- A year lies before the later ones. -/
lemma daysBeforeYear_le (h : 1 ≤ year) (hlt : year < year') :
    daysBeforeYear year+daysOfMonths year 12 ≤ daysBeforeYear year' := by
  induction year', hlt using Nat.le_induction with
  | base => exact (daysBeforeYear_succ h).ge
  | succ year' hle ih =>
    have hnext := @daysBeforeYear_succ year' (by omega)
    omega

/-- A month lies before the later ones. -/
lemma daysOfMonths_le (hlt : month < month') :
    daysOfMonths year month+daysInMonth year (month+1) ≤ daysOfMonths year month' := by
  induction month', hlt using Nat.le_induction with
  | base => exact le_rfl
  | succ month' hle ih => exact ih.trans (Nat.le_add_right _ _)

/-- A day lies in its year. -/
lemma day_le_year (t : DateTime) :
    daysOfMonths t.year (t.month-1)+t.day ≤ daysOfMonths t.year 12 := by
  have hmonth := t.monthRange
  have hday := t.dayRange
  have hle := @daysOfMonths_le t.year (t.month-1) 12 (by omega)
  rw [Nat.sub_add_cancel hmonth.1] at hle
  omega

/-- An earlier day has a smaller number. -/
lemma toordinal_lt (h : t.year < u.year ∨ t.year = u.year ∧
    (t.month < u.month ∨ t.month = u.month ∧ t.day < u.day)) : toordinal t < toordinal u := by
  have hday := u.dayRange
  unfold toordinal
  obtain hyear | ⟨hyear,hmonth | ⟨hmonth,hlt⟩⟩ := h
  · have hle := daysBeforeYear_le t.yearRange.1 hyear
    have hin := day_le_year t
    omega
  · have htm := t.monthRange
    have htd := t.dayRange
    have hle := @daysOfMonths_le t.year (t.month-1) (u.month-1) (by omega)
    rw [Nat.sub_add_cancel htm.1] at hle
    rw [← hyear]
    omega
  · rw [hyear,hmonth]
    omega

lemma moment_lt_of_fields (h : timeFields t < timeFields u) : moment t < moment u := by
  have htc := t.timeRange
  have huc := u.timeRange
  have hclock : toordinal t < toordinal u ∨ toordinal t = toordinal u ∧
      (t.hour < u.hour ∨ t.hour = u.hour ∧ (t.minute < u.minute ∨ t.minute = u.minute ∧
        (t.second < u.second ∨ t.second = u.second ∧ t.microsecond < u.microsecond))) := by
    simp only [timeFields,List.cons_lt_cons_iff,List.not_lt_nil,and_false,or_false] at h
    obtain hyear | ⟨hyear,hmonth | ⟨hmonth,hday | ⟨hday,hrest⟩⟩⟩ := h
    · exact .inl (toordinal_lt (.inl hyear))
    · exact .inl (toordinal_lt (.inr ⟨hyear,.inl hmonth⟩))
    · exact .inl (toordinal_lt (.inr ⟨hyear,.inr ⟨hmonth,hday⟩⟩))
    · refine .inr ⟨?_,hrest⟩
      rw [toordinal,toordinal,hyear,hmonth,hday]
  unfold moment
  omega

/-- The fields compare as the moments do. -/
theorem moment_lt_iff : moment t < moment u ↔ timeFields t < timeFields u := by
  refine ⟨fun h => ?_,moment_lt_of_fields⟩
  by_contra hlt
  obtain hgt | heq := List.le_iff_lt_or_eq.mp (List.not_lt.mp hlt)
  · exact Nat.lt_asymm h (moment_lt_of_fields hgt)
  · simp only [timeFields,List.cons.injEq,and_true] at heq
    obtain ⟨hyear,hmonth,hday,hhour,hminute,hsecond,hmicrosecond⟩ := heq
    rw [moment,moment,toordinal,toordinal,hyear,hmonth,hday,hhour,hminute,hsecond,hmicrosecond] at h
    exact lt_irrefl _ h

end Moments

end LiveKBench.KArenaDb
