import LiveKBench.KArenaWeb.LeaderboardQuery
import LiveKBench.Lib.Numerals

/-! The months between which the leaderboard selects its bugs. `insert_developer_patch` writes a
patch's time as ISO text, and the query compares it with the texts of two days. -/
namespace LiveKBench.KArenaWeb
open KArena Lib

def isLeapYear (year : ℕ) : Bool := year%4 = 0 && (year%100 ≠ 0 || year%400 = 0)

def daysInMonth (year month : ℕ) : ℕ :=
  if month = 2 then (if isLeapYear year then 29 else 28)
  else if month = 4 ∨ month = 6 ∨ month = 9 ∨ month = 11 then 30
  else 31

/-- A `datetime`, which may know its offset from UTC, in microseconds. -/
structure DateTime where
  year : ℕ
  month : ℕ
  day : ℕ
  hour : ℕ
  minute : ℕ
  second : ℕ
  microsecond : ℕ
  utcoffset : Option ℤ
  yearRange : 1 ≤ year ∧ year ≤ 9999
  monthRange : 1 ≤ month ∧ month ≤ 12
  dayRange : 1 ≤ day ∧ day ≤ daysInMonth year month
  timeRange : hour < 24 ∧ minute < 60 ∧ second < 60 ∧ microsecond < 1000000

/-- `YYYY-MM-DD`. -/
def dayText (year month day : ℕ) : List Char :=
  digits 4 year ++ ('-' :: digits 2 month ++ ('-' :: digits 2 day))

/-- `HH:MM:SS`, and the microseconds where there are some. -/
def clockText (hour minute second microsecond : ℕ) : List Char :=
  digits 2 hour ++ ':' :: digits 2 minute ++ ':' :: digits 2 second ++
    if microsecond = 0 then [] else '.' :: digits 6 microsecond

/-- The offset: its sign, hours and minutes, and the smaller parts where there are some. -/
def offsetText (offset : ℤ) : List Char :=
  let us := offset.natAbs
  let sign := if offset < 0 then '-' else '+'
  let full := clockText (us/3600000000) (us/60000000%60) (us/1000000%60) (us%1000000)
  if us%60000000 = 0 then sign :: full.take 5 else sign :: full

def DateTime.clock (t : DateTime) : List Char :=
  clockText t.hour t.minute t.second t.microsecond ++ (t.utcoffset.map offsetText).getD []

/-- `datetime.isoformat()`. -/
def DateTime.isoformat (t : DateTime) : String :=
  String.ofList (dayText t.year t.month t.day ++ 'T' :: t.clock)

structure Month where
  year : ℕ
  month : ℕ
  yearRange : 1 ≤ year ∧ year ≤ 9999
  monthRange : 1 ≤ month ∧ month ≤ 12

/-- `YYYY-MM`. -/
def Month.text (m : Month) : String := String.ofList (digits 4 m.year ++ '-' :: digits 2 m.month)

/-- `Number` of a text of digits; the other texts count as `NaN` here. -/
def jsNumber (text : List Char) : Option ℕ :=
  if text.all Char.isDigit then some (text.foldl (fun n c => 10*n + (c.toNat-48)) 0) else none

/-- `new Date(year, monthIndex, 0).getDate()`: the day before the first of the month with the index
`monthIndex` from 0 on. The years up to 99 are those of the twentieth century. -/
def lastDate (year monthIndex : ℕ) : ℕ :=
  let months := 12*(if year ≤ 99 then 1900+year else year)+monthIndex-1
  daysInMonth (months/12) (months%12+1)

/-- The first two parts of `month.split("-")` are read. -/
def lastDayOfMonth (month : String) : String :=
  let year := month.toList.takeWhile (· ≠ '-')
  let rest := month.toList.dropWhile (· ≠ '-')
  let monthIndex := (rest.drop 1).takeWhile (· ≠ '-')
  match jsNumber year,rest,jsNumber monthIndex with
  | some year,_ :: _,some monthIndex => String.ofList (digits 2 (lastDate year monthIndex))
  | _,_,_ => "NaN"

def fixedTimeStart (startMonth : String) : String := startMonth ++ "-01"

def fixedTimeEnd (endMonth : String) : String := endMonth ++ "-" ++ lastDayOfMonth endMonth

/-- The months in the order of time. -/
def monthNumber (year month : ℕ) : ℕ := 12*year+month

/-- The time is in the months from the first to the last, both of them whole. -/
def InMonths (startMonth endMonth : Month) (t : DateTime) : Prop :=
  monthNumber startMonth.year startMonth.month ≤ monthNumber t.year t.month ∧
    monthNumber t.year t.month ≤ monthNumber endMonth.year endMonth.month

/-- The time is on the last day of the month. -/
def OnLastDay (m : Month) (t : DateTime) : Prop :=
  t.year = m.year ∧ t.month = m.month ∧ t.day = daysInMonth t.year t.month

/-- The developer patches were stored with these times. -/
def StoredTimes (db : Database) (fixedTime : ℕ → DateTime) : Prop :=
  ∀ dp ∈ db.developerPatches.rows, dp.fixedTime = (fixedTime dp.devPatchId).isoformat

/-- The bug is a member of the dataset. -/
def IsMember (db : Database) (datasetId : ℕ) (bugId : String) : Prop :=
  ∃ bdm ∈ db.bugDatasetMembers.rows, bdm.datasetId = datasetId ∧ bdm.bugId = bugId

/-- The bugs selected between two months. -/
def bugsBetween (db : Database) (datasetId : ℕ) (startMonth endMonth : String) : List String :=
  fetchSelectedBugIds db datasetId (fixedTimeStart startMonth) (fixedTimeEnd endMonth)

section Window
variable {db : Database} {datasetId : ℕ} {startMonth endMonth : Month} {t : DateTime}

/-- Days compare as texts by year, month and day. -/
theorem dayText_textBefore_iff {y m d y' m' d' : ℕ} (hy : y < 10^4) (hm : m < 10^2)
    (hd : d < 10^2) (hy' : y' < 10^4) (hm' : m' < 10^2) (hd' : d' < 10^2) :
    textBefore (dayText y m d) (dayText y' m' d') = true ↔
      y < y' ∨ (y = y' ∧ (m < m' ∨ (m = m' ∧ d < d'))) := by
  have hyear : digits 4 y = digits 4 y' ↔ y = y' := ⟨digits_inj hy hy',fun h => by rw [h]⟩
  have hmonth : digits 2 m = digits 2 m' ↔ m = m' := ⟨digits_inj hm hm',fun h => by rw [h]⟩
  unfold dayText
  rw [append_textBefore_append (by simp),digits_textBefore_iff hy hy',hyear,List.cons_append,
    List.cons_append,cons_textBefore_cons,append_textBefore_append (by simp),
    digits_textBefore_iff hm hm',hmonth,cons_textBefore_cons,digits_textBefore_iff hd hd']
  simp

theorem dayText_inj {y m d y' m' d' : ℕ} (hy : y < 10^4) (hm : m < 10^2)
    (hd : d < 10^2) (hy' : y' < 10^4) (hm' : m' < 10^2) (hd' : d' < 10^2)
    (h : dayText y m d = dayText y' m' d') : y = y' ∧ m = m' ∧ d = d' := by
  obtain ⟨hyear,hrest⟩ := List.append_inj h (by simp)
  obtain ⟨hmonth,hday⟩ := List.append_inj (List.cons.inj hrest).2 (by simp)
  exact ⟨digits_inj hy hy' hyear,digits_inj hm hm' hmonth,
    digits_inj hd hd' (List.cons.inj hday).2⟩

lemma length_dayText (y m d : ℕ) : (dayText y m d).length = 10 := by simp [dayText]

lemma daysInMonth_range (y m : ℕ) : 28 ≤ daysInMonth y m ∧ daysInMonth y m ≤ 31 := by
  unfold daysInMonth
  split
  · split <;> omega
  · split <;> omega

lemma digitChar_value {d : ℕ} (h : d < 10) :
    (Nat.digitChar d).isDigit = true ∧ (Nat.digitChar d).toNat-48 = d := by
  have hall : ∀ i : Fin 10,
      (Nat.digitChar i).isDigit = true ∧ (Nat.digitChar i).toNat-48 = i := by decide
  exact hall ⟨d,h⟩

lemma all_isDigit_digits (w n : ℕ) : (digits w n).all Char.isDigit = true := by
  induction w generalizing n with
  | zero => rfl
  | succ w ih => simp [digits,ih,digitChar_value (Nat.mod_lt n (by omega : 10 > 0))]

lemma jsNumber_digits {w n : ℕ} (hn : n < 10^w) : jsNumber (digits w n) = some n := by
  have hvalue : (digits w n).foldl (fun n c => 10*n + (c.toNat-48)) 0 = n := by
    induction w generalizing n with
    | zero =>
      rw [Nat.pow_zero] at hn
      simp only [digits,List.foldl_nil]
      omega
    | succ w ih =>
      rw [Nat.pow_succ] at hn
      rw [digits,List.foldl_append,ih (by omega)]
      simp only [List.foldl_cons,List.foldl_nil,
        (digitChar_value (Nat.mod_lt n (by omega : 10 > 0))).2]
      omega
  rw [jsNumber,if_pos (all_isDigit_digits w n),hvalue]

lemma dash_notMem_digits (w n : ℕ) : ∀ c ∈ digits w n, c ≠ '-' := by
  intro c hc
  rintro rfl
  have hdigit := List.all_eq_true.mp (all_isDigit_digits w n) '-' hc
  exact absurd hdigit (by decide)

lemma isLeapYear_add_1900 {y : ℕ} (h : 1 ≤ y ∧ y ≤ 99) : isLeapYear (1900+y) = isLeapYear y := by
  rw [Bool.eq_iff_iff]
  simp only [isLeapYear,Bool.and_eq_true,Bool.or_eq_true,decide_eq_true_eq]
  omega

/-- The day that `Date` computes is the last one of the month. -/
lemma lastDate_eq (m : Month) : lastDate m.year m.month = daysInMonth m.year m.month := by
  have hy := m.yearRange
  have hm := m.monthRange
  unfold lastDate
  have hdiv : ∀ y, (12*y+m.month-1)/12 = y ∧ (12*y+m.month-1)%12+1 = m.month := by
    intro y
    omega
  simp only [hdiv]
  split
  · rename_i h99
    simp only [daysInMonth,isLeapYear_add_1900 ⟨hy.1,h99⟩]
  · rfl

lemma lastDayOfMonth_text (m : Month) :
    lastDayOfMonth m.text = String.ofList (digits 2 (daysInMonth m.year m.month)) := by
  have hy := m.yearRange
  have hm := m.monthRange
  have hyear := dash_notMem_digits 4 m.year
  have hmonth := dash_notMem_digits 2 m.month
  have htake : (digits 4 m.year ++ '-' :: digits 2 m.month).takeWhile (· ≠ '-') =
      digits 4 m.year := by
    rw [List.takeWhile_append_of_pos (by simpa using hyear)]
    simp
  have hdrop : (digits 4 m.year ++ '-' :: digits 2 m.month).dropWhile (· ≠ '-') =
      '-' :: digits 2 m.month := by
    rw [List.dropWhile_append_of_pos (by simpa using hyear)]
    simp
  have hlast : (digits 2 m.month).takeWhile (· ≠ '-') = digits 2 m.month := by
    simpa using @List.takeWhile_append_of_pos _ (· ≠ '-') (digits 2 m.month) []
      (by simpa using hmonth)
  unfold lastDayOfMonth Month.text
  simp only [String.toList_ofList,htake,hdrop,List.drop_succ_cons,List.drop_zero,hlast,
    jsNumber_digits (by omega : m.year < 10^4),jsNumber_digits (by omega : m.month < 10^2),
    lastDate_eq]

lemma fixedTimeStart_toList (m : Month) :
    (fixedTimeStart m.text).toList = dayText m.year m.month 1 := by
  simp only [fixedTimeStart,Month.text,String.toList_append,String.toList_ofList,dayText]
  simp [digits]

lemma fixedTimeEnd_toList (m : Month) :
    (fixedTimeEnd m.text).toList = dayText m.year m.month (daysInMonth m.year m.month) := by
  rw [fixedTimeEnd,lastDayOfMonth_text]
  simp [Month.text,dayText]

/-- A time is not before a day as text exactly if its day is not. -/
lemma textLe_isoformat_iff {y m d : ℕ} :
    textLe (dayText y m d) t.isoformat.toList = true ↔
      ¬ textBefore (dayText t.year t.month t.day) (dayText y m d) = true := by
  have hpad : textBefore t.isoformat.toList (dayText y m d) = true ↔
      textBefore (dayText t.year t.month t.day) (dayText y m d) = true := by
    have happ := @append_textBefore_append (dayText t.year t.month t.day) (dayText y m d)
      ('T' :: t.clock) [] (by simp [length_dayText])
    simpa [DateTime.isoformat] using happ
  rw [textLe,← hpad]
  simp

/-- A time comes after the text of its own day, so that it is up to no day but a later one. -/
lemma isoformat_textLe_iff {y m d : ℕ} :
    textLe t.isoformat.toList (dayText y m d) = true ↔
      ¬ (textBefore (dayText y m d) (dayText t.year t.month t.day) = true ∨
        dayText y m d = dayText t.year t.month t.day) := by
  have hpad : textBefore (dayText y m d) t.isoformat.toList = true ↔
      textBefore (dayText y m d) (dayText t.year t.month t.day) = true ∨
        dayText y m d = dayText t.year t.month t.day := by
    have happ := @append_textBefore_append (dayText y m d) (dayText t.year t.month t.day)
      [] ('T' :: t.clock) (by simp [length_dayText])
    simpa [DateTime.isoformat] using happ
  rw [textLe,← hpad]
  simp

/-- The query takes the times in the months but those on the last day of the last one. -/
theorem inWindow_iff {dp : DeveloperPatch} (h : dp.fixedTime = t.isoformat) :
    inWindow (fixedTimeStart startMonth.text) (fixedTimeEnd endMonth.text) dp = true ↔
      InMonths startMonth endMonth t ∧ ¬ OnLastDay endMonth t := by
  have hs := startMonth.monthRange
  have hsy := startMonth.yearRange
  have he := endMonth.monthRange
  have hey := endMonth.yearRange
  have ht := t.monthRange
  have hty := t.yearRange
  have hday := t.dayRange
  have hdays := daysInMonth_range t.year t.month
  have hlast := daysInMonth_range endMonth.year endMonth.month
  rw [inWindow,Bool.and_eq_true,h,fixedTimeStart_toList,fixedTimeEnd_toList,textLe_isoformat_iff,
    isoformat_textLe_iff,
    dayText_textBefore_iff (by omega) (by omega) (by omega) (by omega) (by omega) (by omega),
    dayText_textBefore_iff (by omega) (by omega) (by omega) (by omega) (by omega) (by omega)]
  have heq : dayText endMonth.year endMonth.month (daysInMonth endMonth.year endMonth.month) =
        dayText t.year t.month t.day ↔ endMonth.year = t.year ∧ endMonth.month = t.month ∧
      daysInMonth endMonth.year endMonth.month = t.day := by
    constructor
    · exact dayText_inj (by omega) (by omega) (by omega) (by omega) (by omega) (by omega)
    · rintro ⟨hy,hm,hd⟩
      rw [hy,hm] at hd ⊢
      rw [hd]
  rw [heq]
  unfold InMonths OnLastDay monthNumber
  by_cases hsame : t.year = endMonth.year ∧ t.month = endMonth.month
  · have hdays' : daysInMonth t.year t.month = daysInMonth endMonth.year endMonth.month := by
      rw [hsame.1,hsame.2]
    omega
  · omega

/-- The selected bugs are the members with a patch whose text is in the window. -/
lemma mem_bugsBetween {startMonth endMonth bugId : String} :
    bugId ∈ bugsBetween db datasetId startMonth endMonth ↔ IsMember db datasetId bugId ∧
      ∃ dp ∈ db.developerPatches.rows, dp.bugId = bugId ∧
        inWindow (fixedTimeStart startMonth) (fixedTimeEnd endMonth) dp = true := by
  unfold bugsBetween fetchSelectedBugIds selectedBugs
  rw [List.mem_insertionSort,List.mem_dedup,List.mem_map]
  constructor
  · rintro ⟨⟨bdm,dp⟩,hmem,rfl⟩
    rw [List.mem_filter,mem_innerJoin] at hmem
    obtain ⟨⟨hbdm,hdp,hon⟩,hwhere⟩ := hmem
    simp only [Bool.and_eq_true,decide_eq_true_eq] at hon hwhere
    exact ⟨⟨bdm,hbdm,hwhere.1,rfl⟩,dp,hdp,hon,hwhere.2⟩
  · rintro ⟨⟨bdm,hbdm,hdataset,rfl⟩,dp,hdp,hbug,hwindow⟩
    refine ⟨(bdm,dp),?_,rfl⟩
    rw [List.mem_filter,mem_innerJoin]
    exact ⟨⟨hbdm,hdp,by simpa using hbug⟩,by simp [hdataset,hwindow]⟩

/-- The bugs selected between two months are the members with a patch of these months exactly if
each such member has one that is not of the last day. -/
theorem bugsBetween_exact_iff (db : Database) (datasetId : ℕ) (startMonth endMonth : Month)
    (fixedTime : ℕ → DateTime) (hstored : StoredTimes db fixedTime) :
    (∀ bugId, bugId ∈ bugsBetween db datasetId startMonth.text endMonth.text ↔
      IsMember db datasetId bugId ∧ ∃ dp ∈ db.developerPatches.rows,
        dp.bugId = bugId ∧ InMonths startMonth endMonth (fixedTime dp.devPatchId)) ↔
    ∀ bugId, IsMember db datasetId bugId →
      (∃ dp ∈ db.developerPatches.rows,
        dp.bugId = bugId ∧ InMonths startMonth endMonth (fixedTime dp.devPatchId)) →
      ∃ dp ∈ db.developerPatches.rows, dp.bugId = bugId ∧
        InMonths startMonth endMonth (fixedTime dp.devPatchId) ∧
        ¬ OnLastDay endMonth (fixedTime dp.devPatchId) := by
  have hselected : ∀ bugId, bugId ∈ bugsBetween db datasetId startMonth.text endMonth.text ↔
      IsMember db datasetId bugId ∧ ∃ dp ∈ db.developerPatches.rows, dp.bugId = bugId ∧
        InMonths startMonth endMonth (fixedTime dp.devPatchId) ∧
        ¬ OnLastDay endMonth (fixedTime dp.devPatchId) := by
    intro bugId
    rw [mem_bugsBetween]
    refine and_congr_right fun _ => exists_congr fun dp => and_congr_right fun hdp => ?_
    rw [inWindow_iff (hstored dp hdp)]
  constructor
  · intro hexact bugId hmember hin
    exact ((hselected bugId).mp ((hexact bugId).mpr ⟨hmember,hin⟩)).2
  · intro hother bugId
    rw [hselected]
    refine and_congr_right fun hmember => ⟨?_,hother bugId hmember⟩
    rintro ⟨dp,hdp,hbug,hin,-⟩
    exact ⟨dp,hdp,hbug,hin⟩

def january : Month := ⟨2024,1,by decide,by decide⟩

def midJanuary : DateTime :=
  ⟨2024,1,15,12,0,0,0,none,by decide,by decide,by decide,by decide⟩

def endOfJanuary : DateTime :=
  ⟨2024,1,31,12,0,0,0,none,by decide,by decide,by decide,by decide⟩

/-- One bug in a dataset, fixed at a time. -/
def fixedAt (t : DateTime) : Database where
  syzbotBugs := .singleton ⟨"bug","fixed","[]"⟩
  patches := .singleton ⟨1,1⟩
  agentPatches := .empty
  developerPatches := .singleton ⟨1,1,"bug",t.isoformat⟩
  agentConfigurations := .empty
  patchLocalizationEvaluations := .empty
  patchCrashResolutionEvaluations := .empty
  llmJudgeConfigurations := .empty
  patchLLMJudgeEvaluations := .empty
  bugDatasets := .singleton ⟨1,"dataset"⟩
  bugDatasetMembers := .singleton ⟨1,"bug"⟩

lemma storedTimes_fixedAt : StoredTimes (fixedAt t) fun _ => t := by
  intro dp hdp
  obtain rfl := List.mem_singleton.mp hdp
  rfl

lemma inMonths_january {t : DateTime} (hy : t.year = 2024) (hm : t.month = 1) :
    InMonths january january t := by
  unfold InMonths
  rw [hy,hm]
  decide

/-- With a patch of the middle of the month the selection is exact. -/
theorem bugsBetween_exact_midJanuary :
    "bug" ∈ bugsBetween (fixedAt midJanuary) 1 january.text january.text ∧
      ∀ bugId, bugId ∈ bugsBetween (fixedAt midJanuary) 1 january.text january.text ↔
        IsMember (fixedAt midJanuary) 1 bugId ∧
          ∃ dp ∈ (fixedAt midJanuary).developerPatches.rows,
            dp.bugId = bugId ∧ InMonths january january midJanuary := by
  refine ⟨by decide +kernel,?_⟩
  apply (bugsBetween_exact_iff (fixedAt midJanuary) 1 january january (fun _ => midJanuary)
    storedTimes_fixedAt).mpr
  rintro bugId - ⟨dp,hdp,hbug,hin⟩
  have hday : ¬ OnLastDay january midJanuary := fun h => absurd h.2.2 (by decide)
  exact ⟨dp,hdp,hbug,hin,hday⟩

/-- A bug that was fixed at noon of the last day is not selected. -/
theorem not_bugsBetween_exact : ¬ ∀ (db : Database) (datasetId : ℕ) (startMonth endMonth : Month)
    (fixedTime : ℕ → DateTime), StoredTimes db fixedTime →
      ∀ bugId, bugId ∈ bugsBetween db datasetId startMonth.text endMonth.text ↔
        IsMember db datasetId bugId ∧ ∃ dp ∈ db.developerPatches.rows,
          dp.bugId = bugId ∧ InMonths startMonth endMonth (fixedTime dp.devPatchId) := by
  intro h
  have hexact := h (fixedAt endOfJanuary) 1 january january (fun _ => endOfJanuary)
    storedTimes_fixedAt "bug"
  have hbug := hexact.mpr ⟨⟨⟨1,"bug"⟩,List.mem_singleton_self _,rfl,rfl⟩,
    ⟨1,1,"bug",endOfJanuary.isoformat⟩,List.mem_singleton_self _,rfl,inMonths_january rfl rfl⟩
  obtain ⟨-,dp,hdp,-,hwindow⟩ := mem_bugsBetween.mp hbug
  have hday : ¬ OnLastDay january endOfJanuary :=
    ((inWindow_iff (storedTimes_fixedAt dp hdp)).mp hwindow).2
  exact hday ⟨rfl,rfl,by decide⟩

end Window
end LiveKBench.KArenaWeb
