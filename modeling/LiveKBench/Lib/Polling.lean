import LiveKBench.Lib.Traverse
import Mathlib.Algebra.Order.Ring.Int
import Mathlib.Data.List.Nodup
import Mathlib.Tactic.Lemma
import Mathlib.Tactic.Ring

/-! Waiting for jobs by asking for them at intervals. In a round every job that is still waited for
is asked for; the rounds go on until no job is left, or until the time of the wait is over. -/
namespace LiveKBench.Lib.Polling

inductive Seen
  | finished
  | aborted
  | running
  deriving DecidableEq, Repr

/-- How a job ends, and when by the clock of the wait. -/
inductive Outcome
  | finishedAt (time : ℕ)
  | abortedAt (time : ℕ)
  | neverEnds
  deriving DecidableEq, Repr

def Outcome.seen (o : Outcome) (now : ℤ) : Seen :=
  match o with
  | .finishedAt time => if time ≤ now then .finished else .running
  | .abortedAt time => if time ≤ now then .aborted else .running
  | .neverEnds => .running

variable {κ ι ε : Type} [DecidableEq κ]

/-- The jobs that are waited for, by their keys, and the keys of those that ended. -/
structure State (κ ι : Type) where
  total : List (κ × ι)
  successful : List κ
  unsuccessful : List κ

def State.start (entries : List (κ × ι)) : State κ ι := ⟨entries,[],[]⟩

def State.note (s : State κ ι) (k : κ) : Seen → State κ ι
  | .finished => { s with successful := s.successful ++ [k] }
  | .aborted => { s with unsuccessful := s.unsuccessful ++ [k] }
  | .running => s

/-- One job is asked for. -/
def pass (status : ι → Except ε Seen) (s : State κ ι) (entry : κ × ι) : Except ε (State κ ι) :=
  (status entry.2).map (s.note entry.1)

def round (status : ι → Except ε Seen) (s : State κ ι) : Except ε (State κ ι) := do
  let s ← s.total.foldlM (pass status) s
  pure { s with
    total := s.total.filter fun entry => entry.1 ∉ s.successful && entry.1 ∉ s.unsuccessful }

/-- The time is not over. -/
def inTime (deadline : Option ℤ) (now : ℤ) : Bool :=
  match deadline with
  | none => true
  | some d => now < d

/-- The rounds, as many as the fuel allows. -/
def wait (deadline : Option ℤ) (interval : ℤ) (status : ℤ → ι → Except ε Seen) :
    ℕ → ℤ → State κ ι → Option (Except ε (State κ ι))
  | 0,_,_ => none
  | fuel+1,now,s =>
    if !s.total.isEmpty && inTime deadline now then
      match round (status (now+interval)) s with
      | .error e => some (.error e)
      | .ok s => wait deadline interval status fuel (now+interval) s
    else some (.ok s)

/-- The time of the first round that is not before the deadline. -/
def lastRound (interval d : ℤ) : ℤ := (d+interval-1)/interval*interval

/-- A round sees that the job finished. -/
def polled (deadline : Option ℤ) (interval : ℤ) : Outcome → Bool
  | .finishedAt time =>
    match deadline with
    | none => true
    | some d => 0 < d && time ≤ lastRound interval d
  | _ => false

/-- The job finished before the time was over. -/
def FinishedBy (deadline : Option ℤ) (o : Outcome) : Prop :=
  ∃ time : ℕ, o = .finishedAt time ∧ ∀ d ∈ deadline, time ≤ d

/-! ## What a round sees -/

section Round
omit [DecidableEq κ]
variable {status : ι → Except ε Seen} {s s' : State κ ι} {outcome : ι → Outcome} {now now' : ℤ}

/-- The keys of the entries of which this is seen. -/
def keysSeen (outcome : ι → Outcome) (now : ℤ) (seen : Seen) (entries : List (κ × ι)) : List κ :=
  (entries.filter fun entry => (outcome entry.2).seen now = seen).map Prod.fst

lemma mem_keysSeen {seen : Seen} {entries : List (κ × ι)} {k : κ} :
    k ∈ keysSeen outcome now seen entries ↔
      ∃ entry ∈ entries, (outcome entry.2).seen now = seen ∧ entry.1 = k := by
  simp [keysSeen,and_assoc]

/-- The passes over the entries sort their keys by what is seen. -/
lemma foldlM_pass (hstatus : ∀ i seen, status i = .ok seen → seen = (outcome i).seen now)
    {entries : List (κ × ι)} (h : entries.foldlM (pass status) s = .ok s') :
    s' = { s with
      successful := s.successful ++ keysSeen outcome now .finished entries
      unsuccessful := s.unsuccessful ++ keysSeen outcome now .aborted entries } := by
  induction entries generalizing s with
  | nil =>
    cases h
    simp [keysSeen]
  | cons entry entries ih =>
    obtain ⟨noted,hpass,hrest⟩ := bind_eq_ok_iff.mp h
    cases hseen : status entry.2 with
    | error e =>
      rw [pass,hseen] at hpass
      cases hpass
    | ok seen =>
      rw [pass,hseen] at hpass
      cases hpass
      have hentry := hstatus _ _ hseen
      rw [ih hrest]
      cases seen with
      | finished => simp [State.note,keysSeen,← hentry]
      | aborted => simp [State.note,keysSeen,← hentry]
      | running => simp [State.note,keysSeen,← hentry]

/-- What ended stays so. -/
lemma Outcome.seen_mono {o : Outcome} {seen : Seen} (h : o.seen now = seen) (hne : seen ≠ .running)
    (hle : now ≤ now') : o.seen now' = seen := by
  cases o with
  | finishedAt time =>
    by_cases ht : (time : ℤ) ≤ now
    · rw [← h,Outcome.seen,Outcome.seen,if_pos ht,if_pos (ht.trans hle)]
    · rw [Outcome.seen,if_neg ht] at h
      exact absurd h.symm hne
  | abortedAt time =>
    by_cases ht : (time : ℤ) ≤ now
    · rw [← h,Outcome.seen,Outcome.seen,if_pos ht,if_pos (ht.trans hle)]
    · rw [Outcome.seen,if_neg ht] at h
      exact absurd h.symm hne
  | neverEnds => exact absurd h.symm hne

lemma Outcome.seen_finished_iff {o : Outcome} : o.seen now = .finished ↔
    ∃ time : ℕ, o = .finishedAt time ∧ time ≤ now := by
  cases o with
  | finishedAt time => simp [Outcome.seen]
  | abortedAt time =>
    by_cases ht : (time : ℤ) ≤ now
    · simp [Outcome.seen,ht]
    · simp [Outcome.seen,ht]
  | neverEnds => simp [Outcome.seen]

end Round

/-! ## The wait -/

section Wait
variable {entries : List (κ × ι)} {outcome : ι → Outcome} {interval : ℤ} {deadline : Option ℤ}
  {status : ℤ → ι → Except ε Seen} {s s' : State κ ι} {n fuel : ℕ}

/-- After `n` rounds the keys are sorted by what the last round saw. -/
structure Sorted (entries : List (κ × ι)) (outcome : ι → Outcome) (interval : ℤ) (n : ℕ)
    (s : State κ ι) : Prop where
  mem_entries : ∀ entry ∈ s.total, entry ∈ entries
  total : ∀ entry ∈ entries, entry ∈ s.total ↔
    n = 0 ∨ (outcome entry.2).seen (n*interval) = .running
  successful : ∀ entry ∈ entries, entry.1 ∈ s.successful ↔
    n ≠ 0 ∧ (outcome entry.2).seen (n*interval) = .finished
  unsuccessful : ∀ entry ∈ entries, entry.1 ∈ s.unsuccessful ↔
    n ≠ 0 ∧ (outcome entry.2).seen (n*interval) = .aborted

omit [DecidableEq κ] in
lemma sorted_start : Sorted entries outcome interval 0 (State.start entries) where
  mem_entries _ h := h
  total _ h := ⟨fun _ => .inl rfl,fun _ => h⟩
  successful _ _ := by simp [State.start]
  unsuccessful _ _ := by simp [State.start]

/-- A key that ended by now ended before the round, or its entry is looked at in it. -/
lemma Sorted.mem_append (h : Sorted entries outcome interval n s)
    (hnodup : (entries.map Prod.fst).Nodup) (hinterval : 0 < interval) {seen : Seen}
    (hne : seen ≠ .running) {keys : List κ}
    (hkeys : ∀ entry ∈ entries, entry.1 ∈ keys ↔
      n ≠ 0 ∧ (outcome entry.2).seen (n*interval) = seen) {entry : κ × ι} (hmem : entry ∈ entries) :
    entry.1 ∈ keys ++ keysSeen outcome (n*interval+interval) seen s.total ↔
      (outcome entry.2).seen (n*interval+interval) = seen := by
  have hle : n*interval ≤ n*interval+interval := by omega
  rw [List.mem_append,hkeys entry hmem,mem_keysSeen]
  constructor
  · rintro (⟨-,hseen⟩ | ⟨entry',hmem',hseen,hkey⟩)
    · exact Outcome.seen_mono hseen hne hle
    · rw [← List.inj_on_of_nodup_map hnodup (h.mem_entries _ hmem') hmem hkey]
      exact hseen
  · intro hseen
    by_cases htotal : entry ∈ s.total
    · exact .inr ⟨entry,htotal,hseen,rfl⟩
    · left
      rw [h.total entry hmem,not_or] at htotal
      refine ⟨htotal.1,?_⟩
      cases hbefore : (outcome entry.2).seen (n*interval) with
      | running => exact absurd hbefore htotal.2
      | finished => exact (Outcome.seen_mono hbefore nofun hle).symm.trans hseen
      | aborted => exact (Outcome.seen_mono hbefore nofun hle).symm.trans hseen

lemma Sorted.round (h : Sorted entries outcome interval n s)
    (hnodup : (entries.map Prod.fst).Nodup) (hinterval : 0 < interval)
    (hstatus : ∀ i seen, status (n*interval+interval) i = .ok seen →
      seen = (outcome i).seen (n*interval+interval))
    (hround : Polling.round (status (n*interval+interval)) s = .ok s') :
    Sorted entries outcome interval (n+1) s' := by
  obtain ⟨noted,hfold,hfilter⟩ := bind_eq_ok_iff.mp hround
  have hnoted := foldlM_pass hstatus hfold
  subst hnoted
  cases hfilter
  have hnow : ((n+1 : ℕ) : ℤ)*interval = n*interval+interval := by
    push_cast
    ring
  have hfinished : Seen.finished ≠ .running := by decide
  have haborted : Seen.aborted ≠ .running := by decide
  have hsuccessful := fun entry (hmem : entry ∈ entries) =>
    h.mem_append hnodup hinterval hfinished h.successful hmem
  have hunsuccessful := fun entry (hmem : entry ∈ entries) =>
    h.mem_append hnodup hinterval haborted h.unsuccessful hmem
  constructor
  · intro entry hmem
    exact h.mem_entries entry (List.mem_of_mem_filter hmem)
  · intro entry hmem
    rw [hnow,List.mem_filter]
    simp only [Bool.and_eq_true,decide_eq_true_eq,hsuccessful entry hmem,hunsuccessful entry hmem]
    cases hseen : (outcome entry.2).seen (n*interval+interval) with
    | finished => simp
    | aborted => simp
    | running =>
      simp only [reduceCtorEq,not_false_eq_true,and_self,and_true,or_true,iff_true]
      rw [h.total entry hmem]
      cases hbefore : (outcome entry.2).seen (n*interval) with
      | running => exact .inr rfl
      | finished =>
        rw [Outcome.seen_mono hbefore nofun (by omega)] at hseen
        cases hseen
      | aborted =>
        rw [Outcome.seen_mono hbefore nofun (by omega)] at hseen
        cases hseen
  · intro entry hmem
    rw [hnow,hsuccessful entry hmem]
    simp
  · intro entry hmem
    rw [hnow,hunsuccessful entry hmem]
    simp

/-- The rounds that took place began in time, and after the last one no job was left or the time
was over. -/
structure Ended (entries : List (κ × ι)) (outcome : ι → Outcome) (deadline : Option ℤ)
    (interval : ℤ) (n : ℕ) (s : State κ ι) : Prop where
  sorted : Sorted entries outcome interval n s
  began : n ≠ 0 → 0 < interval ∧ ∃ m : ℕ, n = m+1 ∧ inTime deadline (m*interval) = true
  ended : s.total = [] ∨ inTime deadline (n*interval) = false

lemma ended_wait (hnodup : (entries.map Prod.fst).Nodup)
    (hinterval : inTime deadline 0 = true → 0 < interval)
    (hstatus : ∀ now i seen, status now i = .ok seen → seen = (outcome i).seen now)
    (hsorted : Sorted entries outcome interval n s)
    (hbegan : n ≠ 0 → 0 < interval ∧ ∃ m : ℕ, n = m+1 ∧ inTime deadline (m*interval) = true)
    (h : wait deadline interval status fuel (n*interval) s = some (.ok s')) :
    ∃ n, Ended entries outcome deadline interval n s' := by
  induction fuel generalizing n s with
  | zero => cases h
  | succ fuel ih =>
    rw [wait] at h
    by_cases hgoes : (!s.total.isEmpty && inTime deadline (n*interval)) = true
    · rw [if_pos hgoes] at h
      have htime : inTime deadline (n*interval) = true := (Bool.and_eq_true_iff.mp hgoes).2
      have hpos : 0 < interval := by
        by_cases hn : n = 0
        · subst hn
          apply hinterval
          simpa using htime
        · exact (hbegan hn).1
      cases hround : Polling.round (status (n*interval+interval)) s with
      | error e =>
        rw [hround] at h
        cases h
      | ok noted =>
        rw [hround] at h
        have hnow : (n*interval+interval : ℤ) = ((n+1 : ℕ) : ℤ)*interval := by
          push_cast
          ring
        have hnext := hsorted.round hnodup hpos (hstatus _) hround
        simp only [hnow] at h
        exact ih hnext (fun _ => ⟨hpos,n,rfl,htime⟩) h
    · rw [if_neg hgoes] at h
      cases h
      refine ⟨n,hsorted,hbegan,?_⟩
      simpa [or_iff_not_imp_left] using hgoes

/-- A round that begins in time is not after the last one. -/
lemma le_lastRound {d : ℤ} {m : ℕ} (hpos : 0 < interval) (hm : m*interval < d) :
    (m+1 : ℤ)*interval ≤ lastRound interval d := by
  apply mul_le_mul_of_nonneg_right _ hpos.le
  rw [Int.le_ediv_iff_mul_le hpos,add_mul]
  omega

lemma lastRound_le {d : ℤ} (hpos : 0 < interval) (hd : d ≤ n*interval) :
    lastRound interval d ≤ n*interval := by
  apply mul_le_mul_of_nonneg_right _ hpos.le
  have hlt : (d+interval-1)/interval < (n+1 : ℤ) := by
    rw [Int.ediv_lt_iff_lt_mul hpos,add_mul]
    omega
  omega

/-- The last round is on time where the time of the wait is made of whole intervals. -/
theorem lastRound_of_dvd {d : ℤ} (hpos : 0 < interval) (hdvd : interval ∣ d) :
    lastRound interval d = d := by
  obtain ⟨c,rfl⟩ := hdvd
  have hcount : (interval*c+interval-1)/interval = c := by
    rw [show interval*c+interval-1 = interval-1+interval*c by ring,
      Int.add_mul_ediv_left _ _ hpos.ne',Int.ediv_eq_zero_of_lt (by omega) (by omega),zero_add]
  rw [lastRound,hcount,mul_comm]

/-- Once the wait is over the successful jobs are those that a round saw finished. -/
theorem mem_successful_iff (hnodup : (entries.map Prod.fst).Nodup)
    (hinterval : inTime deadline 0 = true → 0 < interval)
    (hstatus : ∀ now i seen, status now i = .ok seen → seen = (outcome i).seen now)
    (h : wait deadline interval status fuel 0 (State.start entries) = some (.ok s'))
    {entry : κ × ι} (hmem : entry ∈ entries) :
    entry.1 ∈ s'.successful ↔ polled deadline interval (outcome entry.2) = true := by
  have h0 : wait deadline interval status fuel ((0 : ℕ)*interval) (State.start entries) =
      some (.ok s') := by
    simpa using h
  obtain ⟨n,hsorted,hbegan,hover⟩ := ended_wait hnodup hinterval hstatus sorted_start
    (fun hn => absurd rfl hn) h0
  have hleft : s'.total = [] → n ≠ 0 ∧ (outcome entry.2).seen (n*interval) ≠ .running := by
    intro hnil
    have hnot := (hsorted.total entry hmem).not.mp (hnil ▸ List.not_mem_nil)
    exact not_or.mp hnot
  rw [hsorted.successful entry hmem,Outcome.seen_finished_iff]
  cases hout : outcome entry.2 with
  | finishedAt time =>
    rw [hout] at hleft
    have hended : s'.total = [] → n ≠ 0 ∧ (time : ℤ) ≤ n*interval := by
      intro hnil
      refine ⟨(hleft hnil).1,?_⟩
      by_contra hlate
      exact (hleft hnil).2 (if_neg hlate)
    cases deadline with
    | none =>
      have hended := hended (hover.resolve_right nofun)
      simp [polled,hended]
    | some d =>
      simp only [Outcome.finishedAt.injEq,exists_eq_left',polled,Bool.and_eq_true,
        decide_eq_true_eq]
      constructor
      · rintro ⟨hn,hle⟩
        obtain ⟨hpos,m,rfl,hm⟩ := hbegan hn
        have hm : m*interval < d := of_decide_eq_true hm
        refine ⟨lt_of_le_of_lt (mul_nonneg (Int.natCast_nonneg m) hpos.le) hm,?_⟩
        exact hle.trans (by exact_mod_cast le_lastRound hpos hm)
      · rintro ⟨hd,hle⟩
        have hpos := hinterval (decide_eq_true hd)
        obtain hnil | htime := hover
        · exact hended hnil
        · have htime : d ≤ n*interval := not_lt.mp (of_decide_eq_false htime)
          refine ⟨?_,hle.trans (lastRound_le hpos htime)⟩
          rintro rfl
          simp at htime
          omega
  | abortedAt time => simp [polled]
  | neverEnds => simp [polled]

end Wait

end LiveKBench.Lib.Polling
