import LiveKBench.KClient.KgymDataset
import LiveKBench.KClient.SyzbotData
import LiveKBench.Lib.Polling

/-! `kBench.build`: the kernels of a dataset are built, the builds that finish are kept, and what
was kept is evaluated. -/
namespace LiveKBench.KClient
open KCore KArena Lib Lib.Polling

/-- The service as one run of `build` meets it. `createBuild` and `createEvaluation` stand for the
request of a job together with the making of its arguments; `cachedKCache` for reading the `kCache`
of the first stage of a build. A build ends as `buildOutcome` says, by the seconds that were slept
since it was waited for, unless asking for it raises. The calls of an evaluation are told apart by
the attempt that they are made in. -/
structure Service where
  createBuild : SyzbotData → Except PyError JobId
  buildOutcome : JobId → Outcome
  buildRaises : ℤ → JobId → Option PyError
  cachedKCache : JobId → Except PyError (Option JobResource)
  createEvaluation : SyzbotData → JobResource → Except PyError JobId
  evaluationSeen : ℕ → ℤ → JobId → Except PyError Seen
  evaluationContext : ℕ → JobId → Except PyError JobContext

/-- What leaves `build`: an exception of a call, or that of a missing key of the index. -/
inductive BuildError
  | raised (e : PyError)
  | keyError (bugId : String)
  deriving DecidableEq, Repr

abbrev KCacheIndex := OrderedMap String JobId

abbrev KBenchEvaluationResult := OrderedMap String EvaluationResult

namespace Service
variable (svc : Service) (fuel : ℕ) (timeout : ℤ)

def buildSeen (now : ℤ) (jobId : JobId) : Except PyError Seen :=
  match svc.buildRaises now jobId with
  | some e => .error e
  | none => .ok ((svc.buildOutcome jobId).seen now)

/-- A timeout of `-1` is no deadline. -/
def deadline : Option ℤ := if timeout = -1 then none else some timeout

/-- `inc`. -/
def interval : ℤ := if timeout = -1 then 60 else min timeout 60

/-- The loop that submits the builds. -/
def submitBuilds (dataset : List SyzbotData) : Except PyError KCacheIndex :=
  dataset.foldlM (fun ret data => (svc.createBuild data).map fun jobId => ret.set data.bugId jobId)
    OrderedMap.empty

/-- `_poll_kcache_job`. -/
def pollKcacheJob (dataset : List SyzbotData) (kcache : KCacheIndex) :
    Option (Except PyError (List SyzbotData × KCacheIndex)) :=
  (wait (deadline timeout) (interval timeout) svc.buildSeen fuel 0 (State.start kcache.rows)).map
    fun waited => waited.map fun s =>
      (dataset.filter fun data => data.bugId ∈ s.successful,
        kcache.delete fun entry => entry.1 ∉ s.successful)

/-- One pass of the loop of `submit_kgym_evaluation`. What making the arguments or requesting the
job raises is printed, and the bug is left out of the receipt. -/
def submitOne (kCache : KCacheIndex) (receipt : OrderedMap String JobId) (data : SyzbotData) :
    Except BuildError (OrderedMap String JobId) :=
  match kCache.value? data.bugId with
  | none => .error (.keyError data.bugId)
  | some jobId =>
    match svc.cachedKCache jobId with
    | .error e => .error (.raised e)
    | .ok none => .ok receipt
    | .ok (some resource) =>
      match svc.createEvaluation data resource with
      | .ok jobId => .ok (receipt.set data.bugId jobId)
      | .error _ => .ok receipt

def submitKgymEvaluation (dataset : List SyzbotData) (kCache : KCacheIndex) :
    Except BuildError (OrderedMap String JobId) :=
  dataset.foldlM (svc.submitOne kCache) OrderedMap.empty

/-- One attempt at `poll_kgym_evaluation`: the wait, and then the verdicts. -/
def attempt (receipt : OrderedMap String JobId) (n : ℕ) :
    Option (Except PyError KBenchEvaluationResult) :=
  (wait (deadline timeout) (interval timeout) (svc.evaluationSeen n) fuel 0
    (State.start receipt.rows)).map fun waited =>
      waited.bind fun _ => pollKgymEvaluation (svc.evaluationContext n) receipt

/-- The attempts one after the other, until one does not raise. -/
def attempts (receipt : OrderedMap String JobId) :
    List ℕ → Option (Option KBenchEvaluationResult)
  | [] => some none
  | n :: ns =>
    match svc.attempt fuel timeout receipt n with
    | none => none
    | some (.ok result) => some (some result)
    | some (.error _) => attempts receipt ns

/-- `evaluate_kgym` on what was submitted. -/
def evaluateKgym (receipt : OrderedMap String JobId) : Option (Option KBenchEvaluationResult) :=
  if receipt.rows.isEmpty then some none else svc.attempts fuel timeout receipt (List.range 10)

/-- The three values that `build` returns, the benchmark by its fields. -/
structure Built where
  dataset : List SyzbotData
  kCache : KCacheIndex
  evalResult : Option KBenchEvaluationResult
  failed : KCacheIndex

/-- `build`; nothing where the fuel does not last for the waits. -/
def build (dataset : List SyzbotData) : Option (Except BuildError Built) :=
  match svc.submitBuilds dataset with
  | .error e => some (.error (.raised e))
  | .ok kcacheCrude =>
    match svc.pollKcacheJob fuel timeout dataset kcacheCrude with
    | none => none
    | some (.error e) => some (.error (.raised e))
    | some (.ok (dataset,kcache)) =>
      let failed := kcacheCrude.delete fun entry => (kcache.get? entry.1).isSome
      match svc.submitKgymEvaluation dataset kcache with
      | .error e => some (.error e)
      | .ok receipt =>
        (svc.evaluateKgym fuel timeout receipt).map fun evalResult =>
          .ok ⟨dataset,kcache,evalResult,failed⟩

/-! ## What the claim of the docstring is about -/

section Meaning
variable (dataset : List SyzbotData)

/-- The build of the bug finished within the deadline. -/
def FinishedInTime (data : SyzbotData) : Prop :=
  ∃ jobId, svc.createBuild data = .ok jobId ∧ FinishedBy (deadline timeout) (svc.buildOutcome jobId)

/-- A round of the polling sees the build of the bug finished. -/
def seenInTime (data : SyzbotData) : Bool :=
  match svc.createBuild data with
  | .ok jobId => polled (deadline timeout) (interval timeout) (svc.buildOutcome jobId)
  | .error _ => false

/-- The evaluation of a bug, where it is requested. -/
def evaluationJob (data : SyzbotData) : Option JobId :=
  match svc.createBuild data with
  | .error _ => none
  | .ok jobId =>
    match svc.cachedKCache jobId with
    | .ok (some resource) => (svc.createEvaluation data resource).toOption
    | _ => none

def evaluationRow (data : SyzbotData) : Option (String × JobId) :=
  (svc.evaluationJob data).map fun jobId => (data.bugId,jobId)

/-- The evaluations that are requested. -/
def receipt : OrderedMap String JobId :=
  .ofEntries ((dataset.filter (svc.seenInTime timeout)).filterMap svc.evaluationRow)

/-- The verdict on a bug, by what the first attempt that does not raise is told of its job. -/
def Verdict (data : SyzbotData) (v : Evaluation) : Prop :=
  ∃ n < 10, (∀ m < n, ∃ e, svc.attempt fuel timeout (svc.receipt timeout dataset) m =
      some (.error e)) ∧
    (∃ result, svc.attempt fuel timeout (svc.receipt timeout dataset) n = some (.ok result)) ∧
    ∃ jobId ctx er, (svc.receipt timeout dataset).value? data.bugId = some jobId ∧
      svc.evaluationContext n jobId = .ok ctx ∧ classifyJob jobId ctx = .ok er ∧
      er.evaluation = v

/-- The verdict that `build` returns for the bug is `reproduced`. -/
def Built.Reproduced (built : Built) (data : SyzbotData) : Prop :=
  ∃ results er, built.evalResult = some results ∧ results.value? data.bugId = some er ∧
    er.evaluation = .reproduced

/-- The benchmark has the bugs that were built in time and reproduced, its index has their keys,
and the failed builds are those that did not finish in time. -/
structure Exact (built : Built) : Prop where
  bugs : ∀ data, data ∈ built.dataset ↔
    data ∈ dataset ∧ svc.FinishedInTime timeout data ∧ built.Reproduced data
  kCache : ∀ bugId, built.kCache.value? bugId ≠ none ↔ ∃ data ∈ built.dataset, data.bugId = bugId
  failed : ∀ bugId, built.failed.value? bugId ≠ none ↔
    ∃ data ∈ dataset, data.bugId = bugId ∧ ¬svc.FinishedInTime timeout data

end Meaning

section Returned
variable {svc fuel timeout} {dataset : List SyzbotData} {kcache : KCacheIndex}
  {receipt : OrderedMap String JobId}

/-- A loop that sets one entry for each element, where it does not raise. -/
lemma foldlM_set_eq_ok {α ν ε : Type} {f : α → Except ε (String × ν)} {xs : List α}
    {m : OrderedMap String ν}
    (h : xs.foldlM (fun ret x => (f x).map fun entry => ret.set entry.1 entry.2)
      OrderedMap.empty = .ok m) :
    ∃ entries, List.Forall₂ (fun x entry => f x = .ok entry) xs entries ∧
      m = .ofEntries entries := by
  rw [foldlM_map_eq (f := f) fun (ret : OrderedMap String ν) entry => ret.set entry.1 entry.2] at h
  cases hentries : xs.mapM f with
  | error e =>
    rw [hentries] at h
    cases h
  | ok entries =>
    rw [hentries] at h
    cases h
    exact ⟨entries,mapM_eq_ok_iff.mp hentries,rfl⟩

/-- The rows of the index are those of the bugs, each with its build. -/
lemma rows_submitBuilds (hdistinct : (dataset.map SyzbotData.bugId).Nodup)
    (h : svc.submitBuilds dataset = .ok kcache) :
    List.Forall₂ (fun data row => row.1 = data.bugId ∧ svc.createBuild data = .ok row.2) dataset
      kcache.rows := by
  have hloop : dataset.foldlM (fun (ret : KCacheIndex) data =>
      ((svc.createBuild data).map fun jobId => (data.bugId,jobId)).map fun entry =>
        ret.set entry.1 entry.2) OrderedMap.empty = .ok kcache := by
    rw [← h,submitBuilds]
    apply foldlM_congr
    intro data _ ret
    cases svc.createBuild data <;> rfl
  obtain ⟨entries,hentries,rfl⟩ := foldlM_set_eq_ok hloop
  have hrows : List.Forall₂ (fun data row => row.1 = data.bugId ∧
      svc.createBuild data = .ok row.2) dataset entries := by
    refine hentries.imp fun data row hrow => ?_
    cases hjob : svc.createBuild data with
    | error e =>
      rw [hjob] at hrow
      cases hrow
    | ok jobId =>
      rw [hjob] at hrow
      cases hrow
      exact ⟨rfl,rfl⟩
  have hkeys : entries.map Prod.fst = dataset.map SyzbotData.bugId :=
    map_eq_map_of_forall₂ hrows fun _ _ hrow => hrow.1
  rw [OrderedMap.rows_ofEntries (hkeys ▸ hdistinct)]
  exact hrows

lemma interval_pos (h : inTime (deadline timeout) 0 = true) : 0 < interval timeout := by
  unfold inTime deadline at h
  unfold interval
  by_cases ht : timeout = -1
  · rw [if_pos ht]
    omega
  · rw [if_neg ht] at h ⊢
    have hpos : 0 < timeout := of_decide_eq_true h
    omega

lemma eq_seen_of_buildSeen {now : ℤ} {jobId : JobId} {seen : Seen}
    (h : svc.buildSeen now jobId = .ok seen) : seen = (svc.buildOutcome jobId).seen now := by
  unfold buildSeen at h
  split at h
  · cases h
  · cases h
    rfl

/-- What the polling keeps, of the dataset and of the index. -/
lemma of_pollKcacheJob (hdistinct : (dataset.map SyzbotData.bugId).Nodup)
    (hsubmit : svc.submitBuilds dataset = .ok kcache) {kept : List SyzbotData}
    {keptCache : KCacheIndex}
    (h : svc.pollKcacheJob fuel timeout dataset kcache = some (.ok (kept,keptCache))) :
    kept = dataset.filter (svc.seenInTime timeout) ∧
      ∀ bugId jobId, (bugId,jobId) ∈ keptCache.rows ↔
        ∃ data ∈ kept, data.bugId = bugId ∧ svc.createBuild data = .ok jobId := by
  have hrows := rows_submitBuilds hdistinct hsubmit
  obtain ⟨waited,hwait,hmap⟩ := Option.map_eq_some_iff.mp h
  cases waited with
  | error e => cases hmap
  | ok s =>
    cases hmap
    have hsuccessful : ∀ row ∈ kcache.rows, row.1 ∈ s.successful ↔
        polled (deadline timeout) (interval timeout) (svc.buildOutcome row.2) = true := by
      have hstatus : ∀ now jobId seen, svc.buildSeen now jobId = .ok seen →
          seen = (svc.buildOutcome jobId).seen now := fun _ _ _ => eq_seen_of_buildSeen
      intro row hrow
      exact mem_successful_iff kcache.nodup interval_pos hstatus hwait hrow
    have hseen : ∀ data ∈ dataset, data.bugId ∈ s.successful ↔
        svc.seenInTime timeout data = true := by
      intro data hmem
      obtain ⟨row,hrow,hkey,hjob⟩ := exists_right_of_forall₂ hrows hmem
      rw [← hkey,hsuccessful row hrow,seenInTime,hjob]
    have hkept : dataset.filter (fun data => data.bugId ∈ s.successful) =
        dataset.filter (svc.seenInTime timeout) := by
      apply List.filter_congr
      intro data hmem
      rw [Bool.eq_iff_iff,decide_eq_true_eq]
      exact hseen data hmem
    refine ⟨hkept,fun bugId jobId => ?_⟩
    rw [Table.delete,List.mem_filter,decide_not,Bool.not_not,decide_eq_true_eq]
    constructor
    · rintro ⟨hrow,hkey⟩
      obtain ⟨data,hmem,hdata,hjob⟩ := exists_left_of_forall₂ hrows hrow
      exact ⟨data,List.mem_filter.mpr ⟨hmem,decide_eq_true (hdata ▸ hkey)⟩,hdata.symm,hjob⟩
    · rintro ⟨data,hmem,rfl,hjob⟩
      obtain ⟨hmem,hkey⟩ := List.mem_filter.mp hmem
      obtain ⟨row,hrow,hdata,hjob'⟩ := exists_right_of_forall₂ hrows hmem
      obtain rfl : jobId = row.2 := Except.ok.inj (hjob.symm.trans hjob')
      rw [← hdata]
      exact ⟨hrow,hdata ▸ of_decide_eq_true hkey⟩

/-- One pass adds the row of its bug, where there is one. -/
lemma submitOne_eq_ok {r r' : OrderedMap String JobId} {data : SyzbotData} {jobId : JobId}
    (hcache : kcache.value? data.bugId = some jobId) (hjob : svc.createBuild data = .ok jobId)
    (h : svc.submitOne kcache r data = .ok r') :
    r' = (svc.evaluationRow data).toList.foldl (fun r row => r.set row.1 row.2) r := by
  unfold submitOne at h
  rw [hcache] at h
  unfold evaluationRow evaluationJob
  rw [hjob]
  simp only at h ⊢
  cases hcached : svc.cachedKCache jobId with
  | error e =>
    rw [hcached] at h
    cases h
  | ok cached =>
    rw [hcached] at h
    cases cached with
    | none =>
      cases h
      rfl
    | some resource =>
      simp only at h ⊢
      cases hcreate : svc.createEvaluation data resource with
      | error e =>
        rw [hcreate] at h
        cases h
        rfl
      | ok jobId =>
        rw [hcreate] at h
        cases h
        rfl

/-- The loop adds the rows of the bugs in their order. -/
lemma foldlM_submitOne {r r' : OrderedMap String JobId} {kept : List SyzbotData}
    (hcache : ∀ data ∈ kept, ∃ jobId, kcache.value? data.bugId = some jobId ∧
      svc.createBuild data = .ok jobId)
    (h : kept.foldlM (svc.submitOne kcache) r = .ok r') :
    r' = (kept.filterMap svc.evaluationRow).foldl (fun r row => r.set row.1 row.2) r := by
  induction kept generalizing r with
  | nil =>
    cases h
    rfl
  | cons data kept ih =>
    obtain ⟨next,hone,hrest⟩ := bind_eq_ok_iff.mp h
    obtain ⟨jobId,hvalue,hjob⟩ := hcache data List.mem_cons_self
    have hnext := submitOne_eq_ok hvalue hjob hone
    rw [ih (fun data' hmem => hcache data' (List.mem_cons_of_mem _ hmem)) hrest,hnext,
      List.filterMap_cons]
    cases svc.evaluationRow data <;> rfl

/-- The attempts give the result of the first one that does not raise. -/
lemma attempts_eq_some {result : KBenchEvaluationResult} {a len : ℕ}
    {evalResult : Option KBenchEvaluationResult}
    (h : svc.attempts fuel timeout receipt (List.range' a len) = some evalResult) :
    evalResult = some result ↔ ∃ n, a ≤ n ∧ n < a+len ∧
      (∀ m, a ≤ m → m < n → ∃ e, svc.attempt fuel timeout receipt m = some (.error e)) ∧
      svc.attempt fuel timeout receipt n = some (.ok result) := by
  induction len generalizing a with
  | zero =>
    cases h
    constructor
    · exact nofun
    · rintro ⟨n,hle,hlt,-⟩
      omega
  | succ len ih =>
    rw [List.range'_succ,attempts] at h
    cases hattempt : svc.attempt fuel timeout receipt a with
    | none =>
      rw [hattempt] at h
      cases h
    | some outcome =>
      rw [hattempt] at h
      cases outcome with
      | ok first =>
        cases h
        constructor
        · rintro ⟨⟩
          exact ⟨a,le_rfl,by omega,by omega,hattempt⟩
        · rintro ⟨n,hle,hlt,hbefore,hn⟩
          obtain rfl | hne := eq_or_ne a n
          · rw [hattempt] at hn
            cases hn
            rfl
          · obtain ⟨e,he⟩ := hbefore a le_rfl (by omega)
            rw [hattempt] at he
            cases he
      | error e =>
        rw [ih h]
        constructor
        · rintro ⟨n,hle,hlt,hbefore,hn⟩
          refine ⟨n,by omega,by omega,fun m hm hmn => ?_,hn⟩
          obtain rfl | hne := eq_or_ne a m
          · exact ⟨e,hattempt⟩
          · exact hbefore m (by omega) hmn
        · rintro ⟨n,hle,hlt,hbefore,hn⟩
          obtain rfl | hne := eq_or_ne a n
          · rw [hattempt] at hn
            cases hn
          · exact ⟨n,by omega,by omega,fun m hm hmn => hbefore m (by omega) hmn,hn⟩

/-- What one pass of `poll_kgym_evaluation` adds. -/
def verdictRow (getJob : JobId → Except PyError JobContext) (row : String × JobId) :
    Except PyError (String × EvaluationResult) := do
  let ctx ← getJob row.2
  let er ← classifyJob row.2 ctx
  pure (row.1,er)

lemma verdictRow_eq_ok {getJob : JobId → Except PyError JobContext} {row : String × JobId}
    {entry : String × EvaluationResult} : verdictRow getJob row = .ok entry ↔
      row.1 = entry.1 ∧ ∃ ctx, getJob row.2 = .ok ctx ∧ classifyJob row.2 ctx = .ok entry.2 := by
  unfold verdictRow
  rw [bind_eq_ok_iff]
  constructor
  · rintro ⟨ctx,hctx,hrest⟩
    obtain ⟨er,her,hpure⟩ := bind_eq_ok_iff.mp hrest
    cases hpure
    exact ⟨rfl,ctx,hctx,her⟩
  · obtain ⟨bugId,er⟩ := entry
    rintro ⟨rfl,ctx,hctx,her⟩
    exact ⟨ctx,hctx,bind_eq_ok_iff.mpr ⟨er,her,rfl⟩⟩

/-- The verdicts of an attempt, by the receipt. -/
lemma value?_pollKgymEvaluation {getJob : JobId → Except PyError JobContext}
    {results : KBenchEvaluationResult} (h : pollKgymEvaluation getJob receipt = .ok results)
    {bugId : String} {er : EvaluationResult} : results.value? bugId = some er ↔
      ∃ jobId ctx, receipt.value? bugId = some jobId ∧ getJob jobId = .ok ctx ∧
        classifyJob jobId ctx = .ok er := by
  have hloop : receipt.rows.foldlM (fun (ret : KBenchEvaluationResult) row =>
      (verdictRow getJob row).map fun entry => ret.set entry.1 entry.2) OrderedMap.empty =
        .ok results := by
    rw [← h,pollKgymEvaluation]
    apply foldlM_congr
    intro row _ ret
    unfold verdictRow
    cases hctx : getJob row.2 with
    | error e => rfl
    | ok ctx =>
      change (classifyJob row.2 ctx >>= _ : Except PyError _).map _ = classifyJob row.2 ctx >>= _
      cases classifyJob row.2 ctx <;> rfl
  obtain ⟨entries,hentries,rfl⟩ := foldlM_set_eq_ok hloop
  have hkeys : entries.map Prod.fst = receipt.rows.map Prod.fst :=
    map_eq_map_of_forall₂ hentries fun _ _ hrow => (verdictRow_eq_ok.mp hrow).1.symm
  rw [OrderedMap.value?_eq_some,OrderedMap.rows_ofEntries (hkeys ▸ receipt.nodup)]
  constructor
  · intro hmem
    obtain ⟨row,hrow,hverdict⟩ := exists_left_of_forall₂ hentries hmem
    obtain ⟨hkey,ctx,hctx,her⟩ := verdictRow_eq_ok.mp hverdict
    have hkey : row.1 = bugId := hkey
    refine ⟨row.2,ctx,OrderedMap.value?_eq_some.mpr ?_,hctx,her⟩
    rw [← hkey]
    exact hrow
  · rintro ⟨jobId,ctx,hvalue,hctx,her⟩
    obtain ⟨entry,hentry,hverdict⟩ := exists_right_of_forall₂ hentries
      (OrderedMap.value?_eq_some.mp hvalue)
    obtain ⟨hkey,ctx',hctx',her'⟩ := verdictRow_eq_ok.mp hverdict
    obtain rfl : ctx = ctx' := Except.ok.inj (hctx.symm.trans hctx')
    obtain rfl : er = entry.2 := Except.ok.inj (her.symm.trans her')
    have hkey : bugId = entry.1 := hkey
    rw [hkey]
    exact hentry

/-- What `build` returns, by its parts. -/
structure Returns (svc : Service) (fuel : ℕ) (timeout : ℤ) (dataset : List SyzbotData)
    (built : Built) : Prop where
  bugs : built.dataset = dataset.filter (svc.seenInTime timeout)
  kCache : ∀ bugId, built.kCache.value? bugId ≠ none ↔ ∃ data ∈ built.dataset, data.bugId = bugId
  failed : ∀ bugId, built.failed.value? bugId ≠ none ↔
    ∃ data ∈ dataset, data.bugId = bugId ∧ svc.seenInTime timeout data = false
  evalResult : svc.evaluateKgym fuel timeout (svc.receipt timeout dataset) = some built.evalResult

lemma eq_of_bugId_eq (hdistinct : (dataset.map SyzbotData.bugId).Nodup) {data data' : SyzbotData}
    (hmem : data ∈ dataset) (hmem' : data' ∈ dataset) (h : data.bugId = data'.bugId) :
    data = data' :=
  List.inj_on_of_nodup_map hdistinct hmem hmem' h

/-- The parts of `build`, where it returns. -/
lemma parts_of_build {built : Built} (h : svc.build fuel timeout dataset = some (.ok built)) :
    ∃ kcacheCrude kept keptCache receipt, svc.submitBuilds dataset = .ok kcacheCrude ∧
      svc.pollKcacheJob fuel timeout dataset kcacheCrude = some (.ok (kept,keptCache)) ∧
      svc.submitKgymEvaluation kept keptCache = .ok receipt ∧
      svc.evaluateKgym fuel timeout receipt = some built.evalResult ∧ built.dataset = kept ∧
      built.kCache = keptCache ∧
      built.failed = kcacheCrude.delete fun entry => (keptCache.get? entry.1).isSome := by
  unfold build at h
  cases hsubmit : svc.submitBuilds dataset with
  | error e =>
    rw [hsubmit] at h
    cases h
  | ok kcacheCrude =>
    rw [hsubmit] at h
    simp only at h
    cases hpoll : svc.pollKcacheJob fuel timeout dataset kcacheCrude with
    | none =>
      rw [hpoll] at h
      cases h
    | some polledJobs =>
      rw [hpoll] at h
      cases polledJobs with
      | error e => cases h
      | ok keptPair =>
        obtain ⟨kept,keptCache⟩ := keptPair
        simp only at h
        cases hevaluation : svc.submitKgymEvaluation kept keptCache with
        | error e =>
          rw [hevaluation] at h
          cases h
        | ok receipt =>
          rw [hevaluation] at h
          obtain ⟨evalResult,heval,hbuilt⟩ := Option.map_eq_some_iff.mp h
          cases hbuilt
          exact ⟨_,_,_,_,rfl,hpoll,hevaluation,heval,rfl,rfl,rfl⟩

/-- The cache of the builds has the bugs that are kept, where each of these has a job. -/
lemma value?_keptCache {kept : List SyzbotData} {keptCache : KCacheIndex}
    (hjobs : ∀ data ∈ kept, ∃ jobId, svc.createBuild data = .ok jobId)
    (hcache : ∀ bugId jobId, (bugId,jobId) ∈ keptCache.rows ↔
      ∃ data ∈ kept, data.bugId = bugId ∧ svc.createBuild data = .ok jobId) (bugId : String) :
    keptCache.value? bugId ≠ none ↔ ∃ data ∈ kept, data.bugId = bugId := by
  rw [Option.ne_none_iff_exists']
  constructor
  · rintro ⟨jobId,hvalue⟩
    obtain ⟨data,hmem,hkey,-⟩ := (hcache _ _).mp (OrderedMap.value?_eq_some.mp hvalue)
    exact ⟨data,hmem,hkey⟩
  · rintro ⟨data,hmem,hkey⟩
    obtain ⟨jobId,hjob⟩ := hjobs data hmem
    exact ⟨jobId,OrderedMap.value?_eq_some.mpr ((hcache _ _).mpr ⟨data,hmem,hkey,hjob⟩)⟩

/-- The builds that failed are those of the bugs that are not kept. -/
lemma value?_failed (hdistinct : (dataset.map SyzbotData.bugId).Nodup) {keptCache : KCacheIndex}
    (hsubmit : svc.submitBuilds dataset = .ok kcache)
    (hkept : ∀ bugId, keptCache.value? bugId ≠ none ↔
      ∃ data ∈ dataset.filter (svc.seenInTime timeout), data.bugId = bugId) (bugId : String) :
    OrderedMap.value? (kcache.delete fun entry => (keptCache.get? entry.1).isSome) bugId ≠ none ↔
      ∃ data ∈ dataset, data.bugId = bugId ∧ svc.seenInTime timeout data = false := by
  have hrows := rows_submitBuilds hdistinct hsubmit
  have hnotKept : ∀ bugId, (keptCache.get? bugId).isSome = true ↔
      ∃ data ∈ dataset.filter (svc.seenInTime timeout), data.bugId = bugId := by
    intro bugId
    rw [← hkept,OrderedMap.value?,Ne,Option.map_eq_none_iff,Option.isSome_iff_ne_none]
  rw [OrderedMap.value?_ne_none,List.mem_map]
  constructor
  · rintro ⟨row,hrow,rfl⟩
    obtain ⟨hrow,hnot⟩ := List.mem_filter.mp hrow
    obtain ⟨data,hmem,hkey,-⟩ := exists_left_of_forall₂ hrows hrow
    refine ⟨data,hmem,hkey.symm,?_⟩
    rw [Bool.not_eq_true',← Bool.not_eq_true,hnotKept] at hnot
    rw [← Bool.not_eq_true]
    intro hseen
    exact hnot ⟨data,List.mem_filter.mpr ⟨hmem,hseen⟩,hkey.symm⟩
  · rintro ⟨data,hmem,rfl,hseen⟩
    obtain ⟨row,hrow,hkey,-⟩ := exists_right_of_forall₂ hrows hmem
    refine ⟨row,List.mem_filter.mpr ⟨hrow,?_⟩,hkey⟩
    rw [Bool.not_eq_true',← Bool.not_eq_true,hnotKept]
    rintro ⟨data',hmem',hkey'⟩
    obtain ⟨hmem',hseen'⟩ := List.mem_filter.mp hmem'
    obtain rfl := eq_of_bugId_eq hdistinct hmem' hmem (hkey'.trans hkey)
    rw [hseen] at hseen'
    cases hseen'

lemma returns_of_build (hdistinct : (dataset.map SyzbotData.bugId).Nodup) {built : Built}
    (h : svc.build fuel timeout dataset = some (.ok built)) :
    Returns svc fuel timeout dataset built := by
  obtain ⟨kcacheCrude,kept,keptCache,receipt,hsubmit,hpoll,hevaluation,heval,hdataset,hkCache,
    hfailed⟩ := parts_of_build h
  obtain ⟨rfl,hcache⟩ := of_pollKcacheJob hdistinct hsubmit hpoll
  have hjobs : ∀ data ∈ dataset.filter (svc.seenInTime timeout),
      ∃ jobId, svc.createBuild data = .ok jobId := by
    intro data hmem
    obtain ⟨row,-,-,hjob⟩ := exists_right_of_forall₂ (rows_submitBuilds hdistinct hsubmit)
      (List.mem_of_mem_filter hmem)
    exact ⟨row.2,hjob⟩
  have hkept := value?_keptCache hjobs hcache
  have hreceipt : receipt = svc.receipt timeout dataset := by
    apply foldlM_submitOne _ hevaluation
    intro data hmem
    obtain ⟨jobId,hjob⟩ := hjobs data hmem
    exact ⟨jobId,OrderedMap.value?_eq_some.mpr ((hcache _ _).mpr ⟨data,hmem,rfl,hjob⟩),hjob⟩
  refine ⟨hdataset,?_,?_,hreceipt ▸ heval⟩
  · rw [hkCache,hdataset]
    exact hkept
  · rw [hfailed]
    exact value?_failed hdistinct hsubmit hkept

/-- The verdict that is returned is that of the deciding attempt. -/
lemma Returns.reproduced_iff {built : Built} (h : Returns svc fuel timeout dataset built)
    (data : SyzbotData) :
    built.Reproduced data ↔ svc.Verdict fuel timeout dataset data .reproduced := by
  have heval := h.evalResult
  unfold evaluateKgym at heval
  unfold Built.Reproduced Verdict
  by_cases hempty : (svc.receipt timeout dataset).rows.isEmpty = true
  · rw [if_pos hempty] at heval
    have hnone : built.evalResult = none := (Option.some.inj heval).symm
    rw [hnone]
    constructor
    · rintro ⟨results,er,hresults,-⟩
      cases hresults
    · rintro ⟨n,-,-,-,jobId,ctx,er,hvalue,-⟩
      have hmem := OrderedMap.value?_eq_some.mp hvalue
      rw [List.isEmpty_iff.mp hempty] at hmem
      cases hmem
  · rw [if_neg hempty,List.range_eq_range'] at heval
    have hattempt : ∀ n results, svc.attempt fuel timeout (svc.receipt timeout dataset) n =
        some (.ok results) →
        pollKgymEvaluation (svc.evaluationContext n) (svc.receipt timeout dataset) =
          .ok results := by
      intro n results hn
      obtain ⟨waited,-,hbind⟩ := Option.map_eq_some_iff.mp hn
      cases waited with
      | error e => cases hbind
      | ok s => exact hbind
    constructor
    · rintro ⟨results,er,hresults,hvalue,hverdict⟩
      obtain ⟨n,-,hlt,hbefore,hn⟩ := (attempts_eq_some heval).mp hresults
      obtain ⟨jobId,ctx,hjob,hctx,her⟩ := (value?_pollKgymEvaluation (hattempt n results hn)).mp
        hvalue
      exact ⟨n,by omega,fun m hm => hbefore m (Nat.zero_le m) hm,⟨results,hn⟩,jobId,ctx,er,hjob,
        hctx,her,hverdict⟩
    · rintro ⟨n,hlt,hbefore,⟨results,hn⟩,jobId,ctx,er,hjob,hctx,her,hverdict⟩
      refine ⟨results,er,?_,?_,hverdict⟩
      · exact (attempts_eq_some heval).mpr
          ⟨n,Nat.zero_le n,by omega,fun m _ hm => hbefore m hm,hn⟩
      · exact (value?_pollKgymEvaluation (hattempt n results hn)).mpr ⟨jobId,ctx,hjob,hctx,her⟩

/-- Without a deadline, up to a minute and for whole minutes the rounds of the polling see what the
deadline allows. -/
theorem seenInTime_iff_finishedInTime
    (h : timeout = -1 ∨ 0 < timeout ∧ (timeout ≤ 60 ∨ 60 ∣ timeout)) (data : SyzbotData) :
    svc.seenInTime timeout data = true ↔ svc.FinishedInTime timeout data := by
  have hpolled : ∀ o, polled (deadline timeout) (interval timeout) o = true ↔
      FinishedBy (deadline timeout) o := by
    intro o
    cases o with
    | abortedAt time => simp [polled,FinishedBy]
    | neverEnds => simp [polled,FinishedBy]
    | finishedAt time =>
      obtain rfl | ⟨hpos,hwhole⟩ := h
      · simp [polled,FinishedBy,deadline]
      · have hne : timeout ≠ -1 := by omega
        have hinterval : 0 < min timeout 60 := by omega
        have hdvd : min timeout 60 ∣ timeout := by
          obtain hle | hdvd := hwhole
          · rw [min_eq_left hle]
          · rw [min_eq_right (Int.le_of_dvd hpos hdvd)]
            exact hdvd
        simp [polled,FinishedBy,deadline,interval,hne,hpos,lastRound_of_dvd hinterval hdvd]
  unfold seenInTime FinishedInTime
  cases svc.createBuild data with
  | error e => simp
  | ok jobId => simp [hpolled]

/-- What is returned is exact where the rounds of the polling see what the deadline allows, and
where each bug that was built in time reproduces. -/
theorem build_exact_iff_reproduced (hdistinct : (dataset.map SyzbotData.bugId).Nodup)
    {built : Built} (h : svc.build fuel timeout dataset = some (.ok built)) :
    svc.Exact timeout dataset built ↔ ∀ data ∈ dataset,
      (svc.seenInTime timeout data = true ↔ svc.FinishedInTime timeout data) ∧
        (svc.FinishedInTime timeout data →
          svc.Verdict fuel timeout dataset data .reproduced) := by
  have hreturns := returns_of_build hdistinct h
  constructor
  · intro hexact data hmem
    have hseen : svc.seenInTime timeout data = true ↔ svc.FinishedInTime timeout data := by
      have hfailed := (hreturns.failed data.bugId).symm.trans (hexact.failed data.bugId)
      constructor
      · intro hseen
        have hkept : data ∈ built.dataset := by
          rw [hreturns.bugs]
          exact List.mem_filter.mpr ⟨hmem,hseen⟩
        exact ((hexact.bugs data).mp hkept).2.1
      · intro hfinished
        by_contra hnot
        obtain ⟨data',hmem',hkey,hlate⟩ := hfailed.mp
          ⟨data,hmem,rfl,Bool.not_eq_true _ ▸ hnot⟩
        exact hlate (eq_of_bugId_eq hdistinct hmem hmem' hkey.symm ▸ hfinished)
    refine ⟨hseen,fun hfinished => ?_⟩
    have hkept : data ∈ built.dataset := by
      rw [hreturns.bugs]
      exact List.mem_filter.mpr ⟨hmem,hseen.mpr hfinished⟩
    exact (hreturns.reproduced_iff data).mp ((hexact.bugs data).mp hkept).2.2
  · intro hcondition
    refine ⟨fun data => ?_,hreturns.kCache,fun bugId => ?_⟩
    · rw [hreturns.bugs,List.mem_filter]
      constructor
      · rintro ⟨hmem,hseen⟩
        have hfinished := (hcondition data hmem).1.mp hseen
        exact ⟨hmem,hfinished,(hreturns.reproduced_iff data).mpr ((hcondition data hmem).2 hfinished)⟩
      · rintro ⟨hmem,hfinished,-⟩
        exact ⟨hmem,(hcondition data hmem).1.mpr hfinished⟩
    · rw [hreturns.failed]
      constructor
      · rintro ⟨data,hmem,hkey,hseen⟩
        refine ⟨data,hmem,hkey,fun hfinished => ?_⟩
        rw [(hcondition data hmem).1.mpr hfinished] at hseen
        cases hseen
      · rintro ⟨data,hmem,hkey,hlate⟩
        refine ⟨data,hmem,hkey,?_⟩
        rw [← Bool.not_eq_true]
        exact fun hseen => hlate ((hcondition data hmem).1.mp hseen)

end Returned

end Service

/-! ## Two bugs, of which the first builds and crashes -/

def fixedCrash : SyzbotCrash :=
  ⟨"KASAN: use-after-free Read in put_task",none,some "r0 = socket(0x10, 0x3, 0x0)",none,none,"",
    some "# Linux/x86_64 6.1.0","git://git.kernel.org/linux.git","a1","","s1","gcc",
    "amd64",none,none,[]⟩

def fixedBug (bugId : String) : SyzbotData where
  version := 1
  title := "KASAN: use-after-free Read in put_task"
  displayTitle := "KASAN: use-after-free Read in put_task"
  bugId := bugId
  status := "fixed"
  fixCommits := []
  causeCommit := none
  discussions := []
  crashes := [fixedCrash]
  patchModifiedFunctions := none
  patchCommitDate := none
  causeCommitDate := none
  subsystems := none
  parentOfFixCommit := some "p1"
  patch := some "diff --git a/kernel/pid.c"
  patchMessage := none
  patchModifiedFiles := none
  rawCrashReport := none
  cleanCrashReport := none
  crashKernelId := none
  causeModifiedFunctions := none
  userspaceImage := none
  extra := []

def twoBugs : List SyzbotData := [fixedBug "a",fixedBug "b"]

lemma nodup_twoBugs : (twoBugs.map SyzbotData.bugId).Nodup := by decide

def aCrash : Crash := ⟨0,"KASAN",.crash,[⟨none,none⟩]⟩

/-- The job of an evaluation, finished with these crashes. -/
def evaluatedJob (jobId : JobId) (crashes : List Crash) : JobContext where
  jobId := jobId
  createdTime := 0
  modifiedTime := 0
  status := .finished
  currentWorkerHostname := ""
  currentWorker := 1
  jobWorkers :=
    [⟨"kbuilder",⟨"kbuilder",""⟩,some ⟨"kbuilder",none,none,none,some ⟨none⟩⟩⟩,
      ⟨"kvmmanager",⟨"kvmmanager",""⟩,some ⟨"kvmmanager",none,none,
        some ⟨none,some crashes,none,some .normal⟩,none⟩⟩]
  tags := []

/-- The builds are the jobs 1 and 2, the evaluations 3 and 4; only the first bug crashes. -/
def firstCrashes (second : Outcome) : Service where
  createBuild data := .ok (if data.bugId = "a" then 1 else 2)
  buildOutcome jobId := if jobId = 1 then .finishedAt 50 else second
  buildRaises _ _ := none
  cachedKCache _ := .ok (some ⟨"k","s"⟩)
  createEvaluation data _ := .ok (if data.bugId = "a" then 3 else 4)
  evaluationSeen _ _ _ := .ok .finished
  evaluationContext _ jobId := .ok (evaluatedJob jobId (if jobId = 3 then [aCrash] else []))

/-- The bug that builds and does not crash is kept. -/
theorem build_keeps_unreproduced :
    ¬∀ (svc : Service) (fuel : ℕ) (timeout : ℤ) (dataset : List SyzbotData)
      (built : Service.Built), (dataset.map SyzbotData.bugId).Nodup →
      svc.build fuel timeout dataset = some (.ok built) → svc.Exact timeout dataset built := by
  intro h
  obtain ⟨built,hbuilt,hkept,hverdict⟩ : ∃ built : Service.Built,
      (firstCrashes (.finishedAt 70)).build 3 600 twoBugs = some (.ok built) ∧
        built.dataset = twoBugs ∧ (built.evalResult.bind fun results => results.value? "b").map
          EvaluationResult.evaluation = some .notReproduced :=
    ⟨_,rfl,rfl,rfl⟩
  have hexact := h _ _ _ _ _ nodup_twoBugs hbuilt
  have hmem : fixedBug "b" ∈ built.dataset := hkept ▸ List.mem_cons_of_mem _ List.mem_cons_self
  obtain ⟨-,-,results,er,hresults,hvalue,hreproduced⟩ := (hexact.bugs _).mp hmem
  rw [hresults,Option.bind_some] at hverdict
  have hvalue : results.value? "b" = some er := hvalue
  rw [hvalue,Option.map_some,hreproduced] at hverdict
  cases hverdict

/-- The kernel of the second bug is never built. -/
theorem build_exact_iff_reproduced_twoBugs : ∃ built,
    (firstCrashes .neverEnds).build 12 600 twoBugs = some (.ok built) ∧
      built.dataset = [fixedBug "a"] ∧ built.failed.value? "b" = some 2 ∧
      (firstCrashes .neverEnds).Exact 600 twoBugs built := by
  obtain ⟨built,hbuilt,hkept,hfailed⟩ : ∃ built : Service.Built,
      (firstCrashes .neverEnds).build 12 600 twoBugs = some (.ok built) ∧
        built.dataset = [fixedBug "a"] ∧ built.failed.value? "b" = some 2 := ⟨_,rfl,rfl,rfl⟩
  refine ⟨built,hbuilt,hkept,hfailed,
    (Service.build_exact_iff_reproduced nodup_twoBugs hbuilt).mpr ?_⟩
  have hfirst : (firstCrashes .neverEnds).FinishedInTime 600 (fixedBug "a") :=
    ⟨1,rfl,50,rfl,by rintro d ⟨⟩; decide⟩
  have hsecond : ¬(firstCrashes .neverEnds).FinishedInTime 600 (fixedBug "b") := by
    rintro ⟨jobId,hjob,time,htime,-⟩
    cases hjob
    cases htime
  intro data hmem
  simp only [twoBugs,List.mem_cons,List.not_mem_nil,or_false] at hmem
  obtain rfl | rfl := hmem
  · refine ⟨⟨fun _ => hfirst,fun _ => rfl⟩,fun _ => ?_⟩
    exact ⟨0,by decide,by omega,⟨_,rfl⟩,3,evaluatedJob 3 [aCrash],_,rfl,rfl,rfl,rfl⟩
  · have hunseen : ¬(firstCrashes .neverEnds).seenInTime 600 (fixedBug "b") = true := by decide
    exact ⟨⟨fun h => absurd h hunseen,fun h => absurd h hsecond⟩,fun h => absurd h hsecond⟩

end LiveKBench.KClient
