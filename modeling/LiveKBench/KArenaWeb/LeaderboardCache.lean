import LiveKBench.KArenaWeb.MonthWindow
import LiveKBench.Lib.Machine

/-! `evaluateLeaderboard` and its cache. The cache belongs to the process; its key is made of the
query's parameters, and no entry is ever removed. -/
namespace LiveKBench.KArenaWeb
open KArena Lib

/-- A query as it comes in. A month that is no text counts as absent, and the numbers are what
`Number` makes of the fields, `none` where it is not finite; `datasetId` may be absent itself. -/
structure LeaderboardInput where
  datasetId : Option (Option ℚ)
  startMonth : Option String
  endMonth : Option String
  k : Option ℚ
  deriving DecidableEq, Repr

structure LeaderboardResult where
  datasetId : ℕ
  datasetName : String
  startMonth : String
  endMonth : String
  fixedTimeStart : String
  fixedTimeEnd : String
  k : ℕ
  bugCount : ℕ
  rows : List LeaderboardEntry
  deriving DecidableEq, Repr

/-- The fields of the text that `getCacheKey` makes. -/
structure CacheKey where
  datasetId : ℕ
  startMonth : String
  endMonth : String
  k : ℕ
  deriving DecidableEq, Repr

abbrev LeaderboardCache := OrderedMap CacheKey LeaderboardResult

/-- `Number.isInteger(x) && x > 0`. -/
def positiveInteger? (x : Option ℚ) : Option ℕ :=
  x.bind fun x => if x.den = 1 ∧ 0 < x.num then some x.num.toNat else none

def getDefaultDataset (db : Database) : Except String BugDataset :=
  let ordered := sortOn (fun d : BugDataset =>
    (if d.datasetName = "lkbench-2512" then 0 else 1,d.datasetId)) db.bugDatasets.rows
  match ordered with
  | [] => .error "No dataset available for leaderboard"
  | dataset :: _ => .ok dataset

def resolveDataset (db : Database) (inputDatasetId : Option (Option ℚ)) :
    Except String BugDataset :=
  match inputDatasetId with
  | none => getDefaultDataset db
  | some number =>
    match positiveInteger? number with
    | none => .error "datasetId must be a positive integer"
    | some datasetId =>
      match db.bugDatasets.get? datasetId with
      | none => .error s!"Dataset not found: {datasetId}"
      | some dataset => .ok dataset

/-- The part before the cache: the dataset and the key. -/
def readQuery (currentMonth : String) (db : Database) (input : Option LeaderboardInput) :
    Except String (BugDataset × CacheKey) :=
  match input with
  | none => .error "Leaderboard query must be an object"
  | some input =>
    match positiveInteger? input.k with
    | none => .error "k must be a positive integer"
    | some k => do
      let dataset ← resolveDataset db input.datasetId
      return (dataset,
        ⟨dataset.datasetId,input.startMonth.getD "2024-01",input.endMonth.getD currentMonth,k⟩)

/-- The part after the cache. -/
def computeLeaderboard (db : Database) (dataset : BugDataset) (key : CacheKey) :
    LeaderboardResult :=
  let timeStart := fixedTimeStart key.startMonth
  let timeEnd := fixedTimeEnd key.endMonth
  let selectedBugIds := fetchSelectedBugIds db dataset.datasetId timeStart timeEnd
  { datasetId := dataset.datasetId
    datasetName := dataset.datasetName
    startMonth := key.startMonth
    endMonth := key.endMonth
    fixedTimeStart := timeStart
    fixedTimeEnd := timeEnd
    k := key.k
    bugCount := selectedBugIds.length
    rows := buildEntries (fetchLeaderboardRows db dataset.datasetId timeStart timeEnd)
      selectedBugIds key.k }

def evaluateLeaderboard (currentMonth : String) (db : Database) (cache : LeaderboardCache)
    (input : Option LeaderboardInput) : Except String LeaderboardResult × LeaderboardCache :=
  match readQuery currentMonth db input with
  | .error e => (.error e,cache)
  | .ok (dataset,key) =>
    match OrderedMap.value? cache key with
    | some cachedResult => (.ok cachedResult,cache)
    | none =>
      let result := computeLeaderboard db dataset key
      (.ok result,OrderedMap.set cache key result)

/-- What the query comes to without the cache. -/
def evaluateUncached (currentMonth : String) (db : Database) (input : Option LeaderboardInput) :
    Except String LeaderboardResult :=
  (readQuery currentMonth db input).map fun query => computeLeaderboard db query.1 query.2

/-- The process and the database beside it. -/
structure WebServer where
  db : Database
  cache : LeaderboardCache

inductive WebEvent
  /-- Whatever is written to the database, it is in this state afterwards. -/
  | change (db : Database)
  | query (currentMonth : String) (input : Option LeaderboardInput)

def webMachine : Machine WebServer WebEvent where
  init s := s.cache = OrderedMap.empty
  step s e := some <|
    match e with
    | .change db => { s with db := db }
    | .query currentMonth input =>
      { s with cache := (evaluateLeaderboard currentMonth s.db s.cache input).2 }

/-- Whatever is asked next, the answer is that of the current database. -/
def WebServer.Transparent (s : WebServer) : Prop :=
  ∀ currentMonth input, (evaluateLeaderboard currentMonth s.db s.cache input).1 =
    evaluateUncached currentMonth s.db input

/-- Two states of the database on which a query reads the same: the dataset, the selected bugs and
the rows. -/
structure SameView (db db' : Database) (key : CacheKey) : Prop where
  dataset : db'.bugDatasets.get? key.datasetId = db.bugDatasets.get? key.datasetId
  bugs : bugsBetween db' key.datasetId key.startMonth key.endMonth =
    bugsBetween db key.datasetId key.startMonth key.endMonth
  rows : fetchLeaderboardRows db' key.datasetId (fixedTimeStart key.startMonth)
      (fixedTimeEnd key.endMonth) =
    fetchLeaderboardRows db key.datasetId (fixedTimeStart key.startMonth)
      (fixedTimeEnd key.endMonth)

/-- A change of the database leaves alone what the queries asked so far have read. -/
def KeepsViews (s : WebServer) : WebEvent → Prop
  | .change db => ∀ key, OrderedMap.value? s.cache key ≠ none → SameView s.db db key
  | .query _ _ => True

/-- The results in the cache are those of the database. -/
def CacheFresh (s : WebServer) : Prop :=
  ∀ key result, OrderedMap.value? s.cache key = some result →
    ∃ dataset, s.db.bugDatasets.get? key.datasetId = some dataset ∧
      result = computeLeaderboard s.db dataset key

section Freshness
variable {s : WebServer} {db db' : Database} {key : CacheKey} {dataset : BugDataset}

lemma resolveDataset_eq_ok {inputDatasetId : Option (Option ℚ)}
    (h : resolveDataset db inputDatasetId = .ok dataset) :
    db.bugDatasets.get? dataset.datasetId = some dataset := by
  rw [Table.get?_eq_some]
  refine ⟨?_,rfl⟩
  unfold resolveDataset at h
  split at h
  · unfold getDefaultDataset at h
    dsimp only at h
    split at h
    · exact absurd h (by simp)
    · rename_i hordered
      obtain rfl := Except.ok.inj h
      exact mem_sortOn.mp (hordered ▸ List.mem_cons_self)
  · split at h
    · exact absurd h (by simp)
    · split at h
      · exact absurd h (by simp)
      · rename_i hget
        obtain rfl := Except.ok.inj h
        exact (Table.get?_eq_some.mp hget).1

/-- The dataset of a query is the one of its key. -/
lemma readQuery_eq_ok {currentMonth : String} {input : Option LeaderboardInput}
    (h : readQuery currentMonth db input = .ok (dataset,key)) :
    key.datasetId = dataset.datasetId ∧ db.bugDatasets.get? key.datasetId = some dataset := by
  unfold readQuery at h
  split at h
  · exact absurd h (by simp)
  · split at h
    · exact absurd h (by simp)
    · rename_i input _ k _
      cases hd : resolveDataset db input.datasetId with
      | error e => rw [hd] at h; exact absurd h (by simp [bind,Except.bind])
      | ok found =>
        rw [hd] at h
        have hpair := Except.ok.inj h
        obtain ⟨rfl,rfl⟩ := Prod.mk.inj hpair
        exact ⟨rfl,resolveDataset_eq_ok hd⟩

/-- A fresh cache answers as the database does. -/
theorem CacheFresh.transparent (h : CacheFresh s) : s.Transparent := by
  intro currentMonth input
  unfold evaluateLeaderboard evaluateUncached
  cases hq : readQuery currentMonth s.db input with
  | error e => rfl
  | ok query =>
    obtain ⟨dataset,key⟩ := query
    dsimp only
    cases hc : OrderedMap.value? s.cache key with
    | none => rfl
    | some result =>
      obtain ⟨dataset',hget,rfl⟩ := h key result hc
      obtain rfl : dataset = dataset' :=
        Option.some.inj ((readQuery_eq_ok hq).2.symm.trans hget)
      rfl

/-- A query fills the cache with the result of the current database. -/
theorem CacheFresh.query (h : CacheFresh s) (currentMonth : String)
    (input : Option LeaderboardInput) :
    CacheFresh { s with cache := (evaluateLeaderboard currentMonth s.db s.cache input).2 } := by
  unfold evaluateLeaderboard
  cases hq : readQuery currentMonth s.db input with
  | error e => exact h
  | ok query =>
    obtain ⟨dataset,key⟩ := query
    dsimp only
    cases hc : OrderedMap.value? s.cache key with
    | some result => exact h
    | none =>
      intro key' result hvalue
      rw [OrderedMap.value?_set] at hvalue
      split at hvalue
      · rename_i hkey
        subst hkey
        exact ⟨dataset,(readQuery_eq_ok hq).2,(Option.some.inj hvalue).symm⟩
      · exact h key' result hvalue

lemma computeLeaderboard_congr (hv : SameView db db' key) (hd : key.datasetId = dataset.datasetId) :
    computeLeaderboard db' dataset key = computeLeaderboard db dataset key := by
  have hbugs := hv.bugs
  unfold bugsBetween at hbugs
  unfold computeLeaderboard
  rw [← hd]
  simp only [hbugs,hv.rows]

/-- A change that keeps the views keeps the cache fresh. -/
theorem CacheFresh.change (h : CacheFresh s) (hk : KeepsViews s (.change db)) :
    CacheFresh { s with db := db } := by
  intro key result hvalue
  obtain ⟨dataset,hget,rfl⟩ := h key result hvalue
  have hview : SameView s.db db key := hk key (by rw [hvalue]; simp)
  refine ⟨dataset,hview.dataset.trans hget,?_⟩
  rw [computeLeaderboard_congr hview (Table.get?_eq_some.mp hget).2.symm]

theorem cacheFresh_of_keepsViews (h : webMachine.ReachableBy KeepsViews s) : CacheFresh s := by
  apply h.invariant
  · intro s hinit key result hvalue
    rw [show s.cache = OrderedMap.empty from hinit] at hvalue
    exact absurd hvalue (by simp)
  · intro s e s' _ hs hk ht
    cases e with
    | change db =>
      obtain rfl := Option.some.inj ht
      exact hs.change hk
    | query currentMonth input =>
      obtain rfl := Option.some.inj ht
      exact hs.query currentMonth input

/-- As long as no change touches what earlier queries have read, every answer is that of the current
database. -/
theorem transparent_of_keepsViews (s : WebServer) (h : webMachine.ReachableBy KeepsViews s) :
    s.Transparent :=
  (cacheFresh_of_keepsViews h).transparent

def januaryInput : LeaderboardInput := ⟨some (some 1),some "2024-01",some "2024-01",some 1⟩

def midFebruary : DateTime :=
  { midJanuary with month := 2, monthRange := by decide, dayRange := by decide }

/-- A bug that was fixed in February has come into the dataset. -/
def alsoFebruary : Database :=
  { fixedAt midJanuary with
    syzbotBugs := ⟨[⟨"bug","fixed","[]"⟩,⟨"late","fixed","[]"⟩],by decide⟩
    patches := ⟨[⟨1,1⟩,⟨2,1⟩],by decide⟩
    developerPatches := ⟨[⟨1,1,"bug",midJanuary.isoformat⟩,⟨2,2,"late",midFebruary.isoformat⟩],
      by decide⟩
    bugDatasetMembers := ⟨[⟨1,"bug"⟩,⟨1,"late"⟩],by decide⟩ }

/-- The cache after the query of January. -/
def januaryCache : LeaderboardCache :=
  (evaluateLeaderboard "2024-02" (fixedAt midJanuary) OrderedMap.empty (some januaryInput)).2

/-- A server that answered a query, saw the bug of February come, and answered one about it. -/
def askedServer : WebServer :=
  { db := alsoFebruary
    cache := (evaluateLeaderboard "2024-02" alsoFebruary januaryCache
      (some { januaryInput with endMonth := some "2024-02" })).2 }

/-- The bug of February is in no window that has been asked for. -/
lemma keepsViews_alsoFebruary : KeepsViews ⟨fixedAt midJanuary,januaryCache⟩
    (.change alsoFebruary) := by
  intro key hkey
  obtain rfl : key = ⟨1,"2024-01","2024-01",1⟩ := by
    by_contra hne
    refine hkey ?_
    have hset : januaryCache = OrderedMap.set OrderedMap.empty ⟨1,"2024-01","2024-01",1⟩
        (computeLeaderboard (fixedAt midJanuary) ⟨1,"dataset"⟩ ⟨1,"2024-01","2024-01",1⟩) := rfl
    rw [hset,OrderedMap.value?_set,if_neg (Ne.symm hne)]
    rfl
  exact ⟨rfl,by decide +kernel,by decide +kernel⟩

theorem askedServer_transparent : askedServer.Transparent := by
  apply transparent_of_keepsViews askedServer
  have hstart : webMachine.ReachableBy KeepsViews ⟨Database.empty,OrderedMap.empty⟩ :=
    .start rfl
  have hchange : webMachine.ReachableBy KeepsViews ⟨fixedAt midJanuary,OrderedMap.empty⟩ :=
    hstart.next (e := .change (fixedAt midJanuary)) (fun key h => absurd rfl h) rfl
  have hasked : webMachine.ReachableBy KeepsViews ⟨fixedAt midJanuary,januaryCache⟩ :=
    hchange.next (e := .query "2024-02" (some januaryInput)) trivial rfl
  have hlater : webMachine.ReachableBy KeepsViews ⟨alsoFebruary,januaryCache⟩ :=
    hasked.next keepsViews_alsoFebruary rfl
  exact hlater.next
    (e := .query "2024-02" (some { januaryInput with endMonth := some "2024-02" })) trivial rfl

/-- The dataset before its bug was added. -/
def emptyDataset : Database :=
  { Database.empty with bugDatasets := .singleton ⟨1,"dataset"⟩ }

/-- A leaderboard that was asked for before a bug came into the dataset stays without it. -/
theorem not_transparent_of_reachable :
    ¬ ∀ s : WebServer, webMachine.Reachable s → s.Transparent := by
  intro h
  have hstart : webMachine.Reachable ⟨emptyDataset,OrderedMap.empty⟩ := .start rfl
  have hquery := hstart.next (e := .query "2024-02" (some januaryInput)) trivial rfl
  have hchange := hquery.next (e := .change (fixedAt midJanuary)) trivial rfl
  have hanswer := h _ hchange "2024-02" (some januaryInput)
  have hcount := congrArg (Except.map LeaderboardResult.bugCount) hanswer
  exact absurd hcount (by decide +kernel)

end Freshness
end LiveKBench.KArenaWeb
