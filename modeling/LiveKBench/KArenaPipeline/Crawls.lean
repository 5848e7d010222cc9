import LiveKBench.KArenaPipeline.PopulatedRecord
import LiveKBench.Lib.Machine
import Mathlib.Data.List.Dedup

/-! The crawls of the pipeline, on one database, by processes that share the file of the url cache.
A crawl compares the tables of the site with the database and gets the page of each bug that is new
under its status. -/
namespace LiveKBench.KArenaPipeline
open KArenaWeb (DateTime)
open KArenaDb
open KClient (SyzbotData SyzbotGitCommit)
open Lib SyzbotDriver

/-- A row that `_get` takes out of a table. -/
structure TableRow where
  extid : String
  reportedDays : ℤ
  subsystems : List String

/-- What the parsers make of the pages, and the populator. -/
structure DataPipeline where
  readFixedTable : String → Except Raised (List TableRow)
  readOpenTable : String → Except Raised (List TableRow)
  readBug : String → Except Raised SyzbotData
  populator : SyzbotPopulator

/-- What happens around one crawl: its requests, the order in which the differences of the sets are
listed, and the two times of an insertion, by the extid and the days since the report. -/
structure CrawlInput where
  fixedTable : Fetch
  openTable : Fetch
  details : BugStatus → String → Fetch
  order : List String → List String
  perm : ∀ extids, (order extids).Perm extids
  times : String → ℤ → DateTime × DateTime

/-- `opened` holds the extids that were in the open table of a crawl. -/
structure CrawlWorld where
  page : String → String
  file : CacheFile
  driver : ℕ → SyzbotDriver
  bugs : BugTable
  opened : List String

namespace DataPipeline
variable (p : DataPipeline)

def fixedTableUrl : String := syzbotUrl ++ "/upstream/fixed"

def openTableUrl : String := syzbotUrl ++ "/upstream"

/-- `crawl_fixed_table` and `crawl_open_table`. -/
def crawlTable (readTable : String → Except Raised (List TableRow)) (url : String)
    (page : String → String) (f : Fetch) (d : SyzbotDriver) (file : CacheFile) :
    Except Raised (List TableRow) × SyzbotDriver × CacheFile :=
  let (response,d,file) := sessGet 0 url (page url) f d file
  (do readTable (← response).text,d,file)

/-- The extids of `get_fixed_bugs_ids` and `get_open_bugs_ids`. -/
def existing (bugs : BugTable) (status : BugStatus) : List String :=
  (bugs.rows.filter fun row => row.status = status).map BugRow.extid

/-- The extids of a table that the database does not have under its status. -/
def newExtids (rows : List TableRow) (existing : List String) : List String :=
  ((rows.map TableRow.extid).dedup).filter fun extid => extid ∉ existing

/-- `gather` of `crawl_extid`, where each exception is kept in the place of its record. -/
def gather (page : String → String) (status : BugStatus) (f : String → Fetch) :
    List String → SyzbotDriver → CacheFile →
      List (String × Except Raised SyzbotData) × SyzbotDriver × CacheFile
  | [], d, file => ([],d,file)
  | extid :: extids, d, file =>
    let (data,d,file) := crawlExtid p.readBug page status.text extid (f extid) d file
    let (rest,d,file) := gather page status f extids d file
    ((extid,data) :: rest,d,file)

def successes (results : List (String × Except Raised SyzbotData)) : List (String × SyzbotData) :=
  results.filterMap fun result => result.2.toOption.map fun data => (result.1,data)

/-- `[b for b in populated if _has_usable_reproducer(b)]`. -/
def keepUsable : List SyzbotData → Except Raised (List SyzbotData)
  | [] => .ok []
  | bug :: bugs =>
    match hasUsableReproducer bug with
    | .error _ => .error (.attributeError "find")
    | .ok usable => (keepUsable bugs).map fun kept => if usable then bug :: kept else kept

/-- The call of `insert_syzbot_bug` for a bug. Each bug of the batch has its extid, and each extid
is in a table. -/
def insertOf (found : List (String × SyzbotData)) (rows : List TableRow)
    (times : String → ℤ → DateTime × DateTime) (bug : SyzbotData) : CrawlInsert :=
  let extids := OrderedMap.ofEntries (found.map fun entry => (entry.2.bugId,entry.1))
  let extid := (extids.value? bug.bugId).getD ""
  let table := OrderedMap.ofEntries (rows.map fun row => (row.extid,row))
  let row := (table.value? extid).getD ⟨extid,0,[]⟩
  let (addedTime,reportedTime) := times extid row.reportedDays
  ⟨{ bug with subsystems := some row.subsystems },extid,addedTime,reportedTime⟩

/-- `_populate_and_insert`. -/
def populateAndInsert (found : List (String × SyzbotData)) (rows : List TableRow)
    (times : String → ℤ → DateTime × DateTime) (bugs : BugTable) : Except Raised BugTable := do
  let populated ← p.populator.populateBatch (found.map Prod.snd)
  let usable ← keepUsable populated
  return (usable.map (insertOf found rows times)).foldl crawlInsert bugs

/-- A crawl up to the call of `populate_batch`: the records passed to it, those crawled as fixed
and those crawled as open, with their extids. -/
structure Batch where
  fixed : List (String × SyzbotData)
  opened : List (String × SyzbotData)
  rows : List TableRow
  fixedExtids : List String
  openExtids : List String

def Batch.found (b : Batch) : List (String × SyzbotData) := b.fixed ++ b.opened

/-- `_scrape_tables`, `_discover_new_extids` and `_fetch_bug_details`. -/
def fetchBatch (w : CrawlWorld) (k : ℕ) (input : CrawlInput) :
    Except Raised Batch × SyzbotDriver × CacheFile :=
  let (fixedRows,d,file) := crawlTable p.readFixedTable fixedTableUrl w.page input.fixedTable
    (w.driver k) w.file
  match fixedRows with
  | .error e => (.error e,d,file)
  | .ok fixedRows =>
    let (openRows,d,file) := crawlTable p.readOpenTable openTableUrl w.page input.openTable d file
    match openRows with
    | .error e => (.error e,d,file)
    | .ok openRows =>
      let newlyFixed := input.order (newExtids fixedRows (existing w.bugs .fixed))
      let newlyOpen := input.order (newExtids openRows (existing w.bugs .open))
      let (fixed,d,file) := p.gather w.page .fixed (input.details .fixed) newlyFixed d file
      let (opened,d,file) := p.gather w.page .open (input.details .open) newlyOpen d file
      (.ok ⟨successes fixed,successes opened,fixedRows ++ openRows,
        fixedRows.map TableRow.extid,openRows.map TableRow.extid⟩,d,file)

/-- `DataPipeline.crawl` by the process `k`; where it raises, the database stays as it is. -/
def crawl (w : CrawlWorld) (k : ℕ) (input : CrawlInput) : CrawlWorld :=
  let (batch,d,file) := p.fetchBatch w k input
  let w := { w with driver := Function.update w.driver k d, file }
  match batch with
  | .error _ => w
  | .ok batch =>
    let bugs := match p.populateAndInsert batch.found batch.rows input.times w.bugs with
      | .ok bugs => bugs
      | .error _ => w.bugs
    { w with bugs, opened := w.opened ++ batch.openExtids }

/-- The site publishes a new version of its pages, a process crawls, and other code writes into the
table or the file. -/
inductive CrawlEvent
  | publish (page : String → String)
  | crawl (k : ℕ) (input : CrawlInput)
  | write (bugs : BugTable)
  | overwrite (file : CacheFile)

def step (w : CrawlWorld) : CrawlEvent → Option CrawlWorld
  | .publish page => some { w with page }
  | .crawl k input => some (p.crawl w k input)
  | .write bugs => some { w with bugs }
  | .overwrite file => some { w with file }

def world (page : String → String) : CrawlWorld := ⟨page,none,fun _ => .init,.empty,[]⟩

def machine : Machine CrawlWorld CrawlEvent where
  init w := ∃ page, w = world page
  step := p.step

/-! ## Fresh crawls -/

/-- The record that a crawl should take from a page of a bug that has been fixed. -/
def fixedRecord (text : String) : Except Raised SyzbotData :=
  (p.readBug text).map fun data => { data with status := BugStatus.fixed.text }

/-- Populated, the record passes the filter. -/
def Usable (data : SyzbotData) : Prop :=
  ∃ populated, p.populator.populate data = .ok populated ∧
    hasUsableReproducer populated = .ok true

/-- The extid was in the open table of an earlier crawl, and is newly in the fixed table of this
one. -/
structure TurnedFixed (w : CrawlWorld) (batch : Batch) (extid : String) : Prop where
  opened : extid ∈ w.opened
  fixed : extid ∈ batch.fixedExtids
  new : extid ∉ existing w.bugs .fixed

/-- For each bug that was open and has turned fixed, what is passed to `populate_batch` is the
record of the page that the site has now, and the bug becomes fixed in the database if that is
usable. -/
def CrawlsFresh (w : CrawlWorld) (k : ℕ) (input : CrawlInput) : Prop :=
  ∀ batch, (p.fetchBatch w k input).1 = .ok batch → ∀ extid, TurnedFixed w batch extid →
    ∃ data, p.fixedRecord (w.page (bugUrl extid)) = .ok data ∧
      (∀ passed, (extid,passed) ∈ batch.found ↔ passed = data) ∧
      (p.Usable data → ∃ row, (p.crawl w k input).bugs.get? data.bugId = some row ∧
        row.status = .fixed)

/-- The entry of the url cache that the process would take the page of a bug from. -/
def cachedPage (w : CrawlWorld) (k : ℕ) (input : CrawlInput) (status : BugStatus)
    (extid : String) : Option CacheEntry :=
  ((w.driver k).loadCache w.file).cached? defaultTtl (bugUrl extid)
    (input.details status extid).currentTime

/-- The text that the requests for a page give. -/
def Answers (page : String) (f : Fetch) (text : String) : Prop :=
  ∃ response, fetch page f.first [f.second,f.third] = .ok response ∧ response.text = text

/-- A text that the crawl may take for the page of a bug: an entry of the url cache that answers, or
an answer of the requests. -/
def MayRead (w : CrawlWorld) (k : ℕ) (input : CrawlInput) (extid text : String) : Prop :=
  ∃ status, (∃ entry, cachedPage w k input status extid = some entry ∧ entry.content = text) ∨
    Answers (w.page (bugUrl extid)) (input.details status extid) text

/-- The bug is in the open table, and not as open in the database. -/
def NewlyOpen (w : CrawlWorld) (batch : Batch) (extid : String) : Prop :=
  extid ∈ batch.openExtids ∧ extid ∉ existing w.bugs .open

def NewlyFixed (w : CrawlWorld) (batch : Batch) (extid : String) : Prop :=
  extid ∈ batch.fixedExtids ∧ extid ∉ existing w.bugs .fixed

/-- What a crawl needs for the bugs that have turned fixed. -/
structure Meets (w : CrawlWorld) (k : ℕ) (input : CrawlInput) (batch : Batch) : Prop where
  /-- An entry of the cache for the page reads as the page does now. -/
  cached : ∀ extid, TurnedFixed w batch extid → ∀ entry,
    cachedPage w k input .fixed extid = some entry →
      p.fixedRecord entry.content = p.fixedRecord (w.page (bugUrl extid))
  /-- Without an entry, one of the three requests is served. -/
  answered : ∀ extid, TurnedFixed w batch extid → cachedPage w k input .fixed extid = none →
    (input.details .fixed extid).Answered
  readable : ∀ extid, TurnedFixed w batch extid →
    ∃ data, p.fixedRecord (w.page (bugUrl extid)) = .ok data
  /-- No bug that is newly open reads as the same bug. -/
  single : ∀ extid, TurnedFixed w batch extid → ∀ data,
    p.fixedRecord (w.page (bugUrl extid)) = .ok data → ∀ other, NewlyOpen w batch other →
      other ≠ extid ∧ ∀ text read, MayRead w k input other text → p.readBug text = .ok read →
        read.bugId ≠ data.bugId
  /-- Each record that is read has what populating it needs, and a kernel config beside a
  reproducer. -/
  populates : ∀ extid, NewlyFixed w batch extid ∨ NewlyOpen w batch extid → ∀ text read,
    MayRead w k input extid text → p.readBug text = .ok read →
      p.populator.Completable read ∧ ¬SyzbotPopulator.NoConfig read

/-- The step is no crawl, or one that meets this. -/
def MeetsAt (w : CrawlWorld) : CrawlEvent → Prop
  | .crawl k input => ∀ batch, (p.fetchBatch w k input).1 = .ok batch → p.Meets w k input batch
  | _ => True

/-! ## What is gathered -/

section Gather
variable {p : DataPipeline} {page : String → String} {status : BugStatus} {f : String → Fetch}
  {d : SyzbotDriver} {file : CacheFile}

/-- The response for a page, with the entry of the cache for it. -/
def respond (page : String) (f : Fetch) : Option CacheEntry → Except Raised Response
  | some entry => .ok ⟨entry.statusCode,entry.content⟩
  | none => fetch page f.first [f.second,f.third]

/-- What the page of a bug gives. -/
def detail (p : DataPipeline) (page : String → String) (status : BugStatus) (f : Fetch)
    (extid : String) (cached : Option CacheEntry) : Except Raised SyzbotData := do
  let response ← respond (page (bugUrl extid)) f cached
  let data ← p.readBug response.text
  return { data with status := status.text }

lemma crawlExtid_eq (extid : String) (f : Fetch) :
    (crawlExtid p.readBug page status.text extid f d file).1 =
      p.detail page status f extid
        ((d.loadCache file).cached? defaultTtl (bugUrl extid) f.currentTime) := by
  unfold crawlExtid detail
  simp only
  rw [response_sessGet]
  cases (d.loadCache file).cached? defaultTtl (bugUrl extid) f.currentTime <;> rfl

lemma gather_cons (first : String) (extids : List String) :
    (p.gather page status f (first :: extids) d file).1 =
      (first,(crawlExtid p.readBug page status.text first (f first) d file).1) ::
        (p.gather page status f extids
          (crawlExtid p.readBug page status.text first (f first) d file).2.1
          (crawlExtid p.readBug page status.text first (f first) d file).2.2).1 := rfl

/-- Each of the extids gives what its own page gives: the requests for the others do not touch its
entry. -/
lemma mem_gather {extids : List String} (hn : extids.Nodup) (hd : d.cacheLoaded = true)
    {extid : String} {x : Except Raised SyzbotData} :
    (extid,x) ∈ (p.gather page status f extids d file).1 ↔ extid ∈ extids ∧
      x = p.detail page status (f extid) extid
        (d.cached? defaultTtl (bugUrl extid) (f extid).currentTime) := by
  induction extids generalizing d file with
  | nil => simp [gather]
  | cons first extids ih =>
    obtain ⟨hfirst,hrest⟩ := List.nodup_cons.mp hn
    have hdriver := fun e => @driver_sessGet defaultTtl (bugUrl first) (bugUrl e)
      (page (bugUrl first)) (f first) d file
    have hloaded : (crawlExtid p.readBug page status.text first (f first) d file).2.1.cacheLoaded =
        true := (hdriver first).1
    have hone := @crawlExtid_eq p page status d file first (f first)
    rw [loadCache_of_loaded hd] at hone
    rw [gather_cons,List.mem_cons,ih hrest hloaded,hone]
    constructor
    · rintro (heq | ⟨hin,hx⟩)
      · cases heq
        exact ⟨List.mem_cons_self,rfl⟩
      · refine ⟨List.mem_cons_of_mem _ hin,?_⟩
        have hne : bugUrl extid ≠ bugUrl first :=
          bugUrl_injective.ne fun he => hfirst (he ▸ hin)
        have hsame := (hdriver extid).2 hne
        rw [loadCache_of_loaded hd] at hsame
        rw [hx]
        exact congrArg _ (cached?_congr hsame _)
    · rintro ⟨hin,hx⟩
      rcases List.mem_cons.mp hin with rfl | hin
      · exact .inl (by rw [hx])
      · refine .inr ⟨hin,?_⟩
        have hne : bugUrl extid ≠ bugUrl first :=
          bugUrl_injective.ne fun he => hfirst (he ▸ hin)
        have hsame := (hdriver extid).2 hne
        rw [loadCache_of_loaded hd] at hsame
        rw [hx]
        exact (congrArg _ (cached?_congr hsame _)).symm

lemma mem_successes {results : List (String × Except Raised SyzbotData)} {extid : String}
    {data : SyzbotData} : (extid,data) ∈ successes results ↔ (extid,.ok data) ∈ results := by
  unfold successes
  rw [List.mem_filterMap]
  constructor
  · rintro ⟨⟨e,x⟩,hmem,hx⟩
    cases x with
    | ok data' =>
      cases hx
      exact hmem
    | error e => cases hx
  · intro hmem
    exact ⟨_,hmem,rfl⟩

/-- Each entry for the page of a bug is one of the driver before, or has a text that is taken. -/
structure CacheFrom (before : SyzbotDriver) (Taken : String → String → Prop) (d : SyzbotDriver) :
    Prop where
  loaded : d.cacheLoaded = true
  entries : ∀ extid entry, d.cache.value? (bugUrl extid) = some entry →
    before.cache.value? (bugUrl extid) = some entry ∨ Taken extid entry.content

/-- The record of a bug is read from a text that is taken. -/
def ReadFrom (p : DataPipeline) (Taken : String → String → Prop) (status : BugStatus)
    (extid : String) (data : SyzbotData) : Prop :=
  ∃ text read, Taken extid text ∧ p.readBug text = .ok read ∧
    data = { read with status := status.text }

section Taken
variable {before : SyzbotDriver} {Taken : String → String → Prop} {extid : String} {g : Fetch}

lemma cacheFrom_crawlExtid (hd : CacheFrom before Taken d)
    (htaken : ∀ text, Answers (page (bugUrl extid)) g text → Taken extid text) :
    CacheFrom before Taken (crawlExtid p.readBug page status.text extid g d file).2.1 := by
  have hdriver := fun e => @driver_sessGet defaultTtl (bugUrl extid) (bugUrl e)
    (page (bugUrl extid)) g d file
  refine ⟨(hdriver extid).1,fun e entry he => ?_⟩
  by_cases hsame : e = extid
  · subst hsame
    obtain hold | ⟨response,hresponse,htext⟩ := entry_sessGet he
    · rw [loadCache_of_loaded hd.loaded] at hold
      exact hd.entries _ entry hold
    · exact .inr (htaken _ ⟨response,hresponse,htext⟩)
  · have hkept := (hdriver e).2 (bugUrl_injective.ne hsame)
    rw [loadCache_of_loaded hd.loaded] at hkept
    exact hd.entries e entry (hkept.symm.trans he)

lemma readFrom_crawlExtid {data : SyzbotData} (hd : CacheFrom before Taken d)
    (htaken : ∀ text, Answers (page (bugUrl extid)) g text → Taken extid text)
    (hcached : ∀ entry, before.cached? defaultTtl (bugUrl extid) g.currentTime = some entry →
      Taken extid entry.content)
    (h : (crawlExtid p.readBug page status.text extid g d file).1 = .ok data) :
    ReadFrom p Taken status extid data := by
  rw [crawlExtid_eq,loadCache_of_loaded hd.loaded] at h
  obtain ⟨response,hresponse,h⟩ := bind_eq_ok_iff.mp h
  obtain ⟨read,hread,hdata⟩ := bind_eq_ok_iff.mp h
  cases hdata
  refine ⟨response.text,read,?_,hread,rfl⟩
  cases hc : d.cached? defaultTtl (bugUrl extid) g.currentTime with
  | none =>
    rw [hc] at hresponse
    exact htaken _ ⟨response,hresponse,rfl⟩
  | some entry =>
    rw [hc] at hresponse
    cases hresponse
    obtain hold | htext := hd.entries extid entry (cached?_eq_some hc)
    · refine hcached entry ?_
      rw [← hc]
      exact cached?_congr (hold.trans (cached?_eq_some hc).symm) _
    · exact htext

/-- Each record that is gathered is of one of the extids, and is read from a text that is taken. -/
lemma readFrom_gather {extids : List String} (hd : CacheFrom before Taken d)
    (htaken : ∀ extid text, Answers (page (bugUrl extid)) (f extid) text → Taken extid text)
    (hcached : ∀ extid entry, before.cached? defaultTtl (bugUrl extid) (f extid).currentTime =
      some entry → Taken extid entry.content) :
    CacheFrom before Taken (p.gather page status f extids d file).2.1 ∧
      ∀ entry ∈ successes (p.gather page status f extids d file).1,
        entry.1 ∈ extids ∧ ReadFrom p Taken status entry.1 entry.2 := by
  induction extids generalizing d file with
  | nil => exact ⟨hd,fun entry he => by cases he⟩
  | cons first extids ih =>
    have hone := @cacheFrom_crawlExtid p page status d file before Taken first (f first) hd
      (htaken first)
    obtain ⟨hrest,hall⟩ := @ih (crawlExtid p.readBug page status.text first (f first) d file).2.1
      (crawlExtid p.readBug page status.text first (f first) d file).2.2 hone
    refine ⟨hrest,fun entry he => ?_⟩
    rw [mem_successes,gather_cons] at he
    obtain he | he := List.mem_cons.mp he
    · obtain ⟨hextid,hdata⟩ := Prod.mk.inj he
      rw [hextid]
      exact ⟨List.mem_cons_self,
        readFrom_crawlExtid hd (htaken first) (hcached first) hdata.symm⟩
    · obtain ⟨hin,hread⟩ := hall entry (mem_successes.mpr he)
      exact ⟨List.mem_cons_of_mem _ hin,hread⟩

end Taken

lemma bugUrl_ne_table (extid : String) :
    bugUrl extid ≠ fixedTableUrl ∧ bugUrl extid ≠ openTableUrl := by
  have hbug : (bugUrl extid).toList = syzbotUrl.toList ++ ("/bug?extid=".toList ++
      (extid.toList ++ "&json=1".toList)) := by
    simp only [bugUrl,String.toList_append,List.append_assoc]
  have hne : ∀ rest : String, rest.toList[1]? = some 'u' → bugUrl extid ≠ syzbotUrl ++ rest := by
    intro rest hrest h
    have hlist := congrArg String.toList h
    rw [hbug,String.toList_append,List.append_cancel_left_eq] at hlist
    have hb : ("/bug?extid=".toList ++ (extid.toList ++ "&json=1".toList))[1]? = some 'b' := rfl
    rw [hlist,hrest] at hb
    cases hb
  exact ⟨hne _ rfl,hne _ rfl⟩

lemma mem_newExtids {rows : List TableRow} {known : List String} {extid : String} :
    extid ∈ newExtids rows known ↔ extid ∈ rows.map TableRow.extid ∧ extid ∉ known := by
  simp [newExtids,List.mem_filter]

/-- A batch is fetched with the url cache that the process had, as far as the pages of bugs go. -/
lemma exists_of_fetchBatch {w : CrawlWorld} {k : ℕ} {input : CrawlInput} {batch : Batch}
    (h : (p.fetchBatch w k input).1 = .ok batch) :
    ∃ (fixedRows openRows : List TableRow) (d : SyzbotDriver) (file : CacheFile),
      d.cacheLoaded = true ∧
      (∀ extid, d.cache.value? (bugUrl extid) =
        ((w.driver k).loadCache w.file).cache.value? (bugUrl extid)) ∧
      batch.fixedExtids = fixedRows.map TableRow.extid ∧
      batch.openExtids = openRows.map TableRow.extid ∧
      ∃ fixed : List (String × Except Raised SyzbotData) × SyzbotDriver × CacheFile,
        fixed = p.gather w.page .fixed (input.details .fixed)
          (input.order (newExtids fixedRows (existing w.bugs .fixed))) d file ∧
        batch.fixed = successes fixed.1 ∧
        batch.opened = successes (p.gather w.page .open (input.details .open)
          (input.order (newExtids openRows (existing w.bugs .open))) fixed.2.1 fixed.2.2).1 := by
  have htable : ∀ (readTable : String → Except Raised (List TableRow)) (url : String) (g : Fetch)
      (d : SyzbotDriver) (file : CacheFile), (∀ extid, bugUrl extid ≠ url) →
      (crawlTable readTable url w.page g d file).2.1.cacheLoaded = true ∧
        ∀ extid, (crawlTable readTable url w.page g d file).2.1.cache.value? (bugUrl extid) =
          (d.loadCache file).cache.value? (bugUrl extid) := by
    intro readTable url g d file hne
    have hdriver := fun extid => @driver_sessGet 0 url (bugUrl extid) (w.page url) g d file
    exact ⟨(hdriver "").1,fun extid => (hdriver extid).2 (hne extid)⟩
  have hfixed := htable p.readFixedTable fixedTableUrl input.fixedTable (w.driver k) w.file
    fun extid => (bugUrl_ne_table extid).1
  unfold fetchBatch at h
  simp only at h
  split at h
  · cases h
  · next fixedRows hrows =>
    split at h
    · cases h
    · next openRows hopen =>
      cases h
      have hopened := htable p.readOpenTable openTableUrl input.openTable
        (crawlTable p.readFixedTable fixedTableUrl w.page input.fixedTable (w.driver k)
          w.file).2.1
        (crawlTable p.readFixedTable fixedTableUrl w.page input.fixedTable (w.driver k)
          w.file).2.2 fun extid => (bugUrl_ne_table extid).2
      rw [loadCache_of_loaded hfixed.1] at hopened
      exact ⟨fixedRows,openRows,_,_,hopened.1,fun extid => (hopened.2 extid).trans (hfixed.2 extid),
        rfl,rfl,_,rfl,rfl,rfl⟩

/-- Each record of a batch is of a bug that is new under its status, and is read from a text that
the crawl may take for its page. -/
lemma readFrom_of_fetchBatch {w : CrawlWorld} {k : ℕ} {input : CrawlInput} {batch : Batch}
    (h : (p.fetchBatch w k input).1 = .ok batch) :
    (∀ entry ∈ batch.fixed, NewlyFixed w batch entry.1 ∧
      ReadFrom p (MayRead w k input) .fixed entry.1 entry.2) ∧
    ∀ entry ∈ batch.opened, NewlyOpen w batch entry.1 ∧
      ReadFrom p (MayRead w k input) .open entry.1 entry.2 := by
  obtain ⟨fixedRows,openRows,d,file,hloaded,hcache,hfixedExtids,hopenExtids,fixed,rfl,hfixed,
    hopened⟩ := exists_of_fetchBatch h
  have hfrom : CacheFrom ((w.driver k).loadCache w.file) (MayRead w k input) d :=
    ⟨hloaded,fun extid entry he => .inl ((hcache extid).symm.trans he)⟩
  have hgather := @readFrom_gather p w.page .fixed (input.details .fixed) d file _ _
    (input.order (newExtids fixedRows (existing w.bugs .fixed))) hfrom
    (fun extid text ha => ⟨.fixed,.inr ha⟩) fun extid entry he => ⟨.fixed,.inl ⟨entry,he,rfl⟩⟩
  have hgather' := @readFrom_gather p w.page .open (input.details .open) _
    (p.gather w.page .fixed (input.details .fixed)
      (input.order (newExtids fixedRows (existing w.bugs .fixed))) d file).2.2 _ _
    (input.order (newExtids openRows (existing w.bugs .open))) hgather.1
    (fun extid text ha => ⟨.open,.inr ha⟩) fun extid entry he => ⟨.open,.inl ⟨entry,he,rfl⟩⟩
  constructor
  · intro entry he
    rw [hfixed] at he
    obtain ⟨hin,hread⟩ := hgather.2 entry he
    refine ⟨?_,hread⟩
    rw [NewlyFixed,hfixedExtids,← mem_newExtids]
    exact (input.perm _).mem_iff.mp hin
  · intro entry he
    rw [hopened] at he
    obtain ⟨hin,hread⟩ := hgather'.2 entry he
    refine ⟨?_,hread⟩
    rw [NewlyOpen,hopenExtids,← mem_newExtids]
    exact (input.perm _).mem_iff.mp hin

/-- What is passed for a bug that has turned fixed is what its page gives. -/
lemma mem_fixed {w : CrawlWorld} {k : ℕ} {input : CrawlInput} {batch : Batch} {extid : String}
    {data : SyzbotData} (h : (p.fetchBatch w k input).1 = .ok batch)
    (ht : TurnedFixed w batch extid) : (extid,data) ∈ batch.fixed ↔
      p.detail w.page .fixed (input.details .fixed extid) extid (cachedPage w k input .fixed extid) =
        .ok data := by
  obtain ⟨fixedRows,-,d,file,hloaded,hcache,hextids,-,fixed,rfl,hfixed,-⟩ := exists_of_fetchBatch h
  have hcached : d.cached? defaultTtl (bugUrl extid) (input.details .fixed extid).currentTime =
      cachedPage w k input .fixed extid := cached?_congr (hcache extid) _
  have hperm := input.perm (newExtids fixedRows (existing w.bugs .fixed))
  have hnodup : (input.order (newExtids fixedRows (existing w.bugs .fixed))).Nodup :=
    hperm.nodup_iff.mpr ((List.nodup_dedup _).filter _)
  have hnew : extid ∈ input.order (newExtids fixedRows (existing w.bugs .fixed)) :=
    hperm.mem_iff.mpr (mem_newExtids.mpr ⟨hextids ▸ ht.fixed,ht.new⟩)
  rw [hfixed,mem_successes,mem_gather hnodup hloaded,hcached]
  exact ⟨fun hx => hx.2.symm,fun hx => ⟨hnew,hx.symm⟩⟩

lemma detail_some (f : Fetch) (extid : String) (entry : CacheEntry) :
    p.detail page .fixed f extid (some entry) = p.fixedRecord entry.content := by
  change (p.readBug entry.content >>= fun data => _) = (p.readBug entry.content).map _
  cases p.readBug entry.content <;> rfl

lemma detail_none {f : Fetch} (h : f.Answered) (extid : String) :
    p.detail page .fixed f extid none = p.fixedRecord (page (bugUrl extid)) := by
  have hrespond : respond (page (bugUrl extid)) f none = .ok ⟨200,page (bugUrl extid)⟩ :=
    fetch_of_answered h
  rw [detail,hrespond]
  change (p.readBug (page (bugUrl extid)) >>= fun data => _) =
    (p.readBug (page (bugUrl extid))).map _
  cases p.readBug (page (bugUrl extid)) <;> rfl

lemma Meets.detail_eq {w : CrawlWorld} {k : ℕ} {input : CrawlInput} {batch : Batch}
    {extid : String} (hm : p.Meets w k input batch) (ht : TurnedFixed w batch extid) :
    p.detail w.page .fixed (input.details .fixed extid) extid (cachedPage w k input .fixed extid) =
      p.fixedRecord (w.page (bugUrl extid)) := by
  cases hc : cachedPage w k input .fixed extid with
  | none => exact detail_none (hm.answered extid ht hc) extid
  | some entry => exact (detail_some _ extid entry).trans (hm.cached extid ht entry hc)

end Gather

/-! ## What is inserted -/

section Inserted
variable {p : DataPipeline}

/-- The bugs that are kept, where none raises. -/
lemma keepUsable_ok {bugs : List SyzbotData}
    (h : ∀ bug ∈ bugs, ∃ usable, hasUsableReproducer bug = .ok usable) :
    ∃ kept, keepUsable bugs = .ok kept ∧
      ∀ bug, bug ∈ kept ↔ bug ∈ bugs ∧ hasUsableReproducer bug = .ok true := by
  induction bugs with
  | nil => exact ⟨[],rfl,fun bug => by simp⟩
  | cons first bugs ih =>
    obtain ⟨usable,hu⟩ := h first List.mem_cons_self
    obtain ⟨kept,hk,hmem⟩ := ih fun bug hb => h bug (List.mem_cons_of_mem _ hb)
    cases usable with
    | true =>
      refine ⟨first :: kept,by rw [keepUsable,hu,hk]; rfl,fun bug => ?_⟩
      rw [List.mem_cons,List.mem_cons,hmem]
      constructor
      · rintro (rfl | hb)
        · exact ⟨.inl rfl,hu⟩
        · exact ⟨.inr hb.1,hb.2⟩
      · rintro ⟨rfl | hb,hb'⟩
        · exact .inl rfl
        · exact .inr ⟨hb,hb'⟩
    | false =>
      refine ⟨kept,by rw [keepUsable,hu,hk]; rfl,fun bug => ?_⟩
      rw [List.mem_cons,hmem]
      constructor
      · exact fun hb => ⟨.inr hb.1,hb.2⟩
      · rintro ⟨rfl | hb,hb'⟩
        · rw [hu] at hb'
          cases hb'
        · exact ⟨hb,hb'⟩

/-- A batch at which nothing raises is inserted: each insertion is of a record of the batch, and
each usable record has one. -/
lemma populateAndInsert_ok {found : List (String × SyzbotData)} {rows : List TableRow}
    {times : String → ℤ → DateTime × DateTime} {bugs : BugTable}
    (h : ∀ entry ∈ found, ∃ populated, p.populator.populate entry.2 = .ok populated ∧
      ∃ usable, hasUsableReproducer populated = .ok usable) :
    ∃ inserts : List CrawlInsert,
      p.populateAndInsert found rows times bugs = .ok (inserts.foldl crawlInsert bugs) ∧
      (∀ c ∈ inserts, ∃ entry ∈ found, SyzbotPopulator.SameBug entry.2 c.bug) ∧
      ∀ entry ∈ found, p.Usable entry.2 → ∃ c ∈ inserts, SyzbotPopulator.SameBug entry.2 c.bug := by
  obtain ⟨populated,hpopulated⟩ : ∃ populated,
      p.populator.populateBatch (found.map Prod.snd) = .ok populated := by
    have hone : ∀ data ∈ found.map Prod.snd, ∃ y, p.populator.populate data = .ok y ∧ True := by
      intro data hd
      obtain ⟨entry,he,rfl⟩ := List.mem_map.mp hd
      obtain ⟨y,hy,-⟩ := h entry he
      exact ⟨y,hy,trivial⟩
    obtain ⟨ys,hys,-⟩ := exists_mapM_ok hone
    exact ⟨ys,hys⟩
  have hall := mapM_eq_ok_iff.mp hpopulated
  rw [List.forall₂_map_left_iff] at hall
  have hback : ∀ bug ∈ populated, ∃ entry ∈ found, p.populator.populate entry.2 = .ok bug := by
    intro bug hb
    obtain ⟨i,hi,rfl⟩ := List.getElem_of_mem hb
    have hi' : i < found.length := hall.length_eq ▸ hi
    exact ⟨found[i],List.getElem_mem hi',hall.get hi' hi⟩
  have hforth : ∀ entry ∈ found, ∃ bug ∈ populated, p.populator.populate entry.2 = .ok bug := by
    intro entry he
    obtain ⟨i,hi,rfl⟩ := List.getElem_of_mem he
    have hi' : i < populated.length := hall.length_eq ▸ hi
    exact ⟨populated[i],List.getElem_mem hi',hall.get hi hi'⟩
  obtain ⟨kept,hkept,hmem⟩ := keepUsable_ok fun bug hb => by
    obtain ⟨entry,he,hpop⟩ := hback bug hb
    obtain ⟨bug',hpop',usable⟩ := h entry he
    rw [hpop] at hpop'
    cases hpop'
    exact usable
  refine ⟨kept.map (insertOf found rows times),?_,?_,?_⟩
  · rw [populateAndInsert,hpopulated]
    change (do let usable ← keepUsable populated; _) = _
    rw [hkept]
    rfl
  · intro c hc
    obtain ⟨bug,hb,rfl⟩ := List.mem_map.mp hc
    obtain ⟨entry,he,hpop⟩ := hback bug ((hmem bug).mp hb).1
    have hsame : SyzbotPopulator.SameBug entry.2 bug := SyzbotPopulator.sameBug_populate hpop
    exact ⟨entry,he,hsame⟩
  · rintro entry he ⟨bug',hpop',husable⟩
    obtain ⟨bug,hb,hpop⟩ := hforth entry he
    obtain rfl : bug' = bug := Except.ok.inj (hpop'.symm.trans hpop)
    have hsame : SyzbotPopulator.SameBug entry.2 bug' := SyzbotPopulator.sameBug_populate hpop
    exact ⟨_,List.mem_map_of_mem ((hmem bug').mpr ⟨hb,husable⟩),hsame⟩

/-- Where all insertions for a bug are of it as fixed, and there is one, its row becomes fixed. -/
lemma status_of_inserts {inserts : List CrawlInsert} {bugId : String} (bugs : BugTable)
    (hall : ∀ c ∈ inserts, c.bug.bugId = bugId → c.bug.status = BugStatus.fixed.text)
    (hex : ∃ c ∈ inserts, c.bug.bugId = bugId) :
    ∃ row, (inserts.foldl crawlInsert bugs).get? bugId = some row ∧ row.status = .fixed := by
  induction inserts using List.reverseRecOn with
  | nil =>
    obtain ⟨c,hc,-⟩ := hex
    cases hc
  | append_singleton inserts c ih =>
    rw [List.foldl_append]
    change ∃ row, (crawlInsert (inserts.foldl crawlInsert bugs) c).get? bugId = some row ∧ _
    by_cases hid : c.bug.bugId = bugId
    · have hstatus := hall c (List.mem_append_right _ List.mem_cons_self) hid
      have hbug : ∃ bug, c.syzbotBug = some bug ∧ bug.bugId = bugId ∧ bug.status = .fixed := by
        refine ⟨_,by rw [CrawlInsert.syzbotBug,hstatus]; rfl,hid,rfl⟩
      obtain ⟨bug,hb,hbid,hfixed⟩ := hbug
      have hrow := get?_insertSyzbotBug (inserts.foldl crawlInsert bugs) bug bugId
      rw [if_pos hbid] at hrow
      refine ⟨_,by rw [crawlInsert,hb]; exact hrow,?_⟩
      cases (inserts.foldl crawlInsert bugs).get? bugId with
      | none => exact hfixed
      | some old => exact hfixed
    · have hreaches : c.reaches bugId = false := by simp [CrawlInsert.reaches,hid]
      rw [get?_crawlInsert_of_not_reaches hreaches]
      refine ih (fun c' hc' => hall c' (List.mem_append_left _ hc')) ?_
      obtain ⟨c',hc',hid'⟩ := hex
      rcases List.mem_append.mp hc' with hc' | hc'
      · exact ⟨c',hc',hid'⟩
      · rw [List.mem_singleton.mp hc'] at hid'
        exact absurd hid' hid

end Inserted

/-! ## Runs of crawls -/

section Fresh
variable {p : DataPipeline} {w : CrawlWorld} {k : ℕ} {input : CrawlInput} {batch : Batch}

lemma bugs_crawl (h : (p.fetchBatch w k input).1 = .ok batch) {bugs : BugTable}
    (hbugs : p.populateAndInsert batch.found batch.rows input.times w.bugs = .ok bugs) :
    (p.crawl w k input).bugs = bugs := by
  unfold crawl
  simp only [h,hbugs]

/-- Nothing raises for a record that the crawl may read. -/
lemma Meets.populated {status : BugStatus} {extid : String} {data : SyzbotData}
    (hm : p.Meets w k input batch) (hnew : NewlyFixed w batch extid ∨ NewlyOpen w batch extid)
    (hread : ReadFrom p (MayRead w k input) status extid data) :
    ∃ populated, p.populator.populate data = .ok populated ∧
      ∃ usable, hasUsableReproducer populated = .ok usable := by
  obtain ⟨text,read,htext,hok,rfl⟩ := hread
  obtain ⟨hcompletable,hconfig⟩ := hm.populates extid hnew text read htext hok
  -- the status does not matter for what a record needs
  have hneeds : p.populator.Completable { read with status := status.text } :=
    ⟨hcompletable.pages,hcompletable.links,hcompletable.fix,hcompletable.cause⟩
  obtain ⟨populated,hpopulated⟩ := SyzbotPopulator.populate_ok_iff.mpr hneeds
  refine ⟨populated,hpopulated,?_⟩
  cases husable : hasUsableReproducer populated with
  | ok usable => exact ⟨usable,rfl⟩
  | error e =>
    have hcomplete := (SyzbotPopulator.populate_eq_ok_iff.mp hpopulated).2
    exact absurd ((SyzbotPopulator.filter_raises_iff hcomplete).mp ⟨e,husable⟩) hconfig

theorem crawlsFresh_of_meets (h : p.MeetsAt w (.crawl k input)) : p.CrawlsFresh w k input := by
  intro batch hb extid ht
  have hm := h batch hb
  obtain ⟨hfixed,hopened⟩ := readFrom_of_fetchBatch hb
  obtain ⟨data,hdata⟩ := hm.readable extid ht
  have hpassed : ∀ passed, (extid,passed) ∈ batch.fixed ↔ passed = data := by
    intro passed
    rw [mem_fixed hb ht,hm.detail_eq ht,hdata]
    exact ⟨fun he => (Except.ok.inj he).symm,fun he => congrArg Except.ok he.symm⟩
  refine ⟨data,hdata,fun passed => ?_,fun husable => ?_⟩
  · rw [← hpassed passed,Batch.found,List.mem_append]
    constructor
    · rintro (he | he)
      · exact he
      · exact absurd rfl (hm.single extid ht data hdata _ (hopened _ he).1).1
    · exact Or.inl
  · have hpopulated : ∀ entry ∈ batch.found, ∃ populated,
        p.populator.populate entry.2 = .ok populated ∧
          ∃ usable, hasUsableReproducer populated = .ok usable := by
      intro entry he
      obtain he | he := List.mem_append.mp he
      · exact hm.populated (.inl (hfixed entry he).1) (hfixed entry he).2
      · exact hm.populated (.inr (hopened entry he).1) (hopened entry he).2
    obtain ⟨inserts,hinserts,hback,hforth⟩ := @populateAndInsert_ok p batch.found batch.rows
      input.times w.bugs hpopulated
    rw [bugs_crawl hb hinserts]
    apply status_of_inserts
    · intro c hc hid
      obtain ⟨entry,he,hsame⟩ := hback c hc
      rcases List.mem_append.mp he with he | he
      · obtain ⟨-,-,read,-,-,hentry⟩ := hfixed entry he
        rw [hsame.2,hentry]
      · obtain ⟨hnew,text,read,htext,hread,hentry⟩ := hopened entry he
        refine absurd ?_ ((hm.single extid ht data hdata entry.1 hnew).2 text read htext hread)
        rw [← hid,hsame.1,hentry]
    · have hmem : (extid,data) ∈ batch.found := List.mem_append_left _ ((hpassed data).mpr rfl)
      obtain ⟨c,hc,hsame⟩ := hforth _ hmem husable
      exact ⟨c,hc,hsame.1⟩

/-- The condition on the cache cannot be spared. -/
theorem cached_of_crawlsFresh (h : p.CrawlsFresh w k input)
    (hb : (p.fetchBatch w k input).1 = .ok batch) {extid : String}
    (ht : TurnedFixed w batch extid) {entry : CacheEntry}
    (he : cachedPage w k input .fixed extid = some entry) :
    p.fixedRecord entry.content = p.fixedRecord (w.page (bugUrl extid)) := by
  obtain ⟨data,hdata,hpassed,-⟩ := h batch hb extid ht
  rw [hdata]
  have hfound := (hpassed data).mpr rfl
  rcases List.mem_append.mp hfound with hfixed | hopened
  · rw [mem_fixed hb ht,he,detail_some] at hfixed
    exact hfixed
  · obtain ⟨-,-,read,-,-,hopen⟩ := (readFrom_of_fetchBatch hb).2 _ hopened
    have hopenStatus : data.status = BugStatus.open.text := congrArg SyzbotData.status hopen
    have hstatus : data.status = BugStatus.fixed.text := by
      unfold fixedRecord at hdata
      cases hread : p.readBug (w.page (bugUrl extid)) with
      | error e =>
        rw [hread] at hdata
        cases hdata
      | ok read =>
        rw [hread] at hdata
        cases hdata
        rfl
    exact absurd (hopenStatus.symm.trans hstatus) (by decide)

/-- In every run whose crawls have what they need, all crawls are fresh. -/
theorem run_crawlsFresh {tr : List (CrawlWorld × CrawlEvent)}
    (h : p.machine.Run p.MeetsAt tr w) :
    ∀ before j input, (before,.crawl j input) ∈ tr → p.CrawlsFresh before j input := by
  intro before j input hmem
  exact crawlsFresh_of_meets (h.meets before (.crawl j input) hmem)

end Fresh

/-! ## A bug that is open in one crawl and fixed in the next -/

def fixCommit : SyzbotGitCommit where
  title := "put_task: take a reference"
  link := some "https://git.kernel.org/linux.git/commit/?id=c1"
  hashValue := some "c1"
  repo := none
  branch := none
  extra := []

/-- The one bug with its page, which names the fix once there is one. -/
def oneBugSite (fixed : Bool) (url : String) : String :=
  if url = (if fixed then fixedTableUrl else openTableUrl) then "e1"
  else if url = bugUrl "e1" then if fixed then "fixed" else "open"
  else ""

def oneBugPipeline : DataPipeline where
  readFixedTable text := .ok (if text = "e1" then [⟨"e1",10,[]⟩] else [])
  readOpenTable text := .ok (if text = "e1" then [⟨"e1",9,[]⟩] else [])
  readBug text := .ok { openBug with fixCommits := if text = "fixed" then [fixCommit] else [] }
  populator :=
    { getText := fun _ => .ok ""
      repositoryMap := fun _ => some "linux"
      commit := fun _ _ =>
        some ⟨["p1"],"2024-01-15T12:00:00","put_task: take a reference",.ok []⟩
      diff := fun _ _ _ => .ok "" }

/-- All requests are served. -/
def servedAt (time : ℚ) (save : SaveOutcome) : Fetch :=
  ⟨time,.served,.served,.served,time,save⟩

def servedCrawl (time : ℚ) (save : SaveOutcome) : CrawlInput where
  fixedTable := servedAt time save
  openTable := servedAt time save
  details _ _ := servedAt time save
  order := id
  perm := List.Perm.refl
  times _ _ := (KArenaWeb.endOfJanuary,KArenaWeb.midJanuary)

/-- After the first crawl the bug is fixed on the site. -/
def afterFix (save : SaveOutcome) : CrawlWorld :=
  { oneBugPipeline.crawl (world (oneBugSite false)) 0 (servedCrawl 0 save) with
    page := oneBugSite true }

/-- Whatever is read as the bug has what populating it needs. -/
lemma populates_oneBug {text : String} {read : SyzbotData}
    (h : oneBugPipeline.readBug text = .ok read) :
    oneBugPipeline.populator.Completable read ∧ ¬SyzbotPopulator.NoConfig read := by
  cases h
  have hpage : ∀ link text, oneBugPipeline.populator.Readable link text :=
    fun link text path _ _ _ => ⟨"",rfl⟩
  refine ⟨⟨fun crash rest _ => ⟨hpage _ _,hpage _ _,hpage _ _,hpage _ _⟩,?_,?_,?_⟩,?_⟩
  · intro cmt hcmt link hash hlink
    by_cases hfixed : text = "fixed"
    · simp only [SyzbotPopulator.examined,if_pos hfixed] at hcmt
      obtain rfl := List.mem_singleton.mp hcmt
      cases hlink
      exact ⟨_,rfl⟩
    · simp only [SyzbotPopulator.examined,if_neg hfixed] at hcmt
      cases hcmt
  · intro cmt rest hcons gitUrl repository hash hmirrored
    exact ⟨_,rfl,⟨"p1",rfl,"",rfl⟩,[],rfl⟩
  · intro hgoes cmt hcause
    cases hcause
  · rintro ⟨crash,rest,hcrash,hlink,hconfig,hreproducer⟩
    cases hcrash
    cases hconfig

/-- The first crawl finds the open bug in an empty database, and all goes through. -/
lemma meetsAt_first (save : SaveOutcome) :
    oneBugPipeline.MeetsAt (world (oneBugSite false)) (.crawl 0 (servedCrawl 0 save)) := by
  intro batch hb
  have hnone : ∀ extid, ¬TurnedFixed (world (oneBugSite false)) batch extid :=
    fun extid ht => List.not_mem_nil ht.opened
  exact ⟨fun e ht => absurd ht (hnone e),fun e ht => absurd ht (hnone e),
    fun e ht => absurd ht (hnone e),fun e ht => absurd ht (hnone e),
    fun extid hnew text read htext hread => populates_oneBug hread⟩

/-- Where the file of the first crawl was not written, a new process finds no entry. -/
lemma meetsAt_second :
    oneBugPipeline.MeetsAt (afterFix .failed) (.crawl 1 (servedCrawl 100 .written)) := by
  intro batch hb
  have hbatch : batch.fixedExtids = ["e1"] ∧ batch.openExtids = [] := by
    cases hb
    exact ⟨rfl,rfl⟩
  have hone : ∀ extid, TurnedFixed (afterFix .failed) batch extid → extid = "e1" := by
    intro extid ht
    exact List.mem_singleton.mp (hbatch.1 ▸ ht.fixed)
  have hnone : cachedPage (afterFix .failed) 1 (servedCrawl 100 .written) .fixed "e1" = none := rfl
  refine ⟨?_,?_,?_,?_,?_⟩
  · intro extid ht entry he
    rw [hone extid ht,hnone] at he
    cases he
  · intro extid ht _
    exact .inl rfl
  · intro extid ht
    rw [hone extid ht]
    exact ⟨_,rfl⟩
  · intro extid ht data hdata other hopen
    have hin := hopen.1
    rw [hbatch.2] at hin
    cases hin
  · intro extid hnew text read htext hread
    exact populates_oneBug hread

theorem lostCache_crawlsFresh :
    oneBugPipeline.CrawlsFresh (afterFix .failed) 1 (servedCrawl 100 .written) := by
  have hstart : oneBugPipeline.machine.Run oneBugPipeline.MeetsAt [] (world (oneBugSite false)) :=
    .start ⟨_,rfl⟩
  have hfirst := hstart.next (meetsAt_first .failed) rfl
  have hmeets : oneBugPipeline.MeetsAt
      (oneBugPipeline.crawl (world (oneBugSite false)) 0 (servedCrawl 0 .failed))
      (.publish (oneBugSite true)) := trivial
  have hpublish := hfirst.next hmeets rfl
  have hsecond := hpublish.next meetsAt_second rfl
  exact run_crawlsFresh hsecond _ 1 _ List.mem_cons_self

/-- Otherwise the new process takes the page of the open bug out of the file. -/
theorem keptCache_not_crawlsFresh : ∃ (p : DataPipeline) (tr : List (CrawlWorld × CrawlEvent))
    (w : CrawlWorld), p.machine.Run (fun _ _ => True) tr w ∧
      ∃ before k input, (before,.crawl k input) ∈ tr ∧ ¬p.CrawlsFresh before k input := by
  have hstart : oneBugPipeline.machine.Run (fun _ _ => True) [] (world (oneBugSite false)) :=
    .start ⟨_,rfl⟩
  have hfirst := hstart.next (e := .crawl 0 (servedCrawl 0 .written)) trivial rfl
  have hpublish := hfirst.next (e := .publish (oneBugSite true)) trivial rfl
  have hsecond := hpublish.next (e := .crawl 1 (servedCrawl 100 .written)) trivial rfl
  refine ⟨_,_,_,hsecond,afterFix .written,1,servedCrawl 100 .written,List.mem_cons_self,?_⟩
  intro hfresh
  have hbatch : ((oneBugPipeline.fetchBatch (afterFix .written) 1 (servedCrawl 100
      .written)).1.toOption.any fun batch => batch.fixedExtids = ["e1"]) = true := by
    decide +kernel
  have hcached : ((cachedPage (afterFix .written) 1 (servedCrawl 100 .written)
      .fixed "e1").any
      fun entry => entry.content = "open") = true := by
    decide +kernel
  obtain ⟨batch,hb,hextids⟩ := (Option.any_eq_true _ _).mp hbatch
  obtain ⟨entry,he,hcontent⟩ := (Option.any_eq_true _ _).mp hcached
  have hok : (oneBugPipeline.fetchBatch (afterFix .written) 1 (servedCrawl 100 .written)).1 =
      .ok batch := by
    cases hx : (oneBugPipeline.fetchBatch (afterFix .written) 1 (servedCrawl 100 .written)).1 with
    | error e =>
      rw [hx] at hb
      cases hb
    | ok b =>
      rw [hx] at hb
      rw [Option.some.inj hb]
  have hturned : TurnedFixed (afterFix .written) batch "e1" :=
    ⟨List.mem_cons_self,by rw [of_decide_eq_true hextids]; exact List.mem_cons_self,by decide⟩
  have hreads := cached_of_crawlsFresh hfresh hok hturned he
  rw [of_decide_eq_true hcontent] at hreads
  have hcommits := congrArg (fun x => x.toOption.map fun data => data.fixCommits.length) hreads
  exact absurd hcommits (by decide)

end DataPipeline
end LiveKBench.KArenaPipeline
