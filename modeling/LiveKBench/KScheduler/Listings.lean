import LiveKBench.KScheduler.TagApi
import LiveKBench.Lib.Paging

/-! The endpoints of the scheduler that list something page by page: each one asks for a count and
for the rows of one page. -/
namespace LiveKBench.KScheduler.Listings
open KCore Lib TagApi

inductive SortingMode
  | modifiedTime
  | createdTime
  deriving DecidableEq, Repr

/-- The content stays serialized. -/
structure JobLog where
  timeStamp : TimeStamp
  jobId : JobId
  workerType : String
  workerHostname : String
  content : String
  deriving DecidableEq, Repr

structure SystemLog where
  timeStamp : TimeStamp
  workerType : String
  workerHostname : String
  content : String
  deriving DecidableEq, Repr

structure PaginatedResult (α : Type) where
  page : List α
  pageSize : ℕ
  total : ℕ
  offsetNextPage : ℕ
  deriving DecidableEq, Repr

/-- `KEY_EXTRACTOR`, and the column of the name. -/
def SortingMode.key : SortingMode → JobDigest → TimeStamp
  | .modifiedTime, d => d.modifiedTime
  | .createdTime, d => d.createdTime

/-- Numbers come before texts, and a floating-point number is greater than all of 64 bits. -/
def Stored.le {δ : Type} [LE δ] : Stored δ → Stored δ → Prop
  | .integer m, .integer n => m ≤ n
  | .integer _, _ => True
  | .real _, .integer _ => False
  | .real x, .real y => x ≤ y
  | .real _, .text _ => True
  | .text a, .text b => textLe a.toList b.toList
  | .text _, _ => False

/-- What an `ORDER BY` does to the rows of one query: it sorts them, and orders ties in the same way
whatever the page. -/
structure OrderBy {ρ : Type} (le : ρ → ρ → Prop) where
  arrange : List ρ → List ρ
  perm : ∀ rows, (arrange rows).Perm rows
  sorted : ∀ rows, (arrange rows).Pairwise le

/-- How the database arranges the rows of each query. -/
structure Plans (δ : Type) [LE δ] where
  jobs : (sortBy : SortingMode) → OrderBy fun a b : JobDigest => sortBy.key b ≤ sortBy.key a
  jobLog : OrderBy fun a b : JobLog => b.timeStamp ≤ a.timeStamp
  tags : OrderBy fun a b : String => textLe a.toList b.toList
  search : OrderBy fun a b : TagRow δ => Stored.le b.jobId a.jobId
  searchValue : OrderBy fun a b : TagRow δ => Stored.le b.jobId a.jobId
  systemLogs : OrderBy fun a b : SystemLog => b.timeStamp ≤ a.timeStamp
  jobLogs : OrderBy fun a b : JobLog => b.timeStamp ≤ a.timeStamp

/-- The tables that the endpoints read. -/
structure Tables (δ : Type) where
  jobDigest : Table JobDigest.jobId
  jobTag : TagTable δ
  jobLog : List JobLog
  systemLog : List SystemLog

/-- `(await cur.fetchall())[0][0]`. -/
def fetchCount (rows : List ℕ) : Except PyError ℕ :=
  match rows with
  | [] => .error .indexError
  | n :: _ => .ok n

/-- The shape that most endpoints share: the rows of the count, then those of the page, which become
models one by one. -/
def paginated {ρ α : Type} (counts : List ℕ) (rows : List ρ) (model : ρ → Except PyError α)
    (pageSize skip : ℕ) : Except PyError (PaginatedResult α) := do
  let total ← fetchCount counts
  let page ← (limitOffset rows pageSize skip).mapM model
  return { page := page, pageSize := page.length, total := total,
           offsetNextPage := skip+page.length }

section Endpoints
variable {δ : Type} [LE δ] (plans : Plans δ) (t : Tables δ) (pageSize skip : ℕ)

/-- The page is sorted once more, by the times of its models. -/
def getJobs (sortBy : SortingMode) : Except PyError (PaginatedResult JobDigest) := do
  let total ← fetchCount [t.jobDigest.rows.length]
  let digestTuples := limitOffset ((plans.jobs sortBy).arrange t.jobDigest.rows) pageSize skip
  let digests := digestTuples.insertionSort fun a b => sortBy.key b ≤ sortBy.key a
  return { page := digests, pageSize := digests.length, total := total,
           offsetNextPage := skip+digests.length }

def jobLogRows (jobId : JobId) : List JobLog := t.jobLog.filter fun log => log.jobId = jobId

def getJobLog (jobId : JobId) : Except PyError (PaginatedResult JobLog) :=
  paginated [(jobLogRows t jobId).length] (plans.jobLog.arrange (jobLogRows t jobId)) .ok
    pageSize skip

/-- `DISTINCT tagKey`. -/
def distinctKeys : List String := (t.jobTag.rows.map TagRow.tagKey).dedup

/-- The page size is handed back as it was asked for. -/
def getTags : Except PyError (PaginatedResult String) := do
  let total ← fetchCount [(distinctKeys t).length]
  let tags := limitOffset (plans.tags.arrange (distinctKeys t)) pageSize skip
  return { page := tags, pageSize := pageSize, total := total, offsetNextPage := skip+tags.length }

def searchRows (tagKey : String) : List (TagRow δ) := t.jobTag.select fun row => row.tagKey = tagKey

def searchValueRows (tagKey tagValue : String) : List (TagRow δ) :=
  t.jobTag.select fun row => row.tagKey = tagKey ∧ row.tagValue = tagValue

/-- `JobId(row[0])` raises for a floating-point number. -/
def searchEntry (row : TagRow δ) : Except PyError (JobId × String × String) :=
  match row.jobId.jobId? with
  | none => .error (.valueError "Type not supported")
  | some jobId => .ok (jobId,row.tagKey,row.tagValue)

/-- The queries that count carry the `LIMIT` and the `OFFSET` as well. -/
def search (tagKey : String) (tagValue : Option String) :
    Except PyError (PaginatedResult (JobId × String × String)) :=
  match tagValue with
  | none =>
    paginated (limitOffset [(searchRows t tagKey).length] pageSize skip)
      (plans.search.arrange (searchRows t tagKey)) searchEntry pageSize skip
  | some tagValue =>
    paginated (limitOffset [(searchValueRows t tagKey tagValue).length] pageSize skip)
      (plans.searchValue.arrange (searchValueRows t tagKey tagValue)) searchEntry pageSize skip

def displaySystemLog : Except PyError (PaginatedResult SystemLog) :=
  paginated [t.systemLog.length] (plans.systemLogs.arrange t.systemLog) .ok pageSize skip

def displayJobLog : Except PyError (PaginatedResult JobLog) :=
  paginated [t.jobLog.length] (plans.jobLogs.arrange t.jobLog) .ok pageSize skip

end Endpoints

inductive Endpoint
  | jobs (sortBy : SortingMode)
  | jobLog (jobId : JobId)
  | tags
  | search (tagKey : String) (tagValue : Option String)
  | systemLogs
  | jobLogs

namespace Endpoint
variable {δ : Type} [LE δ] (plans : Plans δ) (t : Tables δ)

abbrev Item : Endpoint → Type
  | .jobs _ => JobDigest
  | .jobLog _ | .jobLogs => JobLog
  | .tags => String
  | .search _ _ => JobId × String × String
  | .systemLogs => SystemLog

def call (pageSize skip : ℕ) : (e : Endpoint) → Except PyError (PaginatedResult e.Item)
  | .jobs sortBy => getJobs plans t pageSize skip sortBy
  | .jobLog jobId => getJobLog plans t pageSize skip jobId
  | .tags => getTags plans t pageSize skip
  | .search tagKey tagValue => Listings.search plans t pageSize skip tagKey tagValue
  | .systemLogs => displaySystemLog plans t pageSize skip
  | .jobLogs => displayJobLog plans t pageSize skip

/-- The number of matching rows. -/
def matching : Endpoint → ℕ
  | .jobs _ => t.jobDigest.rows.length
  | .jobLog jobId => (jobLogRows t jobId).length
  | .tags => (distinctKeys t).length
  | .search tagKey none => (searchRows t tagKey).length
  | .search tagKey (some tagValue) => (searchValueRows t tagKey tagValue).length
  | .systemLogs => t.systemLog.length
  | .jobLogs => t.jobLog.length

/-- The entries of all matching rows in the order of the endpoint. -/
def entries : (e : Endpoint) → Except PyError (List e.Item)
  | .jobs sortBy => .ok ((plans.jobs sortBy).arrange t.jobDigest.rows)
  | .jobLog jobId => .ok (plans.jobLog.arrange (jobLogRows t jobId))
  | .tags => .ok (plans.tags.arrange (distinctKeys t))
  | .search tagKey none => (plans.search.arrange (searchRows t tagKey)).mapM searchEntry
  | .search tagKey (some tagValue) =>
    (plans.searchValue.arrange (searchValueRows t tagKey tagValue)).mapM searchEntry
  | .systemLogs => .ok (plans.systemLogs.arrange t.systemLog)
  | .jobLogs => .ok (plans.jobLogs.arrange t.jobLog)

/-- A call as a step of a walk, which goes on until the total is reached. -/
def walkCall (e : Endpoint) (pageSize skip : ℕ) : Option (List e.Item × Option ℕ) :=
  match e.call plans t pageSize skip with
  | .error _ => none
  | .ok result =>
    some (result.page,
      if result.offsetNextPage < result.total then some result.offsetNextPage else none)

/-- Every call answers with the number of the matching rows, and a walk from the start collects each
of them once, in the order of the endpoint. -/
structure Exact (e : Endpoint) (pageSize : ℕ) : Prop where
  total : ∀ skip ≤ e.matching t, ∃ result, e.call plans t pageSize skip = .ok result ∧
    result.total = e.matching t
  walk : ∃ items, e.entries plans t = .ok items ∧ Walk (e.walkCall plans t pageSize) 0 items

/-- A search that finds nothing, or another endpoint. -/
def FindsNothing : Endpoint → Prop
  | .search tagKey none => searchRows t tagKey = []
  | .search tagKey (some tagValue) => searchValueRows t tagKey tagValue = []
  | _ => True

end Endpoint

section Exact
variable {δ : Type} [LE δ] {plans : Plans δ} {t : Tables δ}

/-- An endpoint whose calls cut their page out of its listing is exact. -/
lemma exact_of_calls {e : Endpoint} {pageSize : ℕ} (hp : 0 < pageSize) {items : List e.Item}
    (hitems : e.entries plans t = .ok items) (hlen : items.length = e.matching t)
    (hcall : ∀ skip, ∃ size, e.call plans t pageSize skip = .ok
      ⟨limitOffset items pageSize skip,size,items.length,
        skip+(limitOffset items pageSize skip).length⟩) : e.Exact plans t pageSize where
  total := by
    intro skip _
    obtain ⟨size,hr⟩ := hcall skip
    exact ⟨_,hr,hlen⟩
  walk := by
    refine ⟨items,hitems,?_⟩
    have hstep : ∀ skip ≤ items.length,
        e.walkCall plans t pageSize skip = some (callOn items pageSize skip) := by
      intro skip _
      obtain ⟨size,hr⟩ := hcall skip
      rw [Endpoint.walkCall,hr]
      rfl
    exact walk_callOn hp hstep (Nat.zero_le items.length)

lemma length_arrange {ρ : Type} {le : ρ → ρ → Prop} (o : OrderBy le) (rows : List ρ) :
    (o.arrange rows).length = rows.length := (o.perm rows).length_eq

lemma mapM_ok {ρ : Type} (rows : List ρ) :
    rows.mapM (fun row => (.ok row : Except PyError ρ)) = .ok rows := by
  induction rows with
  | nil => rfl
  | cons row rows ih =>
    rw [List.mapM_cons,ih]
    rfl

/-- A listing of rows that are handed out as they are. -/
lemma paginated_ok {ρ : Type} {le : ρ → ρ → Prop} (o : OrderBy le) (rows : List ρ)
    (pageSize skip : ℕ) : paginated [rows.length] (o.arrange rows) .ok pageSize skip =
      .ok ⟨limitOffset (o.arrange rows) pageSize skip,
        (limitOffset (o.arrange rows) pageSize skip).length,(o.arrange rows).length,
        skip+(limitOffset (o.arrange rows) pageSize skip).length⟩ := by
  rw [paginated,mapM_ok,length_arrange]
  rfl

/-- The page of jobs is sorted already. -/
lemma getJobs_eq (pageSize skip : ℕ) (sortBy : SortingMode) :
    getJobs plans t pageSize skip sortBy =
      .ok ⟨limitOffset ((plans.jobs sortBy).arrange t.jobDigest.rows) pageSize skip,
        (limitOffset ((plans.jobs sortBy).arrange t.jobDigest.rows) pageSize skip).length,
        t.jobDigest.rows.length,
        skip+(limitOffset ((plans.jobs sortBy).arrange t.jobDigest.rows) pageSize skip).length⟩ := by
  have hsorted : (limitOffset ((plans.jobs sortBy).arrange t.jobDigest.rows) pageSize
      skip).Pairwise fun a b => sortBy.key b ≤ sortBy.key a :=
    ((plans.jobs sortBy).sorted _).sublist ((List.take_sublist ..).trans (List.drop_sublist ..))
  rw [getJobs]
  simp only [hsorted.insertionSort_eq]
  rfl

/-- A search that finds something fails behind its first page. -/
lemma search_raises {pageSize skip : ℕ} (hs : 0 < skip) (tagKey : String)
    (tagValue : Option String) :
    search plans t pageSize skip tagKey tagValue = .error .indexError := by
  have hnone : ∀ n : ℕ, limitOffset [n] pageSize skip = [] := by
    intro n
    rw [limitOffset,List.drop_of_length_le hs,List.take_nil]
  cases tagValue with
  | none => rw [search,paginated,hnone]; rfl
  | some tagValue => rw [search,paginated,hnone]; rfl

lemma arrange_nil {ρ : Type} {le : ρ → ρ → Prop} (o : OrderBy le) : o.arrange [] = [] :=
  List.Perm.eq_nil (o.perm [])

section Nothing
variable {tagKey : String} {tagValue : Option String}

omit [LE δ] in
lemma matching_pos (h : ¬(Endpoint.search tagKey tagValue).FindsNothing t) :
    0 < (Endpoint.search tagKey tagValue).matching t := by
  cases tagValue with
  | none => exact List.length_pos_iff.mpr h
  | some tagValue => exact List.length_pos_iff.mpr h

lemma search_of_nothing (h : (Endpoint.search tagKey tagValue).FindsNothing t) {pageSize : ℕ}
    (hp : 0 < pageSize) : search plans t pageSize 0 tagKey tagValue = .ok ⟨[],0,0,0⟩ ∧
      (Endpoint.search tagKey tagValue).matching t = 0 ∧
      (Endpoint.search tagKey tagValue).entries plans t = .ok [] := by
  have hcount : limitOffset [0] pageSize 0 = [0] := by
    rw [limitOffset,List.drop_zero,List.take_of_length_le hp]
  cases tagValue with
  | none =>
    have hrows : searchRows t tagKey = [] := h
    simp only [search,paginated,Endpoint.matching,Endpoint.entries,hrows,List.length_nil,hcount,
      arrange_nil]
    exact ⟨by simp [limitOffset,fetchCount,bind,Except.bind,pure,Except.pure],trivial,rfl⟩
  | some tagValue =>
    have hrows : searchValueRows t tagKey tagValue = [] := h
    simp only [search,paginated,Endpoint.matching,Endpoint.entries,hrows,List.length_nil,hcount,
      arrange_nil]
    exact ⟨by simp [limitOffset,fetchCount,bind,Except.bind,pure,Except.pure],trivial,rfl⟩

lemma search_exact_iff {pageSize : ℕ} (hp : 0 < pageSize) :
    (Endpoint.search tagKey tagValue).Exact plans t pageSize ↔
      (Endpoint.search tagKey tagValue).FindsNothing t := by
  constructor
  · intro h
    by_contra hn
    obtain ⟨result,hr,-⟩ := h.total _ (le_refl _)
    rw [Endpoint.call,search_raises (matching_pos hn)] at hr
    cases hr
  · intro h
    have hnothing : search plans t pageSize 0 tagKey tagValue = .ok ⟨[],0,0,0⟩ ∧
        (Endpoint.search tagKey tagValue).matching t = 0 ∧
          (Endpoint.search tagKey tagValue).entries plans t = .ok [] :=
      search_of_nothing h hp
    obtain ⟨hcall,hmatching,hentries⟩ := hnothing
    constructor
    · intro skip hskip
      obtain rfl : skip = 0 := by omega
      exact ⟨_,hcall,hmatching.symm⟩
    · refine ⟨[],hentries,.last ?_⟩
      rw [Endpoint.walkCall,Endpoint.call,hcall]
      rfl

end Nothing

/-- The listings are exact, except that of a search that finds something. -/
theorem exact_iff {e : Endpoint} {pageSize : ℕ} (hp : 0 < pageSize) :
    e.Exact plans t pageSize ↔ e.FindsNothing t := by
  cases e with
  | jobs sortBy =>
    refine iff_of_true (exact_of_calls hp rfl (length_arrange ..) fun skip =>
      ⟨(limitOffset ((plans.jobs sortBy).arrange t.jobDigest.rows) pageSize skip).length,?_⟩) trivial
    rw [Endpoint.call,getJobs_eq,length_arrange]
  | jobLog jobId =>
    exact iff_of_true (exact_of_calls hp rfl (length_arrange ..) fun skip =>
      ⟨_,paginated_ok plans.jobLog (jobLogRows t jobId) pageSize skip⟩) trivial
  | tags =>
    refine iff_of_true (exact_of_calls hp rfl (length_arrange ..) fun skip => ⟨pageSize,?_⟩) trivial
    rw [length_arrange]
    rfl
  | systemLogs =>
    exact iff_of_true (exact_of_calls hp rfl (length_arrange ..) fun skip =>
      ⟨_,paginated_ok plans.systemLogs t.systemLog pageSize skip⟩) trivial
  | jobLogs =>
    exact iff_of_true (exact_of_calls hp rfl (length_arrange ..) fun skip =>
      ⟨_,paginated_ok plans.jobLogs t.jobLog pageSize skip⟩) trivial
  | search tagKey tagValue => exact search_exact_iff hp

end Exact

/-! ## Plans that sort by insertion -/

/-- Insertion sort leaves ties in the order of the table. -/
def OrderBy.insertion {ρ : Type} (le : ρ → ρ → Prop) [DecidableRel le]
    (total : ∀ a b, le a b ∨ le b a) (trans : ∀ a b c, le a b → le b c → le a c) : OrderBy le where
  arrange := List.insertionSort le
  perm := List.perm_insertionSort le
  sorted :=
    haveI : Std.Total le := ⟨total⟩
    haveI : IsTrans ρ le := ⟨trans⟩
    List.pairwise_insertionSort le

/-- The order of stored ids where the floating-point numbers are those of `double`. -/
instance : DecidableRel (Stored.le : Stored ℕ → Stored ℕ → Prop)
  | .integer m, .integer n => inferInstanceAs (Decidable (m ≤ n))
  | .integer _, .real _ | .integer _, .text _ | .real _, .text _ => isTrue trivial
  | .real _, .integer _ | .text _, .integer _ | .text _, .real _ => isFalse not_false
  | .real x, .real y => inferInstanceAs (Decidable (x ≤ y))
  | .text a, .text b => inferInstanceAs (Decidable (textLe a.toList b.toList = true))

lemma Stored.le_total (a b : Stored ℕ) : Stored.le a b ∨ Stored.le b a := by
  cases a with
  | integer m =>
    cases b with
    | integer n => exact Nat.le_total m n
    | real y => exact .inl trivial
    | text b => exact .inl trivial
  | real x =>
    cases b with
    | integer n => exact .inr trivial
    | real y => exact Nat.le_total x y
    | text b => exact .inl trivial
  | text a =>
    cases b with
    | integer n => exact .inr trivial
    | real y => exact .inr trivial
    | text b => exact textLe_total a.toList b.toList

lemma Stored.le_trans (a b c : Stored ℕ) (hab : Stored.le a b) (hbc : Stored.le b c) :
    Stored.le a c := by
  cases a <;> cases b <;> cases c <;> simp only [Stored.le] at *
  · exact Nat.le_trans hab hbc
  · exact Nat.le_trans hab hbc
  · exact textLe_trans hab hbc

def insertionPlans : Plans ℕ where
  jobs sortBy := .insertion _ (fun a b => Nat.le_total (sortBy.key b) (sortBy.key a))
    fun _ _ _ h h' => Nat.le_trans h' h
  jobLog := .insertion _ (fun a b => Nat.le_total b.timeStamp a.timeStamp)
    fun _ _ _ h h' => Nat.le_trans h' h
  tags := .insertion _ (fun a b => textLe_total a.toList b.toList) fun _ _ _ h h' => textLe_trans h h'
  search := .insertion _ (fun a b => Stored.le_total b.jobId a.jobId)
    fun _ _ _ h h' => Stored.le_trans _ _ _ h' h
  searchValue := .insertion _ (fun a b => Stored.le_total b.jobId a.jobId)
    fun _ _ _ h h' => Stored.le_trans _ _ _ h' h
  systemLogs := .insertion _ (fun a b => Nat.le_total b.timeStamp a.timeStamp)
    fun _ _ _ h h' => Nat.le_trans h' h
  jobLogs := .insertion _ (fun a b => Nat.le_total b.timeStamp a.timeStamp)
    fun _ _ _ h h' => Nat.le_trans h' h

/-- Two jobs with the tag `k`. -/
def twoTags : Tables ℕ where
  jobDigest := .empty
  jobTag := ⟨[⟨.integer 1,"k","v"⟩,⟨.integer 2,"k","w"⟩],by decide⟩
  jobLog := []
  systemLog := []

/-- The second page of a search with one row a page fails. -/
theorem search_not_exact : ¬(Endpoint.search "k" none).Exact insertionPlans twoTags 1 := by
  intro h
  obtain ⟨result,hr,-⟩ := h.total 1 (by decide)
  have hraises : (Endpoint.search "k" none).call insertionPlans twoTags 1 1 =
      .error .indexError := rfl
  rw [hraises] at hr
  cases hr

theorem tags_exact : Endpoint.tags.Exact insertionPlans twoTags 1 :=
  (exact_iff (by decide)).mpr trivial

end LiveKBench.KScheduler.Listings
