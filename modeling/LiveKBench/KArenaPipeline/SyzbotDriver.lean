import LiveKBench.KArenaPipeline.KGymJobs
import LiveKBench.Lib.OrderedMap

/-! The pages of Syzbot as its crawler gets them. A page that was once served is kept in the memory
of the process and in a file for all processes, and a request takes it from there for as long as the
entry lives; only the tables are asked for without the cache. -/
namespace LiveKBench.KArenaPipeline
open KClient (SyzbotData SyzbotCrash)
open Lib

structure CacheEntry where
  content : String
  retrievedTime : ℚ
  statusCode : ℤ

abbrev UrlCache := OrderedMap String CacheEntry

/-- A `SyzbotDriver`: its cache in memory. -/
structure SyzbotDriver where
  cache : UrlCache
  cacheLoaded : Bool

def SyzbotDriver.init : SyzbotDriver := ⟨.empty,false⟩

/-- `none` is a file that is missing or that does not read as JSON. -/
abbrev CacheFile := Option UrlCache

structure Response where
  statusCode : ℤ
  text : String

/-- How one request goes: the site serves its page, or something else, or the request raises. -/
inductive RequestOutcome
  | served
  | refused (statusCode : ℤ) (text : String) (other : statusCode ≠ 200)
  | raised (e : Raised)

def RequestOutcome.response (page : String) : RequestOutcome → Except Raised Response
  | .served => .ok ⟨200,page⟩
  | .refused statusCode text _ => .ok ⟨statusCode,text⟩
  | .raised e => .error e

/-- How the writing of the file goes. -/
inductive SaveOutcome
  | written
  | failed
  | corrupted

def SaveOutcome.file (cache : UrlCache) (file : CacheFile) : SaveOutcome → CacheFile
  | .written => some cache
  | .failed => file
  | .corrupted => none

/-- What happens around one `_sess_get`: the clock at its two readings, the three requests that it
may make, and the writing of the file. -/
structure Fetch where
  currentTime : ℚ
  first : RequestOutcome
  second : RequestOutcome
  third : RequestOutcome
  retrievedTime : ℚ
  save : SaveOutcome

def RequestOutcome.IsRefused : RequestOutcome → Prop
  | .refused _ _ _ => True
  | _ => False

/-- One of the three requests is served, and those before it are refused. -/
def Fetch.Answered (f : Fetch) : Prop :=
  f.first = .served ∨ f.first.IsRefused ∧
    (f.second = .served ∨ f.second.IsRefused ∧ f.third = .served)

namespace SyzbotDriver

def loadCache (d : SyzbotDriver) (file : CacheFile) : SyzbotDriver :=
  if d.cacheLoaded then d else ⟨file.getD d.cache,true⟩

/-- The entry that answers a request without asking the site. -/
def cached? (d : SyzbotDriver) (ttl : ℕ) (url : String) (currentTime : ℚ) : Option CacheEntry :=
  if ttl = 0 then none
  else (d.cache.value? url).filter fun entry =>
    currentTime-entry.retrievedTime < ttl ∧ entry.statusCode = 200

/-- The loop of three requests, left at the first that is served. -/
def fetch (page : String) (outcome : RequestOutcome) :
    List RequestOutcome → Except Raised Response
  | [] => outcome.response page
  | next :: outcomes => do
    let response ← outcome.response page
    if response.statusCode ≠ 200 then fetch page next outcomes else return response

/-- `_sess_get` of a url whose page the site has. -/
def sessGet (ttl : ℕ) (url page : String) (f : Fetch) (d : SyzbotDriver) (file : CacheFile) :
    Except Raised Response × SyzbotDriver × CacheFile :=
  let d := d.loadCache file
  match d.cached? ttl url f.currentTime with
  | some entry => (.ok ⟨entry.statusCode,entry.content⟩,d,file)
  | none =>
    match fetch page f.first [f.second,f.third] with
    | .error e => (.error e,d,file)
    | .ok response =>
      let cache := d.cache.set url ⟨response.text,f.retrievedTime,response.statusCode⟩
      (.ok response,{ d with cache },f.save.file cache file)

/-- The default of `ttl`. -/
def defaultTtl : ℕ := 2^64

def syzbotUrl : String := "https://syzkaller.appspot.com"

def bugUrl (extid : String) : String := syzbotUrl ++ "/bug?extid=" ++ extid ++ "&json=1"

/-- `crawl_extid`: the record that the JSON of the page validates to, with the status under which
it is crawled. -/
def crawlExtid (readBug : String → Except Raised SyzbotData) (page : String → String)
    (status extid : String) (f : Fetch) (d : SyzbotDriver) (file : CacheFile) :
    Except Raised SyzbotData × SyzbotDriver × CacheFile :=
  let (response,d,file) := sessGet defaultTtl (bugUrl extid) (page (bugUrl extid)) f d file
  (do
    let data ← readBug (← response).text
    return { data with status },d,file)

/-! ## What a request gives -/

section Requests
variable {ttl : ℕ} {url url' page : String} {f : Fetch} {d : SyzbotDriver} {file : CacheFile}

lemma fetch_of_refused {outcome next : RequestOutcome} {outcomes : List RequestOutcome}
    (h : outcome.IsRefused) : fetch page outcome (next :: outcomes) = fetch page next outcomes := by
  cases outcome with
  | refused statusCode text other => exact if_pos other
  | served => exact h.elim
  | raised e => exact h.elim

lemma fetch_of_answered (h : f.Answered) :
    fetch page f.first [f.second,f.third] = .ok ⟨200,page⟩ := by
  obtain h | ⟨h,h' | ⟨h',h''⟩⟩ := h
  · rw [h]
    rfl
  · rw [fetch_of_refused h,h']
    rfl
  · rw [fetch_of_refused h,fetch_of_refused h',h'']
    rfl

lemma cacheLoaded_loadCache : (d.loadCache file).cacheLoaded = true := by
  unfold loadCache
  split
  · next h => exact h
  · rfl

lemma loadCache_of_loaded (h : d.cacheLoaded = true) : d.loadCache file = d := if_pos h

/-- A request changes the cache at its own url only. -/
lemma driver_sessGet : (sessGet ttl url page f d file).2.1.cacheLoaded = true ∧
    (url' ≠ url → (sessGet ttl url page f d file).2.1.cache.value? url' =
      (d.loadCache file).cache.value? url') := by
  unfold sessGet
  simp only
  split
  · exact ⟨cacheLoaded_loadCache,fun _ => rfl⟩
  · split
    · exact ⟨cacheLoaded_loadCache,fun _ => rfl⟩
    · refine ⟨cacheLoaded_loadCache,fun hne => ?_⟩
      rw [OrderedMap.value?_set,if_neg (Ne.symm hne)]

lemma response_sessGet : (sessGet ttl url page f d file).1 =
    match (d.loadCache file).cached? ttl url f.currentTime with
    | some entry => .ok ⟨entry.statusCode,entry.content⟩
    | none => fetch page f.first [f.second,f.third] := by
  unfold sessGet
  simp only
  split
  · rfl
  · split
    · next h => rw [h]
    · next h => rw [h]

/-- The entry of a url is the one before, or an answer. -/
lemma entry_sessGet {entry : CacheEntry}
    (h : (sessGet ttl url page f d file).2.1.cache.value? url = some entry) :
    (d.loadCache file).cache.value? url = some entry ∨
      ∃ response, fetch page f.first [f.second,f.third] = .ok response ∧
        response.text = entry.content := by
  unfold sessGet at h
  simp only at h
  split at h
  · exact .inl h
  · split at h
    · exact .inl h
    · next response hresponse =>
      rw [OrderedMap.value?_set,if_pos rfl] at h
      cases h
      exact .inr ⟨response,hresponse,rfl⟩

lemma cached?_eq_some {currentTime : ℚ} {entry : CacheEntry}
    (h : d.cached? ttl url currentTime = some entry) : d.cache.value? url = some entry := by
  unfold cached? at h
  split at h
  · cases h
  · exact (Option.filter_eq_some_iff.mp h).1

lemma bugUrl_injective : Function.Injective bugUrl := by
  intro e e' h
  have hlist := congrArg String.toList h
  simp only [bugUrl,String.toList_append,List.append_assoc,List.append_cancel_left_eq,
    List.append_cancel_right_eq] at hlist
  exact String.toList_injective hlist

lemma cached?_congr {d' : SyzbotDriver} (h : d'.cache.value? url = d.cache.value? url)
    (currentTime : ℚ) : d'.cached? ttl url currentTime = d.cached? ttl url currentTime := by
  unfold cached?
  rw [h]

end Requests

end SyzbotDriver

end LiveKBench.KArenaPipeline
