import LiveKBench.KArenaDb.Bugs
import LiveKBench.KArenaPipeline.SyzbotPopulator

/-! The pages of a bug as `_populate_syzbot_info` gets them, each through the cache that all bugs
share and with what the site answers, and when none of them is an error page. -/
namespace LiveKBench.KArenaPipeline
open KClient (SyzbotData SyzbotCrash)
open Lib

/-- What happens to the cache in memory: its file is read, or a response is stored, whatever its
status is. -/
inductive CacheEvent
  | loaded (file : UrlCache)
  | stored (url : String) (response : Response) (retrievedTime : ℚ)

namespace CacheEvent

def apply (cache : UrlCache) : CacheEvent → UrlCache
  | .loaded file => file
  | .stored url response retrievedTime =>
    cache.set url ⟨response.text,retrievedTime,response.statusCode⟩

/-- The text is the body of a response with status 200 for the url, which was stored or which the
file has. -/
def Holds (url text : String) : CacheEvent → Prop
  | .loaded file => ∃ entry, file.value? url = some entry ∧ entry.statusCode = 200 ∧
    entry.content = text
  | .stored url' response _ => url' = url ∧ response = ⟨200,text⟩

end CacheEvent

/-- The cache that a request finds. -/
def cacheAfter (history : List CacheEvent) : UrlCache := history.foldl CacheEvent.apply .empty

/-- One `_sess_get` beside the other tasks: what they and it have made of the cache, its exception
where the cache or its file is malformed, and how the requests go of a url whose page the site has. -/
structure PageCall where
  history : List CacheEvent
  cacheError : Option Raised
  page : String
  fetch : Fetch

namespace PageCall
open SyzbotDriver (defaultTtl syzbotUrl)
variable (call : PageCall)

def driver : SyzbotDriver := ⟨cacheAfter call.history,true⟩

def sessGet (url : String) : Except Raised Response :=
  match call.cacheError with
  | some e => .error e
  | none => (SyzbotDriver.sessGet defaultTtl url call.page call.fetch call.driver none).1

/-- The url that is asked for: there is a link, and no text yet. -/
def asked (link text : Option String) : Option String :=
  (link.filter fun path => path ≠ "" ∧ isFalsy text).map fun path => syzbotUrl ++ path

def fillText (link text : Option String) : Except Raised (Option String) :=
  match asked link text with
  | none => .ok text
  | some url => (call.sessGet url).map fun response => some response.text

end PageCall

/-- The four pages of a bug. -/
inductive Page
  | kernelConfig
  | cReproducer
  | syzReproducer
  | rawCrashReport

namespace Page

def link (crash : SyzbotCrash) : Page → Option String
  | .kernelConfig => some crash.kernelConfigLink
  | .cReproducer => crash.cReproducerLink
  | .syzReproducer => crash.syzReproducerLink
  | .rawCrashReport => crash.crashReportLink

def textWith (data : SyzbotData) (crash : SyzbotCrash) : Page → Option String
  | .kernelConfig => crash.kernelConfig
  | .cReproducer => crash.cReproducer
  | .syzReproducer => crash.syzReproducer
  | .rawCrashReport => data.rawCrashReport

/-- The text that a record has for the page. -/
def text (data : SyzbotData) (page : Page) : Option String :=
  data.crashes.head?.bind fun crash => textWith data crash page

/-- The url that a record asks for. -/
def asked (data : SyzbotData) (page : Page) : Option String :=
  data.crashes.head?.bind fun crash => PageCall.asked (link crash page) (textWith data crash page)

end Page

/-- `_populate_syzbot_info`, with the call of each page. -/
def populatePages (calls : Page → PageCall) (data : SyzbotData) : Except Raised SyzbotData :=
  match data.crashes with
  | [] => .ok data
  | crash :: _ => do
    let kernelConfig ←
      (calls .kernelConfig).fillText (some crash.kernelConfigLink) crash.kernelConfig
    let cReproducer ← (calls .cReproducer).fillText crash.cReproducerLink crash.cReproducer
    let syzReproducer ← (calls .syzReproducer).fillText crash.syzReproducerLink crash.syzReproducer
    let rawCrashReport ← (calls .rawCrashReport).fillText crash.crashReportLink data.rawCrashReport
    return { data with
      crashes := [{ crash with kernelConfig, cReproducer, syzReproducer }], rawCrashReport }

/-! ## What a page should be -/

/-- The first request raises, or one after requests that are refused. -/
def Fetch.Broken (f : Fetch) : Prop :=
  (∃ e, f.first = .raised e) ∨ f.first.IsRefused ∧
    ((∃ e, f.second = .raised e) ∨ f.second.IsRefused ∧ ∃ e, f.third = .raised e)

/-- All three requests are refused. -/
def Fetch.Exhausted (f : Fetch) : Prop :=
  f.first.IsRefused ∧ f.second.IsRefused ∧ f.third.IsRefused

namespace PageCall
open SyzbotDriver (defaultTtl)
variable (call : PageCall) (url : String)

/-- The cache has a page that still lives. -/
def Hit : Prop := (call.driver.cached? defaultTtl url call.fetch.currentTime).isSome = true

/-- There is a response with status 200, from the cache or from the site. -/
def Obtains : Prop := call.cacheError = none ∧ (call.Hit url ∨ call.fetch.Answered)

/-- The call raises. -/
def Breaks : Prop := call.cacheError ≠ none ∨ ¬call.Hit url ∧ call.fetch.Broken

/-- The text is the body of a response with status 200 for the url. -/
def Served (text : String) : Prop :=
  ¬call.Hit url ∧ call.fetch.Answered ∧ call.page = text ∨ ∃ e ∈ call.history, e.Holds url text

end PageCall

/-- Each text that is filled in is that of a page that was served, and a bug one of whose pages was
not is a failure. -/
structure NoErrorPage (calls : Page → PageCall) (data : SyzbotData) : Prop where
  filled : ∀ data', populatePages calls data = .ok data' → ∀ page url,
    page.asked data = some url → ∃ text, page.text data' = some text ∧
      (calls page).Served url text
  reported : ∀ page url, page.asked data = some url → ¬(calls page).Obtains url →
    ∃ e, populatePages calls data = .error e

/-! ## One page -/

section Call
variable {call : PageCall} {url : String} {history : List CacheEvent}

/-- What the cache has with status 200 was served. -/
lemma holds_of_cacheAfter {entry : CacheEntry}
    (h : (cacheAfter history).value? url = some entry) (hstatus : entry.statusCode = 200) :
    ∃ e ∈ history, e.Holds url entry.content := by
  induction history using List.reverseRecOn with
  | nil => cases h
  | append_singleton history last ih =>
    rw [cacheAfter,List.foldl_append] at h
    change ((last.apply (cacheAfter history)).value? url) = some entry at h
    have hlast : last ∈ history ++ [last] := List.mem_append_right _ (List.mem_singleton_self last)
    cases last with
    | loaded file => exact ⟨_,hlast,entry,h,hstatus,rfl⟩
    | stored url' response retrievedTime =>
      rw [CacheEvent.apply,OrderedMap.value?_set] at h
      by_cases hurl : url' = url
      · rw [if_pos hurl] at h
        obtain rfl := Option.some.inj h
        obtain ⟨statusCode,text⟩ := response
        obtain rfl : statusCode = 200 := hstatus
        exact ⟨_,hlast,hurl,rfl⟩
      · rw [if_neg hurl] at h
        obtain ⟨e,he,hholds⟩ := ih h
        exact ⟨e,List.mem_append_left _ he,hholds⟩

lemma response_of_hit {entry : CacheEntry} (herror : call.cacheError = none)
    (h : call.driver.cached? SyzbotDriver.defaultTtl url call.fetch.currentTime = some entry) :
    call.sessGet url = .ok ⟨entry.statusCode,entry.content⟩ := by
  rw [PageCall.sessGet,herror]
  change (SyzbotDriver.sessGet _ _ _ _ _ _).1 = _
  rw [SyzbotDriver.response_sessGet,SyzbotDriver.loadCache_of_loaded rfl,h]

lemma response_of_not_hit (herror : call.cacheError = none) (h : ¬call.Hit url) :
    call.sessGet url =
      SyzbotDriver.fetch call.page call.fetch.first [call.fetch.second,call.fetch.third] := by
  rw [PageCall.Hit,Bool.not_eq_true,Option.isSome_eq_false_iff,Option.isNone_iff_eq_none] at h
  rw [PageCall.sessGet,herror]
  change (SyzbotDriver.sessGet _ _ _ _ _ _).1 = _
  rw [SyzbotDriver.response_sessGet,SyzbotDriver.loadCache_of_loaded rfl,h]

/-- What is obtained was served. -/
lemma exists_served_of_obtains (h : call.Obtains url) :
    ∃ response, call.sessGet url = .ok response ∧ call.Served url response.text := by
  obtain ⟨herror,h⟩ := h
  by_cases hhit : call.Hit url
  · obtain ⟨entry,hentry⟩ := Option.isSome_iff_exists.mp hhit
    refine ⟨_,response_of_hit herror hentry,.inr ?_⟩
    obtain ⟨hvalue,hlives⟩ := Option.filter_eq_some_iff.mp hentry
    exact holds_of_cacheAfter hvalue (of_decide_eq_true hlives).2
  · have hanswered := h.resolve_left hhit
    refine ⟨⟨200,call.page⟩,?_,.inl ⟨hhit,hanswered,rfl⟩⟩
    rw [response_of_not_hit herror hhit,SyzbotDriver.fetch_of_answered hanswered]

lemma RequestOutcome.cases (outcome : RequestOutcome) :
    outcome = .served ∨ outcome.IsRefused ∨ ∃ e, outcome = .raised e := by
  cases outcome with
  | served => exact .inl rfl
  | refused statusCode text other => exact .inr (.inl trivial)
  | raised e => exact .inr (.inr ⟨e,rfl⟩)

lemma Fetch.cases (f : Fetch) : f.Answered ∨ f.Broken ∨ f.Exhausted := by
  obtain h | h | h := f.first.cases
  · exact .inl (.inl h)
  · obtain h' | h' | h' := f.second.cases
    · exact .inl (.inr ⟨h,.inl h'⟩)
    · obtain h'' | h'' | h'' := f.third.cases
      · exact .inl (.inr ⟨h,.inr ⟨h',h''⟩⟩)
      · exact .inr (.inr ⟨h,h',h''⟩)
      · exact .inr (.inl (.inr ⟨h,.inr ⟨h',h''⟩⟩))
    · exact .inr (.inl (.inr ⟨h,.inl h'⟩))
  · exact .inr (.inl (.inl h))

lemma fetch_of_broken {f : Fetch} {page : String} (h : f.Broken) :
    ∃ e, SyzbotDriver.fetch page f.first [f.second,f.third] = .error e := by
  obtain ⟨e,h⟩ | ⟨h,⟨e,h'⟩ | ⟨h',e,h''⟩⟩ := h
  · refine ⟨e,?_⟩
    rw [h]
    rfl
  · refine ⟨e,?_⟩
    rw [SyzbotDriver.fetch_of_refused h,h']
    rfl
  · refine ⟨e,?_⟩
    rw [SyzbotDriver.fetch_of_refused h,SyzbotDriver.fetch_of_refused h',h'']
    rfl

/-- The last response is returned like any other. -/
lemma fetch_of_exhausted {f : Fetch} {page : String} (h : f.Exhausted) :
    ∃ response, SyzbotDriver.fetch page f.first [f.second,f.third] = .ok response := by
  obtain ⟨h,h',h''⟩ := h
  rw [SyzbotDriver.fetch_of_refused h,SyzbotDriver.fetch_of_refused h']
  cases hthird : f.third with
  | refused statusCode text other => exact ⟨⟨statusCode,text⟩,rfl⟩
  | served => exact ⟨_,rfl⟩
  | raised e =>
    rw [hthird] at h''
    exact h''.elim

lemma error_of_breaks (h : call.Breaks url) : ∃ e, call.sessGet url = .error e := by
  cases herror : call.cacheError with
  | some e => exact ⟨e,by rw [PageCall.sessGet,herror]⟩
  | none =>
    obtain ⟨hhit,hbroken⟩ := h.resolve_left fun hne => hne herror
    rw [response_of_not_hit herror hhit]
    exact fetch_of_broken hbroken

/-- A call that does not raise returns some response. -/
lemma ok_of_not_breaks (h : ¬call.Breaks url) : ∃ response, call.sessGet url = .ok response := by
  rw [PageCall.Breaks,not_or,not_not] at h
  obtain ⟨herror,hunbroken⟩ := h
  by_cases hhit : call.Hit url
  · obtain ⟨entry,hentry⟩ := Option.isSome_iff_exists.mp hhit
    exact ⟨_,response_of_hit herror hentry⟩
  · rw [response_of_not_hit herror hhit]
    obtain hanswered | hbroken | hexhausted := call.fetch.cases
    · exact ⟨_,SyzbotDriver.fetch_of_answered hanswered⟩
    · exact absurd ⟨hhit,hbroken⟩ hunbroken
    · exact fetch_of_exhausted hexhausted

end Call

/-! ## The four pages -/

section Pages
variable {calls : Page → PageCall} {data data' : SyzbotData} {call : PageCall}

lemma fillText_ok_iff_response {link text filled : Option String} :
    call.fillText link text = .ok filled ↔
      match PageCall.asked link text with
      | none => filled = text
      | some url => ∃ response, call.sessGet url = .ok response ∧ filled = some response.text := by
  unfold PageCall.fillText
  cases PageCall.asked link text with
  | none =>
    constructor
    · intro h
      exact (Except.ok.inj h).symm
    · rintro rfl
      rfl
  | some url =>
    simp only
    cases call.sessGet url with
    | error e =>
      constructor
      · intro h
        cases h
      · rintro ⟨response,hresponse,-⟩
        cases hresponse
    | ok response =>
      constructor
      · intro h
        exact ⟨response,rfl,(Except.ok.inj h).symm⟩
      · rintro ⟨_,⟨⟩,rfl⟩
        rfl

/-- A record is populated exactly if each of its pages is filled, and with these texts. -/
lemma populatePages_cons {crash : SyzbotCrash} {rest : List SyzbotCrash}
    (hcrashes : data.crashes = crash :: rest) :
    populatePages calls data = .ok data' ↔ ∃ texts : Page → Option String,
      (∀ page : Page, (calls page).fillText (page.link crash) (page.textWith data crash) =
        .ok (texts page)) ∧
      data' = { data with
        crashes := [{ crash with
          kernelConfig := texts .kernelConfig
          cReproducer := texts .cReproducer
          syzReproducer := texts .syzReproducer }]
        rawCrashReport := texts .rawCrashReport } := by
  unfold populatePages
  rw [hcrashes]
  simp only [bind_eq_ok_iff]
  constructor
  · rintro ⟨kernelConfig,hconfig,cReproducer,hc,syzReproducer,hsyz,rawCrashReport,hreport,h⟩
    refine ⟨fun
      | .kernelConfig => kernelConfig
      | .cReproducer => cReproducer
      | .syzReproducer => syzReproducer
      | .rawCrashReport => rawCrashReport,fun page => ?_,(Except.ok.inj h).symm⟩
    cases page with
    | kernelConfig => exact hconfig
    | cReproducer => exact hc
    | syzReproducer => exact hsyz
    | rawCrashReport => exact hreport
  · rintro ⟨texts,htexts,rfl⟩
    exact ⟨_,htexts .kernelConfig,_,htexts .cReproducer,_,htexts .syzReproducer,_,
      htexts .rawCrashReport,rfl⟩

lemma populatePages_nil (hcrashes : data.crashes = []) : populatePages calls data = .ok data := by
  unfold populatePages
  rw [hcrashes]

lemma asked_cons {crash : SyzbotCrash} {rest : List SyzbotCrash} (page : Page)
    (hcrashes : data.crashes = crash :: rest) :
    page.asked data = PageCall.asked (page.link crash) (page.textWith data crash) := by
  rw [Page.asked,hcrashes]
  rfl

/-- A record is populated exactly if no page that it asks for raises. -/
lemma populatePages_ok_iff : (∃ data', populatePages calls data = .ok data') ↔
    ∀ page url, page.asked data = some url → ∃ response, (calls page).sessGet url = .ok response := by
  cases hcrashes : data.crashes with
  | nil =>
    refine iff_of_true ⟨data,populatePages_nil hcrashes⟩ fun page url hasked => ?_
    rw [Page.asked,hcrashes] at hasked
    cases hasked
  | cons crash rest =>
    simp only [populatePages_cons hcrashes,asked_cons _ hcrashes]
    constructor
    · rintro ⟨data',texts,htexts,-⟩ page url hasked
      have hfilled := fillText_ok_iff_response.mp (htexts page)
      rw [hasked] at hfilled
      obtain ⟨response,hresponse,-⟩ := hfilled
      exact ⟨response,hresponse⟩
    · intro h
      have hfilled : ∀ page : Page, ∃ text,
          (calls page).fillText (page.link crash) (page.textWith data crash) = .ok text := by
        intro page
        cases hasked : PageCall.asked (page.link crash) (page.textWith data crash) with
        | none => exact ⟨_,fillText_ok_iff_response.mpr (by rw [hasked])⟩
        | some url =>
          obtain ⟨response,hresponse⟩ := h page url hasked
          exact ⟨_,fillText_ok_iff_response.mpr (by rw [hasked]; exact ⟨response,hresponse,rfl⟩)⟩
      choose texts htexts using hfilled
      exact ⟨_,texts,htexts,rfl⟩

/-- The text of a page that is asked for is that of its response. -/
lemma text_populatePages {page : Page} {url : String} (h : populatePages calls data = .ok data')
    (hasked : page.asked data = some url) : ∃ response,
      (calls page).sessGet url = .ok response ∧ page.text data' = some response.text := by
  cases hcrashes : data.crashes with
  | nil =>
    rw [Page.asked,hcrashes] at hasked
    cases hasked
  | cons crash rest =>
    rw [asked_cons _ hcrashes] at hasked
    obtain ⟨texts,htexts,rfl⟩ := (populatePages_cons hcrashes).mp h
    have hfilled := fillText_ok_iff_response.mp (htexts page)
    rw [hasked] at hfilled
    obtain ⟨response,hresponse,htext⟩ := hfilled
    refine ⟨response,hresponse,?_⟩
    rw [← htext]
    cases page with
    | kernelConfig => rfl
    | cReproducer => rfl
    | syzReproducer => rfl
    | rawCrashReport => rfl

lemma fillText_eq {p : SyzbotPopulator}
    (h : ∀ url, (call.sessGet url).map Response.text = p.getText url) (link text : Option String) :
    call.fillText link text = p.fillText link text := by
  unfold PageCall.fillText SyzbotPopulator.fillText PageCall.asked
  cases link with
  | none => rfl
  | some path =>
    by_cases hmissing : path ≠ "" ∧ isFalsy text = true
    · rw [Option.filter_some_pos (by simpa using hmissing),Option.map_some]
      simp only [if_pos hmissing,← h]
      cases call.sessGet (SyzbotDriver.syzbotUrl ++ path) <;> rfl
    · rw [Option.filter_some_neg (by simpa using hmissing),Option.map_none]
      simp only [if_neg hmissing]

/-- With the texts that the calls get, this is the populator of a batch. -/
theorem populatePages_eq_populateSyzbotInfo {p : SyzbotPopulator}
    (h : ∀ page url, ((calls page).sessGet url).map Response.text = p.getText url)
    (data : SyzbotData) : populatePages calls data = p.populateSyzbotInfo data := by
  unfold populatePages SyzbotPopulator.populateSyzbotInfo
  cases data.crashes with
  | nil => rfl
  | cons crash rest => simp only [fillText_eq (h _)]

/-- No error page becomes data exactly if a call of the bug raises, or each obtains its page. -/
theorem noErrorPage_iff : NoErrorPage calls data ↔
    (∃ page url, Page.asked data page = some url ∧ (calls page).Breaks url) ∨
      ∀ page url, Page.asked data page = some url → (calls page).Obtains url := by
  constructor
  · intro h
    by_cases hbreaks : ∃ page url, Page.asked data page = some url ∧ (calls page).Breaks url
    · exact .inl hbreaks
    · refine .inr fun page url hasked => ?_
      by_contra hfailed
      obtain ⟨e,herror⟩ := h.reported page url hasked hfailed
      obtain ⟨data',hok⟩ := populatePages_ok_iff.mpr fun page url hasked =>
        ok_of_not_breaks fun hbroken => hbreaks ⟨page,url,hasked,hbroken⟩
      rw [herror] at hok
      cases hok
  · rintro (⟨page,url,hasked,hbreaks⟩ | hobtains)
    · obtain ⟨e,hraises⟩ := error_of_breaks hbreaks
      have hfails : ∀ data', populatePages calls data ≠ .ok data' := by
        intro data' hok
        obtain ⟨response,hresponse⟩ := populatePages_ok_iff.mp ⟨data',hok⟩ page url hasked
        rw [hraises] at hresponse
        cases hresponse
      refine ⟨fun data' hok => absurd hok (hfails data'),fun _ _ _ _ => ?_⟩
      cases hresult : populatePages calls data with
      | ok data' => exact absurd hresult (hfails data')
      | error e => exact ⟨e,rfl⟩
    · refine ⟨fun data' hok page url hasked => ?_,fun page url hasked hfailed =>
        absurd (hobtains page url hasked) hfailed⟩
      obtain ⟨response,hresponse,htext⟩ := text_populatePages hok hasked
      obtain ⟨response',hresponse',hserved⟩ := exists_served_of_obtains (hobtains page url hasked)
      rw [hresponse] at hresponse'
      obtain rfl := Except.ok.inj hresponse'
      exact ⟨response.text,htext,hserved⟩

end Pages

/-- The site is asked too often, and answers each request with the same page. -/
def tooManyRequests : PageCall where
  history := []
  cacheError := none
  page := ""
  fetch :=
    { currentTime := 0
      first := .refused 429 "<title>Too Many Requests</title>" (by decide)
      second := .refused 429 "<title>Too Many Requests</title>" (by decide)
      third := .refused 429 "<title>Too Many Requests</title>" (by decide)
      retrievedTime := 4
      save := .written }

/-- A bug with a link to its reproducer. -/
def linkedBug : SyzbotData :=
  { KArenaDb.openBug with
    crashes := [{ KArenaDb.openCrash with cReproducerLink := some "/text?tag=ReproC&x=1" }] }

/-- The page becomes the reproducer of the bug. -/
theorem populatePages_stores_errorPage : ¬∀ (calls : Page → PageCall) (data : SyzbotData),
    NoErrorPage calls data := by
  intro h
  have hfailed : ¬tooManyRequests.Obtains "https://syzkaller.appspot.com/text?tag=ReproC&x=1" := by
    rintro ⟨-,hhit | hanswered⟩
    · cases hhit
    · obtain h | ⟨-,h | ⟨-,h⟩⟩ := hanswered
      · cases h
      · cases h
      · cases h
  obtain ⟨e,herror⟩ := (h (fun _ => tooManyRequests) linkedBug).reported .cReproducer _ rfl hfailed
  have hok : (populatePages (fun _ => tooManyRequests) linkedBug).toOption.isSome = true := by
    decide +kernel
  rw [herror] at hok
  cases hok

end LiveKBench.KArenaPipeline
