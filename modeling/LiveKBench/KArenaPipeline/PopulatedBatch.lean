import LiveKBench.KArenaPipeline.Crawls

/-! A batch of `populate_batch` in its loops, which share the commits that they load, and what the
bugs of a batch have to do with each other until they are stored. -/
namespace LiveKBench.KArenaPipeline
open KArenaWeb (DateTime)
open KArenaDb
open KClient (SyzbotData SyzbotGitCommit)
open Lib

/-- The site and the local repositories. A hash names one commit; a repository that is asked for
commits finds some of them, once they have been fetched as far as they could be. -/
structure BatchSources where
  getText : String → Except Raised String
  repositoryMap : String → Option String
  traverse : String → List String → Except Raised (List String)
  commit : String → GitCommit
  diff : String → String → String → Except Raised String

namespace BatchSources
variable (S : BatchSources)

/-- The populator whose dictionary has the commits found. -/
def populator (found : List String) : SyzbotPopulator where
  getText := S.getText
  repositoryMap := S.repositoryMap
  commit _ hash := if hash ∈ found then some (S.commit hash) else none
  diff := S.diff

/-- `commits_to_load`. -/
def group (asked : List (String × String)) : OrderedMap String (List String) :=
  asked.foldl (fun commitsToLoad cmt =>
    commitsToLoad.set cmt.1 ((commitsToLoad.value? cmt.1).getD [] ++ [cmt.2])) .empty

/-- The keys of `commits`, after `_populate_commits`. -/
def load (commitsToLoad : OrderedMap String (List String)) : Except Raised (List String) :=
  (commitsToLoad.rows.mapM fun entry => S.traverse entry.1 entry.2).map List.flatten

/-- What the repositories find for the records of a batch. -/
def found (batch : List SyzbotData) : Except Raised (List String) := do
  let asked ← batch.mapM (S.populator []).commitsToLoad
  S.load (group asked.flatten)

def populateBatch (batch : List SyzbotData) : Except Raised (List SyzbotData) := do
  let batch ← batch.mapM (S.populator []).populateSyzbotInfo
  let found ← S.found batch
  batch.mapM (S.populator found).populateCommits

end BatchSources

/-- What `_populate_and_insert` gets beside the bugs. -/
structure CrawlTables where
  bugId2extid : OrderedMap String String
  reported : OrderedMap String ℤ
  subsystems : OrderedMap String (List String)

namespace CrawlTables
variable (tables : CrawlTables) (times : String → ℤ → DateTime × DateTime)

/-- `d[key]`. -/
def entry {α : Type} (d : OrderedMap String α) (key : String) : Except Raised α :=
  match d.value? key with
  | some value => .ok value
  | none => .error (.exception "KeyError" s!"'{key}'")

/-- The call of `insert_syzbot_bug` for a bug. -/
def insertCall (bug : SyzbotData) : Except Raised CrawlInsert := do
  let extid ← entry tables.bugId2extid bug.bugId
  let subsystems ← entry tables.subsystems extid
  let reported ← entry tables.reported extid
  return ⟨{ bug with subsystems := some subsystems },extid,(times extid reported).1,
    (times extid reported).2⟩

end CrawlTables

namespace BatchSources
variable (S : BatchSources) (tables : CrawlTables) (times : String → ℤ → DateTime × DateTime)

/-- `_populate_and_insert`; a record that is refused cancels the other insertions of its group. -/
def populateAndInsert (batch : List SyzbotData) (bugs : BugTable) : Except Raised BugTable := do
  let populated ← S.populateBatch batch
  let usable ← DataPipeline.keepUsable populated
  let calls ← usable.mapM (tables.insertCall times)
  if calls.any fun c => c.syzbotBug.isNone then throw (.validationError "SyzbotBug")
  else return calls.foldl crawlInsert bugs

/-! ## What a bug should have to do with the others -/

/-- The commit that fixed the bug has no link. -/
def FixUnlinked (data : SyzbotData) : Prop :=
  ∃ cmt rest, data.fixCommits = cmt :: rest ∧ cmt.link.getD "" = ""

/-- The hash of the commit that caused the bug, where the repository that its link names finds it. -/
def FindsCause (data : SyzbotData) (hash : String) : Prop :=
  ∃ cmt link gitUrl found, data.causeCommit = some cmt ∧ cmt.link = some link ∧ link ≠ "" ∧
    cmt.hashValue = some hash ∧ hash ≠ "" ∧ parseUrl link = .ok gitUrl ∧
    (S.repositoryMap gitUrl).isSome = true ∧ S.traverse gitUrl [hash] = .ok found ∧ hash ∈ found ∧
    ∃ files, (S.commit hash).modifiedFiles = .ok files

/-- The record has the data of the commit. -/
def HasCauseData (data : SyzbotData) (hash : String) : Prop :=
  data.causeCommitDate = some (S.commit hash).committerDate ∧
    ∃ files, (S.commit hash).modifiedFiles = .ok files ∧
      data.causeModifiedFunctions = some (files.map Prod.snd)

/-- What is returned for a bug is what is returned for it alone, and that nothing is returned is no
other bug's doing; a fix without a link leaves the cause; and what passes the filter is stored. -/
structure Isolated (batch : List SyzbotData) (bugs : BugTable) : Prop where
  same : match S.populateBatch batch with
    | .ok batch' => List.Forall₂ (fun data data' => S.populateBatch [data] = .ok [data']) batch
      batch'
    | .error _ => ∀ data ∈ batch, ∃ e, S.populateBatch [data] = .error e
  cause : ∀ data ∈ batch, ∀ data', S.populateBatch [data] = .ok [data'] → FixUnlinked data →
    ∀ hash, S.FindsCause data hash → S.HasCauseData data' hash
  stored : ∀ data ∈ batch, ∀ data', S.populateBatch [data] = .ok [data'] →
    hasUsableReproducer data' = .ok true →
      ∃ bugs', S.populateAndInsert tables times batch bugs = .ok bugs' ∧
        ∃ row, bugs'.get? data.bugId = some row ∧ ∃ other ∈ batch, ∃ other' subsystems,
          S.populateBatch [other] = .ok [other'] ∧ other.bugId = data.bugId ∧
            row.syzbotData = { other' with subsystems := some subsystems }

open SyzbotPopulator (NoConfig LinkParses examined)

/-- The hashes that are paired with a url. -/
def hashesAt (refs : List (String × String)) (gitUrl : String) : List String :=
  refs.filterMap fun ref => if ref.1 = gitUrl then some ref.2 else none

/-- The hashes that a batch names at a repository, in the order of its records. -/
def asked (batch : List SyzbotData) (gitUrl : String) : List String :=
  hashesAt (batch.flatMap (S.populator []).named) gitUrl

/-- What the repositories that a batch names find of it. -/
def fetched (batch : List SyzbotData) : List String :=
  (batch.flatMap (S.populator []).named).flatMap fun ref =>
    (S.traverse ref.1 (S.asked batch ref.1)).toOption.getD []

/-- In the batch the repositories of the record are read, and the record has what it needs. -/
structure Sound (batch : List SyzbotData) (data : SyzbotData) : Prop where
  opened : ∀ ref ∈ (S.populator []).named data,
    ∃ found, S.traverse ref.1 (S.asked batch ref.1) = .ok found
  completable : (S.populator (S.fetched batch)).Completable data

/-- Alone, the record has what it needs, and a reproducer that the filter passes. -/
def Accepted (data : SyzbotData) : Prop :=
  S.Sound [data] data ∧ (S.populator []).HasReproducer data

/-- The bug is in the tables of the crawl, under a status that the database knows. -/
def Listed (data : SyzbotData) : Prop :=
  (BugStatus.ofText? data.status).isSome = true ∧ ∃ extid,
    tables.bugId2extid.value? data.bugId = some extid ∧
      (tables.subsystems.value? extid).isSome = true ∧ (tables.reported.value? extid).isSome = true

/-- Each bug of the batch has what it needs, by itself and beside the others, or none has it by itself
and one lacks it beside the others; a bug whose fix has no link has no cause that is found, but for
data that it has already; and if a bug is accepted, then each has a kernel config beside a
reproducer, and those accepted are listed. -/
structure Untroubled (batch : List SyzbotData) : Prop where
  together : (∀ data ∈ batch, S.Sound [data] data ∧ S.Sound batch data) ∨
    (∀ data ∈ batch, ¬S.Sound [data] data) ∧ ∃ data ∈ batch, ¬S.Sound batch data
  causes : ∀ data ∈ batch, S.Sound [data] data → FixUnlinked data → ∀ hash,
    S.FindsCause data hash → S.HasCauseData data hash
  filtered : (∃ data ∈ batch, S.Accepted data) → ∀ data ∈ batch,
    ¬NoConfig data ∧ (S.Accepted data → Listed tables data)

end BatchSources

/-! ## What is fetched -/

namespace BatchSources
open SyzbotPopulator (NoConfig LinkParses examined)
variable {S : BatchSources} {data data' : SyzbotData} {batch batch' : List SyzbotData}
  {found found' : List String}

lemma populator_congr (h : ∀ hash, hash ∈ found ↔ hash ∈ found') :
    S.populator found = S.populator found' := by
  unfold populator
  congr 1
  funext gitUrl hash
  exact if_congr (h hash) rfl rfl

/-- Grouping keeps the hashes of each repository in their order. -/
lemma value?_group (refs : List (String × String)) (gitUrl : String) :
    (group refs).value? gitUrl =
      if hashesAt refs gitUrl = [] then none else some (hashesAt refs gitUrl) := by
  induction refs using List.reverseRecOn with
  | nil => rfl
  | append_singleton refs ref ih =>
    have hgroup : group (refs ++ [ref]) = (group refs).set ref.1
        (((group refs).value? ref.1).getD [] ++ [ref.2]) := by
      unfold group
      rw [List.foldl_append]
      rfl
    have hat : hashesAt (refs ++ [ref]) gitUrl =
        hashesAt refs gitUrl ++ if ref.1 = gitUrl then [ref.2] else [] := by
      unfold hashesAt
      rw [List.filterMap_append]
      by_cases hurl : ref.1 = gitUrl <;> simp [hurl]
    rw [hgroup,OrderedMap.value?_set,hat]
    by_cases hurl : ref.1 = gitUrl
    · subst hurl
      have hnil : hashesAt refs ref.1 ++ [ref.2] ≠ [] := by simp
      rw [if_pos rfl,if_pos rfl,if_neg hnil,ih]
      by_cases hnone : hashesAt refs ref.1 = []
      · rw [if_pos hnone,hnone]
        rfl
      · rw [if_neg hnone]
        rfl
    · rw [if_neg hurl,if_neg hurl,List.append_nil,ih]

/-- The repositories that are read, each with the hashes that the batch names there. -/
lemma mem_group {refs : List (String × String)} {entry : String × List String} :
    entry ∈ (group refs).rows ↔
      (∃ ref ∈ refs, ref.1 = entry.1) ∧ entry.2 = hashesAt refs entry.1 := by
  obtain ⟨gitUrl,hashes⟩ := entry
  have hnil : hashesAt refs gitUrl = [] ↔ ¬∃ ref ∈ refs, ref.1 = gitUrl := by
    unfold hashesAt
    rw [List.filterMap_eq_nil_iff]
    simp only [ite_eq_right_iff,reduceCtorEq,imp_false,not_exists,not_and]
  rw [← OrderedMap.value?_eq_some,value?_group]
  by_cases hnone : hashesAt refs gitUrl = []
  · rw [if_pos hnone]
    exact iff_of_false nofun fun h => hnil.mp hnone h.1
  · rw [if_neg hnone,Option.some.injEq]
    exact ⟨fun h => ⟨not_not.mp (hnil.not.mp hnone),h.symm⟩,fun h => h.2.symm⟩

lemma mapM_commitsToLoad_iff {refs : List (List (String × String))} :
    batch.mapM (S.populator []).commitsToLoad = .ok refs ↔
      (∀ data ∈ batch, ∀ cmt ∈ examined data, LinkParses cmt) ∧
        refs = batch.map (S.populator []).named := by
  rw [mapM_eq_ok_iff]
  simp only [SyzbotPopulator.commitsToLoad_eq_ok_iff]
  constructor
  · intro h
    refine ⟨fun data hdata => ?_,?_⟩
    · obtain ⟨ref,-,hlinks,-⟩ := exists_right_of_forall₂ h hdata
      exact hlinks
    · have hmap := map_eq_map_of_forall₂ h (f := (S.populator []).named) (g := id) fun _ _ hr => hr.2
      rwa [List.map_id] at hmap
  · rintro ⟨hlinks,rfl⟩
    rw [List.forall₂_map_right_iff,List.forall₂_same]
    exact fun data hdata => ⟨hlinks data hdata,rfl⟩

/-- The repositories are read exactly where the links parse and each of those named is read. -/
lemma found_ok_iff : (∃ found, S.found batch = .ok found) ↔
    (∀ data ∈ batch, ∀ cmt ∈ examined data, LinkParses cmt) ∧
      ∀ data ∈ batch, ∀ ref ∈ (S.populator []).named data,
        ∃ found, S.traverse ref.1 (S.asked batch ref.1) = .ok found := by
  have hload : ∀ refs, (∃ found, S.load (group refs) = .ok found) ↔
      ∀ ref ∈ refs, ∃ found, S.traverse ref.1 (hashesAt refs ref.1) = .ok found := by
    intro refs
    unfold load
    constructor
    · rintro ⟨found,h⟩ ref href
      cases hlists : (group refs).rows.mapM fun entry => S.traverse entry.1 entry.2 with
      | error e =>
        rw [hlists] at h
        cases h
      | ok lists =>
        have hin : (ref.1,hashesAt refs ref.1) ∈ (group refs).rows :=
          mem_group.mpr ⟨⟨ref,href,rfl⟩,rfl⟩
        obtain ⟨list,-,hlist⟩ := exists_right_of_forall₂ (mapM_eq_ok_iff.mp hlists) hin
        exact ⟨list,hlist⟩
    · intro h
      have hall : ∀ entry ∈ (group refs).rows, ∃ list, S.traverse entry.1 entry.2 = .ok list ∧
          True := by
        intro entry hentry
        obtain ⟨⟨ref,href,hurl⟩,hhashes⟩ := mem_group.mp hentry
        obtain ⟨list,hlist⟩ := h ref href
        rw [hurl] at hlist
        exact ⟨list,by rw [hhashes,hlist],trivial⟩
      obtain ⟨lists,hlists,-⟩ := exists_mapM_ok hall
      exact ⟨lists.flatten,by rw [hlists]; rfl⟩
  unfold BatchSources.found
  simp only [bind_eq_ok_iff,mapM_commitsToLoad_iff]
  constructor
  · rintro ⟨found,_,⟨hlinks,rfl⟩,h⟩
    refine ⟨hlinks,fun data hdata ref href => ?_⟩
    exact (hload _).mp ⟨found,h⟩ ref (List.mem_flatMap.mpr ⟨data,hdata,href⟩)
  · rintro ⟨hlinks,h⟩
    obtain ⟨found,hfound⟩ := (hload (batch.flatMap (S.populator []).named)).mpr fun ref href => by
      obtain ⟨data,hdata,href⟩ := List.mem_flatMap.mp href
      exact h data hdata ref href
    exact ⟨found,_,⟨hlinks,rfl⟩,hfound⟩

/-- What is found is what the named repositories find. -/
lemma mem_found (h : S.found batch = .ok found) (hash : String) :
    hash ∈ found ↔ hash ∈ S.fetched batch := by
  obtain ⟨refs,hrefs,hload⟩ := bind_eq_ok_iff.mp h
  obtain ⟨-,rfl⟩ := mapM_commitsToLoad_iff.mp hrefs
  change S.load (group (batch.flatMap (S.populator []).named)) = .ok found at hload
  unfold load at hload
  unfold fetched
  cases hlists : (group (batch.flatMap (S.populator []).named)).rows.mapM
      fun entry => S.traverse entry.1 entry.2 with
  | error e =>
    rw [hlists] at hload
    cases hload
  | ok lists =>
    rw [hlists] at hload
    cases hload
    have hall := mapM_eq_ok_iff.mp hlists
    rw [List.mem_flatten,List.mem_flatMap]
    constructor
    · rintro ⟨list,hlist,hin⟩
      obtain ⟨entry,hentry,htraverse⟩ := exists_left_of_forall₂ hall hlist
      obtain ⟨⟨ref,href,hurl⟩,hhashes⟩ := mem_group.mp hentry
      refine ⟨ref,href,?_⟩
      rw [hhashes] at htraverse
      rw [hurl]
      unfold asked
      rw [htraverse]
      exact hin
    · rintro ⟨ref,href,hin⟩
      obtain ⟨list,hlist,htraverse⟩ := exists_right_of_forall₂ hall
        (mem_group.mpr ⟨⟨ref,href,rfl⟩,rfl⟩ :
          (ref.1,hashesAt (batch.flatMap (S.populator []).named) ref.1) ∈ _)
      refine ⟨list,hlist,?_⟩
      unfold asked at hin
      rw [htraverse] at hin
      exact hin

/-! ## A whole batch -/

/-- Where both dictionaries have the commit, they have the same. -/
lemma lookup_unique {cmt : SyzbotGitCommit} {known known' : Option (String × String × GitCommit)}
    (h : (S.populator found).lookup cmt = .ok known)
    (h' : (S.populator found').lookup cmt = .ok known') : known = known' := by
  have hnone := SyzbotPopulator.lookup_eq_none_iff h
  have hnone' := SyzbotPopulator.lookup_eq_none_iff h'
  match known,known' with
  | none,none => rfl
  | none,some _ => exact absurd (hnone'.mpr (hnone.mp rfl)) nofun
  | some _,none => exact absurd (hnone.mpr (hnone'.mp rfl)) nofun
  | some (repository,hash,commit),some (repository',hash',commit') =>
    obtain ⟨-,gitUrl,hmirrored,hcommit⟩ := SyzbotPopulator.lookup_eq_some_iff.mp h
    obtain ⟨-,gitUrl',hmirrored',hcommit'⟩ := SyzbotPopulator.lookup_eq_some_iff.mp h'
    cases hmirrored.symm.trans hmirrored'
    have hhave := (Option.ite_none_right_eq_some.mp hcommit).2
    have hhave' := (Option.ite_none_right_eq_some.mp hcommit').2
    rw [Option.some.inj (hhave.symm.trans hhave')]

lemma populateFix_unique {fixed fixed' : SyzbotData × Bool}
    (h : (S.populator found).populateFix data = .ok fixed)
    (h' : (S.populator found').populateFix data = .ok fixed') : fixed = fixed' := by
  unfold SyzbotPopulator.populateFix at h h'
  cases hfix : data.fixCommits with
  | nil =>
    rw [hfix] at h h'
    exact Except.ok.inj (h.symm.trans h')
  | cons cmt rest =>
    rw [hfix] at h h'
    obtain ⟨known,hknown,h⟩ := bind_eq_ok_iff.mp h
    obtain ⟨known',hknown',h'⟩ := bind_eq_ok_iff.mp h'
    obtain rfl := lookup_unique hknown hknown'
    exact Except.ok.inj (h.symm.trans h')

lemma populateCause_unique {caused caused' : SyzbotData}
    (h : (S.populator found).populateCause data = .ok caused)
    (h' : (S.populator found').populateCause data = .ok caused') : caused = caused' := by
  unfold SyzbotPopulator.populateCause at h h'
  cases hcause : data.causeCommit with
  | none =>
    rw [hcause] at h h'
    exact Except.ok.inj (h.symm.trans h')
  | some cmt =>
    rw [hcause] at h h'
    obtain ⟨known,hknown,h⟩ := bind_eq_ok_iff.mp h
    obtain ⟨known',hknown',h'⟩ := bind_eq_ok_iff.mp h'
    obtain rfl := lookup_unique hknown hknown'
    exact Except.ok.inj (h.symm.trans h')

/-- The pass of a record in a batch. -/
def complete (S : BatchSources) (found : List String) (data : SyzbotData) :
    Except Raised SyzbotData :=
  (S.populator found).populateSyzbotInfo data >>= (S.populator found).populateCommits

/-- However many commits were found beside its own, the record becomes the same. -/
lemma complete_unique {data₁ data₂ : SyzbotData} (h : S.complete found data = .ok data₁)
    (h' : S.complete found' data = .ok data₂) : data₁ = data₂ := by
  obtain ⟨info,hinfo,h⟩ := bind_eq_ok_iff.mp h
  obtain ⟨info',hinfo',h'⟩ := bind_eq_ok_iff.mp h'
  obtain rfl : info = info' := Except.ok.inj (hinfo.symm.trans hinfo')
  obtain ⟨⟨fixed,goesOn⟩,hfixed,h⟩ := bind_eq_ok_iff.mp h
  obtain ⟨fixed',hfixed',h'⟩ := bind_eq_ok_iff.mp h'
  obtain rfl := populateFix_unique hfixed hfixed'
  cases goesOn with
  | true => exact populateCause_unique h h'
  | false => exact Except.ok.inj (h.symm.trans h')

theorem populateBatch_eq_ok_iff : S.populateBatch batch = .ok batch' ↔
    ∃ found, S.found batch = .ok found ∧ batch.mapM (S.complete found) = .ok batch' := by
  unfold populateBatch
  simp only [bind_eq_ok_iff]
  have hfound : ∀ infos, batch.mapM (S.populator []).populateSyzbotInfo = .ok infos →
      S.found infos = S.found batch := by
    intro infos hinfos
    unfold BatchSources.found
    rw [mapM_congr_of_mapM hinfos fun data info hinfo =>
      (SyzbotPopulator.sameCommits_syzbotInfo hinfo).commitsToLoad]
  constructor
  · rintro ⟨infos,hinfos,found,hload,h⟩
    rw [hfound infos hinfos] at hload
    exact ⟨found,hload,mapM_bind_eq_ok_iff.mpr ⟨infos,hinfos,h⟩⟩
  · rintro ⟨found,hload,h⟩
    obtain ⟨infos,hinfos,h⟩ := mapM_bind_eq_ok_iff.mp h
    exact ⟨infos,hinfos,found,(hfound infos hinfos).trans hload,h⟩

/-- A batch is returned exactly where each of its records has what it needs. -/
theorem populateBatch_ok_iff :
    (∃ batch', S.populateBatch batch = .ok batch') ↔ ∀ data ∈ batch, S.Sound batch data := by
  constructor
  · rintro ⟨batch',h⟩ data hdata
    obtain ⟨found,hload,h⟩ := populateBatch_eq_ok_iff.mp h
    obtain ⟨hlinks,hopened⟩ := found_ok_iff.mp ⟨found,hload⟩
    obtain ⟨data',-,hcomplete⟩ := exists_right_of_forall₂ (mapM_eq_ok_iff.mp h) hdata
    refine ⟨hopened data hdata,?_⟩
    rw [← populator_congr (mem_found hload)]
    exact (SyzbotPopulator.complete_ok_iff (hlinks data hdata)).mp ⟨data',hcomplete⟩
  · intro h
    obtain ⟨found,hload⟩ := found_ok_iff.mpr
      ⟨fun data hdata => (h data hdata).completable.links,fun data hdata => (h data hdata).opened⟩
    have hone : ∀ data ∈ batch, ∃ data', S.complete found data = .ok data' ∧ True := by
      intro data hdata
      have hcompletable := (h data hdata).completable
      rw [← populator_congr (mem_found hload)] at hcompletable
      obtain ⟨data',hcomplete⟩ :=
        (SyzbotPopulator.complete_ok_iff hcompletable.links).mpr hcompletable
      exact ⟨data',hcomplete,trivial⟩
    obtain ⟨batch',hbatch,-⟩ := exists_mapM_ok hone
    exact ⟨batch',populateBatch_eq_ok_iff.mpr ⟨found,hload,hbatch⟩⟩

/-- A bug alone. -/
lemma populateBatch_single : S.populateBatch [data] = .ok [data'] ↔
    ∃ found, S.found [data] = .ok found ∧ S.complete found data = .ok data' := by
  rw [populateBatch_eq_ok_iff]
  refine exists_congr fun found => and_congr_right fun _ => ?_
  rw [mapM_eq_ok_iff]
  constructor
  · intro h
    cases h
    assumption
  · exact fun h => .cons h .nil

lemma single_ok_iff : (∃ data', S.populateBatch [data] = .ok [data']) ↔ S.Sound [data] data := by
  rw [← List.forall_mem_singleton (p := S.Sound [data]),← populateBatch_ok_iff]
  constructor
  · exact fun ⟨data',h⟩ => ⟨_,h⟩
  · rintro ⟨batch',h⟩
    obtain ⟨found,hload,hbatch⟩ := populateBatch_eq_ok_iff.mp h
    obtain ⟨data',-,hcomplete⟩ :=
      exists_right_of_forall₂ (mapM_eq_ok_iff.mp hbatch) (List.mem_singleton_self data)
    exact ⟨data',populateBatch_single.mpr ⟨found,hload,hcomplete⟩⟩

/-- What the batch gives for a bug is what the bug gives alone, if it gives anything. -/
lemma single_unique (h : S.complete found data = .ok data') {data₁ : SyzbotData}
    (hsingle : S.populateBatch [data] = .ok [data₁]) : data' = data₁ := by
  obtain ⟨found',-,hcomplete⟩ := populateBatch_single.mp hsingle
  exact complete_unique h hcomplete

/-! ## The cause -/

/-- Without a link of the fix the cause is left as it was. -/
lemma cause_of_unlinked (hunlinked : FixUnlinked data) (h : S.complete found data = .ok data') :
    data'.causeCommitDate = data.causeCommitDate ∧
      data'.causeModifiedFunctions = data.causeModifiedFunctions := by
  obtain ⟨info,hinfo,h⟩ := bind_eq_ok_iff.mp h
  obtain ⟨⟨fixed,goesOn⟩,hfixed,h⟩ := bind_eq_ok_iff.mp h
  have hsame := SyzbotPopulator.sameCommits_syzbotInfo hinfo
  have hpopulated := SyzbotPopulator.fixPopulated hfixed
  obtain ⟨cmt,rest,hfix,hlink⟩ := hunlinked
  have hnone : (S.populator found).mirrored? cmt = none := by
    refine SyzbotPopulator.mirrored?_of_none ?_
    unfold SyzbotPopulator.linkAndHash
    cases hcmt : cmt.link with
    | none => rfl
    | some link =>
      rw [hcmt] at hlink
      cases cmt.hashValue with
      | none => rfl
      | some hash => exact if_pos (.inl hlink)
  have hstops : goesOn = false := by
    rw [Bool.eq_false_iff]
    intro hgoesOn
    rw [hpopulated.goesOn,hsame.goesOn] at hgoesOn
    have hsome := hgoesOn cmt rest hfix
    rw [hnone] at hsome
    cases hsome
  subst hstops
  cases h
  exact ⟨hpopulated.causeCommitDate.trans hsame.causeCommitDate,
    hpopulated.causeModifiedFunctions.trans hsame.causeModifiedFunctions⟩

/-! ## The filter and the insertions -/

lemma accepted_iff : S.Accepted data ↔
    ∃ data', S.populateBatch [data] = .ok [data'] ∧ hasUsableReproducer data' = .ok true := by
  unfold Accepted
  rw [← single_ok_iff]
  constructor
  · rintro ⟨⟨data',hsingle⟩,hreproducer⟩
    obtain ⟨found,-,hcomplete⟩ := populateBatch_single.mp hsingle
    exact ⟨data',hsingle,(SyzbotPopulator.filter_passes_iff hcomplete).mpr
      ⟨hreproducer.crash,hreproducer.parent⟩⟩
  · rintro ⟨data',hsingle,husable⟩
    obtain ⟨found,-,hcomplete⟩ := populateBatch_single.mp hsingle
    have hreproducer := (SyzbotPopulator.filter_passes_iff hcomplete).mp husable
    exact ⟨⟨data',hsingle⟩,hreproducer.crash,hreproducer.parent⟩

/-- What is kept, where the filter raises at none. -/
lemma keepUsable_ok_iff {kept : List SyzbotData} (h : DataPipeline.keepUsable batch = .ok kept) :
    ∀ data ∈ batch, ∃ usable, hasUsableReproducer data = .ok usable := by
  induction batch generalizing kept with
  | nil => exact fun data hdata => absurd hdata List.not_mem_nil
  | cons first batch ih =>
    rw [DataPipeline.keepUsable] at h
    split at h
    · cases h
    · rename_i usable husable
      cases hrest : DataPipeline.keepUsable batch with
      | error e =>
        rw [hrest] at h
        cases h
      | ok kept' =>
        intro data hdata
        obtain rfl | hdata := List.mem_cons.mp hdata
        · exact ⟨usable,husable⟩
        · exact ih hrest data hdata

section Insertions
variable {tables : CrawlTables} {times : String → ℤ → DateTime × DateTime} {call : CrawlInsert}

lemma entry_ok_iff {α : Type} {d : OrderedMap String α} {key : String} {value : α} :
    CrawlTables.entry d key = .ok value ↔ d.value? key = some value := by
  unfold CrawlTables.entry
  cases d.value? key with
  | none => exact ⟨nofun,nofun⟩
  | some value' =>
    constructor
    · intro h
      rw [Except.ok.inj h]
    · intro h
      rw [Option.some.inj h]

lemma insertCall_bug (h : tables.insertCall times data = .ok call) :
    ∃ subsystems, call.bug = { data with subsystems := some subsystems } := by
  obtain ⟨extid,-,h⟩ := bind_eq_ok_iff.mp h
  obtain ⟨subsystems,-,h⟩ := bind_eq_ok_iff.mp h
  obtain ⟨reported,-,h⟩ := bind_eq_ok_iff.mp h
  cases h
  exact ⟨subsystems,rfl⟩

/-- An insertion is made, and not refused, exactly for a listed bug. -/
lemma listed_iff : Listed tables data ↔
    ∃ call, tables.insertCall times data = .ok call ∧ call.syzbotBug.isSome = true := by
  constructor
  · rintro ⟨hstatus,extid,hextid,hsubsystems,hreported⟩
    obtain ⟨subsystems,hsubsystems⟩ := Option.isSome_iff_exists.mp hsubsystems
    obtain ⟨reported,hreported⟩ := Option.isSome_iff_exists.mp hreported
    refine ⟨⟨{ data with subsystems := some subsystems },extid,(times extid reported).1,
      (times extid reported).2⟩,?_,?_⟩
    · exact bind_eq_ok_iff.mpr ⟨extid,entry_ok_iff.mpr hextid,bind_eq_ok_iff.mpr
        ⟨subsystems,entry_ok_iff.mpr hsubsystems,bind_eq_ok_iff.mpr
          ⟨reported,entry_ok_iff.mpr hreported,rfl⟩⟩⟩
    · rw [CrawlInsert.syzbotBug,Option.isSome_map]
      exact hstatus
  · rintro ⟨call,hcall,hsome⟩
    obtain ⟨extid,hextid,h⟩ := bind_eq_ok_iff.mp hcall
    obtain ⟨subsystems,hsubsystems,h⟩ := bind_eq_ok_iff.mp h
    obtain ⟨reported,hreported,h⟩ := bind_eq_ok_iff.mp h
    cases h
    rw [CrawlInsert.syzbotBug,Option.isSome_map] at hsome
    exact ⟨hsome,extid,entry_ok_iff.mp hextid,
      Option.isSome_iff_exists.mpr ⟨_,entry_ok_iff.mp hsubsystems⟩,
      Option.isSome_iff_exists.mpr ⟨_,entry_ok_iff.mp hreported⟩⟩

/-- The row of a bug that was inserted has the record of an insertion for it. -/
lemma row_of_calls {calls : List CrawlInsert} {bugId : String} (bugs : BugTable)
    (hall : ∀ call ∈ calls, call.syzbotBug.isSome = true)
    (hex : ∃ call ∈ calls, call.bug.bugId = bugId) :
    ∃ row, (calls.foldl crawlInsert bugs).get? bugId = some row ∧
      ∃ call ∈ calls, call.bug.bugId = bugId ∧ row.syzbotData = call.bug := by
  induction calls using List.reverseRecOn with
  | nil =>
    obtain ⟨call,hcall,-⟩ := hex
    cases hcall
  | append_singleton calls last ih =>
    rw [List.foldl_append]
    change ∃ row, (crawlInsert (calls.foldl crawlInsert bugs) last).get? bugId = some row ∧ _
    by_cases hid : last.bug.bugId = bugId
    · have hlast := List.mem_append_right calls (List.mem_singleton_self last)
      obtain ⟨bug,hbug⟩ := Option.isSome_iff_exists.mp (hall last hlast)
      have hstored : bug.bugId = last.bug.bugId ∧ bug.row.syzbotData = last.bug := by
        obtain ⟨status,-,rfl⟩ := Option.map_eq_some_iff.mp hbug
        exact ⟨rfl,rfl⟩
      have hrow := get?_insertSyzbotBug (calls.foldl crawlInsert bugs) bug bugId
      rw [if_pos (hstored.1.trans hid)] at hrow
      refine ⟨_,by rw [crawlInsert,hbug]; exact hrow,last,hlast,hid,?_⟩
      cases (calls.foldl crawlInsert bugs).get? bugId with
      | none => exact hstored.2
      | some old => exact hstored.2
    · have hreaches : last.reaches bugId = false := by simp [CrawlInsert.reaches,hid]
      rw [get?_crawlInsert_of_not_reaches hreaches]
      have hbefore : ∃ call ∈ calls, call.bug.bugId = bugId := by
        obtain ⟨call,hcall,hcallId⟩ := hex
        obtain hcall | hcall := List.mem_append.mp hcall
        · exact ⟨call,hcall,hcallId⟩
        · rw [List.mem_singleton.mp hcall] at hcallId
          exact absurd hcallId hid
      obtain ⟨row,hrow,call,hcall,hcallId,hdata⟩ :=
        ih (fun call hcall => hall call (List.mem_append_left _ hcall)) hbefore
      exact ⟨row,hrow,call,List.mem_append_left _ hcall,hcallId,hdata⟩

lemma listed_congr (h : SyzbotPopulator.SameBug data data') :
    Listed tables data' ↔ Listed tables data := by
  unfold Listed
  rw [h.1,h.2]

/-- What is stored, where nothing raises. -/
lemma populateAndInsert_eq_ok_iff {bugs bugs' : BugTable} :
    S.populateAndInsert tables times batch bugs = .ok bugs' ↔
      ∃ populated kept calls, S.populateBatch batch = .ok populated ∧
        DataPipeline.keepUsable populated = .ok kept ∧
        kept.mapM (tables.insertCall times) = .ok calls ∧
        (∀ call ∈ calls, call.syzbotBug.isSome = true) ∧ calls.foldl crawlInsert bugs = bugs' := by
  unfold populateAndInsert
  simp only [bind_eq_ok_iff]
  refine exists_congr fun populated => ?_
  constructor
  · rintro ⟨hpopulated,kept,hkept,calls,hcalls,h⟩
    by_cases hrefused : calls.any (fun c => c.syzbotBug.isNone) = true
    · rw [if_pos hrefused] at h
      cases h
    · rw [if_neg hrefused] at h
      simp only [List.any_eq_true,not_exists,not_and,Bool.not_eq_true,Option.isNone_eq_false_iff]
        at hrefused
      exact ⟨kept,calls,hpopulated,hkept,hcalls,hrefused,Except.ok.inj h⟩
  · rintro ⟨kept,calls,hpopulated,hkept,hcalls,hall,rfl⟩
    refine ⟨hpopulated,kept,hkept,calls,hcalls,?_⟩
    rw [if_neg]
    · rfl
    · intro hrefused
      obtain ⟨call,hcall,hnone⟩ := List.any_eq_true.mp hrefused
      have hsome := hall call hcall
      rw [Option.isNone_iff_eq_none.mp hnone] at hsome
      cases hsome

end Insertions

/-! ## Where it is so -/

section Main
variable {tables : CrawlTables} {times : String → ℤ → DateTime × DateTime} {bugs : BugTable}

lemma sameBug_complete (h : S.complete found data = .ok data') :
    SyzbotPopulator.SameBug data data' := by
  obtain ⟨info,hinfo,h⟩ := bind_eq_ok_iff.mp h
  exact (SyzbotPopulator.sameBug_syzbotInfo hinfo).trans (SyzbotPopulator.sameBug_commits h)

/-- The batch gives each bug what it gives alone, where it gives anything. -/
lemma same_of_together (h : (∀ data ∈ batch, S.Sound [data] data ∧ S.Sound batch data) ∨
    (∀ data ∈ batch, ¬S.Sound [data] data) ∧ ∃ data ∈ batch, ¬S.Sound batch data) :
    match S.populateBatch batch with
    | .ok batch' => List.Forall₂ (fun data data' => S.populateBatch [data] = .ok [data']) batch
      batch'
    | .error _ => ∀ data ∈ batch, ∃ e, S.populateBatch [data] = .error e := by
  cases hbatch : S.populateBatch batch with
  | ok batch' =>
    have hsound := populateBatch_ok_iff.mp ⟨batch',hbatch⟩
    obtain ⟨found,-,hall⟩ := populateBatch_eq_ok_iff.mp hbatch
    have hsingle : ∀ data ∈ batch, ∃ data', S.populateBatch [data] = .ok [data'] := by
      intro data hdata
      obtain hboth | ⟨-,other,hother,hnot⟩ := h
      · exact single_ok_iff.mpr (hboth data hdata).1
      · exact absurd (hsound other hother) hnot
    refine ((List.forall₂_and_left _ _).mpr ⟨hsingle,mapM_eq_ok_iff.mp hall⟩).imp ?_
    rintro data data' ⟨⟨data₁,hone⟩,hcomplete⟩
    rwa [single_unique hcomplete hone]
  | error e =>
    obtain hboth | ⟨hnone,-⟩ := h
    · obtain ⟨batch',hok⟩ := populateBatch_ok_iff.mpr fun data hdata => (hboth data hdata).2
      rw [hbatch] at hok
      cases hok
    · intro data hdata
      cases hone : S.populateBatch [data] with
      | error e' => exact ⟨e',rfl⟩
      | ok single =>
        have hsound := populateBatch_ok_iff.mp ⟨single,hone⟩
        exact absurd (hsound data (List.mem_singleton_self data)) (hnone data hdata)

lemma together_of_isolated (h : S.Isolated tables times batch bugs) :
    (∀ data ∈ batch, S.Sound [data] data ∧ S.Sound batch data) ∨
      (∀ data ∈ batch, ¬S.Sound [data] data) ∧ ∃ data ∈ batch, ¬S.Sound batch data := by
  have hsame := h.same
  cases hbatch : S.populateBatch batch with
  | ok batch' =>
    rw [hbatch] at hsame
    refine .inl fun data hdata => ?_
    obtain ⟨data',-,hone⟩ := exists_right_of_forall₂ hsame hdata
    exact ⟨single_ok_iff.mp ⟨data',hone⟩,populateBatch_ok_iff.mp ⟨batch',hbatch⟩ data hdata⟩
  | error e =>
    rw [hbatch] at hsame
    refine .inr ⟨fun data hdata hsound => ?_,?_⟩
    · obtain ⟨e',hone⟩ := hsame data hdata
      obtain ⟨data',hok⟩ := single_ok_iff.mpr hsound
      rw [hone] at hok
      cases hok
    · by_contra hall
      push Not at hall
      obtain ⟨batch',hok⟩ := populateBatch_ok_iff.mpr hall
      rw [hbatch] at hok
      cases hok

lemma filtered_of_isolated (h : S.Isolated tables times batch bugs)
    (haccepted : ∃ data ∈ batch, S.Accepted data) :
    ∀ data ∈ batch, ¬NoConfig data ∧ (S.Accepted data → Listed tables data) := by
  obtain ⟨first,hfirst,hone⟩ := haccepted
  obtain ⟨first',hsingle,husable⟩ := accepted_iff.mp hone
  obtain ⟨bugs',hinserted,-⟩ := h.stored first hfirst first' hsingle husable
  obtain ⟨populated,kept,calls,hpopulated,hkept,hcalls,hall,-⟩ :=
    populateAndInsert_eq_ok_iff.mp hinserted
  obtain ⟨found,-,hcompleted⟩ := populateBatch_eq_ok_iff.mp hpopulated
  have hfilter := keepUsable_ok_iff hkept
  obtain ⟨kept',hkept',hmem⟩ := DataPipeline.keepUsable_ok hfilter
  obtain rfl : kept = kept' := Except.ok.inj (hkept.symm.trans hkept')
  intro data hdata
  obtain ⟨data',hdata',hcomplete⟩ :=
    exists_right_of_forall₂ (mapM_eq_ok_iff.mp hcompleted) hdata
  refine ⟨fun hnoConfig => ?_,fun haccepted => ?_⟩
  · obtain ⟨usable,hok⟩ := hfilter data' hdata'
    obtain ⟨e,herror⟩ := (SyzbotPopulator.filter_raises_iff hcomplete).mpr hnoConfig
    rw [hok] at herror
    cases herror
  · obtain ⟨data₁,hsingle,husable⟩ := accepted_iff.mp haccepted
    obtain rfl := single_unique hcomplete hsingle
    obtain ⟨call,hcall,hok⟩ := exists_right_of_forall₂ (mapM_eq_ok_iff.mp hcalls)
      ((hmem data').mpr ⟨hdata',husable⟩)
    exact (listed_congr (sameBug_complete hcomplete)).mp (listed_iff.mpr ⟨call,hok,hall call hcall⟩)

/-- Where a bug is accepted, all that pass the filter are inserted. -/
lemma inserts_of_untroubled (times : String → ℤ → DateTime × DateTime)
    (h : S.Untroubled tables batch) (hdata : data ∈ batch)
    (hsingle : S.populateBatch [data] = .ok [data'])
    (husable : hasUsableReproducer data' = .ok true) :
    ∃ populated kept calls, S.populateBatch batch = .ok populated ∧
      DataPipeline.keepUsable populated = .ok kept ∧
      (∀ other, other ∈ kept ↔ other ∈ populated ∧ hasUsableReproducer other = .ok true) ∧
      kept.mapM (tables.insertCall times) = .ok calls ∧
      ∀ call ∈ calls, call.syzbotBug.isSome = true := by
  have hfiltered := h.filtered ⟨data,hdata,accepted_iff.mpr ⟨data',hsingle,husable⟩⟩
  obtain ⟨populated,hpopulated⟩ : ∃ populated, S.populateBatch batch = .ok populated := by
    obtain hboth | ⟨hnone,-⟩ := h.together
    · exact populateBatch_ok_iff.mpr fun other hother => (hboth other hother).2
    · exact absurd (single_ok_iff.mp ⟨data',hsingle⟩) (hnone data hdata)
  have hsame := same_of_together h.together
  rw [hpopulated] at hsame
  obtain ⟨found,-,hcompleted⟩ := populateBatch_eq_ok_iff.mp hpopulated
  have hfilter : ∀ other' ∈ populated, ∃ usable, hasUsableReproducer other' = .ok usable := by
    intro other' hother'
    obtain ⟨other,hother,hcomplete⟩ := exists_left_of_forall₂ (mapM_eq_ok_iff.mp hcompleted) hother'
    cases hone : hasUsableReproducer other' with
    | ok usable => exact ⟨usable,rfl⟩
    | error e =>
      exact absurd ((SyzbotPopulator.filter_raises_iff hcomplete).mp ⟨e,hone⟩)
        (hfiltered other hother).1
  obtain ⟨kept,hkept,hmem⟩ := DataPipeline.keepUsable_ok hfilter
  -- each bug that is kept is accepted, and so listed
  have hcall : ∀ other' ∈ kept, ∃ call, tables.insertCall times other' = .ok call ∧
      call.syzbotBug.isSome = true := by
    intro other' hother'
    obtain ⟨hin,husable'⟩ := (hmem other').mp hother'
    obtain ⟨other,hother,hone⟩ := exists_left_of_forall₂ hsame hin
    obtain ⟨found',-,hcomplete⟩ := populateBatch_single.mp hone
    have hlisted := (hfiltered other hother).2 (accepted_iff.mpr ⟨other',hone,husable'⟩)
    exact listed_iff.mp ((listed_congr (sameBug_complete hcomplete)).mpr hlisted)
  obtain ⟨calls,hcalls,-,hall⟩ := exists_mapM_ok hcall
  exact ⟨populated,kept,calls,hpopulated,hkept,hmem,hcalls,hall⟩

/-- Every accepted bug of a batch that completes is stored. -/
lemma stored_of_untroubled (h : S.Untroubled tables batch) (hdata : data ∈ batch)
    (hsingle : S.populateBatch [data] = .ok [data'])
    (husable : hasUsableReproducer data' = .ok true) :
    ∃ bugs', S.populateAndInsert tables times batch bugs = .ok bugs' ∧
      ∃ row, bugs'.get? data.bugId = some row ∧ ∃ other ∈ batch, ∃ other' subsystems,
        S.populateBatch [other] = .ok [other'] ∧ other.bugId = data.bugId ∧
          row.syzbotData = { other' with subsystems := some subsystems } := by
  obtain ⟨populated,kept,calls,hpopulated,hkept,hmem,hcalls,hall⟩ :=
    inserts_of_untroubled times h hdata hsingle husable
  have hsame := same_of_together h.together
  rw [hpopulated] at hsame
  refine ⟨_,populateAndInsert_eq_ok_iff.mpr ⟨populated,kept,calls,hpopulated,hkept,hcalls,hall,rfl⟩,
    ?_⟩
  have hcalls := mapM_eq_ok_iff.mp hcalls
  have hkeptData : data' ∈ kept := by
    obtain ⟨data₁,hdata₁,hone⟩ := exists_right_of_forall₂ hsame hdata
    rw [hsingle] at hone
    cases hone
    exact (hmem data').mpr ⟨hdata₁,husable⟩
  obtain ⟨foundAlone,-,hcompleteAlone⟩ := populateBatch_single.mp hsingle
  have hex : ∃ call ∈ calls, call.bug.bugId = data.bugId := by
    obtain ⟨call,hmemCall,hok⟩ := exists_right_of_forall₂ hcalls hkeptData
    obtain ⟨subsystems,hbug⟩ := insertCall_bug hok
    refine ⟨call,hmemCall,?_⟩
    rw [hbug]
    exact (sameBug_complete hcompleteAlone).1
  obtain ⟨row,hrow,call,hmemCall,hid,hrowData⟩ := row_of_calls bugs hall hex
  obtain ⟨other',hother',hok⟩ := exists_left_of_forall₂ hcalls hmemCall
  obtain ⟨subsystems,hbug⟩ := insertCall_bug hok
  obtain ⟨other,hother,hone⟩ := exists_left_of_forall₂ hsame ((hmem other').mp hother').1
  obtain ⟨found',-,hcomplete⟩ := populateBatch_single.mp hone
  refine ⟨row,hrow,other,hother,other',subsystems,hone,?_,hrowData.trans hbug⟩
  rw [hbug] at hid
  exact (sameBug_complete hcomplete).1.symm.trans hid

/-- The bugs of a batch are isolated exactly if none of them troubles it. -/
theorem isolated_iff_untroubled :
    S.Isolated tables times batch bugs ↔ S.Untroubled tables batch := by
  constructor
  · intro h
    refine ⟨together_of_isolated h,fun data hdata hsound hunlinked hash hfinds => ?_,
      filtered_of_isolated h⟩
    obtain ⟨data',hsingle⟩ := single_ok_iff.mpr hsound
    obtain ⟨found,-,hcomplete⟩ := populateBatch_single.mp hsingle
    obtain ⟨hdate,hfunctions⟩ := cause_of_unlinked hunlinked hcomplete
    obtain ⟨hcauseDate,files,hfiles,hcause⟩ :=
      h.cause data hdata data' hsingle hunlinked hash hfinds
    exact ⟨hdate.symm.trans hcauseDate,files,hfiles,hfunctions.symm.trans hcause⟩
  · intro h
    refine ⟨same_of_together h.together,fun data hdata data' hsingle hunlinked hash hfinds => ?_,
      fun data hdata data' hsingle husable => stored_of_untroubled h hdata hsingle husable⟩
    obtain ⟨found,-,hcomplete⟩ := populateBatch_single.mp hsingle
    obtain ⟨hdate,hfunctions⟩ := cause_of_unlinked hunlinked hcomplete
    obtain ⟨hcauseDate,files,hfiles,hcause⟩ :=
      h.causes data hdata (single_ok_iff.mp ⟨data',hsingle⟩) hunlinked hash hfinds
    exact ⟨hdate.trans hcauseDate,files,hfiles,hfunctions.trans hcause⟩

end Main

/-- A repository that is mirrored and that cannot fetch anything. -/
def noCommits : BatchSources where
  getText _ := .error (.exception "ConnectionError" "")
  repositoryMap _ := some "linux"
  traverse _ _ := .ok []
  commit _ := ⟨[],"","",.ok []⟩
  diff _ _ _ := .ok ""

/-- A bug whose fix is not in the repository. -/
def unknownFix : SyzbotData :=
  { openBug with
    bugId := "b2"
    status := "fixed"
    fixCommits := [⟨"slub: fix",some "https://git.kernel.org/linux/commit/?id=c1",some "c1",none,
      none,[]⟩] }

/-- One fix that could not be fetched, and nothing is returned for the other bug. -/
theorem populateBatch_not_isolated : ¬∀ (S : BatchSources) (tables : CrawlTables)
    (times : String → ℤ → DateTime × DateTime) (batch : List SyzbotData) (bugs : BugTable),
    S.Isolated tables times batch bugs := by
  intro h
  have hsame := (h noCommits ⟨.empty,.empty,.empty⟩
    (fun _ _ => (KArenaWeb.endOfJanuary,KArenaWeb.midJanuary)) [openBug,unknownFix] .empty).same
  have hbatch : (noCommits.populateBatch [openBug,unknownFix]).toOption.isSome = false := by
    decide +kernel
  have hsingle : (noCommits.populateBatch [openBug]).toOption.isSome = true := by
    decide +kernel
  cases hresult : noCommits.populateBatch [openBug,unknownFix] with
  | ok batch' =>
    rw [hresult] at hbatch
    cases hbatch
  | error e =>
    rw [hresult] at hsame
    obtain ⟨e',hone⟩ := hsame openBug List.mem_cons_self
    rw [hone] at hsingle
    cases hsingle

end BatchSources

end LiveKBench.KArenaPipeline
