import LiveKBench.KArenaDb.Bugs
import LiveKBench.KArenaPipeline.SyzbotPopulator

/-! One record of a batch: what it needs to be populated, and what the filter says of it then. -/
namespace LiveKBench.KArenaPipeline
open KArenaDb (hasUsableReproducer)
open KClient (SyzbotData SyzbotGitCommit)
open Lib

namespace SyzbotPopulator
variable (p : SyzbotPopulator)

/-- The text of the link is there, or the site has its page. -/
def Readable (link text : Option String) : Prop :=
  ∀ path, link = some path → path ≠ "" → isFalsy text = true →
    ∃ page, p.getText (SyzbotDriver.syzbotUrl ++ path) = .ok page

/-- The text is there, or it is the page of the link. -/
def Reads (link text : Option String) (page : String) : Prop :=
  (text = some page ∧ (page ≠ "" ∨ link.getD "" = "")) ∨
    (isFalsy text = true ∧ ∃ path, link = some path ∧ path ≠ "" ∧
      p.getText (SyzbotDriver.syzbotUrl ++ path) = .ok page)

def LinkParses (cmt : SyzbotGitCommit) : Prop :=
  ∀ link hash, linkAndHash cmt = some (link,hash) → ∃ gitUrl, parseUrl link = .ok gitUrl

/-- The url and the local path of the repository of a commit, where it is mirrored, and the hash. -/
def mirrored? (cmt : SyzbotGitCommit) : Option (String × String × String) := do
  let (link,hash) ← linkAndHash cmt
  let gitUrl ← (parseUrl link).toOption
  let repository ← p.repositoryMap gitUrl
  return (gitUrl,repository,hash)

/-- The commits that the first loop comes to. -/
def examined (data : SyzbotData) : List SyzbotGitCommit :=
  match data.fixCommits with
  | [] => data.causeCommit.toList
  | cmt :: _ => if (linkAndHash cmt).isSome then cmt :: data.causeCommit.toList else []

/-- The repositories and the hashes of those that are mirrored. -/
def named (data : SyzbotData) : List (String × String) :=
  (examined data).filterMap fun cmt => (p.mirrored? cmt).map fun known => (known.1,known.2.2)

/-- The last loop goes on to the cause. -/
def GoesOn (data : SyzbotData) : Prop :=
  ∀ cmt rest, data.fixCommits = cmt :: rest → (p.mirrored? cmt).isSome = true

/-- What a record needs: its pages; of its commits links that parse; and of those whose repository
is mirrored the commit with its files, and for the fix a parent and a diff that is text. -/
structure Completable (data : SyzbotData) : Prop where
  pages : ∀ crash rest, data.crashes = crash :: rest →
    p.Readable (some crash.kernelConfigLink) crash.kernelConfig ∧
      p.Readable crash.cReproducerLink crash.cReproducer ∧
      p.Readable crash.syzReproducerLink crash.syzReproducer ∧
      p.Readable crash.crashReportLink data.rawCrashReport
  links : ∀ cmt ∈ examined data, LinkParses cmt
  fix : ∀ cmt rest, data.fixCommits = cmt :: rest → ∀ gitUrl repository hash,
    p.mirrored? cmt = some (gitUrl,repository,hash) → ∃ commit, p.commit gitUrl hash = some commit ∧
      (∃ parent, (commit.parents.head? <|> data.parentOfFixCommit) = some parent ∧
        ∃ patch, p.diff repository parent hash = .ok patch) ∧
      ∃ files, commit.modifiedFiles = .ok files
  cause : p.GoesOn data → ∀ cmt, data.causeCommit = some cmt → ∀ gitUrl repository hash,
    p.mirrored? cmt = some (gitUrl,repository,hash) → ∃ commit, p.commit gitUrl hash = some commit ∧
      ∃ files, commit.modifiedFiles = .ok files

/-- The first crash has a reproducer, and neither a kernel config nor a link to one. -/
def NoConfig (data : SyzbotData) : Prop :=
  ∃ crash rest, data.crashes = crash :: rest ∧ crash.kernelConfigLink = "" ∧
    crash.kernelConfig = none ∧ (crash.syzReproducer ≠ none ∨ crash.syzReproducerLink.getD "" ≠ "")

/-- The first crash has a reproducer and a config for x86_64, and a fixed bug has the parent of its
fix, or a repository that has it. -/
structure HasReproducer (data : SyzbotData) : Prop where
  crash : ∃ crash rest, data.crashes = crash :: rest ∧
    (crash.syzReproducer ≠ none ∨ crash.syzReproducerLink.getD "" ≠ "") ∧
    ∃ config, p.Reads (some crash.kernelConfigLink) crash.kernelConfig config ∧
      "Linux/x86_64".toList <:+: config.toList
  parent : data.status = "fixed" → data.parentOfFixCommit = none →
    ∃ cmt rest, data.fixCommits = cmt :: rest ∧ (p.mirrored? cmt).isSome = true

section Record
variable {p : SyzbotPopulator} {data data' : SyzbotData}

/-! ## The pages -/

lemma fillText_ok_iff {link text : Option String} :
    (∃ filled, p.fillText link text = .ok filled) ↔ p.Readable link text := by
  unfold fillText Readable
  cases link with
  | none => exact ⟨fun _ _ => nofun,fun _ => ⟨text,rfl⟩⟩
  | some path =>
    by_cases hmissing : path ≠ "" ∧ isFalsy text = true
    · simp only [if_pos hmissing]
      constructor
      · rintro ⟨filled,hfilled⟩ _ ⟨⟩ - -
        cases hpage : p.getText (SyzbotDriver.syzbotUrl ++ path) with
        | ok page => exact ⟨page,rfl⟩
        | error e =>
          rw [hpage] at hfilled
          cases hfilled
      · intro hreadable
        obtain ⟨page,hpage⟩ := hreadable path rfl hmissing.1 hmissing.2
        exact ⟨some page,by rw [hpage]; rfl⟩
    · simp only [if_neg hmissing]
      constructor
      · rintro - _ ⟨⟩ hpath htext
        exact absurd ⟨hpath,htext⟩ hmissing
      · exact fun _ => ⟨text,rfl⟩

lemma filled_eq_none_iff {link text filled : Option String}
    (h : p.fillText link text = .ok filled) : filled = none ↔ text = none ∧ link.getD "" = "" := by
  unfold fillText at h
  cases link with
  | none =>
    cases h
    exact (and_iff_left rfl).symm
  | some path =>
    by_cases hmissing : path ≠ "" ∧ isFalsy text = true
    · simp only [if_pos hmissing] at h
      refine iff_of_false (fun hnone => ?_) fun hempty => hmissing.1 hempty.2
      cases hpage : p.getText (SyzbotDriver.syzbotUrl ++ path) with
      | ok page =>
        rw [hpage] at h
        cases h
        cases hnone
      | error e =>
        rw [hpage] at h
        cases h
    · simp only [if_neg hmissing] at h
      cases h
      refine (and_iff_left_of_imp fun hnone => ?_).symm
      rw [hnone] at hmissing
      by_contra hpath
      exact hmissing ⟨hpath,rfl⟩

lemma fillText_eq_some_iff {link text : Option String} {page : String} :
    p.fillText link text = .ok (some page) ↔ p.Reads link text page := by
  unfold fillText Reads
  cases link with
  | none =>
    constructor
    · intro h
      exact .inl ⟨Except.ok.inj h,.inr rfl⟩
    · intro h
      obtain ⟨htext,-⟩ | ⟨-,path,hpath,-⟩ := h
      · rw [htext]
      · cases hpath
  | some path =>
    by_cases hmissing : path ≠ "" ∧ isFalsy text = true
    · simp only [if_pos hmissing]
      constructor
      · intro h
        cases hpage : p.getText (SyzbotDriver.syzbotUrl ++ path) with
        | ok page' =>
          rw [hpage] at h
          cases h
          exact .inr ⟨hmissing.2,path,rfl,hmissing.1,hpage⟩
        | error e =>
          rw [hpage] at h
          cases h
      · intro h
        obtain ⟨htext,hpage | hlink⟩ | ⟨-,_,⟨⟩,-,hpage⟩ := h
        · have hfalsy := hmissing.2
          rw [htext] at hfalsy
          exact absurd (by simpa [isFalsy] using hfalsy) hpage
        · exact absurd hlink hmissing.1
        · rw [hpage]
          rfl
    · simp only [if_neg hmissing]
      constructor
      · intro h
        have htext := Except.ok.inj h
        refine .inl ⟨htext,?_⟩
        by_contra hnot
        rw [not_or,not_not] at hnot
        exact hmissing ⟨hnot.2,by rw [htext,hnot.1]; rfl⟩
      · intro h
        obtain ⟨htext,-⟩ | ⟨hfalsy,_,⟨⟩,hpath,-⟩ := h
        · rw [htext]
        · exact absurd ⟨hpath,hfalsy⟩ hmissing

lemma syzbotInfo_ok_iff : (∃ info, p.populateSyzbotInfo data = .ok info) ↔
    ∀ crash rest, data.crashes = crash :: rest →
      p.Readable (some crash.kernelConfigLink) crash.kernelConfig ∧
        p.Readable crash.cReproducerLink crash.cReproducer ∧
        p.Readable crash.syzReproducerLink crash.syzReproducer ∧
        p.Readable crash.crashReportLink data.rawCrashReport := by
  simp only [← fillText_ok_iff]
  unfold populateSyzbotInfo
  cases hcrashes : data.crashes with
  | nil => exact ⟨fun _ _ _ => nofun,fun _ => ⟨data,rfl⟩⟩
  | cons crash rest =>
    constructor
    · rintro ⟨info,h⟩ _ _ ⟨⟩
      obtain ⟨kernelConfig,hconfig,h⟩ := bind_eq_ok_iff.mp h
      obtain ⟨cReproducer,hc,h⟩ := bind_eq_ok_iff.mp h
      obtain ⟨syzReproducer,hsyz,h⟩ := bind_eq_ok_iff.mp h
      obtain ⟨rawCrashReport,hreport,-⟩ := bind_eq_ok_iff.mp h
      exact ⟨⟨_,hconfig⟩,⟨_,hc⟩,⟨_,hsyz⟩,⟨_,hreport⟩⟩
    · intro h
      obtain ⟨⟨kernelConfig,hconfig⟩,⟨cReproducer,hc⟩,⟨syzReproducer,hsyz⟩,rawCrashReport,hreport⟩ :=
        h crash rest rfl
      simp only [hconfig,hc,hsyz,hreport]
      exact ⟨_,rfl⟩

/-- The pages leave the commits of the record. -/
structure SameCommits (data data' : SyzbotData) : Prop where
  fixCommits : data'.fixCommits = data.fixCommits
  causeCommit : data'.causeCommit = data.causeCommit
  parentOfFixCommit : data'.parentOfFixCommit = data.parentOfFixCommit
  causeCommitDate : data'.causeCommitDate = data.causeCommitDate
  causeModifiedFunctions : data'.causeModifiedFunctions = data.causeModifiedFunctions

lemma sameCommits_syzbotInfo (h : p.populateSyzbotInfo data = .ok data') :
    SameCommits data data' := by
  unfold populateSyzbotInfo at h
  split at h
  · cases h
    exact ⟨rfl,rfl,rfl,rfl,rfl⟩
  · obtain ⟨kernelConfig,-,h⟩ := bind_eq_ok_iff.mp h
    obtain ⟨cReproducer,-,h⟩ := bind_eq_ok_iff.mp h
    obtain ⟨syzReproducer,-,h⟩ := bind_eq_ok_iff.mp h
    obtain ⟨rawCrashReport,-,h⟩ := bind_eq_ok_iff.mp h
    cases h
    exact ⟨rfl,rfl,rfl,rfl,rfl⟩

lemma SameCommits.commitsToLoad (h : SameCommits data data') :
    p.commitsToLoad data' = p.commitsToLoad data := by
  unfold SyzbotPopulator.commitsToLoad causeToLoad
  rw [h.fixCommits,h.causeCommit]

lemma SameCommits.goesOn (h : SameCommits data data') : p.GoesOn data' ↔ p.GoesOn data := by
  unfold GoesOn
  rw [h.fixCommits]

/-! ## The commits -/

section Commit
variable {cmt : SyzbotGitCommit} {known : Option (String × String × GitCommit)}

lemma linkParses_of_none (h : linkAndHash cmt = none) : LinkParses cmt := by
  intro link hash hcmt
  rw [h] at hcmt
  cases hcmt

lemma mirrored?_of_none (h : linkAndHash cmt = none) : p.mirrored? cmt = none := by
  unfold mirrored?
  rw [h]
  rfl

lemma mirrored?_of_link {link hash gitUrl : String} (h : linkAndHash cmt = some (link,hash))
    (hurl : parseUrl link = .ok gitUrl) : p.mirrored? cmt =
      (p.repositoryMap gitUrl).map fun repository => (gitUrl,repository,hash) := by
  unfold mirrored?
  rw [h]
  simp only [Option.bind_eq_bind,Option.bind_some,hurl,Except.toOption]
  cases p.repositoryMap gitUrl <;> rfl

lemma linkParses_of_lookup (h : p.lookup cmt = .ok known) : LinkParses cmt := by
  intro link hash hcmt
  unfold lookup at h
  rw [hcmt] at h
  obtain ⟨gitUrl,hurl,-⟩ := bind_eq_ok_iff.mp h
  exact ⟨gitUrl,hurl⟩

/-- What the last loop has of a commit whose link parses. -/
lemma lookup_eq (h : LinkParses cmt) : p.lookup cmt =
    match p.mirrored? cmt with
    | none => .ok none
    | some (gitUrl,repository,hash) =>
      match p.commit gitUrl hash with
      | none => .error (.exception "KeyError" hash)
      | some commit => .ok (some (repository,hash,commit)) := by
  unfold lookup
  cases hcmt : linkAndHash cmt with
  | none => rw [mirrored?_of_none hcmt]
  | some named =>
    obtain ⟨link,hash⟩ := named
    obtain ⟨gitUrl,hurl⟩ := h link hash hcmt
    rw [mirrored?_of_link hcmt hurl]
    simp only [hurl,bind,Except.bind]
    cases p.repositoryMap gitUrl <;> rfl

lemma lookup_eq_none_iff (h : p.lookup cmt = .ok known) : known = none ↔ p.mirrored? cmt = none := by
  rw [lookup_eq (linkParses_of_lookup h)] at h
  cases hmirrored : p.mirrored? cmt with
  | none =>
    rw [hmirrored] at h
    exact iff_of_true (Except.ok.inj h).symm rfl
  | some named =>
    rw [hmirrored] at h
    cases hcommit : p.commit named.1 named.2.2 with
    | none => simp [hcommit] at h
    | some commit =>
      simp only [hcommit,Except.ok.injEq] at h
      exact iff_of_false (by rw [← h]; nofun) nofun

lemma lookup_eq_some_iff {repository hash : String} {commit : GitCommit} :
    p.lookup cmt = .ok (some (repository,hash,commit)) ↔ LinkParses cmt ∧
      ∃ gitUrl, p.mirrored? cmt = some (gitUrl,repository,hash) ∧
        p.commit gitUrl hash = some commit := by
  constructor
  · intro h
    have hlink := linkParses_of_lookup h
    refine ⟨hlink,?_⟩
    rw [lookup_eq hlink] at h
    cases hmirrored : p.mirrored? cmt with
    | none =>
      rw [hmirrored] at h
      cases h
    | some named =>
      rw [hmirrored] at h
      cases hcommit : p.commit named.1 named.2.2 with
      | none => simp [hcommit] at h
      | some found =>
        simp only [hcommit,Except.ok.injEq,Option.some.injEq,Prod.mk.injEq] at h
        obtain ⟨rfl,rfl,rfl⟩ := h
        exact ⟨named.1,rfl,hcommit⟩
  · intro ⟨hlink,gitUrl,hmirrored,hcommit⟩
    rw [lookup_eq hlink,hmirrored]
    simp [hcommit]

/-- What follows a lookup ends well exactly if the lookup does and the rest does with the commit that
is found. -/
lemma lookup_bind_ok_iff {α : Type} {f : Option (String × String × GitCommit) → Except Raised α}
    (hnone : ∃ a, f none = .ok a) : (∃ a, (p.lookup cmt >>= f) = .ok a) ↔ LinkParses cmt ∧
      ∀ gitUrl repository hash, p.mirrored? cmt = some (gitUrl,repository,hash) → ∃ commit,
        p.commit gitUrl hash = some commit ∧ ∃ a, f (some (repository,hash,commit)) = .ok a := by
  constructor
  · intro ⟨a,h⟩
    obtain ⟨known,hknown,ha⟩ := bind_eq_ok_iff.mp h
    refine ⟨linkParses_of_lookup hknown,fun gitUrl repository hash hmirrored => ?_⟩
    cases known with
    | none =>
      rw [(lookup_eq_none_iff hknown).mp rfl] at hmirrored
      cases hmirrored
    | some found =>
      obtain ⟨-,gitUrl',hmirrored',hcommit⟩ := lookup_eq_some_iff.mp hknown
      rw [hmirrored] at hmirrored'
      cases hmirrored'
      exact ⟨found.2.2,hcommit,a,ha⟩
  · intro ⟨hlink,hcommit⟩
    cases hmirrored : p.mirrored? cmt with
    | none =>
      obtain ⟨a,ha⟩ := hnone
      have hknown : p.lookup cmt = .ok none := by rw [lookup_eq hlink,hmirrored]
      exact ⟨a,bind_eq_ok_iff.mpr ⟨none,hknown,ha⟩⟩
    | some named =>
      obtain ⟨commit,hfound,a,ha⟩ := hcommit named.1 named.2.1 named.2.2 hmirrored
      exact ⟨a,bind_eq_ok_iff.mpr
        ⟨_,lookup_eq_some_iff.mpr ⟨hlink,named.1,hmirrored,hfound⟩,ha⟩⟩

/-- What the first loop asks for at a commit. -/
lemma toLoad_eq (h : LinkParses cmt) : p.toLoad cmt = .ok ((linkAndHash cmt).map fun _ =>
    ((p.mirrored? cmt).map fun known => (known.1,known.2.2)).toList) := by
  unfold toLoad
  cases hcmt : linkAndHash cmt with
  | none => rfl
  | some named =>
    obtain ⟨link,hash⟩ := named
    obtain ⟨gitUrl,hurl⟩ := h link hash hcmt
    rw [mirrored?_of_link hcmt hurl]
    simp only [hurl]
    change Except.ok (some (if (p.repositoryMap gitUrl).isSome then [(gitUrl,hash)] else [])) = _
    cases p.repositoryMap gitUrl <;> rfl

lemma linkParses_of_toLoad {asked : Option (List (String × String))} (h : p.toLoad cmt = .ok asked) :
    LinkParses cmt := by
  intro link hash hcmt
  unfold toLoad at h
  rw [hcmt] at h
  obtain ⟨gitUrl,hurl,-⟩ := bind_eq_ok_iff.mp h
  exact ⟨gitUrl,hurl⟩

end Commit

lemma causeToLoad_eq_ok_iff {asked : List (String × String)} : p.causeToLoad data = .ok asked ↔
    (∀ cmt ∈ data.causeCommit.toList, LinkParses cmt) ∧
      asked = data.causeCommit.toList.filterMap fun cmt =>
        (p.mirrored? cmt).map fun known => (known.1,known.2.2) := by
  unfold causeToLoad
  cases data.causeCommit with
  | none => simp [eq_comm]
  | some cmt =>
    have hlist : ((p.toLoad cmt).map fun asked => asked.getD []) = .ok asked ↔
        ∃ toLoad, p.toLoad cmt = .ok toLoad ∧ asked = toLoad.getD [] := by
      cases p.toLoad cmt <;> simp [Except.map,eq_comm]
    simp only [hlist,Option.toList_some,List.mem_singleton,forall_eq]
    constructor
    · rintro ⟨toLoad,htoLoad,rfl⟩
      have hlink := linkParses_of_toLoad htoLoad
      rw [toLoad_eq hlink] at htoLoad
      cases htoLoad
      refine ⟨hlink,?_⟩
      cases hcmt : linkAndHash cmt with
      | none => simp [mirrored?_of_none hcmt]
      | some named => cases hmirrored : p.mirrored? cmt <;> simp [hmirrored]
    · rintro ⟨hlink,rfl⟩
      refine ⟨_,toLoad_eq hlink,?_⟩
      cases hcmt : linkAndHash cmt with
      | none => simp [mirrored?_of_none hcmt]
      | some named => cases hmirrored : p.mirrored? cmt <;> simp [hmirrored]

/-- The first loop asks for the commits that the record names. -/
lemma commitsToLoad_eq_ok_iff {asked : List (String × String)} : p.commitsToLoad data = .ok asked ↔
    (∀ cmt ∈ examined data, LinkParses cmt) ∧ asked = p.named data := by
  unfold commitsToLoad named examined
  cases data.fixCommits with
  | nil => exact causeToLoad_eq_ok_iff
  | cons cmt rest =>
    simp only [bind_eq_ok_iff]
    constructor
    · intro ⟨toLoad,htoLoad,h⟩
      have hlink := linkParses_of_toLoad htoLoad
      rw [toLoad_eq hlink] at htoLoad
      cases hcmt : linkAndHash cmt with
      | none =>
        rw [hcmt] at htoLoad
        cases htoLoad
        cases h
        simp
      | some named =>
        rw [hcmt] at htoLoad
        cases htoLoad
        obtain ⟨cause,hcause,h⟩ := bind_eq_ok_iff.mp h
        obtain ⟨hlinks,rfl⟩ := causeToLoad_eq_ok_iff.mp hcause
        cases h
        refine ⟨?_,?_⟩
        · simpa using ⟨hlink,by simpa using hlinks⟩
        · cases hmirrored : p.mirrored? cmt <;> simp [hmirrored]
    · rintro ⟨hlinks,rfl⟩
      cases hcmt : linkAndHash cmt with
      | none =>
        refine ⟨none,?_,by simp; rfl⟩
        rw [toLoad_eq (linkParses_of_none hcmt),hcmt]
        rfl
      | some named =>
        rw [hcmt] at hlinks
        simp only [Option.isSome_some,if_true,List.mem_cons,forall_eq_or_imp] at hlinks
        refine ⟨_,toLoad_eq hlinks.1,?_⟩
        rw [hcmt]
        refine bind_eq_ok_iff.mpr ⟨_,causeToLoad_eq_ok_iff.mpr ⟨hlinks.2,rfl⟩,?_⟩
        cases hmirrored : p.mirrored? cmt <;> simp [hmirrored,pure,Except.pure]

/-- What the part about the fix needs. -/
lemma populateFix_ok_iff : (∃ fixed, p.populateFix data = .ok fixed) ↔
    ∀ cmt rest, data.fixCommits = cmt :: rest → LinkParses cmt ∧ ∀ gitUrl repository hash,
      p.mirrored? cmt = some (gitUrl,repository,hash) → ∃ commit,
        p.commit gitUrl hash = some commit ∧
        (∃ parent, (commit.parents.head? <|> data.parentOfFixCommit) = some parent ∧
          ∃ patch, p.diff repository parent hash = .ok patch) ∧
        ∃ files, commit.modifiedFiles = .ok files := by
  unfold populateFix
  cases hfix : data.fixCommits with
  | nil => exact ⟨fun _ _ _ => nofun,fun _ => ⟨_,rfl⟩⟩
  | cons cmt rest =>
    have hdiff : ∀ repository hash (parent : Option String),
        (∃ patch, p.getDiff repository parent hash = .ok patch) ↔
          ∃ known, parent = some known ∧ ∃ patch, p.diff repository known hash = .ok patch := by
      intro repository hash parent
      cases parent <;> simp [getDiff]
    refine Iff.trans (lookup_bind_ok_iff ?_) ⟨?_,?_⟩
    · exact ⟨_,rfl⟩
    · rintro ⟨hlink,h⟩ _ _ ⟨⟩
      refine ⟨hlink,fun gitUrl repository hash hmirrored => ?_⟩
      obtain ⟨commit,hcommit,fixed,h⟩ := h gitUrl repository hash hmirrored
      obtain ⟨patch,hpatch,h⟩ := bind_eq_ok_iff.mp h
      obtain ⟨files,hfiles,-⟩ := bind_eq_ok_iff.mp h
      exact ⟨commit,hcommit,(hdiff _ _ _).mp ⟨patch,hpatch⟩,files,hfiles⟩
    · intro h
      obtain ⟨hlink,hcommit⟩ := h cmt rest rfl
      refine ⟨hlink,fun gitUrl repository hash hmirrored => ?_⟩
      obtain ⟨commit,hfound,hparent,files,hfiles⟩ := hcommit _ _ _ hmirrored
      obtain ⟨patch,hpatch⟩ := (hdiff repository hash _).mpr hparent
      exact ⟨commit,hfound,_,bind_eq_ok_iff.mpr
        ⟨patch,hpatch,bind_eq_ok_iff.mpr ⟨files,hfiles,rfl⟩⟩⟩

/-- What the part about the fix leaves, and the parent that it finds. -/
structure FixPopulated (p : SyzbotPopulator) (data fixed : SyzbotData) (goesOn : Bool) : Prop where
  goesOn : goesOn = true ↔ p.GoesOn data
  crashes : fixed.crashes = data.crashes
  parent : fixed.parentOfFixCommit = none ↔ data.parentOfFixCommit = none ∧
    ∀ cmt rest, data.fixCommits = cmt :: rest → p.mirrored? cmt = none
  causeCommit : fixed.causeCommit = data.causeCommit
  causeCommitDate : fixed.causeCommitDate = data.causeCommitDate
  causeModifiedFunctions : fixed.causeModifiedFunctions = data.causeModifiedFunctions

lemma fixPopulated {fixed : SyzbotData} {goesOn : Bool}
    (h : p.populateFix data = .ok (fixed,goesOn)) : FixPopulated p data fixed goesOn := by
  unfold populateFix at h
  split at h
  · rename_i hfix
    cases h
    refine ⟨iff_of_true rfl fun cmt rest hcons => ?_,rfl,(and_iff_left fun cmt rest hcons => ?_).symm,
      rfl,rfl,rfl⟩
    · rw [hfix] at hcons
      cases hcons
    · rw [hfix] at hcons
      cases hcons
  · rename_i cmt rest hfix
    obtain ⟨known,hknown,h⟩ := bind_eq_ok_iff.mp h
    have hnone := lookup_eq_none_iff hknown
    match known with
    | none =>
      cases h
      have hmirrored := hnone.mp rfl
      refine ⟨iff_of_false nofun fun hgoes => ?_,rfl,
        (and_iff_left fun cmt' rest' hcons => ?_).symm,rfl,rfl,rfl⟩
      · have hsome := hgoes cmt rest hfix
        rw [hmirrored] at hsome
        cases hsome
      · rw [hfix] at hcons
        cases hcons
        exact hmirrored
    | some (repository,hash,commit) =>
      obtain ⟨patch,hpatch,h⟩ := bind_eq_ok_iff.mp h
      obtain ⟨files,-,h⟩ := bind_eq_ok_iff.mp h
      have hmirrored : p.mirrored? cmt ≠ none := hnone.not.mp nofun
      refine ⟨iff_of_true (by cases h; rfl) fun cmt' rest' hcons => ?_,by cases h; rfl,
        iff_of_false (fun hparent => ?_) fun hall => hmirrored (hall.2 cmt rest hfix),
        by cases h; rfl,by cases h; rfl,by cases h; rfl⟩
      · rw [hfix] at hcons
        cases hcons
        exact Option.isSome_iff_ne_none.mpr hmirrored
      · have hfound : (commit.parents.head? <|> data.parentOfFixCommit) = none := by
          cases h
          exact hparent
        rw [hfound] at hpatch
        cases hpatch

/-- What the part about the cause needs. -/
lemma populateCause_ok_iff : (∃ caused, p.populateCause data = .ok caused) ↔
    ∀ cmt, data.causeCommit = some cmt → LinkParses cmt ∧ ∀ gitUrl repository hash,
      p.mirrored? cmt = some (gitUrl,repository,hash) → ∃ commit,
        p.commit gitUrl hash = some commit ∧ ∃ files, commit.modifiedFiles = .ok files := by
  unfold populateCause
  cases hcause : data.causeCommit with
  | none => exact ⟨fun _ _ => nofun,fun _ => ⟨_,rfl⟩⟩
  | some cmt =>
    refine Iff.trans (lookup_bind_ok_iff ?_) ⟨?_,?_⟩
    · exact ⟨_,rfl⟩
    · rintro ⟨hlink,h⟩ _ ⟨⟩
      refine ⟨hlink,fun gitUrl repository hash hmirrored => ?_⟩
      obtain ⟨commit,hcommit,caused,h⟩ := h gitUrl repository hash hmirrored
      obtain ⟨files,hfiles,-⟩ := bind_eq_ok_iff.mp h
      exact ⟨commit,hcommit,files,hfiles⟩
    · intro h
      obtain ⟨hlink,hcommit⟩ := h cmt rfl
      refine ⟨hlink,fun gitUrl repository hash hmirrored => ?_⟩
      obtain ⟨commit,hfound,files,hfiles⟩ := hcommit _ _ _ hmirrored
      exact ⟨commit,hfound,_,bind_eq_ok_iff.mpr ⟨files,hfiles,rfl⟩⟩

/-- The cause leaves the crashes and the parent of the fix. -/
lemma causePopulated (h : p.populateCause data = .ok data') :
    data'.crashes = data.crashes ∧ data'.parentOfFixCommit = data.parentOfFixCommit := by
  unfold populateCause at h
  split at h
  · cases h
    exact ⟨rfl,rfl⟩
  · obtain ⟨known,-,h⟩ := bind_eq_ok_iff.mp h
    match known with
    | none =>
      cases h
      exact ⟨rfl,rfl⟩
    | some (repository,hash,commit) =>
      obtain ⟨files,-,h⟩ := bind_eq_ok_iff.mp h
      cases h
      exact ⟨rfl,rfl⟩

lemma commitsPopulated (h : p.populateCommits data = .ok data') : data'.crashes = data.crashes ∧
    (data'.parentOfFixCommit = none ↔ data.parentOfFixCommit = none ∧
      ∀ cmt rest, data.fixCommits = cmt :: rest → p.mirrored? cmt = none) := by
  obtain ⟨⟨fixed,goesOn⟩,hfixed,h⟩ := bind_eq_ok_iff.mp h
  have hfix := fixPopulated hfixed
  cases goesOn with
  | false =>
    cases h
    exact ⟨hfix.crashes,hfix.parent⟩
  | true =>
    obtain ⟨hcrashes,hparent⟩ := causePopulated h
    exact ⟨hcrashes.trans hfix.crashes,by rw [hparent,hfix.parent]⟩

/-- With links that parse, a record is completed exactly if it has what it needs. -/
lemma complete_ok_iff (hlinks : ∀ cmt ∈ examined data, LinkParses cmt) :
    (∃ data', (p.populateSyzbotInfo data >>= p.populateCommits) = .ok data') ↔
      p.Completable data := by
  constructor
  · intro ⟨data',h⟩
    obtain ⟨info,hinfo,h⟩ := bind_eq_ok_iff.mp h
    obtain ⟨⟨fixed,goesOn⟩,hfixed,h⟩ := bind_eq_ok_iff.mp h
    have hsame := sameCommits_syzbotInfo hinfo
    have hpopulated := fixPopulated hfixed
    have hfix := populateFix_ok_iff.mp ⟨_,hfixed⟩
    rw [hsame.fixCommits,hsame.parentOfFixCommit] at hfix
    refine ⟨syzbotInfo_ok_iff.mp ⟨_,hinfo⟩,hlinks,fun cmt rest hcons => (hfix cmt rest hcons).2,
      fun hgoesOn => ?_⟩
    rw [← hsame.goesOn,← hpopulated.goesOn] at hgoesOn
    simp only [if_pos hgoesOn] at h
    have hcaused := populateCause_ok_iff.mp ⟨_,h⟩
    rw [hpopulated.causeCommit,hsame.causeCommit] at hcaused
    exact fun cmt hcause => (hcaused cmt hcause).2
  · intro h
    obtain ⟨info,hinfo⟩ := syzbotInfo_ok_iff.mpr h.pages
    have hsame := sameCommits_syzbotInfo hinfo
    have hfix : ∃ fixed, p.populateFix info = .ok fixed := by
      rw [populateFix_ok_iff,hsame.fixCommits,hsame.parentOfFixCommit]
      refine fun cmt rest hcons => ⟨?_,h.fix cmt rest hcons⟩
      cases hcmt : linkAndHash cmt with
      | none => exact linkParses_of_none hcmt
      | some named => exact hlinks cmt (by simp [examined,hcons,hcmt])
    obtain ⟨⟨fixed,goesOn⟩,hfixed⟩ := hfix
    have hpopulated := fixPopulated hfixed
    have hrest : ∃ data', (if goesOn = true then p.populateCause fixed else pure fixed :
        Except Raised SyzbotData) = .ok data' := by
      by_cases hgoesOn : goesOn = true
      · have hgoes := hsame.goesOn.mp (hpopulated.goesOn.mp hgoesOn)
        rw [if_pos hgoesOn,populateCause_ok_iff,hpopulated.causeCommit,hsame.causeCommit]
        refine fun cmt hcause => ⟨hlinks cmt ?_,h.cause hgoes cmt hcause⟩
        cases hcons : data.fixCommits with
        | nil => simp [examined,hcons,hcause]
        | cons fix rest =>
          have hsome := hgoes fix rest hcons
          cases hfix : linkAndHash fix with
          | none => simp [mirrored?_of_none hfix] at hsome
          | some named => simp [examined,hcons,hcause,hfix]
      · rw [if_neg hgoesOn]
        exact ⟨fixed,rfl⟩
    obtain ⟨data',hdata⟩ := hrest
    exact ⟨data',bind_eq_ok_iff.mpr ⟨info,hinfo,bind_eq_ok_iff.mpr ⟨_,hfixed,hdata⟩⟩⟩

lemma populate_eq_ok_iff : p.populate data = .ok data' ↔
    (∀ cmt ∈ examined data, LinkParses cmt) ∧
      (p.populateSyzbotInfo data >>= p.populateCommits) = .ok data' := by
  unfold populate
  simp only [bind_eq_ok_iff]
  constructor
  · intro ⟨info,hinfo,asked,hasked,h⟩
    rw [(sameCommits_syzbotInfo hinfo).commitsToLoad] at hasked
    exact ⟨(commitsToLoad_eq_ok_iff.mp hasked).1,info,hinfo,h⟩
  · intro ⟨hlinks,info,hinfo,h⟩
    refine ⟨info,hinfo,p.named data,?_,h⟩
    rw [(sameCommits_syzbotInfo hinfo).commitsToLoad]
    exact commitsToLoad_eq_ok_iff.mpr ⟨hlinks,rfl⟩

/-- A record is populated exactly if it has what it needs. -/
theorem populate_ok_iff : (∃ data', p.populate data = .ok data') ↔ p.Completable data := by
  simp only [populate_eq_ok_iff,exists_and_left]
  constructor
  · intro ⟨hlinks,h⟩
    exact (complete_ok_iff hlinks).mp h
  · exact fun h => ⟨h.links,(complete_ok_iff h.links).mpr h⟩

/-! ## The filter -/

lemma filter_error_iff : (∃ e, hasUsableReproducer data = .error e) ↔
    ∃ crash rest, data.crashes = crash :: rest ∧ crash.syzReproducer ≠ none ∧
      crash.kernelConfig = none := by
  unfold hasUsableReproducer
  cases data.crashes with
  | nil => exact ⟨fun h => absurd h (by simp),fun h => absurd h (by simp)⟩
  | cons crash rest =>
    constructor
    · intro ⟨e,he⟩
      by_cases hreproducer : crash.syzReproducer = none
      · simp only [if_pos hreproducer] at he
        cases he
      · simp only [if_neg hreproducer] at he
        cases hconfig : crash.kernelConfig with
        | none => exact ⟨crash,rest,rfl,hreproducer,hconfig⟩
        | some config =>
          rw [hconfig] at he
          cases he
    · rintro ⟨_,_,⟨⟩,hreproducer,hconfig⟩
      refine ⟨.attributeError,?_⟩
      simp only [if_neg hreproducer,hconfig]

lemma filter_true_iff : hasUsableReproducer data = .ok true ↔
    (∃ crash rest, data.crashes = crash :: rest ∧ crash.syzReproducer ≠ none ∧
      ∃ config, crash.kernelConfig = some config ∧ "Linux/x86_64".toList <:+: config.toList) ∧
    (data.status = "fixed" → data.parentOfFixCommit ≠ none) := by
  unfold hasUsableReproducer
  cases data.crashes with
  | nil => simp
  | cons crash rest =>
    by_cases hreproducer : crash.syzReproducer = none
    · simp [hreproducer]
    · cases hconfig : crash.kernelConfig with
      | none => simp [hreproducer,hconfig]
      | some config =>
        simp only [if_neg hreproducer,hconfig,Except.ok.injEq,decide_eq_true_eq]
        constructor
        · intro ⟨hfixed,hparent⟩
          exact ⟨⟨crash,rest,rfl,hreproducer,config,hconfig,hfixed⟩,
            hparent.resolve_left ∘ not_not.mpr⟩
        · rintro ⟨⟨_,_,⟨⟩,-,_,hsome,hfixed⟩,hparent⟩
          rw [hconfig] at hsome
          cases hsome
          exact ⟨hfixed,(em (data.status = "fixed")).symm.imp id hparent⟩

/-- The texts of the first crash, once its record is completed. -/
lemma crash_of_complete (h : (p.populateSyzbotInfo data >>= p.populateCommits) = .ok data') :
    (data.crashes = [] ∧ data'.crashes = []) ∨
      ∃ crash rest crash', data.crashes = crash :: rest ∧ data'.crashes = [crash'] ∧
        p.fillText (some crash.kernelConfigLink) crash.kernelConfig = .ok crash'.kernelConfig ∧
        p.fillText crash.syzReproducerLink crash.syzReproducer = .ok crash'.syzReproducer := by
  obtain ⟨info,hinfo,h⟩ := bind_eq_ok_iff.mp h
  obtain ⟨hcrashes,-⟩ := commitsPopulated h
  unfold populateSyzbotInfo at hinfo
  cases hdata : data.crashes with
  | nil =>
    rw [hdata] at hinfo
    cases hinfo
    exact .inl ⟨rfl,hcrashes.trans hdata⟩
  | cons crash rest =>
    rw [hdata] at hinfo
    obtain ⟨kernelConfig,hconfig,hinfo⟩ := bind_eq_ok_iff.mp hinfo
    obtain ⟨cReproducer,-,hinfo⟩ := bind_eq_ok_iff.mp hinfo
    obtain ⟨syzReproducer,hsyz,hinfo⟩ := bind_eq_ok_iff.mp hinfo
    obtain ⟨rawCrashReport,-,hinfo⟩ := bind_eq_ok_iff.mp hinfo
    cases hinfo
    exact .inr ⟨crash,rest,_,rfl,hcrashes,hconfig,hsyz⟩

/-- The filter raises on a completed record exactly if it has no config beside its reproducer. -/
lemma filter_raises_iff (h : (p.populateSyzbotInfo data >>= p.populateCommits) = .ok data') :
    (∃ e, hasUsableReproducer data' = .error e) ↔ NoConfig data := by
  rw [filter_error_iff]
  unfold NoConfig
  obtain ⟨hdata,hdata'⟩ | ⟨crash,rest,crash',hdata,hdata',hconfig,hsyz⟩ := crash_of_complete h
  · simp [hdata,hdata']
  · have hnone := filled_eq_none_iff hconfig
    have hsome := (filled_eq_none_iff hsyz).not
    rw [not_and_or] at hsome
    rw [hdata,hdata']
    constructor
    · rintro ⟨_,_,⟨⟩,hreproducer,hnoConfig⟩
      obtain ⟨htext,hlink⟩ := hnone.mp hnoConfig
      exact ⟨crash,rest,rfl,hlink,htext,hsome.mp hreproducer⟩
    · rintro ⟨_,_,⟨⟩,hlink,htext,hreproducer⟩
      exact ⟨_,_,rfl,hsome.mpr hreproducer,hnone.mpr ⟨htext,hlink⟩⟩

/-- The filter passes a completed record exactly if it has a usable reproducer. -/
lemma filter_passes_iff (h : (p.populateSyzbotInfo data >>= p.populateCommits) = .ok data') :
    hasUsableReproducer data' = .ok true ↔ p.HasReproducer data := by
  rw [filter_true_iff]
  have hparent : (data'.status = "fixed" → data'.parentOfFixCommit ≠ none) ↔
      (data.status = "fixed" → data.parentOfFixCommit = none →
        ∃ cmt rest, data.fixCommits = cmt :: rest ∧ (p.mirrored? cmt).isSome = true) := by
    obtain ⟨info,hinfo,h⟩ := bind_eq_ok_iff.mp h
    have hsame := sameCommits_syzbotInfo hinfo
    have hstatus := ((sameBug_syzbotInfo hinfo).trans (sameBug_commits h)).2
    rw [hstatus,ne_eq,(commitsPopulated h).2,hsame.parentOfFixCommit,hsame.fixCommits]
    simp only [not_and,not_forall,exists_prop,Option.isSome_iff_ne_none,ne_eq]
  rw [hparent]
  obtain ⟨hdata,hdata'⟩ | ⟨crash,rest,crash',hdata,hdata',hconfig,hsyz⟩ := crash_of_complete h
  · constructor
    · rintro ⟨⟨crash,rest,hcrash,-⟩,-⟩
      rw [hdata'] at hcrash
      cases hcrash
    · rintro ⟨⟨crash,rest,hcrash,-⟩,-⟩
      rw [hdata] at hcrash
      cases hcrash
  · have hreproducer := (filled_eq_none_iff hsyz).not
    rw [not_and_or] at hreproducer
    have htext : ∀ config, crash'.kernelConfig = some config ↔
        p.Reads (some crash.kernelConfigLink) crash.kernelConfig config := by
      intro config
      rw [← fillText_eq_some_iff,hconfig]
      exact ⟨fun he => by rw [he],fun he => Except.ok.inj he⟩
    constructor
    · intro ⟨⟨_,_,hcrash,hsome,config,hfilled,hfixed⟩,hfix⟩
      rw [hdata'] at hcrash
      cases hcrash
      exact ⟨⟨crash,rest,hdata,hreproducer.mp hsome,config,(htext config).mp hfilled,hfixed⟩,hfix⟩
    · intro ⟨⟨_,_,hcrash,hsome,config,hfilled,hfixed⟩,hfix⟩
      rw [hdata] at hcrash
      cases hcrash
      exact ⟨⟨crash',[],hdata',hreproducer.mpr hsome,config,(htext config).mpr hfilled,hfixed⟩,hfix⟩

end Record

end SyzbotPopulator
end LiveKBench.KArenaPipeline
