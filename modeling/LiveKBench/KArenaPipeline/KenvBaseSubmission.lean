import LiveKBench.KArenaPipeline.KGymJobs
import LiveKBench.KArenaPipeline.KenvBaseBuilds
import LiveKBench.Lib.OrderedMap
import Mathlib.Data.List.Dedup

/-! The pass that `submit_kenv_base_builds` makes over the bugs which need an image: where the
source of a bug's base commit is found, and what becomes of the bugs where it is not. The kernel of
a kCache is built from a source that another function finds; where the two agree is told at the
end. -/
namespace LiveKBench.KArenaPipeline
open KArenaWeb (DateTime)
open KArenaDb
open KClient (SyzbotData SyzbotCrash)
open Lib

namespace Kenv

/-- The tables that the submission reads and writes. -/
structure SubmissionDb where
  bugs : Table SyzbotBug.bugId
  kcaches : AutoTable KCache.kCacheId
  images : KEnvBaseTable

/-- The kCache of the row reproduces, and its bug is of the status. -/
def SubmissionDb.reproduces (db : SubmissionDb) (status : BugStatus) (kc : KCache) : Bool :=
  (db.bugs.get? kc.bugId).any (fun bug => bug.status = status) &&
    kc.baseCommit = baseCommitForStatus status && kc.status = .success &&
    kc.kGymEvaluation = some .reproduced

/-- `get_bugs_needing_kenv_base`. -/
def SubmissionDb.bugsNeedingKenvBase (db : SubmissionDb) (status : BugStatus) : List String :=
  ((db.kcaches.rows.filter fun kc => db.reproduces status kc &&
    !db.images.rows.any fun ki =>
      ki.bugId = kc.bugId && ki.baseCommit = baseCommitForStatus status).map KCache.bugId).dedup

/-- `git_url` with the protocol of git replaced. -/
def overHttps (gitUrl : String) : String :=
  if "git://".toList.isPrefixOf gitUrl.toList then
    "https://" ++ String.ofList (gitUrl.toList.drop "git://".length)
  else gitUrl

/-- `text or None`. -/
def orNone (text : String) : Option String := if text = "" then none else some text

def baseCommitId (data : SyzbotData) : BugStatus → Option String
  | .fixed => data.parentOfFixCommit
  | .open => data.crashes.head?.bind fun crash => orNone crash.kernelSourceCommit

/-- `_resolve_base_commit_source`. -/
def resolveBaseCommitSource (data : SyzbotData) (status : BugStatus) :
    Except Raised (Option String × Option String) :=
  match data.crashes.head?.bind fun crash => orNone crash.kernelSourceGit with
  | none => .error (.attributeError "startswith")
  | some gitUrl => .ok (baseCommitId data status,some (overHttps gitUrl))

/-- What the submission reads of its configuration and of its populator. -/
structure DataPipeline where
  dockerPrefix : String
  repositoryMap : OrderedMap String String

/-- The table as it has become, and the warnings, each with its bug. -/
structure SubmitState where
  images : KEnvBaseTable
  warnings : List (String × String)

namespace DataPipeline
variable (pl : DataPipeline) (db : SubmissionDb) (status : BugStatus) (now : String → DateTime)

/-- What is done with the commit and the git url of a bug; the clock is read where the row is
made. -/
def submitSource (s : SubmitState) (bugId : String) :
    Option String × Option String → Except Raised SubmitState
  | (some commitId,some gitUrl) =>
    match pl.repositoryMap.value? gitUrl with
    | none =>
      .ok { s with
        warnings := s.warnings ++
          [(bugId,s!"[{bugId}] no mirror configured for {gitUrl}; skipping")] }
    | some mirrorPath =>
      let row := Submission.row ⟨bugId,baseCommitForStatus status,now bugId,commitId,gitUrl,
        mirrorPath,pl.dockerPrefix⟩
      match KEnvBase.insertKenvBase row s.images with
      | some images => .ok { s with images }
      | none => .error (.exception "IntegrityError"
          "UNIQUE constraint failed: kenv_base_image.bugId, kenv_base_image.baseCommit")
  | _ =>
    let baseCommit := (baseCommitForStatus status).text
    .ok { s with
      warnings := s.warnings ++
        [(bugId,s!"[{bugId}] missing commit/git_url for {baseCommit}; skipping")] }

/-- The turn of one bug. -/
def submitOne (s : SubmitState) (bugId : String) : Except Raised SubmitState :=
  match db.bugs.get? bugId with
  | none => .error (.valueError s!"Bug not found: {bugId}")
  | some bug =>
    (resolveBaseCommitSource bug.syzbotData status).bind (pl.submitSource status now s bugId)

/-- The loop; an exception ends it. -/
def submitEach : List String → SubmitState → SubmitState × Except Raised Unit
  | [],s => (s,.ok ())
  | bugId :: rest,s =>
    match pl.submitOne db status now s bugId with
    | .ok s' => submitEach rest s'
    | .error e => (s,.error e)

/-- `submit_kenv_base_builds`. -/
def submitKenvBaseBuilds : SubmitState × Except Raised Unit :=
  pl.submitEach db status now (db.bugsNeedingKenvBase status) ⟨db.images,[]⟩

/-! ## What a submission should do -/

/-- The row that a bug should get, as far as its own data goes: its commit is there, and its git
url, which is mirrored. -/
def submissionOf (bugId : String) : Option Submission := do
  let bug ← db.bugs.get? bugId
  let crash ← bug.syzbotData.crashes.head?
  let commitId ← baseCommitId bug.syzbotData status
  let gitUrl ← (orNone crash.kernelSourceGit).map overHttps
  let mirrorPath ← pl.repositoryMap.value? gitUrl
  return ⟨bugId,baseCommitForStatus status,now bugId,commitId,gitUrl,mirrorPath,pl.dockerPrefix⟩

/-- The pass returns; the new rows are those of the bugs that can have one, and the others are
skipped with a warning each. -/
structure SubmitsEach (result : SubmitState × Except Raised Unit) : Prop where
  returns : result.2 = .ok ()
  inserted : ∃ rows, result.1.images.rows = db.images.rows ++ rows ∧
    rows.map (fun row => { row with kEnvImageId := 0 }) =
      ((db.bugsNeedingKenvBase status).filterMap (pl.submissionOf db status now)).map
        Submission.row
  skipped : result.1.warnings.map Prod.fst =
    (db.bugsNeedingKenvBase status).filter fun bugId =>
      (pl.submissionOf db status now bugId).isNone

/-- The bug has a crash whose git url is there. -/
def HasGitUrl (bugId : String) : Prop :=
  ∃ bug crash, db.bugs.get? bugId = some bug ∧ bug.syzbotData.crashes.head? = some crash ∧
    crash.kernelSourceGit ≠ ""

/-! ## One turn -/

section Turns
variable {pl : DataPipeline} {db : SubmissionDb} {status : BugStatus} {now : String → DateTime}
  {s : SubmitState} {bugId : String}

lemma bugId_submissionOf {sub : Submission}
    (h : pl.submissionOf db status now bugId = some sub) :
    KEnvBase.pair sub.row = (bugId,baseCommitForStatus status) := by
  obtain ⟨bug,-,h⟩ := Option.bind_eq_some_iff.mp h
  obtain ⟨crash,-,h⟩ := Option.bind_eq_some_iff.mp h
  obtain ⟨commitId,-,h⟩ := Option.bind_eq_some_iff.mp h
  obtain ⟨gitUrl,-,h⟩ := Option.bind_eq_some_iff.mp h
  obtain ⟨mirrorPath,-,h⟩ := Option.bind_eq_some_iff.mp h
  cases h
  rfl

/-- What the turn of a bug with a git url does: it inserts the row that the bug should get, or it
warns. -/
inductive Turn (pl : DataPipeline) (db : SubmissionDb) (status : BugStatus)
    (now : String → DateTime) (bugId : String) (s s' : SubmitState) : Prop
  | inserted {sub} (submission : pl.submissionOf db status now bugId = some sub)
    (rows : s'.images.rows =
      s.images.rows ++ [{ sub.row with kEnvImageId := s.images.last+1 }])
    (warnings : s'.warnings = s.warnings)
  | skipped {text} (submission : pl.submissionOf db status now bugId = none)
    (images : s'.images = s.images) (warnings : s'.warnings = s.warnings ++ [(bugId,text)])

lemma submitOne_turn (h : HasGitUrl db bugId) (hfree : ∀ row ∈ s.images.rows,
    KEnvBase.pair row ≠ (bugId,baseCommitForStatus status)) :
    ∃ s', pl.submitOne db status now s bugId = .ok s' ∧ pl.Turn db status now bugId s s' := by
  obtain ⟨bug,crash,hbug,hhead,hgit⟩ := h
  have hresolve : resolveBaseCommitSource bug.syzbotData status =
      .ok (baseCommitId bug.syzbotData status,some (overHttps crash.kernelSourceGit)) := by
    simp [resolveBaseCommitSource,hhead,orNone,hgit]
  have hsubmission : pl.submissionOf db status now bugId =
      (baseCommitId bug.syzbotData status).bind fun commitId =>
        (pl.repositoryMap.value? (overHttps crash.kernelSourceGit)).map fun mirrorPath =>
          ⟨bugId,baseCommitForStatus status,now bugId,commitId,overHttps crash.kernelSourceGit,
            mirrorPath,pl.dockerPrefix⟩ := by
    simp [submissionOf,hbug,hhead,orNone,hgit,Option.map_eq_bind]
  have hone : pl.submitOne db status now s bugId = pl.submitSource status now s bugId
      (baseCommitId bug.syzbotData status,some (overHttps crash.kernelSourceGit)) := by
    simp only [submitOne,hbug,hresolve,Except.bind]
  rw [hone]
  cases hcommit : baseCommitId bug.syzbotData status with
  | none =>
    rw [hcommit] at hsubmission
    exact ⟨_,rfl,.skipped hsubmission rfl rfl⟩
  | some commitId =>
    rw [hcommit] at hsubmission
    cases hmirror : pl.repositoryMap.value? (overHttps crash.kernelSourceGit) with
    | none =>
      rw [hmirror] at hsubmission
      simp only [submitSource,hmirror]
      exact ⟨_,rfl,.skipped hsubmission rfl rfl⟩
    | some mirrorPath =>
      rw [hmirror] at hsubmission
      obtain ⟨images,himages⟩ : ∃ images, KEnvBase.insertKenvBase (Submission.row
          ⟨bugId,baseCommitForStatus status,now bugId,commitId,overHttps crash.kernelSourceGit,
            mirrorPath,pl.dockerPrefix⟩) s.images = some images :=
        ⟨_,AutoTable.insert?_eq_some.mpr ⟨hfree,rfl⟩⟩
      obtain ⟨-,rfl⟩ := AutoTable.insert?_eq_some.mp himages
      simp only [submitSource,hmirror,himages]
      exact ⟨_,rfl,.inserted hsubmission rfl rfl⟩

/-- Without a git url the turn raises. -/
lemma hasGitUrl_of_submitOne {s' : SubmitState}
    (h : pl.submitOne db status now s bugId = .ok s') : HasGitUrl db bugId := by
  unfold submitOne at h
  split at h
  · cases h
  · rename_i bug hbug
    cases hgit : bug.syzbotData.crashes.head?.bind fun crash => orNone crash.kernelSourceGit with
    | none =>
      simp only [resolveBaseCommitSource,hgit] at h
      cases h
    | some gitUrl =>
      obtain ⟨crash,hhead,hsome⟩ := Option.bind_eq_some_iff.mp hgit
      refine ⟨bug,crash,hbug,hhead,?_⟩
      intro hempty
      simp [orNone,hempty] at hsome

/-- The whole loop, over bugs that have no row yet. -/
lemma submitEach_of_hasGitUrl {bugIds : List String} (hnodup : bugIds.Nodup)
    (hgit : ∀ bugId ∈ bugIds, HasGitUrl db bugId) (hfree : ∀ bugId ∈ bugIds,
      ∀ row ∈ s.images.rows, KEnvBase.pair row ≠ (bugId,baseCommitForStatus status)) :
    (pl.submitEach db status now bugIds s).2 = .ok () ∧
      (∃ rows, (pl.submitEach db status now bugIds s).1.images.rows = s.images.rows ++ rows ∧
        rows.map (fun row => { row with kEnvImageId := 0 }) =
          (bugIds.filterMap (pl.submissionOf db status now)).map Submission.row) ∧
      (pl.submitEach db status now bugIds s).1.warnings.map Prod.fst =
        s.warnings.map Prod.fst ++
          bugIds.filter fun bugId => (pl.submissionOf db status now bugId).isNone := by
  induction bugIds generalizing s with
  | nil => exact ⟨rfl,⟨[],(List.append_nil _).symm,rfl⟩,(List.append_nil _).symm⟩
  | cons bugId rest ih =>
    obtain ⟨hnew,hnodup⟩ := List.nodup_cons.mp hnodup
    obtain ⟨s',hone,hturn⟩ := @submitOne_turn pl db status now s bugId
      (hgit bugId List.mem_cons_self) (hfree bugId List.mem_cons_self)
    have hstep : pl.submitEach db status now (bugId :: rest) s =
        pl.submitEach db status now rest s' := by rw [submitEach,hone]
    have hgit' : ∀ b ∈ rest, HasGitUrl db b := fun b hb => hgit b (List.mem_cons_of_mem _ hb)
    have hfree' : ∀ b ∈ rest, ∀ row ∈ s.images.rows,
        KEnvBase.pair row ≠ (b,baseCommitForStatus status) :=
      fun b hb => hfree b (List.mem_cons_of_mem _ hb)
    rw [hstep]
    cases hturn with
    | @inserted sub hsub hrows hwarnings =>
      have hpair := bugId_submissionOf hsub
      obtain ⟨hreturns,⟨rows,hnewRows,hmap⟩,hskipped⟩ := ih hnodup hgit' (s := s') (by
        intro b hb row hrow
        rw [hrows] at hrow
        obtain hrow | hrow := List.mem_append.mp hrow
        · exact hfree' b hb row hrow
        · rw [List.mem_singleton.mp hrow]
          intro heq
          have hsame : bugId = b := congrArg Prod.fst (hpair.symm.trans heq)
          exact hnew (hsame ▸ hb))
      refine ⟨hreturns,
        ⟨{ sub.row with kEnvImageId := s.images.last+1 } :: rows,?_,?_⟩,?_⟩
      · rw [hnewRows,hrows,List.append_assoc]
        rfl
      · rw [List.map_cons,List.filterMap_cons_some hsub,List.map_cons,hmap]
        rfl
      · rw [hskipped,hwarnings,List.filter_cons_of_neg (by simp [hsub])]
    | @skipped text hsub himages hwarnings =>
      obtain ⟨hreturns,⟨rows,hnewRows,hmap⟩,hskipped⟩ := ih hnodup hgit' (s := s') (by
        rw [himages]
        exact hfree')
      refine ⟨hreturns,⟨rows,?_,?_⟩,?_⟩
      · rw [hnewRows,himages]
      · rw [List.filterMap_cons_none hsub,hmap]
      · rw [hskipped,hwarnings,List.filter_cons_of_pos (by simp [hsub]),List.map_append,
          List.append_assoc]
        rfl

/-- A loop that returns has had a git url for every bug. -/
lemma hasGitUrl_of_returns {bugIds : List String}
    (h : (pl.submitEach db status now bugIds s).2 = .ok ()) :
    ∀ bugId ∈ bugIds, HasGitUrl db bugId := by
  induction bugIds generalizing s with
  | nil => exact fun _ hmem => absurd hmem List.not_mem_nil
  | cons bugId rest ih =>
    rw [submitEach] at h
    split at h
    · rename_i s' hone
      intro b hb
      obtain rfl | hb := List.mem_cons.mp hb
      · exact hasGitUrl_of_submitOne hone
      · exact ih h b hb
    · cases h

lemma noRow_of_needing (hmem : bugId ∈ db.bugsNeedingKenvBase status) :
    ∀ row ∈ db.images.rows, KEnvBase.pair row ≠ (bugId,baseCommitForStatus status) := by
  obtain ⟨kc,hkc,rfl⟩ := List.mem_map.mp (List.mem_dedup.mp hmem)
  have hnone := (List.mem_filter.mp hkc).2
  intro row hrow hpair
  obtain ⟨hbug,hcommit⟩ := Prod.mk.injEq .. ▸ hpair
  simp only [Bool.and_eq_true,Bool.not_eq_true',List.any_eq_false] at hnone
  exact hnone.2 row hrow (by simp [hbug,hcommit])

/-- The pass does what it should exactly if the first crash of every bug that needs an image names a
git url. -/
theorem submitsEach_iff : pl.SubmitsEach db status now (pl.submitKenvBaseBuilds db status now) ↔
    ∀ bugId ∈ db.bugsNeedingKenvBase status, HasGitUrl db bugId := by
  constructor
  · intro h
    exact hasGitUrl_of_returns h.returns
  · intro h
    obtain ⟨hreturns,hinserted,hskipped⟩ := @submitEach_of_hasGitUrl pl db status now
      ⟨db.images,[]⟩ _ (List.nodup_dedup _) h fun bugId hmem => noRow_of_needing hmem
    exact ⟨hreturns,hinserted,hskipped⟩

end Turns

/-! ## A bug without a git url -/

/-- Two fixed bugs whose kCaches reproduce; the crash of the first one names no git url. -/
def fixedBug (bugId kernelSourceGit : String) : SyzbotBug :=
  ⟨bugId,bugId,"crash",KArenaWeb.midJanuary,KArenaWeb.midJanuary,.fixed,[],"","repro","syzkaller",
    "",
    { version := 1, title := "crash", displayTitle := "crash", bugId, status := "fixed",
      fixCommits := [], causeCommit := none, discussions := [],
      crashes := [⟨"crash",none,some "repro",none,none,"",some "config",kernelSourceGit,"c1","",
        "s1","gcc","amd64",none,none,[]⟩],
      patchModifiedFunctions := none, patchCommitDate := none, causeCommitDate := none,
      subsystems := none, parentOfFixCommit := some "p1", patch := none, patchMessage := none,
      patchModifiedFiles := none, rawCrashReport := none, cleanCrashReport := none,
      crashKernelId := none, causeModifiedFunctions := none,
      userspaceImage := some "buildroot.raw", extra := [] }⟩

def reproducedRow (kCacheId : ℕ) (bugId : String) : KCache :=
  ⟨kCacheId,bugId,.parentCommit,KArenaWeb.midJanuary,"00000001",.success,"",none,none,
    some .reproduced,none,none⟩

def twoFixedBugs : SubmissionDb where
  bugs := ⟨[fixedBug "A" "",fixedBug "B" "https://example.org/linux.git"],by decide⟩
  kcaches := (AutoTable.empty.append (fun id => reproducedRow id "A") fun _ => rfl).append
    (fun id => reproducedRow id "B") fun _ => rfl
  images := .empty

def oneMirror : DataPipeline := ⟨"",.singleton ("https://example.org/linux.git","/mirror")⟩

theorem noGitUrl_not_submitsEach :
    ¬∀ pl db status now, SubmitsEach pl db status now (pl.submitKenvBaseBuilds db status now) := by
  intro h
  have hreturns := (h oneMirror twoFixedBugs .fixed fun _ => KArenaWeb.midJanuary).returns
  have hraises : (oneMirror.submitKenvBaseBuilds twoFixedBugs .fixed
      fun _ => KArenaWeb.midJanuary).2 = .error (.attributeError "startswith") := by
    decide +kernel
  rw [hraises] at hreturns
  cases hreturns


end DataPipeline
/-! ## The source of the build -/

/-- The url is of a repository itself, not of a commit or a log in it, and over https where its host
is one of the two that the build knows. -/
structure NamesRepository (gitUrl : String) : Prop where
  nonempty : gitUrl ≠ ""
  noCommit : KCore.pyIn "/commit/?id=" gitUrl = false
  noCommits : KCore.pyIn "https://github.com/" gitUrl = true →
    KCore.pyIn "/commits/" gitUrl = false
  noLog : KCore.pyIn "https://github.com/" gitUrl = false →
    KCore.pyIn "https://git.kernel.org/pub/scm/linux/kernel/git/" gitUrl = true →
      KCore.pyIn "/log/?id=" gitUrl = false
  protocol : KCore.pyIn "https://github.com/" gitUrl = true ∨
    KCore.pyIn "https://git.kernel.org/pub/scm/linux/kernel/git/" gitUrl = true →
      "git://".toList.isPrefixOf gitUrl.toList = false

section Sources
variable {separator text : List Char} {gitUrl : String}

lemma splitFirst_of_not_in (h : text.tails.any separator.isPrefixOf = false) :
    splitFirst separator text = text := by
  induction text with
  | nil => rfl
  | cons c rest ih =>
    have htails : (c :: rest).tails = (c :: rest) :: rest.tails := rfl
    rw [htails,List.any_cons,Bool.or_eq_false_iff] at h
    rw [splitFirst,if_neg (by simp [h.1]),ih h.2]

lemma length_splitFirst_lt (hne : separator ≠ []) (h : text.tails.any separator.isPrefixOf = true) :
    (splitFirst separator text).length < text.length := by
  induction text with
  | nil =>
    cases separator with
    | nil => exact absurd rfl hne
    | cons c rest => simp at h
  | cons c rest ih =>
    have htails : (c :: rest).tails = (c :: rest) :: rest.tails := rfl
    rw [htails,List.any_cons,Bool.or_eq_true] at h
    rw [splitFirst]
    split
    · exact Nat.succ_pos _
    · rename_i hnot
      exact Nat.succ_lt_succ (ih (h.resolve_left hnot))

lemma length_overHttps (gitUrl : String) : (overHttps gitUrl).toList.length =
    gitUrl.toList.length+if "git://".toList.isPrefixOf gitUrl.toList then 2 else 0 := by
  unfold overHttps
  split
  · rename_i hstarts
    obtain ⟨rest,hrest⟩ := List.isPrefixOf_iff_prefix.mp hstarts
    have hsix : "git://".length = 6 := by
      rw [← String.length_toList]
      simp
    rw [← hrest,hsix]
    simp
  · rfl

/-- To cut a url off gives the url over https only where nothing is cut off and nothing replaced. -/
lemma splitFirst_eq_overHttps_iff (hne : separator ≠ []) :
    String.ofList (splitFirst separator gitUrl.toList) = overHttps gitUrl ↔
      gitUrl.toList.tails.any separator.isPrefixOf = false ∧
        "git://".toList.isPrefixOf gitUrl.toList = false := by
  have hlength := length_overHttps gitUrl
  cases hin : gitUrl.toList.tails.any separator.isPrefixOf with
  | true =>
    have hlt := length_splitFirst_lt hne hin
    refine iff_of_false (fun heq => ?_) (by simp)
    rw [← heq,String.toList_ofList] at hlength
    omega
  | false =>
    rw [splitFirst_of_not_in hin,String.ofList_toList]
    cases hstarts : "git://".toList.isPrefixOf gitUrl.toList with
    | true =>
      refine iff_of_false (fun heq => ?_) (by simp)
      rw [hstarts,← heq] at hlength
      simp at hlength
    | false => exact iff_of_true (by rw [overHttps,hstarts]; rfl) ⟨rfl,rfl⟩

/-- The two functions find the same url exactly if it names the repository. -/
theorem parseUrl_agrees_iff {parsed : String} (h : parseUrl gitUrl = .ok parsed) :
    gitUrl ≠ "" ∧ parsed = overHttps gitUrl ↔ NamesRepository gitUrl := by
  unfold parseUrl at h
  split at h
  · -- a link to a commit: something is cut off
    rename_i hcommit
    cases h
    refine iff_of_false (fun ⟨_,heq⟩ => ?_) fun hnames => ?_
    · exact Bool.eq_false_iff.mp ((splitFirst_eq_overHttps_iff (by simp)).mp heq).1 hcommit
    · exact Bool.eq_false_iff.mp hnames.noCommit hcommit
  rename_i hcommit
  split at h
  · rename_i hgithub
    cases h
    rw [splitFirst_eq_overHttps_iff (by simp)]
    constructor
    · rintro ⟨hne,hcommits,hprotocol⟩
      exact ⟨hne,by simpa using hcommit,fun _ => hcommits,fun hnot => by simp [hgithub] at hnot,
        fun _ => hprotocol⟩
    · intro hnames
      exact ⟨hnames.nonempty,hnames.noCommits hgithub,hnames.protocol (.inl hgithub)⟩
  rename_i hgithub
  split at h
  · rename_i hkernel
    cases h
    rw [splitFirst_eq_overHttps_iff (by simp)]
    constructor
    · rintro ⟨hne,hlog,hprotocol⟩
      exact ⟨hne,by simpa using hcommit,fun hin => absurd hin hgithub,fun _ _ => hlog,
        fun _ => hprotocol⟩
    · intro hnames
      exact ⟨hnames.nonempty,hnames.noLog (by simpa using hgithub) hkernel,
        hnames.protocol (.inr hkernel)⟩
  rename_i hkernel
  split at h
  · rename_i hempty
    exact iff_of_false (fun hne => hne.1 hempty) fun hnames => hnames.nonempty hempty
  split at h
  · rename_i hne hstarts
    cases h
    refine iff_of_true ⟨hne,?_⟩ ⟨hne,by simpa using hcommit,fun hin => absurd hin hgithub,
      fun _ hin => absurd hin hkernel,fun hin => ?_⟩
    · rw [overHttps,if_pos (Bool.and_eq_true_iff.mp hstarts).1]
    · exact absurd hin (not_or.mpr ⟨hgithub,hkernel⟩)
  · cases h

/-- What the source of a build is made of. -/
lemma source_of_model {data : SyzbotData} {userspaceImageName : String} {fromParent : Bool}
    {builder : KBuilderArgument} {crash : SyzbotCrash} {rest : List SyzbotCrash}
    (hcrashes : data.crashes = crash :: rest)
    (h : KBuilderArgument.modelFromSyzbotData data userspaceImageName fromParent = .ok builder) :
    ∃ source, builder.kernelSource = .gitCommit source ∧
      parseUrl crash.kernelSourceGit = .ok source.gitUrl ∧ crash.kernelSourceCommit ≠ "" ∧
      (if fromParent then data.parentOfFixCommit else some crash.kernelSourceCommit) =
        some source.commitId := by
  simp only [KBuilderArgument.modelFromSyzbotData,hcrashes] at h
  split at h
  · cases h
  split at h
  · cases h
  rename_i hcommit
  split at h
  · cases h
  cases hurl : parseUrl crash.kernelSourceGit with
  | error e =>
    rw [hurl] at h
    cases h
  | ok gitUrl =>
    rw [hurl] at h
    cases hid : (if fromParent then data.parentOfFixCommit
        else some crash.kernelSourceCommit) with
    | none =>
      rw [hid] at h
      cases h
    | some commitId =>
      rw [hid] at h
      cases himage : userspaceImageOr data userspaceImageName with
      | none =>
        rw [himage] at h
        cases h
      | some image =>
        rw [himage] at h
        cases h
        exact ⟨_,rfl,rfl,hcommit,rfl⟩

/-- Where the arguments of a build can be made, the base commit's source is that of the build
exactly if the git url of the first crash names a repository. -/
theorem sameSource_iff {data : SyzbotData} {status : BugStatus} {userspaceImageName : String}
    {builder : KBuilderArgument} {source : KernelGitCommit} {crash : SyzbotCrash}
    (hmodel : KBuilderArgument.modelFromSyzbotData data userspaceImageName (status = .fixed) =
      .ok builder)
    (hsource : builder.kernelSource = .gitCommit source)
    (hcrash : data.crashes.head? = some crash) :
    resolveBaseCommitSource data status = .ok (some source.commitId,some source.gitUrl) ↔
      NamesRepository crash.kernelSourceGit := by
  cases hcrashes : data.crashes with
  | nil => simp [hcrashes] at hcrash
  | cons first rest =>
    obtain rfl : first = crash := by simpa [hcrashes] using hcrash
    obtain ⟨source',hsource',hurl,hcommit,hid⟩ := source_of_model hcrashes hmodel
    obtain rfl : source = source' := by
      rw [hsource] at hsource'
      exact KernelSource.gitCommit.inj hsource'
    have hbase : baseCommitId data status = some source.commitId := by
      cases status with
      | fixed => exact hid
      | «open» =>
        simp only [baseCommitId,hcrash,Option.bind_some,orNone,if_neg hcommit]
        exact hid
    rw [← parseUrl_agrees_iff hurl,resolveBaseCommitSource,hcrash,Option.bind_some,orNone,hbase]
    by_cases hempty : first.kernelSourceGit = ""
    · simp [hempty]
    · simp [hempty,eq_comm]

end Sources

def linux : SyzbotData := (DataPipeline.fixedBug "A" "https://github.com/torvalds/linux").syzbotData

/-- The crash names a branch of the repository. -/
def linuxMaster : SyzbotData :=
  (DataPipeline.fixedBug "A" "https://github.com/torvalds/linux/commits/master").syzbotData

def linuxParent : KernelGitCommit :=
  ⟨"https://github.com/torvalds/linux","p1","config","amd64","gcc","ld"⟩

theorem sameSource_linux :
    resolveBaseCommitSource linux .fixed =
        .ok (some "p1",some "https://github.com/torvalds/linux") ↔
      NamesRepository "https://github.com/torvalds/linux" := by
  have hmodel : KBuilderArgument.modelFromSyzbotData linux "" true =
      .ok ⟨.gitCommit linuxParent,"buildroot.raw",""⟩ := by decide +kernel
  exact @sameSource_iff linux .fixed "" _ linuxParent _ hmodel rfl rfl

/-- The branch is cut off for the build, and looked for among the mirrors. -/
theorem linuxMaster_not_sameSource : ¬∀ data status userspaceImageName builder source,
    KBuilderArgument.modelFromSyzbotData data userspaceImageName (status = .fixed) = .ok builder →
      builder.kernelSource = .gitCommit source →
        resolveBaseCommitSource data status = .ok (some source.commitId,some source.gitUrl) := by
  intro h
  have hmodel : KBuilderArgument.modelFromSyzbotData linuxMaster "" true =
      .ok ⟨.gitCommit linuxParent,"buildroot.raw",""⟩ := by decide +kernel
  have hsame := h linuxMaster .fixed "" _ linuxParent hmodel rfl
  have hother : resolveBaseCommitSource linuxMaster .fixed =
      .ok (some "p1",some "https://github.com/torvalds/linux/commits/master") := by decide +kernel
  rw [hother] at hsame
  exact absurd (Except.ok.inj hsame) (by decide)

end Kenv
end LiveKBench.KArenaPipeline
