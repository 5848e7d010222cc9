import LiveKBench.KArenaDb.Columns
import LiveKBench.Lib.Table
import Mathlib.Data.List.Infix

/-! The table `syzbot_bugs`. A crawl inserts what it has found under its bug's id, and a bug that
is there already gets a new status, subsystem, crash report and data; its other columns, though
they were copied from the data, stay those of the first crawl. -/
namespace LiveKBench.KArenaDb
open KArenaWeb (DateTime)
open KClient (SyzbotCrash SyzbotData)
open KCore (PyError)
open Lib

/-- Times and lists are held as their texts, the document `syzbotData` as the value it encodes. -/
structure BugRow where
  bugId : String
  extid : String
  title : String
  addedTime : String
  reportedTime : String
  status : BugStatus
  subsystem : String
  syzbotCrashReport : String
  syzbotReproducer : String
  syzkallerCommitId : String
  syzkallerRollbackTag : String
  syzbotData : SyzbotData

def BugStatus.text : BugStatus → String
  | .open => "open"
  | .fixed => "fixed"

/-- The validation of the field `status`. -/
def BugStatus.ofText? (text : String) : Option BugStatus :=
  if text = "open" then some .open else if text = "fixed" then some .fixed else none

theorem BugStatus.text_ofText? {text : String} {status : BugStatus}
    (h : BugStatus.ofText? text = some status) : status.text = text := by
  unfold BugStatus.ofText? at h
  split at h
  · next ht =>
    cases h
    exact ht.symm
  · split at h
    · next ht =>
      cases h
      exact ht.symm
    · cases h

abbrev BugTable := Table BugRow.bugId

/-- The values that the `INSERT` binds. -/
def SyzbotBug.row (bug : SyzbotBug) : BugRow :=
  { bugId := bug.bugId, extid := bug.extid, title := bug.title,
    addedTime := bug.addedTime.isoformat, reportedTime := bug.reportedTime.isoformat,
    status := bug.status, subsystem := encodeTexts bug.subsystem,
    syzbotCrashReport := bug.syzbotCrashReport, syzbotReproducer := bug.syzbotReproducer,
    syzkallerCommitId := bug.syzkallerCommitId, syzkallerRollbackTag := bug.syzkallerRollbackTag,
    syzbotData := bug.syzbotData }

/-- `ON CONFLICT(bugId) DO UPDATE SET`: the columns that a row takes from the refused one. -/
def BugRow.refresh (excluded row : BugRow) : BugRow :=
  { row with
    status := excluded.status, subsystem := excluded.subsystem,
    syzbotCrashReport := excluded.syzbotCrashReport, syzbotData := excluded.syzbotData }

theorem BugRow.bugId_refresh (excluded row : BugRow) : (excluded.refresh row).bugId = row.bugId :=
  rfl

def insertSyzbotBug (bugs : BugTable) (bug : SyzbotBug) : BugTable :=
  bugs.upsert bug.row bug.row.refresh bug.row.bugId_refresh

theorem get?_insertSyzbotBug (bugs : BugTable) (bug : SyzbotBug) (bugId : String) :
    (insertSyzbotBug bugs bug).get? bugId =
      if bug.bugId = bugId then some ((bugs.get? bugId).elim bug.row bug.row.refresh)
      else bugs.get? bugId :=
  Table.get?_upsert bugs bug.row bug.row.refresh bug.row.bugId_refresh bugId

/-! ## Crawls -/

/-- `bug.crashes[0].syzReproducer if … else ''`. -/
def firstReproducer (bug : SyzbotData) : String :=
  match bug.crashes with
  | [] => ""
  | crash :: _ => crash.syzReproducer.getD ""

def firstSyzkallerCommit (bug : SyzbotData) : String :=
  match bug.crashes with
  | [] => ""
  | crash :: _ => crash.syzkallerCommit

/-- `_has_usable_reproducer`; a crash without a kernel config raises. -/
def hasUsableReproducer (bug : SyzbotData) : Except PyError Bool :=
  match bug.crashes with
  | [] => .ok false
  | crash :: _ =>
    if crash.syzReproducer = none then .ok false
    else match crash.kernelConfig with
      | none => .error .attributeError
      | some config =>
        .ok ("Linux/x86_64".toList <:+: config.toList ∧
          (bug.status ≠ "fixed" ∨ bug.parentOfFixCommit ≠ none))

/-- What a crawl hands to `DataPipeline.insert_syzbot_bug`, with the two times that it computes:
the reading of its clock, and the one less the days since the report. -/
structure CrawlInsert where
  bug : SyzbotData
  extid : String
  addedTime : DateTime
  reportedTime : DateTime

/-- The record that `DataPipeline.insert_syzbot_bug` builds; it is refused where the status is not
one of the two. -/
def CrawlInsert.syzbotBug (c : CrawlInsert) : Option SyzbotBug :=
  (BugStatus.ofText? c.bug.status).map fun status =>
    { bugId := c.bug.bugId, extid := c.extid, title := c.bug.title, addedTime := c.addedTime,
      reportedTime := c.reportedTime, status, subsystem := c.bug.subsystems.getD [],
      syzbotCrashReport := c.bug.rawCrashReport.getD "",
      syzbotReproducer := firstReproducer c.bug,
      syzkallerCommitId := firstSyzkallerCommit c.bug, syzkallerRollbackTag := "master",
      syzbotData := c.bug }

def crawlInsert (bugs : BugTable) (c : CrawlInsert) : BugTable :=
  match c.syzbotBug with
  | none => bugs
  | some bug => insertSyzbotBug bugs bug

/-- The table after a sequence of insertions, from an empty one. -/
def crawled (cs : List CrawlInsert) : BugTable := cs.foldl crawlInsert .empty

/-- The insertion reaches the row of a bug. -/
def CrawlInsert.reaches (bugId : String) (c : CrawlInsert) : Bool :=
  c.bug.bugId = bugId && (BugStatus.ofText? c.bug.status).isSome

/-- Every copy of a row agrees with the data of the row. -/
structure BugRow.Coherent (row : BugRow) : Prop where
  status : row.status.text = row.syzbotData.status
  crashReport : row.syzbotCrashReport = row.syzbotData.rawCrashReport.getD ""
  title : row.title = row.syzbotData.title
  reproducer : row.syzbotReproducer = firstReproducer row.syzbotData
  syzkallerCommit : row.syzkallerCommitId = firstSyzkallerCommit row.syzbotData

/-- The status and the crash report are those of the row's data, which are those of the latest
insertion; the other copies are those of the first. -/
structure BugRow.CopiedFrom (row : BugRow) (first last : SyzbotData) : Prop where
  data : row.syzbotData = last
  status : row.status.text = last.status
  crashReport : row.syzbotCrashReport = last.rawCrashReport.getD ""
  title : row.title = first.title
  reproducer : row.syzbotReproducer = firstReproducer first
  syzkallerCommit : row.syzkallerCommitId = firstSyzkallerCommit first

lemma syzbotBug_of_reaches {bugId : String} {c : CrawlInsert} (h : c.reaches bugId = true) :
    ∃ bug, c.syzbotBug = some bug ∧ bug.bugId = bugId ∧ bug.row.CopiedFrom c.bug c.bug := by
  obtain ⟨hid,hs⟩ := (Bool.and_eq_true _ _).mp h
  obtain ⟨status,hst⟩ := Option.isSome_iff_exists.mp hs
  have hid : c.bug.bugId = bugId := of_decide_eq_true hid
  refine ⟨_,by rw [CrawlInsert.syzbotBug,hst]; rfl,hid,?_⟩
  exact ⟨rfl,BugStatus.text_ofText? hst,rfl,rfl,rfl,rfl⟩

lemma get?_crawlInsert_of_not_reaches {bugId : String} {c : CrawlInsert}
    (h : c.reaches bugId = false) (bugs : BugTable) :
    (crawlInsert bugs c).get? bugId = bugs.get? bugId := by
  unfold crawlInsert
  cases hb : c.syzbotBug with
  | none => rfl
  | some bug =>
    obtain ⟨status,hst,rfl⟩ := Option.map_eq_some_iff.mp hb
    have hne : ¬c.bug.bugId = bugId := by
      intro hid
      simp [CrawlInsert.reaches,hid,hst] at h
    simp only
    rw [get?_insertSyzbotBug,if_neg hne]

/-- The row of a bug after one more insertion that reaches it. -/
lemma copiedFrom_crawlInsert {bugId : String} {c : CrawlInsert} (h : c.reaches bugId = true)
    (bugs : BugTable) :
    ∃ row, (crawlInsert bugs c).get? bugId = some row ∧
      match bugs.get? bugId with
      | none => row.CopiedFrom c.bug c.bug
      | some old => ∀ first last, old.CopiedFrom first last → row.CopiedFrom first c.bug := by
  obtain ⟨bug,hb,hid,hc⟩ := syzbotBug_of_reaches h
  refine ⟨(bugs.get? bugId).elim bug.row bug.row.refresh,?_,?_⟩
  · unfold crawlInsert
    simp only [hb]
    rw [get?_insertSyzbotBug,if_pos hid]
  · cases hg : bugs.get? bugId with
    | none => exact hc
    | some old =>
      intro first last ho
      exact ⟨hc.data,hc.status,hc.crashReport,ho.title,ho.reproducer,ho.syzkallerCommit⟩

/-- After any sequence of crawls the row of a bug, which is there once an insertion has reached it,
has the status and the crash report of its data and of the latest insertion, and the title,
reproducer and syzkaller commit of the first. -/
theorem crawled_rows (cs : List CrawlInsert) (bugId : String) :
    match cs.filter (·.reaches bugId) with
    | [] => (crawled cs).get? bugId = none
    | first :: rest => ∃ row, (crawled cs).get? bugId = some row ∧
        row.CopiedFrom first.bug ((first :: rest).getLast (List.cons_ne_nil _ _)).bug := by
  induction cs using List.reverseRecOn with
  | nil => exact Table.get?_empty bugId
  | append_singleton cs c ih =>
    have hstep : crawled (cs ++ [c]) = crawlInsert (crawled cs) c := by
      simp [crawled,List.foldl_append]
    rw [hstep,List.filter_append]
    cases hr : c.reaches bugId with
    | false =>
      rw [get?_crawlInsert_of_not_reaches hr]
      simpa [hr] using ih
    | true =>
      obtain ⟨row,hrow,hc⟩ := copiedFrom_crawlInsert hr (crawled cs)
      cases hf : cs.filter (·.reaches bugId) with
      | nil =>
        rw [hf] at ih
        rw [show (crawled cs).get? bugId = none from ih] at hc
        simpa [hr] using ⟨row,hrow,hc⟩
      | cons first rest =>
        rw [hf] at ih
        obtain ⟨old,hold,ho⟩ := ih
        rw [hold] at hc
        refine ⟨row,hrow,?_⟩
        simpa [hr] using hc _ _ ho

/-! ## A bug that is crawled twice -/

def openCrash : SyzbotCrash :=
  { title := "KASAN: use-after-free Read in put_task", syzReproducerLink := none,
    syzReproducer := some "r0 = socket(0x10, 0x3, 0x0)", cReproducerLink := none,
    cReproducer := none, kernelConfigLink := "", kernelConfig := some "# Linux/x86_64 6.1.0",
    kernelSourceGit := "git://git.kernel.org/linux.git", kernelSourceCommit := "a1",
    syzkallerGit := "", syzkallerCommit := "s1", compilerDescription := "", architecture := "",
    crashReportLink := none, fixedCReproducer := none, extra := [] }

def openBug : SyzbotData :=
  { version := 1, title := "KASAN: use-after-free Read in put_task", displayTitle := "",
    bugId := "b1", status := "open", fixCommits := [], causeCommit := none, discussions := [],
    crashes := [openCrash], patchModifiedFunctions := none, patchCommitDate := none,
    causeCommitDate := none, subsystems := some [], parentOfFixCommit := none, patch := none,
    patchMessage := none, patchModifiedFiles := none, rawCrashReport := some "Call Trace:",
    cleanCrashReport := none, crashKernelId := none, causeModifiedFunctions := none,
    userspaceImage := none, extra := [] }

/-- The bug once it is fixed: it has a new title and a newer reproducer. -/
def renamedBug : SyzbotData :=
  { openBug with
    title := "KASAN: use-after-free Read in get_task", status := "fixed",
    crashes := [{ openCrash with
      syzReproducer := some "r1 = openat(0xffffffffffffff9c, 0x0, 0x0)", syzkallerCommit := "s2" }],
    parentOfFixCommit := some "p1" }

def crawlOf (bug : SyzbotData) : CrawlInsert :=
  ⟨bug,"e1",KArenaWeb.endOfJanuary,KArenaWeb.midJanuary⟩

/-- Both crawls pass the filter of the pipeline, and the row keeps the title of the first. -/
theorem recrawled_row_not_coherent :
    ∃ cs : List CrawlInsert, (∀ c ∈ cs, hasUsableReproducer c.bug = .ok true) ∧
      ∃ row ∈ (crawled cs).rows, ¬row.Coherent := by
  refine ⟨[crawlOf openBug,crawlOf renamedBug],?_,?_⟩
  · intro c hc
    rcases List.mem_pair.mp hc with rfl | rfl
    · rfl
    · rfl
  · have hrow : ((crawled [crawlOf openBug,crawlOf renamedBug]).rows.any fun row =>
        row.title ≠ row.syzbotData.title) = true := by decide +kernel
    obtain ⟨row,hmem,ht⟩ := List.any_eq_true.mp hrow
    exact ⟨row,hmem,fun h => of_decide_eq_true ht h.title⟩

end LiveKBench.KArenaDb
