import LiveKBench.KArenaPipeline.SyzbotDriver
import LiveKBench.Lib.Traverse

/-! What the populator adds to the records of a batch: the texts behind the links of the first crash,
and what the local repositories know of the commits that fixed and that caused the bug. -/
namespace LiveKBench.KArenaPipeline
open KClient (SyzbotData SyzbotCrash SyzbotGitCommit)
open Lib

/-- What is read of a commit: its date in UTC, and each file that it modified, by its old path, with
the methods changed there; the files are parsed as they are read. -/
structure GitCommit where
  parents : List String
  committerDate : String
  message : String
  modifiedFiles : Except Raised (List (String × List String))

/-- The texts behind the links, and the local repositories by the urls that they mirror. -/
structure SyzbotPopulator where
  getText : String → Except Raised String
  repositoryMap : String → Option String
  /-- A commit of the repository at a url, once the orphans have been fetched. -/
  commit : String → String → Option GitCommit
  /-- `git diff` of two commits, decoded as UTF-8. -/
  diff : String → String → String → Except Raised String

namespace SyzbotPopulator
variable (p : SyzbotPopulator)

/-- The text of a link that is there, where there is no text yet. -/
def fillText (link text : Option String) : Except Raised (Option String) :=
  match link with
  | none => .ok text
  | some link =>
    if link ≠ "" ∧ isFalsy text then (p.getText (SyzbotDriver.syzbotUrl ++ link)).map some
    else .ok text

/-- `_populate_syzbot_info`. -/
def populateSyzbotInfo (data : SyzbotData) : Except Raised SyzbotData :=
  match data.crashes with
  | [] => .ok data
  | crash :: _ => do
    let kernelConfig ← p.fillText (some crash.kernelConfigLink) crash.kernelConfig
    let cReproducer ← p.fillText crash.cReproducerLink crash.cReproducer
    let syzReproducer ← p.fillText crash.syzReproducerLink crash.syzReproducer
    let rawCrashReport ← p.fillText crash.crashReportLink data.rawCrashReport
    return { data with
      crashes := [{ crash with kernelConfig, cReproducer, syzReproducer }], rawCrashReport }

/-- The link and the hash of a commit that has both. -/
def linkAndHash (cmt : SyzbotGitCommit) : Option (String × String) :=
  match cmt.link,cmt.hashValue with
  | some link,some hash => if link = "" ∨ hash = "" then none else some (link,hash)
  | _,_ => none

/-- The local repository of a commit and what it knows of it. The outer `none` passes over the rest
of the record: the commit has no link or no hash, or its repository is not mirrored. -/
def lookup (cmt : SyzbotGitCommit) : Except Raised (Option (String × String × GitCommit)) :=
  match linkAndHash cmt with
  | none => .ok none
  | some (link,hash) => do
    let gitUrl ← parseUrl link
    match p.repositoryMap gitUrl with
    | none => return none
    | some repository =>
      match p.commit gitUrl hash with
      | none => throw (.exception "KeyError" hash)
      | some commit => return some (repository,hash,commit)

/-- `get_diff` from the parent of the fix; without a parent the argument is not a text. -/
def getDiff (repository : String) (parent : Option String) (hash : String) :
    Except Raised String :=
  match parent with
  | none => .error (.exception "TypeError" "expected str, bytes or os.PathLike object, not NoneType")
  | some parent => p.diff repository parent hash

/-- The part of the last loop about the commit that fixed the bug; the flag says whether it goes on
to the cause. -/
def populateFix (data : SyzbotData) : Except Raised (SyzbotData × Bool) :=
  match data.fixCommits with
  | [] => .ok (data,true)
  | cmt :: _ => do
    match ← p.lookup cmt with
    | none => return (data,false)
    | some (repository,hash,commit) =>
      let parentOfFixCommit := commit.parents.head? <|> data.parentOfFixCommit
      let patch ← p.getDiff repository parentOfFixCommit hash
      let modifiedFiles ← commit.modifiedFiles
      return ({ data with
        parentOfFixCommit
        patchCommitDate := some commit.committerDate
        patchMessage := some commit.message
        patch := some patch
        patchModifiedFunctions := some (modifiedFiles.map Prod.snd)
        patchModifiedFiles := some (modifiedFiles.map Prod.fst) },true)

/-- The part about the commit that caused it. -/
def populateCause (data : SyzbotData) : Except Raised SyzbotData :=
  match data.causeCommit with
  | none => .ok data
  | some cmt => do
    match ← p.lookup cmt with
    | none => return data
    | some (_,_,commit) =>
      let modifiedFiles ← commit.modifiedFiles
      return { data with
        causeCommitDate := some commit.committerDate
        causeModifiedFunctions := some (modifiedFiles.map Prod.snd) }

/-- What the first loop asks for at a commit: the repository and the hash, or nothing where it is not
mirrored. The `none` passes over the rest of the record. -/
def toLoad (cmt : SyzbotGitCommit) : Except Raised (Option (List (String × String))) :=
  match linkAndHash cmt with
  | none => .ok none
  | some (link,hash) => do
    let gitUrl ← parseUrl link
    return some (if (p.repositoryMap gitUrl).isSome then [(gitUrl,hash)] else [])

def causeToLoad (data : SyzbotData) : Except Raised (List (String × String)) :=
  match data.causeCommit with
  | none => .ok []
  | some cmt => (p.toLoad cmt).map fun asked => asked.getD []

/-- The pass of the first loop. Unlike the last one it goes on to the cause where the repository of
the fix is not mirrored. -/
def commitsToLoad (data : SyzbotData) : Except Raised (List (String × String)) :=
  match data.fixCommits with
  | [] => p.causeToLoad data
  | cmt :: _ => do
    match ← p.toLoad cmt with
    | none => return []
    | some asked => return asked ++ (← p.causeToLoad data)

/-- The pass of the last loop. -/
def populateCommits (data : SyzbotData) : Except Raised SyzbotData := do
  let (data,goesOn) ← p.populateFix data
  if goesOn then p.populateCause data else return data

/-- What `populate_batch` makes of one record. -/
def populate (data : SyzbotData) : Except Raised SyzbotData := do
  let data ← p.populateSyzbotInfo data
  let _ ← p.commitsToLoad data
  p.populateCommits data

/-- An exception at one record leaves no record. -/
def populateBatch (batch : List SyzbotData) : Except Raised (List SyzbotData) :=
  batch.mapM p.populate

/-! ## The record stays that of its bug -/

/-- The ids that the database goes by, and the status. -/
def SameBug (data data' : SyzbotData) : Prop := data'.bugId = data.bugId ∧ data'.status = data.status

section SameBug
variable {p : SyzbotPopulator} {data data' : SyzbotData}

lemma SameBug.trans {data'' : SyzbotData} (h : SameBug data data') (h' : SameBug data' data'') :
    SameBug data data'' := ⟨h'.1.trans h.1,h'.2.trans h.2⟩

lemma sameBug_syzbotInfo (h : p.populateSyzbotInfo data = .ok data') : SameBug data data' := by
  unfold populateSyzbotInfo at h
  split at h
  · cases h
    exact ⟨rfl,rfl⟩
  · obtain ⟨kernelConfig,-,h⟩ := bind_eq_ok_iff.mp h
    obtain ⟨cReproducer,-,h⟩ := bind_eq_ok_iff.mp h
    obtain ⟨syzReproducer,-,h⟩ := bind_eq_ok_iff.mp h
    obtain ⟨rawCrashReport,-,h⟩ := bind_eq_ok_iff.mp h
    cases h
    exact ⟨rfl,rfl⟩

lemma sameBug_fix {goesOn : Bool} (h : p.populateFix data = .ok (data',goesOn)) :
    SameBug data data' := by
  unfold populateFix at h
  split at h
  · cases h
    exact ⟨rfl,rfl⟩
  · obtain ⟨found,-,h⟩ := bind_eq_ok_iff.mp h
    match found with
    | none =>
      cases h
      exact ⟨rfl,rfl⟩
    | some (repository,hash,commit) =>
      obtain ⟨patch,-,h⟩ := bind_eq_ok_iff.mp h
      obtain ⟨modifiedFiles,-,h⟩ := bind_eq_ok_iff.mp h
      cases h
      exact ⟨rfl,rfl⟩

lemma sameBug_cause (h : p.populateCause data = .ok data') : SameBug data data' := by
  unfold populateCause at h
  split at h
  · cases h
    exact ⟨rfl,rfl⟩
  · obtain ⟨found,-,h⟩ := bind_eq_ok_iff.mp h
    match found with
    | none =>
      cases h
      exact ⟨rfl,rfl⟩
    | some (repository,hash,commit) =>
      obtain ⟨modifiedFiles,-,h⟩ := bind_eq_ok_iff.mp h
      cases h
      exact ⟨rfl,rfl⟩

lemma sameBug_commits (h : p.populateCommits data = .ok data') : SameBug data data' := by
  obtain ⟨⟨fixed,goesOn⟩,hfix,h⟩ := bind_eq_ok_iff.mp h
  have hfixed := sameBug_fix hfix
  cases goesOn with
  | true => exact hfixed.trans (sameBug_cause h)
  | false =>
    cases h
    exact hfixed

theorem sameBug_populate (h : p.populate data = .ok data') : SameBug data data' := by
  obtain ⟨info,hinfo,h⟩ := bind_eq_ok_iff.mp h
  obtain ⟨asked,-,h⟩ := bind_eq_ok_iff.mp h
  exact (sameBug_syzbotInfo hinfo).trans (sameBug_commits h)

end SameBug

end SyzbotPopulator
end LiveKBench.KArenaPipeline
