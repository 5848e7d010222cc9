import LiveKBench.Lib.Json

/-! The records of a Syzbot bug, with the fields that no model declares, and the JSON that they are
written as. -/
namespace LiveKBench.KClient
open Lib

/-- The entries of `__pydantic_extra__` in their order. -/
abbrev Extra := List (String × Json)

structure SyzbotGitCommit where
  title : String
  link : Option String
  hashValue : Option String
  repo : Option String
  branch : Option String
  extra : Extra

structure SyzbotCrash where
  title : String
  syzReproducerLink : Option String
  syzReproducer : Option String
  cReproducerLink : Option String
  cReproducer : Option String
  kernelConfigLink : String
  kernelConfig : Option String
  kernelSourceGit : String
  kernelSourceCommit : String
  syzkallerGit : String
  syzkallerCommit : String
  compilerDescription : String
  architecture : String
  crashReportLink : Option String
  fixedCReproducer : Option String
  extra : Extra

/-- The two dates are held as the texts that they are written as. -/
structure SyzbotData where
  version : ℤ
  title : String
  displayTitle : String
  bugId : String
  status : String
  fixCommits : List SyzbotGitCommit
  causeCommit : Option SyzbotGitCommit
  discussions : List String
  crashes : List SyzbotCrash
  patchModifiedFunctions : Option (List (List String))
  patchCommitDate : Option String
  causeCommitDate : Option String
  subsystems : Option (List String)
  parentOfFixCommit : Option String
  patch : Option String
  patchMessage : Option String
  patchModifiedFiles : Option (List String)
  rawCrashReport : Option String
  cleanCrashReport : Option (List (List Extra))
  crashKernelId : Option String
  causeModifiedFunctions : Option (List (List String))
  userspaceImage : Option String
  extra : Extra

def SyzbotGitCommit.toJson (c : SyzbotGitCommit) : Json :=
  .obj ([("title",.str c.title),
    ("link",.ofOption .str c.link),
    ("hashValue",.ofOption .str c.hashValue),
    ("repo",.ofOption .str c.repo),
    ("branch",.ofOption .str c.branch)] ++ c.extra)

/-- The declared fields of a crash. -/
def SyzbotCrash.members (c : SyzbotCrash) : List (String × Json) :=
  [("title",.str c.title),
    ("syzReproducerLink",.ofOption .str c.syzReproducerLink),
    ("syzReproducer",.ofOption .str c.syzReproducer),
    ("cReproducerLink",.ofOption .str c.cReproducerLink),
    ("cReproducer",.ofOption .str c.cReproducer),
    ("kernelConfigLink",.str c.kernelConfigLink),
    ("kernelConfig",.ofOption .str c.kernelConfig),
    ("kernelSourceGit",.str c.kernelSourceGit),
    ("kernelSourceCommit",.str c.kernelSourceCommit),
    ("syzkallerGit",.str c.syzkallerGit),
    ("syzkallerCommit",.str c.syzkallerCommit),
    ("compilerDescription",.str c.compilerDescription),
    ("architecture",.str c.architecture),
    ("crashReportLink",.ofOption .str c.crashReportLink),
    ("fixedCReproducer",.ofOption .str c.fixedCReproducer)]

def SyzbotCrash.toJson (c : SyzbotCrash) : Json := .obj (c.members ++ c.extra)

def functionsJson (functions : List (List String)) : Json := .arr (functions.map .ofTexts)

/-- The declared fields of a bug, in the order of their declaration. -/
def SyzbotData.members (d : SyzbotData) : List (String × Json) :=
  [("version",.ofInt d.version),
    ("title",.str d.title),
    ("displayTitle",.str d.displayTitle),
    ("bugId",.str d.bugId),
    ("status",.str d.status),
    ("fixCommits",.arr (d.fixCommits.map SyzbotGitCommit.toJson)),
    ("causeCommit",.ofOption SyzbotGitCommit.toJson d.causeCommit),
    ("discussions",.ofTexts d.discussions),
    ("crashes",.arr (d.crashes.map SyzbotCrash.toJson)),
    ("patchModifiedFunctions",.ofOption functionsJson d.patchModifiedFunctions),
    ("patchCommitDate",.ofOption .str d.patchCommitDate),
    ("causeCommitDate",.ofOption .str d.causeCommitDate),
    ("subsystems",.ofOption .ofTexts d.subsystems),
    ("parentOfFixCommit",.ofOption .str d.parentOfFixCommit),
    ("patch",.ofOption .str d.patch),
    ("patchMessage",.ofOption .str d.patchMessage),
    ("patchModifiedFiles",.ofOption .ofTexts d.patchModifiedFiles),
    ("rawCrashReport",.ofOption .str d.rawCrashReport),
    ("cleanCrashReport",.ofOption (fun report => .arr (report.map fun frames =>
      .arr (frames.map .obj))) d.cleanCrashReport),
    ("crashKernelId",.ofOption .str d.crashKernelId),
    ("causeModifiedFunctions",.ofOption functionsJson d.causeModifiedFunctions),
    ("userspaceImage",.ofOption .str d.userspaceImage)]

def SyzbotData.toJson (d : SyzbotData) : Json := .obj (d.members ++ d.extra)

end LiveKBench.KClient
