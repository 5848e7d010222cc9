import LiveKBench.KArenaDb.DatasetWrites

/-! The exchange of bugs and datasets with a HuggingFace repository. An export writes every row of
the two tables, an import inserts the rows of a repository one after the other. A dataset whose
name is taken is overwritten, though the import means to leave it untouched. -/
namespace LiveKBench.KArenaDb
open KArenaWeb (DateTime)
open Lib

/-- A row of the configuration `datasets`. -/
structure HfDataset where
  datasetName : String
  description : String
  addedTime : String
  bugIds : String
  attrs : String
  deriving DecidableEq

/-! ## Export -/

/-- `_row_to_bug`. -/
def rowToBug (row : BugRow) : Option SyzbotBug := do
  let addedTime ← fromisoformat row.addedTime
  let reportedTime ← fromisoformat row.reportedTime
  let subsystem ← decodeTexts row.subsystem
  return {
    bugId := row.bugId, extid := row.extid, title := row.title,
    addedTime := addedTime, reportedTime := reportedTime, status := row.status,
    subsystem := subsystem, syzbotCrashReport := row.syzbotCrashReport,
    syzbotReproducer := row.syzbotReproducer, syzkallerCommitId := row.syzkallerCommitId,
    syzkallerRollbackTag := row.syzkallerRollbackTag, syzbotData := row.syzbotData }

def BugDb.getAllBugs (db : BugDb) : Option (List SyzbotBug) := db.bugs.rows.mapM rowToBug

/-- A row of the configuration `bugs`; it has the columns of the table. -/
def exportBug (b : SyzbotBug) : BugRow :=
  { bugId := b.bugId, extid := b.extid, title := b.title, addedTime := b.addedTime.isoformat,
    reportedTime := b.reportedTime.isoformat, status := b.status,
    subsystem := encodeTexts b.subsystem, syzbotCrashReport := b.syzbotCrashReport,
    syzbotReproducer := b.syzbotReproducer, syzkallerCommitId := b.syzkallerCommitId,
    syzkallerRollbackTag := b.syzkallerRollbackTag, syzbotData := b.syzbotData }

def exportDataset (d : BugDataset) : HfDataset :=
  { datasetName := d.datasetName, description := d.description,
    addedTime := d.addedTime.isoformat, bugIds := encodeTexts d.bugIds,
    attrs := encodeAttrs d.attrs }

/-- `HFBugExporter.export`: the rows that it pushes; a text that does not read raises. -/
def BugDb.exportRows (db : BugDb) : Option (List BugRow × List HfDataset) := do
  let bugs ← db.getAllBugs
  let datasets ← db.getAllDatasets
  return (bugs.map exportBug,datasets.map exportDataset)

/-! ## Import -/

theorem validOffset_of_fromisoformat {text : String} {t : DateTime}
    (h : fromisoformat text = some t) : ValidOffset t := by
  have hmk : ∀ date clock offset, mkDateTime date clock offset = some t → ValidOffset t := by
    rintro ⟨year,month,day⟩ ⟨hour,minute,second,us⟩ offset hmk
    simp only [mkDateTime,Option.dite_none_right_eq_some] at hmk
    obtain ⟨hv,ht⟩ := hmk
    cases ht
    exact hv.2.2
  simp only [fromisoformat,Option.bind_eq_bind,Option.bind_eq_some_iff] at h
  obtain ⟨⟨date,rest⟩,-,h⟩ := h
  cases rest with
  | nil => exact hmk _ _ _ h
  | cons c rest =>
    obtain ⟨⟨clock,offset⟩,-,h⟩ := Option.bind_eq_some_iff.mp h
    exact hmk _ _ _ h

def readDateTime (text : String) : Option ValidTime :=
  match h : fromisoformat text with
  | none => none
  | some t => some ⟨t,validOffset_of_fromisoformat h⟩

@[simp] theorem readDateTime_isoformat (t : ValidTime) : readDateTime t.1.isoformat = some t := by
  have hread := fromisoformat_isoformat t.2
  unfold readDateTime
  split
  · next hnone =>
    rw [hread] at hnone
    cases hnone
  · next t' hsome =>
    rw [hread] at hsome
    exact congrArg some (Subtype.ext (Option.some.inj hsome).symm)

/-- The bug of a row of `bugs`. -/
def readBug (row : BugRow) : Option {bug : SyzbotBug // bug.ValidTimes} := do
  let addedTime ← readDateTime row.addedTime
  let reportedTime ← readDateTime row.reportedTime
  let subsystem ← decodeTexts row.subsystem
  return ⟨{
      bugId := row.bugId, extid := row.extid, title := row.title, addedTime := addedTime,
      reportedTime := reportedTime, status := row.status, subsystem := subsystem,
      syzbotCrashReport := row.syzbotCrashReport, syzbotReproducer := row.syzbotReproducer,
      syzkallerCommitId := row.syzkallerCommitId,
      syzkallerRollbackTag := row.syzkallerRollbackTag, syzbotData := row.syzbotData },
    addedTime.2,reportedTime.2⟩

/-- The loop of `import_bugs`, with the ids of the new bugs. -/
def importBugsFrom (existing : List String) : List BugRow → BugDb → BugDb × Except DbError (List String)
  | [], db => (db,.ok [])
  | row :: rows, db =>
    match readBug row with
    | none => (db,.error .valueError)
    | some bug =>
      let (db,result) := importBugsFrom existing rows (db.insertSyzbotBug bug)
      (db,result.map fun ids => if bug.1.bugId ∈ existing then ids else bug.1.bugId :: ids)

/-- `import_bugs`; the ids of the open and of the fixed bugs are those of all. -/
def importBugs (rows : List BugRow) (db : BugDb) : BugDb × Except DbError (List String) :=
  importBugsFrom (db.bugs.rows.map BugRow.bugId) rows db

/-- `import_datasets`, with the names of the new datasets. Each row comes with what `utcnow` gives
where a dataset is created for it. -/
def importDatasets : List (HfDataset × ValidTime) → BugDb → BugDb × Except DbError (List String)
  | [], db => (db,.ok [])
  | (row,now) :: rows, db =>
    match db.getDatasetByName row.datasetName with
    | none => (db,.error .valueError)
    | some (some existing) =>
      match readDateTime row.addedTime,decodeTexts row.bugIds,decodeAttrs row.attrs with
      | some addedTime,some bugIds,some attrs =>
        match db.updateDataset existing.datasetId row.description addedTime bugIds attrs with
        | (db,.ok _) => importDatasets rows db
        | (db,.error e) => (db,.error e)
      | _,_,_ => (db,.error .valueError)
    | some none =>
      match decodeTexts row.bugIds,decodeAttrs row.attrs with
      | some bugIds,some attrs =>
        match db.createDataset row.datasetName row.description bugIds attrs now with
        | (db,.ok _) =>
          let (db,result) := importDatasets rows db
          (db,result.map fun names => row.datasetName :: names)
        | (db,.error e) => (db,.error e)
      | _,_ => (db,.error .valueError)

/-! ## What is imported -/

/-- A row that defines a dataset: its texts read. -/
structure Definition extends HfDataset where
  time : ValidTime
  ids : List String
  dict : StrDict
  readsTime : readDateTime addedTime = some time
  readsIds : decodeTexts bugIds = some ids
  readsAttrs : decodeAttrs attrs = some dict

/-- A definition, and the clock's reading at its turn. -/
abbrev Turn := Definition × ValidTime

def Turn.row (turn : Turn) : HfDataset × ValidTime := (turn.1.toHfDataset,turn.2)

/-- A dataset as its name gives it: the metadata, and the members as a set. -/
structure Contents where
  description : String
  addedTime : String
  attrs : String
  bugs : Set String

def Definition.contents (d : Definition) : Contents :=
  ⟨d.description,d.time.1.isoformat,encodeAttrs d.dict,{bugId | bugId ∈ d.ids}⟩

def BugDb.names (db : BugDb) : List String := db.datasets.rows.map DatasetRow.datasetName

def BugDb.contents (db : BugDb) (name : String) : Option Contents :=
  (db.byName.get? name).map fun row =>
    ⟨row.description,row.addedTime,row.attrs,{bugId | bugId ∈ db.memberIds row.datasetId}⟩

/-! ## One row -/

section Contents
variable {db out : BugDb} {name description : String} {bugIds : List String} {attrs : StrDict}
  {addedTime : ValidTime} {e : DatasetRow}

lemma named_iff : db.Named name ↔ name ∈ db.names := List.mem_map.symm

lemma byName_eq_none : db.byName.get? name = none ↔ ¬db.Named name := by
  rw [Table.get?_eq_none,BugDb.Named]
  simp [BugDb.byName]

lemma contents_eq_none : db.contents name = none ↔ ¬db.Named name := by
  rw [BugDb.contents,Option.map_eq_none_iff,byName_eq_none]

/-- Two datasets of one id are one. -/
lemma eq_of_datasetId {r : DatasetRow} (hr : r ∈ db.datasets.rows) (he : e ∈ db.datasets.rows)
    (hid : r.datasetId = e.datasetId) : r = e := by
  have hget := Table.get?_eq_some.mpr ⟨hr,hid⟩
  exact Option.some.inj (hget.symm.trans (Table.get?_eq_some.mpr ⟨he,rfl⟩))

lemma contents_updated
    (hu : BugDb.Updated db e.datasetId description addedTime bugIds attrs out)
    (he : db.byName.get? e.datasetName = some e) (hn : bugIds.Nodup) :
    out.contents name = if name = e.datasetName then
      some ⟨description,addedTime.1.isoformat,encodeAttrs attrs,{bugId | bugId ∈ bugIds}⟩
    else db.contents name := by
  have hmem := (Table.get?_eq_some.mp he).1
  have hget : out.byName.get? name = (db.byName.get? name).map fun row =>
      if decide ((row.datasetId : ℤ) = e.datasetId) = true then
        BugDb.rewritten description attrs addedTime row else row := by
    have hrows : out.byName = db.byName.update (fun row => (row.datasetId : ℤ) = e.datasetId)
        (BugDb.rewritten description attrs addedTime)
        (BugDb.datasetName_rewritten description attrs addedTime) := by
      simp only [BugDb.byName,Table.update,hu.datasets]
      rfl
    rw [hrows,Table.get?_update]
  rw [BugDb.contents,hget]
  by_cases hname : name = e.datasetName
  · subst hname
    rw [if_pos rfl,he]
    simp only [Option.map_some,decide_true,if_true,BugDb.rewritten]
    congr 2
    ext bugId
    exact (BugDb.mem_memberIds_updated hn hu.members).trans (by simp)
  · rw [if_neg hname,BugDb.contents]
    cases hr : db.byName.get? name with
    | none => rfl
    | some r =>
      obtain ⟨hrmem,hrname⟩ := Table.get?_eq_some.mp hr
      have hid : ¬(r.datasetId : ℤ) = e.datasetId := by
        intro hid
        have hre := eq_of_datasetId hrmem hmem (by exact_mod_cast hid)
        exact hname (hrname.symm.trans (congrArg DatasetRow.datasetName hre))
      simp only [Option.map_some,hid,decide_false,Bool.false_eq_true,if_false]
      congr 2
      ext bugId
      exact (BugDb.mem_memberIds_updated hn hu.members).trans (by simp [hid])

lemma contents_created {new : String}
    (hc : BugDb.Created db new description bugIds attrs addedTime out) (hnew : ¬db.Named new)
    (hok : (db.createdMembers bugIds).2 = true) :
    out.contents name = if name = new then
      some ⟨description,addedTime.1.isoformat,encodeAttrs attrs,
        {bugId | bugId ∈ db.memberIds ((db.datasets.last+1 : ℕ) : ℤ) ∨ bugId ∈ bugIds}⟩
    else db.contents name := by
  have hget : out.byName.get? name = (db.byName.get? name).or
      (if new = name then
        some (BugDb.newDataset new description attrs addedTime (db.datasets.last+1)) else none) := by
    have hrows : out.byName.rows = db.byName.rows ++
        [BugDb.newDataset new description attrs addedTime (db.datasets.last+1)] := by
      simp only [BugDb.byName,hc.datasets]
      rfl
    rw [Table.get?_append hrows]
    congr 1
    by_cases hname : new = name
    · simp [BugDb.newDataset,hname]
    · simp [BugDb.newDataset,hname]
  rw [BugDb.contents,hget]
  by_cases hname : name = new
  · subst hname
    rw [if_pos rfl,if_pos rfl,byName_eq_none.mpr hnew]
    simp only [Option.none_or,Option.map_some,BugDb.newDataset]
    congr 2
    ext bugId
    exact (BugDb.mem_memberIds_created hok hc.members).trans (by simp)
  · rw [if_neg hname,if_neg (Ne.symm hname),Option.or_none,BugDb.contents]
    cases hr : db.byName.get? name with
    | none => rfl
    | some r =>
      have hle := db.datasets.le_last r (Table.get?_eq_some.mp hr).1
      have hid : ¬(r.datasetId : ℤ) = ((db.datasets.last+1 : ℕ) : ℤ) := by omega
      simp only [Option.map_some]
      congr 2
      ext bugId
      exact (BugDb.mem_memberIds_created hok hc.members).trans (or_iff_left fun h => hid h.1)

end Contents

/-! ## The names that are created, and the ids that they get -/

/-- The names that are not known, each where it comes first. -/
def newNames : List String → List String → List String
  | _, [] => []
  | known, name :: names =>
    if name ∈ known then newNames known names
    else name :: newNames (known ++ [name]) names

lemma mem_newNames {known names : List String} {name : String} :
    name ∈ newNames known names ↔ name ∈ names ∧ name ∉ known := by
  induction names generalizing known with
  | nil => simp [newNames]
  | cons first names ih =>
    by_cases hf : first ∈ known
    · rw [newNames,if_pos hf,ih,List.mem_cons]
      constructor
      · rintro ⟨hn,hk⟩
        exact ⟨.inr hn,hk⟩
      · rintro ⟨rfl | hn,hk⟩
        · exact absurd hf hk
        · exact ⟨hn,hk⟩
    · rw [newNames,if_neg hf,List.mem_cons,ih,List.mem_cons,List.mem_append,List.mem_singleton]
      by_cases he : name = first
      · simp [he,hf]
      · simp [he]

lemma nodup_newNames (known names : List String) : (newNames known names).Nodup := by
  induction names generalizing known with
  | nil => exact List.nodup_nil
  | cons first names ih =>
    by_cases hf : first ∈ known
    · rw [newNames,if_pos hf]
      exact ih known
    · rw [newNames,if_neg hf,List.nodup_cons]
      refine ⟨?_,ih _⟩
      intro hmem
      exact (mem_newNames.mp hmem).2 (List.mem_append_right _ (List.mem_singleton.mpr rfl))

/-- No new dataset lists a bug that is a member already under the id that the dataset gets. -/
def IdsFree (member : ℕ → String → Prop) (known : List String) (last : ℕ) (turns : List Turn) :
    Prop :=
  ∀ before turn after, turns = before ++ turn :: after → turn.1.datasetName ∉ known →
    turn.1.datasetName ∉ before.map (fun turn => turn.1.datasetName) →
      ∀ bugId ∈ turn.1.ids,
        ¬member (last+(newNames known (before.map fun turn => turn.1.datasetName)).length+1) bugId

section IdsFree
variable {member member' : ℕ → String → Prop} {known : List String} {last : ℕ} {turn : Turn}
  {turns : List Turn}

lemma idsFree_nil : IdsFree member known last [] := by
  intro before turn after h
  cases before <;> cases h

/-- The ids of the datasets that come after a row. -/
lemma idsFree_rest (h : IdsFree member known last (turn :: turns)) :
    if turn.1.datasetName ∈ known then IdsFree member known last turns
    else IdsFree member (known ++ [turn.1.datasetName]) (last+1) turns := by
  split
  · next hk =>
    intro before later after hsplit hnew hfirst bugId hb
    have hlater := h (turn :: before) later after (by rw [hsplit]; rfl) hnew ?_ bugId hb
    · simpa [newNames,hk] using hlater
    · rw [List.map_cons,List.mem_cons,not_or]
      exact ⟨fun he => hnew (he ▸ hk),hfirst⟩
  · next hk =>
    intro before later after hsplit hnew hfirst bugId hb
    rw [List.mem_append,not_or,List.mem_singleton] at hnew
    have hlater := h (turn :: before) later after (by rw [hsplit]; rfl) hnew.1 ?_ bugId hb
    · have hlen : last+1+(newNames (known ++ [turn.1.datasetName])
          (before.map fun turn => turn.1.datasetName)).length+1 =
          last+(newNames known ((turn :: before).map fun turn => turn.1.datasetName)).length+1 := by
        simp [newNames,hk]
        omega
      rw [hlen]
      exact hlater
    · rw [List.map_cons,List.mem_cons,not_or]
      exact ⟨hnew.2,hfirst⟩

lemma idsFree_cons : IdsFree member known last (turn :: turns) ↔
    (turn.1.datasetName ∉ known → ∀ bugId ∈ turn.1.ids, ¬member (last+1) bugId) ∧
      if turn.1.datasetName ∈ known then IdsFree member known last turns
      else IdsFree member (known ++ [turn.1.datasetName]) (last+1) turns := by
  constructor
  · intro h
    exact ⟨fun hnew bugId hb => h [] turn turns rfl hnew List.not_mem_nil bugId hb,idsFree_rest h⟩
  · rintro ⟨hhead,hrest⟩ before later after hsplit hnew hfirst bugId hb
    cases before with
    | nil =>
      cases hsplit
      exact hhead hnew bugId hb
    | cons first before =>
      cases hsplit
      rw [List.map_cons,List.mem_cons,not_or] at hfirst
      by_cases hk : turn.1.datasetName ∈ known
      · rw [if_pos hk] at hrest
        simpa [newNames,hk] using hrest before later after rfl hnew hfirst.2 bugId hb
      · rw [if_neg hk] at hrest
        have hlater := hrest before later after rfl (by
          rw [List.mem_append,not_or,List.mem_singleton]
          exact ⟨hnew,hfirst.1⟩) hfirst.2 bugId hb
        have hlen : last+1+(newNames (known ++ [turn.1.datasetName])
            (before.map fun turn => turn.1.datasetName)).length+1 =
            last+(newNames known ((turn :: before).map fun turn => turn.1.datasetName)).length+1 := by
          simp [newNames,hk]
          omega
        rw [hlen] at hlater
        exact hlater

lemma idsFree_congr (h : ∀ id, last < id → ∀ bugId, member id bugId ↔ member' id bugId) :
    IdsFree member known last turns ↔ IdsFree member' known last turns := by
  unfold IdsFree
  constructor
  · intro hfree before later after hsplit hnew hfirst bugId hb
    rw [← h _ (by omega)]
    exact hfree before later after hsplit hnew hfirst bugId hb
  · intro hfree before later after hsplit hnew hfirst bugId hb
    rw [h _ (by omega)]
    exact hfree before later after hsplit hnew hfirst bugId hb

end IdsFree

/-! ## Imports -/

/-- The members under a row's id, also where no row has it. -/
def BugDb.listed (db : BugDb) (id : ℕ) (bugId : String) : Prop := bugId ∈ db.memberIds (id : ℤ)

section Import
variable {db : BugDb} {turn : Turn} {turns : List Turn}

/-- The database after the update that a row makes. -/
def BugDb.overwrite (db : BugDb) (e : DatasetRow) (d : Definition) : BugDb :=
  (db.updateDataset e.datasetId d.description d.time d.ids d.dict).1

/-- The database after the creation that a row makes. -/
def BugDb.addNew (db : BugDb) (turn : Turn) : BugDb :=
  (db.createDataset turn.1.datasetName turn.1.description turn.1.ids turn.1.dict turn.2).1

lemma importDatasets_cons_named {e : DatasetRow}
    (he : db.byName.get? turn.1.datasetName = some e) :
    importDatasets (turn.row :: turns.map Turn.row) db =
      if turn.1.ids.Nodup then importDatasets (turns.map Turn.row) (db.overwrite e turn.1)
      else (db.overwrite e turn.1,.error .integrityError) := by
  obtain ⟨t,attrs,-,-,hread⟩ := db.readDataset_isSome
    (db.datasetsEncode e (Table.get?_eq_some.mp he).1)
  have hname : db.getDatasetByName turn.1.datasetName = some (some
      ⟨e.datasetId,e.datasetName,e.description,t,db.memberIds e.datasetId,attrs⟩) := by
    simp only [BugDb.getDatasetByName,he,hread,Option.map_some]
  have hresult := (BugDb.updateDataset_writes db turn.1.description turn.1.ids turn.1.dict turn.1.time
    (e.datasetId : ℤ)).2
  simp only [Turn.row,importDatasets,hname,turn.1.readsTime,turn.1.readsIds,turn.1.readsAttrs]
  by_cases hn : turn.1.ids.Nodup
  · rw [BugDb.updatedMembers_accepted.mpr hn,if_pos rfl] at hresult
    rw [if_pos hn]
    split
    · next out a hout =>
      rw [BugDb.overwrite,hout]
    · next out err hout =>
      rw [hout] at hresult
      cases hresult
  · have hflag : (db.updatedMembers (e.datasetId : ℤ) turn.1.ids).2 = false :=
      Bool.eq_false_iff.mpr (mt BugDb.updatedMembers_accepted.mp hn)
    rw [hflag,if_neg (by simp)] at hresult
    rw [if_neg hn]
    split
    · next out a hout =>
      rw [hout] at hresult
      cases hresult
    · next out err hout =>
      rw [hout] at hresult
      cases hresult
      rw [BugDb.overwrite,hout]

/-- The creation of a row's dataset is accepted. -/
def BugDb.Accepts (db : BugDb) (d : Definition) : Prop :=
  d.ids.Nodup ∧ ∀ bugId ∈ d.ids, ¬db.listed (db.datasets.last+1) bugId

lemma importDatasets_cons_new (turns : List Turn) (hnew : ¬db.Named turn.1.datasetName) :
    (db.Accepts turn.1 →
      importDatasets (turn.row :: turns.map Turn.row) db =
        ((importDatasets (turns.map Turn.row) (db.addNew turn)).1,
          (importDatasets (turns.map Turn.row) (db.addNew turn)).2.map
            fun names => turn.1.datasetName :: names)) ∧
    (¬db.Accepts turn.1 →
      importDatasets (turn.row :: turns.map Turn.row) db =
        (db.addNew turn,.error .integrityError)) := by
  have hname : db.getDatasetByName turn.1.datasetName = some none := by
    simp only [BugDb.getDatasetByName,byName_eq_none.mpr hnew]
  have hresult := (BugDb.createDataset_of_new turn.1.description turn.1.ids turn.1.dict turn.2 hnew).2
  simp only [Turn.row,importDatasets,hname,turn.1.readsIds,turn.1.readsAttrs]
  constructor
  · intro hacc
    rw [BugDb.createdMembers_accepted.mpr hacc,if_pos rfl] at hresult
    split
    · next out a hout =>
      rw [BugDb.addNew,hout]
    · next out err hout =>
      rw [hout] at hresult
      cases hresult
  · intro hacc
    have hflag : (db.createdMembers turn.1.ids).2 = false :=
      Bool.eq_false_iff.mpr (mt BugDb.createdMembers_accepted.mp hacc)
    rw [hflag,if_neg (by simp)] at hresult
    split
    · next out a hout =>
      rw [hout] at hresult
      cases hresult
    · next out err hout =>
      rw [hout] at hresult
      cases hresult
      rw [BugDb.addNew,hout]

lemma updated_overwrite (db : BugDb) (e : DatasetRow) (d : Definition) :
    BugDb.Updated db e.datasetId d.description d.time d.ids d.dict (db.overwrite e d) :=
  (BugDb.updateDataset_writes db d.description d.ids d.dict d.time (e.datasetId : ℤ)).1

lemma created_addNew (hnew : ¬db.Named turn.1.datasetName) :
    BugDb.Created db turn.1.datasetName turn.1.description turn.1.ids turn.1.dict turn.2
      (db.addNew turn) :=
  (BugDb.createDataset_of_new turn.1.description turn.1.ids turn.1.dict turn.2 hnew).1

/-- What an import needs to know of the database after an update. -/
lemma overwrite_frame {e : DatasetRow} (he : e ∈ db.datasets.rows) {d : Definition}
    (hn : d.ids.Nodup) :
    (db.overwrite e d).names = db.names ∧
      (db.overwrite e d).datasets.last = db.datasets.last ∧
      ∀ id, db.datasets.last < id → ∀ bugId,
        (db.overwrite e d).listed id bugId ↔ db.listed id bugId := by
  have hu := updated_overwrite db e d
  refine ⟨?_,by rw [hu.datasets]; rfl,?_⟩
  · simp only [BugDb.names,hu.datasets,AutoTable.rows_update,List.map_map]
    refine List.map_congr_left fun row _ => ?_
    simp only [Function.comp_apply]
    split <;> rfl
  · intro id hid bugId
    have hle := db.datasets.le_last e he
    exact (BugDb.mem_memberIds_updated hn hu.members).trans (by rw [if_neg (by omega)]; rfl)

lemma addNew_frame (hnew : ¬db.Named turn.1.datasetName) (hacc : db.Accepts turn.1) :
    (db.addNew turn).names = db.names ++ [turn.1.datasetName] ∧
      (db.addNew turn).datasets.last = db.datasets.last+1 ∧
      ∀ id, db.datasets.last+1 < id → ∀ bugId,
        (db.addNew turn).listed id bugId ↔ db.listed id bugId := by
  have hc := created_addNew hnew
  refine ⟨?_,by rw [hc.datasets]; rfl,?_⟩
  · simp only [BugDb.names,hc.datasets,AutoTable.rows_append,List.map_append]
    rfl
  · intro id hid bugId
    exact (BugDb.mem_memberIds_created (BugDb.createdMembers_accepted.mpr hacc) hc.members).trans
      (or_iff_left fun h => by omega)

/-- An import goes through exactly where no row lists a bug twice, and no new dataset finds one of
its bugs under its id. -/
theorem importDatasets_ok_iff (db : BugDb) (turns : List Turn) :
    (∃ names, (importDatasets (turns.map Turn.row) db).2 = .ok names) ↔
      (∀ turn ∈ turns, turn.1.ids.Nodup) ∧
        IdsFree db.listed db.names db.datasets.last turns := by
  induction turns generalizing db with
  | nil => exact ⟨fun _ => ⟨nofun,idsFree_nil⟩,fun _ => ⟨[],rfl⟩⟩
  | cons turn turns ih =>
    rw [idsFree_cons,List.forall_mem_cons,List.map_cons]
    by_cases hnamed : db.Named turn.1.datasetName
    · obtain ⟨e,he⟩ := Option.ne_none_iff_exists'.mp (mt byName_eq_none.mp (not_not.mpr hnamed))
      have hmem := (Table.get?_eq_some.mp he).1
      rw [importDatasets_cons_named he]
      by_cases hn : turn.1.ids.Nodup
      · obtain ⟨hnames,hlast,hlisted⟩ := overwrite_frame hmem hn
        rw [if_pos hn,ih,hnames,hlast,idsFree_congr hlisted]
        simp [hn,named_iff.mp hnamed]
      · rw [if_neg hn]
        simp [hn]
    · obtain ⟨hok,hbad⟩ := importDatasets_cons_new turns hnamed
      by_cases hacc : db.Accepts turn.1
      · obtain ⟨hnames,hlast,hlisted⟩ := addNew_frame hnamed hacc
        have hrest := ih (db.addNew turn)
        rw [hnames,hlast,idsFree_congr hlisted] at hrest
        have hknown := mt named_iff.mpr hnamed
        rw [hok hacc,if_neg hknown]
        constructor
        · rintro ⟨names,h⟩
          cases hr : (importDatasets (turns.map Turn.row) (db.addNew turn)).2 with
          | error e =>
            rw [hr] at h
            cases h
          | ok later =>
            obtain ⟨hd,hf⟩ := hrest.mp ⟨later,hr⟩
            exact ⟨⟨hacc.1,hd⟩,fun _ => hacc.2,hf⟩
        · rintro ⟨⟨-,hd⟩,-,hf⟩
          obtain ⟨later,hr⟩ := hrest.mpr ⟨hd,hf⟩
          exact ⟨turn.1.datasetName :: later,by rw [hr]; rfl⟩
      · rw [hbad hacc]
        simp only [reduceCtorEq,exists_false,false_iff]
        rintro ⟨⟨hn,-⟩,hfree,-⟩
        exact hacc ⟨hn,hfree (mt named_iff.mpr hnamed)⟩

/-- The last of the rows that define a dataset. -/
def lastOf (turns : List Turn) (name : String) : Option Turn :=
  turns.reverse.find? fun turn => turn.1.datasetName = name

lemma lastOf_cons (turn : Turn) (turns : List Turn) (name : String) :
    lastOf (turn :: turns) name =
      (lastOf turns name).or (if turn.1.datasetName = name then some turn else none) := by
  rw [lastOf,List.reverse_cons,List.find?_append]
  congr 1
  by_cases h : turn.1.datasetName = name
  · simp [h]
  · simp [h]

lemma contents_overwrite {e : DatasetRow} (he : db.byName.get? turn.1.datasetName = some e)
    (hn : turn.1.ids.Nodup) (name : String) :
    (db.overwrite e turn.1).contents name =
      if name = turn.1.datasetName then some turn.1.contents else db.contents name := by
  obtain ⟨-,hname⟩ := Table.get?_eq_some.mp he
  rw [← hname] at he ⊢
  exact contents_updated (updated_overwrite db e turn.1) he hn

lemma contents_addNew (hnew : ¬db.Named turn.1.datasetName) (hacc : db.Accepts turn.1)
    (name : String) : (db.addNew turn).contents name = if name = turn.1.datasetName then
      some { turn.1.contents with
        addedTime := turn.2.1.isoformat
        bugs := {bugId | db.listed (db.datasets.last+1) bugId ∨ bugId ∈ turn.1.ids} }
    else db.contents name :=
  contents_created (created_addNew hnew) hnew (BugDb.createdMembers_accepted.mpr hacc)

/-- What an import that goes through does: it creates the new names, and a dataset that was there
gets the contents of the last row of its name. -/
theorem importDatasets_spec {names : List String}
    (h : (importDatasets (turns.map Turn.row) db).2 = .ok names) :
    names = newNames db.names (turns.map fun turn => turn.1.datasetName) ∧
      (importDatasets (turns.map Turn.row) db).1.names = db.names ++ names ∧
      ∀ name, db.Named name → (importDatasets (turns.map Turn.row) db).1.contents name =
        ((lastOf turns name).map fun turn => turn.1.contents).or (db.contents name) := by
  induction turns generalizing db names with
  | nil =>
    cases h
    exact ⟨rfl,(List.append_nil _).symm,fun name _ => rfl⟩
  | cons turn turns ih =>
    have hcons : (turn :: turns).map Turn.row = turn.row :: turns.map Turn.row := rfl
    rw [hcons] at h ⊢
    by_cases hnamed : db.Named turn.1.datasetName
    · obtain ⟨e,he⟩ := Option.ne_none_iff_exists'.mp (mt byName_eq_none.mp (not_not.mpr hnamed))
      rw [importDatasets_cons_named he] at h ⊢
      by_cases hn : turn.1.ids.Nodup
      · rw [if_pos hn] at h ⊢
        obtain ⟨hframe,-⟩ := overwrite_frame (Table.get?_eq_some.mp he).1 hn
        obtain ⟨hnames,hout,hcontents⟩ := ih h
        rw [hframe] at hnames hout
        refine ⟨?_,hout,?_⟩
        · rw [hnames,List.map_cons,newNames,if_pos (named_iff.mp hnamed)]
        · intro name hname
          rw [hcontents name (by rw [named_iff,hframe]; exact named_iff.mp hname),
            contents_overwrite he hn,lastOf_cons]
          cases lastOf turns name with
          | some later => rfl
          | none =>
            by_cases hsame : turn.1.datasetName = name
            · simp [hsame]
            · simp [hsame,Ne.symm hsame]
      · rw [if_neg hn] at h
        cases h
    · obtain ⟨hok,hbad⟩ := importDatasets_cons_new turns hnamed
      by_cases hacc : db.Accepts turn.1
      · rw [hok hacc] at h ⊢
        obtain ⟨hframe,-⟩ := addNew_frame hnamed hacc
        obtain ⟨later,hr,rfl⟩ : ∃ later,
            (importDatasets (turns.map Turn.row) (db.addNew turn)).2 = .ok later ∧
              turn.1.datasetName :: later = names := by
          cases hr : (importDatasets (turns.map Turn.row) (db.addNew turn)).2 with
          | error e =>
            rw [hr] at h
            cases h
          | ok later =>
            rw [hr] at h
            cases h
            exact ⟨later,rfl,rfl⟩
        obtain ⟨hnames,hout,hcontents⟩ := ih hr
        rw [hframe] at hnames hout
        refine ⟨?_,?_,?_⟩
        · rw [hnames,List.map_cons,newNames,if_neg (mt named_iff.mpr hnamed)]
        · rw [hout,List.append_assoc,List.singleton_append]
        · intro name hname
          have hne : ¬turn.1.datasetName = name := fun he => hnamed (he ▸ hname)
          have hname' : (db.addNew turn).Named name := by
            rw [named_iff,hframe]
            exact List.mem_append_left _ (named_iff.mp hname)
          rw [hcontents name hname',contents_addNew hnamed hacc,if_neg (Ne.symm hne),lastOf_cons,
            if_neg hne,Option.or_none]
      · rw [hbad hacc] at h
        cases h

end Import

/-! ## Local datasets -/

/-- The import goes through, leaves every dataset that was there as it was, creates each other
name that it comes across once, and returns the names that it has created. -/
def LeavesLocal (db : BugDb) (turns : List Turn) : Prop :=
  ∃ names, (importDatasets (turns.map Turn.row) db).2 = .ok names ∧ names.Nodup ∧
    (∀ name, name ∈ names ↔
      ¬db.Named name ∧ ∃ turn ∈ turns, turn.1.datasetName = name) ∧
    (importDatasets (turns.map Turn.row) db).1.names = db.names ++ names ∧
    ∀ name, db.Named name →
      (importDatasets (turns.map Turn.row) db).1.contents name = db.contents name

/-- No row lists a bug twice, no new dataset lists a bug that is a member already under the id that
it gets, and the last row of each local name says what the local dataset is. -/
structure Agrees (db : BugDb) (turns : List Turn) : Prop where
  distinct : ∀ turn ∈ turns, turn.1.ids.Nodup
  free : IdsFree db.listed db.names db.datasets.last turns
  same : ∀ name, db.Named name → ∀ turn ∈ lastOf turns name,
    db.contents name = some turn.1.contents

/-- An import leaves the local datasets untouched exactly where it has nothing to change. -/
theorem leavesLocal_iff (db : BugDb) (turns : List Turn) :
    LeavesLocal db turns ↔ Agrees db turns := by
  constructor
  · rintro ⟨names,hok,-,-,-,hkept⟩
    obtain ⟨hd,hf⟩ := (importDatasets_ok_iff db turns).mp ⟨names,hok⟩
    refine ⟨hd,hf,?_⟩
    intro name hname turn hlast
    rw [← hkept name hname,(importDatasets_spec hok).2.2 name hname,hlast]
    rfl
  · rintro ⟨hd,hf,hsame⟩
    obtain ⟨names,hok⟩ := (importDatasets_ok_iff db turns).mpr ⟨hd,hf⟩
    obtain ⟨hnames,hout,hcontents⟩ := importDatasets_spec hok
    refine ⟨names,hok,?_,?_,hout,?_⟩
    · rw [hnames]
      exact nodup_newNames _ _
    · intro name
      rw [hnames,mem_newNames,List.mem_map,named_iff,and_comm]
    · intro name hname
      rw [hcontents name hname]
      cases hlast : lastOf turns name with
      | none => rfl
      | some turn => exact (hsame name hname turn hlast).symm

/-- The definition that an export makes of a dataset. -/
def BugDataset.definition (d : BugDataset) (h : ValidOffset d.addedTime) : Definition where
  toHfDataset := exportDataset d
  time := ⟨d.addedTime,h⟩
  ids := d.bugIds
  dict := d.attrs
  readsTime := readDateTime_isoformat ⟨d.addedTime,h⟩
  readsIds := decodeTexts_encodeTexts d.bugIds
  readsAttrs := decodeAttrs_encodeAttrs d.attrs

/-- A dataset of a local name, with another description. -/
def foreignDataset : BugDataset := ⟨7,"live","bugs of 2023",january.1,["b2"],.empty⟩

theorem local_dataset_overwritten :
    ¬LeavesLocal oneDataset [(foreignDataset.definition january.2,january)] := by
  rintro ⟨names,hok,-,-,-,hkept⟩
  have hname : oneDataset.Named "live" :=
    ⟨BugDb.newDataset "live" "bugs of 2024" .empty january 1,List.mem_singleton.mpr rfl,rfl⟩
  have hafter := (importDatasets_spec hok).2.2 "live" hname
  rw [hkept "live" hname] at hafter
  have hdescription := congrArg (Option.map Contents.description) hafter
  exact absurd hdescription (by decide)

end LiveKBench.KArenaDb
