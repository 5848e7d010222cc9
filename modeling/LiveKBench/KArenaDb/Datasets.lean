import LiveKBench.KArenaDb.Bugs
import LiveKBench.Lib.AutoTable

/-! The datasets: their definitions in `bug_datasets`, their bugs in `bug_dataset_members`. SQLite
does not enforce the foreign keys, so a dataset may list a bug that is not in `syzbot_bugs`. -/
namespace LiveKBench.KArenaDb
open KArenaWeb (DateTime)
open Lib

structure DatasetRow where
  datasetId : ℕ
  datasetName : String
  description : String
  addedTime : String
  attrs : String
  deriving DecidableEq

structure Member where
  datasetId : ℤ
  bugId : String
  deriving DecidableEq

/-- `PRIMARY KEY (datasetId, bugId)`. -/
def Member.key (m : Member) : ℤ × String := (m.datasetId,m.bugId)

/-- A `datetime`, whose offset is less than a day. -/
abbrev ValidTime := {t : DateTime // ValidOffset t}

def SyzbotBug.ValidTimes (bug : SyzbotBug) : Prop :=
  ValidOffset bug.addedTime ∧ ValidOffset bug.reportedTime

/-- The row holds the texts of a bug. -/
def BugRow.Encodes (row : BugRow) : Prop := ∃ bug : SyzbotBug, bug.ValidTimes ∧ row = bug.row

def DatasetRow.Encodes (row : DatasetRow) : Prop :=
  ∃ (t : ValidTime) (attrs : StrDict), row.addedTime = t.1.isoformat ∧ row.attrs = encodeAttrs attrs

/-- The three tables; `datasetName` is `UNIQUE`. -/
structure BugDb where
  bugs : BugTable
  datasets : AutoTable DatasetRow.datasetId
  members : Table Member.key
  bugsEncode : ∀ row ∈ bugs.rows, row.Encodes
  datasetsEncode : ∀ row ∈ datasets.rows, row.Encodes
  uniqueNames : (datasets.rows.map DatasetRow.datasetName).Nodup

inductive DbError
  | integrityError
  | valueError
  deriving DecidableEq, Repr

namespace BugDb

def empty : BugDb where
  bugs := .empty
  datasets := .empty
  members := .empty
  bugsEncode := fun _ h => absurd h List.not_mem_nil
  datasetsEncode := fun _ h => absurd h List.not_mem_nil
  uniqueNames := List.nodup_nil

lemma encodes_refresh {row : BugRow} (h : row.Encodes) (bug : SyzbotBug) :
    (bug.row.refresh row).Encodes := by
  obtain ⟨old,hv,rfl⟩ := h
  refine ⟨{ old with
    status := bug.status, subsystem := bug.subsystem, syzbotCrashReport := bug.syzbotCrashReport,
    syzbotData := bug.syzbotData },hv,?_⟩
  simp only [SyzbotBug.row,BugRow.refresh]

lemma encodes_insertSyzbotBug {bugs : BugTable} (h : ∀ row ∈ bugs.rows, row.Encodes)
    {bug : SyzbotBug} (hb : bug.ValidTimes) :
    ∀ row ∈ (KArenaDb.insertSyzbotBug bugs bug).rows, row.Encodes := by
  intro row hrow
  unfold KArenaDb.insertSyzbotBug Table.upsert at hrow
  split at hrow
  · rcases List.mem_append.mp hrow with hrow | hrow
    · exact h row hrow
    · rw [List.mem_singleton.mp hrow]
      exact ⟨bug,hb,rfl⟩
  · obtain ⟨old,hold,rfl⟩ := List.mem_map.mp hrow
    split
    · exact encodes_refresh (h old hold) bug
    · exact h old hold

def insertSyzbotBug (db : BugDb) (bug : {bug : SyzbotBug // bug.ValidTimes}) : BugDb :=
  { db with
    bugs := KArenaDb.insertSyzbotBug db.bugs bug
    bugsEncode := encodes_insertSyzbotBug db.bugsEncode bug.2 }

/-! ## Writing datasets -/

/-- The row that `create_dataset` inserts. -/
def newDataset (name description : String) (attrs : StrDict) (addedTime : ValidTime)
    (datasetId : ℕ) : DatasetRow :=
  ⟨datasetId,name,description,addedTime.1.isoformat,encodeAttrs attrs⟩

/-- What `update_dataset` makes of a row. -/
def rewritten (description : String) (attrs : StrDict) (addedTime : ValidTime)
    (row : DatasetRow) : DatasetRow :=
  { row with
    description := description, addedTime := addedTime.1.isoformat, attrs := encodeAttrs attrs }

theorem datasetId_newDataset (name description : String) (attrs : StrDict) (addedTime : ValidTime)
    (datasetId : ℕ) :
    (newDataset name description attrs addedTime datasetId).datasetId = datasetId := rfl

theorem datasetId_rewritten (description : String) (attrs : StrDict) (addedTime : ValidTime)
    (row : DatasetRow) : (rewritten description attrs addedTime row).datasetId = row.datasetId :=
  rfl

theorem datasetName_rewritten (description : String) (attrs : StrDict) (addedTime : ValidTime)
    (row : DatasetRow) :
    (rewritten description attrs addedTime row).datasetName = row.datasetName := rfl

def memberRows (datasetId : ℤ) (bugIds : List String) : List Member :=
  bugIds.map fun bugId => ⟨datasetId,bugId⟩

/-- The `INSERT` of a dataset; it fails where the name is taken. -/
def insertDataset (db : BugDb) (name description : String) (attrs : StrDict)
    (addedTime : ValidTime) : Option BugDb :=
  if h : ∃ row ∈ db.datasets.rows, row.datasetName = name then none
  else some
    { db with
      datasets := db.datasets.append (newDataset name description attrs addedTime)
        (datasetId_newDataset name description attrs addedTime)
      datasetsEncode := by
        intro row hrow
        rcases List.mem_append.mp hrow with hrow | hrow
        · exact db.datasetsEncode row hrow
        · rw [List.mem_singleton.mp hrow]
          exact ⟨addedTime,attrs,rfl,rfl⟩
      uniqueNames := by
        rw [AutoTable.rows_append,List.map_append,List.nodup_append]
        refine ⟨db.uniqueNames,List.nodup_singleton _,?_⟩
        intro a ha b hb
        obtain ⟨row,hrow,rfl⟩ := List.mem_map.mp ha
        rw [List.mem_singleton.mp hb]
        exact fun he => h ⟨row,hrow,he⟩ }

/-- The `UPDATE` of a dataset. -/
def rewriteDataset (db : BugDb) (datasetId : ℤ) (description : String) (attrs : StrDict)
    (addedTime : ValidTime) : BugDb :=
  { db with
    datasets := db.datasets.update (fun row => row.datasetId = datasetId)
      (rewritten description attrs addedTime) (datasetId_rewritten description attrs addedTime)
    datasetsEncode := by
      intro row hrow
      obtain ⟨old,hold,rfl⟩ := List.mem_map.mp hrow
      split
      · exact ⟨addedTime,attrs,rfl,rfl⟩
      · exact db.datasetsEncode old hold
    uniqueNames := by
      rw [AutoTable.rows_update,List.map_map]
      have hnames : DatasetRow.datasetName ∘ (fun row : DatasetRow =>
          if decide ((row.datasetId : ℤ) = datasetId) = true then
            rewritten description attrs addedTime row else row) = DatasetRow.datasetName := by
        funext row
        simp only [Function.comp_apply]
        split <;> rfl
      rw [hnames]
      exact db.uniqueNames }

/-- `executemany('INSERT INTO bug_dataset_members …')`. -/
def insertMembers (db : BugDb) (datasetId : ℤ) (bugIds : List String) : BugDb × Bool :=
  let (members,ok) := db.members.insertMany (memberRows datasetId bugIds)
  ({ db with members },ok)

def deleteMembers (db : BugDb) (datasetId : ℤ) : BugDb :=
  { db with members := db.members.delete fun m => m.datasetId = datasetId }

/-- `create_dataset` up to its commit; `addedTime` is the reading of `utcnow`. -/
def createDataset (db : BugDb) (name description : String) (bugIds : List String) (attrs : StrDict)
    (addedTime : ValidTime) : BugDb × Except DbError BugDataset :=
  match db.insertDataset name description attrs addedTime with
  | none => (db,.error .integrityError)
  | some inserted =>
    let datasetId := inserted.datasets.last
    let (db,ok) := inserted.insertMembers datasetId bugIds
    (db,if ok then .ok ⟨datasetId,name,description,addedTime,bugIds,attrs⟩
      else .error .integrityError)

/-- `update_dataset` up to its commit. -/
def updateDataset (db : BugDb) (datasetId : ℤ) (description : String) (addedTime : ValidTime)
    (bugIds : List String) (attrs : StrDict) : BugDb × Except DbError Unit :=
  let (db,ok) := ((db.rewriteDataset datasetId description attrs addedTime).deleteMembers
    datasetId).insertMembers datasetId bugIds
  (db,if ok then .ok () else .error .integrityError)

section Writes
variable (db : BugDb) (name description : String) (bugIds : List String) (attrs : StrDict)
  (addedTime : ValidTime)

/-- The name is taken by a dataset. -/
def Named : Prop := ∃ row ∈ db.datasets.rows, row.datasetName = name

/-- The members as the `executemany` of `create_dataset` leaves them. -/
def createdMembers : Table Member.key × Bool :=
  db.members.insertMany (memberRows ((db.datasets.last+1 : ℕ) : ℤ) bugIds)

variable {db name}

theorem createDataset_of_named (h : db.Named name) :
    db.createDataset name description bugIds attrs addedTime = (db,.error .integrityError) := by
  have hnone : db.insertDataset name description attrs addedTime = none := dif_pos h
  simp only [createDataset,hnone]

/-- What `create_dataset` writes under a new name. -/
structure Created (db : BugDb) (name description : String) (bugIds : List String) (attrs : StrDict)
    (addedTime : ValidTime) (out : BugDb) : Prop where
  bugs : out.bugs = db.bugs
  datasets : out.datasets = db.datasets.append (newDataset name description attrs addedTime)
    (datasetId_newDataset name description attrs addedTime)
  members : out.members = (db.createdMembers bugIds).1

theorem createDataset_of_new (h : ¬db.Named name) :
    Created db name description bugIds attrs addedTime
        (db.createDataset name description bugIds attrs addedTime).1 ∧
      (db.createDataset name description bugIds attrs addedTime).2 =
        if (db.createdMembers bugIds).2 then
          .ok ⟨db.datasets.last+1,name,description,addedTime,bugIds,attrs⟩
        else .error .integrityError := by
  obtain ⟨inserted,hi⟩ : ∃ inserted, db.insertDataset name description attrs addedTime =
      some inserted := ⟨_,dif_neg h⟩
  have hvalue : inserted = _ := Option.some.inj (hi.symm.trans (dif_neg h))
  simp only [createDataset,hi]
  subst hvalue
  exact ⟨⟨rfl,rfl,rfl⟩,rfl⟩

/-- The members as `update_dataset` leaves them. -/
def updatedMembers (db : BugDb) (datasetId : ℤ) (bugIds : List String) : Table Member.key × Bool :=
  (db.members.delete fun m => m.datasetId = datasetId).insertMany (memberRows datasetId bugIds)

/-- What `update_dataset` writes. -/
structure Updated (db : BugDb) (datasetId : ℤ) (description : String) (addedTime : ValidTime)
    (bugIds : List String) (attrs : StrDict) (out : BugDb) : Prop where
  bugs : out.bugs = db.bugs
  datasets : out.datasets = db.datasets.update (fun row => row.datasetId = datasetId)
    (rewritten description attrs addedTime) (datasetId_rewritten description attrs addedTime)
  members : out.members = (db.updatedMembers datasetId bugIds).1

variable (db)

theorem updateDataset_writes (datasetId : ℤ) :
    Updated db datasetId description addedTime bugIds attrs
        (db.updateDataset datasetId description addedTime bugIds attrs).1 ∧
      (db.updateDataset datasetId description addedTime bugIds attrs).2 =
        if (db.updatedMembers datasetId bugIds).2 then .ok () else .error .integrityError :=
  ⟨⟨rfl,rfl,rfl⟩,rfl⟩

end Writes

/-! ## Reading datasets -/

/-- `SELECT bugId FROM bug_dataset_members WHERE datasetId = ?`. -/
def memberIds (db : BugDb) (datasetId : ℤ) : List String :=
  (db.members.select fun m => m.datasetId = datasetId).map Member.bugId

lemma mem_memberIds {db : BugDb} {datasetId : ℤ} {bugId : String} :
    bugId ∈ db.memberIds datasetId ↔ ⟨datasetId,bugId⟩ ∈ db.members.rows := by
  unfold memberIds
  rw [List.mem_map]
  constructor
  · rintro ⟨⟨id,bug⟩,hm,rfl⟩
    obtain ⟨hm',hid⟩ := Table.mem_select.mp hm
    obtain rfl : id = datasetId := of_decide_eq_true hid
    exact hm'
  · intro hm
    exact ⟨_,Table.mem_select.mpr ⟨hm,decide_eq_true rfl⟩,rfl⟩

lemma mem_memberRows {datasetId : ℤ} {bugIds : List String} {m : Member} :
    m ∈ memberRows datasetId bugIds ↔ m.datasetId = datasetId ∧ m.bugId ∈ bugIds := by
  unfold memberRows
  rw [List.mem_map]
  constructor
  · rintro ⟨bugId,hb,rfl⟩
    exact ⟨rfl,hb⟩
  · rintro ⟨rfl,hb⟩
    exact ⟨m.bugId,hb,rfl⟩

lemma nodup_memberRows {datasetId : ℤ} {bugIds : List String} :
    ((memberRows datasetId bugIds).map Member.key).Nodup ↔ bugIds.Nodup := by
  have hinj : Function.Injective fun bugId : String => (datasetId,bugId) :=
    fun a b h => (Prod.mk.inj h).2
  rw [memberRows,List.map_map]
  exact List.nodup_map_iff hinj

section Accepted
variable {db : BugDb} {bugIds : List String} {bugId : String} {datasetId id : ℤ}

lemma get?_members_eq_none :
    db.members.get? (datasetId,bugId) = none ↔ bugId ∉ db.memberIds datasetId := by
  rw [Table.get?_eq_none,mem_memberIds]
  constructor
  · intro h hm
    exact h _ hm rfl
  · rintro h ⟨id,bug⟩ hm hk
    cases hk
    exact h hm

/-- An update is accepted exactly where it lists no bug twice. -/
theorem updatedMembers_accepted : (db.updatedMembers datasetId bugIds).2 = true ↔ bugIds.Nodup := by
  unfold updatedMembers
  rw [Table.insertMany_eq_true_iff,nodup_memberRows]
  refine and_iff_left ?_
  intro m hm
  obtain ⟨hid,-⟩ := mem_memberRows.mp hm
  rw [Table.get?_eq_none]
  intro m' hm' hk
  have hid' : m'.datasetId = datasetId := (congrArg Prod.fst hk).trans hid
  simpa [hid'] using List.of_mem_filter hm'

/-- A new dataset is accepted exactly where it lists no bug twice and none that is already a member
under the id that it gets. -/
theorem createdMembers_accepted : (db.createdMembers bugIds).2 = true ↔
    bugIds.Nodup ∧ ∀ bugId ∈ bugIds, bugId ∉ db.memberIds ((db.datasets.last+1 : ℕ) : ℤ) := by
  unfold createdMembers
  rw [Table.insertMany_eq_true_iff,nodup_memberRows]
  refine and_congr_right fun _ => ?_
  constructor
  · intro h bugId hb
    exact get?_members_eq_none.mp (h ⟨_,bugId⟩ (mem_memberRows.mpr ⟨rfl,hb⟩))
  · intro h m hm
    obtain ⟨hid,hb⟩ := mem_memberRows.mp hm
    have hkey : Member.key m = (((db.datasets.last+1 : ℕ) : ℤ),m.bugId) := by rw [← hid]; rfl
    rw [hkey,get?_members_eq_none]
    exact h m.bugId hb

/-- The members after an update that is accepted. -/
theorem mem_memberIds_updated {out : BugDb} (h : bugIds.Nodup)
    (hout : out.members = (db.updatedMembers datasetId bugIds).1) :
    bugId ∈ out.memberIds id ↔
      if id = datasetId then bugId ∈ bugIds else bugId ∈ db.memberIds id := by
  have haccepted : (db.updatedMembers datasetId bugIds).2 = true := updatedMembers_accepted.mpr h
  have hfresh := Table.insertMany_eq_true_iff.mp haccepted
  have hrows := (Table.insertMany_of_fresh _ _ hfresh.1 hfresh.2).2
  have hmembers : out.members.rows = (db.members.delete fun m => m.datasetId = datasetId).rows ++
      memberRows datasetId bugIds := by
    rw [hout]
    exact hrows
  rw [mem_memberIds,mem_memberIds,hmembers,List.mem_append,mem_memberRows]
  by_cases hid : id = datasetId
  · subst hid
    simp [Table.delete]
  · simp [Table.delete,hid]

/-- The members after a creation that is accepted. -/
theorem mem_memberIds_created {out : BugDb} (h : (db.createdMembers bugIds).2 = true)
    (hout : out.members = (db.createdMembers bugIds).1) :
    bugId ∈ out.memberIds id ↔
      bugId ∈ db.memberIds id ∨ id = ((db.datasets.last+1 : ℕ) : ℤ) ∧ bugId ∈ bugIds := by
  have hfresh := Table.insertMany_eq_true_iff.mp h
  have hrows := (Table.insertMany_of_fresh _ _ hfresh.1 hfresh.2).2
  have hmembers : out.members.rows =
      db.members.rows ++ memberRows ((db.datasets.last+1 : ℕ) : ℤ) bugIds := by
    rw [hout]
    exact hrows
  rw [mem_memberIds,mem_memberIds,hmembers,List.mem_append,mem_memberRows]

end Accepted

/-- The dataset of a row; a text that does not read raises. -/
def readDataset (db : BugDb) (row : DatasetRow) : Option BugDataset := do
  let addedTime ← fromisoformat row.addedTime
  let attrs ← decodeAttrs row.attrs
  return ⟨row.datasetId,row.datasetName,row.description,addedTime,db.memberIds row.datasetId,attrs⟩

/-- The datasets under their names. -/
def byName (db : BugDb) : Table DatasetRow.datasetName := ⟨db.datasets.rows,db.uniqueNames⟩

/-- `get_dataset_by_name`; the outer `none` is the exception of a text that does not read. -/
def getDatasetByName (db : BugDb) (name : String) : Option (Option BugDataset) :=
  match db.byName.get? name with
  | none => some none
  | some row => (db.readDataset row).map some

def getAllDatasets (db : BugDb) : Option (List BugDataset) := db.datasets.rows.mapM db.readDataset

/-- Every dataset reads. -/
theorem readDataset_isSome (db : BugDb) {row : DatasetRow} (h : row.Encodes) :
    ∃ t attrs, row.addedTime = t.1.isoformat ∧ row.attrs = encodeAttrs attrs ∧
      db.readDataset row = some
        ⟨row.datasetId,row.datasetName,row.description,(t : ValidTime),
          db.memberIds row.datasetId,attrs⟩ := by
  obtain ⟨t,attrs,ht,ha⟩ := h
  refine ⟨t,attrs,ht,ha,?_⟩
  simp [readDataset,ht,ha,fromisoformat_isoformat t.2]

end BugDb
end LiveKBench.KArenaDb
