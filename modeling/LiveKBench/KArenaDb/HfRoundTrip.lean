import LiveKBench.KArenaDb.HfSync

/-! An export followed by an import into a new database. Bugs come back as they were; a dataset
comes back with the time of its import, since `create_dataset` does not take the exported one, and
the second import, which updates, sets the exported time. -/
namespace LiveKBench.KArenaDb
open Lib

/-- `import_bugs` and then `import_datasets`; `now` is what `utcnow` gives at the creation of each
dataset. -/
def importAll (bugs : List BugRow) (datasets : List HfDataset) (now : String → ValidTime)
    (db : BugDb) : BugDb × Except DbError (List String) :=
  match importBugs bugs db with
  | (db,.error e) => (db,.error e)
  | (db,.ok _) => importDatasets (datasets.map fun row => (row,now row.datasetName)) db

/-- The import of an export into a new database gives its bugs and its datasets, up to their ids
and the order of their members, and a second import changes nothing. -/
structure RoundTrips (db : BugDb) (now now' : String → ValidTime) (bugs : List BugRow)
    (datasets : List HfDataset) : Prop where
  exported : db.exportRows = some (bugs,datasets)
  imports : ∃ names, (importAll bugs datasets now .empty).2 = .ok names
  sameBugs : (importAll bugs datasets now .empty).1.bugs = db.bugs
  sameDatasets : ∀ name,
    (importAll bugs datasets now .empty).1.contents name = db.contents name
  again : ∃ names, (importAll bugs datasets now' (importAll bugs datasets now .empty).1).2 = .ok names
  unchanged : (importAll bugs datasets now' (importAll bugs datasets now .empty).1).1.Same
    (importAll bugs datasets now .empty).1

/-! ## Bugs -/

lemma Table.ext_rows {κ ρ : Type*} {key : ρ → κ} {t u : Table key} (h : t.rows = u.rows) : t = u := by
  obtain ⟨rows,_⟩ := t
  obtain ⟨rows',_⟩ := u
  cases h
  rfl

lemma exportBug_rowToBug {row : BugRow} (h : row.Encodes) :
    ∃ bug, rowToBug row = some bug ∧ exportBug bug = row := by
  obtain ⟨bug,⟨ha,hr⟩,rfl⟩ := h
  refine ⟨bug,?_,rfl⟩
  simp [rowToBug,SyzbotBug.row,fromisoformat_isoformat ha,fromisoformat_isoformat hr]

lemma readBug_of_encodes {row : BugRow} (h : row.Encodes) :
    ∃ bug, readBug row = some bug ∧ bug.1.row = row := by
  obtain ⟨bug,⟨ha,hr⟩,rfl⟩ := h
  refine ⟨⟨bug,ha,hr⟩,?_,rfl⟩
  have hadded := readDateTime_isoformat ⟨bug.addedTime,ha⟩
  have hreported := readDateTime_isoformat ⟨bug.reportedTime,hr⟩
  simp only at hadded hreported
  simp [readBug,SyzbotBug.row,hadded,hreported]

lemma bugs_exported (db : BugDb) : ∃ bugs, db.getAllBugs = some bugs ∧ bugs.map exportBug = db.bugs.rows := by
  have hread : ∀ rows : List BugRow, (∀ row ∈ rows, row.Encodes) →
      ∃ bugs, rows.mapM rowToBug = some bugs ∧ bugs.map exportBug = rows := by
    intro rows
    induction rows with
    | nil => exact fun _ => ⟨[],rfl,rfl⟩
    | cons row rows ih =>
      intro h
      obtain ⟨bug,hb,he⟩ := exportBug_rowToBug (h row List.mem_cons_self)
      obtain ⟨bugs,hbs,hes⟩ := ih fun r hr => h r (List.mem_cons_of_mem _ hr)
      exact ⟨bug :: bugs,by simp [hb,hbs],by rw [List.map_cons,he,hes]⟩
  exact hread db.bugs.rows db.bugsEncode

/-- New bugs are appended, in their order. -/
lemma importBugsFrom_new {existing : List String} {rows : List BugRow} {db : BugDb}
    (henc : ∀ row ∈ rows, row.Encodes)
    (hnew : ((db.bugs.rows ++ rows).map BugRow.bugId).Nodup) :
    ∃ ids, (importBugsFrom existing rows db).2 = .ok ids ∧
      (importBugsFrom existing rows db).1.bugs.rows = db.bugs.rows ++ rows ∧
      (importBugsFrom existing rows db).1.datasets = db.datasets ∧
      (importBugsFrom existing rows db).1.members = db.members := by
  induction rows generalizing db with
  | nil => exact ⟨[],rfl,(List.append_nil _).symm,rfl,rfl⟩
  | cons row rows ih =>
    obtain ⟨bug,hread,hrow⟩ := readBug_of_encodes (henc row List.mem_cons_self)
    have hfree : db.bugs.get? bug.1.row.bugId = none := by
      rw [hrow,Table.get?_eq_none]
      intro r hr he
      rw [List.map_append,List.nodup_append] at hnew
      exact hnew.2.2 _ (List.mem_map_of_mem hr) _ (List.mem_map_of_mem List.mem_cons_self) he
    have hinsert : (db.insertSyzbotBug bug).bugs.rows = db.bugs.rows ++ [row] := by
      have hup : (db.insertSyzbotBug bug).bugs = db.bugs.insert bug.1.row hfree := dif_pos hfree
      rw [hup,Table.rows_insert,hrow]
    obtain ⟨ids,hok,hbugs,hdatasets,hmembers⟩ := @ih (db.insertSyzbotBug bug)
      (fun r hr => henc r (List.mem_cons_of_mem _ hr))
      (by rw [hinsert,List.append_assoc,List.singleton_append]; exact hnew)
    simp only [importBugsFrom,hread,hok]
    refine ⟨_,rfl,?_,hdatasets,hmembers⟩
    rw [hbugs,hinsert,List.append_assoc,List.singleton_append]

/-- Bugs that are there already stay as they are. -/
lemma importBugsFrom_known {existing : List String} {rows : List BugRow} {db : BugDb}
    (henc : ∀ row ∈ rows, row.Encodes) (hknown : ∀ row ∈ rows, row ∈ db.bugs.rows) :
    ∃ ids, (importBugsFrom existing rows db).2 = .ok ids ∧
      (importBugsFrom existing rows db).1.bugs = db.bugs ∧
      (importBugsFrom existing rows db).1.datasets = db.datasets ∧
      (importBugsFrom existing rows db).1.members = db.members := by
  induction rows generalizing db with
  | nil => exact ⟨[],rfl,rfl,rfl,rfl⟩
  | cons row rows ih =>
    obtain ⟨bug,hread,hrow⟩ := readBug_of_encodes (henc row List.mem_cons_self)
    have hget : db.bugs.get? row.bugId = some row :=
      Table.get?_eq_some.mpr ⟨hknown row List.mem_cons_self,rfl⟩
    have hsame : (db.insertSyzbotBug bug).bugs = db.bugs := by
      have htaken : ¬db.bugs.get? bug.1.row.bugId = none := by
        rw [hrow,hget]
        exact Option.some_ne_none row
      have hup : (db.insertSyzbotBug bug).bugs = db.bugs.update
          (fun r => r.bugId = bug.1.row.bugId) bug.1.row.refresh bug.1.row.bugId_refresh :=
        dif_neg htaken
      apply Table.ext_rows
      rw [hup,Table.rows_update]
      refine map_eq_self_iff.mpr fun r hr => ?_
      split
      · next hid =>
        have hid' : r.bugId = row.bugId := (of_decide_eq_true hid).trans (congrArg BugRow.bugId hrow)
        obtain rfl : r = row := by
          have hr' := Table.get?_eq_some.mpr ⟨hr,hid'⟩
          exact Option.some.inj (hr'.symm.trans hget)
        rw [hrow]
        rfl
      · rfl
    obtain ⟨ids,hok,hbugs,hdatasets,hmembers⟩ := @ih (db.insertSyzbotBug bug)
      (fun r hr => henc r (List.mem_cons_of_mem _ hr))
      (fun r hr => by rw [hsame]; exact hknown r (List.mem_cons_of_mem _ hr))
    simp only [importBugsFrom,hread,hok]
    exact ⟨_,rfl,hbugs.trans hsame,hdatasets,hmembers⟩

/-! ## Datasets -/

/-- The exported definitions say what the datasets are. -/
lemma datasets_exported (db : BugDb) : ∃ datasets, ∃ ds : List Definition,
    db.getAllDatasets = some datasets ∧
      datasets.map exportDataset = ds.map Definition.toHfDataset ∧
      ds.map (fun d => d.datasetName) = db.names ∧
      ∀ d ∈ ds, db.contents d.datasetName = some d.contents ∧ d.ids.Nodup := by
  have hread : ∀ rows : List DatasetRow, (∀ row ∈ rows, row ∈ db.datasets.rows) →
      ∃ datasets, ∃ ds : List Definition, rows.mapM db.readDataset = some datasets ∧
        datasets.map exportDataset = ds.map Definition.toHfDataset ∧
        ds.map (fun d => d.datasetName) = rows.map DatasetRow.datasetName ∧
        ∀ d ∈ ds, db.contents d.datasetName = some d.contents ∧ d.ids.Nodup := by
    intro rows
    induction rows with
    | nil => exact fun _ => ⟨[],[],rfl,rfl,rfl,nofun⟩
    | cons row rows ih =>
      intro hmem
      obtain ⟨datasets,ds,hrest,hrows,hnames,hds⟩ := ih fun r hr => hmem r (List.mem_cons_of_mem _ hr)
      have hrow := hmem row List.mem_cons_self
      obtain ⟨t,attrs,ht,ha,hr⟩ := db.readDataset_isSome (db.datasetsEncode row hrow)
      let dataset : BugDataset :=
        ⟨row.datasetId,row.datasetName,row.description,t,db.memberIds row.datasetId,attrs⟩
      refine ⟨dataset :: datasets,dataset.definition t.2 :: ds,by simp [hr,hrest,dataset],?_,?_,?_⟩
      · rw [List.map_cons,List.map_cons,hrows]
        rfl
      · rw [List.map_cons,List.map_cons,hnames]
        rfl
      · intro d hd
        rcases List.mem_cons.mp hd with rfl | hd
        · have hget : db.byName.get? row.datasetName = some row :=
            Table.get?_eq_some.mpr ⟨hrow,rfl⟩
          refine ⟨?_,nodup_memberIds db row.datasetId⟩
          change db.contents row.datasetName = _
          rw [BugDb.contents,hget,Option.map_some,ht,ha]
          rfl
        · exact hds d hd
  exact hread db.datasets.rows fun _ h => h

/-- The turns of an import of some definitions. -/
def turnsOf (ds : List Definition) (now : String → ValidTime) : List Turn :=
  ds.map fun d => (d,now d.datasetName)

lemma rows_turnsOf (ds : List Definition) (now : String → ValidTime) :
    (turnsOf ds now).map Turn.row =
      (ds.map Definition.toHfDataset).map fun row => (row,now row.datasetName) := by
  rw [turnsOf,List.map_map,List.map_map]
  rfl

lemma lastOf_eq_none {turns : List Turn} {name : String}
    (h : name ∉ turns.map fun turn => turn.1.datasetName) : lastOf turns name = none := by
  rw [lastOf,List.find?_eq_none]
  intro turn hturn hname
  rw [List.mem_reverse] at hturn
  exact h (List.mem_map.mpr ⟨turn,hturn,of_decide_eq_true hname⟩)

/-- A name that is new and has one row gets the dataset of this row, but for its time. -/
lemma importDatasets_new {db : BugDb} {turns : List Turn} {names : List String}
    (h : (importDatasets (turns.map Turn.row) db).2 = .ok names)
    (hn : (turns.map fun turn => turn.1.datasetName).Nodup) {turn : Turn} (hturn : turn ∈ turns)
    (hnew : ¬db.Named turn.1.datasetName) :
    ∃ id, db.datasets.last < id ∧
      (importDatasets (turns.map Turn.row) db).1.contents turn.1.datasetName =
        some { turn.1.contents with
          addedTime := turn.2.1.isoformat
          bugs := {bugId | db.listed id bugId ∨ bugId ∈ turn.1.ids} } := by
  induction turns generalizing db names with
  | nil => cases hturn
  | cons first turns ih =>
    have hcons : (first :: turns).map Turn.row = first.row :: turns.map Turn.row := rfl
    rw [hcons] at h ⊢
    rw [List.map_cons,List.nodup_cons] at hn
    rcases List.mem_cons.mp hturn with rfl | hturn
    · obtain ⟨hok,hbad⟩ := importDatasets_cons_new turns hnew
      by_cases hacc : db.Accepts turn.1
      · rw [hok hacc] at h ⊢
        obtain ⟨hframe,-⟩ := addNew_frame hnew hacc
        have hname : (db.addNew turn).Named turn.1.datasetName := by
          rw [named_iff,hframe]
          exact List.mem_append_right _ (List.mem_singleton.mpr rfl)
        cases hr : (importDatasets (turns.map Turn.row) (db.addNew turn)).2 with
        | error e =>
          rw [hr] at h
          cases h
        | ok later =>
          refine ⟨db.datasets.last+1,Nat.lt_succ_self _,?_⟩
          rw [(importDatasets_spec hr).2.2 _ hname,lastOf_eq_none hn.1,Option.map_none,
            Option.none_or,contents_addNew hnew hacc,if_pos rfl]
      · rw [hbad hacc] at h
        cases h
    · have hne : ¬turn.1.datasetName = first.1.datasetName := by
        intro he
        exact hn.1 (he ▸ List.mem_map.mpr ⟨turn,hturn,rfl⟩)
      by_cases hnamed : db.Named first.1.datasetName
      · obtain ⟨e,he⟩ := Option.ne_none_iff_exists'.mp (mt byName_eq_none.mp (not_not.mpr hnamed))
        rw [importDatasets_cons_named he] at h ⊢
        by_cases hids : first.1.ids.Nodup
        · rw [if_pos hids] at h ⊢
          obtain ⟨hframe,hlast,hlisted⟩ := overwrite_frame (Table.get?_eq_some.mp he).1 hids
          obtain ⟨id,hid,hc⟩ := ih h hn.2 hturn (by
            rw [named_iff,hframe]
            exact mt named_iff.mpr hnew)
          rw [hlast] at hid
          refine ⟨id,hid,?_⟩
          simpa only [hlisted id hid] using hc
        · rw [if_neg hids] at h
          cases h
      · obtain ⟨hok,hbad⟩ := importDatasets_cons_new turns hnamed
        by_cases hacc : db.Accepts first.1
        · rw [hok hacc] at h ⊢
          obtain ⟨hframe,hlast,hlisted⟩ := addNew_frame hnamed hacc
          cases hr : (importDatasets (turns.map Turn.row) (db.addNew first)).2 with
          | error e =>
            rw [hr] at h
            cases h
          | ok later =>
            obtain ⟨id,hid,hc⟩ := ih hr hn.2 hturn (by
              rw [named_iff,hframe,List.mem_append,List.mem_singleton,not_or]
              exact ⟨mt named_iff.mpr hnew,hne⟩)
            rw [hlast] at hid
            refine ⟨id,by omega,?_⟩
            simpa only [hlisted id hid] using hc
        · rw [hbad hacc] at h
          cases h

/-- An import of datasets leaves the bugs alone. -/
lemma bugs_importDatasets (db : BugDb) (turns : List Turn) :
    (importDatasets (turns.map Turn.row) db).1.bugs = db.bugs := by
  induction turns generalizing db with
  | nil => rfl
  | cons turn turns ih =>
    have hcons : (turn :: turns).map Turn.row = turn.row :: turns.map Turn.row := rfl
    rw [hcons]
    by_cases hnamed : db.Named turn.1.datasetName
    · obtain ⟨e,he⟩ := Option.ne_none_iff_exists'.mp (mt byName_eq_none.mp (not_not.mpr hnamed))
      have hbugs := (updated_overwrite db e turn.1).bugs
      rw [importDatasets_cons_named he]
      split
      · exact (ih _).trans hbugs
      · exact hbugs
    · obtain ⟨hok,hbad⟩ := importDatasets_cons_new turns hnamed
      have hbugs := (created_addNew hnamed).bugs
      by_cases hacc : db.Accepts turn.1
      · rw [hok hacc]
        exact (ih _).trans hbugs
      · rw [hbad hacc]
        exact hbugs

/-! ## The second import -/

section Again
variable {db db' : BugDb}

lemma BugDb.Same.trans {db'' : BugDb} (h : db.Same db') (h' : db'.Same db'') : db.Same db'' :=
  ⟨h.bugs.trans h'.bugs,h.datasets.trans h'.datasets,h.members.trans h'.members⟩

lemma contents_of_same (h : db.Same db') (name : String) : db.contents name = db'.contents name := by
  have hname : db.byName = db'.byName := by
    apply Table.ext_rows
    simp only [BugDb.byName,h.datasets]
  rw [BugDb.contents,BugDb.contents,hname]
  cases db'.byName.get? name with
  | none => rfl
  | some row =>
    simp only [Option.map_some]
    congr 2
    ext bugId
    exact BugDb.mem_memberIds.trans ((h.members.mem_iff).trans BugDb.mem_memberIds.symm)

/-- An update that writes what is there changes nothing. -/
lemma same_overwrite {e : DatasetRow} {d : Definition}
    (he : db.byName.get? d.datasetName = some e) (hc : db.contents d.datasetName = some d.contents)
    (hn : d.ids.Nodup) : (db.overwrite e d).Same db := by
  have hu := updated_overwrite db e d
  have hmem := (Table.get?_eq_some.mp he).1
  rw [BugDb.contents,he,Option.map_some,Option.some.injEq] at hc
  obtain ⟨hdescription,htime,hattrs,hbugs⟩ := Contents.mk.inj hc
  refine ⟨hu.bugs,hu.datasets.trans ((rewrite_eq_iff _ _ _ _ _).mpr ?_),?_⟩
  · intro row hrow hid
    obtain rfl := eq_of_datasetId hrow hmem (by exact_mod_cast hid)
    exact ⟨hdescription,htime,hattrs⟩
  · refine (List.perm_ext_iff_of_nodup ((db.overwrite e d).members.nodup.of_map _)
      (db.members.nodup.of_map _)).mpr fun m => ?_
    have hafter : m ∈ (db.overwrite e d).members.rows ↔ _ :=
      BugDb.mem_memberIds.symm.trans (BugDb.mem_memberIds_updated hn hu.members)
    refine hafter.trans ?_
    split
    · next hid =>
      have hset : m.bugId ∈ db.memberIds e.datasetId ↔ m.bugId ∈ d.ids :=
        iff_of_eq (congrArg (fun bugs : Set String => m.bugId ∈ bugs) hbugs)
      rw [← hset,← hid]
      exact BugDb.mem_memberIds
    · exact BugDb.mem_memberIds

/-- An import of datasets that are all there, as the rows say, changes nothing. -/
lemma importDatasets_again {turns : List Turn}
    (h : ∀ turn ∈ turns, db.contents turn.1.datasetName = some turn.1.contents ∧
      turn.1.ids.Nodup) :
    (importDatasets (turns.map Turn.row) db).2 = .ok [] ∧
      (importDatasets (turns.map Turn.row) db).1.Same db := by
  induction turns generalizing db with
  | nil => exact ⟨rfl,.refl db⟩
  | cons turn turns ih =>
    have hcons : (turn :: turns).map Turn.row = turn.row :: turns.map Turn.row := rfl
    obtain ⟨hc,hn⟩ := h turn List.mem_cons_self
    have hnamed : db.byName.get? turn.1.datasetName ≠ none := by
      intro hnone
      rw [BugDb.contents,hnone] at hc
      cases hc
    obtain ⟨e,he⟩ := Option.ne_none_iff_exists'.mp hnamed
    have hsame := same_overwrite he hc hn
    rw [hcons,importDatasets_cons_named he,if_pos hn]
    obtain ⟨hok,hrest⟩ := @ih (db.overwrite e turn.1) fun later hl => by
      rw [contents_of_same hsame]
      exact h later (List.mem_cons_of_mem _ hl)
    exact ⟨hok,hrest.trans hsame⟩

end Again

/-! ## The round trip -/

/-- Each dataset was created, when it was imported, at the time that its row had. -/
def TimesAgree (db : BugDb) (now : String → ValidTime) : Prop :=
  ∀ row ∈ db.datasets.rows, (now row.datasetName).1.isoformat = row.addedTime

lemma importBugs_empty (db : BugDb) : ∃ ids,
    (importBugs db.bugs.rows .empty).2 = .ok ids ∧
      (importBugs db.bugs.rows .empty).1.bugs = db.bugs ∧
      (importBugs db.bugs.rows .empty).1.datasets = .empty ∧
      (importBugs db.bugs.rows .empty).1.members = .empty := by
  obtain ⟨ids,hok,hbugs,hdatasets,hmembers⟩ := @importBugsFrom_new [] db.bugs.rows .empty
    db.bugsEncode db.bugs.nodup
  exact ⟨ids,hok,Table.ext_rows hbugs,hdatasets,hmembers⟩

/-- What the first import makes of the datasets. -/
lemma importDatasets_empty {db start : BugDb} {ds : List Definition} (now : String → ValidTime)
    (hnames : ds.map (fun d => d.datasetName) = db.names)
    (hds : ∀ d ∈ ds, db.contents d.datasetName = some d.contents ∧ d.ids.Nodup)
    (hdatasets : start.datasets = .empty) (hmembers : start.members = .empty) :
    ∃ names, (importDatasets ((turnsOf ds now).map Turn.row) start).2 = .ok names ∧
      (∀ name, ¬db.Named name →
        (importDatasets ((turnsOf ds now).map Turn.row) start).1.contents name = none) ∧
      ∀ d ∈ ds, (importDatasets ((turnsOf ds now).map Turn.row) start).1.contents d.datasetName =
        some { d.contents with addedTime := (now d.datasetName).1.isoformat } := by
  have hnone : ∀ name, ¬start.Named name := by
    rintro name ⟨row,hrow,-⟩
    rw [hdatasets] at hrow
    cases hrow
  have hlisted : ∀ id bugId, ¬start.listed id bugId := by
    intro id bugId h
    rw [BugDb.listed,BugDb.mem_memberIds,hmembers] at h
    cases h
  have hturns : ((turnsOf ds now).map fun turn => turn.1.datasetName) = db.names := by
    rw [← hnames,turnsOf,List.map_map]
    rfl
  obtain ⟨names,hok⟩ := (importDatasets_ok_iff start (turnsOf ds now)).mpr ⟨by
    intro turn hturn
    obtain ⟨d,hd,rfl⟩ := List.mem_map.mp hturn
    exact (hds d hd).2,fun _ _ _ _ _ _ bugId _ => hlisted _ bugId⟩
  obtain ⟨hnew,hout,-⟩ := importDatasets_spec hok
  refine ⟨names,hok,?_,?_⟩
  · intro name hname
    rw [contents_eq_none,named_iff,hout,List.mem_append,hnew,mem_newNames,hturns,← named_iff,
      ← named_iff]
    rintro (h | ⟨h,-⟩)
    · exact hnone name h
    · exact hname h
  · intro d hd
    have hnodup : ((turnsOf ds now).map fun turn => turn.1.datasetName).Nodup := by
      rw [hturns]
      exact db.uniqueNames
    obtain ⟨id,-,hc⟩ := importDatasets_new hok hnodup (List.mem_map_of_mem hd) (hnone _)
    have hset : {bugId | start.listed id bugId ∨ bugId ∈ d.ids} = {bugId | bugId ∈ d.ids} :=
      Set.ext fun bugId => or_iff_right (hlisted id bugId)
    refine hc.trans (congrArg (fun bugs => some (Contents.mk d.description
      (now d.datasetName).1.isoformat (encodeAttrs d.dict) bugs)) hset)

/-- The second import, where the first one has brought everything back. -/
lemma importAll_again {db first : BugDb} {ds : List Definition} (now : String → ValidTime)
    (hbugs : first.bugs = db.bugs)
    (hds : ∀ d ∈ ds, first.contents d.datasetName = some d.contents ∧ d.ids.Nodup) :
    (importAll db.bugs.rows (ds.map Definition.toHfDataset) now first).2 = .ok [] ∧
      (importAll db.bugs.rows (ds.map Definition.toHfDataset) now first).1.Same first := by
  obtain ⟨ids,hb,hbsame,hbdatasets,hbmembers⟩ := @importBugsFrom_known
    (first.bugs.rows.map BugRow.bugId) db.bugs.rows first db.bugsEncode
    (fun row hrow => by rw [hbugs]; exact hrow)
  have hsame : (importBugs db.bugs.rows first).1.Same first :=
    ⟨hbsame,hbdatasets,by rw [importBugs,hbmembers]⟩
  have hall : importAll db.bugs.rows (ds.map Definition.toHfDataset) now first =
      importDatasets ((turnsOf ds now).map Turn.row) (importBugs db.bugs.rows first).1 := by
    rw [importAll,rows_turnsOf]
    split
    · next out e hout =>
      rw [importBugs] at hout
      rw [hout] at hb
      cases hb
    · next out a hout => rw [hout]
  obtain ⟨hok,hagain⟩ := @importDatasets_again (importBugs db.bugs.rows first).1 (turnsOf ds now) (by
    intro turn hturn
    obtain ⟨d,hd,rfl⟩ := List.mem_map.mp hturn
    rw [contents_of_same hsame]
    exact hds d hd)
  rw [hall]
  exact ⟨hok,hagain.trans hsame⟩

/-- The definitions of an export: the datasets that they stand for, and what the first import makes
of them. -/
structure Exported (db : BugDb) (now : String → ValidTime) (ds : List Definition) : Prop where
  rows : db.exportRows = some (db.bugs.rows,ds.map Definition.toHfDataset)
  ofRow : ∀ row ∈ db.datasets.rows, ∃ d ∈ ds, d.datasetName = row.datasetName ∧
    d.time.1.isoformat = row.addedTime
  contents : ∀ d ∈ ds, db.contents d.datasetName = some d.contents ∧ d.ids.Nodup
  imports : ∃ names,
    (importAll db.bugs.rows (ds.map Definition.toHfDataset) now .empty).2 = .ok names
  bugs : (importAll db.bugs.rows (ds.map Definition.toHfDataset) now .empty).1.bugs = db.bugs
  others : ∀ name, ¬db.Named name →
    (importAll db.bugs.rows (ds.map Definition.toHfDataset) now .empty).1.contents name = none
  imported : ∀ d ∈ ds,
    (importAll db.bugs.rows (ds.map Definition.toHfDataset) now .empty).1.contents d.datasetName =
      some { d.contents with addedTime := (now d.datasetName).1.isoformat }

lemma exists_exported (db : BugDb) (now : String → ValidTime) : ∃ ds, Exported db now ds := by
  obtain ⟨records,hbugs,hrecords⟩ := bugs_exported db
  obtain ⟨datasets,ds,hall,hrows,hnames,hds⟩ := datasets_exported db
  obtain ⟨ids,hb,hbsame,hbdatasets,hbmembers⟩ := importBugs_empty db
  obtain ⟨names,hok,hothers,hcontents⟩ := importDatasets_empty now hnames hds hbdatasets hbmembers
  have hfirst : importAll db.bugs.rows (ds.map Definition.toHfDataset) now .empty =
      importDatasets ((turnsOf ds now).map Turn.row) (importBugs db.bugs.rows .empty).1 := by
    rw [importAll,rows_turnsOf]
    split
    · next out e hout =>
      rw [hout] at hb
      cases hb
    · next out a hout => rw [hout]
  refine ⟨ds,?_,?_,hds,⟨names,by rw [hfirst]; exact hok⟩,?_,?_,?_⟩
  · simp [BugDb.exportRows,hbugs,hall,hrecords,hrows]
  · intro row hrow
    have hmem : row.datasetName ∈ ds.map fun d => d.datasetName := by
      rw [hnames]
      exact List.mem_map_of_mem hrow
    obtain ⟨d,hd,hname⟩ := List.mem_map.mp hmem
    refine ⟨d,hd,hname,?_⟩
    have hc := (hds d hd).1
    have hget : db.byName.get? d.datasetName = some row := Table.get?_eq_some.mpr ⟨hrow,hname.symm⟩
    rw [BugDb.contents,hget,Option.map_some,Option.some.injEq] at hc
    exact (Contents.mk.inj hc).2.1.symm
  · rw [hfirst,bugs_importDatasets]
    exact hbsame
  · intro name hname
    rw [hfirst]
    exact hothers name hname
  · intro d hd
    rw [hfirst]
    exact hcontents d hd

lemma timesAgree_of_roundTrips {db : BugDb} {now now' : String → ValidTime} {bugs : List BugRow}
    {datasets : List HfDataset} (h : RoundTrips db now now' bugs datasets) : TimesAgree db now := by
  intro row hrow
  obtain ⟨ds,he⟩ := exists_exported db now
  obtain ⟨d,hd,hname,htime⟩ := he.ofRow row hrow
  obtain ⟨rfl,rfl⟩ := Prod.mk.inj (Option.some.inj (he.rows.symm.trans h.exported))
  have hsame := h.sameDatasets d.datasetName
  rw [he.imported d hd,(he.contents d hd).1,Option.some.injEq] at hsame
  rw [← hname,← htime]
  exact (Contents.mk.inj hsame).2.1

/-- Export and import are a round trip, and a second import changes nothing, exactly where the
clock gives each dataset the time that it had. -/
theorem roundTrips_iff (db : BugDb) (now now' : String → ValidTime) :
    (∃ bugs datasets, RoundTrips db now now' bugs datasets) ↔ TimesAgree db now := by
  constructor
  · rintro ⟨bugs,datasets,h⟩
    exact timesAgree_of_roundTrips h
  · intro htimes
    obtain ⟨ds,he⟩ := exists_exported db now
    have hsame : ∀ name, (importAll db.bugs.rows (ds.map Definition.toHfDataset) now
        .empty).1.contents name = db.contents name := by
      intro name
      by_cases hname : db.Named name
      · obtain ⟨row,hmem,rfl⟩ := hname
        obtain ⟨d,hd,hdname,htime⟩ := he.ofRow row hmem
        rw [← hdname,he.imported d hd,(he.contents d hd).1,hdname,htimes row hmem,← htime]
        rfl
      · rw [he.others name hname]
        exact (contents_eq_none.mpr hname).symm
    obtain ⟨hagain,hunchanged⟩ := importAll_again now' he.bugs fun d hd =>
      ⟨(hsame _).trans (he.contents d hd).1,(he.contents d hd).2⟩
    exact ⟨_,_,he.rows,he.imports,he.bugs,hsame,⟨[],hagain⟩,hunchanged⟩

/-- A dataset that is imported half a month after it was made. -/
theorem late_import_not_roundTrip :
    ∃ db now now', ¬∃ bugs datasets, RoundTrips db now now' bugs datasets := by
  let later : ValidTime := ⟨KArenaWeb.endOfJanuary,nofun⟩
  refine ⟨oneDataset,fun _ => later,fun _ => later,?_⟩
  rintro ⟨bugs,datasets,h⟩
  have hrow : BugDb.newDataset "live" "bugs of 2024" .empty january 1 ∈ oneDataset.datasets.rows :=
    List.mem_singleton.mpr rfl
  exact absurd (timesAgree_of_roundTrips h _ hrow) (by decide)

end LiveKBench.KArenaDb
