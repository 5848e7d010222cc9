import LiveKBench.KArenaDb.DatasetWrites
import LiveKBench.Lib.Paging
import LiveKBench.Lib.Text

/-! The pages of a dataset's bugs. The total counts the members of the dataset, while a page joins
them with `syzbot_bugs`; a member without a bug is in the total and on no page. -/
namespace LiveKBench.KArenaWeb
open KArenaDb Lib

structure DatasetBug where
  bugId : String
  title : String
  status : String
  subsystem : String
  reportedTime : String
  deriving DecidableEq

structure DatasetBugPage where
  datasetId : ℤ
  page : ℤ
  pageSize : ℤ
  total : ℕ
  bugs : List DatasetBug
  deriving DecidableEq

/-- `ORDER BY b.reportedTime DESC, b.bugId ASC`. -/
def DatasetBug.Precedes (a b : DatasetBug) : Prop :=
  textBefore b.reportedTime.toList a.reportedTime.toList = true ∨
    a.reportedTime = b.reportedTime ∧ textLe a.bugId.toList b.bugId.toList = true

instance (a b : DatasetBug) : Decidable (a.Precedes b) :=
  inferInstanceAs (Decidable (_ ∨ _ ∧ _))

def datasetBug (row : BugRow) : DatasetBug :=
  ⟨row.bugId,row.title,row.status.text,row.subsystem,row.reportedTime⟩

/-- The members of a dataset, joined with their bugs. -/
def joinedBugs (db : BugDb) (datasetId : ℤ) : List DatasetBug :=
  (db.memberIds datasetId).filterMap fun bugId => (db.bugs.get? bugId).map datasetBug

/-- The rows of the query before its limit. -/
def orderedBugs (db : BugDb) (datasetId : ℤ) : List DatasetBug :=
  (joinedBugs db datasetId).insertionSort DatasetBug.Precedes

/-- `getDatasetBugPage`, on integers; another number throws as they do when they are not in
range. -/
def getDatasetBugPage (db : BugDb) (datasetId page pageSize : ℤ) : Except String DatasetBugPage :=
  if datasetId ≤ 0 then .error "datasetId must be a positive integer"
  else if page ≤ 0 then .error "page must be a positive integer"
  else if pageSize ≤ 0 ∨ 100 < pageSize then
    .error "pageSize must be an integer between 1 and 100"
  else .ok
    { datasetId, page, pageSize,
      total := db.members.rowcount fun m => m.datasetId = datasetId,
      bugs := limitOffset (orderedBugs db datasetId) pageSize.toNat ((page-1)*pageSize).toNat }

/-- The total that the first page gives, and the bugs of the pages up to the last that it
announces. -/
def browse (db : BugDb) (datasetId pageSize : ℤ) : Except String (ℕ × List DatasetBug) := do
  let first ← getDatasetBugPage db datasetId 1 pageSize
  let pages ← (List.range ((first.total+pageSize.toNat-1)/pageSize.toNat)).mapM fun k =>
    getDatasetBugPage db datasetId (k+1 : ℕ) pageSize
  return (first.total,pages.flatMap DatasetBugPage.bugs)

/-- The pages give every member of the dataset once, in the order of the report times and then of
the ids, and as many bugs as the total says. -/
structure CoversMembers (db : BugDb) (datasetId : ℤ) (total : ℕ) (bugs : List DatasetBug) : Prop where
  members : (bugs.map DatasetBug.bugId).Perm (db.memberIds datasetId)
  ordered : bugs.Pairwise DatasetBug.Precedes
  total : bugs.length = total

/-! ## The order -/

lemma precedes_total (a b : DatasetBug) : a.Precedes b ∨ b.Precedes a := by
  obtain h | h | h := textBefore_trichotomy a.reportedTime.toList b.reportedTime.toList
  · exact .inr (.inl h)
  · have heq : a.reportedTime = b.reportedTime := String.toList_injective h
    obtain hab | hba := textLe_total a.bugId.toList b.bugId.toList
    · exact .inl (.inr ⟨heq,hab⟩)
    · exact .inr (.inr ⟨heq.symm,hba⟩)
  · exact .inl (.inl h)

lemma precedes_trans {a b x : DatasetBug} (hab : a.Precedes b) (hbx : b.Precedes x) :
    a.Precedes x := by
  obtain h | ⟨he,h⟩ := hab
  · obtain h' | ⟨he',-⟩ := hbx
    · exact .inl (textBefore_trans h' h)
    · exact .inl (he' ▸ h)
  · obtain h' | ⟨he',h'⟩ := hbx
    · exact .inl (he ▸ h')
    · exact .inr ⟨he.trans he',textLe_trans h h'⟩

lemma pairwise_orderedBugs (db : BugDb) (datasetId : ℤ) :
    (orderedBugs db datasetId).Pairwise DatasetBug.Precedes := by
  have htotal : Std.Total DatasetBug.Precedes := ⟨precedes_total⟩
  have htrans : IsTrans DatasetBug DatasetBug.Precedes := ⟨fun _ _ _ => precedes_trans⟩
  exact List.pairwise_insertionSort _ _

/-! ## The pages -/

section Pages
variable {db : BugDb} {datasetId pageSize : ℤ}

lemma total_eq (db : BugDb) (datasetId : ℤ) :
    (db.members.rowcount fun m => m.datasetId = datasetId) = (db.memberIds datasetId).length := by
  rw [Table.rowcount,List.countP_eq_length_filter,BugDb.memberIds,Table.select,List.length_map]

lemma length_joined_le (db : BugDb) (datasetId : ℤ) :
    (orderedBugs db datasetId).length ≤ (db.memberIds datasetId).length := by
  rw [orderedBugs,List.length_insertionSort]
  exact List.length_filterMap_le _ _

/-- The pages together are the rows of the query. -/
theorem browse_eq (hid : 0 < datasetId) (hlow : 1 ≤ pageSize) (hhigh : pageSize ≤ 100) :
    browse db datasetId pageSize =
      .ok ((db.memberIds datasetId).length,orderedBugs db datasetId) := by
  have hpage : ∀ k : ℕ, getDatasetBugPage db datasetId ((k+1 : ℕ) : ℤ) pageSize = .ok
      { datasetId, page := ((k+1 : ℕ) : ℤ), pageSize, total := (db.memberIds datasetId).length,
        bugs := limitOffset (orderedBugs db datasetId) pageSize.toNat (k*pageSize.toNat) } := by
    intro k
    have hoffset : ((((k+1 : ℕ) : ℤ)-1)*pageSize).toNat = k*pageSize.toNat := by
      obtain ⟨size,rfl⟩ := Int.eq_ofNat_of_zero_le (by omega : 0 ≤ pageSize)
      push_cast
      rw [add_sub_cancel_right]
      exact Int.toNat_natCast (k*size)
    rw [getDatasetBugPage,if_neg (by omega),if_neg (by omega),if_neg (by omega),hoffset,total_eq]
  have hmap : ∀ ks : List ℕ, (ks.mapM fun k =>
      getDatasetBugPage db datasetId ((k+1 : ℕ) : ℤ) pageSize) = .ok (ks.map fun k =>
        { datasetId, page := ((k+1 : ℕ) : ℤ), pageSize, total := (db.memberIds datasetId).length,
          bugs := limitOffset (orderedBugs db datasetId) pageSize.toNat (k*pageSize.toNat) }) := by
    intro ks
    induction ks with
    | nil => rfl
    | cons k ks ih =>
      rw [List.mapM_cons,hpage k,ih]
      rfl
  have hfirst := hpage 0
  simp only [browse,show ((1 : ℤ)) = ((0+1 : ℕ) : ℤ) from rfl,hfirst,hmap]
  change Except.ok _ = Except.ok _
  rw [List.flatMap_map,flatMap_limitOffset]
  congr 2
  apply List.take_of_length_le
  have hle := length_joined_le db datasetId
  obtain ⟨size,rfl⟩ := Int.eq_ofNat_of_zero_le (by omega : 0 ≤ pageSize)
  have hpos : 0 < size := by omega
  have hround : (db.memberIds datasetId).length ≤
      ((db.memberIds datasetId).length+size-1)/size*size := by
    have hdiv := Nat.div_add_mod ((db.memberIds datasetId).length+size-1) size
    have hmod := Nat.mod_lt ((db.memberIds datasetId).length+size-1) hpos
    rw [Nat.mul_comm] at hdiv
    omega
  exact hle.trans hround

/-- Every member of the dataset has its row in `syzbot_bugs`. -/
def MembersExist (db : BugDb) (datasetId : ℤ) : Prop :=
  ∀ bugId ∈ db.memberIds datasetId, db.bugs.get? bugId ≠ none

lemma bugIds_joined (h : MembersExist db datasetId) :
    (joinedBugs db datasetId).map DatasetBug.bugId = db.memberIds datasetId := by
  unfold joinedBugs
  unfold MembersExist at h
  generalize db.memberIds datasetId = bugIds at h ⊢
  induction bugIds with
  | nil => rfl
  | cons bugId bugIds ih =>
    obtain ⟨row,hrow⟩ := Option.ne_none_iff_exists'.mp (h bugId List.mem_cons_self)
    have hid : row.bugId = bugId := Table.key_of_get? hrow
    have hrest := ih fun b hb => h b (List.mem_cons_of_mem _ hb)
    rw [List.filterMap_cons_some (by rw [hrow]; rfl),List.map_cons,hrest]
    exact congrArg (· :: bugIds) hid

lemma membersExist_of_length (h : (joinedBugs db datasetId).length =
    (db.memberIds datasetId).length) : MembersExist db datasetId := by
  unfold joinedBugs at h
  unfold MembersExist
  generalize db.memberIds datasetId = bugIds at h ⊢
  induction bugIds with
  | nil => exact nofun
  | cons bugId bugIds ih =>
    have hle := List.length_filterMap_le (fun bugId => (db.bugs.get? bugId).map datasetBug) bugIds
    cases hget : db.bugs.get? bugId with
    | none =>
      rw [List.filterMap_cons_none (by rw [hget]; rfl),List.length_cons] at h
      omega
    | some row =>
      rw [List.filterMap_cons_some (by rw [hget]; rfl),List.length_cons,List.length_cons] at h
      intro b hb
      rcases List.mem_cons.mp hb with rfl | hb
      · rw [hget]
        exact Option.some_ne_none row
      · exact ih (by omega) b hb

/-- The pages cover a dataset exactly where all its members exist. -/
theorem coversMembers_iff (hid : 0 < datasetId) (hlow : 1 ≤ pageSize) (hhigh : pageSize ≤ 100) :
    (∃ total bugs, browse db datasetId pageSize = .ok (total,bugs) ∧
      CoversMembers db datasetId total bugs) ↔ MembersExist db datasetId := by
  rw [browse_eq hid hlow hhigh]
  constructor
  · rintro ⟨total,bugs,hok,hcovers⟩
    cases hok
    apply membersExist_of_length
    rw [← hcovers.total,orderedBugs,List.length_insertionSort]
  · intro h
    have hperm := (List.perm_insertionSort DatasetBug.Precedes (joinedBugs db datasetId)).map
      DatasetBug.bugId
    rw [bugIds_joined h] at hperm
    refine ⟨_,_,rfl,hperm,pairwise_orderedBugs db datasetId,?_⟩
    have hlength := hperm.length_eq
    rwa [List.length_map] at hlength

end Pages

/-! ## The databases that the operations reach -/

/-- The committed database after some sessions, each on a connection of its own. -/
def reached (sessions : List (List DbOperation)) (db : BugDb) : BugDb :=
  sessions.foldl (fun db ops =>
    ((Connection.opened db).calls (ops.map DbOperation.run)).committed) db

/-- The operation makes no bug that has not been crawled a member of a dataset. -/
def NamesCrawled : DbOperation → BugDb → Prop
  | .dataset (.create _ _ bugIds _ _), db => ∀ bugId ∈ bugIds, db.bugs.get? bugId ≠ none
  | .dataset (.update _ _ _ bugIds _), db => ∀ bugId ∈ bugIds, db.bugs.get? bugId ≠ none
  | .insertSyzbotBug _, _ => True
  | .elsewhere, _ => True

/-- Every operation of the sessions is of that kind. -/
def AllNameCrawled : List (List DbOperation) → BugDb → Prop
  | [], _ => True
  | ops :: sessions, db =>
    Connection.EveryCall DbOperation.run NamesCrawled ops (.opened db) ∧
      AllNameCrawled sessions ((Connection.opened db).calls (ops.map DbOperation.run)).committed

/-- All members of all datasets exist. -/
def Coherent (db : BugDb) : Prop := ∀ m ∈ db.members.rows, db.bugs.get? m.bugId ≠ none

lemma membersExist_of_coherent {db : BugDb} (h : Coherent db) (datasetId : ℤ) :
    MembersExist db datasetId := by
  intro bugId hb
  exact h _ (BugDb.mem_memberIds.mp hb)

lemma coherent_insertMany {db out : BugDb} {kept : Table Member.key} {datasetId : ℤ}
    {bugIds : List String} (h : Coherent db) (hkept : ∀ m ∈ kept.rows, m ∈ db.members.rows)
    (hnames : ∀ bugId ∈ bugIds, db.bugs.get? bugId ≠ none) (hbugs : out.bugs = db.bugs)
    (hmembers : out.members = (kept.insertMany (BugDb.memberRows datasetId bugIds)).1) :
    Coherent out := by
  intro m hm
  obtain ⟨done,hdone,hrows⟩ := Table.rows_insertMany kept (BugDb.memberRows datasetId bugIds)
  rw [hmembers,hrows] at hm
  rw [hbugs]
  rcases List.mem_append.mp hm with hm | hm
  · exact h m (hkept m hm)
  · obtain ⟨-,hb⟩ := BugDb.mem_memberRows.mp (hdone.subset hm)
    exact hnames m.bugId hb

/-- An operation that names only crawled bugs keeps the members existing, also where it fails. -/
theorem coherent_run (op : DbOperation) (db : BugDb) (hop : NamesCrawled op db) (h : Coherent db) :
    Coherent (op.run db).1 := by
  match op with
  | .dataset (.create name description bugIds attrs addedTime) =>
    simp only [DbOperation.run,DatasetCall.run]
    by_cases hn : db.Named name
    · rw [BugDb.createDataset_of_named description bugIds attrs addedTime hn]
      exact h
    · obtain ⟨hc,-⟩ := BugDb.createDataset_of_new description bugIds attrs addedTime hn
      exact coherent_insertMany h (fun _ hm => hm) hop hc.bugs hc.members
  | .dataset (.update datasetId description addedTime bugIds attrs) =>
    simp only [DbOperation.run,DatasetCall.run]
    obtain ⟨hc,-⟩ := BugDb.updateDataset_writes db description bugIds attrs addedTime datasetId.toInt
    exact coherent_insertMany h (fun _ hm => List.mem_of_mem_filter hm) hop hc.bugs hc.members
  | .insertSyzbotBug bug =>
    intro m hm hnone
    apply h m hm
    change (Table.upsert db.bugs bug.1.row bug.1.row.refresh _).get? m.bugId = none at hnone
    rw [Table.get?_upsert] at hnone
    split at hnone
    · simp at hnone
    · exact hnone
  | .elsewhere => exact h

lemma coherent_reached {sessions : List (List DbOperation)} {db : BugDb} (hdb : Coherent db)
    (h : AllNameCrawled sessions db) : Coherent (reached sessions db) := by
  induction sessions generalizing db with
  | nil => exact hdb
  | cons ops sessions ih =>
    obtain ⟨hops,hrest⟩ := h
    exact ih (Connection.kept_calls coherent_run hdb hdb hops) hrest

/-- Where every dataset is written with crawled bugs only, the pages cover every dataset of every
database that is reached. -/
theorem pages_coverMembers {sessions : List (List DbOperation)}
    (h : AllNameCrawled sessions BugDb.empty) {datasetId pageSize : ℤ} (hid : 0 < datasetId)
    (hlow : 1 ≤ pageSize) (hhigh : pageSize ≤ 100) :
    ∃ total bugs, browse (reached sessions BugDb.empty) datasetId pageSize = .ok (total,bugs) ∧
      CoversMembers (reached sessions BugDb.empty) datasetId total bugs := by
  have hcoherent : Coherent (reached sessions BugDb.empty) := coherent_reached nofun h
  exact (coversMembers_iff hid hlow hhigh).mpr (membersExist_of_coherent hcoherent datasetId)

def crawl (bugId : String) (reportedTime : ValidTime) : DbOperation :=
  .insertSyzbotBug ⟨⟨bugId,"e1","KASAN in put_task",midJanuary,reportedTime.1,.fixed,[],"","","",
    "master",openBug⟩,nofun,reportedTime.2⟩

/-- A session that crawls two bugs and makes a dataset of them, and one that adds a third. -/
def crawlAndCreate : List (List DbOperation) :=
  let late : ValidTime := ⟨endOfJanuary,nofun⟩
  [[crawl "b1" KArenaDb.january,crawl "b3" KArenaDb.january,
      .dataset (.create "live" "bugs of 2024" ["b3","b1"] .empty KArenaDb.january)],
    [crawl "b2" late,.dataset (.update 1 "bugs of 2024" late ["b3","b1","b2"] .empty)]]

/-- The newest bug comes first; those of one time are in the order of their ids, over two pages. -/
theorem crawlAndCreate_covered : ∃ total bugs,
    browse (reached crawlAndCreate BugDb.empty) 1 2 = .ok (total,bugs) ∧ total = 3 ∧
      bugs.map DatasetBug.bugId = ["b2","b1","b3"] ∧
      CoversMembers (reached crawlAndCreate BugDb.empty) 1 total bugs := by
  have hnames : AllNameCrawled crawlAndCreate BugDb.empty := by
    refine ⟨⟨trivial,trivial,?_,trivial⟩,⟨trivial,?_,trivial⟩,trivial⟩
    · intro bugId hb
      simp only [List.mem_cons,List.not_mem_nil,or_false] at hb
      obtain rfl | rfl := hb <;> exact Option.some_ne_none _
    · intro bugId hb
      simp only [List.mem_cons,List.not_mem_nil,or_false] at hb
      obtain rfl | rfl | rfl := hb <;> exact Option.some_ne_none _
  obtain ⟨total,bugs,hok,hcovers⟩ := @pages_coverMembers crawlAndCreate hnames 1 2
    (by decide) (by decide) (by decide)
  refine ⟨total,bugs,hok,?_⟩
  rw [browse_eq (by decide) (by decide) (by decide)] at hok
  cases hok
  exact ⟨rfl,by decide +kernel,hcovers⟩

/-- A dataset of a bug that nobody has crawled: the total counts it, and no page shows it. -/
theorem unknown_member_not_covered : ∃ sessions : List (List DbOperation),
    (∃ row ∈ (reached sessions BugDb.empty).datasets.rows, row.datasetId = 1) ∧
      ¬∃ total bugs, browse (reached sessions BugDb.empty) 1 10 = .ok (total,bugs) ∧
        CoversMembers (reached sessions BugDb.empty) 1 total bugs := by
  refine ⟨[[.dataset (.create "live" "bugs of 2024" ["b1"] .empty KArenaDb.january)]],
    ⟨_,List.mem_singleton.mpr rfl,rfl⟩,?_⟩
  rintro ⟨total,bugs,hok,hcovers⟩
  rw [browse_eq (by decide) (by decide) (by decide)] at hok
  cases hok
  exact absurd hcovers.total (by decide)

end LiveKBench.KArenaWeb
