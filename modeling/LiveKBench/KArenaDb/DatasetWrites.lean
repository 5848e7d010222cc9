import LiveKBench.KArenaDb.Datasets
import LiveKBench.Lib.Connection
import Mathlib.Data.List.Perm.Basic

/-! What a failed write to a dataset leaves. The statements of `create_dataset` and `update_dataset`
run in a transaction that only their last line commits, and nothing rolls it back where an `INSERT`
of a member fails: the next operation on the connection commits what came before the failure. -/
namespace LiveKBench.Lib.Table
variable {κ ρ : Type*} {key : ρ → κ} [DecidableEq κ]

/-- Tables with the same rows, in whatever order, hold the same under each key. -/
theorem get?_eq_of_perm {t u : Table key} (h : t.rows.Perm u.rows) (k : κ) :
    t.get? k = u.get? k := by
  cases hg : u.get? k with
  | none =>
    rw [get?_eq_none] at hg ⊢
    exact fun r hr => hg r (h.mem_iff.mp hr)
  | some r =>
    obtain ⟨hr,hk⟩ := get?_eq_some.mp hg
    exact get?_eq_some.mpr ⟨h.mem_iff.mpr hr,hk⟩

theorem insertMany_of_perm (rs : List ρ) {t u : Table key} (h : t.rows.Perm u.rows) :
    (t.insertMany rs).2 = (u.insertMany rs).2 ∧
      (t.insertMany rs).1.rows.Perm (u.insertMany rs).1.rows := by
  induction rs generalizing t u with
  | nil => exact ⟨rfl,h⟩
  | cons r rs ih =>
    have hget := get?_eq_of_perm h (key r)
    by_cases hfree : u.get? (key r) = none
    · have ht : t.insert? r = some (t.insert r (hget.trans hfree)) := dif_pos (hget.trans hfree)
      have hu : u.insert? r = some (u.insert r hfree) := dif_pos hfree
      simp only [insertMany,ht,hu]
      exact ih (h.append_right [r])
    · have ht : t.insert? r = none := dif_neg (by rw [hget]; exact hfree)
      have hu : u.insert? r = none := dif_neg hfree
      simp only [insertMany,ht,hu]
      exact ⟨trivial,h⟩

end LiveKBench.Lib.Table

namespace LiveKBench.KArenaDb
open Lib BugDb

/-- The two databases hold the same; the order of the members says nothing. -/
structure BugDb.Same (db db' : BugDb) : Prop where
  bugs : db.bugs = db'.bugs
  datasets : db.datasets = db'.datasets
  members : db.members.rows.Perm db'.members.rows

theorem BugDb.Same.refl (db : BugDb) : db.Same db := ⟨rfl,rfl,.refl _⟩

/-- A call of one of the two methods. An id of more than 64 bits raises before the first
statement. -/
inductive DatasetCall
  | create (name description : String) (bugIds : List String) (attrs : StrDict)
      (addedTime : ValidTime)
  | update (datasetId : Int64) (description : String) (addedTime : ValidTime) (bugIds : List String)
      (attrs : StrDict)

def DatasetCall.run : DatasetCall → BugDb → BugDb × Except DbError Unit
  | .create name description bugIds attrs addedTime, db =>
    let (db,result) := db.createDataset name description bugIds attrs addedTime
    (db,result.map fun _ => ())
  | .update datasetId description addedTime bugIds attrs, db =>
    db.updateDataset datasetId.toInt description addedTime bugIds attrs

/-- The operations that commit. One on other tables leaves these three as they are. -/
inductive DbOperation
  | dataset (call : DatasetCall)
  | insertSyzbotBug (bug : {bug : SyzbotBug // bug.ValidTimes})
  | elsewhere

def DbOperation.run : DbOperation → BugDb → BugDb × Except DbError Unit
  | .dataset call, db => call.run db
  | .insertSyzbotBug bug, db => (db.insertSyzbotBug bug,.ok ())
  | .elsewhere, db => (db,.ok ())

/-- A failed call is as good as none: whatever operations succeed after it, the committed database
is in the end the one that they leave without it. -/
def AllOrNothing (c : Connection BugDb) (call : DatasetCall) : Prop :=
  ∀ ops : List DbOperation,
    Connection.AllSucceed (ops.map DbOperation.run) (c.call call.run).1 →
      (((c.call call.run).1.calls (ops.map DbOperation.run)).committed).Same
        ((c.calls (ops.map DbOperation.run)).committed)

/-- The call has come to the `INSERT`s of the members, and one of them has failed. -/
def DatasetCall.MembersRefused (db : BugDb) : DatasetCall → Prop
  | .create name description bugIds attrs addedTime =>
    (∀ row ∈ db.datasets.rows, row.datasetName ≠ name) ∧
      (db.createDataset name description bugIds attrs addedTime).2 = .error .integrityError
  | .update datasetId description addedTime bugIds attrs =>
    (db.updateDataset datasetId.toInt description addedTime bugIds attrs).2 =
      .error .integrityError

/-- The bugs before the first that is listed for a second time. -/
def beforeRepeat : List String → List String :=
  go []
where
  go (seen : List String) : List String → List String
    | [] => []
    | bugId :: bugIds => if bugId ∈ seen then [] else bugId :: go (bugId :: seen) bugIds

/-- What the call has written before its failure was there already. -/
def DatasetCall.Rewrites (db : BugDb) : DatasetCall → Prop
  | .create _ _ _ _ _ => False
  | .update datasetId description addedTime bugIds attrs =>
    (∀ row ∈ db.datasets.rows, (row.datasetId : ℤ) = datasetId.toInt →
      row.description = description ∧ row.addedTime = addedTime.1.isoformat ∧
        row.attrs = encodeAttrs attrs) ∧
    ∀ bugId, bugId ∈ beforeRepeat bugIds ↔ bugId ∈ db.memberIds datasetId.toInt

/-! ## Databases that hold the same -/

section Same
variable {db db' : BugDb}

lemma BugDb.Same.named (h : db.Same db') (name : String) : db.Named name ↔ db'.Named name := by
  rw [BugDb.Named,BugDb.Named,h.datasets]

lemma BugDb.Same.createdMembers (h : db.Same db') (bugIds : List String) :
    (db.createdMembers bugIds).2 = (db'.createdMembers bugIds).2 ∧
      (db.createdMembers bugIds).1.rows.Perm (db'.createdMembers bugIds).1.rows := by
  unfold BugDb.createdMembers
  rw [h.datasets]
  exact Table.insertMany_of_perm _ h.members

lemma BugDb.Same.updatedMembers (h : db.Same db') (datasetId : ℤ) (bugIds : List String) :
    (db.updatedMembers datasetId bugIds).2 = (db'.updatedMembers datasetId bugIds).2 ∧
      (db.updatedMembers datasetId bugIds).1.rows.Perm
        (db'.updatedMembers datasetId bugIds).1.rows := by
  apply Table.insertMany_of_perm
  exact h.members.filter _

lemma respects_dataset (call : DatasetCall) :
    Connection.Respects BugDb.Same (DbOperation.dataset call).run := by
  intro db db' h a ha
  cases call with
  | create name description bugIds attrs addedTime =>
    simp only [DbOperation.run,DatasetCall.run] at ha ⊢
    by_cases hn : db.Named name
    · rw [BugDb.createDataset_of_named description bugIds attrs addedTime hn] at ha
      cases ha
    · obtain ⟨hc,hr⟩ := BugDb.createDataset_of_new description bugIds attrs addedTime hn
      obtain ⟨hc',hr'⟩ := BugDb.createDataset_of_new description bugIds attrs addedTime
        (mt (h.named name).mpr hn)
      obtain ⟨hflag,hperm⟩ := h.createdMembers bugIds
      rw [hr] at ha
      cases hok : (db.createdMembers bugIds).2 with
      | false =>
        rw [hok] at ha
        cases ha
      | true =>
        refine ⟨⟨(),?_⟩,?_⟩
        · rw [hr',← hflag,hok]
          rfl
        · refine ⟨hc.bugs.trans (h.bugs.trans hc'.bugs.symm),?_,?_⟩
          · rw [hc.datasets,hc'.datasets,h.datasets]
          · rw [hc.members,hc'.members]
            exact hperm
  | update datasetId description addedTime bugIds attrs =>
    simp only [DbOperation.run,DatasetCall.run] at ha ⊢
    obtain ⟨hc,hr⟩ := updateDataset_writes db description bugIds attrs addedTime
      datasetId.toInt
    obtain ⟨hc',hr'⟩ := updateDataset_writes db' description bugIds attrs addedTime
      datasetId.toInt
    obtain ⟨hflag,hperm⟩ := h.updatedMembers datasetId.toInt bugIds
    refine ⟨⟨a,?_⟩,?_⟩
    · rw [hr',← hflag,← hr]
      exact ha
    · refine ⟨hc.bugs.trans (h.bugs.trans hc'.bugs.symm),?_,?_⟩
      · rw [hc.datasets,hc'.datasets,h.datasets]
      · rw [hc.members,hc'.members]
        exact hperm

lemma respects_run (op : DbOperation) : Connection.Respects BugDb.Same op.run := by
  cases op with
  | dataset call => exact respects_dataset call
  | insertSyzbotBug bug =>
    intro db db' h a ha
    refine ⟨⟨(),rfl⟩,?_,h.datasets,h.members⟩
    exact congrArg (fun bugs => insertSyzbotBug bugs bug.1) h.bugs
  | elsewhere =>
    intro db db' h a ha
    exact ⟨⟨(),rfl⟩,h⟩

end Same

/-- A failed call is as good as none exactly where it leaves the open transaction as it was. -/
theorem allOrNothing_iff_same {c : Connection BugDb} {call : DatasetCall} {e : DbError}
    (hfail : (call.run c.working).2 = .error e) :
    AllOrNothing c call ↔ (call.run c.working).1.Same c.working := by
  unfold AllOrNothing
  rw [Connection.call_of_error hfail]
  constructor
  · intro h
    exact h [.elsewhere] ⟨⟨(),rfl⟩,trivial⟩
  · intro h ops hs
    refine Connection.related_calls ?_ (BugDb.Same.refl c.committed) h hs
    intro op hop
    obtain ⟨op,-,rfl⟩ := List.mem_map.mp hop
    exact respects_run op

/-! ## What an update has written before its failure -/

lemma mem_go {seen : List String} {bugIds : List String} {bugId : String}
    (h : bugId ∈ beforeRepeat.go seen bugIds) : bugId ∉ seen := by
  induction bugIds generalizing seen with
  | nil => cases h
  | cons first bugIds ih =>
    unfold beforeRepeat.go at h
    split at h
    · cases h
    · next hfirst =>
      rcases List.mem_cons.mp h with rfl | h
      · exact hfirst
      · exact fun hs => ih h (List.mem_cons_of_mem _ hs)

lemma nodup_go (seen bugIds : List String) : (beforeRepeat.go seen bugIds).Nodup := by
  induction bugIds generalizing seen with
  | nil => exact List.nodup_nil
  | cons first bugIds ih =>
    unfold beforeRepeat.go
    split
    · exact List.nodup_nil
    · exact List.nodup_cons.mpr ⟨fun h => mem_go h List.mem_cons_self,ih _⟩

/-- The `executemany` inserts the bugs that are not there yet, up to the first that is. -/
lemma rows_insertMany_go (datasetId : ℤ) {bugIds seen : List String} {t : Table Member.key}
    (h : ∀ bugId, t.get? (datasetId,bugId) = none ↔ bugId ∉ seen) :
    (t.insertMany (memberRows datasetId bugIds)).1.rows =
      t.rows ++ memberRows datasetId (beforeRepeat.go seen bugIds) := by
  induction bugIds generalizing seen t with
  | nil => simp [memberRows,Table.insertMany,beforeRepeat.go]
  | cons first bugIds ih =>
    by_cases hfirst : first ∈ seen
    · have hnone : t.insert? ⟨datasetId,first⟩ = none :=
        dif_neg fun hget => (h first).mp hget hfirst
      simp [memberRows,Table.insertMany,beforeRepeat.go,hfirst,hnone]
    · have hget : t.get? (Member.key ⟨datasetId,first⟩) = none := (h first).mpr hfirst
      have hsome : t.insert? ⟨datasetId,first⟩ = some (t.insert ⟨datasetId,first⟩ hget) :=
        dif_pos hget
      have hseen : ∀ bugId, (t.insert ⟨datasetId,first⟩ hget).get? (datasetId,bugId) = none ↔
          bugId ∉ first :: seen := by
        intro bugId
        rw [Table.get?_insert]
        by_cases he : first = bugId
        · simp [he,Member.key]
        · simp [Member.key,he,h bugId,Ne.symm he]
      have hrest := ih hseen
      simp only [memberRows,List.map_cons,Table.insertMany,beforeRepeat.go,if_neg hfirst,
        hsome] at hrest ⊢
      rw [hrest]
      simp

lemma rows_updatedMembers (db : BugDb) (datasetId : ℤ) (bugIds : List String) :
    (db.updatedMembers datasetId bugIds).1.rows =
      (db.members.rows.filter fun m => !decide (m.datasetId = datasetId)) ++
        memberRows datasetId (beforeRepeat bugIds) := by
  refine rows_insertMany_go datasetId fun bugId => ?_
  simp only [List.not_mem_nil,not_false_eq_true,iff_true]
  rw [Table.get?_eq_none]
  intro m hm hk
  have hid : m.datasetId = datasetId := congrArg Prod.fst hk
  simpa [hid] using List.of_mem_filter hm

lemma filter_members (db : BugDb) (datasetId : ℤ) :
    (db.members.rows.filter fun m => decide (m.datasetId = datasetId)) =
      memberRows datasetId (db.memberIds datasetId) := by
  unfold memberRows BugDb.memberIds Table.select
  rw [List.map_map]
  refine (List.map_id _).symm.trans (List.map_congr_left ?_)
  intro m hm
  have hid : m.datasetId = datasetId := of_decide_eq_true (List.mem_filter.mp hm).2
  simp only [id,Function.comp_apply,← hid]

lemma nodup_memberIds (db : BugDb) (datasetId : ℤ) : (db.memberIds datasetId).Nodup := by
  have hn : ((memberRows datasetId (db.memberIds datasetId)).map Member.key).Nodup := by
    rw [← filter_members]
    exact db.members.nodup.sublist (List.filter_sublist.map _)
  rw [memberRows,List.map_map] at hn
  exact hn.of_map _

/-- The members are those that they were exactly where the dataset had the bugs before the first
repetition. -/
lemma updatedMembers_perm_iff (db : BugDb) (datasetId : ℤ) (bugIds : List String) :
    (db.updatedMembers datasetId bugIds).1.rows.Perm db.members.rows ↔
      ∀ bugId, bugId ∈ beforeRepeat bugIds ↔ bugId ∈ db.memberIds datasetId := by
  have hsplit := (List.perm_append_comm.trans (List.filter_append_perm
    (fun m : Member => decide (m.datasetId = datasetId)) db.members.rows)).symm
  rw [rows_updatedMembers,hsplit.congr_right,List.perm_append_left_iff,filter_members]
  refine Iff.trans ?_ (List.perm_ext_iff_of_nodup (nodup_go [] bugIds)
    (nodup_memberIds db datasetId))
  constructor
  · intro h
    simpa [memberRows,List.map_map,Function.comp_def] using h.map Member.bugId
  · intro h
    exact h.map _

lemma AutoTable.eq_of_rows {ρ : Type*} {key : ρ → ℕ} {t u : AutoTable key} (hr : t.rows = u.rows)
    (hl : t.last = u.last) : t = u := by
  obtain ⟨⟨rows,_⟩,last,_⟩ := t
  obtain ⟨⟨rows',_⟩,last',_⟩ := u
  cases hr
  cases hl
  rfl

lemma map_eq_self_iff {α : Type*} {f : α → α} {as : List α} :
    as.map f = as ↔ ∀ a ∈ as, f a = a := by
  conv_lhs => rw [← List.map_id as,List.map_map]
  exact List.map_inj_left

/-- An update leaves the datasets as they are exactly where it writes what is there. -/
lemma rewrite_eq_iff (db : BugDb) (datasetId : ℤ) (description : String) (attrs : StrDict)
    (addedTime : ValidTime) :
    db.datasets.update (fun row => row.datasetId = datasetId)
        (rewritten description attrs addedTime)
        (datasetId_rewritten description attrs addedTime) = db.datasets ↔
      ∀ row ∈ db.datasets.rows, (row.datasetId : ℤ) = datasetId →
        row.description = description ∧ row.addedTime = addedTime.1.isoformat ∧
          row.attrs = encodeAttrs attrs := by
  have hrow : ∀ row : DatasetRow, rewritten description attrs addedTime row = row ↔
      row.description = description ∧ row.addedTime = addedTime.1.isoformat ∧
        row.attrs = encodeAttrs attrs := by
    intro row
    obtain ⟨_,_,d,t,a⟩ := row
    simp [rewritten,eq_comm]
  constructor
  · intro h row hmem hid
    have hrows := congrArg AutoTable.rows h
    rw [AutoTable.rows_update] at hrows
    have hfix := map_eq_self_iff.mp hrows row hmem
    simpa [hid,hrow] using hfix
  · intro h
    refine AutoTable.eq_of_rows ?_ rfl
    rw [AutoTable.rows_update]
    refine map_eq_self_iff.mpr fun row hmem => ?_
    split
    · next hid => exact (hrow row).mpr (h row hmem (of_decide_eq_true hid))
    · rfl

/-- A call whose members are refused is all-or-nothing exactly where it is an update that, up to
the refused member, has written what was there. -/
theorem allOrNothing_iff {c : Connection BugDb} {call : DatasetCall}
    (h : call.MembersRefused c.working) : AllOrNothing c call ↔ call.Rewrites c.working := by
  cases call with
  | create name description bugIds attrs addedTime =>
    obtain ⟨hnew,hr⟩ := h
    have hn : ¬c.working.Named name := by
      rintro ⟨row,hrow,hname⟩
      exact hnew row hrow hname
    have hfail : ((DatasetCall.create name description bugIds attrs addedTime).run c.working).2 =
        .error .integrityError := by
      simp only [DatasetCall.run,hr]
      rfl
    rw [allOrNothing_iff_same hfail]
    simp only [DatasetCall.Rewrites,iff_false]
    intro hsame
    have hlen := congrArg (fun t => t.rows.length)
      (((BugDb.createDataset_of_new description bugIds attrs addedTime hn).1.datasets).symm.trans
        hsame.datasets)
    simp at hlen
  | update datasetId description addedTime bugIds attrs =>
    have hu := (updateDataset_writes c.working description bugIds attrs addedTime
      datasetId.toInt).1
    rw [allOrNothing_iff_same (show ((DatasetCall.update datasetId description addedTime bugIds
      attrs).run c.working).2 = _ from h)]
    constructor
    · intro hsame
      refine ⟨(rewrite_eq_iff _ _ _ _ _).mp (hu.datasets.symm.trans hsame.datasets),?_⟩
      rw [← updatedMembers_perm_iff,← hu.members]
      exact hsame.members
    · rintro ⟨hd,hm⟩
      refine ⟨hu.bugs,hu.datasets.trans ((rewrite_eq_iff _ _ _ _ _).mpr hd),?_⟩
      change (c.working.updateDataset datasetId.toInt description addedTime bugIds attrs).1.members.rows.Perm
        c.working.members.rows
      rw [hu.members]
      exact (updatedMembers_perm_iff _ _ _).mpr hm

/-! ## Lists with a repeated bug -/

def january : ValidTime := ⟨KArenaWeb.midJanuary,nofun⟩

/-- A database with one dataset of one bug. -/
def oneDataset : BugDb := (BugDb.empty.createDataset "live" "bugs of 2024" ["b1"] .empty january).1

/-- An update that lists the bug twice and changes nothing else. -/
def repeatingUpdate : DatasetCall := .update 1 "bugs of 2024" january ["b1","b1"] .empty

theorem repeatingUpdate_allOrNothing : AllOrNothing (.opened oneDataset) repeatingUpdate := by
  have hrefused : repeatingUpdate.MembersRefused oneDataset := rfl
  refine (allOrNothing_iff hrefused).mpr ⟨?_,?_⟩
  · intro row hrow _
    have hrows : (Connection.opened oneDataset).working.datasets.rows =
        [newDataset "live" "bugs of 2024" .empty january 1] := rfl
    rw [hrows] at hrow
    rw [List.mem_singleton.mp hrow]
    exact ⟨rfl,rfl,rfl⟩
  · intro bugId
    exact Iff.rfl

/-- A new dataset that lists a bug twice: the next commit keeps it, with one bug. -/
theorem repeatingCreate_not_allOrNothing :
    ∃ (c : Connection BugDb) (call : DatasetCall), call.MembersRefused c.working ∧
      ¬AllOrNothing c call := by
  refine ⟨.opened .empty,.create "live" "" ["b1","b1"] .empty january,⟨nofun,rfl⟩,?_⟩
  have hfail : ((DatasetCall.create "live" "" ["b1","b1"] .empty january).run
      (Connection.opened BugDb.empty).working).2 = .error .integrityError := rfl
  rw [allOrNothing_iff_same hfail]
  intro hsame
  exact absurd (congrArg (fun t => t.rows.length) hsame.datasets) (by decide)

end LiveKBench.KArenaDb
