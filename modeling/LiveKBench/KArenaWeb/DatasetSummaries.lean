import LiveKBench.KArenaWeb.DrillDown
import LiveKBench.KArenaWeb.RowOrder
import LiveKBench.Lib.Text

/-! The datasets that the research page offers. The query joins each dataset with its members, their
bugs and the developer patches of these, and counts every bug once. -/
namespace LiveKBench.KArenaWeb
open KArena Lib

structure DatasetSummary where
  datasetId : ℕ
  datasetName : String
  bugCount : ℕ
  fixedBugs : ℕ
  openBugs : ℕ
  earliestFixedTime : Option String
  latestFixedTime : Option String

/-- A row of the joined tables. -/
structure SummaryRow where
  d : BugDataset
  bdm : Option BugDatasetMember
  b : Option SyzbotBug
  dp : Option DeveloperPatch

namespace SummaryRow

def bugId (row : SummaryRow) : Option String := row.bdm.map BugDatasetMember.bugId

/-- `CASE WHEN b.status = status THEN b.bugId END`. -/
def bugWith (status : String) (row : SummaryRow) : Option String :=
  row.b.bind fun b => if b.status = status then some b.bugId else none

def fixedTime (row : SummaryRow) : Option String := row.dp.map DeveloperPatch.fixedTime

end SummaryRow

def summaryRows (db : Database) : List SummaryRow :=
  db.bugDatasets.rows.flatMap fun d =>
  (matches? db.bugDatasetMembers.rows fun bdm => bdm.datasetId = d.datasetId).flatMap fun bdm =>
  (matches? db.syzbotBugs.rows fun b => bdm.any fun bdm => b.bugId = bdm.bugId).flatMap fun b =>
  (matches? db.developerPatches.rows fun dp => b.any fun b => dp.bugId = b.bugId).map fun dp =>
    ⟨d,bdm,b,dp⟩

def sortTimes (times : List String) : List String :=
  times.insertionSort fun a b => textLe a.toList b.toList

/-- The columns of a group; the name is that of its rows. -/
def datasetSummary (datasetId : ℕ) (rows : List SummaryRow) : DatasetSummary where
  datasetId := datasetId
  datasetName := (rows.head?.map fun row => row.d.datasetName).getD ""
  bugCount := Grouping.distinct SummaryRow.bugId rows
  fixedBugs := Grouping.distinct (SummaryRow.bugWith "fixed") rows
  openBugs := Grouping.distinct (SummaryRow.bugWith "open") rows
  earliestFixedTime := (sortTimes (rows.filterMap SummaryRow.fixedTime)).head?
  latestFixedTime := (sortTimes (rows.filterMap SummaryRow.fixedTime)).getLast?

def getDatasets (db : Database) : List DatasetSummary :=
  ((groupBy (fun row : SummaryRow => row.d.datasetId) (summaryRows db)).map fun group =>
    datasetSummary group.1 group.2).insertionSort
    fun a b => textLe a.datasetName.toList b.datasetName.toList

/-! ## What is counted -/

def datasetMembers (db : Database) (datasetId : ℕ) : List BugDatasetMember :=
  db.bugDatasetMembers.rows.filter fun bdm => bdm.datasetId = datasetId

/-- The bugs of the members. -/
def memberIds (db : Database) (datasetId : ℕ) : Finset String :=
  ((datasetMembers db datasetId).map BugDatasetMember.bugId).toFinset

/-- The numbers of the summary are those of the members and of the tree without filters, and its
times are around those of the fixes. -/
structure DatasetSummary.Agrees (db : Database) (s : DatasetSummary) : Prop where
  members : s.bugCount = (datasetMembers db s.datasetId).length
  tree : ∀ js query, query.filters = [] →
    (evaluateResearchQuery js (groupableRows db s.datasetId) query).bugCount =
      s.fixedBugs + s.openBugs
  complete : s.bugCount = s.fixedBugs + s.openBugs ↔
    ∀ bdm ∈ datasetMembers db s.datasetId, Database.Refers db.syzbotBugs bdm.bugId
  times : ∀ bdm ∈ datasetMembers db s.datasetId, Database.Refers db.syzbotBugs bdm.bugId →
    ∀ dp ∈ db.developerPatches.rows, dp.bugId = bdm.bugId →
      (∃ earliest, s.earliestFixedTime = some earliest ∧
        textLe earliest.toList dp.fixedTime.toList) ∧
      ∃ latest, s.latestFixedTime = some latest ∧ textLe dp.fixedTime.toList latest.toList

section Counts
variable {db : Database} {datasetId : ℕ} {id : String}

lemma mem_memberIds_iff : id ∈ memberIds db datasetId ↔
    ∃ bdm ∈ db.bugDatasetMembers.rows, bdm.datasetId = datasetId ∧ bdm.bugId = id := by
  simp [memberIds,datasetMembers,and_assoc]

/-- A member is its dataset and its bug, so that the members have distinct bugs. -/
lemma card_memberIds (db : Database) (datasetId : ℕ) :
    (memberIds db datasetId).card = (datasetMembers db datasetId).length := by
  have hnodup : ((datasetMembers db datasetId).map BugDatasetMember.bugId).Nodup := by
    have hkeys : ((datasetMembers db datasetId).map BugDatasetMember.key).Nodup :=
      db.bugDatasetMembers.nodup.sublist (List.filter_sublist.map _)
    rw [List.nodup_map_iff_inj_on ((List.Nodup.of_map _ hkeys))]
    intro bdm hbdm bdm' hbdm' heq
    refine List.inj_on_of_nodup_map hkeys hbdm hbdm' ?_
    have hid := (List.mem_filter.mp hbdm).2
    have hid' := (List.mem_filter.mp hbdm').2
    simp only [decide_eq_true_eq] at hid hid'
    rw [BugDatasetMember.key,BugDatasetMember.key,hid,hid',heq]
  rw [memberIds,List.toFinset_card_of_nodup hnodup,List.length_map]

lemma some_mem_matches? {α : Type} {ys : List α} {on : α → Bool} {y : α} (hy : y ∈ ys)
    (hon : on y = true) : some y ∈ matches? ys on :=
  mem_matches?.mpr (.inr ⟨y,List.mem_filter.mpr ⟨hy,hon⟩,rfl⟩)

/-- The group of a dataset has rows for each of its members and nothing else. -/
lemma toFinset_bugId {d : BugDataset} (hd : d ∈ db.bugDatasets.rows) :
    (((summaryRows db).filter fun row => row.d.datasetId = d.datasetId).filterMap
      SummaryRow.bugId).toFinset = memberIds db d.datasetId := by
  ext id
  rw [mem_memberIds_iff,List.mem_toFinset,List.mem_filterMap]
  constructor
  · rintro ⟨row,hrow,hid⟩
    obtain ⟨hmem,hdataset⟩ := List.mem_filter.mp hrow
    simp only [summaryRows,List.mem_flatMap,List.mem_map] at hmem
    obtain ⟨d',-,bdm,hbdm,b,-,dp,-,rfl⟩ := hmem
    obtain ⟨m,rfl,hm⟩ := Option.map_eq_some_iff.mp hid
    obtain ⟨hmem,hon⟩ := of_mem_matches? hbdm m rfl
    simp only [decide_eq_true_eq] at hon hdataset
    exact ⟨m,hmem,hon.trans hdataset,hm⟩
  · rintro ⟨m,hm,hdataset,rfl⟩
    obtain ⟨b,hb⟩ := List.exists_mem_of_ne_nil _ (matches?_ne_nil db.syzbotBugs.rows
      fun b => (some m).any fun bdm => b.bugId = bdm.bugId)
    obtain ⟨dp,hdp⟩ := List.exists_mem_of_ne_nil _ (matches?_ne_nil db.developerPatches.rows
      fun dp => b.any fun b => dp.bugId = b.bugId)
    refine ⟨⟨d,some m,b,dp⟩,List.mem_filter.mpr ⟨?_,by simp⟩,rfl⟩
    simp only [summaryRows,List.mem_flatMap,List.mem_map]
    exact ⟨d,hd,some m,some_mem_matches? hm (by simpa using hdataset),b,hb,dp,hdp,rfl⟩

/-- Of the bugs with a status, those of the members are counted. -/
lemma toFinset_bugWith {d : BugDataset} (hd : d ∈ db.bugDatasets.rows) (status : String) :
    (((summaryRows db).filter fun row => row.d.datasetId = d.datasetId).filterMap
      (SummaryRow.bugWith status)).toFinset =
      (memberIds db d.datasetId).filter fun id =>
        ∃ b ∈ db.syzbotBugs.rows, b.bugId = id ∧ b.status = status := by
  ext id
  rw [Finset.mem_filter,mem_memberIds_iff,List.mem_toFinset,List.mem_filterMap]
  constructor
  · rintro ⟨row,hrow,hid⟩
    obtain ⟨hmem,hdataset⟩ := List.mem_filter.mp hrow
    simp only [summaryRows,List.mem_flatMap,List.mem_map] at hmem
    obtain ⟨d',-,bdm,hbdm,b,hb,dp,-,rfl⟩ := hmem
    obtain ⟨bug,rfl,hbug⟩ := Option.bind_eq_some_iff.mp hid
    split_ifs at hbug with hstatus
    obtain rfl := Option.some.inj hbug
    obtain ⟨hbugs,hon⟩ := of_mem_matches? hb bug rfl
    obtain ⟨m,rfl,hm⟩ := (Option.any_eq_true _ _).mp hon
    obtain ⟨hmem,hon⟩ := of_mem_matches? hbdm m rfl
    simp only [decide_eq_true_eq] at hon hdataset hm
    exact ⟨⟨m,hmem,hon.trans hdataset,hm.symm⟩,bug,hbugs,rfl,hstatus⟩
  · rintro ⟨⟨m,hm,hdataset,rfl⟩,bug,hbug,hid,hstatus⟩
    obtain ⟨dp,hdp⟩ := List.exists_mem_of_ne_nil _ (matches?_ne_nil db.developerPatches.rows
      fun dp => (some bug).any fun b => dp.bugId = b.bugId)
    refine ⟨⟨d,some m,some bug,dp⟩,List.mem_filter.mpr ⟨?_,by simp⟩,?_⟩
    · simp only [summaryRows,List.mem_flatMap,List.mem_map]
      exact ⟨d,hd,some m,some_mem_matches? hm (by simpa using hdataset),some bug,
        some_mem_matches? hbug (by simpa using hid),dp,hdp,rfl⟩
    · rw [SummaryRow.bugWith,Option.bind_some,if_pos hstatus,hid]

/-- The tree has the bugs of the members that are there. -/
lemma toFinset_bugIdOf (db : Database) (datasetId : ℕ) :
    ((groupableRows db datasetId).filterMap bugIdOf).toFinset =
      (memberIds db datasetId).filter fun id => Database.Refers db.syzbotBugs id := by
  ext id
  rw [Finset.mem_filter,mem_memberIds_iff,List.mem_toFinset,List.mem_filterMap]
  constructor
  · rintro ⟨row,hrow,hid⟩
    simp only [groupableRows,List.mem_flatMap,List.mem_map] at hrow
    obtain ⟨⟨m,b⟩,hjoined,dp,-,devPatch,-,ap,-,ac,-,crr,-,llm,-,ljc,-,loc,-,rfl⟩ := hrow
    obtain ⟨hm,hb,hon⟩ := mem_innerJoin.mp hjoined
    obtain ⟨hmem,hdataset⟩ := List.mem_filter.mp hm
    simp only [decide_eq_true_eq] at hdataset hon
    obtain rfl : b.bugId = id := Option.some.inj hid
    exact ⟨⟨m,hmem,hdataset,hon.symm⟩,b,hb,rfl⟩
  · rintro ⟨⟨m,hm,hdataset,rfl⟩,b,hb,hid⟩
    have hnext : ∀ {α : Type} (ys : List α) (on : α → Bool), ∃ y, y ∈ matches? ys on :=
      fun ys on => List.exists_mem_of_ne_nil _ (matches?_ne_nil ys on)
    simp only [groupableRows,List.mem_flatMap,List.mem_map]
    obtain ⟨dp,hdp⟩ := hnext db.developerPatches.rows fun dp => dp.bugId = b.bugId
    obtain ⟨devPatch,hdevPatch⟩ := hnext db.patches.rows fun devPatch =>
      dp.any fun dp => devPatch.patchId = dp.patchId
    obtain ⟨ap,hap⟩ := hnext db.agentPatches.rows fun ap => ap.bugId = b.bugId
    obtain ⟨ac,hac⟩ := hnext db.agentConfigurations.rows fun ac =>
      ap.any fun ap => ac.agentConfigId = ap.agentConfigId
    obtain ⟨crr,hcrr⟩ := hnext db.patchCrashResolutionEvaluations.rows fun crr =>
      onPatch ap crr.agentPatchId
    obtain ⟨llm,hllm⟩ := hnext db.patchLLMJudgeEvaluations.rows fun llm =>
      onPatch ap llm.agentPatchId
    obtain ⟨ljc,hljc⟩ := hnext db.llmJudgeConfigurations.rows fun ljc =>
      llm.any fun llm => ljc.judgeId = llm.judgeId
    obtain ⟨loc,hloc⟩ := hnext db.patchLocalizationEvaluations.rows fun loc =>
      onPatch ap loc.agentPatchId
    refine ⟨groupableRow b dp devPatch ap ac crr llm ljc loc,⟨(m,b),mem_innerJoin.mpr
      ⟨List.mem_filter.mpr ⟨hm,by simpa using hdataset⟩,hb,by simpa using hid⟩,dp,hdp,devPatch,
      hdevPatch,ap,hap,ac,hac,crr,hcrr,llm,hllm,ljc,hljc,loc,hloc,rfl⟩,?_⟩
    exact congrArg some hid

/-- A bug has one status. -/
lemma card_statuses (hstatus : ∀ b ∈ db.syzbotBugs.rows, b.status ∈ ["open","fixed"])
    (ids : Finset String) :
    (ids.filter fun id => ∃ b ∈ db.syzbotBugs.rows, b.bugId = id ∧ b.status = "fixed").card +
      (ids.filter fun id => ∃ b ∈ db.syzbotBugs.rows, b.bugId = id ∧ b.status = "open").card =
      (ids.filter fun id => Database.Refers db.syzbotBugs id).card := by
  rw [← Finset.card_union_of_disjoint]
  · congr 1
    ext id
    simp only [Finset.mem_union,Finset.mem_filter]
    constructor
    · rintro (⟨hid,b,hb,rfl,-⟩ | ⟨hid,b,hb,rfl,-⟩)
      · exact ⟨hid,b,hb,rfl⟩
      · exact ⟨hid,b,hb,rfl⟩
    · rintro ⟨hid,b,hb,rfl⟩
      have hone := hstatus b hb
      simp only [List.mem_cons,List.not_mem_nil,or_false] at hone
      rcases hone with hopen | hfixed
      · exact .inr ⟨hid,b,hb,rfl,hopen⟩
      · exact .inl ⟨hid,b,hb,rfl,hfixed⟩
  · rw [Finset.disjoint_filter]
    rintro id - ⟨b,hb,rfl,hfixed⟩ ⟨b',hb',hid,hopen⟩
    have hget := Table.get?_eq_some.mpr ⟨hb',hid⟩
    rw [Table.get?_eq_some.mpr ⟨hb,rfl⟩] at hget
    obtain rfl := Option.some.inj hget
    rw [hfixed] at hopen
    exact absurd hopen (by decide)

lemma textLe_refl (a : List Char) : textLe a a = true := by
  rcases textLe_total a a with h | h <;> exact h

lemma sorted_sortTimes (times : List String) :
    (sortTimes times).Pairwise fun a b => textLe a.toList b.toList = true := by
  have htotal : Std.Total fun a b : String => textLe a.toList b.toList = true :=
    ⟨fun a b => textLe_total a.toList b.toList⟩
  have htrans : IsTrans String fun a b => textLe a.toList b.toList = true :=
    ⟨fun _ _ _ => textLe_trans⟩
  exact List.pairwise_insertionSort _ _

/-- What comes first in a sorted list is before all of it. -/
lemma exists_head? {α : Type} {R : α → α → Prop} (hrefl : ∀ a, R a a) {xs : List α}
    (h : xs.Pairwise R) {x : α} (hx : x ∈ xs) : ∃ first, xs.head? = some first ∧ R first x := by
  cases xs with
  | nil => exact absurd hx List.not_mem_nil
  | cons first rest =>
    refine ⟨first,rfl,?_⟩
    rcases List.mem_cons.mp hx with rfl | hrest
    · exact hrefl x
    · exact List.rel_of_pairwise_cons h hrest

lemma times_around {times : List String} {time : String} (h : time ∈ times) :
    (∃ earliest, (sortTimes times).head? = some earliest ∧
      textLe earliest.toList time.toList) ∧
    ∃ latest, (sortTimes times).getLast? = some latest ∧ textLe time.toList latest.toList := by
  have hmem : time ∈ sortTimes times := (List.perm_insertionSort _ _).mem_iff.mpr h
  refine ⟨exists_head? (fun a => textLe_refl a.toList) (sorted_sortTimes times) hmem,?_⟩
  rw [List.getLast?_eq_head?_reverse]
  refine @exists_head? _ (fun a b : String => textLe b.toList a.toList = true)
    (fun a => textLe_refl a.toList) _ ?_ _ (List.mem_reverse.mpr hmem)
  exact List.pairwise_reverse.mpr (sorted_sortTimes times)

/-- The fix of a member's bug is in a row of the dataset. -/
lemma mem_fixedTimes {d : BugDataset} (hd : d ∈ db.bugDatasets.rows) {bdm : BugDatasetMember}
    (hbdm : bdm ∈ datasetMembers db d.datasetId) (hbug : Database.Refers db.syzbotBugs bdm.bugId)
    {dp : DeveloperPatch} (hdp : dp ∈ db.developerPatches.rows) (hid : dp.bugId = bdm.bugId) :
    dp.fixedTime ∈ ((summaryRows db).filter fun row =>
      row.d.datasetId = d.datasetId).filterMap SummaryRow.fixedTime := by
  obtain ⟨b,hb,hb'⟩ := hbug
  obtain ⟨hm,hdataset⟩ := List.mem_filter.mp hbdm
  refine List.mem_filterMap.mpr ⟨⟨d,some bdm,some b,some dp⟩,List.mem_filter.mpr ⟨?_,by simp⟩,rfl⟩
  simp only [summaryRows,List.mem_flatMap,List.mem_map]
  exact ⟨d,hd,some bdm,some_mem_matches? hm hdataset,some b,
    some_mem_matches? hb (by simpa using hb'),some dp,
    some_mem_matches? hdp (by simpa using hid.trans hb'.symm),rfl⟩

/-- Every dataset has rows, with and without members. -/
lemma mem_datasetIds {k : ℕ} : k ∈ (summaryRows db).map (fun row => row.d.datasetId) ↔
    k ∈ db.bugDatasets.rows.map BugDataset.datasetId := by
  simp only [List.mem_map]
  constructor
  · rintro ⟨row,hrow,rfl⟩
    simp only [summaryRows,List.mem_flatMap,List.mem_map] at hrow
    obtain ⟨d,hd,bdm,-,b,-,dp,-,rfl⟩ := hrow
    exact ⟨d,hd,rfl⟩
  · rintro ⟨d,hd,rfl⟩
    obtain ⟨bdm,hbdm⟩ := List.exists_mem_of_ne_nil _ (matches?_ne_nil db.bugDatasetMembers.rows
      fun bdm => bdm.datasetId = d.datasetId)
    obtain ⟨b,hb⟩ := List.exists_mem_of_ne_nil _ (matches?_ne_nil db.syzbotBugs.rows
      fun b => bdm.any fun bdm => b.bugId = bdm.bugId)
    obtain ⟨dp,hdp⟩ := List.exists_mem_of_ne_nil _ (matches?_ne_nil db.developerPatches.rows
      fun dp => b.any fun b => dp.bugId = b.bugId)
    refine ⟨⟨d,bdm,b,dp⟩,?_,rfl⟩
    simp only [summaryRows,List.mem_flatMap,List.mem_map]
    exact ⟨d,hd,bdm,hbdm,b,hb,dp,hdp,rfl⟩

lemma getDatasets_perm (db : Database) : (getDatasets db).Perm
    (((summaryRows db).map fun row => row.d.datasetId).dedup.map fun k =>
      datasetSummary k ((summaryRows db).filter fun row => row.d.datasetId = k)) := by
  refine (List.perm_insertionSort _ _).trans ?_
  rw [groupBy,List.map_map]
  rfl

lemma agrees_of_counts {s : DatasetSummary}
    (hmembers : s.bugCount = (memberIds db s.datasetId).card)
    (hknown : s.fixedBugs + s.openBugs =
      ((memberIds db s.datasetId).filter fun id => Database.Refers db.syzbotBugs id).card)
    (htimes : ∀ bdm ∈ datasetMembers db s.datasetId, Database.Refers db.syzbotBugs bdm.bugId →
      ∀ dp ∈ db.developerPatches.rows, dp.bugId = bdm.bugId → ∃ times, dp.fixedTime ∈ times ∧
        s.earliestFixedTime = (sortTimes times).head? ∧
        s.latestFixedTime = (sortTimes times).getLast?) :
    s.Agrees db := by
  refine ⟨hmembers.trans (card_memberIds db s.datasetId),fun js query hfilters => ?_,?_,?_⟩
  · have hrows : matchingRows js (groupableRows db s.datasetId) query.filters =
        groupableRows db s.datasetId := by
      rw [hfilters,matchingRows]
      exact List.filter_eq_self.mpr fun row _ => rfl
    rw [evaluateResearchQuery,NodeCall.bugCount_node,ResearchQuery.rootCall,hrows,
      Grouping.distinct_eq_card,toFinset_bugIdOf,hknown]
  · rw [hmembers,hknown,eq_comm,Finset.card_filter_eq_iff]
    constructor
    · intro h bdm hbdm
      exact h _ (List.mem_toFinset.mpr (List.mem_map_of_mem hbdm))
    · intro h id hid
      obtain ⟨bdm,hbdm,rfl⟩ := List.mem_map.mp (List.mem_toFinset.mp hid)
      exact h bdm hbdm
  · intro bdm hbdm hbug dp hdp hid
    obtain ⟨times,hmem,hearliest,hlatest⟩ := htimes bdm hbdm hbug dp hdp hid
    rw [hearliest,hlatest]
    exact times_around hmem

lemma agrees_of_dataset (hstatus : ∀ b ∈ db.syzbotBugs.rows, b.status ∈ ["open","fixed"])
    {d : BugDataset} (hd : d ∈ db.bugDatasets.rows) :
    (datasetSummary d.datasetId
      ((summaryRows db).filter fun row => row.d.datasetId = d.datasetId)).Agrees db := by
  apply agrees_of_counts
  · change Grouping.distinct _ _ = _
    rw [Grouping.distinct_eq_card,toFinset_bugId hd]
    rfl
  · change Grouping.distinct _ _ + Grouping.distinct _ _ = _
    rw [Grouping.distinct_eq_card,Grouping.distinct_eq_card,toFinset_bugWith hd,
      toFinset_bugWith hd]
    exact card_statuses hstatus _
  · exact fun bdm hbdm hbug dp hdp hid => ⟨_,mem_fixedTimes hd hbdm hbug hdp hid,rfl,rfl⟩

end Counts

/-- The page offers each dataset once, and the numbers of its summary are those of its members and
of its tree. Fixed and open bugs are all of its members exactly if the members are crawled. -/
theorem getDatasets_agree (db : Database)
    (hstatus : ∀ b ∈ db.syzbotBugs.rows, b.status ∈ ["open","fixed"]) :
    ((getDatasets db).map DatasetSummary.datasetId).Perm
        (db.bugDatasets.rows.map BugDataset.datasetId) ∧
      ∀ s ∈ getDatasets db, s.Agrees db := by
  refine ⟨?_,fun s hs => ?_⟩
  · refine ((getDatasets_perm db).map _).trans ?_
    rw [List.map_map,show DatasetSummary.datasetId ∘ (fun k => datasetSummary k
      ((summaryRows db).filter fun row => row.d.datasetId = k)) = id from rfl,List.map_id]
    rw [List.perm_ext_iff_of_nodup (List.nodup_dedup _) db.bugDatasets.nodup]
    exact fun k => List.mem_dedup.trans mem_datasetIds
  · obtain ⟨k,hk,rfl⟩ := List.mem_map.mp ((getDatasets_perm db).mem_iff.mp hs)
    obtain ⟨d,hd,rfl⟩ := List.mem_map.mp (mem_datasetIds.mp (List.mem_dedup.mp hk))
    exact agrees_of_dataset hstatus hd

lemma fixIds_nodup : [1,2].Nodup := by decide

/-- A bug with two fixes. -/
def fixedTwice : Database :=
  { Database.empty with
    syzbotBugs := ⟨[⟨"bug","fixed","net"⟩],List.nodup_singleton _⟩
    developerPatches :=
      ⟨[⟨1,1,"bug","2024-01-15T00:00:00"⟩,⟨2,2,"bug","2024-02-15T00:00:00"⟩],fixIds_nodup⟩
    bugDatasets := ⟨[⟨1,"january"⟩],List.nodup_singleton _⟩
    bugDatasetMembers := ⟨[⟨1,"bug"⟩],List.nodup_singleton _⟩ }

theorem getDatasets_agree_fixedTwice :
    (getDatasets fixedTwice).map (fun s => (s.bugCount,s.fixedBugs,s.openBugs)) = [(1,1,0)] ∧
      ∀ s ∈ getDatasets fixedTwice, s.Agrees fixedTwice :=
  ⟨by decide +kernel,(getDatasets_agree fixedTwice (by simp [fixedTwice])).2⟩

end LiveKBench.KArenaWeb
