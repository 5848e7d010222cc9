import LiveKBench.KArenaWeb.Cells

/-! What the metrics of a configuration depend on. The joins give a patch several rows where it has
several evaluations of one kind, only the first row of a patch is scored, and the database may
return the rows in any order. -/
namespace LiveKBench.KArenaWeb
open KArena Lib

def patchesOn (db : Database) (agentConfigId : ℕ) (bugId : String) : List AgentPatch :=
  db.agentPatches.rows.filter fun ap => ap.agentConfigId = agentConfigId && ap.bugId = bugId

def patchKey (ap : AgentPatch) : ℤ × ℕ := (ap.unionId,ap.agentPatchId)

/-- The patches that are scored: the first `k` of a configuration on a bug. -/
def countedPatches (db : Database) (agentConfigId k : ℕ) (bugId : String) : List AgentPatch :=
  (sortOn patchKey (patchesOn db agentConfigId bugId)).take k

/-- The rows of one configuration. -/
def rowsOf (rows : List ConfigRow) (agentConfigId : ℕ) : List LeaderboardRow :=
  (rows.filter fun row => row.config.agentConfigId = agentConfigId).map ConfigRow.row

/-- The metrics that the entries show for a configuration. -/
def metricsOf (entries : List LeaderboardEntry) (agentConfigId : ℕ) :
    Option (List LeaderboardMetricCell) :=
  (entries.find? fun entry => entry.agentConfigId = agentConfigId).map LeaderboardEntry.metrics

/-- The scores of the first row about a patch. -/
def scoreOf (rows : List LeaderboardRow) (bugId : String) (agentPatchId : ℕ) : Scores :=
  ((rows.find? (leaderboardRuns.IsFor bugId agentPatchId)).map LeaderboardRow.scores).getD
    ⟨0,0,0,0⟩

section Rows
variable {db : Database} {datasetId : ℕ} {timeStart timeEnd : String} {bugId : String}
  {ap : Option AgentPatch} {ac : AgentConfiguration} {row : LeaderboardRow}

lemma mem_matches? {β : Type*} {ys : List β} {on : β → Bool} {y : Option β} :
    y ∈ matches? ys on ↔ (ys.filter on = [] ∧ y = none) ∨ ∃ y' ∈ ys.filter on, y = some y' := by
  unfold matches?
  cases ys.filter on with
  | nil => simp
  | cons y' rest => simp [eq_comm]

/-- A row keeps the columns of its patch, whatever evaluations are joined to it. -/
lemma patch_of_mem_patchRows (h : row ∈ patchRows db bugId ap) : row.bugId = bugId ∧
    row.agentPatchId = ap.map AgentPatch.agentPatchId ∧
    row.unionId = ap.map AgentPatch.unionId := by
  simp only [patchRows,List.mem_flatMap,List.mem_map] at h
  obtain ⟨crr,-,llm,-,loc,-,rfl⟩ := h
  exact ⟨rfl,rfl,rfl⟩

lemma patchRows_ne_nil (db : Database) (bugId : String) (ap : Option AgentPatch) :
    ∃ row, row ∈ patchRows db bugId ap := by
  obtain ⟨crr,hcrr⟩ := List.exists_mem_of_ne_nil _ (matches?_ne_nil
    db.patchCrashResolutionEvaluations.rows fun crr => onPatch ap crr.agentPatchId)
  obtain ⟨llm,hllm⟩ := List.exists_mem_of_ne_nil _ (matches?_ne_nil
    db.patchLLMJudgeEvaluations.rows fun llm => onPatch ap llm.agentPatchId)
  obtain ⟨loc,hloc⟩ := List.exists_mem_of_ne_nil _ (matches?_ne_nil
    db.patchLocalizationEvaluations.rows fun loc => onPatch ap loc.agentPatchId)
  refine ⟨leaderboardRow bugId ap crr llm loc,?_⟩
  simp only [patchRows,List.mem_flatMap,List.mem_map]
  exact ⟨crr,hcrr,llm,hllm,loc,hloc,rfl⟩

lemma mem_configRows : row ∈ configRows db ac bugId ↔
    (patchesOn db ac.agentConfigId bugId = [] ∧ row ∈ patchRows db bugId none) ∨
      ∃ p ∈ patchesOn db ac.agentConfigId bugId, row ∈ patchRows db bugId (some p) := by
  unfold configRows patchesOn
  rw [List.mem_flatMap]
  simp only [mem_matches?]
  constructor
  · rintro ⟨ap,⟨hnil,rfl⟩ | ⟨p,hp,rfl⟩,hrow⟩
    · exact .inl ⟨hnil,hrow⟩
    · exact .inr ⟨p,hp,hrow⟩
  · rintro (⟨hnil,hrow⟩ | ⟨p,hp,hrow⟩)
    · exact ⟨none,.inl ⟨hnil,rfl⟩,hrow⟩
    · exact ⟨some p,.inr ⟨p,hp,rfl⟩,hrow⟩

lemma exists_mem_configRows (db : Database) (ac : AgentConfiguration) (bugId : String) :
    ∃ row, row ∈ configRows db ac bugId := by
  cases hp : patchesOn db ac.agentConfigId bugId with
  | nil =>
    obtain ⟨row,hrow⟩ := patchRows_ne_nil db bugId none
    exact ⟨row,mem_configRows.mpr (.inl ⟨hp,hrow⟩)⟩
  | cons p rest =>
    obtain ⟨row,hrow⟩ := patchRows_ne_nil db bugId (some p)
    exact ⟨row,mem_configRows.mpr (.inr ⟨p,by rw [hp]; exact List.mem_cons_self,hrow⟩)⟩

lemma bugId_of_mem_patchesOn {agentConfigId : ℕ} {p : AgentPatch}
    (h : p ∈ patchesOn db agentConfigId bugId) : p.bugId = bugId := by
  simpa using (Bool.and_eq_true_iff.mp (List.mem_filter.mp h).2).2

lemma mem_rowsOf_fetch {agentConfigId : ℕ} :
    row ∈ rowsOf (fetchLeaderboardRows db datasetId timeStart timeEnd) agentConfigId ↔
      ∃ ac ∈ db.agentConfigurations.rows, ac.agentConfigId = agentConfigId ∧
        ∃ bugId ∈ selectedBugs db datasetId timeStart timeEnd, row ∈ configRows db ac bugId := by
  simp only [rowsOf,fetchLeaderboardRows,List.mem_map,List.mem_filter,List.mem_flatMap,
    decide_eq_true_eq]
  constructor
  · rintro ⟨-,⟨⟨ac,hac,bugId,hbug,row,hrow,rfl⟩,hid⟩,rfl⟩
    exact ⟨ac,hac,hid,bugId,hbug,hrow⟩
  · rintro ⟨ac,hac,hid,bugId,hbug,hrow⟩
    exact ⟨⟨ac,row⟩,⟨⟨ac,hac,bugId,hbug,row,hrow,rfl⟩,hid⟩,rfl⟩

lemma perm_rowsOf {rows rows' : List ConfigRow} (h : rows.Perm rows') (agentConfigId : ℕ) :
    (rowsOf rows agentConfigId).Perm (rowsOf rows' agentConfigId) := (h.filter _).map _

lemma isFor_iff {agentPatchId : ℕ} : leaderboardRuns.IsFor bugId agentPatchId row = true ↔
    row.bugId = bugId ∧ row.agentPatchId = some agentPatchId := by
  rw [Collection.IsFor,Bool.and_eq_true,decide_eq_true_iff,decide_eq_true_iff]
  rfl

lemma nodup_patchesOn (agentConfigId : ℕ) :
    ((patchesOn db agentConfigId bugId).map AgentPatch.agentPatchId).Nodup :=
  db.agentPatches.nodup.sublist (List.filter_sublist.map _)

lemma nodup_patchKeys (agentConfigId : ℕ) :
    ((patchesOn db agentConfigId bugId).map patchKey).Nodup := by
  apply List.Nodup.of_map Prod.snd
  rw [List.map_map]
  exact nodup_patchesOn agentConfigId

/-- The rows about a patch of the configuration on a selected bug. -/
lemma isFor_of_mem_rowsOf {i : ℕ}
    (hrow : row ∈ rowsOf (fetchLeaderboardRows db datasetId timeStart timeEnd) ac.agentConfigId)
    (hfor : leaderboardRuns.IsFor bugId i row = true) :
    ∃ p ∈ patchesOn db ac.agentConfigId bugId, p.agentPatchId = i ∧
      row ∈ patchRows db bugId (some p) := by
  obtain ⟨ac',hac',hid,bug,-,hmem⟩ := mem_rowsOf_fetch.mp hrow
  obtain ⟨hbug,hpatch⟩ := isFor_iff.mp hfor
  rw [mem_configRows,hid] at hmem
  obtain ⟨-,hnone⟩ | ⟨p,hp,hprow⟩ := hmem
  · exact absurd ((patch_of_mem_patchRows hnone).2.1.symm.trans hpatch) (by simp)
  · have hcols := patch_of_mem_patchRows hprow
    obtain rfl : bug = bugId := hcols.1.symm.trans hbug
    have hi : p.agentPatchId = i := by
      have := hcols.2.1.symm.trans hpatch
      simpa using this
    exact ⟨p,hp,hi,hprow⟩

/-- The runs of a configuration on a selected bug are its patches there, each with the scores of the
first row about it. -/
theorem runs_perm {rows : List ConfigRow}
    (h : rows.Perm (fetchLeaderboardRows db datasetId timeStart timeEnd))
    (hac : ac ∈ db.agentConfigurations.rows)
    (hbug : bugId ∈ selectedBugs db datasetId timeStart timeEnd) :
    ((buildRunsByBug (rowsOf rows ac.agentConfigId)).runs bugId).Perm
      ((patchesOn db ac.agentConfigId bugId).map fun p =>
        ⟨p.agentPatchId,p.unionId,scoreOf (rowsOf rows ac.agentConfigId) bugId p.agentPatchId⟩) := by
  have hperm := perm_rowsOf h ac.agentConfigId
  rw [buildRunsByBug_eq]
  apply Collection.members_perm (f := AgentPatch.agentPatchId) (nodup_patchesOn _)
  · intro row hrow i hfor
    obtain ⟨p,hp,rfl,-⟩ := isFor_of_mem_rowsOf (hperm.mem_iff.mp hrow) hfor
    exact List.mem_map_of_mem hp
  · intro p hp
    obtain ⟨row,hrow⟩ := patchRows_ne_nil db bugId (some p)
    have hcols := patch_of_mem_patchRows hrow
    refine ⟨row,hperm.mem_iff.mpr (mem_rowsOf_fetch.mpr ⟨ac,hac,rfl,bugId,hbug,?_⟩),?_⟩
    · exact mem_configRows.mpr (.inr ⟨p,hp,hrow⟩)
    · exact isFor_iff.mpr ⟨hcols.1,hcols.2.1⟩
  · intro p hp row hrow
    obtain ⟨p',hp',hid,hprow⟩ := isFor_of_mem_rowsOf
      (hperm.mem_iff.mp (List.mem_of_find?_eq_some hrow)) (List.find?_some hrow)
    obtain rfl : p' = p := List.inj_on_of_nodup_map (nodup_patchesOn _) hp' hp hid
    have hunion := (patch_of_mem_patchRows hprow).2.2
    have hscore : scoreOf (rowsOf rows ac.agentConfigId) bugId p'.agentPatchId = row.scores := by
      rw [scoreOf,hrow]
      rfl
    change (⟨p'.agentPatchId,row.unionId.getD 0,row.scores⟩ : RunScore) = _
    rw [hunion,hscore]
    rfl

/-- The scores that a cell counts are those of the counted patches. -/
theorem countedScores_eq {rows : List ConfigRow} {bugIds : List String} {k : ℕ}
    {scoreKey : ScoreKey} (h : rows.Perm (fetchLeaderboardRows db datasetId timeStart timeEnd))
    (hac : ac ∈ db.agentConfigurations.rows)
    (hbugs : ∀ bugId ∈ bugIds, bugId ∈ selectedBugs db datasetId timeStart timeEnd) :
    countedScores scoreKey bugIds (buildRunsByBug (rowsOf rows ac.agentConfigId)) k =
      bugIds.map fun bugId => (countedPatches db ac.agentConfigId k bugId).map fun p =>
        (scoreOf (rowsOf rows ac.agentConfigId) bugId p.agentPatchId).get scoreKey := by
  unfold countedScores
  apply List.map_congr_left
  intro bugId hbug
  have hruns := runs_perm h hac (hbugs bugId hbug)
  have hkeys : ((patchesOn db ac.agentConfigId bugId).map patchKey).Nodup := nodup_patchKeys _
  rw [sortRuns,take_sortOn_of_perm hruns (fun _ => rfl) hkeys,List.map_map]
  rfl

end Rows

section Entries
variable {rows : List ConfigRow} {bugIds : List String} {k : ℕ} {agentConfigId : ℕ}

/-- The rows that `byConfig` keeps of a configuration. -/
def configGroup (rows : List ConfigRow) (agentConfigId : ℕ) : List ConfigRow :=
  rows.filter fun row => row.config.agentConfigId = agentConfigId

lemma value?_byConfig : OrderedMap.value? (byConfig rows) agentConfigId =
    if configGroup rows agentConfigId = [] then none else some (configGroup rows agentConfigId) := by
  induction rows using List.reverseRecOn with
  | nil => rfl
  | append_singleton rows row ih =>
    have hstep : byConfig (rows ++ [row]) = OrderedMap.set (byConfig rows) row.config.agentConfigId
        ((OrderedMap.value? (byConfig rows) row.config.agentConfigId).getD [] ++ [row]) := by
      rw [byConfig,List.foldl_append]
      rfl
    have hgroup : configGroup (rows ++ [row]) agentConfigId = configGroup rows agentConfigId ++
        if row.config.agentConfigId = agentConfigId then [row] else [] := by
      rw [configGroup,List.filter_append]
      congr 1
      by_cases hc : row.config.agentConfigId = agentConfigId <;> simp [hc]
    rw [hstep,OrderedMap.value?_set,hgroup]
    by_cases hc : row.config.agentConfigId = agentConfigId
    · subst hc
      have hold : (OrderedMap.value? (byConfig rows) row.config.agentConfigId).getD [] =
          configGroup rows row.config.agentConfigId := by
        rw [ih]
        split
        · rename_i hnil
          exact hnil.symm
        · rfl
      rw [if_pos rfl,hold]
      simp
    · rw [if_neg hc,if_neg hc,List.append_nil,ih]

/-- An entry of the map holds rows of its own configuration. -/
lemma config_of_mem_byConfig {entry : ℕ × List ConfigRow} (h : entry ∈ (byConfig rows).rows) :
    ∀ row ∈ entry.2, row.config.agentConfigId = entry.1 := by
  have hget : (byConfig rows).get? entry.1 = some entry := Table.get?_eq_some.mpr ⟨h,rfl⟩
  have hvalue := @value?_byConfig rows entry.1
  rw [OrderedMap.value?,hget] at hvalue
  intro row hrow
  split at hvalue
  · exact absurd hvalue (by simp)
  · have hgroup : entry.2 = configGroup rows entry.1 := by simpa using hvalue
    rw [hgroup,configGroup,List.mem_filter] at hrow
    simpa using hrow.2

/-- The entry of a configuration, looked up among the entries, is made from its rows. -/
lemma find?_entries {entries : List (ℕ × List ConfigRow)}
    (h : ∀ entry ∈ entries, ∀ row ∈ entry.2, row.config.agentConfigId = entry.1)
    (hne : ∀ entry ∈ entries, entry.2 ≠ []) :
    ((entries.filterMap fun entry => entry.2.head?.map fun first =>
      buildEntry bugIds k first entry.2).find? fun e => e.agentConfigId = agentConfigId) =
      (entries.find? fun entry => entry.1 = agentConfigId).bind fun entry =>
        entry.2.head?.map fun first => buildEntry bugIds k first entry.2 := by
  induction entries with
  | nil => rfl
  | cons entry entries ih =>
    have hrest := ih (fun e he => h e (List.mem_cons_of_mem _ he))
      (fun e he => hne e (List.mem_cons_of_mem _ he))
    cases hl : entry.2 with
    | nil => exact absurd hl (hne entry List.mem_cons_self)
    | cons first rest =>
      have hid : first.config.agentConfigId = entry.1 :=
        h entry List.mem_cons_self first (by rw [hl]; exact List.mem_cons_self)
      rw [List.filterMap_cons,hl]
      simp only [List.head?_cons,Option.map_some]
      by_cases hc : entry.1 = agentConfigId
      · rw [List.find?_cons_of_pos (by simpa [buildEntry] using hid.trans hc),
          List.find?_cons_of_pos (by simpa using hc),Option.bind_some,hl]
        rfl
      · rw [List.find?_cons_of_neg (by simpa [buildEntry,hid] using hc),
          List.find?_cons_of_neg (by simpa using hc),hrest]

/-- The metrics of a configuration are those of its rows. -/
theorem metricsOf_buildEntries : metricsOf (buildEntries rows bugIds k) agentConfigId =
    if rowsOf rows agentConfigId = [] then none
    else some (calculateMetrics bugIds (buildRunsByBug (rowsOf rows agentConfigId)) k) := by
  have hne : ∀ entry ∈ (byConfig rows).rows, entry.2 ≠ [] := by
    intro entry h hnil
    have hget : (byConfig rows).get? entry.1 = some entry := Table.get?_eq_some.mpr ⟨h,rfl⟩
    have hvalue := @value?_byConfig rows entry.1
    rw [OrderedMap.value?,hget,Option.map_some,hnil] at hvalue
    split at hvalue
    · exact absurd hvalue (by simp)
    · rename_i hgroup
      exact hgroup (Option.some.inj hvalue).symm
  rw [metricsOf,buildEntries,find?_entries (fun _ => config_of_mem_byConfig) hne]
  have hvalue := @value?_byConfig rows agentConfigId
  rw [OrderedMap.value?,Table.get?] at hvalue
  have hrows : rowsOf rows agentConfigId = (configGroup rows agentConfigId).map ConfigRow.row := rfl
  cases hf : (byConfig rows).rows.find? fun entry => entry.1 = agentConfigId with
  | none =>
    rw [hf] at hvalue
    have hnil : configGroup rows agentConfigId = [] := by
      by_contra hc
      rw [if_neg hc] at hvalue
      exact absurd hvalue (by simp)
    rw [hrows,hnil]
    rfl
  | some entry =>
    rw [hf,Option.map_some] at hvalue
    have hgroup : configGroup rows agentConfigId ≠ [] := by
      intro hc
      rw [if_pos hc] at hvalue
      exact absurd hvalue (by simp)
    rw [if_neg hgroup] at hvalue
    have hentry : entry.2 = configGroup rows agentConfigId := Option.some.inj hvalue
    rw [if_neg (by rw [hrows]; simpa using hgroup),Option.bind_some,hentry]
    cases hl : configGroup rows agentConfigId with
    | nil => exact absurd hl hgroup
    | cons first rest => simp only [List.head?_cons,Option.map_some,buildEntry,hrows,hl]

end Entries

section Order
variable (db : Database) (datasetId : ℕ) (timeStart timeEnd : String) (k : ℕ)

/-- The metrics of every configuration are the same for all orders of the rows. -/
def OrderFree : Prop :=
  ∀ rows : List ConfigRow, rows.Perm (fetchLeaderboardRows db datasetId timeStart timeEnd) →
    ∀ agentConfigId,
      metricsOf (buildEntries rows (fetchSelectedBugIds db datasetId timeStart timeEnd) k)
          agentConfigId =
        metricsOf (buildEntries (fetchLeaderboardRows db datasetId timeStart timeEnd)
          (fetchSelectedBugIds db datasetId timeStart timeEnd) k) agentConfigId

/-- The configuration has `k` patches on every selected bug, so that its metrics are not null. -/
def HasRuns (agentConfigId : ℕ) : Prop :=
  ∀ bugId ∈ selectedBugs db datasetId timeStart timeEnd,
    k ≤ (patchesOn db agentConfigId bugId).length

/-- Wherever metrics are not null, all the rows of a counted patch have the same scores. -/
def ScoredAlike : Prop :=
  ∀ ac ∈ db.agentConfigurations.rows, HasRuns db datasetId timeStart timeEnd k ac.agentConfigId →
    ∀ bugId ∈ selectedBugs db datasetId timeStart timeEnd,
      ∀ p ∈ countedPatches db ac.agentConfigId k bugId,
        ∀ row ∈ patchRows db bugId (some p), ∀ row' ∈ patchRows db bugId (some p),
          row.scores = row'.scores

variable {db datasetId timeStart timeEnd k} {rows : List ConfigRow} {ac : AgentConfiguration}
  {bugId : String} {p : AgentPatch}

lemma mem_fetchSelectedBugIds : bugId ∈ fetchSelectedBugIds db datasetId timeStart timeEnd ↔
    bugId ∈ selectedBugs db datasetId timeStart timeEnd := List.mem_insertionSort _

lemma mem_patchesOn_of_counted {agentConfigId : ℕ}
    (h : p ∈ countedPatches db agentConfigId k bugId) : p ∈ patchesOn db agentConfigId bugId :=
  mem_sortOn.mp (List.mem_of_mem_take h)

/-- The score of a patch is the one of some row about it. -/
lemma exists_scoreOf (h : rows.Perm (fetchLeaderboardRows db datasetId timeStart timeEnd))
    (hac : ac ∈ db.agentConfigurations.rows)
    (hbug : bugId ∈ selectedBugs db datasetId timeStart timeEnd)
    (hp : p ∈ patchesOn db ac.agentConfigId bugId) :
    ∃ row ∈ patchRows db bugId (some p),
      scoreOf (rowsOf rows ac.agentConfigId) bugId p.agentPatchId = row.scores := by
  have hperm := perm_rowsOf h ac.agentConfigId
  obtain ⟨some',hsome⟩ := patchRows_ne_nil db bugId (some p)
  have hcols := patch_of_mem_patchRows hsome
  have hmem : some' ∈ rowsOf rows ac.agentConfigId := hperm.mem_iff.mpr
    (mem_rowsOf_fetch.mpr ⟨ac,hac,rfl,bugId,hbug,mem_configRows.mpr (.inr ⟨p,hp,hsome⟩)⟩)
  have hfound : ((rowsOf rows ac.agentConfigId).find?
      (leaderboardRuns.IsFor bugId p.agentPatchId)).isSome :=
    List.find?_isSome.mpr ⟨some',hmem,isFor_iff.mpr ⟨hcols.1,hcols.2.1⟩⟩
  obtain ⟨row,hrow⟩ := Option.isSome_iff_exists.mp hfound
  obtain ⟨p',hp',hid,hprow⟩ := isFor_of_mem_rowsOf
    (hperm.mem_iff.mp (List.mem_of_find?_eq_some hrow)) (List.find?_some hrow)
  obtain rfl : p' = p := List.inj_on_of_nodup_map (nodup_patchesOn _) hp' hp hid
  exact ⟨row,hprow,by rw [scoreOf,hrow]; rfl⟩

lemma calculateCell_eq_of_cell {scoreKey : ScoreKey} {aggregation : Aggregation}
    {bugIds : List String} {runsByBug runsByBug' : RunsByBug}
    (h : (calculateCell scoreKey aggregation bugIds runsByBug k).cell =
      (calculateCell scoreKey aggregation bugIds runsByBug' k).cell) :
    calculateCell scoreKey aggregation bugIds runsByBug k =
      calculateCell scoreKey aggregation bugIds runsByBug' k := by
  have hvalue := congrArg Cell.value h
  have havailable := congrArg Cell.availableRuns h
  simp only [LeaderboardMetricCell.cell] at hvalue havailable
  unfold calculateCell at hvalue havailable ⊢
  simp only at hvalue havailable
  simp only [hvalue,havailable]

/-- The patches alone decide whether a cell is null. -/
lemma complete_iff {agentConfigId : ℕ} {f : String → AgentPatch → ℚ} :
    Complete k ((fetchSelectedBugIds db datasetId timeStart timeEnd).map fun bugId =>
      (countedPatches db agentConfigId k bugId).map (f bugId)) ↔
      selectedBugs db datasetId timeStart timeEnd ≠ [] ∧
        HasRuns db datasetId timeStart timeEnd k agentConfigId := by
  unfold Complete HasRuns
  refine and_congr ?_ ?_
  · rw [ne_eq,ne_eq,not_iff_not,List.map_eq_nil_iff,fetchSelectedBugIds,
      ← List.length_eq_zero_iff,List.length_insertionSort,List.length_eq_zero_iff]
  · simp only [List.mem_map,forall_exists_index,and_imp,forall_apply_eq_imp_iff₂,List.length_map,
      mem_fetchSelectedBugIds,countedPatches,List.length_take,length_sortOn,le_min_iff,le_refl,
      true_and]

lemma cell_eq_of_scoredAlike (halike : ScoredAlike db datasetId timeStart timeEnd k)
    (h : rows.Perm (fetchLeaderboardRows db datasetId timeStart timeEnd))
    (hac : ac ∈ db.agentConfigurations.rows) (scoreKey : ScoreKey) (aggregation : Aggregation) :
    calculateCell scoreKey aggregation (fetchSelectedBugIds db datasetId timeStart timeEnd)
        (buildRunsByBug (rowsOf rows ac.agentConfigId)) k =
      calculateCell scoreKey aggregation (fetchSelectedBugIds db datasetId timeStart timeEnd)
        (buildRunsByBug (rowsOf (fetchLeaderboardRows db datasetId timeStart timeEnd)
          ac.agentConfigId)) k := by
  have hbugs : ∀ bugId ∈ fetchSelectedBugIds db datasetId timeStart timeEnd,
      bugId ∈ selectedBugs db datasetId timeStart timeEnd :=
    fun bugId hb => mem_fetchSelectedBugIds.mp hb
  apply calculateCell_eq_of_cell
  rw [calculateCell_cell,calculateCell_cell,countedScores_eq h hac hbugs,
    countedScores_eq (List.Perm.refl _) hac hbugs]
  by_cases hruns : HasRuns db datasetId timeStart timeEnd k ac.agentConfigId
  · congr 1
    apply List.map_congr_left
    intro bugId hb
    apply List.map_congr_left
    intro p hp
    have hpatch := mem_patchesOn_of_counted hp
    obtain ⟨row,hrow,hscore⟩ := exists_scoreOf h hac (hbugs bugId hb) hpatch
    obtain ⟨row',hrow',hscore'⟩ :=
      exists_scoreOf (List.Perm.refl _) hac (hbugs bugId hb) hpatch
    rw [hscore,hscore',halike ac hac hruns bugId (hbugs bugId hb) p hp row hrow row' hrow']
  · apply Cell.of_eq_of_not_complete
    · rw [complete_iff]
      exact fun hc => hruns hc.2
    · simp only [List.map_map]
      apply List.map_congr_left
      intro bugId _
      simp

theorem orderFree_of_scoredAlike (halike : ScoredAlike db datasetId timeStart timeEnd k) :
    OrderFree db datasetId timeStart timeEnd k := by
  intro rows h agentConfigId
  rw [metricsOf_buildEntries,metricsOf_buildEntries]
  have hperm := perm_rowsOf h agentConfigId
  cases hrows : rowsOf (fetchLeaderboardRows db datasetId timeStart timeEnd) agentConfigId with
  | nil =>
    rw [hrows] at hperm
    rw [hperm.eq_nil,if_pos rfl]
  | cons row rest =>
    have hne : rowsOf rows agentConfigId ≠ [] := by
      intro hnil
      rw [hnil,hrows] at hperm
      exact absurd hperm.nil_eq (by simp)
    obtain ⟨ac,hac,rfl,-⟩ := mem_rowsOf_fetch.mp (hrows ▸ List.mem_cons_self)
    rw [if_neg hne,← hrows,if_neg (by rw [hrows]; simp)]
    congr 1
    apply List.map_congr_left
    intro metric _
    exact cell_eq_of_scoredAlike halike h hac metric.1 metric.2

/-- Two sums over different members that differ in one summand only. -/
lemma eq_of_sum_eq {α : Type*} [DecidableEq α] {xs : List α} {f g : α → ℚ} {a : α}
    (hn : xs.Nodup) (ha : a ∈ xs) (hfg : ∀ x ∈ xs, x ≠ a → f x = g x)
    (hsum : (xs.map f).sum = (xs.map g).sum) : f a = g a := by
  have hperm := List.perm_cons_erase ha
  have hrest : (xs.erase a).map f = (xs.erase a).map g := by
    apply List.map_congr_left
    intro x hx
    have hmem := hn.mem_erase_iff.mp hx
    exact hfg x hmem.2 hmem.1
  rw [(hperm.map f).sum_eq,(hperm.map g).sum_eq,List.map_cons,List.map_cons,List.sum_cons,
    List.sum_cons,hrest] at hsum
  exact add_right_cancel hsum

/-- All the patches that the cells of a configuration count, with their bugs. -/
def countedPairs (db : Database) (datasetId : ℕ) (timeStart timeEnd : String)
    (k agentConfigId : ℕ) : List (String × AgentPatch) :=
  (fetchSelectedBugIds db datasetId timeStart timeEnd).flatMap fun bugId =>
    (countedPatches db agentConfigId k bugId).map fun p => (bugId,p)

lemma sum_counted {bugIds : List String} {counted : String → List AgentPatch}
    {f : String → AgentPatch → ℚ} :
    ((bugIds.map fun bugId => (counted bugId).map (f bugId)).map List.sum).sum =
      ((bugIds.flatMap fun bugId => (counted bugId).map fun p => (bugId,p)).map
        fun x => f x.1 x.2).sum := by
  induction bugIds with
  | nil => rfl
  | cons bugId bugIds ih =>
    rw [List.map_cons,List.map_cons,List.sum_cons,ih,List.flatMap_cons,List.map_append,
      List.sum_append,List.map_map]
    rfl

lemma nodup_fetchSelectedBugIds : (fetchSelectedBugIds db datasetId timeStart timeEnd).Nodup :=
  (List.perm_insertionSort _ _).nodup_iff.mpr (List.nodup_dedup _)

lemma nodup_countedPatches (agentConfigId : ℕ) :
    (countedPatches db agentConfigId k bugId).Nodup := by
  apply ((perm_sortOn _).nodup_iff.mpr _).sublist (List.take_sublist _ _)
  exact List.Nodup.of_map _ (nodup_patchesOn agentConfigId)

lemma find?_rowsOf (rows : List ConfigRow) (agentConfigId : ℕ) (q : LeaderboardRow → Bool) :
    (rowsOf rows agentConfigId).find? q =
      (rows.find? fun r => decide (r.config.agentConfigId = agentConfigId) && q r.row).map
        ConfigRow.row := by
  unfold rowsOf
  rw [List.find?_map,List.find?_filter]
  congr 2
  funext r
  simp

lemma find?_cons_erase {α : Type*} [DecidableEq α] {xs : List α} {x : α} {q : α → Bool}
    (hq : q x = false) : (x :: xs.erase x).find? q = xs.find? q := by
  rw [List.find?_cons_of_neg (by simp [hq])]
  induction xs with
  | nil => rfl
  | cons y xs ih =>
    by_cases hxy : y = x
    · subst hxy
      rw [List.erase_cons_head,List.find?_cons_of_neg (by simp [hq])]
    · rw [List.erase_cons_tail (by simpa using hxy),List.find?_cons,List.find?_cons,ih]

/-- With a row put first its patch is scored by it, and every other patch as before. -/
lemma scoreOf_first {row : LeaderboardRow} (hrow : row ∈ patchRows db bugId (some p)) :
    scoreOf (rowsOf (⟨ac,row⟩ :: rows.erase ⟨ac,row⟩) ac.agentConfigId) bugId p.agentPatchId =
        row.scores ∧
      ∀ bugId' agentPatchId', agentPatchId' ≠ p.agentPatchId →
        scoreOf (rowsOf (⟨ac,row⟩ :: rows.erase ⟨ac,row⟩) ac.agentConfigId) bugId' agentPatchId' =
          scoreOf (rowsOf rows ac.agentConfigId) bugId' agentPatchId' := by
  have hcols := patch_of_mem_patchRows hrow
  constructor
  · unfold scoreOf
    rw [find?_rowsOf,List.find?_cons_of_pos (by
      simpa using isFor_iff.mpr ⟨hcols.1,hcols.2.1⟩)]
    rfl
  · intro bugId' agentPatchId' hne
    unfold scoreOf
    rw [find?_rowsOf,find?_rowsOf,find?_cons_erase]
    have hnot : leaderboardRuns.IsFor bugId' agentPatchId' row = false := by
      rw [← Bool.not_eq_true,isFor_iff]
      rintro ⟨-,hpatch⟩
      exact hne (by simpa using hpatch.symm.trans hcols.2.1)
    simp [hnot]

lemma mem_countedPairs {agentConfigId : ℕ} {x : String × AgentPatch} :
    x ∈ countedPairs db datasetId timeStart timeEnd k agentConfigId ↔
      x.1 ∈ selectedBugs db datasetId timeStart timeEnd ∧
        x.2 ∈ countedPatches db agentConfigId k x.1 := by
  rw [countedPairs,List.mem_flatMap]
  constructor
  · rintro ⟨bugId,hbug,hx⟩
    obtain ⟨p,hp,rfl⟩ := List.mem_map.mp hx
    exact ⟨mem_fetchSelectedBugIds.mp hbug,hp⟩
  · rintro ⟨hbug,hp⟩
    exact ⟨x.1,mem_fetchSelectedBugIds.mpr hbug,List.mem_map_of_mem hp⟩

lemma nodup_countedPairs (agentConfigId : ℕ) :
    (countedPairs db datasetId timeStart timeEnd k agentConfigId).Nodup := by
  rw [countedPairs,List.nodup_flatMap]
  refine ⟨fun bugId _ => (nodup_countedPatches agentConfigId).map fun p q h => (Prod.mk.inj h).2,
    nodup_fetchSelectedBugIds.imp fun hne x hx hy => ?_⟩
  obtain ⟨p,-,rfl⟩ := List.mem_map.mp hx
  obtain ⟨q,-,hq⟩ := List.mem_map.mp hy
  exact hne (Prod.mk.inj hq).1.symm

lemma Scores.ext_get {a b : Scores} (h : ∀ scoreKey, a.get scoreKey = b.get scoreKey) : a = b := by
  obtain ⟨crr,epr,fileIou,funcIou⟩ := a
  obtain ⟨crr',epr',fileIou',funcIou'⟩ := b
  have hcrr := h .crr
  have hepr := h .epr
  have hfile := h .fileIou
  have hfunc := h .funcIou
  simp only [Scores.get] at hcrr hepr hfile hfunc
  rw [hcrr,hepr,hfile,hfunc]

/-- A configuration with rows shows the same cells for both orders. -/
lemma metrics_eq_of_orderFree (hfree : OrderFree db datasetId timeStart timeEnd k)
    (h : rows.Perm (fetchLeaderboardRows db datasetId timeStart timeEnd))
    (hac : ac ∈ db.agentConfigurations.rows)
    (hsome : ∃ bugId, bugId ∈ selectedBugs db datasetId timeStart timeEnd) :
    calculateMetrics (fetchSelectedBugIds db datasetId timeStart timeEnd)
        (buildRunsByBug (rowsOf rows ac.agentConfigId)) k =
      calculateMetrics (fetchSelectedBugIds db datasetId timeStart timeEnd)
        (buildRunsByBug (rowsOf (fetchLeaderboardRows db datasetId timeStart timeEnd)
          ac.agentConfigId)) k := by
  obtain ⟨bugId,hbug⟩ := hsome
  have hne : rowsOf (fetchLeaderboardRows db datasetId timeStart timeEnd) ac.agentConfigId ≠ [] := by
    obtain ⟨row,hrow⟩ := exists_mem_configRows db ac bugId
    exact List.ne_nil_of_mem (mem_rowsOf_fetch.mpr ⟨ac,hac,rfl,bugId,hbug,hrow⟩)
  have hne' : rowsOf rows ac.agentConfigId ≠ [] := by
    intro hnil
    have hperm := perm_rowsOf h ac.agentConfigId
    rw [hnil] at hperm
    exact hne hperm.nil_eq.symm
  have hmetrics := hfree rows h ac.agentConfigId
  rw [metricsOf_buildEntries,metricsOf_buildEntries,if_neg hne,if_neg hne'] at hmetrics
  exact Option.some.inj hmetrics

/-- With the same cells the scores of the counted patches have the same sum. -/
lemma sum_eq_of_metrics_eq (h : rows.Perm (fetchLeaderboardRows db datasetId timeStart timeEnd))
    (hac : ac ∈ db.agentConfigurations.rows)
    (hsome : selectedBugs db datasetId timeStart timeEnd ≠ [])
    (hruns : HasRuns db datasetId timeStart timeEnd k ac.agentConfigId) (hk : k ≠ 0)
    (hsame : calculateMetrics (fetchSelectedBugIds db datasetId timeStart timeEnd)
        (buildRunsByBug (rowsOf rows ac.agentConfigId)) k =
      calculateMetrics (fetchSelectedBugIds db datasetId timeStart timeEnd)
        (buildRunsByBug (rowsOf (fetchLeaderboardRows db datasetId timeStart timeEnd)
          ac.agentConfigId)) k) (scoreKey : ScoreKey) :
    ((countedPairs db datasetId timeStart timeEnd k ac.agentConfigId).map fun x =>
        (scoreOf (rowsOf rows ac.agentConfigId) x.1 x.2.agentPatchId).get scoreKey).sum =
      ((countedPairs db datasetId timeStart timeEnd k ac.agentConfigId).map fun x =>
        (scoreOf (rowsOf (fetchLeaderboardRows db datasetId timeStart timeEnd)
          ac.agentConfigId) x.1 x.2.agentPatchId).get scoreKey).sum := by
  have hbugs : ∀ bugId ∈ fetchSelectedBugIds db datasetId timeStart timeEnd,
      bugId ∈ selectedBugs db datasetId timeStart timeEnd :=
    fun bugId hb => mem_fetchSelectedBugIds.mp hb
  have hmem : (scoreKey,Aggregation.mean) ∈ leaderboardMetrics := by cases scoreKey <;> decide
  have hcell := List.map_inj_left.mp hsame _ hmem
  have hvalue := congrArg (fun c => c.cell.value) hcell
  simp only [calculateCell_cell,countedScores_eq h hac hbugs,
    countedScores_eq (List.Perm.refl _) hac hbugs] at hvalue
  rw [Cell.of_mean_value (complete_iff.mpr ⟨hsome,hruns⟩),
    Cell.of_mean_value (complete_iff.mpr ⟨hsome,hruns⟩),Option.some.injEq,List.length_map,
    List.length_map,sum_counted,sum_counted] at hvalue
  have hlen : (fetchSelectedBugIds db datasetId timeStart timeEnd).length ≠ 0 := by
    rw [fetchSelectedBugIds,List.length_insertionSort]
    exact fun hl => hsome (List.length_eq_zero_iff.mp hl)
  have hne : (k : ℚ)*((fetchSelectedBugIds db datasetId timeStart timeEnd).length : ℚ) ≠ 0 := by
    simp [hk,hlen]
  exact (div_left_inj' hne).mp hvalue

theorem scoredAlike_of_orderFree (hfree : OrderFree db datasetId timeStart timeEnd k) :
    ScoredAlike db datasetId timeStart timeEnd k := by
  intro ac hac hruns bugId hbug p hp
  have hpatch := mem_patchesOn_of_counted hp
  -- Every row about the patch has the scores of the row that happens to come first.
  suffices hfirst : ∀ row ∈ patchRows db bugId (some p), row.scores =
      scoreOf (rowsOf (fetchLeaderboardRows db datasetId timeStart timeEnd) ac.agentConfigId)
        bugId p.agentPatchId by
    intro row hrow row' hrow'
    rw [hfirst row hrow,hfirst row' hrow']
  intro row hrow
  have hmem : (⟨ac,row⟩ : ConfigRow) ∈ fetchLeaderboardRows db datasetId timeStart timeEnd := by
    simp only [fetchLeaderboardRows,List.mem_flatMap,List.mem_map]
    exact ⟨ac,hac,bugId,hbug,row,mem_configRows.mpr (.inr ⟨p,hpatch,hrow⟩),rfl⟩
  have hperm := (List.perm_cons_erase hmem).symm
  obtain ⟨hscore,hother⟩ := @scoreOf_first db
    (fetchLeaderboardRows db datasetId timeStart timeEnd) ac bugId p row hrow
  have hk : k ≠ 0 := by
    rintro rfl
    simp [countedPatches] at hp
  have hsame := metrics_eq_of_orderFree hfree hperm hac ⟨bugId,hbug⟩
  rw [← hscore]
  apply Scores.ext_get
  intro scoreKey
  -- All the sums agree, and in those two all summands but the one of the patch do.
  have hsum := sum_eq_of_metrics_eq hperm hac (List.ne_nil_of_mem hbug) hruns hk hsame scoreKey
  refine @eq_of_sum_eq _ _ _ _ _ (bugId,p) (nodup_countedPairs _)
    (mem_countedPairs.mpr ⟨hbug,hp⟩) ?_ hsum
  intro x hx hne
  obtain ⟨-,hp'⟩ := mem_countedPairs.mp hx
  have hpatch' := mem_patchesOn_of_counted hp'
  rw [hother]
  intro hid
  have hx2 : x.2 = p := List.inj_on_of_nodup_map db.agentPatches.nodup
    (List.mem_of_mem_filter hpatch') (List.mem_of_mem_filter hpatch) hid
  have hb : p.bugId = bugId := bugId_of_mem_patchesOn hpatch
  have hb' : x.2.bugId = x.1 := bugId_of_mem_patchesOn hpatch'
  exact hne (Prod.ext (by rw [← hb',hx2,hb]) hx2)

/-- The metrics do not depend on the order of the rows exactly if, wherever they are not null, the
rows of every counted patch have the same scores. -/
theorem orderFree_iff (db : Database) (datasetId : ℕ) (timeStart timeEnd : String) (k : ℕ) :
    OrderFree db datasetId timeStart timeEnd k ↔ ScoredAlike db datasetId timeStart timeEnd k :=
  ⟨scoredAlike_of_orderFree,orderFree_of_scoredAlike⟩

/-- One patch on which two judges disagree. -/
def judgedTwice : Database where
  syzbotBugs := .singleton ⟨"bug","fixed","[]"⟩
  patches := ⟨[⟨1,3⟩,⟨2,3⟩],by decide⟩
  agentPatches := .singleton ⟨1,1,"bug",1,0⟩
  developerPatches := .singleton ⟨1,2,"bug","2024-01-15T12:00:00"⟩
  agentConfigurations := .singleton ⟨1,"agent","default","model","default",0,0⟩
  patchLocalizationEvaluations := .empty
  patchCrashResolutionEvaluations :=
    .singleton ⟨1,1,1,1,"success","",some .notReproduced,none⟩
  llmJudgeConfigurations := ⟨[⟨1,"first judge"⟩,⟨2,"second judge"⟩],by decide⟩
  patchLLMJudgeEvaluations :=
    ⟨[⟨1,1,"bug",1,1,"success",some 3,some 0⟩,⟨2,2,"bug",1,1,"success",some 0,some 3⟩],by decide⟩
  bugDatasets := .singleton ⟨1,"dataset"⟩
  bugDatasetMembers := .singleton ⟨1,"bug"⟩

lemma admitted_judgedTwice : judgedTwice.Admitted where
  agentPatches := by decide
  developerPatches := by decide
  localization := by decide
  crashResolution := by decide
  llmJudge := by decide
  members := by decide
  judgeNames := by decide
  judgements := by decide
  datasetNames := by decide
  bugStatus := by decide
  localizationStatus := by decide
  crashResolutionStatus := by decide
  llmJudgeStatus := by decide

/-- Whose verdict comes first decides whether the patch counts. -/
theorem not_orderFree_judgedTwice : ¬ ∀ db : Database, db.Admitted →
    ∀ (datasetId : ℕ) (timeStart timeEnd : String) (k : ℕ),
      OrderFree db datasetId timeStart timeEnd k := by
  intro h
  have hreverse := h judgedTwice admitted_judgedTwice 1 "2024-01-01" "2024-01-31" 1
    (fetchLeaderboardRows judgedTwice 1 "2024-01-01" "2024-01-31").reverse
    (List.reverse_perm _) 1
  exact absurd hreverse (by decide +kernel)

end Order
end LiveKBench.KArenaWeb
