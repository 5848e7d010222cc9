import LiveKBench.KArenaWeb.RowOrder
import LiveKBench.KArenaWeb.ResearchQuery

/-! The research page and the leaderboard on the same database. The two join the tables in different
ways, tell missing scores from zeros or not, and keep or drop bugs without runs; where no patch is
evaluated twice they still come to the same cells. -/
namespace LiveKBench.KArenaWeb
open KArena Lib

/-- No agent's patch has two evaluations of one kind. -/
structure OneEvaluation (db : Database) : Prop where
  crashResolution : (db.patchCrashResolutionEvaluations.rows.map
    PatchCrashResolutionEvaluation.agentPatchId).Nodup
  llmJudge : (db.patchLLMJudgeEvaluations.rows.map PatchLLMJudgeEvaluation.agentPatchId).Nodup
  localization : (db.patchLocalizationEvaluations.rows.map
    PatchLocalizationEvaluation.agentPatchId).Nodup

/-- The bugs of a dataset. -/
def memberBugs (db : Database) (datasetId : ℕ) : List String :=
  (db.bugDatasetMembers.rows.filter fun bdm => bdm.datasetId = datasetId).map
    BugDatasetMember.bugId

section Rows
variable {db : Database} {datasetId : ℕ} {timeStart timeEnd : String} {bugId : String}
  {p : AgentPatch} {ac : AgentConfiguration} {row row' : LeaderboardRow}

/-- Where at most one row is joined, it is always the same. -/
lemma matches?_unique {β : Type*} {ys : List β} {f : β → ℕ} {i : ℕ} (hn : (ys.map f).Nodup)
    {y y' : Option β} (h : y ∈ matches? ys fun y => i = f y)
    (h' : y' ∈ matches? ys fun y => i = f y) : y = y' := by
  rw [mem_matches?] at h h'
  obtain ⟨hnil,rfl⟩ | ⟨a,ha,rfl⟩ := h
  · obtain ⟨-,rfl⟩ | ⟨a',ha',rfl⟩ := h'
    · rfl
    · exact absurd ha' (by rw [hnil]; simp)
  · obtain ⟨hnil',rfl⟩ | ⟨a',ha',rfl⟩ := h'
    · exact absurd ha (by rw [hnil']; simp)
    · rw [List.mem_filter,decide_eq_true_eq] at ha ha'
      congr 1
      exact List.inj_on_of_nodup_map hn ha.1 ha'.1 (ha.2.symm.trans ha'.2)

lemma onPatch_some {β : Type*} (ys : List β) (f : β → ℕ) (p : AgentPatch) :
    (matches? ys fun y => onPatch (some p) (f y)) = matches? ys fun y => p.agentPatchId = f y := by
  congr 1
  funext y
  simp [onPatch,eq_comm]

/-- A patch without a second evaluation of any kind has one row. -/
theorem patchRows_unique (hone : OneEvaluation db) (h : row ∈ patchRows db bugId (some p))
    (h' : row' ∈ patchRows db bugId (some p)) : row = row' := by
  simp only [patchRows,List.mem_flatMap,List.mem_map,onPatch_some] at h h'
  obtain ⟨crr,hcrr,llm,hllm,loc,hloc,rfl⟩ := h
  obtain ⟨crr',hcrr',llm',hllm',loc',hloc',rfl⟩ := h'
  rw [matches?_unique hone.crashResolution hcrr hcrr',matches?_unique hone.llmJudge hllm hllm',
    matches?_unique hone.localization hloc hloc']

/-- A research row about a patch is scored like a leaderboard row about it. -/
lemma score_of_mem_fetchedRows {fetched : FetchedRow} (h : fetched ∈ fetchedRows db bugId (some p)) :
    ∃ row ∈ patchRows db bugId (some p), ∀ scoreKey,
      (metricScore fetched.row scoreKey).getD 0 = row.scores.get scoreKey := by
  simp only [fetchedRows,List.mem_flatMap,List.mem_map] at h
  obtain ⟨_,-,crr,hcrr,llm,hllm,ljc,-,loc,hloc,rfl⟩ := h
  refine ⟨leaderboardRow bugId (some p) crr llm loc,?_,fun scoreKey => ?_⟩
  · simp only [patchRows,List.mem_flatMap,List.mem_map]
    exact ⟨crr,hcrr,llm,hllm,loc,hloc,rfl⟩
  · exact metricScore_getD _ scoreKey

/-- The configuration and the patch of a fetched row. -/
lemma columns_of_mem_fetchedRows {fetched : FetchedRow} {ap : Option AgentPatch}
    (h : fetched ∈ fetchedRows db bugId ap) : fetched.row.bugId = bugId ∧
      fetched.row.agentPatchId = ap.map AgentPatch.agentPatchId ∧
      fetched.row.unionId = ap.map AgentPatch.unionId ∧
      ∀ agentConfigId, fetched.agentConfigId = some agentConfigId →
        ∃ p, ap = some p ∧ p.agentConfigId = agentConfigId := by
  simp only [fetchedRows,List.mem_flatMap,List.mem_map] at h
  obtain ⟨ac,hac,_,-,_,-,_,-,_,-,rfl⟩ := h
  refine ⟨rfl,rfl,rfl,?_⟩
  intro agentConfigId hid
  obtain ⟨ac',rfl,hac'⟩ := Option.map_eq_some_iff.mp hid
  rw [mem_matches?] at hac
  obtain ⟨-,hnone⟩ | ⟨ac'',hac'',heq⟩ := hac
  · exact absurd hnone (by simp)
  · obtain rfl := Option.some.inj heq
    have hon := (List.mem_filter.mp hac'').2
    cases ap with
    | none => exact absurd hon (by simp)
    | some p => exact ⟨p,rfl,by simpa [hac',eq_comm] using hon⟩

/-- Every patch of a configuration has a row with that configuration. -/
lemma exists_mem_fetchedRows (hac : ac ∈ db.agentConfigurations.rows)
    (hp : p.agentConfigId = ac.agentConfigId) :
    ∃ fetched ∈ fetchedRows db bugId (some p), fetched.agentConfigId = some ac.agentConfigId := by
  obtain ⟨crr,hcrr⟩ := List.exists_mem_of_ne_nil _ (matches?_ne_nil
    db.patchCrashResolutionEvaluations.rows fun crr => onPatch (some p) crr.agentPatchId)
  obtain ⟨llm,hllm⟩ := List.exists_mem_of_ne_nil _ (matches?_ne_nil
    db.patchLLMJudgeEvaluations.rows fun llm => onPatch (some p) llm.agentPatchId)
  obtain ⟨ljc,hljc⟩ := List.exists_mem_of_ne_nil _ (matches?_ne_nil
    db.llmJudgeConfigurations.rows fun ljc => llm.any fun llm => ljc.judgeId = llm.judgeId)
  obtain ⟨loc,hloc⟩ := List.exists_mem_of_ne_nil _ (matches?_ne_nil
    db.patchLocalizationEvaluations.rows fun loc => onPatch (some p) loc.agentPatchId)
  have hjoin : some ac ∈ matches? db.agentConfigurations.rows fun ac =>
      (some p).any fun ap => ac.agentConfigId = ap.agentConfigId := by
    rw [mem_matches?]
    exact .inr ⟨ac,List.mem_filter.mpr ⟨hac,by simp [hp]⟩,rfl⟩
  refine ⟨⟨some ac.agentConfigId,researchRow bugId (some p) crr llm ljc loc⟩,?_,rfl⟩
  simp only [fetchedRows,List.mem_flatMap,List.mem_map]
  exact ⟨some ac,hjoin,crr,hcrr,llm,hllm,ljc,hljc,loc,hloc,rfl⟩

lemma mem_memberBugs : bugId ∈ memberBugs db datasetId ↔
    ∃ bdm ∈ db.bugDatasetMembers.rows, bdm.datasetId = datasetId ∧ bdm.bugId = bugId := by
  simp only [memberBugs,List.mem_map,List.mem_filter,decide_eq_true_eq,and_assoc]

lemma memberBugs_of_mem_selectedBugs (h : bugId ∈ selectedBugs db datasetId timeStart timeEnd) :
    bugId ∈ memberBugs db datasetId := by
  rw [selectedBugs,List.mem_dedup,List.mem_map] at h
  obtain ⟨⟨bdm,dp⟩,hmem,rfl⟩ := h
  rw [List.mem_filter,mem_innerJoin,Bool.and_eq_true] at hmem
  exact mem_memberBugs.mpr ⟨bdm,hmem.1.1,by simpa using hmem.2.1,rfl⟩

lemma mem_restrictRows {rows : List FetchedRow} {agentConfigId : ℕ} {row : ResearchRow} :
    row ∈ restrictRows rows agentConfigId ↔
      ∃ fetched ∈ rows, fetched.agentConfigId = some agentConfigId ∧ fetched.row = row := by
  simp only [restrictRows,List.mem_map,List.mem_filter,decide_eq_true_eq,and_assoc]

/-- A row of the query that is of a configuration is about one of its patches on a bug of the
dataset. -/
lemma exists_patch_of_mem_restrictRows {agentConfigId : ℕ} {row : ResearchRow}
    (h : row ∈ restrictRows (fetchRows db datasetId) agentConfigId) :
    ∃ bugId ∈ memberBugs db datasetId, ∃ p ∈ patchesOn db agentConfigId bugId,
      ∃ fetched ∈ fetchedRows db bugId (some p), fetched.row = row := by
  obtain ⟨fetched,hmem,hid,hrow⟩ := mem_restrictRows.mp h
  rw [fetchRows,List.mem_insertionSort,joinedRows,List.mem_flatMap] at hmem
  obtain ⟨⟨bdm,b⟩,hjoined,hmem⟩ := hmem
  obtain ⟨hbdm,-,hon⟩ := mem_innerJoin.mp hjoined
  rw [List.mem_filter,decide_eq_true_eq] at hbdm
  simp only [bugRows,List.mem_flatMap] at hmem
  obtain ⟨-,-,-,-,ap,hap,hfetched⟩ := hmem
  obtain ⟨p,rfl,hp⟩ := (columns_of_mem_fetchedRows hfetched).2.2.2 agentConfigId hid
  have hbug : b.bugId = bdm.bugId := by simpa using hon
  refine ⟨b.bugId,mem_memberBugs.mpr ⟨bdm,hbdm.1,hbdm.2,hbug.symm⟩,p,?_,fetched,hfetched,hrow⟩
  rw [mem_matches?] at hap
  obtain ⟨-,hnone⟩ | ⟨p',hp',heq⟩ := hap
  · exact absurd hnone (by simp)
  · obtain rfl := Option.some.inj heq
    obtain ⟨hp'mem,hp'bug⟩ := List.mem_filter.mp hp'
    exact List.mem_filter.mpr ⟨hp'mem,by simpa [hp] using hp'bug⟩

/-- Developer patches multiply the rows of a bug but never remove any. -/
lemma mem_bugRows {fetched : FetchedRow} (hp : p ∈ db.agentPatches.rows) (hbug : p.bugId = bugId)
    (h : fetched ∈ fetchedRows db bugId (some p)) : fetched ∈ bugRows db bugId := by
  obtain ⟨dp,hdp⟩ := List.exists_mem_of_ne_nil _ (matches?_ne_nil db.developerPatches.rows
    fun dp => dp.bugId = bugId)
  obtain ⟨devPatch,hdev⟩ := List.exists_mem_of_ne_nil _ (matches?_ne_nil db.patches.rows
    fun devPatch => dp.any fun dp => devPatch.patchId = dp.patchId)
  have hap : some p ∈ matches? db.agentPatches.rows fun ap => ap.bugId = bugId := by
    rw [mem_matches?]
    exact .inr ⟨p,List.mem_filter.mpr ⟨hp,by simpa using hbug⟩,rfl⟩
  simp only [bugRows,List.mem_flatMap]
  exact ⟨dp,hdp,devPatch,hdev,some p,hap,h⟩

/-- Every patch of a configuration on a bug of the dataset has a row of the query. -/
lemma exists_mem_restrictRows (hkeys : db.ForeignKeys) (hac : ac ∈ db.agentConfigurations.rows)
    (hbug : bugId ∈ memberBugs db datasetId) (hp : p ∈ patchesOn db ac.agentConfigId bugId) :
    ∃ row ∈ restrictRows (fetchRows db datasetId) ac.agentConfigId, row.bugId = bugId ∧
      row.agentPatchId = some p.agentPatchId := by
  obtain ⟨bdm,hbdm,hdataset,rfl⟩ := mem_memberBugs.mp hbug
  obtain ⟨b,hb,hbId⟩ := (hkeys.members bdm hbdm).2
  obtain ⟨hpmem,hpon⟩ := List.mem_filter.mp hp
  rw [Bool.and_eq_true,decide_eq_true_eq,decide_eq_true_eq] at hpon
  obtain ⟨fetched,hfetched,hid⟩ := @exists_mem_fetchedRows db bdm.bugId p ac hac hpon.1
  have hcols := columns_of_mem_fetchedRows hfetched
  refine ⟨fetched.row,mem_restrictRows.mpr ⟨fetched,?_,hid,rfl⟩,hcols.1,hcols.2.1⟩
  rw [fetchRows,List.mem_insertionSort,joinedRows,List.mem_flatMap]
  refine ⟨(bdm,b),mem_innerJoin.mpr ⟨?_,hb,by simpa using hbId⟩,?_⟩
  · exact List.mem_filter.mpr ⟨hbdm,by simpa using hdataset⟩
  · rw [hbId]
    exact mem_bugRows hpmem hpon.2 hfetched

lemma perm_restrictRows {rows rows' : List FetchedRow} (h : rows.Perm rows') (agentConfigId : ℕ) :
    (restrictRows rows agentConfigId).Perm (restrictRows rows' agentConfigId) :=
  (h.filter _).map _

end Rows

section Cells
variable {db : Database} {datasetId : ℕ} {timeStart timeEnd : String} {bugId : String}
  {ac : AgentConfiguration} {rows : List FetchedRow} {metric : MetricSpec}

lemma isFor_research_iff (hjudge : metric.judgeName = none) {i : ℕ} {row : ResearchRow} :
    (researchRuns metric).IsFor bugId i row = true ↔
      row.bugId = bugId ∧ row.agentPatchId = some i := by
  have hskips : metric.skips row = false := by simp [MetricSpec.skips,hjudge,isTruthy]
  rw [Collection.IsFor,Bool.and_eq_true,decide_eq_true_iff,decide_eq_true_iff]
  simp only [researchRuns,hskips]
  rfl

/-- The rows of a configuration about a patch, as the metric looks for them. -/
lemma isFor_of_mem_restrictRows (hjudge : metric.judgeName = none) {i : ℕ} {row : ResearchRow}
    (hrow : row ∈ restrictRows (fetchRows db datasetId) ac.agentConfigId)
    (hfor : (researchRuns metric).IsFor bugId i row = true) :
    ∃ p ∈ patchesOn db ac.agentConfigId bugId, p.agentPatchId = i ∧
      ∃ fetched ∈ fetchedRows db bugId (some p), fetched.row = row := by
  obtain ⟨bug,-,p,hp,fetched,hfetched,rfl⟩ := exists_patch_of_mem_restrictRows hrow
  obtain ⟨hbug,hpatch⟩ := (isFor_research_iff hjudge).mp hfor
  have hcols := columns_of_mem_fetchedRows hfetched
  obtain rfl : bug = bugId := hcols.1.symm.trans hbug
  refine ⟨p,hp,?_,fetched,hfetched,rfl⟩
  have := hcols.2.1.symm.trans hpatch
  simpa using this

/-- The runs of a bug are the patches of the configuration there. -/
theorem researchRuns_perm (hkeys : db.ForeignKeys) (hjudge : metric.judgeName = none)
    (h : rows.Perm (fetchRows db datasetId)) (hac : ac ∈ db.agentConfigurations.rows)
    (hbug : bugId ∈ memberBugs db datasetId) :
    (Collection.members ((researchRuns metric).collect (restrictRows rows ac.agentConfigId))
      bugId).Perm ((patchesOn db ac.agentConfigId bugId).map fun p =>
        ⟨p.agentPatchId,p.unionId,researchScoreOf metric (restrictRows rows ac.agentConfigId)
          bugId p.agentPatchId⟩) := by
  have hperm := perm_restrictRows h ac.agentConfigId
  apply Collection.members_perm (f := AgentPatch.agentPatchId) (nodup_patchesOn _)
  · intro row hrow i hfor
    obtain ⟨p,hp,rfl,-⟩ := isFor_of_mem_restrictRows hjudge (hperm.mem_iff.mp hrow) hfor
    exact List.mem_map_of_mem hp
  · intro p hp
    obtain ⟨row,hrow,hcols⟩ := exists_mem_restrictRows hkeys hac hbug hp
    exact ⟨row,hperm.mem_iff.mpr hrow,(isFor_research_iff hjudge).mpr hcols⟩
  · intro p hp row hrow
    obtain ⟨p',hp',hid,fetched,hfetched,rfl⟩ := isFor_of_mem_restrictRows hjudge
      (hperm.mem_iff.mp (List.mem_of_find?_eq_some hrow)) (List.find?_some hrow)
    obtain rfl : p' = p := List.inj_on_of_nodup_map (nodup_patchesOn _) hp' hp hid
    have hunion := (columns_of_mem_fetchedRows hfetched).2.2.1
    change (⟨p'.agentPatchId,fetched.row.unionId.getD 0,metricScore fetched.row metric.id⟩ :
      ResearchRun) = _
    rw [hunion,researchScoreOf,hrow]
    rfl

/-- The research score of a patch is the one of some row about it. -/
lemma exists_researchScoreOf (hkeys : db.ForeignKeys) (hjudge : metric.judgeName = none)
    (h : rows.Perm (fetchRows db datasetId)) (hac : ac ∈ db.agentConfigurations.rows)
    (hbug : bugId ∈ memberBugs db datasetId) {p : AgentPatch}
    (hp : p ∈ patchesOn db ac.agentConfigId bugId) :
    ∃ row ∈ patchRows db bugId (some p),
      (researchScoreOf metric (restrictRows rows ac.agentConfigId) bugId
        p.agentPatchId).getD 0 = row.scores.get metric.id := by
  have hperm := perm_restrictRows h ac.agentConfigId
  obtain ⟨some',hsome,hcols⟩ := exists_mem_restrictRows hkeys hac hbug hp
  have hfound : ((restrictRows rows ac.agentConfigId).find?
      ((researchRuns metric).IsFor bugId p.agentPatchId)).isSome :=
    List.find?_isSome.mpr ⟨some',hperm.mem_iff.mpr hsome,(isFor_research_iff hjudge).mpr hcols⟩
  obtain ⟨row,hrow⟩ := Option.isSome_iff_exists.mp hfound
  obtain ⟨p',hp',hid,fetched,hfetched,rfl⟩ := isFor_of_mem_restrictRows hjudge
    (hperm.mem_iff.mp (List.mem_of_find?_eq_some hrow)) (List.find?_some hrow)
  obtain rfl : p' = p := List.inj_on_of_nodup_map (nodup_patchesOn _) hp' hp hid
  obtain ⟨leaderboardRow,hmem,hscore⟩ := score_of_mem_fetchedRows hfetched
  refine ⟨leaderboardRow,hmem,?_⟩
  rw [researchScoreOf,hrow]
  exact hscore metric.id

/-- The bugs with a row of the configuration are the bugs of the dataset. -/
lemma metricBugIds_perm (hkeys : db.ForeignKeys) (h : rows.Perm (fetchRows db datasetId))
    (hac : ac ∈ db.agentConfigurations.rows)
    (hselected : ∀ bugId ∈ memberBugs db datasetId,
      bugId ∈ selectedBugs db datasetId timeStart timeEnd)
    (hruns : ∀ bugId ∈ memberBugs db datasetId, patchesOn db ac.agentConfigId bugId ≠ []) :
    (metricBugIds (restrictRows rows ac.agentConfigId)).Perm
      (fetchSelectedBugIds db datasetId timeStart timeEnd) := by
  have hperm := perm_restrictRows h ac.agentConfigId
  rw [List.perm_ext_iff_of_nodup (nodup_metricBugIds _) nodup_fetchSelectedBugIds]
  intro bugId
  rw [mem_metricBugIds,mem_fetchSelectedBugIds]
  constructor
  · rintro ⟨row,hrow,rfl⟩
    obtain ⟨bug,hbug,p,-,fetched,hfetched,rfl⟩ :=
      exists_patch_of_mem_restrictRows (hperm.mem_iff.mp hrow)
    rw [(columns_of_mem_fetchedRows hfetched).1]
    exact hselected bug hbug
  · intro hbug
    have hmember : bugId ∈ memberBugs db datasetId := memberBugs_of_mem_selectedBugs hbug
    obtain ⟨p,hp⟩ := List.exists_mem_of_ne_nil _ (hruns bugId hmember)
    obtain ⟨row,hrow,hcols⟩ := exists_mem_restrictRows hkeys hac hmember hp
    exact ⟨row,hperm.mem_iff.mpr hrow,hcols.1⟩

/-- The scores that the metric counts are those of the counted patches. -/
theorem metricScores_perm (hkeys : db.ForeignKeys) (hjudge : metric.judgeName = none)
    (h : rows.Perm (fetchRows db datasetId)) (hac : ac ∈ db.agentConfigurations.rows)
    (hselected : ∀ bugId ∈ memberBugs db datasetId,
      bugId ∈ selectedBugs db datasetId timeStart timeEnd)
    (hruns : ∀ bugId ∈ memberBugs db datasetId, patchesOn db ac.agentConfigId bugId ≠ []) :
    (metricScores (restrictRows rows ac.agentConfigId) metric).Perm
      ((fetchSelectedBugIds db datasetId timeStart timeEnd).map fun bugId =>
        (countedPatches db ac.agentConfigId metric.k bugId).map fun p =>
          (researchScoreOf metric (restrictRows rows ac.agentConfigId) bugId
            p.agentPatchId).getD 0) := by
  have hbugs := metricBugIds_perm hkeys h hac hselected hruns
  have hscores : metricScores (restrictRows rows ac.agentConfigId) metric =
      (metricBugIds (restrictRows rows ac.agentConfigId)).map fun bugId =>
        (countedPatches db ac.agentConfigId metric.k bugId).map fun p =>
          (researchScoreOf metric (restrictRows rows ac.agentConfigId) bugId
            p.agentPatchId).getD 0 := by
    unfold metricScores
    apply List.map_congr_left
    intro bugId hbug
    have hmember : bugId ∈ memberBugs db datasetId :=
      memberBugs_of_mem_selectedBugs (mem_fetchSelectedBugIds.mp (hbugs.mem_iff.mp hbug))
    have hperm := researchRuns_perm hkeys hjudge h hac hmember
    rw [sortResearchRuns,take_sortOn_of_perm hperm (fun _ => rfl) (nodup_patchKeys _),
      List.map_map]
    rfl
  rw [hscores]
  exact hbugs.map _

/-- On a database that keeps its foreign keys and evaluates no patch twice the leaderboard and the
research page show the same cell of a configuration with a run on every bug of a dataset that is
wholly in the window. Each of the two queries may return its rows in any order. -/
theorem calculateCell_eq_calculateMetric (db : Database) (hkeys : db.ForeignKeys)
    (hone : OneEvaluation db) (datasetId : ℕ) (timeStart timeEnd : String)
    (hselected : ∀ bugId ∈ memberBugs db datasetId,
      bugId ∈ selectedBugs db datasetId timeStart timeEnd)
    (ac : AgentConfiguration) (hac : ac ∈ db.agentConfigurations.rows)
    (hruns : ∀ bugId ∈ memberBugs db datasetId, patchesOn db ac.agentConfigId bugId ≠ [])
    (rows : List ConfigRow)
    (hrows : rows.Perm (fetchLeaderboardRows db datasetId timeStart timeEnd))
    (fetched : List FetchedRow) (hfetched : fetched.Perm (fetchRows db datasetId))
    (scoreKey : ScoreKey) (aggregation : Aggregation) (k : ℕ) :
    (calculateCell scoreKey aggregation (fetchSelectedBugIds db datasetId timeStart timeEnd)
      (buildRunsByBug (rowsOf rows ac.agentConfigId)) k).cell =
      (calculateMetric (restrictRows fetched ac.agentConfigId)
        ⟨scoreKey,aggregation,k,none⟩).cell := by
  have hbugs : ∀ bugId ∈ fetchSelectedBugIds db datasetId timeStart timeEnd,
      bugId ∈ selectedBugs db datasetId timeStart timeEnd :=
    fun bugId hbug => mem_fetchSelectedBugIds.mp hbug
  have hperm := @metricScores_perm db datasetId timeStart timeEnd ac fetched
    ⟨scoreKey,aggregation,k,none⟩ hkeys rfl hfetched hac hselected hruns
  rw [calculateCell_cell,calculateMetric_cell,Cell.of_perm hperm,countedScores_eq hrows hac hbugs]
  congr 1
  apply List.map_congr_left
  intro bugId hbug
  apply List.map_congr_left
  intro p hp
  have hpatch := mem_patchesOn_of_counted hp
  have hmember : bugId ∈ memberBugs db datasetId := memberBugs_of_mem_selectedBugs (hbugs bugId hbug)
  obtain ⟨row,hrow,hscore⟩ := exists_scoreOf hrows hac (hbugs bugId hbug) hpatch
  obtain ⟨row',hrow',hscore'⟩ := @exists_researchScoreOf db datasetId bugId ac fetched
    ⟨scoreKey,aggregation,k,none⟩ hkeys rfl hfetched hac hmember p hpatch
  rw [hscore,hscore',patchRows_unique hone hrow hrow']

/-- `judgedTwice` without its second judgement. -/
def judgedOnce : Database :=
  { judgedTwice with
    patchLLMJudgeEvaluations := .singleton ⟨1,1,"bug",1,1,"success",some 3,some 0⟩ }

lemma foreignKeys_judgedOnce : judgedOnce.ForeignKeys where
  agentPatches := by decide
  developerPatches := by decide
  localization := by decide
  crashResolution := by decide
  llmJudge := by decide
  members := by decide

theorem calculateCell_eq_calculateMetric_judgedOnce :
    (calculateCell .epr .mean (fetchSelectedBugIds judgedOnce 1 "2024-01-01" "2024-01-31")
      (buildRunsByBug (rowsOf (fetchLeaderboardRows judgedOnce 1 "2024-01-01" "2024-01-31") 1))
      1).cell =
      (calculateMetric (restrictRows (fetchRows judgedOnce 1) 1) ⟨.epr,.mean,1,none⟩).cell :=
  calculateCell_eq_calculateMetric judgedOnce foreignKeys_judgedOnce
    ⟨by decide,by decide,by decide⟩ 1 "2024-01-01" "2024-01-31" (by decide +kernel)
    ⟨1,"agent","default","model","default",0,0⟩ (by decide) (by decide +kernel) _
    (List.Perm.refl _) _ (List.Perm.refl _) .epr .mean 1

end Cells
end LiveKBench.KArenaWeb
