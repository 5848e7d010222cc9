import LiveKBench.KArenaPipeline.LLMJudgeEval
import LiveKBench.KArenaWeb.RowOrder

/-! From the votes of a judge to the EPR of the run: the evaluation is stored and the leaderboard
scores the run of the patch from its row. -/
namespace LiveKBench.KArenaWeb
open KArena KArenaPipeline Lib
open KArenaDb (EntryStatus)

def statusText : EntryStatus → String
  | .success => "success"
  | .error => "error"

/-- The columns of the stored evaluation that the web application reads. -/
def judgementRow (evalId : ℕ) (eval : KArenaDb.PatchLLMJudgeEvaluation) :
    PatchLLMJudgeEvaluation where
  evalId := evalId
  judgeId := eval.judgeId.toNat
  bugId := eval.bugId
  devPatchId := eval.devPatchId.toNat
  agentPatchId := eval.agentPatchId.toNat
  status := statusText eval.status
  yesCount := eval.yesCount
  noCount := eval.noCount

/-- The database with one more evaluation. -/
def withJudgement (db : Database) (row : PatchLLMJudgeEvaluation)
    (h : db.patchLLMJudgeEvaluations.get? row.evalId = none) : Database :=
  { db with patchLLMJudgeEvaluations := db.patchLLMJudgeEvaluations.insert row h }

/-- `insert_llm_judge_eval`, where the database hands out the id: it fails if the id is taken, and
if the judge has evaluated the patches before. -/
def insertLLMJudgeEval (db : Database) (evalId : ℕ) (eval : KArenaDb.PatchLLMJudgeEvaluation) :
    Option Database :=
  let row := judgementRow evalId eval
  if h : db.patchLLMJudgeEvaluations.get? row.evalId = none then
    if db.patchLLMJudgeEvaluations.rows.any fun llm =>
        (llm.judgeId,llm.devPatchId,llm.agentPatchId) =
          (row.judgeId,row.devPatchId,row.agentPatchId) then none
    else some (withJudgement db row h)
  else none

/-- The leaderboard's row joins the evaluation. -/
def Joins (row : LeaderboardRow) (eval : KArenaDb.PatchLLMJudgeEvaluation) : Prop :=
  row.llmStatus = some (statusText eval.status) ∧ row.yesCount = eval.yesCount ∧
    row.noCount = eval.noCount

/-- The run has EPR one exactly if its crash is not reproduced and more replies found the patches
equivalent than found them discrepant. -/
def ScoredByVotes (lc : Lowercase) (votes : List Completion) (crrEvaluation : Option String)
    (run : RunScore) : Prop :=
  run.scores.epr = 1 ↔ crrEvaluation = some "notReproduced" ∧
    countVerdicts lc .discrepant votes < countVerdicts lc .equivalent votes

section Scored
variable {lc : Lowercase} {judge : LLMJudgeEval} {votes : List Completion}
  {eval : KArenaDb.PatchLLMJudgeEvaluation} {row : LeaderboardRow}

/-- A majority of equivalent replies makes the evaluation a success, so that only the counts
matter. -/
theorem scoredByVotes (h : judge.Counts lc votes eval) (hrow : Joins row eval) (i : ℕ) :
    ScoredByVotes lc votes row.crrEvaluation (row.run i) := by
  obtain ⟨hstatus,hyes,hno⟩ := hrow
  have hmajority : row.majority = true ↔
      countVerdicts lc .discrepant votes < countVerdicts lc .equivalent votes := by
    rw [LeaderboardRow.majority,hyes,hno,h.yesCount,h.noCount]
    simp
  have hsuccess : row.majority = true → row.llmStatus = some "success" := by
    intro hm
    have hlt := hmajority.mp hm
    cases hs : eval.status with
    | success => rw [hstatus,hs,statusText]
    | error =>
      have hnone : countVerdicts lc .equivalent votes = 0 := by
        rw [countVerdicts,List.countP_eq_zero]
        intro vote hvote
        simp [h.status.mp hs vote hvote]
      omega
  unfold ScoredByVotes
  change row.scores.epr = 1 ↔ _
  rw [← hmajority]
  unfold LeaderboardRow.scores
  dsimp only
  split
  · rename_i hall
    simp [hall.1,hall.2.2]
  · rename_i hall
    simp only [zero_ne_one,false_iff]
    intro hboth
    exact hall ⟨hboth.1,hsuccess hboth.2,hboth.2⟩

end Scored

section Stored
variable {db db' : Database} {evalId : ℕ} {eval : KArenaDb.PatchLLMJudgeEvaluation}
  {p : AgentPatch} {row : LeaderboardRow}

/-- A patch that no judge has evaluated gets its first evaluation. -/
lemma insertLLMJudgeEval_of_unjudged (hid : db.patchLLMJudgeEvaluations.get? evalId = none)
    (h : ∀ llm ∈ db.patchLLMJudgeEvaluations.rows, llm.agentPatchId ≠ eval.agentPatchId.toNat) :
    insertLLMJudgeEval db evalId eval = some (withJudgement db (judgementRow evalId eval) hid) := by
  have hclash : (db.patchLLMJudgeEvaluations.rows.any fun llm =>
      decide ((llm.judgeId,llm.devPatchId,llm.agentPatchId) =
        ((judgementRow evalId eval).judgeId,(judgementRow evalId eval).devPatchId,
          (judgementRow evalId eval).agentPatchId))) = false := by
    rw [List.any_eq_false]
    intro llm hllm
    have hne := h llm hllm
    simp only [Prod.mk.injEq,decide_eq_true_eq,judgementRow]
    tauto
  have hid' : db.patchLLMJudgeEvaluations.get? (judgementRow evalId eval).evalId = none := hid
  simp only [insertLLMJudgeEval,dif_pos hid',hclash]
  rfl

/-- Of a patch that is judged once, every row joins that judgement, and one of the evaluations of its
crash. -/
lemma joins_of_mem_patchRows {bugId : String}
    (hllm : db.patchLLMJudgeEvaluations.rows.filter (fun llm => onPatch (some p) llm.agentPatchId) =
      [judgementRow evalId eval])
    (h : row ∈ patchRows db bugId (some p)) :
    Joins row eval ∧ ∃ crr ∈ matches? db.patchCrashResolutionEvaluations.rows
      (fun crr => onPatch (some p) crr.agentPatchId),
      row.crrEvaluation =
        (crr.bind PatchCrashResolutionEvaluation.kGymEvaluation).map Evaluation.text := by
  simp only [patchRows,List.mem_flatMap,List.mem_map] at h
  obtain ⟨crr,hcrr,llm,hmem,loc,-,rfl⟩ := h
  refine ⟨?_,crr,hcrr,rfl⟩
  rw [mem_matches?,hllm] at hmem
  obtain ⟨hnil,-⟩ | ⟨stored,hstored,rfl⟩ := hmem
  · cases hnil
  · obtain rfl := List.mem_singleton.mp hstored
    exact ⟨rfl,rfl,rfl⟩

/-- The leaderboard has a run of each patch of a configuration on a selected bug, scored from one of
the rows about the patch. -/
lemma exists_run {ac : AgentConfiguration} {datasetId : ℕ} {timeStart timeEnd : String}
    {rows : List ConfigRow} (hp : p ∈ db.agentPatches.rows) (hac : ac ∈ db.agentConfigurations.rows)
    (hconfig : p.agentConfigId = ac.agentConfigId)
    (hbug : p.bugId ∈ selectedBugs db datasetId timeStart timeEnd)
    (hrows : rows.Perm (fetchLeaderboardRows db datasetId timeStart timeEnd)) :
    ∃ row ∈ patchRows db p.bugId (some p),
      (buildRunsByBug (rowsOf rows ac.agentConfigId)).run? p.bugId p.agentPatchId =
        some (row.run p.agentPatchId) := by
  have hperm := perm_rowsOf hrows ac.agentConfigId
  have hpatch : p ∈ patchesOn db ac.agentConfigId p.bugId := by
    simp [patchesOn,hp,hconfig]
  obtain ⟨row₀,hrow₀⟩ := patchRows_ne_nil db p.bugId (some p)
  have hcols := patch_of_mem_patchRows hrow₀
  have hmem₀ : row₀ ∈ rowsOf rows ac.agentConfigId :=
    hperm.mem_iff.mpr (mem_rowsOf_fetch.mpr
      ⟨ac,hac,rfl,p.bugId,hbug,mem_configRows.mpr (.inr ⟨p,hpatch,hrow₀⟩)⟩)
  rw [run?_buildRunsByBug]
  cases hfind : (rowsOf rows ac.agentConfigId).find? fun row =>
      row.IsFor p.bugId p.agentPatchId with
  | none =>
    have hnot := List.find?_eq_none.mp hfind row₀ hmem₀
    exact absurd (decide_eq_true (⟨hcols.1,hcols.2.1⟩ : row₀.IsFor _ _)) hnot
  | some row =>
    have hfor : row.IsFor p.bugId p.agentPatchId := by
      simpa using List.find?_some hfind
    obtain ⟨p',hp',hid,hrow⟩ := isFor_of_mem_rowsOf
      (hperm.mem_iff.mp (List.mem_of_find?_eq_some hfind)) (isFor_iff.mpr hfor)
    obtain rfl : p' = p := List.inj_on_of_nodup_map (nodup_patchesOn _) hp' hpatch hid
    exact ⟨row,hrow,rfl⟩

end Stored

section Chain
variable (lc : Lowercase) (votes : List Completion) (eval : KArenaDb.PatchLLMJudgeEvaluation)

/-- Wherever a run is scored from a row that joins the evaluation. -/
def ScoresRows : Prop :=
  ∀ (rows : List LeaderboardRow) (row : LeaderboardRow) (bugId : String) (i : ℕ),
    (rows.find? fun row => row.IsFor bugId i) = some row → Joins row eval →
      ∃ run, (buildRunsByBug rows).run? bugId i = some run ∧
        ScoredByVotes lc votes row.crrEvaluation run

/-- On a database where no judge has evaluated the patch, storing succeeds, and afterwards the
leaderboard scores the run of the patch by the votes, in whatever order the database returns the
rows. -/
def ScoresStored : Prop :=
  ∀ (db : Database) (evalId : ℕ) (p : AgentPatch),
    db.patchLLMJudgeEvaluations.get? evalId = none → p ∈ db.agentPatches.rows →
    p.agentPatchId = eval.agentPatchId.toNat →
    (∀ llm ∈ db.patchLLMJudgeEvaluations.rows, llm.agentPatchId ≠ p.agentPatchId) →
    ∃ db', insertLLMJudgeEval db evalId eval = some db' ∧
      ∀ ac ∈ db.agentConfigurations.rows, p.agentConfigId = ac.agentConfigId →
      ∀ (datasetId : ℕ) (timeStart timeEnd : String) (rows : List ConfigRow),
        p.bugId ∈ selectedBugs db' datasetId timeStart timeEnd →
        rows.Perm (fetchLeaderboardRows db' datasetId timeStart timeEnd) →
        ∃ run, (buildRunsByBug (rowsOf rows ac.agentConfigId)).run? p.bugId p.agentPatchId =
            some run ∧
          ∃ crr ∈ matches? db.patchCrashResolutionEvaluations.rows
              (fun crr => onPatch (some p) crr.agentPatchId),
            ScoredByVotes lc votes
              ((crr.bind PatchCrashResolutionEvaluation.kGymEvaluation).map Evaluation.text) run

variable {lc} {votes} {eval} {judge : LLMJudgeEval}

theorem scoresRows (h : judge.Counts lc votes eval) : ScoresRows lc votes eval := by
  intro rows row bugId i hfind hrow
  refine ⟨row.run i,?_,scoredByVotes h hrow i⟩
  rw [run?_buildRunsByBug,hfind]
  rfl

theorem scoresStored (h : judge.Counts lc votes eval) : ScoresStored lc votes eval := by
  intro db evalId p hid hp hpatch hunjudged
  rw [hpatch] at hunjudged
  refine ⟨_,insertLLMJudgeEval_of_unjudged hid hunjudged,?_⟩
  intro ac hac hconfig datasetId timeStart timeEnd rows hbug hrows
  obtain ⟨row,hrow,hrun⟩ := @exists_run (withJudgement db (judgementRow evalId eval) hid) p ac
    datasetId timeStart timeEnd rows hp hac hconfig hbug hrows
  have hllm : (db.patchLLMJudgeEvaluations.rows ++ [judgementRow evalId eval]).filter
      (fun llm => onPatch (some p) llm.agentPatchId) = [judgementRow evalId eval] := by
    rw [List.filter_append]
    have hold : db.patchLLMJudgeEvaluations.rows.filter
        (fun llm => onPatch (some p) llm.agentPatchId) = [] := by
      rw [List.filter_eq_nil_iff]
      intro llm hllm
      have hne := hunjudged llm hllm
      simp only [onPatch,Option.any_some,decide_eq_true_eq,hpatch]
      exact hne
    rw [hold]
    simp [onPatch,judgementRow,hpatch]
  obtain ⟨hjoins,crr,hcrr,hverdict⟩ := joins_of_mem_patchRows hllm hrow
  refine ⟨_,hrun,crr,hcrr,?_⟩
  rw [← hverdict]
  exact scoredByVotes h hjoins p.agentPatchId

end Chain

/-- Where the prompt can be formatted a record is returned. It counts the replies, however they are
ordered, and the run that is scored from it has EPR one exactly if its crash is not reproduced and the
replies that found the patches equivalent are the majority. -/
theorem judge_votes_to_epr (lc : Lowercase) (judge : LLMJudgeEval) (calls : ℕ → Completion)
    (content : LLMJudgeEval.Content) (base : String) (hn : 0 ≤ judge.judgeConfig.nVotes)
    (hprompt : judge.formatPrompt judge.judgeConfig.prompt content.devPatchContent
      content.devPatchMessage content.agentPatchContent = some base) :
    ∃ eval, judge.runEvalWithContent lc (.ok ()) calls content = some eval ∧
      judge.Counts lc (judge.votes calls) eval ∧
      (∀ calls' eval', judge.runEvalWithContent lc (.ok ()) calls' content = some eval' →
        (judge.votes calls).Perm (judge.votes calls') →
          eval.yesCount = eval'.yesCount ∧ eval.noCount = eval'.noCount ∧
          eval.errorCount = eval'.errorCount ∧ eval.status = eval'.status ∧
          eval.systemMessage = eval'.systemMessage) ∧
      ScoresRows lc (judge.votes calls) eval ∧ ScoresStored lc (judge.votes calls) eval := by
  obtain ⟨eval,h⟩ := LLMJudgeEval.exists_run lc calls hprompt
  have hcounts := LLMJudgeEval.counts hn h
  refine ⟨eval,h,hcounts,?_,scoresRows hcounts,scoresStored hcounts⟩
  intro calls' eval' h' hperm
  exact LLMJudgeEval.counts_perm h h' hperm

/-- A reply in the format that the instructions ask for. -/
def replyOf (word : String) : Completion :=
  .answered (some ("<reasoning>r</reasoning>\n<evaluation>\n" ++
    "<developerPatchAnalysis>a</developerPatchAnalysis>\n" ++
    "<studentPatchAnalysis>b</studentPatchAnalysis>\n" ++
    "\x3cverdict>" ++ word ++ "\x3c/verdict>\n</evaluation>"))

/-- Two of the replies that are parsed find the patches equivalent, and one does not. -/
def majority : List Completion :=
  [replyOf "equivalent",.raised "timeout",replyOf "Discrepant",replyOf "equivalent",.answered none]

/-- One of them cannot be parsed. -/
def tie : List Completion := majority.set 3 (replyOf "unclear")

def callsOf (completions : List Completion) (i : ℕ) : Completion :=
  completions[i-1]?.getD (.answered none)

/-- Five votes on a patch whose crash is not reproduced. -/
def fiveVotes : LLMJudgeEval where
  judgeConfig := ⟨1,"judge","prompt","model","config",5,.empty⟩
  agentPatchId := 1
  bugId := "bug"
  devPatchId := 1
  formatPrompt := fun template _ _ _ => some template

def unjudged : Database := { judgedTwice with patchLLMJudgeEvaluations := .empty }

lemma verdict_replyOf : (replyOf "equivalent").verdict asciiLowercase = .equivalent ∧
    (replyOf "Discrepant").verdict asciiLowercase = .discrepant ∧
    (replyOf "unclear").verdict asciiLowercase = .parseError := by
  decide +kernel

lemma tie_ne_majority : tie ≠ majority := by decide +kernel

lemma countVerdicts_fiveVotes : ∀ completions ∈ [majority,tie],
    countVerdicts asciiLowercase .discrepant (fiveVotes.votes (callsOf completions)) = 1 ∧
      countVerdicts asciiLowercase .equivalent (fiveVotes.votes (callsOf completions)) =
        if completions = majority then 2 else 1 := by
  obtain ⟨hequivalent,hdiscrepant,hunclear⟩ := verdict_replyOf
  have hraised : (Completion.raised "timeout").verdict asciiLowercase = .parseError := rfl
  have hempty : (Completion.answered none).verdict asciiLowercase = .parseError := rfl
  intro completions hmem
  simp only [List.mem_cons,List.not_mem_nil,or_false] at hmem
  obtain rfl | rfl := hmem
  · rw [if_pos rfl,show fiveVotes.votes (callsOf majority) = majority from rfl]
    simp [countVerdicts,majority,hequivalent,hdiscrepant,hraised,hempty]
  · rw [if_neg tie_ne_majority,show fiveVotes.votes (callsOf tie) = tie from rfl]
    simp [countVerdicts,tie,majority,hequivalent,hdiscrepant,hunclear,hraised,hempty]

lemma mem_selectedBugs_unjudged {db : Database} {evalId : ℕ}
    {eval : KArenaDb.PatchLLMJudgeEvaluation} (h : insertLLMJudgeEval unjudged evalId eval = some db) :
    "bug" ∈ selectedBugs db 1 "2024-01-01" "2024-01-31" := by
  simp only [insertLLMJudgeEval] at h
  split_ifs at h
  obtain rfl := Option.some.inj h
  change "bug" ∈ selectedBugs unjudged 1 "2024-01-01" "2024-01-31"
  decide +kernel

/-- The votes are counted, their record is stored, and the leaderboard scores the run from it. -/
def JudgedAs (completions : List Completion) (errors : ℤ) (reached : Prop) : Prop :=
  ∃ eval db' run,
    fiveVotes.runEvalWithContent asciiLowercase (.ok ()) (callsOf completions)
      ⟨"","","","bug",1,1⟩ = some eval ∧
    eval.errorCount = some errors ∧ insertLLMJudgeEval unjudged 1 eval = some db' ∧
    (buildRunsByBug (rowsOf (fetchLeaderboardRows db' 1 "2024-01-01" "2024-01-31") 1)).run?
      "bug" 1 = some run ∧ (run.scores.epr = 1 ↔ reached)

theorem judge_votes_to_epr_fiveVotes : JudgedAs majority 2 True ∧ JudgedAs tie 3 False := by
  have hjudged : ∀ completions ∈ [majority,tie], JudgedAs completions
      (if completions = majority then 2 else 3) (completions = majority) := by
    intro completions hmem
    obtain ⟨hdiscrepant,hequivalent⟩ := countVerdicts_fiveVotes completions hmem
    obtain ⟨eval,heval,hcount,-,-,hstored⟩ := judge_votes_to_epr asciiLowercase fiveVotes
      (callsOf completions) ⟨"","","","bug",1,1⟩ "prompt" (by decide) rfl
    have hpatch : eval.agentPatchId = 1 := by
      obtain rfl := Option.some.inj heval
      rfl
    obtain ⟨db',hinsert,hscored⟩ := hstored unjudged 1 ⟨1,1,"bug",1,0⟩ rfl (by decide)
      (by rw [hpatch]; rfl) nofun
    obtain ⟨run,hrun,crr,hcrr,hepr⟩ := hscored ⟨1,"agent","default","model","default",0,0⟩
      (by decide) rfl 1 "2024-01-01" "2024-01-31" _ (mem_selectedBugs_unjudged hinsert)
      (List.Perm.refl _)
    have hnotReproduced : (crr.bind PatchCrashResolutionEvaluation.kGymEvaluation).map
        Evaluation.text = some "notReproduced" := by
      obtain rfl := List.mem_singleton.mp hcrr
      rfl
    refine ⟨eval,db',run,heval,?_,hinsert,hrun,?_⟩
    · obtain ⟨errorCount,herror,htotal⟩ := hcount.total
      have hfive : fiveVotes.judgeConfig.nVotes = 5 := rfl
      rw [hdiscrepant,hequivalent,hfive] at htotal
      rw [herror]
      split_ifs at htotal ⊢ <;> exact congrArg some (by omega)
    · unfold ScoredByVotes at hepr
      rw [hepr,hnotReproduced,hdiscrepant,hequivalent]
      split_ifs with hmajority <;> simp [hmajority]
  have hmajority := hjudged majority (by simp)
  have htie := hjudged tie (by simp)
  simp only [if_pos,eq_self,tie_ne_majority] at hmajority htie
  exact ⟨hmajority,htie⟩

end LiveKBench.KArenaWeb
