import LiveKBench.KArena.JudgeReply
import LiveKBench.KArenaDb.Entities
import Mathlib.Data.List.Count
import Mathlib.Data.List.Range
import Mathlib.Algebra.Group.Int.Defs

/-! The votes of a judge on one agent's patch, and the evaluation that is made of them. -/
namespace LiveKBench.KArenaPipeline
open KArena (JudgeVerdict ParsedData Lowercase parseVerdict)
open KArenaDb (EntryStatus StrDict)
open Lib

structure LLMJudgeConfiguration where
  judgeId : ℕ
  judgeName : String
  prompt : String
  model : String
  modelConfigName : String
  nVotes : ℤ
  attrs : StrDict

/-- How `router.acompletion` ends, up to the content of the first choice. -/
inductive Completion
  | raised (message : String)
  | answered (content : Option String)
  deriving DecidableEq, Repr

inductive Vote
  | yes
  | no
  | error
  deriving DecidableEq, Repr

abbrev Message := List (String × Json)

/-- The dictionary as it stands in a message. -/
def parsedDataJson (parsed : ParsedData) : Json :=
  .obj ([("reasoning",parsed.reasoning),("developerPatchAnalysis",parsed.developerPatchAnalysis),
    ("studentPatchAnalysis",parsed.studentPatchAnalysis),("verdict",parsed.verdict),
    ("error",parsed.error),("raw_response",parsed.rawResponse)].filterMap
      fun member => member.2.map fun value => (member.1,.str value))

def formatInstructions : String :=
  "\n\nAfter your analysis, provide your response in the following format:\n\n" ++
  "<reasoning>\n" ++
  "[Provide extensive reasoning here. Analyze both patches in detail, compare their approaches, " ++
  "consider edge cases, and explain your thought process thoroughly before making a decision.]\n" ++
  "</reasoning>\n\n<evaluation>\n<developerPatchAnalysis>\n" ++
  "[Your detailed analysis of what the approved/developer patch does]\n" ++
  "</developerPatchAnalysis>\n<studentPatchAnalysis>\n" ++
  "[Your detailed analysis of what the student/agent patch does]\n" ++
  "</studentPatchAnalysis>\n\x3cverdict>\n[Either \"equivalent\" or \"discrepant\"]\n\x3c/verdict>\n" ++
  "</evaluation>\n\nImportant:\n" ++
  "- The verdict must be exactly \"equivalent\" or \"discrepant\" (lowercase, without quotes in " ++
  "the actual output)\n" ++
  "- Use the <reasoning> section to think through your analysis thoroughly\n" ++
  "- Provide detailed technical analysis in the XML fields\n" ++
  "- All content must be properly formatted within the XML tags\n"

section Vote
variable (lc : Lowercase) (prompt : String)

def firstMessages : List Message :=
  [[("role",.str "system"),("content",.str "You are a kernel expert.")],
   [("role",.str "user"),("content",.str prompt)]]

def runSingleVote (completion : Completion) : Vote × List Message :=
  match completion with
  | .raised message =>
    (.error,firstMessages prompt ++ [[("error",.str ("LLM API error: " ++ message))]])
  | .answered content =>
    let responseText := content.getD ""
    let messages := firstMessages prompt ++
      [[("role",.str "assistant"),("content",.str responseText)]]
    if responseText = "" then
      (.error,messages ++ [[("error",.str "Empty response from LLM")]])
    else
      let (verdict,parsedData) := parseVerdict lc responseText
      match verdict with
      | .parseError =>
        (.error,messages ++ [[("error",.str (parsedData.error.getD "Unknown parse error")),
          ("parsed_data",parsedDataJson parsedData)]])
      | .equivalent => (.yes,messages ++ [[("parsed_data",parsedDataJson parsedData)]])
      | .discrepant => (.no,messages ++ [[("parsed_data",parsedDataJson parsedData)]])

/-- The counters and the messages of the loop over the votes. -/
structure Tally where
  allMessages : List (List Message)
  yesCount : ℤ
  noCount : ℤ
  errorCount : ℤ

def Tally.add (tally : Tally) (vote : Vote × List Message) : Tally :=
  let tally := { tally with allMessages := tally.allMessages ++ [vote.2] }
  match vote.1 with
  | .yes => { tally with yesCount := tally.yesCount+1 }
  | .no => { tally with noCount := tally.noCount+1 }
  | .error => { tally with errorCount := tally.errorCount+1 }

def runVotes (completions : List Completion) : Tally :=
  completions.foldl (fun tally completion => tally.add (runSingleVote lc prompt completion))
    ⟨[],0,0,0⟩

end Vote

/-- What one evaluation is made with. The template is formatted, and the patches are filtered, by
`formatPrompt`, which is `none` where that raises. -/
structure LLMJudgeEval where
  judgeConfig : LLMJudgeConfiguration
  agentPatchId : ℕ
  bugId : String
  devPatchId : ℕ
  formatPrompt : (template devPatch devPatchMessage agentPatch : String) → Option String

namespace LLMJudgeEval
variable (eval : LLMJudgeEval) (lc : Lowercase)

def errorResult (systemMessage : String) : KArenaDb.PatchLLMJudgeEvaluation where
  evalId := 0
  judgeId := eval.judgeConfig.judgeId
  bugId := eval.bugId
  devPatchId := eval.devPatchId
  agentPatchId := eval.agentPatchId
  status := .error
  systemMessage := systemMessage
  yesCount := none
  noCount := none
  errorCount := none
  llmMessages := none

/-- The result of the votes `1, …, nVotes`. -/
def result (tally : Tally) (bugId : String) (devPatchId agentPatchId : ℕ) :
    KArenaDb.PatchLLMJudgeEvaluation :=
  let nVotes := eval.judgeConfig.nVotes
  let (status,systemMessage) :=
    if tally.errorCount = nVotes then (EntryStatus.error,s!"All {nVotes} votes failed")
    else (EntryStatus.success,
      s!"Completed {nVotes} votes: {tally.yesCount} yes, {tally.noCount} no, " ++
        s!"{tally.errorCount} errors")
  { evalId := 0
    judgeId := eval.judgeConfig.judgeId
    bugId := bugId
    devPatchId := devPatchId
    agentPatchId := agentPatchId
    status := status
    systemMessage := systemMessage
    yesCount := some tally.yesCount
    noCount := some tally.noCount
    errorCount := some tally.errorCount
    llmMessages := some tally.allMessages }

/-- The patches' contents, and the ids of the record. -/
structure Content where
  devPatchContent : String
  devPatchMessage : String
  agentPatchContent : String
  bugId : String
  devPatchId : ℕ
  agentPatchId : ℕ

/-- `router` is an error where none is found; `calls` tells how the call of each vote ends. The
result is `none` where the prompt cannot be formatted, which raises. -/
def runEvalWithContent (router : Except String Unit) (calls : ℕ → Completion)
    (content : Content) : Option KArenaDb.PatchLLMJudgeEvaluation :=
  match router with
  | .error message => some (eval.errorResult ("Failed to get router: " ++ message))
  | .ok () => do
    let base ← eval.formatPrompt eval.judgeConfig.prompt content.devPatchContent
      content.devPatchMessage content.agentPatchContent
    let prompt := base ++ formatInstructions
    let votes := (List.range' 1 eval.judgeConfig.nVotes.toNat).map calls
    some (eval.result (runVotes lc prompt votes) content.bugId content.devPatchId
      content.agentPatchId)

end LLMJudgeEval

/-! ## Counting -/

/-- What a call brings: the verdict of its reply, or an error. -/
def Completion.verdict (lc : Lowercase) : Completion → JudgeVerdict
  | .raised _ => .parseError
  | .answered content =>
    if content.getD "" = "" then .parseError else (parseVerdict lc (content.getD "")).1

/-- The number of calls that bring a verdict. -/
def countVerdicts (lc : Lowercase) (verdict : JudgeVerdict) (completions : List Completion) : ℕ :=
  completions.countP fun completion => completion.verdict lc = verdict

section Counting
variable {lc : Lowercase} {prompt : String} {completions completions' : List Completion}

lemma vote_runSingleVote (completion : Completion) : (runSingleVote lc prompt completion).1 =
    match completion.verdict lc with
    | .equivalent => .yes
    | .discrepant => .no
    | .parseError => .error := by
  unfold runSingleVote Completion.verdict
  cases completion with
  | raised message => rfl
  | answered content =>
    dsimp only
    by_cases hempty : content.getD "" = ""
    · rw [if_pos hempty,if_pos hempty]
    · rw [if_neg hempty,if_neg hempty]
      cases hv : (parseVerdict lc (content.getD "")).1 <;> rfl

/-- One vote adds its messages and one to the count of its verdict. -/
lemma tally_add (tally : Tally) (completion : Completion) :
    tally.add (runSingleVote lc prompt completion) =
      ⟨tally.allMessages ++ [(runSingleVote lc prompt completion).2],
        tally.yesCount+countVerdicts lc .equivalent [completion],
        tally.noCount+countVerdicts lc .discrepant [completion],
        tally.errorCount+countVerdicts lc .parseError [completion]⟩ := by
  rw [Tally.add,vote_runSingleVote]
  cases hv : completion.verdict lc <;> simp [countVerdicts,hv]

lemma countVerdicts_cons (verdict : JudgeVerdict) (completion : Completion) :
    countVerdicts lc verdict (completion :: completions) =
      countVerdicts lc verdict [completion]+countVerdicts lc verdict completions := by
  simp only [countVerdicts,List.countP_cons,List.countP_nil]
  omega

lemma foldl_add (tally : Tally) :
    completions.foldl (fun tally completion => tally.add (runSingleVote lc prompt completion))
        tally =
      ⟨tally.allMessages ++ completions.map fun completion =>
          (runSingleVote lc prompt completion).2,
        tally.yesCount+countVerdicts lc .equivalent completions,
        tally.noCount+countVerdicts lc .discrepant completions,
        tally.errorCount+countVerdicts lc .parseError completions⟩ := by
  induction completions generalizing tally with
  | nil => simp [countVerdicts]
  | cons completion completions ih =>
    have hcons : ∀ verdict, countVerdicts lc verdict (completion :: completions) =
        countVerdicts lc verdict [completion]+countVerdicts lc verdict completions :=
      fun verdict => countVerdicts_cons verdict completion
    rw [List.foldl_cons,ih,tally_add,hcons,hcons,hcons]
    simp only [Nat.cast_add,Tally.mk.injEq,List.map_cons,List.append_assoc,List.singleton_append,
      true_and]
    omega

/-- The loop counts the verdicts and collects the messages. -/
theorem runVotes_eq : runVotes lc prompt completions =
    ⟨completions.map fun completion => (runSingleVote lc prompt completion).2,
      countVerdicts lc .equivalent completions,countVerdicts lc .discrepant completions,
      countVerdicts lc .parseError completions⟩ := by
  rw [runVotes,foldl_add]
  simp

lemma countVerdicts_total : countVerdicts lc .equivalent completions +
    countVerdicts lc .discrepant completions+countVerdicts lc .parseError completions =
      completions.length := by
  induction completions with
  | nil => rfl
  | cons completion completions ih =>
    have hone : countVerdicts lc .equivalent [completion] +
        countVerdicts lc .discrepant [completion]+countVerdicts lc .parseError [completion] = 1 := by
      cases hv : completion.verdict lc <;> simp [countVerdicts,hv]
    rw [countVerdicts_cons .equivalent,countVerdicts_cons .discrepant,
      countVerdicts_cons .parseError,List.length_cons]
    omega

lemma countVerdicts_eq_length (verdict : JudgeVerdict) :
    countVerdicts lc verdict completions = completions.length ↔
      ∀ completion ∈ completions, completion.verdict lc = verdict := by
  rw [countVerdicts,List.countP_eq_length]
  simp

lemma countVerdicts_perm (h : completions.Perm completions') (verdict : JudgeVerdict) :
    countVerdicts lc verdict completions = countVerdicts lc verdict completions' := h.countP_eq _

end Counting

namespace LLMJudgeEval
variable (eval : LLMJudgeEval) (lc : Lowercase) {calls calls' : ℕ → Completion}
  {content : Content} {r r' : KArenaDb.PatchLLMJudgeEvaluation}

/-- The calls of the votes, in their order. -/
def votes (calls : ℕ → Completion) : List Completion :=
  (List.range' 1 eval.judgeConfig.nVotes.toNat).map calls

/-- The record counts the verdicts of the votes, keeps their messages, and is an error where none of
them brings a verdict. -/
structure Counts (votes : List Completion) (r : KArenaDb.PatchLLMJudgeEvaluation) : Prop where
  yesCount : r.yesCount = some (countVerdicts lc .equivalent votes : ℤ)
  noCount : r.noCount = some (countVerdicts lc .discrepant votes : ℤ)
  total : ∃ errorCount, r.errorCount = some errorCount ∧
    countVerdicts lc .equivalent votes+countVerdicts lc .discrepant votes+errorCount =
      eval.judgeConfig.nVotes
  messages : ∃ prompt, r.llmMessages = some (votes.map fun vote =>
    (runSingleVote lc prompt vote).2)
  nVotes : (votes.length : ℤ) = eval.judgeConfig.nVotes
  status : r.status = .error ↔ ∀ vote ∈ votes, vote.verdict lc = .parseError

variable {eval} {lc}

/-- The votes end, whatever becomes of each. -/
lemma exists_run (lc : Lowercase) (calls : ℕ → Completion) {base : String}
    (h : eval.formatPrompt eval.judgeConfig.prompt content.devPatchContent content.devPatchMessage
      content.agentPatchContent = some base) :
    ∃ r, eval.runEvalWithContent lc (.ok ()) calls content = some r := by
  rw [runEvalWithContent,h]
  exact ⟨_,rfl⟩

/-- The record is made of the verdicts of the votes. -/
lemma run_eq (h : eval.runEvalWithContent lc (.ok ()) calls content = some r) :
    ∃ prompt, r = eval.result
      ⟨(eval.votes calls).map fun vote => (runSingleVote lc prompt vote).2,
        countVerdicts lc .equivalent (eval.votes calls),
        countVerdicts lc .discrepant (eval.votes calls),
        countVerdicts lc .parseError (eval.votes calls)⟩
      content.bugId content.devPatchId content.agentPatchId := by
  obtain ⟨base,-,hr⟩ := Option.bind_eq_some_iff.mp h
  obtain rfl := Option.some.inj hr
  refine ⟨base ++ formatInstructions,?_⟩
  rw [← runVotes_eq]
  rfl

theorem counts (hn : 0 ≤ eval.judgeConfig.nVotes)
    (h : eval.runEvalWithContent lc (.ok ()) calls content = some r) :
    eval.Counts lc (eval.votes calls) r := by
  obtain ⟨prompt,rfl⟩ := run_eq h
  have hlength : ((eval.votes calls).length : ℤ) = eval.judgeConfig.nVotes := by
    simp [votes,hn]
  have htotal := @countVerdicts_total lc (eval.votes calls)
  refine ⟨rfl,rfl,⟨(countVerdicts lc .parseError (eval.votes calls) : ℤ),rfl,by omega⟩,
    ⟨prompt,rfl⟩,hlength,?_⟩
  rw [← countVerdicts_eq_length]
  simp only [result]
  split
  · rename_i herror
    simp only [true_iff]
    omega
  · rename_i herror
    simp only [reduceCtorEq,false_iff]
    omega

/-- Only how many calls bring each verdict matters. -/
theorem counts_perm (h : eval.runEvalWithContent lc (.ok ()) calls content = some r)
    (h' : eval.runEvalWithContent lc (.ok ()) calls' content = some r')
    (hperm : (eval.votes calls).Perm (eval.votes calls')) :
    r.yesCount = r'.yesCount ∧ r.noCount = r'.noCount ∧ r.errorCount = r'.errorCount ∧
      r.status = r'.status ∧ r.systemMessage = r'.systemMessage := by
  obtain ⟨prompt,rfl⟩ := run_eq h
  obtain ⟨prompt',rfl⟩ := run_eq h'
  simp only [result,countVerdicts_perm hperm,and_self]

end LLMJudgeEval
end LiveKBench.KArenaPipeline
