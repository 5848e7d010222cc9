import LiveKBench.KArenaDb.Columns
import LiveKBench.Lib.SqlTable

/-! The entities of kArena in their tables: the schema, the columns that each insertion lists, and
the names by which a row is read. -/
namespace LiveKBench.KArenaDb
open KArenaWeb (DateTime)
open KArena (Evaluation EvaluationResult)
open Lib
open Lib.Sql (Value Column Schema Mapping Rows Room Taken not_clashes_iff
  not_clashes_of_nil)

/-! ## The schema -/

def notNull (name : String) : Column := ⟨name,true,none,.null⟩

def nullable (name : String) : Column := ⟨name,false,none,.null⟩

def notNullDefault (name text : String) : Column := ⟨name,true,none,.text text⟩

/-- `NOT NULL CHECK(name IN texts)`. -/
def notNullIn (name : String) (texts : List String) : Column := ⟨name,true,some texts,.null⟩

def nullableIn (name : String) (texts : List String) : Column := ⟨name,false,some texts,.null⟩

def evaluationTexts : List String :=
  ["notReproduced","reproduced","compilationError","imageError","error"]

def kcacheTable : Schema where
  name := "kcache"
  key := "kCacheId"
  columns :=
    [notNull "bugId",notNullIn "baseCommit" ["parentCommit","crashCommit"],notNull "addedTime",
      notNull "kGymJobId",notNullIn "status" ["success","error"],notNull "systemMessage",
      nullable "storageKey",nullable "storageUri",nullableIn "kGymEvaluation" evaluationTexts,
      nullable "kGymEvaluationResult",nullable "crashReport"]
  unique := [["bugId","baseCommit"]]

def patchesTable : Schema where
  name := "patches"
  key := "patchId"
  columns :=
    [notNull "patchContent",notNullIn "status" ["success","error"],notNull "systemMessage",
      notNull "modifiedFiles",notNull "modifiedFunctions",notNull "numModifiedLines"]
  unique := []

def agentPatchesTable : Schema where
  name := "agent_patches"
  key := "agentPatchId"
  columns :=
    [notNull "patchId",notNull "bugId",notNull "addedTime",notNull "agentConfigId",
      notNull "unionId",notNullIn "baseCommit" ["parentCommit","crashCommit"],
      notNullIn "status" ["success","error"],notNull "systemMessage",nullable "trajectoryKey",
      nullable "logKey",notNull "attrs"]
  unique := []

def developerPatchesTable : Schema where
  name := "developer_patches"
  key := "devPatchId"
  columns :=
    [notNull "patchId",notNull "bugId",notNull "commitId",notNull "addedTime",notNull "fixedTime",
      notNull "patchMessage",notNull "attrs"]
  unique := []

def crashEvaluationsTable : Schema where
  name := "patch_crash_resolution_evaluations"
  key := "evalId"
  columns :=
    [notNull "agentPatchId",notNull "kCacheId",notNull "kGymEvalJobId",
      notNullIn "status" ["success","error"],notNull "systemMessage",
      nullableIn "kGymEvaluation" evaluationTexts,nullable "kGymEvaluationResult"]
  unique := []

def llmJudgeEvaluationsTable : Schema where
  name := "patch_llm_judge_evaluations"
  key := "evalId"
  columns :=
    [notNull "judgeId",notNull "bugId",notNull "devPatchId",notNull "agentPatchId",
      notNullIn "status" ["success","error"],notNull "systemMessage",nullable "yesCount",
      nullable "noCount",nullable "errorCount",nullable "llmMessages"]
  unique := [["judgeId","devPatchId","agentPatchId"]]

def kenvBaseImageTable : Schema where
  name := "kenv_base_image"
  key := "kEnvImageId"
  columns :=
    [notNull "bugId",notNullIn "baseCommit" ["parentCommit","crashCommit"],notNull "addedTime",
      notNull "commitId",notNull "gitUrl",notNull "mirrorPath",notNull "localImageName",
      notNull "remoteImageName",
      notNullIn "status" ["pending","building","built","pushed","error"],
      notNullDefault "systemMessage" "",nullable "builtTime",
      nullable "pushedTime"]
  unique := [["bugId","baseCommit"]]

/-! ## Values of the columns -/

def EntryStatus.text : EntryStatus → String
  | .success => "success"
  | .error => "error"

def ExitReason.text : ExitReason → String
  | .normal => "normal"
  | .costLimitExceeded => "costLimitExceeded"
  | .timeLimitExceeded => "timeLimitExceeded"

def KEnvStatus.text : KEnvStatus → String
  | .pending => "pending"
  | .building => "building"
  | .built => "built"
  | .pushed => "pushed"
  | .error => "error"

def optText : Option String → Value
  | none => .null
  | some text => .text text

def optInteger : Option ℤ → Value
  | none => .null
  | some n => .integer n

def optReal : Option ℚ → Value
  | none => .null
  | some x => .real x

def timeValue (t : DateTime) : Value := .text t.isoformat

def optTime : Option DateTime → Value
  | none => .null
  | some t => timeValue t

def evaluationValue (evaluation : Option Evaluation) : Value :=
  optText (evaluation.map Evaluation.text)

/-- How pydantic writes and reads the JSON of a result. -/
structure ResultJson where
  modelDumpJson : EvaluationResult → String
  modelValidateJson : String → Option EvaluationResult

def ResultJson.value (json : ResultJson) (result : Option EvaluationResult) : Value :=
  optText (result.map json.modelDumpJson)

/-- `json.dumps` of the conversations; there are none where the list is empty. -/
def messagesValue : Option (List (List (List (String × Json)))) → Value
  | none => .null
  | some [] => .null
  | some messages =>
    .text (String.ofList (Json.dumps (.arr (messages.map fun vote => .arr (vote.map .obj)))))

/-! ## Reading -/

/-- `row[name]`, as a field of the model. -/
def field {α : Type} (row : String → Option Value) (name : String) (read : Value → Option α) :
    Option α := (row name).bind read

def readInteger : Value → Option ℤ
  | .integer n => some n
  | _ => none

def readId : Value → Option ℕ
  | .integer n => if 0 ≤ n then some n.toNat else none
  | _ => none

def readText : Value → Option String
  | .text s => some s
  | _ => none

def readReal : Value → Option ℚ
  | .real x => some x
  | .integer n => some n
  | _ => none

/-- A field that may be `None`. -/
def optional {α : Type} (read : Value → Option α) : Value → Option (Option α)
  | .null => some none
  | v => (read v).map some

/-- `read(row[name]) if row[name] else None`. -/
def unlessEmpty {α : Type} (read : String → Option α) : Value → Option (Option α)
  | .null => some none
  | .text s => if s = "" then some none else (read s).map some
  | _ => none

/-- A field with one of some texts. -/
def readOneOf {α : Type} (texts : List (String × α)) (v : Value) : Option α :=
  (readText v).bind fun text => texts.lookup text

def readStatus : Value → Option EntryStatus :=
  readOneOf [("success",.success),("error",.error)]

def readBaseCommit : Value → Option BaseCommit :=
  readOneOf [("parentCommit",.parentCommit),("crashCommit",.crashCommit)]

def readEvaluation : Value → Option (Option Evaluation) :=
  optional (readOneOf [("notReproduced",.notReproduced),("reproduced",.reproduced),
    ("compilationError",.compilationError),("imageError",.imageError),("error",.error)])

def readExitReason : Value → Option (Option ExitReason) :=
  optional (readOneOf [("normal",.normal),("costLimitExceeded",.costLimitExceeded),
    ("timeLimitExceeded",.timeLimitExceeded)])

def readKEnvStatus : Value → Option KEnvStatus :=
  readOneOf [("pending",.pending),("building",.building),("built",.built),("pushed",.pushed),
    ("error",.error)]

def readTimeValue (v : Value) : Option DateTime := (readText v).bind fromisoformat

def readTexts (v : Value) : Option (List String) := (readText v).bind decodeTexts

def readAttrs (v : Value) : Option StrDict := (readText v).bind decodeAttrs

def Json.object? : Json → Option (List (String × Json))
  | .obj members => some members
  | _ => none

def Json.array? : Json → Option (List Json)
  | .arr items => some items
  | _ => none

/-- A `list[list[dict]]`. -/
def decodeMessages (column : String) : Option (List (List (List (String × Json)))) := do
  let votes ← Json.array? (← Json.loads column.toList)
  votes.mapM fun vote => do (← Json.array? vote).mapM Json.object?

/-! ## The entities -/

def rowToPatch (row : String → Option Value) : Option Patch := do
  return {
    patchId := ← field row "patchId" readId
    patchContent := ← field row "patchContent" readText
    status := ← field row "status" readStatus
    systemMessage := ← field row "systemMessage" readText
    modifiedFiles := ← field row "modifiedFiles" readTexts
    modifiedFunctions := ← field row "modifiedFunctions" readTexts
    numModifiedLines := ← field row "numModifiedLines" readInteger }

def patchMapping : Mapping Patch where
  schema := patchesTable
  insertColumns :=
    ["patchContent","status","systemMessage","modifiedFiles","modifiedFunctions","numModifiedLines"]
  values patch :=
    [.text patch.patchContent,.text patch.status.text,.text patch.systemMessage,
      .text (encodeTexts patch.modifiedFiles),.text (encodeTexts patch.modifiedFunctions),
      .integer patch.numModifiedLines]
  rowToModel := rowToPatch

def rowToDeveloperPatch (row : String → Option Value) : Option DeveloperPatch := do
  return {
    devPatchId := ← field row "devPatchId" readId
    patchId := ← field row "patchId" readInteger
    bugId := ← field row "bugId" readText
    commitId := ← field row "commitId" readText
    addedTime := ← field row "addedTime" readTimeValue
    fixedTime := ← field row "fixedTime" readTimeValue
    patchMessage := ← field row "patchMessage" readText
    attrs := ← field row "attrs" readAttrs }

def developerPatchMapping : Mapping DeveloperPatch where
  schema := developerPatchesTable
  insertColumns :=
    ["patchId","bugId","commitId","addedTime","fixedTime","patchMessage","attrs"]
  values devPatch :=
    [.integer devPatch.patchId,.text devPatch.bugId,.text devPatch.commitId,
      timeValue devPatch.addedTime,timeValue devPatch.fixedTime,.text devPatch.patchMessage,
      .text (encodeAttrs devPatch.attrs)]
  rowToModel := rowToDeveloperPatch

def rowToAgentPatch (row : String → Option Value) : Option AgentPatch := do
  return {
    agentPatchId := ← field row "agentPatchId" readId
    patchId := ← field row "patchId" readInteger
    bugId := ← field row "bugId" readText
    addedTime := ← field row "addedTime" readTimeValue
    agentConfigId := ← field row "agentConfigId" readInteger
    unionId := ← field row "unionId" readInteger
    baseCommit := ← field row "baseCommit" readBaseCommit
    status := ← field row "status" readStatus
    systemMessage := ← field row "systemMessage" readText
    dollarCost := ← field row "dollarCost" (optional readReal)
    timeCost := ← field row "timeCost" (optional readInteger)
    exitReason := ← field row "exitReason" readExitReason
    trajectoryKey := ← field row "trajectoryKey" (optional readText)
    logKey := ← field row "logKey" (optional readText)
    attrs := ← field row "attrs" readAttrs }

def agentPatchMapping : Mapping AgentPatch where
  schema := agentPatchesTable
  insertColumns :=
    ["patchId","bugId","addedTime","agentConfigId","unionId","baseCommit","status","systemMessage",
      "dollarCost","timeCost","exitReason","trajectoryKey","logKey","attrs"]
  values agentPatch :=
    [.integer agentPatch.patchId,.text agentPatch.bugId,timeValue agentPatch.addedTime,
      .integer agentPatch.agentConfigId,.integer agentPatch.unionId,
      .text agentPatch.baseCommit.text,.text agentPatch.status.text,.text agentPatch.systemMessage,
      optReal agentPatch.dollarCost,optInteger agentPatch.timeCost,
      optText (agentPatch.exitReason.map ExitReason.text),optText agentPatch.trajectoryKey,
      optText agentPatch.logKey,.text (encodeAttrs agentPatch.attrs)]
  rowToModel := rowToAgentPatch

def rowToKcache (json : ResultJson) (row : String → Option Value) : Option KCache := do
  return {
    kCacheId := ← field row "kCacheId" readId
    bugId := ← field row "bugId" readText
    baseCommit := ← field row "baseCommit" readBaseCommit
    addedTime := ← field row "addedTime" readTimeValue
    kGymJobId := ← field row "kGymJobId" readText
    status := ← field row "status" readStatus
    systemMessage := ← field row "systemMessage" readText
    storageKey := ← field row "storageKey" (optional readText)
    storageUri := ← field row "storageUri" (optional readText)
    kGymEvaluation := ← field row "kGymEvaluation" readEvaluation
    kGymEvaluationResult := ←
      field row "kGymEvaluationResult" (unlessEmpty json.modelValidateJson)
    crashReport := ← field row "crashReport" (optional readText) }

def kcacheMapping (json : ResultJson) : Mapping KCache where
  schema := kcacheTable
  insertColumns :=
    ["bugId","baseCommit","addedTime","kGymJobId","status","systemMessage","storageKey",
      "storageUri","kGymEvaluation","kGymEvaluationResult","crashReport"]
  values kcache :=
    [.text kcache.bugId,.text kcache.baseCommit.text,timeValue kcache.addedTime,
      .text kcache.kGymJobId,.text kcache.status.text,.text kcache.systemMessage,
      optText kcache.storageKey,optText kcache.storageUri,evaluationValue kcache.kGymEvaluation,
      json.value kcache.kGymEvaluationResult,optText kcache.crashReport]
  rowToModel := rowToKcache json

def rowToCrashEval (json : ResultJson) (row : String → Option Value) :
    Option PatchCrashResolutionEvaluation := do
  return {
    evalId := ← field row "evalId" readId
    agentPatchId := ← field row "agentPatchId" readInteger
    kCacheId := ← field row "kCacheId" readInteger
    kGymEvalJobId := ← field row "kGymEvalJobId" readText
    status := ← field row "status" readStatus
    systemMessage := ← field row "systemMessage" readText
    kGymEvaluation := ← field row "kGymEvaluation" readEvaluation
    kGymEvaluationResult := ←
      field row "kGymEvaluationResult" (unlessEmpty json.modelValidateJson) }

def crashEvalMapping (json : ResultJson) : Mapping PatchCrashResolutionEvaluation where
  schema := crashEvaluationsTable
  insertColumns :=
    ["agentPatchId","kCacheId","kGymEvalJobId","status","systemMessage","kGymEvaluation",
      "kGymEvaluationResult"]
  values eval :=
    [.integer eval.agentPatchId,.integer eval.kCacheId,.text eval.kGymEvalJobId,
      .text eval.status.text,.text eval.systemMessage,evaluationValue eval.kGymEvaluation,
      json.value eval.kGymEvaluationResult]
  rowToModel := rowToCrashEval json

def rowToLlmJudgeEval (row : String → Option Value) : Option PatchLLMJudgeEvaluation := do
  return {
    evalId := ← field row "evalId" readId
    judgeId := ← field row "judgeId" readInteger
    bugId := ← field row "bugId" readText
    devPatchId := ← field row "devPatchId" readInteger
    agentPatchId := ← field row "agentPatchId" readInteger
    status := ← field row "status" readStatus
    systemMessage := ← field row "systemMessage" readText
    yesCount := ← field row "yesCount" (optional readInteger)
    noCount := ← field row "noCount" (optional readInteger)
    errorCount := ← field row "errorCount" (optional readInteger)
    llmMessages := ← field row "llmMessages" (unlessEmpty decodeMessages) }

def llmJudgeEvalMapping : Mapping PatchLLMJudgeEvaluation where
  schema := llmJudgeEvaluationsTable
  insertColumns :=
    ["judgeId","bugId","devPatchId","agentPatchId","status","systemMessage","yesCount","noCount",
      "errorCount","llmMessages"]
  values eval :=
    [.integer eval.judgeId,.text eval.bugId,.integer eval.devPatchId,.integer eval.agentPatchId,
      .text eval.status.text,.text eval.systemMessage,optInteger eval.yesCount,
      optInteger eval.noCount,optInteger eval.errorCount,messagesValue eval.llmMessages]
  rowToModel := rowToLlmJudgeEval

/-- `_row_to_model`. -/
def rowToKenvBase (row : String → Option Value) : Option KEnvBaseImage := do
  return {
    kEnvImageId := ← field row "kEnvImageId" readId
    bugId := ← field row "bugId" readText
    baseCommit := ← field row "baseCommit" readBaseCommit
    addedTime := ← field row "addedTime" readTimeValue
    commitId := ← field row "commitId" readText
    gitUrl := ← field row "gitUrl" readText
    mirrorPath := ← field row "mirrorPath" readText
    localImageName := ← field row "localImageName" readText
    remoteImageName := ← field row "remoteImageName" readText
    status := ← field row "status" readKEnvStatus
    systemMessage := ← field row "systemMessage" readText
    builtTime := ← field row "builtTime" (unlessEmpty fromisoformat)
    pushedTime := ← field row "pushedTime" (unlessEmpty fromisoformat) }

def kenvBaseMapping : Mapping KEnvBaseImage where
  schema := kenvBaseImageTable
  insertColumns :=
    ["bugId","baseCommit","addedTime","commitId","gitUrl","mirrorPath","localImageName",
      "remoteImageName","status","systemMessage","builtTime","pushedTime"]
  values row :=
    [.text row.bugId,.text row.baseCommit.text,timeValue row.addedTime,.text row.commitId,
      .text row.gitUrl,.text row.mirrorPath,.text row.localImageName,.text row.remoteImageName,
      .text row.status.text,.text row.systemMessage,optTime row.builtTime,optTime row.pushedTime]
  rowToModel := rowToKenvBase

/-! ## What the columns hold is read back -/

section Values
variable {json : ResultJson}

lemma readId_integer (id : ℕ) : readId (.integer id) = some id := by
  simp [readId]

lemma readStatus_text (status : EntryStatus) : readStatus (.text status.text) = some status := by
  cases status <;> rfl

lemma readBaseCommit_text (baseCommit : BaseCommit) :
    readBaseCommit (.text baseCommit.text) = some baseCommit := by
  cases baseCommit <;> rfl

lemma readKEnvStatus_text (status : KEnvStatus) :
    readKEnvStatus (.text status.text) = some status := by
  cases status <;> rfl

lemma readEvaluation_value (evaluation : Option Evaluation) :
    readEvaluation (evaluationValue evaluation) = some evaluation := by
  cases evaluation with
  | none => rfl
  | some evaluation => cases evaluation <;> rfl

lemma optional_optText (text : Option String) : optional readText (optText text) = some text := by
  cases text <;> rfl

lemma optional_optInteger (n : Option ℤ) : optional readInteger (optInteger n) = some n := by
  cases n <;> rfl

lemma readTexts_text (texts : List String) : readTexts (.text (encodeTexts texts)) = some texts :=
  decodeTexts_encodeTexts texts

lemma readAttrs_text (attrs : StrDict) : readAttrs (.text (encodeAttrs attrs)) = some attrs :=
  decodeAttrs_encodeAttrs attrs

lemma readTimeValue_timeValue {t : DateTime} (h : ValidOffset t) :
    readTimeValue (timeValue t) = some t := by
  rw [readTimeValue,timeValue,readText,Option.bind_some]
  exact fromisoformat_isoformat h

lemma unlessEmpty_optTime {t : Option DateTime} (h : ∀ time ∈ t, ValidOffset time) :
    unlessEmpty fromisoformat (optTime t) = some t := by
  cases t with
  | none => rfl
  | some time =>
    have hread := fromisoformat_isoformat (h time rfl)
    have hne : time.isoformat ≠ "" := by
      intro hempty
      have hchars := congrArg String.toList hempty
      rw [DateTime.isoformat,String.toList_ofList] at hchars
      exact List.append_ne_nil_of_right_ne_nil _ (List.cons_ne_nil _ _) hchars
    rw [optTime,timeValue,unlessEmpty,if_neg hne,hread]
    rfl

/-- The JSON of a result is not empty and is read as the result. -/
def ResultJson.Faithful (json : ResultJson) (result : Option EvaluationResult) : Prop :=
  ∀ r ∈ result, json.modelDumpJson r ≠ "" ∧
    json.modelValidateJson (json.modelDumpJson r) = some r

lemma unlessEmpty_value {result : Option EvaluationResult} (h : json.Faithful result) :
    unlessEmpty json.modelValidateJson (json.value result) = some result := by
  cases result with
  | none => rfl
  | some r =>
    obtain ⟨hne,hread⟩ := h r rfl
    rw [ResultJson.value,Option.map_some,optText,unlessEmpty,if_neg hne,hread]
    rfl

/-- The conversations that are read: none where the list is empty. -/
def storedMessages (messages : Option (List (List (List (String × Json))))) :
    Option (List (List (List (String × Json)))) := messages.filter fun votes => votes ≠ []

lemma decodeMessages_dumps (votes : List (List (List (String × Json)))) :
    decodeMessages (String.ofList
      (Json.dumps (.arr (votes.map fun vote => .arr (vote.map .obj))))) = some votes := by
  simp only [decodeMessages,String.toList_ofList,Json.loads_dumps,Option.bind_eq_bind,
    Option.bind_some,Json.array?]
  refine mapM_map_some (g := fun vote => Json.arr (vote.map Json.obj)) (fun vote => ?_) votes
  simp only [Option.bind_some]
  exact mapM_map_some (g := Json.obj) (fun _ => rfl) vote

lemma unlessEmpty_messagesValue (messages : Option (List (List (List (String × Json))))) :
    unlessEmpty decodeMessages (messagesValue messages) = some (storedMessages messages) := by
  match messages with
  | none => rfl
  | some [] => rfl
  | some (vote :: votes) =>
    have hread := decodeMessages_dumps (vote :: votes)
    have hne : String.ofList (Json.dumps
        (.arr ((vote :: votes).map fun vote => .arr (vote.map .obj)))) ≠ "" := by
      intro hempty
      have hchars := congrArg String.toList hempty
      rw [String.toList_ofList] at hchars
      cases hchars
    rw [messagesValue,unlessEmpty,if_neg hne,hread]
    · rfl
    · exact List.cons_ne_nil _ _

end Values

/-! ## What the columns admit -/

section Admits
variable (name : String)

lemma admits_notNull_text (s : String) : (notNull name).admits (.text s) = true := rfl

lemma admits_notNullDefault_text (text s : String) :
    (notNullDefault name text).admits (.text s) = true := rfl

lemma admits_notNull_integer (n : ℤ) : (notNull name).admits (.integer n) = true := rfl

lemma admits_notNull_time (t : DateTime) : (notNull name).admits (timeValue t) = true := rfl

lemma admits_nullable (v : Value) : (nullable name).admits v = true := by
  cases v <;> rfl

lemma admits_status (status : EntryStatus) :
    (notNullIn name ["success","error"]).admits (.text status.text) = true := by
  cases status <;> rfl

lemma admits_baseCommit (baseCommit : BaseCommit) :
    (notNullIn name ["parentCommit","crashCommit"]).admits (.text baseCommit.text) = true := by
  cases baseCommit <;> rfl

lemma admits_kenvStatus (status : KEnvStatus) :
    (notNullIn name ["pending","building","built","pushed","error"]).admits (.text status.text) =
      true := by
  cases status <;> rfl

lemma admits_evaluation (evaluation : Option Evaluation) :
    (nullableIn name evaluationTexts).admits (evaluationValue evaluation) = true := by
  cases evaluation with
  | none => rfl
  | some evaluation => cases evaluation <;> rfl

end Admits

/-! ## What can be bound -/

section Bindable

/-- The integer has 64 bits. -/
def Fits (n : ℤ) : Prop := -2^63 ≤ n ∧ n < 2^63

lemma bindable_integer {n : ℤ} : (Value.integer n).Bindable ↔ Fits n := Iff.rfl

lemma bindable_text (s : String) : (Value.text s).Bindable := trivial

lemma bindable_timeValue (t : DateTime) : (timeValue t).Bindable := trivial

lemma bindable_optText (text : Option String) : (optText text).Bindable := by
  cases text <;> trivial

lemma bindable_optTime (t : Option DateTime) : (optTime t).Bindable := by
  cases t <;> trivial

lemma bindable_optInteger {n : Option ℤ} : (optInteger n).Bindable ↔ ∀ i ∈ n, Fits i := by
  cases n with
  | none => exact iff_of_true trivial nofun
  | some n => simp [optInteger,bindable_integer]

lemma bindable_messagesValue (messages : Option (List (List (List (String × Json))))) :
    (messagesValue messages).Bindable := by
  match messages with
  | none => trivial
  | some [] => trivial
  | some (_ :: _) => trivial

end Bindable

/-! ## Each kind of entity -/

section Kinds
variable {json : ResultJson} {t : Rows}

lemma complete_patch : patchMapping.Complete := ⟨rfl,by decide,by decide⟩

lemma complete_developerPatch : developerPatchMapping.Complete := ⟨rfl,by decide,by decide⟩

lemma complete_kcache : (kcacheMapping json).Complete :=
  ⟨rfl,(by decide : kcacheTable.names.Nodup),(by decide : kcacheTable.key ∉ kcacheTable.names)⟩

lemma complete_crashEval : (crashEvalMapping json).Complete :=
  ⟨rfl,(by decide : crashEvaluationsTable.names.Nodup),
    (by decide : crashEvaluationsTable.key ∉ crashEvaluationsTable.names)⟩

lemma complete_llmJudgeEval : llmJudgeEvalMapping.Complete := ⟨rfl,by decide,by decide⟩

lemma complete_kenvBase : kenvBaseMapping.Complete := ⟨rfl,by decide,by decide⟩

lemma rowToPatch_reads {patch : Patch} {row : String → Option Value} {id : ℕ}
    (h : patchMapping.Reads row patch id) :
    rowToPatch row = some { patch with patchId := id } := by
  obtain ⟨hid,h⟩ := h
  simp only [patchMapping,patchesTable,List.forall₂_cons] at hid h
  simp only [rowToPatch,field,hid,h,Option.bind_some,readStatus_text,readTexts_text,readText,
    readId_integer,readInteger]
  rfl

theorem patch_readsBack_iff {patch : Patch} :
    patchMapping.ReadsBack t patch (fun patchId => { patch with patchId }) ↔
      Fits patch.numModifiedLines ∧ Room t := by
  have hadmits : List.Forall₂ (fun c v => c.admits v = true) patchesTable.columns
      (patchMapping.values patch) := by
    simp [patchMapping,patchesTable,admits_notNull_text,admits_notNull_integer,admits_status]
  have hbindable : (∀ v ∈ patchMapping.values patch, v.Bindable) ↔ Fits patch.numModifiedLines := by
    simp [patchMapping,bindable_text,bindable_integer]
  rw [complete_patch.readsBack_iff hadmits hbindable (iff_true_intro (not_clashes_of_nil rfl))
    fun row id h => rowToPatch_reads h]
  simp only [true_and,and_true]

lemma rowToDeveloperPatch_reads {devPatch : DeveloperPatch} {row : String → Option Value} {id : ℕ}
    (hadded : ValidOffset devPatch.addedTime) (hfixed : ValidOffset devPatch.fixedTime)
    (h : developerPatchMapping.Reads row devPatch id) :
    rowToDeveloperPatch row = some { devPatch with devPatchId := id } := by
  obtain ⟨hid,h⟩ := h
  simp only [developerPatchMapping,developerPatchesTable,List.forall₂_cons] at hid h
  simp only [rowToDeveloperPatch,field,hid,h,Option.bind_some,readTimeValue_timeValue hadded,
    readTimeValue_timeValue hfixed,readAttrs_text,readText,readId_integer,readInteger]
  rfl

theorem developerPatch_readsBack_iff {devPatch : DeveloperPatch}
    (hadded : ValidOffset devPatch.addedTime) (hfixed : ValidOffset devPatch.fixedTime) :
    developerPatchMapping.ReadsBack t devPatch (fun devPatchId => { devPatch with devPatchId }) ↔
      Fits devPatch.patchId ∧ Room t := by
  have hadmits : List.Forall₂ (fun c v => c.admits v = true) developerPatchesTable.columns
      (developerPatchMapping.values devPatch) := by
    simp [developerPatchMapping,developerPatchesTable,admits_notNull_text,admits_notNull_integer,
      admits_notNull_time]
  have hbindable : (∀ v ∈ developerPatchMapping.values devPatch, v.Bindable) ↔
      Fits devPatch.patchId := by
    simp [developerPatchMapping,bindable_text,bindable_integer,bindable_timeValue]
  rw [complete_developerPatch.readsBack_iff hadmits hbindable
    (iff_true_intro (not_clashes_of_nil rfl))
    fun row id h => rowToDeveloperPatch_reads hadded hfixed h]
  simp only [true_and,and_true]

lemma rowToKcache_reads {kcache : KCache} {row : String → Option Value} {id : ℕ}
    (hadded : ValidOffset kcache.addedTime) (hjson : json.Faithful kcache.kGymEvaluationResult)
    (h : (kcacheMapping json).Reads row kcache id) :
    rowToKcache json row = some { kcache with kCacheId := id } := by
  obtain ⟨hid,h⟩ := h
  simp only [kcacheMapping,kcacheTable,List.forall₂_cons] at hid h
  simp only [rowToKcache,field,hid,h,Option.bind_some,readTimeValue_timeValue hadded,
    readStatus_text,readBaseCommit_text,readEvaluation_value,unlessEmpty_value hjson,
    optional_optText,readText,readId_integer]
  rfl

/-- The pair of a bug and a base commit has a row. -/
def PairTaken (t : Rows) (key bugId : String) (baseCommit : BaseCommit) : Prop :=
  Taken t key ["bugId","baseCommit"] [.text bugId,.text baseCommit.text]

theorem kcache_readsBack_iff {kcache : KCache} (hadded : ValidOffset kcache.addedTime)
    (hjson : json.Faithful kcache.kGymEvaluationResult) :
    (kcacheMapping json).ReadsBack t kcache (fun kCacheId => { kcache with kCacheId }) ↔
      ¬PairTaken t "kCacheId" kcache.bugId kcache.baseCommit ∧ Room t := by
  have hadmits : List.Forall₂ (fun c v => c.admits v = true) kcacheTable.columns
      ((kcacheMapping json).values kcache) := by
    simp [kcacheMapping,kcacheTable,admits_notNull_text,admits_notNull_time,admits_nullable,
      admits_status,admits_baseCommit,admits_evaluation]
  have hbindable : ∀ v ∈ (kcacheMapping json).values kcache, v.Bindable := by
    simp [kcacheMapping,bindable_text,bindable_timeValue,bindable_optText,evaluationValue,
      ResultJson.value]
  have hfree : (∀ row ∈ t.rows, ¬kcacheTable.Clashes
      ((kcacheMapping json).insertColumns.zip ((kcacheMapping json).values kcache)) row) ↔
      ¬PairTaken t "kCacheId" kcache.bugId kcache.baseCommit :=
    not_clashes_iff rfl (.cons ⟨rfl,nofun⟩ (.cons ⟨rfl,nofun⟩ .nil))
  rw [complete_kcache.readsBack_iff hadmits (iff_true_intro hbindable) hfree
    fun row id h => rowToKcache_reads hadded hjson h]
  simp only [true_and,and_true]

lemma rowToCrashEval_reads {eval : PatchCrashResolutionEvaluation} {row : String → Option Value}
    {id : ℕ} (hjson : json.Faithful eval.kGymEvaluationResult)
    (h : (crashEvalMapping json).Reads row eval id) :
    rowToCrashEval json row = some { eval with evalId := id } := by
  obtain ⟨hid,h⟩ := h
  simp only [crashEvalMapping,crashEvaluationsTable,List.forall₂_cons] at hid h
  simp only [rowToCrashEval,field,hid,h,Option.bind_some,readStatus_text,readEvaluation_value,
    unlessEmpty_value hjson,readText,readId_integer,readInteger]
  rfl

theorem crashEval_readsBack_iff {eval : PatchCrashResolutionEvaluation}
    (hjson : json.Faithful eval.kGymEvaluationResult) :
    (crashEvalMapping json).ReadsBack t eval (fun evalId => { eval with evalId }) ↔
      (Fits eval.agentPatchId ∧ Fits eval.kCacheId) ∧ Room t := by
  have hadmits : List.Forall₂ (fun c v => c.admits v = true) crashEvaluationsTable.columns
      ((crashEvalMapping json).values eval) := by
    simp [crashEvalMapping,crashEvaluationsTable,admits_notNull_text,admits_notNull_integer,
      admits_nullable,admits_status,admits_evaluation]
  have hbindable : (∀ v ∈ (crashEvalMapping json).values eval, v.Bindable) ↔
      Fits eval.agentPatchId ∧ Fits eval.kCacheId := by
    simp [crashEvalMapping,bindable_text,bindable_integer,bindable_optText,evaluationValue,
      ResultJson.value]
  rw [complete_crashEval.readsBack_iff hadmits hbindable
    (iff_true_intro (not_clashes_of_nil rfl)) fun row id h => rowToCrashEval_reads hjson h]
  simp only [true_and,and_true]

lemma rowToLlmJudgeEval_reads {eval : PatchLLMJudgeEvaluation} {row : String → Option Value}
    {id : ℕ} (h : llmJudgeEvalMapping.Reads row eval id) : rowToLlmJudgeEval row =
      some { eval with evalId := id, llmMessages := storedMessages eval.llmMessages } := by
  obtain ⟨hid,h⟩ := h
  simp only [llmJudgeEvalMapping,llmJudgeEvaluationsTable,List.forall₂_cons] at hid h
  simp only [rowToLlmJudgeEval,field,hid,h,Option.bind_some,readStatus_text,optional_optInteger,
    unlessEmpty_messagesValue,readText,readId_integer,readInteger]
  rfl

lemma storedMessages_eq_iff {messages : Option (List (List (List (String × Json))))} :
    storedMessages messages = messages ↔ messages ≠ some [] := by
  match messages with
  | none => exact iff_of_true rfl nofun
  | some [] => exact iff_of_false nofun fun h => h rfl
  | some (_ :: _) => exact iff_of_true rfl nofun

/-- All numbers of the evaluation have 64 bits. -/
structure JudgeFits (eval : PatchLLMJudgeEvaluation) : Prop where
  judgeId : Fits eval.judgeId
  devPatchId : Fits eval.devPatchId
  agentPatchId : Fits eval.agentPatchId
  yesCount : ∀ n ∈ eval.yesCount, Fits n
  noCount : ∀ n ∈ eval.noCount, Fits n
  errorCount : ∀ n ∈ eval.errorCount, Fits n

/-- The judge has an evaluation of the two patches. -/
def JudgeTaken (t : Rows) (eval : PatchLLMJudgeEvaluation) : Prop :=
  Taken t "evalId" ["judgeId","devPatchId","agentPatchId"]
    [.integer eval.judgeId,.integer eval.devPatchId,.integer eval.agentPatchId]

theorem llmJudgeEval_readsBack_iff {eval : PatchLLMJudgeEvaluation} :
    llmJudgeEvalMapping.ReadsBack t eval (fun evalId => { eval with evalId }) ↔
      JudgeFits eval ∧ ¬JudgeTaken t eval ∧ Room t ∧ eval.llmMessages ≠ some [] := by
  have hadmits : List.Forall₂ (fun c v => c.admits v = true) llmJudgeEvaluationsTable.columns
      (llmJudgeEvalMapping.values eval) := by
    simp [llmJudgeEvalMapping,llmJudgeEvaluationsTable,admits_notNull_text,admits_notNull_integer,
      admits_nullable,admits_status]
  have hbindable : (∀ v ∈ llmJudgeEvalMapping.values eval, v.Bindable) ↔ JudgeFits eval := by
    simp only [llmJudgeEvalMapping,List.forall_mem_cons,bindable_text,bindable_integer,
      bindable_optInteger,bindable_messagesValue,true_and]
    constructor
    · rintro ⟨hjudge,hdev,hagent,hyes,hno,herror,-⟩
      exact ⟨hjudge,hdev,hagent,hyes,hno,herror⟩
    · rintro ⟨hjudge,hdev,hagent,hyes,hno,herror⟩
      exact ⟨hjudge,hdev,hagent,hyes,hno,herror,nofun⟩
  have hfree : (∀ row ∈ t.rows, ¬llmJudgeEvaluationsTable.Clashes
      (llmJudgeEvalMapping.insertColumns.zip (llmJudgeEvalMapping.values eval)) row) ↔
      ¬JudgeTaken t eval :=
    not_clashes_iff rfl (.cons ⟨rfl,nofun⟩ (.cons ⟨rfl,nofun⟩ (.cons ⟨rfl,nofun⟩ .nil)))
  have hsame : ∀ evalId : ℕ, some { eval with
      evalId, llmMessages := storedMessages eval.llmMessages } = some { eval with evalId } ↔
        eval.llmMessages ≠ some [] := by
    intro evalId
    rw [← storedMessages_eq_iff,Option.some_inj,PatchLLMJudgeEvaluation.mk.injEq]
    simp only [true_and]
  rw [complete_llmJudgeEval.readsBack_iff hadmits hbindable hfree
    fun row id h => rowToLlmJudgeEval_reads h,hsame]

lemma rowToKenvBase_reads {image : KEnvBaseImage} {row : String → Option Value} {id : ℕ}
    (hadded : ValidOffset image.addedTime) (hbuilt : ∀ t ∈ image.builtTime, ValidOffset t)
    (hpushed : ∀ t ∈ image.pushedTime, ValidOffset t) (h : kenvBaseMapping.Reads row image id) :
    rowToKenvBase row = some { image with kEnvImageId := id } := by
  obtain ⟨hid,h⟩ := h
  simp only [kenvBaseMapping,kenvBaseImageTable,List.forall₂_cons] at hid h
  simp only [rowToKenvBase,field,hid,h,Option.bind_some,readTimeValue_timeValue hadded,
    readBaseCommit_text,readKEnvStatus_text,unlessEmpty_optTime hbuilt,unlessEmpty_optTime hpushed,
    readText,readId_integer]
  rfl

theorem kenvBase_readsBack_iff {image : KEnvBaseImage} (hadded : ValidOffset image.addedTime)
    (hbuilt : ∀ t ∈ image.builtTime, ValidOffset t)
    (hpushed : ∀ t ∈ image.pushedTime, ValidOffset t) :
    kenvBaseMapping.ReadsBack t image (fun kEnvImageId => { image with kEnvImageId }) ↔
      ¬PairTaken t "kEnvImageId" image.bugId image.baseCommit ∧ Room t := by
  have hadmits : List.Forall₂ (fun c v => c.admits v = true) kenvBaseImageTable.columns
      (kenvBaseMapping.values image) := by
    simp [kenvBaseMapping,kenvBaseImageTable,admits_notNull_text,admits_notNull_time,
      admits_notNullDefault_text,admits_nullable,admits_kenvStatus,admits_baseCommit]
  have hbindable : ∀ v ∈ kenvBaseMapping.values image, v.Bindable := by
    simp [kenvBaseMapping,bindable_text,bindable_timeValue,bindable_optTime]
  have hfree : (∀ row ∈ t.rows, ¬kenvBaseImageTable.Clashes
      (kenvBaseMapping.insertColumns.zip (kenvBaseMapping.values image)) row) ↔
      ¬PairTaken t "kEnvImageId" image.bugId image.baseCommit :=
    not_clashes_iff rfl (.cons ⟨rfl,nofun⟩ (.cons ⟨rfl,nofun⟩ .nil))
  rw [complete_kenvBase.readsBack_iff hadmits (iff_true_intro hbindable) hfree
    fun row id h => rowToKenvBase_reads hadded hbuilt hpushed h]
  simp only [true_and,and_true]

/-- No agent patch is stored: the table has no column for its cost, its time or its exit reason. -/
theorem not_readsBack_agentPatch {agentPatch : AgentPatch} {stored : ℕ → AgentPatch} :
    ¬agentPatchMapping.ReadsBack t agentPatch stored :=
  @Mapping.not_readsBack_of_not_mem _ agentPatchMapping agentPatch t stored "dollarCost" (by decide)
    (by decide)

end Kinds

/-! ## All of them -/

/-- The tables of the entities. -/
structure ArenaTables where
  kcache : Rows
  patches : Rows
  agentPatches : Rows
  developerPatches : Rows
  crashEvaluations : Rows
  llmJudgeEvaluations : Rows
  kenvBaseImage : Rows

/-- `initialize_schema` of a new database. -/
def initializeSchema : ArenaTables := ⟨.empty,.empty,.empty,.empty,.empty,.empty,.empty⟩

inductive StoredEntity
  | agentPatch (agentPatch : AgentPatch)
  | patch (patch : Patch)
  | developerPatch (devPatch : DeveloperPatch)
  | kCache (kcache : KCache)
  | kEnvBaseImage (image : KEnvBaseImage)
  | llmJudgeEval (eval : PatchLLMJudgeEvaluation)
  | crashEval (eval : PatchCrashResolutionEvaluation)

namespace StoredEntity

/-- The insertion of an entity succeeds, and what is got by its id is the entity under this id. -/
def ReadsBack (json : ResultJson) (db : ArenaTables) : StoredEntity → Prop
  | .agentPatch entity => agentPatchMapping.ReadsBack db.agentPatches entity
    fun agentPatchId => { entity with agentPatchId }
  | .patch entity =>
    patchMapping.ReadsBack db.patches entity fun patchId => { entity with patchId }
  | .developerPatch devPatch => developerPatchMapping.ReadsBack db.developerPatches devPatch
    fun devPatchId => { devPatch with devPatchId }
  | .kCache kcache => (kcacheMapping json).ReadsBack db.kcache kcache
    fun kCacheId => { kcache with kCacheId }
  | .kEnvBaseImage image => kenvBaseMapping.ReadsBack db.kenvBaseImage image
    fun kEnvImageId => { image with kEnvImageId }
  | .llmJudgeEval eval => llmJudgeEvalMapping.ReadsBack db.llmJudgeEvaluations eval
    fun evalId => { eval with evalId }
  | .crashEval eval => (crashEvalMapping json).ReadsBack db.crashEvaluations eval
    fun evalId => { eval with evalId }

/-- The times of an entity; each has an offset of less than a day, if any. -/
def times : StoredEntity → List DateTime
  | .agentPatch entity => [entity.addedTime]
  | .developerPatch devPatch => [devPatch.addedTime,devPatch.fixedTime]
  | .kCache kcache => [kcache.addedTime]
  | .kEnvBaseImage image =>
    image.addedTime :: (image.builtTime.toList ++ image.pushedTime.toList)
  | .patch _ => []
  | .llmJudgeEval _ => []
  | .crashEval _ => []

def result : StoredEntity → Option EvaluationResult
  | .kCache kcache => kcache.kGymEvaluationResult
  | .crashEval eval => eval.kGymEvaluationResult
  | _ => none

/-- It is no agent patch, its numbers have 64 bits, its unique columns are not taken, an id is left,
and it is no evaluation with an empty list of conversations. -/
def Storable (db : ArenaTables) : StoredEntity → Prop
  | .agentPatch _ => False
  | .patch entity => Fits entity.numModifiedLines ∧ Room db.patches
  | .developerPatch devPatch => Fits devPatch.patchId ∧ Room db.developerPatches
  | .kCache kcache =>
    ¬PairTaken db.kcache "kCacheId" kcache.bugId kcache.baseCommit ∧ Room db.kcache
  | .kEnvBaseImage image =>
    ¬PairTaken db.kenvBaseImage "kEnvImageId" image.bugId image.baseCommit ∧
      Room db.kenvBaseImage
  | .llmJudgeEval eval =>
    JudgeFits eval ∧ ¬JudgeTaken db.llmJudgeEvaluations eval ∧ Room db.llmJudgeEvaluations ∧
      eval.llmMessages ≠ some []
  | .crashEval eval =>
    (Fits eval.agentPatchId ∧ Fits eval.kCacheId) ∧ Room db.crashEvaluations

/-- Exactly the storable entities are read back. -/
theorem readsBack_iff_storable {json : ResultJson} {db : ArenaTables} {e : StoredEntity}
    (htimes : ∀ t ∈ e.times, ValidOffset t) (hresult : json.Faithful e.result) :
    e.ReadsBack json db ↔ e.Storable db := by
  cases e with
  | agentPatch entity => exact iff_of_false not_readsBack_agentPatch id
  | patch entity => exact patch_readsBack_iff
  | developerPatch devPatch =>
    exact developerPatch_readsBack_iff (htimes _ List.mem_cons_self)
      (htimes _ (List.mem_cons_of_mem _ List.mem_cons_self))
  | kCache kcache => exact kcache_readsBack_iff (htimes _ List.mem_cons_self) hresult
  | kEnvBaseImage image =>
    refine kenvBase_readsBack_iff (htimes _ List.mem_cons_self) (fun t ht => ?_) fun t ht => ?_
    · exact htimes _ (List.mem_cons_of_mem _ (List.mem_append_left _ (Option.mem_toList.mpr ht)))
    · exact htimes _ (List.mem_cons_of_mem _ (List.mem_append_right _ (Option.mem_toList.mpr ht)))
  | llmJudgeEval eval => exact llmJudgeEval_readsBack_iff
  | crashEval eval => exact crashEval_readsBack_iff hresult

/-- A job that was aborted before its first stage. -/
def abortedResult : EvaluationResult :=
  ⟨42,⟨42,0,9,.aborted,"",0,[],[]⟩,.aborted,.error,none,none,none⟩

def abortedText : String :=
  "\x7b\"jobId\":\"0000002a\",\"jobContext\":\x7b\"jobId\":\"0000002a\"," ++
    "\"createdTime\":\"1970-01-01T00:00:00Z\",\"modifiedTime\":\"1970-01-01T00:00:00.000009Z\"," ++
    "\"status\":\"aborted\",\"currentWorkerHostname\":\"\",\"currentWorker\":0," ++
    "\"jobWorkers\":[],\"tags\":\x7b\x7d\x7d,\"status\":\"aborted\",\"evaluation\":\"error\"," ++
    "\"image\":null,\"title\":null,\"resources\":null\x7d"

/-- What pydantic does with this result and this text. -/
def abortedJson : ResultJson where
  modelDumpJson _ := abortedText
  modelValidateJson text := if text = abortedText then some abortedResult else none

def abortedKcache : KCache where
  kCacheId := 0
  bugId := "bug"
  baseCommit := .crashCommit
  addedTime := KArenaWeb.midJanuary
  kGymJobId := "0000002a"
  status := .error
  systemMessage := "aborted"
  storageKey := none
  storageUri := none
  kGymEvaluation := some .error
  kGymEvaluationResult := some abortedResult
  crashReport := none

theorem readsBack_iff_storable_aborted :
    (StoredEntity.kCache abortedKcache).ReadsBack abortedJson initializeSchema := by
  refine (readsBack_iff_storable (fun t ht => ?_) fun r hr => ?_).mpr ⟨?_,?_⟩
  · rw [List.mem_singleton.mp ht]
    intro offset hoffset
    cases hoffset
  · obtain rfl : abortedResult = r := Option.some.inj hr
    have hread : abortedJson.modelValidateJson abortedText = some abortedResult := by
      simp only [abortedJson,if_true]
    exact ⟨by decide +kernel,hread⟩
  · rintro ⟨row,hrow,-⟩
    cases hrow
  · change 0+1 < 2^63
    decide

/-- A patch of an agent that ended normally. -/
def endedPatch : AgentPatch where
  agentPatchId := 0
  patchId := 1
  bugId := "bug"
  addedTime := KArenaWeb.midJanuary
  agentConfigId := 1
  unionId := 0
  baseCommit := .parentCommit
  status := .success
  systemMessage := ""
  dollarCost := some 1
  timeCost := some 60
  exitReason := some .normal
  trajectoryKey := none
  logKey := none
  attrs := .empty

/-- The patch of an agent cannot be stored in a new database. -/
theorem agentPatch_not_stored : ¬∀ (json : ResultJson) (e : StoredEntity),
    (∀ t ∈ e.times, ValidOffset t) → json.Faithful e.result →
      e.ReadsBack json initializeSchema := by
  intro h
  have hread : agentPatchMapping.ReadsBack initializeSchema.agentPatches endedPatch
      fun agentPatchId => { endedPatch with agentPatchId } := by
    refine h abortedJson (.agentPatch endedPatch) (fun t ht => ?_) fun r hr => ?_
    · rw [List.mem_singleton.mp ht]
      intro offset hoffset
      cases hoffset
    · cases hr
  exact not_readsBack_agentPatch hread

end StoredEntity

end LiveKBench.KArenaDb
