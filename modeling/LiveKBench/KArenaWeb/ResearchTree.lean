import LiveKBench.KArenaWeb.ResearchQuery
import LiveKBench.Lib.Grouping
import LiveKBench.Lib.JsonText
import LiveKBench.Lib.JsValue

/-! The tree of the research page. The rows of a node are grouped by the label that they have in a
field, and each group becomes a child. -/
namespace LiveKBench.KArenaWeb
open KArena Lib

inductive GroupField
  | subsystem
  | fixedTime
  | developerPatchSize
  | agent
  | agentConfigName
  | statefulEdit
  | oracleMode
  | model
  | modelConfigName
  | judgeName
  deriving DecidableEq, Repr

def GroupField.text : GroupField → String
  | subsystem => "subsystem"
  | fixedTime => "fixedTime"
  | developerPatchSize => "developerPatchSize"
  | agent => "agent"
  | agentConfigName => "agentConfigName"
  | statefulEdit => "statefulEdit"
  | oracleMode => "oracleMode"
  | model => "model"
  | modelConfigName => "modelConfigName"
  | judgeName => "judgeName"

/-- `FEATURE_LABELS`. -/
def GroupField.featureLabel : GroupField → String
  | subsystem => "Subsystem"
  | fixedTime => "Fixed time"
  | developerPatchSize => "Developer patch size"
  | agent => "Agent"
  | agentConfigName => "Agent config"
  | statefulEdit => "Stateful edit"
  | oracleMode => "Oracle mode"
  | model => "Model"
  | modelConfigName => "Model config"
  | judgeName => "Judge"

/-- A row with the columns that it can be grouped by; the sizes are integers. -/
structure GroupableRow extends ResearchRow where
  subsystem : String
  fixedTime : Option String
  developerPatchSize : Option ℤ
  agent : Option String
  agentConfigName : Option String
  statefulEdit : Option ℤ
  oracleMode : Option ℤ
  model : Option String
  modelConfigName : Option String
  deriving DecidableEq, Repr

inductive SqlValue
  | text (s : String)
  | number (x : JsNumber)
  | bool (b : Bool)
  | null
  deriving DecidableEq, Repr

/-- What the engine decides on: numbers, its collation of texts and its order of values. -/
structure JsOrder extends JsNumbers where
  localeCompare : String → String → ℤ
  less : SqlValue → SqlValue → Bool

/-- `texts.sort()`. -/
def sortTexts (texts : List String) : List String :=
  texts.insertionSort fun a b => (utf16 b).lex (utf16 a) (fun m n => m < n) = false

section Fields
variable (js : JsOrder)

/-- What cannot be read, or has no text, is kept as it is. -/
def parseSubsystem (rawSubsystem : String) : SqlValue :=
  if rawSubsystem = "" then .null
  else match (Json.loads rawSubsystem.toList).map (JsValue.ofJson js.toJsNumbers) with
    | some (.arr items) =>
      match items.mapM (JsValue.string js.toJsNumbers) with
      | .ok texts => .text (String.intercalate ", " (sortTexts texts))
      | .error _ => .text rawSubsystem
    | _ => .text rawSubsystem

def textOrNull : Option String → SqlValue
  | some s => .text s
  | none => .null

def getFieldValue (row : GroupableRow) : GroupField → SqlValue
  | .subsystem => parseSubsystem js row.subsystem
  | .fixedTime => textOrNull row.fixedTime
  | .developerPatchSize => (row.developerPatchSize.map fun n => .number (.finite n)).getD .null
  | .agent => textOrNull row.agent
  | .agentConfigName => textOrNull row.agentConfigName
  | .statefulEdit => (row.statefulEdit.map fun n => .bool (n ≠ 0)).getD .null
  | .oracleMode => (row.oracleMode.map fun n => .bool (n ≠ 0)).getD .null
  | .model => textOrNull row.model
  | .modelConfigName => textOrNull row.modelConfigName
  | .judgeName => textOrNull row.judgeName

def formatFieldValue (field : GroupField) : SqlValue → String
  | .null => s!"No {field.featureLabel}"
  | .text s => if s = "" then s!"No {field.featureLabel}" else s
  | .bool b => if b then "Yes" else "No"
  | .number x => js.string x

end Fields

/-- A bucket of a range; a bound is a text or a number. -/
structure RangeBucket where
  label : String
  min : Option SqlValue
  max : Option SqlValue
  deriving DecidableEq, Repr

inductive GroupMode
  | value
  | range (ranges : List RangeBucket)
  deriving DecidableEq, Repr

structure GroupSpec where
  field : GroupField
  mode : GroupMode
  deriving DecidableEq, Repr

/-- A group of rows, as `groupRows` returns it. -/
structure RowGroup where
  id : String
  label : String
  rows : List GroupableRow
  deriving DecidableEq, Repr

section Tree
variable (js : JsOrder)

/-- A number is compared as it is, and everything else as a text. -/
def comparable : SqlValue → SqlValue
  | .bool b => .text (if b then "true" else "false")
  | value => value

/-- A bound that is null is none. -/
def bound? (bound : Option SqlValue) : Option SqlValue := bound.filter (· ≠ .null)

def valueInRange (value : SqlValue) (range : RangeBucket) : Bool :=
  value ≠ .null && !((bound? range.min).any fun min => js.less (comparable value) min) &&
    !((bound? range.max).any fun max => js.less max (comparable value))

/-- The label of a row in a field. -/
def fieldLabel (field : GroupField) (row : GroupableRow) : String :=
  formatFieldValue js field (getFieldValue js row field)

def groupRows (rows : List GroupableRow) (group : GroupSpec) : List RowGroup :=
  match group.mode with
  | .range ranges =>
    (ranges.zipIdx.map fun (range,index) =>
      ⟨s!"{group.field.text}:{index}",range.label,
        rows.filter fun row => valueInRange js (getFieldValue js row group.field) range⟩).filter
      fun item => item.rows.length > 0
  | .value =>
    ((Grouping.collect (fieldLabel js group.field) rows).rows.mergeSort fun left right =>
      js.localeCompare s!"{group.field.text}:{left.1}" s!"{group.field.text}:{right.1}" ≤ 0).map
      fun (label,rows) => ⟨s!"{group.field.text}:{label}",label,rows⟩

inductive ResultNode
  | mk (id label : String) (field : Option GroupField) (bugCount runCount : ℕ)
    (metrics : List MetricCell) (children : List ResultNode)

def bugIdOf (row : GroupableRow) : Option String := some row.bugId

def runIdOf (row : GroupableRow) : Option ℕ := row.agentPatchId

def buildNode (metrics : List MetricSpec) (id label : String) (field : Option GroupField)
    (rows : List GroupableRow) : List GroupSpec → ResultNode
  | [] => node []
  | group :: remainingGroups => node
    ((groupRows js rows group).map fun child =>
      buildNode metrics s!"{id}/{child.id}" child.label (some group.field) child.rows
        remainingGroups)
where
  node (children : List ResultNode) : ResultNode :=
    .mk id label field (Grouping.distinct bugIdOf rows) (Grouping.distinct runIdOf rows)
      (metrics.map fun metric => calculateMetric (rows.map GroupableRow.toResearchRow) metric)
      children

namespace ResultNode

def bugCount : ResultNode → ℕ
  | mk _ _ _ bugCount _ _ _ => bugCount

def runCount : ResultNode → ℕ
  | mk _ _ _ _ runCount _ _ => runCount

def children : ResultNode → List ResultNode
  | mk _ _ _ _ _ _ children => children

end ResultNode

/-- The arguments of a call of `buildNode`. -/
structure NodeCall where
  id : String
  label : String
  field : Option GroupField
  rows : List GroupableRow
  groups : List GroupSpec

namespace NodeCall

def node (metrics : List MetricSpec) (c : NodeCall) : ResultNode :=
  buildNode js metrics c.id c.label c.field c.rows c.groups

/-- The calls for the children. -/
def children (c : NodeCall) : List NodeCall :=
  match c.groups with
  | [] => []
  | group :: remainingGroups => (groupRows js c.rows group).map fun child =>
    ⟨s!"{c.id}/{child.id}",child.label,some group.field,child.rows,remainingGroups⟩

/-- The calls below a call, at every depth. -/
inductive Below (root : NodeCall) : NodeCall → Prop
  | root : Below root root
  | child {c c'} (above : Below root c) (mem : c' ∈ c.children js) : Below root c'

@[simp] theorem bugCount_node (metrics : List MetricSpec) (c : NodeCall) :
    (c.node js metrics).bugCount = Grouping.distinct bugIdOf c.rows := by
  obtain ⟨id,label,field,rows,groups⟩ := c
  cases groups <;> rfl

end NodeCall

/-- Rows with the same id have the same value in the field. -/
def FunctionOf {ι : Type} (ids : GroupableRow → Option ι) (field : GroupField)
    (rows : List GroupableRow) : Prop :=
  ∀ row ∈ rows, ∀ row' ∈ rows, ∀ i, ids row = some i → ids row' = some i →
    getFieldValue js row field = getFieldValue js row' field

end Tree

section Groups
variable {js : JsOrder} {rows : List GroupableRow} {group : GroupSpec}

/-- The labels of the groups. -/
def labels (js : JsOrder) (rows : List GroupableRow) (group : GroupSpec) : List String :=
  (groupRows js rows group).map RowGroup.label

lemma labels_perm (hvalue : group.mode = .value) : (labels js rows group).Perm
    ((Grouping.collect (fieldLabel js group.field) rows).rows.map Prod.fst) := by
  rw [labels,groupRows,hvalue]
  simp only [List.map_map,Function.comp_def]
  exact (List.mergeSort_perm _ _).map _

lemma mem_labels (hvalue : group.mode = .value) :
    ∀ row ∈ rows, fieldLabel js group.field row ∈ labels js rows group := by
  intro row hrow
  exact (labels_perm hvalue).mem_iff.mpr (Grouping.mem_keys_collect hrow)

/-- A group holds the rows with its label, and there are such rows. -/
lemma rows_of_mem_groupRows (hvalue : group.mode = .value) {child : RowGroup}
    (h : child ∈ groupRows js rows group) :
    child.rows = rows.filter (fun row => fieldLabel js group.field row = child.label) ∧
      child.rows ≠ [] := by
  rw [groupRows,hvalue] at h
  obtain ⟨entry,hentry,rfl⟩ := List.mem_map.mp h
  have hmem := (List.mergeSort_perm _ _).mem_iff.mp hentry
  obtain ⟨hlabel,hrows⟩ := Grouping.mem_collect hmem
  refine ⟨hrows,?_⟩
  obtain ⟨row,hrow,heq⟩ := List.mem_map.mp hlabel
  have hrow' : row ∈ entry.2 := by
    rw [hrows]
    exact List.mem_filter.mpr ⟨hrow,by simpa using heq⟩
  exact List.ne_nil_of_mem hrow'

end Groups

section Leaves
variable {js : JsOrder} {rows : List GroupableRow} {groups : List GroupSpec}

end Leaves

/-- Every call below a call has groups of its own, and some of its rows. -/
lemma NodeCall.Below.value {js : JsOrder} {root c : NodeCall}
    (hvalue : ∀ group ∈ root.groups, group.mode = .value) (h : root.Below js c) :
    ∀ group ∈ c.groups, group.mode = .value := by
  induction h with
  | root => exact hvalue
  | @child c c' above mem ih =>
    unfold NodeCall.children at mem
    split at mem
    · exact absurd mem List.not_mem_nil
    · rename_i group remainingGroups hgroups
      obtain ⟨child,-,rfl⟩ := List.mem_map.mp mem
      intro group' hgroup'
      exact ih group' (hgroups ▸ List.mem_cons_of_mem _ hgroup')

section Fetched
variable (db : Database) (datasetId : ℕ)

def groupableRow (b : SyzbotBug) (dp : Option DeveloperPatch) (devPatch : Option Patch)
    (ap : Option AgentPatch) (ac : Option AgentConfiguration)
    (crr : Option PatchCrashResolutionEvaluation) (llm : Option PatchLLMJudgeEvaluation)
    (ljc : Option LLMJudgeConfiguration) (loc : Option PatchLocalizationEvaluation) :
    GroupableRow where
  toResearchRow := researchRow b.bugId ap crr llm ljc loc
  subsystem := b.subsystem
  fixedTime := dp.map DeveloperPatch.fixedTime
  developerPatchSize := devPatch.map Patch.numModifiedLines
  agent := ac.map AgentConfiguration.agent
  agentConfigName := ac.map AgentConfiguration.agentConfigName
  statefulEdit := ac.map AgentConfiguration.statefulEdit
  oracleMode := ac.map AgentConfiguration.oracleMode
  model := ac.map AgentConfiguration.model
  modelConfigName := ac.map AgentConfiguration.modelConfigName

/-- The rows of the query with all their columns, before they are put in order. -/
def groupableRows : List GroupableRow :=
  (innerJoin (db.bugDatasetMembers.rows.filter fun bdm => bdm.datasetId = datasetId)
    db.syzbotBugs.rows fun bdm b => b.bugId = bdm.bugId).flatMap fun joined =>
  (matches? db.developerPatches.rows fun dp => dp.bugId = joined.2.bugId).flatMap fun dp =>
  (matches? db.patches.rows fun devPatch =>
    dp.any fun dp => devPatch.patchId = dp.patchId).flatMap fun devPatch =>
  (matches? db.agentPatches.rows fun ap => ap.bugId = joined.2.bugId).flatMap fun ap =>
  (matches? db.agentConfigurations.rows fun ac =>
    ap.any fun ap => ac.agentConfigId = ap.agentConfigId).flatMap fun ac =>
  (matches? db.patchCrashResolutionEvaluations.rows fun crr => onPatch ap crr.agentPatchId).flatMap
    fun crr =>
  (matches? db.patchLLMJudgeEvaluations.rows fun llm => onPatch ap llm.agentPatchId).flatMap
    fun llm =>
  (matches? db.llmJudgeConfigurations.rows fun ljc =>
    llm.any fun llm => ljc.judgeId = llm.judgeId).flatMap fun ljc =>
  (matches? db.patchLocalizationEvaluations.rows fun loc => onPatch ap loc.agentPatchId).map
    fun loc => groupableRow joined.2 dp devPatch ap ac crr llm ljc loc

/-- The configuration of a run. -/
def configurationOf (agentPatchId : ℕ) : Option AgentConfiguration :=
  (db.agentPatches.get? agentPatchId).bind fun ap => db.agentConfigurations.get? ap.agentConfigId

variable {db datasetId}

/-- A join on a key finds the row with this key. -/
lemma eq_get?_of_mem_matches? {κ ρ : Type} [DecidableEq κ] {key : ρ → κ} {t : Table key}
    {on : ρ → Bool} {k : κ} (hon : ∀ row, on row = true ↔ key row = k) {row? : Option ρ}
    (h : row? ∈ matches? t.rows on) : row? = t.get? k := by
  cases row? with
  | some row =>
    obtain ⟨hmem,hrow⟩ := of_mem_matches? h row rfl
    exact (Table.get?_eq_some.mpr ⟨hmem,(hon row).mp hrow⟩).symm
  | none =>
    refine (Table.get?_eq_none.mpr fun row hrow hkey => ?_).symm
    have hmem : row ∈ t.rows.filter on := List.mem_filter.mpr ⟨hrow,(hon row).mpr hkey⟩
    unfold matches? at h
    split at h
    · rename_i hfilter
      rw [hfilter] at hmem
      exact absurd hmem List.not_mem_nil
    · simp at h

/-- A row is of one bug, and of the configuration of its run. -/
lemma exists_of_mem_groupableRows {row : GroupableRow} (h : row ∈ groupableRows db datasetId) :
    ∃ b ∈ db.syzbotBugs.rows, row.bugId = b.bugId ∧ row.subsystem = b.subsystem ∧
      ∀ i, row.agentPatchId = some i → ∃ dp devPatch ap crr llm ljc loc,
        row = groupableRow b dp devPatch ap (configurationOf db i) crr llm ljc loc := by
  simp only [groupableRows,List.mem_flatMap,List.mem_map] at h
  obtain ⟨⟨bdm,b⟩,hjoined,dp,-,devPatch,-,ap,hap,ac,hac,crr,-,llm,-,ljc,-,loc,-,rfl⟩ := h
  refine ⟨b,(mem_innerJoin.mp hjoined).2.1,rfl,rfl,fun i hi => ?_⟩
  obtain ⟨a,rfl,rfl⟩ := Option.map_eq_some_iff.mp hi
  have hmem := (of_mem_matches? hap a rfl).1
  have hconfig : ac = configurationOf db a.agentPatchId := by
    rw [configurationOf,Table.get?_eq_some.mpr ⟨hmem,rfl⟩]
    exact eq_get?_of_mem_matches? (fun row => by simp) hac
  exact ⟨dp,devPatch,some a,crr,llm,ljc,loc,by rw [hconfig]⟩

/-- In the rows of the query the subsystem is a function of the bug. -/
theorem functionOf_bug (js : JsOrder) :
    FunctionOf js bugIdOf .subsystem (groupableRows db datasetId) := by
  intro row hrow row' hrow' i hi hi'
  obtain ⟨b,hb,hbug,hsubsystem,-⟩ := exists_of_mem_groupableRows hrow
  obtain ⟨b',hb',hbug',hsubsystem',-⟩ := exists_of_mem_groupableRows hrow'
  have hid : b.bugId = b'.bugId := by
    rw [← hbug,← hbug']
    exact Option.some.inj (hi.trans hi'.symm)
  have hsame : b = b' := by
    have hget := Table.get?_eq_some.mpr ⟨hb,hid⟩
    rw [Table.get?_eq_some.mpr ⟨hb',rfl⟩] at hget
    exact (Option.some.inj hget).symm
  rw [getFieldValue,getFieldValue,hsubsystem,hsubsystem',hsame]

def runFields : List GroupField :=
  [.agent,.agentConfigName,.model,.modelConfigName,.statefulEdit,.oracleMode]

/-- The fields of the configuration are functions of the run. -/
theorem functionOf_run (js : JsOrder) : ∀ field ∈ runFields,
    FunctionOf js runIdOf field (groupableRows db datasetId) := by
  intro field hfield row hrow row' hrow' i hi hi'
  obtain ⟨b,-,-,-,hconfig⟩ := exists_of_mem_groupableRows hrow
  obtain ⟨b',-,-,-,hconfig'⟩ := exists_of_mem_groupableRows hrow'
  obtain ⟨dp,devPatch,ap,crr,llm,ljc,loc,rfl⟩ := hconfig i hi
  obtain ⟨dp',devPatch',ap',crr',llm',ljc',loc',rfl⟩ := hconfig' i hi'
  simp only [runFields,List.mem_cons,List.not_mem_nil,or_false] at hfield
  obtain rfl | rfl | rfl | rfl | rfl | rfl := hfield
  all_goals rfl

end Fetched

end LiveKBench.KArenaWeb
