import LiveKBench.KArenaWeb.LeaderboardCache
import LiveKBench.KArenaWeb.ResearchTree
import LiveKBench.Lib.JsObject

/-! The queries that the server of the research page accepts. The body of a request is any JSON, and
the query read from it goes back with the results. -/
namespace LiveKBench.KArenaWeb.QueryBody
open KArena Lib
open Lib.JsValue (property member itemsOf?)

/-- `Number(value)`, if it is finite. -/
def toNumber (js : JsNumbers) : Option JsValue → Except String (Option ℚ)
  | none => .ok none
  | some value => do
    let x ← value.number js
    .ok x.value?

/-- A check of a number that is to be a positive integer. -/
def positive (js : JsNumbers) (message : String) (value : Option JsValue) : Except String ℕ := do
  let x ← toNumber js value
  match positiveInteger? x with
  | none => .error message
  | some n => .ok n

def emptyToNull : Option JsValue → Option JsValue
  | some (.str s) => some (if s = "" then .null else .str s)
  | value => value

def groupFields : List GroupField :=
  [.subsystem,.fixedTime,.developerPatchSize,.agent,.agentConfigName,.statefulEdit,.oracleMode,
    .model,.modelConfigName,.judgeName]

/-- `isGroupField`, with the field. -/
def groupField? (value : Option JsValue) : Option GroupField :=
  (value.bind JsValue.text?).bind fun s => groupFields.find? fun field => field.text = s

def metricIds : List ScoreKey := [.crr,.epr,.fileIou,.funcIou]

def metricId? (value : Option JsValue) : Option ScoreKey :=
  (value.bind JsValue.text?).bind fun s => metricIds.find? fun id => metricId id = s

def aggregations : List Aggregation := [.pass,.mean]

def aggregation? (value : Option JsValue) : Option Aggregation :=
  (value.bind JsValue.text?).bind fun s =>
    aggregations.find? fun aggregation => aggregationText aggregation = s

/-- A filter as it is passed on: of `op` only the text is checked, and of the values nothing. -/
structure FilterSpec where
  field : GroupField
  op : JsValue
  value : Option JsValue
  values : Option (List JsValue)
  min : Option JsValue
  max : Option JsValue

structure RangeBucket where
  label : String
  min : Option JsValue
  max : Option JsValue

structure GroupSpec where
  field : GroupField
  mode : JsValue
  ranges : Option (List RangeBucket)

structure ResearchQuery where
  datasetId : ℕ
  filters : List FilterSpec
  groups : List GroupSpec
  metrics : List MetricSpec

def FilterSpec.passOn (field : GroupField) (op : JsValue) (input : List (String × JsValue)) :
    FilterSpec where
  field := field
  op := op
  value := property "value" input
  values := itemsOf? (property "values" input)
  min := emptyToNull (property "min" input)
  max := emptyToNull (property "max" input)

section Normalize
variable (js : JsNumbers)

def normalizeFilter : JsValue → Except String FilterSpec
  | .obj input =>
    match groupField? (property "field" input),property "op" input with
    | some field,some op => do
      let text ← op.string js
      if text ∉ ["equals","in","range"] then .error "Invalid filter"
      else if op.text? = some "in" ∧ (itemsOf? (property "values" input)).isNone then
        .error "Filter op 'in' requires values"
      else .ok (.passOn field op input)
    | _,_ => .error "Invalid filter"
  | _ => .error "Invalid filter"

def normalizeRange : JsValue → Except String RangeBucket
  | .obj range =>
    match (property "label" range).bind JsValue.text? with
    | some label => .ok
        { label
          min := emptyToNull (property "min" range)
          max := emptyToNull (property "max" range) }
    | none => .error "Invalid group range"
  | _ => .error "Invalid group range"

/-- `input.ranges.map(..)`, if there are ranges. -/
def normalizeRanges : Option (List JsValue) → Except String (Option (List RangeBucket))
  | some ranges => do
    let buckets ← ranges.mapM normalizeRange
    .ok (some buckets)
  | none => .ok none

def normalizeGroup : JsValue → Except String GroupSpec
  | .obj input =>
    match groupField? (property "field" input),property "mode" input with
    | some field,some mode => do
      let text ← mode.string js
      if text ∉ ["value","range"] then .error "Invalid group"
      else do
        let ranges ← normalizeRanges (itemsOf? (property "ranges" input))
        if mode.text? = some "range" ∧ ranges.all List.isEmpty then
          .error "Range groups require at least one range"
        else .ok ⟨field,mode,ranges⟩
    | _,_ => .error "Invalid group"
  | _ => .error "Invalid group"

def normalizeMetric : JsValue → Except String MetricSpec
  | .obj input =>
    match metricId? (property "id" input),aggregation? (property "aggregation" input) with
    | some id,some aggregation => do
      let k ← positive js "Metric k must be a positive integer" (property "k" input)
      .ok ⟨id,aggregation,k,((property "judgeName" input).bind JsValue.text?).filter (· ≠ "")⟩
    | _,_ => .error "Invalid metric"
  | _ => .error "Invalid metric"

/-- The entries of a list that may be missing. -/
def entries {α : Type} (normalize : JsValue → Except String α) (input : Option JsValue) :
    Except String (List α) :=
  ((itemsOf? input).getD []).mapM normalize

def normalizeResearchQuery : JsValue → Except String ResearchQuery
  | .obj input => do
    let datasetId ← positive js "datasetId must be a positive integer" (property "datasetId" input)
    let filters ← entries (normalizeFilter js) (property "filters" input)
    let groups ← entries (normalizeGroup js) (property "groups" input)
    let metrics ← entries (normalizeMetric js) (property "metrics" input)
    if metrics.isEmpty then .error "At least one metric is required"
    else .ok ⟨datasetId,filters,groups,metrics⟩
  | _ => .error "Query must be an object"

/-- The query of the body of a request. -/
def readQuery (body : Json) : Except String ResearchQuery :=
  normalizeResearchQuery js (.ofJson js body)

end Normalize

/-! ## The query that goes back -/

def FilterSpec.toValue (f : FilterSpec) : JsValue :=
  .obj (member "field" (some (.str f.field.text)) ++ member "op" (some f.op) ++
    member "value" f.value ++ member "values" (f.values.map .arr) ++ member "min" f.min ++
    member "max" f.max)

def RangeBucket.toValue (r : RangeBucket) : JsValue :=
  .obj (member "label" (some (.str r.label)) ++ member "min" r.min ++ member "max" r.max)

def GroupSpec.toValue (g : GroupSpec) : JsValue :=
  .obj (member "field" (some (.str g.field.text)) ++ member "mode" (some g.mode) ++
    member "ranges" (g.ranges.map fun ranges => .arr (ranges.map RangeBucket.toValue)))

/-- A number of the query. -/
def natValue (n : ℕ) : JsValue := .num (.finite n)

def metricValue (m : MetricSpec) : JsValue :=
  .obj (member "id" (some (.str (metricId m.id))) ++
    member "aggregation" (some (.str (aggregationText m.aggregation))) ++
    member "k" (some (natValue m.k)) ++ member "judgeName" (m.judgeName.map .str))

def ResearchQuery.toValue (q : ResearchQuery) : JsValue :=
  .obj (member "datasetId" (some (natValue q.datasetId)) ++
    member "filters" (some (.arr (q.filters.map FilterSpec.toValue))) ++
    member "groups" (some (.arr (q.groups.map GroupSpec.toValue))) ++
    member "metrics" (some (.arr (q.metrics.map metricValue))))

/-- The query in the response. -/
def ResearchQuery.serialize (js : JsNumbers) (q : ResearchQuery) : Json := q.toValue.toJson js

/-! ## What is accepted -/

/-- The values that are passed on as they were given. -/
def FilterSpec.passedOn (f : FilterSpec) : List JsValue :=
  f.op :: (f.value.toList ++ (f.values.map JsValue.arr).toList ++ f.min.toList ++ f.max.toList)

def RangeBucket.passedOn (r : RangeBucket) : List JsValue := r.min.toList ++ r.max.toList

def GroupSpec.passedOn (g : GroupSpec) : List JsValue :=
  g.mode :: (g.ranges.getD []).flatMap RangeBucket.passedOn

/-- No number of the query is infinite or a negative zero. -/
def ResearchQuery.Plain (q : ResearchQuery) : Prop :=
  (∀ f ∈ q.filters, ∀ v ∈ f.passedOn, v.Plain) ∧ ∀ g ∈ q.groups, ∀ v ∈ g.passedOn, v.Plain

section Accepted
variable (js : JsNumbers)

structure FilterSpec.Accepted (f : FilterSpec) : Prop where
  op : ∃ text ∈ ["equals","in","range"], f.op.string js = .ok text
  values : f.op.text? = some "in" → f.values.isSome
  min : emptyToNull f.min = f.min
  max : emptyToNull f.max = f.max
  given : ∀ v ∈ f.passedOn, v.Given js

structure RangeBucket.Accepted (r : RangeBucket) : Prop where
  min : emptyToNull r.min = r.min
  max : emptyToNull r.max = r.max
  given : ∀ v ∈ r.passedOn, v.Given js

structure GroupSpec.Accepted (g : GroupSpec) : Prop where
  mode : ∃ text ∈ ["value","range"], g.mode.string js = .ok text
  ranges : g.mode.text? = some "range" → ∃ range ranges, g.ranges = some (range :: ranges)
  each : ∀ ranges, g.ranges = some ranges → ∀ range ∈ ranges, range.Accepted js
  given : g.mode.Given js

/-- A positive integer that some text is as a number. -/
def Reads (n : ℕ) : Prop := 0 < n ∧ ∃ s, js.parse s = .finite n

structure MetricAccepted (m : MetricSpec) : Prop where
  k : Reads js m.k
  judgeName : m.judgeName ≠ some ""

structure ResearchQuery.Accepted (q : ResearchQuery) : Prop where
  datasetId : Reads js q.datasetId
  filters : ∀ f ∈ q.filters, f.Accepted js
  groups : ∀ g ∈ q.groups, g.Accepted js
  metrics : ∀ m ∈ q.metrics, MetricAccepted js m
  measured : q.metrics ≠ []

end Accepted

end LiveKBench.KArenaWeb.QueryBody
