import LiveKBench.KArenaWeb.DrillDown
import LiveKBench.KArenaWeb.QueryBody

/-! What the server shows for a query that it has read. The values that were passed on are compared
as they are; where they are scalars, as the types of the page say, the result is the tree of the typed
query. -/
namespace LiveKBench.KArenaWeb.QueryBody
open KArena Lib

section Evaluate
variable (js : JsOrder)

/-- `normalizeComparable(value)`. -/
def comparableText : Option JsValue → Except String String
  | none => .ok ""
  | some .null => .ok ""
  | some (.bool b) => .ok (if b then "true" else "false")
  | some v => v.string js.toJsNumbers

/-- What a value is compared as by an order. -/
def primitive : JsValue → Except String SqlValue
  | .null => .ok .null
  | .bool b => .ok (.bool b)
  | .num x => .ok (.number x)
  | .str s => .ok (.text s)
  | v => do
    let text ← v.string js.toJsNumbers
    .ok (.text text)

/-- A bound that is missing or null has nothing beyond it. -/
def beyond (exceeds : SqlValue → Bool) : Option JsValue → Except String Bool
  | none => .ok false
  | some .null => .ok false
  | some v => do
    let bound ← primitive js v
    .ok (exceeds bound)

def valueInRange (value : SqlValue) (min max : Option JsValue) : Except String Bool :=
  if value = .null then .ok false
  else do
    let below ← beyond js (fun min => js.less (comparable value) min) min
    if below then .ok false
    else do
      let above ← beyond js (fun max => js.less max (comparable value)) max
      .ok !above

def rowPassesFilter (row : GroupableRow) (filter : FilterSpec) : Except String Bool :=
  let value := getFieldValue js row filter.field
  let text := normalizeComparable js.toJsNumbers value
  if filter.op.text? = some "equals" then do
    let other ← comparableText js filter.value
    .ok (text = other)
  else if filter.op.text? = some "in" then do
    let others ← (filter.values.getD []).mapM fun v => comparableText js (some v)
    .ok (others.contains text)
  else valueInRange js value filter.min filter.max

/-- `filters.every(..)`. -/
def passesFilters (row : GroupableRow) : List FilterSpec → Except String Bool
  | [] => .ok true
  | filter :: filters => do
    let passes ← rowPassesFilter js row filter
    if passes then passesFilters row filters else .ok false

/-- `rows.filter(..)`. -/
def filterRows (test : GroupableRow → Except String Bool) :
    List GroupableRow → Except String (List GroupableRow)
  | [] => .ok []
  | row :: rows => do
    let passes ← test row
    let rest ← filterRows test rows
    .ok (if passes then row :: rest else rest)

def rangeGroup (rows : List GroupableRow) (field : GroupField) (range : RangeBucket × ℕ) :
    Except String RowGroup := do
  let test row := valueInRange js (getFieldValue js row field) range.1.min range.1.max
  let rows ← filterRows test rows
  .ok ⟨s!"{field.text}:{range.2}",range.1.label,rows⟩

def groupRows (rows : List GroupableRow) (group : GroupSpec) : Except String (List RowGroup) :=
  if group.mode.text? = some "range" then do
    let groups ← (group.ranges.getD []).zipIdx.mapM (rangeGroup js rows group.field)
    .ok (groups.filter fun item => item.rows.length > 0)
  else .ok (KArenaWeb.groupRows js rows ⟨group.field,.value⟩)

def buildNode (metrics : List MetricSpec) (id label : String) (field : Option GroupField)
    (rows : List GroupableRow) : List GroupSpec → Except String ResultNode
  | [] => .ok (buildNode.node metrics id label field rows [])
  | group :: remainingGroups => do
    let groups ← groupRows js rows group
    let children ← groups.mapM fun child =>
      buildNode metrics s!"{id}/{child.id}" child.label (some group.field) child.rows
        remainingGroups
    .ok (buildNode.node metrics id label field rows children)

def evaluateResearchQuery (rows : List GroupableRow) (query : ResearchQuery) :
    Except String ResultNode := do
  let rows ← filterRows (fun row => passesFilters js row query.filters) rows
  buildNode js query.metrics "root" "All matching bugs" none rows query.groups

end Evaluate

/-! ## Typed queries -/

inductive Scalar : JsValue → SqlValue → Prop
  | null : Scalar .null .null
  | bool (b) : Scalar (.bool b) (.bool b)
  | num (x) : Scalar (.num x) (.number x)
  | str (s) : Scalar (.str s) (.text s)

/-- A value that may be missing. -/
inductive Scalar? : Option JsValue → Option SqlValue → Prop
  | none : Scalar? none none
  | some {v w} (scalar : Scalar v w) : Scalar? (some v) (some w)

/-- An operation that is no text is that of a range. -/
inductive FilterSpec.Typed (f : FilterSpec) : KArenaWeb.FilterSpec → Prop
  | equals {value} (op : f.op.text? = some "equals") (scalar : Scalar? f.value value) :
    Typed f ⟨f.field,.equals (value.getD .null)⟩
  | in {values} (op : f.op.text? = some "in")
    (scalars : List.Forall₂ Scalar (f.values.getD []) values) : Typed f ⟨f.field,.in values⟩
  | range {min max} (equals : f.op.text? ≠ some "equals") (in' : f.op.text? ≠ some "in")
    (lower : Scalar? f.min min) (upper : Scalar? f.max max) : Typed f ⟨f.field,.range min max⟩

structure RangeBucket.Typed (r : RangeBucket) (r' : KArenaWeb.RangeBucket) : Prop where
  label : r'.label = r.label
  min : Scalar? r.min r'.min
  max : Scalar? r.max r'.max

inductive GroupSpec.Typed (g : GroupSpec) : KArenaWeb.GroupSpec → Prop
  | range {ranges} (mode : g.mode.text? = some "range")
    (buckets : List.Forall₂ RangeBucket.Typed (g.ranges.getD []) ranges) :
    Typed g ⟨g.field,.range ranges⟩
  | value (mode : g.mode.text? ≠ some "range") : Typed g ⟨g.field,.value⟩

structure ResearchQuery.Typed (q : ResearchQuery) (q' : KArenaWeb.ResearchQuery) : Prop where
  datasetId : q'.datasetId = q.datasetId
  filters : List.Forall₂ FilterSpec.Typed q.filters q'.filters
  groups : List.Forall₂ GroupSpec.Typed q.groups q'.groups
  metrics : q'.metrics = q.metrics

section Trees
variable {js : JsOrder} {row : GroupableRow} {rows : List GroupableRow} {value : SqlValue}

lemma comparableText_of_scalar {v : JsValue} {w : SqlValue} (h : Scalar v w) :
    comparableText js (some v) = .ok (normalizeComparable js.toJsNumbers w) := by
  cases h <;> rfl

lemma beyond_of_scalar {exceeds : SqlValue → Bool} {v : Option JsValue} {w : Option SqlValue}
    (h : Scalar? v w) : beyond js exceeds v = .ok ((bound? w).any exceeds) := by
  cases h with
  | none => rfl
  | some scalar => cases scalar <;> rfl

lemma valueInRange_of_scalar {min max : Option JsValue} {range : KArenaWeb.RangeBucket}
    (hmin : Scalar? min range.min) (hmax : Scalar? max range.max) :
    valueInRange js value min max = .ok (KArenaWeb.valueInRange js value range) := by
  unfold valueInRange KArenaWeb.valueInRange
  rw [beyond_of_scalar hmin,beyond_of_scalar hmax]
  by_cases hnull : value = .null
  · simp [hnull]
  · rw [if_neg hnull]
    cases hbelow : (bound? range.min).any fun min => js.less (comparable value) min with
    | true => simp [hnull,bind,Except.bind]
    | false => simp [hnull,bind,Except.bind]

lemma rowPassesFilter_of_typed {f : FilterSpec} {g : KArenaWeb.FilterSpec} (h : f.Typed g) :
    rowPassesFilter js row f = .ok (KArenaWeb.rowPassesFilter js row g) := by
  unfold rowPassesFilter
  cases h with
  | @equals value op scalar =>
    have htext : comparableText js f.value =
        .ok (normalizeComparable js.toJsNumbers (value.getD .null)) := by
      cases hvalue : f.value with
      | none =>
        rw [hvalue] at scalar
        cases scalar
        rfl
      | some v =>
        rw [hvalue] at scalar
        cases scalar with
        | some scalar => exact comparableText_of_scalar scalar
    rw [if_pos op,htext]
    rfl
  | @«in» values op scalars =>
    have htexts : (f.values.getD []).mapM (fun v => comparableText js (some v)) =
        .ok (values.map (normalizeComparable js.toJsNumbers)) := by
      rw [mapM_eq_ok_iff,List.forall₂_map_right_iff]
      exact scalars.imp fun _ _ h => comparableText_of_scalar h
    have hne : f.op.text? ≠ some "equals" := by
      rw [op]
      decide
    rw [if_neg hne,if_pos op,htexts]
    rfl
  | @range min max hequals hin hmin hmax =>
    rw [if_neg hequals,if_neg hin]
    exact @valueInRange_of_scalar js _ _ _ ⟨"",min,max⟩ hmin hmax

lemma passesFilters_of_typed {filters : List FilterSpec} {filters' : List KArenaWeb.FilterSpec}
    (h : List.Forall₂ FilterSpec.Typed filters filters') : passesFilters js row filters =
      .ok (filters'.all fun filter => KArenaWeb.rowPassesFilter js row filter) := by
  induction h with
  | nil => rfl
  | @cons f f' _ filters' hf _ ih =>
    rw [passesFilters,rowPassesFilter_of_typed hf,List.all_cons,ih]
    cases KArenaWeb.rowPassesFilter js row f' <;> rfl

lemma filterRows_of_ok {test : GroupableRow → Except String Bool} {passes : GroupableRow → Bool}
    (h : ∀ row, test row = .ok (passes row)) :
    filterRows test rows = .ok (rows.filter passes) := by
  induction rows with
  | nil => rfl
  | cons row rows ih =>
    rw [filterRows,h row,ih,List.filter_cons]
    rfl

lemma rangeGroup_of_typed {field : GroupField} {range : RangeBucket}
    {range' : KArenaWeb.RangeBucket} (h : range.Typed range') (index : ℕ) :
    rangeGroup js rows field (range,index) = .ok ⟨s!"{field.text}:{index}",range'.label,
      rows.filter fun row =>
        KArenaWeb.valueInRange js (getFieldValue js row field) range'⟩ := by
  rw [rangeGroup,filterRows_of_ok fun row => valueInRange_of_scalar h.min h.max,h.label]
  rfl

lemma groupRows_of_typed {g : GroupSpec} {g' : KArenaWeb.GroupSpec} (h : g.Typed g') :
    groupRows js rows g = .ok (KArenaWeb.groupRows js rows g') := by
  unfold groupRows
  cases h with
  | @range ranges mode buckets =>
    have hgroups : (g.ranges.getD []).zipIdx.mapM (rangeGroup js rows g.field) =
        .ok (ranges.zipIdx.map fun range => ⟨s!"{g.field.text}:{range.2}",range.1.label,
          rows.filter fun row =>
            KArenaWeb.valueInRange js (getFieldValue js row g.field) range.1⟩) := by
      rw [mapM_eq_ok_iff,List.forall₂_map_right_iff,List.forall₂_iff_get]
      have hlength := buckets.length_eq
      refine ⟨by simpa using hlength,fun i hi hi' => ?_⟩
      rw [List.length_zipIdx] at hi hi'
      simp only [List.get_eq_getElem,List.getElem_zipIdx]
      exact rangeGroup_of_typed (buckets.get hi hi') _
    rw [if_pos mode,hgroups]
    rfl
  | value mode => rw [if_neg mode]

/-- The induction is on the groups that are left. -/
lemma buildNode_of_typed {metrics : List MetricSpec} {groups : List GroupSpec}
    {groups' : List KArenaWeb.GroupSpec} (h : List.Forall₂ GroupSpec.Typed groups groups')
    (id label : String) (field : Option GroupField) (rows : List GroupableRow) :
    buildNode js metrics id label field rows groups =
      .ok (KArenaWeb.buildNode js metrics id label field rows groups') := by
  induction h generalizing id label field rows with
  | nil => rfl
  | @cons g g' groups groups' hg _ ih =>
    have hfield : g'.field = g.field := by cases hg <;> rfl
    have hchildren : (KArenaWeb.groupRows js rows g').mapM (fun child =>
        buildNode js metrics s!"{id}/{child.id}" child.label (some g.field) child.rows groups) =
        .ok ((KArenaWeb.groupRows js rows g').map fun child => KArenaWeb.buildNode js metrics
          s!"{id}/{child.id}" child.label (some g'.field) child.rows groups') := by
      rw [mapM_eq_ok_iff,List.forall₂_map_right_iff,List.forall₂_same,hfield]
      exact fun child _ => ih _ _ _ _
    rw [buildNode,groupRows_of_typed hg]
    exact congrArg (fun children : Except String (List ResultNode) => do
      let children ← children
      .ok (buildNode.node metrics id label field rows children)) hchildren

/-- What the server shows for a query of scalars is the tree of the typed query. -/
theorem evaluateResearchQuery_of_typed {q : ResearchQuery} {q' : KArenaWeb.ResearchQuery}
    (h : q.Typed q') : evaluateResearchQuery js rows q =
      .ok (KArenaWeb.evaluateResearchQuery js rows q') := by
  rw [evaluateResearchQuery,filterRows_of_ok fun row => passesFilters_of_typed h.filters]
  have htree := @buildNode_of_typed js q.metrics _ _ h.groups "root" "All matching bugs" none
    (matchingRows js rows q'.filters)
  rw [KArenaWeb.evaluateResearchQuery,NodeCall.node,ResearchQuery.rootCall,h.metrics]
  exact htree

end Trees

end LiveKBench.KArenaWeb.QueryBody
