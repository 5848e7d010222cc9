import LiveKBench.KArenaWeb.ResearchTree
import LiveKBench.Lib.Traverse
import Mathlib

/-! The filters of the research page. A node of the tree shows what the query shows that has one
filter more for each group above the node, on the value or the bounds of the group. -/
namespace LiveKBench.KArenaWeb
open KArena Lib

inductive FilterOp
  | equals (value : SqlValue)
  | in (values : List SqlValue)
  | range (min max : Option SqlValue)
  deriving DecidableEq, Repr

structure FilterSpec where
  field : GroupField
  op : FilterOp
  deriving DecidableEq, Repr

structure ResearchQuery where
  datasetId : ℕ
  filters : List FilterSpec
  groups : List GroupSpec
  metrics : List MetricSpec

def normalizeComparable (js : JsNumbers) : SqlValue → String
  | .bool b => if b then "true" else "false"
  | .null => ""
  | .text s => s
  | .number x => js.string x

def rowPassesFilter (js : JsOrder) (row : GroupableRow) (filter : FilterSpec) : Bool :=
  let value := getFieldValue js row filter.field
  let comparable := normalizeComparable js.toJsNumbers
  match filter.op with
  | .equals v => comparable value = comparable v
  | .in values => (values.map comparable).contains (comparable value)
  | .range min max => valueInRange js value ⟨"",min,max⟩

/-- The rows that pass all filters. -/
def matchingRows (js : JsOrder) (rows : List GroupableRow) (filters : List FilterSpec) :
    List GroupableRow :=
  rows.filter fun row => filters.all fun filter => rowPassesFilter js row filter

/-- The call of `buildNode` for the root of a query. -/
def ResearchQuery.rootCall (js : JsOrder) (rows : List GroupableRow) (query : ResearchQuery) :
    NodeCall :=
  ⟨"root","All matching bugs",none,matchingRows js rows query.filters,query.groups⟩

def evaluateResearchQuery (js : JsOrder) (rows : List GroupableRow) (query : ResearchQuery) :
    ResultNode :=
  (query.rootCall js rows).node js query.metrics

/-! ## Labels and what filters compare -/

/-- The text that a group has where its field has no value. -/
def GroupField.missing (field : GroupField) : String := s!"No {field.featureLabel}"

def SqlValue.IsMissing (value : SqlValue) : Prop := value = .null ∨ value = .text ""

/-- A missing value, and a text that reads like one. -/
structure Lookalike (field : GroupField) (value value' : SqlValue) : Prop where
  missing : value.IsMissing
  text : value' = .text field.missing

inductive SqlKind
  | text
  | number
  | bool

def GroupField.kind : GroupField → SqlKind
  | .developerPatchSize => .number
  | .statefulEdit => .bool
  | .oracleMode => .bool
  | _ => .text

inductive SqlValue.OfKind : SqlKind → SqlValue → Prop
  | null (kind) : OfKind kind .null
  | text (s) : OfKind .text (.text s)
  | number (x) : OfKind .number (.number x)
  | bool (b) : OfKind .bool (.bool b)

lemma ofKind_parseSubsystem (js : JsOrder) (rawSubsystem : String) :
    SqlValue.OfKind .text (parseSubsystem js rawSubsystem) := by
  unfold parseSubsystem
  split
  · exact .null _
  · split
    · split <;> exact .text _
    · exact .text _

lemma ofKind_textOrNull (s : Option String) : SqlValue.OfKind .text (textOrNull s) := by
  cases s with
  | none => exact .null _
  | some s => exact .text s

/-- The values of a field are of one kind. -/
lemma ofKind_getFieldValue (js : JsOrder) (row : GroupableRow) (field : GroupField) :
    SqlValue.OfKind field.kind (getFieldValue js row field) := by
  cases field with
  | subsystem => exact ofKind_parseSubsystem _ _
  | developerPatchSize =>
    rw [getFieldValue]
    cases row.developerPatchSize with
    | none => exact .null _
    | some n => exact .number _
  | statefulEdit =>
    rw [getFieldValue]
    cases row.statefulEdit with
    | none => exact .null _
    | some n => exact .bool _
  | oracleMode =>
    rw [getFieldValue]
    cases row.oracleMode with
    | none => exact .null _
    | some n => exact .bool _
  | _ => exact ofKind_textOrNull _

lemma missing_ne_empty (field : GroupField) : field.missing ≠ "" := by
  cases field <;> decide

lemma string_ne_missing (js : JsNumbers) (x : JsNumber) (field : GroupField) :
    js.string x ≠ field.missing := by
  intro h
  have hblank : ' ' ∈ field.missing.toList := by cases field <;> decide
  exact (js.string_text x).2 (h ▸ hblank)

section Labels
variable {js : JsOrder} {field : GroupField} {value value' : SqlValue}

lemma format_of_isMissing (h : value.IsMissing) :
    formatFieldValue js field value = field.missing := by
  rcases h with rfl | rfl <;> rfl

lemma normalizeComparable_of_isMissing (h : value.IsMissing) :
    normalizeComparable js.toJsNumbers value = "" := by
  rcases h with rfl | rfl <;> rfl

/-- What is compared as the empty text is missing. -/
lemma isMissing_of_normalizeComparable (h : normalizeComparable js.toJsNumbers value = "") :
    value.IsMissing := by
  cases value with
  | text s => exact .inr (congrArg SqlValue.text h)
  | number x => exact absurd h (js.string_text x).1
  | bool b => cases b <;> simp [normalizeComparable] at h
  | null => exact .inl rfl

/-- Values that filters cannot tell apart have one label. -/
lemma format_eq_of_normalizeComparable {kind : SqlKind} (hkind : value.OfKind kind)
    (hkind' : value'.OfKind kind)
    (h : normalizeComparable js.toJsNumbers value = normalizeComparable js.toJsNumbers value') :
    formatFieldValue js field value = formatFieldValue js field value' := by
  by_cases hmissing : value.IsMissing
  · rw [normalizeComparable_of_isMissing hmissing] at h
    rw [format_of_isMissing hmissing,format_of_isMissing (isMissing_of_normalizeComparable h.symm)]
  · cases hkind with
    | null => exact absurd (.inl rfl) hmissing
    | text s =>
      cases hkind' with
      | null => exact absurd (.inr (congrArg SqlValue.text h)) hmissing
      | text s' => rw [show s = s' from h]
    | number x =>
      cases hkind' with
      | null => exact absurd h (js.string_text x).1
      | number x' => exact h
    | bool b =>
      cases hkind' with
      | null => cases b <;> simp [normalizeComparable] at h
      | bool b' => cases b <;> cases b' <;> first | rfl | simp [normalizeComparable] at h

/-- A label is that of a missing value for a missing value and for a text that reads like it. -/
lemma of_format_eq_missing {kind : SqlKind} (hkind : value.OfKind kind)
    (h : formatFieldValue js field value = field.missing) :
    value.IsMissing ∨ value = .text field.missing := by
  cases hkind with
  | null => exact .inl (.inl rfl)
  | text s =>
    by_cases hs : s = ""
    · exact .inl (.inr (congrArg SqlValue.text hs))
    · rw [formatFieldValue,if_neg hs] at h
      exact .inr (congrArg SqlValue.text h)
  | number x => exact absurd h (string_ne_missing js.toJsNumbers x field)
  | bool b =>
    have hword : ∀ word ∈ ["Yes","No"], word ≠ field.missing := by cases field <;> decide
    cases b with
    | false => exact absurd h (hword "No" (by decide))
    | true => exact absurd h (hword "Yes" (by decide))

/-- Values with one label are compared alike, but for lookalikes. -/
lemma normalizeComparable_eq_of_format {kind : SqlKind} (hkind : value.OfKind kind)
    (hkind' : value'.OfKind kind)
    (h : formatFieldValue js field value = formatFieldValue js field value')
    (hclear : ¬Lookalike field value value') (hclear' : ¬Lookalike field value' value) :
    normalizeComparable js.toJsNumbers value = normalizeComparable js.toJsNumbers value' := by
  by_cases hmissing : value.IsMissing
  · rw [format_of_isMissing hmissing] at h
    rcases of_format_eq_missing hkind' h.symm with hmissing' | htext
    · rw [normalizeComparable_of_isMissing hmissing,normalizeComparable_of_isMissing hmissing']
    · exact absurd ⟨hmissing,htext⟩ hclear
  by_cases hmissing' : value'.IsMissing
  · rw [format_of_isMissing hmissing'] at h
    rcases of_format_eq_missing hkind h with hmissing | htext
    · exact absurd ‹_› ‹¬value.IsMissing›
    · exact absurd ⟨hmissing',htext⟩ hclear'
  cases hkind with
  | null => exact absurd (.inl rfl) hmissing
  | text s =>
    cases hkind' with
    | null => exact absurd (.inl rfl) hmissing'
    | text s' =>
      have hs : s ≠ "" := fun hs => hmissing (.inr (congrArg SqlValue.text hs))
      have hs' : s' ≠ "" := fun hs => hmissing' (.inr (congrArg SqlValue.text hs))
      rwa [formatFieldValue,if_neg hs,formatFieldValue,if_neg hs'] at h
  | number x =>
    cases hkind' with
    | null => exact absurd (.inl rfl) hmissing'
    | number x' => exact h
  | bool b =>
    cases hkind' with
    | null => exact absurd (.inl rfl) hmissing'
    | bool b' => cases b <;> cases b' <;> first | rfl | simp [formatFieldValue] at h

/-- Lookalikes have one label, and no filter on a value lets both pass. -/
lemma Lookalike.format_eq (h : Lookalike field value value') :
    formatFieldValue js field value = formatFieldValue js field value' := by
  rw [format_of_isMissing h.missing,h.text,formatFieldValue,if_neg (missing_ne_empty field)]

lemma Lookalike.normalizeComparable_ne (h : Lookalike field value value') :
    normalizeComparable js.toJsNumbers value ≠ normalizeComparable js.toJsNumbers value' := by
  rw [normalizeComparable_of_isMissing h.missing,h.text]
  exact (missing_ne_empty field).symm

end Labels

/-! ## The filters of a node -/

/-- A filter for a group of rows: on a value that its rows have, or on the bounds of its bucket. -/
inductive FilterSpec.OfGroup (js : JsOrder) : GroupSpec → RowGroup → FilterSpec → Prop
  | value {field child row} (mem : row ∈ child.rows) :
    OfGroup js ⟨field,.value⟩ child ⟨field,.equals (getFieldValue js row field)⟩
  | range {field ranges child} {range : RangeBucket} {index : ℕ}
    (bucket : ranges[index]? = some range)
    (id : child.id = s!"{field.text}:{index}") :
    OfGroup js ⟨field,.range ranges⟩ child ⟨field,.range range.min range.max⟩

/-- The call for a group of the rows of a call. -/
def NodeCall.child (c : NodeCall) (group : GroupSpec) (remainingGroups : List GroupSpec)
    (child : RowGroup) : NodeCall :=
  ⟨s!"{c.id}/{child.id}",child.label,some group.field,child.rows,remainingGroups⟩

/-- One filter for each of the groups on the way to a call. -/
inductive NodeCall.Path (js : JsOrder) (root : NodeCall) : List FilterSpec → NodeCall → Prop
  | root : Path js root [] root
  | child {filters c group remainingGroups child filter} (above : Path js root filters c)
    (groups : c.groups = group :: remainingGroups) (mem : child ∈ groupRows js c.rows group)
    (of : filter.OfGroup js group child) :
    Path js root (filters ++ [filter]) (c.child group remainingGroups child)

/-- The call has the rows of the query with these filters more, one for each group above it. -/
structure NodeCall.ShownBy (js : JsOrder) (rows : List GroupableRow) (query : ResearchQuery)
    (filters : List FilterSpec) (c : NodeCall) : Prop where
  path : (query.rootCall js rows).Path js filters c
  rows : c.rows = matchingRows js rows (query.filters ++ filters)

/-- No rows of a group by values are lookalikes in its field. -/
def NodeCall.Clear (js : JsOrder) (c : NodeCall) : Prop :=
  ∀ field remainingGroups, c.groups = ⟨field,.value⟩ :: remainingGroups →
    ∀ row ∈ c.rows, ∀ row' ∈ c.rows,
      ¬Lookalike field (getFieldValue js row field) (getFieldValue js row' field)

/-- Nodes that differ in their ids only. -/
inductive ResultNode.SameButIds : ResultNode → ResultNode → Prop
  | mk {id id' label field bugCount runCount metrics children children'}
    (below : List.Forall₂ SameButIds children children') :
    SameButIds (.mk id label field bugCount runCount metrics children)
      (.mk id' label field bugCount runCount metrics children')

def ResultNode.metrics : ResultNode → List MetricCell
  | mk _ _ _ _ _ metrics _ => metrics

/-- The nodes show the same numbers, and below them the same nodes. -/
structure ResultNode.SameResults (node node' : ResultNode) : Prop where
  bugCount : node.bugCount = node'.bugCount
  runCount : node.runCount = node'.runCount
  metrics : node.metrics = node'.metrics
  children : List.Forall₂ SameButIds node.children node'.children

section Nodes
variable {js : JsOrder} {rows : List GroupableRow} {group : GroupSpec} {child : RowGroup}

lemma matchingRows_append (filters filters' : List FilterSpec) :
    matchingRows js rows (filters ++ filters') =
      matchingRows js (matchingRows js rows filters) filters' := by
  rw [matchingRows,matchingRows,matchingRows,List.filter_filter]
  refine List.filter_congr fun row _ => ?_
  rw [List.all_append,Bool.and_comm]

/-- A group by values has the rows that pass the filter on the value of any of them. -/
lemma rows_eq_of_value {field : GroupField}
    (hclear : ∀ row ∈ rows, ∀ row' ∈ rows,
      ¬Lookalike field (getFieldValue js row field) (getFieldValue js row' field))
    (h : child ∈ groupRows js rows ⟨field,.value⟩) :
    ∃ filter, FilterSpec.OfGroup js ⟨field,.value⟩ child filter ∧
      child.rows = matchingRows js rows [filter] := by
  obtain ⟨hrows,hne⟩ := rows_of_mem_groupRows rfl h
  obtain ⟨first,hfirst⟩ := List.exists_mem_of_ne_nil _ hne
  refine ⟨_,.value hfirst,?_⟩
  rw [hrows] at hfirst
  obtain ⟨hmem,hlabel⟩ := List.mem_filter.mp hfirst
  have hlabel : fieldLabel js field first = child.label := by simpa using hlabel
  rw [hrows,matchingRows]
  refine List.filter_congr fun row hrow => ?_
  have hiff : fieldLabel js field row = child.label ↔
      normalizeComparable js.toJsNumbers (getFieldValue js row field) =
        normalizeComparable js.toJsNumbers (getFieldValue js first field) := by
    rw [← hlabel]
    have hkind := ofKind_getFieldValue js row field
    have hkind' := ofKind_getFieldValue js first field
    exact ⟨fun heq => normalizeComparable_eq_of_format hkind hkind' heq
      (hclear row hrow first hmem) (hclear first hmem row hrow),
      format_eq_of_normalizeComparable hkind hkind'⟩
  simp only [List.all_cons,List.all_nil,Bool.and_true,rowPassesFilter,hiff]

/-- A group by a range has the rows that pass the filter on the bounds of its bucket. -/
lemma rows_eq_of_range {field : GroupField} {ranges : List RangeBucket}
    (h : child ∈ groupRows js rows ⟨field,.range ranges⟩) :
    ∃ filter, FilterSpec.OfGroup js ⟨field,.range ranges⟩ child filter ∧
      child.rows = matchingRows js rows [filter] := by
  obtain ⟨hmem,-⟩ := List.mem_filter.mp h
  obtain ⟨⟨range,index⟩,hrange,rfl⟩ := List.mem_map.mp hmem
  refine ⟨_,.range (List.mem_zipIdx_iff_getElem?.mp hrange) rfl,?_⟩
  rw [matchingRows]
  refine List.filter_congr fun row _ => ?_
  simp only [List.all_cons,List.all_nil,Bool.and_true,rowPassesFilter]
  rfl

/-- The tree depends on the ids of the root in its own ids only. -/
lemma sameButIds_buildNode (metrics : List MetricSpec) (groups : List GroupSpec)
    (id id' label : String) (field : Option GroupField) (rows : List GroupableRow) :
    (buildNode js metrics id label field rows groups).SameButIds
      (buildNode js metrics id' label field rows groups) := by
  induction groups generalizing id id' label field rows with
  | nil => exact .mk .nil
  | cons group remainingGroups ih =>
    refine .mk ?_
    rw [List.forall₂_map_left_iff,List.forall₂_map_right_iff,List.forall₂_same]
    exact fun child _ => ih _ _ _ _ _

lemma sameResults_node (metrics : List MetricSpec) {c c' : NodeCall} (hrows : c.rows = c'.rows)
    (hgroups : c.groups = c'.groups) :
    (c.node js metrics).SameResults (c'.node js metrics) := by
  obtain ⟨id,label,field,rows,groups⟩ := c
  obtain ⟨id',label',field',rows',groups'⟩ := c'
  obtain rfl : rows = rows' := hrows
  obtain rfl : groups = groups' := hgroups
  cases groups with
  | nil => exact ⟨rfl,rfl,rfl,.nil⟩
  | cons group remainingGroups =>
    refine ⟨rfl,rfl,rfl,?_⟩
    change List.Forall₂ _ (List.map _ _) (List.map _ _)
    rw [List.forall₂_map_left_iff,List.forall₂_map_right_iff,List.forall₂_same]
    exact fun child _ => sameButIds_buildNode metrics remainingGroups _ _ _ _ _

/-- The children of a call are the calls for the groups of its rows. -/
lemma NodeCall.mem_children {c c' : NodeCall} : c' ∈ c.children js ↔
    ∃ group remainingGroups, c.groups = group :: remainingGroups ∧
      ∃ child ∈ groupRows js c.rows group, c' = c.child group remainingGroups child := by
  unfold NodeCall.children
  split
  · rename_i hgroups
    simp [hgroups]
  · rename_i group remainingGroups hgroups
    rw [List.mem_map]
    constructor
    · rintro ⟨child,hchild,rfl⟩
      exact ⟨group,remainingGroups,hgroups,child,hchild,rfl⟩
    · rintro ⟨group',remainingGroups',hgroups',child,hchild,rfl⟩
      obtain ⟨rfl,rfl⟩ := List.cons.inj (hgroups.symm.trans hgroups')
      exact ⟨child,hchild,rfl⟩

/-- The groups above a call and its own are those of the root. -/
lemma NodeCall.Below.exists_above {root c : NodeCall} (h : root.Below js c) :
    ∃ groups, root.groups = groups ++ c.groups := by
  induction h with
  | root => exact ⟨[],rfl⟩
  | child _ mem ih =>
    obtain ⟨groups,habove⟩ := ih
    obtain ⟨group,remainingGroups,hgroups,child,-,rfl⟩ := NodeCall.mem_children.mp mem
    exact ⟨groups ++ [group],by rw [habove,hgroups,List.append_assoc]; rfl⟩

lemma NodeCall.below_of_path {root c : NodeCall} {filters : List FilterSpec}
    (h : root.Path js filters c) : root.Below js c := by
  induction h with
  | root => exact .root
  | child _ groups mem _ ih =>
    exact ih.child (NodeCall.mem_children.mpr ⟨_,_,groups,_,mem,rfl⟩)

/-- The last filter on the way to a call is for the group by which its rows were found. -/
lemma NodeCall.Path.exists_last {root c : NodeCall} {filters : List FilterSpec}
    {above : List GroupSpec} {group : GroupSpec} (h : root.Path js filters c)
    (habove : root.groups = above ++ group :: c.groups) :
    ∃ filter ∈ filters, ∃ child : RowGroup, child.rows = c.rows ∧
      FilterSpec.OfGroup js group child filter := by
  cases h with
  | root =>
    have hlength := congrArg List.length habove
    rw [List.length_append,List.length_cons] at hlength
    omega
  | @child filters c group' remainingGroups child filter path groups mem of =>
    obtain ⟨above',habove'⟩ := (NodeCall.below_of_path path).exists_above
    have hgroup : group' = group := by
      rw [habove,groups] at habove'
      have hcons := (List.append_inj' habove' rfl).2
      exact (List.cons.inj hcons).1.symm
    exact ⟨filter,by simp,child,rfl,hgroup ▸ of⟩

end Nodes

section DrillDown
variable {js : JsOrder} {rows : List GroupableRow} {query : ResearchQuery}
  {filters : List FilterSpec} {c c' : NodeCall}

lemma shownBy_root :
    (query.rootCall js rows).ShownBy js rows query [] :=
  ⟨.root,by rw [List.append_nil]; rfl⟩

/-- A child is shown by one filter more. -/
lemma NodeCall.ShownBy.child (h : c.ShownBy js rows query filters) (hclear : c.Clear js)
    (hchild : c' ∈ c.children js) : ∃ filter, c'.ShownBy js rows query (filters ++ [filter]) := by
  obtain ⟨group,remainingGroups,hgroups,child,hmem,rfl⟩ := NodeCall.mem_children.mp hchild
  have hfilter : ∃ filter, FilterSpec.OfGroup js group child filter ∧
      child.rows = matchingRows js c.rows [filter] := by
    obtain ⟨field,mode⟩ := group
    cases mode with
    | value => exact rows_eq_of_value (hclear field remainingGroups hgroups) hmem
    | range ranges => exact rows_eq_of_range hmem
  obtain ⟨filter,hof,hpass⟩ := hfilter
  refine ⟨filter,.child h.path hgroups hmem hof,?_⟩
  rw [← List.append_assoc,matchingRows_append,← h.rows]
  exact hpass

/-- Lookalikes are in one group, and no filter on a value has both. -/
lemma NodeCall.clear_of_children (hbelow : (query.rootCall js rows).Below js c)
    (h : ∀ c' ∈ c.children js, ∃ filters, c'.ShownBy js rows query filters) : c.Clear js := by
  intro field remainingGroups hgroups row hrow row' hrow' hlook
  obtain ⟨above,habove⟩ := hbelow.exists_above
  obtain ⟨child,hchild,hlabel⟩ := List.mem_map.mp
    (@mem_labels js c.rows ⟨field,.value⟩ rfl row hrow)
  have hrows := (rows_of_mem_groupRows rfl hchild).1
  have hmem : row ∈ child.rows := by
    rw [hrows]
    exact List.mem_filter.mpr ⟨hrow,by simpa using hlabel.symm⟩
  have hmem' : row' ∈ child.rows := by
    rw [hrows]
    refine List.mem_filter.mpr ⟨hrow',?_⟩
    rw [decide_eq_true_eq,hlabel]
    exact hlook.format_eq.symm
  have hnode := NodeCall.mem_children.mpr ⟨_,_,hgroups,child,hchild,rfl⟩
  obtain ⟨filters,hpath,hshown⟩ := h _ hnode
  -- the last filter is the one of the group of the lookalikes
  obtain ⟨filter,hfilter,_,-,hof⟩ := hpath.exists_last (habove.trans (by rw [hgroups]; rfl))
  cases hof with
  | @value _ _ first _ =>
    have hpass : ∀ row ∈ child.rows,
        normalizeComparable js.toJsNumbers (getFieldValue js row field) =
          normalizeComparable js.toJsNumbers (getFieldValue js first field) := by
      intro row hrow
      rw [show child.rows = _ from hshown] at hrow
      have hall := (List.mem_filter.mp hrow).2
      have := List.all_eq_true.mp hall _ (List.mem_append_right _ hfilter)
      simpa [rowPassesFilter] using this
    exact hlook.normalizeComparable_ne ((hpass row hmem).trans (hpass row' hmem').symm)

end DrillDown

/-- Each node of the tree shows what the query shows with one filter more for each group above the
node, on the value of the group or on the bounds of its bucket: exactly if no group by values has
rows without a value and rows whose value reads like the label of these. -/
theorem nodes_shownBy_filters_iff (js : JsOrder) (rows : List GroupableRow)
    (query : ResearchQuery) :
    (∀ c, (query.rootCall js rows).Below js c → ∃ filters, c.ShownBy js rows query filters) ↔
      ∀ c, (query.rootCall js rows).Below js c → c.Clear js := by
  constructor
  · intro h c hc
    exact NodeCall.clear_of_children hc fun c' hc' => h c' (hc.child hc')
  · intro hclear c hc
    induction hc with
    | root => exact ⟨[],shownBy_root⟩
    | @child c c' above mem ih =>
      obtain ⟨filters,hshown⟩ := ih
      obtain ⟨filter,hshown'⟩ := hshown.child (hclear c above) mem
      exact ⟨_,hshown'⟩

/-- A call that filters show has a node with the results of the query that has these filters. -/
theorem NodeCall.ShownBy.sameResults {js : JsOrder} {rows : List GroupableRow}
    {query : ResearchQuery} {filters : List FilterSpec} {c : NodeCall}
    (h : c.ShownBy js rows query filters) :
    (c.node js query.metrics).SameResults (evaluateResearchQuery js rows
      { query with filters := query.filters ++ filters, groups := c.groups }) :=
  sameResults_node query.metrics h.rows rfl

end LiveKBench.KArenaWeb
