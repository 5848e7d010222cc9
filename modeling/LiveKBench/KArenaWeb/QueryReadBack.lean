import LiveKBench.KArenaWeb.QueryBody
import Mathlib

/-! The query that goes back with the results is read back when it is sent again, but for numbers
that JSON has no text for. -/
namespace LiveKBench.KArenaWeb.QueryBody
open KArena Lib
open Lib.JsValue

/-! ## Fields and bounds -/

section Fields
variable {js : JsNumbers} {value : Option JsValue}

@[simp] lemma groupField?_text (field : GroupField) :
    groupField? (some (.str field.text)) = some field := by
  cases field <;> rfl

@[simp] lemma metricId?_metricId (id : ScoreKey) :
    metricId? (some (.str (metricId id))) = some id := by
  cases id <;> rfl

@[simp] lemma aggregation?_text (aggregation : Aggregation) :
    aggregation? (some (.str (aggregationText aggregation))) = some aggregation := by
  cases aggregation <;> rfl

lemma emptyToNull_emptyToNull (value : Option JsValue) :
    emptyToNull (emptyToNull value) = emptyToNull value := by
  rcases value with _ | (_ | _ | _ | s | _ | _)
  case some.str =>
    by_cases hs : s = ""
    · subst hs
      rfl
    · simp [emptyToNull,hs]
  all_goals rfl

lemma emptyToNull_written (h : emptyToNull value = value) :
    emptyToNull (value.map JsValue.written) = value.map JsValue.written := by
  rcases value with _ | (_ | _ | x | s | _ | _)
  case some.str => exact h
  case some.num => cases x <;> rfl
  all_goals rfl

lemma given_emptyToNull {v : JsValue} (h : ∀ v ∈ value, v.Given js) (hv : v ∈ emptyToNull value) :
    v.Given js := by
  rcases value with _ | (_ | _ | _ | s | _ | _)
  case some.str =>
    obtain rfl := Option.some.inj hv
    split <;> trivial
  all_goals exact h v hv

end Fields

/-! ## Filters -/

section Filters
variable {js : JsNumbers} {input : JsValue} {f f' : FilterSpec}

def FilterSpec.written (f : FilterSpec) : FilterSpec where
  field := f.field
  op := f.op.written
  value := f.value.map JsValue.written
  values := f.values.map (List.map JsValue.written)
  min := f.min.map JsValue.written
  max := f.max.map JsValue.written

lemma FilterSpec.toValue_written (f : FilterSpec) : f.toValue.written = f.written.toValue := by
  have hvalues : (f.values.map JsValue.arr).map JsValue.written =
      (f.values.map (List.map JsValue.written)).map JsValue.arr := by
    cases f.values with
    | none => rfl
    | some values => exact congrArg some (congrArg JsValue.arr (writtenItems_eq_map values))
  rw [FilterSpec.toValue,JsValue.written]
  simp only [writtenMembers_append,writtenMembers_member,hvalues]
  rfl

lemma FilterSpec.written_eq_iff : f.written = f ↔ ∀ v ∈ f.passedOn, v.Plain := by
  obtain ⟨field,op,value,values,min,max⟩ := f
  have hvalues : values.map (List.map JsValue.written) = values ↔
      ∀ v ∈ (values.map JsValue.arr).toList, v.Plain := by
    cases values with
    | none => simp
    | some values =>
      have hitems := JsValue.writtenItems_eq_iff values
      rw [writtenItems_eq_map] at hitems
      simpa [JsValue.Plain] using hitems
  simp only [FilterSpec.written,FilterSpec.mk.injEq,true_and,FilterSpec.passedOn,
    List.forall_mem_cons,List.forall_mem_append,JsValue.written_eq_iff,map_written_eq_iff,hvalues,
    Option.mem_toList,Option.mem_def,and_assoc]

/-- What is checked of a filter that has been passed on before. -/
lemma normalizeFilter_toValue (hmin : emptyToNull f.min = f.min) (hmax : emptyToNull f.max = f.max) :
    normalizeFilter js f.toValue = (do
      let text ← f.op.string js
      if text ∉ ["equals","in","range"] then .error "Invalid filter"
      else if f.op.text? = some "in" ∧ f.values.isNone then
        .error "Filter op 'in' requires values"
      else .ok f) := by
  rw [FilterSpec.toValue,normalizeFilter]
  simp [FilterSpec.passOn,hmin,hmax,itemsOf?_map_arr]

lemma accepted_of_normalizeFilter (hgiven : input.Given js) (h : normalizeFilter js input = .ok f) :
    f.Accepted js := by
  unfold normalizeFilter at h
  split at h
  · rename_i members
    split at h
    · rename_i field op hfield hop
      obtain ⟨text,htext,h⟩ := bind_eq_ok_iff.mp h
      split_ifs at h with hknown hvalues
      obtain rfl := Except.ok.inj h
      have hproperty : ∀ name, ∀ v ∈ property name members, v.Given js :=
        fun name v hv => given_of_property hgiven.2 hv
      refine ⟨⟨text,hknown,htext⟩,fun hin => ?_,emptyToNull_emptyToNull _,
        emptyToNull_emptyToNull _,?_⟩
      · by_contra hnone
        exact hvalues ⟨hin,by simpa [FilterSpec.passOn] using hnone⟩
      · have hlist : ∀ v ∈ (itemsOf? (property "values" members)).map JsValue.arr, v.Given js := by
          intro v hv
          obtain ⟨items,hitems,rfl⟩ := Option.map_eq_some_iff.mp hv
          obtain ⟨w,hw,hitems⟩ := Option.bind_eq_some_iff.mp hitems
          have hgivenw := hproperty "values" w hw
          cases w with
          | arr items' =>
            obtain rfl := Option.some.inj hitems
            exact hgivenw
          | _ => cases hitems
        simp only [FilterSpec.passedOn,FilterSpec.passOn,List.forall_mem_cons,
          List.forall_mem_append,Option.mem_toList]
        exact ⟨hproperty "op" op hop,⟨⟨hproperty "value",hlist⟩,
          fun v hv => given_emptyToNull (hproperty "min") hv⟩,
          fun v hv => given_emptyToNull (hproperty "max") hv⟩
    · cases h
  · cases h

lemma normalizeFilter_of_accepted (h : f.Accepted js) : normalizeFilter js f.toValue = .ok f := by
  obtain ⟨text,hknown,htext⟩ := h.op
  have hvalues : ¬(f.op.text? = some "in" ∧ f.values.isNone) := by
    rintro ⟨hin,hnone⟩
    have hsome := h.values hin
    rw [Option.isNone_iff_eq_none.mp hnone] at hsome
    cases hsome
  rw [normalizeFilter_toValue h.min h.max,htext]
  exact (if_neg (not_not.mpr hknown)).trans (if_neg hvalues)

lemma eq_of_normalizeFilter (hmin : emptyToNull f.min = f.min) (hmax : emptyToNull f.max = f.max)
    (h : normalizeFilter js f.toValue = .ok f') : f' = f := by
  rw [normalizeFilter_toValue hmin hmax] at h
  obtain ⟨text,-,h⟩ := bind_eq_ok_iff.mp h
  split_ifs at h
  exact (Except.ok.inj h).symm

lemma FilterSpec.Accepted.given_toValue (h : f.Accepted js) : f.toValue.Given js := by
  have hgiven := h.given
  simp only [FilterSpec.passedOn,List.forall_mem_cons,List.forall_mem_append,
    Option.mem_toList] at hgiven
  obtain ⟨hop,⟨⟨hvalue,hvalues⟩,hmin⟩,hmax⟩ := hgiven
  constructor
  · have hnames : (["field","op","value","values","min","max"] : List String).Nodup := by decide
    refine hnames.sublist ?_
    simp only [List.map_append]
    exact ((((names_member.append names_member).append names_member).append
      names_member).append names_member).append names_member
  · refine givenMembers_append (givenMembers_append (givenMembers_append (givenMembers_append
      (givenMembers_append ?_ ?_) ?_) ?_) ?_) ?_
    · exact givenMembers_member fun v hv => by cases hv; trivial
    · exact givenMembers_member fun v hv => by cases hv; exact hop
    · exact givenMembers_member hvalue
    · exact givenMembers_member hvalues
    · exact givenMembers_member hmin
    · exact givenMembers_member hmax

end Filters

/-! ## Groups -/

section Groups
variable {js : JsNumbers} {input : JsValue} {r r' : RangeBucket} {g g' : GroupSpec}

def RangeBucket.written (r : RangeBucket) : RangeBucket :=
  ⟨r.label,r.min.map JsValue.written,r.max.map JsValue.written⟩

lemma RangeBucket.toValue_written (r : RangeBucket) : r.toValue.written = r.written.toValue := by
  rw [RangeBucket.toValue,JsValue.written]
  simp only [writtenMembers_append,writtenMembers_member]
  rfl

lemma RangeBucket.written_eq_iff : r.written = r ↔ ∀ v ∈ r.passedOn, v.Plain := by
  obtain ⟨label,min,max⟩ := r
  simp only [RangeBucket.written,RangeBucket.mk.injEq,true_and,RangeBucket.passedOn,
    List.forall_mem_append,map_written_eq_iff,Option.mem_toList,Option.mem_def]

lemma normalizeRange_toValue (hmin : emptyToNull r.min = r.min) (hmax : emptyToNull r.max = r.max) :
    normalizeRange r.toValue = .ok r := by
  rw [RangeBucket.toValue,normalizeRange]
  simp [JsValue.text?,hmin,hmax]

lemma accepted_of_normalizeRange (hgiven : input.Given js) (h : normalizeRange input = .ok r) :
    r.Accepted js := by
  unfold normalizeRange at h
  split at h
  · rename_i members
    split at h
    · obtain rfl := Except.ok.inj h
      have hproperty : ∀ name, ∀ v ∈ property name members, v.Given js :=
        fun name v hv => given_of_property hgiven.2 hv
      refine ⟨emptyToNull_emptyToNull _,emptyToNull_emptyToNull _,?_⟩
      simp only [RangeBucket.passedOn,List.forall_mem_append,Option.mem_toList]
      exact ⟨fun v hv => given_emptyToNull (hproperty "min") hv,
        fun v hv => given_emptyToNull (hproperty "max") hv⟩
    · cases h
  · cases h

lemma RangeBucket.Accepted.given_toValue (h : r.Accepted js) : r.toValue.Given js := by
  have hgiven := h.given
  simp only [RangeBucket.passedOn,List.forall_mem_append,Option.mem_toList] at hgiven
  constructor
  · have hnames : (["label","min","max"] : List String).Nodup := by decide
    refine hnames.sublist ?_
    simp only [List.map_append]
    exact (names_member.append names_member).append names_member
  · refine givenMembers_append (givenMembers_append ?_ ?_) ?_
    · exact givenMembers_member fun v hv => by cases hv; trivial
    · exact givenMembers_member hgiven.1
    · exact givenMembers_member hgiven.2

def GroupSpec.written (g : GroupSpec) : GroupSpec :=
  ⟨g.field,g.mode.written,g.ranges.map (List.map RangeBucket.written)⟩

lemma GroupSpec.toValue_written (g : GroupSpec) : g.toValue.written = g.written.toValue := by
  have hranges : (g.ranges.map fun ranges => JsValue.arr (ranges.map RangeBucket.toValue)).map
      JsValue.written = (g.ranges.map (List.map RangeBucket.written)).map
        fun ranges => JsValue.arr (ranges.map RangeBucket.toValue) := by
    cases g.ranges with
    | none => rfl
    | some ranges =>
      exact congrArg some (congrArg JsValue.arr (writtenItems_map RangeBucket.toValue_written ranges))
  rw [GroupSpec.toValue,JsValue.written]
  simp only [writtenMembers_append,writtenMembers_member,hranges]
  rfl

lemma GroupSpec.written_eq_iff : g.written = g ↔ ∀ v ∈ g.passedOn, v.Plain := by
  obtain ⟨field,mode,ranges⟩ := g
  have hranges : ranges.map (List.map RangeBucket.written) = ranges ↔
      ∀ v ∈ (ranges.getD []).flatMap RangeBucket.passedOn, v.Plain := by
    cases ranges with
    | none => simp
    | some ranges =>
      simp only [Option.map_some,Option.some.injEq,map_eq_iff,RangeBucket.written_eq_iff,
        Option.getD_some,List.mem_flatMap]
      exact ⟨fun h v ⟨r,hr,hv⟩ => h r hr v hv,fun h r hr v hv => h v ⟨r,hr,hv⟩⟩
  simp only [GroupSpec.written,GroupSpec.mk.injEq,true_and,GroupSpec.passedOn,
    List.forall_mem_cons,JsValue.written_eq_iff,hranges]

/-- The bounds of the buckets are those that `emptyToNull` returns. -/
def GroupSpec.Normal (g : GroupSpec) : Prop := ∀ ranges, g.ranges = some ranges →
  ∀ range ∈ ranges, emptyToNull range.min = range.min ∧ emptyToNull range.max = range.max

lemma normalizeGroup_toValue (h : g.Normal) : normalizeGroup js g.toValue = (do
    let text ← g.mode.string js
    if text ∉ ["value","range"] then .error "Invalid group"
    else if g.mode.text? = some "range" ∧ g.ranges.all List.isEmpty then
      .error "Range groups require at least one range"
    else .ok g) := by
  obtain ⟨field,mode,ranges⟩ := g
  have hranges : normalizeRanges (ranges.map fun ranges => ranges.map RangeBucket.toValue) =
      .ok ranges := by
    cases ranges with
    | none => rfl
    | some ranges =>
      have hmap : (ranges.map RangeBucket.toValue).mapM normalizeRange = .ok ranges :=
        mapM_map_toValue fun range hrange =>
          normalizeRange_toValue (h ranges rfl range hrange).1 (h ranges rfl range hrange).2
      rw [Option.map_some,normalizeRanges,hmap]
      rfl
  have harray : itemsOf? (ranges.map fun ranges => .arr (ranges.map RangeBucket.toValue)) =
      ranges.map fun ranges => ranges.map RangeBucket.toValue := by
    cases ranges <;> rfl
  rw [GroupSpec.toValue,normalizeGroup]
  simp only [property_append,property_member,String.reduceEq,if_true,if_false,Option.or_none,
    Option.none_or,groupField?_text,harray,hranges]
  rfl

lemma accepted_of_normalizeGroup (hgiven : input.Given js) (h : normalizeGroup js input = .ok g) :
    g.Accepted js := by
  unfold normalizeGroup at h
  split at h
  · rename_i members
    split at h
    · rename_i field mode hfield hmode
      obtain ⟨text,htext,h⟩ := bind_eq_ok_iff.mp h
      split_ifs at h with hknown
      obtain ⟨ranges,hranges,h⟩ := bind_eq_ok_iff.mp h
      split_ifs at h with hsome
      obtain rfl := Except.ok.inj h
      refine ⟨⟨text,hknown,htext⟩,fun hrange => ?_,?_,given_of_property hgiven.2 hmode⟩
      · have hne : ¬ranges.all List.isEmpty := fun hempty => hsome ⟨hrange,hempty⟩
        rcases ranges with _ | (_ | ⟨range,ranges⟩)
        · exact absurd rfl hne
        · exact absurd rfl hne
        · exact ⟨range,ranges,rfl⟩
      · rintro ranges rfl
        unfold normalizeRanges at hranges
        split at hranges
        · rename_i items hitems
          obtain ⟨buckets,hmap,heq⟩ := bind_eq_ok_iff.mp hranges
          obtain rfl := Option.some.inj (Except.ok.inj heq)
          obtain ⟨v,hv,hitems⟩ := Option.bind_eq_some_iff.mp hitems
          have hgivenv := given_of_property hgiven.2 hv
          cases v with
          | arr items' =>
            obtain rfl := Option.some.inj hitems
            have hitem := JsValue.givenItems_iff.mp hgivenv
            exact forall_of_mapM (fun input hinput r hr =>
              accepted_of_normalizeRange (hitem input hinput) hr) hmap
          | _ => cases hitems
        · cases hranges
    · cases h
  · cases h

lemma GroupSpec.Accepted.normal (h : g.Accepted js) : g.Normal := fun ranges hranges range hrange =>
  ⟨(h.each ranges hranges range hrange).min,(h.each ranges hranges range hrange).max⟩

lemma GroupSpec.Normal.written (h : g.Normal) : g.written.Normal := by
  intro ranges hranges range hrange
  obtain ⟨ranges',hranges',rfl⟩ := Option.map_eq_some_iff.mp hranges
  obtain ⟨range',hrange',rfl⟩ := List.mem_map.mp hrange
  obtain ⟨hmin,hmax⟩ := h ranges' hranges' range' hrange'
  exact ⟨emptyToNull_written hmin,emptyToNull_written hmax⟩

lemma normalizeGroup_of_accepted (h : g.Accepted js) : normalizeGroup js g.toValue = .ok g := by
  obtain ⟨text,hknown,htext⟩ := h.mode
  have hsome : ¬(g.mode.text? = some "range" ∧ g.ranges.all List.isEmpty) := by
    rintro ⟨hrange,hempty⟩
    obtain ⟨range,rest,hranges⟩ := h.ranges hrange
    rw [hranges] at hempty
    cases hempty
  rw [normalizeGroup_toValue h.normal,htext]
  exact (if_neg (not_not.mpr hknown)).trans (if_neg hsome)

lemma eq_of_normalizeGroup (hnormal : g.Normal) (h : normalizeGroup js g.toValue = .ok g') :
    g' = g := by
  rw [normalizeGroup_toValue hnormal] at h
  obtain ⟨text,-,h⟩ := bind_eq_ok_iff.mp h
  split_ifs at h
  exact (Except.ok.inj h).symm

lemma GroupSpec.Accepted.given_toValue (h : g.Accepted js) : g.toValue.Given js := by
  constructor
  · have hnames : (["field","mode","ranges"] : List String).Nodup := by decide
    refine hnames.sublist ?_
    simp only [List.map_append]
    exact (names_member.append names_member).append names_member
  · refine givenMembers_append (givenMembers_append ?_ ?_) ?_
    · exact givenMembers_member fun v hv => by cases hv; trivial
    · exact givenMembers_member fun v hv => by cases hv; exact h.given
    · refine givenMembers_member fun v hv => ?_
      obtain ⟨ranges,hranges,rfl⟩ := Option.map_eq_some_iff.mp hv
      refine JsValue.givenItems_iff.mpr fun item hitem => ?_
      obtain ⟨range,hrange,rfl⟩ := List.mem_map.mp hitem
      exact (h.each ranges hranges range hrange).given_toValue

end Groups

/-! ## Metrics -/

section Metrics
variable {js : JsNumbers} {input : JsValue} {message : String} {value : Option JsValue} {n : ℕ}
  {m m' : MetricSpec}

lemma positiveInteger?_natCast (hn : 0 < n) : positiveInteger? (some (n : ℚ)) = some n := by
  simp [positiveInteger?,hn]

lemma eq_of_positiveInteger? {x : Option ℚ} (h : positiveInteger? x = some n) :
    x = some (n : ℚ) ∧ 0 < n := by
  obtain ⟨q,rfl,h⟩ := Option.bind_eq_some_iff.mp h
  obtain ⟨⟨hden,hpos⟩,hnat⟩ := Option.ite_none_right_eq_some.mp h
  obtain rfl := Option.some.inj hnat
  refine ⟨congrArg some ?_,by omega⟩
  have hq : q = q.num := (Rat.den_eq_one_iff q).mp hden |>.symm
  have hnum : (q.num : ℚ) = (q.num.toNat : ℚ) := by
    rw [← Int.cast_natCast,Int.toNat_of_nonneg hpos.le]
  exact hq.trans hnum

lemma positive_natValue (hn : 0 < n) : positive js message (some (natValue n)) = .ok n := by
  have hnumber : toNumber js (some (natValue n)) = .ok (some (n : ℚ)) := rfl
  rw [positive,hnumber]
  simp only [bind,Except.bind,positiveInteger?_natCast hn]

/-- A number that a value was read as is the number of some text. -/
lemma reads_of_positive (hgiven : ∀ v ∈ value, v.Given js)
    (h : positive js message value = .ok n) : Reads js n := by
  obtain ⟨x,hx,h⟩ := bind_eq_ok_iff.mp h
  split at h
  · cases h
  rename_i n' hn
  obtain rfl := Except.ok.inj h
  obtain ⟨rfl,hpos⟩ := eq_of_positiveInteger? hn
  refine ⟨hpos,?_⟩
  cases value with
  | none => cases hx
  | some v =>
    obtain ⟨y,hy,hx⟩ := bind_eq_ok_iff.mp hx
    have hfinite : y = .finite n' := by
      cases y with
      | finite q => exact congrArg JsNumber.finite (Option.some.inj (Except.ok.inj hx))
      | negZero =>
        have hzero : (0 : ℚ) = n' := Option.some.inj (Except.ok.inj hx)
        exact absurd (Nat.cast_eq_zero.mp hzero.symm) hpos.ne'
      | _ => cases hx
    subst hfinite
    have hread : ∀ v : JsValue, (do
        let text ← v.string js
        .ok (js.parse text)) = Except.ok (JsNumber.finite n') →
        ∃ s, js.parse s = .finite n' := by
      intro v hv
      obtain ⟨text,-,htext⟩ := bind_eq_ok_iff.mp hv
      exact ⟨text,Except.ok.inj htext⟩
    cases v with
    | null =>
      have hzero : (0 : ℚ) = n' := JsNumber.finite.inj (Except.ok.inj hy)
      exact absurd (Nat.cast_eq_zero.mp hzero.symm) hpos.ne'
    | bool b =>
      have hb := Except.ok.inj hy
      cases b with
      | false =>
        have hzero : (0 : ℚ) = n' := JsNumber.finite.inj hb
        exact absurd (Nat.cast_eq_zero.mp hzero.symm) hpos.ne'
      | true => exact ⟨"1",js.parse_one.trans hb⟩
    | num x =>
      obtain ⟨text,htext⟩ := hgiven _ rfl
      exact ⟨_,htext.trans (Except.ok.inj hy)⟩
    | str s => exact ⟨s,Except.ok.inj hy⟩
    | arr items => exact hread _ hy
    | obj members => exact hread _ hy

lemma Reads.given (h : Reads js n) : (natValue n).Given js := by
  obtain ⟨-,s,hs⟩ := h
  exact ⟨js.text n,js.parse_text s n hs⟩

lemma metricValue_written (m : MetricSpec) : (metricValue m).written = metricValue m := by
  obtain ⟨id,aggregation,k,judgeName⟩ := m
  cases judgeName <;> rfl

lemma normalizeMetric_metricValue (hk : 0 < m.k) (hjudge : m.judgeName ≠ some "") :
    normalizeMetric js (metricValue m) = .ok m := by
  obtain ⟨id,aggregation,k,judgeName⟩ := m
  have hname : ((judgeName.map JsValue.str).bind JsValue.text?).filter (· ≠ "") = judgeName := by
    cases judgeName with
    | none => rfl
    | some s =>
      have hs : s ≠ "" := fun hs => hjudge (congrArg some hs)
      simp [JsValue.text?,hs]
  rw [metricValue,normalizeMetric]
  simp only [property_append,property_member,String.reduceEq,if_true,if_false,Option.or_none,
    Option.none_or,metricId?_metricId,aggregation?_text,positive_natValue hk,hname]
  rfl

lemma accepted_of_normalizeMetric (hgiven : input.Given js) (h : normalizeMetric js input = .ok m) :
    MetricAccepted js m := by
  unfold normalizeMetric at h
  split at h
  · split at h
    · obtain ⟨k,hk,h⟩ := bind_eq_ok_iff.mp h
      obtain rfl := Except.ok.inj h
      refine ⟨reads_of_positive (fun v hv => given_of_property hgiven.2 hv) hk,fun hname => ?_⟩
      obtain ⟨-,hne⟩ := Option.filter_eq_some_iff.mp hname
      simp at hne
    · cases h
  · cases h

lemma MetricAccepted.given_metricValue (h : MetricAccepted js m) : (metricValue m).Given js := by
  constructor
  · have hnames : (["id","aggregation","k","judgeName"] : List String).Nodup := by decide
    refine hnames.sublist ?_
    simp only [List.map_append]
    exact ((names_member.append names_member).append names_member).append names_member
  · refine givenMembers_append (givenMembers_append (givenMembers_append ?_ ?_) ?_) ?_
    · exact givenMembers_member fun v hv => by cases hv; trivial
    · exact givenMembers_member fun v hv => by cases hv; trivial
    · exact givenMembers_member fun v hv => by cases hv; exact h.k.given
    · refine givenMembers_member fun v hv => ?_
      obtain ⟨s,-,rfl⟩ := Option.map_eq_some_iff.mp hv
      trivial

end Metrics

/-! ## Queries -/

section Queries
variable {js : JsNumbers} {input : JsValue} {q q' : ResearchQuery}

def ResearchQuery.written (q : ResearchQuery) : ResearchQuery :=
  { q with filters := q.filters.map FilterSpec.written, groups := q.groups.map GroupSpec.written }

lemma ResearchQuery.toValue_written (q : ResearchQuery) :
    q.toValue.written = q.written.toValue := by
  have hlist : ∀ items items', JsValue.writtenItems items = items' →
      (some (JsValue.arr items)).map JsValue.written = some (JsValue.arr items') :=
    fun items items' h => congrArg some (congrArg JsValue.arr h)
  have hmetrics : writtenItems (q.metrics.map metricValue) = q.metrics.map metricValue := by
    rw [writtenItems_eq_map,map_eq_iff,List.forall_mem_map]
    exact fun m _ => metricValue_written m
  rw [ResearchQuery.toValue,JsValue.written]
  simp only [writtenMembers_append,writtenMembers_member,hlist _ _ hmetrics,
    hlist _ _ (writtenItems_map FilterSpec.toValue_written q.filters),
    hlist _ _ (writtenItems_map GroupSpec.toValue_written q.groups)]
  rfl

lemma ResearchQuery.written_eq_iff : q.written = q ↔ q.Plain := by
  obtain ⟨datasetId,filters,groups,metrics⟩ := q
  simp only [ResearchQuery.written,ResearchQuery.mk.injEq,true_and,and_true,map_eq_iff,
    ResearchQuery.Plain,FilterSpec.written_eq_iff,GroupSpec.written_eq_iff]

/-- The bounds of the filters and buckets are those that `emptyToNull` returns. -/
structure ResearchQuery.Normal (q : ResearchQuery) : Prop where
  filters : ∀ f ∈ q.filters, emptyToNull f.min = f.min ∧ emptyToNull f.max = f.max
  groups : ∀ g ∈ q.groups, g.Normal

lemma ResearchQuery.Normal.written (h : q.Normal) : q.written.Normal := by
  constructor
  · intro f hf
    obtain ⟨f',hf',rfl⟩ := List.mem_map.mp hf
    exact ⟨emptyToNull_written (h.filters f' hf').1,emptyToNull_written (h.filters f' hf').2⟩
  · intro g hg
    obtain ⟨g',hg',rfl⟩ := List.mem_map.mp hg
    exact (h.groups g' hg').written

lemma normalizeResearchQuery_toValue : normalizeResearchQuery js q.toValue = (do
    let datasetId ← positive js "datasetId must be a positive integer" (some (natValue q.datasetId))
    let filters ← (q.filters.map FilterSpec.toValue).mapM (normalizeFilter js)
    let groups ← (q.groups.map GroupSpec.toValue).mapM (normalizeGroup js)
    let metrics ← (q.metrics.map metricValue).mapM (normalizeMetric js)
    if metrics.isEmpty then .error "At least one metric is required"
    else .ok ⟨datasetId,filters,groups,metrics⟩) := by
  rw [ResearchQuery.toValue,normalizeResearchQuery]
  simp only [property_append,property_member,String.reduceEq,if_true,if_false,Option.or_none,
    Option.none_or]
  rfl

/-- A query is read from a value that says it, and from no other one of its kind. -/
lemma normalizeResearchQuery_of_accepted (h : q.Accepted js) :
    normalizeResearchQuery js q.toValue = .ok q := by
  have hfilters : (q.filters.map FilterSpec.toValue).mapM (normalizeFilter js) = .ok q.filters :=
    mapM_map_toValue fun f hf => normalizeFilter_of_accepted (h.filters f hf)
  have hgroups : (q.groups.map GroupSpec.toValue).mapM (normalizeGroup js) = .ok q.groups :=
    mapM_map_toValue fun g hg => normalizeGroup_of_accepted (h.groups g hg)
  have hmetrics : (q.metrics.map metricValue).mapM (normalizeMetric js) = .ok q.metrics :=
    mapM_map_toValue fun m hm =>
      normalizeMetric_metricValue (h.metrics m hm).k.1 (h.metrics m hm).judgeName
  have hsome : ¬q.metrics.isEmpty := by simpa using h.measured
  rw [normalizeResearchQuery_toValue,positive_natValue h.datasetId.1,hfilters,hgroups,hmetrics]
  exact if_neg hsome

lemma eq_of_normalizeResearchQuery (hnormal : q.Normal)
    (hmetrics : ∀ m ∈ q.metrics, MetricAccepted js m) (hdataset : 0 < q.datasetId)
    (h : normalizeResearchQuery js q.toValue = .ok q') : q' = q := by
  rw [normalizeResearchQuery_toValue,positive_natValue hdataset] at h
  obtain ⟨datasetId,hdatasetId,h⟩ := bind_eq_ok_iff.mp h
  obtain rfl := Except.ok.inj hdatasetId
  obtain ⟨filters,hfilters,h⟩ := bind_eq_ok_iff.mp h
  obtain ⟨groups,hgroups,h⟩ := bind_eq_ok_iff.mp h
  obtain ⟨metrics,hmap,h⟩ := bind_eq_ok_iff.mp h
  split_ifs at h
  obtain rfl := Except.ok.inj h
  have hsame : (q.metrics.map metricValue).mapM (normalizeMetric js) = .ok q.metrics :=
    mapM_map_toValue fun m hm =>
      normalizeMetric_metricValue (hmetrics m hm).k.1 (hmetrics m hm).judgeName
  rw [eq_of_mapM_map_toValue (fun f hf f' =>
      eq_of_normalizeFilter (hnormal.filters f hf).1 (hnormal.filters f hf).2) hfilters,
    eq_of_mapM_map_toValue (fun g hg g' => eq_of_normalizeGroup (hnormal.groups g hg)) hgroups,
    Except.ok.inj (hmap.symm.trans hsame)]

lemma accepted_of_normalizeResearchQuery (hgiven : input.Given js)
    (h : normalizeResearchQuery js input = .ok q) : q.Accepted js := by
  unfold normalizeResearchQuery at h
  split at h
  · rename_i members
    obtain ⟨datasetId,hdataset,h⟩ := bind_eq_ok_iff.mp h
    obtain ⟨filters,hfilters,h⟩ := bind_eq_ok_iff.mp h
    obtain ⟨groups,hgroups,h⟩ := bind_eq_ok_iff.mp h
    obtain ⟨metrics,hmetrics,h⟩ := bind_eq_ok_iff.mp h
    split_ifs at h with hnone
    obtain rfl := Except.ok.inj h
    have hitem : ∀ name, ∀ item ∈ (itemsOf? (property name members)).getD [], item.Given js := by
      intro name item hitem
      cases harray : itemsOf? (property name members) with
      | none =>
        rw [harray] at hitem
        cases hitem
      | some items =>
        rw [harray] at hitem
        obtain ⟨v,hv,hitems⟩ := Option.bind_eq_some_iff.mp harray
        have hgivenv := given_of_property hgiven.2 hv
        cases v with
        | arr items' =>
          obtain rfl := Option.some.inj hitems
          exact JsValue.givenItems_iff.mp hgivenv item hitem
        | _ => cases hitems
    exact ⟨reads_of_positive (fun v hv => given_of_property hgiven.2 hv) hdataset,
      forall_of_mapM (fun item hmem f hf => accepted_of_normalizeFilter (hitem _ item hmem) hf)
        hfilters,
      forall_of_mapM (fun item hmem g hg => accepted_of_normalizeGroup (hitem _ item hmem) hg)
        hgroups,
      forall_of_mapM (fun item hmem m hm => accepted_of_normalizeMetric (hitem _ item hmem) hm)
        hmetrics,
      fun hnil => hnone (List.isEmpty_iff.mpr hnil)⟩
  · cases h

lemma ResearchQuery.Accepted.normal (h : q.Accepted js) : q.Normal :=
  ⟨fun f hf => ⟨(h.filters f hf).min,(h.filters f hf).max⟩,fun g hg => (h.groups g hg).normal⟩

lemma ResearchQuery.Accepted.given_toValue (h : q.Accepted js) : q.toValue.Given js := by
  have hlist : ∀ {α : Type} (as : List α) (toValue : α → JsValue),
      (∀ a ∈ as, (toValue a).Given js) → ∀ v ∈ some (JsValue.arr (as.map toValue)), v.Given js := by
    intro α as toValue has v hv
    obtain rfl := Option.some.inj hv
    refine JsValue.givenItems_iff.mpr fun item hitem => ?_
    obtain ⟨a,ha,rfl⟩ := List.mem_map.mp hitem
    exact has a ha
  constructor
  · have hnames : (["datasetId","filters","groups","metrics"] : List String).Nodup := by decide
    refine hnames.sublist ?_
    simp only [List.map_append]
    exact ((names_member.append names_member).append names_member).append names_member
  · refine givenMembers_append (givenMembers_append (givenMembers_append ?_ ?_) ?_) ?_
    · exact givenMembers_member fun v hv => by cases hv; exact h.datasetId.given
    · exact givenMembers_member (hlist _ _ fun f hf => (h.filters f hf).given_toValue)
    · exact givenMembers_member (hlist _ _ fun g hg => (h.groups g hg).given_toValue)
    · exact givenMembers_member (hlist _ _ fun m hm => (h.metrics m hm).given_metricValue)

end Queries

/-- The queries read from some body are the accepted ones, and each of them is read back from the
response exactly if none of its numbers is infinite or a negative zero. -/
theorem accepted_iff_readBack (js : JsNumbers) (q : ResearchQuery) :
    ((∃ body, readQuery js body = .ok q) ↔ q.Accepted js) ∧
      (q.Accepted js → (readQuery js (q.serialize js) = .ok q ↔ q.Plain)) := by
  refine ⟨⟨?_,fun h => ?_⟩,fun h => ?_⟩
  · rintro ⟨body,hbody⟩
    exact accepted_of_normalizeResearchQuery (JsValue.given_ofJson body) hbody
  · obtain ⟨body,hbody⟩ := JsValue.exists_ofJson q.toValue h.given_toValue
    exact ⟨body,by rw [readQuery,hbody,normalizeResearchQuery_of_accepted h]⟩
  · rw [readQuery,ResearchQuery.serialize,JsValue.ofJson_toJson _ h.given_toValue,
      q.toValue_written,← ResearchQuery.written_eq_iff]
    constructor
    · intro hback
      exact (eq_of_normalizeResearchQuery h.normal.written h.metrics h.datasetId.1 hback).symm
    · intro hsame
      rw [hsame]
      exact normalizeResearchQuery_of_accepted h

end LiveKBench.KArenaWeb.QueryBody
