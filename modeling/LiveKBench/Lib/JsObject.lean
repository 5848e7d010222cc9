import LiveKBench.Lib.JsValue
import LiveKBench.Lib.Traverse

/-! Objects that a JavaScript program builds and writes to JSON, member by member, and reads back. -/
namespace LiveKBench.Lib.JsValue

/-- `object.name`. -/
def property (name : String) (members : List (String × JsValue)) : Option JsValue :=
  members.lookup name

/-- The items of a member that is an array. -/
def itemsOf? (value : Option JsValue) : Option (List JsValue) := value.bind array?

/-- A member of a serialized object; one that is undefined is left out. -/
def member (name : String) : Option JsValue → List (String × JsValue)
  | some value => [(name,value)]
  | none => []

section Members
variable {js : JsNumbers} {name name' : String} {value : Option JsValue}
  {members members' : List (String × JsValue)}

@[simp] lemma property_append :
    property name (members ++ members') = (property name members).or (property name members') :=
  List.lookup_append

@[simp] lemma property_member :
    property name (member name' value) = if name' = name then value else none := by
  cases value with
  | none => exact (ite_self none).symm
  | some v =>
    by_cases h : name' = name
    · subst h
      simp [property,member]
    · simp [property,member,h,List.lookup_cons,beq_false_of_ne (Ne.symm h)]

lemma writtenMembers_append :
    writtenMembers (members ++ members') =
      writtenMembers members ++ writtenMembers members' := by
  induction members with
  | nil => rfl
  | cons member members ih => exact congrArg (_ :: ·) ih

lemma writtenMembers_member :
    writtenMembers (member name value) = member name (value.map written) := by
  cases value <;> rfl

lemma writtenItems_eq_map (items : List JsValue) :
    writtenItems items = items.map written := by
  induction items with
  | nil => rfl
  | cons item items ih => exact congrArg (item.written :: ·) ih

lemma given_of_property {v : JsValue} (h : GivenMembers js members)
    (hv : property name members = some v) : v.Given js := by
  obtain ⟨before,after,rfl,-⟩ := List.lookup_eq_some_iff.mp hv
  exact givenMembers_iff.mp h (name,v) (by simp)

lemma givenMembers_append (h : GivenMembers js members)
    (h' : GivenMembers js members') : GivenMembers js (members ++ members') := by
  rw [givenMembers_iff] at h h' ⊢
  exact List.forall_mem_append.mpr ⟨h,h'⟩

lemma givenMembers_member (h : ∀ v ∈ value, v.Given js) :
    GivenMembers js (member name value) := by
  cases value with
  | none => trivial
  | some v => exact ⟨h v rfl,trivial⟩

lemma names_member : ((member name value).map Prod.fst).Sublist [name] := by
  cases value with
  | none => exact List.nil_sublist _
  | some v => exact List.Sublist.refl _

lemma itemsOf?_map_arr (items : Option (List JsValue)) : itemsOf? (items.map .arr) = items := by
  cases items <;> rfl

lemma map_written_eq_iff {value : Option JsValue} :
    value.map written = value ↔ ∀ v ∈ value, v.Plain := by
  cases value with
  | none => simp
  | some v => simp [written_eq_iff]

end Members

section Lists
variable {α : Type} {normalize : JsValue → Except String α} {toValue : α → JsValue}

/-- What holds of the results of the entries holds of those of the list. -/
lemma forall_of_mapM {P : α → Prop} {inputs : List JsValue} {as : List α}
    (hP : ∀ input ∈ inputs, ∀ a, normalize input = .ok a → P a)
    (h : inputs.mapM normalize = .ok as) : ∀ a ∈ as, P a := by
  intro a ha
  obtain ⟨input,hmem,hinput⟩ := exists_left_of_forall₂ (mapM_eq_ok_iff.mp h) ha
  exact hP input hmem a hinput

/-- A list is read back where its entries are. -/
lemma mapM_map_toValue {as : List α} (h : ∀ a ∈ as, normalize (toValue a) = .ok a) :
    (as.map toValue).mapM normalize = .ok as := by
  rw [mapM_eq_ok_iff,List.forall₂_map_left_iff,List.forall₂_same]
  exact h

/-- A list is read back as no other one where its entries are not. -/
lemma eq_of_mapM_map_toValue {as as' : List α}
    (h : ∀ a ∈ as, ∀ a', normalize (toValue a) = .ok a' → a' = a)
    (hmap : (as.map toValue).mapM normalize = .ok as') : as' = as := by
  rw [mapM_eq_ok_iff,List.forall₂_map_left_iff] at hmap
  induction hmap with
  | nil => rfl
  | cons ha _ ih =>
    rw [h _ List.mem_cons_self _ ha,ih fun a ha => h a (List.mem_cons_of_mem _ ha)]

lemma writtenItems_map {written : α → α} (h : ∀ a, (toValue a).written = toValue (written a))
    (as : List α) : writtenItems (as.map toValue) = (as.map written).map toValue := by
  rw [writtenItems_eq_map,List.map_map,List.map_map]
  exact List.map_congr_left fun a _ => h a

lemma map_eq_iff {written : α → α} {as : List α} :
    as.map written = as ↔ ∀ a ∈ as, written a = a := by
  induction as with
  | nil => simp
  | cons a as ih => rw [List.map_cons,List.cons.injEq,ih,List.forall_mem_cons]

end Lists

end LiveKBench.Lib.JsValue
