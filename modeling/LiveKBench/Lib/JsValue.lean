import LiveKBench.Lib.Json
import Mathlib.Algebra.Order.Ring.Rat
import Mathlib.Data.List.Nodup

/-! The values of a JavaScript engine that JSON is read as and written from. A number that is too
large is infinite, and JSON has no text for it. -/
namespace LiveKBench.Lib

/-- Zero has a sign. -/
inductive JsNumber
  | finite (q : ℚ)
  | negZero
  | infinite (negative : Bool)
  | nan
  deriving DecidableEq, Repr

/-- A number that is finite, without the sign of zero. -/
def JsNumber.value? : JsNumber → Option ℚ
  | .finite q => some q
  | .negZero => some 0
  | _ => none

/-- How an engine reads numbers, and the text of a finite one. A number that some text is read as is
read back from its own text. -/
structure JsNumbers where
  parse : String → JsNumber
  text : ℚ → NumberText
  parse_zero : parse "0" = .finite 0
  parse_one : parse "1" = .finite 1
  parse_text : ∀ s q, parse s = .finite q → parse (.ofList (text q).chars) = .finite q

/-- An engine of which only the decimal digits are given. -/
def JsNumbers.decimal : JsNumbers where
  parse s := if areDigits s.toList then .finite (Nat.ofDigitChars 10 s.toList 0) else .nan
  text q := .ofInt q.num
  parse_zero := rfl
  parse_one := rfl
  parse_text := by
    intro s q h
    split_ifs at h
    obtain rfl := JsNumber.finite.inj h
    have htext : (NumberText.ofInt (Nat.ofDigitChars 10 s.toList 0)).chars =
        Nat.toDigits 10 (Nat.ofDigitChars 10 s.toList 0) := rfl
    rw [Rat.num_natCast,htext,String.toList_ofList,if_pos (areDigits_toDigits _),
      Nat.ofDigitChars_ten_toDigits]

/-- The members of an object are in the order in which they were set. -/
inductive JsValue
  | null
  | bool (b : Bool)
  | num (x : JsNumber)
  | str (s : String)
  | arr (items : List JsValue)
  | obj (members : List (String × JsValue))

/-- A member that is set again keeps its place. -/
def putFirst {α : Type} (name : String) (value : α) (members : List (String × α)) :
    List (String × α) :=
  (name,(members.lookup name).getD value) :: members.filter fun member => member.1 ≠ name

/-- `String(x)`. -/
def JsNumbers.string (js : JsNumbers) : JsNumber → String
  | .finite q => .ofList (js.text q).chars
  | .negZero => .ofList (js.text 0).chars
  | .infinite negative => if negative then "-Infinity" else "Infinity"
  | .nan => "NaN"

/-- The number that is left of one that was written to JSON; there may be none. -/
def JsNumber.written? : JsNumber → Option JsNumber
  | .finite q => some (.finite q)
  | .negZero => some (.finite 0)
  | _ => none

namespace JsValue
variable (js : JsNumbers)

mutual
/-- `JSON.parse`, of a text that is read already. -/
def ofJson : Json → JsValue
  | .null => .null
  | .bool b => .bool b
  | .num text => .num (js.parse (.ofList text.chars))
  | .str s => .str s
  | .arr items => .arr (ofItems items)
  | .obj members => .obj (ofMembers members)

def ofItems : List Json → List JsValue
  | [] => []
  | item :: items => ofJson item :: ofItems items

/-- Of several members with a name the last one counts. -/
def ofMembers : List (String × Json) → List (String × JsValue)
  | [] => []
  | (name,value) :: members => putFirst name (ofJson value) (ofMembers members)
end

mutual
/-- `JSON.stringify`, before it is printed. -/
def toJson : JsValue → Json
  | .null => .null
  | .bool b => .bool b
  | .num (.finite q) => .num (js.text q)
  | .num .negZero => .num (js.text 0)
  | .num _ => .null
  | .str s => .str s
  | .arr items => .arr (toItems items)
  | .obj members => .obj (toMembers members)

def toItems : List JsValue → List Json
  | [] => []
  | item :: items => toJson item :: toItems items

def toMembers : List (String × JsValue) → List (String × Json)
  | [] => []
  | (name,value) :: members => (name,toJson value) :: toMembers members
end

mutual
/-- What a value has become when it was written to JSON and read again. -/
def written : JsValue → JsValue
  | .null => .null
  | .bool b => .bool b
  | .num x => (x.written?.map JsValue.num).getD .null
  | .str s => .str s
  | .arr items => .arr (writtenItems items)
  | .obj members => .obj (writtenMembers members)

def writtenItems : List JsValue → List JsValue
  | [] => []
  | item :: items => written item :: writtenItems items

def writtenMembers : List (String × JsValue) → List (String × JsValue)
  | [] => []
  | (name,value) :: members => (name,written value) :: writtenMembers members
end

mutual
/-- A number is plain if it is finite and no negative zero. -/
def Plain : JsValue → Prop
  | .num x => ∃ q, x = .finite q
  | .arr items => PlainItems items
  | .obj members => PlainMembers members
  | _ => True

def PlainItems : List JsValue → Prop
  | [] => True
  | item :: items => Plain item ∧ PlainItems items

def PlainMembers : List (String × JsValue) → Prop
  | [] => True
  | (_,value) :: members => Plain value ∧ PlainMembers members
end

mutual
/-- A value that some JSON is read as. -/
def Given : JsValue → Prop
  | .num x => ∃ text : NumberText, js.parse (.ofList text.chars) = x
  | .arr items => GivenItems items
  | .obj members => (members.map Prod.fst).Nodup ∧ GivenMembers members
  | _ => True

def GivenItems : List JsValue → Prop
  | [] => True
  | item :: items => Given item ∧ GivenItems items

def GivenMembers : List (String × JsValue) → Prop
  | [] => True
  | (_,value) :: members => Given value ∧ GivenMembers members
end

/-- `typeof value === "string"`, with the text. -/
def text? : JsValue → Option String
  | .str s => some s
  | _ => none

def array? : JsValue → Option (List JsValue)
  | .arr items => some items
  | _ => none

mutual
/-- `String(value)`. A member `toString` of a value from JSON cannot be called. -/
def string : JsValue → Except String String
  | .null => .ok "null"
  | .bool b => .ok (if b then "true" else "false")
  | .num x => .ok (js.string x)
  | .str s => .ok s
  | .arr items => do
    let texts ← strings items
    .ok (String.intercalate "," texts)
  | .obj members =>
    if members.any fun member => member.1 = "toString" then
      .error "Cannot convert object to primitive value"
    else .ok "[object Object]"

/-- The entries of an array in its text: a null has none. -/
def strings : List JsValue → Except String (List String)
  | [] => .ok []
  | .null :: items => do
    let texts ← strings items
    .ok ("" :: texts)
  | item :: items => do
    let text ← string item
    let texts ← strings items
    .ok (text :: texts)
end

/-- `Number(value)` of a value that is there. -/
def number : JsValue → Except String JsNumber
  | .null => .ok (.finite 0)
  | .bool b => .ok (.finite (if b then 1 else 0))
  | .num x => .ok x
  | .str s => .ok (js.parse s)
  | v => do
    let text ← v.string js
    .ok (js.parse text)

end JsValue

/-! ## The texts of numbers -/

section Strings
variable (js : JsNumbers) (x : JsNumber)

/-- The text of a number has something in it, and no blank. -/
lemma JsNumbers.string_text :
    js.string x ≠ "" ∧ ' ' ∉ (js.string x).toList := by
  have hfinite : ∀ q, String.ofList (js.text q).chars ≠ "" ∧
      ' ' ∉ (String.ofList (js.text q).chars).toList := by
    intro q
    constructor
    · rw [ne_eq,String.ofList_eq_empty_iff]
      exact (js.text q).ne_nil
    · rw [String.toList_ofList]
      intro hblank
      have hnumber := (js.text q).all_number ' ' hblank
      cases hnumber
  have hword : ∀ word ∈ ["Infinity","-Infinity","NaN"], word ≠ "" ∧ ' ' ∉ word.toList := by
    decide
  cases x with
  | finite q => exact hfinite q
  | negZero => exact hfinite 0
  | infinite negative =>
    cases negative with
    | false => exact hword "Infinity" (by decide)
    | true => exact hword "-Infinity" (by decide)
  | nan => exact hword "NaN" (by decide)

end Strings

/-! ## Values that are written and read again -/

section PutFirst
variable {α : Type} {name : String} {value : α} {members : List (String × α)}

/-- A member of a new name comes before the others. -/
lemma putFirst_of_not_mem (h : name ∉ members.map Prod.fst) :
    putFirst name value members = (name,value) :: members := by
  have hnone : members.lookup name = none := by
    rw [List.lookup_eq_none_iff]
    intro member hmember
    rw [bne_iff_ne]
    rintro rfl
    exact h (List.mem_map_of_mem hmember)
  have hfilter : members.filter (fun member => member.1 ≠ name) = members := by
    rw [List.filter_eq_self]
    intro member hmember
    rw [decide_eq_true_eq]
    rintro rfl
    exact h (List.mem_map_of_mem hmember)
  rw [putFirst,hnone,hfilter,Option.getD_none]

lemma nodup_putFirst (h : (members.map Prod.fst).Nodup) :
    ((putFirst name value members).map Prod.fst).Nodup := by
  rw [putFirst,List.map_cons,List.nodup_cons]
  constructor
  · intro hmem
    obtain ⟨member,hmember,heq⟩ := List.mem_map.mp hmem
    exact absurd heq (by simpa using (List.mem_filter.mp hmember).2)
  · exact h.sublist (List.filter_sublist.map _)

lemma mem_of_mem_putFirst {member : String × α} (h : member ∈ putFirst name value members) :
    member.2 = value ∨ ∃ member' ∈ members, member.2 = member'.2 := by
  obtain rfl | hmember := List.mem_cons.mp h
  · cases hlookup : members.lookup name with
    | none => exact .inl rfl
    | some value' =>
      obtain ⟨before,after,rfl,-⟩ := List.lookup_eq_some_iff.mp hlookup
      exact .inr ⟨(name,value'),by simp,rfl⟩
  · exact .inr ⟨member,List.mem_of_mem_filter hmember,rfl⟩

end PutFirst

namespace JsValue
variable {js : JsNumbers}

lemma givenItems_iff {items : List JsValue} :
    GivenItems js items ↔ ∀ item ∈ items, Given js item := by
  induction items with
  | nil => simp [GivenItems]
  | cons item items ih => rw [GivenItems,ih,List.forall_mem_cons]

lemma givenMembers_iff {members : List (String × JsValue)} :
    GivenMembers js members ↔ ∀ member ∈ members, Given js member.2 := by
  induction members with
  | nil => simp [GivenMembers]
  | cons member members ih =>
    obtain ⟨name,value⟩ := member
    rw [GivenMembers,ih,List.forall_mem_cons]

mutual
theorem given_ofJson (json : Json) : Given js (ofJson js json) := by
  cases json with
  | null => trivial
  | bool b => trivial
  | num text => exact ⟨text,rfl⟩
  | str s => trivial
  | arr items => exact givenItems_ofItems items
  | obj members => exact givenMembers_ofMembers members

theorem givenItems_ofItems (items : List Json) : GivenItems js (ofItems js items) := by
  match items with
  | [] => trivial
  | item :: items => exact ⟨given_ofJson item,givenItems_ofItems items⟩

theorem givenMembers_ofMembers (members : List (String × Json)) :
    ((ofMembers js members).map Prod.fst).Nodup ∧ GivenMembers js (ofMembers js members) := by
  match members with
  | [] => exact ⟨List.nodup_nil,trivial⟩
  | (name,value) :: members =>
    obtain ⟨hnodup,hgiven⟩ := givenMembers_ofMembers members
    refine ⟨nodup_putFirst hnodup,givenMembers_iff.mpr fun member hmember => ?_⟩
    obtain hvalue | ⟨member',hmember',hvalue⟩ := mem_of_mem_putFirst hmember
    · exact hvalue ▸ given_ofJson value
    · exact hvalue ▸ givenMembers_iff.mp hgiven member' hmember'
end

/-- A number that was read is read back, where it is finite. -/
lemma ofJson_toJson_num {x : JsNumber} {s : String} (h : js.parse s = x) :
    ofJson js (toJson js (.num x)) = (num x).written := by
  cases x with
  | finite q => exact congrArg num (js.parse_text s q h)
  | negZero => exact congrArg num (js.parse_text "0" 0 js.parse_zero)
  | infinite negative => rfl
  | nan => rfl

lemma map_fst_writtenMembers (members : List (String × JsValue)) :
    (writtenMembers members).map Prod.fst = members.map Prod.fst := by
  induction members with
  | nil => rfl
  | cons member members ih => exact congrArg (member.1 :: ·) ih

mutual
/-- What is read back is what was written. -/
theorem ofJson_toJson (v : JsValue) (h : Given js v) : ofJson js (toJson js v) = v.written := by
  match v with
  | .null => rfl
  | .bool b => rfl
  | .num x =>
    obtain ⟨text,hx⟩ := h
    exact ofJson_toJson_num hx
  | .str s => rfl
  | .arr items => exact congrArg arr (ofItems_toItems items h)
  | .obj members => exact congrArg obj (ofMembers_toMembers members h.1 h.2)

theorem ofItems_toItems (items : List JsValue) (h : GivenItems js items) :
    ofItems js (toItems js items) = writtenItems items := by
  match items with
  | [] => rfl
  | item :: items =>
    rw [toItems,ofItems,writtenItems,ofJson_toJson item h.1,ofItems_toItems items h.2]

theorem ofMembers_toMembers (members : List (String × JsValue))
    (hnodup : (members.map Prod.fst).Nodup) (h : GivenMembers js members) :
    ofMembers js (toMembers js members) = writtenMembers members := by
  match members with
  | [] => rfl
  | (name,value) :: members =>
    obtain ⟨hnew,hnodup⟩ := List.nodup_cons.mp hnodup
    rw [toMembers,ofMembers,writtenMembers,ofJson_toJson value h.1,
      ofMembers_toMembers members hnodup h.2]
    exact putFirst_of_not_mem (map_fst_writtenMembers members ▸ hnew)
end

mutual
/-- A value stays what it is exactly if its numbers are plain. -/
theorem written_eq_iff (v : JsValue) : v.written = v ↔ v.Plain := by
  match v with
  | .null => exact iff_of_true rfl trivial
  | .bool b => exact iff_of_true rfl trivial
  | .str s => exact iff_of_true rfl trivial
  | .num x => cases x <;> simp [written,Plain,JsNumber.written?]
  | .arr items => rw [written,Plain,arr.injEq,writtenItems_eq_iff items]
  | .obj members => rw [written,Plain,obj.injEq,writtenMembers_eq_iff members]

theorem writtenItems_eq_iff (items : List JsValue) :
    writtenItems items = items ↔ PlainItems items := by
  match items with
  | [] => exact iff_of_true rfl trivial
  | item :: items =>
    rw [writtenItems,PlainItems,List.cons.injEq,written_eq_iff item,writtenItems_eq_iff items]

theorem writtenMembers_eq_iff (members : List (String × JsValue)) :
    writtenMembers members = members ↔ PlainMembers members := by
  match members with
  | [] => exact iff_of_true rfl trivial
  | (name,value) :: members =>
    rw [writtenMembers,PlainMembers,List.cons.injEq,Prod.mk.injEq,written_eq_iff value,
      writtenMembers_eq_iff members]
    simp
end

mutual
/-- Every given value is read from some JSON, also one that is not read back. -/
theorem exists_ofJson (v : JsValue) (h : Given js v) : ∃ json, ofJson js json = v := by
  match v with
  | .null => exact ⟨.null,rfl⟩
  | .bool b => exact ⟨.bool b,rfl⟩
  | .num x =>
    obtain ⟨text,hx⟩ := h
    exact ⟨.num text,congrArg num hx⟩
  | .str s => exact ⟨.str s,rfl⟩
  | .arr items =>
    obtain ⟨texts,htexts⟩ := exists_ofItems items h
    exact ⟨.arr texts,congrArg arr htexts⟩
  | .obj members =>
    obtain ⟨texts,htexts⟩ := exists_ofMembers members h.1 h.2
    exact ⟨.obj texts,congrArg obj htexts⟩

theorem exists_ofItems (items : List JsValue) (h : GivenItems js items) :
    ∃ texts, ofItems js texts = items := by
  match items with
  | [] => exact ⟨[],rfl⟩
  | item :: items =>
    obtain ⟨text,htext⟩ := exists_ofJson item h.1
    obtain ⟨texts,htexts⟩ := exists_ofItems items h.2
    exact ⟨text :: texts,by rw [ofItems,htext,htexts]⟩

theorem exists_ofMembers (members : List (String × JsValue))
    (hnodup : (members.map Prod.fst).Nodup) (h : GivenMembers js members) :
    ∃ texts, ofMembers js texts = members := by
  match members with
  | [] => exact ⟨[],rfl⟩
  | (name,value) :: members =>
    obtain ⟨hnew,hnodup⟩ := List.nodup_cons.mp hnodup
    obtain ⟨text,htext⟩ := exists_ofJson value h.1
    obtain ⟨texts,htexts⟩ := exists_ofMembers members hnodup h.2
    exact ⟨(name,text) :: texts,by rw [ofMembers,htext,htexts,putFirst_of_not_mem hnew]⟩
end

end JsValue
end LiveKBench.Lib
