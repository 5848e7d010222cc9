import LiveKBench.KArenaDb.Entities
import LiveKBench.KArenaDb.Isoformat
import LiveKBench.Lib.JsonText
import LiveKBench.Lib.OrderedMap

/-! The columns that hold a list or a dictionary as the text of `json.dumps`, and how they are
read. -/
namespace LiveKBench.Lib

def Json.text? : Json → Option String
  | .str text => some text
  | _ => none

end LiveKBench.Lib

namespace LiveKBench.KArenaDb
open Lib

def encodeTexts (texts : List String) : String := String.ofList (Json.dumps (.ofTexts texts))

/-- A `list[str]`. -/
def decodeTexts (column : String) : Option (List String) := do
  match ← Json.loads column.toList with
  | .arr items => items.mapM Json.text?
  | _ => none

def StrDict.toJson (attrs : StrDict) : Json :=
  .obj (attrs.entries.map fun entry => (entry.1,.str entry.2))

def encodeAttrs (attrs : StrDict) : String := String.ofList attrs.toJson.dumps

/-- The dictionary of some members, the last of each name. -/
def StrDict.ofEntries (entries : List (String × String)) : StrDict where
  entries := (OrderedMap.ofEntries entries).rows
  nodup := (OrderedMap.ofEntries entries).nodup

/-- A `dict[str, str]`. -/
def decodeAttrs (column : String) : Option StrDict := do
  match ← Json.loads column.toList with
  | .obj members =>
    let entries ← members.mapM fun member => (member.2.text?).map fun text => (member.1,text)
    some (StrDict.ofEntries entries)
  | _ => none

@[ext] theorem StrDict.ext {a b : StrDict} (h : a.entries = b.entries) : a = b := by
  cases a
  cases b
  cases h
  rfl

lemma mapM_map_some {α β : Type*} {f : β → Option α} {g : α → β} (h : ∀ a, f (g a) = some a)
    (as : List α) : (as.map g).mapM f = some as := by
  induction as with
  | nil => rfl
  | cons a as ih => simp [h,ih]

@[simp] theorem decodeTexts_encodeTexts (texts : List String) :
    decodeTexts (encodeTexts texts) = some texts := by
  simp only [decodeTexts,encodeTexts,String.toList_ofList,Json.loads_dumps,Option.bind_eq_bind,
    Option.bind_some,Json.ofTexts]
  exact mapM_map_some (f := Json.text?) (g := Json.str) (fun _ => rfl) texts

@[simp] theorem decodeAttrs_encodeAttrs (attrs : StrDict) :
    decodeAttrs (encodeAttrs attrs) = some attrs := by
  have hmembers : (attrs.entries.map fun entry => (entry.1,Json.str entry.2)).mapM
      (fun member => (member.2.text?).map fun text => (member.1,text)) = some attrs.entries := by
    apply mapM_map_some
    intro entry
    rfl
  have hsame : StrDict.ofEntries attrs.entries = attrs :=
    StrDict.ext (OrderedMap.rows_ofEntries attrs.nodup)
  simp only [decodeAttrs,encodeAttrs,StrDict.toJson,String.toList_ofList,Json.loads_dumps,
    Option.bind_eq_bind,Option.bind_some,hmembers,hsame]

end LiveKBench.KArenaDb
