import LiveKBench.Lib.AutoTable
import Mathlib.Algebra.Group.Int.Defs
import Mathlib.Algebra.Group.Nat.Defs
import Mathlib.Data.List.Forall2
import Mathlib.Data.Rat.Defs

/-! Tables of SQLite whose key is handed out, with the columns that their schema names. A row is
written by an `INSERT` with its own list of columns, and read by the names of its columns; a model is
stored where what is read of the new row is the model again. -/
namespace LiveKBench.Lib.Sql

inductive Value
  | null
  | integer (n : ℤ)
  | real (x : ℚ)
  | text (s : String)
  deriving DecidableEq

/-- Integers of more than 64 bits cannot be bound. -/
def Value.Bindable : Value → Prop
  | .integer n => -2^63 ≤ n ∧ n < 2^63
  | _ => True

instance (v : Value) : Decidable v.Bindable :=
  match v with
  | .integer _ => inferInstanceAs (Decidable (_ ∧ _))
  | .null => inferInstanceAs (Decidable True)
  | .real _ => inferInstanceAs (Decidable True)
  | .text _ => inferInstanceAs (Decidable True)

/-- A column with its constraints; a `CHECK` lets null pass. -/
structure Column where
  name : String
  notNull : Bool
  oneOf : Option (List String)
  default : Value

def Column.admits (c : Column) : Value → Bool
  | .null => !c.notNull
  | .text s => c.oneOf.all fun texts => texts.contains s
  | _ => c.oneOf.isNone

structure Schema where
  name : String
  key : String
  columns : List Column
  unique : List (List String)

def Schema.names (schema : Schema) : List String := schema.columns.map Column.name

inductive Error
  | noColumn (table column : String)
  | bindings
  | overflow
  | constraint
  | unique
  | full
  deriving DecidableEq

structure Row where
  id : ℕ
  cells : List (String × Value)

/-- `row[name]`. -/
def Row.get? (key : String) (row : Row) (name : String) : Option Value :=
  if name = key then some (.integer row.id) else row.cells.lookup name

abbrev Rows := AutoTable Row.id

namespace Schema
variable (schema : Schema)

/-- The cells of a row, with the default of each column that is not given. -/
def cells (given : List (String × Value)) : List (String × Value) :=
  schema.columns.map fun c => (c.name,(given.lookup c.name).getD c.default)

def row (given : List (String × Value)) (id : ℕ) : Row := ⟨id,schema.cells given⟩

theorem id_row (given : List (String × Value)) (id : ℕ) : (schema.row given id).id = id := rfl

/-- A row has the same values in all columns of a `UNIQUE`, and none of them is null. -/
def Clashes (given : List (String × Value)) (row : Row) : Prop :=
  ∃ columns ∈ schema.unique, ∀ name ∈ columns,
    (schema.cells given).lookup name = row.get? schema.key name ∧
      row.get? schema.key name ≠ some .null

instance (given : List (String × Value)) (row : Row) : Decidable (schema.Clashes given row) :=
  inferInstanceAs (Decidable (∃ columns ∈ schema.unique, _))

/-- `INSERT INTO table (columns) VALUES (values)`, with the id of the new row. -/
def insert (columns : List String) (values : List Value) (t : Rows) : Except Error (ℕ × Rows) :=
  let given := columns.zip values
  match columns.find? fun name => !schema.names.contains name with
  | some name => .error (.noColumn schema.name name)
  | none =>
    if columns.length ≠ values.length then .error .bindings
    else if ∃ v ∈ values, ¬v.Bindable then .error .overflow
    else if !schema.columns.all fun c => c.admits ((given.lookup c.name).getD c.default) then
      .error .constraint
    else if ∃ row ∈ t.rows, schema.Clashes given row then .error .unique
    else if 2^63 ≤ t.last+1 then .error .full
    else .ok (t.last+1,t.append (schema.row given) (schema.id_row given))

end Schema

/-! ## What an insertion does -/

section Insert
variable {schema : Schema} {columns : List String} {values : List Value} {t t' : Rows} {id : ℕ}

/-- The ids are not used up. -/
def Room (t : Rows) : Prop := t.last+1 < 2^63

/-- The values can be bound, meet the constraints of their columns and clash with no row, and an id
is left. -/
structure Schema.Accepts (schema : Schema) (columns : List String) (values : List Value) (t : Rows) :
    Prop where
  bindable : ∀ v ∈ values, v.Bindable
  admitted : schema.columns.all (fun c =>
    c.admits (((columns.zip values).lookup c.name).getD c.default)) = true
  fresh : ∀ row ∈ t.rows, ¬schema.Clashes (columns.zip values) row
  room : Room t

theorem Schema.accepts_iff (hadmitted : schema.columns.all (fun c =>
    c.admits (((columns.zip values).lookup c.name).getD c.default)) = true) :
    schema.Accepts columns values t ↔ (∀ v ∈ values, v.Bindable) ∧
      (∀ row ∈ t.rows, ¬schema.Clashes (columns.zip values) row) ∧ Room t :=
  ⟨fun h => ⟨h.bindable,h.fresh,h.room⟩,fun h => ⟨h.1,hadmitted,h.2.1,h.2.2⟩⟩

/-- A row has these values in the columns. -/
def Taken (t : Rows) (key : String) (names : List String) (values : List Value) : Prop :=
  ∃ row ∈ t.rows, List.Forall₂ (fun name v => row.get? key name = some v) names values

lemma clashes_iff {given : List (String × Value)} {names : List String} {row : Row}
    (hunique : schema.unique = [names])
    (hvalues : List.Forall₂ (fun name v => (schema.cells given).lookup name = some v ∧ v ≠ .null)
      names values) :
    schema.Clashes given row ↔
      List.Forall₂ (fun name v => row.get? schema.key name = some v) names values := by
  unfold Schema.Clashes
  simp only [hunique,List.mem_singleton,exists_eq_left]
  clear hunique
  induction hvalues with
  | nil => simp
  | @cons name v names values hvalue hvalues ih =>
    rw [List.forall_mem_cons,List.forall₂_cons,ih,hvalue.1]
    refine and_congr ?_ Iff.rfl
    constructor
    · exact fun h => h.1.symm
    · intro h
      rw [h]
      exact ⟨rfl,fun hnull => hvalue.2 (Option.some.inj hnull)⟩

/-- No row clashes exactly if the values of the `UNIQUE` are not taken. -/
theorem not_clashes_iff {given : List (String × Value)} {names : List String}
    (hunique : schema.unique = [names])
    (hvalues : List.Forall₂ (fun name v => (schema.cells given).lookup name = some v ∧ v ≠ .null)
      names values) :
    (∀ row ∈ t.rows, ¬schema.Clashes given row) ↔ ¬Taken t schema.key names values := by
  simp only [clashes_iff hunique hvalues,Taken,not_exists,not_and]

theorem not_clashes_of_nil {given : List (String × Value)} (hunique : schema.unique = []) :
    ∀ row ∈ t.rows, ¬schema.Clashes given row := by
  rintro row - ⟨columns,hcolumns,-⟩
  rw [hunique] at hcolumns
  cases hcolumns

/-- A column that the table does not have fails every insertion. -/
theorem insert_of_not_mem {name : String} (hname : name ∈ columns) (h : name ∉ schema.names) :
    ∃ column, schema.insert columns values t = .error (.noColumn schema.name column) := by
  unfold Schema.insert
  cases hfind : columns.find? fun name => !schema.names.contains name with
  | some column => exact ⟨column,rfl⟩
  | none =>
    have hknown := List.find?_eq_none.mp hfind name hname
    simp [h] at hknown

theorem insert_eq_ok_iff (hcolumns : ∀ name ∈ columns, name ∈ schema.names)
    (hlength : columns.length = values.length) :
    schema.insert columns values t = .ok (id,t') ↔ schema.Accepts columns values t ∧
      id = t.last+1 ∧ t' = t.append (schema.row (columns.zip values)) (schema.id_row _) := by
  have hfind : columns.find? (fun name => !schema.names.contains name) = none := by
    refine List.find?_eq_none.mpr fun name hname => ?_
    simpa using hcolumns name hname
  unfold Schema.insert
  simp only [hfind,ne_eq,hlength,not_true_eq_false,if_false]
  constructor
  · intro h
    split at h
    · cases h
    next hbindable =>
    split at h
    · cases h
    next hadmitted =>
    split at h
    · cases h
    next hfresh =>
    split at h
    · cases h
    next hroom =>
    cases h
    refine ⟨⟨?_,?_,?_,Nat.lt_of_not_le hroom⟩,rfl,rfl⟩
    · simpa using hbindable
    · simpa using hadmitted
    · simpa using hfresh
  · rintro ⟨h,rfl,rfl⟩
    rw [if_neg,if_neg,if_neg,if_neg (Nat.not_le_of_lt h.room)]
    · simpa using h.fresh
    · simpa using h.admitted
    · simpa using h.bindable

end Insert

/-! ## What is read of a row -/

section Lookup
variable {columns : List String} {values : List Value} {schema : Schema} {name : String} {v : Value}

lemma lookup_named (columns : List Column) (f : Column → Value) (name : String) :
    (columns.map fun c => (c.name,f c)).lookup name =
      (columns.find? fun c => name == c.name).map f := by
  induction columns with
  | nil => rfl
  | cons c columns ih =>
    rw [List.map_cons,List.lookup_cons,List.find?_cons]
    cases name == c.name with
    | true => rfl
    | false => exact ih

lemma lookup_of_mem {given : List (String × Value)} (hnodup : (given.map Prod.fst).Nodup)
    (h : (name,v) ∈ given) : given.lookup name = some v := by
  induction given with
  | nil => cases h
  | cons entry given ih =>
    rw [List.map_cons,List.nodup_cons] at hnodup
    obtain rfl | h := List.mem_cons.mp h
    · exact List.lookup_cons_self
    · have hne : (name == entry.1) = false := by
        refine beq_false_of_ne fun heq => hnodup.1 ?_
        rw [← heq]
        exact List.mem_map_of_mem h
      rw [List.lookup_cons,hne]
      exact ih hnodup.2 h

/-- The columns that are given differ from each other and from the key, and the table has them. -/
structure Schema.Fits (schema : Schema) (columns : List String) : Prop where
  nodup : columns.Nodup
  known : ∀ name ∈ columns, name ∈ schema.names
  noKey : schema.key ∉ columns

/-- Where all columns are given in the order of the table, each of them is to admit its value. -/
theorem all_admits (hnodup : schema.names.Nodup)
    (h : List.Forall₂ (fun c v => c.admits v = true) schema.columns values) :
    schema.columns.all (fun c =>
      c.admits (((schema.names.zip values).lookup c.name).getD c.default)) = true := by
  refine List.all_eq_true.mpr fun c hc => ?_
  have hlength : schema.names.length = values.length := (List.length_map _).trans h.length_eq
  obtain ⟨i,hi,rfl⟩ := List.mem_iff_getElem.mp hc
  have hi' : i < values.length := h.length_eq ▸ hi
  have hgiven : (schema.columns[i].name,values[i]) ∈ schema.names.zip values := by
    refine List.mem_iff_getElem.mpr ⟨i,?_,?_⟩
    · rw [List.length_zip,hlength,Nat.min_self]
      exact hi'
    · rw [List.getElem_zip]
      simp [Schema.names]
  rw [lookup_of_mem (by rwa [List.map_fst_zip (Nat.le_of_eq hlength)]) hgiven,Option.getD_some]
  exact (List.forall₂_iff_get.mp h).2 i hi hi'

/-- What was given to the columns is read of the row. -/
theorem forall₂_get? (h : schema.Fits columns) (hlength : columns.length = values.length) (id : ℕ) :
    List.Forall₂ (fun name v => (schema.row (columns.zip values) id).get? schema.key name = some v)
      columns values := by
  refine List.forall₂_iff_zip.mpr ⟨hlength,fun {name v} hmem => ?_⟩
  have hname : name ∈ columns := (List.of_mem_zip hmem).1
  have hgiven : (columns.zip values).lookup name = some v := by
    refine lookup_of_mem ?_ hmem
    rw [List.map_fst_zip (Nat.le_of_eq hlength)]
    exact h.nodup
  have hkey : name ≠ schema.key := fun heq => h.noKey (heq ▸ hname)
  rw [Row.get?,if_neg hkey,Schema.row,Schema.cells,lookup_named]
  cases hfind : schema.columns.find? fun c => name == c.name with
  | none =>
    obtain ⟨c,hc,rfl⟩ := List.mem_map.mp (h.known name hname)
    have hother := List.find?_eq_none.mp hfind c hc
    exact absurd BEq.rfl hother
  | some c =>
    have hfound := List.find?_some hfind
    obtain rfl : name = c.name := beq_iff_eq.mp hfound
    rw [Option.map_some,hgiven,Option.getD_some]

end Lookup

/-! ## Models -/

/-- How models of a kind are stored: the columns and the values of the `INSERT`, and how a row is
read. -/
structure Mapping (α : Type*) where
  schema : Schema
  insertColumns : List String
  values : α → List Value
  rowToModel : (String → Option Value) → Option α

namespace Mapping
variable {α : Type*} (m : Mapping α)

def insert (a : α) (t : Rows) : Except Error (ℕ × Rows) :=
  m.schema.insert m.insertColumns (m.values a) t

/-- `SELECT * FROM table WHERE key = id`. -/
def get (id : ℕ) (t : Rows) : Option α :=
  (t.get? id).bind fun row => m.rowToModel (row.get? m.schema.key)

/-- The row of a model. -/
abbrev row (a : α) : ℕ → Row := m.schema.row (m.insertColumns.zip (m.values a))

/-- The insertion succeeds, and what is got by its id is the model. -/
def ReadsBack (t : Rows) (a : α) (stored : ℕ → α) : Prop :=
  ∃ id t', m.insert a t = .ok (id,t') ∧ m.get id t' = some (stored id)

/-- What is read of the row of a model by the names of its columns. -/
def Reads (row : String → Option Value) (a : α) (id : ℕ) : Prop :=
  row m.schema.key = some (.integer id) ∧
    List.Forall₂ (fun name v => row name = some v) m.insertColumns (m.values a)

variable {m} {a : α} {t : Rows} {stored : ℕ → α}

lemma reads_row (hfits : m.schema.Fits m.insertColumns)
    (hlength : m.insertColumns.length = (m.values a).length) (id : ℕ) :
    m.Reads ((m.row a id).get? m.schema.key) a id :=
  ⟨if_pos rfl,forall₂_get? hfits hlength id⟩

/-- A model is read back exactly if its row is accepted and what it reads as is the model. -/
theorem readsBack_iff (hfits : m.schema.Fits m.insertColumns)
    (hlength : m.insertColumns.length = (m.values a).length) {model : ℕ → Option α}
    (hreads : ∀ row id, m.Reads row a id → m.rowToModel row = model id) :
    m.ReadsBack t a stored ↔ m.schema.Accepts m.insertColumns (m.values a) t ∧
      model (t.last+1) = some (stored (t.last+1)) := by
  have hget : m.get (t.last+1) (t.append (m.row a) (m.schema.id_row _)) = model (t.last+1) := by
    rw [get,AutoTable.get?_append,if_pos rfl,Option.bind_some]
    exact hreads _ _ (reads_row hfits hlength _)
  unfold ReadsBack insert
  simp only [insert_eq_ok_iff hfits.known hlength]
  constructor
  · rintro ⟨id,t',⟨haccepts,rfl,rfl⟩,hread⟩
    exact ⟨haccepts,hget.symm.trans hread⟩
  · rintro ⟨haccepts,hread⟩
    exact ⟨_,_,⟨haccepts,rfl,rfl⟩,hget.trans hread⟩

/-- The insertion gives all columns, in the order of the table. -/
structure Complete (m : Mapping α) : Prop where
  columns : m.insertColumns = m.schema.names
  nodup : m.schema.names.Nodup
  noKey : m.schema.key ∉ m.schema.names

theorem Complete.fits (h : m.Complete) : m.schema.Fits m.insertColumns := by
  rw [h.columns]
  exact ⟨h.nodup,fun _ => id,h.noKey⟩

/-- Where all columns are given and admit their values, a model is read back exactly if its values
can be bound and are free, an id is left, and what its row reads as is the model. -/
theorem Complete.readsBack_iff (h : m.Complete)
    (hadmits : List.Forall₂ (fun c v => c.admits v = true) m.schema.columns (m.values a))
    {bindable free : Prop} (hbindable : (∀ v ∈ m.values a, v.Bindable) ↔ bindable)
    (hfree : (∀ row ∈ t.rows, ¬m.schema.Clashes (m.insertColumns.zip (m.values a)) row) ↔ free)
    {model : ℕ → Option α} (hreads : ∀ row id, m.Reads row a id → m.rowToModel row = model id) :
    m.ReadsBack t a stored ↔ bindable ∧ free ∧ Room t ∧
      model (t.last+1) = some (stored (t.last+1)) := by
  have hlength : m.insertColumns.length = (m.values a).length := by
    rw [h.columns]
    exact (List.length_map _).trans hadmits.length_eq
  have hadmitted := all_admits h.nodup hadmits
  rw [← h.columns] at hadmitted
  rw [Mapping.readsBack_iff h.fits hlength hreads,Schema.accepts_iff hadmitted,hbindable,hfree]
  simp only [and_assoc]

/-- Nothing is stored with a column that the table does not have. -/
theorem not_readsBack_of_not_mem {name : String} (hname : name ∈ m.insertColumns)
    (h : name ∉ m.schema.names) : ¬m.ReadsBack t a stored := by
  rintro ⟨id,t',hinsert,-⟩
  obtain ⟨column,herror⟩ := @insert_of_not_mem m.schema _ (m.values a) t _ hname h
  rw [insert,herror] at hinsert
  cases hinsert

end Mapping

end LiveKBench.Lib.Sql
