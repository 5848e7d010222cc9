import LiveKBench.KArenaDb.Entities
import LiveKBench.Lib.AutoTable

/-! The table `kenv_base_image` and the statements on it: one image to build for each bug and base
commit, from `pending` over `building` to `built`, `pushed` or `error`. -/
namespace LiveKBench.KArenaDb
open KArenaWeb (DateTime)
open Lib

abbrev KEnvBaseTable := AutoTable KEnvBaseImage.kEnvImageId

namespace KEnvBase

def pair (row : KEnvBaseImage) : String × BaseCommit := (row.bugId,row.baseCommit)

/-- The `INSERT` of `insert_kenv_base`; it fails on a pair that has a row. -/
def insertKenvBase (row : KEnvBaseImage) (db : KEnvBaseTable) : Option KEnvBaseTable :=
  db.insert? pair (fun n => { row with kEnvImageId := n }) (fun _ => rfl)

def needsWork (row : KEnvBaseImage) : Bool := row.status = .pending || row.status = .building

def getPendingKenvBaseBuilds (db : KEnvBaseTable) : List ℕ :=
  (db.table.select needsWork).map KEnvBaseImage.kEnvImageId

def claimable (kEnvImageId : ℕ) (row : KEnvBaseImage) : Bool :=
  row.kEnvImageId = kEnvImageId && row.status = .pending

/-- The `UPDATE` of `claim_kenv_base_build` with its row count. -/
def claim (kEnvImageId : ℕ) (db : KEnvBaseTable) : KEnvBaseTable × ℕ :=
  (db.update (claimable kEnvImageId) (fun row => { row with status := .building }) (fun _ => rfl),
    db.table.rowcount (claimable kEnvImageId))

/-- What `_set_kenv_base_state` writes; `COALESCE` keeps a time that is there. -/
structure NewState where
  status : KEnvStatus
  systemMessage : String
  builtTime : Option DateTime
  pushedTime : Option DateTime

def NewState.apply (new : NewState) (row : KEnvBaseImage) : KEnvBaseImage :=
  { row with
    status := new.status
    systemMessage := new.systemMessage
    builtTime := new.builtTime.or row.builtTime
    pushedTime := new.pushedTime.or row.pushedTime }

theorem NewState.key_apply (new : NewState) (row : KEnvBaseImage) :
    (new.apply row).kEnvImageId = row.kEnvImageId := rfl

def setState (kEnvImageId : ℕ) (new : NewState) (db : KEnvBaseTable) : KEnvBaseTable :=
  db.update (fun row => row.kEnvImageId = kEnvImageId) new.apply new.key_apply

/-- The status is one of those in which nothing is left to do. -/
def Terminal (row : KEnvBaseImage) : Prop :=
  row.status = .built ∨ row.status = .pushed ∨ row.status = .error

instance (row : KEnvBaseImage) : Decidable (Terminal row) :=
  inferInstanceAs (Decidable (row.status = .built ∨ row.status = .pushed ∨ row.status = .error))

/-- The times that a row has are those of its status. -/
def Dated (row : KEnvBaseImage) : Prop :=
  match row.status with
  | .pushed => row.builtTime.isSome ∧ row.pushedTime.isSome
  | .built => row.builtTime.isSome ∧ row.pushedTime = none
  | _ => row.builtTime = none ∧ row.pushedTime = none

variable {db db' : KEnvBaseTable} {row : KEnvBaseImage} {kEnvImageId id : ℕ}

lemma terminal_iff : Terminal row ↔ row.status ≠ .pending ∧ row.status ≠ .building := by
  unfold Terminal
  cases row.status <;> simp

lemma key_of_get? (h : db.get? id = some row) : row.kEnvImageId = id := Table.key_of_get? h

lemma mem_pending : id ∈ getPendingKenvBaseBuilds db ↔
    ∃ row, db.get? id = some row ∧ ¬Terminal row := by
  have hneeds : ∀ row, needsWork row = true ↔ ¬Terminal row := by
    intro row
    simp only [needsWork,terminal_iff]
    cases row.status <;> simp
  constructor
  · intro h
    obtain ⟨row,hr,rfl⟩ := List.mem_map.mp h
    obtain ⟨hm,hw⟩ := Table.mem_select.mp hr
    exact ⟨row,Table.get?_eq_some.mpr ⟨hm,rfl⟩,(hneeds row).mp hw⟩
  · rintro ⟨row,hr,hw⟩
    obtain ⟨hm,rfl⟩ := Table.get?_eq_some.mp hr
    exact List.mem_map_of_mem (Table.mem_select.mpr ⟨hm,(hneeds row).mpr hw⟩)

/-- What an insertion leaves under each key. -/
lemma get?_insertKenvBase (h : insertKenvBase row db = some db') (id : ℕ) :
    db'.get? id =
      if db.last+1 = id then some { row with kEnvImageId := db.last+1 } else db.get? id := by
  obtain ⟨-,rfl⟩ := AutoTable.insert?_eq_some.mp h
  exact AutoTable.get?_append db _ _ id

lemma get?_claim : (claim kEnvImageId db).1.get? id = (db.get? id).map fun row =>
    if claimable kEnvImageId row then { row with status := .building } else row :=
  AutoTable.get?_update db _ _ _ id

/-- A claim is won where the row is pending. -/
lemma claim_pos : 0 < (claim kEnvImageId db).2 ↔
    ∃ row, db.get? kEnvImageId = some row ∧ row.status = .pending := by
  have hkey : ∀ row, claimable kEnvImageId row → row.kEnvImageId = kEnvImageId := by
    intro row h
    simp only [claimable,Bool.and_eq_true,decide_eq_true_eq] at h
    exact h.1
  change 0 < db.table.rowcount (claimable kEnvImageId) ↔ _
  rw [Table.rowcount_of_key hkey]
  cases hr : db.get? kEnvImageId with
  | none => simp [show db.table.get? kEnvImageId = none from hr]
  | some row =>
    by_cases hs : row.status = .pending <;>
      simp [show db.table.get? kEnvImageId = some row from hr,claimable,key_of_get? hr,hs]

lemma get?_setState {new : NewState} : (setState kEnvImageId new db).get? id =
    (db.get? id).map fun row => if row.kEnvImageId = kEnvImageId then new.apply row else row := by
  unfold setState
  simp

end KEnvBase
end LiveKBench.KArenaDb
