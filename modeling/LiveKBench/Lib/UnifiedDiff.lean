import Mathlib.Data.List.Basic
import Mathlib.Data.List.Range
import Mathlib.Tactic.Lemma

/-! Unified diffs. A hunk says where its lines stand in the old text and in the new one; a text is
patched by hunks that stand where they say, in their order. -/
namespace LiveKBench.Lib.UnifiedDiff

inductive LineType
  | context
  | removed
  | added
  deriving DecidableEq, Repr

structure DiffLine where
  lineType : LineType
  text : String
  deriving DecidableEq, Repr

/-- Lines are numbered from one; the start of an empty side is the line before it. -/
structure Hunk where
  sourceStart : ℕ
  sourceLength : ℕ
  targetStart : ℕ
  targetLength : ℕ
  lines : List DiffLine
  deriving DecidableEq, Repr

/-- The lines of one side, which are those of the context and those of its own type. -/
def DiffLine.onSide (side : LineType) (l : DiffLine) : Bool :=
  l.lineType = .context || l.lineType = side

def sideTexts (side : LineType) (lines : List DiffLine) : List String :=
  (lines.filter (DiffLine.onSide side)).map DiffLine.text

/-- The lines of one side with their numbers, from the given one on. -/
def numberLines (side : LineType) : ℕ → List DiffLine → List (LineType × ℕ)
  | _,[] => []
  | n,l :: ls =>
    if l.onSide side then (l.lineType,n) :: numberLines side (n+1) ls else numberLines side n ls

namespace Hunk
variable (h : Hunk)

def oldTexts : List String := sideTexts .removed h.lines

def newTexts : List String := sideTexts .added h.lines

def sourceLines : List (LineType × ℕ) := numberLines .removed h.sourceStart h.lines

def targetLines : List (LineType × ℕ) := numberLines .added h.targetStart h.lines

def endsInContext : Bool := h.lines.getLast?.any fun l => l.lineType = .context

end Hunk

/-- The numbers of the lines that are no context. -/
def changedNos (numbered : List (LineType × ℕ)) : List ℕ :=
  (numbered.filter fun l => l.1 ≠ .context).map Prod.snd

theorem changedNos_append (xs ys : List (LineType × ℕ)) :
    changedNos (xs ++ ys) = changedNos xs ++ changedNos ys := by
  simp [changedNos]

/-- The hunks patch the old text into the new one, `p` lines behind in the one and `q` in the other.
A hunk without context at its end stands at the end of the text. -/
inductive Patched : ℕ → ℕ → List Hunk → List String → List String → Prop
  | done {p q : ℕ} (rest : List String) : Patched p q [] rest rest
  | hunk {p q : ℕ} {h : Hunk} {hs : List Hunk} {old new : List String} (kept : List String)
      (sourceLength : h.sourceLength = h.oldTexts.length)
      (targetLength : h.targetLength = h.newTexts.length)
      (sourceStart : h.sourceStart = p+kept.length+if h.sourceLength = 0 then 0 else 1)
      (targetStart : h.targetStart = q+kept.length+if h.targetLength = 0 then 0 else 1)
      (atEnd : h.endsInContext = true ∨ old = [])
      (rest : Patched (p+kept.length+h.oldTexts.length) (q+kept.length+h.newTexts.length) hs old new) :
      Patched p q (h :: hs) (kept ++ h.oldTexts ++ old) (kept ++ h.newTexts ++ new)

/-! ## Sides without lines -/

section Sides
variable {side other : LineType} {lines : List DiffLine}

lemma length_numberLines (side : LineType) (n : ℕ) (lines : List DiffLine) :
    (numberLines side n lines).length = (sideTexts side lines).length := by
  induction lines generalizing n with
  | nil => rfl
  | cons l ls ih =>
    unfold sideTexts at ih ⊢
    cases hside : l.onSide side with
    | true => simpa [numberLines,hside] using ih (n+1)
    | false => simpa [numberLines,hside] using ih n

lemma not_onSide_of_sideTexts (h : sideTexts side lines = []) :
    ∀ l ∈ lines, l.onSide side = false := by
  intro l hl
  rw [sideTexts,List.map_eq_nil_iff,List.filter_eq_nil_iff] at h
  simpa using h l hl

/-- A side without lines has no changed lines. -/
lemma changedNos_eq_nil (h : sideTexts side lines = []) (n : ℕ) :
    changedNos (numberLines side n lines) = [] := by
  have hlength := length_numberLines side n lines
  rw [h] at hlength
  rw [List.length_eq_zero_iff.mp hlength]
  rfl

/-- Where the other side has no lines, all the lines of a side are changed. -/
lemma changedNos_eq_range' (h : sideTexts other lines = [])
    (hsides : ∀ t : LineType, t ≠ .context → t ≠ other → t = side) (n : ℕ) :
    changedNos (numberLines side n lines) = List.range' n lines.length := by
  induction lines generalizing n with
  | nil => rfl
  | cons l ls ih =>
    have hnot := not_onSide_of_sideTexts h
    have hl := hnot l List.mem_cons_self
    simp only [DiffLine.onSide,Bool.or_eq_false_iff,decide_eq_false_iff_not] at hl
    have htype := hsides l.lineType hl.1 hl.2
    have hls : sideTexts other ls = [] := by
      rw [sideTexts,List.map_eq_nil_iff,List.filter_eq_nil_iff]
      intro l' hl'
      simp [hnot l' (List.mem_cons_of_mem _ hl')]
    have hon : l.onSide side = true := by simp [DiffLine.onSide,htype]
    have hchanged : changedNos (numberLines side n (l :: ls)) =
        n :: changedNos (numberLines side (n+1) ls) := by
      rw [numberLines,if_pos hon,changedNos,List.filter_cons_of_pos (by simpa using hl.1),
        List.map_cons]
      rfl
    rw [hchanged,ih hls,List.length_cons,List.range'_succ]

lemma length_sideTexts (h : sideTexts other lines = [])
    (hsides : ∀ t : LineType, t ≠ .context → t ≠ other → t = side) :
    (sideTexts side lines).length = lines.length := by
  rw [sideTexts,List.length_map,List.filter_eq_self.mpr]
  intro l hl
  have hnot := not_onSide_of_sideTexts h l hl
  simp only [DiffLine.onSide,Bool.or_eq_false_iff,decide_eq_false_iff_not] at hnot
  rw [DiffLine.onSide,hsides l.lineType hnot.1 hnot.2]
  simp

lemma not_endsInContext {h : Hunk} (hside : sideTexts side h.lines = []) :
    h.endsInContext = false := by
  unfold Hunk.endsInContext
  cases hlast : h.lines.getLast? with
  | none => rfl
  | some l =>
    have hnot := not_onSide_of_sideTexts hside l (List.mem_of_getLast? hlast)
    simp only [DiffLine.onSide,Bool.or_eq_false_iff] at hnot
    exact hnot.1

end Sides

lemma added_of_ne : ∀ t : LineType, t ≠ .context → t ≠ .removed → t = .added
  | .context,h,_ => absurd rfl h
  | .removed,_,h => absurd rfl h
  | .added,_,_ => rfl

lemma removed_of_ne : ∀ t : LineType, t ≠ .context → t ≠ .added → t = .removed
  | .context,h,_ => absurd rfl h
  | .removed,_,_ => rfl
  | .added,_,h => absurd rfl h

/-! ## New and removed files -/

section Files
variable {p q : ℕ} {hs : List Hunk} {h : Hunk} {old new : List String}

/-- An empty text has no lines to remove. -/
lemma Patched.removed_eq_nil (hpatched : Patched p q hs [] new) :
    ∀ h ∈ hs, changedNos h.sourceLines = [] := by
  generalize hold : ([] : List String) = old at hpatched
  induction hpatched with
  | done rest => exact fun h hh => absurd hh List.not_mem_nil
  | hunk kept _ _ _ _ _ _ ih =>
    obtain ⟨hkept,hrest⟩ := List.append_eq_nil_iff.mp hold.symm
    obtain ⟨-,htexts⟩ := List.append_eq_nil_iff.mp hkept
    intro h' hh'
    obtain rfl | hh' := List.mem_cons.mp hh'
    · exact changedNos_eq_nil htexts _
    · exact ih hrest.symm h' hh'

/-- All lines of a text that was empty are added. -/
lemma Patched.mem_added (hpatched : Patched p q hs [] new) {k : ℕ} (hlt : q < k)
    (hle : k ≤ q+new.length) : ∃ h ∈ hs, k ∈ changedNos h.targetLines := by
  generalize hold : ([] : List String) = old at hpatched
  induction hpatched with
  | done rest =>
    subst hold
    simp at hle
    omega
  | @hunk p q h hs old new kept _ htarget _ hstart _ _ ih =>
    obtain ⟨hkept,hrest⟩ := List.append_eq_nil_iff.mp hold.symm
    obtain ⟨rfl,htexts⟩ := List.append_eq_nil_iff.mp hkept
    simp only [List.nil_append,List.length_append,List.length_nil,Nat.add_zero] at hle hstart ih
    by_cases hk : k ≤ q+h.newTexts.length
    · refine ⟨h,List.mem_cons_self,?_⟩
      have hlength : h.newTexts.length = h.lines.length := length_sideTexts htexts added_of_ne
      rw [Hunk.targetLines,changedNos_eq_range' htexts added_of_ne,List.mem_range'_1]
      rw [if_neg (by omega)] at hstart
      omega
    · obtain ⟨h',hh',hmem⟩ := ih (by omega) (by omega) hrest.symm
      exact ⟨h',List.mem_cons_of_mem _ hh',hmem⟩

/-- All lines of a text are removed that is left empty. -/
lemma Patched.mem_removed (hpatched : Patched p q hs old []) {k : ℕ} (hlt : p < k)
    (hle : k ≤ p+old.length) : ∃ h ∈ hs, k ∈ changedNos h.sourceLines := by
  generalize hnew : ([] : List String) = new at hpatched
  induction hpatched with
  | done rest =>
    subst hnew
    simp at hle
    omega
  | @hunk p q h hs old new kept hsource _ hstart _ _ _ ih =>
    obtain ⟨hkept,hrest⟩ := List.append_eq_nil_iff.mp hnew.symm
    obtain ⟨rfl,htexts⟩ := List.append_eq_nil_iff.mp hkept
    simp only [List.nil_append,List.length_append,List.length_nil,Nat.add_zero] at hle hstart ih
    by_cases hk : k ≤ p+h.oldTexts.length
    · refine ⟨h,List.mem_cons_self,?_⟩
      have hlength : h.oldTexts.length = h.lines.length := length_sideTexts htexts removed_of_ne
      rw [Hunk.sourceLines,changedNos_eq_range' htexts removed_of_ne,List.mem_range'_1]
      rw [if_neg (by omega)] at hstart
      omega
    · obtain ⟨h',hh',hmem⟩ := ih (by omega) (by omega) hrest.symm
      exact ⟨h',List.mem_cons_of_mem _ hh',hmem⟩

/-- A single hunk that starts before the first line of the old text and has none of its lines
patches an empty text. -/
lemma Patched.old_eq_nil (hpatched : Patched 0 0 [h] old new) (hstart : h.sourceStart = 0)
    (hlength : h.sourceLength = 0) : old = [] := by
  cases hpatched with
  | hunk kept hsource _ hsourceStart _ hend _ =>
    have htexts : h.oldTexts = [] := List.length_eq_zero_iff.mp (hsource.symm.trans hlength)
    have hkept : kept = [] := by
      apply List.length_eq_zero_iff.mp
      omega
    have hrest := hend.resolve_left (by rw [not_endsInContext htexts]; exact Bool.false_ne_true)
    rw [htexts,hkept,hrest]
    rfl

lemma Patched.new_eq_nil (hpatched : Patched 0 0 [h] old new) (hstart : h.targetStart = 0)
    (hlength : h.targetLength = 0) : new = [] := by
  cases hpatched with
  | hunk kept _ htarget _ htargetStart hend hdone =>
    have htexts : h.newTexts = [] := List.length_eq_zero_iff.mp (htarget.symm.trans hlength)
    have hkept : kept = [] := by
      apply List.length_eq_zero_iff.mp
      omega
    have hrest := hend.resolve_left (by rw [not_endsInContext htexts]; exact Bool.false_ne_true)
    cases hdone
    rw [htexts,hkept,hrest]
    rfl

end Files

end LiveKBench.Lib.UnifiedDiff
