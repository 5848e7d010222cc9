import LiveKBench.KCore.Models
import LiveKBench.Lib.OrderedMap
import LiveKBench.Lib.Traverse
import LiveKBench.Lib.UnifiedDiff
import Mathlib.Algebra.Ring.Nat

/-! `analyze_patch`: which functions of the kernel a patch changes, and how many lines. -/
namespace LiveKBench.KEnv
open KCore Lib Lib.UnifiedDiff

/-- A file of a `PatchSet`, with the names that stand after `a/` and `b/`; none is `/dev/null`. -/
structure PatchedFile where
  source : Option String
  target : Option String
  hunks : List Hunk
  deriving DecidableEq, Repr

/-- `f.path.endswith('.c') or f.path.endswith('.h')`. -/
def endsInCH (path : String) : Bool :=
  match path.toList.reverse with
  | 'c' :: '.' :: _ => true
  | 'h' :: '.' :: _ => true
  | _ => false

namespace PatchedFile
variable (quotes : String → Bool) (f : PatchedFile)

def name : String := (f.target.or f.source).getD "/dev/null"

/-- `path`; a name that is written in quotes keeps them. -/
def path : String := if quotes f.name then "\"" ++ f.name ++ "\"" else f.name

def isRename : Bool := f.source.isSome && f.target.isSome && f.source ≠ f.target

def isAddedFile : Bool :=
  f.source.isNone ||
    match f.hunks with
    | [h] => h.sourceStart = 0 && h.sourceLength = 0
    | _ => false

def isRemovedFile : Bool :=
  f.target.isNone ||
    match f.hunks with
    | [h] => h.targetStart = 0 && h.targetLength = 0
    | _ => false

end PatchedFile

/-- The fields of a tag of ctags that are read. -/
structure Tag where
  name : String
  kind : String
  line : ℕ
  last : Option ℕ
  deriving DecidableEq, Repr

/-- `int(tag.get('end', tag.get('line')))`. -/
def Tag.stop (tag : Tag) : ℕ := tag.last.getD tag.line

def Tag.covers (tag : Tag) (lineNo : ℕ) : Bool := tag.line ≤ lineNo && lineNo ≤ tag.stop

def Tag.isFunction (tag : Tag) : Bool := tag.kind = "function"

/-- What a dictionary of tags holds of a path: the task of `get_ctags`, or its result. -/
inductive Slot
  | task (tags : List Tag)
  | result (tags : List Tag)
  deriving DecidableEq, Repr

/-- The tags of each file of the patch: the tasks are created in one loop and replaced by their
results in another one. -/
def collectTags (quotes : String → Bool) (getCtags : String → List Tag) (ps : List PatchedFile) :
    Except PyError (OrderedMap String Slot) :=
  let tasks := ps.foldl (fun (tags : OrderedMap String Slot) file =>
    tags.set (file.path quotes) (.task (getCtags (file.path quotes)))) OrderedMap.empty
  ps.foldlM (fun tags file =>
    match tags.value? (file.path quotes) with
    | some (.task result) => .ok (tags.set (file.path quotes) (.result result))
    | _ => .error .attributeError) tasks

/-- The functions among `tags.get(path, [])`. -/
def functionsAt (tags : OrderedMap String Slot) (path : String) : List Tag :=
  match tags.value? path with
  | some (.result tags) => tags.filter Tag.isFunction
  | _ => []

/-- The variables of the loops; the sets are lists without repetitions. -/
structure Analysis where
  modifiedFiles : List String
  modifiedFunctions : List String
  numModifiedLines : ℕ
  deriving DecidableEq, Repr

namespace Analysis

/-- One line of a hunk, with the functions of its side. -/
def line (tags : List Tag) (a : Analysis) (ln : LineType × ℕ) : Analysis :=
  if ln.1 ≠ .context then
    { a with
      numModifiedLines := a.numModifiedLines+1
      modifiedFunctions := tags.foldl (fun functions tag =>
        if tag.covers ln.2 then functions.insert tag.name else functions) a.modifiedFunctions }
  else a

def hunk (tagsBefore tagsAfter : List Tag) (a : Analysis) (h : Hunk) : Analysis :=
  h.targetLines.foldl (line tagsAfter) (h.sourceLines.foldl (line tagsBefore) a)

/-- All of the functions. -/
def allOf (tags : List Tag) (a : Analysis) : Analysis :=
  { a with
    modifiedFunctions := tags.foldl (fun functions tag => functions.insert tag.name)
      a.modifiedFunctions }

end Analysis

section Main
variable (quotes : String → Bool)

/-- One pass of the loop over the files. -/
def analyzeFile (tagsBefore tagsAfter : OrderedMap String Slot) (a : Analysis) (f : PatchedFile) :
    Analysis :=
  if !endsInCH (f.path quotes) then a
  else if f.isAddedFile then a.allOf (functionsAt tagsAfter (f.path quotes))
  else if f.isRemovedFile then a.allOf (functionsAt tagsBefore (f.path quotes))
  else f.hunks.foldl
    (Analysis.hunk (functionsAt tagsBefore (f.path quotes)) (functionsAt tagsAfter (f.path quotes))) a

/-- `main`, by what `get_ctags` reads before and after the patch is applied. -/
def analyzePatch (ctagsBefore ctagsAfter : String → List Tag) (ps : List PatchedFile) :
    Except PyError Analysis := do
  let tagsBefore ← collectTags quotes ctagsBefore ps
  let tagsAfter ← collectTags quotes ctagsAfter ps
  let modifiedFiles := ps.foldl (fun files f =>
    if endsInCH (f.path quotes) then files.insert (f.path quotes) else files) []
  pure (ps.foldl (analyzeFile quotes tagsBefore tagsAfter) ⟨modifiedFiles,[],0⟩)

/-! ## What the analysis is to be -/

section Meaning
variable (ctags : String → List String → List Tag) (old new : String → List String)
  (f : PatchedFile) (ps : List PatchedFile)

namespace PatchedFile

def removedNos : List ℕ := f.hunks.flatMap fun h => changedNos h.sourceLines

def addedNos : List ℕ := f.hunks.flatMap fun h => changedNos h.targetLines

def changed : ℕ := f.removedNos.length+f.addedNos.length

def oldContent : List String :=
  match f.source with
  | none => []
  | some name => old name

end PatchedFile

/-- One of these lines lies in a function of this name. -/
def Covered (tags : List Tag) (lineNos : List ℕ) (name : String) : Prop :=
  ∃ tag ∈ tags, tag.isFunction = true ∧ tag.name = name ∧ ∃ k ∈ lineNos, tag.covers k = true

def HasFunction (tags : List Tag) (name : String) : Prop :=
  ∃ tag ∈ tags, tag.isFunction = true ∧ tag.name = name

def oldTags : List Tag :=
  match f.source with
  | none => []
  | some name => ctags name (old name)

/-- The file has a removed line in the function as it was, at the old path, or an added line in the
function as it is. -/
def Touches (name : String) : Prop :=
  endsInCH f.name = true ∧
    (Covered (oldTags ctags old f) f.removedNos name ∨
      Covered (ctags f.name (new f.name)) f.addedNos name)

/-- The analysis counts the changed lines of the `.c` and `.h` files and lists the functions that
they touch. -/
def Exact (result : Except PyError Analysis) : Prop :=
  ∃ a, result = .ok a ∧
    a.numModifiedLines = ((ps.filter fun f => endsInCH f.name).map PatchedFile.changed).sum ∧
    ∀ name, name ∈ a.modifiedFunctions ↔ ∃ f ∈ ps, Touches ctags old new f name

/-- What `git apply` patches: a rename reads the file of before, any other patch what earlier ones
have written. -/
def PatchedFile.preimage (written : List (String × List String)) : List String :=
  match f.source with
  | none => []
  | some name => if f.isRename then old name else (written.lookup name).getD (old name)

/-- The files of the patch are applied one after the other, the last one written first in the
list. -/
inductive Applies (old : String → List String) : List (String × List String) →
    List PatchedFile → List (String × List String) → Prop
  | nil (written : List (String × List String)) : Applies old written [] written
  | cons {written final : List (String × List String)} {f : PatchedFile} {fs : List PatchedFile}
      {content : List String} (patched : Patched 0 0 f.hunks (f.preimage old written) content)
      (created : f.source = none → (written.lookup f.name).getD (old f.name) = [])
      (deleted : f.target = none → content = [])
      (rest : Applies old ((f.name,content) :: written) fs final) :
      Applies old written (f :: fs) final

/-- The patch applies to the old tree and gives the new one; a file that is not there has no
lines. -/
def AppliesCleanly : Prop :=
  ∃ written, Applies old [] ps written ∧
    (∀ f ∈ ps, new f.name = (written.lookup f.name).getD []) ∧
    ∀ name, (∀ f ∈ ps, f.name ≠ name ∧ (f.isRename = true → f.source ≠ some name)) →
      new name = old name

/-- The ranges of the functions lie in their file. -/
def RangesInFile : Prop :=
  ∀ path content, ∀ tag ∈ ctags path content, tag.isFunction = true →
    1 ≤ tag.line ∧ tag.line ≤ tag.stop ∧ tag.stop ≤ content.length

/-! ## Where it is so -/

/-- The files of which the lines are counted. -/
def Counted : Prop :=
  endsInCH (f.path quotes) = true ∧ f.isAddedFile = false ∧ f.isRemovedFile = false

instance : Decidable (Counted quotes f) := inferInstanceAs (Decidable (_ ∧ _))

/-- A file that is not looked up where it was: its name is in quotes, or it was renamed. -/
def Misread : Prop :=
  quotes f.name = true ∨ f.isRename = true ∧ f.isAddedFile = false

/-- The function is found for the file, where both its old and its new functions are those at its
path. -/
def FoundAt (name : String) : Prop :=
  endsInCH (f.path quotes) = true ∧
    if f.isAddedFile then HasFunction (ctags (f.path quotes) (new (f.path quotes))) name
    else if f.isRemovedFile then HasFunction (ctags (f.path quotes) (old (f.path quotes))) name
    else Covered (ctags (f.path quotes) (old (f.path quotes))) f.removedNos name ∨
      Covered (ctags (f.path quotes) (new (f.path quotes))) f.addedNos name

/-- No path occurs twice, the files that are not counted have no changed lines, and the functions
that a misread file touches are found, and those found for it are touched, for it or another
file. -/
structure WellRead : Prop where
  paths : (ps.map (PatchedFile.path quotes)).Nodup
  counted : ∀ f ∈ ps, endsInCH f.name = true → ¬Counted quotes f → f.changed = 0
  found : ∀ f ∈ ps, Misread quotes f → ∀ name, Touches ctags old new f name →
    ∃ g ∈ ps, FoundAt quotes ctags old new g name
  touched : ∀ f ∈ ps, Misread quotes f → ∀ name, FoundAt quotes ctags old new f name →
    ∃ g ∈ ps, Touches ctags old new g name

end Meaning

/-! ## The tags of the files -/

section Tags
variable {quotes} {getCtags : String → List Tag} {ps : List PatchedFile}
  {tags tags' : OrderedMap String Slot}

/-- The loop that replaces the tasks by their results. -/
def awaitTags (quotes : String → Bool) (ps : List PatchedFile) (tags : OrderedMap String Slot) :
    Except PyError (OrderedMap String Slot) :=
  ps.foldlM (fun tags file =>
    match tags.value? (file.path quotes) with
    | some (.task result) => .ok (tags.set (file.path quotes) (.result result))
    | _ => .error .attributeError) tags

lemma awaitTags_cons {f : PatchedFile} {result : List Tag}
    (h : tags.value? (f.path quotes) = some (.task result)) :
    awaitTags quotes (f :: ps) tags =
      awaitTags quotes ps (tags.set (f.path quotes) (.result result)) := by
  rw [awaitTags,List.foldlM_cons,h]
  rfl

/-- A result has no result. -/
lemma awaitTags_of_result {f : PatchedFile} (hmem : f ∈ ps) {result : List Tag}
    (h : tags.value? (f.path quotes) = some (.result result)) :
    awaitTags quotes ps tags = .error .attributeError := by
  induction ps generalizing tags result with
  | nil => cases hmem
  | cons g ps ih =>
    cases hg : tags.value? (g.path quotes) with
    | none =>
      rw [awaitTags,List.foldlM_cons,hg]
      rfl
    | some slot =>
      cases slot with
      | result result' =>
        rw [awaitTags,List.foldlM_cons,hg]
        rfl
      | task tasked =>
        rw [awaitTags_cons hg]
        obtain rfl | hmem := List.mem_cons.mp hmem
        · rw [h] at hg
          cases hg
        · by_cases hpath : g.path quotes = f.path quotes
          · exact ih hmem (by rw [OrderedMap.value?_set,if_pos hpath])
          · exact ih hmem (by rw [OrderedMap.value?_set,if_neg hpath,h])

/-- Files of distinct paths get their results. -/
lemma awaitTags_of_nodup (hnodup : (ps.map (PatchedFile.path quotes)).Nodup)
    (htasks : ∀ f ∈ ps, tags.value? (f.path quotes) = some (.task (getCtags (f.path quotes)))) :
    ∃ tags', awaitTags quotes ps tags = .ok tags' ∧
      (∀ f ∈ ps, tags'.value? (f.path quotes) = some (.result (getCtags (f.path quotes)))) ∧
      ∀ path, path ∉ ps.map (PatchedFile.path quotes) → tags'.value? path = tags.value? path := by
  induction ps generalizing tags with
  | nil => exact ⟨tags,rfl,fun f hf => absurd hf List.not_mem_nil,fun _ _ => rfl⟩
  | cons f ps ih =>
    obtain ⟨hnotMem,hnodup⟩ := List.nodup_cons.mp hnodup
    have hothers : ∀ path, path ≠ f.path quotes → (tags.set (f.path quotes)
        (.result (getCtags (f.path quotes)))).value? path = tags.value? path := by
      intro path hne
      rw [OrderedMap.value?_set,if_neg (Ne.symm hne)]
    have htasks' : ∀ g ∈ ps, (tags.set (f.path quotes)
        (.result (getCtags (f.path quotes)))).value? (g.path quotes) =
          some (.task (getCtags (g.path quotes))) := by
      intro g hg
      have hne : g.path quotes ≠ f.path quotes := fun heq => hnotMem (heq ▸ List.mem_map_of_mem hg)
      rw [hothers _ hne]
      exact htasks g (List.mem_cons_of_mem _ hg)
    obtain ⟨tags',hawait,hresults,hrest⟩ := ih hnodup htasks'
    refine ⟨tags',(awaitTags_cons (htasks f List.mem_cons_self)).trans hawait,?_,?_⟩
    · intro g hg
      obtain rfl | hg := List.mem_cons.mp hg
      · rw [hrest _ hnotMem,OrderedMap.value?_set,if_pos rfl]
      · exact hresults g hg
    · intro path hpath
      rw [List.map_cons,List.mem_cons,not_or] at hpath
      rw [hrest path hpath.2,hothers path hpath.1]

/-- Of two files of one path the second one finds a result. -/
lemma awaitTags_of_not_nodup (hnodup : ¬(ps.map (PatchedFile.path quotes)).Nodup)
    (htasks : ∀ f ∈ ps, ∃ result, tags.value? (f.path quotes) = some (.task result)) :
    awaitTags quotes ps tags = .error .attributeError := by
  induction ps generalizing tags with
  | nil => exact absurd List.nodup_nil hnodup
  | cons f ps ih =>
    obtain ⟨result,hresult⟩ := htasks f List.mem_cons_self
    rw [awaitTags_cons hresult]
    by_cases hmem : f.path quotes ∈ ps.map (PatchedFile.path quotes)
    · obtain ⟨g,hg,hpath⟩ := List.mem_map.mp hmem
      apply awaitTags_of_result hg
      rw [OrderedMap.value?_set,if_pos hpath.symm]
    · apply ih
      · intro hrest
        exact hnodup (List.nodup_cons.mpr ⟨hmem,hrest⟩)
      · intro g hg
        obtain ⟨result',hresult'⟩ := htasks g (List.mem_cons_of_mem _ hg)
        have hne : f.path quotes ≠ g.path quotes := fun heq => hmem (heq ▸ List.mem_map_of_mem hg)
        exact ⟨result',by rw [OrderedMap.value?_set,if_neg hne,hresult']⟩

/-- The loop that creates the tasks. -/
lemma value?_tasks {f : PatchedFile} (hmem : f ∈ ps) :
    (ps.foldl (fun (tags : OrderedMap String Slot) file =>
      tags.set (file.path quotes) (.task (getCtags (file.path quotes)))) tags).value?
        (f.path quotes) = some (.task (getCtags (f.path quotes))) := by
  induction ps using List.reverseRecOn with
  | nil => cases hmem
  | append_singleton ps g ih =>
    rw [List.foldl_append,List.foldl_cons,List.foldl_nil,OrderedMap.value?_set]
    by_cases hpath : g.path quotes = f.path quotes
    · rw [if_pos hpath,hpath]
    · rw [if_neg hpath]
      apply ih
      obtain hmem | hmem := List.mem_append.mp hmem
      · exact hmem
      · exact absurd (congrArg _ (List.mem_singleton.mp hmem).symm) hpath

/-- The tags are collected unless a path occurs twice. -/
lemma collectTags_of_nodup (hnodup : (ps.map (PatchedFile.path quotes)).Nodup) :
    ∃ tags, collectTags quotes getCtags ps = .ok tags ∧ ∀ f ∈ ps,
      functionsAt tags (f.path quotes) = (getCtags (f.path quotes)).filter Tag.isFunction := by
  obtain ⟨tags,hawait,hresults,-⟩ := @awaitTags_of_nodup quotes getCtags ps _ hnodup
    fun f hf => value?_tasks hf
  refine ⟨tags,hawait,fun f hf => ?_⟩
  rw [functionsAt,hresults f hf]

lemma collectTags_of_not_nodup (hnodup : ¬(ps.map (PatchedFile.path quotes)).Nodup) :
    collectTags quotes getCtags ps = .error .attributeError :=
  awaitTags_of_not_nodup hnodup fun _ hf => ⟨_,value?_tasks hf⟩

end Tags

/-! ## What the loops add -/

/-- A part of the analysis adds so many lines and the functions of these names. -/
structure Adds (a a' : Analysis) (n : ℕ) (touches : String → Prop) : Prop where
  lines : a'.numModifiedLines = a.numModifiedLines+n
  functions : ∀ name, name ∈ a'.modifiedFunctions ↔ name ∈ a.modifiedFunctions ∨ touches name

namespace Adds
variable {a a' a'' : Analysis} {n n' : ℕ} {touches touches' : String → Prop}

lemma refl (a : Analysis) : Adds a a 0 fun _ => False :=
  ⟨rfl,fun _ => (iff_of_eq (or_false _)).symm⟩

lemma trans (h : Adds a a' n touches) (h' : Adds a' a'' n' touches') :
    Adds a a'' (n+n') fun name => touches name ∨ touches' name := by
  constructor
  · rw [h'.lines,h.lines,Nat.add_assoc]
  · intro name
    rw [h'.functions,h.functions,or_assoc]

lemma congr (h : Adds a a' n touches) (hn : n = n') (ht : ∀ name, touches name ↔ touches' name) :
    Adds a a' n' touches' := by
  constructor
  · rw [h.lines,hn]
  · intro name
    rw [h.functions,ht]

/-- What a loop adds, by what its passes add. -/
lemma foldl {α : Type} {step : Analysis → α → Analysis} {count : α → ℕ}
    {touched : α → String → Prop} {xs : List α}
    (h : ∀ a, ∀ x ∈ xs, Adds a (step a x) (count x) (touched x)) (a : Analysis) :
    Adds a (xs.foldl step a) (xs.map count).sum fun name => ∃ x ∈ xs, touched x name := by
  induction xs generalizing a with
  | nil => exact (refl a).congr rfl fun name => by simp
  | cons x xs ih =>
    have hx := h a x List.mem_cons_self
    have hxs := ih (fun a x' hx' => h a x' (List.mem_cons_of_mem _ hx')) (step a x)
    rw [List.foldl_cons]
    refine (hx.trans hxs).congr ?_ fun name => ?_
    · rw [List.map_cons,List.sum_cons]
    · rw [List.exists_mem_cons_iff]

end Adds

section Loops
variable {tags : List Tag} {functions : List String} {name : String}

lemma mem_foldl_insert {p : Tag → Bool} : name ∈ tags.foldl (fun functions tag =>
      if p tag then functions.insert tag.name else functions) functions ↔
    name ∈ functions ∨ ∃ tag ∈ tags, p tag = true ∧ tag.name = name := by
  induction tags generalizing functions with
  | nil => simp
  | cons tag tags ih =>
    rw [List.foldl_cons,ih,List.exists_mem_cons_iff]
    cases hp : p tag with
    | false => simp
    | true =>
      simp only [if_true,List.mem_insert_iff,true_and]
      rw [or_comm (a := name = tag.name),or_assoc,eq_comm]

/-- Only a line that is no context adds something. -/
lemma adds_line (tags : List Tag) (a : Analysis) (ln : LineType × ℕ) :
    Adds a (a.line tags ln) (changedNos [ln]).length
      fun name => ∃ k ∈ changedNos [ln], ∃ tag ∈ tags, tag.covers k = true ∧ tag.name = name := by
  by_cases hcontext : ln.1 = .context
  · have hnone : changedNos [ln] = [] := by simp [changedNos,hcontext]
    rw [Analysis.line,if_neg (not_not.mpr hcontext),hnone]
    exact (Adds.refl a).congr rfl fun name => by simp
  · have hone : changedNos [ln] = [ln.2] := by simp [changedNos,hcontext]
    rw [Analysis.line,if_pos hcontext,hone]
    refine ⟨rfl,fun name => ?_⟩
    rw [mem_foldl_insert]
    simp

lemma adds_lines (tags : List Tag) (lines : List (LineType × ℕ)) (a : Analysis) :
    Adds a (lines.foldl (Analysis.line tags) a) (changedNos lines).length
      fun name => ∃ k ∈ changedNos lines, ∃ tag ∈ tags, tag.covers k = true ∧ tag.name = name := by
  refine (Adds.foldl (fun a ln _ => adds_line tags a ln) a).congr ?_ fun name => ?_
  · induction lines with
    | nil => rfl
    | cons ln lines ih =>
      rw [List.map_cons,List.sum_cons,ih,← List.length_append,← changedNos_append,
        List.singleton_append]
  · constructor
    · rintro ⟨ln,hln,k,hk,htag⟩
      refine ⟨k,?_,htag⟩
      have hsub : [ln].Sublist lines := List.singleton_sublist.mpr hln
      exact ((hsub.filter _).map _).subset hk
    · rintro ⟨k,hk,htag⟩
      obtain ⟨ln,hln,rfl⟩ := List.mem_map.mp hk
      obtain ⟨hln,hne⟩ := List.mem_filter.mp hln
      exact ⟨ln,hln,ln.2,List.mem_map_of_mem (List.mem_filter.mpr ⟨List.mem_cons_self,hne⟩),htag⟩

/-- The functions of a list of tags that has been filtered. -/
lemma covered_filter {lineNos : List ℕ} :
    (∃ k ∈ lineNos, ∃ tag ∈ tags.filter Tag.isFunction, tag.covers k = true ∧ tag.name = name) ↔
      Covered tags lineNos name := by
  constructor
  · rintro ⟨k,hk,tag,htag,hcovers,hname⟩
    obtain ⟨htag,hfunction⟩ := List.mem_filter.mp htag
    exact ⟨tag,htag,hfunction,hname,k,hk,hcovers⟩
  · rintro ⟨tag,htag,hfunction,hname,k,hk,hcovers⟩
    exact ⟨k,hk,tag,List.mem_filter.mpr ⟨htag,hfunction⟩,hcovers,hname⟩

lemma adds_allOf (tags : List Tag) (a : Analysis) :
    Adds a (a.allOf (tags.filter Tag.isFunction)) 0 (HasFunction tags) := by
  refine ⟨rfl,fun name => ?_⟩
  have h := @mem_foldl_insert (tags.filter Tag.isFunction) a.modifiedFunctions name fun _ => true
  simp only [if_true,true_and,List.mem_filter,and_assoc] at h
  exact h

/-- The hunks of a file, by the tags of its two sides. -/
lemma adds_hunks (before after : List Tag) (f : PatchedFile) (a : Analysis) :
    Adds a (f.hunks.foldl (Analysis.hunk (before.filter Tag.isFunction)
        (after.filter Tag.isFunction)) a) f.changed
      fun name => Covered before f.removedNos name ∨ Covered after f.addedNos name := by
  have hhunk : ∀ a, ∀ h ∈ f.hunks, Adds a (Analysis.hunk (before.filter Tag.isFunction)
      (after.filter Tag.isFunction) a h)
      ((changedNos h.sourceLines).length+(changedNos h.targetLines).length) fun name =>
        Covered before (changedNos h.sourceLines) name ∨
          Covered after (changedNos h.targetLines) name := by
    intro a h _
    refine ((adds_lines (before.filter Tag.isFunction) h.sourceLines a).trans
      (adds_lines (after.filter Tag.isFunction) h.targetLines _)).congr rfl fun name => ?_
    rw [covered_filter,covered_filter]
  refine (Adds.foldl hhunk a).congr ?_ fun name => ?_
  · rw [PatchedFile.changed,PatchedFile.removedNos,PatchedFile.addedNos]
    induction f.hunks with
    | nil => rfl
    | cons h hs ih =>
      rw [List.map_cons,List.sum_cons,ih,List.flatMap_cons,List.flatMap_cons,List.length_append,
        List.length_append]
      omega
  · have hflat : ∀ (tags : List Tag) (side : Hunk → List ℕ),
        (∃ h ∈ f.hunks, Covered tags (side h) name) ↔ Covered tags (f.hunks.flatMap side) name := by
      intro tags side
      constructor
      · rintro ⟨h,hh,tag,htag,hfunction,hname,k,hk,hcovers⟩
        exact ⟨tag,htag,hfunction,hname,k,List.mem_flatMap.mpr ⟨h,hh,hk⟩,hcovers⟩
      · rintro ⟨tag,htag,hfunction,hname,k,hk,hcovers⟩
        obtain ⟨h,hh,hk⟩ := List.mem_flatMap.mp hk
        exact ⟨h,hh,tag,htag,hfunction,hname,k,hk,hcovers⟩
    rw [PatchedFile.removedNos,PatchedFile.addedNos,← hflat,← hflat]
    constructor
    · rintro ⟨h,hh,hremoved | hadded⟩
      · exact .inl ⟨h,hh,hremoved⟩
      · exact .inr ⟨h,hh,hadded⟩
    · rintro (⟨h,hh,hremoved⟩ | ⟨h,hh,hadded⟩)
      · exact ⟨h,hh,.inl hremoved⟩
      · exact ⟨h,hh,.inr hadded⟩

end Loops

section Files
variable {quotes} {ctags : String → List String → List Tag} {old new : String → List String}
  {f : PatchedFile} {ps : List PatchedFile}

/-- What one file adds. -/
lemma adds_analyzeFile {tagsBefore tagsAfter : OrderedMap String Slot}
    (hbefore : functionsAt tagsBefore (f.path quotes) =
      (ctags (f.path quotes) (old (f.path quotes))).filter Tag.isFunction)
    (hafter : functionsAt tagsAfter (f.path quotes) =
      (ctags (f.path quotes) (new (f.path quotes))).filter Tag.isFunction) (a : Analysis) :
    Adds a (analyzeFile quotes tagsBefore tagsAfter a f)
      (if Counted quotes f then f.changed else 0) (FoundAt quotes ctags old new f) := by
  unfold analyzeFile FoundAt
  rw [hbefore,hafter]
  by_cases hends : endsInCH (f.path quotes) = true
  · rw [if_neg (by simp [hends])]
    by_cases hadded : f.isAddedFile = true
    · have hcounted : ¬Counted quotes f := fun h =>
        Bool.false_ne_true (h.2.1.symm.trans hadded)
      rw [if_pos hadded,if_neg hcounted]
      exact (adds_allOf _ a).congr rfl fun name => by simp [hends,hadded]
    · rw [if_neg hadded]
      by_cases hremoved : f.isRemovedFile = true
      · have hcounted : ¬Counted quotes f := fun h =>
          Bool.false_ne_true (h.2.2.symm.trans hremoved)
        rw [if_pos hremoved,if_neg hcounted]
        exact (adds_allOf _ a).congr rfl fun name => by simp [hends,hadded,hremoved]
      · have hcounted : Counted quotes f := ⟨hends,by simpa using hadded,by simpa using hremoved⟩
        rw [if_neg hremoved,if_pos hcounted]
        exact (adds_hunks _ _ f a).congr rfl fun name => by simp [hends,hadded,hremoved]
  · have hcounted : ¬Counted quotes f := fun h => hends h.1
    rw [if_pos (by simpa using hends),if_neg hcounted]
    exact (Adds.refl a).congr rfl fun name => by simp [hends]

/-- The analysis of files of distinct paths. -/
lemma exists_analysis (hpaths : (ps.map (PatchedFile.path quotes)).Nodup) :
    ∃ a, analyzePatch quotes (fun path => ctags path (old path)) (fun path => ctags path (new path))
        ps = .ok a ∧
      a.numModifiedLines = (ps.map fun f => if Counted quotes f then f.changed else 0).sum ∧
      ∀ name, name ∈ a.modifiedFunctions ↔ ∃ f ∈ ps, FoundAt quotes ctags old new f name := by
  obtain ⟨tagsBefore,hbefore,hfunctionsBefore⟩ :=
    @collectTags_of_nodup quotes (fun path => ctags path (old path)) ps hpaths
  obtain ⟨tagsAfter,hafter,hfunctionsAfter⟩ :=
    @collectTags_of_nodup quotes (fun path => ctags path (new path)) ps hpaths
  have hadds := Adds.foldl (fun a f hf => adds_analyzeFile (hfunctionsBefore f hf)
    (hfunctionsAfter f hf) a) ⟨ps.foldl (fun files f =>
      if endsInCH (f.path quotes) then files.insert (f.path quotes) else files) [],[],0⟩
  refine ⟨_,?_,hadds.lines.trans (Nat.zero_add _),fun name => ?_⟩
  · rw [analyzePatch,hbefore]
    change (collectTags quotes _ ps >>= _) = _
    rw [hafter]
    rfl
  · rw [hadds.functions]
    simp

lemma analyzePatch_of_not_nodup (hpaths : ¬(ps.map (PatchedFile.path quotes)).Nodup)
    (ctagsBefore ctagsAfter : String → List Tag) :
    analyzePatch quotes ctagsBefore ctagsAfter ps = .error .attributeError := by
  rw [analyzePatch,collectTags_of_not_nodup hpaths]
  rfl

end Files

/-! ## What the patch says of the files -/

section Applied
variable {quotes} {ctags : String → List String → List Tag} {old new : String → List String}
  {f : PatchedFile} {ps : List PatchedFile}

/-- What has been written of a file that no later patch is for stays. -/
lemma lookup_of_applies {written final : List (String × List String)}
    (h : Applies old written ps final) {name : String} (hname : ∀ f ∈ ps, f.name ≠ name) :
    final.lookup name = written.lookup name := by
  induction h with
  | nil written => rfl
  | @cons written final f fs content _ _ _ _ ih =>
    rw [ih fun g hg => hname g (List.mem_cons_of_mem _ hg),List.lookup_cons]
    have hne : (name == f.name) = false := by simpa using (hname f List.mem_cons_self).symm
    rw [hne]

/-- A file is patched from what it was in the old tree. -/
lemma patched_of_applies {written final : List (String × List String)}
    (h : Applies old written ps final) (hnodup : (ps.map PatchedFile.name).Nodup)
    (hwritten : ∀ f ∈ ps, written.lookup f.name = none) :
    ∀ f ∈ ps, ∃ content, Patched 0 0 f.hunks (f.oldContent old) content ∧
      final.lookup f.name = some content ∧ (f.target = none → content = []) := by
  induction h with
  | nil written => exact fun f hf => absurd hf List.not_mem_nil
  | @cons written final f fs content hpatched _ hdeleted happlies ih =>
    obtain ⟨hnotMem,hnodup⟩ := List.nodup_cons.mp hnodup
    intro g hg
    obtain rfl | hg := List.mem_cons.mp hg
    · refine ⟨content,?_,?_,hdeleted⟩
      · have hpreimage : g.preimage old written = g.oldContent old := by
          unfold PatchedFile.preimage PatchedFile.oldContent
          cases hsource : g.source with
          | none => rfl
          | some name =>
            by_cases hrename : g.isRename = true
            · exact if_pos hrename
            · have hname : g.name = name := by
                unfold PatchedFile.isRename at hrename
                unfold PatchedFile.name
                rw [hsource] at hrename ⊢
                cases htarget : g.target with
                | none => rfl
                | some target =>
                  rw [htarget] at hrename
                  simp at hrename
                  exact hrename.symm
              have hnone := hwritten g List.mem_cons_self
              rw [hname] at hnone
              simp only [if_neg hrename,hnone,Option.getD_none]
        exact hpreimage ▸ hpatched
      · rw [lookup_of_applies happlies fun g' hg' heq => hnotMem (List.mem_map.mpr ⟨g',hg',heq⟩),
          List.lookup_cons_self]
    · refine ih hnodup (fun g' hg' => ?_) g hg
      have hne : (g'.name == f.name) = false := by
        simpa using fun heq : g'.name = f.name => hnotMem (List.mem_map.mpr ⟨g',hg',heq⟩)
      rw [List.lookup_cons,hne]
      exact hwritten g' (List.mem_cons_of_mem _ hg')

lemma nodup_names (hpaths : (ps.map (PatchedFile.path quotes)).Nodup) :
    (ps.map PatchedFile.name).Nodup := by
  have hmap : ps.map (PatchedFile.path quotes) = (ps.map PatchedFile.name).map fun name =>
      if quotes name then "\"" ++ name ++ "\"" else name := by
    rw [List.map_map]
    rfl
  rw [hmap] at hpaths
  exact List.Nodup.of_map _ hpaths

/-- Each file of distinct paths is patched from its old content into its new one. -/
lemma patched_of_appliesCleanly (h : AppliesCleanly old new ps)
    (hpaths : (ps.map (PatchedFile.path quotes)).Nodup) (hmem : f ∈ ps) :
    Patched 0 0 f.hunks (f.oldContent old) (new f.name) ∧ (f.target = none → new f.name = []) := by
  obtain ⟨written,happlies,hnew,-⟩ := h
  obtain ⟨content,hpatched,hlookup,hdeleted⟩ := patched_of_applies happlies (nodup_names hpaths)
    (fun _ _ => rfl) f hmem
  rw [hnew f hmem,hlookup]
  exact ⟨hpatched,hdeleted⟩

lemma oldContent_eq_nil {content : List String}
    (hpatched : Patched 0 0 f.hunks (f.oldContent old) content) (hadded : f.isAddedFile = true) :
    f.oldContent old = [] := by
  unfold PatchedFile.isAddedFile at hadded
  rw [Bool.or_eq_true] at hadded
  obtain hsource | hhunks := hadded
  · rw [PatchedFile.oldContent,Option.isNone_iff_eq_none.mp hsource]
  · split at hhunks
    · next h hsingle =>
      rw [hsingle] at hpatched
      simp only [Bool.and_eq_true,decide_eq_true_eq] at hhunks
      exact hpatched.old_eq_nil hhunks.1 hhunks.2
    · cases hhunks

lemma content_eq_nil {content : List String}
    (hpatched : Patched 0 0 f.hunks (f.oldContent old) content)
    (hdeleted : f.target = none → content = []) (hremoved : f.isRemovedFile = true) :
    content = [] := by
  unfold PatchedFile.isRemovedFile at hremoved
  rw [Bool.or_eq_true] at hremoved
  obtain htarget | hhunks := hremoved
  · exact hdeleted (Option.isNone_iff_eq_none.mp htarget)
  · split at hhunks
    · next h hsingle =>
      rw [hsingle] at hpatched
      simp only [Bool.and_eq_true,decide_eq_true_eq] at hhunks
      exact hpatched.new_eq_nil hhunks.1 hhunks.2
    · cases hhunks

lemma not_covered_nil {tags : List Tag} {name : String} : ¬Covered tags [] name := by
  rintro ⟨tag,-,-,-,k,hk,-⟩
  cases hk

/-- A file without lines has no functions. -/
lemma not_covered_of_nil (hranges : RangesInFile ctags) {path name : String} {lineNos : List ℕ} :
    ¬Covered (ctags path []) lineNos name := by
  rintro ⟨tag,htag,hfunction,-⟩
  have hrange := hranges path [] tag htag hfunction
  simp only [List.length_nil] at hrange
  omega

/-- A function has a line of its file in it. -/
lemma covered_iff_hasFunction (hranges : RangesInFile ctags) {path name : String}
    {content : List String} {lineNos : List ℕ}
    (hall : ∀ k, 1 ≤ k → k ≤ content.length → k ∈ lineNos) :
    Covered (ctags path content) lineNos name ↔ HasFunction (ctags path content) name := by
  constructor
  · rintro ⟨tag,htag,hfunction,hname,-⟩
    exact ⟨tag,htag,hfunction,hname⟩
  · rintro ⟨tag,htag,hfunction,hname⟩
    have hrange := hranges path content tag htag hfunction
    refine ⟨tag,htag,hfunction,hname,tag.line,hall _ hrange.1 (by omega),?_⟩
    simp only [Tag.covers,Bool.and_eq_true,decide_eq_true_eq]
    omega

/-- A file that is not renamed has one name. -/
lemma source_eq_name (hrename : f.isRename = false) (hsource : f.source ≠ none) :
    f.source = some f.name := by
  obtain ⟨name,hname⟩ := Option.ne_none_iff_exists'.mp hsource
  unfold PatchedFile.isRename at hrename
  unfold PatchedFile.name
  rw [hname] at hrename ⊢
  cases htarget : f.target with
  | none => rfl
  | some target =>
    rw [htarget] at hrename
    simp at hrename
    rw [hrename]
    rfl

/-- For a file that is looked up where it was, the functions found are those that it touches. -/
lemma foundAt_iff_touches (hranges : RangesInFile ctags)
    (hpatched : Patched 0 0 f.hunks (f.oldContent old) (new f.name))
    (hdeleted : f.target = none → new f.name = []) (hread : ¬Misread quotes f) (name : String) :
    FoundAt quotes ctags old new f name ↔ Touches ctags old new f name := by
  obtain ⟨hquotes,hrename⟩ := not_or.mp hread
  have hpath : f.path quotes = f.name := if_neg hquotes
  unfold FoundAt Touches
  rw [hpath]
  refine and_congr_right fun _ => ?_
  by_cases hadded : f.isAddedFile = true
  · rw [if_pos hadded]
    have hold := oldContent_eq_nil hpatched hadded
    rw [hold] at hpatched
    have hremovedNos : f.removedNos = [] := List.flatMap_eq_nil_iff.mpr hpatched.removed_eq_nil
    have hall : ∀ k, 1 ≤ k → k ≤ (new f.name).length → k ∈ f.addedNos := by
      intro k hlt hle
      exact List.mem_flatMap.mpr (hpatched.mem_added (by omega) (by omega))
    rw [hremovedNos,covered_iff_hasFunction hranges hall]
    exact (or_iff_right not_covered_nil).symm
  · have hrename : f.isRename = false := by simpa [hadded] using hrename
    rw [if_neg hadded]
    have hsource : f.source = some f.name := by
      apply source_eq_name hrename
      intro hnone
      apply hadded
      rw [PatchedFile.isAddedFile,hnone]
      rfl
    have hold : f.oldContent old = old f.name := by rw [PatchedFile.oldContent,hsource]
    have htags : oldTags ctags old f = ctags f.name (old f.name) := by rw [oldTags,hsource]
    rw [htags]
    by_cases hremoved : f.isRemovedFile = true
    · rw [if_pos hremoved]
      have hnew := content_eq_nil hpatched hdeleted hremoved
      rw [hnew,hold] at hpatched
      have hall : ∀ k, 1 ≤ k → k ≤ (old f.name).length → k ∈ f.removedNos := by
        intro k hlt hle
        exact List.mem_flatMap.mpr (hpatched.mem_removed (by omega) (by omega))
      rw [hnew,covered_iff_hasFunction hranges hall]
      exact (or_iff_left (not_covered_of_nil hranges)).symm
    · rw [if_neg hremoved]

lemma sum_le_sum {α : Type} {xs : List α} {m n : α → ℕ} (hle : ∀ x ∈ xs, m x ≤ n x) :
    (xs.map m).sum ≤ (xs.map n).sum := by
  induction xs with
  | nil => exact le_rfl
  | cons x xs ih =>
    have hx := hle x List.mem_cons_self
    have hxs := ih fun x' hx' => hle x' (List.mem_cons_of_mem x hx')
    rw [List.map_cons,List.map_cons,List.sum_cons,List.sum_cons]
    omega

/-- Of two sums, the one of which no term is greater is the same only where all terms are. -/
lemma sum_eq_sum_iff {α : Type} {xs : List α} {m n : α → ℕ} (hle : ∀ x ∈ xs, m x ≤ n x) :
    (xs.map m).sum = (xs.map n).sum ↔ ∀ x ∈ xs, m x = n x := by
  induction xs with
  | nil => simp
  | cons x xs ih =>
    have hx := hle x List.mem_cons_self
    have hxs := fun x' hx' => hle x' (List.mem_cons_of_mem x hx')
    have hsum : (xs.map m).sum ≤ (xs.map n).sum := sum_le_sum hxs
    rw [List.map_cons,List.map_cons,List.sum_cons,List.sum_cons,List.forall_mem_cons,← ih hxs]
    omega

lemma sum_filter {α : Type} {p : α → Bool} {n : α → ℕ} (xs : List α) :
    ((xs.filter p).map n).sum = (xs.map fun x => if p x then n x else 0).sum := by
  induction xs with
  | nil => rfl
  | cons x xs ih =>
    cases hp : p x with
    | true => simp [hp,ih]
    | false => simp [hp,ih]

lemma endsInCH_name_of_counted (h : Counted quotes f) : endsInCH f.name = true := by
  have hends := h.1
  unfold PatchedFile.path at hends
  by_cases hquotes : quotes f.name = true
  · rw [if_pos hquotes] at hends
    simp [endsInCH,String.toList_append] at hends
  · rw [if_neg hquotes] at hends
    exact hends

/-- The analysis of a patch that applies is exact where the patch is well read. -/
theorem analyzePatch_exact_iff (hranges : RangesInFile ctags)
    (hclean : AppliesCleanly old new ps) :
    Exact ctags old new ps (analyzePatch quotes (fun path => ctags path (old path))
      (fun path => ctags path (new path)) ps) ↔ WellRead quotes ctags old new ps := by
  by_cases hpaths : (ps.map (PatchedFile.path quotes)).Nodup
  · obtain ⟨a,hresult,hlines,hfunctions⟩ :=
      @exists_analysis quotes ctags old new ps hpaths
    have hfound : ∀ f ∈ ps, ¬Misread quotes f → ∀ name, FoundAt quotes ctags old new f name ↔
        Touches ctags old new f name := by
      intro f hf hread name
      obtain ⟨hpatched,hdeleted⟩ := patched_of_appliesCleanly hclean hpaths hf
      exact foundAt_iff_touches hranges hpatched hdeleted hread name
    have hcounted : a.numModifiedLines =
        ((ps.filter fun f => endsInCH f.name).map PatchedFile.changed).sum ↔
        ∀ f ∈ ps, endsInCH f.name = true → ¬Counted quotes f → f.changed = 0 := by
      rw [hlines,sum_filter,sum_eq_sum_iff]
      · apply forall_congr'
        intro f
        apply imp_congr_right
        intro _
        by_cases hc : Counted quotes f
        · simp [hc,endsInCH_name_of_counted hc]
        · by_cases hends : endsInCH f.name = true
          · simp only [if_neg hc,if_pos hends]
            exact ⟨fun h _ _ => h.symm,fun h => (h hends hc).symm⟩
          · simp only [if_neg hc,if_neg hends]
            exact ⟨fun _ h => absurd h hends,fun _ => trivial⟩
      · intro f _
        by_cases hc : Counted quotes f
        · simp [hc,endsInCH_name_of_counted hc]
        · simp [hc]
    rw [hresult]
    constructor
    · rintro ⟨a',ha,hnum,hnames⟩
      obtain rfl := Except.ok.inj ha
      have hsame := fun name => (hfunctions name).symm.trans (hnames name)
      exact ⟨hpaths,hcounted.mp hnum,fun f hf _ name h => (hsame name).mpr ⟨f,hf,h⟩,
        fun f hf _ name h => (hsame name).mp ⟨f,hf,h⟩⟩
    · rintro ⟨-,hnone,hmisread,htouched⟩
      refine ⟨a,rfl,hcounted.mpr hnone,fun name => ?_⟩
      rw [hfunctions]
      constructor
      · rintro ⟨f,hf,h⟩
        by_cases hread : Misread quotes f
        · exact htouched f hf hread name h
        · exact ⟨f,hf,(hfound f hf hread name).mp h⟩
      · rintro ⟨f,hf,h⟩
        by_cases hread : Misread quotes f
        · exact hmisread f hf hread name h
        · exact ⟨f,hf,(hfound f hf hread name).mpr h⟩
  · rw [analyzePatch_of_not_nodup hpaths]
    constructor
    · rintro ⟨a,ha,-⟩
      cases ha
    · rintro ⟨hnodup,-⟩
      exact absurd hnodup hpaths

end Applied

end Main

/-- One function that takes the whole of a file. -/
def wholeFile (path : String) (content : List String) : List Tag :=
  if content = [] then []
  else [⟨if path = "b.h" then "helper" else "init","function",1,some content.length⟩]

lemma rangesInFile_wholeFile : RangesInFile wholeFile := by
  intro path content tag htag _
  by_cases hempty : content = []
  · rw [wholeFile,if_pos hempty] at htag
    cases htag
  · rw [wholeFile,if_neg hempty] at htag
    obtain rfl := List.mem_singleton.mp htag
    have hlength := List.length_pos_iff.mpr hempty
    exact ⟨le_rfl,hlength,le_rfl⟩

def oldTree (name : String) : List String :=
  if name = "old.c" then ["int x;","int z;"]
  else if name = "b.h" then ["#define A 1","","#define B 2"]
  else []

def newTree (name : String) : List String :=
  if name = "a.c" then ["int y;","int z;"]
  else if name = "b.h" then ["#define A 3","","#define B 4"]
  else []

/-- A file that is renamed, with another line. -/
def renamedFile : PatchedFile :=
  ⟨some "old.c",some "a.c",
    [⟨1,2,1,2,[⟨.removed,"int x;"⟩,⟨.added,"int y;"⟩,⟨.context,"int z;"⟩]⟩]⟩

def modifiedFile : PatchedFile :=
  ⟨some "b.h",some "b.h",
    [⟨1,2,1,2,[⟨.removed,"#define A 1"⟩,⟨.added,"#define A 3"⟩,⟨.context,""⟩]⟩,
      ⟨3,1,3,1,[⟨.removed,"#define B 2"⟩,⟨.added,"#define B 4"⟩]⟩]⟩

lemma twoFiles_appliesCleanly : AppliesCleanly oldTree newTree [renamedFile,modifiedFile] := by
  refine ⟨[("b.h",newTree "b.h"),("a.c",newTree "a.c")],?_,?_,?_⟩
  · refine .cons (?_ : Patched 0 0 renamedFile.hunks _ (newTree "a.c")) nofun nofun
      (.cons (?_ : Patched 0 0 modifiedFile.hunks _ (newTree "b.h")) nofun nofun (.nil _))
    · exact .hunk [] rfl rfl rfl rfl (.inl rfl) (.done [])
    · exact .hunk [] rfl rfl rfl rfl (.inl rfl) (.hunk [] rfl rfl rfl rfl (.inr rfl) (.done []))
  · intro f hf
    simp only [List.mem_cons,List.not_mem_nil,or_false] at hf
    obtain rfl | rfl := hf <;> rfl
  · intro name hname
    obtain ⟨hnew,hold⟩ := hname renamedFile List.mem_cons_self
    have hsame := (hname modifiedFile (List.mem_cons_of_mem _ List.mem_cons_self)).1
    have hnew : name ≠ "a.c" := fun heq => hnew heq.symm
    have hold : name ≠ "old.c" := fun heq => hold rfl (congrArg some heq.symm)
    have hsame : name ≠ "b.h" := fun heq => hsame heq.symm
    simp only [oldTree,newTree,if_neg hnew,if_neg hold,if_neg hsame]

/-- The removed line is found in no function, where the added one is found in the same function. -/
theorem analyzePatch_exact_iff_twoFiles :
    Exact wholeFile oldTree newTree [renamedFile,modifiedFile]
      (analyzePatch (fun _ => false) (fun path => wholeFile path (oldTree path))
        (fun path => wholeFile path (newTree path)) [renamedFile,modifiedFile]) := by
  have hinit : ∀ {path content lineNos name}, path ≠ "b.h" →
      Covered (wholeFile path content) lineNos name → name = "init" := by
    rintro path content lineNos name hpath ⟨tag,htag,-,rfl,-⟩
    by_cases hempty : content = []
    · rw [wholeFile,if_pos hempty] at htag
      cases htag
    · rw [wholeFile,if_neg hempty,if_neg hpath] at htag
      exact congrArg Tag.name (List.mem_singleton.mp htag)
  have hcovered : Covered (wholeFile "a.c" (newTree "a.c")) renamedFile.addedNos "init" :=
    ⟨⟨"init","function",1,some 2⟩,by decide,rfl,rfl,1,by decide,by decide⟩
  have hread : ¬Misread (fun _ => false) modifiedFile := by
    simp [Misread,modifiedFile,PatchedFile.isRename]
  refine (analyzePatch_exact_iff rangesInFile_wholeFile twoFiles_appliesCleanly).mpr
    ⟨by decide,?_,?_,?_⟩
  · intro f hf _ hcounted
    simp only [List.mem_cons,List.not_mem_nil,or_false] at hf
    obtain rfl | rfl := hf <;> exact absurd (by decide) hcounted
  · intro f hf hmisread name htouches
    simp only [List.mem_cons,List.not_mem_nil,or_false] at hf
    obtain rfl | rfl := hf
    · obtain rfl : name = "init" := htouches.2.elim (hinit (by decide)) (hinit (by decide))
      exact ⟨renamedFile,List.mem_cons_self,by decide,.inr hcovered⟩
    · exact absurd hmisread hread
  · intro f hf hmisread name hfound
    simp only [List.mem_cons,List.not_mem_nil,or_false] at hf
    obtain rfl | rfl := hf
    · obtain ⟨-,hfound⟩ := hfound
      obtain rfl : name = "init" := hfound.elim (hinit (by decide)) (hinit (by decide))
      exact ⟨renamedFile,List.mem_cons_self,by decide,.inr hcovered⟩
    · exact absurd hmisread hread

/-- A file of one line that was not there. -/
def addedFile : PatchedFile := ⟨none,some "a.c",[⟨0,0,1,1,[⟨.added,"int x;"⟩]⟩]⟩

lemma addedFile_appliesCleanly : AppliesCleanly (fun _ => [])
    (fun name => if name = "a.c" then ["int x;"] else []) [addedFile] := by
  refine ⟨[("a.c",["int x;"])],?_,?_,?_⟩
  · refine .cons ?_ (fun _ => rfl) nofun (.nil _)
    exact .hunk [] rfl rfl rfl rfl (.inr rfl) (.done [])
  · intro f hf
    obtain rfl := List.mem_singleton.mp hf
    rfl
  · intro name hname
    have hne : name ≠ "a.c" := fun heq =>
      (hname addedFile List.mem_cons_self).1 heq.symm
    exact if_neg hne

/-- The line of an added file is not counted. -/
theorem analyzePatch_skips_addedFile : ¬∀ (quotes : String → Bool)
    (ctags : String → List String → List Tag) (old new : String → List String)
    (ps : List PatchedFile), RangesInFile ctags → AppliesCleanly old new ps →
      Exact ctags old new ps (analyzePatch quotes (fun path => ctags path (old path))
        (fun path => ctags path (new path)) ps) := by
  intro h
  obtain ⟨a,hresult,hlines,-⟩ := h (fun _ => false) wholeFile _ _ [addedFile]
    rangesInFile_wholeFile addedFile_appliesCleanly
  have hanalysis : analyzePatch (fun _ => false) (fun path => wholeFile path [])
      (fun path => wholeFile path (if path = "a.c" then ["int x;"] else [])) [addedFile] =
      .ok ⟨["a.c"],["init"],0⟩ := by
    rfl
  rw [hanalysis] at hresult
  obtain rfl := Except.ok.inj hresult
  have hchanged : ((List.filter (fun f => endsInCH f.name) [addedFile]).map
      PatchedFile.changed).sum = 1 := by
    rfl
  rw [hchanged] at hlines
  cases hlines

end LiveKBench.KEnv
