import LiveKBench.KCore.JobIdCodec
import LiveKBench.Lib.OrderedMap
import Mathlib.Data.List.TakeWhile

/-! The instruction counts of a disassembly. `count_instructions` goes through the lines of
`objdump -d -l` once; here are the lines of its listings, and what the pass makes of them. -/
namespace LiveKBench.KPreBuilder
open KCore Lib

/-- `[a-zA-Z0-9_\.]`. -/
def isNameChar (c : Char) : Bool := c.isAlphanum || c = '_' || c = '.'

/-- `function_pattern`: the name in the header of a function. -/
def headerName (line : String) : Option String :=
  match line.toList.dropWhile isHexDigit with
  | ' ' :: '<' :: rest =>
    if line.toList.takeWhile isHexDigit ≠ [] ∧ rest.takeWhile isNameChar ≠ [] ∧
        rest.dropWhile isNameChar = ['>',':'] then
      some (String.ofList (rest.takeWhile isNameChar))
    else none
  | _ => none

/-- `file_specifier_pattern`: the path before the number of a line. -/
def fileSpecifier (line : String) : Option String :=
  match line.toList.reverse.dropWhile Char.isDigit with
  | ':' :: path =>
    if line.toList.reverse.takeWhile Char.isDigit ≠ [] ∧ path ≠ [] then
      some (String.ofList path.reverse)
    else none
  | _ => none

/-- `line[-3:]`. -/
def lastThree (line : String) : List Char := line.toList.drop (line.toList.length-3)

/-- The variables of the pass. The order of the set `symb` is not fixed; here it is the order in
which the names were added. -/
structure Scan where
  inFunction : Bool
  correctFile : Bool
  functionName : String
  instructionsCount : ℕ
  d : OrderedMap String ℕ
  symb : List String

namespace Scan

def start : Scan := ⟨false,false,"",0,.empty,[]⟩

/-- The blank line after a function whose file was found. -/
def record (s : Scan) : Scan :=
  { s with
    inFunction := false
    correctFile := false
    d := s.d.set s.functionName s.instructionsCount
    symb := if s.functionName ∈ s.symb then s.symb else s.symb ++ [s.functionName] }

def line (sourceFile : String) (s : Scan) (line : String) : Scan :=
  if !s.inFunction then
    match headerName line with
    | some name => { s with functionName := name, inFunction := true, instructionsCount := 0 }
    | none => s
  else if pyStrip line = "" then
    if s.correctFile then s.record else { s with inFunction := false }
  else if !s.correctFile then
    match fileSpecifier line with
    | some filePath => if pyIn sourceFile filePath then { s with correctFile := true } else s
    | none => s
  else if lastThree line ≠ "():".toList then
    { s with instructionsCount := s.instructionsCount+1 }
  else s

end Scan

/-- `count_instructions` on the lines of the listing. -/
def countInstructions (lines : List String) (sourceFile : String) :
    OrderedMap String ℕ × ℕ × List String :=
  let s := lines.foldl (Scan.line sourceFile) Scan.start
  (s.d,s.symb.length,s.symb)

structure ModifiedFunction where
  functionName : String
  instructionCountBefore : ℕ
  instructionCountAfter : ℕ
  deriving DecidableEq, Repr

/-- `d[symb]` of a symbol that is there. -/
def count (d : OrderedMap String ℕ) (symb : String) : ℕ := (d.value? symb).getD 0

def compareBinariesSubutil (lines1 lines2 : List String) (sourceFile : String) :
    List ModifiedFunction :=
  let (dict1,_,symb1) := countInstructions lines1 sourceFile
  let (dict2,_,symb2) := countInstructions lines2 sourceFile
  ((symb1.filter fun symb => symb ∈ symb2 &&
      0 < ((count dict1 symb : ℤ)-count dict2 symb).natAbs).map fun symb =>
    ⟨symb,count dict1 symb,count dict2 symb⟩) ++
  ((symb1.filter fun symb => symb ∉ symb2).map fun symb => ⟨symb,count dict1 symb,0⟩) ++
  (symb2.filter fun symb => symb ∉ symb1).map fun symb => ⟨symb,0,count dict2 symb⟩

/-! ## Listings -/

/-- A line of a place in a source file. -/
structure Place where
  path : String
  line : ℕ
  discriminator : Option ℕ
  path_ne : path ≠ ""

def Place.text (a : Place) : String :=
  match a.discriminator with
  | none => s!"{a.path}:{a.line}"
  | some n => s!"{a.path}:{a.line} (discriminator {n})"

/-- A line of an instruction looks like none of the others. -/
structure Instruction where
  text : String
  notBlank : pyStrip text ≠ ""
  noHeader : headerName text = none
  noPlace : fileSpecifier text = none
  noName : lastThree text ≠ "():".toList

/-- The lines of a function below its header. -/
inductive Line
  | name (function : String)
  | place (a : Place)
  | instruction (i : Instruction)

namespace Line

def text : Line → String
  | name function => s!"{function}():"
  | place a => a.text
  | instruction i => i.text

def isName : Line → Bool
  | name _ => true
  | _ => false

def isInstruction : Line → Bool
  | instruction _ => true
  | _ => false

def isPlace : Line → Bool
  | place _ => true
  | _ => false

/-- An annotation in the source file. -/
def inSource (sourceFile : String) : Line → Bool
  | place a => pyIn sourceFile a.path
  | _ => false

/-- Such an annotation without a discriminator. -/
def opens (sourceFile : String) : Line → Bool
  | place a => a.discriminator.isNone && pyIn sourceFile a.path
  | _ => false

end Line

structure Function where
  address : String
  name : String
  lines : List Line
  address_ne : address ≠ ""
  hex : ∀ c ∈ address.toList, isHexDigit c = true

namespace Function
variable (sourceFile : String) (f : Function)

def text : List String := s!"{f.address} <{f.name}>:" :: f.lines.map Line.text

def annotated : Bool := f.lines.any (Line.inSource sourceFile)

def instructions : ℕ := f.lines.countP Line.isInstruction

/-- The header is one for `function_pattern`, and an annotation in the source file has no
discriminator. -/
def recorded : Bool :=
  f.name ≠ "" && f.name.toList.all isNameChar && f.lines.any (Line.opens sourceFile)

/-- The lines after the first annotation in the source file without a discriminator, but for those
of names. -/
def linesAfter : ℕ :=
  (f.lines.dropWhile fun l => !l.opens sourceFile).tail.countP fun l => !l.isName

/-- The instructions before that annotation. -/
def instructionsBefore : ℕ :=
  (f.lines.takeWhile fun l => !l.opens sourceFile).countP Line.isInstruction

/-- The annotations after it. -/
def placesAfter : ℕ :=
  (f.lines.dropWhile fun l => !l.opens sourceFile).tail.countP Line.isPlace

def withoutAnnotations : Function := { f with lines := f.lines.filter fun l => !l.isPlace }

end Function

/-- What stands between two blank lines: a function, or a text that is no header. -/
inductive Block
  | function (f : Function)
  | other (text : String) (noHeader : headerName text = none)

def Block.text : Block → List String
  | function f => f.text
  | other text _ => [text]

def Block.function? : Block → Option Function
  | function f => some f
  | other _ _ => none

def Block.withoutAnnotations : Block → Block
  | function f => function f.withoutAnnotations
  | other text noHeader => other text noHeader

/-- Each block is followed by a blank line; after `last` there is none. -/
structure Listing where
  blocks : List Block
  last : Option Function

namespace Listing
variable (l : Listing) (sourceFile : String)

def lines : List String :=
  (l.blocks.flatMap fun b => b.text ++ [""]) ++ (l.last.map Function.text).getD []

/-- The functions before a blank line. -/
def closed : List Function := l.blocks.filterMap Block.function?

def functions : List Function := l.closed ++ l.last.toList

/-- Each function with an annotation in the source file has its number of instructions, and no
other function is there. -/
def Exact (d : OrderedMap String ℕ) : Prop :=
  (∀ f ∈ l.functions, f.annotated sourceFile → d.value? f.name = some f.instructions) ∧
  ∀ name, d.value? name ≠ none → ∃ f ∈ l.functions, f.name = name ∧ f.annotated sourceFile

/-- The listing without its annotations. -/
def withoutAnnotations : Listing where
  blocks := l.blocks.map Block.withoutAnnotations
  last := l.last.map Function.withoutAnnotations

/-- The last function of the name whose lines are counted. -/
def lastRecorded (name : String) : Option Function :=
  (l.closed.filter fun f => f.recorded sourceFile && f.name = name).getLast?

end Listing

/-! ## What the patterns make of the lines -/

section Lines
variable {text name sourceFile : String}

/-- A text with something in it is not blank. -/
lemma pyStrip_ne_of_mem {c : Char} (hmem : c ∈ text.toList) (hc : isPySpace c = false) :
    pyStrip text ≠ "" := by
  intro h
  have hnil : (text.toList.dropWhile isPySpace).reverse.dropWhile isPySpace = [] := by
    have hlist := congrArg String.toList h
    simpa [pyStrip] using hlist
  rw [List.dropWhile_eq_nil_iff] at hnil
  have hdrop : text.toList.dropWhile isPySpace = [] := by
    cases hd : text.toList.dropWhile isPySpace with
    | nil => rfl
    | cons c' rest =>
      have hhead := List.head_dropWhile_not isPySpace (l := text.toList) (by simp [hd])
      simp only [hd,List.head_cons] at hhead
      have hspace := hnil c' (by simp [hd])
      rw [hhead] at hspace
      cases hspace
  rw [List.dropWhile_eq_nil_iff] at hdrop
  have hspace := hdrop c hmem
  rw [hc] at hspace
  cases hspace

/-- A header ends in its bracket. -/
lemma reverse_of_headerName (h : headerName text = some name) :
    ∃ rest, text.toList.reverse = ':' :: '>' :: rest := by
  unfold headerName at h
  split at h
  · rename_i rest hdrop
    split at h
    · rename_i hname
      have hsuffix : ['>',':'] <:+ text.toList := by
        have hrest : ['>',':'] <:+ rest := hname.2.2 ▸ List.dropWhile_suffix isNameChar
        have htext : ' ' :: '<' :: rest <:+ text.toList := hdrop ▸ List.dropWhile_suffix isHexDigit
        exact hrest.trans (((List.suffix_cons _ _).trans (List.suffix_cons _ _)).trans htext)
      obtain ⟨start,hstart⟩ := hsuffix
      exact ⟨start.reverse,by rw [← hstart]; simp⟩
    · cases h
  · cases h

lemma reverse_of_lastThree (h : lastThree text = "():".toList) :
    ∃ rest, text.toList.reverse = ':' :: ')' :: rest := by
  have htext := List.take_append_drop (text.toList.length-3) text.toList
  rw [lastThree] at h
  rw [h] at htext
  exact ⟨'(' :: (text.toList.take (text.toList.length-3)).reverse,by rw [← htext]; simp⟩

end Lines

lemma Place.reverse_text_of_none {a : Place} (h : a.discriminator = none) :
    a.text.toList.reverse =
      (Nat.toDigits 10 a.line).reverse ++ ':' :: a.path.toList.reverse := by
  rw [Place.text,h]
  simp [toString]

lemma Place.reverse_text_of_some {a : Place} {n : ℕ} (h : a.discriminator = some n) :
    ∃ rest, a.text.toList.reverse = ')' :: rest := by
  rw [Place.text,h]
  simp [toString]

lemma takeWhile_isDigit_of_not {c : Char} {rest : List Char} (h : c.isDigit = false) :
    (c :: rest).takeWhile Char.isDigit = [] := by
  rw [List.takeWhile_cons,h]
  rfl

lemma fileSpecifier_of_not_isDigit {text : String} {c : Char} {rest : List Char}
    (h : text.toList.reverse = c :: rest) (hc : c.isDigit = false) : fileSpecifier text = none := by
  rw [fileSpecifier,h]
  split
  · rw [if_neg fun hne => hne.1 (takeWhile_isDigit_of_not hc)]
  · rfl

lemma Place.fileSpecifier_text (a : Place) :
    fileSpecifier a.text = if a.discriminator = none then some a.path else none := by
  cases hd : a.discriminator with
  | some n =>
    obtain ⟨rest,hrest⟩ := Place.reverse_text_of_some hd
    rw [fileSpecifier_of_not_isDigit hrest rfl]
    rfl
  | none =>
    have hdigits : ∀ c ∈ (Nat.toDigits 10 a.line).reverse, c.isDigit = true := by
      intro c hc
      exact Nat.isDigit_of_mem_toDigits (by decide) (by decide) (List.mem_reverse.mp hc)
    have hne : (Nat.toDigits 10 a.line).reverse ≠ [] := by simp
    have hpath : a.path.toList.reverse ≠ [] := by
      simpa using a.path_ne
    rw [fileSpecifier,Place.reverse_text_of_none hd,List.dropWhile_append_of_pos hdigits,
      List.takeWhile_append_of_pos hdigits,List.dropWhile_cons_of_neg (by decide),
      List.takeWhile_cons_of_neg (by decide),List.append_nil]
    simp only [if_true]
    rw [if_pos ⟨hne,hpath⟩,List.reverse_reverse,String.ofList_toList]

/-- The last character of an annotation is a digit or a bracket. -/
lemma Place.reverse_text_ne (a : Place) (rest : List Char) :
    a.text.toList.reverse ≠ ':' :: rest := by
  cases hd : a.discriminator with
  | some n =>
    obtain ⟨rest',hrest⟩ := Place.reverse_text_of_some hd
    rw [hrest]
    intro h
    exact absurd (List.cons.inj h).1 (by decide)
  | none =>
    rw [Place.reverse_text_of_none hd]
    cases hdigits : (Nat.toDigits 10 a.line).reverse with
    | nil => simp at hdigits
    | cons c digits =>
      intro h
      have hmem : c ∈ Nat.toDigits 10 a.line := by
        rw [← List.mem_reverse,hdigits]
        exact List.mem_cons_self
      have hdigit := Nat.isDigit_of_mem_toDigits (by decide) (by decide) hmem
      rw [(List.cons.inj h).1] at hdigit
      revert hdigit
      decide

namespace Line
variable (l : Line) (sourceFile : String)

lemma reverse_text_name (function : String) :
    (name function).text.toList.reverse = ':' :: ')' :: '(' :: function.toList.reverse := by
  simp [text,toString]

lemma notBlank_text : pyStrip l.text ≠ "" := by
  cases l with
  | instruction i => exact i.notBlank
  | name function =>
    have hmem : ':' ∈ (name function).text.toList := by
      rw [← List.mem_reverse,reverse_text_name]
      exact List.mem_cons_self
    exact pyStrip_ne_of_mem hmem (by decide)
  | place a =>
    have hmem : ':' ∈ (place a).text.toList := by
      rw [text,Place.text]
      split <;> simp [toString]
    exact pyStrip_ne_of_mem hmem (by decide)

lemma headerName_text : headerName l.text = none := by
  cases l with
  | instruction i => exact i.noHeader
  | name function =>
    cases h : headerName (name function).text with
    | none => rfl
    | some header =>
      obtain ⟨rest,hrest⟩ := reverse_of_headerName h
      rw [reverse_text_name] at hrest
      exact absurd (List.cons.inj (List.cons.inj hrest).2).1 (by decide)
  | place a =>
    cases h : headerName (place a).text with
    | none => rfl
    | some header =>
      obtain ⟨rest,hrest⟩ := reverse_of_headerName h
      exact absurd hrest (a.reverse_text_ne _)

/-- Only a line of a name ends like one. -/
lemma lastThree_text : lastThree l.text = "():".toList ↔ l.isName = true := by
  cases l with
  | instruction i => exact iff_of_false i.noName (by simp [isName])
  | name function =>
    refine iff_of_true ?_ rfl
    have htext : (name function).text.toList = function.toList ++ "():".toList := by
      simp [text,toString]
    rw [lastThree,htext,List.length_append]
    exact List.drop_left
  | place a =>
    refine iff_of_false (fun h => ?_) (by simp [isName])
    obtain ⟨rest,hrest⟩ := reverse_of_lastThree h
    exact a.reverse_text_ne _ hrest

/-- What the pass takes for an annotation in the source file. -/
lemma opens_iff : l.opens sourceFile = true ↔
    ∃ path, fileSpecifier l.text = some path ∧ pyIn sourceFile path = true := by
  cases l with
  | instruction i => simp [opens,text,i.noPlace]
  | name function =>
    rw [fileSpecifier_of_not_isDigit (reverse_text_name function) (by decide)]
    simp [opens]
  | place a =>
    rw [text,a.fileSpecifier_text]
    cases hd : a.discriminator with
    | none => simp [opens,hd]
    | some n => simp [opens,hd]

end Line

/-! ## The pass -/

section Pass
variable {sourceFile : String} {s : Scan}

lemma Scan.line_text (hin : s.inFunction = true) (l : Line) : s.line sourceFile l.text =
    if s.correctFile then
      if l.isName then s else { s with instructionsCount := s.instructionsCount+1 }
    else if l.opens sourceFile then { s with correctFile := true } else s := by
  have hname := l.lastThree_text
  have hopens := l.opens_iff sourceFile
  rw [Scan.line,hin,if_neg (by simp),if_neg l.notBlank_text]
  cases hfile : s.correctFile with
  | true =>
    simp only [Bool.not_true,Bool.false_eq_true,if_false,if_true,ne_eq,hname]
    cases l.isName with
    | true => rfl
    | false => rfl
  | false =>
    simp only [Bool.not_false,if_true,Bool.false_eq_true,if_false]
    cases hplace : fileSpecifier l.text with
    | none =>
      rw [if_neg fun h => ?_]
      obtain ⟨path,hpath,-⟩ := hopens.mp h
      rw [hplace] at hpath
      cases hpath
    | some path =>
      have hpath : l.opens sourceFile = true ↔ pyIn sourceFile path = true := by
        rw [hopens,hplace]
        simp
      simp only [hpath]

/-- The lines of a function after its file was found. -/
lemma Scan.lines_of_correctFile (hin : s.inFunction = true) (hfile : s.correctFile = true)
    (lines : List Line) : (lines.map Line.text).foldl (Scan.line sourceFile) s =
      { s with instructionsCount := s.instructionsCount+lines.countP fun l => !l.isName } := by
  induction lines generalizing s with
  | nil => rfl
  | cons l lines ih =>
    rw [List.map_cons,List.foldl_cons,Scan.line_text hin,if_pos hfile,List.countP_cons]
    cases hname : l.isName with
    | true => exact ih hin hfile
    | false =>
      have hrest := @ih { s with instructionsCount := s.instructionsCount+1 } hin hfile
      simp only [Bool.false_eq_true,if_false]
      rw [hrest]
      simp only [Bool.not_false,if_true,Nat.add_assoc,Nat.add_comm 1]

/-- The lines of a function: they are counted from the first annotation that opens it on. -/
lemma Scan.lines_text (hin : s.inFunction = true) (hfile : s.correctFile = false)
    (lines : List Line) : (lines.map Line.text).foldl (Scan.line sourceFile) s =
      if lines.any (Line.opens sourceFile) then
        { s with
          correctFile := true
          instructionsCount := s.instructionsCount+
            (lines.dropWhile fun l => !l.opens sourceFile).tail.countP fun l => !l.isName }
      else s := by
  induction lines with
  | nil => rfl
  | cons l lines ih =>
    rw [List.map_cons,List.foldl_cons,Scan.line_text hin,hfile,List.any_cons,List.dropWhile_cons]
    cases hopens : l.opens sourceFile with
    | true =>
      simp only [Bool.false_eq_true,if_false,if_true,Bool.true_or,Bool.not_true,List.tail_cons]
      exact @lines_of_correctFile sourceFile { s with correctFile := true } hin rfl lines
    | false =>
      simp only [Bool.false_eq_true,if_false,Bool.false_or,Bool.not_false,if_true]
      exact ih

end Pass

lemma Function.headerName_header (f : Function) : headerName s!"{f.address} <{f.name}>:" =
    if f.name ≠ "" ∧ f.name.toList.all isNameChar then some f.name else none := by
  have htext : s!"{f.address} <{f.name}>:".toList =
      f.address.toList ++ ' ' :: '<' :: (f.name.toList ++ ['>',':']) := by
    simp [toString]
  have hne : f.address.toList ≠ [] := by simpa using f.address_ne
  have hnameNe : f.name ≠ "" ↔ f.name.toList ≠ [] := by simp
  rw [headerName,htext,List.dropWhile_append_of_pos f.hex,List.takeWhile_append_of_pos f.hex,
    List.dropWhile_cons_of_neg (by decide),List.takeWhile_cons_of_neg (by decide),List.append_nil]
  simp only [hnameNe]
  by_cases hall : ∀ c ∈ f.name.toList, isNameChar c = true
  · have hbracket : isNameChar '>' = false := by decide
    rw [List.takeWhile_append_of_pos hall,List.dropWhile_append_of_pos hall,
      List.takeWhile_cons_of_neg (by simp [hbracket]),
      List.dropWhile_cons_of_neg (by simp [hbracket]),List.append_nil,String.ofList_toList]
    simp [hne,List.all_eq_true.mpr hall]
  · have hrest : f.name.toList.dropWhile isNameChar ≠ [] := by
      rw [Ne,List.dropWhile_eq_nil_iff]
      exact hall
    rw [if_neg,if_neg]
    · intro h
      exact hall (List.all_eq_true.mp h.2)
    · intro h
      have hdrop := h.2.2
      rw [List.dropWhile_append,if_neg (by simpa using hrest)] at hdrop
      have hlength := congrArg List.length hdrop
      rw [List.length_append] at hlength
      have hpos := List.length_pos_of_ne_nil hrest
      simp only [List.length_cons,List.length_nil] at hlength
      omega

/-- What holds after the blank line of a block: of each name the last function recorded is kept. -/
structure Scanned (sourceFile : String) (closed : List Function) (s : Scan) : Prop where
  inFunction : s.inFunction = false
  correctFile : s.correctFile = false
  value : ∀ name, s.d.value? name = ((closed.filter fun f =>
    f.recorded sourceFile && f.name = name).getLast?).map fun f => f.linesAfter sourceFile
  symb : ∀ name, name ∈ s.symb ↔ s.d.value? name ≠ none

section Blocks
variable {sourceFile : String} {closed : List Function} {s : Scan}

lemma Scan.line_of_noHeader (hin : s.inFunction = false) {text : String}
    (h : headerName text = none) : s.line sourceFile text = s := by
  rw [Scan.line,hin,h]
  rfl

/-- Lines outside of a function. -/
lemma Scan.lines_of_noHeader (hin : s.inFunction = false) {lines : List String}
    (h : ∀ text ∈ lines, headerName text = none) : lines.foldl (Scan.line sourceFile) s = s := by
  induction lines with
  | nil => rfl
  | cons text lines ih =>
    rw [List.foldl_cons,Scan.line_of_noHeader hin (h text List.mem_cons_self)]
    exact ih fun text' htext' => h text' (List.mem_cons_of_mem _ htext')

/-- The whole text of a function, from outside of a function on. -/
lemma Scan.function_text (hin : s.inFunction = false) (hfile : s.correctFile = false)
    (f : Function) : f.text.foldl (Scan.line sourceFile) s =
      if f.name ≠ "" ∧ f.name.toList.all isNameChar then
        if f.lines.any (Line.opens sourceFile) then
          { s with
            functionName := f.name
            inFunction := true
            correctFile := true
            instructionsCount := f.linesAfter sourceFile }
        else { s with functionName := f.name, inFunction := true, instructionsCount := 0 }
      else s := by
  rw [Function.text,List.foldl_cons,Scan.line,hin,f.headerName_header]
  by_cases hname : f.name ≠ "" ∧ f.name.toList.all isNameChar
  · rw [if_pos hname,if_pos hname]
    have hlines := @Scan.lines_text sourceFile
      { s with functionName := f.name, inFunction := true, instructionsCount := 0 } rfl hfile
      f.lines
    simp only [Bool.not_false,if_true]
    rw [hlines,Nat.zero_add]
    rfl
  · rw [if_neg hname,if_neg hname]
    refine Scan.lines_of_noHeader hin fun text htext => ?_
    obtain ⟨l,-,rfl⟩ := List.mem_map.mp htext
    exact l.headerName_text

lemma Scanned.record (h : Scanned sourceFile closed s) {f : Function}
    (hrecorded : f.recorded sourceFile = true) :
    Scanned sourceFile (closed ++ [f])
      ({ s with
          functionName := f.name
          inFunction := true
          correctFile := true
          instructionsCount := f.linesAfter sourceFile } : Scan).record := by
  refine ⟨rfl,rfl,fun name => ?_,fun name => ?_⟩
  · rw [Scan.record,OrderedMap.value?_set,List.filter_append,List.filter_singleton,hrecorded]
    by_cases hname : f.name = name
    · simp [hname]
    · simp [hname,h.value name]
  · have hsymb := h.symb name
    simp only [Scan.record,OrderedMap.value?_set]
    by_cases hname : f.name = name
    · subst hname
      rw [if_pos rfl]
      refine iff_of_true ?_ (Option.some_ne_none _)
      split
      · assumption
      · exact List.mem_append_right _ (List.mem_singleton_self _)
    · rw [if_neg hname,← hsymb]
      split
      · exact Iff.rfl
      · rw [List.mem_append,List.mem_singleton]
        exact or_iff_left (Ne.symm hname)

lemma Scanned.skip (h : Scanned sourceFile closed s) {f : Function}
    (hrecorded : f.recorded sourceFile = false) : Scanned sourceFile (closed ++ [f]) s := by
  refine ⟨h.inFunction,h.correctFile,fun name => ?_,h.symb⟩
  rw [List.filter_append,List.filter_singleton,hrecorded]
  simpa using h.value name

lemma headerName_nil : headerName "" = none := rfl

/-- A block and the blank line after it. -/
lemma Scanned.block (h : Scanned sourceFile closed s) (b : Block) :
    Scanned sourceFile (closed ++ b.function?.toList)
      ((b.text ++ [""]).foldl (Scan.line sourceFile) s) := by
  rw [List.foldl_append,List.foldl_cons,List.foldl_nil]
  cases b with
  | other text noHeader =>
    rw [Block.text,List.foldl_cons,List.foldl_nil,Scan.line_of_noHeader h.inFunction noHeader,
      Scan.line_of_noHeader h.inFunction headerName_nil]
    simpa [Block.function?] using h
  | function f =>
    rw [Block.text,Scan.function_text h.inFunction h.correctFile]
    have hblank : pyStrip "" = "" := rfl
    by_cases hname : f.name ≠ "" ∧ f.name.toList.all isNameChar
    · rw [if_pos hname]
      cases hopens : f.lines.any (Line.opens sourceFile) with
      | true =>
        have hrecorded : f.recorded sourceFile = true := by
          simp [Function.recorded,hname.1,hname.2,hopens]
        simpa [Scan.line,hblank,Block.function?] using h.record hrecorded
      | false =>
        have hrecorded : f.recorded sourceFile = false := by simp [Function.recorded,hopens]
        have hskip := h.skip hrecorded
        simp only [Bool.false_eq_true,if_false,Scan.line,hblank,Bool.not_true,if_true,h.correctFile]
        exact ⟨rfl,rfl,hskip.value,hskip.symb⟩
    · rw [if_neg hname,Scan.line_of_noHeader h.inFunction headerName_nil]
      refine h.skip ?_
      rw [Function.recorded,← Bool.not_eq_true]
      intro hrec
      simp only [Bool.and_eq_true,decide_eq_true_eq] at hrec
      exact hname hrec.1

lemma scanned_blocks (blocks : List Block) :
    Scanned sourceFile (blocks.filterMap Block.function?)
      ((blocks.flatMap fun b => b.text ++ [""]).foldl (Scan.line sourceFile) Scan.start) := by
  induction blocks using List.reverseRecOn with
  | nil => exact ⟨rfl,rfl,fun name => rfl,fun name => by simp [Scan.start]⟩
  | append_singleton blocks b ih =>
    rw [List.flatMap_append,List.foldl_append,List.filterMap_append]
    have hblock := ih.block b
    cases hb : b.function? with
    | none => simpa [hb] using hblock
    | some f => simpa [hb] using hblock

end Blocks

/-! ## The counts -/

section Counts
variable (l l' : Listing) (sourceFile : String)

/-- A function without a blank line after it is not counted. -/
lemma Scanned.last {s : Scan} {closed : List Function} (h : Scanned sourceFile closed s)
    (f : Function) :
    (f.text.foldl (Scan.line sourceFile) s).d = s.d ∧
      (f.text.foldl (Scan.line sourceFile) s).symb = s.symb := by
  rw [Scan.function_text h.inFunction h.correctFile]
  split
  · split
    · exact ⟨rfl,rfl⟩
    · exact ⟨rfl,rfl⟩
  · exact ⟨rfl,rfl⟩

/-- The lines that are counted under a name. -/
def Listing.counted (name : String) : Option ℕ :=
  (l.lastRecorded sourceFile name).map fun f => f.linesAfter sourceFile

theorem value?_countInstructions (name : String) :
    (countInstructions l.lines sourceFile).1.value? name = l.counted sourceFile name := by
  have hscanned := @scanned_blocks sourceFile l.blocks
  have hvalue := hscanned.value name
  rw [countInstructions,Listing.lines,List.foldl_append]
  cases hlast : l.last with
  | none => exact hvalue
  | some f =>
    simp only [Option.map_some,Option.getD_some]
    rw [(hscanned.last sourceFile f).1]
    exact hvalue

theorem mem_symb_countInstructions (name : String) :
    name ∈ (countInstructions l.lines sourceFile).2.2 ↔ l.counted sourceFile name ≠ none := by
  have hscanned := @scanned_blocks sourceFile l.blocks
  have hsymb := hscanned.symb name
  rw [← value?_countInstructions,countInstructions,Listing.lines,List.foldl_append]
  cases hlast : l.last with
  | none => exact hsymb
  | some f =>
    simp only [Option.map_some,Option.getD_some]
    rw [(hscanned.last sourceFile f).1,(hscanned.last sourceFile f).2]
    exact hsymb

lemma Function.annotated_of_recorded {f : Function} (h : f.recorded sourceFile = true) :
    f.annotated sourceFile = true := by
  simp only [Function.recorded,Bool.and_eq_true,List.any_eq_true] at h
  obtain ⟨-,line,hmem,hopens⟩ := h
  refine List.any_eq_true.mpr ⟨line,hmem,?_⟩
  cases line with
  | place a => exact (Bool.and_eq_true_iff.mp hopens).2
  | name function => cases hopens
  | instruction i => cases hopens

lemma Listing.mem_of_lastRecorded {l : Listing} {sourceFile name : String} {f : Function}
    (h : l.lastRecorded sourceFile name = some f) :
    f ∈ l.functions ∧ f.name = name ∧ f.recorded sourceFile = true := by
  have hmem := List.mem_filter.mp (List.mem_of_getLast? h)
  simp only [Bool.and_eq_true,decide_eq_true_eq] at hmem
  exact ⟨List.mem_append_left _ hmem.1,hmem.2.2,hmem.2.1⟩

/-- The counts are exact where the lines counted under the name of each function of the source file
are as many as its instructions. -/
theorem exact_countInstructions_iff : l.Exact sourceFile (countInstructions l.lines sourceFile).1 ↔
    ∀ f ∈ l.functions, f.annotated sourceFile = true → ∃ g,
      l.lastRecorded sourceFile f.name = some g ∧ g.linesAfter sourceFile = f.instructions := by
  have hsome : ∀ f : Function, (countInstructions l.lines sourceFile).1.value? f.name =
      some f.instructions ↔ ∃ g, l.lastRecorded sourceFile f.name = some g ∧
        g.linesAfter sourceFile = f.instructions := by
    intro f
    rw [value?_countInstructions,Listing.counted,Option.map_eq_some_iff]
  constructor
  · intro h f hmem hannotated
    exact (hsome f).mp (h.1 f hmem hannotated)
  · intro h
    refine ⟨fun f hmem hannotated => (hsome f).mpr (h f hmem hannotated),fun name hname => ?_⟩
    rw [value?_countInstructions,Listing.counted,Ne,Option.map_eq_none_iff] at hname
    obtain ⟨g,hg⟩ := Option.ne_none_iff_exists'.mp hname
    obtain ⟨hmem,rfl,hrecorded⟩ := Listing.mem_of_lastRecorded hg
    exact ⟨g,hmem,rfl,Function.annotated_of_recorded sourceFile hrecorded⟩

/-- Nothing is reported where the same lines are counted under each name. -/
theorem compareBinariesSubutil_eq_nil_iff :
    compareBinariesSubutil l.lines l'.lines sourceFile = [] ↔
      ∀ name, l.counted sourceFile name = l'.counted sourceFile name := by
  have hcount : ∀ (l : Listing) name, count (countInstructions l.lines sourceFile).1 name =
      (l.counted sourceFile name).getD 0 := by
    intro l name
    rw [count,value?_countInstructions]
  unfold compareBinariesSubutil
  simp only [List.append_eq_nil_iff,List.map_eq_nil_iff,List.filter_eq_nil_iff,Bool.and_eq_true,
    decide_eq_true_eq,hcount,mem_symb_countInstructions]
  constructor
  · rintro ⟨⟨hchanged,hgone⟩,hnew⟩ name
    cases hc : l.counted sourceFile name with
    | none =>
      cases hc' : l'.counted sourceFile name with
      | none => rfl
      | some n => exact absurd (by simp [hc]) (hnew name (by simp [hc']))
    | some n =>
      have hc' : l'.counted sourceFile name ≠ none := by
        by_contra hnone
        exact hgone name (by simp [hc]) (by simp [hnone])
      obtain ⟨n',hn'⟩ := Option.ne_none_iff_exists'.mp hc'
      have hsame := hchanged name (by simp [hc])
      simp only [hc,hn',Option.getD_some,not_and] at hsame
      have hle := hsame (by simp)
      rw [hn']
      exact congrArg some (by omega)
  · intro h
    refine ⟨⟨fun name _ hdiff => ?_,fun name hname hgone => ?_⟩,fun name hname hnew => ?_⟩
    · rw [h name] at hdiff
      omega
    · exact hgone (h name ▸ hname)
    · exact hnew (h name ▸ hname)

/-- The lines that are counted are the instructions, without those before the first annotation and
with the annotations after it. -/
lemma Function.linesAfter_add (f : Function) :
    f.linesAfter sourceFile+f.instructionsBefore sourceFile =
      f.instructions+f.placesAfter sourceFile := by
  have hkinds : ∀ lines : List Line, lines.countP (fun l => !l.isName) =
      lines.countP Line.isInstruction+lines.countP Line.isPlace := by
    intro lines
    induction lines with
    | nil => rfl
    | cons line lines ih =>
      rw [List.countP_cons,List.countP_cons,List.countP_cons,ih]
      cases line <;> simp [Line.isName,Line.isInstruction,Line.isPlace] <;> omega
  have htail : (f.lines.dropWhile fun l => !l.opens sourceFile).countP Line.isInstruction =
      (f.lines.dropWhile fun l => !l.opens sourceFile).tail.countP Line.isInstruction := by
    cases hdrop : f.lines.dropWhile fun l => !l.opens sourceFile with
    | nil => rfl
    | cons line rest =>
      have hhead := List.head_dropWhile_not (fun l => !l.opens sourceFile) (l := f.lines)
        (by simp [hdrop])
      simp only [hdrop,List.head_cons,Bool.not_eq_false'] at hhead
      cases line with
      | place a => rfl
      | name function => cases hhead
      | instruction i => cases hhead
  have hsplit := congrArg (List.countP Line.isInstruction)
    (List.takeWhile_append_dropWhile (p := fun l => !l.opens sourceFile) (l := f.lines))
  rw [List.countP_append,htail] at hsplit
  rw [linesAfter,instructionsBefore,instructions,placesAfter,hkinds]
  omega

section Distinct
variable {l l' : Listing} {sourceFile : String} {name : String} {f f' : Function} {n : ℕ}

lemma Function.name_of_withoutAnnotations (h : f.withoutAnnotations = f'.withoutAnnotations) :
    f.name = f'.name :=
  show f.withoutAnnotations.name = f'.withoutAnnotations.name by rw [h]

lemma Function.instructions_withoutAnnotations (f : Function) :
    f.withoutAnnotations.instructions = f.instructions := by
  rw [Function.instructions,Function.withoutAnnotations,List.countP_filter]
  apply List.countP_congr
  intro line _
  cases line <;> simp [Line.isInstruction,Line.isPlace]

lemma Function.instructions_of_withoutAnnotations
    (h : f.withoutAnnotations = f'.withoutAnnotations) : f.instructions = f'.instructions := by
  rw [← f.instructions_withoutAnnotations,h,f'.instructions_withoutAnnotations]

lemma Listing.closed_withoutAnnotations (l : Listing) :
    l.withoutAnnotations.closed = l.closed.map Function.withoutAnnotations := by
  have hblock : ∀ b : Block,
      b.withoutAnnotations.function? = b.function?.map Function.withoutAnnotations := by
    intro b
    cases b <;> rfl
  rw [closed,closed,withoutAnnotations,List.filterMap_map,List.map_filterMap]
  congr 1
  funext b
  exact hblock b

lemma Listing.functions_withoutAnnotations (l : Listing) :
    l.withoutAnnotations.functions = l.functions.map Function.withoutAnnotations := by
  have hlast : (l.last.map Function.withoutAnnotations).toList =
      l.last.toList.map Function.withoutAnnotations := by
    cases l.last <;> rfl
  rw [functions,functions,List.map_append,closed_withoutAnnotations,withoutAnnotations,hlast]

/-- Of distinct names each has at most one function. -/
lemma Listing.lastRecorded_eq_some_iff (h : (l.closed.map Function.name).Nodup) :
    l.lastRecorded sourceFile name = some f ↔
      f ∈ l.closed ∧ f.name = name ∧ f.recorded sourceFile = true := by
  have hof : ∀ {g}, l.lastRecorded sourceFile name = some g →
      g ∈ l.closed ∧ g.name = name ∧ g.recorded sourceFile = true := by
    intro g hg
    have hmem := List.mem_filter.mp (List.mem_of_getLast? hg)
    simp only [Bool.and_eq_true,decide_eq_true_eq] at hmem
    exact ⟨hmem.1,hmem.2.2,hmem.2.1⟩
  refine ⟨hof,?_⟩
  rintro ⟨hmem,hname,hrecorded⟩
  cases hlast : l.lastRecorded sourceFile name with
  | none =>
    have hnil := List.getLast?_eq_none_iff.mp hlast
    have hfilter : f ∈ l.closed.filter fun f => f.recorded sourceFile && f.name = name :=
      List.mem_filter.mpr ⟨hmem,by simp [hrecorded,hname]⟩
    rw [hnil] at hfilter
    cases hfilter
  | some g =>
    obtain ⟨hmem',hname',-⟩ := hof hlast
    rw [List.inj_on_of_nodup_map h hmem' hmem (hname'.trans hname.symm)]

lemma Listing.nodup_closed (h : (l.functions.map Function.name).Nodup) :
    (l.closed.map Function.name).Nodup := by
  rw [functions,List.map_append] at h
  exact h.of_append_left

lemma Listing.counted_eq_some_iff (h : (l.closed.map Function.name).Nodup) :
    l.counted sourceFile name = some n ↔ ∃ f ∈ l.closed, f.name = name ∧
      f.recorded sourceFile = true ∧ f.linesAfter sourceFile = n := by
  rw [counted,Option.map_eq_some_iff]
  constructor
  · rintro ⟨f,hf,rfl⟩
    obtain ⟨hmem,hname,hrecorded⟩ := (lastRecorded_eq_some_iff h).mp hf
    exact ⟨f,hmem,hname,hrecorded,rfl⟩
  · rintro ⟨f,hmem,hname,hrecorded,rfl⟩
    exact ⟨f,(lastRecorded_eq_some_iff h).mpr ⟨hmem,hname,hrecorded⟩,rfl⟩

/-- Where no two functions have one name, each is to be recorded itself, with as many instructions
before its first annotation as annotations after that. -/
theorem exact_countInstructions_iff_of_nodup (h : (l.functions.map Function.name).Nodup) :
    l.Exact sourceFile (countInstructions l.lines sourceFile).1 ↔
      ∀ f ∈ l.functions, f.annotated sourceFile = true → f ∈ l.closed ∧
        f.recorded sourceFile = true ∧
        f.instructionsBefore sourceFile = f.placesAfter sourceFile := by
  rw [exact_countInstructions_iff]
  refine forall_congr' fun f => forall_congr' fun hmem => imp_congr_right fun _ => ?_
  have hlines := f.linesAfter_add sourceFile
  constructor
  · rintro ⟨g,hg,hcount⟩
    obtain ⟨hclosed,hname,hrecorded⟩ :=
      (Listing.lastRecorded_eq_some_iff (Listing.nodup_closed h)).mp hg
    obtain rfl := List.inj_on_of_nodup_map h (List.mem_append_left _ hclosed) hmem hname
    exact ⟨hclosed,hrecorded,by omega⟩
  · rintro ⟨hclosed,hrecorded,hsame⟩
    exact ⟨f,(Listing.lastRecorded_eq_some_iff (Listing.nodup_closed h)).mpr
      ⟨hclosed,rfl,hrecorded⟩,by omega⟩

/-- The annotations of two listings of the same code make no difference to the counts. -/
def SameCounts (sourceFile : String) (l l' : Listing) : Prop :=
  ∀ f ∈ l.closed, ∀ f' ∈ l'.closed, f.withoutAnnotations = f'.withoutAnnotations →
    f.recorded sourceFile = f'.recorded sourceFile ∧ (f.recorded sourceFile = true →
      f.placesAfter sourceFile+f'.instructionsBefore sourceFile =
        f'.placesAfter sourceFile+f.instructionsBefore sourceFile)

lemma SameCounts.symm (h : SameCounts sourceFile l l') : SameCounts sourceFile l' l := by
  intro f' hf' f hf hcode
  obtain ⟨hrecorded,hcount⟩ := h f hf f' hf' hcode.symm
  exact ⟨hrecorded.symm,fun hf' => (hcount (hrecorded.trans hf')).symm⟩

lemma closed_of_withoutAnnotations (h : l.withoutAnnotations = l'.withoutAnnotations) :
    l.closed.map Function.withoutAnnotations = l'.closed.map Function.withoutAnnotations := by
  rw [← Listing.closed_withoutAnnotations,h,Listing.closed_withoutAnnotations]

lemma nodup_of_withoutAnnotations (h : l.withoutAnnotations = l'.withoutAnnotations)
    (hnames : (l.closed.map Function.name).Nodup) : (l'.closed.map Function.name).Nodup := by
  have hsame : ∀ l : Listing, l.closed.map Function.name =
      (l.closed.map Function.withoutAnnotations).map Function.name := by
    intro l
    rw [List.map_map]
    rfl
  rw [hsame,← closed_of_withoutAnnotations h,← hsame]
  exact hnames

lemma SameCounts.counted (h : SameCounts sourceFile l l')
    (hcode : l.withoutAnnotations = l'.withoutAnnotations)
    (hnames : (l.closed.map Function.name).Nodup) (hn : l.counted sourceFile name = some n) :
    l'.counted sourceFile name = some n := by
  obtain ⟨f,hmem,rfl,hrecorded,rfl⟩ := (Listing.counted_eq_some_iff hnames).mp hn
  have hmap : f.withoutAnnotations ∈ l'.closed.map Function.withoutAnnotations :=
    closed_of_withoutAnnotations hcode ▸ List.mem_map_of_mem hmem
  obtain ⟨f',hmem',hf'⟩ := List.mem_map.mp hmap
  obtain ⟨hsame,hcount⟩ := h f hmem f' hmem' hf'.symm
  have hcount := hcount hrecorded
  have hlines := f.linesAfter_add sourceFile
  have hlines' := f'.linesAfter_add sourceFile
  have hinstructions := Function.instructions_of_withoutAnnotations hf'
  exact (Listing.counted_eq_some_iff (nodup_of_withoutAnnotations hcode hnames)).mpr
    ⟨f',hmem',Function.name_of_withoutAnnotations hf',hsame ▸ hrecorded,by omega⟩

/-- When a comparison of two listings of the same code reports nothing. -/
theorem compareBinariesSubutil_eq_nil_iff_of_code
    (hcode : l.withoutAnnotations = l'.withoutAnnotations)
    (hnames : (l.functions.map Function.name).Nodup) :
    compareBinariesSubutil l.lines l'.lines sourceFile = [] ↔ SameCounts sourceFile l l' := by
  have hclosed := Listing.nodup_closed hnames
  have hclosed' := nodup_of_withoutAnnotations hcode hclosed
  rw [compareBinariesSubutil_eq_nil_iff]
  constructor
  · intro hcounted f hmem f' hmem' hf
    have hname := Function.name_of_withoutAnnotations hf
    have hinstructions := Function.instructions_of_withoutAnnotations hf
    have hlines := f.linesAfter_add sourceFile
    have hlines' := f'.linesAfter_add sourceFile
    have hrecorded : f.recorded sourceFile = true → f'.recorded sourceFile = true ∧
        f'.linesAfter sourceFile = f.linesAfter sourceFile := by
      intro hf
      have hn := (Listing.counted_eq_some_iff hclosed).mpr ⟨f,hmem,rfl,hf,rfl⟩
      rw [hcounted] at hn
      obtain ⟨g,hg,hgname,hgrecorded,hglines⟩ := (Listing.counted_eq_some_iff hclosed').mp hn
      obtain rfl := List.inj_on_of_nodup_map hclosed' hg hmem' (hgname.trans hname)
      exact ⟨hgrecorded,hglines⟩
    have hrecorded' : f'.recorded sourceFile = true → f.recorded sourceFile = true := by
      intro hf'
      have hn := (Listing.counted_eq_some_iff hclosed').mpr ⟨f',hmem',rfl,hf',rfl⟩
      rw [← hcounted] at hn
      obtain ⟨g,hg,hgname,hgrecorded,-⟩ := (Listing.counted_eq_some_iff hclosed).mp hn
      obtain rfl := List.inj_on_of_nodup_map hclosed hg hmem (hgname.trans hname.symm)
      exact hgrecorded
    refine ⟨Bool.eq_iff_iff.mpr ⟨fun hf => (hrecorded hf).1,hrecorded'⟩,fun hf => ?_⟩
    have hsame := (hrecorded hf).2
    omega
  · intro hsame name
    refine Option.ext fun n => ⟨fun hn => hsame.counted hcode hclosed hn,fun hn => ?_⟩
    exact hsame.symm.counted hcode.symm hclosed' hn

/-- Exact counts do not change with the annotations, as long as the same functions have one in the
source file. -/
theorem compareBinariesSubutil_of_exact
    (hexact : l.Exact sourceFile (countInstructions l.lines sourceFile).1)
    (hexact' : l'.Exact sourceFile (countInstructions l'.lines sourceFile).1)
    (hcode : l.withoutAnnotations = l'.withoutAnnotations)
    (hannotated : ∀ f ∈ l.functions, ∀ f' ∈ l'.functions,
      f.withoutAnnotations = f'.withoutAnnotations →
        f.annotated sourceFile = f'.annotated sourceFile) :
    compareBinariesSubutil l.lines l'.lines sourceFile = [] := by
  have hfunctions : l.functions.map Function.withoutAnnotations =
      l'.functions.map Function.withoutAnnotations := by
    rw [← Listing.functions_withoutAnnotations,hcode,Listing.functions_withoutAnnotations]
  rw [compareBinariesSubutil_eq_nil_iff]
  intro name
  rw [← value?_countInstructions,← value?_countInstructions]
  by_cases h : ∃ f ∈ l.functions, f.name = name ∧ f.annotated sourceFile = true
  · obtain ⟨f,hmem,rfl,hf⟩ := h
    have hmap : f.withoutAnnotations ∈ l'.functions.map Function.withoutAnnotations :=
      hfunctions ▸ List.mem_map_of_mem hmem
    obtain ⟨f',hmem',heq⟩ := List.mem_map.mp hmap
    have hf' : f'.annotated sourceFile = true := hannotated f hmem f' hmem' heq.symm ▸ hf
    have hname : f'.name = f.name := Function.name_of_withoutAnnotations heq
    have hcount := Function.instructions_of_withoutAnnotations heq
    rw [hexact.1 f hmem hf,← hname,hexact'.1 f' hmem' hf',hcount]
  · have hnone : (countInstructions l.lines sourceFile).1.value? name = none := by
      by_contra hvalue
      exact h (hexact.2 name hvalue)
    have hnone' : (countInstructions l'.lines sourceFile).1.value? name = none := by
      by_contra hvalue
      obtain ⟨f',hmem',hname,hf'⟩ := hexact'.2 name hvalue
      have hmap : f'.withoutAnnotations ∈ l.functions.map Function.withoutAnnotations :=
        hfunctions ▸ List.mem_map_of_mem hmem'
      obtain ⟨f,hmem,heq⟩ := List.mem_map.mp hmap
      refine h ⟨f,hmem,?_,hannotated f hmem f' hmem' heq ▸ hf'⟩
      rw [← hname]
      exact Function.name_of_withoutAnnotations heq
    rw [hnone,hnone']

end Distinct

/-- When the counts of a listing are exact, and when its comparison with another one reports
nothing. -/
structure CountLaws (l l' : Listing) (sourceFile : String) : Prop where
  exact : l.Exact sourceFile (countInstructions l.lines sourceFile).1 ↔
    ∀ f ∈ l.functions, f.annotated sourceFile = true → ∃ g,
      l.lastRecorded sourceFile f.name = some g ∧ g.linesAfter sourceFile = f.instructions
  exactOfDistinct : (l.functions.map Function.name).Nodup →
    (l.Exact sourceFile (countInstructions l.lines sourceFile).1 ↔
      ∀ f ∈ l.functions, f.annotated sourceFile = true → f ∈ l.closed ∧
        f.recorded sourceFile = true ∧
        f.instructionsBefore sourceFile = f.placesAfter sourceFile)
  unmodified : compareBinariesSubutil l.lines l'.lines sourceFile = [] ↔
    ∀ name, l.counted sourceFile name = l'.counted sourceFile name
  /-- The listings differ in their annotations only. -/
  unmodifiedCode : l.withoutAnnotations = l'.withoutAnnotations →
    (l.functions.map Function.name).Nodup →
      (compareBinariesSubutil l.lines l'.lines sourceFile = [] ↔ SameCounts sourceFile l l')
  unmodifiedOfExact : l.withoutAnnotations = l'.withoutAnnotations →
    l.Exact sourceFile (countInstructions l.lines sourceFile).1 →
    l'.Exact sourceFile (countInstructions l'.lines sourceFile).1 →
    (∀ f ∈ l.functions, ∀ f' ∈ l'.functions, f.withoutAnnotations = f'.withoutAnnotations →
      f.annotated sourceFile = f'.annotated sourceFile) →
    compareBinariesSubutil l.lines l'.lines sourceFile = []

theorem counts_iff (l l' : Listing) (sourceFile : String) : CountLaws l l' sourceFile where
  exact := exact_countInstructions_iff l sourceFile
  exactOfDistinct := exact_countInstructions_iff_of_nodup
  unmodified := compareBinariesSubutil_eq_nil_iff l l' sourceFile
  unmodifiedCode := compareBinariesSubutil_eq_nil_iff_of_code
  unmodifiedOfExact hcode hexact hexact' hannotated :=
    compareBinariesSubutil_of_exact hexact hexact' hcode hannotated

end Counts

def nop : Instruction := ⟨"   0:\tnop",by decide,by decide,by decide,by decide⟩

def lineOfA (line : ℕ) : Line := .place ⟨"/src/a.c",line,none,by decide⟩

/-- A function of two instructions. -/
def twoNops (lines : List Line) : Listing where
  blocks := [.function ⟨"0","f",.name "f" :: lines,by decide,List.all_eq_true.mp (by decide)⟩]
  last := none

/-- The annotation between the instructions is counted, too. -/
theorem twoNops_not_exact :
    (¬∀ (l : Listing) (sourceFile : String),
      l.Exact sourceFile (countInstructions l.lines sourceFile).1) ∧
    ¬∀ (l l' : Listing) (sourceFile : String), l.withoutAnnotations = l'.withoutAnnotations →
      compareBinariesSubutil l.lines l'.lines sourceFile = [] := by
  let l := twoNops [lineOfA 1,.instruction nop,lineOfA 2,.instruction nop]
  let l' := twoNops [lineOfA 1,.instruction nop,.instruction nop]
  have hcounted : l.counted "a.c" "f" = some 3 := by decide +kernel
  constructor
  · intro h
    have hvalue := (h l "a.c").1 _ List.mem_cons_self (by decide +kernel)
    rw [value?_countInstructions] at hvalue
    exact absurd (hcounted.symm.trans hvalue) (by decide)
  · intro h
    have hsame := (compareBinariesSubutil_eq_nil_iff l l' "a.c").mp (h l l' "a.c" rfl) "f"
    exact absurd (hcounted.symm.trans hsame) (by decide +kernel)

end LiveKBench.KPreBuilder
