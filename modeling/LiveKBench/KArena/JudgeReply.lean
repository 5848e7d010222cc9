import LiveKBench.KCore.Models
import LiveKBench.Lib.TagSearch

/-! How a reply of the judge is read: five searches for tagged sections, where those of the
analyses and the verdict look into the evaluation section. -/
namespace LiveKBench.KArena
open KCore Lib

/-- `str.lower`, as far as it matters: on ASCII it is the one of the letters, and a bracket stays
one wherever it stands. -/
structure Lowercase where
  lower : String → String
  ascii : ∀ text, (∀ c ∈ text.toList, c.toNat < 128) →
    lower text = String.ofList (text.toList.map Char.toLower)
  keepsBracket : ∀ text, '<' ∈ text.toList → '<' ∈ (lower text).toList

/-- A name that tags can be made of. -/
structure TagName where
  chars : List Char
  noOpen : '<' ∉ chars
  noClose : '>' ∉ chars

def TagName.opening (name : TagName) : Mark := ⟨name.chars,name.noOpen,name.noClose⟩

def TagName.closing (name : TagName) : Mark where
  body := '/' :: name.chars
  noOpen := by simpa using name.noOpen
  noClose := by simpa using name.noClose

/-- `re.search(r'<name>(.*?)</name>', text, re.DOTALL)` and its group. -/
def TagName.search (name : TagName) (text : List Char) : Option (List Char) :=
  Lib.search name.opening.text name.closing.text text

def reasoningTag : TagName := ⟨"reasoning".toList,by decide,by decide⟩
def evaluationTag : TagName := ⟨"evaluation".toList,by decide,by decide⟩
def developerTag : TagName := ⟨"developerPatchAnalysis".toList,by decide,by decide⟩
def studentTag : TagName := ⟨"studentPatchAnalysis".toList,by decide,by decide⟩
def verdictTag : TagName := ⟨"verdict".toList,by decide,by decide⟩

/-- `group.strip()`. -/
def strip (group : List Char) : String := pyStrip (String.ofList group)

inductive JudgeVerdict
  | equivalent
  | discrepant
  | parseError
  deriving DecidableEq, Repr

def JudgeVerdict.text : JudgeVerdict → String
  | .equivalent => "equivalent"
  | .discrepant => "discrepant"
  | .parseError => "parse_error"

/-- The dictionary that is returned beside the verdict. -/
structure ParsedData where
  reasoning : Option String := none
  developerPatchAnalysis : Option String := none
  studentPatchAnalysis : Option String := none
  verdict : Option String := none
  error : Option String := none
  rawResponse : Option String := none
  deriving DecidableEq, Repr

def parseVerdict (lc : Lowercase) (responseText : String) : JudgeVerdict × ParsedData :=
  let text := responseText.toList
  match evaluationTag.search text with
  | none =>
    (.parseError,{ error := some "No <evaluation> section found in response"
                   rawResponse := some responseText })
  | some evalContent =>
    let parsed : ParsedData :=
      { reasoning := (reasoningTag.search text).map strip
        developerPatchAnalysis := (developerTag.search evalContent).map strip
        studentPatchAnalysis := (studentTag.search evalContent).map strip }
    match verdictTag.search evalContent with
    | none =>
      (.parseError,{ parsed with
                     error := some "No \x3cverdict> tag found in evaluation section"
                     rawResponse := some responseText })
    | some group =>
      let verdictText := lc.lower (strip group)
      if verdictText = "equivalent" then (.equivalent,{ parsed with verdict := some "equivalent" })
      else if verdictText = "discrepant" then
        (.discrepant,{ parsed with verdict := some "discrepant" })
      else
        (.parseError,{ parsed with
                       error := some ("Invalid verdict value: " ++ verdictText)
                       rawResponse := some responseText })

/-! ## Replies in the prescribed format -/

/-- The tags of the format. -/
def formatTags : List TagName := [reasoningTag,evaluationTag,developerTag,studentTag,verdictTag]

/-- No tag of the format occurs in the text. -/
def TagFree (text : List Char) : Prop :=
  ∀ name ∈ formatTags, name.opening.FreeIn text ∧ name.closing.FreeIn text

/-- Nothing but whitespace. -/
def Blank (text : List Char) : Prop := ∀ c ∈ text, isPySpace c = true

/-- A reply as the instructions prescribe it, with any whitespace between the tags, and any text
after the last of them. The verdict is one of the two words in some letter case. -/
structure JudgeReply where
  before : List Char
  reasoning : List Char
  gap₁ : List Char
  gap₂ : List Char
  developerAnalysis : List Char
  gap₃ : List Char
  studentAnalysis : List Char
  gap₄ : List Char
  padLeft : List Char
  word : List Char
  padRight : List Char
  gap₅ : List Char
  after : List Char
  verdict : JudgeVerdict
  blank : ∀ gap ∈ [before,gap₁,gap₂,gap₃,gap₄,padLeft,padRight,gap₅], Blank gap
  reasoningCloses : reasoningTag.closing.FreeIn reasoning
  developerFree : TagFree developerAnalysis
  studentFree : TagFree studentAnalysis
  anyCase : word.map Char.toLower = verdict.text.toList
  decided : verdict ≠ .parseError

namespace JudgeReply
variable (reply : JudgeReply)

def verdictText : List Char := reply.padLeft ++ reply.word ++ reply.padRight

/-- The evaluation section, from the text before its first tag on. -/
def sections : List (Mark × List Char) :=
  [(developerTag.opening,reply.developerAnalysis),(developerTag.closing,reply.gap₃),
   (studentTag.opening,reply.studentAnalysis),(studentTag.closing,reply.gap₄),
   (verdictTag.opening,reply.verdictText),(verdictTag.closing,reply.gap₅)]

def chars : List Char :=
  render reply.before
    ([(reasoningTag.opening,reply.reasoning),(reasoningTag.closing,reply.gap₁),
      (evaluationTag.opening,reply.gap₂)] ++ reply.sections ++
      [(evaluationTag.closing,reply.after)])

def text : String := String.ofList reply.chars

/-- What the reply says. -/
def parsed : ParsedData :=
  { reasoning := some (strip reply.reasoning)
    developerPatchAnalysis := some (strip reply.developerAnalysis)
    studentPatchAnalysis := some (strip reply.studentAnalysis)
    verdict := some reply.verdict.text }

/-- The reply is read as it is meant. -/
def Understood (lc : Lowercase) : Prop :=
  parseVerdict lc reply.text = (reply.verdict,reply.parsed)

/-- What stands in the fields of the evaluation section. -/
def fields : List (TagName × List Char) :=
  [(developerTag,reply.developerAnalysis),(studentTag,reply.studentAnalysis),
   (verdictTag,reply.verdictText)]

/-- What the reasoning quotes as an evaluation section: the text from its first opening tag on, and
whether the section is closed in the reasoning. -/
def quotation : Option (List Char × Bool) :=
  (cut evaluationTag.opening.text reply.reasoning).map fun found =>
    match cut evaluationTag.closing.text found.2 with
    | some inside => (inside.1,true)
    | none => (found.2,false)

/-- A field that the quotation gives says what the reply says. A closed quotation has to give it. -/
def Agrees (quoted : List Char × Bool) (name : TagName) (meant : List Char → Prop) :
    Prop :=
  (quoted.2 = false ∧ name.opening.FreeIn quoted.1) ∨
    ∃ group, name.search quoted.1 = some group ∧ meant group

/-- The reasoning quotes no evaluation section, or one that says the same. -/
def QuotesSame (lc : Lowercase) : Prop :=
  ∀ quoted ∈ reply.quotation,
    Agrees quoted developerTag (fun group => strip group = strip reply.developerAnalysis) ∧
    Agrees quoted studentTag (fun group => strip group = strip reply.studentAnalysis) ∧
    Agrees quoted verdictTag (fun group => lc.lower (strip group) = reply.verdict.text)

end JudgeReply

section Reading
variable {lc : Lowercase} {reply : JudgeReply} {name : TagName} {x z : List Char}

lemma not_mem_of_blank (h : Blank x) : '<' ∉ x := fun hmem => absurd (h '<' hmem) (by decide)

/-- No bracket is a letter of a verdict. -/
lemma not_mem_verdictText : '<' ∉ reply.verdictText := by
  have hblank := reply.blank
  have hword : '<' ∉ reply.word := by
    intro hmem
    have hlower : '<' ∈ reply.word.map Char.toLower := List.mem_map.mpr ⟨'<',hmem,by decide⟩
    rw [reply.anyCase] at hlower
    cases hv : reply.verdict <;> rw [hv] at hlower <;> simp [JudgeVerdict.text] at hlower
  rw [JudgeReply.verdictText,List.mem_append,List.mem_append]
  have hleft := not_mem_of_blank (hblank reply.padLeft (by simp))
  have hright := not_mem_of_blank (hblank reply.padRight (by simp))
  tauto

/-- The tags of the format stand in the marks of the evaluation section only. -/
lemma free_sections (h : name ∈ formatTags) {entry : Mark × List Char}
    (hentry : entry ∈ reply.sections) :
    name.opening.FreeIn entry.2 ∧ name.closing.FreeIn entry.2 := by
  have hgap : ∀ gap ∈ [reply.gap₃,reply.gap₄,reply.gap₅],
      name.opening.FreeIn gap ∧ name.closing.FreeIn gap := by
    intro gap hgap
    have hmem := not_mem_of_blank (reply.blank gap (by simp at hgap ⊢; tauto))
    exact ⟨Mark.freeIn_of_not_mem hmem,Mark.freeIn_of_not_mem hmem⟩
  simp only [JudgeReply.sections,List.mem_cons,List.not_mem_nil,or_false] at hentry
  obtain rfl | rfl | rfl | rfl | rfl | rfl := hentry
  · exact reply.developerFree name h
  · exact hgap _ (by simp)
  · exact reply.studentFree name h
  · exact hgap _ (by simp)
  · exact ⟨Mark.freeIn_of_not_mem not_mem_verdictText,Mark.freeIn_of_not_mem not_mem_verdictText⟩
  · exact hgap _ (by simp)

lemma sections_split (h : (name,x) ∈ reply.fields) : name ∈ formatTags ∧ ∃ pre gap post,
    reply.sections = pre ++ (name.opening,x) :: (name.closing,gap) :: post ∧
      name.opening ∉ pre.map Prod.fst := by
  simp only [JudgeReply.fields,List.mem_cons,Prod.mk.injEq,List.not_mem_nil,or_false] at h
  obtain ⟨rfl,rfl⟩ | ⟨rfl,rfl⟩ | ⟨rfl,rfl⟩ := h
  · exact ⟨by simp [formatTags],[],_,_,rfl,by simp⟩
  · refine ⟨by simp [formatTags],[_,_],_,_,rfl,?_⟩
    change studentTag.opening ∉ [developerTag.opening,developerTag.closing]
    decide
  · refine ⟨by simp [formatTags],[_,_,_,_],_,_,rfl,?_⟩
    change verdictTag.opening ∉
      [developerTag.opening,developerTag.closing,studentTag.opening,studentTag.closing]
    decide

/-- A field is found after any text in which its tag does not occur. -/
theorem search_field (h : (name,x) ∈ reply.fields) {pre : List (Mark × List Char)}
    (hz : name.opening.FreeIn z) (hmarks : name.opening ∉ pre.map Prod.fst)
    (hpre : ∀ entry ∈ pre, name.opening.FreeIn entry.2) :
    name.search (render z (pre ++ reply.sections)) = some x := by
  obtain ⟨hname,before,gap,post,hsections,hbefore⟩ := sections_split h
  have hfree : ∀ entry ∈ reply.sections,
      name.opening.FreeIn entry.2 ∧ name.closing.FreeIn entry.2 := fun entry =>
    free_sections hname
  rw [hsections] at hfree ⊢
  rw [← List.append_assoc]
  apply @search_render name.opening name.closing z x gap (pre ++ before) [] post hz
  · rw [List.map_append,List.mem_append]
    tauto
  · intro entry hentry
    obtain hentry | hentry := List.mem_append.mp hentry
    · exact hpre entry hentry
    · exact (hfree entry (List.mem_append_left _ hentry)).1
  · exact (hfree (name.opening,x) (by simp)).2
  · simp
  · simp

/-- A quotation that is left open goes on with the reply behind the reasoning. -/
def afterReasoning (reply : JudgeReply) : List (Mark × List Char) :=
  [(reasoningTag.closing,reply.gap₁),(evaluationTag.opening,reply.gap₂)]

/-- In a quotation that is left open, a field that it opens and does not close takes the end of the
reasoning in. -/
lemma infix_of_search (h : (name,x) ∈ reply.fields) (hz : ¬name.opening.FreeIn z)
    (hnone : name.search z = none) {rest : List (Mark × List Char)} {group gap : List Char}
    (hsearch : name.search (render z ((reasoningTag.closing,gap) :: rest)) = some group) :
    reasoningTag.closing.text <:+: group := by
  have hne : name.closing ≠ reasoningTag.closing := by
    simp only [JudgeReply.fields,List.mem_cons,Prod.mk.injEq,List.not_mem_nil,or_false] at h
    obtain ⟨rfl,-⟩ | ⟨rfl,-⟩ | ⟨rfl,-⟩ := h <;> decide
  obtain ⟨⟨before,after⟩,hcut⟩ := Option.ne_none_iff_exists'.mp fun hc => hz (cut_eq_none.mp hc)
  rw [TagName.search,search_eq name.opening.text_ne_nil] at hnone hsearch
  rw [hcut,Option.bind_some,Option.map_eq_none_iff] at hnone
  rw [render_cons,cut_append_of_some hcut,Option.bind_some,
    cut_append_of_none hnone (Mark.noStraddle_text _ _ _ _),
    cut_append_of_none (cut_eq_none.mpr (Mark.freeIn_text hne)) (Mark.text_noStraddle _ _ [] _)]
    at hsearch
  rw [Option.map_map,Option.map_map,Option.map_eq_some_iff] at hsearch
  obtain ⟨found,-,rfl⟩ := hsearch
  exact ⟨after,found.1,by simp⟩

/-- A text that begins with none of the characters that are dropped stays inside. -/
lemma infix_dropWhile {α : Type*} {p : α → Bool} {a : α} {w x : List α} (ha : p a = false)
    (h : a :: w <:+: x) : a :: w <:+: x.dropWhile p := by
  obtain ⟨pre,post,rfl⟩ := h
  rw [List.append_assoc,List.dropWhile_append]
  split
  · rw [List.cons_append,List.dropWhile_cons_of_neg (by simp [ha])]
    exact (List.prefix_append (a :: w) post).isInfix
  · exact ⟨_,post,by rw [List.append_assoc]⟩

lemma toList_strip (group : List Char) : (strip group).toList =
    ((group.dropWhile isPySpace).reverse.dropWhile isPySpace).reverse := by
  simp [strip,pyStrip]

lemma strip_within (group : List Char) : (strip group).toList <:+: group := by
  rw [toList_strip,← List.reverse_infix,List.reverse_reverse]
  refine (List.dropWhile_suffix _).isInfix.trans ?_
  exact List.reverse_infix.mpr (List.dropWhile_suffix _).isInfix

/-- A tag is not stripped. -/
lemma infix_strip {m : Mark} (h : m.text <:+: x) : m.text <:+: (strip x).toList := by
  rw [toList_strip,← List.reverse_infix,List.reverse_reverse]
  have hleft : m.text <:+: x.dropWhile isPySpace := infix_dropWhile (by decide) h
  have hright := List.reverse_infix.mpr hleft
  have htext : m.text.reverse = '>' :: (m.body.reverse ++ ['<']) := by simp [Mark.text]
  rw [htext] at hright ⊢
  exact infix_dropWhile (by decide) hright

/-- A text in which the end of the reasoning stands is no analysis of the reply. -/
lemma strip_ne (hx : TagFree x) (hz : reasoningTag.closing.text <:+: z) : strip z ≠ strip x := by
  intro heq
  have hin := infix_strip hz
  rw [heq] at hin
  exact (hx reasoningTag (by simp [formatTags])).2 (hin.trans (strip_within x))

/-- Nor is it a verdict. -/
lemma lower_ne (hz : reasoningTag.closing.text <:+: z) :
    lc.lower (strip z) ≠ reply.verdict.text := by
  intro heq
  have hmem : '<' ∈ (lc.lower (strip z)).toList :=
    lc.keepsBracket _ ((infix_strip hz).subset (List.mem_cons_self ..))
  rw [heq] at hmem
  cases hverdict : reply.verdict <;> rw [hverdict] at hmem <;> simp [JudgeVerdict.text] at hmem

/-- Reading a field behind the reasoning's quotation, which goes on with the reply. -/
theorem agrees_iff (h : (name,x) ∈ reply.fields) {meant : List Char → Prop} (hx : meant x)
    (hmeant : ∀ group, reasoningTag.closing.text <:+: group → ¬meant group) :
    (∃ group, name.search (render z (afterReasoning reply ++ reply.sections)) = some group ∧
        meant group) ↔
      JudgeReply.Agrees (z,false) name meant := by
  unfold JudgeReply.Agrees
  by_cases hz : name.opening.FreeIn z
  · have hmarks : name.opening ∉ (afterReasoning reply).map Prod.fst := by
      change name.opening ∉ [reasoningTag.closing,evaluationTag.opening]
      simp only [JudgeReply.fields,List.mem_cons,Prod.mk.injEq,List.not_mem_nil,or_false] at h
      obtain ⟨rfl,-⟩ | ⟨rfl,-⟩ | ⟨rfl,-⟩ := h <;> decide
    have hgaps : ∀ entry ∈ afterReasoning reply, name.opening.FreeIn entry.2 := by
      intro entry hentry
      simp only [afterReasoning,List.mem_cons,List.not_mem_nil,or_false] at hentry
      obtain rfl | rfl := hentry
      · exact Mark.freeIn_of_not_mem (not_mem_of_blank (reply.blank _ (by simp)))
      · exact Mark.freeIn_of_not_mem (not_mem_of_blank (reply.blank _ (by simp)))
    rw [search_field h hz hmarks hgaps]
    simp [hz,hx]
  · cases hs : name.search z with
    | some group =>
      have hfound : name.search (render z (afterReasoning reply ++ reply.sections)) = some group :=
        search_append_of_some name.opening.text_ne_nil hs _
      rw [hfound]
      simp [hz]
    | none =>
      constructor
      · rintro ⟨group,hgroup,hmean⟩
        exact absurd hmean (hmeant group (infix_of_search h hz hs hgroup))
      · rintro (⟨-,hfree⟩ | ⟨group,hgroup,-⟩)
        · exact absurd hfree hz
        · cases hgroup

/-! ## The verdict -/

lemma letter_of_word {c : Char} (h : c ∈ reply.word) : isPySpace c = false ∧ c.toNat < 128 := by
  by_cases hu : c.val ≥ 'A'.val ∧ c.val ≤ 'Z'.val
  · have hlow : 65 ≤ c.toNat := hu.1
    have hhigh : c.toNat ≤ 90 := hu.2
    refine ⟨?_,by omega⟩
    simp [isPySpace]
    omega
  · have hmem : c ∈ reply.verdict.text.toList := by
      rw [← reply.anyCase]
      exact List.mem_map.mpr ⟨c,h,dif_neg hu⟩
    have hall : ∀ v : JudgeVerdict, v ≠ .parseError →
        ∀ c ∈ v.text.toList, isPySpace c = false ∧ c.toNat < 128 := by
      intro v hv
      cases v with
      | equivalent =>
        simp [JudgeVerdict.text]
        decide
      | discrepant =>
        simp [JudgeVerdict.text]
        decide
      | parseError => exact absurd rfl hv
    exact hall reply.verdict reply.decided c hmem

lemma strip_verdictText : strip reply.verdictText = String.ofList reply.word := by
  have hdrop : ∀ pad w : List Char, Blank pad → (∀ c ∈ w, isPySpace c = false) → w ≠ [] →
      ∀ z, (pad ++ (w ++ z)).dropWhile isPySpace = w ++ z := by
    intro pad w hpad hw hne z
    cases w with
    | nil => exact absurd rfl hne
    | cons c w =>
      rw [List.dropWhile_append_of_pos hpad,List.cons_append,
        List.dropWhile_cons_of_neg (by simp [hw c (List.mem_cons_self ..)])]
  have hne : reply.word ≠ [] := by
    intro hnil
    have htext := reply.anyCase
    rw [hnil] at htext
    cases hv : reply.verdict <;> rw [hv] at htext <;> simp [JudgeVerdict.text] at htext
  have hspace : ∀ c ∈ reply.word, isPySpace c = false := fun c hc => (letter_of_word hc).1
  apply String.toList_injective
  rw [toList_strip,JudgeReply.verdictText,List.append_assoc,
    hdrop _ _ (reply.blank _ (by simp)) hspace hne,List.reverse_append]
  have hright := hdrop reply.padRight.reverse reply.word.reverse
    (fun c hc => reply.blank reply.padRight (by simp) c (List.mem_reverse.mp hc))
    (fun c hc => hspace c (List.mem_reverse.mp hc)) (by simpa using hne) []
  rw [List.append_nil] at hright
  rw [hright,List.reverse_reverse,String.toList_ofList]

lemma lower_verdictText : lc.lower (strip reply.verdictText) = reply.verdict.text := by
  rw [strip_verdictText,lc.ascii,String.toList_ofList,reply.anyCase,String.ofList_toList]
  intro c hc
  rw [String.toList_ofList] at hc
  exact (letter_of_word hc).2

/-! ## The whole reply -/

lemma search_reasoning : reasoningTag.search reply.chars = some reply.reasoning := by
  apply @search_render reasoningTag.opening reasoningTag.closing reply.before reply.reasoning
    reply.gap₁ [] []
  · exact Mark.freeIn_of_not_mem (not_mem_of_blank (reply.blank _ (by simp)))
  · simp
  · simp
  · exact reply.reasoningCloses
  · simp
  · simp

/-- A reply whose evaluation section is found is understood if each field is. -/
lemma understood_iff_fields {content : List Char}
    (h : evaluationTag.search reply.chars = some content) :
    reply.Understood lc ↔
      (∃ group, developerTag.search content = some group ∧
        strip group = strip reply.developerAnalysis) ∧
      (∃ group, studentTag.search content = some group ∧
        strip group = strip reply.studentAnalysis) ∧
      ∃ group, verdictTag.search content = some group ∧
        lc.lower (strip group) = reply.verdict.text := by
  have hdecided := reply.decided
  unfold JudgeReply.Understood parseVerdict JudgeReply.parsed
  simp only [JudgeReply.text,String.toList_ofList,h,search_reasoning,Option.map_some]
  cases hv : verdictTag.search content with
  | none => simp [hdecided.symm]
  | some group =>
    have hverdict : reply.verdict = .equivalent ∨ reply.verdict = .discrepant := by
      cases hr : reply.verdict with
      | equivalent => exact .inl rfl
      | discrepant => exact .inr rfl
      | parseError => exact absurd hr hdecided
    simp only [Option.some.injEq,exists_eq_left']
    generalize lc.lower (strip group) = verdictText
    by_cases he : verdictText = "equivalent"
    · rw [if_pos he]
      obtain hr | hr := hverdict <;> simp [hr,he,JudgeVerdict.text,Option.map_eq_some_iff]
    · rw [if_neg he]
      by_cases hd : verdictText = "discrepant"
      · rw [if_pos hd]
        obtain hr | hr := hverdict <;> simp [hr,hd,JudgeVerdict.text,Option.map_eq_some_iff]
      · rw [if_neg hd]
        obtain hr | hr := hverdict <;> simp [hr,he,hd,JudgeVerdict.text]

lemma gap_free (m : Mark) {gap : List Char} (h : Blank gap) : m.FreeIn gap :=
  Mark.freeIn_of_not_mem (not_mem_of_blank h)

/-- Without an opening tag in the reasoning, the evaluation section is the one that is meant. -/
lemma search_evaluation (h : evaluationTag.opening.FreeIn reply.reasoning) :
    evaluationTag.search reply.chars = some (render reply.gap₂ reply.sections) := by
  apply @search_render evaluationTag.opening evaluationTag.closing reply.before reply.gap₂
    reply.after [(reasoningTag.opening,reply.reasoning),(reasoningTag.closing,reply.gap₁)]
    reply.sections []
  · exact gap_free _ (reply.blank _ (by simp))
  · change evaluationTag.opening ∉ [reasoningTag.opening,reasoningTag.closing]
    decide
  · simp only [List.forall_mem_cons,h,true_and]
    exact ⟨gap_free _ (reply.blank _ (by simp)),by simp⟩
  · exact gap_free _ (reply.blank _ (by simp))
  · change evaluationTag.closing ∉ [developerTag.opening,developerTag.closing,studentTag.opening,
      studentTag.closing,verdictTag.opening,verdictTag.closing]
    decide
  · intro entry hentry
    exact (free_sections (by simp [formatTags]) hentry).2

section Quotation
variable {before quoted inside outside : List Char}

/-- The reply with the reasoning cut at its first tag of an evaluation section. -/
lemma chars_of_cut (h : cut evaluationTag.opening.text reply.reasoning = some (before,quoted)) :
    reply.chars = render reply.before
      ([(reasoningTag.opening,before)] ++ (evaluationTag.opening,quoted) ::
        (afterReasoning reply ++ reply.sections ++ [(evaluationTag.closing,reply.after)])) := by
  have hreasoning := append_of_cut h
  rw [JudgeReply.chars,hreasoning]
  simp [afterReasoning]

lemma search_quoted (h : cut evaluationTag.opening.text reply.reasoning = some (before,quoted))
    (hopen : cut evaluationTag.closing.text quoted = none) :
    evaluationTag.search reply.chars =
      some (render quoted (afterReasoning reply ++ reply.sections)) := by
  rw [chars_of_cut h]
  apply @search_render evaluationTag.opening evaluationTag.closing reply.before quoted reply.after
    [(reasoningTag.opening,before)] (afterReasoning reply ++ reply.sections) []
  · exact gap_free _ (reply.blank _ (by simp))
  · change evaluationTag.opening ∉ [reasoningTag.opening]
    decide
  · intro entry hentry
    obtain rfl := List.mem_singleton.mp hentry
    exact not_infix_of_cut h evaluationTag.opening.text_ne_nil
  · exact cut_eq_none.mp hopen
  · change evaluationTag.closing ∉ [reasoningTag.closing,evaluationTag.opening,
      developerTag.opening,developerTag.closing,studentTag.opening,
      studentTag.closing,verdictTag.opening,verdictTag.closing]
    decide
  · intro entry hentry
    obtain hentry | hentry := List.mem_append.mp hentry
    · simp only [afterReasoning,List.mem_cons,List.not_mem_nil,or_false] at hentry
      obtain rfl | rfl := hentry
      · exact gap_free _ (reply.blank _ (by simp))
      · exact gap_free _ (reply.blank _ (by simp))
    · exact (free_sections (by simp [formatTags]) hentry).2

lemma search_closedQuotation
    (h : cut evaluationTag.opening.text reply.reasoning = some (before,quoted))
    (hclosed : cut evaluationTag.closing.text quoted = some (inside,outside)) :
    evaluationTag.search reply.chars = some inside := by
  have hquoted := append_of_cut hclosed
  rw [chars_of_cut h,hquoted]
  have hchars : render reply.before ([(reasoningTag.opening,before)] ++
      (evaluationTag.opening,inside ++ (evaluationTag.closing.text ++ outside)) ::
        (afterReasoning reply ++ reply.sections ++ [(evaluationTag.closing,reply.after)])) =
      render reply.before ([(reasoningTag.opening,before)] ++ (evaluationTag.opening,inside) ::
        ([] ++ (evaluationTag.closing,outside) ::
          (afterReasoning reply ++ reply.sections ++ [(evaluationTag.closing,reply.after)]))) := by
    simp [render_text_append]
  rw [hchars]
  apply search_render
  · exact gap_free _ (reply.blank _ (by simp))
  · change evaluationTag.opening ∉ [reasoningTag.opening]
    decide
  · intro entry hentry
    obtain rfl := List.mem_singleton.mp hentry
    exact not_infix_of_cut h evaluationTag.opening.text_ne_nil
  · exact not_infix_of_cut hclosed evaluationTag.closing.text_ne_nil
  · simp
  · simp

end Quotation

/-- A reply in the prescribed format is read as it is meant exactly if its reasoning quotes no
evaluation section, or one that says the same. -/
theorem understood_iff (lc : Lowercase) (reply : JudgeReply) :
    reply.Understood lc ↔ reply.QuotesSame lc := by
  have hdeveloper : (developerTag,reply.developerAnalysis) ∈ reply.fields := by
    simp [JudgeReply.fields]
  have hstudent : (studentTag,reply.studentAnalysis) ∈ reply.fields := by
    simp [JudgeReply.fields]
  have hverdict : (verdictTag,reply.verdictText) ∈ reply.fields := by
    simp [JudgeReply.fields]
  unfold JudgeReply.QuotesSame JudgeReply.quotation
  cases hcut : cut evaluationTag.opening.text reply.reasoning with
  | none =>
    have hfree : ∀ m : Mark, m.FreeIn reply.gap₂ := fun m => gap_free m (reply.blank _ (by simp))
    have hfield : ∀ {name : TagName} {x : List Char}, (name,x) ∈ reply.fields →
        name.search (render reply.gap₂ reply.sections) = some x := by
      intro name x h
      exact @search_field reply name x reply.gap₂ h [] (hfree _) (by simp) (by simp)
    rw [understood_iff_fields (search_evaluation (cut_eq_none.mp hcut)),hfield hdeveloper,
      hfield hstudent,hfield hverdict]
    simp [lower_verdictText]
  | some found =>
    obtain ⟨before,quoted⟩ := found
    cases hclosed : cut evaluationTag.closing.text quoted with
    | none =>
      have hdev := @agrees_iff reply developerTag reply.developerAnalysis quoted hdeveloper
        (fun group => strip group = strip reply.developerAnalysis) rfl
        fun group hg => strip_ne reply.developerFree hg
      have hstu := @agrees_iff reply studentTag reply.studentAnalysis quoted hstudent
        (fun group => strip group = strip reply.studentAnalysis) rfl
        fun group hg => strip_ne reply.studentFree hg
      have hver := @agrees_iff reply verdictTag reply.verdictText quoted hverdict
        (fun group => lc.lower (strip group) = reply.verdict.text) lower_verdictText
        fun group hg => lower_ne hg
      rw [understood_iff_fields (search_quoted hcut hclosed),hdev,hstu,hver]
      simp [hclosed]
    | some found =>
      obtain ⟨inside,outside⟩ := found
      rw [understood_iff_fields (search_closedQuotation hcut hclosed)]
      simp [hclosed,JudgeReply.Agrees]

end Reading

/-- `str.lower` on ASCII; it leaves every other character alone. -/
def asciiLowercase : Lowercase where
  lower text := String.ofList (text.toList.map Char.toLower)
  ascii _ _ := rfl
  keepsBracket := by
    intro text h
    rw [String.toList_ofList]
    exact List.mem_map.mpr ⟨'<',h,by decide⟩

/-- The judge finds the patches equivalent, after it has thought about the other answer in the
required format. -/
def quotingReply : JudgeReply where
  before := []
  reasoning := ("If they differed I would write <evaluation><developerPatchAnalysis>a" ++
    "</developerPatchAnalysis><studentPatchAnalysis>b</studentPatchAnalysis>" ++
    "\x3cverdict>discrepant\x3c/verdict></evaluation>, but they do not.").toList
  gap₁ := ['\n']
  gap₂ := ['\n']
  developerAnalysis := "a".toList
  gap₃ := ['\n']
  studentAnalysis := "b".toList
  gap₄ := ['\n']
  padLeft := ['\n']
  word := "equivalent".toList
  padRight := ['\n']
  gap₅ := ['\n']
  after := []
  verdict := .equivalent
  blank := by
    have hnewline : isPySpace '\n' = true := by decide
    simp [Blank,hnewline]
  reasoningCloses := by decide +kernel
  developerFree := by unfold TagFree; decide
  studentFree := by unfold TagFree; decide
  anyCase := by decide
  decided := by decide

/-- The quotation is taken for the evaluation. -/
theorem quotation_flips_verdict : (parseVerdict asciiLowercase quotingReply.text).1 = .discrepant ∧
    ¬∀ (lc : Lowercase) (reply : JudgeReply), reply.Understood lc := by
  have hquoted : ((cut evaluationTag.opening.text quotingReply.reasoning).bind fun opened =>
      (cut evaluationTag.closing.text opened.2).bind fun closed =>
        (verdictTag.search closed.1).map fun group => asciiLowercase.lower (strip group)) =
      some "discrepant" := by
    decide +kernel
  obtain ⟨⟨before,quoted⟩,hcut,h⟩ := Option.bind_eq_some_iff.mp hquoted
  obtain ⟨⟨inside,outside⟩,hclosed,h⟩ := Option.bind_eq_some_iff.mp h
  obtain ⟨group,hgroup,hdiscrepant⟩ := Option.map_eq_some_iff.mp h
  have hflip : (parseVerdict asciiLowercase quotingReply.text).1 = .discrepant := by
    unfold parseVerdict
    simp only [JudgeReply.text,String.toList_ofList,search_closedQuotation hcut hclosed,hgroup,
      hdiscrepant]
    rfl
  refine ⟨hflip,?_⟩
  intro h
  have hverdict := congrArg Prod.fst (h asciiLowercase quotingReply)
  rw [hflip] at hverdict
  cases hverdict

end LiveKBench.KArena
