import Mathlib.Data.List.Infix
import Mathlib.Tactic.Lemma

/-! The first occurrence of a mark in a text, and the search for what stands between an opening and
a closing mark. -/
namespace LiveKBench.Lib

section Search
variable {α : Type*} [DecidableEq α]

/-- What stands before and after the first occurrence of a mark. -/
def cut (mark : List α) : List α → Option (List α × List α)
  | [] => if mark = [] then some ([],[]) else none
  | x :: xs =>
    if mark <+: x :: xs then some ([],(x :: xs).drop mark.length)
    else (cut mark xs).map fun found => (x :: found.1,found.2)

/-- What an expression `open(.*?)close` takes at the beginning of a text. -/
def matchHere (opening closing text : List α) : Option (List α) :=
  if opening <+: text then (cut closing (text.drop opening.length)).map Prod.fst else none

/-- The group of the leftmost match of `open(.*?)close`. -/
def search (opening closing : List α) : List α → Option (List α)
  | [] => matchHere opening closing []
  | x :: xs => (matchHere opening closing (x :: xs)).or (search opening closing xs)

/-- No occurrence of the mark begins in the first text and ends in the second. -/
def NoStraddle (mark x y : List α) : Prop :=
  ∀ u v, u ≠ [] → v ≠ [] → mark = u ++ v → u <:+ x → ¬v <+: y

variable {mark opening closing text before after x y : List α} {a : α}

theorem cut_append_self (h : mark ≠ []) (after : List α) :
    cut mark (mark ++ after) = some ([],after) := by
  cases mark with
  | nil => exact absurd rfl h
  | cons b mark =>
    rw [List.cons_append,cut,if_pos (by rw [← List.cons_append]; exact List.prefix_append _ _),
      ← List.cons_append,List.drop_left]

theorem append_of_cut (h : cut mark text = some (before,after)) :
    text = before ++ (mark ++ after) := by
  induction text generalizing before with
  | nil =>
    rw [cut] at h
    split at h
    · rename_i hm
      cases h
      simp [hm]
    · cases h
  | cons c text ih =>
    rw [cut] at h
    split at h
    · rename_i hp
      obtain ⟨rest,hrest⟩ := hp
      cases h
      rw [← hrest,List.drop_left,List.nil_append]
    · obtain ⟨found,hfound,heq⟩ := Option.map_eq_some_iff.mp h
      cases heq
      rw [List.cons_append,← ih hfound]

theorem cut_eq_none : cut mark text = none ↔ ¬mark <:+: text := by
  induction text with
  | nil =>
    rw [cut,List.infix_nil]
    split <;> simp [*]
  | cons c text ih =>
    rw [cut,List.infix_cons_iff]
    split
    · simp [*]
    · rename_i hp
      rw [Option.map_eq_none_iff,ih]
      simp [hp]

/-- The first occurrence in the first part of a text is the first. -/
theorem cut_append_of_some (h : cut mark x = some (before,after)) (y : List α) :
    cut mark (x ++ y) = some (before,after ++ y) := by
  induction x generalizing before with
  | nil =>
    rw [cut] at h
    split at h
    · rename_i hm
      cases h
      subst hm
      cases y <;> simp [cut]
    · cases h
  | cons c x ih =>
    rw [cut] at h
    rw [List.cons_append,cut]
    split at h
    · rename_i hp
      cases h
      have hpy : mark <+: c :: (x ++ y) := hp.trans (List.prefix_append (c :: x) y)
      rw [if_pos hpy,← List.cons_append,List.drop_append_of_le_length hp.length_le]
    · rename_i hp
      obtain ⟨found,hfound,heq⟩ := Option.map_eq_some_iff.mp h
      cases heq
      have hpy : ¬mark <+: c :: (x ++ y) := by
        intro hpre
        -- The mark ends in the first part, since it occurs there later on.
        have hlen : mark.length ≤ (c :: x).length := by
          rw [append_of_cut hfound]
          simp
          omega
        exact hp (List.prefix_of_prefix_length_le hpre (List.prefix_append (c :: x) y) hlen)
      rw [if_neg hpy,ih hfound]
      rfl

/-- Without an occurrence in the first part, nor across, the first is that of the second. -/
theorem cut_append_of_none (hx : cut mark x = none) (hxy : NoStraddle mark x y) :
    cut mark (x ++ y) = (cut mark y).map fun found => (x ++ found.1,found.2) := by
  induction x with
  | nil => simp
  | cons c x ih =>
    rw [cut] at hx
    split at hx
    · cases hx
    · rename_i hp
      rw [Option.map_eq_none_iff] at hx
      have hpy : ¬mark <+: c :: (x ++ y) := by
        intro hpre
        obtain ⟨v,hv,-⟩ | ⟨v,hv,hvy⟩ := List.append_eq_append_iff.mp
          (show mark ++ _ = (c :: x) ++ y from hpre.choose_spec)
        · exact hp ⟨v,hv.symm⟩
        · cases v with
          | nil => exact hp ⟨[],by rw [List.append_nil,hv,List.append_nil]⟩
          | cons d v =>
            exact hxy (c :: x) (d :: v) (List.cons_ne_nil _ _) (List.cons_ne_nil _ _) hv
              List.suffix_rfl ⟨_,hvy.symm⟩
      have hrest : NoStraddle mark x y := fun u v hu hv hmark hsuffix =>
        hxy u v hu hv hmark (hsuffix.trans (List.suffix_cons c x))
      rw [List.cons_append,cut,if_neg hpy,ih hx hrest,Option.map_map]
      rfl

lemma matchHere_eq_none (h : ¬closing <:+: text.drop opening.length) :
    matchHere opening closing text = none := by
  rw [matchHere]
  split
  · rw [cut_eq_none.mpr h]
    rfl
  · rfl

/-- The mark does not occur before its first occurrence. -/
theorem not_infix_of_cut (h : cut mark text = some (before,after)) (hm : mark ≠ []) :
    ¬mark <:+: before := by
  intro hin
  obtain ⟨found,hfound⟩ := Option.ne_none_iff_exists'.mp fun hnone => cut_eq_none.mp hnone hin
  have htext := append_of_cut h
  rw [htext,cut_append_of_some hfound] at h
  have hbefore : found.1 = before := congrArg Prod.fst (Option.some.inj h)
  have hlen := congrArg List.length (append_of_cut hfound)
  have hpos : 0 < mark.length := List.length_pos_of_ne_nil hm
  simp only [List.length_append,hbefore] at hlen
  omega

/-- Nothing matches where the closing mark does not occur late enough. -/
lemma search_eq_none (h : ¬closing <:+: text.drop opening.length) :
    search opening closing text = none := by
  induction text with
  | nil => exact matchHere_eq_none h
  | cons c text ih =>
    rw [search,matchHere_eq_none h,Option.none_or]
    apply ih
    intro hin
    apply h
    have hsuffix := List.drop_suffix_drop_left (c :: text) (Nat.le_succ opening.length)
    exact hin.trans hsuffix.isInfix

/-- The leftmost match begins at the first opening mark and ends at the first closing mark after
it. -/
theorem search_eq (h : opening ≠ []) : search opening closing text =
    (cut opening text).bind fun found => (cut closing found.2).map Prod.fst := by
  induction text with
  | nil => simp [search,matchHere,cut,h]
  | cons c text ih =>
    rw [search,matchHere,cut]
    split
    · rw [Option.bind_some]
      cases hc : cut closing ((c :: text).drop opening.length) with
      | some found => rfl
      | none =>
        rw [Option.map_none,Option.none_or]
        -- A later opening mark ends later, and the closing mark does not even follow the first.
        apply search_eq_none
        intro hin
        apply cut_eq_none.mp hc
        cases opening with
        | nil => exact absurd rfl h
        | cons o opening =>
          have hsuffix := List.drop_suffix_drop_left text (Nat.le_succ opening.length)
          exact hin.trans hsuffix.isInfix
    · rw [Option.none_or,ih]
      cases cut opening text <;> rfl

/-- A match in the first part of a text is the match. -/
theorem search_append_of_some (h : opening ≠ []) (hx : search opening closing x = some y)
    (z : List α) : search opening closing (x ++ z) = some y := by
  rw [search_eq h] at hx ⊢
  obtain ⟨found,hfound,hrest⟩ := Option.bind_eq_some_iff.mp hx
  obtain ⟨found',hfound',rfl⟩ := Option.map_eq_some_iff.mp hrest
  rw [cut_append_of_some hfound,Option.bind_some,cut_append_of_some hfound',Option.map_some]

end Search

/-! ## Marks in brackets -/

/-- A tag, by what stands between its brackets. -/
structure Mark where
  body : List Char
  noOpen : '<' ∉ body
  noClose : '>' ∉ body

namespace Mark

def text (m : Mark) : List Char := '<' :: (m.body ++ ['>'])

/-- The mark does not occur in the text. -/
def FreeIn (m : Mark) (x : List Char) : Prop := ¬m.text <:+: x

instance (m : Mark) (x : List Char) : Decidable (m.FreeIn x) :=
  inferInstanceAs (Decidable (¬_))

variable {m m' : Mark} {x y : List Char}

lemma text_ne_nil (m : Mark) : m.text ≠ [] := List.cons_ne_nil _ _

/-- A part of a mark that does not begin it has no opening bracket. -/
lemma noStraddle_text (m m' : Mark) (x y : List Char) :
    NoStraddle m.text x (m'.text ++ y) := by
  intro u v hu hv hm _ hpre
  cases u with
  | nil => exact hu rfl
  | cons c u =>
    cases v with
    | nil => exact hv rfl
    | cons d v =>
      obtain ⟨-,hbody⟩ := List.cons.inj hm
      obtain ⟨rest,hrest⟩ := hpre
      obtain ⟨rfl,-⟩ := List.cons.inj hrest
      have hmem : '<' ∈ m.body ++ ['>'] := by
        rw [hbody]
        simp
      simp [m.noOpen] at hmem

/-- A part of a mark that does not end it has no closing bracket. -/
lemma text_noStraddle (m m' : Mark) (x y : List Char) :
    NoStraddle m.text (x ++ m'.text) y := by
  intro u v hu hv hm hsuffix _
  obtain ⟨v',d,rfl⟩ := (List.eq_nil_or_concat v).resolve_left hv
  have hlast : u.getLast? = some '>' := by
    obtain ⟨pre,hpre⟩ := hsuffix
    have hend := congrArg List.getLast? hpre
    rw [List.getLast?_append_of_ne_nil _ hu] at hend
    rw [hend,Mark.text,← List.cons_append,← List.append_assoc,List.getLast?_concat]
  have hinit : '<' :: m.body = u ++ v' := by
    have hdrop := congrArg List.dropLast hm
    rwa [Mark.text,← List.cons_append,List.dropLast_concat,List.concat_eq_append,
      ← List.append_assoc,List.dropLast_concat] at hdrop
  have hmem : '>' ∈ '<' :: m.body := by
    rw [hinit]
    exact List.mem_append_left _ (List.mem_of_getLast? hlast)
  simp [m.noClose] at hmem

lemma body_inj : m.body = m'.body ↔ m = m' := by
  cases m
  cases m'
  simp

instance : DecidableEq Mark := fun _ _ => decidable_of_iff _ body_inj

lemma freeIn_of_not_mem (h : '<' ∉ x) : m.FreeIn x :=
  fun hin => h (hin.subset (List.mem_cons_self ..))

/-- A mark occurs in another one only if it is that. -/
lemma freeIn_text (h : m ≠ m') : m.FreeIn m'.text := by
  intro hin
  obtain ⟨pre,post,heq⟩ := hin
  apply h
  apply body_inj.mp
  cases pre with
  | cons c pre =>
    obtain ⟨-,hbody⟩ := List.cons.inj heq
    have hmem : '<' ∈ m'.body ++ ['>'] := by
      rw [← hbody]
      simp [Mark.text]
    simp [m'.noOpen] at hmem
  | nil =>
    have hbody : m.body ++ ['>'] ++ post = m'.body ++ ['>'] := (List.cons.inj heq).2
    obtain rfl | ⟨post',d,rfl⟩ := List.eq_nil_or_concat post
    · rw [List.append_nil] at hbody
      exact List.append_cancel_right hbody
    · have hinit := congrArg List.dropLast hbody
      rw [List.concat_eq_append,← List.append_assoc,List.dropLast_concat,
        List.dropLast_concat] at hinit
      have hmem : '>' ∈ m'.body := by
        rw [← hinit]
        simp
      exact absurd hmem m'.noClose

end Mark

/-! ## Texts between marks -/

section Render
open Mark

/-- A text, and marks each with the text after it. -/
def render (x : List Char) : List (Mark × List Char) → List Char
  | [] => x
  | (m,y) :: rest => x ++ (m.text ++ render y rest)

variable {m m' : Mark} {x y z : List Char} {pre mid post : List (Mark × List Char)}

@[simp] lemma render_cons (x y : List Char) (m : Mark) (rest : List (Mark × List Char)) :
    render x ((m,y) :: rest) = x ++ (m.text ++ render y rest) := rfl

lemma render_text_append (x y : List Char) (rest : List (Mark × List Char)) :
    render (x ++ y) rest = x ++ render y rest := by
  cases rest with
  | nil => rfl
  | cons entry rest => exact List.append_assoc x y _

/-- What stands before its first occurrence in the marked text, and what stands after. -/
theorem cut_render (hx : m.FreeIn x) (hmarks : m ∉ pre.map Prod.fst)
    (hpre : ∀ entry ∈ pre, m.FreeIn entry.2) (y : List Char) (post : List (Mark × List Char)) :
    cut m.text (render x (pre ++ (m,y) :: post)) = some (render x pre,render y post) := by
  induction pre generalizing x with
  | nil =>
    rw [List.nil_append,render_cons,
      cut_append_of_none (cut_eq_none.mpr hx) (noStraddle_text m m x _),
      cut_append_self m.text_ne_nil]
    simp [render]
  | cons entry pre ih =>
    obtain ⟨m',x'⟩ := entry
    obtain ⟨hfree,hrest⟩ := List.forall_mem_cons.mp hpre
    obtain ⟨hne,hmarks⟩ := List.ne_and_not_mem_of_not_mem_cons hmarks
    rw [List.cons_append,render_cons,
      cut_append_of_none (cut_eq_none.mpr hx) (noStraddle_text m m' x _),
      cut_append_of_none (cut_eq_none.mpr (freeIn_text hne)) (text_noStraddle m m' [] _),
      ih hfree hmarks hrest]
    simp [render]

/-- The search finds the text between the first opening mark and the first closing mark after
it. -/
theorem search_render (hx : m.FreeIn x) (hmarks : m ∉ pre.map Prod.fst)
    (hpre : ∀ entry ∈ pre, m.FreeIn entry.2) (hy : m'.FreeIn y) (hmarks' : m' ∉ mid.map Prod.fst)
    (hmid : ∀ entry ∈ mid, m'.FreeIn entry.2) :
    search m.text m'.text (render x (pre ++ (m,y) :: (mid ++ (m',z) :: post))) =
      some (render y mid) := by
  rw [search_eq m.text_ne_nil,cut_render hx hmarks hpre,Option.bind_some,
    cut_render hy hmarks' hmid,Option.map_some]

end Render

end LiveKBench.Lib
