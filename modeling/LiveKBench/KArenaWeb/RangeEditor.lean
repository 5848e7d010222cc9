import LiveKBench.KArenaWeb.ResearchTree

/-! The field in which the buckets of a range are edited: one text, with the buckets between commas
and the parts of a bucket between colons. -/
namespace LiveKBench.KArenaWeb
open KArena Lib

/-- `text.split(separator)`. -/
def split (separator : Char) (text : String) : List String :=
  (text.toList.splitOn separator).map String.ofList

/-- The bucket of a chunk; further parts are dropped. -/
def parseRange (chunk : String) : RangeBucket :=
  let parts := split ':' chunk
  { label := parts[0]?.getD ""
    min := some (.text (parts[1]?.getD ""))
    max := some (.text (parts[2]?.getD "")) }

def parseRanges (value : String) : List RangeBucket := (split ',' value).map parseRange

/-- `bound ?? ""` in a template. -/
def boundText (js : JsNumbers) : Option SqlValue → String
  | none => ""
  | some .null => ""
  | some (.text s) => s
  | some (.bool b) => if b then "true" else "false"
  | some (.number x) => js.string x

def serializeRange (js : JsNumbers) (range : RangeBucket) : String :=
  range.label ++ ":" ++ boundText js range.min ++ ":" ++ boundText js range.max

/-- `group.ranges ?? []`. -/
def GroupSpec.ranges (group : GroupSpec) : List RangeBucket :=
  match group.mode with
  | .value => []
  | .range ranges => ranges

def serializeRanges (js : JsNumbers) (group : GroupSpec) : String :=
  String.intercalate "," (group.ranges.map (serializeRange js))

/-! ## Buckets that are the same -/

/-- A bound that is null is an empty one. -/
def normalBound : Option SqlValue → SqlValue
  | none => .text ""
  | some .null => .text ""
  | some bound => bound

structure SameBucket (range range' : RangeBucket) : Prop where
  label : range.label = range'.label
  min : normalBound range.min = normalBound range'.min
  max : normalBound range.max = normalBound range'.max

def NoComma (js : JsNumbers) (range : RangeBucket) : Prop :=
  ',' ∉ range.label.toList ∧ ',' ∉ (boundText js range.min).toList ∧
    ',' ∉ (boundText js range.max).toList

/-- A bound that is there is a text without a colon. -/
def PlainBound (bound : Option SqlValue) : Prop :=
  ∃ text, normalBound bound = .text text ∧ ':' ∉ text.toList

structure PlainRange (range : RangeBucket) : Prop where
  label : ':' ∉ range.label.toList
  min : PlainBound range.min
  max : PlainBound range.max

/-! ## The round trip -/

section RoundTrip
variable {js : JsNumbers} {separator : Char} {range : RangeBucket} {ranges : List RangeBucket}

lemma not_mem_splitOn {text part : List Char} (h : part ∈ text.splitOn separator) :
    separator ∉ part := by
  induction text generalizing part with
  | nil =>
    rw [List.splitOn_nil,List.mem_singleton] at h
    rw [h]
    exact List.not_mem_nil
  | cons c text ih =>
    rw [List.splitOn_cons_eq_if_modifyHead] at h
    by_cases hc : (c == separator) = true
    · rw [if_pos hc] at h
      obtain rfl | h := List.mem_cons.mp h
      · exact List.not_mem_nil
      · exact ih h
    · rw [if_neg hc] at h
      cases hsplit : text.splitOn separator with
      | nil => exact absurd hsplit (List.splitOn_ne_nil _ _)
      | cons first rest =>
        rw [hsplit] at h ih
        obtain rfl | h := List.mem_cons.mp h
        · rw [List.mem_cons,not_or]
          exact ⟨fun heq => hc (heq ▸ BEq.rfl),ih List.mem_cons_self⟩
        · exact ih (List.mem_cons_of_mem _ h)

/-- No part has the separator in it. -/
lemma not_mem_part (text : String) (i : ℕ) :
    separator ∉ ((split separator text)[i]?.getD "").toList := by
  cases hpart : (split separator text)[i]? with
  | none => exact List.not_mem_nil
  | some part =>
    obtain ⟨chars,hchars,rfl⟩ := List.mem_map.mp (List.mem_of_getElem? hpart)
    rw [Option.getD_some,String.toList_ofList]
    exact not_mem_splitOn hchars

/-- What is joined is split into the same parts, where these have no separator in them. -/
lemma split_join {parts : List String} {text : String} (hne : parts ≠ [])
    (hparts : ∀ part ∈ parts, separator ∉ part.toList)
    (htext : text.toList = [separator].intercalate (parts.map String.toList)) :
    split separator text = parts := by
  rw [split,htext,List.splitOn_intercalate]
  · rw [List.map_map]
    exact (List.map_congr_left fun part _ => String.ofList_toList).trans (List.map_id parts)
  · intro chars hchars
    obtain ⟨part,hpart,rfl⟩ := List.mem_map.mp hchars
    exact hparts part hpart
  · simpa using hne

lemma boundText_eq {bound : Option SqlValue} {text : String}
    (h : normalBound bound = .text text) : boundText js bound = text := by
  unfold normalBound at h
  split at h
  · exact SqlValue.text.inj h
  · exact SqlValue.text.inj h
  · subst h
    rfl

/-- A bucket is read back exactly if it is plain. -/
lemma parseRange_serializeRange_iff :
    SameBucket (parseRange (serializeRange js range)) range ↔ PlainRange range := by
  constructor
  · rintro ⟨hlabel,hmin,hmax⟩
    exact ⟨hlabel ▸ not_mem_part _ 0,⟨_,hmin.symm,not_mem_part _ 1⟩,⟨_,hmax.symm,not_mem_part _ 2⟩⟩
  · rintro ⟨hlabel,⟨min,hmin,hminPlain⟩,max,hmax,hmaxPlain⟩
    have hparts : split ':' (serializeRange js range) = [range.label,min,max] := by
      refine split_join (by simp) ?_ ?_
      · intro part hpart
        simp only [List.mem_cons,List.not_mem_nil,or_false] at hpart
        obtain rfl | rfl | rfl := hpart
        · exact hlabel
        · exact hminPlain
        · exact hmaxPlain
      · rw [serializeRange,boundText_eq hmin,boundText_eq hmax]
        simp [String.toList_append,List.intercalate]
    unfold parseRange
    rw [hparts]
    exact ⟨rfl,hmin.symm,hmax.symm⟩

lemma not_mem_serializeRange (h : NoComma js range) :
    ',' ∉ (serializeRange js range).toList := by
  simp only [serializeRange,String.toList_append,List.mem_append,not_or]
  exact ⟨⟨⟨⟨h.1,by decide⟩,h.2.1⟩,by decide⟩,h.2.2⟩

/-- The buckets of a range are read back exactly if there are some and all of them are plain. -/
theorem parseRanges_serializeRanges_iff (field : GroupField)
    (hcomma : ∀ range ∈ ranges, NoComma js range) :
    List.Forall₂ SameBucket (parseRanges (serializeRanges js ⟨field,.range ranges⟩)) ranges ↔
      ranges ≠ [] ∧ ∀ range ∈ ranges, PlainRange range := by
  cases hranges : ranges with
  | nil =>
    refine iff_of_false (fun h => ?_) fun h => h.1 rfl
    have hlength := h.length_eq
    cases hlength
  | cons first rest =>
    rw [← hranges]
    have hne : ranges ≠ [] := by
      rw [hranges]
      exact List.cons_ne_nil _ _
    have hchunks : split ',' (serializeRanges js ⟨field,.range ranges⟩) =
        ranges.map (serializeRange js) := by
      refine split_join (by simpa using hne) ?_ ?_
      · intro chunk hchunk
        obtain ⟨range,hrange,rfl⟩ := List.mem_map.mp hchunk
        exact not_mem_serializeRange (hcomma range hrange)
      · rw [serializeRanges,String.toList_intercalate]
        rfl
    rw [parseRanges,hchunks,List.map_map,List.forall₂_map_left_iff,List.forall₂_same]
    simp only [Function.comp_apply,parseRange_serializeRange_iff]
    exact (and_iff_right hne).symm

end RoundTrip

/-- The sizes of the editor's placeholder. -/
def patchSizes : List RangeBucket :=
  [⟨"small",none,some (.text "20")⟩,⟨"medium",some (.text "21"),some (.text "80")⟩,
    ⟨"large",some (.text "81"),none⟩]

instance (js : JsNumbers) (range : RangeBucket) : Decidable (NoComma js range) :=
  inferInstanceAs (Decidable (_ ∧ _ ∧ _))

theorem parseRanges_serializeRanges_patchSizes : List.Forall₂ SameBucket
    (parseRanges (serializeRanges .decimal ⟨.developerPatchSize,.range patchSizes⟩))
      patchSizes := by
  refine (parseRanges_serializeRanges_iff .developerPatchSize (by decide)).mpr
    ⟨List.cons_ne_nil _ _,fun range hrange => ?_⟩
  simp only [patchSizes,List.mem_cons,List.not_mem_nil,or_false] at hrange
  obtain rfl | rfl | rfl := hrange
  · exact ⟨by decide,⟨"",rfl,by decide⟩,⟨"20",rfl,by decide⟩⟩
  · exact ⟨by decide,⟨"21",rfl,by decide⟩,⟨"80",rfl,by decide⟩⟩
  · exact ⟨by decide,⟨"81",rfl,by decide⟩,⟨"",rfl,by decide⟩⟩

/-- The end of January. -/
def untilFebruary : RangeBucket := ⟨"January",none,some (.text "2024-01-31T23:59:59")⟩

/-- The time of a bound loses its minutes. -/
theorem parseRanges_cuts_time :
    ¬∀ (js : JsNumbers) (field : GroupField) (ranges : List RangeBucket),
      (∀ range ∈ ranges, NoComma js range) →
        List.Forall₂ SameBucket (parseRanges (serializeRanges js ⟨field,.range ranges⟩)) ranges := by
  intro h
  have hsame := h .decimal .fixedTime [untilFebruary] (by decide)
  obtain ⟨hbucket,-⟩ := List.forall₂_cons.mp hsame
  have hmax := hbucket.max
  revert hmax
  decide

end LiveKBench.KArenaWeb
