import LiveKBench.Lib.Json
import LiveKBench.Lib.Numerals

/-! The text that `json.dumps` makes of a value, in ASCII and with blanks after the separators, and
how `json.loads` reads it back. A number is kept as the characters that it is written with. -/
namespace LiveKBench.Lib
namespace Json

/-- `\uXXXX`. -/
def unicodeEscape (n : ℕ) : List Char := '\\' :: 'u' :: numeral 16 4 n

/-- A character in a text of ASCII characters; one beyond the first plane is a pair of escapes. -/
def asciiEscape (c : Char) : List Char :=
  let n := c.toNat
  if c = '"' then ['\\','"']
  else if c = '\\' then ['\\','\\']
  else if c = '\n' then ['\\','n']
  else if c = '\r' then ['\\','r']
  else if c = '\t' then ['\\','t']
  else if n = 12 then ['\\','f']
  else if n = 8 then ['\\','b']
  else if 32 ≤ n ∧ n < 127 then [c]
  else if n < 65536 then unicodeEscape n
  else unicodeEscape (55296+(n-65536)/1024) ++ unicodeEscape (56320+(n-65536)%1024)

/-- The text of a string, after the quote that begins it. -/
def dumpsChars (chars : List Char) : List Char := chars.flatMap asciiEscape ++ ['"']

mutual
/-- `json.dumps`. -/
def dumps : Json → List Char
  | .null => ['n','u','l','l']
  | .bool true => ['t','r','u','e']
  | .bool false => ['f','a','l','s','e']
  | .num text => text.chars
  | .str s => '"' :: dumpsChars s.toList
  | .arr [] => ['[',']']
  | .arr (item :: items) => '[' :: (dumps item ++ dumpsItems items)
  | .obj [] => ['\x7b','\x7d']
  | .obj ((name,value) :: members) =>
    '\x7b' :: '"' :: (dumpsChars name.toList ++ ':' :: ' ' :: (dumps value ++ dumpsMembers members))

/-- The items after the first one. -/
def dumpsItems : List Json → List Char
  | [] => [']']
  | item :: items => ',' :: ' ' :: (dumps item ++ dumpsItems items)

def dumpsMembers : List (String × Json) → List Char
  | [] => ['\x7d']
  | (name,value) :: members =>
    ',' :: ' ' :: '"' :: (dumpsChars name.toList ++
      ':' :: ' ' :: (dumps value ++ dumpsMembers members))
end

/-! ## Reading -/

def isBlank (c : Char) : Bool := c = ' ' || c = '\t' || c = '\n' || c = '\r'

def skipBlanks (text : List Char) : List Char := text.dropWhile isBlank

/-- The escapes of one character. -/
def simpleEscape (c : Char) : Option Char :=
  [('"','"'),('\\','\\'),('/','/'),('b',Char.ofNat 8),('f',Char.ofNat 12),('n','\n'),('r','\r'),
    ('t','\t')].lookup c

/-- The digits of a `\u` escape, and of the one after it where the two are a pair. -/
def readUnicode (text : List Char) : Option (Char × List Char) := do
  let (high,rest) ← readNumeral 16 4 0 text
  if 55296 ≤ high ∧ high < 57344 then
    match rest with
    | '\\' :: 'u' :: rest => do
      let (low,rest) ← readNumeral 16 4 0 rest
      if high < 56320 ∧ 56320 ≤ low ∧ low < 57344 then
        some (Char.ofNat (65536+(high-55296)*1024+(low-56320)),rest)
      else none
    | _ => none
  else some (Char.ofNat high,rest)

/-- What follows a backslash. -/
def readEscape (text : List Char) : Option (Char × List Char) :=
  match text with
  | [] => none
  | 'u' :: rest => readUnicode rest
  | c :: rest => (simpleEscape c).map fun d => (d,rest)

/-- The characters of a string up to the quote that ends it; `n` bounds how many there are. -/
def readChars : ℕ → List Char → Option (List Char × List Char)
  | 0, _ => none
  | _+1, [] => none
  | n+1, c :: rest =>
    if c = '"' then some ([],rest)
    else if c = '\\' then do
      let (d,rest) ← readEscape rest
      let (chars,rest) ← readChars n rest
      some (d :: chars,rest)
    else if c.toNat < 32 then none
    else do
      let (chars,rest) ← readChars n rest
      some (c :: chars,rest)

def readString (text : List Char) : Option (String × List Char) :=
  (readChars text.length text).map fun r => (.ofList r.1,r.2)

/-- The characters of a number. -/
def readNumber (text : List Char) : Option (Json × List Char) :=
  let chars := text.takeWhile isNumberChar
  if h : isNumber chars = true then some (.num ⟨chars,h⟩,text.dropWhile isNumberChar) else none

/-- The rest of the text after a word. -/
def readWord (word text : List Char) : Option (List Char) :=
  if word.isPrefixOf text then some (text.drop word.length) else none

mutual
/-- The value at the start of a text, and the rest; `n` bounds the depth of the recursion. -/
def readValue : ℕ → List Char → Option (Json × List Char)
  | 0, _ => none
  | _+1, [] => none
  | n+1, c :: rest =>
    if c = '"' then (readString rest).map fun r => (.str r.1,r.2)
    else if c = '[' then
      match skipBlanks rest with
      | ']' :: rest => some (.arr [],rest)
      | rest => (readItems n rest).map fun r => (.arr r.1,r.2)
    else if c = '\x7b' then
      match skipBlanks rest with
      | '\x7d' :: rest => some (.obj [],rest)
      | rest => (readMembers n rest).map fun r => (.obj r.1,r.2)
    else if c = 'n' then (readWord ['u','l','l'] rest).map fun rest => (.null,rest)
    else if c = 't' then (readWord ['r','u','e'] rest).map fun rest => (.bool true,rest)
    else if c = 'f' then (readWord ['a','l','s','e'] rest).map fun rest => (.bool false,rest)
    else readNumber (c :: rest)

/-- The items up to the bracket that ends an array. -/
def readItems : ℕ → List Char → Option (List Json × List Char)
  | 0, _ => none
  | n+1, text => do
    let (item,rest) ← readValue n text
    match skipBlanks rest with
    | ']' :: rest => some ([item],rest)
    | ',' :: rest => do
      let (items,rest) ← readItems n (skipBlanks rest)
      some (item :: items,rest)
    | _ => none

/-- The members up to the brace that ends an object. -/
def readMembers : ℕ → List Char → Option (List (String × Json) × List Char)
  | 0, _ => none
  | n+1, text =>
    match text with
    | '"' :: rest => do
      let (name,rest) ← readString rest
      match skipBlanks rest with
      | ':' :: rest => do
        let (value,rest) ← readValue n (skipBlanks rest)
        match skipBlanks rest with
        | '\x7d' :: rest => some ([(name,value)],rest)
        | ',' :: rest => do
          let (members,rest) ← readMembers n (skipBlanks rest)
          some ((name,value) :: members,rest)
        | _ => none
      | _ => none
    | _ => none
end

/-- `json.loads`: one value, with blanks around it. -/
def loads (text : List Char) : Option Json := do
  let (value,rest) ← readValue (text.length+1) (skipBlanks text)
  if skipBlanks rest = [] then some value else none

/-! ## What was written is read back -/

section Strings
variable {c : Char} {n : ℕ} {rest : List Char}

lemma readNumeral_unicode (hn : n < 65536) (rest : List Char) :
    readNumeral 16 4 0 (numeral 16 4 n ++ rest) = some (n,rest) :=
  readNumeral_numeral (by omega) (by omega) (by norm_num; exact hn) rest

lemma isValidChar (c : Char) : c.toNat < 55296 ∨ 57343 < c.toNat ∧ c.toNat < 1114112 := c.valid

lemma readUnicode_basic (hn : c.toNat < 65536) :
    readUnicode (numeral 16 4 c.toNat ++ rest) = some (c,rest) := by
  have hvalid := isValidChar c
  simp only [readUnicode,readNumeral_unicode hn,Option.bind_eq_bind,Option.bind_some]
  rw [if_neg (by omega),Char.ofNat_toNat]

lemma readUnicode_surrogates {a b : ℕ} (ha : a < 1024) (hb : b < 1024) :
    readUnicode (numeral 16 4 (55296+a) ++ (unicodeEscape (56320+b) ++ rest)) =
      some (Char.ofNat (65536+a*1024+b),rest) := by
  have hhigh : 55296 ≤ 55296+a ∧ 55296+a < 57344 := by omega
  have hpair : 55296+a < 56320 ∧ 56320 ≤ 56320+b ∧ 56320+b < 57344 := by omega
  simp only [readUnicode,unicodeEscape,List.cons_append,
    readNumeral_unicode (show 55296+a < 65536 by omega),
    readNumeral_unicode (show 56320+b < 65536 by omega),
    Option.bind_eq_bind,Option.bind_some,hhigh,hpair,if_true,Nat.add_sub_cancel_left,and_self]

lemma readUnicode_pair (hn : 65536 ≤ c.toNat) :
    readUnicode (numeral 16 4 (55296+(c.toNat-65536)/1024) ++
      (unicodeEscape (56320+(c.toNat-65536)%1024) ++ rest)) = some (c,rest) := by
  have hvalid := isValidChar c
  have hcode : 65536+(c.toNat-65536)/1024*1024+(c.toNat-65536)%1024 = c.toNat := by omega
  rw [readUnicode_surrogates (by omega) (Nat.mod_lt _ (by omega)),hcode,Char.ofNat_toNat]

/-- One escaped character is read as that character. -/
lemma readChars_asciiEscape (c : Char) (n : ℕ) (rest : List Char) :
    readChars (n+1) (asciiEscape c ++ rest) =
      (readChars n rest).map fun r => (c :: r.1,r.2) := by
  have hescaped : ∀ text d, readEscape (text ++ rest) = some (d,rest) →
      readChars (n+1) ('\\' :: (text ++ rest)) =
        (readChars n rest).map fun r => (d :: r.1,r.2) := by
    intro text d htext
    have hslash : ('\\' : Char) ≠ '"' := by decide
    simp only [readChars,if_neg hslash,if_true,htext,Option.bind_eq_bind,Option.bind_some]
    cases readChars n rest <;> rfl
  have hunicode : ∀ text d, readUnicode (text ++ rest) = some (d,rest) →
      readChars (n+1) ('\\' :: 'u' :: (text ++ rest)) =
        (readChars n rest).map fun r => (d :: r.1,r.2) :=
    fun text d htext => hescaped ('u' :: text) d htext
  unfold asciiEscape
  dsimp only
  split
  · rename_i hc
    subst hc
    exact hescaped ['"'] '"' rfl
  split
  · rename_i hc
    subst hc
    exact hescaped ['\\'] '\\' rfl
  split
  · rename_i hc
    subst hc
    exact hescaped ['n'] '\n' rfl
  split
  · rename_i hc
    subst hc
    exact hescaped ['r'] '\r' rfl
  split
  · rename_i hc
    subst hc
    exact hescaped ['t'] '\t' rfl
  split
  · rename_i hc
    obtain rfl : c = Char.ofNat 12 := by rw [← hc,Char.ofNat_toNat]
    exact hescaped ['f'] _ rfl
  split
  · rename_i hc
    obtain rfl : c = Char.ofNat 8 := by rw [← hc,Char.ofNat_toNat]
    exact hescaped ['b'] _ rfl
  split
  · rename_i hquote hslash _ _ _ _ _ hprint
    have hcontrol : ¬c.toNat < 32 := by omega
    simp only [List.singleton_append,readChars,if_neg hquote,if_neg hslash,if_neg hcontrol,
      Option.bind_eq_bind]
    cases readChars n rest <;> rfl
  split
  · rename_i hbasic
    exact hunicode _ c (readUnicode_basic hbasic)
  · rename_i hbasic
    have hpair := @readUnicode_pair c rest (by omega)
    have htext := hunicode (numeral 16 4 (55296+(c.toNat-65536)/1024) ++
      unicodeEscape (56320+(c.toNat-65536)%1024)) c (by rw [List.append_assoc]; exact hpair)
    exact htext

/-- The escaped characters are read one after the other. -/
lemma readChars_dumpsChars (chars : List Char) (rest : List Char) (hn : chars.length < n) :
    readChars n (dumpsChars chars ++ rest) = some (chars,rest) := by
  induction chars generalizing n with
  | nil =>
    cases n with
    | zero => omega
    | succ n => simp [dumpsChars,readChars]
  | cons c chars ih =>
    cases n with
    | zero => omega
    | succ n =>
      have htext : dumpsChars (c :: chars) ++ rest =
          asciiEscape c ++ (dumpsChars chars ++ rest) := by
        simp [dumpsChars]
      rw [htext,readChars_asciiEscape,ih (by simpa using hn)]
      rfl

lemma length_dumpsChars (chars : List Char) : chars.length < (dumpsChars chars).length := by
  induction chars with
  | nil => simp [dumpsChars]
  | cons c chars ih =>
    have hpos : 0 < (asciiEscape c).length := by
      unfold asciiEscape
      dsimp only
      split_ifs <;> simp [unicodeEscape]
    have htext : dumpsChars (c :: chars) = asciiEscape c ++ dumpsChars chars := by
      simp [dumpsChars]
    rw [htext,List.length_cons,List.length_append]
    omega

theorem readString_dumpsChars (name : String) (rest : List Char) :
    readString (dumpsChars name.toList ++ rest) = some (name,rest) := by
  have hlen := length_dumpsChars name.toList
  rw [readString,readChars_dumpsChars _ _ (by rw [List.length_append]; omega)]
  simp

end Strings

section Values

lemma skipBlanks_cons {c : Char} (hc : isBlank c = false) (rest : List Char) :
    skipBlanks (c :: rest) = c :: rest := by
  simp [skipBlanks,hc]

lemma skipBlanks_blank (rest : List Char) : skipBlanks (' ' :: rest) = skipBlanks rest := by
  simp [skipBlanks,isBlank]

/-- A number begins like no other value and like no blank. -/
lemma lead_of_isNumberChar {c : Char} (hc : isNumberChar c = true) :
    isBlank c = false ∧ c ∉ ['"','[',']','\x7b','n','t','f'] := by
  constructor
  · by_contra hblank
    simp only [isBlank,Bool.not_eq_false,Bool.or_eq_true,decide_eq_true_eq] at hblank
    rcases hblank with ((rfl | rfl) | rfl) | rfl <;> revert hc <;> decide
  · intro hmem
    simp only [List.mem_cons,List.not_mem_nil,or_false] at hmem
    rcases hmem with rfl | rfl | rfl | rfl | rfl | rfl | rfl <;> revert hc <;> decide

/-- A value's text begins with no blank and with no bracket that ends an array. -/
lemma exists_dumpsLead (v : Json) : ∃ c rest, dumps v = c :: rest ∧ isBlank c = false ∧ c ≠ ']' := by
  cases v with
  | null => exact ⟨'n',_,rfl,rfl,by decide⟩
  | bool value => cases value <;> exact ⟨_,_,rfl,rfl,by decide⟩
  | num text =>
    have hne := text.ne_nil
    have hall := text.all_number
    obtain ⟨chars,hnumber⟩ := text
    cases chars with
    | nil => exact absurd rfl hne
    | cons c rest =>
      obtain ⟨hblank,hlead⟩ := lead_of_isNumberChar (hall c List.mem_cons_self)
      refine ⟨c,rest,rfl,hblank,?_⟩
      rintro rfl
      exact hlead (by simp)
  | str value => exact ⟨'"',_,rfl,rfl,by decide⟩
  | arr items => cases items <;> exact ⟨'[',_,rfl,rfl,by decide⟩
  | obj members => cases members <;> exact ⟨'\x7b',_,rfl,rfl,by decide⟩

lemma skipBlanks_dumps (v : Json) (rest : List Char) :
    skipBlanks (dumps v ++ rest) = dumps v ++ rest := by
  obtain ⟨c,text,hv,hblank,-⟩ := exists_dumpsLead v
  rw [hv]
  exact skipBlanks_cons hblank _

lemma delimited_dumpsItems (items : List Json) (rest : List Char) :
    Delimited (dumpsItems items ++ rest) := by
  cases items <;> simp [dumpsItems,Delimited,isNumberChar]

lemma delimited_dumpsMembers (members : List (String × Json)) (rest : List Char) :
    Delimited (dumpsMembers members ++ rest) := by
  cases members <;> simp [dumpsMembers,Delimited,isNumberChar]

lemma dumpsItems_pos (items : List Json) : 0 < (dumpsItems items).length := by
  cases items <;> simp [dumpsItems]

lemma dumpsMembers_pos (members : List (String × Json)) : 0 < (dumpsMembers members).length := by
  cases members <;> simp [dumpsMembers]

lemma readNumber_chars (text : NumberText) {rest : List Char} (hrest : Delimited rest) :
    readNumber (text.chars ++ rest) = some (.num text,rest) := by
  have hall := text.all_number
  have htake : (text.chars ++ rest).takeWhile isNumberChar = text.chars ∧
      (text.chars ++ rest).dropWhile isNumberChar = rest := by
    rw [List.takeWhile_append_of_pos hall,List.dropWhile_append_of_pos hall]
    cases rest with
    | nil => simp
    | cons c rest =>
      have hc : isNumberChar c = false := hrest c rfl
      simp [hc]
  obtain ⟨chars,hnumber⟩ := text
  simp only at htake
  simp only [readNumber,htake.1,htake.2,hnumber,dite_true]

mutual
/-- The text of a value is read as the value, whatever follows. -/
theorem readValue_dumps (v : Json) {n : ℕ} {rest : List Char} (hn : (dumps v).length ≤ n)
    (hrest : Delimited rest) : readValue n (dumps v ++ rest) = some (v,rest) := by
  obtain ⟨c,text,hv,-,-⟩ := exists_dumpsLead v
  match n with
  | 0 => simp [hv] at hn
  | n+1 =>
    match v with
    | .null => rfl
    | .bool true => rfl
    | .bool false => rfl
    | .num number =>
      change number.chars = c :: text at hv
      have hnumber := readNumber_chars number hrest
      obtain ⟨-,hlead⟩ := lead_of_isNumberChar (number.all_number c (by simp [hv]))
      simp only [List.mem_cons,List.not_mem_nil,or_false,not_or] at hlead
      obtain ⟨h₁,h₂,-,h₃,h₄,h₅,h₆⟩ := hlead
      rw [hv,List.cons_append] at hnumber
      change readValue (n+1) (number.chars ++ rest) = _
      rw [hv,List.cons_append,readValue,if_neg h₁,if_neg h₂,if_neg h₃,if_neg h₄,if_neg h₅,
        if_neg h₆,hnumber]
    | .str value =>
      have hstring := readString_dumpsChars value rest
      simp only [dumps,List.cons_append,readValue,if_true,hstring,Option.map_some]
    | .arr [] => rfl
    | .arr (item :: items) =>
      have hitems := readItems_dumps item items (n := n) rest (by simpa [dumps] using hn)
      have hblanks := skipBlanks_dumps item (dumpsItems items ++ rest)
      obtain ⟨d,itemText,hitem,-,hd⟩ := exists_dumpsLead item
      have hquote : ('[' : Char) ≠ '"' := by decide
      simp only [dumps,List.cons_append,List.append_assoc,readValue,if_neg hquote,if_true,hblanks]
      rw [hitem,List.cons_append]
      split
      · rename_i heq
        exact absurd (List.cons.inj heq).1 hd
      · rename_i heq
        rw [← List.cons_append,← hitem,hitems]
        rfl
    | .obj [] => rfl
    | .obj ((name,value) :: members) =>
      have hmembers := readMembers_dumps name value members (n := n) rest (by
        simp only [dumps,List.length_cons,List.length_append] at hn ⊢
        omega)
      have hquote : ('\x7b' : Char) ≠ '"' := by decide
      have hbracket : ('\x7b' : Char) ≠ '[' := by decide
      simp only [dumps,List.cons_append,List.append_assoc,readValue,if_neg hquote,if_neg hbracket,
        if_true,skipBlanks_cons (show isBlank '"' = false from rfl)]
      exact congrArg (Option.map _) hmembers

theorem readItems_dumps (item : Json) (items : List Json) {n : ℕ} (rest : List Char)
    (hn : (dumps item ++ dumpsItems items).length ≤ n) :
    readItems n (dumps item ++ (dumpsItems items ++ rest)) = some (item :: items,rest) := by
  match n with
  | 0 =>
    have hpos := dumpsItems_pos items
    rw [List.length_append] at hn
    omega
  | n+1 =>
    have hpos := dumpsItems_pos items
    rw [List.length_append] at hn
    have hitem := @readValue_dumps item n (dumpsItems items ++ rest) (by omega)
      (delimited_dumpsItems items rest)
    rw [readItems,hitem]
    match items with
    | [] => rfl
    | item' :: items =>
      have htail := readItems_dumps item' items (n := n) rest (by
        simp only [dumpsItems,List.length_cons] at hn
        omega)
      have hblanks : skipBlanks (' ' :: (dumps item' ++ (dumpsItems items ++ rest))) =
          dumps item' ++ (dumpsItems items ++ rest) := by
        rw [skipBlanks_blank,skipBlanks_dumps]
      simp only [dumpsItems,List.cons_append,List.append_assoc,Option.bind_eq_bind,
        Option.bind_some,skipBlanks_cons (show isBlank ',' = false from rfl),hblanks,htail]

theorem readMembers_dumps (name : String) (value : Json) (members : List (String × Json)) {n : ℕ}
    (rest : List Char) (hn : (dumps value ++ dumpsMembers members).length < n) :
    readMembers n ('"' :: (dumpsChars name.toList ++ ':' :: ' ' :: (dumps value ++
      (dumpsMembers members ++ rest)))) = some ((name,value) :: members,rest) := by
  match n with
  | 0 => omega
  | n+1 =>
    have hpos := dumpsMembers_pos members
    rw [List.length_append] at hn
    have hname := readString_dumpsChars name (':' :: ' ' :: (dumps value ++
      (dumpsMembers members ++ rest)))
    have hvalue := @readValue_dumps value n (dumpsMembers members ++ rest) (by omega)
      (delimited_dumpsMembers members rest)
    have hblanks : skipBlanks (' ' :: (dumps value ++ (dumpsMembers members ++ rest))) =
        dumps value ++ (dumpsMembers members ++ rest) := by
      rw [skipBlanks_blank,skipBlanks_dumps]
    simp only [readMembers,hname,Option.bind_eq_bind,Option.bind_some,
      skipBlanks_cons (show isBlank ':' = false from rfl),hblanks,hvalue]
    match members with
    | [] => rfl
    | (name',value') :: members =>
      have htail := readMembers_dumps name' value' members (n := n) rest (by
        simp only [dumpsMembers,List.length_cons,List.length_append] at hn ⊢
        omega)
      simp only [dumpsMembers,List.cons_append,List.append_assoc,
        skipBlanks_cons (show isBlank ',' = false from rfl),skipBlanks_blank,
        skipBlanks_cons (show isBlank '"' = false from rfl),htail,Option.bind_some]
end

/-- `json.loads` is the inverse of `json.dumps`. -/
theorem loads_dumps (v : Json) : loads (dumps v) = some v := by
  have hvalue := @readValue_dumps v ((dumps v).length+1) [] (by omega) (by
    simp [Delimited])
  have hblanks := skipBlanks_dumps v []
  rw [List.append_nil] at hvalue hblanks
  simp only [loads,hblanks,hvalue,Option.bind_eq_bind,Option.bind_some]
  rfl

end Values

end Json
end LiveKBench.Lib
