import LiveKBench.Lib.Object
import LiveKBench.Lib.OrderedMap
import Mathlib.Data.List.Infix

/-! The two storage backends, as objects that answer their calls, and the finite map from keys to
contents that both of them stand for. -/
namespace LiveKBench.KCore.Storage
open Lib

/-- A name of a file or a directory. -/
structure Name where
  chars : List Char
  ne_nil : chars ≠ []
  noSlash : '/' ∉ chars
  notDot : chars ≠ ['.'] ∧ chars ≠ ['.','.']

lemma Name.chars_inj {a b : Name} : a.chars = b.chars ↔ a = b := by
  cases a
  cases b
  simp

instance : DecidableEq Name := fun _ _ => decidable_of_iff _ Name.chars_inj

/-- `'/'.join(names)`. -/
def joinNames : List Name → List Char
  | [] => []
  | [name] => name.chars
  | name :: names => name.chars ++ '/' :: joinNames names

/-- A key, or the part of a prefix before its last slash. -/
structure Path where
  names : List Name
  ne_nil : names ≠ []
  deriving DecidableEq

def Path.text (path : Path) : String := String.ofList (joinNames path.names)

/-- A prefix that ends in a slash. -/
def Path.keyPrefix (path : Path) : List Char := joinNames path.names ++ ['/']

/-- The calls. An upload names the local file and says how many attempts time out before one does
not. -/
inductive Call (ν : Type)
  | uploadResource (localName : Name) (key : Path) (content : ν) (timeouts : ℕ)
  | deleteResource (key : Path)
  | listResources (keyPrefix : Path)

inductive Observation
  | done
  | listed (resources : List String)
  | raised
  deriving DecidableEq, Repr

/-- Listings are compared as collections. -/
def Observation.Same : Observation → Observation → Prop
  | .done, .done => True
  | .listed xs, .listed ys => xs.Perm ys
  | .raised, .raised => True
  | _, _ => False

section Backends
variable {ν : Type}

/-! ## The finite map -/

abbrev Contents (ν : Type) := OrderedMap String ν

/-- The stored keys under a prefix. -/
def Contents.under (m : Contents ν) (keyPrefix : Path) : List String :=
  (m.rows.map Prod.fst).filter fun key => keyPrefix.keyPrefix.isPrefixOf key.toList

def keyValueStore : Object (Contents ν) (Call ν) Observation where
  step
    | m, .uploadResource _ key content _ => (m.set key.text content,.done)
    | m, .deleteResource key => (m.erase key.text,.done)
    | m, .listResources keyPrefix => (m,.listed (m.under keyPrefix))

/-! ## `GCSStorageBackend` -/

section GCS
variable (bucketName : String) (quote : String → String)

/-- `Blob.path`, the path of the blob in the API; `quote` escapes the name. -/
def blobPath (name : String) : String := "/b/" ++ bucketName ++ "/o/" ++ quote name

/-- An upload gives up without a word after three timeouts, and `get_blob` of a missing key is
`None`. -/
def gcsStorageBackend : Object (Contents ν) (Call ν) Observation where
  step
    | blobs, .uploadResource _ key content timeouts =>
      (if timeouts < 3 then blobs.set key.text content else blobs,.done)
    | blobs, .deleteResource key =>
      match blobs.value? key.text with
      | none => (blobs,.raised)
      | some _ => (blobs.erase key.text,.done)
    | blobs, .listResources keyPrefix =>
      (blobs,.listed ((blobs.under keyPrefix).map (blobPath bucketName quote)))

def gcsDownload (blobs : Contents ν) (key : String) : Option ν := blobs.value? key

/-- An attempt to upload is in time, a deleted key is stored, and nothing is under a prefix that is
listed. -/
def GcsCareful (blobs : Contents ν) : Call ν → Prop
  | .uploadResource _ _ _ timeouts => timeouts < 3
  | .deleteResource key => blobs.value? key.text ≠ none
  | .listResources keyPrefix => blobs.under keyPrefix = []

end GCS

/-! ## `LocalStorageBackend` -/

/-- The files and directories below the root, by their names from there on. -/
structure Files (ν : Type) where
  files : OrderedMap (List Name) ν
  dirs : List (List Name)

namespace Files

def empty : Files ν := ⟨OrderedMap.empty,[]⟩

/-- The directories on the way to a file. -/
def parents (path : List Name) : List (List Name) :=
  path.inits.filter fun dir => dir ≠ [] ∧ dir ≠ path

/-- `os.makedirs` with `exist_ok`. -/
def makedirs (fs : Files ν) (path : List Name) : Files ν :=
  { fs with dirs := fs.dirs ++ (parents path).filter (· ∉ fs.dirs) }

/-- A file stands where a directory on the way should be. -/
def Blocked (fs : Files ν) (path : List Name) : Prop :=
  ∃ dir ∈ parents path, fs.files.value? dir ≠ none

instance (fs : Files ν) (path : List Name) : Decidable (fs.Blocked path) :=
  haveI : ∀ dir, Decidable (fs.files.value? dir ≠ none) := fun dir =>
    decidable_of_iff ((fs.files.value? dir).isSome) Option.isSome_iff_ne_none
  inferInstanceAs (Decidable (∃ dir ∈ parents path, fs.files.value? dir ≠ none))

/-- `shutil.copy` into a directory takes the name of the local file. -/
def target (fs : Files ν) (path : List Name) (localName : Name) : List Name :=
  if path ∈ fs.dirs then path ++ [localName] else path

/-- `os.listdir`. -/
def listdir (fs : Files ν) (dir : List Name) : List Name :=
  (fs.files.rows.map Prod.fst ++ fs.dirs).filterMap fun path =>
    if path.dropLast = dir then path.getLast? else none

end Files

section Local
variable (root : String)

/-- `os.path.join(self._root, fname)`. -/
def joinRoot (name : Name) : String :=
  if root = "" ∨ root.toList.getLast? = some '/' then root ++ String.ofList name.chars
  else root ++ "/" ++ String.ofList name.chars

def localStorageBackend : Object (Files ν) (Call ν) Observation where
  step
    | fs, .uploadResource localName key content _ =>
      if fs.Blocked key.names then (fs,.raised)
      else
        let target := fs.target key.names localName
        let fs := fs.makedirs key.names
        if target ∈ fs.dirs then (fs,.raised)
        else ({ fs with files := fs.files.set target content },.done)
    | fs, .deleteResource key =>
      if key.names ∈ fs.dirs then (fs,.raised)
      else
        match fs.files.value? key.names with
        | none => (fs,.done)
        | some _ => ({ fs with files := fs.files.erase key.names },.done)
    | fs, .listResources keyPrefix =>
      if keyPrefix.names ∈ fs.dirs then
        (fs,.listed ((fs.listdir keyPrefix.names).map (joinRoot root)))
      else (fs,.listed [])

def localDownload (fs : Files ν) (key : Path) : Option ν := fs.files.value? key.names

/-- No name stands for a file and for a directory, and the directory that is listed is empty. -/
def LocalCareful (fs : Files ν) : Call ν → Prop
  | .uploadResource _ key _ _ => ¬fs.Blocked key.names ∧ key.names ∉ fs.dirs
  | .deleteResource key => key.names ∉ fs.dirs
  | .listResources keyPrefix => fs.listdir keyPrefix.names = []

end Local
section Text

lemma joinNames_cons (name : Name) {names : List Name} (h : names ≠ []) :
    joinNames (name :: names) = name.chars ++ '/' :: joinNames names := by
  cases names with
  | nil => exact absurd rfl h
  | cons _ _ => rfl

/-- A name ends at the first slash. -/
lemma name_append_inj {a b : Name} {x y : List Char}
    (h : a.chars ++ '/' :: x = b.chars ++ '/' :: y) : a = b ∧ x = y := by
  have htake : ∀ (n : Name) (z : List Char),
      (n.chars ++ '/' :: z).takeWhile (fun c => c ≠ '/') = n.chars := by
    intro n z
    rw [List.takeWhile_append_of_pos]
    · simp
    · intro c hc
      have hne : c ≠ '/' := by
        rintro rfl
        exact n.noSlash hc
      simpa using hne
  have hchars : a.chars = b.chars := by
    rw [← htake a x,h,htake b y]
  refine ⟨?_,?_⟩
  · cases a
    cases b
    cases hchars
    rfl
  · rw [hchars] at h
    simpa using h

lemma name_ne_append {a b : Name} {x : List Char} : a.chars ≠ b.chars ++ '/' :: x := by
  intro h
  apply a.noSlash
  rw [h]
  simp

/-- A text that goes on after the names of a prefix and a slash is that of a path that goes on. -/
lemma exists_rest_of_prefix {names path : List Name} {rest : List Char} (hp : path ≠ [])
    (h : joinNames names = joinNames path ++ '/' :: rest) :
    ∃ name tail, names = path ++ name :: tail := by
  induction path generalizing names with
  | nil => exact absurd rfl hp
  | cons a path ih =>
    cases names with
    | nil =>
      cases path <;> simp [joinNames] at h
    | cons b names =>
      cases names with
      | nil =>
        cases path with
        | nil => exact absurd h name_ne_append
        | cons c path =>
          rw [joinNames_cons a (List.cons_ne_nil _ _),List.append_assoc,List.cons_append] at h
          exact absurd h name_ne_append
      | cons b' names =>
        rw [joinNames_cons b (List.cons_ne_nil _ _)] at h
        cases path with
        | nil =>
          obtain ⟨rfl,-⟩ := name_append_inj h
          exact ⟨b',names,rfl⟩
        | cons c path =>
          rw [joinNames_cons a (List.cons_ne_nil _ _),List.append_assoc,List.cons_append] at h
          obtain ⟨rfl,hrest⟩ := name_append_inj h
          obtain ⟨name,tail,htail⟩ := ih (List.cons_ne_nil _ _) hrest
          exact ⟨name,tail,by rw [htail]; rfl⟩

lemma joinNames_inj {xs ys : List Name} (hx : xs ≠ []) (hy : ys ≠ [])
    (h : joinNames xs = joinNames ys) : xs = ys := by
  induction xs generalizing ys with
  | nil => exact absurd rfl hx
  | cons x xs ih =>
    cases ys with
    | nil => exact absurd rfl hy
    | cons y ys =>
      cases xs with
      | nil =>
        cases ys with
        | nil =>
          cases x
          cases y
          cases h
          rfl
        | cons y' ys =>
          rw [joinNames_cons y (List.cons_ne_nil _ _)] at h
          exact absurd h name_ne_append
      | cons x' xs =>
        cases ys with
        | nil =>
          rw [joinNames_cons x (List.cons_ne_nil _ _)] at h
          exact absurd h.symm name_ne_append
        | cons y' ys =>
          rw [joinNames_cons x (List.cons_ne_nil _ _),joinNames_cons y (List.cons_ne_nil _ _)] at h
          obtain ⟨rfl,hrest⟩ := name_append_inj h
          rw [ih (List.cons_ne_nil _ _) (List.cons_ne_nil _ _) hrest]

lemma Path.names_inj {p q : Path} : p.names = q.names ↔ p = q := by
  cases p
  cases q
  simp

theorem Path.text_inj {p q : Path} : p.text = q.text ↔ p = q := by
  constructor
  · intro h
    exact Path.names_inj.mp (joinNames_inj p.ne_nil q.ne_nil (String.ofList_injective h))
  · rintro rfl
    rfl

end Text

/-! ## The backends and the map -/

section Gcs
variable {bucketName : String} {quote : String → String} {blobs : Contents ν}

/-- A careful call on the bucket is one on the map. -/
lemma gcs_step (m : Contents ν) {c : Call ν} (hm : blobs = m) (hc : GcsCareful blobs c) :
    ((gcsStorageBackend bucketName quote).step blobs c).1 = (keyValueStore.step m c).1 ∧
      ((gcsStorageBackend bucketName quote).step blobs c).2.Same (keyValueStore.step m c).2 := by
  subst hm
  cases c with
  | uploadResource localName key content timeouts =>
    have hintime : timeouts < 3 := hc
    simp only [gcsStorageBackend,keyValueStore,if_pos hintime]
    exact ⟨trivial,trivial⟩
  | deleteResource key =>
    obtain ⟨content,hcontent⟩ := Option.ne_none_iff_exists'.mp hc
    simp only [gcsStorageBackend,keyValueStore,hcontent]
    exact ⟨trivial,trivial⟩
  | listResources keyPrefix =>
    have hnone : blobs.under keyPrefix = [] := hc
    simp only [gcsStorageBackend,keyValueStore,hnone]
    exact ⟨trivial,.refl _⟩

end Gcs

/-- The files hold the contents of their keys, every key of the map is one of a path, and the
directories on the way to a file are there. -/
structure Files.Holds (fs : Files ν) (m : Contents ν) : Prop where
  values : ∀ key : Path, fs.files.value? key.names = m.value? key.text
  keys : ∀ text, m.value? text ≠ none → ∃ key : Path, text = key.text
  dirs : ∀ path, fs.files.value? path ≠ none → ∀ dir ∈ Files.parents path, dir ∈ fs.dirs

section LocalSimulation
variable {fs : Files ν} {m : Contents ν} {root : String}

lemma mem_under {keyPrefix : Path} {text : String} :
    text ∈ m.under keyPrefix ↔ m.value? text ≠ none ∧ keyPrefix.keyPrefix <+: text.toList := by
  rw [Contents.under,List.mem_filter,← OrderedMap.value?_ne_none,List.isPrefixOf_iff_prefix]

lemma mem_listdir {dir : List Name} {name : Name}
    (h : fs.files.value? (dir ++ [name]) ≠ none ∨ dir ++ [name] ∈ fs.dirs) :
    name ∈ fs.listdir dir := by
  rw [Files.listdir,List.mem_filterMap]
  refine ⟨dir ++ [name],?_,by simp⟩
  rw [List.mem_append,← OrderedMap.value?_ne_none]
  exact h

/-- A key under a prefix leaves an entry in the directory of the prefix. -/
lemma under_of_listdir (h : fs.Holds m) {keyPrefix : Path}
    (hempty : fs.listdir keyPrefix.names = []) : m.under keyPrefix = [] := by
  rw [List.eq_nil_iff_forall_not_mem]
  intro text htext
  obtain ⟨hvalue,rest,hrest⟩ := mem_under.mp htext
  obtain ⟨key,rfl⟩ := h.keys text hvalue
  rw [← h.values] at hvalue
  rw [Path.keyPrefix,Path.text,String.toList_ofList,List.append_assoc,List.singleton_append] at hrest
  obtain ⟨name,tail,hnames⟩ := exists_rest_of_prefix keyPrefix.ne_nil hrest.symm
  have hentry : fs.files.value? (keyPrefix.names ++ [name]) ≠ none ∨
      keyPrefix.names ++ [name] ∈ fs.dirs := by
    cases tail with
    | nil => exact .inl (by rwa [← hnames])
    | cons name' tail =>
      refine .inr (h.dirs _ hvalue _ ?_)
      rw [Files.parents,List.mem_filter,List.mem_inits,hnames]
      exact ⟨⟨name' :: tail,by simp⟩,by simp⟩
  have hmem := mem_listdir hentry
  rw [hempty] at hmem
  cases hmem

lemma holds_upload (h : fs.Holds m) (key : Path) (content : ν) :
    Files.Holds { fs.makedirs key.names with files := fs.files.set key.names content }
      (m.set key.text content) where
  values := by
    intro key'
    simp only [OrderedMap.value?_set,h.values key']
    simp only [Path.names_inj,Path.text_inj]
  keys := by
    intro text htext
    rw [OrderedMap.value?_set] at htext
    by_cases hk : key.text = text
    · exact ⟨key,hk.symm⟩
    · rw [if_neg hk] at htext
      exact h.keys text htext
  dirs := by
    intro path hpath dir hdir
    rw [OrderedMap.value?_set] at hpath
    by_cases hin : dir ∈ fs.dirs
    · exact List.mem_append_left _ hin
    · by_cases hk : key.names = path
      · subst hk
        exact List.mem_append_right _ (List.mem_filter.mpr ⟨hdir,by simpa using hin⟩)
      · rw [if_neg hk] at hpath
        exact absurd (h.dirs path hpath dir hdir) hin

lemma holds_delete (h : fs.Holds m) (key : Path) :
    Files.Holds { fs with files := fs.files.erase key.names } (m.erase key.text) where
  values := by
    intro key'
    simp only [OrderedMap.value?_erase,h.values key']
    simp only [Path.names_inj,Path.text_inj]
  keys := by
    intro text htext
    rw [OrderedMap.value?_erase] at htext
    split at htext
    · exact absurd rfl htext
    · exact h.keys text htext
  dirs := by
    intro path hpath dir hdir
    rw [OrderedMap.value?_erase] at hpath
    split at hpath
    · exact absurd rfl hpath
    · exact h.dirs path hpath dir hdir

/-- A careful call on the files is one on the map. -/
lemma local_step {c : Call ν} (h : fs.Holds m) (hc : LocalCareful fs c) :
    ((localStorageBackend root).step fs c).1.Holds (keyValueStore.step m c).1 ∧
      ((localStorageBackend root).step fs c).2.Same (keyValueStore.step m c).2 := by
  cases c with
  | uploadResource localName key content timeouts =>
    obtain ⟨hblocked,hdir⟩ := hc
    have htarget : fs.target key.names localName = key.names := if_neg hdir
    have hfree : key.names ∉ (fs.makedirs key.names).dirs := by
      intro hmem
      obtain hmem | hmem := List.mem_append.mp hmem
      · exact hdir hmem
      · have hparents := (List.mem_filter.mp hmem).1
        simp [Files.parents] at hparents
    simp only [localStorageBackend,keyValueStore,if_neg hblocked,htarget,if_neg hfree]
    exact ⟨holds_upload h key content,trivial⟩
  | deleteResource key =>
    have hdir : key.names ∉ fs.dirs := hc
    simp only [localStorageBackend,keyValueStore,if_neg hdir]
    cases hv : fs.files.value? key.names with
    | some content => exact ⟨holds_delete h key,trivial⟩
    | none =>
      have habsent : ∀ text, (m.erase key.text).value? text = m.value? text := by
        intro text
        rw [OrderedMap.value?_erase]
        split
        · rename_i hk
          rw [← hk,← h.values,hv]
        · rfl
      refine ⟨⟨?_,?_,h.dirs⟩,trivial⟩
      · intro key'
        rw [habsent,h.values]
      · intro text htext
        rw [habsent] at htext
        exact h.keys text htext
  | listResources keyPrefix =>
    have hempty : fs.listdir keyPrefix.names = [] := hc
    simp only [localStorageBackend,keyValueStore,hempty,under_of_listdir h hempty,List.map_nil]
    split
    · exact ⟨h,.refl _⟩
    · exact ⟨h,.refl _⟩

end LocalSimulation

/-- Careful calls are answered by both backends as by one map, and afterwards each stored key can be
downloaded with its content. -/
theorem backends_refine (ν : Type) (bucketName : String) (quote : String → String) (root : String) :
    (∀ calls : List (Call ν), (gcsStorageBackend bucketName quote).Along GcsCareful
        OrderedMap.empty calls →
      List.Forall₂ Observation.Same
        ((gcsStorageBackend bucketName quote).answers OrderedMap.empty calls)
        (keyValueStore.answers OrderedMap.empty calls) ∧
      ∀ key : Path, gcsDownload ((gcsStorageBackend bucketName quote).after OrderedMap.empty calls)
        key.text = (keyValueStore.after OrderedMap.empty calls).value? key.text) ∧
    ∀ calls : List (Call ν), (localStorageBackend root).Along LocalCareful Files.empty calls →
      List.Forall₂ Observation.Same
        ((localStorageBackend root).answers Files.empty calls)
        (keyValueStore.answers OrderedMap.empty calls) ∧
      ∀ key : Path, localDownload ((localStorageBackend root).after Files.empty calls) key =
        (keyValueStore.after OrderedMap.empty calls).value? key.text := by
  constructor
  · intro calls hc
    obtain ⟨hafter,hanswers⟩ := Object.answers_of_simulation
      (fun _ m c hm hc => gcs_step m hm hc) (rfl : (OrderedMap.empty : Contents ν) = .empty) hc
    refine ⟨hanswers,?_⟩
    intro key
    rw [hafter]
    rfl
  · intro calls hc
    have hstart : (Files.empty : Files ν).Holds OrderedMap.empty :=
      ⟨fun _ => rfl,fun _ h => absurd rfl h,fun _ h => absurd rfl h⟩
    obtain ⟨hafter,hanswers⟩ := Object.answers_of_simulation
      (fun _ _ _ h hc => local_step h hc) hstart hc
    exact ⟨hanswers,hafter.values⟩

end Backends

def nameA : Name := ⟨['a'],by decide,by decide,by decide⟩

/-- The key `a/a`, below the prefix `a/`. -/
def nestedKey : Path := ⟨[nameA,nameA],by decide⟩

def flatKey : Path := ⟨[nameA],by decide⟩

def uploadAndList : List (Call ℕ) := [.uploadResource nameA nestedKey 7 0,.listResources flatKey]

def deleteMissing : List (Call ℕ) := [.deleteResource flatKey]

/-- How the client quotes these names: every slash becomes `%2F`. -/
def quoteSlashes (name : String) : String :=
  String.ofList (name.toList.flatMap fun c => if c = '/' then ['%','2','F'] else [c])

/-- The bucket lists the path of the blob and raises on a missing key; the files list a path below
the root that leaves the prefix out. -/
theorem backends_differ :
    ¬List.Forall₂ Observation.Same
      ((gcsStorageBackend "b" quoteSlashes).answers OrderedMap.empty uploadAndList)
      (keyValueStore.answers OrderedMap.empty uploadAndList) ∧
    ¬List.Forall₂ Observation.Same
      ((gcsStorageBackend "b" quoteSlashes).answers OrderedMap.empty deleteMissing)
      (keyValueStore.answers OrderedMap.empty deleteMissing) ∧
    ¬List.Forall₂ Observation.Same
      ((localStorageBackend "/srv").answers Files.empty uploadAndList)
      (keyValueStore.answers OrderedMap.empty uploadAndList) := by
  have hmap : keyValueStore.answers OrderedMap.empty uploadAndList =
      [.done,.listed ["a/a"]] := by decide +kernel
  have hgcs : (gcsStorageBackend "b" quoteSlashes).answers OrderedMap.empty uploadAndList =
      [.done,.listed ["/b/b/o/a%2Fa"]] := by decide +kernel
  have hlocal : (localStorageBackend "/srv").answers Files.empty uploadAndList =
      [.done,.listed ["/srv/a"]] := by decide +kernel
  rw [hmap,hgcs,hlocal]
  refine ⟨?_,?_,?_⟩
  · simp [Observation.Same]
  · intro h
    cases h with
    | cons hsame _ => exact hsame
  · simp [Observation.Same]

/-- Listings of an empty prefix, a deletion, and a second upload to the key. -/
def uploadAndDelete : List (Call ℕ) :=
  [.listResources flatKey,.uploadResource nameA nestedKey 7 0,.deleteResource nestedKey,
    .listResources flatKey,.uploadResource nameA nestedKey 8 2]

lemma gcsCareful_uploadAndDelete : (gcsStorageBackend "b" quoteSlashes).Along GcsCareful
    OrderedMap.empty uploadAndDelete := by
  refine ⟨?_,?_,?_,?_,?_,trivial⟩
  · change Contents.under _ _ = []
    decide +kernel
  · change 0 < 3
    decide
  · change OrderedMap.value? _ _ ≠ none
    decide +kernel
  · change Contents.under _ _ = []
    decide +kernel
  · change 2 < 3
    decide

lemma localCareful_uploadAndDelete : (localStorageBackend "/srv").Along LocalCareful
    Files.empty uploadAndDelete := by
  refine ⟨?_,⟨?_,?_⟩,?_,?_,⟨?_,?_⟩,trivial⟩
  · change Files.listdir _ _ = []
    decide +kernel
  · decide +kernel
  · decide +kernel
  · change _ ∉ Files.dirs _
    decide +kernel
  · change Files.listdir _ _ = []
    decide +kernel
  · decide +kernel
  · decide +kernel

theorem uploadAndDelete_refined :
    List.Forall₂ Observation.Same
      ((gcsStorageBackend "b" quoteSlashes).answers OrderedMap.empty uploadAndDelete)
      (keyValueStore.answers OrderedMap.empty uploadAndDelete) ∧
    List.Forall₂ Observation.Same
      ((localStorageBackend "/srv").answers Files.empty uploadAndDelete)
      (keyValueStore.answers OrderedMap.empty uploadAndDelete) ∧
    gcsDownload ((gcsStorageBackend "b" quoteSlashes).after OrderedMap.empty uploadAndDelete)
      nestedKey.text = some 8 ∧
    localDownload ((localStorageBackend "/srv").after Files.empty uploadAndDelete) nestedKey =
      some 8 := by
  obtain ⟨hgcs,hlocal⟩ := backends_refine ℕ "b" quoteSlashes "/srv"
  have hstored : (keyValueStore.after OrderedMap.empty uploadAndDelete).value? nestedKey.text =
      some 8 := by decide +kernel
  obtain ⟨hbucket,hblob⟩ := hgcs uploadAndDelete gcsCareful_uploadAndDelete
  obtain ⟨hfiles,hfile⟩ := hlocal uploadAndDelete localCareful_uploadAndDelete
  exact ⟨hbucket,hfiles,(hblob nestedKey).trans hstored,(hfile nestedKey).trans hstored⟩

end LiveKBench.KCore.Storage
