/-
This file models `manifest` of the workforce's `bundle.py`: the files of a directory tree in the
order in which `os.walk` comes to them, each written as its relative path, a NUL byte and its bytes,
and the hash of all of it. The hash is a parameter. Two trees with different files get the same
manifest exactly when the bytes of a file in one of them take in the beginning of what the other has
after that file.
-/

import LocalGpuCluster.Records
import LocalGpuCluster.Text
import Mathlib.Data.List.Nodup
import Mathlib.Data.List.Sort

namespace LocalGpuCluster

namespace Bundle

/-! ### Trees -/

abbrev Bytes := List UInt8

/-- What a name stands for in a directory. -/
inductive Entry where
  | file (bytes : Bytes)
  | folder (entries : List (Text × Entry))

def slash : CodePoint := 0x2F

/-- A name that a file can have. -/
def isName (name : Text) : Bool :=
  name ≠ [] && name ≠ text "." && name ≠ text ".." && !name.contains slash && !name.contains 0

/-- Every directory has each name once. -/
inductive Proper : List (Text × Entry) → Prop
  | folder {entries : List (Text × Entry)} (names : ∀ entry ∈ entries, isName entry.1 = true)
      (distinct : (entries.map Prod.fst).Nodup)
      (inner : ∀ name inner, (name, Entry.folder inner) ∈ entries → Proper inner) : Proper entries

/-- A directory tree. -/
structure Tree where
  entries : List (Text × Entry)
  proper : Proper entries

/-! ### The walk -/

/-- `sorted(…)` of names. -/
def sortNames {Payload : Type} (named : List (Text × Payload)) : List (Text × Payload) :=
  named.insertionSort fun first second => first.1 ≤ second.1

/-- The files of a directory. -/
def filesOf (entries : List (Text × Entry)) : List (Text × Bytes) :=
  entries.filterMap fun (name, entry) =>
    match entry with
    | .file bytes => some (name, bytes)
    | .folder _ => none

mutual

/-- The files that `os.walk` comes to below an entry, under a path that ends in a slash. -/
def walk : Entry → Text → List (Text × Bytes)
  | .file _, _ => []
  | .folder entries, path =>
      (sortNames (filesOf entries)).map (fun (name, bytes) => (path ++ name, bytes)) ++
        (sortNames (walksOf entries)).flatMap fun (name, below) => below (path ++ name ++ [slash])

/-- The walk of each directory in a directory. -/
def walksOf : List (Text × Entry) → List (Text × (Text → List (Text × Bytes)))
  | [] => []
  | (name, .folder entries) :: rest => (name, walk (.folder entries)) :: walksOf rest
  | (_, .file _) :: rest => walksOf rest

end

/-- The files of a tree with their relative paths, in the order of the walk. -/
def Tree.files (tree : Tree) : List (Text × Bytes) := walk (.folder tree.entries) []

/-! ### The manifest -/

/-- `encode()`, `none` where it raises. -/
def encode (name : Text) : Option Bytes :=
  if name.hasSurrogate then none
  else some (name.flatMap fun point => String.utf8EncodeChar (Char.ofNat point.val))

/-- A file as it is hashed. -/
def recordOf (file : Text × Bytes) : Option (Records.Record UInt8) := do
  pure (← encode file.1, file.2)

def Tree.records (tree : Tree) : Option (List (Records.Record UInt8)) := tree.files.mapM recordOf

/-- `manifest`. -/
def manifest {Digest : Type} (sha256 : Bytes → Digest) (tree : Tree) : Option Digest := do
  pure (sha256 (Records.writeAll 0 (← tree.records)))

/-! ### Paths and bytes -/

/-- The tree has the file at the relative path. -/
inductive Holds : List (Text × Entry) → Text → Bytes → Prop
  | file {entries : List (Text × Entry)} {name : Text} {bytes : Bytes}
      (member : (name, .file bytes) ∈ entries) : Holds entries name bytes
  | folder {entries inner : List (Text × Entry)} {name path : Text} {bytes : Bytes}
      (member : (name, .folder inner) ∈ entries) (below : Holds inner path bytes) :
      Holds entries (name ++ slash :: path) bytes

/-- The trees have the same map from relative paths to bytes. -/
def SameFiles (first second : Tree) : Prop :=
  ∀ path bytes, Holds first.entries path bytes ↔ Holds second.entries path bytes

/-! ### What the walk comes to -/

section

variable {entries : List (Text × Entry)}

theorem mem_sortNames {Payload : Type} {named : List (Text × Payload)} {entry : Text × Payload} :
    entry ∈ sortNames named ↔ entry ∈ named :=
  List.mem_insertionSort _

theorem mem_filesOf {name : Text} {bytes : Bytes} :
    (name, bytes) ∈ filesOf entries ↔ (name, Entry.file bytes) ∈ entries := by
  rw [filesOf, List.mem_filterMap]
  constructor
  · rintro ⟨⟨other, entry⟩, member, same⟩
    cases entry with
    | file => cases same; exact member
    | folder => cases same
  · exact fun member => ⟨_, member, rfl⟩

theorem mem_walksOf {name : Text} {below : Text → List (Text × Bytes)} :
    (name, below) ∈ walksOf entries ↔
      ∃ inner, (name, Entry.folder inner) ∈ entries ∧ walk (.folder inner) = below := by
  induction entries with
  | nil => exact ⟨fun member => (by cases member), fun ⟨_, member, _⟩ => (by cases member)⟩
  | cons entry rest inductionHypothesis =>
    obtain ⟨other, entry⟩ := entry
    cases entry with
    | file bytes =>
      rw [walksOf, inductionHypothesis]
      simp
    | folder inner =>
      rw [walksOf, List.mem_cons, inductionHypothesis]
      constructor
      · rintro (same | ⟨found, member, isWalk⟩)
        · cases same
          exact ⟨inner, List.mem_cons_self, rfl⟩
        · exact ⟨found, List.mem_cons_of_mem _ member, isWalk⟩
      · rintro ⟨found, member, rfl⟩
        obtain same | member := List.mem_cons.mp member
        · cases same
          exact Or.inl rfl
        · exact Or.inr ⟨found, member, rfl⟩

/-- The walk comes to the files below the path, and to no others. -/
theorem mem_walk (proper : Proper entries) {start path : Text} {bytes : Bytes} :
    (path, bytes) ∈ walk (.folder entries) start ↔
      ∃ rest, path = start ++ rest ∧ Holds entries rest bytes := by
  induction proper generalizing start path bytes with
  | @folder entries names distinct inner inductionHypothesis =>
    rw [walk, List.mem_append, List.mem_map, List.mem_flatMap]
    constructor
    · rintro (⟨⟨name, found⟩, member, same⟩ | ⟨⟨name, below⟩, member, isBelow⟩)
      · cases same
        exact ⟨name, rfl, .file (mem_filesOf.mp (mem_sortNames.mp member))⟩
      · obtain ⟨further, isFolder, rfl⟩ := mem_walksOf.mp (mem_sortNames.mp member)
        obtain ⟨rest, rfl, holds⟩ := (inductionHypothesis name further isFolder).mp isBelow
        refine ⟨name ++ slash :: rest, ?_, .folder isFolder holds⟩
        rw [List.append_assoc, List.append_assoc]
        rfl
    · rintro ⟨rest, rfl, holds⟩
      cases holds with
      | file member =>
        exact Or.inl ⟨_, mem_sortNames.mpr (mem_filesOf.mpr member), rfl⟩
      | @folder _ further name path _ member below =>
        refine Or.inr ⟨(name, walk (.folder further)),
          mem_sortNames.mpr (mem_walksOf.mpr ⟨further, member, rfl⟩), ?_⟩
        refine (inductionHypothesis name further member).mpr ⟨path, ?_, below⟩
        rw [List.append_assoc, List.append_assoc]
        rfl

theorem isName_iff {name : Text} (isName : isName name = true) : slash ∉ name ∧ (0 : CodePoint) ∉ name := by
  unfold Bundle.isName at isName
  simp only [Bool.and_eq_true, Bool.not_eq_true', List.contains_eq_mem, decide_eq_false_iff_not] at isName
  exact ⟨isName.1.2, isName.2⟩

theorem Proper.isName (proper : Proper entries) {entry : Text × Entry} (member : entry ∈ entries) :
    slash ∉ entry.1 ∧ (0 : CodePoint) ∉ entry.1 := by
  cases proper with
  | folder names _ _ => exact isName_iff (names entry member)

theorem Proper.inner (proper : Proper entries) {name : Text} {inner : List (Text × Entry)}
    (member : (name, Entry.folder inner) ∈ entries) : Proper inner := by
  cases proper with
  | folder _ _ below => exact below name inner member

theorem Proper.unique (proper : Proper entries) {name : Text} {first second : Entry}
    (memberFirst : (name, first) ∈ entries) (memberSecond : (name, second) ∈ entries) :
    first = second := by
  cases proper with
  | folder _ distinct _ =>
    exact congrArg Prod.snd (List.inj_on_of_nodup_map distinct memberFirst memberSecond rfl)

/-- A path leads to one file at most. -/
theorem Holds.unique (proper : Proper entries) {path : Text} {first second : Bytes}
    (holdsFirst : Holds entries path first) (holdsSecond : Holds entries path second) :
    first = second := by
  induction holdsFirst with
  | @file entries name first member =>
    generalize isPath : name = path at holdsSecond
    cases holdsSecond with
    | file other =>
      subst isPath
      cases proper.unique member other
      rfl
    | @folder _ _ folder path _ other _ =>
      refine absurd ?_ (proper.isName member).1
      rw [show name = folder ++ slash :: path from isPath]
      exact List.mem_append_right folder List.mem_cons_self
  | @folder entries inner name path first member below inductionHypothesis =>
    generalize isPath : name ++ slash :: path = whole at holdsSecond
    cases holdsSecond with
    | file other =>
      refine absurd ?_ (proper.isName other).1
      rw [← isPath]
      exact List.mem_append_right name List.mem_cons_self
    | @folder _ otherInner otherName otherPath _ other otherBelow =>
      obtain ⟨rfl, rfl⟩ :=
        Records.eq_of_append_mark (proper.isName member).1 (proper.isName other).1 isPath
      cases proper.unique member other
      exact inductionHypothesis (proper.inner member) otherBelow

theorem Holds.nul_not_mem (proper : Proper entries) {path : Text} {bytes : Bytes}
    (holds : Holds entries path bytes) : (0 : CodePoint) ∉ path := by
  induction holds with
  | file member => exact (proper.isName member).2
  | folder member below inductionHypothesis =>
    intro inPath
    obtain inName | inRest := List.mem_append.mp inPath
    · exact (proper.isName member).2 inName
    · obtain isSlash | inBelow := List.mem_cons.mp inRest
      · exact absurd isSlash (by decide)
      · exact inductionHypothesis (proper.inner member) inBelow

end

/-! ### Encoded names -/

theorem toNat_charOf {point : CodePoint} (valid : point.isSurrogate = false) :
    (Char.ofNat point.val).toNat = point.val := by
  have isChar : point.val.isValidChar := by
    have bound := point.isLt
    unfold CodePoint.isSurrogate at valid
    simp only [Bool.and_eq_false_iff, decide_eq_false_iff_not] at valid
    unfold Nat.isValidChar
    omega
  rw [Char.ofNat, dif_pos isChar]
  rfl

/-- Only the character NUL has a NUL byte. -/
theorem nul_not_mem_utf8EncodeChar {character : Char} (notNul : character.toNat ≠ 0) :
    (0 : UInt8) ∉ String.utf8EncodeChar character := by
  have notNul : character.val.toNat ≠ 0 := notNul
  have ne {value : ℕ} (positive : 0 < value) (small : value < 256) : (0 : UInt8) ≠ UInt8.ofNat value := by
    intro same
    have same := congrArg UInt8.toNat same
    rw [UInt8.toNat_ofNat_of_lt' small] at same
    exact positive.ne same
  unfold String.utf8EncodeChar
  dsimp only
  split
  · exact List.mem_singleton.not.mpr (ne (by omega) (by omega))
  split
  · simp only [List.mem_cons, List.not_mem_nil, or_false, not_or]
    exact ⟨ne (by omega) (by omega), ne (by omega) (by omega)⟩
  split
  · simp only [List.mem_cons, List.not_mem_nil, or_false, not_or]
    exact ⟨ne (by omega) (by omega), ne (by omega) (by omega), ne (by omega) (by omega)⟩
  · simp only [List.mem_cons, List.not_mem_nil, or_false, not_or]
    exact ⟨ne (by omega) (by omega), ne (by omega) (by omega), ne (by omega) (by omega),
      ne (by omega) (by omega)⟩

theorem encode_eq_some {name : Text} {bytes : Bytes} :
    encode name = some bytes ↔ (∀ point ∈ name, point.isSurrogate = false) ∧
      (name.flatMap fun point => String.utf8EncodeChar (Char.ofNat point.val)) = bytes := by
  have surrogates : name.hasSurrogate = false ↔ ∀ point ∈ name, point.isSurrogate = false := by
    rw [Text.hasSurrogate, List.any_eq_false]
    exact forall₂_congr fun _ _ => Bool.not_eq_true _ ▸ Iff.rfl
  rw [← surrogates, encode]
  cases name.hasSurrogate with
  | true => exact ⟨fun same => (by cases same), fun ⟨same, _⟩ => (by cases same)⟩
  | false => exact ⟨fun same => ⟨rfl, Option.some.inj same⟩, fun ⟨_, same⟩ => congrArg some same⟩

/-- Names with the same bytes are the same. -/
theorem encode_injective {first second : Text} {bytes : Bytes} (isFirst : encode first = some bytes)
    (isSecond : encode second = some bytes) : first = second := by
  obtain ⟨firstValid, rfl⟩ := encode_eq_some.mp isFirst
  obtain ⟨secondValid, same⟩ := encode_eq_some.mp isSecond
  have decoded : first.map (fun point => Char.ofNat point.val) =
      second.map fun point => Char.ofNat point.val := by
    have encoded : (first.map fun point => Char.ofNat point.val).utf8Encode =
        (second.map fun point => Char.ofNat point.val).utf8Encode := by
      unfold List.utf8Encode
      rw [List.flatMap_map, List.flatMap_map, same]
    have arrays := congrArg ByteArray.utf8Decode? encoded
    rw [List.utf8Decode?_utf8Encode, List.utf8Decode?_utf8Encode] at arrays
    exact congrArg Array.toList (Option.some.inj arrays)
  have points (name : Text) (valid : ∀ point ∈ name, point.isSurrogate = false) :
      (name.map fun point => Char.ofNat point.val).map Char.toNat = name.map Fin.val := by
    rw [List.map_map]
    exact List.map_congr_left fun point member => toNat_charOf (valid point member)
  have values := (points first firstValid).symm.trans
    ((congrArg (List.map Char.toNat) decoded).trans (points second secondValid))
  exact List.map_injective_iff.mpr Fin.val_injective values

theorem nul_not_mem_encode {name : Text} {bytes : Bytes} (free : (0 : CodePoint) ∉ name)
    (encoded : encode name = some bytes) : (0 : UInt8) ∉ bytes := by
  obtain ⟨valid, rfl⟩ := encode_eq_some.mp encoded
  intro member
  obtain ⟨point, inName, inBytes⟩ := List.mem_flatMap.mp member
  refine nul_not_mem_utf8EncodeChar ?_ inBytes
  rw [toNat_charOf (valid point inName)]
  intro isNul
  have isNul : point = 0 := Fin.ext isNul
  exact free (isNul ▸ inName)

/-! ### The manifest -/

theorem recordOf_eq_some {file : Text × Bytes} {record : Records.Record UInt8} :
    recordOf file = some record ↔ encode file.1 = some record.1 ∧ file.2 = record.2 := by
  unfold recordOf
  obtain ⟨key, contents⟩ := record
  cases encode file.1 with
  | none => exact ⟨fun same => (by cases same), fun ⟨same, _⟩ => (by cases same)⟩
  | some bytes =>
    constructor
    · intro same
      cases same
      exact ⟨rfl, rfl⟩
    · rintro ⟨same, rfl⟩
      cases same
      rfl

section

variable {tree : Tree} {records : List (Records.Record UInt8)}

/-- Each record is that of a file of the tree. -/
theorem forall₂_records (isRecords : tree.records = some records) :
    List.Forall₂ (fun file record => recordOf file = some record) tree.files records := by
  unfold Tree.records at isRecords
  generalize tree.files = files at isRecords ⊢
  induction files generalizing records with
  | nil =>
    cases isRecords
    exact .nil
  | cons file rest inductionHypothesis =>
    rw [List.mapM_cons] at isRecords
    obtain ⟨record, isFirst, further⟩ := Option.bind_eq_some_iff.mp isRecords
    obtain ⟨others, isRest, same⟩ := Option.bind_eq_some_iff.mp further
    cases same
    exact .cons isFirst (inductionHypothesis isRest)

theorem holds_of_record (isRecords : tree.records = some records) {record : Records.Record UInt8}
    (member : record ∈ records) :
    ∃ path, encode path = some record.1 ∧ Holds tree.entries path record.2 := by
  obtain ⟨index, bound, rfl⟩ := List.getElem_of_mem member
  have matched := forall₂_records isRecords
  have inFiles : index < tree.files.length := matched.length_eq ▸ bound
  obtain ⟨encoded, contents⟩ := recordOf_eq_some.mp (matched.get inFiles bound)
  obtain ⟨rest, isPath, holds⟩ := (mem_walk tree.proper).mp (List.getElem_mem inFiles)
  rw [List.nil_append] at isPath
  exact ⟨_, encoded, isPath ▸ contents ▸ holds⟩

/-- The keys hold no NUL byte. -/
theorem marked_records (isRecords : tree.records = some records) : Records.Marked 0 records := by
  intro record member
  obtain ⟨path, encoded, holds⟩ := holds_of_record isRecords member
  exact nul_not_mem_encode (holds.nul_not_mem tree.proper) encoded

end

/-- Files with the same records are the same. -/
theorem files_of_records {files others : List (Text × Bytes)} {records : List (Records.Record UInt8)}
    (first : List.Forall₂ (fun file record => recordOf file = some record) files records)
    (second : List.Forall₂ (fun file record => recordOf file = some record) others records) :
    files = others := by
  induction first generalizing others with
  | nil =>
    cases second
    rfl
  | cons isFile _ inductionHypothesis =>
    cases second with
    | cons isOther further =>
      obtain ⟨encoded, contents⟩ := recordOf_eq_some.mp isFile
      obtain ⟨otherEncoded, otherContents⟩ := recordOf_eq_some.mp isOther
      rw [inductionHypothesis further]
      exact congrArg (· :: _) (Prod.ext (encode_injective encoded otherEncoded)
        (contents.trans otherContents.symm))

section

variable {first second : Tree} {firstRecords secondRecords : List (Records.Record UInt8)}

/-- The records say which files there are. -/
theorem sameFiles_of_records (isFirst : first.records = some firstRecords)
    (isSecond : second.records = some firstRecords) : SameFiles first second := by
  have files : first.files = second.files :=
    files_of_records (forall₂_records isFirst) (forall₂_records isSecond)
  intro path bytes
  have member (tree : Tree) : (path, bytes) ∈ tree.files ↔ Holds tree.entries path bytes := by
    refine (mem_walk tree.proper).trans ⟨fun ⟨rest, same, holds⟩ => ?_, fun holds => ⟨path, rfl, holds⟩⟩
    rw [same]
    exact holds
  rw [← member first, ← member second, files]

/-- Where records spill, a path leads to different bytes. -/
theorem not_sameFiles_of_spills (isFirst : first.records = some firstRecords)
    (isSecond : second.records = some secondRecords)
    (spills : Records.Spills 0 firstRecords secondRecords) : ¬SameFiles first second := by
  obtain ⟨before, key, contents, extra, after, others, more, rfl, rfl, _⟩ := spills
  obtain ⟨path, encoded, holds⟩ :=
    holds_of_record isFirst (List.mem_append_right before List.mem_cons_self)
  obtain ⟨otherPath, otherEncoded, otherHolds⟩ :=
    holds_of_record isSecond (List.mem_append_right before List.mem_cons_self)
  obtain rfl := encode_injective encoded otherEncoded
  intro same
  have equal := ((same _ _).mp holds).unique second.proper otherHolds
  exact more (List.self_eq_append_right.mp equal)

end

/-! ### Two trees -/

/-- A directory of two files. -/
def twoFiles (first second : String) (contents : Bytes) (distinct : text first ≠ text second)
    (firstName : isName (text first) = true) (secondName : isName (text second) = true) : Tree where
  entries := [(text first, .file contents), (text second, .file [])]
  proper := .folder (List.forall_mem_cons.mpr ⟨firstName, List.forall_mem_singleton.mpr secondName⟩)
    (List.nodup_cons.mpr ⟨fun member => distinct (List.mem_singleton.mp member), List.nodup_singleton _⟩)
    fun name inner member => by
      obtain same | member := List.mem_cons.mp member
      · cases same
      · cases List.mem_singleton.mp member

/-- Two empty files, `a` and `xb`. -/
def emptyFiles : Tree := twoFiles "a" "xb" [] (by decide) (by decide) (by decide)

/-- A file `a` that holds an `x`, and an empty file `b`. -/
def filledFile : Tree := twoFiles "a" "b" [0x78] (by decide) (by decide) (by decide)

def emptyRecords : List (Records.Record UInt8) := [([0x61], []), ([0x78, 0x62], [])]

def filledRecords : List (Records.Record UInt8) := [([0x61], [0x78]), ([0x62], [])]

theorem records_emptyFiles : emptyFiles.records = some emptyRecords := by decide

theorem records_filledFile : filledFile.records = some filledRecords := by decide

/-- The manifests tell two trees with different files apart exactly when neither listing spills into
the other. -/
theorem manifest_distinguishes_iff {Digest : Type} {sha256 : Bytes → Digest}
    (collisionFree : Function.Injective sha256) {first second : Tree}
    {firstRecords secondRecords : List (Records.Record UInt8)}
    (isFirst : first.records = some firstRecords) (isSecond : second.records = some secondRecords) :
    (¬SameFiles first second → manifest sha256 first ≠ manifest sha256 second) ↔
      ¬(Records.Spills 0 firstRecords secondRecords ∨ Records.Spills 0 secondRecords firstRecords) := by
  have digests : manifest sha256 first = manifest sha256 second ↔
      Records.writeAll 0 firstRecords = Records.writeAll 0 secondRecords := by
    rw [manifest, manifest, isFirst, isSecond]
    exact ⟨fun same => collisionFree (Option.some.inj same), fun same => congrArg _ (congrArg sha256 same)⟩
  rw [Ne, digests, Records.writeAll_eq_iff (marked_records isFirst) (marked_records isSecond)]
  constructor
  · intro told spills
    have differ : ¬SameFiles first second := by
      obtain spills | spills := spills
      · exact not_sameFiles_of_spills isFirst isSecond spills
      · exact fun same => not_sameFiles_of_spills isSecond isFirst spills
          fun path bytes => (same path bytes).symm
    exact told differ (Or.inr spills)
  · rintro apart differ (rfl | spills)
    · exact differ (sameFiles_of_records isFirst isSecond)
    · exact apart spills

theorem two_trees_distinguished_iff :
    (¬SameFiles emptyFiles filledFile → manifest id emptyFiles ≠ manifest id filledFile) ↔
      ¬(Records.Spills 0 emptyRecords filledRecords ∨ Records.Spills 0 filledRecords emptyRecords) :=
  manifest_distinguishes_iff Function.injective_id records_emptyFiles records_filledFile

/-- The letter counts as the beginning of the name that comes after it. -/
theorem manifest_confuses : ¬SameFiles emptyFiles filledFile ∧
    ∀ (Digest : Type) (sha256 : Bytes → Digest),
      manifest sha256 emptyFiles = manifest sha256 filledFile ∧
        (manifest sha256 emptyFiles).isSome = true := by
  refine ⟨fun same => ?_, fun Digest sha256 => ?_⟩
  · have holds : Holds emptyFiles.entries (text "a") [] := .file List.mem_cons_self
    have other : Holds filledFile.entries (text "a") [0x78] := .file List.mem_cons_self
    exact List.cons_ne_nil _ _ (((same _ _).mp holds).unique filledFile.proper other).symm
  · rw [manifest, manifest, records_emptyFiles, records_filledFile]
    exact ⟨rfl, rfl⟩

end Bundle

end LocalGpuCluster
