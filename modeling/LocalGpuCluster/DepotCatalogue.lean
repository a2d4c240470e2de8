/-
This file models which files a component needs from the offline depot. The bundles of the catalogue
overlap, so a file that stands in several of them is taken once; what they say of it has to agree with the
first of them. Since `==` is symmetric and transitive, that is as good as any two of them agreeing, even
where a value is equal to nothing.
-/

import LocalGpuCluster.Json
import Mathlib.Data.List.Sort

namespace LocalGpuCluster

namespace Depot

/-! ### Equal values -/

/-- What a value is put together from, up to `==`. -/
inductive Token where
  | null
  | number (value : ℚ)
  | infinite
  | str (content : Text)
  | openArray
  | openObject
  | close
  deriving DecidableEq

mutual

/-- A value as tokens, with the keys of each object sorted; none where it holds what is equal to nothing. -/
def tokens : Json → Option (List Token)
  | .null => some [.null]
  | .bool value => some [.number (if value then 1 else 0)]
  | .int value => some [.number value]
  | .float (.finite value) => some [.number value]
  | .float .infinite => some [.infinite]
  | .float .notANumber => none
  | .str content => some [.str content]
  | .arr items => (tokensOfItems items).map fun inner => .openArray :: inner.flatten ++ [.close]
  | .obj entries => (tokensOfEntries entries).map fun inner =>
      .openObject :: (inner.insertionSort fun first second => first.1 ≤ second.1).flatMap
        (fun entry => .str entry.1 :: entry.2) ++ [.close]

def tokensOfItems : List Json → Option (List (List Token))
  | [] => some []
  | item :: rest => (tokens item).bind fun first => (tokensOfItems rest).map (first :: ·)

def tokensOfEntries : List (Text × Json) → Option (List (Text × List Token))
  | [] => some []
  | (key, value) :: rest => (tokens value).bind fun first =>
      (tokensOfEntries rest).map ((key, first) :: ·)

end

/-- `first != second`. -/
def differ (first second : Json) : Bool :=
  match tokens first, tokens second with
  | some one, some other => one ≠ other
  | _, _ => true

theorem differ_eq_false_iff {first second : Json} :
    differ first second = false ↔ ∃ same, tokens first = some same ∧ tokens second = some same := by
  unfold differ
  cases tokens first with
  | none => simp
  | some one =>
    cases tokens second with
    | none => simp
    | some other =>
      show decide (one ≠ other) = false ↔ _
      rw [decide_eq_false_iff_not, not_not]
      constructor
      · rintro rfl
        exact ⟨one, rfl, rfl⟩
      · rintro ⟨same, isFirst, isSecond⟩
        exact (Option.some.inj isFirst).trans (Option.some.inj isSecond).symm

theorem not_differ_trans {first second third : Json} (left : differ first second = false)
    (right : differ second third = false) : differ first third = false := by
  obtain ⟨same, isFirst, isSecond⟩ := differ_eq_false_iff.mp left
  obtain ⟨other, isSecond', isThird⟩ := differ_eq_false_iff.mp right
  cases isSecond.symm.trans isSecond'
  exact differ_eq_false_iff.mpr ⟨same, isFirst, isThird⟩

theorem not_differ_symm {first second : Json} (equal : differ first second = false) :
    differ second first = false := by
  obtain ⟨same, isFirst, isSecond⟩ := differ_eq_false_iff.mp equal
  exact differ_eq_false_iff.mpr ⟨same, isSecond, isFirst⟩

/-! ### Required files -/

/-- A binary of a bundle; a size or checksum that is left out is null. -/
structure Binary where
  fileName : Text
  size : Json
  checksum : Json

structure Bundle where
  type : Text
  binaries : List Binary

structure Record where
  productVersion : Text
  bundles : List Bundle

/-- `catalog["patches"]`. -/
abbrev Catalogue := List (Text × List Record)

/-- `bundles_for`. -/
def bundlesFor (catalog : Catalogue) (component version : Text) : List Bundle :=
  match ((catalog.lookup component).getD []).find? fun record => record.productVersion = version with
  | some record => record.bundles
  | none => []

/-- The binaries that the loops of `required_files` come to, each with the type of its bundle. -/
def selected (catalog : Catalogue) (component version : Text) (types : List Text) :
    List (Text × Binary) :=
  ((bundlesFor catalog component version).filter fun bundle => types.contains bundle.type).flatMap
    fun bundle => bundle.binaries.map fun binary => (bundle.type, binary)

/-- A required file. -/
structure Entry extends Binary where
  bundleTypes : List Text

section Required

variable (repr : Json → Text) (component version : Text)

/-- What is said where two bundles disagree. -/
def conflict (entry : Entry) (type field : Text) (first second : Json) : Text :=
  text "catalogue conflict for " ++ component ++ text " " ++ version ++ text ": " ++ entry.fileName ++
    text " has " ++ field ++ text "=" ++ repr first ++ text " in bundle " ++
    entry.bundleTypes.headD [] ++ text " but " ++ field ++ text "=" ++ repr second ++
    text " in bundle " ++ type ++ text ". Publish one bundle type at a time."

/-- `entry["bundleTypes"].append(type)`, unless it is there. -/
def Entry.note (type : Text) (entry : Entry) : Entry :=
  if entry.bundleTypes.contains type then entry
  else { entry with bundleTypes := entry.bundleTypes ++ [type] }

/-- One binary of `required_files`, with what was seen before. -/
def require (seen : List Entry) (item : Text × Binary) : Except Text (List Entry) :=
  match seen.find? fun entry => entry.fileName = item.2.fileName with
  | none => .ok (seen ++ [⟨item.2, [item.1]⟩])
  | some entry =>
      if differ entry.size item.2.size then
        .error (conflict repr component version entry item.1 (text "size") entry.size item.2.size)
      else if differ entry.checksum item.2.checksum then
        .error (conflict repr component version entry item.1 (text "checksum") entry.checksum
          item.2.checksum)
      else .ok (seen.map fun other =>
        if other.fileName = item.2.fileName then other.note item.1 else other)

/-- `required_files`: `SystemExit` with a text where bundles disagree. -/
def requiredFiles (catalog : Catalogue) (types : List Text) : Except Text (List Entry) :=
  (selected catalog component version types).foldlM (require repr component version) []

end Required

/-! ### Agreement -/

/-- What is said of one file is the same. -/
def Agree (first second : Binary) : Prop :=
  first.fileName = second.fileName →
    differ first.size second.size = false ∧ differ first.checksum second.checksum = false

/-- No two of the binaries disagree about a file. -/
def Consistent (items : List (Text × Binary)) : Prop :=
  items.Pairwise fun first second => Agree first.2 second.2

/-- The files that were seen, as the bundles have them. -/
def binariesOf (seen : List Entry) : List Binary := seen.map Entry.toBinary

theorem toBinary_note (type : Text) (entry : Entry) : (entry.note type).toBinary = entry.toBinary := by
  unfold Entry.note
  split <;> rfl

/-- What agrees with one entry of a file agrees with another that does. -/
theorem Agree.through {entry first second : Binary} (one : Agree entry first)
    (other : Agree entry second) (same : entry.fileName = first.fileName) : Agree first second := by
  intro named
  obtain ⟨size, checksum⟩ := one same
  obtain ⟨otherSize, otherChecksum⟩ := other (same.trans named)
  exact ⟨not_differ_trans (not_differ_symm size) otherSize,
    not_differ_trans (not_differ_symm checksum) otherChecksum⟩

section Steps

variable (repr : Json → Text) (component version : Text)

/-- What one binary does: it is new, it disagrees with what is known of its file, or it adds its type. -/
theorem require_cases (seen : List Entry) (item : Text × Binary) :
    (∃ after, require repr component version seen item = .ok after ∧
        binariesOf after = binariesOf seen ++ [item.2] ∧
        ∀ known ∈ binariesOf seen, known.fileName ≠ item.2.fileName) ∨
      ∃ known ∈ binariesOf seen, known.fileName = item.2.fileName ∧
        (¬ Agree known item.2 ∧
            (∃ message, require repr component version seen item = .error message) ∨
          Agree known item.2 ∧ ∃ after, require repr component version seen item = .ok after ∧
            binariesOf after = binariesOf seen) := by
  unfold require
  cases found : seen.find? fun entry => decide (entry.fileName = item.2.fileName) with
  | none =>
    refine Or.inl ⟨_, rfl, List.map_append, fun known isKnown same => ?_⟩
    obtain ⟨entry, isEntry, rfl⟩ := List.mem_map.mp isKnown
    exact absurd (decide_eq_true same) (List.find?_eq_none.mp found entry isEntry)
  | some entry =>
    have isNamed := List.find?_some found
    have same : entry.fileName = item.2.fileName := of_decide_eq_true isNamed
    refine Or.inr ⟨entry.toBinary, List.mem_map_of_mem (List.mem_of_find?_eq_some found), same, ?_⟩
    dsimp only
    split
    · rename_i sizes
      exact Or.inl ⟨fun agree => absurd sizes (Bool.eq_false_iff.mp (agree same).1), _, rfl⟩
    · rename_i sizes
      split
      · rename_i checksums
        exact Or.inl ⟨fun agree => absurd checksums (Bool.eq_false_iff.mp (agree same).2), _, rfl⟩
      · rename_i checksums
        refine Or.inr ⟨fun _ => ⟨Bool.eq_false_iff.mpr sizes, Bool.eq_false_iff.mpr checksums⟩, _, rfl, ?_⟩
        rw [binariesOf, List.map_map]
        refine List.map_congr_left fun other _ => ?_
        show Entry.toBinary (if _ then _ else _) = _
        split
        · exact toBinary_note item.1 other
        · rfl

/-- Another file keeps the names distinct. -/
theorem nodup_concat {known : List Binary} {binary : Binary}
    (distinct : (known.map Binary.fileName).Nodup)
    (isNew : ∀ other ∈ known, other.fileName ≠ binary.fileName) :
    ((known ++ [binary]).map Binary.fileName).Nodup := by
  rw [List.map_append, List.map_singleton]
  refine distinct.append (List.nodup_singleton _) (List.disjoint_singleton.mpr ?_)
  intro member
  obtain ⟨other, isOther, named⟩ := List.mem_map.mp member
  exact isNew other isOther named

/-- The loop goes through where nothing that comes disagrees with what was seen, or with another. -/
theorem foldlM_require_iff (items : List (Text × Binary)) {seen : List Entry}
    (distinct : ((binariesOf seen).map Binary.fileName).Nodup) :
    (∃ after, items.foldlM (require repr component version) seen = .ok after) ↔
      (∀ known ∈ binariesOf seen, ∀ item ∈ items, Agree known item.2) ∧ Consistent items := by
  induction items generalizing seen with
  | nil => exact iff_of_true ⟨seen, rfl⟩ ⟨fun _ _ _ nothing => absurd nothing List.not_mem_nil, .nil⟩
  | cons item rest inductionHypothesis =>
    rw [List.foldlM_cons, Consistent, List.pairwise_cons, ← Consistent]
    obtain ⟨after, step, more, isNew⟩ |
        ⟨known, isKnown, same, ⟨disagree, message, step⟩ | ⟨agree, after, step, kept⟩⟩ :=
      require_cases repr component version seen item
    · rw [step]
      refine (inductionHypothesis (more ▸ nodup_concat distinct isNew)).trans ?_
      rw [more]
      constructor
      · rintro ⟨agree, consistent⟩
        refine ⟨fun known isKnown other isOther => ?_, fun other isOther => ?_, consistent⟩
        · obtain rfl | isRest := List.mem_cons.mp isOther
          · exact fun named => absurd named (isNew known isKnown)
          · exact agree known (List.mem_append_left _ isKnown) other isRest
        · exact agree _ (List.mem_append_right _ List.mem_cons_self) other isOther
      · rintro ⟨agree, first, consistent⟩
        refine ⟨fun known isKnown other isOther => ?_, consistent⟩
        obtain isSeen | isLast := List.mem_append.mp isKnown
        · exact agree known isSeen other (List.mem_cons_of_mem _ isOther)
        · rw [List.mem_singleton.mp isLast]
          exact first other isOther
    · rw [step]
      refine iff_of_false ?_ ?_
      · rintro ⟨after, impossible⟩
        cases impossible
      · rintro ⟨agree, _⟩
        exact disagree (agree known isKnown item List.mem_cons_self)
    · rw [step]
      refine (inductionHypothesis (kept ▸ distinct)).trans ?_
      rw [kept]
      constructor
      · rintro ⟨others, consistent⟩
        refine ⟨fun other isOther next inItems => ?_, fun next isRest => ?_, consistent⟩
        · obtain rfl | isRest := List.mem_cons.mp inItems
          · intro named
            rw [List.inj_on_of_nodup_map distinct isOther isKnown (named.trans same.symm)]
            exact agree same
          · exact others other isOther next isRest
        · exact agree.through (others known isKnown next isRest) same
      · rintro ⟨others, _, consistent⟩
        exact ⟨fun other isOther next isRest =>
          others other isOther next (List.mem_cons_of_mem _ isRest), consistent⟩

/-- The entries of the files: one a name, each as a bundle has it, and none left out. -/
structure Covers (items : List (Text × Binary)) (known : List Binary) : Prop where
  distinct : (known.map Binary.fileName).Nodup
  selected : ∀ binary ∈ known, ∃ item ∈ items, binary = item.2
  complete : ∀ item ∈ items, ∃ binary ∈ known, binary.fileName = item.2.fileName

theorem covers_of_foldlM {front items : List (Text × Binary)} {seen after : List Entry}
    (covers : Covers front (binariesOf seen))
    (done : items.foldlM (require repr component version) seen = .ok after) :
    Covers (front ++ items) (binariesOf after) := by
  induction items generalizing front seen with
  | nil =>
    cases done
    rwa [List.append_nil]
  | cons item rest inductionHypothesis =>
    rw [List.foldlM_cons] at done
    rw [← List.singleton_append, ← List.append_assoc]
    obtain ⟨next, step, more, isNew⟩ |
        ⟨known, isKnown, same, ⟨_, message, step⟩ | ⟨_, next, step, kept⟩⟩ :=
      require_cases repr component version seen item <;> rw [step] at done
    · refine inductionHypothesis ⟨more ▸ nodup_concat covers.distinct isNew, ?_, ?_⟩ done
      · intro binary isBinary
        obtain isSeen | isLast := List.mem_append.mp (more ▸ isBinary)
        · obtain ⟨other, isOther, same⟩ := covers.selected binary isSeen
          exact ⟨other, List.mem_append_left _ isOther, same⟩
        · exact ⟨item, List.mem_append_right _ List.mem_cons_self, List.mem_singleton.mp isLast⟩
      · intro other isOther
        rw [more]
        obtain isFront | isLast := List.mem_append.mp isOther
        · obtain ⟨binary, isBinary, same⟩ := covers.complete other isFront
          exact ⟨binary, List.mem_append_left _ isBinary, same⟩
        · rw [List.mem_singleton.mp isLast]
          exact ⟨item.2, List.mem_append_right _ List.mem_cons_self, rfl⟩
    · cases done
    · refine inductionHypothesis ⟨kept ▸ covers.distinct, ?_, ?_⟩ done
      · intro binary isBinary
        obtain ⟨other, isOther, same⟩ := covers.selected binary (kept ▸ isBinary)
        exact ⟨other, List.mem_append_left _ isOther, same⟩
      · intro other isOther
        rw [kept]
        obtain isFront | isLast := List.mem_append.mp isOther
        · exact covers.complete other isFront
        · rw [List.mem_singleton.mp isLast]
          exact ⟨known, isKnown, same⟩

/-- The required files are found where no two of the selected binaries disagree about a file. -/
theorem requiredFiles_ok_iff (catalog : Catalogue) (types : List Text) :
    (∃ entries, requiredFiles repr component version catalog types = .ok entries) ↔
      Consistent (selected catalog component version types) := by
  have all := @foldlM_require_iff repr component version
    (selected catalog component version types) [] List.nodup_nil
  refine all.trans ⟨And.right, fun consistent => ⟨fun _ nothing => ?_, consistent⟩⟩
  exact absurd nothing List.not_mem_nil

theorem requiredFiles_covers {catalog : Catalogue} {types : List Text} {entries : List Entry}
    (found : requiredFiles repr component version catalog types = .ok entries) :
    Covers (selected catalog component version types) (binariesOf entries) := by
  have nothing : Covers [] (binariesOf []) :=
    ⟨List.nodup_nil, fun _ none => absurd none List.not_mem_nil,
      fun _ none => absurd none List.not_mem_nil⟩
  exact covers_of_foldlM repr component version nothing found

end Steps

end Depot

end LocalGpuCluster
