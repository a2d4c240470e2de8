/-
This file proves that a value which `json.dumps` writes is read back by `json.loads`, with the entries of
its objects in another order where their keys are sorted. The one thing that does not survive is a
string in which a high surrogate stands directly before a low one: the two are written as the escapes
of one code point, and are read as that. What stands before a value and after it does not matter as
long as it cannot go on with the number that the value may be.
-/

import LocalGpuCluster.JsonScan
import Mathlib.Data.List.TakeWhile

namespace LocalGpuCluster

namespace JsonText

/-! ### What is written and read back -/

/-- A high surrogate stands directly before a low one nowhere. -/
def Unpaired : Text → Prop
  | first :: second :: rest =>
      ¬ (isHigh first.val = true ∧ isLow second.val = true) ∧ Unpaired (second :: rest)
  | _ => True

theorem unpaired_of_low {content : Text}
    (low : (content.all fun point => point.val < 0xD800) = true) : Unpaired content := by
  induction content with
  | nil => trivial
  | cons first rest inductionHypothesis =>
    obtain ⟨here, later⟩ := Bool.and_eq_true_iff.mp low
    cases rest with
    | nil => trivial
    | cons second rest =>
      refine ⟨fun both => ?_, inductionHypothesis later⟩
      have high := of_decide_eq_true (Bool.and_eq_true_iff.mp both.1).1
      exact absurd (of_decide_eq_true here) (Nat.not_lt.mpr high)

/-- The float alone is read back from its text, which is that of a number. -/
def FloatText.Restores (floats : FloatText) (value : ℚ) : Prop :=
  scanNumber floats (floats.repr value) = .ok (.float (.finite value), []) ∧
    ∀ point ∈ floats.repr value, isNumeric point = true

/-- What holds of every text in a value, of every finite float and of the keys of every object. -/
inductive Each (content : Text → Prop) (number : ℚ → Prop) (keys : List Text → Prop) : Json → Prop
  | null : Each content number keys .null
  | bool (value : Bool) : Each content number keys (.bool value)
  | int (value : ℤ) : Each content number keys (.int value)
  | float {value : ℚ} : number value → Each content number keys (.float (.finite value))
  | infinite : Each content number keys (.float .infinite)
  | notANumber : Each content number keys (.float .notANumber)
  | str {value : Text} : content value → Each content number keys (.str value)
  | arr {items : List Json} : (∀ item ∈ items, Each content number keys item) →
      Each content number keys (.arr items)
  | obj {entries : List (Text × Json)} : keys (entries.map Prod.fst) →
      (∀ entry ∈ entries, content entry.1) → (∀ entry ∈ entries, Each content number keys entry.2) →
      Each content number keys (.obj entries)

/-- A value that survives being written and read: its floats do, its objects are dicts, and no string
has a pair of surrogates. -/
def Restorable (floats : FloatText) : Json → Prop := Each Unpaired floats.Restores List.Nodup

/-- Values that are equal in Python: the order of an object's entries does not count. -/
inductive SameValue : Json → Json → Prop
  | refl (value : Json) : SameValue value value
  | arr {items others : List Json} : List.Forall₂ SameValue items others →
      SameValue (.arr items) (.arr others)
  | obj {entries arranged others : List (Text × Json)} : entries.Perm arranged →
      arranged.map Prod.fst = others.map Prod.fst →
      List.Forall₂ SameValue (arranged.map Prod.snd) (others.map Prod.snd) →
      SameValue (.obj entries) (.obj others)

/-! ### Strings -/

theorem hexValue_hexDigit : ∀ value < 16, hexValue (hexDigit value) = some value := by decide

theorem unitOf_escapeUnit {value : ℕ} (small : value < 0x10000) :
    unitOf (hexDigit (value / 4096)) (hexDigit (value / 256 % 16)) (hexDigit (value / 16 % 16))
      (hexDigit (value % 16)) = some value := by
  unfold unitOf
  rw [hexValue_hexDigit _ (by omega), hexValue_hexDigit _ (by omega),
    hexValue_hexDigit _ (by omega), hexValue_hexDigit _ (by omega)]
  refine congrArg some ?_
  show ((value / 4096 * 16 + value / 256 % 16) * 16 + value / 16 % 16) * 16 + value % 16 = value
  omega

theorem before_append (first second : List Piece) (scanned : Scan (List Piece)) :
    before first (before second scanned) = before (first ++ second) scanned := by
  cases scanned with
  | error raised => rfl
  | ok found => exact congrArg (fun pieces => Except.ok (pieces, found.2)) (List.append_assoc ..).symm

theorem scanPieces_escapeUnit {value : ℕ} (small : value < 0x10000) (rest : Text) :
    scanPieces (escapeUnit value ++ rest) = before [.unit value] (scanPieces rest) :=
  scanPieces_unit (unitOf_escapeUnit small) rest

/-- The pieces that a code point is read back as. -/
def piecesOf (point : CodePoint) : List Piece :=
  if (shortEscapes.lookup point).isSome || (0x20 ≤ point.val && point.val ≤ 0x7E) then [.plain point]
  else if point.val < 0x10000 then [.unit point.val]
  else [.unit (0xD800 + (point.val - 0x10000) / 0x400), .unit (0xDC00 + (point.val - 0x10000) % 0x400)]

theorem escapes_lookup {point mark : CodePoint} (short : shortEscapes.lookup point = some mark) :
    mark ≠ 0x75 ∧ escapes.lookup mark = some point := by
  have all : ∀ entry ∈ shortEscapes, entry.2 ≠ 0x75 ∧ escapes.lookup entry.2 = some entry.1 :=
    List.forall_iff_forall_mem.mp (by decide)
  obtain ⟨first, second, split, -⟩ := List.lookup_eq_some_iff.mp short
  exact all (point, mark) (split ▸ List.mem_append_right _ List.mem_cons_self)

theorem scanPieces_escapePoint (point : CodePoint) (rest : Text) :
    scanPieces (escapePoint point ++ rest) = before (piecesOf point) (scanPieces rest) := by
  unfold escapePoint piecesOf
  cases short : shortEscapes.lookup point with
  | some mark =>
    obtain ⟨notUnit, found⟩ := escapes_lookup short
    exact scanPieces_escape notUnit found rest
  | none =>
    have apart : point ≠ quote ∧ point ≠ backslash := by
      constructor <;> rintro rfl <;> cases short
    rw [Option.isSome_none, Bool.false_or]
    dsimp only
    split
    · rename_i printable
      have visible : ¬ point.val ≤ 0x1F := by
        have bound := (Bool.and_eq_true_iff.mp printable).1
        have low := of_decide_eq_true bound
        omega
      exact scanPieces_plain apart.1 apart.2 visible rest
    · split
      · rename_i small
        exact scanPieces_escapeUnit small rest
      · have within := point.isLt
        rw [List.append_assoc, scanPieces_escapeUnit (by omega), scanPieces_escapeUnit (by omega),
          before_append]
        rfl

theorem scanPieces_escaped (content rest : Text) :
    scanPieces (content.flatMap escapePoint ++ quote :: rest) =
      .ok (content.flatMap piecesOf, rest) := by
  induction content with
  | nil =>
    exact scanPieces_quote rest
  | cons point more inductionHypothesis =>
    rw [List.flatMap_cons, List.append_assoc, scanPieces_escapePoint, inductionHypothesis]
    rfl

/-- A unit stays by itself where no low surrogate is escaped after a high one. -/
theorem joinUnits_unit {value : ℕ} {pieces : List Piece}
    (alone : ∀ low, pieces.head? = some (.unit low) → ¬ (isHigh value = true ∧ isLow low = true)) :
    joinUnits (.unit value :: pieces) = Fin.ofNat 0x110000 value :: joinUnits pieces := by
  match pieces with
  | [] => rfl
  | .plain point :: rest => rfl
  | .unit low :: rest =>
    rw [joinUnits, if_neg]
    exact fun both => alone low rfl (Bool.and_eq_true_iff.mp both)

theorem joinUnits_pair {point : CodePoint} (large : 0x10000 ≤ point.val) (pieces : List Piece) :
    joinUnits (.unit (0xD800 + (point.val - 0x10000) / 0x400) ::
      .unit (0xDC00 + (point.val - 0x10000) % 0x400) :: pieces) = point :: joinUnits pieces := by
  have within := point.isLt
  have high : isHigh (0xD800 + (point.val - 0x10000) / 0x400) = true :=
    Bool.and_eq_true_iff.mpr ⟨decide_eq_true (by omega), decide_eq_true (by omega)⟩
  have low : isLow (0xDC00 + (point.val - 0x10000) % 0x400) = true :=
    Bool.and_eq_true_iff.mpr ⟨decide_eq_true (by omega), decide_eq_true (by omega)⟩
  have value : 0x10000 + (0xD800 + (point.val - 0x10000) / 0x400 - 0xD800) * 0x400 +
      (0xDC00 + (point.val - 0x10000) % 0x400 - 0xDC00) = point.val := by omega
  rw [joinUnits, high, low, Bool.and_self, if_pos rfl, value]
  exact congrArg (· :: joinUnits pieces) (Fin.ext (Nat.mod_eq_of_lt within))

/-- The first piece of a code point is a low surrogate only if the code point is. -/
theorem head_piecesOf {point : CodePoint} {more : List Piece} {low : ℕ}
    (first : (piecesOf point ++ more).head? = some (.unit low)) (isLowUnit : isLow low = true) :
    low = point.val := by
  unfold piecesOf at first
  split at first
  · cases first
  · split at first
    · cases first
      rfl
    · cases first
      have within := point.isLt
      have bound := of_decide_eq_true (Bool.and_eq_true_iff.mp isLowUnit).1
      omega

theorem joinUnits_piecesOf {content : Text} (unpaired : Unpaired content) :
    joinUnits (content.flatMap piecesOf) = content := by
  induction content with
  | nil => rfl
  | cons point rest inductionHypothesis =>
    have later : Unpaired rest := by
      match rest with
      | [] => trivial
      | _ :: _ => exact unpaired.2
    rw [List.flatMap_cons]
    have joined := inductionHypothesis later
    rw [piecesOf]
    split
    · exact congrArg (point :: ·) joined
    · split
      · rw [List.singleton_append, joinUnits_unit, joined]
        · exact congrArg (· :: rest) (Fin.ext (Nat.mod_eq_of_lt point.isLt))
        · rintro low first ⟨high, isLowUnit⟩
          match rest with
          | [] => cases first
          | next :: _ =>
            have same := head_piecesOf first isLowUnit
            exact unpaired.1 ⟨high, same ▸ isLowUnit⟩
      · rename_i large
        exact (joinUnits_pair (Nat.le_of_not_lt large) _).trans (congrArg (point :: ·) joined)

/-- A string is read back from its quoted form. -/
theorem scanString_quoted {content : Text} (unpaired : Unpaired content) (rest : Text) :
    scanString (content.flatMap escapePoint ++ quote :: rest) = .ok (content, rest) := by
  rw [scanString, scanPieces_escaped]
  exact congrArg (fun found => Except.ok (found, rest)) (joinUnits_piecesOf unpaired)

/-! ### Numbers -/

theorem head_toDigits {value : ℕ} (positive : 0 < value) :
    (Nat.toDigits 10 value).head? ≠ some '0' := by
  induction value using Nat.strong_induction_on with
  | h value inductionHypothesis =>
    by_cases small : value < 10
    · have all : ∀ digit < 10, 0 < digit → [Nat.digitChar digit].head? ≠ some '0' := by decide
      rw [Nat.toDigits_of_lt_base small]
      exact all value small positive
    · rw [Nat.toDigits_of_base_le (by decide) (Nat.le_of_not_lt small),
        List.head?_append_of_ne_nil _ Nat.toDigits_ne_nil]
      exact inductionHypothesis _ (by omega) (by omega)

theorem isDigit_decimal {value : ℕ} {point : CodePoint} (member : point ∈ decimal (value : ℕ)) :
    isDigit point = true := by
  obtain ⟨low, high⟩ := isDigit_of_mem_decimal member
  exact Bool.and_eq_true_iff.mpr ⟨decide_eq_true low, decide_eq_true high⟩

theorem decimal_ne_nil (value : ℕ) : decimal (value : ℕ) ≠ [] := by
  rw [decimal_natCast]
  exact fun empty => Nat.toDigits_ne_nil (List.map_eq_nil_iff.mp empty)

theorem natOf_decimal (value : ℕ) : natOf (decimal (value : ℕ)) = value := by
  have zero : ∀ character : Char, (Fin.ofNat 0x110000 character.toNat).val - 0x30 =
      character.toNat - '0'.toNat := fun character => by
    rw [Fin.val_ofNat, Nat.mod_eq_of_lt (character_toNat_lt character)]
    rfl
  rw [natOf, decimal_natCast, List.foldl_map]
  simp only [zero]
  exact Nat.ofDigitChars_eq_foldl.symm.trans Nat.ofDigitChars_ten_toDigits

theorem wholeOf_decimal (value : ℕ) : wholeOf (decimal (value : ℕ)) = decimal (value : ℕ) := by
  unfold wholeOf
  split
  · rename_i zero
    obtain rfl | positive := Nat.eq_zero_or_pos value
    · rfl
    · rw [decimal_natCast, List.head?_map] at zero
      obtain ⟨character, first, same⟩ := Option.map_eq_some_iff.mp zero
      have isZero : character = '0' := ofNat_toNat_injective same
      exact absurd (isZero ▸ first) (head_toDigits positive)
  · exact List.takeWhile_eq_self_iff.mpr fun point member => isDigit_decimal member

theorem scanUnsigned_decimal {floats : FloatText} {sign : Text} {value : ℕ}
    (few : (decimal (value : ℕ)).length ≤ maxDigits) :
    scanUnsigned floats sign (decimal (value : ℕ)) =
      .ok (.int (if sign = [] then value else -value), []) := by
  unfold scanUnsigned
  dsimp only
  rw [wholeOf_decimal, List.drop_length, natOf_decimal, if_neg (decimal_ne_nil value),
    List.drop_of_length_le (Nat.le_add_right _ _), if_neg (Nat.not_lt.mpr few)]
  rfl

theorem decimal_neg {value : ℕ} (positive : 0 < value) :
    decimal (-(value : ℤ)) = minus :: decimal (value : ℕ) := by
  have negative : ¬ (0 : ℤ) ≤ -(value : ℤ) := by omega
  have shown : toString (-(value : ℤ)) = "-" ++ value.repr := by
    rw [Int.toString_eq_repr, Int.repr_eq_if, if_neg negative, Int.neg_neg, Int.toNat_natCast]
  have same : toString (value : ℤ) = value.repr := by
    rw [Int.toString_eq_repr, Int.repr_eq_if, if_pos (Int.natCast_nonneg value), Int.toNat_natCast]
  rw [decimal, decimal, shown, same, text, text, String.toList_append, List.map_append]
  rfl

/-- An integer is read back from its digits. -/
theorem scanNumber_decimal {floats : FloatText} {value : ℤ}
    (few : (decimal value.natAbs).length ≤ maxDigits) :
    scanNumber floats (decimal value) = .ok (.int value, []) := by
  have natural : ∀ magnitude : ℕ, (decimal (magnitude : ℕ)).length ≤ maxDigits →
      scanNumber floats (decimal (magnitude : ℕ)) = .ok (.int magnitude, []) := by
    intro magnitude few
    have found : scanUnsigned floats [] _ = _ := scanUnsigned_decimal few
    cases digits : decimal (magnitude : ℕ) with
    | nil => exact absurd digits (decimal_ne_nil magnitude)
    | cons first more =>
      have isOne : isDigit first = true := isDigit_decimal (digits ▸ List.mem_cons_self)
      have notMinus : ¬ first = minus := by
        rintro rfl
        exact absurd isOne (by decide)
      rw [digits] at found
      rw [scanNumber, if_neg notMinus, found, if_pos rfl]
  obtain ⟨magnitude, rfl | rfl⟩ := Int.eq_nat_or_neg value
  · exact natural magnitude few
  · rw [Int.natAbs_neg, Int.natAbs_natCast] at few
    obtain rfl | positive := Nat.eq_zero_or_pos magnitude
    · exact natural 0 few
    · have found : scanUnsigned floats [minus] _ = _ := scanUnsigned_decimal few
      rw [decimal_neg positive, scanNumber, if_pos rfl, found, if_neg (List.cons_ne_nil _ _)]

/-- What starts a number. -/
def StartsNumber (input : Text) : Prop :=
  ∃ point rest, input = point :: rest ∧ (isDigit point = true ∨
    point = minus ∧ ∃ digit more, rest = digit :: more ∧ isDigit digit = true)

theorem wholeOf_start {input : Text} (present : wholeOf input ≠ []) :
    ∃ digit more, input = digit :: more ∧ isDigit digit = true := by
  cases input with
  | nil => exact absurd rfl present
  | cons digit more =>
    refine ⟨digit, more, rfl, ?_⟩
    by_contra other
    refine present ?_
    have notZero : ¬ (digit :: more).head? = some 0x30 := by
      intro zero
      cases zero
      exact other (by decide)
    rw [wholeOf, if_neg notZero]
    exact List.takeWhile_cons_of_neg other

theorem scanUnsigned_start {floats : FloatText} {sign input : Text} {found : Json × Text}
    (scanned : scanUnsigned floats sign input = .ok found) : wholeOf input ≠ [] := by
  intro none
  unfold scanUnsigned at scanned
  dsimp only at scanned
  rw [if_pos none] at scanned
  cases scanned

theorem scanNumber_start {floats : FloatText} {input : Text} {found : Json × Text}
    (scanned : scanNumber floats input = .ok found) : StartsNumber input := by
  cases input with
  | nil => cases scanned
  | cons point rest =>
    rw [scanNumber] at scanned
    split at scanned
    · rename_i isMinus
      exact ⟨point, rest, rfl, Or.inr ⟨isMinus, wholeOf_start (scanUnsigned_start scanned)⟩⟩
    · obtain ⟨digit, more, same, isOne⟩ := wholeOf_start (scanUnsigned_start scanned)
      cases same
      exact ⟨point, rest, rfl, Or.inl isOne⟩

/-- A number is no constant, and stays the same before what it cannot go on with. -/
theorem scanAtom_number {floats : FloatText} {input rest : Text} {value : Json} (ends : Ends rest)
    (scanned : scanNumber floats input = .ok (value, [])) :
    scanAtom floats (input ++ rest) = .ok (value, rest) := by
  obtain ⟨point, after, rfl, start⟩ := scanNumber_start scanned
  have notConstant : ∀ constant ∈ constants,
      ¬ Text.startsWith (point :: after ++ rest) constant.1 = true := by
    have shape : ∀ constant ∈ constants, ∃ first second more, constant.1 = first :: second :: more ∧
        isDigit first = false ∧ isDigit second = false := by
      intro constant member
      simp only [constants, List.mem_cons, List.not_mem_nil, or_false] at member
      rcases member with rfl | rfl | rfl | rfl | rfl | rfl <;> exact ⟨_, _, _, rfl, by decide, by decide⟩
    intro constant member starts
    obtain ⟨first, second, more, same, notFirst, notSecond⟩ := shape constant member
    obtain ⟨tail, whole⟩ := List.isPrefixOf_iff_prefix.mp starts
    rw [same] at whole
    obtain ⟨isFirst, afterFirst⟩ := List.cons.inj whole
    obtain digit | ⟨-, digit, later, rfl, isOne⟩ := start
    · rw [isFirst, digit] at notFirst
      cases notFirst
    · rw [(List.cons.inj afterFirst).1, isOne] at notSecond
      cases notSecond
  have noConstant : (constants.find? fun constant =>
      Text.startsWith (point :: after ++ rest) constant.1) = none :=
    List.find?_eq_none.mpr notConstant
  rw [scanAtom, noConstant]
  show scanNumber floats (point :: after ++ rest) = _
  rw [scanNumber_append ends, scanned]
  rfl

/-! ### The characters of what is written -/

/-- Visible ASCII, and the space. -/
def Printable (written : Text) : Prop := ∀ point ∈ written, 0x20 ≤ point.val ∧ point.val ≤ 0x7E

theorem Printable.append {first second : Text} (before : Printable first) (after : Printable second) :
    Printable (first ++ second) :=
  fun point member => (List.mem_append.mp member).elim (before point) (after point)

theorem Printable.cons {point : CodePoint} {rest : Text} (here : 0x20 ≤ point.val ∧ point.val ≤ 0x7E)
    (later : Printable rest) : Printable (point :: rest) :=
  fun other member => (List.mem_cons.mp member).elim (fun same => same ▸ here) (later other)

theorem printable_of_all {written : Text}
    (all : written.all (fun point => 0x20 ≤ point.val && point.val ≤ 0x7E) = true) :
    Printable written := by
  intro point member
  obtain ⟨low, high⟩ := Bool.and_eq_true_iff.mp (List.all_eq_true.mp all point member)
  exact ⟨of_decide_eq_true low, of_decide_eq_true high⟩

theorem printable_nil : Printable [] := fun _ member => absurd member List.not_mem_nil

theorem printable_hexDigit {value : ℕ} (small : value < 16) :
    0x20 ≤ (hexDigit value).val ∧ (hexDigit value).val ≤ 0x7E := by
  have all : ∀ value < 16, 0x20 ≤ (hexDigit value).val ∧ (hexDigit value).val ≤ 0x7E := by decide
  exact all value small

theorem printable_escapeUnit {value : ℕ} (small : value < 0x10000) : Printable (escapeUnit value) := by
  have marks : 0x20 ≤ backslash.val ∧ backslash.val ≤ 0x7E := by decide
  have letter : 0x20 ≤ (0x75 : CodePoint).val ∧ (0x75 : CodePoint).val ≤ 0x7E := by decide
  exact .cons marks (.cons letter (.cons (printable_hexDigit (by omega))
    (.cons (printable_hexDigit (by omega)) (.cons (printable_hexDigit (by omega))
      (.cons (printable_hexDigit (by omega)) printable_nil)))))

theorem printable_escapePoint (point : CodePoint) : Printable (escapePoint point) := by
  have within := point.isLt
  have short : ∀ entry ∈ shortEscapes, 0x20 ≤ entry.2.val ∧ entry.2.val ≤ 0x7E :=
    List.forall_iff_forall_mem.mp (by decide)
  have marks : 0x20 ≤ backslash.val ∧ backslash.val ≤ 0x7E := by decide
  unfold escapePoint
  split
  · rename_i mark found
    obtain ⟨first, second, split, -⟩ := List.lookup_eq_some_iff.mp found
    have member : (point, mark) ∈ shortEscapes := split ▸ List.mem_append_right _ List.mem_cons_self
    exact .cons marks (.cons (short _ member) printable_nil)
  · split
    · rename_i visible
      obtain ⟨low, high⟩ := Bool.and_eq_true_iff.mp visible
      exact .cons ⟨of_decide_eq_true low, of_decide_eq_true high⟩ printable_nil
    · split
      · rename_i small
        exact printable_escapeUnit small
      · exact (printable_escapeUnit (by omega)).append (printable_escapeUnit (by omega))

theorem printable_quoted (content : Text) : Printable (quoted content) := by
  have marks : 0x20 ≤ quote.val ∧ quote.val ≤ 0x7E := by decide
  refine .cons marks (Printable.append (fun point member => ?_) (.cons marks printable_nil))
  obtain ⟨source, -, escaped⟩ := List.mem_flatMap.mp member
  exact printable_escapePoint source point escaped

theorem printable_decimal (value : ℤ) : Printable (decimal value) := by
  have natural : ∀ magnitude : ℕ, Printable (decimal (magnitude : ℕ)) := by
    intro magnitude point member
    obtain ⟨low, high⟩ := isDigit_of_mem_decimal member
    omega
  obtain ⟨magnitude, rfl | rfl⟩ := Int.eq_nat_or_neg value
  · exact natural magnitude
  · obtain rfl | positive := Nat.eq_zero_or_pos magnitude
    · exact natural 0
    · rw [decimal_neg positive]
      exact .cons (by decide) (natural magnitude)

theorem join_cons (part next : Text) (parts : List Text) :
    Text.join (text ", ") (part :: next :: parts) =
      part ++ comma :: 0x20 :: Text.join (text ", ") (next :: parts) := rfl

theorem printable_join {parts : List Text} (each : ∀ part ∈ parts, Printable part) :
    Printable (Text.join (text ", ") parts) := by
  induction parts with
  | nil => exact printable_nil
  | cons part parts inductionHypothesis =>
    have here := each part List.mem_cons_self
    have later := inductionHypothesis fun other member => each other (List.mem_cons_of_mem _ member)
    cases parts with
    | nil =>
      have whole : Text.join (text ", ") [part] = part := List.append_nil part
      rw [whole]
      exact here
    | cons next parts =>
      rw [join_cons]
      exact here.append (.cons (by decide) (.cons (by decide) later))

theorem printable_repr {floats : FloatText} {value : ℚ} (restores : floats.Restores value) :
    Printable (floats.repr value) := by
  intro point member
  have numeric := restores.2 point member
  simp only [isNumeric, isDigit, List.contains_cons, List.contains_nil, Bool.or_false,
    Bool.or_eq_true, Bool.and_eq_true, decide_eq_true_eq, beq_iff_eq] at numeric
  omega

/-! ### Containers -/

/-- The text starts with nothing that is skipped, and closes no container. -/
def Opens (written : Text) : Prop :=
  ∃ point rest, written = point :: rest ∧ isBlank point = false ∧ point ≠ closeBracket ∧
    point ≠ closeBrace ∧ point ≠ 0xFEFF

/-- The text is visible ASCII, and is read as the value before anything that cannot go on with a
number. -/
def ReadAs {Value : Type} (scan : Text → Scan Value) (written : Text) (value : Value) : Prop :=
  Opens written ∧ Printable written ∧ ∀ rest, Ends rest → scan (written ++ rest) = .ok (value, rest)

theorem skipBlank_opens {written : Text} (opens : Opens written) (rest : Text) :
    skipBlank (written ++ rest) = written ++ rest := by
  obtain ⟨point, more, rfl, solid, -⟩ := opens
  exact List.dropWhile_cons_of_neg (ne_of_eq_of_ne solid Bool.false_ne_true)

theorem opens_join {part : Text} (opens : Opens part) (parts : List Text) :
    Opens (Text.join (text ", ") (part :: parts)) := by
  obtain ⟨point, more, rfl, solid⟩ := opens
  cases parts with
  | nil => exact ⟨point, _, rfl, solid⟩
  | cons next parts => exact ⟨point, _, rfl, solid⟩

/-- What closes a container. -/
structure Closes (close : CodePoint) : Prop where
  ends : isNumeric close = false
  solid : isBlank close = false
  notComma : comma ≠ close
  opens : ∀ written, Opens written → written.head? ≠ some close

theorem closes_closeBracket : Closes closeBracket where
  ends := by decide
  solid := by decide
  notComma := by decide
  opens := by
    rintro _ ⟨point, rest, rfl, -, other, -⟩ same
    exact other (Option.some.inj same)

theorem closes_closeBrace : Closes closeBrace where
  ends := by decide
  solid := by decide
  notComma := by decide
  opens := by
    rintro _ ⟨point, rest, rfl, -, -, other, -⟩ same
    exact other (Option.some.inj same)

theorem skipBlank_solid {point : CodePoint} (solid : isBlank point = false) (rest : Text) :
    skipBlank (point :: rest) = point :: rest :=
  List.dropWhile_cons_of_neg (ne_of_eq_of_ne solid Bool.false_ne_true)

/-- An item that is the last. -/
theorem scanList_last {Value : Type} {close : CodePoint} {scan : Text → Scan Value} {part rest : Text}
    {value : Value} (closes : Closes close) (read : ReadAs scan part value) (fuel : ℕ) :
    scanList close scan (fuel + 1) (part ++ close :: rest) = .ok ([value], rest) := by
  have scanned := read.2.2 (close :: rest) (ends_cons closes.ends rest)
  rw [scanList, scanned]
  dsimp only [bind, Except.bind]
  rw [skipBlank_solid closes.solid]
  exact if_pos rfl

/-- An item after which others come. -/
theorem scanList_next {Value : Type} {close : CodePoint} {scan : Text → Scan Value} {part : Text}
    {value : Value} {values : List Value} {more rest : Text} {fuel : ℕ} (closes : Closes close)
    (read : ReadAs scan part value) (solid : skipBlank more = more)
    (later : scanList close scan fuel more = .ok (values, rest)) :
    scanList close scan (fuel + 1) (part ++ comma :: 0x20 :: more) = .ok (value :: values, rest) := by
  have scanned := read.2.2 (comma :: 0x20 :: more) (ends_cons (by decide) _)
  have blank : skipBlank (0x20 :: more) = skipBlank more := List.dropWhile_cons_of_pos (by decide)
  rw [scanList, scanned]
  dsimp only [bind, Except.bind]
  rw [skipBlank_solid (by decide)]
  dsimp only
  rw [if_neg closes.notComma, if_pos rfl, blank, solid, later]

/-- The items are read one after the other, up to what closes the container. -/
theorem scanList_written {Value : Type} {close : CodePoint} {scan : Text → Scan Value}
    {parts : List Text} {values : List Value} (closes : Closes close)
    (read : List.Forall₂ (ReadAs scan) parts values) (present : parts ≠ []) (rest : Text) :
    ∀ fuel, parts.length ≤ fuel →
      scanList close scan fuel (Text.join (text ", ") parts ++ close :: rest) = .ok (values, rest) := by
  induction read with
  | nil => exact absurd rfl present
  | @cons part value parts values here later inductionHypothesis =>
    intro fuel enough
    cases fuel with
    | zero => cases enough
    | succ fuel =>
      cases later with
      | nil =>
        have whole : Text.join (text ", ") [part] = part := List.append_nil part
        rw [whole]
        exact scanList_last closes here fuel
      | @cons next _ more _ readNext _ =>
        have scanned := inductionHypothesis (List.cons_ne_nil _ _) fuel (Nat.le_of_succ_le_succ enough)
        rw [join_cons, List.append_assoc]
        exact scanList_next closes here (skipBlank_opens (opens_join readNext.1 more) _) scanned

theorem length_le_join {parts : List Text} (opens : ∀ part ∈ parts, Opens part) :
    parts.length ≤ (Text.join (text ", ") parts).length := by
  induction parts with
  | nil => exact Nat.zero_le _
  | cons part parts inductionHypothesis =>
    obtain ⟨point, more, rfl, -⟩ := opens part List.mem_cons_self
    cases parts with
    | nil => exact Nat.succ_le_succ (Nat.zero_le _)
    | cons next parts =>
      have later := inductionHypothesis fun other member =>
        opens other (List.mem_cons_of_mem _ member)
      rw [join_cons]
      simp only [List.length_append, List.length_cons] at later ⊢
      omega

theorem each_of_readAs {Value : Type} {scan : Text → Scan Value} {parts : List Text}
    {values : List Value} (read : List.Forall₂ (ReadAs scan) parts values) :
    (∀ part ∈ parts, Opens part) ∧ ∀ part ∈ parts, Printable part := by
  induction read with
  | nil => exact ⟨List.forall_mem_nil _, List.forall_mem_nil _⟩
  | cons here _ inductionHypothesis =>
    exact ⟨List.forall_mem_cons.mpr ⟨here.1, inductionHypothesis.1⟩,
      List.forall_mem_cons.mpr ⟨here.2.1, inductionHypothesis.2⟩⟩

/-- What a container holds is read back. -/
theorem scanContents_written {Value : Type} {close : CodePoint} {scan : Text → Scan Value}
    {parts : List Text} {values : List Value} (closes : Closes close)
    (read : List.Forall₂ (ReadAs scan) parts values) (rest : Text) :
    scanContents close scan (Text.join (text ", ") parts ++ close :: rest) = .ok (values, rest) := by
  cases read with
  | nil =>
    show scanContents close scan (close :: rest) = _
    rw [scanContents, skipBlank_solid closes.solid]
    exact if_pos rfl
  | @cons part value parts values here later =>
    have whole := scanList_written closes (.cons here later) (List.cons_ne_nil _ _) rest
    have all := (each_of_readAs (.cons here later)).1
    have opens := opens_join here.1 parts
    have enough := length_le_join all
    rw [scanContents, skipBlank_opens opens]
    obtain ⟨point, more, same, -⟩ := id opens
    have notClose : ¬ point = close := fun isClose => closes.opens _ opens (by rw [same, isClose]; rfl)
    rw [same] at whole enough ⊢
    show (if point = close then _ else _) = _
    rw [if_neg notClose]
    exact whole _ (le_trans enough (List.sublist_append_left (point :: more) _).length_le)

/-! ### Values -/

/-- Where each item is read back from what is written of it, they all are. -/
theorem exists_readAs {Item Value : Type} {write : Item → Option Text} {scan : Text → Scan Value}
    {same : Item → Value → Prop} {items : List Item} {parts : List Text}
    (written : items.mapM write = some parts)
    (each : ∀ item ∈ items, ∀ part, write item = some part →
      ∃ value, same item value ∧ ReadAs scan part value) :
    ∃ values, List.Forall₂ same items values ∧ List.Forall₂ (ReadAs scan) parts values := by
  induction items generalizing parts with
  | nil =>
    cases written
    exact ⟨[], .nil, .nil⟩
  | cons item rest inductionHypothesis =>
    rw [List.mapM_cons] at written
    obtain ⟨part, here, written⟩ := Option.bind_eq_some_iff.mp written
    obtain ⟨more, later, written⟩ := Option.bind_eq_some_iff.mp written
    cases written
    obtain ⟨value, sameValue, read⟩ := each item List.mem_cons_self part here
    obtain ⟨values, sameValues, reads⟩ := inductionHypothesis later fun other member =>
      each other (List.mem_cons_of_mem _ member)
    exact ⟨value :: values, .cons sameValue sameValues, .cons read reads⟩

/-- Where each item is read back as itself. -/
theorem readAs_items {Item : Type} {write : Item → Option Text} {scan : Text → Scan Item}
    {items : List Item} {parts : List Text} (written : items.mapM write = some parts)
    (each : ∀ item ∈ items, ∀ part, write item = some part → ReadAs scan part item) :
    List.Forall₂ (ReadAs scan) parts items := by
  have found : ∃ values, List.Forall₂ Eq items values ∧ List.Forall₂ (ReadAs scan) parts values :=
    exists_readAs written fun item member part here => ⟨item, rfl, each item member part here⟩
  obtain ⟨values, same, read⟩ := found
  rw [List.forall₂_eq_eq_eq] at same
  exact same ▸ read

/-- What starts a value decides how it is read, however many containers may still be entered. -/
theorem scanOnce_eq (floats : FloatText) (limit : ℕ) :
    ∃ object array, scanOnce floats limit = scanValue floats object array := by
  cases limit with
  | zero => exact ⟨_, _, rfl⟩
  | succ limit => exact ⟨_, _, rfl⟩

theorem val_isDigit {point : CodePoint} (digit : isDigit point = true) :
    0x30 ≤ point.val ∧ point.val ≤ 0x39 := by
  obtain ⟨low, high⟩ := Bool.and_eq_true_iff.mp digit
  exact ⟨of_decide_eq_true low, of_decide_eq_true high⟩

theorem readAs_number {floats : FloatText} {written : Text} {value : Json} (limit : ℕ)
    (scanned : scanNumber floats written = .ok (value, [])) (printable : Printable written) :
    ReadAs (scanOnce floats limit) written value := by
  have start := scanNumber_start scanned
  obtain ⟨point, more, rfl, start⟩ := start
  have bounds : point.val = 0x2D ∨ 0x30 ≤ point.val ∧ point.val ≤ 0x39 := by
    obtain digit | ⟨rfl, -⟩ := start
    · exact Or.inr (val_isDigit digit)
    · exact Or.inl rfl
  have apart (other : CodePoint) (outside : other.val ≠ 0x2D ∧ ¬ (0x30 ≤ other.val ∧ other.val ≤ 0x39)) :
      point ≠ other := by
    rintro rfl
    exact bounds.elim outside.1 outside.2
  refine ⟨⟨point, more, rfl, ?_, apart _ (by decide), apart _ (by decide), apart _ (by decide)⟩,
    printable, fun rest ends => ?_⟩
  · simp only [isBlank, List.contains_cons, List.contains_nil, Bool.or_false, Bool.or_eq_false_iff,
      beq_eq_false_iff_ne, ne_eq]
    omega
  · obtain ⟨object, array, same⟩ := scanOnce_eq floats limit
    rw [same]
    show (if point = quote then _ else _) = _
    rw [if_neg (apart _ (by decide)), if_neg (apart _ (by decide)), if_neg (apart _ (by decide))]
    exact scanAtom_number ends scanned

theorem readAs_quoted {floats : FloatText} {content : Text} (limit : ℕ) (unpaired : Unpaired content) :
    ReadAs (scanOnce floats limit) (quoted content) (.str content) := by
  refine ⟨⟨quote, _, rfl, by decide, by decide, by decide, by decide⟩, printable_quoted content,
    fun rest _ => ?_⟩
  obtain ⟨object, array, same⟩ := scanOnce_eq floats limit
  have whole : quoted content ++ rest = quote :: (content.flatMap escapePoint ++ quote :: rest) := by
    rw [quoted, List.append_assoc, List.cons_append]
    rfl
  rw [same, whole, scanValue, if_pos rfl, scanString_quoted unpaired]
  rfl

theorem readAs_constant {floats : FloatText} {written : Text} {value : Json} (limit : ℕ)
    (member : (written, value) ∈ constants) : ReadAs (scanOnce floats limit) written value := by
  obtain ⟨object, array, same⟩ := scanOnce_eq floats limit
  rw [same]
  simp only [constants, List.mem_cons, List.not_mem_nil, or_false, Prod.mk.injEq] at member
  rcases member with ⟨rfl, rfl⟩ | ⟨rfl, rfl⟩ | ⟨rfl, rfl⟩ | ⟨rfl, rfl⟩ | ⟨rfl, rfl⟩ | ⟨rfl, rfl⟩ <;>
    exact ⟨⟨_, _, rfl, by decide, by decide, by decide, by decide⟩, printable_of_all (by decide),
      fun rest _ => rfl⟩

theorem readAs_array {floats : FloatText} {limit : ℕ} {parts : List Text} {values : List Json}
    (read : List.Forall₂ (ReadAs (scanOnce floats limit)) parts values) :
    ReadAs (scanOnce floats (limit + 1)) (openBracket :: Text.join (text ", ") parts ++ [closeBracket])
      (.arr values) := by
  have printable := printable_join (each_of_readAs read).2
  refine ⟨⟨openBracket, _, rfl, by decide, by decide, by decide, by decide⟩,
    .cons (by decide) (printable.append (.cons (by decide) printable_nil)), fun rest _ => ?_⟩
  have notQuote : ¬ openBracket = quote := by decide
  have notBrace : ¬ openBracket = openBrace := by decide
  rw [List.cons_append, List.cons_append, List.append_assoc, scanOnce, scanValue, if_neg notQuote,
    if_neg notBrace, if_pos rfl, scanArray]
  show (scanContents closeBracket _ (_ ++ closeBracket :: rest)).map _ = _
  rw [scanContents_written closes_closeBracket read]
  rfl

theorem readAs_entry {scan : Text → Scan Json} {key written : Text} {value : Json}
    (unpaired : Unpaired key) (read : ReadAs scan written value) :
    ReadAs (scanEntry scan) (writeEntry key written) (key, value) := by
  have printable : Printable (writeEntry key written) :=
    ((printable_quoted key).append (.cons (by decide) (.cons (by decide) printable_nil))).append
      read.2.1
  refine ⟨⟨quote, _, rfl, by decide, by decide, by decide, by decide⟩, printable,
    fun rest ends => ?_⟩
  have whole : writeEntry key written ++ rest =
      quote :: (key.flatMap escapePoint ++ quote :: colon :: 0x20 :: (written ++ rest)) := by
    simp only [writeEntry, quoted, List.append_assoc, List.cons_append]
    rfl
  have blank : skipBlank (0x20 :: (written ++ rest)) = written ++ rest :=
    (List.dropWhile_cons_of_pos (by decide)).trans (skipBlank_opens read.1 rest)
  have keyed : scanKey (writeEntry key written ++ rest) = .ok (key, 0x20 :: (written ++ rest)) := by
    rw [whole, scanKey, if_pos rfl, scanString_quoted unpaired]
    dsimp only [bind, Except.bind]
    rw [skipBlank_solid (by decide)]
    exact if_pos rfl
  rw [scanEntry, keyed]
  dsimp only [bind, Except.bind]
  rw [blank, read.2.2 rest ends]

theorem readAs_object {floats : FloatText} {limit : ℕ} {parts : List Text}
    {entries : List (Text × Json)} (distinct : (entries.map Prod.fst).Nodup)
    (read : List.Forall₂ (ReadAs (scanEntry (scanOnce floats limit))) parts entries) :
    ReadAs (scanOnce floats (limit + 1)) (openBrace :: Text.join (text ", ") parts ++ [closeBrace])
      (.obj entries) := by
  have printable := printable_join (each_of_readAs read).2
  refine ⟨⟨openBrace, _, rfl, by decide, by decide, by decide, by decide⟩,
    .cons (by decide) (printable.append (.cons (by decide) printable_nil)), fun rest _ => ?_⟩
  have notQuote : ¬ openBrace = quote := by decide
  have filled : Dictionary.fill [] entries = [] ++ entries := Dictionary.fill_of_nodup distinct
  rw [List.cons_append, List.cons_append, List.append_assoc, scanOnce, scanValue, if_neg notQuote,
    if_pos rfl, scanObject]
  show (scanContents closeBrace _ (_ ++ closeBrace :: rest)).map _ = _
  rw [scanContents_written closes_closeBrace read]
  show Except.ok (Json.obj (Dictionary.fill [] entries), rest) = _
  rw [filled, List.nil_append]

/-- The floats that are not finite are written as one of the constants. -/
def NamesConstants (nonFinite : Float64 → Text) : Prop :=
  ∀ value : Float64, (∀ number, value ≠ .finite number) → (nonFinite value, .float value) ∈ constants

/-- The names of the floats that are not finite, a negative infinity aside. -/
def constantName : Float64 → Text
  | .notANumber => text "NaN"
  | _ => text "Infinity"

theorem namesConstants_constantName : NamesConstants constantName := by
  intro value notFinite
  cases value with
  | finite number => exact absurd rfl (notFinite number)
  | infinite => simp [constantName, constants]
  | notANumber => simp [constantName, constants]

/-- A value that is no container is read back as it is. -/
theorem readAs_leaf {floats : FloatText} {nonFinite : Float64 → Text} {limit : ℕ} {value : Json}
    {written : Text} (named : NamesConstants nonFinite) (restorable : Restorable floats value)
    (dumped : write floats nonFinite limit value = some written)
    (noArray : ∀ items, value ≠ .arr items) (noObject : ∀ entries, value ≠ .obj entries) :
    ReadAs (scanOnce floats limit) written value := by
  cases restorable with
  | null =>
    rw [write] at dumped
    cases dumped
    exact readAs_constant limit (by simp [constants])
  | bool value =>
    rw [write] at dumped
    cases dumped
    cases value <;> exact readAs_constant limit (by simp [constants])
  | int value =>
    rw [write] at dumped
    split at dumped
    · cases dumped
    · rename_i few
      cases dumped
      exact readAs_number limit (scanNumber_decimal (Nat.le_of_not_lt few)) (printable_decimal value)
  | float restores =>
    rw [write] at dumped
    cases dumped
    exact readAs_number limit restores.1 (printable_repr restores)
  | infinite =>
    rw [write] at dumped
    · cases dumped
      exact readAs_constant limit (named .infinite nofun)
    · exact nofun
  | notANumber =>
    rw [write] at dumped
    · cases dumped
      exact readAs_constant limit (named .notANumber nofun)
    · exact nofun
  | str unpaired =>
    rw [write] at dumped
    cases dumped
    exact readAs_quoted limit unpaired
  | arr => exact absurd rfl (noArray _)
  | obj => exact absurd rfl (noObject _)

/-- What `json.dumps` writes without sorting keys is read back as the very value. -/
theorem readAs_write {floats : FloatText} {nonFinite : Float64 → Text} {limit : ℕ} {value : Json}
    {written : Text} (named : NamesConstants nonFinite) (restorable : Restorable floats value)
    (dumped : write floats nonFinite limit value = some written) :
    ReadAs (scanOnce floats limit) written value := by
  induction limit generalizing value written with
  | zero =>
    refine readAs_leaf named restorable dumped ?_ ?_
    · rintro items rfl
      cases dumped
    · rintro entries rfl
      cases dumped
  | succ limit inductionHypothesis =>
    by_cases array : ∃ items, value = .arr items
    · obtain ⟨items, rfl⟩ := array
      cases restorable with
      | arr each =>
        obtain ⟨parts, listed, rfl⟩ := Option.map_eq_some_iff.mp dumped
        exact readAs_array (readAs_items listed fun item member part written =>
          inductionHypothesis (each item member) written)
    by_cases object : ∃ entries, value = .obj entries
    · obtain ⟨entries, rfl⟩ := object
      cases restorable with
      | obj distinct keys each =>
        obtain ⟨parts, listed, rfl⟩ := Option.map_eq_some_iff.mp dumped
        refine readAs_object distinct (readAs_items listed fun entry member part written => ?_)
        obtain ⟨value, dumpedValue, rfl⟩ := Option.map_eq_some_iff.mp written
        exact readAs_entry (keys entry member) (inductionHypothesis (each entry member) dumpedValue)
    · exact readAs_leaf named restorable dumped (fun items same => array ⟨items, same⟩)
        fun entries same => object ⟨entries, same⟩

/-- `json.loads(json.dumps(value))` is the value. -/
theorem loads_write {floats : FloatText} {nonFinite : Float64 → Text} {limit : ℕ} {value : Json}
    {written : Text} (named : NamesConstants nonFinite) (restorable : Restorable floats value)
    (dumped : write floats nonFinite limit value = some written) :
    Printable written ∧ loads floats limit written = .ok value := by
  obtain ⟨opens, printable, read⟩ := readAs_write named restorable dumped
  have scanned := read [] ends_nil
  have skipped := skipBlank_opens opens []
  rw [List.append_nil] at scanned skipped
  obtain ⟨point, rest, rfl, -, -, -, notMark⟩ := opens
  have noMark : ¬ (point :: rest).head? = some 0xFEFF := fun mark => notMark (Option.some.inj mark)
  refine ⟨printable, ?_⟩
  rw [loads, if_neg noMark, skipped, scanned]
  rfl

end JsonText

end LocalGpuCluster
