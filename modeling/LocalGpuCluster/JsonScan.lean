/-
This file proves what the scanner of `json.loads` makes of the end of its input. Each value takes a
character at least, so that the bound on the items of a container is never what ends it. What cannot
go on with a number does not change one before it, and a line feed at the end changes nothing at all:
a line is read as the same value with its end and without it.
-/

import LocalGpuCluster.JsonText
import Mathlib.Data.List.Find

namespace LocalGpuCluster

namespace JsonText

/-- What was read, with more text after it. -/
def leaving {Value : Type} (more : Text) (scanned : Scan Value) : Scan Value :=
  scanned.map fun found => (found.1, found.2 ++ more)

/-! ### Strings -/

/-- Pieces put before what is read. -/
def before (pieces : List Piece) (scanned : Scan (List Piece)) : Scan (List Piece) :=
  scanned.map fun more => (pieces ++ more.1, more.2)

alias scanPieces_eq := scanPieces.eq_def

theorem scanPieces_quote (rest : Text) : scanPieces (quote :: rest) = .ok ([], rest) := by
  rw [scanPieces_eq]
  exact if_pos rfl

theorem scanPieces_plain {point : CodePoint} (notQuote : point ≠ quote)
    (notBackslash : point ≠ backslash) (visible : ¬ point.val ≤ 0x1F) (rest : Text) :
    scanPieces (point :: rest) = before [.plain point] (scanPieces rest) := by
  rw [scanPieces_eq]
  dsimp only
  rw [if_neg notQuote, if_neg notBackslash, if_neg visible]
  rfl

theorem scanPieces_escape {mark meant : CodePoint} (notUnit : mark ≠ 0x75)
    (found : escapes.lookup mark = some meant) (rest : Text) :
    scanPieces (backslash :: mark :: rest) = before [.plain meant] (scanPieces rest) := by
  have notQuote : ¬ backslash = quote := by decide
  rw [scanPieces_eq]
  dsimp only
  rw [if_neg notQuote, if_pos rfl, if_neg notUnit, found]
  rfl

theorem scanPieces_unit {first second third fourth : CodePoint} {value : ℕ}
    (named : unitOf first second third fourth = some value) (rest : Text) :
    scanPieces (backslash :: 0x75 :: first :: second :: third :: fourth :: rest) =
      before [.unit value] (scanPieces rest) := by
  have notQuote : ¬ backslash = quote := by decide
  rw [scanPieces_eq]
  dsimp only
  rw [if_neg notQuote, if_pos rfl, if_pos rfl, named]
  rfl

/-- A code point that a number may hold. -/
def isNumeric (point : CodePoint) : Bool :=
  isDigit point || [0x2E, 0x65, 0x45, 0x2D, 0x2B].contains point.val

/-- The text cannot go on with a number. -/
def Ends (rest : Text) : Prop := ∀ point ∈ rest.head?, isNumeric point = false

theorem ends_nil : Ends [] := fun _ member => absurd member (Option.not_mem_none _)

theorem ends_cons {point : CodePoint} (other : isNumeric point = false) (rest : Text) :
    Ends (point :: rest) := by
  intro first member
  cases member
  exact other

theorem Ends.takeWhile {rest : Text} (ends : Ends rest) : rest.takeWhile isDigit = [] := by
  cases rest with
  | nil => rfl
  | cons point more =>
    have other := (Bool.or_eq_false_iff.mp (ends point rfl)).1
    exact List.takeWhile_cons_of_neg (ne_of_eq_of_ne other Bool.false_ne_true)

theorem takeWhile_append_of_ends {rest : Text} (ends : Ends rest) (input : Text) :
    (input ++ rest).takeWhile isDigit = input.takeWhile isDigit := by
  rw [List.takeWhile_append, ends.takeWhile, List.append_nil]
  split
  · rename_i whole
    exact ((List.takeWhile_prefix isDigit).eq_of_length whole).symm
  · rfl

theorem wholeOf_append {rest : Text} (ends : Ends rest) (input : Text) :
    wholeOf (input ++ rest) = wholeOf input := by
  unfold wholeOf
  cases input with
  | nil =>
    have notZero : ¬ rest.head? = some 0x30 := fun zero => absurd (ends 0x30 zero) (by decide)
    rw [List.nil_append, if_neg notZero]
    exact ends.takeWhile
  | cons point more =>
    rw [takeWhile_append_of_ends ends]
    rfl

theorem fractionOf_append {rest : Text} (ends : Ends rest) (input : Text) :
    fractionOf (input ++ rest) = fractionOf input := by
  match input with
  | [] =>
    match rest with
    | [] => rfl
    | [_] => rfl
    | point :: digit :: more =>
      have other := ends point rfl
      refine if_neg fun both => ?_
      simp [isNumeric, of_decide_eq_true (Bool.and_eq_true_iff.mp both).1] at other
  | [point] =>
    match rest with
    | [] => rfl
    | digit :: more =>
      have other := ends digit rfl
      refine if_neg fun both => ?_
      simp [isNumeric, (Bool.and_eq_true_iff.mp both).2] at other
  | point :: digit :: more =>
    show (if _ then point :: (digit :: more ++ rest).takeWhile isDigit else []) = _
    rw [takeWhile_append_of_ends ends]
    rfl

theorem signOf_append {rest : Text} (ends : Ends rest) (input : Text) :
    signOf (input ++ rest) = signOf input := by
  cases input with
  | nil =>
    cases rest with
    | nil => rfl
    | cons point more =>
      have other := ends point rfl
      refine List.filter_cons_of_neg fun sign => ?_
      obtain minus | plus := Bool.or_eq_true_iff.mp sign
      · simp [isNumeric, of_decide_eq_true minus] at other
      · simp [isNumeric, of_decide_eq_true plus] at other
  | cons point more => rfl

theorem length_signOf_le (input : Text) : (signOf input).length ≤ input.length :=
  le_trans (List.length_filter_le _ _) (List.length_take_le' _ _)

theorem exponentOf_append {rest : Text} (ends : Ends rest) (input : Text) :
    exponentOf (input ++ rest) = exponentOf input := by
  cases input with
  | nil =>
    cases rest with
    | nil => rfl
    | cons mark more =>
      have other := ends mark rfl
      refine if_neg fun both => ?_
      obtain lower | upper := Bool.or_eq_true_iff.mp (Bool.and_eq_true_iff.mp both).1
      · simp [isNumeric, of_decide_eq_true lower] at other
      · simp [isNumeric, of_decide_eq_true upper] at other
  | cons mark more =>
    show exponentOf (mark :: (more ++ rest)) = exponentOf (mark :: more)
    unfold exponentOf
    dsimp only
    rw [signOf_append ends, List.drop_append_of_le_length (length_signOf_le more),
      takeWhile_append_of_ends ends]

theorem length_fractionOf_le (input : Text) : (fractionOf input).length ≤ input.length := by
  unfold fractionOf
  split
  · split
    · exact Nat.succ_le_succ (List.takeWhile_prefix isDigit).length_le
    · exact Nat.zero_le _
  · exact Nat.zero_le _

theorem length_exponentOf_le (input : Text) : (exponentOf input).length ≤ input.length := by
  unfold exponentOf
  split
  · rename_i mark rest
    dsimp only
    split
    · have sign := length_signOf_le rest
      have digits := (List.takeWhile_prefix (l := rest.drop (signOf rest).length) isDigit).length_le
      rw [List.length_drop] at digits
      rw [List.cons_append, List.length_cons, List.length_append, List.length_cons]
      omega
    · exact Nat.zero_le _
  · exact Nat.zero_le _

theorem length_wholeOf_le (input : Text) : (wholeOf input).length ≤ input.length := by
  unfold wholeOf
  split
  · exact List.length_take_le' _ _
  · exact (List.takeWhile_prefix isDigit).length_le

/-- A number is the same before anything it cannot go on with. -/
theorem scanUnsigned_append {rest : Text} (ends : Ends rest) (floats : FloatText) (sign input : Text) :
    scanUnsigned floats sign (input ++ rest) = leaving rest (scanUnsigned floats sign input) := by
  have whole := length_wholeOf_le input
  have fraction := length_fractionOf_le (input.drop (wholeOf input).length)
  have exponent := length_exponentOf_le
    (input.drop ((wholeOf input).length + (fractionOf (input.drop (wholeOf input).length)).length))
  rw [List.length_drop] at fraction exponent
  unfold scanUnsigned
  dsimp only
  rw [wholeOf_append ends, List.drop_append_of_le_length whole, fractionOf_append ends,
    List.drop_append_of_le_length (by omega), exponentOf_append ends,
    List.drop_append_of_le_length (by omega)]
  split
  · rfl
  · split
    · split <;> rfl
    · rfl

theorem scanUnsigned_of_wholeOf {floats : FloatText} {sign input : Text} (none : wholeOf input = []) :
    scanUnsigned floats sign input = .error .decode := by
  unfold scanUnsigned
  exact if_pos none

theorem scanNumber_append {rest : Text} (ends : Ends rest) (floats : FloatText) (input : Text) :
    scanNumber floats (input ++ rest) = leaving rest (scanNumber floats input) := by
  cases input with
  | nil =>
    cases rest with
    | nil => rfl
    | cons point more =>
      have notMinus : ¬ point = minus := by
        rintro rfl
        exact absurd (ends minus rfl) (by decide)
      have none : wholeOf ([] ++ point :: more) = wholeOf [] := wholeOf_append ends []
      show (if point = minus then _ else _) = _
      rw [if_neg notMinus]
      exact scanUnsigned_of_wholeOf none
  | cons point more =>
    show (if point = minus then _ else _) = leaving rest (if point = minus then _ else _)
    split
    · exact scanUnsigned_append ends floats _ more
    · exact scanUnsigned_append ends floats _ (point :: more)

/-! ### A line feed at the end -/

/-- A line feed at the end is left over, and changes nothing else. -/
def Trails {Value : Type} (scan : Text → Scan Value) : Prop :=
  ∀ input, scan (input ++ newline) = leaving newline (scan input)

/-- What is read takes a character at least, and a line feed at the end is left over. -/
structure Advances {Value : Type} (scan : Text → Scan Value) : Prop where
  shrinks : ∀ input found, scan input = .ok found → found.2.length < input.length
  trails : Trails scan

/-- What every scanner does; an empty text holds no value. -/
structure Scans {Value : Type} (scan : Text → Scan Value) : Prop extends Advances scan where
  empty : scan [] = .error .decode

theorem Scans.of_map {Value Other : Type} {scan : Text → Scan Value} (scans : Scans scan)
    (make : Value → Other) :
    Scans fun input => (scan input).map fun found => (make found.1, found.2) where
  empty := by rw [scans.empty]; rfl
  shrinks input found scanned := by
    cases inner : scan input with
    | error raised =>
      rw [inner] at scanned
      cases scanned
    | ok more =>
      rw [inner] at scanned
      cases scanned
      exact scans.shrinks input more inner
  trails input := by
    show (scan (input ++ newline)).map _ = leaving newline ((scan input).map _)
    rw [scans.trails input]
    cases scan input <;> rfl

end JsonText

end LocalGpuCluster
