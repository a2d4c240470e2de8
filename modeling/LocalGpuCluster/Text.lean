/-
This file holds strings as Python has them: sequences of code points in which a lone surrogate
is a code point like any other. `json.loads` produces such strings, `encode("utf-8")` raises on
them, and a regular expression sees nothing special in them, so the type has to keep them.
The string methods here are the ones the verified code calls, on all code points. Decoding bytes
gives no surrogates, and never raises where the code asks for replacement.
-/

import Mathlib.Algebra.Ring.Int.Defs
import Mathlib.Algebra.Ring.Nat
import Mathlib.Data.List.Basic
import Mathlib.Data.List.Lex
import Mathlib.Order.Fin.Basic

namespace LocalGpuCluster

/-- A code point, surrogates included. -/
abbrev CodePoint := Fin 0x110000

instance CodePoint.neZero : NeZero 0x110000 := ⟨Nat.succ_ne_zero _⟩

instance CodePoint.lawfulBEq : LawfulBEq CodePoint := inferInstance

/-- A Python `str`. -/
abbrev Text := List CodePoint

instance Text.lawfulBEq : LawfulBEq Text := inferInstance

/-- A string literal. -/
def text (literal : String) : Text :=
  literal.toList.map fun character => Fin.ofNat 0x110000 character.toNat

namespace CodePoint

/-- A code point of the surrogate range, which `encode("utf-8")` refuses. -/
def isSurrogate (point : CodePoint) : Bool := 0xD800 ≤ point.val && point.val ≤ 0xDFFF

/-- `str.isspace`, and what `strip` and `rstrip` remove. -/
def isSpace (point : CodePoint) : Bool :=
  0x9 ≤ point.val && point.val ≤ 0xD || 0x1C ≤ point.val && point.val ≤ 0x20 ||
    0x2000 ≤ point.val && point.val ≤ 0x200A ||
    [0x85, 0xA0, 0x1680, 0x2028, 0x2029, 0x202F, 0x205F, 0x3000].contains point.val

/-- Where `splitlines` breaks a line. -/
def isLineBreak (point : CodePoint) : Bool :=
  0xA ≤ point.val && point.val ≤ 0xD || 0x1C ≤ point.val && point.val ≤ 0x1E ||
    [0x85, 0x2028, 0x2029].contains point.val

/-- How many bytes `encode("utf-8", errors="replace")` gives a code point; a surrogate becomes
a question mark. -/
def utf8Length (point : CodePoint) : ℕ :=
  if point.isSurrogate then 1
  else if point.val < 0x80 then 1
  else if point.val < 0x800 then 2
  else if point.val < 0x10000 then 3
  else 4

/-- `str.lower` on ASCII. Outside ASCII only U+0130 and U+212A lower to something with an ASCII
letter in it, `i` with a dot above and `k`. -/
def asciiLower (point : CodePoint) : CodePoint :=
  if 0x41 ≤ point.val && point.val ≤ 0x5A then Fin.ofNat 0x110000 (point.val + 0x20) else point

/-- `str.upper` on ASCII. -/
def asciiUpper (point : CodePoint) : CodePoint :=
  if 0x61 ≤ point.val && point.val ≤ 0x7A then Fin.ofNat 0x110000 (point.val - 0x20) else point

/-- A lower case letter of a pattern matches under `re.IGNORECASE`, which folds two dotted or
dotless capitals to `i`, the long s to `s` and the Kelvin sign to `k`. -/
def foldsTo (letter point : CodePoint) : Bool :=
  point = letter || point.asciiLower = letter ||
    letter.val = 0x69 && (point.val = 0x130 || point.val = 0x131) ||
    letter.val = 0x73 && point.val = 0x17F || letter.val = 0x6B && point.val = 0x212A

/-- The first digit of each run of ten decimal digits; the mathematical digits are five runs. -/
def digitRuns : List ℕ :=
  [0x30, 0x660, 0x6F0, 0x7C0, 0x966, 0x9E6, 0xA66, 0xAE6, 0xB66, 0xBE6, 0xC66, 0xCE6, 0xD66, 0xDE6,
    0xE50, 0xED0, 0xF20, 0x1040, 0x1090, 0x17E0, 0x1810, 0x1946, 0x19D0, 0x1A80, 0x1A90, 0x1B50,
    0x1BB0, 0x1C40, 0x1C50, 0xA620, 0xA8D0, 0xA900, 0xA9D0, 0xA9F0, 0xAA50, 0xABF0, 0xFF10,
    0x104A0, 0x10D30, 0x11066, 0x110F0, 0x11136, 0x111D0, 0x112F0, 0x11450, 0x114D0, 0x11650,
    0x116C0, 0x11730, 0x118E0, 0x11950, 0x11C50, 0x11D50, 0x11DA0, 0x11F50, 0x16A60, 0x16AC0,
    0x16B50, 0x1D7CE, 0x1D7D8, 0x1D7E2, 0x1D7EC, 0x1D7F6, 0x1E140, 0x1E2F0, 0x1E4F0, 0x1E950,
    0x1FBF0]

/-- `\d`: the decimal digits of every script. -/
def isDecimal (point : CodePoint) : Bool :=
  digitRuns.any fun first => first ≤ point.val && point.val < first + 10

end CodePoint

namespace Text

/-- `encode("utf-8")` raises `UnicodeEncodeError`. -/
def hasSurrogate (content : Text) : Bool := content.any CodePoint.isSurrogate

/-- `len(content.encode("utf-8", errors="replace"))`. -/
def utf8Length (content : Text) : ℕ := (content.map CodePoint.utf8Length).sum

/-- `content.strip(edge)`, from the left. -/
def stripLeft (edge : CodePoint → Bool) (content : Text) : Text := content.dropWhile edge

/-- `content.strip(edge)`, from the right. -/
def stripRight (edge : CodePoint → Bool) (content : Text) : Text :=
  (content.reverse.dropWhile edge).reverse

/-- `content.strip()` when `edge` is `isSpace`, `content.strip(chars)` when it is membership. -/
def strip (edge : CodePoint → Bool) (content : Text) : Text := stripRight edge (stripLeft edge content)

/-- `content.rstrip()`. -/
def rstrip (content : Text) : Text := stripRight CodePoint.isSpace content

/-- `str.splitlines`, with the line read so far; a carriage return and a line feed make one
break, and a break at the end starts no further line. -/
def splitLinesFrom (current : Text) : Text → List Text
  | [] => if current = [] then [] else [current]
  | [point] => if point.isLineBreak then [current] else [current ++ [point]]
  | first :: second :: rest =>
      if first.isLineBreak then
        if first.val = 0xD && second.val = 0xA then current :: splitLinesFrom [] rest
        else current :: splitLinesFrom [] (second :: rest)
      else splitLinesFrom (current ++ [first]) (second :: rest)

def splitLines (content : Text) : List Text := splitLinesFrom [] content

/-- `content.split()`. -/
def words (content : Text) : List Text :=
  (content.splitOnP fun point => point.isSpace).filter (· ≠ [])

/-- `separator.join(parts)`. -/
def join (separator : Text) (parts : List Text) : Text := separator.intercalate parts

/-- `content.startswith(start)`. -/
def startsWith (content start : Text) : Bool := start.isPrefixOf content

/-- A phrase in lower case matches at the start of the text under `re.IGNORECASE`. -/
def phraseHere : Text → Text → Bool
  | [], _ => true
  | _ :: _, [] => false
  | letter :: letters, point :: rest => letter.foldsTo point && phraseHere letters rest

/-- `content.upper()` of a text in ASCII. -/
def upper (content : Text) : Text := content.map CodePoint.asciiUpper

/-- `content.lower()`, compared with an ASCII word that has no `k`. -/
def lower (content : Text) : Text := content.map CodePoint.asciiLower

/-- A part of a joined text is in the whole. -/
theorem infix_join {separator line : Text} {parts : List Text} (member : line ∈ parts) :
    line <:+: join separator parts := by
  unfold join
  induction parts with
  | nil => exact absurd member List.not_mem_nil
  | cons first rest inductionHypothesis =>
    cases rest with
    | nil =>
      have alone : separator.intercalate [first] = line := by
        rw [List.mem_singleton.mp member, List.intercalate_singleton]
      exact alone ▸ List.infix_rfl
    | cons second rest =>
      rw [List.intercalate_cons_cons]
      obtain rfl | inRest := List.mem_cons.mp member
      · exact ⟨[], separator ++ separator.intercalate (second :: rest), by simp⟩
      · exact (inductionHypothesis inRest).trans (List.suffix_append _ _).isInfix

theorem mem_join {separator : Text} {parts : List Text} {point : CodePoint}
    (member : point ∈ join separator parts) :
    point ∈ separator ∨ ∃ part ∈ parts, point ∈ part := by
  induction parts with
  | nil => cases member
  | cons part rest inductionHypothesis =>
    by_cases last : rest = []
    · rw [last] at member ⊢
      exact .inr ⟨part, List.mem_singleton_self part, by simpa [join] using member⟩
    · unfold join at member inductionHypothesis
      rw [List.intercalate_cons_of_ne_nil last, List.append_assoc, List.mem_append,
        List.mem_append] at member
      obtain here | between | below := member
      · exact .inr ⟨part, List.mem_cons_self, here⟩
      · exact .inl between
      · exact (inductionHypothesis below).imp_right fun ⟨other, inRest, inside⟩ =>
          ⟨other, List.mem_cons_of_mem _ inRest, inside⟩

/-- What ends in something that is not stripped stays when the end is stripped. -/
theorem infix_stripRight {edge : CodePoint → Bool} {part content : Text} {last : CodePoint}
    (stays : edge last = false) (within : part ++ [last] <:+: content) :
    part ++ [last] <:+: stripRight edge content := by
  obtain ⟨before, after, rfl⟩ := within
  have reversed : (before ++ (part ++ [last]) ++ after).reverse =
      after.reverse ++ last :: (before ++ part).reverse := by simp
  unfold stripRight
  rw [reversed, List.dropWhile_append]
  split
  · rw [List.dropWhile_cons_of_neg (by rw [stays]; decide)]
    exact ⟨before, [], by simp⟩
  · exact ⟨before, (after.reverse.dropWhile edge).reverse, by simp⟩

/-! ### Decoding -/

/-- A character of which only the first bytes are read: its bits so far, how many bytes are to
come, and the range the next one must be in. -/
structure Unfinished where
  bits : ℕ
  missing : ℕ
  low : ℕ
  high : ℕ

/-- What the first byte of a longer character begins. Overlong forms, surrogates and code points
past the last one are cut off by the range of the second byte. -/
def leadOf (byte : ℕ) : Option Unfinished :=
  if 0xC2 ≤ byte && byte ≤ 0xDF then some ⟨byte - 0xC0, 1, 0x80, 0xBF⟩
  else if byte = 0xE0 then some ⟨0, 2, 0xA0, 0xBF⟩
  else if byte = 0xED then some ⟨0xD, 2, 0x80, 0x9F⟩
  else if 0xE1 ≤ byte && byte ≤ 0xEF then some ⟨byte - 0xE0, 2, 0x80, 0xBF⟩
  else if byte = 0xF0 then some ⟨0, 3, 0x90, 0xBF⟩
  else if 0xF1 ≤ byte && byte ≤ 0xF3 then some ⟨byte - 0xF0, 3, 0x80, 0xBF⟩
  else if byte = 0xF4 then some ⟨4, 3, 0x80, 0x8F⟩
  else none

/-- What a byte outside a character gives, and what it begins. -/
def decodeStart (byte : ℕ) : Text × Option Unfinished :=
  if byte < 0x80 then ([Fin.ofNat 0x110000 byte], none)
  else
    match leadOf byte with
    | some unfinished => ([], some unfinished)
    | none => ([0xFFFD], none)

/-- A byte that does not continue a character ends it with a U+FFFD, and is read afresh. -/
def decodeByte (byte : ℕ) : Option Unfinished → Text × Option Unfinished
  | none => decodeStart byte
  | some unfinished =>
      if unfinished.low ≤ byte && byte ≤ unfinished.high then
        let bits := unfinished.bits * 0x40 + (byte - 0x80)
        if unfinished.missing = 1 then ([Fin.ofNat 0x110000 bits], none)
        else ([], some ⟨bits, unfinished.missing - 1, 0x80, 0xBF⟩)
      else (0xFFFD :: (decodeStart byte).1, (decodeStart byte).2)

def decodeFrom : Option Unfinished → List UInt8 → Text
  | none, [] => []
  | some _, [] => [0xFFFD]
  | unfinished, byte :: rest =>
      (decodeByte byte.toNat unfinished).1 ++ decodeFrom (decodeByte byte.toNat unfinished).2 rest

/-- `bytes.decode("utf-8", errors="replace")`. -/
def decodeUtf8 (bytes : List UInt8) : Text := decodeFrom none bytes

/-- An unfinished character is worth the one U+FFFD it can still become. -/
def pendingLength (unfinished : Option Unfinished) : ℕ := if unfinished.isSome then 1 else 0

theorem length_decodeStart_le (byte : ℕ) :
    (decodeStart byte).1.length + pendingLength (decodeStart byte).2 ≤ 1 := by
  unfold decodeStart
  split
  · exact Nat.le_refl _
  · split <;> exact Nat.le_refl _

theorem length_decodeByte_le (byte : ℕ) (unfinished : Option Unfinished) :
    (decodeByte byte unfinished).1.length + pendingLength (decodeByte byte unfinished).2 ≤
      1 + pendingLength unfinished := by
  cases unfinished with
  | none => exact length_decodeStart_le byte
  | some unfinished =>
    have fresh := length_decodeStart_le byte
    dsimp only [decodeByte]
    split
    · split
      · exact Nat.le_succ 1
      · exact Nat.le_succ 1
    · show (decodeStart byte).1.length + 1 + pendingLength (decodeStart byte).2 ≤ 1 + 1
      omega

/-- Decoding gives no more characters than there are bytes. -/
theorem length_decodeUtf8_le (bytes : List UInt8) : (decodeUtf8 bytes).length ≤ bytes.length := by
  have general : ∀ unfinished,
      (decodeFrom unfinished bytes).length ≤ bytes.length + pendingLength unfinished := by
    induction bytes with
    | nil =>
      intro unfinished
      cases unfinished <;> exact Nat.le_refl _
    | cons byte rest inductionHypothesis =>
      intro unfinished
      have step := length_decodeByte_le byte.toNat unfinished
      have tail := inductionHypothesis (decodeByte byte.toNat unfinished).2
      rw [decodeFrom, List.length_append, List.length_cons]
      omega
  exact general none

end Text

/-- A line feed. -/
def newline : Text := [0xA]

/-- `str` of an integer. -/
def decimal (value : ℤ) : Text := text (toString value)

/-! ### Decimal digits -/

theorem character_toNat_lt (character : Char) : character.toNat < 0x110000 := by
  have valid := character.valid
  simp only [UInt32.isValidChar, Nat.isValidChar] at valid
  show character.val.toNat < _
  omega

/-- A character as a code point. -/
theorem ofNat_toNat_injective :
    Function.Injective fun character : Char => Fin.ofNat 0x110000 character.toNat := by
  intro first second same
  have values := congrArg Fin.val same
  simp only [Fin.val_ofNat, Nat.mod_eq_of_lt (character_toNat_lt _)] at values
  exact Char.toNat_inj.mp values

/-- The decimal digits of a natural number, as characters. -/
theorem decimal_natCast (value : ℕ) :
    decimal (value : ℕ) = (Nat.toDigits 10 value).map fun character =>
      Fin.ofNat 0x110000 character.toNat := by
  show (toString (value : ℤ)).toList.map _ = _
  rw [Int.toString_eq_repr, Int.repr_eq_if, if_pos (Int.natCast_nonneg value), Int.toNat_natCast,
    Nat.toList_repr]

theorem decimal_natCast_injective {first second : ℕ}
    (same : decimal (first : ℕ) = decimal (second : ℕ)) : first = second := by
  rw [decimal_natCast, decimal_natCast] at same
  have digits := List.map_injective_iff.mpr ofNat_toNat_injective same
  rw [← Nat.ofDigitChars_ten_toDigits (n := first), digits, Nat.ofDigitChars_ten_toDigits]

/-- A decimal number is made of digits. -/
theorem isDigit_of_mem_decimal {value : ℕ} {point : CodePoint}
    (member : point ∈ decimal (value : ℕ)) : 0x30 ≤ point.val ∧ point.val ≤ 0x39 := by
  rw [decimal_natCast] at member
  obtain ⟨character, inDigits, rfl⟩ := List.mem_map.mp member
  have digit := Nat.isDigit_of_mem_toDigits (by decide) (by decide) inDigits
  simp only [Char.isDigit, Bool.and_eq_true, decide_eq_true_eq, ge_iff_le,
    UInt32.le_iff_toNat_le] at digit
  show 0x30 ≤ character.toNat % 0x110000 ∧ character.toNat % 0x110000 ≤ 0x39
  rw [Nat.mod_eq_of_lt (character_toNat_lt character)]
  exact digit

end LocalGpuCluster
