/-
This file models the text of JSON values: `json.loads` of a string, as the scanner reads it from left to
right, and `json.dumps`, both as it is and with the keys of every object sorted and no NaN, which
writes ASCII. They give up on containers that nest too deeply, and on integers of too many digits;
what they raise is kept apart, since callers that catch one do not catch the others. How a float is
written, and what a literal with a fraction or an exponent is read as, are parameters.
-/

import LocalGpuCluster.Dictionary
import LocalGpuCluster.Json
import Mathlib.Data.List.Sort

namespace LocalGpuCluster

namespace JsonText

/-- `float.__repr__` of a finite float, and `float` of a literal. -/
structure FloatText where
  repr : ℚ → Text
  read : Text → Float64

/-- What `json.loads` raises: `JSONDecodeError`, the `ValueError` that is none, of an integer with too
many digits, or `RecursionError`. -/
inductive LoadError where
  | decode
  | digits
  | depth
  deriving DecidableEq, Repr

/-- What is read, and the text after it. -/
abbrev Scan (Value : Type) := Except LoadError (Value × Text)

def quote : CodePoint := 0x22
def backslash : CodePoint := 0x5C
def comma : CodePoint := 0x2C
def colon : CodePoint := 0x3A
def openBracket : CodePoint := 0x5B
def closeBracket : CodePoint := 0x5D
def openBrace : CodePoint := 0x7B
def closeBrace : CodePoint := 0x7D
def minus : CodePoint := 0x2D

/-- `sys.get_int_max_str_digits()`. -/
def maxDigits : ℕ := 4300

/-! ### Strings -/

/-- The whitespace of JSON. -/
def isBlank (point : CodePoint) : Bool := [0x20, 0x9, 0xA, 0xD].contains point.val

def skipBlank (input : Text) : Text := input.dropWhile isBlank

def isDigit (point : CodePoint) : Bool := 0x30 ≤ point.val && point.val ≤ 0x39

/-- The value of a hexadecimal digit. -/
def hexValue (point : CodePoint) : Option ℕ :=
  if isDigit point then some (point.val - 0x30)
  else if 0x61 ≤ point.val && point.val ≤ 0x66 then some (point.val - 0x61 + 10)
  else if 0x41 ≤ point.val && point.val ≤ 0x46 then some (point.val - 0x41 + 10)
  else none

/-- The UTF-16 unit that four hexadecimal digits name. -/
def unitOf (first second third fourth : CodePoint) : Option ℕ := do
  let first ← hexValue first
  let second ← hexValue second
  let third ← hexValue third
  let fourth ← hexValue fourth
  some (((first * 16 + second) * 16 + third) * 16 + fourth)

/-- What follows a backslash, and the code point it stands for. -/
def escapes : List (CodePoint × CodePoint) :=
  [(quote, quote), (backslash, backslash), (0x2F, 0x2F), (0x62, 0x8), (0x66, 0xC), (0x6E, 0xA),
    (0x72, 0xD), (0x74, 0x9)]

/-- A code point of a string, or a unit that was escaped. -/
inductive Piece where
  | plain (point : CodePoint)
  | unit (value : ℕ)

def isHigh (unit : ℕ) : Bool := 0xD800 ≤ unit && unit ≤ 0xDBFF

def isLow (unit : ℕ) : Bool := 0xDC00 ≤ unit && unit ≤ 0xDFFF

/-- Two escaped units that make a surrogate pair are one code point. -/
def joinUnits : List Piece → Text
  | [] => []
  | .plain point :: rest => point :: joinUnits rest
  | [.unit value] => [Fin.ofNat 0x110000 value]
  | .unit high :: .unit low :: rest =>
      if isHigh high && isLow low then
        Fin.ofNat 0x110000 (0x10000 + (high - 0xD800) * 0x400 + (low - 0xDC00)) :: joinUnits rest
      else Fin.ofNat 0x110000 high :: joinUnits (.unit low :: rest)
  | .unit value :: .plain point :: rest => Fin.ofNat 0x110000 value :: point :: joinUnits rest

/-- A string after its opening quote, up to its closing one. -/
def scanPieces : Text → Scan (List Piece)
  | [] => .error .decode
  | point :: rest =>
      if point = quote then .ok ([], rest)
      else if point = backslash then
        match rest with
        | [] => .error .decode
        | mark :: rest =>
            if mark = 0x75 then
              match rest with
              | first :: second :: third :: fourth :: rest =>
                  match unitOf first second third fourth with
                  | none => .error .decode
                  | some value => (scanPieces rest).map fun more => (.unit value :: more.1, more.2)
              | _ => .error .decode
            else
              match escapes.lookup mark with
              | none => .error .decode
              | some meant => (scanPieces rest).map fun more => (.plain meant :: more.1, more.2)
      else if point.val ≤ 0x1F then .error .decode
      else (scanPieces rest).map fun more => (.plain point :: more.1, more.2)

def scanString (input : Text) : Scan Text :=
  (scanPieces input).map fun found => (joinUnits found.1, found.2)

/-! ### Numbers and constants -/

def natOf (digits : Text) : ℕ := digits.foldl (fun value digit => 10 * value + (digit.val - 0x30)) 0

/-- A point and the digits after it, if there are any. -/
def fractionOf : Text → Text
  | point :: digit :: rest =>
      if point.val = 0x2E && isDigit digit then point :: (digit :: rest).takeWhile isDigit else []
  | _ => []

/-- The sign of an exponent, if it has one. -/
def signOf (input : Text) : Text :=
  (input.take 1).filter fun point => point.val = 0x2D || point.val = 0x2B

/-- An exponent, if it has digits. -/
def exponentOf : Text → Text
  | mark :: rest =>
      let digits := (rest.drop (signOf rest).length).takeWhile isDigit
      if (mark.val = 0x65 || mark.val = 0x45) && digits ≠ [] then mark :: signOf rest ++ digits else []
  | [] => []

/-- The digits before the point; they do not start with a zero unless they are one. -/
def wholeOf (input : Text) : Text :=
  if input.head? = some 0x30 then input.take 1 else input.takeWhile isDigit

/-- A number after its sign. -/
def scanUnsigned (floats : FloatText) (sign input : Text) : Scan Json :=
  let whole := wholeOf input
  let fraction := fractionOf (input.drop whole.length)
  let exponent := exponentOf (input.drop (whole.length + fraction.length))
  if whole = [] then .error .decode
  else if fraction = [] && exponent = [] then
    if maxDigits < whole.length then .error .digits
    else .ok (.int (if sign = [] then natOf whole else -natOf whole), input.drop whole.length)
  else .ok (.float (floats.read (sign ++ whole ++ fraction ++ exponent)),
    input.drop (whole.length + fraction.length + exponent.length))

def scanNumber (floats : FloatText) : Text → Scan Json
  | [] => .error .decode
  | point :: rest =>
      if point = minus then scanUnsigned floats [minus] rest else scanUnsigned floats [] (point :: rest)

def constants : List (Text × Json) :=
  [(text "null", .null), (text "true", .bool true), (text "false", .bool false),
    (text "NaN", .float .notANumber), (text "Infinity", .float .infinite),
    (text "-Infinity", .float .infinite)]

/-- A value that is no string and no container. -/
def scanAtom (floats : FloatText) (input : Text) : Scan Json :=
  match constants.find? fun constant => input.startsWith constant.1 with
  | some constant => .ok (constant.2, input.drop constant.1.length)
  | none => scanNumber floats input

/-! ### Containers -/

/-- What a container that is not empty holds, and what closes it. Each item takes a character at least,
so that a text has no more of them than characters. -/
def scanList {Value : Type} (close : CodePoint) (scan : Text → Scan Value) :
    ℕ → Text → Except LoadError (List Value × Text)
  | 0, _ => .error .decode
  | fuel + 1, input => do
      let item : Value × Text ← scan input
      match skipBlank item.2 with
      | [] => .error .decode
      | point :: rest =>
          if point = close then .ok ([item.1], rest)
          else if point = comma then do
            let items ← scanList close scan fuel (skipBlank rest)
            .ok (item.1 :: items.1, items.2)
          else .error .decode

/-- What a container holds, after what opens it. -/
def scanContents {Value : Type} (close : CodePoint) (scan : Text → Scan Value) (input : Text) :
    Scan (List Value) :=
  match skipBlank input with
  | [] => .error .decode
  | point :: rest =>
      if point = close then .ok ([], rest)
      else scanList close scan (point :: rest).length (point :: rest)

def scanArray (scan : Text → Scan Json) (input : Text) : Scan Json :=
  (scanContents closeBracket scan input).map fun found => (.arr found.1, found.2)

/-- A key, and its colon. -/
def scanKey : Text → Except LoadError (Text × Text)
  | [] => .error .decode
  | point :: rest =>
      if point = quote then do
        let key : Text × Text ← scanString rest
        match skipBlank key.2 with
        | [] => .error .decode
        | mark :: rest => if mark = colon then .ok (key.1, rest) else .error .decode
      else .error .decode

def scanEntry (scan : Text → Scan Json) (input : Text) :
    Except LoadError ((Text × Json) × Text) := do
  let key ← scanKey input
  let value : Json × Text ← scan (skipBlank key.2)
  .ok ((key.1, value.1), value.2)

/-- A key that comes again replaces the value it had. -/
def scanObject (scan : Text → Scan Json) (input : Text) : Scan Json :=
  (scanContents closeBrace (scanEntry scan) input).map fun found =>
    (.obj (Dictionary.fill [] found.1), found.2)

/-- A value, by what starts it. -/
def scanValue (floats : FloatText) (object array : Text → Scan Json) : Text → Scan Json
  | [] => .error .decode
  | point :: rest =>
      if point = quote then (scanString rest).map fun found => (.str found.1, found.2)
      else if point = openBrace then object rest
      else if point = openBracket then array rest
      else scanAtom floats (point :: rest)

/-- `scan_once`, with how many containers may still be entered. -/
def scanOnce (floats : FloatText) : ℕ → Text → Scan Json
  | 0 => scanValue floats (fun _ => .error .depth) fun _ => .error .depth
  | limit + 1 => scanValue floats (scanObject (scanOnce floats limit)) (scanArray (scanOnce floats limit))

/-- `json.loads`. -/
def loads (floats : FloatText) (limit : ℕ) (input : Text) : Except LoadError Json := do
  if input.head? = some 0xFEFF then .error .decode
  else
    let found ← scanOnce floats limit (skipBlank input)
    if skipBlank found.2 = [] then .ok found.1 else .error .decode

/-! ### Writing -/

/-- A lower-case hexadecimal digit. -/
def hexDigit (value : ℕ) : CodePoint :=
  Fin.ofNat 0x110000 (if value < 10 then 0x30 + value else 0x61 + (value - 10))

/-- A backslash, a `u` and four digits. -/
def escapeUnit (value : ℕ) : Text :=
  [backslash, 0x75, hexDigit (value / 4096), hexDigit (value / 256 % 16),
    hexDigit (value / 16 % 16), hexDigit (value % 16)]

/-- The escapes that are written for a code point itself. -/
def shortEscapes : List (CodePoint × CodePoint) :=
  [(quote, quote), (backslash, backslash), (0x8, 0x62), (0xC, 0x66), (0xA, 0x6E), (0xD, 0x72),
    (0x9, 0x74)]

/-- A code point within a string. -/
def escapePoint (point : CodePoint) : Text :=
  match shortEscapes.lookup point with
  | some mark => [backslash, mark]
  | none =>
      if 0x20 ≤ point.val && point.val ≤ 0x7E then [point]
      else if point.val < 0x10000 then escapeUnit point.val
      else escapeUnit (0xD800 + (point.val - 0x10000) / 0x400) ++
        escapeUnit (0xDC00 + (point.val - 0x10000) % 0x400)

def quoted (content : Text) : Text := quote :: content.flatMap escapePoint ++ [quote]

/-- Whether a string sorts before another, or is the same: `<=` of `str`. -/
def notAfter : Text → Text → Bool
  | [], _ => true
  | _ :: _, [] => false
  | first :: firsts, second :: seconds =>
      first.val < second.val || (first = second && notAfter firsts seconds)

def sortKeys (entries : List (Text × Json)) : List (Text × Json) :=
  entries.insertionSort fun first second => notAfter first.1 second.1

/-- An entry of an object whose value is written already. -/
def writeEntry (key value : Text) : Text := quoted key ++ text ": " ++ value

/-- `json.dumps(value, sort_keys=True, allow_nan=False)`, `none` when it raises, with how many
containers may still be entered. -/
def dumps (floats : FloatText) : ℕ → Json → Option Text
  | _, .null => some (text "null")
  | _, .bool value => some (if value then text "true" else text "false")
  | _, .int value => if maxDigits < (decimal value.natAbs).length then none else some (decimal value)
  | _, .float (.finite value) => some (floats.repr value)
  | _, .float _ => none
  | _, .str value => some (quoted value)
  | 0, .arr _ => none
  | 0, .obj _ => none
  | limit + 1, .arr items =>
      (items.mapM (dumps floats limit)).map fun parts =>
        openBracket :: Text.join (text ", ") parts ++ [closeBracket]
  | limit + 1, .obj entries =>
      ((sortKeys entries).mapM fun entry =>
        (dumps floats limit entry.2).map (writeEntry entry.1)).map fun parts =>
          openBrace :: Text.join (text ", ") parts ++ [closeBrace]

/-- `json.dumps(value)`, `none` when it raises, with how many containers may still be entered. How a
float that is not finite is written is a parameter too, since its sign is not kept. -/
def write (floats : FloatText) (nonFinite : Float64 → Text) : ℕ → Json → Option Text
  | _, .null => some (text "null")
  | _, .bool value => some (if value then text "true" else text "false")
  | _, .int value => if maxDigits < (decimal value.natAbs).length then none else some (decimal value)
  | _, .float (.finite value) => some (floats.repr value)
  | _, .float value => some (nonFinite value)
  | _, .str value => some (quoted value)
  | 0, .arr _ => none
  | 0, .obj _ => none
  | limit + 1, .arr items =>
      (items.mapM (write floats nonFinite limit)).map fun parts =>
        openBracket :: Text.join (text ", ") parts ++ [closeBracket]
  | limit + 1, .obj entries =>
      (entries.mapM fun entry =>
        (write floats nonFinite limit entry.2).map (writeEntry entry.1)).map fun parts =>
          openBrace :: Text.join (text ", ") parts ++ [closeBrace]

end JsonText

end LocalGpuCluster
