/-
This file models `redact.py`, the last thing every response of `vcfspec` passes through. A scalar
under a credential-shaped key is masked whole; in every other string two patterns are masked, a
credential-shaped word with a value after it and what a schema error quotes. Keys stay as they are.
-/

import LocalGpuCluster.SpecCredentials

namespace LocalGpuCluster

namespace VcfSpec

/-- `MASK`. -/
def mask : Text := text "***REDACTED***"

/-! ### The patterns -/

def isQuote (point : CodePoint) : Bool := point = 0x27
def isDoubleQuote (point : CodePoint) : Bool := point = 0x22

/-- `\s*`. -/
def whitespace : Regex CodePoint := .star true (.one CodePoint.isSpace)

/-- A phrase in lower case under `re.IGNORECASE`. -/
def folded (phrase : Text) : Regex CodePoint := .all (phrase.map fun letter => .one letter.foldsTo)

/-- The group `key` of `_INLINE_SECRET_RE`. -/
def inlineKeyRe : Regex CodePoint :=
  .all [.oneOf (["password", "passwd", "secret", "token", "apikey", "api_key"].map fun word =>
      folded (text word)),
    .optional (.one fun point => isQuote point || isDoubleQuote point), whitespace,
    .one fun point => point = 0x3D || point = 0x3A, whitespace]

/-- The group `value` of `_INLINE_SECRET_RE`. -/
def inlineValueRe : Regex CodePoint :=
  .oneOf [.all [.one isQuote, .star true (.one fun point => !isQuote point), .one isQuote],
    .all [.one isDoubleQuote, .star true (.one fun point => !isDoubleQuote point), .one isDoubleQuote],
    .plus (.one fun point => !point.isSpace)]

/-- `_QUOTED_SECRET_RE` without what has to follow. -/
def quotedSecretRe : Regex CodePoint :=
  .all [.one isQuote, .plus (.one fun point => !isQuote point), .one isQuote]

/-- What has to follow. -/
def complaintRe : Regex CodePoint :=
  .all [.plus (.one CodePoint.isSpace), .oneOf (["is too short", "is too long", "does not match",
    "is not of type"].map fun phrase => .literal (text phrase))]

/-- The symbols of the input before what is left of it. -/
def taken (input rest : Text) : Text := input.take (input.length - rest.length)

/-- `_mask_inline` of a match with the groups `key` and `value`. -/
def maskInline (key value : Text) : Text :=
  let quote := (value.take 1).filter fun point => isQuote point || isDoubleQuote point
  let inner := if quote = [] then value else (value.drop 1).dropLast
  if isReferenceText inner then key ++ value else key ++ quote ++ mask ++ quote

/-- What `_INLINE_SECRET_RE.sub(_mask_inline, …)` writes at the start of the input. -/
def replaceInline (input : Text) : Option (Text × Text) :=
  ((inlineKeyRe.rests input).flatMap fun middle =>
    (inlineValueRe.rests middle).map fun rest =>
      (maskInline (taken input middle) (taken middle rest), rest)).head?

/-- What `_QUOTED_SECRET_RE.sub(…)` writes at the start of the input. -/
def replaceQuoted (input : Text) : Option (Text × Text) :=
  ((quotedSecretRe.rests input).find? fun rest => complaintRe.rests rest ≠ []).map fun rest =>
    (text "'" ++ mask ++ text "'", rest)

/-- `redact` of a string. -/
def redactText (value : Text) : Text :=
  Regex.substitute replaceQuoted (Regex.substitute replaceInline value)

/-- What the comments on the patterns say. -/
example : [("'Ab3!x' is too short", "'***REDACTED***' is too short"),
    ("\x7b'password': 'x'\x7d x", "\x7b'password': '***REDACTED***'\x7d x"),
    ("Token = $\x7besx_root\x7d", "Token = $\x7besx_root\x7d"),
    ("secret:", "secret:")].all (fun (before, after) => redactText (text before) = text after) = true := by
  decide

/-! ### Values -/

/-- `_is_masked_scalar`. -/
def isMaskedScalar (key : Scalar) (value : Value) : Bool :=
  match key with
  | .str name => credentialShaped name && value.isSimple && !isReference value
  | _ => false

mutual

/-- `redact`. -/
def redact : Value → Value
  | .scalar (.str value) => .str (redactText value)
  | .scalar value => .scalar value
  | .list items => .list (redactItems items)
  | .dict entries => .dict (redactEntries entries)

def redactItems : List Value → List Value
  | [] => []
  | item :: rest => redact item :: redactItems rest

def redactEntries : List (Scalar × Value) → List (Scalar × Value)
  | [] => []
  | (key, value) :: rest =>
      (key, if isMaskedScalar key value then .str mask else redact value) :: redactEntries rest

end

end VcfSpec

end LocalGpuCluster
