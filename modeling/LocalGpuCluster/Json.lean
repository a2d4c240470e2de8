/-
This file holds what `json.loads` yields, and the conversions Python makes of it. Numbers are
exact: a finite float is the rational it denotes, and arithmetic on floats is done on those
rationals up to the point where a double overflows. What `float` and `int` make of a string,
what `str` makes of a value that is not one, and rounding are parameters, since nothing verified
here depends on them.
-/

import LocalGpuCluster.Text
import Mathlib.Data.Rat.Floor
import Mathlib.Tactic.NormNum

namespace LocalGpuCluster

/-- A float: `json.loads` reads `NaN`, `Infinity` and overflowing literals too. -/
inductive Float64 where
  | finite (value : ℚ)
  | infinite
  | notANumber
  deriving DecidableEq, Repr

/-- What `json.loads` yields; an object's keys are distinct, later ones having replaced earlier. -/
inductive Json where
  | null
  | bool (value : Bool)
  | int (value : ℤ)
  | float (value : Float64)
  | str (value : Text)
  | arr (items : List Json)
  | obj (entries : List (Text × Json))

/-- The built-in conversions that are taken as they come. -/
structure Python where
  /-- `float` of a string, `none` for `ValueError`. -/
  floatOf : Text → Option Float64
  /-- `int` of a string, `none` for `ValueError`. -/
  intOf : Text → Option ℤ
  /-- `str` of a value that is not a string. -/
  strOf : Json → Text
  /-- `round(value, digits)`. -/
  round : ℚ → ℕ → ℚ
  /-- `f"{value:.{digits}f}"`. -/
  fixed : ℚ → ℕ → Text
  /-- `hashlib.sha256(…).hexdigest()` of the UTF-8 bytes of a text. -/
  sha256 : Text → Text

/-- The conversions where no string is read as a number and no value is rounded or written. -/
def Python.exact : Python where
  floatOf _ := none
  intOf _ := none
  strOf _ := []
  round value _ := value
  fixed _ _ := []
  sha256 content := content

/-- Numbers from here on are no finite floats: a value this large rounds to infinity, and
converting an integer this large raises `OverflowError`. -/
def floatBound : ℚ := (2 ^ 1024 - 2 ^ 970 : ℕ)

/-- The value as a finite float, `none` when it overflows. -/
def finiteFloat (value : ℚ) : Option ℚ :=
  if -floatBound < value ∧ value < floatBound then some value else none

namespace Json

/-- `value.get(key)` of a dict, `None` for a missing key. -/
def getIn (entries : List (Text × Json)) (key : Text) : Json := (entries.lookup key).getD .null

/-- `fields[key] = value`: a new key comes last. -/
def setIn {Value : Type} (fields : List (Text × Value)) (key : Text) (value : Value) :
    List (Text × Value) :=
  if (fields.lookup key).isSome then
    fields.map fun entry => if entry.1 = key then (key, value) else entry
  else fields ++ [(key, value)]

/-- `fields.setdefault(key, value)`, and the fields it leaves. -/
def setDefault (fields : List (Text × Json)) (key : Text) (value : Json) : List (Text × Json) :=
  if (fields.lookup key).isSome then fields else fields ++ [(key, value)]

/-- `bool(value)`. -/
def truthy : Json → Bool
  | .null => false
  | .bool value => value
  | .int value => value ≠ 0
  | .float (.finite value) => value ≠ 0
  | .float _ => true
  | .str value => value ≠ []
  | .arr items => !items.isEmpty
  | .obj entries => !entries.isEmpty

/-- `value or other`. -/
def orElse (value other : Json) : Json := if value.truthy then value else other

/-- `_finite`: `float(value)` when that is a finite number. -/
def finite (python : Python) : Json → Option ℚ
  | .bool value => some (if value then 1 else 0)
  | .int value => finiteFloat value
  | .float (.finite value) => some value
  | .float _ => none
  | .str value =>
      match python.floatOf value with
      | some (.finite number) => some number
      | _ => none
  | .null | .arr _ | .obj _ => none

/-- `int(value)`, `none` when it raises. -/
def toInt (python : Python) : Json → Option ℤ
  | .bool value => some (if value then 1 else 0)
  | .int value => some value
  | .float (.finite value) => some (if 0 ≤ value then ⌊value⌋ else ⌈value⌉)
  | .float _ => none
  | .str value => python.intOf value
  | .null | .arr _ | .obj _ => none

/-- `str(value)`. -/
def toStr (python : Python) : Json → Text
  | .str value => value
  | value => python.strOf value

/-! ### Updates of an object -/

/-- A lookup takes the first entry with the key. -/
theorem lookup_cons_eq {Value : Type} (key : Text) (entry : Text × Value)
    (rest : List (Text × Value)) :
    (entry :: rest).lookup key = if entry.1 = key then some entry.2 else rest.lookup key := by
  by_cases same : entry.1 = key
  · rw [if_pos same, ← same]
    exact List.lookup_cons_self
  · have apart : (key == entry.1) = false := beq_false_of_ne (Ne.symm same)
    rw [if_neg same, List.lookup_cons, apart]

theorem lookup_setIn_self {Value : Type} (fields : List (Text × Value)) (key : Text)
    (value : Value) : (setIn fields key value).lookup key = some value := by
  unfold setIn
  split
  · rename_i found
    induction fields with
    | nil => exact absurd found Bool.false_ne_true
    | cons entry rest inductionHypothesis =>
      rw [List.map_cons, lookup_cons_eq]
      rw [lookup_cons_eq] at found
      by_cases same : entry.1 = key
      · rw [if_pos same, if_pos rfl]
      · rw [if_neg same, if_neg same]
        rw [if_neg same] at found
        exact inductionHypothesis found
  · rename_i missing
    rw [List.lookup_append, Option.not_isSome_iff_eq_none.mp missing, Option.none_or]
    exact List.lookup_cons_self

theorem lookup_setIn_of_ne {Value : Type} {fields : List (Text × Value)} {key other : Text}
    (different : key ≠ other) (value : Value) :
    (setIn fields key value).lookup other = fields.lookup other := by
  unfold setIn
  split
  · clear * - different
    induction fields with
    | nil => rfl
    | cons entry rest inductionHypothesis =>
      rw [List.map_cons, lookup_cons_eq, lookup_cons_eq, inductionHypothesis]
      by_cases same : entry.1 = key
      · rw [if_pos same, if_neg different, if_neg fun equal => different (same.symm.trans equal)]
      · rw [if_neg same]
  · rw [List.lookup_append, lookup_cons_eq, if_neg different, List.lookup_nil, Option.or_none]

theorem lookup_setDefault {fields : List (Text × Json)} {key other : Text} {found : Json}
    (present : fields.lookup other = some found) (value : Json) :
    (setDefault fields key value).lookup other = some found := by
  unfold setDefault
  split
  · exact present
  · rw [List.lookup_append, present, Option.some_or]

end Json

end LocalGpuCluster
