/-
This file holds what the rules and renderers of `vcfspec` do with the values of a document: the
coercions of `coerce.py`, and the Python operations that can raise. `str` raises on a value that
holds an integer of more than 4300 digits, `float` on an integer past the largest double, and
rounding to an integer on what is not finite.
-/

import LocalGpuCluster.SpecValue

namespace LocalGpuCluster

namespace VcfSpec

/-- The exceptions the modelled code can raise. -/
inductive Raised where
  | attributeError
  | insecureCredential
  | keyError
  | overflowError
  | typeError
  | unknownSchemaVersion
  | valueError
  deriving DecidableEq, Repr

abbrev Run := Except Raised

/-- A `dict`. -/
abbrev Mapping := List (Scalar × Value)

/-! ### Coercions -/

/-- `as_mapping`. -/
def Value.asMapping : Value → Mapping
  | .dict entries => entries
  | _ => []

/-- `as_sequence`. -/
def Value.asSequence : Value → List Value
  | .list items => items
  | _ => []

/-- `mapping.get(name)`, `none` where there is no such key. -/
def Mapping.get? (mapping : Mapping) (name : String) : Option Value :=
  (mapping.find? fun entry => entry.1 = .str (text name)).map Prod.snd

/-- `mapping.get(name)`. -/
def Mapping.get (mapping : Mapping) (name : String) : Value := (mapping.get? name).getD .null

/-- `mapping.get(name, default)`. -/
def Mapping.getOr (mapping : Mapping) (name : String) (default : Value) : Value :=
  (mapping.get? name).getD default

/-- `bool(value)`. -/
def Value.truthy : Value → Bool
  | .scalar .null => false
  | .scalar (.bool value) => value
  | .scalar (.int value) => value ≠ 0
  | .scalar (.float value) => !value.beq (Float.Model.ofInt 0)
  | .scalar (.str value) => value ≠ []
  | .list items => !items.isEmpty
  | .dict entries => !entries.isEmpty

/-- `value or default`. -/
def Value.orElse (value default : Value) : Value := if value.truthy then value else default

/-- The value of an `int`; `True` is one. -/
def Value.asInt : Value → Option ℤ
  | .scalar (.int value) => some value
  | .scalar (.bool value) => some (if value then 1 else 0)
  | _ => none

/-! ### Writing values -/

/-- How many digits `str` writes of an integer, at most. -/
@[irreducible] def maxDigits : ℕ := 4300

/-- `str` of the scalar raises. -/
def Scalar.tooLong : Scalar → Bool
  | .int value => 10 ^ maxDigits ≤ value.natAbs
  | _ => false

mutual

/-- `str` of the value raises: it writes each integer the value holds. -/
def Value.tooLong : Value → Bool
  | .scalar value => value.tooLong
  | .list items => anyTooLong items
  | .dict entries => anyEntryTooLong entries

def anyTooLong : List Value → Bool
  | [] => false
  | item :: rest => item.tooLong || anyTooLong rest

def anyEntryTooLong : List (Scalar × Value) → Bool
  | [] => false
  | (key, value) :: rest => key.tooLong || value.tooLong || anyEntryTooLong rest

end

/-- What Python does that is not spelled out here: `str` of a value that is not a string, and
`str.lower`. -/
structure Runtime extends Builtins where
  lower : Text → Text

/-- `str(value)`. -/
def Runtime.str (runtime : Runtime) (value : Value) : Run Text :=
  if value.tooLong then throw .valueError else pure (runtime.toBuiltins.str value)

/-- `[str(value) for value in values]`. -/
def Runtime.strs (runtime : Runtime) (values : List Value) : Run (List Text) :=
  values.mapM runtime.str

/-- The mapping with the entries of a literal. -/
def mapping (entries : List (String × Value)) : Value :=
  .dict (entries.map fun entry => (.str (text entry.1), entry.2))

theorem Mapping.get_nil (name : String) : Mapping.get [] name = .null := rfl

theorem Mapping.get_cons_self (name : String) (value : Value) (rest : Mapping) :
    Mapping.get ((.str (text name), value) :: rest) name = value := by
  simp [Mapping.get, Mapping.get?]

theorem Mapping.get_cons_of_ne {key : Text} {name : String} (apart : key ≠ text name) (value : Value)
    (rest : Mapping) : Mapping.get ((.str key, value) :: rest) name = Mapping.get rest name := by
  rw [Mapping.get, Mapping.get?, List.find?_cons_of_neg (by simpa using apart)]
  rfl

/-- `str` of integers, booleans and null, and `str.lower` of ASCII. -/
def Runtime.simple : Runtime where
  strOf := fun value =>
    match value with
    | .scalar (.int number) => decimal number
    | .scalar (.bool true) => text "True"
    | .scalar (.bool false) => text "False"
    | .scalar .null => text "None"
    | _ => []
  lower := Text.lower

/-! ### Runs that return -/

/-- The call returns. -/
def Run.Returns {Result : Type} (run : Run Result) : Prop := ∃ result, run = .ok result

namespace Run

variable {Middle Result : Type}

theorem bind_eq_ok {run : Run Middle} {next : Middle → Run Result} {result : Result} :
    (run >>= next) = .ok result ↔ ∃ middle, run = .ok middle ∧ next middle = .ok result := by
  cases run with
  | error raised => exact ⟨fun same => (by cases same), fun ⟨_, same, _⟩ => (by cases same)⟩
  | ok middle => exact ⟨fun same => ⟨middle, rfl, same⟩, fun ⟨_, rfl, same⟩ => same⟩

theorem returns_bind {run : Run Middle} {next : Middle → Run Result} :
    (run >>= next).Returns ↔ ∃ middle, run = .ok middle ∧ (next middle).Returns := by
  constructor
  · rintro ⟨result, same⟩
    obtain ⟨middle, first, second⟩ := bind_eq_ok.mp same
    exact ⟨middle, first, result, second⟩
  · rintro ⟨middle, first, result, second⟩
    exact ⟨result, bind_eq_ok.mpr ⟨middle, first, second⟩⟩

end Run

theorem Runtime.str_eq_ok {runtime : Runtime} {value : Value} {written : Text} :
    runtime.str value = .ok written ↔
      value.tooLong = false ∧ runtime.toBuiltins.str value = written := by
  unfold Runtime.str
  cases value.tooLong with
  | false => exact ⟨fun same => ⟨rfl, Except.ok.inj same⟩, fun ⟨_, same⟩ => congrArg Except.ok same⟩
  | true => exact ⟨fun same => (by cases same), fun ⟨long, _⟩ => (by cases long)⟩

theorem Runtime.returns_bind_str {Result : Type} {runtime : Runtime} {value : Value}
    {next : Text → Run Result} :
    Run.Returns (runtime.str value >>= next) ↔
      value.tooLong = false ∧ (next (runtime.toBuiltins.str value)).Returns := by
  simp only [Run.returns_bind, Runtime.str_eq_ok, and_assoc, exists_and_left, exists_eq_left']

/-- Several values are written when each one can be. -/
theorem Runtime.strs_eq_ok {runtime : Runtime} {values : List Value} {written : List Text} :
    runtime.strs values = .ok written ↔
      (∀ value ∈ values, value.tooLong = false) ∧ values.map runtime.toBuiltins.str = written := by
  induction values generalizing written with
  | nil => exact ⟨fun same => ⟨by simp, Except.ok.inj same⟩, fun ⟨_, same⟩ => congrArg Except.ok same⟩
  | cons value rest inductionHypothesis =>
    unfold Runtime.strs at inductionHypothesis ⊢
    rw [List.mapM_cons, List.forall_mem_cons, Run.bind_eq_ok]
    simp only [Run.bind_eq_ok, Runtime.str_eq_ok, inductionHypothesis]
    constructor
    · rintro ⟨_, ⟨short, rfl⟩, _, ⟨shorts, rfl⟩, same⟩
      exact ⟨⟨short, shorts⟩, Except.ok.inj same⟩
    · rintro ⟨⟨short, shorts⟩, rfl⟩
      exact ⟨_, ⟨short, rfl⟩, _, ⟨shorts, rfl⟩, rfl⟩

theorem Runtime.returns_bind_strs {Result : Type} {runtime : Runtime} {values : List Value}
    {next : List Text → Run Result} :
    Run.Returns (runtime.strs values >>= next) ↔
      (∀ value ∈ values, value.tooLong = false) ∧
        (next (values.map runtime.toBuiltins.str)).Returns := by
  simp only [Run.returns_bind, Runtime.strs_eq_ok, and_assoc, exists_and_left, exists_eq_left']

/-! ### Numbers -/

/-- `float` of an integer. -/
def floatOfInt (value : ℤ) : Run Double :=
  if (Float.Model.ofInt value).isInf then throw .overflowError else pure (Float.Model.ofInt value)

/-- `float(value) if isinstance(value, (int, float)) else 0.0`. -/
def Value.toFloat : Value → Run Double
  | .scalar (.bool value) => pure (Float.Model.ofInt (if value then 1 else 0))
  | .scalar (.int value) => floatOfInt value
  | .scalar (.float value) => pure value
  | _ => pure (Float.Model.ofInt 0)

/-- The integer that a double is, if it is one. -/
def Double.asInteger (value : Double) : Option ℤ :=
  match value.unpack with
  | .zero _ => some 0
  | .finite sign mantissa exponent _ =>
      if 0 ≤ exponent then some (sign.apply (mantissa * 2 ^ exponent.toNat))
      else if mantissa % 2 ^ (-exponent).toNat = 0 then
        some (sign.apply (mantissa / 2 ^ (-exponent).toNat))
      else none
  | _ => none

/-- The nearest integer to `mantissa / unit`, the even one of two. -/
def roundHalfEven (mantissa unit : ℕ) : ℕ :=
  let whole := mantissa / unit
  let half := 2 * (mantissa % unit)
  if half < unit then whole else if unit < half then whole + 1 else whole + whole % 2

/-- `int(round(value))`. -/
def Double.round (value : Double) : Run ℤ :=
  match value.unpack with
  | .zero _ => pure 0
  | .finite sign mantissa exponent _ =>
      if 0 ≤ exponent then pure (sign.apply (mantissa * 2 ^ exponent.toNat))
      else pure (sign.apply (roundHalfEven mantissa (2 ^ (-exponent).toNat)))
  | .infinity _ => throw .overflowError
  | .notANumber => throw .valueError

example : [(5, 2), (7, 2), (10, 4), (11, 4), (9, 4)].map (fun (mantissa, unit) =>
    roundHalfEven mantissa unit) = [2, 4, 2, 3, 2] := by
  decide

end VcfSpec

end LocalGpuCluster
