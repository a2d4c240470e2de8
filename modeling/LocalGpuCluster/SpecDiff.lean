/-
This file models the diff of `mcp_server.py`. Two mappings are compared key by key and two lists of
objects name by name, everything else as a whole; each difference is one change, and a budget bounds
what the changes may cost. The recursion is on the left value: what is under a key or a name of it
is turned into a comparison first, and the comparisons then run in sorted order.
-/

import LocalGpuCluster.SpecRedact
import LocalGpuCluster.SpecRuntime
import Mathlib.Algebra.Order.Ring.Unbundled.Rat
import Mathlib.Order.WithBot

namespace LocalGpuCluster

namespace VcfSpec

/-! ### Equality -/

/-- What a scalar is to `==`: a boolean and a double without a fraction are integers. -/
def Scalar.canonical : Scalar → Scalar
  | .bool value => .int (if value then 1 else 0)
  | .float value =>
      match value.asInteger with
      | some whole => .int whole
      | none => .float value
  | value => value

/-- `left is right or left == right`, which is how keys and the items of a list are compared. There
is one object for not-a-number, that of the loader. -/
def Scalar.same (left right : Scalar) : Bool := left.canonical = right.canonical

def Scalar.isNaN : Scalar → Bool
  | .float value => value.isNaN
  | _ => false

mutual

/-- `left is right or left == right`. -/
def Value.same : Value → Value → Bool
  | .scalar left, .scalar right => left.same right
  | .list left, .list right => sameItems left right
  | .dict left, .dict right => left.length = right.length && sameEntries left right
  | _, _ => false

def sameItems : List Value → List Value → Bool
  | [], [] => true
  | left :: lefts, right :: rights => left.same right && sameItems lefts rights
  | _, _ => false

/-- The entries are there on the right. -/
def sameEntries : List (Scalar × Value) → List (Scalar × Value) → Bool
  | [], _ => true
  | (key, value) :: rest, right =>
      (match right.find? fun entry => key.same entry.1 with
        | some entry => value.same entry.2
        | none => false) && sameEntries rest right

end

/-- `left == right`. -/
def Value.equal (left right : Value) : Bool :=
  match left with
  | .scalar value => !value.isNaN && left.same right
  | _ => left.same right

/-- `mapping.get(key)` of a key that need not be a string. -/
def Mapping.at (mapping : Mapping) (key : Scalar) : Value :=
  ((mapping.find? fun entry => key.same entry.1).map Prod.snd).getD .null

/-! ### The order of keys -/

def Scalar.isText : Scalar → Bool
  | .str _ => true
  | _ => false

def Scalar.isNumber : Scalar → Bool
  | .bool _ | .int _ | .float _ => true
  | _ => false

/-- `sorted` of distinct keys returns: only strings compare with strings, and numbers with
numbers. -/
def sortable (keys : List Scalar) : Bool :=
  keys.length ≤ 1 || keys.all Scalar.isText || keys.all Scalar.isNumber

/-- Where a double is among the rational numbers and the infinities. The order around
not-a-number is not modelled. -/
def Double.rank (value : Double) : WithBot (WithTop ℚ) :=
  match value.unpack with
  | .zero _ => ((0 : ℚ) : WithTop ℚ)
  | .finite sign mantissa exponent _ =>
      if 0 ≤ exponent then ((sign.apply (mantissa * 2 ^ exponent.toNat) : ℚ) : WithTop ℚ)
      else (mkRat (sign.apply mantissa) (2 ^ (-exponent).toNat) : WithTop ℚ)
  | .infinity sign => if sign.apply 1 = (1 : ℤ) then (⊤ : WithTop ℚ) else ⊥
  | .notANumber => (⊤ : WithTop ℚ)

def Scalar.rank : Scalar → WithBot (WithTop ℚ)
  | .bool value => ((if value then 1 else 0 : ℚ) : WithTop ℚ)
  | .int value => ((value : ℚ) : WithTop ℚ)
  | .float value => value.rank
  | _ => ⊥

/-- `first <= second`. -/
def Scalar.before : Scalar → Scalar → Bool
  | .str first, .str second => first ≤ second
  | first, second => first.rank ≤ second.rank

/-! ### Changes -/

structure Change where
  path : Text
  left : Value
  right : Value

/-- `_has_credentials_segment`. -/
def hasCredentialsSegment (path : Text) : Bool := (path.splitOn slash).any isCredentialsName

mutual

/-- `_mask_credential_value`. -/
def maskCredentialValue : Value → Value
  | .dict entries => .dict (maskEntries entries)
  | .list items => .list (maskItems items)
  | .scalar .null => .null
  | .scalar (.str value) => if isReferenceText value then .str value else .str mask
  | .scalar _ => .str mask

def maskItems : List Value → List Value
  | [] => []
  | item :: rest => maskCredentialValue item :: maskItems rest

def maskEntries : List (Scalar × Value) → List (Scalar × Value)
  | [] => []
  | (key, value) :: rest => (key, maskCredentialValue value) :: maskEntries rest

end

/-- `path.rsplit("/", 1)[-1]`. -/
def lastSegment (path : Text) : Text := (path.splitOn slash).getLastD []

/-- What `_change_entry` masks. -/
def masksChange (path : Text) : Bool :=
  hasCredentialsSegment path || credentialShaped (lastSegment path)

/-- `_change_entry`. -/
def changeEntry (path : Text) (left right : Value) : Change where
  path := if path = [] then [slash] else path
  left := if masksChange path then maskCredentialValue left else left
  right := if masksChange path then maskCredentialValue right else right

/-! ### The budget -/

def maxChanges : ℕ := 10000
def maxChangeChars : ℕ := 1000000

/-- `_ChangeBudget`. -/
structure Budget where
  changes : ℕ
  chars : ℕ
  truncated : Bool
  deriving DecidableEq, Repr

/-- `take`. -/
def Budget.take (budget : Budget) (cost : ℕ) : Bool × Budget :=
  if budget.changes ≥ maxChanges || budget.chars + cost > maxChangeChars then
    (false, { budget with truncated := true })
  else (true, { budget with changes := budget.changes + 1, chars := budget.chars + cost })

/-- The changes of a comparison, and the budget it leaves. -/
abbrev Diffed := Run (List Change × Budget)

/-- Two values to compare, at a path. -/
abbrev Comparison := Text → Budget → Diffed

/-- `_emit`. -/
def emit (left right : Value) : Comparison := fun path budget =>
  let (granted, budget) := budget.take (path.length + 32)
  pure (if granted then [changeEntry path left right] else [], budget)

/-- `_diff` of two values that are compared as a whole. -/
def diffLeaf (left right : Value) : Comparison := fun path budget =>
  if budget.truncated then pure ([], budget)
  else if left.equal right then pure ([], budget)
  else emit left right path budget

/-! ### Keys and names -/

/-- The keys of both sides, each with its comparison; what is not there is null. -/
def pairUp (left : List (Scalar × (Value → Comparison))) (right : Mapping) :
    List (Scalar × Comparison) :=
  left.map (fun (key, differ) => (key, differ (right.at key))) ++
    (right.filter fun entry => !left.any fun other => other.1.same entry.1).map
      fun (key, value) => (key, diffLeaf .null value)

/-- `sorted(…)`. -/
def sortByKey (pairs : List (Scalar × Comparison)) : Run (List (Scalar × Comparison)) :=
  if sortable (pairs.map Prod.fst) then
    pure (pairs.insertionSort fun first second => first.1.before second.1)
  else throw .typeError

/-- `sorted(…, key=str)`. -/
def sortByName (runtime : Runtime) (pairs : List (Scalar × Comparison)) :
    Run (List (Scalar × Comparison)) := do
  let written ← pairs.mapM fun pair => do pure (← runtime.str (.scalar pair.1), pair)
  pure ((written.insertionSort fun first second => first.1 ≤ second.1).map Prod.snd)

/-- The loop over the sorted keys. -/
def diffLoop (runtime : Runtime) (path : Text) : List (Scalar × Comparison) → Budget → Diffed
  | [], budget => pure ([], budget)
  | (key, compare) :: rest, budget => do
      let segment ← runtime.str (.scalar key)
      let (changes, budget) ← compare (path ++ slash :: segment) budget
      if budget.truncated then pure (changes, budget)
      else do
        let (more, budget) ← diffLoop runtime path rest budget
        pure (changes ++ more, budget)

/-- `_list_key`: the names a list can be keyed by. -/
def listKeys : List Text := ["name", "hostname", "networkType"].map text

def hasKey (key : Text) (item : Value) : Bool :=
  item.asMapping.any fun entry => entry.1 = .str key

/-- `_list_key`. -/
def listKey : List Value → Option Text
  | [] => none
  | item :: _ => listKeys.find? fun candidate => hasKey candidate item

/-- `named[name] = payload`. -/
def setNamed {Payload : Type} (named : List (Scalar × Payload)) (name : Scalar)
    (payload : Payload) : List (Scalar × Payload) :=
  if named.any fun other => other.1.same name then
    named.map fun other => if other.1.same name then (other.1, payload) else other
  else named ++ [(name, payload)]

/-- An item of the comprehension, with what is kept of it. -/
def nameItem {Payload : Type} (key : Text) (named : List (Scalar × Payload))
    (item : Value × Payload) : Run (List (Scalar × Payload)) :=
  match item.1 with
  | .dict entries =>
      match Mapping.at entries (.str key) with
      | .scalar name => pure (setNamed named name item.2)
      | _ => throw .typeError
  | _ => pure named

/-- `{item.get(key): … for item in items if isinstance(item, dict)}`. -/
def byName {Payload : Type} (key : Text) (items : List (Value × Payload)) :
    Run (List (Scalar × Payload)) := items.foldlM (nameItem key) []

/-! ### The diff -/

mutual

/-- `_diff` and `_diff_lists`. -/
def diff (runtime : Runtime) : Value → Value → Comparison
  | .dict left, .dict right => fun path budget =>
      if budget.truncated then pure ([], budget)
      else do
        let pairs ← sortByKey (pairUp (diffEntries runtime left) right)
        diffLoop runtime path pairs budget
  | .list left, .list right => fun path budget =>
      if budget.truncated then pure ([], budget)
      else
        match (listKey left).or (listKey right) with
        | some key => do
            let lefts ← byName key (diffItems runtime left)
            let rights ← byName key (right.map fun item => (item, item))
            let pairs ← sortByName runtime (pairUp lefts rights)
            diffLoop runtime path pairs budget
        | none => diffLeaf (.list left) (.list right) path budget
  | left, right => diffLeaf left right

/-- Each item with the comparison it waits for. -/
def diffItems (runtime : Runtime) : List Value → List (Value × (Value → Comparison))
  | [] => []
  | item :: rest => (item, diff runtime item) :: diffItems runtime rest

def diffEntries (runtime : Runtime) : List (Scalar × Value) → List (Scalar × (Value → Comparison))
  | [] => []
  | (key, value) :: rest => (key, diff runtime value) :: diffEntries runtime rest

end

/-! ### The tool -/

def Severity.name : Severity → Text
  | .critical => text "critical"
  | .error => text "error"
  | .warning => text "warning"
  | .info => text "info"

/-- `asdict`. -/
def Finding.asDict (finding : Finding) : Value :=
  mapping [("code", .str finding.code), ("severity", .str finding.severity.name),
    ("path", .str finding.path), ("message", .str finding.message), ("fix", .str finding.fix),
    ("source", .str finding.source), ("source_url", .str finding.sourceUrl)]

def Change.asDict (change : Change) : Value :=
  mapping [("path", .str change.path), ("left", change.left), ("right", change.right)]

/-- `VCF-INPUT-UNREADABLE`. -/
def inputUnreadable (path excType : Text) : Finding where
  code := text "VCF-INPUT-UNREADABLE"
  severity := .critical
  path := path
  message := text "The document could not be read (" ++ excType ++ text ")."
  fix := text "Provide a YAML or JSON mapping within the size, depth, alias and expanded-node limits."
  source := text "schema"
  sourceUrl := []

/-- `VCF-DIFF-TRUNCATED`. -/
def diffTruncated : Finding where
  code := text "VCF-DIFF-TRUNCATED"
  severity := .error
  path := text "/"
  message := text "The diff was truncated at " ++ decimal (maxChanges : ℕ) ++ text " changes / " ++
    decimal (maxChangeChars : ℕ) ++ text
      " characters: this comparison is INCOMPLETE and must not be read as 'nothing else changed'."
  fix := text "Diff a smaller pair of documents, or narrower sections of them. A document using YAML aliases can expand to far more changes than its source text suggests."
  source := text "schema"
  sourceUrl := []

/-- The answer when a document cannot be read. -/
def unreadable (side : String) (excType : Text) : Value :=
  redact (mapping [("valid", .scalar (.bool false)),
    ("findings", .list [(inputUnreadable (slash :: text side) excType).asDict])])

/-- The answer with the changes. -/
def diffResponse (changes : List Change) (truncated : Bool) : Value :=
  redact (mapping [("valid", .scalar (.bool !truncated)),
    ("findings", .list (if truncated then [diffTruncated.asDict] else [])),
    ("changes", .list (changes.map Change.asDict)),
    ("changed", .scalar (.int changes.length)), ("truncated", .scalar (.bool truncated))])

/-- `tool_diff_spec` of what `load_document` makes of the arguments: a document, or the class name
of the exception it raises. -/
def toolDiffSpec (runtime : Runtime) (left right : Except Text Value) : Run Value :=
  match left, right with
  | .error excType, _ => pure (unreadable "left" excType)
  | .ok _, .error excType => pure (unreadable "right" excType)
  | .ok left, .ok right => do
      let (changes, budget) ← diff runtime left right [] ⟨0, 0, false⟩
      pure (diffResponse changes budget.truncated)

end VcfSpec

end LocalGpuCluster
