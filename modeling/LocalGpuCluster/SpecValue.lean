/-
This file holds the documents that `vcfspec` works on and the findings it reports about them. A
document is what the safe YAML loader yields of JSON's values, under keys that may be any scalar;
timestamps, binaries and sets are left out. `str` of a value that is not a string is a parameter.

A position is the list of steps that leads to it. Where all keys are strings, each once, a pointer
names one position, and a position holds one value.
-/

import LocalGpuCluster.Text
import Mathlib.Data.List.Infix
import Mathlib.Data.List.Nodup
import Mathlib.Data.List.Sort

namespace LocalGpuCluster

namespace VcfSpec

/-! ### Values -/

/-- A `float`. -/
abbrev Double := Float.Model

inductive Scalar where
  | null
  | bool (value : Bool)
  | int (value : ℤ)
  | float (value : Double)
  | str (value : Text)
  deriving DecidableEq

inductive Value where
  | scalar (value : Scalar)
  | list (items : List Value)
  | dict (entries : List (Scalar × Value))

namespace Value

abbrev null : Value := .scalar .null
abbrev str (value : Text) : Value := .scalar (.str value)

/-- Induction over a value: what holds of a list's items and of a mapping's values holds of it. -/
theorem induction {motive : Value → Prop} (scalar : ∀ value, motive (.scalar value))
    (list : ∀ items, (∀ item ∈ items, motive item) → motive (.list items))
    (dict : ∀ entries, (∀ entry ∈ entries, motive entry.2) → motive (.dict entries)) :
    ∀ value, motive value
  | .scalar value => scalar value
  | .list items => list items fun item _ => induction scalar list dict item
  | .dict entries => dict entries fun entry _ => induction scalar list dict entry.2
decreasing_by
  · have below := List.sizeOf_lt_of_mem ‹_ ∈ _›
    simp only [Value.list.sizeOf_spec]
    omega
  · have below := List.sizeOf_lt_of_mem ‹_ ∈ _›
    obtain ⟨key, value⟩ := entry
    simp only [Value.dict.sizeOf_spec, Prod.mk.sizeOf_spec] at below ⊢
    omega

/-- `isinstance(value, (str, int, float, bool))`. -/
def isSimple : Value → Bool
  | .scalar .null => false
  | .scalar _ => true
  | _ => false

end Value

/-- `str` of a value that is not a string. -/
structure Builtins where
  strOf : Value → Text

/-- `str(value)`. -/
def Builtins.str (builtins : Builtins) : Value → Text
  | .scalar (.str value) => value
  | value => builtins.strOf value

/-! ### Findings -/

inductive Severity where
  | critical
  | error
  | warning
  | info
  deriving DecidableEq, Repr

/-- `BLOCKING`. -/
def Severity.blocking : Severity → Bool
  | .critical | .error => true
  | .warning | .info => false

structure Finding where
  code : Text
  severity : Severity
  path : Text
  message : Text
  fix : Text
  source : Text
  sourceUrl : Text
  deriving DecidableEq, Repr

/-- `Result.valid`. -/
def valid (findings : List Finding) : Bool := !findings.any fun finding => finding.severity.blocking

theorem valid_eq_false {findings : List Finding} {finding : Finding} (member : finding ∈ findings)
    (blocking : finding.severity.blocking = true) : valid findings = false := by
  have found : (findings.any fun finding => finding.severity.blocking) = true :=
    List.any_eq_true.mpr ⟨finding, member, blocking⟩
  rw [valid, found]
  rfl

/-! ### Positions -/

inductive Step where
  | key (key : Scalar)
  | item (index : ℕ)
  deriving DecidableEq

/-- The value at a position. -/
inductive At : Value → List Step → Value → Prop
  | here {value : Value} : At value [] value
  | key {entries : List (Scalar × Value)} {key : Scalar} {child value : Value} {path : List Step}
      (member : (key, child) ∈ entries) (under : At child path value) :
      At (.dict entries) (.key key :: path) value
  | item {items : List Value} {index : ℕ} {child value : Value} {path : List Step}
      (member : items[index]? = some child) (under : At child path value) :
      At (.list items) (.item index :: path) value

/-- Nothing is under a scalar. -/
theorem At.eq_nil {value : Scalar} {path : List Step} {leaf : Value}
    (under : At (.scalar value) path leaf) : path = [] := by
  cases under
  rfl

theorem At.split {doc value : Value} {path rest : List Step} (whole : At doc (path ++ rest) value) :
    ∃ middle, At doc path middle ∧ At middle rest value := by
  induction path generalizing doc with
  | nil => exact ⟨doc, .here, whole⟩
  | cons step path inductionHypothesis =>
    cases whole with
    | key member under =>
      obtain ⟨middle, above, below⟩ := inductionHypothesis under
      exact ⟨middle, .key member above, below⟩
    | item member under =>
      obtain ⟨middle, above, below⟩ := inductionHypothesis under
      exact ⟨middle, .item member above, below⟩

/-- All keys are strings, and a mapping has each of its keys once. -/
inductive JsonLike : Value → Prop
  | scalar {value : Scalar} : JsonLike (.scalar value)
  | list {items : List Value} (items_jsonLike : ∀ item ∈ items, JsonLike item) :
      JsonLike (.list items)
  | dict {entries : List (Scalar × Value)} (distinct : (entries.map Prod.fst).Nodup)
      (named : ∀ entry ∈ entries, ∃ name, entry.1 = .str name)
      (values_jsonLike : ∀ entry ∈ entries, JsonLike entry.2) : JsonLike (.dict entries)

/-- The key of a mapping has one value. -/
theorem child_unique {entries : List (Scalar × Value)} (distinct : (entries.map Prod.fst).Nodup)
    {key : Scalar} {first second : Value} (memberFirst : (key, first) ∈ entries)
    (memberSecond : (key, second) ∈ entries) : first = second :=
  congrArg Prod.snd (List.inj_on_of_nodup_map distinct memberFirst memberSecond rfl)

/-- What is further down a position is under the value there. -/
theorem At.under {doc middle value : Value} {path rest : List Step} (jsonLike : JsonLike doc)
    (above : At doc path middle) (below : At doc (path ++ rest) value) : At middle rest value := by
  induction above with
  | here => exact below
  | key member _ inductionHypothesis =>
    cases jsonLike with
    | dict distinct _ values_jsonLike =>
      cases below with
      | key member' under' =>
        rw [child_unique distinct member' member] at under'
        exact inductionHypothesis (values_jsonLike _ member) under'
  | item member _ inductionHypothesis =>
    cases jsonLike with
    | list items_jsonLike =>
      cases below with
      | item member' under' =>
        rw [Option.some.inj (member'.symm.trans member)] at under'
        exact inductionHypothesis (items_jsonLike _ (List.mem_of_getElem? member)) under'

/-! ### Pointers -/

def slash : CodePoint := 0x2F
def tilde : CodePoint := 0x7E

/-- `_escape_segment` of one character. -/
def escapePoint (point : CodePoint) : Text :=
  if point = tilde then text "~0" else if point = slash then text "~1" else [point]

/-- `_escape_segment`: `~` is replaced before `/`. -/
def escapeSegment (segment : Text) : Text := segment.flatMap escapePoint

/-- The segment of a step. -/
def Step.segment (builtins : Builtins) : Step → Text
  | .key name => escapeSegment (builtins.str (.scalar name))
  | .item index => decimal (index : ℕ)

/-- The pointer of a position. -/
def pointer (builtins : Builtins) (path : List Step) : Text :=
  path.flatMap fun step => slash :: step.segment builtins

/-- A tilde starts only what an escaped character becomes. -/
theorem escapePoint_eq (point : CodePoint) :
    point = tilde ∧ escapePoint point = [tilde, 0x30] ∨
      point = slash ∧ escapePoint point = [tilde, 0x31] ∨
      point ≠ tilde ∧ escapePoint point = [point] := by
  unfold escapePoint
  by_cases isTilde : point = tilde
  · exact Or.inl ⟨isTilde, if_pos isTilde⟩
  · rw [if_neg isTilde]
    by_cases isSlash : point = slash
    · exact Or.inr (Or.inl ⟨isSlash, if_pos isSlash⟩)
    · exact Or.inr (Or.inr ⟨isTilde, if_neg isSlash⟩)

theorem escapePoint_append {first second : CodePoint} {restFirst restSecond : Text}
    (same : escapePoint first ++ restFirst = escapePoint second ++ restSecond) :
    first = second ∧ restFirst = restSecond := by
  have apart : (0x30 : CodePoint) ≠ 0x31 := by decide
  obtain ⟨isFirst, escaped⟩ | ⟨isFirst, escaped⟩ | ⟨isFirst, escaped⟩ := escapePoint_eq first <;>
    obtain ⟨isSecond, escaped'⟩ | ⟨isSecond, escaped'⟩ | ⟨isSecond, escaped'⟩ :=
      escapePoint_eq second <;>
    rw [escaped, escaped'] at same <;>
    obtain ⟨heads, tails⟩ := List.cons.inj same
  · exact ⟨isFirst.trans isSecond.symm, (List.cons.inj tails).2⟩
  · exact absurd (List.cons.inj tails).1 apart
  · exact absurd heads.symm isSecond
  · exact absurd (List.cons.inj tails).1.symm apart
  · exact ⟨isFirst.trans isSecond.symm, (List.cons.inj tails).2⟩
  · exact absurd heads.symm isSecond
  · exact absurd heads isFirst
  · exact absurd heads isFirst
  · exact ⟨heads, tails⟩

theorem escapeSegment_injective {first second : Text}
    (same : escapeSegment first = escapeSegment second) : first = second := by
  have present (point : CodePoint) (rest : Text) : escapePoint point ++ rest ≠ [] := by
    unfold escapePoint
    split
    · exact List.cons_ne_nil _ _
    · split <;> exact List.cons_ne_nil _ _
  induction first generalizing second with
  | nil =>
    cases second with
    | nil => rfl
    | cons point rest => exact absurd same.symm (present point _)
  | cons point rest inductionHypothesis =>
    cases second with
    | nil => exact absurd same (present point _)
    | cons other more =>
      have apart : escapePoint point ++ escapeSegment rest =
          escapePoint other ++ escapeSegment more := same
      obtain ⟨heads, tails⟩ := escapePoint_append apart
      rw [heads, inductionHypothesis tails]

theorem slash_not_mem_escapeSegment (segment : Text) : slash ∉ escapeSegment segment := by
  intro member
  obtain ⟨point, _, inPoint⟩ := List.mem_flatMap.mp member
  unfold escapePoint at inPoint
  split at inPoint
  · exact absurd inPoint (by decide)
  · split at inPoint
    · exact absurd inPoint (by decide)
    · rename_i notSlash
      exact notSlash (List.mem_singleton.mp inPoint).symm

theorem slash_not_mem_segment (builtins : Builtins) (step : Step) :
    slash ∉ step.segment builtins := by
  cases step with
  | key => exact slash_not_mem_escapeSegment _
  | item index =>
    intro member
    have digit := isDigit_of_mem_decimal member
    exact absurd digit.1 (by decide)

/-- Texts without a slash that a slash or the end follows. -/
theorem append_slash_inj {first second restFirst restSecond : Text} (noSlash : slash ∉ first)
    (noSlash' : slash ∉ second) (ended : restFirst = [] ∨ ∃ more, restFirst = slash :: more)
    (ended' : restSecond = [] ∨ ∃ more, restSecond = slash :: more)
    (same : first ++ restFirst = second ++ restSecond) :
    first = second ∧ restFirst = restSecond := by
  induction first generalizing second with
  | nil =>
    cases second with
    | nil => exact ⟨rfl, same⟩
    | cons point rest =>
      obtain rfl | ⟨more, rfl⟩ := ended
      · exact absurd same (by simp)
      · exact absurd (List.mem_cons.mpr (Or.inl (List.cons.inj same).1)) noSlash'
  | cons point rest inductionHypothesis =>
    cases second with
    | nil =>
      obtain rfl | ⟨more, rfl⟩ := ended'
      · exact absurd same (by simp)
      · exact absurd (List.mem_cons.mpr (Or.inl (List.cons.inj same).1.symm)) noSlash
    | cons other more =>
      obtain ⟨heads, tails⟩ := List.cons.inj same
      obtain ⟨rests, ends⟩ := inductionHypothesis
        (fun member => noSlash (List.mem_cons_of_mem _ member))
        (fun member => noSlash' (List.mem_cons_of_mem _ member)) tails
      exact ⟨by rw [heads, rests], ends⟩

theorem pointer_ended (builtins : Builtins) (path : List Step) :
    pointer builtins path = [] ∨ ∃ more, pointer builtins path = slash :: more := by
  cases path with
  | nil => exact Or.inl rfl
  | cons step rest => exact Or.inr ⟨_, rfl⟩

theorem pointer_cons_inj {builtins : Builtins} {first second : Step} {path other : List Step}
    (same : pointer builtins (first :: path) = pointer builtins (second :: other)) :
    first.segment builtins = second.segment builtins ∧
      pointer builtins path = pointer builtins other :=
  append_slash_inj (slash_not_mem_segment builtins first) (slash_not_mem_segment builtins second)
    (pointer_ended builtins path) (pointer_ended builtins other) (List.cons.inj same).2

/-- A pointer names one position. -/
theorem pointer_injective {builtins : Builtins} {doc first second : Value}
    {path other : List Step} (jsonLike : JsonLike doc) (here : At doc path first)
    (there : At doc other second) (same : pointer builtins path = pointer builtins other) :
    path = other := by
  induction here generalizing other with
  | here =>
    cases other with
    | nil => rfl
    | cons step rest => exact absurd same (List.cons_ne_nil _ _).symm
  | key member _ inductionHypothesis =>
    cases there with
    | here => exact absurd same (List.cons_ne_nil _ _)
    | key member' under' =>
      cases jsonLike with
      | dict distinct named values_jsonLike =>
        obtain ⟨segments, rests⟩ := pointer_cons_inj same
        obtain ⟨name, isName⟩ := named _ member
        obtain ⟨name', isName'⟩ := named _ member'
        dsimp only at isName isName'
        subst isName isName'
        have names : name = name' := escapeSegment_injective segments
        subst names
        rw [child_unique distinct member' member] at under'
        rw [inductionHypothesis (values_jsonLike _ member) under' rests]
  | item member _ inductionHypothesis =>
    cases there with
    | here => exact absurd same (List.cons_ne_nil _ _)
    | item member' under' =>
      cases jsonLike with
      | list items_jsonLike =>
        obtain ⟨segments, rests⟩ := pointer_cons_inj same
        have indices := decimal_natCast_injective segments
        subst indices
        rw [Option.some.inj (member'.symm.trans member)] at under'
        rw [inductionHypothesis (items_jsonLike _ (List.mem_of_getElem? member)) under' rests]

end VcfSpec

end LocalGpuCluster
