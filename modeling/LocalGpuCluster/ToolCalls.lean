/-
This file models `ToolCallAccumulator` of `router-app.py`, which gathers the calls that a streamed
answer makes from their fragments, and proves when a call is what its fragments spell. The fragments
of a call are told apart from those of other calls by their index alone, and its arguments are the
concatenation of theirs. The id and the name are not: each is the last one that is not empty, so that
they are what the fragments spell exactly where no second fragment adds to them.
-/

import LocalGpuCluster.Dictionary
import LocalGpuCluster.Json

namespace LocalGpuCluster

namespace ToolLoop

/-- A value as a key of a dict: numbers that are equal are one key. -/
inductive Key where
  | null
  | number (value : ℚ)
  | infinite
  | notANumber
  | str (value : Text)
  deriving DecidableEq, Repr

/-- The key a value is, `none` where it cannot be one. -/
def keyOf : Json → Option Key
  | .null => some .null
  | .bool value => some (.number (if value then 1 else 0))
  | .int value => some (.number value)
  | .float (.finite value) => some (.number value)
  | .float .infinite => some .infinite
  | .float .notANumber => some .notANumber
  | .str value => some (.str value)
  | .arr _ | .obj _ => none

/-- What a delta of `tool_calls` says of the call it is about. -/
structure ToolCallDelta where
  index : Key
  id : Json
  name : Json
  arguments : Text

/-- `fn.get("arguments")`, nothing where it is falsy; `none` where `+=` raises. -/
def argumentsOf (fn : List (Text × Json)) : Option Text :=
  match Json.getIn fn (text "arguments") with
  | .str fragment => some fragment
  | value => if value.truthy then none else some []

/-- A delta as `feed` reads it, `none` where it raises. -/
def readDelta : Json → Option ToolCallDelta
  | .obj tc => do
      let index ← keyOf ((tc.lookup (text "index")).getD (.int 0))
      match (Json.getIn tc (text "function")).orElse (.obj []) with
      | .obj fn =>
          let arguments ← argumentsOf fn
          some ⟨index, Json.getIn tc (text "id"), Json.getIn fn (text "name"), arguments⟩
      | _ => none
  | _ => none

/-- The deltas that `feed` goes through. -/
def readDeltas (deltaToolCalls : Json) : Option (List ToolCallDelta) :=
  match deltaToolCalls.orElse (.arr []) with
  | .arr items => items.mapM readDelta
  | _ => none

/-- A call as far as it has come. -/
structure ToolCall where
  id : Json
  name : Json
  arguments : Text

def ToolCall.blank : ToolCall := ⟨.null, .null, []⟩

/-- What a delta makes of its call. -/
def ToolCall.take (call : ToolCall) (delta : ToolCallDelta) : ToolCall where
  id := delta.id.orElse call.id
  name := delta.name.orElse call.name
  arguments := call.arguments ++ delta.arguments

/-- The calls so far under their indices, in the order the model emitted them. -/
abbrev ToolCallAccumulator := List (Key × ToolCall)

namespace ToolCallAccumulator

/-- `feed`. -/
def feed (calls : ToolCallAccumulator) (deltas : List ToolCallDelta) : ToolCallAccumulator :=
  deltas.foldl (fun calls delta =>
    Dictionary.assign calls delta.index (((calls.lookup delta.index).getD .blank).take delta)) calls

/-- `has_any`. -/
def hasAny (calls : ToolCallAccumulator) : Bool := !calls.isEmpty

/-- `finalize`. -/
def finalize (calls : ToolCallAccumulator) : List ToolCall := calls.map Prod.snd

end ToolCallAccumulator

/-- The calls of a stream whose chunks bring these deltas. -/
def accumulate (chunks : List (List ToolCallDelta)) : List ToolCall :=
  ToolCallAccumulator.finalize (chunks.foldl ToolCallAccumulator.feed [])

/-- The deltas of one call. -/
def fragments (index : Key) (deltas : List ToolCallDelta) : List ToolCallDelta :=
  Dictionary.own ToolCallDelta.index index deltas

/-- The indices, each where it comes first. -/
def indices (deltas : List ToolCallDelta) : List Key :=
  Dictionary.firsts ToolCallDelta.index deltas

/-- The calls come in the order of their first deltas, and each is made of its own alone. -/
theorem accumulate_eq (chunks : List (List ToolCallDelta)) : accumulate chunks =
    (indices chunks.flatten).map fun index =>
      (fragments index chunks.flatten).foldl ToolCall.take .blank := by
  have whole : chunks.foldl ToolCallAccumulator.feed [] =
      Dictionary.gather ToolCallDelta.index ToolCall.blank ToolCall.take chunks.flatten :=
    List.foldl_flatten.symm
  rw [accumulate, whole, Dictionary.gather_eq, ToolCallAccumulator.finalize, List.map_map]
  rfl

/-! ### What the fragments spell -/

/-- A fragment of an id or a name: nothing where it is null. -/
def fragment : Json → Text
  | .str value => value
  | _ => []

/-- An id or a name as a delta may bring it: absent, null or a string. -/
def IsText (value : Json) : Prop := value = .null ∨ ∃ content, value = .str content

def ToolCallDelta.Textual (delta : ToolCallDelta) : Prop := IsText delta.id ∧ IsText delta.name

/-- A call that has what the fragments of its own deltas spell. -/
def Spells (call : ToolCall) (own : List ToolCallDelta) : Prop :=
  fragment call.id = own.flatMap (fun delta => fragment delta.id) ∧
    fragment call.name = own.flatMap (fun delta => fragment delta.name) ∧
    call.arguments = own.flatMap ToolCallDelta.arguments

/-- One call for each index, in the order of their first deltas, and each is what its own fragments
spell. -/
def Concatenated (chunks : List (List ToolCallDelta)) : Prop :=
  List.Forall₂ (fun call index => Spells call (fragments index chunks.flatten)) (accumulate chunks)
    (indices chunks.flatten)

/-- No second fragment adds to an id or a name. -/
def Unsplit (own : List ToolCallDelta) : Prop :=
  (own.filter fun delta => delta.id.truthy).length ≤ 1 ∧
    (own.filter fun delta => delta.name.truthy).length ≤ 1

instance (own : List ToolCallDelta) : Decidable (Unsplit own) := instDecidableAnd

/-- The last value that is not empty. -/
def lastOf (values : List Json) : Json := values.foldl (fun last value => value.orElse last) .null

theorem foldl_take (own : List ToolCallDelta) (call : ToolCall) :
    own.foldl ToolCall.take call =
      ⟨(own.map ToolCallDelta.id).foldl (fun last value => value.orElse last) call.id,
        (own.map ToolCallDelta.name).foldl (fun last value => value.orElse last) call.name,
        call.arguments ++ own.flatMap ToolCallDelta.arguments⟩ := by
  induction own generalizing call with
  | nil => rw [List.flatMap_nil, List.append_nil]; rfl
  | cons delta rest inductionHypothesis =>
    rw [List.foldl_cons, inductionHypothesis, List.flatMap_cons, ← List.append_assoc]
    rfl

theorem fragment_of_falsy {value : Json} (textual : IsText value) (falsy : value.truthy = false) :
    fragment value = [] := by
  obtain rfl | ⟨content, rfl⟩ := textual
  · rfl
  · exact of_decide_eq_false falsy |> not_not.mp

theorem fragment_of_truthy {value : Json} (textual : IsText value) (truthy : value.truthy = true) :
    fragment value ≠ [] := by
  obtain rfl | ⟨content, rfl⟩ := textual
  · cases truthy
  · exact of_decide_eq_true truthy

/-- Nothing is spelled exactly where no value is truthy. -/
theorem flatMap_fragment_eq_nil_iff {values : List Json} (textual : ∀ value ∈ values, IsText value) :
    values.flatMap fragment = [] ↔ values.filter Json.truthy = [] := by
  rw [List.flatMap_eq_nil_iff, List.filter_eq_nil_iff]
  refine forall₂_congr fun value member => ?_
  rw [Bool.not_eq_true]
  constructor
  · intro empty
    by_contra truthy
    exact fragment_of_truthy (textual value member) (Bool.of_not_eq_false truthy) empty
  · exact fragment_of_falsy (textual value member)

/-- The last value and all of them spell the same exactly where at most one spells something. -/
theorem fragment_lastOf_iff {values : List Json} (textual : ∀ value ∈ values, IsText value) :
    fragment (lastOf values) = values.flatMap fragment ↔ (values.filter Json.truthy).length ≤ 1 := by
  induction values using List.reverseRecOn with
  | nil => exact ⟨fun _ => Nat.zero_le 1, fun _ => rfl⟩
  | append_singleton values value inductionHypothesis =>
    have before : ∀ other ∈ values, IsText other := fun other member =>
      textual other (List.mem_append_left _ member)
    have here : IsText value := textual value (List.mem_append_right _ (List.mem_singleton_self _))
    have last : lastOf (values ++ [value]) = value.orElse (lastOf values) := List.foldl_append
    rw [last, List.flatMap_append, List.flatMap_singleton, List.filter_append, List.length_append,
      List.filter_singleton, Json.orElse]
    cases truthy : value.truthy with
    | false =>
      rw [if_neg Bool.false_ne_true, fragment_of_falsy here truthy, List.append_nil]
      exact inductionHypothesis before
    | true =>
      rw [if_pos rfl, List.self_eq_append_left, flatMap_fragment_eq_nil_iff before, cond_true,
        List.length_singleton, ← List.length_eq_zero_iff]
      omega

/-- A call is what its fragments spell exactly where neither its id nor its name is split. -/
theorem spells_iff_unsplit {own : List ToolCallDelta}
    (textual : ∀ delta ∈ own, delta.Textual) :
    Spells (own.foldl ToolCall.take .blank) own ↔ Unsplit own := by
  have ids : ∀ value ∈ own.map ToolCallDelta.id, IsText value := by
    rintro value member
    obtain ⟨delta, inOwn, rfl⟩ := List.mem_map.mp member
    exact (textual delta inOwn).1
  have names : ∀ value ∈ own.map ToolCallDelta.name, IsText value := by
    rintro value member
    obtain ⟨delta, inOwn, rfl⟩ := List.mem_map.mp member
    exact (textual delta inOwn).2
  have idsIff := fragment_lastOf_iff ids
  have namesIff := fragment_lastOf_iff names
  rw [List.flatMap_map, List.filter_map, List.length_map] at idsIff namesIff
  unfold Spells Unsplit
  rw [foldl_take]
  refine and_congr idsIff ⟨fun spelled => namesIff.mp spelled.1, fun few => ⟨namesIff.mpr few, ?_⟩⟩
  exact List.nil_append _

/-- The calls are what their fragments spell exactly where no id and no name is split. -/
theorem concatenated_iff_unsplit (chunks : List (List ToolCallDelta))
    (textual : ∀ delta ∈ chunks.flatten, delta.Textual) :
    Concatenated chunks ↔ ∀ index, Unsplit (fragments index chunks.flatten) := by
  have own : ∀ index, ∀ delta ∈ fragments index chunks.flatten, delta.Textual :=
    fun index delta member => textual delta (List.mem_of_mem_filter member)
  rw [Concatenated, accumulate_eq, List.forall₂_map_left_iff, List.forall₂_same]
  constructor
  · intro spelled index
    by_cases listed : index ∈ indices chunks.flatten
    · exact (spells_iff_unsplit (own index)).mp (spelled index listed)
    · have none : fragments index chunks.flatten = [] :=
        Dictionary.own_of_not_mem _ fun member => listed (List.mem_eraseDups.mpr member)
      rw [none]
      exact ⟨Nat.zero_le 1, Nat.zero_le 1⟩
  · exact fun unsplit index _ => (spells_iff_unsplit (own index)).mpr (unsplit index)

/-- A name that comes in two pieces is cut down to its second. -/
theorem not_concatenated_splitName : ¬ Concatenated
    [[⟨.number 0, .str (text "call_1"), .str (text "get_"), []⟩],
      [⟨.number 0, .null, .str (text "weather"), []⟩]] := by
  intro concatenated
  cases concatenated with
  | cons spelled _ => exact absurd spelled.2.1 (by decide)

/-- The fragments of two calls, interleaved. -/
def interleaved : List (List ToolCallDelta) :=
  [[⟨.number 0, .str (text "call_1"), .str (text "web_fetch"), []⟩,
      ⟨.number 1, .str (text "call_2"), .str (text "tavily_map"), text "\x7b"⟩],
    [⟨.number 0, .null, .null, text "\x7b\x7d"⟩, ⟨.number 1, .str [], .null, text "\x7d"⟩]]

theorem concatenated_interleaved : Concatenated interleaved := by
  have textual : ∀ delta ∈ interleaved.flatten, delta.Textual := by
    simp [interleaved, ToolCallDelta.Textual, IsText]
  refine (concatenated_iff_unsplit interleaved textual).mpr fun index => ?_
  by_cases first : index = .number 0
  · subst first
    decide
  by_cases second : index = .number 1
  · subst second
    decide
  have none : fragments index interleaved.flatten = [] :=
    Dictionary.own_of_not_mem _ fun member => by
      have either : index = .number 0 ∨ index = .number 1 ∨ index = .number 0 ∨
        index = .number 1 := by simpa [interleaved] using member
      grind
  rw [none]
  exact ⟨Nat.zero_le 1, Nat.zero_le 1⟩

end ToolLoop

end LocalGpuCluster
