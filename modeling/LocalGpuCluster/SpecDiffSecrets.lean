/-
This file proves when the diff of two documents keeps a credential to itself. The diff goes from the
roots of the documents towards the place of the credential, and compares a value that holds it as a
whole; a change there hides the literal or shows it. A literal that is the name of a list item is
part of the paths below the item, and one in an item that is left out is not looked at.
-/

import LocalGpuCluster.SpecDiffMask

namespace LocalGpuCluster

namespace VcfSpec

/-! ### Where the diff compares a place -/

inductive Side where
  | left
  | right
  deriving DecidableEq, Repr

/-- The value on a side. -/
def Side.pick (side : Side) (left right : Value) : Value :=
  match side with
  | .left => left
  | .right => right

inductive Fate where
  /-- The values that hold the place are compared as a whole, at a path; the place is further down. -/
  | compared (path : Text) (left right : Value) (rest : List Step)
  /-- The place holds the name of a list item. -/
  | name
  /-- The item that holds the place is left out of the comparison. -/
  | dropped

/-- The item is an object, and no later object of the list has its name. -/
def isKept (key : Text) (items : List Value) (index : ℕ) (item : Value) : Bool :=
  item.kind = .dict && !(items.drop (index + 1)).any fun other =>
    other.kind = .dict && (nameOf key other).same (nameOf key item)

def Fate.isName : Fate → Bool
  | .name => true
  | _ => false

theorem keys_setNamed {Payload : Type} (named : List (Scalar × Payload)) (name : Scalar)
    (payload : Payload) : (setNamed named name payload).map Prod.fst =
      if named.any fun other => other.1.same name then named.map Prod.fst
      else named.map Prod.fst ++ [name] := by
  unfold setNamed
  split
  · rw [List.map_map]
    refine List.map_congr_left fun other _ => ?_
    simp only [Function.comp_apply]
    split <;> rfl
  · rw [List.map_append]
    rfl

theorem at_setNamed {named : Mapping} (distinct : (named.map fun entry => entry.1.canonical).Nodup)
    (name other : Scalar) (item : Value) :
    Mapping.at (setNamed named name item) other =
      if other.canonical = name.canonical then item else Mapping.at named other := by
  have nodup := nodup_setNamed distinct name item
  split
  · rename_i same
    have member : ∃ key, (key, item) ∈ setNamed named name item ∧
        key.canonical = name.canonical := by
      unfold setNamed
      split
      · rename_i known
        obtain ⟨entry, inNamed, isName⟩ := List.any_eq_true.mp known
        exact ⟨entry.1, List.mem_map.mpr ⟨entry, inNamed, if_pos isName⟩, Scalar.same_iff.mp isName⟩
      · exact ⟨name, List.mem_append_right _ (List.mem_singleton_self _), rfl⟩
    obtain ⟨key, inSet, isName⟩ := member
    exact Mapping.at_of_mem nodup inSet (same.trans isName.symm)
  · rename_i apart
    by_cases present : ∃ entry ∈ named, other.canonical = entry.1.canonical
    · obtain ⟨entry, inNamed, same⟩ := present
      have notName : ¬entry.1.same name = true := fun isName =>
        apart (same.trans (Scalar.same_iff.mp isName))
      have kept : entry ∈ setNamed named name item := by
        unfold setNamed
        split
        · exact List.mem_map.mpr ⟨entry, inNamed, if_neg notName⟩
        · exact List.mem_append_left _ inNamed
      rw [Mapping.at_of_mem distinct inNamed same]
      exact Mapping.at_of_mem nodup kept same
    · have absent : ∀ entry ∈ named, other.same entry.1 = false := fun entry inNamed =>
        Scalar.same_eq_false.mpr fun same => present ⟨entry, inNamed, same⟩
      rw [Mapping.at_of_absent absent]
      refine Mapping.at_of_absent fun entry inSet => Scalar.same_eq_false.mpr fun same => ?_
      have isKey : entry.1 ∈ (setNamed named name item).map Prod.fst := List.mem_map_of_mem inSet
      rw [keys_setNamed] at isKey
      split at isKey
      · obtain ⟨found, inNamed, isFound⟩ := List.mem_map.mp isKey
        exact present ⟨found, inNamed, isFound ▸ same⟩
      · obtain inNamed | isName := List.mem_append.mp isKey
        · obtain ⟨found, inNamed, isFound⟩ := List.mem_map.mp inNamed
          exact present ⟨found, inNamed, isFound ▸ same⟩
        · exact apart (List.mem_singleton.mp isName ▸ same)

/-- What is kept under a name is the last object that has it. -/
theorem at_namedItems {key : Text} {items : List Value} {named : Mapping}
    (ran : namedItems key items = .ok named) (name : Scalar) :
    Mapping.at named name = ((items.filter fun item =>
      item.kind = .dict && (nameOf key item).same name).getLast?).getD .null := by
  induction items using List.reverseRecOn generalizing named with
  | nil =>
    cases ran
    rfl
  | append_singleton items item inductionHypothesis =>
    rw [namedItems, List.map_append, byName, List.foldlM_append] at ran
    obtain ⟨middle, before, last⟩ := Run.bind_eq_ok.mp ran
    have middleDistinct := nodup_byName before
    have earlier := inductionHypothesis before
    rw [List.filter_append]
    obtain ⟨made, step, done⟩ := Run.bind_eq_ok.mp last
    cases done
    cases item with
    | scalar | list =>
      cases step
      rw [earlier, List.filter_singleton]
      exact congrArg (fun found => (List.getLast? found).getD Value.null) (List.append_nil _).symm
    | dict entries =>
      rw [nameItem] at step
      dsimp only at step
      split at step
      · rename_i itemName isName
        cases step
        have named : nameOf key (.dict entries) = itemName := by
          unfold nameOf
          dsimp only [Value.asMapping]
          rw [isName]
        rw [at_setNamed middleDistinct, earlier]
        by_cases same : name.canonical = itemName.canonical
        · have kept : [Value.dict entries].filter (fun item =>
              item.kind = .dict && (nameOf key item).same name) = [.dict entries] := by
            rw [List.filter_singleton, named, Scalar.same_iff.mpr same.symm]
            rfl
          rw [if_pos same, kept, List.getLast?_append_of_ne_nil _ (List.cons_ne_nil _ _)]
          rfl
        · have left : [Value.dict entries].filter (fun item =>
              item.kind = .dict && (nameOf key item).same name) = [] := by
            rw [List.filter_singleton, named, Scalar.same_eq_false.mpr (Ne.symm same)]
            rfl
          rw [if_neg same, left, List.append_nil]
      · cases step

section

variable {key : Text} {items : List Value} {index : ℕ} {item : Value} {literal new : Scalar}
  {rest : List Step}

end

/-! ### Two runs -/

section

variable {runtime : Runtime} {side : Side} {literal new : Scalar} {path : Text}

theorem Distinct.at {mapping : Mapping} (distinct : Distinct (.dict mapping)) (key : Scalar) :
    Distinct (Mapping.at mapping key) := by
  unfold Mapping.at
  cases found : mapping.find? fun entry => key.same entry.1 with
  | none => exact .scalar
  | some entry => exact distinct.of_mem (List.mem_of_find?_eq_some found)

theorem Distinct.at_named {key : Text} {items : List Value} (distinct : Distinct (.list items))
    {named : Mapping} (ran : namedItems key items = .ok named) (name : Scalar) :
    Distinct (Mapping.at named name) := by
  rw [at_namedItems ran]
  cases last : (items.filter fun item =>
      item.kind = .dict && (nameOf key item).same name).getLast? with
  | none => exact .scalar
  | some item => exact distinct.of_item (List.mem_of_mem_filter (List.mem_of_getLast? last))

theorem Distinct.keys {mapping : Mapping} (distinct : Distinct (.dict mapping)) :
    (mapping.map fun entry => entry.1.canonical).Nodup := by
  cases distinct with
  | dict keys _ => exact keys

end

/-! ### The response -/

end VcfSpec

end LocalGpuCluster
