/-
This file proves what two runs of the diff have in common. What is seen of a comparison is the
changes as the response lists them and the budget that is left, and two runs are seen alike when
every pair of values that they compare under the same key or name is. Keys, names, their order and
the cost of a change depend on no value, so the runs go through the same comparisons.
-/

import LocalGpuCluster.SpecDiffComplete

namespace LocalGpuCluster

namespace VcfSpec

/-! ### What is seen -/

/-- What the response shows of a value in a change at a path. -/
def shown (path : Text) (value : Value) : Value :=
  redact (if masksChange path then maskCredentialValue value else value)

/-- The changes as the response lists them, and the budget. -/
def seen (diffed : Diffed) : Run (List Value × Budget) :=
  diffed.map fun (changes, budget) => (changes.map fun change => redact change.asDict, budget)

/-- Two comparisons are seen alike at a path. -/
def Alike (path : Text) (first second : Comparison) : Prop :=
  ∀ budget, seen (first path budget) = seen (second path budget)

theorem Alike.refl (path : Text) (compare : Comparison) : Alike path compare compare :=
  fun _ => rfl

theorem redact_changeEntry (path : Text) (left right : Value) :
    redact (changeEntry path left right).asDict =
      mapping [("path", redact (.str (changeEntry path left right).path)),
        ("left", shown path left), ("right", shown path right)] := by
  have plain : ["path", "left", "right"].all (fun key => !credentialShaped (text key)) = true := by
    decide
  simp only [List.all_cons, List.all_nil, Bool.and_true, Bool.and_eq_true, Bool.not_eq_true'] at plain
  simp only [Change.asDict, mapping, List.map_cons, List.map_nil, redact, redactEntries,
    isMaskedScalar, plain, Bool.false_and, if_neg Bool.false_ne_true]
  rfl

section

variable {runtime : Runtime} {path : Text}

/-- A key with its comparison. -/
def under (compare : Scalar → Comparison) (key : Scalar) : Scalar × Comparison := (key, compare key)

/-- What two mappings are compared by: each key with what is under it on both sides. -/
theorem pairUp_eq_map {left right : Mapping}
    (leftDistinct : (left.map fun entry => entry.1.canonical).Nodup)
    (rightDistinct : (right.map fun entry => entry.1.canonical).Nodup) :
    pairUp (diffEntries runtime left) right =
      (keysOfBoth left right).map (under fun key => diff runtime (left.at key) (right.at key)) := by
  rw [pairUp, keysOfBoth, diffEntries_eq_map, List.map_append, List.map_map, List.map_map,
    List.map_map]
  simp only [List.any_map]
  refine congrArg₂ (· ++ ·) (List.map_congr_left fun entry member => ?_)
    (List.map_congr_left fun other member => ?_)
  · have found : Mapping.at left entry.1 = entry.2 := Mapping.at_of_mem leftDistinct member rfl
    simp only [Function.comp_apply, under, found]
  · obtain ⟨inRight, absent⟩ := List.mem_filter.mp member
    rw [Bool.not_eq_true', List.any_eq_false] at absent
    have found : Mapping.at right other.1 = other.2 := Mapping.at_of_mem rightDistinct inRight rfl
    have missing : Mapping.at left other.1 = .null := by
      refine Mapping.at_of_absent fun entry inLeft => Scalar.same_eq_false.mpr fun same => ?_
      exact absent entry inLeft (Scalar.same_iff.mpr same.symm)
    simp only [Function.comp_apply, under, found, missing]
    rw [diff_eq_diffLeaf (Or.inr rfl)]

/-- The items of a list by name, the last one of each. -/
def namedItems (key : Text) (items : List Value) : Run Mapping :=
  byName key (items.map fun item => (item, item))

theorem setNamed_map {First Second : Type} (change : First → Second)
    (named : List (Scalar × First)) (name : Scalar) (payload : First) :
    setNamed (named.map (Prod.map id change)) name (change payload) =
      (setNamed named name payload).map (Prod.map id change) := by
  unfold setNamed
  rw [List.any_map]
  show (if (named.any fun other => other.1.same name) then _ else _) = _
  split
  · rw [List.map_map, List.map_map]
    refine List.map_congr_left fun other _ => ?_
    simp only [Function.comp_apply, Prod.map_fst, id_eq]
    split <;> rfl
  · rw [List.map_append]
    rfl

theorem nameItem_map {First Second : Type} (change : First → Second) (key : Text)
    (named : List (Scalar × First)) (item : Value × First) :
    nameItem key (named.map (Prod.map id change)) (Prod.map id change item) =
      (nameItem key named item).map (List.map (Prod.map id change)) := by
  unfold nameItem
  rw [Prod.map_fst, id_eq]
  split
  · split
    · exact congrArg Except.ok (setNamed_map change named _ item.2)
    · rfl
  · rfl

theorem byName_map {First Second : Type} (change : First → Second) (key : Text)
    (items : List (Value × First)) :
    byName key (items.map (Prod.map id change)) =
      (byName key items).map (List.map (Prod.map id change)) := by
  suffices general : ∀ named : List (Scalar × First),
      (items.map (Prod.map id change)).foldlM (nameItem key) (named.map (Prod.map id change)) =
        (items.foldlM (nameItem key) named).map (List.map (Prod.map id change)) from general []
  induction items with
  | nil => exact fun named => rfl
  | cons item rest inductionHypothesis =>
    intro named
    rw [List.map_cons, List.foldlM_cons, List.foldlM_cons, nameItem_map]
    cases nameItem key named item with
    | error raised => rfl
    | ok more => exact inductionHypothesis more

theorem nodup_setNamed {Payload : Type} {named : List (Scalar × Payload)}
    (nodup : (named.map fun entry => entry.1.canonical).Nodup) (name : Scalar) (payload : Payload) :
    ((setNamed named name payload).map fun entry => entry.1.canonical).Nodup := by
  unfold setNamed
  split
  · have same : ((named.map fun other =>
        if other.1.same name then (other.1, payload) else other).map fun entry =>
          entry.1.canonical) = named.map fun entry => entry.1.canonical := by
      rw [List.map_map]
      refine List.map_congr_left fun other _ => ?_
      simp only [Function.comp_apply]
      split <;> rfl
    rwa [same]
  · rename_i fresh
    rw [List.map_append, List.nodup_append]
    refine ⟨nodup, List.nodup_singleton _, fun key member other isName => ?_⟩
    obtain ⟨entry, inNamed, rfl⟩ := List.mem_map.mp member
    rw [List.mem_singleton.mp isName]
    exact fun same => fresh (List.any_eq_true.mpr ⟨entry, inNamed, Scalar.same_iff.mpr same⟩)

theorem nodup_byName {Payload : Type} {key : Text} {items : List (Value × Payload)}
    {named : List (Scalar × Payload)} (ran : byName key items = .ok named) :
    (named.map fun entry => entry.1.canonical).Nodup := by
  suffices general : ∀ before : List (Scalar × Payload),
      (before.map fun entry => entry.1.canonical).Nodup →
      items.foldlM (nameItem key) before = .ok named →
      (named.map fun entry => entry.1.canonical).Nodup from general [] List.nodup_nil ran
  clear ran
  induction items with
  | nil =>
    intro before nodup ran
    cases ran
    exact nodup
  | cons item rest inductionHypothesis =>
    intro before nodup ran
    rw [List.foldlM_cons] at ran
    obtain ⟨middle, step, further⟩ := Run.bind_eq_ok.mp ran
    refine inductionHypothesis middle ?_ further
    unfold nameItem at step
    split at step
    · split at step
      · cases step
        exact nodup_setNamed nodup _ _
      · cases step
    · cases step
      exact nodup

/-- Runs with the same keys both raise the same or both return. -/
theorem map_eq_map {first second : Run Mapping}
    (same : first.map (List.map Prod.fst) = second.map (List.map Prod.fst)) :
    (∃ raised, first = .error raised ∧ second = .error raised) ∨
      ∃ named named', first = .ok named ∧ second = .ok named' ∧
        named.map Prod.fst = named'.map Prod.fst := by
  cases first with
  | error raised =>
    cases second with
    | error other =>
      cases same
      exact Or.inl ⟨raised, rfl, rfl⟩
    | ok named => cases same
  | ok named =>
    cases second with
    | error other => cases same
    | ok named' => exact Or.inr ⟨named, named', rfl, rfl, Except.ok.inj same⟩

end

end VcfSpec

end LocalGpuCluster
