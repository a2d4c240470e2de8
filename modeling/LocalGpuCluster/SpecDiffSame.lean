/-
This file says when two documents are the same: they are equal up to the order of lists of objects
that carry a name. Mappings, and lists of objects with different names, are the same when each entry
has its partner; lists that hold no list of named objects are the same when they are equal.
-/

import LocalGpuCluster.Dictionary
import LocalGpuCluster.SpecDiff
import Mathlib.Data.List.Perm.Subperm

namespace LocalGpuCluster

namespace VcfSpec

/-! ### The same documents -/

/-- A list of objects that all carry one of the names. -/
def Reorderable (items : List Value) : Prop :=
  ∃ key ∈ listKeys, ∀ item ∈ items, hasKey key item = true

/-- Equality up to the order of reorderable lists. -/
inductive Same : Value → Value → Prop
  | scalar {left right : Scalar} (same : left.same right = true) :
      Same (.scalar left) (.scalar right)
  | list {left middle right : List Value}
      (reordered : middle = left ∨ Reorderable left ∧ left.Perm middle)
      (items : List.Forall₂ Same middle right) : Same (.list left) (.list right)
  | dict {left middle right : List (Scalar × Value)} (reordered : left.Perm middle)
      (keys : List.Forall₂ (fun key other => Scalar.same key other = true) (middle.map Prod.fst)
        (right.map Prod.fst))
      (values : List.Forall₂ Same (middle.map Prod.snd) (right.map Prod.snd)) :
      Same (.dict left) (.dict right)

/-- What a `dict` is: no two of its keys are the same. -/
inductive Distinct : Value → Prop
  | scalar {value : Scalar} : Distinct (.scalar value)
  | list {items : List Value} (items_distinct : ∀ item ∈ items, Distinct item) :
      Distinct (.list items)
  | dict {entries : List (Scalar × Value)}
      (keys : (entries.map fun entry => entry.1.canonical).Nodup)
      (values_distinct : ∀ entry ∈ entries, Distinct entry.2) : Distinct (.dict entries)

/-- The name of an item, null where it has none. -/
def nameOf (key : Text) (item : Value) : Scalar :=
  match item.asMapping.at (.str key) with
  | .scalar name => name
  | _ => .null

/-- The names of the items, as they compare. -/
def namesOf (key : Text) (items : List Value) : List Scalar :=
  items.map fun item => (nameOf key item).canonical

/-- No list inside can be reordered. -/
inductive Plain : Value → Prop
  | scalar {value : Scalar} : Plain (.scalar value)
  | list {items : List Value} (fixed : items.length ≤ 1 ∨ ¬Reorderable items)
      (items_plain : ∀ item ∈ items, Plain item) : Plain (.list items)
  | dict {entries : List (Scalar × Value)} (values_plain : ∀ entry ∈ entries, Plain entry.2) :
      Plain (.dict entries)

/-! ### Keys -/

theorem Scalar.same_iff {left right : Scalar} :
    left.same right = true ↔ left.canonical = right.canonical := decide_eq_true_iff

theorem Scalar.same_eq_false {left right : Scalar} :
    left.same right = false ↔ left.canonical ≠ right.canonical := decide_eq_false_iff_not

/-- Only a string is the same as a string. -/
theorem Scalar.canonical_eq_str {key : Scalar} {name : Text} :
    key.canonical = .str name ↔ key = .str name := by
  cases key with
  | float value =>
    unfold Scalar.canonical
    dsimp only
    split <;> simp
  | _ => simp [Scalar.canonical]

/-- Under different keys, an entry is what is found under its key. -/
theorem Mapping.find?_of_mem {mapping : Mapping}
    (distinct : (mapping.map fun entry => entry.1.canonical).Nodup) {entry : Scalar × Value}
    (member : entry ∈ mapping) {key : Scalar} (same : key.canonical = entry.1.canonical) :
    (mapping.find? fun other => key.same other.1) = some entry := by
  obtain ⟨before, after, rfl⟩ := List.append_of_mem member
  refine List.find?_eq_some_iff_append.mpr ⟨Scalar.same_iff.mpr same, before, after, rfl, ?_⟩
  intro other inBefore
  rw [Bool.not_eq_true', Scalar.same_eq_false, same]
  rw [List.map_append, List.nodup_append] at distinct
  exact (distinct.2.2 _ (List.mem_map_of_mem inBefore) _ List.mem_cons_self).symm

theorem Mapping.at_of_mem {mapping : Mapping}
    (distinct : (mapping.map fun entry => entry.1.canonical).Nodup) {entry : Scalar × Value}
    (member : entry ∈ mapping) {key : Scalar} (same : key.canonical = entry.1.canonical) :
    Mapping.at mapping key = entry.2 := by
  rw [Mapping.at, Mapping.find?_of_mem distinct member same]
  rfl

theorem Mapping.at_of_absent {mapping : Mapping} {key : Scalar}
    (absent : ∀ entry ∈ mapping, key.same entry.1 = false) : Mapping.at mapping key = .null := by
  have found : (mapping.find? fun entry => key.same entry.1) = none :=
    List.find?_eq_none.mpr fun entry member => by rw [absent entry member]; exact Bool.false_ne_true
  rw [Mapping.at, found]
  rfl

/-! ### Matched entries -/

/-- Each entry has its partner on the other side. -/
def Aligned (left right : Mapping) : Prop :=
  (∀ entry ∈ left, ∃ other ∈ right,
    entry.1.canonical = other.1.canonical ∧ Same entry.2 other.2) ∧
    ∀ other ∈ right, ∃ entry ∈ left, entry.1.canonical = other.1.canonical

theorem same_dict_iff {left right : Mapping}
    (leftDistinct : (left.map fun entry => entry.1.canonical).Nodup)
    (rightDistinct : (right.map fun entry => entry.1.canonical).Nodup) :
    Same (.dict left) (.dict right) ↔ Aligned left right := by
  rw [Aligned, ← Matching.perm_iff leftDistinct rightDistinct]
  simp only [Matching.and_iff]
  constructor
  · intro same
    cases same with
    | dict reordered keys values =>
      rw [List.forall₂_map_left_iff, List.forall₂_map_right_iff] at keys values
      exact ⟨_, reordered, keys.imp fun _ _ => Scalar.same_iff.mp, values⟩
  · rintro ⟨middle, reordered, keys, values⟩
    refine .dict reordered ?_ ?_ <;> rw [List.forall₂_map_left_iff, List.forall₂_map_right_iff]
    · exact keys.imp fun _ _ => Scalar.same_iff.mpr
    · exact values

/-- The entries that a list of objects is matched by. -/
def namedBy (key : Text) (items : List Value) : Mapping :=
  items.map fun item => (nameOf key item, item)

theorem keys_namedBy (key : Text) (items : List Value) :
    ((namedBy key items).map fun entry => entry.1.canonical) = namesOf key items := by
  rw [namedBy, List.map_map]
  rfl

/-- What is under a string key of the same mappings is the same, and absent on both sides or on
none. -/
theorem Same.at_str {left right : Mapping} (same : Same (.dict left) (.dict right))
    (leftDistinct : (left.map fun entry => entry.1.canonical).Nodup)
    (rightDistinct : (right.map fun entry => entry.1.canonical).Nodup) (key : Text) :
    Same (Mapping.at left (.str key)) (Mapping.at right (.str key)) ∧
      hasKey key (.dict left) = hasKey key (.dict right) := by
  obtain ⟨forth, back⟩ := (same_dict_iff leftDistinct rightDistinct).mp same
  have inLeft {mapping : Mapping} : hasKey key (.dict mapping) = true ↔
      ∃ entry ∈ mapping, (Scalar.str key).canonical = entry.1.canonical := by
    rw [hasKey, List.any_eq_true]
    refine exists_congr fun entry => and_congr_right fun _ => ?_
    rw [decide_eq_true_iff, ← Scalar.canonical_eq_str]
    exact eq_comm
  by_cases present : hasKey key (.dict left) = true
  · obtain ⟨entry, member, named⟩ := inLeft.mp present
    obtain ⟨other, inRight, matched, values⟩ := forth entry member
    rw [Mapping.at_of_mem leftDistinct member named,
      Mapping.at_of_mem rightDistinct inRight (named.trans matched), present]
    exact ⟨values, (inLeft.mpr ⟨other, inRight, named.trans matched⟩).symm⟩
  · have absent : hasKey key (.dict right) ≠ true := by
      intro found
      obtain ⟨other, inRight, named⟩ := inLeft.mp found
      obtain ⟨entry, member, matched⟩ := back other inRight
      exact present (inLeft.mpr ⟨entry, member, named.trans matched.symm⟩)
    have nowhere {mapping : Mapping} (absent : hasKey key (.dict mapping) ≠ true) :
        Mapping.at mapping (.str key) = .null := by
      refine Mapping.at_of_absent fun entry member => ?_
      rw [Scalar.same_eq_false]
      exact fun named => absent (inLeft.mpr ⟨entry, member, named⟩)
    rw [nowhere present, nowhere absent, Bool.eq_false_of_not_eq_true present,
      Bool.eq_false_of_not_eq_true absent]
    exact ⟨.scalar (Scalar.same_iff.mpr rfl), rfl⟩

/-- The same values are objects with the same names. -/
theorem Same.names {left right : Value} (same : Same left right) (leftDistinct : Distinct left)
    (rightDistinct : Distinct right) (key : Text) :
    (nameOf key left).canonical = (nameOf key right).canonical ∧
      hasKey key left = hasKey key right := by
  cases same with
  | scalar | list => exact ⟨rfl, rfl⟩
  | @dict left _ right reordered keys values =>
    cases leftDistinct with
    | dict leftKeys _ =>
      cases rightDistinct with
      | dict rightKeys _ =>
        obtain ⟨at_key, has⟩ := (Same.dict reordered keys values).at_str leftKeys rightKeys key
        refine ⟨?_, has⟩
        unfold nameOf
        dsimp only [Value.asMapping]
        generalize Mapping.at left (.str key) = first, Mapping.at right (.str key) = second at at_key ⊢
        cases at_key with
        | scalar equal => exact Scalar.same_iff.mp equal
        | list | dict => rfl

/-- Lists of objects with different names are the same when the objects of one name are. -/
theorem same_list_iff {left right : List Value} {key : Text} (isKey : key ∈ listKeys)
    (leftDistinct : ∀ item ∈ left, Distinct item) (rightDistinct : ∀ item ∈ right, Distinct item)
    (leftNames : (namesOf key left).Nodup) (rightNames : (namesOf key right).Nodup)
    (nameless : (∀ item ∈ left, hasKey key item = true) ∨
      ((namesOf key left).Perm (namesOf key right) → namesOf key left = namesOf key right)) :
    Same (.list left) (.list right) ↔ Aligned (namedBy key left) (namedBy key right) := by
  have matching : Aligned (namedBy key left) (namedBy key right) ↔ ∃ middle, left.Perm middle ∧
      List.Forall₂ (fun item other => (nameOf key item).canonical = (nameOf key other).canonical ∧
        Same item other) middle right := by
    rw [Matching.perm_iff leftNames rightNames]
    simp only [Aligned, namedBy, List.forall_mem_map]
    simp only [List.mem_map, exists_exists_and_eq_and]
  rw [matching]
  constructor
  · intro same
    cases same with
    | @list _ middle _ reordered items =>
      have perm : left.Perm middle := reordered.elim (fun same => same ▸ .refl _) And.right
      refine ⟨middle, perm, Matching.imp_of_mem items fun item inMiddle other inRight same => ?_⟩
      exact ⟨(same.names (leftDistinct item (perm.mem_iff.mpr inMiddle))
        (rightDistinct other inRight) key).1, same⟩
  · rintro ⟨middle, perm, related⟩
    obtain ⟨names, items⟩ := Matching.and_iff.mp related
    refine .list ?_ items
    obtain everywhere | ordered := nameless
    · exact Or.inr ⟨⟨key, isKey, everywhere⟩, perm⟩
    · have same : namesOf key middle = namesOf key right := by
        rw [← List.forall₂_eq_eq_eq, namesOf, namesOf, List.forall₂_map_left_iff,
          List.forall₂_map_right_iff]
        exact names
      have inOrder := ordered (same ▸ perm.map _)
      exact Or.inl (Matching.eq_of_perm leftNames perm (same.trans inOrder.symm))

/-! ### Values compared as a whole -/

theorem sameItems_iff {left right : List Value} :
    sameItems left right = true ↔
      List.Forall₂ (fun item other => Value.same item other = true) left right := by
  induction left generalizing right with
  | nil =>
    cases right with
    | nil => exact ⟨fun _ => .nil, fun _ => rfl⟩
    | cons => exact ⟨fun same => absurd same Bool.false_ne_true, fun same => by cases same⟩
  | cons item rest inductionHypothesis =>
    cases right with
    | nil => exact ⟨fun same => absurd same Bool.false_ne_true, fun same => by cases same⟩
    | cons other more =>
      rw [sameItems, Bool.and_eq_true, inductionHypothesis, List.forall₂_cons]

theorem sameEntries_iff {left right : Mapping} :
    sameEntries left right = true ↔ ∀ entry ∈ left, ∃ other,
      (right.find? fun found => entry.1.same found.1) = some other ∧
        entry.2.same other.2 = true := by
  induction left with
  | nil => exact iff_of_true rfl (by simp)
  | cons entry rest inductionHypothesis =>
    rw [sameEntries, Bool.and_eq_true, inductionHypothesis, List.forall_mem_cons]
    refine and_congr_left fun _ => ?_
    cases right.find? fun found => entry.1.same found.1 with
    | none => simp
    | some other => simp

/-- Mappings of one size that find each key of the left on the right find each of the right on the
left. -/
theorem back_of_forth {left right : Mapping}
    (leftDistinct : (left.map fun entry => entry.1.canonical).Nodup)
    (size : left.length = right.length)
    (forth : ∀ entry ∈ left, ∃ other ∈ right, entry.1.canonical = other.1.canonical) :
    ∀ other ∈ right, ∃ entry ∈ left, entry.1.canonical = other.1.canonical := by
  have within : (left.map fun entry => entry.1.canonical) ⊆
      right.map fun entry => entry.1.canonical := by
    intro key member
    obtain ⟨entry, inLeft, rfl⟩ := List.mem_map.mp member
    obtain ⟨other, inRight, same⟩ := forth entry inLeft
    exact same ▸ List.mem_map_of_mem inRight
  have perm := (leftDistinct.subperm within).perm_of_length_le (by simp [size])
  intro other inRight
  exact List.mem_map.mp (perm.mem_iff.mpr (List.mem_map_of_mem inRight))

theorem same_of_valueSame {left right : Value} (leftDistinct : Distinct left)
    (rightDistinct : Distinct right) (same : left.same right = true) : Same left right := by
  induction left using Value.induction generalizing right with
  | scalar value =>
    cases right with
    | scalar other => exact .scalar same
    | list | dict => exact absurd same Bool.false_ne_true
  | list items inductionHypothesis =>
    cases right with
    | scalar | dict => exact absurd same Bool.false_ne_true
    | list others =>
      cases leftDistinct with
      | list leftItems =>
        cases rightDistinct with
        | list rightItems =>
          refine .list (Or.inl rfl) (Matching.imp_of_mem (sameItems_iff.mp same) ?_)
          exact fun item inLeft other inRight =>
            inductionHypothesis item inLeft (leftItems item inLeft) (rightItems other inRight)
  | dict entries inductionHypothesis =>
    cases right with
    | scalar | list => exact absurd same Bool.false_ne_true
    | dict others =>
      cases leftDistinct with
      | dict leftKeys leftValues =>
        cases rightDistinct with
        | dict rightKeys rightValues =>
          obtain ⟨size, found⟩ := (Bool.and_eq_true _ _).mp same
          have forth : ∀ entry ∈ entries, ∃ other ∈ others,
              entry.1.canonical = other.1.canonical ∧ Same entry.2 other.2 := by
            intro entry member
            obtain ⟨other, isFound, values⟩ := sameEntries_iff.mp found entry member
            have inRight := List.mem_of_find?_eq_some isFound
            have keys := List.find?_some isFound
            exact ⟨other, inRight, Scalar.same_iff.mp keys, inductionHypothesis entry member
              (leftValues entry member) (rightValues other inRight) values⟩
          refine (same_dict_iff leftKeys rightKeys).mpr ⟨forth, ?_⟩
          refine back_of_forth leftKeys (of_decide_eq_true size) fun entry member => ?_
          obtain ⟨other, inRight, keys, _⟩ := forth entry member
          exact ⟨other, inRight, keys⟩

theorem Reorderable.right {left right : List Value} (reorderable : Reorderable left)
    (same : List.Forall₂ Same left right) (leftDistinct : ∀ item ∈ left, Distinct item)
    (rightDistinct : ∀ item ∈ right, Distinct item) : Reorderable right := by
  obtain ⟨key, isKey, everywhere⟩ := reorderable
  refine ⟨key, isKey, fun other inRight => ?_⟩
  obtain ⟨item, inLeft, related⟩ := Matching.exists_left same inRight
  rw [← (related.names (leftDistinct item inLeft) (rightDistinct other inRight) key).2]
  exact everywhere item inLeft

/-- A list of at most one item has one order. -/
theorem eq_of_perm_of_length {items middle : List Value} (short : items.length ≤ 1)
    (perm : items.Perm middle) : middle = items := by
  match items, short with
  | [], _ => exact List.nil_perm.mp perm
  | [item], _ => exact List.singleton_perm.mp perm |>.symm

/-- Where a side holds no list that can be reordered, the same values are equal. -/
theorem valueSame_of_same {left right : Value} (leftDistinct : Distinct left)
    (rightDistinct : Distinct right) (plain : Plain left ∨ Plain right) (same : Same left right) :
    left.same right = true := by
  induction left using Value.induction generalizing right with
  | scalar value =>
    cases same with
    | scalar equal => exact equal
  | list items inductionHypothesis =>
    cases same with
    | @list _ middle others reordered related =>
      cases leftDistinct with
      | list leftItems =>
        cases rightDistinct with
        | list rightItems =>
          have inOrder : middle = items := by
            obtain same | ⟨reorderable, perm⟩ := reordered
            · exact same
            · refine eq_of_perm_of_length ?_ perm
              have middleItems : ∀ item ∈ middle, Distinct item := fun item inMiddle =>
                leftItems item (perm.mem_iff.mpr inMiddle)
              have reorderableMiddle : Reorderable middle := by
                obtain ⟨key, isKey, everywhere⟩ := reorderable
                exact ⟨key, isKey, fun item inMiddle => everywhere item (perm.mem_iff.mpr inMiddle)⟩
              obtain plain | plain := plain <;> cases plain with
              | list fixed _ => ?_
              · exact fixed.resolve_right (not_not_intro reorderable)
              · rw [perm.length_eq, related.length_eq]
                exact fixed.resolve_right
                  (not_not_intro (reorderableMiddle.right related middleItems rightItems))
          subst inOrder
          refine sameItems_iff.mpr (Matching.imp_of_mem related fun item inLeft other inRight => ?_)
          refine inductionHypothesis item inLeft (leftItems item inLeft) (rightItems other inRight) ?_
          refine plain.imp (fun plain => ?_) fun plain => ?_
          · cases plain with
            | list _ items_plain => exact items_plain item inLeft
          · cases plain with
            | list _ items_plain => exact items_plain other inRight
  | dict entries inductionHypothesis =>
    cases same with
    | @dict _ middle others reordered keys values =>
      cases leftDistinct with
      | dict leftKeys leftValues =>
        cases rightDistinct with
        | dict rightKeys rightValues =>
          have size : entries.length = others.length := by
            rw [reordered.length_eq, ← List.length_map Prod.fst, keys.length_eq, List.length_map]
          have aligned := (same_dict_iff leftKeys rightKeys).mp (.dict reordered keys values)
          refine (Bool.and_eq_true _ _).mpr ⟨decide_eq_true size, sameEntries_iff.mpr ?_⟩
          intro entry member
          obtain ⟨other, inRight, matched, related⟩ := aligned.1 entry member
          refine ⟨other, Mapping.find?_of_mem rightKeys inRight matched, ?_⟩
          refine inductionHypothesis entry member (leftValues entry member)
            (rightValues other inRight) (plain.imp (fun plain => ?_) fun plain => ?_) related
          · cases plain with
            | dict values_plain => exact values_plain entry member
          · cases plain with
            | dict values_plain => exact values_plain other inRight

end VcfSpec

end LocalGpuCluster
