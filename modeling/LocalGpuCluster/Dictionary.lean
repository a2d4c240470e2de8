/-
This file holds dictionaries that keep the order in which their keys came, as association lists. An
assignment to a key that is there replaces the value in its place, so a dictionary that is filled
from a list of entries has fewer entries than the list exactly when a key comes twice in it. Items
that are gathered under their keys do not mix: what is under a key is made of that key's items alone.
Lists whose items carry keys are matched key by key, whatever the order they come in.
-/

import Mathlib.Data.Finset.Card
import Mathlib.Data.List.Dedup
import Mathlib.Data.List.Forall2

namespace LocalGpuCluster

namespace Dictionary

variable {Key Value : Type} [DecidableEq Key]

/-- `entries[key] = value`. -/
def assign (entries : List (Key × Value)) (key : Key) (value : Value) : List (Key × Value) :=
  if key ∈ entries.map Prod.fst then
    entries.map fun entry => if entry.1 = key then (key, value) else entry
  else entries ++ [(key, value)]

/-- The entries of a list, assigned one after the other. -/
def fill (entries items : List (Key × Value)) : List (Key × Value) :=
  items.foldl (fun filled item => assign filled item.1 item.2) entries

theorem keys_assign (entries : List (Key × Value)) (key : Key) (value : Value) :
    (assign entries key value).map Prod.fst =
      if key ∈ entries.map Prod.fst then entries.map Prod.fst else entries.map Prod.fst ++ [key] := by
  unfold assign
  split
  · rw [List.map_map]
    refine List.map_congr_left fun entry _ => ?_
    show (if entry.1 = key then (key, value) else entry).1 = entry.1
    split
    · rename_i same
      exact same.symm
    · rfl
  · rw [List.map_append]
    rfl

theorem nodup_assign {entries : List (Key × Value)} (nodup : (entries.map Prod.fst).Nodup)
    (key : Key) (value : Value) : ((assign entries key value).map Prod.fst).Nodup := by
  rw [keys_assign]
  split
  · exact nodup
  · rename_i fresh
    exact List.nodup_append.mpr ⟨nodup, List.nodup_singleton key, by
      rintro other inEntries _ inSingle rfl
      exact fresh (List.mem_singleton.mp inSingle ▸ inEntries)⟩

theorem mem_keys_assign {entries : List (Key × Value)} {key other : Key} {value : Value} :
    other ∈ (assign entries key value).map Prod.fst ↔ other ∈ entries.map Prod.fst ∨ other = key := by
  rw [keys_assign]
  split
  · rename_i known
    exact ⟨Or.inl, fun either => either.elim id fun same => same ▸ known⟩
  · rw [List.mem_append, List.mem_singleton]

theorem nodup_fill {entries : List (Key × Value)} (nodup : (entries.map Prod.fst).Nodup)
    (items : List (Key × Value)) : ((fill entries items).map Prod.fst).Nodup := by
  induction items generalizing entries with
  | nil => exact nodup
  | cons item rest inductionHypothesis => exact inductionHypothesis (nodup_assign nodup _ _)

theorem mem_keys_fill {entries items : List (Key × Value)} {key : Key} :
    key ∈ (fill entries items).map Prod.fst ↔
      key ∈ entries.map Prod.fst ∨ key ∈ items.map Prod.fst := by
  induction items generalizing entries with
  | nil => exact ⟨Or.inl, fun either => either.resolve_right List.not_mem_nil⟩
  | cons item rest inductionHypothesis =>
    rw [show fill entries (item :: rest) = fill (assign entries item.1 item.2) rest from rfl,
      inductionHypothesis, mem_keys_assign, List.map_cons, List.mem_cons, or_assoc]

/-- What is assigned comes from the assignments. -/
theorem mem_of_mem_assign {entries : List (Key × Value)} {key : Key} {value : Value}
    {entry : Key × Value} (member : entry ∈ assign entries key value) :
    entry ∈ entries ∨ entry = (key, value) := by
  unfold assign at member
  split at member
  · obtain ⟨earlier, inEntries, same⟩ := List.mem_map.mp member
    split at same
    · exact Or.inr same.symm
    · exact Or.inl (same ▸ inEntries)
  · exact (List.mem_append.mp member).imp_right List.mem_singleton.mp

theorem mem_of_mem_fill {entries items : List (Key × Value)} {entry : Key × Value}
    (member : entry ∈ fill entries items) : entry ∈ entries ∨ entry ∈ items := by
  induction items generalizing entries with
  | nil => exact Or.inl member
  | cons item rest inductionHypothesis =>
    obtain assigned | inRest := inductionHypothesis member
    · obtain earlier | rfl := mem_of_mem_assign assigned
      · exact Or.inl earlier
      · exact Or.inr List.mem_cons_self
    · exact Or.inr (List.mem_cons_of_mem _ inRest)

/-- Entries under keys that are all new come after the ones there, in their order. -/
theorem fill_of_nodup {entries items : List (Key × Value)}
    (nodup : ((entries ++ items).map Prod.fst).Nodup) : fill entries items = entries ++ items := by
  induction items generalizing entries with
  | nil => exact (List.append_nil entries).symm
  | cons item rest inductionHypothesis =>
    have fresh : item.1 ∉ entries.map Prod.fst := by
      rw [List.map_append, List.nodup_append] at nodup
      exact fun known => nodup.2.2 _ known _ List.mem_cons_self rfl
    have appended : assign entries item.1 item.2 = entries ++ [item] := if_neg fresh
    rw [List.append_cons] at nodup ⊢
    rw [← inductionHypothesis nodup, ← appended]
    rfl

/-- The dictionary has an entry for each entry of the list exactly when no key comes twice. -/
theorem length_fill_eq_iff (items : List (Key × Value)) :
    (fill [] items).length = items.length ↔ (items.map Prod.fst).Nodup := by
  constructor
  · intro same
    have sets : ((fill [] items).map Prod.fst).toFinset = (items.map Prod.fst).toFinset := by
      ext key
      rw [List.mem_toFinset, List.mem_toFinset, mem_keys_fill]
      exact or_iff_right List.not_mem_nil
    have empty : (([] : List (Key × Value)).map Prod.fst).Nodup := List.nodup_nil
    have card := List.toFinset_card_of_nodup (nodup_fill empty items)
    rw [sets, List.length_map, same, ← List.length_map Prod.fst] at card
    exact Multiset.toFinset_card_eq_card_iff_nodup.mp card
  · intro nodup
    have whole : fill [] items = [] ++ items := fill_of_nodup nodup
    rw [whole, List.nil_append]

/-- Under keys that are all different, an entry is what is found under its key. -/
theorem mem_of_lookup {Name : Type} [BEq Name] [LawfulBEq Name] {entries : List (Name × Value)}
    {name : Name} {value : Value} (found : entries.lookup name = some value) :
    (name, value) ∈ entries := by
  obtain ⟨before, after, split, -⟩ := List.lookup_eq_some_iff.mp found
  exact split ▸ List.mem_append_right _ List.mem_cons_self

theorem lookup_of_mem {Name : Type} [BEq Name] [LawfulBEq Name] {entries : List (Name × Value)}
    (nodup : (entries.map Prod.fst).Nodup) {key : Name} {value : Value} (member : (key, value) ∈ entries) : entries.lookup key = some value := by
  obtain ⟨before, after, rfl⟩ := List.append_of_mem member
  refine List.lookup_eq_some_iff.mpr ⟨before, after, rfl, fun entry inBefore => ?_⟩
  rw [List.map_append, List.nodup_append] at nodup
  have apart := nodup.2.2 _ (List.mem_map_of_mem inBefore) key List.mem_cons_self
  exact bne_iff_ne.mpr apart.symm

/-! ### Items gathered by key -/

section Gather

variable {Item : Type} (keyOf : Item → Key) (blank : Value) (take : Value → Item → Value)

/-- Each item goes to the value under its key, which starts out blank. -/
def gather (items : List Item) : List (Key × Value) :=
  items.foldl (fun entries item =>
    assign entries (keyOf item) (take ((entries.lookup (keyOf item)).getD blank) item)) []

/-- The items of a key, in their order. -/
def own (key : Key) (items : List Item) : List Item := items.filter fun item => keyOf item = key

/-- The keys of the items, each where it comes first. -/
def firsts (items : List Item) : List Key := (items.map keyOf).eraseDups

theorem mem_firsts {items : List Item} {key : Key} :
    key ∈ firsts keyOf items ↔ key ∈ items.map keyOf := List.mem_eraseDups

theorem firsts_concat (items : List Item) (item : Item) :
    firsts keyOf (items ++ [item]) = firsts keyOf items ++
      if keyOf item ∈ items.map keyOf then [] else [keyOf item] := by
  unfold firsts
  rw [List.map_append, List.eraseDups_append]
  refine congrArg ((items.map keyOf).eraseDups ++ ·) ?_
  by_cases known : keyOf item ∈ items.map keyOf
  · rw [if_pos known, List.map_singleton, List.removeAll,
      List.filter_cons_of_neg (by simpa using known)]
    rfl
  · rw [if_neg known, List.map_singleton, List.removeAll,
      List.filter_cons_of_pos (by simpa using known)]
    rfl

theorem nodup_firsts (items : List Item) : (firsts keyOf items).Nodup := by
  induction items using List.reverseRecOn with
  | nil => exact List.nodup_nil
  | append_singleton items item inductionHypothesis =>
    rw [firsts_concat]
    by_cases known : keyOf item ∈ items.map keyOf
    · rw [if_pos known, List.append_nil]
      exact inductionHypothesis
    · rw [if_neg known]
      refine List.nodup_append_comm.mp (inductionHypothesis.cons fun listed => known ?_)
      exact (mem_firsts keyOf).mp listed

theorem own_concat (key : Key) (items : List Item) (item : Item) :
    own keyOf key (items ++ [item]) =
      own keyOf key items ++ if keyOf item = key then [item] else [] := by
  unfold own
  rw [List.filter_append]
  refine congrArg (items.filter _ ++ ·) ?_
  by_cases same : keyOf item = key
  · rw [if_pos same, List.filter_singleton, decide_eq_true same, cond_true]
  · rw [if_neg same, List.filter_singleton, decide_eq_false same, cond_false]

theorem own_of_not_mem {key : Key} {items : List Item} (absent : key ∉ items.map keyOf) :
    own keyOf key items = [] :=
  List.filter_eq_nil_iff.mpr fun _ member same =>
    absent (List.mem_map.mpr ⟨_, member, of_decide_eq_true same⟩)

theorem lookup_map_pair {Name : Type} [BEq Name] [LawfulBEq Name] (keys : List Name)
    (value : Name → Value) (key : Name) (member : key ∈ keys) :
    (keys.map fun key => (key, value key)).lookup key = some (value key) := by
  induction keys with
  | nil => exact absurd member List.not_mem_nil
  | cons other rest inductionHypothesis =>
    rw [List.map_cons, List.lookup_cons]
    by_cases same : key = other
    · rw [same, beq_self_eq_true]
    · rw [beq_false_of_ne same]
      exact inductionHypothesis ((List.mem_cons.mp member).resolve_left same)

/-- The entries come in the order of the first appearances, and what is under a key is made of the
items of that key alone. -/
theorem gather_eq (items : List Item) : gather keyOf blank take items =
    (firsts keyOf items).map fun key => (key, (own keyOf key items).foldl take blank) := by
  induction items using List.reverseRecOn with
  | nil => rfl
  | append_singleton items item inductionHypothesis =>
    have keys : ((firsts keyOf items).map fun key =>
        (key, (own keyOf key items).foldl take blank)).map Prod.fst = firsts keyOf items := by
      rw [List.map_map]
      exact List.map_id' _
    unfold gather at inductionHypothesis ⊢
    rw [List.foldl_append, inductionHypothesis, firsts_concat]
    show assign _ (keyOf item) _ = _
    by_cases known : keyOf item ∈ items.map keyOf
    · have listed := (mem_firsts keyOf).mpr known
      rw [if_pos known, List.append_nil, assign, keys, if_pos listed, List.map_map,
        lookup_map_pair _ _ _ listed]
      refine List.map_congr_left fun key _ => ?_
      show (if key = keyOf item then _ else _) = _
      rw [own_concat]
      by_cases same : key = keyOf item
      · rw [if_pos same, if_pos same.symm, List.foldl_append, same]
        rfl
      · rw [if_neg same, if_neg (Ne.symm same), List.append_nil]
    · have unlisted : keyOf item ∉ firsts keyOf items := fun listed =>
        known ((mem_firsts _).mp listed)
      have missing : ((firsts keyOf items).map fun key =>
          (key, (own keyOf key items).foldl take blank)).lookup (keyOf item) = none := by
        refine List.lookup_eq_none_iff.mpr fun entry member => ?_
        obtain ⟨key, inFirsts, rfl⟩ := List.mem_map.mp member
        exact bne_iff_ne.mpr fun same => unlisted (same ▸ inFirsts)
      rw [if_neg known, assign, keys, if_neg unlisted, missing, List.map_append]
      congr 1
      · refine List.map_congr_left fun key inFirsts => ?_
        have apart : keyOf item ≠ key := fun same => unlisted (same ▸ inFirsts)
        rw [own_concat, if_neg apart, List.append_nil]
      · rw [List.map_singleton, own_concat, if_pos rfl, own_of_not_mem keyOf known]
        rfl

end Gather

end Dictionary

/-! ### Lists matched by key -/

namespace Matching

variable {Left Right Key : Type} {Related : Left → Right → Prop}

theorem exists_right {lefts : List Left} {rights : List Right}
    (related : List.Forall₂ Related lefts rights) {left : Left} (member : left ∈ lefts) :
    ∃ right ∈ rights, Related left right := by
  induction related with
  | nil => exact absurd member List.not_mem_nil
  | cons head _ inductionHypothesis =>
    obtain rfl | inRest := List.mem_cons.mp member
    · exact ⟨_, List.mem_cons_self, head⟩
    · obtain ⟨right, inRights, relatedTo⟩ := inductionHypothesis inRest
      exact ⟨right, List.mem_cons_of_mem _ inRights, relatedTo⟩

theorem exists_left {lefts : List Left} {rights : List Right}
    (related : List.Forall₂ Related lefts rights) {right : Right} (member : right ∈ rights) :
    ∃ left ∈ lefts, Related left right :=
  exists_right related.flip member

theorem imp_of_mem {Other : Left → Right → Prop} {lefts : List Left} {rights : List Right}
    (related : List.Forall₂ Related lefts rights)
    (implies : ∀ left ∈ lefts, ∀ right ∈ rights, Related left right → Other left right) :
    List.Forall₂ Other lefts rights := by
  induction related with
  | nil => exact .nil
  | cons head _ inductionHypothesis =>
    refine .cons (implies _ List.mem_cons_self _ List.mem_cons_self head) (inductionHypothesis ?_)
    exact fun left inLefts right inRights =>
      implies left (List.mem_cons_of_mem _ inLefts) right (List.mem_cons_of_mem _ inRights)

theorem and_iff {Other : Left → Right → Prop} {lefts : List Left} {rights : List Right} :
    List.Forall₂ (fun left right => Related left right ∧ Other left right) lefts rights ↔
      List.Forall₂ Related lefts rights ∧ List.Forall₂ Other lefts rights := by
  refine ⟨fun both => ⟨both.imp fun _ _ => And.left, both.imp fun _ _ => And.right⟩, ?_⟩
  rintro ⟨first, second⟩
  induction first with
  | nil => exact .nil
  | cons head _ inductionHypothesis =>
    cases second with
    | cons head' rest' => exact .cons ⟨head, head'⟩ (inductionHypothesis rest')

/-- Where no key comes twice on a side, the left list can be put in the order of the right one
exactly when each item has its partner on the other side. -/
theorem perm_iff {leftKey : Left → Key} {rightKey : Right → Key} {lefts : List Left}
    {rights : List Right} (leftNodup : (lefts.map leftKey).Nodup)
    (rightNodup : (rights.map rightKey).Nodup) :
    (∃ middle, lefts.Perm middle ∧ List.Forall₂ (fun left right =>
        leftKey left = rightKey right ∧ Related left right) middle rights) ↔
      (∀ left ∈ lefts, ∃ right ∈ rights, leftKey left = rightKey right ∧ Related left right) ∧
        ∀ right ∈ rights, ∃ left ∈ lefts, leftKey left = rightKey right := by
  constructor
  · rintro ⟨middle, perm, related⟩
    refine ⟨fun left member => exists_right related (perm.mem_iff.mp member), ?_⟩
    intro right member
    obtain ⟨left, inMiddle, same, _⟩ := exists_left related member
    exact ⟨left, perm.mem_iff.mpr inMiddle, same⟩
  · rintro ⟨forth, back⟩
    induction rights generalizing lefts with
    | nil =>
      have empty : lefts = [] := List.eq_nil_iff_forall_not_mem.mpr fun left member => by
        obtain ⟨right, inNil, _⟩ := forth left member
        exact List.not_mem_nil inNil
      exact ⟨[], empty ▸ List.Perm.nil, .nil⟩
    | cons right rest inductionHypothesis =>
      rw [List.map_cons, List.nodup_cons] at rightNodup
      obtain ⟨left, inLefts, same⟩ := back right List.mem_cons_self
      have alone : ∀ other ∈ rest, leftKey left ≠ rightKey other := fun other inRest equal =>
        rightNodup.1 (same ▸ equal ▸ List.mem_map_of_mem inRest)
      have partner : Related left right := by
        obtain ⟨other, member, equal, related⟩ := forth left inLefts
        obtain rfl | inRest := List.mem_cons.mp member
        · exact related
        · exact absurd equal (alone other inRest)
      obtain ⟨before, after, rfl⟩ := List.append_of_mem inLefts
      have nodup : (leftKey left :: (before ++ after).map leftKey).Nodup := by
        rw [← List.map_cons]
        exact (List.perm_middle.map leftKey).nodup leftNodup
      rw [List.nodup_cons] at nodup
      obtain ⟨middle, perm, related⟩ := inductionHypothesis nodup.2 rightNodup.2
        (fun other member => by
          have inAll : other ∈ before ++ left :: after := by
            rw [List.perm_middle.mem_iff]
            exact List.mem_cons_of_mem _ member
          obtain ⟨found, inRights, equal, relatedTo⟩ := forth other inAll
          obtain rfl | inRest := List.mem_cons.mp inRights
          · exact absurd (same.trans equal.symm ▸ List.mem_map_of_mem member) nodup.1
          · exact ⟨found, inRest, equal, relatedTo⟩)
        (fun other member => by
          obtain ⟨found, inAll, equal⟩ := back other (List.mem_cons_of_mem _ member)
          rw [List.perm_middle.mem_iff] at inAll
          obtain rfl | inRest := List.mem_cons.mp inAll
          · exact absurd equal (alone other member)
          · exact ⟨found, inRest, equal⟩)
      exact ⟨left :: middle, List.perm_middle.trans (perm.cons left), .cons ⟨same, partner⟩ related⟩

/-- A list that is reordered under keys that are all different, and whose keys stay in order, is the
same list. -/
theorem eq_of_perm {key : Left → Key} {lefts middle : List Left}
    (nodup : (lefts.map key).Nodup) (perm : lefts.Perm middle)
    (same : middle.map key = lefts.map key) : middle = lefts := by
  refine List.ext_getElem perm.length_eq.symm fun index inMiddle inLefts => ?_
  have keys : key middle[index] = key lefts[index] := by
    have at_index := congrArg (·[index]?) same
    simpa [inMiddle, inLefts] using at_index
  have inAll : middle[index] ∈ lefts := perm.mem_iff.mpr (List.getElem_mem inMiddle)
  exact List.inj_on_of_nodup_map nodup inAll (List.getElem_mem inLefts) keys

end Matching

end LocalGpuCluster
