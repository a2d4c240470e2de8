/-
This file is a small library on `collections.OrderedDict`, whose keys are distinct and stand in an order
that a program can change: a key is moved to the end, and entries are taken from the front until no
more than so many are left.
-/

import LocalGpuCluster.Dictionary

namespace LocalGpuCluster

structure OrderedDict (Key Value : Type) where
  entries : List (Key × Value)
  distinct : (entries.map Prod.fst).Nodup

namespace OrderedDict

variable {Key Value : Type} [DecidableEq Key]

def keys (dict : OrderedDict Key Value) : List Key := dict.entries.map Prod.fst

def empty : OrderedDict Key Value := ⟨[], List.nodup_nil⟩

/-- `dict.get(key)`. -/
def find (dict : OrderedDict Key Value) (key : Key) : Option Value := dict.entries.lookup key

/-- The entries without the one under a key. -/
def without (entries : List (Key × Value)) (key : Key) : List (Key × Value) :=
  entries.filter fun entry => entry.1 ≠ key

theorem nodup_without {entries : List (Key × Value)} (distinct : (entries.map Prod.fst).Nodup)
    (key : Key) : ((without entries key).map Prod.fst).Nodup :=
  distinct.sublist (List.filter_sublist.map Prod.fst)

theorem not_mem_without (entries : List (Key × Value)) (key : Key) :
    key ∉ (without entries key).map Prod.fst := by
  intro member
  obtain ⟨entry, inRest, rfl⟩ := List.mem_map.mp member
  exact of_decide_eq_true (List.mem_filter.mp inRest).2 rfl

theorem nodup_without_append {entries : List (Key × Value)}
    (distinct : (entries.map Prod.fst).Nodup) (key : Key) (value : Value) :
    ((without entries key ++ [(key, value)]).map Prod.fst).Nodup := by
  rw [List.map_append, List.nodup_append]
  refine ⟨nodup_without distinct key, List.nodup_singleton key, ?_⟩
  rintro other inRest _ last rfl
  rw [List.mem_singleton.mp last] at inRest
  exact not_mem_without entries key inRest

/-- `del dict[key]`. -/
def erase (dict : OrderedDict Key Value) (key : Key) : OrderedDict Key Value :=
  ⟨without dict.entries key, nodup_without dict.distinct key⟩

/-- `dict[key] = value`. -/
def assign (dict : OrderedDict Key Value) (key : Key) (value : Value) : OrderedDict Key Value :=
  ⟨Dictionary.assign dict.entries key value, Dictionary.nodup_assign dict.distinct key value⟩

/-- `dict.move_to_end(key)` for a key that is there. -/
def moveToEnd (dict : OrderedDict Key Value) (key : Key) : OrderedDict Key Value :=
  match dict.find key with
  | some value => ⟨without dict.entries key ++ [(key, value)], nodup_without_append dict.distinct key value⟩
  | none => dict

/-- `while len(dict) > count: dict.popitem(last=False)`. -/
def popFirst (count : ℕ) : List (Key × Value) → List (Key × Value)
  | [] => []
  | entry :: rest => if count < rest.length + 1 then popFirst count rest else entry :: rest

omit [DecidableEq Key] in
theorem popFirst_eq_drop (count : ℕ) (entries : List (Key × Value)) :
    popFirst count entries = entries.drop (entries.length - count) := by
  induction entries with
  | nil => exact List.drop_nil.symm
  | cons entry rest inductionHypothesis =>
    rw [popFirst, List.length_cons]
    split
    · rename_i many
      rw [inductionHypothesis, Nat.succ_sub (Nat.le_of_lt_succ many), List.drop_succ_cons]
    · rename_i few
      rw [Nat.sub_eq_zero_of_le (Nat.le_of_not_lt few), List.drop_zero]

def shrink (dict : OrderedDict Key Value) (count : ℕ) : OrderedDict Key Value :=
  ⟨popFirst count dict.entries, by
    rw [popFirst_eq_drop]
    exact dict.distinct.sublist ((List.drop_sublist _ _).map Prod.fst)⟩

/-! ### What is found -/

theorem find_eq_some_iff {dict : OrderedDict Key Value} {key : Key} {value : Value} :
    dict.find key = some value ↔ (key, value) ∈ dict.entries := by
  constructor
  · intro found
    obtain ⟨before, after, split, _⟩ := List.lookup_eq_some_iff.mp found
    rw [split]
    exact List.mem_append_right _ List.mem_cons_self
  · exact Dictionary.lookup_of_mem dict.distinct

theorem find_eq_none_iff {dict : OrderedDict Key Value} {key : Key} :
    dict.find key = none ↔ key ∉ dict.keys := by
  constructor
  · intro missing member
    obtain ⟨entry, inEntries, rfl⟩ := List.mem_map.mp member
    exact bne_iff_ne.mp (List.lookup_eq_none_iff.mp missing entry inEntries) rfl
  · intro absent
    refine List.lookup_eq_none_iff.mpr fun entry inEntries => bne_iff_ne.mpr ?_
    rintro rfl
    exact absent (List.mem_map_of_mem inEntries)

/-- Two dictionaries with the same entries under a key find the same. -/
theorem find_congr {dict other : OrderedDict Key Value} {key : Key}
    (same : ∀ value, (key, value) ∈ dict.entries ↔ (key, value) ∈ other.entries) :
    dict.find key = other.find key := by
  refine Option.ext fun value => ?_
  rw [find_eq_some_iff, find_eq_some_iff, same value]

theorem find_erase (dict : OrderedDict Key Value) (key other : Key) :
    (dict.erase key).find other = if other = key then none else dict.find other := by
  split
  · rename_i same
    subst same
    exact find_eq_none_iff.mpr (not_mem_without dict.entries other)
  · rename_i different
    refine find_congr fun value => ⟨fun member => (List.mem_filter.mp member).1, fun member => ?_⟩
    exact List.mem_filter.mpr ⟨member, decide_eq_true different⟩

theorem find_moveToEnd (dict : OrderedDict Key Value) (key other : Key) :
    (dict.moveToEnd key).find other = dict.find other := by
  unfold moveToEnd
  split
  · rename_i value found
    refine find_congr fun otherValue => ?_
    show (other, otherValue) ∈ without dict.entries key ++ [(key, value)] ↔ _
    rw [List.mem_append, List.mem_singleton]
    constructor
    · rintro (rest | last)
      · exact (List.mem_filter.mp rest).1
      · cases last
        exact find_eq_some_iff.mp found
    · intro member
      by_cases same : other = key
      · subst same
        have both := (find_eq_some_iff.mpr member).symm.trans found
        exact Or.inr (congrArg (other, ·) (Option.some.inj both))
      · exact Or.inl (List.mem_filter.mpr ⟨member, decide_eq_true same⟩)
  · rfl

theorem entries_moveToEnd {dict : OrderedDict Key Value} {key : Key} {value : Value}
    (found : dict.find key = some value) :
    (dict.moveToEnd key).entries = without dict.entries key ++ [(key, value)] := by
  unfold moveToEnd
  rw [found]

theorem length_without_lt {entries : List (Key × Value)} {key : Key}
    (member : key ∈ entries.map Prod.fst) : (without entries key).length < entries.length := by
  obtain ⟨entry, inEntries, rfl⟩ := List.mem_map.mp member
  exact List.length_filter_lt_length_iff_exists.mpr
    ⟨entry, inEntries, fun kept => of_decide_eq_true kept rfl⟩

/-- What is taken from the front is not found any more. -/
theorem find_shrink (dict : OrderedDict Key Value) (count : ℕ) (key : Key) :
    (dict.shrink count).find key =
      if key ∈ (dict.shrink count).keys then dict.find key else none := by
  split
  · rename_i kept
    obtain ⟨⟨_, value⟩, member, rfl⟩ := List.mem_map.mp kept
    rw [find_eq_some_iff.mpr member, eq_comm, find_eq_some_iff]
    have inDrop : (_, value) ∈ popFirst count dict.entries := member
    rw [popFirst_eq_drop] at inDrop
    exact List.mem_of_mem_drop inDrop
  · rename_i gone
    exact find_eq_none_iff.mpr gone

omit [DecidableEq Key] in
theorem length_shrink_le (dict : OrderedDict Key Value) (count : ℕ) :
    (dict.shrink count).entries.length ≤ count := by
  show (popFirst count dict.entries).length ≤ count
  rw [popFirst_eq_drop, List.length_drop]
  omega

/-- What is stored under a key is gone with the key. -/
theorem without_assign (entries : List (Key × Value)) (key : Key) (value : Value) :
    without (Dictionary.assign entries key value) key = without entries key := by
  have replaced : without (entries.map fun entry => if entry.1 = key then (key, value) else entry)
      key = without entries key := by
    induction entries with
    | nil => rfl
    | cons entry rest inductionHypothesis =>
      rw [List.map_cons]
      by_cases same : entry.1 = key
      · rw [if_pos same, without, List.filter_cons_of_neg (by simp), without,
          List.filter_cons_of_neg (by simpa using same)]
        exact inductionHypothesis
      · rw [if_neg same, without, List.filter_cons_of_pos (by simpa using same), without,
          List.filter_cons_of_pos (by simpa using same)]
        exact congrArg (entry :: ·) inductionHypothesis
  unfold Dictionary.assign
  split
  · exact replaced
  · rw [without, List.filter_append, List.filter_singleton, decide_eq_false (not_not_intro rfl)]
    exact List.append_nil _

theorem find_assign_self (dict : OrderedDict Key Value) (key : Key) (value : Value) :
    (dict.assign key value).find key = some value := by
  refine find_eq_some_iff.mpr ?_
  show (key, value) ∈ Dictionary.assign dict.entries key value
  unfold Dictionary.assign
  split
  · rename_i known
    obtain ⟨entry, member, same⟩ := List.mem_map.mp known
    exact List.mem_map.mpr ⟨entry, member, if_pos same⟩
  · exact List.mem_append_right _ (List.mem_singleton_self _)

/-- An entry that is stored and moved to the end. -/
theorem entries_assign_moveToEnd (dict : OrderedDict Key Value) (key : Key) (value : Value) :
    ((dict.assign key value).moveToEnd key).entries = without dict.entries key ++ [(key, value)] := by
  rw [entries_moveToEnd (find_assign_self dict key value)]
  exact congrArg (· ++ [(key, value)]) (without_assign dict.entries key value)

theorem find_assign_moveToEnd (dict : OrderedDict Key Value) (key other : Key) (value : Value) :
    ((dict.assign key value).moveToEnd key).find other =
      if other = key then some value else dict.find other := by
  split
  · rename_i same
    subst same
    rw [find_eq_some_iff, entries_assign_moveToEnd]
    exact List.mem_append_right _ (List.mem_singleton_self _)
  · rename_i different
    refine find_congr fun otherValue => ?_
    rw [entries_assign_moveToEnd, List.mem_append, List.mem_singleton]
    constructor
    · rintro (rest | last)
      · exact (List.mem_filter.mp rest).1
      · exact absurd (Prod.mk.inj last).1 different
    · intro member
      exact Or.inl (List.mem_filter.mpr ⟨member, decide_eq_true different⟩)

/-! ### The entries up to their order -/

theorem without_eq_self {entries : List (Key × Value)} {key : Key}
    (absent : key ∉ entries.map Prod.fst) : without entries key = entries := by
  refine List.filter_eq_self.mpr fun entry member => decide_eq_true ?_
  rintro rfl
  exact absent (List.mem_map_of_mem member)

/-- What is found under a key, and the other entries. -/
theorem perm_without {dict : OrderedDict Key Value} {key : Key} {value : Value}
    (found : dict.find key = some value) :
    dict.entries.Perm ((key, value) :: without dict.entries key) := by
  obtain ⟨before, after, split⟩ := List.append_of_mem (find_eq_some_iff.mp found)
  have distinct := dict.distinct
  rw [split, List.map_append, List.map_cons, List.nodup_append, List.nodup_cons] at distinct
  have fresh : key ∉ before.map Prod.fst :=
    fun member => distinct.2.2 key member key List.mem_cons_self rfl
  have others : without dict.entries key = before ++ after := by
    rw [split, without, List.filter_append, List.filter_cons_of_neg (by simp)]
    exact congr_arg₂ (· ++ ·) (without_eq_self fresh) (without_eq_self distinct.2.1.1)
  rw [others, split]
  exact List.perm_middle

theorem perm_assign (dict : OrderedDict Key Value) (key : Key) (value : Value) :
    (dict.assign key value).entries.Perm ((key, value) :: without dict.entries key) := by
  have parted := perm_without (find_assign_self dict key value)
  rwa [show without (dict.assign key value).entries key = without dict.entries key from
    without_assign dict.entries key value] at parted

end OrderedDict

end LocalGpuCluster
