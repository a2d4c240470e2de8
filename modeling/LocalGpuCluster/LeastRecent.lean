/-
This file is a small library on serving what was served least recently. A round serves some of the
items with the least keys, and what it serves gets a later key than all items had at the beginning.
Then no item is served twice before every item was served once.
-/

import Mathlib.Data.List.Sort

namespace LocalGpuCluster

namespace LeastRecent

variable {Item Key : Type*} [LinearOrder Key]

/-- The items with the least keys. Among equal keys the order of the items decides. -/
def least (key : Item → Key) (count : ℕ) (items : List Item) : List Item :=
  (items.insertionSort fun first second => key first ≤ key second).take count

section Least

variable {key : Item → Key} {count : ℕ} {items : List Item} {item : Item}

theorem mem_of_mem_least (member : item ∈ least key count items) : item ∈ items :=
  (List.mem_insertionSort _).mp (List.mem_of_mem_take member)

theorem nodup_least (nodup : items.Nodup) : (least key count items).Nodup :=
  ((List.perm_insertionSort _ items).nodup_iff.mpr nodup).sublist (List.take_sublist _ _)

/-- What is served has a key that is no later than that of an item that has to wait. -/
theorem least_le (member : item ∈ items) (waits : item ∉ least key count items) {served : Item}
    (isServed : served ∈ least key count items) : key served ≤ key item := by
  have sorted : (items.insertionSort fun first second => key first ≤ key second).Pairwise
      fun first second => key first ≤ key second :=
    List.pairwise_insertionSort (fun first second => key first ≤ key second) items
  rw [← List.take_append_drop count (items.insertionSort _), List.pairwise_append] at sorted
  refine sorted.2.2 served isServed item ?_
  have inSorted : item ∈ items.insertionSort fun first second => key first ≤ key second :=
    (List.mem_insertionSort _).mpr member
  rw [← List.take_append_drop count (items.insertionSort _)] at inSorted
  exact (List.mem_append.mp inSorted).resolve_left waits

/-- As long as an item has to wait, the others use all places. -/
theorem length_least (member : item ∈ items) (waits : item ∉ least key count items) :
    (least key count items).length = count := by
  unfold least
  rw [List.length_take, List.length_insertionSort, min_eq_left]
  by_contra few
  refine waits ?_
  unfold least
  rw [List.take_of_length_le (by rw [List.length_insertionSort]; omega)]
  exact (List.mem_insertionSort _).mpr member

end Least

/-- What a round does to the keys: those of the items it serves become late, the others stay. -/
structure Round (items : List Item) (count : ℕ) (time : Key) (before after : Item → Key) : Prop where
  served : ∀ item ∈ least before count items, time ≤ after item
  kept : ∀ item ∈ items, item ∉ least before count items → after item = before item

variable {items : List Item} {count : ℕ} {time : Key} {item : Item}

/-- An item that has to wait through all rounds leaves room for the items served before and for all
places of the rounds. -/
theorem length_served_lt (nodup : items.Nodup) (member : item ∈ items) {keys : List (Item → Key)}
    (rounds : keys.IsChain (Round items count time)) (early : ∀ key ∈ keys.head?, key item < time)
    (waits : ∀ key ∈ keys, item ∉ least key count items) {served : List Item}
    (servedNodup : served.Nodup) (servedItems : served ⊆ items) (notServed : item ∉ served)
    (late : ∀ key ∈ keys.head?, ∀ other ∈ served, time ≤ key other) :
    served.length + keys.length * count < items.length := by
  induction keys generalizing served with
  | nil =>
    have room : (item :: served).Subperm items :=
      List.subperm_of_subset (List.nodup_cons.mpr ⟨notServed, servedNodup⟩)
        (List.cons_subset.mpr ⟨member, servedItems⟩)
    rw [List.length_nil, Nat.zero_mul, Nat.add_zero]
    exact room.length_le
  | cons key rest inductionHypothesis =>
    have isEarly : key item < time := early key rfl
    have notNow := waits key List.mem_cons_self
    -- What is served now has an early key, unlike what was served before.
    have apart : List.Disjoint served (least key count items) := fun other inServed isLeast =>
      absurd (late key rfl other inServed) (not_le.mpr ((least_le member notNow isLeast).trans_lt isEarly))
    have more : (served ++ least key count items).length + rest.length * count < items.length := by
      refine inductionHypothesis rounds.of_cons ?_
        (fun other inRest => waits other (List.mem_cons_of_mem _ inRest))
        (List.nodup_append.mpr ⟨servedNodup, nodup_least nodup, ?_⟩) ?_ ?_ ?_
      · intro next isNext
        obtain ⟨tail, rfl⟩ := List.head?_eq_some_iff.mp isNext
        have round : Round items count time key next := (List.isChain_cons_cons.mp rounds).1
        rw [round.kept item member notNow]
        exact isEarly
      · rintro other inServed _ isLeast rfl
        exact apart inServed isLeast
      · exact List.append_subset.mpr ⟨servedItems, fun _ => mem_of_mem_least⟩
      · exact fun both => (List.mem_append.mp both).elim notServed notNow
      · intro next isNext other both
        obtain ⟨tail, rfl⟩ := List.head?_eq_some_iff.mp isNext
        have round : Round items count time key next := (List.isChain_cons_cons.mp rounds).1
        obtain inServed | isLeast := List.mem_append.mp both
        · rw [round.kept other (servedItems inServed) (apart inServed)]
          exact late key rfl other inServed
        · exact round.served other isLeast
    rw [List.length_append, length_least member notNow] at more
    rw [List.length_cons, Nat.succ_mul]
    omega

/-- With as many places as there are items, the rounds serve every item. -/
theorem served_in_rounds (nodup : items.Nodup) {keys : List (Item → Key)}
    (rounds : keys.IsChain (Round items count time))
    (early : ∀ key ∈ keys.head?, ∀ item ∈ items, key item < time)
    (enough : items.length ≤ keys.length * count) (member : item ∈ items) :
    ∃ key ∈ keys, item ∈ least key count items := by
  by_contra never
  push Not at never
  have room := length_served_lt nodup member rounds (fun key isKey => early key isKey item member)
    never List.nodup_nil (List.nil_subset _) List.not_mem_nil fun _ _ _ none =>
      absurd none List.not_mem_nil
  rw [List.length_nil, Nat.zero_add] at room
  exact absurd enough (not_le.mpr room)

end LeastRecent

end LocalGpuCluster
