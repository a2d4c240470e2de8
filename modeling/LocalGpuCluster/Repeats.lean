/-
This file is a small library on blocks of a list that come several times in a row. Blocks are slices
between two positions, which stop at the end of the list. A block that comes so often from a position
on comes less often as well, and as it is not empty it comes no more often than the list has items.
-/

import Mathlib.Data.List.Basic

namespace LocalGpuCluster

namespace Repeats

variable {Item : Type*} {items : List Item} {start period times : ℕ}

/-- `items[first:last]`. -/
def slice (items : List Item) (first last : ℕ) : List Item := (items.take last).drop first

/-- The block of so many items at a position comes so many times in a row. -/
structure Run (items : List Item) (start period times : ℕ) : Prop where
  bound : start + times * period ≤ items.length
  same : ∀ turn < times, slice items (start + turn * period) (start + (turn + 1) * period) =
    slice items start (start + period)

theorem length_slice {first last : ℕ} (bound : last ≤ items.length) :
    (slice items first last).length = last - first := by
  rw [slice, List.length_drop, List.length_take, Nat.min_eq_left bound]

/-- What is as long as the block it is compared with does not run into the end of the list. -/
theorem le_length_of_slice_eq {first last : ℕ} {block : List Item} (ordered : first < last)
    (long : block.length = last - first) (same : slice items first last = block) :
    last ≤ items.length := by
  have length := congrArg List.length same
  rw [long, slice, List.length_drop, List.length_take] at length
  omega

theorem Run.anti (run : Run items start period times) {fewer : ℕ} (le : fewer ≤ times) :
    Run items start period fewer where
  bound := Nat.le_trans (Nat.add_le_add_left (Nat.mul_le_mul_right period le) start) run.bound
  same turn less := run.same turn (Nat.lt_of_lt_of_le less le)

/-- A block that is there comes once. -/
theorem run_one (bound : start + period ≤ items.length) : Run items start period 1 where
  bound := by rwa [Nat.one_mul]
  same turn less := by
    obtain rfl := Nat.lt_one_iff.mp less
    rw [Nat.zero_mul, Nat.add_zero, Nat.zero_add, Nat.one_mul]

/-- It comes once more if it comes right after its last turn. -/
theorem run_succ_iff (positive : 0 < period) (run : Run items start period times)
    (some : 0 < times) : Run items start period (times + 1) ↔
      slice items (start + times * period) (start + (times + 1) * period) =
        slice items start (start + period) := by
  constructor
  · intro longer
    exact longer.same times (Nat.lt_succ_self times)
  · intro same
    have first := (run.anti some).bound
    rw [Nat.one_mul] at first
    have width : start + (times + 1) * period - (start + times * period) = period := by
      rw [Nat.succ_mul]
      omega
    refine ⟨le_length_of_slice_eq ?_ ?_ same, fun turn less => ?_⟩
    · rw [Nat.succ_mul]
      omega
    · rw [length_slice first, width, Nat.add_sub_cancel_left]
    · obtain before | rfl := Nat.lt_succ_iff_lt_or_eq.mp less
      · exact run.same turn before
      · exact same

theorem Run.times_le (run : Run items start period times) (positive : 0 < period) :
    times ≤ items.length :=
  Nat.le_trans (Nat.le_mul_of_pos_right times positive)
    (Nat.le_trans (Nat.le_add_left _ start) run.bound)

end Repeats

end LocalGpuCluster
