/-
This file holds lists in which a marker comes often. A list is spaced when the stretches before,
between and after the markers are short; a window that is longer than a stretch and two markers
then holds a whole marker, wherever the window starts. The file also holds the runs of a list, its
consecutive items that are all alike, and how to decide how long they get.
-/

import Mathlib.Data.List.Infix

namespace LocalGpuCluster

namespace Spacing

variable {α : Type}

/-! ### Windows -/

/-- No stretch before, between or after the markers is longer than that. -/
inductive Spaced (marker : List α) (most : ℕ) : List α → Prop
  | last (stretch : List α) (short : stretch.length ≤ most) : Spaced marker most stretch
  | more (stretch : List α) {after : List α} (short : stretch.length ≤ most)
      (spaced : Spaced marker most after) : Spaced marker most (stretch ++ (marker ++ after))

/-- What comes first is a piece of a marker that the window has already missed. -/
theorem Spaced.infix_window_append {marker whole : List α} {most : ℕ}
    (spaced : Spaced marker most whole) (front : List α) (missed : front.length < marker.length)
    {window : List α} (within : window <:+: front ++ whole)
    (long : most + 2 * marker.length ≤ window.length + 1) : marker <:+: window := by
  induction spaced generalizing front with
  | last stretch short =>
    have lengths := within.length_le
    rw [List.length_append] at lengths
    omega
  | more stretch short spaced inductionHypothesis =>
    rename_i after
    obtain ⟨start, rest, pieces⟩ := within
    rw [List.append_assoc, ← List.append_assoc front] at pieces
    by_cases early : start.length ≤ (front ++ stretch).length
    · -- The window starts before the next marker, and is long enough to reach its end.
      obtain ⟨gap, beforeMarker⟩ := List.prefix_of_prefix_length_le
        ⟨window ++ rest, rfl⟩ ⟨marker ++ after, pieces.symm⟩ early
      rw [← beforeMarker, List.append_assoc] at pieces
      have opening := List.append_cancel_left pieces
      have fits : (gap ++ marker).length ≤ window.length := by
        have lengths := congrArg List.length beforeMarker
        rw [List.length_append, List.length_append] at lengths
        rw [List.length_append]
        omega
      have held : gap ++ marker <+: window := by
        refine List.prefix_of_prefix_length_le ⟨after, ?_⟩ ⟨rest, rfl⟩ fits
        rw [List.append_assoc]
        exact opening.symm
      exact (List.suffix_append gap marker).isInfix.trans held.isInfix
    · -- The window starts within the next marker or behind it, and reads on from there.
      cases marker with
      | nil => exact absurd missed (Nat.not_lt_zero _)
      | cons first others =>
        have through : (front ++ stretch ++ [first]) ++ (others ++ after) =
            start ++ (window ++ rest) := by
          rw [pieces, List.append_assoc, List.singleton_append, List.cons_append]
        have reached : (front ++ stretch ++ [first]).length ≤ start.length := by
          rw [List.length_append, List.length_singleton]
          omega
        obtain ⟨skipped, atStart⟩ := List.prefix_of_prefix_length_le
          ⟨others ++ after, through⟩ ⟨window ++ rest, rfl⟩ reached
        rw [← atStart, List.append_assoc _ skipped] at through
        refine inductionHypothesis others (by simp) ⟨skipped, rest, ?_⟩
        rw [List.append_assoc]
        exact (List.append_cancel_left through).symm

/-- Every window that is longer than a stretch and two markers holds a marker. -/
theorem Spaced.infix_window {marker whole window : List α} {most : ℕ}
    (spaced : Spaced marker most whole) (some : marker ≠ []) (within : window <:+: whole)
    (long : most + 2 * marker.length ≤ window.length + 1) : marker <:+: window :=
  spaced.infix_window_append [] (List.length_pos_of_ne_nil some) within long

/-! ### Runs -/

/-- No run of items that all satisfy the predicate is longer than that. -/
def RunsWithin (holds : α → Bool) (most : ℕ) (whole : List α) : Prop :=
  ∀ run, run <:+: whole → run.all holds = true → run.length ≤ most

theorem RunsWithin.of_infix {holds : α → Bool} {most : ℕ} {part whole : List α}
    (within : RunsWithin holds most whole) (isPart : part <:+: whole) :
    RunsWithin holds most part :=
  fun run inPart => within run (inPart.trans isPart)

/-- No run gets longer than that, when so many items of a run are already read. -/
def runsWithinFrom (holds : α → Bool) (most run : ℕ) : List α → Bool
  | [] => decide (run ≤ most)
  | item :: rest =>
      if holds item then runsWithinFrom holds most (run + 1) rest
      else decide (run ≤ most) && runsWithinFrom holds most 0 rest

theorem le_of_runsWithinFrom {holds : α → Bool} {most run : ℕ} {whole : List α}
    (within : runsWithinFrom holds most run whole = true) : run ≤ most := by
  induction whole generalizing run with
  | nil => exact of_decide_eq_true within
  | cons item rest inductionHypothesis =>
    rw [runsWithinFrom] at within
    split at within
    · exact Nat.le_of_succ_le (inductionHypothesis within)
    · exact of_decide_eq_true (Bool.and_eq_true_iff.mp within).1

theorem add_length_le_of_runsWithinFrom {holds : α → Bool} {most run : ℕ}
    {opening rest : List α} (within : runsWithinFrom holds most run (opening ++ rest) = true)
    (alike : opening.all holds = true) : run + opening.length ≤ most := by
  induction opening generalizing run with
  | nil => exact le_of_runsWithinFrom within
  | cons item opening inductionHypothesis =>
    rw [List.all_cons, Bool.and_eq_true] at alike
    rw [List.cons_append, runsWithinFrom, if_pos alike.1] at within
    rw [List.length_cons, Nat.add_comm opening.length, ← Nat.add_assoc]
    exact inductionHypothesis within alike.2

theorem runsWithinFrom_le {holds : α → Bool} {most run fewer : ℕ} {whole : List α}
    (within : runsWithinFrom holds most run whole = true) (le : fewer ≤ run) :
    runsWithinFrom holds most fewer whole = true := by
  induction whole generalizing run fewer with
  | nil => exact decide_eq_true (le.trans (of_decide_eq_true within))
  | cons item rest inductionHypothesis =>
    rw [runsWithinFrom] at within ⊢
    by_cases alike : holds item = true
    · rw [if_pos alike] at within ⊢
      exact inductionHypothesis within (Nat.succ_le_succ le)
    · rw [if_neg alike, Bool.and_eq_true] at within ⊢
      exact ⟨decide_eq_true (le.trans (of_decide_eq_true within.1)), within.2⟩

theorem runsWithin_of_runsWithinFrom {holds : α → Bool} {most : ℕ} {whole : List α}
    (within : runsWithinFrom holds most 0 whole = true) : RunsWithin holds most whole := by
  rintro run ⟨start, rest, rfl⟩ alike
  rw [List.append_assoc] at within
  induction start with
  | nil => exact (Nat.zero_add _).symm.le.trans (add_length_le_of_runsWithinFrom within alike)
  | cons item start inductionHypothesis =>
    rw [List.cons_append, runsWithinFrom] at within
    split at within
    · exact inductionHypothesis (runsWithinFrom_le within (Nat.zero_le _))
    · exact inductionHypothesis (Bool.and_eq_true_iff.mp within).2

end Spacing

end LocalGpuCluster
