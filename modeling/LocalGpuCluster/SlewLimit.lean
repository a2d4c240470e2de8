/-
This file is a small library on levels that follow a target. A level rises to its target at once and falls
towards it by one drop at a time. So it is the least level that is above every target so far, lowered by a
drop for each step since.
-/

import Mathlib.Algebra.Order.Group.Unbundled.Basic
import Mathlib.Algebra.Order.Monoid.Defs
import Mathlib.Algebra.Group.Basic
import Mathlib.Data.List.Infix
import Mathlib.Order.Lattice

namespace LocalGpuCluster

namespace SlewLimit

variable {Level : Type*} [AddCommGroup Level] [LinearOrder Level] {drop level target : Level}
  {targets : List Level}

/-- One step. -/
def follow (drop level target : Level) : Level := max target (level - drop)

/-- A step for each target. -/
def followAll (drop level : Level) (targets : List Level) : Level := targets.foldl (follow drop) level

theorem target_le_follow (drop level target : Level) : target ≤ follow drop level target :=
  le_max_left _ _

theorem sub_le_follow (drop level target : Level) : level - drop ≤ follow drop level target :=
  le_max_right _ _

@[simp] theorem followAll_nil (drop level : Level) : followAll drop level [] = level := rfl

theorem followAll_cons (drop level target : Level) (targets : List Level) :
    followAll drop level (target :: targets) = followAll drop (follow drop level target) targets := rfl

theorem followAll_concat (drop level : Level) (targets : List Level) (target : Level) :
    followAll drop level (targets ++ [target]) = follow drop (followAll drop level targets) target :=
  List.foldl_concat ..

variable [IsOrderedAddMonoid Level]

theorem follow_le_iff {bound : Level} :
    follow drop level target ≤ bound ↔ target ≤ bound ∧ level ≤ bound + drop := by
  rw [follow, max_le_iff, sub_le_iff_le_add]

/-- What the level is, by the bounds it has: each target counts, lowered by a drop for each later one. -/
theorem followAll_le_iff {bound : Level} :
    followAll drop level targets ≤ bound ↔
      level ≤ bound + targets.length • drop ∧
        ∀ target later, target :: later <:+ targets → target ≤ bound + later.length • drop := by
  induction targets generalizing level with
  | nil => simp
  | cons first rest inductionHypothesis =>
    rw [followAll_cons, inductionHypothesis, follow_le_iff, List.length_cons, succ_nsmul, ← add_assoc]
    constructor
    · rintro ⟨⟨reached, started⟩, later⟩
      refine ⟨started, fun target others isSuffix => ?_⟩
      obtain whole | inRest := List.suffix_cons_iff.mp isSuffix
      · cases whole
        exact reached
      · exact later target others inRest
    · rintro ⟨started, all⟩
      exact ⟨⟨all first rest List.suffix_rfl, started⟩, fun target others isSuffix =>
        all target others (isSuffix.trans (List.suffix_cons first rest))⟩

end SlewLimit

end LocalGpuCluster
