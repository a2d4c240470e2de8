/-
This file holds what a computation that may raise ensures of its result, if it has one. There is one
rule for each way to build such a computation, so that a property of the result is read off its
parts.
-/

import Mathlib.Tactic.Common

namespace LocalGpuCluster

variable {Failure Result Next Item : Type}

/-- Every result has the property. -/
def Ensures (run : Except Failure Result) (post : Result → Prop) : Prop :=
  ∀ result, run = .ok result → post result

namespace Ensures

variable {run : Except Failure Result} {post weaker : Result → Prop}

theorem pure {result : Result} (holds : post result) :
    Ensures (Pure.pure result : Except Failure Result) post :=
  fun _ same => Except.ok.inj same ▸ holds

theorem throw (failure : Failure) :
    Ensures (MonadExcept.throw failure : Except Failure Result) post := by
  intro _ same
  cases same

theorem imp (ensures : Ensures run post) (stronger : ∀ result, post result → weaker result) :
    Ensures run weaker :=
  fun result same => stronger result (ensures result same)

theorem bind {next : Result → Except Failure Next} {after : Next → Prop}
    (first : Ensures run post) (onward : ∀ result, post result → Ensures (next result) after) :
    Ensures (run >>= next) after := by
  intro result same
  cases ran : run with
  | error failure =>
    rw [ran] at same
    cases same
  | ok middle =>
    rw [ran] at same
    exact onward middle (first middle ran) result same

/-- What the first part returns may be of no matter to the rest. -/
theorem skip {next : Result → Except Failure Next} {after : Next → Prop}
    (each : ∀ result, Ensures (next result) after) : Ensures (run >>= next) after := by
  have first : Ensures run fun _ => True := fun _ _ => trivial
  exact bind first fun result _ => each result

/-- Each result of a loop is ensured by the item it is made for. -/
theorem mapM {step : Item → Except Failure Result} {items : List Item} (post : Result → Prop)
    (each : ∀ item ∈ items, Ensures (step item) post) :
    Ensures (items.mapM step) fun results => ∀ result ∈ results, post result := by
  induction items with
  | nil => exact pure fun _ member => absurd member List.not_mem_nil
  | cons item rest inductionHypothesis =>
    rw [List.mapM_cons]
    refine bind (each item List.mem_cons_self) fun first holds => ?_
    refine bind (inductionHypothesis fun other member => each other (List.mem_cons_of_mem _ member))
      fun others held => pure ?_
    rintro result member
    obtain rfl | inOthers := List.mem_cons.mp member
    · exact holds
    · exact held result inOthers

end Ensures

end LocalGpuCluster
