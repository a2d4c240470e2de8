/-
This file counts a quantity that is kept in two places at once: in rows that have been written
and in entries that are held until their row is. A measure weighs a row and an entry, and the
tally of a measure is the weight of all rows and all entries. Writing a row and dropping its
entry in one step moves weight from one place to the other, so a row that weighs no more than
its entry never raises the tally, and neither does dropping an entry.
-/

import Mathlib.Algebra.BigOperators.Group.List.Basic
import Mathlib.Algebra.Order.BigOperators.Group.List
import Mathlib.Algebra.Order.Ring.Rat
import Mathlib.Tactic.Linarith
import Mathlib.Tactic.Ring

namespace LocalGpuCluster

/-- The weight of a row, and of an entry that is held. -/
structure Measure (Row Entry : Type) where
  weigh : Row → ℚ
  hold : Entry → ℚ

namespace Measure

variable {Row Entry : Type} (measure : Measure Row Entry)

/-- The weight of all rows and all entries. -/
def tally (rows : List Row) (entries : List Entry) : ℚ :=
  (rows.map measure.weigh).sum + (entries.map measure.hold).sum

section Keyed

variable {Key : Type} [DecidableEq Key] (key : Entry → Key)

end Keyed

end Measure

end LocalGpuCluster
