/-
This file reads the escalation budget as five meters over one ledger: the spend of the month,
the spend of the day, and the calls of the day for each limit on them. A meter weighs the rows
of the file that lie in its period and the reservations held in memory, and has a limit. What
any operation does to the budget is then what it does to the weight of rows and reservations.
-/

import LocalGpuCluster.EscalationSegments
import LocalGpuCluster.Tally

namespace LocalGpuCluster

namespace Escalation

/-! ### Meters -/

inductive Meter where
  | month
  | day
  | hardCalls
  | sharedCalls
  | autoCalls
  deriving DecidableEq, Repr

namespace Meter

/-- The start of the period the meter runs over. -/
def start (config : Config) (now : ℚ) : Meter → ℚ
  | .month => config.zone.monthStart now
  | _ => config.zone.dayStart now

/-- What a row of the period weighs. -/
def weight (python : Python) (config : Config) (row : Row) : Meter → ℚ
  | .month | .day => rowCost python config row
  | .hardCalls => if countsFor python .hard row then 1 else 0
  | .sharedCalls =>
      (if countsFor python .ask row then 1 else 0) + if countsFor python .auto row then 1 else 0
  | .autoCalls => if countsFor python .auto row then 1 else 0

/-- What a reservation weighs. -/
def held (entry : Reservation) : Meter → ℚ
  | .month | .day => entry.worst
  | .hardCalls => if entry.chosen = .hard then 1 else 0
  | .sharedCalls => (if entry.chosen = .ask then 1 else 0) + if entry.chosen = .auto then 1 else 0
  | .autoCalls => if entry.chosen = .auto then 1 else 0

/-- The limit of the meter, where it has one. -/
def limit (config : Config) : Meter → Option ℚ
  | .month => some config.monthCap
  | .day => some config.dayCap
  | .hardCalls => config.hardDailyCalls.map Nat.cast
  | .sharedCalls => config.sharedDailyCalls.map Nat.cast
  | .autoCalls => config.autoDailyCalls.map Nat.cast

/-- The meter as a measure of the ledger at a time. -/
def measure (python : Python) (config : Config) (now : ℚ) (meter : Meter) :
    Measure Row Reservation where
  weigh row := if meter.start config now ≤ rowTime python now row then
    meter.weight python config row else 0
  hold entry := meter.held entry

end Meter

/-- The rows of the file. -/
def Ledger.fileRows (ledger : Ledger) : List Row := ledger.lines.filterMap Line.row

/-- What a meter reads. -/
def Ledger.read (python : Python) (config : Config) (now : ℚ) (ledger : Ledger) (meter : Meter) :
    ℚ :=
  (meter.measure python config now).tally ledger.fileRows ledger.pending

section Reading

variable (python : Python) (config : Config) (now : ℚ) (ledger : Ledger)

end Reading

/-! ### What moves a meter -/

section Moves

variable {python : Python} {config : Config}

/-- A row that costs nothing and counts for no alias. -/
structure Free (python : Python) (config : Config) (row : Row) : Prop where
  cost : rowCost python config row = 0
  calls : ∀ chosen, countsFor python chosen row = false

theorem Free.weight {row : Row} (free : Free python config row) (meter : Meter) :
    meter.weight python config row = 0 := by
  cases meter <;> simp [Meter.weight, free.cost, free.calls]

/-- The row of a call that is held: it costs no more than was reserved, and it counts, if it
does, for the alias that was. -/
structure Fits (python : Python) (config : Config) (entry : Reservation) (row : Row) : Prop where
  cost : rowCost python config row ≤ entry.worst
  calls : ∀ chosen, countsFor python chosen row = true → entry.chosen = chosen

theorem Fits.weight {entry : Reservation} {row : Row} (fits : Fits python config entry row)
    (meter : Meter) : meter.weight python config row ≤ meter.held entry := by
  have count (chosen : Alias) : (if countsFor python chosen row = true then (1 : ℚ) else 0) ≤
      if entry.chosen = chosen then 1 else 0 := by
    by_cases counts : countsFor python chosen row = true
    · rw [if_pos counts, if_pos (fits.calls chosen counts)]
    · rw [if_neg counts]
      split <;> norm_num
  cases meter with
  | month => exact fits.cost
  | day => exact fits.cost
  | hardCalls => exact count .hard
  | sharedCalls => exact add_le_add (count .ask) (count .auto)
  | autoCalls => exact count .auto

end Moves

end Escalation

end LocalGpuCluster
