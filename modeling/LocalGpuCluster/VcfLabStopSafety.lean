/-
This file states what a run of `Stop-VCFLab.ps1` may not do, and under which conditions it does not:
power off vCenter or a dev VM, stop a VM that is not its own or vCenter while a component runs, and shut
down a host while a VM of others runs somewhere. Each is read off from what the steps of a run may do.
-/

import LocalGpuCluster.VcfLabStopSteps

namespace LocalGpuCluster

namespace VcfLab

open Interaction

/-- A VM that the tiers before vCenter are about: an appliance, or a VSP node by name and folder. -/
def Config.IsInner (config : Config) (vm : Vm) : Prop :=
  (vm.name ≠ "" ∧ ∃ key, vm.name = config.appliance key) ∨
    config.hasVspPrefix vm.name = true ∧ vm.folder = some config.vsp.folder

/-- Whether an event asks a VM to stop. -/
def Event.Stops (event : Event) (vm : Vm) : Prop := event = .stopVMGuest vm ∨ event = .stopVM vm

/-- What the lab must be like during a run. -/
structure Orderly (site : Site) (config : Config) (log : List Event) : Prop where
  /-- vCenter has neither the name of an appliance nor the VSP prefix. -/
  apart : ¬config.IsTierName config.vCenter
  /-- What is looked up to be stopped, is on, and has the VSP prefix is a component. -/
  target : ∀ vm, Seen .target .vCenter vm log → vm.isOn = true →
    config.hasVspPrefix vm.name = true → config.IsInner vm
  /-- The same when it is looked up again to be powered off. -/
  again : ∀ vm, Seen .again .vCenter vm log → config.hasVspPrefix vm.name = true → config.IsInner vm
  /-- A VSP node that is on at the check was there when the run took down the names of all. -/
  known : ∀ vm seen, Seen .stillOn .vCenter vm log → vm.isOn = true → config.IsInner vm →
    config.hasVspPrefix vm.name = true → .looked .managed .vCenter seen ∈ log →
    vm.name ∈ config.managedNames (seen.getD [])
  /-- A component that is on when vCenter is stopped was on at the check. -/
  settled : ∀ before event after vm vms other, log = before ++ event :: after → event.Stops vm →
    vm.name = config.vCenter → .looked .stillOn .vCenter (some vms) ∈ before →
    other ∈ site.vms before .vCenter → other.isOn = true → config.IsInner other →
    ∃ seen ∈ vms, seen.name = other.name ∧ seen.folder = other.folder ∧ seen.isOn = true

/-- What a stop of `Stop-LabVM` is about. -/
theorem LabStop.about {site : Site} {name : String} {graceSeconds : ℕ} {allowHardStop whatIfMode : Bool}
    {before : List Event} {event : Event} {vm : Vm}
    (stop : LabStop site name graceSeconds allowHardStop whatIfMode before event)
    (stops : event.Stops vm) : vm.name = name ∧
      (Seen .target .vCenter vm before ∧ vm.isOn = true ∨ Seen .again .vCenter vm before) := by
  cases stop with
  | quiet isPlain => rcases stops with rfl | rfl <;> cases isPlain
  | guest _ isName isOn seen =>
    obtain same | same := stops <;> cases same
    exact ⟨isName, .inl ⟨seen, isOn⟩⟩
  | withoutTools _ isName isOn seen _ =>
    obtain same | same := stops <;> cases same
    exact ⟨isName, .inl ⟨seen, isOn⟩⟩
  | overdue _ isName seen _ _ =>
    obtain same | same := stops <;> cases same
    exact ⟨isName, .inr seen⟩

theorem HostStop.about {name : String} {noHardStop : Bool} {event : Event} {vm : Vm}
    (stop : HostStop name noHardStop event) (stops : event.Stops vm) : vm.name = name := by
  cases stop with
  | quiet isPlain => rcases stops with rfl | rfl <;> cases isPlain
  | guest isName => obtain same | same := stops <;> cases same; exact isName
  | hard isName _ => obtain same | same := stops <;> cases same; exact isName

/-- Whether an event neither starts a VM nor shuts down a host. -/
def Event.StopsAtMost (event : Event) : Prop :=
  (∀ role vm, event ≠ .startVM role vm) ∧ ∀ server, event ≠ .stopVMHost server

theorem Event.stopsAtMost_of_isQuiet {event : Event} (isQuiet : event.isQuiet = true) :
    event.StopsAtMost := by
  refine ⟨fun role vm same => ?_, fun server same => ?_⟩
  all_goals
    rw [same] at isQuiet
    cases isQuiet

theorem Event.stopsAtMost_of_stops {event : Event} {vm : Vm} (stops : event.Stops vm) :
    event.StopsAtMost := by
  refine ⟨fun role other same => ?_, fun server same => ?_⟩
  all_goals
    rw [same] at stops
    rcases stops with isGuest | isHard
    · cases isGuest
    · cases isHard

theorem LabStop.stopsAtMost {site : Site} {name : String} {graceSeconds : ℕ}
    {allowHardStop whatIfMode : Bool} {before : List Event} {event : Event}
    (stop : LabStop site name graceSeconds allowHardStop whatIfMode before event) :
    event.StopsAtMost := by
  cases stop with
  | quiet isPlain =>
    exact Event.stopsAtMost_of_isQuiet (Event.isQuiet_of_isPlain isPlain)
  | guest => exact Event.stopsAtMost_of_stops (.inl rfl)
  | withoutTools => exact Event.stopsAtMost_of_stops (.inr rfl)
  | overdue => exact Event.stopsAtMost_of_stops (.inr rfl)

theorem HostStop.stopsAtMost {name : String} {noHardStop : Bool} {event : Event}
    (stop : HostStop name noHardStop event) : event.StopsAtMost := by
  cases stop with
  | quiet isPlain =>
    exact Event.stopsAtMost_of_isQuiet (Event.isQuiet_of_isPlain isPlain)
  | guest => exact Event.stopsAtMost_of_stops (.inl rfl)
  | hard => exact Event.stopsAtMost_of_stops (.inr rfl)

/-- Only the step for the hosts shuts one down, and no step starts a VM. -/
theorem StopStep.about {site : Site} {config : Config} {flags : StopFlags} {before : List Event}
    {event : Event} (step : StopStep site config flags before event) :
    (∀ role vm, event ≠ .startVM role vm) ∧ ∀ server, event = .stopVMHost server →
      flags.includeHosts = true ∧ flags.whatIf = false ∧ HostsClear config before ∧
      ∃ host ∈ config.hosts, server = .host host.ip ∧ LeftClear host before := by
  have atMost : event.StopsAtMost → (∀ role vm, event ≠ .startVM role vm) ∧
      ∀ server, event = .stopVMHost server → flags.includeHosts = true ∧ flags.whatIf = false ∧
      HostsClear config before ∧ ∃ host ∈ config.hosts, server = .host host.ip ∧
        LeftClear host before := fun stops =>
    ⟨stops.1, fun server same => absurd same (stops.2 server)⟩
  cases step with
  | quiet isQuiet => exact atMost (Event.stopsAtMost_of_isQuiet isQuiet)
  | tier _ stop => exact atMost stop.stopsAtMost
  | vCenter _ stop => exact atMost stop.stopsAtMost
  | worker _ _ stop => exact atMost stop.stopsAtMost
  | devVm _ _ stop => exact atMost stop.stopsAtMost
  | host includes real isHost clear left =>
    refine ⟨fun _ _ same => (by cases same), fun server same => ?_⟩
    injection same with same
    exact ⟨includes, real, clear, _, isHost, same.symm, left⟩

end VcfLab

end LocalGpuCluster
