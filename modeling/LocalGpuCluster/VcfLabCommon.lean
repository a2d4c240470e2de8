/-
This file models the functions of `VCFLab.Common.ps1` that start and stop VMs, that wait for a gate, and
that ask vCenter or the hosts what runs. A wait is followed for a number of rounds. Sessions are dropped
without a trace, and what is only printed is left out.
-/

import Mathlib.Data.List.Sort
import LocalGpuCluster.VcfLab

namespace LocalGpuCluster

namespace VcfLab

open Interaction (issue observe)

/-! ### Whose VMs are whose -/

/-- An owned VM and the host that holds it. -/
structure HostVm where
  vmName : String
  hostShort : String
  hostIp : String
  deriving DecidableEq, Repr

/-- `Get-OwnedHostVms`. -/
def Config.getOwnedHostVms (config : Config) (owned : List Owned) : Option (List HostVm) :=
  owned.mapM fun entry =>
    match config.hosts.filter (·.short == entry.host) with
    | [host] => some ⟨entry.vmName, host.short, host.ip⟩
    | _ => none

/-- Whether `Get-VcfManagedNames` takes a VM to be in the folder of the VSP nodes. -/
def Config.countsAsInFolder (config : Config) (vm : Vm) : Bool :=
  !vm.folderReadable || vm.folder == some config.vsp.folder

/-- The names of `Get-VcfManagedNames`, given the VMs with the VSP prefix. -/
def Config.managedNames (config : Config) (vms : List Vm) : List String :=
  ((config.vCenter :: appliances.map config.appliance ++
    (vms.filter config.countsAsInFolder).map (·.name)).filter (· != "")).eraseDups

/-- What `Get-VspNodes` returns. -/
structure VspNodes where
  controlPlane : List Vm
  workers : List Vm

/-- `Sort-Object Name`. -/
def byName (vms : List Vm) : List Vm := vms.insertionSort fun first second => first.name ≤ second.name

theorem mem_byName {vms : List Vm} {vm : Vm} : vm ∈ byName vms ↔ vm ∈ vms := List.mem_insertionSort _

/-- What a loop over hosts or workers found: what runs there, and where it could not look. -/
structure Check (Found : Type) where
  running : List Found
  unreachable : List String

/-- The answers of a loop, put together. -/
def checkOf {Found : Type} (answers : List (Except String (List Found))) : Check Found where
  running := (answers.filterMap fun answer => answer.toOption).flatten
  unreachable := answers.filterMap fun answer =>
    match answer with
    | .error place => some place
    | .ok _ => none

namespace Site

variable (site : Site) (config : Config)

/-- `Get-OwnedHostVms` in a script. -/
def ownedHostVms (owned : List Owned) : Script (List HostVm) :=
  match config.getOwnedHostVms owned with
  | some vms => pure vms
  | none => throw .raised

/-- `Get-VcfManagedNames`. -/
def getVcfManagedNames : Script (List String) := do
  let vms ← site.getVMs .silentlyContinue .managed .vCenter fun vm => config.hasVspPrefix vm.name
  return config.managedNames vms

/-- `Get-VspNodes`. -/
def getVspNodes : Script VspNodes := do
  let vms ← site.getVMs .silentlyContinue .nodes .vCenter fun vm => config.hasVspPrefix vm.name
  return ⟨byName (vms.filter fun vm => vm.numCpu == config.vsp.controlPlaneVcpu),
    byName (vms.filter fun vm => vm.numCpu != config.vsp.controlPlaneVcpu)⟩

/-- One round of `Get-RunningVcfOnHosts`. -/
def vcfOnHost (allow : List String) (host : EsxHost) :
    Script (Except String (List (String × String))) :=
  attempt (do
    site.connectVIServer .running (.host host.ip)
    let vms ← site.getVMs .stop .running (.host host.ip) fun _ => true
    return .ok ((vms.filter fun vm =>
      vm.isOn && !allow.contains vm.name && config.isVcfName vm.name).map (·.name, host.short)))
    (pure (.error host.short))

/-- `Get-RunningVcfOnHosts`. -/
def getRunningVcfOnHosts (allow : List String) : Script (Check (String × String)) := do
  let answers ← config.hosts.mapM (site.vcfOnHost config allow)
  return checkOf answers

/-- One round of `Get-RunningLlmWorkers`. -/
def workerRuns (worker : HostVm) : Script (Except String (List HostVm)) :=
  attempt (do
    site.connectVIServer (.worker worker.vmName) (.host worker.hostIp)
    let found ← site.findVM (.worker worker.vmName) (.host worker.hostIp) worker.vmName
    return .ok (if found.any Vm.isOn then [worker] else []))
    (pure (.error worker.hostShort))

/-- `Get-RunningLlmWorkers`. -/
def getRunningLlmWorkers : Script (Check HostVm) := do
  let workers ← ownedHostVms config config.llmWorkers
  let answers ← workers.mapM site.workerRuns
  return checkOf answers

/-! ### To stop a VM -/

/-- The wait of `Stop-HostVM`. -/
def waitHostOff (server : Server) (name : String) (graceSeconds started : ℕ) : ℕ → Script Bool
  | 0 => throw .waiting
  | rounds + 1 => do
    let elapsed ← site.elapsed started
    if graceSeconds * 1000 ≤ elapsed then return false
    else do
      let found ← site.findVM .other server name
      if found.all (·.powerState == .poweredOff) then return true
      else do
        sleep 5
        waitHostOff server name graceSeconds started rounds

/-- The end of `Stop-HostVM`, for a VM that did not go off by itself. -/
def stopStillOn (server : Server) (name : String) (noHardStop : Bool) : Script Bool := do
  let now ← site.findVM .other server name
  match now with
  | none => return true
  | some vm =>
    if vm.powerState == .poweredOff then return true
    else if noHardStop then return false
    else do
      site.call .silentlyContinue (.stopVM vm)
      sleep 5
      let after ← site.findVM .other server name
      return after.all (·.powerState == .poweredOff)

/-- `Stop-HostVM` for a VM that is on. -/
def stopOnHost (vm : Vm) (server : Server) (name : String) (graceSeconds : ℕ) (noHardStop : Bool)
    (rounds : ℕ) : Script Bool := do
  let toolsOk ← site.toolsOk vm
  if toolsOk then do
    site.call .silentlyContinue (.stopVMGuest vm)
    let started ← observe site.clock
    let off ← site.waitHostOff server name graceSeconds started rounds
    if off then return true
    else site.stopStillOn server name noHardStop
  else site.stopStillOn server name noHardStop

/-- `Stop-HostVM`. -/
def stopHostVM (rounds : ℕ) (hostIp name : String) (graceSeconds : ℕ) (noHardStop whatIfMode : Bool) :
    Script Bool :=
  attempt (do
    site.connectVIServer .other (.host hostIp)
    let found ← site.findVM .other (.host hostIp) name
    match found with
    | none => return true
    | some vm =>
      if !vm.isOn then return true
      else if whatIfMode then return true
      else site.stopOnHost vm (.host hostIp) name graceSeconds noHardStop rounds)
    (pure false)

/-! ### vCenter's view of the hosts -/

/-- What `Get-HostInventoryDrift` says of a host. -/
structure Drift where
  host : EsxHost
  checked : ℕ
  drift : ℕ

/-- One round of `Get-HostInventoryDrift`. -/
def hostDrift (view : List Vm) (host : EsxHost) : Script Drift :=
  attempt (do
    site.connectVIServer .other (.host host.ip)
    let vms ← site.getVMs .stop .other (.host host.ip) fun _ => true
    return ⟨host, vms.length, (vms.filter fun vm =>
      (view.find? (·.name == vm.name)).all (·.powerState != vm.powerState)).length⟩)
    (pure ⟨host, 0, 1⟩)

/-- `Get-HostInventoryDrift`. -/
def getHostInventoryDrift (hosts : List EsxHost) : Script (List Drift) := do
  let view ← site.getVMs .silentlyContinue .other .vCenter fun _ => true
  hosts.mapM (site.hostDrift view)

/-- The wait of `Repair-HostVpxa`. -/
def waitSync (hosts : List EsxHost) (started : ℕ) : ℕ → Script Bool
  | 0 => throw .waiting
  | rounds + 1 => do
    let elapsed ← site.elapsed started
    if 240 * 1000 ≤ elapsed then return false
    else do
      sleep 10
      if hosts.isEmpty then return false
      else do
        let drifts ← site.getHostInventoryDrift hosts
        if drifts.head?.any fun found => found.drift == 0 && 0 < found.checked then return true
        else waitSync hosts started rounds

/-- `Repair-HostVpxa`. The restart cuts its own connection, so its failure is no failure. -/
def repairHostVpxa (rounds : ℕ) (hostName : String) : Script Bool := do
  let known ← observe (site.knowsHost · hostName)
  if !known then return false
  else do
    attempt (site.call .stop (.restartedVpxa hostName)) (pure ())
    let started ← observe site.clock
    site.waitSync (config.hosts.filter fun host =>
      host.name == hostName || host.short == (hostName.splitOn ".").headD "") started rounds

/-- `Confirm-HostInventorySync`. -/
def confirmHostInventorySync (rounds : ℕ) (reportOnly : Bool) : Script Bool := do
  let drifts ← site.getHostInventoryDrift config.hosts
  let drifted := drifts.filter (·.drift != 0)
  if drifted.isEmpty then return true
  else if reportOnly then return false
  else do
    let repaired ← drifted.mapM fun found => site.repairHostVpxa config rounds found.host.name
    return repaired.all id

/-! ### To start a VM -/

/-- `Start-HostVM`. -/
def startHostVM (role : Role) (hostIp name : String) (whatIfMode : Bool) : Script Bool :=
  attempt (do
    site.connectVIServer .other (.host hostIp)
    let found ← site.findVM .other (.host hostIp) name
    match found with
    | none => return false
    | some vm =>
      if vm.isOn then return true
      else if whatIfMode then return true
      else do
        site.call .stop (.startVM role vm)
        return true)
    (pure false)

/-- The way of `Start-LabVM` past vCenter. -/
def startOnItsHost (role : Role) (hostName name : String) : Script Bool := do
  site.connectVIServer .other (.host hostName)
  let vm ← site.getVM .other (.host hostName) name
  if vm.isOn then return true
  else do
    site.call .stop (.startVM role vm)
    return true

/-- `Start-LabVM`, with the ESX credential. The server is the one that commands without `-Server` ask. -/
def startLabVM (rounds : ℕ) (role : Role) (server : Server) (name : String)
    (repairInventory whatIfMode : Bool) : Script Bool := do
  let found ← site.findVM .other server name
  match found with
  | none => return false
  | some vm =>
    if vm.isOn then return true
    else if whatIfMode then return true
    else do
      let issued ← attempt (do site.call .stop (.startVM role vm); return true) (pure false)
      if issued then return true
      else match vm.vmHost with
        | none => return false
        | some hostName => do
          let started ← attempt (site.startOnItsHost role hostName name) (pure false)
          if !started then return false
          else if !repairInventory then return true
          else do
            let _ ← site.repairHostVpxa config rounds hostName
            return true

/-! ### Gates -/

/-- The loop of `Wait-Gate`. -/
def pollGate (test : Script Bool) (timeoutSeconds pollSeconds started : ℕ) : ℕ → Script Bool
  | 0 => throw .waiting
  | rounds + 1 => do
    let elapsed ← site.elapsed started
    if timeoutSeconds * 1000 ≤ elapsed then return false
    else do
      let ok ← attempt test (pure false)
      if ok then return true
      else do
        sleep pollSeconds
        pollGate test timeoutSeconds pollSeconds started rounds

/-- `Wait-Gate`. -/
def waitGate (rounds : ℕ) (gate : Gate) (timeoutSeconds : ℕ) (test : Script Bool) : Script Bool := do
  let started ← observe site.clock
  let passed ← site.pollGate test timeoutSeconds 15 started rounds
  issue (.gated gate passed)
  return passed

/-- A functional check of a service. -/
def probe (gate : Gate) : Script Bool := do
  let serves ← observe (site.serves · gate)
  issue (.tested gate)
  return serves

/-- `Test-TcpPort`. -/
def testTcpPort (address : String) (port : ℕ) : Script Bool := observe (site.takesPort · address port)

/-- `Test-VmGuestUp`, and `Test-HostVmGuestUp` once it is connected. -/
def guestUp (server : Server) (name : String) : Script Bool :=
  attempt (do
    let vm ← site.getVM .other server name
    return vm.isOn && vm.guestRunning && !vm.guestIps.isEmpty)
    (pure false)

end Site

end VcfLab

end LocalGpuCluster
