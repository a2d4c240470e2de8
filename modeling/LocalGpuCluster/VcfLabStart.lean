/-
This file models `Start-VCFLab.ps1`: the hosts and vSAN, the check that the other mode's VMs are off, and
then the LLM workers of Minimal or the tiers of Full with their gates.
-/

import LocalGpuCluster.VcfLabCommon

namespace LocalGpuCluster

namespace VcfLab

open Interaction (issue observe)

structure StartFlags where
  minimal : Bool
  withVCenter : Bool
  stopLlmWorkers : Bool
  skipDevVms : Bool
  ignoreLicenseWindow : Bool
  whatIf : Bool
  skipInventoryRepair : Bool
  skipHost : List String
  deriving DecidableEq, Repr

/-- `Select-VCFLabHosts`. A name that is no host's, or too few hosts that are left, is refused. -/
def Config.selectHosts (config : Config) (skipHost : List String) : Option Config :=
  let skip := (skipHost.filter (· != "")).eraseDups
  let keep := config.hosts.filter fun host => !skip.contains host.short
  if skip.any (fun name => !(config.hosts.map (·.short)).contains name) then none
  else if !skip.isEmpty && 2 * keep.length ≤ config.hosts.length then none
  else some { config with
    hosts := keep
    llmWorkers := config.llmWorkers.filter fun entry => !skip.contains entry.host
    devVms := config.devVms.filter fun entry => !skip.contains entry.host }

namespace Start

variable (site : Site) (config : Config) (flags : StartFlags) (rounds : ℕ)

/-! ### Before anything is powered on -/

/-- Minimal does not start beyond the license window. -/
def refuseLicense : Script Unit := do
  let window := config.licenseWindow.getD ⟨30, 150⟩
  let refuse ← observe fun log =>
    match site.stampAge log with
    | .ok days => decide (window.refuseDays ≤ days)
    | .error _ => true
  endIf (.exit 1) (flags.minimal = true ∧ refuse = true ∧ flags.ignoreLicenseWindow = false)

/-- A magic packet for each host that does not answer and can be woken. -/
def wakeHosts : Script Unit := do
  let down ← observe fun log => config.hosts.filter fun host => !site.takesPort log host.ip 443
  if flags.whatIf then pure ()
  else (down.filter (·.wolMac != "")).forM fun host => site.call .silentlyContinue (.woke host)

def hostUp (host : EsxHost) : Script Bool := do
  let port ← site.testTcpPort host.ip 443
  if !port then return false
  else
    attempt (do
      site.connectVIServer .other (.host host.ip)
      site.call .stop (.readHost (.host host.ip))
      return true)
      (pure false)

def requireHost (host : EsxHost) : Script Unit := do
  let ok ← site.waitGate rounds (.hostApi host.short) config.gateTimeouts.hostApi (hostUp site host)
  endIf (.exit 1) (ok = false)

/-- Whether each of the hosts counts enough members. -/
def vsanFormed : List EsxHost → Script Bool
  | [] => return true
  | host :: rest => do
    let formed ← attempt (do
      site.connectVIServer .other (.host host.ip)
      site.call .stop (.readHost (.host host.ip))
      let members ← observe (site.vsanMembers · (.host host.ip))
      return config.hosts.length ≤ members &&
        (flags.skipHost.any (· != "") || members == config.hosts.length))
      (pure false)
    if formed then vsanFormed rest else return false

def requireVsan : Script Unit := do
  let formed ← site.waitGate rounds .vsan
    (if flags.minimal && !flags.withVCenter then min 120 config.gateTimeouts.vsanFormation
      else config.gateTimeouts.vsanFormation)
    (vsanFormed site config flags config.hosts)
  endIf (.exit 1) (formed = false ∧ (flags.minimal && !flags.withVCenter) = false)

/-! ### The checks of the modes -/

/-- M1: for Minimal the VCF components must be down. -/
def requireVcfDown : Script Unit := do
  let vcf ← site.getRunningVcfOnHosts config (if flags.withVCenter then [config.vCenter] else [])
  endIf (.exit 1) (vcf.unreachable ≠ [])
  endIf (.exit 1) (vcf.running ≠ [])

def stopWorker (worker : HostVm) : Script Unit := do
  let stopped ← site.stopHostVM rounds worker.hostIp worker.vmName
    (config.stopGrace.llmWorker.getD 120) false flags.whatIf
  endIf (.exit 1) (stopped = false)

/-- After the workers were stopped they are looked at again. -/
def recheckWorkers : Script Unit :=
  if flags.whatIf then pure ()
  else do
    let still ← site.getRunningLlmWorkers config
    endIf (.exit 1) (still.running ≠ [] ∨ still.unreachable ≠ [])

/-- F0: for Full the LLM workers must be off, or are stopped if that was asked for. -/
def requireWorkersOff : Script Unit := do
  let found ← site.getRunningLlmWorkers config
  endIf (.exit 1) (found.unreachable ≠ [])
  if found.running = [] then pure ()
  else do
    endIf (.exit 1) (flags.stopLlmWorkers = false)
    found.running.forM (stopWorker site config flags rounds)
    recheckWorkers site config flags

def requireMode : Script Unit :=
  if flags.minimal then requireVcfDown site config flags
  else requireWorkersOff site config flags rounds

/-! ### The hosts and the owned VMs -/

/-- Whether a host stays in maintenance mode however often it is asked. -/
def staysInMaintenance (server : Server) : ℕ → Script Bool
  | 0 => return true
  | tries + 1 => do
    site.call .stop (.readHost server)
    let maintenance ← observe (site.inMaintenance · server)
    if !maintenance then return false
    else do
      Site.sleep 5
      staysInMaintenance server tries

/-- Takes a host out of maintenance mode; whether that failed. -/
def stuckInMaintenance (host : EsxHost) : Script Bool :=
  attempt (do
    site.connectVIServer .other (.host host.ip)
    site.call .stop (.readHost (.host host.ip))
    let maintenance ← observe (site.inMaintenance · (.host host.ip))
    if !maintenance then return false
    else if flags.whatIf then return false
    else do
      site.call .stop (.setMaintenance (.host host.ip) false)
      staysInMaintenance site (.host host.ip) 6)
    (pure true)

def exitMaintenance : Script Unit := do
  let stuck ← config.hosts.mapM (stuckInMaintenance site flags)
  endIf (.exit 1) (stuck.any id = true)

/-- Powers the owned VMs on; the names of those where that failed. -/
def startOwned (role : Role) (vms : List HostVm) : Script (List String) := do
  let started ← vms.mapM fun vm => site.startHostVM role vm.hostIp vm.vmName flags.whatIf
  return ((vms.zip started).filter (!·.2)).map (·.1.vmName)

def startDevVms (devVms : List HostVm) : Script (List String) :=
  if flags.skipDevVms then return [] else startOwned site flags .devVm devVms

/-- `Test-HostVmGuestUp`. -/
def hostGuestUp (worker : HostVm) : Script Bool :=
  attempt (do
    site.connectVIServer .other (.host worker.hostIp)
    site.guestUp (.host worker.hostIp) worker.vmName)
    (pure false)

/-- The LLM workers of Minimal; the names of those that are not up. -/
def startWorkers (workers : List HostVm) : Script (List String) := do
  let failed ← startOwned site flags .llmWorker workers
  if flags.whatIf then return failed
  else do
    let waited := workers.filter fun worker => !failed.contains worker.vmName
    let up ← waited.mapM fun worker => site.waitGate rounds (.llmWorker worker.vmName)
      (config.gateTimeouts.llmWorker.getD 600) (hostGuestUp site worker)
    return failed ++ ((waited.zip up).filter (!·.2)).map (·.1.vmName)

/-! ### vCenter -/

/-- Powers vCenter on if it is registered on a host. -/
def vCenterOn (host : EsxHost) : Script Bool := do
  site.connectVIServer .other (.host host.ip)
  let found ← site.findVM .other (.host host.ip) config.vCenter
  if found.isSome then do
    let ok ← site.startLabVM config rounds .vCenter (.host host.ip) config.vCenter false flags.whatIf
    endIf (.exit 1) (ok = false)
    return true
  else do
    let _ ← site.getVMs .silentlyContinue .other (.host host.ip) fun _ => true
    return false

def startVCenter : List EsxHost → Script Bool
  | [] => return false
  | host :: rest => do
    let found ← attempt (vCenterOn site config flags rounds host) (pure false)
    if found then return true else startVCenter rest

/-- A gate that holds the run. -/
def holdAt (gate : Gate) (timeoutSeconds : ℕ) (test : Script Bool) : Script Unit := do
  let ok ← site.waitGate rounds gate timeoutSeconds test
  endIf (.exit 1) (ok = false)

/-- A gate whose outcome is piped to `Out-Null`. -/
def passBy (gate : Gate) (timeoutSeconds : ℕ) (test : Script Bool) : Script Unit := do
  let _ ← site.waitGate rounds gate timeoutSeconds test
  return

def reachVCenter : Script Unit := do
  let found ← startVCenter site config flags rounds config.hosts
  endIf (.exit 1) (found = false)
  endIf (.exit 0) (flags.whatIf = true)
  holdAt site rounds .vCenterApi config.gateTimeouts.vCenterApi (site.probe .vCenterApi)
  site.connectVIServer .other .vCenter
  let inSync ← site.confirmHostInventorySync config rounds flags.skipInventoryRepair
  endIf (.exit 1) (inSync = false ∧ flags.skipInventoryRepair = false)

/-! ### The tiers of Full -/

/-- `Start-LabVM` in a tier, whose result is piped to `Out-Null`. -/
def startTier (role : Role) (name : String) : Script Unit := do
  let _ ← site.startLabVM config rounds role .vCenter name (!flags.skipInventoryRepair) false
  return

/-- The VSP nodes, by the configured names if none is found to be of the control plane. -/
def vspNodes : Script VspNodes := do
  let vsp ← site.getVspNodes config
  if vsp.controlPlane.isEmpty then do
    let controlPlane ← config.vsp.knownControlPlane.mapM (site.findVM .other .vCenter)
    let workers ← config.vsp.knownWorkers.mapM (site.findVM .other .vCenter)
    return ⟨controlPlane.reduceOption, workers.reduceOption⟩
  else return vsp

/-- Whether no guest of these is down. -/
def guestsUp (nodes : List Vm) : Script Bool := do
  let up ← nodes.mapM fun node => site.guestUp .vCenter node.name
  return up.all id

/-- Whether some node of the control plane serves its API. -/
def servesApi (nodes : List Vm) : Script Bool := do
  let vms ← nodes.mapM fun node => site.getVM .other .vCenter node.name
  let ports ← (vms.filterMap (·.guestIps.head?)).mapM fun ip => site.testTcpPort ip 6443
  return ports.any id

/-- Tiers 3 to 5. -/
def startManagement : Script Unit := do
  startTier site config flags rounds (.appliance .sddcManager) (config.appliance .sddcManager)
  holdAt site rounds .sddcManager config.gateTimeouts.sddcManager (site.probe .sddcManager)
  startTier site config flags rounds (.appliance .nsx) (config.appliance .nsx)
  holdAt site rounds .nsx config.gateTimeouts.nsx (site.probe .nsx)
  startTier site config flags rounds (.appliance .operations) (config.appliance .operations)
  holdAt site rounds .operations config.gateTimeouts.operations (site.probe .operations)

/-- Tiers 6 and 7. -/
def startVsp (vsp : VspNodes) : Script Unit := do
  vsp.controlPlane.forM fun node => startTier site config flags rounds .vspControl node.name
  holdAt site rounds .vspControlIps config.gateTimeouts.vspControl (guestsUp site vsp.controlPlane)
  holdAt site rounds .vspControlApi config.gateTimeouts.vspControl (servesApi site vsp.controlPlane)
  vsp.workers.forM fun node => startTier site config flags rounds .vspWorker node.name
  passBy site rounds .vspWorkers config.gateTimeouts.vspWorker (guestsUp site vsp.workers)

/-- Tiers 8 and 9. -/
def startTail : Script Unit := do
  startTier site config flags rounds (.appliance .license) (config.appliance .license)
  passBy site rounds .license config.gateTimeouts.appliance
    (site.guestUp .vCenter (config.appliance .license))
  startTier site config flags rounds (.appliance .opsCollector) (config.appliance .opsCollector)
  passBy site rounds .opsCollector config.gateTimeouts.appliance
    (site.guestUp .vCenter (config.appliance .opsCollector))

/-- The tiers after vCenter, and the summary. -/
def startStack (workers : List HostVm) : Script Unit := do
  let _ ← site.getVcfManagedNames config
  let _ ← site.getVMs .silentlyContinue .other .vCenter fun _ => true
  startManagement site config flags rounds
  let vsp ← vspNodes site config
  startVsp site config flags rounds vsp
  startTail site config flags rounds
  issue .summarised
  let _ ← site.getVMs .stop .other .vCenter fun _ => true
  let _ ← site.getVMs .silentlyContinue .other .vCenter fun _ => true
  workers.forM fun worker => do
    let _ ← site.findVM .other .vCenter worker.vmName
    return

/-- What is left to start once the owned VMs are. -/
def startRest (workers : List HostVm) (failedDevVms failedWorkers : List String) : Script Unit := do
  reachVCenter site config flags rounds
  endIf (.exit (if failedWorkers = [] ∧ failedDevVms = [] then 0 else 1)) (flags.minimal = true)
  startStack site config flags rounds workers
  endIf (.exit 1) (failedDevVms ≠ [])

def startModeWorkers (workers : List HostVm) : Script (List String) :=
  if flags.minimal then startWorkers site config flags rounds workers else return []

/-- The script, once it has the hosts of the run. -/
def onHosts : Script Unit := do
  refuseLicense site config flags
  wakeHosts site config flags
  config.hosts.forM (requireHost site config rounds)
  requireVsan site config flags rounds
  let workers ← Site.ownedHostVms config config.llmWorkers
  requireMode site config flags rounds
  exitMaintenance site config flags
  let devVms ← Site.ownedHostVms config config.devVms
  let failedDevVms ← startDevVms site flags devVms
  let failedWorkers ← startModeWorkers site config flags rounds workers
  endIf (.exit (if failedWorkers = [] ∧ failedDevVms = [] then 0 else 1))
    (flags.minimal = true ∧ flags.withVCenter = false)
  startRest site config flags rounds workers failedDevVms failedWorkers

end Start

/-- `Start-VCFLab.ps1`. -/
def startVCFLab (site : Site) (config : Config) (flags : StartFlags) (rounds : ℕ) : Script Unit :=
  match config.selectHosts flags.skipHost with
  | some selected => Start.onHosts site selected flags rounds
  | none => throw (.exit 1)

end VcfLab

end LocalGpuCluster
