/-
This file models what the scripts that start and stop the VCF lab work on: the configuration, the VMs
that vCenter and the hosts list, and the calls the scripts issue. How a call goes, and what a server
lists, may depend on all that happened before it, so that VMs, hosts and the network may change between
any two calls. Names are in lower case here, as PowerShell compares them without regard to case, and a
name stands for one VM of a server.
-/

import Mathlib.Algebra.GroupWithZero.Nat
import Mathlib.Data.Int.Notation
import Mathlib.Data.Nat.Notation
import LocalGpuCluster.Trace

namespace LocalGpuCluster

namespace VcfLab

/-! ### The configuration -/

/-- The keys of `Appliances`. -/
inductive Appliance where
  | sddcManager
  | nsx
  | operations
  | license
  | opsCollector
  deriving DecidableEq, Repr

/-- The five appliances in the order of the file. -/
def appliances : List Appliance := [.sddcManager, .nsx, .operations, .license, .opsCollector]

structure EsxHost where
  name : String
  ip : String
  short : String
  wolMac : String
  deriving DecidableEq, Repr

/-- An entry of `LlmWorkers` or `DevVms`. -/
structure Owned where
  vmName : String
  host : String
  deriving DecidableEq, Repr

structure Vsp where
  controlPlaneVcpu : ℕ
  namePrefix : String
  folder : String
  knownControlPlane : List String
  knownWorkers : List String
  deriving Repr

/-- `StopGraceSeconds`. -/
structure StopGrace where
  appliance : Appliance → ℕ
  vspWorker : ℕ
  vspControl : ℕ
  vCenter : ℕ
  vCenterForce : ℕ
  llmWorker : Option ℕ
  devVm : Option ℕ

/-- `GateTimeoutSeconds`. -/
structure GateTimeouts where
  hostApi : ℕ
  vsanFormation : ℕ
  vCenterApi : ℕ
  sddcManager : ℕ
  nsx : ℕ
  operations : ℕ
  vspControl : ℕ
  vspWorker : ℕ
  appliance : ℕ
  llmWorker : Option ℕ

/-- `LicenseWindow`. -/
structure LicenseWindow where
  warnDays : ℕ
  refuseDays : ℕ
  deriving Repr

structure Config where
  /-- `VCenter.VmName`. -/
  vCenter : String
  hosts : List EsxHost
  /-- `Appliances[…].VmName`. -/
  appliance : Appliance → String
  vsp : Vsp
  llmWorkers : List Owned
  devVms : List Owned
  licenseWindow : Option LicenseWindow
  stopGrace : StopGrace
  gateTimeouts : GateTimeouts

/-- `"$name" -like "$($Config.Vsp.NamePrefix)*"`. -/
def Config.hasVspPrefix (config : Config) (name : String) : Bool :=
  config.vsp.namePrefix.toList.isPrefixOf name.toList

/-- `Test-IsVcfName`. -/
def Config.isVcfName (config : Config) (name : String) : Bool :=
  name == config.vCenter || appliances.any (fun key => name == config.appliance key) ||
    config.hasVspPrefix name || (config.vsp.knownControlPlane ++ config.vsp.knownWorkers).contains name

/-- Whether a VM is a VSP node, as far as its name tells. -/
def Config.IsVspNode (config : Config) (name : String) : Prop :=
  config.hasVspPrefix name = true ∨ name ∈ config.vsp.knownControlPlane ++ config.vsp.knownWorkers

theorem Config.isVcfName_vCenter (config : Config) : config.isVcfName config.vCenter = true := by
  unfold Config.isVcfName
  rw [beq_self_eq_true]
  rfl

theorem Config.isVcfName_appliance (config : Config) (key : Appliance) :
    config.isVcfName (config.appliance key) = true := by
  unfold Config.isVcfName
  simp only [Bool.or_eq_true, beq_iff_eq, List.any_eq_true]
  exact .inl (.inl (.inr ⟨key, by cases key <;> decide, rfl⟩))

theorem Config.isVcfName_of_isVspNode {config : Config} {name : String}
    (isNode : config.IsVspNode name) : config.isVcfName name = true := by
  unfold Config.isVcfName
  simp only [Bool.or_eq_true, List.contains_iff_mem]
  exact isNode.elim (fun hasPrefix => .inl (.inr hasPrefix)) .inr

/-- What `Assert-VCFLabConfig` finds in the owned lists, given the names it has seen. -/
def Config.ownedProblems (config : Config) : List (String × Owned) → List String → List String
  | [], _ => []
  | (key, owned) :: rest, seen =>
    if owned.vmName = "" ∨ owned.host = "" then
      (key ++ ": every entry needs VmName and Host") :: config.ownedProblems rest seen
    else
      (if owned.vmName ∈ seen then [key ++ ": " ++ owned.vmName ++ " is listed twice"] else []) ++
      (if owned.host ∈ config.hosts.map (·.short) then []
        else [key ++ ": " ++ owned.vmName ++ " names host '" ++ owned.host ++ "', not one of " ++
          ", ".intercalate (config.hosts.map (·.short))]) ++
      (if config.isVcfName owned.vmName then
        [key ++ ": " ++ owned.vmName ++ " collides with a VCF component name or the VSP prefix"]
        else []) ++
      config.ownedProblems rest (owned.vmName :: seen)

/-- `Assert-VCFLabConfig`. -/
def Config.problems (config : Config) : List String :=
  config.ownedProblems (config.llmWorkers.map (("LlmWorkers", ·)) ++
    config.devVms.map (("DevVms", ·))) [] ++
  match config.licenseWindow with
  | none => []
  | some window =>
    if 0 < window.warnDays ∧ window.warnDays < window.refuseDays ∧ window.refuseDays < 180 then []
    else ["LicenseWindow must satisfy 0 < WarnDays < RefuseDays < 180 " ++
      "(VCF 9 licenses lapse at 180 days)"]

/-- A configuration that `Import-VCFLabConfig` returns. -/
structure LoadedConfig extends Config where
  sound : toConfig.problems = []

theorem Config.ownedProblems_eq_nil {config : Config} {entries : List (String × Owned)}
    {seen : List String} (none : config.ownedProblems entries seen = []) :
    (entries.map (·.2.vmName)).Nodup ∧
      ∀ entry ∈ entries, entry.2.vmName ∉ seen ∧ config.isVcfName entry.2.vmName = false := by
  induction entries generalizing seen with
  | nil => exact ⟨List.nodup_nil, fun _ member => absurd member List.not_mem_nil⟩
  | cons entry rest inductionHypothesis =>
    obtain ⟨key, owned⟩ := entry
    unfold Config.ownedProblems at none
    split at none
    · exact absurd none (List.cons_ne_nil _ _)
    · simp only [List.append_eq_nil_iff, ite_eq_right_iff, List.cons_ne_nil, imp_false,
        Bool.not_eq_true] at none
      obtain ⟨⟨⟨isNew, _⟩, notVcf⟩, later⟩ := none
      obtain ⟨nodup, all⟩ := inductionHypothesis later
      rw [List.map_cons, List.nodup_cons, List.forall_mem_cons]
      refine ⟨⟨fun again => ?_, nodup⟩, ⟨isNew, notVcf⟩, fun other member => ?_⟩
      · obtain ⟨other, member, same⟩ := List.mem_map.mp again
        exact (all other member).1 (same ▸ List.mem_cons_self)
      · exact ⟨fun isSeen => (all other member).1 (List.mem_cons_of_mem _ isSeen),
          (all other member).2⟩

/-- No name is in both lists or twice in one, and none is like that of a VCF component. -/
theorem LoadedConfig.owned (config : LoadedConfig) :
    (config.llmWorkers.map (·.vmName) ++ config.devVms.map (·.vmName)).Nodup ∧
      ∀ name ∈ config.llmWorkers.map (·.vmName) ++ config.devVms.map (·.vmName),
        config.isVcfName name = false := by
  obtain ⟨nodup, all⟩ := Config.ownedProblems_eq_nil (List.append_eq_nil_iff.mp config.sound).1
  have names : (config.llmWorkers.map (("LlmWorkers", ·)) ++
      config.devVms.map (("DevVms", ·))).map (·.2.vmName) =
      config.llmWorkers.map (·.vmName) ++ config.devVms.map (·.vmName) := by
    rw [List.map_append, List.map_map, List.map_map]
    rfl
  refine ⟨names ▸ nodup, fun name member => ?_⟩
  rw [← names] at member
  obtain ⟨entry, isEntry, rfl⟩ := List.mem_map.mp member
  exact (all entry isEntry).2

theorem LoadedConfig.worker_notVcf (config : LoadedConfig) {name : String}
    (isWorker : name ∈ config.llmWorkers.map (·.vmName)) : config.isVcfName name = false :=
  config.owned.2 name (List.mem_append_left _ isWorker)

theorem LoadedConfig.devVm_notVcf (config : LoadedConfig) {name : String}
    (isDevVm : name ∈ config.devVms.map (·.vmName)) : config.isVcfName name = false :=
  config.owned.2 name (List.mem_append_right _ isDevVm)

/-- `VCFLab.Config.psd1`. -/
def shippedConfig : LoadedConfig where
  vCenter := "vcsa"
  hosts := [
    ⟨"hyp01.lab.knowledgeondemand.net", "172.16.10.145", "hyp01", ""⟩,
    ⟨"hyp02.lab.knowledgeondemand.net", "172.16.10.143", "hyp02", ""⟩,
    ⟨"hyp03.lab.knowledgeondemand.net", "172.16.10.141", "hyp03", ""⟩]
  appliance
    | .sddcManager => "sddc-manager"
    | .nsx => "nsxa"
    | .operations => "ops"
    | .license => "licsrv"
    | .opsCollector => "opscollector"
  vsp := {
    controlPlaneVcpu := 4
    namePrefix := "platform-"
    folder := "vcf-management-services"
    knownControlPlane := ["platform-dlq9c", "platform-rptxg", "platform-62t8n"]
    knownWorkers := ["platform-pfnmx", "platform-c5t7j", "platform-8n62z"] }
  llmWorkers := []
  devVms := [⟨"devvm01", "hyp01"⟩, ⟨"devvm02", "hyp02"⟩, ⟨"devvm03", "hyp03"⟩]
  licenseWindow := some ⟨30, 150⟩
  stopGrace := {
    appliance := fun
      | .opsCollector => 240
      | .license => 180
      | .operations => 300
      | .nsx => 420
      | .sddcManager => 300
    vspWorker := 300
    vspControl := 300
    vCenter := 0
    vCenterForce := 900
    llmWorker := some 120
    devVm := some 300 }
  gateTimeouts := {
    hostApi := 900
    vsanFormation := 900
    vCenterApi := 1800
    sddcManager := 1800
    nsx := 1800
    operations := 1800
    vspControl := 900
    vspWorker := 900
    appliance := 600
    llmWorker := some 600 }
  sound := by decide

/-! ### Servers and VMs -/

inductive Server where
  | vCenter
  | host (address : String)
  deriving DecidableEq, Repr

inductive PowerState where
  | poweredOff
  | poweredOn
  | suspended
  deriving DecidableEq, Repr

structure Vm where
  name : String
  powerState : PowerState
  numCpu : ℕ
  /-- The folder it is in, whether or not `Folder` can be read. -/
  folder : Option String
  folderReadable : Bool
  /-- `VMHost.Name`, where it can be read. -/
  vmHost : Option String
  guestRunning : Bool
  /-- The IPv4 addresses of the guest. -/
  guestIps : List String
  /-- How long ago it was started, if that can be read. -/
  upSeconds : Option ℤ
  deriving DecidableEq, Repr

def Vm.isOn (vm : Vm) : Bool := vm.powerState == .poweredOn

/-- What a query of the VMs is for. -/
inductive Look where
  /-- `Get-RunningVcfOnHosts`. -/
  | running
  /-- `Get-RunningLlmWorkers`, for one worker. -/
  | worker (vmName : String)
  /-- `Get-VcfManagedNames`. -/
  | managed
  /-- `Get-VspNodes`, and the look for nodes that came back. -/
  | nodes
  /-- `Stop-LabVM`, for the VM it is to stop. -/
  | target
  /-- `Stop-LabVM`, for the VM it is about to power off. -/
  | again
  /-- What is still on before vCenter is shut down. -/
  | stillOn
  /-- What a host runs before the hosts are powered off. -/
  | blockers
  /-- What a host runs before it is powered off. -/
  | left
  | other
  deriving DecidableEq, Repr

/-- The gates of the tiers. -/
inductive Gate where
  | hostApi (host : String)
  | vsan
  | vCenterApi
  | sddcManager
  | nsx
  | operations
  | vspControlIps
  | vspControlApi
  | vspWorkers
  | license
  | opsCollector
  | llmWorker (vmName : String)
  deriving DecidableEq, Repr

/-- What a VM is powered on as. -/
inductive Role where
  | vCenter
  | appliance (key : Appliance)
  | vspControl
  | vspWorker
  | llmWorker
  | devVm
  deriving DecidableEq, Repr

/-- What the scripts do. A query comes with its answer, if it had one. -/
inductive Event where
  | connected (look : Look) (server : Server) (made : Bool)
  | looked (look : Look) (server : Server) (seen : Option (List Vm))
  | readTools (vm : Vm) (running : Bool)
  | stopVMGuest (vm : Vm)
  | stopVM (vm : Vm)
  | startVM (role : Role) (vm : Vm)
  | slept (seconds : ℕ)
  | setHa (enabled : Bool)
  | readHost (server : Server)
  | setMaintenance (server : Server) (entering : Bool)
  | stopVMHost (server : Server)
  | restartedVpxa (hostName : String)
  | woke (host : EsxHost)
  | tested (gate : Gate)
  | gated (gate : Gate) (passed : Bool)
  | wroteLicenseStamp
  | summarised
  deriving DecidableEq, Repr

/-! ### The lab -/

/-- How a call goes: it is answered, it fails with an error that `-ErrorAction` rules, or it ends with one
that only a `catch` stops. -/
inductive Outcome where
  | answered
  | failed
  | threw
  deriving DecidableEq, Repr

inductive ErrorAction where
  | stop
  | silentlyContinue
  deriving DecidableEq, Repr

/-- The lab and its network, after what happened. -/
structure Site where
  outcome : List Event → Outcome
  vms : List Event → Server → List Vm
  /-- `ToolsRunningStatus`, where it can be read. -/
  tools : List Event → Vm → Option String
  /-- Milliseconds. -/
  clock : List Event → ℕ
  clock_le : ∀ log event, clock log ≤ clock (log ++ [event])
  inMaintenance : List Event → Server → Bool
  /-- How many members of the vSAN cluster a host counts. -/
  vsanMembers : List Event → Server → ℕ
  haEnabled : List Event → Bool
  /-- Whether vCenter knows a host by a name. -/
  knowsHost : List Event → String → Bool
  /-- Whether a host takes connections on a port. -/
  takesPort : List Event → String → ℕ → Bool
  /-- What a functional check of a service would find. -/
  serves : List Event → Gate → Bool
  /-- The age of the license stamp in days, or why there is none. -/
  stampAge : List Event → Except String ℕ

/-- How a script ends before its last line. A wait that is not looked at any further ends in `waiting`. -/
inductive Halt where
  | exit (code : ℕ)
  | raised
  | waiting
  deriving DecidableEq, Repr

abbrev Script (Result : Type) := Interaction Halt (List Event) Result

open Interaction (issue observe)

/-- `try { … } catch { … }`. -/
def attempt {Result : Type} (program handler : Script Result) : Script Result :=
  tryCatch program fun halt => if halt = .raised then handler else throw halt

/-- To end the script if a condition holds. -/
def endIf (halt : Halt) (condition : Prop) [Decidable condition] : Script Unit :=
  if condition then throw halt else pure ()

namespace Site

variable (site : Site)

/-- A call that does something. -/
def call (errorAction : ErrorAction) (event : Event) : Script Unit := do
  let outcome ← observe site.outcome
  issue event
  endIf .raised (outcome = .threw ∨ outcome = .failed ∧ errorAction = .stop)

/-- `Connect-VIServer … -ErrorAction Stop`, for the queries that follow. -/
def connectVIServer (look : Look) (server : Server) : Script Unit := do
  let outcome ← observe site.outcome
  issue (.connected look server (outcome = .answered))
  endIf .raised (outcome ≠ .answered)

/-- What `Get-VM` would list, and how the call goes. -/
def listing (server : Server) (wanted : Vm → Bool) (log : List Event) : Option (List Vm) × Outcome :=
  (if site.outcome log = .answered then some ((site.vms log server).filter wanted) else none,
    site.outcome log)

/-- `Get-VM`. A query that fails and that may fail lists nothing. -/
def getVMs (errorAction : ErrorAction) (look : Look) (server : Server) (wanted : Vm → Bool) :
    Script (List Vm) := do
  let listed ← observe (site.listing server wanted)
  issue (.looked look server listed.1)
  endIf .raised (listed.2 = .threw ∨ listed.2 = .failed ∧ errorAction = .stop)
  return listed.1.getD []

/-- `Get-VM -Name … -ErrorAction SilentlyContinue`. -/
def findVM (look : Look) (server : Server) (name : String) : Script (Option Vm) := do
  let vms ← site.getVMs .silentlyContinue look server (·.name == name)
  return vms.head?

/-- `Get-VM -Name …`, which fails if there is no such VM. -/
def getVM (look : Look) (server : Server) (name : String) : Script Vm := do
  let vms ← site.getVMs .stop look server (·.name == name)
  match vms with
  | vm :: _ => return vm
  | [] => throw .raised

/-- `Guest.ExtensionData.ToolsRunningStatus -eq 'guestToolsRunning'`, and false where it cannot be read. -/
def toolsOk (vm : Vm) : Script Bool := do
  let running ← observe fun log => decide (site.tools log vm = some "guestToolsRunning")
  issue (.readTools vm running)
  return running

/-- `Start-Sleep`. -/
def sleep (seconds : ℕ) : Script Unit := issue (.slept seconds)

/-- `[Diagnostics.Stopwatch]`, started at a time. -/
def elapsed (started : ℕ) : Script ℕ := observe fun log => site.clock log - started

end Site

/-! ### What the calls add to the log -/

/-- How long an event takes, where time passes in sleep only. -/
def Event.seconds : Event → ℕ
  | .slept seconds => seconds
  | _ => 0

theorem milliseconds_le (log : List Event) (event : Event) :
    1000 * (log.map Event.seconds).sum ≤ 1000 * ((log ++ [event]).map Event.seconds).sum := by
  rw [List.map_append, List.sum_append]
  exact Nat.mul_le_mul_left 1000 (Nat.le_add_right _ _)

/-- Whether what is done changes the power of no VM and of no host, and is not the summary. -/
def Event.isQuiet : Event → Bool
  | .stopVMGuest _ | .stopVM _ | .startVM _ _ | .stopVMHost _ | .summarised => false
  | _ => true

/-- Whether a query is for the checks that keep the two modes apart. -/
def Look.isCheck : Look → Bool
  | .running | .worker _ => true
  | _ => false

def Event.isCheck : Event → Bool
  | .connected look _ _ | .looked look _ _ => look.isCheck
  | _ => false

/-- Whether what is done neither changes any power nor belongs to such a check. -/
def Event.isPlain (event : Event) : Bool := event.isQuiet && !event.isCheck

theorem Event.isPlain_connected {look : Look} {server : Server} {made : Bool}
    (notCheck : look.isCheck = false) : (Event.connected look server made).isPlain = true := by
  show (true && !look.isCheck) = true
  rw [notCheck]
  rfl

theorem Event.isPlain_looked {look : Look} {server : Server} {seen : Option (List Vm)}
    (notCheck : look.isCheck = false) : (Event.looked look server seen).isPlain = true := by
  show (true && !look.isCheck) = true
  rw [notCheck]
  rfl

theorem Event.isQuiet_of_isPlain {event : Event} (isPlain : event.isPlain = true) :
    event.isQuiet = true := ((Bool.and_eq_true _ _).mp isPlain).1

open Interaction

/-- A rule that lets the scripts do all that is plain. -/
def Quietly (fine : List Event → Event → Prop) : Prop :=
  ∀ log event, event.isPlain = true → fine log event

/-- A VM was among those that a query listed. -/
def Seen (look : Look) (server : Server) (vm : Vm) (log : List Event) : Prop :=
  ∃ vms, .looked look server (some vms) ∈ log ∧ vm ∈ vms

/-- A program that changes no power and is no check. -/
def Quiet {Result : Type} (program : Script Result) : Prop :=
  Traced (fun _ event => event.isPlain = true) (fun _ => True) program fun _ _ => True

section Traced

variable {fine : List Event → Event → Prop} {pre : List Event → Prop} {Result : Type}
  {program handler : Script Result} {post : Result → List Event → Prop} {site : Site}

theorem Quiet.traced (isQuiet : Quiet program) (quiet : Quietly fine) (stable : Stable pre) :
    Traced fine pre program fun _ => pre :=
  isQuiet.weaken stable (fun _ holds => ⟨trivial, holds⟩) (fun log event _ => quiet log event)
    fun _ _ holds _ => holds

theorem traced_attempt (stable : Stable pre) (first : Traced fine pre program post)
    (second : Traced fine pre handler post) : Traced fine pre (attempt program handler) post :=
  traced_recover stable (fun _ => id) first fun halt => by
    split
    · exact second
    · exact traced_throw

/-- The same where nothing is known any more once the program failed. -/
theorem traced_attempt_anew (first : Traced fine pre program post)
    (second : Traced fine (fun _ => True) handler post) :
    Traced fine pre (attempt program handler) post :=
  traced_recover stable_true (fun _ _ => trivial) first fun halt => by
    split
    · exact second
    · exact traced_throw

theorem traced_endIf {halt : Halt} {condition : Prop} [Decidable condition] :
    Traced fine pre (endIf halt condition) fun _ log => pre log ∧ ¬condition := by
  unfold endIf
  split
  · exact traced_throw
  · next not => exact traced_pure fun _ isPre => ⟨isPre, not⟩

theorem traced_call {errorAction : ErrorAction} {event : Event}
    (isFine : ∀ log, pre log → fine log event) :
    Traced fine pre (site.call errorAction event) fun _ log =>
      ∃ before, pre before ∧ log = before ++ [event] := by
  refine traced_bind traced_observe fun outcome => traced_bind
    (traced_issue fun log holds => isFine log holds.1) fun _ => ?_
  exact traced_endIf.imp (fun _ => id) fun _ _ ⟨⟨before, holds, same⟩, _⟩ => ⟨before, holds.1, same⟩

theorem quiet_call {errorAction : ErrorAction} {event : Event} (isPlain : event.isPlain = true) :
    Quiet (site.call errorAction event) :=
  (traced_call fun _ _ => isPlain).imp (fun _ => id) fun _ _ _ => trivial

/-- What was true stays true, and the call is remembered. -/
theorem traced_call_stable {errorAction : ErrorAction} {event : Event} (stable : Stable pre)
    (isFine : ∀ log, pre log → fine log event) :
    Traced fine pre (site.call errorAction event) fun _ log => pre log ∧ event ∈ log :=
  (traced_call isFine).imp (fun _ => id) fun _ _ ⟨before, isPre, same⟩ =>
    ⟨same ▸ stable before [event] isPre, same ▸ List.mem_append_right _ List.mem_cons_self⟩

theorem traced_connect {look : Look} {server : Server}
    (isFine : ∀ log isMade, fine log (.connected look server isMade)) :
    Traced fine pre (site.connectVIServer look server) fun _ log =>
      ∃ before, pre before ∧ log = before ++ [.connected look server true] := by
  refine traced_bind traced_observe fun outcome => traced_bind
    (traced_issue fun log _ => isFine log _) fun _ => ?_
  refine traced_endIf.imp (fun _ => id) fun _ _ ⟨⟨before, holds, same⟩, made⟩ =>
    ⟨before, holds.1, ?_⟩
  rw [same, decide_eq_true (not_not.mp made)]

theorem traced_connectVIServer (quiet : Quietly fine) (stable : Stable pre) {look : Look}
    {server : Server} (notCheck : look.isCheck = false) :
    Traced fine pre (site.connectVIServer look server) fun _ => pre :=
  (traced_connect fun log _ => quiet log _ (Event.isPlain_connected notCheck)).imp
    (fun _ => id) fun _ _ ⟨before, isPre, same⟩ => same ▸ stable before _ isPre

/-- A query that returns is the last thing that happened. -/
theorem traced_look {errorAction : ErrorAction} {look : Look} {server : Server} {wanted : Vm → Bool}
    (isFine : ∀ log seen, fine log (.looked look server seen)) :
    Traced fine pre (site.getVMs errorAction look server wanted) fun vms log =>
      (∀ vm ∈ vms, wanted vm = true) ∧ ∃ before seen, pre before ∧
        log = before ++ [.looked look server seen] ∧ vms = seen.getD [] ∧
        (errorAction = .stop → seen = some vms) ∧
        (seen = none → site.outcome before = .failed) := by
  refine traced_bind traced_observe fun listed => traced_bind
    (traced_issue fun log _ => isFine log _) fun _ => traced_bind traced_endIf fun _ =>
    traced_pure ?_
  rintro _ ⟨⟨before, ⟨isPre, rfl⟩, rfl⟩, goesOn⟩
  unfold Site.listing at goesOn ⊢
  dsimp only at goesOn ⊢
  split
  · refine ⟨fun vm member => (List.mem_filter.mp member).2, before, _, isPre, rfl, rfl, fun _ => rfl,
      fun none => by cases none⟩
  · next notAnswered =>
    have failed : site.outcome before = .failed := by
      cases isOutcome : site.outcome before with
      | answered => exact absurd isOutcome notAnswered
      | failed => rfl
      | threw => exact absurd (.inl isOutcome) goesOn
    exact ⟨fun vm member => absurd member List.not_mem_nil, before, none, isPre, rfl, rfl,
      fun stop => absurd (.inr ⟨failed, stop⟩) goesOn, fun _ => failed⟩

theorem traced_getVMs (quiet : Quietly fine) {errorAction : ErrorAction} {look : Look}
    {server : Server} {wanted : Vm → Bool} (notCheck : look.isCheck = false) :
    Traced fine pre (site.getVMs errorAction look server wanted) fun vms log =>
      (∀ vm ∈ vms, wanted vm = true) ∧ ∃ before seen, pre before ∧
        log = before ++ [.looked look server seen] ∧ vms = seen.getD [] ∧
        (errorAction = .stop → seen = some vms) ∧
        (seen = none → site.outcome before = .failed) :=
  traced_look fun log _ => quiet log _ (Event.isPlain_looked notCheck)

theorem traced_getVMs_stable (quiet : Quietly fine) (stable : Stable pre) {errorAction : ErrorAction}
    {look : Look} {server : Server} {wanted : Vm → Bool}
    (notCheck : look.isCheck = false) :
    Traced fine pre (site.getVMs errorAction look server wanted) fun vms log => pre log ∧
      (∀ vm ∈ vms, wanted vm = true) ∧ ∃ seen, .looked look server seen ∈ log ∧ vms = seen.getD [] ∧
        (errorAction = .stop → seen = some vms) :=
  (traced_getVMs quiet notCheck).imp (fun _ => id) fun _ _ ⟨all, before, seen, isPre, same, isSeen, stop, _⟩ =>
    ⟨same ▸ stable before _ isPre, all, seen,
      same ▸ List.mem_append_right _ List.mem_cons_self, isSeen, stop⟩

theorem traced_find {look : Look} {server : Server} {name : String}
    (isFine : ∀ log seen, fine log (.looked look server seen)) :
    Traced fine pre (site.findVM look server name) fun found log => ∃ before seen, pre before ∧
      log = before ++ [.looked look server seen] ∧ found = (seen.getD []).head? ∧
      (seen = none → site.outcome before = .failed) :=
  traced_bind (traced_look isFine) fun _ => traced_pure
    fun _ ⟨_, before, seen, isPre, same, isSeen, _, failed⟩ =>
      ⟨before, seen, isPre, same, by rw [isSeen], failed⟩

theorem traced_findVM (quiet : Quietly fine) (stable : Stable pre) {look : Look} {server : Server}
    {name : String} (notCheck : look.isCheck = false) :
    Traced fine pre (site.findVM look server name) fun found log => pre log ∧
      ∀ vm, found = some vm → vm.name = name ∧ Seen look server vm log := by
  refine traced_bind (traced_getVMs_stable quiet stable notCheck) fun vms => traced_pure ?_
  rintro log ⟨isPre, all, seen, member, isSeen, _⟩
  refine ⟨isPre, fun vm isFirst => ?_⟩
  have isMember : vm ∈ vms := List.mem_of_head? isFirst
  refine ⟨eq_of_beq (all vm isMember), vms, ?_, isMember⟩
  cases seen with
  | none =>
    rw [isSeen] at isMember
    exact absurd isMember List.not_mem_nil
  | some listed =>
    rw [isSeen]
    exact member

theorem traced_getVM (quiet : Quietly fine) (stable : Stable pre) {look : Look} {server : Server}
    {name : String} (notCheck : look.isCheck = false) :
    Traced fine pre (site.getVM look server name) fun vm log => pre log ∧ vm.name = name ∧
      Seen look server vm log := by
  refine traced_bind (traced_getVMs_stable quiet stable notCheck) fun vms => ?_
  cases vms with
  | nil => exact traced_throw
  | cons vm rest =>
    refine traced_pure ?_
    rintro log ⟨isPre, all, seen, member, _, stop⟩
    refine ⟨isPre, eq_of_beq (all vm List.mem_cons_self), vm :: rest, ?_, List.mem_cons_self⟩
    rw [← stop rfl]
    exact member

theorem traced_toolsOk (quiet : Quietly fine) (stable : Stable pre) {vm : Vm} :
    Traced fine pre (site.toolsOk vm) fun running log => pre log ∧ .readTools vm running ∈ log := by
  refine traced_bind traced_observe fun running => traced_bind
    (traced_issue fun log _ => quiet log _ rfl) fun _ => traced_pure ?_
  rintro _ ⟨before, ⟨isPre, _⟩, rfl⟩
  exact ⟨stable before _ isPre, List.mem_append_right _ List.mem_cons_self⟩

theorem traced_sleep (quiet : Quietly fine) (stable : Stable pre) {seconds : ℕ} :
    Traced fine pre (Site.sleep seconds) fun _ => pre :=
  (traced_issue fun log _ => quiet log _ rfl).imp (fun _ => id) fun _ _ ⟨before, isPre, same⟩ =>
    same ▸ stable before _ isPre

theorem traced_elapsed {started : ℕ} :
    Traced fine pre (site.elapsed started) fun elapsed log =>
      pre log ∧ elapsed = site.clock log - started :=
  traced_observe

end Traced

end VcfLab

end LocalGpuCluster
