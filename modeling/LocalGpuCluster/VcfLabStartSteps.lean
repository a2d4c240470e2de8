/-
This file says once what a run of `Start-VCFLab.ps1` may do after what happened before: which VM is
powered on in which step, which gates were waited for by then, and what the check of the mode found. It
proves that each run does nothing else.
-/

import Mathlib.Data.List.ReduceOption
import LocalGpuCluster.VcfLabStart
import LocalGpuCluster.VcfLabSteps

namespace LocalGpuCluster

namespace VcfLab

open Interaction

/-! ### What the run relies on -/

/-- The gates of the tiers before the one that powers a VM on. -/
def gatesBefore : Role → List Gate
  | .vCenter | .llmWorker | .devVm => []
  | .appliance .sddcManager => [.vCenterApi]
  | .appliance .nsx => [.vCenterApi, .sddcManager]
  | .appliance .operations => [.vCenterApi, .sddcManager, .nsx]
  | .vspControl => [.vCenterApi, .sddcManager, .nsx, .operations]
  | .vspWorker => [.vCenterApi, .sddcManager, .nsx, .operations, .vspControlIps, .vspControlApi]
  | .appliance .license =>
    [.vCenterApi, .sddcManager, .nsx, .operations, .vspControlIps, .vspControlApi, .vspWorkers]
  | .appliance .opsCollector =>
    [.vCenterApi, .sddcManager, .nsx, .operations, .vspControlIps, .vspControlApi, .vspWorkers, .license]

/-- The gates of all tiers. -/
def allGates : List Gate := gatesBefore (.appliance .opsCollector) ++ [.opsCollector]

/-- The gates whose outcome the script drops. -/
def Gate.isLoose : Gate → Bool
  | .vspWorkers | .license | .opsCollector => true
  | _ => false

/-- A gate was waited for, and it passed unless its outcome is dropped. -/
def Waited (gate : Gate) (log : List Event) : Prop :=
  ∃ passed, .gated gate passed ∈ log ∧ (passed = false → gate.isLoose = true)

/-- The VMs that a step powers on. -/
def Config.Belongs (config : Config) (flags : StartFlags) (vm : Vm) : Role → Prop
  | .vCenter => vm.name = config.vCenter ∧ (flags.minimal = true → flags.withVCenter = true)
  | .appliance key => vm.name = config.appliance key ∧ flags.minimal = false
  | .vspControl | .vspWorker => config.IsVspNode vm.name ∧ flags.minimal = false
  | .llmWorker => vm.name ∈ config.llmWorkers.map (·.vmName) ∧ flags.minimal = true
  | .devVm => vm.name ∈ config.devVms.map (·.vmName)

/-- The VCF component that Minimal allows to run. -/
def allowed (config : Config) (flags : StartFlags) : List String :=
  if flags.withVCenter then [config.vCenter] else []

/-- Each worker was looked for, and none seemed to be on. -/
def WorkersOff (site : Site) (config : Config) (log : List Event) : Prop :=
  ∃ workers, config.getOwnedHostVms config.llmWorkers = some workers ∧
    ∀ worker ∈ workers, SeemedOff site worker log

/-- What the check of the mode found: for Minimal no VCF component ran, for Full no worker seemed to. -/
def ModeHolds (site : Site) (config : Config) (flags : StartFlags) (log : List Event) : Prop :=
  (flags.minimal = true → ∀ host ∈ config.hosts, RanNoVcf config (allowed config flags) host log) ∧
  (flags.minimal = false → flags.whatIf = false → WorkersOff site config log)

/-- The checks passed and the gates were waited for. -/
def Ready (site : Site) (config : Config) (flags : StartFlags) (gates : List Gate) (log : List Event) :
    Prop :=
  ModeHolds site config flags log ∧ ChecksPassed site log ∧ ∀ gate ∈ gates, Waited gate log

/-- What a run may do. -/
inductive StartStep (site : Site) (config : Config) (flags : StartFlags) (before : List Event) :
    Event → Prop where
  | quiet {event : Event} (isQuiet : event.isQuiet = true) : StartStep site config flags before event
  | worker {name : String} {event : Event} (stop : HostStop name false event) :
      StartStep site config flags before event
  | start {role : Role} {vm : Vm} (real : flags.whatIf = false)
      (belongs : config.Belongs flags vm role)
      (ready : Ready site config flags (gatesBefore role) before) :
      StartStep site config flags before (.startVM role vm)
  | summarised (full : flags.minimal = false) (ready : Ready site config flags allGates before) :
      StartStep site config flags before .summarised

theorem quietly_startStep (site : Site) (config : Config) (flags : StartFlags) :
    Quietly (StartStep site config flags) := fun _ _ isPlain =>
  .quiet (Event.isQuiet_of_isPlain isPlain)

theorem stable_waited (gate : Gate) : Stable (Waited gate) :=
  stable_exists fun _ => (stable_mem _).and (stable_const _)

theorem stable_modeHolds (site : Site) (config : Config) (flags : StartFlags) :
    Stable (ModeHolds site config flags) :=
  (stable_imp fun _ => stable_forall fun host => stable_imp fun _ => stable_ranNoVcf _ _ host).and
    (stable_imp fun _ => stable_imp fun _ => stable_exists fun _ => (stable_const _).and
      (stable_forall fun worker => stable_imp fun _ => stable_seemedOff site worker))

/-- Whatever is no failed query of a check leaves that the checks passed. -/
def Innocent (event : Event) : Prop := event.isFailedCheck = false

theorem ChecksPassed.innocent {site : Site} {log : List Event} {event : Event}
    (passed : ChecksPassed site log) (isInnocent : Innocent event) :
    ChecksPassed site (log ++ [event]) :=
  passed.append fun failed => absurd (isInnocent.symm.trans failed) Bool.false_ne_true

theorem Ready.innocent {site : Site} {config : Config} {flags : StartFlags} {gates : List Gate}
    {log : List Event} {event : Event} (ready : Ready site config flags gates log)
    (isInnocent : Innocent event) : Ready site config flags gates (log ++ [event]) :=
  ⟨stable_modeHolds site config flags log [event] ready.1, ready.2.1.innocent isInnocent,
    fun gate member => stable_waited gate log [event] (ready.2.2 gate member)⟩

theorem VmStart.innocent {role : Role} {name : String} {whatIfMode : Bool} {event : Event}
    (start : VmStart role name whatIfMode event) : Innocent event := by
  cases start with
  | plain isPlain => exact Event.isFailedCheck_of_isPlain isPlain
  | start => rfl

theorem HostStop.innocent {name : String} {noHardStop : Bool} {event : Event}
    (stop : HostStop name noHardStop event) : Innocent event := by
  cases stop with
  | quiet isPlain => exact Event.isFailedCheck_of_isPlain isPlain
  | guest => rfl
  | hard => rfl

namespace Start

variable {site : Site} {config : Config} {flags : StartFlags} {gates : List Gate}

/-! ### The steps -/

/-- A program that is quiet leaves a fact that plain events leave. -/
theorem keep_of_quiet {Result : Type} {program : Script Result} {fact : List Event → Prop}
    (isQuiet : Quiet program)
    (kept : ∀ log event, fact log → Innocent event → fact (log ++ [event])) :
    Traced (StartStep site config flags) fact program fun _ => fact :=
  isQuiet.frame (fun log event holds isPlain =>
      kept log event holds (Event.isFailedCheck_of_isPlain isPlain))
    (fun _ holds => ⟨trivial, holds⟩)
    (fun log event _ => quietly_startStep site config flags log event) fun _ _ holds _ => holds

theorem ready_of_quiet {Result : Type} {program : Script Result} (isQuiet : Quiet program) :
    Traced (StartStep site config flags) (Ready site config flags gates) program
      fun _ => Ready site config flags gates :=
  keep_of_quiet isQuiet fun _ _ ready => ready.innocent

theorem passed_of_quiet {Result : Type} {program : Script Result} (isQuiet : Quiet program) :
    Traced (StartStep site config flags) (ChecksPassed site) program fun _ => ChecksPassed site :=
  keep_of_quiet isQuiet fun _ _ passed => passed.innocent

/-- A program that may power a VM on does so in its place. -/
theorem ready_of_vmStart {Result : Type} {program : Script Result} {role : Role} {name : String}
    {post : Result → List Event → Prop}
    (start : Traced (fun _ event => VmStart role name flags.whatIf event) (fun _ => True) program post)
    (belongs : ∀ vm : Vm, vm.name = name → config.Belongs flags vm role)
    (reached : gates = gatesBefore role) :
    Traced (StartStep site config flags) (Ready site config flags gates) program
      fun _ => Ready site config flags gates := by
  refine start.frame (fun log event ready started => ready.innocent started.innocent)
    (fun _ holds => ⟨trivial, holds⟩) (fun log event ready started => ?_) fun _ _ holds _ => holds
  cases started with
  | plain isPlain => exact quietly_startStep site config flags log _ isPlain
  | start real isName => exact .start real (belongs _ isName) (reached ▸ ready)

theorem ready_holdAt {gate : Gate} {timeoutSeconds rounds : ℕ} {test : Script Bool}
    (isQuiet : Quiet test) :
    Traced (StartStep site config flags) (Ready site config flags gates)
      (holdAt site rounds gate timeoutSeconds test)
      fun _ => Ready site config flags (gates ++ [gate]) := by
  refine traced_bind ((traced_waitGate isQuiet rounds).frame (fun log event ready isPlain =>
      Ready.innocent ready (Event.isFailedCheck_of_isPlain isPlain))
    (fun _ holds => ⟨trivial, holds⟩)
    (fun log event _ => quietly_startStep site config flags log event)
    fun _ _ ready member => And.intro ready member) fun ok => ?_
  refine traced_endIf.imp (fun _ => id) ?_
  rintro _ log ⟨⟨ready, member⟩, passed⟩
  refine ⟨ready.1, ready.2.1, fun other isGate => ?_⟩
  rcases List.mem_append.mp isGate with isEarlier | isLast
  · exact ready.2.2 other isEarlier
  · rw [List.mem_singleton.mp isLast]
    exact ⟨ok, member, fun failed => absurd failed passed⟩

theorem ready_passBy {gate : Gate} {timeoutSeconds rounds : ℕ} {test : Script Bool}
    (isQuiet : Quiet test) (isLoose : gate.isLoose = true) :
    Traced (StartStep site config flags) (Ready site config flags gates)
      (passBy site rounds gate timeoutSeconds test)
      fun _ => Ready site config flags (gates ++ [gate]) := by
  refine traced_bind ((traced_waitGate isQuiet rounds).frame (fun log event ready isPlain =>
      Ready.innocent ready (Event.isFailedCheck_of_isPlain isPlain))
    (fun _ holds => ⟨trivial, holds⟩)
    (fun log event _ => quietly_startStep site config flags log event)
    fun _ _ ready member => And.intro ready member) fun ok => traced_pure ?_
  rintro log ⟨ready, member⟩
  refine ⟨ready.1, ready.2.1, fun other isGate => ?_⟩
  rcases List.mem_append.mp isGate with isEarlier | isLast
  · exact ready.2.2 other isEarlier
  · rw [List.mem_singleton.mp isLast]
    exact ⟨ok, member, fun _ => isLoose⟩

/-! ### Before anything is powered on -/

theorem quiet_waitGate {gate : Gate} {timeoutSeconds rounds : ℕ} {test : Script Bool}
    (isQuiet : Quiet test) : Quiet (site.waitGate rounds gate timeoutSeconds test) :=
  (traced_waitGate isQuiet rounds).imp (fun _ => id) fun _ _ _ => trivial

theorem quiet_refuseLicense : Quiet (refuseLicense site config flags) :=
  traced_bind quiet_observe fun _ => quiet_endIf

theorem quiet_wakeHosts : Quiet (wakeHosts site config flags) := by
  refine traced_bind quiet_observe fun down => ?_
  split
  · exact quiet_pure
  · exact traced_forM fun _ _ => quiet_call rfl

theorem quiet_requireHost {host : EsxHost} {rounds : ℕ} :
    Quiet (requireHost site config rounds host) := by
  refine traced_bind (quiet_waitGate ?_) fun _ => quiet_endIf
  refine traced_bind quiet_observe fun port => ?_
  split
  · exact quiet_pure
  · exact quiet_attempt (traced_bind (quiet_connect (by rfl)) fun _ => traced_bind (quiet_call rfl) fun _ =>
      quiet_pure) quiet_pure

theorem quiet_vsanFormed {hosts : List EsxHost} : Quiet (vsanFormed site config flags hosts) := by
  induction hosts with
  | nil => exact quiet_pure
  | cons host rest inductionHypothesis =>
    refine traced_bind (quiet_attempt (traced_bind (quiet_connect (by rfl)) fun _ =>
      traced_bind (quiet_call rfl) fun _ => traced_bind quiet_observe fun _ => quiet_pure)
      quiet_pure) fun formed => ?_
    split
    · exact inductionHypothesis
    · exact quiet_pure

theorem quiet_requireVsan {rounds : ℕ} : Quiet (requireVsan site config flags rounds) :=
  traced_bind (quiet_waitGate quiet_vsanFormed) fun _ => quiet_endIf

/-! ### The checks of the modes -/

theorem traced_requireVcfDown (isMinimal : flags.minimal = true) :
    Traced (StartStep site config flags) (ChecksPassed site) (requireVcfDown site config flags)
      fun _ => Ready site config flags [] := by
  refine traced_bind (traced_getRunningVcfOnHosts fun _ _ => .quiet) fun vcf => ?_
  refine traced_bind traced_endIf fun _ => ?_
  refine traced_endIf.imp (fun _ => id) ?_
  rintro _ log ⟨⟨⟨passed, down⟩, reached⟩, clear⟩
  have reached : vcf.unreachable = [] := not_not.mp reached
  refine ⟨⟨fun _ => down reached (not_not.mp clear), fun isFull => ?_⟩, passed reached,
    fun _ member => absurd member List.not_mem_nil⟩
  exact absurd (isFull.symm.trans isMinimal) Bool.false_ne_true

/-- A look at the workers that had no failure and found none on. -/
theorem traced_getRunningLlmWorkers :
    Traced (StartStep site config flags) (ChecksPassed site) (site.getRunningLlmWorkers config)
      fun check log => (check.unreachable = [] → ChecksPassed site log) ∧
        (check.unreachable = [] → check.running = [] → WorkersOff site config log) := by
  refine traced_bind traced_ownedHostVms fun workers => ?_
  refine traced_assume (fun _ => And.right) fun found => ?_
  have check : Traced (StartStep site config flags) (ChecksPassed site) (do
      let answers ← workers.mapM site.workerRuns
      return checkOf answers) _ :=
    traced_check (stable_seemedOff site) (fun _ _ => traced_workerRuns fun _ _ => .quiet)
      fun _ _ => keeps_workerRuns fun _ _ => .quiet
  exact check.imp (fun _ => And.left) fun _ _ ⟨passed, off⟩ =>
    ⟨passed, fun reached clear => ⟨workers, found, off reached clear⟩⟩

theorem ready_of_workersOff (isFull : flags.minimal = false) {log : List Event}
    (passed : ChecksPassed site log)
    (off : flags.whatIf = false → WorkersOff site config log) : Ready site config flags [] log := by
  refine ⟨⟨fun isMinimal => ?_, fun _ => off⟩, passed, fun _ member => absurd member List.not_mem_nil⟩
  exact absurd (isFull.symm.trans isMinimal) Bool.false_ne_true

theorem passed_stopWorker {worker : HostVm} {rounds : ℕ} :
    Traced (StartStep site config flags) (ChecksPassed site)
      (stopWorker site config flags rounds worker) fun _ => ChecksPassed site := by
  have stops : Traced (StartStep site config flags) (ChecksPassed site)
      (site.stopHostVM rounds worker.hostIp worker.vmName
        (config.stopGrace.llmWorker.getD 120) false flags.whatIf) fun _ => ChecksPassed site :=
    (traced_stopHostVM rounds).frame (fun log event passed stop => passed.innocent stop.innocent)
      (fun _ passed => ⟨trivial, passed⟩) (fun log event _ stop => .worker stop)
      fun _ _ passed _ => passed
  exact traced_bind stops fun _ => traced_endIf.imp (fun _ => id) fun _ _ => And.left

theorem traced_recheckWorkers (isFull : flags.minimal = false) :
    Traced (StartStep site config flags) (ChecksPassed site) (recheckWorkers site config flags)
      fun _ => Ready site config flags [] := by
  unfold recheckWorkers
  split
  · next trial =>
    exact traced_pure fun log passed => ready_of_workersOff isFull passed fun real =>
      absurd (real.symm.trans trial) Bool.false_ne_true
  · refine traced_bind traced_getRunningLlmWorkers fun still => traced_endIf.imp (fun _ => id) ?_
    rintro _ log ⟨⟨passed, off⟩, clear⟩
    obtain ⟨none, reached⟩ := not_or.mp clear
    exact ready_of_workersOff isFull (passed (not_not.mp reached)) fun _ =>
      off (not_not.mp reached) (not_not.mp none)

theorem traced_requireWorkersOff (isFull : flags.minimal = false) {rounds : ℕ} :
    Traced (StartStep site config flags) (ChecksPassed site)
      (requireWorkersOff site config flags rounds) fun _ => Ready site config flags [] := by
  refine traced_bind traced_getRunningLlmWorkers fun found => ?_
  refine traced_bind traced_endIf fun _ => ?_
  split
  · next none =>
    refine traced_pure ?_
    rintro log ⟨⟨passed, off⟩, reached⟩
    exact ready_of_workersOff isFull (passed (not_not.mp reached)) fun _ =>
      off (not_not.mp reached) none
  · refine traced_bind traced_endIf fun _ => ?_
    refine traced_bind ((traced_forM fun _ _ => passed_stopWorker).imp ?_ fun _ _ => id) fun _ =>
      traced_recheckWorkers isFull
    rintro log ⟨⟨⟨passed, _⟩, reached⟩, _⟩
    exact passed (not_not.mp reached)

theorem traced_requireMode {rounds : ℕ} :
    Traced (StartStep site config flags) (ChecksPassed site) (requireMode site config flags rounds)
      fun _ => Ready site config flags [] := by
  unfold requireMode
  split
  · next isMinimal => exact traced_requireVcfDown isMinimal
  · next isFull => exact traced_requireWorkersOff (Bool.eq_false_of_not_eq_true isFull)

/-! ### The hosts and the owned VMs -/

theorem quiet_staysInMaintenance {server : Server} (tries : ℕ) :
    Quiet (staysInMaintenance site server tries) := by
  induction tries with
  | zero => exact quiet_pure
  | succ tries inductionHypothesis =>
    refine traced_bind (quiet_call rfl) fun _ => traced_bind quiet_observe fun maintenance => ?_
    split
    · exact quiet_pure
    · exact traced_bind quiet_sleep fun _ => inductionHypothesis

theorem quiet_exitMaintenance : Quiet (exitMaintenance site config flags) := by
  refine traced_bind (quiet_mapM fun host _ => quiet_attempt ?_ quiet_pure) fun _ => quiet_endIf
  refine traced_bind (quiet_connect (by rfl)) fun _ => traced_bind (quiet_call rfl) fun _ => ?_
  refine traced_bind quiet_observe fun maintenance => ?_
  split
  · exact quiet_pure
  · split
    · exact quiet_pure
    · exact traced_bind (quiet_call rfl) fun _ => quiet_staysInMaintenance 6

theorem ready_startOwned {role : Role} {vms : List HostVm}
    (belongs : ∀ vm ∈ vms, ∀ target : Vm, target.name = vm.vmName → config.Belongs flags target role)
    (reached : gates = gatesBefore role) :
    Traced (StartStep site config flags) (Ready site config flags gates)
      (startOwned site flags role vms) fun _ => Ready site config flags gates :=
  traced_bind (traced_mapM_keep fun vm member =>
    ready_of_vmStart traced_startHostVM (belongs vm member) reached) fun _ => traced_pure fun _ => id

theorem ready_startDevVms {devVms : List HostVm}
    (areDevVms : config.getOwnedHostVms config.devVms = some devVms) :
    Traced (StartStep site config flags) (Ready site config flags [])
      (startDevVms site flags devVms) fun _ => Ready site config flags [] := by
  unfold startDevVms
  split
  · exact traced_pure fun _ => id
  · refine ready_startOwned (fun vm member target isName => ?_) rfl
    have isDevVm := getOwnedHostVms_names areDevVms vm member
    rwa [← isName] at isDevVm

theorem ready_startWorkers {workers : List HostVm} {rounds : ℕ} (isMinimal : flags.minimal = true)
    (areWorkers : config.getOwnedHostVms config.llmWorkers = some workers) :
    Traced (StartStep site config flags) (Ready site config flags [])
      (startWorkers site config flags rounds workers) fun _ => Ready site config flags [] := by
  refine traced_bind (ready_startOwned (fun vm member target isName => ?_) rfl) fun failed => ?_
  · exact ⟨isName ▸ getOwnedHostVms_names areWorkers vm member, isMinimal⟩
  split
  · exact traced_pure fun _ => id
  · refine traced_bind (ready_of_quiet (quiet_mapM fun worker _ => quiet_waitGate ?_)) fun _ =>
      traced_pure fun _ => id
    exact quiet_attempt (traced_bind (quiet_connect (by rfl)) fun _ => quiet_guestUp) quiet_pure

theorem ready_startModeWorkers {workers : List HostVm} {rounds : ℕ}
    (areWorkers : config.getOwnedHostVms config.llmWorkers = some workers) :
    Traced (StartStep site config flags) (Ready site config flags [])
      (startModeWorkers site config flags rounds workers) fun _ => Ready site config flags [] := by
  unfold startModeWorkers
  split
  · next isMinimal => exact ready_startWorkers isMinimal areWorkers
  · exact traced_pure fun _ => id

/-! ### vCenter -/

theorem traced_startVCenter {hosts : List EsxHost} {rounds : ℕ} :
    Traced (fun _ event => VmStart .vCenter config.vCenter flags.whatIf event) (fun _ => True)
      (startVCenter site config flags rounds hosts) fun _ _ => True := by
  induction hosts with
  | nil => exact traced_pure fun _ _ => trivial
  | cons host rest inductionHypothesis =>
    refine traced_bind (?_ : Traced _ _ _ fun _ _ => True) fun found => ?_
    · refine traced_attempt stable_true ?_ (traced_pure fun _ _ => trivial)
      refine traced_bind ((quiet_connect (by rfl)).traced quietly_vmStart stable_true) fun _ => ?_
      refine traced_bind ((quiet_findVM (by rfl)).traced quietly_vmStart stable_true) fun found => ?_
      split
      · refine traced_bind (traced_startLabVM rounds) fun ok => ?_
        exact traced_bind traced_endIf fun _ => traced_pure fun _ _ => trivial
      · exact traced_bind ((quiet_getVMs (by rfl)).traced quietly_vmStart stable_true) fun _ =>
          traced_pure fun _ _ => trivial
    · split
      · exact traced_pure fun _ _ => trivial
      · exact inductionHypothesis

/-- From here on the run is no trial, and vCenter answers. -/
theorem ready_reachVCenter {rounds : ℕ} (asked : flags.minimal = true → flags.withVCenter = true) :
    Traced (StartStep site config flags) (Ready site config flags [])
      (reachVCenter site config flags rounds)
      fun _ log => flags.whatIf = false ∧ Ready site config flags [.vCenterApi] log := by
  refine traced_bind (ready_of_vmStart traced_startVCenter (fun vm isName => ⟨isName, asked⟩) rfl)
    fun found => ?_
  refine traced_bind traced_endIf fun _ => traced_bind traced_endIf fun _ => ?_
  refine traced_assume (fun _ => And.right) fun real => ?_
  refine traced_bind ((ready_holdAt quiet_probe).imp (fun _ holds => holds.1.1) fun _ _ => id)
    fun _ => ?_
  refine traced_bind (ready_of_quiet (quiet_connect (by rfl))) fun _ => ?_
  refine traced_bind (ready_of_quiet (quiet_confirmHostInventorySync rounds)) fun inSync => ?_
  exact traced_endIf.imp (fun _ => id) fun _ _ holds => ⟨Bool.eq_false_of_not_eq_true real, holds.1⟩

/-! ### The tiers of Full -/

theorem ready_startTier {role : Role} {name : String} {rounds : ℕ} (real : flags.whatIf = false)
    (belongs : ∀ vm : Vm, vm.name = name → config.Belongs flags vm role)
    (reached : gates = gatesBefore role) :
    Traced (StartStep site config flags) (Ready site config flags gates)
      (startTier site config flags rounds role name) fun _ => Ready site config flags gates := by
  have start : Traced (fun _ event => VmStart role name flags.whatIf event) (fun _ => True)
      (site.startLabVM config rounds role .vCenter name (!flags.skipInventoryRepair) false)
      fun _ _ => True := by
    rw [real]
    exact traced_startLabVM rounds
  exact traced_bind (ready_of_vmStart start belongs reached) fun _ => traced_pure fun _ => id

theorem ready_startAppliance {key : Appliance} {rounds : ℕ} (real : flags.whatIf = false)
    (isFull : flags.minimal = false) (reached : gates = gatesBefore (.appliance key)) :
    Traced (StartStep site config flags) (Ready site config flags gates)
      (startTier site config flags rounds (.appliance key) (config.appliance key))
      fun _ => Ready site config flags gates :=
  ready_startTier real (fun _ isName => ⟨isName, isFull⟩) reached

theorem ready_startManagement {rounds : ℕ} (real : flags.whatIf = false)
    (isFull : flags.minimal = false) :
    Traced (StartStep site config flags) (Ready site config flags [.vCenterApi])
      (startManagement site config flags rounds)
      fun _ => Ready site config flags (gatesBefore .vspControl) := by
  refine traced_bind (ready_startAppliance real isFull rfl) fun _ => ?_
  refine traced_bind (ready_holdAt quiet_probe) fun _ => ?_
  refine traced_bind (ready_startAppliance real isFull rfl) fun _ => ?_
  refine traced_bind (ready_holdAt quiet_probe) fun _ => ?_
  refine traced_bind (ready_startAppliance real isFull rfl) fun _ => ?_
  exact ready_holdAt quiet_probe

theorem traced_findEach (names : List String) :
    Traced (fun _ event => event.isPlain = true) (fun _ => True)
      (names.mapM (site.findVM .other .vCenter))
      fun found _ => ∀ vm ∈ found.reduceOption, vm.name ∈ names := by
  have each : ∀ name ∈ names, Traced (fun _ event => event.isPlain = true) (fun _ => True)
      (site.findVM .other .vCenter name)
      fun found _ => True ∧ ∀ vm, found = some vm → vm.name = name := fun name _ =>
    (traced_findVM quietly_isPlain stable_true (by rfl)).imp (fun _ => id) fun _ _ holds =>
      ⟨trivial, fun vm isVm => (holds.2 vm isVm).1⟩
  refine (traced_mapM (fun _ _ => stable_const _) each).imp (fun _ => id)
    fun found _ holds vm member => ?_
  obtain ⟨name, isName, same⟩ := Matching.exists_left holds.2 (List.reduceOption_mem_iff.mp member)
  exact same vm rfl ▸ isName

theorem traced_vspNodes :
    Traced (fun _ event => event.isPlain = true) (fun _ => True) (vspNodes site config)
      fun vsp _ => ∀ vm ∈ vsp.controlPlane ++ vsp.workers, config.IsVspNode vm.name := by
  refine traced_bind (?_ : Traced _ _ _ fun vsp _ => ∀ vm ∈ vsp.controlPlane ++ vsp.workers,
    config.IsVspNode vm.name) fun vsp => ?_
  · refine traced_bind (traced_getVMs quietly_isPlain (by rfl)) fun vms => traced_pure ?_
    rintro log ⟨all, _⟩ vm member
    refine .inl (all vm ?_)
    rcases List.mem_append.mp member with isControl | isWorker
    · exact (List.mem_filter.mp (mem_byName.mp isControl)).1
    · exact (List.mem_filter.mp (mem_byName.mp isWorker)).1
  · split
    · refine traced_bind ((traced_findEach _).imp (fun _ _ => trivial) fun _ _ => id)
        fun controlPlane => ?_
      refine traced_assume (fun _ => id) fun areControl => ?_
      refine traced_bind ((traced_findEach _).imp (fun _ _ => trivial) fun _ _ => id) fun workers => ?_
      refine traced_pure fun _ areWorkers vm member => .inr ?_
      rcases List.mem_append.mp member with isControl | isWorker
      · exact List.mem_append_left _ (areControl vm isControl)
      · exact List.mem_append_right _ (areWorkers vm isWorker)
    · exact traced_pure fun _ => id

theorem quiet_guestsUp {nodes : List Vm} : Quiet (guestsUp site nodes) :=
  traced_bind (quiet_mapM fun _ _ => quiet_guestUp) fun _ => quiet_pure

theorem quiet_servesApi {nodes : List Vm} : Quiet (servesApi site nodes) :=
  traced_bind (quiet_mapM fun _ _ => (quiet_getVM (by rfl))) fun _ =>
    traced_bind (quiet_mapM fun _ _ => quiet_observe) fun _ => quiet_pure

theorem ready_startNodes {role : Role} {nodes : List Vm} {rounds : ℕ} (real : flags.whatIf = false)
    (belongs : ∀ node ∈ nodes, ∀ vm : Vm, vm.name = node.name → config.Belongs flags vm role)
    (reached : gates = gatesBefore role) :
    Traced (StartStep site config flags) (Ready site config flags gates)
      (nodes.forM fun node => startTier site config flags rounds role node.name)
      fun _ => Ready site config flags gates :=
  traced_forM fun node member => ready_startTier real (belongs node member) reached

theorem ready_startVsp {vsp : VspNodes} {rounds : ℕ} (real : flags.whatIf = false)
    (isFull : flags.minimal = false)
    (areNodes : ∀ vm ∈ vsp.controlPlane ++ vsp.workers, config.IsVspNode vm.name) :
    Traced (StartStep site config flags) (Ready site config flags (gatesBefore .vspControl))
      (startVsp site config flags rounds vsp)
      fun _ => Ready site config flags (gatesBefore (.appliance .license)) := by
  refine traced_bind (ready_startNodes real (fun node member vm isName => ⟨?_, isFull⟩) rfl)
    fun _ => ?_
  · exact isName ▸ areNodes node (List.mem_append_left _ member)
  refine traced_bind (ready_holdAt quiet_guestsUp) fun _ => ?_
  refine traced_bind (ready_holdAt quiet_servesApi) fun _ => ?_
  refine traced_bind (ready_startNodes real (fun node member vm isName => ⟨?_, isFull⟩) rfl)
    fun _ => ?_
  · exact isName ▸ areNodes node (List.mem_append_right _ member)
  exact ready_passBy quiet_guestsUp rfl

theorem ready_startTail {rounds : ℕ} (real : flags.whatIf = false) (isFull : flags.minimal = false) :
    Traced (StartStep site config flags)
      (Ready site config flags (gatesBefore (.appliance .license)))
      (startTail site config flags rounds) fun _ => Ready site config flags allGates := by
  refine traced_bind (ready_startAppliance real isFull rfl) fun _ => ?_
  refine traced_bind (ready_passBy quiet_guestUp rfl) fun _ => ?_
  refine traced_bind (ready_startAppliance real isFull rfl) fun _ => ?_
  exact ready_passBy quiet_guestUp rfl

theorem traced_startStack {workers : List HostVm} {rounds : ℕ} (real : flags.whatIf = false)
    (isFull : flags.minimal = false) :
    Traced (StartStep site config flags) (Ready site config flags [.vCenterApi])
      (startStack site config flags rounds workers) fun _ _ => True := by
  have quiet := quietly_startStep site config flags
  refine traced_bind (ready_of_quiet (traced_bind (quiet_getVMs (by rfl)) fun _ => quiet_pure)) fun _ => ?_
  refine traced_bind (ready_of_quiet (quiet_getVMs (by rfl))) fun _ => ?_
  refine traced_bind (ready_startManagement real isFull) fun _ => ?_
  refine traced_bind (traced_vspNodes.frame (fun log event ready isPlain =>
      Ready.innocent ready (Event.isFailedCheck_of_isPlain isPlain))
    (fun _ holds => ⟨trivial, holds⟩) (fun log event _ => quiet log event)
    fun _ _ ready areNodes => And.intro areNodes ready) fun vsp => ?_
  refine traced_assume (fun _ => And.left) fun areNodes => ?_
  refine traced_bind ((ready_startVsp real isFull areNodes).imp (fun _ => And.right) fun _ _ => id)
    fun _ => ?_
  refine traced_bind (ready_startTail real isFull) fun _ => ?_
  refine traced_bind (traced_issue fun log ready => .summarised isFull ready) fun _ => ?_
  refine Traced.imp (Quiet.traced ?_ quiet stable_true) (fun _ _ => trivial) fun _ _ => id
  refine traced_bind (quiet_getVMs (by rfl)) fun _ => traced_bind (quiet_getVMs (by rfl)) fun _ => ?_
  exact traced_forM fun _ _ => traced_bind (quiet_findVM (by rfl)) fun _ => quiet_pure

theorem traced_startRest {workers : List HostVm} {failedDevVms failedWorkers : List String}
    {rounds : ℕ} (asked : flags.minimal = true → flags.withVCenter = true) :
    Traced (StartStep site config flags) (Ready site config flags [])
      (startRest site config flags rounds workers failedDevVms failedWorkers) fun _ _ => True := by
  refine traced_bind (ready_reachVCenter asked) fun _ => ?_
  refine traced_assume (fun _ => And.left) fun real => ?_
  refine traced_bind traced_endIf fun _ => ?_
  refine traced_assume (fun _ => And.right) fun isFull => ?_
  refine traced_bind ((traced_startStack real (Bool.eq_false_of_not_eq_true isFull)).imp
    (fun _ holds => holds.1.2) fun _ _ => id) fun _ => ?_
  exact traced_endIf.imp (fun _ => id) fun _ _ _ => trivial

/-- A run on its hosts. -/
theorem traced_onHosts {rounds : ℕ} :
    Traced (StartStep site config flags) (ChecksPassed site) (onHosts site config flags rounds)
      fun _ _ => True := by
  refine traced_bind (passed_of_quiet quiet_refuseLicense) fun _ => ?_
  refine traced_bind (passed_of_quiet quiet_wakeHosts) fun _ => ?_
  refine traced_bind (traced_forM fun host _ => passed_of_quiet quiet_requireHost) fun _ => ?_
  refine traced_bind (passed_of_quiet quiet_requireVsan) fun _ => ?_
  refine traced_bind traced_ownedHostVms fun workers => ?_
  refine traced_assume (fun _ => And.right) fun areWorkers => ?_
  refine traced_bind (traced_requireMode.imp (fun _ => And.left) fun _ _ => id) fun _ => ?_
  refine traced_bind (ready_of_quiet quiet_exitMaintenance) fun _ => ?_
  refine traced_bind traced_ownedHostVms fun devVms => ?_
  refine traced_assume (fun _ => And.right) fun areDevVms => ?_
  refine traced_bind ((ready_startDevVms areDevVms).imp (fun _ => And.left) fun _ _ => id)
    fun failedDevVms => ?_
  refine traced_bind (ready_startModeWorkers areWorkers) fun failedWorkers => ?_
  refine traced_bind traced_endIf fun _ => ?_
  refine traced_assume (fun _ => And.right) fun goesOn => ?_
  refine (traced_startRest fun isMinimal => ?_).imp (fun _ => And.left) fun _ _ => id
  by_contra notAsked
  exact goesOn ⟨isMinimal, Bool.eq_false_of_not_eq_true notAsked⟩

end Start

/-- Each run of `Start-VCFLab.ps1` takes these steps on the hosts that are selected. -/
theorem traced_startVCFLab (site : Site) {config selected : Config} (flags : StartFlags) (rounds : ℕ)
    (selects : config.selectHosts flags.skipHost = some selected) :
    Traced (StartStep site selected flags) (ChecksPassed site) (startVCFLab site config flags rounds)
      fun _ _ => True := by
  unfold startVCFLab
  rw [selects]
  exact Start.traced_onHosts

end VcfLab

end LocalGpuCluster
