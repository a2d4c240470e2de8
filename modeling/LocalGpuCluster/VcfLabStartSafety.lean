/-
This file states when a run of `Start-VCFLab.ps1` powers a VM on: a tier only once the gates of the tiers
before it passed, a VCF component only where the LLM workers are off, and a worker only where the VCF
components are. Each is read off from what the steps of a run may do.
-/

import LocalGpuCluster.VcfLabStartSteps

namespace LocalGpuCluster

namespace VcfLab

open Interaction

/-- What a run did, with its waits followed for a number of rounds. -/
def startRun (site : Site) (config : Config) (flags : StartFlags) (rounds : ℕ) : List Event :=
  (startVCFLab site config flags rounds []).2

theorem Config.selectHosts_same {config selected : Config} {skipHost : List String}
    (selects : config.selectHosts skipHost = some selected) :
    selected.vCenter = config.vCenter ∧ selected.appliance = config.appliance ∧
      selected.vsp = config.vsp ∧ (∀ entry ∈ selected.llmWorkers, entry ∈ config.llmWorkers) ∧
      ∀ entry ∈ selected.devVms, entry ∈ config.devVms := by
  unfold Config.selectHosts at selects
  dsimp only at selects
  split at selects
  · cases selects
  · split at selects
    · cases selects
    · injection selects with selects
      rw [← selects]
      exact ⟨rfl, rfl, rfl, fun _ => List.mem_of_mem_filter, fun _ => List.mem_of_mem_filter⟩

theorem Config.isVcfName_selected {config selected : Config} {skipHost : List String}
    (selects : config.selectHosts skipHost = some selected) : selected.isVcfName = config.isVcfName := by
  obtain ⟨vCenter, appliance, vsp, _⟩ := config.selectHosts_same selects
  funext name
  unfold Config.isVcfName Config.hasVspPrefix
  rw [vCenter, appliance, vsp]

theorem startStep_of_startRun {site : Site} {config : Config} {flags : StartFlags} {rounds : ℕ}
    {before after : List Event} {event : Event}
    (isRun : startRun site config flags rounds = before ++ event :: after) :
    ∃ selected, config.selectHosts flags.skipHost = some selected ∧
      StartStep site selected flags before event := by
  cases selects : config.selectHosts flags.skipHost with
  | none =>
    have nothing : startRun site config flags rounds = [] := by
      unfold startRun startVCFLab
      rw [selects]
      rfl
    rw [nothing] at isRun
    exact absurd isRun.symm (List.append_ne_nil_of_right_ne_nil before (List.cons_ne_nil _ _))
  | some selected =>
    obtain ⟨added, isAdded, all, _⟩ :=
      traced_startVCFLab site flags rounds selects [] eachFine_nil
    have same : startRun site config flags rounds = added := isAdded
    exact ⟨selected, rfl, all before event after (same ▸ isRun)⟩

/-- A run only powers on VMs in their step, after the checks and the gates before it. -/
theorem ready_of_startRun {site : Site} {config : Config} {flags : StartFlags} {rounds : ℕ}
    {before after : List Event} {role : Role} {vm : Vm}
    (isRun : startRun site config flags rounds = before ++ .startVM role vm :: after) :
    ∃ selected, config.selectHosts flags.skipHost = some selected ∧ flags.whatIf = false ∧
      selected.Belongs flags vm role ∧ Ready site selected flags (gatesBefore role) before := by
  obtain ⟨selected, selects, step⟩ := startStep_of_startRun isRun
  refine ⟨selected, selects, ?_⟩
  cases step with
  | quiet isQuiet => cases isQuiet
  | worker stop =>
    cases stop with
    | quiet isPlain => cases isPlain
  | start real belongs ready => exact ⟨real, belongs, ready⟩

/-- The steps that power on what has the name of a VCF component. -/
def Role.isVcf : Role → Bool
  | .llmWorker | .devVm => false
  | _ => true

theorem belongs_of_selected {config selected : Config} {flags : StartFlags} {vm : Vm} {role : Role}
    (selects : config.selectHosts flags.skipHost = some selected)
    (belongs : selected.Belongs flags vm role) : config.Belongs flags vm role := by
  obtain ⟨vCenter, appliance, vsp, workers, devVms⟩ := config.selectHosts_same selects
  have isNode : selected.IsVspNode vm.name → config.IsVspNode vm.name := by
    unfold Config.IsVspNode Config.hasVspPrefix
    rw [vsp]
    exact id
  cases role with
  | vCenter => exact ⟨vCenter ▸ belongs.1, belongs.2⟩
  | appliance key => exact ⟨appliance ▸ belongs.1, belongs.2⟩
  | vspControl => exact belongs.imp_left isNode
  | vspWorker => exact belongs.imp_left isNode
  | llmWorker => exact ⟨List.map_subset _ workers belongs.1, belongs.2⟩
  | devVm => exact List.map_subset _ devVms (show vm.name ∈ _ from belongs)

theorem isVcfName_of_belongs {config : LoadedConfig} {flags : StartFlags} {vm : Vm} {role : Role}
    (belongs : config.Belongs flags vm role) : config.isVcfName vm.name = role.isVcf := by
  cases role with
  | vCenter => exact belongs.1 ▸ config.isVcfName_vCenter
  | appliance key => exact belongs.1 ▸ config.isVcfName_appliance key
  | vspControl => exact Config.isVcfName_of_isVspNode belongs.1
  | vspWorker => exact Config.isVcfName_of_isVspNode belongs.1
  | llmWorker => exact config.worker_notVcf belongs.1
  | devVm => exact config.devVm_notVcf belongs

/-! ### A lab for examples -/

/-- Whether an event powers on a VM of this name. -/
def Event.startsName (name : String) : Event → Bool
  | .startVM _ vm => vm.name == name
  | _ => false

/-- A VM of a lab, in which one guest never comes up. -/
def labVm (deaf name : String) (isOn : Bool) : Vm where
  name
  powerState := if isOn then .poweredOn else .poweredOff
  numCpu := if name = "platform-w" then 8 else 4
  folder := some "vcf-management-services"
  folderReadable := true
  vmHost := none
  guestRunning := name != deaf
  guestIps := ["172.16.10.200"]
  upSeconds := none

/-- A lab whose VMs are off until they are powered on, but for those that run, and in which time passes in
sleep. -/
def offSite (outcome : List Event → Outcome) (names running : List String) (deaf : String) : Site where
  outcome
  vms log _ := names.map fun name =>
    labVm deaf name (running.contains name || log.any (Event.startsName name))
  tools _ _ := none
  clock log := 1000 * (log.map Event.seconds).sum
  clock_le := milliseconds_le
  inMaintenance _ _ := false
  vsanMembers _ _ := 3
  haEnabled _ := false
  knowsHost _ _ := true
  takesPort _ _ _ := true
  serves _ _ := true
  stampAge _ := .ok 0

/-- The lab with all tiers. -/
def tieredSite (deaf : String) : Site :=
  offSite (fun _ => .answered) ["vcsa", "sddc-manager", "nsxa", "ops", "platform-a", "platform-w",
    "licsrv", "opscollector"] [] deaf

def fullStart : StartFlags := ⟨false, false, false, true, false, false, false, []⟩

/-- The shipped configuration with a worker on the first host. -/
def workerConfig : LoadedConfig :=
  { shippedConfig with
    llmWorkers := [⟨"llm01", "hyp01"⟩]
    sound := by decide }

/-- A lab in which the worker runs, and the query after each connection for it fails without a word. -/
def silentSite : Site :=
  offSite (fun log =>
    match log.getLast? with
    | some (.connected (.worker _) _ _) => .failed
    | _ => .answered) ["vcsa", "llm01"] ["llm01"] ""

/-- Whether an event is no answer of a worker's host. -/
def Event.noAnswer : Event → Bool
  | .looked (.worker _) _ seen => seen.isNone
  | _ => true

/-- Whether an event is no gate that failed. -/
def Event.noFailedGate : Event → Bool
  | .gated _ passed => passed
  | _ => true

/-- What the runs in these labs did. -/
theorem startRuns :
    (startRun (tieredSite "") shippedConfig.toConfig fullStart 2).all Event.noFailedGate = true ∧
    .summarised ∈ startRun (tieredSite "licsrv") shippedConfig.toConfig fullStart 45 ∧
    .gated .license true ∉ startRun (tieredSite "licsrv") shippedConfig.toConfig fullStart 45 ∧
    .startVM .vCenter (labVm "" "vcsa" false) ∈
      startRun silentSite workerConfig.toConfig fullStart 2 ∧
    (startRun silentSite workerConfig.toConfig fullStart 2).all Event.noAnswer = true := by
  decide +kernel

/-! ### The tiers -/

/-- The tiers that a VM is of: vCenter and the appliances by their names, and a VSP node, unless it is
powered on as of the other tier of nodes. -/
def Config.IsOfTier (config : Config) (vm : Vm) (role : Role) : Role → Prop
  | .vCenter => vm.name = config.vCenter
  | .appliance key => vm.name = config.appliance key
  | .vspControl => config.IsVspNode vm.name ∧ role ≠ .vspWorker
  | .vspWorker => config.IsVspNode vm.name ∧ role ≠ .vspControl
  | .llmWorker | .devVm => False

/-- A VM of a tier is powered on only after the gates of the tiers before it passed, and the summary is
only reached after all of them did. -/
def Gated (config : Config) (before : List Event) (event : Event) : Prop :=
  (∀ role vm tier, event = .startVM role vm → config.IsOfTier vm role tier →
    ∀ gate ∈ gatesBefore tier, .gated gate true ∈ before) ∧
  (event = .summarised → ∀ gate ∈ allGates, .gated gate true ∈ before)

/-- No VM is of two tiers by its name. -/
structure Config.TiersApart (config : Config) : Prop where
  vCenter : ¬config.IsVspNode config.vCenter
  appliance : ∀ key, config.appliance key ≠ config.vCenter ∧
    ¬config.IsVspNode (config.appliance key) ∧
    ∀ other, config.appliance other = config.appliance key → other = key

/-- A VM is only powered on as of its own tier. -/
theorem tier_of_belongs {config : LoadedConfig} {flags : StartFlags} {vm : Vm} {role tier : Role}
    (apart : config.TiersApart) (belongs : config.Belongs flags vm role)
    (isOfTier : config.IsOfTier vm role tier) : gatesBefore tier = [] ∨ tier = role := by
  have isVcf := isVcfName_of_belongs belongs
  have isNode : config.IsVspNode vm.name → role = .vspControl ∨ role = .vspWorker := fun isNode => by
    have isVcfToo := isVcf.symm.trans (Config.isVcfName_of_isVspNode isNode)
    cases role with
    | vCenter => exact absurd (belongs.1 ▸ isNode) apart.vCenter
    | appliance key => exact absurd (belongs.1 ▸ isNode) (apart.appliance key).2.1
    | vspControl => exact .inl rfl
    | vspWorker => exact .inr rfl
    | llmWorker => cases isVcfToo
    | devVm => cases isVcfToo
  cases tier with
  | vCenter => exact .inl rfl
  | llmWorker => exact .inl rfl
  | devVm => exact .inl rfl
  | appliance key =>
    have isName : vm.name = config.appliance key := isOfTier
    obtain ⟨notVCenter, notNode, unique⟩ := apart.appliance key
    have isVcfToo := isVcf.symm.trans (isName ▸ config.isVcfName_appliance key)
    cases role with
    | vCenter => exact absurd (isName.symm.trans belongs.1) notVCenter
    | appliance other => exact .inr (by rw [unique other (belongs.1.symm.trans isName)])
    | vspControl => exact absurd (isName ▸ belongs.1) notNode
    | vspWorker => exact absurd (isName ▸ belongs.1) notNode
    | llmWorker => cases isVcfToo
    | devVm => cases isVcfToo
  | vspControl => exact .inr ((isNode isOfTier.1).resolve_right isOfTier.2).symm
  | vspWorker => exact .inr ((isNode isOfTier.1).resolve_left isOfTier.2).symm

/-- That is so where no gate whose outcome is dropped fails. -/
theorem gated_of_loosePass (site : Site) (config : LoadedConfig) (flags : StartFlags) (rounds : ℕ)
    (apart : config.TiersApart)
    (passes : ∀ gate, gate.isLoose = true →
      .gated gate false ∉ startRun site config.toConfig flags rounds) :
    EachFine (Gated config.toConfig) [] (startRun site config.toConfig flags rounds) := by
  intro before event after isRun
  have passed : ∀ {gate}, Waited gate before → .gated gate true ∈ before := by
    rintro gate ⟨outcome, member, dropped⟩
    cases outcome with
    | true => exact member
    | false =>
      exact absurd (isRun ▸ List.mem_append_left _ member) (passes gate (dropped rfl))
  refine ⟨?_, ?_⟩
  · rintro role vm tier rfl isOfTier gate isGate
    obtain ⟨selected, selects, _, belongs, ready⟩ := ready_of_startRun isRun
    rcases tier_of_belongs apart (belongs_of_selected selects belongs) isOfTier with none | rfl
    · exact absurd (none ▸ isGate) List.not_mem_nil
    · exact passed (ready.2.2 gate isGate)
  · rintro rfl gate isGate
    obtain ⟨selected, _, step⟩ := startStep_of_startRun isRun
    cases step with
    | quiet isQuiet => cases isQuiet
    | worker stop =>
      cases stop with
      | quiet isPlain => cases isPlain
    | summarised _ ready => exact passed (ready.2.2 gate isGate)

theorem tiersApart_shippedConfig : shippedConfig.TiersApart where
  vCenter := by
    rintro (hasPrefix | isKnown)
    · exact absurd hasPrefix (by decide)
    · exact absurd isKnown (by decide)
  appliance key := by
    refine ⟨by cases key <;> decide, ?_, fun other same => ?_⟩
    · rintro (hasPrefix | isKnown)
      · exact absurd hasPrefix (by cases key <;> decide)
      · exact absurd isKnown (by cases key <;> decide)
    · cases key <;> cases other <;> first | rfl | exact absurd same (by decide)

theorem gated_tieredSite :
    EachFine (Gated shippedConfig.toConfig) []
      (startRun (tieredSite "") shippedConfig.toConfig fullStart 2) :=
  gated_of_loosePass (tieredSite "") shippedConfig fullStart 2 tiersApart_shippedConfig
    fun _ _ member =>
      absurd (List.all_eq_true.mp startRuns.1 _ member) Bool.false_ne_true

/-- Where the guest of the License Server never comes up, the Operations Collector is powered on all the
same, and the summary is reached. -/
theorem not_gated_deafLicense :
    ¬EachFine (Gated shippedConfig.toConfig) []
      (startRun (tieredSite "licsrv") shippedConfig.toConfig fullStart 45) := by
  intro all
  obtain ⟨_, isDone, notPassed, _⟩ := startRuns
  obtain ⟨before, after, isRun⟩ := List.append_of_mem isDone
  have passed := (all before .summarised after isRun).2 rfl .license (by decide)
  exact notPassed (isRun ▸ List.mem_append_left _ passed)

/-! ### The modes -/

/-- The host of a worker answered when it was asked for it, and the worker was not on. -/
def EstablishedOff (worker : HostVm) (log : List Event) : Prop :=
  ∃ vms, .looked (.worker worker.vmName) (.host worker.hostIp) (some vms) ∈ log ∧
    ∀ vm, vms.head? = some vm → vm.isOn = false

/-- In Full a VCF component is powered on only where each worker of the run's hosts is established to be
off, in Minimal a worker only where no host ran another VCF component, and either only where no query of
the check failed. -/
def Exclusive (config : Config) (flags : StartFlags) (before : List Event) (event : Event) : Prop :=
  ∀ role vm, event = .startVM role vm → ∃ selected,
    config.selectHosts flags.skipHost = some selected ∧
    (flags.minimal = false → config.isVcfName vm.name = true → ∃ workers,
      selected.getOwnedHostVms selected.llmWorkers = some workers ∧
      ∀ worker ∈ workers, EstablishedOff worker before) ∧
    (flags.minimal = true → vm.name ∈ config.llmWorkers.map (·.vmName) →
      ∀ host ∈ selected.hosts, RanNoVcf config (allowed config flags) host before) ∧
    (config.isVcfName vm.name = true ∨ vm.name ∈ config.llmWorkers.map (·.vmName) →
      ∀ query ∈ before, query.isFailedCheck = false)

theorem establishedOff_of_seemedOff {site : Site} {worker : HostVm} {log : List Event}
    (spoken : EachFine (fun before event => ¬FailedSilently site before event) [] log)
    (off : SeemedOff site worker log) : EstablishedOff worker log := by
  obtain ⟨earlier, seen, later, isLog, notOn, failed⟩ := off
  cases seen with
  | none => exact absurd ⟨⟨_, _, rfl⟩, failed rfl⟩ (spoken earlier _ later isLog)
  | some vms => exact ⟨vms, isLog ▸ List.mem_append_right _ List.mem_cons_self, notOn⟩

theorem noFailedCheck_of_checksPassed {site : Site} {log : List Event}
    (spoken : EachFine (fun before event => ¬FailedSilently site before event) [] log)
    (passed : ChecksPassed site log) : ∀ query ∈ log, query.isFailedCheck = false := by
  intro query member
  obtain ⟨before, after, isLog⟩ := List.append_of_mem member
  refine eq_false_of_ne_true fun failed => ?_
  exact spoken before query after isLog (passed before query after isLog failed)

theorem RanNoVcf.of_selected {config selected : Config} {flags : StartFlags} {host : EsxHost}
    {log : List Event} (selects : config.selectHosts flags.skipHost = some selected)
    (ran : RanNoVcf selected (allowed selected flags) host log) :
    RanNoVcf config (allowed config flags) host log := by
  obtain ⟨vms, member, off⟩ := ran
  have sameAllowed : allowed selected flags = allowed config flags := by
    unfold allowed
    rw [(config.selectHosts_same selects).1]
  rw [sameAllowed, Config.isVcfName_selected selects] at off
  exact ⟨vms, member, off⟩

/-- That is so where no query for a worker fails without a word. -/
theorem exclusive_of_spoken (site : Site) (config : LoadedConfig) (flags : StartFlags) (rounds : ℕ)
    (spoken : EachFine (fun before event => ¬FailedSilently site before event) []
      (startRun site config.toConfig flags rounds)) :
    EachFine (Exclusive config.toConfig flags) [] (startRun site config.toConfig flags rounds) := by
  rintro before _ after isRun role vm rfl
  obtain ⟨selected, selects, real, _, mode, passed, _⟩ := ready_of_startRun isRun
  have spokenBefore := spoken.before isRun
  refine ⟨selected, selects, fun isFull _ => ?_, fun isMinimal _ host isHost => ?_, fun _ => ?_⟩
  · obtain ⟨workers, areWorkers, off⟩ := mode.2 isFull real
    exact ⟨workers, areWorkers, fun worker member =>
      establishedOff_of_seemedOff spokenBefore (off worker member)⟩
  · exact (mode.1 isMinimal host isHost).of_selected selects
  · exact noFailedCheck_of_checksPassed spokenBefore passed

theorem exclusive_workerSite :
    EachFine (Exclusive workerConfig.toConfig fullStart) []
      (startRun (offSite (fun _ => .answered) ["vcsa", "llm01"] [] "") workerConfig.toConfig
        fullStart 2) :=
  exclusive_of_spoken (offSite (fun _ => .answered) ["vcsa", "llm01"] [] "") workerConfig fullStart 2
    fun _ _ _ _ silent => by cases silent.2

/-- There Full powers vCenter on beside the worker. -/
theorem not_exclusive_silentSite :
    ¬EachFine (Exclusive workerConfig.toConfig fullStart) []
      (startRun silentSite workerConfig.toConfig fullStart 2) := by
  intro all
  obtain ⟨_, _, _, isStarted, noAnswer⟩ := startRuns
  have isWorker : (workerConfig.selectHosts []).map (fun selected =>
      selected.getOwnedHostVms selected.llmWorkers) =
      some (some [⟨"llm01", "hyp01", "172.16.10.145"⟩]) := by decide
  obtain ⟨before, after, isRun⟩ := List.append_of_mem isStarted
  obtain ⟨selected, selects, isOff, _⟩ := all before _ after isRun .vCenter _ rfl
  obtain ⟨workers, areWorkers, off⟩ := isOff rfl (by decide)
  rw [show workerConfig.selectHosts [] = some selected from selects, Option.map_some, areWorkers,
    Option.some_inj, Option.some_inj] at isWorker
  obtain ⟨vms, member, _⟩ := off _ (isWorker ▸ List.mem_cons_self)
  have isRunning := isRun ▸ List.mem_append_left _ member
  exact absurd (List.all_eq_true.mp noAnswer _ isRunning) Bool.false_ne_true

end VcfLab

end LocalGpuCluster
