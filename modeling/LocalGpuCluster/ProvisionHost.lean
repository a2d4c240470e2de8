/-
This file says what the loop body of `render_provisioning` does with one host: when it returns, which
hosts it withholds and under which finding, and that the files of the others carry the host's own
name and addresses. All of it is read off the inventory, without running the renderer.
-/

import LocalGpuCluster.Provision

namespace LocalGpuCluster

namespace VcfSpec

/-! ### What a host says -/

section Host

variable (runtime : Runtime) (host : Mapping)

def hostName : Text := runtime.toBuiltins.str (host.getOr "name" (.str []))

/-- The MAC address as the renderer writes it. -/
def hostMac : Text := runtime.lower (runtime.toBuiltins.str (host.getOr "provisioningMac" (.str [])))

def hostIp : Text := runtime.toBuiltins.str (host.getOr "mgmtIp" (.str []))

def hostBootDisk : Text := runtime.toBuiltins.str ((host.get "bootDisk").orElse (.str []))

def hostHardware : Mapping := (host.get "hardware").asMapping

/-- The device that the hardware declares under a field, if it does. -/
def declaredDevice (field : String) : List Text :=
  let value := (hostHardware host).get field
  if value.truthy then [runtime.toBuiltins.str value] else []

/-- The devices of the host, by the roles it declares them for. -/
def hostDevices : List Text :=
  hostBootDisk runtime host :: declaredDevice runtime host "vsanDevice" ++
    declaredDevice runtime host "memoryTieringDevice"

/-- A stable identifier, and neither a runtime name nor a choice by order. -/
def safeBootDisk (selector : Text) : Bool :=
  !Text.startsWith selector (text "--firstdisk") && !isRuntimeDisk selector && isStableDisk selector

/-- No two roles of the host name one device. -/
def devicesApart : Bool := ((hostDevices runtime host).map deviceKey).Nodup

/-- Nothing withholds the host. -/
def installable : Bool :=
  hostMac runtime host ≠ [] && hostBootDisk runtime host ≠ [] &&
    safeBootDisk (hostBootDisk runtime host) && devicesApart runtime host &&
    vmfsModeUsable (hostHardware host)

/-! ### When the loop body returns -/

/-- The tiering of the host can be computed: no number is too large for a double, and the ratio is a
number. -/
def TieringComputes (hardware : Mapping) : Prop :=
  ∃ tier, (hardware.get "memoryTieringGb").toFloat = .ok tier ∧
    (¬tier ≤ Float.Model.ofInt 0 →
      (hardware.get "memoryTieringDevice").tooLong = false ∧
      (isStableDisk (runtime.toBuiltins.str ((hardware.get "memoryTieringDevice").orElse (.str []))) →
        ∃ ram, (hardware.get "ramGb").toFloat = .ok ram ∧ (tierRatioPct tier ram).Returns))

/-- The MTU of the management network. -/
def mtuOf (inventory : Mapping) : ℤ := ((managementOf inventory).get "mtu").asInt.getD 1500

def hostWorkaroundsOf (inventory : Mapping) : List Text :=
  ((inventory.get "provisioning").asMapping.get "hostWorkarounds").asSequence.map
    runtime.toBuiltins.str

/-- The values that go into the files of the host can be written. -/
structure FilesWritable (inventory : Mapping) : Prop where
  mgmtIp : (host.getOr "mgmtIp" (.str [])).tooLong = false
  gateway : ((managementOf inventory).get "gateway").tooLong = false
  mtu : Scalar.tooLong (.int (mtuOf inventory)) = false
  cpuModel : (hostWorkaroundsOf runtime inventory).contains (text "consumer-amd") = true →
    ((hostHardware host).get "cpuModel").tooLong = false

/-- What is written of a host with a safe boot disk can be written. -/
structure DevicesWritable (inventory : Mapping) : Prop where
  vsanDevice : ((hostHardware host).get "vsanDevice").tooLong = false
  memoryTieringDevice : ((hostHardware host).get "memoryTieringDevice").tooLong = false
  apart : devicesApart runtime host = true →
    TieringComputes runtime (hostHardware host) ∧
    (vmfsModeUsable (hostHardware host) = true → FilesWritable runtime host inventory) ∧
    (vmfsModeUsable (hostHardware host) = false → (vmfsMode (hostHardware host)).tooLong = false)

/-- What the loop body writes of the host can be written. -/
structure HostWritable (inventory : Mapping) : Prop where
  mac : (host.getOr "provisioningMac" (.str [])).tooLong = false
  bootDisk : (host.get "bootDisk").tooLong = false
  name : (host.getOr "name" (.str [])).tooLong = false
  devices : hostMac runtime host ≠ [] → hostBootDisk runtime host ≠ [] →
    safeBootDisk (hostBootDisk runtime host) = true → DevicesWritable runtime host inventory

end Host

/-- What is not falsy is written as it is, and a falsy value is short. -/
theorem tooLong_orElse (value : Value) (default : Text) :
    (value.orElse (.str default)).tooLong = value.tooLong := by
  unfold Value.orElse
  cases truthy : value.truthy with
  | true => rfl
  | false =>
    rw [if_neg Bool.false_ne_true]
    show false = value.tooLong
    symm
    match value, truthy with
    | .scalar .null, _ | .scalar (.bool _), _ | .scalar (.float _), _ | .scalar (.str _), _ => rfl
    | .scalar (.int number), falsy =>
      have zero : number = 0 := by simpa [Value.truthy] using falsy
      have positive : 0 < 10 ^ maxDigits := Nat.pow_pos (by decide)
      exact decide_eq_false (by rw [zero, Int.natAbs_zero]; exact Nat.not_le.mpr positive)
    | .list [], _ => rfl
    | .list (_ :: _), falsy => cases falsy
    | .dict [], _ => rfl
    | .dict (_ :: _), falsy => cases falsy

/-- A value that is falsy is short. -/
theorem tooLong_of_falsy {value : Value} (falsy : value.truthy = false) : value.tooLong = false := by
  have same := tooLong_orElse value []
  rw [Value.orElse, falsy] at same
  exact same.symm

theorem deviceRole_eq_ok {runtime : Runtime} {host : Mapping} {field : String}
    {roles : List (Text × Text)} :
    deviceRole runtime (hostHardware host) field = .ok roles ↔
      ((hostHardware host).get field).tooLong = false ∧
        (declaredDevice runtime host field).map (fun device => (text field, device)) = roles := by
  unfold deviceRole declaredDevice
  dsimp only
  cases truthy : ((hostHardware host).get field).truthy with
  | true =>
    rw [if_pos rfl, if_pos rfl, Run.bind_eq_ok]
    simp only [Runtime.str_eq_ok]
    constructor
    · rintro ⟨_, ⟨short, rfl⟩, same⟩
      exact ⟨short, Except.ok.inj same⟩
    · rintro ⟨short, rfl⟩
      exact ⟨_, ⟨short, rfl⟩, rfl⟩
  | false =>
    rw [if_neg Bool.false_ne_true, if_neg Bool.false_ne_true, tooLong_of_falsy truthy]
    exact ⟨fun same => ⟨rfl, Except.ok.inj same⟩, fun ⟨_, same⟩ => congrArg Except.ok same⟩

/-- The roles are those of the devices that the host declares. -/
theorem deviceRoles_eq_ok {runtime : Runtime} {host : Mapping} {roles : List (Text × Text)}
    (found : deviceRoles runtime (hostBootDisk runtime host) (hostHardware host) = .ok roles) :
    roles.map Prod.snd = hostDevices runtime host := by
  unfold deviceRoles at found
  obtain ⟨vsan, isVsan, rest⟩ := Run.bind_eq_ok.mp found
  obtain ⟨tiering, isTiering, same⟩ := Run.bind_eq_ok.mp rest
  obtain ⟨_, rfl⟩ := deviceRole_eq_ok.mp isVsan
  obtain ⟨_, rfl⟩ := deviceRole_eq_ok.mp isTiering
  rw [← Except.ok.inj same]
  simp [hostDevices, Function.comp_def]

theorem returns_deviceRoles {runtime : Runtime} {host : Mapping} {bootDisk : Text} :
    (deviceRoles runtime bootDisk (hostHardware host)).Returns ↔
      ((hostHardware host).get "vsanDevice").tooLong = false ∧
        ((hostHardware host).get "memoryTieringDevice").tooLong = false := by
  unfold deviceRoles
  simp only [Run.returns_bind, deviceRole_eq_ok, exists_and_left, and_assoc, exists_eq_left']
  exact and_congr_right fun _ => ⟨And.left, fun short => ⟨short, _, rfl⟩⟩

theorem collisionFinding_isNone {runtime : Runtime} {host : Mapping} {roles : List (Text × Text)}
    {path name : Text}
    (found : deviceRoles runtime (hostBootDisk runtime host) (hostHardware host) = .ok roles) :
    collisionFinding roles path name = none ↔ devicesApart runtime host = true := by
  rw [collisionFinding_eq_none_iff, devicesApart, decide_eq_true_eq, ← deviceRoles_eq_ok found,
    List.map_map]
  rfl

theorem bootDiskFinding_eq_none_iff {selector path name : Text} :
    bootDiskFinding selector path name = none ↔ safeBootDisk selector = true := by
  unfold bootDiskFinding safeBootDisk
  cases Text.startsWith selector (text "--firstdisk") <;> cases isRuntimeDisk selector <;>
    cases isStableDisk selector <;> simp

/-! ### Tiering -/

theorem isStableDisk_nil : isStableDisk [] = false := by decide

/-- The findings about tiering are made exactly when the tiering can be computed. -/
theorem returns_tieringFindings {runtime : Runtime} {hardware : Mapping} {hwPath name : Text} :
    (tieringFindings runtime hardware hwPath name).Returns ↔ TieringComputes runtime hardware := by
  unfold tieringFindings TieringComputes
  rw [Run.returns_bind]
  refine exists_congr fun tier => and_congr_right fun _ => ?_
  by_cases declared : tier ≤ Float.Model.ofInt 0
  · rw [if_pos declared]
    exact iff_of_true ⟨_, rfl⟩ fun positive => absurd declared positive
  rw [if_neg declared, Runtime.returns_bind_str, tooLong_orElse, forall_prop_of_true declared]
  refine and_congr_right fun _ => ?_
  generalize runtime.toBuiltins.str ((hardware.get "memoryTieringDevice").orElse (Value.str [])) =
    device
  by_cases absent : device = []
  · rw [if_pos absent, absent, isStableDisk_nil]
    exact iff_of_true ⟨_, rfl⟩ fun stable => absurd stable (by decide)
  rw [if_neg absent]
  cases stable : isStableDisk device with
  | false => exact iff_of_true ⟨_, rfl⟩ fun isTrue => absurd isTrue (by decide)
  | true =>
    rw [Bool.not_true, if_neg Bool.false_ne_true, forall_prop_of_true rfl, Run.returns_bind]
    refine exists_congr fun ram => and_congr_right fun _ => ?_
    rw [Run.returns_bind]
    constructor
    · rintro ⟨ratio, isRatio, _⟩
      exact ⟨ratio, isRatio⟩
    · rintro ⟨ratio, isRatio⟩
      refine ⟨ratio, isRatio, ?_⟩
      split <;> exact ⟨_, rfl⟩

/-- Without a finding the device of a declared tier is stable. -/
theorem stable_of_no_reason {runtime : Runtime} {hardware : Mapping} {hwPath name : Text}
    (made : tieringFindings runtime hardware hwPath name = .ok []) {tier : Double}
    (isTier : (hardware.get "memoryTieringGb").toFloat = .ok tier)
    (declared : ¬tier ≤ Float.Model.ofInt 0) :
    isStableDisk (runtime.toBuiltins.str ((hardware.get "memoryTieringDevice").orElse (.str []))) =
      true := by
  unfold tieringFindings at made
  obtain ⟨_, isTier', made⟩ := Run.bind_eq_ok.mp made
  obtain rfl := Except.ok.inj (isTier.symm.trans isTier')
  rw [if_neg declared] at made
  obtain ⟨device, isDevice, made⟩ := Run.bind_eq_ok.mp made
  obtain ⟨_, rfl⟩ := Runtime.str_eq_ok.mp isDevice
  generalize runtime.toBuiltins.str ((hardware.get "memoryTieringDevice").orElse (Value.str [])) =
    device at made ⊢
  by_cases absent : device = []
  · rw [if_pos absent] at made
    cases made
  rw [if_neg absent] at made
  cases stable : isStableDisk device with
  | true => rfl
  | false =>
    rw [stable] at made
    cases made

/-- The tiering block reads nothing that the findings about tiering do not. -/
theorem returns_tieringBlock {runtime : Runtime} {hardware : Mapping} {hwPath name : Text} :
    (tieringBlock runtime hardware hwPath name).Returns ↔ TieringComputes runtime hardware := by
  unfold tieringBlock
  rw [Run.returns_bind]
  constructor
  · rintro ⟨reasons, made, _⟩
    exact returns_tieringFindings.mp ⟨reasons, made⟩
  · intro computes
    obtain ⟨reasons, made⟩ := returns_tieringFindings.mpr computes
    obtain ⟨tier, isTier, further⟩ := computes
    refine ⟨reasons, made, ?_⟩
    cases reasons with
    | cons => exact ⟨_, rfl⟩
    | nil =>
      rw [List.isEmpty_nil, Bool.not_true, if_neg Bool.false_ne_true, Run.returns_bind]
      refine ⟨tier, isTier, ?_⟩
      by_cases declared : tier ≤ Float.Model.ofInt 0
      · rw [if_pos declared]
        exact ⟨_, rfl⟩
      · obtain ⟨short, ratioComputes⟩ := further declared
        obtain ⟨ram, isRam, ratio, isRatio⟩ :=
          ratioComputes (stable_of_no_reason made isTier declared)
        rw [if_neg declared, Runtime.returns_bind_str, tooLong_orElse]
        exact ⟨short, Run.returns_bind.mpr ⟨ram, isRam, Run.returns_bind.mpr ⟨ratio, isRatio, _, rfl⟩⟩⟩

/-! ### The loop body -/

/-- What every host is given is read off the inventory. -/
structure SiteReads (runtime : Runtime) (inventory : Mapping) (site : Site) : Prop where
  gateway : site.gateway = (managementOf inventory).get "gateway"
  mtu : site.mtu = mtuOf inventory
  hostWorkarounds : site.hostWorkarounds = hostWorkaroundsOf runtime inventory

theorem returns_workaroundsBlock {runtime : Runtime} {hostWorkarounds : List Text} {cpuModel : Value} :
    (workaroundsBlock runtime hostWorkarounds cpuModel).Returns ↔
      (hostWorkarounds.contains (text "consumer-amd") = true → cpuModel.tooLong = false) := by
  unfold workaroundsBlock
  cases hostWorkarounds.contains (text "consumer-amd") with
  | false => exact iff_of_true ⟨_, rfl⟩ fun contained => absurd contained Bool.false_ne_true
  | true =>
    rw [Bool.not_true, if_neg Bool.false_ne_true, forall_prop_of_true rfl]
    cases truthy : cpuModel.truthy with
    | false => exact iff_of_true ⟨_, rfl⟩ (tooLong_of_falsy truthy)
    | true =>
      rw [Bool.not_true, if_neg Bool.false_ne_true, Runtime.returns_bind_str]
      exact and_iff_left ⟨_, rfl⟩

theorem returns_renderHost {runtime : Runtime} {inventory : Mapping} {site : Site} {esxBootCfg : Option Text}
    {host : Mapping} {name mac bootDisk tiering : Text}
    (reads : SiteReads runtime inventory site) :
    (renderHost runtime site esxBootCfg host (hostHardware host) name mac bootDisk tiering).Returns ↔
      FilesWritable runtime host inventory := by
  unfold renderHost
  rw [Runtime.returns_bind_str, Runtime.returns_bind_str, Runtime.returns_bind_str, Run.returns_bind,
    reads.gateway, reads.mtu, reads.hostWorkarounds]
  constructor
  · rintro ⟨mgmtIp, gateway, mtu, workarounds, isWorkarounds, _⟩
    exact ⟨mgmtIp, gateway, mtu, returns_workaroundsBlock.mp ⟨workarounds, isWorkarounds⟩⟩
  · rintro ⟨mgmtIp, gateway, mtu, cpuModel⟩
    obtain ⟨workarounds, isWorkarounds⟩ := returns_workaroundsBlock.mpr cpuModel
    exact ⟨mgmtIp, gateway, mtu, workarounds, isWorkarounds, _, rfl⟩

theorem returns_provisionFiles {runtime : Runtime} {inventory : Mapping} {site : Site} {esxBootCfg : Option Text} {index : ℕ}
    {host : Mapping} {name mac bootDisk tiering : Text} {findings : List Finding}
    (reads : SiteReads runtime inventory site) :
    (provisionFiles runtime site esxBootCfg index host name mac bootDisk tiering findings).Returns ↔
      (vmfsModeUsable (hostHardware host) = true → FilesWritable runtime host inventory) ∧
        (vmfsModeUsable (hostHardware host) = false →
          (vmfsMode (hostHardware host)).tooLong = false) := by
  unfold provisionFiles
  show Run.Returns (if vmfsModeUsable (hostHardware host) then _ else _) ↔ _
  cases vmfsModeUsable (hostHardware host) with
  | true =>
    rw [if_pos rfl, Run.returns_bind, forall_prop_of_true rfl]
    refine Iff.trans ?_ (and_iff_left fun isFalse => by cases isFalse).symm
    constructor
    · rintro ⟨files, made, _⟩
      exact (returns_renderHost reads).mp ⟨files, made⟩
    · intro writable
      obtain ⟨files, made⟩ := (returns_renderHost reads).mpr writable
      exact ⟨files, made, _, rfl⟩
  | false =>
    rw [if_neg Bool.false_ne_true, Runtime.returns_bind_str, forall_prop_of_true rfl]
    exact ⟨fun ⟨short, _⟩ => ⟨fun isTrue => (by cases isTrue), short⟩,
      fun ⟨_, short⟩ => ⟨short, _, rfl⟩⟩

theorem returns_provisionDevices {runtime : Runtime} {inventory : Mapping} {site : Site} {esxBootCfg : Option Text}
    {index : ℕ} {host : Mapping} {name mac : Text}
    (reads : SiteReads runtime inventory site) :
    (provisionDevices runtime site esxBootCfg index host name mac (hostBootDisk runtime host)).Returns ↔
      DevicesWritable runtime host inventory := by
  unfold provisionDevices
  rw [Run.returns_bind]
  constructor
  · rintro ⟨roles, found, returned⟩
    obtain ⟨vsan, tieringDevice⟩ := returns_deviceRoles.mp ⟨roles, found⟩
    refine ⟨vsan, tieringDevice, fun apart => ?_⟩
    rw [(collisionFinding_isNone found).mpr apart] at returned
    obtain ⟨⟨tiering, findings⟩, made, files⟩ := Run.returns_bind.mp returned
    obtain ⟨usable, unusable⟩ := (returns_provisionFiles reads).mp files
    exact ⟨returns_tieringBlock.mp ⟨_, made⟩, usable, unusable⟩
  · rintro ⟨vsan, tieringDevice, rest⟩
    obtain ⟨roles, found⟩ := returns_deviceRoles.mpr ⟨vsan, tieringDevice⟩
    refine ⟨roles, found, ?_⟩
    cases collision : collisionFinding roles (hostPath index) name with
    | some reason => exact ⟨_, rfl⟩
    | none =>
      obtain ⟨computes, usable, unusable⟩ := rest ((collisionFinding_isNone found).mp collision)
      obtain ⟨⟨tiering, findings⟩, made⟩ := returns_tieringBlock.mpr computes
      exact Run.returns_bind.mpr ⟨_, made, (returns_provisionFiles reads).mpr ⟨usable, unusable⟩⟩

theorem returns_provisionAddressed {runtime : Runtime} {inventory : Mapping} {site : Site} {esxBootCfg : Option Text}
    {index : ℕ} {host : Mapping} {name : Text}
    (reads : SiteReads runtime inventory site) :
    (provisionAddressed runtime site esxBootCfg index host name (hostMac runtime host)
      (hostBootDisk runtime host)).Returns ↔
      (hostMac runtime host ≠ [] → hostBootDisk runtime host ≠ [] →
        safeBootDisk (hostBootDisk runtime host) = true → DevicesWritable runtime host inventory) := by
  unfold provisionAddressed
  by_cases noAddress : hostMac runtime host = []
  · rw [if_pos noAddress]
    exact iff_of_true ⟨_, rfl⟩ fun present => absurd noAddress present
  rw [if_neg noAddress, forall_prop_of_true noAddress]
  by_cases noDisk : hostBootDisk runtime host = []
  · rw [if_pos noDisk]
    exact iff_of_true ⟨_, rfl⟩ fun present => absurd noDisk present
  rw [if_neg noDisk, forall_prop_of_true noDisk]
  have safe : bootDiskFinding (hostBootDisk runtime host) (hostPath index ++ text "/bootDisk") name =
      none ↔ safeBootDisk (hostBootDisk runtime host) = true := bootDiskFinding_eq_none_iff
  generalize bootDiskFinding (hostBootDisk runtime host) (hostPath index ++ text "/bootDisk") name =
    checked at safe
  cases checked with
  | some reason => exact iff_of_true ⟨_, rfl⟩ fun isSafe => absurd (safe.mpr isSafe) (Option.some_ne_none _)
  | none =>
    rw [forall_prop_of_true (safe.mp rfl)]
    exact returns_provisionDevices reads

/-- The loop body returns exactly when what it writes can be written. -/
theorem returns_provisionHost {runtime : Runtime} {inventory : Mapping} {site : Site} {esxBootCfg : Option Text}
    {index : ℕ} {entry : Value}
    (reads : SiteReads runtime inventory site) :
    (provisionHost runtime site esxBootCfg index entry).Returns ↔
      HostWritable runtime entry.asMapping inventory := by
  unfold provisionHost
  rw [Runtime.returns_bind_str, Runtime.returns_bind_str, Runtime.returns_bind_str, tooLong_orElse]
  constructor
  · rintro ⟨mac, bootDisk, name, returned⟩
    exact ⟨mac, bootDisk, name, (returns_provisionAddressed reads).mp returned⟩
  · rintro ⟨mac, bootDisk, name, devices⟩
    exact ⟨mac, bootDisk, name, (returns_provisionAddressed reads).mpr devices⟩

/-! ### What the loop body makes -/

/-- The findings that say why a host gets no files. -/
def withholdingCodes : List Text :=
  ["VCF-PROV-NO-MAC", "VCF-PROV-NO-BOOT-DISK", "VCF-PROV-BOOT-DISK-FIRSTDISK",
    "VCF-PROV-BOOT-DISK-RUNTIME-NAME", "VCF-PROV-BOOT-DISK-NOT-STABLE", "VCF-PROV-DEVICE-COLLISION",
    "VCF-PROV-BOOT-VMFS-MODE"].map text

def isWithholding (finding : Finding) : Bool := withholdingCodes.contains finding.code

/-- The finding is at the path of a host, or below it. -/
def isAbout (index : ℕ) (finding : Finding) : Bool :=
  finding.path = hostPath index || Text.startsWith finding.path (hostPath index ++ [slash])

/-- The files carry the host's own name, MAC address and IP address. -/
structure Carries (runtime : Runtime) (host : Mapping) (kickstart bootConfig : Text) : Prop where
  addresses : text "network --bootproto=static --device=" ++ hostMac runtime host ++ text " --ip=" ++
    hostIp runtime host ++ text " --netmask=" <:+: kickstart
  name : text " --hostname=" ++ hostName runtime host <:+: kickstart
  bootConfig : text "/" ++ kickstartName (hostName runtime host) ++
    text " bootproto=static netdevice=" ++ hostMac runtime host ++ text " ip=" ++
    hostIp runtime host ++ text " netmask=" <:+: bootConfig

/-- What the loop body makes of a host, given a boot configuration to rewrite. -/
structure HostOutcome (runtime : Runtime) (index : ℕ) (host : Mapping) (result : HostResult) : Prop where
  about : ∀ finding ∈ result.findings, isAbout index finding = true
  withheld : installable runtime host = false →
    result.artifacts = none ∧ ∃ finding ∈ result.findings, isWithholding finding = true
  emitted : installable runtime host = true →
    (∀ finding ∈ result.findings, isWithholding finding = false) ∧
    ∃ kickstart bootConfig, result.artifacts = some ⟨kickstartName (hostName runtime host), kickstart,
      some (bootConfigPath (hostMac runtime host), bootConfig)⟩ ∧
      Carries runtime host kickstart bootConfig

theorem isAbout_of_path {index : ℕ} {finding : Finding} {rest : Text}
    (path : finding.path = hostPath index ++ rest) (below : rest = [] ∨ rest.head? = some slash) :
    isAbout index finding = true := by
  unfold isAbout
  rw [path, Bool.or_eq_true, decide_eq_true_eq]
  obtain rfl | headSlash := below
  · exact Or.inl (List.append_nil _)
  · obtain ⟨more, rfl⟩ : ∃ more, rest = slash :: more := by
      cases rest with
      | nil => cases headSlash
      | cons first more => exact ⟨more, by rw [Option.some.inj headSlash]⟩
    refine Or.inr (List.isPrefixOf_iff_prefix.mpr ⟨more, ?_⟩)
    rw [List.append_assoc, List.singleton_append]

/-- A host that is withheld for one reason. -/
theorem outcome_of_reason {runtime : Runtime} {index : ℕ} {host : Mapping} {finding : Finding}
    {rest : Text} (excluded : installable runtime host = false)
    (withholds : isWithholding finding = true) (path : finding.path = hostPath index ++ rest)
    (below : rest = [] ∨ rest.head? = some slash) :
    HostOutcome runtime index host ⟨[finding], none⟩ where
  about := fun other member => by
    rw [List.mem_singleton.mp member]
    exact isAbout_of_path path below
  withheld := fun _ => ⟨rfl, finding, List.mem_singleton_self _, withholds⟩
  emitted := fun included => absurd included (by rw [excluded]; decide)

theorem bootDiskFinding_some {selector path name : Text} {finding : Finding}
    (found : bootDiskFinding selector path name = some finding) :
    isWithholding finding = true ∧ finding.path = path := by
  unfold bootDiskFinding at found
  split at found
  · cases found
    exact ⟨by show withholdingCodes.contains (text "VCF-PROV-BOOT-DISK-FIRSTDISK") = true; decide, rfl⟩
  split at found
  · cases found
    exact ⟨by show withholdingCodes.contains (text "VCF-PROV-BOOT-DISK-RUNTIME-NAME") = true; decide, rfl⟩
  split at found
  · cases found
    exact ⟨by show withholdingCodes.contains (text "VCF-PROV-BOOT-DISK-NOT-STABLE") = true; decide, rfl⟩
  · cases found

theorem collisionFrom_some {path name : Text} {seen roles : List (Text × Text)} {finding : Finding}
    (found : collisionFrom path name seen roles = some finding) :
    isWithholding finding = true ∧ finding.path = path := by
  induction roles generalizing seen with
  | nil => cases found
  | cons role rest inductionHypothesis =>
    rw [collisionFrom] at found
    split at found
    · cases found
      exact ⟨by show withholdingCodes.contains (text "VCF-PROV-DEVICE-COLLISION") = true; decide, rfl⟩
    · exact inductionHypothesis found

/-- Findings about tiering withhold nothing, and are about the hardware. -/
theorem mem_tieringFindings {runtime : Runtime} {hardware : Mapping} {hwPath name : Text}
    {reasons : List Finding} (made : tieringFindings runtime hardware hwPath name = .ok reasons)
    {finding : Finding} (member : finding ∈ reasons) :
    isWithholding finding = false ∧ ∃ rest : Text, finding.path = hwPath ++ rest := by
  unfold tieringFindings at made
  obtain ⟨tier, _, made⟩ := Run.bind_eq_ok.mp made
  split at made
  · cases made
    exact absurd member List.not_mem_nil
  obtain ⟨device, _, made⟩ := Run.bind_eq_ok.mp made
  split at made
  · cases made
    rw [List.mem_singleton.mp member]
    exact ⟨by show withholdingCodes.contains (text "VCF-PROV-NO-TIERING-DEVICE") = false; decide,
      [], (List.append_nil _).symm⟩
  split at made
  · cases made
    rw [List.mem_singleton.mp member]
    exact ⟨by show withholdingCodes.contains (text "VCF-PROV-TIERING-DEVICE-NOT-STABLE") = false; decide,
      _, rfl⟩
  obtain ⟨ram, _, made⟩ := Run.bind_eq_ok.mp made
  obtain ⟨ratio, _, made⟩ := Run.bind_eq_ok.mp made
  split at made
  · cases made
    exact absurd member List.not_mem_nil
  · cases made
    rw [List.mem_singleton.mp member]
    exact ⟨by show withholdingCodes.contains (text "VCF-PROV-TIERING-RATIO-UNSUPPORTED") = false; decide,
      _, rfl⟩

/-- What a tiering block comes with are the findings about tiering. -/
theorem mem_tieringBlock {runtime : Runtime} {hardware : Mapping} {hwPath name tiering : Text}
    {findings : List Finding} (made : tieringBlock runtime hardware hwPath name = .ok (tiering, findings))
    {finding : Finding} (member : finding ∈ findings) :
    isWithholding finding = false ∧ ∃ rest : Text, finding.path = hwPath ++ rest := by
  unfold tieringBlock at made
  obtain ⟨reasons, isReasons, made⟩ := Run.bind_eq_ok.mp made
  split at made
  · cases made
    exact mem_tieringFindings isReasons member
  obtain ⟨tier, _, made⟩ := Run.bind_eq_ok.mp made
  split at made
  · cases made
    exact absurd member List.not_mem_nil
  obtain ⟨device, _, made⟩ := Run.bind_eq_ok.mp made
  obtain ⟨ram, _, made⟩ := Run.bind_eq_ok.mp made
  obtain ⟨ratio, _, made⟩ := Run.bind_eq_ok.mp made
  cases made
  exact absurd member List.not_mem_nil

/-! ### The files -/

/-- A rewritten boot configuration has the kernel options. -/
theorem mem_rewriteBootCfg {runtime : Runtime} {isoBootCfg payloadUrl options : Text} :
    ∃ out, text "kernelopt=" ++ options ∈ out ∧
      rewriteBootCfg runtime isoBootCfg payloadUrl options =
        Text.stripRight (fun point => point = 0xA) (Text.join newline out) ++ newline := by
  refine ⟨_, ?_, rfl⟩
  by_cases present : ((Text.splitLines isoBootCfg).map (bootCfgKey runtime)).contains (text "kernelopt")
  · obtain ⟨line, inLines, key⟩ := List.mem_map.mp (List.contains_iff_mem.mp present)
    refine List.mem_append_left _ (List.mem_append_left _ (List.mem_map.mpr ⟨line, inLines, ?_⟩))
    have apart : text "kernelopt" ≠ text "prefix" := by decide
    rw [rewriteLine, key, if_neg apart, if_pos rfl]
  · rw [if_neg present]
    exact List.mem_append_right _ (List.mem_singleton_self _)

/-- A part of the kernel options that no line feed ends is in the boot configuration. -/
theorem infix_rewriteBootCfg {runtime : Runtime} {isoBootCfg payloadUrl options part : Text}
    {last : CodePoint} (stays : last ≠ 0xA) (within : part ++ [last] <:+: options) :
    part ++ [last] <:+: rewriteBootCfg runtime isoBootCfg payloadUrl options := by
  obtain ⟨out, member, same⟩ : ∃ out, text "kernelopt=" ++ options ∈ out ∧
      rewriteBootCfg runtime isoBootCfg payloadUrl options =
        Text.stripRight (fun point => point = 0xA) (Text.join newline out) ++ newline :=
    mem_rewriteBootCfg
  have inLine : part ++ [last] <:+: text "kernelopt=" ++ options :=
    within.trans (List.suffix_append _ _).isInfix
  rw [same]
  exact (Text.infix_stripRight (decide_eq_false stays) (inLine.trans (Text.infix_join member))).trans
    (List.prefix_append _ _).isInfix

theorem kickstartNetwork_carried (fqdn rootHash paranoidLine bootDisk vmfsOpt overwritevsanOpt mac ip
    netmask gateway nameservers vlanOpt firstboot : Text) :
    kickstartNetwork fqdn mac ip netmask gateway nameservers vlanOpt <:+:
      kickstartHead fqdn rootHash paranoidLine bootDisk vmfsOpt overwritevsanOpt mac ip netmask gateway
        nameservers vlanOpt ++ firstboot :=
  List.IsInfix.trans ⟨_, _, rfl⟩ (List.prefix_append _ _).isInfix

theorem addresses_carried (fqdn mac ip netmask gateway nameservers vlanOpt : Text) :
    text "network --bootproto=static --device=" ++ mac ++ text " --ip=" ++ ip ++ text " --netmask=" <:+:
      kickstartNetwork fqdn mac ip netmask gateway nameservers vlanOpt :=
  ⟨[], netmask ++ (text " --gateway=" ++ (gateway ++ (text " --nameserver=" ++ (nameservers ++
    (text " --hostname=" ++ (fqdn ++ (text " --addvmportgroup=0" ++ (vlanOpt ++ newline)))))))), by
    simp only [kickstartNetwork, List.append_assoc, List.nil_append]⟩

theorem hostname_carried (name domain mac ip netmask gateway nameservers vlanOpt : Text) :
    text " --hostname=" ++ name <:+:
      kickstartNetwork (name ++ domain) mac ip netmask gateway nameservers vlanOpt :=
  ⟨text "network --bootproto=static --device=" ++ (mac ++ (text " --ip=" ++ (ip ++
    (text " --netmask=" ++ (netmask ++ (text " --gateway=" ++ (gateway ++ (text " --nameserver=" ++
    nameservers)))))))), domain ++ (text " --addvmportgroup=0" ++ (vlanOpt ++ newline)), by
    simp only [kickstartNetwork, List.append_assoc]⟩

theorem kernelopt_carried (site : Site) (name mac ip gateway : Text) :
    text "/" ++ kickstartName name ++ text " bootproto=static netdevice=" ++ mac ++ text " ip=" ++ ip ++
      text " netmask=" <:+: kernelopt site name mac ip gateway :=
  ⟨text "ks=" ++ site.bootUrl, site.netmask ++ (text " gateway=" ++ (gateway ++
    (text " nameserver=" ++ (site.bootNameserver ++ site.vlanBoot)))), by
    simp only [kernelopt, List.append_assoc]⟩

theorem text_netmask : text " netmask=" = text " netmask" ++ [0x3D] := by decide

/-- The files of a host carry its own name and addresses. -/
theorem renderHost_carries {runtime : Runtime} {site : Site} {isoBootCfg bootDisk tiering : Text}
    {host hardware : Mapping} {files : HostArtifacts}
    (made : renderHost runtime site (some isoBootCfg) host hardware (hostName runtime host)
      (hostMac runtime host) bootDisk tiering = .ok files) :
    ∃ kickstart bootConfig, files = ⟨kickstartName (hostName runtime host), kickstart,
      some (bootConfigPath (hostMac runtime host), bootConfig)⟩ ∧
      Carries runtime host kickstart bootConfig := by
  unfold renderHost at made
  obtain ⟨ip, isIp, made⟩ := Run.bind_eq_ok.mp made
  obtain ⟨_, rfl⟩ := Runtime.str_eq_ok.mp isIp
  obtain ⟨gateway, _, made⟩ := Run.bind_eq_ok.mp made
  obtain ⟨mtu, _, made⟩ := Run.bind_eq_ok.mp made
  obtain ⟨workarounds, _, made⟩ := Run.bind_eq_ok.mp made
  refine ⟨_, _, (Except.ok.inj made).symm, ?_⟩
  have fqdn : ∃ domain, (if site.subdomain = [] then hostName runtime host
      else hostName runtime host ++ text "." ++ site.subdomain) = hostName runtime host ++ domain := by
    split
    · exact ⟨[], (List.append_nil _).symm⟩
    · exact ⟨_, List.append_assoc _ _ _⟩
  obtain ⟨domain, fqdn⟩ := fqdn
  rw [fqdn]
  exact {
    addresses := (addresses_carried _ _ _ _ _ _ _).trans (kickstartNetwork_carried ..)
    name := (hostname_carried _ _ _ _ _ _ _ _).trans (kickstartNetwork_carried ..)
    bootConfig := by
      have options := kernelopt_carried site (hostName runtime host) (hostMac runtime host)
        (hostIp runtime host) gateway
      rw [text_netmask, ← List.append_assoc] at options ⊢
      exact infix_rewriteBootCfg (by decide) options }

/-- What the loop body makes of a host from the VMFS mode on. -/
theorem provisionFiles_outcome {runtime : Runtime} {site : Site} {isoBootCfg tiering : Text} {index : ℕ}
    {host : Mapping} {findings : List Finding} {result : HostResult}
    (made : provisionFiles runtime site (some isoBootCfg) index host (hostName runtime host)
      (hostMac runtime host) (hostBootDisk runtime host) tiering findings = .ok result)
    (harmless : ∀ finding ∈ findings, isWithholding finding = false ∧ isAbout index finding = true)
    (included : installable runtime host = vmfsModeUsable (hostHardware host)) :
    HostOutcome runtime index host result := by
  unfold provisionFiles at made
  dsimp only at made
  rw [show (host.get "hardware").asMapping = hostHardware host from rfl, ← included] at made
  cases usable : installable runtime host with
  | true =>
    rw [usable, if_pos rfl] at made
    obtain ⟨files, rendered, made⟩ := Run.bind_eq_ok.mp made
    cases made
    obtain ⟨kickstart, bootConfig, rfl, carries⟩ := renderHost_carries rendered
    exact {
      about := fun finding member => (harmless finding member).2
      withheld := fun excluded => absurd excluded (by rw [usable]; decide)
      emitted := fun _ => ⟨fun finding member => (harmless finding member).1, kickstart, bootConfig,
        rfl, carries⟩ }
  | false =>
    rw [usable, if_neg Bool.false_ne_true] at made
    obtain ⟨mode, _, made⟩ := Run.bind_eq_ok.mp made
    cases made
    exact {
      about := fun finding member => by
        obtain earlier | last := List.mem_append.mp member
        · exact (harmless finding earlier).2
        · rw [List.mem_singleton.mp last]
          exact isAbout_of_path rfl (Or.inr (by decide))
      withheld := fun _ => ⟨rfl, _, List.mem_append_right _ (List.mem_singleton_self _), by
        show withholdingCodes.contains (text "VCF-PROV-BOOT-VMFS-MODE") = true
        decide⟩
      emitted := fun isTrue => absurd isTrue (by rw [usable]; decide) }

theorem provisionDevices_outcome {runtime : Runtime} {site : Site} {isoBootCfg : Text} {index : ℕ}
    {host : Mapping} {result : HostResult}
    (made : provisionDevices runtime site (some isoBootCfg) index host (hostName runtime host)
      (hostMac runtime host) (hostBootDisk runtime host) = .ok result)
    (included : installable runtime host =
      (devicesApart runtime host && vmfsModeUsable (hostHardware host))) :
    HostOutcome runtime index host result := by
  unfold provisionDevices at made
  obtain ⟨roles, found, made⟩ := Run.bind_eq_ok.mp made
  cases collision : collisionFinding roles (hostPath index) (hostName runtime host) with
  | some reason =>
    rw [collision] at made
    cases made
    obtain ⟨withholds, path⟩ := collisionFrom_some collision
    have together : devicesApart runtime host = false := by
      rw [← Bool.not_eq_true, ← collisionFinding_isNone found, collision]
      exact Option.some_ne_none _
    exact outcome_of_reason (by rw [included, together, Bool.false_and]) withholds
      (path.trans (List.append_nil _).symm) (Or.inl rfl)
  | none =>
    rw [collision] at made
    obtain ⟨⟨tiering, findings⟩, tiered, made⟩ := Run.bind_eq_ok.mp made
    refine provisionFiles_outcome made (fun finding member => ?_) ?_
    · obtain ⟨harmless, rest, path⟩ := mem_tieringBlock tiered member
      refine ⟨harmless, isAbout_of_path (path.trans (List.append_assoc _ _ _)) (Or.inr ?_)⟩
      rw [List.head?_append_of_ne_nil _ (by decide)]
      decide
    · rw [included, (collisionFinding_isNone found).mp collision, Bool.true_and]

/-- What the loop body makes of a host. -/
theorem provisionHost_outcome {runtime : Runtime} {site : Site} {isoBootCfg : Text} {index : ℕ}
    {entry : Value} {result : HostResult}
    (made : provisionHost runtime site (some isoBootCfg) index entry = .ok result) :
    HostOutcome runtime index entry.asMapping result := by
  unfold provisionHost at made
  generalize entry.asMapping = host at made ⊢
  obtain ⟨mac, isMac, made⟩ := Run.bind_eq_ok.mp made
  obtain ⟨bootDisk, isBootDisk, made⟩ := Run.bind_eq_ok.mp made
  obtain ⟨name, isName, made⟩ := Run.bind_eq_ok.mp made
  obtain ⟨_, rfl⟩ := Runtime.str_eq_ok.mp isMac
  obtain ⟨_, rfl⟩ := Runtime.str_eq_ok.mp isBootDisk
  obtain ⟨_, rfl⟩ := Runtime.str_eq_ok.mp isName
  change provisionAddressed runtime site (some isoBootCfg) index host (hostName runtime host)
    (hostMac runtime host) (hostBootDisk runtime host) = .ok result at made
  unfold provisionAddressed at made
  by_cases noAddress : hostMac runtime host = []
  · rw [if_pos noAddress] at made
    cases made
    refine outcome_of_reason (by simp [installable, noAddress]) ?_ (List.append_nil _).symm (Or.inl rfl)
    show withholdingCodes.contains (text "VCF-PROV-NO-MAC") = true
    decide
  rw [if_neg noAddress] at made
  by_cases noDisk : hostBootDisk runtime host = []
  · rw [if_pos noDisk] at made
    cases made
    refine outcome_of_reason (by simp [installable, noDisk]) ?_ (List.append_nil _).symm (Or.inl rfl)
    show withholdingCodes.contains (text "VCF-PROV-NO-BOOT-DISK") = true
    decide
  rw [if_neg noDisk] at made
  have safe : bootDiskFinding (hostBootDisk runtime host) (hostPath index ++ text "/bootDisk")
      (hostName runtime host) = none ↔ safeBootDisk (hostBootDisk runtime host) = true :=
    bootDiskFinding_eq_none_iff
  cases checked : bootDiskFinding (hostBootDisk runtime host) (hostPath index ++ text "/bootDisk")
      (hostName runtime host) with
  | some reason =>
    rw [checked] at made safe
    cases made
    obtain ⟨withholds, path⟩ := bootDiskFinding_some checked
    have isUnsafe : safeBootDisk (hostBootDisk runtime host) = false := by
      rw [← Bool.not_eq_true, ← safe]
      exact Option.some_ne_none _
    exact outcome_of_reason (by simp [installable, isUnsafe]) withholds path (Or.inr (by decide))
  | none =>
    rw [checked] at made
    exact provisionDevices_outcome made
      (by simp [installable, noAddress, noDisk, safe.mp checked])

end VcfSpec

end LocalGpuCluster
