/-
This file models `device_findings` of `rules/devices.py`, the walk by which the validator asks what
the renderer asks of each host, and proves when the two agree. They ask the same functions, but not
the same ones of every host: the renderer leaves a host that it withholds, and the validator goes on
to its tiering, where a size or a ratio too large for a double raises.
-/

import LocalGpuCluster.ProvisionIdentity

namespace LocalGpuCluster

namespace VcfSpec

/-! ### The walk -/

/-- The device roles that the host declares, as `_DEVICE_ROLES` reads them. -/
def declaredRoles (runtime : Runtime) (host hardware : Mapping) : Run (List (Text × Text)) := do
  let boot ← deviceRole runtime host "bootDisk"
  let vsan ← deviceRole runtime hardware "vsanDevice"
  let tiering ← deviceRole runtime hardware "memoryTieringDevice"
  pure (boot ++ vsan ++ tiering)

/-- What is wrong with the boot disk, if anything is. -/
def bootDiskReason (bootDisk path name : Text) : Option Finding :=
  if bootDisk = [] then some (noBootDisk path name)
  else bootDiskFinding bootDisk (path ++ text "/bootDisk") name

/-- The loop body of `device_findings`. -/
def deviceHost (runtime : Runtime) (index : ℕ) (entry : Value) : Run (List Finding) := do
  let host := entry.asMapping
  let name ← runtime.str (host.getOr "name" (.str []))
  let hardware := (host.get "hardware").asMapping
  let bootDisk ← runtime.str ((host.get "bootDisk").orElse (.str []))
  let declared ← declaredRoles runtime host hardware
  let tiering ← tieringFindings runtime hardware (hostPath index ++ text "/hardware") name
  pure ((bootDiskReason bootDisk (hostPath index) name).toList ++
    (collisionFinding declared (hostPath index) name).toList ++ tiering)

/-- The loop, from an index on. -/
def deviceHosts (runtime : Runtime) : ℕ → List Value → Run (List Finding)
  | _, [] => pure []
  | index, host :: rest => do
    let findings ← deviceHost runtime index host
    let others ← deviceHosts runtime (index + 1) rest
    pure (findings ++ others)

/-- `device_findings`. -/
def deviceFindings (runtime : Runtime) (inventory : Mapping) : Run (List Finding) :=
  deviceHosts runtime 0 (hostsOf inventory)

/-! ### Findings about devices -/

/-- The findings about a boot disk or a collision. -/
def deviceCodes : List Text :=
  ["VCF-PROV-NO-BOOT-DISK", "VCF-PROV-BOOT-DISK-FIRSTDISK", "VCF-PROV-BOOT-DISK-RUNTIME-NAME",
    "VCF-PROV-BOOT-DISK-NOT-STABLE", "VCF-PROV-DEVICE-COLLISION"].map text

/-- The findings about tiering. -/
def tieringCodes : List Text :=
  ["VCF-PROV-NO-TIERING-DEVICE", "VCF-PROV-TIERING-DEVICE-NOT-STABLE",
    "VCF-PROV-TIERING-RATIO-UNSUPPORTED"].map text

/-- The finding has one of the codes. -/
def hasCode (codes : List Text) (finding : Finding) : Bool := codes.contains finding.code

/-- One of the findings has one of the codes, and is at the host with the index. -/
def reports (codes : List Text) (findings : List Finding) (index : ℕ) : Bool :=
  findings.any fun finding => hasCode codes finding && isAbout index finding

theorem hasCode_of_mem {codes : List String} {code : String} {finding : Finding}
    (isCode : finding.code = text code) (member : code ∈ codes) :
    hasCode (codes.map text) finding = true := by
  rw [hasCode, isCode]
  exact List.contains_iff_mem.mpr (List.mem_map_of_mem member)

theorem hasCode_disjoint {finding : Finding} (device : hasCode deviceCodes finding = true) :
    hasCode tieringCodes finding = false := by
  have apart : (deviceCodes.all fun code => !tieringCodes.contains code) = true := by decide +kernel
  have := List.all_eq_true.mp apart finding.code (List.contains_iff_mem.mp device)
  exact (Bool.not_eq_true' _).mp this

/-- What is about a device withholds the host. -/
theorem isWithholding_of_hasCode {finding : Finding} (device : hasCode deviceCodes finding = true) :
    isWithholding finding = true := by
  have within : (deviceCodes.all fun code => withholdingCodes.contains code) = true := by
    decide +kernel
  exact List.all_eq_true.mp within finding.code (List.contains_iff_mem.mp device)

theorem hasCode_of_harmless {finding : Finding} (harmless : isWithholding finding = false) :
    hasCode deviceCodes finding = false := by
  rw [← Bool.not_eq_true]
  intro device
  rw [isWithholding_of_hasCode device] at harmless
  cases harmless

theorem hasCode_bootDiskFinding {selector path name : Text} {finding : Finding}
    (found : bootDiskFinding selector path name = some finding) :
    hasCode deviceCodes finding = true := by
  unfold bootDiskFinding at found
  split at found
  · cases found
    exact hasCode_of_mem rfl (.tail _ (.head _))
  split at found
  · cases found
    exact hasCode_of_mem rfl (.tail _ (.tail _ (.head _)))
  split at found
  · cases found
    exact hasCode_of_mem rfl (.tail _ (.tail _ (.tail _ (.head _))))
  · cases found

theorem hasCode_collisionFrom {path name : Text} {seen roles : List (Text × Text)} {finding : Finding}
    (found : collisionFrom path name seen roles = some finding) :
    hasCode deviceCodes finding = true := by
  induction roles generalizing seen with
  | nil => cases found
  | cons role rest inductionHypothesis =>
    rw [collisionFrom] at found
    split at found
    · cases found
      exact hasCode_of_mem rfl (.tail _ (.tail _ (.tail _ (.tail _ (.head _)))))
    · exact inductionHypothesis found

theorem hasCode_tieringFindings {runtime : Runtime} {hardware : Mapping} {hwPath name : Text}
    {reasons : List Finding} (made : tieringFindings runtime hardware hwPath name = .ok reasons)
    {finding : Finding} (member : finding ∈ reasons) : hasCode tieringCodes finding = true := by
  unfold tieringFindings at made
  obtain ⟨tier, _, made⟩ := Run.bind_eq_ok.mp made
  split at made
  · cases made
    exact absurd member List.not_mem_nil
  obtain ⟨device, _, made⟩ := Run.bind_eq_ok.mp made
  split at made
  · cases made
    rw [List.mem_singleton.mp member]
    exact hasCode_of_mem rfl (.head _)
  split at made
  · cases made
    rw [List.mem_singleton.mp member]
    exact hasCode_of_mem rfl (.tail _ (.head _))
  obtain ⟨ram, _, made⟩ := Run.bind_eq_ok.mp made
  obtain ⟨ratio, _, made⟩ := Run.bind_eq_ok.mp made
  split at made
  · cases made
    exact absurd member List.not_mem_nil
  · cases made
    rw [List.mem_singleton.mp member]
    exact hasCode_of_mem rfl (.tail _ (.tail _ (.head _)))

/-! ### What the walk finds at a host -/

/-- The host has a boot disk that is safe, and no two roles name one device. -/
def deviceSafe (runtime : Runtime) (host : Mapping) : Bool :=
  hostBootDisk runtime host ≠ [] && safeBootDisk (hostBootDisk runtime host) &&
    devicesApart runtime host

/-- The devices of the hardware can be written, and the tiering computed. -/
structure HardwareReadable (runtime : Runtime) (hardware : Mapping) : Prop where
  vsanDevice : (hardware.get "vsanDevice").tooLong = false
  memoryTieringDevice : (hardware.get "memoryTieringDevice").tooLong = false
  tiering : TieringComputes runtime hardware

theorem bootDiskReason_isSome {runtime : Runtime} {host : Mapping} {path name : Text} :
    (bootDiskReason (hostBootDisk runtime host) path name).isSome = true ↔
      ¬(hostBootDisk runtime host ≠ [] ∧ safeBootDisk (hostBootDisk runtime host) = true) := by
  unfold bootDiskReason
  by_cases absent : hostBootDisk runtime host = []
  · rw [if_pos absent]
    exact iff_of_true rfl fun present => present.1 absent
  · have safe : bootDiskFinding (hostBootDisk runtime host) (path ++ text "/bootDisk") name = none ↔
        safeBootDisk (hostBootDisk runtime host) = true := bootDiskFinding_eq_none_iff
    rw [if_neg absent, and_iff_right absent, ← safe, Option.isSome_iff_ne_none]

/-- A finding about the boot disk is at the host or at its boot disk. -/
theorem bootDiskReason_some {bootDisk name : Text} {index : ℕ} {finding : Finding}
    (found : bootDiskReason bootDisk (hostPath index) name = some finding) :
    hasCode deviceCodes finding = true ∧ isAbout index finding = true := by
  unfold bootDiskReason at found
  split at found
  · cases found
    refine ⟨?_, isAbout_of_path (List.append_nil _).symm (Or.inl rfl)⟩
    exact hasCode_of_mem rfl (.head _)
  · exact ⟨hasCode_bootDiskFinding found,
      isAbout_of_path (bootDiskFinding_some found).2 (Or.inr (by decide))⟩

theorem collisionFinding_some {roles : List (Text × Text)} {name : Text} {index : ℕ} {finding : Finding}
    (found : collisionFinding roles (hostPath index) name = some finding) :
    hasCode deviceCodes finding = true ∧ isAbout index finding = true :=
  ⟨hasCode_collisionFrom found,
    isAbout_of_path ((collisionFrom_some found).2.trans (List.append_nil _).symm) (Or.inl rfl)⟩

theorem tieringFindings_about {runtime : Runtime} {hardware : Mapping} {name : Text} {index : ℕ}
    {reasons : List Finding}
    (made : tieringFindings runtime hardware (hostPath index ++ text "/hardware") name = .ok reasons)
    {finding : Finding} (member : finding ∈ reasons) : isAbout index finding = true := by
  obtain ⟨_, rest, path⟩ := mem_tieringFindings made member
  refine isAbout_of_path (path.trans (List.append_assoc _ _ _)) (Or.inr ?_)
  rw [List.head?_append_of_ne_nil _ (by decide)]
  decide

/-- A host with a boot disk declares the roles that the renderer reads. -/
theorem declaredRoles_eq_ok {runtime : Runtime} {host : Mapping} {roles : List (Text × Text)}
    (present : hostBootDisk runtime host ≠ [])
    (declared : declaredRoles runtime host (hostHardware host) = .ok roles) :
    deviceRoles runtime (hostBootDisk runtime host) (hostHardware host) = .ok roles := by
  unfold declaredRoles at declared
  obtain ⟨boot, isBoot, declared⟩ := Run.bind_eq_ok.mp declared
  obtain ⟨vsan, isVsan, declared⟩ := Run.bind_eq_ok.mp declared
  obtain ⟨tiering, isTiering, declared⟩ := Run.bind_eq_ok.mp declared
  have truthy : (host.get "bootDisk").truthy = true := by
    by_contra falsy
    exact present (by rw [hostBootDisk, Value.orElse, if_neg falsy]; rfl)
  have bootDisk : hostBootDisk runtime host = runtime.toBuiltins.str (host.get "bootDisk") := by
    rw [hostBootDisk, Value.orElse, if_pos truthy]
  rw [deviceRole, if_pos truthy] at isBoot
  obtain ⟨selector, isSelector, isBoot⟩ := Run.bind_eq_ok.mp isBoot
  obtain ⟨_, rfl⟩ := Runtime.str_eq_ok.mp isSelector
  cases isBoot
  cases declared
  rw [deviceRoles, isVsan, bootDisk]
  show (deviceRole runtime (hostHardware host) "memoryTieringDevice" >>= _) = _
  rw [isTiering]
  rfl

theorem returns_deviceRole {runtime : Runtime} {hardware : Mapping} {field : String} :
    (deviceRole runtime hardware field).Returns ↔ (hardware.get field).tooLong = false := by
  unfold deviceRole
  cases truthy : (hardware.get field).truthy with
  | true =>
    rw [if_pos rfl, Runtime.returns_bind_str]
    exact and_iff_left ⟨_, rfl⟩
  | false =>
    rw [if_neg Bool.false_ne_true]
    exact iff_of_true ⟨_, rfl⟩ (tooLong_of_falsy truthy)

/-- The loop body returns when the name, the devices and the tiering of the host can be read. -/
theorem returns_deviceHost {runtime : Runtime} {index : ℕ} {entry : Value} :
    (deviceHost runtime index entry).Returns ↔
      (entry.asMapping.getOr "name" (.str [])).tooLong = false ∧
        (entry.asMapping.get "bootDisk").tooLong = false ∧
        HardwareReadable runtime (hostHardware entry.asMapping) := by
  unfold deviceHost
  rw [Runtime.returns_bind_str, Runtime.returns_bind_str, tooLong_orElse, Run.returns_bind]
  refine and_congr_right fun _ => and_congr_right fun bootDisk => ?_
  constructor
  · rintro ⟨roles, declared, further⟩
    obtain ⟨reasons, made, _⟩ := Run.returns_bind.mp further
    obtain ⟨boot, _, declared⟩ := Run.bind_eq_ok.mp declared
    obtain ⟨vsan, isVsan, declared⟩ := Run.bind_eq_ok.mp declared
    obtain ⟨tiering, isTiering, _⟩ := Run.bind_eq_ok.mp declared
    exact ⟨returns_deviceRole.mp ⟨vsan, isVsan⟩, returns_deviceRole.mp ⟨tiering, isTiering⟩,
      returns_tieringFindings.mp ⟨reasons, made⟩⟩
  · rintro ⟨vsanDevice, memoryTieringDevice, computes⟩
    obtain ⟨boot, isBoot⟩ := returns_deviceRole.mpr bootDisk
    obtain ⟨vsan, isVsan⟩ := returns_deviceRole.mpr vsanDevice
    obtain ⟨tiering, isTiering⟩ := returns_deviceRole.mpr memoryTieringDevice
    obtain ⟨reasons, made⟩ := returns_tieringFindings.mpr computes
    exact ⟨_, Run.bind_eq_ok.mpr ⟨boot, isBoot, Run.bind_eq_ok.mpr ⟨vsan, isVsan,
      Run.bind_eq_ok.mpr ⟨tiering, isTiering, rfl⟩⟩⟩, Run.returns_bind.mpr ⟨reasons, made, _, rfl⟩⟩

/-- A host is not safe when its boot disk is not, or when two roles collide. -/
theorem deviceSafe_eq_false_iff {runtime : Runtime} {host : Mapping} {roles : List (Text × Text)}
    {path name : Text} (declared : declaredRoles runtime host (hostHardware host) = .ok roles) :
    deviceSafe runtime host = false ↔
      ¬(hostBootDisk runtime host ≠ [] ∧ safeBootDisk (hostBootDisk runtime host) = true) ∨
        (collisionFinding roles path name).isSome = true := by
  rw [← Bool.not_eq_true, deviceSafe, Bool.and_eq_true, Bool.and_eq_true, decide_eq_true_eq, not_and_or]
  by_cases present : hostBootDisk runtime host = []
  · exact iff_of_true (Or.inl fun both => both.1 present) (Or.inl fun both => both.1 present)
  · have apart : collisionFinding roles path name = none ↔ devicesApart runtime host = true :=
      collisionFinding_isNone (declaredRoles_eq_ok present declared)
    rw [← apart, Option.isSome_iff_ne_none]

/-- What the walk says of a host: its devices when they are not safe, and its tiering when the
renderer would leave it out. -/
structure DeviceFound (runtime : Runtime) (index : ℕ) (host : Mapping) (findings : List Finding) :
    Prop where
  about : ∀ finding ∈ findings, isAbout index finding = true
  devices : (∃ finding ∈ findings, hasCode deviceCodes finding = true) ↔
    deviceSafe runtime host = false
  tiering : ∃ reasons, tieringFindings runtime (hostHardware host)
      (hostPath index ++ text "/hardware") (hostName runtime host) = .ok reasons ∧
    ((∃ finding ∈ findings, hasCode tieringCodes finding = true) ↔ reasons ≠ [])

theorem DeviceFound.tiering_iff {runtime : Runtime} {index : ℕ} {host : Mapping}
    {findings : List Finding} (found : DeviceFound runtime index host findings) :
    (∃ finding ∈ findings, hasCode tieringCodes finding = true) ↔
      ∃ reasons, tieringFindings runtime (hostHardware host) (hostPath index ++ text "/hardware")
        (hostName runtime host) = .ok reasons ∧ reasons ≠ [] := by
  obtain ⟨reasons, made, reported⟩ := found.tiering
  rw [reported]
  exact ⟨fun present => ⟨reasons, made, present⟩,
    fun ⟨_, same, present⟩ => Except.ok.inj (same.symm.trans made) ▸ present⟩

theorem deviceHost_found {runtime : Runtime} {index : ℕ} {entry : Value} {findings : List Finding}
    (made : deviceHost runtime index entry = .ok findings) :
    DeviceFound runtime index entry.asMapping findings := by
  unfold deviceHost at made
  generalize entry.asMapping = host at made ⊢
  obtain ⟨name, isName, made⟩ := Run.bind_eq_ok.mp made
  obtain ⟨bootDisk, isBootDisk, made⟩ := Run.bind_eq_ok.mp made
  obtain ⟨roles, declared, made⟩ := Run.bind_eq_ok.mp made
  obtain ⟨reasons, isReasons, made⟩ := Run.bind_eq_ok.mp made
  obtain ⟨_, rfl⟩ := Runtime.str_eq_ok.mp isName
  obtain ⟨_, rfl⟩ := Runtime.str_eq_ok.mp isBootDisk
  cases made
  change tieringFindings runtime (hostHardware host) (hostPath index ++ text "/hardware")
    (hostName runtime host) = .ok reasons at isReasons
  change declaredRoles runtime host (hostHardware host) = .ok roles at declared
  show DeviceFound runtime index host
    ((bootDiskReason (hostBootDisk runtime host) (hostPath index) (hostName runtime host)).toList ++
      (collisionFinding roles (hostPath index) (hostName runtime host)).toList ++ reasons)
  have ofDisk {finding : Finding} (member : finding ∈ (bootDiskReason (hostBootDisk runtime host)
      (hostPath index) (hostName runtime host)).toList) :=
    bootDiskReason_some (Option.mem_toList.mp member)
  have ofCollision {finding : Finding} (member : finding ∈ (collisionFinding roles (hostPath index)
      (hostName runtime host)).toList) := collisionFinding_some (Option.mem_toList.mp member)
  have ofTiering {finding : Finding} (member : finding ∈ reasons) :=
    And.intro (hasCode_tieringFindings isReasons member) (tieringFindings_about isReasons member)
  refine ⟨fun finding member => ?_, ?_, reasons, isReasons, ?_⟩
  · obtain (disk | collision) | tiering := (List.mem_append.trans
      (or_congr_left List.mem_append)).mp member
    · exact (ofDisk disk).2
    · exact (ofCollision collision).2
    · exact (ofTiering tiering).2
  · rw [deviceSafe_eq_false_iff declared, ← bootDiskReason_isSome, ← Bool.or_eq_true]
    constructor
    · rintro ⟨finding, member, device⟩
      obtain (disk | collision) | tiering := (List.mem_append.trans
        (or_congr_left List.mem_append)).mp member
      · rw [Option.isSome_of_mem (Option.mem_toList.mp disk), Bool.true_or]
      · rw [Option.isSome_of_mem (Option.mem_toList.mp collision), Bool.or_true]
      · have := hasCode_disjoint device
        rw [(ofTiering tiering).1] at this
        cases this
    · intro either
      obtain disk | collision := (Bool.or_eq_true ..).mp either
      · obtain ⟨finding, found⟩ := Option.isSome_iff_exists.mp disk
        have member := Option.mem_toList.mpr found
        exact ⟨finding, List.mem_append_left _ (List.mem_append_left _ member), (ofDisk member).1⟩
      · obtain ⟨finding, found⟩ := Option.isSome_iff_exists.mp collision
        have member := Option.mem_toList.mpr found
        exact ⟨finding, List.mem_append_left _ (List.mem_append_right _ member), (ofCollision member).1⟩
  · constructor
    · rintro ⟨finding, member, tiering⟩ noReason
      obtain device | inReasons := List.mem_append.mp member
      · have isDevice : hasCode deviceCodes finding = true :=
          (List.mem_append.mp device).elim (fun disk => (ofDisk disk).1) fun collision =>
            (ofCollision collision).1
        rw [hasCode_disjoint isDevice] at tiering
        cases tiering
      · exact List.not_mem_nil (noReason ▸ inReasons)
    · intro someReason
      obtain ⟨finding, member⟩ := List.exists_mem_of_ne_nil _ someReason
      exact ⟨finding, List.mem_append_right _ member, (ofTiering member).1⟩

/-! ### What is reported of a host -/

/-- Findings that were made host by host report of a host what was found there. -/
theorem reports_flatMap_iff {Result : Type} {Made : Entry → Result → Prop}
    {findingsOf : Result → List Finding} {codes : List Text} {Holds : Entry → Prop}
    {hosts : List Value} {results : List Result} {earlier : List Finding}
    (made : List.Forall₂ Made hosts.zipIdx results)
    (about : ∀ entry result, Made entry result → ∀ finding ∈ findingsOf result,
      isAbout entry.2 finding = true)
    (found : ∀ entry result, Made entry result →
      ((∃ finding ∈ findingsOf result, hasCode codes finding = true) ↔ Holds entry))
    (elsewhere : ∀ finding ∈ earlier, hasCode codes finding = false) {entry : Entry}
    (member : entry ∈ hosts.zipIdx) :
    reports codes (earlier ++ results.flatMap findingsOf) entry.2 = true ↔ Holds entry := by
  constructor
  · intro reported
    obtain ⟨finding, inFindings, both⟩ := List.any_eq_true.mp reported
    obtain ⟨coded, aboutEntry⟩ := (Bool.and_eq_true ..).mp both
    obtain inEarlier | inResults := List.mem_append.mp inFindings
    · rw [elsewhere finding inEarlier] at coded
      cases coded
    obtain ⟨result, isResult, inResult⟩ := List.mem_flatMap.mp inResults
    obtain ⟨other, inEntries, ofOther⟩ := Matching.exists_left made isResult
    have indices := isAbout_unique (about other result ofOther finding inResult) aboutEntry
    rw [← entry_eq_of_index inEntries member indices]
    exact (found other result ofOther).mp ⟨finding, inResult, coded⟩
  · intro holds
    obtain ⟨result, isResult, ofEntry⟩ := Matching.exists_right made member
    obtain ⟨finding, inResult, coded⟩ := (found entry result ofEntry).mpr holds
    refine List.any_eq_true.mpr ⟨finding,
      List.mem_append_right _ (List.mem_flatMap.mpr ⟨result, isResult, inResult⟩), ?_⟩
    rw [coded, about entry result ofEntry finding inResult]
    rfl

/-- The walk looks at each host once. -/
theorem deviceHosts_eq_ok {runtime : Runtime} {start : ℕ} {hosts : List Value}
    {findings : List Finding} (made : deviceHosts runtime start hosts = .ok findings) :
    ∃ results, List.Forall₂ (fun entry result => DeviceFound runtime entry.2 entry.1.asMapping result)
      (hosts.zipIdx start) results ∧ results.flatMap id = findings := by
  induction hosts generalizing start findings with
  | nil => exact ⟨[], .nil, Except.ok.inj made⟩
  | cons host rest inductionHypothesis =>
    unfold deviceHosts at made
    obtain ⟨first, isFirst, made⟩ := Run.bind_eq_ok.mp made
    obtain ⟨others, isOthers, made⟩ := Run.bind_eq_ok.mp made
    obtain ⟨results, found, rfl⟩ := inductionHypothesis isOthers
    exact ⟨first :: results, .cons (deviceHost_found isFirst) found, Except.ok.inj made⟩

/-- The walk reports of a host what it found there. -/
theorem reports_deviceFindings {runtime : Runtime} {inventory : Mapping} {findings : List Finding}
    (made : deviceFindings runtime inventory = .ok findings) {entry : Entry}
    (member : entry ∈ (hostsOf inventory).zipIdx) {codes : List Text} {Holds : Entry → Prop}
    (found : ∀ entry result, DeviceFound runtime entry.2 entry.1.asMapping result →
      ((∃ finding ∈ result, hasCode codes finding = true) ↔ Holds entry)) :
    reports codes findings entry.2 = true ↔ Holds entry := by
  obtain ⟨walked, each, rfl⟩ := deviceHosts_eq_ok made
  have reported : reports codes ([] ++ walked.flatMap id) entry.2 = true ↔ Holds entry :=
    reports_flatMap_iff each (fun _ _ spec => spec.about) found
      (fun _ inNil => absurd inNil List.not_mem_nil) member
  rwa [List.nil_append] at reported

theorem returns_deviceHosts {runtime : Runtime} {start : ℕ} {hosts : List Value} :
    (deviceHosts runtime start hosts).Returns ↔
      ∀ host ∈ hosts, (host.asMapping.getOr "name" (.str [])).tooLong = false ∧
        (host.asMapping.get "bootDisk").tooLong = false ∧
        HardwareReadable runtime (hostHardware host.asMapping) := by
  induction hosts generalizing start with
  | nil => exact iff_of_true ⟨_, rfl⟩ fun _ member => absurd member List.not_mem_nil
  | cons host rest inductionHypothesis =>
    unfold deviceHosts
    rw [Run.returns_bind, List.forall_mem_cons]
    constructor
    · rintro ⟨first, isFirst, further⟩
      obtain ⟨others, isOthers, _⟩ := Run.returns_bind.mp further
      exact ⟨returns_deviceHost.mp ⟨first, isFirst⟩, inductionHypothesis.mp ⟨others, isOthers⟩⟩
    · rintro ⟨readable, further⟩
      obtain ⟨first, isFirst⟩ := returns_deviceHost.mpr readable
      obtain ⟨others, isOthers⟩ := inductionHypothesis.mpr further
      exact ⟨first, isFirst, Run.returns_bind.mpr ⟨others, isOthers, _, rfl⟩⟩

/-! ### Tiers -/

theorem unpack_zero : (Float.Model.ofInt 0).unpack = .zero .positive := by rfl

/-- What is neither a number nor zero nor negative is positive. -/
theorem Double.pos_of_not_le {value : Double} (isNumber : value.isNaN = false)
    (notLe : ¬value ≤ Float.Model.ofInt 0) : Float.Model.ofInt 0 < value := by
  change ¬value.unpack.le (Float.Model.ofInt 0).unpack = true at notLe
  change (Float.Model.ofInt 0).unpack.lt value.unpack = true
  change value.unpack.isNaN = false at isNumber
  rw [unpack_zero] at notLe ⊢
  generalize value.unpack = unpacked at notLe isNumber ⊢
  cases unpacked with
  | notANumber => cases isNumber
  | infinity sign => cases sign <;> first | rfl | exact absurd rfl notLe
  | zero sign => exact absurd (by cases sign <;> rfl) notLe
  | finite sign => cases sign <;> first | rfl | exact absurd rfl notLe

theorem Double.not_le_of_pos {value : Double} (positive : Float.Model.ofInt 0 < value) :
    ¬value ≤ Float.Model.ofInt 0 := by
  change (Float.Model.ofInt 0).unpack.lt value.unpack = true at positive
  change ¬value.unpack.le (Float.Model.ofInt 0).unpack = true
  rw [unpack_zero] at positive ⊢
  generalize value.unpack = unpacked at positive ⊢
  cases unpacked with
  | notANumber => cases positive
  | infinity sign => cases sign <;> first | exact Bool.false_ne_true | cases positive
  | zero sign => cases sign <;> cases positive
  | finite sign => cases sign <;> first | exact Bool.false_ne_true | cases positive

/-- No ratio is computed of what is not a number. -/
theorem tierRatioPct_of_isNaN {tier ram : Double} (noNumber : tier.isNaN = true)
    (someRam : ¬ram ≤ Float.Model.ofInt 0) : tierRatioPct tier ram = .error .valueError := by
  have unpacked : tier.unpack = .notANumber := by
    change tier.unpack.isNaN = true at noNumber
    generalize tier.unpack = unpacked at noNumber ⊢
    cases unpacked <;> first | rfl | cases noNumber
  have packed : (Float.Model.pack .notANumber).unpack = .notANumber := rfl
  have quotient : (tier / ram).unpack = .notANumber := by
    show (Float.Model.pack (tier.unpack.div .binary64 ram.unpack)).unpack = .notANumber
    rw [unpacked]
    exact packed
  have ratio : (tier / ram * Float.Model.ofInt 100).unpack = .notANumber := by
    show (Float.Model.pack ((tier / ram).unpack.mul .binary64 (Float.Model.ofInt 100).unpack)).unpack =
      .notANumber
    rw [quotient]
    exact packed
  rw [tierRatioPct, if_neg someRam, Double.round, ratio]
  rfl

/-- The hardware declares a tier of some size. -/
def declaresTiering (hardware : Mapping) : Prop :=
  ∃ tier, (hardware.get "memoryTieringGb").toFloat = .ok tier ∧ Float.Model.ofInt 0 < tier

/-- The block that enables the tier on the device that the hardware names for it. -/
def isTieringBlock (runtime : Runtime) (hardware : Mapping) (block : Text) : Prop :=
  ∃ tier ram ratio, (hardware.get "memoryTieringGb").toFloat = .ok tier ∧
    (hardware.get "ramGb").toFloat = .ok ram ∧ tierRatioPct tier ram = .ok ratio ∧
    block = memoryTieringBlock runtime (devicePath (runtime.toBuiltins.str
      ((hardware.get "memoryTieringDevice").orElse (.str [])))) ratio tier ram

theorem memoryTiering_ne_nil (tieringDevice ratio tierGb ramGb : Text) :
    memoryTiering tieringDevice ratio tierGb ramGb ≠ [] := by
  unfold memoryTiering
  exact List.append_ne_nil_of_right_ne_nil _ (by decide)

theorem isTieringBlock.ne_nil {runtime : Runtime} {hardware : Mapping} {block : Text}
    (isBlock : isTieringBlock runtime hardware block) : block ≠ [] := by
  obtain ⟨tier, ram, ratio, _, _, _, same⟩ := isBlock
  rw [same]
  exact memoryTiering_ne_nil _ _ _ _

/-- Without a finding a tier that is not zero or negative has a ratio that ESX accepts. -/
theorem ratio_of_no_reason {runtime : Runtime} {hardware : Mapping} {hwPath name : Text}
    (made : tieringFindings runtime hardware hwPath name = .ok []) {tier : Double}
    (isTier : (hardware.get "memoryTieringGb").toFloat = .ok tier)
    (declared : ¬tier ≤ Float.Model.ofInt 0) :
    ∃ ram ratio, (hardware.get "ramGb").toFloat = .ok ram ∧ tierRatioPct tier ram = .ok ratio ∧
      minTierRatioPct ≤ ratio := by
  have stable := stable_of_no_reason made isTier declared
  unfold tieringFindings at made
  obtain ⟨_, isTier', made⟩ := Run.bind_eq_ok.mp made
  obtain rfl := Except.ok.inj (isTier.symm.trans isTier')
  rw [if_neg declared] at made
  obtain ⟨device, isDevice, made⟩ := Run.bind_eq_ok.mp made
  obtain ⟨_, rfl⟩ := Runtime.str_eq_ok.mp isDevice
  have present : runtime.toBuiltins.str ((hardware.get "memoryTieringDevice").orElse (.str [])) ≠ [] := by
    intro absent
    rw [absent, isStableDisk_nil] at stable
    cases stable
  rw [if_neg present, stable, Bool.not_true, if_neg Bool.false_ne_true] at made
  obtain ⟨ram, isRam, made⟩ := Run.bind_eq_ok.mp made
  obtain ⟨ratio, isRatio, made⟩ := Run.bind_eq_ok.mp made
  split at made
  · rename_i accepted
    exact ⟨ram, ratio, isRam, isRatio, accepted.1⟩
  · cases made

/-- There is a block when a tier is declared and nothing was found about it. -/
theorem tieringBlock_spec {runtime : Runtime} {hardware : Mapping} {hwPath name tiering : Text}
    {findings reasons : List Finding}
    (made : tieringBlock runtime hardware hwPath name = .ok (tiering, findings))
    (isReasons : tieringFindings runtime hardware hwPath name = .ok reasons) :
    (tiering ≠ [] ↔ declaresTiering hardware ∧ reasons = []) ∧
      (tiering ≠ [] → isTieringBlock runtime hardware tiering) := by
  unfold tieringBlock at made
  obtain ⟨_, isReasons', made⟩ := Run.bind_eq_ok.mp made
  obtain rfl := Except.ok.inj (isReasons.symm.trans isReasons')
  cases reasons with
  | cons reason rest =>
    cases made
    exact ⟨iff_of_false (fun present => present rfl) fun both => List.cons_ne_nil _ _ both.2,
      fun present => absurd rfl present⟩
  | nil =>
    rw [List.isEmpty_nil, Bool.not_true, if_neg Bool.false_ne_true] at made
    obtain ⟨tier, isTier, made⟩ := Run.bind_eq_ok.mp made
    by_cases notDeclared : tier ≤ Float.Model.ofInt 0
    · rw [if_pos notDeclared] at made
      cases made
      refine ⟨iff_of_false (fun present => present rfl) ?_, fun present => absurd rfl present⟩
      rintro ⟨⟨other, isOther, positive⟩, _⟩
      obtain rfl := Except.ok.inj (isTier.symm.trans isOther)
      exact Double.not_le_of_pos positive notDeclared
    · rw [if_neg notDeclared] at made
      obtain ⟨device, isDevice, made⟩ := Run.bind_eq_ok.mp made
      obtain ⟨_, rfl⟩ := Runtime.str_eq_ok.mp isDevice
      obtain ⟨ram, isRam, made⟩ := Run.bind_eq_ok.mp made
      obtain ⟨ratio, isRatio, made⟩ := Run.bind_eq_ok.mp made
      have isBlock : isTieringBlock runtime hardware tiering :=
        ⟨tier, ram, ratio, isTier, isRam, isRatio, (congrArg Prod.fst (Except.ok.inj made)).symm⟩
      refine ⟨iff_of_true isBlock.ne_nil ⟨⟨tier, isTier, ?_⟩, rfl⟩, fun _ => isBlock⟩
      obtain ⟨_, accepted, isRam', isAccepted, positive⟩ := ratio_of_no_reason isReasons isTier notDeclared
      obtain rfl := Except.ok.inj (isRam.symm.trans isRam')
      refine Double.pos_of_not_le ?_ notDeclared
      by_contra noNumber
      by_cases noRam : ram ≤ Float.Model.ofInt 0
      · rw [tierRatioPct, if_pos noRam] at isAccepted
        cases isAccepted
        exact absurd positive (by decide)
      · rw [tierRatioPct_of_isNaN (Bool.not_eq_false _ ▸ noNumber) noRam] at isAccepted
        cases isAccepted

/-! ### What the renderer makes of a host -/

/-- The files of a host, with the text that was rendered for its tiering. -/
def renderedWith (runtime : Runtime) (site : Site) (esxBootCfg : Option Text) (host : Mapping)
    (tiering : Text) : Run HostArtifacts :=
  renderHost runtime site esxBootCfg host (hostHardware host) (hostName runtime host)
    (hostMac runtime host) (hostBootDisk runtime host) tiering

/-- The renderer reports of a host with a MAC address that its devices are not safe, and renders the
others with the block for their tiering. -/
structure DeviceOutcome (runtime : Runtime) (site : Site) (esxBootCfg : Option Text) (index : ℕ)
    (host : Mapping) (result : HostResult) : Prop where
  about : ∀ finding ∈ result.findings, isAbout index finding = true
  devices : (∃ finding ∈ result.findings, hasCode deviceCodes finding = true) ↔
    deviceSafe runtime host = false
  files : ∀ files ∈ result.artifacts, deviceSafe runtime host = true ∧ ∃ tiering findings,
    tieringBlock runtime (hostHardware host) (hostPath index ++ text "/hardware")
      (hostName runtime host) = .ok (tiering, findings) ∧
    renderedWith runtime site esxBootCfg host tiering = .ok files

/-- A host that is withheld because of a device. -/
theorem deviceOutcome_of_reason {runtime : Runtime} {site : Site} {esxBootCfg : Option Text} {index : ℕ}
    {host : Mapping} {finding : Finding} (notSafe : deviceSafe runtime host = false)
    (reason : hasCode deviceCodes finding = true ∧ isAbout index finding = true) :
    DeviceOutcome runtime site esxBootCfg index host ⟨[finding], none⟩ where
  about := fun other member => by
    rw [List.mem_singleton.mp member]
    exact reason.2
  devices := iff_of_true ⟨finding, List.mem_singleton_self _, reason.1⟩ notSafe
  files := fun _ member => absurd member (Option.not_mem_none _)

/-- From the VMFS mode on nothing is found about a device. -/
theorem provisionFiles_deviceOutcome {runtime : Runtime} {site : Site} {esxBootCfg : Option Text}
    {tiering : Text} {index : ℕ} {host : Mapping} {findings : List Finding} {result : HostResult}
    (made : provisionFiles runtime site esxBootCfg index host (hostName runtime host)
      (hostMac runtime host) (hostBootDisk runtime host) tiering findings = .ok result)
    (safe : deviceSafe runtime host = true)
    (tiered : tieringBlock runtime (hostHardware host) (hostPath index ++ text "/hardware")
      (hostName runtime host) = .ok (tiering, findings)) :
    DeviceOutcome runtime site esxBootCfg index host result := by
  have ofTiering (finding : Finding) (member : finding ∈ findings) :
      isAbout index finding = true ∧ hasCode deviceCodes finding = false := by
    obtain ⟨harmless, rest, path⟩ := mem_tieringBlock tiered member
    refine ⟨isAbout_of_path (path.trans (List.append_assoc _ _ _)) (Or.inr ?_),
      hasCode_of_harmless harmless⟩
    rw [List.head?_append_of_ne_nil _ (by decide)]
    decide
  have unsafeNot : ¬deviceSafe runtime host = false := by
    rw [safe]
    decide
  unfold provisionFiles at made
  dsimp only at made
  split at made
  · obtain ⟨files, rendered, made⟩ := Run.bind_eq_ok.mp made
    cases made
    refine ⟨fun finding member => (ofTiering finding member).1, iff_of_false ?_ unsafeNot, ?_⟩
    · rintro ⟨finding, member, device⟩
      rw [(ofTiering finding member).2] at device
      cases device
    · rintro _ ⟨rfl⟩
      exact ⟨safe, tiering, findings, tiered, rendered⟩
  · obtain ⟨mode, _, made⟩ := Run.bind_eq_ok.mp made
    cases made
    refine ⟨fun finding member => ?_, iff_of_false ?_ unsafeNot,
      fun _ member => absurd member (Option.not_mem_none _)⟩
    · obtain earlier | last := List.mem_append.mp member
      · exact (ofTiering finding earlier).1
      · rw [List.mem_singleton.mp last]
        exact isAbout_of_path rfl (Or.inr (by decide))
    · rintro ⟨finding, member, device⟩
      obtain earlier | last := List.mem_append.mp member
      · rw [(ofTiering finding earlier).2] at device
        cases device
      · rw [List.mem_singleton.mp last] at device
        change deviceCodes.contains (text "VCF-PROV-BOOT-VMFS-MODE") = true at device
        exact absurd device (by decide +kernel)

/-- What the loop body of the renderer makes of a host with a MAC address. -/
theorem provisionHost_deviceOutcome {runtime : Runtime} {site : Site} {esxBootCfg : Option Text}
    {index : ℕ} {entry : Value} {result : HostResult}
    (made : provisionHost runtime site esxBootCfg index entry = .ok result)
    (addressed : hostMac runtime entry.asMapping ≠ []) :
    DeviceOutcome runtime site esxBootCfg index entry.asMapping result := by
  unfold provisionHost at made
  generalize entry.asMapping = host at made addressed ⊢
  obtain ⟨mac, isMac, made⟩ := Run.bind_eq_ok.mp made
  obtain ⟨bootDisk, isBootDisk, made⟩ := Run.bind_eq_ok.mp made
  obtain ⟨name, isName, made⟩ := Run.bind_eq_ok.mp made
  obtain ⟨_, rfl⟩ := Runtime.str_eq_ok.mp isMac
  obtain ⟨_, rfl⟩ := Runtime.str_eq_ok.mp isBootDisk
  obtain ⟨_, rfl⟩ := Runtime.str_eq_ok.mp isName
  change provisionAddressed runtime site esxBootCfg index host (hostName runtime host)
    (hostMac runtime host) (hostBootDisk runtime host) = .ok result at made
  have ofDisk {finding : Finding}
      (found : bootDiskReason (hostBootDisk runtime host) (hostPath index) (hostName runtime host) =
        some finding) : DeviceOutcome runtime site esxBootCfg index host ⟨[finding], none⟩ := by
    refine deviceOutcome_of_reason ?_ (bootDiskReason_some found)
    have disk := bootDiskReason_isSome.mp (Option.isSome_of_mem found)
    rw [← Bool.not_eq_true, deviceSafe, Bool.and_eq_true, Bool.and_eq_true, decide_eq_true_eq]
    exact fun both => disk both.1
  unfold provisionAddressed at made
  rw [if_neg addressed] at made
  by_cases absent : hostBootDisk runtime host = []
  · rw [if_pos absent] at made
    cases made
    exact ofDisk (if_pos absent)
  rw [if_neg absent] at made
  cases checked : bootDiskFinding (hostBootDisk runtime host) (hostPath index ++ text "/bootDisk")
      (hostName runtime host) with
  | some reason =>
    rw [checked] at made
    cases made
    exact ofDisk ((if_neg absent).trans checked)
  | none =>
    rw [checked] at made
    have diskSafe := bootDiskFinding_eq_none_iff.mp checked
    unfold provisionDevices at made
    obtain ⟨roles, found, made⟩ := Run.bind_eq_ok.mp made
    have safeIff : deviceSafe runtime host = devicesApart runtime host := by
      rw [deviceSafe, diskSafe, decide_eq_true absent]
      rfl
    cases collision : collisionFinding roles (hostPath index) (hostName runtime host) with
    | some reason =>
      rw [collision] at made
      cases made
      refine deviceOutcome_of_reason ?_ (collisionFinding_some collision)
      rw [safeIff, ← Bool.not_eq_true, ← collisionFinding_isNone found, collision]
      exact Option.some_ne_none _
    | none =>
      rw [collision] at made
      obtain ⟨⟨tiering, findings⟩, tiered, made⟩ := Run.bind_eq_ok.mp made
      exact provisionFiles_deviceOutcome made
        (safeIff.trans ((collisionFinding_isNone found).mp collision)) tiered

/-! ### The validator and the renderer -/

/-- The validator returns, and reports one of the codes at the host with the index. -/
def isReported (runtime : Runtime) (inventory : Mapping) (codes : List Text) (index : ℕ) : Prop :=
  ∃ findings, deviceFindings runtime inventory = .ok findings ∧ reports codes findings index = true

/-- The kickstart is what was rendered for the host, with the text in it that was rendered for its
tiering. -/
def isKickstartOf (runtime : Runtime) (inventory : Mapping) (esxBootCfg : Option Text)
    (checked : Checked) (host : Mapping) (tiering : Text) (kickstart : Text × Text) : Prop :=
  tiering <:+: kickstart.2 ∧ ∃ site findings files,
    siteOf runtime inventory esxBootCfg checked = .ok (site, findings) ∧
    renderedWith runtime site esxBootCfg host tiering = .ok files ∧
    kickstart = (files.kickstartName, files.kickstart)

/-- The renderer withholds the hosts whose devices the validator reports, and what it renders has
the tiering block where a tier is declared and the validator reports nothing about it. -/
structure DevicesAgree (runtime : Runtime) (inventory : Mapping) (esxBootCfg : Option Text)
    (checked : Checked) (artifacts : ProvisioningArtifacts) : Prop where
  withheld : ∀ entry ∈ (hostsOf inventory).zipIdx,
    (reports deviceCodes artifacts.findings entry.2 = true ↔
      isReported runtime inventory deviceCodes entry.2)
  emitted : ∀ kickstart ∈ artifacts.kickstarts, ∃ entry ∈ (hostsOf inventory).zipIdx, ∃ tiering,
    isKickstartOf runtime inventory esxBootCfg checked entry.1.asMapping tiering kickstart ∧
    reports deviceCodes artifacts.findings entry.2 = false ∧
    (tiering ≠ [] ↔ declaresTiering (hostHardware entry.1.asMapping) ∧
      ¬isReported runtime inventory tieringCodes entry.2) ∧
    (tiering ≠ [] → isTieringBlock runtime (hostHardware entry.1.asMapping) tiering)

theorem tiering_carried {runtime : Runtime} {site : Site} {esxBootCfg : Option Text} {host : Mapping}
    {tiering : Text} {files : HostArtifacts}
    (rendered : renderedWith runtime site esxBootCfg host tiering = .ok files) :
    tiering <:+: files.kickstart := by
  unfold renderedWith renderHost at rendered
  obtain ⟨ip, _, rendered⟩ := Run.bind_eq_ok.mp rendered
  obtain ⟨gateway, _, rendered⟩ := Run.bind_eq_ok.mp rendered
  obtain ⟨mtu, _, rendered⟩ := Run.bind_eq_ok.mp rendered
  obtain ⟨workarounds, _, rendered⟩ := Run.bind_eq_ok.mp rendered
  have kickstart := congrArg HostArtifacts.kickstart (Except.ok.inj rendered)
  rw [← kickstart]
  refine List.IsInfix.trans ?_ (List.suffix_append _ _).isInfix
  exact List.IsInfix.trans (List.suffix_append _ _).isInfix
    ((List.prefix_append _ _).trans (List.prefix_append _ _)).isInfix

/-- Of a document that was rendered the hosts with safe devices can be read by the validator. -/
theorem readable_of_writable {runtime : Runtime} {inventory host : Mapping}
    (writable : HostWritable runtime host inventory) (addressed : hostMac runtime host ≠ [])
    (safe : deviceSafe runtime host = true) : HardwareReadable runtime (hostHardware host) := by
  obtain ⟨disk, apart⟩ := (Bool.and_eq_true ..).mp safe
  obtain ⟨present, stable⟩ := (Bool.and_eq_true ..).mp disk
  have devices := writable.devices addressed (of_decide_eq_true present) stable
  exact ⟨devices.vsanDevice, devices.memoryTieringDevice, (devices.apart apart).1⟩

theorem mem_of_mem_zipIdx {hosts : List Value} {entry : Entry} (member : entry ∈ hosts.zipIdx) :
    entry.1 ∈ hosts :=
  (List.mem_zipIdx' member).2 ▸ List.getElem_mem _

/-- Every host of a document that was rendered comes out as its devices say. -/
theorem renderProvisioning_outcomes {runtime : Runtime} {inventory : Mapping}
    {esxBootCfg : Option Text} {checked : Checked} {artifacts : ProvisioningArtifacts}
    (passes : documentChecks runtime inventory = .ok (.inr checked))
    (addressed : ∀ host ∈ hostsOf inventory, hostMac runtime host.asMapping ≠ [])
    (made : renderProvisioning runtime inventory esxBootCfg = .ok artifacts) :
    ∃ site siteFindings results, siteOf runtime inventory esxBootCfg checked = .ok (site, siteFindings) ∧
      List.Forall₂ (fun entry result => DeviceOutcome runtime site esxBootCfg entry.2
        entry.1.asMapping result) (hostsOf inventory).zipIdx results ∧
      artifacts.kickstarts = Dictionary.fill [] (results.flatMap HostResult.kickstarts) ∧
      artifacts.findings = siteFindings ++ results.flatMap HostResult.findings := by
  obtain ⟨site, siteFindings, results, isSite, each, kickstarts, _, all⟩ :=
    renderProvisioning_results passes made
  refine ⟨site, siteFindings, results, isSite, ?_, kickstarts, all⟩
  exact Matching.imp_of_mem each fun entry member result _ isResult =>
    provisionHost_deviceOutcome isResult (addressed entry.1 (mem_of_mem_zipIdx member))

/-- The renderer reports the hosts whose devices are not safe. -/
theorem reports_artifacts_iff {runtime : Runtime} {inventory : Mapping} {esxBootCfg : Option Text}
    {checked : Checked} {artifacts : ProvisioningArtifacts}
    (passes : documentChecks runtime inventory = .ok (.inr checked))
    (addressed : ∀ host ∈ hostsOf inventory, hostMac runtime host.asMapping ≠ [])
    (made : renderProvisioning runtime inventory esxBootCfg = .ok artifacts) {entry : Entry}
    (member : entry ∈ (hostsOf inventory).zipIdx) :
    reports deviceCodes artifacts.findings entry.2 = true ↔
      deviceSafe runtime entry.1.asMapping = false := by
  obtain ⟨site, siteFindings, results, isSite, outcomes, _, all⟩ :=
    renderProvisioning_outcomes passes addressed made
  rw [all]
  exact reports_flatMap_iff outcomes (fun _ _ outcome => outcome.about)
    (fun _ _ outcome => outcome.devices)
    (fun finding inSite => hasCode_of_harmless ((siteOf_eq_ok isSite).2 finding inSite)) member

/-- A host that is withheld because of a device is reported only by a validator that returns. -/
theorem readable_of_agree {runtime : Runtime} {inventory : Mapping} {esxBootCfg : Option Text}
    {checked : Checked} {artifacts : ProvisioningArtifacts}
    (passes : documentChecks runtime inventory = .ok (.inr checked))
    (addressed : ∀ host ∈ hostsOf inventory, hostMac runtime host.asMapping ≠ [])
    (made : renderProvisioning runtime inventory esxBootCfg = .ok artifacts)
    (agree : DevicesAgree runtime inventory esxBootCfg checked artifacts) :
    ∀ host ∈ hostsOf inventory, deviceSafe runtime host.asMapping = false →
      HardwareReadable runtime (hostHardware host.asMapping) := by
  intro host inventoried notSafe
  obtain ⟨index, small, same⟩ := List.getElem_of_mem inventoried
  have member : (host, index) ∈ (hostsOf inventory).zipIdx :=
    List.mem_zipIdx_iff_getElem?.mpr (List.getElem?_eq_some_iff.mpr ⟨small, same⟩)
  have withheld := (reports_artifacts_iff passes addressed made member).mpr notSafe
  obtain ⟨findings, isFindings, _⟩ := (agree.withheld _ member).mp withheld
  exact (returns_deviceHosts.mp ⟨findings, isFindings⟩ host inventoried).2.2

/-- The renderer and the validator agree exactly when the hardware of every host that is withheld
because of a device can be read and its tiering computed. -/
theorem devicesAgree_iff {runtime : Runtime} {inventory : Mapping} {esxBootCfg : Option Text}
    {checked : Checked} {artifacts : ProvisioningArtifacts}
    (passes : documentChecks runtime inventory = .ok (.inr checked))
    (addressed : ∀ host ∈ hostsOf inventory, hostMac runtime host.asMapping ≠ [])
    (made : renderProvisioning runtime inventory esxBootCfg = .ok artifacts) :
    DevicesAgree runtime inventory esxBootCfg checked artifacts ↔
      ∀ host ∈ hostsOf inventory, deviceSafe runtime host.asMapping = false →
        HardwareReadable runtime (hostHardware host.asMapping) := by
  refine ⟨readable_of_agree passes addressed made, fun readable => ?_⟩
  have writable := ((returns_renderProvisioning passes).mp ⟨artifacts, made⟩).2
  obtain ⟨findings, isFindings⟩ : (deviceFindings runtime inventory).Returns := by
    refine returns_deviceHosts.mpr fun host member => ?_
    refine ⟨(writable host member).name, (writable host member).bootDisk, ?_⟩
    cases safe : deviceSafe runtime host.asMapping with
    | false => exact readable host member safe
    | true => exact readable_of_writable (writable host member) (addressed host member) safe
  have reported {codes : List Text} {index : ℕ} : isReported runtime inventory codes index ↔
      reports codes findings index = true :=
    ⟨fun ⟨_, same, found⟩ => Except.ok.inj (isFindings.symm.trans same) ▸ found,
      fun found => ⟨findings, isFindings, found⟩⟩
  refine ⟨fun entry member => ?_, fun kickstart member => ?_⟩
  · rw [reports_artifacts_iff passes addressed made member, reported]
    exact (reports_deviceFindings isFindings member fun _ _ spec => spec.devices).symm
  obtain ⟨site, siteFindings, results, isSite, outcomes, kickstarts, all⟩ :=
    renderProvisioning_outcomes passes addressed made
  rw [kickstarts] at member
  have inResults := (Dictionary.mem_of_mem_fill member).resolve_left List.not_mem_nil
  obtain ⟨result, isResult, inResult⟩ := List.mem_flatMap.mp inResults
  obtain ⟨files, isFiles, rfl⟩ := List.mem_map.mp inResult
  obtain ⟨entry, inEntries, outcome⟩ := Matching.exists_left outcomes isResult
  obtain ⟨safe, tiering, reasons, tiered, isRendered⟩ :=
    outcome.files files (Option.mem_toList.mp isFiles)
  refine ⟨entry, inEntries, tiering, ⟨tiering_carried isRendered, site, siteFindings, files, isSite,
    isRendered, rfl⟩, ?_, ?_⟩
  · rw [← Bool.not_eq_true, reports_artifacts_iff passes addressed made inEntries, safe]
    decide
  · obtain ⟨made, isMade⟩ : (tieringFindings runtime (hostHardware entry.1.asMapping)
        (hostPath entry.2 ++ text "/hardware") (hostName runtime entry.1.asMapping)).Returns :=
      returns_tieringFindings.mpr (returns_tieringBlock.mp ⟨_, tiered⟩)
    have someReason : isReported runtime inventory tieringCodes entry.2 ↔ made ≠ [] := by
      rw [reported, reports_deviceFindings isFindings inEntries fun _ _ spec => spec.tiering_iff]
      exact ⟨fun ⟨_, same, present⟩ => Except.ok.inj (same.symm.trans isMade) ▸ present,
        fun present => ⟨made, isMade, present⟩⟩
    rw [someReason, not_not]
    exact tieringBlock_spec tiered isMade

/-! ### A tier that no double holds the ratio of -/

def tieredHost (bootDisk : String) (tier : Double) : Value :=
  mapping [("name", .str (text "esx01")), ("provisioningMac", .str (text "00:00:00:00:00:01")),
    ("bootDisk", .str (text bootDisk)), ("mgmtIp", .str (text "10.0.0.2")),
    ("hardware", mapping [("memoryTieringGb", .scalar (.float tier)),
      ("memoryTieringDevice", .str (text "t10.Tier")), ("ramGb", .scalar (.int 32))])]

/-- A tier of `1e308` GB. -/
def hugeTier : Double := Float.Model.ofScientific 1 308

theorem tieredHost_hardware (bootDisk : String) (tier : Double) :
    hostHardware (tieredHost bootDisk tier).asMapping =
      (mapping [("memoryTieringGb", .scalar (.float tier)),
        ("memoryTieringDevice", .str (text "t10.Tier")), ("ramGb", .scalar (.int 32))]).asMapping := by
  simp (disch := decide) only [hostHardware, tieredHost, mapping, Value.asMapping, List.map_cons,
    Mapping.get_cons_of_ne, Mapping.get_cons_self]

/-- The hardware of the host, field by field. -/
theorem tieredHost_fields (bootDisk : String) (tier : Double) :
    (hostHardware (tieredHost bootDisk tier).asMapping).get "vsanDevice" = .null ∧
    (hostHardware (tieredHost bootDisk tier).asMapping).get "memoryTieringGb" =
      .scalar (.float tier) ∧
    (hostHardware (tieredHost bootDisk tier).asMapping).get "memoryTieringDevice" =
      .str (text "t10.Tier") ∧
    (hostHardware (tieredHost bootDisk tier).asMapping).get "ramGb" = .scalar (.int 32) := by
  rw [tieredHost_hardware]
  refine ⟨?_, ?_, ?_, ?_⟩ <;>
    simp (disch := decide) only [mapping, Value.asMapping, List.map_cons, List.map_nil,
      Mapping.get_cons_of_ne, Mapping.get_cons_self, Mapping.get_nil]

theorem floatOfInt_ram : floatOfInt 32 = .ok (Float.Model.ofInt 32) := by
  have short : (Float.Model.ofInt 32).isInf = false := by decide +kernel
  rw [floatOfInt, short]
  rfl

theorem not_computes_huge (bootDisk : String) :
    ¬TieringComputes .simple (hostHardware (tieredHost bootDisk hugeTier).asMapping) := by
  obtain ⟨_, declared, device, memory⟩ := tieredHost_fields bootDisk hugeTier
  rintro ⟨tier, isTier, computes⟩
  rw [declared] at isTier
  obtain rfl := Except.ok.inj isTier
  obtain ⟨_, ratioComputes⟩ := computes (by decide +kernel)
  have stable : isStableDisk (text "t10.Tier") = true := by decide +kernel
  rw [device] at ratioComputes
  obtain ⟨ram, isRam, ratio, isRatio⟩ := ratioComputes stable
  rw [memory] at isRam
  obtain rfl := Except.ok.inj (floatOfInt_ram.symm.trans isRam)
  have overflows : tierRatioPct hugeTier (Float.Model.ofInt 32) = .error .overflowError := by
    decide +kernel
  rw [overflows] at isRatio
  cases isRatio

theorem labInventory_fields (hosts : List Value) :
    (labInventory hosts).get "dns" = .null ∧ (labInventory hosts).get "ntp" = .null ∧
    ((labInventory hosts).get "provisioning").asMapping.get "hostWorkarounds" = .null ∧
    ((labInventory hosts).get "provisioning").asMapping.get "sshPublicKey" = .null ∧
    (managementOf (labInventory hosts)).get "vlan" = .null := by
  refine ⟨?_, ?_, ?_, ?_, ?_⟩ <;>
    simp (disch := decide) only [managementOf, labInventory, mapping, Value.asMapping, List.map_cons,
      List.map_nil, Mapping.get_cons_of_ne, Mapping.get_cons_self, Mapping.get_nil]

/-- What every host of the lab is given can be written. -/
theorem siteWritable_lab (hosts : List Value) : SiteWritable .simple (labInventory hosts) := by
  obtain ⟨dns, ntp, hostWorkarounds, sshPublicKey, vlan⟩ := labInventory_fields hosts
  refine ⟨?_, ?_, ?_, ?_, ?_, ?_⟩
  · rw [dns]
    rfl
  · rw [dns]
    exact fun _ member => absurd member List.not_mem_nil
  · rw [ntp]
    exact fun _ member => absurd member List.not_mem_nil
  · rw [hostWorkarounds]
    exact fun _ member => absurd member List.not_mem_nil
  · rw [sshPublicKey]
    exact fun present => by cases present
  · rw [taggedVlan, vlan]
    exact fun _ member => by cases member

/-- A boot disk that is not safe is all that the renderer looks at. -/
theorem hostWritable_tiered (tier : Double) (inventory : Mapping) :
    HostWritable .simple (tieredHost "vmhba1:C0:T0:L0" tier).asMapping inventory where
  mac := rfl
  bootDisk := rfl
  name := rfl
  devices := fun _ _ safe => absurd safe (by
    have runtimeName : safeBootDisk (text "vmhba1:C0:T0:L0") = false := by decide +kernel
    show ¬safeBootDisk (text "vmhba1:C0:T0:L0") = true
    rw [runtimeName]
    decide)

/-- The renderer withholds a host because of its boot disk, and the validator raises over its tier. -/
theorem not_devicesAgree_huge :
    ∃ checked artifacts,
      documentChecks .simple (labInventory [tieredHost "vmhba1:C0:T0:L0" hugeTier]) =
        .ok (.inr checked) ∧
      (∀ host ∈ hostsOf (labInventory [tieredHost "vmhba1:C0:T0:L0" hugeTier]),
        hostMac .simple host.asMapping ≠ []) ∧
      renderProvisioning .simple (labInventory [tieredHost "vmhba1:C0:T0:L0" hugeTier])
        (some (text "modules=/b.b00")) = .ok artifacts ∧
      ¬DevicesAgree .simple (labInventory [tieredHost "vmhba1:C0:T0:L0" hugeTier])
        (some (text "modules=/b.b00")) checked artifacts := by
  have addressed : ∀ host ∈ hostsOf (labInventory [tieredHost "vmhba1:C0:T0:L0" hugeTier]),
      hostMac .simple host.asMapping ≠ [] := by
    show ∀ host ∈ [tieredHost "vmhba1:C0:T0:L0" hugeTier], _
    rw [List.forall_mem_singleton]
    show Text.lower (text "00:00:00:00:00:01") ≠ []
    decide
  obtain ⟨checked, passes⟩ : ∃ checked, documentChecks .simple
      (labInventory [tieredHost "vmhba1:C0:T0:L0" hugeTier]) = .ok (.inr checked) :=
    passes_of_passesChecks (by decide)
  obtain ⟨artifacts, made⟩ : (renderProvisioning .simple
      (labInventory [tieredHost "vmhba1:C0:T0:L0" hugeTier]) (some (text "modules=/b.b00"))).Returns := by
    refine (returns_renderProvisioning passes).mpr ⟨siteWritable_lab _, ?_⟩
    show ∀ host ∈ [tieredHost "vmhba1:C0:T0:L0" hugeTier], _
    rw [List.forall_mem_singleton]
    exact hostWritable_tiered _ _
  refine ⟨checked, artifacts, passes, addressed, made, fun agree => ?_⟩
  have readable := readable_of_agree passes addressed made agree
    (tieredHost "vmhba1:C0:T0:L0" hugeTier) List.mem_cons_self (by decide +kernel)
  exact not_computes_huge _ readable.tiering

/-- With a tier whose ratio is a number the two agree on the host. -/
theorem devicesAgree_withheld :
    ∃ checked artifacts,
      renderProvisioning .simple (labInventory [tieredHost "vmhba1:C0:T0:L0" (Float.Model.ofInt 96)])
        (some (text "modules=/b.b00")) = .ok artifacts ∧
      DevicesAgree .simple (labInventory [tieredHost "vmhba1:C0:T0:L0" (Float.Model.ofInt 96)])
        (some (text "modules=/b.b00")) checked artifacts := by
  have addressed : ∀ host ∈ hostsOf (labInventory [tieredHost "vmhba1:C0:T0:L0" (Float.Model.ofInt 96)]),
      hostMac .simple host.asMapping ≠ [] := by
    show ∀ host ∈ [tieredHost "vmhba1:C0:T0:L0" (Float.Model.ofInt 96)], _
    rw [List.forall_mem_singleton]
    show Text.lower (text "00:00:00:00:00:01") ≠ []
    decide
  obtain ⟨checked, passes⟩ : ∃ checked, documentChecks .simple
      (labInventory [tieredHost "vmhba1:C0:T0:L0" (Float.Model.ofInt 96)]) = .ok (.inr checked) :=
    passes_of_passesChecks (by decide)
  obtain ⟨artifacts, made⟩ : (renderProvisioning .simple
      (labInventory [tieredHost "vmhba1:C0:T0:L0" (Float.Model.ofInt 96)])
      (some (text "modules=/b.b00"))).Returns := by
    refine (returns_renderProvisioning passes).mpr ⟨siteWritable_lab _, ?_⟩
    show ∀ host ∈ [tieredHost "vmhba1:C0:T0:L0" (Float.Model.ofInt 96)], _
    rw [List.forall_mem_singleton]
    exact hostWritable_tiered _ _
  refine ⟨checked, artifacts, made, (devicesAgree_iff passes addressed made).mpr ?_⟩
  show ∀ host ∈ [tieredHost "vmhba1:C0:T0:L0" (Float.Model.ofInt 96)], _
  rw [List.forall_mem_singleton]
  refine fun _ => ⟨rfl, rfl, Float.Model.ofInt 96, rfl, fun _ => ⟨rfl, fun _ => ?_⟩⟩
  exact ⟨Float.Model.ofInt 32, floatOfInt_ram, 300, by decide +kernel⟩

end VcfSpec

end LocalGpuCluster
