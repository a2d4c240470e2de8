/-
This file models `rules/devices.py`: what makes the device identifiers of a host safe, and the
findings about them. The validator and the renderer of provisioning artifacts both ask here.
-/

import LocalGpuCluster.Regex
import LocalGpuCluster.SpecRuntime

namespace LocalGpuCluster

namespace VcfSpec

/-! ### The patterns -/

/-- A match of a pattern that ends with `$`, which also holds before a line feed that ends the
text. -/
def matchesToEnd (regex : Regex CodePoint) (content : Text) : Bool :=
  (regex.rests content).any fun rest => rest = [] || rest = newline

/-- A phrase in lower case under `re.IGNORECASE`. -/
def phraseRe (phrase : String) : Regex CodePoint :=
  .all ((text phrase).map fun letter => .one letter.foldsTo)

/-- `\d+`. -/
def digitsRe : Regex CodePoint := .plus (.one CodePoint.isDecimal)

/-- `[^\s]+`. -/
def wordRe : Regex CodePoint := .plus (.one fun point => !point.isSpace)

/-- `DISK_PATH_PREFIX`. -/
def diskPathPrefix : Text := text "/vmfs/devices/disks/"

/-- `STABLE_DISK_RE` without its anchors. -/
def stableDiskRe : Regex CodePoint :=
  .all [.optional (.literal diskPathPrefix),
    .oneOf [.literal (text "t10."), .literal (text "eui."), .literal (text "naa.")], wordRe]

/-- `STABLE_DISK_RE.match(selector)`. -/
def isStableDisk (selector : Text) : Bool := matchesToEnd stableDiskRe selector

/-- The first alternative of `RUNTIME_DISK_RE`, without its anchors. -/
def vmhbaRe : Regex CodePoint :=
  .all [.optional (phraseRe "/vmfs/devices/disks/"), .optional (phraseRe "mpx."),
    phraseRe "vmhba", digitsRe, phraseRe ":c", digitsRe, phraseRe ":t", digitsRe, phraseRe ":l",
    digitsRe]

/-- The second alternative of `RUNTIME_DISK_RE`, without its anchor. -/
def mpxRe : Regex CodePoint :=
  .all [.optional (phraseRe "/vmfs/devices/disks/"), phraseRe "mpx."]

/-- `RUNTIME_DISK_RE.match(selector)`. -/
def isRuntimeDisk (selector : Text) : Bool :=
  matchesToEnd vmhbaRe selector || (mpxRe.firstRest selector).isSome

example : (["t10.NVMe", "/vmfs/devices/disks/eui.0025", "MPX.vmhba32:C0:T0:L0", "vmhba1:C0:T0:L0",
    "mpx.disk", "t10.a b"].map fun selector =>
      (isStableDisk (text selector), isRuntimeDisk (text selector))) =
    [(true, false), (true, false), (false, true), (false, true), (false, true), (false, false)] := by
  decide

/-! ### Devices -/

/-- `device_key`. -/
def deviceKey (selector : Text) : Text :=
  if Text.startsWith selector diskPathPrefix then selector.drop diskPathPrefix.length else selector

/-- `device_path`. -/
def devicePath (selector : Text) : Text :=
  if Text.startsWith selector diskPathPrefix then selector else diskPathPrefix ++ selector

/-- `plain`, and `_number` of `firstboot.py`. -/
def plain (runtime : Runtime) (value : Double) : Text :=
  match value.asInteger with
  | some whole => decimal whole
  | none => runtime.toBuiltins.str (.scalar (.float value))

/-- `tier_ratio_pct`. -/
def tierRatioPct (tierGb ramGb : Double) : Run ℤ :=
  if ramGb ≤ Float.Model.ofInt 0 then pure 0
  else Double.round (tierGb / ramGb * Float.Model.ofInt 100)

def minTierRatioPct : ℤ := 1
def maxTierRatioPct : ℤ := 400

/-! ### The findings -/

def setupUrl : Text :=
  text "https://techdocs.broadcom.com/us/en/vmware-cis/vsphere/vsphere/9-0/" ++
    text "esxi-installation-and-setup.html"

def tieringUrl : Text :=
  text "https://techdocs.broadcom.com/us/en/vmware-cis/vsphere/vsphere/9-1/" ++
    text "vsphere-resource-management/memory-tiering-over-nvme/memory-tiering-configuration.html"

/-- An error of the catalogue that the documentation of ESX is the source of. -/
def docsError (code : String) (path message : Text) (fix : String) (sourceUrl : Text) : Finding where
  code := text code
  severity := .error
  path := path
  message := message
  fix := text fix
  source := text "docs"
  sourceUrl := sourceUrl

def noBootDisk (path host : Text) : Finding :=
  docsError "VCF-PROV-NO-BOOT-DISK" path
    (text "Host " ++ host ++ text " has no bootDisk, so the install target is undefined.")
    "Name the install device explicitly. Relying on first-disk ordering risks installing over the vSAN device."
    setupUrl

def bootDiskFirstdisk (path host selector : Text) : Finding :=
  docsError "VCF-PROV-BOOT-DISK-FIRSTDISK" path
    (text "Host " ++ host ++ text " selects its boot disk with '" ++ selector ++
      text "'. --firstdisk orders by driver and PCI enumeration, not by size or role, so it can select the vSAN ESA device and repartition it.")
    "Name a stable device identifier instead: /vmfs/devices/disks/t10...., eui.... or naa..... Read them from a live host with: esxcli storage core device list."
    setupUrl

def bootDiskRuntimeName (path host selector : Text) : Finding :=
  docsError "VCF-PROV-BOOT-DISK-RUNTIME-NAME" path
    (text "Host " ++ host ++ text " selects its boot disk by the runtime name '" ++ selector ++
      text "'. mpx and vmhbaN:C0:T0:L0 names are assigned at boot in discovery order and are not stable across reboots or hardware changes.")
    "Name a stable device identifier instead: /vmfs/devices/disks/t10...., eui.... or naa..... Read them from a live host with: esxcli storage core device list."
    setupUrl

def bootDiskNotStable (path host selector : Text) : Finding :=
  docsError "VCF-PROV-BOOT-DISK-NOT-STABLE" path
    (text "Host " ++ host ++ text " names its boot disk as '" ++ selector ++
      text "', which is not a stable device identifier.")
    "Use /vmfs/devices/disks/t10...., eui.... or naa..... Read them from a live host with: esxcli storage core device list. With no BMC, an install that picks the wrong device destroys the vSAN member and costs a physical visit."
    setupUrl

def deviceCollision (path host device first second : Text) : Finding :=
  docsError "VCF-PROV-DEVICE-COLLISION" path
    (text "Host " ++ host ++ text " names the same device '" ++ device ++ text "' as both " ++ first ++
      text " and " ++ second ++
      text ". The three roles consume the device they are given, so no artifacts were generated for this host.")
    "Give each role its own device. bootDisk is installed over, vsanDevice is claimed by vSAN ESA, and memoryTieringDevice is consumed whole by `esxcli memtier enable` -- any two of them on one NVMe destroys the other's data, and with no BMC that is a drive to the rack. Read the real identifiers from a live host with: esxcli storage core device list."
    tieringUrl

def noTieringDevice (path host tier : Text) : Finding :=
  docsError "VCF-PROV-NO-TIERING-DEVICE" path
    (text "Host " ++ host ++ text " declares hardware.memoryTieringGb " ++ tier ++
      text ", but no hardware.memoryTieringDevice, so %firstboot has no device to enable tiering on and the host will boot with DRAM only.")
    "Add hardware.memoryTieringDevice naming the NVMe device reserved for tiering, as a stable identifier (/vmfs/devices/disks/t10...., eui.... or naa....). Read them from a live host with: esxcli memtier device list. Until it is there, every capacity figure that counted tiered memory is counting RAM the host will not have."
    tieringUrl

def tieringDeviceNotStable (path host selector : Text) : Finding :=
  docsError "VCF-PROV-TIERING-DEVICE-NOT-STABLE" path
    (text "Host " ++ host ++ text " names its memory tiering device as '" ++ selector ++
      text "', which is not a stable device identifier, so no tiering was configured.")
    "Use /vmfs/devices/disks/t10...., eui.... or naa..... mpx and vmhbaN:C0:T0:L0 names are assigned at boot in discovery order, so the device one reaches today is not the device it reaches after a reboot -- and `esxcli memtier enable` consumes whatever it is given."
    tieringUrl

def tieringRatioUnsupported (path host ratio tier ram : Text) : Finding :=
  docsError "VCF-PROV-TIERING-RATIO-UNSUPPORTED" path
    (text "Host " ++ host ++ text " would need a memory tier ratio of " ++ ratio ++ text "% (" ++ tier ++
      text " GB tier against " ++ ram ++ text " GB DRAM), and ESX accepts 1-400%. No tiering was configured.")
    "Bring hardware.memoryTieringGb and hardware.ramGb into a ratio ESX supports: the tier can be at most four times DRAM. A ratio of 0 usually means hardware.ramGb is missing or zero."
    tieringUrl

/-! ### The checks -/

/-- `boot_disk_finding`. -/
def bootDiskFinding (selector path host : Text) : Option Finding :=
  if Text.startsWith selector (text "--firstdisk") then some (bootDiskFirstdisk path host selector)
  else if isRuntimeDisk selector then some (bootDiskRuntimeName path host selector)
  else if !isStableDisk selector then some (bootDiskNotStable path host selector)
  else none

/-- The loop of `collision_finding`, with the devices seen so far and the role of each. -/
def collisionFrom (path host : Text) : List (Text × Text) → List (Text × Text) → Option Finding
  | _, [] => none
  | seen, (field, selector) :: rest =>
      match seen.lookup (deviceKey selector) with
      | some first => some (deviceCollision path host selector first field)
      | none => collisionFrom path host (seen ++ [(deviceKey selector, field)]) rest

/-- `collision_finding`. -/
def collisionFinding (roles : List (Text × Text)) (path host : Text) : Option Finding :=
  collisionFrom path host [] roles

/-- `tiering_findings`. -/
def tieringFindings (runtime : Runtime) (hardware : Mapping) (hwPath host : Text) :
    Run (List Finding) := do
  let tier ← (hardware.get "memoryTieringGb").toFloat
  if tier ≤ Float.Model.ofInt 0 then return []
  let device ← runtime.str ((hardware.get "memoryTieringDevice").orElse (.str []))
  if device = [] then return [noTieringDevice hwPath host (plain runtime tier)]
  if !isStableDisk device then
    return [tieringDeviceNotStable (hwPath ++ text "/memoryTieringDevice") host device]
  let ram ← (hardware.get "ramGb").toFloat
  let ratio ← tierRatioPct tier ram
  if minTierRatioPct ≤ ratio ∧ ratio ≤ maxTierRatioPct then return []
  return [tieringRatioUnsupported (hwPath ++ text "/memoryTieringGb") host (decimal ratio)
    (plain runtime tier) (plain runtime ram)]

/-- Devices with different keys do not collide. -/
theorem collisionFrom_eq_none_iff {path host : Text} {seen roles : List (Text × Text)}
    (distinct : (seen.map Prod.fst).Nodup) :
    collisionFrom path host seen roles = none ↔
      (seen.map Prod.fst ++ roles.map fun role => deviceKey role.2).Nodup := by
  induction roles generalizing seen with
  | nil => simpa [collisionFrom] using distinct
  | cons role rest inductionHypothesis =>
    rw [collisionFrom]
    cases known : seen.lookup (deviceKey role.2) with
    | some first =>
      have present : deviceKey role.2 ∈ seen.map Prod.fst := by
        obtain ⟨_, _, split, _⟩ := List.lookup_eq_some_iff.mp known
        simp [split]
      refine iff_of_false (Option.some_ne_none _) fun nodup => ?_
      exact (List.nodup_append.mp nodup).2.2 _ present _ List.mem_cons_self rfl
    | none =>
      have fresh : deviceKey role.2 ∉ seen.map Prod.fst := by
        intro member
        obtain ⟨entry, inSeen, same⟩ := List.mem_map.mp member
        have := List.lookup_eq_none_iff.mp known entry inSeen
        simp [same] at this
      have extended : ((seen ++ [(deviceKey role.2, role.1)]).map Prod.fst).Nodup := by
        rw [List.map_append, List.nodup_append]
        refine ⟨distinct, List.nodup_singleton _, ?_⟩
        rintro other member _ single rfl
        have same : other = deviceKey role.2 := List.mem_singleton.mp single
        exact fresh (same ▸ member)
      show collisionFrom path host (seen ++ [(deviceKey role.2, role.1)]) rest = none ↔ _
      rw [inductionHypothesis extended, List.map_append, List.append_assoc]
      rfl

/-- A collision is two roles that name one device. -/
theorem collisionFinding_eq_none_iff {roles : List (Text × Text)} {path host : Text} :
    collisionFinding roles path host = none ↔ (roles.map fun role => deviceKey role.2).Nodup :=
  collisionFrom_eq_none_iff List.nodup_nil

end VcfSpec

end LocalGpuCluster
