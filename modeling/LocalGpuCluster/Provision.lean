/-
This file models `render_provisioning` of `provision.py`: one kickstart for each host and one boot
configuration for each MAC address. The checks of the whole document come first; then the loop over
the hosts fills two dictionaries, and a host that must not be installed only adds a finding.
-/

import LocalGpuCluster.Dictionary
import LocalGpuCluster.IpAddress
import LocalGpuCluster.ProvisionTexts

namespace LocalGpuCluster

namespace VcfSpec

structure ProvisioningArtifacts where
  kickstarts : List (Text × Text)
  bootConfigs : List (Text × Text)
  manifest : Text
  findings : List Finding

/-! ### The document -/

/-- `value in (None, "")`. -/
def Value.isAbsent : Value → Bool
  | .scalar .null => true
  | .scalar (.str content) => content = []
  | _ => false

/-- `_root_hash`: `none` when the credential is absent. -/
def rootHashOf (runtime : Runtime) (creds : Mapping) : Run (Option Text) :=
  let value := creds.get "esxRootHash"
  if value.isAbsent then pure none
  else do
    let written ← runtime.str value
    if isReferenceText written || matchesToEnd sha512CryptRe written then pure (some written)
    else throw .insecureCredential

/-- `_ssh_public_key`, `none` for `_NotAPublicKey`. -/
def sshPublicKeyOf (runtime : Runtime) (prov : Mapping) : Run (Option Text) :=
  let value := prov.get "sshPublicKey"
  if value.isAbsent then pure (some [])
  else do
    let written ← runtime.str value
    let key := Text.strip CodePoint.isSpace written
    if holdsPrivateKey key then throw .insecureCredential
    else if matchesToEnd sshPublicKeyRe key then pure (some key)
    else pure none

/-- What the checks of the whole document leave for the hosts. -/
structure Checked where
  bootUrl : Text
  payloadUrl : Text
  esxVersion : Text
  netmask : Text
  rootHash : Text

def managementOf (inventory : Mapping) : Mapping :=
  ((inventory.get "networks").asMapping.get "management").asMapping

/-- The checks of the whole document: a boot server, a management network and a root hash. A finding
ends the call. -/
def documentChecks (runtime : Runtime) (inventory : Mapping) : Run (Finding ⊕ Checked) := do
  let prov := (inventory.get "provisioning").asMapping
  let server ← runtime.str (prov.getOr "bootServerUrl" (.str []))
  let bootUrl := Text.stripRight (fun point => point = slash) server
  let esxVersion ← runtime.str ((prov.get "esxVersion").orElse (.str (text "9.1.1.0")))
  if bootUrl = [] then return .inl noBootServer
  let payload ← runtime.str
    ((prov.get "installerPayloadUrl").orElse (.str (bootUrl ++ text "/esx-" ++ esxVersion)))
  let payloadUrl := Text.stripRight (fun point => point = slash) payload
  let subnet ← runtime.str ((managementOf inventory).getOr "subnet" (.str []))
  match Ip.networkOf subnet with
  | none => return .inl noMgmtNetwork
  | some network =>
    if !((managementOf inventory).get "gateway").truthy then return .inl noMgmtNetwork
    match ← rootHashOf runtime (inventory.get "credentials").asMapping with
    | none => return .inl noRootHash
    | some rootHash =>
      return .inr { bootUrl, payloadUrl, esxVersion, netmask := Ip.netmaskText network, rootHash }

/-- What every host is given. -/
structure Site extends Checked where
  gateway : Value
  subdomain : Text
  nameservers : Text
  bootNameserver : Text
  ntpOpts : Text
  hostWorkarounds : List Text
  mtu : ℤ
  sshPublicKey : Text
  vlanOpt : Text
  vlanBoot : Text

/-- The VLAN to tag with; 0 and 1 are untagged. -/
def taggedVlan (inventory : Mapping) : Option ℤ :=
  ((managementOf inventory).get "vlan").asInt.filter fun vlan => 1 < vlan

/-- `f" {option}{vlan}" if tagged else ""`. -/
def vlanOption (runtime : Runtime) (option : String) : Option ℤ → Run Text
  | none => pure []
  | some vlan => do
    let written ← runtime.str (.scalar (.int vlan))
    pure (text option ++ written)

/-- What every host is given, and the findings about it. -/
def siteOf (runtime : Runtime) (inventory : Mapping) (esxBootCfg : Option Text) (checked : Checked) :
    Run (Site × List Finding) := do
  let prov := (inventory.get "provisioning").asMapping
  let dns := (inventory.get "dns").asMapping
  let subdomain ← runtime.str (dns.getOr "subdomain" (.str []))
  let nameservers ← runtime.strs (dns.get "nameservers").asSequence
  let ntp ← runtime.strs ((inventory.get "ntp").asMapping.get "servers").asSequence
  let hostWorkarounds ← runtime.strs (prov.get "hostWorkarounds").asSequence
  let sshPublicKey ← sshPublicKeyOf runtime prov
  let vlanOpt ← vlanOption runtime " --vlanid=" (taggedVlan inventory)
  let vlanBoot ← vlanOption runtime " vlanid=" (taggedVlan inventory)
  let site : Site :=
    { checked with
      gateway := (managementOf inventory).get "gateway"
      subdomain := Text.strip (fun point => point = 0x2E) subdomain
      nameservers := Text.join (text ",") nameservers
      bootNameserver := nameservers.headD []
      ntpOpts := Text.join (text " ") (ntp.map fun server => text "--server=" ++ server)
      hostWorkarounds := hostWorkarounds
      mtu := ((managementOf inventory).get "mtu").asInt.getD 1500
      sshPublicKey := sshPublicKey.getD []
      vlanOpt := vlanOpt
      vlanBoot := vlanBoot }
  pure (site, (if sshPublicKey.isNone then [sshKeyNotPublic] else []) ++
    (if esxBootCfg.isNone then [noEsxBootCfg] else []))

/-! ### One host -/

/-- The files of a host. -/
structure HostArtifacts where
  kickstartName : Text
  kickstart : Text
  bootConfig : Option (Text × Text)

/-- What the loop body adds; a host that is withheld has no artifacts. -/
structure HostResult where
  findings : List Finding
  artifacts : Option HostArtifacts

/-- The role of a device that the hardware declares under a field, if it does. -/
def deviceRole (runtime : Runtime) (hardware : Mapping) (field : String) :
    Run (List (Text × Text)) :=
  if (hardware.get field).truthy then do
    let selector ← runtime.str (hardware.get field)
    pure [(text field, selector)]
  else pure []

/-- Every role the inventory declares for a physical device on the host. -/
def deviceRoles (runtime : Runtime) (bootDisk : Text) (hardware : Mapping) :
    Run (List (Text × Text)) := do
  let vsan ← deviceRole runtime hardware "vsanDevice"
  let tiering ← deviceRole runtime hardware "memoryTieringDevice"
  pure ((text "bootDisk", bootDisk) :: vsan ++ tiering)

/-- `_tiering`. -/
def tieringBlock (runtime : Runtime) (hardware : Mapping) (hwPath host : Text) :
    Run (Text × List Finding) := do
  let reasons ← tieringFindings runtime hardware hwPath host
  if !reasons.isEmpty then return ([], reasons)
  let tier ← (hardware.get "memoryTieringGb").toFloat
  if tier ≤ Float.Model.ofInt 0 then return ([], [])
  let device ← runtime.str ((hardware.get "memoryTieringDevice").orElse (.str []))
  let ram ← (hardware.get "ramGb").toFloat
  let ratio ← tierRatioPct tier ram
  return (memoryTieringBlock runtime (devicePath device) ratio tier ram, [])

def claimedByVsan (hardware : Mapping) : Bool := (hardware.get "bootDiskClaimedByVsan").truthy

/-- `hardware.get("bootDiskVmfs", "overwrite")`. -/
def vmfsMode (hardware : Mapping) : Value := hardware.getOr "bootDiskVmfs" (.str (text "overwrite"))

def preservesVmfs (hardware : Mapping) : Bool :=
  match vmfsMode hardware with
  | .scalar (.str mode) => mode = text "preserve"
  | _ => false

/-- The mode is one of the two, and not the one that a vSAN-claimed disk excludes. -/
def vmfsModeUsable (hardware : Mapping) : Bool :=
  match vmfsMode hardware with
  | .scalar (.str mode) => mode = text "overwrite" || mode = text "preserve" && !claimedByVsan hardware
  | _ => false

/-- `mac.replace(":", "-")`. -/
def dashed (mac : Text) : Text := mac.map fun point => if point = 0x3A then 0x2D else point

def kickstartName (name : Text) : Text := text "ks-" ++ name ++ text ".cfg"

/-- The path of a boot configuration. -/
def bootConfigPath (mac : Text) : Text := text "01-" ++ dashed mac ++ text "/boot.cfg"

def kernelopt (site : Site) (name mac ip gateway : Text) : Text :=
  text "ks=" ++ site.bootUrl ++ text "/" ++ kickstartName name ++
    text " bootproto=static netdevice=" ++ mac ++ text " ip=" ++ ip ++ text " netmask=" ++
    site.netmask ++ text " gateway=" ++ gateway ++ text " nameserver=" ++ site.bootNameserver ++
    site.vlanBoot

/-- The files of a host that nothing withholds. -/
def renderHost (runtime : Runtime) (site : Site) (esxBootCfg : Option Text) (host hardware : Mapping)
    (name mac bootDisk tiering : Text) : Run HostArtifacts := do
  let ip ← runtime.str (host.getOr "mgmtIp" (.str []))
  let gateway ← runtime.str site.gateway
  let mtu ← runtime.str (.scalar (.int site.mtu))
  let workarounds ← workaroundsBlock runtime site.hostWorkarounds (hardware.get "cpuModel")
  let fqdn := if site.subdomain = [] then name else name ++ text "." ++ site.subdomain
  let preserve := preservesVmfs hardware
  let head := kickstartHead fqdn site.rootHash (if preserve then text "paranoid" ++ newline else [])
    bootDisk (text (if preserve then "--preservevmfs" else "--overwritevmfs"))
    (if claimedByVsan hardware then text " --overwritevsan" else []) mac ip site.netmask gateway
    site.nameservers site.vlanOpt
  let firstboot := renderFirstboot
    { fqdn, ntpOpts := site.ntpOpts, mtu, localDatastore := name ++ text "-local",
      sshPublicKey := site.sshPublicKey, tiering, workarounds, preserveLocalVmfs := preserve }
  pure
    { kickstartName := kickstartName name
      kickstart := head ++ firstboot
      bootConfig := esxBootCfg.map fun isoBootCfg =>
        (bootConfigPath mac, rewriteBootCfg runtime isoBootCfg site.payloadUrl
          (kernelopt site name mac ip gateway)) }

/-- The path of a host in the document. -/
def hostPath (index : ℕ) : Text := text "/hosts/" ++ decimal (index : ℕ)

/-- The loop body from the VMFS mode on. -/
def provisionFiles (runtime : Runtime) (site : Site) (esxBootCfg : Option Text) (index : ℕ)
    (host : Mapping) (name mac bootDisk tiering : Text) (findings : List Finding) :
    Run HostResult := do
  let hardware := (host.get "hardware").asMapping
  if vmfsModeUsable hardware then
    let artifacts ← renderHost runtime site esxBootCfg host hardware name mac bootDisk tiering
    return ⟨findings, some artifacts⟩
  let mode ← runtime.str (vmfsMode hardware)
  return ⟨findings ++ [bootVmfsMode (hostPath index ++ text "/hardware/bootDiskVmfs") name mode], none⟩

/-- The loop body from the device checks on. -/
def provisionDevices (runtime : Runtime) (site : Site) (esxBootCfg : Option Text) (index : ℕ)
    (host : Mapping) (name mac bootDisk : Text) : Run HostResult := do
  let hardware := (host.get "hardware").asMapping
  let roles ← deviceRoles runtime bootDisk hardware
  match collisionFinding roles (hostPath index) name with
  | some collision => return ⟨[collision], none⟩
  | none =>
    let (tiering, findings) ←
      tieringBlock runtime hardware (hostPath index ++ text "/hardware") name
    provisionFiles runtime site esxBootCfg index host name mac bootDisk tiering findings

/-- The loop body from the MAC address on. -/
def provisionAddressed (runtime : Runtime) (site : Site) (esxBootCfg : Option Text) (index : ℕ)
    (host : Mapping) (name mac bootDisk : Text) : Run HostResult :=
  if mac = [] then pure ⟨[noMac (hostPath index) name], none⟩
  else if bootDisk = [] then pure ⟨[noBootDisk (hostPath index) name], none⟩
  else
    match bootDiskFinding bootDisk (hostPath index ++ text "/bootDisk") name with
    | some reason => pure ⟨[reason], none⟩
    | none => provisionDevices runtime site esxBootCfg index host name mac bootDisk

/-- The loop body. Every branch writes the name of the host. -/
def provisionHost (runtime : Runtime) (site : Site) (esxBootCfg : Option Text) (index : ℕ)
    (entry : Value) : Run HostResult := do
  let host := entry.asMapping
  let mac ← runtime.str (host.getOr "provisioningMac" (.str []))
  let bootDisk ← runtime.str ((host.get "bootDisk").orElse (.str []))
  let name ← runtime.str (host.getOr "name" (.str []))
  provisionAddressed runtime site esxBootCfg index host name (runtime.lower mac) bootDisk

/-! ### All hosts -/

/-- The state of the loop. -/
structure Rendered where
  findings : List Finding
  kickstarts : List (Text × Text)
  bootConfigs : List (Text × Text)

/-- A host's findings and files are added. -/
def Rendered.add (rendered : Rendered) (result : HostResult) : Rendered where
  findings := rendered.findings ++ result.findings
  kickstarts := Dictionary.fill rendered.kickstarts
    (result.artifacts.toList.map fun files => (files.kickstartName, files.kickstart))
  bootConfigs := Dictionary.fill rendered.bootConfigs
    (result.artifacts.toList.filterMap fun files => files.bootConfig)

/-- The loop, from an index on. -/
def provisionHosts (runtime : Runtime) (site : Site) (esxBootCfg : Option Text) :
    ℕ → List Value → Rendered → Run Rendered
  | _, [], rendered => pure rendered
  | index, host :: rest, rendered => do
    let result ← provisionHost runtime site esxBootCfg index host
    provisionHosts runtime site esxBootCfg (index + 1) rest (rendered.add result)

/-- `render_provisioning` after the checks of the whole document. -/
def renderChecked (runtime : Runtime) (inventory : Mapping) (esxBootCfg : Option Text)
    (checked : Checked) : Run ProvisioningArtifacts := do
  let (site, findings) ← siteOf runtime inventory esxBootCfg checked
  let rendered ← provisionHosts runtime site esxBootCfg 0 (inventory.get "hosts").asSequence
    ⟨findings, [], []⟩
  return ⟨rendered.kickstarts, rendered.bootConfigs,
    manifest checked.bootUrl checked.payloadUrl checked.esxVersion rendered.kickstarts
      rendered.bootConfigs,
    rendered.findings⟩

/-- `render_provisioning`. -/
def renderProvisioning (runtime : Runtime) (inventory : Mapping) (esxBootCfg : Option Text) :
    Run ProvisioningArtifacts := do
  match ← documentChecks runtime inventory with
  | .inl finding => return ⟨[], [], [], [finding]⟩
  | .inr checked => renderChecked runtime inventory esxBootCfg checked

theorem renderProvisioning_of_passes {runtime : Runtime} {inventory : Mapping}
    {esxBootCfg : Option Text} {checked : Checked}
    (passes : documentChecks runtime inventory = .ok (.inr checked)) :
    renderProvisioning runtime inventory esxBootCfg =
      renderChecked runtime inventory esxBootCfg checked := by
  unfold renderProvisioning
  rw [passes]
  rfl

end VcfSpec

end LocalGpuCluster
