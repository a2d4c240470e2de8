/-
This file models `render.py`, which makes a bring-up spec for the VCF Installer out of a lab
inventory. The renderer does not trust that the inventory was validated: it raises on what has the
wrong shape, and on any credential that is no reference. What `int` reads of a string is a
parameter.
-/

import LocalGpuCluster.SpecCredentials
import LocalGpuCluster.SpecRuntime

namespace LocalGpuCluster

namespace VcfSpec

/-! ### Operations that raise -/

/-- What a value that is not a mapping has no `get` for. -/
def Value.fields : Value → Run Mapping
  | .dict entries => pure entries
  | _ => throw .attributeError

/-- `value[name]`. -/
def Value.atKey (value : Value) (name : String) : Run Value :=
  match value with
  | .dict entries =>
      match Mapping.get? entries name with
      | some child => pure child
      | none => throw .keyError
  | _ => throw .typeError

/-- `value == name`. -/
def Value.isText (value : Value) (name : String) : Bool :=
  match value with
  | .scalar (.str content) => content = text name
  | _ => false

/-- `name in value`. -/
def Value.has (value : Value) (name : String) : Run Bool :=
  match value with
  | .dict entries => pure (Mapping.get? entries name).isSome
  | .list items => pure (items.any fun item => item.isText name)
  | .scalar (.str content) => pure (content.tails.any fun rest => Text.startsWith rest (text name))
  | .scalar _ => throw .typeError

/-- `value is True`. -/
def Value.isTrue : Value → Bool
  | .scalar (.bool value) => value
  | _ => false

/-- `value is None`. -/
def Value.isNone : Value → Bool
  | .scalar .null => true
  | _ => false

/-- `int` of a double: what is behind the point is dropped. -/
def Double.truncate (value : Double) : Run ℤ :=
  match value.unpack with
  | .zero _ => pure 0
  | .finite sign mantissa exponent _ =>
      if 0 ≤ exponent then pure (sign.apply (mantissa * 2 ^ exponent.toNat))
      else pure (sign.apply (mantissa / 2 ^ (-exponent).toNat))
  | .infinity _ => throw .overflowError
  | .notANumber => throw .valueError

/-- `int(value)`. -/
def Value.toInt (intOf : Text → Option ℤ) : Value → Run Value
  | .scalar (.int value) => pure (.scalar (.int value))
  | .scalar (.bool value) => pure (.scalar (.int (if value then 1 else 0)))
  | .scalar (.float value) => do return .scalar (.int (← value.truncate))
  | .scalar (.str content) =>
      match intOf content with
      | some value => pure (.scalar (.int value))
      | none => throw .valueError
  | _ => throw .typeError

/-! ### Defaults -/

structure DefaultEntry where
  value : Value
  /-- `repr` of the value. -/
  written : Text
  source : Text

/-- `defaults/9.1.1.0.yaml`. -/
def defaultsTable : List (String × DefaultEntry) :=
  [("workflowType", ⟨.str (text "VCF"), text "'VCF'",
      text "SddcSpec.workflowType pattern (VCF|VCF_COMPLETE|VCF_EXTEND|VVF)."⟩),
    ("ceipEnabled", ⟨.scalar (.bool false), text "False",
      text "Lab default: telemetry off unless asked for."⟩),
    ("skipEsxThumbprintValidation", ⟨.scalar (.bool true), text "True",
      text "Lab default: hosts are freshly installed and thumbprints are unknown."⟩),
    ("vcenterSize", ⟨.str (text "small"), text "'small'",
      text "VCF-Design-Studio 9.1 'simple' profile (P&P Workbook static tables)."⟩),
    ("nsxSize", ⟨.str (text "medium"), text "'medium'",
      text "SddcNsxtSpec.nsxtManagerSize pattern allows xlarge|large|medium only."⟩),
    ("ssoDomain", ⟨.str (text "vsphere.local"), text "'vsphere.local'",
      text "vSphere default SSO domain."⟩)]

/-- The one release that is vendored. -/
def defaultVersion : Text := text "9.1.1.0"

/-- `load_defaults`. -/
def loadDefaults (version : Text) : Run (List (String × DefaultEntry)) :=
  if version = defaultVersion then pure defaultsTable else throw .unknownSchemaVersion

def defaultApplied (name : String) (entry : DefaultEntry) : Finding where
  code := text "VCF-RENDER-DEFAULT-APPLIED"
  severity := .info
  path := text "/" ++ text name
  message := text "Applied default " ++ text name ++ text "=" ++ entry.written ++ text "."
  fix := text "Set it explicitly in the inventory to override."
  source := text "table"
  sourceUrl := entry.source

/-- `default`: the value of the table, and the finding about it. -/
def applyDefault (defaults : List (String × DefaultEntry)) (name : String) :
    Run (Value × List Finding) :=
  match defaults.lookup name with
  | some entry => pure (entry.value, [defaultApplied name entry])
  | none => throw .keyError

/-- `value or default(name)`. -/
def orDefault (defaults : List (String × DefaultEntry)) (value : Value) (name : String) :
    Run (Value × List Finding) :=
  if value.truthy then pure (value, []) else applyDefault defaults name

/-! ### The parts of the spec -/

def unmapped (name pointer : String) : Finding where
  code := text "VCF-RENDER-UNMAPPED"
  severity := .critical
  path := text pointer
  message := text "Inventory has no '" ++ text name ++ text "', and " ++ text pointer ++
    text " is required."
  fix := text "Add a '" ++ text name ++ text "' section to the inventory."
  source := text "schema"
  sourceUrl := []

/-- `value or {}`. -/
def Value.orEmpty (value : Value) : Value := value.orElse (.dict [])

/-- The sections that `required` asks for, with the places that need them. -/
def requiredSections : List (String × String) :=
  [("instance", "/sddcId"), ("dns", "/dnsSpec"), ("networks", "/networkSpecs"),
    ("appliances", "/vcenterSpec")]

/-- What the calls of `required` find. -/
def missingSections (inventory : Mapping) : List Finding :=
  (requiredSections.filter fun part => (inventory.get part.1).isNone).map fun part =>
    unmapped part.1 part.2

/-- `_credential`. -/
def credential (creds : Value) (name : String) : Run Value := do
  match (← creds.fields).getOr name (.str []) with
  | .scalar (.str value) =>
      if isReferenceText value then pure (.str value) else throw .insecureCredential
  | _ => throw .typeError

/-- `_sddc_manager_spec`. -/
def sddcManagerSpec (appliances creds : Value) : Run Value := do
  let manager := ((← appliances.fields).get "sddcManager").asMapping
  let root ← credential creds "sddcManagerRoot"
  let spec := [("hostname", manager.getOr "hostname" (.str [])), ("rootPassword", root)]
  if (manager.get "useExistingDeployment").isTrue then
    let localUser ← credential creds "sddcManagerLocalUser"
    let ssh ← credential creds "sddcManagerSsh"
    return mapping (spec ++ [("useExistingDeployment", .scalar (.bool true)),
      ("localUserPassword", localUser), ("sshPassword", ssh)])
  else return mapping spec

/-- `NETWORK_TYPES`, in the order of `NETWORK_ORDER`. -/
def networkTypes : List (String × String) :=
  [("management", "MANAGEMENT"), ("vmotion", "VMOTION"), ("vsan", "VSAN")]

/-- The address range of a network that has a pool. -/
def poolRange (pool : Value) : Run (List (String × Value)) := do
  if pool.truthy then
    let start ← pool.atKey "start"
    let last ← pool.atKey "end"
    return [("includeIpAddressRanges",
      .list [mapping [("startIpAddress", start), ("endIpAddress", last)]])]
  else return []

/-- `_network_spec`. -/
def networkSpec (intOf : Text → Option ℤ) (networkType : String) (entry : Value) : Run Value := do
  let vlan ← (← entry.atKey "vlan").toInt intOf
  let subnet ← entry.atKey "subnet"
  let gateway ← entry.atKey "gateway"
  let mtu ← (← entry.atKey "mtu").toInt intOf
  let range ← poolRange ((← entry.fields).get "pool")
  return mapping ([("networkType", .str (text networkType)), ("vlanId", vlan), ("subnet", subnet),
    ("gateway", gateway), ("mtu", mtu)] ++ range)

/-- The networks of the inventory among those that a spec may have. -/
def networkSpecs (intOf : Text → Option ℤ) (networks : Value) : Run (List Value) := do
  let found ← networkTypes.mapM fun (purpose, networkType) => do
    if ← networks.has purpose then
      return [← networkSpec intOf networkType (← networks.atKey purpose)]
    else return []
  return found.flatten

/-- `_vcenter_spec`. -/
def vcenterSpec (defaults : List (String × DefaultEntry)) (appliances creds : Value) :
    Run (Value × List Finding) := do
  let vcenter ← ((← appliances.fields).get "vcenter").orEmpty.fields
  let root ← credential creds "vcenterRoot"
  let (size, sizeFindings) ← orDefault defaults (vcenter.get "size") "vcenterSize"
  let (domain, domainFindings) ← orDefault defaults (vcenter.get "ssoDomain") "ssoDomain"
  let admin ← credential creds "ssoAdmin"
  return (mapping [("vcenterHostname", vcenter.getOr "hostname" (.str [])),
    ("rootVcenterPassword", root), ("vmSize", size), ("ssoDomain", domain),
    ("adminUserSsoPassword", admin)], sizeFindings ++ domainFindings)

/-- The ranges of the TEP pool that are mappings. -/
def poolRanges (pool : Mapping) : List Value :=
  (pool.get "ranges").asSequence.filterMap fun range =>
    match range with
    | .dict entries => some (mapping [("start", Mapping.getOr entries "start" (.str [])),
        ("end", Mapping.getOr entries "end" (.str []))])
    | _ => none

/-- The pool of `_nsxt_spec`. -/
def addressPool (pool : Value) : Run (List (String × Value)) := do
  if pool.truthy then
    let pool ← pool.fields
    return [("ipAddressPoolSpec", mapping [("name", pool.getOr "name" (.str (text "tep-pool"))),
      ("subnets", .list [mapping [("cidr", pool.getOr "cidr" (.str [])),
        ("gateway", pool.getOr "gateway" (.str [])),
        ("ipAddressPoolRanges", .list (poolRanges pool))]])])]
  else return []

/-- `transportVlanId`, if the inventory has it. -/
def transportVlan (intOf : Text → Option ℤ) (nsx : Mapping) : Run (List (String × Value)) :=
  match nsx.get? "transportVlanId" with
  | some vlan => do return [("transportVlanId", ← vlan.toInt intOf)]
  | none => return []

/-- `_nsxt_spec`. -/
def nsxtSpec (intOf : Text → Option ℤ) (defaults : List (String × DefaultEntry))
    (nsx creds : Value) : Run (Value × List Finding) := do
  let nsx ← nsx.fields
  let (size, sizeFindings) ← orDefault defaults (nsx.get "size") "nsxSize"
  let root ← credential creds "nsxAdmin"
  let admin ← credential creds "nsxAdmin"
  let vlan ← transportVlan intOf nsx
  let pool ← addressPool (nsx.get "tepPool").orEmpty
  return (mapping ([("nsxtManagers", .list ((nsx.get "managers").asSequence.map fun name =>
      mapping [("hostname", name)])),
    ("vipFqdn", nsx.getOr "vipFqdn" (.str [])), ("nsxtManagerSize", size),
    ("rootNsxtManagerPassword", root), ("nsxtAdminPassword", admin)] ++ vlan ++ pool), sizeFindings)

/-- The part of `render` about NSX. -/
def nsxPart (intOf : Text → Option ℤ) (defaults : List (String × DefaultEntry))
    (nsx creds : Value) : Run (List (String × Value) × List Finding) := do
  if nsx.truthy then
    let (spec, findings) ← nsxtSpec intOf defaults nsx creds
    return ([("nsxtSpec", spec)], findings)
  else return ([], [])

/-- `_host_spec`. -/
def hostSpec (creds host : Value) : Run Value := do
  let host ← host.fields
  let password ← credential creds "esxRoot"
  return mapping [("hostname", host.getOr "name" (.str [])),
    ("credentials", mapping [("username", .str (text "root")), ("password", password)])]

/-- The part of `render` about storage. -/
def datastoreSpec (intOf : Text → Option ℤ) (storage : Mapping) : Run (List (String × Value)) := do
  if (storage.get "type").isText "VSAN_ESA" then
    let skips := if (storage.get "skipHclAutoDiskClaim").isTrue then
      [("skipHclAutoDiskClaim", Value.scalar (.bool true))] else []
    let failures ← (storage.getOr "failuresToTolerate" (.scalar (.int 1))).toInt intOf
    return [("datastoreSpec", mapping [("vsanSpec", mapping [
      ("datastoreName", storage.getOr "datastoreName" (.str (text "vsan-datastore"))),
      ("esaConfig", mapping (("enabled", .scalar (.bool true)) :: skips)),
      ("failuresToTolerate", failures)])])]
  else return []

/-- The part of `render` about the VCF management services. -/
def vspSpec (vsp : Value) : Run (List (String × Value)) := do
  if vsp.truthy then
    let vsp ← vsp.fields
    return [("vspClusterSpec", mapping [("platformFqdn", vsp.getOr "platformFqdn" (.str [])),
      ("instanceFqdn", vsp.getOr "instanceFqdn" (.str [])),
      ("fleetFqdn", vsp.getOr "fleetFqdn" (.str [])),
      ("ipv4Pool", mapping [("ipRange", mapping [
        ("startIpAddress", vsp.getOr "poolStart" (.str [])),
        ("endIpAddress", vsp.getOr "poolEnd" (.str []))])]),
      ("internalClusterCidrIpv4", vsp.getOr "internalCidr" (.str (text "198.18.0.0/15")))])]
  else return []

/-- `_operations_spec`, if the appliance is in the inventory. -/
def operationsSpec (operations : Mapping) (creds : Value) : Run (List (String × Value)) := do
  if operations.isEmpty then return []
  else
    let root ← credential creds "operationsRoot"
    let admin ← credential creds "operationsAdmin"
    return [("vcfOperationsSpec", mapping [("nodes", .list [mapping [
        ("hostname", operations.getOr "hostname" (.str [])), ("rootUserPassword", root),
        ("type", .str (text "master"))]]),
      ("adminUserPassword", admin), ("applianceSize", operations.getOr "size" (.str [])),
      ("useExistingDeployment", .scalar (.bool false))])]

/-- `_collector_spec`, if the appliance is in the inventory. -/
def collectorSpec (collector : Mapping) (creds : Value) : Run (List (String × Value)) := do
  if collector.isEmpty then return []
  else
    let root ← credential creds "operationsCollectorRoot"
    return [("vcfOperationsCollectorSpec", mapping [
      ("hostname", collector.getOr "hostname" (.str [])), ("rootUserPassword", root),
      ("applianceSize", collector.getOr "size" (.str [])),
      ("useExistingDeployment", .scalar (.bool false))])]

/-- The identity broker, if the inventory has one. -/
def brokerSpec (broker : Mapping) : List (String × Value) :=
  if broker.isEmpty then []
  else [("vidbSpec", mapping [("hostname", broker.getOr "hostname" (.str []))])]

/-- The licence server, if the inventory has one. -/
def licenseSpec (server : Mapping) : List (String × Value) :=
  if server.isEmpty then []
  else [("licenseServerSpec", mapping [("hostname", server.getOr "hostname" (.str [])),
    ("useExistingDeployment", .scalar (.bool false))])]

/-! ### The spec -/

/-- What the sections of the inventory are when they are asked for. -/
structure Sections where
  site : Mapping
  dns : Mapping
  ntp : Mapping
  networks : Value
  appliances : Value
  nsx : Value
  storage : Value
  creds : Value
  hosts : List Value

/-- The sections, as far as the start of the spec asks for them. -/
def sectionsOf (inventory : Mapping) : Run Sections := do
  let dns ← (inventory.get "dns").orEmpty.fields
  let site ← (inventory.get "instance").orEmpty.fields
  let ntp ← (inventory.get "ntp").orEmpty.fields
  return {
    site := site, dns := dns, ntp := ntp,
    networks := (inventory.get "networks").orEmpty,
    appliances := (inventory.get "appliances").orEmpty,
    nsx := (inventory.get "nsx").orEmpty,
    storage := (inventory.get "storage").orEmpty,
    creds := (inventory.get "credentials").orEmpty,
    hosts := (inventory.get "hosts").asSequence }

/-- The part of the spec that every inventory gets. -/
def baseSpec (intOf : Text → Option ℤ) (defaults : List (String × DefaultEntry)) (version : Text)
    (parts : Sections) : Run (List (String × Value) × List Finding) := do
  let (workflow, workflowFindings) ← applyDefault defaults "workflowType"
  let (ceip, ceipFindings) ← applyDefault defaults "ceipEnabled"
  let (skip, skipFindings) ← applyDefault defaults "skipEsxThumbprintValidation"
  let networks ← networkSpecs intOf parts.networks
  let (vcenter, vcenterFindings) ← vcenterSpec defaults parts.appliances parts.creds
  let manager ← sddcManagerSpec parts.appliances parts.creds
  let hosts ← parts.hosts.mapM (hostSpec parts.creds)
  return ([("sddcId", parts.site.getOr "sddcId" (.str [])),
    ("vcfInstanceName", parts.site.getOr "name" (.str [])),
    ("version", parts.site.getOr "vcfVersion" (.str version)),
    ("workflowType", workflow), ("ceipEnabled", ceip), ("skipEsxThumbprintValidation", skip),
    ("dnsSpec", mapping [("subdomain", parts.dns.getOr "subdomain" (.str [])),
      ("nameservers", .list (parts.dns.get "nameservers").asSequence)]),
    ("ntpServers", .list (parts.ntp.get "servers").asSequence),
    ("networkSpecs", .list networks), ("vcenterSpec", vcenter), ("sddcManagerSpec", manager),
    ("hostSpecs", .list hosts)],
    workflowFindings ++ ceipFindings ++ skipFindings ++ vcenterFindings)

/-- The parts that only some inventories get. -/
def furtherSpecs (intOf : Text → Option ℤ) (defaults : List (String × DefaultEntry))
    (parts : Sections) : Run (List (String × Value) × List Finding) := do
  let (nsx, nsxFindings) ← nsxPart intOf defaults parts.nsx parts.creds
  let datastore ← datastoreSpec intOf (← parts.storage.fields)
  let appliances ← parts.appliances.fields
  let vsp ← vspSpec (appliances.get "vsp")
  let operations ← operationsSpec (appliances.get "operations").asMapping parts.creds
  let collector ← collectorSpec (appliances.get "operationsCollector").asMapping parts.creds
  return (nsx ++ datastore ++ vsp ++ operations ++ collector ++
    brokerSpec (appliances.get "identityBroker").asMapping ++
    licenseSpec (appliances.get "licenseServer").asMapping, nsxFindings)

/-- `render`. -/
def render (intOf : Text → Option ℤ) (inventory : Mapping) (version : Text) :
    Run (Value × List Finding) := do
  let defaults ← loadDefaults version
  let parts ← sectionsOf inventory
  let (base, baseFindings) ← baseSpec intOf defaults version parts
  let (further, furtherFindings) ← furtherSpecs intOf defaults parts
  return (mapping (base ++ further), missingSections inventory ++ baseFindings ++ furtherFindings)

end VcfSpec

end LocalGpuCluster
