/-
This file models `check_networks` of `vcfspec/rules/network.py`, the rules that no schema can express: the
networks of an inventory against each other, their gateways and VLANs, the hosts against the management
network, and the pools. The rules run on documents that need not fit the schema. What is malformed is
skipped, but `sorted` raises on keys of different kinds, a VLAN that is a list has no hash, and a finding
writes values that `str` may refuse.
-/

import LocalGpuCluster.Dictionary
import LocalGpuCluster.IpBlocks
import LocalGpuCluster.SpecDiff
import LocalGpuCluster.SpecPools

namespace LocalGpuCluster

namespace VcfSpec

/-! ### The networks that are usable -/

/-- `as_network`. -/
def Value.asNetwork : Value → Option (Ip × ℕ)
  | .scalar (.str content) => Ip.networkOf content
  | value => (value.asInt.bind Ip.ofInt).map fun address =>
      match address with
      | .v4 base => (.v4 base, 32)
      | .v6 base => (.v6 base, 128)

structure UsableNetwork where
  net : Ip × ℕ
  vlan : Value
  gateway : Value
  subnet : Value

/-- The usable networks by their purpose. -/
abbrev Networks := List (Scalar × UsableNetwork)

def tepPurpose : Scalar := .str (text "nsx.tepPool")

/-- The loop body of `_usable_networks`. -/
def usableNetwork (purpose : Scalar) : Value → Option (Scalar × UsableNetwork)
  | .dict entry =>
      (Mapping.get entry "subnet").asNetwork.map fun net =>
        (purpose, ⟨net, Mapping.get entry "vlan", Mapping.get entry "gateway",
          Mapping.get entry "subnet"⟩)
  | _ => none

/-- `_usable_networks`. -/
def usableNetworks (inventory : Mapping) : Networks :=
  let out := (inventory.get "networks").asMapping.filterMap fun item => usableNetwork item.1 item.2
  let nsx := (inventory.get "nsx").asMapping
  let tep := (nsx.get "tepPool").asMapping
  match (tep.get "cidr").asNetwork with
  | none => out
  | some net =>
      Dictionary.assign out tepPurpose ⟨net, nsx.get "transportVlanId", tep.get "gateway", tep.get "cidr"⟩

/-- `sorted(networks.items())`. -/
def sortedItems (networks : Networks) : Run Networks :=
  if sortable (networks.map Prod.fst) then
    pure (networks.insertionSort fun first second => first.1.before second.1 = true)
  else throw .typeError

/-! ### Findings -/

def esxDesignUrl : Text :=
  text "https://techdocs.broadcom.com/us/en/vmware-cis/vcf/vcf-9-0-and-later/9-1/design/" ++
    text "design-library/vsphere-detailed-design/esx-design.html"

def commissionHostsUrl : Text :=
  text "https://techdocs.broadcom.com/us/en/vmware-cis/vcf/vcf-9-0-and-later/9-1/" ++
    text "building-your-private-cloud-infrastructure/host-management/commission-hosts.html"

def gatewayOutside (purpose gateway subnet : Text) : Finding :=
  docsError "VCF-NET-GATEWAY-OUTSIDE-SUBNET" (text "/networks/" ++ purpose ++ text "/gateway")
    (text "Gateway " ++ gateway ++ text " is not inside subnet " ++ subnet ++ text " for network '" ++
      purpose ++ text "'.")
    "Set a gateway address within the declared subnet." esxDesignUrl

def subnetOverlap (purpose subnet other otherSubnet : Text) : Finding :=
  docsError "VCF-NET-SUBNET-OVERLAP" (text "/networks/" ++ purpose ++ text "/subnet")
    (text "'" ++ purpose ++ text "' (" ++ subnet ++ text ") overlaps '" ++ other ++ text "' (" ++
      otherSubnet ++ text ").")
    "Give each traffic type a distinct subnet." esxDesignUrl

def vlanReused (vlan purpose other : Text) : Finding :=
  docsError "VCF-NET-VLAN-REUSED" (text "/networks/" ++ purpose ++ text "/vlan")
    (text "VLAN " ++ vlan ++ text " is used by both '" ++ purpose ++ text "' and '" ++ other ++ text "'.")
    "Separate each traffic type onto its own VLAN." esxDesignUrl

def fabricMtuTooLow (mtu : Text) : Finding :=
  docsError "VCF-NSX-FABRIC-MTU-TOO-LOW" (text "/nsx/fabricMtu")
    (text "NSX fabric MTU is " ++ mtu ++ text "; overlay traffic needs at least 1600.")
    "Set fabricMtu to 1600 or more (9000 where the switches allow it)." esxDesignUrl

def hostIpOutside (index : ℕ) (name ip subnet : Text) : Finding :=
  docsError "VCF-NET-HOST-IP-OUTSIDE-SUBNET" (text "/hosts/" ++ decimal index ++ text "/mgmtIp")
    (text "Host " ++ name ++ text " management IP " ++ ip ++ text " is outside " ++ subnet ++ text ".")
    "Give the host an address inside the management subnet." commissionHostsUrl

def duplicateIp (ip whereUsed : Text) : Finding :=
  docsError "VCF-NET-DUPLICATE-IP" (text "/hosts")
    (text "IP " ++ ip ++ text " is used more than once (" ++ whereUsed ++ text ").")
    "Give every host a unique address." []

def tepPoolTooSmall (size : ℤ) (hosts needed : ℕ) : Finding :=
  { docsError "VCF-NSX-TEP-POOL-TOO-SMALL" (text "/nsx/tepPool/ranges")
      (text "TEP pool holds " ++ decimal size ++ text " addresses; " ++ decimal hosts ++
        text " hosts typically need " ++ decimal needed ++ text ".")
      "Widen the TEP pool: two tunnel endpoints per host is the usual figure." esxDesignUrl with
    severity := .warning }

/-! ### The rules -/

/-- The findings of a loop, round by round. -/
def collect {Item : Type} (items : List Item) (rule : Item → Run (List Finding)) :
    Run (List Finding) := do
  let found ← items.mapM rule
  pure found.flatten

section Rules

variable (runtime : Runtime)

/-- The loop body of `_gateway_rules`. -/
def gatewayRule (item : Scalar × UsableNetwork) : Run (List Finding) :=
  match item.2.gateway.asAddress with
  | none => pure []
  | some gateway =>
      if gateway.within item.2.net then pure []
      else do
        let purpose ← runtime.str (.scalar item.1)
        let written ← runtime.str item.2.gateway
        let subnet ← runtime.str item.2.subnet
        pure [gatewayOutside purpose written subnet]

/-- `_gateway_rules`. -/
def gatewayRules (networks : Networks) : Run (List Finding) := do
  let items ← sortedItems networks
  collect items (gatewayRule runtime)

/-- The inner loop body of `_overlap_rules`. -/
def overlapRule (item other : Scalar × UsableNetwork) : Run (List Finding) :=
  if Ip.overlaps item.2.net other.2.net then do
    let purpose ← runtime.str (.scalar item.1)
    let subnet ← runtime.str item.2.subnet
    let otherPurpose ← runtime.str (.scalar other.1)
    let otherSubnet ← runtime.str other.2.subnet
    pure [subnetOverlap purpose subnet otherPurpose otherSubnet]
  else pure []

/-- The outer loop of `_overlap_rules`. -/
def overlapFrom : Networks → Run (List Finding)
  | [] => pure []
  | item :: rest => do
      let here ← collect rest (overlapRule runtime item)
      let later ← overlapFrom rest
      pure (here ++ later)

/-- `_overlap_rules`. -/
def overlapRules (networks : Networks) : Run (List Finding) := do
  let items ← sortedItems networks
  overlapFrom runtime items

/-- The loop of `_vlan_rules`, with the VLANs that are seen. What has no hash raises. -/
def vlanFrom (seen : List (Scalar × Scalar)) : Networks → Run (List Finding)
  | [] => pure []
  | (purpose, entry) :: rest =>
      match entry.vlan with
      | .scalar .null => vlanFrom seen rest
      | .scalar vlan =>
          match seen.find? fun used => used.1.same vlan with
          | some used => do
              let written ← runtime.str (.scalar vlan)
              let name ← runtime.str (.scalar purpose)
              let other ← runtime.str (.scalar used.2)
              let later ← vlanFrom seen rest
              pure (vlanReused written name other :: later)
          | none => vlanFrom (seen ++ [(vlan, purpose)]) rest
      | _ => throw .typeError

/-- `_vlan_rules`. -/
def vlanRules (networks : Networks) : Run (List Finding) := do
  let items ← sortedItems networks
  vlanFrom runtime [] items

/-- `TEP_MTU_MIN`. -/
def tepMtuMin : ℤ := 1600

/-- `_mtu_rules`. -/
def mtuRules (inventory : Mapping) : Run (List Finding) :=
  let mtu := (inventory.get "nsx").asMapping.get "fabricMtu"
  match mtu.asInt with
  | none => pure []
  | some value =>
      if value < tepMtuMin then do
        let written ← runtime.str mtu
        pure [fabricMtuTooLow written]
      else pure []

/-- A host as the first loop of `_host_rules` sees it: its address, `mgmtIp` and its name. -/
structure UsableHost where
  index : ℕ
  address : Ip
  ip : Value
  name : Value

def usableHost (item : Value × ℕ) : Option UsableHost :=
  match item.1 with
  | .dict host =>
      (Mapping.get host "mgmtIp").asAddress.map fun address =>
        ⟨item.2, address, Mapping.get host "mgmtIp",
          Mapping.getOr host "name" (.str (text "hosts[" ++ decimal item.2 ++ text "]"))⟩
  | _ => none

/-- The hosts with a management address. -/
def usableHosts (inventory : Mapping) : List UsableHost :=
  (inventory.get "hosts").asSequence.zipIdx.filterMap usableHost

/-- `networks.get("management")`. -/
def management (networks : Networks) : Option UsableNetwork :=
  (networks.find? fun item => item.1 = .str (text "management")).map Prod.snd

/-- The first loop body of `_host_rules`: what is appended to `seen`, and the findings. -/
def hostRule (networks : Networks) (host : UsableHost) : Run ((Text × Value) × List Finding) := do
  let key ← runtime.str host.ip
  match management networks with
  | some mgmt =>
      if host.address.within mgmt.net then pure ((key, host.name), [])
      else do
        let name ← runtime.str host.name
        let ip ← runtime.str host.ip
        let subnet ← runtime.str mgmt.subnet
        pure ((key, host.name), [hostIpOutside host.index name ip subnet])
  | none => pure ((key, host.name), [])

/-- A value that is a string. -/
def Value.asText : Value → Option Text
  | .scalar (.str content) => some content
  | _ => none

/-- `", ".join(sorted(owners))` of two owners or more. -/
def joinOwners (owners : List Value) : Run Text :=
  match owners.mapM Value.asText with
  | some names => pure (Text.join (text ", ") (names.insertionSort fun first second => first ≤ second))
  | none => throw .typeError

/-- The second loop body of `_host_rules`, for one of the addresses in `seen`. -/
def duplicateRule (seen : List (Text × Value)) (ip : Text) : Run (List Finding) :=
  let owners := (seen.filter fun entry => entry.1 = ip).map Prod.snd
  if 1 < owners.length then do
    let written ← joinOwners owners
    pure [duplicateIp ip written]
  else pure []

/-- `_host_rules`. -/
def hostRules (inventory : Mapping) (networks : Networks) : Run (List Finding) := do
  let rounds ← (usableHosts inventory).mapM (hostRule runtime networks)
  let seen := rounds.map Prod.fst
  let ips := (seen.map Prod.fst).dedup.insertionSort fun first second => first ≤ second
  let duplicates ← collect ips (duplicateRule seen)
  pure ((rounds.map Prod.snd).flatten ++ duplicates)

/-- `TEPS_PER_HOST`. -/
def tepsPerHost : ℕ := 2

/-- The addresses of a range of the TEP pool. -/
def tepRangeSize : Value → ℤ
  | .dict entry =>
      match (Mapping.get entry "start").asAddress, (Mapping.get entry "end").asAddress with
      | some start, some finish =>
          if intOf finish < intOf start then 0 else intOf finish - intOf start + 1
      | _, _ => 0
  | _ => 0

/-- `_tep_pool_rules`. -/
def tepPoolRules (inventory : Mapping) : List Finding :=
  let pool := ((inventory.get "nsx").asMapping.get "tepPool").asMapping
  let ranges := (pool.get "ranges").asSequence
  let hosts := (inventory.get "hosts").asSequence.length
  let size := (ranges.map tepRangeSize).sum
  let needed := hosts * tepsPerHost
  if hosts ≠ 0 ∧ size < needed then [tepPoolTooSmall size hosts needed] else []

/-- `check_networks`. -/
def checkNetworks (inventory : Mapping) : Run (List Finding) :=
  let networks := usableNetworks inventory
  collect [gatewayRules runtime networks, overlapRules runtime networks, vlanRules runtime networks,
    mtuRules runtime inventory, hostRules runtime inventory networks, pure (tepPoolRules inventory),
    pure (ipPoolRules inventory)] id

end Rules

end VcfSpec

end LocalGpuCluster
