/-
This file models `probes.py`: what is looked up and connected to, and what is reported of it. The
resolver, the connector and the reader are given by what they answer in a state of the world outside,
which each call may change. A resolver that is late counts as one that raised. The time limit only
decides that, so it is left out.
-/

import LocalGpuCluster.IpAddress
import LocalGpuCluster.ProbeFindings
import LocalGpuCluster.SpecRuntime

namespace LocalGpuCluster

namespace VcfSpec

/-! ### Permissions -/

structure ProbeConfig where
  allowlist : List Text
  domainAllowlist : List Text

/-- `ip_address(value)`, `none` for `TypeError` and `ValueError`: the text of a float, a list or a
mapping is no address. -/
def Value.address : Value → Option Ip
  | .scalar (.str content) => Ip.ofText content
  | .scalar (.int value) => Ip.ofInt value
  | .scalar (.bool value) => Ip.ofInt (if value then 1 else 0)
  | _ => none

/-- `str(ip_address(value))`. A scope id is kept. -/
def Value.addressText (value : Value) : Option Text :=
  value.address.map fun address =>
    match address, value with
    | .v6 _, .scalar (.str content) => address.toText ++ content.dropWhile (· ≠ 0x25)
    | _, _ => address.toText

/-- `ProbeConfig.permits`. -/
def ProbeConfig.permits (config : ProbeConfig) (value : Value) : Bool :=
  value.address.any fun address =>
    config.allowlist.any fun cidr => (Ip.networkOf cidr).any (Ip.within address)

def isDot (point : CodePoint) : Bool := point = 0x2E

/-- `ProbeConfig.permits_name` of a text. -/
def ProbeConfig.permitsName (runtime : Runtime) (config : ProbeConfig) (fqdn : Text) : Bool :=
  let candidate := runtime.lower (Text.stripRight isDot (Text.strip CodePoint.isSpace fqdn))
  candidate ≠ [] && config.domainAllowlist.any fun suffix =>
    let wanted := runtime.lower (Text.strip isDot (Text.strip CodePoint.isSpace suffix))
    wanted ≠ [] && (candidate = wanted || (text "." ++ wanted).isSuffixOf candidate)

/-! ### The world outside -/

/-- What is raised in the world outside. -/
structure Exn where
  name : Text
  /-- It is a `TypeError`. -/
  isTypeError : Bool
  deriving DecidableEq, Repr

/-- What `str` and `str.format` make of a value. -/
structure Writes where
  str : Except Exn Text
  format : Except Exn Text

/-- What the resolver answers. A `pair` is a tuple or a list of two items. -/
inductive Answer where
  | none
  | text (content : Text)
  | pair (canonical resolved : Answer) (writes : Writes)
  | other (writes : Writes)

/-- How an iteration ends. -/
inductive Ending where
  | stops
  | raises (exn : Exn)
  | never

/-- What the reader does. It answers with what cannot be a collection (a text, bytes or a mapping), or
with what can be iterated over: the texts among the items count. What is not iterable raises a
`TypeError` at once. -/
inductive Reading where
  | raises (exn : Exn)
  | refused (typeName : Text)
  | iterates (typeName : Text) (items : List (Option Text)) (ending : Ending)

/-- What `inspect` tells of a callable: nothing, or whether a call with the arguments binds. -/
inductive Signature where
  | unreadable
  | binds
  | raises (exn : Exn)

structure Seam where
  callable : Bool
  typeName : Text
  signature : Signature

structure Query where
  name : Text
  wantReverse : Bool
  wantCanonical : Bool
  deriving DecidableEq, Repr

/-- The injected callables, or the default ones. -/
structure Seams (World : Type) where
  resolver : Seam
  connector : Seam
  reader : Seam
  /-- `none` when the resolver raises or is late. -/
  resolve : Query → World → Option Answer × World
  /-- `none` when the connector raises, or `bool` does on what it answers. -/
  connect : Text → ℕ → World → Option Bool × World
  read : World → Reading × World

/-- What is done outside. -/
inductive Touch where
  | lookup (query : Query)
  | connect (host : Text) (port : ℕ)
  deriving DecidableEq, Repr

structure Session (World : Type) where
  world : World
  touches : List Touch

/-- Why `run_probes` does not return. -/
inductive Stop where
  | raised (exn : Exn)
  | endless

abbrev Probe (World : Type) := ExceptT Stop (StateM (Session World))

section Calls

variable {World : Type}

/-- `_bounded_resolve`, counted. -/
def lookup (seams : Seams World) (query : Query) : Probe World Answer := fun session =>
  let answered := seams.resolve query session.world
  (.ok (answered.1.getD .none), ⟨answered.2, session.touches ++ [.lookup query]⟩)

/-- `_guarded_connect`. -/
def guardedConnect (seams : Seams World) (host : Text) (port : ℕ) : Probe World (Option Bool) :=
  fun session =>
    let answered := seams.connect host port session.world
    (.ok answered.1, ⟨answered.2, session.touches ++ [.connect host port]⟩)

def readResolvers (seams : Seams World) : Probe World Reading := fun session =>
  let answered := seams.read session.world
  (.ok answered.1, { session with world := answered.2 })

/-- What is not caught. -/
def uncaught {Result : Type} : Except Exn Result → Probe World Result
  | .ok result => pure result
  | .error exn => throw (.raised exn)

end Calls

/-- `_unusable_reason`. -/
def Seam.unusableReason (seam : Seam) (arguments : ℕ) : Except Exn (Option Text) :=
  if !seam.callable then .ok (some (text "not callable (" ++ seam.typeName ++ text ")"))
  else
    match seam.signature with
    | .unreadable | .binds => .ok none
    | .raises exn =>
        if exn.isTypeError then
          .ok (some (text "cannot be called with " ++ decimal arguments ++
            text " positional argument" ++ if arguments = 1 then [] else text "s"))
        else .error exn

/-! ### Names -/

/-- `_compose_name`. -/
def composeName (short subdomain : Value) : Option Text :=
  match short with
  | .scalar (.str content) =>
      let head := Text.strip CodePoint.isSpace content
      if head = [] then none
      else if !subdomain.truthy then some head
      else
        match subdomain with
        | .scalar (.str content) =>
            let tail := Text.strip CodePoint.isSpace content
            some (if tail = [] then head else head ++ text "." ++ tail)
        | _ => none
  | _ => none

/-- A name of an appliance, and whether a reverse record is required for it. -/
structure Appliance where
  pointer : Text
  fqdn : Text
  ptrRequired : Bool

/-- A name in full, without the space around it. -/
def fullName (value : Value) : Option Text :=
  match value with
  | .scalar (.str content) =>
      let name := Text.strip CodePoint.isSpace content
      if name = [] then none else some name
  | _ => none

/-- `_appliance_targets`. -/
def applianceTargets (inventory : Mapping) (subdomain : Value) : List Appliance :=
  let appliances := (inventory.get "appliances").asMapping
  let nsx := (inventory.get "nsx").asMapping
  let vsp := (appliances.get "vsp").asMapping
  let named (pointer : String) (name : Option Text) (ptrRequired : Bool) : List Appliance :=
    (name.map fun fqdn => ⟨text pointer, fqdn, ptrRequired⟩).toList
  let hostname (appliance : String) : Value := (appliances.get appliance).asMapping.get "hostname"
  named "/appliances/vcenter/hostname" (composeName (hostname "vcenter") subdomain) true ++
  named "/appliances/sddcManager/hostname" (composeName (hostname "sddcManager") subdomain) true ++
  ((nsx.get "managers").asSequence.zipIdx.filterMap fun (manager, index) =>
    (composeName manager subdomain).map fun fqdn =>
      ⟨text "/nsx/managers/" ++ decimal (index : ℕ), fqdn, true⟩) ++
  named "/nsx/vipFqdn" (fullName (nsx.get "vipFqdn")) false ++
  named "/appliances/vsp/platformFqdn" (fullName (vsp.get "platformFqdn")) false ++
  named "/appliances/vsp/instanceFqdn" (fullName (vsp.get "instanceFqdn")) true

/-! ### Where the answers come from -/

/-- `dns` of the inventory. -/
def dnsOf (inventory : Mapping) : Mapping := (inventory.get "dns").asMapping

/-- `_address_strings` of the declared name servers. -/
def declaredServers (inventory : Mapping) : List Text :=
  ((dnsOf inventory).get "nameservers").asSequence.filterMap fun
    | .scalar (.str content) => some content
    | _ => none

/-- `_address_strings` of what the reader answered. Only a `TypeError` is caught. -/
def addressStrings (items : List (Option Text)) : Ending → Except Stop (Option (List Text))
  | .stops => .ok (some items.reduceOption)
  | .raises exn => if exn.isTypeError then .ok none else .error (.raised exn)
  | .never => .error .endless

def resolvConf : Text := text "/etc/resolv.conf"

def unusableReading (typeName : Text) : Finding :=
  probeUnknown (text "/dns/nameservers") resolvConf
    (text "the resolver configuration reader returned " ++ typeName ++
      text ", which is not a collection of addresses")

/-- `_resolver_vantage_point`, after the reader was called. -/
def vantageFindings (declared : List Text) : Reading → Except Stop (List Finding)
  | .raises exn => .ok [probeUnknown (text "/dns/nameservers") resolvConf
      (text "resolver configuration unreadable (" ++ exn.name ++ text ")")]
  | .refused typeName => .ok [unusableReading typeName]
  | .iterates typeName items ending => do
      match ← addressStrings items ending with
      | none => pure [unusableReading typeName]
      | some runner =>
          if runner = [] || runner.any (declared.contains ·) then pure []
          else pure [resolverMismatch (Text.join (text ", ") runner) (Text.join (text ", ") declared)]

/-- `_resolver_vantage_point`. -/
def resolverVantagePoint {World : Type} (seams : Seams World) (inventory : Mapping) :
    Probe World (List Finding) := do
  let declared := declaredServers inventory
  if declared = [] then pure []
  else
    let reading ← readResolvers seams
    match vantageFindings declared reading with
    | .ok findings => pure findings
    | .error stop => throw stop

/-! ### The round trip -/

/-- `_dns_name` of a text. -/
def dnsName (runtime : Runtime) (content : Text) : Text :=
  runtime.lower (Text.stripRight isDot (Text.strip CodePoint.isSpace content))

def Answer.str : Answer → Except Exn Text
  | .none => .ok (LocalGpuCluster.text "None")
  | .text content => .ok content
  | .pair _ _ writes | .other writes => writes.str

def Answer.format : Answer → Except Exn Text
  | .none => .ok (LocalGpuCluster.text "None")
  | .text content => .ok content
  | .pair _ _ writes | .other writes => writes.format

/-- The names that the reverse record may give. -/
def acceptedNames (runtime : Runtime) (config : ProbeConfig) (fqdn : Text) (canonical : Answer) :
    List Text :=
  dnsName runtime fqdn :: match canonical with
    | .text name => if config.permitsName runtime name then [dnsName runtime name] else []
    | _ => []

/-- `_round_trip`. -/
def roundTrip (runtime : Runtime) (config : ProbeConfig) (fqdn : Text) (reverse canonical : Answer) :
    Except Exn Bool := do
  let written ← reverse.str
  pure ((acceptedNames runtime config fqdn canonical).contains (dnsName runtime written))

/-- What is reported of a reverse record that there is. -/
def reverseFindings (runtime : Runtime) (config : ProbeConfig) (path ip fqdn : Text)
    (canonical reverse : Answer) : Except Exn (List Finding) := do
  if ← roundTrip runtime config fqdn reverse canonical then pure []
  else
    let written ← reverse.format
    pure [reverseMismatch path ip written fqdn]

/-! ### Probes -/

section Probes

variable {World : Type} (runtime : Runtime) (config : ProbeConfig) (seams : Seams World)

def noPair : Text := text "forward answer was not a (canonical name, address) pair"

def noAddress : Text := text "forward answer carried no address"

/-- What is reported of the address of a host's name. -/
def resolvedFindings (path fqdn probeIp : Text) : Answer → List Finding
  | .text resolved =>
      if Text.strip CodePoint.isSpace resolved = [] then [probeUnknown path fqdn noAddress]
      else if resolved ≠ probeIp then [forwardMismatch path fqdn resolved probeIp]
      else []
  | _ => [probeUnknown path fqdn noAddress]

/-- The forward lookup of a host: the canonical name, and what is reported. -/
def probeForward (path fqdn probeIp : Text) : Probe World (Answer × List Finding) :=
  if !config.permitsName runtime fqdn then pure (.none, [nameBlocked path fqdn])
  else do
    match ← lookup seams ⟨fqdn, false, true⟩ with
    | .none => pure (.none, [probeUnknown path fqdn (text "no forward DNS answer")])
    | .pair canonical resolved _ => pure (canonical, resolvedFindings path fqdn probeIp resolved)
    | _ => pure (.none, [probeUnknown path fqdn noPair])

/-- The reverse lookup of a host. -/
def probeReverse (path fqdn probeIp : Text) (canonical : Answer) : Probe World (List Finding) := do
  match ← lookup seams ⟨probeIp, true, false⟩ with
  | .none => pure [noReverseDns path probeIp fqdn]
  | reverse => uncaught (reverseFindings runtime config path probeIp fqdn canonical reverse)

/-- `ESX_PORT`. -/
def esxPort : ℕ := 443

def probeConnect (path probeIp : Text) : Probe World (List Finding) := do
  match ← guardedConnect seams probeIp esxPort with
  | none => pure [probeUnknown path probeIp (text "the connector raised")]
  | some false => pure [probeUnknown path probeIp
      (text "no TCP " ++ decimal esxPort ++ text " response")]
  | some true => pure []

/-- `str.format` of a value of the inventory. -/
def formatValue (value : Value) : Probe World Text :=
  if value.tooLong then throw (.raised ⟨text "ValueError", false⟩)
  else pure (runtime.toBuiltins.str value)

def mgmtIpOf (host : Mapping) : Value := host.getOr "mgmtIp" (.str [])

def hostFqdn (host : Mapping) (subdomain : Value) : Option Text :=
  composeName (host.getOr "name" (.str [])) subdomain

/-- What `probe_ip` is after the gate: it lets only addresses through. -/
def probeIpOf (host : Mapping) : Text := (mgmtIpOf host).addressText.getD []

/-- `_probe_host`. -/
def probeHost (subdomain : Value) (path : Text) (host : Mapping) :
    Probe World (Bool × List Finding) :=
  if !config.permits (mgmtIpOf host) then do
    let target ← formatValue runtime (mgmtIpOf host)
    pure (false, [targetBlocked path target])
  else
    match hostFqdn host subdomain with
    | none => pure (true, [probeUnknown path (probeIpOf host)
        (text "no usable DNS name: check the host's name and dns.subdomain")])
    | some fqdn => do
        let (canonical, forward) ← probeForward runtime config seams path fqdn (probeIpOf host)
        let reverse ← probeReverse runtime config seams path fqdn (probeIpOf host) canonical
        let connected ← probeConnect seams path (probeIpOf host)
        pure (true, forward ++ reverse ++ connected)

/-- The reverse lookup of an appliance. -/
def probeApplianceReverse (appliance : Appliance) (canonical : Answer) (resolved : Text) :
    Probe World (List Finding) := do
  match ← lookup seams ⟨resolved, true, false⟩ with
  | .none =>
      pure (if appliance.ptrRequired then [noReverseDns appliance.pointer resolved appliance.fqdn]
        else [])
  | reverse =>
      uncaught (reverseFindings runtime config appliance.pointer resolved appliance.fqdn canonical
        reverse)

/-- `_probe_appliance`. -/
def probeAppliance (appliance : Appliance) : Probe World (List Finding) :=
  let unknown (reason : Text) : Probe World (List Finding) :=
    pure [probeUnknown appliance.pointer appliance.fqdn reason]
  if !config.permitsName runtime appliance.fqdn then
    pure [nameBlocked appliance.pointer appliance.fqdn]
  else do
    match ← lookup seams ⟨appliance.fqdn, false, true⟩ with
    | .none => unknown (text "no forward DNS answer")
    | .pair canonical (.text resolved) _ =>
        if Text.strip CodePoint.isSpace resolved = [] then unknown noAddress
        else if !config.permits (.str resolved) then
          pure [targetBlocked appliance.pointer resolved]
        else probeApplianceReverse runtime config seams appliance canonical resolved
    | .pair _ _ _ => unknown noAddress
    | _ => unknown noPair

/-- The hosts that are mappings, with their positions. -/
def probedHosts (inventory : Mapping) : List (ℕ × Mapping) :=
  (inventory.get "hosts").asSequence.zipIdx.filterMap fun (item, index) =>
    match item with
    | .dict host => some (index, host)
    | _ => none

/-- The check of the seams, in their order: a finding where one cannot be used. -/
def Seams.check : Except Exn (Option Finding) := do
  match ← seams.resolver.unusableReason 3 with
  | some reason => pure (some (seamUnusable (text "resolver") reason))
  | none =>
    match ← seams.connector.unusableReason 3 with
    | some reason => pure (some (seamUnusable (text "connector") reason))
    | none =>
      match ← seams.reader.unusableReason 0 with
      | some reason => pure (some (seamUnusable (text "resolver configuration reader") reason))
      | none => pure none

def subdomainOf (inventory : Mapping) : Value := (dnsOf inventory).getOr "subdomain" (.str [])

def probeHosts (inventory : Mapping) : Probe World (List (Bool × List Finding)) :=
  (probedHosts inventory).mapM fun (index, host) => probeHost runtime config seams
    (subdomainOf inventory) (text "/hosts/" ++ decimal (index : ℕ)) host

def probeAppliances (inventory : Mapping) : Probe World (List (List Finding)) :=
  (applianceTargets inventory (subdomainOf inventory)).mapM (probeAppliance runtime config seams)

/-- `if lookups:`. -/
def lookedUp (touches : List Touch) : Bool :=
  touches.any fun
    | .lookup _ => true
    | .connect _ _ => false

/-- The note on the resolver, if an answer was asked for. -/
def probeVantage (inventory : Mapping) : Probe World (List Finding) := do
  if lookedUp (← get).touches then resolverVantagePoint seams inventory else pure []

/-- `run_probes` with seams that can be used. -/
def probeDocument (inventory : Mapping) : Probe World (List Finding) := do
  let hosts ← probeHosts runtime config seams inventory
  let appliances ← probeAppliances runtime config seams inventory
  let vantage ← probeVantage seams inventory
  let none := hosts ≠ [] ∧ hosts.all fun host => !host.1
  pure ((hosts.map Prod.snd).flatten ++ appliances.flatten ++ vantage ++
    if none then [nothingPermitted hosts.length] else [])

/-- `run_probes`. -/
def runProbes (inventory : Mapping) : Probe World (List Finding) := do
  match ← uncaught seams.check with
  | some unusable => pure [unusable]
  | none => probeDocument runtime config seams inventory

end Probes

end VcfSpec

end LocalGpuCluster
