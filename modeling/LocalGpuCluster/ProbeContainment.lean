/-
This file proves that the probes stay where the operator lets them. Each step of a probe is a lookup or
a connection that a gate let through, whatever the resolver answered before. The address that is used
after a gate is written anew, and it is the address that the gate saw.
-/

import LocalGpuCluster.Interaction
import LocalGpuCluster.IpText
import LocalGpuCluster.Probes

namespace LocalGpuCluster

namespace VcfSpec

open Interaction

/-! ### The address behind the gate -/

/-- An address is the same after it was written. -/
theorem address_str {value : Value} {written : Text} (isWritten : value.addressText = some written) :
    (Value.str written).address = value.address := by
  obtain ⟨address, isAddress, rfl⟩ := Option.map_eq_some_iff.mp isWritten
  rw [isAddress]
  show Ip.ofText _ = some address
  split
  · rename_i number content
    exact Ip.ofText_v6Text (Ip.isScope_of_v6Of (Ip.v6Of_of_ofText isAddress))
  · exact Ip.ofText_toText address

theorem permits_str {config : ProbeConfig} {value : Value} {written : Text}
    (isWritten : value.addressText = some written) (permitted : config.permits value = true) :
    config.permits (.str written) = true := by
  unfold ProbeConfig.permits at permitted ⊢
  rwa [address_str isWritten]

theorem addressText_of_permits {config : ProbeConfig} {host : Mapping}
    (permitted : config.permits (mgmtIpOf host) = true) :
    (mgmtIpOf host).addressText = some (probeIpOf host) := by
  unfold ProbeConfig.permits at permitted
  cases isAddress : (mgmtIpOf host).address with
  | none =>
    rw [isAddress] at permitted
    cases permitted
  | some address =>
    unfold probeIpOf Value.addressText
    rw [isAddress]
    rfl

/-! ### Steps -/

section Steps

variable {World : Type} {runtime : Runtime} {config : ProbeConfig} {seams : Seams World}
  {allowed : Touch → Prop}

theorem records_lookup {query : Query} (may : allowed (.lookup query)) :
    Records Session.touches allowed (lookup seams query) := fun _ =>
  ⟨[.lookup query], rfl, fun _ member => List.mem_singleton.mp member ▸ may⟩

theorem records_connect {host : Text} {port : ℕ} (may : allowed (.connect host port)) :
    Records Session.touches allowed (guardedConnect seams host port) := fun _ =>
  ⟨[.connect host port], rfl, fun _ member => List.mem_singleton.mp member ▸ may⟩

theorem records_read : Records Session.touches allowed (readResolvers seams) := fun _ =>
  ⟨[], (List.append_nil _).symm, fun _ member => absurd member List.not_mem_nil⟩

theorem records_uncaught {Result : Type} (result : Except Exn Result) :
    Records Session.touches allowed (uncaught result : Probe World Result) := by
  cases result with
  | ok result => exact records_pure result
  | error exn => exact records_throw _

/-! ### Hosts -/

theorem records_probeForward {path fqdn probeIp : Text}
    (may : config.permitsName runtime fqdn = true → allowed (.lookup ⟨fqdn, false, true⟩)) :
    Records Session.touches allowed (probeForward runtime config seams path fqdn probeIp) := by
  unfold probeForward
  split
  · exact records_pure _
  · rename_i named
    refine records_bind (records_lookup (may (by simpa using named))) fun answer => ?_
    cases answer <;> exact records_pure _

theorem records_probeReverse {path fqdn probeIp : Text} {canonical : Answer}
    (may : allowed (.lookup ⟨probeIp, true, false⟩)) :
    Records Session.touches allowed
      (probeReverse runtime config seams path fqdn probeIp canonical) := by
  refine records_bind (records_lookup may) fun answer => ?_
  cases answer with
  | none => exact records_pure _
  | text content => exact records_uncaught _
  | pair first second writes => exact records_uncaught _
  | other writes => exact records_uncaught _

theorem records_probeConnect {path probeIp : Text} (may : allowed (.connect probeIp esxPort)) :
    Records Session.touches allowed (probeConnect seams path probeIp) := by
  refine records_bind (records_connect may) fun answer => ?_
  obtain _ | _ | _ := answer <;> exact records_pure _

/-- The probe of a host: what it may do follows from what the gates let through. -/
theorem records_probeHost {subdomain : Value} {path : Text} {host : Mapping}
    (forward : ∀ fqdn, config.permitsName runtime fqdn = true → allowed (.lookup ⟨fqdn, false, true⟩))
    (reverse : config.permits (mgmtIpOf host) = true → allowed (.lookup ⟨probeIpOf host, true, false⟩))
    (connect : config.permits (mgmtIpOf host) = true → allowed (.connect (probeIpOf host) esxPort)) :
    Records Session.touches allowed (probeHost runtime config seams subdomain path host) := by
  unfold probeHost
  split
  · refine records_bind ?_ fun target => records_pure _
    unfold formatValue
    split
    · exact records_throw _
    · exact records_pure _
  · rename_i blocked
    have permitted : config.permits (mgmtIpOf host) = true := by simpa using blocked
    split
    · exact records_pure _
    · rename_i fqdn _
      exact records_bind (records_probeForward (forward fqdn)) fun answer =>
        records_bind (records_probeReverse (reverse permitted)) fun findings =>
          records_bind (records_probeConnect (connect permitted)) fun _ => records_pure _

/-! ### Appliances -/

theorem records_probeApplianceReverse {appliance : Appliance} {canonical : Answer} {resolved : Text}
    (may : allowed (.lookup ⟨resolved, true, false⟩)) :
    Records Session.touches allowed
      (probeApplianceReverse runtime config seams appliance canonical resolved) := by
  refine records_bind (records_lookup may) fun answer => ?_
  cases answer with
  | none => exact records_pure _
  | text content => exact records_uncaught _
  | pair first second writes => exact records_uncaught _
  | other writes => exact records_uncaught _

/-- The probe of an appliance is no more than lookups. -/
theorem records_probeAppliance {appliance : Appliance}
    (forward : ∀ fqdn, config.permitsName runtime fqdn = true → allowed (.lookup ⟨fqdn, false, true⟩))
    (reverse : ∀ resolved, config.permits (.str resolved) = true →
      allowed (.lookup ⟨resolved, true, false⟩)) :
    Records Session.touches allowed (probeAppliance runtime config seams appliance) := by
  unfold probeAppliance
  dsimp only
  split
  · exact records_pure _
  · rename_i named
    refine records_bind (records_lookup (forward _ (by simpa using named))) fun answer => ?_
    split
    · exact records_pure _
    · rename_i resolved _
      split
      · exact records_pure _
      · split
        · exact records_pure _
        · rename_i blocked
          exact records_probeApplianceReverse (reverse resolved (by simpa using blocked))
    · exact records_pure _
    · exact records_pure _

/-! ### Documents -/

theorem records_probeVantage {inventory : Mapping} :
    Records Session.touches allowed (probeVantage seams inventory) := by
  refine records_bind (fun _ => ⟨[], (List.append_nil _).symm,
    fun _ member => absurd member List.not_mem_nil⟩) fun session => ?_
  split
  · unfold resolverVantagePoint
    dsimp only
    split
    · exact records_pure _
    · refine records_bind records_read fun reading => ?_
      split
      · exact records_pure _
      · exact records_throw _
  · exact records_pure _

theorem records_runProbes {inventory : Mapping}
    (forward : ∀ fqdn, config.permitsName runtime fqdn = true → allowed (.lookup ⟨fqdn, false, true⟩))
    (reverse : ∀ resolved, config.permits (.str resolved) = true →
      allowed (.lookup ⟨resolved, true, false⟩))
    (connect : ∀ entry ∈ probedHosts inventory, config.permits (mgmtIpOf entry.2) = true →
      allowed (.connect (probeIpOf entry.2) esxPort)) :
    Records Session.touches allowed (runProbes runtime config seams inventory) := by
  unfold runProbes
  refine records_bind (records_uncaught _) fun unusable => ?_
  split
  · exact records_pure _
  · unfold probeDocument probeHosts probeAppliances
    refine records_bind (records_mapM fun entry isHost => ?_) fun hosts =>
      records_bind (records_mapM fun appliance _ => records_probeAppliance forward reverse)
        fun appliances => records_bind records_probeVantage fun vantage => records_pure _
    exact records_probeHost forward
      (fun permitted => reverse _ (permits_str (addressText_of_permits permitted) permitted))
      (connect entry isHost)

end Steps

/-! ### Containment -/

/-- What the operator lets the probes do: names under a domain, addresses in a network, and connections
to the addresses that the inventory declares for its hosts. -/
def Contained (runtime : Runtime) (config : ProbeConfig) (inventory : Mapping) : Touch → Prop
  | .lookup query =>
      if query.wantReverse then config.permits (.str query.name) = true
      else config.permitsName runtime query.name = true
  | .connect address port =>
      port = esxPort ∧ config.permits (.str address) = true ∧
        ∃ entry ∈ probedHosts inventory, (mgmtIpOf entry.2).address = (Value.str address).address

/-- The probes of a document are contained. -/
structure ProbesContained {World : Type} (runtime : Runtime) (config : ProbeConfig)
    (seams : Seams World) (inventory : Mapping) (world : World) : Prop where
  touches : ∀ touch ∈ (runProbes runtime config seams inventory ⟨world, []⟩).2.touches,
    Contained runtime config inventory touch
  /-- An appliance is looked up and never connected to. -/
  appliances : ∀ appliance, Records Session.touches (fun touch => ∃ query, touch = .lookup query)
    (probeAppliance runtime config seams appliance)
  closed : config.allowlist = [] → config.domainAllowlist = [] →
    (runProbes runtime config seams inventory ⟨world, []⟩).2.touches = []

theorem probes_contained {World : Type} (runtime : Runtime) (config : ProbeConfig)
    (seams : Seams World) (inventory : Mapping) (world : World) :
    ProbesContained runtime config seams inventory world where
  touches := by
    refine (records_runProbes (fun fqdn named => ?_) (fun resolved permitted => ?_)
      fun entry isHost permitted => ?_).all rfl
    · exact named
    · exact permitted
    · have written := addressText_of_permits permitted
      exact ⟨rfl, permits_str written permitted, entry, isHost, (address_str written).symm⟩
  appliances appliance := records_probeAppliance (fun _ _ => ⟨_, rfl⟩) fun _ _ => ⟨_, rfl⟩
  closed noAddress noName := by
    have blocked (value : Value) : config.permits value = false := by
      unfold ProbeConfig.permits
      rw [noAddress]
      cases value.address <;> rfl
    have unnamed (fqdn : Text) : config.permitsName runtime fqdn = false := by
      unfold ProbeConfig.permitsName
      rw [noName]
      exact Bool.and_false _
    have nothing : Records Session.touches (fun _ => False)
        (runProbes runtime config seams inventory) :=
      records_runProbes (fun fqdn named => by simp [unnamed] at named)
        (fun resolved permitted => by simp [blocked] at permitted)
        fun entry _ permitted => by simp [blocked] at permitted
    exact List.eq_nil_iff_forall_not_mem.mpr (nothing.all rfl)

end VcfSpec

end LocalGpuCluster
