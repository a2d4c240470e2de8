/-
This file says what an inventory is that `check_networks` finds nothing in: no two of its networks share an
address or a VLAN, gateways and hosts are on their networks, and the pools have addresses for all
hosts. The rules find nothing exactly there, whatever the document holds besides.
-/

import LocalGpuCluster.IpText
import LocalGpuCluster.SpecDiffSame
import LocalGpuCluster.SpecNetworks
import Mathlib.Algebra.Order.BigOperators.Group.List

namespace LocalGpuCluster

namespace VcfSpec

/-! ### Runs that find nothing -/

theorem Run.mapM_eq_ok {Item Result : Type} {read : Item → Run Result} {items : List Item}
    {results : List Result} : items.mapM read = .ok results ↔
      List.Forall₂ (fun item result => read item = .ok result) items results := by
  induction items generalizing results with
  | nil =>
    rw [List.forall₂_nil_left_iff]
    exact ⟨fun ran => (Except.ok.inj ran).symm, fun empty => congrArg Except.ok empty.symm⟩
  | cons item rest inductionHypothesis =>
    rw [List.mapM_cons, Run.bind_eq_ok, List.forall₂_cons_left_iff]
    constructor
    · rintro ⟨result, ranHere, ran⟩
      obtain ⟨later, ranLater, ran⟩ := Run.bind_eq_ok.mp ran
      exact ⟨result, later, ranHere, inductionHypothesis.mp ranLater, (Except.ok.inj ran).symm⟩
    · rintro ⟨result, later, ranHere, ranLater, rfl⟩
      exact ⟨result, ranHere, Run.bind_eq_ok.mpr ⟨later, inductionHypothesis.mpr ranLater, rfl⟩⟩

section Findings

variable {Item : Type} {items : List Item} {rule : Item → Run (List Finding)}

/-- The rounds of a loop find nothing, each of them. -/
theorem collect_eq_nil_iff : collect items rule = .ok [] ↔ ∀ item ∈ items, rule item = .ok [] := by
  unfold collect
  rw [Run.bind_eq_ok]
  constructor
  · rintro ⟨found, ran, nothing⟩ item member
    have empty := List.flatten_eq_nil_iff.mp (Except.ok.inj nothing)
    obtain ⟨here, inFound, same⟩ := Matching.exists_right (Run.mapM_eq_ok.mp ran) member
    rw [same, empty here inFound]
  · intro each
    refine ⟨items.map fun _ => [], Run.mapM_eq_ok.mpr ?_, congrArg Except.ok ?_⟩
    · exact List.forall₂_map_right_iff.mpr (List.forall₂_same.mpr each)
    · rw [List.flatten_eq_nil_iff, List.forall_mem_map]
      exact fun _ _ => rfl

/-- A run that ends in a finding does not find nothing. -/
theorem bind_ne_nil {Middle : Type} {run : Run Middle} {next : Middle → Run (List Finding)}
    (finds : ∀ middle, next middle ≠ .ok []) : (run >>= next) ≠ .ok [] := fun same =>
  let ⟨middle, _, nothing⟩ := Run.bind_eq_ok.mp same
  finds middle nothing

theorem pure_cons_ne_nil (finding : Finding) (rest : List Finding) :
    (pure (finding :: rest) : Run (List Finding)) ≠ .ok [] := fun same =>
  List.cons_ne_nil _ _ (Except.ok.inj same)

end Findings

/-! ### Sorted networks -/

section Sorted

variable {networks : Networks} {next : Networks → Run (List Finding)}

theorem sortedItems_eq_ok {items : Networks} (sorted : sortedItems networks = .ok items) :
    items.Perm networks := by
  unfold sortedItems at sorted
  split at sorted
  · cases sorted
    exact List.perm_insertionSort _ networks
  · cases sorted

/-- What a rule finds in sorted networks, when it looks at them alone or in pairs. -/
theorem sorted_eq_nil_iff (holds : Networks → Prop)
    (ran : ∀ items, items.Perm networks → (next items = .ok [] ↔ holds items))
    (perm : ∀ items, items.Perm networks → (holds items ↔ holds networks)) :
    (sortedItems networks >>= next) = .ok [] ↔
      sortable (networks.map Prod.fst) = true ∧ holds networks := by
  rw [Run.bind_eq_ok]
  constructor
  · rintro ⟨items, sorted, nothing⟩
    have same := sortedItems_eq_ok sorted
    refine ⟨?_, (perm items same).mp ((ran items same).mp nothing)⟩
    by_contra mixed
    rw [sortedItems, if_neg mixed] at sorted
    cases sorted
  · rintro ⟨uniform, fine⟩
    have sorted : (networks.insertionSort fun first second => first.1.before second.1 = true).Perm
        networks := List.perm_insertionSort _ networks
    refine ⟨_, by rw [sortedItems, if_pos uniform]; rfl, ?_⟩
    exact (ran _ sorted).mpr ((perm _ sorted).mpr fine)

end Sorted

/-! ### Each rule -/

section Rules

variable {runtime : Runtime} {networks : Networks}

/-- The gateway is on its network, if it is an address. -/
def GatewayInside (item : Scalar × UsableNetwork) : Prop :=
  ∀ gateway, item.2.gateway.asAddress = some gateway → gateway.within item.2.net = true

theorem gatewayRule_eq_nil_iff {item : Scalar × UsableNetwork} :
    gatewayRule runtime item = .ok [] ↔ GatewayInside item := by
  unfold gatewayRule GatewayInside
  cases item.2.gateway.asAddress with
  | none => exact iff_of_true rfl fun _ found => by cases found
  | some gateway =>
    dsimp only
    by_cases inside : gateway.within item.2.net = true
    · rw [if_pos inside]
      exact iff_of_true rfl fun _ found => Option.some.inj found ▸ inside
    · rw [if_neg inside]
      refine iff_of_false ?_ fun all => inside (all gateway rfl)
      exact bind_ne_nil fun _ => bind_ne_nil fun _ => bind_ne_nil fun _ => pure_cons_ne_nil _ _

theorem gatewayRules_eq_nil_iff : gatewayRules runtime networks = .ok [] ↔
    sortable (networks.map Prod.fst) = true ∧ ∀ item ∈ networks, GatewayInside item :=
  sorted_eq_nil_iff (fun items => ∀ item ∈ items, GatewayInside item) (fun _ _ => collect_eq_nil_iff.trans (forall₂_congr fun _ _ => gatewayRule_eq_nil_iff))
    fun _ perm => forall_congr' fun _ => imp_congr_left perm.mem_iff

/-- No address is on both networks. -/
def Disjoint (item other : Scalar × UsableNetwork) : Prop :=
  ∀ address : Ip, ¬ (address.within item.2.net = true ∧ address.within other.2.net = true)

theorem overlapRule_eq_nil_iff (runtime : Runtime) {item other : Scalar × UsableNetwork} :
    overlapRule runtime item other = .ok [] ↔ Disjoint item other := by
  unfold overlapRule Disjoint
  rw [← not_exists, ← Ip.overlaps_iff]
  by_cases meet : Ip.overlaps item.2.net other.2.net = true
  · rw [if_pos meet]
    refine iff_of_false ?_ (not_not_intro meet)
    exact bind_ne_nil fun _ => bind_ne_nil fun _ => bind_ne_nil fun _ => bind_ne_nil fun _ =>
      pure_cons_ne_nil _ _
  · rw [if_neg meet]
    exact iff_of_true rfl meet

theorem overlapFrom_eq_nil_iff {items : Networks} :
    overlapFrom runtime items = .ok [] ↔ items.Pairwise Disjoint := by
  induction items with
  | nil => exact iff_of_true rfl .nil
  | cons item rest inductionHypothesis =>
    rw [overlapFrom, List.pairwise_cons, ← inductionHypothesis,
      ← forall₂_congr fun _ _ => overlapRule_eq_nil_iff runtime, ← collect_eq_nil_iff,
      Run.bind_eq_ok]
    constructor
    · rintro ⟨here, ranHere, ran⟩
      obtain ⟨later, ranLater, nothing⟩ := Run.bind_eq_ok.mp ran
      obtain ⟨rfl, rfl⟩ := List.append_eq_nil_iff.mp (Except.ok.inj nothing)
      exact ⟨ranHere, ranLater⟩
    · rintro ⟨ranHere, ranLater⟩
      exact ⟨[], ranHere, Run.bind_eq_ok.mpr ⟨[], ranLater, rfl⟩⟩

theorem overlapRules_eq_nil_iff : overlapRules runtime networks = .ok [] ↔
    sortable (networks.map Prod.fst) = true ∧ networks.Pairwise Disjoint :=
  sorted_eq_nil_iff (List.Pairwise Disjoint) (fun _ _ => overlapFrom_eq_nil_iff) fun _ perm =>
    perm.pairwise_iff fun apart address both => apart address both.symm

/-- The VLAN has a hash. -/
def OwnsVlan (item : Scalar × UsableNetwork) : Prop := ∃ vlan, item.2.vlan = .scalar vlan

/-- The VLANs differ, if both networks have one. -/
def VlansApart (item other : Scalar × UsableNetwork) : Prop :=
  ∀ vlan otherVlan : Scalar, item.2.vlan = .scalar vlan → other.2.vlan = .scalar otherVlan →
    vlan ≠ .null → otherVlan ≠ .null → vlan.same otherVlan = false

/-- The VLAN is none of those that are seen. -/
def NewVlan (seen : List (Scalar × Scalar)) (item : Scalar × UsableNetwork) : Prop :=
  ∀ vlan : Scalar, item.2.vlan = .scalar vlan → vlan ≠ .null →
    ∀ used ∈ seen, used.1.same vlan = false

theorem VlansApart.symm {item other : Scalar × UsableNetwork} (apart : VlansApart item other) :
    VlansApart other item := fun vlan otherVlan own ownToo some someToo =>
  Scalar.same_eq_false.mpr fun same =>
    Scalar.same_eq_false.mp (apart otherVlan vlan ownToo own someToo some) same.symm

/-- The networks that follow one with a VLAN have others, and others than those before it. -/
theorem newVlan_concat_iff {seen : List (Scalar × Scalar)} (item : Scalar × UsableNetwork)
    {vlan : Scalar} (own : item.2.vlan = .scalar vlan) (some : vlan ≠ .null)
    {other : Scalar × UsableNetwork} :
    NewVlan (seen ++ [(vlan, item.1)]) other ↔ NewVlan seen other ∧ VlansApart item other := by
  constructor
  · intro new
    refine ⟨fun otherVlan ownToo someToo used inSeen => ?_, fun first second same ownToo _ someToo => ?_⟩
    · exact new otherVlan ownToo someToo used (List.mem_append_left _ inSeen)
    · obtain rfl : vlan = first := Value.scalar.inj (own.symm.trans same)
      exact new second ownToo someToo _ (List.mem_append_right _ List.mem_cons_self)
  · rintro ⟨new, apart⟩ otherVlan ownToo someToo used member
    obtain inSeen | isLast := List.mem_append.mp member
    · exact new otherVlan ownToo someToo used inSeen
    · obtain rfl := List.mem_singleton.mp isLast
      exact apart vlan otherVlan own ownToo some someToo

theorem vlanFrom_eq_nil_iff (seen : List (Scalar × Scalar)) (items : Networks) :
    vlanFrom runtime seen items = .ok [] ↔
      (∀ item ∈ items, OwnsVlan item) ∧ (∀ item ∈ items, NewVlan seen item) ∧
        items.Pairwise VlansApart := by
  induction items generalizing seen with
  | nil => exact iff_of_true rfl ⟨List.forall_mem_nil _, List.forall_mem_nil _, .nil⟩
  | cons item rest inductionHypothesis =>
    obtain ⟨purpose, entry⟩ := item
    rw [List.forall_mem_cons, List.forall_mem_cons, List.pairwise_cons, vlanFrom]
    split
    next absent =>
      have none : ∀ vlan : Scalar, entry.vlan = .scalar vlan → vlan = .null := fun vlan own =>
        Value.scalar.inj (own.symm.trans absent)
      rw [inductionHypothesis]
      constructor
      · rintro ⟨owns, new, apart⟩
        refine ⟨⟨⟨_, absent⟩, owns⟩, ⟨fun vlan own some => absurd (none vlan own) some, new⟩, ?_, apart⟩
        exact fun _ _ vlan _ own _ some => absurd (none vlan own) some
      · rintro ⟨⟨_, owns⟩, ⟨_, new⟩, _, apart⟩
        exact ⟨owns, new, apart⟩
    next vlan some own =>
      split
      next used found =>
        refine iff_of_false (bind_ne_nil fun _ => bind_ne_nil fun _ => bind_ne_nil fun _ =>
          bind_ne_nil fun _ => pure_cons_ne_nil _ _) ?_
        rintro ⟨_, ⟨new, _⟩, _⟩
        have other := new vlan own some used (List.mem_of_find?_eq_some found)
        rw [List.find?_some found] at other
        cases other
      next unseen =>
        have new : NewVlan seen (purpose, entry) := by
          intro mine same _ used inSeen
          obtain rfl : vlan = mine := Value.scalar.inj (own.symm.trans same)
          exact Bool.eq_false_iff.mpr (List.find?_eq_none.mp unseen used inSeen)
        rw [inductionHypothesis]
        have split : ∀ other, NewVlan (seen ++ [(vlan, purpose)]) other ↔
            NewVlan seen other ∧ VlansApart (purpose, entry) other :=
          fun _ => newVlan_concat_iff (purpose, entry) own some
        simp only [split]
        constructor
        · rintro ⟨owns, newToo, apart⟩
          exact ⟨⟨⟨_, own⟩, owns⟩, ⟨new, fun other member => (newToo other member).1⟩,
            fun other member => (newToo other member).2, apart⟩
        · rintro ⟨⟨_, owns⟩, ⟨_, newToo⟩, apartHere, apart⟩
          exact ⟨owns, fun other member => ⟨newToo other member, apartHere other member⟩, apart⟩
    next list dict =>
      refine iff_of_false (fun same => by cases same) ?_
      rintro ⟨⟨⟨vlan, own⟩, _⟩, _⟩
      by_cases absent : vlan = .null
      · exact list (absent ▸ own)
      · exact dict vlan own

theorem vlanRules_eq_nil_iff : vlanRules runtime networks = .ok [] ↔
    sortable (networks.map Prod.fst) = true ∧ (∀ item ∈ networks, OwnsVlan item) ∧
      networks.Pairwise VlansApart := by
  refine sorted_eq_nil_iff (fun items => (∀ item ∈ items, OwnsVlan item) ∧ items.Pairwise VlansApart)
    (fun items _ => ?_) fun _ perm => and_congr ?_ ?_
  · rw [vlanFrom_eq_nil_iff]
    refine and_congr_right fun _ => and_iff_right fun item _ vlan _ _ used member => ?_
    exact absurd member List.not_mem_nil
  · exact forall_congr' fun _ => imp_congr_left perm.mem_iff
  · exact perm.pairwise_iff VlansApart.symm

/-- The fabric carries the overlay. -/
def MtuSuffices (inventory : Mapping) : Prop :=
  ∀ mtu, ((inventory.get "nsx").asMapping.get "fabricMtu").asInt = some mtu → tepMtuMin ≤ mtu

theorem mtuRules_eq_nil_iff {inventory : Mapping} :
    mtuRules runtime inventory = .ok [] ↔ MtuSuffices inventory := by
  unfold mtuRules MtuSuffices
  dsimp only
  split
  next absent =>
    exact iff_of_true rfl fun _ same => by rw [absent] at same; cases same
  next mtu read =>
    rw [read]
    split
    next low =>
      exact iff_of_false (bind_ne_nil fun _ => pure_cons_ne_nil _ _) fun all =>
        absurd (all mtu rfl) (not_le_of_gt low)
    next enough => exact iff_of_true rfl fun _ same => Option.some.inj same ▸ not_lt.mp enough

/-! ### Hosts -/

theorem thirtyNine_le_maxDigits : 39 ≤ maxDigits := by
  unfold maxDigits
  decide

theorem lt_of_ofInt {number : ℤ} {address : Ip} (read : Ip.ofInt number = some address) :
    number.natAbs < 2 ^ 128 := by
  unfold Ip.ofInt at read
  split at read
  next => cases read
  next nonneg =>
    split at read
    next small => omega
    next =>
      split at read
      next small => omega
      next => cases read

/-- What is an address can be written. -/
theorem tooLong_of_asAddress {value : Value} {address : Ip} (read : value.asAddress = some address) :
    value.tooLong = false := by
  cases value with
  | list items => cases read
  | dict entries => cases read
  | scalar content =>
    cases content with
    | int number =>
      refine decide_eq_false (not_le_of_gt ?_)
      calc number.natAbs < 2 ^ 128 := lt_of_ofInt read
        _ ≤ 10 ^ 39 := by decide
        _ ≤ 10 ^ maxDigits := Nat.pow_le_pow_right (by decide) thirtyNine_le_maxDigits
    | _ => rfl

/-- The host is on the management network, if there is one. -/
def HostInside (networks : Networks) (host : UsableHost) : Prop :=
  ∀ mgmt, management networks = some mgmt → host.address.within mgmt.net = true

/-- What the first loop notes of a host. -/
def seenAs (runtime : Runtime) (host : UsableHost) : Text × Value :=
  (runtime.toBuiltins.str host.ip, host.name)

theorem hostRule_eq_nil_iff {host : UsableHost} (short : host.ip.tooLong = false)
    {seen : Text × Value} : hostRule runtime networks host = .ok (seen, []) ↔
      HostInside networks host ∧ seen = seenAs runtime host := by
  unfold hostRule HostInside
  rw [Run.bind_eq_ok]
  constructor
  · rintro ⟨key, wrote, ran⟩
    obtain rfl := (Runtime.str_eq_ok.mp wrote).2
    split at ran
    next mgmt isMgmt =>
      split at ran
      next inside =>
        cases ran
        refine ⟨fun other same => ?_, rfl⟩
        obtain rfl := Option.some.inj (isMgmt.symm.trans same)
        exact inside
      next =>
        -- What is found outside is one finding more.
        obtain ⟨_, _, ran⟩ := Run.bind_eq_ok.mp ran
        obtain ⟨_, _, ran⟩ := Run.bind_eq_ok.mp ran
        obtain ⟨_, _, ran⟩ := Run.bind_eq_ok.mp ran
        cases ran
    next missing =>
      cases ran
      exact ⟨fun mgmt same => absurd (missing.symm.trans same) (Option.some_ne_none mgmt).symm, rfl⟩
  · rintro ⟨inside, rfl⟩
    refine ⟨_, Runtime.str_eq_ok.mpr ⟨short, rfl⟩, ?_⟩
    split
    next mgmt isMgmt =>
      rw [if_pos (inside mgmt isMgmt)]
      rfl
    next => rfl

theorem duplicateRule_eq_nil_iff {seen : List (Text × Value)} {ip : Text} :
    duplicateRule seen ip = .ok [] ↔ (seen.map Prod.fst).count ip ≤ 1 := by
  have owners : ((seen.filter fun entry => entry.1 = ip).map Prod.snd).length =
      (seen.map Prod.fst).count ip := by
    rw [List.length_map, ← List.countP_eq_length_filter, List.count, List.countP_map]
    exact List.countP_congr fun entry _ => by simp
  unfold duplicateRule
  dsimp only
  rw [owners]
  split
  next several => exact iff_of_false (bind_ne_nil fun _ => pure_cons_ne_nil _ _) (not_le_of_gt several)
  next single => exact iff_of_true rfl (not_lt.mp single)

theorem duplicates_eq_nil_iff {seen : List (Text × Value)} :
    collect ((seen.map Prod.fst).dedup.insertionSort fun first second => first ≤ second)
        (duplicateRule seen) = .ok [] ↔ (seen.map Prod.fst).Nodup := by
  rw [collect_eq_nil_iff, List.nodup_iff_count_le_one]
  constructor
  · intro each ip
    by_cases isSeen : ip ∈ seen.map Prod.fst
    · exact duplicateRule_eq_nil_iff.mp (each ip ((List.perm_insertionSort _ _).mem_iff.mpr
        (List.mem_dedup.mpr isSeen)))
    · rw [List.count_eq_zero_of_not_mem isSeen]
      exact Nat.zero_le 1
  · exact fun each ip _ => duplicateRule_eq_nil_iff.mpr (each ip)

theorem tooLong_of_usable {inventory : Mapping} {host : UsableHost}
    (usable : host ∈ usableHosts inventory) : host.ip.tooLong = false := by
  obtain ⟨⟨item, index⟩, _, read⟩ := List.mem_filterMap.mp usable
  unfold usableHost at read
  split at read
  next entries isDict =>
    obtain ⟨address, isAddress, rfl⟩ := Option.map_eq_some_iff.mp read
    exact tooLong_of_asAddress isAddress
  next => cases read

/-- A first loop that finds nothing has seen each host inside. -/
theorem rounds_eq {hosts : List UsableHost} (short : ∀ host ∈ hosts, host.ip.tooLong = false)
    {rounds : List ((Text × Value) × List Finding)}
    (ran : hosts.mapM (hostRule runtime networks) = .ok rounds)
    (nothing : (rounds.map Prod.snd).flatten = []) :
    (∀ host ∈ hosts, HostInside networks host) ∧
      rounds.map Prod.fst = hosts.map (seenAs runtime) := by
  have empty := List.flatten_eq_nil_iff.mp nothing
  have each : List.Forall₂ (fun host round => HostInside networks host ∧ round.1 = seenAs runtime host)
      hosts rounds := by
    refine Matching.imp_of_mem (Run.mapM_eq_ok.mp ran) fun host member round inRounds same => ?_
    obtain ⟨seen, found⟩ := round
    obtain rfl : found = [] := empty found (List.mem_map_of_mem inRounds)
    exact (hostRule_eq_nil_iff (short host member)).mp same
  obtain ⟨inside, same⟩ := Matching.and_iff.mp each
  constructor
  · intro host member
    obtain ⟨_, _, isInside⟩ := Matching.exists_right inside member
    exact isInside
  · have equal : List.Forall₂ (· = ·) (rounds.map Prod.fst) (hosts.map (seenAs runtime)) :=
      List.forall₂_map_left_iff.mpr (List.forall₂_map_right_iff.mpr same.flip)
    rwa [List.forall₂_eq_eq_eq] at equal

theorem hostRules_eq_nil_iff {inventory : Mapping} : hostRules runtime inventory networks = .ok [] ↔
    (∀ host ∈ usableHosts inventory, HostInside networks host) ∧
      ((usableHosts inventory).map fun host => runtime.toBuiltins.str host.ip).Nodup := by
  have short : ∀ host ∈ usableHosts inventory, host.ip.tooLong = false := fun _ => tooLong_of_usable
  have texts : ((usableHosts inventory).map (seenAs runtime)).map Prod.fst =
      (usableHosts inventory).map fun host => runtime.toBuiltins.str host.ip := List.map_map
  unfold hostRules
  rw [Run.bind_eq_ok, ← texts, ← duplicates_eq_nil_iff]
  constructor
  · rintro ⟨rounds, ran, rest⟩
    obtain ⟨duplicates, ranSecond, nothing⟩ := Run.bind_eq_ok.mp rest
    obtain ⟨none, rfl⟩ := List.append_eq_nil_iff.mp (Except.ok.inj nothing)
    obtain ⟨inside, seen⟩ := rounds_eq short ran none
    rw [seen] at ranSecond
    exact ⟨inside, ranSecond⟩
  · rintro ⟨inside, ranSecond⟩
    obtain ⟨rounds, isRounds⟩ : ∃ rounds : List ((Text × Value) × List Finding),
        rounds = (usableHosts inventory).map fun host => (seenAs runtime host, []) := ⟨_, rfl⟩
    have seen : rounds.map Prod.fst = (usableHosts inventory).map (seenAs runtime) := by
      rw [isRounds, List.map_map]
      rfl
    have none : (rounds.map Prod.snd).flatten = [] := by
      rw [isRounds, List.map_map, List.flatten_eq_nil_iff, List.forall_mem_map]
      exact fun _ _ => rfl
    refine ⟨rounds, Run.mapM_eq_ok.mpr ?_, Run.bind_eq_ok.mpr ⟨[], ?_, ?_⟩⟩
    · rw [isRounds]
      refine List.forall₂_map_right_iff.mpr (List.forall₂_same.mpr fun host usable => ?_)
      exact (hostRule_eq_nil_iff (short host usable)).mpr ⟨inside host usable, rfl⟩
    · rw [seen]
      exact ranSecond
    · rw [none]
      rfl

/-! ### Pools -/

theorem tepRangeSize_nonneg (range : Value) : 0 ≤ tepRangeSize range := by
  unfold tepRangeSize
  split
  next =>
    split
    next =>
      split
      next => exact le_rfl
      next => omega
    next => exact le_rfl
  next => exact le_rfl

/-- How many addresses the TEP pool has. -/
def tepPoolSize (inventory : Mapping) : ℤ :=
  (((((inventory.get "nsx").asMapping.get "tepPool").asMapping.get "ranges").asSequence).map
    tepRangeSize).sum

theorem tepPoolRules_eq_nil_iff {inventory : Mapping} : tepPoolRules inventory = [] ↔
    (((inventory.get "hosts").asSequence.length * tepsPerHost : ℕ) : ℤ) ≤ tepPoolSize inventory := by
  have nonneg : 0 ≤ tepPoolSize inventory := by
    refine List.sum_nonneg fun size member => ?_
    obtain ⟨range, _, rfl⟩ := List.mem_map.mp member
    exact tepRangeSize_nonneg range
  have rule : tepPoolRules inventory =
      if (inventory.get "hosts").asSequence.length ≠ 0 ∧ tepPoolSize inventory <
          (((inventory.get "hosts").asSequence.length * tepsPerHost : ℕ) : ℤ) then
        [tepPoolTooSmall (tepPoolSize inventory) (inventory.get "hosts").asSequence.length
          ((inventory.get "hosts").asSequence.length * tepsPerHost)]
      else [] := rfl
  rw [rule]
  split
  next small => exact iff_of_false (List.cons_ne_nil _ _) (not_le_of_gt small.2)
  next enough =>
    refine iff_of_true rfl ?_
    by_contra small
    by_cases none : (inventory.get "hosts").asSequence.length = 0
    · rw [none, Nat.zero_mul] at small
      exact small nonneg
    · exact enough ⟨none, not_le.mp small⟩

theorem usablePoolSize_nonneg (start finish : Ip) : 0 ≤ usablePoolSize start finish := by
  unfold usablePoolSize
  by_cases empty : intOf finish < intOf start
  · rw [usableBetween, if_pos empty]
  · have counted := usableBetween_eq_countP (intOf start) (intOf finish - intOf start + 1).toNat
    have length : ((intOf finish - intOf start + 1).toNat : ℤ) = intOf finish - intOf start + 1 :=
      Int.toNat_of_nonneg (by omega)
    rw [length, show intOf start + (intOf finish - intOf start + 1) - 1 = intOf finish by omega] at counted
    rw [counted]
    exact Int.natCast_nonneg _

/-- A declared network of this purpose has a pool with a usable address for each host. -/
def PoolSuffices (inventory : Mapping) (purpose : String) : Prop :=
  let entry := ((inventory.get "networks").asMapping.get purpose).asMapping
  let pool := (entry.get "pool").asMapping
  entry ≠ [] → ∃ start finish, (pool.get "start").asAddress = some start ∧
    (pool.get "end").asAddress = some finish ∧
      (inventory.get "hosts").asSequence.length ≤ usablePoolSize start finish

theorem ipPoolRule_suffices_iff {inventory : Mapping} {purpose : String × String} :
    ipPoolRule (inventory.get "networks").asMapping (inventory.get "hosts").asSequence.length purpose = [] ↔
      PoolSuffices inventory purpose.1 := by
  unfold ipPoolRule PoolSuffices
  dsimp only
  split
  next absent => exact iff_of_true rfl fun declared => absurd absent declared
  next declared =>
    rw [forall_prop_of_true declared]
    split
    next start finish starts ends =>
      rw [starts, ends]
      split
      next small =>
        refine iff_of_false (List.cons_ne_nil _ _) ?_
        rintro ⟨first, last, same, sameToo, enough⟩
        obtain rfl := Option.some.inj same
        obtain rfl := Option.some.inj sameToo
        exact not_le_of_gt small.2 enough
      next enough =>
        refine iff_of_true rfl ⟨start, finish, rfl, rfl, ?_⟩
        have nonneg := usablePoolSize_nonneg start finish
        omega
    next unread =>
      refine iff_of_false (List.cons_ne_nil _ _) ?_
      rintro ⟨start, finish, starts, ends, _⟩
      exact unread start finish starts ends

theorem ipPoolRules_eq_nil_iff {inventory : Mapping} : ipPoolRules inventory = [] ↔
    PoolSuffices inventory "vmotion" ∧ PoolSuffices inventory "vsan" := by
  unfold ipPoolRules ipPoolRequiredPurposes
  rw [List.flatMap_eq_nil_iff, List.forall_mem_cons, List.forall_mem_singleton, ipPoolRule_suffices_iff,
    ipPoolRule_suffices_iff]

end Rules

/-! ### The plan -/

/-- An inventory whose networks fit together. -/
structure NetworkPlan (runtime : Runtime) (inventory : Mapping) : Prop where
  ordered : sortable ((usableNetworks inventory).map Prod.fst) = true
  gateways : ∀ item ∈ usableNetworks inventory, GatewayInside item
  disjoint : (usableNetworks inventory).Pairwise Disjoint
  vlans : ∀ item ∈ usableNetworks inventory, OwnsVlan item
  vlansApart : (usableNetworks inventory).Pairwise VlansApart
  mtu : MtuSuffices inventory
  hosts : ∀ host ∈ usableHosts inventory, HostInside (usableNetworks inventory) host
  hostsDistinct : ((usableHosts inventory).map fun host => runtime.toBuiltins.str host.ip).Nodup
  tepPool : (((inventory.get "hosts").asSequence.length * tepsPerHost : ℕ) : ℤ) ≤ tepPoolSize inventory
  vmotion : PoolSuffices inventory "vmotion"
  vsan : PoolSuffices inventory "vsan"

/-- `check_networks` finds nothing when none of its rules does. -/
theorem clean_iff_rules {runtime : Runtime} {inventory : Mapping} :
    checkNetworks runtime inventory = .ok [] ↔
      gatewayRules runtime (usableNetworks inventory) = .ok [] ∧
      overlapRules runtime (usableNetworks inventory) = .ok [] ∧
      vlanRules runtime (usableNetworks inventory) = .ok [] ∧ mtuRules runtime inventory = .ok [] ∧
      hostRules runtime inventory (usableNetworks inventory) = .ok [] ∧
      tepPoolRules inventory = [] ∧ ipPoolRules inventory = [] := by
  unfold checkNetworks
  simp only [collect_eq_nil_iff, List.forall_mem_cons, List.not_mem_nil, false_implies, implies_true,
    and_true, id_eq, pure, Except.pure, Except.ok.injEq]

/-- `check_networks` finds nothing exactly in an inventory whose networks fit together. -/
theorem checkNetworks_eq_nil_iff (runtime : Runtime) (inventory : Mapping) :
    checkNetworks runtime inventory = .ok [] ↔ NetworkPlan runtime inventory := by
  rw [clean_iff_rules, gatewayRules_eq_nil_iff, overlapRules_eq_nil_iff, vlanRules_eq_nil_iff,
    mtuRules_eq_nil_iff, hostRules_eq_nil_iff, tepPoolRules_eq_nil_iff, ipPoolRules_eq_nil_iff]
  constructor
  · rintro ⟨⟨ordered, gateways⟩, ⟨_, disjoint⟩, ⟨_, vlans, apart⟩, mtu, ⟨hosts, distinct⟩, tepPool,
      vmotion, vsan⟩
    exact ⟨ordered, gateways, disjoint, vlans, apart, mtu, hosts, distinct, tepPool, vmotion, vsan⟩
  · intro plan
    exact ⟨⟨plan.ordered, plan.gateways⟩, ⟨plan.ordered, plan.disjoint⟩,
      ⟨plan.ordered, plan.vlans, plan.vlansApart⟩, plan.mtu, ⟨plan.hosts, plan.hostsDistinct⟩,
      plan.tepPool, plan.vmotion, plan.vsan⟩

/-! ### Addresses of hosts -/

/-- The address of a host that is written as a dotted text. -/
def dottedAddress (host : UsableHost) : Option (BitVec 32) :=
  match host.ip with
  | .scalar (.str content) => Ip.v4Of content
  | _ => none

theorem str_of_dottedAddress (runtime : Runtime) {host : UsableHost} {address : BitVec 32}
    (dotted : dottedAddress host = some address) :
    runtime.toBuiltins.str host.ip = Ip.v4Text address := by
  unfold dottedAddress at dotted
  split at dotted
  next content isText =>
    rw [isText, Ip.v4Text_of_v4Of dotted]
    rfl
  next => cases dotted

/-- Where nothing is found, no two hosts have one dotted address: it has one text only, and the texts
differ. -/
theorem nodup_dottedAddresses (runtime : Runtime) (inventory : Mapping)
    (clean : checkNetworks runtime inventory = .ok []) :
    ((usableHosts inventory).filterMap dottedAddress).Nodup := by
  obtain ⟨_, _, _, _, hosts, _⟩ := clean_iff_rules.mp clean
  have texts := List.pairwise_map.mp (hostRules_eq_nil_iff.mp hosts).2
  refine List.pairwise_filterMap.mpr (texts.imp fun apart address dotted other dottedToo same => apart ?_)
  rw [str_of_dottedAddress runtime dotted, str_of_dottedAddress runtime dottedToo, same]

/-- An inventory of two hosts on a management network. -/
def twoHosts (firstIp secondIp : String) : Mapping :=
  [(.str (text "networks"), mapping [("management", mapping
      [("subnet", .scalar (.str (text "10.0.0.0/24"))), ("vlan", .scalar (.int 10))])]),
    (.str (text "hosts"), .list [mapping [("mgmtIp", .scalar (.str (text firstIp)))],
      mapping [("mgmtIp", .scalar (.str (text secondIp)))]]),
    (.str (text "nsx"), mapping [("tepPool", mapping [("ranges", .list [mapping
      [("start", .scalar (.str (text "10.0.1.10"))), ("end", .scalar (.str (text "10.0.1.13")))]])])])]

theorem example_nodup_dottedAddresses :
    ((usableHosts (twoHosts "10.0.0.5" "10.0.0.6")).filterMap dottedAddress).Nodup :=
  nodup_dottedAddresses Runtime.simple _ (by decide +kernel)

/-- An IPv6 address has several texts, and the rule compares texts. -/
example : checkNetworks Runtime.simple (twoHosts "fd00::5" "fd00:0::5") =
    .ok [hostIpOutside 0 (text "hosts[0]") (text "fd00::5") (text "10.0.0.0/24"),
      hostIpOutside 1 (text "hosts[1]") (text "fd00:0::5") (text "10.0.0.0/24")] := by
  decide +kernel

end VcfSpec

end LocalGpuCluster
