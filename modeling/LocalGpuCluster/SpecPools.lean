/-
This file models the IP pool rules of `vcfspec/rules/network.py`, and proves that the closed form
of a pool's size is the count of its usable addresses, one by one.
-/

import LocalGpuCluster.IpAddress
import LocalGpuCluster.SpecDevices

namespace LocalGpuCluster

namespace VcfSpec

/-! ### The size of a pool -/

/-- `_count_congruent`. -/
def countCongruent (low high modulus remainder : ℤ) : ℤ :=
  let first := low + (remainder - low) % modulus
  if high < first then 0 else (high - first) / modulus + 1

/-- `_EXCLUDED_LAST_OCTETS`. -/
def excludedLastOctets : List ℤ := [0, 255]

/-- `_usable_pool_size`, of the integers of the two addresses. -/
def usableBetween (startInt endInt : ℤ) : ℤ :=
  if endInt < startInt then 0
  else excludedLastOctets.foldl
    (fun total lastOctet => total - countCongruent startInt endInt 256 lastOctet)
    (endInt - startInt + 1)

/-- `int(address)`. -/
def intOf : Ip → ℤ
  | .v4 value => value.toNat
  | .v6 value => value.toNat

/-- `_usable_pool_size`. -/
def usablePoolSize (start finish : Ip) : ℤ := usableBetween (intOf start) (intOf finish)

/-! ### Counting one by one -/

/-- The integers from `low` on, so many of them. -/
def integersFrom (low : ℤ) (length : ℕ) : List ℤ :=
  (List.range length).map fun (index : ℕ) => low + (index : ℤ)

theorem integersFrom_succ (low : ℤ) (length : ℕ) :
    integersFrom low (length + 1) = low :: integersFrom (low + 1) length := by
  simp only [integersFrom, List.range_succ_eq_map, List.map_cons, List.map_map, Nat.cast_zero,
    add_zero, List.cons.injEq, true_and]
  refine List.map_congr_left fun index _ => ?_
  simp only [Function.comp_apply, Nat.succ_eq_add_one, Nat.cast_add, Nat.cast_one]
  omega

theorem countCongruent_of_lt {low high modulus remainder : ℤ} (positive : 0 < modulus)
    (none : high < low) : countCongruent low high modulus remainder = 0 := by
  have step := Int.emod_nonneg (remainder - low) positive.ne'
  unfold countCongruent
  rw [if_pos (by omega)]

/-- The lowest integer counts when it is congruent itself, and the others as without it. -/
theorem countCongruent_step {low high modulus remainder : ℤ} (positive : 0 < modulus)
    (some : low ≤ high) :
    countCongruent low high modulus remainder =
      (if (remainder - low) % modulus = 0 then 1 else 0) +
        countCongruent (low + 1) high modulus remainder := by
  have nonneg := Int.emod_nonneg (remainder - low) positive.ne'
  have bounded := Int.emod_lt_of_pos (remainder - low) positive
  have split := Int.emod_add_mul_ediv (remainder - low) modulus
  unfold countCongruent
  generalize (remainder - low) % modulus = distance at nonneg bounded split ⊢
  generalize (remainder - low) / modulus = quotient at split
  by_cases here : distance = 0
  · -- The next one is a whole modulus away.
    have next : (remainder - (low + 1)) % modulus = modulus - 1 := by
      have shape : remainder - (low + 1) = modulus - 1 + modulus * (quotient - 1) := by
        rw [mul_sub, mul_one]
        omega
      rw [shape, Int.add_mul_emod_self_left]
      exact Int.emod_eq_of_lt (by omega) (by omega)
    have away : (high - low) / modulus = (high - (low + modulus)) / modulus + 1 := by
      rw [show high - low = high - (low + modulus) + modulus * 1 by omega,
        Int.add_mul_ediv_left _ _ positive.ne']
    simp only [here, next, if_true, add_zero]
    rw [if_neg (by omega), show low + 1 + (modulus - 1) = low + modulus by omega]
    split
    · rw [Int.ediv_eq_zero_of_lt (by omega) (by omega)]
      omega
    · omega
  · have next : (remainder - (low + 1)) % modulus = distance - 1 := by
      rw [show remainder - (low + 1) = distance - 1 + modulus * quotient by omega,
        Int.add_mul_emod_self_left]
      exact Int.emod_eq_of_lt (by omega) (by omega)
    simp only [here, next, if_false, zero_add]
    rw [show low + 1 + (distance - 1) = low + distance by omega]

/-- `_count_congruent` counts what its name says. -/
theorem countCongruent_eq_countP {modulus : ℤ} (positive : 0 < modulus) (remainder low : ℤ)
    (length : ℕ) :
    countCongruent low (low + length - 1) modulus remainder =
      (integersFrom low length).countP fun number => (remainder - number) % modulus = 0 := by
  induction length generalizing low with
  | zero => exact countCongruent_of_lt positive (by omega)
  | succ length inductionHypothesis =>
    rw [countCongruent_step positive (by omega), integersFrom_succ, List.countP_cons,
      show low + ((length + 1 : ℕ) : ℤ) - 1 = low + 1 + length - 1 by omega, inductionHypothesis]
    simp only [decide_eq_true_eq]
    split <;> simp [add_comm]

/-- The last octet of the integer of an address is none of the excluded ones. -/
def isUsable (number : ℤ) : Bool := number % 256 ∉ excludedLastOctets

/-- An integer is usable, or congruent to just one of the excluded octets. -/
theorem isUsable_add_excluded (number : ℤ) :
    (if isUsable number then 1 else 0) + (if (0 - number) % 256 = 0 then 1 else 0) +
      (if (255 - number) % 256 = 0 then 1 else 0) = (1 : ℤ) := by
  have reads : isUsable number = true ↔ number % 256 ≠ 0 ∧ number % 256 ≠ 255 := by
    simp [isUsable, excludedLastOctets]
  by_cases usable : isUsable number = true
  · have ends := reads.mp usable
    rw [if_pos usable, if_neg (by omega), if_neg (by omega)]
    rfl
  · rw [if_neg usable]
    have ends : number % 256 = 0 ∨ number % 256 = 255 := by
      by_contra neither
      exact usable (reads.mpr (not_or.mp neither))
    rcases ends with zero | last
    · rw [if_pos (by omega), if_neg (by omega)]
      rfl
    · rw [if_neg (by omega), if_pos (by omega)]
      rfl

theorem usableBetween_eq_countP (low : ℤ) (length : ℕ) :
    usableBetween low (low + length - 1) = (integersFrom low length).countP isUsable := by
  have counted : (integersFrom low length).countP isUsable +
      countCongruent low (low + length - 1) 256 0 + countCongruent low (low + length - 1) 256 255 =
        (length : ℤ) := by
    rw [countCongruent_eq_countP (by decide), countCongruent_eq_countP (by decide)]
    induction length generalizing low with
    | zero => rfl
    | succ length inductionHypothesis =>
      have head := isUsable_add_excluded low
      have tail := inductionHypothesis (low + 1)
      simp only [integersFrom_succ, List.countP_cons, decide_eq_true_eq, Nat.cast_add,
        Nat.cast_ite, Nat.cast_one, Nat.cast_zero] at tail ⊢
      omega
  unfold usableBetween
  simp only [excludedLastOctets, List.foldl_cons, List.foldl_nil]
  split
  · have zero : length = 0 := by omega
    subst zero
    rfl
  · omega

/-! ### The addresses of a pool -/

/-- The addresses from `start` to `finish`. -/
def addressesIn (start finish : BitVec 32) : List (BitVec 32) :=
  (List.range (finish.toNat + 1 - start.toNat)).map fun index => start + BitVec.ofNat 32 index

theorem mem_addressesIn {start finish address : BitVec 32} :
    address ∈ addressesIn start finish ↔ start ≤ address ∧ address ≤ finish := by
  have below := address.isLt
  have bound := finish.isLt
  simp only [addressesIn, List.mem_map, List.mem_range, BitVec.le_def]
  constructor
  · rintro ⟨index, within, rfl⟩
    simp only [BitVec.toNat_add, BitVec.toNat_ofNat]
    omega
  · rintro ⟨above, under⟩
    refine ⟨address.toNat - start.toNat, by omega, BitVec.eq_of_toNat_eq ?_⟩
    simp only [BitVec.toNat_add, BitVec.toNat_ofNat]
    omega

theorem nodup_addressesIn (start finish : BitVec 32) : (addressesIn start finish).Nodup := by
  refine List.Nodup.map_on (fun first member second member' equal => ?_) List.nodup_range
  have same := congrArg BitVec.toNat equal
  have bound := finish.isLt
  simp only [List.mem_range, BitVec.toNat_add, BitVec.toNat_ofNat] at member member' same
  omega

/-- The last octet of an address is its low eight bits. -/
def lastOctet (address : BitVec 32) : BitVec 8 := address.setWidth 8

theorem isUsable_toNat (address : BitVec 32) :
    isUsable address.toNat = decide (lastOctet address ≠ 0#8 ∧ lastOctet address ≠ 255#8) := by
  have reads : isUsable address.toNat =
      decide ((address.toNat : ℤ) % 256 ≠ 0 ∧ (address.toNat : ℤ) % 256 ≠ 255) := by
    simp [isUsable, excludedLastOctets]
  rw [reads, decide_eq_decide]
  simp only [lastOctet, ne_eq, ← BitVec.toNat_inj, BitVec.toNat_setWidth, BitVec.toNat_ofNat]
  omega

/-- The integers of a pool's addresses. -/
theorem map_toNat_addressesIn (start finish : BitVec 32) :
    (addressesIn start finish).map (fun address => (address.toNat : ℤ)) =
      integersFrom start.toNat (finish.toNat + 1 - start.toNat) := by
  simp only [addressesIn, integersFrom, List.map_map]
  refine List.map_congr_left fun index member => ?_
  have bound := finish.isLt
  have within := List.mem_range.mp member
  simp only [Function.comp_apply, BitVec.toNat_add, BitVec.toNat_ofNat]
  omega

theorem usablePoolSize_eq_countP (start finish : BitVec 32) :
    usablePoolSize (.v4 start) (.v4 finish) =
      (addressesIn start finish).countP fun address =>
        lastOctet address ≠ 0#8 ∧ lastOctet address ≠ 255#8 := by
  have counted : (addressesIn start finish).countP
      (fun address => decide (lastOctet address ≠ 0#8 ∧ lastOctet address ≠ 255#8)) =
      (integersFrom start.toNat (finish.toNat + 1 - start.toNat)).countP isUsable := by
    rw [← map_toNat_addressesIn, List.countP_map]
    refine List.countP_congr fun address _ => ?_
    rw [Function.comp_apply, isUsable_toNat]
  rw [counted, ← usableBetween_eq_countP]
  change usableBetween start.toNat finish.toNat = _
  rcases Nat.lt_or_ge finish.toNat start.toNat with empty | some
  · have none : finish.toNat + 1 - start.toNat = 0 := by omega
    rw [none, usableBetween, usableBetween, if_pos (by omega), if_pos (by omega)]
  · congr 1
    omega

/-- The size of a pool is the number of the addresses from one end to the other, each listed once,
that end in neither 0 nor 255. -/
theorem usablePoolSize_counts (start finish : BitVec 32) :
    ∃ addresses : List (BitVec 32), addresses.Nodup ∧
      (∀ address, address ∈ addresses ↔ start ≤ address ∧ address ≤ finish) ∧
      usablePoolSize (.v4 start) (.v4 finish) =
        addresses.countP fun address => lastOctet address ≠ 0#8 ∧ lastOctet address ≠ 255#8 :=
  ⟨addressesIn start finish, nodup_addressesIn start finish, fun _ => mem_addressesIn,
    usablePoolSize_eq_countP start finish⟩

example : usablePoolSize (.v4 0x0A0000FE) (.v4 0x0A000102) = 3 := by decide

/-! ### The rule -/

/-- `as_address`. -/
def Value.asAddress : Value → Option Ip
  | .scalar (.str content) => Ip.ofText content
  | value => value.asInt.bind Ip.ofInt

def poolMissing (path purpose purposeUpper : Text) : Finding :=
  docsError "VCF-NET-IP-POOL-MISSING" path
    (text "Network '" ++ purpose ++
      text "' has no IP pool. The VCF Installer's Deployment Specification check fails this with MISSING_INCLUSION_RANGE: 'Inclusion Range not provided for network " ++
      purposeUpper ++ text "'.")
    "Provide Inclusion Range for network {purpose_upper} in the input specification: add pool.start and pool.end under networks.{purpose}, sized for at least one address per host."
    []

def poolTooSmall (path purposeUpper : Text) (size : ℤ) (hosts : ℕ) : Finding :=
  docsError "VCF-NET-IP-POOL-TOO-SMALL" path
    (text "Insufficient IP Addresses provided for the IP Pool that supports the " ++ purposeUpper ++
      text " network. Provided " ++ decimal size ++ text ", Required " ++ decimal hosts ++ text ".")
    "Widen networks.{purpose}.pool to cover at least {hosts} usable addresses. The Installer ignores addresses ending in .0 and .255, so a pool only reaching {hosts} by counting those is still too small."
    []

/-- `IP_POOL_REQUIRED_PURPOSES`, each with its upper case. -/
def ipPoolRequiredPurposes : List (String × String) := [("vmotion", "VMOTION"), ("vsan", "VSAN")]

/-- A round of the loop of `_ip_pool_rules`. -/
def ipPoolRule (networks : Mapping) (hosts : ℕ) (purpose : String × String) : List Finding :=
  let entry := (networks.get purpose.1).asMapping
  if entry = [] then []
  else
    let pool := (entry.get "pool").asMapping
    let path := text "/networks/" ++ text purpose.1 ++ text "/pool"
    match (pool.get "start").asAddress, (pool.get "end").asAddress with
    | some start, some finish =>
        let size := usablePoolSize start finish
        if hosts ≠ 0 ∧ size < hosts then [poolTooSmall path (text purpose.2) size hosts] else []
    | _, _ => [poolMissing path (text purpose.1) (text purpose.2)]

/-- `_ip_pool_rules`. -/
def ipPoolRules (inventory : Mapping) : List Finding :=
  let networks := (inventory.get "networks").asMapping
  ipPoolRequiredPurposes.flatMap
    (ipPoolRule networks (inventory.get "hosts").asSequence.length)

/-- A declared network with an IPv4 pool passes exactly when the pool has a usable address for each
host. -/
theorem ipPoolRule_eq_nil_iff {networks : Mapping} (hosts : ℕ) {purpose : String × String}
    {start finish : BitVec 32} (declared : (networks.get purpose.1).asMapping ≠ [])
    (starts : ((((networks.get purpose.1).asMapping.get "pool").asMapping).get "start").asAddress =
      some (.v4 start))
    (ends : ((((networks.get purpose.1).asMapping.get "pool").asMapping).get "end").asAddress =
      some (.v4 finish)) :
    ipPoolRule networks hosts purpose = [] ↔
      hosts ≤ (addressesIn start finish).countP fun address =>
        lastOctet address ≠ 0#8 ∧ lastOctet address ≠ 255#8 := by
  unfold ipPoolRule
  simp only [if_neg declared, starts, ends, usablePoolSize_eq_countP]
  split
  · rename_i small
    simp only [List.cons_ne_nil, false_iff]
    omega
  · simp only [true_iff]
    omega

end VcfSpec

end LocalGpuCluster
