/-
This file is a small library on blocks of addresses, the values that agree with a base in all but their
lowest bits, and on the networks of `ipaddress` as such blocks. Two blocks that share a value are nested,
so that looking at their first and last values is enough to tell whether they share one.
-/

import LocalGpuCluster.IpAddress

namespace LocalGpuCluster

/-! ### Blocks -/

namespace Block

variable {width : ℕ} {first second value base : BitVec width} {free wide : ℕ}

/-- The value agrees with the base in all but so many low bits. -/
def Holds (base : BitVec width) (free : ℕ) (value : BitVec width) : Prop :=
  value >>> free = base >>> free

/-- The lowest value of the block. -/
def lowest (base : BitVec width) (free : ℕ) : BitVec width := (base >>> free) <<< free

/-- The highest value of the block. -/
def highest (base : BitVec width) (free : ℕ) : BitVec width :=
  lowest base free ||| ~~~(BitVec.allOnes width <<< free)

theorem holds_self (base : BitVec width) (free : ℕ) : Holds base free base := rfl

theorem holds_lowest (base : BitVec width) (free : ℕ) : Holds base free (lowest base free) := by
  unfold Holds lowest
  ext index bound
  simp only [BitVec.getElem_ushiftRight, BitVec.getLsbD_shiftLeft, BitVec.getLsbD_ushiftRight]
  by_cases inside : free + index < width
  · simp [inside]
  · simp [inside, BitVec.getLsbD_of_ge base (free + index) (Nat.le_of_not_lt inside)]

theorem holds_highest (base : BitVec width) (free : ℕ) : Holds base free (highest base free) := by
  have low := holds_lowest base free
  unfold Holds at low ⊢
  unfold highest
  rw [BitVec.ushiftRight_or_distrib, low]
  ext index bound
  simp only [BitVec.getElem_or, BitVec.getElem_ushiftRight, BitVec.getLsbD_not,
    BitVec.getLsbD_shiftLeft, BitVec.getLsbD_allOnes]
  by_cases inside : free + index < width
  · simp [inside]
    omega
  · simp [inside]

/-- A block with more free bits holds whatever agrees in fewer. -/
theorem Holds.widen (holds : Holds base free value) (more : free ≤ wide) : Holds base wide value := by
  unfold Holds at holds ⊢
  obtain ⟨extra, rfl⟩ := Nat.exists_eq_add_of_le more
  rw [BitVec.shiftRight_add, BitVec.shiftRight_add, holds]

/-- Two blocks that share a value are nested. -/
theorem Holds.nested (holds : Holds first free value) (holdsToo : Holds second wide value)
    (more : free ≤ wide) {other : BitVec width} (inside : Holds first free other) :
    Holds second wide other := by
  have common : Holds first free value := holds
  have wider := inside.widen more
  have widerToo := common.widen more
  exact wider.trans (widerToo.symm.trans holdsToo)

/-- Blocks share a value exactly where one has the lowest value of the other. -/
theorem share_iff : (∃ value, Holds first free value ∧ Holds second wide value) ↔
    Holds second wide (lowest first free) ∨ Holds first free (lowest second wide) := by
  constructor
  · rintro ⟨value, inFirst, inSecond⟩
    obtain more | more := Nat.le_total free wide
    · exact Or.inl (inFirst.nested inSecond more (holds_lowest first free))
    · exact Or.inr (inSecond.nested inFirst more (holds_lowest second wide))
  · rintro (inSecond | inFirst)
    · exact ⟨_, holds_lowest first free, inSecond⟩
    · exact ⟨_, inFirst, holds_lowest second wide⟩

end Block

/-! ### Networks -/

namespace Ip

/-- `network.network_address`. -/
def networkAddress : Ip × ℕ → Ip
  | (.v4 base, length) => .v4 (Block.lowest base (32 - length))
  | (.v6 base, length) => .v6 (Block.lowest base (128 - length))

/-- `network.broadcast_address`. -/
def broadcastAddress : Ip × ℕ → Ip
  | (.v4 base, length) => .v4 (Block.highest base (32 - length))
  | (.v6 base, length) => .v6 (Block.highest base (128 - length))

/-- `network.overlaps(other)`. -/
def overlaps (network other : Ip × ℕ) : Bool :=
  (networkAddress network).within other || (broadcastAddress network).within other ||
    (networkAddress other).within network || (broadcastAddress other).within network

theorem within_v4_iff {value base : BitVec 32} {length : ℕ} :
    (Ip.v4 value).within (.v4 base, length) = true ↔ Block.Holds base (32 - length) value :=
  decide_eq_true_iff

theorem within_v6_iff {value base : BitVec 128} {length : ℕ} :
    (Ip.v6 value).within (.v6 base, length) = true ↔ Block.Holds base (128 - length) value :=
  decide_eq_true_iff

theorem within_networkAddress (network : Ip × ℕ) : (networkAddress network).within network = true := by
  obtain ⟨base | base, length⟩ := network
  · exact within_v4_iff.mpr (Block.holds_lowest base _)
  · exact within_v6_iff.mpr (Block.holds_lowest base _)

theorem within_broadcastAddress (network : Ip × ℕ) :
    (broadcastAddress network).within network = true := by
  obtain ⟨base | base, length⟩ := network
  · exact within_v4_iff.mpr (Block.holds_highest base _)
  · exact within_v6_iff.mpr (Block.holds_highest base _)

/-- Networks that share an address share the network address of one. -/
theorem within_of_shared {network other : Ip × ℕ} {address : Ip}
    (inNetwork : address.within network = true) (inOther : address.within other = true) :
    (networkAddress network).within other = true ∨ (networkAddress other).within network = true := by
  obtain ⟨base | base, length⟩ := network
  · cases address with
    | v6 value => cases inNetwork
    | v4 value =>
      obtain ⟨otherBase | otherBase, otherLength⟩ := other
      · exact (Block.share_iff.mp ⟨value, within_v4_iff.mp inNetwork, within_v4_iff.mp inOther⟩).imp
          within_v4_iff.mpr within_v4_iff.mpr
      · cases inOther
  · cases address with
    | v4 value => cases inNetwork
    | v6 value =>
      obtain ⟨otherBase | otherBase, otherLength⟩ := other
      · cases inOther
      · exact (Block.share_iff.mp ⟨value, within_v6_iff.mp inNetwork, within_v6_iff.mp inOther⟩).imp
          within_v6_iff.mpr within_v6_iff.mpr

/-- `overlaps` tells whether some address is in both networks. -/
theorem overlaps_iff {network other : Ip × ℕ} :
    overlaps network other = true ↔
      ∃ address : Ip, address.within network = true ∧ address.within other = true := by
  unfold overlaps
  simp only [Bool.or_eq_true]
  constructor
  · rintro (((inOther | inOther) | inNetwork) | inNetwork)
    · exact ⟨_, within_networkAddress network, inOther⟩
    · exact ⟨_, within_broadcastAddress network, inOther⟩
    · exact ⟨_, inNetwork, within_networkAddress other⟩
    · exact ⟨_, inNetwork, within_broadcastAddress other⟩
  · rintro ⟨address, inNetwork, inOther⟩
    obtain found | found := within_of_shared inNetwork inOther
    · exact Or.inl (Or.inl (Or.inl found))
    · exact Or.inl (Or.inr found)

end Ip

end LocalGpuCluster
