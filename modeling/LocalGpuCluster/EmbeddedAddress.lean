/-
This file asks which IPv6 addresses `_is_public` rejects of those that embed an IPv4 address. All
forms but one have their network among the blocked ones. The IPv4-compatible addresses have none,
and no Python release takes them for private, so the guard lets all of them but two through.
-/

import LocalGpuCluster.WebFetch

namespace LocalGpuCluster

namespace WebFetch

/-- The IPv6 address embeds the IPv4 address in a form that a network can route to it. -/
inductive Embeds (address : BitVec 32) : BitVec 128 → Prop
  /-- `::ffff:0:0/96`. -/
  | mapped : Embeds address (0xFFFF#96 ++ address)
  /-- `::/96`. -/
  | compatible : Embeds address (0#96 ++ address)
  /-- `64:ff9b::/96`. -/
  | nat64 : Embeds address (0x64FF9B0000000000000000#96 ++ address)
  /-- `2002::/16`: a subnet and an interface follow. -/
  | sixToFour (rest : BitVec 80) : Embeds address (0x2002#16 ++ (address ++ rest))
  /-- `2001::/32`: the address of the server, the flags and the port come first, and the address
  of the client is inverted. -/
  | teredo (server flagsAndPort : BitVec 32) :
      Embeds address (0x20010000#32 ++ (server ++ (flagsAndPort ++ ~~~address)))

/-! ### Networks of IPv6 addresses -/

theorem v6_inNetwork_iff {value base : BitVec 128} {length : ℕ} :
    (Ip.v6 value).inNetwork (.v6 base) length = true ↔
      value.toNat / 2 ^ (128 - length) = base.toNat / 2 ^ (128 - length) := by
  simp only [Ip.inNetwork, decide_eq_true_eq, ← BitVec.toNat_inj, BitVec.toNat_ushiftRight,
    Nat.shiftRight_eq_div_pow]

theorem toNat_append_div {high low : ℕ} (first : BitVec high) (second : BitVec low) :
    (first ++ second).toNat / 2 ^ low = first.toNat := by
  rw [BitVec.toNat_append, ← Nat.shiftRight_eq_div_pow, Nat.shiftRight_or_distrib,
    Nat.shiftLeft_shiftRight, Nat.shiftRight_eq_div_pow, Nat.div_eq_of_lt second.isLt, Nat.or_zero]

theorem not_isPublic_of_blocked {isGlobal : Ip → Bool} {ip base : Ip} {length : ℕ}
    (blocked : (base, length) ∈ blockedNets) (within : ip.inNetwork base length = true) :
    isPublic isGlobal ip = false := by
  have found : inBlockedNets ip = true := List.any_eq_true.mpr ⟨_, blocked, within⟩
  rw [isPublic, found]
  rfl

/-- An address behind the prefix of a blocked network is not public. -/
theorem not_isPublic_of_prefix {isGlobal : Ip → Bool} {value base : BitVec 128} {length : ℕ}
    (blocked : (Ip.v6 base, length) ∈ blockedNets)
    (same : value.toNat / 2 ^ (128 - length) = base.toNat / 2 ^ (128 - length)) :
    isPublic isGlobal (.v6 value) = false :=
  not_isPublic_of_blocked blocked (v6_inNetwork_iff.mpr same)

/-- An IPv4-compatible address other than `::` and `::1`. -/
def PastLoopback (value : BitVec 128) : Prop := 2 ≤ value.toNat ∧ value.toNat < 2 ^ 32

/-- An IPv6 network without such an address: its prefix is short and not zero, or it is one of the
two other addresses. -/
def AvoidsCompatible : Ip × ℕ → Prop
  | (.v4 _, _) => True
  | (.v6 base, length) =>
      (length ≤ 96 ∧ base.toNat / 2 ^ (128 - length) ≠ 0) ∨ (length = 128 ∧ base.toNat < 2)

instance : DecidablePred AvoidsCompatible
  | (.v4 _, _) => inferInstanceAs (Decidable True)
  | (.v6 _, _) => inferInstanceAs (Decidable (_ ∨ _))

theorem not_inNetwork_of_pastLoopback {value : BitVec 128} (past : PastLoopback value)
    {net : Ip × ℕ} (avoids : AvoidsCompatible net) :
    ¬ (Ip.v6 value).inNetwork net.1 net.2 = true := by
  obtain ⟨base, length⟩ := net
  cases base with
  | v4 base => exact Bool.false_ne_true
  | v6 base =>
    rw [v6_inNetwork_iff]
    intro within
    rcases avoids with ⟨short, notZero⟩ | ⟨rfl, lowest⟩
    · rw [← within] at notZero
      refine notZero (Nat.div_eq_of_lt (past.2.trans_le ?_))
      exact Nat.pow_le_pow_right (by decide) (by omega)
    · rw [Nat.sub_self, pow_zero, Nat.div_one, Nat.div_one] at within
      exact absurd lowest (Nat.not_lt.mpr (within ▸ past.1))

theorem ipv4Mapped_of_pastLoopback {value : BitVec 128} (past : PastLoopback value) :
    (Ip.v6 value).ipv4Mapped = none := by
  have high : value.toNat / 2 ^ 32 ≠ 0xFFFF := by
    rw [Nat.div_eq_of_lt past.2]
    decide
  exact if_neg high

theorem blockedNets_avoid : ∀ net ∈ blockedNets, AvoidsCompatible net := by decide

theorem isPublic_of_pastLoopback {isGlobal : Ip → Bool} {value : BitVec 128}
    (past : PastLoopback value) (global : isGlobal (.v6 value) = true) :
    isPublic isGlobal (.v6 value) = true := by
  have unblocked : inBlockedNets (.v6 value) = false :=
    List.any_eq_false.mpr fun net member =>
      not_inNetwork_of_pastLoopback past (blockedNets_avoid net member)
  rw [isPublic, unblocked, ipv4Mapped_of_pastLoopback past, global]
  rfl

/-! ### `is_global` of Python 3.12.3 -/

/-- No Python release has an IPv4-compatible address past the loopback address in a private
network. -/
def CompatibleGlobal (isGlobal : Ip → Bool) : Prop :=
  ∀ value : BitVec 128, PastLoopback value → isGlobal (.v6 value) = true

/-- `_private_networks`. -/
def privateNetworks : List (Ip × ℕ) :=
  [("0.0.0.0", 8), ("10.0.0.0", 8), ("127.0.0.0", 8), ("169.254.0.0", 16), ("172.16.0.0", 12),
    ("192.0.0.0", 29), ("192.0.0.170", 31), ("192.0.2.0", 24), ("192.168.0.0", 16),
    ("198.18.0.0", 15), ("198.51.100.0", 24), ("203.0.113.0", 24), ("240.0.0.0", 4),
    ("255.255.255.255", 32), ("::1", 128), ("::", 128), ("::ffff:0:0", 96), ("100::", 64),
    ("2001::", 23), ("2001:2::", 48), ("2001:db8::", 32), ("2001:10::", 28), ("fc00::", 7),
    ("fe80::", 10)].filterMap fun net => (Ip.ofText (text net.1)).map (·, net.2)

/-- `is_private`: a mapped address is as private as the one inside. -/
def isPrivate (ip : Ip) : Bool :=
  let inside := (ip.ipv4Mapped.map Ip.v4).getD ip
  privateNetworks.any fun net => inside.inNetwork net.1 net.2

/-- `is_global`. -/
def pythonIsGlobal (ip : Ip) : Bool := !isPrivate ip && !ip.inNetwork (.v4 0x64400000) 10

theorem privateNetworks_avoid : ∀ net ∈ privateNetworks, AvoidsCompatible net := by decide

theorem compatibleGlobal_python : CompatibleGlobal pythonIsGlobal := by
  intro value past
  have notPrivate : isPrivate (.v6 value) = false := by
    rw [isPrivate, ipv4Mapped_of_pastLoopback past]
    exact List.any_eq_false.mpr fun net member =>
      not_inNetwork_of_pastLoopback past (privateNetworks_avoid net member)
  rw [pythonIsGlobal, notPrivate]
  rfl

/-! ### The embedded addresses -/

/-- Every embedding but an IPv4-compatible one past the loopback address is rejected, whatever
`is_global` says. -/
theorem not_isPublic_of_embeds (isGlobal : Ip → Bool) {address : BitVec 32} {value : BitVec 128}
    (embeds : Embeds address value) (notPast : ¬ PastLoopback value) :
    isPublic isGlobal (.v6 value) = false := by
  cases embeds with
  | mapped =>
    have blocked : (Ip.v6 0xFFFF00000000, 96) ∈ blockedNets := by decide
    exact not_isPublic_of_prefix blocked (toNat_append_div _ _)
  | compatible =>
    have small : (0#96 ++ address).toNat < 2 ^ 32 := by
      have high := toNat_append_div 0#96 address
      exact (Nat.div_eq_zero_iff.mp high).resolve_left (by decide)
    have lowest : (0#96 ++ address).toNat < 2 := by
      by_contra above
      exact notPast ⟨by omega, small⟩
    obtain isZero | isOne : (0#96 ++ address).toNat = 0 ∨ (0#96 ++ address).toNat = 1 := by omega
    · have blocked : (Ip.v6 0, 128) ∈ blockedNets := by decide
      exact not_isPublic_of_prefix blocked (by rw [isZero]; rfl)
    · have blocked : (Ip.v6 1, 128) ∈ blockedNets := by decide
      exact not_isPublic_of_prefix blocked (by rw [isOne]; rfl)
  | nat64 =>
    have blocked : (Ip.v6 0x64FF9B000000000000000000000000, 96) ∈ blockedNets := by decide
    exact not_isPublic_of_prefix blocked (toNat_append_div _ _)
  | sixToFour rest =>
    have blocked : (Ip.v6 0x20020000000000000000000000000000, 16) ∈ blockedNets := by decide
    exact not_isPublic_of_prefix blocked (toNat_append_div _ _)
  | teredo server flagsAndPort =>
    have blocked : (Ip.v6 0x20010000000000000000000000000000, 32) ∈ blockedNets := by decide
    exact not_isPublic_of_prefix blocked (toNat_append_div _ _)

/-- An address that embeds an IPv4 address is rejected exactly when it is no IPv4-compatible
address past the loopback address. -/
theorem embedded_rejected_iff {isGlobal : Ip → Bool} (compatibleGlobal : CompatibleGlobal isGlobal)
    {address : BitVec 32} {value : BitVec 128} (embeds : Embeds address value) :
    isPublic isGlobal (.v6 value) = false ↔ ¬ PastLoopback value := by
  constructor
  · intro rejected past
    rw [isPublic_of_pastLoopback past (compatibleGlobal value past)] at rejected
    cases rejected
  · exact not_isPublic_of_embeds isGlobal embeds

/-- `::ffff:10.0.0.1` is rejected. -/
theorem mappedPrivate_rejected : isPublic pythonIsGlobal (.v6 (0xFFFF#96 ++ 0x0A000001#32)) = false :=
  (embedded_rejected_iff compatibleGlobal_python .mapped).mpr (by unfold PastLoopback; decide)

/-- `10.0.0.1` is rejected, and `::10.0.0.1` is not. -/
theorem compatiblePrivate_accepted :
    ¬ ∀ (address : BitVec 32) (value : BitVec 128), isPublic pythonIsGlobal (.v4 address) = false →
      Embeds address value → isPublic pythonIsGlobal (.v6 value) = false := by
  intro all
  have rejected := all 0x0A000001#32 (0#96 ++ 0x0A000001#32) (by decide) .compatible
  exact absurd rejected (by decide)

end WebFetch

end LocalGpuCluster
