/-
This file proves which packets the rendered script lets through, in the words of the table it was
rendered from. The user of a packet decides: an agent's packet is accepted for what all agents may
reach and for what the lines of its own repository list, and any other packet passes untouched.
-/

import LocalGpuCluster.EgressRuleset
import Mathlib.Logic.Encodable.Basic
import Mathlib.Logic.Equiv.List

namespace LocalGpuCluster

namespace Egress

open Nft (Packet Rule)

/-! ### What a packet is -/

/-- The packet leaves on `lo` to 127.0.0.1 or ::1. -/
def ToLoopback (packet : Packet) : Prop :=
  packet.oifname = text "lo" ∧
    (packet.daddr.toText = text "127.0.0.1" ∨ packet.daddr.toText = text "::1")

/-- The packet belongs to an established or related connection. -/
def Tracked (packet : Packet) : Prop :=
  packet.ctState = .established ∨ packet.ctState = .related

/-- The packet is TCP to the endpoint. -/
def IsTcpTo (endpoint : Endpoint) (packet : Packet) : Prop :=
  packet.daddr.toText = endpoint.1 ∧ packet.tcpDport = some endpoint.2

/-- What every agent may send. -/
def IsShared (packet : Packet) : Prop :=
  ToLoopback packet ∨ Tracked packet ∨ IsTcpTo router packet

/-! ### Rules that apply -/

theorem toText_injective : Function.Injective Ip.toText := fun first second same => by
  have read := Ip.ofText_toText first
  rw [same, Ip.ofText_toText] at read
  exact (Option.some.inj read).symm

/-- An address is known by its text. -/
theorem eq_iff_toText {address other : Ip} {written : Text} (isText : other.toText = written) :
    address = other ↔ address.toText = written := by
  rw [← isText, toText_injective.eq_iff]

theorem toText_addressOf (value : BitVec 32) :
    (addressOf (Ip.v4Text value)).toText = Ip.v4Text value := by
  rw [addressOf, Ip.v4Of_v4Text, Option.getD_some, Ip.toText]

theorem acceptRule_applies {uid : ℕ} {endpoint : Endpoint} {packet : Packet}
    (written : ∃ value, endpoint.1 = Ip.v4Text value) :
    (acceptRule uid endpoint).applies packet = true ↔
      packet.skuid = some uid ∧ IsTcpTo endpoint packet := by
  obtain ⟨value, same⟩ := written
  have address : (addressOf endpoint.1).toText = endpoint.1 := by rw [same, toText_addressOf]
  simp only [acceptRule, Rule.applies, List.all_cons, List.all_nil, Bool.and_true, Bool.and_eq_true,
    Nft.Condition.holds, decide_eq_true_eq, eq_iff_toText address, IsTcpTo]
  refine and_congr_left fun _ => ?_
  cases packet.skuid with
  | none => simp
  | some other => simp

theorem sharedRules_apply (packet : Packet) :
    sharedRules.any (·.applies packet) = true ↔ IsShared packet := by
  have loopback : (addressOf (text "127.0.0.1")).toText = text "127.0.0.1" := by decide
  have loopback6 : (Ip.v6 1).toText = text "::1" := by decide
  have routerText : (addressOf router.1).toText = router.1 := by decide
  simp only [sharedRules, List.any_cons, List.any_nil, Bool.or_false, Bool.or_eq_true, Rule.applies, List.all_cons, List.all_nil, Bool.and_true, Bool.and_eq_true, Nft.Condition.holds,
    decide_eq_true_eq, eq_iff_toText loopback, eq_iff_toText loopback6, eq_iff_toText routerText,
    List.contains_eq_mem, List.mem_cons, List.not_mem_nil, or_false, IsShared, ToLoopback, Tracked,
    IsTcpTo, and_or_left, or_assoc]

theorem ownRules_apply {table : Table} (wellFormed : WellFormed table) {uidOf : Text → ℕ}
    {packet : Packet} :
    (ownRules table uidOf).any (·.applies packet) = true ↔
      ∃ row ∈ table, packet.skuid = some (uidOf row.2.user) ∧
        ∃ endpoint ∈ row.2.endpoints, IsTcpTo endpoint packet := by
  rw [List.any_eq_true]
  constructor
  · rintro ⟨rule, member, applies⟩
    obtain ⟨row, inTable, isRule⟩ := List.mem_flatMap.mp member
    obtain ⟨endpoint, isEndpoint, rfl⟩ := List.mem_map.mp isRule
    have here := (acceptRule_applies (wellFormed.addresses row inTable endpoint isEndpoint)).mp applies
    exact ⟨row, inTable, here.1, endpoint, isEndpoint, here.2⟩
  · rintro ⟨row, inTable, user, endpoint, isEndpoint, isTcp⟩
    exact ⟨acceptRule (uidOf row.2.user) endpoint,
      List.mem_flatMap.mpr ⟨row, inTable, List.mem_map_of_mem isEndpoint⟩,
      (acceptRule_applies (wellFormed.addresses row inTable endpoint isEndpoint)).mpr ⟨user, isTcp⟩⟩

/-! ### Verdicts -/

theorem outputRule_applies {table : Table} {uidOf : Text → ℕ} {packet : Packet} :
    (outputRule table uidOf).applies packet = true ↔
      ∃ row ∈ table, packet.skuid = some (uidOf row.2.user) := by
  simp only [outputRule, Rule.applies, List.all_cons, List.all_nil, Bool.and_true,
    Nft.Condition.holds, uids]
  cases packet.skuid with
  | none => simp
  | some uid =>
    rw [Option.any_some, List.contains_eq_mem, decide_eq_true_eq, List.mem_map]
    simp only [Option.some.injEq, eq_comm]

/-- The second chain always has a verdict. -/
theorem run_agentOut (table : Table) (uidOf : Text → ℕ) (packet : Packet) (depth : ℕ) :
    (chains table uidOf).run packet (depth + 1) (text "agent_out") =
      if (sharedRules ++ ownRules table uidOf).any (·.applies packet) then some .accept
      else some .reject := by
  have accepting : ∀ rule ∈ sharedRules ++ ownRules table uidOf, rule.statement = .accept := by
    intro rule member
    obtain shared | own := List.mem_append.mp member
    · have each : sharedRules.all (·.statement = .accept) = true := by decide
      exact of_decide_eq_true (List.all_eq_true.mp each rule shared)
    · obtain ⟨row, _, isRule⟩ := List.mem_flatMap.mp own
      obtain ⟨endpoint, _, rfl⟩ := List.mem_map.mp isRule
      rfl
  have rules : (chains table uidOf).rulesOf (text "agent_out") =
      sharedRules ++ ownRules table uidOf ++ [⟨[], .reject⟩] := rfl
  rw [Nft.Chains.run, rules, Nft.runRules_append, Nft.runRules_of_accept accepting]
  split
  · rfl
  · rfl

/-- The first chain sends the packets of agents through the second. -/
theorem hook_eq (table : Table) (uidOf : Text → ℕ) (packet : Packet) :
    (chains table uidOf).hook packet =
      [if (outputRule table uidOf).applies packet then
        (chains table uidOf).run packet Nft.jumpStackSize (text "agent_out") else none] := by
  have rules : (chains table uidOf).rulesOf (text "output") = [outputRule table uidOf] := rfl
  have hooked : (chains table uidOf).hook packet =
      [(chains table uidOf).run packet (Nft.jumpStackSize + 1) (text "output")] := rfl
  rw [hooked, Nft.Chains.run, rules, Nft.runRules]
  split
  · show [((chains table uidOf).run packet Nft.jumpStackSize (text "agent_out")).or none] = _
    rw [Option.or_none]
  · rfl

theorem hook_of_not_agent {table : Table} {uidOf : Text → ℕ} {packet : Packet}
    (noAgent : ∀ row ∈ table, packet.skuid ≠ some (uidOf row.2.user)) :
    (chains table uidOf).hook packet = [none] := by
  rw [hook_eq, if_neg]
  rw [outputRule_applies]
  rintro ⟨row, inTable, user⟩
  exact noAgent row inTable user

theorem accepts_of_agent {table : Table} (wellFormed : WellFormed table) {uidOf : Text → ℕ}
    {packet : Packet} (agent : ∃ row ∈ table, packet.skuid = some (uidOf row.2.user)) :
    (chains table uidOf).accepts packet = true ↔
      IsShared packet ∨ ∃ row ∈ table, packet.skuid = some (uidOf row.2.user) ∧
        ∃ endpoint ∈ row.2.endpoints, IsTcpTo endpoint packet := by
  have rules : (sharedRules ++ ownRules table uidOf).any (·.applies packet) = true ↔
      IsShared packet ∨ ∃ row ∈ table, packet.skuid = some (uidOf row.2.user) ∧
        ∃ endpoint ∈ row.2.endpoints, IsTcpTo endpoint packet := by
    rw [List.any_append, Bool.or_eq_true, sharedRules_apply, ownRules_apply wellFormed]
  have depth : Nft.jumpStackSize = 15 + 1 := rfl
  rw [← rules, Nft.Chains.accepts, hook_eq, if_pos (outputRule_applies.mpr agent), depth, run_agentOut]
  cases (sharedRules ++ ownRules table uidOf).any (·.applies packet) with
  | true => decide
  | false => decide

/-! ### The configuration text -/

theorem mem_ipAllow_fold {endpoints : List Endpoint} {ips : List Text} {ip : Text} :
    ip ∈ endpoints.foldl
        (fun ips endpoint => if endpoint.1 ∈ ips then ips else ips ++ [endpoint.1]) ips ↔
      ip ∈ ips ∨ ∃ endpoint ∈ endpoints, endpoint.1 = ip := by
  induction endpoints generalizing ips with
  | nil => simp
  | cons endpoint rest inductionHypothesis =>
    rw [List.foldl_cons, inductionHypothesis]
    simp only [List.mem_cons, exists_eq_or_imp]
    split
    next there =>
      constructor
      · rintro (before | after)
        · exact .inl before
        · exact .inr (.inr after)
      · rintro (before | rfl | after)
        · exact .inl before
        · exact .inl there
        · exact .inr after
    next => simp only [List.mem_append, List.mem_singleton, or_assoc, eq_comm]

/-- What `ip_allow` gives: the addresses of all agents, and those of the repository. -/
theorem mem_ipAllow {table : Table} (wellFormed : WellFormed table) {repo : Text} {entry : Entry}
    (inTable : (repo, entry) ∈ table) :
    ∃ ips, ipAllow table repo = some ips ∧ ∀ ip, ip ∈ ips ↔
      ip ∈ [text "127.0.0.1", text "::1", router.1] ∨ ∃ endpoint ∈ entry.endpoints, endpoint.1 = ip := by
  have found : table.lookup repo = some entry := Dictionary.lookup_of_mem wellFormed.repos inTable
  refine ⟨_, by rw [ipAllow, found, Option.map_some], fun ip => mem_ipAllow_fold⟩

section Rendered

variable {content : Text} {table : Table} {uidOf : Text → ℕ} (parsed : parse content = .ok table)
  (injective : Function.Injective uidOf)

include parsed injective

/-- The entry of a user is the one of its repository. -/
theorem eq_of_user {repo other : Text} {entry otherEntry : Entry} (inTable : (repo, entry) ∈ table)
    (also : (other, otherEntry) ∈ table) (same : uidOf entry.user = uidOf otherEntry.user) :
    (repo, entry) = (other, otherEntry) :=
  List.inj_on_of_nodup_map (wellFormed_of_parse parsed).users inTable also (injective same)

/-- An agent's packet is accepted for what is shared and for what its repository lists. -/
theorem accepts_iff_lists {repo user : Text} (owns : Owns content repo user) {packet : Packet}
    (isUser : packet.skuid = some (uidOf user)) :
    (chains table uidOf).accepts packet = true ↔
      IsShared packet ∨ ∃ endpoint, Lists content repo endpoint ∧ IsTcpTo endpoint packet := by
  obtain ⟨entry, inTable, rfl⟩ := (owns_iff parsed repo user).mp owns
  rw [accepts_of_agent (wellFormed_of_parse parsed) ⟨(repo, entry), inTable, isUser⟩]
  refine or_congr_right ?_
  simp only [lists_iff parsed, isUser, Option.some.injEq]
  constructor
  · rintro ⟨⟨other, otherEntry⟩, also, same, endpoint, isEndpoint, isTcp⟩
    cases eq_of_user parsed injective inTable also same
    exact ⟨endpoint, ⟨entry, inTable, isEndpoint⟩, isTcp⟩
  · rintro ⟨endpoint, ⟨otherEntry, also, isEndpoint⟩, isTcp⟩
    cases List.inj_on_of_nodup_map (wellFormed_of_parse parsed).repos inTable also rfl
    exact ⟨(repo, entry), inTable, rfl, endpoint, isEndpoint, isTcp⟩

/-- An accepted packet goes to an address of `ip_allow`, unless its connection is tracked. -/
theorem toText_mem_of_accepts {repo user : Text} (owns : Owns content repo user) {packet : Packet}
    (isUser : packet.skuid = some (uidOf user))
    (accepted : (chains table uidOf).accepts packet = true) {ips : List Text}
    (allowed : ipAllow table repo = some ips) :
    Tracked packet ∨ packet.daddr.toText ∈ ips := by
  obtain ⟨entry, inTable, _⟩ := (owns_iff parsed repo user).mp owns
  obtain ⟨others, same, members⟩ := mem_ipAllow (wellFormed_of_parse parsed) inTable
  rw [allowed] at same
  cases same
  obtain (⟨_, loopback⟩ | tracked | toRouter) | ⟨endpoint, lists, isTcp⟩ :=
    (accepts_iff_lists parsed injective owns isUser).mp accepted
  · refine .inr ((members _).mpr (.inl ?_))
    obtain same | same := loopback
    · rw [same]; decide
    · rw [same]; decide
  · exact .inl tracked
  · refine .inr ((members _).mpr (.inl ?_))
    rw [toRouter.1]
    decide
  · obtain ⟨otherEntry, also, isEndpoint⟩ := (lists_iff parsed repo endpoint).mp lists
    cases List.inj_on_of_nodup_map (wellFormed_of_parse parsed).repos inTable also rfl
    exact .inr ((members _).mpr (.inr ⟨endpoint, isEndpoint, isTcp.1.symm⟩))

end Rendered

/-- The rendered script loads, whatever is loaded already, and then every agent reaches exactly what
is shared and what its repository lists. It reaches no endpoint of another repository, its addresses
are those of `ip_allow`, and no packet of another user meets a verdict. -/
theorem egress_of_parse {content : Text} {table : Table} {uidOf : Text → ℕ}
    (parsed : parse content = .ok table) (some : table ≠ []) (injective : Function.Injective uidOf) :
    ∃ ruleset : Nft.Chains,
      (∀ loaded : Nft.Tables,
        Nft.load loaded (renderNft table uidOf) = .some (loaded.store tableName ruleset)) ∧
      (∀ repo user, Owns content repo user → ∀ packet : Packet,
        packet.skuid = .some (uidOf user) →
        (ruleset.accepts packet = true ↔ ToLoopback packet ∨ Tracked packet ∨
          IsTcpTo router packet ∨ ∃ endpoint, Lists content repo endpoint ∧ IsTcpTo endpoint packet) ∧
        (∀ other endpoint, Lists content other endpoint → ¬Lists content repo endpoint →
          IsTcpTo endpoint packet → endpoint ≠ router → ¬ToLoopback packet → ¬Tracked packet →
            ruleset.accepts packet = false) ∧
        ∃ ips, ipAllow table repo = .some ips ∧
          (∀ endpoint, Lists content repo endpoint → endpoint.1 ∈ ips) ∧
          (ruleset.accepts packet = true → Tracked packet ∨ packet.daddr.toText ∈ ips)) ∧
      ∀ packet : Packet, (∀ repo user, Owns content repo user → packet.skuid ≠ .some (uidOf user)) →
        ruleset.hook packet = [none] ∧ ruleset.accepts packet = true := by
  have wellFormed := wellFormed_of_parse parsed
  refine ⟨chains table uidOf, load_renderNft wellFormed some uidOf,
    fun repo user owns packet isUser => ?_, fun packet noAgent => ?_⟩
  · have accepts := accepts_iff_lists parsed injective owns isUser
    rw [IsShared, or_assoc, or_assoc] at accepts
    refine ⟨accepts, fun other endpoint _ foreign isTcp noRouter noLoopback untracked => ?_, ?_⟩
    · rw [Bool.eq_false_iff, ne_eq, accepts]
      have same (own : Endpoint) (also : IsTcpTo own packet) : own = endpoint :=
        Prod.ext (also.1.symm.trans isTcp.1) (Option.some.inj (also.2.symm.trans isTcp.2))
      rintro (loopback | tracked | toRouter | ⟨own, lists, also⟩)
      · exact noLoopback loopback
      · exact untracked tracked
      · exact noRouter (same router toRouter).symm
      · exact foreign (same own also ▸ lists)
    · obtain ⟨entry, inTable, _⟩ := (owns_iff parsed repo user).mp owns
      obtain ⟨ips, allowed, members⟩ := mem_ipAllow wellFormed inTable
      refine ⟨ips, allowed, fun endpoint lists => ?_, fun accepted =>
        toText_mem_of_accepts parsed injective owns isUser accepted allowed⟩
      obtain ⟨otherEntry, also, isEndpoint⟩ := (lists_iff parsed repo endpoint).mp lists
      cases List.inj_on_of_nodup_map wellFormed.repos inTable also rfl
      exact (members _).mpr (.inr ⟨endpoint, isEndpoint, rfl⟩)
  · have silent : (chains table uidOf).hook packet = [none] :=
      hook_of_not_agent fun row inTable =>
        noAgent row.1 row.2.user ((owns_iff parsed _ _).mpr ⟨row.2, inTable, rfl⟩)
    refine ⟨silent, ?_⟩
    rw [Nft.Chains.accepts, silent]
    decide

/-- One line of the configuration. -/
def rustLine : Text := text "SDG-RUST  agent-rust  10.60.40.10:80 10.60.20.12:2022  # panel"

def rustTable : Table :=
  [(text "SDG-RUST", ⟨text "agent-rust", [(text "10.60.40.10", 80), (text "10.60.20.12", 2022)]⟩)]

theorem egress_of_parse_rust :
    ∃ ruleset : Nft.Chains,
      Nft.load [] (renderNft rustTable Encodable.encode) =
        some (Nft.Tables.store [] tableName ruleset) ∧
      ruleset.accepts ⟨some (Encodable.encode (text "agent-rust")), text "eth0", .v4 0x0A3C280A,
        some 80, .new⟩ = true := by
  have parsed : parse rustLine = .ok rustTable := by decide
  obtain ⟨ruleset, loads, agents, _⟩ :=
    egress_of_parse parsed (List.cons_ne_nil _ _) Encodable.encode_injective
  have member : (text "SDG-RUST", (⟨text "agent-rust", [(text "10.60.40.10", 80),
      (text "10.60.20.12", 2022)]⟩ : Entry)) ∈ rustTable := List.mem_singleton_self _
  have owns : Owns rustLine (text "SDG-RUST") (text "agent-rust") :=
    (owns_iff parsed _ _).mpr ⟨_, member, rfl⟩
  have lists : Lists rustLine (text "SDG-RUST") (text "10.60.40.10", 80) :=
    (lists_iff parsed _ _).mpr ⟨_, member, List.mem_cons_self⟩
  refine ⟨ruleset, loads [], (agents _ _ owns _ rfl).1.mpr (.inr (.inr (.inr ⟨_, lists, ?_⟩)))⟩
  exact ⟨by decide, rfl⟩

end Egress

end LocalGpuCluster
