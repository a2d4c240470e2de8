/-
This file proves what the rendered script lets through. Whatever tables are loaded, the script
leaves one table with two chains; a packet of an agent goes through the second, whose rules accept
loopback, tracked connections, the router and the endpoints of the agent's own repository, and reject
the rest.
-/

import LocalGpuCluster.EgressTable
import LocalGpuCluster.IpText
import LocalGpuCluster.Nftables

namespace LocalGpuCluster

namespace Egress

open Nft (Chain Chains Condition CtState Packet ReadsAs Rule Tables tokens)

/-! ### The chains -/

/-- The address of a text that `IPv4Address` wrote. -/
def addressOf (ip : Text) : Ip := .v4 ((Ip.v4Of ip).getD 0)

/-- The rule of `acceptLine`. -/
def acceptRule (uid : ℕ) (endpoint : Endpoint) : Rule :=
  ⟨[.metaSkuid [uid], .daddr (addressOf endpoint.1), .tcpDport endpoint.2], .accept⟩

/-- The rules for every agent. -/
def sharedRules : List Rule :=
  [⟨[.oifname (text "lo"), .daddr (addressOf (text "127.0.0.1"))], .accept⟩,
    ⟨[.oifname (text "lo"), .daddr (.v6 1)], .accept⟩,
    ⟨[.ctState [.established, .related]], .accept⟩,
    ⟨[.daddr (addressOf router.1), .tcpDport router.2], .accept⟩]

def ownRules (table : Table) (uidOf : Text → ℕ) : List Rule :=
  table.flatMap fun row => row.2.endpoints.map (acceptRule (uidOf row.2.user))

def uids (table : Table) (uidOf : Text → ℕ) : List ℕ := table.map fun row => uidOf row.2.user

def outputRule (table : Table) (uidOf : Text → ℕ) : Rule :=
  ⟨[.metaSkuid (uids table uidOf)], .jump (text "agent_out")⟩

/-- What the script loads. -/
def chains (table : Table) (uidOf : Text → ℕ) : Chains :=
  [⟨text "output", true, [outputRule table uidOf]⟩,
    ⟨text "agent_out", false, sharedRules ++ ownRules table uidOf ++ [⟨[], .reject⟩]⟩]

/-! ### The script is read -/

/-- A word of digits and dots. -/
theorem isWord_of_isDigit {word : Text} (some : word ≠ [])
    (digits : ∀ point ∈ word, 0x2E ≤ point.val ∧ point.val ≤ 0x39) : Nft.isWord word = true := by
  have each : ∀ value < 0x3A, 0x2E ≤ value → Nft.isPlain (Fin.ofNat 0x110000 value) = true := by
    decide
  rw [Nft.isWord, Bool.and_eq_true, decide_eq_true_eq, List.all_eq_true]
  refine ⟨some, fun point member => ?_⟩
  have here := each point.val (Nat.lt_succ_of_le (digits point member).2) (digits point member).1
  rwa [Fin.ofNat_val_eq_self] at here

theorem isWord_decimal (value : ℕ) : Nft.isWord (decimal (value : ℕ)) = true :=
  isWord_of_isDigit (Ip.decimal_ne_nil value) fun point member => by
    have digit := isDigit_of_mem_decimal member
    omega

/-- An IPv4 address is written in digits and dots. -/
theorem points_v4Text {value : BitVec 32} {point : CodePoint} (member : point ∈ Ip.v4Text value) :
    0x2E ≤ point.val ∧ point.val ≤ 0x39 := by
  obtain dot | ⟨part, isPart, inside⟩ := Text.mem_join member
  · rw [List.mem_singleton.mp dot]
    decide
  · obtain ⟨shift, _, rfl⟩ := List.mem_map.mp isPart
    have digit := isDigit_of_mem_decimal inside
    omega

theorem isWord_v4Text (value : BitVec 32) : Nft.isWord (Ip.v4Text value) = true := by
  refine isWord_of_isDigit ?_ fun point => points_v4Text
  intro empty
  have read := Ip.v4Of_v4Text value
  rw [empty] at read
  cases read

/-- A line of an endpoint, token by token. -/
theorem tokens_acceptLine (uid port : ℕ) (value : BitVec 32) (repo : Text) :
    tokens (acceptLine uid repo (Ip.v4Text value, port)) =
      [text "meta", text "skuid", decimal uid, text "ip", text "daddr", Ip.v4Text value, text "tcp",
        text "dport", decimal port, text "accept"] := by
  have line : acceptLine uid repo (Ip.v4Text value, port) =
      0x20 :: 0x20 :: 0x20 :: 0x20 :: (text "meta" ++ 0x20 :: (text "skuid" ++ 0x20 ::
        (decimal uid ++ 0x20 :: (text "ip" ++ 0x20 :: (text "daddr" ++ 0x20 ::
          (Ip.v4Text value ++ 0x20 :: (text "tcp" ++ 0x20 :: (text "dport" ++ 0x20 ::
            (decimal port ++ 0x20 :: (text "accept" ++ 0x20 :: 0x20 :: 0x23 :: 0x20 ::
              repo)))))))))) := by
    have before : text "    meta skuid " =
        0x20 :: 0x20 :: 0x20 :: 0x20 :: (text "meta" ++ 0x20 :: (text "skuid" ++ [0x20])) := rfl
    have daddr : text " ip daddr " = 0x20 :: (text "ip" ++ 0x20 :: (text "daddr" ++ [0x20])) := rfl
    have dport : text " tcp dport " = 0x20 :: (text "tcp" ++ 0x20 :: (text "dport" ++ [0x20])) := rfl
    have after : text " accept  # " = 0x20 :: (text "accept" ++ [0x20, 0x20, 0x23, 0x20]) := rfl
    unfold acceptLine
    rw [before, daddr, dport, after]
    simp only [List.cons_append, List.append_assoc, List.nil_append]
  have words : (["meta", "skuid", "ip", "daddr", "tcp", "dport", "accept"].map text).all Nft.isWord =
      true := by
    decide
  simp only [List.map_cons, List.map_nil, List.all_cons, Bool.and_eq_true] at words
  obtain ⟨metaWord, skuid, ip, daddr, tcp, dport, accept, _⟩ := words
  rw [line]
  simp only [Nft.tokens_blank, Nft.tokens_word_blank metaWord, Nft.tokens_word_blank skuid,
    Nft.tokens_word_blank ip, Nft.tokens_word_blank daddr, Nft.tokens_word_blank tcp,
    Nft.tokens_word_blank dport, Nft.tokens_word_blank accept,
    Nft.tokens_word_blank (isWord_decimal _), Nft.tokens_word_blank (isWord_v4Text _),
    Nft.tokens_comment]

theorem readsAs_acceptLine (uid port : ℕ) (value : BitVec 32) (repo : Text) :
    ReadsAs (acceptLine uid repo (Ip.v4Text value, port)) (acceptRule uid (Ip.v4Text value, port)) := by
  have accept : Nft.readRule 7 [text "accept"] = some ⟨[], .accept⟩ := rfl
  have dport := Nft.readRule_of_condition rfl
    (Nft.readCondition_tcpDport (Ip.numberOf_decimal port) [text "accept"]) accept
  have daddr := Nft.readRule_of_condition rfl
    (Nft.readCondition_ipDaddr (Ip.v4Of_v4Text value) _) dport
  have skuid := Nft.readRule_of_condition rfl
    (Nft.readCondition_metaSkuid (Ip.numberOf_decimal uid) _) daddr
  unfold ReadsAs acceptRule addressOf
  rw [tokens_acceptLine, Ip.v4Of_v4Text, Option.getD_some]
  exact skuid

/-- The line that sends the packets of agents to their chain. -/
def outputLine (table : Table) (uidOf : Text → ℕ) : Text :=
  text "    meta skuid \x7b " ++
    Text.join (text ", ") (table.map fun row => decimal (uidOf row.2.user)) ++
      text " \x7d jump agent_out"

theorem readsAs_outputLine {table : Table} (some : table ≠ []) (uidOf : Text → ℕ) :
    ReadsAs (outputLine table uidOf) (outputRule table uidOf) := by
  have someWords : (table.map fun row => decimal (uidOf row.2.user)) ≠ [] :=
    fun none => some (List.map_eq_nil_iff.mp none)
  have line : tokens (outputLine table uidOf) = text "meta" :: text "skuid" :: text "\x7b" ::
      ((table.map fun row => decimal (uidOf row.2.user)).intersperse (text ",") ++
        [text "\x7d", text "jump", text "agent_out"]) := by
    have before : text "    meta skuid \x7b " = 0x20 :: 0x20 :: 0x20 :: 0x20 ::
        (text "meta" ++ 0x20 :: (text "skuid" ++ 0x20 :: [0x7B, 0x20])) := rfl
    have after : text " \x7d jump agent_out" = 0x20 :: text "\x7d jump agent_out" := rfl
    have words : ∀ word ∈ table.map fun row => decimal (uidOf row.2.user), Nft.isWord word = true := by
      intro word member
      obtain ⟨row, _, rfl⟩ := List.mem_map.mp member
      exact isWord_decimal _
    unfold outputLine
    rw [before, after]
    simp only [List.cons_append, List.append_assoc, List.nil_append]
    rw [Nft.tokens_blank, Nft.tokens_blank, Nft.tokens_blank, Nft.tokens_blank,
      Nft.tokens_word_blank (by decide), Nft.tokens_word_blank (by decide),
      Nft.tokens_brace, Nft.tokens_blank, Nft.tokens_join someWords words]
    rfl
  have numbers : List.Forall₂ (fun word uid => Ip.numberOf 10 word = .some uid)
      (table.map fun row => decimal (uidOf row.2.user)) (uids table uidOf) := by
    unfold uids
    rw [List.forall₂_map_left_iff, List.forall₂_map_right_iff]
    exact List.forall₂_same.mpr fun row _ => Ip.numberOf_decimal _
  have length : (tokens (outputLine table uidOf)).length =
      ((table.map fun row => decimal (uidOf row.2.user)).intersperse (text ",")).length + 4 + 2 := by
    rw [line]
    simp only [List.length_cons, List.length_append, List.length_nil]
  have jump (bound : ℕ) : Nft.readRule (bound + 1) [text "jump", text "agent_out"] =
      .some ⟨[], .jump (text "agent_out")⟩ := rfl
  unfold ReadsAs
  rw [length, line]
  exact Nft.readRule_of_condition rfl (Nft.readCondition_metaSkuids someWords numbers _) (jump _)

/-! ### The script is loaded -/

def tableName : Text := text "agent_egress"

/-- The lines before the rule of the first chain. -/
def openingLines : List Text :=
  ["# generated by agent_runner_egress.py from egress.conf -- do not edit", "table inet agent_egress",
    "delete table inet agent_egress", "table inet agent_egress \x7b", "  chain output \x7b",
    "    type filter hook output priority filter; policy accept;"].map text

/-- The lines between that rule and the shared rules. -/
def betweenLines : List Text := ["  \x7d", "  chain agent_out \x7b"].map text

def sharedLines : List Text :=
  [text "    oifname \"lo\" ip daddr 127.0.0.1 accept", text "    oifname \"lo\" ip6 daddr ::1 accept",
    text "    ct state established,related accept",
    text "    ip daddr " ++ router.1 ++ text " tcp dport " ++ decimal router.2 ++ text " accept"]

def ownLines (table : Table) (uidOf : Text → ℕ) : List Text :=
  table.flatMap fun row => row.2.endpoints.map (acceptLine (uidOf row.2.user) row.1)

def rejectLine : Text := text "    reject with icmpx admin-prohibited"

def closingLines : List Text := ["  \x7d", "\x7d", ""].map text

/-- The lines of the script, the empty one after the last line feed among them. -/
def scriptLines (table : Table) (uidOf : Text → ℕ) : List Text :=
  openingLines ++ ([outputLine table uidOf] ++ (betweenLines ++
    (sharedLines ++ ownLines table uidOf ++ [rejectLine] ++ closingLines)))

theorem readsAs_sharedLines : List.Forall₂ ReadsAs sharedLines sharedRules := by
  have each : (sharedLines.map fun line => Nft.readRule (tokens line).length (tokens line)) =
      sharedRules.map some := by
    decide
  rw [← List.forall₂_eq_eq_eq, List.forall₂_map_left_iff, List.forall₂_map_right_iff] at each
  exact each

theorem readsAs_rejectLine : ReadsAs rejectLine ⟨[], .reject⟩ := by
  unfold ReadsAs
  decide

theorem readsAs_ownLines {table : Table} (wellFormed : WellFormed table) (uidOf : Text → ℕ) :
    List.Forall₂ ReadsAs (ownLines table uidOf) (ownRules table uidOf) := by
  have addresses := wellFormed.addresses
  unfold ownLines ownRules
  clear wellFormed
  induction table with
  | nil => exact .nil
  | cons row rest inductionHypothesis =>
    rw [List.flatMap_cons, List.flatMap_cons]
    refine List.rel_append ?_ (inductionHypothesis fun other member =>
      addresses other (List.mem_cons_of_mem _ member))
    rw [List.forall₂_map_left_iff, List.forall₂_map_right_iff]
    refine List.forall₂_same.mpr fun endpoint member => ?_
    obtain ⟨value, same⟩ := addresses row List.mem_cons_self endpoint member
    obtain ⟨ip, port⟩ := endpoint
    cases same
    exact readsAs_acceptLine _ port value row.1

/-- A table is there after it is declared, and the declaration changes no other. -/
theorem readOutside_declare (loaded : Tables) (name : Text) :
    ∃ declared : Tables, loaded.readOutside [text "table", text "inet", name] =
        some ⟨declared, .outside⟩ ∧ (declared.lookup name).isSome = true ∧
      declared.delete name = loaded.delete name := by
  have declare : loaded.readOutside [text "table", text "inet", name] =
      some (if (loaded.lookup name).isSome then ⟨loaded, .outside⟩
        else ⟨loaded.store name [], .outside⟩) := rfl
  rw [declare]
  by_cases there : (loaded.lookup name).isSome = true
  · rw [if_pos there]
    exact ⟨loaded, rfl, there, rfl⟩
  · rw [if_neg there]
    refine ⟨loaded.store name [], rfl, ?_, Nft.delete_store _ _ _⟩
    rw [Tables.store, List.lookup_append, Nft.lookup_delete, List.lookup_cons, beq_self_eq_true]
    rfl

/-- The table is emptied by its deletion, and its block starts anew. -/
theorem readLines_opening (loaded : Tables) :
    (⟨loaded, .outside⟩ : Nft.Loading).readLines openingLines =
      some ⟨loaded.delete tableName, .inChain tableName [] ⟨text "output", true, []⟩⟩ := by
  have lines : openingLines.map tokens =
      [[], [text "table", text "inet", tableName],
        [text "delete", text "table", text "inet", tableName],
        [text "table", text "inet", tableName, text "\x7b"], [text "chain", text "output", text "\x7b"],
        Nft.hookTokens] := by
    decide
  obtain ⟨declared, declare, there, others⟩ := readOutside_declare loaded tableName
  have comment : (⟨loaded, .outside⟩ : Nft.Loading).readLine [] = some ⟨loaded, .outside⟩ := rfl
  have first : (⟨loaded, .outside⟩ : Nft.Loading).readLine [text "table", text "inet", tableName] =
      some ⟨declared, .outside⟩ := declare
  have second : (⟨declared, .outside⟩ : Nft.Loading).readLine
      [text "delete", text "table", text "inet", tableName] =
        some ⟨declared.delete tableName, .outside⟩ := by
    show (if (declared.lookup tableName).isSome = true then _ else none) = _
    rw [if_pos there]
  have third : (⟨declared.delete tableName, .outside⟩ : Nft.Loading).readLine
      [text "table", text "inet", tableName, text "\x7b"] =
        some ⟨declared.delete tableName, .inTable tableName []⟩ := by
    show some (⟨_, .inTable tableName (Option.getD (List.lookup _ _) [])⟩ : Nft.Loading) = _
    rw [Nft.lookup_delete]
    rfl
  have folded : (⟨loaded, .outside⟩ : Nft.Loading).readLines openingLines =
      (openingLines.map tokens).foldlM Nft.Loading.readLine ⟨loaded, .outside⟩ :=
    List.foldlM_map.symm
  rw [folded, lines, ← others]
  simp only [List.foldlM_cons, comment, first, second, third, Option.bind_eq_bind, Option.bind_some]
  rfl

theorem readLines_scriptLines {table : Table} (wellFormed : WellFormed table) (some : table ≠ [])
    (uidOf : Text → ℕ) (loaded : Tables) :
    (⟨loaded, .outside⟩ : Nft.Loading).readLines (scriptLines table uidOf) =
      .some ⟨loaded.store tableName (chains table uidOf), .outside⟩ := by
  have output : (⟨loaded.delete tableName, .inChain tableName [] ⟨text "output", true, []⟩⟩ :
      Nft.Loading).readLines [outputLine table uidOf] =
        .some ⟨loaded.delete tableName,
          .inChain tableName [] ⟨text "output", true, [outputRule table uidOf]⟩⟩ :=
    Nft.readLines_of_readsAs (.cons (readsAs_outputLine some uidOf) .nil) _
  have between (output : Chain) : (⟨loaded.delete tableName, .inChain tableName [] output⟩ :
      Nft.Loading).readLines betweenLines =
        .some ⟨loaded.delete tableName, .inChain tableName [output] ⟨text "agent_out", false, []⟩⟩ := by
    have lines : betweenLines.map tokens =
        [[text "\x7d"], [text "chain", text "agent_out", text "\x7b"]] := by
      decide
    refine (List.foldlM_map (g := Nft.Loading.readLine)).symm.trans ?_
    rw [lines]
    rfl
  have agentOut (output : Chain) :
      (⟨loaded.delete tableName, .inChain tableName [output] ⟨text "agent_out", false, []⟩⟩ :
        Nft.Loading).readLines (sharedLines ++ ownLines table uidOf ++ [rejectLine]) =
        .some ⟨loaded.delete tableName, .inChain tableName [output]
          ⟨text "agent_out", false, sharedRules ++ ownRules table uidOf ++ [⟨[], .reject⟩]⟩⟩ :=
    Nft.readLines_of_readsAs
      (List.rel_append (List.rel_append readsAs_sharedLines (readsAs_ownLines wellFormed uidOf))
        (.cons readsAs_rejectLine .nil)) _
  have closing (output agentOut : Chain) :
      (⟨loaded.delete tableName, .inChain tableName [output] agentOut⟩ :
        Nft.Loading).readLines closingLines =
        .some ⟨loaded.store tableName [output, agentOut], .outside⟩ := by
    have lines : closingLines.map tokens = [[text "\x7d"], [text "\x7d"], []] := by
      decide
    refine (List.foldlM_map (g := Nft.Loading.readLine)).symm.trans ?_
    rw [lines]
    show Option.some (⟨(loaded.delete tableName).store tableName [output, agentOut], .outside⟩ :
      Nft.Loading) = _
    unfold Tables.store
    rw [Nft.delete_delete]
  unfold scriptLines
  rw [Nft.readLines_append, readLines_opening, Option.bind_some, Nft.readLines_append, output,
    Option.bind_some, Nft.readLines_append, between, Option.bind_some, Nft.readLines_append, agentOut,
    Option.bind_some, closing]
  rfl

theorem not_mem_decimal {point : CodePoint} (noDigit : ¬(0x30 ≤ point.val ∧ point.val ≤ 0x39))
    (value : ℕ) : point ∉ decimal (value : ℕ) :=
  fun member => noDigit (isDigit_of_mem_decimal member)

theorem newline_not_mem_outputLine (table : Table) (uidOf : Text → ℕ) :
    (0xA : CodePoint) ∉ outputLine table uidOf := by
  have before : (0xA : CodePoint) ∉ text "    meta skuid \x7b " := by decide
  have after : (0xA : CodePoint) ∉ text " \x7d jump agent_out" := by decide
  have inside : (0xA : CodePoint) ∉
      Text.join (text ", ") (table.map fun row => decimal (uidOf row.2.user)) := by
    intro member
    obtain comma | ⟨part, isPart, inPart⟩ := Text.mem_join member
    · revert comma
      decide
    · obtain ⟨row, _, rfl⟩ := List.mem_map.mp isPart
      exact not_mem_decimal (by decide) _ inPart
  unfold outputLine
  simp only [List.mem_append, before, after, inside, or_self, not_false_eq_true]

theorem newline_not_mem_acceptLine {repo : Text} (points : ∀ point ∈ repo, isRepoPoint point = true)
    (uid port : ℕ) (value : BitVec 32) :
    (0xA : CodePoint) ∉ acceptLine uid repo (Ip.v4Text value, port) := by
  have parts : ∀ part ∈ [text "    meta skuid ", text " ip daddr ", text " tcp dport ",
      text " accept  # "], (0xA : CodePoint) ∉ part := by
    decide
  simp only [List.forall_mem_cons] at parts
  obtain ⟨before, ip, tcp, after, _⟩ := parts
  have inAddress : (0xA : CodePoint) ∉ Ip.v4Text value := fun member => by
    have low := (points_v4Text member).1
    revert low
    decide
  have inRepo : (0xA : CodePoint) ∉ repo := fun member => by
    have point := points _ member
    revert point
    decide
  have inNumber : ∀ value : ℕ, (0xA : CodePoint) ∉ decimal value := not_mem_decimal (by decide)
  unfold acceptLine
  simp only [List.mem_append, before, ip, tcp, after, inAddress, inRepo, or_self, not_false_eq_true,
    inNumber]

theorem newline_not_mem_scriptLines {table : Table} (wellFormed : WellFormed table)
    (uidOf : Text → ℕ) : ∀ line ∈ scriptLines table uidOf, (0xA : CodePoint) ∉ line := by
  have closed : (openingLines ++ betweenLines ++ sharedLines ++ [rejectLine] ++ closingLines).all
      (fun line => !line.contains 0xA) = true := by
    decide
  simp only [List.all_eq_true, List.mem_append, Bool.not_eq_true', List.contains_eq_mem,
    decide_eq_false_iff_not] at closed
  intro line member
  simp only [scriptLines, List.mem_append, List.mem_singleton] at member
  obtain opening | rfl | between | ((shared | own) | reject) | closing := member
  · exact closed line (by simp [opening])
  · exact newline_not_mem_outputLine table uidOf
  · exact closed line (by simp [between])
  · exact closed line (by simp [shared])
  · obtain ⟨row, inTable, isLine⟩ := List.mem_flatMap.mp own
    obtain ⟨⟨ip, port⟩, isEndpoint, rfl⟩ := List.mem_map.mp isLine
    obtain ⟨value, rfl⟩ := wellFormed.addresses row inTable _ isEndpoint
    exact newline_not_mem_acceptLine (wellFormed.repoPoints row inTable) _ port value
  · exact closed line (by simp [reject])
  · exact closed line (by simp [closing])

/-- Whatever is loaded, the script leaves the table with these chains, and every other table as it
was. -/
theorem load_renderNft {table : Table} (wellFormed : WellFormed table) (some : table ≠ [])
    (uidOf : Text → ℕ) (loaded : Tables) :
    Nft.load loaded (renderNft table uidOf) = .some (loaded.store tableName (chains table uidOf)) := by
  have lines : scriptLines table uidOf = nftLines table uidOf ++ [[]] := by
    simp only [scriptLines, nftLines, openingLines, betweenLines, sharedLines, closingLines, outputLine,
      ownLines, rejectLine, List.map_cons, List.map_nil, List.cons_append, List.nil_append,
      List.append_assoc]
    rfl
  have script : renderNft table uidOf = Text.join newline (scriptLines table uidOf) := by
    have someLines : nftLines table uidOf ≠ [] := List.cons_ne_nil _ _
    rw [lines]
    exact (Ip.join_append someLines (List.cons_ne_nil [] [])).symm
  have split : (renderNft table uidOf).splitOn 0xA = scriptLines table uidOf := by
    rw [script]
    exact Ip.splitOn_join (by simp [scriptLines]) (newline_not_mem_scriptLines wellFormed uidOf)
  unfold Nft.load
  rw [split, readLines_scriptLines wellFormed some, Option.bind_some]
  rfl

end Egress

end LocalGpuCluster
