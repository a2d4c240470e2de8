/-
This file holds the part of nftables that a filter on the output hook by user, address and port needs.
A chain decides by its first rule that applies and has a verdict; a rule can send the packet through
another chain first. `nft -f` reads a script line by line and replaces what it names.
-/

import LocalGpuCluster.IpAddress

namespace LocalGpuCluster

namespace Nft

/-! ### Packets and rules -/

/-- The state of a packet's connection. -/
inductive CtState where
  | invalid
  | new
  | established
  | related
  | untracked
  deriving DecidableEq, Repr

/-- A packet on the output hook. A packet without a socket has no user. -/
structure Packet where
  skuid : Option ℕ
  oifname : Text
  daddr : Ip
  /-- The destination port of a TCP packet. -/
  tcpDport : Option ℕ
  ctState : CtState
  deriving DecidableEq, Repr

/-- What a rule asks of a packet. -/
inductive Condition where
  | metaSkuid (uids : List ℕ)
  | oifname (name : Text)
  | daddr (address : Ip)
  | tcpDport (port : ℕ)
  | ctState (states : List CtState)
  deriving DecidableEq, Repr

def Condition.holds (packet : Packet) : Condition → Bool
  | .metaSkuid uids => packet.skuid.any (uids.contains ·)
  | .oifname name => packet.oifname = name
  | .daddr address => packet.daddr = address
  | .tcpDport port => packet.tcpDport = some port
  | .ctState states => states.contains packet.ctState

inductive Statement where
  | accept
  | reject
  | jump (chain : Text)
  deriving DecidableEq, Repr

structure Rule where
  conditions : List Condition
  statement : Statement
  deriving DecidableEq, Repr

def Rule.applies (packet : Packet) (rule : Rule) : Bool := rule.conditions.all (·.holds packet)

/-- A chain, on the output hook with policy accept or called by name. -/
structure Chain where
  name : Text
  hooked : Bool
  rules : List Rule
  deriving DecidableEq, Repr

abbrev Chains := List Chain

/-! ### Verdicts -/

inductive Verdict where
  | accept
  | reject
  deriving DecidableEq, Repr

/-- The verdict of the first rule that applies and has one, `none` where the chain ends before. -/
def runRules (call : Text → Option Verdict) (packet : Packet) : List Rule → Option Verdict
  | [] => none
  | rule :: rest =>
      if rule.applies packet then
        match rule.statement with
        | .accept => some .accept
        | .reject => some .reject
        | .jump chain => (call chain).or (runRules call packet rest)
      else runRules call packet rest

def Chains.rulesOf (chains : Chains) (name : Text) : List Rule :=
  (chains.find? (·.name = name)).elim [] (·.rules)

/-- `NFT_JUMP_STACK_SIZE`: how deep jumps may nest. -/
def jumpStackSize : ℕ := 16

def Chains.run (chains : Chains) (packet : Packet) : ℕ → Text → Option Verdict
  | 0, _ => some .reject
  | depth + 1, name => runRules (chains.run packet depth) packet (chains.rulesOf name)

/-- What the chains on the hook say of a packet, `none` where none has a verdict. -/
def Chains.hook (chains : Chains) (packet : Packet) : List (Option Verdict) :=
  (chains.filter (·.hooked)).map fun chain => chains.run packet (jumpStackSize + 1) chain.name

/-- The packet leaves: no chain on the hook rejects it, and the policy accepts. -/
def Chains.accepts (chains : Chains) (packet : Packet) : Bool :=
  (chains.hook packet).all (· ≠ some .reject)

theorem runRules_append (call : Text → Option Verdict) (packet : Packet) (first second : List Rule) :
    runRules call packet (first ++ second) =
      (runRules call packet first).or (runRules call packet second) := by
  induction first with
  | nil => rfl
  | cons rule rest inductionHypothesis =>
    rw [List.cons_append, runRules, runRules, inductionHypothesis]
    split
    · split
      · rfl
      · rfl
      · rw [Option.or_assoc]
    · rfl

/-- Rules that only accept: one that applies decides. -/
theorem runRules_of_accept {call : Text → Option Verdict} {packet : Packet} {rules : List Rule}
    (accepting : ∀ rule ∈ rules, rule.statement = .accept) :
    runRules call packet rules = if rules.any (·.applies packet) then some .accept else none := by
  induction rules with
  | nil => rfl
  | cons rule rest inductionHypothesis =>
    have below := inductionHypothesis fun other member =>
      accepting other (List.mem_cons_of_mem _ member)
    rw [runRules, accepting rule List.mem_cons_self, List.any_cons]
    by_cases applies : rule.applies packet = true
    · rw [if_pos applies, applies, Bool.true_or]
      rfl
    · rw [if_neg applies, below, Bool.eq_false_iff.mpr applies, Bool.false_or]

/-- A chain passes what none of its rules applies to. -/
theorem runRules_of_not_applies {call : Text → Option Verdict} {packet : Packet} {rules : List Rule}
    (passing : ∀ rule ∈ rules, rule.applies packet = false) : runRules call packet rules = none := by
  induction rules with
  | nil => rfl
  | cons rule rest inductionHypothesis =>
    rw [runRules, passing rule List.mem_cons_self, if_neg (by decide),
      inductionHypothesis fun other member => passing other (List.mem_cons_of_mem _ member)]

/-! ### Tokens -/

def isBlank (point : CodePoint) : Bool := point = 0x20 || point = 0x9

/-- Braces, commas and semicolons are tokens of their own. -/
def isPunctuation (point : CodePoint) : Bool := [0x7B, 0x7D, 0x2C, 0x3B].contains point.val

def flush (word : Text) : List Text := if word = [] then [] else [word]

/-- The tokens of a line, with the word read so far. A comment goes to the end of the line, and
between quotation marks nothing is special. -/
def tokensFrom : Bool → Text → Text → List Text
  | _, word, [] => flush word
  | true, word, point :: rest =>
      if point = 0x22 then (word ++ [point]) :: tokensFrom false [] rest
      else tokensFrom true (word ++ [point]) rest
  | false, word, point :: rest =>
      if point = 0x23 then flush word
      else if point = 0x22 then flush word ++ tokensFrom true [point] rest
      else if isBlank point then flush word ++ tokensFrom false [] rest
      else if isPunctuation point then flush word ++ [point] :: tokensFrom false [] rest
      else tokensFrom false (word ++ [point]) rest

def tokens (line : Text) : List Text := tokensFrom false [] line

/-- Nothing special: no comment, no quotation mark, no blank, no punctuation. -/
def isPlain (point : CodePoint) : Bool :=
  point ≠ 0x23 && point ≠ 0x22 && !isBlank point && !isPunctuation point

/-- A token without anything special in it. -/
def isWord (word : Text) : Bool := word ≠ [] && word.all isPlain

theorem tokensFrom_cons {word rest : Text} {point : CodePoint} (plain : isPlain point = true) :
    tokensFrom false word (point :: rest) = tokensFrom false (word ++ [point]) rest := by
  simp only [isPlain, Bool.and_eq_true, decide_eq_true_eq, Bool.not_eq_true'] at plain
  obtain ⟨⟨⟨noComment, noQuote⟩, noBlank⟩, noPunctuation⟩ := plain
  rw [tokensFrom, if_neg noComment, if_neg noQuote, noBlank, noPunctuation, if_neg (by decide),
    if_neg (by decide)]

theorem tokensFrom_append {content : Text} (plain : content.all isPlain = true) (word rest : Text) :
    tokensFrom false word (content ++ rest) = tokensFrom false (word ++ content) rest := by
  induction content generalizing word with
  | nil => rw [List.nil_append, List.append_nil]
  | cons point content inductionHypothesis =>
    rw [List.all_cons, Bool.and_eq_true] at plain
    rw [List.cons_append, tokensFrom_cons plain.1, inductionHypothesis plain.2, List.append_assoc,
      List.singleton_append]

theorem flush_of_isWord {word : Text} (plain : isWord word = true) : flush word = [word] := by
  rw [isWord, Bool.and_eq_true, decide_eq_true_eq] at plain
  rw [flush, if_neg plain.1]

theorem tokens_of_isWord {word : Text} (plain : isWord word = true) (rest : Text) :
    tokens (word ++ rest) = tokensFrom false word rest := by
  rw [isWord, Bool.and_eq_true] at plain
  exact tokensFrom_append plain.2 [] rest

/-- A word is read up to the blank after it. -/
theorem tokens_word_blank {word : Text} (plain : isWord word = true) (rest : Text) :
    tokens (word ++ 0x20 :: rest) = word :: tokens rest := by
  rw [tokens_of_isWord plain, tokensFrom, if_neg (by decide), if_neg (by decide),
    if_pos (by decide), flush_of_isWord plain, List.singleton_append, tokens]

/-- A word is read up to the comma after it. -/
theorem tokens_word_comma {word : Text} (plain : isWord word = true) (rest : Text) :
    tokens (word ++ 0x2C :: rest) = word :: text "," :: tokens rest := by
  rw [tokens_of_isWord plain, tokensFrom, if_neg (by decide), if_neg (by decide),
    if_neg (by decide), if_pos (by decide), flush_of_isWord plain, List.singleton_append, tokens]
  rfl

theorem tokens_blank (rest : Text) : tokens (0x20 :: rest) = tokens rest := by
  unfold tokens
  rw [tokensFrom, if_neg (by decide), if_neg (by decide), if_pos (by decide), flush, if_pos rfl,
    List.nil_append]

theorem tokens_brace (rest : Text) : tokens (0x7B :: rest) = text "\x7b" :: tokens rest := by
  unfold tokens
  rw [tokensFrom, if_neg (by decide), if_neg (by decide), if_neg (by decide), if_pos (by decide), flush,
    if_pos rfl, List.nil_append]
  rfl

theorem tokens_comment (rest : Text) : tokens (0x23 :: rest) = [] := by
  unfold tokens
  rw [tokensFrom, if_pos rfl, flush, if_pos rfl]

/-- Words with commas between them. -/
theorem tokens_join {words : List Text} (some : words ≠ [])
    (plain : ∀ word ∈ words, isWord word = true) (rest : Text) :
    tokens (Text.join (text ", ") words ++ 0x20 :: rest) =
      words.intersperse (text ",") ++ tokens rest := by
  unfold Text.join
  induction words with
  | nil => exact absurd rfl some
  | cons first more inductionHypothesis =>
    have plainFirst := plain first List.mem_cons_self
    cases more with
    | nil =>
      rw [List.intercalate_singleton, tokens_word_blank plainFirst, List.intersperse_singleton]
      rfl
    | cons second more =>
      have below := inductionHypothesis (List.cons_ne_nil _ _) fun word member =>
        plain word (List.mem_cons_of_mem _ member)
      have separator : text ", " = [0x2C, 0x20] := rfl
      rw [List.intercalate_cons_cons, List.intersperse_cons_cons, separator, List.append_assoc,
        List.append_assoc, List.cons_append, tokens_word_comma plainFirst, List.singleton_append,
        tokens_blank, ← separator, below]
      rfl

/-! ### Reading rules -/

/-- The tokens after some keywords. -/
def after (keywords tokens : List Text) : Option (List Text) :=
  if keywords.isPrefixOf tokens then some (tokens.drop keywords.length) else none

/-- One token, and what follows it. -/
def readWord {Value : Type} (read : Text → Option Value) : List Text → Option (Value × List Text)
  | [] => none
  | word :: rest => (read word).map fun value => (value, rest)

/-- Values with commas between them. -/
def readCommas {Value : Type} (read : Text → Option Value) :
    List Text → Option (List Value × List Text)
  | [] => none
  | [word] => (read word).map fun value => ([value], [])
  | word :: mark :: rest =>
      (read word).bind fun value =>
        if mark = text "," then
          (readCommas read rest).map fun more => (value :: more.1, more.2)
        else some ([value], mark :: rest)

/-- A set in braces. -/
def readSet {Value : Type} (read : Text → Option Value) (tokens : List Text) :
    Option (List Value × List Text) :=
  (after [text "\x7b"] tokens).bind fun inside =>
    (readCommas read inside).bind fun values =>
      (after [text "\x7d"] values.2).map fun rest => (values.1, rest)

def quoted (word : Text) : Option Text :=
  if word.head? = some 0x22 && word.getLast? = some 0x22 && 2 ≤ word.length then
    some word.tail.dropLast
  else none

def ctStateOf (word : Text) : Option CtState :=
  [(text "invalid", CtState.invalid), (text "new", .new), (text "established", .established),
    (text "related", .related), (text "untracked", .untracked)].lookup word

/-- One condition at the start of a rule. -/
def readCondition (tokens : List Text) : Option (Condition × List Text) :=
  ((after [text "meta", text "skuid"] tokens).bind fun rest =>
    ((readWord (Ip.numberOf 10) rest).map fun read => (.metaSkuid [read.1], read.2)).or
      ((readSet (Ip.numberOf 10) rest).map fun read => (.metaSkuid read.1, read.2))).or <|
  ((after [text "oifname"] tokens).bind fun rest =>
    (readWord quoted rest).map fun read => (.oifname read.1, read.2)).or <|
  ((after [text "ip", text "daddr"] tokens).bind fun rest =>
    (readWord Ip.v4Of rest).map fun read => (.daddr (.v4 read.1), read.2)).or <|
  ((after [text "ip6", text "daddr"] tokens).bind fun rest =>
    (readWord Ip.v6Of rest).map fun read => (.daddr (.v6 read.1), read.2)).or <|
  ((after [text "tcp", text "dport"] tokens).bind fun rest =>
    (readWord (Ip.numberOf 10) rest).map fun read => (.tcpDport read.1, read.2)).or <|
  (after [text "ct", text "state"] tokens).bind fun rest =>
    (readCommas ctStateOf rest).map fun read => (.ctState read.1, read.2)

/-- What a rule ends in. -/
def readStatement (tokens : List Text) : Option Statement :=
  if tokens = [text "accept"] then some .accept
  else if tokens = [text "reject", text "with", text "icmpx", text "admin-prohibited"] then
    some .reject
  else (after [text "jump"] tokens).bind fun rest =>
    if rest.length = 1 then rest.head?.map .jump else none

/-- A rule of at most so many conditions. -/
def readRule : ℕ → List Text → Option Rule
  | 0, _ => none
  | bound + 1, tokens =>
      ((readStatement tokens).map fun statement => ⟨[], statement⟩).or <|
        (readCondition tokens).bind fun condition =>
          (readRule bound condition.2).map fun rule =>
            { rule with conditions := condition.1 :: rule.conditions }

theorem after_append (keywords rest : List Text) : after keywords (keywords ++ rest) = some rest := by
  unfold after
  rw [if_pos (List.isPrefixOf_iff_prefix.mpr (List.prefix_append _ _)), List.drop_left]

/-- Values with commas between them are read up to a token that is no comma. -/
theorem readCommas_intersperse {Value : Type} {read : Text → Option Value} {words : List Text}
    {values : List Value} (some : words ≠ [])
    (reads : List.Forall₂ (fun word value => read word = .some value) words values) {mark : Text}
    (noComma : mark ≠ text ",") (rest : List Text) :
    readCommas read (words.intersperse (text ",") ++ mark :: rest) = .some (values, mark :: rest) := by
  induction reads with
  | nil => exact absurd rfl some
  | @cons word value more moreValues first others inductionHypothesis =>
    cases others with
    | nil =>
      rw [List.intersperse_singleton, List.singleton_append, readCommas, first, Option.bind_some,
        if_neg noComma]
    | cons second others =>
      rw [List.intersperse_cons_cons, List.cons_append, List.cons_append, readCommas, first,
        Option.bind_some, if_pos rfl, inductionHypothesis (List.cons_ne_nil _ _)]
      rfl

theorem readCondition_metaSkuids {words : List Text} {uids : List ℕ} (some : words ≠ [])
    (numbers : List.Forall₂ (fun word uid => Ip.numberOf 10 word = .some uid) words uids)
    (rest : List Text) :
    readCondition (text "meta" :: text "skuid" :: text "\x7b" ::
        (words.intersperse (text ",") ++ text "\x7d" :: rest)) =
      .some (.metaSkuid uids, rest) := by
  have keywords : after [text "meta", text "skuid"] (text "meta" :: text "skuid" :: text "\x7b" ::
      (words.intersperse (text ",") ++ text "\x7d" :: rest)) =
        .some (text "\x7b" :: (words.intersperse (text ",") ++ text "\x7d" :: rest)) :=
    after_append [text "meta", text "skuid"] _
  have noNumber : Ip.numberOf 10 (text "\x7b") = none := by decide
  have brace := after_append [text "\x7b"] (words.intersperse (text ",") ++ text "\x7d" :: rest)
  have closing := after_append [text "\x7d"] rest
  rw [List.singleton_append] at brace closing
  unfold readCondition
  rw [keywords, Option.bind_some, readWord, noNumber, readSet, brace, Option.bind_some,
    readCommas_intersperse some numbers (by decide), Option.bind_some, closing]
  rfl

theorem readCondition_metaSkuid {word : Text} {uid : ℕ} (number : Ip.numberOf 10 word = some uid)
    (rest : List Text) :
    readCondition (text "meta" :: text "skuid" :: word :: rest) = some (.metaSkuid [uid], rest) := by
  have keywords : after [text "meta", text "skuid"] (text "meta" :: text "skuid" :: word :: rest) =
      some (word :: rest) := after_append [text "meta", text "skuid"] _
  unfold readCondition
  rw [keywords, Option.bind_some, readWord, number]
  rfl

theorem readCondition_ipDaddr {word : Text} {address : BitVec 32} (read : Ip.v4Of word = some address)
    (rest : List Text) :
    readCondition (text "ip" :: text "daddr" :: word :: rest) = some (.daddr (.v4 address), rest) := by
  have keywords : after [text "ip", text "daddr"] (text "ip" :: text "daddr" :: word :: rest) =
      some (word :: rest) := after_append [text "ip", text "daddr"] _
  have noUser : after [text "meta", text "skuid"] (text "ip" :: text "daddr" :: word :: rest) = none :=
    rfl
  have noName : after [text "oifname"] (text "ip" :: text "daddr" :: word :: rest) = none := rfl
  unfold readCondition
  rw [keywords, noUser, noName, Option.bind_some, readWord, read]
  rfl

theorem readCondition_tcpDport {word : Text} {port : ℕ} (number : Ip.numberOf 10 word = some port)
    (rest : List Text) :
    readCondition (text "tcp" :: text "dport" :: word :: rest) = some (.tcpDport port, rest) := by
  have keywords : after [text "tcp", text "dport"] (text "tcp" :: text "dport" :: word :: rest) =
      some (word :: rest) := after_append [text "tcp", text "dport"] _
  have others : [[text "meta", text "skuid"], [text "oifname"], [text "ip", text "daddr"],
      [text "ip6", text "daddr"]].map
        (after · (text "tcp" :: text "dport" :: word :: rest)) = [none, none, none, none] := rfl
  simp only [List.map_cons, List.map_nil, List.cons.injEq, and_true] at others
  unfold readCondition
  rw [keywords, others.1, others.2.1, others.2.2.1, others.2.2.2, Option.bind_some, readWord, number]
  rfl

/-- A rule that starts with a condition. -/
theorem readRule_of_condition {bound : ℕ} {tokens rest : List Text} {condition : Condition} {rule : Rule}
    (noStatement : readStatement tokens = none) (first : readCondition tokens = some (condition, rest))
    (below : readRule bound rest = some rule) :
    readRule (bound + 1) tokens = some { rule with conditions := condition :: rule.conditions } := by
  rw [readRule, noStatement, first, Option.bind_some, below]
  rfl

/-! ### Reading a script -/

abbrev Tables := List (Text × Chains)

def Tables.delete (tables : Tables) (name : Text) : Tables := tables.filter (·.1 ≠ name)

/-- The tables, of which this one has these chains afterwards. -/
def Tables.store (tables : Tables) (name : Text) (chains : Chains) : Tables :=
  tables.delete name ++ [(name, chains)]

theorem lookup_delete (tables : Tables) (name : Text) : (tables.delete name).lookup name = none := by
  rw [List.lookup_eq_none_iff]
  intro row member
  have apart := (List.mem_filter.mp member).2
  rw [decide_eq_true_eq] at apart
  exact bne_iff_ne.mpr (Ne.symm apart)

theorem delete_delete (tables : Tables) (name : Text) :
    (tables.delete name).delete name = tables.delete name := by
  unfold Tables.delete
  rw [List.filter_filter]
  simp only [Bool.and_self]

theorem delete_store (tables : Tables) (name : Text) (chains : Chains) :
    (tables.store name chains).delete name = tables.delete name := by
  have only : Tables.delete [(name, chains)] name = [] := by
    simp [Tables.delete]
  have split : (tables.store name chains).delete name =
      (tables.delete name).delete name ++ Tables.delete [(name, chains)] name := List.filter_append _ _
  rw [split, only, List.append_nil, delete_delete]

/-- Where in a script a line stands, with what is read of the table and the chain it is in. -/
inductive Place where
  | outside
  | inTable (table : Text) (chains : Chains)
  | inChain (table : Text) (chains : Chains) (chain : Chain)
  deriving DecidableEq, Repr

structure Loading where
  tables : Tables
  place : Place
  deriving DecidableEq, Repr

/-- `type filter hook output priority filter; policy accept;`. -/
def hookTokens : List Text :=
  ["type", "filter", "hook", "output", "priority", "filter", ";", "policy", "accept", ";"].map text

/-- `table inet NAME`, which adds a table only where there is none, `delete table inet NAME`, and
the start of a table's block. -/
def Tables.readOutside (tables : Tables) (tokens : List Text) : Option Loading :=
  if tokens.length = 3 then
    ((after [text "table", text "inet"] tokens).bind List.head?).map fun name =>
      if (tables.lookup name).isSome then ⟨tables, .outside⟩ else ⟨tables.store name [], .outside⟩
  else if tokens.getLast? = some (text "\x7b") && tokens.length = 4 then
    ((after [text "table", text "inet"] tokens).bind List.head?).map fun name =>
      ⟨tables, .inTable name ((tables.lookup name).getD [])⟩
  else if tokens.length = 4 then
    ((after [text "delete", text "table", text "inet"] tokens).bind List.head?).bind fun name =>
      if (tables.lookup name).isSome then some ⟨tables.delete name, .outside⟩ else none
  else none

/-- One line, `none` for one that this does not read. -/
def Loading.readLine (loading : Loading) (tokens : List Text) : Option Loading :=
  if tokens = [] then some loading
  else
    match loading.place with
    | .outside => loading.tables.readOutside tokens
    | .inTable table chains =>
        if tokens = [text "\x7d"] then some ⟨loading.tables.store table chains, .outside⟩
        else if tokens.length = 3 && tokens.getLast? = some (text "\x7b") then
          ((after [text "chain"] tokens).bind List.head?).map fun name =>
            ⟨loading.tables, .inChain table chains ⟨name, false, []⟩⟩
        else none
    | .inChain table chains chain =>
        if tokens = [text "\x7d"] then some ⟨loading.tables, .inTable table (chains ++ [chain])⟩
        else if tokens = hookTokens then
          some ⟨loading.tables, .inChain table chains { chain with hooked := true }⟩
        else
          (readRule tokens.length tokens).map fun rule =>
            ⟨loading.tables, .inChain table chains { chain with rules := chain.rules ++ [rule] }⟩

def Loading.readLines (loading : Loading) (lines : List Text) : Option Loading :=
  lines.foldlM (fun loading line => loading.readLine (tokens line)) loading

/-- `nft -f`: the tables after a script, `none` where it does not load. -/
def load (tables : Tables) (script : Text) : Option Tables :=
  ((⟨tables, .outside⟩ : Loading).readLines (script.splitOn 0xA)).bind fun loading =>
    if loading.place = .outside then some loading.tables else none

theorem readLines_append (loading : Loading) (first second : List Text) :
    loading.readLines (first ++ second) =
      (loading.readLines first).bind fun between => between.readLines second :=
  List.foldlM_append

/-- The line is this rule. -/
def ReadsAs (line : Text) (rule : Rule) : Prop :=
  readRule (tokens line).length (tokens line) = some rule

theorem readLine_of_readsAs {tables : Tables} {table : Text} {chains : Chains} {chain : Chain}
    {line : Text} {rule : Rule} (reads : ReadsAs line rule) :
    (⟨tables, .inChain table chains chain⟩ : Loading).readLine (tokens line) =
      some ⟨tables, .inChain table chains { chain with rules := chain.rules ++ [rule] }⟩ := by
  unfold ReadsAs at reads
  have someTokens : tokens line ≠ [] := fun none => by
    rw [none] at reads
    cases reads
  have noBrace : tokens line ≠ [text "\x7d"] := fun brace => by
    have noRule : readRule 1 [text "\x7d"] = none := by decide
    rw [brace, List.length_singleton, noRule] at reads
    cases reads
  have noHook : tokens line ≠ hookTokens := fun hook => by
    have noRule : readRule hookTokens.length hookTokens = none := by decide
    rw [hook, noRule] at reads
    cases reads
  rw [Loading.readLine, if_neg someTokens]
  show (if _ then _ else _) = _
  rw [if_neg noBrace, if_neg noHook, reads]
  rfl

/-- The rules of a chain, line by line. -/
theorem readLines_of_readsAs {tables : Tables} {table : Text} {chains : Chains} {lines : List Text}
    {rules : List Rule} (reads : List.Forall₂ ReadsAs lines rules) (chain : Chain) :
    (⟨tables, .inChain table chains chain⟩ : Loading).readLines lines =
      some ⟨tables, .inChain table chains { chain with rules := chain.rules ++ rules }⟩ := by
  induction reads generalizing chain with
  | nil => rw [List.append_nil]; rfl
  | cons first _ inductionHypothesis =>
    unfold Loading.readLines
    rw [List.foldlM_cons, readLine_of_readsAs first]
    refine (inductionHypothesis _).trans ?_
    rw [List.append_assoc, List.singleton_append]

end Nft

end LocalGpuCluster
