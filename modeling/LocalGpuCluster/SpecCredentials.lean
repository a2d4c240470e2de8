/-
This file models `credentials.py` and the two patterns it rests on. One walk over a document carries
whether it is inside a `credentials` mapping: there every entry but a user name must be a reference,
elsewhere only a scalar under a credential-shaped key. What the walk looks at is the entries of
mappings, so a literal is covered exactly when an entry on the way to it is one it reports.
-/

import LocalGpuCluster.Regex
import LocalGpuCluster.SpecValue

namespace LocalGpuCluster

namespace VcfSpec

/-! ### The patterns -/

def isNameStart (point : CodePoint) : Bool :=
  0x41 ≤ point.val && point.val ≤ 0x5A || 0x61 ≤ point.val && point.val ≤ 0x7A || point.val = 0x5F

def isNamePart (point : CodePoint) : Bool :=
  isNameStart point || 0x30 ≤ point.val && point.val ≤ 0x39

/-- `REFERENCE_RE` without its anchors. -/
def referenceRe : Regex CodePoint :=
  .all [.literal (text "$\x7b"), .one isNameStart, .star true (.one isNamePart),
    .literal (text "\x7d")]

/-- `REFERENCE_RE.match(value)`: the final anchor also holds before a line feed that ends the
text. -/
def isReferenceText (value : Text) : Bool :=
  (referenceRe.rests value).any fun rest => rest = [] || rest = newline

/-- `_is_reference`. -/
def isReference : Value → Bool
  | .scalar (.str value) => isReferenceText value
  | _ => false

/-- The alternatives of `CREDENTIAL_KEY_RE`. -/
def credentialWords : List Text :=
  ["password", "passwd", "secret", "token", "apikey", "api_key", "privatekey", "private_key",
    "sshkey", "ssh_key", "esxroot", "ssoadmin", "nsxadmin", "rootpass"].map text

/-- `CREDENTIAL_KEY_RE.search(name)`. -/
def credentialShaped (name : Text) : Bool :=
  name.tails.any fun rest => credentialWords.any fun word => Text.phraseHere word rest

/-- `name.lower() == "credentials"`. -/
def isCredentialsName (name : Text) : Bool := Text.lower name = text "credentials"

/-- `name.lower() in NON_SECRET_CREDENTIAL_KEYS`. -/
def isUsername (name : Text) : Bool := Text.lower name = text "username"

/-! ### The walk -/

/-- `_is_credential_leaf`. -/
def isCredentialLeaf (name : Text) (value : Value) (inCredentials : Bool) : Bool :=
  if inCredentials && isUsername name then false
  else if inCredentials then !isReference value
  else if !credentialShaped name then false
  else if !value.isSimple then false
  else !isReference value

/-- `_finding`. -/
def credentialFinding (pointer name : Text) : Finding where
  code := text "VCF-CRED-NOT-A-REFERENCE"
  severity := .critical
  path := pointer
  message := text "Credential '" ++ name ++ text "' is not a reference. These tools never hold secrets."
  fix := text "Use $\x7bname\x7d, e.g. $\x7besx_root\x7d; resolve it at submit time."
  source := text "docs"
  sourceUrl := []

mutual

/-- `_walk`: the findings in the order they are made. -/
def walk (builtins : Builtins) (pointer : Text) (inCredentials : Bool) : Value → List Finding
  | .scalar _ => []
  | .list items => walkItems builtins pointer inCredentials 0 items
  | .dict entries => walkEntries builtins pointer inCredentials entries

/-- The loop over a list, from an index on. -/
def walkItems (builtins : Builtins) (pointer : Text) (inCredentials : Bool) :
    ℕ → List Value → List Finding
  | _, [] => []
  | index, item :: rest =>
      walk builtins (pointer ++ slash :: decimal (index : ℕ)) inCredentials item ++
        walkItems builtins pointer inCredentials (index + 1) rest

/-- The loop over a mapping. -/
def walkEntries (builtins : Builtins) (pointer : Text) (inCredentials : Bool) :
    List (Scalar × Value) → List Finding
  | [] => []
  | (key, value) :: rest =>
      let name := builtins.str (.scalar key)
      let child := pointer ++ slash :: escapeSegment name
      (if isCredentialLeaf name value inCredentials then [credentialFinding child name]
        else walk builtins child (inCredentials || isCredentialsName name) value) ++
        walkEntries builtins pointer inCredentials rest

end

/-- `out.setdefault(child, …)`: the first finding at a pointer stays. -/
def setDefault (out : List Finding) (finding : Finding) : List Finding :=
  if out.any fun other => other.path = finding.path then out else out ++ [finding]

/-- `credential_findings`: sorted by pointer. -/
def credentialFindings (builtins : Builtins) (doc : Value) : List Finding :=
  ((walk builtins [] false doc).foldl setDefault []).insertionSort fun first second =>
    first.path ≤ second.path

/-! ### What the walk reports -/

/-- What one entry of a mapping adds. -/
def entryFindings (builtins : Builtins) (pointer : Text) (inCredentials : Bool)
    (entry : Scalar × Value) : List Finding :=
  let name := builtins.str (.scalar entry.1)
  let child := pointer ++ slash :: escapeSegment name
  if isCredentialLeaf name entry.2 inCredentials then [credentialFinding child name]
  else walk builtins child (inCredentials || isCredentialsName name) entry.2

theorem mem_walkEntries {builtins : Builtins} {pointer : Text} {inCredentials : Bool}
    {entries : List (Scalar × Value)} {finding : Finding} :
    finding ∈ walkEntries builtins pointer inCredentials entries ↔
      ∃ entry ∈ entries, finding ∈ entryFindings builtins pointer inCredentials entry := by
  induction entries with
  | nil => exact ⟨fun member => absurd member List.not_mem_nil, by simp⟩
  | cons entry rest inductionHypothesis =>
    rw [show walkEntries builtins pointer inCredentials (entry :: rest) =
      entryFindings builtins pointer inCredentials entry ++
        walkEntries builtins pointer inCredentials rest from rfl, List.mem_append,
      inductionHypothesis, List.exists_mem_cons_iff]

theorem mem_walkItems {builtins : Builtins} {pointer : Text} {inCredentials : Bool}
    {items : List Value} {start : ℕ} {finding : Finding} :
    finding ∈ walkItems builtins pointer inCredentials start items ↔
      ∃ index item, items[index]? = some item ∧
        finding ∈ walk builtins (pointer ++ slash :: decimal (start + index : ℕ)) inCredentials
          item := by
  induction items generalizing start with
  | nil => exact ⟨fun member => absurd member List.not_mem_nil, by simp⟩
  | cons item rest inductionHypothesis =>
    rw [show walkItems builtins pointer inCredentials start (item :: rest) =
      walk builtins (pointer ++ slash :: decimal (start : ℕ)) inCredentials item ++
        walkItems builtins pointer inCredentials (start + 1) rest from rfl, List.mem_append,
      inductionHypothesis]
    constructor
    · rintro (inItem | ⟨index, other, found, inOther⟩)
      · exact ⟨0, item, rfl, inItem⟩
      · refine ⟨index + 1, other, found, ?_⟩
        rwa [Nat.add_right_comm] at inOther
    · rintro ⟨index, other, found, inOther⟩
      cases index with
      | zero =>
        cases found
        exact Or.inl inOther
      | succ index =>
        refine Or.inr ⟨index, other, found, ?_⟩
        rwa [Nat.add_right_comm]

/-- The name of the entry that a step goes into. -/
def Step.isCredentials (builtins : Builtins) : Step → Bool
  | .key name => isCredentialsName (builtins.str (.scalar name))
  | .item _ => false

/-- The steps go through a `credentials` key. -/
def entersCredentials (builtins : Builtins) (path : List Step) : Bool :=
  path.any (Step.isCredentials builtins)

/-- A finding of the walk is about an entry that must hold a reference and does not. -/
theorem leaf_of_mem_walk {builtins : Builtins} {value : Value} : ∀ {pointer : Text}
    {inCredentials : Bool} {finding : Finding},
    finding ∈ walk builtins pointer inCredentials value →
    ∃ before key child, At value (before ++ [.key key]) child ∧
      isCredentialLeaf (builtins.str (.scalar key)) child
        (inCredentials || entersCredentials builtins before) = true ∧
      finding = credentialFinding
        (pointer ++ VcfSpec.pointer builtins (before ++ [.key key])) (builtins.str (.scalar key)) := by
  induction value using Value.induction with
  | scalar value => exact fun member => absurd member List.not_mem_nil
  | list items inductionHypothesis =>
    intro pointer inCredentials finding member
    obtain ⟨index, item, found, inItem⟩ := mem_walkItems.mp member
    obtain ⟨before, key, child, under, leaf, same⟩ :=
      inductionHypothesis item (List.mem_of_getElem? found) inItem
    refine ⟨.item index :: before, key, child, .item found under, leaf, ?_⟩
    rw [same, Nat.zero_add, List.append_assoc]
    rfl
  | dict entries inductionHypothesis =>
    intro pointer inCredentials finding member
    obtain ⟨entry, inEntries, inEntry⟩ := mem_walkEntries.mp member
    unfold entryFindings at inEntry
    dsimp only at inEntry
    split at inEntry
    · rename_i leaf
      refine ⟨[], entry.1, entry.2, .key inEntries .here, ?_, ?_⟩
      · rwa [entersCredentials, List.any_nil, Bool.or_false]
      · rw [List.mem_singleton.mp inEntry]
        exact congrArg (credentialFinding · _)
          (congrArg (pointer ++ slash :: ·) (List.append_nil _).symm)
    · obtain ⟨before, key, child, under, leaf, same⟩ :=
        inductionHypothesis entry inEntries inEntry
      refine ⟨.key entry.1 :: before, key, child, .key inEntries under, ?_, ?_⟩
      · rwa [entersCredentials, List.any_cons, ← Bool.or_assoc]
      · rw [same, List.append_assoc]
        rfl

/-- An entry that must hold a reference and does not is reported at its own pointer. -/
theorem entry_reported {builtins : Builtins} {pointer : Text} {inCredentials : Bool}
    {entries : List (Scalar × Value)} {key : Scalar} {child : Value}
    (member : (key, child) ∈ entries)
    (leaf : isCredentialLeaf (builtins.str (.scalar key)) child inCredentials = true) :
    ∃ finding ∈ walk builtins pointer inCredentials (.dict entries),
      finding.path = pointer ++ VcfSpec.pointer builtins [.key key] := by
  refine ⟨credentialFinding (pointer ++ slash :: escapeSegment (builtins.str (.scalar key)))
    (builtins.str (.scalar key)), mem_walkEntries.mpr ⟨_, member, ?_⟩, ?_⟩
  · unfold entryFindings
    dsimp only
    rw [if_pos leaf]
    exact List.mem_singleton_self _
  · exact congrArg (pointer ++ slash :: ·) (List.append_nil _).symm

/-- Where an entry must hold a reference and does not, the walk reports it or an entry above it. -/
theorem mem_walk_of_leaf {builtins : Builtins} {before : List Step} {key : Scalar} {child : Value} :
    ∀ {value : Value} {pointer : Text} {inCredentials : Bool},
    At value (before ++ [.key key]) child →
    isCredentialLeaf (builtins.str (.scalar key)) child
      (inCredentials || entersCredentials builtins before) = true →
    ∃ reported, reported <+: before ++ [.key key] ∧
      ∃ finding ∈ walk builtins pointer inCredentials value,
        finding.path = pointer ++ VcfSpec.pointer builtins reported := by
  induction before with
  | nil =>
    intro value pointer inCredentials under leaf
    cases under with
    | key member below =>
      cases below
      rw [entersCredentials, List.any_nil, Bool.or_false] at leaf
      exact ⟨[.key key], List.prefix_rfl, entry_reported member leaf⟩
  | cons step before inductionHypothesis =>
    intro value pointer inCredentials under leaf
    cases under with
    | @key entries name inner _ _ member below =>
      by_cases here : isCredentialLeaf (builtins.str (.scalar name)) inner inCredentials = true
      · exact ⟨[.key name], List.prefix_append _ _, entry_reported member here⟩
      · rw [entersCredentials, List.any_cons, ← Bool.or_assoc] at leaf
        obtain ⟨reported, above, finding, made, same⟩ := inductionHypothesis below leaf
        refine ⟨.key name :: reported, (List.prefix_cons_inj _).mpr above, finding,
          mem_walkEntries.mpr ⟨_, member, ?_⟩, same.trans (List.append_assoc _ _ _)⟩
        unfold entryFindings
        dsimp only
        rw [if_neg here]
        exact made
    | @item items index inner _ _ member below =>
      obtain ⟨reported, above, finding, made, same⟩ := inductionHypothesis below leaf
      refine ⟨.item index :: reported, (List.prefix_cons_inj _).mpr above, finding,
        mem_walkItems.mpr ⟨index, inner, member, ?_⟩, same.trans (List.append_assoc _ _ _)⟩
      rw [Nat.zero_add]
      exact made

/-! ### What is left of it -/

theorem mem_setDefault {out : List Finding} {finding other : Finding}
    (member : other ∈ setDefault out finding) : other ∈ out ∨ other = finding := by
  unfold setDefault at member
  split at member
  · exact Or.inl member
  · exact (List.mem_append.mp member).imp_right List.mem_singleton.mp

theorem setDefault_path {out : List Finding} {finding : Finding} {path : Text}
    (present : (∃ other ∈ out, other.path = path) ∨ finding.path = path) :
    ∃ other ∈ setDefault out finding, other.path = path := by
  unfold setDefault
  split
  · rename_i known
    obtain already | rfl := present
    · exact already
    · obtain ⟨earlier, inOut, same⟩ := List.any_eq_true.mp known
      exact ⟨earlier, inOut, of_decide_eq_true same⟩
  · obtain ⟨other, inOut, same⟩ | same := present
    · exact ⟨other, List.mem_append_left _ inOut, same⟩
    · exact ⟨finding, List.mem_append_right _ (List.mem_singleton_self _), same⟩

theorem mem_foldl_setDefault {findings out : List Finding} {finding : Finding}
    (member : finding ∈ findings.foldl setDefault out) : finding ∈ out ∨ finding ∈ findings := by
  induction findings generalizing out with
  | nil => exact Or.inl member
  | cons head rest inductionHypothesis =>
    obtain inOut | inRest := inductionHypothesis member
    · exact (mem_setDefault inOut).imp_right fun same => List.mem_cons.mpr (Or.inl same)
    · exact Or.inr (List.mem_cons_of_mem _ inRest)

theorem foldl_setDefault_path {findings out : List Finding} {path : Text}
    (present : (∃ other ∈ out, other.path = path) ∨ ∃ other ∈ findings, other.path = path) :
    ∃ other ∈ findings.foldl setDefault out, other.path = path := by
  induction findings generalizing out with
  | nil => simpa using present
  | cons head rest inductionHypothesis =>
    refine inductionHypothesis ?_
    obtain already | ⟨other, member, same⟩ := present
    · exact Or.inl (setDefault_path (Or.inl already))
    · obtain rfl | inRest := List.mem_cons.mp member
      · exact Or.inl (setDefault_path (Or.inr same))
      · exact Or.inr ⟨other, inRest, same⟩

theorem mem_walk_of_mem_credentialFindings {builtins : Builtins} {doc : Value} {finding : Finding}
    (member : finding ∈ credentialFindings builtins doc) : finding ∈ walk builtins [] false doc :=
  (mem_foldl_setDefault ((List.mem_insertionSort _).mp member)).resolve_left List.not_mem_nil

theorem mem_credentialFindings_path {builtins : Builtins} {doc : Value} {finding : Finding}
    (made : finding ∈ walk builtins [] false doc) :
    ∃ other ∈ credentialFindings builtins doc, other.path = finding.path := by
  obtain ⟨other, kept, same⟩ : ∃ other ∈ (walk builtins [] false doc).foldl setDefault [],
      other.path = finding.path := foldl_setDefault_path (Or.inr ⟨finding, made, rfl⟩)
  exact ⟨other, (List.mem_insertionSort _).mpr kept, same⟩

end VcfSpec

end LocalGpuCluster
