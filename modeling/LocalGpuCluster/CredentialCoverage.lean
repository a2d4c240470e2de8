/-
This file settles which literals `credential_findings` covers. It looks at the entries of mappings
only, and inside a `credentials` value at every entry but a user name's. So a literal below a
`credentials` key is covered exactly when another entry lies between the two, or is the literal's
own; a list of literals, or a literal in place of the mapping, is walked past. Elsewhere only the
value of a credential-shaped key itself is covered.
-/

import LocalGpuCluster.SpecCredentials

namespace LocalGpuCluster

namespace VcfSpec

/-! ### Positions of literals -/

/-- A scalar that is neither null nor a reference. -/
def isLiteral (leaf : Scalar) : Bool :=
  (Value.scalar leaf).isSimple && !isReference (.scalar leaf)

/-- At any depth below a `credentials` key, or its value; the value of a user name is excepted. -/
def UnderCredentials (builtins : Builtins) (path : List Step) : Prop :=
  ∃ before key after, path = before ++ .key key :: after ∧
    isCredentialsName (builtins.str (.scalar key)) = true ∧
    ∀ inner last, after = inner ++ [.key last] → isUsername (builtins.str (.scalar last)) = false

/-- The value of a credential-shaped key, or an element of a list there. -/
def UnderShaped (builtins : Builtins) (path : List Step) : Prop :=
  ∃ before key after, path = before ++ .key key :: after ∧
    credentialShaped (builtins.str (.scalar key)) = true ∧ ∀ step ∈ after, ∃ index, step = .item index

/-- A finding is reported at the position or at that of a container of it. -/
def Covered (builtins : Builtins) (doc : Value) (path : List Step) : Prop :=
  ∃ above, above <+: path ∧
    ∃ finding ∈ credentialFindings builtins doc, finding.path = pointer builtins above

/-- Every literal in a place for credentials is covered, and a document with one is never valid,
whatever else is found. -/
def Detected (builtins : Builtins) (doc : Value) : Prop :=
  ∀ path leaf, At doc path (.scalar leaf) → isLiteral leaf = true →
    UnderCredentials builtins path ∨ UnderShaped builtins path →
    Covered builtins doc path ∧
      ∀ schemaFindings, valid (schemaFindings ++ credentialFindings builtins doc) = false

/-- The way to the position goes through an entry inside a `credentials` value that is no user
name's, or ends with a credential-shaped key. -/
def Reached (builtins : Builtins) (path : List Step) : Prop :=
  ∃ before key after, path = before ++ .key key :: after ∧
    (entersCredentials builtins before = true ∧ isUsername (builtins.str (.scalar key)) = false ∨
      after = [] ∧ credentialShaped (builtins.str (.scalar key)) = true)

/-! ### A user name is not credential-shaped -/

/-- A letter matches what another letter lowers to. -/
theorem foldsTo_asciiLower {letter point : CodePoint} (lower : letter.asciiLower = letter)
    (folds : letter.foldsTo point = true) : letter.foldsTo point.asciiLower = true := by
  by_cases upper : (0x41 ≤ point.val && point.val ≤ 0x5A) = true
  · obtain ⟨low, high⟩ := Bool.and_eq_true_iff.mp upper
    unfold CodePoint.foldsTo at folds ⊢
    have low := of_decide_eq_true low
    have high := of_decide_eq_true high
    have same : point.asciiLower = letter := by
      by_contra apart
      have differs : point ≠ letter := fun equal => apart (equal ▸ equal.symm ▸ lower)
      have a : point.val ≠ 0x130 := by omega
      have b : point.val ≠ 0x131 := by omega
      have c : point.val ≠ 0x17F := by omega
      have d : point.val ≠ 0x212A := by omega
      simp [differs, apart, a, b, c, d] at folds
    simp [same]
  · have same : point.asciiLower = point := if_neg upper
    rw [same]
    exact folds

theorem phraseHere_lower {word : Text} (lower : Text.lower word = word) {content : Text}
    (here : Text.phraseHere word content = true) :
    Text.phraseHere word (Text.lower content) = true := by
  induction word generalizing content with
  | nil => rfl
  | cons letter letters inductionHypothesis =>
    cases content with
    | nil => exact absurd here Bool.false_ne_true
    | cons point rest =>
      obtain ⟨letter_lower, letters_lower⟩ := List.cons.inj lower
      obtain ⟨folds, further⟩ := Bool.and_eq_true_iff.mp here
      exact Bool.and_eq_true_iff.mpr
        ⟨foldsTo_asciiLower letter_lower folds, inductionHypothesis letters_lower further⟩

theorem credentialShaped_lower {name : Text} (shaped : credentialShaped name = true) :
    credentialShaped (Text.lower name) = true := by
  obtain ⟨rest, tail, found⟩ := List.any_eq_true.mp shaped
  obtain ⟨word, member, here⟩ := List.any_eq_true.mp found
  have lower : ∀ word ∈ credentialWords, Text.lower word = word := by
    have all : (credentialWords.all fun word => Text.lower word = word) = true := by decide
    exact fun word member => of_decide_eq_true (List.all_eq_true.mp all word member)
  have tail' : Text.lower rest ∈ (Text.lower name).tails :=
    (List.mem_tails _ _).mpr (((List.mem_tails _ _).mp tail).map _)
  exact List.any_eq_true.mpr ⟨_, tail', List.any_eq_true.mpr
    ⟨word, member, phraseHere_lower (lower word member) here⟩⟩

theorem isUsername_of_credentialShaped {name : Text} (shaped : credentialShaped name = true) :
    isUsername name = false := by
  refine decide_eq_false fun username => ?_
  have lower := credentialShaped_lower shaped
  rw [username] at lower
  exact absurd lower (by decide)

/-! ### What is covered -/

theorem isCredentialLeaf_of_reached {builtins : Builtins} {before after : List Step} {key : Scalar}
    {child : Value} {leaf : Scalar} (under : At child after (.scalar leaf))
    (literal : isLiteral leaf = true)
    (reached : entersCredentials builtins before = true ∧
        isUsername (builtins.str (.scalar key)) = false ∨
      after = [] ∧ credentialShaped (builtins.str (.scalar key)) = true) :
    isCredentialLeaf (builtins.str (.scalar key)) child (entersCredentials builtins before) = true := by
  obtain ⟨simple, notReference⟩ := Bool.and_eq_true_iff.mp literal
  have childNotReference : isReference child = false := by
    cases under with
    | here => exact Bool.not_eq_true' _ ▸ notReference
    | key | item => rfl
  have username : isUsername (builtins.str (.scalar key)) = false :=
    reached.elim And.right fun last => isUsername_of_credentialShaped last.2
  unfold isCredentialLeaf
  rw [username, Bool.and_false, if_neg Bool.false_ne_true, childNotReference]
  split
  · rfl
  · rename_i outside
    obtain ⟨inside, _⟩ | ⟨rfl, shaped⟩ := reached
    · exact absurd inside outside
    · cases under
      rw [shaped, simple]
      rfl

theorem covered_of_reached {builtins : Builtins} {doc : Value} {path : List Step} {leaf : Scalar}
    (here : At doc path (.scalar leaf)) (literal : isLiteral leaf = true)
    (reached : Reached builtins path) : Covered builtins doc path := by
  obtain ⟨before, key, after, rfl, reached⟩ := reached
  have split : ∃ child, At doc (before ++ [.key key]) child ∧ At child after (.scalar leaf) := by
    rw [← List.singleton_append, ← List.append_assoc] at here
    exact here.split
  obtain ⟨child, above, under⟩ := split
  obtain ⟨reported, within, finding, made, same⟩ :
      ∃ reported, reported <+: before ++ [.key key] ∧
        ∃ finding ∈ walk builtins [] false doc, finding.path = pointer builtins reported :=
    mem_walk_of_leaf above (isCredentialLeaf_of_reached under literal reached)
  obtain ⟨other, kept, path_eq⟩ := mem_credentialFindings_path made
  refine ⟨reported, within.trans ?_, other, kept, path_eq.trans same⟩
  exact (List.prefix_append_right_inj before).mpr (List.prefix_append [.key key] after)

theorem reached_of_covered {builtins : Builtins} {doc : Value} {path : List Step} {leaf : Scalar}
    (jsonLike : JsonLike doc) (here : At doc path (.scalar leaf))
    (covered : Covered builtins doc path) : Reached builtins path := by
  obtain ⟨above, ⟨rest, rfl⟩, finding, member, same⟩ := covered
  obtain ⟨middle, there, _⟩ := here.split
  obtain ⟨before, key, child, under, isLeaf, made⟩ :=
    leaf_of_mem_walk (mem_walk_of_mem_credentialFindings member)
  rw [made] at same
  have position := pointer_injective jsonLike under there same
  subst position
  refine ⟨before, key, rest, by rw [List.append_assoc]; rfl, ?_⟩
  have below := under.under jsonLike here
  rw [Bool.false_or] at isLeaf
  unfold isCredentialLeaf at isLeaf
  cases inside : entersCredentials builtins before with
  | true =>
    rw [inside, Bool.true_and] at isLeaf
    split at isLeaf
    · exact absurd isLeaf Bool.false_ne_true
    · rename_i username
      exact Or.inl ⟨rfl, Bool.eq_false_iff.mpr username⟩
  | false =>
    rw [inside, Bool.false_and, if_neg Bool.false_ne_true, if_neg Bool.false_ne_true] at isLeaf
    split at isLeaf
    · exact absurd isLeaf Bool.false_ne_true
    · rename_i shaped
      refine Or.inr ⟨?_, by simpa using shaped⟩
      cases child with
      | scalar value => exact below.eq_nil
      | list | dict => exact absurd isLeaf Bool.false_ne_true

/-- Every literal in a place for credentials is covered, and a document with one never valid,
exactly when the walk reaches each of them. -/
theorem detected_iff_reached (builtins : Builtins) (doc : Value) (jsonLike : JsonLike doc) :
    Detected builtins doc ↔ ∀ path leaf, At doc path (.scalar leaf) → isLiteral leaf = true →
      UnderCredentials builtins path ∨ UnderShaped builtins path → Reached builtins path := by
  constructor
  · intro detected path leaf here literal place
    exact reached_of_covered jsonLike here (detected path leaf here literal place).1
  · intro reached path leaf here literal place
    have covered := covered_of_reached here literal (reached path leaf here literal place)
    refine ⟨covered, fun schemaFindings => ?_⟩
    obtain ⟨_, _, finding, member, _⟩ := covered
    obtain ⟨_, _, _, _, _, made⟩ := leaf_of_mem_walk (mem_walk_of_mem_credentialFindings member)
    exact valid_eq_false (List.mem_append_right _ member) (made ▸ rfl)

/-! ### Literals that are walked past -/

/-- A document with one entry. -/
def single (key : String) (value : Value) : Value := .dict [(.str (text key), value)]

/-- `str` where only strings are written. -/
def Builtins.plain : Builtins := ⟨fun _ => []⟩

/-- A literal in place of the `credentials` mapping, one in a list there, and one in a list under a
credential-shaped key are in no finding. -/
theorem literals_missed :
    (∀ doc ∈ [single "credentials" (.str (text "hunter2")),
        single "credentials" (.list [.str (text "hunter2")]),
        single "adminPassword" (.list [.str (text "hunter2")])],
      credentialFindings .plain doc = []) ∧
    ¬Detected .plain (single "credentials" (.str (text "hunter2"))) := by
  have silent : ∀ doc ∈ [single "credentials" (.str (text "hunter2")),
      single "credentials" (.list [.str (text "hunter2")]),
      single "adminPassword" (.list [.str (text "hunter2")])],
      credentialFindings .plain doc = [] := by
    intro doc member
    simp only [List.mem_cons, List.not_mem_nil, or_false] at member
    obtain rfl | rfl | rfl := member <;> decide
  refine ⟨silent, fun detected => ?_⟩
  have place : UnderCredentials .plain [.key (.str (text "credentials"))] :=
    ⟨[], _, [], rfl, by decide, fun inner last same => by simp at same⟩
  obtain ⟨⟨_, _, finding, member, _⟩, _⟩ := detected _ (.str (text "hunter2"))
    (.key List.mem_cons_self .here) (by decide) (Or.inl place)
  rw [silent _ List.mem_cons_self] at member
  exact List.not_mem_nil member

/-- A literal under a key of its own in a host's `credentials` mapping is detected. -/
theorem host_password_detected :
    Detected .plain (single "credentials" (single "vcenterRoot" (.str (text "hunter2")))) := by
  refine (detected_iff_reached .plain _ ?_).mpr fun path leaf here _ _ => ?_
  · refine .dict (List.nodup_singleton _) ?_ ?_
    · simp
    · intro entry member
      rw [List.mem_singleton.mp member]
      refine .dict (List.nodup_singleton _) (by simp) fun inner member => ?_
      rw [List.mem_singleton.mp member]
      exact .scalar
  · cases here with
    | key member under =>
      cases List.mem_singleton.mp member
      cases under with
      | key member' under' =>
        cases List.mem_singleton.mp member'
        cases under'
        exact ⟨[_], _, [], rfl, Or.inl (by decide)⟩

end VcfSpec

end LocalGpuCluster
