/-
This file proves that rendering adds no literal credential. What the walk over credentials reports
in a rendered spec, it reports in the inventory too, under the same name and with the same value:
the renderer puts references under the credential-shaped names of the spec, and copies all else from
places where the walk looks at it in the same way. So a spec is as free of literals as the inventory
it was rendered from.
-/

import LocalGpuCluster.CredentialCoverage
import LocalGpuCluster.Ensures
import LocalGpuCluster.SpecRender

namespace LocalGpuCluster

namespace VcfSpec

variable {builtins : Builtins} {allowed : Text → Value → Prop} {inCredentials : Bool}

/-! ### What the walk reports -/

/-- The walk reports, in the value, only entries that are allowed. -/
def ReportsOnly (builtins : Builtins) (allowed : Text → Value → Prop) (inCredentials : Bool)
    (value : Value) : Prop :=
  ∀ before key child, At value (before ++ [.key key]) child →
    isCredentialLeaf (builtins.str (.scalar key)) child
      (inCredentials || entersCredentials builtins before) = true →
    allowed (builtins.str (.scalar key)) child

namespace ReportsOnly

theorem scalar {value : Scalar} : ReportsOnly builtins allowed inCredentials (.scalar value) :=
  fun _ _ _ under _ =>
    absurd under.eq_nil (List.append_ne_nil_of_right_ne_nil _ (List.cons_ne_nil _ _))

theorem list {items : List Value}
    (each : ∀ item ∈ items, ReportsOnly builtins allowed inCredentials item) :
    ReportsOnly builtins allowed inCredentials (.list items) := by
  intro before key child under leaf
  cases before with
  | nil => cases under
  | cons step before =>
    cases under with
    | item member below =>
      exact each _ (List.mem_of_getElem? member) before key child below leaf

theorem dict {entries : Mapping}
    (each : ∀ entry ∈ entries,
      (isCredentialLeaf (builtins.str (.scalar entry.1)) entry.2 inCredentials = true →
        allowed (builtins.str (.scalar entry.1)) entry.2) ∧
      ReportsOnly builtins allowed
        (inCredentials || isCredentialsName (builtins.str (.scalar entry.1))) entry.2) :
    ReportsOnly builtins allowed inCredentials (.dict entries) := by
  intro before key child under leaf
  cases before with
  | nil =>
    cases under with
    | key member below =>
      cases below
      rw [entersCredentials, List.any_nil, Bool.or_false] at leaf
      exact (each _ member).1 leaf
  | cons step before =>
    cases under with
    | key member below =>
      rw [entersCredentials, List.any_cons, ← Bool.or_assoc] at leaf
      exact (each _ member).2 before key child below leaf

theorem entry {entries : Mapping}
    (only : ReportsOnly builtins allowed inCredentials (.dict entries)) {key : Scalar}
    {child : Value} (member : (key, child) ∈ entries) :
    ReportsOnly builtins allowed (inCredentials || isCredentialsName (builtins.str (.scalar key)))
      child := by
  intro before inner value under leaf
  refine only (.key key :: before) inner value (.key member under) ?_
  rwa [entersCredentials, List.any_cons, ← Bool.or_assoc]

theorem item {items : List Value} (only : ReportsOnly builtins allowed inCredentials (.list items))
    {child : Value} (member : child ∈ items) :
    ReportsOnly builtins allowed inCredentials child := by
  obtain ⟨index, found⟩ := List.mem_iff_getElem?.mp member
  exact fun before key value under leaf =>
    only (.item index :: before) key value (.item found under) leaf

end ReportsOnly

/-! ### What is copied -/

section Copied

variable {value : Value} {entries : Mapping}

theorem ReportsOnly.get? {name : String} (only : ReportsOnly builtins allowed false (.dict entries))
    (outside : isCredentialsName (text name) = false) {child : Value}
    (found : entries.get? name = some child) : ReportsOnly builtins allowed false child := by
  obtain ⟨entry, first, rfl⟩ := Option.map_eq_some_iff.mp found
  have key : entry.1 = .str (text name) := by simpa using List.find?_some first
  have below := only.entry (List.mem_of_find?_eq_some first)
  rwa [key, show builtins.str (.scalar (.str (text name))) = text name from rfl, outside] at below

theorem ReportsOnly.getOr (only : ReportsOnly builtins allowed false (.dict entries))
    (name : String) (outside : isCredentialsName (text name) = false) {default : Value}
    (otherwise : ReportsOnly builtins allowed false default) :
    ReportsOnly builtins allowed false (entries.getOr name default) := by
  unfold Mapping.getOr
  cases found : entries.get? name with
  | none => exact otherwise
  | some child => exact only.get? outside found

theorem ReportsOnly.get (only : ReportsOnly builtins allowed false (.dict entries)) (name : String)
    (outside : isCredentialsName (text name) = false) :
    ReportsOnly builtins allowed false (entries.get name) :=
  only.getOr name outside .scalar

theorem ReportsOnly.nothing : ReportsOnly builtins allowed inCredentials (.dict []) :=
  .dict fun _ member => absurd member List.not_mem_nil

theorem ReportsOnly.orEmpty (only : ReportsOnly builtins allowed false value) :
    ReportsOnly builtins allowed false value.orEmpty := by
  unfold Value.orEmpty Value.orElse
  split
  · exact only
  · exact .nothing

theorem ReportsOnly.asMapping (only : ReportsOnly builtins allowed false value) :
    ReportsOnly builtins allowed false (.dict value.asMapping) := by
  cases value with
  | dict entries => exact only
  | scalar value => exact .nothing
  | list items => exact .nothing

theorem ReportsOnly.asSequence (only : ReportsOnly builtins allowed false value) :
    ∀ item ∈ value.asSequence, ReportsOnly builtins allowed false item := by
  cases value with
  | list items => exact fun _ member => only.item member
  | scalar value => exact fun _ member => absurd member List.not_mem_nil
  | dict entries => exact fun _ member => absurd member List.not_mem_nil

theorem ReportsOnly.fields (only : ReportsOnly builtins allowed false value) :
    Ensures value.fields fun fields => ReportsOnly builtins allowed false (.dict fields) := by
  cases value with
  | dict entries => exact .pure only
  | scalar value => exact .throw _
  | list items => exact .throw _

theorem ReportsOnly.atKey (only : ReportsOnly builtins allowed false value) (name : String)
    (outside : isCredentialsName (text name) = false) :
    Ensures (value.atKey name) (ReportsOnly builtins allowed false) := by
  cases value with
  | dict entries =>
    unfold Value.atKey
    dsimp only
    cases found : Mapping.get? entries name with
    | none => exact .throw _
    | some child => exact .pure (only.get? outside found)
  | scalar value => exact .throw _
  | list items => exact .throw _

end Copied

/-! ### What is written -/

/-- The walk takes the name for neither a credential nor a `credentials` key. -/
def isPlainName (name : String) : Bool :=
  !credentialShaped (text name) && !isCredentialsName (text name)

/-- The walk reports nothing but allowed entries of the entry under its name. -/
structure Fits (builtins : Builtins) (allowed : Text → Value → Prop) (entry : String × Value) :
    Prop where
  leaf : isCredentialLeaf (text entry.1) entry.2 false = false
  under : ReportsOnly builtins allowed (isCredentialsName (text entry.1)) entry.2

/-- Each of the entries fits. -/
def AllFit (builtins : Builtins) (allowed : Text → Value → Prop) (entries : List (String × Value)) :
    Prop :=
  ∀ entry ∈ entries, Fits builtins allowed entry

section Written

variable {name : String} {value : Value} {entries others : List (String × Value)}

theorem Fits.plain (plain : isPlainName name = true)
    (only : ReportsOnly builtins allowed false value) : Fits builtins allowed (name, value) := by
  obtain ⟨unshaped, outside⟩ := Bool.and_eq_true_iff.mp plain
  rw [Bool.not_eq_true'] at unshaped outside
  constructor
  · simp [isCredentialLeaf, unshaped]
  · rwa [outside]

theorem Fits.secret (reference : isReference value = true) :
    Fits builtins allowed (name, value) := by
  constructor
  · simp [isCredentialLeaf, reference]
  · cases value with
    | scalar value => exact .scalar
    | list items => cases reference
    | dict entries => cases reference

theorem AllFit.nil : AllFit builtins allowed [] := fun _ member => absurd member List.not_mem_nil

theorem AllFit.cons {entry : String × Value} (first : Fits builtins allowed entry)
    (rest : AllFit builtins allowed entries) : AllFit builtins allowed (entry :: entries) :=
  List.forall_mem_cons.mpr ⟨first, rest⟩

theorem AllFit.one {entry : String × Value} (only : Fits builtins allowed entry) :
    AllFit builtins allowed [entry] :=
  .cons only .nil

theorem AllFit.append (first : AllFit builtins allowed entries)
    (second : AllFit builtins allowed others) : AllFit builtins allowed (entries ++ others) :=
  List.forall_mem_append.mpr ⟨first, second⟩

/-- A mapping that is written out of fitting entries. -/
theorem AllFit.mapping (fits : AllFit builtins allowed entries) :
    ReportsOnly builtins allowed false (mapping entries) := by
  refine .dict fun entry member => ?_
  obtain ⟨written, inEntries, rfl⟩ := List.mem_map.mp member
  obtain ⟨leaf, under⟩ := fits written inEntries
  refine ⟨fun reported => ?_, under⟩
  rw [show builtins.str (.scalar (.str (text written.1))) = text written.1 from rfl, leaf]
    at reported
  cases reported

end Written

/-! ### The parts of the spec -/

section Parts

variable {intOf : Text → Option ℤ} {defaults : List (String × DefaultEntry)}
  {creds value : Value} {fields : Mapping} {name : String}

end Parts

/-! ### The spec -/

section Spec

variable {intOf : Text → Option ℤ} {defaults : List (String × DefaultEntry)} {inventory : Mapping}
  {version : Text}

end Spec

/-! ### The credentials that are asked for -/

section Demanded

variable {intOf : Text → Option ℤ} {defaults : List (String × DefaultEntry)} {creds value : Value}
  {inventory fields : Mapping} {version : Text} {name : String}

end Demanded

/-! ### The findings -/

/-- The walk reports the entry in the document. -/
def Reported (builtins : Builtins) (doc : Value) (name : Text) (value : Value) : Prop :=
  ∃ before key, At doc (before ++ [.key key]) value ∧ builtins.str (.scalar key) = name ∧
    isCredentialLeaf name value (entersCredentials builtins before) = true

end VcfSpec

end LocalGpuCluster
