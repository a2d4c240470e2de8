/-
This file proves what the walk of `schema_layer.py` finds. The chain of a schema is what its references,
`allOf`, `anyOf` and `oneOf` lead to. A node of the document is reached through the `properties` and the
`items` that any schema of a chain declares. The walk follows the first declaration of a key and the `items`
of the schema itself, so it finds everything where no other declaration differs from these.
-/

import LocalGpuCluster.SchemaWalk
import Mathlib.Order.Filter.AtTopBot.Basic

namespace LocalGpuCluster

namespace SchemaWalk

open Filter

/-! ### Enough depth -/

/-- What holds at every successor from some depth on holds from some depth on. -/
theorem eventually_of_succ {holds : ℕ → Prop} (succ : ∀ᶠ depth in atTop, holds (depth + 1)) :
    ∀ᶠ depth in atTop, holds depth := by
  rw [← map_add_atTop_eq_nat 1, eventually_map]
  exact succ

theorem succ_of_eventually {holds : ℕ → Prop} (eventually : ∀ᶠ depth in atTop, holds depth) :
    ∀ᶠ depth in atTop, holds (depth + 1) := by
  rwa [← map_add_atTop_eq_nat 1, eventually_map] at eventually

/-- What is read of every item from some depth on is read of the list. -/
theorem eventually_mapM {Item Value : Type} {read : ℕ → Item → Option Value}
    {fits : Item → Value → Prop} {items : List Item}
    (each : ∀ item ∈ items, ∃ value, (∀ᶠ depth in atTop, read depth item = some value) ∧
      fits item value) :
    ∃ values, (∀ᶠ depth in atTop, items.mapM (read depth) = some values) ∧
      List.Forall₂ fits items values := by
  induction items with
  | nil => exact ⟨[], .of_forall fun _ => rfl, .nil⟩
  | cons item rest inductionHypothesis =>
    obtain ⟨value, reads, isFit⟩ := each item List.mem_cons_self
    obtain ⟨values, readsRest, areFit⟩ :=
      inductionHypothesis fun other member => each other (List.mem_cons_of_mem _ member)
    refine ⟨value :: values, ?_, .cons isFit areFit⟩
    filter_upwards [reads, readsRest] with depth first others
    rw [List.mapM_cons, first, others]
    rfl

/-- The search stops at the first item in which something is found. -/
theorem eventually_firstFound {find : ℕ → Json → Option (Option Json)}
    {fits : Json → Option Json → Prop} {branches : List Json}
    (each : ∀ branch ∈ branches, ∃ found, (∀ᶠ depth in atTop, find depth branch = some found) ∧
      fits branch found) :
    ∃ found, (∀ᶠ depth in atTop, firstFound (find depth) branches = some found) ∧
      (∀ child, found = some child → ∃ branch ∈ branches, fits branch (some child)) ∧
      (found = none → ∀ branch ∈ branches, fits branch none) := by
  induction branches with
  | nil =>
    exact ⟨none, .of_forall fun _ => rfl, fun _ none => (by cases none), fun _ _ none => (by cases none)⟩
  | cons branch rest inductionHypothesis =>
    obtain ⟨found, finds, isFit⟩ := each branch List.mem_cons_self
    cases found with
    | some child =>
      refine ⟨some child, ?_, fun other same => ⟨branch, List.mem_cons_self, same ▸ isFit⟩,
        fun none => (by cases none)⟩
      filter_upwards [finds] with depth first
      rw [firstFound, first]
    | none =>
      obtain ⟨found, findsRest, some, none⟩ :=
        inductionHypothesis fun other member => each other (List.mem_cons_of_mem _ member)
      refine ⟨found, ?_, fun child isFound => ?_, fun isNone other member => ?_⟩
      · filter_upwards [finds, findsRest] with depth first others
        rw [firstFound, first]
        exact others
      · obtain ⟨other, member, isChild⟩ := some child isFound
        exact ⟨other, List.mem_cons_of_mem _ member, isChild⟩
      · obtain rfl | member := List.mem_cons.mp member
        · exact isFit
        · exact none isNone other member

/-! ### References -/

/-- A schema that resolves is no reference, or a reference to one that resolves. -/
theorem resolveFrom_cases {schema : Json} {depth : ℕ} {seen : List Text} {subschema : Json}
    {fields : Fields} (resolved : resolveFrom schema (depth + 1) seen subschema = some fields) :
    (subschema = .obj fields ∧ fields.lookup (text "$ref") = none) ∨
      ∃ own ref node, subschema = .obj own ∧ own.lookup (text "$ref") = some (.str ref) ∧
        ref ∉ seen ∧ Text.startsWith ref (text "#/") = true ∧
          navigate schema ((ref.drop 2).splitOn 0x2F) = some node ∧
            resolveFrom schema depth (ref :: seen) node = some fields := by
  cases subschema with
  | obj own =>
    rw [resolveFrom] at resolved
    split at resolved
    · rename_i plain
      obtain rfl := Option.some.inj resolved
      exact .inl ⟨rfl, plain⟩
    · rename_i ref isRef
      split at resolved
      · cases resolved
      · rename_i unseen
        split at resolved
        · rename_i isLocal
          obtain ⟨node, found, resolved⟩ := Option.bind_eq_some_iff.mp resolved
          exact .inr ⟨own, ref, node, rfl, isRef, unseen, isLocal, found, resolved⟩
        · cases resolved
    · cases resolved
  | null | bool | int | float | str | arr => cases resolved

theorem resolveFrom_mono {schema : Json} {depth more : ℕ} {seen : List Text} {subschema : Json}
    {fields : Fields} (le : depth ≤ more)
    (resolved : resolveFrom schema depth seen subschema = some fields) :
    resolveFrom schema more seen subschema = some fields := by
  induction depth generalizing more seen subschema with
  | zero => cases resolved
  | succ depth inductionHypothesis =>
    obtain ⟨more, rfl⟩ : ∃ other, more = other + 1 := ⟨more - 1, by omega⟩
    obtain ⟨rfl, plain⟩ | ⟨own, ref, node, rfl, isRef, unseen, isLocal, found, resolved⟩ :=
      resolveFrom_cases resolved
    · rw [resolveFrom, plain]
    · rw [resolveFrom, isRef]
      dsimp only
      rw [if_neg unseen, if_pos isLocal, found]
      exact inductionHypothesis (Nat.le_of_succ_le_succ le) resolved

/-- What a schema resolves to is no reference. -/
theorem lookup_ref_of_resolveFrom {schema : Json} {depth : ℕ} {seen : List Text} {subschema : Json}
    {fields : Fields} (resolved : resolveFrom schema depth seen subschema = some fields) :
    fields.lookup (text "$ref") = none := by
  induction depth generalizing seen subschema with
  | zero => cases resolved
  | succ depth inductionHypothesis =>
    obtain ⟨-, plain⟩ | ⟨own, ref, node, -, -, -, -, -, resolved⟩ := resolveFrom_cases resolved
    · exact plain
    · exact inductionHypothesis resolved

/-- The fields that a schema stands for once its references are followed. -/
def Resolves (schema subschema : Json) (fields : Fields) : Prop :=
  ∃ depth, resolveRef schema depth subschema = some fields

theorem Resolves.eventually {schema subschema : Json} {fields : Fields}
    (resolves : Resolves schema subschema fields) :
    ∀ᶠ depth in atTop, resolveRef schema depth subschema = some fields := by
  obtain ⟨least, resolved⟩ := resolves
  filter_upwards [eventually_ge_atTop least] with depth le
  exact resolveFrom_mono le resolved

theorem Resolves.unique {schema subschema : Json} {first second : Fields}
    (resolves : Resolves schema subschema first) (also : Resolves schema subschema second) :
    first = second := by
  obtain ⟨depth, same, other⟩ := (resolves.eventually.and also.eventually).exists
  exact Option.some.inj (same.symm.trans other)

/-- What a schema resolves to resolves to itself. -/
theorem Resolves.self {schema subschema : Json} {fields : Fields}
    (resolves : Resolves schema subschema fields) : Resolves schema (.obj fields) fields := by
  obtain ⟨depth, resolved⟩ := resolves
  refine ⟨1, ?_⟩
  unfold resolveRef resolveFrom
  rw [lookup_ref_of_resolveFrom resolved]

/-! ### Chains -/

/-- A schema of the chain of another one. -/
inductive InChain (schema : Json) : Json → Fields → Prop
  | head {subschema : Json} {fields : Fields} (resolves : Resolves schema subschema fields) :
      InChain schema subschema fields
  | branch {subschema branch : Json} {fields other : Fields} {branches : List Json}
      (resolves : Resolves schema subschema fields)
      (combined : combinatorBranches fields = some branches) (member : branch ∈ branches)
      (inner : InChain schema branch other) : InChain schema subschema other

/-- The references of the chain lead somewhere, and the chain ends. -/
inductive Grounded (schema : Json) : Json → Prop
  | intro {subschema : Json} {fields properties : Fields} {branches : List Json}
      (resolves : Resolves schema subschema fields) (declared : propertiesOf fields = some properties)
      (combined : combinatorBranches fields = some branches)
      (inner : ∀ branch ∈ branches, Grounded schema branch) : Grounded schema subschema

/-- A schema of the chain declares the key as `child`. -/
def DeclaresAs (schema subschema : Json) (key : Text) (child : Json) : Prop :=
  ∃ fields properties, InChain schema subschema fields ∧ propertiesOf fields = some properties ∧
    properties.lookup key = some child

/-- A schema of the chain declares the key. -/
def Declares (schema subschema : Json) (key : Text) : Prop :=
  ∃ child, DeclaresAs schema subschema key child

/-- A schema of the chain has these `items`. -/
def HasItems (schema subschema items : Json) : Prop :=
  ∃ fields, InChain schema subschema fields ∧ itemsOf fields = some items

theorem inChain_iff {schema subschema : Json} {fields other : Fields} {branches : List Json}
    (resolves : Resolves schema subschema fields)
    (combined : combinatorBranches fields = some branches) :
    InChain schema subschema other ↔
      other = fields ∨ ∃ branch ∈ branches, InChain schema branch other := by
  constructor
  · intro inChain
    cases inChain with
    | head also => exact .inl (also.unique resolves)
    | branch also combined' member inner =>
      obtain rfl := also.unique resolves
      obtain rfl := Option.some.inj (combined'.symm.trans combined)
      exact .inr ⟨_, member, inner⟩
  · rintro (rfl | ⟨branch, member, inner⟩)
    · exact .head resolves
    · exact .branch resolves combined member inner

/-- What a schema resolves to has the same chain. -/
theorem inChain_obj_iff {schema subschema : Json} {fields other : Fields}
    (resolves : Resolves schema subschema fields) :
    InChain schema (.obj fields) other ↔ InChain schema subschema other := by
  have same {first second : Json} (here : Resolves schema first fields)
      (there : Resolves schema second fields) (inChain : InChain schema first other) :
      InChain schema second other := by
    cases inChain with
    | head also => exact here.unique also ▸ .head there
    | branch also combined member inner =>
      exact .branch there (here.unique also ▸ combined) member inner
  exact ⟨same resolves.self resolves, same resolves resolves.self⟩

theorem declaresAs_iff {schema subschema : Json} {fields properties : Fields} {branches : List Json}
    {key : Text} {child : Json} (resolves : Resolves schema subschema fields)
    (declared : propertiesOf fields = some properties)
    (combined : combinatorBranches fields = some branches) :
    DeclaresAs schema subschema key child ↔ properties.lookup key = some child ∨
      ∃ branch ∈ branches, DeclaresAs schema branch key child := by
  constructor
  · rintro ⟨other, others, inChain, declares, found⟩
    obtain rfl | ⟨branch, member, inner⟩ := (inChain_iff resolves combined).mp inChain
    · exact .inl (Option.some.inj (declares.symm.trans declared) ▸ found)
    · exact .inr ⟨branch, member, other, others, inner, declares, found⟩
  · rintro (found | ⟨branch, member, other, others, inner, declares, found⟩)
    · exact ⟨fields, properties, .head resolves, declared, found⟩
    · exact ⟨other, others, .branch resolves combined member inner, declares, found⟩

theorem declaresAs_obj_iff {schema subschema : Json} {fields : Fields} {key : Text} {child : Json}
    (resolves : Resolves schema subschema fields) :
    DeclaresAs schema (.obj fields) key child ↔ DeclaresAs schema subschema key child := by
  unfold DeclaresAs
  simp only [inChain_obj_iff resolves]

theorem Grounded.resolved {schema subschema : Json} {fields : Fields}
    (grounded : Grounded schema subschema) (resolves : Resolves schema subschema fields) :
    Grounded schema (.obj fields) := by
  cases grounded with
  | intro also declared combined inner =>
    obtain rfl := also.unique resolves
    exact .intro resolves.self declared combined inner

/-! ### What the helpers of the walk find -/

theorem mem_keys_iff {fields : Fields} {key : Text} :
    key ∈ fields.map Prod.fst ↔ ∃ value, fields.lookup key = some value := by
  rw [← Option.isSome_iff_exists, List.lookup_isSome_iff, List.mem_map]
  exact exists_congr fun entry => and_congr_right fun _ => by rw [beq_iff_eq, eq_comm]

theorem mem_flatten_iff {Item Value : Type} {has : Item → Value → Prop} {items : List Item}
    {values : List (List Value)}
    (each : List.Forall₂ (fun item value => ∀ one, one ∈ value ↔ has item one) items values)
    (one : Value) : one ∈ values.flatten ↔ ∃ item ∈ items, has item one := by
  induction each with
  | nil => simp
  | cons fits _ inductionHypothesis => simp [fits, inductionHypothesis]

/-- `_declared_keys` collects what the chain declares. -/
theorem Grounded.declaredKeys {schema subschema : Json} (grounded : Grounded schema subschema) :
    ∃ keys, (∀ᶠ depth in atTop, declaredKeys schema depth subschema = some keys) ∧
      ∀ key, key ∈ keys ↔ Declares schema subschema key := by
  induction grounded with
  | @intro subschema fields properties branches resolves declared combined inner inductionHypothesis =>
    obtain ⟨others, collects, fit⟩ := eventually_mapM inductionHypothesis
    refine ⟨properties.map Prod.fst ++ others.flatten, eventually_of_succ ?_, fun key => ?_⟩
    · filter_upwards [succ_of_eventually resolves.eventually, collects] with depth resolved collected
      rw [SchemaWalk.declaredKeys, resolved]
      simp [declared, combined, collected]
    · rw [List.mem_append, mem_keys_iff, mem_flatten_iff fit]
      unfold Declares
      simp only [declaresAs_iff resolves declared combined, exists_or]
      refine or_congr Iff.rfl ⟨?_, ?_⟩
      · rintro ⟨branch, member, child, declares⟩
        exact ⟨child, branch, member, declares⟩
      · rintro ⟨child, branch, member, declares⟩
        exact ⟨branch, member, child, declares⟩

/-- What `_property_schema` finds is declared; it finds nothing where nothing is declared but `None`, or
`None` comes first. -/
def Finds (schema subschema : Json) (key : Text) : Option Json → Prop
  | some child => DeclaresAs schema subschema key child ∧ child ≠ .null
  | none => ∀ child, DeclaresAs schema subschema key child →
      child = .null ∨ DeclaresAs schema subschema key .null

theorem Grounded.propertySchema {schema subschema : Json} (grounded : Grounded schema subschema)
    (key : Text) :
    ∃ found, (∀ᶠ depth in atTop, propertySchema schema key depth subschema = some found) ∧
      Finds schema subschema key found := by
  induction grounded with
  | @intro subschema fields properties branches resolves declared combined inner inductionHypothesis =>
    have declares (child : Json) : DeclaresAs schema subschema key child ↔
        properties.lookup key = some child ∨ ∃ branch ∈ branches, DeclaresAs schema branch key child :=
      declaresAs_iff resolves declared combined
    cases own : properties.lookup key with
    | some child =>
      refine ⟨given child, eventually_of_succ ?_, ?_⟩
      · filter_upwards [succ_of_eventually resolves.eventually] with depth resolved
        rw [SchemaWalk.propertySchema, resolved]
        simp [declared, own]
      · cases child with
        | null => exact fun _ _ => .inr ((declares .null).mpr (.inl own))
        | bool | int | float | str | arr | obj =>
          exact ⟨(declares _).mpr (.inl own), fun none => by cases none⟩
    | none =>
      obtain ⟨found, finds, some, none⟩ := eventually_firstFound inductionHypothesis
      refine ⟨found, eventually_of_succ ?_, ?_⟩
      · filter_upwards [succ_of_eventually resolves.eventually, finds] with depth resolved first
        rw [SchemaWalk.propertySchema, resolved]
        simp [declared, own, combined, first]
      · cases found with
        | some child =>
          obtain ⟨branch, member, inBranch, notNull⟩ := some child rfl
          exact ⟨(declares child).mpr (.inr ⟨branch, member, inBranch⟩), notNull⟩
        | none =>
          intro child declaresChild
          obtain isOwn | ⟨branch, member, inBranch⟩ := (declares child).mp declaresChild
          · cases own.symm.trans isOwn
          · exact (none rfl branch member child inBranch).imp_right fun inBranch =>
              (declares .null).mpr (.inr ⟨branch, member, inBranch⟩)

/-! ### Reached nodes -/

/-- A place in a document: the segments of its pointer, each with the value that it leads to. -/
abbrev Place := List (Text × Json)

/-- The pointer of a place below another one. -/
def pointerFrom (pointer : Text) (place : Place) : Text :=
  place.foldl (fun above segment => step above segment.1) pointer

/-- From a schema and its data, the schema `below` is reached at a place for the node there. -/
inductive Reaches (schema : Json) : Json → Json → Place → Json → Json → Prop
  | here {subschema data : Json} : Reaches schema subschema data [] subschema data
  | property {subschema child value below node : Json} {entries : Fields} {key : Text}
      {place : Place} (member : (key, value) ∈ entries)
      (declares : DeclaresAs schema subschema key child) (notNull : child ≠ .null)
      (inner : Reaches schema child value place below node) :
      Reaches schema subschema (.obj entries) ((key, value) :: place) below node
  | item {subschema items value below node : Json} {values : List Json} {index : ℕ}
      {place : Place} (found : values[index]? = some value)
      (hasItems : HasItems schema subschema items)
      (inner : Reaches schema items value place below node) :
      Reaches schema subschema (.arr values) ((decimal index, value) :: place) below node

/-- A dict or a list. -/
def isContainer : Json → Bool
  | .obj _ | .arr _ => true
  | _ => false

/-- No other declaration differs from the one that the walk follows. -/
def Follows (schema subschema : Json) : Json → Prop
  | .obj entries => Grounded schema subschema ∧
      ∀ entry ∈ entries, isContainer entry.2 = true → ∀ first second,
        DeclaresAs schema subschema entry.1 first → DeclaresAs schema subschema entry.1 second →
          first = second
  | .arr values => ∃ fields, Resolves schema subschema fields ∧
      ((∃ value ∈ values, isContainer value = true) → ∀ items, HasItems schema subschema items →
        itemsOf fields = some items)
  | _ => True

/-- At every node that is reached, the chain resolves, and no other declaration differs from the one that
the walk follows. -/
def Single (schema subschema data : Json) : Prop :=
  ∀ place below node, Reaches schema subschema data place below node → Follows schema below node

/-- The key of the node is not declared by a chain that declares any. -/
def Misses (schema below : Json) (entries : Fields) (key : Text) : Prop :=
  key ∈ entries.map Prod.fst ∧ (∃ other, Declares schema below other) ∧ ¬ Declares schema below key

/-- The result holds the visited nodes and their undeclared keys. -/
structure Describes (schema : Json) (result : SchemaWalkResult) (pointer : Text)
    (visits : Place → Json → Fields → Prop) : Prop where
  visited : ∀ found, found ∈ result.visited ↔
    ∃ place below entries, visits place below entries ∧ found = shown (pointerFrom pointer place)
  undeclared : ∀ found, found ∈ result.undeclared ↔
    ∃ place below entries key, visits place below entries ∧ Misses schema below entries key ∧
      found = step (pointerFrom pointer place) key

theorem Describes.empty {schema : Json} {pointer : Text} {visits : Place → Json → Fields → Prop}
    (none : ∀ place below entries, ¬ visits place below entries) :
    Describes schema .empty pointer visits where
  visited := fun found => ⟨fun member => (by cases member),
    fun ⟨place, below, entries, isVisited, _⟩ => absurd isVisited (none place below entries)⟩
  undeclared := fun found => ⟨fun member => (by cases member),
    fun ⟨place, below, entries, _, isVisited, _⟩ => absurd isVisited (none place below entries)⟩

theorem Describes.append {schema : Json} {first second : SchemaWalkResult} {pointer : Text}
    {visits others : Place → Json → Fields → Prop} (describes : Describes schema first pointer visits)
    (also : Describes schema second pointer others) :
    Describes schema (first.append second) pointer
      fun place below entries => visits place below entries ∨ others place below entries where
  visited := fun found => by
    simp only [SchemaWalkResult.append, List.mem_append, describes.visited, also.visited, or_and_right,
      exists_or]
  undeclared := fun found => by
    simp only [SchemaWalkResult.append, List.mem_append, describes.undeclared, also.undeclared,
      or_and_right, exists_or]

/-- What is below a segment. -/
theorem Describes.below {schema : Json} {result : SchemaWalkResult} {pointer segment : Text}
    {visits : Place → Json → Fields → Prop}
    (describes : Describes schema result (step pointer segment) visits) (value : Json) :
    Describes schema result pointer fun place below entries =>
      ∃ rest, place = (segment, value) :: rest ∧ visits rest below entries where
  visited := fun found => by
    rw [describes.visited]
    constructor
    · rintro ⟨place, below, entries, isVisited, rfl⟩
      exact ⟨(segment, value) :: place, below, entries, ⟨place, rfl, isVisited⟩, rfl⟩
    · rintro ⟨_, below, entries, ⟨place, rfl, isVisited⟩, rfl⟩
      exact ⟨place, below, entries, isVisited, rfl⟩
  undeclared := fun found => by
    rw [describes.undeclared]
    constructor
    · rintro ⟨place, below, entries, key, isVisited, misses, rfl⟩
      exact ⟨(segment, value) :: place, below, entries, key, ⟨place, rfl, isVisited⟩, misses, rfl⟩
    · rintro ⟨_, below, entries, key, ⟨place, rfl, isVisited⟩, misses, rfl⟩
      exact ⟨place, below, entries, key, isVisited, misses, rfl⟩

theorem Describes.congr {schema : Json} {result : SchemaWalkResult} {pointer : Text}
    {visits others : Place → Json → Fields → Prop} (describes : Describes schema result pointer visits)
    (same : ∀ place below entries, visits place below entries ↔ others place below entries) :
    Describes schema result pointer others := by
  have equal : visits = others := funext fun place => funext fun below => funext fun entries =>
    propext (same place below entries)
  exact equal ▸ describes

/-! ### The walk -/

/-- Only a container has a dict at or below it. -/
theorem Reaches.isContainer {schema subschema data below : Json} {place : Place} {entries : Fields}
    (reaches : Reaches schema subschema data place below (.obj entries)) :
    isContainer data = true := by
  cases reaches <;> rfl

theorem Single.property {schema subschema child value : Json} {entries : Fields} {key : Text}
    (single : Single schema subschema (.obj entries)) (member : (key, value) ∈ entries)
    (declares : DeclaresAs schema subschema key child) (notNull : child ≠ .null) :
    Single schema child value :=
  fun place below node reaches => single ((key, value) :: place) below node (.property member declares notNull reaches)

theorem Single.item {schema subschema items value : Json} {values : List Json} {index : ℕ}
    (single : Single schema subschema (.arr values)) (found : values[index]? = some value)
    (hasItems : HasItems schema subschema items) : Single schema items value :=
  fun place below node reaches =>
    single ((decimal index, value) :: place) below node (.item found hasItems reaches)

/-- The walk from a schema gives a result, which describes what the schema reaches. -/
def Walks (schema subschema data : Json) : Prop :=
  ∀ pointer, ∃ result, (∀ᶠ depth in atTop, walk schema depth subschema pointer data = some result) ∧
    Describes schema result pointer fun place below entries =>
      Reaches schema subschema data place below (.obj entries)

/-- A value that is no container is not walked into. -/
theorem walks_of_scalar {schema subschema data : Json} (scalar : isContainer data = false) :
    Walks schema subschema data := by
  refine fun pointer => ⟨.empty, .of_forall fun depth => ?_, .empty fun place below entries reaches => ?_⟩
  · cases data with
    | null | bool | int | float | str => simp only [walk]
    | obj | arr => cases scalar
  · exact absurd reaches.isContainer (by simp [scalar])

/-- The walk into the value of one key. -/
theorem walkChild_describes {schema subschema value : Json} {key : Text}
    (grounded : Grounded schema subschema)
    (unique : isContainer value = true → ∀ first second,
      DeclaresAs schema subschema key first → DeclaresAs schema subschema key second → first = second)
    (walks : ∀ child, DeclaresAs schema subschema key child → child ≠ .null → Walks schema child value)
    (pointer : Text) :
    ∃ result, (∀ᶠ depth in atTop, ((propertySchema schema key depth subschema).bind fun child =>
        match child with
        | none => some SchemaWalkResult.empty
        | some child => walk schema depth child (step pointer key) value) = some result) ∧
      Describes schema result pointer fun place below entries => ∃ rest, place = (key, value) :: rest ∧
        ∃ child, DeclaresAs schema subschema key child ∧ child ≠ .null ∧
          Reaches schema child value rest below (.obj entries) := by
  obtain ⟨found, finds, isFound⟩ := grounded.propertySchema key
  cases found with
  | none =>
    refine ⟨.empty, ?_, .empty ?_⟩
    · filter_upwards [finds] with depth first
      rw [first]
      rfl
    · rintro place below entries ⟨rest, -, child, declares, notNull, reaches⟩
      obtain isNull | declaresNull := isFound child declares
      · exact notNull isNull
      · exact notNull (unique reaches.isContainer _ _ declares declaresNull)
  | some child =>
    obtain ⟨declares, notNull⟩ := isFound
    obtain ⟨result, walked, describes⟩ := walks child declares notNull (step pointer key)
    refine ⟨result, ?_, (describes.below value).congr fun place below entries => ?_⟩
    · filter_upwards [finds, walked] with depth first below
      rw [first]
      exact below
    · refine exists_congr fun rest => and_congr_right fun _ =>
        ⟨fun reaches => ⟨child, declares, notNull, reaches⟩, ?_⟩
      rintro ⟨other, also, -, reaches⟩
      exact unique reaches.isContainer _ _ also declares ▸ reaches

theorem walkEntries_describes {schema subschema : Json} (grounded : Grounded schema subschema)
    {entries : Fields}
    (unique : ∀ entry ∈ entries, isContainer entry.2 = true → ∀ first second,
      DeclaresAs schema subschema entry.1 first → DeclaresAs schema subschema entry.1 second →
        first = second)
    (walks : ∀ entry ∈ entries, ∀ child, DeclaresAs schema subschema entry.1 child → child ≠ .null →
      Walks schema child entry.2) (pointer : Text) :
    ∃ result, (∀ᶠ depth in atTop, walkEntries schema depth subschema pointer entries = some result) ∧
      Describes schema result pointer fun place below node => ∃ entry ∈ entries, ∃ rest,
        place = entry :: rest ∧ ∃ child, DeclaresAs schema subschema entry.1 child ∧ child ≠ .null ∧
          Reaches schema child entry.2 rest below (.obj node) := by
  induction entries with
  | nil =>
    refine ⟨.empty, .of_forall fun depth => by rw [walkEntries], .empty ?_⟩
    rintro place below node ⟨entry, none, -⟩
    cases none
  | cons entry rest inductionHypothesis =>
    obtain ⟨key, value⟩ := entry
    obtain ⟨first, walksFirst, describesFirst⟩ := walkChild_describes grounded
      (unique _ List.mem_cons_self) (walks _ List.mem_cons_self) pointer
    obtain ⟨others, walksOthers, describesOthers⟩ := inductionHypothesis
      (fun entry member => unique entry (List.mem_cons_of_mem _ member))
      (fun entry member => walks entry (List.mem_cons_of_mem _ member))
    refine ⟨first.append others, ?_, (describesFirst.append describesOthers).congr
      fun place below node => ?_⟩
    · filter_upwards [walksFirst, walksOthers] with depth walked also
      obtain ⟨child, found, walked⟩ := Option.bind_eq_some_iff.mp walked
      rw [walkEntries, found, also]
      cases child <;> simp_all
    · rw [List.exists_mem_cons_iff]

theorem walkItems_describes {schema items : Json} {values : List Json}
    (walks : ∀ value ∈ values, Walks schema items value) (index : ℕ) (pointer : Text) :
    ∃ result,
      (∀ᶠ depth in atTop, walkItems schema depth items pointer index values = some result) ∧
      Describes schema result pointer fun place below node => ∃ offset value rest,
        values[offset]? = some value ∧ place = (decimal (index + offset : ℕ), value) :: rest ∧
          Reaches schema items value rest below (.obj node) := by
  induction values generalizing index with
  | nil =>
    refine ⟨.empty, .of_forall fun depth => by rw [walkItems], .empty ?_⟩
    rintro place below node ⟨offset, value, rest, none, -⟩
    cases none
  | cons value rest inductionHypothesis =>
    obtain ⟨first, walksFirst, describesFirst⟩ :=
      walks value List.mem_cons_self (step pointer (decimal index))
    obtain ⟨others, walksOthers, describesOthers⟩ := inductionHypothesis
      (fun other member => walks other (List.mem_cons_of_mem _ member)) (index + 1)
    refine ⟨first.append others, ?_, ((describesFirst.below value).append describesOthers).congr
      fun place below node => ?_⟩
    · filter_upwards [walksFirst, walksOthers] with depth walked also
      rw [walkItems, walked, also]
      rfl
    · constructor
      · rintro (⟨rest, rfl, reaches⟩ | ⟨offset, value, rest, found, rfl, reaches⟩)
        · exact ⟨0, value, rest, rfl, rfl, reaches⟩
        · exact ⟨offset + 1, value, rest, found, by rw [Nat.add_right_comm, Nat.add_assoc], reaches⟩
      · rintro ⟨offset, other, rest, found, rfl, reaches⟩
        cases offset with
        | zero =>
          obtain rfl := Option.some.inj found
          exact .inl ⟨rest, rfl, reaches⟩
        | succ offset =>
          exact .inr ⟨offset, other, rest, found, by rw [Nat.add_right_comm, Nat.add_assoc], reaches⟩

/-- A dict is visited itself. -/
theorem describes_self {schema subschema : Json} {fields : Fields} {keys : List Text}
    (resolves : Resolves schema subschema fields)
    (isKey : ∀ key, key ∈ keys ↔ Declares schema (.obj fields) key) (entries : Fields) (pointer : Text) :
    Describes schema
      ⟨(if keys = [] then [] else (entries.map Prod.fst).filter fun key => key ∉ keys).map (step pointer),
        [shown pointer]⟩ pointer
      fun place below node => place = [] ∧ below = subschema ∧ node = entries where
  visited := fun found => by
    rw [List.mem_singleton]
    constructor
    · rintro rfl
      exact ⟨[], subschema, entries, ⟨rfl, rfl, rfl⟩, rfl⟩
    · rintro ⟨place, below, node, ⟨rfl, rfl, rfl⟩, rfl⟩
      rfl
  undeclared := fun found => by
    have declares (key : Text) : key ∈ keys ↔ Declares schema subschema key := by
      rw [isKey]
      exact exists_congr fun child => declaresAs_obj_iff resolves
    have misses (key : Text) :
        key ∈ (if keys = [] then [] else (entries.map Prod.fst).filter fun key => key ∉ keys) ↔
          Misses schema subschema entries key := by
      unfold Misses
      simp only [← declares]
      split
      · rename_i none
        simp [none]
      · rename_i some
        rw [List.mem_filter, decide_eq_true_eq]
        exact and_congr_right fun _ => ⟨fun missing => ⟨List.exists_mem_of_ne_nil _ some, missing⟩,
          And.right⟩
    rw [List.mem_map]
    constructor
    · rintro ⟨key, member, rfl⟩
      exact ⟨[], subschema, entries, key, ⟨rfl, rfl, rfl⟩, (misses key).mp member, rfl⟩
    · rintro ⟨place, below, node, key, ⟨rfl, rfl, rfl⟩, isMissed, rfl⟩
      exact ⟨key, (misses key).mpr isMissed, rfl⟩

/-- Where no other declaration differs, the walk finds what is reached. -/
theorem walks_of_single {schema subschema data : Json} (single : Single schema subschema data) :
    Walks schema subschema data := by
  match data with
  | .obj entries =>
    intro pointer
    obtain ⟨grounded, unique⟩ := single [] subschema (.obj entries) .here
    obtain ⟨fields, resolves⟩ : ∃ fields, Resolves schema subschema fields := by
      cases grounded with
      | intro resolves => exact ⟨_, resolves⟩
    have declares (key : Text) (child : Json) :
        DeclaresAs schema (.obj fields) key child ↔ DeclaresAs schema subschema key child :=
      declaresAs_obj_iff resolves
    obtain ⟨keys, collects, isKey⟩ := (grounded.resolved resolves).declaredKeys
    have below (entry : Text × Json) (member : entry ∈ entries) (child : Json)
        (isDeclared : DeclaresAs schema (.obj fields) entry.1 child) (notNull : child ≠ .null) :
        Walks schema child entry.2 :=
      walks_of_single (single.property member ((declares entry.1 child).mp isDeclared) notNull)
    obtain ⟨result, walks, describes⟩ := walkEntries_describes (grounded.resolved resolves)
      (by simpa only [declares] using unique) below pointer
    refine ⟨_, ?_, ((describes_self resolves isKey entries pointer).append describes).congr ?_⟩
    · filter_upwards [resolves.eventually, collects, walks] with depth resolved collected walked
      rw [walk, resolved]
      simp only [Option.bind_eq_bind, Option.bind_some, collected, walked]
    · intro place below node
      constructor
      · rintro (⟨rfl, rfl, rfl⟩ | ⟨entry, member, rest, rfl, child, isDeclared, notNull, reaches⟩)
        · exact .here
        · exact .property member ((declares entry.1 child).mp isDeclared) notNull reaches
      · intro reaches
        cases reaches with
        | here => exact .inl ⟨rfl, rfl, rfl⟩
        | property member isDeclared notNull inner =>
          exact .inr ⟨_, member, _, rfl, _, (declares _ _).mpr isDeclared, notNull, inner⟩
  | .arr values =>
    intro pointer
    obtain ⟨fields, resolves, same⟩ := single [] subschema (.arr values) .here
    have isHead {items : Json} {index : ℕ} {value below : Json} {place : Place} {node : Fields}
        (found : values[index]? = some value) (hasItems : HasItems schema subschema items)
        (inner : Reaches schema items value place below (.obj node)) : itemsOf fields = some items :=
      same ⟨value, List.mem_of_getElem? found, inner.isContainer⟩ items hasItems
    cases own : itemsOf fields with
    | none =>
      refine ⟨.empty, ?_, .empty fun place below node reaches => ?_⟩
      · filter_upwards [resolves.eventually] with depth resolved
        rw [walk, resolved]
        simp only [Option.bind_eq_bind, Option.bind_some, own]
      · cases reaches with
        | item found hasItems inner => cases own.symm.trans (isHead found hasItems inner)
    | some items =>
      have hasItems : HasItems schema subschema items := ⟨fields, .head resolves, own⟩
      have each (value : Json) (member : value ∈ values) : Walks schema items value := by
        obtain ⟨index, found⟩ := List.getElem?_of_mem member
        exact walks_of_single (single.item found hasItems)
      obtain ⟨result, walks, describes⟩ := walkItems_describes each 0 pointer
      refine ⟨result, ?_, describes.congr fun place below node => ?_⟩
      · filter_upwards [resolves.eventually, walks] with depth resolved walked
        rw [walk, resolved]
        simp only [Option.bind_eq_bind, Option.bind_some, own, walked]
      · constructor
        · rintro ⟨offset, value, rest, found, rfl, reaches⟩
          rw [Nat.zero_add]
          exact .item found hasItems reaches
        · intro reaches
          cases reaches with
          | item found also inner =>
            obtain rfl := Option.some.inj (own.symm.trans (isHead found also inner))
            exact ⟨_, _, _, found, by rw [Nat.zero_add], inner⟩
  | .null | .bool _ | .int _ | .float _ | .str _ => exact walks_of_scalar rfl
termination_by sizeOf data
decreasing_by
  · have less := List.sizeOf_lt_of_mem member
    have parts : sizeOf entry = 1 + sizeOf entry.1 + sizeOf entry.2 := rfl
    simp only [Json.obj.sizeOf_spec]
    omega
  · have less := List.sizeOf_lt_of_mem member
    simp only [Json.arr.sizeOf_spec]
    omega

/-! ### What the walk reports -/

/-- A schema that the node at the place is reached with declares the key. -/
def DeclaredAt (schema root data : Json) (place : Place) (entries : Fields) (key : Text) : Prop :=
  ∃ below, Reaches schema root data place below (.obj entries) ∧ Declares schema below key

/-- The walk visits every dict that is reached. It reports the keys of a dict that no schema it is reached
with declares, unless these declare none. -/
structure Complete (schema root data : Json) (result : SchemaWalkResult) : Prop where
  visited : ∀ found, found ∈ result.visited ↔
    ∃ place below entries, Reaches schema root data place below (.obj entries) ∧
      found = shown (pointerFrom [] place)
  undeclared : ∀ found, found ∈ result.undeclared ↔
    ∃ place below entries key, Reaches schema root data place below (.obj entries) ∧
      key ∈ entries.map Prod.fst ∧ (∃ other, DeclaredAt schema root data place entries other) ∧
        ¬ DeclaredAt schema root data place entries key ∧ found = step (pointerFrom [] place) key

theorem Reaches.exists_items {schema subschema below node : Json} {values : List Json}
    {segment : Text × Json} {place : Place}
    (reaches : Reaches schema subschema (.arr values) (segment :: place) below node) :
    ∃ (items : Json) (index : ℕ), values[index]? = some segment.2 ∧ HasItems schema subschema items ∧
      Reaches schema items segment.2 place below node := by
  cases reaches with
  | item found hasItems inner => exact ⟨_, _, found, hasItems, inner⟩

/-- A dict is reached with one schema only. -/
theorem Reaches.unique {schema subschema data first second : Json} {place : Place}
    {entries : Fields} (single : Single schema subschema data)
    (reaches : Reaches schema subschema data place first (.obj entries))
    (also : Reaches schema subschema data place second (.obj entries)) : first = second := by
  induction place generalizing subschema data with
  | nil =>
    cases reaches
    cases also
    rfl
  | cons segment rest inductionHypothesis =>
    have follows := single [] subschema data .here
    cases data with
    | obj =>
      cases reaches with
      | property member declares notNull inner =>
        cases also with
        | property _ alsoDeclares _ alsoInner =>
          obtain rfl := follows.2 _ member inner.isContainer _ _ declares alsoDeclares
          exact inductionHypothesis (single.property member declares notNull) inner alsoInner
    | arr values =>
      obtain ⟨fields, -, same⟩ := follows
      obtain ⟨items, index, found, hasItems, inner⟩ := reaches.exists_items
      obtain ⟨others, -, -, alsoHasItems, alsoInner⟩ := also.exists_items
      have isHead := same ⟨segment.2, List.mem_of_getElem? found, inner.isContainer⟩
      obtain rfl := Option.some.inj ((isHead items hasItems).symm.trans (isHead others alsoHasItems))
      exact inductionHypothesis (single.item found hasItems) inner alsoInner
    | null | bool | int | float | str => cases reaches

/-- Where no other declaration differs from the one that the walk follows, the walk is complete. -/
theorem walkDeclaredProperties_complete {schema : Json} {defName : Text} {data : Json}
    (single : Single schema (rootOf defName) data) :
    ∃ result, (∀ᶠ depth in atTop, walkDeclaredProperties schema depth defName data = some result) ∧
      Complete schema (rootOf defName) data result := by
  obtain ⟨result, walked, describes⟩ := walks_of_single single []
  refine ⟨result, walked, describes.visited, fun found => ?_⟩
  rw [describes.undeclared]
  have declaredAt {place : Place} {below : Json} {entries : Fields}
      (reaches : Reaches schema (rootOf defName) data place below (.obj entries)) (key : Text) :
      DeclaredAt schema (rootOf defName) data place entries key ↔ Declares schema below key :=
    ⟨fun ⟨_, also, declares⟩ => reaches.unique single also ▸ declares,
      fun declares => ⟨below, reaches, declares⟩⟩
  constructor
  · rintro ⟨place, below, entries, key, reaches, ⟨member, ⟨other, declares⟩, missing⟩, rfl⟩
    exact ⟨place, below, entries, key, reaches, member, ⟨other, (declaredAt reaches other).mpr declares⟩,
      fun isDeclared => missing ((declaredAt reaches key).mp isDeclared), rfl⟩
  · rintro ⟨place, below, entries, key, reaches, member, ⟨other, declares⟩, missing, rfl⟩
    exact ⟨place, below, entries, key, reaches, ⟨member, ⟨other, (declaredAt reaches other).mp declares⟩,
      fun isDeclared => missing ((declaredAt reaches key).mpr isDeclared)⟩, rfl⟩

/-- `Spec` declares a name. -/
def nameSchema : Json :=
  .obj [(text "$defs", .obj [(text "Spec", .obj [(text "properties", .obj [(text "name", .obj [])])])])]

/-- The name is misspelt. -/
def misspelt : Json := .obj [(text "nmae", .int 1)]

theorem misspelt_complete : ∃ result,
    (∀ᶠ depth in atTop,
      walkDeclaredProperties nameSchema depth (text "Spec") misspelt = some result) ∧
      Complete nameSchema (rootOf (text "Spec")) misspelt result := by
  refine walkDeclaredProperties_complete fun place below node reaches => ?_
  cases reaches with
  | here =>
    refine ⟨.intro ⟨2, rfl⟩ rfl rfl fun branch none => (by cases none), fun entry member container => ?_⟩
    rw [List.mem_singleton.mp member] at container
    cases container
  | property member declares notNull inner =>
    obtain ⟨rfl, rfl⟩ := Prod.mk.inj (List.mem_singleton.mp member)
    cases inner
    trivial

/-- A host has a name. -/
def hostItems : Json := .obj [(text "properties", .obj [(text "name", .obj [])])]

/-- The items are those of a branch. -/
def hostList : Json := .obj [(text "allOf", .arr [.obj [(text "items", hostItems)]])]

/-- `Spec` declares hosts. -/
def hostsSchema : Json :=
  .obj [(text "$defs", .obj [(text "Spec", .obj [(text "properties", .obj [(text "hosts", hostList)])])])]

/-- A host whose name is misspelt. -/
def misspeltHost : Json := .obj [(text "hosts", .arr [misspelt])]

theorem misspeltHost_unseen :
    (∀ depth, walkDeclaredProperties hostsSchema (depth + 4) (text "Spec") misspeltHost =
      some ⟨[], [text "/"]⟩) ∧
    ¬ Complete hostsSchema (rootOf (text "Spec")) misspeltHost ⟨[], [text "/"]⟩ := by
  refine ⟨fun depth => rfl, fun complete => ?_⟩
  have hosts : DeclaresAs hostsSchema (rootOf (text "Spec")) (text "hosts") hostList :=
    ⟨_, _, .head ⟨2, rfl⟩, rfl, rfl⟩
  have items : HasItems hostsSchema hostList hostItems :=
    ⟨[(text "items", hostItems)], .branch ⟨1, rfl⟩ rfl (List.mem_singleton_self _) (.head ⟨1, rfl⟩), rfl⟩
  have first : [misspelt][0]? = some misspelt := rfl
  have reaches : Reaches hostsSchema (rootOf (text "Spec")) misspeltHost
      [(text "hosts", .arr [misspelt]), (decimal 0, misspelt)] hostItems misspelt :=
    .property (List.mem_singleton_self _) hosts (fun none => by cases none) (.item first items .here)
  have visited := (complete.visited (text "/hosts/0")).mpr ⟨_, _, _, reaches, rfl⟩
  exact absurd visited (by decide)

end SchemaWalk

end LocalGpuCluster
