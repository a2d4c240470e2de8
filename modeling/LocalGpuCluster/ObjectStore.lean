/-
This file holds JSON values as Python has them in memory: lists and dicts are cells that values refer
to, so that whoever refers to one sees what is written to it. `copy.deepcopy` makes new cells for all
that a value refers to. A copy lies in cells of its own, each after the one that refers to it, and
those of its entries lie apart: what is written to one of them changes neither the others nor anything
that was there before.
-/

import LocalGpuCluster.Dictionary
import LocalGpuCluster.Json

namespace LocalGpuCluster

namespace ObjectStore

/-- A value that refers to no other. -/
inductive Leaf where
  | null
  | bool (value : Bool)
  | int (value : ℤ)
  | float (value : Float64)
  | str (value : Text)

def Leaf.json : Leaf → Json
  | .null => .null
  | .bool value => .bool value
  | .int value => .int value
  | .float value => .float value
  | .str value => .str value

inductive Value where
  | leaf (leaf : Leaf)
  | ref (address : ℕ)

inductive Cell where
  | arr (items : List Value)
  | obj (entries : List (Text × Value))

/-- The cells, by their addresses. -/
abbrev Heap := List Cell

/-! ### What a value denotes -/

/-- The JSON value that a value is. A dict's keys are distinct. -/
inductive Denotes (heap : Heap) : Value → Json → Prop
  | leaf (leaf : Leaf) : Denotes heap (.leaf leaf) leaf.json
  | arr {address : ℕ} {items : List Value} {values : List Json} :
      heap[address]? = some (.arr items) → items.length = values.length →
      (∀ {item value}, (item, value) ∈ items.zip values → Denotes heap item value) →
      Denotes heap (.ref address) (.arr values)
  | obj {address : ℕ} {entries : List (Text × Value)} {fields : List (Text × Json)} :
      heap[address]? = some (.obj entries) → entries.map Prod.fst = fields.map Prod.fst →
      (fields.map Prod.fst).Nodup →
      (∀ {entry field}, (entry, field) ∈ entries.zip fields → Denotes heap entry.2 field.2) →
      Denotes heap (.ref address) (.obj fields)

/-- What is there stays when cells are added. -/
theorem getElem?_of_extended {before after : Heap} (extended : before <+: after) {address : ℕ}
    {cell : Cell} (there : before[address]? = some cell) : after[address]? = some cell := by
  obtain ⟨more, rfl⟩ := extended
  obtain ⟨bound, same⟩ := List.getElem?_eq_some_iff.mp there
  rw [List.getElem?_append_left bound, there]

theorem Denotes.extend {before after : Heap} {value : Value} {json : Json}
    (denotes : Denotes before value json) (extended : before <+: after) :
    Denotes after value json := by
  induction denotes with
  | leaf leaf => exact .leaf leaf
  | arr cell length _ inductionHypothesis =>
    exact .arr (getElem?_of_extended extended cell) length inductionHypothesis
  | obj cell keys distinct _ inductionHypothesis =>
    exact .obj (getElem?_of_extended extended cell) keys distinct inductionHypothesis

/-- What it denotes, with every cell in a range, each after the one that refers to it. -/
inductive Holds (heap : Heap) : ℕ → ℕ → Value → Json → Prop
  | leaf {low high : ℕ} (leaf : Leaf) : Holds heap low high (.leaf leaf) leaf.json
  | arr {low high address : ℕ} {items : List Value} {values : List Json} :
      low ≤ address → address < high → heap[address]? = some (.arr items) →
      items.length = values.length →
      (∀ {item value}, (item, value) ∈ items.zip values →
        Holds heap (address + 1) high item value) →
      Holds heap low high (.ref address) (.arr values)
  | obj {low high address : ℕ} {entries : List (Text × Value)} {fields : List (Text × Json)} :
      low ≤ address → address < high → heap[address]? = some (.obj entries) →
      entries.map Prod.fst = fields.map Prod.fst → (fields.map Prod.fst).Nodup →
      (∀ {entry field}, (entry, field) ∈ entries.zip fields →
        Holds heap (address + 1) high entry.2 field.2) →
      Holds heap low high (.ref address) (.obj fields)

theorem Holds.denotes {heap : Heap} {low high : ℕ} {value : Value} {json : Json}
    (holds : Holds heap low high value json) : Denotes heap value json := by
  induction holds with
  | leaf leaf => exact .leaf leaf
  | arr _ _ cell length _ inductionHypothesis => exact .arr cell length inductionHypothesis
  | obj _ _ cell keys distinct _ inductionHypothesis =>
    exact .obj cell keys distinct inductionHypothesis

/-- Only the cells in the range matter. -/
theorem Holds.congr {heap other : Heap} {low high : ℕ} {value : Value} {json : Json}
    (holds : Holds heap low high value json)
    (same : ∀ address, low ≤ address → address < high → other[address]? = heap[address]?) :
    Holds other low high value json := by
  induction holds with
  | leaf leaf => exact .leaf leaf
  | arr above below cell length _ inductionHypothesis =>
    refine .arr above below ((same _ above below).trans cell) length fun member => ?_
    exact inductionHypothesis member fun address after before =>
      same address (Nat.le_of_lt (Nat.lt_of_le_of_lt above after)) before
  | obj above below cell keys distinct _ inductionHypothesis =>
    refine .obj above below ((same _ above below).trans cell) keys distinct fun member => ?_
    exact inductionHypothesis member fun address after before =>
      same address (Nat.le_of_lt (Nat.lt_of_le_of_lt above after)) before

theorem Holds.widen {heap : Heap} {low high lower higher : ℕ} {value : Value} {json : Json}
    (holds : Holds heap low high value json) (down : lower ≤ low) (up : high ≤ higher) :
    Holds heap lower higher value json := by
  induction holds generalizing lower with
  | leaf leaf => exact .leaf leaf
  | arr above below cell length _ inductionHypothesis =>
    exact .arr (down.trans above) (Nat.lt_of_lt_of_le below up) cell length
      fun member => inductionHypothesis member (Nat.le_refl _) up
  | obj above below cell keys distinct _ inductionHypothesis =>
    exact .obj (down.trans above) (Nat.lt_of_lt_of_le below up) cell keys distinct
      fun member => inductionHypothesis member (Nat.le_refl _) up

/-! ### Entries that lie apart -/

/-- Labelled values, each held in a range of its own, one range after the other. -/
inductive Apart {Label : Type} (heap : Heap) :
    ℕ → ℕ → List (Label × Value) → List (Label × Json) → Prop
  | nil {low high : ℕ} : low ≤ high → Apart heap low high [] []
  | cons {low middle high : ℕ} {label : Label} {value : Value} {json : Json}
      {entries : List (Label × Value)} {fields : List (Label × Json)} : low ≤ middle →
      Holds heap low middle value json → Apart heap middle high entries fields →
      Apart heap low high ((label, value) :: entries) ((label, json) :: fields)

section Apart

variable {Label : Type} {heap other : Heap} {low high : ℕ} {entries : List (Label × Value)}
  {fields : List (Label × Json)}

theorem Apart.le (apart : Apart heap low high entries fields) : low ≤ high := by
  induction apart with
  | nil ordered => exact ordered
  | cons ordered _ _ inductionHypothesis => exact ordered.trans inductionHypothesis

theorem Apart.congr (apart : Apart heap low high entries fields)
    (same : ∀ address, low ≤ address → address < high → other[address]? = heap[address]?) :
    Apart other low high entries fields := by
  induction apart with
  | nil ordered => exact .nil ordered
  | cons ordered holds rest inductionHypothesis =>
    refine .cons ordered (holds.congr fun address above below => same address above
      (Nat.lt_of_lt_of_le below rest.le)) (inductionHypothesis fun address above below => ?_)
    exact same address (ordered.trans above) below

theorem Apart.labels (apart : Apart heap low high entries fields) :
    entries.map Prod.fst = fields.map Prod.fst := by
  induction apart with
  | nil => rfl
  | cons _ _ _ inductionHypothesis => rw [List.map_cons, List.map_cons, inductionHypothesis]

theorem Apart.length (apart : Apart heap low high entries fields) :
    entries.length = fields.length := by
  have labels := congrArg List.length apart.labels
  rwa [List.length_map, List.length_map] at labels

/-- Each of them is held in the whole range, under its label. -/
theorem Apart.each (apart : Apart heap low high entries fields) {entry : Label × Value}
    {field : Label × Json} (member : (entry, field) ∈ entries.zip fields) :
    entry.1 = field.1 ∧ Holds heap low high entry.2 field.2 := by
  induction apart with
  | nil => cases member
  | cons ordered holds rest inductionHypothesis =>
    obtain here | later := List.mem_cons.mp member
    · obtain ⟨rfl, rfl⟩ := Prod.mk.inj here
      exact ⟨rfl, holds.widen (Nat.le_refl _) rest.le⟩
    · obtain ⟨same, holds⟩ := inductionHypothesis later
      exact ⟨same, holds.widen ordered (Nat.le_refl _)⟩

/-- Where nothing labels them. -/
theorem Apart.eachItem {items : List (Unit × Value)} {values : List Json}
    (apart : Apart heap low high items (values.map fun value => ((), value))) {item : Value}
    {value : Json} (member : (item, value) ∈ (items.map Prod.snd).zip values) :
    Holds heap low high item value := by
  rw [List.zip_map_left] at member
  obtain ⟨both, paired, same⟩ := List.mem_map.mp member
  obtain ⟨rfl, rfl⟩ := Prod.mk.inj same
  have unlabelled : (both.1, ((), both.2)) ∈ items.zip (values.map fun value => ((), value)) := by
    rw [List.zip_map_right]
    exact List.mem_map.mpr ⟨both, paired, rfl⟩
  exact (apart.each unlabelled).2

theorem Apart.append (apart : Apart heap low high entries fields) {higher : ℕ} {label : Label}
    {value : Value} {json : Json} (up : high ≤ higher) (holds : Holds heap high higher value json) :
    Apart heap low higher (entries ++ [(label, value)]) (fields ++ [(label, json)]) := by
  induction apart with
  | nil ordered =>
    exact .cons (ordered.trans up) (holds.widen ordered (Nat.le_refl _)) (.nil (Nat.le_refl _))
  | cons ordered first rest inductionHypothesis =>
    exact .cons ordered first (inductionHypothesis up holds)

end Apart

/-! ### Making containers -/

section Make

variable {Label Item : Type} (make : Heap → Item → Option (Heap × Value))

/-- A value for each item, one after the other. -/
def makeAll : Heap → List (Label × Item) → Option (Heap × List (Label × Value))
  | heap, [] => some (heap, [])
  | heap, (label, item) :: rest => do
      let first : Heap × Value ← make heap item
      let later : Heap × List (Label × Value) ← makeAll first.1 rest
      some (later.1, (label, first.2) :: later.2)

/-- A list, which is there before its items are. -/
def makeArray (heap : Heap) (items : List Item) : Option (Heap × Value) := do
  let made : Heap × List (Unit × Value) ←
    makeAll make (heap ++ [.arr []]) (items.map fun item => ((), item))
  some (made.1.set heap.length (.arr (made.2.map Prod.snd)), .ref heap.length)

/-- A dict, which is there before its values are. -/
def makeObject (heap : Heap) (entries : List (Text × Item)) : Option (Heap × Value) := do
  let made : Heap × List (Text × Value) ← makeAll make (heap ++ [.obj []]) entries
  some (made.1.set heap.length (.obj made.2), .ref heap.length)

end Make

/-- `json.loads`, past the reading of the text: with how many containers it may still enter, `none`
where it raises `RecursionError`. -/
def load : ℕ → Heap → Json → Option (Heap × Value)
  | _, heap, .null => some (heap, .leaf .null)
  | _, heap, .bool value => some (heap, .leaf (.bool value))
  | _, heap, .int value => some (heap, .leaf (.int value))
  | _, heap, .float value => some (heap, .leaf (.float value))
  | _, heap, .str value => some (heap, .leaf (.str value))
  | 0, _, .arr _ | 0, _, .obj _ => none
  | limit + 1, heap, .arr values => makeArray (load limit) heap values
  | limit + 1, heap, .obj fields => makeObject (load limit) heap fields

/-- `copy.deepcopy` of a value in which nothing is referred to twice, as `load` makes them: with how
many containers it may still enter, `none` where it raises `RecursionError`. -/
def deepcopy : ℕ → Heap → Value → Option (Heap × Value)
  | _, heap, .leaf leaf => some (heap, .leaf leaf)
  | 0, _, .ref _ => none
  | limit + 1, heap, .ref address =>
      match heap[address]? with
      | some (.arr items) => makeArray (deepcopy limit) heap items
      | some (.obj entries) => makeObject (deepcopy limit) heap entries
      | none => none

/-- No more than so many containers lie in each other. -/
def within : ℕ → Json → Bool
  | 0, .arr _ | 0, .obj _ => false
  | limit + 1, .arr values => values.all (within limit)
  | limit + 1, .obj fields => fields.all fun field => within limit field.2
  | _, _ => true

theorem within_leaf (limit : ℕ) (leaf : Leaf) : within limit leaf.json = true := by
  cases limit <;> cases leaf <;> rfl

/-- The cells from the first new one on are written to without touching those before. -/
theorem prefix_set {before after : Heap} {address : ℕ} {cell : Cell} (extended : before <+: after)
    (fresh : before.length ≤ address) : before <+: after.set address cell := by
  obtain ⟨more, rfl⟩ := extended
  rw [List.set_append_right address cell fresh]
  exact List.prefix_append _ _

/-- A value of its own: the cells there were are as they were, and it is held in the new ones. -/
structure Made (heap after : Heap) (value : Value) (json : Json) : Prop where
  extended : heap <+: after
  holds : Holds after heap.length after.length value json

/-- A dict of one's own: it lies in cells that were not there before, and its entries lie apart. -/
inductive Owns (before heap : Heap) (address : ℕ) (fields : List (Text × Json)) : Prop
  | intro (entries : List (Text × Value)) : before <+: heap → before.length ≤ address →
      heap[address]? = some (.obj entries) →
      Apart heap (address + 1) heap.length entries fields → (fields.map Prod.fst).Nodup →
      Owns before heap address fields

theorem Owns.made {before heap : Heap} {address : ℕ} {fields : List (Text × Json)}
    (owns : Owns before heap address fields) : Made before heap (.ref address) (.obj fields) := by
  obtain ⟨entries, extended, fresh, cell, apart, distinct⟩ := owns
  exact ⟨extended, .obj fresh apart.le cell apart.labels distinct fun member =>
    (apart.each member).2⟩

/-- A container's cell is written to once its entries are made: what was there before is as it was,
and the entries lie apart after it. -/
theorem made_container {Label : Type} {heap middle : Heap} {before : Cell} (after : Cell)
    {made : List (Label × Value)} {fields : List (Label × Json)}
    (extended : heap ++ [before] <+: middle)
    (apart : Apart middle (heap ++ [before]).length middle.length made fields) :
    heap <+: middle.set heap.length after ∧
      (middle.set heap.length after)[heap.length]? = some after ∧
      heap.length < (middle.set heap.length after).length ∧
      Apart (middle.set heap.length after) (heap.length + 1)
        (middle.set heap.length after).length made fields := by
  rw [List.length_append, List.length_singleton] at apart
  have long : heap.length < middle.length := apart.le
  refine ⟨prefix_set ((List.prefix_append _ _).trans extended) (Nat.le_refl _),
    List.getElem?_set_self long, by rwa [List.length_set], ?_⟩
  rw [List.length_set]
  exact apart.congr fun address later _ => List.getElem?_set_ne (Nat.ne_of_lt later)

/-- A value of its own is made of what fits, and of nothing else. -/
def MakesFitting {Item : Type} (make : Heap → Item → Option (Heap × Value)) (fits : Json → Bool)
    (heap : Heap) (item : Item) (json : Json) : Prop :=
  if fits json then ∃ after value, make heap item = some (after, value) ∧ Made heap after value json
  else make heap item = none

section Made

variable {Label Item : Type} {make : Heap → Item → Option (Heap × Value)} {fits : Json → Bool}

/-- Where a value is made of each item that fits, and of no other, so it is for all of them. -/
theorem makeAll_spec {heap : Heap} {items : List (Label × Item)} {fields : List (Label × Json)}
    (each : List.Forall₂ (fun item field => item.1 = field.1 ∧
      ∀ after, heap <+: after → MakesFitting make fits after item.2 field.2) items fields) :
    if fields.all (fun field => fits field.2) then
      ∃ after made, makeAll make heap items = some (after, made) ∧ heap <+: after ∧
        Apart after heap.length after.length made fields
    else makeAll make heap items = none := by
  induction items generalizing heap fields with
  | nil =>
    cases each
    exact ⟨heap, [], rfl, List.prefix_rfl, .nil (Nat.le_refl _)⟩
  | cons item items inductionHypothesis =>
    obtain ⟨⟨name, json⟩, fields, here, rest, rfl⟩ := List.forall₂_cons_left_iff.mp each
    obtain ⟨label, item⟩ := item
    obtain ⟨rfl, makes⟩ := here
    have first := makes heap List.prefix_rfl
    unfold MakesFitting at first
    rw [List.all_cons]
    dsimp only
    cases fitting : fits json with
    | false =>
      rw [fitting, if_neg Bool.false_ne_true] at first
      rw [Bool.false_and, if_neg Bool.false_ne_true, makeAll, first]
      rfl
    | true =>
      rw [fitting, if_pos rfl] at first
      obtain ⟨middle, value, made, isNew⟩ := first
      have later := @inductionHypothesis middle _ (rest.imp fun _ _ both =>
        ⟨both.1, fun after grown => both.2 after (isNew.extended.trans grown)⟩)
      rw [Bool.true_and, makeAll, made]
      split at later
      · rename_i all
        obtain ⟨after, others, madeAll, extended, apart⟩ := later
        rw [if_pos all]
        refine ⟨after, (label, value) :: others, ?_, isNew.extended.trans extended,
          .cons isNew.extended.length_le ?_ apart⟩
        · show (makeAll _ middle items >>= _) = _
          rw [madeAll]
          rfl
        · refine isNew.holds.congr fun address _ below => ?_
          obtain ⟨more, rfl⟩ := extended
          exact List.getElem?_append_left below
      · rename_i some
        rw [if_neg some]
        show (makeAll _ middle items >>= _) = _
        rw [later]
        rfl

theorem makeArray_spec {heap : Heap} {items : List Item} {values : List Json}
    (length : items.length = values.length)
    (each : ∀ {item value}, (item, value) ∈ items.zip values → ∀ after, heap <+: after →
      MakesFitting make fits after item value) :
    if values.all fits then ∃ after value, makeArray make heap items = some (after, value) ∧
      Made heap after value (.arr values)
    else makeArray make heap items = none := by
  have pairs : List.Forall₂ (fun item field => item.1 = field.1 ∧ ∀ after,
      heap ++ [Cell.arr []] <+: after → MakesFitting make fits after item.2 field.2)
      (items.map fun item => ((), item)) (values.map fun value => ((), value)) := by
    rw [List.forall₂_map_left_iff, List.forall₂_map_right_iff, List.forall₂_iff_zip]
    exact ⟨length, fun member => ⟨rfl, fun after grown =>
      each member after ((List.prefix_append _ _).trans grown)⟩⟩
  have all := makeAll_spec pairs
  rw [List.all_map] at all
  change if values.all fits then _ else _ at all
  split at all
  · rename_i fitting
    obtain ⟨middle, made, makes, extended, apart⟩ := all
    rw [if_pos fitting]
    obtain ⟨kept, there, bound, inside⟩ := made_container (.arr (made.map Prod.snd)) extended apart
    refine ⟨_, .ref heap.length, ?_, kept,
      .arr (Nat.le_refl _) bound there ?_ fun member => inside.eachItem member⟩
    · rw [makeArray, makes]
      rfl
    · rw [List.length_map, apart.length, List.length_map]
  · rename_i some
    rw [if_neg some, makeArray, all]
    rfl

theorem makeObject_spec {heap : Heap} {entries : List (Text × Item)}
    {fields : List (Text × Json)} (keys : entries.map Prod.fst = fields.map Prod.fst)
    (distinct : (fields.map Prod.fst).Nodup)
    (each : ∀ {entry field}, (entry, field) ∈ entries.zip fields → ∀ after, heap <+: after →
      MakesFitting make fits after entry.2 field.2) :
    if fields.all (fun field => fits field.2) then
      ∃ after, makeObject make heap entries = some (after, .ref heap.length) ∧
        Owns heap after heap.length fields
    else makeObject make heap entries = none := by
  have named : List.Forall₂ (fun entry field => entry.1 = field.1) entries fields := by
    rw [← List.forall₂_map_left_iff (R := fun name field => name = Prod.fst field), keys,
      List.forall₂_map_left_iff]
    exact List.forall₂_same.mpr fun _ _ => rfl
  have pairs : List.Forall₂ (fun entry field => entry.1 = field.1 ∧ ∀ after,
      heap ++ [Cell.obj []] <+: after → MakesFitting make fits after entry.2 field.2)
      entries fields :=
    Matching.and_iff.mpr ⟨named, List.forall₂_iff_zip.mpr ⟨named.length_eq, fun member after grown =>
      each member after ((List.prefix_append _ _).trans grown)⟩⟩
  have all := makeAll_spec pairs
  split at all
  · rename_i fitting
    obtain ⟨middle, made, makes, extended, apart⟩ := all
    rw [if_pos fitting]
    obtain ⟨kept, there, bound, inside⟩ := made_container (.obj made) extended apart
    refine ⟨_, ?_, .intro made kept (Nat.le_refl _) there inside distinct⟩
    rw [makeObject, makes]
    rfl
  · rename_i some
    rw [if_neg some, makeObject, all]
    rfl

theorem makesFitting_leaf {heap : Heap} {item : Item} {leaf : Leaf}
    (made : make heap item = some (heap, .leaf leaf)) (fitting : fits leaf.json = true) :
    MakesFitting make fits heap item leaf.json := by
  rw [MakesFitting, if_pos fitting]
  exact ⟨heap, .leaf leaf, made, List.prefix_rfl, .leaf leaf⟩

theorem makesFitting_of_owns {item : Item} {heap : Heap} {fields : List (Text × Json)}
    (owns : if fits (.obj fields) then
      ∃ after, make heap item = some (after, .ref heap.length) ∧ Owns heap after heap.length fields
      else make heap item = none) : MakesFitting make fits heap item (.obj fields) := by
  unfold MakesFitting
  split
  · rename_i fitting
    rw [if_pos fitting] at owns
    obtain ⟨after, made, isOwn⟩ := owns
    exact ⟨after, _, made, isOwn.made⟩
  · rename_i unfit
    rwa [if_neg unfit] at owns

end Made

/-- The keys of every object in it are distinct. -/
inductive Distinct : Json → Prop
  | leaf (leaf : Leaf) : Distinct leaf.json
  | arr {values : List Json} : (∀ value ∈ values, Distinct value) → Distinct (.arr values)
  | obj {fields : List (Text × Json)} : (fields.map Prod.fst).Nodup →
      (∀ field ∈ fields, Distinct field.2) → Distinct (.obj fields)

theorem load_leaf (limit : ℕ) (heap : Heap) (leaf : Leaf) :
    load limit heap leaf.json = some (heap, .leaf leaf) := by
  cases limit <;> cases leaf <;> rfl

/-- A value whose containers are not too deep in each other is read into cells of its own. -/
theorem load_spec (limit : ℕ) (heap : Heap) {json : Json} (distinct : Distinct json) :
    MakesFitting (load limit) (within limit) heap json json := by
  induction limit generalizing heap json with
  | zero =>
    cases distinct with
    | leaf leaf => exact makesFitting_leaf (load_leaf _ _ _) (within_leaf _ _)
    | arr => rfl
    | obj => rfl
  | succ limit inductionHypothesis =>
    cases distinct with
    | leaf leaf => exact makesFitting_leaf (load_leaf _ _ _) (within_leaf _ _)
    | @arr values each =>
      have pairs : List.Forall₂ (fun item value => ∀ after, heap <+: after →
          MakesFitting (load limit) (within limit) after item value) values values :=
        List.forall₂_same.mpr fun value member after _ => inductionHypothesis after (each value member)
      exact makeArray_spec rfl fun member => (List.forall₂_iff_zip.mp pairs).2 member
    | @obj fields distinct each =>
      have pairs : List.Forall₂ (fun entry field => ∀ after, heap <+: after →
          MakesFitting (load limit) (within limit) after entry.2 field.2) fields fields :=
        List.forall₂_same.mpr fun field member after _ =>
          inductionHypothesis after (each field member)
      have object := makeObject_spec rfl distinct
        fun member => (List.forall₂_iff_zip.mp pairs).2 member
      exact makesFitting_of_owns object

/-- A value is copied exactly where its containers are not too deep in each other. -/
theorem deepcopy_spec (limit : ℕ) {heap : Heap} {value : Value} {json : Json}
    (denotes : Denotes heap value json) :
    MakesFitting (deepcopy limit) (within limit) heap value json := by
  induction limit generalizing heap value json with
  | zero =>
    cases denotes with
    | leaf leaf => exact makesFitting_leaf rfl (within_leaf _ _)
    | arr => rfl
    | obj => rfl
  | succ limit inductionHypothesis =>
    cases denotes with
    | leaf leaf => exact makesFitting_leaf rfl (within_leaf _ _)
    | arr cell length each =>
      rw [MakesFitting, within, deepcopy, cell]
      exact makeArray_spec length fun member after grown =>
        inductionHypothesis ((each member).extend grown)
    | obj cell keys distinct each =>
      refine makesFitting_of_owns ?_
      rw [within, deepcopy, cell]
      exact makeObject_spec keys distinct fun member after grown =>
        inductionHypothesis ((each member).extend grown)

/-- A copied dict is one's own. -/
theorem deepcopy_object (limit : ℕ) {heap : Heap} {value : Value} {fields : List (Text × Json)}
    (denotes : Denotes heap value (.obj fields)) :
    if within limit (.obj fields) then
      ∃ after, deepcopy limit heap value = some (after, .ref heap.length) ∧
        Owns heap after heap.length fields
    else deepcopy limit heap value = none := by
  generalize object : Json.obj fields = json at denotes
  cases denotes with
  | leaf leaf => cases leaf <;> cases object
  | arr => cases object
  | obj cell keys distinct each =>
    cases object
    cases limit with
    | zero => rfl
    | succ limit =>
      rw [within, deepcopy, cell]
      exact makeObject_spec keys distinct fun member after grown =>
        deepcopy_spec limit ((each member).extend grown)

/-! ### Dicts that are written to -/

/-- A value that is a dict: its address and its entries. -/
def dictAt (heap : Heap) : Value → Option (ℕ × List (Text × Value))
  | .leaf _ => none
  | .ref address =>
      match heap[address]? with
      | some (.obj entries) => some (address, entries)
      | _ => none

/-- `value.get(key)` of a dict, `none` for a missing key too. -/
def getItem (heap : Heap) (dict : Value) (key : Text) : Option Value := do
  let found : ℕ × List (Text × Value) ← dictAt heap dict
  found.2.lookup key

/-- `value[key] = item`, `none` where the value is no dict. -/
def setItem (heap : Heap) (dict : Value) (key : Text) (item : Value) : Option Heap := do
  let found : ℕ × List (Text × Value) ← dictAt heap dict
  some (heap.set found.1 (.obj (Json.setIn found.2 key item)))

/-- `value.setdefault(key, item)`, `none` where the value is no dict. -/
def setDefault (heap : Heap) (dict : Value) (key : Text) (item : Value) : Option Heap := do
  let found : ℕ × List (Text × Value) ← dictAt heap dict
  if (found.2.lookup key).isSome then some heap
  else some (heap.set found.1 (.obj (found.2 ++ [(key, item)])))

/-- `setdefault` for each of some items, which refer to nothing. -/
def setDefaults (heap : Heap) (dict : Value) (defaults : List (Text × Leaf)) : Option Heap :=
  defaults.foldlM (fun heap entry => setDefault heap dict entry.1 (.leaf entry.2)) heap

/-- The fields that this leaves. -/
def defaulted (fields : List (Text × Json)) (defaults : List (Text × Leaf)) : List (Text × Json) :=
  defaults.foldl (fun fields entry => Json.setDefault fields entry.1 entry.2.json) fields

theorem dictAt_ref {heap : Heap} {address : ℕ} {entries : List (Text × Value)}
    (cell : heap[address]? = some (.obj entries)) :
    dictAt heap (.ref address) = some (address, entries) := by
  rw [dictAt, cell]

theorem Holds.ref_of_obj {heap : Heap} {low high : ℕ} {value : Value} {fields : List (Text × Json)}
    (holds : Holds heap low high value (.obj fields)) : ∃ address, value = .ref address := by
  cases value with
  | leaf leaf =>
    generalize object : Json.obj fields = json at holds
    cases holds
    cases leaf <;> cases object
  | ref address => exact ⟨address, rfl⟩

theorem Holds.nodup {heap : Heap} {low high : ℕ} {value : Value} {fields : List (Text × Json)}
    (holds : Holds heap low high value (.obj fields)) : (fields.map Prod.fst).Nodup := by
  obtain ⟨address, rfl⟩ := holds.ref_of_obj
  cases holds with
  | obj _ _ _ _ distinct => exact distinct

theorem Holds.dictAt_eq_none {heap : Heap} {low high : ℕ} {value : Value} {json : Json}
    (holds : Holds heap low high value json) (other : ∀ fields, json ≠ .obj fields) :
    dictAt heap value = none := by
  cases holds with
  | leaf leaf => rfl
  | arr _ _ cell => rw [dictAt, cell]
  | obj => exact absurd rfl (other _)

/-- The cells outside a range are as they were. -/
structure Writes (low high : ℕ) (heap after : Heap) : Prop where
  length : after.length = heap.length
  same : ∀ address, ¬(low ≤ address ∧ address < high) → after[address]? = heap[address]?

theorem Writes.refl (low high : ℕ) (heap : Heap) : Writes low high heap heap :=
  ⟨rfl, fun _ _ => rfl⟩

theorem Writes.trans {low high : ℕ} {heap middle after : Heap} (first : Writes low high heap middle)
    (second : Writes low high middle after) : Writes low high heap after :=
  ⟨second.length.trans first.length, fun address outside =>
    (second.same address outside).trans (first.same address outside)⟩

theorem writes_set {low high address : ℕ} (heap : Heap) (cell : Cell) (above : low ≤ address)
    (below : address < high) : Writes low high heap (heap.set address cell) :=
  ⟨List.length_set, fun other outside => List.getElem?_set_ne fun same : address = other =>
    outside ⟨same ▸ above, same ▸ below⟩⟩

theorem Writes.extended {low high : ℕ} {before heap after : Heap} (writes : Writes low high heap after)
    (extended : before <+: heap) (fresh : before.length ≤ low) : before <+: after := by
  rw [List.prefix_iff_getElem?] at extended ⊢
  intro address below
  rw [← extended address below]
  exact writes.same address fun inside =>
    Nat.lt_irrefl _ (Nat.lt_of_lt_of_le below (fresh.trans inside.1))

theorem lookup_isSome_of_keys {Left Right : Type} {entries : List (Text × Left)}
    {fields : List (Text × Right)} (keys : entries.map Prod.fst = fields.map Prod.fst) (key : Text) :
    (entries.lookup key).isSome = (fields.lookup key).isSome := by
  induction entries generalizing fields with
  | nil =>
    cases fields with
    | nil => rfl
    | cons field rest => cases keys
  | cons entry rest inductionHypothesis =>
    cases fields with
    | nil => cases keys
    | cons field others =>
      obtain ⟨here, later⟩ := List.cons.inj keys
      rw [Json.lookup_cons_eq, Json.lookup_cons_eq, here]
      split
      · rfl
      · exact inductionHypothesis later

theorem nodup_setDefault {fields : List (Text × Json)} (distinct : (fields.map Prod.fst).Nodup)
    (key : Text) (json : Json) : ((Json.setDefault fields key json).map Prod.fst).Nodup := by
  unfold Json.setDefault
  split
  · exact distinct
  · rename_i absent
    rw [List.map_append, List.nodup_append]
    refine ⟨distinct, List.nodup_cons.mpr ⟨List.not_mem_nil, List.nodup_nil⟩, ?_⟩
    rintro other member _ single rfl
    rw [List.map_singleton, List.mem_singleton] at single
    obtain ⟨field, inFields, rfl⟩ := List.mem_map.mp member
    refine absent (Option.isSome_iff_ne_none.mpr fun missing => ?_)
    exact bne_iff_ne.mp (List.lookup_eq_none_iff.mp missing field inFields) single.symm

/-- A dict gets a default in its place. -/
theorem Holds.getsDefault {heap : Heap} {low high address : ℕ} {fields : List (Text × Json)}
    (holds : Holds heap low high (.ref address) (.obj fields)) (key : Text) (leaf : Leaf) :
    ∃ after, setDefault heap (.ref address) key (.leaf leaf) = some after ∧
      Writes low high heap after ∧
      Holds after low high (.ref address) (.obj (Json.setDefault fields key leaf.json)) := by
  have isDict := holds
  cases holds with
  | @obj _ _ _ entries _ above below cell keys distinct each =>
    have some_iff := lookup_isSome_of_keys keys key
    have nodup := nodup_setDefault distinct key leaf.json
    unfold setDefault Json.setDefault
    unfold Json.setDefault at nodup
    rw [dictAt_ref cell]
    by_cases present : (fields.lookup key).isSome
    · refine ⟨heap, ?_, .refl _ _ _, by rwa [if_pos present]⟩
      show (if (entries.lookup key).isSome then _ else _) = _
      rw [some_iff, if_pos present]
    · rw [if_neg present] at nodup ⊢
      refine ⟨heap.set address (.obj (entries ++ [(key, .leaf leaf)])), ?_,
        writes_set heap _ above below, ?_⟩
      · show (if (entries.lookup key).isSome then _ else _) = _
        rw [some_iff, if_neg present]
      · have length : entries.length = fields.length := by
          have lengths := congrArg List.length keys
          rwa [List.length_map, List.length_map] at lengths
        refine .obj above below (List.getElem?_set_self (List.getElem?_eq_some_iff.mp cell).1)
          (by rw [List.map_append, List.map_append, keys]; rfl) nodup fun {entry field} member => ?_
        rw [List.zip_append length, List.mem_append] at member
        obtain old | new := member
        · exact (each old).congr fun other later _ => List.getElem?_set_ne (Nat.ne_of_lt later)
        · obtain ⟨rfl, rfl⟩ := Prod.mk.inj (List.mem_singleton.mp new)
          exact .leaf leaf

theorem Holds.getsDefaults {heap : Heap} {low high address : ℕ} {fields : List (Text × Json)}
    (holds : Holds heap low high (.ref address) (.obj fields)) (defaults : List (Text × Leaf)) :
    ∃ after, setDefaults heap (.ref address) defaults = some after ∧
      Writes low high heap after ∧
      Holds after low high (.ref address) (.obj (defaulted fields defaults)) := by
  induction defaults generalizing heap fields with
  | nil => exact ⟨heap, rfl, .refl _ _ _, holds⟩
  | cons entry rest inductionHypothesis =>
    obtain ⟨middle, set, first, there⟩ := holds.getsDefault entry.1 entry.2
    obtain ⟨after, sets, later, all⟩ := inductionHypothesis there
    refine ⟨after, ?_, first.trans later, all⟩
    rw [setDefaults, List.foldlM_cons, set]
    exact sets

/-! ### A dict of one's own is written to -/

theorem Apart.raise {Label : Type} {heap : Heap} {low high higher : ℕ}
    {entries : List (Label × Value)} {fields : List (Label × Json)}
    (apart : Apart heap low high entries fields) (up : high ≤ higher) :
    Apart heap low higher entries fields := by
  induction apart with
  | nil ordered => exact .nil (ordered.trans up)
  | cons ordered holds _ inductionHypothesis => exact .cons ordered holds (inductionHypothesis up)

/-- What refers to nothing can come in the place of an entry. -/
theorem Apart.replace {heap : Heap} {low high : ℕ} {entries : List (Text × Value)}
    {fields : List (Text × Json)} (apart : Apart heap low high entries fields) (key : Text)
    (leaf : Leaf) :
    Apart heap low high
      (entries.map fun entry => if entry.1 = key then (key, .leaf leaf) else entry)
      (fields.map fun field => if field.1 = key then (key, leaf.json) else field) := by
  induction apart with
  | nil ordered => exact .nil ordered
  | @cons low middle high label value json entries fields ordered holds rest inductionHypothesis =>
    rw [List.map_cons, List.map_cons]
    dsimp only
    by_cases same : label = key
    · rw [if_pos same, if_pos same]
      exact .cons ordered (.leaf leaf) inductionHypothesis
    · rw [if_neg same, if_neg same]
      exact .cons ordered holds inductionHypothesis

/-- An entry's range, in which it may be written to. -/
theorem Apart.focus {heap : Heap} {low high : ℕ} {entries : List (Text × Value)}
    {fields : List (Text × Json)} (apart : Apart heap low high entries fields)
    (distinct : (fields.map Prod.fst).Nodup) {key : Text} {json : Json}
    (found : fields.lookup key = some json) :
    ∃ value first last, entries.lookup key = some value ∧ low ≤ first ∧ last ≤ high ∧
      Holds heap first last value json ∧ ∀ after other, Writes first last heap after →
        Holds after first last value other →
        Apart after low high entries
          (fields.map fun field => if field.1 = key then (key, other) else field) := by
  induction apart with
  | nil => cases found
  | @cons low middle high label value field entries fields ordered holds rest inductionHypothesis =>
    rw [Json.lookup_cons_eq] at found
    rw [List.map_cons, List.nodup_cons] at distinct
    rw [Json.lookup_cons_eq]
    dsimp only at found distinct ⊢
    by_cases same : label = key
    · rw [if_pos same] at found
      cases found
      refine ⟨value, low, middle, if_pos same, Nat.le_refl _, rest.le, holds,
        fun after other writes changed => ?_⟩
      have untouched : (fields.map fun field => if field.1 = key then (key, other) else field) =
          fields := by
        refine (List.map_congr_left fun field member => if_neg ?_).trans (List.map_id' _)
        exact fun equal => distinct.1 (List.mem_map.mpr ⟨field, member, equal.trans same.symm⟩)
      rw [List.map_cons, untouched, if_pos same, same]
      exact .cons ordered changed (rest.congr fun address above _ =>
        writes.same address fun inside => Nat.lt_irrefl _ (Nat.lt_of_lt_of_le inside.2 above))
    · rw [if_neg same] at found
      obtain ⟨inner, first, last, looked, down, up, held, change⟩ :=
        inductionHypothesis distinct.2 found
      refine ⟨inner, first, last, by rwa [if_neg same], ordered.trans down, up, held,
        fun after other writes changed => ?_⟩
      rw [List.map_cons]
      dsimp only
      rw [if_neg same]
      exact .cons ordered (holds.congr fun address _ below => writes.same address fun inside =>
        Nat.lt_irrefl _ (Nat.lt_of_lt_of_le below (down.trans inside.1)))
        (change after other writes changed)

section Owns

variable {before heap : Heap} {address : ℕ} {fields : List (Text × Json)}

/-- Its cell can be written to with entries that lie apart as well. -/
theorem Owns.set (owns : Owns before heap address fields) (entries : List (Text × Value))
    {others : List (Text × Json)}
    (apart : Apart heap (address + 1) heap.length entries others)
    (distinct : (others.map Prod.fst).Nodup) :
    Owns before (heap.set address (.obj entries)) address others := by
  obtain ⟨_, extended, fresh, cell, _, _⟩ := owns
  refine .intro entries (prefix_set extended fresh) fresh
    (List.getElem?_set_self (List.getElem?_eq_some_iff.mp cell).1) ?_ distinct
  rw [List.length_set]
  exact apart.congr fun other later _ => List.getElem?_set_ne (Nat.ne_of_lt later)

theorem keys_setIn {Item : Type} (fields : List (Text × Item)) (key : Text) (item : Item) :
    (Json.setIn fields key item).map Prod.fst =
      if (fields.lookup key).isSome then fields.map Prod.fst else fields.map Prod.fst ++ [key] := by
  unfold Json.setIn
  split
  · rw [List.map_map]
    refine List.map_congr_left fun field _ => ?_
    show (if field.1 = key then (key, item) else field).1 = field.1
    split
    · rename_i same
      exact same.symm
    · rfl
  · rw [List.map_append]
    rfl

theorem Owns.setItem (owns : Owns before heap address fields) {key : Text}
    (present : (fields.lookup key).isSome = true) (leaf : Leaf) :
    ∃ after, ObjectStore.setItem heap (.ref address) key (.leaf leaf) = some after ∧
      Owns before after address (Json.setIn fields key leaf.json) := by
  have isOwn := owns
  obtain ⟨entries, extended, fresh, cell, apart, distinct⟩ := owns
  refine ⟨_, by rw [ObjectStore.setItem, dictAt_ref cell]; rfl, isOwn.set _ ?_ ?_⟩
  · unfold Json.setIn
    dsimp only
    rw [lookup_isSome_of_keys apart.labels key, if_pos present, if_pos present]
    exact apart.replace key leaf
  · rwa [keys_setIn, if_pos present]

/-- A dict that is not there yet is empty. -/
theorem Owns.setDefault_empty (owns : Owns before heap address fields) (key : Text) :
    ∃ after, setDefault (heap ++ [.obj []]) (.ref address) key (.ref heap.length) = some after ∧
      Owns before after address (Json.setDefault fields key (.obj [])) := by
  obtain ⟨entries, extended, fresh, cell, apart, distinct⟩ := owns
  have grown : heap <+: heap ++ [Cell.obj []] := List.prefix_append _ _
  have cell := getElem?_of_extended grown cell
  have length : (heap ++ [Cell.obj []]).length = heap.length + 1 := by
    rw [List.length_append, List.length_singleton]
  have apart : Apart (heap ++ [Cell.obj []]) (address + 1) heap.length entries fields :=
    apart.congr fun other _ below => List.getElem?_append_left below
  have raised := apart.raise grown.length_le
  have isOwn : Owns before (heap ++ [Cell.obj []]) address fields :=
    .intro entries (extended.trans grown) fresh cell raised distinct
  have known := lookup_isSome_of_keys apart.labels key
  have nodup := nodup_setDefault distinct key (.obj [])
  unfold setDefault Json.setDefault
  unfold Json.setDefault at nodup
  rw [dictAt_ref cell]
  by_cases present : (fields.lookup key).isSome
  · refine ⟨_, ?_, by rwa [if_pos present]⟩
    show (if (entries.lookup key).isSome then _ else _) = _
    rw [known, if_pos present]
  · rw [if_neg present] at nodup ⊢
    refine ⟨_, ?_, isOwn.set (entries ++ [(key, .ref heap.length)]) ?_ nodup⟩
    · show (if (entries.lookup key).isSome then _ else _) = _
      rw [known, if_neg present]
    · have empty : (heap ++ [Cell.obj []])[heap.length]? = some (.obj []) := by
        rw [List.getElem?_append_right (Nat.le_refl _), Nat.sub_self]
        rfl
      rw [length]
      exact apart.append (Nat.le_succ _) (.obj (Nat.le_refl _) (Nat.lt_succ_self _) empty rfl
        List.nodup_nil fun member => absurd member List.not_mem_nil)

/-- What lies under a key can be written to within its own cells. -/
theorem Owns.focus (owns : Owns before heap address fields) {key : Text} {json : Json}
    (found : fields.lookup key = some json) :
    ∃ value first last, getItem heap (.ref address) key = some value ∧
      Holds heap first last value json ∧ ∀ after other, Writes first last heap after →
        Holds after first last value other → Owns before after address (Json.setIn fields key other) := by
  obtain ⟨entries, extended, fresh, cell, apart, distinct⟩ := owns
  obtain ⟨value, first, last, looked, down, up, held, change⟩ := apart.focus distinct found
  have present : (fields.lookup key).isSome = true := by rw [found]; rfl
  refine ⟨value, first, last, ?_, held, fun after other writes changed => ?_⟩
  · rw [getItem, dictAt_ref cell]
    exact looked
  · refine .intro entries
      (writes.extended extended (fresh.trans ((Nat.le_succ _).trans down))) fresh ?_ ?_ ?_
    · rw [writes.same address fun inside => Nat.lt_irrefl _ (Nat.lt_of_lt_of_le down inside.1), cell]
    · rw [writes.length, Json.setIn, if_pos present]
      exact change after other writes changed
    · rwa [keys_setIn, if_pos present]

end Owns

end ObjectStore

end LocalGpuCluster
