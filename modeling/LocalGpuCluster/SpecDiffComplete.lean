/-
This file proves when the diff is complete. It reports no change between the same documents and some
change between others wherever it can match what it compares: keys that sort, names that are written
and all different, no null against an absent key, no lists of named objects out of its reach. What it
compares is silent when it never reports a change and loud when it always does.
-/

import LocalGpuCluster.SpecDiffSame

namespace LocalGpuCluster

namespace VcfSpec

/-! ### What can be compared -/

inductive Kind where
  | scalar
  | list
  | dict
  deriving DecidableEq, Repr

def Value.kind : Value → Kind
  | .scalar _ => .scalar
  | .list _ => .list
  | .dict _ => .dict

/-- The keys of both sides, once each. -/
def keysOfBoth (left right : Mapping) : List Scalar :=
  left.map Prod.fst ++
    (right.filter fun entry => !left.any fun other => other.1.same entry.1).map Prod.fst

/-- The diff can match what it compares, here and in what it goes on to compare. -/
inductive Comparable : Value → Value → Prop
  /-- Not-a-number differs from itself. -/
  | scalars {left right : Scalar} (number : left.isNaN = true → right.isNaN = false) :
      Comparable (.scalar left) (.scalar right)
  /-- The keys sort and can be written, and none is null on one side and absent on the other. -/
  | dicts {left right : List (Scalar × Value)} (sorts : sortable (keysOfBoth left right) = true)
      (writable : ∀ key ∈ keysOfBoth left right, key.tooLong = false)
      (absentLeft : ∀ entry ∈ right, (∀ other ∈ left, other.1.same entry.1 = false) →
        entry.2 ≠ .null)
      (absentRight : ∀ entry ∈ left, (∀ other ∈ right, entry.1.same other.1 = false) →
        entry.2 ≠ .null)
      (common : ∀ entry ∈ left, ∀ other ∈ right, entry.1.same other.1 = true →
        Comparable entry.2 other.2) : Comparable (.dict left) (.dict right)
  /-- The items are objects with names that can be written and differ on each side; where an item
  has no name, the items that match come in the same order. -/
  | keyed {left right : List Value} {key : Text}
      (chosen : (listKey left).or (listKey right) = some key)
      (objects : ∀ item ∈ left ++ right, item.kind = .dict)
      (named : ∀ item ∈ left ++ right,
        item.asMapping.at (.str key) = .scalar (nameOf key item) ∧ (nameOf key item).tooLong = false)
      (distinctLeft : (namesOf key left).Nodup) (distinctRight : (namesOf key right).Nodup)
      (nameless : (∀ item ∈ left, hasKey key item = true) ∨
        ((namesOf key left).Perm (namesOf key right) → namesOf key left = namesOf key right))
      (common : ∀ item ∈ left, ∀ other ∈ right, (nameOf key item).same (nameOf key other) = true →
        Comparable item other) : Comparable (.list left) (.list right)
  /-- One of the two holds no list that can be reordered. -/
  | whole {left right : List Value} (chosen : (listKey left).or (listKey right) = none)
      (plain : (∀ item ∈ left, Plain item) ∨ ∀ item ∈ right, Plain item) :
      Comparable (.list left) (.list right)
  | apart {left right : Value} (kinds : left.kind ≠ right.kind) : Comparable left right

/-! ### Comparisons -/

/-- It returns. -/
def Total (compare : Comparison) : Prop :=
  ∀ path budget, budget.truncated = false → ∃ changes after, compare path budget = .ok (changes, after)

/-- Whenever it returns with the budget not spent, it reports what `reports` says. -/
def Reports (reports : List Change → Prop) (compare : Comparison) : Prop :=
  ∀ path budget changes after, budget.truncated = false → compare path budget = .ok (changes, after) →
    after.truncated = false → reports changes

abbrev Silent (compare : Comparison) : Prop := Reports (· = []) compare
abbrev Loud (compare : Comparison) : Prop := Reports (· ≠ []) compare

/-- The comparison returns, and reports a change when the proposition is false only. -/
structure Decides (compare : Comparison) (same : Prop) : Prop where
  total : Total compare
  silent : same → Silent compare
  loud : ¬same → Loud compare

theorem Decides.congr {compare : Comparison} {same other : Prop} (decides : Decides compare same)
    (iff : same ↔ other) : Decides compare other where
  total := decides.total
  silent holds := decides.silent (iff.mpr holds)
  loud fails := decides.loud fun holds => fails (iff.mp holds)

/-- A change of a leaf is reported, or the budget is spent. -/
theorem decides_diffLeaf (left right : Value) :
    Decides (diffLeaf left right) (left.equal right = true) where
  total path budget open_ := by
    unfold diffLeaf
    rw [open_, if_neg Bool.false_ne_true]
    split
    · exact ⟨_, _, rfl⟩
    · exact ⟨_, _, rfl⟩
  silent equal path budget changes after open_ ran _ := by
    unfold diffLeaf at ran
    rw [open_, if_neg Bool.false_ne_true, if_pos equal] at ran
    cases ran
    rfl
  loud differs path budget changes after open_ ran unspent := by
    unfold diffLeaf at ran
    rw [open_, if_neg Bool.false_ne_true, if_neg differs] at ran
    by_cases spent : budget.changes ≥ maxChanges || budget.chars + (path.length + 32) > maxChangeChars
    · rw [emit, Budget.take, if_pos spent] at ran
      cases ran
      cases unspent
    · rw [emit, Budget.take, if_neg spent] at ran
      cases ran
      exact List.cons_ne_nil _ _

/-! ### The loop -/

/-- One round of the loop, and the rest of it while the budget is not spent. -/
theorem diffLoop_cons_eq_ok {runtime : Runtime} {path : Text} {key : Scalar} {compare : Comparison}
    {rest : List (Scalar × Comparison)} {budget after : Budget} {changes : List Change} :
    diffLoop runtime path ((key, compare) :: rest) budget = .ok (changes, after) ↔
      key.tooLong = false ∧ ∃ first middle,
        compare (path ++ slash :: runtime.toBuiltins.str (.scalar key)) budget =
          .ok (first, middle) ∧
        ((middle.truncated = true ∧ changes = first ∧ after = middle) ∨
          (middle.truncated = false ∧ ∃ more, diffLoop runtime path rest middle = .ok (more, after) ∧
            changes = first ++ more)) := by
  rw [diffLoop, Run.bind_eq_ok]
  simp only [Runtime.str_eq_ok, Value.tooLong, and_assoc, exists_and_left, exists_eq_left',
    Run.bind_eq_ok, Prod.exists]
  refine and_congr_right fun _ => exists_congr fun first => exists_congr fun middle =>
    and_congr_right fun _ => ?_
  cases middle.truncated with
  | true =>
    constructor
    · intro ran
      cases ran
      exact Or.inl ⟨rfl, rfl, rfl⟩
    · rintro (⟨_, rfl, rfl⟩ | ⟨closed, _⟩)
      · rfl
      · cases closed
  | false =>
    constructor
    · intro ran
      obtain ⟨⟨more, last⟩, further, same⟩ := Run.bind_eq_ok.mp ran
      cases same
      exact Or.inr ⟨rfl, more, further, rfl⟩
    · rintro (⟨closed, _⟩ | ⟨_, more, further, rfl⟩)
      · cases closed
      · exact Run.bind_eq_ok.mpr ⟨(more, after), further, rfl⟩

theorem total_diffLoop {runtime : Runtime} {pairs : List (Scalar × Comparison)}
    (writable : ∀ pair ∈ pairs, pair.1.tooLong = false) (total : ∀ pair ∈ pairs, Total pair.2) :
    Total fun path => diffLoop runtime path pairs := by
  induction pairs with
  | nil => exact fun path budget _ => ⟨_, _, rfl⟩
  | cons pair rest inductionHypothesis =>
    obtain ⟨short, shorts⟩ := List.forall_mem_cons.mp writable
    obtain ⟨first_total, rest_total⟩ := List.forall_mem_cons.mp total
    intro path budget unspent
    obtain ⟨first, middle, ran⟩ := first_total _ budget unspent
    cases spent : middle.truncated with
    | true => exact ⟨_, _, diffLoop_cons_eq_ok.mpr ⟨short, _, _, ran, Or.inl ⟨spent, rfl, rfl⟩⟩⟩
    | false =>
      obtain ⟨more, after, further⟩ := inductionHypothesis shorts rest_total path middle spent
      exact ⟨_, _, diffLoop_cons_eq_ok.mpr ⟨short, _, _, ran, Or.inr ⟨spent, _, further, rfl⟩⟩⟩

theorem silent_diffLoop {runtime : Runtime} {pairs : List (Scalar × Comparison)}
    (silent : ∀ pair ∈ pairs, Silent pair.2) : Silent fun path => diffLoop runtime path pairs := by
  induction pairs with
  | nil =>
    intro path budget changes after _ ran _
    cases ran
    rfl
  | cons pair rest inductionHypothesis =>
    obtain ⟨first_silent, rest_silent⟩ := List.forall_mem_cons.mp silent
    intro path budget changes after unspent ran left
    obtain ⟨_, first, middle, compared, ⟨spent, _, rfl⟩ | ⟨open_, more, further, rfl⟩⟩ :=
      diffLoop_cons_eq_ok.mp ran
    · exact absurd left (by rw [spent]; decide)
    · rw [first_silent _ _ _ _ unspent compared open_,
        inductionHypothesis rest_silent _ _ _ _ open_ further left]
      rfl

/-- One loud comparison is heard, whatever the others report. -/
theorem loud_diffLoop {runtime : Runtime} {pairs : List (Scalar × Comparison)}
    (loud : ∃ pair ∈ pairs, Loud pair.2) : Loud fun path => diffLoop runtime path pairs := by
  induction pairs with
  | nil =>
    obtain ⟨pair, member, _⟩ := loud
    exact absurd member List.not_mem_nil
  | cons pair rest inductionHypothesis =>
    intro path budget changes after unspent ran left
    obtain ⟨_, first, middle, compared, ⟨spent, _, rfl⟩ | ⟨open_, more, further, rfl⟩⟩ :=
      diffLoop_cons_eq_ok.mp ran
    · exact absurd left (by rw [spent]; decide)
    · intro empty
      obtain ⟨none_first, none_more⟩ := List.append_eq_nil_iff.mp empty
      obtain ⟨other, member, isLoud⟩ := loud
      obtain rfl | inRest := List.mem_cons.mp member
      · exact isLoud _ _ _ _ unspent compared open_ none_first
      · exact inductionHypothesis ⟨other, inRest, isLoud⟩ _ _ _ _ open_ further left none_more

/-! ### Entries -/

theorem diffEntries_eq_map (runtime : Runtime) (entries : List (Scalar × Value)) :
    diffEntries runtime entries = entries.map fun entry => (entry.1, diff runtime entry.2) := by
  induction entries with
  | nil => rfl
  | cons entry rest inductionHypothesis =>
    rw [diffEntries, inductionHypothesis]
    rfl

theorem diffItems_eq_map (runtime : Runtime) (items : List Value) :
    diffItems runtime items = items.map fun item => (item, diff runtime item) := by
  induction items with
  | nil => rfl
  | cons item rest inductionHypothesis =>
    rw [diffItems, inductionHypothesis]
    rfl

/-- A pair is about an entry of the left, or about one of the right whose key is not there. -/
theorem mem_pairUp {runtime : Runtime} {left right : Mapping} {pair : Scalar × Comparison} :
    pair ∈ pairUp (diffEntries runtime left) right ↔
      (∃ entry ∈ left, (entry.1, diff runtime entry.2 (right.at entry.1)) = pair) ∨
        ∃ other ∈ right, (∀ entry ∈ left, entry.1.same other.1 = false) ∧
          (other.1, diffLeaf .null other.2) = pair := by
  rw [pairUp, diffEntries_eq_map, List.mem_append, List.map_map, List.mem_map, List.mem_map]
  simp only [List.mem_filter, Bool.not_eq_true', List.any_map, List.any_eq_false, and_assoc,
    Function.comp_apply, Bool.not_eq_true]

theorem keys_pairUp (runtime : Runtime) (left right : Mapping) :
    (pairUp (diffEntries runtime left) right).map Prod.fst = keysOfBoth left right := by
  rw [pairUp, diffEntries_eq_map, keysOfBoth, List.map_append, List.map_map, List.map_map,
    List.map_map]
  simp only [List.any_map]
  rfl

/-- Values of different kinds, and scalars, are compared as a whole. -/
theorem diff_eq_diffLeaf {runtime : Runtime} {left right : Value}
    (leaf : left.kind ≠ right.kind ∨ left.kind = .scalar) :
    diff runtime left right = diffLeaf left right := by
  cases left <;> cases right <;> first
    | rfl
    | exact absurd rfl (leaf.resolve_right Kind.noConfusion)

theorem equal_null {value : Value} (present : value ≠ .null) :
    value.equal .null = false ∧ Value.equal .null value = false := by
  cases value with
  | list | dict => exact ⟨rfl, rfl⟩
  | scalar value =>
    have differs : value.canonical ≠ Scalar.null := by
      cases value with
      | null => exact absurd rfl present
      | float value =>
        unfold Scalar.canonical
        dsimp only
        split <;> exact Scalar.noConfusion
      | _ => exact Scalar.noConfusion
    have forth : value.same .null = false := Scalar.same_eq_false.mpr differs
    have back : Scalar.same .null value = false := Scalar.same_eq_false.mpr differs.symm
    refine ⟨?_, ?_⟩
    · show (!value.isNaN && value.same .null) = false
      rw [forth, Bool.and_false]
    · exact back

/-- What was there and is absent now has changed. -/
theorem decides_dropped {runtime : Runtime} {value : Value} (present : value ≠ .null) :
    Decides (diff runtime value .null) False := by
  have leaf : diff runtime value .null = diffLeaf value .null := by
    cases value with
    | scalar => exact diff_eq_diffLeaf (Or.inr rfl)
    | list | dict => exact diff_eq_diffLeaf (Or.inl Kind.noConfusion)
  rw [leaf]
  exact (decides_diffLeaf _ _).congr (by rw [(equal_null present).1]; decide)

/-- What was absent and is there now has changed. -/
theorem decides_added {value : Value} (present : value ≠ .null) :
    Decides (diffLeaf .null value) False :=
  (decides_diffLeaf _ _).congr (by rw [(equal_null present).2]; decide)

section

variable {runtime : Runtime} {left right : Mapping}

/-- What the comparisons of two mappings decide, in whatever order they run. -/
theorem decides_pairs
    (rightDistinct : (right.map fun entry => entry.1.canonical).Nodup)
    (writable : ∀ key ∈ keysOfBoth left right, key.tooLong = false)
    (absentLeft : ∀ entry ∈ right, (∀ other ∈ left, other.1.same entry.1 = false) →
      entry.2 ≠ .null)
    (absentRight : ∀ entry ∈ left, (∀ other ∈ right, entry.1.same other.1 = false) →
      entry.2 ≠ .null)
    (common : ∀ entry ∈ left, ∀ other ∈ right, entry.1.same other.1 = true →
      Decides (diff runtime entry.2 other.2) (Same entry.2 other.2))
    {pairs : List (Scalar × Comparison)}
    (perm : pairs.Perm (pairUp (diffEntries runtime left) right)) :
    Decides (fun path => diffLoop runtime path pairs) (Aligned left right) := by
  have ofLeft : ∀ entry ∈ left, (∃ other ∈ right, entry.1.canonical = other.1.canonical ∧
      Mapping.at right entry.1 = other.2 ∧
        Decides (diff runtime entry.2 (Mapping.at right entry.1)) (Same entry.2 other.2)) ∨
      (∀ other ∈ right, entry.1.canonical ≠ other.1.canonical) ∧
        Decides (diff runtime entry.2 (Mapping.at right entry.1)) False := by
    intro entry member
    by_cases partner : ∃ other ∈ right, entry.1.canonical = other.1.canonical
    · obtain ⟨other, inRight, same⟩ := partner
      have found := Mapping.at_of_mem rightDistinct inRight same
      rw [found]
      exact Or.inl ⟨other, inRight, same, rfl,
        common entry member other inRight (Scalar.same_iff.mpr same)⟩
    · have alone : ∀ other ∈ right, entry.1.canonical ≠ other.1.canonical :=
        fun other inRight same => partner ⟨other, inRight, same⟩
      have absent : ∀ other ∈ right, entry.1.same other.1 = false := fun other inRight =>
        Scalar.same_eq_false.mpr (alone other inRight)
      rw [Mapping.at_of_absent absent]
      exact Or.inr ⟨alone, decides_dropped (absentRight entry member absent)⟩
  have ofRight : ∀ other ∈ right, (∀ entry ∈ left, entry.1.same other.1 = false) →
      Decides (diffLeaf .null other.2) False := fun other inRight absent =>
    decides_added (absentLeft other inRight absent)
  refine ⟨total_diffLoop ?_ ?_, fun aligned => silent_diffLoop ?_, fun apart => loud_diffLoop ?_⟩
  · intro pair member
    refine writable pair.1 ?_
    rw [← keys_pairUp runtime]
    exact List.mem_map_of_mem (perm.mem_iff.mp member)
  · intro pair member
    obtain ⟨entry, inLeft, rfl⟩ | ⟨other, inRight, absent, rfl⟩ := mem_pairUp.mp (perm.mem_iff.mp member)
    · exact (ofLeft entry inLeft).elim (fun ⟨_, _, _, _, decides⟩ => decides.total)
        fun ⟨_, decides⟩ => decides.total
    · exact (ofRight other inRight absent).total
  · intro pair member
    obtain ⟨entry, inLeft, rfl⟩ | ⟨other, inRight, absent, rfl⟩ := mem_pairUp.mp (perm.mem_iff.mp member)
    · obtain ⟨partner, inRight, same, values⟩ := aligned.1 entry inLeft
      obtain ⟨other, _, _, found, decides⟩ | ⟨alone, _⟩ := ofLeft entry inLeft
      · rw [Mapping.at_of_mem rightDistinct inRight same] at found
        exact decides.silent (found ▸ values)
      · exact absurd same (alone partner inRight)
    · obtain ⟨entry, inLeft, same⟩ := aligned.2 other inRight
      exact absurd same (Scalar.same_eq_false.mp (absent entry inLeft))
  · have heard : ∃ pair ∈ pairUp (diffEntries runtime left) right, Loud pair.2 := by
      obtain unmatched | unmatched := not_and_or.mp apart
      · push Not at unmatched
        obtain ⟨entry, inLeft, differs⟩ := unmatched
        refine ⟨_, mem_pairUp.mpr (Or.inl ⟨entry, inLeft, rfl⟩), ?_⟩
        obtain ⟨other, inRight, same, _, decides⟩ | ⟨_, decides⟩ := ofLeft entry inLeft
        · exact decides.loud (differs other inRight same)
        · exact decides.loud id
      · push Not at unmatched
        obtain ⟨other, inRight, differs⟩ := unmatched
        have absent : ∀ entry ∈ left, entry.1.same other.1 = false := fun entry inLeft =>
          Scalar.same_eq_false.mpr (differs entry inLeft)
        exact ⟨_, mem_pairUp.mpr (Or.inr ⟨other, inRight, absent, rfl⟩),
          (ofRight other inRight absent).loud id⟩
    obtain ⟨pair, member, loud⟩ := heard
    exact ⟨pair, perm.mem_iff.mpr member, loud⟩

end

/-! ### Sorting and naming -/

theorem sortByKey_eq_ok {pairs : List (Scalar × Comparison)}
    (sorts : sortable (pairs.map Prod.fst) = true) :
    ∃ sorted, sortByKey pairs = .ok sorted ∧ sorted.Perm pairs := by
  rw [sortByKey, if_pos sorts]
  exact ⟨_, rfl, List.perm_insertionSort _ _⟩

theorem sortByName_eq_ok {runtime : Runtime} {pairs : List (Scalar × Comparison)}
    (writable : ∀ pair ∈ pairs, pair.1.tooLong = false) :
    ∃ sorted, sortByName runtime pairs = .ok sorted ∧ sorted.Perm pairs := by
  let named (pair : Scalar × Comparison) : Text × Scalar × Comparison :=
    (runtime.toBuiltins.str (.scalar pair.1), pair)
  have written : pairs.mapM (fun pair => do
      pure (← runtime.str (.scalar pair.1), pair) : _ → Run (Text × Scalar × Comparison)) =
        .ok (pairs.map named) := by
    induction pairs with
    | nil => rfl
    | cons pair rest inductionHypothesis =>
      obtain ⟨short, shorts⟩ := List.forall_mem_cons.mp writable
      have first : runtime.str (.scalar pair.1) = .ok (runtime.toBuiltins.str (.scalar pair.1)) :=
        Runtime.str_eq_ok.mpr ⟨short, rfl⟩
      rw [List.mapM_cons, inductionHypothesis shorts, first]
      rfl
  have stripped : (pairs.map named).map Prod.snd = pairs := by
    rw [List.map_map]
    exact List.map_id _
  rw [sortByName, written]
  exact ⟨_, rfl, ((List.perm_insertionSort _ (pairs.map named)).map Prod.snd).trans (.of_eq stripped)⟩

/-- Objects with different names are all kept, in their order. -/
theorem byName_eq_ok {Payload : Type} {key : Text} {items : List (Value × Payload)}
    (objects : ∀ item ∈ items, item.1.kind = .dict)
    (named : ∀ item ∈ items, item.1.asMapping.at (.str key) = .scalar (nameOf key item.1))
    (distinct : (items.map fun item => (nameOf key item.1).canonical).Nodup) :
    byName key items = .ok (items.map fun item => (nameOf key item.1, item.2)) := by
  suffices general : ∀ before : List (Scalar × Payload),
      ((before.map fun other => other.1.canonical) ++
        items.map fun item => (nameOf key item.1).canonical).Nodup →
      items.foldlM (nameItem key) before =
        .ok (before ++ items.map fun item => (nameOf key item.1, item.2)) by
    exact general [] distinct
  clear distinct
  induction items with
  | nil => exact fun before _ => congrArg Except.ok (List.append_nil before).symm
  | cons item rest inductionHypothesis =>
    intro before distinct
    obtain ⟨object, otherObjects⟩ := List.forall_mem_cons.mp objects
    obtain ⟨name, names⟩ := List.forall_mem_cons.mp named
    have fresh : (before.any fun other => other.1.same (nameOf key item.1)) = false := by
      refine List.any_eq_false.mpr fun other member => ?_
      rw [Bool.not_eq_true, Scalar.same_eq_false]
      exact (List.nodup_append.mp distinct).2.2 _ (List.mem_map_of_mem member) _ List.mem_cons_self
    have step : nameItem key before item = .ok (before ++ [(nameOf key item.1, item.2)]) := by
      obtain ⟨item, payload⟩ := item
      cases item with
      | scalar | list => cases object
      | dict entries =>
        rw [nameItem]
        dsimp only
        rw [show Mapping.at entries (.str key) = _ from name]
        exact congrArg Except.ok (if_neg (by rw [fresh]; exact Bool.false_ne_true))
    rw [List.foldlM_cons, step]
    show rest.foldlM (nameItem key) (before ++ [(nameOf key item.1, item.2)]) = _
    rw [inductionHypothesis otherObjects names, List.append_assoc]
    · rfl
    · rw [List.map_append, List.append_assoc]
      exact distinct

/-! ### The whole diff -/

theorem Decides.of_eq {compare other : Comparison} {same : Prop} (decides : Decides other same)
    (equal : ∀ path budget, budget.truncated = false → compare path budget = other path budget) :
    Decides compare same where
  total path budget unspent := equal path budget unspent ▸ decides.total path budget unspent
  silent holds path budget changes after unspent ran :=
    decides.silent holds path budget changes after unspent (equal path budget unspent ▸ ran)
  loud fails path budget changes after unspent ran :=
    decides.loud fails path budget changes after unspent (equal path budget unspent ▸ ran)

/-- A list whose first item has no name cannot be reordered. -/
theorem fixed_of_listKey {items : List Value} (chosen : listKey items = none) :
    items.length ≤ 1 ∨ ¬Reorderable items := by
  cases items with
  | nil => exact Or.inl (Nat.zero_le 1)
  | cons item rest =>
    refine Or.inr fun ⟨key, isKey, everywhere⟩ => ?_
    exact List.find?_eq_none.mp chosen key isKey (everywhere item List.mem_cons_self)

theorem mem_listKeys {items : List Value} {key : Text} (chosen : listKey items = some key) :
    key ∈ listKeys := by
  cases items with
  | nil => cases chosen
  | cons item rest =>
    rw [listKey] at chosen
    exact List.mem_of_find?_eq_some chosen

theorem Scalar.isNaN_canonical (value : Scalar) : value.canonical.isNaN = value.isNaN := by
  cases value with
  | float value =>
    unfold Scalar.canonical
    dsimp only
    cases whole : value.asInteger with
    | none => rfl
    | some integer =>
      unfold Double.asInteger at whole
      show false = value.unpack.isNaN
      cases unpacked : value.unpack with
      | notANumber =>
        rw [unpacked] at whole
        cases whole
      | _ => rfl
  | _ => rfl

theorem Scalar.isNaN_congr {left right : Scalar} (same : left.same right = true) :
    left.isNaN = right.isNaN := by
  rw [← left.isNaN_canonical, ← right.isNaN_canonical, Scalar.same_iff.mp same]

theorem equal_scalar_iff {left right : Scalar} (number : left.isNaN = true → right.isNaN = false) :
    Value.equal (.scalar left) (.scalar right) = true ↔ Same (.scalar left) (.scalar right) := by
  have same_iff : Same (.scalar left) (.scalar right) ↔ left.same right = true :=
    ⟨fun same => by cases same with | scalar equal => exact equal, .scalar⟩
  rw [same_iff]
  show (!left.isNaN && left.same right) = true ↔ _
  rw [Bool.and_eq_true, Bool.not_eq_true']
  refine and_iff_right_of_imp fun same => ?_
  by_contra nan
  have nan := Bool.eq_true_of_not_eq_false nan
  have other := number nan
  rw [← Scalar.isNaN_congr same, nan] at other
  cases other

theorem decides_diff_dict {runtime : Runtime} {left right : Mapping}
    (leftKeys : (left.map fun entry => entry.1.canonical).Nodup)
    (rightKeys : (right.map fun entry => entry.1.canonical).Nodup)
    (comparable : Comparable (.dict left) (.dict right))
    (common : ∀ entry ∈ left, ∀ other ∈ right, Comparable entry.2 other.2 →
      Decides (diff runtime entry.2 other.2) (Same entry.2 other.2)) :
    Decides (diff runtime (.dict left) (.dict right)) (Same (.dict left) (.dict right)) := by
  cases comparable with
  | apart kinds => exact absurd rfl kinds
  | dicts sorts writable absentLeft absentRight children =>
    rw [← keys_pairUp runtime] at sorts
    obtain ⟨pairs, sorted, perm⟩ := sortByKey_eq_ok sorts
    have decides := decides_pairs rightKeys writable absentLeft absentRight
      (fun entry inLeft other inRight same =>
        common entry inLeft other inRight (children entry inLeft other inRight same)) perm
    refine (decides.congr (same_dict_iff leftKeys rightKeys).symm).of_eq fun path budget unspent => ?_
    rw [diff]
    dsimp only
    rw [unspent, if_neg Bool.false_ne_true, sorted]
    rfl

/-! ### Lists -/

section Named

variable {key : Text} {items left right : List Value}

/-- The loop over the items of a list files them under their names. -/
theorem byName_items {Payload : Type} (payload : Value → Payload)
    (objects : ∀ item ∈ items, item.kind = .dict)
    (named : ∀ item ∈ items,
      item.asMapping.at (.str key) = .scalar (nameOf key item) ∧ (nameOf key item).tooLong = false)
    (distinct : (namesOf key items).Nodup) :
    byName key (items.map fun item => (item, payload item)) =
      .ok (items.map fun item => (nameOf key item, payload item)) := by
  rw [byName_eq_ok, List.map_map]
  · rfl
  · exact List.forall_mem_map.mpr objects
  · exact List.forall_mem_map.mpr fun item member => (named item member).1
  · rw [List.map_map]
    exact distinct

theorem namedBy_ne_null (objects : ∀ item ∈ items, item.kind = .dict) :
    ∀ entry ∈ namedBy key items, entry.2 ≠ .null := by
  intro entry member isNull
  obtain ⟨item, inItems, rfl⟩ := List.mem_map.mp member
  have object := objects item inItems
  rw [show item = .null from isNull] at object
  cases object

theorem writable_namedBy (writable : ∀ item ∈ left ++ right, (nameOf key item).tooLong = false) :
    ∀ name ∈ keysOfBoth (namedBy key left) (namedBy key right), name.tooLong = false := by
  intro name member
  obtain inLeft | inRight := List.mem_append.mp member
  · obtain ⟨_, inNamed, rfl⟩ := List.mem_map.mp inLeft
    obtain ⟨item, inItems, rfl⟩ := List.mem_map.mp inNamed
    exact writable item (List.mem_append_left _ inItems)
  · obtain ⟨_, inNamed, rfl⟩ := List.mem_map.mp inRight
    obtain ⟨item, inItems, rfl⟩ := List.mem_map.mp (List.mem_of_mem_filter inNamed)
    exact writable item (List.mem_append_right _ inItems)

/-- Keys that can be written can be sorted by what is written of them. -/
theorem sortByName_pairUp (runtime : Runtime) {left right : Mapping}
    (writable : ∀ name ∈ keysOfBoth left right, name.tooLong = false) :
    ∃ sorted, sortByName runtime (pairUp (diffEntries runtime left) right) = .ok sorted ∧
      sorted.Perm (pairUp (diffEntries runtime left) right) := by
  refine sortByName_eq_ok fun pair member => writable pair.1 ?_
  rw [← keys_pairUp runtime]
  exact List.mem_map_of_mem member

end Named

/-- Lists that are compared as a whole. -/
theorem decides_diff_whole {runtime : Runtime} {left right : List Value}
    (leftItems : ∀ item ∈ left, Distinct item) (rightItems : ∀ item ∈ right, Distinct item)
    (chosen : (listKey left).or (listKey right) = none)
    (plain : (∀ item ∈ left, Plain item) ∨ ∀ item ∈ right, Plain item) :
    Decides (diff runtime (.list left) (.list right)) (Same (.list left) (.list right)) := by
  obtain ⟨leftChosen, rightChosen⟩ := Option.or_eq_none_iff.mp chosen
  have leftFixed := fixed_of_listKey leftChosen
  have rightFixed := fixed_of_listKey rightChosen
  have equal : Value.equal (.list left) (.list right) = true ↔ Same (.list left) (.list right) :=
    ⟨same_of_valueSame (.list leftItems) (.list rightItems),
      valueSame_of_same (.list leftItems) (.list rightItems)
        (plain.imp (.list leftFixed) (.list rightFixed))⟩
  refine ((decides_diffLeaf _ _).congr equal).of_eq fun path budget unspent => ?_
  rw [diff]
  dsimp only
  rw [unspent, if_neg Bool.false_ne_true, chosen]

/-- Lists whose items are matched by name. -/
theorem decides_diff_named {runtime : Runtime} {left right : List Value} {key : Text}
    (leftItems : ∀ item ∈ left, Distinct item) (rightItems : ∀ item ∈ right, Distinct item)
    (chosen : (listKey left).or (listKey right) = some key)
    (objects : ∀ item ∈ left ++ right, item.kind = .dict)
    (named : ∀ item ∈ left ++ right,
      item.asMapping.at (.str key) = .scalar (nameOf key item) ∧ (nameOf key item).tooLong = false)
    (distinctLeft : (namesOf key left).Nodup) (distinctRight : (namesOf key right).Nodup)
    (nameless : (∀ item ∈ left, hasKey key item = true) ∨
      ((namesOf key left).Perm (namesOf key right) → namesOf key left = namesOf key right))
    (common : ∀ item ∈ left, ∀ other ∈ right, (nameOf key item).same (nameOf key other) = true →
      Decides (diff runtime item other) (Same item other)) :
    Decides (diff runtime (.list left) (.list right)) (Same (.list left) (.list right)) := by
  obtain ⟨leftObjects, rightObjects⟩ := List.forall_mem_append.mp objects
  obtain ⟨leftNamed, rightNamed⟩ := List.forall_mem_append.mp named
  have lefts : byName key (diffItems runtime left) =
      .ok (diffEntries runtime (namedBy key left)) := by
    rw [diffItems_eq_map, byName_items _ leftObjects leftNamed distinctLeft, diffEntries_eq_map,
      namedBy, List.map_map]
    rfl
  have rights : byName key (right.map fun item => (item, item)) = .ok (namedBy key right) :=
    byName_items id rightObjects rightNamed distinctRight
  have isKey : key ∈ listKeys := by
    obtain found | found := Option.or_eq_some_iff.mp chosen
    · exact mem_listKeys found
    · exact mem_listKeys found.2
  have writable := writable_namedBy fun item member => (named item member).2
  obtain ⟨pairs, sorted, perm⟩ := sortByName_pairUp runtime writable
  have decides := decides_pairs ((keys_namedBy key right).symm ▸ distinctRight) writable
    (fun entry inRight _ => namedBy_ne_null rightObjects entry inRight)
    (fun entry inLeft _ => namedBy_ne_null leftObjects entry inLeft)
    (List.forall_mem_map.mpr fun item inLeft => List.forall_mem_map.mpr fun other inRight same =>
      common item inLeft other inRight same) perm
  refine (decides.congr (same_list_iff isKey leftItems rightItems distinctLeft distinctRight
    nameless).symm).of_eq fun path budget unspent => ?_
  rw [diff]
  dsimp only
  rw [unspent, if_neg Bool.false_ne_true, chosen]
  dsimp only
  rw [lefts, rights]
  show (sortByName runtime _ >>= _) = _
  rw [sorted]
  rfl

theorem decides_diff_list {runtime : Runtime} {left right : List Value}
    (leftItems : ∀ item ∈ left, Distinct item) (rightItems : ∀ item ∈ right, Distinct item)
    (comparable : Comparable (.list left) (.list right))
    (common : ∀ item ∈ left, ∀ other ∈ right, Comparable item other →
      Decides (diff runtime item other) (Same item other)) :
    Decides (diff runtime (.list left) (.list right)) (Same (.list left) (.list right)) := by
  cases comparable with
  | apart kinds => exact absurd rfl kinds
  | whole chosen plain => exact decides_diff_whole leftItems rightItems chosen plain
  | keyed chosen objects named distinctLeft distinctRight nameless children =>
    exact decides_diff_named leftItems rightItems chosen objects named distinctLeft distinctRight
      nameless fun item inLeft other inRight same =>
        common item inLeft other inRight (children item inLeft other inRight same)

theorem decides_diff {runtime : Runtime} {left right : Value} (leftDistinct : Distinct left)
    (rightDistinct : Distinct right) (comparable : Comparable left right) :
    Decides (diff runtime left right) (Same left right) := by
  induction left using Value.induction generalizing right with
  | scalar value =>
    rw [diff_eq_diffLeaf (Or.inr rfl)]
    refine (decides_diffLeaf _ _).congr ?_
    cases right with
    | list | dict =>
      refine iff_of_false (fun equal => ?_) fun same => by cases same
      exact Bool.false_ne_true ((Bool.and_false _).symm.trans equal)
    | scalar other =>
      cases comparable with
      | apart kinds => exact absurd rfl kinds
      | scalars number => exact equal_scalar_iff number
  | list items inductionHypothesis =>
    cases right with
    | scalar | dict =>
      rw [diff_eq_diffLeaf (Or.inl Kind.noConfusion)]
      exact (decides_diffLeaf _ _).congr (iff_of_false Bool.false_ne_true fun same => by cases same)
    | list others =>
      cases leftDistinct with
      | list leftItems =>
        cases rightDistinct with
        | list rightItems =>
          exact decides_diff_list leftItems rightItems comparable
            fun item inLeft other inRight children => inductionHypothesis item inLeft
              (leftItems item inLeft) (rightItems other inRight) children
  | dict entries inductionHypothesis =>
    cases right with
    | scalar | list =>
      rw [diff_eq_diffLeaf (Or.inl Kind.noConfusion)]
      exact (decides_diffLeaf _ _).congr (iff_of_false Bool.false_ne_true fun same => by cases same)
    | dict others =>
      cases leftDistinct with
      | dict leftKeys leftValues =>
        cases rightDistinct with
        | dict rightKeys rightValues =>
          exact decides_diff_dict leftKeys rightKeys comparable
            fun entry inLeft other inRight children => inductionHypothesis entry inLeft
              (leftValues entry inLeft) (rightValues other inRight) children

/-! ### The tool -/

/-- The changes that a response lists. -/
def reportedChanges (response : Value) : List Value := (response.asMapping.get "changes").asSequence

def isTruncated (response : Value) : Bool := (response.asMapping.get "truncated").truthy

/-- The tool returns, and an answer that is not truncated reports no change exactly when the
documents are the same. -/
def DiffComplete (runtime : Runtime) (left right : Value) : Prop :=
  ∃ response, toolDiffSpec runtime (.ok left) (.ok right) = .ok response ∧
    (isTruncated response = false → (reportedChanges response = [] ↔ Same left right))

theorem redactItems_eq_nil {items : List Value} : redactItems items = [] ↔ items = [] := by
  cases items with
  | nil => exact iff_of_true rfl rfl
  | cons => exact iff_of_false (List.cons_ne_nil _ _) (List.cons_ne_nil _ _)

theorem get_dict_cons (name key : String) (value : Value) (rest : List (Scalar × Value)) :
    Mapping.get ((.str (text name), value) :: rest) key =
      if text name = text key then value else Mapping.get rest key := by
  unfold Mapping.get Mapping.get?
  rw [List.find?_cons]
  by_cases same : text name = text key
  · rw [if_pos same, same, decide_eq_true rfl]
    rfl
  · rw [if_neg same, decide_eq_false fun equal => same (Scalar.str.inj equal)]

theorem reportedChanges_diffResponse (changes : List Change) (truncated : Bool) :
    reportedChanges (diffResponse changes truncated) = redactItems (changes.map Change.asDict) := by
  have masked (items : List Value) (key : Scalar) : isMaskedScalar key (.list items) = false := by
    unfold isMaskedScalar
    split
    · show (credentialShaped _ && false && _) = false
      rw [Bool.and_false, Bool.false_and]
    · rfl
  simp only [reportedChanges, diffResponse, mapping, List.map_cons, redact, redactEntries,
    Value.asMapping, get_dict_cons, masked]
  rw [if_neg (by decide), if_neg (by decide), if_pos trivial, if_neg Bool.false_ne_true]
  rfl

theorem isTruncated_diffResponse (changes : List Change) (truncated : Bool) :
    isTruncated (diffResponse changes truncated) = truncated := by
  have shown : credentialShaped (text "truncated") = false := by decide
  simp only [isTruncated, diffResponse, mapping, List.map_cons, redact, redactEntries,
    Value.asMapping, get_dict_cons, isMaskedScalar, shown, Bool.false_and]
  rw [if_neg (by decide), if_neg (by decide), if_neg (by decide), if_neg (by decide), if_pos trivial,
    if_neg Bool.false_ne_true]
  rfl

/-- The diff of two documents is complete when all that it compares can be matched. -/
theorem diffComplete_of_comparable (runtime : Runtime) {left right : Value}
    (leftDistinct : Distinct left) (rightDistinct : Distinct right)
    (comparable : Comparable left right) : DiffComplete runtime left right := by
  have decides : Decides (diff runtime left right) (Same left right) :=
    decides_diff leftDistinct rightDistinct comparable
  obtain ⟨changes, budget, ran⟩ := decides.total [] ⟨0, 0, false⟩ rfl
  refine ⟨diffResponse changes budget.truncated, ?_, ?_⟩
  · rw [toolDiffSpec, ran]
    rfl
  · rw [isTruncated_diffResponse, reportedChanges_diffResponse, redactItems_eq_nil, List.map_eq_nil_iff]
    intro unspent
    refine ⟨fun none => ?_, fun same => decides.silent same _ _ _ _ rfl ran unspent⟩
    by_contra differ
    exact decides.loud differ _ _ _ _ rfl ran unspent none

/-! ### Documents that are not told apart -/

def ipOf (name ip : String) : Value := mapping [("name", .str (text name)), ("ip", .str (text ip))]

def hostsOnly (hosts : List Value) : Value := mapping [("hosts", .list hosts)]

theorem distinct_mapping {entries : List (String × Value)}
    (keys : (entries.map fun entry => text entry.1).Nodup)
    (values : ∀ entry ∈ entries, Distinct entry.2) : Distinct (mapping entries) := by
  refine .dict ?_ (List.forall_mem_map.mpr values)
  rw [List.map_map]
  have canonical : ((fun entry : Scalar × Value => entry.1.canonical) ∘
      fun entry : String × Value => (Scalar.str (text entry.1), entry.2)) =
      Scalar.str ∘ fun entry : String × Value => text entry.1 := rfl
  rw [canonical, ← List.map_map]
  exact keys.map fun _ _ => Scalar.str.inj

theorem distinct_ipOf (name ip : String) : Distinct (ipOf name ip) :=
  distinct_mapping (by decide : [text "name", text "ip"].Nodup)
    (List.forall_mem_cons.mpr ⟨.scalar, List.forall_mem_singleton.mpr .scalar⟩)

theorem distinct_hostsOnly {first second : Value} (isFirst : Distinct first)
    (isSecond : Distinct second) : Distinct (hostsOnly [first, second]) :=
  distinct_mapping (List.nodup_singleton _) (List.forall_mem_singleton.mpr
    (.list (List.forall_mem_cons.mpr ⟨isFirst, List.forall_mem_singleton.mpr isSecond⟩)))

theorem plain_ipOf (name ip : String) : Plain (ipOf name ip) :=
  .dict (List.forall_mem_cons.mpr ⟨.scalar, List.forall_mem_singleton.mpr .scalar⟩)

/-- The items of the same lists have partners. -/
theorem Same.partner {left right : List Value} (same : Same (.list left) (.list right)) :
    ∀ other ∈ right, ∃ item ∈ left, Same item other := by
  intro other member
  cases same with
  | list reordered items =>
    obtain ⟨item, inMiddle, related⟩ := Matching.exists_left items member
    refine ⟨item, ?_, related⟩
    obtain rfl | ⟨_, perm⟩ := reordered
    · exact inMiddle
    · exact perm.mem_iff.mpr inMiddle

theorem Same.hosts {left right : List Value} (same : Same (hostsOnly left) (hostsOnly right)) :
    Same (.list left) (.list right) := by
  have alone : [Scalar.str (text "hosts")].Nodup := List.nodup_singleton _
  have under {hosts : List Value} :
      Mapping.at (hostsOnly hosts).asMapping (.str (text "hosts")) = .list hosts :=
    @Mapping.at_of_mem (hostsOnly hosts).asMapping alone (.str (text "hosts"), .list hosts)
      List.mem_cons_self _ rfl
  have lists : Same (Mapping.at (hostsOnly left).asMapping (.str (text "hosts")))
      (Mapping.at (hostsOnly right).asMapping (.str (text "hosts"))) :=
    (Same.at_str same alone alone (text "hosts")).1
  rwa [under, under] at lists

/-- The tool returns with no change. -/
def reportsNothing (runtime : Runtime) (left right : Value) : Bool :=
  match toolDiffSpec runtime (.ok left) (.ok right) with
  | .ok response => !isTruncated response && (reportedChanges response).isEmpty
  | .error _ => false

theorem not_diffComplete {runtime : Runtime} {left right : Value}
    (silent : reportsNothing runtime left right = true) (differ : ¬Same left right) :
    ¬DiffComplete runtime left right := by
  rintro ⟨response, ran, iff⟩
  unfold reportsNothing at silent
  rw [ran] at silent
  obtain ⟨whole, none⟩ := (Bool.and_eq_true _ _).mp silent
  rw [Bool.not_eq_true'] at whole
  exact differ ((iff whole).mp (List.isEmpty_iff.mp none))

/-- The diff of the two documents is not complete. -/
def Misses (left right : Value) : Prop :=
  Distinct left ∧ Distinct right ∧ ¬DiffComplete Runtime.simple left right

/-- An item before another of its name, an item that is not an object, and a null against an absent
key are not told apart from others; keys of two types raise. -/
theorem differences_unreported :
    Misses (hostsOnly [ipOf "a" "1", ipOf "a" "2"]) (hostsOnly [ipOf "a" "3", ipOf "a" "2"]) ∧
    Misses (hostsOnly [ipOf "a" "1", .str (text "b")]) (hostsOnly [ipOf "a" "1", .str (text "c")]) ∧
    Misses (mapping [("vsan", .null)]) (mapping []) ∧
    Misses (.dict [(.int 1, .null), (.str (text "a"), .null)])
      (.dict [(.int 1, .null), (.str (text "a"), .null)]) := by
  have alike := distinct_ipOf "a"
  have twoKeys : Distinct (.dict [(.int 1, .null), (.str (text "a"), .null)]) :=
    .dict (by decide) (List.forall_mem_cons.mpr ⟨.scalar, List.forall_mem_singleton.mpr .scalar⟩)
  refine ⟨⟨distinct_hostsOnly (alike _) (alike _), distinct_hostsOnly (alike _) (alike _),
      not_diffComplete (by decide) fun same => ?_⟩,
    ⟨distinct_hostsOnly (alike _) .scalar, distinct_hostsOnly (alike _) .scalar,
      not_diffComplete (by decide) fun same => ?_⟩,
    ⟨distinct_mapping (List.nodup_singleton _) (List.forall_mem_singleton.mpr .scalar),
      distinct_mapping List.nodup_nil (List.forall_mem_nil _),
      not_diffComplete (by decide) fun same => ?_⟩,
    ⟨twoKeys, twoKeys, ?_⟩⟩
  · obtain ⟨item, member, related⟩ := same.hosts.partner _ List.mem_cons_self
    have equal {ip : String} (related : Same (ipOf "a" ip) (ipOf "a" "3")) :
        (ipOf "a" ip).same (ipOf "a" "3") = true :=
      valueSame_of_same (distinct_ipOf _ _) (distinct_ipOf _ _) (Or.inl (plain_ipOf _ _)) related
    obtain rfl | inRest := List.mem_cons.mp member
    · exact absurd (equal related) (by decide)
    · rw [List.mem_singleton.mp inRest] at related
      exact absurd (equal related) (by decide)
  · obtain ⟨item, member, related⟩ :=
      same.hosts.partner (.str (text "c")) (List.mem_cons_of_mem _ List.mem_cons_self)
    obtain rfl | inRest := List.mem_cons.mp member
    · cases related
    · rw [List.mem_singleton.mp inRest] at related
      cases related with
      | scalar equal => exact absurd equal (by decide)
  · cases same with
    | dict reordered keys _ =>
      have sizes := keys.length_eq
      rw [List.length_map, ← reordered.length_eq] at sizes
      cases sizes
  · rintro ⟨response, ran, _⟩
    have raised : (toolDiffSpec Runtime.simple
        (.ok (.dict [(.int 1, .null), (.str (text "a"), .null)]))
        (.ok (.dict [(.int 1, .null), (.str (text "a"), .null)]))).isOk = false := by
      decide
    rw [ran] at raised
    cases raised

theorem keysOfBoth_of_same {left right : Mapping}
    (keys : left.map Prod.fst = right.map Prod.fst) : keysOfBoth left right = left.map Prod.fst := by
  have nothing : (right.filter fun entry => !left.any fun other => other.1.same entry.1) = [] := by
    refine List.filter_eq_nil_iff.mpr fun entry member => ?_
    have inLeft : entry.1 ∈ left.map Prod.fst := keys ▸ List.mem_map_of_mem member
    obtain ⟨other, isLeft, same⟩ := List.mem_map.mp inLeft
    rw [Bool.not_eq_true', Bool.not_eq_false]
    exact List.any_eq_true.mpr ⟨other, isLeft, Scalar.same_iff.mpr (congrArg _ same)⟩
  rw [keysOfBoth, nothing, List.map_nil, List.append_nil]

/-- Mappings with the same keys are compared when what is under the keys is. -/
theorem comparable_of_keys {left right : Mapping} (keys : left.map Prod.fst = right.map Prod.fst)
    (sorts : sortable (left.map Prod.fst) = true)
    (writable : ∀ key ∈ left.map Prod.fst, key.tooLong = false)
    (common : ∀ entry ∈ left, ∀ other ∈ right, entry.1.same other.1 = true →
      Comparable entry.2 other.2) : Comparable (.dict left) (.dict right) := by
  have noneAbsent {first second : Mapping} (keys : first.map Prod.fst = second.map Prod.fst) :
      ∀ entry ∈ first, ∃ other ∈ second, other.1 = entry.1 := fun entry member =>
    List.mem_map.mp (keys ▸ List.mem_map_of_mem member)
  rw [← keysOfBoth_of_same keys] at sorts writable
  refine .dicts sorts writable (fun entry inRight absent => ?_) (fun entry inLeft absent => ?_) common
  · obtain ⟨other, inLeft, same⟩ := noneAbsent keys.symm entry inRight
    exact absurd (congrArg _ same) (Scalar.same_eq_false.mp (absent other inLeft))
  · obtain ⟨other, inRight, same⟩ := noneAbsent keys entry inLeft
    exact absurd (congrArg _ same.symm) (Scalar.same_eq_false.mp (absent other inRight))

theorem comparable_ipOf (name ip name' ip' : String) :
    Comparable (ipOf name ip) (ipOf name' ip') := by
  have strings (first second : Text) : Comparable (.str first) (.str second) :=
    .scalars fun nan => by cases nan
  refine comparable_of_keys rfl ?_ ?_ ?_
  · exact (by decide : sortable [.str (text "name"), .str (text "ip")] = true)
  · exact (by decide : ∀ key ∈ [Scalar.str (text "name"), .str (text "ip")],
      key.tooLong = false)
  · simp [strings]

/-- Hosts in another order are compared. -/
theorem reordered_hosts_compared :
    DiffComplete Runtime.simple (hostsOnly [ipOf "a" "1", ipOf "b" "2"])
      (hostsOnly [ipOf "b" "2", ipOf "a" "1"]) := by
  have distinct := distinct_ipOf
  have named (name ip : String) : (ipOf name ip).asMapping.at (.str (text "name")) =
      .scalar (nameOf (text "name") (ipOf name ip)) ∧
        (nameOf (text "name") (ipOf name ip)).tooLong = false := by
    have found : (ipOf name ip).asMapping.at (.str (text "name")) = .str (text name) :=
      @Mapping.at_of_mem (ipOf name ip).asMapping
        (by decide : [Scalar.str (text "name"), .str (text "ip")].Nodup)
        (.str (text "name"), .str (text name)) List.mem_cons_self _ rfl
    rw [nameOf, found]
    exact ⟨rfl, rfl⟩
  have hosts : Comparable (.list [ipOf "a" "1", ipOf "b" "2"])
      (.list [ipOf "b" "2", ipOf "a" "1"]) := by
    refine @Comparable.keyed _ _ (text "name") (by decide) (by decide) ?_
      (by decide) (by decide) (Or.inl (by decide)) ?_
    · simp [named]
    · simp [comparable_ipOf]
  refine diffComplete_of_comparable _ (distinct_hostsOnly (distinct _ _) (distinct _ _))
    (distinct_hostsOnly (distinct _ _) (distinct _ _))
    (comparable_of_keys rfl (by decide) (by decide) ?_)
  exact List.forall_mem_singleton.mpr (List.forall_mem_singleton.mpr fun _ => hosts)

end VcfSpec

end LocalGpuCluster
