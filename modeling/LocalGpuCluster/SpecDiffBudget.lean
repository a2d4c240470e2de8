/-
This file proves what the budget makes of the diff. Without a budget the diff lists every difference
that it comes to, in the order in which it walks the keys and names of both sides. The budget is a
meter on that list, so what is reported is a prefix of it, and the answer says so when the prefix is
proper.
-/

import LocalGpuCluster.Metering
import LocalGpuCluster.SpecDiffSecrets

namespace LocalGpuCluster

namespace VcfSpec

open Metering

/-! ### The diff without a budget -/

/-- Two values that differ, and the path on which they were reached. -/
structure Difference where
  path : Text
  left : Value
  right : Value

def Difference.entry (difference : Difference) : Change :=
  changeEntry difference.path difference.left difference.right

/-- What `_emit` charges. -/
def Difference.cost (difference : Difference) : ℕ := difference.path.length + 32

/-- The differences of two values at a path. -/
abbrev Walk := Text → Emission Difference Raised

def wholeLeaf (left right : Value) : Walk := fun path =>
  if left.equal right then .nothing else .one ⟨path, left, right⟩

def sortedKeys (keys : List Scalar) : Run (List Scalar) :=
  if sortable keys then pure (keys.insertionSort fun first second => first.before second)
  else throw .typeError

def sortedNames (runtime : Runtime) (keys : List Scalar) : Run (List Scalar) := do
  let written ← keys.mapM fun key => do pure (← runtime.str (.scalar key), key)
  pure ((written.insertionSort fun first second => first.1 ≤ second.1).map Prod.snd)

/-- The differences under each key, one key after the other. -/
def wholeKeys (runtime : Runtime) (compare : Scalar → Walk) (path : Text) :
    List Scalar → Emission Difference Raised
  | [] => .nothing
  | key :: rest => .after (runtime.str (.scalar key)) fun segment =>
      (compare key (path ++ slash :: segment)).andThen (wholeKeys runtime compare path rest)

/-- What is under a key on the left against what is under it on the right. -/
def wholeUnder (left : List (Scalar × (Value → Walk))) (right : Mapping) (key : Scalar) : Walk :=
  match left.find? fun entry => key.same entry.1 with
  | some (_, walk) => walk (right.at key)
  | none => wholeLeaf .null (right.at key)

def keysOfWhole (left : List (Scalar × (Value → Walk))) (right : Mapping) : List Scalar :=
  left.map Prod.fst ++
    (right.filter fun entry => !left.any fun other => other.1.same entry.1).map Prod.fst

mutual

/-- All differences of two values. -/
def wholeDiff (runtime : Runtime) : Value → Value → Walk
  | .dict left, .dict right => fun path =>
      let lefts := wholeEntries runtime left
      .after (sortedKeys (keysOfWhole lefts right)) (wholeKeys runtime (wholeUnder lefts right) path)
  | .list left, .list right =>
      match (listKey left).or (listKey right) with
      | some key => fun path =>
          .after (byName key (wholeItems runtime left)) fun lefts =>
            .after (namedItems key right) fun rights =>
              .after (sortedNames runtime (keysOfWhole lefts rights))
                (wholeKeys runtime (wholeUnder lefts rights) path)
      | none => wholeLeaf (.list left) (.list right)
  | left, right => wholeLeaf left right

def wholeItems (runtime : Runtime) : List Value → List (Value × (Value → Walk))
  | [] => []
  | item :: rest => (item, wholeDiff runtime item) :: wholeItems runtime rest

def wholeEntries (runtime : Runtime) : List (Scalar × Value) → List (Scalar × (Value → Walk))
  | [] => []
  | (key, value) :: rest => (key, wholeDiff runtime value) :: wholeEntries runtime rest

end

/-! ### The budget is a meter -/

def budgetMeter : Meter Budget Difference where
  grants budget difference :=
    !(budget.changes ≥ maxChanges || budget.chars + difference.cost > maxChangeChars)
  charge budget difference :=
    { budget with changes := budget.changes + 1, chars := budget.chars + difference.cost }
  refuse budget := { budget with truncated := true }
  stopped := Budget.truncated
  stopped_charge _ _ := rfl
  stopped_refuse _ := rfl

/-- The comparison reports what the budget grants of the differences. -/
def Spends (compare : Comparison) (differences : Walk) : Prop :=
  ∀ path, Metered budgetMeter Difference.entry (compare path) (differences path)

theorem emit_eq (left right : Value) (path : Text) (budget : Budget) :
    emit left right path budget =
      .ok (if budgetMeter.grants budget ⟨path, left, right⟩ then
        ([Difference.entry ⟨path, left, right⟩], budgetMeter.charge budget ⟨path, left, right⟩)
      else ([], budgetMeter.refuse budget)) := by
  by_cases spent : budget.changes ≥ maxChanges || budget.chars + (path.length + 32) > maxChangeChars
  · have refused : budgetMeter.grants budget ⟨path, left, right⟩ = false := congrArg not spent
    rw [emit, Budget.take, if_pos spent, refused]
    rfl
  · have granted : budgetMeter.grants budget ⟨path, left, right⟩ = true :=
      congrArg not (Bool.eq_false_of_not_eq_true spent)
    rw [emit, Budget.take, if_neg spent, granted]
    rfl

theorem spends_diffLeaf (left right : Value) : Spends (diffLeaf left right) (wholeLeaf left right) := by
  intro path budget running
  unfold diffLeaf wholeLeaf
  rw [show budget.truncated = false from running, if_neg Bool.false_ne_true]
  split
  · exact Metered.nothing budget running
  · rw [emit_eq]
    exact Metered.one ⟨path, left, right⟩ budget running

theorem spends_diffLoop {runtime : Runtime} {keys : List Scalar} {compare : Scalar → Comparison}
    {differences : Scalar → Walk} (each : ∀ key ∈ keys, Spends (compare key) (differences key)) :
    Spends (fun path => diffLoop runtime path (keys.map (under compare)))
      fun path => wholeKeys runtime differences path keys := by
  intro path
  induction keys with
  | nil => exact Metered.nothing
  | cons key rest inductionHypothesis =>
    obtain ⟨first, others⟩ := List.forall_mem_cons.mp each
    have round := fun segment => (first (path ++ slash :: segment)).andThen (inductionHypothesis others)
    exact Metered.after fun segment _ => round segment

/-! ### Keys and names -/

theorem sortByKey_eq (keys : List Scalar) (compare : Scalar → Comparison) :
    sortByKey (keys.map (under compare)) = (sortedKeys keys).map (List.map (under compare)) := by
  have same : (keys.map (under compare)).map Prod.fst = keys := by
    rw [List.map_map]
    exact List.map_id keys
  rw [sortByKey, same, sortedKeys]
  split
  · exact congrArg Except.ok
      (List.map_insertionSort _ _ (under compare) keys fun _ _ _ _ => Iff.rfl).symm
  · rfl

theorem sortByName_eq (runtime : Runtime) (keys : List Scalar) (compare : Scalar → Comparison) :
    sortByName runtime (keys.map (under compare)) =
      (sortedNames runtime keys).map (List.map (under compare)) := by
  have written : (keys.map (under compare)).mapM (fun pair => do
      pure (← runtime.str (.scalar pair.1), pair) : _ → Run (Text × Scalar × Comparison)) =
      (keys.mapM (fun key => do pure (← runtime.str (.scalar key), key) : _ → Run (Text × Scalar))).map
        (List.map (Prod.map id (under compare))) := by
    induction keys with
    | nil => rfl
    | cons key rest inductionHypothesis =>
      rw [List.map_cons, List.mapM_cons, List.mapM_cons, inductionHypothesis]
      show ((runtime.str (.scalar key) >>= _) >>= _) = Except.map _ ((runtime.str (.scalar key) >>= _) >>= _)
      cases runtime.str (.scalar key) with
      | error raised => rfl
      | ok segment =>
        cases (rest.mapM (fun key => do pure (← runtime.str (.scalar key), key) :
            _ → Run (Text × Scalar))) <;> rfl
  rw [sortByName, written, sortedNames]
  cases (keys.mapM (fun key => do pure (← runtime.str (.scalar key), key) :
      _ → Run (Text × Scalar))) with
  | error raised => rfl
  | ok named =>
    refine congrArg Except.ok ?_
    have sorted := List.map_insertionSort (fun first second => first.1 ≤ second.1)
      (fun first second => first.1 ≤ second.1) (Prod.map id (under compare)) named
      fun _ _ _ _ => Iff.rfl
    rw [← sorted, List.map_map, List.map_map]
    rfl

theorem wholeEntries_eq_map (runtime : Runtime) (entries : List (Scalar × Value)) :
    wholeEntries runtime entries = entries.map (Prod.map id (wholeDiff runtime)) := by
  induction entries with
  | nil => rfl
  | cons entry rest inductionHypothesis =>
    rw [wholeEntries, inductionHypothesis]
    rfl

theorem wholeItems_eq_map (runtime : Runtime) (items : List Value) :
    wholeItems runtime items = items.map fun item => (item, wholeDiff runtime item) := by
  induction items with
  | nil => rfl
  | cons item rest inductionHypothesis =>
    rw [wholeItems, inductionHypothesis]
    rfl

theorem wholeDiff_eq_wholeLeaf {runtime : Runtime} {left right : Value}
    (leaf : left.kind ≠ right.kind ∨ left.kind = .scalar) :
    wholeDiff runtime left right = wholeLeaf left right := by
  cases left <;> cases right <;> first
    | rfl
    | exact absurd rfl (leaf.resolve_right Kind.noConfusion)

section

variable {runtime : Runtime} {left right : Mapping}

theorem keysOfWhole_eq : keysOfWhole (wholeEntries runtime left) right = keysOfBoth left right := by
  rw [keysOfWhole, keysOfBoth, wholeEntries_eq_map, List.map_map]
  simp only [List.any_map]
  rfl

/-- Each key is walked with what both sides have under it. -/
theorem wholeUnder_eq : wholeUnder (wholeEntries runtime left) right =
    fun key => wholeDiff runtime (left.at key) (right.at key) := by
  funext key
  have found : ((left.map (Prod.map id (wholeDiff runtime))).find? fun entry => key.same entry.1) =
      (left.find? fun entry => key.same entry.1).map (Prod.map id (wholeDiff runtime)) :=
    List.find?_map
  rw [wholeUnder, wholeEntries_eq_map, found]
  unfold Mapping.at
  cases left.find? fun entry => key.same entry.1 with
  | some entry => rfl
  | none => exact (wholeDiff_eq_wholeLeaf (Or.inr rfl)).symm

/-- What is compared in the order of the sorted keys. -/
theorem spends_pairs (leftDistinct : (left.map fun entry => entry.1.canonical).Nodup)
    (rightDistinct : (right.map fun entry => entry.1.canonical).Nodup)
    {sort : List (Scalar × Comparison) → Run (List (Scalar × Comparison))}
    {sorted : List Scalar → Run (List Scalar)}
    (sorts : ∀ keys compare, sort (List.map (under compare) keys) =
      (sorted keys).map (List.map (under compare)))
    (children : ∀ key, Spends (diff runtime (left.at key) (right.at key))
      (wholeDiff runtime (left.at key) (right.at key))) :
    Spends (fun path budget => sort (pairUp (diffEntries runtime left) right) >>= fun pairs =>
        diffLoop runtime path pairs budget)
      fun path => .after (sorted (keysOfWhole (wholeEntries runtime left) right))
        (wholeKeys runtime (wholeUnder (wholeEntries runtime left) right) path) := by
  intro path
  dsimp only
  rw [pairUp_eq_map leftDistinct rightDistinct, keysOfWhole_eq, sorts, wholeUnder_eq]
  have loops (keys : List Scalar) : Metered budgetMeter Difference.entry
      (diffLoop runtime path (keys.map (under fun key => diff runtime (left.at key) (right.at key))))
      (wholeKeys runtime (fun key => wholeDiff runtime (left.at key) (right.at key)) path keys) :=
    spends_diffLoop (fun key _ => children key) path
  intro budget running
  rw [← Metered.after (fun keys _ => loops keys) budget running]
  cases sorted (keysOfBoth left right) <;> rfl

end

/-! ### The whole diff -/

theorem Spends.of_eq {compare other : Comparison} {differences : Walk}
    (spends : Spends other differences)
    (equal : ∀ path budget, budget.truncated = false → compare path budget = other path budget) :
    Spends compare differences := fun path budget running =>
  (equal path budget running).trans (spends path budget running)

theorem spends_dict {runtime : Runtime} {left right : Mapping}
    (leftDistinct : (left.map fun entry => entry.1.canonical).Nodup)
    (rightDistinct : (right.map fun entry => entry.1.canonical).Nodup)
    (children : ∀ key, Spends (diff runtime (left.at key) (right.at key))
      (wholeDiff runtime (left.at key) (right.at key))) :
    Spends (diff runtime (.dict left) (.dict right)) (wholeDiff runtime (.dict left) (.dict right)) := by
  rw [wholeDiff]
  refine (spends_pairs leftDistinct rightDistinct sortByKey_eq children).of_eq
    fun path budget running => ?_
  rw [diff]
  dsimp only
  rw [running, if_neg Bool.false_ne_true]

theorem byName_diffItems (runtime : Runtime) (key : Text) (items : List Value) :
    byName key (diffItems runtime items) = (namedItems key items).map (diffEntries runtime) := by
  rw [diffItems_eq_map, namedItems, show diffEntries runtime = List.map (Prod.map id (diff runtime))
    from funext fun entries => diffEntries_eq_map runtime entries, ← byName_map, List.map_map]
  rfl

theorem byName_wholeItems (runtime : Runtime) (key : Text) (items : List Value) :
    byName key (wholeItems runtime items) = (namedItems key items).map (wholeEntries runtime) := by
  rw [wholeItems_eq_map, namedItems, show wholeEntries runtime =
    List.map (Prod.map id (wholeDiff runtime)) from funext fun entries =>
      wholeEntries_eq_map runtime entries, ← byName_map, List.map_map]
  rfl

/-- What is under a key is a value of the mapping, or null. -/
theorem Mapping.at_cases (mapping : Mapping) (key : Scalar) :
    mapping.at key = .null ∨ ∃ entry ∈ mapping, mapping.at key = entry.2 := by
  unfold Mapping.at
  cases found : mapping.find? fun entry => key.same entry.1 with
  | none => exact Or.inl rfl
  | some entry => exact Or.inr ⟨entry, List.mem_of_find?_eq_some found, rfl⟩

theorem at_namedItems_cases {key : Text} {items : List Value} {named : Mapping}
    (ran : namedItems key items = .ok named) (name : Scalar) :
    Mapping.at named name = .null ∨ ∃ item ∈ items, Mapping.at named name = item := by
  rw [at_namedItems ran]
  cases last : (items.filter fun item =>
      item.kind = .dict && (nameOf key item).same name).getLast? with
  | none => exact Or.inl rfl
  | some item => exact Or.inr ⟨item, List.mem_of_mem_filter (List.mem_of_getLast? last), rfl⟩

theorem spends_list {runtime : Runtime} {left right : List Value} {key : Text}
    (chosen : (listKey left).or (listKey right) = some key)
    (children : ∀ lefts rights, namedItems key left = .ok lefts → namedItems key right = .ok rights →
      ∀ name, Spends (diff runtime (lefts.at name) (rights.at name))
        (wholeDiff runtime (lefts.at name) (rights.at name))) :
    Spends (diff runtime (.list left) (.list right)) (wholeDiff runtime (.list left) (.list right)) := by
  have spends : Spends (fun path budget => namedItems key left >>= fun lefts =>
        namedItems key right >>= fun rights =>
          sortByName runtime (pairUp (diffEntries runtime lefts) rights) >>= fun pairs =>
            diffLoop runtime path pairs budget)
      fun path => .after (namedItems key left) fun lefts => .after (namedItems key right) fun rights =>
        .after (sortedNames runtime (keysOfWhole (wholeEntries runtime lefts) rights))
          (wholeKeys runtime (wholeUnder (wholeEntries runtime lefts) rights) path) :=
    fun path => Metered.after fun lefts ranLeft => Metered.after fun rights ranRight =>
      spends_pairs (nodup_byName ranLeft) (nodup_byName ranRight) (sortByName_eq runtime)
        (children lefts rights ranLeft ranRight) path
  have whole : wholeDiff runtime (.list left) (.list right) =
      fun path => .after (namedItems key left) fun lefts => .after (namedItems key right) fun rights =>
        .after (sortedNames runtime (keysOfWhole (wholeEntries runtime lefts) rights))
          (wholeKeys runtime (wholeUnder (wholeEntries runtime lefts) rights) path) := by
    rw [wholeDiff, chosen]
    dsimp only
    rw [byName_wholeItems]
    simp only [Emission.after_map]
  rw [whole]
  refine spends.of_eq fun path budget running => ?_
  rw [diff]
  dsimp only
  rw [running, if_neg Bool.false_ne_true, chosen]
  dsimp only
  rw [byName_diffItems]
  cases namedItems key left <;> rfl

theorem spends_diff {runtime : Runtime} {left right : Value} (leftDistinct : Distinct left)
    (rightDistinct : Distinct right) :
    Spends (diff runtime left right) (wholeDiff runtime left right) := by
  induction left using Value.induction generalizing right with
  | scalar value =>
    rw [diff_eq_diffLeaf (Or.inr rfl), wholeDiff_eq_wholeLeaf (Or.inr rfl)]
    exact spends_diffLeaf _ _
  | list items inductionHypothesis =>
    cases right with
    | scalar | dict =>
      rw [diff_eq_diffLeaf (Or.inl Kind.noConfusion), wholeDiff_eq_wholeLeaf (Or.inl Kind.noConfusion)]
      exact spends_diffLeaf _ _
    | list others =>
      cases chosen : (listKey items).or (listKey others) with
      | some key =>
        refine spends_list chosen fun lefts rights ranLeft ranRight name => ?_
        have other := rightDistinct.at_named ranRight name
        obtain isNull | ⟨item, member, isItem⟩ := at_namedItems_cases ranLeft name
        · rw [isNull, diff_eq_diffLeaf (Or.inr rfl), wholeDiff_eq_wholeLeaf (Or.inr rfl)]
          exact spends_diffLeaf _ _
        · rw [isItem]
          exact inductionHypothesis item member (leftDistinct.of_item member) other
      | none =>
        have whole : wholeDiff runtime (.list items) (.list others) =
            wholeLeaf (.list items) (.list others) := by
          rw [wholeDiff, chosen]
        rw [whole]
        refine (spends_diffLeaf _ _).of_eq fun path budget running => ?_
        rw [diff]
        dsimp only
        rw [running, if_neg Bool.false_ne_true, chosen]
  | dict entries inductionHypothesis =>
    cases right with
    | scalar | list =>
      rw [diff_eq_diffLeaf (Or.inl Kind.noConfusion), wholeDiff_eq_wholeLeaf (Or.inl Kind.noConfusion)]
      exact spends_diffLeaf _ _
    | dict others =>
      refine spends_dict leftDistinct.keys rightDistinct.keys fun key => ?_
      obtain isNull | ⟨entry, member, isValue⟩ := Mapping.at_cases entries key
      · rw [isNull, diff_eq_diffLeaf (Or.inr rfl), wholeDiff_eq_wholeLeaf (Or.inr rfl)]
        exact spends_diffLeaf _ _
      · rw [isValue]
        exact inductionHypothesis entry member (leftDistinct.of_mem member) (rightDistinct.at key)

/-! ### The tool -/

def isValid (response : Value) : Bool := (response.asMapping.get "valid").truthy

/-- A difference as the response lists it. -/
def Difference.shown (difference : Difference) : Value := redact difference.entry.asDict

/-- What is reported of all differences: the first ones that the budget pays for. -/
structure WithinBudget (whole : Emission Difference Raised) (reported : List Difference)
    (response : Value) : Prop where
  changes : reportedChanges response = reported.map Difference.shown
  isPrefix : reported <+: whole.items
  truncated_iff : isTruncated response = true ↔ reported ≠ whole.items
  invalid : isTruncated response = true → isValid response = false
  /-- The diff that is not truncated is the whole one, which ends without an exception. -/
  ends : isTruncated response = false → whole.ending = .ok ()
  count : reported.length ≤ maxChanges
  characters : (reported.map Difference.cost).sum ≤ maxChangeChars

theorem isValid_diffResponse (changes : List Change) (truncated : Bool) :
    isValid (diffResponse changes truncated) = !truncated := by
  have shown : credentialShaped (text "valid") = false := by decide
  simp only [isValid, diffResponse, mapping, List.map_cons, redact, redactEntries,
    Value.asMapping, get_dict_cons, isMaskedScalar, shown, Bool.false_and]
  rw [if_pos trivial, if_neg Bool.false_ne_true]
  rfl

theorem reportedChanges_entries (differences : List Difference) (truncated : Bool) :
    reportedChanges (diffResponse (differences.map Difference.entry) truncated) =
      differences.map Difference.shown := by
  have items (values : List Value) : redactItems values = values.map redact :=
    Value.list.inj (redact_list values)
  rw [reportedChanges_diffResponse, items, List.map_map, List.map_map]
  rfl

/-- The budget after the differences that it granted. -/
structure Charged (granted : List Difference) (budget : Budget) : Prop where
  changes : budget.changes = granted.length
  chars : budget.chars = (granted.map Difference.cost).sum
  changes_le : budget.changes ≤ maxChanges
  chars_le : budget.chars ≤ maxChangeChars

theorem charged_spend (differences : List Difference) :
    Charged (budgetMeter.spend differences ⟨0, 0, false⟩).1
      (budgetMeter.spend differences ⟨0, 0, false⟩).2 := by
  have start : Charged [] ⟨0, 0, false⟩ := ⟨rfl, rfl, Nat.zero_le _, Nat.zero_le _⟩
  refine Meter.spend_invariant ?_ ?_ start
  · intro items budget difference charged granted
    have fits : ¬(budget.changes ≥ maxChanges ∨ budget.chars + difference.cost > maxChangeChars) := by
      simpa [budgetMeter] using granted
    obtain ⟨fewer, shorter⟩ := not_or.mp fits
    refine ⟨?_, ?_, Nat.lt_of_not_le fewer, Nat.le_of_not_lt shorter⟩
    · rw [List.length_append, ← charged.changes]
      rfl
    · rw [List.map_append, List.sum_append, ← charged.chars]
      exact congrArg (budget.chars + ·) (Nat.add_zero difference.cost).symm
  · exact fun items budget charged => ⟨charged.1, charged.2, charged.3, charged.4⟩

/-- One key more, which the budget pays for. -/
theorem toolDiffSpec_single {runtime : Runtime} {key : Text} {value : Value}
    (differs : Value.equal .null value = false) (paid : key.length + 33 ≤ maxChangeChars) :
    toolDiffSpec runtime (.ok (.dict [])) (.ok (.dict [(.str key, value)])) =
      .ok (diffResponse [changeEntry (slash :: key) .null value] false) := by
  have granted : Budget.take ⟨0, 0, false⟩ ((slash :: key).length + 32) =
      (true, ⟨1, 0 + ((slash :: key).length + 32), false⟩) := by
    rw [Budget.take, if_neg]
    rw [Bool.not_eq_true, Bool.or_eq_false_iff, decide_eq_false_iff_not, decide_eq_false_iff_not]
    refine ⟨by decide, ?_⟩
    show ¬maxChangeChars < 0 + ((slash :: key).length + 32)
    rw [List.length_cons]
    omega
  have leaf : diffLeaf .null value (slash :: key) ⟨0, 0, false⟩ =
      .ok ([changeEntry (slash :: key) .null value],
        ⟨1, 0 + ((slash :: key).length + 32), false⟩) := by
    rw [diffLeaf, differs, emit, granted]
    rfl
  have loop : diffLoop runtime [] [(.str key, diffLeaf .null value)] ⟨0, 0, false⟩ =
      .ok ([changeEntry (slash :: key) .null value],
        ⟨1, 0 + ((slash :: key).length + 32), false⟩) :=
    diffLoop_cons_eq_ok.mpr ⟨rfl, _, _, leaf, Or.inr ⟨rfl, [], rfl, rfl⟩⟩
  show (diffLoop runtime [] [(.str key, diffLeaf .null value)] ⟨0, 0, false⟩ >>= _) = _
  rw [loop]
  rfl

/-- The change of that key in the response. -/
theorem reportedChanges_single (key : Text) (value : Value) :
    reportedChanges (diffResponse [changeEntry (slash :: key) .null value] false) =
      [mapping [("path", .str (redactText (slash :: key))), ("left", shown (slash :: key) .null),
        ("right", shown (slash :: key) value)]] := by
  have single : redactItems [(changeEntry (slash :: key) .null value).asDict] =
      [redact (changeEntry (slash :: key) .null value).asDict] := rfl
  rw [reportedChanges_diffResponse, List.map_singleton, single, redact_changeEntry]
  rfl

/-- The differences that the budget pays for. -/
def paidFor (runtime : Runtime) (left right : Value) : List Difference :=
  (budgetMeter.spend (wholeDiff runtime left right []).items ⟨0, 0, false⟩).1

theorem withinBudget_paidFor {runtime : Runtime} {left right response : Value}
    (leftDistinct : Distinct left) (rightDistinct : Distinct right)
    (answers : toolDiffSpec runtime (.ok left) (.ok right) = .ok response) :
    WithinBudget (wholeDiff runtime left right []) (paidFor runtime left right) response := by
  obtain ⟨⟨changes, budget⟩, ran, isResponse⟩ := Run.bind_eq_ok.mp answers
  cases isResponse
  obtain ⟨rfl, rfl, ends⟩ :=
    Metered.returned (spends_diff leftDistinct rightDistinct []) rfl ran
  have charged := charged_spend (wholeDiff runtime left right []).items
  refine ⟨reportedChanges_entries _ _, Meter.spend_isPrefix _ _, ?_, fun truncated => ?_,
    fun whole => ends ?_, charged.changes ▸ charged.changes_le, charged.chars ▸ charged.chars_le⟩
  · rw [isTruncated_diffResponse]
    have running : budgetMeter.stopped ⟨0, 0, false⟩ = false := rfl
    exact Meter.stopped_spend_iff running _
  · rw [isTruncated_diffResponse] at truncated
    rw [isValid_diffResponse, truncated]
    rfl
  · rwa [isTruncated_diffResponse] at whole

/-- The diff of two documents reports what the budget pays for, in the order of the whole diff. -/
theorem toolDiffSpec_withinBudget {runtime : Runtime} {left right response : Value}
    (leftDistinct : Distinct left) (rightDistinct : Distinct right)
    (answers : toolDiffSpec runtime (.ok left) (.ok right) = .ok response) :
    ∃ reported, WithinBudget (wholeDiff runtime left right []) reported response :=
  ⟨_, withinBudget_paidFor leftDistinct rightDistinct answers⟩

theorem added_key_withinBudget : ∃ reported,
    WithinBudget (wholeDiff Runtime.simple (.dict []) (.dict [(.str (text "vlan"), .scalar (.int 1610))])
      []) reported (diffResponse [changeEntry (text "/vlan") .null (.scalar (.int 1610))] false) :=
  toolDiffSpec_withinBudget (.dict List.nodup_nil (List.forall_mem_nil _))
    (.dict (List.nodup_singleton _) (List.forall_mem_singleton.mpr .scalar))
    (toolDiffSpec_single rfl (by decide))

/-! ### Paths that grow -/

/-- The path of a change that the response lists. -/
def reportedPath (change : Value) : Text :=
  match change.asMapping.get "path" with
  | .scalar (.str path) => path
  | _ => []

theorem reportedPath_mapping (path : Text) (left right : Value) :
    reportedPath (mapping [("path", .str path), ("left", left), ("right", right)]) = path := by
  simp only [reportedPath, mapping, List.map_cons, Value.asMapping, Mapping.get_cons_self]

/-- A key that holds as many tokens. -/
def tokenKey (count : ℕ) : Text := (List.replicate count (text "token=a ")).flatten

/-- A document with the key alone. -/
def underTokenKey (count : ℕ) : Value := .dict [(.str (tokenKey count), .scalar (.int 1))]

theorem taken_append (word rest : Text) : taken (word ++ rest) rest = word := by
  rw [taken, List.length_append, Nat.add_sub_cancel, List.take_left]

theorem replaceInline_token (rest : Text) :
    replaceInline (text "token=a " ++ rest) =
      some (text "token=***REDACTED***", text " " ++ rest) := by
  have keys : inlineKeyRe.rests (text "token=a " ++ rest) = [text "a " ++ rest] := rfl
  have values : inlineValueRe.rests (text "a " ++ rest) = [text " " ++ rest] := rfl
  have key : taken (text "token=a " ++ rest) (text "a " ++ rest) = text "token=" :=
    taken_append (text "token=") (text "a " ++ rest)
  have value : taken (text "a " ++ rest) (text " " ++ rest) = text "a" :=
    taken_append (text "a") (text " " ++ rest)
  have masked : maskInline (text "token=") (text "a") = text "token=***REDACTED***" := by decide
  rw [replaceInline, keys, List.flatMap_singleton, values, List.map_singleton, key, value, masked]
  rfl

theorem substitute_tokenKey (count : ℕ) :
    Regex.substitute replaceInline (tokenKey count) =
      (List.replicate count (text "token=***REDACTED*** ")).flatten := by
  induction count with
  | zero => rfl
  | succ count inductionHypothesis =>
    have unit : Regex.substitute replaceInline (0x74 :: text "oken=a" ++ (text " " ++ tokenKey count)) =
        text "token=***REDACTED***" ++ Regex.substitute replaceInline (text " " ++ tokenKey count) :=
      Regex.substitute_of_some (replaceInline_token (tokenKey count))
    have space : Regex.substitute replaceInline (text " " ++ tokenKey count) =
        text " " ++ Regex.substitute replaceInline (tokenKey count) := Regex.substitute_of_none rfl
    show Regex.substitute replaceInline (0x74 :: text "oken=a" ++ (text " " ++ tokenKey count)) =
      text "token=***REDACTED*** " ++ (List.replicate count (text "token=***REDACTED*** ")).flatten
    rw [unit, space, inductionHypothesis]
    rfl

/-- Nothing is quoted where there is no quote. -/
theorem substitute_replaceQuoted_eq_self {value : Text}
    (unquoted : ∀ point ∈ value, isQuote point = false) :
    Regex.substitute replaceQuoted value = value := by
  refine Regex.substitute_eq_self fun point member rest => ?_
  have noMatch : quotedSecretRe.rests (point :: rest) = [] := by
    show (if isQuote point then [rest] else []).flatMap _ = []
    rw [unquoted point member]
    rfl
  rw [replaceQuoted, noMatch]
  rfl

theorem redactText_tokenPath (count : ℕ) :
    redactText (slash :: tokenKey count) =
      slash :: (List.replicate count (text "token=***REDACTED*** ")).flatten := by
  have start : Regex.substitute replaceInline (slash :: tokenKey count) =
      slash :: Regex.substitute replaceInline (tokenKey count) := Regex.substitute_of_none rfl
  have unquoted : (slash :: text "token=***REDACTED*** ").all (fun point => !isQuote point) = true := by
    decide
  rw [List.all_cons, Bool.and_eq_true, List.all_eq_true] at unquoted
  rw [redactText, start, substitute_tokenKey, substitute_replaceQuoted_eq_self]
  refine List.forall_mem_cons.mpr ⟨by decide, fun point member => ?_⟩
  obtain ⟨unit, isUnit, inUnit⟩ := List.mem_flatten.mp member
  rw [List.eq_of_mem_replicate isUnit] at inUnit
  exact Bool.not_eq_true' _ ▸ unquoted.2 point inUnit

/-- Masking the tokens of a key makes the path longer than what was charged for it. -/
theorem reported_path_exceeds_budget :
    ∃ response, toolDiffSpec Runtime.simple (.ok (.dict [])) (.ok (underTokenKey 124000)) =
      .ok response ∧ maxChangeChars <
        ((reportedChanges response).map fun change => (reportedPath change).length + 32).sum := by
  have size : (tokenKey 124000).length = 992000 := by
    rw [tokenKey, List.length_flatten, List.map_replicate, List.sum_replicate_nat]
    rfl
  have paid : (tokenKey 124000).length + 33 ≤ maxChangeChars := by
    rw [size]
    decide
  have differs : Value.equal .null (.scalar (.int 1)) = false := rfl
  refine ⟨_, toolDiffSpec_single differs paid, ?_⟩
  rw [reportedChanges_single, redactText_tokenPath, List.map_singleton, List.sum_singleton,
    reportedPath_mapping, List.length_cons, List.length_flatten, List.map_replicate, List.sum_replicate_nat]
  decide

end VcfSpec

end LocalGpuCluster
