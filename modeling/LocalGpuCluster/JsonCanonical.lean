/-
This file models the canonical text of a JSON value: `json.dumps` with sorted keys and no blank after a
separator, as `tavily_cache.py` writes it to tell searches apart. The canonical text is read back, so two
values that have the same one are equal to one value in Python.
-/

import LocalGpuCluster.JsonRoundTrip

namespace LocalGpuCluster

namespace JsonText

/-- An entry of an object without a blank, whose value is written already. -/
def writeCompactEntry (key value : Text) : Text := quoted key ++ colon :: value

/-- `json.dumps(value, sort_keys=True, separators=(",", ":"))`, `none` when it raises, with how many
containers may still be entered. -/
def dumpsCanonical (floats : FloatText) (nonFinite : Float64 → Text) : ℕ → Json → Option Text
  | _, .null => some (text "null")
  | _, .bool value => some (if value then text "true" else text "false")
  | _, .int value => if maxDigits < (decimal value.natAbs).length then none else some (decimal value)
  | _, .float (.finite value) => some (floats.repr value)
  | _, .float value => some (nonFinite value)
  | _, .str value => some (quoted value)
  | 0, .arr _ => none
  | 0, .obj _ => none
  | limit + 1, .arr items =>
      (items.mapM (dumpsCanonical floats nonFinite limit)).map fun parts =>
        openBracket :: Text.join [comma] parts ++ [closeBracket]
  | limit + 1, .obj entries =>
      ((sortKeys entries).mapM fun entry =>
        (dumpsCanonical floats nonFinite limit entry.2).map (writeCompactEntry entry.1)).map fun parts =>
          openBrace :: Text.join [comma] parts ++ [closeBrace]

example : dumpsCanonical ⟨fun _ => [], fun _ => .infinite⟩ constantName 3
    (.obj [(text "query", .str (text "a")), (text "days", .arr [.int 1, .null])]) =
      some (text "\x7b\"days\":[1,null],\"query\":\"a\"\x7d") := by
  decide

/-! ### Containers without blanks -/

theorem join_compact_cons (part next : Text) (parts : List Text) :
    Text.join [comma] (part :: next :: parts) = part ++ comma :: Text.join [comma] (next :: parts) :=
  rfl

theorem opens_join_compact {part : Text} (opens : Opens part) (parts : List Text) :
    Opens (Text.join [comma] (part :: parts)) := by
  obtain ⟨point, more, rfl, solid⟩ := opens
  cases parts with
  | nil => exact ⟨point, _, rfl, solid⟩
  | cons next parts => exact ⟨point, _, rfl, solid⟩

theorem printable_join_compact {parts : List Text} (each : ∀ part ∈ parts, Printable part) :
    Printable (Text.join [comma] parts) := by
  induction parts with
  | nil => exact printable_nil
  | cons part parts inductionHypothesis =>
    have here := each part List.mem_cons_self
    have later := inductionHypothesis fun other member => each other (List.mem_cons_of_mem _ member)
    cases parts with
    | nil =>
      have whole : Text.join [comma] [part] = part := List.append_nil part
      rw [whole]
      exact here
    | cons next parts =>
      rw [join_compact_cons]
      exact here.append (.cons (by decide) later)

/-- An item after which others come directly. -/
theorem scanList_next_compact {Value : Type} {close : CodePoint} {scan : Text → Scan Value}
    {part : Text} {value : Value} {values : List Value} {more rest : Text} {fuel : ℕ}
    (closes : Closes close) (read : ReadAs scan part value) (solid : skipBlank more = more)
    (later : scanList close scan fuel more = .ok (values, rest)) :
    scanList close scan (fuel + 1) (part ++ comma :: more) = .ok (value :: values, rest) := by
  have scanned := read.2.2 (comma :: more) (ends_cons (by decide) _)
  rw [scanList, scanned]
  dsimp only [bind, Except.bind]
  rw [skipBlank_solid (by decide)]
  dsimp only
  rw [if_neg closes.notComma, if_pos rfl, solid, later]

theorem scanList_compact {Value : Type} {close : CodePoint} {scan : Text → Scan Value}
    {parts : List Text} {values : List Value} (closes : Closes close)
    (read : List.Forall₂ (ReadAs scan) parts values) (present : parts ≠ []) (rest : Text) :
    ∀ fuel, parts.length ≤ fuel →
      scanList close scan fuel (Text.join [comma] parts ++ close :: rest) = .ok (values, rest) := by
  induction read with
  | nil => exact absurd rfl present
  | @cons part value parts values here later inductionHypothesis =>
    intro fuel enough
    cases fuel with
    | zero => cases enough
    | succ fuel =>
      cases later with
      | nil =>
        have whole : Text.join [comma] [part] = part := List.append_nil part
        rw [whole]
        exact scanList_last closes here fuel
      | @cons next _ more _ readNext _ =>
        have scanned := inductionHypothesis (List.cons_ne_nil _ _) fuel (Nat.le_of_succ_le_succ enough)
        rw [join_compact_cons, List.append_assoc]
        exact scanList_next_compact closes here (skipBlank_opens (opens_join_compact readNext.1 more) _)
          scanned

theorem length_le_join_compact {parts : List Text} (opens : ∀ part ∈ parts, Opens part) :
    parts.length ≤ (Text.join [comma] parts).length := by
  induction parts with
  | nil => exact Nat.zero_le _
  | cons part parts inductionHypothesis =>
    obtain ⟨point, more, rfl, -⟩ := opens part List.mem_cons_self
    cases parts with
    | nil => exact Nat.succ_le_succ (Nat.zero_le _)
    | cons next parts =>
      have later := inductionHypothesis fun other member =>
        opens other (List.mem_cons_of_mem _ member)
      rw [join_compact_cons]
      simp only [List.length_append, List.length_cons] at later ⊢
      omega

/-- What a container holds is read back. -/
theorem scanContents_compact {Value : Type} {close : CodePoint} {scan : Text → Scan Value}
    {parts : List Text} {values : List Value} (closes : Closes close)
    (read : List.Forall₂ (ReadAs scan) parts values) (rest : Text) :
    scanContents close scan (Text.join [comma] parts ++ close :: rest) = .ok (values, rest) := by
  cases read with
  | nil =>
    show scanContents close scan (close :: rest) = _
    rw [scanContents, skipBlank_solid closes.solid]
    exact if_pos rfl
  | @cons part value parts values here later =>
    have whole := scanList_compact closes (.cons here later) (List.cons_ne_nil _ _) rest
    have all := (each_of_readAs (.cons here later)).1
    have opens := opens_join_compact here.1 parts
    have enough := length_le_join_compact all
    rw [scanContents, skipBlank_opens opens]
    obtain ⟨point, more, same, -⟩ := id opens
    have notClose : ¬ point = close := fun isClose => closes.opens _ opens (by rw [same, isClose]; rfl)
    rw [same] at whole enough ⊢
    show (if point = close then _ else _) = _
    rw [if_neg notClose]
    exact whole _ (le_trans enough (List.sublist_append_left (point :: more) _).length_le)

/-! ### Values -/

theorem readAs_compact_array {floats : FloatText} {limit : ℕ} {parts : List Text} {values : List Json}
    (read : List.Forall₂ (ReadAs (scanOnce floats limit)) parts values) :
    ReadAs (scanOnce floats (limit + 1)) (openBracket :: Text.join [comma] parts ++ [closeBracket])
      (.arr values) := by
  have printable := printable_join_compact (each_of_readAs read).2
  refine ⟨⟨openBracket, _, rfl, by decide, by decide, by decide, by decide⟩,
    .cons (by decide) (printable.append (.cons (by decide) printable_nil)), fun rest _ => ?_⟩
  have notQuote : ¬ openBracket = quote := by decide
  have notBrace : ¬ openBracket = openBrace := by decide
  rw [List.cons_append, List.cons_append, List.append_assoc, scanOnce, scanValue, if_neg notQuote,
    if_neg notBrace, if_pos rfl, scanArray]
  show (scanContents closeBracket _ (_ ++ closeBracket :: rest)).map _ = _
  rw [scanContents_compact closes_closeBracket read]
  rfl

theorem readAs_compact_entry {scan : Text → Scan Json} {key written : Text} {value : Json}
    (unpaired : Unpaired key) (read : ReadAs scan written value) :
    ReadAs (scanEntry scan) (writeCompactEntry key written) (key, value) := by
  have printable : Printable (writeCompactEntry key written) :=
    (printable_quoted key).append (.cons (by decide) read.2.1)
  refine ⟨⟨quote, _, rfl, by decide, by decide, by decide, by decide⟩, printable,
    fun rest ends => ?_⟩
  have whole : writeCompactEntry key written ++ rest =
      quote :: (key.flatMap escapePoint ++ quote :: colon :: (written ++ rest)) := by
    simp only [writeCompactEntry, quoted, List.append_assoc, List.cons_append]
    rfl
  have keyed : scanKey (writeCompactEntry key written ++ rest) = .ok (key, written ++ rest) := by
    rw [whole, scanKey, if_pos rfl, scanString_quoted unpaired]
    dsimp only [bind, Except.bind]
    rw [skipBlank_solid (by decide)]
    exact if_pos rfl
  rw [scanEntry, keyed]
  dsimp only [bind, Except.bind]
  rw [skipBlank_opens read.1, read.2.2 rest ends]

theorem readAs_compact_object {floats : FloatText} {limit : ℕ} {parts : List Text}
    {entries : List (Text × Json)} (distinct : (entries.map Prod.fst).Nodup)
    (read : List.Forall₂ (ReadAs (scanEntry (scanOnce floats limit))) parts entries) :
    ReadAs (scanOnce floats (limit + 1)) (openBrace :: Text.join [comma] parts ++ [closeBrace])
      (.obj entries) := by
  have printable := printable_join_compact (each_of_readAs read).2
  refine ⟨⟨openBrace, _, rfl, by decide, by decide, by decide, by decide⟩,
    .cons (by decide) (printable.append (.cons (by decide) printable_nil)), fun rest _ => ?_⟩
  have notQuote : ¬ openBrace = quote := by decide
  have filled : Dictionary.fill [] entries = [] ++ entries := Dictionary.fill_of_nodup distinct
  rw [List.cons_append, List.cons_append, List.append_assoc, scanOnce, scanValue, if_neg notQuote,
    if_pos rfl, scanObject]
  show (scanContents closeBrace _ (_ ++ closeBrace :: rest)).map _ = _
  rw [scanContents_compact closes_closeBrace read]
  show Except.ok (Json.obj (Dictionary.fill [] entries), rest) = _
  rw [filled, List.nil_append]

/-- A value that is no container is written alike, whether keys are sorted or not. -/
theorem write_of_dumpsCanonical {floats : FloatText} {nonFinite : Float64 → Text} {limit : ℕ}
    {value : Json} {written : Text} (dumped : dumpsCanonical floats nonFinite limit value = some written)
    (noArray : ∀ items, value ≠ .arr items) (noObject : ∀ entries, value ≠ .obj entries) :
    write floats nonFinite limit value = some written := by
  cases value with
  | arr items => exact absurd rfl (noArray items)
  | obj entries => exact absurd rfl (noObject entries)
  | float value => cases limit <;> cases value <;> exact dumped
  | _ => cases limit <;> exact dumped

/-- An object is read back with its keys sorted. -/
theorem readAs_canonical_object {floats : FloatText} {nonFinite : Float64 → Text} {limit : ℕ}
    {entries : List (Text × Json)} {written : Text} (restorable : Restorable floats (.obj entries))
    (dumped : dumpsCanonical floats nonFinite (limit + 1) (.obj entries) = some written)
    (each : ∀ entry ∈ entries, ∀ part, dumpsCanonical floats nonFinite limit entry.2 = some part →
      ∃ back, SameValue entry.2 back ∧ ReadAs (scanOnce floats limit) part back) :
    ∃ back, SameValue (.obj entries) back ∧ ReadAs (scanOnce floats (limit + 1)) written back := by
  obtain ⟨parts, listed, rfl⟩ := Option.map_eq_some_iff.mp dumped
  have sorted : (sortKeys entries).Perm entries := List.perm_insertionSort _ entries
  let Same (entry pair : Text × Json) : Prop := entry.1 = pair.1 ∧ SameValue entry.2 pair.2
  cases restorable with
  | obj distinct keys _ =>
    have read : ∀ entry ∈ sortKeys entries, ∀ part,
        (dumpsCanonical floats nonFinite limit entry.2).map (writeCompactEntry entry.1) = some part →
        ∃ pair, Same entry pair ∧ ReadAs (scanEntry (scanOnce floats limit)) part pair := by
      intro entry member part written
      obtain ⟨value, dumpedValue, rfl⟩ := Option.map_eq_some_iff.mp written
      have inEntries := sorted.mem_iff.mp member
      obtain ⟨back, same, read⟩ := each entry inEntries value dumpedValue
      exact ⟨(entry.1, back), ⟨rfl, same⟩, readAs_compact_entry (keys entry inEntries) read⟩
    obtain ⟨pairs, same, read⟩ := exists_readAs listed read
    have sameKeys : (sortKeys entries).map Prod.fst = pairs.map Prod.fst :=
      List.forall₂_eq_eq_eq ▸ List.forall₂_map_left_iff.mpr
        (List.forall₂_map_right_iff.mpr (same.imp fun _ _ both => both.1))
    have distinctPairs : (pairs.map Prod.fst).Nodup :=
      sameKeys ▸ (sorted.map Prod.fst).nodup_iff.mpr distinct
    refine ⟨.obj pairs, .obj sorted.symm sameKeys ?_, readAs_compact_object distinctPairs read⟩
    exact List.forall₂_map_left_iff.mpr
      (List.forall₂_map_right_iff.mpr (same.imp fun _ _ both => both.2))

/-- A canonical text is read back as the value, up to the order of keys. -/
theorem readAs_dumpsCanonical {floats : FloatText} {nonFinite : Float64 → Text} {limit : ℕ}
    {value : Json} {written : Text} (named : NamesConstants nonFinite)
    (restorable : Restorable floats value)
    (dumped : dumpsCanonical floats nonFinite limit value = some written) :
    ∃ back, SameValue value back ∧ ReadAs (scanOnce floats limit) written back := by
  induction limit generalizing value written with
  | zero =>
    have noArray : ∀ items, value ≠ .arr items := by
      rintro items rfl
      cases dumped
    have noObject : ∀ entries, value ≠ .obj entries := by
      rintro entries rfl
      cases dumped
    exact ⟨value, .refl value, readAs_leaf named restorable
      (write_of_dumpsCanonical dumped noArray noObject) noArray noObject⟩
  | succ limit inductionHypothesis =>
    by_cases array : ∃ items, value = .arr items
    · obtain ⟨items, rfl⟩ := array
      cases restorable with
      | arr each =>
        obtain ⟨parts, listed, rfl⟩ := Option.map_eq_some_iff.mp dumped
        obtain ⟨values, same, read⟩ := exists_readAs listed fun item member part written =>
          inductionHypothesis (each item member) written
        exact ⟨.arr values, .arr same, readAs_compact_array read⟩
    by_cases object : ∃ entries, value = .obj entries
    · obtain ⟨entries, rfl⟩ := object
      refine readAs_canonical_object restorable dumped fun entry member part written => ?_
      cases restorable with
      | obj _ _ each => exact inductionHypothesis (each entry member) written
    · have noArray : ∀ items, value ≠ .arr items := fun items same => array ⟨items, same⟩
      have noObject : ∀ entries, value ≠ .obj entries := fun entries same => object ⟨entries, same⟩
      exact ⟨value, .refl value, readAs_leaf named restorable
        (write_of_dumpsCanonical dumped noArray noObject) noArray noObject⟩

/-- Values that are equal to one value in Python. -/
def Alike (first second : Json) : Prop := ∃ value, SameValue first value ∧ SameValue second value

/-- Values with one canonical text are alike. -/
theorem alike_of_dumpsCanonical {floats : FloatText} {nonFinite : Float64 → Text} {limit : ℕ}
    {first second : Json} {written : Text} (named : NamesConstants nonFinite)
    (restorable : Restorable floats first) (restorableToo : Restorable floats second)
    (dumped : dumpsCanonical floats nonFinite limit first = some written)
    (dumpedToo : dumpsCanonical floats nonFinite limit second = some written) : Alike first second := by
  obtain ⟨value, same, -, -, read⟩ := readAs_dumpsCanonical named restorable dumped
  obtain ⟨other, sameToo, -, -, readToo⟩ := readAs_dumpsCanonical named restorableToo dumpedToo
  have both := (read [] ends_nil).symm.trans (readToo [] ends_nil)
  cases both
  exact ⟨value, same, sameToo⟩

/-! ### The order of keys does not count -/

theorem notAfter_trans {first second third : Text} (before : notAfter first second = true)
    (after : notAfter second third = true) : notAfter first third = true := by
  induction first generalizing second third with
  | nil => rfl
  | cons point rest inductionHypothesis =>
    cases second with
    | nil => cases before
    | cons middle others =>
      cases third with
      | nil => cases after
      | cons last more =>
        simp only [notAfter, Bool.or_eq_true, Bool.and_eq_true, decide_eq_true_eq] at before after ⊢
        obtain lower | ⟨rfl, before⟩ := before
        · obtain higher | ⟨rfl, -⟩ := after
          · exact Or.inl (Nat.lt_trans lower higher)
          · exact Or.inl lower
        · obtain higher | ⟨rfl, after⟩ := after
          · exact Or.inl higher
          · exact Or.inr ⟨rfl, inductionHypothesis before after⟩

theorem notAfter_total (first second : Text) :
    notAfter first second = true ∨ notAfter second first = true := by
  induction first generalizing second with
  | nil => exact Or.inl rfl
  | cons point rest inductionHypothesis =>
    cases second with
    | nil => exact Or.inr rfl
    | cons other others =>
      simp only [notAfter, Bool.or_eq_true, Bool.and_eq_true, decide_eq_true_eq]
      obtain lower | same | higher := lt_trichotomy point other
      · exact Or.inl (Or.inl lower)
      · exact (inductionHypothesis others).imp (fun le => Or.inr ⟨same, le⟩)
          fun le => Or.inr ⟨same.symm, le⟩
      · exact Or.inr (Or.inl higher)

theorem notAfter_antisymm {first second : Text} (before : notAfter first second = true)
    (after : notAfter second first = true) : first = second := by
  induction first generalizing second with
  | nil =>
    cases second with
    | nil => rfl
    | cons other others => cases after
  | cons point rest inductionHypothesis =>
    cases second with
    | nil => cases before
    | cons other others =>
      simp only [notAfter, Bool.or_eq_true, Bool.and_eq_true, decide_eq_true_eq] at before after
      obtain lower | ⟨rfl, before⟩ := before
      · obtain higher | ⟨rfl, -⟩ := after
        · exact absurd lower (Nat.lt_asymm higher)
        · exact absurd lower (Nat.lt_irrefl _)
      · obtain higher | ⟨-, after⟩ := after
        · exact absurd higher (Nat.lt_irrefl _)
        · rw [inductionHypothesis before after]

theorem pairwise_sortKeys (entries : List (Text × Json)) :
    (sortKeys entries).Pairwise fun first second => notAfter first.1 second.1 = true := by
  have total : Std.Total fun first second : Text × Json => notAfter first.1 second.1 = true :=
    ⟨fun first second => notAfter_total first.1 second.1⟩
  have trans : IsTrans (Text × Json) fun first second => notAfter first.1 second.1 = true :=
    ⟨fun _ _ _ before after => notAfter_trans before after⟩
  exact List.pairwise_insertionSort _ entries

theorem eq_of_key {entries : List (Text × Json)} (distinct : (entries.map Prod.fst).Nodup)
    {first second : Text × Json} (inEntries : first ∈ entries) (inEntriesToo : second ∈ entries)
    (same : first.1 = second.1) : first = second :=
  List.inj_on_of_nodup_map distinct inEntries inEntriesToo same

/-- Sorting undoes every reordering of an object's entries. -/
theorem sortKeys_eq_of_perm {entries arranged : List (Text × Json)}
    (distinct : (entries.map Prod.fst).Nodup) (perm : entries.Perm arranged) :
    sortKeys entries = sortKeys arranged := by
  have sorted : (sortKeys entries).Perm entries := List.perm_insertionSort _ entries
  have sortedToo : (sortKeys arranged).Perm arranged := List.perm_insertionSort _ arranged
  refine List.Perm.eq_of_pairwise ?_ (pairwise_sortKeys entries) (pairwise_sortKeys arranged)
    (sorted.trans (perm.trans sortedToo.symm))
  intro first second inFirst inSecond before after
  exact eq_of_key distinct (sorted.mem_iff.mp inFirst)
    (perm.mem_iff.mpr (sortedToo.mem_iff.mp inSecond)) (notAfter_antisymm before after)

/-- Entries of one key whose values are related. -/
def SameEntry (same : Json → Json → Prop) (first second : Text × Json) : Prop :=
  first.1 = second.1 ∧ same first.2 second.2

theorem sameEntry_orderedInsert {same : Json → Json → Prop} {first second : Text × Json}
    (head : SameEntry same first second) {entries others : List (Text × Json)}
    (tail : List.Forall₂ (SameEntry same) entries others) :
    List.Forall₂ (SameEntry same)
      (entries.orderedInsert (fun left right => notAfter left.1 right.1 = true) first)
      (others.orderedInsert (fun left right => notAfter left.1 right.1 = true) second) := by
  induction tail with
  | nil => exact .cons head .nil
  | @cons entry other entries others here later inductionHypothesis =>
    rw [List.orderedInsert_cons, List.orderedInsert_cons, head.1, here.1]
    by_cases before : notAfter second.1 other.1 = true
    · rw [if_pos before, if_pos before]
      exact .cons head (.cons here later)
    · rw [if_neg before, if_neg before]
      exact .cons here inductionHypothesis

/-- Sorting looks at the keys alone. -/
theorem sameEntry_sortKeys {same : Json → Json → Prop} {entries others : List (Text × Json)}
    (each : List.Forall₂ (SameEntry same) entries others) :
    List.Forall₂ (SameEntry same) (sortKeys entries) (sortKeys others) := by
  induction each with
  | nil => exact .nil
  | cons here _ inductionHypothesis => exact sameEntry_orderedInsert here inductionHypothesis

theorem sameEntry_of_halves {same : Json → Json → Prop} {entries others : List (Text × Json)}
    (keys : entries.map Prod.fst = others.map Prod.fst)
    (values : List.Forall₂ same (entries.map Prod.snd) (others.map Prod.snd)) :
    List.Forall₂ (SameEntry same) entries others := by
  rw [← List.forall₂_eq_eq_eq] at keys
  have firsts := List.forall₂_map_left_iff.mp (List.forall₂_map_right_iff.mp keys)
  have seconds := List.forall₂_map_left_iff.mp (List.forall₂_map_right_iff.mp values)
  clear keys values
  induction firsts with
  | nil => exact .nil
  | cons here _ inductionHypothesis =>
    cases seconds with
    | cons hereToo later => exact .cons ⟨here, hereToo⟩ (inductionHypothesis later)

theorem mapM_eq_of_forall₂ {Item : Type} {write writeToo : Item → Option Text}
    {items others : List Item}
    (each : List.Forall₂ (fun item other => write item = writeToo other) items others) :
    items.mapM write = others.mapM writeToo := by
  induction each with
  | nil => rfl
  | cons here _ inductionHypothesis =>
    rw [List.mapM_cons, List.mapM_cons, here, inductionHypothesis]

/-- A value that is written, whose objects are dicts. -/
def Dicts : Json → Prop := Each (fun _ => True) (fun _ => True) List.Nodup

/-- Values that are equal in Python have one canonical text. -/
theorem dumpsCanonical_eq_of_sameValue (floats : FloatText) (nonFinite : Float64 → Text) (limit : ℕ)
    {first second : Json} (dicts : Dicts first) (same : SameValue first second) :
    dumpsCanonical floats nonFinite limit first = dumpsCanonical floats nonFinite limit second := by
  induction limit generalizing first second with
  | zero => cases same <;> rfl
  | succ limit inductionHypothesis =>
    cases same with
    | refl => rfl
    | @arr items others each =>
      cases dicts with
      | arr dicts =>
        have written : items.mapM (dumpsCanonical floats nonFinite limit) =
            others.mapM (dumpsCanonical floats nonFinite limit) :=
          mapM_eq_of_forall₂ (((List.forall₂_and_left _ _).mpr ⟨dicts, each⟩).imp
            fun _ _ both => inductionHypothesis both.1 both.2)
        rw [dumpsCanonical, dumpsCanonical, written]
    | @obj entries arranged others perm keys values =>
      cases dicts with
      | obj distinct _ dicts =>
        have each := sameEntry_sortKeys (sameEntry_of_halves keys values)
        have sorted : (sortKeys arranged).Perm entries :=
          (List.perm_insertionSort _ arranged).trans perm.symm
        have inside : ∀ entry ∈ sortKeys arranged, Dicts entry.2 := fun entry member =>
          dicts entry (sorted.mem_iff.mp member)
        rw [dumpsCanonical, dumpsCanonical, sortKeys_eq_of_perm distinct perm]
        refine congrArg _ (mapM_eq_of_forall₂
          (((List.forall₂_and_left _ _).mpr ⟨inside, each⟩).imp fun entry other both => ?_))
        rw [both.2.1, inductionHypothesis both.1 both.2.2]

theorem Each.imp {content contentToo : Text → Prop} {number numberToo : ℚ → Prop}
    {keys : List Text → Prop} (weaker : ∀ text, content text → contentToo text)
    (weakerToo : ∀ value, number value → numberToo value) {value : Json}
    (each : Each content number keys value) : Each contentToo numberToo keys value := by
  induction each with
  | null => exact .null
  | bool value => exact .bool value
  | int value => exact .int value
  | float holds => exact .float (weakerToo _ holds)
  | infinite => exact .infinite
  | notANumber => exact .notANumber
  | str holds => exact .str (weaker _ holds)
  | arr _ inductionHypothesis => exact .arr inductionHypothesis
  | obj distinct names _ inductionHypothesis =>
    exact .obj distinct (fun entry member => weaker _ (names entry member)) inductionHypothesis

theorem Restorable.dicts {floats : FloatText} {value : Json} (restorable : Restorable floats value) :
    Dicts value :=
  restorable.imp (fun _ _ => trivial) fun _ _ => trivial

end JsonText

end LocalGpuCluster
