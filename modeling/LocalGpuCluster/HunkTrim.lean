/-
This file is about `shrink_blocks` of the workforce's `context.py`, which trims the context of the
hunks of a diff. A scan over the lines finds the hunks; of each one with more context than allowed
before its first or after its last change, the lines next to the changes are kept and a marker says
what was trimmed. Writing the marker takes the line number of the header, and `int` and `str` raise
on a number of too many digits.
-/

import LocalGpuCluster.Egress
import LocalGpuCluster.IpText
import LocalGpuCluster.LineLayout
import Mathlib.Data.List.Basic
import Mathlib.Data.List.TakeWhile

namespace LocalGpuCluster

namespace HunkTrim

open Egress (intOf maxStrDigits)

/-! ### Headers -/

/-- `\d+`, with what comes after it; the digits end where something else begins, so nothing shorter
has to be tried. -/
def number (content : Text) : Option (Text × Text) :=
  let digits := content.takeWhile CodePoint.isDecimal
  if digits = [] then none else some (digits, content.drop digits.length)

/-- What comes after `(?:,\d+)?`. -/
def afterCount (content : Text) : Text :=
  match content with
  | 0x2C :: rest => (number rest).elim content Prod.snd
  | _ => content

/-- What comes after a literal. -/
def afterLiteral (literal : String) (content : Text) : Option Text :=
  if content.startsWith (text literal) then some (content.drop (text literal).length) else none

/-- The second number of a header that `_HUNK` matches. -/
def hunkStart (line : Text) : Option Text := do
  let rest ← afterLiteral "@@ -" line
  let (_, rest) ← number rest
  let rest ← afterLiteral " +" (afterCount rest)
  let (start, rest) ← number rest
  let _ ← afterLiteral " @@" (afterCount rest)
  pure start

/-- The line ends the hunk before it. -/
def isBoundary (line : Text) : Bool :=
  line.startsWith (text "@@") || line.startsWith (text "diff --git")

/-- `l[:1] in ("+", "-")`. -/
def isChange (line : Text) : Bool := line.take 1 = text "+" || line.take 1 = text "-"

/-- What comes after the first ` b/`, if there is one. -/
def afterMark : Text → Option Text
  | [] => none
  | point :: rest =>
      if Text.startsWith (point :: rest) (text " b/") then some (rest.drop 2) else afterMark rest

/-- `line.split(" b/", 1)[-1]`. -/
def afterB (line : Text) : Text := (afterMark line).getD line

example : [("diff --git a/m.py b/m.py", "m.py"), ("diff --git", "diff --git"),
    ("diff --git a/x b/y b/z", "y b/z")].all (fun (line, file) => afterB (text line) = text file) =
      true := by
  decide

/-! ### The scan -/

/-- `str` of a natural number, `none` where it raises. -/
def numberText (value : ℕ) : Option Text :=
  if 10 ^ maxStrDigits ≤ value then none else some (decimal value)

/-- `int` of decimal digits, `none` where it raises. -/
def intText (digits : Text) : Option ℕ :=
  if maxStrDigits < digits.length then none else some (intOf digits)

/-- The name of a file in a marker. -/
def fileText (file : Option Text) : Text := file.getD (text "None")

/-- `[context trimmed: …]`. -/
def marker (file : Option Text) (start : Text) (lines : ℕ) : Option Text := do
  let first ← intText start
  pure (text "[context trimmed: " ++ fileText file ++ text ":" ++ (← numberText first) ++ text "-" ++
    (← numberText (first + lines)) ++ text "]")

section

variable (most : ℕ)

/-- The hunk has more context than allowed. -/
def trims (body : List Text) : Bool :=
  let changed := body.findIdxs isChange
  match changed.head?, changed.getLast? with
  | some first, some last => !(first ≤ most && body.length - 1 - last ≤ most)
  | _, _ => false

/-- `body[lo:hi]`. -/
def window (body : List Text) : List Text :=
  let changed := body.findIdxs isChange
  (body.take (min body.length (changed.getLastD 0 + most + 1))).drop (changed.headD 0 - most)

/-- What is written of a hunk. -/
def shrinkHunk (file : Option Text) (header start : Text) (body : List Text) : Option (List Text) :=
  if trims most body then do
    pure (header :: window most body ++ [← marker file start body.length])
  else some (header :: body)

/-- The loop over the lines. -/
def shrinkFrom (file : Option Text) : List Text → Option (List Text)
  | [] => some []
  | line :: rest =>
      let file := if line.startsWith (text "diff --git") then some (afterB line) else file
      match hunkStart line with
      | none => do pure (line :: (← shrinkFrom file rest))
      | some start => do
          let shown ← shrinkHunk most file line start (rest.takeWhile fun other => !isBoundary other)
          pure (shown ++ (← shrinkFrom file (rest.dropWhile fun other => !isBoundary other)))
  termination_by lines => lines.length
  decreasing_by
    · simp
    · exact Nat.lt_succ_of_le (List.dropWhile_sublist _).length_le

/-- The lines of a text, without the empty one after a line feed at the end. -/
def linesOf (content : Text) : List Text :=
  let lines := content.splitOn (0xA : CodePoint)
  if lines.getLast? = some [] then lines.dropLast else lines

/-- The text has a line feed at its end, or is empty. -/
def trailing (content : Text) : Bool :=
  (content.splitOn (0xA : CodePoint)).getLast? = some []

/-- The lines as one text again. -/
def written (content : Text) (lines : List Text) : Text :=
  Text.join newline lines ++ if trailing content then newline else []

/-- `shrink_blocks`. -/
def shrinkBlocks (diffText : Text) : Option Text := do
  pure (written diffText (← shrinkFrom most none (linesOf diffText)))

end

/-- Lines that are kept as they are make the text again. -/
theorem written_linesOf {content : Text} (some : content ≠ []) :
    written content (linesOf content) = content := by
  have whole : Text.join newline (content.splitOn (0xA : CodePoint)) = content :=
    List.intercalate_splitOn _
  unfold written trailing linesOf
  dsimp only
  by_cases ends : (content.splitOn (0xA : CodePoint)).getLast? = .some []
  · rw [if_pos ends, if_pos (decide_eq_true ends)]
    obtain ⟨lines, split⟩ := List.getLast?_eq_some_iff.mp ends
    rw [split] at whole ⊢
    rw [List.dropLast_concat]
    have someLines : lines ≠ [] := by
      rintro rfl
      exact some whole.symm
    rw [← whole]
    exact ((Ip.join_append someLines (List.cons_ne_nil [] [])).trans rfl).symm
  · rw [if_neg ends, if_neg (by simpa using ends), List.append_nil, whole]

/-! ### Blocks -/

/-- A line outside of the hunks, or a hunk with the number of its header. -/
inductive Block where
  | outside (line : Text)
  | hunk (header start : Text) (body : List Text)

def Block.lines : Block → List Text
  | .outside line => [line]
  | .hunk header _ body => header :: body

/-- The lines in blocks: a hunk goes from its header to the next boundary. -/
def blocksOf : List Text → List Block
  | [] => []
  | line :: rest =>
      match hunkStart line with
      | none => .outside line :: blocksOf rest
      | some start =>
          .hunk line start (rest.takeWhile fun other => !isBoundary other) ::
            blocksOf (rest.dropWhile fun other => !isBoundary other)
  termination_by lines => lines.length
  decreasing_by
    · simp
    · exact Nat.lt_succ_of_le (List.dropWhile_sublist _).length_le

/-- A header is a boundary, so no hunk has one in it. -/
theorem isBoundary_of_hunkStart {line start : Text} (isHeader : hunkStart line = some start) :
    isBoundary line = true := by
  obtain ⟨rest, isLiteral, _⟩ := Option.bind_eq_some_iff.mp isHeader
  unfold afterLiteral at isLiteral
  split at isLiteral
  · rename_i starts
    have longer : text "@@" <+: text "@@ -" := by decide
    have whole : text "@@ -" <+: line := List.isPrefixOf_iff_prefix.mp starts
    rw [isBoundary, Text.startsWith, List.isPrefixOf_iff_prefix.mpr (longer.trans whole)]
    rfl
  · cases isLiteral

/-- What the blocks are: they are the lines in their order, a line outside of the hunks is no header,
and a hunk is a header and what comes before the next boundary. -/
inductive Parsed : List Text → List Block → Prop
  | nil : Parsed [] []
  | outside {line : Text} {rest : List Text} {blocks : List Block} (plain : hunkStart line = none)
      (more : Parsed rest blocks) : Parsed (line :: rest) (.outside line :: blocks)
  | hunk {header start : Text} {body rest : List Text} {blocks : List Block}
      (isHeader : hunkStart header = some start) (inner : ∀ line ∈ body, isBoundary line = false)
      (ends : ∀ next ∈ rest.head?, isBoundary next = true) (more : Parsed rest blocks) :
      Parsed (header :: body ++ rest) (.hunk header start body :: blocks)

theorem parsed_blocksOf (lines : List Text) : Parsed lines (blocksOf lines) := by
  induction lines using blocksOf.induct with
  | case1 =>
    rw [blocksOf]
    exact .nil
  | case2 line rest plain inductionHypothesis =>
    rw [blocksOf, plain]
    exact .outside plain inductionHypothesis
  | case3 line rest start isHeader inductionHypothesis =>
    rw [blocksOf, isHeader]
    have split : line :: rest = line :: rest.takeWhile (fun other => !isBoundary other) ++
        rest.dropWhile fun other => !isBoundary other :=
      congrArg (line :: ·) List.takeWhile_append_dropWhile.symm
    rw [split]
    refine .hunk isHeader (fun other member => ?_) (fun next isNext => ?_) inductionHypothesis
    · simpa using List.mem_takeWhile_imp member
    · have stops := List.head?_dropWhile_not (fun other => !isBoundary other) rest
      rw [isNext] at stops
      simpa using stops

/-! ### The window -/

/-- A part of a hunk with at most so many lines of context on each side of its changes, those that are
next to them. -/
def Around (most : ℕ) (body kept : List Text) : Prop :=
  ∃ dropped before core after rest, body = dropped ++ before ++ core ++ after ++ rest ∧
    kept = before ++ core ++ after ∧
    core.head?.any isChange = true ∧ core.getLast?.any isChange = true ∧
    (∀ line ∈ dropped ++ before, isChange line = false) ∧
    (∀ line ∈ after ++ rest, isChange line = false) ∧
    before.length ≤ most ∧ after.length ≤ most ∧
    (dropped ≠ [] → before.length = most) ∧ (rest ≠ [] → after.length = most)

/-- `lines[start:stop]`. -/
def slice (lines : List Text) (start stop : ℕ) : List Text := (lines.take stop).drop start

section

variable {lines : List Text}

theorem slice_append {first second third : ℕ} (low : first ≤ second) (high : second ≤ third) :
    slice lines first second ++ slice lines second third = slice lines first third := by
  rw [slice, slice, slice, List.drop_take, List.drop_take, List.drop_take,
    show third - first = second - first + (third - second) by omega, List.take_add, List.drop_drop,
    show first + (second - first) = second by omega]

theorem length_slice {start stop : ℕ} (bound : stop ≤ lines.length) :
    (slice lines start stop).length = stop - start := by
  rw [slice, List.length_drop, List.length_take, Nat.min_eq_left bound]

theorem mem_slice {start stop : ℕ} {line : Text} (member : line ∈ slice lines start stop) :
    ∃ index, ∃ bound : index < lines.length, start ≤ index ∧ index < stop ∧ lines[index] = line := by
  obtain ⟨offset, bound, rfl⟩ := List.getElem_of_mem member
  simp only [slice, List.length_drop, List.length_take] at bound
  refine ⟨start + offset, by omega, by omega, by omega, ?_⟩
  simp [slice]

end

/-- Where the first and the last change of a hunk are. -/
structure Extent (body : List Text) (first last : ℕ) : Prop where
  ordered : first ≤ last
  bound : last < body.length
  first_change : ∀ inBody : first < body.length, isChange body[first] = true
  last_change : isChange body[last] = true
  outside : ∀ index, ∀ inBody : index < body.length, index < first ∨ last < index →
    isChange body[index] = false

section

variable {body : List Text} {first last : ℕ}

theorem extent (isFirst : (body.findIdxs isChange).head? = some first)
    (isLast : (body.findIdxs isChange).getLast? = some last) : Extent body first last := by
  have sorted : (body.findIdxs isChange).Pairwise (· < ·) := List.pairwise_findIdxs
  have firstMember := List.mem_of_head? isFirst
  have lastMember := List.mem_of_getLast? isLast
  have least : ∀ index ∈ body.findIdxs isChange, first ≤ index := by
    obtain ⟨rest, split⟩ := List.head?_eq_some_iff.mp isFirst
    rw [split] at sorted ⊢
    refine List.forall_mem_cons.mpr ⟨le_rfl, fun index member => ?_⟩
    exact (List.rel_of_pairwise_cons sorted member).le
  have greatest : ∀ index ∈ body.findIdxs isChange, index ≤ last := by
    obtain ⟨before, split⟩ := List.getLast?_eq_some_iff.mp isLast
    rw [split] at sorted ⊢
    refine List.forall_mem_append.mpr ⟨fun index member => ?_, List.forall_mem_singleton.mpr le_rfl⟩
    exact ((List.pairwise_append.mp sorted).2.2 index member last List.mem_cons_self).le
  obtain ⟨bound, lastChange⟩ := List.mem_findIdxs_iff_exists_getElem_pos.mp lastMember
  refine ⟨least last lastMember, bound, fun inBody => ?_, lastChange, fun index inBody apart => ?_⟩
  · exact (List.mem_findIdxs_iff_pos_getElem inBody).mp firstMember
  · refine Bool.eq_false_of_not_eq_true fun change => ?_
    have member := (List.mem_findIdxs_iff_pos_getElem inBody).mpr change
    have low := least index member
    have high := greatest index member
    omega

/-- A hunk without changes has no extent. -/
theorem unchanged_of_none (none : (body.findIdxs isChange).head? = none) :
    ∀ line ∈ body, isChange line = false :=
  List.findIdxs_eq_nil_iff.mp (List.head?_eq_none_iff.mp none)

variable {most : ℕ}

theorem head?_slice {start stop : ℕ} (low : start < stop) :
    (slice body start stop).head? = body[start]? := by
  rw [slice, List.head?_drop, List.getElem?_take, if_pos low]

theorem getLast?_slice {start stop : ℕ} (low : start < stop) (high : stop ≤ body.length) :
    (slice body start stop).getLast? = body[stop - 1]? := by
  have long : ¬(body.take stop).length ≤ start := by
    rw [List.length_take]
    omega
  rw [slice, List.getLast?_drop, if_neg long, List.getLast?_take, if_neg (by omega),
    List.getElem?_eq_getElem (by omega)]
  rfl

/-- The window holds the changes and the context next to them. -/
theorem around_slice (extent : Extent body first last) :
    Around most body (slice body (first - most) (min body.length (last + most + 1))) := by
  have ordered := extent.ordered
  have bound := extent.bound
  have context {start stop : ℕ} (apart : stop ≤ first ∨ last < start) :
      ∀ line ∈ slice body start stop, isChange line = false := by
    intro line member
    obtain ⟨index, inBody, low, high, rfl⟩ := mem_slice member
    exact extent.outside index inBody (by omega)
  refine ⟨slice body 0 (first - most), slice body (first - most) first, slice body first (last + 1),
    slice body (last + 1) (min body.length (last + most + 1)),
    slice body (min body.length (last + most + 1)) body.length, ?_, ?_, ?_, ?_, ?_, ?_, ?_, ?_, ?_, ?_⟩
  · rw [slice_append (by omega) (by omega), slice_append (by omega) (by omega),
      slice_append (by omega) (by omega), slice_append (by omega) (by omega)]
    exact (List.take_length).symm
  · rw [slice_append (by omega) (by omega), slice_append (by omega) (by omega)]
  · rw [head?_slice (by omega), List.getElem?_eq_getElem (by omega)]
    exact extent.first_change _
  · rw [getLast?_slice (by omega) (by omega), Nat.add_sub_cancel, List.getElem?_eq_getElem bound]
    exact extent.last_change
  · rw [slice_append (by omega) (by omega)]
    exact context (Or.inl le_rfl)
  · rw [slice_append (by omega) (by omega)]
    exact context (Or.inr (Nat.lt_succ_self last))
  · rw [length_slice (by omega)]
    omega
  · rw [length_slice (by omega)]
    omega
  · intro dropped
    have positive := List.length_pos_of_ne_nil dropped
    rw [length_slice (by omega)] at positive
    rw [length_slice (by omega)]
    omega
  · intro dropped
    have positive := List.length_pos_of_ne_nil dropped
    rw [length_slice (by omega)] at positive
    rw [length_slice (by omega)]
    omega

/-! ### What is shown of a block -/

/-- What is written of a block, and the marker after it. -/
inductive Shows (most : ℕ) : Block → List Text × Option Text → Prop
  | outside {line : Text} : Shows most (.outside line) ([line], none)
  /-- Nothing is trimmed where nothing has changed. -/
  | unchanged {header start : Text} {body : List Text}
      (none : ∀ line ∈ body, isChange line = false) :
      Shows most (.hunk header start body) (header :: body, .none)
  /-- Nothing is trimmed where the whole hunk is next to its changes. -/
  | fits {header start : Text} {body : List Text} (around : Around most body body) :
      Shows most (.hunk header start body) (header :: body, none)
  | trimmed {header start mark : Text} {body kept : List Text} (around : Around most body kept)
      (shorter : kept ≠ body) : Shows most (.hunk header start body) (header :: kept, some mark)

/-- The hunk is not trimmed, or the numbers of its marker can be read and written. -/
def Block.Marks (most : ℕ) : Block → Prop
  | .outside _ => True
  | .hunk _ start body => trims most body = true →
      start.length ≤ maxStrDigits ∧ intOf start + body.length < 10 ^ maxStrDigits

theorem marker_isSome {file : Option Text} {start : Text} {lines : ℕ} :
    (marker file start lines).isSome = true ↔
      start.length ≤ maxStrDigits ∧ intOf start + lines < 10 ^ maxStrDigits := by
  unfold marker intText numberText
  generalize 10 ^ maxStrDigits = limit
  by_cases long : maxStrDigits < start.length
  · rw [if_pos long]
    exact iff_of_false Bool.false_ne_true fun both => absurd both.1 (Nat.not_le.mpr long)
  rw [if_neg long]
  by_cases large : limit ≤ intOf start + lines
  · refine iff_of_false (fun isSome => ?_) fun both => absurd both.2 (Nat.not_lt.mpr large)
    by_cases first : limit ≤ intOf start
    · simp [first] at isSome
    · simp [first, large] at isSome
  · have first : ¬limit ≤ intOf start := by omega
    simp [first, large, Nat.not_lt.mp long]
    omega

/-- A hunk without changes is not trimmed, and another one to what is around its changes. -/
theorem trims_cases (most : ℕ) (body : List Text) :
    ((∀ line ∈ body, isChange line = false) ∧ trims most body = false) ∨
      ∃ first last, Extent body first last ∧
        trims most body = !(first ≤ most && body.length - 1 - last ≤ most) ∧
        window most body = slice body (first - most) (min body.length (last + most + 1)) := by
  unfold trims window
  dsimp only
  cases isFirst : (body.findIdxs isChange).head? with
  | none => exact Or.inl ⟨unchanged_of_none isFirst, rfl⟩
  | some first =>
    cases isLast : (body.findIdxs isChange).getLast? with
    | none =>
      rw [List.getLast?_eq_none_iff.mp isLast] at isFirst
      cases isFirst
    | some last =>
      refine Or.inr ⟨first, last, extent isFirst isLast, rfl, ?_⟩
      rw [List.headD_eq_head?_getD, List.getLastD_eq_getLast?, isFirst, isLast]
      rfl

theorem shows_whole {header start : Text} (whole : trims most body = false) :
    Shows most (.hunk header start body) (header :: body, none) := by
  obtain ⟨none, _⟩ | ⟨first, last, extent, trimmed, _⟩ := trims_cases most body
  · exact .unchanged none
  · have bound := extent.bound
    have small : first ≤ most ∧ body.length - 1 - last ≤ most := by simpa [whole] using trimmed
    have around : Around most body (slice body (first - most) (min body.length (last + most + 1))) :=
      around_slice extent
    rw [show first - most = 0 by omega, show min body.length (last + most + 1) = body.length by omega,
      slice, List.take_length] at around
    exact .fits around

theorem shows_window {header start mark : Text} (trimmed : trims most body = true) :
    Shows most (.hunk header start body) (header :: window most body, some mark) := by
  obtain ⟨_, whole⟩ | ⟨first, last, extent, isTrimmed, isWindow⟩ := trims_cases most body
  · rw [trimmed] at whole
    cases whole
  · have bound := extent.bound
    have large : ¬(first ≤ most ∧ body.length - 1 - last ≤ most) := by
      rw [trimmed] at isTrimmed
      intro small
      simp [small] at isTrimmed
    rw [isWindow]
    refine .trimmed (around_slice extent) fun same => ?_
    have length := congrArg List.length same
    rw [length_slice (by omega)] at length
    omega

/-- A hunk is written unless the numbers of its marker cannot be. -/
theorem shrinkHunk_cases (most : ℕ) (file : Option Text) (header start : Text) (body : List Text) :
    ((Block.hunk header start body).Marks most ∧ ∃ shown, Shows most (.hunk header start body) shown ∧
      shrinkHunk most file header start body = some (shown.1 ++ shown.2.toList)) ∨
    (¬(Block.hunk header start body).Marks most ∧ shrinkHunk most file header start body = none) := by
  have marks : (Block.hunk header start body).Marks most ↔
      (trims most body = true → (marker file start body.length).isSome = true) := by
    rw [marker_isSome]
    rfl
  rw [marks, shrinkHunk]
  cases trimmed : trims most body with
  | false =>
    refine Or.inl ⟨fun impossible => (by cases impossible), _, shows_whole trimmed, ?_⟩
    exact congrArg some (List.append_nil _).symm
  | true =>
    rw [if_pos rfl]
    cases marker file start body.length with
    | none => exact Or.inr ⟨fun isSome => (by cases isSome rfl), rfl⟩
    | some mark => exact Or.inl ⟨fun _ => rfl, _, shows_window trimmed, rfl⟩

end

/-- The lines that are written of the blocks. -/
def shownLines (shown : List (List Text × Option Text)) : List Text :=
  shown.flatMap fun (kept, mark) => kept ++ mark.toList

/-- Either each block is shown as it should be, or a marker cannot be written. -/
theorem shrinkFrom_cases (most : ℕ) (file : Option Text) (lines : List Text) :
    ((∀ block ∈ blocksOf lines, block.Marks most) ∧ ∃ shown,
      List.Forall₂ (Shows most) (blocksOf lines) shown ∧
        shrinkFrom most file lines = some (shownLines shown)) ∨
    ((¬∀ block ∈ blocksOf lines, block.Marks most) ∧ shrinkFrom most file lines = none) := by
  induction lines using blocksOf.induct generalizing file with
  | case1 =>
    rw [blocksOf, shrinkFrom]
    exact Or.inl ⟨List.forall_mem_nil _, [], .nil, rfl⟩
  | case2 line rest plain inductionHypothesis =>
    rw [blocksOf, shrinkFrom, plain, List.forall_mem_cons]
    dsimp only
    obtain ⟨marks, shown, shows, ran⟩ | ⟨unmarked, ran⟩ :=
      inductionHypothesis (if line.startsWith (text "diff --git") then some (afterB line) else file)
    · rw [ran]
      exact Or.inl ⟨⟨trivial, marks⟩, _, .cons .outside shows, rfl⟩
    · rw [ran]
      exact Or.inr ⟨fun both => unmarked both.2, rfl⟩
  | case3 line rest start isHeader inductionHypothesis =>
    rw [blocksOf, shrinkFrom, isHeader, List.forall_mem_cons]
    dsimp only
    obtain ⟨mark, first, isShown, wrote⟩ | ⟨unmarked, wrote⟩ := shrinkHunk_cases most
      (if line.startsWith (text "diff --git") then some (afterB line) else file) line start
      (rest.takeWhile fun other => !isBoundary other)
    · rw [wrote]
      obtain ⟨marks, shown, shows, ran⟩ | ⟨unmarked, ran⟩ :=
        inductionHypothesis (if line.startsWith (text "diff --git") then some (afterB line) else file)
      · rw [ran]
        exact Or.inl ⟨⟨mark, marks⟩, _, .cons isShown shows, rfl⟩
      · rw [ran]
        exact Or.inr ⟨fun both => unmarked both.2, rfl⟩
    · rw [wrote]
      exact Or.inr ⟨fun both => unmarked both.1, rfl⟩

/-- What has to be kept of a block: a line outside of the hunks, a header, and the changes. -/
def Block.essential : Block → List Text
  | .outside line => [line]
  | .hunk header _ body => header :: body.filter isChange

theorem filter_around {most : ℕ} {body kept : List Text} (around : Around most body kept) :
    body.filter isChange = kept.filter isChange := by
  obtain ⟨dropped, before, core, after, rest, rfl, rfl, _, _, context, otherContext, _⟩ := around
  obtain ⟨droppedContext, _⟩ := List.forall_mem_append.mp context
  obtain ⟨_, restContext⟩ := List.forall_mem_append.mp otherContext
  have none {lines : List Text} (context : ∀ line ∈ lines, isChange line = false) :
      lines.filter isChange = [] :=
    List.filter_eq_nil_iff.mpr fun line member => by simp [context line member]
  simp only [List.filter_append, none droppedContext, none restContext, List.nil_append,
    List.append_nil]

theorem Shows.essential_sublist {most : ℕ} {block : Block} {shown : List Text × Option Text}
    (shows : Shows most block shown) : block.essential.Sublist shown.1 := by
  cases shows with
  | outside => exact List.Sublist.refl _
  | unchanged | fits => exact List.filter_sublist.cons_cons _
  | trimmed around _ =>
    rw [Block.essential, filter_around around]
    exact List.filter_sublist.cons_cons _

/-- The text shows each block of the diff, in their order, and all that has to be kept. -/
def Faithful (most : ℕ) (diffText out : Text) : Prop :=
  ∃ shown, List.Forall₂ (Shows most) (blocksOf (linesOf diffText)) shown ∧
    ((blocksOf (linesOf diffText)).flatMap Block.essential).Sublist (shownLines shown) ∧
    out = written diffText (shownLines shown)

theorem essential_sublist {most : ℕ} {blocks : List Block} {shown : List (List Text × Option Text)}
    (shows : List.Forall₂ (Shows most) blocks shown) :
    (blocks.flatMap Block.essential).Sublist (shownLines shown) := by
  induction shows with
  | nil => exact List.Sublist.refl _
  | cons first _ inductionHypothesis =>
    rw [shownLines, List.flatMap_cons, List.flatMap_cons]
    exact (first.essential_sublist.trans (List.sublist_append_left _ _)).append inductionHypothesis

/-- The diff is shrunk as it should be exactly when the numbers of the markers can be written. -/
theorem shrinkBlocks_faithful_iff (most : ℕ) (diffText : Text) :
    (∃ out, shrinkBlocks most diffText = some out ∧ Faithful most diffText out) ↔
      ∀ block ∈ blocksOf (linesOf diffText), block.Marks most := by
  unfold shrinkBlocks
  obtain ⟨marks, shown, shows, ran⟩ | ⟨unmarked, ran⟩ :=
    shrinkFrom_cases most none (linesOf diffText)
  · rw [ran]
    exact iff_of_true ⟨_, rfl, shown, shows, essential_sublist shows, rfl⟩ marks
  · rw [ran]
    exact iff_of_false (fun ⟨_, impossible, _⟩ => by cases impossible) unmarked

/-- A diff whose hunks need no trimming stays as it is. -/
theorem shrinkBlocks_eq_self {most : ℕ} {diffText : Text} (some : diffText ≠ [])
    (small : ∀ header start body, Block.hunk header start body ∈ blocksOf (linesOf diffText) →
      trims most body = false) : shrinkBlocks most diffText = .some diffText := by
  have same (lines : List Text) (file : Option Text) (small : ∀ header start body,
      Block.hunk header start body ∈ blocksOf lines → trims most body = false) :
      shrinkFrom most file lines = .some lines := by
    induction lines using blocksOf.induct generalizing file with
    | case1 => rw [shrinkFrom]
    | case2 line rest plain inductionHypothesis =>
      rw [blocksOf, plain] at small
      rw [shrinkFrom, plain]
      dsimp only
      rw [inductionHypothesis _ fun header start body member =>
        small header start body (List.mem_cons_of_mem _ member)]
      rfl
    | case3 line rest start isHeader inductionHypothesis =>
      rw [blocksOf, isHeader] at small
      rw [shrinkFrom, isHeader]
      dsimp only
      rw [inductionHypothesis _ fun header start body member =>
          small header start body (List.mem_cons_of_mem _ member),
        shrinkHunk, small line start _ List.mem_cons_self, if_neg Bool.false_ne_true]
      exact congrArg (fun more => Option.some (line :: more)) List.takeWhile_append_dropWhile
  rw [shrinkBlocks, same _ _ small]
  exact congrArg Option.some (written_linesOf some)

/-! ### A number that is too long -/

/-- A header whose second number has as many digits. -/
def longHeader (digits : ℕ) : Text := text "@@ -1 +" ++ (List.replicate digits 0x39 ++ text " @@")

/-- A hunk with more context before its change than is kept. -/
def longBody : List Text := List.replicate 61 (text " ") ++ [text "+x"]

/-- A diff of that hunk. -/
def longDiff (digits : ℕ) : Text := Text.join newline (longHeader digits :: longBody)

theorem hunkStart_longHeader {digits : ℕ} (some : digits ≠ 0) :
    hunkStart (longHeader digits) = .some (List.replicate digits 0x39) := by
  have nines : ∀ point ∈ List.replicate digits (0x39 : CodePoint), CodePoint.isDecimal point = true := by
    intro point member
    rw [List.eq_of_mem_replicate member]
    decide
  have second : number (List.replicate digits 0x39 ++ text " @@") =
      .some (List.replicate digits 0x39, text " @@") := by
    have digitsEnd : (text " @@").takeWhile CodePoint.isDecimal = [] := by decide
    rw [number, List.takeWhile_append_of_pos nines, digitsEnd, List.append_nil,
      if_neg (by simpa using some), List.drop_left]
  show (number (List.replicate digits 0x39 ++ text " @@") >>= _) = _
  rw [second]
  rfl

theorem linesOf_longDiff (digits : ℕ) : linesOf (longDiff digits) = longHeader digits :: longBody := by
  have plainBody : ∀ line ∈ longBody, (0xA : CodePoint) ∉ line := by decide
  have plainHeader : (0xA : CodePoint) ∉ longHeader digits := by
    intro member
    obtain inStart | member := List.mem_append.mp member
    · exact absurd inStart (by decide)
    obtain inDigits | inEnd := List.mem_append.mp member
    · exact absurd (List.eq_of_mem_replicate inDigits) (by decide)
    · exact absurd inEnd (by decide)
  have split : (longDiff digits).splitOn (0xA : CodePoint) = longHeader digits :: longBody :=
    LineLayout.splitOn_join (List.cons_ne_nil _ _) (List.forall_mem_cons.mpr ⟨plainHeader, plainBody⟩)
  rw [linesOf, split, if_neg]
  show ¬(longHeader digits :: longBody).getLast? = some []
  rw [List.getLast?_cons_of_ne_nil (by decide)]
  decide

theorem blocksOf_longDiff {digits : ℕ} (some : digits ≠ 0) :
    blocksOf (longHeader digits :: longBody) =
      [.hunk (longHeader digits) (List.replicate digits 0x39) longBody] := by
  have inner : longBody.takeWhile (fun other => !isBoundary other) = longBody := by decide
  have ends : longBody.dropWhile (fun other => !isBoundary other) = [] := by decide
  rw [blocksOf, hunkStart_longHeader some]
  dsimp only
  rw [inner, ends, blocksOf]

/-- The number of a header is read when its hunk is trimmed, and not every one can be. -/
theorem shrinkBlocks_longDiff : shrinkBlocks 60 (longDiff 4301) = none := by
  have trimmed : trims 60 longBody = true := by decide
  have unmarked : ¬∀ block ∈ blocksOf (linesOf (longDiff 4301)), block.Marks 60 := by
    rw [linesOf_longDiff, blocksOf_longDiff (by decide), List.forall_mem_singleton]
    intro marks
    have short := (marks trimmed).1
    rw [List.length_replicate] at short
    exact absurd short (by decide)
  obtain ⟨marks, _⟩ | ⟨_, ran⟩ := shrinkFrom_cases 60 none (linesOf (longDiff 4301))
  · exact absurd marks unmarked
  · rw [shrinkBlocks, ran]
    rfl

end HunkTrim

end LocalGpuCluster
