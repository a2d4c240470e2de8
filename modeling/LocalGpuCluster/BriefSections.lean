/-
This file is about a brief that is written out from bodies: what `parse_sections` reads of it, and when
`validate_brief` lets it pass. A heading in a fence is part of a body, and a fence that is not closed
would swallow the headings after it; so each body has to close its fences, and to hold no heading outside
of them. Which line breaks a body has is decided by `splitlines`, which is why they are line feeds.
-/

import LocalGpuCluster.Dictionary
import LocalGpuCluster.EscalationBrief
import LocalGpuCluster.LineLayout

namespace LocalGpuCluster

namespace BriefSections

open Escalation LineLayout

/-! ### Briefs -/

/-- A heading with its body. -/
def sectionOf (body : Text → Text) (name : Text) : Text := heading name ++ newline ++ body name

/-- The brief, with the headings in that order. -/
def briefOf (body : Text → Text) (order : List Text) : Text :=
  Text.join newline (order.map (sectionOf body))

/-- The line is a known heading. -/
def isHeading (line : Text) : Bool := (sections.map heading).contains line.rstrip

/-- No line outside the fences is a heading. -/
def headless : Bool → List Text → Bool
  | _, [] => true
  | inFence, line :: rest => (inFence || !isHeading line) && headless (inFence != isFence line) rest

/-- A body that closes its fences and holds no heading outside of them. -/
structure Closed (body : Text) : Prop where
  lineFeeds : ∀ point ∈ body, point.isLineBreak → point = 0xA
  fences : Even (body.splitLines.countP isFence)
  noHeading : headless false body.splitLines

/-- A body as it is read. -/
def stripped (body : Text) : Text := body.strip CodePoint.isSpace

/-! ### One body -/

/-- Whether a fence is open after the lines. -/
def fenceAfter (inFence : Bool) (lines : List Text) : Bool :=
  lines.foldl (fun inFence line => inFence != isFence line) inFence

/-- Lines with an even number of fences end as they begin. -/
theorem fenceAfter_eq_iff (inFence : Bool) (lines : List Text) :
    fenceAfter inFence lines = inFence ↔ Even (lines.countP isFence) := by
  induction lines generalizing inFence with
  | nil => exact iff_of_true rfl Even.zero
  | cons line rest inductionHypothesis =>
    have further := inductionHypothesis (inFence != isFence line)
    rw [List.countP_cons]
    show fenceAfter (inFence != isFence line) rest = inFence ↔ _
    cases fence : isFence line with
    | false =>
      rw [fence, Bool.bne_false] at further
      rw [Bool.bne_false, if_neg Bool.false_ne_true, Nat.add_zero]
      exact further
    | true =>
      rw [fence, Bool.bne_true] at further
      rw [Bool.bne_true, if_pos rfl, Nat.even_add_one, ← further, Bool.eq_not, not_not]

section Lines

variable {lines : List Text} {name : Text} {read : List (Text × List Text)} {taken : List Text}
  {inFence : Bool}

/-- The lines of a body are appended to it. -/
theorem foldl_parseLine (isNew : ∀ entry ∈ read, entry.1 ≠ name) (plain : headless inFence lines) :
    lines.foldl parseLine ⟨read ++ [(name, taken)], some name, inFence⟩ =
      ⟨read ++ [(name, taken ++ lines)], some name, fenceAfter inFence lines⟩ := by
  induction lines generalizing taken inFence with
  | nil =>
    rw [List.append_nil]
    rfl
  | cons line rest inductionHypothesis =>
    rw [headless, Bool.and_eq_true] at plain
    obtain ⟨isBody, others⟩ := plain
    have noHeading : (!inFence && (sections.map heading).contains line.rstrip) = false := by
      rw [← Bool.not_inj_iff, Bool.not_and, Bool.not_not]
      exact isBody
    have appended : appendLine (read ++ [(name, taken)]) name line =
        read ++ [(name, taken ++ [line])] := by
      rw [appendLine, List.map_append, List.map_singleton, if_pos rfl]
      congr 1
      exact (List.map_congr_left fun entry isEntry => if_neg (isNew entry isEntry)).trans
        (List.map_id read)
    have step : parseLine ⟨read ++ [(name, taken)], some name, inFence⟩ line =
        ⟨read ++ [(name, taken ++ [line])], some name, inFence != isFence line⟩ := by
      rw [parseLine, noHeading, if_neg Bool.false_ne_true]
      exact congrArg (Parse.mk · (some name) (inFence != isFence line)) appended
    rw [List.foldl_cons, step, inductionHypothesis others, List.append_assoc, List.singleton_append]
    rfl

/-- A heading starts a body. -/
theorem parseLine_heading (isSection : name ∈ sections) (isNew : ∀ entry ∈ read, entry.1 ≠ name)
    (current : Option Text) :
    parseLine ⟨read, current, false⟩ (heading name) = ⟨read ++ [(name, [])], some name, false⟩ := by
  have known : ∀ name ∈ sections, isHeading (heading name) = true ∧
      ((heading name).strip CodePoint.isSpace).drop 3 = name := by decide
  obtain ⟨isKnown, named⟩ := known name isSection
  have absent : read.lookup name = none :=
    List.lookup_eq_none_iff.mpr fun entry isEntry => bne_iff_ne.mpr (isNew entry isEntry).symm
  rw [isHeading] at isKnown
  rw [parseLine, isKnown, Bool.not_false, Bool.and_true, if_pos rfl]
  dsimp only
  rw [named, openBody, absent]
  rfl

end Lines

/-! ### Lines of a body -/

theorem strip_append_newline (content : Text) :
    Text.strip CodePoint.isSpace (content ++ newline) = Text.strip CodePoint.isSpace content := by
  have feed : newline.dropWhile CodePoint.isSpace = [] := by decide
  rw [Text.strip, Text.strip, Text.stripLeft, Text.stripLeft, List.dropWhile_append]
  split
  · rename_i blank
    rw [feed, List.isEmpty_iff.mp blank]
  · rw [Text.stripRight, Text.stripRight, List.reverse_append]
    rfl

/-- What is read of a body when these are its lines. -/
structure Reads (lines : List Text) (body : Text) : Prop where
  content : (Text.join newline lines).strip CodePoint.isSpace = stripped body
  fences : fenceAfter false lines = false
  noHeading : headless false lines

theorem Closed.reads {body : Text} (closed : Closed body) : Reads body.splitLines body where
  content := by
    obtain ⟨ending, isEnding, same⟩ := join_splitLinesFrom [] body closed.lineFeeds
    rw [List.nil_append] at same
    obtain rfl | rfl := isEnding
    · rw [List.append_nil] at same
      exact congrArg stripped same
    · exact (strip_append_newline _).symm.trans (congrArg stripped same)
  fences := (fenceAfter_eq_iff false _).mpr closed.fences
  noHeading := closed.noHeading

theorem headless_concat_nil (inFence : Bool) (lines : List Text) :
    headless inFence (lines ++ [[]]) = headless inFence lines := by
  induction lines generalizing inFence with
  | nil => cases inFence <;> decide
  | cons line rest inductionHypothesis =>
    exact congrArg ((inFence || !isHeading line) && ·) (inductionHypothesis _)

/-- An empty line at the end changes nothing. -/
theorem Reads.append {lines : List Text} {body : Text} (reads : Reads lines body) :
    Reads (lines ++ [[]]) body where
  content := by
    rw [← reads.content]
    cases lines with
    | nil => rfl
    | cons line rest =>
      have more : Text.join newline (line :: rest ++ [[]]) =
          Text.join newline (line :: rest) ++ newline := by
        have all := join_append_newline (List.append_ne_nil_of_right_ne_nil (line :: rest)
          (List.cons_ne_nil ([] : Text) []))
        rw [linesText_append, ← join_append_newline (List.cons_ne_nil line rest)] at all
        exact List.append_cancel_right all
      rw [more, strip_append_newline]
  fences := by
    rw [fenceAfter, List.foldl_append]
    show (fenceAfter false lines != isFence []) = false
    rw [reads.fences]
    decide
  noHeading := (headless_concat_nil false lines).trans reads.noHeading

/-- A body is read the same with a line feed after it. -/
theorem Closed.reads_append {body : Text} (closed : Closed body) :
    Reads (body ++ newline).splitLines body := by
  obtain same | more := splitLinesFrom_append_newline_cases [] body
  · exact (congrArg (Reads · body) same).mpr closed.reads
  · exact (congrArg (Reads · body) more).mpr closed.reads.append

/-! ### The brief -/

section Brief

variable {body : Text → Text}

/-- The lines of the first section, then those of the others. -/
theorem splitLines_briefOf_cons {name : Text} {order : List Text} (isSection : name ∈ sections)
    (closed : Closed (body name)) :
    ∃ lines, (briefOf body (name :: order)).splitLines =
      heading name :: lines ++ (briefOf body order).splitLines ∧ Reads lines (body name) := by
  have headings : ∀ name ∈ sections, Text.splitLinesFrom [] (heading name ++ newline) = [heading name] := by
    decide
  have first := headings name isSection
  cases order with
  | nil =>
    refine ⟨(body name).splitLines, ?_, closed.reads⟩
    have whole : briefOf body [name] = heading name ++ newline ++ body name := by
      rw [briefOf, List.map_singleton, Text.join, List.intercalate_singleton]
      rfl
    rw [whole, Text.splitLines, splitLinesFrom_append_newline, first]
    exact (List.append_nil _).symm
  | cons second order =>
    refine ⟨(body name ++ newline).splitLines, ?_, closed.reads_append⟩
    have whole : briefOf body (name :: second :: order) =
        heading name ++ newline ++ (body name ++ newline ++ briefOf body (second :: order)) := by
      rw [briefOf, List.map_cons, List.map_cons, Text.join, List.intercalate_cons_cons, sectionOf]
      simp only [List.append_assoc]
      rfl
    rw [whole, Text.splitLines, splitLinesFrom_append_newline, first, splitLinesFrom_append_newline]
    rfl

/-- Sections that were not read yet are read in their order. -/
theorem foldl_briefOf {order : List Text} (known : ∀ name ∈ order, name ∈ sections)
    (distinct : order.Nodup) (closed : ∀ name ∈ order, Closed (body name))
    (read : List (Text × List Text)) (isNew : ∀ entry ∈ read, entry.1 ∉ order) (current : Option Text) :
    ∃ bodies last, (briefOf body order).splitLines.foldl parseLine ⟨read, current, false⟩ =
        ⟨read ++ bodies, last, false⟩ ∧
      (bodies.map fun entry => (entry.1, stripped (Text.join newline entry.2))) =
        order.map fun name => (name, stripped (body name)) := by
  induction order generalizing read current with
  | nil => exact ⟨[], current, congrArg (Parse.mk · current false) (List.append_nil read).symm, rfl⟩
  | cons name order inductionHypothesis =>
    obtain ⟨isSection, others⟩ := List.forall_mem_cons.mp known
    obtain ⟨isClosed, othersClosed⟩ := List.forall_mem_cons.mp closed
    obtain ⟨once, othersOnce⟩ := List.nodup_cons.mp distinct
    have split : ∃ lines, (briefOf body (name :: order)).splitLines =
        heading name :: lines ++ (briefOf body order).splitLines ∧ Reads lines (body name) :=
      splitLines_briefOf_cons isSection isClosed
    obtain ⟨lines, split, reads⟩ := split
    have fresh : ∀ entry ∈ read, entry.1 ≠ name := fun entry isEntry same =>
      isNew entry isEntry (same ▸ List.mem_cons_self)
    have othersNew : ∀ entry ∈ read ++ [(name, lines)], entry.1 ∉ order := by
      intro entry isEntry
      obtain isRead | isLast := List.mem_append.mp isEntry
      · exact fun isOther => isNew entry isRead (List.mem_cons_of_mem name isOther)
      · rw [List.mem_singleton.mp isLast]
        exact once
    obtain ⟨bodies, last, parsed, same⟩ :=
      inductionHypothesis others othersOnce othersClosed (read ++ [(name, lines)]) othersNew (some name)
    refine ⟨(name, lines) :: bodies, last, ?_, ?_⟩
    · rw [split, List.foldl_append, List.foldl_cons, parseLine_heading isSection fresh,
        foldl_parseLine fresh reads.noHeading, reads.fences, List.nil_append, parsed, List.append_assoc,
        List.singleton_append]
    · rw [List.map_cons, List.map_cons, same]
      exact congrArg (fun content => (name, content) :: _) reads.content

/-- `parse_sections` reads each body, in the order of the brief. -/
theorem parseSections_briefOf {order : List Text} (known : ∀ name ∈ order, name ∈ sections)
    (distinct : order.Nodup) (closed : ∀ name ∈ order, Closed (body name)) :
    parseSections (briefOf body order) = order.map fun name => (name, stripped (body name)) := by
  obtain ⟨bodies, last, parsed, same⟩ :=
    foldl_briefOf known distinct closed [] (List.forall_mem_nil _) none
  rw [parseSections, parsed]
  exact same

end Brief

/-! ### Accepted briefs -/

/-- A brief passes where no section is missing and it is not too large. -/
theorem validateBrief_eq_none_iff (content : Text) (chosen : Alias) :
    validateBrief content chosen = none ↔
      missingSections content = [] ∧ estimateTokens content ≤ chosen.maxBrief := by
  unfold validateBrief
  cases missingSections content with
  | nil =>
    dsimp only
    split
    · rename_i large
      exact iff_of_false (Option.some_ne_none _) fun both => absurd both.2 (not_le.mpr large)
    · rename_i fits
      exact iff_of_true rfl ⟨rfl, not_lt.mp fits⟩
  | cons first rest =>
    refine iff_of_false ?_ fun both => List.cons_ne_nil _ _ both.1
    cases rest with
    | nil => exact Option.some_ne_none _
    | cons second rest => exact Option.some_ne_none _

/-- What is read of a brief with every section names the missing ones. -/
theorem missingSections_eq_nil_iff {content : Text} {body : Text → Text} {order : List Text}
    (isOrder : order.Perm sections)
    (parsed : parseSections content = order.map fun name => (name, body name)) :
    missingSections content = [] ↔ (∀ name ∈ sections, body name ≠ []) ∧
      ∀ name ∈ neverNa, isNa (body name) = false := by
  have reads : ∀ name ∈ sections, (parseSections content).lookup name = some (body name) := by
    intro name isSection
    rw [parsed]
    exact Dictionary.lookup_map_pair order body name (isOrder.mem_iff.mpr isSection)
  have present (name : Text) (isSection : name ∈ sections) :
      (((parseSections content).lookup name).getD [] = [] ||
          neverNa.contains name && isNa (((parseSections content).lookup name).getD [])) = true ↔
        body name = [] ∨ name ∈ neverNa ∧ isNa (body name) = true := by
    rw [reads name isSection, Option.getD_some, Bool.or_eq_true, Bool.and_eq_true, decide_eq_true_iff,
      List.contains_iff_mem]
  have required : ∀ name ∈ neverNa, name ∈ sections := by decide
  rw [missingSections, List.filter_eq_nil_iff]
  constructor
  · intro none
    have fits (name : Text) (isSection : name ∈ sections) :=
      not_or.mp (mt (present name isSection).mpr (none name isSection))
    refine ⟨fun name isSection => (fits name isSection).1, fun name never => ?_⟩
    exact Bool.eq_false_iff.mpr fun isNone => (fits name (required name never)).2 ⟨never, isNone⟩
  · rintro ⟨some, real⟩ name isSection isMissing
    obtain blank | ⟨never, isNone⟩ := (present name isSection).mp isMissing
    · exact some name isSection blank
    · rw [real name never] at isNone
      cases isNone

/-- A brief of closed bodies is read back, and passes where its bodies and its size allow. -/
theorem brief_roundTrip (body : Text → Text) (order : List Text) (isOrder : order.Perm sections)
    (closed : ∀ name ∈ sections, Closed (body name)) (chosen : Alias) :
    parseSections (briefOf body order) = (order.map fun name => (name, stripped (body name))) ∧
      (validateBrief (briefOf body order) chosen = none ↔
        (∀ name ∈ sections, stripped (body name) ≠ []) ∧
          (∀ name ∈ neverNa, isNa (stripped (body name)) = false) ∧
          estimateTokens (briefOf body order) ≤ chosen.maxBrief) := by
  have known : ∀ name ∈ order, name ∈ sections := fun name member => isOrder.subset member
  have parsed := parseSections_briefOf known (isOrder.nodup_iff.mpr (by decide)) fun name member =>
    closed name (known name member)
  refine ⟨parsed, ?_⟩
  rw [validateBrief_eq_none_iff, missingSections_eq_nil_iff isOrder parsed, and_assoc]

/-- Code that quotes a heading in a fence. -/
def quoting (name : Text) : Text :=
  if name = text "Code" then text "```\n## Goal\n```\n" else text " x"

theorem brief_roundTrip_quoting :
    parseSections (briefOf quoting sections.reverse) =
        (sections.reverse.map fun name => (name, stripped (quoting name))) ∧
      (validateBrief (briefOf quoting sections.reverse) .ask = none ↔
        (∀ name ∈ sections, stripped (quoting name) ≠ []) ∧
          (∀ name ∈ neverNa, isNa (stripped (quoting name)) = false) ∧
          estimateTokens (briefOf quoting sections.reverse) ≤ Alias.ask.maxBrief) := by
  have feeds : sections.all fun name => (quoting name).all fun point =>
      !point.isLineBreak || point = 0xA := by decide +kernel
  have fences : ∀ name ∈ sections, Even ((quoting name).splitLines.countP isFence) := by
    decide +kernel
  have plain : ∀ name ∈ sections, headless false (quoting name).splitLines := by decide +kernel
  refine brief_roundTrip quoting sections.reverse (List.reverse_perm sections)
    (fun name isSection => ⟨fun point member isBreak => ?_, fences name isSection,
      plain name isSection⟩) .ask
  have feed := List.all_eq_true.mp (List.all_eq_true.mp feeds name isSection) point member
  rw [isBreak, Bool.not_true, Bool.false_or] at feed
  exact of_decide_eq_true feed

end BriefSections

end LocalGpuCluster
