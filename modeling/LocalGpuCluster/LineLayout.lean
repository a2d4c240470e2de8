/-
This file is about texts that are put together from lines: how long such a text is, and how many lines
`splitlines` makes of it, which breaks at more than line feeds. Both are sums over the lines, so a text
that differs from another in a few lines differs by what these lines count for.
-/

import LocalGpuCluster.Text

namespace LocalGpuCluster

namespace LineLayout

/-- The lines, each with a line feed after it. -/
def linesText (lines : List Text) : Text := lines.flatMap fun line => line ++ newline

/-- How many lines `splitlines` makes of a line and the line feed after it. -/
def rows (line : Text) : ℕ := (line ++ newline).splitLines.length

theorem linesText_append (lines others : List Text) :
    linesText (lines ++ others) = linesText lines ++ linesText others :=
  List.flatMap_append

theorem join_append_newline {lines : List Text} (some : lines ≠ []) :
    Text.join newline lines ++ newline = linesText lines := by
  induction lines with
  | nil => exact absurd rfl some
  | cons line rest inductionHypothesis =>
    cases rest with
    | nil => simp [Text.join, linesText]
    | cons other rest =>
      have more := inductionHypothesis (List.cons_ne_nil other rest)
      rw [Text.join] at more ⊢
      rw [List.intercalate_cons_cons, List.append_assoc, List.append_assoc, more]
      show line ++ (newline ++ _) = (line ++ newline) ++ _
      rw [List.append_assoc]
      rfl

theorem length_linesText (lines : List Text) :
    (linesText lines).length = (lines.map fun line => line.length + 1).sum := by
  rw [linesText, List.length_flatMap]
  congr 1
  exact List.map_congr_left fun line _ => List.length_append

/-! ### What `splitlines` makes of it -/

/-- A line feed ends a line whatever stands before it. -/
theorem splitLinesFrom_append_newline (rest : Text) : ∀ current content : Text,
    Text.splitLinesFrom current (content ++ newline ++ rest) =
      Text.splitLinesFrom current (content ++ newline) ++ Text.splitLinesFrom [] rest
  | current, [] => by
    cases rest with
    | nil => rfl
    | cons point rest => rfl
  | current, [first] => by
    show Text.splitLinesFrom current (first :: 0xA :: rest) =
      Text.splitLinesFrom current [first, 0xA] ++ _
    have feed (line : Text) := splitLinesFrom_append_newline rest line []
    rw [Text.splitLinesFrom, Text.splitLinesFrom]
    split
    · split
      · rfl
      · exact congrArg (current :: ·) (feed [])
    · exact feed (current ++ [first])
  | current, first :: second :: content => by
    show Text.splitLinesFrom current (first :: second :: (content ++ newline ++ rest)) =
      Text.splitLinesFrom current (first :: second :: (content ++ newline)) ++ _
    rw [Text.splitLinesFrom, Text.splitLinesFrom]
    split
    · split
      · exact congrArg (current :: ·) (splitLinesFrom_append_newline rest [] content)
      · exact congrArg (current :: ·) (splitLinesFrom_append_newline rest [] (second :: content))
    · exact splitLinesFrom_append_newline rest (current ++ [first]) (second :: content)

/-- A line without another break in it is one line. -/
theorem rows_of_plain {line : Text} (plain : ∀ point ∈ line, point.isLineBreak = false) :
    rows line = 1 := by
  have general (current : Text) : Text.splitLinesFrom current (line ++ newline) = [current ++ line] := by
    induction line generalizing current with
    | nil => rw [List.append_nil]; rfl
    | cons first rest inductionHypothesis =>
      obtain ⟨isPlain, others⟩ := List.forall_mem_cons.mp plain
      have further := inductionHypothesis others (current ++ [first])
      rw [List.append_assoc] at further
      cases rest with
      | nil =>
        show Text.splitLinesFrom current [first, 0xA] = _
        rw [Text.splitLinesFrom, isPlain, if_neg Bool.false_ne_true]
        exact further
      | cons second rest =>
        show Text.splitLinesFrom current (first :: second :: (rest ++ newline)) = _
        rw [Text.splitLinesFrom, isPlain, if_neg Bool.false_ne_true]
        exact further
  exact congrArg List.length (general [])

/-- A line feed at the end adds an empty line, or none. -/
theorem splitLinesFrom_append_newline_cases (current content : Text) :
    Text.splitLinesFrom current (content ++ newline) = Text.splitLinesFrom current content ∨
      Text.splitLinesFrom current (content ++ newline) = Text.splitLinesFrom current content ++ [[]] := by
  fun_induction Text.splitLinesFrom current content with
  | case1 => exact Or.inr rfl
  | case2 => exact Or.inl rfl
  | case3 current point breaks =>
    show Text.splitLinesFrom current [point, 0xA] = _ ∨ Text.splitLinesFrom current [point, 0xA] = _
    rw [Text.splitLinesFrom, if_pos breaks]
    split
    · exact Or.inl rfl
    · exact Or.inr rfl
  | case4 current point plain =>
    show Text.splitLinesFrom current [point, 0xA] = _ ∨ _
    rw [Text.splitLinesFrom, if_neg plain]
    exact Or.inl rfl
  | case5 current first second rest breaks pair inductionHypothesis =>
    show Text.splitLinesFrom current (first :: second :: (rest ++ newline)) = _ ∨
      Text.splitLinesFrom current (first :: second :: (rest ++ newline)) = _
    rw [Text.splitLinesFrom, if_pos breaks, if_pos pair]
    exact inductionHypothesis.imp (congrArg (current :: ·)) (congrArg (current :: ·))
  | case6 current first second rest breaks apart inductionHypothesis =>
    show Text.splitLinesFrom current (first :: second :: (rest ++ newline)) = _ ∨
      Text.splitLinesFrom current (first :: second :: (rest ++ newline)) = _
    rw [Text.splitLinesFrom, if_pos breaks, if_neg apart]
    exact inductionHypothesis.imp (congrArg (current :: ·)) (congrArg (current :: ·))
  | case7 current first second rest plain inductionHypothesis =>
    show Text.splitLinesFrom current (first :: second :: (rest ++ newline)) = _ ∨
      Text.splitLinesFrom current (first :: second :: (rest ++ newline)) = _
    rw [Text.splitLinesFrom, if_neg plain]
    exact inductionHypothesis

theorem splitLinesFrom_ne_nil (current : Text) {content : Text} (some : content ≠ []) :
    Text.splitLinesFrom current content ≠ [] := by
  fun_induction Text.splitLinesFrom current content with
  | case1 => exact absurd rfl some
  | case2 => exact absurd rfl some
  | case3 => exact List.cons_ne_nil _ _
  | case4 => exact List.cons_ne_nil _ _
  | case5 => exact List.cons_ne_nil _ _
  | case6 => exact List.cons_ne_nil _ _
  | case7 current first second rest plain inductionHypothesis =>
    exact inductionHypothesis (List.cons_ne_nil second rest)

/-- The lines of a text that breaks at line feeds only make the text again, up to the last line feed. -/
theorem join_splitLinesFrom (current content : Text)
    (feeds : ∀ point ∈ content, point.isLineBreak → point = 0xA) :
    ∃ ending, (ending = [] ∨ ending = newline) ∧
      Text.join newline (Text.splitLinesFrom current content) ++ ending = current ++ content := by
  fun_induction Text.splitLinesFrom current content with
  | case1 => exact ⟨[], Or.inl rfl, rfl⟩
  | case2 current => exact ⟨[], Or.inl rfl, by simp [Text.join]⟩
  | case3 current point breaks =>
    refine ⟨newline, Or.inr rfl, ?_⟩
    rw [feeds point List.mem_cons_self breaks]
    simp [Text.join, newline]
  | case4 current point plain => exact ⟨[], Or.inl rfl, by simp [Text.join]⟩
  | case5 current first second rest breaks pair inductionHypothesis =>
    have isFeed := feeds first List.mem_cons_self breaks
    rw [isFeed] at pair
    simp at pair
  | case6 current first second rest breaks apart inductionHypothesis =>
    obtain ⟨ending, isEnding, same⟩ :=
      inductionHypothesis fun point member => feeds point (List.mem_cons_of_mem first member)
    obtain ⟨line, lines, more⟩ :=
      List.exists_cons_of_ne_nil (splitLinesFrom_ne_nil [] (List.cons_ne_nil second rest))
    refine ⟨ending, isEnding, ?_⟩
    rw [more] at same ⊢
    rw [Text.join, List.intercalate_cons_cons, ← Text.join, List.append_assoc, List.append_assoc, same,
      feeds first List.mem_cons_self breaks]
    rfl
  | case7 current first second rest plain inductionHypothesis =>
    obtain ⟨ending, isEnding, same⟩ :=
      inductionHypothesis fun point member => feeds point (List.mem_cons_of_mem first member)
    exact ⟨ending, isEnding, by rw [same, List.append_assoc, List.singleton_append]⟩

/-! ### Lines as `split` gives them -/

theorem newline_not_mem_of_mem_splitOn {content line : Text}
    (member : line ∈ content.splitOn (0xA : CodePoint)) : (0xA : CodePoint) ∉ line := by
  induction content generalizing line with
  | nil => simp_all
  | cons point rest inductionHypothesis =>
    rw [List.splitOn_cons_eq_if_modifyHead] at member
    split at member
    · obtain rfl | inRest := List.mem_cons.mp member
      · exact List.not_mem_nil
      · exact inductionHypothesis inRest
    · rename_i apart
      cases lines : rest.splitOn (0xA : CodePoint) with
      | nil => exact absurd lines (List.splitOn_ne_nil _ _)
      | cons head others =>
        rw [lines, List.modifyHead_cons] at member
        rw [lines] at inductionHypothesis
        obtain rfl | inOthers := List.mem_cons.mp member
        · intro feed
          obtain same | inHead := List.mem_cons.mp feed
          · exact apart (beq_iff_eq.mpr same.symm)
          · exact inductionHypothesis List.mem_cons_self inHead
        · exact inductionHypothesis (List.mem_cons_of_mem _ inOthers)

theorem splitOn_join {lines : List Text} (some : lines ≠ [])
    (plain : ∀ line ∈ lines, (0xA : CodePoint) ∉ line) :
    (Text.join newline lines).splitOn (0xA : CodePoint) = lines :=
  List.splitOn_intercalate _ plain some

/-! ### Lines of any break -/

/-- What reading in text mode makes of line breaks. -/
def universal : Text → Text
  | [] => []
  | [0xD] => [0xA]
  | 0xD :: 0xA :: rest => 0xA :: universal rest
  | 0xD :: rest => 0xA :: universal rest
  | point :: rest => point :: universal rest

/-- The lines that a line feed ends, without it. -/
def endedLines (content : Text) : List Text := (content.splitOn 0xA).dropLast

/-- What stands after the last line feed. -/
def lastLine (content : Text) : Text := (content.splitOn 0xA).getLastD []

/-- The last line, where there is one. -/
def unlessEmpty (line : Text) : List Text := if line = [] then [] else [line]

/-- The lines of a text, without their line feeds. -/
def linesOf (content : Text) : List Text := endedLines content ++ unlessEmpty (lastLine content)

theorem join_concat (lines : List Text) (last : Text) :
    Text.join newline (lines ++ [last]) = linesText lines ++ last := by
  induction lines with
  | nil => exact List.intercalate_singleton
  | cons line rest inductionHypothesis =>
    have more : rest ++ [last] ≠ [] := List.append_ne_nil_of_right_ne_nil _ (List.cons_ne_nil _ _)
    rw [Text.join] at inductionHypothesis ⊢
    rw [List.cons_append, List.intercalate_cons_of_ne_nil more, inductionHypothesis]
    simp only [linesText, List.flatMap_cons, List.append_assoc]

theorem endedLines_concat (content : Text) :
    endedLines content ++ [lastLine content] = content.splitOn 0xA := by
  have some := List.splitOn_ne_nil (0xA : CodePoint) content
  rw [endedLines, lastLine, List.getLastD_eq_getLast?, List.getLast?_eq_some_getLast some]
  exact List.dropLast_append_getLast some

theorem linesText_lastLine (content : Text) :
    linesText (endedLines content) ++ lastLine content = content := by
  rw [← join_concat, endedLines_concat]
  exact List.intercalate_splitOn _

theorem split_plain {ended : List Text} {last : Text} (plain : ∀ line ∈ ended, 0xA ∉ line)
    (plainLast : 0xA ∉ last) :
    endedLines (linesText ended ++ last) = ended ∧
      lastLine (linesText ended ++ last) = last := by
  have pieces : (linesText ended ++ last).splitOn (0xA : CodePoint) = ended ++ [last] := by
    rw [← join_concat]
    refine splitOn_join (List.append_ne_nil_of_right_ne_nil _ (List.cons_ne_nil _ _)) ?_
    intro line member
    rcases List.mem_append.mp member with isEnded | isLast
    · exact plain line isEnded
    · rw [List.mem_singleton.mp isLast]
      exact plainLast
  rw [endedLines, lastLine, pieces]
  exact ⟨List.dropLast_concat, List.getLastD_concat⟩

theorem mem_unlessEmpty {line last : Text} : line ∈ unlessEmpty last ↔ line = last ∧ last ≠ [] := by
  unfold unlessEmpty
  split
  · rename_i nothing
    simp [nothing]
  · rename_i some
    simp [some]

/-- Every line is one of the pieces between line feeds. -/
theorem mem_splitOn_of_mem_linesOf {content line : Text} (member : line ∈ linesOf content) :
    line ∈ content.splitOn (0xA : CodePoint) := by
  rw [← endedLines_concat]
  rcases List.mem_append.mp member with isEnded | isLast
  · exact List.mem_append_left _ isEnded
  · rw [(mem_unlessEmpty.mp isLast).1]
    exact List.mem_append_right _ (List.mem_singleton_self _)

theorem universal_plain (content : Text) : (0xD : CodePoint) ∉ universal content := by
  fun_induction universal content with
  | case5 point rest _ _ other inductionHypothesis =>
    rintro (_ | ⟨_, inRest⟩)
    · exact other rfl
    · exact inductionHypothesis inRest
  | _ => simp_all

theorem universal_of_plain {content : Text} (plain : (0xD : CodePoint) ∉ content) :
    universal content = content := by
  fun_induction universal content <;> simp_all

theorem mem_of_mem_linesText {lines : List Text} {line : Text} (member : line ∈ lines)
    {point : CodePoint} (inside : point ∈ line) : point ∈ linesText lines :=
  List.mem_flatMap.mpr ⟨line, member, List.mem_append_left _ inside⟩

/-- Neither a line feed nor a carriage return is in the line. -/
def OneLine (line : Text) : Prop := 0xA ∉ line ∧ 0xD ∉ line

instance (line : Text) : Decidable (OneLine line) := inferInstanceAs (Decidable (_ ∧ _))

theorem oneLine_of_mem {content : Text} (plain : (0xD : CodePoint) ∉ content) {line : Text}
    (member : line ∈ linesOf content) : OneLine line := by
  refine ⟨newline_not_mem_of_mem_splitOn (mem_splitOn_of_mem_linesOf member),
    fun carriage => plain ?_⟩
  rw [← linesText_lastLine content]
  rcases List.mem_append.mp member with isEnded | isLast
  · exact List.mem_append_left _ (mem_of_mem_linesText isEnded carriage)
  · rw [(mem_unlessEmpty.mp isLast).1] at carriage
    exact List.mem_append_right _ carriage

theorem oneLine_append {front back : Text} (first : OneLine front) (second : OneLine back) :
    OneLine (front ++ back) :=
  ⟨fun member => (List.mem_append.mp member).elim first.1 second.1,
    fun member => (List.mem_append.mp member).elim first.2 second.2⟩

/-- Lines without line breaks are what a text of them is read as. -/
theorem linesOf_linesText {lines : List Text} (plain : ∀ line ∈ lines, OneLine line) :
    linesOf (universal (linesText lines)) = lines := by
  have noCarriage : (0xD : CodePoint) ∉ linesText lines := by
    intro carriage
    obtain ⟨line, member, inside⟩ := List.mem_flatMap.mp carriage
    rcases List.mem_append.mp inside with inLine | inBreak
    · exact (plain line member).2 inLine
    · exact absurd inBreak (by decide)
  have split := split_plain (fun line member => (plain line member).1)
    (List.not_mem_nil : (0xA : CodePoint) ∉ [])
  rw [List.append_nil] at split
  rw [universal_of_plain noCarriage, linesOf, split.1, split.2]
  exact List.append_nil lines

end LineLayout

end LocalGpuCluster
