/-
This file proves what a run of `write_config_env` leaves of `config.env`: each key has one live line
and no commented-out copy, the other lines are kept, and a run that fails leaves the old file. Lines
are those of text mode, so a file with other line breaks gets line feeds.
-/

import LocalGpuCluster.ConfigEnv

namespace LocalGpuCluster

namespace ConfigEnv

open ChatSwap (Settings Profile getProfile)
open LineLayout

/-! ### Lines that stand for a key -/

/-- What a line of the key starts with, up to the equals sign. -/
def forms (key : ConfigKey) : List Text := [key.name, text "# " ++ key.name, text "#" ++ key.name]

theorem mem_configKeys (key : ConfigKey) : key ∈ configKeys := by cases key <;> decide

theorem nodup_configKeys : configKeys.Nodup := by decide

theorem forms_plain : ∀ key ∈ configKeys, ∀ form ∈ forms key,
    0x3D ∉ form ∧ 0xA ∉ form ∧ form.head?.any (fun point => !point.isSpace) := by
  decide +kernel

theorem forms_disjoint : ∀ key ∈ configKeys, ∀ other ∈ configKeys, ∀ form ∈ forms key,
    form ∈ forms other → key = other := by
  decide +kernel

/-- The line starts with the form and an equals sign. -/
def Starts (form line : Text) : Prop :=
  form ++ text "=" <+: Text.stripLeft CodePoint.isSpace line

theorem isLive_iff {key : ConfigKey} {line : Text} :
    key.isLive line = true ↔ Starts key.name line :=
  List.isPrefixOf_iff_prefix

theorem isCommented_iff {key : ConfigKey} {line : Text} :
    key.isCommented line = true ↔
      Starts (text "# " ++ key.name) line ∨ Starts (text "#" ++ key.name) line := by
  rw [ConfigKey.isCommented, Bool.or_eq_true]
  exact or_congr List.isPrefixOf_iff_prefix List.isPrefixOf_iff_prefix

theorem belongs_iff {key : ConfigKey} {line : Text} :
    (key.isLive line || key.isCommented line) = true ↔ ∃ form ∈ forms key, Starts form line := by
  rw [Bool.or_eq_true, isLive_iff, isCommented_iff]
  simp [forms]

/-- What stands before the first equals sign is one text. -/
theorem Starts.unique {form other line : Text} (starts : Starts form line)
    (startsToo : Starts other line) (plain : 0x3D ∉ form) (plainToo : 0x3D ∉ other) :
    form = other := by
  have reads : ∀ {form : Text}, Starts form line → 0x3D ∉ form →
      (Text.stripLeft CodePoint.isSpace line).takeWhile (· ≠ 0x3D) = form := by
    rintro form ⟨rest, whole⟩ plain
    rw [← whole, List.append_assoc, List.takeWhile_append_of_pos]
    · exact List.append_nil form
    · intro point member
      exact decide_eq_true fun equals => plain (equals ▸ member)
  rw [← reads starts plain, reads startsToo plainToo]

theorem belongs_of_keyOf {key : ConfigKey} {line : Text} (found : keyOf line = some key) :
    ∃ form ∈ forms key, Starts form line :=
  belongs_iff.mp (List.find?_eq_some_iff_append.mp found).1

theorem keyOf_eq_some_iff {key : ConfigKey} {line : Text} :
    keyOf line = some key ↔ ∃ form ∈ forms key, Starts form line := by
  constructor
  · exact belongs_of_keyOf
  · rintro ⟨form, isForm, starts⟩
    have found : (keyOf line).isSome :=
      List.find?_isSome.mpr ⟨key, mem_configKeys key, belongs_iff.mpr ⟨form, isForm, starts⟩⟩
    obtain ⟨other, isOther⟩ := Option.isSome_iff_exists.mp found
    obtain ⟨otherForm, isOtherForm, otherStarts⟩ := belongs_of_keyOf isOther
    have same := starts.unique otherStarts
      (forms_plain key (mem_configKeys key) form isForm).1
      (forms_plain other (mem_configKeys other) otherForm isOtherForm).1
    subst same
    rw [isOther, forms_disjoint key (mem_configKeys key) other (mem_configKeys other) form isForm
      isOtherForm]

/-- A line feed at the end of a line does not matter. -/
theorem starts_append_newline {form line : Text} (plain : 0xA ∉ form) :
    Starts form (line ++ newline) ↔ Starts form line := by
  have feedFree : (0xA : CodePoint) ∉ form ++ text "=" := by
    rw [List.mem_append]
    exact not_or.mpr ⟨plain, by decide⟩
  have some : form ++ text "=" ≠ [] := List.append_ne_nil_of_right_ne_nil _ (by decide)
  unfold Starts Text.stripLeft
  rw [List.dropWhile_append]
  split
  · rename_i blank
    rw [List.isEmpty_iff.mp blank]
    rfl
  · unfold newline
    rw [List.prefix_concat_iff]
    constructor
    · rintro (whole | starts)
      · exact absurd (whole ▸ List.mem_append_right _ (List.mem_singleton_self _)) feedFree
      · exact starts
    · exact Or.inr

theorem keyOf_append_newline (line : Text) : keyOf (line ++ newline) = keyOf line := by
  refine Option.ext fun key => ?_
  rw [keyOf_eq_some_iff, keyOf_eq_some_iff]
  refine exists_congr fun form => and_congr_right fun isForm => ?_
  exact starts_append_newline (forms_plain key (mem_configKeys key) form isForm).2.1

theorem isLive_line (settings : Settings) (key : ConfigKey) :
    key.isLive (key.line settings) = true := by
  have head : key.name.head?.any (fun point => !point.isSpace) = true :=
    (forms_plain key (mem_configKeys key) key.name List.mem_cons_self).2.2
  rw [isLive_iff, Starts, ConfigKey.line]
  cases name : key.name with
  | nil =>
    rw [name] at head
    cases head
  | cons first rest =>
    rw [name] at head
    have notSpace : first.isSpace = false := by simpa using head
    rw [Text.stripLeft, List.cons_append, List.cons_append,
      List.dropWhile_cons_of_neg (by simp [notSpace])]
    exact List.prefix_append _ _

theorem keyOf_line (settings : Settings) (key : ConfigKey) :
    keyOf (key.line settings) = some key :=
  keyOf_eq_some_iff.mpr ⟨key.name, List.mem_cons_self, isLive_iff.mp (isLive_line settings key)⟩

/-- A live line is not commented out as well, whatever the key. -/
theorem not_isCommented_of_isLive {key other : ConfigKey} {line : Text}
    (live : key.isLive line = true) : other.isCommented line = false := by
  rw [Bool.eq_false_iff]
  intro commented
  have own := (forms_plain key (mem_configKeys key) key.name List.mem_cons_self).1
  rw [isLive_iff] at live
  have differ : key.name ≠ text "# " ++ other.name ∧ key.name ≠ text "#" ++ other.name := by
    cases key <;> cases other <;> decide
  have others := forms_plain other (mem_configKeys other)
  rcases isCommented_iff.mp commented with starts | starts
  · exact differ.1 (live.unique starts own (others _ (by simp [forms])).1)
  · exact differ.2 (live.unique starts own (others _ (by simp [forms])).1)

/-! ### Lines of a file -/

theorem flatten_readLines (content : Text) : (readLines content).flatten = content := by
  have last : (unlessEmpty (lastLine content)).flatten = lastLine content := by
    unfold unlessEmpty
    split
    · rename_i nothing
      exact nothing.symm
    · exact List.flatten_singleton
  rw [readLines, List.flatten_append, last, ← List.flatMap_def]
  exact linesText_lastLine content

/-! ### The new lines -/

section NewLines

variable (settings : Settings)

/-- The lines rewritten, without line feeds, and the keys that were written. -/
abbrev rewriteLines (lines : List Text) : List Text × List ConfigKey :=
  FirstWins.rewrite keyOf (ConfigKey.line settings) [] lines

/-- The keys without a line. -/
def missingOf (lines : List Text) : List ConfigKey :=
  configKeys.filter (· ∉ (rewriteLines settings lines).2)

/-- The lines appended for the keys without one. -/
def block (missing : List ConfigKey) : List Text :=
  if missing = [] then [] else [] :: header :: missing.map (ConfigKey.line settings)

/-- The lines of the new file. -/
def newLines (lines : List Text) : List Text :=
  (rewriteLines settings lines).1 ++ block settings (missingOf settings lines)

theorem keyOf_nil : keyOf [] = none := by decide

theorem keyOf_header : keyOf header = none := by decide +kernel

/-- Rewriting the lines with their line feeds is rewriting them without: only a last line that is no
key's is without one afterwards. -/
theorem rewrite_readLines (content : Text) :
    ∃ ended last, ended ++ unlessEmpty last = (rewriteLines settings (linesOf content)).1 ∧
      keyOf last = none ∧
      FirstWins.rewrite keyOf (fun key => key.line settings ++ newline) [] (readLines content) =
        (ended.map (· ++ newline) ++ unlessEmpty last,
          (rewriteLines settings (linesOf content)).2) := by
  have ends : FirstWins.rewrite keyOf (fun key => key.line settings ++ newline) []
      ((endedLines content).map (· ++ newline)) =
        ((FirstWins.rewrite keyOf (ConfigKey.line settings) [] (endedLines content)).1.map
            (· ++ newline),
          (FirstWins.rewrite keyOf (ConfigKey.line settings) [] (endedLines content)).2) :=
    FirstWins.rewrite_map (· ++ newline) keyOf_append_newline (fun _ => rfl) _
  rw [readLines, linesOf, rewriteLines, FirstWins.rewrite_append, FirstWins.rewrite_append, ends]
  clear ends
  generalize lastLine content = last
  generalize FirstWins.rewrite keyOf (ConfigKey.line settings) [] (endedLines content) = before
  obtain ⟨lines, written⟩ := before
  by_cases nothing : last = []
  · subst nothing
    exact ⟨lines, [], rfl, keyOf_nil, rfl⟩
  · rw [unlessEmpty, if_neg nothing]
    cases isKey : keyOf last with
    | none =>
      refine ⟨lines, last, ?_, isKey, ?_⟩
      · rw [unlessEmpty, if_neg nothing, FirstWins.rewrite_other isKey]
        rfl
      · rw [unlessEmpty, if_neg nothing, FirstWins.rewrite_other isKey,
          FirstWins.rewrite_other isKey]
        rfl
    | some key =>
      by_cases again : key ∈ written
      · refine ⟨lines, [], ?_, keyOf_nil, ?_⟩
        · rw [FirstWins.rewrite_again isKey again]
          rfl
        · rw [FirstWins.rewrite_again isKey again, FirstWins.rewrite_again isKey again]
          rfl
      · refine ⟨lines ++ [key.line settings], [], ?_, keyOf_nil, ?_⟩
        · rw [FirstWins.rewrite_first isKey again]
          exact List.append_nil _
        · rw [FirstWins.rewrite_first isKey again, FirstWins.rewrite_first isKey again,
            List.map_append]
          exact Prod.ext (List.append_nil _).symm rfl

theorem newline_isSuffixOf {line : Text} :
    newline.isSuffixOf line = true ↔ ∃ front, line = front ++ newline := by
  rw [List.isSuffixOf_iff_suffix]
  exact exists_congr fun _ => eq_comm

omit settings in
/-- A last line without a line feed gets one. -/
theorem flatten_closed (ended : List Text) {last : Text} (plain : 0xA ∉ last) :
    (ended.map (· ++ newline) ++ unlessEmpty last ++
      (if (ended.map (· ++ newline) ++ unlessEmpty last).getLast?.any
        (fun last => !newline.isSuffixOf last) then [newline] else [])).flatten =
      linesText (ended ++ unlessEmpty last) := by
  by_cases nothing : last = []
  · subst nothing
    have closed : ((ended.map (· ++ newline) ++ unlessEmpty []).getLast?.any
        fun last => !newline.isSuffixOf last) = false := by
      rw [unlessEmpty, if_pos rfl, List.append_nil, List.getLast?_map, Option.any_map]
      cases ended.getLast? with
      | none => rfl
      | some line => simp
    rw [closed, unlessEmpty, if_pos rfl, List.append_nil, List.append_nil, if_neg Bool.false_ne_true,
      List.append_nil]
    exact List.flatMap_def.symm
  · have unclosed : ((ended.map (· ++ newline) ++ unlessEmpty last).getLast?.any
        fun last => !newline.isSuffixOf last) = true := by
      rw [unlessEmpty, if_neg nothing, List.getLast?_concat, Option.any_some, Bool.not_eq_true',
        Bool.eq_false_iff]
      intro ends
      obtain ⟨front, whole⟩ := newline_isSuffixOf.mp ends
      exact plain (whole ▸ List.mem_append_right _ (List.mem_singleton_self _))
    rw [unclosed, if_pos rfl, unlessEmpty, if_neg nothing, linesText_append,
      List.flatten_append, List.flatten_append, List.append_assoc, ← List.flatMap_def]
    congr 1
    simp [linesText]

/-- The last line gets its line feed before the block. -/
theorem flatten_appendMissing (ended : List Text) {last : Text} (plain : 0xA ∉ last)
    (missing : List ConfigKey) :
    (appendMissing settings (ended.map (· ++ newline) ++ unlessEmpty last) missing).flatten =
      if missing = [] then linesText ended ++ last
      else linesText (ended ++ unlessEmpty last ++ block settings missing) := by
  have ends : (ended.map (· ++ newline)).flatten = linesText ended :=
    List.flatMap_def.symm
  have blockText : (missing.map fun key => key.line settings ++ newline).flatten =
      linesText (missing.map (ConfigKey.line settings)) := by
    rw [linesText, List.flatMap_map, List.flatMap_def]
  unfold appendMissing
  split
  · by_cases nothing : last = []
    · subst nothing
      rw [unlessEmpty, if_pos rfl, List.append_nil, ends, List.append_nil]
    · rw [unlessEmpty, if_neg nothing, List.flatten_append, ends, List.flatten_singleton]
  · rename_i some
    rw [List.flatten_append, List.flatten_append, flatten_closed ended plain, blockText,
      linesText_append _ (block settings missing), block, if_neg some, List.append_assoc]
    rfl

/-- The new text: it has the new lines, and a last line without a line feed is no key's. -/
theorem exists_render (content : Text) :
    ∃ ended last, ended ++ unlessEmpty last = newLines settings (linesOf content) ∧
      keyOf last = none ∧
      render settings (readLines content) = linesText ended ++ last := by
  obtain ⟨ended, last, lines, other, rewritten⟩ := rewrite_readLines settings content
  have plain : (0xA : CodePoint) ∉ last := by
    by_cases nothing : last = []
    · rw [nothing]
      exact List.not_mem_nil
    · have member : last ∈ (rewriteLines settings (linesOf content)).1 :=
        lines ▸ List.mem_append_right _ (mem_unlessEmpty.mpr ⟨rfl, nothing⟩)
      rcases FirstWins.mem_of_mem_rewrite (keyOf_line settings) member with old | ⟨key, rfl⟩
      · exact newline_not_mem_of_mem_splitOn (mem_splitOn_of_mem_linesOf old)
      · rw [keyOf_line] at other
        cases other
  unfold render
  rw [rewritten]
  dsimp only
  rw [flatten_appendMissing settings ended plain]
  split
  · rename_i complete
    refine ⟨ended, last, ?_, other, rfl⟩
    rw [newLines, missingOf, complete, lines]
    exact (List.append_nil _).symm
  · refine ⟨newLines settings (linesOf content), [], List.append_nil _, keyOf_nil, ?_⟩
    rw [lines, List.append_nil]
    rfl

/-! ### What they are -/

theorem mem_missingOf {key : ConfigKey} {lines : List Text} :
    key ∈ missingOf settings lines ↔ ¬ ∃ line ∈ lines, keyOf line = some key := by
  rw [missingOf, List.mem_filter, decide_eq_true_eq, FirstWins.mem_written]
  simp [mem_configKeys]

theorem filter_block {missing : List ConfigKey} (distinct : missing.Nodup) (key : ConfigKey) :
    (block settings missing).filter (fun line => keyOf line = some key) =
      if key ∈ missing then [key.line settings] else [] := by
  have keyLines : (missing.map (ConfigKey.line settings)).filter (fun line => keyOf line = some key) =
      if key ∈ missing then [key.line settings] else [] := by
    have isKey : ((fun line => decide (keyOf line = some key)) ∘ ConfigKey.line settings) =
        fun other => decide (other = key) := by
      funext other
      simp only [Function.comp_apply, keyOf_line, Option.some.injEq]
    rw [List.filter_map, isKey, List.filter_eq]
    split
    · rename_i member
      rw [List.count_eq_one_of_mem distinct member]
      rfl
    · rename_i absent
      rw [List.count_eq_zero_of_not_mem absent]
      rfl
  unfold block
  split
  · rename_i nothing
    rw [nothing]
    rfl
  · rw [List.filter_cons_of_neg (by simp [keyOf_nil]),
      List.filter_cons_of_neg (by simp [keyOf_header]), keyLines]

/-- Each key has one line. -/
theorem filter_newLines (lines : List Text) (key : ConfigKey) :
    (newLines settings lines).filter (fun line => keyOf line = some key) = [key.line settings] := by
  have distinct : (missingOf settings lines).Nodup := nodup_configKeys.filter _
  rw [newLines, List.filter_append, FirstWins.filter_key (keyOf_line settings),
    filter_block settings distinct]
  by_cases present : ∃ line ∈ lines, keyOf line = some key
  · rw [if_pos ⟨List.not_mem_nil, present⟩, if_neg fun missing =>
      (mem_missingOf settings).mp missing present]
    rfl
  · rw [if_neg fun both => present both.2, if_pos ((mem_missingOf settings).mpr present)]
    rfl

/-- The lines of no key are the old ones and what begins the block. -/
theorem filter_other_newLines (lines : List Text) :
    (newLines settings lines).filter (fun line => (keyOf line).isNone) =
      lines.filter (fun line => (keyOf line).isNone) ++
        if missingOf settings lines = [] then [] else [[], header] := by
  rw [newLines, List.filter_append, FirstWins.filter_other fun key => by rw [keyOf_line]; rfl]
  congr 1
  unfold block
  split
  · rfl
  · have keyLines : ((missingOf settings lines).map (ConfigKey.line settings)).filter
        (fun line => (keyOf line).isNone) = [] := by
      rw [List.filter_eq_nil_iff]
      intro line member
      obtain ⟨key, -, rfl⟩ := List.mem_map.mp member
      rw [keyOf_line]
      exact Bool.false_ne_true
    rw [List.filter_cons_of_pos (by rw [keyOf_nil]; rfl),
      List.filter_cons_of_pos (by rw [keyOf_header]; rfl), keyLines]

theorem eq_line_of_mem_newLines {lines : List Text} {line : Text} {key : ConfigKey}
    (member : line ∈ newLines settings lines) (isKey : keyOf line = some key) :
    line = key.line settings := by
  have found : line ∈ (newLines settings lines).filter (fun line => keyOf line = some key) :=
    List.mem_filter.mpr ⟨member, decide_eq_true isKey⟩
  rw [filter_newLines] at found
  exact List.mem_singleton.mp found

/-! ### A second run -/

variable {settings}

/-- The values of the settings are on one line each. -/
def Writable (settings : Settings) : Prop := ∀ key : ConfigKey, OneLine (key.value settings)

theorem oneLine_name (key : ConfigKey) : OneLine key.name := by
  cases key <;> decide

theorem oneLine_line (writable : Writable settings) (key : ConfigKey) :
    OneLine (key.line settings) :=
  oneLine_append (oneLine_append (oneLine_name key) (by decide)) (writable key)

theorem oneLine_newLines (writable : Writable settings) {lines : List Text}
    (plain : ∀ line ∈ lines, OneLine line) : ∀ line ∈ newLines settings lines, OneLine line := by
  intro line member
  rcases List.mem_append.mp member with rewritten | appended
  · rcases FirstWins.mem_of_mem_rewrite (keyOf_line settings) rewritten with old | ⟨key, rfl⟩
    · exact plain line old
    · exact oneLine_line writable key
  · unfold block at appended
    split at appended
    · exact absurd appended List.not_mem_nil
    · obtain rfl | rfl | isKey := List.mem_cons.mp appended |>.imp_right List.mem_cons.mp
      · exact ⟨List.not_mem_nil, List.not_mem_nil⟩
      · decide +kernel
      · obtain ⟨key, -, rfl⟩ := List.mem_map.mp isKey
        exact oneLine_line writable key

/-- What a run writes, of a text without carriage returns. -/
structure Renders (settings : Settings) (content new : Text) : Prop where
  lines : linesOf new = newLines settings (linesOf content)
  plain : (0xD : CodePoint) ∉ new
  again : render settings (readLines new) = new

/-- Rewriting lines that were rewritten changes nothing. -/
theorem rewrite_again_lines {ended : List Text} {last : Text} {lines : List Text}
    (isNew : ended ++ unlessEmpty last = newLines settings lines) (other : keyOf last = none) :
    let again := FirstWins.rewrite keyOf (fun key => key.line settings ++ newline) []
      (ended.map (· ++ newline) ++ unlessEmpty last)
    again.1 = ended.map (· ++ newline) ++ unlessEmpty last ∧
      configKeys.filter (· ∉ again.2) = [] := by
  have keys : (ended.map (· ++ newline) ++ unlessEmpty last).filterMap keyOf =
      (newLines settings lines).filterMap keyOf := by
    rw [← isNew, List.filterMap_append, List.filterMap_append, List.filterMap_map]
    congr 1
    exact List.filterMap_congr fun line _ => keyOf_append_newline line
  dsimp only
  constructor
  · refine FirstWins.rewrite_eq_self ?_ ?_ fun _ _ => List.not_mem_nil
    · intro line member key isKey
      rcases List.mem_append.mp member with isEnded | isLast
      · obtain ⟨front, isFront, rfl⟩ := List.mem_map.mp isEnded
        rw [keyOf_append_newline] at isKey
        rw [eq_line_of_mem_newLines settings (isNew ▸ List.mem_append_left _ isFront) isKey]
      · rw [(mem_unlessEmpty.mp isLast).1, other] at isKey
        cases isKey
    · rw [keys]
      refine FirstWins.nodup_filterMap fun key => ?_
      rw [filter_newLines]
      exact le_refl 1
  · rw [List.filter_eq_nil_iff]
    intro key _
    rw [decide_eq_true_eq, not_not, FirstWins.mem_written]
    refine .inr ?_
    have written : key ∈ (newLines settings lines).filterMap keyOf := by
      have found : key.line settings ∈ (newLines settings lines).filter
          fun line => keyOf line = some key := by
        rw [filter_newLines]
        exact List.mem_singleton_self _
      exact List.mem_filterMap.mpr ⟨_, (List.mem_filter.mp found).1, keyOf_line settings key⟩
    rw [← keys] at written
    exact List.mem_filterMap.mp written

theorem renders (writable : Writable settings) {content : Text}
    (plain : (0xD : CodePoint) ∉ content) :
    Renders settings content (render settings (readLines content)) := by
  obtain ⟨ended, last, isNew, other, written⟩ := exists_render settings content
  have oneLine : ∀ line ∈ ended ++ unlessEmpty last, OneLine line := by
    rw [isNew]
    exact oneLine_newLines writable fun line member => oneLine_of_mem plain member
  have oneLineLast : OneLine last := by
    by_cases nothing : last = []
    · rw [nothing]
      exact ⟨List.not_mem_nil, List.not_mem_nil⟩
    · exact oneLine last (List.mem_append_right _ (mem_unlessEmpty.mpr ⟨rfl, nothing⟩))
  have oneLineEnded : ∀ line ∈ ended, OneLine line := fun line member =>
    oneLine line (List.mem_append_left _ member)
  have split := split_plain (fun line member => (oneLineEnded line member).1) oneLineLast.1
  rw [written]
  refine ⟨?_, ?_, ?_⟩
  · rw [linesOf, split.1, split.2, isNew]
  · intro carriage
    rcases List.mem_append.mp carriage with inEnded | inLast
    · obtain ⟨line, member, inside⟩ := List.mem_flatMap.mp inEnded
      rcases List.mem_append.mp inside with inLine | inBreak
      · exact (oneLineEnded line member).2 inLine
      · exact absurd inBreak (by decide)
    · exact oneLineLast.2 inLast
  · have again := rewrite_again_lines isNew other
    have reads := flatten_readLines (linesText ended ++ last)
    rw [readLines, split.1, split.2] at reads ⊢
    unfold render
    dsimp only at again ⊢
    rw [again.1, again.2]
    exact reads

end NewLines

/-! ### A run -/

/-- The line is neither a live line of a key nor a commented-out copy. -/
def isOther (line : Text) : Bool := (keyOf line).isNone

/-- What a text is to the lines it was made of. -/
structure Rewritten (settings : Settings) (lines : List Text) (new : Text) : Prop where
  live : ∀ key : ConfigKey, (linesOf new).filter key.isLive = [key.line settings]
  uncommented : ∀ key : ConfigKey, ∀ line ∈ linesOf new, key.isCommented line = false
  kept : ∃ block, (linesOf new).filter isOther = lines.filter isOther ++ block ∧
    (block = [] ∨ block = [[], header])

/-- What a run did, to a file of these lines; whether it may leave its temporary file. -/
structure Configured (settings : Settings) (faults : Faults) (lines : List Text) (mayLeave : Prop)
    (config : Option Text) (after : Directory × Bool) : Prop where
  returns_iff : after.2 = true ↔ (faults.read || faults.mkstemp || faults.fdopen ||
    faults.write.isSome || faults.chmod || faults.replace) = false
  done : after.2 = true → ∃ new, after.1 = ⟨some new, none⟩ ∧ Rewritten settings lines new ∧
    ∀ later, (writeConfigEnv settings later (some new)).1.config = some new
  failed : after.2 = false → after.1.config = config ∧ (mayLeave ∨ after.1.temporary = none)

variable {settings : Settings}

theorem rewritten_of_renders {content new : Text} (renders : Renders settings content new) :
    Rewritten settings (linesOf content) new where
  live key := by
    rw [renders.lines, ← filter_newLines settings (linesOf content) key]
    refine List.filter_congr fun line member => ?_
    rw [Bool.eq_iff_iff, decide_eq_true_eq]
    constructor
    · intro live
      exact keyOf_eq_some_iff.mpr ⟨key.name, List.mem_cons_self, isLive_iff.mp live⟩
    · intro isKey
      rw [eq_line_of_mem_newLines settings member isKey]
      exact isLive_line settings key
  uncommented key line member := by
    rw [renders.lines] at member
    rw [Bool.eq_false_iff]
    intro commented
    have isKey : keyOf line = some key := keyOf_eq_some_iff.mpr
      (belongs_iff.mp (by rw [commented, Bool.or_true]))
    rw [eq_line_of_mem_newLines settings member isKey,
      not_isCommented_of_isLive (isLive_line settings key)] at commented
    cases commented
  kept := by
    refine ⟨_, (congrArg _ renders.lines).trans (filter_other_newLines settings _), ?_⟩
    split
    · exact .inl rfl
    · exact .inr rfl

/-- A run that returned wrote what it renders, and one that failed left the old file. -/
theorem writeConfigEnv_cases (settings : Settings) (faults : Faults) (config : Option Text) :
    let new := render settings (readLines (universal (config.getD [])))
    let after := writeConfigEnv settings faults config
    (after.2 = true ↔ (faults.read || faults.mkstemp || faults.fdopen || faults.write.isSome ||
        faults.chmod || faults.replace) = false) ∧
      (after.2 = true → after.1 = ⟨some new, none⟩) ∧
      (after.2 = false → after.1.config = config ∧
        (faults.unlink = true ∨ after.1.temporary = none)) := by
  obtain ⟨read, mkstemp, fdopen, write, chmod, replace, unlink⟩ := faults
  cases read <;> cases mkstemp <;> cases fdopen <;> cases write <;> cases chmod <;>
    cases replace <;> cases unlink <;> simp [writeConfigEnv, fill, cleanUp]

/-- Whatever fails, a file that renders as itself stays. -/
theorem config_eq_of_fixed {content : Text} (plain : (0xD : CodePoint) ∉ content)
    (fixed : render settings (readLines content) = content) (faults : Faults) :
    (writeConfigEnv settings faults (some content)).1.config = some content := by
  have cases' := writeConfigEnv_cases settings faults (some content)
  dsimp only [Option.getD_some] at cases'
  rw [universal_of_plain plain, fixed] at cases'
  cases returned : (writeConfigEnv settings faults (some content)).2 with
  | false => exact (cases'.2.2 returned).1
  | true => rw [cases'.2.1 returned]

theorem configured_of_writable (writable : Writable settings) (faults : Faults)
    (config : Option Text) :
    Configured settings faults (linesOf (universal (config.getD []))) (faults.unlink = true) config
      (writeConfigEnv settings faults config) := by
  obtain ⟨returns_iff, done, failed⟩ := writeConfigEnv_cases settings faults config
  refine ⟨returns_iff, fun returned => ?_, failed⟩
  have isNew := renders writable (universal_plain (config.getD []))
  exact ⟨_, done returned, rewritten_of_renders isNew, config_eq_of_fixed isNew.plain isNew.again⟩

/-! ### The profiles -/

instance (settings : Settings) : Decidable (Writable settings) :=
  decidable_of_iff (∀ key ∈ configKeys, OneLine (key.value settings))
    ⟨fun all key => all key (mem_configKeys key), fun all key _ => all key⟩

theorem of_lookup {Value : Type} {table : List (String × Value)} (holds : Value → Prop)
    [DecidablePred holds] (all : (table.all fun entry => decide (holds entry.2)) = true)
    {name : String} {value : Value} (found : table.lookup name = some value) : holds value := by
  obtain ⟨front, back, whole, -⟩ := List.lookup_eq_some_iff.mp found
  have member : (name, value) ∈ table := whole ▸ List.mem_append_right _ List.mem_cons_self
  exact of_decide_eq_true (List.all_eq_true.mp all _ member)

theorem writable_of_getProfile {name : String} {profile : Profile}
    (known : getProfile name = some profile) : Writable profile.settings := by
  unfold getProfile at known
  exact of_lookup (fun profile => Writable profile.settings) (by decide +kernel) known

/-- A run for a profile gives each key one live line with the profile's value and leaves no
commented-out copy, keeps the other lines with line feeds after them, and is the last change: a
second run changes nothing. A run that fails leaves the old file, and no temporary one unless
removing it fails as well. -/
theorem writeConfigEnv_configured {name : String} {profile : Profile}
    (known : getProfile name = some profile) (faults : Faults) (config : Option Text) :
    Configured profile.settings faults (linesOf (universal (config.getD [])))
      (faults.unlink = true) config (writeConfigEnv profile.settings faults config) :=
  configured_of_writable (writable_of_getProfile known) faults config

/-- The default profile. -/
def qwen36 : Profile := (getProfile "qwen3.6").get (by decide)

theorem known_qwen36 : getProfile "qwen3.6" = some qwen36 := (Option.some_get _).symm

theorem qwen36_configured :
    Configured qwen36.settings Faults.none
      (linesOf (universal (text "A=1\n  # LLAMA_CTX=5\nLLAMA_CTX=6"))) (Faults.none.unlink = true)
      (some (text "A=1\n  # LLAMA_CTX=5\nLLAMA_CTX=6"))
      (writeConfigEnv qwen36.settings Faults.none
        (some (text "A=1\n  # LLAMA_CTX=5\nLLAMA_CTX=6"))) :=
  writeConfigEnv_configured known_qwen36 Faults.none
    (some (text "A=1\n  # LLAMA_CTX=5\nLLAMA_CTX=6"))

/-- A carriage return before the line feed is lost, and a temporary file stays when neither the
replacing nor the removing works. -/
theorem lineBreak_lost_and_leftover :
    ¬ Configured qwen36.settings Faults.none (linesOf (text "A=1\r\n")) False
        (some (text "A=1\r\n"))
        (writeConfigEnv qwen36.settings Faults.none (some (text "A=1\r\n"))) ∧
      ¬ Configured qwen36.settings ⟨false, false, false, none, false, true, true⟩
        (linesOf (text "A=1\n")) False (some (text "A=1\n"))
        (writeConfigEnv qwen36.settings ⟨false, false, false, none, false, true, true⟩
          (some (text "A=1\n"))) := by
  refine ⟨fun configured => ?_, fun configured => ?_⟩
  · obtain ⟨new, isNew, rewritten, -⟩ := configured.done rfl
    have isRendered : new = render qwen36.settings (readLines (universal (text "A=1\r\n"))) := by
      have written := (writeConfigEnv_cases qwen36.settings Faults.none
        (some (text "A=1\r\n"))).2.1 rfl
      exact Option.some.inj (congrArg Directory.config (isNew.symm.trans written))
    have isWritten := (renders (writable_of_getProfile known_qwen36)
      (universal_plain (text "A=1\r\n"))).lines
    obtain ⟨block, kept, -⟩ := rewritten.kept
    have others := filter_other_newLines qwen36.settings (linesOf (universal (text "A=1\r\n")))
    rw [← isWritten, ← isRendered] at others
    have firsts := congrArg List.head? (others.symm.trans kept)
    have before : (linesOf (text "A=1\r\n")).filter isOther = [text "A=1\r"] := by decide +kernel
    have after : (linesOf (universal (text "A=1\r\n"))).filter
        (fun line => (keyOf line).isNone) = [text "A=1"] := by decide +kernel
    rw [before, after] at firsts
    exact absurd (Option.some.inj firsts) (by decide)
  · rcases (configured.failed rfl).2 with impossible | removed
    · exact impossible
    · cases removed

end ConfigEnv

end LocalGpuCluster
