/-
This file models how the sitemap handler repeats the source of a page through its body. Markers
come after paragraphs, when enough characters have gone by, and within a paragraph that is longer
than the interval, where whitespace ends behind it. No word is lost, moved or cut by that.
-/

import LocalGpuCluster.Text
import Mathlib.Data.List.TakeWhile

namespace LocalGpuCluster

namespace SourceInterleave

def sourceMarkerEvery : ℕ := 900

/-- `sep` of `_interleave_source`. -/
def sep : Text := newline ++ newline

/-- `"[Source: " + url + "]"`. -/
def marker (url : Text) : Text := text "[Source: " ++ url ++ text "]"

/-- `text.split(sep)`, with the paragraph read so far. -/
def splitSepFrom (para : Text) : Text → List Text
  | [] => [para]
  | [point] => [para ++ [point]]
  | first :: second :: rest =>
      if first = 0xA ∧ second = 0xA then para :: splitSepFrom [] rest
      else splitSepFrom (para ++ [first]) (second :: rest)

/-- What `re.split(r"(\s+)", para)` still gives, with the token read so far: words and runs of
whitespace by turns. The first and the last word may be empty. -/
def splitSpacesFrom (spacing : Bool) (tok : Text) : Text → List Text
  | [] => if spacing then [tok, []] else [tok]
  | point :: rest =>
      if point.isSpace = spacing then splitSpacesFrom spacing (tok ++ [point]) rest
      else tok :: splitSpacesFrom (!spacing) [point] rest

def splitSpaces (para : Text) : List Text := splitSpacesFrom false [] para

/-- An item of `out`: text of the page, or a marker. -/
inductive Piece
  | page (content : Text)
  | marker

namespace Piece

/-- The text of an item. -/
def render (url : Text) : Piece → Text
  | page content => content
  | marker => SourceInterleave.marker url

/-- What is left of an item when the markers are deleted. -/
def unmarked : Piece → Text
  | page content => content
  | marker => []

end Piece

/-- The loop over the tokens of a long paragraph: what goes to `out`, and `plen` at the end. -/
def breakFrom (piece : List Text) (plen : ℕ) : List Text → List Piece × ℕ
  | [] => (if piece = [] then [] else [.page piece.flatten], plen)
  | tok :: rest =>
      if sourceMarkerEvery ≤ plen + tok.length ∧ tok.strip CodePoint.isSpace = [] then
        let (out, since) := breakFrom [] 0 rest
        (.page (piece ++ [tok]).flatten :: .marker :: out, since)
      else breakFrom (piece ++ [tok]) (plen + tok.length) rest

/-- The loop over the paragraphs. -/
def interleaveFrom (since : ℕ) : List Text → List Piece
  | [] => []
  | para :: rest =>
      if sourceMarkerEvery < para.length then
        let (out, plen) := breakFrom [] 0 (splitSpaces para)
        out ++ interleaveFrom plen rest
      else if sourceMarkerEvery ≤ since + (para.length + sep.length) then
        .page para :: .marker :: interleaveFrom 0 rest
      else .page para :: interleaveFrom (since + (para.length + sep.length)) rest

/-- The marker at the end, unless the last item is one already. -/
def closeWith (url : Text) (out : List Piece) : List Piece :=
  match out.getLast? with
  | none => out
  | some last => if last.render url = marker url then out else out ++ [.marker]

/-- `out` at the end; a short page goes through unchanged. -/
def pieces (content url : Text) : List Piece :=
  if content.length ≤ sourceMarkerEvery then [.page content]
  else closeWith url (interleaveFrom 0 (splitSepFrom [] content))

/-- `_interleave_source`. -/
def interleaveSource (content url : Text) : Text :=
  if content.length ≤ sourceMarkerEvery then content
  else Text.join sep ((pieces content url).map (Piece.render url))

/-! ### Words -/

theorem words_nil : Text.words [] = [] := rfl

/-- Whitespace ends a word. -/
theorem words_append_space {space : CodePoint} (isSpace : space.isSpace = true)
    (before after : Text) :
    Text.words (before ++ space :: after) = Text.words before ++ Text.words after := by
  unfold Text.words
  rw [List.splitOnP_append_cons before after isSpace, List.filter_append]

theorem words_space {space : CodePoint} (isSpace : space.isSpace = true) (after : Text) :
    Text.words (space :: after) = Text.words after :=
  words_append_space isSpace [] after

theorem words_spaces_append {spaces : Text} (all : ∀ point ∈ spaces, point.isSpace = true)
    (after : Text) : Text.words (spaces ++ after) = Text.words after := by
  induction spaces with
  | nil => rfl
  | cons space spaces inductionHypothesis =>
    rw [List.cons_append, words_space (all space List.mem_cons_self)]
    exact inductionHypothesis fun point member => all point (List.mem_cons_of_mem _ member)

/-- A run of whitespace goes with the words before it. -/
theorem words_append_spaces_append {spaces : Text} (some : spaces ≠ [])
    (all : ∀ point ∈ spaces, point.isSpace = true) (before after : Text) :
    Text.words (before ++ spaces ++ after) = Text.words (before ++ spaces) ++ Text.words after := by
  cases spaces with
  | nil => exact absurd rfl some
  | cons space spaces =>
    have isSpace := all space List.mem_cons_self
    have others : ∀ point ∈ spaces, point.isSpace = true :=
      fun point member => all point (List.mem_cons_of_mem _ member)
    rw [List.append_assoc, List.cons_append, words_append_space isSpace,
      words_append_space isSpace, words_spaces_append others]
    have blank : Text.words spaces = [] := by
      rw [← List.append_nil spaces, words_spaces_append others, words_nil]
    rw [blank, List.append_nil]

theorem flatten_splitOnP (divides : CodePoint → Bool) (content : Text) :
    (content.splitOnP divides).flatten = content.filter fun point => !divides point := by
  induction content with
  | nil => rfl
  | cons point rest inductionHypothesis =>
    rw [List.splitOnP_cons_eq_if_modifyHead, List.filter_cons]
    cases divides point with
    | true => exact inductionHypothesis
    | false =>
      obtain ⟨first, others, parts⟩ := List.exists_cons_of_ne_nil (List.splitOnP_ne_nil divides rest)
      rw [parts] at inductionHypothesis ⊢
      exact congrArg (point :: ·) inductionHypothesis

/-- The words hold what is not whitespace, in its order. -/
theorem flatten_words (content : Text) :
    (Text.words content).flatten = content.filter fun point => !point.isSpace := by
  rw [← flatten_splitOnP]
  unfold Text.words
  induction content.splitOnP fun point => point.isSpace with
  | nil => rfl
  | cons part parts inductionHypothesis =>
    cases part with
    | nil => exact inductionHypothesis
    | cons point part => exact congrArg (point :: part ++ ·) inductionHypothesis

theorem isSpace_newline : CodePoint.isSpace 0xA = true := by decide

/-- A separator ends a word. -/
theorem words_append_sep_append (before after : Text) :
    Text.words (before ++ (sep ++ after)) = Text.words before ++ Text.words after := by
  have lines : sep ++ after = 0xA :: 0xA :: after := rfl
  rw [lines, words_append_space isSpace_newline, words_space isSpace_newline]

/-- Each part of a joined text keeps its words. -/
theorem words_join_sep (parts : List Text) :
    Text.words (Text.join sep parts) = parts.flatMap Text.words := by
  unfold Text.join
  induction parts with
  | nil => rfl
  | cons first rest inductionHypothesis =>
    cases rest with
    | nil => rw [List.intercalate_singleton, List.flatMap_singleton]
    | cons second rest =>
      rw [List.intercalate_cons_cons, List.append_assoc, words_append_sep_append,
        inductionHypothesis]
      rfl

/-! ### Paragraphs and tokens -/

theorem splitSepFrom_ne_nil (para content : Text) : splitSepFrom para content ≠ [] := by
  fun_induction splitSepFrom para content with
  | case1 | case2 => exact List.cons_ne_nil _ _
  | case3 => exact List.cons_ne_nil _ _
  | case4 para first second rest notSep inductionHypothesis => exact inductionHypothesis

theorem join_splitSepFrom (para content : Text) :
    Text.join sep (splitSepFrom para content) = para ++ content := by
  fun_induction splitSepFrom para content with
  | case1 para => exact List.intercalate_singleton.trans (List.append_nil para).symm
  | case2 para point => exact List.intercalate_singleton
  | case3 para first second rest isSep inductionHypothesis =>
    obtain ⟨next, others, parts⟩ := List.exists_cons_of_ne_nil (splitSepFrom_ne_nil [] rest)
    rw [parts] at inductionHypothesis ⊢
    unfold Text.join at inductionHypothesis ⊢
    rw [List.intercalate_cons_cons, inductionHypothesis, isSep.1, isSep.2, List.append_assoc]
    rfl
  | case4 para first second rest notSep inductionHypothesis =>
    rw [inductionHypothesis, List.append_assoc]
    rfl

theorem flatten_splitSpacesFrom (spacing : Bool) (tok rest : Text) :
    (splitSpacesFrom spacing tok rest).flatten = tok ++ rest := by
  induction rest generalizing spacing tok with
  | nil =>
    rw [splitSpacesFrom]
    cases spacing <;> simp
  | cons point rest inductionHypothesis =>
    rw [splitSpacesFrom]
    split
    · rw [inductionHypothesis, List.append_assoc, List.singleton_append]
    · rw [List.flatten_cons, inductionHypothesis, List.singleton_append]

/-- A word and a run of whitespace by turns, and a word at the end; only a word may be empty. -/
inductive Alternates : List Text → Prop
  | last {word : Text} (plain : ∀ point ∈ word, point.isSpace = false) : Alternates [word]
  | more {word space : Text} {rest : List Text} (plain : ∀ point ∈ word, point.isSpace = false)
      (some : space ≠ []) (blank : ∀ point ∈ space, point.isSpace = true)
      (alternates : Alternates rest) : Alternates (word :: space :: rest)

theorem alternates_splitSpacesFrom (rest tok : Text) :
    ((∀ point ∈ tok, point.isSpace = false) → Alternates (splitSpacesFrom false tok rest)) ∧
      (tok ≠ [] → (∀ point ∈ tok, point.isSpace = true) → ∀ word : Text,
        (∀ point ∈ word, point.isSpace = false) →
          Alternates (word :: splitSpacesFrom true tok rest)) := by
  induction rest generalizing tok with
  | nil =>
    have empty : ∀ point ∈ ([] : Text), point.isSpace = false := by simp
    exact ⟨.last, fun some blank word plain => .more plain some blank (.last empty)⟩
  | cons point rest inductionHypothesis =>
    have grow {space : Bool} (isSpace : point.isSpace = space)
        (all : ∀ other ∈ tok, other.isSpace = space) :
        ∀ other ∈ tok ++ [point], other.isSpace = space := by
      intro other member
      obtain inTok | isPoint := List.mem_append.mp member
      · exact all other inTok
      · rw [List.mem_singleton.mp isPoint, isSpace]
    have alone {space : Bool} (isSpace : point.isSpace = space) :
        ∀ other ∈ [point], other.isSpace = space :=
      fun other member => (List.mem_singleton.mp member).symm ▸ isSpace
    rw [splitSpacesFrom, splitSpacesFrom]
    cases isSpace : point.isSpace with
    | false =>
      rw [if_pos rfl, if_neg Bool.false_ne_true]
      refine ⟨fun plain => (inductionHypothesis _).1 (grow isSpace plain), ?_⟩
      exact fun some blank word plain =>
        .more plain some blank ((inductionHypothesis _).1 (alone isSpace))
    | true =>
      rw [if_neg (by decide), if_pos rfl]
      have some (other : Text) : other ++ [point] ≠ [] := by simp
      refine ⟨fun plain => ?_, fun _ blank word plain => ?_⟩
      · exact (inductionHypothesis _).2 (some []) (alone isSpace) tok plain
      · exact (inductionHypothesis _).2 (some tok) (grow isSpace blank) word plain

theorem alternates_splitSpaces (para : Text) : Alternates (splitSpaces para) :=
  (alternates_splitSpacesFrom para []).1 (by simp)

theorem flatten_splitSpaces (para : Text) : (splitSpaces para).flatten = para :=
  flatten_splitSpacesFrom false [] para

/-! ### The loop over the tokens -/

theorem strip_of_blank {space : Text} (blank : ∀ point ∈ space, point.isSpace = true) :
    space.strip CodePoint.isSpace = [] := by
  have none : space.dropWhile CodePoint.isSpace = [] := List.dropWhile_eq_nil_iff.mpr blank
  unfold Text.strip Text.stripRight Text.stripLeft
  rw [none]
  rfl

/-- A word is not broken behind: it is not whitespace, or it is empty and adds nothing. -/
theorem not_breaks_of_plain {word : Text} {plen : ℕ} (few : plen < sourceMarkerEvery)
    (plain : ∀ point ∈ word, point.isSpace = false) :
    ¬(sourceMarkerEvery ≤ plen + word.length ∧ word.strip CodePoint.isSpace = []) := by
  rintro ⟨enough, stripped⟩
  cases word with
  | nil => exact absurd enough (Nat.not_le_of_lt few)
  | cons point rest =>
    have some := plain point List.mem_cons_self
    have last := plain _ (List.getLast_mem (List.cons_ne_nil point rest))
    unfold Text.strip Text.stripRight Text.stripLeft at stripped
    rw [List.dropWhile_cons_of_neg (by rw [some]; decide), List.reverse_eq_nil_iff,
      List.dropWhile_eq_nil_iff] at stripped
    have blank := stripped point (List.mem_reverse.mpr List.mem_cons_self)
    exact Bool.false_ne_true (some.symm.trans blank)

theorem breakFrom_last {word : Text} {plen : ℕ} (few : plen < sourceMarkerEvery)
    (plain : ∀ point ∈ word, point.isSpace = false) (piece : List Text) :
    breakFrom piece plen [word] = ([.page (piece.flatten ++ word)], plen + word.length) := by
  rw [breakFrom, if_neg (not_breaks_of_plain few plain), breakFrom, if_neg (by simp),
    List.flatten_concat]

/-- A word and the whitespace behind it, when that does not reach the interval. -/
theorem breakFrom_more {word space : Text} {plen : ℕ} (few : plen < sourceMarkerEvery)
    (plain : ∀ point ∈ word, point.isSpace = false)
    (still : plen + word.length + space.length < sourceMarkerEvery)
    (piece rest : List Text) :
    breakFrom piece plen (word :: space :: rest) =
      breakFrom (piece ++ [word] ++ [space]) (plen + word.length + space.length) rest := by
  rw [breakFrom, if_neg (not_breaks_of_plain few plain), breakFrom,
    if_neg fun breaks => Nat.not_le_of_lt still breaks.1]

/-- A word and the whitespace behind it, when that reaches the interval. -/
theorem breakFrom_break {word space : Text} {plen : ℕ} (few : plen < sourceMarkerEvery)
    (plain : ∀ point ∈ word, point.isSpace = false)
    (blank : ∀ point ∈ space, point.isSpace = true)
    (enough : sourceMarkerEvery ≤ plen + word.length + space.length)
    (piece rest : List Text) :
    breakFrom piece plen (word :: space :: rest) =
      (.page (piece.flatten ++ word ++ space) :: .marker :: (breakFrom [] 0 rest).1,
        (breakFrom [] 0 rest).2) := by
  rw [breakFrom, if_neg (not_breaks_of_plain few plain), breakFrom,
    if_pos ⟨enough, strip_of_blank blank⟩, List.flatten_concat, List.flatten_concat]

/-! ### No word is lost, moved or cut -/

/-- The words of the pieces, markers aside. -/
def wordsOf (out : List Piece) : List Text := out.flatMap fun piece => Text.words piece.unmarked

theorem wordsOf_append (out others : List Piece) :
    wordsOf (out ++ others) = wordsOf out ++ wordsOf others :=
  List.flatMap_append

theorem wordsOf_marker (out : List Piece) : wordsOf (.marker :: out) = wordsOf out := rfl

theorem wordsOf_page (content : Text) (out : List Piece) :
    wordsOf (.page content :: out) = Text.words content ++ wordsOf out := rfl

theorem wordsOf_breakFrom {toks : List Text} (alternates : Alternates toks) {plen : ℕ}
    (few : plen < sourceMarkerEvery) (piece : List Text) :
    wordsOf (breakFrom piece plen toks).1 = Text.words (piece.flatten ++ toks.flatten) := by
  induction alternates generalizing plen piece with
  | last plain =>
    rw [breakFrom_last few plain, wordsOf_page, List.flatten_singleton]
    exact List.append_nil _
  | more plain some blank alternates inductionHypothesis =>
    rename_i word space rest
    by_cases enough : sourceMarkerEvery ≤ plen + word.length + space.length
    · rw [breakFrom_break few plain blank enough, wordsOf_page, wordsOf_marker,
        inductionHypothesis (by decide), List.flatten_cons, List.flatten_cons,
        ← List.append_assoc, ← List.append_assoc, words_append_spaces_append some blank]
      rfl
    · rw [breakFrom_more few plain (Nat.lt_of_not_le enough),
        inductionHypothesis (Nat.lt_of_not_le enough)]
      rw [List.flatten_concat, List.flatten_concat, List.flatten_cons, List.flatten_cons]
      simp only [List.append_assoc]

theorem wordsOf_interleaveFrom (since : ℕ) (paras : List Text) :
    wordsOf (interleaveFrom since paras) = paras.flatMap Text.words := by
  induction paras generalizing since with
  | nil => rfl
  | cons para rest inductionHypothesis =>
    rw [interleaveFrom, List.flatMap_cons]
    split
    · dsimp only
      rw [wordsOf_append, wordsOf_breakFrom (alternates_splitSpaces para) (by decide),
        flatten_splitSpaces, inductionHypothesis]
      rfl
    · split
      · rw [wordsOf_page, wordsOf_marker, inductionHypothesis]
      · rw [wordsOf_page, inductionHypothesis]

theorem wordsOf_closeWith (url : Text) (out : List Piece) :
    wordsOf (closeWith url out) = wordsOf out := by
  unfold closeWith
  split
  · rfl
  · split
    · rfl
    · rw [wordsOf_append]
      exact List.append_nil _

theorem wordsOf_pieces (content url : Text) :
    wordsOf (pieces content url) = Text.words content := by
  unfold pieces
  split
  · exact List.append_nil _
  · rw [wordsOf_closeWith, wordsOf_interleaveFrom, ← words_join_sep, join_splitSepFrom]
    rfl

theorem interleaveSource_eq_join (content url : Text) :
    interleaveSource content url =
      Text.join sep ((pieces content url).map (Piece.render url)) := by
  unfold interleaveSource
  split
  next short =>
    unfold pieces
    rw [if_pos short]
    exact List.intercalate_singleton.symm
  · rfl

theorem words_join_unmarked (out : List Piece) :
    Text.words (Text.join sep (out.map Piece.unmarked)) = wordsOf out := by
  rw [words_join_sep, List.flatMap_map]
  rfl

/-- The result is the page with markers in it. Without the markers it has the words of the page,
so it is the page when whitespace is ignored, and each marker stands between two words. -/
theorem interleaveSource_keeps (content url : Text) :
    interleaveSource content url =
        Text.join sep ((pieces content url).map (Piece.render url)) ∧
      Text.words (Text.join sep ((pieces content url).map Piece.unmarked)) =
        Text.words content ∧
      (Text.join sep ((pieces content url).map Piece.unmarked)).filter
          (fun point => !point.isSpace) =
        content.filter (fun point => !point.isSpace) ∧
      ∀ before after, pieces content url = before ++ .marker :: after →
        Text.words (Text.join sep (before.map Piece.unmarked)) ++
            Text.words (Text.join sep (after.map Piece.unmarked)) =
          Text.words content := by
  have words : Text.words (Text.join sep ((pieces content url).map Piece.unmarked)) =
      Text.words content := by
    rw [words_join_unmarked, wordsOf_pieces]
  refine ⟨interleaveSource_eq_join content url, words, ?_, ?_⟩
  · rw [← flatten_words, words, flatten_words]
  · intro before after split
    rw [words_join_unmarked, words_join_unmarked, ← wordsOf_pieces content url, split,
      wordsOf_append, wordsOf_marker]

end SourceInterleave

end LocalGpuCluster
