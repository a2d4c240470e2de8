/-
This file is about how far apart the markers of a page come. The loop counts the characters since
the last marker, and a marker ends a stretch of the page when enough have gone by. A long paragraph
sets that count to the length of its last piece; when it has no whitespace behind the interval, it
gets no marker, and what stood before it is no longer counted.
-/

import LocalGpuCluster.SourceInterleave
import LocalGpuCluster.Spacing

namespace LocalGpuCluster

namespace SourceInterleave

open Spacing

/-- No word is longer than 200 characters, and no run of whitespace longer than 20. -/
structure ShortRuns (content : Text) : Prop where
  word : RunsWithin (fun point => !point.isSpace) 200 content
  space : RunsWithin CodePoint.isSpace 20 content

theorem ShortRuns.of_infix {part content : Text} (runs : ShortRuns content)
    (isPart : part <:+: content) : ShortRuns part :=
  ⟨runs.word.of_infix isPart, runs.space.of_infix isPart⟩

/-- Every paragraph that is longer than the interval has whitespace at its 900th character or
behind it. -/
def Breakable (content : Text) : Prop :=
  ∀ para ∈ splitSepFrom [] content, sourceMarkerEvery < para.length →
    (para.drop (sourceMarkerEvery - 1)).any CodePoint.isSpace = true

/-! ### Stretches -/

/-- The most characters of the result that come between two markers. -/
def mostBetween : ℕ := 2224

/-- With so many characters since the last marker, no stretch gets too long. -/
def Within (between : ℕ) : List Piece → Prop
  | [] => between ≤ mostBetween
  | .marker :: rest => between ≤ mostBetween ∧ Within sep.length rest
  | .page content :: rest => Within (between + content.length + sep.length) rest

theorem Within.le {between fewer : ℕ} {out : List Piece} (within : Within between out)
    (le : fewer ≤ between) : Within fewer out := by
  induction out generalizing between fewer with
  | nil => exact le.trans within
  | cons piece rest inductionHypothesis =>
    cases piece with
    | marker => exact ⟨le.trans within.1, within.2⟩
    | page content =>
      exact inductionHypothesis within (Nat.add_le_add_right (Nat.add_le_add_right le _) _)

theorem Within.concat {between : ℕ} {out : List Piece} (within : Within between out) :
    Within between (out ++ [.marker]) := by
  induction out generalizing between with
  | nil => exact ⟨within, show sep.length ≤ mostBetween from by decide⟩
  | cons piece rest inductionHypothesis =>
    cases piece with
    | marker => exact ⟨within.1, inductionHypothesis within.2⟩
    | page content => exact inductionHypothesis within

theorem within_closeWith {between : ℕ} {out : List Piece} (within : Within between out)
    (url : Text) : Within between (closeWith url out) := by
  unfold closeWith
  split
  · exact within
  · split
    · exact within
    · exact within.concat

/-- What is joined behind the characters since the last marker is spaced. -/
theorem Within.spaced {out : List Piece} (url : Text) (front : Text)
    (within : Within front.length out) :
    Spaced (marker url) mostBetween
      (front ++ Text.join sep (out.map (Piece.render url))) := by
  induction out generalizing front with
  | nil => exact (List.append_nil front).symm ▸ .last front within
  | cons piece rest inductionHypothesis =>
    rw [List.map_cons]
    unfold Text.join at inductionHypothesis ⊢
    cases rest with
    | nil =>
      rw [List.map_nil, List.intercalate_singleton]
      cases piece with
      | marker =>
        have closed : Spaced (marker url) mostBetween (front ++ (marker url ++ [])) :=
          .more front within.1 (.last [] (Nat.zero_le _))
        rw [List.append_nil] at closed
        exact closed
      | page content =>
        refine .last _ ?_
        rw [List.length_append]
        exact Nat.le_of_add_right_le within
    | cons second rest =>
      rw [List.map_cons, List.intercalate_cons_cons, ← List.map_cons]
      cases piece with
      | marker =>
        rw [List.append_assoc]
        exact .more front within.1 (inductionHypothesis sep within.2)
      | page content =>
        rw [← List.append_assoc, ← List.append_assoc]
        refine inductionHypothesis (front ++ content ++ sep) ?_
        rw [List.length_append, List.length_append]
        exact within

/-! ### The loops -/

theorem Alternates.dropLast_cons_cons {toks : List Text} (alternates : Alternates toks)
    (word space : Text) : (word :: space :: toks).dropLast = word :: space :: toks.dropLast := by
  cases alternates <;> rfl

/-- Whitespace behind so many characters is in the last token but one, or before it. -/
theorem Alternates.lt_length_dropLast {toks : List Text} (alternates : Alternates toks) {least : ℕ}
    (late : (toks.flatten.drop least).any CodePoint.isSpace = true) :
    least < toks.dropLast.flatten.length := by
  induction alternates generalizing least with
  | last plain =>
    obtain ⟨point, behind, isSpace⟩ := List.any_eq_true.mp late
    rw [List.flatten_singleton] at behind
    exact absurd isSpace (Bool.eq_false_iff.mp (plain point (List.mem_of_mem_drop behind)))
  | more plain some blank alternates inductionHypothesis =>
    rename_i word space rest
    rw [alternates.dropLast_cons_cons, List.flatten_cons, List.flatten_cons,
      ← List.append_assoc, List.length_append]
    rw [List.flatten_cons, List.flatten_cons, ← List.append_assoc] at late
    by_cases within : least < (word ++ space).length
    · exact Nat.lt_add_right _ within
    · have all := List.drop_eq_nil_of_le (Nat.le_of_not_lt within)
      rw [List.drop_append, all, List.nil_append] at late
      have inRest := inductionHypothesis late
      omega

theorem within_breakFrom {toks : List Text} (alternates : Alternates toks)
    (runs : ShortRuns toks.flatten) {plen between : ℕ} (few : plen < sourceMarkerEvery)
    {piece : List Text} (length : piece.flatten.length = plen) (room : between ≤ 1103)
    (breaks : between ≤ sep.length ∨ sourceMarkerEvery ≤ plen + toks.dropLast.flatten.length)
    {more : List Piece}
    (next : (breakFrom piece plen toks).2 ≤ 1099 →
      Within ((breakFrom piece plen toks).2 + 4) more) :
    Within between ((breakFrom piece plen toks).1 ++ more) := by
  induction alternates generalizing plen between piece with
  | last plain =>
    rename_i word
    have short : word.length ≤ 200 := runs.word word (by simp) (by simpa using plain)
    rw [breakFrom_last few plain] at next ⊢
    have fewer : between ≤ sep.length := breaks.resolve_right (Nat.not_le_of_lt few)
    have tail : Within (plen + word.length + 4) more :=
      next (by unfold sourceMarkerEvery at few; omega)
    have two : sep.length = 2 := rfl
    refine tail.le ?_
    rw [List.length_append, length]
    omega
  | more plain some blank alternates inductionHypothesis =>
    rename_i word space rest
    have two : sep.length = 2 := rfl
    have shortWord : word.length ≤ 200 :=
      runs.word word ⟨[], space ++ rest.flatten, by simp⟩ (by simpa using plain)
    have shortSpace : space.length ≤ 20 :=
      runs.space space ⟨word, rest.flatten, by simp⟩ (by simpa using blank)
    have restRuns : ShortRuns rest.flatten :=
      runs.of_infix ⟨word ++ space, [], by simp⟩
    by_cases enough : sourceMarkerEvery ≤ plen + word.length + space.length
    · rw [breakFrom_break few plain blank enough] at next ⊢
      refine ⟨?_, inductionHypothesis restRuns (by decide) rfl (by decide) (.inl le_rfl) next⟩
      simp only [List.length_append, length]
      unfold mostBetween
      unfold sourceMarkerEvery at few
      omega
    · rw [breakFrom_more few plain (Nat.lt_of_not_le enough)] at next ⊢
      refine inductionHypothesis restRuns (Nat.lt_of_not_le enough) ?_ room ?_ next
      · simp only [List.flatten_concat, List.length_append, length]
      · refine breaks.imp_right fun late => ?_
        rw [alternates.dropLast_cons_cons, List.flatten_cons, List.flatten_cons, List.length_append,
          List.length_append] at late
        omega

theorem within_interleaveFrom {paras : List Text} (runs : ∀ para ∈ paras, ShortRuns para)
    (breakable : ∀ para ∈ paras, sourceMarkerEvery < para.length →
      (para.drop (sourceMarkerEvery - 1)).any CodePoint.isSpace = true)
    {since between : ℕ} (few : since ≤ 1099) (le : between ≤ since + 4) :
    Within between (interleaveFrom since paras) := by
  have two : sep.length = 2 := rfl
  induction paras generalizing since between with
  | nil =>
    show between ≤ 2224
    omega
  | cons para rest inductionHypothesis =>
    have paraRuns := runs para List.mem_cons_self
    have laterRuns := fun other member => runs other (List.mem_cons_of_mem para member)
    have laterBreakable := fun other member => breakable other (List.mem_cons_of_mem para member)
    rw [interleaveFrom]
    split
    next long =>
      have late := breakable para List.mem_cons_self long
      rw [← flatten_splitSpaces para] at paraRuns late
      have alternates := alternates_splitSpaces para
      refine within_breakFrom alternates paraRuns (by decide) rfl (by omega) (.inr ?_) ?_
      · show sourceMarkerEvery ≤ 0 + _
        rw [Nat.zero_add]
        exact alternates.lt_length_dropLast late
      · exact fun tail => inductionHypothesis laterRuns laterBreakable tail le_rfl
    next short =>
      unfold sourceMarkerEvery at short ⊢
      split
      next enough =>
        refine ⟨?_, inductionHypothesis laterRuns laterBreakable (by decide) (by decide)⟩
        unfold mostBetween
        omega
      next notYet =>
        exact inductionHypothesis laterRuns laterBreakable (by omega) (by omega)

/-! ### Windows of the result -/

theorem infix_of_mem_splitSepFrom {para content : Text} (member : para ∈ splitSepFrom [] content) :
    para <:+: content := by
  have within : para <:+: Text.join sep (splitSepFrom [] content) := Text.infix_join member
  rw [join_splitSepFrom] at within
  exact within

theorem spaced_interleaveSource {content url : Text} (long : sourceMarkerEvery < content.length)
    (runs : ShortRuns content) (breakable : Breakable content) :
    Spaced (marker url) mostBetween (interleaveSource content url) := by
  rw [interleaveSource_eq_join]
  unfold pieces
  rw [if_neg (Nat.not_le_of_lt long)]
  refine Within.spaced url [] (within_closeWith (within_interleaveFrom ?_ breakable ?_ ?_) url)
  · exact fun para member => runs.of_infix (infix_of_mem_splitSepFrom member)
  · exact Nat.zero_le _
  · exact Nat.zero_le _

theorem length_marker (url : Text) : (marker url).length = url.length + 10 := by
  unfold marker
  rw [List.length_append, List.length_append, Nat.add_comm (text "[Source: ").length]
  rfl

/-- Every window of 2700 characters of the result holds a whole marker, when each long paragraph
has whitespace late enough. -/
theorem interleaveSource_marks_windows {content url : Text}
    (long : sourceMarkerEvery < content.length) (runs : ShortRuns content)
    (short : url.length ≤ 200) (breakable : Breakable content) :
    ∀ window, window <:+: interleaveSource content url → window.length = 2700 →
      marker url <:+: window := by
  intro window within length
  refine (spaced_interleaveSource long runs breakable).infix_window ?_ within ?_
  · exact List.ne_nil_of_length_pos (by rw [length_marker]; exact Nat.succ_pos _)
  · rw [length, length_marker]
    unfold mostBetween
    omega

theorem splitSepFrom_append {plain : Text} (none : 0xA ∉ plain) (para rest : Text) :
    splitSepFrom para (plain ++ rest) = splitSepFrom (para ++ plain) rest := by
  induction plain generalizing para with
  | nil => rw [List.append_nil, List.nil_append]
  | cons point plain inductionHypothesis =>
    have differs : point ≠ 0xA := fun same => none (same ▸ List.mem_cons_self)
    have step : splitSepFrom para (point :: (plain ++ rest)) =
        splitSepFrom (para ++ [point]) (plain ++ rest) := by
      cases plain ++ rest with
      | nil => rfl
      | cons second others => rw [splitSepFrom, if_neg fun isSep => differs isSep.1]
    rw [List.cons_append, step,
      inductionHypothesis (fun member => none (List.mem_cons_of_mem point member)),
      List.append_assoc]
    rfl

/-- A text without line feeds is one paragraph. -/
theorem splitSepFrom_of_plain {plain : Text} (none : 0xA ∉ plain) :
    splitSepFrom [] plain = [plain] := by
  have parted := splitSepFrom_append none [] []
  rw [List.append_nil] at parted
  exact parted

theorem splitSepFrom_append_sep {plain : Text} (none : 0xA ∉ plain) (rest : Text) :
    splitSepFrom [] (plain ++ (sep ++ rest)) = plain :: splitSepFrom [] rest :=
  splitSepFrom_append none [] (sep ++ rest)

/-- One paragraph of 300 short words. -/
def plainPage : Text := (List.replicate 300 (text "searching ")).flatten

theorem plainPage_marks_windows : plainPage.length = 3000 ∧
    ∀ window, window <:+: interleaveSource plainPage (text "https://docs/a") →
      window.length = 2700 → marker (text "https://docs/a") <:+: window := by
  refine ⟨by decide +kernel, interleaveSource_marks_windows (by decide +kernel)
    ⟨runsWithin_of_runsWithinFrom (by decide +kernel),
      runsWithin_of_runsWithinFrom (by decide +kernel)⟩ (by decide) ?_⟩
  intro para member _
  rw [splitSepFrom_of_plain (by decide +kernel)] at member
  rw [List.mem_singleton.mp member]
  decide +kernel

/-! ### Long paragraphs without late whitespace -/

/-- A long paragraph whose last word starts before the interval is over gets no marker. -/
theorem breakFrom_unbroken {toks : List Text} (alternates : Alternates toks) {plen : ℕ}
    {piece : List Text} (early : plen + toks.dropLast.flatten.length < sourceMarkerEvery) :
    breakFrom piece plen toks =
      ([.page (piece.flatten ++ toks.flatten)], plen + toks.flatten.length) := by
  induction alternates generalizing plen piece with
  | last plain =>
    have few : plen < sourceMarkerEvery := early
    rw [breakFrom_last few plain, List.flatten_singleton]
  | more plain some blank alternates inductionHypothesis =>
    rename_i word space rest
    rw [alternates.dropLast_cons_cons, List.flatten_cons, List.flatten_cons, List.length_append,
      List.length_append] at early
    rw [breakFrom_more (by omega) plain (by omega), inductionHypothesis (by omega),
      List.flatten_concat, List.flatten_concat]
    simp only [List.flatten_cons, List.append_assoc, List.length_append, Nat.add_assoc]

/-- 44 words of 19 characters, and one of 100. -/
def unbrokenPara : Text :=
  (List.replicate 44 (text "internationalizing. ")).flatten ++ List.replicate 100 0x78

/-- Such a paragraph three times. -/
def unbrokenPage : Text := unbrokenPara ++ (sep ++ (unbrokenPara ++ (sep ++ unbrokenPara)))

theorem newline_not_mem_unbrokenPara : 0xA ∉ unbrokenPara := by decide +kernel

theorem splitSepFrom_unbrokenPage :
    splitSepFrom [] unbrokenPage = [unbrokenPara, unbrokenPara, unbrokenPara] := by
  unfold unbrokenPage
  rw [splitSepFrom_append_sep newline_not_mem_unbrokenPara,
    splitSepFrom_append_sep newline_not_mem_unbrokenPara,
    splitSepFrom_of_plain newline_not_mem_unbrokenPara]

theorem breakFrom_unbrokenPara :
    breakFrom [] 0 (splitSpaces unbrokenPara) = ([.page unbrokenPara], 980) := by
  have length : unbrokenPara.length = 980 := by decide +kernel
  have early : 0 + (splitSpaces unbrokenPara).dropLast.flatten.length < sourceMarkerEvery := by
    decide +kernel
  rw [breakFrom_unbroken (alternates_splitSpaces unbrokenPara) early, flatten_splitSpaces, length]
  rfl

theorem pieces_unbrokenPage {url : Text} (differs : unbrokenPara ≠ marker url) :
    pieces unbrokenPage url =
      [.page unbrokenPara, .page unbrokenPara, .page unbrokenPara, .marker] := by
  have long : ¬unbrokenPage.length ≤ sourceMarkerEvery := by decide +kernel
  have step (since : ℕ) (rest : List Text) : interleaveFrom since (unbrokenPara :: rest) =
      .page unbrokenPara :: interleaveFrom 980 rest := by
    rw [interleaveFrom, if_pos (by decide +kernel), breakFrom_unbrokenPara]
    rfl
  unfold pieces
  rw [if_neg long, splitSepFrom_unbrokenPage, step, step, step]
  have closed (out : List Piece) : closeWith url (out ++ [.page unbrokenPara]) =
      out ++ [.page unbrokenPara] ++ [.marker] := by
    unfold closeWith
    rw [List.getLast?_concat]
    exact if_neg differs
  exact closed [.page unbrokenPara, .page unbrokenPara]

/-- Not every page with short words is marked in every window: three long paragraphs whose last
words start early get no marker before the end. -/
theorem unbrokenPage_misses_marker :
    ¬∀ content url : Text, sourceMarkerEvery < content.length → ShortRuns content →
      url.length ≤ 200 → ∀ window, window <:+: interleaveSource content url →
        window.length = 2700 → marker url <:+: window := by
  intro always
  let url := text "https://docs/a"
  have runs : ShortRuns unbrokenPage :=
    ⟨runsWithin_of_runsWithinFrom (by decide +kernel),
      runsWithin_of_runsWithinFrom (by decide +kernel)⟩
  have differs : unbrokenPara ≠ marker url := by decide +kernel
  have result : interleaveSource unbrokenPage url = unbrokenPage ++ (sep ++ marker url) := by
    rw [interleaveSource_eq_join, pieces_unbrokenPage differs]
    unfold unbrokenPage Text.join
    simp only [List.map_cons, List.map_nil, List.intercalate_cons_cons, List.intercalate_singleton,
      Piece.render, List.append_assoc]
  have within : unbrokenPage.take 2700 <:+: interleaveSource unbrokenPage url := by
    rw [result]
    exact ((List.take_prefix 2700 unbrokenPage).trans (List.prefix_append _ _)).isInfix
  have held := always unbrokenPage url (by decide +kernel) runs (by decide) _ within
    (by decide +kernel)
  have opening : (0x5B : CodePoint) ∈ marker url := by decide
  exact absurd (held.mem opening) (by decide +kernel)

end SourceInterleave

end LocalGpuCluster
