/-
This file models `_safe_message` of `escalation.py` and proves that nothing it returns would
make the client resend the request: no retry phrase is left, in any case, and no retry digit
run. Nothing else of the message is touched, and a message that is safe already stays as it is.

The phrases go in one pass, and the brackets put in their place cannot be part of a phrase, so
none can form across them. The digit runs go one at a time; every insertion separates two
digits, so the number of adjacent digits bounds the passes, and an apostrophe cannot complete a
phrase.
-/

import LocalGpuCluster.Text

namespace LocalGpuCluster

namespace Escalation

/-! ### The two patterns -/

/-- The alternatives of `_RETRY_PHRASES`. -/
def retryPhrases : List Text := [text "rate limit", text "service unavailable", text "try again"]

/-- The alternatives of `_RETRY_DIGITS`. -/
def retryDigits : List Text :=
  [text "408", text "409", text "429", text "500", text "502", text "503", text "504", text "524"]

def phraseAt (content : Text) : Option Text :=
  retryPhrases.find? fun phrase => Text.phraseHere phrase content

def digitsAt (content : Text) : Bool := retryDigits.any fun digits => content.startsWith digits

/-- `_RETRY_PHRASES.search(content) is not None`. -/
def searchPhrase : Text → Bool
  | [] => false
  | point :: rest => (phraseAt (point :: rest)).isSome || searchPhrase rest

/-- `_RETRY_DIGITS.search(content)`, its start. -/
def searchDigits : Text → Option ℕ
  | [] => none
  | point :: rest =>
      if digitsAt (point :: rest) then some 0 else (searchDigits rest).map (· + 1)

/-- What the client takes as a reason to resend. -/
def retryable (content : Text) : Bool := searchPhrase content || (searchDigits content).isSome

/-! ### Phrases -/

/-- `_RETRY_PHRASES.sub("[...]", content)`, with the code points still to be skipped. -/
def subPhrases : ℕ → Text → Text
  | _, [] => []
  | skip + 1, _ :: rest => subPhrases skip rest
  | 0, point :: rest =>
      match phraseAt (point :: rest) with
      | some phrase => text "[...]" ++ subPhrases (phrase.length - 1) rest
      | none => point :: subPhrases 0 rest

/-- No letter of a phrase stands for the code point. -/
def breaksPhrases (point : CodePoint) : Bool :=
  retryPhrases.all fun phrase => phrase.all fun letter => !CodePoint.foldsTo letter point

theorem breaksPhrases_bracket : (text "[...]").all breaksPhrases = true := by decide

theorem breaksPhrases_apostrophe : breaksPhrases 0x27 = true := by decide

theorem foldsTo_of_breaks {phrase : Text} {letter point : CodePoint}
    (breaks : breaksPhrases point = true) (member : phrase ∈ retryPhrases)
    (letterMember : letter ∈ phrase) : CodePoint.foldsTo letter point = false := by
  have all := List.all_eq_true.mp (List.all_eq_true.mp breaks phrase member) letter letterMember
  simpa using all

theorem phraseAt_of_breaks {point : CodePoint} (breaks : breaksPhrases point = true)
    (rest : Text) : phraseAt (point :: rest) = none := by
  refine List.find?_eq_none.mpr fun phrase member matched => ?_
  cases phrase with
  | nil => exact absurd member (by decide)
  | cons letter letters =>
    have folds : CodePoint.foldsTo letter point = true := by
      rw [Text.phraseHere, Bool.and_eq_true] at matched
      exact matched.1
    rw [foldsTo_of_breaks breaks member List.mem_cons_self] at folds
    exact Bool.false_ne_true folds

/-- A match in the substituted text was one in the text: up to a substituted phrase they agree. -/
theorem phraseHere_subPhrases {phrase : Text} (member : phrase ∈ retryPhrases) (content : Text)
    (letters : Text) (part : letters <:+ phrase)
    (matched : Text.phraseHere letters (subPhrases 0 content) = true) :
    Text.phraseHere letters content = true := by
  induction content generalizing letters with
  | nil => exact matched
  | cons point rest inductionHypothesis =>
    cases letters with
    | nil => rfl
    | cons letter more =>
      rw [subPhrases] at matched
      cases found : phraseAt (point :: rest) with
      | some replaced =>
        -- The bracket is no letter of the phrase.
        rw [found] at matched
        have folds : CodePoint.foldsTo letter 0x5B = true := (Bool.and_eq_true_iff.mp matched).1
        rw [foldsTo_of_breaks (by decide) member (part.subset List.mem_cons_self)] at folds
        exact absurd folds Bool.false_ne_true
      | none =>
        rw [found] at matched
        obtain ⟨folds, rested⟩ := Bool.and_eq_true_iff.mp matched
        exact Bool.and_eq_true_iff.mpr ⟨folds, inductionHypothesis more
          (List.IsSuffix.trans (List.suffix_cons letter more) part) rested⟩

/-- No phrase is left after the substitution. -/
theorem searchPhrase_subPhrases (skip : ℕ) (content : Text) :
    searchPhrase (subPhrases skip content) = false := by
  induction content generalizing skip with
  | nil => cases skip <;> rfl
  | cons point rest inductionHypothesis =>
    cases skip with
    | succ skip => exact inductionHypothesis skip
    | zero =>
      rw [subPhrases]
      cases found : phraseAt (point :: rest) with
      | some phrase =>
        have brackets (broken : Text) (breaks : broken.all breaksPhrases = true) (tail : Text)
            (clean : searchPhrase tail = false) : searchPhrase (broken ++ tail) = false := by
          induction broken with
          | nil => exact clean
          | cons bracket more bracketsHypothesis =>
            obtain ⟨first, others⟩ := Bool.and_eq_true_iff.mp (List.all_cons.symm.trans breaks)
            rw [List.cons_append, searchPhrase, phraseAt_of_breaks first,
              bracketsHypothesis others]
            rfl
        exact brackets (text "[...]") breaksPhrases_bracket _ (inductionHypothesis _)
      | none =>
        have kept : phraseAt (point :: subPhrases 0 rest) = none := by
          refine List.find?_eq_none.mpr fun phrase member matched => ?_
          have before := phraseHere_subPhrases member (point :: rest) phrase List.suffix_rfl
            (by rw [subPhrases, found]; exact matched)
          exact List.find?_eq_none.mp found phrase member before
        show ((phraseAt (point :: subPhrases 0 rest)).isSome || searchPhrase (subPhrases 0 rest)) =
          false
        rw [kept, inductionHypothesis 0]
        rfl

/-! ### Digit runs -/

/-- `text[:start + 1] + "'" + text[start + 1:]`. -/
def insertMark (content : Text) (start : ℕ) : Text :=
  content.take (start + 1) ++ 0x27 :: content.drop (start + 1)

def isDigit (point : CodePoint) : Bool := 0x30 ≤ point.val && point.val ≤ 0x39

/-- The text starts with two digits. -/
def startsWithPair : Text → Bool
  | first :: second :: _ => isDigit first && isDigit second
  | _ => false

/-- How many digits are followed by a digit. -/
def digitPairs : Text → ℕ
  | [] => 0
  | point :: rest => (if startsWithPair (point :: rest) then 1 else 0) + digitPairs rest

/-- A digit run starts with two digits. -/
theorem startsWithPair_of_digitsAt {content : Text} (found : digitsAt content = true) :
    startsWithPair content = true := by
  obtain ⟨digits, member, start⟩ := List.any_eq_true.mp found
  obtain ⟨rest, rfl⟩ := List.isPrefixOf_iff_prefix.mp start
  have pair : ∀ run ∈ retryDigits, startsWithPair run = true := by decide
  have here := pair digits member
  match digits with
  | [] => cases here
  | [_] => cases here
  | _ :: _ :: _ => exact here

/-- Every mark separates two digits. -/
theorem digitPairs_insertMark {content : Text} {start : ℕ}
    (found : searchDigits content = some start) :
    digitPairs (insertMark content start) < digitPairs content := by
  induction content generalizing start with
  | nil => cases found
  | cons point rest inductionHypothesis =>
    rw [searchDigits] at found
    split at found
    · rename_i here
      cases found
      have pair := startsWithPair_of_digitsAt here
      match rest with
      | [] => cases pair
      | second :: more =>
        obtain ⟨-, secondDigit⟩ := Bool.and_eq_true_iff.mp pair
        have mark : isDigit 0x27 = false := by decide
        show (if isDigit point && isDigit 0x27 then 1 else 0) +
          ((if isDigit 0x27 && isDigit second then 1 else 0) + digitPairs (second :: more)) <
          (if startsWithPair (point :: second :: more) then 1 else 0) + digitPairs (second :: more)
        rw [pair, mark]
        simp
    · obtain ⟨next, foundNext, rfl⟩ := Option.map_eq_some_iff.mp found
      have fewer := inductionHypothesis foundNext
      have samePair : startsWithPair (point :: insertMark rest next) =
          startsWithPair (point :: rest) := by
        match rest with
        | [] => cases foundNext
        | second :: more => rfl
      show (if startsWithPair (point :: insertMark rest next) then 1 else 0) +
        digitPairs (insertMark rest next) < _
      rw [samePair, digitPairs]
      omega

/-- The loop of `_safe_message`. -/
def breakDigits (content : Text) : Text :=
  match _found : searchDigits content with
  | none => content
  | some start => breakDigits (insertMark content start)
termination_by digitPairs content
decreasing_by exact digitPairs_insertMark _found

/-- `_safe_message`. -/
def safeMessage (message : Text) : Text := breakDigits (subPhrases 0 message)

/-! ### Nothing is left to retry on -/

theorem searchDigits_breakDigits (content : Text) : searchDigits (breakDigits content) = none := by
  induction content using breakDigits.induct with
  | case1 content found =>
    rw [breakDigits]
    split
    · exact found
    · rename_i start foundSome
      rw [found] at foundSome
      cases foundSome
  | case2 content start found inductionHypothesis =>
    rw [breakDigits]
    split
    · rename_i foundNone
      rw [found] at foundNone
      cases foundNone
    · rename_i other foundOther
      rw [found] at foundOther
      cases foundOther
      exact inductionHypothesis

/-- A phrase that matches across a mark would have to contain the mark. -/
theorem phraseHere_mark {phrase : Text} (member : phrase ∈ retryPhrases) (letters : Text)
    (part : letters <:+ phrase) (before after other : Text)
    (matched : Text.phraseHere letters (before ++ 0x27 :: after) = true) :
    Text.phraseHere letters (before ++ other) = true := by
  induction before generalizing letters with
  | nil =>
    cases letters with
    | nil => cases other <;> rfl
    | cons letter more =>
      have folds : CodePoint.foldsTo letter 0x27 = true := (Bool.and_eq_true_iff.mp matched).1
      rw [foldsTo_of_breaks breaksPhrases_apostrophe member (part.subset List.mem_cons_self)] at folds
      exact absurd folds Bool.false_ne_true
  | cons point rest inductionHypothesis =>
    cases letters with
    | nil => rfl
    | cons letter more =>
      obtain ⟨folds, rested⟩ := Bool.and_eq_true_iff.mp matched
      exact Bool.and_eq_true_iff.mpr ⟨folds, inductionHypothesis more
        (List.IsSuffix.trans (List.suffix_cons letter more) part) rested⟩

theorem searchPhrase_mark (before after : Text) (clean : searchPhrase (before ++ after) = false) :
    searchPhrase (before ++ 0x27 :: after) = false := by
  induction before with
  | nil =>
    show ((phraseAt (0x27 :: after)).isSome || searchPhrase after) = false
    rw [phraseAt_of_breaks breaksPhrases_apostrophe]
    exact clean
  | cons point rest inductionHypothesis =>
    obtain ⟨here, later⟩ := Bool.or_eq_false_iff.mp clean
    have noneHere : phraseAt (point :: (rest ++ after)) = none :=
      Option.not_isSome_iff_eq_none.mp (ne_of_eq_of_ne here Bool.false_ne_true)
    have stillHere : phraseAt (point :: (rest ++ 0x27 :: after)) = none := by
      refine List.find?_eq_none.mpr fun phrase member matched => ?_
      have matchedBefore := phraseHere_mark member phrase List.suffix_rfl (point :: rest) after
        after matched
      exact List.find?_eq_none.mp noneHere phrase member matchedBefore
    show ((phraseAt (point :: (rest ++ 0x27 :: after))).isSome ||
      searchPhrase (rest ++ 0x27 :: after)) = false
    rw [stillHere, inductionHypothesis later]
    rfl

theorem searchPhrase_breakDigits (content : Text) (clean : searchPhrase content = false) :
    searchPhrase (breakDigits content) = false := by
  induction content using breakDigits.induct with
  | case1 content found =>
    rw [breakDigits]
    split
    · exact clean
    · rename_i start foundSome
      rw [found] at foundSome
      cases foundSome
  | case2 content start found inductionHypothesis =>
    rw [breakDigits]
    split
    · rename_i foundNone
      rw [found] at foundNone
      cases foundNone
    · rename_i other foundOther
      rw [found] at foundOther
      cases foundOther
      refine inductionHypothesis (searchPhrase_mark _ _ ?_)
      rw [List.take_append_drop]
      exact clean

/-- No text that `_safe_message` returns gives the client a reason to resend. -/
theorem safeMessage_not_retryable (message : Text) : retryable (safeMessage message) = false := by
  unfold retryable safeMessage
  rw [searchDigits_breakDigits, searchPhrase_breakDigits _ (searchPhrase_subPhrases 0 message)]
  rfl

/-! ### Nothing else is changed -/

/-- The text with a bracket for each phrase, from left to right, and all else as it was. -/
inductive PhrasesReplaced : Text → Text → Prop
  | done : PhrasesReplaced [] []
  | kept {point : CodePoint} {rest written : Text} :
      phraseAt (point :: rest) = none → PhrasesReplaced rest written →
      PhrasesReplaced (point :: rest) (point :: written)
  | replaced {phrase taken rest written : Text} :
      phraseAt (taken ++ rest) = some phrase → taken.length = phrase.length →
      PhrasesReplaced rest written → PhrasesReplaced (taken ++ rest) (text "[...]" ++ written)

/-- The text with apostrophes put in, and all else as it was. -/
inductive MarksInserted : Text → Text → Prop
  | done : MarksInserted [] []
  | kept {point : CodePoint} {rest written : Text} :
      MarksInserted rest written → MarksInserted (point :: rest) (point :: written)
  | marked {content written : Text} :
      MarksInserted content written → MarksInserted content (0x27 :: written)

theorem length_le_of_phraseHere {letters content : Text}
    (matched : Text.phraseHere letters content = true) : letters.length ≤ content.length := by
  induction letters generalizing content with
  | nil => exact Nat.zero_le _
  | cons letter more inductionHypothesis =>
    cases content with
    | nil => cases matched
    | cons point rest =>
      exact Nat.succ_le_succ (inductionHypothesis (Bool.and_eq_true_iff.mp matched).2)

/-- A phrase found at the start of the text is one of the list, and lies in the text. -/
theorem phraseAt_spec {content phrase : Text} (found : phraseAt content = some phrase) :
    phrase ≠ [] ∧ phrase.length ≤ content.length := by
  have member := List.mem_of_find?_eq_some found
  have nonempty : ∀ listed ∈ retryPhrases, listed ≠ [] := by decide
  have matched : Text.phraseHere phrase content = true :=
    List.find?_some (p := fun listed => Text.phraseHere listed content) found
  exact ⟨nonempty phrase member, length_le_of_phraseHere matched⟩

/-- What is skipped is not looked at. -/
theorem subPhrases_skip (taken rest : Text) : subPhrases taken.length (taken ++ rest) =
    subPhrases 0 rest := by
  induction taken with
  | nil => rfl
  | cons point more inductionHypothesis => exact inductionHypothesis

theorem phrasesReplaced_subPhrases (content : Text) :
    PhrasesReplaced content (subPhrases 0 content) := by
  match content with
  | [] => exact .done
  | point :: rest =>
    rw [subPhrases]
    cases found : phraseAt (point :: rest) with
    | none => exact .kept found (phrasesReplaced_subPhrases rest)
    | some phrase =>
      obtain ⟨nonempty, fits⟩ := phraseAt_spec found
      have positive : 0 < phrase.length := List.length_pos_iff.mpr nonempty
      rw [List.length_cons] at fits
      have taken : (rest.take (phrase.length - 1)).length = phrase.length - 1 :=
        List.length_take_of_le (by omega)
      have split : point :: rest =
          point :: rest.take (phrase.length - 1) ++ rest.drop (phrase.length - 1) := by
        rw [List.cons_append, List.take_append_drop]
      have skipped := subPhrases_skip (rest.take (phrase.length - 1))
        (rest.drop (phrase.length - 1))
      rw [taken, List.take_append_drop] at skipped
      show PhrasesReplaced _ (text "[...]" ++ subPhrases (phrase.length - 1) rest)
      rw [skipped, split]
      refine .replaced (split ▸ found) ?_ (phrasesReplaced_subPhrases _)
      rw [List.length_cons, taken]
      omega
termination_by content.length

theorem marksInserted_refl (content : Text) : MarksInserted content content := by
  induction content with
  | nil => exact .done
  | cons point rest inductionHypothesis => exact .kept inductionHypothesis

/-- A mark may be put in at any place of a text into which marks were put already. -/
theorem MarksInserted.insert {content written : Text} (inserted : MarksInserted content written)
    (start : ℕ) : MarksInserted content (written.take start ++ 0x27 :: written.drop start) := by
  induction start generalizing content written with
  | zero => exact .marked inserted
  | succ start inductionHypothesis =>
    cases inserted with
    | done => exact .marked .done
    | kept rest => exact .kept (inductionHypothesis rest)
    | marked rest => exact .marked (inductionHypothesis rest)

theorem MarksInserted.breakDigits {content written : Text}
    (inserted : MarksInserted content written) :
    MarksInserted content (Escalation.breakDigits written) := by
  induction written using breakDigits.induct with
  | case1 written found =>
    rw [Escalation.breakDigits]
    split
    · exact inserted
    · rename_i start foundSome
      rw [found] at foundSome
      cases foundSome
  | case2 written start found inductionHypothesis =>
    rw [Escalation.breakDigits]
    split
    · exact inserted
    · rename_i other foundOther
      rw [found] at foundOther
      cases foundOther
      exact inductionHypothesis (inserted.insert (start + 1))

/-! ### Once is enough -/

theorem subPhrases_of_clean {content : Text} (clean : searchPhrase content = false) :
    subPhrases 0 content = content := by
  induction content with
  | nil => rfl
  | cons point rest inductionHypothesis =>
    obtain ⟨here, later⟩ := Bool.or_eq_false_iff.mp clean
    have noneHere : phraseAt (point :: rest) = none :=
      Option.not_isSome_iff_eq_none.mp (ne_of_eq_of_ne here Bool.false_ne_true)
    rw [subPhrases, noneHere]
    exact congrArg (point :: ·) (inductionHypothesis later)

theorem breakDigits_of_clean {content : Text} (clean : searchDigits content = none) :
    breakDigits content = content := by
  rw [breakDigits]
  split
  · rfl
  · rename_i start found
    rw [clean] at found
    cases found

theorem safeMessage_of_not_retryable {message : Text} (clean : retryable message = false) :
    safeMessage message = message := by
  obtain ⟨phrases, digits⟩ := Bool.or_eq_false_iff.mp clean
  have noDigits : searchDigits message = none :=
    Option.not_isSome_iff_eq_none.mp (ne_of_eq_of_ne digits Bool.false_ne_true)
  rw [safeMessage, subPhrases_of_clean phrases, breakDigits_of_clean noDigits]

/-- What `_safe_message` returns holds nothing to retry on; it is the message with a bracket for
each phrase and apostrophes put in, and it is its own safe message. -/
theorem safeMessage_rewrites (message : Text) :
    retryable (safeMessage message) = false ∧
      (∃ bracketed, PhrasesReplaced message bracketed ∧
        MarksInserted bracketed (safeMessage message)) ∧
      safeMessage (safeMessage message) = safeMessage message := by
  have clean := safeMessage_not_retryable message
  refine ⟨clean, ⟨subPhrases 0 message, phrasesReplaced_subPhrases message, ?_⟩,
    safeMessage_of_not_retryable clean⟩
  exact (marksInserted_refl _).breakDigits

end Escalation

end LocalGpuCluster
