/-
This file holds regular expressions over any alphabet, matched the way a backtracking engine
matches them: the alternatives are tried in order, a greedy repetition tries one more round before
it stops and a lazy one stops first, and the first way through is the match. Which of several
matches is taken depends on that order; whether there is one does not, and `Matches` says what a
regular expression matches without it. Erasing every match from a list leaves the list alone exactly
when nothing in it matches.
-/

import Mathlib.Data.List.Basic
import Mathlib.Data.List.Infix

namespace LocalGpuCluster

inductive Regex (Symbol : Type) where
  /-- One symbol of a class. -/
  | one (accepts : Symbol → Bool)
  | empty
  | seq (first second : Regex Symbol)
  | alt (first second : Regex Symbol)
  | star (greedy : Bool) (body : Regex Symbol)

namespace Regex

variable {Symbol : Type}

/-- The expressions one after the other. -/
def all (parts : List (Regex Symbol)) : Regex Symbol := parts.foldr .seq .empty

/-- One of the expressions, tried in order. -/
def oneOf : List (Regex Symbol) → Regex Symbol
  | [] => .one fun _ => false
  | [only] => only
  | first :: rest => .alt first (oneOf rest)

/-- The symbols of a word, one after the other. -/
def literal [DecidableEq Symbol] (word : List Symbol) : Regex Symbol :=
  all (word.map fun symbol => .one fun other => other = symbol)

/-- At least one round. -/
def plus (body : Regex Symbol) : Regex Symbol := .seq body (.star true body)

/-- One round or none. -/
def optional (body : Regex Symbol) : Regex Symbol := .alt body .empty

/-! ### Matching -/

/-- What a repetition may leave, in the order it is tried. A round that takes nothing is not
repeated. -/
def repeatRests (greedy : Bool) (body : List Symbol → List (List Symbol)) :
    ℕ → List Symbol → List (List Symbol)
  | 0, input => [input]
  | rounds + 1, input =>
      let more := (body input).flatMap fun rest =>
        if rest.length < input.length then repeatRests greedy body rounds rest else []
      if greedy then more ++ [input] else input :: more

/-- What a match at the start of the input may leave of it, in the order the matches are tried. -/
def rests : Regex Symbol → List Symbol → List (List Symbol)
  | .one _, [] => []
  | .one accepts, symbol :: rest => if accepts symbol then [rest] else []
  | .empty, input => [input]
  | .seq first second, input => (first.rests input).flatMap second.rests
  | .alt first second, input => first.rests input ++ second.rests input
  | .star greedy body, input => repeatRests greedy body.rests input.length input

/-- What the match at the start of the input leaves of it, `none` when there is none. -/
def firstRest (regex : Regex Symbol) (input : List Symbol) : Option (List Symbol) :=
  (regex.rests input).head?

/-- The input without the matches, read from the left; `skip` symbols of it still belong to the
match before. -/
def eraseFrom (regex : Regex Symbol) : ℕ → List Symbol → List Symbol
  | _, [] => []
  | skip + 1, _ :: rest => eraseFrom regex skip rest
  | 0, symbol :: rest =>
      match regex.firstRest (symbol :: rest) with
      | some left =>
          if left.length ≤ rest.length then eraseFrom regex (rest.length - left.length) rest
          else symbol :: eraseFrom regex 0 rest
      | none => symbol :: eraseFrom regex 0 rest

/-- `re.sub` with an empty replacement. -/
def erase (regex : Regex Symbol) (input : List Symbol) : List Symbol := regex.eraseFrom 0 input

/-- The input with every match replaced, read from the left: `replace` says what is written in the
place of the match at the start of what is left and what comes after it. -/
def substituteFrom (replace : List Symbol → Option (List Symbol × List Symbol)) :
    ℕ → List Symbol → List Symbol
  | _, [] => []
  | skip + 1, _ :: rest => substituteFrom replace skip rest
  | 0, symbol :: rest =>
      match replace (symbol :: rest) with
      | some (written, left) => written ++ substituteFrom replace (rest.length - left.length) rest
      | none => symbol :: substituteFrom replace 0 rest

/-- `re.sub` of a regular expression that matches no empty word. -/
def substitute (replace : List Symbol → Option (List Symbol × List Symbol))
    (input : List Symbol) : List Symbol := substituteFrom replace 0 input

/-! ### What matches -/

/-- The words a regular expression matches. -/
inductive Matches : Regex Symbol → List Symbol → Prop
  | one {accepts : Symbol → Bool} {symbol : Symbol} (accepted : accepts symbol = true) :
      Matches (.one accepts) [symbol]
  | empty : Matches .empty []
  | seq {first second : Regex Symbol} {before after : List Symbol}
      (matchesFirst : Matches first before) (matchesSecond : Matches second after) :
      Matches (.seq first second) (before ++ after)
  | altFirst {first second : Regex Symbol} {word : List Symbol} (matchesFirst : Matches first word) :
      Matches (.alt first second) word
  | altSecond {first second : Regex Symbol} {word : List Symbol}
      (matchesSecond : Matches second word) : Matches (.alt first second) word
  | starDone {greedy : Bool} {body : Regex Symbol} : Matches (.star greedy body) []
  | starMore {greedy : Bool} {body : Regex Symbol} {round more : List Symbol}
      (matchesRound : Matches body round) (matchesMore : Matches (.star greedy body) more) :
      Matches (.star greedy body) (round ++ more)

/-- What a repetition leaves comes after rounds. -/
theorem matches_of_repeatRests {greedy : Bool} {body : Regex Symbol} {rounds : ℕ}
    {input rest : List Symbol}
    (sound : ∀ {input rest}, rest ∈ body.rests input → ∃ word, Matches body word ∧ input = word ++ rest)
    (left : rest ∈ repeatRests greedy body.rests rounds input) :
    ∃ word, Matches (.star greedy body) word ∧ input = word ++ rest := by
  induction rounds generalizing input with
  | zero =>
    rw [repeatRests, List.mem_singleton] at left
    exact ⟨[], .starDone, left.symm⟩
  | succ rounds inductionHypothesis =>
    have cases : rest = input ∨ rest ∈ (body.rests input).flatMap fun middle =>
        if middle.length < input.length then repeatRests greedy body.rests rounds middle else [] := by
      cases greedy
      · exact List.mem_cons.mp left
      · exact (List.mem_append.mp left).symm.imp_left List.mem_singleton.mp
    obtain rfl | more := cases
    · exact ⟨[], .starDone, rfl⟩
    · obtain ⟨middle, afterRound, further⟩ := List.mem_flatMap.mp more
      split at further
      · obtain ⟨round, matchesRound, rfl⟩ := sound afterRound
        obtain ⟨word, matchesMore, rfl⟩ := inductionHypothesis further
        exact ⟨round ++ word, .starMore matchesRound matchesMore, (List.append_assoc _ _ _).symm⟩
      · exact absurd further List.not_mem_nil

/-- What a match leaves comes after a word that matches. -/
theorem matches_of_mem_rests {regex : Regex Symbol} {input rest : List Symbol}
    (left : rest ∈ regex.rests input) : ∃ word, Matches regex word ∧ input = word ++ rest := by
  induction regex generalizing input rest with
  | one accepts =>
    cases input with
    | nil => exact absurd left List.not_mem_nil
    | cons symbol more =>
      rw [rests] at left
      split at left
      · rename_i accepted
        rw [List.mem_singleton.mp left]
        exact ⟨[symbol], .one accepted, rfl⟩
      · exact absurd left List.not_mem_nil
  | empty => exact ⟨[], .empty, (List.mem_singleton.mp left).symm⟩
  | seq first second firstSound secondSound =>
    obtain ⟨middle, leftFirst, leftSecond⟩ := List.mem_flatMap.mp left
    obtain ⟨before, matchesFirst, rfl⟩ := firstSound leftFirst
    obtain ⟨after, matchesSecond, rfl⟩ := secondSound leftSecond
    exact ⟨before ++ after, .seq matchesFirst matchesSecond, (List.append_assoc _ _ _).symm⟩
  | alt first second firstSound secondSound =>
    obtain leftFirst | leftSecond := List.mem_append.mp left
    · obtain ⟨word, matchesFirst, same⟩ := firstSound leftFirst
      exact ⟨word, .altFirst matchesFirst, same⟩
    · obtain ⟨word, matchesSecond, same⟩ := secondSound leftSecond
      exact ⟨word, .altSecond matchesSecond, same⟩
  | star greedy body sound => exact matches_of_repeatRests sound left

theorem mem_repeatRests_self {greedy : Bool} {body : List Symbol → List (List Symbol)} {rounds : ℕ}
    {input : List Symbol} : input ∈ repeatRests greedy body rounds input := by
  cases rounds with
  | zero => exact List.mem_singleton_self input
  | succ rounds =>
    cases greedy
    · exact List.mem_cons_self
    · exact List.mem_append_right _ (List.mem_singleton_self input)

theorem mem_repeatRests_of_more {greedy : Bool} {body : List Symbol → List (List Symbol)}
    {rounds : ℕ} {input middle rest : List Symbol} (afterRound : middle ∈ body input)
    (shorter : middle.length < input.length) (left : rest ∈ repeatRests greedy body rounds middle) :
    rest ∈ repeatRests greedy body (rounds + 1) input := by
  have more : rest ∈ (body input).flatMap fun middle =>
      if middle.length < input.length then repeatRests greedy body rounds middle else [] :=
    List.mem_flatMap.mpr ⟨middle, afterRound, by rwa [if_pos shorter]⟩
  cases greedy
  · exact List.mem_cons_of_mem _ more
  · exact List.mem_append_left _ more

/-- A repetition leaves what comes after rounds, when it may take as many as there are symbols. -/
theorem mem_repeatRests {greedy : Bool} {body : Regex Symbol} {word rest : List Symbol}
    (complete : ∀ {word rest}, Matches body word → rest ∈ body.rests (word ++ rest))
    (isMatch : Matches (.star greedy body) word) {rounds : ℕ} (enough : word.length ≤ rounds) :
    rest ∈ repeatRests greedy body.rests rounds (word ++ rest) := by
  generalize shape : Regex.star greedy body = regex at isMatch
  induction isMatch generalizing rounds with
  | one | empty | seq | altFirst | altSecond => cases shape
  | starDone => exact mem_repeatRests_self
  | @starMore greedy' body' round more matchesRound matchesMore _ inductionHypothesis =>
    cases shape
    cases round with
    | nil => exact inductionHypothesis enough rfl
    | cons symbol round =>
      cases rounds with
      | zero => exact absurd enough (by simp)
      | succ rounds =>
        have afterRound : more ++ rest ∈ body.rests (symbol :: round ++ (more ++ rest)) :=
          complete matchesRound
        rw [List.append_assoc]
        simp only [List.length_append, List.length_cons] at enough
        refine mem_repeatRests_of_more afterRound ?_ (inductionHypothesis (by omega) rfl)
        simp only [List.cons_append, List.length_cons, List.length_append]
        omega

/-- A word that matches at the start of the input is one way to match there. -/
theorem mem_rests_of_matches {regex : Regex Symbol} {word rest : List Symbol}
    (isMatch : Matches regex word) : rest ∈ regex.rests (word ++ rest) := by
  induction regex generalizing word rest with
  | one accepts =>
    cases isMatch with
    | one accepted =>
      rw [List.singleton_append, rests, if_pos accepted]
      exact List.mem_singleton_self rest
  | empty =>
    cases isMatch
    exact List.mem_singleton_self rest
  | seq first second firstComplete secondComplete =>
    cases isMatch with
    | seq matchesFirst matchesSecond =>
      rw [List.append_assoc]
      exact List.mem_flatMap.mpr ⟨_, firstComplete matchesFirst, secondComplete matchesSecond⟩
  | alt first second firstComplete secondComplete =>
    cases isMatch with
    | altFirst matchesFirst => exact List.mem_append_left _ (firstComplete matchesFirst)
    | altSecond matchesSecond => exact List.mem_append_right _ (secondComplete matchesSecond)
  | star greedy body complete =>
    exact mem_repeatRests complete isMatch (by simp)

theorem firstRest_eq_none {regex : Regex Symbol} {input : List Symbol} :
    regex.firstRest input = none ↔ ∀ word rest, input = word ++ rest → ¬Matches regex word := by
  rw [firstRest, List.head?_eq_none_iff]
  refine ⟨fun none word rest same isMatch => ?_, fun never => ?_⟩
  · have left : rest ∈ regex.rests (word ++ rest) := mem_rests_of_matches isMatch
    rw [← same, none] at left
    exact absurd left List.not_mem_nil
  · refine List.eq_nil_iff_forall_not_mem.mpr fun rest left => ?_
    obtain ⟨word, isMatch, same⟩ := matches_of_mem_rests left
    exact never word rest same isMatch

theorem matches_of_firstRest {regex : Regex Symbol} {input rest : List Symbol}
    (left : regex.firstRest input = some rest) :
    ∃ word, Matches regex word ∧ input = word ++ rest :=
  matches_of_mem_rests (List.mem_of_head? left)

/-! ### Erasing -/

/-- The regular expression matches no empty word. -/
def NeverEmpty (regex : Regex Symbol) : Prop := ¬Matches regex []

/-- Something in the list matches. -/
def Occurs (regex : Regex Symbol) (input : List Symbol) : Prop :=
  ∃ word, Matches regex word ∧ word <:+: input

theorem Occurs.mono {regex : Regex Symbol} {part input : List Symbol}
    (occurs : regex.Occurs part) (within : part <:+: input) : regex.Occurs input := by
  obtain ⟨word, isMatch, infixPart⟩ := occurs
  exact ⟨word, isMatch, infixPart.trans within⟩

theorem eraseFrom_eq_drop (regex : Regex Symbol) (skip : ℕ) (input : List Symbol) :
    regex.eraseFrom skip input = regex.erase (input.drop skip) := by
  induction skip generalizing input with
  | zero => rfl
  | succ skip inductionHypothesis =>
    cases input with
    | nil => rfl
    | cons symbol rest => exact inductionHypothesis rest

@[simp] theorem erase_nil (regex : Regex Symbol) : regex.erase [] = [] := rfl

theorem erase_cons_of_none {regex : Regex Symbol} {symbol : Symbol} {rest : List Symbol}
    (none : regex.firstRest (symbol :: rest) = none) :
    regex.erase (symbol :: rest) = symbol :: regex.erase rest := by
  show regex.eraseFrom 0 (symbol :: rest) = _
  rw [eraseFrom, none]
  rfl

/-- A match is skipped as a whole. -/
theorem erase_of_firstRest {regex : Regex Symbol} (neverEmpty : regex.NeverEmpty)
    {input rest : List Symbol} (left : regex.firstRest input = some rest) :
    regex.erase input = regex.erase rest := by
  obtain ⟨word, isMatch, rfl⟩ := matches_of_firstRest left
  cases word with
  | nil => exact absurd isMatch neverEmpty
  | cons symbol word =>
    show regex.eraseFrom 0 (symbol :: (word ++ rest)) = _
    rw [eraseFrom, show regex.firstRest (symbol :: (word ++ rest)) = some rest from left]
    simp only [List.length_append]
    rw [if_pos (Nat.le_add_left _ _), eraseFrom_eq_drop, Nat.add_sub_cancel, List.drop_left]

theorem length_erase_le (regex : Regex Symbol) (neverEmpty : regex.NeverEmpty)
    (input : List Symbol) : (regex.erase input).length ≤ input.length := by
  induction length : input.length using Nat.strong_induction_on generalizing input with
  | _ length inductionHypothesis =>
    subst length
    cases input with
    | nil => exact le_rfl
    | cons symbol rest =>
      cases left : regex.firstRest (symbol :: rest) with
      | none =>
        rw [erase_cons_of_none left]
        exact Nat.succ_le_succ (inductionHypothesis _ (Nat.lt_succ_self _) rest rfl)
      | some after =>
        rw [erase_of_firstRest neverEmpty left]
        obtain ⟨word, isMatch, same⟩ := matches_of_firstRest left
        have shorter : after.length < (symbol :: rest).length := by
          cases word with
          | nil => exact absurd isMatch neverEmpty
          | cons first word =>
            rw [same]
            simp only [List.cons_append, List.length_cons, List.length_append]
            omega
        exact (inductionHypothesis _ shorter after rfl).trans shorter.le

/-- Erasing leaves a list alone exactly when nothing in it matches. -/
theorem erase_eq_self_iff {regex : Regex Symbol} (neverEmpty : regex.NeverEmpty)
    {input : List Symbol} : regex.erase input = input ↔ ¬regex.Occurs input := by
  constructor
  · intro same occurs
    obtain ⟨word, isMatch, before, after, split⟩ := occurs
    induction input generalizing before with
    | nil =>
      have word_nil : word = [] := by simp_all
      exact neverEmpty (word_nil ▸ isMatch)
    | cons symbol rest inductionHypothesis =>
      cases left : regex.firstRest (symbol :: rest) with
      | none =>
        rw [erase_cons_of_none left] at same
        cases before with
        | nil => exact firstRest_eq_none.mp left word after split.symm isMatch
        | cons first before =>
          exact inductionHypothesis (List.cons.inj same).2 before (List.cons.inj split).2
      | some remaining =>
        rw [erase_of_firstRest neverEmpty left] at same
        obtain ⟨found, matchesFound, eq⟩ := matches_of_firstRest left
        have shorter := length_erase_le regex neverEmpty remaining
        rw [same, eq, List.length_append] at shorter
        have found_nil : found = [] := List.length_eq_zero_iff.mp (by omega)
        exact neverEmpty (found_nil ▸ matchesFound)
  · intro never
    induction input with
    | nil => rfl
    | cons symbol rest inductionHypothesis =>
      have left : regex.firstRest (symbol :: rest) = none :=
        firstRest_eq_none.mpr fun word after same isMatch =>
          never ⟨word, isMatch, [], after, same.symm⟩
      rw [erase_cons_of_none left, inductionHypothesis fun occurs =>
        never (occurs.mono (List.suffix_cons symbol rest).isInfix)]

/-! ### Substituting -/

section

variable {replace : List Symbol → Option (List Symbol × List Symbol)}

theorem substituteFrom_eq_drop (skip : ℕ) (input : List Symbol) :
    substituteFrom replace skip input = substitute replace (input.drop skip) := by
  induction skip generalizing input with
  | zero => rfl
  | succ skip inductionHypothesis =>
    cases input with
    | nil => rfl
    | cons symbol rest => exact inductionHypothesis rest

theorem substitute_of_none {symbol : Symbol} {rest : List Symbol}
    (kept : replace (symbol :: rest) = none) :
    substitute replace (symbol :: rest) = symbol :: substitute replace rest := by
  rw [substitute, substituteFrom, kept]
  rfl

/-- What is written in the place of a match, and then what the rest becomes. -/
theorem substitute_of_some {symbol : Symbol} {word rest written : List Symbol}
    (replaced : replace (symbol :: word ++ rest) = some (written, rest)) :
    substitute replace (symbol :: word ++ rest) = written ++ substitute replace rest := by
  have replaced : replace (symbol :: (word ++ rest)) = some (written, rest) := replaced
  show substituteFrom replace 0 (symbol :: (word ++ rest)) = _
  rw [substituteFrom, replaced]
  dsimp only
  rw [substituteFrom_eq_drop, List.length_append, Nat.add_sub_cancel, List.drop_left]

/-- Nothing is replaced where no match starts. -/
theorem substitute_eq_self {input : List Symbol}
    (kept : ∀ symbol ∈ input, ∀ rest, replace (symbol :: rest) = none) :
    substitute replace input = input := by
  induction input with
  | nil => rfl
  | cons symbol rest inductionHypothesis =>
    obtain ⟨first, others⟩ := List.forall_mem_cons.mp kept
    rw [substitute_of_none (first rest), inductionHypothesis others]

end

end Regex

end LocalGpuCluster
