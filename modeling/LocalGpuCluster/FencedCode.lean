/-
This file holds fenced code blocks at the top level of a page, by the rules of CommonMark: a fence is
three or more backticks or tildes behind three spaces at most, and only a fence of the same kind and
no shorter closes the block. A text whose runs of backticks are all shorter than the fence stays
inside its block.
-/

import LocalGpuCluster.LineLayout
import Mathlib.Data.List.TakeWhile

namespace LocalGpuCluster

namespace FencedCode

/-! ### Reading -/

/-- What a fence is made of, and how much of it. -/
structure Fence where
  mark : CodePoint
  length : ℕ
  deriving DecidableEq, Repr

def backtick : CodePoint := 0x60

def tilde : CodePoint := 0x7E

/-- The line behind its indentation, which is three spaces at most. -/
def unindented (line : Text) : Option Text :=
  let rest := line.dropWhile (· = 0x20)
  if line.length ≤ rest.length + 3 then some rest else none

/-- How often the mark comes at the start. -/
def marksAtStart (mark : CodePoint) (line : Text) : ℕ := (line.takeWhile (· = mark)).length

/-- The fence that the line opens a block with; what follows backticks has none. -/
def opens (line : Text) : Option Fence :=
  (unindented line).bind fun rest =>
    let backticks := marksAtStart backtick rest
    let tildes := marksAtStart tilde rest
    if 3 ≤ backticks ∧ backtick ∉ rest.drop backticks then some ⟨backtick, backticks⟩
    else if 3 ≤ tildes then some ⟨tilde, tildes⟩
    else none

/-- The line closes a block with this fence: only spaces and tabs may follow. -/
def closes (fence : Fence) (line : Text) : Bool :=
  (unindented line).any fun rest =>
    let marks := marksAtStart fence.mark rest
    fence.length ≤ marks && (rest.drop marks).all fun point => point = 0x20 || point = 0x9

/-- What a line of a page is. -/
inductive Kind where
  | outside
  | opening
  | inside
  | closing
  deriving DecidableEq, Repr

/-- The kinds of the lines, and the fence still to be closed at their end. -/
def readFrom : Option Fence → List Text → List Kind × Option Fence
  | block, [] => ([], block)
  | none, line :: rest =>
      match opens line with
      | none => let after := readFrom none rest; (.outside :: after.1, after.2)
      | some fence => let after := readFrom (some fence) rest; (.opening :: after.1, after.2)
  | some fence, line :: rest =>
      if closes fence line then let after := readFrom none rest; (.closing :: after.1, after.2)
      else let after := readFrom (some fence) rest; (.inside :: after.1, after.2)

/-- The lines of a page: a carriage return ends one as a line feed does. -/
def pageLines (page : Text) : List Text := LineLayout.linesOf (LineLayout.universal page)

def read (page : Text) : List Kind × Option Fence := readFrom none (pageLines page)

theorem readFrom_outside {line : Text} (plain : opens line = none) (rest : List Text) :
    readFrom none (line :: rest) =
      (.outside :: (readFrom none rest).1, (readFrom none rest).2) := by
  rw [readFrom, plain]

theorem readFrom_inside {fence : Fence} {body : List Text}
    (safe : ∀ line ∈ body, closes fence line = false) (rest : List Text) :
    readFrom (some fence) (body ++ rest) =
      (body.map (fun _ => .inside) ++ (readFrom (some fence) rest).1,
        (readFrom (some fence) rest).2) := by
  induction body with
  | nil => rfl
  | cons line others inductionHypothesis =>
    have open' := safe line List.mem_cons_self
    have tail := inductionHypothesis fun other member => safe other (List.mem_cons_of_mem _ member)
    rw [List.cons_append, readFrom, open', if_neg Bool.false_ne_true, tail]
    rfl

/-! ### Fences -/

/-- A fence of so many backticks. -/
def fenceLine (length : ℕ) : Text := List.replicate length backtick

theorem unindented_fenceLine (length : ℕ) : unindented (fenceLine length) = some (fenceLine length) := by
  have stays : (fenceLine length).dropWhile (· = 0x20) = fenceLine length := by
    cases length with
    | zero => rfl
    | succ length => rfl
  rw [unindented, stays]
  exact if_pos (Nat.le_add_right _ _)

theorem marksAtStart_fenceLine (length : ℕ) : marksAtStart backtick (fenceLine length) = length := by
  rw [marksAtStart, fenceLine, List.takeWhile_replicate]
  simp

theorem opens_fenceLine {length : ℕ} (long : 3 ≤ length) :
    opens (fenceLine length) = some ⟨backtick, length⟩ := by
  rw [opens, unindented_fenceLine, Option.bind_some]
  simp only [marksAtStart_fenceLine]
  refine if_pos ⟨long, ?_⟩
  rw [fenceLine, List.drop_of_length_le (by rw [List.length_replicate])]
  exact List.not_mem_nil

theorem closes_fenceLine (length : ℕ) : closes ⟨backtick, length⟩ (fenceLine length) = true := by
  rw [closes, unindented_fenceLine, Option.any_some]
  simp only [marksAtStart_fenceLine]
  rw [fenceLine, List.drop_of_length_le (by rw [List.length_replicate])]
  simp

/-- A line that starts with another character than a space or a mark opens nothing. -/
theorem opens_eq_none {first : CodePoint} (rest : Text) (visible : first ≠ 0x20)
    (noBacktick : first ≠ backtick) (noTilde : first ≠ tilde) : opens (first :: rest) = none := by
  have stays : (first :: rest).dropWhile (· = 0x20) = first :: rest :=
    List.dropWhile_cons_of_neg (by simpa using visible)
  have none (mark : CodePoint) (differs : first ≠ mark) : marksAtStart mark (first :: rest) = 0 := by
    rw [marksAtStart, List.takeWhile_cons_of_neg (by simpa using differs)]
    rfl
  rw [opens, unindented, stays, if_pos (Nat.le_add_right _ _), Option.bind_some]
  simp [none _ noBacktick, none _ noTilde]

/-- A line that closes a block has a run of marks as long as the fence. -/
theorem infix_of_closes {fence : Fence} {line : Text} (ends : closes fence line = true) :
    List.replicate fence.length fence.mark <:+: line := by
  rw [closes, Option.any_eq_true] at ends
  obtain ⟨rest, isRest, closing⟩ := ends
  have long : fence.length ≤ marksAtStart fence.mark rest :=
    of_decide_eq_true (Bool.and_eq_true_iff.mp closing).1
  have marks : rest.takeWhile (· = fence.mark) =
      List.replicate (marksAtStart fence.mark rest) fence.mark := by
    refine List.eq_replicate_iff.mpr ⟨rfl, fun point member => ?_⟩
    have isMark := List.mem_takeWhile_imp member
    exact of_decide_eq_true isMark
  have within : List.replicate fence.length fence.mark <+: rest := by
    refine List.IsPrefix.trans ?_ (List.takeWhile_prefix (· = fence.mark))
    rw [marks]
    refine ⟨List.replicate (marksAtStart fence.mark rest - fence.length) fence.mark, ?_⟩
    rw [List.replicate_append_replicate, Nat.add_sub_cancel' long]
  have whole : rest <:+ line := by
    dsimp only [unindented] at isRest
    split at isRest
    · rw [← Option.some.inj isRest]
      exact List.dropWhile_suffix _
    · cases isRest
  exact within.isInfix.trans whole.isInfix

/-! ### The longest run -/

/-- The length of the longest run of the mark, after a run that is still going on. -/
def longestRunFrom (mark : CodePoint) (run : ℕ) : Text → ℕ
  | [] => run
  | point :: rest =>
      if point = mark then longestRunFrom mark (run + 1) rest
      else max run (longestRunFrom mark 0 rest)

/-- The length of the longest match of `mark+`, zero for none. -/
def longestRun (mark : CodePoint) (content : Text) : ℕ := longestRunFrom mark 0 content

theorem le_longestRunFrom (mark : CodePoint) (run : ℕ) (content : Text) :
    run ≤ longestRunFrom mark run content := by
  induction content generalizing run with
  | nil => exact le_refl run
  | cons point rest inductionHypothesis =>
    rw [longestRunFrom]
    split
    · exact (Nat.le_succ run).trans (inductionHypothesis (run + 1))
    · exact le_max_left _ _

theorem add_le_longestRunFrom {mark : CodePoint} {length : ℕ} (run : ℕ) {content : Text}
    (starts : List.replicate length mark <+: content) :
    run + length ≤ longestRunFrom mark run content := by
  induction length generalizing run content with
  | zero => exact le_longestRunFrom mark run content
  | succ length inductionHypothesis =>
    obtain ⟨rest, whole⟩ := starts
    rw [List.replicate_succ, List.cons_append] at whole
    rw [← whole, longestRunFrom, if_pos rfl]
    have later := inductionHypothesis (run + 1) (List.prefix_append _ rest)
    omega

theorem longestRunFrom_mono {mark : CodePoint} {run more : ℕ} (le : run ≤ more) (content : Text) :
    longestRunFrom mark run content ≤ longestRunFrom mark more content := by
  induction content generalizing run more with
  | nil => exact le
  | cons point rest inductionHypothesis =>
    rw [longestRunFrom, longestRunFrom]
    split
    · exact inductionHypothesis (Nat.succ_le_succ le)
    · omega

/-- No run anywhere is longer. -/
theorem le_longestRun {mark : CodePoint} {length : ℕ} {content : Text}
    (within : List.replicate length mark <:+: content) : length ≤ longestRun mark content := by
  induction content with
  | nil =>
    have nothing := congrArg List.length (List.infix_nil.mp within)
    rw [List.length_replicate, List.length_nil] at nothing
    rw [nothing]
    exact Nat.zero_le _
  | cons point rest inductionHypothesis =>
    rcases List.infix_cons_iff.mp within with starts | later
    · exact (Nat.zero_add length).symm.le.trans (add_le_longestRunFrom 0 starts)
    · refine (inductionHypothesis later).trans ?_
      rw [longestRun, longestRun, longestRunFrom]
      split
      · exact longestRunFrom_mono (Nat.zero_le 1) rest
      · exact le_max_right _ _

/-- The longest run is one. -/
theorem infix_of_longestRunFrom (mark : CodePoint) (run : ℕ) (content : Text) :
    List.replicate (longestRunFrom mark run content) mark <:+: List.replicate run mark ++ content := by
  induction content generalizing run with
  | nil => exact (List.prefix_append _ _).isInfix
  | cons point rest inductionHypothesis =>
    rw [longestRunFrom]
    split
    · rename_i isMark
      subst isMark
      have longer := inductionHypothesis (run + 1)
      rwa [List.replicate_succ', List.append_assoc, List.singleton_append] at longer
    · rcases Nat.le_total run (longestRunFrom mark 0 rest) with later | earlier
      · rw [max_eq_right later]
        refine (inductionHypothesis 0).trans ?_
        exact ((List.suffix_cons point rest).trans (List.suffix_append _ _)).isInfix
      · rw [max_eq_left earlier]
        exact (List.prefix_append _ _).isInfix

theorem longestRun_le_of_infix (mark : CodePoint) {part whole : Text} (within : part <:+: whole) :
    longestRun mark part ≤ longestRun mark whole :=
  le_longestRun ((infix_of_longestRunFrom mark 0 part).trans within)

/-- What has no mark in it neither starts nor continues a run. -/
theorem longestRun_append_of_not_mem {mark : CodePoint} {front : Text} (absent : mark ∉ front)
    (back : Text) : longestRun mark (front ++ back) = longestRun mark back := by
  induction front with
  | nil => rfl
  | cons point rest inductionHypothesis =>
    rw [List.mem_cons, not_or] at absent
    rw [List.cons_append, longestRun, longestRunFrom, if_neg (Ne.symm absent.1), Nat.zero_max]
    exact inductionHypothesis absent.2

/-- It ends the run before it. -/
theorem longestRunFrom_append_of_not_mem {mark : CodePoint} {front : Text} (absent : mark ∉ front)
    (some : front ≠ []) (run : ℕ) (back : Text) :
    longestRunFrom mark run (front ++ back) = max run (longestRun mark back) := by
  cases front with
  | nil => exact absurd rfl some
  | cons point rest =>
    rw [List.mem_cons, not_or] at absent
    rw [List.cons_append, longestRunFrom, if_neg (Ne.symm absent.1),
      ← longestRun_append_of_not_mem absent.2]
    rfl

/-! ### A block -/

/-- Lines without a run as long as the fence are a block between two fences. -/
theorem readFrom_block {length : ℕ} (long : 3 ≤ length) {body : List Text}
    (short : ∀ line ∈ body, longestRun backtick line < length) (rest : List Text) :
    readFrom none (fenceLine length :: body ++ fenceLine length :: rest) =
      (.opening :: body.map (fun _ => .inside) ++ .closing :: (readFrom none rest).1,
        (readFrom none rest).2) := by
  have safe : ∀ line ∈ body, closes ⟨backtick, length⟩ line = false := by
    intro line member
    rw [Bool.eq_false_iff]
    intro ends
    exact absurd (le_longestRun (infix_of_closes ends)) (Nat.not_le.mpr (short line member))
  rw [List.cons_append, readFrom, opens_fenceLine long]
  dsimp only
  rw [readFrom_inside safe, readFrom, closes_fenceLine, if_pos rfl]
  rfl

end FencedCode

end LocalGpuCluster
