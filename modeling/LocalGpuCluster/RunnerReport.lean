/-
This file is about `find_report` of the dispatcher: which of the report blocks that an agent printed is
used. The search of a text stops at its first task line, so the block that is used is the one that
starts there, in the last text whose first task line is the task's. Whether that is the last well-formed
block depends on what stands around it; the exact condition is at the end.
-/

import LocalGpuCluster.Egress

namespace LocalGpuCluster

namespace RunnerReport

open Egress (intOf maxStrDigits)

/-! ### Lines as the patterns see them -/

/-- What follows each line feed. -/
def afterFeeds : Text → List Text
  | [] => []
  | point :: rest => if point = 0xA then rest :: afterFeeds rest else afterFeeds rest

/-- The text from the start of each of its lines on, where `(?m)^` matches. -/
def lineStarts (content : Text) : List Text := content :: afterFeeds content

/-- `\s*$`, with which a line may end, in what follows. -/
def endsLine (rest : Text) : Bool :=
  (rest.takeWhile CodePoint.isSpace).contains 0xA || (rest.dropWhile CodePoint.isSpace).isEmpty

/-- What follows a key and the white space after it. -/
def afterKey (key line : Text) : Option Text :=
  if line.startsWith key then some ((line.drop key.length).dropWhile CodePoint.isSpace) else none

/-- The digits that `^task:\s*#?(\d+)\s*$` finds here. -/
def taskDigits (line : Text) : Option Text :=
  (afterKey (text "task:") line).bind fun value =>
    let number := if value.startsWith (text "#") then value.drop 1 else value
    let digits := number.takeWhile CodePoint.isDecimal
    if !digits.isEmpty && endsLine (number.drop digits.length) then some digits else none

/-- `^verdict:\s*\S` matches here. -/
def startsVerdict (line : Text) : Bool := (afterKey (text "verdict:") line).any fun value => !value.isEmpty

def isCapital (point : CodePoint) : Bool := 0x41 ≤ point.val && point.val ≤ 0x5A

/-- The word that `^verdict:\s*([A-Z]+)\s*$` finds here. -/
def verdictWord (line : Text) : Option Text :=
  (afterKey (text "verdict:") line).bind fun value =>
    let word := value.takeWhile isCapital
    if !word.isEmpty && endsLine (value.drop word.length) then some word else none

/-- What `^deviations:\s*(.*)$` finds here, stripped. -/
def deviationsHere (line : Text) : Option Text :=
  (afterKey (text "deviations:") line).map fun value =>
    Text.strip CodePoint.isSpace (value.takeWhile (· ≠ 0xA))

/-! ### Reports -/

/-- `VERDICTS`. -/
def verdicts : List Text := [text "PASS", text "FAIL", text "INDETERMINATE", text "BLOCKED"]

def fence : Text := text "```"

/-- `split("```", 1)[0]`. -/
def beforeFence : Text → Text
  | [] => []
  | point :: rest => if Text.startsWith (point :: rest) fence then [] else point :: beforeFence rest

structure Report where
  block : Text
  verdict : Option Text
  deviations : Text
  deriving DecidableEq

/-- The block that starts at a line. -/
def yamlOf (line : Text) : Text := (beforeFence line).rstrip

/-- The report that is made of a block. -/
def reportOf (yaml : Text) : Report where
  block := text "### runner report\n```yaml\n" ++ yaml ++ text "\n```"
  verdict := ((lineStarts yaml).findSome? verdictWord).filter (verdicts.contains ·)
  deviations := ((lineStarts yaml).findSome? deviationsHere).getD []

/-- The first task line, from its start on, and its digits. -/
def firstTask (content : Text) : Option (Text × Text) :=
  (lineStarts content).findSome? fun line => (taskDigits line).map (·, line)

/-- `report_block`. `int` raises where there are too many digits. -/
def reportBlock (content : Text) (task : ℕ) : Except Unit (Option Report) :=
  match firstTask content with
  | none => .ok none
  | some (digits, line) =>
      if maxStrDigits < digits.length then .error ()
      else if intOf digits ≠ task || !(lineStarts content).any startsVerdict then .ok none
      else .ok (some (reportOf (yamlOf line)))

/-- The loop of `find_report`. -/
def findFrom (task : ℕ) : List Text → Except Unit (Option Report)
  | [] => .ok none
  | content :: rest => do
      match ← reportBlock content task with
      | some report => return some report
      | none => findFrom task rest

/-- `find_report`. -/
def findReport (texts : List Text) (task : ℕ) : Except Unit (Option Report) := findFrom task texts.reverse

/-! ### Well-formed blocks -/

/-- The line is `task: N`. -/
def isTask (task : ℕ) (line : Text) : Bool := (taskDigits line).any fun digits => intOf digits = task

/-- A line of the block is `verdict: V` with a valid `V`. -/
def hasVerdict (yaml : Text) : Bool :=
  (lineStarts yaml).any fun line => (verdictWord line).any (verdicts.contains ·)

/-- The well-formed blocks among those that start at these lines. -/
def blocksAt (task : ℕ) (lines : List Text) : List Text :=
  ((lines.filter (isTask task)).map yamlOf).filter hasVerdict

/-- The well-formed blocks of a text in order. -/
def blocks (task : ℕ) (content : Text) : List Text := blocksAt task (lineStarts content)

/-- The last well-formed block is used, and no report is found where there is none. -/
def UsesLast (texts : List Text) (task : ℕ) : Prop :=
  findReport texts task = .ok ((texts.flatMap (blocks task)).getLast?.map reportOf)

/-! ### What the search of a text comes to -/

/-- The loop goes on to the text before this one. -/
def Passes (task : ℕ) (content : Text) : Prop :=
  ∀ digits line, firstTask content = some (digits, line) → digits.length ≤ maxStrDigits ∧
    (intOf digits = task → (lineStarts content).any startsVerdict = false)

/-- The first task line of the text is the task's, and a verdict stands in the text. -/
structure Answers (task : ℕ) (content line : Text) (before after : List Text) (digits : Text) :
    Prop where
  split : lineStarts content = before ++ line :: after
  first : ∀ other ∈ before, taskDigits other = none
  named : taskDigits line = some digits
  short : digits.length ≤ maxStrDigits
  own : intOf digits = task
  verdict : (lineStarts content).any startsVerdict = true

section Block

variable {task : ℕ} {content line : Text} {before after : List Text} {digits : Text}

theorem firstTask_eq_some (found : firstTask content = some (digits, line)) :
    ∃ before after, lineStarts content = before ++ line :: after ∧ taskDigits line = some digits ∧
      ∀ other ∈ before, taskDigits other = none := by
  obtain ⟨before, start, after, split, named, others⟩ := List.findSome?_eq_some_iff.mp found
  obtain ⟨found, here, same⟩ := Option.map_eq_some_iff.mp named
  cases same
  exact ⟨before, after, split, here, fun other member => Option.map_eq_none_iff.mp (others other member)⟩

theorem Answers.firstTask_eq (answers : Answers task content line before after digits) :
    firstTask content = some (digits, line) := by
  refine List.findSome?_eq_some_iff.mpr ⟨before, line, after, answers.split, ?_, ?_⟩
  · rw [answers.named, Option.map_some]
  · intro other member
    rw [answers.first other member, Option.map_none]

theorem reportBlock_of_passes (passes : Passes task content) : reportBlock content task = .ok none := by
  unfold reportBlock
  cases found : firstTask content with
  | none => rfl
  | some entry =>
    obtain ⟨digits, line⟩ := entry
    obtain ⟨short, silent⟩ := passes digits line found
    dsimp only
    rw [if_neg (Nat.not_lt.mpr short), if_pos]
    by_cases own : intOf digits = task
    · rw [silent own]
      simp
    · simp [own]

theorem Answers.reportBlock_eq (answers : Answers task content line before after digits) :
    reportBlock content task = .ok (some (reportOf (yamlOf line))) := by
  unfold reportBlock
  rw [answers.firstTask_eq]
  dsimp only
  rw [if_neg (Nat.not_lt.mpr answers.short), answers.verdict, answers.own, if_neg]
  simp

/-- The search passes the text, is answered in it, or raises there. -/
theorem reportBlock_cases (task : ℕ) (content : Text) : Passes task content ∨
    (∃ line before after digits, Answers task content line before after digits) ∨
      reportBlock content task = .error () := by
  cases found : firstTask content with
  | none => exact Or.inl fun digits line same => by rw [found] at same; cases same
  | some entry =>
    obtain ⟨digits, line⟩ := entry
    obtain ⟨before, after, split, named, first⟩ := firstTask_eq_some found
    by_cases short : digits.length ≤ maxStrDigits
    · by_cases answered : intOf digits = task ∧ (lineStarts content).any startsVerdict = true
      · exact Or.inr (Or.inl ⟨line, before, after, digits, split, first, named, short, answered.1,
          answered.2⟩)
      · refine Or.inl fun others start same => ?_
        rw [found] at same
        cases same
        exact ⟨short, fun own => Bool.eq_false_iff.mpr fun verdict => answered ⟨own, verdict⟩⟩
    · refine Or.inr (Or.inr ?_)
      unfold reportBlock
      rw [found]
      exact if_pos (Nat.not_le.mp short)

/-! ### The blocks of a text -/

theorem blocksAt_append (task : ℕ) (lines others : List Text) :
    blocksAt task (lines ++ others) = blocksAt task lines ++ blocksAt task others := by
  simp only [blocksAt, List.filter_append, List.map_append]

theorem blocksAt_of_no_task {lines : List Text} (none : ∀ line ∈ lines, taskDigits line = none) :
    blocksAt task lines = [] := by
  have nothing : lines.filter (isTask task) = [] := List.filter_eq_nil_iff.mpr fun line member => by
    rw [isTask, none line member]
    exact Bool.false_ne_true
  rw [blocksAt, nothing]
  rfl

theorem hasVerdict_of_mem_blocks {yaml : Text} (member : yaml ∈ blocks task content) :
    hasVerdict yaml = true :=
  (List.mem_filter.mp member).2

/-- The block at the first task line is the first, where it is well formed. -/
theorem Answers.blocks_eq (answers : Answers task content line before after digits) :
    blocks task content =
      (if hasVerdict (yamlOf line) then [yamlOf line] else []) ++ blocksAt task after := by
  have own : isTask task line = true := by
    rw [isTask, answers.named]
    exact decide_eq_true answers.own
  rw [blocks, answers.split, blocksAt_append, blocksAt_of_no_task answers.first, List.nil_append,
    ← List.singleton_append, blocksAt_append]
  congr 1
  rw [blocksAt, List.filter_cons_of_pos own, List.filter_nil, List.map_singleton, List.filter_singleton,
    cond_eq_ite]

theorem reportOf_injective : Function.Injective reportOf := by
  intro first second same
  have blocks := congrArg Report.block same
  exact List.append_cancel_left (List.append_cancel_right blocks)

end Block

/-! ### What the whole search comes to -/

section Search

variable {task : ℕ} {content : Text} {earlier later : List Text}

/-- The texts that the search passes are at the end. -/
theorem findFrom_passes {texts : List Text} (rest : List Text)
    (passes : ∀ other ∈ texts, Passes task other) :
    findFrom task (texts ++ rest) = findFrom task rest := by
  induction texts with
  | nil => rfl
  | cons content texts inductionHypothesis =>
    rw [List.cons_append, findFrom, reportBlock_of_passes (passes content List.mem_cons_self)]
    exact inductionHypothesis fun other member => passes other (List.mem_cons_of_mem _ member)

theorem findReport_of_passes {texts : List Text} (passes : ∀ other ∈ texts, Passes task other) :
    findReport texts task = .ok none := by
  rw [findReport, ← List.append_nil texts.reverse, findFrom_passes]
  · rfl
  · exact fun other member => passes other (List.mem_reverse.mp member)

theorem findReport_of_later (passes : ∀ other ∈ later, Passes task other) :
    findReport (earlier ++ content :: later) task = findFrom task (content :: earlier.reverse) := by
  rw [findReport, List.reverse_append, List.reverse_cons, List.append_assoc, findFrom_passes]
  · rfl
  · exact fun other member => passes other (List.mem_reverse.mp member)

/-- There is a last text that the search does not pass, if any. -/
theorem passes_or_stops (task : ℕ) (texts : List Text) : (∀ other ∈ texts, Passes task other) ∨
    ∃ earlier content later, texts = earlier ++ content :: later ∧ ¬ Passes task content ∧
      ∀ other ∈ later, Passes task other := by
  induction texts with
  | nil => exact Or.inl (by simp)
  | cons head texts inductionHypothesis =>
    obtain all | ⟨earlier, content, later, rfl, stops, passes⟩ := inductionHypothesis
    · by_cases passed : Passes task head
      · exact Or.inl (List.forall_mem_cons.mpr ⟨passed, all⟩)
      · exact Or.inr ⟨[], head, texts, rfl, passed, all⟩
    · exact Or.inr ⟨head :: earlier, content, later, rfl, stops, passes⟩

theorem hasVerdict_of_getLast? {texts : List Text} {last : Text}
    (found : (texts.flatMap (blocks task)).getLast? = some last) : hasVerdict last = true := by
  obtain ⟨content, _, member⟩ := List.mem_flatMap.mp (List.mem_of_getLast? found)
  exact hasVerdict_of_mem_blocks member

end Search

/-- No text is passed and none has a block; or the last text that is not passed is answered in it, the
block at its first task line is well formed, and so reads the last well-formed block after it, if any. -/
def Fits (texts : List Text) (task : ℕ) : Prop :=
  (∀ content ∈ texts, Passes task content ∧ blocks task content = []) ∨
  ∃ earlier content later, texts = earlier ++ content :: later ∧ (∀ other ∈ later, Passes task other) ∧
    ∃ line before after digits, Answers task content line before after digits ∧
      hasVerdict (yamlOf line) = true ∧
      ∀ last, (blocksAt task after ++ later.flatMap (blocks task)).getLast? = some last →
        last = yamlOf line

/-- The last block of all is the last after the first task line, or the one there. -/
theorem Answers.getLast?_eq {task : ℕ} {content line : Text} {before after later : List Text}
    {digits : Text} (answers : Answers task content line before after digits)
    (isBlock : hasVerdict (yamlOf line) = true) (earlier : List Text) :
    ((earlier ++ content :: later).flatMap (blocks task)).getLast? =
      some (((blocksAt task after ++ later.flatMap (blocks task)).getLast?).getD (yamlOf line)) := by
  rw [List.flatMap_append, List.flatMap_cons, answers.blocks_eq, if_pos isBlock, List.append_assoc,
    List.singleton_append, List.getLast?_append, List.getLast?_cons]
  rfl

/-- Which texts make the search use the last well-formed block. -/
theorem usesLast_iff (texts : List Text) (task : ℕ) : UsesLast texts task ↔ Fits texts task := by
  constructor
  · intro uses
    obtain passes | ⟨earlier, content, later, rfl, stops, passes⟩ := passes_or_stops task texts
    · -- Nothing is found, so there is no block.
      rw [UsesLast, findReport_of_passes passes] at uses
      have none : (texts.flatMap (blocks task)).getLast? = none :=
        Option.map_eq_none_iff.mp (Except.ok.inj uses).symm
      have nothing := List.flatMap_eq_nil_iff.mp (List.getLast?_eq_none_iff.mp none)
      exact Or.inl fun content member => ⟨passes content member, nothing content member⟩
    · rw [UsesLast, findReport_of_later passes, findFrom] at uses
      obtain passed | ⟨line, before, after, digits, answers⟩ | raises := reportBlock_cases task content
      · exact absurd passed stops
      · rw [answers.reportBlock_eq] at uses
        obtain ⟨last, found, same⟩ := Option.map_eq_some_iff.mp (Except.ok.inj uses).symm
        have reads : last = yamlOf line := reportOf_injective same
        have isBlock : hasVerdict (yamlOf line) = true := reads ▸ hasVerdict_of_getLast? found
        refine Or.inr ⟨earlier, content, later, rfl, passes, line, before, after, digits, answers,
          isBlock, fun other after => ?_⟩
        rw [answers.getLast?_eq isBlock, after] at found
        exact (Option.some.inj found).trans reads
      · rw [raises] at uses
        cases uses
  · rintro (nothing | ⟨earlier, content, later, rfl, passes, line, before, after, digits, answers,
      isBlock, reads⟩)
    · have none : texts.flatMap (blocks task) = [] :=
        List.flatMap_eq_nil_iff.mpr fun content member => (nothing content member).2
      rw [UsesLast, findReport_of_passes fun content member => (nothing content member).1, none]
      rfl
    · rw [UsesLast, findReport_of_later passes, findFrom, answers.reportBlock_eq,
        answers.getLast?_eq isBlock]
      cases last : (blocksAt task after ++ later.flatMap (blocks task)).getLast? with
      | none => rfl
      | some other =>
        rw [reads other last]
        rfl

/-- The task's report stands after that of another task. -/
theorem not_usesLast_after_other : ¬ ∀ (texts : List Text) (task : ℕ), UsesLast texts task := by
  intro claimed
  have uses := claimed [text "task: 8\nverdict: PASS\n\ntask: 7\nverdict: PASS\n"] 7
  have printed : ([text "task: 8\nverdict: PASS\n\ntask: 7\nverdict: PASS\n"].flatMap
      (blocks 7)).getLast? = some (text "task: 7\nverdict: PASS") := by decide
  have missed : findReport [text "task: 8\nverdict: PASS\n\ntask: 7\nverdict: PASS\n"] 7 =
    .ok none := by decide
  rw [UsesLast, missed, printed] at uses
  cases uses

end RunnerReport

end LocalGpuCluster
