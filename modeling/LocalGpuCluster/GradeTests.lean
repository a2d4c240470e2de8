/-
This file models how `grade.py` decides that a patch passes: which tests it expects, what it reads from
the JUnit report of the run, and what it makes of both. Modules are taken as their syntax trees and the
report as its test cases.
-/

import LocalGpuCluster.Dictionary
import LocalGpuCluster.JsonText
import Mathlib.Data.List.TakeWhile

namespace LocalGpuCluster

namespace Grade

/-! ### Tasks -/

/-- The fields of `task.json` that loading and grading read; `pytestArgs` is empty when missing. -/
structure Task where
  files : List Text
  tests : List Text
  /-- File names and destinations. -/
  hidden : List (Text × Text)
  timeoutS : ℤ
  pytestArgs : List Text
  deriving DecidableEq, Repr

/-- A component of a path goes on the stack of `posixpath.normpath`. -/
def pushComponent (absolute : Bool) (stack : List Text) (component : Text) : List Text :=
  if component = [] || component = text "." then stack
  else if component ≠ text ".." || (!absolute && stack = []) || stack.head? = some (text "..") then
    component :: stack
  else stack.tail

/-- `posixpath.normpath`. -/
def normpath (path : Text) : Text :=
  let absolute := path.startsWith (text "/")
  let slashes :=
    if path.startsWith (text "//") && !path.startsWith (text "///") then text "//"
    else if absolute then text "/" else []
  let components := (path.splitOn 0x2F).foldl (pushComponent absolute) []
  let normal := slashes ++ Text.join (text "/") components.reverse
  if normal = [] then text "." else normal

/-- `_safe_rel`. -/
def safeRel (path : Text) : Bool :=
  path ≠ [] && !path.contains 0x5C && !path.contains 0x3A && !path.startsWith (text "/") &&
    normpath path = path && path ≠ text ".." && !path.startsWith (text "../")

/-- `content.partition("::")`, without the separator. -/
def partition : Text → Text × Text
  | [] => ([], [])
  | 0x3A :: 0x3A :: rest => ([], rest)
  | point :: rest => (point :: (partition rest).1, (partition rest).2)

theorem partition_of_not_mem {content : Text} (plain : 0x3A ∉ content) :
    partition content = (content, []) := by
  induction content with
  | nil => rfl
  | cons point rest inductionHypothesis =>
    have other : point ≠ 0x3A := fun same => plain (same ▸ List.mem_cons_self)
    rw [partition.eq_3 point rest fun _ same _ => other same,
      inductionHypothesis fun member => plain (List.mem_cons_of_mem _ member)]

theorem partition_append {first : Text} (plain : 0x3A ∉ first) (rest : Text) :
    partition (first ++ text "::" ++ rest) = (first, rest) := by
  induction first with
  | nil => rfl
  | cons point first inductionHypothesis =>
    have other : point ≠ 0x3A := fun same => plain (same ▸ List.mem_cons_self)
    have unfolded := inductionHypothesis fun member => plain (List.mem_cons_of_mem _ member)
    show partition (point :: (first ++ text "::" ++ rest)) = _
    rw [partition.eq_3 _ _ fun _ same _ => other same, unfolded]

/-- `load_task` returns. -/
def accepts (task : Task) : Bool :=
  let destinations := task.hidden.map Prod.snd
  (task.files ++ task.tests ++ destinations ++ task.pytestArgs.map fun arg => (partition arg).1).all
      safeRel &&
    (task.hidden.map Prod.fst).all (fun name =>
      !name.contains 0x2F && !name.contains 0x5C && name ∉ [[], text ".", text ".."]) &&
    task.files.all (fun file => file ∉ task.tests ++ destinations) &&
    destinations.all (fun destination => destination ∉ task.tests)

/-- `_targets`. -/
def targets (task : Task) : List Text :=
  (if task.pytestArgs = [] then task.tests else task.pytestArgs) ++
    (task.hidden.map Prod.snd).insertionSort fun first second => JsonText.notAfter first second

/-! ### The expected tests -/

/-- A name in a module. -/
structure Identifier where
  content : Text
  some : content ≠ []
  plain : ∀ point ∈ content, point ∉ text ".:/[]"
  deriving DecidableEq

theorem Identifier.ext {first second : Identifier} (same : first.content = second.content) :
    first = second := by
  cases first
  cases second
  cases same
  rfl

def Identifier.ofPlain (content : Text) (some : content ≠ [])
    (plain : content.any (text ".:/[]").contains = false) : Identifier :=
  ⟨content, some, fun point member special =>
    List.any_eq_false.mp plain point member (List.contains_iff_mem.mpr special)⟩

/-- A statement of a module or a class. -/
inductive Item where
  /-- `FunctionDef` or `AsyncFunctionDef`. -/
  | functionDef (name : Identifier)
  | classDef (name : Identifier) (body : List Item)
  | other

/-- The test method that a statement of a class defines. -/
def methodOf : Item → Option Text
  | .functionDef name => if name.content.startsWith (text "test") then some name.content else none
  | _ => none

/-- The tests that a statement of a module defines. -/
def testsOf : Item → List Text
  | .functionDef name => if name.content.startsWith (text "test") then [name.content] else []
  | .classDef name body =>
      if name.content.startsWith (text "Test") then
        (body.filterMap methodOf).map fun method => name.content ++ text "::" ++ method
      else []
  | .other => []

/-- `expected_tests`. -/
def expectedTests (body : List Item) : List Text := body.flatMap testsOf

/-- `path[:-3].replace("/", ".")`. -/
def moduleOf (path : Text) : Text :=
  (path.take (path.length - 3)).map fun point => if point = 0x2F then 0x2E else point

/-- What a target adds to the set; `none` when its file does not open or parse. -/
def idsOf (tree : Text → Option (List Item)) (target : Text) : Option (List (Text × Text)) :=
  let module := moduleOf (partition target).1
  if (partition target).2 ≠ [] then some [(module, (partition target).2)]
  else (tree (partition target).1).map fun body => (expectedTests body).map fun name => (module, name)

/-- `expected_ids`. -/
def expectedIds (tree : Text → Option (List Item)) (targets : List Text) :
    Option (List (Text × Text)) :=
  (targets.mapM (idsOf tree)).map fun found => found.flatten.dedup

/-! ### The report -/

/-- A `testcase`: whether it has a failure, an error or a skip. -/
structure Case where
  classname : Text
  name : Text
  failed : Bool
  deriving DecidableEq, Repr

/-- `content.rsplit(".", 1)[-1]`. -/
def afterLastDot (content : Text) : Text := (content.reverse.takeWhile (· ≠ 0x2E)).reverse

/-- `content.rsplit(".", 1)[0]`. -/
def beforeLastDot (content : Text) : Text :=
  if 0x2E ∈ content then content.take (content.length - (afterLastDot content).length - 1) else content

theorem mem_of_mem_afterLastDot {content : Text} {point : CodePoint}
    (member : point ∈ afterLastDot content) : point ∈ content :=
  List.mem_reverse.mp (List.takeWhile_subset _ (List.mem_reverse.mp member))

section LastDot

variable {last : Text} (plain : 0x2E ∉ last)

include plain

theorem forall_reverse_ne : ∀ point ∈ last.reverse, decide (point ≠ 0x2E) = true :=
  fun _ member => decide_eq_true fun same => plain (same ▸ List.mem_reverse.mp member)

theorem afterLastDot_of_not_mem : afterLastDot last = last := by
  rw [afterLastDot, List.takeWhile_eq_self_iff.mpr (forall_reverse_ne plain), List.reverse_reverse]

theorem beforeLastDot_of_not_mem : beforeLastDot last = last := if_neg plain

theorem afterLastDot_append (before : Text) : afterLastDot (before ++ text "." ++ last) = last := by
  have reversed : (before ++ text "." ++ last).reverse = last.reverse ++ 0x2E :: before.reverse := by
    rw [List.reverse_append, List.reverse_append]
    rfl
  rw [afterLastDot, reversed, List.takeWhile_append_of_pos (forall_reverse_ne plain),
    List.takeWhile_cons_of_neg (by decide), List.append_nil, List.reverse_reverse]

theorem beforeLastDot_append (before : Text) :
    beforeLastDot (before ++ text "." ++ last) = before := by
  have dot : 0x2E ∈ before ++ text "." ++ last :=
    List.mem_append_left _ (List.mem_append_right _ List.mem_cons_self)
  have length : (before ++ text "." ++ last).length - last.length - 1 = before.length := by
    rw [List.length_append, List.length_append]
    show before.length + 1 + last.length - last.length - 1 = before.length
    omega
  rw [beforeLastDot, if_pos dot, afterLastDot_append plain, length, List.append_assoc,
    List.take_left]

end LastDot

/-- A dotted text is the text before its last dot, the dot and the text after it. -/
theorem eq_before_after {content : Text} (dot : 0x2E ∈ content) :
    content = beforeLastDot content ++ text "." ++ afterLastDot content := by
  obtain ⟨after, before, reversed, plain⟩ := List.eq_append_cons_of_mem (List.mem_reverse.mpr dot)
  have parts : content = before.reverse ++ text "." ++ after.reverse := by
    rw [← List.reverse_reverse content, reversed, List.reverse_append, List.reverse_cons]
    rfl
  have plainLast : 0x2E ∉ after.reverse := fun member => plain (List.mem_reverse.mp member)
  rw [parts, beforeLastDot_append plainLast, afterLastDot_append plainLast]

/-- `module, key`. -/
def resultKey (case : Case) : Text × Text :=
  let name := case.name.takeWhile (· ≠ 0x5B)
  let last := afterLastDot case.classname
  if last.startsWith (text "Test") then (beforeLastDot case.classname, last ++ text "::" ++ name)
  else (case.classname, name)

/-- `junit_results`. -/
def junitResults (cases : List Case) : List ((Text × Text) × Bool) :=
  Dictionary.gather resultKey true (fun ok case => ok && !case.failed) cases

/-! ### The grade -/

/-- A run of pytest; the report is `none` when it does not open or parse. -/
structure Run where
  rc : Option ℤ
  out : Text
  timedOut : Bool
  junit : Option (List Case)

structure GradeResult where
  pass : Bool
  stage : Text
  summary : Text
  rc : Option ℤ
  /-- How many tests are expected and how many of them passed. -/
  tests : Option (ℕ × ℕ)
  deriving DecidableEq, Repr

/-- `_tail`. -/
def tail (content : Text) : Text :=
  let lines := (Text.splitLines (content.strip CodePoint.isSpace)).filter fun line =>
    line.strip CodePoint.isSpace ≠ []
  lines.getLastD []

/-- `results.get(key)` is true. -/
def isPassed (results : List ((Text × Text) × Bool)) (key : Text × Text) : Bool :=
  (results.lookup key).getD false

/-- What `grade` makes of a run. -/
def gradeRun (task : Task) (expected : List (Text × Text)) (run : Run) : GradeResult :=
  if run.timedOut then
    ⟨false, text "timeout", text "over " ++ decimal task.timeoutS ++ text " s", none, none⟩
  else
    let results := (run.junit.map junitResults).getD []
    let passed := expected.countP (isPassed results)
    let ok := run.rc = some 0 && expected ≠ [] && passed = expected.length && results.all Prod.snd
    let summary :=
      if tail run.out = [] then text "no pytest summary (the test process ended early)"
      else tail run.out
    ⟨ok, text "tests", summary, run.rc, some (expected.length, passed)⟩

/-- `grade`, for a patch that applies or the text of the error; `none` when it raises. -/
def grade (task : Task) (tree : Text → Option (List Item)) (patchError : Option Text) (run : Run) :
    Option GradeResult :=
  match patchError with
  | some message =>
      some ⟨false, text "apply", message.drop (message.length - 300), none, none⟩
  | none => (expectedIds tree (targets task)).map fun expected => gradeRun task expected run

end Grade

end LocalGpuCluster
