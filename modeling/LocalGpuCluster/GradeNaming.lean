/-
This file compares the two names that `grade.py` has for a test: the one it reads from the test files and
the node ids, and the one it reads from a report that names cases as pytest does. They are the same for
the functions of a module and of a top-level class whose name begins with `Test`, with two exceptions
that come from splitting the dotted name of a case: a module whose own name begins with `Test`, and a
class with the name of its module. A node id with parameters or with nested classes has no counterpart
among the names of the report, so a correct patch fails there.
-/

import LocalGpuCluster.GradeTests

namespace LocalGpuCluster

namespace Grade

/-! ### Tests as pytest names them -/

/-- A file of tests, without its `.py`. -/
structure TestFile where
  stem : Text
  /-- `load_task` takes no path with a colon. -/
  noColon : 0x3A ∉ stem
  deriving DecidableEq

def TestFile.path (file : TestFile) : Text := file.stem ++ text ".py"

/-- `a.b` for the file `a/b.py`. -/
def TestFile.module (file : TestFile) : Text :=
  file.stem.map fun point => if point = 0x2F then 0x2E else point

/-- A test function in the classes around it, and the parameters of one of its cases. -/
structure Test where
  file : TestFile
  classes : List Identifier
  function : Identifier
  params : Option Text
  deriving DecidableEq

namespace Test

/-- The name of the case. -/
def reportedName (test : Test) : Text :=
  test.function.content ++ (test.params.map fun params => text "[" ++ params ++ text "]").getD []

/-- The `classname` of the case. -/
def dotted (test : Test) : Text :=
  Text.join (text ".") (test.file.module :: test.classes.map Identifier.content)

/-- The node id without its path. -/
def node (test : Test) : Text :=
  Text.join (text "::") (test.classes.map Identifier.content ++ [test.reportedName])

/-- The name that `expected_ids` has for the test. -/
def id (test : Test) : Text × Text := (test.file.module, test.node)

/-- The reported case is one of the test function. -/
def IsCaseOf (reported test : Test) : Prop :=
  reported.dotted = test.dotted ∧ reported.function = test.function

instance (reported test : Test) : Decidable (reported.IsCaseOf test) :=
  inferInstanceAs (Decidable (_ ∧ _))

/-- The name that the report has for a case of the test function can be the one expected. -/
def Named (test : Test) : Prop :=
  test.params = none ∧
    ((test.classes = [] ∧ (afterLastDot test.file.module).startsWith (text "Test") = false) ∨
      ∃ name, test.classes = [name] ∧ name.content.startsWith (text "Test") = true)

/-- The two names for the test are the same, and no function outside its class has them. -/
def Matched (test : Test) : Prop :=
  test.Named ∧ test.classes.map Identifier.content ≠ [test.file.module]

end Test

/-- A test with its outcome in a report. -/
structure Reported where
  test : Test
  failed : Bool

def Reported.case (reported : Reported) : Case :=
  ⟨reported.test.dotted, reported.test.reportedName, reported.failed⟩

/-- The methods of a class that are tests. -/
def methodTest (file : TestFile) (name : Identifier) : Item → Option Test
  | .functionDef method =>
      if method.content.startsWith (text "test") then some ⟨file, [name], method, none⟩ else none
  | _ => none

/-- The tests that a statement of a test file defines. -/
def definedBy (file : TestFile) : Item → List Test
  | .functionDef name =>
      if name.content.startsWith (text "test") then [⟨file, [], name, none⟩] else []
  | .classDef name body =>
      if name.content.startsWith (text "Test") then body.filterMap (methodTest file name) else []
  | .other => []

/-- A target names the tests: it is a test file that defines them, or the node id of one. -/
inductive Names (tree : Text → Option (List Item)) : Text → List Test → Prop where
  | file (file : TestFile) (body : List Item) (opens : tree file.path = some body) :
      Names tree file.path (body.flatMap (definedBy file))
  | node (test : Test) : Names tree (test.file.path ++ text "::" ++ test.node) [test]

/-- A patch that applies passes. -/
def Passes (task : Task) (tree : Text → Option (List Item)) (run : Run) : Prop :=
  ∃ result, grade task tree none run = some result ∧ result.pass = true

/-- The expected tests and the report name tests alike: when everything that pytest collects is listed
as passed the patch passes, and it does not pass when an expected test function has no case or a case
that failed. -/
structure Alike (task : Task) (tree : Text → Option (List Item)) (expected collected : List Test) :
    Prop where
  passes : expected ≠ [] ∨ collected ≠ [] → ∀ (report : List Reported) (out : Text),
    (∀ test ∈ collected, ⟨test, false⟩ ∈ report) → (∀ reported ∈ report, reported.failed = false) →
      Passes task tree ⟨some 0, out, false, some (report.map Reported.case)⟩
  fails : ∀ (run : Run) (report : List Reported), run.junit = some (report.map Reported.case) →
    ∀ test ∈ expected, ((∀ reported ∈ report, ¬ reported.test.IsCaseOf test) ∨
        ∃ reported ∈ report, reported.test.IsCaseOf test ∧ reported.failed = true) →
      ¬ Passes task tree run

/-! ### What is expected -/

theorem moduleOf_path (file : TestFile) : moduleOf file.path = file.module := by
  have length : file.path.length - 3 = file.stem.length := by
    rw [TestFile.path, List.length_append]
    exact Nat.add_sub_cancel _ 3
  rw [moduleOf, length, TestFile.path, List.take_left, TestFile.module]

theorem colon_not_mem_path (file : TestFile) : 0x3A ∉ file.path := fun member =>
  (List.mem_append.mp member).elim file.noColon (by decide)

theorem node_nil (file : TestFile) (function : Identifier) (params : Option Text) :
    (⟨file, [], function, params⟩ : Test).node =
      (⟨file, [], function, params⟩ : Test).reportedName :=
  show List.intercalate (text "::") [_] = _ from List.intercalate_singleton

theorem node_cons (file : TestFile) (name : Identifier) (classes : List Identifier)
    (function : Identifier) (params : Option Text) :
    (⟨file, name :: classes, function, params⟩ : Test).node =
      name.content ++ text "::" ++ (⟨file, classes, function, params⟩ : Test).node := by
  unfold Test.node Text.join
  rw [List.map_cons, List.cons_append]
  cases split : classes.map Identifier.content ++ [Test.reportedName ⟨file, classes, function, params⟩] with
  | nil => exact absurd split (List.append_ne_nil_of_right_ne_nil _ (List.cons_ne_nil _ _))
  | cons first rest =>
    show List.intercalate _ (name.content :: (classes.map Identifier.content ++
      [Test.reportedName ⟨file, classes, function, params⟩])) = _
    rw [split, List.intercalate_cons_cons, List.append_assoc]

theorem reportedName_none (file : TestFile) (classes : List Identifier) (function : Identifier) :
    (⟨file, classes, function, none⟩ : Test).reportedName = function.content := List.append_nil _

theorem node_method (file : TestFile) (name function : Identifier) :
    (⟨file, [name], function, none⟩ : Test).node =
      name.content ++ text "::" ++ function.content := by
  rw [node_cons, node_nil, reportedName_none]

/-- `expected_tests` has the names of the tests that a file defines. -/
theorem testsOf_eq (file : TestFile) (item : Item) :
    testsOf item = (definedBy file item).map Test.node := by
  cases item with
  | functionDef name =>
    show (if _ then _ else _) = List.map _ (if _ then _ else _)
    split
    · exact congrArg (fun node => [node]) ((node_nil file name none).trans (reportedName_none ..)).symm
    · rfl
  | classDef name body =>
    show (if _ then _ else _) = List.map _ (if _ then _ else _)
    split
    · rw [List.map_filterMap, List.map_filterMap]
      refine List.filterMap_congr fun statement _ => ?_
      cases statement with
      | functionDef method =>
        show Option.map _ (if _ then _ else _) = Option.map _ (if _ then _ else _)
        split
        · exact congrArg some (node_method file name method).symm
        · rfl
      | classDef => rfl
      | other => rfl
    · rfl
  | other => rfl

theorem reportedName_ne_nil (test : Test) : test.reportedName ≠ [] :=
  List.append_ne_nil_of_left_ne_nil test.function.some _

theorem node_ne_nil (test : Test) : test.node ≠ [] := by
  obtain ⟨file, classes, function, params⟩ := test
  cases classes with
  | nil =>
    rw [node_nil]
    exact reportedName_ne_nil _
  | cons name classes =>
    rw [node_cons, List.append_assoc]
    exact List.append_ne_nil_of_left_ne_nil name.some _

theorem file_of_mem_definedBy {file : TestFile} {item : Item} {test : Test}
    (defined : test ∈ definedBy file item) : test.file = file := by
  cases item with
  | functionDef name =>
    obtain rfl := List.mem_singleton.mp (List.mem_ite_nil_right.mp defined).2
    rfl
  | classDef name body =>
    obtain ⟨statement, -, method⟩ := List.mem_filterMap.mp (List.mem_ite_nil_right.mp defined).2
    cases statement with
    | functionDef method' =>
      obtain ⟨-, same⟩ := Option.ite_none_right_eq_some.mp method
      exact (congrArg Test.file (Option.some.inj same)).symm
    | classDef => exact absurd method (Option.some_ne_none _).symm
    | other => exact absurd method (Option.some_ne_none _).symm
  | other => exact absurd defined List.not_mem_nil

theorem idsOf_of_names {tree : Text → Option (List Item)} {target : Text} {tests : List Test}
    (names : Names tree target tests) : idsOf tree target = some (tests.map Test.id) := by
  cases names with
  | file file body opens =>
    rw [idsOf, partition_of_not_mem (colon_not_mem_path file), if_neg (fun some => some rfl), opens,
      Option.map_some, moduleOf_path]
    refine congrArg some ?_
    rw [expectedTests, List.map_flatMap, List.map_flatMap]
    refine List.flatMap_congr fun item _ => ?_
    rw [testsOf_eq file, List.map_map]
    exact List.map_congr_left fun test defined => by
      rw [Test.id, file_of_mem_definedBy defined, Function.comp_apply]
  | node test =>
    rw [idsOf, partition_append (colon_not_mem_path test.file), moduleOf_path]
    exact if_pos (node_ne_nil test)

/-- What `expected_ids` reads from targets that name tests are the names of these tests. -/
theorem expectedIds_of_names {tree : Text → Option (List Item)} {targets : List Text}
    {named : List (List Test)} (names : List.Forall₂ (Names tree) targets named) :
    expectedIds tree targets = some ((named.flatten.map Test.id).dedup) := by
  have each : targets.mapM (idsOf tree) = some (named.map (List.map Test.id)) := by
    induction names with
    | nil => rfl
    | cons first rest inductionHypothesis =>
      rw [List.mapM_cons, idsOf_of_names first, inductionHypothesis]
      rfl
  rw [expectedIds, each, Option.map_some, List.map_flatten]

/-! ### What is reported -/

theorem dot_not_mem (name : Identifier) : 0x2E ∉ name.content := fun member =>
  name.plain _ member (by decide)

theorem colon_not_mem (name : Identifier) : 0x3A ∉ name.content := fun member =>
  name.plain _ member (by decide)

theorem takeWhile_reportedName (test : Test) :
    test.reportedName.takeWhile (· ≠ 0x5B) = test.function.content := by
  have stays : ∀ point ∈ test.function.content, decide (point ≠ 0x5B) = true := fun _ member =>
    decide_eq_true fun same => test.function.plain _ member (by rw [same]; decide)
  rw [Test.reportedName, List.takeWhile_append_of_pos stays]
  cases test.params with
  | none => exact List.append_nil _
  | some params => exact List.append_nil _

/-- The key of a case by the last dotted part of its class name. -/
theorem resultKey_case (reported : Reported) : resultKey reported.case =
    if (afterLastDot reported.test.dotted).startsWith (text "Test") = true then
      (beforeLastDot reported.test.dotted,
        afterLastDot reported.test.dotted ++ text "::" ++ reported.test.function.content)
    else (reported.test.dotted, reported.test.function.content) := by
  unfold resultKey Reported.case
  dsimp only
  rw [takeWhile_reportedName]

theorem dotted_nil (file : TestFile) (function : Identifier) (params : Option Text) :
    (⟨file, [], function, params⟩ : Test).dotted = file.module :=
  show List.intercalate (text ".") [_] = _ from List.intercalate_singleton

theorem dotted_singleton (file : TestFile) (name function : Identifier) (params : Option Text) :
    (⟨file, [name], function, params⟩ : Test).dotted =
      file.module ++ text "." ++ name.content := by
  show List.intercalate (text ".") [_, _] = _
  rw [List.intercalate_cons_cons, List.intercalate_singleton, List.append_assoc]

/-- A case of a test function whose names can be the same has the name that is expected. -/
theorem resultKey_of_named {reported : Reported} {test : Test} (named : test.Named)
    (isCase : reported.test.IsCaseOf test) : resultKey reported.case = test.id := by
  obtain ⟨file, classes, function, params⟩ := test
  obtain ⟨rfl, ⟨rfl, other⟩ | ⟨name, rfl, tested⟩⟩ := named
  · rw [resultKey_case, isCase.1, isCase.2, dotted_nil, if_neg (by rw [other]; decide), Test.id, node_nil,
      reportedName_none]
  · rw [resultKey_case, isCase.1, isCase.2, dotted_singleton, afterLastDot_append (dot_not_mem name),
      beforeLastDot_append (dot_not_mem name), if_pos tested, Test.id, node_method]

theorem getLast?_node (test : Test) : test.node.getLast? = test.reportedName.getLast? := by
  obtain ⟨file, classes, function, params⟩ := test
  induction classes with
  | nil => rw [node_nil]
  | cons name classes inductionHypothesis =>
    rw [node_cons, List.getLast?_append, inductionHypothesis]
    exact Option.or_of_isSome (List.getLast?_isSome.mpr (reportedName_ne_nil _))

/-- A reported key ends as the function's name does, and so has no parameters. -/
theorem params_of_resultKey {reported : Reported} {test : Test}
    (same : resultKey reported.case = test.id) : test.params = none := by
  obtain ⟨file, classes, function, params⟩ := test
  cases params with
  | none => rfl
  | some params =>
    exfalso
    have closed : (resultKey reported.case).2.getLast? = some 0x5D := by
      rw [same, Test.id, getLast?_node]
      show (function.content ++ (text "[" ++ params ++ text "]")).getLast? = _
      rw [← List.append_assoc]
      exact List.getLast?_concat
    have function' : (resultKey reported.case).2.getLast? =
        reported.test.function.content.getLast? := by
      rw [resultKey_case]
      split
      · show (_ ++ reported.test.function.content).getLast? = _
        rw [List.getLast?_append]
        exact Option.or_of_isSome (List.getLast?_isSome.mpr reported.test.function.some)
      · rfl
    have member := List.mem_of_getLast? (function'.symm.trans closed)
    exact reported.test.function.plain _ member (by decide)

theorem colon_not_mem_dotted (test : Test) : 0x3A ∉ test.dotted := fun member => by
  obtain dot | ⟨part, isPart, inside⟩ := Text.mem_join member
  · exact absurd dot (by decide)
  obtain rfl | isClass := List.mem_cons.mp isPart
  · obtain ⟨point, inStem, same⟩ := List.mem_map.mp inside
    split at same
    · exact absurd same (by decide)
    · exact test.file.noColon (same ▸ inStem)
  · obtain ⟨name, -, rfl⟩ := List.mem_map.mp isClass
    exact colon_not_mem name inside

theorem partition_node_cons (file : TestFile) (name : Identifier) (classes : List Identifier)
    (function : Identifier) (params : Option Text) :
    partition (⟨file, name :: classes, function, params⟩ : Test).node =
      (name.content, (⟨file, classes, function, params⟩ : Test).node) := by
  rw [node_cons, partition_append (colon_not_mem name)]

/-- A reported case has the name that is expected for a test only when the names can be the same; then it
is a case of the function, or the module is named as the class is. -/
theorem of_resultKey_eq {reported : Reported} {test : Test}
    (same : resultKey reported.case = test.id) : test.Named ∧
      (reported.test.IsCaseOf test ∨ test.classes.map Identifier.content = [test.file.module]) := by
  have without := params_of_resultKey same
  obtain ⟨file, classes, function, params⟩ := test
  obtain rfl : params = none := without
  rw [resultKey_case] at same
  split at same
  case isTrue tested =>
    -- the last dotted part is taken for a class
    obtain ⟨module, node⟩ := Prod.mk.inj same
    have parts := congrArg partition node
    rw [partition_append fun colon => colon_not_mem_dotted _ (mem_of_mem_afterLastDot colon)] at parts
    cases classes with
    | nil =>
      rw [node_nil, reportedName_none, partition_of_not_mem (colon_not_mem function)] at parts
      exact absurd (congrArg Prod.snd parts) reported.test.function.some
    | cons name classes =>
      rw [partition_node_cons] at parts
      obtain ⟨last, rest⟩ := Prod.mk.inj parts
      have single : classes = [] := by
        cases classes with
        | nil => rfl
        | cons second classes =>
          have twice := congrArg partition rest
          rw [partition_of_not_mem (colon_not_mem _), partition_node_cons] at twice
          exact absurd (congrArg Prod.snd twice).symm (node_ne_nil _)
      subst single
      rw [node_nil, reportedName_none] at rest
      refine ⟨⟨rfl, .inr ⟨name, rfl, last ▸ tested⟩⟩, ?_⟩
      by_cases dot : 0x2E ∈ reported.test.dotted
      · refine .inl ⟨?_, Identifier.ext rest⟩
        rw [dotted_singleton, eq_before_after dot, module, last]
      · rw [afterLastDot_of_not_mem dot] at last
        rw [beforeLastDot_of_not_mem dot] at module
        exact .inr (congrArg (fun content => [content]) (last.symm.trans module))
  case isFalse plain =>
    obtain ⟨module, node⟩ := Prod.mk.inj same
    cases classes with
    | nil =>
      rw [node_nil, reportedName_none] at node
      refine ⟨⟨rfl, .inl ⟨rfl, ?_⟩⟩, .inl ⟨?_, Identifier.ext node⟩⟩
      · exact module ▸ Bool.eq_false_of_not_eq_true plain
      · rw [dotted_nil, module]
    | cons name classes =>
      have parts := congrArg partition node
      rw [partition_of_not_mem (colon_not_mem _), partition_node_cons] at parts
      exact absurd (congrArg Prod.snd parts).symm (node_ne_nil _)

/-! ### What passes -/

/-- No result is bad when no case failed. -/
theorem all_junitResults_iff (cases : List Case) :
    (junitResults cases).all Prod.snd = true ↔ ∀ case ∈ cases, case.failed = false := by
  have folded : ∀ (cases : List Case) (ok : Bool), cases.foldl (fun ok case => ok && !case.failed) ok =
      (ok && cases.all fun case => !case.failed) := by
    intro cases
    induction cases with
    | nil => exact fun ok => (Bool.and_true ok).symm
    | cons case cases inductionHypothesis =>
      intro ok
      rw [List.foldl_cons, inductionHypothesis, List.all_cons, Bool.and_assoc]
  rw [junitResults, Dictionary.gather_eq, List.all_map, List.all_eq_true]
  simp only [Function.comp_apply, folded, Bool.true_and, List.all_eq_true, Bool.not_eq_true',
    Dictionary.own, List.mem_filter, decide_eq_true_eq]
  constructor
  · exact fun each case member =>
      each (resultKey case)
        ((Dictionary.mem_firsts resultKey).mpr (List.mem_map_of_mem member)) case ⟨member, rfl⟩
  · exact fun each _ _ case member => each case member.1

theorem isPassed_iff {cases : List Case} (good : ∀ case ∈ cases, case.failed = false)
    (key : Text × Text) :
    isPassed (junitResults cases) key = true ↔ ∃ case ∈ cases, resultKey case = key := by
  rw [← List.mem_map, ← Dictionary.mem_firsts resultKey]
  constructor
  · intro passed
    cases found : (junitResults cases).lookup key with
    | none =>
      rw [isPassed, found] at passed
      cases passed
    | some ok =>
      have member := Dictionary.mem_of_lookup found
      rw [junitResults, Dictionary.gather_eq] at member
      obtain ⟨other, isFirst, same⟩ := List.mem_map.mp member
      exact (Prod.mk.inj same).1 ▸ isFirst
  · intro isFirst
    obtain ⟨ok, looked⟩ : ∃ ok, (junitResults cases).lookup key = some ok := by
      rw [junitResults, Dictionary.gather_eq]
      exact ⟨_, Dictionary.lookup_map_pair _ _ _ isFirst⟩
    rw [isPassed, looked]
    have all := List.all_eq_true.mp ((all_junitResults_iff cases).mpr good)
    exact all (key, ok) (Dictionary.mem_of_lookup looked)

/-- A report passes when no case in it failed and every expected name is the name of a case. -/
theorem passes_iff {task : Task} {tree : Text → Option (List Item)} {named : List (List Test)}
    (names : List.Forall₂ (Names tree) (targets task) named) {run : Run} {report : List Reported}
    (reads : run.junit = some (report.map Reported.case)) :
    Passes task tree run ↔ run.timedOut = false ∧ run.rc = some 0 ∧ named.flatten ≠ [] ∧
      (∀ reported ∈ report, reported.failed = false) ∧
      ∀ test ∈ named.flatten, ∃ reported ∈ report, resultKey reported.case = test.id := by
  set expected := (named.flatten.map Test.id).dedup with ids
  have graded : grade task tree none run = some (gradeRun task expected run) := by
    rw [grade, expectedIds_of_names names, Option.map_some]
  have passes : Passes task tree run ↔ (gradeRun task expected run).pass = true :=
    ⟨fun ⟨result, same, pass⟩ => Option.some.inj (graded.symm.trans same) ▸ pass,
      fun pass => ⟨_, graded, pass⟩⟩
  have good : (∀ case ∈ report.map Reported.case, case.failed = false) ↔
      ∀ reported ∈ report, reported.failed = false := List.forall_mem_map
  have nonempty : expected ≠ [] ↔ named.flatten ≠ [] := by
    rw [ids, Ne, List.dedup_eq_nil, List.map_eq_nil_iff]
  have listed : (∀ key ∈ expected, ∃ case ∈ report.map Reported.case, resultKey case = key) ↔
      ∀ test ∈ named.flatten, ∃ reported ∈ report, resultKey reported.case = test.id := by
    simp only [ids, List.mem_dedup, List.mem_map, exists_exists_and_eq_and, forall_exists_index,
      and_imp, forall_apply_eq_imp_iff₂]
  rw [passes, gradeRun, reads, ← nonempty, ← good, ← listed]
  cases run.timedOut with
  | true => simp
  | false =>
    rw [if_neg Bool.false_ne_true]
    simp only [Option.map_some, Option.getD_some, Bool.and_eq_true, decide_eq_true_eq,
      List.countP_eq_length, all_junitResults_iff, true_and]
    constructor
    · exact fun ⟨⟨⟨rc, nonempty⟩, passed⟩, good⟩ =>
        ⟨rc, nonempty, good, fun key member => (isPassed_iff good key).mp (passed key member)⟩
    · exact fun ⟨rc, nonempty, good, listed⟩ =>
        ⟨⟨⟨rc, nonempty⟩, fun key member => (isPassed_iff good key).mpr (listed key member)⟩, good⟩

/-! ### The two names -/

/-- A test in a class with the name of its module, and a function of that module outside the class, have
one name in the report. -/
theorem resultKey_outside {test : Test} (named : test.Named)
    (same : test.classes.map Identifier.content = [test.file.module]) :
    resultKey (Reported.case ⟨{ test with classes := [] }, false⟩) = test.id ∧
      ¬ ({ test with classes := [] } : Test).IsCaseOf test := by
  obtain ⟨file, classes, function, params⟩ := test
  obtain ⟨rfl, ⟨rfl, -⟩ | ⟨name, rfl, tested⟩⟩ := named
  · cases same
  have module : name.content = file.module := List.singleton_inj.mp same
  constructor
  · rw [resultKey_case, dotted_nil, ← module, afterLastDot_of_not_mem (dot_not_mem name),
      beforeLastDot_of_not_mem (dot_not_mem name), if_pos tested, Test.id, node_method, module]
  · rintro ⟨dotted, -⟩
    rw [dotted_nil, dotted_singleton, List.append_assoc, List.self_eq_append_right] at dotted
    cases dotted

/-- The expected tests and the report name tests alike exactly when a test is expected where any is
collected, pytest collects every expected test function, and the two names for each are the same. -/
theorem alike_iff {task : Task} {tree : Text → Option (List Item)} {named : List (List Test)}
    (names : List.Forall₂ (Names tree) (targets task) named) (collected : List Test) :
    Alike task tree named.flatten collected ↔ (collected ≠ [] → named.flatten ≠ []) ∧
      ∀ test ∈ named.flatten,
        (∃ other ∈ collected, other.IsCaseOf test) ∧ test.Matched := by
  constructor
  · intro alike
    -- the report that has what is collected
    set whole := collected.map fun test => (⟨test, false⟩ : Reported) with reported
    have good : ∀ reported ∈ whole, reported.failed = false := by
      rintro _ member
      obtain ⟨test, -, rfl⟩ := List.mem_map.mp member
      rfl
    have passes := fun some => alike.passes some whole []
      (fun test member => List.mem_map_of_mem member) good
    have known := fun some => (passes_iff names rfl).mp (passes some)
    refine ⟨fun some => (known (.inr some)).2.2.1, fun test member => ?_⟩
    have nonempty := List.ne_nil_of_mem member
    obtain ⟨-, -, -, -, listed⟩ := known (.inl nonempty)
    have allNamed : ∀ test ∈ named.flatten, test.Named := fun test member =>
      have ⟨_, _, same⟩ := listed test member
      (of_resultKey_eq same).1
    refine ⟨?_, allNamed test member, fun same => ?_⟩
    · by_contra absent
      refine alike.fails _ whole rfl test member (.inl fun reported isListed isCase => absent ?_)
        (passes (.inl nonempty))
      obtain ⟨other, inCollected, rfl⟩ := List.mem_map.mp isListed
      exact ⟨other, inCollected, isCase⟩
    · -- the report that has the function outside the class in place of the test
      obtain ⟨outside, notCase⟩ := resultKey_outside (allNamed test member) same
      set others := named.flatten.filter fun other => ¬ other.IsCaseOf test
      set report := (others ++ [{ test with classes := [] }]).map
        fun test => (⟨test, false⟩ : Reported)
      have passed : Passes task tree ⟨some 0, [], false, some (report.map Reported.case)⟩ := by
        refine (passes_iff names rfl).mpr ⟨rfl, rfl, nonempty, ?_, fun other isExpected => ?_⟩
        · rintro _ isListed
          obtain ⟨_, -, rfl⟩ := List.mem_map.mp isListed
          rfl
        by_cases isCase : other.IsCaseOf test
        · refine ⟨_, List.mem_map_of_mem (List.mem_append_right _ List.mem_cons_self), ?_⟩
          have first : resultKey (Reported.case ⟨test, false⟩) = other.id :=
            resultKey_of_named (allNamed other isExpected) ⟨isCase.1.symm, isCase.2.symm⟩
          have second : resultKey (Reported.case ⟨test, false⟩) = test.id :=
            resultKey_of_named (allNamed test member) ⟨rfl, rfl⟩
          exact outside.trans (second.symm.trans first)
        · have kept : other ∈ others := List.mem_filter.mpr ⟨isExpected, decide_eq_true isCase⟩
          exact ⟨_, List.mem_map_of_mem (List.mem_append_left _ kept),
            resultKey_of_named (allNamed other isExpected) ⟨rfl, rfl⟩⟩
      refine alike.fails _ report rfl test member (.inl fun reported isListed => ?_) passed
      obtain ⟨other, isOther, rfl⟩ := List.mem_map.mp isListed
      obtain kept | isOutside := List.mem_append.mp isOther
      · exact of_decide_eq_true (List.mem_filter.mp kept).2
      · exact List.mem_singleton.mp isOutside ▸ notCase
  · rintro ⟨someOf, each⟩
    constructor
    · intro some report out listed good
      refine (passes_iff names rfl).mpr ⟨rfl, rfl, some.elim id someOf, good, fun test member => ?_⟩
      obtain ⟨⟨other, inCollected, isCase⟩, named, -⟩ := each test member
      exact ⟨⟨other, false⟩, listed other inCollected, resultKey_of_named named isCase⟩
    · intro run report reads test member bad passes
      obtain ⟨-, -, -, good, listed⟩ := (passes_iff names reads).mp passes
      obtain ⟨reported, isListed, same⟩ := listed test member
      obtain none | ⟨reported, isListed, -, failed⟩ := bad
      · obtain isCase | same := (of_resultKey_eq same).2
        · exact none reported isListed isCase
        · exact (each test member).2.2 same
      · rw [good reported isListed] at failed
        cases failed

def calcFile : TestFile := ⟨text "tests/test_calc", by decide⟩

def testAdd : Identifier := .ofPlain (text "test_add") (by decide) (by decide)

def testCalc : Identifier := .ofPlain (text "TestCalc") (by decide) (by decide)

/-- A function and a method of a class that are tests. -/
def calcBody : List Item := [.functionDef testAdd, .other, .classDef testCalc [.functionDef testAdd]]

def calcTree (path : Text) : Option (List Item) :=
  if path = calcFile.path then some calcBody else none

def calcTask (pytestArgs : List Text) : Task :=
  ⟨[text "calc.py"], [calcFile.path], [], 60, pytestArgs⟩

theorem calc_alike : Alike (calcTask []) calcTree
    [calcBody.flatMap (definedBy calcFile)].flatten (calcBody.flatMap (definedBy calcFile)) := by
  refine (alike_iff (.cons (.file calcFile calcBody (if_pos rfl)) .nil) _).mpr ⟨id, fun test member => ?_⟩
  refine ⟨⟨test, member, rfl, rfl⟩, ?_⟩
  obtain rfl | rfl : test = ⟨calcFile, [], testAdd, none⟩ ∨
      test = ⟨calcFile, [testCalc], testAdd, none⟩ := by
    revert test
    decide
  · exact ⟨⟨rfl, .inl ⟨rfl, by decide⟩⟩, by decide⟩
  · exact ⟨⟨rfl, .inr ⟨testCalc, rfl, by decide⟩⟩, by decide⟩

/-- A patch fails a node id with parameters although its case is listed as passed. -/
theorem parametrized_fails :
    let node : Test := ⟨calcFile, [], testAdd, some (text "1-2")⟩
    let task := calcTask [calcFile.path ++ text "::" ++ node.node]
    accepts task = true ∧ List.Forall₂ (Names calcTree) (targets task) [[node]] ∧
      ¬ Alike task calcTree [node] [node] := by
  refine ⟨by decide, 
    .cons (.node ⟨calcFile, [], testAdd, some (text "1-2")⟩) .nil, fun alike => ?_⟩
  obtain ⟨result, graded, passed⟩ := alike.passes (.inl (List.cons_ne_nil _ _))
    [⟨⟨calcFile, [], testAdd, some (text "1-2")⟩, false⟩] []
    (by simp) (by simp)
  have failed : (grade (calcTask [calcFile.path ++ text "::" ++
      Test.node ⟨calcFile, [], testAdd, some (text "1-2")⟩]) calcTree none
      ⟨some 0, [], false, some [Reported.case
        ⟨⟨calcFile, [], testAdd, some (text "1-2")⟩, false⟩]⟩).map GradeResult.pass = some false := by
    decide
  have same := (congrArg (Option.map GradeResult.pass) graded).symm.trans failed
  rw [Option.map_some, passed] at same
  cases same

end Grade

end LocalGpuCluster
