/-
This file holds what the development knows about programs that act on the world by calls. The state of
such a program is the list of what happened so far, and what it may do next is judged by that list. One
rule for each way to build a program carries the judgement to whole runs.
-/

import Mathlib.Data.List.Forall2
import LocalGpuCluster.Interaction

namespace LocalGpuCluster

namespace Interaction

variable {Failure Event Item Result Next : Type}

/-! ### Lists of events -/

/-- Each event that is added to the log is fine after what happened before it. -/
def EachFine (fine : List Event → Event → Prop) (log added : List Event) : Prop :=
  ∀ before event after, added = before ++ event :: after → fine (log ++ before) event

section EachFine

variable {fine other : List Event → Event → Prop} {log added later : List Event}

theorem eachFine_nil : EachFine fine log [] := fun before _ _ same =>
  absurd same.symm (List.append_ne_nil_of_right_ne_nil before (List.cons_ne_nil _ _))

theorem eachFine_singleton {event : Event} (isFine : fine log event) : EachFine fine log [event] := by
  intro before next after same
  cases before with
  | nil =>
    rw [List.nil_append, List.cons.injEq] at same
    rw [← same.1, List.append_nil]
    exact isFine
  | cons first rest =>
    rw [List.cons_append, List.cons.injEq] at same
    exact absurd same.2.symm (List.append_ne_nil_of_right_ne_nil rest (List.cons_ne_nil _ _))

theorem eachFine_append (first : EachFine fine log added) (second : EachFine fine (log ++ added) later) :
    EachFine fine log (added ++ later) := by
  intro before event after same
  rcases List.append_eq_append_iff.mp same with ⟨middle, isBefore, isLater⟩ | ⟨middle, isAdded, isRest⟩
  · have isFine := second middle event after isLater
    rwa [List.append_assoc, ← isBefore] at isFine
  · cases middle with
    | nil =>
      have isFine := second [] event after isRest.symm
      rwa [List.append_nil, isAdded, List.append_nil] at isFine
    | cons next rest =>
      rw [List.cons_append, List.cons.injEq] at isRest
      rw [← isRest.1] at isAdded
      exact first before event rest isAdded

/-- A fact that each fine event leaves true is true after all of them. -/
theorem EachFine.keep {fact : List Event → Prop} (all : EachFine fine log added)
    (kept : ∀ log event, fact log → fine log event → fact (log ++ [event])) (holds : fact log) :
    fact (log ++ added) := by
  induction added generalizing log with
  | nil => rwa [List.append_nil]
  | cons event rest inductionHypothesis =>
    have isFine := all [] event rest rfl
    rw [List.append_nil] at isFine
    rw [← List.singleton_append, ← List.append_assoc]
    refine inductionHypothesis (fun before next after same => ?_) (kept log event holds isFine)
    rw [List.append_assoc]
    exact all ([event] ++ before) next after (by rw [same]; rfl)

theorem EachFine.left {first : List Event} (all : EachFine fine log (first ++ added)) :
    EachFine fine log first := fun before event after same =>
  all before event (after ++ added) (by rw [same, List.append_assoc, List.cons_append])

/-- While such a fact is true, what is fine may be judged with it. -/
theorem EachFine.mono {fact : List Event → Prop} (all : EachFine fine log added)
    (kept : ∀ log event, fact log → fine log event → fact (log ++ [event])) (holds : fact log)
    (weaker : ∀ log event, fact log → fine log event → other log event) :
    EachFine other log added := by
  rintro before event after rfl
  exact weaker _ _ (all.left.keep kept holds) (all before event after rfl)

/-- What happened before an event is fine if all that happened is. -/
theorem EachFine.before {before after : List Event} {event : Event} (all : EachFine fine [] log)
    (same : log = before ++ event :: after) : EachFine fine [] before := fun first next rest split =>
  all first next (rest ++ event :: after) (by rw [same, split, List.append_assoc, List.cons_append])

theorem EachFine.of_mem {event : Event} (all : EachFine fine [] log) (member : event ∈ log) :
    ∃ before, fine before event := by
  obtain ⟨before, after, same⟩ := List.append_of_mem member
  exact ⟨before, all before event after same⟩

end EachFine

/-! ### Programs -/

/-- To do something. -/
def issue (event : Event) : Interaction Failure (List Event) Unit := modify (· ++ [event])

/-- To look at what follows from what happened so far. -/
def observe (reading : List Event → Result) : Interaction Failure (List Event) Result :=
  reading <$> get

theorem run_tryCatch_ok {program : Interaction Failure (List Event) Result}
    {handler : Failure → Interaction Failure (List Event) Result} {result : Result}
    {log after : List Event} (runs : program log = (.ok result, after)) :
    (tryCatch program handler : Interaction Failure (List Event) Result) log =
      (.ok result, after) := by
  show ExceptT.tryCatch program handler log = _
  unfold ExceptT.tryCatch ExceptT.mk
  show (fun ended : Except Failure Result × List Event =>
    (match ended.1 with
      | .ok result => pure (.ok result)
      | .error failure => handler failure : StateM (List Event) _) ended.2) (program log) = _
  rw [runs]
  rfl

theorem run_tryCatch_error {program : Interaction Failure (List Event) Result}
    {handler : Failure → Interaction Failure (List Event) Result} {failure : Failure}
    {log after : List Event} (fails : program log = (.error failure, after)) :
    (tryCatch program handler : Interaction Failure (List Event) Result) log =
      handler failure after := by
  show ExceptT.tryCatch program handler log = _
  unfold ExceptT.tryCatch ExceptT.mk
  show (fun ended : Except Failure Result × List Event =>
    (match ended.1 with
      | .ok result => pure (.ok result)
      | .error failure => handler failure : StateM (List Event) _) ended.2) (program log) = _
  rw [fails]

/-- From a log that meets the precondition, a program adds only events that are fine, and where it
returns the postcondition holds. -/
def Traced (fine : List Event → Event → Prop) (pre : List Event → Prop)
    (program : Interaction Failure (List Event) Result) (post : Result → List Event → Prop) : Prop :=
  ∀ log, pre log → ∃ added, (program log).2 = log ++ added ∧ EachFine fine log added ∧
    ∀ result, (program log).1 = .ok result → post result (log ++ added)

/-- A fact about the past stays true. -/
def Stable (fact : List Event → Prop) : Prop :=
  ∀ log added, fact log → fact (log ++ added)

theorem stable_true : Stable fun _ : List Event => True := fun _ _ _ => trivial

theorem stable_mem (event : Event) : Stable (event ∈ ·) := fun _ _ member =>
  List.mem_append_left _ member

theorem Stable.and {fact other : List Event → Prop} (first : Stable fact) (second : Stable other) :
    Stable fun log => fact log ∧ other log := fun log added both =>
  ⟨first log added both.1, second log added both.2⟩

theorem Stable.or {fact other : List Event → Prop} (first : Stable fact) (second : Stable other) :
    Stable fun log => fact log ∨ other log := fun log added either =>
  either.imp (first log added) (second log added)

theorem stable_exists {Choice : Type} {fact : Choice → List Event → Prop}
    (each : ∀ choice, Stable (fact choice)) : Stable fun log => ∃ choice, fact choice log :=
  fun log added ⟨choice, holds⟩ => ⟨choice, each choice log added holds⟩

theorem stable_forall {Choice : Type} {fact : Choice → List Event → Prop}
    (each : ∀ choice, Stable (fact choice)) : Stable fun log => ∀ choice, fact choice log :=
  fun log added all choice => each choice log added (all choice)

theorem stable_imp {condition : Prop} {fact : List Event → Prop} (each : condition → Stable fact) :
    Stable fun log => condition → fact log :=
  fun log added holds condition => each condition log added (holds condition)

theorem stable_const (condition : Prop) : Stable fun _ : List Event => condition :=
  fun _ _ holds => holds

section Traced

variable {fine other : List Event → Event → Prop} {pre fact : List Event → Prop}
  {post : Result → List Event → Prop} {final : Next → List Event → Prop}

theorem traced_pure {result : Result} (holds : ∀ log, pre log → post result log) :
    Traced fine pre (pure result : Interaction Failure (List Event) Result) post := fun log isPre => by
  refine ⟨[], (List.append_nil _).symm, eachFine_nil, fun returned same => ?_⟩
  injection same with same
  rw [← same, List.append_nil]
  exact holds log isPre

theorem traced_throw {failure : Failure} :
    Traced fine pre (throw failure : Interaction Failure (List Event) Result) post := fun _ _ =>
  ⟨[], (List.append_nil _).symm, eachFine_nil, fun _ same => by cases same⟩

theorem traced_bind {program : Interaction Failure (List Event) Result}
    {next : Result → Interaction Failure (List Event) Next} (first : Traced fine pre program post)
    (rest : ∀ result, Traced fine (post result) (next result) final) :
    Traced fine pre (program >>= next) final := fun log isPre => by
  obtain ⟨added, isAdded, addedFine, isPost⟩ := first log isPre
  rw [run_bind]
  match isRun : program log with
  | (.error failure, after) =>
    rw [isRun] at isAdded
    exact ⟨added, isAdded, addedFine, fun _ same => by cases same⟩
  | (.ok result, after) =>
    rw [isRun] at isAdded isPost
    obtain ⟨later, isLater, laterFine, isFinal⟩ := rest result _ (isPost result rfl)
    rw [← isAdded] at isLater isFinal laterFine
    refine ⟨added ++ later, ?_, eachFine_append addedFine (isAdded ▸ laterFine), ?_⟩
    · rw [← List.append_assoc, ← isAdded]
      exact isLater
    · rw [← List.append_assoc, ← isAdded]
      exact isFinal

/-- What a program's own events leave true can be used for what it does, and holds after it. -/
theorem Traced.frame {program : Interaction Failure (List Event) Result}
    {before : List Event → Prop} {after : Result → List Event → Prop}
    (traced : Traced fine pre program post)
    (kept : ∀ log event, fact log → fine log event → fact (log ++ [event]))
    (isPre : ∀ log, before log → pre log ∧ fact log)
    (weaker : ∀ log event, fact log → fine log event → other log event)
    (isPost : ∀ result log, fact log → post result log → after result log) :
    Traced other before program after := fun log holds => by
  obtain ⟨added, isAdded, addedFine, returns⟩ := traced log (isPre log holds).1
  exact ⟨added, isAdded, addedFine.mono kept (isPre log holds).2 weaker, fun result same =>
    isPost result _ (addedFine.keep kept (isPre log holds).2) (returns result same)⟩

/-- The same for what stays true whatever happens. -/
theorem Traced.weaken {program : Interaction Failure (List Event) Result}
    {before : List Event → Prop} {after : Result → List Event → Prop}
    (traced : Traced fine pre program post) (stable : Stable fact)
    (isPre : ∀ log, before log → pre log ∧ fact log)
    (weaker : ∀ log event, fact log → fine log event → other log event)
    (isPost : ∀ result log, fact log → post result log → after result log) :
    Traced other before program after :=
  traced.frame (fun log event holds _ => stable log [event] holds) isPre weaker isPost

/-- A program ends in all that is known of its end. -/
theorem Traced.and {program : Interaction Failure (List Event) Result}
    {further : Result → List Event → Prop} (first : Traced fine pre program post)
    (second : Traced other pre program further) :
    Traced fine pre program fun result log => post result log ∧ further result log :=
  fun log isPre => by
  obtain ⟨added, isAdded, addedFine, returns⟩ := first log isPre
  obtain ⟨again, isAgain, _, returnsToo⟩ := second log isPre
  obtain rfl : added = again := List.append_cancel_left (isAdded.symm.trans isAgain)
  exact ⟨added, isAdded, addedFine, fun result same => ⟨returns result same, returnsToo result same⟩⟩

/-- The same with no fact from before. -/
theorem Traced.imp {program : Interaction Failure (List Event) Result}
    {before : List Event → Prop} {after : Result → List Event → Prop}
    (traced : Traced fine pre program post) (isPre : ∀ log, before log → pre log)
    (isPost : ∀ result log, post result log → after result log) :
    Traced fine before program after :=
  traced.weaken stable_true (fun log holds => ⟨isPre log holds, trivial⟩) (fun _ _ _ => id)
    fun result log _ => isPost result log

/-- A program that needs nothing keeps what stays true. -/
theorem Traced.keep {program : Interaction Failure (List Event) Result}
    (traced : Traced fine (fun _ => True) program fun _ _ => True) (stable : Stable fact) :
    Traced fine fact program fun _ => fact :=
  traced.weaken stable (fun _ holds => ⟨trivial, holds⟩) (fun _ _ _ => id) fun _ _ holds _ => holds

/-- What the precondition says of no log can be taken out of it. -/
theorem traced_assume {program : Interaction Failure (List Event) Result} {condition : Prop}
    (holds : ∀ log, pre log → condition) (rest : condition → Traced fine pre program post) :
    Traced fine pre program post := fun log isPre => rest (holds log isPre) log isPre

theorem traced_issue {event : Event} (isFine : ∀ log, pre log → fine log event) :
    Traced fine pre (issue event : Interaction Failure (List Event) Unit)
      fun _ log => ∃ before, pre before ∧ log = before ++ [event] := fun log isPre =>
  ⟨[event], rfl, eachFine_singleton (isFine log isPre), fun _ _ => ⟨log, isPre, rfl⟩⟩

theorem traced_observe {reading : List Event → Result} :
    Traced fine pre (observe reading : Interaction Failure (List Event) Result)
      fun result log => pre log ∧ result = reading log := fun log isPre => by
  refine ⟨[], (List.append_nil _).symm, eachFine_nil, fun returned same => ?_⟩
  injection same with same
  rw [← same, List.append_nil]
  exact ⟨isPre, rfl⟩

/-- What is done about a failure can use what was true before and stays true. -/
theorem traced_recover {program : Interaction Failure (List Event) Result}
    {handler : Failure → Interaction Failure (List Event) Result} (stable : Stable fact)
    (isFact : ∀ log, pre log → fact log) (first : Traced fine pre program post)
    (second : ∀ failure, Traced fine fact (handler failure) post) :
    Traced fine pre (tryCatch program handler) post := fun log isPre => by
  obtain ⟨added, isAdded, addedFine, returns⟩ := first log isPre
  match isRun : program log with
  | (.ok result, after) =>
    rw [isRun] at isAdded returns
    rw [run_tryCatch_ok isRun]
    exact ⟨added, isAdded, addedFine, returns⟩
  | (.error failure, after) =>
    rw [isRun] at isAdded
    rw [run_tryCatch_error isRun]
    obtain ⟨later, isLater, laterFine, isPost⟩ :=
      second failure _ (stable log added (isFact log isPre))
    rw [← isAdded] at isLater laterFine isPost
    refine ⟨added ++ later, ?_, eachFine_append addedFine (isAdded ▸ laterFine), ?_⟩
    · rw [← List.append_assoc, ← isAdded]
      exact isLater
    · rw [← List.append_assoc, ← isAdded]
      exact isPost

theorem traced_forM {items : List Item} {body : Item → Interaction Failure (List Event) PUnit}
    (each : ∀ item ∈ items, Traced fine pre (body item) fun _ => pre) :
    Traced fine pre (items.forM body) fun _ => pre := by
  induction items with
  | nil => exact traced_pure fun _ => id
  | cons item rest inductionHypothesis =>
    rw [List.forall_mem_cons] at each
    exact traced_bind each.1 fun _ => inductionHypothesis each.2

theorem traced_mapM_keep {items : List Item} {body : Item → Interaction Failure (List Event) Result}
    (each : ∀ item ∈ items, Traced fine pre (body item) fun _ => pre) :
    Traced fine pre (items.mapM body) fun _ => pre := by
  induction items with
  | nil => exact traced_pure fun _ => id
  | cons item rest inductionHypothesis =>
    rw [List.mapM_cons]
    rw [List.forall_mem_cons] at each
    exact traced_bind each.1 fun _ => traced_bind (inductionHypothesis each.2) fun _ =>
      traced_pure fun _ => id

/-- A loop that says something of each item that stays true says it of all of them. -/
theorem traced_mapM {items : List Item} {body : Item → Interaction Failure (List Event) Result}
    {good : Item → Result → List Event → Prop} (stable : ∀ item result, Stable (good item result))
    (each : ∀ item ∈ items, Traced fine pre (body item) fun result log =>
      pre log ∧ good item result log) :
    Traced fine pre (items.mapM body) fun results log =>
      pre log ∧ List.Forall₂ (fun item result => good item result log) items results := by
  induction items with
  | nil => exact traced_pure fun _ isPre => ⟨isPre, .nil⟩
  | cons item rest inductionHypothesis =>
    rw [List.mapM_cons]
    rw [List.forall_mem_cons] at each
    refine traced_bind each.1 fun result => ?_
    refine traced_bind ((inductionHypothesis each.2).weaken (stable item result) (fun _ => id)
      (fun _ _ _ => id) fun results log isGood both => And.intro both.1 (.cons isGood both.2))
      fun results => traced_pure fun _ => id

/-- A loop keeps what each item keeps unless its result is bad, if no result is bad. -/
theorem traced_mapM_unless {items : List Item} {body : Item → Interaction Failure (List Event) Result}
    {bad : Result → Prop} (each : ∀ item ∈ items, Traced fine pre (body item) fun result log =>
      bad result ∨ pre log)
    (anyway : ∀ item ∈ items, Traced fine (fun _ => True) (body item) fun _ _ => True) :
    Traced fine pre (items.mapM body) fun results log => (∃ result ∈ results, bad result) ∨ pre log := by
  induction items with
  | nil => exact traced_pure fun _ isPre => .inr isPre
  | cons item rest inductionHypothesis =>
    rw [List.mapM_cons]
    rw [List.forall_mem_cons] at each anyway
    refine traced_bind each.1 fun result => ?_
    by_cases isBad : bad result
    · refine traced_bind (?_ : Traced fine _ _ fun _ _ => True) fun results =>
        traced_pure fun _ _ => .inl ⟨result, List.mem_cons_self, isBad⟩
      exact (traced_mapM_keep anyway.2).imp (fun _ _ => trivial) fun _ _ => id
    · refine traced_bind ((inductionHypothesis each.2 anyway.2).imp
        (fun _ holds => holds.resolve_left isBad) fun _ _ => id) fun results => traced_pure ?_
      rintro log (⟨other, member, isBadToo⟩ | isPre)
      · exact .inl ⟨other, List.mem_cons_of_mem _ member, isBadToo⟩
      · exact .inr isPre

end Traced

end Interaction

end LocalGpuCluster
