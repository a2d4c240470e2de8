/-
This file holds what the development knows about programs that may fail and that keep what they did
before. Such a program records events of one kind if each of its steps does, whatever the answers are.
And where a program ends, and whether it fails, follows step by step from the states between.
-/

import Mathlib.Init

namespace LocalGpuCluster

/-- A program that works on a state and that may fail. -/
abbrev Interaction (Failure State : Type) := ExceptT Failure (StateM State)

namespace Interaction

variable {Failure State Event Item Result Next : Type}

theorem run_bind (program : Interaction Failure State Result)
    (next : Result → Interaction Failure State Next) (state : State) : (program >>= next) state =
      match program state with
      | (.ok result, after) => next result after
      | (.error failure, after) => (.error failure, after) := by
  show ExceptT.bind program next state = _
  unfold ExceptT.bind ExceptT.mk
  show (match program state with | (result, after) => ExceptT.bindCont next result after) = _
  obtain ⟨_ | _, _⟩ := program state <;> rfl

theorem run_bind_ok {program : Interaction Failure State Result}
    {next : Result → Interaction Failure State Next} {result : Result} {state after : State}
    (runs : program state = (.ok result, after)) : (program >>= next) state = next result after := by
  rw [run_bind, runs]

theorem run_bind_error {program : Interaction Failure State Result}
    {next : Result → Interaction Failure State Next} {failure : Failure} {state after : State}
    (fails : program state = (.error failure, after)) :
    (program >>= next) state = (.error failure, after) := by
  rw [run_bind, fails]

/-! ### What is recorded -/

section Records

variable {record : State → List Event} {allowed : Event → Prop}

/-- A program adds only allowed events to the record. -/
def Records (record : State → List Event) (allowed : Event → Prop)
    (program : Interaction Failure State Result) : Prop :=
  ∀ state, ∃ added, record (program state).2 = record state ++ added ∧ ∀ event ∈ added, allowed event

theorem records_pure (result : Result) :
    Records record allowed (pure result : Interaction Failure State Result) := fun _ =>
  ⟨[], (List.append_nil _).symm, fun _ member => absurd member List.not_mem_nil⟩

theorem records_throw (failure : Failure) :
    Records record allowed (throw failure : Interaction Failure State Result) := fun _ =>
  ⟨[], (List.append_nil _).symm, fun _ member => absurd member List.not_mem_nil⟩

theorem records_bind {program : Interaction Failure State Result}
    {next : Result → Interaction Failure State Next} (first : Records record allowed program)
    (rest : ∀ result, Records record allowed (next result)) :
    Records record allowed (program >>= next) := fun state => by
  obtain ⟨before, isBefore, allowedBefore⟩ := first state
  rw [run_bind]
  match isRun : program state with
  | (.error failure, after) =>
    rw [isRun] at isBefore
    exact ⟨before, isBefore, allowedBefore⟩
  | (.ok result, after) =>
    rw [isRun] at isBefore
    obtain ⟨later, isLater, allowedLater⟩ := rest result after
    refine ⟨before ++ later, ?_, fun event member => ?_⟩
    · rw [← List.append_assoc, ← isBefore]
      exact isLater
    · exact (List.mem_append.mp member).elim (allowedBefore event) (allowedLater event)

theorem records_mapM {items : List Item} {body : Item → Interaction Failure State Result}
    (each : ∀ item ∈ items, Records record allowed (body item)) :
    Records record allowed (items.mapM body) := by
  induction items with
  | nil => exact records_pure []
  | cons item rest inductionHypothesis =>
    rw [List.mapM_cons]
    rw [List.forall_mem_cons] at each
    exact records_bind each.1 fun _ => records_bind (inductionHypothesis each.2) fun _ =>
      records_pure _

/-- What a program records is allowed, if nothing was recorded before. -/
theorem Records.all {program : Interaction Failure State Result} {state : State}
    (records : Records record allowed program) (empty : record state = []) :
    ∀ event ∈ record (program state).2, allowed event := by
  obtain ⟨added, isAdded, all⟩ := records state
  rw [isAdded, empty, List.nil_append]
  exact all

end Records

/-! ### Where a program ends -/

/-- From a state, a program returns in the next one if the condition holds, and fails if it does not. -/
def Ends (program : Interaction Failure State Result) (state : State) (fine : Prop) (next : State) :
    Prop :=
  match program state with
  | (.ok _, after) => fine ∧ after = next
  | (.error _, _) => ¬fine

section Ends

variable {state middle final : State} {fine further : Prop}

theorem ends_pure (result : Result) :
    Ends (pure result : Interaction Failure State Result) state True state :=
  ⟨trivial, rfl⟩

theorem ends_throw (failure : Failure) :
    Ends (throw failure : Interaction Failure State Result) state False final :=
  not_false

theorem ends_bind {program : Interaction Failure State Result}
    {next : Result → Interaction Failure State Next} (first : Ends program state fine middle)
    (rest : ∀ result, program state = (.ok result, middle) → Ends (next result) middle further final) :
    Ends (program >>= next) state (fine ∧ further) final := by
  unfold Ends at first ⊢
  rw [run_bind]
  match isRun : program state with
  | (.error failure, after) =>
    rw [isRun] at first
    exact fun both => first both.1
  | (.ok result, after) =>
    rw [isRun] at first
    obtain ⟨isFine, rfl⟩ := first
    have ended := rest result isRun
    unfold Ends at ended
    dsimp only
    match isNext : next result after with
    | (.ok _, _) =>
      rw [isNext] at ended
      exact ⟨⟨isFine, ended.1⟩, ended.2⟩
    | (.error _, _) =>
      rw [isNext] at ended
      exact fun both => ended both.2

/-- A step that does not fail comes first. -/
theorem ends_bind_ok {program : Interaction Failure State Result}
    {next : Result → Interaction Failure State Next} {result : Result}
    (runs : program state = (.ok result, middle)) (rest : Ends (next result) middle fine final) :
    Ends (program >>= next) state fine final := by
  unfold Ends
  rw [run_bind, runs]
  exact rest

theorem Ends.congr {program : Interaction Failure State Result}
    (ends : Ends program state fine final) (same : fine ↔ further) :
    Ends program state further final := by
  rwa [propext same] at ends

/-- A program returns if and only if its condition holds. -/
theorem Ends.returns_iff {program : Interaction Failure State Result}
    (ends : Ends program state fine final) :
    (∃ result after, program state = (.ok result, after)) ↔ fine := by
  unfold Ends at ends
  match isRun : program state with
  | (.error failure, after) =>
    rw [isRun] at ends
    exact iff_of_false (fun ⟨_, _, same⟩ => by cases same) ends
  | (.ok result, after) =>
    rw [isRun] at ends
    exact iff_of_true ⟨result, after, rfl⟩ ends.1

/-- The notes of one visit after the other, and the state after them. -/
def visits {Note : Type} (visit : Item → State → List Note × State) :
    List Item → State → List Note × State
  | [], state => ([], state)
  | item :: rest, state =>
      ((visit item state).1 ++ (visits visit rest (visit item state).2).1,
        (visits visit rest (visit item state).2).2)

/-- A loop returns if and only if all that is noted on the way is good. -/
theorem ends_mapM {Note : Type} {visit : Item → State → List Note × State} {good : Note → Prop}
    {body : Item → Interaction Failure State Result} (items : List Item) (state : State)
    (each : ∀ item state, Ends (body item) state (∀ note ∈ (visit item state).1, good note)
      (visit item state).2) :
    Ends (items.mapM body) state (∀ note ∈ (visits visit items state).1, good note)
      (visits visit items state).2 := by
  induction items generalizing state with
  | nil => exact (ends_pure []).congr (iff_of_true trivial fun _ member => by cases member)
  | cons item rest inductionHypothesis =>
    rw [List.mapM_cons]
    refine (ends_bind (each item state) fun result _ =>
      ends_bind (inductionHypothesis (visit item state).2) fun results _ => ends_pure _).congr ?_
    show _ ↔ ∀ note ∈ (visit item state).1 ++ (visits visit rest (visit item state).2).1, good note
    rw [List.forall_mem_append, and_true]

/-- A flag that is set by the visits to some items is set after them if one of them was there. -/
theorem visits_any {Note : Type} {visit : Item → State → List Note × State} (flag : State → Bool)
    {sets : Item → Bool} (items : List Item) (state : State)
    (each : ∀ item state, flag (visit item state).2 = (flag state || sets item)) :
    flag (visits visit items state).2 = (flag state || items.any sets) := by
  induction items generalizing state with
  | nil => exact (Bool.or_false _).symm
  | cons item rest inductionHypothesis =>
    show flag (visits visit rest (visit item state).2).2 = _
    rw [inductionHypothesis, each, List.any_cons, Bool.or_assoc]

end Ends

/-! ### Contracts -/

/-- From a state of the precondition, a program returns as the postcondition says, or fails in a
state of the exit condition. -/
def Contract (pre : State → Prop) (program : Interaction Failure State Result)
    (post : Result → State → Prop) (exit : State → Prop) : Prop :=
  ∀ state, pre state →
    match program state with
    | (.ok result, after) => post result after
    | (.error _, after) => exit after

section Contracts

variable {pre other exit : State → Prop} {post : Result → State → Prop}
  {program : Interaction Failure State Result}

theorem Contract.returns (contract : Contract pre program post exit) {state after : State}
    (isPre : pre state) {result : Result} (runs : program state = (.ok result, after)) :
    post result after := by
  have held := contract state isPre
  rwa [runs] at held

theorem Contract.fails (contract : Contract pre program post exit) {state after : State}
    (isPre : pre state) {failure : Failure} (runs : program state = (.error failure, after)) :
    exit after := by
  have held := contract state isPre
  rwa [runs] at held

theorem contract_pure {result : Result} (holds : ∀ state, pre state → post result state) :
    Contract pre (pure result : Interaction Failure State Result) post exit := holds

theorem contract_throw {failure : Failure} (holds : ∀ state, pre state → exit state) :
    Contract pre (throw failure : Interaction Failure State Result) post exit := holds

theorem contract_modify {change : State → State} {post : PUnit → State → Prop}
    (holds : ∀ state, pre state → post ⟨⟩ (change state)) :
    Contract pre (modify change : Interaction Failure State PUnit) post exit := holds

theorem contract_bind {next : Result → Interaction Failure State Next}
    {final : Next → State → Prop} (first : Contract pre program post exit)
    (rest : ∀ result, Contract (post result) (next result) final exit) :
    Contract pre (program >>= next) final exit := by
  intro state isPre
  rw [run_bind]
  match isRun : program state with
  | (.error failure, after) => exact first.fails isPre isRun
  | (.ok result, after) => exact rest result after (first.returns isPre isRun)

/-- A program that reads the state first. -/
theorem contract_get {next : State → Interaction Failure State Next}
    {final : Next → State → Prop}
    (each : ∀ state, pre state → Contract (· = state) (next state) final exit) :
    Contract pre (get >>= next) final exit := by
  intro state isPre
  rw [run_bind]
  exact each state isPre state rfl

/-- A program that changes a known state first. -/
theorem contract_change {change : State → State} {state : State}
    {next : PUnit → Interaction Failure State Next} {final : Next → State → Prop}
    (rest : Contract (· = change state) (next ⟨⟩) final exit) :
    Contract (· = state) (modify change >>= next) final exit := by
  rintro _ rfl
  rw [run_bind]
  exact rest _ rfl

theorem Contract.weaken (contract : Contract other program post exit)
    (sub : ∀ state, pre state → other state) : Contract pre program post exit :=
  fun state isPre => contract state (sub state isPre)

theorem Contract.imp {further : Result → State → Prop} (contract : Contract pre program post exit)
    (sub : ∀ result state, post result state → further result state) :
    Contract pre program further exit := by
  intro state isPre
  match isRun : program state with
  | (.error failure, after) => exact contract.fails isPre isRun
  | (.ok result, after) => exact sub result after (contract.returns isPre isRun)

theorem contract_forM {items : List Item} {body : Item → Interaction Failure State PUnit}
    (each : ∀ item ∈ items, Contract pre (body item) (fun _ => pre) exit) :
    Contract pre (items.forM body) (fun _ => pre) exit := by
  induction items with
  | nil => exact contract_pure fun _ => id
  | cons item rest inductionHypothesis =>
    rw [List.forall_mem_cons] at each
    exact contract_bind each.1 fun _ => inductionHypothesis each.2

end Contracts

end Interaction

end LocalGpuCluster
