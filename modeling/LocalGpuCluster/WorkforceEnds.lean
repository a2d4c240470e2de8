/-
This file proves the conservation of the pipeline: in each state that it can get into, a task that is
not recorded is at one place, and a recorded one at none. No thread ends before all tasks are recorded,
until then some thread can go on, and after it each thread that looks for a task ends.
-/

import LocalGpuCluster.WorkforceConserved

namespace LocalGpuCluster

namespace Workforce

variable {config : Config} {state next : State} {id other : Text} {thread : Thread} {stage : Stage}
  {agent : Text} {task : Task}

/-! ### Threads that can go on -/

/-- The thread has an event that can happen. -/
def State.goesOn (config : Config) (state : State) (thread : Thread) : Prop :=
  (∃ deed, ((pipeline config).step state (.act thread deed)).isSome = true) ∨
    ((pipeline config).step state (.look thread)).isSome = true

/-- Any step of a task may raise. -/
theorem goesOn_of_held (held : state.hands thread = some (id, stage)) :
    state.goesOn config thread := by
  refine .inl ⟨.raised, ?_⟩
  show ((state.hands thread).bind fun held => perform config state thread held.1 .raised
    held.2).isSome = true
  rw [held]
  rfl

theorem look_eq (starts : config.starts thread = true) (idle : state.hands thread = none)
    (running : state.exited thread = false) :
    look config state thread = match thread with
      | .implementer index => (config.implementers[index]?).bind fun agent =>
          lookForWork config state thread agent
      | .lane index => (config.lane index).bind fun lane =>
          lookForReview config state thread lane := by
  have waits : state.idle thread = true := by
    unfold State.idle
    rw [idle, running]
    rfl
  unfold look
  rw [starts, waits]
  rw [if_neg (by simp)]
  cases thread with
  | implementer index => rfl
  | lane index => rfl

/-- An implementer that waits has no work left. -/
theorem look_implementer {index : ℕ} (isAgent : config.implementers[index]? = some agent)
    (idle : state.hands (.implementer index) = none)
    (running : state.exited (.implementer index) = false)
    (work : state.rework agent ≠ [] ∨ state.pending ≠ []) :
    (look config state (.implementer index)).isSome = true := by
  obtain ⟨inRange, _⟩ := List.getElem?_eq_some_iff.mp isAgent
  have starts : config.starts (.implementer index) = true := decide_eq_true inRange
  rw [look_eq starts idle running]
  dsimp only
  rw [isAgent, Option.bind_some]
  unfold lookForWork
  split
  · rfl
  · rename_i noRework
    split
    · rfl
    · rename_i noPending
      exact absurd work (not_or.mpr ⟨not_not.mpr noRework, not_not.mpr noPending⟩)

theorem look_lane {index : ℕ} {lane : Lane} (reviews : config.review = true)
    (isLane : config.lane index = some lane) (idle : state.hands (.lane index) = none)
    (running : state.exited (.lane index) = false) (member : id ∈ state.leadQ)
    (isEligible : eligible config state lane id = true) :
    (look config state (.lane index)).isSome = true := by
  have starts : config.starts (.lane index) = true := by
    unfold Config.starts
    dsimp only
    rw [reviews, isLane]
    rfl
  rw [look_eq starts idle running]
  dsimp only
  rw [isLane, Option.bind_some]
  unfold lookForReview
  split
  · rfl
  · obtain ⟨first, found⟩ := Option.isSome_iff_exists.mp
      (List.find?_isSome.mpr ⟨id, member, isEligible⟩)
    rw [found]
    rfl

theorem lane_lead (config : Config) : config.lane config.reviewLanes.length = some ⟨lead, none⟩ := by
  unfold Config.lane
  rw [List.getElem?_append_right (by rw [List.length_map]), List.length_map, Nat.sub_self]
  rfl

theorem exists_lane {lane : Text × Text} (member : lane ∈ config.reviewLanes) :
    ∃ index, config.lane index = some ⟨lane.1, some lane.2⟩ := by
  obtain ⟨index, isLane⟩ := List.mem_iff_getElem?.mp member
  refine ⟨index, ?_⟩
  unfold Config.lane
  have mapped : (config.reviewLanes.map fun lane => Lane.mk lane.1 (some lane.2))[index]? =
      some ⟨lane.1, some lane.2⟩ := by
    rw [List.getElem?_map, isLane]
    rfl
  obtain ⟨inRange, _⟩ := List.getElem?_eq_some_iff.mp mapped
  rw [List.getElem?_append_left inRange]
  exact mapped

/-- A lane may review a task: the lead, or a worker that is up. -/
theorem exists_eligible (named : ∀ lane ∈ config.reviewLanes, lane.1 ≠ lead) (state : State)
    (id : Text) : ∃ index lane, config.lane index = some lane ∧
      eligible config state lane id = true := by
  by_cases forLead : ((state.task id).forceLead || !state.anyUp config) = true
  · refine ⟨_, _, lane_lead config, ?_⟩
    unfold eligible
    rw [if_pos rfl]
    exact forLead
  · rw [Bool.or_eq_true, not_or, Bool.not_eq_true, Bool.not_eq_true, Bool.not_eq_false'] at forLead
    obtain ⟨free, someUp⟩ := forLead
    obtain ⟨lane, member, isUp⟩ := List.any_eq_true.mp someUp
    obtain ⟨index, isLane⟩ := exists_lane member
    refine ⟨index, _, isLane, ?_⟩
    unfold eligible
    rw [if_neg (named lane member), free]
    exact isUp

/-- As long as a task is not recorded, a thread can go on. -/
theorem exists_goesOn (conserved : Conserved config state)
    (named : ∀ lane ∈ config.reviewLanes, lane.1 ≠ lead) (isTask : id ∈ config.tasks)
    (unrecorded : id ∉ state.recorded) : ∃ thread, state.goesOn config thread := by
  by_cases busy : ∃ thread, state.hands thread ≠ none
  · obtain ⟨thread, holds⟩ := busy
    obtain ⟨⟨held, stage⟩, isHeld⟩ := Option.ne_none_iff_exists'.mp holds
    exact ⟨thread, goesOn_of_held isHeld⟩
  · push Not at busy
    have running (thread : Thread) : state.exited thread = false := by
      refine Bool.eq_false_iff.mpr fun exited => unrecorded ?_
      exact (finished_iff conserved).mp (conserved.ended thread exited) id isTask
    obtain ⟨place, sole⟩ := conserved.placed id isTask unrecorded
    have present : 0 < state.count id place := by rw [sole.1]; exact Nat.one_pos
    have fits := conserved.fits id place present
    cases place with
    | pending =>
      have isFirst : config.implementers[0]? = some (config.implementers.head config.staffed) := by
        rw [← List.head?_eq_getElem?, List.head?_eq_some_head]
      exact ⟨.implementer 0, .inr (look_implementer isFirst (busy _) (running _)
        (.inr (List.ne_nil_of_mem (List.count_pos_iff.mp present))))⟩
    | rework agent =>
      obtain ⟨index, isAgent⟩ := List.mem_iff_getElem?.mp
        ((conserved.bounded id).agent agent fits.1)
      exact ⟨.implementer index, .inr (look_implementer isAgent (busy _) (running _)
        (.inl (List.ne_nil_of_mem (List.count_pos_iff.mp present))))⟩
    | lead =>
      obtain ⟨index, lane, isLane, isEligible⟩ := exists_eligible named state id
      exact ⟨.lane index, .inr (look_lane fits.2.1 isLane (busy _) (running _)
        (List.count_pos_iff.mp present) isEligible)⟩
    | hands thread =>
      obtain ⟨stage, held⟩ := hands_of_count_pos present
      rw [busy thread] at held
      cases held

/-! ### Conservation -/

/-- The places of the pipeline. -/
def Config.has (config : Config) : Place → Prop
  | .pending => True
  | .rework agent => agent ∈ config.implementers
  | .lead => config.review = true
  | .hands thread => config.starts thread = true

/-- What the pipeline conserves. -/
structure Conserves (config : Config) (state : State) : Prop where
  placed : ∀ id ∈ config.tasks, id ∉ state.recorded → ∃ place, config.has place ∧ state.Sole id place
  recorded : ∀ id ∈ state.recorded, id ∈ config.tasks ∧ ∀ place, state.count id place = 0
  once : state.recorded.Nodup
  counted : state.done = state.records.length
  /-- No thread ends before all tasks are recorded. -/
  ended : ∀ thread, state.exited thread = true → ∀ id ∈ config.tasks, id ∈ state.recorded
  /-- Once all tasks are recorded, the threads wait no more. -/
  ends : (∀ id ∈ config.tasks, id ∈ state.recorded) → ∀ thread, config.starts thread = true →
    state.exited thread = false →
      (pipeline config).step state (.look thread) = some (state.exit thread)
  /-- Until then not all of them wait. -/
  goesOn : (∀ lane ∈ config.reviewLanes, lane.1 ≠ lead) → ∀ id ∈ config.tasks,
    id ∉ state.recorded → ∃ thread, state.goesOn config thread
  turns : config.reviewBudget = none → ∀ id, (state.task id).turns ≤ config.maxRounds + 1
  budgetedTurns : ∀ budget ∈ config.reviewBudget, ∀ id, (state.task id).turns ≤ budget + 1
  workerFailures : ∀ id, (state.task id).reviewInfra ≤ maxReviewInfra
  /-- After that many only the lead has the task for a review. -/
  toLead : ∀ id index lane, state.hands (.lane index) = some (id, .reviewing) →
    config.lane index = some lane → (state.task id).reviewInfra = maxReviewInfra → lane.name = lead

theorem has_of_fits {place : Place} (bounded : Bounded config (state.task id))
    (fits : PlaceFits config state id place) : config.has place := by
  cases place with
  | pending => trivial
  | rework agent => exact bounded.agent agent fits.1
  | lead => exact fits.2.1
  | hands thread => exact fits.1

theorem idle_of_finished (conserved : Conserved config state)
    (all : ∀ id ∈ config.tasks, id ∈ state.recorded) (thread : Thread) :
    state.hands thread = none := by
  by_contra holds
  obtain ⟨⟨id, stage⟩, held⟩ := Option.ne_none_iff_exists'.mp holds
  exact (count_hands_pos held).ne' (conserved.gone id (all id) _)

/-- Once all tasks are recorded, a thread that looks for one ends. -/
theorem look_finished (conserved : Conserved config state)
    (all : ∀ id ∈ config.tasks, id ∈ state.recorded) (starts : config.starts thread = true)
    (running : state.exited thread = false) :
    look config state thread = some (state.exit thread) := by
  have finished := (finished_iff conserved).mpr all
  have noRework (agent : Text) : state.rework agent = [] :=
    List.eq_nil_iff_forall_not_mem.mpr fun id =>
      List.count_eq_zero.mp (conserved.gone id (all id) (.rework agent))
  have noPending : state.pending = [] :=
    List.eq_nil_iff_forall_not_mem.mpr fun id =>
      List.count_eq_zero.mp (conserved.gone id (all id) .pending)
  rw [look_eq starts (idle_of_finished conserved all thread) running]
  cases thread with
  | implementer index =>
    have inRange : index < config.implementers.length := of_decide_eq_true starts
    dsimp only
    rw [List.getElem?_eq_getElem inRange, Option.bind_some]
    unfold lookForWork
    rw [noRework, noPending]
    exact if_pos finished
  | lane index =>
    obtain ⟨lane, isLane⟩ := Option.isSome_iff_exists.mp (Bool.and_eq_true_iff.mp starts).2
    dsimp only
    rw [isLane, Option.bind_some]
    exact if_pos finished

theorem conserves (reachable : Reachable config state) : Conserves config state := by
  have conserved := conserved_of_reachable reachable
  have absent (id : Text) (recorded : id ∈ state.recorded) := conserved.gone id fun _ => recorded
  refine ⟨fun id isTask isOpen => ?_, fun id recorded => ⟨conserved.known recorded,
    absent id recorded⟩, conserved.once, conserved.done, fun thread exited =>
    (finished_iff conserved).mp (conserved.ended thread exited), fun all thread =>
    look_finished conserved all, fun named id => exists_goesOn conserved named,
    fun unlimited id => ?_, fun budget isBudget id => ?_, fun id => (conserved.bounded id).reviewInfra,
    fun id index lane held isLane many => ?_⟩
  · obtain ⟨place, sole⟩ := conserved.placed id isTask isOpen
    have fits := conserved.fits id place (by rw [sole.1]; exact Nat.one_pos)
    exact ⟨place, has_of_fits (conserved.bounded id) fits, sole⟩
  · have bound := (conserved.bounded id).turns
    unfold Config.turnLimit at bound
    rwa [unlimited] at bound
  · have bound := (conserved.bounded id).turns
    unfold Config.turnLimit at bound
    rwa [Option.mem_def.mp isBudget] at bound
  · by_contra isWorker
    have fits := (conserved.fits id _ (count_hands_pos held)).2 _ held
    have forced := (conserved.bounded id).forceLead.mpr many
    rw [fits.2.2 index lane rfl isLane isWorker] at forced
    cases forced

/-- Two implementers, one review lane, two tasks with one review each. -/
def exampleConfig : Config where
  tasks := [text "t1", text "t2"]
  implementers := [text "impl-a", text "impl-b"]
  review := true
  maxRounds := 2
  reviewBudget := some 1
  reviewLanes := [(text "w1", text "http://w1")]
  unique := by decide
  staffed := List.cons_ne_nil _ _
  positive := by decide
  budgeted := fun _ => rfl

/-- The worker fails twice, so the lead reviews the first task. -/
def exampleEvents : List Event :=
  [.look (.implementer 0), .look (.implementer 1), .act (.implementer 1) .raised,
    .act (.implementer 0) .turn, .act (.implementer 0) .pass,
    .look (.lane 0), .act (.lane 0) .workerFailed, .health fun _ => true,
    .look (.lane 0), .act (.lane 0) .workerFailed, .health fun _ => true,
    .look (.lane 1), .act (.lane 1) (.verdict .revise), .act (.lane 1) .pass]

def exampleState : Option State :=
  (pipeline exampleConfig).run (start exampleConfig fun _ => true) exampleEvents

theorem example_conserves :
    ∃ state, exampleState = some state ∧ state.rework (text "impl-a") = [text "t1"] ∧
      Conserves exampleConfig state := by
  obtain ⟨state, ran⟩ := Option.isSome_iff_exists.mp
    (show exampleState.isSome = true by decide)
  have waits : exampleState.map (fun state => state.rework (text "impl-a")) =
      some [text "t1"] := by decide
  rw [ran] at waits
  exact ⟨state, ran, Option.some.inj waits, conserves ⟨_, _, ran⟩⟩

end Workforce

end LocalGpuCluster
