/-
This file says what an event of the pipeline can do to the tasks: it leaves them where they are, moves
one task from one place to another, or records a task that a thread has in its hands. What the counters
of a task may be depends on its place only, so a move has to keep them right for the task that it moves.
-/

import LocalGpuCluster.WorkforcePipeline

namespace LocalGpuCluster

namespace Workforce

variable {config : Config} {state next : State} {id other : Text} {thread : Thread} {stage : Stage}
  {agent : Text} {task : Task}

/-! ### Places -/

/-- Where a task can be. -/
inductive Place where
  | pending
  | rework (agent : Text)
  | lead
  | hands (thread : Thread)
  deriving DecidableEq, Repr

/-- How often a task is at a place. -/
def State.count (state : State) (id : Text) : Place → ℕ
  | .pending => state.pending.count id
  | .rework agent => (state.rework agent).count id
  | .lead => state.leadQ.count id
  | .hands thread => if (state.hands thread).map Prod.fst = some id then 1 else 0

/-- A task is at one place. -/
def State.Sole (state : State) (id : Text) (place : Place) : Prop :=
  state.count id place = 1 ∧ ∀ other, other ≠ place → state.count id other = 0

def State.recorded (state : State) : List Text := state.records.map Prod.fst

theorem count_hands_pos (held : state.hands thread = some (id, stage)) :
    0 < state.count id (.hands thread) := by
  show 0 < if (state.hands thread).map Prod.fst = some id then 1 else 0
  rw [held, Option.map_some, if_pos rfl]
  exact Nat.one_pos

theorem hands_of_count_pos (positive : 0 < state.count id (.hands thread)) :
    ∃ stage, state.hands thread = some (id, stage) := by
  unfold State.count at positive
  dsimp only at positive
  split at positive
  · rename_i isId
    obtain ⟨⟨_, stage⟩, held, rfl⟩ := Option.map_eq_some_iff.mp isId
    exact ⟨stage, held⟩
  · cases positive

/-! ### What a place says of a task -/

/-- Whether the next turn of a task is its last one. -/
def LastTurn (config : Config) (task : Task) : Prop :=
  task.final = false ∧ task.reviews ≤ config.maxRounds ∧
      (∀ budget ∈ config.reviewBudget, task.reviews < budget) ∨
    task.final = true ∧ config.reviewBudget = some task.reviews

/-- A task whose last turn waits for a review that it may get. -/
def MayReview (config : Config) (task : Task) : Prop :=
  config.review = true ∧ task.turns = task.rounds ∧ task.rounds = task.reviews + 1 ∧
    task.final = false ∧ task.reviews ≤ config.maxRounds ∧
    ∀ budget ∈ config.reviewBudget, task.reviews < budget

/-- The counters of a task in the hands of a thread. -/
def StageFits (config : Config) (task : Task) (thread : Thread) : Stage → Prop
  | .implementing =>
      task.turns = task.rounds + 1 ∧ task.rounds = task.reviews ∧ LastTurn config task
  | .implemented =>
      task.agent ≠ none ∧ task.turns = task.rounds ∧ task.rounds = task.reviews + 1 ∧
        LastTurn config task
  | .reviewing => task.agent ≠ none ∧ MayReview config task ∧
      ∀ index lane, thread = .lane index → config.lane index = some lane → lane.name ≠ lead →
        task.forceLead = false
  | .reviewed _ =>
      config.review = true ∧ task.agent ≠ none ∧ task.turns = task.rounds ∧ task.rounds = task.reviews ∧
        task.final = false ∧ 1 ≤ task.reviews ∧ task.reviews ≤ config.maxRounds + 1 ∧
        ∀ budget ∈ config.reviewBudget, task.reviews ≤ budget
  | .fixing => 0 < task.fixes

/-- The counters of a task at a place. -/
def PlaceFits (config : Config) (state : State) (id : Text) : Place → Prop
  | .pending => state.task id = Task.new
  | .rework agent => (state.task id).agent = some agent ∧
      (state.task id).turns = (state.task id).rounds ∧
      (state.task id).rounds = (state.task id).reviews ∧ LastTurn config (state.task id)
  | .lead => (state.task id).agent ≠ none ∧ MayReview config (state.task id)
  | .hands thread => config.starts thread = true ∧ ∀ stage,
      state.hands thread = some (id, stage) → StageFits config (state.task id) thread stage

/-- How many turns a task may get. -/
def Config.turnLimit (config : Config) : ℕ :=
  match config.reviewBudget with
  | none => config.maxRounds + 1
  | some budget => budget + 1

/-- The bounds of the counters of a task, wherever it is. -/
structure Bounded (config : Config) (task : Task) : Prop where
  agent : ∀ agent ∈ task.agent, agent ∈ config.implementers
  turns : task.turns ≤ config.turnLimit
  reviews : ∀ budget ∈ config.reviewBudget, task.reviews ≤ budget
  reviewInfra : task.reviewInfra ≤ maxReviewInfra
  forceLead : task.forceLead = true ↔ task.reviewInfra = maxReviewInfra
  fixes : 0 < task.fixes →
    config.review = true ∧ ∀ budget ∈ config.reviewBudget, config.maxRounds + 1 < budget

/-! ### What an event does -/

/-- A task goes from one place to another. -/
structure Moves (state next : State) (id : Text) (source target : Place) : Prop where
  counts : ∀ other place, next.count other place + (if other = id ∧ place = source then 1 else 0) =
    state.count other place + (if other = id ∧ place = target then 1 else 0)
  tasks : ∀ other, other ≠ id → next.task other = state.task other
  hands : ∀ thread other stage, other ≠ id → next.hands thread = some (other, stage) →
    state.hands thread = some (other, stage)
  records : next.records = state.records
  done : next.done = state.done
  exited : next.exited = state.exited

theorem Moves.count_other {source target place : Place} (moves : Moves state next id source target)
    (distinct : other ≠ id) : next.count other place = state.count other place := by
  have change := moves.counts other place
  rwa [if_neg fun both => distinct both.1, if_neg fun both => distinct both.1, Nat.add_zero,
    Nat.add_zero] at change

theorem Moves.count_self {source target : Place} (moves : Moves state next id source target)
    (sole : state.Sole id source) (place : Place) :
    next.count id place = if place = target then 1 else 0 := by
  have change := moves.counts id place
  simp only [true_and] at change
  by_cases there : place = source
  · rw [if_pos there, there, sole.1, ← there] at change
    omega
  · rw [if_neg there, sole.2 place there] at change
    omega

/-- What an event does. -/
inductive Effect (config : Config) (state next : State) : Prop
  | quiet (same : ∃ up exited, next = { state with up, exited })
      (exits : ∀ thread, next.exited thread = true →
        state.exited thread = true ∨ state.finished config = true)
  | moved (id : Text) (source target : Place) (present : 0 < state.count id source)
      (moves : Moves state next id source target)
      (fits : PlaceFits config state id source → Bounded config (state.task id) →
        PlaceFits config next id target ∧ Bounded config (next.task id))
  | recorded (thread : Thread) (id : Text) (stage : Stage) (outcome : Outcome)
      (held : state.hands thread = some (id, stage)) (same : next = state.finish thread id outcome)

/-! ### Counts after a change -/

theorem count_setTask (place : Place) :
    (state.setTask id task).count other place = state.count other place := by
  cases place <;> rfl

theorem count_complete {outcome : Outcome} (place : Place) :
    (state.complete id outcome).count other place = state.count other place := by
  unfold State.complete
  split
  · rfl
  · cases place <;> rfl

theorem count_hold (place : Place) : (state.hold thread id stage).count other place =
    if place = .hands thread then (if other = id then 1 else 0) else state.count other place := by
  cases place with
  | hands holder =>
    show (if (Function.update state.hands thread (some (id, stage)) holder).map Prod.fst = some other
      then 1 else 0) = _
    by_cases same : holder = thread
    · subst same
      rw [Function.update_self, if_pos rfl]
      simp [eq_comm]
    · rw [Function.update_of_ne same, if_neg fun wrong => same (Place.hands.inj wrong)]
      rfl
  | pending => rfl
  | rework agent => rfl
  | lead => rfl

theorem count_release (place : Place) : (state.release thread).count other place =
    if place = .hands thread then 0 else state.count other place := by
  cases place with
  | hands holder =>
    show (if (Function.update state.hands thread none holder).map Prod.fst = some other
      then 1 else 0) = _
    by_cases same : holder = thread
    · subst same
      rw [Function.update_self, if_pos rfl]
      rfl
    · rw [Function.update_of_ne same, if_neg fun wrong => same (Place.hands.inj wrong)]
      rfl
  | pending => rfl
  | rework agent => rfl
  | lead => rfl

theorem count_cons_pos (rest : List Text) : 0 < (id :: rest).count id := by
  rw [List.count_cons_self]
  exact Nat.succ_pos _

theorem count_cons_eq (rest : List Text) :
    rest.count other + (if other = id then 1 else 0) = (id :: rest).count other := by
  by_cases same : other = id
  · rw [if_pos same, same, List.count_cons_self]
  · rw [if_neg same, List.count_cons_of_ne (Ne.symm same), Nat.add_zero]

/-- Only the queue of new tasks was changed. -/
theorem count_of_pending {place : Place} (rework : next.rework = state.rework)
    (leadQ : next.leadQ = state.leadQ) (hands : next.hands = state.hands)
    (distinct : place ≠ .pending) : next.count other place = state.count other place := by
  unfold State.count
  rw [rework, leadQ, hands]
  cases place with
  | pending => exact absurd rfl distinct
  | rework name => rfl
  | lead => rfl
  | hands holder => rfl

/-- Only the queue of one implementer was changed. -/
theorem count_of_rework {place : Place} {agent : Text} {queue : List Text}
    (pending : next.pending = state.pending)
    (rework : next.rework = Function.update state.rework agent queue)
    (leadQ : next.leadQ = state.leadQ) (hands : next.hands = state.hands)
    (distinct : place ≠ .rework agent) : next.count other place = state.count other place := by
  unfold State.count
  rw [pending, rework, leadQ, hands]
  cases place with
  | pending => rfl
  | rework name =>
    have another : name ≠ agent := fun same => distinct (congrArg Place.rework same)
    exact congrArg (List.count other) (Function.update_of_ne another _ _)
  | lead => rfl
  | hands holder => rfl

/-- Only the queue of reviews was changed. -/
theorem count_of_leadQ {place : Place} (pending : next.pending = state.pending)
    (rework : next.rework = state.rework) (hands : next.hands = state.hands)
    (distinct : place ≠ .lead) : next.count other place = state.count other place := by
  unfold State.count
  rw [pending, rework, hands]
  cases place with
  | pending => rfl
  | rework name => rfl
  | lead => exact absurd rfl distinct
  | hands holder => rfl

/-- The counts when the queue at one place loses a task. -/
theorem counts_of_queue {source : Place} (there : ∀ other, next.count other source +
      (if other = id then 1 else 0) = state.count other source)
    (elsewhere : ∀ other place, place ≠ source → next.count other place = state.count other place)
    (other : Text) (place : Place) :
    next.count other place + (if other = id ∧ place = source then 1 else 0) =
      state.count other place := by
  by_cases same : place = source
  · subst same
    simp only [and_true]
    exact there other
  · rw [if_neg fun both => same both.2]
    exact elsewhere other place same

/-- A queue without the first item that is found in it. -/
theorem count_eraseP {queue : List Text} {found : Text → Bool} (first : queue.find? found = some id)
    (other : Text) : (queue.eraseP found).count other + (if other = id then 1 else 0) =
      queue.count other := by
  induction queue with
  | nil => cases first
  | cons head rest inductionHypothesis =>
    rw [List.find?_cons] at first
    split at first
    · rename_i isFound
      obtain rfl := Option.some.inj first
      rw [List.eraseP_cons_of_pos isFound]
      exact count_cons_eq rest
    · rename_i notFound
      rw [List.eraseP_cons_of_neg (by simp [notFound]), List.count_cons, List.count_cons,
        ← inductionHypothesis first]
      omega

/-- What is in one's hands is there once, and it is all that is there. -/
theorem count_hands (held : state.hands thread = some (id, stage)) (other : Text) :
    state.count other (.hands thread) = if other = id then 1 else 0 := by
  show (if (state.hands thread).map Prod.fst = some other then 1 else 0) = _
  rw [held, Option.map_some]
  by_cases same : other = id
  · rw [if_pos same, if_pos (by rw [same])]
  · rw [if_neg same, if_neg fun wrong => same (Option.some.inj wrong).symm]

theorem count_hands_idle (idle : state.hands thread = none) (other : Text) :
    state.count other (.hands thread) = 0 := by
  show (if (state.hands thread).map Prod.fst = some other then 1 else 0) = _
  rw [idle]
  rfl

/-! ### Moves -/

/-- A change to the queues and to one task. -/
structure Frame (state next : State) (id : Text) : Prop where
  tasks : ∀ other, other ≠ id → next.task other = state.task other
  hands : next.hands = state.hands
  records : next.records = state.records
  done : next.done = state.done
  exited : next.exited = state.exited

/-- A task that left a queue goes to a thread that waits. -/
theorem moves_hold {source : Place} (idle : state.hands thread = none) (frame : Frame state next id)
    (counts : ∀ other place, next.count other place +
      (if other = id ∧ place = source then 1 else 0) = state.count other place) :
    Moves state (next.hold thread id stage) id source (.hands thread) where
  counts other place := by
    rw [count_hold]
    by_cases same : place = .hands thread
    · subst same
      rw [if_pos rfl]
      have before := counts other (.hands thread)
      have empty := count_hands_idle idle other
      simp only [and_true]
      omega
    · rw [if_neg same, if_neg (fun both => same both.2 : ¬(other = id ∧ place = .hands thread))]
      exact counts other place
  tasks := frame.tasks
  hands holder other held distinct holds := by
    change Function.update next.hands thread _ holder = _ at holds
    by_cases same : holder = thread
    · rw [same, Function.update_self] at holds
      cases holds
      exact absurd rfl distinct
    · rwa [Function.update_of_ne same, frame.hands] at holds
  records := frame.records
  done := frame.done
  exited := frame.exited

/-- A thread puts the task in its hands into a queue. -/
theorem moves_release {target : Place} (held : state.hands thread = some (id, stage))
    (frame : Frame state next id) (inQueue : target ≠ .hands thread)
    (counts : ∀ other place, next.count other place =
      state.count other place + (if other = id ∧ place = target then 1 else 0)) :
    Moves state (next.release thread) id (.hands thread) target where
  counts other place := by
    rw [count_release]
    by_cases same : place = .hands thread
    · subst same
      rw [if_pos rfl, count_hands held, if_neg (fun both => inQueue both.2.symm :
        ¬(other = id ∧ .hands thread = target))]
      simp only [and_true, Nat.zero_add, Nat.add_zero]
    · rw [if_neg same, if_neg (fun both => same both.2 : ¬(other = id ∧ place = .hands thread))]
      exact counts other place
  tasks := frame.tasks
  hands holder other _ _ holds := by
    change Function.update next.hands thread none holder = _ at holds
    by_cases same : holder = thread
    · rw [same, Function.update_self] at holds
      cases holds
    · rwa [Function.update_of_ne same, frame.hands] at holds
  records := frame.records
  done := frame.done
  exited := frame.exited

/-- A thread goes on with the task in its hands. -/
theorem moves_keep {before : Stage} (held : state.hands thread = some (id, before)) :
    Moves state ((state.setTask id task).hold thread id stage) id (.hands thread) (.hands thread)
    where
  counts other place := by
    rw [count_hold, count_setTask]
    by_cases same : place = .hands thread
    · rw [if_pos same, same, count_hands held]
    · rw [if_neg same]
  tasks other distinct := Function.update_of_ne distinct _ _
  hands holder other _ distinct holds := by
    change Function.update state.hands thread _ holder = _ at holds
    by_cases same : holder = thread
    · rw [same, Function.update_self] at holds
      cases holds
      exact absurd rfl distinct
    · rwa [Function.update_of_ne same] at holds
  records := rfl
  done := rfl
  exited := rfl

end Workforce

end LocalGpuCluster
