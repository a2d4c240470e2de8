/-
This file models the scheduling of `workforce/pipeline.py` as a machine. Its threads are one for each
implementer, one for each review lane and the lead. What a thread does while it holds the condition is
one event, and so is each change that a task goes through in the hands of a thread; any step may raise
instead. The workspaces, the packets and the texts of the verdicts are left out.
-/

import LocalGpuCluster.Machine
import LocalGpuCluster.Text
import Mathlib.Data.List.Nodup
import Mathlib.Logic.Function.Basic

namespace LocalGpuCluster

namespace Workforce

/-- A review lane: the lead has no worker. -/
structure Lane where
  name : Text
  url : Option Text
  deriving DecidableEq, Repr

/-- `LEAD`. -/
def lead : Text := text "lead"

/-- The arguments of `Pipeline` that it checked. Each arm has an implementer. -/
structure Config where
  tasks : List Text
  implementers : List Text
  review : Bool
  maxRounds : ℕ
  reviewBudget : Option ℕ
  reviewLanes : List (Text × Text)
  unique : tasks.Nodup
  staffed : implementers ≠ []
  positive : ∀ budget ∈ reviewBudget, 1 ≤ budget
  budgeted : reviewLanes ≠ [] → reviewBudget.isSome = true

/-- `MAX_REVIEW_INFRA`. -/
def maxReviewInfra : ℕ := 2

/-! ### States -/

/-- A `_Task`, with the calls of `_implement` and of `_lead_fix` counted. -/
structure Task where
  agent : Option Text
  turns : ℕ
  rounds : ℕ
  reviews : ℕ
  final : Bool
  reviewInfra : ℕ
  forceLead : Bool
  fixes : ℕ
  deriving DecidableEq, Repr

def Task.new : Task := ⟨none, 0, 0, 0, false, 0, false, 0⟩

inductive Verdict where
  | accept
  | revise
  | none
  deriving DecidableEq, Repr

/-- What a thread is at with the task in its hands. -/
inductive Stage where
  | implementing
  | implemented
  | reviewing
  | reviewed (verdict : Verdict)
  | fixing
  deriving DecidableEq, Repr

inductive Outcome where
  | implemented
  | reworkedUnreviewed
  | implementerAccepted
  | leadFixed
  | infraError
  | harnessError
  deriving DecidableEq, Repr

inductive Thread where
  | implementer (index : ℕ)
  | lane (index : ℕ)
  deriving DecidableEq, Repr

structure State where
  task : Text → Task
  pending : List Text
  rework : Text → List Text
  leadQ : List Text
  hands : Thread → Option (Text × Stage)
  exited : Thread → Bool
  records : List (Text × Outcome)
  done : ℕ
  up : Text → Bool

def start (config : Config) (up : Text → Bool) : State where
  task := fun _ => Task.new
  pending := config.tasks
  rework := fun _ => []
  leadQ := []
  hands := fun _ => none
  exited := fun _ => false
  records := []
  done := 0
  up := up

/-- What becomes of a task in the hands of a thread. -/
inductive Deed where
  /-- The implementer run succeeded or hit its time limit. -/
  | turn
  /-- All implementer runs failed. -/
  | infra
  /-- An exception reached `_guarded`. -/
  | raised
  /-- The worker of a review failed. -/
  | workerFailed
  | verdict (verdict : Verdict)
  /-- The step that follows is through. -/
  | pass
  deriving DecidableEq, Repr

inductive Event where
  /-- The workers that are up change. -/
  | health (up : Text → Bool)
  /-- A thread looks for a task, or ends. -/
  | look (thread : Thread)
  | act (thread : Thread) (deed : Deed)

/-! ### Looking for a task -/

/-- The lanes: the review lanes and the lead. -/
def Config.lane (config : Config) (index : ℕ) : Option Lane :=
  (config.reviewLanes.map (fun lane => Lane.mk lane.1 (some lane.2)) ++ [⟨lead, none⟩])[index]?

/-- `run` starts the thread. -/
def Config.starts (config : Config) : Thread → Bool
  | .implementer index => index < config.implementers.length
  | .lane index => config.review && (config.lane index).isSome

/-- `_finished`. -/
def State.finished (config : Config) (state : State) : Bool := state.done = config.tasks.length

/-- The thread waits for a task. -/
def State.idle (state : State) (thread : Thread) : Bool :=
  (state.hands thread).isNone && !state.exited thread

def State.hold (state : State) (thread : Thread) (id : Text) (stage : Stage) : State :=
  { state with hands := Function.update state.hands thread (some (id, stage)) }

def State.release (state : State) (thread : Thread) : State :=
  { state with hands := Function.update state.hands thread none }

def State.exit (state : State) (thread : Thread) : State :=
  { state with exited := Function.update state.exited thread true }

def State.setTask (state : State) (id : Text) (task : Task) : State :=
  { state with task := Function.update state.task id task }

/-- An implementer starts a turn. -/
def State.implement (state : State) (thread : Thread) (id : Text) : State :=
  (state.setTask id { state.task id with turns := (state.task id).turns + 1 }).hold thread id
    .implementing

/-- What a lane knows of the workers: some review lane's worker is up. -/
def State.anyUp (config : Config) (state : State) : Bool :=
  config.reviewLanes.any fun lane => state.up lane.2

/-- `_eligible`. -/
def eligible (config : Config) (state : State) (lane : Lane) (id : Text) : Bool :=
  if lane.name = lead then (state.task id).forceLead || !state.anyUp config
  else !(state.task id).forceLead && lane.url.any state.up

/-- A round of `_impl_loop` under the condition. -/
def lookForWork (config : Config) (state : State) (thread : Thread) (agent : Text) :
    Option State :=
  match state.rework agent with
  | id :: rest =>
      some ({ state with rework := Function.update state.rework agent rest }.implement thread id)
  | [] =>
      match state.pending with
      | id :: rest => some ({ state with pending := rest }.implement thread id)
      | [] => if state.finished config then some (state.exit thread) else none

/-- A round of `_lane_loop` under the condition. -/
def lookForReview (config : Config) (state : State) (thread : Thread) (lane : Lane) :
    Option State :=
  if state.finished config then some (state.exit thread)
  else
    match state.leadQ.find? (eligible config state lane) with
    | some id =>
        some ({ state with leadQ := state.leadQ.eraseP (eligible config state lane) }.hold thread id
          .reviewing)
    | none => none

/-- A thread that waits looks for a task. -/
def look (config : Config) (state : State) (thread : Thread) : Option State :=
  if !config.starts thread || !state.idle thread then none
  else
    match thread with
    | .implementer index =>
        (config.implementers[index]?).bind fun agent => lookForWork config state thread agent
    | .lane index =>
        (config.lane index).bind fun lane => lookForReview config state thread lane

/-! ### Working on a task -/

/-- `_complete`: a task is recorded once. -/
def State.complete (state : State) (id : Text) (outcome : Outcome) : State :=
  if id ∈ state.records.map Prod.fst then state
  else { state with records := state.records ++ [(id, outcome)], done := state.done + 1 }

/-- A task is recorded, and its thread is free. -/
def State.finish (state : State) (thread : Thread) (id : Text) (outcome : Outcome) : State :=
  (state.complete id outcome).release thread

/-- The end of `_implement`. -/
def afterTurn (config : Config) (state : State) (thread : Thread) (id : Text) : State :=
  if !config.review then state.finish thread id .implemented
  else if (state.task id).final then state.finish thread id .reworkedUnreviewed
  else { state with leadQ := state.leadQ ++ [id] }.release thread

/-- `_worker_failed`. -/
def workerFailed (state : State) (thread : Thread) (url : Option Text) (id : Text) : State :=
  let task := state.task id
  let failures := task.reviewInfra + 1
  let failed := state.setTask id
    { task with reviewInfra := failures, forceLead := task.forceLead || maxReviewInfra ≤ failures }
  { failed with
    leadQ := id :: state.leadQ
    up := fun other => state.up other && !(url = some other) }.release thread

/-- The budget of reviews is used up. -/
def Config.spent (config : Config) (task : Task) : Bool :=
  config.reviewBudget.any fun budget => budget ≤ task.reviews

/-- The end of `_review`, from the verdict on. A lead fix follows where no rework does. -/
def afterReview (config : Config) (state : State) (thread : Thread) (id : Text) : Verdict → State
  | .accept => state.finish thread id .implementerAccepted
  | .revise | .none =>
      let task := state.task id
      let final := task.final || config.spent task
      if final || task.rounds ≤ config.maxRounds then
        match task.agent with
        | some agent =>
            { state.setTask id { task with final } with
              rework := Function.update state.rework agent (state.rework agent ++ [id]) }.release
              thread
        | none => state.finish thread id .harnessError
      else (state.setTask id { task with final, fixes := task.fixes + 1 }).hold thread id .fixing

/-- A task in the hands of a thread goes on. -/
def perform (config : Config) (state : State) (thread : Thread) (id : Text) :
    Deed → Stage → Option State
  | .raised, _ => some (state.finish thread id .harnessError)
  | .turn, .implementing =>
      match thread with
      | .implementer index => (config.implementers[index]?).map fun agent =>
          let task := state.task id
          (state.setTask id
            { task with agent := some (task.agent.getD agent), rounds := task.rounds + 1 }).hold
            thread id .implemented
      | .lane _ => none
  | .infra, .implementing => some (state.finish thread id .infraError)
  | .pass, .implemented => some (afterTurn config state thread id)
  | .workerFailed, .reviewing =>
      match thread with
      | .implementer _ => none
      | .lane index => (config.lane index).bind fun lane =>
          if lane.name = lead then none else some (workerFailed state thread lane.url id)
  | .verdict verdict, .reviewing =>
      let task := state.task id
      some ((state.setTask id { task with reviews := task.reviews + 1 }).hold thread id
        (.reviewed verdict))
  | .pass, .reviewed verdict => some (afterReview config state thread id verdict)
  | .pass, .fixing => some (state.finish thread id .leadFixed)
  | _, _ => none

/-- The pipeline. -/
def pipeline (config : Config) : Machine State Event where
  step state
    | .health up => some { state with up }
    | .look thread => look config state thread
    | .act thread deed => (state.hands thread).bind fun held =>
        perform config state thread held.1 deed held.2

/-- The states that the pipeline can get into. -/
def Reachable (config : Config) (state : State) : Prop :=
  ∃ up events, (pipeline config).run (start config up) events = some state

end Workforce

end LocalGpuCluster
