/-
This file settles what a review budget promises: so many reviews at most, and no lead fix. The reviews
keep to the budget in every run. The lead fix does not follow them: it comes after `max_rounds + 1`
turns that were sent back, so it is out of reach if and only if the budget ends the reviews by then.
-/

import LocalGpuCluster.WorkforceEnds

namespace LocalGpuCluster

namespace Workforce

variable {config : Config} {state next : State} {id : Text} {agent : Text} {rounds budget : ℕ}

/-- What the budget promises. -/
structure KeepsBudget (state : State) (budget : ℕ) : Prop where
  reviews : ∀ id, (state.task id).reviews ≤ budget
  fixes : ∀ id, (state.task id).fixes = 0
  /-- No lane edits the code itself. -/
  hands : ∀ thread id, state.hands thread ≠ some (id, .fixing)

/-- The budget ends the reviews before the lead fix, or nothing is reviewed. -/
def Config.RulesOutFix (config : Config) (budget : ℕ) : Prop :=
  budget ≤ config.maxRounds + 1 ∨ config.review = false ∨ config.tasks = []

theorem keepsBudget_of_rulesOut (isBudget : config.reviewBudget = some budget)
    (rulesOut : config.RulesOutFix budget) (reachable : Reachable config state) :
    KeepsBudget state budget := by
  have conserved := conserved_of_reachable reachable
  have noFix (id : Text) : (state.task id).fixes = 0 := by
    by_contra positive
    obtain ⟨reviewed, large⟩ := (conserved.bounded id).fixes (Nat.pos_of_ne_zero positive)
    obtain small | notReviewed | noTask := rulesOut
    · exact absurd (large budget isBudget) (Nat.not_lt.mpr small)
    · rw [reviewed] at notReviewed
      cases notReviewed
    · refine positive ?_
      rw [conserved.unknown id fun isTask => List.ne_nil_of_mem isTask noTask]
      rfl
  refine ⟨fun id => (conserved.bounded id).reviews budget isBudget, noFix, fun thread id held => ?_⟩
  have fits : 0 < (state.task id).fixes :=
    (conserved.fits id _ (count_hands_pos held)).2 _ held
  rw [noFix id] at fits
  cases fits

/-! ### A run into the lead fix -/

theorem reachable_step {event : Event} (reachable : Reachable config state)
    (stepped : (pipeline config).step state event = some next) : Reachable config next := by
  obtain ⟨up, events, ran⟩ := reachable
  refine ⟨up, events ++ [event], ?_⟩
  rw [Machine.run_append, ran, Option.bind_some, Machine.run_cons, stepped]
  rfl

def Config.leadThread (config : Config) : Thread := .lane config.reviewLanes.length

/-- A task at work, while all workers are down: what the first implementer and the lead do with it. -/
structure Scene where
  task : Task
  rework : List Text
  leadQ : List Text
  turn : Option Stage
  review : Option Stage

def Scene.hands (config : Config) (id : Text) (scene : Scene) (thread : Thread) :
    Option (Text × Stage) :=
  if thread = .implementer 0 then scene.turn.map (id, ·)
  else if thread = config.leadThread then scene.review.map (id, ·)
  else none

def Scene.toState (config : Config) (id agent : Text) (pending : List Text) (scene : Scene) : State where
  task := Function.update (fun _ => Task.new) id scene.task
  pending := pending
  rework := Function.update (fun _ => []) agent scene.rework
  leadQ := scene.leadQ
  hands := scene.hands config id
  exited := fun _ => false
  records := []
  done := 0
  up := fun _ => false

section Run

variable {scene : Scene} {pending : List Text}

theorem scene_task : (scene.toState config id agent pending).task id = scene.task := by
  unfold Scene.toState
  dsimp only
  rw [Function.update_self]

theorem scene_anyUp : (scene.toState config id agent pending).anyUp config = false :=
  List.any_eq_false.mpr fun _ _ => Bool.false_ne_true

theorem scene_setTask (task : Task) : (scene.toState config id agent pending).setTask id task =
    { scene with task }.toState config id agent pending := by
  unfold State.setTask Scene.toState
  rw [Function.update_idem]
  rfl

theorem scene_lead : scene.hands config id config.leadThread = scene.review.map (id, ·) := by
  unfold Scene.hands
  rw [if_neg Thread.noConfusion, if_pos rfl]

theorem scene_none {task : Task} {rework leadQ : List Text} :
    (Scene.mk task rework leadQ none none).hands config id = fun _ => none := by
  funext thread
  unfold Scene.hands
  rw [Option.map_none, ite_self, ite_self]

theorem scene_setImplementer (stage : Option Stage) :
    Function.update (scene.hands config id) (.implementer 0) (stage.map (id, ·)) =
      { scene with turn := stage }.hands config id := by
  funext thread
  unfold Scene.hands
  by_cases same : thread = .implementer 0
  · rw [same, Function.update_self, if_pos rfl]
  · rw [Function.update_of_ne same, if_neg same, if_neg same]

theorem scene_setLead (stage : Option Stage) :
    Function.update (scene.hands config id) config.leadThread (stage.map (id, ·)) =
      { scene with review := stage }.hands config id := by
  funext thread
  unfold Scene.hands
  by_cases same : thread = config.leadThread
  · rw [same, Function.update_self, if_neg Thread.noConfusion, if_pos rfl]
  · rw [Function.update_of_ne same, if_neg same, if_neg same]

theorem scene_hold_implementer (stage : Stage) :
    (scene.toState config id agent pending).hold (.implementer 0) id stage =
      { scene with turn := some stage }.toState config id agent pending :=
  congrArg (fun hands => ({ scene.toState config id agent pending with hands } : State))
    (scene_setImplementer (some stage))

theorem scene_hold_lead (stage : Stage) :
    (scene.toState config id agent pending).hold config.leadThread id stage =
      { scene with review := some stage }.toState config id agent pending :=
  congrArg (fun hands => ({ scene.toState config id agent pending with hands } : State))
    (scene_setLead (some stage))

theorem scene_release_implementer :
    (scene.toState config id agent pending).release (.implementer 0) =
      { scene with turn := none }.toState config id agent pending :=
  congrArg (fun hands => ({ scene.toState config id agent pending with hands } : State))
    (scene_setImplementer none)

theorem scene_release_lead :
    (scene.toState config id agent pending).release config.leadThread =
      { scene with review := none }.toState config id agent pending :=
  congrArg (fun hands => ({ scene.toState config id agent pending with hands } : State))
    (scene_setLead none)

theorem scene_rework : (scene.toState config id agent pending).rework agent = scene.rework := by
  unfold Scene.toState
  dsimp only
  rw [Function.update_self]

theorem scene_setRework (queue : List Text) :
    ({ scene.toState config id agent pending with
        rework := Function.update (scene.toState config id agent pending).rework agent queue } :
      State) = { scene with rework := queue }.toState config id agent pending := by
  unfold Scene.toState
  dsimp only
  rw [Function.update_idem]
  rfl

theorem act_eq {deed : Deed} {thread : Thread} {stage : Stage}
    (held : state.hands thread = some (id, stage)) :
    (pipeline config).step state (.act thread deed) = perform config state thread id deed stage := by
  show (state.hands thread).bind _ = _
  rw [held]
  rfl

theorem reachable_turn (isFirst : config.implementers[0]? = some agent) (task : Task)
    (reachable : Reachable config
      ((Scene.mk task [] [] (some .implementing) none).toState config id agent pending)) :
    Reachable config ((Scene.mk { task with
        agent := some (task.agent.getD agent), rounds := task.rounds + 1 } [] []
      (some .implemented) none).toState config id agent pending) := by
  refine reachable_step reachable (?_ : (pipeline config).step _ (.act (.implementer 0) .turn) = _)
  rw [act_eq rfl]
  unfold perform
  dsimp only
  rw [isFirst, Option.map_some, scene_task, scene_setTask, scene_hold_implementer]

theorem reachable_pass (reviewed : config.review = true) {task : Task} (notFinal : task.final = false)
    (reachable : Reachable config
      ((Scene.mk task [] [] (some .implemented) none).toState config id agent pending)) :
    Reachable config ((Scene.mk task [] [id] none none).toState config id agent pending) := by
  refine reachable_step reachable (?_ : (pipeline config).step _ (.act (.implementer 0) .pass) = _)
  rw [act_eq rfl]
  unfold perform afterTurn
  dsimp only
  rw [scene_task, reviewed, notFinal, if_neg (by decide), if_neg (by decide)]
  show some (((Scene.mk task [] [id] (some .implemented) none).toState config id agent
    pending).release (.implementer 0)) = _
  rw [scene_release_implementer]

theorem lookForReview_eq {thread : Thread} {lane : Lane} {rest : List Text}
    (unfinished : state.finished config = false) (first : state.leadQ = id :: rest)
    (isEligible : eligible config state lane id = true) :
    lookForReview config state thread lane =
      some (({ state with leadQ := rest } : State).hold thread id .reviewing) := by
  unfold lookForReview
  rw [if_neg (by rw [unfinished]; exact Bool.false_ne_true), first,
    List.find?_cons_of_pos isEligible]
  dsimp only
  rw [List.eraseP_cons_of_pos isEligible]

/-- With all workers down, the lead takes the review. -/
theorem reachable_look_lead (reviewed : config.review = true) (tasks : config.tasks ≠ [])
    {task : Task} (reachable : Reachable config
      ((Scene.mk task [] [id] none none).toState config id agent pending)) :
    Reachable config
      ((Scene.mk task [] [] none (some .reviewing)).toState config id agent pending) := by
  refine reachable_step reachable (?_ : (pipeline config).step _ (.look config.leadThread) = _)
  have starts : config.starts config.leadThread = true := by
    unfold Config.starts Config.leadThread
    dsimp only
    rw [reviewed, lane_lead]
    rfl
  have unfinished : State.finished config
      ((Scene.mk task [] [id] none none).toState config id agent pending) = false :=
    decide_eq_false fun none => tasks (List.length_eq_zero_iff.mp none.symm)
  have isEligible : eligible config
      ((Scene.mk task [] [id] none none).toState config id agent pending) ⟨lead, none⟩ id = true := by
    unfold eligible
    rw [if_pos rfl, scene_anyUp]
    exact Bool.or_true _
  show look config _ config.leadThread = _
  rw [look_eq starts scene_lead rfl]
  unfold Config.leadThread
  dsimp only
  rw [lane_lead, Option.bind_some]
  rw [lookForReview_eq unfinished rfl isEligible]
  show some (((Scene.mk task [] [] none none).toState config id agent pending).hold
    config.leadThread id .reviewing) = _
  rw [scene_hold_lead]

theorem reachable_verdict {task : Task} (reachable : Reachable config
      ((Scene.mk task [] [] none (some .reviewing)).toState config id agent pending)) :
    Reachable config ((Scene.mk { task with reviews := task.reviews + 1 } [] [] none
      (some (.reviewed .revise))).toState config id agent pending) := by
  refine reachable_step reachable
    (?_ : (pipeline config).step _ (.act config.leadThread (.verdict .revise)) = _)
  rw [act_eq scene_lead]
  unfold perform
  dsimp only
  rw [scene_task, scene_setTask, scene_hold_lead]

/-- The budget still leaves a review, and the task may get one more round. -/
theorem reachable_rework {task : Task} (started : task.agent = some agent)
    (notFinal : task.final = false) (unspent : config.spent task = false)
    (few : task.rounds ≤ config.maxRounds) (reachable : Reachable config
      ((Scene.mk task [] [] none (some (.reviewed .revise))).toState config id agent pending)) :
    Reachable config ((Scene.mk task [id] [] none none).toState config id agent pending) := by
  refine reachable_step reachable (?_ : (pipeline config).step _ (.act config.leadThread .pass) = _)
  obtain ⟨_, turns, rounds, reviews, _, reviewInfra, forceLead, fixes⟩ := task
  obtain rfl := started
  obtain rfl := notFinal
  rw [act_eq scene_lead]
  unfold perform afterReview
  dsimp only
  rw [scene_task, unspent, if_pos (by simpa using few), scene_setTask]
  dsimp only
  rw [scene_rework]
  exact congrArg some ((congrArg (State.release · config.leadThread) (scene_setRework [id])).trans
    scene_release_lead)

theorem reachable_fixing {task : Task} (notFinal : task.final = false)
    (unspent : config.spent task = false) (many : config.maxRounds < task.rounds)
    (reachable : Reachable config
      ((Scene.mk task [] [] none (some (.reviewed .revise))).toState config id agent pending)) :
    Reachable config ((Scene.mk { task with fixes := task.fixes + 1 } [] [] none
      (some .fixing)).toState config id agent pending) := by
  refine reachable_step reachable (?_ : (pipeline config).step _ (.act config.leadThread .pass) = _)
  rw [act_eq scene_lead]
  unfold perform afterReview
  dsimp only
  rw [scene_task, notFinal, unspent, if_neg (by simpa using many), scene_setTask, scene_hold_lead,
    Bool.or_self, ← notFinal]

theorem reachable_look_rework (isFirst : config.implementers[0]? = some agent) {task : Task}
    (reachable : Reachable config
      ((Scene.mk task [id] [] none none).toState config id agent pending)) :
    Reachable config ((Scene.mk { task with turns := task.turns + 1 } [] []
      (some .implementing) none).toState config id agent pending) := by
  refine reachable_step reachable (?_ : (pipeline config).step _ (.look (.implementer 0)) = _)
  obtain ⟨inRange, _⟩ := List.getElem?_eq_some_iff.mp isFirst
  have starts : config.starts (.implementer 0) = true := decide_eq_true inRange
  show look config _ (.implementer 0) = _
  rw [look_eq starts rfl rfl]
  dsimp only
  rw [isFirst, Option.bind_some]
  unfold lookForWork
  rw [scene_rework]
  dsimp only
  rw [scene_setRework]
  unfold State.implement
  rw [scene_task, scene_setTask, scene_hold_implementer]

/-- The task gets a turn, and the lead sends it back. -/
theorem reachable_rejected (isFirst : config.implementers[0]? = some agent)
    (reviewed : config.review = true) (tasks : config.tasks ≠ []) {task : Task}
    (notFinal : task.final = false) (reachable : Reachable config
      ((Scene.mk task [] [] (some .implementing) none).toState config id agent pending)) :
    Reachable config ((Scene.mk { task with
        agent := some (task.agent.getD agent)
        rounds := task.rounds + 1
        reviews := task.reviews + 1 } [] [] none
      (some (.reviewed .revise))).toState config id agent pending) := by
  have turned := reachable_turn isFirst task reachable
  have passed := reachable_pass reviewed (by exact notFinal) turned
  exact reachable_verdict (reachable_look_lead reviewed tasks passed)

theorem reachable_first {rest : List Text} (isFirst : config.implementers[0]? = some agent)
    (isTasks : config.tasks = id :: rest) :
    Reachable config ((Scene.mk { Task.new with turns := 1 } [] []
      (some .implementing) none).toState config id agent rest) := by
  have starts : config.starts (.implementer 0) = true :=
    decide_eq_true (List.getElem?_eq_some_iff.mp isFirst).choose
  refine reachable_step ⟨fun _ => false, [], rfl⟩
    (?_ : (pipeline config).step _ (.look (.implementer 0)) = _)
  show look config _ (.implementer 0) = _
  rw [look_eq starts rfl rfl]
  dsimp only
  rw [isFirst, Option.bind_some]
  have same : ({ start config fun _ => false with pending := rest } : State) =
      (Scene.mk Task.new [] [] none none).toState config id agent rest := by
    unfold Scene.toState
    rw [Function.update_eq_self, Function.update_eq_self, scene_none]
    rfl
  have isPending : (start config fun _ => false).pending = id :: rest := isTasks
  unfold lookForWork
  rw [isPending]
  show some (State.implement { start config fun _ => false with pending := rest } _ id) = _
  rw [same]
  unfold State.implement
  rw [scene_task, scene_setTask, scene_hold_implementer]
  rfl

theorem not_spent_of_lt {task : Task} (isBudget : config.reviewBudget = some budget)
    (few : task.reviews < budget) : config.spent task = false := by
  unfold Config.spent
  rw [isBudget]
  exact decide_eq_false (Nat.not_le.mpr few)

/-- As long as the budget leaves reviews, the task is sent back after each turn. -/
theorem exists_rejected {rest : List Text} (isFirst : config.implementers[0]? = some agent)
    (reviewed : config.review = true) (isTasks : config.tasks = id :: rest)
    (isBudget : config.reviewBudget = some budget) (large : config.maxRounds + 1 < budget)
    {turns : ℕ} (few : turns ≤ config.maxRounds) :
    ∃ task : Task, task.agent = some agent ∧ task.final = false ∧ task.rounds = turns + 1 ∧
      task.reviews = turns + 1 ∧ Reachable config ((Scene.mk task [] [] none
        (some (.reviewed .revise))).toState config id agent rest) := by
  have tasks : config.tasks ≠ [] := by
    rw [isTasks]
    exact List.cons_ne_nil _ _
  induction turns with
  | zero => exact ⟨_, rfl, rfl, rfl, rfl, reachable_rejected isFirst reviewed tasks rfl
      (reachable_first isFirst isTasks)⟩
  | succ turns inductionHypothesis =>
    obtain ⟨task, started, notFinal, rounds, reviews, reachable⟩ :=
      inductionHypothesis (Nat.le_of_succ_le few)
    have unspent := not_spent_of_lt isBudget (show task.reviews < budget by omega)
    have again := reachable_look_rework isFirst
      (reachable_rework started notFinal unspent (rounds ▸ few) reachable)
    have rejected := reachable_rejected isFirst reviewed tasks (by exact notFinal) again
    refine ⟨_, ?_, ?_, ?_, ?_, rejected⟩
    · dsimp only
      rw [started]
      rfl
    · exact notFinal
    · exact congrArg (· + 1) rounds
    · exact congrArg (· + 1) reviews

end Run

/-- A budget that leaves reviews after the last round lets the lead fix. -/
theorem exists_fixing (isBudget : config.reviewBudget = some budget)
    (allows : ¬config.RulesOutFix budget) : ∃ state, Reachable config state ∧
      ¬KeepsBudget state budget := by
  unfold Config.RulesOutFix at allows
  push Not at allows
  obtain ⟨large, reviewed, tasks⟩ := allows
  rw [ne_eq, Bool.not_eq_false] at reviewed
  obtain ⟨id, rest, isTasks⟩ := List.exists_cons_of_ne_nil tasks
  obtain ⟨agent, others, isAgents⟩ := List.exists_cons_of_ne_nil config.staffed
  have isFirst : config.implementers[0]? = some agent := by
    rw [isAgents]
    rfl
  obtain ⟨task, _, notFinal, rounds, reviews, reachable⟩ :=
    exists_rejected isFirst reviewed isTasks isBudget large le_rfl
  have unspent := not_spent_of_lt isBudget (show task.reviews < budget by omega)
  have fixing := reachable_fixing notFinal unspent (by omega) reachable
  exact ⟨_, fixing, fun keeps => keeps.hands config.leadThread id scene_lead⟩

theorem keepsBudget_iff (isBudget : config.reviewBudget = some budget) :
    (∀ state, Reachable config state → KeepsBudget state budget) ↔ config.RulesOutFix budget := by
  refine ⟨fun keeps => ?_, fun rulesOut state => keepsBudget_of_rulesOut isBudget rulesOut⟩
  by_contra allows
  obtain ⟨state, reachable, fails⟩ := exists_fixing isBudget allows
  exact fails (keeps state reachable)

theorem example_keepsBudget_iff :
    (∀ state, Reachable exampleConfig state → KeepsBudget state 1) ↔
      exampleConfig.RulesOutFix 1 :=
  keepsBudget_iff rfl

/-- A larger budget than there are rounds. -/
def largeConfig : Config := { exampleConfig with
  reviewBudget := some 4
  positive := by decide
  budgeted := fun _ => rfl }

/-- The worker sends the first task back again and again, and then fixes it. -/
def sentBackEvents : List Event :=
  [.look (.implementer 0)] ++
  (List.replicate 2 [.act (.implementer 0) .turn, .act (.implementer 0) .pass, .look (.lane 0),
    .act (.lane 0) (.verdict .revise), .act (.lane 0) .pass, .look (.implementer 0)]).flatten ++
  [.act (.implementer 0) .turn, .act (.implementer 0) .pass, .look (.lane 0),
    .act (.lane 0) (.verdict .revise), .act (.lane 0) .pass]

theorem worker_fixes : ¬∀ state, Reachable largeConfig state → KeepsBudget state 4 := by
  intro keeps
  have fixing : ((pipeline largeConfig).run (start largeConfig fun _ => true)
      sentBackEvents).map (fun state => state.hands (.lane 0)) = some (some (text "t1", .fixing)) := by
    decide
  obtain ⟨state, ran, held⟩ := Option.map_eq_some_iff.mp fixing
  exact (keeps state ⟨_, _, ran⟩).hands _ _ held

end Workforce

end LocalGpuCluster
