/-
This file proves that no task of the pipeline gets lost or is handled twice. Each event has one of the
three effects on the tasks, so a task that is not recorded is at one place in each state of a run, and
its counters fit that place.
-/

import LocalGpuCluster.WorkforceMoves

namespace LocalGpuCluster

namespace Workforce

variable {config : Config} {state next : State} {id other : Text} {thread : Thread} {stage : Stage}
  {agent : Text} {task : Task}

/-! ### The counters of a task -/

theorem lastTurn_new (config : Config) : LastTurn config Task.new :=
  Or.inl ⟨rfl, Nat.zero_le _, fun budget isBudget => config.positive budget isBudget⟩

theorem bounded_new (config : Config) : Bounded config Task.new where
  agent _ isAgent := by cases isAgent
  turns := Nat.zero_le _
  reviews _ _ := Nat.zero_le _
  reviewInfra := Nat.zero_le _
  forceLead := by decide
  fixes positive := absurd positive (lt_irrefl 0)

/-- A task whose reviews are as many as its turns may get one more turn. -/
theorem turns_lt_turnLimit (last : LastTurn config task) (turns : task.turns = task.reviews) :
    task.turns + 1 ≤ config.turnLimit := by
  unfold Config.turnLimit
  rw [turns]
  split
  · rename_i unlimited
    obtain ⟨_, few, _⟩ | ⟨_, budget⟩ := last
    · omega
    · rw [unlimited] at budget
      cases budget
  · rename_i budget isBudget
    obtain ⟨_, _, few⟩ | ⟨_, used⟩ := last
    · have := few budget isBudget
      omega
    · rw [isBudget] at used
      have := Option.some.inj used
      omega

theorem placeFits_hold (starts : config.starts thread = true)
    (fits : StageFits config (state.task id) thread stage) :
    PlaceFits config (state.hold thread id stage) id (.hands thread) := by
  refine ⟨starts, fun found holds => ?_⟩
  change Function.update state.hands thread _ thread = _ at holds
  rw [Function.update_self] at holds
  cases holds
  exact fits

theorem placeFits_rework (same : state.task id = task)
    (fits : task.agent = some agent ∧ task.turns = task.rounds ∧ task.rounds = task.reviews ∧
      LastTurn config task) : PlaceFits config state id (.rework agent) := by
  unfold PlaceFits
  rw [same]
  exact fits

theorem setTask_task (state : State) (id : Text) (task : Task) :
    (state.setTask id task).task id = task :=
  Function.update_self ..

/-! ### What a look does -/

/-- A task that waited for an implementer starts its next turn. -/
theorem effect_implement {source : Place} {taken : State} (present : 0 < state.count id source)
    (starts : config.starts thread = true) (idle : state.hands thread = none) (frame : Frame state taken id)
    (same : taken.task id = state.task id)
    (counts : ∀ other place, taken.count other place +
      (if other = id ∧ place = source then 1 else 0) = state.count other place)
    (ready : PlaceFits config state id source → (state.task id).turns = (state.task id).rounds ∧
      (state.task id).rounds = (state.task id).reviews ∧ LastTurn config (state.task id)) :
    Effect config state (taken.implement thread id) := by
  refine .moved id source (.hands thread) present (moves_hold idle ⟨fun other distinct => ?_,
    frame.hands, frame.records, frame.done, frame.exited⟩ fun other place => ?_)
    fun fits bounded => ?_
  · exact (Function.update_of_ne distinct _ _).trans (frame.tasks other distinct)
  · rw [count_setTask]
    exact counts other place
  · obtain ⟨turns, rounds, last⟩ := ready fits
    have after : (taken.implement thread id).task id =
        { state.task id with turns := (state.task id).turns + 1 } := by
      rw [← same]
      exact setTask_task ..
    refine ⟨placeFits_hold starts ?_, ?_⟩
    · rw [setTask_task, same]
      exact ⟨congrArg (· + 1) turns, rounds, last⟩
    · rw [after]
      exact ⟨bounded.agent, turns_lt_turnLimit last (turns.trans rounds), bounded.reviews,
        bounded.reviewInfra, bounded.forceLead, bounded.fixes⟩

theorem effect_exit (finished : state.finished config = true) :
    Effect config state (state.exit thread) := by
  refine .quiet ⟨state.up, _, rfl⟩ fun other exited => ?_
  exact .inr finished

theorem effect_lookForWork (starts : config.starts thread = true) (idle : state.hands thread = none)
    (looked : lookForWork config state thread agent = some next) : Effect config state next := by
  unfold lookForWork at looked
  split at looked
  · rename_i id rest queue
    obtain rfl := Option.some.inj looked
    have present : 0 < state.count id (.rework agent) := by
      show 0 < (state.rework agent).count id
      rw [queue]
      exact count_cons_pos rest
    refine effect_implement present starts idle ⟨fun _ _ => rfl, rfl, rfl, rfl, rfl⟩ rfl
      (counts_of_queue (fun other => ?_) fun other place => count_of_rework rfl rfl rfl rfl)
      fun fits => fits.2
    show (Function.update state.rework agent rest agent).count other + _ =
      (state.rework agent).count other
    rw [Function.update_self, queue]
    exact count_cons_eq rest
  · split at looked
    · rename_i id rest queue
      obtain rfl := Option.some.inj looked
      have present : 0 < state.count id .pending := by
        show 0 < state.pending.count id
        rw [queue]
        exact count_cons_pos rest
      refine effect_implement present starts idle ⟨fun _ _ => rfl, rfl, rfl, rfl, rfl⟩ rfl
        (counts_of_queue (fun other => ?_) fun other place => count_of_pending rfl rfl rfl)
        fun fits => ?_
      · show rest.count other + _ = state.pending.count other
        rw [queue]
        exact count_cons_eq rest
      · rw [show state.task id = Task.new from fits]
        exact ⟨rfl, rfl, lastTurn_new config⟩
    · split at looked
      · rename_i finished
        obtain rfl := Option.some.inj looked
        exact effect_exit finished
      · cases looked

/-- A lane takes a task that it may take. -/
theorem effect_lookForReview {index : ℕ} {lane : Lane}
    (starts : config.starts (.lane index) = true) (idle : state.hands (.lane index) = none)
    (isLane : config.lane index = some lane)
    (looked : lookForReview config state (.lane index) lane = some next) :
    Effect config state next := by
  unfold lookForReview at looked
  split at looked
  · rename_i finished
    obtain rfl := Option.some.inj looked
    exact effect_exit finished
  · split at looked
    · rename_i id first
      obtain rfl := Option.some.inj looked
      have isEligible := List.find?_some first
      have present : 0 < state.count id .lead :=
        List.count_pos_iff.mpr (List.mem_of_find?_eq_some first)
      refine .moved id .lead (.hands (.lane index)) present
        (moves_hold idle ⟨fun _ _ => rfl, rfl, rfl, rfl, rfl⟩ (counts_of_queue
          (count_eraseP first) fun other place => count_of_leadQ rfl rfl rfl))
        fun fits bounded => ⟨placeFits_hold starts ?_, bounded⟩
      · obtain ⟨started, may⟩ := fits
        refine ⟨started, may, fun other found same isFound isWorker => ?_⟩
        obtain rfl := Thread.lane.inj same
        obtain rfl := Option.some.inj (isLane.symm.trans isFound)
        unfold eligible at isEligible
        rw [if_neg isWorker, Bool.and_eq_true, Bool.not_eq_true'] at isEligible
        exact isEligible.1
    · cases looked

/-! ### What a deed does -/

/-- The counts when a task joins the queue at one place. -/
theorem counts_of_joined {target : Place}
    (there : ∀ other, next.count other target =
      state.count other target + if other = id then 1 else 0)
    (elsewhere : ∀ other place, place ≠ target → next.count other place = state.count other place)
    (other : Text) (place : Place) :
    next.count other place =
      state.count other place + if other = id ∧ place = target then 1 else 0 := by
  by_cases same : place = target
  · subst same
    simp only [and_true]
    exact there other
  · rw [if_neg fun both => same both.2, Nat.add_zero]
    exact elsewhere other place same

theorem count_append_eq (queue : List Text) :
    (queue ++ [id]).count other = queue.count other + if other = id then 1 else 0 := by
  rw [List.count_append, ← count_cons_eq, List.count_nil, Nat.zero_add]

theorem effect_turn {index : ℕ} (held : state.hands thread = some (id, .implementing))
    (isAgent : config.implementers[index]? = some agent) :
    Effect config state ((state.setTask id { state.task id with
      agent := some ((state.task id).agent.getD agent)
      rounds := (state.task id).rounds + 1 }).hold thread id .implemented) := by
  refine .moved id (.hands thread) (.hands thread) (count_hands_pos held) (moves_keep held)
    fun fits bounded => ⟨placeFits_hold fits.1 ?_, ?_⟩
  · obtain ⟨turns, rounds, last⟩ := fits.2 _ held
    rw [setTask_task]
    exact ⟨Option.some_ne_none _, turns, congrArg (· + 1) rounds, last⟩
  · show Bounded config ((state.setTask id _).task id)
    rw [setTask_task]
    refine ⟨fun name isName => ?_, bounded.turns, bounded.reviews, bounded.reviewInfra,
      bounded.forceLead, bounded.fixes⟩
    rw [← Option.some.inj isName]
    cases first : (state.task id).agent with
    | none => exact List.mem_of_getElem? isAgent
    | some found => exact bounded.agent found first

theorem effect_afterTurn (held : state.hands thread = some (id, .implemented)) :
    Effect config state (afterTurn config state thread id) := by
  unfold afterTurn
  split
  · exact .recorded thread id _ _ held rfl
  · rename_i reviewed
    split
    · exact .recorded thread id _ _ held rfl
    · rename_i notFinal
      refine .moved id (.hands thread) .lead (count_hands_pos held)
        (moves_release held ⟨fun _ _ => rfl, rfl, rfl, rfl, rfl⟩ Place.noConfusion
          (counts_of_joined (fun other => count_append_eq _)
            fun other place => count_of_leadQ rfl rfl rfl))
        fun fits bounded => ⟨?_, bounded⟩
      · obtain ⟨started, turns, rounds, ⟨may, few, budget⟩ | ⟨isFinal, _⟩⟩ := fits.2 _ held
        · exact ⟨started, by simpa using reviewed, turns, rounds, may, few, budget⟩
        · exact absurd isFinal notFinal

theorem effect_workerFailed {index : ℕ} {lane : Lane}
    (held : state.hands (.lane index) = some (id, .reviewing))
    (isLane : config.lane index = some lane) (isWorker : lane.name ≠ lead) :
    Effect config state (workerFailed state (.lane index) lane.url id) := by
  unfold workerFailed
  refine .moved id (.hands (.lane index)) .lead (count_hands_pos held)
    (moves_release held ⟨fun other distinct => Function.update_of_ne distinct _ _, rfl, rfl, rfl, rfl⟩
      Place.noConfusion (counts_of_joined (fun other => (count_cons_eq _).symm)
        fun other place => count_of_leadQ rfl rfl rfl))
    fun fits bounded => ?_
  · obtain ⟨started, may, notForced⟩ := fits.2 _ held
    have free := notForced index lane rfl isLane isWorker
    have few : (state.task id).reviewInfra < maxReviewInfra := by
      refine lt_of_le_of_ne bounded.reviewInfra fun all => ?_
      rw [bounded.forceLead.mpr all] at free
      cases free
    have after (up : Text → Bool) (leadQ : List Text) :
        (({ state.setTask id { state.task id with
            reviewInfra := (state.task id).reviewInfra + 1
            forceLead := (state.task id).forceLead ||
              maxReviewInfra ≤ (state.task id).reviewInfra + 1 } with
          leadQ, up } : State).release (.lane index)).task id =
        { state.task id with
          reviewInfra := (state.task id).reviewInfra + 1
          forceLead := maxReviewInfra ≤ (state.task id).reviewInfra + 1 } := by
      refine (setTask_task ..).trans ?_
      rw [free, Bool.false_or]
    refine ⟨⟨?_, ?_⟩, ?_⟩
    · rw [after]
      exact started
    · rw [after]
      exact may
    · rw [after]
      refine ⟨bounded.agent, bounded.turns, bounded.reviews, few, ?_, bounded.fixes⟩
      rw [decide_eq_true_eq]
      exact ⟨fun many => le_antisymm few many, fun all => all.ge⟩

theorem effect_verdict (held : state.hands thread = some (id, .reviewing)) (verdict : Verdict) :
    Effect config state ((state.setTask id { state.task id with
      reviews := (state.task id).reviews + 1 }).hold thread id (.reviewed verdict)) := by
  refine .moved id (.hands thread) (.hands thread) (count_hands_pos held) (moves_keep held)
    fun fits bounded => ?_
  obtain ⟨started, ⟨reviewed, turns, rounds, notFinal, few, budget⟩, _⟩ := fits.2 _ held
  refine ⟨placeFits_hold fits.1 ?_, ?_⟩
  · rw [setTask_task]
    exact ⟨reviewed, started, turns, rounds, notFinal, Nat.succ_pos _, Nat.succ_le_succ few, budget⟩
  · show Bounded config ((state.setTask id _).task id)
    rw [setTask_task]
    exact ⟨bounded.agent, bounded.turns, budget, bounded.reviewInfra, bounded.forceLead,
      bounded.fixes⟩

theorem spent_iff : config.spent task = true ↔
    ∃ budget ∈ config.reviewBudget, budget ≤ task.reviews := by
  unfold Config.spent
  cases config.reviewBudget with
  | none => simp
  | some budget => simp

/-- After a review without an approval, a task whose budget is used up has one turn left, and one
whose budget is not has no more than the rounds it may get. -/
theorem lastTurn_of_reviewed {verdict : Verdict}
    (fits : StageFits config task thread (.reviewed verdict))
    (again : (task.final || config.spent task || task.rounds ≤ config.maxRounds) = true) :
    LastTurn config { task with final := task.final || config.spent task } := by
  obtain ⟨_, _, _, rounds, notFinal, _, _, budget⟩ := fits
  rw [notFinal, Bool.false_or, Bool.or_eq_true, decide_eq_true_eq] at again
  rw [notFinal, Bool.false_or]
  by_cases isSpent : config.spent task = true
  · obtain ⟨limit, isLimit, used⟩ := spent_iff.mp isSpent
    refine .inr ⟨isSpent, ?_⟩
    rw [Option.mem_def.mp isLimit, le_antisymm used (budget limit isLimit)]
  · refine .inl ⟨by simpa using isSpent, ?_, fun limit isLimit => ?_⟩
    · exact rounds ▸ again.resolve_left isSpent
    · exact not_le.mp fun used => isSpent (spent_iff.mpr ⟨limit, isLimit, used⟩)

/-- A lead fix needs a budget that is larger than the number of turns. -/
theorem lt_of_fixing {verdict : Verdict} (fits : StageFits config task thread (.reviewed verdict))
    (noMore : ¬(task.final || config.spent task || task.rounds ≤ config.maxRounds) = true) :
    config.review = true ∧ ∀ budget ∈ config.reviewBudget, config.maxRounds + 1 < budget := by
  obtain ⟨reviewed, _, _, rounds, _, _, _, _⟩ := fits
  rw [Bool.or_eq_true, Bool.or_eq_true, decide_eq_true_eq] at noMore
  push Not at noMore
  refine ⟨reviewed, fun limit isLimit => ?_⟩
  have unused : task.reviews < limit :=
    not_le.mp fun used => noMore.1.2 (spent_iff.mpr ⟨limit, isLimit, used⟩)
  have := noMore.2
  omega

/-- A review without an approval ends in a rework, or in a lead fix. -/
theorem effect_afterReview {verdict : Verdict}
    (held : state.hands thread = some (id, .reviewed verdict)) :
    Effect config state (afterReview config state thread id verdict) := by
  have rejected : Effect config state (afterReview config state thread id .revise) := by
    unfold afterReview
    dsimp only
    split
    · rename_i again
      split
      · rename_i agent isAgent
        refine .moved id (.hands thread) (.rework agent) (count_hands_pos held)
          (moves_release held ⟨fun other distinct => Function.update_of_ne distinct _ _, rfl, rfl,
            rfl, rfl⟩ Place.noConfusion (counts_of_joined (fun other => ?_)
              fun other place => count_of_rework rfl rfl rfl rfl)) fun fits bounded => ?_
        · show (Function.update state.rework agent _ agent).count other = _
          rw [Function.update_self]
          exact count_append_eq _
        · have last := lastTurn_of_reviewed (fits.2 _ held) again
          obtain ⟨_, _, turns, rounds, _⟩ := fits.2 _ held
          have after := setTask_task state id { state.task id with
            final := (state.task id).final || config.spent (state.task id) }
          refine ⟨placeFits_rework after ⟨isAgent, turns, rounds, last⟩, ?_⟩
          show Bounded config ((state.setTask id _).task id)
          rw [after]
          exact ⟨bounded.agent, bounded.turns, bounded.reviews, bounded.reviewInfra,
            bounded.forceLead, bounded.fixes⟩
      · exact .recorded thread id _ _ held rfl
    · rename_i noMore
      refine .moved id (.hands thread) (.hands thread) (count_hands_pos held) (moves_keep held)
        fun fits bounded => ⟨placeFits_hold fits.1 ?_, ?_⟩
      · rw [setTask_task]
        exact Nat.succ_pos _
      · show Bounded config ((state.setTask id _).task id)
        rw [setTask_task]
        exact ⟨bounded.agent, bounded.turns, bounded.reviews, bounded.reviewInfra,
          bounded.forceLead, fun _ => lt_of_fixing (fits.2 _ held) noMore⟩
  cases verdict with
  | accept => exact .recorded thread id _ _ held rfl
  | revise => exact rejected
  | none => exact rejected

theorem effect_perform {deed : Deed} (held : state.hands thread = some (id, stage))
    (performed : perform config state thread id deed stage = some next) :
    Effect config state next := by
  unfold perform at performed
  split at performed
  · obtain rfl := Option.some.inj performed
    exact .recorded thread id _ _ held rfl
  · split at performed
    · rename_i index
      obtain ⟨agent, isAgent, rfl⟩ := Option.map_eq_some_iff.mp performed
      exact effect_turn held isAgent
    · cases performed
  · obtain rfl := Option.some.inj performed
    exact .recorded thread id _ _ held rfl
  · obtain rfl := Option.some.inj performed
    exact effect_afterTurn held
  · split at performed
    · cases performed
    · obtain ⟨lane, isLane, worked⟩ := Option.bind_eq_some_iff.mp performed
      split at worked
      · cases worked
      · rename_i isWorker
        obtain rfl := Option.some.inj worked
        exact effect_workerFailed held isLane isWorker
  · obtain rfl := Option.some.inj performed
    exact effect_verdict held _
  · obtain rfl := Option.some.inj performed
    exact effect_afterReview held
  · obtain rfl := Option.some.inj performed
    exact .recorded thread id _ _ held rfl
  · cases performed

/-- Each event has one of the three effects. -/
theorem effect_step {event : Event} (stepped : (pipeline config).step state event = some next) :
    Effect config state next := by
  cases event with
  | health up =>
    obtain rfl := Option.some.inj stepped
    exact .quiet ⟨up, state.exited, rfl⟩ fun _ => Or.inl
  | look thread =>
    change look config state thread = some next at stepped
    unfold look at stepped
    split at stepped
    · cases stepped
    · rename_i waits
      rw [Bool.or_eq_true, not_or, Bool.not_eq_true, Bool.not_eq_false', Bool.not_eq_true,
        Bool.not_eq_false'] at waits
      obtain ⟨starts, waits⟩ := waits
      have idle : state.hands thread = none :=
        Option.isNone_iff_eq_none.mp (Bool.and_eq_true_iff.mp waits).1
      split at stepped
      · obtain ⟨agent, _, looked⟩ := Option.bind_eq_some_iff.mp stepped
        exact effect_lookForWork starts idle looked
      · obtain ⟨lane, isLane, looked⟩ := Option.bind_eq_some_iff.mp stepped
        exact effect_lookForReview starts idle isLane looked
  | act thread deed =>
    obtain ⟨⟨id, stage⟩, held, performed⟩ := Option.bind_eq_some_iff.mp stepped
    exact effect_perform held performed

/-! ### The invariant -/

structure Conserved (config : Config) (state : State) : Prop where
  placed : ∀ id ∈ config.tasks, id ∉ state.recorded → ∃ place, state.Sole id place
  gone : ∀ id, (id ∈ config.tasks → id ∈ state.recorded) → ∀ place, state.count id place = 0
  once : state.recorded.Nodup
  known : state.recorded ⊆ config.tasks
  done : state.done = state.records.length
  fits : ∀ id place, 0 < state.count id place → PlaceFits config state id place
  bounded : ∀ id, Bounded config (state.task id)
  unknown : ∀ id, id ∉ config.tasks → state.task id = Task.new
  ended : ∀ thread, state.exited thread = true → state.finished config = true

/-- As many records as tasks are records of all of them. -/
theorem finished_iff (conserved : Conserved config state) :
    state.finished config = true ↔ ∀ id ∈ config.tasks, id ∈ state.recorded := by
  have length : state.done = state.recorded.length := by
    rw [conserved.done, State.recorded, List.length_map]
  have subset := List.subperm_of_subset conserved.once conserved.known
  unfold State.finished
  rw [decide_eq_true_eq, length]
  refine ⟨fun same id member => ?_, fun all => ?_⟩
  · exact (subset.perm_of_length_le same.ge).mem_iff.mpr member
  · exact le_antisymm subset.length_le (List.subperm_of_subset config.unique all).length_le

/-- A task that is somewhere is not recorded, and it is nowhere else. -/
theorem sole_of_present {place : Place} (conserved : Conserved config state)
    (present : 0 < state.count id place) :
    id ∈ config.tasks ∧ id ∉ state.recorded ∧ state.Sole id place := by
  have isOpen : ¬(id ∈ config.tasks → id ∈ state.recorded) := fun closed =>
    present.ne' (conserved.gone id closed place)
  rw [Classical.not_imp] at isOpen
  obtain ⟨source, sole⟩ := conserved.placed id isOpen.1 isOpen.2
  have same : place = source := by
    by_contra distinct
    exact present.ne' (sole.2 place distinct)
  exact ⟨isOpen.1, isOpen.2, same ▸ sole⟩

theorem placeFits_of_same {place : Place} (tasks : next.task id = state.task id)
    (hands : ∀ thread stage, next.hands thread = some (id, stage) →
      state.hands thread = some (id, stage))
    (fits : PlaceFits config state id place) : PlaceFits config next id place := by
  cases place with
  | pending => exact tasks.trans fits
  | rework agent => exact placeFits_rework tasks fits
  | lead =>
    unfold PlaceFits
    rw [tasks]
    exact fits
  | hands thread =>
    refine ⟨fits.1, fun stage holds => ?_⟩
    rw [tasks]
    exact fits.2 stage (hands thread stage holds)

/-- At the start all tasks are in the queue of new ones. -/
theorem count_start {up : Text → Bool} {place : Place} (distinct : place ≠ .pending) :
    (start config up).count id place = 0 := by
  cases place with
  | pending => exact absurd rfl distinct
  | rework name => rfl
  | lead => rfl
  | hands thread => rfl

theorem conserved_start (config : Config) (up : Text → Bool) : Conserved config (start config up)
    where
  placed id member _ := by
    exact ⟨.pending, List.count_eq_one_of_mem config.unique member, fun _ => count_start⟩
  gone id recorded place := by
    by_cases inQueue : place = .pending
    · subst inQueue
      exact List.count_eq_zero.mpr fun member => List.not_mem_nil (recorded member)
    · exact count_start inQueue
  once := List.nodup_nil
  known := List.nil_subset _
  done := rfl
  fits id place present := by
    by_cases inQueue : place = .pending
    · subst inQueue
      rfl
    · exact absurd (count_start inQueue) present.ne'
  bounded _ := bounded_new config
  unknown _ _ := rfl
  ended _ exited := by cases exited

theorem conserved_quiet (conserved : Conserved config state)
    (same : ∃ up exited, next = { state with up, exited })
    (exits : ∀ thread, next.exited thread = true →
      state.exited thread = true ∨ state.finished config = true) : Conserved config next := by
  obtain ⟨up, exited, rfl⟩ := same
  have counts (id : Text) (place : Place) :
      ({ state with up, exited } : State).count id place = state.count id place := by
    cases place <;> rfl
  refine ⟨fun id member unrecorded => ?_, fun id recorded place => ?_, conserved.once,
    conserved.known, conserved.done, fun id place present => ?_, conserved.bounded,
    conserved.unknown, fun thread isExited => ?_⟩
  · obtain ⟨place, sole⟩ := conserved.placed id member unrecorded
    exact ⟨place, (counts id place).trans sole.1,
      fun other distinct => (counts id other).trans (sole.2 other distinct)⟩
  · exact (counts id place).trans (conserved.gone id recorded place)
  · rw [counts] at present
    exact placeFits_of_same rfl (fun _ _ holds => holds) (conserved.fits id place present)
  · exact (exits thread isExited).elim (conserved.ended thread) fun finished => finished

theorem conserved_moved {source target : Place} (conserved : Conserved config state)
    (present : 0 < state.count id source) (moves : Moves state next id source target)
    (fits : PlaceFits config state id source → Bounded config (state.task id) →
      PlaceFits config next id target ∧ Bounded config (next.task id)) :
    Conserved config next := by
  obtain ⟨member, unrecorded, sole⟩ := sole_of_present conserved present
  have recorded : next.recorded = state.recorded := congrArg (List.map Prod.fst) moves.records
  obtain ⟨fitsNext, boundedNext⟩ := fits (conserved.fits id source present) (conserved.bounded id)
  have counts := moves.count_self sole
  have others (other : Text) (distinct : other ≠ id) (place : Place) :
      next.count other place = state.count other place := moves.count_other distinct
  refine ⟨fun other isTask isOpen => ?_, fun other isRecorded place => ?_, recorded ▸ conserved.once,
    recorded ▸ conserved.known, ?_, fun other place positive => ?_, fun other => ?_,
    fun other isUnknown => ?_, fun thread isExited => ?_⟩
  · by_cases same : other = id
    · subst same
      refine ⟨target, by rw [counts, if_pos rfl], fun place distinct => ?_⟩
      rw [counts, if_neg distinct]
    · obtain ⟨place, alone⟩ := conserved.placed other isTask (recorded ▸ isOpen)
      exact ⟨place, (others other same place).trans alone.1,
        fun place distinct => (others other same place).trans (alone.2 place distinct)⟩
  · rw [recorded] at isRecorded
    have distinct : other ≠ id := fun same => unrecorded (same ▸ isRecorded (same ▸ member))
    exact (others other distinct place).trans (conserved.gone other isRecorded place)
  · rw [moves.done, moves.records]
    exact conserved.done
  · by_cases same : other = id
    · subst same
      rw [counts] at positive
      have there : place = target := by
        by_contra distinct
        rw [if_neg distinct] at positive
        cases positive
      exact there ▸ fitsNext
    · rw [others other same] at positive
      exact placeFits_of_same (moves.tasks other same)
        (fun thread stage => moves.hands thread other stage same)
        (conserved.fits other place positive)
  · by_cases same : other = id
    · exact same ▸ boundedNext
    · rw [moves.tasks other same]
      exact conserved.bounded other
  · rw [moves.tasks other fun same => isUnknown (same ▸ member)]
    exact conserved.unknown other isUnknown
  · rw [moves.exited] at isExited
    have finished := conserved.ended thread isExited
    unfold State.finished at finished ⊢
    rwa [moves.done]

/-! ### What a record does -/

theorem complete_eq (outcome : Outcome) (unrecorded : id ∉ state.recorded) :
    state.complete id outcome =
      { state with records := state.records ++ [(id, outcome)], done := state.done + 1 } :=
  if_neg unrecorded

/-- A task that was recorded is nowhere any more. -/
theorem count_finish_self {outcome : Outcome} {place : Place} (sole : state.Sole id (.hands thread)) :
    (state.finish thread id outcome).count id place = 0 := by
  unfold State.finish
  rw [count_release, count_complete]
  split
  · rfl
  · rename_i distinct
    exact sole.2 place distinct

theorem count_finish_other {outcome : Outcome} {place : Place}
    (held : state.hands thread = some (id, stage)) (distinct : other ≠ id) :
    (state.finish thread id outcome).count other place = state.count other place := by
  unfold State.finish
  rw [count_release, count_complete]
  split
  · rename_i same
    rw [same, count_hands held, if_neg distinct]
  · rfl

theorem hands_finish {outcome : Outcome} {holder : Thread} {before : Stage}
    (unrecorded : id ∉ state.recorded)
    (holds : (state.finish thread id outcome).hands holder = some (other, before)) :
    state.hands holder = some (other, before) := by
  change Function.update (state.complete id outcome).hands thread none holder = _ at holds
  rw [complete_eq outcome unrecorded] at holds
  by_cases same : holder = thread
  · rw [same, Function.update_self] at holds
    cases holds
  · rwa [Function.update_of_ne same] at holds

theorem conserved_recorded {outcome : Outcome} (conserved : Conserved config state)
    (held : state.hands thread = some (id, stage)) :
    Conserved config (state.finish thread id outcome) := by
  obtain ⟨member, unrecorded, sole⟩ := sole_of_present conserved (count_hands_pos held)
  have complete := complete_eq outcome unrecorded
  have recorded : (state.finish thread id outcome).recorded = state.recorded ++ [id] := by
    show (state.complete id outcome).records.map Prod.fst = _
    rw [complete, List.map_append]
    rfl
  have counts (place : Place) : (state.finish thread id outcome).count id place = 0 :=
    count_finish_self sole
  have others (other : Text) (distinct : other ≠ id) (place : Place) :
      (state.finish thread id outcome).count other place = state.count other place :=
    count_finish_other held distinct
  have tasks : (state.finish thread id outcome).task = state.task := by
    show (state.complete id outcome).task = state.task
    rw [complete]
  refine ⟨fun other isTask isOpen => ?_, fun other isRecorded place => ?_, ?_, ?_, ?_,
    fun other place positive => ?_, fun other => ?_, fun other => ?_, fun holder isExited => ?_⟩
  · rw [recorded, List.mem_append, not_or, List.mem_singleton] at isOpen
    obtain ⟨place, alone⟩ := conserved.placed other isTask isOpen.1
    exact ⟨place, (others other isOpen.2 place).trans alone.1,
      fun place distinct => (others other isOpen.2 place).trans (alone.2 place distinct)⟩
  · by_cases same : other = id
    · exact same ▸ counts place
    · refine (others other same place).trans (conserved.gone other (fun isTask => ?_) place)
      have inBoth := isRecorded isTask
      rw [recorded, List.mem_append, List.mem_singleton] at inBoth
      exact inBoth.resolve_right same
  · rw [recorded]
    exact conserved.once.append (List.nodup_singleton id) (by simpa using unrecorded)
  · rw [recorded]
    exact List.append_subset.mpr ⟨conserved.known, by simpa using member⟩
  · show (state.complete id outcome).done = (state.complete id outcome).records.length
    rw [complete, List.length_append]
    exact congrArg (· + 1) conserved.done
  · have distinct : other ≠ id := fun same => by
      rw [same, counts] at positive
      cases positive
    rw [others other distinct] at positive
    exact placeFits_of_same (congrFun tasks other) (fun _ _ => hands_finish unrecorded)
      (conserved.fits other place positive)
  · rw [tasks]
    exact conserved.bounded other
  · rw [tasks]
    exact conserved.unknown other
  · have wasExited : state.exited holder = true := by
      change (state.complete id outcome).exited holder = true at isExited
      rwa [complete] at isExited
    exact absurd ((finished_iff conserved).mp (conserved.ended holder wasExited) id member)
      unrecorded

/-! ### Runs -/

theorem conserved_step {event : Event} (stepped : (pipeline config).step state event = some next)
    (conserved : Conserved config state) : Conserved config next := by
  cases effect_step stepped with
  | quiet same exits => exact conserved_quiet conserved same exits
  | moved id source target present moves fits => exact conserved_moved conserved present moves fits
  | recorded thread id stage outcome held same => exact same ▸ conserved_recorded conserved held

theorem conserved_of_reachable (reachable : Reachable config state) : Conserved config state := by
  obtain ⟨up, events, ran⟩ := reachable
  exact (pipeline config).run_invariant (Conserved config) (fun _ _ _ => conserved_step) ran
    (conserved_start config up)

end Workforce

end LocalGpuCluster
