/-
This file proves what becomes of the rows in any run of `History`, also in one that is not careful. A row
that was passed is at one place at most, committed, in the backlog or ahead of the writer, and what leaves
the line sets `_lost` in the same step. The queue and the backlog stay within their bounds.
-/

import LocalGpuCluster.HistoryFlush
import Mathlib.Data.List.Perm.Subperm

namespace LocalGpuCluster

namespace History

/-! ### Where the rows go -/

/-- What a step makes of the line: the fresh rows were passed in it, and are at its end or lost. -/
structure Moved (state next : State) (fresh : List Copy) : Prop where
  passed : next.passed = state.passed ++ fresh
  subperm : next.line.Subperm (state.line ++ fresh)
  /-- A step that loses a row notes it. -/
  perm : next.lost = false → next.line.Perm (state.line ++ fresh)

/-- The line is another order of what it was. -/
theorem Moved.of_perm {state next : State} {fresh : List Copy}
    (passed : next.passed = state.passed ++ fresh) (perm : next.line.Perm (state.line ++ fresh)) :
    Moved state next fresh :=
  ⟨passed, perm.subperm, fun _ => perm⟩

theorem Moved.of_lost {state next : State} {fresh : List Copy}
    (passed : next.passed = state.passed ++ fresh) (lost : next.lost = true)
    (subperm : next.line.Subperm (state.line ++ fresh)) : Moved state next fresh :=
  ⟨passed, subperm, fun kept => absurd lost (Bool.eq_false_iff.mp kept)⟩

/-- Where a row is that is handled: committed, in the backlog, or lost. -/
theorem Handled.moved {state next : State} {copy : Copy} {attempts : ℕ → Attempt}
    (handled : Handled state copy attempts next) :
    (next.inserted ++ next.backlog).Subperm (copy :: (state.inserted ++ state.backlog)) ∧
      (next.lost = false →
        (next.inserted ++ next.backlog).Perm (copy :: (state.inserted ++ state.backlog))) := by
  have behind (rows : List Copy) :
      (state.inserted ++ (rows ++ [copy])).Perm (copy :: (state.inserted ++ rows)) := by
    rw [← List.append_assoc]
    exact List.perm_append_singleton copy _
  cases handled with
  | committed ok =>
    have perm : (state.inserted ++ [copy] ++ state.backlog).Perm
        (copy :: (state.inserted ++ state.backlog)) := by
      rw [List.append_assoc]
      exact List.perm_middle
    exact ⟨perm.subperm, fun _ => perm⟩
  | dropped ok => exact ⟨(List.sublist_cons_self _ _).subperm, fun kept => by cases kept⟩
  | kept failed => exact ⟨(behind _).subperm, fun _ => behind _⟩
  | overflowed failed =>
    refine ⟨(behind _).subperm.trans ?_, fun kept => by cases kept⟩
    exact (((List.tail_sublist _).append_left _).cons_cons copy).subperm

/-- The writer handles the first of the rows that are not committed. -/
theorem Moved.of_handled {state before after next : State} {copy : Copy} {attempts : ℕ → Attempt}
    (handled : Handled before copy attempts after) (passed : before.passed = state.passed)
    (same : next = { after with writer := next.writer })
    (line : (copy :: (before.inserted ++ before.backlog) ++ rows next.ahead).Perm state.line) :
    Moved state next [] := by
  have fields : next.passed = after.passed ∧ next.lost = after.lost ∧
      next.line = after.inserted ++ after.backlog ++ rows next.ahead := by
    rw [same]
    exact ⟨rfl, rfl, rfl⟩
  obtain ⟨isPassed, isLost, isLine⟩ := fields
  obtain ⟨subperm, perm⟩ := handled.moved
  obtain ⟨_, _, _, _, unchanged⟩ := handled.same
  refine ⟨?_, ?_, fun kept => ?_⟩
  · rw [isPassed, unchanged, List.append_nil]
    exact passed
  · rw [isLine, List.append_nil]
    exact ((List.subperm_append_right _).mpr subperm).trans line.subperm
  · rw [isLine, List.append_nil]
    exact ((perm (isLost ▸ kept)).append_right _).trans line

theorem WriterStep.moved {state next : State} {event : WriterEvent}
    (stepped : WriterStep state event next) : Moved state next [] := by
  cases stepped with
  | get waiting queue => exact .of_perm (by simp) (by simp [State.line, State.ahead, waiting, queue])
  | tick waiting ok => exact .of_perm (by simp) (by simp [State.line, State.ahead, waiting])
  | skip taken => exact .of_perm (by simp) (by simp [State.line, State.ahead, taken])
  | recover taken => exact .of_perm (by simp) (by simp [State.line, State.ahead, taken])
  | unrecovered taken ok => exact .of_perm (by simp) (by simp [State.line, State.ahead, taken])
  | @replay item copy rest attempts recovering backlog ok =>
    have isHandled := handled { state with backlog := rest } copy attempts
    obtain ⟨_, _, _, _, same⟩ := isHandled.same
    refine .of_handled isHandled rfl rfl ?_
    have ahead : State.ahead ({ state with backlog := rest }.handleAdd copy attempts) = state.ahead := by
      rw [same]
      rfl
    rw [ahead, State.line, backlog]
    exact (List.perm_middle.symm).append_right _
  | replayed recovering drained =>
    exact .of_perm (by simp) (by simp [State.line, State.ahead, recovering])
  | @write copy attempts handling =>
    have isHandled := handled state copy attempts
    obtain ⟨_, _, _, _, same⟩ := isHandled.same
    refine .of_handled isHandled rfl rfl ?_
    have ahead : State.ahead { state.handleAdd copy attempts with writer := .waiting } = state.queue := by
      rw [same]
      rfl
    rw [ahead, State.line, State.ahead, handling, items_handling, List.singleton_append, rows_add]
    exact List.perm_middle.symm
  | answer handling => exact .of_perm (by simp) (by simp [State.line, State.ahead, handling])
  | clear answered => exact .of_perm (by simp) (by simp [State.line, State.ahead, answered])
  | signal cleared => exact .of_perm (by simp) (by simp [State.line, State.ahead, cleared])

theorem CallerStep.moved {state next : State} {event : CallerEvent}
    (stepped : CallerStep state event next) : ∃ fresh, Moved state next fresh ∧
      (fresh = [] ∨ ∃ row, fresh = [state.copy row]) := by
  cases stepped with
  | @rejected row idle refused =>
    exact ⟨_, .of_lost rfl rfl (List.sublist_append_left _ _).subperm, .inr ⟨row, rfl⟩⟩
  | @added row idle =>
    refine ⟨_, .of_perm rfl ?_, .inr ⟨row, rfl⟩⟩
    simp [State.line, State.ahead, State.pass]
  | full idle => exact ⟨[], .of_perm (by simp) (by simp [State.line, State.ahead]), .inl rfl⟩
  | @dropped row dropping =>
    exact ⟨_, .of_lost rfl rfl (List.sublist_append_left _ _).subperm, .inr ⟨row, rfl⟩⟩
  | flush idle => exact ⟨[], .of_perm (by simp) (by simp [State.line, State.ahead]), .inl rfl⟩
  | flushFull | timeOut | returns =>
    exact ⟨[], .of_perm (by simp [State.returned]) (by simp [State.line, State.ahead, State.returned]),
      .inl rfl⟩

/-! ### What a step keeps within its bounds -/

theorem length_handleAdd_le {state : State} (copy : Copy) (attempts : ℕ → Attempt)
    (within : state.backlog.length ≤ backlogMax) :
    (state.handleAdd copy attempts).backlog.length ≤ backlogMax := by
  have kept (ok : Bool) : ({ state with ok := ok }.keep copy).backlog.length ≤ backlogMax := by
    unfold State.keep
    split
    next full =>
      have full : state.backlog.length = backlogMax := full
      rw [List.length_append, List.length_tail, List.length_singleton, full]
      decide
    next space =>
      have space : state.backlog.length ≠ backlogMax := space
      change (state.backlog ++ [copy]).length ≤ backlogMax
      rw [List.length_append, List.length_singleton]
      omega
  unfold State.handleAdd
  split
  · split
    · exact within
    · exact within
    · exact kept false
  · exact kept state.ok

/-- The queue and the backlog are no longer than they may be. -/
structure Bounded (state : State) : Prop where
  queue : state.queue.length ≤ queueMax
  backlog : state.backlog.length ≤ backlogMax

theorem Bounded.of_writerStep {state next : State} {event : WriterEvent} (bounded : Bounded state)
    (stepped : WriterStep state event next) : Bounded next := by
  cases stepped with
  | get waiting queue =>
    have within := bounded.queue
    rw [queue, List.length_cons] at within
    exact ⟨Nat.le_of_succ_le within, bounded.backlog⟩
  | @replay item copy rest attempts recovering backlog ok =>
    obtain ⟨_, _, _, _, same⟩ := (handled { state with backlog := rest } copy attempts).same
    have within := bounded.backlog
    rw [backlog, List.length_cons] at within
    refine ⟨?_, length_handleAdd_le copy attempts (Nat.le_of_succ_le within)⟩
    rw [same]
    exact bounded.queue
  | @write copy attempts handling =>
    obtain ⟨_, _, _, _, same⟩ := (handled state copy attempts).same
    refine ⟨?_, length_handleAdd_le copy attempts bounded.backlog⟩
    rw [same]
    exact bounded.queue
  | tick | skip | recover | unrecovered | replayed | answer | clear | signal =>
    exact ⟨bounded.queue, bounded.backlog⟩

/-- The caller puts only accepted rows in the queue, and only where there is space. -/
theorem callerStep_puts {state next : State} {event : CallerEvent}
    (stepped : callerStep state event = some next) :
    next.writer = state.writer ∧ next.inserted = state.inserted ∧ next.backlog = state.backlog ∧
      (next.queue = state.queue ∨ ∃ item, next.queue = state.queue ++ [item] ∧
        state.queue.length < queueMax ∧ ∀ copy, item = .add copy → accepted copy.row = true) := by
  unfold callerStep at stepped
  split at stepped
  next row idle =>
    split at stepped
    next accepts =>
      split at stepped
      next space =>
        cases stepped
        refine ⟨rfl, rfl, rfl, .inr ⟨_, rfl, space, fun copy same => ?_⟩⟩
        cases same
        exact accepts
      next =>
        cases stepped
        exact ⟨rfl, rfl, rfl, .inl rfl⟩
    next =>
      cases stepped
      exact ⟨rfl, rfl, rfl, .inl rfl⟩
  next =>
    cases stepped
    exact ⟨rfl, rfl, rfl, .inl rfl⟩
  next =>
    split at stepped
    next space =>
      cases stepped
      exact ⟨rfl, rfl, rfl, .inr ⟨_, rfl, space, fun copy same => by cases same⟩⟩
    next => cases stepped
  next =>
    split at stepped
    next => cases stepped
    next =>
      cases stepped
      exact ⟨rfl, rfl, rfl, .inl rfl⟩
  next =>
    cases stepped
    exact ⟨rfl, rfl, rfl, .inl rfl⟩
  next =>
    split at stepped
    next =>
      cases stepped
      exact ⟨rfl, rfl, rfl, .inl rfl⟩
    next => cases stepped
  next => cases stepped

theorem Bounded.of_callerStep {state next : State} {event : CallerEvent} (bounded : Bounded state)
    (stepped : callerStep state event = some next) : Bounded next := by
  obtain ⟨-, -, backlog, same | ⟨item, longer, space, -⟩⟩ := callerStep_puts stepped
  · exact ⟨same ▸ bounded.queue, backlog ▸ bounded.backlog⟩
  · refine ⟨?_, backlog ▸ bounded.backlog⟩
    rw [longer, List.length_append, List.length_singleton]
    exact space

/-! ### Runs -/

/-- What is known of the rows in every state. -/
structure Conserved (state : State) : Prop where
  /-- A call of `add` has the number of the calls before it. -/
  numbers : state.passed.map Copy.number = List.range state.passed.length
  line : state.line.Subperm state.passed
  accepted : ∀ copy ∈ state.line, accepted copy.row = true
  bounded : Bounded state

theorem conserved_start (ok : Bool) : Conserved (start ok) :=
  ⟨rfl, List.nil_subperm, fun _ none => (by cases none), Nat.zero_le _, Nat.zero_le _⟩

theorem Conserved.of_writerStep {state next : State} {event : WriterEvent}
    (conserved : Conserved state) (stepped : WriterStep state event next) : Conserved next := by
  have moved := stepped.moved
  have passed : next.passed = state.passed := moved.passed.trans (List.append_nil _)
  have line : next.line.Subperm state.line := List.append_nil state.line ▸ moved.subperm
  exact {
    numbers := passed ▸ conserved.numbers
    line := passed ▸ line.trans conserved.line
    accepted := fun copy member => conserved.accepted copy (line.subset member)
    bounded := conserved.bounded.of_writerStep stepped }

theorem Conserved.of_callerStep {state next : State} {event : CallerEvent}
    (conserved : Conserved state) (stepped : callerStep state event = some next) :
    Conserved next := by
  obtain ⟨fresh, moved, isFresh⟩ := (callerStep_spec stepped).moved
  refine ⟨?_, ?_, fun copy member => ?_, conserved.bounded.of_callerStep stepped⟩
  · obtain rfl | ⟨row, rfl⟩ := isFresh
    · rw [moved.passed, List.append_nil]
      exact conserved.numbers
    · rw [moved.passed, List.map_append, conserved.numbers, List.length_append, List.length_singleton,
        List.range_succ]
      rfl
  · rw [moved.passed]
    exact moved.subperm.trans ((List.subperm_append_right _).mpr conserved.line)
  · obtain ⟨writer, inserted, backlog, puts⟩ := callerStep_puts stepped
    unfold State.line State.ahead at member
    rw [writer, inserted, backlog] at member
    obtain same | ⟨item, longer, -, accepts⟩ := puts
    · rw [same] at member
      exact conserved.accepted copy member
    · rw [longer, ← List.append_assoc, rows_append, ← List.append_assoc] at member
      obtain member | isItem := List.mem_append.mp member
      · exact conserved.accepted copy member
      · refine accepts copy ?_
        cases item with
        | add other => exact congrArg Item.add (List.mem_singleton.mp isItem).symm
        | noop flush => cases isItem

theorem Conserved.of_step {state next : State} {event : Event} (stepped : step state event = some next)
    (conserved : Conserved state) : Conserved next := by
  cases event with
  | caller event => exact conserved.of_callerStep stepped
  | writer event => exact conserved.of_writerStep (writerStep_spec stepped)

/-- In every state of every run, each row on the line was passed to its own call of `add` and was
accepted, no call has two rows there, and the queue and the backlog are within their bounds. -/
theorem rows_conserved {ok : Bool} {events : List Event} {finish : State}
    (ran : history.run (start ok) events = some finish) :
    (∀ copy ∈ finish.line, copy ∈ finish.passed ∧ accepted copy.row = true) ∧
      (finish.line.map Copy.number).Nodup ∧ finish.queue.length ≤ queueMax ∧
      finish.backlog.length ≤ backlogMax := by
  have conserved : Conserved finish :=
    history.run_invariant Conserved (fun _ _ _ => Conserved.of_step) ran (conserved_start ok)
  refine ⟨fun copy member => ⟨conserved.line.subset member, conserved.accepted copy member⟩, ?_,
    conserved.bounded.queue, conserved.bounded.backlog⟩
  have numbers : (finish.passed.map Copy.number).Nodup := conserved.numbers ▸ List.nodup_range
  obtain ⟨among, perm, less⟩ := conserved.line
  exact (perm.map Copy.number).nodup_iff.mp (numbers.sublist (less.map Copy.number))

/-- A row is passed, and the database is away when it is written. -/
def keptBack : List Event :=
  .caller (.add (sample 1)) :: take ++ [.writer (.write fun _ => .persistent)]

theorem keptBack_rows : ∃ finish, history.run (start true) keptBack = some finish ∧
    (∀ copy ∈ finish.line, copy ∈ finish.passed ∧ accepted copy.row = true) ∧
      (finish.line.map Copy.number).Nodup ∧ finish.queue.length ≤ queueMax ∧
      finish.backlog.length ≤ backlogMax :=
  ⟨_, rfl, rows_conserved (rfl : history.run (start true) keptBack = some _)⟩

/-- While `_lost` is not set, every row that was passed is committed, in the backlog or ahead of the
writer. -/
theorem line_perm_passed {ok : Bool} {events : List Event} {finish : State}
    (noted : history.Guarded (fun state event => ∀ next, step state event = some next →
      next.lost = false) (start ok) events)
    (ran : history.run (start ok) events = some finish) : finish.line.Perm finish.passed := by
  refine history.run_invariant_of_guarded _ (fun state => state.line.Perm state.passed)
    (fun state event next kept stepped perm => ?_) noted ran .nil
  have kept : next.lost = false := kept next stepped
  obtain ⟨fresh, moved⟩ : ∃ fresh, Moved state next fresh := by
    cases event with
    | caller event =>
      obtain ⟨fresh, moved, -⟩ := (callerStep_spec stepped).moved
      exact ⟨fresh, moved⟩
    | writer event => exact ⟨[], (writerStep_spec stepped).moved⟩
  rw [moved.passed]
  exact (moved.perm kept).trans (perm.append_right fresh)

theorem keptBack_perm : ∃ finish, history.run (start true) keptBack = some finish ∧
    finish.backlog.map Copy.row = [sample 1] ∧ finish.line.Perm finish.passed := by
  have noted : history.Guarded (fun state event => ∀ next, step state event = some next →
      next.lost = false) (start true) keptBack := by
    refine history.guarded_cons (fun next stepped => ?_) rfl <|
      history.guarded_cons (fun next stepped => ?_) rfl <|
      history.guarded_cons (fun next stepped => ?_) rfl <|
      history.guarded_cons (fun next stepped => ?_) rfl trivial
    all_goals
      cases stepped
      rfl
  exact ⟨_, rfl, rfl, line_perm_passed noted rfl⟩

end History

end LocalGpuCluster
