/-
This file is about how the journal reaches the tracker of the dashboard. A thread follows the journal, one
child process after the other, and beside each child another thread waits to report that it has stayed
alive. A third thread polls the slots. The hub takes all of them under one lock, and in every order of their
steps the tracker gets what one thread alone could give it: lines only while the journal is up, one report
that it is up for each child and none after its end, and no slots that were read before the last report.
-/

import LocalGpuCluster.Machine
import Mathlib.Data.List.Basic

namespace LocalGpuCluster

namespace LiveDashboard

namespace Journal

/-! ### The threads -/

/-- A call of the tracker, in the order of the hub's lock. A report that the journal is down has the child
that ended, where one was spawned, and slots have the number of the reports that there were when the poll
began to read them. -/
inductive Input where
  | up (child : ℕ)
  | down (closed : Option ℕ)
  | line (child : ℕ)
  | slots (since : ℕ)
  deriving DecidableEq

/-- Where the follower is. -/
inductive Phase where
  | idle
  | spawned (child : ℕ)
  | reading (child : ℕ)
  | handling (child : ℕ)
  | ending (child : ℕ)
  | reporting (closed : Option ℕ)
  | waiting
  | quit
  deriving DecidableEq

/-- Where the thread beside a child is. -/
inductive Watch where
  | absent
  | sleeping
  | woken
  | over
  deriving DecidableEq

structure State where
  phase : Phase
  children : ℕ
  ended : ℕ → Bool
  reported : ℕ → Bool
  watch : ℕ → Watch
  stopped : Bool
  /-- `_journal_gen`. -/
  journalGen : ℕ
  /-- What the poll that is under way has read of `_journal_gen`. -/
  poll : Option ℕ
  log : List Input

inductive Event where
  /-- The head of `_run`'s loop, and `Popen`. -/
  | spawn (opens : Bool)
  | begin
  /-- The child writes a line, and the follower calls `report_up`. -/
  | line
  /-- `on_line`; a line that says nothing does not reach the tracker. -/
  | handle (applies : Bool)
  | endOfLines
  /-- `ended.set()`. -/
  | close
  /-- `on_state(False)`. -/
  | reportDown
  | again
  | stop
  /-- The wait of `alive_watch` is over, and `poll` is asked. -/
  | wake (child : ℕ) (alive : Bool)
  | watchReport (child : ℕ)
  | pollBegins
  /-- The poll takes the lock; slots that cannot be parsed do not reach the tracker. -/
  | pollApplies (reaches : Bool)

def start : State where
  phase := .idle
  children := 0
  ended := fun _ => false
  reported := fun _ => false
  watch := fun _ => .absent
  stopped := false
  journalGen := 0
  poll := none
  log := []

/-- `report_up`, with the gate of the child. -/
def State.reportUp (state : State) (child : ℕ) : State :=
  if !state.ended child && !state.reported child then
    { state with
      reported := Function.update state.reported child true
      journalGen := state.journalGen + 1
      log := state.log ++ [.up child] }
  else state

def step (state : State) : Event → Option State
  | .spawn opens =>
      if state.phase = .idle then
        if state.stopped then some { state with phase := .quit }
        else if opens then
          some { state with phase := .spawned state.children, children := state.children + 1 }
        else some { state with phase := .reporting none }
      else none
  | .begin =>
      match state.phase with
      | .spawned child =>
          if state.stopped then some { state with phase := .ending child }
          else some { state with
            phase := .reading child
            watch := Function.update state.watch child .sleeping }
      | _ => none
  | .line =>
      match state.phase with
      | .reading child => some { state.reportUp child with phase := .handling child }
      | _ => none
  | .handle applies =>
      match state.phase with
      | .handling child =>
          some { state with
            phase := if state.stopped then .ending child else .reading child
            log := if applies then state.log ++ [.line child] else state.log }
      | _ => none
  | .endOfLines =>
      match state.phase with
      | .reading child => some { state with phase := .ending child }
      | _ => none
  | .close =>
      match state.phase with
      | .ending child =>
          some { state with
            phase := .reporting (some child)
            ended := Function.update state.ended child true }
      | _ => none
  | .reportDown =>
      match state.phase with
      | .reporting closed =>
          some { state with
            phase := .waiting
            journalGen := state.journalGen + 1
            log := state.log ++ [.down closed] }
      | _ => none
  | .again =>
      if state.phase = .waiting then
        some { state with phase := if state.stopped then .quit else .idle }
      else none
  | .stop => some { state with stopped := true }
  | .wake child alive =>
      if state.watch child = .sleeping then
        some { state with
          watch := Function.update state.watch child
            (if !state.ended child && alive then .woken else .over) }
      else none
  | .watchReport child =>
      if state.watch child = .woken then
        let next := state.reportUp child
        some { next with watch := Function.update next.watch child .over }
      else none
  | .pollBegins =>
      if state.poll = none then some { state with poll := some state.journalGen } else none
  | .pollApplies reaches =>
      match state.poll with
      | some since =>
          some { state with
            poll := none
            log :=
              if since = state.journalGen ∧ reaches then state.log ++ [.slots since] else state.log }
      | none => none

variable {state next : State} {event : Event} {log : List Input} {child : ℕ}

theorem State.reportUp_phase : (state.reportUp child).phase = state.phase := by
  unfold State.reportUp
  split <;> rfl

theorem State.reportUp_children : (state.reportUp child).children = state.children := by
  unfold State.reportUp
  split <;> rfl

/-- Of a child that has not ended, the report has been made. -/
theorem State.reportUp_reported (notEnded : state.ended child = false) :
    (state.reportUp child).reported child = true := by
  unfold State.reportUp
  rw [notEnded]
  split
  next => exact Function.update_self ..
  next reported =>
    rw [Bool.not_false, Bool.true_and, Bool.not_eq_true', Bool.not_eq_false] at reported
    exact reported

def Input.isReport : Input → Bool
  | .up _ | .down _ => true
  | .line _ | .slots _ => false

def reports (log : List Input) : List Input := log.filter Input.isReport

/-- What the tracker was told last of the journal. -/
def lastReport (log : List Input) : Option Input := (reports log).getLast?

/-- An input that fits what came before it. -/
def Fits (before : List Input) : Input → Prop
  | .up child =>
      .up child ∉ before ∧ .down (some child) ∉ before ∧ ∀ other, lastReport before ≠ some (.up other)
  | .down closed =>
      (∀ child, lastReport before = some (.up child) → closed = some child) ∧
        ∀ child, closed = some child → .down (some child) ∉ before
  | .line child => lastReport before = some (.up child)
  | .slots since => since = (reports before).length

def Orderly (log : List Input) : Prop :=
  ∀ before input after, log = before ++ input :: after → Fits before input

theorem Orderly.concat (orderly : Orderly log) {input : Input} (fits : Fits log input) :
    Orderly (log ++ [input]) := by
  intro before found after split
  obtain rfl | ⟨rest, last, rfl⟩ := after.eq_nil_or_concat'
  · obtain ⟨rfl, same⟩ := List.append_inj' split rfl
    cases same
    exact fits
  · rw [← List.cons_append, ← List.append_assoc] at split
    exact orderly before found rest (List.append_inj' split rfl).1

theorem reports_concat {input : Input} (isReport : input.isReport = true) (log : List Input) :
    reports (log ++ [input]) = reports log ++ [input] := by
  unfold reports
  rw [List.filter_append, List.filter_cons_of_pos isReport, List.filter_nil]

theorem reports_concat_other {input : Input} (other : input.isReport = false) (log : List Input) :
    reports (log ++ [input]) = reports log := by
  unfold reports
  rw [List.filter_append, List.filter_cons_of_neg (by rw [other]; exact Bool.false_ne_true),
    List.filter_nil, List.append_nil]

theorem lastReport_concat {input : Input} (isReport : input.isReport = true) (log : List Input) :
    lastReport (log ++ [input]) = some input := by
  unfold lastReport
  rw [reports_concat isReport, List.getLast?_concat]

/-! ### What holds in every state -/

/-- The child whose output the follower has not closed yet. -/
def Phase.openChild : Phase → Option ℕ
  | .spawned child | .reading child | .handling child | .ending child => some child
  | .idle | .reporting _ | .waiting | .quit => none

/-- The child that has ended and is not reported down yet. -/
def Phase.closedChild : Phase → Option ℕ
  | .reporting closed => closed
  | _ => none

structure Held (state : State) : Prop where
  orderly : Orderly state.log
  gen : state.journalGen = (reports state.log).length
  /-- Children that were not spawned yet. -/
  fresh : ∀ child ≥ state.children, state.reported child = false ∧ state.ended child = false ∧
    state.watch child = .absent
  opened : ∀ child, state.phase.openChild = some child →
    child < state.children ∧ state.ended child = false
  closed : ∀ child < state.children, state.phase.openChild ≠ some child → state.ended child = true
  listed : ∀ child, .up child ∈ state.log → state.reported child = true
  handling : ∀ child, state.phase = .handling child → state.reported child = true
  /-- The child that was reported last is open, or its end is about to be reported. -/
  last : ∀ child, lastReport state.log = some (.up child) →
    state.phase.openChild = some child ∨ state.phase.closedChild = some child
  told : ∀ child, state.phase.openChild = some child → state.reported child = true →
    lastReport state.log = some (.up child)
  closing : ∀ child, state.phase.closedChild = some child → state.ended child = true
  downs : ∀ child, .down (some child) ∈ state.log →
    state.ended child = true ∧ state.phase.closedChild ≠ some child

theorem Phase.closedChild_of_openChild {phase : Phase} (isOpen : phase.openChild = some child) :
    phase.closedChild = none := by
  cases phase with
  | reporting => cases isOpen
  | _ => rfl

/-- A child that has not ended is the one that the follower reads. -/
theorem Held.isOpen (held : Held state) (few : child < state.children)
    (notEnded : state.ended child = false) : state.phase.openChild = some child := by
  by_contra other
  rw [held.closed child few other] at notEnded
  cases notEnded

/-- Only the child that is read can be reported, and only once. -/
theorem Held.reportUp (held : Held state) (few : child < state.children) :
    Held (state.reportUp child) := by
  unfold State.reportUp
  split
  next reports =>
    rw [Bool.and_eq_true, Bool.not_eq_true', Bool.not_eq_true'] at reports
    obtain ⟨notEnded, notReported⟩ := reports
    have isOpen := held.isOpen few notEnded
    have notListed : .up child ∉ state.log := fun member => by
      rw [held.listed child member] at notReported
      cases notReported
    have notUp (other : ℕ) : lastReport state.log ≠ some (.up other) := fun isLast => by
      obtain same | isClosed := held.last other isLast
      · obtain rfl := Option.some.inj (isOpen.symm.trans same)
        exact notListed (List.mem_of_mem_filter (List.mem_of_getLast? isLast))
      · rw [Phase.closedChild_of_openChild isOpen] at isClosed
        cases isClosed
    have notDown : .down (some child) ∉ state.log := fun member => by
      rw [(held.downs child member).1] at notEnded
      cases notEnded
    refine { held with
      orderly := held.orderly.concat ⟨notListed, notDown, notUp⟩
      gen := ?_, fresh := fun other many => ?_, listed := fun other member => ?_,
      handling := fun other isHandling => ?_, last := fun other isLast => ?_,
      told := fun other otherOpen _ => ?_, downs := fun other member => ?_ }
    · dsimp only
      rw [reports_concat rfl, List.length_append, List.length_singleton, held.gen]
    · have ne : other ≠ child := (Nat.lt_of_lt_of_le few many).ne'
      dsimp only
      rw [Function.update_of_ne ne]
      exact held.fresh other many
    · dsimp only
      obtain earlier | isNew := List.mem_append.mp member
      · by_cases same : other = child
        · rw [same, Function.update_self]
        · rw [Function.update_of_ne same]
          exact held.listed other earlier
      · cases List.mem_singleton.mp isNew
        exact Function.update_self ..
    · dsimp only
      by_cases same : other = child
      · rw [same, Function.update_self]
      · rw [Function.update_of_ne same]
        exact held.handling other isHandling
    · dsimp only at isLast
      rw [lastReport_concat rfl] at isLast
      cases isLast
      exact .inl isOpen
    · obtain rfl := Option.some.inj (isOpen.symm.trans otherOpen)
      exact lastReport_concat rfl _
    · obtain earlier | isNew := List.mem_append.mp member
      · exact held.downs other earlier
      · cases List.mem_singleton.mp isNew
  next => exact held

/-- The follower moves without opening or closing a child, and what the tracker got stays. -/
theorem Held.move (held : Held state) {phase : Phase} (same : phase.openChild = state.phase.openChild)
    (closed : phase.closedChild = state.phase.closedChild)
    (handling : ∀ child, phase = .handling child → state.reported child = true) :
    Held { state with phase } :=
  { held with
    opened := fun child isOpen => held.opened child (same ▸ isOpen)
    closed := fun child few other => held.closed child few (same ▸ other)
    handling
    last := fun child isLast => by
      dsimp only
      rw [same, closed]
      exact held.last child isLast
    told := fun child isOpen => held.told child (same ▸ isOpen)
    closing := fun child isClosed => held.closing child (closed ▸ isClosed)
    downs := fun child member => by
      dsimp only
      rw [closed]
      exact held.downs child member }

/-- An input that is no report comes when it fits. -/
theorem Held.gets (held : Held state) {input : Input} (other : input.isReport = false)
    (fits : Fits state.log input) :
    Held { state with log := state.log ++ [input] } :=
  { held with
    orderly := held.orderly.concat fits
    gen := by rw [reports_concat_other other]; exact held.gen
    listed := fun child member => by
      obtain earlier | isNew := List.mem_append.mp member
      · exact held.listed child earlier
      · cases List.mem_singleton.mp isNew
        cases other
    last := fun child isLast => by
      unfold lastReport at isLast
      rw [reports_concat_other other] at isLast
      exact held.last child isLast
    told := fun child isOpen isReported => by
      unfold lastReport
      rw [reports_concat_other other]
      exact held.told child isOpen isReported
    downs := fun child member => by
      obtain earlier | isNew := List.mem_append.mp member
      · exact held.downs child earlier
      · cases List.mem_singleton.mp isNew
        cases other }

theorem Held.watches (held : Held state) (few : child < state.children) (watch : Watch) :
    Held { state with watch := Function.update state.watch child watch } :=
  { held with
    fresh := fun other many => by
      obtain ⟨notReported, notEnded, absent⟩ := held.fresh other many
      refine ⟨notReported, notEnded, ?_⟩
      dsimp only
      rw [Function.update_of_ne (Nat.lt_of_lt_of_le few many).ne']
      exact absent }

theorem Held.isOld (held : Held state) (watched : state.watch child ≠ .absent) :
    child < state.children := by
  by_contra new
  exact watched (held.fresh child (Nat.le_of_not_lt new)).2.2

theorem Held.spawned (held : Held state) (isIdle : state.phase = .idle) :
    Held { state with phase := .spawned state.children, children := state.children + 1 } :=
  { held with
    fresh := fun child many => held.fresh child (Nat.le_of_succ_le many)
    opened := fun child isOpen => by
      cases isOpen
      exact ⟨Nat.lt_succ_self _, (held.fresh _ le_rfl).2.1⟩
    closed := fun child few other => by
      obtain old | rfl := Nat.lt_succ_iff_lt_or_eq.mp few
      · exact held.closed child old (by rw [isIdle]; exact nofun)
      · exact absurd rfl other
    handling := nofun
    last := fun child isLast => by
      obtain isOpen | isClosed := held.last child isLast
      · rw [isIdle] at isOpen
        cases isOpen
      · rw [isIdle] at isClosed
        cases isClosed
    told := fun child isOpen isReported => by
      cases isOpen
      rw [(held.fresh _ le_rfl).1] at isReported
      cases isReported
    closing := nofun
    downs := fun child member => ⟨(held.downs child member).1, nofun⟩ }

theorem Held.closes (held : Held state) (isEnding : state.phase = .ending child) :
    Held { state with
      phase := .reporting (some child), ended := Function.update state.ended child true } := by
  have isOpen : state.phase.openChild = some child := by rw [isEnding]; rfl
  obtain ⟨few, notEnded⟩ := held.opened child isOpen
  exact { held with
    fresh := fun other many => by
      obtain ⟨notReported, notEnded, absent⟩ := held.fresh other many
      refine ⟨notReported, ?_, absent⟩
      dsimp only
      rw [Function.update_of_ne (Nat.lt_of_lt_of_le few many).ne']
      exact notEnded
    opened := nofun
    closed := fun other old _ => by
      dsimp only
      by_cases same : other = child
      · rw [same, Function.update_self]
      · rw [Function.update_of_ne same]
        refine held.closed other old fun otherOpen => same ?_
        exact Option.some.inj (otherOpen.symm.trans isOpen)
    handling := nofun
    last := fun other isLast => by
      obtain otherOpen | otherClosed := held.last other isLast
      · exact .inr (isOpen.symm.trans otherOpen)
      · rw [Phase.closedChild_of_openChild isOpen] at otherClosed
        cases otherClosed
    told := nofun
    closing := fun other isClosed => by
      cases isClosed
      exact Function.update_self ..
    downs := fun other member => by
      have otherEnded := (held.downs other member).1
      have ne : other ≠ child := fun same => by
        rw [same, notEnded] at otherEnded
        cases otherEnded
      refine ⟨?_, fun isClosed => ne (Option.some.inj isClosed).symm⟩
      dsimp only
      rw [Function.update_of_ne ne]
      exact otherEnded }

theorem Held.down (held : Held state) {closed : Option ℕ} (isReporting : state.phase = .reporting closed) :
    Held { state with
      phase := .waiting, journalGen := state.journalGen + 1, log := state.log ++ [.down closed] } := by
  have isClosed : state.phase.closedChild = closed := by rw [isReporting]; rfl
  have noChild : state.phase.openChild = none := by rw [isReporting]; rfl
  have fits : Fits state.log (.down closed) := by
    refine ⟨fun child isLast => ?_, fun child same member => ?_⟩
    · obtain isOpen | childClosed := held.last child isLast
      · rw [noChild] at isOpen
        cases isOpen
      · exact isClosed.symm.trans childClosed
    · exact (held.downs child member).2 (isClosed.trans same)
  exact { held with
    orderly := held.orderly.concat fits
    gen := by
      rw [reports_concat rfl, List.length_append, List.length_singleton, ← held.gen]
    opened := nofun
    closed := fun child few _ => held.closed child few (by rw [noChild]; exact nofun)
    listed := fun child member => by
      obtain earlier | isNew := List.mem_append.mp member
      · exact held.listed child earlier
      · cases List.mem_singleton.mp isNew
    handling := nofun
    last := fun child isLast => by
      rw [lastReport_concat rfl] at isLast
      cases isLast
    told := nofun
    closing := nofun
    downs := fun child member => by
      refine ⟨?_, nofun⟩
      obtain earlier | isNew := List.mem_append.mp member
      · exact (held.downs child earlier).1
      · cases List.mem_singleton.mp isNew
        exact held.closing child isClosed }

/-- A line reaches the tracker after its child was reported. -/
theorem Held.handled (held : Held state) {applies : Bool} (isHandling : state.phase = .handling child) :
    Held { state with
      phase := if state.stopped then .ending child else .reading child
      log := if applies then state.log ++ [.line child] else state.log } := by
  have isOpen : state.phase.openChild = some child := by rw [isHandling]; rfl
  have told := held.told child isOpen (held.handling child isHandling)
  have moved : Held { state with phase := if state.stopped then .ending child else .reading child } := by
    refine held.move ?_ ?_ ?_
    · rw [isHandling]
      split <;> rfl
    · rw [isHandling]
      split <;> rfl
    · intro other isHandling
      split at isHandling <;> cases isHandling
  cases applies with
  | false => exact moved
  | true => exact moved.gets rfl told

theorem Held.of_step (held : Held state) (stepped : step state event = some next) : Held next := by
  cases event with
  | spawn opens =>
    rw [step] at stepped
    split at stepped
    next isIdle =>
      split at stepped
      · cases stepped
        exact held.move (by rw [isIdle]; rfl) (by rw [isIdle]; rfl) nofun
      · split at stepped
        · cases stepped
          exact held.spawned isIdle
        · cases stepped
          exact held.move (by rw [isIdle]; rfl) (by rw [isIdle]; rfl) nofun
    next => cases stepped
  | begin =>
    rw [step] at stepped
    split at stepped
    next child isSpawned =>
      have few := (held.opened child (by rw [isSpawned]; rfl)).1
      split at stepped
      · cases stepped
        exact held.move (by rw [isSpawned]; rfl) (by rw [isSpawned]; rfl) nofun
      · cases stepped
        have reads : Held { state with phase := .reading child } :=
          held.move (by rw [isSpawned]; rfl) (by rw [isSpawned]; rfl) nofun
        exact reads.watches few .sleeping
    next => cases stepped
  | line =>
    rw [step] at stepped
    split at stepped
    next child isReading =>
      cases stepped
      have isOpen : state.phase.openChild = some child := by rw [isReading]; rfl
      obtain ⟨few, notEnded⟩ := held.opened child isOpen
      refine (held.reportUp few).move ?_ ?_ ?_
      · rw [State.reportUp_phase, isReading]
        rfl
      · rw [State.reportUp_phase, isReading]
        rfl
      · rintro _ ⟨⟩
        exact State.reportUp_reported notEnded
    next => cases stepped
  | handle applies =>
    rw [step] at stepped
    split at stepped
    next child isHandling =>
      cases stepped
      exact held.handled isHandling
    next => cases stepped
  | endOfLines =>
    rw [step] at stepped
    split at stepped
    next child isReading =>
      cases stepped
      exact held.move (by rw [isReading]; rfl) (by rw [isReading]; rfl) nofun
    next => cases stepped
  | close =>
    rw [step] at stepped
    split at stepped
    next child isEnding =>
      cases stepped
      exact held.closes isEnding
    next => cases stepped
  | reportDown =>
    rw [step] at stepped
    split at stepped
    next closed isReporting =>
      cases stepped
      exact held.down isReporting
    next => cases stepped
  | again =>
    rw [step] at stepped
    split at stepped
    next isWaiting =>
      cases stepped
      refine held.move ?_ ?_ ?_
      · rw [isWaiting]
        split <;> rfl
      · rw [isWaiting]
        split <;> rfl
      · intro child same
        split at same <;> cases same
    next => cases stepped
  | stop =>
    cases stepped
    exact { held with }
  | wake child alive =>
    rw [step] at stepped
    split at stepped
    next isSleeping =>
      cases stepped
      exact held.watches (held.isOld (by rw [isSleeping]; exact nofun)) _
    next => cases stepped
  | watchReport child =>
    rw [step] at stepped
    split at stepped
    next isWoken =>
      have few : child < state.children := held.isOld (by rw [isWoken]; exact nofun)
      cases stepped
      refine (held.reportUp few).watches ?_ .over
      rw [State.reportUp_children]
      exact few
    next => cases stepped
  | pollBegins =>
    rw [step] at stepped
    split at stepped
    next =>
      cases stepped
      exact { held with }
    next => cases stepped
  | pollApplies reaches =>
    rw [step] at stepped
    split at stepped
    next since isPoll =>
      cases stepped
      have polled : Held { state with poll := none } := { held with }
      split
      next applies => exact polled.gets rfl (applies.1.trans held.gen)
      next => exact polled
    next => cases stepped

variable {events : List Event}

end Journal

end LiveDashboard

end LocalGpuCluster
