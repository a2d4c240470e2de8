/-
This file proves what the reserved lane promises the owner. A scoped request holds a lane
slot for as long as it holds a chat slot, so the lane's `_in_use` bounds the scoped holders;
the check that `_LaneThenChat.acquire` makes when its chat slot arrives compares exactly that
bound with what the chat gate's capacity leaves at that moment. While the capacity stays what
it is, `ReservedLane.acquire` adds one only below the lane's capacity, so the bound holds all
the time and the chat slots that scoped requests can never take are there for the owner.
-/

import LocalGpuCluster.HoldSlot

namespace LocalGpuCluster

namespace Admission

/-! ### A scoped request holds a lane slot while it holds a chat slot -/

theorem Request.Sound.holdsLane {request : Request} (sound : request.Sound)
    (isScoped : request.isScoped = true) (holds : request.holdsChat) : request.holdsLane := by
  have accounted := sound.accounted
  have share : request.share = 1 := if_pos isScoped
  unfold Request.holdsChat at holds
  unfold Request.holdsLane
  unfold Request.Accounted at accounted
  cases stands : request.acquire <;> simp only [stands] at accounted
  case givingBackLane => simp [accounted] at holds
  case givingBackBoth =>
    obtain ⟨-, ⟨chat, lane, -⟩ | ⟨chat, lane, -⟩⟩ := accounted
    · rw [lane]
      exact Nat.one_pos
    · simp [chat] at holds
  case granted =>
    obtain ⟨chat, lane, -⟩ := accounted
    rw [chat] at holds
    rw [lane, share, Nat.one_mul]
    exact holds
  case laneClosed =>
    obtain ⟨-, -, ⟨chat, -⟩ | ⟨chat, -⟩⟩ := accounted <;> simp [chat] at holds
  case cancelled =>
    obtain ⟨-, chat | chat, -⟩ | ⟨-, lane, ⟨-, chat⟩ | ⟨-, -⟩⟩ := accounted
    · simp [chat] at holds
    · simp [chat] at holds
    · simp [chat] at holds
    · rw [lane]
      exact Nat.one_pos
  all_goals simp [accounted] at holds

/-- A refused request holds nothing. -/
theorem Request.Sound.idle_of_laneClosed {request : Request} (sound : request.Sound)
    (refused : request.acquire = .laneClosed) : ¬request.holdsChat ∧ ¬request.holdsLane := by
  have accounted := sound.accounted
  unfold Request.holdsChat Request.holdsLane
  simp only [Request.Accounted, refused] at accounted
  obtain ⟨-, -, ⟨chat, lane⟩ | ⟨chat, lane⟩⟩ := accounted <;> simp [chat, lane]

/-- The owner requests and the scoped requests that hold a chat slot are all that do. -/
def Request.scopedChat (request : Request) : ℤ :=
  if request.isScoped ∧ request.holdsChat then 1 else 0

def Request.ownerChat (request : Request) : ℤ :=
  if ¬request.isScoped ∧ request.holdsChat then 1 else 0

theorem Request.Sound.held_eq {request : Request} (sound : request.Sound) :
    request.chat.held = request.ownerChat + request.scopedChat := by
  rw [sound.held_chat]
  unfold Request.ownerChat Request.scopedChat
  by_cases kind : request.isScoped = true <;> by_cases holds : request.holdsChat <;>
    simp [kind, holds]

theorem Request.Sound.scopedChat_le {request : Request} (sound : request.Sound) :
    request.scopedChat ≤ request.lane.held := by
  rw [sound.held_lane]
  unfold Request.scopedChat
  by_cases both : request.isScoped = true ∧ request.holdsChat
  · rw [if_pos both, if_pos (sound.holdsLane both.1 both.2)]
  · rw [if_neg both]
    split <;> omega

/-! ### What the segments of `acquire` do to the lane -/

theorem chatArrived_within {gates : Gates} {request : Request}
    (isScoped : request.isScoped = true)
    (granted : (chatArrived gates request).request.acquire = .granted) :
    (chatArrived gates request).gates.lane.inUse ≤
      (chatArrived gates request).gates.laneCapacity := by
  unfold chatArrived at granted ⊢
  split at granted
  · cases granted
  · rename_i within
    rw [isScoped, Bool.true_and, decide_eq_true_eq, not_lt] at within
    rw [if_neg (by rw [isScoped, Bool.true_and, decide_eq_true_eq]; omega)]
    exact within

theorem tryChat_within {gates : Gates} {request : Request} (isScoped : request.isScoped = true)
    (granted : (tryChat gates request).request.acquire = .granted) :
    (tryChat gates request).gates.lane.inUse ≤ (tryChat gates request).gates.laneCapacity := by
  unfold tryChat at granted ⊢
  split at granted
  · rename_i room
    rw [if_pos room]
    exact chatArrived_within isScoped granted
  · cases granted

theorem tryLane_within {gates : Gates} {request : Request} (isScoped : request.isScoped = true)
    (granted : (tryLane gates request).request.acquire = .granted) :
    (tryLane gates request).gates.lane.inUse ≤ (tryLane gates request).gates.laneCapacity := by
  unfold tryLane at granted ⊢
  split at granted
  · split at granted <;> cases granted
  · rename_i through
    rw [if_neg through]
    exact tryChat_within isScoped granted

/-- A scoped `acquire` that returns leaves the lane within its capacity at that moment. -/
theorem acquireSegment_within {gates : Gates} {request : Request} {turn : Turn}
    (isScoped : request.isScoped = true) (ran : acquireSegment gates request = some turn)
    (granted : turn.request.acquire = .granted) :
    turn.gates.lane.inUse ≤ turn.gates.laneCapacity := by
  obtain ⟨-, -, rfl⟩ | ⟨-, -, rfl⟩ | gaveUp := acquireSegment_cases ran
  · exact tryLane_within isScoped granted
  · exact tryChat_within isScoped granted
  · rcases gaveUp.acquire with now | now | now <;> rw [now] at granted <;> cases granted

/-- An `acquire` that returns leaves its request with a chat slot. -/
theorem acquireSegment_holds {gates : Gates} {request : Request} {turn : Turn}
    (sound : request.Sound) (ran : acquireSegment gates request = some turn)
    (granted : turn.request.acquire = .granted) : turn.request.holdsChat := by
  have accounted := acquireSegment_accounted sound.accounted sound.placed.kept ran
  have releases : turn.request.releases = 0 := by
    rw [(acquireSegment_step ran).releases]
    refine sound.placed.kept fun before => ?_
    rw [acquireSegment, before] at ran
    cases ran
  simp only [Request.Accounted, granted] at accounted
  rw [Request.holdsChat, accounted.1, releases]
  exact Nat.one_pos

/-- The lane's `_in_use` grows only while it is below the lane's capacity. -/
def LaneGuarded (gates : Gates) (turn : Turn) : Prop :=
  turn.gates.lane.inUse ≤ gates.lane.inUse ∨ turn.gates.lane.inUse ≤ gates.laneCapacity

theorem tryChat_lane (gates : Gates) (request : Request) :
    (tryChat gates request).gates.lane = gates.lane := by
  unfold tryChat chatArrived
  split <;> (try split) <;> rfl

theorem tryLane_guarded (gates : Gates) (request : Request) :
    LaneGuarded gates (tryLane gates request) := by
  unfold tryLane
  split
  · split <;> exact Or.inl le_rfl
  · rename_i through
    refine Or.inr ?_
    rw [tryChat_lane]
    show gates.lane.inUse + 1 ≤ _
    omega

theorem acquireSegment_guarded {gates : Gates} {request : Request} {turn : Turn}
    (ran : acquireSegment gates request = some turn) : LaneGuarded gates turn := by
  obtain ⟨-, -, rfl⟩ | ⟨-, -, rfl⟩ | gaveUp := acquireSegment_cases ran
  · exact tryLane_guarded gates request
  · exact Or.inl (by rw [tryChat_lane])
  · exact Or.inl (by rw [gaveUp.gates])

theorem finally_guarded (gates : Gates) (request : Request) (after : Body) :
    LaneGuarded gates (finally_ gates request after) := by
  unfold finally_ release
  refine Or.inl ?_
  split
  · split
    · show gates.lane.inUse - 1 ≤ gates.lane.inUse
      omega
    · exact le_rfl
  · exact le_rfl

theorem afterAcquire_guarded (gates : Gates) (request : Request) :
    LaneGuarded gates (afterAcquire gates request) := by
  unfold afterAcquire
  split
  · exact Or.inl le_rfl
  · exact finally_guarded gates request .closing

/-- Entering the block, or leaving it unentered, is all `enterBlock` does. -/
theorem enterBlock_same (turn : Turn) :
    (enterBlock turn).gates = turn.gates ∧
      (enterBlock turn).request = { turn.request with body := (enterBlock turn).request.body } := by
  unfold enterBlock
  split <;> exact ⟨rfl, rfl⟩

theorem segment_guarded {gates : Gates} {request : Request} {action : Action} {turn : Turn}
    (ran : segment gates request action = some turn) : LaneGuarded gates turn := by
  cases action with
  | acquire =>
    obtain ⟨inner, innerRan, rfl⟩ := Option.map_eq_some_iff.mp ran
    have guarded := acquireSegment_guarded innerRan
    unfold LaneGuarded at guarded ⊢
    rw [(enterBlock_same inner).1]
    exact guarded
  | shield =>
    simp only [segment, shieldSegment] at ran
    split at ran <;> cases ran <;> refine Or.inl ?_ <;>
      exact sub_le_self gates.lane.inUse zero_le_one
  | start | keepalive | chunk | closed =>
    simp only [segment] at ran
    split at ran <;> cases ran
    exact Or.inl le_rfl
  | wake =>
    simp only [segment] at ran
    split at ran <;> cases ran
    exact afterAcquire_guarded gates request
  | resume =>
    simp only [segment] at ran
    split at ran <;> (try split at ran) <;> cases ran <;> first
      | exact afterAcquire_guarded gates request
      | exact Or.inl le_rfl
  | bodyEnds | disconnect =>
    simp only [segment] at ran
    split at ran <;> cases ran <;> first
      | exact finally_guarded gates request _
      | exact Or.inl le_rfl

/-! ### A scoped request that is being refused -/

/-- The lane turned out to be over its capacity: the request gives both slots back and raises
`LaneClosed`, or has raised it. -/
def Request.Refusing (request : Request) : Prop :=
  request.acquire = .givingBackBoth ∧ request.cancelRequested = false ∨
    request.acquire = .laneClosed

/-- Unless its client leaves, a request that is being refused stays so. -/
theorem segment_refusing {gates : Gates} {request : Request} {action : Action} {turn : Turn}
    (sound : request.Sound) (refusing : request.Refusing) (stays : action ≠ .disconnect)
    (ran : segment gates request action = some turn) : turn.request.Refusing := by
  have placed := sound.placed
  have ungranted : request.acquire ≠ .granted := by
    rcases refusing with ⟨giving, -⟩ | refused
    · rw [giving]
      exact Acquire.noConfusion
    · rw [refused]
      exact Acquire.noConfusion
  have called : request.acquire ≠ .notCalled := by
    rcases refusing with ⟨giving, -⟩ | refused
    · rw [giving]
      exact Acquire.noConfusion
    · rw [refused]
      exact Acquire.noConfusion
  -- Once `acquire` is done, the `finally` has nothing to cancel.
  have atEnd (done : request.acquireDone = true) (after : Body) :
      (finally_ gates request after).request.Refusing := by
    unfold finally_
    rw [if_neg ungranted]
    rcases refusing with ⟨giving, -⟩ | refused
    · rw [Request.acquireDone, giving] at done
      cases done
    · exact Or.inr refused
  have atWake (done : request.acquireDone = true) :
      (afterAcquire gates request).request.Refusing := by
    unfold afterAcquire
    rw [if_neg ungranted]
    exact atEnd done .closing
  unfold Request.Placed at placed
  cases action with
  | acquire =>
    obtain ⟨inner, innerRan, rfl⟩ := Option.map_eq_some_iff.mp ran
    have refused : inner.request.Refusing := by
      rcases refusing with ⟨giving, uncancelled⟩ | refused
      · simp only [acquireSegment, giving, uncancelled] at innerRan
        split at innerRan
        · rename_i impossible
          cases impossible
        · split at innerRan <;> cases innerRan
          exact Or.inr rfl
      · rw [acquireSegment, refused] at innerRan
        cases innerRan
    unfold enterBlock
    split <;> exact refused
  | shield =>
    simp only [segment, shieldSegment] at ran
    split at ran <;> cases ran <;> exact refusing
  | start =>
    simp only [segment] at ran
    split at ran <;> cases ran
    rename_i fresh
    rw [fresh] at placed
    exact absurd placed.1 called
  | keepalive | chunk | closed =>
    simp only [segment] at ran
    split at ran <;> cases ran
    exact refusing
  | wake =>
    simp only [segment] at ran
    split at ran <;> cases ran
    rename_i waiting
    exact atWake (Bool.and_eq_true_iff.mp waiting).2
  | resume =>
    simp only [segment] at ran
    split at ran
    · split at ran <;> cases ran
      · rename_i done
        exact atWake done
      · exact refusing
    · cases ran
      exact refusing
    · cases ran
  | bodyEnds =>
    simp only [segment] at ran
    split at ran <;> cases ran <;> rename_i stands <;> rw [stands] at placed <;>
      exact absurd placed.1 ungranted
  | disconnect => exact absurd rfl stays

/-- A wake-up reaches only a request that waits for a chat slot. -/
theorem wake_of_not_waiting (notifyChat : Bool) {request : Request}
    (elsewhere : ∀ notified, request.acquire ≠ .chatWaiting notified) :
    wake notifyChat request = request := by
  unfold wake
  split
  · rename_i notified waiting
    exact absurd waiting (elsewhere notified)
  · rfl

theorem Request.Refusing.not_waiting {request : Request} (refusing : request.Refusing)
    (notified : Bool) : request.acquire ≠ .chatWaiting notified := by
  rcases refusing with ⟨stands, -⟩ | stands <;> rw [stands] <;> exact Acquire.noConfusion

theorem machine_request {Index : Type} [DecidableEq Index] {state : State Index} {index : Index}
    {action : Action} {turn : Turn}
    (ran : segment state.gates (state.requests index) action = some turn) :
    machine.step state (.request index action) = some (state.after index turn) := by
  show (segment state.gates (state.requests index) action).map (state.after index) = _
  rw [ran, Option.map_some]

theorem after_self {Index : Type} [DecidableEq Index] (state : State Index) (index : Index)
    (turn : Turn) : (state.after index turn).requests index = wake turn.notifyChat turn.request := by
  show wake turn.notifyChat (Function.update state.requests index turn.request index) = _
  rw [Function.update_self]

/-- A request that is being refused can always go on: its shielded release task runs, and then
its `acquire` raises `LaneClosed`. -/
theorem refusing_raises {Index : Type} [DecidableEq Index] {state : State Index} {index : Index}
    (sound : (state.requests index).Sound) (refusing : (state.requests index).Refusing) :
    ∃ actions : List Action, (∀ action ∈ actions, action = .shield ∨ action = .acquire) ∧
      ∃ finish, machine.run state (actions.map (.request index)) = some finish ∧
        (finish.requests index).acquire = .laneClosed := by
  have raises (current : State Index) (uncancelled : (current.requests index).cancelRequested = false)
      (giving : (current.requests index).acquire = .givingBackBoth)
      (idle : (current.requests index).shielded = none) :
      ∃ finish, machine.run current [.request index .acquire] = some finish ∧
        (finish.requests index).acquire = .laneClosed := by
    have ran : segment current.gates (current.requests index) .acquire = some (enterBlock
        { gates := current.gates
          request := { current.requests index with acquire := .laneClosed } }) := by
      rw [segment, acquireSegment, giving]
      simp [uncancelled, idle]
    refine ⟨_, machine.run_cons_eq_some.mpr ⟨_, machine_request ran, rfl⟩, ?_⟩
    rw [after_self]
    unfold enterBlock wake
    cases (current.requests index).body <;> rfl
  rcases refusing with ⟨giving, uncancelled⟩ | refused
  · have accounted := sound.accounted
    simp only [Request.Accounted, giving] at accounted
    obtain ⟨-, ⟨-, -, started⟩ | ⟨-, -, idle⟩⟩ := accounted
    · obtain ⟨turn, gives, acquire, uncancelledStill, idle⟩ :
          ∃ turn, segment state.gates (state.requests index) .shield = some turn ∧
            turn.request.acquire = .givingBackBoth ∧ turn.request.cancelRequested = false ∧
              turn.request.shielded = none := by
        rw [segment, shieldSegment, started]
        exact ⟨_, rfl, giving, uncancelled, rfl⟩
      have unwoken : (state.after index turn).requests index = turn.request := by
        rw [after_self, wake_of_not_waiting _ (by rw [acquire]; exact fun _ => Acquire.noConfusion)]
      obtain ⟨finish, ran, refused⟩ := raises (state.after index turn)
        (by rw [unwoken, uncancelledStill]) (by rw [unwoken, acquire]) (by rw [unwoken, idle])
      exact ⟨[.shield, .acquire], by simp, finish,
        machine.run_cons_eq_some.mpr ⟨_, machine_request gives, ran⟩, refused⟩
    · obtain ⟨finish, ran, refused⟩ := raises state uncancelled giving idle
      exact ⟨[.acquire], by simp, finish, ran, refused⟩
  · exact ⟨[], by simp, state, rfl, refused⟩

/-- The chat slot arrived while the lane was over its capacity. -/
theorem tryChat_refusing {gates : Gates} {request : Request} (isScoped : request.isScoped = true)
    (uncancelled : request.cancelRequested = false)
    (arrived : (tryChat gates request).request.chat.taken = request.chat.taken + 1)
    (exceeds : ((tryChat gates request).gates.laneCapacity : ℤ) <
      (tryChat gates request).gates.lane.inUse) :
    (tryChat gates request).request.acquire = .givingBackBoth ∧
      (tryChat gates request).request.cancelRequested = false := by
  unfold tryChat at arrived exceeds ⊢
  split at arrived
  · rename_i room
    rw [if_pos room] at exceeds ⊢
    have same : (chatArrived gates.takeChat { request with chat := request.chat.take }).gates =
        gates.takeChat := by
      unfold chatArrived
      split <;> rfl
    rw [same] at exceeds
    unfold chatArrived
    rw [if_pos (by rw [isScoped, Bool.true_and, decide_eq_true_eq]; exact exceeds)]
    exact ⟨rfl, uncancelled⟩
  · simp at arrived

theorem acquireSegment_refusing {gates : Gates} {request : Request} {turn : Turn}
    (isScoped : request.isScoped = true) (ran : acquireSegment gates request = some turn)
    (arrived : turn.request.chat.taken = request.chat.taken + 1)
    (exceeds : (turn.gates.laneCapacity : ℤ) < turn.gates.lane.inUse) :
    turn.request.acquire = .givingBackBoth ∧ turn.request.cancelRequested = false := by
  obtain ⟨uncancelled, -, rfl⟩ | ⟨uncancelled, -, rfl⟩ | gaveUp := acquireSegment_cases ran
  · unfold tryLane at arrived exceeds ⊢
    split at arrived
    · split at arrived <;> simp at arrived
    · rename_i through
      rw [if_neg through] at exceeds ⊢
      exact tryChat_refusing isScoped uncancelled arrived exceeds
  · exact tryChat_refusing isScoped uncancelled arrived exceeds
  · rw [gaveUp.chat] at arrived
    omega

/-- Only a segment of `acquire` can grant it. -/
theorem segment_grants {gates : Gates} {request : Request} {action : Action} {turn : Turn}
    (ran : segment gates request action = some turn) (ungranted : request.acquire ≠ .granted)
    (granted : turn.request.acquire = .granted) : action = .acquire := by
  have atEnd (after : Body) : (finally_ gates request after).request.acquire ≠ .granted := by
    unfold finally_
    rw [if_neg ungranted]
    exact ungranted
  have atWake : (afterAcquire gates request).request.acquire ≠ .granted := by
    unfold afterAcquire
    rw [if_neg ungranted]
    exact atEnd .closing
  cases action with
  | acquire => rfl
  | shield =>
    simp only [segment, shieldSegment] at ran
    split at ran <;> cases ran <;> exact absurd granted ungranted
  | start =>
    simp only [segment] at ran
    split at ran <;> cases ran
    cases granted
  | keepalive | chunk | closed =>
    simp only [segment] at ran
    split at ran <;> cases ran
    exact absurd granted ungranted
  | wake =>
    simp only [segment] at ran
    split at ran <;> cases ran
    exact absurd granted atWake
  | resume =>
    simp only [segment] at ran
    split at ran <;> (try split at ran) <;> cases ran <;> first
      | exact absurd granted atWake
      | exact absurd granted ungranted
  | bodyEnds | disconnect =>
    simp only [segment] at ran
    split at ran <;> cases ran <;> first
      | exact absurd granted (atEnd _)
      | exact absurd granted ungranted

/-! ### Every interleaving -/

section Interleaving

variable {Index : Type}

/-- No event changes the reserve. -/
theorem run_reserve [DecidableEq Index] {start finish : State Index} {events : List (Event Index)}
    (ran : machine.run start events = some finish) :
    finish.gates.lane.reserve = start.gates.lane.reserve :=
  machine.run_invariant (fun state => state.gates.lane.reserve = start.gates.lane.reserve)
    (fun state event next stepped same => by
      obtain ⟨index, action, turn, -, segmentRan, rfl⟩ | ⟨changed, -, rfl⟩ :=
        machine_step_cases stepped
      · exact (segment_balanced segmentRan).reserve.trans same
      · exact same) ran rfl

/-- A scoped request whose chat slot arrives while the lane is over its capacity starts giving
both slots back. -/
theorem scoped_gives_back [DecidableEq Index] {state next : State Index} {index : Index}
    (isScoped : (state.requests index).isScoped = true)
    (stepped : machine.step state (.request index .acquire) = some next)
    (arrived : (next.requests index).chat.taken = (state.requests index).chat.taken + 1)
    (exceeds : (next.gates.laneCapacity : ℤ) < next.gates.lane.inUse) :
    (next.requests index).Refusing := by
  obtain ⟨mover, action, turn, same, ran, rfl⟩ | ⟨changed, impossible, -⟩ :=
    machine_step_cases stepped
  · cases same
    obtain ⟨inner, innerRan, rfl⟩ := Option.map_eq_some_iff.mp ran
    obtain ⟨gatesSame, requestSame⟩ := enterBlock_same inner
    rw [after_self, wake_chat, requestSame] at arrived
    have overInner : (inner.gates.laneCapacity : ℤ) < inner.gates.lane.inUse := by
      rw [← gatesSame]
      exact exceeds
    have refusing : (enterBlock inner).request.Refusing := by
      rw [requestSame]
      exact Or.inl (acquireSegment_refusing isScoped innerRan arrived overInner)
    rw [after_self, wake_of_not_waiting _ refusing.not_waiting]
    exact refusing
  · cases impossible

/-- No `set_capacity` among the events. -/
def ConstantCapacity (events : List (Event Index)) : Prop :=
  ∀ event ∈ events, ∀ capacity, event ≠ .setCapacity capacity

variable [Fintype Index]

/-- The scoped requests that hold a chat slot. -/
def scopedHolders (state : State Index) : ℕ :=
  (Finset.univ.filter fun index =>
    (state.requests index).isScoped = true ∧ (state.requests index).holdsChat).card

/-- An owner request that holds a chat slot or waits for one. -/
def Request.ownerAtGate (request : Request) : Prop :=
  request.isScoped = false ∧
    (request.holdsChat ∨ match request.acquire with | .chatWaiting _ => True | _ => False)

instance (request : Request) : Decidable request.ownerAtGate := by
  unfold Request.ownerAtGate
  cases request.acquire <;> infer_instance

/-- The owner requests other than `index` that hold or wait for a chat slot. -/
def ownersAtGate [DecidableEq Index] (state : State Index) (index : Index) : ℕ :=
  (Finset.univ.filter fun other => other ≠ index ∧ (state.requests other).ownerAtGate).card

theorem Conserved.scopedHolders_le {state : State Index} (conserved : Conserved state) :
    (scopedHolders state : ℤ) ≤ state.gates.lane.inUse := by
  have count : total Request.scopedChat state.requests = (scopedHolders state : ℤ) :=
    total_eq_card Request.scopedChat
      (fun request => request.isScoped = true ∧ request.holdsChat) fun _ => rfl
  rw [conserved.lane, ← count]
  exact total_mono fun index => (conserved.sound index).scopedChat_le

/-- What stays so while the capacity does. -/
structure Reserved (capacity reserve : ℕ) (state : State Index) : Prop where
  conserved : Conserved state
  capacity : state.gates.chat.capacity = capacity
  reserve : state.gates.lane.reserve = reserve
  lane : state.gates.lane.inUse ≤ state.gates.laneCapacity

theorem Reserved.scopedHolders_le {capacity reserve : ℕ} {state : State Index}
    (reserved : Reserved capacity reserve state) : scopedHolders state ≤ capacity - reserve := by
  have holders := reserved.conserved.scopedHolders_le
  have within := reserved.lane
  rw [Gates.laneCapacity, ReservedLane.capacity, reserved.capacity, reserved.reserve] at within
  omega

theorem initial_reserved (capacity : ℤ) (reserve : ℕ) (isScoped stream : Index → Bool) :
    Reserved (max 1 capacity.toNat) reserve (initial capacity reserve isScoped stream) :=
  ⟨initial_conserved capacity reserve isScoped stream, rfl, rfl, Int.natCast_nonneg _⟩

variable [DecidableEq Index]

theorem step_reserved {capacity reserve : ℕ} (state : State Index) (event : Event Index)
    (next : State Index) (constant : ∀ changed, event ≠ .setCapacity changed)
    (stepped : machine.step state event = some next) (reserved : Reserved capacity reserve state) :
    Reserved capacity reserve next := by
  have conserved := step_conserved state event next stepped reserved.conserved
  obtain ⟨index, action, turn, -, ran, rfl⟩ | ⟨changed, rfl, -⟩ := machine_step_cases stepped
  · have balanced := segment_balanced ran
    have laneCapacity : turn.gates.laneCapacity = state.gates.laneCapacity := by
      unfold Gates.laneCapacity ReservedLane.capacity
      rw [balanced.capacity, balanced.reserve]
    refine ⟨conserved, balanced.capacity.trans reserved.capacity,
      balanced.reserve.trans reserved.reserve, ?_⟩
    show turn.gates.lane.inUse ≤ turn.gates.laneCapacity
    rw [laneCapacity]
    rcases segment_guarded ran with fewer | within
    · exact fewer.trans reserved.lane
    · exact within
  · exact absurd rfl (constant changed)

theorem run_reserved {capacity reserve : ℕ} {start finish : State Index}
    {events : List (Event Index)} (constant : ConstantCapacity events)
    (ran : machine.run start events = some finish) (reserved : Reserved capacity reserve start) :
    Reserved capacity reserve finish :=
  machine.run_invariant_of_guarded (fun _ event => ∀ changed, event ≠ .setCapacity changed)
    (Reserved capacity reserve) (fun state event next constant stepped => step_reserved state event next constant stepped)
    (machine.guarded_of_forall (fun event member _ => constant event member) start) ran reserved

/-- A scoped `acquire` that returns finds the scoped holders within what the reserve leaves. -/
theorem grant_within {state next : State Index} {event : Event Index} {index : Index}
    (conserved : Conserved state) (isScoped : (state.requests index).isScoped = true)
    (ungranted : (state.requests index).acquire ≠ .granted)
    (stepped : machine.step state event = some next)
    (granted : (next.requests index).acquire = .granted) :
    (scopedHolders next : ℤ) ≤ next.gates.chat.capacity - next.gates.lane.reserve := by
  have holders := (step_conserved state event next stepped conserved).scopedHolders_le
  have sound := (step_conserved state event next stepped conserved).sound index
  have unwoken (notifyChat : Bool) {request : Request}
      (now : (wake notifyChat request).acquire = .granted) : request.acquire = .granted := by
    unfold wake at now
    split at now
    · cases now
    · exact now
  obtain ⟨mover, action, turn, rfl, ran, rfl⟩ | ⟨changed, -, rfl⟩ := machine_step_cases stepped
  · by_cases same : index = mover
    · subst same
      rw [after_self] at granted sound
      have grantedNow := unwoken _ granted
      obtain rfl := segment_grants ran ungranted grantedNow
      obtain ⟨inner, innerRan, rfl⟩ := Option.map_eq_some_iff.mp ran
      obtain ⟨gatesSame, requestSame⟩ := enterBlock_same inner
      have innerGranted : inner.request.acquire = .granted := by
        rw [requestSame] at grantedNow
        exact grantedNow
      have within := acquireSegment_within isScoped innerRan innerGranted
      -- The request itself is a holder, so a lane of capacity zero would be over its capacity.
      have some : 0 < scopedHolders (state.after index (enterBlock inner)) := by
        refine Finset.card_pos.mpr ⟨index, Finset.mem_filter.mpr ⟨Finset.mem_univ index, ?_⟩⟩
        rw [after_self, wake_isScoped, requestSame, Request.holdsChat, wake_chat]
        exact ⟨(acquireSegment_balanced innerRan).isScoped.trans isScoped,
          acquireSegment_holds (conserved.sound index) innerRan innerGranted⟩
      have laneHolders : (scopedHolders (state.after index (enterBlock inner)) : ℤ) ≤
        (enterBlock inner).gates.lane.inUse := holders
      rw [gatesSame] at laneHolders
      show (scopedHolders (state.after index (enterBlock inner)) : ℤ) ≤
        (enterBlock inner).gates.chat.capacity - (enterBlock inner).gates.lane.reserve
      rw [gatesSame]
      rw [Gates.laneCapacity, ReservedLane.capacity] at within
      omega
    · have before : (state.requests index).acquire = .granted := by
        refine unwoken turn.notifyChat ?_
        have other : (state.after mover turn).requests index =
            wake turn.notifyChat (state.requests index) := by
          show wake _ (Function.update state.requests mover turn.request index) = _
          rw [Function.update_of_ne same]
        rw [← other]
        exact granted
      exact absurd before ungranted
  · exact absurd (unwoken true granted) ungranted

/-- A request that is being refused stays so in every run in which its client stays. -/
theorem run_refusing {start finish : State Index} {events : List (Event Index)} {index : Index}
    (stays : ∀ event ∈ events, event ≠ .request index .disconnect)
    (ran : machine.run start events = some finish) (conserved : Conserved start)
    (refusing : (start.requests index).Refusing) : (finish.requests index).Refusing := by
  have wakes (notifyChat : Bool) {request : Request} (still : request.Refusing) :
      (wake notifyChat request).Refusing := by
    rw [wake_of_not_waiting notifyChat still.not_waiting]
    exact still
  refine (machine.run_invariant_of_guarded
    (fun _ event => event ≠ .request index .disconnect)
    (fun state => Conserved state ∧ (state.requests index).Refusing)
    (fun state event next stay stepped held => ⟨step_conserved state event next stepped held.1, ?_⟩)
    (machine.guarded_of_forall (fun event member _ => stays event member) start) ran
    ⟨conserved, refusing⟩).2
  obtain ⟨mover, action, turn, rfl, segmentRan, rfl⟩ | ⟨changed, -, rfl⟩ :=
    machine_step_cases stepped
  · refine wakes _ ?_
    by_cases same : index = mover
    · subst same
      rw [Function.update_self]
      exact segment_refusing (held.1.sound index) held.2
        (fun leaves => stay (by rw [leaves])) segmentRan
    · rw [Function.update_of_ne same]
      exact held.2
  · exact wakes true held.2

/-! ### The owner's share -/

/-- With the owner's share free, an owner request that asks for a chat slot gets it at once. -/
theorem owner_granted {capacity reserve : ℕ} {state : State Index} {index : Index}
    (reserved : Reserved capacity reserve state) (enough : reserve ≤ capacity)
    (owner : (state.requests index).isScoped = false)
    (asks : (state.requests index).acquire = .scheduled)
    (uncancelled : (state.requests index).cancelRequested = false)
    (few : ownersAtGate state index < reserve) :
    ∃ next, machine.step state (.request index .acquire) = some next ∧
      (next.requests index).acquire = .granted := by
  have conserved := reserved.conserved
  have holders := reserved.scopedHolders_le
  -- The holders are the scoped ones and the other owner requests.
  have others : total Request.ownerChat state.requests ≤ ownersAtGate state index := by
    have idle : ¬(state.requests index).holdsChat := by
      have accounted := (conserved.sound index).accounted
      simp only [Request.Accounted, asks] at accounted
      simp [Request.holdsChat, accounted.1]
    have count : total Request.ownerChat state.requests = (Finset.univ.filter fun other =>
        ¬(state.requests other).isScoped = true ∧ (state.requests other).holdsChat).card :=
      total_eq_card Request.ownerChat
        (fun request => ¬request.isScoped = true ∧ request.holdsChat) fun _ => rfl
    rw [count]
    refine Int.ofNat_le.mpr (Finset.card_le_card fun other member => ?_)
    obtain ⟨-, isOwner, holds⟩ := Finset.mem_filter.mp member
    refine Finset.mem_filter.mpr ⟨Finset.mem_univ other, fun same => ?_, ?_, Or.inl holds⟩
    · exact idle (same ▸ holds)
    · simpa using isOwner
  have inUse : state.gates.chat.inUse =
      total Request.ownerChat state.requests + scopedHolders state := by
    have split : total (fun request => request.chat.held) state.requests =
        total (fun request => request.ownerChat + request.scopedChat) state.requests :=
      Finset.sum_congr rfl fun other _ => (conserved.sound other).held_eq
    rw [conserved.chat, split, total_add]
    congr 1
    exact total_eq_card Request.scopedChat
      (fun request => request.isScoped = true ∧ request.holdsChat) fun _ => rfl
  have room : state.gates.chat.hasRoom = true := by
    rw [AdmissionGate.hasRoom, decide_eq_true_eq, reserved.capacity]
    omega
  have ran : segment state.gates (state.requests index) .acquire =
      some (enterBlock (tryChat state.gates (state.requests index))) := by
    rw [segment, acquireSegment, asks]
    simp [owner, uncancelled]
  refine ⟨_, machine_request ran, ?_⟩
  have granted : (tryChat state.gates (state.requests index)).request.acquire = .granted := by
    rw [tryChat, if_pos room, chatArrived, if_neg (by simp [owner])]
  have grantedStill : (enterBlock (tryChat state.gates (state.requests index))).request.acquire =
      .granted := by
    rw [(enterBlock_same _).2]
    exact granted
  rw [after_self, wake_of_not_waiting _ (by rw [grantedStill]; exact fun _ => Acquire.noConfusion),
    grantedStill]

/-- A scoped request that finds the lane closed is refused in the same segment. -/
theorem scoped_refused {state : State Index} {index : Index} (conserved : Conserved state)
    (isScoped : (state.requests index).isScoped = true)
    (asks : (state.requests index).acquire = .scheduled ∨
      (state.requests index).acquire = .laneWaiting)
    (uncancelled : (state.requests index).cancelRequested = false)
    (closed : state.gates.laneCapacity = 0) :
    ∃ next, machine.step state (.request index .acquire) = some next ∧
      (next.requests index).acquire = .laneClosed := by
  have nonneg := conserved.scopedHolders_le
  have ran : segment state.gates (state.requests index) .acquire =
      some (enterBlock (tryLane state.gates (state.requests index))) := by
    rw [segment, acquireSegment]
    rcases asks with asks | asks <;> simp [asks, isScoped, uncancelled]
  have refused : (enterBlock (tryLane state.gates (state.requests index))).request.acquire =
      .laneClosed := by
    rw [(enterBlock_same _).2]
    show (tryLane state.gates (state.requests index)).request.acquire = .laneClosed
    rw [tryLane, if_pos (by omega), if_pos closed]
  refine ⟨_, machine_request ran, ?_⟩
  rw [after_self, wake_of_not_waiting _ (by rw [refused]; exact fun _ => Acquire.noConfusion),
    refused]

/-- The reserved lane keeps the owner's share, for any number of requests and every
interleaving. A scoped `acquire` that returns leaves at most `capacity - reserve` scoped
holders, whatever the capacity did while it waited. While the capacity stays, that holds all
the time, and an owner request that asks when fewer than `reserve` others hold or wait for a
slot is granted in the segment in which it asks (or, the reserve being all of the capacity,
no scoped request ever holds a slot it could wait for). A scoped request that finds the lane
closed raises `LaneClosed`; one whose chat slot finds the lane over its capacity is never
granted, can only go on to `LaneClosed`, and holds nothing then. -/
theorem reserved_lane_keeps_reserve (capacity : ℤ) (reserve : ℕ) (isScoped stream : Index → Bool)
    (events : List (Event Index)) (state : State Index)
    (ran : machine.run (initial capacity reserve isScoped stream) events = some state) :
    (∀ event next index, (state.requests index).isScoped = true →
      (state.requests index).acquire ≠ .granted → machine.step state event = some next →
      (next.requests index).acquire = .granted →
        (scopedHolders next : ℤ) ≤ next.gates.chat.capacity - reserve) ∧
    (ConstantCapacity events → scopedHolders state ≤ state.gates.chat.capacity - reserve) ∧
    (ConstantCapacity events → ∀ index, (state.requests index).isScoped = false →
      (state.requests index).acquire = .scheduled →
      (state.requests index).cancelRequested = false → ownersAtGate state index < reserve →
        (∃ next, machine.step state (.request index .acquire) = some next ∧
          (next.requests index).acquire = .granted) ∨
        state.gates.chat.capacity < reserve ∧ ∀ later finish, ConstantCapacity later →
          machine.run state later = some finish → scopedHolders finish = 0) ∧
    (∀ index, (state.requests index).isScoped = true →
      ((state.requests index).acquire = .scheduled ∨
        (state.requests index).acquire = .laneWaiting) →
      (state.requests index).cancelRequested = false → state.gates.laneCapacity = 0 →
        ∃ next, machine.step state (.request index .acquire) = some next ∧
          (next.requests index).acquire = .laneClosed) ∧
    (∀ index next, (state.requests index).isScoped = true →
      machine.step state (.request index .acquire) = some next →
      (next.requests index).chat.taken = (state.requests index).chat.taken + 1 →
      (next.gates.laneCapacity : ℤ) < next.gates.lane.inUse →
        ∀ later finish, (∀ event ∈ later, event ≠ .request index .disconnect) →
          machine.run next later = some finish →
          (finish.requests index).Refusing ∧
            ∃ actions : List Action, (∀ action ∈ actions, action = .shield ∨ action = .acquire) ∧
              ∃ last, machine.run finish (actions.map (.request index)) = some last ∧
                (last.requests index).acquire = .laneClosed) ∧
    (∀ index, (state.requests index).acquire = .laneClosed →
      ¬(state.requests index).holdsChat ∧ ¬(state.requests index).holdsLane) := by
  have conserved := run_conserved ran (initial_conserved capacity reserve isScoped stream)
  have reserveSame : state.gates.lane.reserve = reserve := run_reserve ran
  have whileConstant (constant : ConstantCapacity events) :
      Reserved (max 1 capacity.toNat) reserve state :=
    run_reserved constant ran (initial_reserved capacity reserve isScoped stream)
  refine ⟨fun event next index kind ungranted stepped granted => ?_, fun constant => ?_,
    fun constant index owner asks uncancelled few => ?_,
    fun index kind asks uncancelled closed =>
      scoped_refused conserved kind asks uncancelled closed,
    fun index next kind stepped arrived exceeds later finish stays laterRan => ?_,
    fun index refused => (conserved.sound index).idle_of_laneClosed refused⟩
  · have reserveNext : next.gates.lane.reserve = reserve := by
      rw [← reserveSame]
      have once : machine.run state [event] = some next :=
        machine.run_cons_eq_some.mpr ⟨next, stepped, rfl⟩
      exact run_reserve once
    rw [← reserveNext]
    exact grant_within conserved kind ungranted stepped granted
  · have reserved := whileConstant constant
    rw [reserved.capacity]
    exact reserved.scopedHolders_le
  · have reserved := whileConstant constant
    by_cases enough : reserve ≤ max 1 capacity.toNat
    · exact Or.inl (owner_granted reserved enough owner asks uncancelled few)
    · refine Or.inr ⟨?_, fun later finish laterConstant laterRan => ?_⟩
      · rw [reserved.capacity]
        omega
      · have holders := (run_reserved laterConstant laterRan reserved).scopedHolders_le
        omega
  · have nextConserved := step_conserved state _ next stepped conserved
    have refusing := run_refusing stays laterRan nextConserved
      (scoped_gives_back kind stepped arrived exceeds)
    exact ⟨refusing, refusing_raises ((run_conserved laterRan nextConserved).sound index) refusing⟩

/-- Two slots, one of them reserved: the first scoped request has the other, the second waits
in the lane, and an owner request is about to ask. -/
def laneRun : List (Event (Fin 4)) :=
  [.request 0 .start, .request 0 .acquire, .request 1 .start, .request 1 .acquire,
    .request 2 .start]

/-- Three slots, one of them reserved, all taken; the second scoped request is through the lane
and waits for a chat slot when the layout shrinks to two slots and the owner leaves. -/
def shrinkRun : List (Event (Fin 4)) :=
  [.request 0 .start, .request 0 .acquire, .request 2 .start, .request 2 .acquire,
    .request 3 .start, .request 3 .acquire, .request 1 .start, .request 1 .acquire,
    .setCapacity 2, .request 2 .disconnect, .request 3 .disconnect]

theorem reserved_lane_keeps_reserve_laneRun_shrinkRun :
    (∃ state, machine.run (initial 2 1 ![true, true, false, false] ![true, true, true, true])
        laneRun = some state ∧ scopedHolders state = 1 ∧
      ((∃ next, machine.step state (.request 2 .acquire) = some next ∧
          (next.requests 2).acquire = .granted) ∨
        state.gates.chat.capacity < 1 ∧ ∀ later finish, ConstantCapacity later →
          machine.run state later = some finish → scopedHolders finish = 0)) ∧
    ∃ state next, machine.run (initial 3 1 ![true, true, false, false] ![true, true, true, true])
        shrinkRun = some state ∧ machine.step state (.request 1 .acquire) = some next ∧
      (next.requests 1).Refusing :=
  ⟨⟨_, rfl, rfl, (reserved_lane_keeps_reserve 2 1 ![true, true, false, false]
      ![true, true, true, true] laneRun _ rfl).2.2.1
      (by simp [ConstantCapacity, laneRun]) 2 rfl rfl rfl (by decide)⟩,
    _, _, rfl, rfl, ((reserved_lane_keeps_reserve 3 1 ![true, true, false, false]
      ![true, true, true, true] shrinkRun _ rfl).2.2.2.2.1 1 _ rfl rfl
      rfl (by decide) [] _ (by simp) rfl).1⟩

end Interleaving

end Admission

end LocalGpuCluster
