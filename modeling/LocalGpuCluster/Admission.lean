/-
This file models chat admission: `AdmissionGate` and `hold_slot` of `stream_admission.py`,
`ReservedLane`, `_LaneThenChat` and `admitted` of `workforce_lane.py`, and the requests that
use them under asyncio.

Asyncio runs one task at a time and switches only where an await suspends, so an event of
the model is one uninterrupted segment between two suspension points. Acquiring a
`Condition`'s lock suspends only when the lock is held, and none of the code here holds it
across a suspension; the bodies of `AdmissionGate.release`, `ReservedLane.release` and
`_LaneThenChat.release` are therefore single segments.

A request is a coroutine that calls `acquire` on its gate (in a task of its own for
`hold_slot`, in the request's own task for `async with` and `admitted`), and at most one
task that `asyncio.shield` started to give slots back. Beside its control state a request
carries the history of its gate operations: how often it added one to `_in_use` of either
gate, how often it took one off, and how often the code around the gate called `release`.
-/

import LocalGpuCluster.Machine

namespace LocalGpuCluster

namespace Admission

/-! ### The two gates -/

/-- `AdmissionGate`: `_cap` is never below one, `_in_use` is whatever the operations made it. -/
structure AdmissionGate where
  capacity : ℕ
  inUse : ℤ
  capacity_pos : 1 ≤ capacity

namespace AdmissionGate

/-- `AdmissionGate.__init__`. -/
def new (capacity : ℤ) : AdmissionGate :=
  ⟨max 1 capacity.toNat, 0, le_max_left _ _⟩

/-- The predicate `acquire` waits for. -/
def hasRoom (gate : AdmissionGate) : Bool := decide (gate.inUse < gate.capacity)

def locked (gate : AdmissionGate) : Bool := decide ((gate.capacity : ℤ) ≤ gate.inUse)

/-- `self._in_use += 1`. -/
def take (gate : AdmissionGate) : AdmissionGate := { gate with inUse := gate.inUse + 1 }

/-- `self._in_use -= 1`. -/
def give (gate : AdmissionGate) : AdmissionGate := { gate with inUse := gate.inUse - 1 }

/-- `set_capacity` without its `notify_all`. -/
def setCapacity (gate : AdmissionGate) (capacity : ℤ) : AdmissionGate :=
  { gate with capacity := max 1 capacity.toNat, capacity_pos := le_max_left _ _ }

@[simp] theorem take_inUse (gate : AdmissionGate) : gate.take.inUse = gate.inUse + 1 := rfl
@[simp] theorem take_capacity (gate : AdmissionGate) : gate.take.capacity = gate.capacity := rfl
@[simp] theorem give_inUse (gate : AdmissionGate) : gate.give.inUse = gate.inUse - 1 := rfl
@[simp] theorem give_capacity (gate : AdmissionGate) : gate.give.capacity = gate.capacity := rfl
@[simp] theorem setCapacity_inUse (gate : AdmissionGate) (capacity : ℤ) :
    (gate.setCapacity capacity).inUse = gate.inUse := rfl
@[simp] theorem new_inUse (capacity : ℤ) : (new capacity).inUse = 0 := rfl

end AdmissionGate

/-- `ReservedLane`: its capacity is read off the chat gate each time it is asked for. -/
structure ReservedLane where
  reserve : ℕ
  inUse : ℤ

namespace ReservedLane

/-- `max(0, self._chat.capacity - self._reserve)`. -/
def capacity (lane : ReservedLane) (chat : AdmissionGate) : ℕ := chat.capacity - lane.reserve

/-- `self._in_use += 1`. -/
def take (lane : ReservedLane) : ReservedLane := { lane with inUse := lane.inUse + 1 }

/-- `self._in_use -= 1`. -/
def give (lane : ReservedLane) : ReservedLane := { lane with inUse := lane.inUse - 1 }

@[simp] theorem take_inUse (lane : ReservedLane) : lane.take.inUse = lane.inUse + 1 := rfl
@[simp] theorem take_reserve (lane : ReservedLane) : lane.take.reserve = lane.reserve := rfl
@[simp] theorem give_inUse (lane : ReservedLane) : lane.give.inUse = lane.inUse - 1 := rfl
@[simp] theorem give_reserve (lane : ReservedLane) : lane.give.reserve = lane.reserve := rfl

end ReservedLane

/-- The state every request shares. -/
structure Gates where
  chat : AdmissionGate
  lane : ReservedLane

namespace Gates

/-- `self._lane.capacity`. -/
def laneCapacity (gates : Gates) : ℕ := gates.lane.capacity gates.chat

def takeChat (gates : Gates) : Gates := { gates with chat := gates.chat.take }
def giveChat (gates : Gates) : Gates := { gates with chat := gates.chat.give }
def takeLane (gates : Gates) : Gates := { gates with lane := gates.lane.take }
def giveLane (gates : Gates) : Gates := { gates with lane := gates.lane.give }

end Gates

/-! ### Requests -/

/-- Where one call of `acquire` stands. -/
inductive Acquire where
  /-- `acquire` has not been called. -/
  | notCalled
  /-- The coroutine exists and has not run its first segment. -/
  | scheduled
  /-- Inside `ReservedLane.acquire`, in `wait_for(self._cond.wait(), POLL_S)`. -/
  | laneWaiting
  /-- Inside `AdmissionGate.acquire`, in `self._cond.wait_for`; the flag is the wake-up. -/
  | chatWaiting (notified : Bool)
  /-- In `except BaseException: await asyncio.shield(self._lane.release())`. -/
  | givingBackLane
  /-- The lane is over its capacity: in `await asyncio.shield(self.release())`. -/
  | givingBackBoth
  /-- Returned `True`. -/
  | granted
  /-- Raised `LaneClosed`. -/
  | laneClosed
  /-- Raised `CancelledError`. -/
  | cancelled
  deriving DecidableEq, Repr

/-- The task `asyncio.shield` started: `self._lane.release()` or `self.release()`. -/
inductive GiveBack where
  | lane
  | both
  deriving DecidableEq, Repr

/-- Where the code around the gate stands. -/
inductive Body where
  /-- The generator (or the block) has not been entered. -/
  | unstarted
  /-- `hold_slot`: suspended in `asyncio.wait({acquire}, timeout=keepalive_s)`. -/
  | waiting
  /-- `hold_slot`: suspended at `yield ping`. -/
  | pinging
  /-- `hold_slot`: inside `async for chunk in body`. -/
  | streaming
  /-- `hold_slot`: suspended at `yield chunk`. -/
  | yielded
  /-- `hold_slot`: in its `finally`, suspended in `await aclose()`. -/
  | closing
  /-- `async with gate` / `admitted`: awaiting `gate.acquire()` in the request's own task. -/
  | calling
  /-- `async with gate` / `admitted`: inside the block. -/
  | inside
  | ended
  deriving DecidableEq, Repr

/-- How often a request added one to a gate's `_in_use`, and how often it took one off. -/
structure Uses where
  taken : ℕ
  given : ℕ
  deriving DecidableEq, Repr

namespace Uses

def none : Uses := ⟨0, 0⟩
def take (uses : Uses) : Uses := { uses with taken := uses.taken + 1 }
def give (uses : Uses) : Uses := { uses with given := uses.given + 1 }

/-- What the history leaves in the gate's `_in_use`. -/
def held (uses : Uses) : ℤ := uses.taken - uses.given

@[simp] theorem held_none : none.held = 0 := rfl

@[simp] theorem held_take (uses : Uses) : uses.take.held = uses.held + 1 := by
  simp only [held, take]
  omega

@[simp] theorem held_give (uses : Uses) : uses.give.held = uses.held - 1 := by
  simp only [held, give]
  omega

end Uses

structure Request where
  /-- Uses `_LaneThenChat(lane, chat)`; an owner request uses the chat gate itself. -/
  isScoped : Bool
  /-- Runs `hold_slot`; otherwise the slot is held by `async with` or `admitted`. -/
  stream : Bool
  body : Body
  acquire : Acquire
  /-- `Task.cancel()` was called on the task that runs `acquire` and has not been delivered. -/
  cancelRequested : Bool
  /-- The release task that `asyncio.shield` started and the loop has not run yet. -/
  shielded : Option GiveBack
  /-- History of the chat gate's `_in_use`. -/
  chat : Uses
  /-- History of the lane's `_in_use`. -/
  lane : Uses
  /-- How often the code around the gate called `release()`. -/
  releases : ℕ
  deriving DecidableEq, Repr

namespace Request

/-- A request that has not begun. -/
def new (isScoped stream : Bool) : Request :=
  { isScoped, stream, body := .unstarted, acquire := .notCalled, cancelRequested := false,
    shielded := none, chat := .none, lane := .none, releases := 0 }

/-- `acquire.done()`. -/
def acquireDone (request : Request) : Bool :=
  match request.acquire with
  | .granted | .laneClosed | .cancelled => true
  | _ => false

/-- The request added one to the chat gate and has not taken it off. -/
def holdsChat (request : Request) : Prop := request.chat.given < request.chat.taken

/-- The request added one to the lane and has not taken it off. -/
def holdsLane (request : Request) : Prop := request.lane.given < request.lane.taken

instance (request : Request) : Decidable request.holdsChat := by
  unfold holdsChat
  infer_instance

instance (request : Request) : Decidable request.holdsLane := by
  unfold holdsLane
  infer_instance

/-- The request and every task it started have run to their end. -/
def finished (request : Request) : Prop :=
  request.body = .ended ∧ (request.acquire = .notCalled ∨ request.acquireDone = true) ∧
    request.shielded = none

end Request

/-! ### The segments -/

/-- What one segment leaves: the gates, the request, and whether it called `notify_all` on the
chat gate's condition. (A lane waiter polls, so it can run again with or without one.) -/
structure Turn where
  gates : Gates
  request : Request
  notifyChat : Bool := false

/-- `acquire` when the chat slot has arrived: an owner request is done, `_LaneThenChat.acquire`
first checks that the lane is not over its capacity. -/
def chatArrived (gates : Gates) (request : Request) : Turn :=
  if request.isScoped && decide ((gates.laneCapacity : ℤ) < gates.lane.inUse) then
    { gates, request := { request with acquire := .givingBackBoth, shielded := some .both } }
  else
    { gates, request := { request with acquire := .granted } }

/-- `AdmissionGate.acquire` from its predicate on, and what its caller does with the slot. -/
def tryChat (gates : Gates) (request : Request) : Turn :=
  if gates.chat.hasRoom then
    chatArrived gates.takeChat { request with chat := request.chat.take }
  else
    { gates, request := { request with acquire := .chatWaiting false } }

/-- One pass of the loop of `ReservedLane.acquire`; once through, `_LaneThenChat.acquire` goes
on to the chat gate without suspending. -/
def tryLane (gates : Gates) (request : Request) : Turn :=
  if (gates.laneCapacity : ℤ) ≤ gates.lane.inUse then
    if gates.laneCapacity = 0 then
      { gates, request := { request with acquire := .laneClosed } }
    else
      { gates, request := { request with acquire := .laneWaiting } }
  else
    tryChat gates.takeLane { request with lane := request.lane.take }

/-- The next segment of the task that runs `acquire`, `none` when it is not runnable. A pending
cancellation is delivered here, as `CancelledError` at the await the task is suspended in. -/
def acquireSegment (gates : Gates) (request : Request) : Option Turn :=
  match request.acquire with
  | .scheduled =>
      if request.cancelRequested then
        some { gates, request := { request with acquire := .cancelled, cancelRequested := false } }
      else if request.isScoped then some (tryLane gates request)
      else some (tryChat gates request)
  | .laneWaiting =>
      if request.cancelRequested then
        some { gates, request := { request with acquire := .cancelled, cancelRequested := false } }
      else some (tryLane gates request)
  | .chatWaiting notified =>
      if request.cancelRequested then
        if request.isScoped then
          some { gates
                 request := { request with
                   acquire := .givingBackLane, cancelRequested := false,
                   shielded := some .lane } }
        else
          some { gates
                 request := { request with acquire := .cancelled, cancelRequested := false } }
      else if notified then some (tryChat gates request)
      else none
  | .givingBackLane =>
      -- The original cancellation is re-raised; a second one ends the await all the same.
      if request.cancelRequested || request.shielded.isNone then
        some { gates, request := { request with acquire := .cancelled, cancelRequested := false } }
      else none
  | .givingBackBoth =>
      if request.cancelRequested then
        some { gates, request := { request with acquire := .cancelled, cancelRequested := false } }
      else if request.shielded.isNone then
        some { gates, request := { request with acquire := .laneClosed } }
      else none
  | .notCalled | .granted | .laneClosed | .cancelled => none

/-- `release()` of the request's gate: the chat gate, and for `_LaneThenChat` then the lane. -/
def release (gates : Gates) (request : Request) : Turn :=
  if request.isScoped then
    { gates := gates.giveChat.giveLane
      request := { request with chat := request.chat.give, lane := request.lane.give }
      notifyChat := true }
  else
    { gates := gates.giveChat, request := { request with chat := request.chat.give }
      notifyChat := true }

/-- The shielded release task. -/
def shieldSegment (gates : Gates) (request : Request) : Option Turn :=
  match request.shielded with
  | none => none
  | some .lane =>
      some { gates := gates.giveLane
             request := { request with lane := request.lane.give, shielded := none } }
  | some .both =>
      some { gates := gates.giveChat.giveLane
             request := { request with
               chat := request.chat.give, lane := request.lane.give, shielded := none }
             notifyChat := true }

/-- The `finally` of `hold_slot` and the exit of `async with` / `admitted`, up to the next
suspension: the slot goes back if `acquire` was granted, else the acquire task is cancelled
(which does nothing to a task that is done). -/
def finally_ (gates : Gates) (request : Request) (after : Body) : Turn :=
  if request.acquire = .granted then
    release gates { request with body := after, releases := request.releases + 1 }
  else
    { gates
      request := { request with
        body := after, cancelRequested := request.cancelRequested || !request.acquireDone } }

/-- `hold_slot` once `acquire` is done: `acquire.result()`, then the body, or the `finally`
when the result is an exception. -/
def afterAcquire (gates : Gates) (request : Request) : Turn :=
  if request.acquire = .granted then { gates, request := { request with body := .streaming } }
  else finally_ gates request .closing

/-- What can happen to one request. -/
inductive Action where
  /-- The generator is asked for its first item, or the block is entered. -/
  | start
  /-- The task that runs `acquire` runs its next segment. -/
  | acquire
  /-- The shielded release task runs. -/
  | shield
  /-- `asyncio.wait` returns because the acquire task is done. -/
  | wake
  /-- `asyncio.wait` returns because `keepalive_s` went by. -/
  | keepalive
  /-- The consumer asks for the next item after a yield. -/
  | resume
  /-- The wrapped body produces a chunk. -/
  | chunk
  /-- The wrapped body ends, by itself or by an exception. -/
  | bodyEnds
  /-- The client is gone: `aclose()` at a yield, `CancelledError` at a suspended await. -/
  | disconnect
  /-- The body's `aclose()` completes. -/
  | closed
  deriving DecidableEq, Repr

/-- `async with gate` and `admitted` go on in the same segment once their `acquire` is done. -/
def enterBlock (turn : Turn) : Turn :=
  match turn.request.body, turn.request.acquire with
  | .calling, .granted => { turn with request := { turn.request with body := .inside } }
  | .calling, .laneClosed | .calling, .cancelled =>
      { turn with request := { turn.request with body := .ended } }
  | _, _ => turn

/-- One segment of one request, `none` when the action cannot happen. -/
def segment (gates : Gates) (request : Request) : Action → Option Turn
  | .start =>
      if request.body = .unstarted then
        some { gates
               request := { request with
                 body := if request.stream then .waiting else .calling, acquire := .scheduled } }
      else none
  | .acquire => (acquireSegment gates request).map enterBlock
  | .shield => shieldSegment gates request
  | .wake =>
      if request.body = .waiting && request.acquireDone then some (afterAcquire gates request)
      else none
  | .keepalive =>
      if request.body = .waiting && !request.acquireDone then
        some { gates, request := { request with body := .pinging } }
      else none
  | .resume =>
      match request.body with
      | .pinging =>
          if request.acquireDone then some (afterAcquire gates request)
          else some { gates, request := { request with body := .waiting } }
      | .yielded => some { gates, request := { request with body := .streaming } }
      | _ => none
  | .chunk =>
      if request.body = .streaming then
        some { gates, request := { request with body := .yielded } }
      else none
  | .bodyEnds =>
      match request.body with
      | .streaming => some (finally_ gates request .closing)
      | .inside => some (finally_ gates request .ended)
      | _ => none
  | .disconnect =>
      match request.body with
      | .unstarted => some { gates, request := { request with body := .ended } }
      | .waiting | .pinging | .streaming | .yielded => some (finally_ gates request .closing)
      | .inside => some (finally_ gates request .ended)
      | .closing => some { gates, request := { request with body := .ended } }
      | .calling => some { gates, request := { request with cancelRequested := true } }
      | .ended => none
  | .closed =>
      if request.body = .closing then
        some { gates, request := { request with body := .ended } }
      else none

/-! ### The machine -/

/-- A wake-up from the chat gate's condition. -/
def wake (notifyChat : Bool) (request : Request) : Request :=
  match notifyChat, request.acquire with
  | true, .chatWaiting _ => { request with acquire := .chatWaiting true }
  | _, _ => request

structure State (Index : Type) where
  gates : Gates
  requests : Index → Request

inductive Event (Index : Type) where
  | request (index : Index) (action : Action)
  | setCapacity (capacity : ℤ)

variable {Index : Type} [DecidableEq Index]

/-- The state after a segment of one request: its waiters are woken, nothing else moves. -/
def State.after (state : State Index) (index : Index) (turn : Turn) : State Index where
  gates := turn.gates
  requests other := wake turn.notifyChat (Function.update state.requests index turn.request other)

/-- Any segment of any request, or a change of the chat gate's capacity. -/
def machine : Machine (State Index) (Event Index) where
  step state
    | .request index action =>
        (segment state.gates (state.requests index) action).map (state.after index)
    | .setCapacity capacity =>
        some
          { gates := { state.gates with chat := state.gates.chat.setCapacity capacity }
            requests := fun other => wake true (state.requests other) }

/-- The gates as the router builds them, and requests that have not begun. -/
def initial (capacity : ℤ) (reserve : ℕ) (isScoped stream : Index → Bool) : State Index where
  gates := { chat := .new capacity, lane := { reserve, inUse := 0 } }
  requests index := .new (isScoped index) (stream index)

end Admission

end LocalGpuCluster
