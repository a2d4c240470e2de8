/-
This file proves that `hold_slot` conserves slots. Two facts carry it.

The first is about one segment: whatever it does to a gate's `_in_use` it does to the
request's own history, so `_in_use` is the total of what the requests' histories leave in
it, for every interleaving.

The second is about one request: where its `acquire` stands determines its history. A
granted request has taken one chat slot (and one lane slot when it is scoped) and given back
as many as the code around the gate released; a refused or cancelled one has given back what
it took, up to what its shielded release task still has to give. The `finally` of
`hold_slot` reads the outcome off the acquire task itself, so a grant that races the
disconnect is still returned, and an acquire that is not done is left with a cancellation
that its next segment delivers, so it can never be granted afterwards.
-/

import LocalGpuCluster.Admission
import Mathlib.Data.Fin.VecNotation
import Mathlib.Tactic.FinCases

namespace LocalGpuCluster

namespace Admission

/-! ### A segment changes the gates by what it adds to its own history -/

/-- The gates moved by exactly what the request recorded; capacity, reserve and the kind of
the request are as before. -/
structure Balanced (gates : Gates) (request : Request) (turn : Turn) : Prop where
  chat : turn.gates.chat.inUse =
    gates.chat.inUse + (turn.request.chat.held - request.chat.held)
  lane : turn.gates.lane.inUse =
    gates.lane.inUse + (turn.request.lane.held - request.lane.held)
  capacity : turn.gates.chat.capacity = gates.chat.capacity
  reserve : turn.gates.lane.reserve = gates.lane.reserve
  isScoped : turn.request.isScoped = request.isScoped

/-- A segment that touches neither the gates nor the history is balanced. -/
theorem Balanced.of_control {gates : Gates} {request : Request} {turn : Turn}
    (gatesSame : turn.gates = gates) (chatSame : turn.request.chat = request.chat)
    (laneSame : turn.request.lane = request.lane)
    (kindSame : turn.request.isScoped = request.isScoped) : Balanced gates request turn where
  chat := by rw [gatesSame, chatSame, sub_self, add_zero]
  lane := by rw [gatesSame, laneSame, sub_self, add_zero]
  capacity := by rw [gatesSame]
  reserve := by rw [gatesSame]
  isScoped := kindSame

theorem chatArrived_balanced (gates : Gates) (request : Request) :
    Balanced gates request (chatArrived gates request) := by
  unfold chatArrived
  split <;> exact .of_control rfl rfl rfl rfl

theorem tryChat_balanced (gates : Gates) (request : Request) :
    Balanced gates request (tryChat gates request) := by
  unfold tryChat
  split
  · obtain ⟨chat, lane, capacity, reserve, isScoped⟩ :=
      chatArrived_balanced gates.takeChat { request with chat := request.chat.take }
    refine ⟨?_, lane, capacity, reserve, isScoped⟩
    rw [chat]
    simp only [Gates.takeChat, AdmissionGate.take_inUse, Uses.held_take]
    omega
  · exact .of_control rfl rfl rfl rfl

theorem tryLane_balanced (gates : Gates) (request : Request) :
    Balanced gates request (tryLane gates request) := by
  unfold tryLane
  split
  · split <;> exact .of_control rfl rfl rfl rfl
  · obtain ⟨chat, lane, capacity, reserve, isScoped⟩ :=
      tryChat_balanced gates.takeLane { request with lane := request.lane.take }
    refine ⟨chat, ?_, capacity, reserve, isScoped⟩
    rw [lane]
    simp only [Gates.takeLane, ReservedLane.take_inUse, Uses.held_take]
    omega

/-- A segment of `acquire` that asks neither gate: it ends or goes on without changing the
gates, the history or what is around it, and leaves `acquire` where no grant can follow. -/
structure GivesUp (gates : Gates) (request : Request) (turn : Turn) : Prop where
  gates : turn.gates = gates
  chat : turn.request.chat = request.chat
  lane : turn.request.lane = request.lane
  isScoped : turn.request.isScoped = request.isScoped
  body : turn.request.body = request.body
  releases : turn.request.releases = request.releases
  acquire : turn.request.acquire = .cancelled ∨ turn.request.acquire = .laneClosed ∨
    turn.request.acquire = .givingBackLane

/-- What a segment of `acquire` can do: ask the lane, ask the chat gate, or give up. It asks only
when no cancellation is pending. -/
theorem acquireSegment_cases {gates : Gates} {request : Request} {turn : Turn}
    (ran : acquireSegment gates request = some turn) :
    (request.cancelRequested = false ∧ (request.acquire = .scheduled ∨
        request.acquire = .laneWaiting) ∧ turn = tryLane gates request) ∨
      (request.cancelRequested = false ∧ (request.acquire = .scheduled ∨
        request.acquire = .chatWaiting true) ∧ turn = tryChat gates request) ∨
      GivesUp gates request turn := by
  unfold acquireSegment at ran
  split at ran
  · rename_i stands
    split at ran
    · cases ran
      exact Or.inr (Or.inr ⟨rfl, rfl, rfl, rfl, rfl, rfl, Or.inl rfl⟩)
    · rename_i uncancelled
      rw [Bool.not_eq_true] at uncancelled
      split at ran <;> cases ran
      · exact Or.inl ⟨uncancelled, Or.inl stands, rfl⟩
      · exact Or.inr (Or.inl ⟨uncancelled, Or.inl stands, rfl⟩)
  · rename_i stands
    split at ran <;> cases ran
    · exact Or.inr (Or.inr ⟨rfl, rfl, rfl, rfl, rfl, rfl, Or.inl rfl⟩)
    · rename_i uncancelled
      rw [Bool.not_eq_true] at uncancelled
      exact Or.inl ⟨uncancelled, Or.inr stands, rfl⟩
  · rename_i notified stands
    split at ran
    · split at ran <;> cases ran
      · exact Or.inr (Or.inr ⟨rfl, rfl, rfl, rfl, rfl, rfl, Or.inr (Or.inr rfl)⟩)
      · exact Or.inr (Or.inr ⟨rfl, rfl, rfl, rfl, rfl, rfl, Or.inl rfl⟩)
    · rename_i uncancelled
      rw [Bool.not_eq_true] at uncancelled
      split at ran <;> cases ran
      rename_i notified
      rw [notified] at stands
      exact Or.inr (Or.inl ⟨uncancelled, Or.inr stands, rfl⟩)
  · split at ran <;> cases ran
    exact Or.inr (Or.inr ⟨rfl, rfl, rfl, rfl, rfl, rfl, Or.inl rfl⟩)
  · split at ran
    · cases ran
      exact Or.inr (Or.inr ⟨rfl, rfl, rfl, rfl, rfl, rfl, Or.inl rfl⟩)
    · split at ran <;> cases ran
      exact Or.inr (Or.inr ⟨rfl, rfl, rfl, rfl, rfl, rfl, Or.inr (Or.inl rfl)⟩)
  · cases ran
  · cases ran
  · cases ran
  · cases ran

theorem acquireSegment_balanced {gates : Gates} {request : Request} {turn : Turn}
    (ran : acquireSegment gates request = some turn) : Balanced gates request turn := by
  obtain ⟨-, -, rfl⟩ | ⟨-, -, rfl⟩ | gaveUp := acquireSegment_cases ran
  · exact tryLane_balanced gates request
  · exact tryChat_balanced gates request
  · exact .of_control gaveUp.gates gaveUp.chat gaveUp.lane gaveUp.isScoped

theorem release_balanced (gates : Gates) (request : Request) :
    Balanced gates request (release gates request) := by
  unfold release
  split <;> constructor <;> simp [Gates.giveChat, Gates.giveLane] <;> omega

theorem finally_balanced (gates : Gates) (request : Request) (after : Body) :
    Balanced gates request (finally_ gates request after) := by
  unfold finally_
  split
  · obtain ⟨chat, lane, capacity, reserve, isScoped⟩ := release_balanced gates
      { request with body := after, releases := request.releases + 1 }
    exact ⟨chat, lane, capacity, reserve, isScoped⟩
  · exact .of_control rfl rfl rfl rfl

theorem afterAcquire_balanced (gates : Gates) (request : Request) :
    Balanced gates request (afterAcquire gates request) := by
  unfold afterAcquire
  split
  · exact .of_control rfl rfl rfl rfl
  · exact finally_balanced gates request .closing

theorem shieldSegment_balanced {gates : Gates} {request : Request} {turn : Turn}
    (ran : shieldSegment gates request = some turn) : Balanced gates request turn := by
  unfold shieldSegment at ran
  split at ran <;> cases ran <;> constructor <;> simp [Gates.giveChat, Gates.giveLane] <;> omega

theorem enterBlock_balanced {gates : Gates} {request : Request} {turn : Turn}
    (balanced : Balanced gates request turn) : Balanced gates request (enterBlock turn) := by
  obtain ⟨chat, lane, capacity, reserve, isScoped⟩ := balanced
  unfold enterBlock
  split <;> exact ⟨chat, lane, capacity, reserve, isScoped⟩

/-- Every segment of every request is balanced. -/
theorem segment_balanced {gates : Gates} {request : Request} {action : Action} {turn : Turn}
    (ran : segment gates request action = some turn) : Balanced gates request turn := by
  cases action with
  | acquire =>
    obtain ⟨inner, innerRan, rfl⟩ := Option.map_eq_some_iff.mp ran
    exact enterBlock_balanced (acquireSegment_balanced innerRan)
  | shield => exact shieldSegment_balanced ran
  | start | keepalive | chunk | closed =>
    simp only [segment] at ran
    split at ran <;> cases ran
    exact .of_control rfl rfl rfl rfl
  | wake =>
    simp only [segment] at ran
    split at ran <;> cases ran
    exact afterAcquire_balanced gates request
  | resume =>
    simp only [segment] at ran
    split at ran <;> (try split at ran) <;> cases ran <;> first
      | exact afterAcquire_balanced gates request
      | exact .of_control rfl rfl rfl rfl
  | bodyEnds | disconnect =>
    simp only [segment] at ran
    split at ran <;> cases ran <;> first
      | exact finally_balanced gates request _
      | exact .of_control rfl rfl rfl rfl

/-! ### Where `acquire` stands determines the history -/

/-- The lane slots that come with a grant. -/
def Request.share (request : Request) : ℕ := if request.isScoped then 1 else 0

/-- The history of a request whose `acquire` stands where it does. -/
def Request.Accounted (request : Request) : Prop :=
  match request.acquire with
  | .notCalled | .scheduled =>
      request.chat = ⟨0, 0⟩ ∧ request.lane = ⟨0, 0⟩ ∧ request.shielded = none
  | .laneWaiting =>
      request.isScoped = true ∧ request.chat = ⟨0, 0⟩ ∧ request.lane = ⟨0, 0⟩ ∧
        request.shielded = none
  | .chatWaiting _ =>
      request.chat = ⟨0, 0⟩ ∧ request.lane = ⟨request.share, 0⟩ ∧ request.shielded = none
  | .givingBackLane =>
      request.isScoped = true ∧ request.chat = ⟨0, 0⟩ ∧
        (request.lane = ⟨1, 0⟩ ∧ request.shielded = some .lane ∨
          request.lane = ⟨1, 1⟩ ∧ request.shielded = none)
  | .givingBackBoth =>
      request.isScoped = true ∧
        (request.chat = ⟨1, 0⟩ ∧ request.lane = ⟨1, 0⟩ ∧ request.shielded = some .both ∨
          request.chat = ⟨1, 1⟩ ∧ request.lane = ⟨1, 1⟩ ∧ request.shielded = none)
  | .granted =>
      request.chat = ⟨1, request.releases⟩ ∧
        request.lane = ⟨request.share, request.share * request.releases⟩ ∧
          request.shielded = none
  | .laneClosed =>
      request.isScoped = true ∧ request.shielded = none ∧
        (request.chat = ⟨0, 0⟩ ∧ request.lane = ⟨0, 0⟩ ∨
          request.chat = ⟨1, 1⟩ ∧ request.lane = ⟨1, 1⟩)
  | .cancelled =>
      request.shielded = none ∧ (request.chat = ⟨0, 0⟩ ∨ request.chat = ⟨1, 1⟩) ∧
          (request.lane = ⟨0, 0⟩ ∨ request.lane = ⟨1, 1⟩) ∨
        request.isScoped = true ∧ request.lane = ⟨1, 0⟩ ∧
          (request.shielded = some .lane ∧ request.chat = ⟨0, 0⟩ ∨
            request.shielded = some .both ∧ request.chat = ⟨1, 0⟩)

/-- `acquire` is at a point from which it could still be granted. -/
def Request.mayBeGranted (request : Request) : Prop :=
  match request.acquire with
  | .scheduled | .laneWaiting | .chatWaiting _ => True
  | _ => False

/-- What the code around the gate has done by the point it stands at: it releases once, in
its `finally`, if the grant was there, and leaves an unfinished `acquire` cancelled. -/
def Request.Placed (request : Request) : Prop :=
  match request.body with
  | .unstarted => request.acquire = .notCalled ∧ request.releases = 0
  | .waiting | .pinging => request.acquire ≠ .notCalled ∧ request.releases = 0
  | .calling =>
      request.acquire ≠ .notCalled ∧ request.acquireDone = false ∧ request.releases = 0
  | .streaming | .yielded | .inside => request.acquire = .granted ∧ request.releases = 0
  | .closing | .ended =>
      request.releases = (if request.acquire = .granted then 1 else 0) ∧
        (request.mayBeGranted → request.cancelRequested = true)

structure Request.Sound (request : Request) : Prop where
  accounted : request.Accounted
  placed : request.Placed

theorem new_sound (isScoped stream : Bool) : (Request.new isScoped stream).Sound :=
  ⟨⟨rfl, rfl, rfl⟩, ⟨rfl, rfl⟩⟩

/-- A wake-up is not part of what a request is accountable for. -/
theorem wake_sound (notifyChat : Bool) {request : Request} (sound : request.Sound) :
    (wake notifyChat request).Sound := by
  unfold wake
  split
  · rename_i waiting
    obtain ⟨accounted, placed⟩ := sound
    constructor
    · simp only [Request.Accounted, waiting] at accounted
      exact accounted
    · revert placed
      simp only [Request.Placed, waiting, Request.acquireDone, Request.mayBeGranted]
      cases request.body <;> simp
  · exact sound

/-- A request that holds its lane share and one chat slot is accounted for, whichever way the
check of `_LaneThenChat.acquire` goes. -/
theorem chatArrived_accounted (gates : Gates) (request : Request) (chat : request.chat = ⟨1, 0⟩)
    (lane : request.lane = ⟨request.share, 0⟩) (shielded : request.shielded = none)
    (kept : request.releases = 0) : (chatArrived gates request).request.Accounted := by
  unfold chatArrived
  split
  · rename_i exceeds
    have isScoped : request.isScoped = true := (Bool.and_eq_true_iff.mp exceeds).1
    have share : request.share = 1 := if_pos isScoped
    exact ⟨isScoped, Or.inl ⟨chat, by rw [lane, share], rfl⟩⟩
  · refine ⟨?_, ?_, shielded⟩
    · rw [chat, kept]
    · rw [lane, kept, Nat.mul_zero]
      rfl

theorem tryChat_accounted (gates : Gates) (request : Request) (chat : request.chat = ⟨0, 0⟩)
    (lane : request.lane = ⟨request.share, 0⟩) (shielded : request.shielded = none)
    (kept : request.releases = 0) : (tryChat gates request).request.Accounted := by
  unfold tryChat
  split
  · refine chatArrived_accounted _ _ ?_ lane shielded kept
    rw [chat]
    rfl
  · exact ⟨chat, lane, shielded⟩

theorem tryLane_accounted (gates : Gates) (request : Request) (isScoped : request.isScoped = true)
    (chat : request.chat = ⟨0, 0⟩) (lane : request.lane = ⟨0, 0⟩)
    (shielded : request.shielded = none) (kept : request.releases = 0) :
    (tryLane gates request).request.Accounted := by
  unfold tryLane
  split
  · split
    · exact ⟨isScoped, shielded, Or.inl ⟨chat, lane⟩⟩
    · exact ⟨isScoped, chat, lane, shielded⟩
  · refine tryChat_accounted _ _ chat ?_ shielded kept
    have share : request.share = 1 := if_pos isScoped
    show request.lane.take = ⟨request.share, 0⟩
    rw [lane, share]
    rfl

/-- A cancelled `acquire` that had taken nothing is accounted for. -/
theorem cancelled_accounted {request : Request} (chat : request.chat = ⟨0, 0⟩)
    (lane : request.lane = ⟨0, 0⟩) (shielded : request.shielded = none) :
    ({ request with acquire := .cancelled, cancelRequested := false } : Request).Accounted :=
  Or.inl ⟨shielded, Or.inl chat, Or.inl lane⟩

/-- Each segment of `acquire` leaves the request accounted for. -/
theorem acquireSegment_accounted {gates : Gates} {request : Request} {turn : Turn}
    (accounted : request.Accounted) (kept : request.acquire ≠ .granted → request.releases = 0)
    (ran : acquireSegment gates request = some turn) : turn.request.Accounted := by
  unfold acquireSegment at ran
  unfold Request.Accounted at accounted
  cases stands : request.acquire with
  | scheduled =>
    simp only [stands] at ran accounted
    obtain ⟨chat, lane, shielded⟩ := accounted
    have kept := kept (by rw [stands]; exact Acquire.noConfusion)
    split at ran
    · cases ran
      exact cancelled_accounted chat lane shielded
    · split at ran
      · rename_i isScoped
        cases ran
        exact tryLane_accounted _ _ isScoped chat lane shielded kept
      · rename_i owner
        cases ran
        refine tryChat_accounted _ _ chat ?_ shielded kept
        rw [lane, Request.share, if_neg owner]
  | laneWaiting =>
    simp only [stands] at ran accounted
    obtain ⟨isScoped, chat, lane, shielded⟩ := accounted
    have kept := kept (by rw [stands]; exact Acquire.noConfusion)
    split at ran
    · cases ran
      exact cancelled_accounted chat lane shielded
    · cases ran
      exact tryLane_accounted _ _ isScoped chat lane shielded kept
  | chatWaiting notified =>
    simp only [stands] at ran accounted
    obtain ⟨chat, lane, shielded⟩ := accounted
    have kept := kept (by rw [stands]; exact Acquire.noConfusion)
    split at ran
    · split at ran
      · rename_i isScoped
        cases ran
        refine ⟨isScoped, chat, Or.inl ⟨?_, rfl⟩⟩
        rw [lane, Request.share, if_pos isScoped]
      · rename_i owner
        cases ran
        refine cancelled_accounted chat ?_ shielded
        rw [lane, Request.share, if_neg owner]
    · split at ran
      · cases ran
        exact tryChat_accounted _ _ chat lane shielded kept
      · cases ran
  | givingBackLane =>
    -- The shielded release has run, or it has not and a second cancellation came first.
    simp only [stands] at ran accounted
    obtain ⟨isScoped, chat, ⟨lane, shielded⟩ | ⟨lane, shielded⟩⟩ := accounted <;>
      split at ran <;> cases ran
    · exact Or.inr ⟨isScoped, lane, Or.inl ⟨shielded, chat⟩⟩
    · exact Or.inl ⟨shielded, Or.inl chat, Or.inr lane⟩
  | givingBackBoth =>
    simp only [stands] at ran accounted
    obtain ⟨isScoped, ⟨chat, lane, shielded⟩ | ⟨chat, lane, shielded⟩⟩ := accounted <;>
      split at ran <;> (try split at ran) <;> cases ran
    · exact Or.inr ⟨isScoped, lane, Or.inr ⟨shielded, chat⟩⟩
    · rename_i idle
      rw [shielded] at idle
      exact absurd idle Bool.false_ne_true
    · exact Or.inl ⟨shielded, Or.inr chat, Or.inr lane⟩
    · exact ⟨isScoped, shielded, Or.inr ⟨chat, lane⟩⟩
  | notCalled | granted | laneClosed | cancelled =>
    rw [stands] at ran
    cases ran

/-- The shielded release task gives back what the `acquire` that started it had taken. -/
theorem shieldSegment_sound {gates : Gates} {request : Request} {turn : Turn}
    (sound : request.Sound) (ran : shieldSegment gates request = some turn) :
    turn.request.Sound := by
  obtain ⟨accounted, placed⟩ := sound
  unfold shieldSegment at ran
  split at ran
  · cases ran
  · rename_i started
    cases ran
    refine ⟨?_, placed⟩
    unfold Request.Accounted at accounted ⊢
    cases stands : request.acquire <;> simp_all [Uses.give]
  · rename_i started
    cases ran
    refine ⟨?_, placed⟩
    unfold Request.Accounted at accounted ⊢
    cases stands : request.acquire <;> simp_all [Uses.give]

/-! ### What the code around the gate may rely on -/

/-- What one segment of `acquire` does to the rest of the request. -/
structure AcquireStep (before after : Request) : Prop where
  body : after.body = before.body
  releases : after.releases = before.releases
  called : after.acquire ≠ .notCalled
  /-- `acquire` is granted only from a point where that was possible and uncancelled. -/
  granted : after.acquire = .granted ∨ after.mayBeGranted →
    before.mayBeGranted ∧ before.cancelRequested = false

theorem tryChat_step (gates : Gates) (request : Request) (may : request.mayBeGranted)
    (uncancelled : request.cancelRequested = false) :
    AcquireStep request (tryChat gates request).request := by
  unfold tryChat chatArrived
  split <;> (try split) <;> exact ⟨rfl, rfl, Acquire.noConfusion, fun _ => ⟨may, uncancelled⟩⟩

theorem tryLane_step (gates : Gates) (request : Request) (may : request.mayBeGranted)
    (uncancelled : request.cancelRequested = false) :
    AcquireStep request (tryLane gates request).request := by
  unfold tryLane
  split
  · split <;> exact ⟨rfl, rfl, Acquire.noConfusion, fun _ => ⟨may, uncancelled⟩⟩
  · obtain ⟨body, releases, called, granted⟩ :=
      tryChat_step gates.takeLane { request with lane := request.lane.take } may uncancelled
    exact ⟨body, releases, called, granted⟩

theorem acquireSegment_step {gates : Gates} {request : Request} {turn : Turn}
    (ran : acquireSegment gates request = some turn) : AcquireStep request turn.request := by
  obtain ⟨uncancelled, stands, rfl⟩ | ⟨uncancelled, stands, rfl⟩ | gaveUp :=
    acquireSegment_cases ran
  · refine tryLane_step gates request ?_ uncancelled
    unfold Request.mayBeGranted
    rcases stands with stands | stands <;> rw [stands] <;> trivial
  · refine tryChat_step gates request ?_ uncancelled
    unfold Request.mayBeGranted
    rcases stands with stands | stands <;> rw [stands] <;> trivial
  · refine ⟨gaveUp.body, gaveUp.releases, ?_, ?_⟩ <;>
      rcases gaveUp.acquire with now | now | now <;> simp [Request.mayBeGranted, now]

/-- Before a grant nothing was released. -/
theorem Request.Placed.kept {request : Request} (placed : request.Placed)
    (ungranted : request.acquire ≠ .granted) : request.releases = 0 := by
  unfold Request.Placed at placed
  cases stands : request.body <;> simp_all

/-- A segment of `acquire`, with what `async with` and `admitted` do once it is over. -/
theorem enterBlock_sound {gates : Gates} {request : Request} {turn : Turn}
    (sound : request.Sound) (ran : acquireSegment gates request = some turn) :
    (enterBlock turn).request.Sound := by
  have accounted := acquireSegment_accounted sound.accounted sound.placed.kept ran
  have kept : request.releases = 0 := sound.placed.kept fun granted => by
    rw [acquireSegment, granted] at ran
    cases ran
  have placed := sound.placed
  obtain ⟨body, releases, called, granted⟩ := acquireSegment_step ran
  rw [kept] at releases
  unfold Request.Placed at placed
  unfold enterBlock
  split
  · rename_i atCall done
    exact ⟨accounted, done, releases⟩
  · rename_i atCall done
    refine ⟨accounted, ?_⟩
    simp [Request.Placed, Request.mayBeGranted, done, releases]
  · rename_i atCall done
    refine ⟨accounted, ?_⟩
    simp [Request.Placed, Request.mayBeGranted, done, releases]
  · rename_i notGranted notClosed notCancelled
    refine ⟨accounted, ?_⟩
    unfold Request.Placed
    rw [body] at notGranted notClosed notCancelled ⊢
    cases stands : request.body with
    | unstarted =>
      rw [stands] at placed
      rw [acquireSegment, placed.1] at ran
      cases ran
    | waiting | pinging => exact ⟨called, releases⟩
    | calling =>
      refine ⟨called, ?_, releases⟩
      cases now : turn.request.acquire <;> simp_all [Request.acquireDone]
    | streaming | yielded | inside =>
      rw [stands] at placed
      rw [acquireSegment, placed.1] at ran
      cases ran
    | closing | ended =>
      -- The cancellation that `finally` left behind rules out a grant.
      rw [stands] at placed
      have never : ¬(turn.request.acquire = .granted ∨ turn.request.mayBeGranted) := fun still => by
        obtain ⟨may, uncancelled⟩ := granted still
        rw [placed.2 may] at uncancelled
        cases uncancelled
      refine ⟨?_, fun may => absurd (Or.inr may) never⟩
      rw [releases, if_neg fun now => never (Or.inl now)]

/-- The `finally` returns the slot exactly when the acquire task holds the grant. -/
theorem finally_sound (gates : Gates) {request : Request} {after : Body}
    (gone : after = .closing ∨ after = .ended) (sound : request.Sound)
    (kept : request.releases = 0) : (finally_ gates request after).request.Sound := by
  obtain ⟨accounted, -⟩ := sound
  unfold finally_
  split
  · rename_i granted
    simp only [Request.Accounted, granted] at accounted
    obtain ⟨chat, lane, shielded⟩ := accounted
    have placed : ({ request with body := after, releases := request.releases + 1 } :
        Request).Placed := by
      rcases gone with rfl | rfl <;> simp [Request.Placed, granted, kept, Request.mayBeGranted]
    unfold release
    split
    · rename_i isScoped
      have share : request.share = 1 := if_pos isScoped
      refine ⟨?_, placed⟩
      simp [Request.Accounted, granted, chat, lane, shielded, kept, Uses.give, Request.share,
        show request.isScoped = true from isScoped]
    · rename_i owner
      refine ⟨?_, placed⟩
      simp [Request.Accounted, granted, chat, lane, shielded, kept, Uses.give, Request.share,
        show request.isScoped = false from by simpa using owner]
  · rename_i refused
    refine ⟨accounted, ?_⟩
    have left : ({ request with body := after, cancelRequested :=
        request.cancelRequested || !request.acquireDone } : Request).mayBeGranted →
        (request.cancelRequested || !request.acquireDone) = true := fun may => by
      unfold Request.mayBeGranted at may
      unfold Request.acquireDone
      cases stands : request.acquire <;> simp_all
    rcases gone with rfl | rfl <;> exact ⟨by rw [if_neg refused]; exact kept, left⟩

theorem afterAcquire_sound (gates : Gates) {request : Request} (sound : request.Sound)
    (kept : request.releases = 0) : (afterAcquire gates request).request.Sound := by
  unfold afterAcquire
  split
  · rename_i granted
    exact ⟨sound.accounted, granted, kept⟩
  · exact finally_sound gates (Or.inl rfl) sound kept

/-- Every segment of a sound request leaves it sound. -/
theorem segment_sound {gates : Gates} {request : Request} {action : Action} {turn : Turn}
    (sound : request.Sound) (ran : segment gates request action = some turn) :
    turn.request.Sound := by
  have accounted := sound.accounted
  have placed := sound.placed
  unfold Request.Placed at placed
  cases action with
  | acquire =>
    obtain ⟨inner, innerRan, rfl⟩ := Option.map_eq_some_iff.mp ran
    exact enterBlock_sound sound innerRan
  | shield => exact shieldSegment_sound sound ran
  | start =>
    simp only [segment] at ran
    split at ran <;> cases ran
    rename_i fresh
    rw [fresh] at placed
    simp only [Request.Accounted, placed.1] at accounted
    refine ⟨accounted, ?_⟩
    cases request.stream <;> simp [Request.Placed, Request.acquireDone, placed.2]
  | keepalive =>
    simp only [segment] at ran
    split at ran <;> cases ran
    rename_i waiting
    rw [Bool.and_eq_true_iff, decide_eq_true_eq] at waiting
    rw [waiting.1] at placed
    exact ⟨accounted, placed⟩
  | chunk =>
    simp only [segment] at ran
    split at ran <;> cases ran
    rename_i streaming
    rw [streaming] at placed
    exact ⟨accounted, placed⟩
  | closed =>
    simp only [segment] at ran
    split at ran <;> cases ran
    rename_i closing
    rw [closing] at placed
    exact ⟨accounted, placed⟩
  | wake =>
    simp only [segment] at ran
    split at ran <;> cases ran
    rename_i waiting
    rw [Bool.and_eq_true_iff, decide_eq_true_eq] at waiting
    rw [waiting.1] at placed
    exact afterAcquire_sound gates sound placed.2
  | resume =>
    simp only [segment] at ran
    split at ran
    · rename_i pinging
      rw [pinging] at placed
      split at ran <;> cases ran
      · exact afterAcquire_sound gates sound placed.2
      · exact ⟨accounted, placed⟩
    · rename_i yielded
      rw [yielded] at placed
      cases ran
      exact ⟨accounted, placed⟩
    · cases ran
  | bodyEnds =>
    simp only [segment] at ran
    split at ran <;> cases ran <;> rename_i stands <;> rw [stands] at placed
    · exact finally_sound gates (Or.inl rfl) sound placed.2
    · exact finally_sound gates (Or.inr rfl) sound placed.2
  | disconnect =>
    simp only [segment] at ran
    split at ran <;> cases ran <;> rename_i stands <;> rw [stands] at placed
    · refine ⟨accounted, ?_⟩
      simp [Request.Placed, Request.mayBeGranted, placed]
    · exact finally_sound gates (Or.inl rfl) sound placed.2
    · exact finally_sound gates (Or.inl rfl) sound placed.2
    · exact finally_sound gates (Or.inl rfl) sound placed.2
    · exact finally_sound gates (Or.inl rfl) sound placed.2
    · exact finally_sound gates (Or.inr rfl) sound placed.2
    · exact ⟨accounted, placed⟩
    · refine ⟨accounted, ?_⟩
      unfold Request.Placed
      rw [stands]
      exact placed

/-! ### Every interleaving -/

/-- What every reachable state satisfies: the gates hold the total of the histories, and every
request is sound. -/
structure Conserved {Index : Type} [Fintype Index] (state : State Index) : Prop where
  chat : state.gates.chat.inUse = total (fun request => request.chat.held) state.requests
  lane : state.gates.lane.inUse = total (fun request => request.lane.held) state.requests
  sound : ∀ index, (state.requests index).Sound

@[simp] theorem wake_chat (notifyChat : Bool) (request : Request) :
    (wake notifyChat request).chat = request.chat := by
  unfold wake
  split <;> rfl

@[simp] theorem wake_lane (notifyChat : Bool) (request : Request) :
    (wake notifyChat request).lane = request.lane := by
  unfold wake
  split <;> rfl

@[simp] theorem wake_isScoped (notifyChat : Bool) (request : Request) :
    (wake notifyChat request).isScoped = request.isScoped := by
  unfold wake
  split <;> rfl

section Interleaving

variable {Index : Type}

theorem initial_conserved [Fintype Index] (capacity : ℤ) (reserve : ℕ) (isScoped stream : Index → Bool) :
    Conserved (initial capacity reserve isScoped stream) where
  chat := (Finset.sum_eq_zero fun _ _ => rfl).symm
  lane := (Finset.sum_eq_zero fun _ _ => rfl).symm
  sound index := new_sound (isScoped index) (stream index)

variable [DecidableEq Index]

/-- A step of the machine is a segment of one request or a change of capacity. -/
theorem machine_step_cases {state next : State Index} {event : Event Index}
    (stepped : machine.step state event = some next) :
    (∃ index action turn, event = .request index action ∧
        segment state.gates (state.requests index) action = some turn ∧
        next = state.after index turn) ∨
      ∃ capacity, event = .setCapacity capacity ∧
        next = { gates := { state.gates with chat := state.gates.chat.setCapacity capacity }
                 requests := fun other => wake true (state.requests other) } := by
  cases event with
  | request index action =>
    obtain ⟨turn, ran, rfl⟩ := Option.map_eq_some_iff.mp stepped
    exact Or.inl ⟨index, action, turn, rfl, ran, rfl⟩
  | setCapacity capacity =>
    cases stepped
    exact Or.inr ⟨capacity, rfl, rfl⟩

variable [Fintype Index]

/-- The totals move with the gates. -/
theorem total_segment (weight : Request → ℤ) (unseen : ∀ notifyChat request,
      weight (wake notifyChat request) = weight request) (state : State Index) (index : Index)
    (turn : Turn) :
    total weight (state.after index turn).requests =
      total weight state.requests + (weight turn.request - weight (state.requests index)) := by
  unfold State.after
  rw [total_comp weight (Function.update state.requests index turn.request)
    (wake turn.notifyChat) (unseen _), total_update]

theorem step_conserved (state : State Index) (event : Event Index) (next : State Index)
    (stepped : machine.step state event = some next) (conserved : Conserved state) :
    Conserved next := by
  obtain ⟨index, action, turn, -, ran, rfl⟩ | ⟨capacity, -, rfl⟩ := machine_step_cases stepped
  · have balanced := segment_balanced ran
    refine ⟨?_, ?_, fun other => wake_sound _ ?_⟩
    · rw [total_segment (fun request => request.chat.held) (fun _ _ => by rw [wake_chat])]
      show turn.gates.chat.inUse = _
      rw [balanced.chat, conserved.chat]
    · rw [total_segment (fun request => request.lane.held) (fun _ _ => by rw [wake_lane])]
      show turn.gates.lane.inUse = _
      rw [balanced.lane, conserved.lane]
    · by_cases same : other = index
      · subst same
        rw [Function.update_self]
        exact segment_sound (conserved.sound other) ran
      · rw [Function.update_of_ne same]
        exact conserved.sound other
  · refine ⟨?_, ?_, fun other => wake_sound _ (conserved.sound other)⟩
    · rw [total_comp (fun request => request.chat.held) state.requests (wake true)
        (fun _ => by rw [wake_chat])]
      exact conserved.chat
    · rw [total_comp (fun request => request.lane.held) state.requests (wake true)
        (fun _ => by rw [wake_lane])]
      exact conserved.lane

theorem run_conserved {start finish : State Index} {events : List (Event Index)}
    (ran : machine.run start events = some finish) (conserved : Conserved start) :
    Conserved finish :=
  machine.run_invariant Conserved step_conserved ran conserved

end Interleaving

/-! ### Slots are conserved -/

namespace Request.Sound

variable {request : Request} (sound : request.Sound)

include sound

/-- The code around the gate releases only what was granted, and at most once. -/
theorem releases_eq : request.releases = 0 ∨ request.releases = 1 ∧ request.acquire = .granted := by
  have placed := sound.placed
  unfold Request.Placed at placed
  cases stands : request.body <;> simp only [stands] at placed <;> first
    | exact Or.inl placed.2
    | exact Or.inl placed.2.2
    | (have released := placed.1
       split at released
       · rename_i granted
         exact Or.inr ⟨released, granted⟩
       · exact Or.inl released)

/-- A request has at most one slot of either gate, and gives back only what it took. -/
theorem uses_le : request.chat.given ≤ request.chat.taken ∧ request.chat.taken ≤ 1 ∧
    request.lane.given ≤ request.lane.taken ∧ request.lane.taken ≤ 1 := by
  have accounted := sound.accounted
  have share : request.share ≤ 1 := by
    unfold Request.share
    split <;> omega
  unfold Request.Accounted at accounted
  cases stands : request.acquire <;> simp only [stands] at accounted
  case notCalled => simp [accounted]
  case scheduled => simp [accounted]
  case laneWaiting => simp [accounted]
  case chatWaiting => simp [accounted, share]
  case givingBackLane => obtain ⟨-, chat, ⟨lane, -⟩ | ⟨lane, -⟩⟩ := accounted <;> simp [chat, lane]
  case givingBackBoth =>
    obtain ⟨-, ⟨chat, lane, -⟩ | ⟨chat, lane, -⟩⟩ := accounted <;> simp [chat, lane]
  case granted =>
    obtain ⟨chat, lane, -⟩ := accounted
    have released : request.releases ≤ 1 := by
      obtain none | ⟨once, -⟩ := sound.releases_eq <;> omega
    rw [chat, lane]
    exact ⟨released, le_rfl, (Nat.mul_le_mul_left _ released).trans_eq (Nat.mul_one _), share⟩
  case laneClosed =>
    obtain ⟨-, -, ⟨chat, lane⟩ | ⟨chat, lane⟩⟩ := accounted <;> simp [chat, lane]
  case cancelled =>
    obtain ⟨-, chat | chat, lane | lane⟩ | ⟨-, lane, ⟨-, chat⟩ | ⟨-, chat⟩⟩ := accounted <;>
      simp [chat, lane]

theorem held_chat : request.chat.held = if request.holdsChat then 1 else 0 := by
  obtain ⟨given, taken, -, -⟩ := sound.uses_le
  by_cases holds : request.holdsChat
  · rw [if_pos holds]
    unfold Request.holdsChat at holds
    unfold Uses.held
    omega
  · rw [if_neg holds]
    unfold Request.holdsChat at holds
    unfold Uses.held
    omega

theorem held_lane : request.lane.held = if request.holdsLane then 1 else 0 := by
  obtain ⟨-, -, given, taken⟩ := sound.uses_le
  by_cases holds : request.holdsLane
  · rw [if_pos holds]
    unfold Request.holdsLane at holds
    unfold Uses.held
    omega
  · rw [if_neg holds]
    unfold Request.holdsLane at holds
    unfold Uses.held
    omega

/-- Once the code around the gate is over, the slot was released if and only if it was granted. -/
theorem releases_of_ended (ended : request.body = .ended) :
    request.releases = if request.acquire = .granted then 1 else 0 := by
  have placed := sound.placed
  unfold Request.Placed at placed
  rw [ended] at placed
  exact placed.1

/-- A request that has ended, with the tasks it started, holds nothing. -/
theorem idle_of_finished (finished : request.finished) : ¬request.holdsChat ∧ ¬request.holdsLane := by
  obtain ⟨ended, done, shielded⟩ := finished
  have accounted := sound.accounted
  have released := sound.releases_of_ended ended
  unfold Request.holdsChat Request.holdsLane
  unfold Request.Accounted at accounted
  unfold Request.acquireDone at done
  cases stands : request.acquire <;> simp only [stands] at accounted done
  case notCalled => simp [accounted]
  case granted =>
    rw [stands, if_pos rfl] at released
    obtain ⟨chat, lane, -⟩ := accounted
    rw [chat, lane, released]
    simp
  case laneClosed =>
    obtain ⟨-, -, ⟨chat, lane⟩ | ⟨chat, lane⟩⟩ := accounted <;> simp [chat, lane]
  case cancelled =>
    obtain ⟨-, chat | chat, lane | lane⟩ | ⟨-, -, ⟨started, -⟩ | ⟨started, -⟩⟩ := accounted
    case inr.inl => simp [shielded] at started
    case inr.inr => simp [shielded] at started
    all_goals simp [chat, lane]
  all_goals simp at done

/-- An owner request holds nothing as soon as the code around its gate is over: a cancelled
`AdmissionGate.acquire` had taken no slot. -/
theorem idle_of_owner_ended (owner : request.isScoped = false) (ended : request.body = .ended) :
    ¬request.holdsChat := by
  have accounted := sound.accounted
  have released := sound.releases_of_ended ended
  unfold Request.holdsChat
  unfold Request.Accounted at accounted
  cases stands : request.acquire <;> simp only [stands, owner] at accounted released
  case granted =>
    obtain ⟨chat, -, -⟩ := accounted
    rw [chat, released]
    simp
  case cancelled =>
    obtain ⟨-, chat | chat, -⟩ | ⟨scopedToo, -⟩ := accounted
    case inr => exact absurd scopedToo Bool.false_ne_true
    all_goals simp [chat]
  all_goals simp_all

end Request.Sound

section Conservation

variable {Index : Type} [Fintype Index] [DecidableEq Index]

/-- The slot accounts of one request: it is released exactly once if its `acquire` was granted
and never otherwise, and neither gate gives it two slots or takes back one it did not have. -/
structure Request.ReturnedOnce (request : Request) : Prop where
  atMostOnce : request.releases ≤ 1
  onlyIfGranted : request.acquire ≠ .granted → request.releases = 0
  ifGranted : request.body = .ended →
    request.releases = if request.acquire = .granted then 1 else 0
  chat : request.chat.given ≤ request.chat.taken ∧ request.chat.taken ≤ 1
  lane : request.lane.given ≤ request.lane.taken ∧ request.lane.taken ≤ 1

/-- `hold_slot` conserves slots, over an `AdmissionGate` and over `_LaneThenChat`, for any number
of requests and every interleaving of their segments, disconnects and capacity changes: each
gate's `in_use` is the number of requests that took a slot of it and have not returned it, it
is never negative, every slot is returned exactly once if its `acquire` was granted and never
otherwise, and once every request has ended `in_use` is zero. -/
theorem hold_slot_conserves_slots (capacity : ℤ) (reserve : ℕ) (isScoped stream : Index → Bool)
    (events : List (Event Index)) (state : State Index)
    (ran : machine.run (initial capacity reserve isScoped stream) events = some state) :
    (state.gates.chat.inUse = (Finset.univ.filter fun index =>
        (state.requests index).holdsChat).card ∧
      state.gates.lane.inUse = (Finset.univ.filter fun index =>
        (state.requests index).holdsLane).card) ∧
    (0 ≤ state.gates.chat.inUse ∧ 0 ≤ state.gates.lane.inUse) ∧
    (∀ index, (state.requests index).ReturnedOnce) ∧
    ((∀ index, (state.requests index).finished) →
      state.gates.chat.inUse = 0 ∧ state.gates.lane.inUse = 0) ∧
    ((∀ index, (state.requests index).isScoped = false ∧ (state.requests index).body = .ended) →
      state.gates.chat.inUse = 0) := by
  have conserved := run_conserved ran (initial_conserved capacity reserve isScoped stream)
  have chat : state.gates.chat.inUse = (Finset.univ.filter fun index =>
      (state.requests index).holdsChat).card := by
    rw [conserved.chat]
    exact total_eq_card _ Request.holdsChat fun index => (conserved.sound index).held_chat
  have lane : state.gates.lane.inUse = (Finset.univ.filter fun index =>
      (state.requests index).holdsLane).card := by
    rw [conserved.lane]
    exact total_eq_card _ Request.holdsLane fun index => (conserved.sound index).held_lane
  refine ⟨⟨chat, lane⟩, ⟨by omega, by omega⟩, fun index => ?_, fun finished => ?_, fun ended => ?_⟩
  · have sound := conserved.sound index
    obtain ⟨chatGiven, chatTaken, laneGiven, laneTaken⟩ := sound.uses_le
    refine ⟨?_, sound.placed.kept, sound.releases_of_ended, ⟨chatGiven, chatTaken⟩,
      ⟨laneGiven, laneTaken⟩⟩
    obtain none | ⟨once, -⟩ := sound.releases_eq <;> omega
  · have idle := fun index => (conserved.sound index).idle_of_finished (finished index)
    rw [chat, lane, Finset.filter_false_of_mem fun index _ => (idle index).1,
      Finset.filter_false_of_mem fun index _ => (idle index).2]
    exact ⟨rfl, rfl⟩
  · rw [chat, Finset.filter_false_of_mem fun index _ =>
      (conserved.sound index).idle_of_owner_ended (ended index).1 (ended index).2]
    rfl

/-- Two streams on a two-slot gate whose last slot is reserved. The owner's client leaves in the
instant its slot is granted. The layout has shrunk to one slot when the scoped request asks the
lane again, after waiting in it, and it is refused; its client then leaves twice. -/
def disconnectRun : List (Event (Fin 3)) :=
  [.request 0 .start, .request 0 .acquire, .request 0 .wake, .request 0 .chunk,
    .request 1 .start, .request 1 .acquire, .request 1 .keepalive,
    .request 2 .start, .request 2 .acquire, .request 2 .disconnect, .request 2 .closed,
    .setCapacity 1, .request 1 .acquire, .request 1 .disconnect, .request 1 .disconnect,
    .request 0 .disconnect, .request 0 .disconnect]

theorem hold_slot_conserves_slots_disconnectRun :
    ∃ state, machine.run (initial 2 1 ![true, true, false] ![true, true, true]) disconnectRun =
        some state ∧ state.gates.chat.inUse = 0 ∧ state.gates.lane.inUse = 0 :=
  ⟨_, rfl, (hold_slot_conserves_slots 2 1 ![true, true, false] ![true, true, true] disconnectRun _
    rfl).2.2.2.1 fun index => by fin_cases index <;> exact ⟨rfl, Or.inr rfl, rfl⟩⟩

end Conservation

end Admission

end LocalGpuCluster
