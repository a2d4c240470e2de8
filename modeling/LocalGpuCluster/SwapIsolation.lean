/-
This file proves what a swap is isolated from. `_swap_lock` keeps swaps apart, and the chat gate
keeps the answers in progress within its slots; a swap waits for neither of them. So the webhook is
posted by one request at a time, and what is being served then is bounded by the slots alone: a
stream swaps inside its own slot, which with one slot leaves no other, and any other request swaps
before it has a slot.
-/

import LocalGpuCluster.ProfileMatch

namespace LocalGpuCluster

namespace AutoSwap

/-! ### What one segment does to the slots and the lock -/

/-- The slots a request has. -/
def Request.slots (request : Request) : ℤ := if request.holdsSlot then 1 else 0

/-- The swap has been called and is not through. -/
def Request.isSwapping (request : Request) : Bool :=
  match request.swap with
  | .notCalled | .returned _ | .cancelled => false
  | _ => true

/-- A stream swaps inside its slot, and its swap outlives it; any other request awaits its swap
before it has a slot. -/
structure Request.Swaps (request : Request) : Prop where
  streams : request.place = .swapQueued ∨ request.place = .swapHolding → request.stream = true
  called : request.isSwapping = true →
    if request.stream then request.place = .swapHolding ∨ request.place = .ended
    else request.place = .swapping

/-- Slots are taken while there is room, and given back. -/
structure Slotted (shared : Shared) (request : Request) (turn : Turn) : Prop where
  inUse : turn.shared.gate.inUse = shared.gate.inUse + (turn.request.slots - request.slots)
  capacity : turn.shared.gate.capacity = shared.gate.capacity
  room : turn.request.slots ≤ request.slots ∨
    turn.request.slots = request.slots + 1 ∧ shared.gate.inUse < shared.gate.capacity

/-- The lock is taken while it is free, kept, and left by the one that is inside it. -/
def Locked (shared : Shared) (request : Request) (turn : Turn) : Prop :=
  if request.locking then turn.request.locking = true ∧ turn.shared.locked = shared.locked ∨
    turn.request.locking = false ∧ turn.shared.locked = false
  else turn.request.locking = false ∧ turn.shared.locked = shared.locked ∨
    shared.locked = false ∧ turn.request.locking = true ∧ turn.shared.locked = true

/-- A segment that leaves the gate alone and keeps the slots. -/
theorem Slotted.of_same {shared next : Shared} {request after : Request}
    (gate : next.gate = shared.gate) (slots : after.slots = request.slots) :
    Slotted shared request { shared := next, request := after } where
  inUse := by
    show next.gate.inUse = _
    rw [gate, slots, sub_self, add_zero]
  capacity := congrArg _ gate
  room := Or.inl slots.le

theorem finish_slotted (shared : Shared) (request : Request) :
    Slotted shared request (finish shared request) := by
  have ended : ({ request with place := .ended } : Request).slots = 0 := rfl
  unfold finish
  by_cases holds : request.holdsSlot
  · have one : request.slots = 1 := if_pos holds
    rw [if_pos holds]
    exact ⟨by rw [ended, one]; rfl, rfl, Or.inl (by rw [ended, one]; exact zero_le_one)⟩
  · have none : request.slots = 0 := if_neg holds
    rw [if_neg holds]
    exact Slotted.of_same rfl (ended.trans none.symm)

theorem cancelSwap_gate (shared : Shared) (request : Request) :
    (cancelSwap shared request).shared.gate = shared.gate := by
  unfold cancelSwap
  split <;> rfl

theorem cancelSwap_place (shared : Shared) (request : Request) :
    (cancelSwap shared request).request.place = request.place := by
  unfold cancelSwap
  split <;> rfl

theorem finish_cancelSwap_slotted (shared : Shared) (request : Request) :
    Slotted shared request
      (finish (cancelSwap shared request).shared (cancelSwap shared request).request) := by
  have slots : (cancelSwap shared request).request.slots = request.slots := by
    unfold Request.slots Request.holdsSlot
    rw [cancelSwap_place]
  obtain ⟨inUse, capacity, room⟩ :=
    finish_slotted (cancelSwap shared request).shared (cancelSwap shared request).request
  rw [cancelSwap_gate, slots] at inUse room
  rw [cancelSwap_gate] at capacity
  exact ⟨inUse, capacity, room⟩

theorem Locked.of_same {shared next : Shared} {request after : Request}
    (locked : next.locked = shared.locked) (locking : after.locking = request.locking) :
    Locked shared request { shared := next, request := after } := by
  unfold Locked
  split
  · rename_i isLocking
    exact Or.inl ⟨locking.trans isLocking, locked⟩
  · rename_i notLocking
    exact Or.inl ⟨locking.trans (Bool.eq_false_iff.mpr notLocking), locked⟩

/-- A swap that ends leaves the lock if it was inside it. -/
theorem endSwap_locked (shared : Shared) (request : Request) {swap : Swap}
    (out : ({ request with swap } : Request).locking = false) :
    Locked shared request (endSwap shared request swap) := by
  unfold Locked endSwap
  split
  · rename_i isLocking
    exact Or.inr ⟨out, by rw [isLocking, Bool.not_true, Bool.and_false]⟩
  · rename_i notLocking
    refine Or.inl ⟨out, ?_⟩
    rw [Bool.eq_false_iff.mpr notLocking, Bool.not_false, Bool.and_true]

theorem finish_locked {shared : Shared} {request : Request} {turn : Turn}
    (locked : Locked shared request turn) :
    Locked shared request (finish turn.shared turn.request) := locked

theorem cancelSwap_locked (shared : Shared) (request : Request) :
    Locked shared request (cancelSwap shared request) := by
  unfold cancelSwap
  split
  · exact Locked.of_same rfl rfl
  · exact Locked.of_same rfl rfl
  · exact Locked.of_same rfl rfl
  · exact endSwap_locked shared request rfl

/-- A swap that was cancelled is through. -/
theorem cancelSwap_isSwapping (shared : Shared) (request : Request) :
    (cancelSwap shared request).request.isSwapping = false := by
  unfold cancelSwap
  split
  · rename_i called
    exact congrArg (fun swap => Request.isSwapping { request with swap }) called
  · rename_i called
    exact congrArg (fun swap => Request.isSwapping { request with swap }) called
  · rename_i called
    exact congrArg (fun swap => Request.isSwapping { request with swap }) called
  · rfl

/-- What one segment does. -/
structure Keeps (shared : Shared) (request : Request) (turn : Turn) : Prop where
  slotted : Slotted shared request turn
  locked : request.Swaps → Locked shared request turn
  swaps : request.Swaps → turn.request.Swaps

/-- A swap moves on, its request stays where it is. -/
theorem Keeps.of_swap {shared next : Shared} {request : Request} {swap : Swap} {order : Order}
    (gate : next.gate = shared.gate)
    (locked : Locked shared request { shared := next, request := { request with swap, order } })
    (called : request.isSwapping = true ∨
      ({ request with swap } : Request).isSwapping = false) :
    Keeps shared request { shared := next, request := { request with swap, order } } := by
  refine ⟨Slotted.of_same gate rfl, fun _ => locked, fun swaps =>
    ⟨swaps.streams, fun swapping => ?_⟩⟩
  obtain called | through := called
  · exact swaps.called called
  · exact absurd swapping (Bool.eq_false_iff.mp through)

/-- A request moves between places without a slot of their own, its swap as it was. -/
theorem Keeps.of_place {shared : Shared} {request : Request} {place : Place} {served : List String}
    (slots : ({ request with place } : Request).slots = request.slots)
    (swaps : request.Swaps → ({ request with place } : Request).Swaps) :
    Keeps shared request { shared, request := { request with place, served } } :=
  ⟨Slotted.of_same rfl slots, fun _ => Locked.of_same rfl rfl,
    fun held => ⟨(swaps held).streams, (swaps held).called⟩⟩

theorem finish_swaps {shared : Shared} {request : Request}
    (away : request.stream = true ∨ request.isSwapping = false) :
    (finish shared request).request.Swaps := by
  refine ⟨fun running => absurd running (by simp [finish]), fun swapping => ?_⟩
  obtain isStream | through := away
  · show if request.stream then _ else _
    rw [if_pos isStream]
    exact Or.inr rfl
  · exact absurd swapping (Bool.eq_false_iff.mp through)

theorem finish_keeps {shared : Shared} {request : Request}
    (away : request.Swaps → request.stream = true ∨ request.isSwapping = false) :
    Keeps shared request (finish shared request) :=
  ⟨finish_slotted shared request, fun _ => finish_locked (Locked.of_same rfl rfl),
    fun swaps => finish_swaps (away swaps)⟩

theorem finish_cancelSwap_keeps (shared : Shared) (request : Request) :
    Keeps shared request
      (finish (cancelSwap shared request).shared (cancelSwap shared request).request) :=
  ⟨finish_cancelSwap_slotted shared request, fun _ => finish_locked (cancelSwap_locked shared request),
    fun _ => finish_swaps (Or.inr (cancelSwap_isSwapping shared request))⟩

/-- Away from the places a swap is called at, a request that is swapping is a stream whose client
has gone. -/
theorem Request.Swaps.away {request : Request} (swaps : request.Swaps)
    (elsewhere : request.place ≠ .swapping) :
    request.stream = true ∨ request.isSwapping = false := by
  by_cases swapping : request.isSwapping = true
  · have placed := swaps.called swapping
    split at placed
    · rename_i isStream
      exact Or.inl isStream
    · exact absurd placed elsewhere
  · exact Or.inr (Bool.eq_false_iff.mpr swapping)

/-- At a place that is neither a swap's nor the end, no swap is on. -/
theorem Request.Swaps.through {request : Request} (swaps : request.Swaps)
    (elsewhere : request.place ≠ .swapping) (noSlot : request.place ≠ .swapHolding)
    (running : request.place ≠ .ended) : request.isSwapping = false := by
  refine Bool.eq_false_iff.mpr fun swapping => ?_
  have placed := swaps.called swapping
  split at placed
  · exact placed.elim noSlot running
  · exact elsewhere placed

/-- Only a swap that is on is in the lock. -/
theorem locking_of_through {request : Request} (through : request.isSwapping = false) :
    request.locking = false := by
  unfold Request.isSwapping at through
  unfold Request.locking
  split at through <;> simp_all

theorem Request.Swaps.of_through {request : Request} (through : request.isSwapping = false)
    (streams : request.place = .swapQueued ∨ request.place = .swapHolding → request.stream = true) :
    request.Swaps :=
  ⟨streams, fun swapping => absurd swapping (Bool.eq_false_iff.mp through)⟩

/-- `trigger_swap_and_wait` is not in the lock when it is called. -/
theorem triggerSwap_locking (config : Config) (request : Request) :
    ({ request with swap := triggerSwap config request.wanted } : Request).locking = false := by
  unfold triggerSwap
  split <;> rfl

theorem check_keeps (config : Config) (shared : Shared) {request : Request}
    (arrived : request.place = .arrived) :
    Keeps shared request { shared, request := check config shared request } := by
  have slots : request.slots = 0 := by simp [Request.slots, Request.holdsSlot, arrived]
  have through (swaps : request.Swaps) : request.isSwapping = false :=
    swaps.through (by simp [arrived]) (by simp [arrived]) (by simp [arrived])
  unfold check
  split
  · split
    · split
      · rename_i isStream
        exact .of_place slots.symm fun swaps => .of_through (through swaps) fun _ => isStream
      · rename_i notStream
        refine ⟨Slotted.of_same rfl slots.symm, fun swaps => Locked.of_same rfl ?_, fun _ =>
          ⟨by simp, fun _ => ?_⟩⟩
        · exact (triggerSwap_locking config request).trans (locking_of_through (through swaps)).symm
        · show if request.stream then _ else _
          rw [if_neg notStream]
    · exact .of_place slots.symm fun swaps => .of_through (through swaps) (by simp)
  · exact .of_place slots.symm fun swaps => .of_through (through swaps) (by simp)

/-- A request that waited takes a free slot. -/
theorem takeSlot_keeps {shared : Shared} {request : Request} {place : Place}
    (hasRoom : shared.gate.hasRoom = true) (before : request.slots = 0)
    (after : ({ request with place } : Request).slots = 1)
    (swaps : request.Swaps → ({ request with place } : Request).Swaps) :
    Keeps shared request
      { shared := { shared with gate := shared.gate.take }, request := { request with place } } where
  slotted := by
    refine ⟨?_, rfl, Or.inr ⟨?_, of_decide_eq_true hasRoom⟩⟩
    · rw [after, before]
      rfl
    · rw [after, before]
      rfl
  locked _ := Locked.of_same rfl rfl
  swaps := swaps

theorem segment_keeps {config : Config} {shared : Shared} {request : Request} {action : Action}
    {turn : Turn} (ran : segment config shared request action = some turn) :
    Keeps shared request turn := by
  cases action with
  | check =>
    simp only [segment] at ran
    split at ran <;> cases ran
    rename_i arrived
    exact check_keeps config shared arrived
  | createSwap =>
    simp only [segment] at ran
    split at ran <;> cases ran
    rename_i ready
    obtain ⟨holding, uncalled⟩ := Bool.and_eq_true_iff.mp ready
    have holding := of_decide_eq_true holding
    have uncalled := of_decide_eq_true uncalled
    have locking : request.locking = false := by rw [Request.locking, uncalled]
    refine ⟨Slotted.of_same rfl rfl, fun _ => Locked.of_same rfl ?_, fun swaps =>
      ⟨swaps.streams, fun _ => ?_⟩⟩
    · exact (triggerSwap_locking config request).trans locking.symm
    · show if request.stream then _ else _
      rw [if_pos (swaps.streams (Or.inr holding))]
      exact Or.inl holding
  | takeLock =>
    simp only [segment] at ran
    split at ran <;> cases ran
    rename_i waits
    obtain ⟨waiting, free⟩ := Bool.and_eq_true_iff.mp waits
    have waiting := of_decide_eq_true waiting
    refine .of_swap rfl ?_ (Or.inl (by rw [Request.isSwapping, waiting]))
    unfold Locked
    rw [if_neg (by simp [Request.locking, waiting])]
    exact Or.inr ⟨by simpa using free, rfl, rfl⟩
  | recheck =>
    simp only [segment] at ran
    split at ran
    · rename_i rechecking
      split at ran <;> cases ran
      · exact .of_swap rfl (endSwap_locked shared request rfl) (Or.inr rfl)
      · refine .of_swap rfl (Locked.of_same rfl ?_) (Or.inl (by rw [Request.isSwapping, rechecking]))
        rw [Request.locking, Request.locking, rechecking]
    · cases ran
  | webhookAnswer ok =>
    simp only [segment] at ran
    split at ran
    · rename_i posting
      split at ran
      · split at ran <;> cases ran
        refine .of_swap rfl (Locked.of_same rfl ?_) (Or.inl (by rw [Request.isSwapping, posting]))
        rw [Request.locking, Request.locking, posting]
      · cases ran
        exact .of_swap rfl (endSwap_locked shared request rfl) (Or.inr rfl)
    · cases ran
  | poll =>
    simp only [segment] at ran
    split at ran
    · rename_i confirming
      split at ran <;> cases ran
      · refine .of_swap rfl (Locked.of_same rfl ?_)
          (Or.inl (by rw [Request.isSwapping, confirming]))
        rw [Request.locking, Request.locking, confirming]
      · exact ⟨Slotted.of_same rfl rfl, fun _ => Locked.of_same rfl rfl, id⟩
    · cases ran
  | pollDeadline =>
    simp only [segment] at ran
    split at ran <;> cases ran
    exact .of_swap rfl (endSwap_locked shared request rfl) (Or.inr rfl)
  | refreshed =>
    simp only [segment] at ran
    split at ran <;> cases ran
    exact .of_swap rfl (endSwap_locked shared request rfl) (Or.inr rfl)
  | resume =>
    simp only [segment] at ran
    split at ran <;> cases ran
    · rename_i swapping returned
      refine .of_place (by simp [Request.slots, Request.holdsSlot, swapping]) fun _ => ?_
      exact .of_through (by rw [Request.isSwapping, returned]) (by simp)
    · rename_i swapping returned
      refine .of_place (by simp [Request.slots, Request.holdsSlot, swapping]) fun _ => ?_
      exact .of_through (by rw [Request.isSwapping, returned]) (by simp)
    · rename_i returned
      exact finish_keeps fun _ => Or.inr (by rw [Request.isSwapping, returned])
    · rename_i returned
      exact finish_keeps fun _ => Or.inr (by rw [Request.isSwapping, returned])
  | countTokens fits =>
    simp only [segment] at ran
    split at ran
    · rename_i counting
      split at ran <;> cases ran
      · refine .of_place (by simp [Request.slots, Request.holdsSlot, counting]) fun swaps => ?_
        exact .of_through
          (swaps.through (by simp [counting]) (by simp [counting]) (by simp [counting])) (by simp)
      · exact finish_keeps fun swaps => swaps.away (by simp [counting])
    · cases ran
  | takeSlot =>
    simp only [segment] at ran
    split at ran
    · rename_i hasRoom
      split at ran <;> cases ran
      · rename_i swapQueued
        exact takeSlot_keeps hasRoom (by simp [Request.slots, Request.holdsSlot, swapQueued])
          (by simp [Request.slots, Request.holdsSlot]) fun swaps => .of_through (swaps.through
            (by simp [swapQueued]) (by simp [swapQueued]) (by simp [swapQueued]))
            fun _ => swaps.streams (Or.inl swapQueued)
      · rename_i queued
        exact takeSlot_keeps hasRoom (by simp [Request.slots, Request.holdsSlot, queued])
          (by simp [Request.slots, Request.holdsSlot]) fun swaps => .of_through (swaps.through
            (by simp [queued]) (by simp [queued]) (by simp [queued])) (by simp)
    · cases ran
  | forward =>
    simp only [segment] at ran
    split at ran <;> cases ran
    rename_i admitted
    refine .of_place (by simp [Request.slots, Request.holdsSlot, admitted]) fun swaps => ?_
    exact .of_through
      (swaps.through (by simp [admitted]) (by simp [admitted]) (by simp [admitted])) (by simp)
  | answered again =>
    simp only [segment] at ran
    split at ran
    · rename_i serving
      split at ran
      · split at ran <;> cases ran
        refine .of_place (by simp [Request.slots, Request.holdsSlot, serving]) fun swaps => ?_
        exact .of_through
          (swaps.through (by simp [serving]) (by simp [serving]) (by simp [serving])) (by simp)
      · cases ran
        exact finish_keeps fun swaps => swaps.away (by simp [serving])
    · cases ran
  | wallLimit =>
    simp only [segment] at ran
    split at ran <;> cases ran
    exact finish_cancelSwap_keeps shared request
  | disconnect =>
    simp only [segment] at ran
    split at ran
    · cases ran
    · cases ran
      exact finish_cancelSwap_keeps shared request
    · rename_i elsewhere
      cases ran
      exact finish_keeps fun swaps => swaps.away elsewhere

/-! ### What every run keeps -/

section Runs

variable {Index : Type} [Fintype Index]

/-- The gate counts the slots, never more than its largest capacity, and one request at a time is
in the lock. -/
structure Isolated (bound : ℕ) (state : State Index) : Prop where
  counted : state.shared.gate.inUse = total Request.slots state.requests
  inUse : state.shared.gate.inUse ≤ bound
  capacity : state.shared.gate.capacity ≤ bound
  swaps : ∀ index, (state.requests index).Swaps
  locked : ∀ index, (state.requests index).locking = true → state.shared.locked = true
  alone : ∀ first second, (state.requests first).locking = true →
    (state.requests second).locking = true → first = second

/-- No capacity the gate is set to exceeds `bound`. -/
def BoundedCapacity (bound : ℕ) (_ : State Index) : Event Index → Prop
  | .setCapacity capacity => capacity ≤ bound
  | _ => True

/-- The request that moved is in the lock only if it was, or if nobody was. -/
theorem Isolated.alone_update {bound : ℕ} {state : State Index} (isolated : Isolated bound state)
    {index : Index} {turn : Turn}
    (moved : Locked state.shared (state.requests index) turn) {other : Index}
    (apart : other ≠ index) (otherLocking : (state.requests other).locking = true) :
    turn.request.locking = false ∧ turn.shared.locked = true := by
  have shut := isolated.locked other otherLocking
  have outside : ¬(state.requests index).locking = true := fun inside =>
    apart (isolated.alone other index otherLocking inside)
  unfold Locked at moved
  rw [if_neg outside] at moved
  obtain ⟨out, same⟩ | ⟨free, _⟩ := moved
  · exact ⟨out, same.trans shut⟩
  · exact absurd (free.symm.trans shut) Bool.false_ne_true

variable [DecidableEq Index]

theorem Isolated.segment {config : Config} {bound : ℕ} {state : State Index}
    (isolated : Isolated bound state) {index : Index} {action : Action} {turn : Turn}
    (ran : segment config state.shared (state.requests index) action = some turn) :
    Isolated bound
      { shared := turn.shared, requests := Function.update state.requests index turn.request } := by
  obtain ⟨slotted, locked, swaps⟩ := segment_keeps ran
  have moved := locked (isolated.swaps index)
  refine ⟨?_, ?_, ?_, fun other => ?_, fun other inside => ?_, fun first second => ?_⟩
  · show turn.shared.gate.inUse = total Request.slots _
    rw [total_update, slotted.inUse, isolated.counted]
  · show turn.shared.gate.inUse ≤ _
    have capacity : (state.shared.gate.capacity : ℤ) ≤ bound :=
      Int.ofNat_le.mpr isolated.capacity
    have inUse := isolated.inUse
    rw [slotted.inUse]
    obtain less | ⟨one, room⟩ := slotted.room
    · omega
    · omega
  · show turn.shared.gate.capacity ≤ _
    rw [slotted.capacity]
    exact isolated.capacity
  · show (Function.update state.requests index turn.request other).Swaps
    by_cases same : other = index
    · rw [same, Function.update_self]
      exact swaps (isolated.swaps index)
    · rw [Function.update_of_ne same]
      exact isolated.swaps other
  · replace inside : (Function.update state.requests index turn.request other).locking = true :=
      inside
    show turn.shared.locked = true
    by_cases same : other = index
    · rw [same, Function.update_self] at inside
      unfold Locked at moved
      split at moved
      · rename_i wasInside
        obtain ⟨_, kept⟩ | ⟨out, _⟩ := moved
        · exact kept.trans (isolated.locked index wasInside)
        · exact absurd (out.symm.trans inside) Bool.false_ne_true
      · obtain ⟨out, _⟩ | ⟨_, _, shut⟩ := moved
        · exact absurd (out.symm.trans inside) Bool.false_ne_true
        · exact shut
    · rw [Function.update_of_ne same] at inside
      exact (isolated.alone_update moved same inside).2
  · show (Function.update state.requests index turn.request first).locking = true →
      (Function.update state.requests index turn.request second).locking = true → first = second
    intro firstInside secondInside
    by_cases firstSame : first = index <;> by_cases secondSame : second = index
    · exact firstSame.trans secondSame.symm
    · rw [firstSame, Function.update_self] at firstInside
      rw [Function.update_of_ne secondSame] at secondInside
      have out := (isolated.alone_update moved secondSame secondInside).1
      exact absurd (out.symm.trans firstInside) Bool.false_ne_true
    · rw [Function.update_of_ne firstSame] at firstInside
      rw [secondSame, Function.update_self] at secondInside
      have out := (isolated.alone_update moved firstSame firstInside).1
      exact absurd (out.symm.trans secondInside) Bool.false_ne_true
    · rw [Function.update_of_ne firstSame] at firstInside
      rw [Function.update_of_ne secondSame] at secondInside
      exact isolated.alone first second firstInside secondInside

/-- An order that runs or fails is seen by nothing of this. -/
theorem Isolated.order {bound : ℕ} {state : State Index} (isolated : Isolated bound state)
    (index : Index) (order : Order) (loaded : String) :
    Isolated bound
      { shared := { state.shared with loaded }
        requests := Function.update state.requests index
          { state.requests index with order } } := by
  have same (other : Index) : ∃ order', Function.update state.requests index
      { state.requests index with order } other = { state.requests other with order := order' } := by
    by_cases here : other = index
    · subst here
      exact ⟨order, Function.update_self _ _ _⟩
    · exact ⟨(state.requests other).order, Function.update_of_ne here _ _⟩
  have locking (other : Index) : (Function.update state.requests index
      { state.requests index with order } other).locking = (state.requests other).locking := by
    obtain ⟨order', eq⟩ := same other
    rw [eq]
    rfl
  refine ⟨?_, isolated.inUse, isolated.capacity, fun other => ?_, fun other inside => ?_,
    fun first second firstInside secondInside => ?_⟩
  · show state.shared.gate.inUse = total Request.slots _
    rw [total_update, isolated.counted]
    exact (add_eq_left.mpr (sub_self _)).symm
  · show (Function.update state.requests index _ other).Swaps
    obtain ⟨order', eq⟩ := same other
    rw [eq]
    exact ⟨(isolated.swaps other).streams, (isolated.swaps other).called⟩
  · exact isolated.locked other ((locking other).symm.trans inside)
  · exact isolated.alone first second ((locking first).symm.trans firstInside)
      ((locking second).symm.trans secondInside)

theorem Isolated.step {config : Config} {bound : ℕ} (positive : 1 ≤ bound)
    {state next : State Index} {event : Event Index} (bounded : BoundedCapacity bound state event)
    (stepped : (machine config).step state event = some next) (isolated : Isolated bound state) :
    Isolated bound next := by
  cases event with
  | request index action =>
    obtain ⟨turn, ran, rfl⟩ := Option.map_eq_some_iff.mp stepped
    exact isolated.segment ran
  | webhookRuns index =>
    obtain ⟨backend, _, rfl⟩ := Option.map_eq_some_iff.mp stepped
    exact isolated.order index .ran backend
  | webhookFails index =>
    simp only [machine] at stepped
    split at stepped <;> cases stepped
    exact isolated.order index .failed state.shared.loaded
  | setCapacity capacity =>
    cases stepped
    refine ⟨isolated.counted, isolated.inUse, ?_, isolated.swaps, isolated.locked, isolated.alone⟩
    exact max_le positive (Int.toNat_le.mpr bounded)

omit [DecidableEq Index] in
theorem initial_isolated {bound : ℕ} (positive : 1 ≤ bound) (loaded : String) {capacity : ℤ}
    (bounded : capacity ≤ bound) (models : Index → String) (stream serverTools : Index → Bool) :
    Isolated bound (initial loaded capacity models stream serverTools) where
  counted := by
    show (0 : ℤ) = ∑ index, Request.slots (Request.new (models index) _ _)
    exact (Finset.sum_eq_zero fun index _ => rfl).symm
  inUse := Int.natCast_nonneg bound
  capacity := max_le positive (Int.toNat_le.mpr bounded)
  swaps index := ⟨fun swapping => absurd swapping (by simp [initial, Request.new]),
    fun swapping => absurd swapping (by simp [initial, Request.new, Request.isSwapping])⟩
  locked index inside := absurd inside (by simp [initial, Request.new, Request.locking])
  alone first _ inside := absurd inside (by simp [initial, Request.new, Request.locking])

/-! ### What is being served when the webhook is posted -/

/-- The poster's own slot: a stream whose client is still there swaps inside it. -/
def posterSlots (request : Request) : ℤ :=
  if request.stream = true ∧ request.place ≠ .ended then 1 else 0

/-- The requests the upstream is answering. -/
def servingCount (state : State Index) : ℕ :=
  (Finset.univ.filter fun index => (state.requests index).place = .serving).card

/-- A swap that is on is called at a place without service, and a connected stream's in its slot. -/
theorem Request.Swaps.posterSlots_le {request : Request} (swaps : request.Swaps)
    (swapping : request.isSwapping = true) :
    request.place ≠ .serving ∧ posterSlots request ≤ request.slots := by
  have placed := swaps.called swapping
  unfold posterSlots
  split at placed
  · rename_i isStream
    obtain holding | ended := placed
    · simp [holding, isStream, Request.slots, Request.holdsSlot]
    · simp [ended, isStream, Request.slots, Request.holdsSlot]
  · rename_i notStream
    simp [placed, notStream, Request.slots, Request.holdsSlot]

/-- What is being served and the slot of one that is not are slots in use. -/
theorem Isolated.servingCount_le {bound : ℕ} {state : State Index} (isolated : Isolated bound state)
    {index : Index} (swapping : (state.requests index).isSwapping = true) :
    servingCount state + posterSlots (state.requests index) ≤ bound := by
  obtain ⟨notServing, poster⟩ := (isolated.swaps index).posterSlots_le swapping
  let serving (request : Request) : ℤ := if request.place = .serving then 1 else 0
  have count : total serving state.requests = servingCount state :=
    total_eq_card serving (fun request => request.place = .serving) fun _ => rfl
  have here : serving (state.requests index) = 0 := if_neg notServing
  have others : ∑ other ∈ Finset.univ.erase index, serving (state.requests other) ≤
      ∑ other ∈ Finset.univ.erase index, (state.requests other).slots := by
    refine Finset.sum_le_sum fun other _ => ?_
    simp only [serving, Request.slots]
    split
    · rename_i isServing
      rw [Request.holdsSlot, isServing]
      exact le_rfl
    · split
      · exact zero_le_one
      · exact le_rfl
  have splitServing := Finset.add_sum_erase Finset.univ
    (fun other => serving (state.requests other)) (Finset.mem_univ index)
  have splitSlots := Finset.add_sum_erase Finset.univ
    (fun other => (state.requests other).slots) (Finset.mem_univ index)
  have inUse := isolated.inUse
  rw [isolated.counted] at inUse
  unfold total at count inUse
  omega

omit [Fintype Index] in
/-- The re-check posts the webhook only when another backend is loaded. -/
theorem loaded_of_posts {config : Config} {state next : State Index} {index : Index}
    (stepped : (machine config).step state (.request index .recheck) = some next)
    (posts : (next.requests index).swap = .posting) :
    (state.requests index).locking = true ∧ (state.requests index).isSwapping = true ∧
      state.shared.loaded ≠ (state.requests index).wanted := by
  obtain ⟨turn, ran, rfl⟩ := Option.map_eq_some_iff.mp stepped
  replace posts : (Function.update state.requests index turn.request index).swap = .posting := posts
  rw [Function.update_self] at posts
  simp only [AutoSwap.segment] at ran
  split at ran
  · rename_i rechecking
    split at ran <;> cases ran
    · exact absurd posts (by simp [endSwap])
    · rename_i other
      exact ⟨by rw [Request.locking, rechecking], by rw [Request.isSwapping, rechecking], other⟩
  · cases ran

/-- A swap waits for no answer: when the webhook is posted, no other request is swapping, the
backend that is loaded is not the wanted one, the poster is not being served, and what is being
served fits in the slots that the poster leaves. -/
theorem posts_within_slots (config : Config) (bound : ℕ) (positive : 1 ≤ bound) (loaded : String)
    (capacity : ℤ) (start : capacity ≤ bound) (models : Index → String)
    (stream serverTools : Index → Bool) (events : List (Event Index))
    (bounded : ∀ capacity : ℤ, .setCapacity capacity ∈ events → capacity ≤ bound)
    (state next : State Index)
    (ran : (machine config).run (initial loaded capacity models stream serverTools) events =
      some state)
    (index : Index) (stepped : (machine config).step state (.request index .recheck) = some next)
    (posts : (next.requests index).swap = .posting) :
    (∀ other, other ≠ index → (state.requests other).locking = false) ∧
      state.shared.loaded ≠ (state.requests index).wanted ∧
      (state.requests index).place ≠ .serving ∧
      servingCount state + posterSlots (state.requests index) ≤ bound := by
  have guarded : (machine config).Guarded (BoundedCapacity bound)
      (initial loaded capacity models stream serverTools) events :=
    (machine config).guarded_of_forall (fun event member _ => by
      cases event with
      | setCapacity capacity => exact bounded capacity member
      | request | webhookRuns | webhookFails => trivial) _
  have isolated : Isolated bound state :=
    (machine config).run_invariant_of_guarded (BoundedCapacity bound) (Isolated bound)
      (fun _ _ _ bounded stepped => Isolated.step positive bounded stepped) guarded ran
      (initial_isolated positive loaded start models stream serverTools)
  obtain ⟨inside, swapping, otherLoaded⟩ := loaded_of_posts stepped posts
  refine ⟨fun other apart => ?_, otherLoaded, ?_, isolated.servingCount_le swapping⟩
  · exact Bool.eq_false_iff.mpr fun otherInside =>
      apart (isolated.alone other index otherInside inside)
  · exact ((isolated.swaps index).posterSlots_le swapping).1

end Runs

/-! ### The swap that cuts an answer -/

/-- Two plain requests for aliases of two profiles, and a gate with one slot. -/
def twoProfiles : State (Fin 2) :=
  initial "qwen3.8" 1 !["qwen3.8", "devstral"] ![false, false] ![false, false]

/-- The first is admitted and forwarded; the second finds its profile missing. -/
def answerThenSwap : List (Event (Fin 2)) :=
  [.request 0 .check, .request 0 (.countTokens true), .request 0 .takeSlot, .request 0 .forward,
    .request 1 .check, .request 1 .takeLock]

def swapConfig : Config :=
  { strictProfileMatch := true, swapWebhookUrl := "http://host:9000", swapWebhookKey := "key" }

/-- The webhook is posted while the first request is being answered. -/
theorem posts_during_answer : ∃ state next,
    (machine swapConfig).run twoProfiles answerThenSwap = some state ∧
      (machine swapConfig).step state (.request 1 .recheck) = some next ∧
      (next.requests 1).swap = .posting ∧ (state.requests 0).place = .serving := by
  have posted : ((machine swapConfig).run twoProfiles answerThenSwap).any (fun state =>
      ((machine swapConfig).step state (.request 1 .recheck)).any fun next =>
        (next.requests 1).swap = .posting && (state.requests 0).place = .serving) = true := by
    decide
  obtain ⟨state, ran, posted⟩ := (Option.any_eq_true _ _).mp posted
  obtain ⟨next, stepped, posted⟩ := (Option.any_eq_true _ _).mp posted
  obtain ⟨posting, serving⟩ := Bool.and_eq_true_iff.mp posted
  exact ⟨state, next, ran, stepped, of_decide_eq_true posting, of_decide_eq_true serving⟩

/-- That post met the bound: one answer, one slot, and a poster without one. -/
theorem posts_within_one_slot : ∃ state next,
    (machine swapConfig).run twoProfiles answerThenSwap = some state ∧
      (machine swapConfig).step state (.request 1 .recheck) = some next ∧
      (state.requests 0).locking = false ∧
      servingCount state + posterSlots (state.requests 1) ≤ 1 := by
  have posted : ((machine swapConfig).run twoProfiles answerThenSwap).any (fun state =>
      ((machine swapConfig).step state (.request 1 .recheck)).any fun next =>
        decide ((next.requests 1).swap = .posting)) = true := by
    decide
  obtain ⟨state, ran, posted⟩ := (Option.any_eq_true _ _).mp posted
  obtain ⟨next, stepped, posted⟩ := (Option.any_eq_true _ _).mp posted
  obtain ⟨alone, _, _, bounded⟩ := posts_within_slots swapConfig 1 le_rfl "qwen3.8" 1 le_rfl
    !["qwen3.8", "devstral"] ![false, false] ![false, false] answerThenSwap
    (fun capacity member => by simp [answerThenSwap] at member) state next ran 1 stepped
    (of_decide_eq_true posted)
  exact ⟨state, next, ran, stepped, alone 0 (by decide), bounded⟩

end AutoSwap

end LocalGpuCluster
