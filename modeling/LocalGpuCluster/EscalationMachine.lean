/-
This file puts escalation calls side by side. The segments of any number of calls of `handle`,
and the operations of `Ledger` called on their own, happen in any order on one ledger; time
passes between them. The invariant here is about tokens: each reservation belongs to one party,
so settling or releasing one never touches another's.
-/

import LocalGpuCluster.EscalationSegments
import LocalGpuCluster.Machine

namespace LocalGpuCluster

namespace Escalation

/-! ### The machine -/

/-- The ledger, the time it is, the calls of `handle` that await the upstream, and the tokens
that callers of `Ledger.reserve` itself have. -/
structure State (Index : Type) where
  ledger : Ledger
  clock : ℚ
  calls : Index → Option Call
  tokens : List ℕ

inductive Event (Index : Type) where
  /-- Time passes. -/
  | tick (now : ℚ)
  | reserve (chosen : Alias) (worst : Option ℚ) (now : ℚ)
  | settle (token : ℕ) (row : Row) (append : Append)
  | release (token : ℕ)
  /-- A call of `handle` runs its first segment. -/
  | arrive (index : Index) (file : Option Text) (append : Append) (chosen : Alias) (body : Json)
      (now : ℚ)
  /-- Its upstream is through with it, and it runs its last segment. -/
  | conclude (index : Index) (elapsed : ℚ) (append : Append) (keepsBrief : Bool)
      (upstream : Upstream)

variable {Index : Type}

/-- A ledger file at a time, with no call under way. -/
def start (lines : List Line) (clock : ℚ) : State Index where
  ledger := ⟨lines, [], 0⟩
  clock := clock
  calls _ := none
  tokens := []

/-- The time it is after an event. -/
def Event.time (clock : ℚ) : Event Index → ℚ
  | .tick now | .reserve _ _ now | .arrive _ _ _ _ _ now => now
  | .settle _ _ _ | .release _ | .conclude _ _ _ _ _ => clock

section Machine

variable [DecidableEq Index]

/-- The calls under way after an arrival. -/
def noteArrival (calls : Index → Option Call) (index : Index) :
    Except PyError Arrival → Index → Option Call
  | .ok (.sent call) => Function.update calls index (some call)
  | _ => calls

/-- What an event does. Arrival times do not decrease, and a token is used by the caller who has
it. -/
def machine (python : Python) (config : Config) : Machine (State Index) (Event Index) where
  step state
    | .tick now => if state.clock ≤ now then some { state with clock := now } else none
    | .reserve chosen worst now =>
        if state.clock ≤ now then
          match Escalation.reserve python config chosen worst now state.ledger with
          | .ok (.granted token held) =>
              some { state with ledger := held, clock := now, tokens := token :: state.tokens }
          | _ => some { state with clock := now }
        else none
    | .settle token row append =>
        if token ∈ state.tokens then
          some { state with ledger := (state.ledger.settle token row append).1 }
        else none
    | .release token =>
        if token ∈ state.tokens then some { state with ledger := state.ledger.release token }
        else none
    | .arrive index file append chosen body now =>
        if state.clock ≤ now ∧ state.calls index = none then
          let result := Escalation.arrive python config file append state.ledger chosen body now
          some { state with
            ledger := result.1
            clock := now
            calls := noteArrival state.calls index result.2 }
        else none
    | .conclude index elapsed append keepsBrief upstream =>
        (state.calls index).map fun call =>
          { state with
            ledger := (Escalation.conclude python config append keepsBrief state.ledger call
              elapsed (post upstream).1).1
            calls := Function.update state.calls index none }

end Machine

/-! ### Reservations and who has them -/

/-- Who is under way once a call has been sent. -/
theorem update_some_eq_some [DecidableEq Index] {calls : Index → Option Call} {index other : Index}
    {call otherCall : Call} :
    Function.update calls index (some call) other = some otherCall ↔
      (other = index ∧ otherCall = call) ∨ (other ≠ index ∧ calls other = some otherCall) := by
  by_cases same : other = index
  · subst same
    simp [eq_comm]
  · simp [same]

/-- Who is under way once a call has ended. -/
theorem update_none_eq_some [DecidableEq Index] {calls : Index → Option Call} {index other : Index}
    {otherCall : Call} :
    Function.update calls index none other = some otherCall ↔
      other ≠ index ∧ calls other = some otherCall := by
  by_cases same : other = index
  · subst same
    simp
  · simp [same]

/-- The reservation of a call that awaits the upstream. -/
def Call.reservation (call : Call) : Reservation := ⟨call.token, call.chosen, call.worst⟩

/-- Tokens are distinct, and each is known to one party. -/
structure Held (state : State Index) : Prop where
  nonneg : ∀ entry ∈ state.ledger.pending, 0 ≤ entry.worst
  fresh : ∀ entry ∈ state.ledger.pending, entry.token < state.ledger.issued
  distinct : (state.ledger.pending.map Reservation.token).Nodup
  calls : ∀ index call, state.calls index = some call →
    call.reservation ∈ state.ledger.pending
  tokens : ∀ token ∈ state.tokens, token < state.ledger.issued
  apart : ∀ index call, state.calls index = some call → call.token ∉ state.tokens
  callsApart : ∀ first second firstCall secondCall, state.calls first = some firstCall →
    state.calls second = some secondCall → firstCall.token = secondCall.token → first = second

namespace Held

variable {state : State Index}

/-- Lines and the clock are no part of it, and a call that is over has no reservation to keep. -/
theorem of_calls (held : Held state) (lines : List Line) (clock : ℚ)
    {calls : Index → Option Call}
    (fewer : ∀ index call, calls index = some call → state.calls index = some call) :
    Held ⟨{ state.ledger with lines }, clock, calls, state.tokens⟩ where
  nonneg := held.nonneg
  fresh := held.fresh
  distinct := held.distinct
  calls index call under := held.calls index call (fewer index call under)
  tokens := held.tokens
  apart index call under := held.apart index call (fewer index call under)
  callsApart first second firstCall secondCall firstUnder secondUnder :=
    held.callsApart first second firstCall secondCall (fewer first firstCall firstUnder)
      (fewer second secondCall secondUnder)

/-- A reservation is dropped that no call still under way has. -/
theorem drop (held : Held state) (lines : List Line) (clock : ℚ) {calls : Index → Option Call}
    {gone : ℕ} (fewer : ∀ index call, calls index = some call →
      state.calls index = some call ∧ call.token ≠ gone) :
    Held ⟨({ state.ledger with lines } : Ledger).pop gone, clock, calls, state.tokens⟩ where
  nonneg entry member := held.nonneg entry (List.mem_of_mem_filter member)
  fresh entry member := held.fresh entry (List.mem_of_mem_filter member)
  distinct := held.distinct.sublist (List.Sublist.map _ List.filter_sublist)
  calls index call under := List.mem_filter.mpr
    ⟨held.calls index call (fewer index call under).1, decide_eq_true (fewer index call under).2⟩
  tokens := held.tokens
  apart index call under := held.apart index call (fewer index call under).1
  callsApart first second firstCall secondCall firstUnder secondUnder :=
    held.callsApart first second firstCall secondCall (fewer first firstCall firstUnder).1
      (fewer second secondCall secondUnder).1

/-- The ledger with one more reservation. -/
theorem pending_grant (held : Held state) {chosen : Alias} {worst : ℚ} (nonneg : 0 ≤ worst) :
    (∀ entry ∈ state.ledger.pending ++ [(⟨state.ledger.issued, chosen, worst⟩ : Reservation)],
        0 ≤ entry.worst ∧ entry.token < state.ledger.issued + 1) ∧
      ((state.ledger.pending ++ [(⟨state.ledger.issued, chosen, worst⟩ : Reservation)]).map
        Reservation.token).Nodup := by
  constructor
  · intro entry member
    rcases List.mem_append.mp member with old | new
    · exact ⟨held.nonneg entry old, (held.fresh entry old).trans (Nat.lt_succ_self _)⟩
    · rw [List.mem_singleton.mp new]
      exact ⟨nonneg, Nat.lt_succ_self _⟩
  · rw [List.map_append, List.map_cons, List.map_nil, List.nodup_append]
    refine ⟨held.distinct, List.nodup_singleton _, fun token old other new => ?_⟩
    obtain ⟨entry, member, rfl⟩ := List.mem_map.mp old
    rw [List.mem_singleton.mp new]
    exact (held.fresh entry member).ne

/-- A call that awaits the upstream has an older token. -/
theorem call_lt (held : Held state) {index : Index} {call : Call}
    (under : state.calls index = some call) : call.token < state.ledger.issued :=
  held.fresh call.reservation (held.calls index call under)

/-- `Ledger.reserve` hands its token to its caller. -/
theorem reserve (held : Held state) {chosen : Alias} {worst : ℚ} (nonneg : 0 ≤ worst) (clock : ℚ) :
    Held { state with
      ledger := { state.ledger with
        pending := state.ledger.pending ++ [⟨state.ledger.issued, chosen, worst⟩]
        issued := state.ledger.issued + 1 }
      clock := clock
      tokens := state.ledger.issued :: state.tokens } where
  nonneg entry member := ((held.pending_grant nonneg).1 entry member).1
  fresh entry member := ((held.pending_grant nonneg).1 entry member).2
  distinct := (held.pending_grant nonneg).2
  calls index call under := List.mem_append_left _ (held.calls index call under)
  tokens token member := by
    rcases List.mem_cons.mp member with rfl | older
    · exact Nat.lt_succ_self _
    · exact (held.tokens token older).trans (Nat.lt_succ_self _)
  apart index call under member := by
    rcases List.mem_cons.mp member with same | older
    · exact (held.call_lt under).ne same
    · exact held.apart index call under older
  callsApart := held.callsApart

/-- `handle` keeps its token to itself. -/
theorem send [DecidableEq Index] (held : Held state) {index : Index} {call : Call}
    (token : call.token = state.ledger.issued) (nonneg : 0 ≤ call.worst) (clock : ℚ) :
    Held { state with
      ledger := { state.ledger with
        pending := state.ledger.pending ++ [⟨state.ledger.issued, call.chosen, call.worst⟩]
        issued := state.ledger.issued + 1 }
      clock := clock
      calls := Function.update state.calls index (some call) } where
  nonneg entry member := ((held.pending_grant nonneg).1 entry member).1
  fresh entry member := ((held.pending_grant nonneg).1 entry member).2
  distinct := (held.pending_grant nonneg).2
  calls other otherCall under := by
    obtain ⟨-, rfl⟩ | ⟨-, older⟩ := update_some_eq_some.mp under
    · refine List.mem_append_right _ (List.mem_singleton.mpr ?_)
      rw [Call.reservation, token]
    · exact List.mem_append_left _ (held.calls other otherCall older)
  tokens other member := (held.tokens other member).trans (Nat.lt_succ_self _)
  apart other otherCall under member := by
    obtain ⟨-, rfl⟩ | ⟨-, older⟩ := update_some_eq_some.mp under
    · exact (held.tokens _ member).ne token
    · exact held.apart other otherCall older member
  callsApart first second firstCall secondCall firstUnder secondUnder same := by
    obtain ⟨rfl, rfl⟩ | ⟨-, firstOlder⟩ := update_some_eq_some.mp firstUnder <;>
      obtain ⟨rfl, rfl⟩ | ⟨-, secondOlder⟩ := update_some_eq_some.mp secondUnder
    · rfl
    · exact absurd (same.symm.trans token) (held.call_lt secondOlder).ne
    · exact absurd (same.trans token) (held.call_lt firstOlder).ne
    · exact held.callsApart first second firstCall secondCall firstOlder secondOlder same

end Held

/-! ### Every step keeps the tokens apart -/

/-- A refusal appends its row and leaves the reservations alone. -/
theorem refuseWith_fst (ledger : Ledger) (call : Refused) (append : Append) (refusal : Refusal) :
    (refuseWith ledger call append refusal).1 =
      { ledger with
        lines := appendLines ledger.lines (callRow call.now call.chosen call.model call.sha
          call.briefTokens 0 0 0 (text "refused:" ++ refusal.code) none) append } := by
  cases append <;> rfl

theorem noteArrival_refuseWith [DecidableEq Index] (calls : Index → Option Call) (index : Index)
    (ledger : Ledger) (call : Refused) (append : Append) (refusal : Refusal) :
    noteArrival calls index (refuseWith ledger call append refusal).2 = calls := by
  cases append <;> rfl

theorem Held.start (lines : List Line) (clock : ℚ) : Held (start lines clock : State Index) where
  nonneg _ member := absurd member List.not_mem_nil
  fresh _ member := absurd member List.not_mem_nil
  distinct := List.nodup_nil
  calls _ _ under := by cases under
  tokens _ member := absurd member List.not_mem_nil
  apart _ _ under := by cases under
  callsApart _ _ _ _ under := by cases under

/-- A settlement drops a reservation that no call under way has, or none. -/
theorem Held.settle {state : State Index} (held : Held state) {calls : Index → Option Call} {token : ℕ}
    (fewer : ∀ index call, calls index = some call →
      state.calls index = some call ∧ call.token ≠ token) (row : Row) (append : Append) :
    Held ⟨(state.ledger.settle token row append).1, state.clock, calls, state.tokens⟩ := by
  by_cases written : append = .written
  · subst written
    exact held.drop _ state.clock fewer
  · rw [settle_raised written]
    exact held.of_calls _ state.clock fun index call under => (fewer index call under).1

section Step

variable [DecidableEq Index] {python : Python} {config : Config} {state next : State Index}

/-- The other calls have other tokens than the one that concludes. -/
theorem Held.others (held : Held state) {index : Index} {call : Call}
    (under : state.calls index = some call) (other : Index) (otherCall : Call)
    (left : Function.update state.calls index none other = some otherCall) :
    state.calls other = some otherCall ∧ otherCall.token ≠ call.token := by
  obtain ⟨different, still⟩ := update_none_eq_some.mp left
  exact ⟨still, fun sameToken =>
    different (held.callsApart other index otherCall call still under sameToken)⟩

/-- What an arrival does: the call raises, or its refusal is appended, or it is sent. -/
theorem step_arrive {index : Index} {file : Option Text} {append : Append} {chosen : Alias}
    {body : Json} {now : ℚ}
    (stepped : (machine python config).step state (.arrive index file append chosen body now) =
      some next) :
    (state.clock ≤ now ∧ state.calls index = none) ∧
      (next = { state with clock := now } ∨
        (∃ (call : Refused) (spoken : Refusal), next = { state with
          ledger := { state.ledger with
            lines := appendLines state.ledger.lines (callRow call.now call.chosen call.model
              call.sha call.briefTokens 0 0 0 (text "refused:" ++ spoken.code) none) append }
          clock := now }) ∨
        ∃ held call, Sent python config state.ledger held chosen body now call ∧
          arrive python config file append state.ledger chosen body now = (held, .ok (.sent call)) ∧
          next = { state with
            ledger := held
            clock := now
            calls := Function.update state.calls index (some call) }) := by
  obtain ⟨ready, moved⟩ := Option.ite_none_right_eq_some.mp stepped
  have result : next = { state with
      ledger := (arrive python config file append state.ledger chosen body now).1
      clock := now
      calls := noteArrival state.calls index
        (arrive python config file append state.ledger chosen body now).2 } :=
    (Option.some.inj moved).symm
  refine ⟨ready, ?_⟩
  obtain ⟨failure, raised⟩ | ⟨refused, spoken, -, -, -, refuses⟩ | ⟨held, call, sends, sent⟩ :=
    arrive_cases python config file append state.ledger chosen body now
  · rw [raised] at result
    exact Or.inl result
  · rw [refuses, refuseWith_fst, noteArrival_refuseWith] at result
    exact Or.inr (Or.inl ⟨refused, spoken, result⟩)
  · rw [sends] at result
    exact Or.inr (Or.inr ⟨held, call, sent, sends, result⟩)

/-- What the end of a call does. -/
theorem step_conclude {index : Index} {elapsed : ℚ} {append : Append} {keepsBrief : Bool}
    {upstream : Upstream}
    (stepped : (machine python config).step state
      (.conclude index elapsed append keepsBrief upstream) = some next) :
    ∃ call, state.calls index = some call ∧ next = { state with
      ledger := (state.ledger.settle call.token (settledRow python call elapsed
        (charge python call (post upstream).1)) append).1
      calls := Function.update state.calls index none } := by
  obtain ⟨call, under, moved⟩ := Option.map_eq_some_iff.mp stepped
  rw [conclude_ledger] at moved
  exact ⟨call, under, moved.symm⟩

/-- An event happens at its time, and not in the past. -/
theorem step_clock {event : Event Index}
    (stepped : (machine python config).step state event = some next) :
    next.clock = event.time state.clock ∧ state.clock ≤ next.clock := by
  cases event with
  | tick now =>
    obtain ⟨passed, ⟨⟩⟩ := Option.ite_none_right_eq_some.mp stepped
    exact ⟨rfl, passed⟩
  | reserve chosen worst now =>
    obtain ⟨passed, moved⟩ := Option.ite_none_right_eq_some.mp stepped
    split at moved <;> cases moved <;> exact ⟨rfl, passed⟩
  | settle token row append =>
    obtain ⟨-, ⟨⟩⟩ := Option.ite_none_right_eq_some.mp stepped
    exact ⟨rfl, le_rfl⟩
  | release token =>
    obtain ⟨-, ⟨⟩⟩ := Option.ite_none_right_eq_some.mp stepped
    exact ⟨rfl, le_rfl⟩
  | arrive index file append chosen body now =>
    obtain ⟨⟨passed, -⟩, rfl | ⟨call, spoken, rfl⟩ | ⟨after, call, sent, -, rfl⟩⟩ :=
      step_arrive stepped
    all_goals exact ⟨rfl, passed⟩
  | conclude index elapsed append keepsBrief upstream =>
    obtain ⟨call, under, rfl⟩ := step_conclude stepped
    exact ⟨rfl, le_rfl⟩

end Step

end Escalation

end LocalGpuCluster
