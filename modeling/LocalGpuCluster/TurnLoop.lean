/-
This file holds loops of a bounded number of turns, each of which goes on from a new state, leaves the
loop with a result, or raises. What every turn keeps, the loop keeps; and the loop raises exactly where
one of the turns it comes to does.
-/

import Mathlib.Data.Nat.Notation

namespace LocalGpuCluster

namespace TurnLoop

variable {State Result : Type}

/-- How a turn ends, with the state it leaves. -/
inductive Turn (State Result : Type) where
  | again (state : State)
  | returns (state : State) (result : Result)
  | raises (state : State)

def Turn.state : Turn State Result → State
  | .again state => state
  | .returns state _ => state
  | .raises state => state

/-- `for _ in range(count)`, which ends as its last turn does. -/
def repeatTurns (turn : State → Turn State Result) : ℕ → State → Turn State Result
  | 0, state => .again state
  | count + 1, state =>
      match turn state with
      | .again next => repeatTurns turn count next
      | .returns last result => .returns last result
      | .raises last => .raises last

/-- The state from which a later turn starts, so many turns on. -/
inductive Comes (turn : State → Turn State Result) (start : State) : ℕ → State → Prop
  | start : Comes turn start 0 start
  | next {count : ℕ} {state later : State} : Comes turn start count state →
      turn state = .again later → Comes turn start (count + 1) later

variable {turn : State → Turn State Result}

theorem Comes.before {start next state : State} {count : ℕ} (first : turn start = .again next)
    (comes : Comes turn next count state) : Comes turn start (count + 1) state := by
  induction comes with
  | start => exact .next .start first
  | next _ goesOn inductionHypothesis => exact .next inductionHypothesis goesOn

/-- What holds of the first state and is kept by every turn that goes on holds wherever the loop
comes. -/
theorem Comes.invariant {Holds : ℕ → State → Prop} {start : State} (first : Holds 0 start)
    (keeps : ∀ {count state next}, Holds count state → turn state = .again next →
      Holds (count + 1) next)
    {count : ℕ} {state : State} (comes : Comes turn start count state) : Holds count state := by
  induction comes with
  | start => exact first
  | next _ goesOn inductionHypothesis => exact keeps inductionHypothesis goesOn

/-- The loop has gone through all its turns, or ends as one that it came to. -/
theorem repeatTurns_cases (turn : State → Turn State Result) (count : ℕ) (start : State) :
    (∃ state, Comes turn start count state ∧ repeatTurns turn count start = .again state) ∨
      ∃ done < count, ∃ state, Comes turn start done state ∧
        repeatTurns turn count start = turn state ∧ ∀ next, turn state ≠ .again next := by
  induction count generalizing start with
  | zero => exact Or.inl ⟨start, .start, rfl⟩
  | succ count inductionHypothesis =>
    rw [repeatTurns]
    cases ended : turn start with
    | again next =>
      obtain ⟨state, comes, same⟩ | ⟨done, bound, state, comes, same, last⟩ :=
        inductionHypothesis next
      · exact Or.inl ⟨state, comes.before ended, same⟩
      · exact Or.inr ⟨done + 1, Nat.succ_lt_succ bound, state, comes.before ended, same, last⟩
    | returns last result =>
      exact Or.inr ⟨0, Nat.succ_pos _, start, .start, ended.symm, by rw [ended]; exact fun _ => nofun⟩
    | raises last =>
      exact Or.inr ⟨0, Nat.succ_pos _, start, .start, ended.symm, by rw [ended]; exact fun _ => nofun⟩

/-- A turn that the loop comes to and that does not go on is its last. -/
theorem repeatTurns_of_comes {start state : State} {count done : ℕ}
    (comes : Comes turn start done state) (bound : done < count)
    (last : ∀ next, turn state ≠ .again next) : repeatTurns turn count start = turn state := by
  have general : ∀ extra, repeatTurns turn (extra + 1 + done) start = turn state := by
    intro extra
    have ends : repeatTurns turn (extra + 1) state = turn state := by
      rw [repeatTurns]
      cases ended : turn state with
      | again next => exact absurd ended (last next)
      | returns _ _ => rfl
      | raises _ => rfl
    rw [← ends]
    clear ends bound last
    induction comes generalizing extra with
    | start => rfl
    | @next count state later _ goesOn inductionHypothesis =>
      rw [show extra + 1 + (count + 1) = extra + 1 + 1 + count by omega, inductionHypothesis,
        repeatTurns, goesOn]
  rw [← general (count - 1 - done), show count - 1 - done + 1 + done = count by omega]

/-- The loop raises exactly where a turn it comes to does. -/
theorem repeatTurns_raises_iff {start : State} {count : ℕ} :
    (∃ state, repeatTurns turn count start = .raises state) ↔
      ∃ done < count, ∃ state, Comes turn start done state ∧ ∃ last, turn state = .raises last := by
  constructor
  · rintro ⟨last, raised⟩
    obtain ⟨state, _, same⟩ | ⟨done, bound, state, comes, same, _⟩ :=
      repeatTurns_cases turn count start
    · rw [same] at raised
      cases raised
    · exact ⟨done, bound, state, comes, last, same.symm.trans raised⟩
  · rintro ⟨done, bound, state, comes, last, raised⟩
    refine ⟨last, ?_⟩
    rw [repeatTurns_of_comes comes bound (by rw [raised]; exact fun _ => nofun), raised]

end TurnLoop

end LocalGpuCluster
