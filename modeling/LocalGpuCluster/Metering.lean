/-
This file holds computations that emit items one after another, and what a meter makes of them. The
meter grants each item while there is something left, and refuses the first one that it cannot
grant; the computation then stops. A metered computation is one that emits what the meter grants of
an emission: a prefix of it, and a proper one exactly when an item was refused.
-/

import Mathlib.Data.List.Infix

namespace LocalGpuCluster

namespace Metering

variable {State Item Out Middle Raised : Type}

/-! ### Emissions -/

/-- The items that a computation emits, and how it ends. -/
structure Emission (Item Raised : Type) where
  items : List Item
  ending : Except Raised Unit

namespace Emission

def nothing : Emission Item Raised := ⟨[], .ok ()⟩

def one (item : Item) : Emission Item Raised := ⟨[item], .ok ()⟩

/-- The second one starts when the first one returns. -/
def andThen (first second : Emission Item Raised) : Emission Item Raised :=
  match first.ending with
  | .ok _ => ⟨first.items ++ second.items, second.ending⟩
  | .error raised => ⟨first.items, .error raised⟩

/-- What is emitted after a step that emits nothing. -/
def after (step : Except Raised Middle) (next : Middle → Emission Item Raised) :
    Emission Item Raised :=
  match step with
  | .ok middle => next middle
  | .error raised => ⟨[], .error raised⟩

theorem after_map {Other : Type} (step : Except Raised Middle) (change : Middle → Other)
    (next : Other → Emission Item Raised) :
    after (step.map change) next = after step fun middle => next (change middle) := by
  cases step <;> rfl

end Emission

/-! ### Meters -/

structure Meter (State Item : Type) where
  grants : State → Item → Bool
  charge : State → Item → State
  refuse : State → State
  stopped : State → Bool
  stopped_charge : ∀ state item, stopped (charge state item) = stopped state
  stopped_refuse : ∀ state, stopped (refuse state) = true

namespace Meter

variable (meter : Meter State Item)

/-- What the meter grants of the items, and its state then. -/
def spend : List Item → State → List Item × State
  | [], state => ([], state)
  | item :: rest, state =>
      if meter.grants state item then
        let (granted, after) := spend rest (meter.charge state item)
        (item :: granted, after)
      else ([], meter.refuse state)

variable {meter} {state : State}

theorem spend_isPrefix (items : List Item) (state : State) :
    (meter.spend items state).1 <+: items := by
  induction items generalizing state with
  | nil => exact List.prefix_refl []
  | cons item rest inductionHypothesis =>
    rw [spend]
    split
    · exact List.cons_prefix_cons.mpr ⟨rfl, inductionHypothesis _⟩
    · exact List.nil_prefix

/-- The meter stops when it refuses an item. -/
theorem stopped_spend_iff (running : meter.stopped state = false) (items : List Item) :
    meter.stopped (meter.spend items state).2 = true ↔ (meter.spend items state).1 ≠ items := by
  induction items generalizing state with
  | nil =>
    refine iff_of_false (fun stopped => ?_) (fun differs => differs rfl)
    exact Bool.false_ne_true (running.symm.trans stopped)
  | cons item rest inductionHypothesis =>
    rw [spend]
    split
    · have charged := inductionHypothesis ((meter.stopped_charge state item).trans running)
      exact charged.trans (not_congr (List.cons_inj_right item).symm)
    · exact iff_of_true (meter.stopped_refuse state) (List.cons_ne_nil item rest).symm

/-- The second part is metered when nothing of the first one was refused. -/
theorem spend_append (running : meter.stopped state = false) (first second : List Item) :
    meter.spend (first ++ second) state =
      let (granted, middle) := meter.spend first state
      if meter.stopped middle then (granted, middle)
      else (granted ++ (meter.spend second middle).1, (meter.spend second middle).2) := by
  induction first generalizing state with
  | nil =>
    show meter.spend second state = if meter.stopped state then ([], state) else _
    rw [running, if_neg Bool.false_ne_true, List.nil_append]
  | cons item rest inductionHypothesis =>
    rw [List.cons_append, spend, spend]
    split
    · rw [inductionHypothesis ((meter.stopped_charge state item).trans running)]
      dsimp only
      split <;> rfl
    · dsimp only
      rw [meter.stopped_refuse, if_pos rfl]

/-- What each grant keeps holds of all that was granted. -/
theorem spend_invariant {holds : List Item → State → Prop}
    (granted : ∀ items state item, holds items state → meter.grants state item = true →
      holds (items ++ [item]) (meter.charge state item))
    (refused : ∀ items state, holds items state → holds items (meter.refuse state))
    {items before : List Item} (start : holds before state) :
    holds (before ++ (meter.spend items state).1) (meter.spend items state).2 := by
  induction items generalizing before state with
  | nil => exact (List.append_nil before).symm ▸ start
  | cons item rest inductionHypothesis =>
    rw [spend]
    split
    · rename_i grants
      have further := inductionHypothesis (granted before state item start grants)
      rwa [List.append_assoc] at further
    · exact (List.append_nil before).symm ▸ refused before state start

end Meter

/-! ### Metered computations -/

section

variable (meter : Meter State Item) (write : Item → Out)

/-- The computation writes what the meter grants of the emission. It ends as the emission does, or
returns where the meter stops it. -/
def Metered (run : State → Except Raised (List Out × State)) (emission : Emission Item Raised) :
    Prop :=
  ∀ state, meter.stopped state = false →
    run state =
      let (granted, after) := meter.spend emission.items state
      if meter.stopped after then .ok (granted.map write, after)
      else emission.ending.map fun _ => (granted.map write, after)

variable {meter write}

theorem Metered.nothing :
    Metered meter write (fun state => .ok ([], state) : State → Except Raised (List Out × State))
      .nothing := by
  intro state running
  show _ = if meter.stopped state then _ else _
  rw [running]
  rfl

/-- One item, granted or refused. -/
theorem Metered.one (item : Item) :
    Metered meter write (fun state => .ok (if meter.grants state item then
      ([write item], meter.charge state item) else ([], meter.refuse state)) :
        State → Except Raised (List Out × State)) (.one item) := by
  intro state running
  rw [Emission.one, Meter.spend]
  dsimp only
  split
  · show _ = if meter.stopped (meter.charge state item) then _ else _
    rw [meter.stopped_charge, running]
    rfl
  · dsimp only
    rw [meter.stopped_refuse, if_pos rfl]
    rfl

theorem Metered.after {step : Except Raised Middle}
    {run : Middle → State → Except Raised (List Out × State)} {next : Middle → Emission Item Raised}
    (each : ∀ middle, step = .ok middle → Metered meter write (run middle) (next middle)) :
    Metered meter write (fun state => step >>= fun middle => run middle state)
      (.after step next) := by
  intro state running
  cases step with
  | ok middle => exact each middle rfl state running
  | error raised =>
    show _ = if meter.stopped state then _ else _
    rw [running]
    rfl

/-- The second computation runs when the first one was not stopped. -/
theorem Metered.andThen {first second : State → Except Raised (List Out × State)}
    {before further : Emission Item Raised} (starts : Metered meter write first before)
    (continues : Metered meter write second further) :
    Metered meter write (fun state => do
      let (written, middle) ← first state
      if meter.stopped middle then pure (written, middle)
      else
        let (more, after) ← second middle
        pure (written ++ more, after)) (before.andThen further) := by
  intro state running
  show (first state >>= _) = _
  rw [starts state running]
  obtain ⟨items, ending⟩ := before
  cases stopped : meter.stopped (meter.spend items state).2 with
  | true =>
    -- nothing of what comes next is granted, however the first computation would have ended
    have granted : meter.spend ((Emission.mk items ending).andThen further).items state =
        meter.spend items state := by
      cases ending with
      | error raised => rfl
      | ok _ => exact (Meter.spend_append running items further.items).trans (if_pos stopped)
    dsimp only
    rw [granted, stopped, if_pos rfl, if_pos rfl]
    show (if meter.stopped (meter.spend items state).2 then _ else _) = _
    rw [stopped]
    rfl
  | false =>
    cases ending with
    | error raised =>
      show (_ : Except Raised _) = if meter.stopped (meter.spend items state).2 then _ else _
      dsimp only
      rw [stopped]
      rfl
    | ok _ =>
      have granted : meter.spend (items ++ further.items) state =
          ((meter.spend items state).1 ++ (meter.spend further.items (meter.spend items state).2).1,
            (meter.spend further.items (meter.spend items state).2).2) :=
        (Meter.spend_append running items further.items).trans
          (if_neg (by rw [stopped]; exact Bool.false_ne_true))
      rw [Emission.andThen]
      dsimp only
      rw [granted, stopped, if_neg Bool.false_ne_true]
      show (if meter.stopped (meter.spend items state).2 then _ else _) = _
      rw [stopped, if_neg Bool.false_ne_true, continues _ stopped]
      dsimp only
      rw [List.map_append]
      split
      · rfl
      · cases further.ending <;> rfl

/-- A computation that returns wrote what was granted, and all of it where it was not stopped. -/
theorem Metered.returned {run : State → Except Raised (List Out × State)}
    {emission : Emission Item Raised} (metered : Metered meter write run emission)
    {state after : State} (running : meter.stopped state = false) {written : List Out}
    (ran : run state = .ok (written, after)) :
    written = (meter.spend emission.items state).1.map write ∧
      after = (meter.spend emission.items state).2 ∧
      (meter.stopped after = false → emission.ending = .ok ()) := by
  have outcome := (metered state running).symm.trans ran
  dsimp only at outcome
  split at outcome
  · rename_i stopped
    obtain ⟨rfl, rfl⟩ := Prod.mk.inj (Except.ok.inj outcome)
    exact ⟨rfl, rfl, fun goes => absurd (stopped.symm.trans goes) Bool.noConfusion⟩
  · cases ending : emission.ending with
    | error raised =>
      rw [ending] at outcome
      cases outcome
    | ok _ =>
      rw [ending] at outcome
      obtain ⟨rfl, rfl⟩ := Prod.mk.inj (Except.ok.inj outcome)
      exact ⟨rfl, rfl, fun _ => rfl⟩

end

end Metering

end LocalGpuCluster
