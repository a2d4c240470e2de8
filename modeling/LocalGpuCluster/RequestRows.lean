/-
This file shows what holds of the rows of the request tracker in every run. Each row that was opened
is open, or finished once, or was lost when its rates could not be computed. A row that is done had
its timing line, and was not cancelled; the tracker knows a cancelled request by its task alone, and
forgets it when any slot releases that task.
-/

import LocalGpuCluster.RequestTracker
import Mathlib.Algebra.Order.Ring.Rat

namespace LocalGpuCluster

namespace LiveDashboard

open Interaction

variable {F Task : Type}

/-! ### Rows -/

/-- Each line that cancels the task is followed by one that releases the task in another slot. -/
def Answered (lines : List (Event F Task)) (slot : ℤ) (task : Task) : Prop :=
  ∀ before after, lines = before ++ .cancel task :: after →
    ∃ other n, other ≠ slot ∧ .report other task (.release n) ∈ after

/-- The timing line of the task is among the lines. -/
def Timed (lines : List (Event F Task)) (slot : ℤ) (task : Task) : Prop :=
  ∃ timing, .report slot task (.eval timing) ∈ lines

/-- A cancel of the row's task since the row was opened is known, or answered by another slot. -/
def Known (tracker : Tracker F Task) (row : OpenRow F Task) : Prop :=
  row.task ∈ tracker.cancelled ∨ Answered (tracker.lines.drop row.openedAt) row.slot row.task

theorem Answered.concat {lines : List (Event F Task)} {slot : ℤ} {task : Task}
    (answered : Answered lines slot task) {event : Event F Task} (other : event ≠ .cancel task) :
    Answered (lines ++ [event]) slot task := by
  intro before after split
  obtain rfl | ⟨others, last, rfl⟩ := List.eq_nil_or_concat' after
  · exact absurd (List.append_inj_right' split rfl) (by simpa using other)
  · have same : lines ++ [event] = (before ++ .cancel task :: others) ++ [last] := by
      rw [split, List.append_assoc, List.cons_append]
    obtain ⟨slot, n, differs, member⟩ :=
      answered before others (List.append_inj_left' same rfl)
    exact ⟨slot, n, differs, List.mem_append_left _ member⟩

/-- A line that releases the task in another slot answers every cancel before it. -/
theorem answered_concat_release (lines : List (Event F Task)) {slot other : ℤ} {task : Task}
    (differs : other ≠ slot) (n : Option ℤ) :
    Answered (lines ++ [.report other task (.release n)]) slot task := by
  intro before after split
  obtain rfl | ⟨others, last, rfl⟩ := List.eq_nil_or_concat' after
  · exact absurd (List.append_inj_right' split rfl) (by simp)
  · have same : lines ++ [Event.report other task (.release n)] =
        (before ++ .cancel task :: others) ++ [last] := by
      rw [split, List.append_assoc, List.cons_append]
    have isLast := List.append_inj_right' same rfl
    refine ⟨other, n, differs, List.mem_append_right _ ?_⟩
    rw [← isLast]
    exact List.mem_singleton_self _

section Rows

variable [LinearOrder F] {runtime : Runtime F Task}

/-- What holds of a finished row. -/
structure Finished.Sound (finished : Finished F Task) : Prop where
  status : finished.row.status ∈ [Status.done, .cancelled, .approx, .interrupted]
  times : ∃ ended, finished.row.finished = some ended ∧ finished.row.started ≤ ended
  done : finished.row.status = .done →
    Timed finished.lines finished.row.slot finished.row.task ∧
      Answered finished.lines finished.row.slot finished.row.task
  counts : ∀ prompt new cached, finished.row.promptTokens = some prompt →
    finished.row.newPromptTokens = some new → finished.row.cachedTokens = some cached →
      prompt = new + cached

/-- What holds of an open row. -/
structure OpenRow.Fine (now : F) (lines : List (Event F Task)) (row : OpenRow F Task) : Prop where
  started : row.started ≤ now
  blank : row.newPromptTokens = none ∧ row.cachedTokens = none
  read : row.openedAt ≤ lines.length
  timed : row.eval.isSome = true → Timed (lines.drop row.openedAt) row.slot row.task

theorem exists_of_bind_eq_ok {First Second : Type} {first : Except Raised First}
    {next : First → Except Raised Second} {result : Second}
    (ok : (first >>= next) = .ok result) :
    ∃ middle, first = .ok middle ∧ next middle = .ok result := by
  cases first with
  | error raised => cases ok
  | ok middle => exact ⟨middle, rfl, ok⟩

/-- When all three counts are known, the prompt is the new and the cached tokens. -/
theorem fitCounts_add {prompt new : Option ℤ} {fitted fresh kept : ℤ}
    (first : (Tracker.fitCounts prompt new none).1 = some fitted) (known : new = some fresh)
    (second : (Tracker.fitCounts prompt new none).2 = some kept) : fitted = fresh + kept := by
  subst known
  cases prompt with
  | none => cases second
  | some prompt =>
    have isFitted : max prompt fresh = fitted := Option.some.inj first
    have isKept : max 0 (max prompt fresh - fresh) = kept := Option.some.inj second
    omega

/-- What `_finish` makes of a fine row is sound, when the row may be done only if it is timed and
not cancelled. -/
theorem sound_of_settle {now : F} {lines : List (Event F Task)} {row : OpenRow F Task}
    (fine : row.Fine now lines) {status : Status}
    (closed : status ∈ [Status.done, .cancelled, .approx, .interrupted])
    (done : status = .done → row.eval.isSome = true ∧
      Answered (lines.drop row.openedAt) row.slot row.task)
    {settled : Row F Task} (ok : Tracker.settle runtime status now row = .ok settled) :
    Finished.Sound ⟨settled, row.serial, lines.drop row.openedAt⟩ := by
  unfold Tracker.settle at ok
  obtain ⟨prefillTokS, _, ok⟩ := exists_of_bind_eq_ok ok
  obtain ⟨genTokS, _, ok⟩ := exists_of_bind_eq_ok ok
  cases ok
  refine ⟨closed, ⟨now, rfl, fine.started⟩, fun isDone => ?_, ?_⟩
  · exact ⟨fine.timed (done isDone).1, (done isDone).2⟩
  · intro prompt new cached isPrompt isNew isCached
    dsimp only at isPrompt isCached
    rw [fine.blank.2] at isPrompt isCached
    exact fitCounts_add isPrompt isNew isCached

/-! ### The invariant -/

variable [DecidableEq Task]

/-- What holds of the tracker between two steps, while the spared rows need not be accounted for
when their task is cancelled. The rows lost so far are the given ones. -/
structure Consistent (now : F) (spared : OpenRow F Task → Prop) (lost : List ℕ)
    (tracker : Tracker F Task) : Prop where
  slots : ∀ entry ∈ tracker.openRows.entries, entry.2.slot = entry.1
  fine : ∀ entry ∈ tracker.openRows.entries, entry.2.Fine now tracker.lines
  known : ∀ entry ∈ tracker.openRows.entries, ¬spared entry.2 → Known tracker entry.2
  accounted : (tracker.openRows.entries.map (fun entry => entry.2.serial) ++
    (tracker.finished.map Finished.serial ++ tracker.lost)).Perm (List.range tracker.opened)
  sound : ∀ finished ∈ tracker.finished, finished.Sound
  lost : tracker.lost = lost

/-- A call that raises loses one row at most. -/
def Left (now : F) (lost : List ℕ) (tracker : Tracker F Task) : Prop :=
  Consistent now (fun _ => False) lost tracker ∨
    ∃ serial, Consistent now (fun _ => False) (lost ++ [serial]) tracker

theorem Consistent.mono {now later : F} {spared : OpenRow F Task → Prop} {lost : List ℕ}
    {tracker : Tracker F Task} (consistent : Consistent now spared lost tracker)
    {more : OpenRow F Task → Prop} (le : now ≤ later) (sub : ∀ row, spared row → more row) :
    Consistent later more lost tracker where
  slots := consistent.slots
  fine entry member :=
    let fine := consistent.fine entry member
    ⟨fine.started.trans le, fine.blank, fine.read, fine.timed⟩
  known entry member unspared :=
    consistent.known entry member fun isSpared => unspared (sub _ isSpared)
  accounted := consistent.accounted
  sound := consistent.sound
  lost := consistent.lost

/-- The part of the state that decides what holds of the rows. -/
def rowsOf (tracker : Tracker F Task) : OrderedDict ℤ (OpenRow F Task) × List Task ×
    List (Finished F Task) × ℕ × List ℕ × List (Event F Task) :=
  (tracker.openRows, tracker.cancelled, tracker.finished, tracker.opened, tracker.lost,
    tracker.lines)

theorem Consistent.of_rowsOf {now : F} {spared : OpenRow F Task → Prop} {lost : List ℕ}
    {tracker other : Tracker F Task} (consistent : Consistent now spared lost tracker)
    (same : rowsOf other = rowsOf tracker) : Consistent now spared lost other := by
  obtain ⟨rows, cancelled, finished, opened, gone, lines⟩ :=
    (Prod.mk.inj same).imp_right fun same => (Prod.mk.inj same).imp_right fun same =>
      (Prod.mk.inj same).imp_right fun same => (Prod.mk.inj same).imp_right Prod.mk.inj
  refine ⟨?_, ?_, ?_, ?_, ?_, gone.trans consistent.lost⟩
  · exact rows ▸ consistent.slots
  · exact rows ▸ lines ▸ consistent.fine
  · unfold Known
    rw [rows, cancelled, lines]
    exact consistent.known
  · rw [rows, finished, gone, opened]
    exact consistent.accounted
  · exact finished ▸ consistent.sound

/-- What is left of the open rows when a slot is emptied. -/
theorem Consistent.of_mem_without {now : F} {slot : ℤ} {lost : List ℕ} {tracker : Tracker F Task}
    (consistent : Consistent now (fun row => row.slot = slot) lost tracker)
    {entry : ℤ × OpenRow F Task}
    (member : entry ∈ OrderedDict.without tracker.openRows.entries slot) :
    entry.2.slot = entry.1 ∧ entry.2.Fine now tracker.lines ∧ Known tracker entry.2 := by
  obtain ⟨inEntries, other⟩ := List.mem_filter.mp member
  have isSlot := consistent.slots entry inEntries
  refine ⟨isSlot, consistent.fine entry inEntries, consistent.known entry inEntries ?_⟩
  rw [isSlot]
  exact of_decide_eq_true other

/-- The row of a slot may be spared when there is none. -/
theorem Consistent.of_none {now : F} {slot : ℤ} {lost : List ℕ} {tracker : Tracker F Task}
    (consistent : Consistent now (fun row => row.slot = slot) lost tracker)
    (none : tracker.openRows.find slot = none) :
    Consistent now (fun _ => False) lost tracker := by
  refine { consistent with known := fun entry member _ => consistent.known entry member ?_ }
  rintro rfl
  have isSlot := consistent.slots entry member
  rw [isSlot] at none
  exact OrderedDict.find_eq_none_iff.mp none (List.mem_map_of_mem member)

/-- A slot is finished: its row is taken out, and is sound, or is lost. -/
theorem contract_finish {now : F} {slot : ℤ} {lost : List ℕ} {status : Status}
    (closed : status ∈ [Status.done, .cancelled, .approx, .interrupted]) (kept : ℤ → Prop) :
    Contract
      (fun tracker => Consistent now (fun row => row.slot = slot) lost tracker ∧
        (∀ key ∈ tracker.openRows.keys, key = slot ∨ kept key) ∧
        ∀ row, tracker.openRows.find slot = some row → status = .done →
          row.eval.isSome = true ∧
            Answered (tracker.lines.drop row.openedAt) row.slot row.task)
      (Tracker.finish runtime slot status now)
      (fun _ tracker => Consistent now (fun _ => False) lost tracker ∧
        ∀ key ∈ tracker.openRows.keys, key ≠ slot ∧ kept key)
      (Left now lost) := by
  unfold Tracker.finish
  refine contract_get fun tracker ⟨consistent, keys, done⟩ => ?_
  have keysLeft : ∀ key ∈ (tracker.openRows.erase slot).keys, key ≠ slot ∧ kept key := by
    intro key member
    obtain ⟨entry, inRest, rfl⟩ := List.mem_map.mp member
    obtain ⟨inEntries, other⟩ := List.mem_filter.mp inRest
    have differs : entry.1 ≠ slot := of_decide_eq_true other
    exact ⟨differs, (keys entry.1 (List.mem_map_of_mem inEntries)).resolve_left differs⟩
  have rest : ∀ entry ∈ OrderedDict.without tracker.openRows.entries slot,
      entry.2.slot = entry.1 ∧ entry.2.Fine now tracker.lines ∧ Known tracker entry.2 :=
    fun _ member => consistent.of_mem_without member
  refine contract_change ?_
  cases found : tracker.openRows.find slot with
  | none =>
    refine contract_pure ?_
    rintro _ rfl
    have same : (tracker.openRows.erase slot).entries = tracker.openRows.entries :=
      OrderedDict.without_eq_self (OrderedDict.find_eq_none_iff.mp found)
    have whole := consistent.of_none found
    refine ⟨⟨?_, ?_, ?_, ?_, whole.sound, whole.lost⟩, keysLeft⟩
    · exact same.symm ▸ whole.slots
    · exact same.symm ▸ whole.fine
    · exact same.symm ▸ whole.known
    · exact same.symm ▸ whole.accounted
  | some row =>
    have parted := OrderedDict.perm_without found
    have inEntries := OrderedDict.find_eq_some_iff.mp found
    have accounted := (((parted.map fun entry => entry.2.serial).append_right _).symm.trans
      consistent.accounted)
    have serials : ∀ ended : List ℕ,
        ended.Perm (row.serial :: (tracker.finished.map Finished.serial ++ tracker.lost)) →
        ((OrderedDict.without tracker.openRows.entries slot).map (fun entry => entry.2.serial) ++
          ended).Perm (List.range tracker.opened) := by
      intro ended isEnded
      refine ((isEnded.append_left _).trans List.perm_middle).trans ?_
      exact accounted
    dsimp only
    cases settled : Tracker.settle runtime status now row with
    | error raised =>
      refine contract_change (contract_throw ?_)
      rintro _ rfl
      refine .inr ⟨row.serial, fun entry member => (rest entry member).1,
        fun entry member => (rest entry member).2.1,
        fun entry member _ => (rest entry member).2.2, ?_, consistent.sound, ?_⟩
      · refine serials (_ ++ (_ ++ [row.serial])) ?_
        rw [← List.append_assoc]
        exact List.perm_append_singleton _ _
      · exact congrArg (· ++ [row.serial]) consistent.lost
    | ok settled =>
      refine contract_modify fun state isTracker => ?_
      subst isTracker
      refine ⟨⟨fun entry member => (rest entry member).1,
        fun entry member => (rest entry member).2.1,
        fun entry member _ => (rest entry member).2.2, ?_, ?_, consistent.lost⟩, keysLeft⟩
      · refine serials _ ?_
        show ((tracker.finished ++ [_]).map Finished.serial ++ tracker.lost).Perm _
        rw [List.map_append, List.append_assoc]
        exact List.perm_middle
      · intro ended member
        obtain before | last := List.mem_append.mp member
        · exact consistent.sound ended before
        · rw [List.mem_singleton.mp last]
          exact sound_of_settle (consistent.fine _ inEntries) closed (done row found) settled

/-! ### Steps -/

/-- What is written into an open row keeps what identifies it. -/
structure OpenRow.Continues (row next : OpenRow F Task) : Prop where
  slot : next.slot = row.slot
  task : next.task = row.task
  started : next.started = row.started
  serial : next.serial = row.serial
  openedAt : next.openedAt = row.openedAt
  blank : next.newPromptTokens = row.newPromptTokens ∧ next.cachedTokens = row.cachedTokens

theorem forall_mem_assign {rows : OrderedDict ℤ (OpenRow F Task)} {slot : ℤ}
    {next : OpenRow F Task} {holds : ℤ × OpenRow F Task → Prop} (here : holds (slot, next))
    (others : ∀ entry ∈ rows.entries, holds entry) :
    ∀ entry ∈ (rows.assign slot next).entries, holds entry := by
  intro entry member
  obtain isNext | inRest := List.mem_cons.mp ((OrderedDict.perm_assign rows slot next).subset member)
  · exact isNext ▸ here
  · exact others entry (List.mem_filter.mp inRest).1

theorem Consistent.put {now : F} {spared : OpenRow F Task → Prop} {lost : List ℕ}
    {tracker : Tracker F Task} (consistent : Consistent now spared lost tracker) {slot : ℤ}
    {row next : OpenRow F Task} (found : tracker.openRows.find slot = some row)
    (continues : row.Continues next) (still : ¬spared next → ¬spared row)
    (timed : next.eval.isSome = true → Timed (tracker.lines.drop row.openedAt) row.slot row.task) :
    Consistent now spared lost
      { tracker with openRows := tracker.openRows.assign slot next } := by
  have member := OrderedDict.find_eq_some_iff.mp found
  have fine := consistent.fine _ member
  refine ⟨forall_mem_assign ?_ consistent.slots, forall_mem_assign ?_ consistent.fine,
    forall_mem_assign ?_ consistent.known, ?_, consistent.sound, consistent.lost⟩
  · exact continues.slot.trans (consistent.slots _ member)
  · refine ⟨continues.started.trans_le fine.started, ?_, continues.openedAt.trans_le fine.read, ?_⟩
    · exact ⟨continues.blank.1.trans fine.blank.1, continues.blank.2.trans fine.blank.2⟩
    · dsimp only
      rw [continues.openedAt, continues.slot, continues.task]
      exact timed
  · intro unspared
    have known := consistent.known _ member (still unspared)
    unfold Known at known ⊢
    dsimp only at known ⊢
    rw [continues.openedAt, continues.slot, continues.task]
    exact known
  · have parted := (OrderedDict.perm_without found).map fun entry => entry.2.serial
    have written := (OrderedDict.perm_assign tracker.openRows slot next).map
      fun entry => entry.2.serial
    refine ((written.append_right _).trans ?_).trans consistent.accounted
    rw [List.map_cons, continues.serial]
    exact (parted.append_right _).symm

theorem Consistent.newRow {now : F} {lost : List ℕ} {tracker : Tracker F Task}
    (consistent : Consistent now (fun _ => False) lost tracker) {slot : ℤ}
    (none : tracker.openRows.find slot = none) (serverRun : F) (task : Task) :
    Consistent now (fun _ => False) lost
      { tracker with
        openRows := tracker.openRows.assign slot
          (Tracker.blankRow runtime serverRun slot task now tracker.opened tracker.lines.length)
        opened := tracker.opened + 1 } := by
  have absent := OrderedDict.find_eq_none_iff.mp none
  refine ⟨forall_mem_assign rfl consistent.slots, forall_mem_assign ?_ consistent.fine,
    forall_mem_assign ?_ consistent.known, ?_, consistent.sound, consistent.lost⟩
  · exact ⟨le_rfl, ⟨rfl, rfl⟩, le_rfl, fun some => absurd some Bool.false_ne_true⟩
  · refine fun _ => .inr ?_
    dsimp only [Tracker.blankRow]
    rw [List.drop_length]
    intro before after split
    exact absurd split.symm (by simp)
  · have written := (OrderedDict.perm_assign tracker.openRows slot (Tracker.blankRow runtime
      serverRun slot task now tracker.opened tracker.lines.length)).map fun entry => entry.2.serial
    rw [OrderedDict.without_eq_self absent] at written
    dsimp only
    rw [List.range_succ]
    refine (written.append_right _).trans ?_
    exact (consistent.accounted.cons tracker.opened).trans
      (List.perm_append_singleton _ _).symm

/-- The line is the last one that each open row has heard. -/
structure Heard (now : F) (lost : List ℕ) (event : Event F Task) (tracker : Tracker F Task) :
    Prop where
  consistent : Consistent now (fun row => event = .cancel row.task) lost tracker
  last : ∀ entry ∈ tracker.openRows.entries,
    ∃ before, tracker.lines.drop entry.2.openedAt = before ++ [event]

theorem Consistent.enter {now : F} {lost : List ℕ} {tracker : Tracker F Task}
    (consistent : Consistent now (fun _ => False) lost tracker) (line : Line F Task) :
    Heard now lost line.event (Tracker.enter line now tracker) := by
  have heard : Heard now lost line.event
      { tracker with lines := tracker.lines ++ [line.event] } := by
    have grown : ∀ entry ∈ tracker.openRows.entries,
        (tracker.lines ++ [line.event]).drop entry.2.openedAt =
          tracker.lines.drop entry.2.openedAt ++ [line.event] := fun entry member =>
      List.drop_append_of_le_length (consistent.fine entry member).read
    refine ⟨⟨consistent.slots, fun entry member => ?_, fun entry member unspared => ?_,
      consistent.accounted, consistent.sound, consistent.lost⟩, fun entry member => ?_⟩
    · have fine := consistent.fine entry member
      refine ⟨fine.started, fine.blank, ?_, fun some => ?_⟩
      · rw [List.length_append]
        exact fine.read.trans (Nat.le_add_right _ _)
      · obtain ⟨timing, inLines⟩ := fine.timed some
        refine ⟨timing, ?_⟩
        rw [grown entry member]
        exact List.mem_append_left _ inLines
    · refine (consistent.known entry member not_false).imp_right fun answered => ?_
      show Answered ((tracker.lines ++ [line.event]).drop entry.2.openedAt) _ _
      rw [grown entry member]
      exact answered.concat unspared
    · exact ⟨_, grown entry member⟩
  have same : rowsOf (Tracker.enter line now tracker) =
      rowsOf { tracker with lines := tracker.lines ++ [line.event] } := by
    unfold Tracker.enter
    cases line.event <;> rfl
  refine ⟨heard.consistent.of_rowsOf same, ?_⟩
  have rows : (Tracker.enter line now tracker).openRows = tracker.openRows :=
    (Prod.mk.inj same).1
  have lines : (Tracker.enter line now tracker).lines = tracker.lines ++ [line.event] :=
    congrArg (·.2.2.2.2.2) same
  rw [rows, lines]
  exact heard.last

/-! ### Methods -/

/-- A row is finished as something other than done. -/
theorem contract_finish_of_ne (runtime : Runtime F Task) (now : F) (lost : List ℕ)
    {status : Status}
    (closed : status ∈ [Status.done, .cancelled, .approx, .interrupted]) (notDone : status ≠ .done)
    (slot : ℤ) (kept : ℤ → Prop) :
    Contract
      (fun tracker => Consistent now (fun _ => False) lost tracker ∧
        ∀ key ∈ tracker.openRows.keys, key = slot ∨ kept key)
      (Tracker.finish runtime slot status now)
      (fun _ tracker => Consistent now (fun _ => False) lost tracker ∧
        ∀ key ∈ tracker.openRows.keys, key ≠ slot ∧ kept key)
      (Left now lost) := by
  refine (contract_finish closed kept).weaken fun tracker ⟨consistent, keys⟩ => ?_
  exact ⟨consistent.mono le_rfl fun _ => False.elim, keys,
    fun row _ isDone => absurd isDone notDone⟩

/-- A row is finished as approximate, and its slot is empty then. -/
theorem contract_finish_approx (runtime : Runtime F Task) (now : F) (lost : List ℕ) (slot : ℤ) :
    Contract (Consistent now (fun _ => False) lost)
      (Tracker.finish runtime slot .approx now)
      (fun _ tracker => Consistent now (fun _ => False) lost tracker ∧
        tracker.openRows.find slot = none)
      (Left now lost) := by
  have finished := contract_finish_of_ne runtime now lost
    (show Status.approx ∈ _ by decide) (by decide) slot fun _ => True
  refine (finished.weaken fun tracker consistent => ⟨consistent, fun _ _ => .inr trivial⟩).imp ?_
  exact fun _ tracker ⟨consistent, keys⟩ =>
    ⟨consistent, OrderedDict.find_eq_none_iff.mpr fun member => (keys slot member).1 rfl⟩

theorem contract_forM_finish (now : F) (lost : List ℕ) (slots : List ℤ) :
    Contract
      (fun tracker => Consistent now (fun _ => False) lost tracker ∧
        ∀ key ∈ tracker.openRows.keys, key ∈ slots)
      (slots.forM fun slot => Tracker.finish runtime slot .interrupted now)
      (fun _ tracker => Consistent now (fun _ => False) lost tracker ∧
        ∀ key ∈ tracker.openRows.keys, key ∈ ([] : List ℤ))
      (Left now lost) := by
  induction slots with
  | nil => exact contract_pure fun _ => id
  | cons slot rest inductionHypothesis =>
    have finished := contract_finish_of_ne runtime now lost
      (show Status.interrupted ∈ _ by decide) (by decide) slot (· ∈ rest)
    refine contract_bind ((finished.weaken fun tracker ⟨consistent, keys⟩ => ?_).imp
      fun _ tracker ⟨consistent, keys⟩ => ?_) fun _ => inductionHypothesis
    · exact ⟨consistent, fun key member => List.mem_cons.mp (keys key member)⟩
    · exact ⟨consistent, fun key member => (keys key member).2⟩

/-- Without open rows, the cancelled tasks may be forgotten. -/
theorem Consistent.clear {now : F} {lost : List ℕ} {tracker : Tracker F Task}
    (consistent : Consistent now (fun _ => False) lost tracker)
    (closed : ∀ key ∈ tracker.openRows.keys, key ∈ ([] : List ℤ)) :
    Consistent now (fun _ => False) lost { tracker with cancelled := [] } :=
  { consistent with
    known := fun entry member _ =>
      absurd (closed entry.1 (List.mem_map_of_mem member)) List.not_mem_nil }

theorem contract_interruptAll (now : F) (lost : List ℕ) :
    Contract (Consistent now (fun _ => False) lost) (Tracker.interruptAll runtime now)
      (fun _ tracker => Consistent now (fun _ => False) lost tracker ∧
        ∀ key ∈ tracker.openRows.keys, key ∈ ([] : List ℤ))
      (Left now lost) := by
  unfold Tracker.interruptAll
  refine contract_get fun tracker consistent => ?_
  refine (contract_forM_finish now lost tracker.openRows.keys).weaken ?_
  rintro _ rfl
  exact ⟨consistent, fun _ => id⟩

theorem contract_restart (now : F) (lost : List ℕ) :
    Contract (Consistent now (fun _ => False) lost) (Tracker.restart runtime now)
      (fun _ => Consistent now (fun _ => False) lost) (Left now lost) := by
  unfold Tracker.restart
  refine contract_bind (contract_interruptAll now lost) fun _ => contract_modify ?_
  exact fun tracker ⟨consistent, closed⟩ => (consistent.clear closed).of_rowsOf rfl

theorem contract_whenever {pre exit : Tracker F Task → Prop} {condition : Bool}
    {program : Method F Task Unit} (body : Contract pre program (fun _ => pre) exit) :
    Contract pre (whenever condition program) (fun _ => pre) exit := by
  unfold whenever
  split
  · exact body
  · exact contract_pure fun _ => id

theorem contract_newRow {now : F} {lost : List ℕ} (slot : ℤ) (task : Task) :
    Contract
      (fun tracker => Consistent now (fun _ => False) lost tracker ∧
        tracker.openRows.find slot = none)
      (Tracker.newRow runtime slot task now)
      (fun _ => Consistent now (fun _ => False) lost) (Left now lost) :=
  contract_modify fun _ ⟨consistent, absent⟩ => (consistent.newRow absent _ task).of_rowsOf rfl

theorem contract_onStart (now : F) (lost : List ℕ) (slot : ℤ) (task : Task) :
    Contract (Consistent now (fun _ => False) lost) (Tracker.onStart runtime slot task now)
      (fun _ => Consistent now (fun _ => False) lost) (Left now lost) := by
  unfold Tracker.onStart
  refine contract_get fun tracker consistent => ?_
  cases found : tracker.openRows.find slot with
  | none =>
    refine (contract_newRow slot task).weaken ?_
    rintro _ rfl
    exact ⟨consistent, found⟩
  | some current =>
    dsimp only
    split
    · refine contract_pure ?_
      rintro _ rfl
      exact consistent
    · refine contract_bind ?_ fun _ => contract_newRow slot task
      refine (contract_finish_approx runtime now lost slot).weaken ?_
      rintro _ rfl
      exact consistent

/-- What is written into an open row, when its timing line is not new. -/
theorem contract_put {now : F} {lost : List ℕ} {slot : ℤ} {row next : OpenRow F Task}
    (continues : row.Continues next) (eval : next.eval = row.eval) :
    Contract
      (fun tracker => Consistent now (fun _ => False) lost tracker ∧
        tracker.openRows.find slot = some row)
      (Tracker.put slot next)
      (fun _ tracker => Consistent now (fun _ => False) lost tracker ∧
        tracker.openRows.find slot = some next)
      (Left now lost) := by
  refine contract_modify fun tracker ⟨consistent, found⟩ => ⟨?_, ?_⟩
  · refine consistent.put found continues (fun _ => not_false) fun some => ?_
    rw [eval] at some
    exact (consistent.fine _ (OrderedDict.find_eq_some_iff.mp found)).timed some
  · exact OrderedDict.find_assign_self tracker.openRows slot next

/-- A line about a slot spares no row. -/
theorem Heard.of_report {now : F} {lost : List ℕ} {slot : ℤ} {task : Task} {report : Report F}
    {tracker : Tracker F Task} (heard : Heard now lost (.report slot task report) tracker) :
    Consistent now (fun _ => False) lost tracker :=
  heard.consistent.mono le_rfl fun _ same => by cases same

theorem releaseStatus_done {tracker : Tracker F Task} {row : OpenRow F Task}
    (isDone : Tracker.releaseStatus tracker row = .done) :
    row.task ∉ tracker.cancelled ∧ row.eval.isSome = true := by
  unfold Tracker.releaseStatus at isDone
  split at isDone
  · cases isDone
  next uncancelled =>
    split at isDone
    next timed => exact ⟨uncancelled, timed⟩
    · cases isDone

theorem releaseStatus_mem (tracker : Tracker F Task) (row : OpenRow F Task) :
    Tracker.releaseStatus tracker row ∈ [Status.done, .cancelled, .approx, .interrupted] := by
  unfold Tracker.releaseStatus
  split
  · decide
  · split <;> decide

/-- A release finishes its own row, and answers the cancel for the other rows of the task. -/
theorem contract_release {now : F} {lost : List ℕ} {slot : ℤ} {row : OpenRow F Task}
    {n : Option ℤ} :
    Contract
      (fun tracker => Heard now lost (.report slot row.task (.release n)) tracker ∧
        tracker.openRows.find slot = some row)
      (Tracker.onReport runtime slot row now (.release n))
      (fun _ => Consistent now (fun _ => False) lost) (Left now lost) := by
  unfold Tracker.onReport
  refine contract_get fun tracker ⟨heard, found⟩ => contract_change (contract_change ?_)
  refine ((contract_finish (releaseStatus_mem tracker row) fun _ => True).weaken ?_).imp
    fun _ _ held => held.1
  rintro _ rfl
  have member := OrderedDict.find_eq_some_iff.mp found
  have isSlot : row.slot = slot := heard.consistent.slots _ member
  have written : Consistent now (fun _ => False) lost
      { tracker with openRows := tracker.openRows.assign slot { row with relN := n } } :=
    heard.of_report.put found ⟨rfl, rfl, rfl, rfl, rfl, rfl, rfl⟩ (fun _ => not_false)
      (heard.consistent.fine _ member).timed
  refine ⟨{ written with known := fun entry isEntry other => ?_ }, fun _ _ => .inr trivial, ?_⟩
  · by_cases same : entry.2.task = row.task
    · refine .inr ?_
      have inTracker : entry ∈ tracker.openRows.entries := by
        refine (Dictionary.mem_of_mem_assign isEntry).resolve_right ?_
        rintro rfl
        exact other isSlot
      obtain ⟨before, split⟩ := heard.last entry inTracker
      dsimp only
      rw [split, same]
      exact answered_concat_release before (fun isOther => other isOther.symm) n
    · refine (written.known entry isEntry not_false).imp_left fun isKnown => ?_
      exact List.mem_filter.mpr ⟨isKnown, decide_eq_true same⟩
  · intro other isOther isDone
    have isNext := OrderedDict.find_assign_self tracker.openRows slot { row with relN := n }
    cases isNext.symm.trans isOther
    obtain ⟨uncancelled, timed⟩ := releaseStatus_done isDone
    exact ⟨timed, (heard.of_report.known _ member not_false).resolve_left uncancelled⟩

/-- What a line that is not a timing line writes into its row. -/
theorem contract_put_of_heard {now : F} {lost : List ℕ} {slot : ℤ} {row next : OpenRow F Task}
    {report : Report F} (continues : row.Continues next) (eval : next.eval = row.eval) :
    Contract
      (fun tracker => Heard now lost (.report slot row.task report) tracker ∧
        tracker.openRows.find slot = some row)
      (Tracker.put slot next)
      (fun _ => Consistent now (fun _ => False) lost) (Left now lost) :=
  ((contract_put continues eval).weaken fun _ held => ⟨held.1.of_report, held.2⟩).imp
    fun _ _ held => held.1

theorem contract_prefill {now : F} {lost : List ℕ} {slot : ℤ} {row : OpenRow F Task} (n : ℤ)
    (progress tokS : F) :
    Contract
      (fun tracker => Heard now lost (.report slot row.task (.prefill n progress tokS)) tracker ∧
        tracker.openRows.find slot = some row)
      (Tracker.onReport runtime slot row now (.prefill n progress tokS))
      (fun _ => Consistent now (fun _ => False) lost) (Left now lost) := by
  dsimp only [Tracker.onReport]
  split
  · exact contract_pure fun tracker held => held.1.of_report
  have shown : row.Continues { row with
      progress := some progress
      processed := some n
      liveTokS := some tokS
      ctx := some n } := ⟨rfl, rfl, rfl, rfl, rfl, rfl, rfl⟩
  refine contract_bind ((contract_put shown rfl).weaken fun _ held =>
    ⟨held.1.of_report, held.2⟩) fun _ => ?_
  split
  · cases (runtime.divide n progress).bind runtime.round with
    | error raised => exact contract_throw fun tracker held => .inl held.1
    | ok estimate =>
      have estimated : OpenRow.Continues { row with
          progress := some progress
          processed := some n
          liveTokS := some tokS
          ctx := some n } { row with
          progress := some progress
          processed := some n
          liveTokS := some tokS
          ctx := some n
          promptEst := some estimate } := ⟨rfl, rfl, rfl, rfl, rfl, rfl, rfl⟩
      exact (contract_put estimated rfl).imp fun _ _ held => held.1
  · exact contract_pure fun tracker held => held.1

theorem contract_onReport {now : F} {lost : List ℕ} {slot : ℤ} {row : OpenRow F Task}
    (report : Report F) :
    Contract
      (fun tracker => Heard now lost (.report slot row.task report) tracker ∧
        tracker.openRows.find slot = some row)
      (Tracker.onReport runtime slot row now report)
      (fun _ => Consistent now (fun _ => False) lost) (Left now lost) := by
  cases report with
  | start => exact contract_pure fun tracker held => held.1.of_report
  | prefill n progress tokS => exact contract_prefill n progress tokS
  | gen | promptEval | total =>
    exact contract_put_of_heard ⟨rfl, rfl, rfl, rfl, rfl, rfl, rfl⟩ rfl
  | eval timing =>
    refine contract_modify fun tracker ⟨heard, found⟩ => ?_
    have member := OrderedDict.find_eq_some_iff.mp found
    refine heard.of_report.put found ⟨rfl, rfl, rfl, rfl, rfl, rfl, rfl⟩ (fun _ => not_false)
      fun _ => ⟨timing, ?_⟩
    obtain ⟨before, split⟩ := heard.last _ member
    have isSlot : row.slot = slot := heard.consistent.slots _ member
    rw [split, isSlot]
    exact List.mem_append_right _ (List.mem_singleton_self _)
  | draft accepted generated =>
    dsimp only [Tracker.onReport]
    split
    · exact contract_put_of_heard ⟨rfl, rfl, rfl, rfl, rfl, rfl, rfl⟩ rfl
    · cases runtime.ratio accepted generated with
      | error raised => exact contract_throw fun tracker held => .inl held.1.of_report
      | ok accept => exact contract_put_of_heard ⟨rfl, rfl, rfl, rfl, rfl, rfl, rfl⟩ rfl
  | release n => exact contract_release

theorem contract_onEvent (now : F) (lost : List ℕ) (event : Event F Task) :
    Contract (Heard now lost event) (Tracker.onEvent runtime now event)
      (fun _ => Consistent now (fun _ => False) lost) (Left now lost) := by
  cases event with
  | serverStart =>
    exact contract_pure fun tracker heard => heard.consistent.mono le_rfl fun _ same => by cases same
  | serverReady =>
    exact contract_pure fun tracker heard => heard.consistent.mono le_rfl fun _ same => by cases same
  | cancel task =>
    refine contract_modify fun tracker heard =>
      { heard.consistent with known := fun entry member _ => ?_ }
    -- The rows of the task were spared; their cancel is known from here on.
    by_cases same : Event.cancel task = (.cancel entry.2.task : Event F Task)
    · cases same
      exact .inl List.mem_insert_self
    · exact (heard.consistent.known entry member same).imp_left List.mem_insert_of_mem
  | report slot task report =>
    cases report with
    | start =>
      exact (contract_onStart now lost slot task).weaken fun tracker heard => heard.of_report
    | prefill | gen | promptEval | eval | total | draft | release =>
      unfold Tracker.onEvent
      refine contract_get fun tracker heard => ?_
      cases found : tracker.openRows.find slot with
      | none =>
        refine contract_pure ?_
        rintro _ rfl
        exact heard.of_report
      | some row =>
        dsimp only
        split
        next same =>
          subst same
          refine (contract_onReport _).weaken ?_
          rintro _ rfl
          exact ⟨heard, found⟩
        · refine contract_pure ?_
          rintro _ rfl
          exact heard.of_report

theorem contract_onJournal (line : Line F Task) (now : F) (lost : List ℕ) :
    Contract (Consistent now (fun _ => False) lost) (Tracker.onJournal runtime line now)
      (fun _ => Consistent now (fun _ => False) lost) (Left now lost) := by
  unfold Tracker.onJournal
  refine contract_get fun tracker consistent => ?_
  have restarted : Contract (Consistent now (fun _ => False) lost)
      (whenever (Tracker.Event.starts line.event ||
        Tracker.goesBackwards runtime tracker line.sinceStartS) (Tracker.restart runtime now))
      (fun _ => Consistent now (fun _ => False) lost) (Left now lost) :=
    contract_whenever (contract_restart now lost)
  refine contract_bind (restarted.weaken ?_) fun _ => contract_bind (contract_modify ?_) fun _ =>
    contract_onEvent now lost line.event
  · rintro _ rfl
    exact consistent
  · exact fun _ held => held.enter line

theorem contract_watch {now : F} {lost : List ℕ} {row : OpenRow F Task} (info : SlotInfo Task) :
    Contract
      (fun tracker => Consistent now (fun _ => False) lost tracker ∧
        tracker.openRows.find info.id = some row)
      (Tracker.watch runtime info row now)
      (fun _ => Consistent now (fun _ => False) lost) (Left now lost) := by
  unfold Tracker.watch
  refine contract_get fun tracker ⟨consistent, found⟩ => contract_change ?_
  have seen : row.Continues (Tracker.seenRow info tracker.journalUp row) :=
    ⟨rfl, rfl, rfl, rfl, rfl, rfl, rfl⟩
  refine contract_bind ((contract_put seen rfl).weaken ?_) fun _ => ?_
  · rintro _ rfl
    exact ⟨consistent.of_rowsOf rfl, found⟩
  split
  · cases Tracker.shownRate runtime row info.nDecoded now with
    | error raised =>
      have unshown : ∀ live, (Tracker.seenRow info tracker.journalUp row).Continues
          { Tracker.seenRow info tracker.journalUp row with liveTokS := live } :=
        fun live => ⟨rfl, rfl, rfl, rfl, rfl, rfl, rfl⟩
      exact contract_bind (contract_put (unshown _) rfl) fun _ =>
        contract_throw fun tracker held => .inl held.1
    | ok live =>
      have shown : (Tracker.seenRow info tracker.journalUp row).Continues
          { Tracker.seenRow info tracker.journalUp row with
            liveTokS := live
            status := .generating
            progress := some runtime.one
            dec := some info.nDecoded
            decT := some now } := ⟨rfl, rfl, rfl, rfl, rfl, rfl, rfl⟩
      exact (contract_put shown rfl).imp fun _ tracker held => held.1
  · exact contract_pure fun tracker held => held.1

theorem contract_adopt {now : F} {lost : List ℕ} (info : SlotInfo Task) :
    Contract
      (fun tracker => Consistent now (fun _ => False) lost tracker ∧
        tracker.openRows.find info.id = none)
      (Tracker.adopt runtime info now)
      (fun _ => Consistent now (fun _ => False) lost) (Left now lost) := by
  unfold Tracker.adopt
  refine contract_get fun tracker held => ?_
  split
  · refine contract_pure ?_
    rintro _ rfl
    exact held.1
  · refine contract_bind ((contract_newRow info.id info.idTask).weaken ?_) fun _ => ?_
    · rintro _ rfl
      exact held
    refine contract_get fun opened consistent => ?_
    cases found : opened.openRows.find info.id with
    | none =>
      refine contract_pure ?_
      rintro _ rfl
      exact consistent
    | some row =>
      refine (contract_watch info).weaken ?_
      rintro _ rfl
      exact ⟨consistent, found⟩

theorem contract_onSlot (now : F) (lost : List ℕ) (info : SlotInfo Task) :
    Contract (Consistent now (fun _ => False) lost) (Tracker.onSlot runtime now info)
      (fun _ => Consistent now (fun _ => False) lost) (Left now lost) := by
  unfold Tracker.onSlot
  have served : Contract (Consistent now (fun _ => False) lost)
      (whenever info.isProcessing
        (modify fun tracker : Tracker F Task => { tracker with restarting := false }))
      (fun _ => Consistent now (fun _ => False) lost) (Left now lost) :=
    contract_whenever (contract_modify fun _ consistent => consistent.of_rowsOf rfl)
  refine contract_bind served fun _ => contract_get fun tracker consistent => ?_
  have done : Contract (· = tracker) (pure () : Method F Task Unit)
      (fun _ => Consistent now (fun _ => False) lost) (Left now lost) := by
    refine contract_pure ?_
    rintro _ rfl
    exact consistent
  cases found : tracker.openRows.find info.id with
  | none =>
    dsimp only
    split
    · refine (contract_adopt info).weaken ?_
      rintro _ rfl
      exact ⟨consistent, found⟩
    · exact done
  | some row =>
    dsimp only
    split
    · split
      · refine (contract_watch info).weaken ?_
        rintro _ rfl
        exact ⟨consistent, found⟩
      · split
        · exact done
        · refine contract_bind ((contract_finish_approx runtime now lost info.id).weaken ?_)
            fun _ => contract_adopt info
          rintro _ rfl
          exact consistent
    · refine contract_change ?_
      split
      · refine ((contract_finish_approx runtime now lost info.id).weaken ?_).imp
          fun _ _ held => held.1
        rintro _ rfl
        exact consistent.of_rowsOf rfl
      · refine contract_pure ?_
        rintro _ rfl
        exact consistent.of_rowsOf rfl

theorem contract_onUnreachable (now : F) (lost : List ℕ) :
    Contract (Consistent now (fun _ => False) lost) (Tracker.onUnreachable runtime now)
      (fun _ => Consistent now (fun _ => False) lost) (Left now lost) := by
  unfold Tracker.onUnreachable
  refine contract_get fun tracker consistent => contract_change ?_
  split
  · refine contract_bind ((contract_interruptAll now lost).weaken ?_) fun _ => ?_
    · rintro _ rfl
      exact consistent.of_rowsOf rfl
    · unfold whenever
      split
      · exact contract_modify fun tracker held => (held.1.clear held.2).of_rowsOf rfl
      · exact contract_pure fun tracker held => held.1
  · refine contract_pure ?_
    rintro _ rfl
    exact consistent.of_rowsOf rfl

/-- Every call keeps the rows consistent; one that raises loses one row at most. -/
theorem contract_call (runtime : Runtime F Task) (now : F) (lost : List ℕ)
    (input : Tracker.Call F Task) :
    Contract (Consistent now (fun _ => False) lost) (Tracker.call runtime now input)
      (fun _ => Consistent now (fun _ => False) lost) (Left now lost) := by
  cases input with
  | onJournal line => exact contract_onJournal line now lost
  | onSlots slots =>
    cases slots with
    | none => exact contract_onUnreachable now lost
    | some slots =>
      refine contract_bind (contract_modify fun _ consistent => ?_) fun _ =>
        contract_forM fun info _ => contract_onSlot now lost info
      exact consistent.of_rowsOf rfl
  | setJournalUp up => exact contract_modify fun _ consistent => consistent.of_rowsOf rfl

/-! ### Runs -/

theorem Consistent.run {now : F} {lost : List ℕ} {tracker : Tracker F Task}
    (consistent : Consistent now (fun _ => False) lost tracker) (runtime : Runtime F Task)
    {calls : List (Tracker.Call F Task × F)}
    (ordered : (now :: calls.map Prod.snd).Pairwise (· ≤ ·)) :
    ∃ later gone, Consistent later (fun _ => False) gone (Tracker.run runtime calls tracker) ∧
      gone.length ≤ lost.length + Tracker.raises runtime calls tracker := by
  induction calls generalizing now lost tracker with
  | nil => exact ⟨now, lost, consistent, Nat.le_add_right _ _⟩
  | cons call rest inductionHypothesis =>
    obtain ⟨input, time⟩ := call
    rw [List.map_cons, List.pairwise_cons] at ordered
    have begun := consistent.mono (ordered.1 time List.mem_cons_self) fun _ => id
    have stepped := contract_call runtime time lost input
    rw [Tracker.run, Tracker.raises]
    match isCall : Tracker.call runtime time input tracker with
    | (.ok _, after) =>
      obtain ⟨later, gone, held, few⟩ :=
        inductionHypothesis (stepped.returns begun isCall) ordered.2
      exact ⟨later, gone, held, few.trans (by simp [Except.isOk, Except.toBool])⟩
    | (.error _, after) =>
      obtain kept | ⟨serial, lostOne⟩ := stepped.fails begun isCall
      · obtain ⟨later, gone, held, few⟩ := inductionHypothesis kept ordered.2
        exact ⟨later, gone, held, few.trans (by simp [Except.isOk, Except.toBool])⟩
      · obtain ⟨later, gone, held, few⟩ := inductionHypothesis lostOne ordered.2
        refine ⟨later, gone, held, few.trans ?_⟩
        simp [Except.isOk, Except.toBool, Nat.add_assoc]

theorem consistent_new (now : F) (slotCount : ℤ) (approxGraceS unreachableS : F) :
    Consistent now (fun _ => False) []
      (Tracker.new slotCount approxGraceS unreachableS : Tracker F Task) where
  slots := fun _ member => absurd member List.not_mem_nil
  fine := fun _ member => absurd member List.not_mem_nil
  known := fun _ member => absurd member List.not_mem_nil
  accounted := List.Perm.refl []
  sound := fun _ member => absurd member List.not_mem_nil
  lost := rfl

/-- In every run, with the rows that were lost because their rates could not be computed: no two
open rows share a slot, and each opened row is open, or finished once, or lost. A call that raises
loses one row at most, and the finished rows are sound. -/
theorem run_rows (slotCount : ℤ) (approxGraceS unreachableS : F)
    (calls : List (Tracker.Call F Task × F)) (ordered : (calls.map Prod.snd).Pairwise (· ≤ ·)) :
    let start : Tracker F Task := Tracker.new slotCount approxGraceS unreachableS
    let tracker := Tracker.run runtime calls start
    (tracker.openRows.entries.map fun entry => entry.2.slot).Nodup ∧
      (tracker.openRows.entries.map (fun entry => entry.2.serial) ++
        (tracker.finished.map Finished.serial ++ tracker.lost)).Perm
          (List.range tracker.opened) ∧
      tracker.lost.length ≤ Tracker.raises runtime calls start ∧
      ∀ finished ∈ tracker.finished, finished.Sound := by
  intro start tracker
  have begun : ∃ now, (now :: calls.map Prod.snd).Pairwise (· ≤ ·) := by
    cases calls with
    | nil => exact ⟨approxGraceS, List.pairwise_singleton _ _⟩
    | cons call rest =>
      refine ⟨call.2, List.pairwise_cons.mpr ⟨fun time member => ?_, ordered⟩⟩
      obtain rfl | later := List.mem_cons.mp member
      · exact le_rfl
      · exact (List.pairwise_cons.mp ordered).1 time later
  obtain ⟨now, inOrder⟩ := begun
  obtain ⟨later, gone, consistent, few⟩ :=
    (consistent_new now slotCount approxGraceS unreachableS).run runtime inOrder
  refine ⟨?_, consistent.accounted, ?_, consistent.sound⟩
  · have slots : tracker.openRows.entries.map (fun entry => entry.2.slot) =
        tracker.openRows.keys := List.map_congr_left consistent.slots
    rw [slots]
    exact tracker.openRows.distinct
  · rw [consistent.lost]
    exact few.trans (Nat.zero_add _).le

end Rows

/-! ### Tasks in two slots, and counts that are no floats -/

/-- The least integer that no float is near. -/
def floatBound : ℚ := 2 ^ 1024 - 2 ^ 970

def checked (value : ℚ) : Except Raised ℚ :=
  if floatBound ≤ max value (-value) then .error .overflowError else .ok value

/-- The arithmetic of floats without their rounding. -/
def exact : Runtime ℚ ℤ where
  zero := 0
  one := 1
  sub := (· - ·)
  milli value := value / 1000
  divide count value := do
    let converted ← checked count
    if value = 0 then .error .zeroDivisionError else checked (converted / value)
  ratio first second := checked (first / second)
  round value :=
    let low := value.floor
    .ok (if value - low < 1 / 2 then low else if value - low = 1 / 2 then low + low % 2 else low + 1)
  fixed value :=
    decimal value.floor ++ text "." ++
      (decimal (1000 + ((value - value.floor) * 1000).floor)).drop 1
  str := decimal

/-- A call of `on_journal`, at the second that the line is of. -/
def readLine (event : Event ℚ ℤ) (second : ℚ) : Tracker.Call ℚ ℤ × ℚ :=
  (.onJournal ⟨some second, event⟩, second)

/-- A task in two slots, cancelled and released in the first one, then timed and released in the
second one. -/
def sharedTask : List (Tracker.Call ℚ ℤ × ℚ) :=
  [readLine (.report 0 5 .start) 1, readLine (.report 1 5 .start) 2, readLine (.cancel 5) 3,
    readLine (.report 0 5 (.release (some 9))) 4,
    readLine (.report 1 5 (.eval ⟨1000, 3⟩)) 5, readLine (.report 1 5 (.release (some 9))) 6]

/-- A prompt of more tokens than a float can hold. -/
def hugePrompt : List (Tracker.Call ℚ ℤ × ℚ) :=
  [readLine (.report 0 5 .start) 1, readLine (.report 0 5 (.promptEval ⟨1, 2 ^ 1024⟩)) 2,
    readLine (.report 0 5 (.release (some 9))) 3]

theorem sharedTask_rows :
    let start : Tracker ℚ ℤ := Tracker.new 3 10 10
    let tracker := Tracker.run exact sharedTask start
    (tracker.openRows.entries.map fun entry => entry.2.slot).Nodup ∧
      (tracker.openRows.entries.map (fun entry => entry.2.serial) ++
        (tracker.finished.map Finished.serial ++ tracker.lost)).Perm
          (List.range tracker.opened) ∧
      tracker.lost.length ≤ Tracker.raises exact sharedTask start ∧
      ∀ finished ∈ tracker.finished, finished.Sound :=
  run_rows 3 10 10 sharedTask (by decide +kernel)

/-- Not every opened row is open or finished, and not every row that is done was not cancelled. -/
theorem rows_lost_and_cancelled :
    (¬∀ calls : List (Tracker.Call ℚ ℤ × ℚ), (calls.map Prod.snd).Pairwise (· ≤ ·) →
      let tracker := Tracker.run exact calls (Tracker.new 3 10 10)
      (tracker.openRows.entries.map (fun entry => entry.2.serial) ++
        tracker.finished.map Finished.serial).Perm (List.range tracker.opened)) ∧
      ¬∀ calls : List (Tracker.Call ℚ ℤ × ℚ), (calls.map Prod.snd).Pairwise (· ≤ ·) →
        ∀ finished ∈ (Tracker.run exact calls (Tracker.new 3 10 10)).finished,
          finished.row.status = .done → .cancel finished.row.task ∉ finished.lines := by
  constructor
  · intro always
    have lengths := (always hugePrompt (by decide +kernel)).length_eq
    exact absurd lengths (by decide +kernel)
  · intro always
    have done := always sharedTask (by decide +kernel)
    exact absurd done (by decide +kernel)

end LiveDashboard

end LocalGpuCluster
