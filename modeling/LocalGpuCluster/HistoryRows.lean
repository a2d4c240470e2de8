/-
This file proves what one step of `History` does to the rows and the markers on their way. A step of the
writer deals with a row, with a marker or with nothing of what is ahead of it. The rows that were committed,
those of the backlog and those ahead form a line, in which the rows of a key come in the order of their
calls; only a recovery that fails midway moves a row in it.
-/

import LocalGpuCluster.HistoryWriter

namespace LocalGpuCluster

namespace History

/-! ### What is ahead of the writer -/

/-- What the writer has taken and not yet dealt with. -/
def Writer.items : Writer → List Item
  | .taken item | .recovering item => item.toList
  | .handling item => [item]
  | .answered flush => [.noop flush]
  | .waiting | .cleared _ => []

/-- What the writer has still to deal with. -/
def State.ahead (state : State) : List Item := state.writer.items ++ state.queue

/-- The rows among the items. -/
def rows (items : List Item) : List Copy :=
  items.filterMap fun item => match item with
    | .add copy => some copy
    | .noop _ => none

/-- The flushes whose markers are among the items. -/
def markers (items : List Item) : List ℕ :=
  items.filterMap fun item => match item with
    | .add _ => none
    | .noop flush => some flush

@[simp] theorem rows_nil : rows [] = [] := rfl

@[simp] theorem rows_add (copy : Copy) (items : List Item) :
    rows (.add copy :: items) = copy :: rows items := rfl

@[simp] theorem rows_noop (flush : ℕ) (items : List Item) :
    rows (.noop flush :: items) = rows items := rfl

@[simp] theorem rows_append (first second : List Item) :
    rows (first ++ second) = rows first ++ rows second := List.filterMap_append

@[simp] theorem markers_nil : markers [] = [] := rfl

@[simp] theorem markers_add (copy : Copy) (items : List Item) :
    markers (.add copy :: items) = markers items := rfl

@[simp] theorem markers_noop (flush : ℕ) (items : List Item) :
    markers (.noop flush :: items) = flush :: markers items := rfl

@[simp] theorem markers_append (first second : List Item) :
    markers (first ++ second) = markers first ++ markers second := List.filterMap_append

@[simp] theorem items_waiting : Writer.items .waiting = [] := rfl

@[simp] theorem items_taken (item : Option Item) : (Writer.taken item).items = item.toList := rfl

@[simp] theorem items_recovering (item : Option Item) :
    (Writer.recovering item).items = item.toList := rfl

@[simp] theorem items_handling (item : Item) : (Writer.handling item).items = [item] := rfl

@[simp] theorem items_answered (flush : ℕ) : (Writer.answered flush).items = [.noop flush] := rfl

@[simp] theorem items_cleared (flush : ℕ) : (Writer.cleared flush).items = [] := rfl

@[simp] theorem items_next (item : Option Item) : (Writer.next item).items = item.toList := by
  cases item <;> rfl

/-! ### Careful runs -/

section Keys

variable {Key : Type} (keyOf : Json → Key)

/-- The caller loses no row while a marker is ahead, and a recovery fails on no row with another row of its
key in the backlog. -/
def Careful (state : State) : Event → Prop
  | .caller (.add row) => accepted row = false → markers state.ahead = []
  | .caller .drop => markers state.ahead = []
  | .writer (.replay attempts) =>
      outcome attempts = .failed → ∀ copy rest, state.backlog = copy :: rest →
        ∀ other ∈ rest, keyOf other.row ≠ keyOf copy.row
  | _ => True

end Keys

/-! ### One step -/

/-- What `_handle` makes of a row. -/
inductive Handled (state : State) (copy : Copy) (attempts : ℕ → Attempt) : State → Prop
  | committed (ok : state.ok = true) :
      Handled state copy attempts { state with inserted := state.inserted ++ [copy] }
  | dropped (ok : state.ok = true) : Handled state copy attempts { state with lost := true }
  | kept (failed : state.ok = true → outcome attempts = .failed) :
      Handled state copy attempts { state with ok := false, backlog := state.backlog ++ [copy] }
  | overflowed (failed : state.ok = true → outcome attempts = .failed) :
      Handled state copy attempts
        { state with ok := false, lost := true, backlog := state.backlog.tail ++ [copy] }

theorem handled (state : State) (copy : Copy) (attempts : ℕ → Attempt) :
    Handled state copy attempts (state.handleAdd copy attempts) := by
  have kept (failed : state.ok = true → outcome attempts = .failed) :
      Handled state copy attempts ({ state with ok := false }.keep copy) := by
    unfold State.keep
    split
    · exact .overflowed failed
    · exact .kept failed
  unfold State.handleAdd
  split
  · rename_i ok
    cases ended : outcome attempts with
    | committed => exact .committed ok
    | dropped => exact .dropped ok
    | failed => exact kept fun _ => ended
  · rename_i notOk
    have same : { state with ok := false } = state := by
      cases state
      simp_all
    rw [same] at kept
    exact kept fun ok => absurd ok notOk

/-- What the caller can do. -/
inductive CallerStep (state : State) : CallerEvent → State → Prop
  | rejected {row : Json} (idle : state.caller = .idle) (refused : accepted row = false) :
      CallerStep state (.add row) { state.pass row with lost := true }
  | added {row : Json} (idle : state.caller = .idle) :
      CallerStep state (.add row)
        { state.pass row with queue := state.queue ++ [.add (state.copy row)] }
  | full {row : Json} (idle : state.caller = .idle) :
      CallerStep state (.add row) { state with caller := .dropping row }
  | dropped {row : Json} (dropping : state.caller = .dropping row) :
      CallerStep state .drop { state.pass row with caller := .idle, lost := true }
  | flush (idle : state.caller = .idle) :
      CallerStep state .flush { state with
        caller := .flushing state.flushes
        queue := state.queue ++ [.noop state.flushes]
        flushes := state.flushes + 1 }
  | flushFull (idle : state.caller = .idle) : CallerStep state .flushFull (state.returned false)
  | timeOut {flush : ℕ} (flushing : state.caller = .flushing flush) :
      CallerStep state .timeOut (state.returned false)
  | returns {flush : ℕ} (flushing : state.caller = .flushing flush)
      (event : (state.done flush).event = true) :
      CallerStep state .returns (state.returned (state.done flush).ok)

/-- What the writer can do. -/
inductive WriterStep (state : State) : WriterEvent → State → Prop
  | get {item : Item} {rest : List Item} (waiting : state.writer = .waiting)
      (queue : state.queue = item :: rest) :
      WriterStep state .get { state with queue := rest, writer := .taken (some item) }
  | tick (waiting : state.writer = .waiting) (ok : state.ok = false) :
      WriterStep state .tick { state with writer := .taken none }
  | skip {item : Option Item} (taken : state.writer = .taken item) :
      WriterStep state .skip { state with writer := .next item }
  | recover {item : Option Item} (taken : state.writer = .taken item) :
      WriterStep state (.recover true) { state with ok := true, writer := .recovering item }
  | unrecovered {item : Option Item} (taken : state.writer = .taken item) (ok : state.ok = false) :
      WriterStep state (.recover false) { state with writer := .next item }
  | replay {item : Option Item} {copy : Copy} {rest : List Copy} {attempts : ℕ → Attempt}
      (recovering : state.writer = .recovering item) (backlog : state.backlog = copy :: rest)
      (ok : state.ok = true) :
      WriterStep state (.replay attempts) ({ state with backlog := rest }.handleAdd copy attempts)
  | replayed {item : Option Item} (recovering : state.writer = .recovering item)
      (drained : state.ok = true → state.backlog = []) :
      WriterStep state .replayed { state with writer := .next item }
  | write {copy : Copy} {attempts : ℕ → Attempt} (handling : state.writer = .handling (.add copy)) :
      WriterStep state (.write attempts) { state.handleAdd copy attempts with writer := .waiting }
  | answer {flush : ℕ} (handling : state.writer = .handling (.noop flush)) :
      WriterStep state .answer { state with
        done := Function.update state.done flush
          { state.done flush with ok := state.ok && !state.lost }
        writer := .answered flush }
  | clear {flush : ℕ} (answered : state.writer = .answered flush) :
      WriterStep state .clear { state with lost := false, writer := .cleared flush }
  | signal {flush : ℕ} (cleared : state.writer = .cleared flush) :
      WriterStep state .signal { state with
        done := Function.update state.done flush { state.done flush with event := true }
        writer := .waiting }

theorem callerStep_spec {state next : State} {event : CallerEvent}
    (stepped : callerStep state event = some next) : CallerStep state event next := by
  unfold callerStep at stepped
  split at stepped
  · rename_i row idle
    split at stepped
    · split at stepped
      · exact Option.some.inj stepped ▸ .added idle
      · exact Option.some.inj stepped ▸ .full idle
    · rename_i refused
      exact Option.some.inj stepped ▸ .rejected idle (Bool.eq_false_iff.mpr refused)
  · rename_i row dropping
    exact Option.some.inj stepped ▸ .dropped dropping
  · rename_i idle
    split at stepped
    · exact Option.some.inj stepped ▸ .flush idle
    · cases stepped
  · rename_i idle
    split at stepped
    · cases stepped
    · exact Option.some.inj stepped ▸ .flushFull idle
  · rename_i flush flushing
    exact Option.some.inj stepped ▸ .timeOut flushing
  · rename_i flush flushing
    split at stepped
    · rename_i event
      exact Option.some.inj stepped ▸ .returns flushing event
    · cases stepped
  · cases stepped

theorem writerStep_spec {state next : State} {event : WriterEvent}
    (stepped : writerStep state event = some next) : WriterStep state event next := by
  unfold writerStep at stepped
  split at stepped
  · rename_i waiting
    split at stepped
    · cases stepped
    · rename_i item rest queue
      exact Option.some.inj stepped ▸ .get waiting queue
  · rename_i waiting
    split at stepped
    · rename_i condition
      rw [Bool.and_eq_true, Bool.not_eq_true'] at condition
      exact Option.some.inj stepped ▸ .tick waiting condition.1
    · cases stepped
  · rename_i item taken
    exact Option.some.inj stepped ▸ .skip taken
  · rename_i item setUp taken
    split at stepped
    · cases stepped
    · rename_i ok
      cases setUp with
      | false => exact Option.some.inj stepped ▸ .unrecovered taken (Bool.eq_false_iff.mpr ok)
      | true => exact Option.some.inj stepped ▸ .recover taken
  · rename_i item attempts recovering
    split at stepped
    · cases stepped
    · rename_i copy rest backlog
      split at stepped
      · rename_i ok
        exact Option.some.inj stepped ▸ .replay recovering backlog ok
      · cases stepped
  · rename_i item recovering
    split at stepped
    · cases stepped
    · rename_i condition
      refine Option.some.inj stepped ▸ .replayed recovering fun ok => ?_
      rw [ok, Bool.true_and, Bool.not_eq_true', Bool.not_eq_false, List.isEmpty_iff] at condition
      exact condition
  · rename_i copy attempts handling
    exact Option.some.inj stepped ▸ .write handling
  · rename_i flush handling
    exact Option.some.inj stepped ▸ .answer handling
  · rename_i flush answered
    exact Option.some.inj stepped ▸ .clear answered
  · rename_i flush cleared
    exact Option.some.inj stepped ▸ .signal cleared
  · cases stepped

/-! ### Markers -/

/-- The row is not lost silently. -/
def Safe (state : State) (copy : Copy) : Prop :=
  copy ∈ state.inserted ∨ copy ∈ state.backlog ∨ state.lost = true

/-- What a step of the writer deals with, and what it does not touch. -/
structure Behind (state next : State) (used : List Item) : Prop where
  ahead : state.ahead = used ++ next.ahead
  short : used.length ≤ 1
  caller : next.caller = state.caller
  flushes : next.flushes = state.flushes
  passed : next.passed = state.passed
  since : next.since = state.since
  assured : next.assured = state.assured
  inserted : ∀ copy ∈ state.inserted, copy ∈ next.inserted
  /-- A row that is dealt with is not lost silently. -/
  dealt : ∀ copy ∈ rows used, Safe next copy
  /-- What is safe stays so unless a marker is dealt with. -/
  safe : markers used = [] → ∀ copy, Safe state copy → Safe next copy
  cleared : ∀ flush, next.writer = .cleared flush → used = [.noop flush]
  event : ∀ flush, (next.done flush).event = true →
    (state.done flush).event = true ∨ state.writer = .cleared flush

/-- Nothing is dealt with. -/
theorem Behind.of_rest {state next : State} (ahead : state.ahead = next.ahead)
    (same : next = { state with
      queue := next.queue, writer := next.writer, ok := next.ok, done := next.done })
    (cleared : ∀ flush, next.writer ≠ .cleared flush)
    (event : ∀ flush, (next.done flush).event = true →
      (state.done flush).event = true ∨ state.writer = .cleared flush) :
    Behind state next [] where
  ahead := ahead
  short := Nat.zero_le 1
  caller := by rw [same]
  flushes := by rw [same]
  passed := by rw [same]
  since := by rw [same]
  assured := by rw [same]
  inserted := fun copy member => by
    rw [same]
    exact member
  dealt := fun copy member => (by cases member)
  safe := fun _ copy safe => by
    rw [same]
    exact safe
  cleared := fun flush isCleared => absurd isCleared (cleared flush)
  event := event

theorem Handled.same {state next : State} {copy : Copy} {attempts : ℕ → Attempt}
    (handled : Handled state copy attempts next) :
    ∃ ok lost backlog inserted, next =
      { state with ok := ok, lost := lost, backlog := backlog, inserted := inserted } := by
  cases handled <;> exact ⟨_, _, _, _, rfl⟩

theorem Handled.inserted {state next : State} {copy : Copy} {attempts : ℕ → Attempt}
    (handled : Handled state copy attempts next) (other : Copy) (member : other ∈ state.inserted) :
    other ∈ next.inserted := by
  cases handled with
  | committed => exact List.mem_append_left _ member
  | dropped | kept | overflowed => exact member

theorem Handled.safe {state next : State} {copy : Copy} {attempts : ℕ → Attempt}
    (handled : Handled state copy attempts next) (other : Copy)
    (safe : other = copy ∨ Safe state other) : Safe next other := by
  unfold Safe at *
  cases handled with
  | committed ok =>
    simp only [List.mem_append, List.mem_singleton]
    tauto
  | kept failed =>
    simp only [List.mem_append, List.mem_singleton]
    tauto
  | dropped ok => exact .inr (.inr rfl)
  | overflowed failed => exact .inr (.inr rfl)

/-- A row, a marker or nothing is dealt with. -/
theorem WriterStep.behind {state next : State} {event : WriterEvent}
    (stepped : WriterStep state event next) : ∃ used, Behind state next used := by
  cases stepped with
  | get waiting queue =>
    exact ⟨[], .of_rest (by simp [State.ahead, waiting, queue]) rfl
      (fun _ cleared => by cases cleared) fun _ event => .inl event⟩
  | tick waiting ok =>
    exact ⟨[], .of_rest (by simp [State.ahead, waiting]) rfl
      (fun _ cleared => by cases cleared) fun _ event => .inl event⟩
  | @skip item taken =>
    exact ⟨[], .of_rest (by simp [State.ahead, taken]) rfl
      (fun _ cleared => by cases item <;> cases cleared) fun _ event => .inl event⟩
  | recover taken =>
    exact ⟨[], .of_rest (by simp [State.ahead, taken]) rfl
      (fun _ cleared => by cases cleared) fun _ event => .inl event⟩
  | @unrecovered item taken ok =>
    exact ⟨[], .of_rest (by simp [State.ahead, taken]) rfl
      (fun _ cleared => by cases item <;> cases cleared) fun _ event => .inl event⟩
  | @replayed item recovering drained =>
    exact ⟨[], .of_rest (by simp [State.ahead, recovering]) rfl
      (fun _ cleared => by cases item <;> cases cleared) fun _ event => .inl event⟩
  | @answer flush handling =>
    refine ⟨[], .of_rest (by simp [State.ahead, handling]) rfl
      (fun _ cleared => by cases cleared) fun other event => .inl ?_⟩
    by_cases same : other = flush
    · subst same
      simpa using event
    · simpa [Function.update_of_ne same] using event
  | @signal flush cleared =>
    refine ⟨[], .of_rest (by simp [State.ahead, cleared]) rfl
      (fun _ cleared => by cases cleared) fun other event => ?_⟩
    by_cases same : other = flush
    · subst same
      exact .inr cleared
    · exact .inl (by simpa [Function.update_of_ne same] using event)
  | @replay item copy rest attempts recovering backlog ok =>
    have isHandled := handled { state with backlog := rest } copy attempts
    obtain ⟨_, _, _, _, same⟩ := isHandled.same
    refine ⟨[], ?_, Nat.zero_le 1, ?_, ?_, ?_, ?_, ?_, isHandled.inserted,
      fun _ none => (by cases none), fun _ other safe => isHandled.safe other ?_, fun flush cleared => ?_, fun flush event => ?_⟩
    · rw [same]
      rfl
    iterate 5 rw [same]
    · unfold Safe at safe ⊢
      rw [backlog, List.mem_cons] at safe
      dsimp only
      tauto
    · rw [same] at cleared
      cases recovering.symm.trans cleared
    · rw [same] at event
      exact .inl event
  | @write copy attempts handling =>
    have isHandled := handled state copy attempts
    obtain ⟨_, _, _, _, same⟩ := isHandled.same
    refine ⟨[.add copy], ?_, le_refl 1, ?_, ?_, ?_, ?_, ?_, isHandled.inserted,
      fun other isCopy => isHandled.safe other (.inl (List.mem_singleton.mp isCopy)),
      fun _ other safe => isHandled.safe other (.inr safe), fun flush cleared => (by cases cleared),
      fun flush event => ?_⟩
    · rw [same]
      simp [State.ahead, handling]
    iterate 5 rw [same]
    · rw [same] at event
      exact .inl event
  | @clear flush answered =>
    exact ⟨[.noop flush], {
      ahead := by simp [State.ahead, answered]
      short := le_refl 1
      caller := rfl
      flushes := rfl
      passed := rfl
      since := rfl
      assured := rfl
      inserted := fun _ member => member
      dealt := fun _ none => (by cases none)
      safe := fun none => (by cases none)
      cleared := fun _ cleared => (by cases cleared; rfl)
      event := fun _ event => .inl event }⟩

/-- What is known of the markers. -/
structure Marked (state : State) : Prop where
  increasing : (markers state.ahead).Pairwise (· < ·)
  counted : ∀ flush ∈ markers state.ahead, flush < state.flushes
  event : ∀ flush, (state.done flush).event = true →
    flush < state.flushes ∧ flush ∉ markers state.ahead
  cleared : ∀ flush, state.writer = .cleared flush →
    flush < state.flushes ∧ flush ∉ markers state.ahead
  /-- Nothing comes behind the marker of the flush that is under way. -/
  last : ∀ flush, state.caller = .flushing flush → flush ∈ markers state.ahead →
    ∃ before, state.ahead = before ++ [.noop flush]

theorem Marked.of_behind {state next : State} {used : List Item} (marked : Marked state)
    (behind : Behind state next used) : Marked next := by
  have split : markers state.ahead = markers used ++ markers next.ahead := by
    rw [behind.ahead, markers_append]
  have increasing := marked.increasing
  rw [split, List.pairwise_append] at increasing
  have still (flush : ℕ) (member : flush ∈ markers next.ahead) : flush ∈ markers state.ahead :=
    split ▸ List.mem_append_right _ member
  refine ⟨increasing.2.1, fun flush member => ?_, fun flush event => ?_, fun flush cleared => ?_,
    fun flush flushing member => ?_⟩
  · rw [behind.flushes]
    exact marked.counted flush (still flush member)
  · rw [behind.flushes]
    have known : flush < state.flushes ∧ flush ∉ markers state.ahead :=
      (behind.event flush event).elim (marked.event flush) (marked.cleared flush)
    exact ⟨known.1, fun member => known.2 (still flush member)⟩
  · have isUsed : flush ∈ markers used := by simp [behind.cleared flush cleared]
    rw [behind.flushes]
    exact ⟨marked.counted flush (split ▸ List.mem_append_left _ isUsed),
      fun member => lt_irrefl _ (increasing.2.2 flush isUsed flush member)⟩
  · obtain ⟨before, ahead⟩ := marked.last flush (behind.caller ▸ flushing) (still flush member)
    rw [behind.ahead] at ahead
    obtain ⟨between, -, ahead⟩ | ⟨between, -, last⟩ := List.append_eq_append_iff.mp ahead
    · exact ⟨between, ahead⟩
    · obtain ⟨rfl, same⟩ | ⟨-, empty⟩ := List.singleton_eq_append_iff.mp last
      · exact ⟨[], same⟩
      · rw [empty] at member
        cases member

/-! ### The order of the rows -/

/-- The rows that were committed and those that are still to be, one after the other. -/
def State.line (state : State) : List Copy := state.inserted ++ state.backlog ++ rows state.ahead

/-- Outside of a recovery nothing is kept back while writes work. -/
def Drained (state : State) : Prop :=
  state.ok = true → (∀ item, state.writer ≠ .recovering item) → state.backlog = []

theorem Drained.of_writerStep {state next : State} {event : WriterEvent} (drained : Drained state)
    (stepped : WriterStep state event next) : Drained next := by
  intro ok notRecovering
  cases stepped with
  | get waiting queue => exact drained ok fun item => by simp [waiting]
  | tick waiting notOk => exact absurd ok (by simp [notOk])
  | skip taken => exact drained ok fun item => by simp [taken]
  | @recover item taken => exact absurd rfl (notRecovering item)
  | unrecovered taken notOk => exact absurd ok (by simp [notOk])
  | @replay item copy rest attempts recovering backlog ok' =>
    obtain ⟨ok, lost, backlog', inserted, same⟩ :=
      (handled { state with backlog := rest } copy attempts).same
    rw [same] at notRecovering
    exact absurd recovering (notRecovering item)
  | replayed recovering empty => exact empty ok
  | @write copy attempts handling =>
    have empty (ok : state.ok = true) : state.backlog = [] := drained ok fun item => by simp [handling]
    have isHandled := handled state copy attempts
    generalize state.handleAdd copy attempts = after at isHandled ok ⊢
    cases isHandled with
    | committed before | dropped before => exact empty before
    | kept | overflowed => cases ok
  | answer handling => exact drained ok fun item => by simp [handling]
  | clear answered => exact drained ok fun item => by simp [answered]
  | signal cleared => exact drained ok fun item => by simp [cleared]

/-- Rows leave the line, or the first row of the backlog goes behind the others. -/
theorem WriterStep.line {state next : State} {event : WriterEvent}
    (stepped : WriterStep state event next) (drained : Drained state) :
    next.line.Sublist state.line ∨ ∃ copy rest attempts, event = .replay attempts ∧
      outcome attempts = .failed ∧ state.backlog = copy :: rest ∧
        next.line.Sublist (state.inserted ++ (rest ++ [copy]) ++ rows state.ahead) := by
  cases stepped with
  | get waiting queue => exact .inl (by simp [State.line, State.ahead, waiting, queue])
  | tick waiting ok => exact .inl (by simp [State.line, State.ahead, waiting])
  | skip taken => exact .inl (by simp [State.line, State.ahead, taken])
  | recover taken => exact .inl (by simp [State.line, State.ahead, taken])
  | unrecovered taken ok => exact .inl (by simp [State.line, State.ahead, taken])
  | @replay item copy rest attempts recovering backlog ok =>
    have isHandled := handled { state with backlog := rest } copy attempts
    generalize { state with backlog := rest }.handleAdd copy attempts = after at isHandled ⊢
    cases isHandled with
    | committed => exact .inl (by simp [State.line, State.ahead, backlog])
    | dropped => exact .inl (by simp [State.line, State.ahead, backlog])
    | kept failed => exact .inr ⟨copy, rest, attempts, rfl, failed ok, backlog, .refl _⟩
    | overflowed failed =>
      refine .inr ⟨copy, rest, attempts, rfl, failed ok, backlog, ?_⟩
      exact ((List.Sublist.append_left ((List.tail_sublist rest).append_right _) _).append_right _)
  | replayed recovering empty => exact .inl (by simp [State.line, State.ahead, recovering])
  | @write copy attempts handling =>
    have empty (ok : state.ok = true) : state.backlog = [] := drained ok fun item => by simp [handling]
    have isHandled := handled state copy attempts
    generalize state.handleAdd copy attempts = after at isHandled ⊢
    cases isHandled with
    | committed ok => exact .inl (by simp [State.line, State.ahead, handling, empty ok])
    | dropped ok => exact .inl (by simp [State.line, State.ahead, handling, empty ok])
    | kept => exact .inl (by simp [State.line, State.ahead, handling])
    | overflowed => exact .inl (by simp [State.line, State.ahead, handling, List.tail_sublist])
  | answer handling => exact .inl (by simp [State.line, State.ahead, handling])
  | clear answered => exact .inl (by simp [State.line, State.ahead, answered])
  | signal cleared => exact .inl (by simp [State.line, State.ahead, cleared])

/-- An element goes behind others that may come before it. -/
theorem pairwise_behind {R : Copy → Copy → Prop} {first rest last : List Copy} {copy : Copy}
    (before : (first ++ copy :: rest ++ last).Pairwise R) (may : ∀ other ∈ rest, R other copy) :
    (first ++ (rest ++ [copy]) ++ last).Pairwise R := by
  obtain ⟨middle, after, apart⟩ := List.pairwise_append.mp before
  obtain ⟨inFirst, inMiddle, firstMiddle⟩ := List.pairwise_append.mp middle
  obtain ⟨-, inRest⟩ := List.pairwise_cons.mp inMiddle
  refine List.pairwise_append.mpr ⟨List.pairwise_append.mpr ⟨inFirst,
    List.pairwise_append.mpr ⟨inRest, List.pairwise_singleton _ _, ?_⟩, ?_⟩, after, ?_⟩
  · intro other member moved isMoved
    rw [List.mem_singleton.mp isMoved]
    exact may other member
  · intro early member other isOther
    refine firstMiddle early member other (List.mem_cons.mpr ?_)
    exact (List.mem_append.mp isOther).symm.imp List.mem_singleton.mp id
  · intro early member late isLate
    refine apart early ?_ late isLate
    simp only [List.mem_append, List.mem_cons, List.not_mem_nil, or_false] at member ⊢
    tauto

section Keys

variable {Key : Type} (keyOf : Json → Key)

/-- Rows of one key come in the order of their calls. -/
def Before (first second : Copy) : Prop :=
  keyOf first.row = keyOf second.row → first.number < second.number

/-- What is known of the rows. -/
structure Ordered (state : State) : Prop where
  numbered : state.passed.Pairwise fun first second => first.number < second.number
  bounded : ∀ copy ∈ state.passed, copy.number < state.passed.length
  known : ∀ copy ∈ state.line, copy ∈ state.passed
  before : state.line.Pairwise (Before keyOf)
  drained : Drained state

variable {keyOf}

theorem Ordered.of_writerStep {state next : State} {event : WriterEvent}
    (ordered : Ordered keyOf state) (careful : Careful keyOf state (.writer event))
    (stepped : WriterStep state event next) : Ordered keyOf next := by
  obtain ⟨used, behind⟩ := stepped.behind
  have drained := ordered.drained.of_writerStep stepped
  suffices line : (∀ copy ∈ next.line, copy ∈ state.line) ∧ next.line.Pairwise (Before keyOf) from
    { numbered := behind.passed ▸ ordered.numbered
      bounded := behind.passed ▸ ordered.bounded
      known := fun copy member => behind.passed ▸ ordered.known copy (line.1 copy member)
      before := line.2
      drained := ordered.drained.of_writerStep stepped }
  obtain less | ⟨copy, rest, attempts, rfl, failed, backlog, less⟩ := stepped.line ordered.drained
  · exact ⟨fun copy member => less.subset member, ordered.before.sublist less⟩
  · have apart := careful failed copy rest backlog
    have before := ordered.before
    unfold State.line at before
    rw [backlog] at before
    refine ⟨fun other member => ?_, (pairwise_behind before fun other member same => ?_).sublist less⟩
    · have member := less.subset member
      simp only [State.line, backlog, List.mem_append, List.mem_cons, List.not_mem_nil, or_false]
        at member ⊢
      tauto
    · exact absurd same (apart other member)

theorem Ordered.of_pass {state next : State} {row : Json} (ordered : Ordered keyOf state)
    (passed : next.passed = state.passed ++ [state.copy row])
    (line : next.line = state.line ∨ next.line = state.line ++ [state.copy row])
    (drained : Drained next) : Ordered keyOf next := by
  have later (copy : Copy) (member : copy ∈ state.passed) :
      copy.number < (state.copy row).number := ordered.bounded copy member
  refine ⟨?_, fun copy member => ?_, fun copy member => ?_, ?_, drained⟩
  · rw [passed]
    refine List.pairwise_append.mpr ⟨ordered.numbered, List.pairwise_singleton _ _, ?_⟩
    intro copy member new isNew
    rw [List.mem_singleton.mp isNew]
    exact later copy member
  · rw [passed] at member ⊢
    rw [List.length_append, List.length_singleton]
    obtain member | isNew := List.mem_append.mp member
    · exact Nat.lt_succ_of_lt (ordered.bounded copy member)
    · rw [List.mem_singleton.mp isNew]
      exact Nat.lt_succ_self _
  · rw [passed]
    obtain same | longer := line
    · exact List.mem_append_left _ (ordered.known copy (same ▸ member))
    · rw [longer] at member
      exact List.mem_append.mpr ((List.mem_append.mp member).imp_left (ordered.known copy))
  · obtain same | longer := line
    · exact same ▸ ordered.before
    · rw [longer]
      refine List.pairwise_append.mpr ⟨ordered.before, List.pairwise_singleton _ _, ?_⟩
      intro copy member new isNew _
      rw [List.mem_singleton.mp isNew]
      exact later copy (ordered.known copy member)

theorem Ordered.of_callerStep {state next : State} {event : CallerEvent}
    (ordered : Ordered keyOf state) (stepped : CallerStep state event next) :
    Ordered keyOf next := by
  have drained := ordered.drained
  cases stepped with
  | rejected idle refused => exact ordered.of_pass rfl (.inl rfl) drained
  | added idle =>
    refine ordered.of_pass rfl (.inr ?_) drained
    simp [State.line, State.ahead, State.pass]
  | full idle =>
    exact ⟨ordered.numbered, ordered.bounded, ordered.known, ordered.before, drained⟩
  | dropped dropping => exact ordered.of_pass rfl (.inl rfl) drained
  | flush idle =>
    have same : State.line { state with
        caller := .flushing state.flushes
        queue := state.queue ++ [.noop state.flushes]
        flushes := state.flushes + 1 } = state.line := by
      simp [State.line, State.ahead]
    exact ⟨ordered.numbered, ordered.bounded, same ▸ ordered.known, same ▸ ordered.before, drained⟩
  | flushFull | timeOut | returns =>
    exact ⟨ordered.numbered, ordered.bounded, ordered.known, ordered.before, drained⟩

end Keys

end History

end LocalGpuCluster
