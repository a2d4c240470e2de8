/-
This file models `History` of `history.py`: one thread that calls `add` and `flush`, the writer thread, and
the bounded queue between them. The steps of the two threads come in any order. What the database does with
an attempt, whether `_setup` works, and when a wait ends are left open. The history is not closed, and the
thread that calls is the only one.
-/

import LocalGpuCluster.Json
import LocalGpuCluster.Machine
import Mathlib.Logic.Function.Basic

namespace LocalGpuCluster

namespace History

/-! ### Rows and attempts -/

/-- `QUEUE_MAX`. -/
def queueMax : ℕ := 10000

/-- `BACKLOG_MAX`. -/
def backlogMax : ℕ := 1000

/-- `RETRY_BACKOFF`. -/
def retryBackoff : List ℚ := [1 / 5, 1 / 2, 1]

/-- The copy that one call of `add` makes of its row; the number is that of the call. -/
structure Copy where
  number : ℕ
  row : Json

/-- `value is not None`. -/
def isPresent : Json → Bool
  | .null => false
  | _ => true

/-- A row is a dict with a `key` and a `finished`. -/
def accepted : Json → Bool
  | .obj fields =>
      isPresent (Json.getIn fields (text "key")) && isPresent (Json.getIn fields (text "finished"))
  | _ => false

/-- What `_connect`, `_apply` and the commit do. -/
inductive Attempt where
  | commits
  | dataError
  | transient
  | persistent
  deriving DecidableEq

/-- How `_run` ends. -/
inductive Outcome where
  | committed
  | dropped
  | failed
  deriving DecidableEq

/-- The loop of `_run` from an attempt on, with the number of retries left. -/
def outcomeFrom (attempts : ℕ → Attempt) (attempt : ℕ) : ℕ → Outcome
  | 0 =>
      match attempts attempt with
      | .commits => .committed
      | .dataError | .transient => .dropped
      | .persistent => .failed
  | retries + 1 =>
      match attempts attempt with
      | .commits => .committed
      | .dataError => .dropped
      | .transient => outcomeFrom attempts (attempt + 1) retries
      | .persistent => .failed

/-- `_run` on a row. -/
def outcome (attempts : ℕ → Attempt) : Outcome := outcomeFrom attempts 0 retryBackoff.length

/-! ### The two threads -/

/-- What is in the queue. -/
inductive Item where
  | add (copy : Copy)
  /-- The marker of a flush. -/
  | noop (flush : ℕ)

/-- Where the writer is. -/
inductive Writer where
  /-- At `self._q.get`. -/
  | waiting
  /-- It has an item, `none` for a tick. -/
  | taken (item : Option Item)
  /-- In the loop of `_try_recover`. -/
  | recovering (item : Option Item)
  /-- In `_handle`. -/
  | handling (item : Item)
  /-- `done["ok"]` is set, and `_lost` not yet cleared. -/
  | answered (flush : ℕ)
  /-- `done["event"]` is not yet set. -/
  | cleared (flush : ℕ)

/-- Where the caller is. -/
inductive Caller where
  | idle
  /-- `put_nowait` found the queue full. -/
  | dropping (row : Json)
  /-- In the loop of `_roundtrip`. -/
  | flushing (flush : ℕ)

/-- The `done` of a flush. -/
structure Done where
  ok : Bool
  event : Bool
  deriving DecidableEq

structure State where
  caller : Caller
  queue : List Item
  writer : Writer
  ok : Bool
  lost : Bool
  backlog : List Copy
  done : ℕ → Done
  /-- The number of flushes that have put a marker. -/
  flushes : ℕ
  /-- What was committed, one after the other. -/
  inserted : List Copy
  /-- What was passed to `add`. -/
  passed : List Copy
  /-- What was passed since the last flush returned. -/
  since : List Copy
  /-- What a flush that returned `True` was about. -/
  assured : List Copy

/-- A new history; `ok` tells whether `_setup` worked. -/
def start (ok : Bool) : State where
  caller := .idle
  queue := []
  writer := .waiting
  ok := ok
  lost := false
  backlog := []
  done := fun _ => ⟨false, false⟩
  flushes := 0
  inserted := []
  passed := []
  since := []
  assured := []

inductive CallerEvent where
  | add (row : Json)
  /-- The end of an `add` that found the queue full. -/
  | drop
  | flush
  /-- The queue stays full, and the flush returns `False`. -/
  | flushFull
  | timeOut
  | returns

inductive WriterEvent where
  | get
  | tick
  /-- No recovery is due. -/
  | skip
  | recover (setUp : Bool)
  /-- One round of the loop of `_try_recover`. -/
  | replay (attempts : ℕ → Attempt)
  | replayed
  | write (attempts : ℕ → Attempt)
  | answer
  | clear
  | signal

inductive Event where
  | caller (event : CallerEvent)
  | writer (event : WriterEvent)

/-! ### The caller -/

namespace State

/-- The copy that the next call of `add` makes. -/
def copy (state : State) (row : Json) : Copy := ⟨state.passed.length, row⟩

/-- A row was passed to `add`. -/
def pass (state : State) (row : Json) : State :=
  { state with
    passed := state.passed ++ [state.copy row]
    since := state.since ++ [state.copy row] }

/-- A flush returns. -/
def returned (state : State) (ok : Bool) : State :=
  { state with
    caller := .idle
    since := []
    assured := if ok then state.assured ++ state.since else state.assured }

end State

/-- A step of `add` or `flush`. -/
def callerStep (state : State) (event : CallerEvent) : Option State :=
  match state.caller, event with
  | .idle, .add row =>
      if accepted row then
        if state.queue.length < queueMax then
          some { state.pass row with queue := state.queue ++ [.add (state.copy row)] }
        else some { state with caller := .dropping row }
      else some { state.pass row with lost := true }
  | .dropping row, .drop => some { state.pass row with caller := .idle, lost := true }
  | .idle, .flush =>
      if state.queue.length < queueMax then
        some { state with
          caller := .flushing state.flushes
          queue := state.queue ++ [.noop state.flushes]
          flushes := state.flushes + 1 }
      else none
  | .idle, .flushFull =>
      if state.queue.length < queueMax then none else some (state.returned false)
  | .flushing _, .timeOut => some (state.returned false)
  | .flushing flush, .returns =>
      if (state.done flush).event then some (state.returned (state.done flush).ok) else none
  | _, _ => none

/-! ### The writer -/

namespace State

/-- `_keep`: a full deque loses its first row. -/
def keep (state : State) (copy : Copy) : State :=
  if state.backlog.length = backlogMax then
    { state with lost := true, backlog := state.backlog.tail ++ [copy] }
  else { state with backlog := state.backlog ++ [copy] }

/-- `_handle` on a row. -/
def handleAdd (state : State) (copy : Copy) (attempts : ℕ → Attempt) : State :=
  if state.ok then
    match outcome attempts with
    | .committed => { state with inserted := state.inserted ++ [copy] }
    | .dropped => { state with lost := true }
    | .failed => { state with ok := false }.keep copy
  else state.keep copy

end State

/-- After the recovery, or without one. -/
def Writer.next : Option Item → Writer
  | none => .waiting
  | some item => .handling item

/-- A step of `_writer`. -/
def writerStep (state : State) (event : WriterEvent) : Option State :=
  match state.writer, event with
  | .waiting, .get =>
      match state.queue with
      | [] => none
      | item :: rest => some { state with queue := rest, writer := .taken (some item) }
  | .waiting, .tick =>
      if !state.ok && state.queue.isEmpty then some { state with writer := .taken none } else none
  | .taken item, .skip => some { state with writer := .next item }
  | .taken item, .recover setUp =>
      if state.ok then none
      else if setUp then some { state with ok := true, writer := .recovering item }
      else some { state with writer := .next item }
  | .recovering _, .replay attempts =>
      match state.backlog with
      | [] => none
      | copy :: rest =>
          if state.ok then some ({ state with backlog := rest }.handleAdd copy attempts) else none
  | .recovering item, .replayed =>
      if state.ok && !state.backlog.isEmpty then none else some { state with writer := .next item }
  | .handling (.add copy), .write attempts =>
      some { state.handleAdd copy attempts with writer := .waiting }
  | .handling (.noop flush), .answer =>
      some { state with
        done := Function.update state.done flush
          { state.done flush with ok := state.ok && !state.lost }
        writer := .answered flush }
  | .answered flush, .clear => some { state with lost := false, writer := .cleared flush }
  | .cleared flush, .signal =>
      some { state with
        done := Function.update state.done flush { state.done flush with event := true }
        writer := .waiting }
  | _, _ => none

/-- A step of either thread. -/
def step (state : State) : Event → Option State
  | .caller event => callerStep state event
  | .writer event => writerStep state event

/-- The two threads. -/
def history : Machine State Event where
  step := step

/-! ### What a flush promises -/

section Keys

variable {Key : Type} [DecidableEq Key] (keyOf : Json → Key)

/-- The last of the copies with a key. -/
def lastWith (key : Key) (copies : List Copy) : Option Copy :=
  (copies.filter fun copy => keyOf copy.row = key).getLast?

/-- The copy whose row is in the table: `INSERT OR REPLACE`. -/
def State.stored (state : State) (key : Key) : Option Copy := lastWith keyOf key state.inserted

/-- The flush that is under way can return `True`. -/
def State.Flushed (state : State) : Prop :=
  ∃ flush, state.caller = .flushing flush ∧ (state.done flush).event = true ∧
    (state.done flush).ok = true

/-- Nothing was lost silently. -/
structure State.Kept (state : State) : Prop where
  /-- Every row passed since the last flush returned was committed. -/
  committed : ∀ copy ∈ state.since, copy ∈ state.inserted
  /-- The stored row of a key is the last that was passed, also where a flush that returned `True` was
  about that one. -/
  stored : ∀ key copy, lastWith keyOf key state.passed = some copy →
    copy ∈ state.since ∨ copy ∈ state.assured → state.stored keyOf key = some copy

end Keys

end History

end LocalGpuCluster
