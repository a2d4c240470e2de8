/-
This file models the request tracker of the live dashboard. Lines of the server's journal open,
feed and close a row for each request, and polls of the slots do so while the journal is down. The
arithmetic of floats is a parameter, and may raise; what a call did before it raised stays done.
-/

import LocalGpuCluster.Interaction
import LocalGpuCluster.OrderedDict
import LocalGpuCluster.Text
import Mathlib.Order.Defs.LinearOrder

namespace LocalGpuCluster

namespace LiveDashboard

inductive Raised
  | overflowError
  | zeroDivisionError
  deriving DecidableEq

/-- What the tracker computes with floats, and the texts that its keys are made of. -/
structure Runtime (F Task : Type) where
  zero : F
  one : F
  sub : F → F → F
  /-- `value / 1e3`. -/
  milli : F → F
  /-- `count / value`, of an integer and a float. -/
  divide : ℤ → F → Except Raised F
  /-- `first / second`, of two integers, the second one not zero. -/
  ratio : ℤ → ℤ → Except Raised F
  round : F → Except Raised ℤ
  /-- `value:.3f`. -/
  fixed : F → Text
  str : Task → Text

def slowNewPromptTokens : ℤ := 5000

inductive Status
  | reading
  | generating
  | done
  | cancelled
  | approx
  | interrupted
  deriving DecidableEq

/-- The `ms` and `n` of a timing line. -/
structure Timing (F : Type) where
  ms : F
  n : ℤ
  deriving DecidableEq

/-- What a journal line says about a task in a slot. -/
inductive Report (F : Type)
  | start
  | prefill (n : ℤ) (progress tokS : F)
  | gen (tokS : F)
  | promptEval (timing : Timing F)
  | eval (timing : Timing F)
  | total (timing : Timing F)
  | draft (accepted generated : ℤ)
  | release (n : Option ℤ)
  deriving DecidableEq

/-- An event of `parse_journal_line`, without its time. -/
inductive Event (F Task : Type)
  | serverStart
  | serverReady
  | cancel (task : Task)
  | report (slot : ℤ) (task : Task) (report : Report F)
  deriving DecidableEq

/-- The argument `ev` of `on_journal`. -/
structure Line (F Task : Type) where
  sinceStartS : Option F
  event : Event F Task

/-- A slot as `parse_slots` gives it. -/
structure SlotInfo (Task : Type) where
  id : ℤ
  isProcessing : Bool
  idTask : Task
  nPromptTokens : Option ℤ
  cache : Option ℤ
  nDecoded : ℤ

/-- The public fields of a row. -/
structure Row (F Task : Type) where
  key : Text
  serverRun : F
  slot : ℤ
  task : Task
  started : F
  finished : Option F
  status : Status
  promptTokens : Option ℤ
  newPromptTokens : Option ℤ
  cachedTokens : Option ℤ
  outputTokens : Option ℤ
  prefillTokS : Option F
  genTokS : Option F
  durationS : Option F
  draftAccept : Option F
  slow : Bool

/-- An open row, with its private fields. The serial number stands for the identity of the row, and
is followed by how many lines the tracker had read when it opened the row. -/
structure OpenRow (F Task : Type) extends Row F Task where
  progress : Option F
  processed : Option ℤ
  liveTokS : Option F
  ctx : Option ℤ
  dec : Option ℤ
  decT : Option F
  eval : Option (Timing F)
  pe : Option (Timing F)
  total : Option (Timing F)
  promptEst : Option ℤ
  relN : Option ℤ
  cache : Option ℤ
  serial : ℕ
  openedAt : ℕ

/-- An entry of `finished`, with the identity of its row and the lines that were read while the row
was open. -/
structure Finished (F Task : Type) where
  row : Row F Task
  serial : ℕ
  lines : List (Event F Task)

/-- The state of a `Tracker`. The last three fields are not in the program: how many rows were
opened, the rows that were lost when `_finish` raised, and the lines that were acted on. -/
structure Tracker (F Task : Type) where
  slotCount : ℤ
  approxGraceS : F
  unreachableS : F
  serverRun : Option F
  lastSince : Option F
  restarting : Bool
  journalUp : Bool
  unreachableSince : Option F
  unreachableRekeyed : Bool
  openRows : OrderedDict ℤ (OpenRow F Task)
  cancelled : List Task
  lastDone : OrderedDict ℤ F
  lastRow : OrderedDict ℤ (Option ℤ × Option ℤ)
  idleSince : OrderedDict ℤ F
  finished : List (Finished F Task)
  opened : ℕ
  lost : List ℕ
  lines : List (Event F Task)

/-- A method of the tracker. -/
abbrev Method (F Task Result : Type) := Interaction Raised (Tracker F Task) Result

/-- The program when the condition holds. -/
def whenever {F Task : Type} (condition : Bool) (program : Method F Task Unit) : Method F Task Unit :=
  if condition then program else pure ()

namespace Tracker

variable {F Task : Type} [LinearOrder F] [DecidableEq Task] (runtime : Runtime F Task)

/-- `Tracker(slot_count, approx_grace_s, unreachable_s)`. -/
def new (slotCount : ℤ) (approxGraceS unreachableS : F) : Tracker F Task where
  slotCount := slotCount
  approxGraceS := approxGraceS
  unreachableS := unreachableS
  serverRun := none
  lastSince := none
  restarting := false
  journalUp := true
  unreachableSince := none
  unreachableRekeyed := false
  openRows := .empty
  cancelled := []
  lastDone := .empty
  lastRow := .empty
  idleSince := .empty
  finished := []
  opened := 0
  lost := []
  lines := []

/-! ### Opening and finishing -/

/-- `_key`, with the server run that is set by then. -/
def keyOf (serverRun : F) (slot : ℤ) (task : Task) : Text :=
  runtime.fixed serverRun ++ text ":" ++ decimal slot ++ text ":" ++ runtime.str task

/-- The row that `_new_row` makes. -/
def blankRow (serverRun : F) (slot : ℤ) (task : Task) (now : F) (serial openedAt : ℕ) :
    OpenRow F Task where
  key := keyOf runtime serverRun slot task
  serverRun := serverRun
  slot := slot
  task := task
  started := now
  finished := none
  status := .reading
  promptTokens := none
  newPromptTokens := none
  cachedTokens := none
  outputTokens := none
  prefillTokS := none
  genTokS := none
  durationS := none
  draftAccept := none
  slow := false
  progress := none
  processed := none
  liveTokS := none
  ctx := none
  dec := none
  decT := none
  eval := none
  pe := none
  total := none
  promptEst := none
  relN := none
  cache := none
  serial := serial
  openedAt := openedAt

/-- `_new_row`. -/
def newRow (slot : ℤ) (task : Task) (now : F) : Method F Task Unit :=
  modify fun tracker =>
    let serverRun := tracker.serverRun.getD now
    { tracker with
      serverRun := some serverRun
      idleSince := tracker.idleSince.erase slot
      openRows := tracker.openRows.assign slot
        (blankRow runtime serverRun slot task now tracker.opened tracker.lines.length)
      opened := tracker.opened + 1 }

/-- Tokens for each second of a timing; a time that is not positive gives none. -/
def rate (timing : Timing F) : Except Raised (Option F) :=
  if runtime.zero < timing.ms then (runtime.divide timing.n (runtime.milli timing.ms)).map some
  else .ok none

/-- The rate of a timing that was seen, else what the row has. -/
def rateOr (current : Option F) : Option (Timing F) → Except Raised (Option F)
  | some timing => rate runtime timing
  | none => .ok current

/-- What a row has as `prompt_tokens` before it is compared with the new ones. -/
def promptOf (row : OpenRow F Task) : Option ℤ :=
  match row.relN, row.promptEst with
  | some n, _ =>
      some (max 0 (n - (match row.eval with
        | some timing => timing.n
        | none => row.dec.getD 0)))
  | none, some estimate => some estimate
  | none, none => row.promptTokens

/-- The prompt and the cached tokens, when the new ones are known too. -/
def fitCounts (prompt new cached : Option ℤ) : Option ℤ × Option ℤ :=
  match prompt, new with
  | some prompt, some new => (some (max prompt new), some (max 0 (max prompt new - new)))
  | _, _ => (prompt, cached)

/-- What `_finish` makes of the row that it takes out. -/
def settle (status : Status) (now : F) (row : OpenRow F Task) : Except Raised (Row F Task) := do
  let prefillTokS ← rateOr runtime row.prefillTokS row.pe
  let genTokS ← rateOr runtime row.genTokS row.eval
  let newPromptTokens := match row.pe with
    | some timing => some timing.n
    | none => row.newPromptTokens
  let outputTokens := match row.eval with
    | some timing => some timing.n
    | none => row.outputTokens
  let counts := fitCounts (promptOf row) newPromptTokens row.cachedTokens
  .ok { row.toRow with
    status := status
    finished := some now
    newPromptTokens := newPromptTokens
    prefillTokS := prefillTokS
    outputTokens :=
      if outputTokens = none ∧ (status = .approx ∨ status = .cancelled) then row.dec
      else outputTokens
    genTokS := genTokS
    durationS := some (match row.total with
      | some timing => runtime.milli timing.ms
      | none => runtime.sub now row.started)
    promptTokens := counts.1
    cachedTokens := counts.2
    slow := newPromptTokens.any (slowNewPromptTokens < ·) }

/-- `_finish`. -/
def finish (slot : ℤ) (status : Status) (now : F) : Method F Task Unit := do
  let tracker ← get
  modify fun tracker =>
    { tracker with
      openRows := tracker.openRows.erase slot
      idleSince := tracker.idleSince.erase slot }
  match tracker.openRows.find slot with
  | none => pure ()
  | some row =>
      match settle runtime status now row with
      | .error raised => do
          modify fun tracker => { tracker with lost := tracker.lost ++ [row.serial] }
          throw raised
      | .ok settled =>
          modify fun tracker =>
            { tracker with
              lastDone := tracker.lastDone.assign slot now
              lastRow := tracker.lastRow.assign slot (settled.promptTokens, settled.cachedTokens)
              finished := tracker.finished ++
                [⟨settled, row.serial, tracker.lines.drop row.openedAt⟩] }

/-- All open rows are finished as interrupted. -/
def interruptAll (now : F) : Method F Task Unit := do
  let tracker ← get
  tracker.openRows.keys.forM fun slot => finish runtime slot .interrupted now

/-- `_restart`. -/
def restart (now : F) : Method F Task Unit := do
  interruptAll runtime now
  modify fun tracker =>
    { tracker with idleSince := .empty, serverRun := some now, cancelled := [] }

/-- What is written into an open row. -/
def put (slot : ℤ) (row : OpenRow F Task) : Method F Task Unit :=
  modify fun tracker => { tracker with openRows := tracker.openRows.assign slot row }

/-! ### The journal -/

/-- The line is of an earlier time than the one before, by more than a second. -/
def goesBackwards (tracker : Tracker F Task) (since : Option F) : Bool :=
  match since, tracker.lastSince with
  | some since, some last => since < runtime.sub last runtime.one
  | _, _ => false

/-- The lines after which the server is known to serve. -/
def Serves : Report F → Bool
  | .start | .prefill .. | .gen _ | .promptEval _ | .release _ => true
  | .eval _ | .total _ | .draft .. => false

/-- What every line changes that comes past the restart. -/
def enter (line : Line F Task) (now : F) (tracker : Tracker F Task) : Tracker F Task :=
  let entered := { tracker with lastSince := line.sinceStartS, lines := tracker.lines ++ [line.event] }
  match line.event with
  | .serverStart => { entered with restarting := true }
  | .serverReady => { entered with restarting := false }
  | .cancel _ => { entered with serverRun := some (tracker.serverRun.getD now) }
  | .report _ _ report =>
      { entered with
        restarting := !Serves report && tracker.restarting
        serverRun := some (tracker.serverRun.getD now) }

/-- What is known of a task that a line releases. -/
def releaseStatus (tracker : Tracker F Task) (row : OpenRow F Task) : Status :=
  if row.task ∈ tracker.cancelled then .cancelled
  else if row.eval.isSome then .done
  else .approx

/-- A line about the task of an open row, other than a start. -/
def onReport (slot : ℤ) (row : OpenRow F Task) (now : F) : Report F → Method F Task Unit
  | .start => pure ()
  | .prefill n progress tokS =>
      if row.status = .generating then pure ()
      else do
        let shown :=
          { row with progress := some progress, processed := some n, liveTokS := some tokS, ctx := some n }
        put slot shown
        if runtime.zero < progress then
          match (runtime.divide n progress).bind runtime.round with
          | .error raised => throw raised
          | .ok estimate => put slot { shown with promptEst := some estimate }
        else pure ()
  | .gen tokS =>
      put slot { row with status := .generating, progress := some runtime.one, liveTokS := some tokS }
  | .promptEval timing => put slot { row with pe := some timing }
  | .eval timing => put slot { row with eval := some timing }
  | .total timing => put slot { row with total := some timing }
  | .draft accepted generated =>
      if generated = 0 then put slot { row with draftAccept := none }
      else
        match runtime.ratio accepted generated with
        | .error raised => throw raised
        | .ok accept => put slot { row with draftAccept := some accept }
  | .release n => do
      let tracker ← get
      put slot { row with relN := n }
      modify fun tracker =>
        { tracker with cancelled := tracker.cancelled.filter (· ≠ row.task) }
      finish runtime slot (releaseStatus tracker row) now

/-- A line that starts a task in a slot; a row that the polls already opened is kept. -/
def onStart (slot : ℤ) (task : Task) (now : F) : Method F Task Unit := do
  let tracker ← get
  match tracker.openRows.find slot with
  | none => newRow runtime slot task now
  | some current =>
      if current.task = task then pure ()
      else do
        finish runtime slot .approx now
        newRow runtime slot task now

/-- What a line does when it is read. -/
def onEvent (now : F) : Event F Task → Method F Task Unit
  | .serverStart | .serverReady => pure ()
  | .cancel task =>
      modify fun tracker => { tracker with cancelled := insert task tracker.cancelled }
  | .report slot task .start => onStart runtime slot task now
  | .report slot task report => do
      let tracker ← get
      match tracker.openRows.find slot with
      | none => pure ()
      | some row => if row.task = task then onReport runtime slot row now report else pure ()

def Event.starts : Event F Task → Bool
  | .serverStart => true
  | _ => false

/-- `on_journal`. -/
def onJournal (line : Line F Task) (now : F) : Method F Task Unit := do
  let tracker ← get
  whenever (Event.starts line.event || goesBackwards runtime tracker line.sinceStartS)
    (restart runtime now)
  modify (enter line now)
  onEvent runtime now line.event

/-! ### The polls -/

/-- The rate that a poll shows, from the tokens since the last one. -/
def shownRate (row : OpenRow F Task) (nDecoded : ℤ) (now : F) : Except Raised (Option F) :=
  let live := if row.status = .generating then row.liveTokS else none
  match row.dec, row.decT with
  | some dec, some decT =>
      if decT < now then
        (runtime.divide (nDecoded - dec) (runtime.sub now decT)).map fun tokS =>
          some (max runtime.zero tokS)
      else .ok live
  | _, _ => .ok live

/-- The row with what every poll of its slot says. -/
def seenRow (info : SlotInfo Task) (journalUp : Bool) (row : OpenRow F Task) : OpenRow F Task :=
  { row with
    cache := info.cache
    ctx := if 0 < info.nDecoded ∨ journalUp = false then info.nPromptTokens else row.ctx }

/-- The row of a slot that is processing its task. -/
def watch (info : SlotInfo Task) (row : OpenRow F Task) (now : F) : Method F Task Unit := do
  let tracker ← get
  let seen := seenRow info tracker.journalUp row
  modify fun tracker => { tracker with idleSince := tracker.idleSince.erase info.id }
  put info.id seen
  if 0 < info.nDecoded then
    match shownRate runtime row info.nDecoded now with
    | .error raised => do
        put info.id { seen with liveTokS := if row.status = .generating then row.liveTokS else none }
        throw raised
    | .ok live =>
        put info.id
          { seen with
            liveTokS := live
            status := .generating
            progress := some runtime.one
            dec := some info.nDecoded
            decT := some now }
  else pure ()

/-- A row is opened for a slot without one, unless the journal is to open it. -/
def adopt (info : SlotInfo Task) (now : F) : Method F Task Unit := do
  let tracker ← get
  if tracker.journalUp then pure ()
  else do
    newRow runtime info.id info.idTask now
    let opened ← get
    match opened.openRows.find info.id with
    | none => pure ()
    | some row => watch runtime info row now

/-- The body of the loop over the slots. -/
def onSlot (now : F) (info : SlotInfo Task) : Method F Task Unit := do
  whenever info.isProcessing (modify fun tracker => { tracker with restarting := false })
  let tracker ← get
  match tracker.openRows.find info.id with
  | none => if info.isProcessing then adopt runtime info now else pure ()
  | some row =>
      if info.isProcessing then
        if row.task = info.idTask then watch runtime info row now
        else if tracker.journalUp then pure ()
        else do
          finish runtime info.id .approx now
          adopt runtime info now
      else do
        let first := (tracker.idleSince.find info.id).getD now
        modify fun tracker => { tracker with idleSince := tracker.idleSince.assign info.id first }
        if tracker.journalUp = false ∨ tracker.approxGraceS ≤ runtime.sub now first then
          finish runtime info.id .approx now
        else pure ()

/-- The slots could not be read. -/
def onUnreachable (now : F) : Method F Task Unit := do
  let tracker ← get
  let since := tracker.unreachableSince.getD now
  modify fun tracker => { tracker with unreachableSince := some since }
  if tracker.journalUp = false ∧ tracker.unreachableS ≤ runtime.sub now since then do
    interruptAll runtime now
    whenever (!tracker.unreachableRekeyed) (modify fun tracker =>
      { tracker with unreachableRekeyed := true, serverRun := some now, cancelled := [] })
  else pure ()

/-- `on_slots`. -/
def onSlots (slots : Option (List (SlotInfo Task))) (now : F) : Method F Task Unit :=
  match slots with
  | none => onUnreachable runtime now
  | some slots => do
      modify fun tracker =>
        { tracker with unreachableSince := none, unreachableRekeyed := false }
      slots.forM (onSlot runtime now)

/-- `set_journal_up`. -/
def setJournalUp (up : Bool) : Method F Task Unit :=
  modify fun tracker => { tracker with journalUp := up, lastSince := none }

/-! ### Runs -/

/-- A call of one of the inputs. -/
inductive Call (F Task : Type)
  | onJournal (line : Line F Task)
  | onSlots (slots : Option (List (SlotInfo Task)))
  | setJournalUp (up : Bool)

def call (now : F) : Call F Task → Method F Task Unit
  | .onJournal line => onJournal runtime line now
  | .onSlots slots => onSlots runtime slots now
  | .setJournalUp up => setJournalUp up

/-- The calls one after the other; one that raises does not end the run. -/
def run : List (Call F Task × F) → Tracker F Task → Tracker F Task
  | [], tracker => tracker
  | (input, now) :: rest, tracker => run rest (call runtime now input tracker).2

/-- How many of the calls raise. -/
def raises : List (Call F Task × F) → Tracker F Task → ℕ
  | [], _ => 0
  | (input, now) :: rest, tracker =>
      (if (call runtime now input tracker).1.isOk then 0 else 1) +
        raises rest (call runtime now input tracker).2

end Tracker

end LiveDashboard

end LocalGpuCluster
