/-
This file holds the client's side of a server-sent event stream: a text is read character by
character into lines, a line adds a field to the event in progress, and an empty line dispatches
it. An event without data is not dispatched. A client is between events when nothing it has read
waits for the next line; a complete frame that it reads there gives that frame's event and leaves
it between events.
-/

import LocalGpuCluster.Text

namespace LocalGpuCluster

namespace EventStream

/-- An event the client dispatches. -/
structure ServerEvent where
  type : Text
  data : Text
  deriving DecidableEq, Repr

/-- The type of an event that names none. -/
def message : Text := text "message"

/-- What a client has read: the line in progress, whether a carriage return ended the line before
it, the data and the type of the event in progress, and the events so far. -/
structure Client where
  line : Text
  afterReturn : Bool
  data : List Text
  type : Text
  events : List ServerEvent
  deriving DecidableEq, Repr

def lineFeed : CodePoint := 0xA
def carriageReturn : CodePoint := 0xD
def colon : CodePoint := 0x3A

/-- The name of the field that a line is. -/
def fieldName (line : Text) : Text := line.takeWhile (· ≠ colon)

/-- The value of a field, without the one space that may follow the colon. -/
def fieldValue (line : Text) : Text :=
  match line.dropWhile (· ≠ colon) with
  | [] => []
  | _ :: value => if value.head? = some 0x20 then value.tail else value

namespace Client

def start : Client :=
  { line := [], afterReturn := false, data := [], type := message, events := [] }

/-- A line that starts with a colon is a comment: its field has no name. An event whose type is
empty has the type of an event that names none. -/
def takeField (client : Client) (line : Text) : Client :=
  { client with
    data := if fieldName line = text "data" then client.data ++ [fieldValue line] else client.data
    type :=
      if fieldName line = text "event" then
        if fieldValue line = [] then message else fieldValue line
      else client.type }

def dispatch (client : Client) : Client :=
  { client with
    data := []
    type := message
    events :=
      if client.data = [] then client.events
      else client.events ++ [{ type := client.type, data := Text.join [lineFeed] client.data }] }

def endLine (client : Client) : Client :=
  if client.line = [] then client.dispatch else { client.takeField client.line with line := [] }

def read (client : Client) (point : CodePoint) : Client :=
  if point = lineFeed then
    if client.afterReturn then { client with afterReturn := false } else client.endLine
  else if point = carriageReturn then { client.endLine with afterReturn := true }
  else { client with line := client.line ++ [point], afterReturn := false }

def feed (client : Client) (input : Text) : Client := input.foldl read client

theorem feed_append (client : Client) (first second : Text) :
    client.feed (first ++ second) = (client.feed first).feed second :=
  List.foldl_append

/-- Nothing that was read waits for the next line. -/
def Between (client : Client) : Prop :=
  client.line = [] ∧ client.data = [] ∧ client.type = message

instance (client : Client) : Decidable client.Between := instDecidableAnd

end Client

/-- The complete events of a text. -/
def events (input : Text) : List ServerEvent := (Client.start.feed input).events

/-- A text that ends between events. -/
def Complete (input : Text) : Prop := (Client.start.feed input).Between

instance (input : Text) : Decidable (Complete input) :=
  inferInstanceAs (Decidable (Client.Between _))

/-! ### Clients that go on alike -/

namespace Client

/-- Two clients that read the same from here on; between events, a line feed that belongs to the
carriage return before it does what an empty line does there, nothing. -/
structure Alike (first second : Client) : Prop where
  line : first.line = second.line
  data : first.data = second.data
  type : first.type = second.type
  events : first.events = second.events
  afterReturn : first.afterReturn = second.afterReturn ∨ first.Between

theorem Alike.refl (client : Client) : client.Alike client := ⟨rfl, rfl, rfl, rfl, Or.inl rfl⟩

theorem Alike.between {first second : Client} (alike : first.Alike second)
    (between : second.Between) : first.Between :=
  ⟨alike.line.trans between.1, alike.data.trans between.2.1, alike.type.trans between.2.2⟩

/-- Between events an empty line does nothing. -/
theorem Between.endLine {client : Client} (between : client.Between) : client.endLine = client := by
  obtain ⟨line, afterReturn, data, type, events⟩ := client
  obtain ⟨rfl, rfl, rfl⟩ := between
  rfl

theorem Alike.endLine {first second : Client} (alike : first.Alike second) :
    first.endLine.line = second.endLine.line ∧ first.endLine.data = second.endLine.data ∧
      first.endLine.type = second.endLine.type ∧ first.endLine.events = second.endLine.events := by
  obtain ⟨line, afterReturn, data, type, events⟩ := first
  obtain ⟨line', afterReturn', data', type', events'⟩ := second
  obtain ⟨rfl, rfl, rfl, rfl, _⟩ := alike
  unfold Client.endLine
  split <;> exact ⟨rfl, rfl, rfl, rfl⟩

theorem endLine_afterReturn (client : Client) : client.endLine.afterReturn = client.afterReturn := by
  unfold endLine
  split <;> rfl

theorem Alike.read {first second : Client} (alike : first.Alike second) (point : CodePoint) :
    (first.read point).Alike (second.read point) := by
  obtain ⟨line, data, type, events⟩ := alike.endLine
  unfold Client.read
  split
  · obtain same | between := alike.afterReturn
    · rw [same]
      split
      · exact ⟨alike.line, alike.data, alike.type, alike.events, Or.inl rfl⟩
      · refine ⟨line, data, type, events, Or.inl ?_⟩
        rw [endLine_afterReturn, endLine_afterReturn, same]
    · have between' : second.Between := ⟨alike.line.symm.trans between.1,
        alike.data.symm.trans between.2.1, alike.type.symm.trans between.2.2⟩
      rw [between.endLine, between'.endLine]
      split <;> split <;>
        exact ⟨alike.line, alike.data, alike.type, alike.events, Or.inr between⟩
  · split
    · exact ⟨line, data, type, events, Or.inl rfl⟩
    · exact ⟨congrArg (· ++ [point]) alike.line, alike.data, alike.type, alike.events, Or.inl rfl⟩

theorem Alike.feed {first second : Client} (alike : first.Alike second) (input : Text) :
    (first.feed input).Alike (second.feed input) := by
  induction input generalizing first second with
  | nil => exact alike
  | cons point rest inductionHypothesis => exact inductionHypothesis (alike.read point)

/-! ### Frames -/

/-- A text within one line. -/
def oneLine (line : Text) : Bool := line.all fun point => point ≠ lineFeed && point ≠ carriageReturn

/-- What a client becomes that reads a line, its end and an empty line. -/
def takeFrame (client : Client) (line : Text) : Client :=
  ({ ({ client with line := client.line ++ line, afterReturn := false } : Client).takeField
      (client.line ++ line) with line := [] } : Client).dispatch

theorem feed_oneLine {line : Text} (within : oneLine line = true) (present : line ≠ [])
    (client : Client) :
    client.feed line = { client with line := client.line ++ line, afterReturn := false } := by
  induction line generalizing client with
  | nil => exact absurd rfl present
  | cons point rest inductionHypothesis =>
    have split : (point ≠ lineFeed && point ≠ carriageReturn) = true ∧ oneLine rest = true :=
      Bool.and_eq_true_iff.mp within
    obtain ⟨here, later⟩ := split
    obtain ⟨noFeed, noReturn⟩ := Bool.and_eq_true_iff.mp here
    have step : client.read point =
        { client with line := client.line ++ [point], afterReturn := false } := by
      unfold read
      rw [if_neg (of_decide_eq_true noFeed), if_neg (of_decide_eq_true noReturn)]
    show (client.read point).feed rest = _
    rw [step]
    cases rest with
    | nil => rfl
    | cons next more =>
      rw [inductionHypothesis later (List.cons_ne_nil _ _)]
      simp only [List.append_assoc, List.singleton_append]

theorem read_lineFeed {client : Client} (notAfterReturn : client.afterReturn = false) :
    client.read lineFeed = client.endLine := by
  unfold read
  rw [if_pos rfl, notAfterReturn, if_neg Bool.false_ne_true]

/-- What a line does to the event in progress. -/
theorem endLine_of_line {client : Client} (started : client.line ≠ []) :
    client.endLine = { client.takeField client.line with line := [] } :=
  if_neg started

/-- A frame of one line ends the line it is read in, and dispatches. -/
theorem feed_frame {line : Text} (within : oneLine line = true) (present : line ≠ []) (client : Client) :
    client.feed (line ++ [lineFeed, lineFeed]) = client.takeFrame line := by
  have started : client.line ++ line ≠ [] := fun none => present (List.append_eq_nil_iff.mp none).2
  let inLine : Client := { client with line := client.line ++ line, afterReturn := false }
  have ended : inLine.read lineFeed = { inLine.takeField inLine.line with line := [] } := by
    rw [read_lineFeed rfl, endLine_of_line started]
  have notAfterReturn : (inLine.read lineFeed).afterReturn = false := by
    rw [read_lineFeed rfl, endLine_afterReturn]
  rw [feed_append, feed_oneLine within present]
  show (inLine.read lineFeed).read lineFeed = _
  rw [read_lineFeed notAfterReturn, ended]
  exact if_pos rfl

/-- A line that goes on after its colon keeps its name. -/
theorem fieldName_append_of_mem {line : Text} (named : colon ∈ line) (more : Text) :
    fieldName (line ++ more) = fieldName line := by
  induction line with
  | nil => exact absurd named List.not_mem_nil
  | cons point rest inductionHypothesis =>
    unfold fieldName at inductionHypothesis ⊢
    by_cases here : point = colon
    · rw [List.cons_append, List.takeWhile_cons_of_neg (by simp [here]),
        List.takeWhile_cons_of_neg (by simp [here])]
    · have later : colon ∈ rest := (List.mem_cons.mp named).resolve_left (Ne.symm here)
      rw [List.cons_append, List.takeWhile_cons_of_pos (by simp [here]),
        List.takeWhile_cons_of_pos (by simp [here]), inductionHypothesis later]

theorem fieldName_append_of_not_mem {line : Text} (unnamed : colon ∉ line) (more : Text) :
    fieldName (line ++ more) = line ++ fieldName more :=
  List.takeWhile_append_of_pos fun _ member =>
    decide_eq_true fun same => unnamed (same ▸ member)

theorem takeFrame_events (client : Client) (line : Text) :
    (client.takeFrame line).events =
      let after := client.takeField (client.line ++ line)
      if after.data = [] then client.events
      else client.events ++ [{ type := after.type, data := Text.join [lineFeed] after.data }] :=
  rfl

/-- After a frame the client is between events. -/
theorem takeFrame_between (client : Client) (line : Text) : (client.takeFrame line).Between :=
  ⟨rfl, rfl, rfl⟩

/-- A frame that ends in a data field dispatches an event. -/
theorem takeFrame_events_of_data {client : Client} {line : Text}
    (named : fieldName (client.line ++ line) = text "data") :
    (client.takeFrame line).events =
      client.events ++
        [{ type := client.type
           data := Text.join [lineFeed] (client.data ++ [fieldValue (client.line ++ line)]) }] := by
  rw [takeFrame_events]
  unfold takeField
  dsimp only
  rw [if_pos named, if_neg (List.append_ne_nil_of_right_ne_nil _ (List.cons_ne_nil _ _)), named,
    if_neg (by decide)]

/-- A frame that ends in another field dispatches what was there. -/
theorem takeFrame_events_of_other {client : Client} {line : Text}
    (other : fieldName (client.line ++ line) ≠ text "data") :
    (client.takeFrame line).events = client.events ↔ client.data = [] := by
  rw [takeFrame_events]
  unfold takeField
  dsimp only
  rw [if_neg other, ite_eq_left_iff, List.append_right_eq_self]
  exact ⟨fun impossible => by_contra fun present => List.cons_ne_nil _ _ (impossible present),
    fun none present => absurd none present⟩

/-- A frame that dispatches nothing ends in another field, and there was no data. -/
theorem of_takeFrame_events_eq {client : Client} {line : Text}
    (quiet : (client.takeFrame line).events = client.events) :
    client.data = [] ∧ fieldName (client.line ++ line) ≠ text "data" := by
  have other : fieldName (client.line ++ line) ≠ text "data" := fun named => by
    rw [takeFrame_events_of_data named, List.append_right_eq_self] at quiet
    exact List.cons_ne_nil _ _ quiet
  exact ⟨(takeFrame_events_of_other other).mp quiet, other⟩

/-- A frame adds at most one event. -/
theorem takeFrame_events_eq_append (client : Client) (line : Text) :
    ∃ added, (client.takeFrame line).events = client.events ++ added ∧ added.length ≤ 1 := by
  rw [takeFrame_events]
  dsimp only
  split
  · exact ⟨[], (List.append_nil _).symm, Nat.zero_le 1⟩
  · exact ⟨_, rfl, le_rfl⟩

/-- Between events a data frame is its event. -/
theorem takeFrame_data {client : Client} (between : client.Between) (value : Text) :
    (client.takeFrame (text "data: " ++ value)).events =
      client.events ++ [{ type := message, data := value }] := by
  obtain ⟨line, data, type⟩ := between
  have named : fieldName (client.line ++ (text "data: " ++ value)) = text "data" := by
    rw [line]
    rfl
  have own : fieldValue ([] ++ (text "data: " ++ value)) = value := rfl
  have single : Text.join [lineFeed] ([] ++ [value]) = value := List.append_nil value
  rw [takeFrame_events_of_data named, line, data, type, own, single]

/-- A comment is nothing and a data frame is its event only between events. -/
theorem between_of_frames {client : Client} {comment value : Text}
    (quiet : (client.takeFrame (colon :: comment)).events = client.events)
    (event : (client.takeFrame (text "data: " ++ value)).events =
      client.events ++ [{ type := message, data := value }]) : client.Between := by
  obtain ⟨noData, other⟩ := of_takeFrame_events_eq quiet
  have named : fieldName (client.line ++ (text "data: " ++ value)) = text "data" := by
    refine by_contra fun unnamed => ?_
    rw [(takeFrame_events_of_other unnamed).mpr noData] at event
    exact List.cons_ne_nil _ _ (List.append_right_eq_self.mp event.symm)
  have line : client.line = [] := by
    by_cases ended : colon ∈ client.line
    · rw [fieldName_append_of_mem ended] at named other
      exact absurd named other
    · rw [fieldName_append_of_not_mem ended] at named
      exact List.append_left_eq_self.mp named
  rw [takeFrame_events_of_data named] at event
  have same := List.append_cancel_left event
  exact ⟨line, noData, congrArg ServerEvent.type (List.cons.inj same).1⟩

end Client

end EventStream

end LocalGpuCluster
