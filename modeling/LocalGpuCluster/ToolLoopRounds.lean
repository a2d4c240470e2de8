/-
This file proves what the tool loops keep of a conversation. Neither asks the chat unit more often than
it may, and what they append to the client's messages comes in rounds: a message that makes calls, and
directly after it one result for each call, under its id. That holds whatever the chat unit and the
tools do. That a stream ends with one `[DONE]` does not: what is raised on a turn and not caught leaves
the stream without its end, and the file says exactly when that is.
-/

import LocalGpuCluster.ToolLoop
import LocalGpuCluster.ToolStreamReads

namespace LocalGpuCluster

namespace ToolLoop

open AnswerStrip (Strip)
open StreamRelay (degradedFrame doneFrame ping)
open TurnLoop (Turn repeatTurns Comes)

/-! ### Conversations -/

/-- A message with the result of a call, under an id that is not empty. -/
def Answers (call result : Json) : Prop :=
  ∃ fields message, call = .obj fields ∧ result = .obj message ∧
    Json.getIn message (text "role") = .str (text "tool") ∧
    Json.getIn message (text "tool_call_id") = Json.getIn fields (text "id") ∧
    (Json.getIn fields (text "id")).truthy = true

/-- Messages that come in rounds: one that makes calls, and right after it a result for each call, in
their order. -/
inductive Rounds : List Json → Prop
  | none : Rounds []
  | round {earlier : List Json} {assistant : Fields} {calls results : List Json} : Rounds earlier →
      Json.getIn assistant (text "tool_calls") = .arr calls → List.Forall₂ Answers calls results →
      Rounds (earlier ++ .obj assistant :: results)

/-- The client's messages as they were, and rounds after them. -/
def Conversed (client messages : List Json) : Prop :=
  ∃ appended, messages = client ++ appended ∧ Rounds appended

/-- At most so many message lists were sent, and each is such a conversation. -/
structure WellKept {Kept : Type} (client : List Json) (bound : ℕ) (loop : Loop Kept) : Prop where
  few : loop.sent.length ≤ bound
  conversed : ∀ messages ∈ loop.sent, Conversed client messages

/-- The frames end with `[DONE]`, which stands nowhere else. -/
def EndsOnce (frames : List Text) : Prop :=
  ∃ front, frames = front ++ [doneFrame] ∧ doneFrame ∉ front

/-- Both loops keep the conversation, and the stream ends with exactly one `[DONE]`. -/
def KeepsConversations (host : Host) (strip : Strip) (body : Fields)
    (streamed : ℕ → Fields → Streamed) (posted : ℕ → Fields → Posted) : Prop :=
  let client := (messagesOf body).getD []
  let stream := toolLoopStream host strip body streamed
  let whole := toolLoopNonstream host strip body posted
  WellKept client host.maxToolIterations stream.state ∧
    WellKept client host.maxToolIterations whole.state ∧ EndsOnce stream.state.kept

/-! ### When nothing escapes -/

/-- The arguments of a call are read or refused as JSON, and its result can be summarised. -/
structure CallSettles (host : Host) (place : ℕ × ℕ) (call : ToolCall) : Prop where
  loads : ∀ tool, call.name = .str tool → tool ∈ toolNames → call.arguments ≠ [] →
    host.json.loads call.arguments ≠ .error .digits ∧ host.json.loads call.arguments ≠ .error .depth
  summarized : ∀ result, dispatchTool host place call.name (.str call.arguments) = some result →
    (summarizeToolResult host result).isSome

/-- On this turn the connection fails with no exception that the loop does not catch, and every call
that a complete answer makes settles. -/
def TurnSettles (host : Host) (strip : Strip) (body : Fields) (streamed : ℕ → Fields → Streamed)
    (loop : Loop (List Text)) : Prop :=
  host.late loop.iteration = false →
    match streamed loop.iteration (requestOf host body true loop.messages) with
    | .fails caught => caught = true
    | .answers status decoder chunks ending => status < 500 →
        ending ≠ .fails false ∧
          let reading := readAnswer host.json strip decoder chunks true
          (ending = .complete → isToolCalls reading.finishReason = true →
            ∀ entry ∈ reading.calls.finalize.zipIdx,
              CallSettles host (loop.iteration, entry.2) entry.1)

/-- The body has messages, and every turn that the stream comes to settles. -/
def Settles (host : Host) (strip : Strip) (body : Fields) (streamed : ℕ → Fields → Streamed) : Prop :=
  ∃ messages, messagesOf body = some messages ∧
    ∀ done < host.maxToolIterations, ∀ loop,
      Comes (streamTurn host strip body streamed) ⟨0, messages, [], [ping]⟩ done loop →
        TurnSettles host strip body streamed loop

/-- The chunks of an answer are well formed. -/
def WellFormed (json : JsonModule) : Streamed → Prop
  | .fails _ => True
  | .answers _ decoder chunks ending =>
      ∀ event ∈ eventsOf (aiterText decoder chunks (ending = .complete)).flatten,
        WellFormedEvent json event

/-! ### Rounds -/

section Rounds

variable {host : Host}

/-- The id of a call, once it is made sure that there is one. -/
theorem truthy_ensureToolCallId (place : ℕ × ℕ) (call : Fields) :
    (Json.getIn (ensureToolCallId host place call) (text "id")).truthy = true := by
  unfold ensureToolCallId
  split
  · rename_i present
    exact present
  · rw [Json.getIn, Json.lookup_setIn_self]
    rfl

theorem toolMessage_answers {place : ℕ × ℕ} {call : Fields} {message : Json}
    (present : (Json.getIn call (text "id")).truthy = true)
    (made : toolMessage host place call = some message) : Answers (.obj call) message := by
  unfold toolMessage at made
  split at made
  · obtain ⟨result, _, rest⟩ := Option.bind_eq_some_iff.mp made
    obtain ⟨_, _, rest⟩ := Option.bind_eq_some_iff.mp rest
    obtain ⟨_, _, rest⟩ := Option.bind_eq_some_iff.mp rest
    cases rest
    exact ⟨call, _, rfl, rfl, by rw [Json.getIn, List.lookup_cons_self]; rfl, rfl, present⟩
  · cases made

theorem forall₂_of_mapM {Item Value : Type} {make : Item → Option Value} {items : List Item}
    {values : List Value} (made : items.mapM make = some values) :
    List.Forall₂ (fun item value => make item = some value) items values := by
  induction items generalizing values with
  | nil =>
    cases made
    exact .nil
  | cons item rest inductionHypothesis =>
    rw [List.mapM_cons] at made
    obtain ⟨value, here, later⟩ := Option.bind_eq_some_iff.mp made
    obtain ⟨others, there, done⟩ := Option.bind_eq_some_iff.mp later
    cases done
    exact .cons here (inductionHypothesis there)

/-- There is one result for each call, in their order. -/
theorem toolMessages_answer {iteration : ℕ} {found : List Fields} {results : List Json}
    (made : toolMessages host iteration (ensureToolCallIds host iteration found) = some results) :
    List.Forall₂ Answers ((ensureToolCallIds host iteration found).map .obj) results := by
  have present : ∀ entry ∈ (ensureToolCallIds host iteration found).zipIdx,
      (Json.getIn entry.1 (text "id")).truthy = true := by
    intro entry member
    obtain ⟨index, bound, same⟩ := List.mem_mapIdx.mp (List.fst_mem_of_mem_zipIdx member)
    rw [← same]
    exact truthy_ensureToolCallId _ _
  have paired := forall₂_of_mapM made
  rw [← List.zipIdx_map_fst (l := ensureToolCallIds host iteration found) (i := 0), List.map_map,
    List.forall₂_map_left_iff]
  refine (List.forall₂_and_left _ _ |>.mpr ⟨present, paired⟩).imp fun entry message both => ?_
  exact toolMessage_answers both.1 both.2

/-- What a turn does to the messages: it asks at most once, with those it has, and where the loop goes
on they are one round longer. -/
inductive Moves {Kept Result : Type} (loop : Loop Kept) : Turn (Loop Kept) Result → Prop
  | again {next : Loop Kept} {assistant : Fields} {calls results : List Json} :
      next.sent = loop.sent ++ [loop.messages] →
      next.messages = loop.messages ++ .obj assistant :: results →
      Json.getIn assistant (text "tool_calls") = .arr calls → List.Forall₂ Answers calls results →
      Moves loop (.again next)
  | returns {last : Loop Kept} {result : Result} :
      last.sent = loop.sent ∨ last.sent = loop.sent ++ [loop.messages] →
      Moves loop (.returns last result)
  | raises {last : Loop Kept} : last.sent = loop.sent ∨ last.sent = loop.sent ++ [loop.messages] →
      Moves loop (.raises last)

theorem Moves.sent {Kept Result : Type} {loop : Loop Kept} {turn : Turn (Loop Kept) Result}
    (moves : Moves loop turn) :
    turn.state.sent = loop.sent ∨ turn.state.sent = loop.sent ++ [loop.messages] := by
  cases moves with
  | again sent => exact Or.inr sent
  | returns sent => exact sent
  | raises sent => exact sent

/-- A loop that has made so many turns has asked so often, each time with a conversation. -/
structure Underway {Kept : Type} (client : List Json) (count : ℕ) (loop : Loop Kept) : Prop where
  count : loop.sent.length = count
  messages : Conversed client loop.messages
  sent : ∀ messages ∈ loop.sent, Conversed client messages

/-- Turns that move so keep the conversation, however the loop ends. -/
theorem wellKept_repeatTurns {Kept Result : Type} {turn : Loop Kept → Turn (Loop Kept) Result}
    (moves : ∀ loop, Moves loop (turn loop)) {client : List Json} {start : Loop Kept}
    (first : Underway client 0 start) (bound : ℕ) :
    WellKept client bound (repeatTurns turn bound start).state := by
  have keeps : ∀ {count : ℕ} {loop next : Loop Kept}, Underway client count loop →
      turn loop = .again next → Underway client (count + 1) next := by
    intro count loop next underway goesOn
    have moved := moves loop
    rw [goesOn] at moved
    cases moved with
    | @again _ assistant calls results sent messages called answered =>
      obtain ⟨appended, same, rounds⟩ := underway.messages
      refine ⟨?_, ⟨appended ++ .obj assistant :: results, ?_, rounds.round called answered⟩, ?_⟩
      · rw [sent, List.length_append, underway.count, List.length_singleton]
      · rw [messages, same, List.append_assoc]
      · rw [sent]
        exact List.forall_mem_append.mpr ⟨underway.sent, List.forall_mem_singleton.mpr
          underway.messages⟩
  obtain ⟨loop, comes, same⟩ | ⟨done, less, loop, comes, same, _⟩ :=
    TurnLoop.repeatTurns_cases turn bound start
  · have underway : Underway client bound loop := comes.invariant first keeps
    rw [same]
    exact ⟨Nat.le_of_eq underway.count, underway.sent⟩
  · have underway : Underway client done loop := comes.invariant first keeps
    rw [same]
    obtain quiet | asked := (moves loop).sent
    · exact ⟨by rw [quiet, underway.count]; exact Nat.le_of_lt less, quiet ▸ underway.sent⟩
    · refine ⟨?_, ?_⟩
      · rw [asked, List.length_append, underway.count, List.length_singleton]
        exact less
      · rw [asked]
        exact List.forall_mem_append.mpr ⟨underway.sent, List.forall_mem_singleton.mpr
          underway.messages⟩

theorem underway_start {Kept : Type} (messages : List Json) (kept : Kept) :
    Underway messages 0 (⟨0, messages, [], kept⟩ : Loop Kept) :=
  ⟨rfl, ⟨[], (List.append_nil _).symm, .none⟩, fun _ member => absurd member List.not_mem_nil⟩

end Rounds

/-! ### The two loops -/

section Loops

variable (host : Host) (strip : Strip) (body : Fields)

theorem streamTurn_moves (streamed : ℕ → Fields → Streamed) (loop : Loop (List Text)) :
    Moves loop (streamTurn host strip body streamed loop) := by
  unfold streamTurn
  split
  · exact .returns (Or.inl rfl)
  · split
    · exact .returns (Or.inr rfl)
    · exact .raises (Or.inr rfl)
    · split
      · exact .returns (Or.inr rfl)
      · dsimp only
        split
        · exact .raises (Or.inr rfl)
        · split
          · exact .returns (Or.inr rfl)
          · exact .raises (Or.inr rfl)
          · unfold afterAnswer
            split
            · dsimp only
              split
              · rename_i made
                exact .again rfl rfl rfl (toolMessages_answer made)
              · exact .raises (Or.inr rfl)
            · split
              · split
                · exact .returns (Or.inr rfl)
                · exact .raises (Or.inr rfl)
              · exact .returns (Or.inr rfl)

theorem lastAnswer_moves (loop : Loop Fields) (data : Fields) (taken : Taken) :
    Moves loop (lastAnswer strip loop.asked data taken) := by
  unfold lastAnswer
  split
  · exact .returns (Or.inr rfl)
  · exact .returns (Or.inr rfl)
  · split
    · exact .raises (Or.inr rfl)
    · exact .returns (Or.inr rfl)

theorem wholeTurn_moves (posted : ℕ → Fields → Posted) (loop : Loop Fields) :
    Moves loop (wholeTurn host strip body posted loop) := by
  unfold wholeTurn
  split
  · exact .returns (Or.inl rfl)
  · split
    · exact .returns (Or.inr rfl)
    · exact .returns (Or.inr rfl)
    · exact .raises (Or.inr rfl)
    · split
      · unfold afterData
        split
        · split
          · exact .raises (Or.inr rfl)
          · dsimp only
            split
            · rename_i made
              refine .again rfl rfl ?_ (toolMessages_answer made)
              rw [Json.getIn, Json.lookup_setIn_self]
              rfl
            · exact .raises (Or.inr rfl)
        · exact lastAnswer_moves strip loop _ _
      · exact .raises (Or.inr rfl)
    · exact .raises (Or.inr rfl)

theorem exceeded_sent (loop : Loop (List Text)) : (exceeded host loop).state.sent = loop.sent := by
  unfold exceeded
  split <;> rfl

theorem annotated_sent (loop : Loop Fields) : (annotated host loop).state.sent = loop.sent := by
  unfold annotated
  split
  · dsimp only
    split
    · split <;> rfl
    · rfl
  · split <;> rfl

/-- Whatever happens, the streaming loop keeps the conversation. -/
theorem toolLoopStream_wellKept (streamed : ℕ → Fields → Streamed) :
    WellKept ((messagesOf body).getD []) host.maxToolIterations
      (toolLoopStream host strip body streamed).state := by
  unfold toolLoopStream
  cases messagesOf body with
  | none => exact ⟨Nat.zero_le _, fun _ member => absurd member List.not_mem_nil⟩
  | some messages =>
    have kept := wellKept_repeatTurns (streamTurn_moves host strip body streamed)
      (underway_start messages [ping]) host.maxToolIterations
    dsimp only
    split
    · rename_i loop ended
      rw [ended] at kept
      exact ⟨(exceeded_sent host loop).symm ▸ kept.few,
        (exceeded_sent host loop).symm ▸ kept.conversed⟩
    · exact kept

/-- Whatever happens, the other loop keeps the conversation. -/
theorem toolLoopNonstream_wellKept (posted : ℕ → Fields → Posted) :
    WellKept ((messagesOf body).getD []) host.maxToolIterations
      (toolLoopNonstream host strip body posted).state := by
  unfold toolLoopNonstream
  cases messagesOf body with
  | none => exact ⟨Nat.zero_le _, fun _ member => absurd member List.not_mem_nil⟩
  | some messages =>
    have kept := wellKept_repeatTurns (wholeTurn_moves host strip body posted)
      (underway_start messages []) host.maxToolIterations
    dsimp only
    split
    · rename_i loop ended
      rw [ended] at kept
      exact ⟨(annotated_sent host loop).symm ▸ kept.few,
        (annotated_sent host loop).symm ▸ kept.conversed⟩
    · exact kept

end Loops

/-! ### The end of the stream -/

theorem not_isChunk_doneFrame : ¬ IsChunk doneFrame := by
  rintro ⟨rest, same⟩
  have after : text "[DONE]" ++ [EventStream.lineFeed, EventStream.lineFeed] =
      JsonText.openBrace :: rest :=
    congrArg (List.drop 6) same
  have bracket := (List.cons.inj after).1
  exact absurd (congrArg Fin.val bracket) (by decide)

/-- A turn as the client sees it: `[DONE]` is sent where the loop returns, last of all, and nowhere
else. -/
inductive Shows (frames : List Text) : Turn (Loop (List Text)) Unit → Prop
  | again {next : Loop (List Text)} {more : List Text} : next.kept = frames ++ more →
      doneFrame ∉ more → Shows frames (.again next)
  | returns {last : Loop (List Text)} {more : List Text} :
      last.kept = frames ++ more ++ [doneFrame] → doneFrame ∉ more → Shows frames (.returns last ())
  | raises {last : Loop (List Text)} {more : List Text} : last.kept = frames ++ more →
      doneFrame ∉ more → Shows frames (.raises last)

section Frames

variable (host : Host) (strip : Strip) (body : Fields)

theorem not_mem_of_chunks {frames : List Text} (chunks : ∀ frame ∈ frames, IsChunk frame) :
    doneFrame ∉ frames :=
  fun member => not_isChunk_doneFrame (chunks _ member)

theorem isChunk_degradedFrame : IsChunk degradedFrame := by
  have body : StreamRelay.degradedBody = JsonText.openBrace :: StreamRelay.degradedBody.drop 1 := rfl
  refine ⟨StreamRelay.degradedBody.drop 1 ++ [EventStream.lineFeed, EventStream.lineFeed], ?_⟩
  rw [degradedFrame, List.append_assoc, ← List.cons_append, ← body]

theorem afterAnswer_shows {loop : Loop (List Text)} {frames more : List Text} (reading : Reading)
    (kept : loop.kept = frames ++ more) (chunks : ∀ frame ∈ more, IsChunk frame) :
    Shows frames (afterAnswer host loop reading) := by
  unfold afterAnswer
  split
  · dsimp only
    split
    · exact .again kept (not_mem_of_chunks chunks)
    · exact .raises kept (not_mem_of_chunks chunks)
  · split
    · split
      · rename_i frame framed
        have both : ∀ other ∈ more ++ [frame], IsChunk other :=
          List.forall_mem_append.mpr ⟨chunks, List.forall_mem_singleton.mpr (isChunk_frameOf framed)⟩
        refine .returns ?_ (not_mem_of_chunks both)
        rw [Loop.yields, kept, List.append_assoc, List.append_assoc, List.append_assoc]
        rfl
      · exact .raises kept (not_mem_of_chunks chunks)
    · refine .returns ?_ (not_mem_of_chunks chunks)
      rw [Loop.yields, kept]

theorem streamTurn_shows (streamed : ℕ → Fields → Streamed) (loop : Loop (List Text)) :
    Shows loop.kept (streamTurn host strip body streamed loop) := by
  have degraded : doneFrame ∉ [degradedFrame] :=
    not_mem_of_chunks (List.forall_mem_singleton.mpr isChunk_degradedFrame)
  have none : doneFrame ∉ ([] : List Text) := List.not_mem_nil
  have closes (last : Loop (List Text)) (more : List Text) (kept : last.kept = loop.kept ++ more)
      (fresh : doneFrame ∉ more) :
      Shows loop.kept (.returns (last.yields [degradedFrame, doneFrame]) ()) := by
    have both : doneFrame ∉ more ++ [degradedFrame] := fun member =>
      (List.mem_append.mp member).elim fresh degraded
    refine .returns ?_ both
    rw [Loop.yields, kept, List.append_assoc, List.append_assoc, List.append_assoc]
    rfl
  have start : loop.kept = loop.kept ++ [] := (List.append_nil _).symm
  unfold streamTurn
  split
  · exact closes loop [] start none
  · split
    · exact closes loop.asked [] start none
    · exact .raises start none
    · rename_i status decoder chunks ending _
      split
      · exact closes loop.asked [] start none
      · have sent := readAnswer_sent host.json strip decoder chunks (decide (ending = .complete))
        dsimp only
        split
        · exact .raises rfl (not_mem_of_chunks sent)
        · split
          · exact closes _ _ rfl (not_mem_of_chunks sent)
          · exact .raises rfl (not_mem_of_chunks sent)
          · exact afterAnswer_shows host _ rfl sent

theorem exceeded_shows (loop : Loop (List Text)) :
    ∃ last, exceeded host loop = .returns last () ∧
      ∃ more, last.kept = loop.kept ++ more ++ [doneFrame] ∧ doneFrame ∉ more := by
  have choice : ∀ entry ∈ [(text "index", Json.int 0)], Plain entry.2 :=
    List.forall_iff_forall_mem.mp (show (decimal 0).length ≤ 4300 by decide)
  have object : ∀ entry ∈ [(text "object", Json.str (text "chat.completion.chunk"))],
      Plain entry.2 := List.forall_iff_forall_mem.mp trivial
  have delta : ∀ entry ∈ [(text "content", Json.str maxIterationsNote)], Plain entry.2 :=
    List.forall_iff_forall_mem.mp trivial
  obtain ⟨written, dumped⟩ := Option.isSome_iff_exists.mp (dumps_nested host.json
    object choice delta (.str (text "stop")) trivial)
  have framed : frameOf host.json (finalChunk [(text "content", .str maxIterationsNote)]
      (.str (text "stop"))) = some (text "data: " ++ written ++ newline ++ newline) :=
    congrArg (Option.map _) dumped
  rw [exceeded, framed]
  refine ⟨_, rfl, [_], ?_,
    not_mem_of_chunks (List.forall_mem_singleton.mpr (isChunk_frameOf framed))⟩
  exact (List.append_assoc loop.kept [_] [doneFrame]).symm

theorem doneFrame_not_mem_kept {streamed : ℕ → Fields → Streamed} {start loop : Loop (List Text)}
    {count : ℕ} (comes : Comes (streamTurn host strip body streamed) start count loop)
    (first : doneFrame ∉ start.kept) : doneFrame ∉ loop.kept := by
  have keeps : ∀ {loop next : Loop (List Text)}, doneFrame ∉ loop.kept →
      streamTurn host strip body streamed loop = .again next → doneFrame ∉ next.kept := by
    intro loop next fresh goesOn
    have shown := streamTurn_shows host strip body streamed loop
    rw [goesOn] at shown
    cases shown with
    | again kept more =>
      rw [kept]
      exact fun member => (List.mem_append.mp member).elim fresh more
  let Fresh (_ : ℕ) (loop : Loop (List Text)) : Prop := doneFrame ∉ loop.kept
  have fresh : Fresh count loop := comes.invariant (show Fresh 0 start from first) fun fresh goesOn =>
    keeps fresh goesOn
  exact fresh

end Frames

/-! ### What is raised and not caught -/

section Raises

variable (host : Host) (strip : Strip) (body : Fields)

theorem errorText_isSome {error : String} {more : Fields} (plain : ∀ entry ∈ more, Plain entry.2) :
    (errorText host error more).isSome :=
  dumps_flat (List.forall_mem_cons.mpr ⟨trivial, plain⟩)

theorem execute_isSome (place : ℕ × ℕ) (name : Text) (args : Fields) :
    (runTool.execute host place name args).isSome := by
  unfold runTool.execute
  split
  · rfl
  · exact errorText_isSome host (List.forall_iff_forall_mem.mp ⟨trivial, trivial⟩)

theorem runTool_isSome_iff (place : ℕ × ℕ) (name arguments : Text) :
    (runTool host place name (.str arguments)).isSome ↔ (arguments ≠ [] →
      host.json.loads arguments ≠ .error .digits ∧ host.json.loads arguments ≠ .error .depth) := by
  cases arguments with
  | nil => exact iff_of_true (execute_isSome host place name []) fun present => absurd rfl present
  | cons point rest =>
    rw [runTool]
    rw [imp_iff_right (List.cons_ne_nil point rest)]
    cases loaded : host.json.loads (point :: rest) with
    | ok value =>
      refine iff_of_true ?_ ⟨nofun, nofun⟩
      cases value with
      | obj args => exact execute_isSome host place name args
      | _ => exact errorText_isSome host fun _ member => absurd member List.not_mem_nil
    | error raised =>
      cases raised with
      | decode =>
        exact iff_of_true (errorText_isSome host (List.forall_mem_singleton.mpr trivial))
          ⟨nofun, nofun⟩
      | digits => exact iff_of_false Bool.false_ne_true fun both => both.1 rfl
      | depth => exact iff_of_false Bool.false_ne_true fun both => both.2 rfl
    exact nofun

/-- Dispatching a call raises exactly where its arguments are neither read nor refused as JSON. -/
theorem dispatchTool_isSome_iff (place : ℕ × ℕ) {name : Json} (textual : IsText name)
    (arguments : Text) : (dispatchTool host place name (.str arguments)).isSome ↔
      ∀ tool, name = .str tool → tool ∈ toolNames → arguments ≠ [] →
        host.json.loads arguments ≠ .error .digits ∧
          host.json.loads arguments ≠ .error .depth := by
  obtain rfl | ⟨tool, rfl⟩ := textual
  · refine iff_of_true ?_ fun _ same => nomatch same
    exact errorText_isSome host (List.forall_mem_singleton.mpr trivial)
  · rw [dispatchTool, keyOf]
    dsimp only
    split
    · rename_i known
      rw [runTool_isSome_iff]
      exact ⟨fun settles _ same _ => settles, fun settles => settles tool rfl known⟩
    · rename_i unknown
      refine iff_of_true (errorText_isSome host (List.forall_mem_singleton.mpr trivial)) ?_
      rintro other ⟨⟩ known
      exact absurd known unknown

/-- A call of a stream, once it has its id. -/
theorem toolMessage_isSome_iff (place : ℕ × ℕ) {call : ToolCall} (textual : IsText call.name) :
    (toolMessage host place (ensureToolCallId host place call.fields)).isSome ↔
      CallSettles host place call := by
  have field : Json.getIn (ensureToolCallId host place call.fields) (text "function") =
      .obj [(text "name", call.name), (text "arguments", .str call.arguments)] := by
    have original : Json.getIn call.fields (text "function") =
        .obj [(text "name", call.name), (text "arguments", .str call.arguments)] := rfl
    unfold ensureToolCallId
    split
    · exact original
    · rw [Json.getIn, Json.lookup_setIn_of_ne (by decide)]
      exact original
  have size : (lengthOf (Json.orElse (.str call.arguments) (.str []))).isSome := by
    unfold Json.orElse
    split <;> rfl
  obtain ⟨length, sized⟩ := Option.isSome_iff_exists.mp size
  have dispatched := dispatchTool_isSome_iff host place textual call.arguments
  rw [toolMessage, field]
  show (dispatchTool host place call.name (.str call.arguments) >>= fun result =>
    lengthOf (Json.orElse (.str call.arguments) (.str [])) >>= fun _ =>
      summarizeToolResult host result >>= fun _ => _).isSome ↔ _
  rw [sized]
  cases ran : dispatchTool host place call.name (.str call.arguments) with
  | none =>
    refine iff_of_false Bool.false_ne_true fun settles => ?_
    rw [ran] at dispatched
    exact Bool.false_ne_true (dispatched.mpr settles.loads)
  | some result =>
    rw [ran] at dispatched
    cases summary : summarizeToolResult host result with
    | none =>
      refine iff_of_false (by simp [summary]) fun settles => ?_
      have summarized := settles.summarized result ran
      rw [summary] at summarized
      exact Bool.false_ne_true summarized
    | some shown =>
      refine iff_of_true (by simp [summary]) ⟨dispatched.mp rfl, fun other same => ?_⟩
      rw [ran] at same
      cases same
      rw [summary]
      rfl

theorem mapM_isSome_iff {Item Value : Type} {make : Item → Option Value} {items : List Item} :
    (items.mapM make).isSome ↔ ∀ item ∈ items, (make item).isSome := by
  refine ⟨fun made item member => ?_, mapM_isSome⟩
  obtain ⟨values, same⟩ := Option.isSome_iff_exists.mp made
  have each := forall₂_of_mapM same
  clear made same
  induction each with
  | nil => cases member
  | cons here _ inductionHypothesis =>
    obtain rfl | later := List.mem_cons.mp member
    · rw [here]
      rfl
    · exact inductionHypothesis later

theorem mem_finalize {calls : ToolCallAccumulator} {call : ToolCall} (member : call ∈ calls.finalize) :
    ∃ entry ∈ calls, entry.2 = call :=
  List.mem_map.mp member

/-- All calls of an answer get their results exactly where each of them settles. -/
theorem toolMessages_isSome_iff (iteration : ℕ) {reading : Reading} (sound : Sound reading) :
    (toolMessages host iteration (madeCalls host iteration reading)).isSome ↔
      ∀ entry ∈ reading.calls.finalize.zipIdx, CallSettles host (iteration, entry.2) entry.1 := by
  have textual : ∀ entry ∈ reading.calls.finalize.zipIdx, IsText entry.1.name := by
    intro entry member
    obtain ⟨listed, inCalls, same⟩ := mem_finalize (List.fst_mem_of_mem_zipIdx member)
    exact same ▸ (sound.calls listed inCalls).2
  have made : (madeCalls host iteration reading).zipIdx = reading.calls.finalize.zipIdx.map
      fun entry => (ensureToolCallId host (iteration, entry.2) entry.1.fields, entry.2) := by
    refine List.ext_getElem? fun index => ?_
    simp [madeCalls, ensureToolCallIds, List.getElem?_zipIdx, List.getElem?_mapIdx, Function.comp_def]
  rw [toolMessages, mapM_isSome_iff, made, List.forall_mem_map]
  exact forall₂_congr fun entry member => toolMessage_isSome_iff host _ (textual entry member)

/-- The last frames of a sound reading are written. -/
theorem afterLast_quiet {loop : Loop (List Text)} {reading : Reading} (sound : Sound reading) :
    ¬ ∃ last, (if reading.finishReason.truthy then
        match frameOf host.json (finalChunk [] reading.finishReason) with
        | some frame => Turn.returns (loop.yields [frame, doneFrame]) ()
        | none => .raises loop
      else .returns (loop.yields [doneFrame]) ()) = .raises last := by
  have choice : ∀ entry ∈ [(text "index", Json.int 0)], Plain entry.2 :=
    List.forall_iff_forall_mem.mp (show (decimal 0).length ≤ 4300 by decide)
  have object : ∀ entry ∈ [(text "object", Json.str (text "chat.completion.chunk"))],
      Plain entry.2 := List.forall_iff_forall_mem.mp trivial
  have reason : Plain reading.finishReason := by
    obtain none | ⟨content, same⟩ := sound.finishReason
    · rw [none]; trivial
    · rw [same]; trivial
  obtain ⟨written, dumped⟩ := Option.isSome_iff_exists.mp (dumps_nested host.json
    object choice (fun _ member => absurd member List.not_mem_nil) reading.finishReason reason)
  have framed : frameOf host.json (finalChunk [] reading.finishReason) =
      some (text "data: " ++ written ++ newline ++ newline) := congrArg (Option.map _) dumped
  rintro ⟨last, raised⟩
  rw [framed] at raised
  split at raised <;> cases raised

theorem afterAnswer_raises_iff {loop : Loop (List Text)} {reading : Reading} (sound : Sound reading) :
    (∃ last, afterAnswer host loop reading = .raises last) ↔
      ¬ (isToolCalls reading.finishReason = true → ∀ entry ∈ reading.calls.finalize.zipIdx,
        CallSettles host (loop.iteration, entry.2) entry.1) := by
  have settled := toolMessages_isSome_iff host loop.iteration sound
  unfold afterAnswer
  cases called : isToolCalls reading.finishReason with
  | true =>
    rw [imp_iff_right rfl, ← settled, Bool.true_and]
    cases any : reading.calls.hasAny with
    | true =>
      rw [if_pos rfl]
      dsimp only
      cases made : toolMessages host loop.iteration (madeCalls host loop.iteration reading) with
      | none => exact iff_of_true ⟨loop, rfl⟩ Bool.false_ne_true
      | some results => exact iff_of_false (fun ⟨_, raised⟩ => nomatch raised) fun none => none rfl
    | false =>
      -- Without calls there are no results to wait for, and a string is written.
      have empty : reading.calls = [] := by
        rw [ToolCallAccumulator.hasAny, Bool.not_eq_false'] at any
        exact List.isEmpty_iff.mp any
      have nothing : (toolMessages host loop.iteration
          (madeCalls host loop.iteration reading)).isSome :=
        settled.mpr (by rw [empty]; exact fun _ member => absurd member List.not_mem_nil)
      rw [if_neg Bool.false_ne_true]
      exact iff_of_false (afterLast_quiet host sound) fun none => none nothing
  | false =>
    rw [Bool.false_and, if_neg Bool.false_ne_true]
    exact iff_of_false (afterLast_quiet host sound) fun settles => settles nofun

/-- A turn raises exactly where it does not settle. -/
theorem streamTurn_raises_iff {streamed : ℕ → Fields → Streamed} {loop : Loop (List Text)}
    (wellFormed : ∀ iteration request, WellFormed host.json (streamed iteration request)) :
    (∃ last, streamTurn host strip body streamed loop = .raises last) ↔
      ¬ TurnSettles host strip body streamed loop := by
  have formed := wellFormed loop.iteration (requestOf host body true loop.messages)
  unfold streamTurn TurnSettles
  cases late : host.late loop.iteration with
  | true => exact iff_of_false (fun ⟨_, raised⟩ => nomatch raised) fun settles => settles nofun
  | false =>
    rw [if_neg Bool.false_ne_true, imp_iff_right rfl]
    cases asked : streamed loop.iteration (requestOf host body true loop.messages) with
    | fails caught =>
      cases caught with
      | true => exact iff_of_false (fun ⟨_, raised⟩ => nomatch raised) fun settles => settles rfl
      | false => exact iff_of_true ⟨_, rfl⟩ Bool.false_ne_true
    | answers status decoder chunks ending =>
      rw [asked] at formed
      dsimp only
      by_cases broken : 500 ≤ status
      · rw [if_pos broken]
        exact iff_of_false (fun ⟨_, raised⟩ => nomatch raised) fun settles =>
          settles fun below => absurd broken (Nat.not_le.mpr below)
      · have sound := readAnswer_sound formed strip
        rw [if_neg broken, imp_iff_right (Nat.lt_of_not_le broken),
          if_neg (ne_true_of_eq_false sound.quiet)]
        cases ending with
        | fails caught =>
          cases caught with
          | true =>
            exact iff_of_false (fun ⟨_, raised⟩ => nomatch raised) fun settles =>
              settles ⟨nofun, nofun⟩
          | false => exact iff_of_true ⟨_, rfl⟩ fun both => both.1 rfl
        | complete =>
          refine (afterAnswer_raises_iff host sound).trans (not_congr ?_)
          exact ⟨fun settles => ⟨nofun, fun _ => settles⟩, fun both => both.2 rfl⟩

/-- The stream ends with one `[DONE]` exactly where it does not raise. -/
theorem endsOnce_iff (streamed : ℕ → Fields → Streamed) :
    EndsOnce (toolLoopStream host strip body streamed).state.kept ↔
      ∃ messages, messagesOf body = some messages ∧
        ¬ ∃ last, repeatTurns (streamTurn host strip body streamed) host.maxToolIterations
          ⟨0, messages, [], [ping]⟩ = .raises last := by
  have pinged : doneFrame ∉ [ping] := fun member => absurd (List.mem_singleton.mp member) (by decide)
  have fails {frames : List Text} (without : doneFrame ∉ frames) : ¬ EndsOnce frames := by
    rintro ⟨front, rfl, _⟩
    exact without (List.mem_append_right _ (List.mem_singleton_self _))
  have ends {frames more : List Text} (fresh : doneFrame ∉ frames) (none : doneFrame ∉ more) :
      EndsOnce (frames ++ more ++ [doneFrame]) :=
    ⟨frames ++ more, rfl, fun member => (List.mem_append.mp member).elim fresh none⟩
  unfold toolLoopStream
  cases messagesOf body with
  | none => exact iff_of_false (fails pinged) fun ⟨_, same, _⟩ => nomatch same
  | some messages =>
    dsimp only
    have reduced : (∃ found, some messages = some found ∧
        ¬ ∃ last, repeatTurns (streamTurn host strip body streamed) host.maxToolIterations
          ⟨0, found, [], [ping]⟩ = .raises last) ↔
        ¬ ∃ last, repeatTurns (streamTurn host strip body streamed) host.maxToolIterations
          ⟨0, messages, [], [ping]⟩ = .raises last :=
      ⟨fun ⟨_, same, quiet⟩ => Option.some.inj same ▸ quiet, fun quiet => ⟨messages, rfl, quiet⟩⟩
    rw [reduced]
    obtain ⟨loop, comes, same⟩ | ⟨done, _, loop, comes, same, last⟩ :=
      TurnLoop.repeatTurns_cases (streamTurn host strip body streamed)
        host.maxToolIterations ⟨0, messages, [], [ping]⟩
    · have fresh := doneFrame_not_mem_kept host strip body comes pinged
      obtain ⟨final, returned, more, kept, none⟩ := exceeded_shows host loop
      rw [same]
      dsimp only
      rw [returned]
      refine iff_of_true ?_ fun ⟨_, raised⟩ => nomatch raised
      show EndsOnce final.kept
      exact kept ▸ ends fresh none
    · have fresh := doneFrame_not_mem_kept host strip body comes pinged
      have shown := streamTurn_shows host strip body streamed loop
      rw [same]
      cases ended : streamTurn host strip body streamed loop with
      | again next => exact absurd ended (last next)
      | returns final result =>
        rw [ended] at shown
        cases shown with
        | returns kept none =>
          refine iff_of_true ?_ fun ⟨_, raised⟩ => nomatch raised
          show EndsOnce final.kept
          exact kept ▸ ends fresh none
      | raises final =>
        rw [ended] at shown
        cases shown with
        | raises kept none =>
          refine iff_of_false ?_ fun quiet => quiet ⟨final, rfl⟩
          show ¬ EndsOnce final.kept
          exact fails (kept ▸ fun member => (List.mem_append.mp member).elim fresh none)

end Raises

/-- Whatever the chat unit answers in well-formed chunks and whatever the tools give, both loops keep
the conversation and the stream ends with exactly one `[DONE]`, exactly where the body has messages
and every turn the stream comes to settles. -/
theorem keepsConversations_iff (host : Host) (strip : Strip) (body : Fields)
    (streamed : ℕ → Fields → Streamed) (posted : ℕ → Fields → Posted)
    (wellFormed : ∀ iteration request, WellFormed host.json (streamed iteration request)) :
    KeepsConversations host strip body streamed posted ↔ Settles host strip body streamed := by
  have ended : EndsOnce (toolLoopStream host strip body streamed).state.kept ↔
      Settles host strip body streamed := by
    rw [endsOnce_iff]
    refine exists_congr fun messages => and_congr_right fun _ => ?_
    rw [TurnLoop.repeatTurns_raises_iff]
    constructor
    · intro quiet done bound loop comes
      by_contra unsettled
      exact quiet ⟨done, bound, loop, comes,
        (streamTurn_raises_iff host strip body wellFormed).mpr unsettled⟩
    · rintro settles ⟨done, bound, loop, comes, raised⟩
      exact (streamTurn_raises_iff host strip body wellFormed).mp raised
        (settles done bound loop comes)
  exact ⟨fun keeps => ended.mp keeps.2.2, fun settles =>
    ⟨toolLoopStream_wellKept host strip body streamed,
      toolLoopNonstream_wellKept host strip body posted, ended.mpr settles⟩⟩

/-! ### A call that escapes -/

/-- A chunk that makes one call. -/
def callChunk (arguments : Text) : Fields :=
  [(text "choices", .arr [.obj [
    (text "delta", .obj [(text "tool_calls", .arr [.obj [(text "index", .int 0),
      (text "id", .str (text "call_1")), (text "function", .obj [(text "name", .str (text "web_fetch")),
        (text "arguments", .str arguments)])]])]),
    (text "finish_reason", .str (text "tool_calls"))]])]

/-- A host whose only tool results are empty. -/
def plainHost : Host where
  json := ⟨⟨fun _ => [], fun _ => .notANumber⟩, JsonText.constantName, fun _ => [], 900, by decide⟩
  maxToolIterations := 10
  late _ := false
  uuid _ := []
  repr _ := some []
  schemas := .arr []
  handler _ _ _ := .ok []

/-- A request with one message. -/
def plainBody : Fields :=
  [(text "messages", .arr [.obj [(text "role", .str (text "user")),
    (text "content", .str (text "go"))]])]

/-- The frame of the chunk, as bytes. -/
def callBytes (arguments : Text) : List UInt8 :=
  bytesOf ((frameOf plainHost.json (.obj (callChunk arguments))).getD [])

/-- Every answer is that frame. -/
def calling (arguments : Text) (_ : ℕ) (_ : Fields) : Streamed :=
  .answers 200 utf8 [callBytes arguments] .complete

section Calling

variable {arguments : Text}

theorem dumps_callChunk (arguments : Text) :
    (plainHost.json.dumps (.obj (callChunk arguments))).isSome := by
  let written (limit : ℕ) := JsonText.write plainHost.json.floats plainHost.json.nonFinite limit
  have shown (content : Text) (limit : ℕ) : (written limit (.str content)).isSome :=
    write_plain (show Plain (.str content) from trivial)
  have index : (written 894 (.int 0)).isSome :=
    write_plain (show (decimal 0).length ≤ 4300 by decide)
  have function : (written 894 (.obj [(text "name", .str (text "web_fetch")),
      (text "arguments", .str arguments)])).isSome :=
    write_obj (List.forall_iff_forall_mem.mp ⟨shown _ 893, shown _ 893⟩)
  have call : (written 895 (.obj [(text "index", .int 0), (text "id", .str (text "call_1")),
      (text "function", .obj [(text "name", .str (text "web_fetch")),
        (text "arguments", .str arguments)])])).isSome :=
    write_obj (List.forall_iff_forall_mem.mp ⟨index, shown _ 894, function⟩)
  show (written 900 (.obj (callChunk arguments))).isSome
  refine write_obj (List.forall_mem_singleton.mpr (write_arr (List.forall_mem_singleton.mpr
    (write_obj (List.forall_iff_forall_mem.mp ⟨?_, shown _ 897⟩)))))
  exact write_obj (List.forall_mem_singleton.mpr (write_arr (List.forall_mem_singleton.mpr call)))

/-- An object whose keys are given apart. -/
theorem restorable_obj {floats : JsonText.FloatText} {entries : Fields} (names : List Text)
    (listed : entries.map Prod.fst = names) (distinct : names.Nodup)
    (low : (names.all fun name => name.all fun point => point.val < 0xD800) = true)
    (each : ∀ entry ∈ entries, JsonText.Restorable floats entry.2) :
    JsonText.Restorable floats (.obj entries) :=
  .obj (listed ▸ distinct) (fun _ member => JsonText.unpaired_of_low
    (List.all_eq_true.mp low _ (listed ▸ List.mem_map_of_mem member))) each

theorem restorable_callChunk (low : (arguments.all fun point => point.val < 0xD800) = true)
    (floats : JsonText.FloatText) : JsonText.Restorable floats (.obj (callChunk arguments)) := by
  have shown {content : Text} (low : (content.all fun point => point.val < 0xD800) = true) :
      JsonText.Restorable floats (.str content) := .str (JsonText.unpaired_of_low low)
  have function : JsonText.Restorable floats (.obj [(text "name", .str (text "web_fetch")),
      (text "arguments", .str arguments)]) :=
    restorable_obj [text "name", text "arguments"] rfl (by decide) (by decide)
      (List.forall_iff_forall_mem.mp ⟨shown (by decide), shown low⟩)
  have call : JsonText.Restorable floats (.obj [(text "index", .int 0),
      (text "id", .str (text "call_1")), (text "function", .obj [(text "name", .str (text "web_fetch")),
        (text "arguments", .str arguments)])]) :=
    restorable_obj [text "index", text "id", text "function"] rfl (by decide) (by decide)
      (List.forall_iff_forall_mem.mp ⟨.int 0, shown (by decide), function⟩)
  have delta : JsonText.Restorable floats (.obj [(text "tool_calls", .arr [.obj [
      (text "index", .int 0), (text "id", .str (text "call_1")),
      (text "function", .obj [(text "name", .str (text "web_fetch")),
        (text "arguments", .str arguments)])]])]) :=
    restorable_obj [text "tool_calls"] rfl (by decide) (by decide)
      (List.forall_mem_singleton.mpr (.arr (List.forall_mem_singleton.mpr call)))
  have choice : JsonText.Restorable floats (.obj [(text "delta", _),
      (text "finish_reason", .str (text "tool_calls"))]) :=
    restorable_obj [text "delta", text "finish_reason"] rfl (by decide) (by decide)
      (List.forall_iff_forall_mem.mp ⟨delta, shown (by decide)⟩)
  exact restorable_obj [text "choices"] rfl (by decide) (by decide)
    (List.forall_mem_singleton.mpr (.arr (List.forall_mem_singleton.mpr choice)))

theorem wellFormed_callChunk (arguments : Text) : WellFormedChunk (callChunk arguments) where
  id := trivial
  created := trivial
  model := trivial
  choices := by
    refine Or.inr ⟨_, rfl, List.forall_mem_singleton.mpr ⟨_, rfl, ?_, Or.inr ⟨_, rfl⟩⟩⟩
    refine Or.inr ⟨_, rfl, Or.inl rfl, Or.inr ⟨_, _, rfl, rfl, List.forall_mem_singleton.mpr ?_⟩⟩
    exact ⟨Or.inr ⟨_, rfl⟩, Or.inr ⟨_, rfl⟩⟩

/-- The answer makes the call, with these arguments. -/
theorem readAnswer_calling (low : (arguments.all fun point => point.val < 0xD800) = true)
    (strip : Strip) :
    WellFormed plainHost.json (calling arguments 0 []) ∧
      let reading := readAnswer plainHost.json strip utf8 [callBytes arguments] true
      reading.finishReason = .str (text "tool_calls") ∧
        reading.calls = [(.number 0, ⟨.str (text "call_1"), .str (text "web_fetch"), arguments⟩)] := by
  obtain ⟨written, dumped⟩ := Option.isSome_iff_exists.mp (dumps_callChunk arguments)
  have framed : callBytes arguments = bytesOf (text "data: " ++ written ++ newline ++ newline) := by
    rw [callBytes, frameOf, dumped]
    rfl
  obtain ⟨events, lines, isData, data, notDone, loaded⟩ :=
    reads_written JsonText.namesConstants_constantName (restorable_callChunk low _) dumped
  constructor
  · show ∀ event ∈ eventsOf (aiterText utf8 [callBytes arguments] true).flatten, _
    rw [framed, events]
    refine List.forall_mem_singleton.mpr ?_
    unfold WellFormedEvent
    rw [lines]
    refine List.forall_mem_singleton.mpr fun _ => ?_
    dsimp only
    rw [data]
    exact Or.inr (Or.inr ⟨_, loaded, wellFormed_callChunk arguments⟩)
  · have taken (reading : Reading) : takeLine plainHost.json strip reading (text "data: " ++ written) =
        takeChunk plainHost.json strip reading (callChunk arguments) := by
      rw [takeLine, if_pos isData]
      dsimp only
      rw [data, if_neg notDone, loaded]
    have read : readAnswer plainHost.json strip utf8 [callBytes arguments] true =
        takeEvent plainHost.json strip .start (text "data: " ++ written) := by
      rw [readAnswer_eq, framed, events]
      rfl
    rw [read, takeEvent, if_neg (by decide), lines, List.foldlM_cons, taken]
    exact ⟨rfl, rfl⟩

/-- A text of more ones than Python reads as an integer. -/
theorem loads_ones {floats : JsonText.FloatText} {limit count : ℕ} (many : JsonText.maxDigits < count) :
    JsonText.loads floats limit (List.replicate count 0x31) = .error .digits := by
  obtain ⟨more, rfl⟩ : ∃ more, count = more + 1 := ⟨count - 1, by omega⟩
  have digits : (List.replicate (more + 1) (0x31 : CodePoint)).takeWhile JsonText.isDigit =
      List.replicate (more + 1) 0x31 :=
    List.takeWhile_eq_self_iff.mpr fun point member => List.eq_of_mem_replicate member ▸ rfl
  have whole : JsonText.wholeOf (List.replicate (more + 1) 0x31) = List.replicate (more + 1) 0x31 := by
    have notZero : ¬ (List.replicate (more + 1) (0x31 : CodePoint)).head? = some 0x30 := fun same =>
      absurd (congrArg Fin.val (Option.some.inj same)) (by decide)
    rw [JsonText.wholeOf, if_neg notZero, digits]
  have present : ¬ List.replicate (more + 1) (0x31 : CodePoint) = [] := List.cons_ne_nil _ _
  have number : JsonText.scanUnsigned floats [] (List.replicate (more + 1) 0x31) = .error .digits := by
    unfold JsonText.scanUnsigned
    dsimp only
    rw [whole, List.drop_length, List.drop_of_length_le (Nat.le_add_right _ _),
      if_neg present, List.length_replicate]
    exact (if_pos rfl).trans (if_pos many)
  obtain ⟨object, array, once⟩ := JsonText.scanOnce_eq floats limit
  have skipped : JsonText.skipBlank (List.replicate (more + 1) 0x31) = List.replicate (more + 1) 0x31 :=
    List.dropWhile_cons_of_neg (by decide)
  have scanned : JsonText.scanOnce floats limit (List.replicate (more + 1) 0x31) = .error .digits := by
    rw [once]
    exact number
  have noMark : ¬ (List.replicate (more + 1) (0x31 : CodePoint)).head? = some 0xFEFF := fun same =>
    absurd (congrArg Fin.val (Option.some.inj same)) (by decide)
  rw [JsonText.loads, if_neg noMark, skipped, scanned]
  rfl

end Calling

/-- A chat unit that makes the same call, with no arguments, on every turn. -/
theorem keepsConversations_calling :
    KeepsConversations plainHost ⟨true, true⟩ plainBody (calling []) fun _ _ => .answers (.obj []) := by
  obtain ⟨formed, _, called⟩ := readAnswer_calling (show ([] : Text).all _ = true from rfl) ⟨true, true⟩
  refine (keepsConversations_iff plainHost ⟨true, true⟩ plainBody (calling [])
    (fun _ _ => .answers (.obj [])) fun _ _ => formed).mpr ⟨_, rfl, fun _ _ loop _ _ _ => ?_⟩
  refine ⟨nofun, fun _ _ => ?_⟩
  rw [called]
  refine List.forall_mem_singleton.mpr ⟨fun _ _ _ present => absurd rfl present, ?_⟩
  rintro result ⟨⟩
  rfl

/-- The arguments of a call are an integer of 4301 digits. -/
theorem not_keepsConversations_manyDigits :
    let streamed := calling (List.replicate 4301 0x31)
    (∀ iteration request, WellFormed plainHost.json (streamed iteration request)) ∧
      ¬ KeepsConversations plainHost ⟨false, false⟩ plainBody streamed
        fun _ _ => .answers (.obj []) := by
  have low : ((List.replicate 4301 (0x31 : CodePoint)).all fun point => point.val < 0xD800) = true := by
    rw [List.all_replicate]
    rfl
  obtain ⟨formed, finished, called⟩ := readAnswer_calling low ⟨false, false⟩
  refine ⟨fun _ _ => formed, fun keeps => ?_⟩
  obtain ⟨messages, _, quiet⟩ := (endsOnce_iff _ _ _ _).mp keeps.2.2
  refine quiet (TurnLoop.repeatTurns_raises_iff.mpr ⟨0, Nat.succ_pos 9, _, .start, ?_⟩)
  refine (streamTurn_raises_iff _ _ _ fun _ _ => formed).mpr fun settles => ?_
  have calls := ((settles rfl) (show 200 < 500 by decide)).2 rfl (by rw [finished]; rfl)
  rw [called] at calls
  have settled := calls _ List.mem_cons_self
  exact (settled.loads _ rfl (by decide) (List.cons_ne_nil _ _)).1 (loads_ones (by decide))

end ToolLoop

end LocalGpuCluster
