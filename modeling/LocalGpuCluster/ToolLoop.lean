/-
This file models the two loops of `router-app.py` that run tools for a client, the streaming one and
the other. On each turn the chat unit is asked with the messages so far. Where its answer makes calls,
the tools are run, and the answer and their results are appended to the messages; where it makes none,
or where something goes wrong that the loop catches, the client gets its last frames or its answer.
What the code does not catch leaves the loop as an exception.
-/

import LocalGpuCluster.StreamRelay
import LocalGpuCluster.ToolStream
import LocalGpuCluster.TurnLoop

namespace LocalGpuCluster

namespace ToolLoop

open AnswerStrip (Strip)
open Framing (Decoder)
open StreamRelay (degradedFrame doneFrame ping)
open TurnLoop (Turn repeatTurns)

/-- The fields of a JSON object. -/
abbrev Fields := List (Text × Json)

/-! ### Tools -/

/-- What the loops run on. A tool is called with the turn and the place of its call in it, so that
what it gives may change from one call to the next: its result as `_format_tool_result` writes it, or
the type and the text of the exception that either of them raises. `repr` is `none` where it raises
`RecursionError`. -/
structure Host where
  json : JsonModule
  maxToolIterations : ℕ
  late : ℕ → Bool
  uuid : ℕ × ℕ → Text
  repr : Json → Option Text
  schemas : Json
  handler : ℕ × ℕ → Text → Fields → Except (Text × Text) Text

/-- The names in `TOOLS`. -/
def toolNames : List Text :=
  [text "tavily_search", text "tavily_extract", text "tavily_crawl", text "tavily_map",
    text "web_fetch"]

/-- `fields.get(key, value)`. -/
def getOr (fields : Fields) (key : Text) (value : Json) : Json := (fields.lookup key).getD value

section Tools

variable (host : Host)

/-- An error that is handed to the model. -/
def errorText (error : String) (more : Fields) : Option Text :=
  host.json.dumps (.obj ((text "error", .str (text error)) :: more))

/-- `json.loads(args_json) if args_json else {}`, and what is made of it; `none` where what it raises
is no `JSONDecodeError`. -/
def runTool (place : ℕ × ℕ) (name : Text) : Json → Option Text
  | .str [] => execute []
  | .str argsJson =>
      match host.json.loads argsJson with
      | .ok (.obj args) => execute args
      | .ok _ => errorText host "arguments_must_be_object" []
      | .error .decode =>
          errorText host "invalid_json_arguments" [(text "message", .str (host.json.explain argsJson))]
      | .error _ => none
  | value => if value.truthy then none else execute []
where
  /-- The handler, and the message for what it raises. -/
  execute (args : Fields) : Option Text :=
    match host.handler place name args with
    | .ok result => some result
    | .error (type, message) =>
        errorText host "tool_execution_failed"
          [(text "type", .str type), (text "message", .str message)]

/-- `dispatch_tool`, `none` where it raises: the name of a tool cannot be looked up, or its arguments
are neither read nor refused as JSON. -/
def dispatchTool (place : ℕ × ℕ) (name argsJson : Json) : Option Text :=
  match keyOf name with
  | none => none
  | some (.str tool) =>
      if tool ∈ toolNames then runTool host place tool argsJson
      else errorText host "unknown_tool" [(text "tool", name)]
  | some _ => errorText host "unknown_tool" [(text "tool", name)]

/-- `_summarize_tool_result`, `none` where it raises `RecursionError`. -/
def summarizeToolResult (result : Text) : Option Text :=
  let size := text "size=" ++ decimal result.length
  let head := (result.dropWhile CodePoint.isSpace).take 80
  if Text.startsWith head (text "\x7b\"error\"") then
    match host.json.loads result with
    | .ok (.obj entries) =>
        match entries.lookup (text "error") with
        | some error => (host.repr error).map fun shown => size ++ text " error=" ++ shown
        | none => some (size ++ text " ok")
    | .error .depth => none
    | _ => some (size ++ text " ok")
  else some (size ++ text " ok")

/-- `_ensure_tool_call_ids`, of one call. -/
def ensureToolCallId (place : ℕ × ℕ) (call : Fields) : Fields :=
  if (Json.getIn call (text "id")).truthy then call
  else Json.setIn call (text "id") (.str (text "call_" ++ host.uuid place))

/-- `_ensure_tool_call_ids`. -/
def ensureToolCallIds (iteration : ℕ) (calls : List Fields) : List Fields :=
  calls.mapIdx fun index call => ensureToolCallId host (iteration, index) call

/-- `len(value)`, `none` where it raises. -/
def lengthOf : Json → Option ℕ
  | .str value => some value.length
  | .arr items => some items.length
  | .obj entries => some entries.length
  | _ => none

/-- The message with the result of a call, `none` where running or logging it raises. The calls that
a stream is put together from have every field that is read here. -/
def toolMessage (place : ℕ × ℕ) (call : Fields) : Option Json :=
  match (Json.getIn call (text "function")).orElse (.obj []) with
  | .obj fn => do
      let arguments := getOr fn (text "arguments") (.str [])
      let result ← dispatchTool host place (getOr fn (text "name") (.str [])) arguments
      let _ ← lengthOf (arguments.orElse (.str []))
      let _ ← summarizeToolResult host result
      some (.obj [(text "role", .str (text "tool")),
        (text "tool_call_id", Json.getIn call (text "id")), (text "content", .str result)])
  | _ => none

/-- The messages with the results of all calls. -/
def toolMessages (iteration : ℕ) (calls : List Fields) : Option (List Json) :=
  calls.zipIdx.mapM fun (call, index) => toolMessage host (iteration, index) call

end Tools

/-! ### What both loops share -/

/-- A loop between two turns: the messages it asks with next, those it has asked with, and what else
it keeps. -/
structure Loop (Kept : Type) where
  iteration : ℕ
  messages : List Json
  sent : List (List Json)
  kept : Kept

/-- The messages of the loop have gone to the chat unit. -/
def Loop.asked {Kept : Type} (loop : Loop Kept) : Loop Kept :=
  { loop with sent := loop.sent ++ [loop.messages] }

/-- `list(body["messages"])`, `none` where it raises. -/
def messagesOf (body : Fields) : Option (List Json) :=
  match body.lookup (text "messages") with
  | some (.arr items) => some items
  | some (.str content) => some (content.map fun point => .str [point])
  | some (.obj entries) => some (entries.map fun entry => .str entry.1)
  | _ => none

/-- `per_iter`: what the chat unit is asked with. -/
def requestOf (host : Host) (body : Fields) (stream : Bool) (messages : List Json) : Fields :=
  let withTools := Json.setDefault body (text "tools") host.schemas
  let streamed := Json.setIn withTools (text "stream") (.bool stream)
  let forwarded := streamed.filter fun entry => entry.1 ≠ text "tool_execution"
  Json.setIn forwarded (text "messages") (.arr messages)

/-- `finish_reason == "tool_calls"`. -/
def isToolCalls : Json → Bool
  | .str reason => reason = text "tool_calls"
  | _ => false

def maxIterationsNote : Text :=
  newline ++ newline ++ text "[router: max_tool_iterations reached]"

/-! ### The streaming loop -/

/-- How an answer ends that has begun: it is complete, or the connection fails, with one of the
exceptions that the loop catches or another one. -/
inductive Ending where
  | complete
  | fails (caught : Bool)
  deriving DecidableEq

/-- What becomes of a request for a stream: the connection fails before there is an answer, or there is
one, with its status, the decoder of its charset and its body in the chunks it arrives in. -/
inductive Streamed where
  | fails (caught : Bool)
  | answers (status : ℕ) (decoder : Decoder CodePoint) (chunks : List (List UInt8)) (ending : Ending)

section Streaming

variable (host : Host) (strip : Strip) (body : Fields) (upstream : ℕ → Fields → Streamed)

/-- What the client is sent. -/
def Loop.yields (loop : Loop (List Text)) (frames : List Text) : Loop (List Text) :=
  { loop with kept := loop.kept ++ frames }

/-- An entry of `finalize`. -/
def ToolCall.fields (call : ToolCall) : Fields :=
  [(text "id", call.id), (text "type", .str (text "function")),
    (text "function", .obj [(text "name", call.name), (text "arguments", .str call.arguments)])]

/-- The message that made the calls. -/
def assistantMessage (content : Text) (calls : List Fields) : Json :=
  .obj [(text "role", .str (text "assistant")),
    (text "content", if content = [] then .null else .str content),
    (text "tool_calls", .arr (calls.map .obj))]

/-- A last chunk. -/
def finalChunk (delta : Fields) (finishReason : Json) : Json :=
  .obj [(text "object", .str (text "chat.completion.chunk")),
    (text "choices", .arr [.obj [(text "index", .int 0), (text "delta", .obj delta),
      (text "finish_reason", finishReason)]])]

/-- The calls that an answer makes, with their ids. -/
def madeCalls (iteration : ℕ) (reading : Reading) : List Fields :=
  ensureToolCallIds host iteration (reading.calls.finalize.map ToolCall.fields)

/-- After a complete answer: its tools are run, or it is the last one. -/
def afterAnswer (loop : Loop (List Text)) (reading : Reading) : Turn (Loop (List Text)) Unit :=
  if isToolCalls reading.finishReason && reading.calls.hasAny then
    let calls := madeCalls host loop.iteration reading
    match toolMessages host loop.iteration calls with
    | some results => .again { loop with
        iteration := loop.iteration + 1
        messages := loop.messages ++ assistantMessage reading.content calls :: results }
    | none => .raises loop
  else if reading.finishReason.truthy then
    match frameOf host.json (finalChunk [] reading.finishReason) with
    | some frame => .returns (loop.yields [frame, doneFrame]) ()
    | none => .raises loop
  else .returns (loop.yields [doneFrame]) ()

/-- One turn of `tool_loop_stream`. -/
def streamTurn (loop : Loop (List Text)) : Turn (Loop (List Text)) Unit :=
  if host.late loop.iteration then .returns (loop.yields [degradedFrame, doneFrame]) ()
  else
    match upstream loop.iteration (requestOf host body true loop.messages) with
    | .fails true => .returns (loop.asked.yields [degradedFrame, doneFrame]) ()
    | .fails false => .raises loop.asked
    | .answers status decoder chunks ending =>
        if 500 ≤ status then .returns (loop.asked.yields [degradedFrame, doneFrame]) ()
        else
          let reading := readAnswer host.json strip decoder chunks (ending = .complete)
          let read := loop.asked.yields reading.frames
          if reading.raised then .raises read
          else
            match ending with
            | .fails true => .returns (read.yields [degradedFrame, doneFrame]) ()
            | .fails false => .raises read
            | .complete => afterAnswer host read reading

/-- After the last turn. -/
def exceeded (loop : Loop (List Text)) : Turn (Loop (List Text)) Unit :=
  match frameOf host.json
      (finalChunk [(text "content", .str maxIterationsNote)] (.str (text "stop"))) with
  | some frame => .returns (loop.yields [frame, doneFrame]) ()
  | none => .raises loop

/-- `tool_loop_stream`. -/
def toolLoopStream : Turn (Loop (List Text)) Unit :=
  match messagesOf body with
  | none => .raises ⟨0, [], [], [ping]⟩
  | some messages =>
      match repeatTurns (streamTurn host strip body upstream) host.maxToolIterations
          ⟨0, messages, [], [ping]⟩ with
      | .again loop => exceeded host loop
      | left => left

end Streaming

/-! ### The loop that does not stream -/

/-- What becomes of a request for a whole answer: one of the exceptions that the loop catches, by its
type, an answer that is no JSON, one that is, or any other exception. -/
inductive Posted where
  | fails (type : Text)
  | garbled (content : Text)
  | answers (data : Json)
  | escapes

section Whole

variable (host : Host) (strip : Strip) (body : Fields) (upstream : ℕ → Fields → Posted)

/-- `_error_body`. -/
def errorBody (type message : Text) : Json :=
  .obj [(text "error", .obj [(text "type", .str type), (text "message", .str message),
    (text "code", .null)])]

/-- An answer taken apart: its first choice, the others, and the message. -/
structure Taken where
  choice : Fields
  others : List Json
  message : Fields

/-- `(data.get("choices") or [{}])[0]` and its message, `none` where looking for them raises. -/
def takeAnswer (data : Fields) : Option Taken :=
  match (Json.getIn data (text "choices")).orElse (.arr [.obj []]) with
  | .arr (.obj choice :: others) =>
      match (Json.getIn choice (text "message")).orElse (.obj []) with
      | .obj message => some ⟨choice, others, message⟩
      | _ => none
  | _ => none

/-- The answer once its message is changed. -/
def Taken.withMessage (taken : Taken) (data message : Fields) : Fields :=
  Json.setIn data (text "choices")
    (.arr (.obj (Json.setIn taken.choice (text "message") (.obj message)) :: taken.others))

/-- The calls in a message, `none` where one is no object. -/
def callsIn (message : Fields) : Option (List Fields) :=
  match Json.getIn message (text "tool_calls") with
  | .arr items => items.mapM fun
      | .obj call => some call
      | _ => none
  | _ => none

/-- After an answer that makes no calls: its content is stripped. -/
def lastAnswer (loop : Loop Fields) (data : Fields) (taken : Taken) : Turn (Loop Fields) Json :=
  match Json.getIn taken.message (text "content") with
  | .str [] => .returns loop (.obj data)
  | .str content =>
      let message := Json.setIn taken.message (text "content") (.str (strip.apply content))
      .returns loop (.obj (taken.withMessage data message))
  | value =>
      if value.truthy && (strip.thinking || strip.markers) then .raises loop
      else .returns loop (.obj data)

/-- After an answer: its tools are run, or it is the last one. -/
def afterData (loop : Loop Fields) (data : Fields) (taken : Taken) : Turn (Loop Fields) Json :=
  if isToolCalls (Json.getIn taken.choice (text "finish_reason")) &&
      (Json.getIn taken.message (text "tool_calls")).truthy then
    match callsIn taken.message with
    | none => .raises loop
    | some found =>
        let calls := ensureToolCallIds host loop.iteration found
        let message := Json.setIn taken.message (text "tool_calls") (.arr (calls.map .obj))
        match toolMessages host loop.iteration calls with
        | some results => .again { loop with
            iteration := loop.iteration + 1
            messages := loop.messages ++ .obj message :: results
            kept := taken.withMessage data message }
        | none => .raises loop
  else lastAnswer strip loop data taken

/-- One turn of `tool_loop_nonstream`, which keeps the last response. -/
def wholeTurn (loop : Loop Fields) : Turn (Loop Fields) Json :=
  if host.late loop.iteration then
    .returns loop (errorBody (text "service_degraded")
      (text "max stream time exceeded during tool loop"))
  else
    match upstream loop.iteration (requestOf host body false loop.messages) with
    | .fails type =>
        .returns loop.asked (errorBody (text "service_degraded") (text "upstream: " ++ type))
    | .garbled content =>
        .returns loop.asked (errorBody (text "upstream_invalid_json") (content.take 500))
    | .escapes => .raises loop.asked
    | .answers (.obj data) =>
        match takeAnswer data with
        | some taken => afterData host strip loop.asked data taken
        | none => .raises loop.asked
    | .answers _ => .raises loop.asked

/-- After the last turn: the last response, with a note on it. -/
def annotated (loop : Loop Fields) : Turn (Loop Fields) Json :=
  match Json.getIn loop.kept (text "choices") with
  | .arr (.obj choice :: others) =>
      let choice := Json.setDefault choice (text "message") (.obj [])
      match Json.getIn choice (text "message") with
      | .obj message =>
          match (Json.getIn message (text "content")).orElse (.str []) with
          | .str existing =>
              let noted := Json.setIn message (text "content") (.str (existing ++ maxIterationsNote))
              let choice := Json.setIn choice (text "message") (.obj noted)
              let stopped := Json.setIn choice (text "finish_reason") (.str (text "stop"))
              .returns loop
                (.obj (Json.setIn loop.kept (text "choices") (.arr (.obj stopped :: others))))
          | _ => .raises loop
      | _ => .raises loop
  | value =>
      if value.truthy then .raises loop
      else .returns loop (errorBody (text "max_tool_iterations_exceeded")
        (text "reached MAX_TOOL_ITERATIONS=" ++ decimal host.maxToolIterations ++
          text " without final response"))

/-- `tool_loop_nonstream`. -/
def toolLoopNonstream : Turn (Loop Fields) Json :=
  match messagesOf body with
  | none => .raises ⟨0, [], [], []⟩
  | some messages =>
      match repeatTurns (wholeTurn host strip body upstream) host.maxToolIterations
          ⟨0, messages, [], []⟩ with
      | .again loop => annotated host loop
      | left => left

end Whole

end ToolLoop

end LocalGpuCluster
