/-
This file models how the streaming tool loop of `router-app.py` reads an answer of the chat unit: the
bytes are decoded as they come, the text is cut at blank lines, and each `data:` line of an event is
a chunk whose content goes on to the client and whose fragments of tool calls are gathered. What is
cut where on the way does not matter: the events and deltas, what the client is sent and the calls
are those of the whole answer.
-/

import LocalGpuCluster.AnswerStrip
import LocalGpuCluster.Framing
import LocalGpuCluster.JsonText
import LocalGpuCluster.ToolCalls

namespace LocalGpuCluster

namespace ToolLoop

open AnswerStrip (Strip)
open Framing (Decoder Reader)

/-! ### What the reader runs on -/

/-- The `json` module: how it reads and writes floats, what it says of a text it cannot read, and how
deep containers may nest, which is deeper than those the loops write themselves. -/
structure JsonModule where
  floats : JsonText.FloatText
  nonFinite : Float64 → Text
  explain : Text → Text
  limit : ℕ
  roomy : 4 ≤ limit

/-- `json.loads`. -/
def JsonModule.loads (json : JsonModule) (input : Text) : Except JsonText.LoadError Json :=
  JsonText.loads json.floats json.limit input

/-- `json.dumps`, `none` where it raises. -/
def JsonModule.dumps (json : JsonModule) (value : Json) : Option Text :=
  JsonText.write json.floats json.nonFinite json.limit value

/-- The incremental decoder of UTF-8 with `errors="replace"`. -/
def utf8 : Decoder CodePoint where
  State := Option Text.Unfinished
  start := none
  decode byte := Text.decodeByte byte.toNat
  flush unfinished := if unfinished.isSome then [0xFFFD] else []

/-- `aiter_text`: the text of each piece that gives any, and at the end of a complete answer what the
decoder still holds. -/
def aiterText (decoder : Decoder CodePoint) (chunks : List (List UInt8)) (complete : Bool) :
    List Text :=
  let decoded := decoder.pieces decoder.start chunks
  (if complete then decoded.1 ++ [decoder.flush decoded.2] else decoded.1).filter (· ≠ [])

/-! ### The reader -/

/-- How far an answer is read: its events and deltas, what the loop keeps of them, the frames that
went to the client, and whether reading has raised. -/
structure Reading where
  events : List Text
  deltas : List (List (Text × Json))
  calls : ToolCallAccumulator
  content : Text
  finishReason : Json
  frames : List Text
  raised : Bool

def Reading.start : Reading := ⟨[], [], [], [], .null, [], false⟩

/-- `f"data: {json.dumps(value)}\n\n".encode()`. -/
def frameOf (json : JsonModule) (value : Json) : Option Text :=
  (json.dumps value).map fun written => text "data: " ++ written ++ newline ++ newline

/-- `client_chunk`. -/
def clientChunk (chunk : List (Text × Json)) (out : Text) : Json :=
  .obj [(text "id", Json.getIn chunk (text "id")),
    (text "object", .str (text "chat.completion.chunk")),
    (text "created", Json.getIn chunk (text "created")),
    (text "model", Json.getIn chunk (text "model")),
    (text "choices", .arr [.obj [(text "index", .int 0),
      (text "delta", .obj [(text "content", .str out)]), (text "finish_reason", .null)]])]

section Reader

variable (json : JsonModule) (strip : Strip)

/-- The fragments of tool calls, where there are any. -/
def takeCalls (reading : Reading) (deltaToolCalls : Json) : Except Reading Reading :=
  if deltaToolCalls.truthy then
    match readDeltas deltaToolCalls with
    | some deltas => .ok { reading with calls := reading.calls.feed deltas }
    | none => .error reading
  else .ok reading

/-- The content, kept as it is and sent on stripped. -/
def takeContent (reading : Reading) (chunk : List (Text × Json)) : Json → Except Reading Reading
  | .null => .ok reading
  | .str content =>
      match frameOf json (clientChunk chunk (strip.apply content)) with
      | some frame => .ok { reading with
          content := reading.content ++ content
          frames := reading.frames ++ [frame] }
      | none => .error reading
  | _ => .error reading

/-- The first choice of a chunk. -/
def takeChoice (reading : Reading) (chunk choice : List (Text × Json)) : Except Reading Reading :=
  match (Json.getIn choice (text "delta")).orElse (.obj []) with
  | .obj delta => do
      let seen := { reading with
        deltas := reading.deltas ++ [delta]
        finishReason := (Json.getIn choice (text "finish_reason")).orElse reading.finishReason }
      let fed ← takeCalls seen (Json.getIn delta (text "tool_calls"))
      takeContent json strip fed chunk (Json.getIn delta (text "content"))
  | _ => .error reading

def takeChunk (reading : Reading) (chunk : List (Text × Json)) : Except Reading Reading :=
  match (Json.getIn chunk (text "choices")).orElse (.arr []) with
  | .arr [] => .ok reading
  | .arr (.obj choice :: _) => takeChoice json strip reading chunk choice
  | _ => .error reading

/-- A line of an event. Text that is no JSON is passed over; anything else that goes wrong is not
caught here, and the reading is left where it raised. -/
def takeLine (reading : Reading) (line : Text) : Except Reading Reading :=
  if line.startsWith (text "data: ") then
    let data := Text.strip CodePoint.isSpace (line.drop 6)
    if data = text "[DONE]" then
      .ok { reading with finishReason := reading.finishReason.orElse (.str (text "stop")) }
    else
      match json.loads data with
      | .ok (.obj chunk) => takeChunk json strip reading chunk
      | .ok _ => .error reading
      | .error .decode => .ok reading
      | .error _ => .error reading
  else .ok reading

/-- An event: once a line has raised, nothing more is read. -/
def takeEvent (reading : Reading) (event : Text) : Reading :=
  if reading.raised then reading
  else
    match (event.splitOn 0xA).foldlM (takeLine json strip)
        { reading with events := reading.events ++ [event] } with
    | .ok read => read
    | .error last => { last with raised := true }

/-- Reading what comes in: the text is cut at blank lines, and each event is taken as soon as it is
there. What follows the last blank line is not read. -/
def readAnswer (decoder : Decoder CodePoint) (chunks : List (List UInt8)) (complete : Bool) :
    Reading :=
  ((aiterText decoder chunks complete).foldl
    (Reader.feed (Framing.cutAt (newline ++ newline)) (takeEvent json strip)) ⟨[], .start⟩).state

end Reader

/-! ### Where the answer is cut -/

/-- Joined, the text is that of the whole answer. -/
theorem flatten_aiterText (decoder : Decoder CodePoint) (chunks : List (List UInt8))
    (complete : Bool) :
    (aiterText decoder chunks complete).flatten =
      (decoder.run decoder.start chunks.flatten).1 ++
        if complete then decoder.flush (decoder.run decoder.start chunks.flatten).2 else [] := by
  have whole := decoder.pieces_flatten decoder.start chunks
  have decoded := congrArg Prod.fst whole
  have held := congrArg Prod.snd whole
  unfold aiterText
  rw [List.flatten_filter_ne_nil, ← decoded, ← held]
  cases complete with
  | false => exact (List.append_nil _).symm
  | true => exact List.flatten_concat

theorem cutAt_blankLine_lawful : (Framing.cutAt (newline ++ newline)).Lawful :=
  Framing.cutAt_lawful (by decide)

/-- The events of a text. -/
def eventsOf (content : Text) : List Text :=
  (Framing.drain (Framing.cutAt (newline ++ newline)) content).1

/-- Reading an answer is taking the events of its whole text. -/
theorem readAnswer_eq (json : JsonModule) (strip : Strip) (decoder : Decoder CodePoint)
    (chunks : List (List UInt8)) (complete : Bool) :
    readAnswer json strip decoder chunks complete =
      (eventsOf (aiterText decoder chunks complete).flatten).foldl (takeEvent json strip) .start :=
  congrArg Reader.state (Framing.foldl_feed cutAt_blankLine_lawful _ rfl _)

/-- However an answer is cut into network chunks, whether it ends or breaks off, it is read the same:
the same events and deltas, and so the same frames for the client and the same calls. -/
theorem readAnswer_eq_of_flatten_eq (json : JsonModule) (strip : Strip) (decoder : Decoder CodePoint)
    {chunks others : List (List UInt8)} (same : chunks.flatten = others.flatten) (complete : Bool) :
    readAnswer json strip decoder chunks complete = readAnswer json strip decoder others complete := by
  rw [readAnswer_eq, readAnswer_eq, flatten_aiterText, flatten_aiterText, same]

/-- A module without a text for any float. -/
def floatless : JsonModule := ⟨⟨fun _ => [], fun _ => .notANumber⟩, fun _ => [], fun _ => [], 1000, by decide⟩

/-- Cuts inside the euro sign of a content, and inside the blank line after its event. -/
theorem readAnswer_cutInside :
    let bytes := List.map fun point : CodePoint => UInt8.ofNat point.val
    let front := bytes (text "data: \x7b\"choices\": [\x7b\"delta\": \x7b\"content\": \"")
    let back := bytes (text "\"\x7d\x7d]\x7d")
    readAnswer floatless ⟨true, false⟩ utf8
        [front ++ [0xE2], [0x82, 0xAC] ++ back ++ [0xA], [0xA]] true =
      readAnswer floatless ⟨true, false⟩ utf8
        [front ++ [0xE2, 0x82, 0xAC] ++ back ++ [0xA, 0xA]] true :=
  readAnswer_eq_of_flatten_eq floatless ⟨true, false⟩ utf8 (by decide) true

end ToolLoop

end LocalGpuCluster
