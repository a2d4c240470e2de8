/-
This file proves what the streaming tool loop makes of the answers of a chat unit: every frame that it
sends on is a chunk of its own, and where the chunks that come in are well formed, reading them never
raises and leaves a finish reason and calls whose ids and names are texts or missing. It also proves
that the frames of such chunks are read one by one.
-/

import LocalGpuCluster.JsonRoundTrip
import LocalGpuCluster.ToolStream

namespace LocalGpuCluster

namespace ToolLoop

open AnswerStrip (Strip)
open Framing (Decoder Reader)
open JsonText (openBrace openBracket closeBrace closeBracket)

/-! ### What `json.dumps` writes -/

/-- A value that is no container, whose digits Python writes. -/
def Plain : Json → Prop
  | .int value => (decimal value.natAbs).length ≤ JsonText.maxDigits
  | .arr _ | .obj _ => False
  | _ => True

section Write

variable {floats : JsonText.FloatText} {nonFinite : Float64 → Text} {limit : ℕ}

theorem write_plain {value : Json} (plain : Plain value) :
    (JsonText.write floats nonFinite limit value).isSome := by
  cases value with
  | int value => rw [JsonText.write, if_neg (Nat.not_lt.mpr plain)]; rfl
  | float value => cases value <;> rw [JsonText.write] <;> first | rfl | (intro _ same; cases same)
  | arr items => exact plain.elim
  | obj entries => exact plain.elim
  | _ => rw [JsonText.write]; rfl

theorem mapM_isSome {Item Value : Type} {make : Item → Option Value} {items : List Item}
    (each : ∀ item ∈ items, (make item).isSome) : (items.mapM make).isSome := by
  induction items with
  | nil => rfl
  | cons item rest inductionHypothesis =>
    obtain ⟨value, made⟩ := Option.isSome_iff_exists.mp (each item List.mem_cons_self)
    obtain ⟨values, others⟩ := Option.isSome_iff_exists.mp
      (inductionHypothesis fun other member => each other (List.mem_cons_of_mem _ member))
    rw [List.mapM_cons, made, others]
    rfl

theorem write_arr {items : List Json}
    (each : ∀ item ∈ items, (JsonText.write floats nonFinite limit item).isSome) :
    (JsonText.write floats nonFinite (limit + 1) (.arr items)).isSome := by
  rw [JsonText.write, Option.isSome_map]
  exact mapM_isSome each

theorem write_obj {entries : List (Text × Json)}
    (each : ∀ entry ∈ entries, (JsonText.write floats nonFinite limit entry.2).isSome) :
    (JsonText.write floats nonFinite (limit + 1) (.obj entries)).isSome := by
  rw [JsonText.write, Option.isSome_map]
  refine mapM_isSome fun entry member => ?_
  rw [Option.isSome_map]
  exact each entry member

/-- An object is written between braces. -/
theorem write_obj_braces {entries : List (Text × Json)} {written : Text}
    (dumped : JsonText.write floats nonFinite limit (.obj entries) = some written) :
    ∃ middle, written = openBrace :: middle ++ [closeBrace] := by
  cases limit with
  | zero => cases dumped
  | succ limit =>
    obtain ⟨parts, _, rfl⟩ := Option.map_eq_some_iff.mp dumped
    exact ⟨_, rfl⟩

end Write

/-- The last chunks and those for the client have few containers in each other. -/
theorem dumps_nested (json : JsonModule) {outer inner innermost : List (Text × Json)}
    (plain : ∀ entry ∈ outer, Plain entry.2) (plainInner : ∀ entry ∈ inner, Plain entry.2)
    (plainInnermost : ∀ entry ∈ innermost, Plain entry.2) (last : Json) (plainLast : Plain last) :
    (json.dumps (.obj (outer ++ [(text "choices", .arr [.obj (inner ++
      [(text "delta", .obj innermost), (text "finish_reason", last)])])]))).isSome := by
  obtain ⟨limit, room⟩ := Nat.exists_eq_add_of_le' json.roomy
  rw [JsonModule.dumps, room]
  have deepest : ∀ entry ∈ inner ++
        [(text "delta", Json.obj innermost), (text "finish_reason", last)],
      (JsonText.write json.floats json.nonFinite (limit + 1) entry.2).isSome := by
    intro entry member
    obtain plainEntry | later := List.mem_append.mp member
    · exact write_plain (plainInner entry plainEntry)
    · simp only [List.mem_cons, List.not_mem_nil, or_false] at later
      obtain rfl | rfl := later
      · exact write_obj fun entry inInnermost => write_plain (plainInnermost entry inInnermost)
      · exact write_plain plainLast
  refine write_obj fun entry member => ?_
  obtain plainEntry | choices := List.mem_append.mp member
  · exact write_plain (plain entry plainEntry)
  · rw [List.mem_singleton.mp choices]
    refine write_arr fun item inItems => ?_
    rw [List.mem_singleton.mp inItems]
    exact write_obj deepest

/-- Objects with no container in them are written. -/
theorem dumps_flat {json : JsonModule} {entries : List (Text × Json)}
    (plain : ∀ entry ∈ entries, Plain entry.2) : (json.dumps (.obj entries)).isSome := by
  obtain ⟨limit, room⟩ := Nat.exists_eq_add_of_le' json.roomy
  rw [JsonModule.dumps, room]
  exact write_obj fun entry member => write_plain (plain entry member)

/-! ### Frames -/

/-- A frame with an object in it. -/
def IsChunk (frame : Text) : Prop := ∃ rest, frame = text "data: " ++ openBrace :: rest

theorem isChunk_frameOf {json : JsonModule} {entries : List (Text × Json)} {frame : Text}
    (framed : frameOf json (.obj entries) = some frame) : IsChunk frame := by
  obtain ⟨written, dumped, rfl⟩ := Option.map_eq_some_iff.mp framed
  obtain ⟨middle, rfl⟩ := write_obj_braces dumped
  exact ⟨middle ++ [closeBrace] ++ newline ++ newline, by simp⟩

/-- Every frame that went to the client has an object in it. -/
def SentChunks (reading : Reading) : Prop := ∀ frame ∈ reading.frames, IsChunk frame

/-- What holds of a reading whether the step that led to it raised or not. -/
def Either (holds : Reading → Prop) : Except Reading Reading → Prop
  | .ok reading => holds reading
  | .error reading => holds reading

section Reader

variable {json : JsonModule} {strip : Strip} {reading : Reading}

theorem takeCalls_sent (sent : SentChunks reading) (deltaToolCalls : Json) :
    Either SentChunks (takeCalls reading deltaToolCalls) := by
  unfold takeCalls
  split
  · split <;> exact sent
  · exact sent

theorem takeContent_sent (sent : SentChunks reading) (chunk : List (Text × Json)) (content : Json) :
    Either SentChunks (takeContent json strip reading chunk content) := by
  unfold takeContent
  split
  · exact sent
  · split
    · rename_i frame framed
      intro other member
      obtain earlier | here := List.mem_append.mp member
      · exact sent other earlier
      · exact List.mem_singleton.mp here ▸ isChunk_frameOf framed
    · exact sent
  · exact sent

theorem takeChoice_sent (sent : SentChunks reading) (chunk choice : List (Text × Json)) :
    Either SentChunks (takeChoice json strip reading chunk choice) := by
  unfold takeChoice
  split
  · rename_i delta _
    let seen := { reading with
      deltas := reading.deltas ++ [delta]
      finishReason := (Json.getIn choice (text "finish_reason")).orElse reading.finishReason }
    have fedSent : Either SentChunks (takeCalls seen (Json.getIn delta (text "tool_calls"))) :=
      takeCalls_sent (show SentChunks seen from sent) _
    show Either SentChunks (takeCalls seen _ >>= _)
    cases fed : takeCalls seen (Json.getIn delta (text "tool_calls")) with
    | error last =>
      rw [fed] at fedSent
      exact fedSent
    | ok next =>
      rw [fed] at fedSent
      have nextSent : SentChunks next := fedSent
      exact takeContent_sent nextSent chunk _
  · exact sent

theorem takeLine_sent (sent : SentChunks reading) (line : Text) :
    Either SentChunks (takeLine json strip reading line) := by
  unfold takeLine
  split
  · dsimp only
    split
    · exact sent
    · split
      · unfold takeChunk
        split
        · exact sent
        · exact takeChoice_sent sent _ _
        · exact sent
      all_goals exact sent
  · exact sent

/-- Lines taken one after the other keep what each of them keeps. -/
theorem foldlM_either {holds : Reading → Prop} {take : Reading → Text → Except Reading Reading}
    (keeps : ∀ {reading}, holds reading → ∀ line, Either holds (take reading line))
    (first : holds reading) (lines : List Text) : Either holds (lines.foldlM take reading) := by
  induction lines generalizing reading with
  | nil => exact first
  | cons line rest inductionHypothesis =>
    have here := keeps first line
    rw [List.foldlM_cons]
    cases taken : take reading line with
    | error last =>
      rw [taken] at here
      exact here
    | ok next =>
      rw [taken] at here
      exact inductionHypothesis here

theorem takeEvent_sent (sent : SentChunks reading) (event : Text) :
    SentChunks (takeEvent json strip reading event) := by
  unfold takeEvent
  split
  · exact sent
  · have started : SentChunks { reading with events := reading.events ++ [event] } := sent
    have taken : Either SentChunks ((event.splitOn 0xA).foldlM (takeLine json strip)
        { reading with events := reading.events ++ [event] }) :=
      foldlM_either (fun before line => takeLine_sent before line) started _
    split
    all_goals
      rename_i done
      rw [done] at taken
      exact taken

end Reader

/-- Every frame that reading an answer sends on has an object in it. -/
theorem readAnswer_sent (json : JsonModule) (strip : Strip) (decoder : Decoder CodePoint)
    (chunks : List (List UInt8)) (complete : Bool) :
    SentChunks (readAnswer json strip decoder chunks complete) := by
  rw [readAnswer_eq]
  exact List.foldlRecOn _ _ (fun _ member => absurd member List.not_mem_nil)
    fun _ sent event _ => takeEvent_sent sent event

/-! ### Well-formed chunks -/

/-- A delta: its content and its calls are as they should be, or missing. -/
structure WellFormedDelta (delta : List (Text × Json)) : Prop where
  content : IsText (Json.getIn delta (text "content"))
  toolCalls : Json.getIn delta (text "tool_calls") = .null ∨
    ∃ items deltas, Json.getIn delta (text "tool_calls") = .arr items ∧
      items.mapM readDelta = some deltas ∧ ∀ entry ∈ deltas, entry.Textual

structure WellFormedChoice (choice : List (Text × Json)) : Prop where
  delta : Json.getIn choice (text "delta") = .null ∨
    ∃ delta, Json.getIn choice (text "delta") = .obj delta ∧ WellFormedDelta delta
  finishReason : IsText (Json.getIn choice (text "finish_reason"))

structure WellFormedChunk (chunk : List (Text × Json)) : Prop where
  id : Plain (Json.getIn chunk (text "id"))
  created : Plain (Json.getIn chunk (text "created"))
  model : Plain (Json.getIn chunk (text "model"))
  choices : Json.getIn chunk (text "choices") = .null ∨
    ∃ choices, Json.getIn chunk (text "choices") = .arr choices ∧
      ∀ choice ∈ choices, ∃ fields, choice = .obj fields ∧ WellFormedChoice fields

/-- A line that is no data, the end, no JSON, or a chunk. -/
def WellFormedLine (json : JsonModule) (line : Text) : Prop :=
  line.startsWith (text "data: ") = true →
    let data := Text.strip CodePoint.isSpace (line.drop 6)
    data = text "[DONE]" ∨ json.loads data = .error .decode ∨
      ∃ chunk, json.loads data = .ok (.obj chunk) ∧ WellFormedChunk chunk

def WellFormedEvent (json : JsonModule) (event : Text) : Prop :=
  ∀ line ∈ event.splitOn 0xA, WellFormedLine json line

/-- A reading that has not raised, with a finish reason and calls that are as they should be. -/
structure Sound (reading : Reading) : Prop where
  finishReason : IsText reading.finishReason
  calls : ∀ entry ∈ reading.calls, IsText entry.2.id ∧ IsText entry.2.name
  quiet : reading.raised = false

theorem isText_orElse {value other : Json} (first : IsText value) (second : IsText other) :
    IsText (value.orElse other) := by
  unfold Json.orElse
  split
  · exact first
  · exact second

theorem feed_textual {calls : ToolCallAccumulator} {deltas : List ToolCallDelta}
    (textual : ∀ entry ∈ calls, IsText entry.2.id ∧ IsText entry.2.name)
    (each : ∀ delta ∈ deltas, delta.Textual) :
    ∀ entry ∈ calls.feed deltas, IsText entry.2.id ∧ IsText entry.2.name := by
  unfold ToolCallAccumulator.feed
  let Textual (calls : ToolCallAccumulator) : Prop :=
    ∀ entry ∈ calls, IsText entry.2.id ∧ IsText entry.2.name
  have first : Textual calls := textual
  refine List.foldlRecOn deltas _ first fun calls textual delta member => ?_
  intro entry inCalls
  have current : IsText ((calls.lookup delta.index).getD .blank).id ∧
      IsText ((calls.lookup delta.index).getD .blank).name := by
    cases found : calls.lookup delta.index with
    | none => exact ⟨Or.inl rfl, Or.inl rfl⟩
    | some call =>
      obtain ⟨before, after, split, _⟩ := List.lookup_eq_some_iff.mp found
      exact textual (delta.index, call) (split ▸ List.mem_append_right _ List.mem_cons_self)
  have taken := And.intro (isText_orElse (each delta member).1 current.1)
    (isText_orElse (each delta member).2 current.2)
  unfold Dictionary.assign at inCalls
  split at inCalls
  · obtain ⟨old, inOld, rfl⟩ := List.mem_map.mp inCalls
    split
    · exact taken
    · exact textual old inOld
  · obtain inOld | new := List.mem_append.mp inCalls
    · exact textual entry inOld
    · exact List.mem_singleton.mp new ▸ taken

section Reader

variable {json : JsonModule} {strip : Strip} {reading : Reading}

theorem takeCalls_sound (sound : Sound reading) {delta : List (Text × Json)}
    (wellFormed : WellFormedDelta delta) :
    ∃ next, takeCalls reading (Json.getIn delta (text "tool_calls")) = .ok next ∧ Sound next := by
  unfold takeCalls
  obtain missing | ⟨items, deltas, listed, read, each⟩ := wellFormed.toolCalls
  · rw [missing]
    exact ⟨reading, rfl, sound⟩
  · rw [listed]
    split
    · rename_i truthy
      have deltasRead : readDeltas (.arr items) = some deltas := by
        rw [readDeltas, Json.orElse, if_pos truthy]
        exact read
      rw [deltasRead]
      exact ⟨_, rfl, sound.finishReason, feed_textual sound.calls each, sound.quiet⟩
    · exact ⟨reading, rfl, sound⟩

theorem takeContent_sound (strip : Strip) (sound : Sound reading) {chunk : List (Text × Json)}
    (wellFormed : WellFormedChunk chunk) {content : Json} (textual : IsText content) :
    ∃ next, takeContent json strip reading chunk content = .ok next ∧ Sound next := by
  obtain rfl | ⟨content, rfl⟩ := textual
  · exact ⟨reading, rfl, sound⟩
  · have plain : ∀ entry ∈ [(text "id", Json.getIn chunk (text "id")),
        (text "object", .str (text "chat.completion.chunk")),
        (text "created", Json.getIn chunk (text "created")),
        (text "model", Json.getIn chunk (text "model"))], Plain entry.2 :=
      List.forall_iff_forall_mem.mp
        ⟨wellFormed.id, trivial, wellFormed.created, wellFormed.model⟩
    have index : ∀ entry ∈ [(text "index", Json.int 0)], Plain entry.2 :=
      List.forall_iff_forall_mem.mp (show (decimal 0).length ≤ 4300 by decide)
    have out : ∀ entry ∈ [(text "content", Json.str (strip.apply content))], Plain entry.2 :=
      List.forall_iff_forall_mem.mp trivial
    obtain ⟨written, dumped⟩ := Option.isSome_iff_exists.mp
      (dumps_nested json plain index out .null trivial)
    have framed : frameOf json (clientChunk chunk (strip.apply content)) =
        some (text "data: " ++ written ++ newline ++ newline) := congrArg (Option.map _) dumped
    rw [takeContent, framed]
    exact ⟨_, rfl, sound.finishReason, sound.calls, sound.quiet⟩

theorem takeChunk_sound (strip : Strip) (sound : Sound reading) {chunk : List (Text × Json)}
    (wellFormed : WellFormedChunk chunk) :
    ∃ next, takeChunk json strip reading chunk = .ok next ∧ Sound next := by
  unfold takeChunk
  obtain missing | ⟨choices, listed, each⟩ := wellFormed.choices
  · rw [missing]
    exact ⟨reading, rfl, sound⟩
  · rw [listed]
    cases choices with
    | nil => exact ⟨reading, rfl, sound⟩
    | cons first rest =>
      obtain ⟨choice, rfl, chosen⟩ := each first List.mem_cons_self
      show ∃ next, takeChoice json strip reading chunk choice = .ok next ∧ Sound next
      have seen (delta : List (Text × Json)) : Sound { reading with
          deltas := reading.deltas ++ [delta]
          finishReason :=
            (Json.getIn choice (text "finish_reason")).orElse reading.finishReason } :=
        ⟨isText_orElse chosen.finishReason sound.finishReason, sound.calls, sound.quiet⟩
      have delta : ∃ delta, (Json.getIn choice (text "delta")).orElse (.obj []) = .obj delta ∧
          WellFormedDelta delta := by
        obtain none | ⟨delta, found, wellFormedDelta⟩ := chosen.delta
        · exact ⟨[], by rw [none]; rfl, ⟨Or.inl rfl, Or.inl rfl⟩⟩
        · cases delta with
          | nil => exact ⟨[], by rw [found]; rfl, wellFormedDelta⟩
          | cons entry more => exact ⟨entry :: more, by rw [found]; rfl, wellFormedDelta⟩
      obtain ⟨delta, found, wellFormedDelta⟩ := delta
      obtain ⟨fed, taken, soundFed⟩ := takeCalls_sound (seen delta) wellFormedDelta
      obtain ⟨next, sent, soundNext⟩ :=
        takeContent_sound strip soundFed wellFormed wellFormedDelta.content
      refine ⟨next, ?_, soundNext⟩
      rw [takeChoice, found]
      dsimp only
      rw [taken]
      exact sent

theorem takeLine_sound (strip : Strip) (sound : Sound reading) {line : Text}
    (wellFormed : WellFormedLine json line) :
    ∃ next, takeLine json strip reading line = .ok next ∧ Sound next := by
  unfold takeLine
  split
  · rename_i isData
    dsimp only
    split
    · exact ⟨_, rfl, isText_orElse sound.finishReason (Or.inr ⟨_, rfl⟩), sound.calls, sound.quiet⟩
    · rename_i notDone
      obtain done | garbled | ⟨chunk, loaded, chunkFormed⟩ := wellFormed isData
      · exact absurd done notDone
      · rw [garbled]
        exact ⟨reading, rfl, sound⟩
      · rw [loaded]
        exact takeChunk_sound strip sound chunkFormed
  · exact ⟨reading, rfl, sound⟩

theorem takeEvent_sound (sound : Sound reading) {event : Text}
    (wellFormed : WellFormedEvent json event) : Sound (takeEvent json strip reading event) := by
  have lines : ∀ {reading}, Sound reading → ∀ lines : List Text,
      (∀ line ∈ lines, WellFormedLine json line) →
      ∃ next, lines.foldlM (takeLine json strip) reading = .ok next ∧ Sound next := by
    intro reading sound lines each
    induction lines generalizing reading with
    | nil => exact ⟨reading, rfl, sound⟩
    | cons line rest inductionHypothesis =>
      obtain ⟨next, taken, soundNext⟩ :=
        takeLine_sound strip sound (each line List.mem_cons_self)
      rw [List.foldlM_cons, taken]
      exact inductionHypothesis soundNext fun other member =>
        each other (List.mem_cons_of_mem _ member)
  have started : Sound { reading with events := reading.events ++ [event] } :=
    ⟨sound.finishReason, sound.calls, sound.quiet⟩
  obtain ⟨next, taken, soundNext⟩ := lines started _ wellFormed
  rw [takeEvent, if_neg (ne_true_of_eq_false sound.quiet), taken]
  exact soundNext

end Reader

/-- Reading an answer of well-formed chunks does not raise. -/
theorem readAnswer_sound {json : JsonModule} {decoder : Decoder CodePoint}
    {chunks : List (List UInt8)} {complete : Bool}
    (wellFormed : ∀ event ∈ eventsOf (aiterText decoder chunks complete).flatten,
      WellFormedEvent json event) (strip : Strip) :
    Sound (readAnswer json strip decoder chunks complete) := by
  rw [readAnswer_eq]
  exact List.foldlRecOn _ _ ⟨Or.inl rfl, fun _ member => absurd member List.not_mem_nil, rfl⟩
    fun _ sound event member => takeEvent_sound sound (wellFormed event member)

/-! ### Chunks that were written -/

/-- The bytes of a text in ASCII. -/
def bytesOf (content : Text) : List UInt8 := content.map fun point => UInt8.ofNat point.val

/-- ASCII is decoded as it is. -/
theorem run_utf8_bytesOf {content : Text} (ascii : ∀ point ∈ content, point.val < 0x80) :
    utf8.run none (bytesOf content) = (content, none) := by
  induction content with
  | nil => rfl
  | cons point rest inductionHypothesis =>
    have small := ascii point List.mem_cons_self
    have value : (UInt8.ofNat point.val).toNat = point.val :=
      Nat.mod_eq_of_lt (Nat.lt_trans small (by decide))
    have decoded : utf8.decode (UInt8.ofNat point.val) none = ([point], none) := by
      show Text.decodeStart (UInt8.ofNat point.val).toNat = _
      rw [Text.decodeStart, value, if_pos small, Fin.ofNat_val_eq_self]
    have later := inductionHypothesis fun other member => ascii other (List.mem_cons_of_mem _ member)
    show ((utf8.decode (UInt8.ofNat point.val) none).1 ++
        (utf8.run (utf8.decode (UInt8.ofNat point.val) none).2 (bytesOf rest)).1,
      (utf8.run (utf8.decode (UInt8.ofNat point.val) none).2 (bytesOf rest)).2) = _
    rw [decoded, later]
    rfl

/-- A line and the blank line after it are one event. -/
theorem eventsOf_line {line : Text} (single : (0xA : CodePoint) ∉ line) :
    eventsOf (line ++ newline ++ newline) = [line] := by
  have cut : Framing.cutAt (newline ++ newline) (line ++ newline ++ newline) = some (line, []) := by
    have found := Framing.cutAt_append single newline []
    rw [List.append_nil] at found
    rw [List.append_assoc]
    exact found
  rw [eventsOf, Framing.drain_of_some cutAt_blankLine_lawful cut,
    Framing.drain_of_none cutAt_blankLine_lawful rfl]

theorem strip_braced (middle : Text) : Text.strip CodePoint.isSpace
    (openBrace :: middle ++ [closeBrace]) = openBrace :: middle ++ [closeBrace] := by
  have left : Text.stripLeft CodePoint.isSpace (openBrace :: middle ++ [closeBrace]) =
      openBrace :: middle ++ [closeBrace] := List.dropWhile_cons_of_neg (by decide)
  have last : ¬ CodePoint.isSpace closeBrace = true := by decide
  rw [Text.strip, left, Text.stripRight, List.reverse_append, List.reverse_singleton,
    List.singleton_append, List.dropWhile_cons_of_neg last, List.reverse_cons, List.reverse_reverse]

/-- An answer of one chunk, as `json.dumps` writes it, is one event of one line, and is read as the
chunk. -/
theorem reads_written {json : JsonModule} {chunk : List (Text × Json)} {written : Text}
    (named : JsonText.NamesConstants json.nonFinite)
    (restorable : JsonText.Restorable json.floats (.obj chunk))
    (dumped : json.dumps (.obj chunk) = some written) :
    eventsOf (aiterText utf8 [bytesOf (text "data: " ++ written ++ newline ++ newline)] true).flatten =
        [text "data: " ++ written] ∧
      (text "data: " ++ written).splitOn 0xA = [text "data: " ++ written] ∧
      (text "data: " ++ written).startsWith (text "data: ") = true ∧
      Text.strip CodePoint.isSpace ((text "data: " ++ written).drop 6) = written ∧
      written ≠ text "[DONE]" ∧ json.loads written = .ok (.obj chunk) := by
  obtain ⟨printable, loaded⟩ := JsonText.loads_write named restorable dumped
  obtain ⟨middle, braced⟩ := write_obj_braces dumped
  have line : ∀ point ∈ text "data: " ++ written, 0x20 ≤ point.val ∧ point.val ≤ 0x7E :=
    List.forall_mem_append.mpr ⟨JsonText.printable_of_all (by decide), printable⟩
  have single : (0xA : CodePoint) ∉ text "data: " ++ written := fun member =>
    absurd (line _ member).1 (by decide)
  have ascii : ∀ point ∈ text "data: " ++ written ++ newline ++ newline, point.val < 0x80 := by
    have feed : ∀ point ∈ newline, point.val < 0x80 := List.forall_mem_singleton.mpr (by decide)
    refine List.forall_mem_append.mpr ⟨List.forall_mem_append.mpr ⟨fun point member => ?_, feed⟩, feed⟩
    exact Nat.lt_of_le_of_lt (line point member).2 (by decide)
  have dropped : (text "data: " ++ written).drop 6 = written := rfl
  refine ⟨?_, List.splitOn_eq_singleton single, List.isPrefixOf_iff_prefix.mpr
    (List.prefix_append _ _), ?_, ?_, loaded⟩
  · rw [flatten_aiterText, List.flatten_singleton]
    show eventsOf ((utf8.run none _).1 ++ utf8.flush (utf8.run none _).2) = _
    rw [run_utf8_bytesOf ascii]
    show eventsOf (_ ++ []) = _
    rw [List.append_nil, eventsOf_line single]
  · rw [dropped, braced, strip_braced]
  · rw [braced]
    intro same
    have first := (List.cons.inj (same : openBrace :: (middle ++ [closeBrace]) = _)).1
    exact absurd (congrArg Fin.val first) (by decide)

end ToolLoop

end LocalGpuCluster
