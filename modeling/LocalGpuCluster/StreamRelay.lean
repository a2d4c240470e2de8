/-
This file models how `router-app.py` relays the event stream of the chat unit. A background task
puts what it reads into a queue; the generator takes it out, chunk by chunk, and writes a keepalive
comment whenever the queue stayed empty for `KEEPALIVE_INTERVAL`, or the degraded frames when the
upstream failed or `MAX_STREAM_SECONDS` went by. It writes those frames wherever the last chunk
ended. So for a given cut into chunks every run reaches the client as the upstream's events exactly
when no chunk ends inside an event.
-/

import LocalGpuCluster.AnswerStrip
import LocalGpuCluster.EventStream

namespace LocalGpuCluster

namespace StreamRelay

open AnswerStrip (Strip)
open EventStream (Client ServerEvent events Complete lineFeed message)

/-! ### The two wrappers -/

/-- What the queue carries. -/
inductive Message where
  | data (chunk : Text)
  | degraded
  | eof
  deriving DecidableEq, Repr

/-- What the upstream does: the status it answers with, the chunks its text arrives in, and after
how many of them the connection fails, if it does. -/
structure Upstream where
  status : ℕ
  chunks : List Text
  failsAfter : Option ℕ

/-- `upstream_reader`: what it puts into the queue. -/
def upstreamReader (upstream : Upstream) : List Message :=
  if 500 ≤ upstream.status then [.degraded]
  else
    match upstream.failsAfter with
    | none => upstream.chunks.map .data ++ [.eof]
    | some count => (upstream.chunks.take count).map .data ++ [.degraded]

/-- What one turn of the generator's loop meets. -/
inductive Wait where
  /-- `MAX_STREAM_SECONDS` went by. -/
  | tooLate
  /-- `wait_for` timed out. -/
  | timeout
  /-- The next message of the queue. -/
  | arrives
  deriving DecidableEq, Repr

def ping : Text := text ": ping" ++ [lineFeed, lineFeed]

/-- `json.dumps(_error_body("service_degraded", …))`. -/
def degradedBody : Text :=
  text ("\x7b\"error\": \x7b\"type\": \"service_degraded\", \"message\": " ++
    "\"upstream returned an error; retry shortly\", \"code\": null\x7d\x7d")

def degradedFrame : Text := text "data: " ++ degradedBody ++ [lineFeed, lineFeed]
def doneFrame : Text := text "data: [DONE]" ++ [lineFeed, lineFeed]

/-- `sse_passthrough_with_keepalive`, or `sse_stream_with_keepalive` with what it strips. -/
inductive Wrapper where
  | passthrough
  | stream (strip : Strip)
  deriving DecidableEq, Repr

/-- What a wrapper makes of a chunk. -/
def Wrapper.rewrite : Wrapper → Text → Text
  | .passthrough, chunk => chunk
  | .stream strip, chunk => strip.apply chunk

/-- What the loop writes: turn by turn, from the messages of the queue. -/
def loop (rewrite : Text → Text) : List Wait → List Message → List Text
  | [], _ => []
  | .tooLate :: _, _ => [degradedFrame, doneFrame]
  | .timeout :: waits, queue => ping :: loop rewrite waits queue
  | .arrives :: _, [] => []
  | .arrives :: _, .degraded :: _ => [degradedFrame, doneFrame]
  | .arrives :: _, .eof :: _ => []
  | .arrives :: waits, .data chunk :: queue => rewrite chunk :: loop rewrite waits queue

/-- What the client gets. -/
def relay (wrapper : Wrapper) (waits : List Wait) (queue : List Message) : Text :=
  (ping :: loop wrapper.rewrite waits queue).flatten

/-- The chunks that the loop has taken from the queue. -/
def taken : List Wait → List Message → List Text
  | .timeout :: waits, queue => taken waits queue
  | .arrives :: waits, .data chunk :: queue => chunk :: taken waits queue
  | _, _ => []

/-- The loop gave up. -/
def fails : List Wait → List Message → Bool
  | .tooLate :: _, _ => true
  | .timeout :: waits, queue => fails waits queue
  | .arrives :: _, .degraded :: _ => true
  | .arrives :: waits, .data _ :: queue => fails waits queue
  | _, _ => false

/-! ### What the client is to see -/

def errorEvent : ServerEvent := { type := message, data := degradedBody }
def doneEvent : ServerEvent := { type := message, data := text "[DONE]" }

/-- The events that follow those of the upstream. -/
def ending (failed : Bool) : List ServerEvent := if failed then [errorEvent, doneEvent] else []

/-- The client sees the events that the upstream sent so far, and after a failure the two that
say so. -/
def Relayed (wrapper : Wrapper) (waits : List Wait) (queue : List Message) : Prop :=
  events (relay wrapper waits queue) = events (taken waits queue).flatten ++ ending (fails waits queue)

instance (wrapper : Wrapper) (waits : List Wait) (queue : List Message) :
    Decidable (Relayed wrapper waits queue) :=
  instDecidableEqList _ _

/-- Chunks as a wrapper passes them on. -/
def Wrapper.rewritten (wrapper : Wrapper) (chunks : List Text) : Text :=
  (chunks.map wrapper.rewrite).flatten

/-- The chunks end outside every event, and rewriting them changes none. -/
def Clean (wrapper : Wrapper) (chunks : List Text) : Prop :=
  Complete (wrapper.rewritten chunks) ∧ events (wrapper.rewritten chunks) = events chunks.flatten

/-! ### The frames -/

section Frames

variable {client other : Client}

theorem feed_ping (client : Client) : client.feed ping = client.takeFrame (text ": ping") :=
  Client.feed_frame (by decide) (by decide) client

theorem feed_degradedFrame (client : Client) :
    client.feed degradedFrame = client.takeFrame (text "data: " ++ degradedBody) :=
  Client.feed_frame (by decide) (by decide) client

theorem feed_doneFrame (client : Client) :
    client.feed doneFrame = client.takeFrame (text "data: " ++ text "[DONE]") :=
  Client.feed_frame (by decide) (by decide) client

/-- Between events a keepalive is nothing. -/
theorem alike_ping (alike : client.Alike other) (between : other.Between) :
    (client.feed ping).Alike other := by
  obtain ⟨line, data, type⟩ := alike.between between
  rw [feed_ping]
  have named : EventStream.fieldName (client.line ++ text ": ping") ≠ text "data" := by
    rw [line]
    decide
  refine ⟨between.1.symm, between.2.1.symm, between.2.2.symm, ?_, Or.inr ⟨rfl, rfl, rfl⟩⟩
  exact ((Client.takeFrame_events_of_other named).mpr data).trans alike.events

theorem feed_done (between : client.Between) :
    (client.feed doneFrame).events = client.events ++ [doneEvent] := by
  rw [feed_doneFrame]
  exact Client.takeFrame_data between _

/-- The degraded frames end with the last event, whatever the first one did. -/
theorem feed_degraded_done (client : Client) :
    (client.feed (degradedFrame ++ doneFrame)).events =
      (client.feed degradedFrame).events ++ [doneEvent] := by
  rw [Client.feed_append]
  refine feed_done ?_
  rw [feed_degradedFrame]
  exact Client.takeFrame_between _ _

/-- Between events the degraded frames are their two events. -/
theorem feed_degraded (between : client.Between) :
    (client.feed (degradedFrame ++ doneFrame)).events = client.events ++ [errorEvent, doneEvent] := by
  have error : (client.feed degradedFrame).events = client.events ++ [errorEvent] := by
    rw [feed_degradedFrame]
    exact Client.takeFrame_data between _
  rw [feed_degraded_done, error, List.append_assoc]
  rfl

end Frames

/-! ### What every run gives -/

theorem upstreamReader_eq (upstream : Upstream) : ∃ (count : ℕ) (failed : Bool),
    upstreamReader upstream =
      (upstream.chunks.take count).map .data ++ [if failed then .degraded else .eof] := by
  unfold upstreamReader
  split
  · exact ⟨0, true, rfl⟩
  · cases upstream.failsAfter with
    | none => exact ⟨upstream.chunks.length, false, by rw [List.take_length]; rfl⟩
    | some count => exact ⟨count, true, rfl⟩

/-- The client has read the upstream's chunks, pings between them and the frames of a failure,
where every number of chunks ends between events. -/
theorem events_feed_loop {wrapper : Wrapper} (failed : Bool) (waits : List Wait)
    {chunks : List Text} {client other : Client} (alike : client.Alike other)
    (between : ∀ count, (other.feed (wrapper.rewritten (chunks.take count))).Between) :
    let queue := chunks.map .data ++ [if failed then Message.degraded else .eof]
    (client.feed (loop wrapper.rewrite waits queue).flatten).events =
      (other.feed (wrapper.rewritten (taken waits queue))).events ++ ending (fails waits queue) := by
  have here : other.Between := between 0
  have degraded : (client.feed [degradedFrame, doneFrame].flatten).events =
      other.events ++ ending true := by
    rw [← alike.events]
    exact feed_degraded (alike.between here)
  induction waits generalizing chunks client other with
  | nil => exact alike.events.trans (List.append_nil _).symm
  | cons wait waits inductionHypothesis =>
    intro queue
    cases wait with
    | tooLate => exact degraded
    | timeout =>
      show (client.feed (ping ++ (loop wrapper.rewrite waits queue).flatten)).events = _
      rw [Client.feed_append]
      have still := alike_ping alike here
      refine inductionHypothesis still between here ?_
      rw [← still.events]
      exact feed_degraded (still.between here)
    | arrives =>
      cases chunks with
      | nil =>
        cases failed with
        | true => exact degraded
        | false => exact alike.events.trans (List.append_nil _).symm
      | cons chunk chunks =>
        show (client.feed (wrapper.rewrite chunk ++ (loop wrapper.rewrite waits _).flatten)).events =
          (other.feed (wrapper.rewrite chunk ++ wrapper.rewritten (taken waits _))).events ++ _
        rw [Client.feed_append, Client.feed_append]
        have onward := alike.feed (wrapper.rewrite chunk)
        have later (count : ℕ) : ((other.feed (wrapper.rewrite chunk)).feed
            (wrapper.rewritten (chunks.take count))).Between := by
          rw [← Client.feed_append]
          exact between (count + 1)
        refine inductionHypothesis onward later (later 0) ?_
        rw [← onward.events]
        exact feed_degraded (onward.between (later 0))

/-- The loop takes the first chunks of the queue, as many as it comes to. -/
theorem taken_eq_take (failed : Bool) (waits : List Wait) (chunks : List Text) : ∃ count,
    taken waits (chunks.map .data ++ [if failed then Message.degraded else .eof]) =
      chunks.take count := by
  induction waits generalizing chunks with
  | nil => exact ⟨0, rfl⟩
  | cons wait waits inductionHypothesis =>
    cases wait with
    | tooLate => exact ⟨0, rfl⟩
    | timeout => exact inductionHypothesis chunks
    | arrives =>
      cases chunks with
      | nil => exact ⟨0, by cases failed <;> rfl⟩
      | cons chunk chunks =>
        obtain ⟨count, same⟩ := inductionHypothesis chunks
        exact ⟨count + 1, congrArg (chunk :: ·) same⟩

/-- What the client reads comes after a keepalive, which leaves it where it starts. -/
theorem events_relay (wrapper : Wrapper) (waits : List Wait) (queue : List Message) :
    events (relay wrapper waits queue) =
      (Client.start.feed (loop wrapper.rewrite waits queue).flatten).events := by
  have started : (Client.start.feed ping).Alike Client.start :=
    alike_ping (.refl _) ⟨rfl, rfl, rfl⟩
  unfold events relay
  rw [List.flatten_cons, Client.feed_append]
  exact (started.feed _).events

theorem relayed_of_clean {wrapper : Wrapper} {chunks : List Text}
    (clean : ∀ count, Clean wrapper (chunks.take count)) (failed : Bool) (waits : List Wait) :
    Relayed wrapper waits (chunks.map .data ++ [if failed then Message.degraded else .eof]) := by
  obtain ⟨count, same⟩ := taken_eq_take failed waits chunks
  unfold Relayed
  rw [events_relay, events_feed_loop failed waits (.refl Client.start) fun count => (clean count).1,
    same]
  exact congrArg (· ++ _) (clean count).2

/-! ### The runs that show where a chunk ends -/

/-- After the chunks of the queue have arrived the loop goes on with what is left of it. -/
theorem loop_arrivals (rewrite : Text → Text) (chunks : List Text) (waits : List Wait)
    (queue : List Message) :
    loop rewrite (List.replicate chunks.length .arrives ++ waits) (chunks.map .data ++ queue) =
      chunks.map rewrite ++ loop rewrite waits queue := by
  induction chunks with
  | nil => rfl
  | cons chunk chunks inductionHypothesis => exact congrArg (rewrite chunk :: ·) inductionHypothesis

theorem taken_arrivals (chunks : List Text) (waits : List Wait) (queue : List Message) :
    taken (List.replicate chunks.length .arrives ++ waits) (chunks.map .data ++ queue) =
      chunks ++ taken waits queue := by
  induction chunks with
  | nil => rfl
  | cons chunk chunks inductionHypothesis => exact congrArg (chunk :: ·) inductionHypothesis

theorem fails_arrivals (chunks : List Text) (waits : List Wait) (queue : List Message) :
    fails (List.replicate chunks.length .arrives ++ waits) (chunks.map .data ++ queue) =
      fails waits queue := by
  induction chunks with
  | nil => rfl
  | cons chunk chunks inductionHypothesis => exact inductionHypothesis

/-- What the client reads when the upstream fails after the chunks, at once or after a keepalive. -/
theorem Relayed.of_failure {wrapper : Wrapper} {chunks : List Text} {waits : List Wait}
    (relayed : Relayed wrapper (List.replicate chunks.length .arrives ++ waits)
      (chunks.map .data ++ [.degraded]))
    (none : taken waits [.degraded] = []) (failed : fails waits [.degraded] = true) :
    ((Client.start.feed (wrapper.rewritten chunks)).feed
        (loop wrapper.rewrite waits [.degraded]).flatten).events =
      events chunks.flatten ++ [errorEvent, doneEvent] := by
  unfold Relayed at relayed
  rw [events_relay, loop_arrivals, taken_arrivals, fails_arrivals, none, failed, List.append_nil,
    List.flatten_append, Client.feed_append] at relayed
  exact relayed

/-- A cut that reaches the client whole when the upstream fails after it, at once or after a
keepalive, ends between events and says what the upstream said. -/
theorem clean_of_relayed {wrapper : Wrapper} {chunks : List Text}
    (atOnce : Relayed wrapper (List.replicate chunks.length .arrives ++ [.arrives])
      (chunks.map .data ++ [.degraded]))
    (afterPing : Relayed wrapper (List.replicate chunks.length .arrives ++ [.timeout, .arrives])
      (chunks.map .data ++ [.degraded])) : Clean wrapper chunks := by
  generalize reading : Client.start.feed (wrapper.rewritten chunks) = client
  have failed : (client.feed degradedFrame).events ++ [doneEvent] =
      events chunks.flatten ++ [errorEvent] ++ [doneEvent] := by
    rw [List.append_assoc, ← feed_degraded_done, ← reading]
    exact atOnce.of_failure rfl rfl
  have pinged : (client.feed ping).events ++ [errorEvent, doneEvent] =
      events chunks.flatten ++ [errorEvent, doneEvent] := by
    rw [← feed_degraded (feed_ping client ▸ Client.takeFrame_between _ _), ← Client.feed_append,
      ← reading]
    exact afterPing.of_failure rfl rfl
  replace failed := List.append_cancel_right failed
  replace pinged := List.append_cancel_right pinged
  -- The degraded frame adds at most one event, so the keepalive added none.
  rw [feed_degradedFrame] at failed
  rw [feed_ping] at pinged
  obtain ⟨added, frame, single⟩ :=
    Client.takeFrame_events_eq_append client (text "data: " ++ degradedBody)
  obtain ⟨before, comment, _⟩ := Client.takeFrame_events_eq_append client (text ": ping")
  have none : before = [] := by
    have lengths := congrArg List.length failed
    rw [frame, ← pinged, comment] at lengths
    simp only [List.length_append, List.length_singleton] at lengths
    exact List.length_eq_zero_iff.mp (by omega)
  rw [none, List.append_nil] at comment
  have same : client.events = events chunks.flatten := comment.symm.trans pinged
  rw [← same] at failed
  refine ⟨?_, ?_⟩
  · unfold Complete
    rw [reading]
    exact Client.between_of_frames comment failed
  · unfold events
    rw [reading]
    exact same

/-- For a cut of the upstream's text into chunks, every timing and every failure reach the client
as the complete events that the upstream sent, and the error and the end after a failure, exactly
when every number of its chunks ends between events, with the rewriting changing none. -/
theorem relayed_iff_clean (wrapper : Wrapper) (chunks : List Text) :
    (∀ status failsAfter waits,
      Relayed wrapper waits (upstreamReader { status, chunks, failsAfter })) ↔
    ∀ count, Clean wrapper (chunks.take count) := by
  constructor
  · intro relayed count
    refine clean_of_relayed ?_ ?_
    · exact relayed 200 (some count) _
    · exact relayed 200 (some count) _
  · intro clean status failsAfter waits
    obtain ⟨count, failed, same⟩ := upstreamReader_eq { status, chunks, failsAfter }
    rw [same]
    refine relayed_of_clean (fun other => ?_) failed waits
    rw [List.take_take]
    exact clean _

/-- A keepalive in the middle of an event becomes part of its data, and the rest of the event is
lost; a failure there loses the error. -/
theorem not_relayed_in_event :
    ¬Relayed .passthrough [.arrives, .timeout, .arrives, .arrives]
        (upstreamReader
          { status := 200, chunks := [text "data: hel", text "lo\n\n"], failsAfter := none }) ∧
      ¬Relayed .passthrough [.arrives, .arrives]
        (upstreamReader { status := 200, chunks := [text "data: hel"], failsAfter := some 1 }) := by
  decide +kernel

end StreamRelay

end LocalGpuCluster
