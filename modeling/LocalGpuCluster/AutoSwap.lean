/-
This file models how `chat_completions` of `router-app.py` gets a request to the model it
names: the profile check, `trigger_swap_and_wait`, the queue for a chat slot and the forward
to the upstream. They are separate steps with awaits between them, so an event of the model is
what one task does between two awaits, and the events of any number of requests interleave.

The chat unit is reachable and `PROFILE_CACHE_TTL` is zero, so `get_active_backend` reads the
loaded backend. It changes when a webhook order that `trigger_swap_and_wait` posted runs, which
can be after the task that posted it has timed out or was cancelled. Requests are the owner's:
`may_swap` holds and the gate is the chat gate.
-/

import LocalGpuCluster.Admission

namespace LocalGpuCluster

namespace AutoSwap

open Admission (AdmissionGate)

/-! ### Aliases and profiles -/

/-- `ALIAS_MAP`: the client-facing aliases, each with its `backend`. -/
def aliasMap : List (String × String) :=
  [("rag-qwen3.6", "rag-qwen3.6"), ("qwen3.6-think", "rag-qwen3.6"), ("qwen3.6", "rag-qwen3.6"),
    ("rag-qwen3.6-fast", "rag-qwen3.6-fast"), ("qwen3.6-fast-think", "rag-qwen3.6-fast"),
    ("qwen3.6-fast", "rag-qwen3.6-fast"), ("devstral", "devstral"),
    ("devstral-large", "devstral-large"), ("rag-qwen3.8", "qwen3.8"),
    ("qwen3.8-nothink", "qwen3.8"), ("qwen3.8-think", "qwen3.8"), ("qwen3.8", "qwen3.8"),
    ("qwen3.8-xhigh", "qwen3.8"), ("hemmingway", "hemmingway"),
    ("qwen3.8-redteam", "qwen3.8-redteam"), ("qwen3.8-redteam-think", "qwen3.8-redteam")]

/-- `BACKEND_TO_PROFILE`: the profile `swap-chat-model.sh` loads a backend by. -/
def backendToProfile : List (String × String) :=
  [("rag-qwen3.6", "qwen3.6"), ("rag-qwen3.6-fast", "qwen3.6-fast"), ("devstral", "devstral"),
    ("devstral-large", "devstral-large"), ("qwen3.8", "qwen3.8"), ("hemmingway", "hemmingway"),
    ("qwen3.8-redteam", "qwen3.8-redteam")]

/-- The backend of `resolve_alias`: an unknown model passes through unchanged. -/
def resolveAlias (model : String) : String := (aliasMap.lookup model).getD model

/-- `is_swap_exempt`: the `rag-` family is served on whatever is loaded. -/
def isSwapExempt (model : String) : Bool := "rag-".toList.isPrefixOf model.toList

/-- The backend that is loaded once `swap-chat-model.sh` has run for a profile. -/
def profileBackend (profile : String) : Option String :=
  (backendToProfile.find? fun entry => entry.2 = profile).map Prod.fst

/-- Every backend an alias names has a profile, and that profile loads it. -/
theorem profile_of_alias : ∀ entry ∈ aliasMap,
    ((backendToProfile.lookup entry.2).bind profileBackend) = some entry.2 := by
  decide

structure Config where
  strictProfileMatch : Bool
  swapWebhookUrl : String
  swapWebhookKey : String

/-- The profile check applies to the model. -/
def Config.checks (config : Config) (model : String) : Bool :=
  config.strictProfileMatch && (aliasMap.lookup model).isSome && !isSwapExempt model

/-! ### Requests -/

/-- Where the handler, or the stream it returned, stands. -/
inductive Place where
  /-- Before `get_active_backend` of the profile check. -/
  | arrived
  /-- Not streaming: awaiting `trigger_swap_and_wait(wanted)`, without a slot. -/
  | swapping
  /-- Streaming: `hold_slot(chat_sem, _swap_then_stream(), …)` waits for its slot. -/
  | swapQueued
  /-- Streaming: inside `_swap_then_stream`, which holds the slot. -/
  | swapHolding
  /-- Past the check, awaiting `count_tokens`. -/
  | counting
  /-- Waiting for a chat slot in `hold_slot` or `admitted`. -/
  | queued
  /-- Holding the slot, the next request to the upstream not sent yet. -/
  | admitted
  /-- Holding the slot, the upstream is answering. -/
  | serving
  | ended
  deriving DecidableEq, Repr

/-- Where the request's call of `trigger_swap_and_wait` stands. -/
inductive Swap where
  | notCalled
  /-- In `async with _swap_lock`. -/
  | waitingLock
  /-- Holding the lock, in the first `get_active_backend`. -/
  | rechecking
  /-- Holding the lock, in the `POST` to the webhook. -/
  | posting
  /-- Holding the lock, in the confirmation loop. -/
  | confirming
  /-- Holding the lock, the backend confirmed, in `refresh_capacity_once`. -/
  | refreshing
  | returned (ok : Bool)
  | cancelled
  deriving DecidableEq, Repr

/-- The webhook order a request has posted. -/
inductive Order where
  | none
  /-- Accepted; `swap-chat-model.sh` has not switched the backend yet. -/
  | outstanding (profile : String)
  | ran
  | failed
  deriving DecidableEq, Repr

structure Request where
  model : String
  stream : Bool
  /-- `tool_execution` is `server`: the tool loop asks the upstream repeatedly. -/
  serverTools : Bool
  place : Place
  swap : Swap
  order : Order
  /-- The backend that was loaded at each forward, latest first. -/
  served : List String
  deriving DecidableEq, Repr

namespace Request

def new (model : String) (stream serverTools : Bool) : Request :=
  { model, stream, serverTools, place := .arrived, swap := .notCalled, order := .none
    served := [] }

/-- `wanted_backend`. -/
def wanted (request : Request) : String := resolveAlias request.model

/-- The request's swap task is inside `async with _swap_lock`. -/
def locking (request : Request) : Bool :=
  match request.swap with
  | .rechecking | .posting | .confirming | .refreshing => true
  | _ => false

/-- The request has a chat slot. -/
def holdsSlot (request : Request) : Bool :=
  match request.place with
  | .swapHolding | .admitted | .serving => true
  | _ => false

/-- The upstream is asked by the tool loop; a stream that swapped its model in is passed
through whatever `tool_execution` says. -/
def asksAgain (request : Request) : Bool :=
  request.serverTools && (!request.stream || request.swap = .notCalled)

end Request

/-! ### Segments -/

/-- What the tasks share: the loaded backend, the chat gate and `_swap_lock`. -/
structure Shared where
  loaded : String
  gate : AdmissionGate
  locked : Bool

structure Turn where
  shared : Shared
  request : Request

inductive Action where
  /-- The profile check, as far as the read of the loaded backend decides it. -/
  | check
  /-- `_swap_then_stream` creates its swap task. -/
  | createSwap
  | takeLock
  /-- The re-check under the lock. -/
  | recheck
  /-- The webhook answers 200 once the order ran; anything else is a failure. -/
  | webhookAnswer (ok : Bool)
  /-- One confirmation read. -/
  | poll
  /-- The confirmation loop runs out of time. -/
  | pollDeadline
  /-- `refresh_capacity_once` is through. -/
  | refreshed
  /-- The handler or the stream goes on with the result of its swap. -/
  | resume
  /-- `count_tokens` answers, and the input fits or does not. -/
  | countTokens (fits : Bool)
  | takeSlot
  | forward
  /-- The upstream's answer ends; the tool loop may ask again. -/
  | answered (again : Bool)
  /-- `_swap_then_stream` gives up after `_swap_wall_limit`. -/
  | wallLimit
  | disconnect
  deriving DecidableEq, Repr

/-- `trigger_swap_and_wait` up to its first await. -/
def triggerSwap (config : Config) (wanted : String) : Swap :=
  if (backendToProfile.lookup wanted).isNone || config.swapWebhookUrl = "" ||
      config.swapWebhookKey = "" then .returned false
  else .waitingLock

/-- The profile check of `chat_completions`. -/
def check (config : Config) (shared : Shared) (request : Request) : Request :=
  if config.checks request.model && request.wanted ≠ shared.loaded then
    if config.swapWebhookUrl ≠ "" && (backendToProfile.lookup request.wanted).isSome then
      if request.stream then { request with place := .swapQueued }
      else { request with place := .swapping, swap := triggerSwap config request.wanted }
    else
      -- 409, profile_mismatch
      { request with place := .ended }
  else { request with place := .counting }

/-- The swap task ends and leaves the lock if it was inside it. -/
def endSwap (shared : Shared) (request : Request) (swap : Swap) : Turn :=
  { shared := { shared with locked := shared.locked && !request.locking }
    request := { request with swap } }

/-- The request ends and gives its slot back if it has one. -/
def finish (shared : Shared) (request : Request) : Turn :=
  { shared := { shared with gate := if request.holdsSlot then shared.gate.give else shared.gate }
    request := { request with place := .ended } }

/-- `swap_task.cancel()`, or the cancellation of the handler that awaits the swap; nothing
happens to a swap that is through. -/
def cancelSwap (shared : Shared) (request : Request) : Turn :=
  match request.swap with
  | .notCalled | .returned _ | .cancelled => { shared, request }
  | _ => endSwap shared request .cancelled

/-- One segment of one request, `none` when the action cannot happen. -/
def segment (config : Config) (shared : Shared) (request : Request) : Action → Option Turn
  | .check =>
      if request.place = .arrived then some { shared, request := check config shared request }
      else none
  | .createSwap =>
      if request.place = .swapHolding && request.swap = .notCalled then
        some { shared, request := { request with swap := triggerSwap config request.wanted } }
      else none
  | .takeLock =>
      if request.swap = .waitingLock && !shared.locked then
        some { shared := { shared with locked := true }
               request := { request with swap := .rechecking } }
      else none
  | .recheck =>
      if request.swap = .rechecking then
        if shared.loaded = request.wanted then some (endSwap shared request (.returned true))
        else
          some { shared
                 request := { request with
                   swap := .posting
                   order := .outstanding ((backendToProfile.lookup request.wanted).getD "") } }
      else none
  | .webhookAnswer ok =>
      if request.swap = .posting then
        if ok then
          if request.order = .ran then
            some { shared, request := { request with swap := .confirming } }
          else none
        else some (endSwap shared request (.returned false))
      else none
  | .poll =>
      if request.swap = .confirming then
        if shared.loaded = request.wanted then
          some { shared, request := { request with swap := .refreshing } }
        else some { shared, request }
      else none
  | .pollDeadline =>
      if request.swap = .confirming then some (endSwap shared request (.returned false)) else none
  | .refreshed =>
      if request.swap = .refreshing then some (endSwap shared request (.returned true)) else none
  | .resume =>
      match request.place, request.swap with
      | .swapping, .returned true => some { shared, request := { request with place := .counting } }
      | .swapHolding, .returned true =>
          some { shared, request := { request with place := .admitted } }
      | .swapping, .returned false | .swapHolding, .returned false =>
          -- 503 auto-swap-failed, or the degraded frame
          some (finish shared request)
      | _, _ => none
  | .countTokens fits =>
      if request.place = .counting then
        if fits then some { shared, request := { request with place := .queued } }
        else some (finish shared request)
      else none
  | .takeSlot =>
      if shared.gate.hasRoom then
        match request.place with
        | .swapQueued =>
            some { shared := { shared with gate := shared.gate.take }
                   request := { request with place := .swapHolding } }
        | .queued =>
            some { shared := { shared with gate := shared.gate.take }
                   request := { request with place := .admitted } }
        | _ => none
      else none
  | .forward =>
      if request.place = .admitted then
        some { shared
               request := { request with
                 place := .serving, served := shared.loaded :: request.served } }
      else none
  | .answered again =>
      if request.place = .serving then
        if again then
          if request.asksAgain then
            some { shared, request := { request with place := .admitted } }
          else none
        else some (finish shared request)
      else none
  | .wallLimit =>
      match request.place, request.swap with
      | .swapHolding, .notCalled | .swapHolding, .returned _ => none
      | .swapHolding, _ =>
          let turn := cancelSwap shared request
          some (finish turn.shared turn.request)
      | _, _ => none
  | .disconnect =>
      match request.place with
      | .ended => none
      | .swapping =>
          let turn := cancelSwap shared request
          some (finish turn.shared turn.request)
      -- The task that `_swap_then_stream` created is not cancelled with the stream.
      | _ => some (finish shared request)

/-! ### The machine -/

structure State (Index : Type) where
  shared : Shared
  requests : Index → Request

inductive Event (Index : Type) where
  | request (index : Index) (action : Action)
  /-- The order of a request switches the backend. -/
  | webhookRuns (index : Index)
  | webhookFails (index : Index)
  | setCapacity (capacity : ℤ)

/-- The backend an order switches to. -/
def Order.backend : Order → Option String
  | .outstanding profile => profileBackend profile
  | _ => .none

variable {Index : Type} [DecidableEq Index]

def machine (config : Config) : Machine (State Index) (Event Index) where
  step state
    | .request index action =>
        (segment config state.shared (state.requests index) action).map fun turn =>
          { shared := turn.shared
            requests := Function.update state.requests index turn.request }
    | .webhookRuns index =>
        ((state.requests index).order.backend).map fun backend =>
          { shared := { state.shared with loaded := backend }
            requests := Function.update state.requests index
              { state.requests index with order := .ran } }
    | .webhookFails index =>
        match (state.requests index).order with
        | .outstanding _ =>
            some { state with
              requests := Function.update state.requests index
                { state.requests index with order := .failed } }
        | _ => none
    | .setCapacity capacity =>
        some { state with
          shared := { state.shared with gate := state.shared.gate.setCapacity capacity } }

/-- A loaded backend, an empty gate, and requests that have just arrived. -/
def initial (loaded : String) (capacity : ℤ) (models : Index → String)
    (stream serverTools : Index → Bool) : State Index where
  shared := { loaded, gate := .new capacity, locked := false }
  requests index := .new (models index) (stream index) (serverTools index)

end AutoSwap

end LocalGpuCluster
