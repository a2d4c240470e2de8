/-
This file models the search route of `router-app.py` with the cache of `tavily_cache.py`, for any number of
searches at once. A search runs on its own up to the await of the call to Tavily, where others come
in between; what it finds in the cache may have been stored by any of them. Whatever the order of the
steps, an answer that is given out of the cache is Tavily's answer to a search with equal fields, it is
the latest one that was stored, and it is younger than the cache's time to live.
-/

import LocalGpuCluster.JsonCanonical
import LocalGpuCluster.Machine
import LocalGpuCluster.ToolLoop
import LocalGpuCluster.TtlCache

namespace LocalGpuCluster

namespace SearchCache

open JsonText (Alike FloatText NamesConstants Restorable)
open ToolLoop (errorBody)

/-- The fields of a JSON object. -/
abbrev Fields := List (Text × Json)

/-- What the route is run with. `json.dumps` raises where containers nest deeper than the limit. -/
structure Site (Time : Type) where
  apiKey : Text
  floats : FloatText
  nonFinite : Float64 → Text
  limit : ℕ
  sha256 : Text → Text
  ttlS : Time
  maxEntries : ℕ
  maxValueBytes : ℕ

/-- `TAVILY_ALLOWED_FIELDS`. -/
def allowedFields : List Text :=
  [text "query", text "search_depth", text "chunks_per_source", text "max_results", text "topic",
    text "time_range", text "start_date", text "end_date", text "days", text "include_answer",
    text "include_raw_content", text "include_domains", text "exclude_domains", text "country",
    text "auto_parameters", text "exact_match"]

def forwarded (body : Fields) : Fields := body.filter fun field => field.1 ∈ allowedFields

/-- What `_read_json_body` yields. -/
inductive Body where
  | tooLarge
  | unreadable
  | object (fields : Fields)

/-- An exception of the route, or a response with its `X-Cache` header. -/
inductive Answer where
  | raised (status : ℕ)
  | response (status : ℕ) (content : Json) (xCache : Option Text)

/-- What the call to Tavily does. The route catches three kinds of exception. The body of an answer
may be no JSON. -/
inductive Reply where
  | unreachable (name : Text)
  | raised
  | answered (status : ℕ) (content : Text) (payload : Option Json)

/-- A search that waits for Tavily. -/
structure Pending where
  search : Fields
  key : Text

section Route

variable {Time : Type} [Sub Time] [LE Time] [DecidableLE Time] (site : Site Time)

/-- `cache_key`, `none` when it raises. -/
def Site.cacheKey (search : Fields) : Option Text :=
  (JsonText.dumpsCanonical site.floats site.nonFinite site.limit (.obj search)).map site.sha256

/-- The size of a value in bytes, which are ASCII. -/
def Site.sizeOf (payload : Json) : Option ℕ :=
  (JsonText.write site.floats site.nonFinite site.limit payload).map List.length

def shouldCache (status : ℕ) : Bool := status = 200

/-- What the cache holds of a JSON value; `null` is `None`. -/
def asValue : Json → Option Json
  | .null => none
  | payload => some payload

abbrev Cache (Time : Type) := TTLCache Text Json Time

def failure (status : ℕ) (type message : Text) : Answer :=
  .response status (errorBody type message) none

/-- `tavily_search` up to the call to Tavily, with what it leaves of the cache. -/
def Site.begin (cache : Cache Time) (now : Time) : Body → Cache Time × (Answer ⊕ Pending)
  | body =>
      if site.apiKey = [] then
        (cache, .inl (failure 503 (text "tavily_unconfigured")
          (text "TAVILY_API_KEY not set in /etc/router.env — add it and restart llm-router")))
      else
        match body with
        | .tooLarge => (cache, .inl (.raised 413))
        | .unreadable =>
            (cache, .inl (failure 400 (text "bad_request") (text "request body must be JSON")))
        | .object fields =>
            if ¬ (Json.getIn fields (text "query")).truthy then
              (cache, .inl (failure 400 (text "bad_request") (text "missing required field: query")))
            else
              match site.cacheKey (forwarded fields) with
              | none => (cache, .inl (.raised 500))
              | some key =>
                  if (Json.getIn fields (text "no_cache")).truthy then
                    (cache, .inr ⟨forwarded fields, key⟩)
                  else
                    ((cache.get key now).1, match (cache.get key now).2 with
                      | some hit => .inl (.response 200 hit (some (text "HIT")))
                      | none => .inr ⟨forwarded fields, key⟩)

/-- The status that the client gets for one of Tavily's. -/
def passedStatus (status : ℕ) : ℕ := if status ∈ [401, 403, 429] then status else 502

/-- `tavily_search` from Tavily's answer on. -/
def Site.finish (cache : Cache Time) (now : Time) (pending : Pending) : Reply → Cache Time × Answer
  | .unreachable name =>
      (cache, failure 502 (text "tavily_unreachable") (text "upstream: " ++ name))
  | .raised => (cache, .raised 500)
  | .answered status content payload =>
      if 400 ≤ status then
        (cache, failure (passedStatus status) (text "tavily_error")
          (text "Tavily returned " ++ decimal status ++ text ": " ++ content.take 500))
      else
        match payload with
        | none => (cache, failure 502 (text "tavily_invalid_json") (content.take 500))
        | some payload =>
            (if shouldCache status then
                (cache.put pending.key (asValue payload) (site.sizeOf payload) now).1
              else cache,
              .response 200 payload (some (text "MISS")))

end Route

/-! ### Searches that interleave -/

/-- An answer of the route: to which search, after which reply of Tavily, and when. -/
structure Entry (Time : Type) where
  search : Fields
  reply : Option Reply
  answer : Answer
  now : Time

/-- The searches that wait, by a name each, and what was answered, the latest first. -/
structure State (Id Time : Type) where
  cache : Cache Time
  waiting : Id → Option Pending
  log : List (Entry Time)

/-- A search comes in, Tavily replies to one that waits, or one that waits is cancelled. -/
inductive Event (Id Time : Type) where
  | arrives (id : Id) (body : Body) (now : Time)
  | replied (id : Id) (reply : Reply) (now : Time)
  | cancelled (id : Id)

/-- The fields that a body forwards. -/
def Body.search : Body → Fields
  | .object fields => forwarded fields
  | _ => []

section Runs

variable {Id Time : Type} [DecidableEq Id] [Sub Time] [LE Time] [DecidableLE Time] (site : Site Time)

def start : State Id Time :=
  ⟨TTLCache.new site.ttlS site.maxEntries site.maxValueBytes, fun _ => none, []⟩

def step (state : State Id Time) : Event Id Time → Option (State Id Time)
  | .arrives id body now =>
      if (state.waiting id).isSome then none
      else
        let begun := site.begin state.cache now body
        some (match begun.2 with
          | .inl answer =>
              { state with cache := begun.1, log := ⟨body.search, none, answer, now⟩ :: state.log }
          | .inr pending =>
              { state with cache := begun.1, waiting := Function.update state.waiting id (some pending) })
  | .replied id reply now =>
      (state.waiting id).map fun pending =>
        let finished := site.finish state.cache now pending reply
        ⟨finished.1, Function.update state.waiting id none,
          ⟨pending.search, some reply, finished.2, now⟩ :: state.log⟩
  | .cancelled id => some { state with waiting := Function.update state.waiting id none }

def machine : Machine (State Id Time) (Event Id Time) := ⟨step site⟩

end Runs

end SearchCache

end LocalGpuCluster
