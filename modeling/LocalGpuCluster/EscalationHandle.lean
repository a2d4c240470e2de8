/-
This file models `handle` of `escalation.py`. The only awaits of `handle` are those of `_post`,
so a call is three things: `arrive`, everything up to the first await in one segment; the
attempts `_post` makes; and `conclude`, everything after its outcome in one segment. Between
the two segments other calls use the same ledger.

`arrive` either refuses the call and appends the row of the refusal, or leaves a reservation;
`conclude` settles the reservation with the row of what became of the attempts.
-/

import LocalGpuCluster.EscalationLedger
import LocalGpuCluster.SafeMessage

namespace LocalGpuCluster

namespace Escalation

/-! ### Rows -/

/-- The row of a call: the fields it arrives with, what it was charged, its outcome, and when it
was done once it has been settled. -/
def callRow (now : ℚ) (chosen : Alias) (model : Option Text) (sha : Text) (briefTokens : ℕ)
    (inputTokens outputTokens : ℤ) (cost : ℚ) (outcome : Text) (done : Option ℚ) : Row :=
  [(text "ts", .float (.finite now)), (text "alias", .str chosen.name),
    (text "model", match model with | some name => .str name | none => .null),
    (text "origin", .str chosen.origin), (text "input_tokens", .int inputTokens),
    (text "output_tokens", .int outputTokens), (text "cost_usd", .float (.finite cost)),
    (text "brief_sha256", .str sha), (text "brief_tokens_est", .int briefTokens),
    (text "outcome", .str outcome)] ++
    match done with
    | some time => [(text "done_ts", .float (.finite time))]
    | none => []

section CallRow

variable (now : ℚ) (chosen : Alias) (model : Option Text) (sha : Text) (briefTokens : ℕ)
  (inputTokens outputTokens : ℤ) (cost : ℚ) (outcome : Text) (done : Option ℚ)

@[simp] theorem callRow_ts : Json.getIn (callRow now chosen model sha briefTokens inputTokens
    outputTokens cost outcome done) (text "ts") = .float (.finite now) := rfl

@[simp] theorem callRow_cost : Json.getIn (callRow now chosen model sha briefTokens inputTokens
    outputTokens cost outcome done) (text "cost_usd") = .float (.finite cost) := rfl

@[simp] theorem callRow_sha : Json.getIn (callRow now chosen model sha briefTokens inputTokens
    outputTokens cost outcome done) (text "brief_sha256") = .str sha := rfl

@[simp] theorem outcomeText_callRow (python : Python) : outcomeText python (callRow now chosen model
    sha briefTokens inputTokens outputTokens cost outcome done) = outcome := rfl

@[simp] theorem callRow_done (time : ℚ) : Json.getIn (callRow now chosen model sha briefTokens
    inputTokens outputTokens cost outcome (some time)) (text "done_ts") = .float (.finite time) := rfl

end CallRow

/-- `_spent_or_budget_refused`. -/
def spentOrBudgetRefused (python : Python) (row : Row) : Bool :=
  let outcome := outcomeText python row
  outcome = text "ok" || outcome = text "refused:budget" ||
    outcome.startsWith (text "error:") &&
      ((Json.getIn row (text "cost_usd")).finite python).any fun cost => 0 < cost

/-- `r.get("brief_sha256") == sha`. -/
def hasSha (sha : Text) (row : Row) : Bool :=
  match Json.getIn row (text "brief_sha256") with
  | .str other => other = sha
  | _ => false

/-- `ref` of a row in `_duplicate_age`: when the call of the row was done. -/
def finishedAt (python : Python) (now : ℚ) (row : Row) : Option ℚ :=
  match (Json.getIn row (text "ts")).finite python with
  | none => none
  | some arrived =>
      if now < arrived then none
      else
        match (Json.getIn row (text "done_ts")).finite python with
        | some done => some (max arrived done)
        | none => some arrived

/-- The age of a row that makes a call at `now` a duplicate. -/
def duplicateOf (python : Python) (config : Config) (sha : Text) (now : ℚ) (row : Row) : Option ℚ :=
  if hasSha sha row && spentOrBudgetRefused python row then
    match finishedAt python now row with
    | some finished => if now - config.dedupeS ≤ finished then some (max 0 (now - finished)) else none
    | none => none
  else none

/-- `_duplicate_age`. -/
def duplicateAge (python : Python) (config : Config) (ledger : Ledger) (sha : Text) (now : ℚ) :
    Except PyError (Option ℚ) :=
  if config.dedupeS ≤ 0 then .ok none
  else ledger.rows.map fun rows => (rows.filterMap (duplicateOf python config sha now)).min?

/-- `BRIEF_REFUSALS`. -/
def briefRefusals : List Text :=
  [text "brief_missing", text "brief_section", text "brief_too_large", text "duplicate",
    text "brief_loop"]

def breakerCount : ℕ := 3

def breakerWindow : ℚ := 600

/-- `rejection_streak`, of the rows latest first. -/
def rejectionStreak (python : Python) (now : ℚ) : List Row → ℕ
  | [] => 0
  | row :: earlier =>
      match (Json.getIn row (text "ts")).finite python with
      | none => rejectionStreak python now earlier
      | some arrived =>
          if now < arrived then rejectionStreak python now earlier
          else if breakerWindow < now - arrived ||
              !(briefRefusals.map (text "refused:" ++ ·)).contains (outcomeText python row) then 0
          else rejectionStreak python now earlier + 1

/-- `_ago`. -/
def ago (age : ℚ) : Text :=
  if age < 60 then text "under a minute ago"
  else text "under " ++ decimal (⌊age / 60⌋ + 1) ++ text " minutes ago"

/-! ### Responses -/

/-- `completion`, without its random id. -/
structure Completion where
  created : ℤ
  model : Text
  content : Text
  finishReason : Text
  promptTokens : ℤ
  completionTokens : ℤ
  totalTokens : ℤ
  deriving DecidableEq

inductive Payload where
  | error (code message : Text)
  | completion (answer : Completion)
  deriving DecidableEq

structure Response where
  status : ℤ
  payload : Payload
  deriving DecidableEq

/-- `error_body`. -/
def errorBody (code message : Text) : Payload := .error code (safeMessage message)

/-! ### Arrival -/

/-- A call whose reservation is held. -/
structure Call where
  now : ℚ
  chosen : Alias
  model : Text
  prices : ℚ × ℚ
  brief : Text
  sha : Text
  briefTokens : ℕ
  worst : ℚ
  token : ℕ

inductive Arrival where
  | refused (response : Response)
  | sent (call : Call)

/-- `read_key`, of the content of the key file, `none` when it cannot be read. -/
def readKey (file : Option Text) : Option Text :=
  match file with
  | none => none
  | some content =>
      let key := content.strip CodePoint.isSpace
      if key ≠ [] && key.all fun point => 0x21 ≤ point.val && point.val ≤ 0x7E then some key
      else none

/-- What `refuse` knows of the call it refuses. -/
structure Refused where
  now : ℚ
  chosen : Alias
  model : Option Text
  sha : Text
  briefTokens : ℕ

/-- The code and message of a refusal after so many brief refusals in a row, this one included. -/
def afterStreak (streak : ℕ) (refusal : Refusal) : Refusal :=
  if breakerCount ≤ streak then
    { status := refusal.status
      code := text "brief_loop"
      message := text "STOP: " ++ decimal streak ++ text " briefs rejected in a row in the last " ++
        decimal 10 ++ text (" minutes. Do not send another brief; show the user the brief and " ++
          "the reason below, and let them decide.\n") ++ refusal.message }
  else refusal

/-- The row of `refuse` and its response. -/
def refuseWith (ledger : Ledger) (call : Refused) (append : Append) (refusal : Refusal) :
    Ledger × Except PyError Arrival :=
  let row := callRow call.now call.chosen call.model call.sha call.briefTokens 0 0 0
    (text "refused:" ++ refusal.code) none
  match ledger.append row append with
  | (appended, true) =>
      (appended, .ok (.refused ⟨refusal.status, errorBody refusal.code refusal.message⟩))
  | (appended, false) => (appended, .error .osError)

/-- `refuse`. -/
def refuse (python : Python) (ledger : Ledger) (call : Refused) (append : Append)
    (refusal : Refusal) : Ledger × Except PyError Arrival :=
  if briefRefusals.contains refusal.code then
    match ledger.rows with
    | .error failure => (ledger, .error failure)
    | .ok rows => refuseWith ledger call append
        (afterStreak (rejectionStreak python call.now rows.reverse + 1) refusal)
  else refuseWith ledger call append refusal

/-- The price of the model, where it has one. -/
def priceOf (config : Config) (model : Option Text) : Option (Text × (ℚ × ℚ)) :=
  match model with
  | none | some [] => none
  | some name => (config.prices name).map fun prices => (name, prices)

/-- `handle` from the brief check on, for a brief that may be sent. -/
def arriveValid (python : Python) (config : Config) (file : Option Text) (append : Append)
    (ledger : Ledger) (call : Refused) (brief : Text) : Ledger × Except PyError Arrival :=
  match priceOf config call.model with
  | none => refuse python ledger call append ⟨424, text "unpriced",
      text "escalation: no price configured for " ++ call.model.getD (text "None")⟩
  | some (model, prices) =>
      match readKey file with
      | none => refuse python ledger call append
          ⟨424, text "no_key", text "escalation: no Anthropic key configured"⟩
      | some _ =>
          match duplicateAge python config ledger call.sha call.now with
          | .error failure => (ledger, .error failure)
          | .ok (some age) => refuse python ledger call append ⟨400, text "duplicate",
              text "brief: identical brief already sent " ++ ago age ++
                text " -- change it or wait"⟩
          | .ok none =>
              let worst := worstCost prices call.briefTokens
              match reserve python config call.chosen worst call.now ledger with
              | .error failure => (ledger, .error failure)
              | .ok (.refused reason) => refuse python ledger call append ⟨402, text "budget", reason⟩
              | .ok (.granted token held) =>
                  (held, .ok (.sent ⟨call.now, call.chosen, model, prices, brief, call.sha,
                    call.briefTokens, worst.getD 0, token⟩))

/-- `handle` up to its first await. The caller has found the alias with `handles`. -/
def arrive (python : Python) (config : Config) (file : Option Text) (append : Append)
    (ledger : Ledger) (chosen : Alias) (body : Json) (now : ℚ) : Ledger × Except PyError Arrival :=
  let brief := briefText body
  let content := brief.getD []
  -- `hashlib.sha256((brief or "").encode("utf-8"))`
  if content.hasSurrogate then (ledger, .error .unicodeEncodeError)
  else
    let call : Refused := ⟨now, chosen, config.models chosen.tier, python.sha256 content,
      estimateTokens content⟩
    match brief with
    | none => refuse python ledger call append
        ⟨422, text "brief_missing", text "brief: no user message"⟩
    | some brief =>
        match validateBrief brief chosen with
        | some refusal => refuse python ledger call append refusal
        | none => arriveValid python config file append ledger call brief

/-! ### The upstream -/

/-- The classes of `_NEVER_SENT`. -/
def neverSent : List Text := [text "ConnectError", text "ConnectTimeout", text "PoolTimeout"]

/-- An `httpx.HTTPError`, by its class. -/
structure HttpError where
  name : Text

namespace HttpError

/-- `isinstance(e, _NEVER_SENT)`: the three classes have no subclasses. -/
def isNeverSent (error : HttpError) : Bool := neverSent.contains error.name

/-- `transport:` and the class. -/
def err (error : HttpError) : Text := text "transport:" ++ error.name

end HttpError

/-- What `r.json()` does. -/
inductive Body where
  | json (value : Json)
  /-- `ValueError`. -/
  | invalid
  | raises

/-- How one `wait_for(_send(…))` of `_post` ends. -/
inductive Attempt where
  | cancelled
  | totalTimeout
  | httpError (error : HttpError)
  /-- Any other exception. -/
  | otherError
  | response (status : ℤ) (body : Body)

/-- What the upstream does to a call, should it come to a second attempt: the pause before it may
be cancelled. -/
structure Upstream where
  first : Attempt
  pauseCancelled : Bool
  second : Attempt

/-- What `_post` returns or raises; its error statuses are never 200. -/
inductive Posted where
  | answered (data : Row)
  | failed (err : Text)
  | cancelled
  | raised

/-- What `_post` makes of one attempt: an end, or an error after which it tries again. -/
inductive Tried where
  | final (posted : Posted)
  | again (err : Text)

/-- The `else` of the loop of `_post`: there was a response. -/
def tryResponse (status : ℤ) (body : Body) : Tried :=
  if status = 200 then
    match body with
    | .json (.obj data) => .final (.answered data)
    | .json _ | .invalid => .final (.failed (text "transport:bad_response"))
    | .raises => .final .raised
  else if status = 429 || 500 ≤ status then .again (text "http_" ++ decimal status)
  else .final (.failed (text "http_" ++ decimal status))

/-- The body of the loop of `_post`. -/
def tryPost : Attempt → Tried
  | .cancelled => .final .cancelled
  | .totalTimeout => .final (.failed (text "transport:TotalTimeout"))
  | .httpError error => if error.isNeverSent then .again error.err else .final (.failed error.err)
  | .otherError => .final .raised
  | .response status body => tryResponse status body

/-- `_post`, with the attempts it made. -/
def post (upstream : Upstream) : Posted × List Attempt :=
  match tryPost upstream.first with
  | .final posted => (posted, [upstream.first])
  | .again _ =>
      if upstream.pauseCancelled then (.cancelled, [upstream.first])
      else
        match tryPost upstream.second with
        | .final posted => (posted, [upstream.first, upstream.second])
        | .again err => (.failed err, [upstream.first, upstream.second])

/-! ### Conclusion -/

/-- What a call is charged: its cost before it is rounded for the row. -/
structure Charge where
  inputTokens : ℤ
  outputTokens : ℤ
  cost : ℚ
  outcome : Text
  deriving DecidableEq

/-- `err.startswith("transport") and err not in _NEVER_SENT_CLASSES`. -/
def maybeBilled (err : Text) : Bool :=
  err.startsWith (text "transport") && !(neverSent.map (text "transport:" ++ ·)).contains err

/-- The tokens and the cost of an answer, `none` when its usage cannot be priced. -/
def answerCost (python : Python) (prices : ℚ × ℚ) (data : Row) : Option (ℤ × ℤ × ℚ) :=
  match (Json.getIn data (text "usage")).orElse (.obj []) with
  | .obj used => do
      let input ← ((Json.getIn used (text "input_tokens")).orElse (.int 0)).toInt python
      let output ← ((Json.getIn used (text "output_tokens")).orElse (.int 0)).toInt python
      let cost ← callCost prices input output
      if input < 0 ∨ output < 0 then none else some (input, output, cost)
  | _ => none

/-- What `handle` settles the call with. -/
def charge (python : Python) (call : Call) : Posted → Charge
  | .cancelled => ⟨0, 0, call.worst, text "error:cancelled"⟩
  | .raised => ⟨0, 0, call.worst, text "error:transport:unexpected"⟩
  | .failed err => ⟨0, 0, if maybeBilled err then call.worst else 0, text "error:" ++ err⟩
  | .answered data =>
      match answerCost python call.prices data with
      | some (input, output, cost) => ⟨input, output, cost, text "ok"⟩
      | none => ⟨0, 0, call.worst, text "error:transport:bad_usage"⟩

/-- The row `settle` appends; the clock of the call ran for `elapsed` seconds. -/
def settledRow (python : Python) (call : Call) (elapsed : ℚ) (charged : Charge) : Row :=
  callRow call.now call.chosen (some call.model) call.sha call.briefTokens charged.inputTokens
    charged.outputTokens (python.round charged.cost 6) charged.outcome
    (some (python.round (call.now + elapsed) 3))

/-- `_upstream_message`. -/
def upstreamMessage (python : Python) (err : Text) : Text :=
  let what :=
    if err.startsWith (text "http_") then
      let code := (python.intOf (err.drop 5)).getD 0
      if code = 429 then text "Anthropic was busy"
      else if 500 ≤ code then text "Anthropic server error"
      else text "Anthropic rejected the request"
    else err
  text "escalation: Anthropic call failed (" ++ what ++ text ")"

/-- `_calls_left` of `claude-auto`. -/
def autoLeft (config : Config) (usage : Usage) : Option ℕ :=
  let shared := config.sharedDailyCalls.map fun limit => limit - (usage.calls .ask + usage.calls .auto)
  let auto := config.autoDailyCalls.map fun limit => limit - usage.calls .auto
  match shared, auto with
  | none, _ => auto
  | some left, none => some left
  | some left, some own => some (min own left)

/-- `footer`. -/
def footer (python : Python) (config : Config) (model : Text) (cost : ℚ) (usage : Usage) : Text :=
  let auto :=
    match autoLeft config usage with
    | none => text "auto: no call limit"
    | some left => text "auto " ++ decimal left ++ text "/" ++
        (config.autoDailyCalls.map fun limit => decimal limit).getD (text "None") ++
          text " left today"
  text "\n\n---\nClaude " ++ model ++ text ": $" ++ python.fixed cost 3 ++ text " this call · $" ++
    python.fixed usage.dayCost 2 ++ text " today of $" ++ python.fixed config.dayCap 2 ++
    text " · $" ++ python.fixed usage.monthCost 2 ++ text " this month of $" ++
    python.fixed config.monthCap 2 ++ text " · " ++ auto

/-- The text blocks of an answer. -/
def answerText (data : Row) : Text :=
  match Json.getIn data (text "content") with
  | .arr blocks => (blocks.filterMap textPart).flatten
  | _ => []

/-- `int(now)`. -/
def wholeSeconds (now : ℚ) : ℤ := if 0 ≤ now then ⌊now⌋ else ⌈now⌉

/-- The answer with its footer, left out when the ledger cannot be read. -/
def answer (python : Python) (config : Config) (call : Call) (ledger : Ledger) (data : Row)
    (charged : Charge) : Completion where
  created := wholeSeconds call.now
  model := call.chosen.name
  content := answerText data ++
    match usage python config call.now ledger with
    | .ok usage => footer python config call.model charged.cost usage
    | .error _ => []
  finishReason :=
    match Json.getIn data (text "stop_reason") with
    | .str reason => if reason = text "max_tokens" then text "length" else text "stop"
    | _ => text "stop"
  promptTokens := charged.inputTokens
  completionTokens := charged.outputTokens
  totalTokens := charged.inputTokens + charged.outputTokens

/-- How `handle` ends. -/
inductive Outcome where
  | returned (response : Response)
  /-- `CancelledError` is raised again. -/
  | cancelled
  | raised (failure : PyError)

/-- `handle` after `_post`; `keepsBrief` tells whether the file operations of `_keep_brief` go
through. -/
def conclude (python : Python) (config : Config) (append : Append) (keepsBrief : Bool)
    (ledger : Ledger) (call : Call) (elapsed : ℚ) (posted : Posted) : Ledger × Outcome :=
  let charged := charge python call posted
  match ledger.settle call.token (settledRow python call elapsed charged) append, posted with
  | (settled, _), .cancelled => (settled, .cancelled)
  | (settled, false), _ => (settled, .returned ⟨424, errorBody (text "ledger")
      (text "escalation: could not record the call; budget held until restart")⟩)
  | (settled, true), .raised => (settled, .returned ⟨424, errorBody (text "upstream")
      (upstreamMessage python (text "transport:unexpected"))⟩)
  | (settled, true), .failed err => (settled, .returned ⟨424, errorBody (text "upstream")
      (upstreamMessage python err)⟩)
  | (settled, true), .answered data =>
      match answerCost python call.prices data with
      | none => (settled, .returned ⟨424, errorBody (text "upstream")
          (upstreamMessage python (text "transport:bad_usage"))⟩)
      | some _ =>
          if config.keepBriefs ≠ 0 && keepsBrief && call.brief.hasSurrogate then
            (settled, .raised .unicodeEncodeError)
          else
            (settled, .returned ⟨200, .completion
              (answer python config call settled data charged)⟩)

/-! ### One whole call -/

/-- What a call meets: the key file, the clock, the upstream, the files of `_keep_brief`, and
what other calls make of the ledger while this one awaits the upstream. -/
structure Surroundings where
  file : Option Text
  now : ℚ
  elapsed : ℚ
  upstream : Upstream
  keepsBrief : Bool
  meanwhile : Ledger → Ledger

/-- One whole call: the ledger after its first segment, before its last and at its end, the
reservation it took if it came that far, the attempts it made and what it was charged. -/
structure Run where
  arrived : Ledger
  resumed : Ledger
  finished : Ledger
  token : Option ℕ
  attempts : List Attempt
  cost : ℚ
  outcome : Outcome

/-- `handle`, with ledger writes that succeed. -/
def handle (python : Python) (config : Config) (surroundings : Surroundings) (ledger : Ledger)
    (chosen : Alias) (body : Json) : Run :=
  match arrive python config surroundings.file .written ledger chosen body surroundings.now with
  | (arrived, .error failure) => ⟨arrived, arrived, arrived, none, [], 0, .raised failure⟩
  | (arrived, .ok (.refused response)) =>
      ⟨arrived, arrived, arrived, none, [], 0, .returned response⟩
  | (arrived, .ok (.sent call)) =>
      let resumed := surroundings.meanwhile arrived
      let (posted, attempts) := post surroundings.upstream
      let (finished, outcome) := conclude python config .written surroundings.keepsBrief resumed
        call surroundings.elapsed posted
      ⟨arrived, resumed, finished, some call.token, attempts, (charge python call posted).cost,
        outcome⟩

end Escalation

end LocalGpuCluster
