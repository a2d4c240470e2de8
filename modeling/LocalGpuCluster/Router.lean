/-
This file models what happens to one request to `router-app.py`: `require_bearer`, the route, and
for a chat completion `chat` with its dispatch. The result is the list of what the router does for
the request in that order: slots it takes, swaps, server tools, the forward to the upstream, the
escalation broker, a response of its own. What the request meets on its way (the rate limit, the
loaded backend, the token count, the lane) is given.
-/

import LocalGpuCluster.AccessKeys
import LocalGpuCluster.ChatBody

namespace LocalGpuCluster

namespace Router

open AccessKeys (Principal KeyStore File)

/-! ### Requests -/

/-- What `_read_json_body` finds. -/
inductive RawBody where
  /-- `BodyTooLarge`. -/
  | tooLarge
  /-- `BadRequestBody`. -/
  | badLength
  /-- `json.loads` raises `ValueError`. -/
  | invalid
  /-- `json.loads` raises `RecursionError`. -/
  | tooDeep
  | json (value : Json)

/-- A request. The path is `request.url.path`, which the routes go by too. -/
structure Request where
  method : Text
  path : Text
  authorization : Option Text
  xStripThinking : Option Text
  body : RawBody

/-- The configuration a request depends on; `ROUTER_API_KEY` is the owner key of the store. -/
structure Config where
  strictProfileMatch : Bool
  swapWebhookUrl : Text
  visionEnabled : Bool
  imageTokenEstimate : ℤ
  maxChatInputTokens : ℤ
  toolExecutionDefault : Text

/-- What the request meets: the clock, the keys file and the store that reads it, whether the
rate limit is exceeded, the lane's capacity and whether it is open when the chat slot arrives, the
answer of `get_active_backend`, whether a swap works, the answer of `count_tokens`, and whether the
escalation configuration is valid. -/
structure Conditions where
  now : ℚ
  file : File
  store : KeyStore
  rateLimited : Bool
  laneCapacity : ℕ
  laneOpen : Bool
  activeBackend : Option Text
  swapWorks : Bool
  tokenCount : ℤ
  escalationConfigured : Bool

/-! ### What the router does -/

/-- What `gate_for` returns. -/
inductive Gate where
  | chat
  | laneThenChat
  deriving DecidableEq, Repr

inductive Act where
  /-- A response that is the router's own. -/
  | respond (status : ℤ)
  /-- Any route but the chat completions. -/
  | serve (path : Text)
  /-- `escalation.handle`. -/
  | escalate (chosen : Escalation.Alias)
  /-- `trigger_swap_and_wait`. -/
  | swap (wanted : Text)
  /-- A slot of the gate is taken. -/
  | takeSlot (gate : Gate)
  /-- `tool_loop_stream` or `tool_loop_nonstream`, which forward the body and run tools. -/
  | serverTools (body : Fields) (strip : Bool)
  /-- The body goes to the upstream, its answer to the client. -/
  | forward (body : Fields) (strip : Bool)

/-- `gate_for`. -/
def gateFor (principal : Principal) : Gate := if principal.isOwner then .chat else .laneThenChat

/-- `_escalate`. -/
def escalate (conditions : Conditions) (principal : Principal) (chosen : Escalation.Alias) :
    List Act :=
  if !principal.isOwner then [.respond 403]
  else if !conditions.escalationConfigured then [.respond 424]
  else [.escalate chosen]

/-- The end of `chat`: the slot, and the tool loop or the forward in it. A stream that the lane
refuses ends with an error frame, any other request with a 503. -/
def dispatch (config : Config) (conditions : Conditions) (gate : Gate) (stream strip : Bool)
    (body : Fields) : List Act :=
  if gate = .laneThenChat && !conditions.laneOpen then [.respond (if stream then 200 else 503)]
  else
    match (body.lookup (text "tool_execution")).getD (.str config.toolExecutionDefault) with
    | .str execution =>
        if execution = text "server" then [.takeSlot gate, .serverTools body strip]
        else [.takeSlot gate, .forward body strip]
    | _ => [.takeSlot gate, .forward body strip]

/-- The token budget, and what comes after it. -/
def chatCounted (config : Config) (conditions : Conditions) (gate : Gate) (stream strip : Bool)
    (images : ℕ) (body : Fields) : List Act :=
  if conditions.tokenCount ≠ -1 && config.maxChatInputTokens <
      conditions.tokenCount + imageTokenEstimate images config.imageTokenEstimate then
    [.respond 413]
  else dispatch config conditions gate stream strip body

/-- The alias names another backend than the loaded one: a swap, or a 409. A stream swaps inside
its response, which has begun when the swap fails. -/
def autoSwap (config : Config) (conditions : Conditions) (principal : Principal)
    (stream strip : Bool) (images : ℕ) (wanted : Text) (body : Fields) : List Act :=
  if config.swapWebhookUrl ≠ [] &&
      (AutoSwap.backendToProfile.any fun entry => text entry.1 = wanted) &&
      AccessKeys.maySwap principal then
    if stream then
      [.takeSlot .chat, .swap wanted] ++
        if conditions.swapWorks then [.forward body strip] else [.respond 200]
    else
      .swap wanted ::
        if conditions.swapWorks then
          chatCounted config conditions (gateFor principal) stream strip images body
        else [.respond 503]
  else [.respond 409]

/-- The profile check, and what comes after it. -/
def chatChecked (config : Config) (conditions : Conditions) (principal : Principal)
    (stream strip : Bool) (images : ℕ) (model : Text) (body : Fields) : List Act :=
  let wanted := (resolveAlias model).backend
  if config.strictProfileMatch && (aliasMap.lookup model).isSome && !isSwapExempt model &&
      conditions.activeBackend.any fun active => wanted ≠ active then
    autoSwap config conditions principal stream strip images wanted body
  else chatCounted config conditions (gateFor principal) stream strip images body

/-- The body as the policy leaves it: the alias, the media, the text. An exception on the way ends
the request with a 500. -/
def chatAllowed (config : Config) (conditions : Conditions) (principal : Principal)
    (header : Option Text) (body : Fields) : List Act :=
  match shouldStripThinking body header, (body.lookup (text "model")).getD (.str (text "?")) with
  | some strip, .str model =>
      match applyAliasDefaults body (resolveAlias model) with
      | none => [.respond 500]
      | some out =>
          let messages := (out.lookup (text "messages")).getD (.arr [])
          match checkMedia messages config.visionEnabled, approxText messages with
          | .error _, _ => [.respond 400]
          | .ok _, none => [.respond 500]
          | .ok images, some _ =>
              let stream := ((body.lookup (text "stream")).getD (.bool false)).truthy
              chatChecked config conditions principal stream strip images model out
  | _, _ => [.respond 500]

/-- `chat` from the body on. -/
def chatBody (config : Config) (conditions : Conditions) (principal : Principal)
    (header : Option Text) (body : Fields) : List Act :=
  match Escalation.handles (Json.getIn body (text "model")) with
  | some chosen => escalate conditions principal chosen
  | none =>
      if (checkChatBody body).isSome then [.respond 400]
      else if (AccessKeys.chatViolation principal body).isSome then [.respond 403]
      else if !principal.isOwner && conditions.laneCapacity = 0 then [.respond 503]
      else
        chatAllowed config conditions principal header (AccessKeys.applyChatPolicy principal body)

/-- `chat`. -/
def chat (config : Config) (conditions : Conditions) (principal : Principal) (request : Request) :
    List Act :=
  if conditions.rateLimited then [.respond 429]
  else
    match request.body with
    | .tooLarge => [.respond 413]
    | .badLength => [.respond 400]
    | .invalid => [.respond 400]
    | .tooDeep => [.respond 500]
    | .json (.obj body) => chatBody config conditions principal request.xStripThinking body
    | .json _ => [.respond 400]

/-! ### Authentication and routes -/

/-- `require_bearer` up to the principal, or the status it refuses with; what `authenticate` raises
is a 500. -/
def identify (python : Python) (conditions : Conditions) (request : Request) :
    Except ℤ Principal :=
  if conditions.store.owner = [] then .error 503
  else
    let auth := request.authorization.getD []
    if ¬auth.lower.startsWith (text "bearer ") then .error 403
    else
      match (conditions.store.authenticate python conditions.file conditions.now
        (Text.strip CodePoint.isSpace (auth.drop 7))).2 with
      | .error _ => .error 500
      | .ok none => .error 403
      | .ok (some principal) => .ok principal

def chatPath : Text := text "/v1/chat/completions"

def modelsPath : Text := text "/v1/models"

/-- The paths of the app and of the framework's own pages, each with its methods. -/
def routes : List (Text × List Text) :=
  [(chatPath, [text "POST"]), (text "/v1/completions", [text "POST"]),
    (text "/v1/messages", [text "POST"]), (text "/v1/messages/count_tokens", [text "POST"]),
    (text "/v1/embeddings", [text "POST"]), (text "/v1/rerank", [text "POST"]),
    (text "/v1/tavily/search", [text "POST"]), (text "/v1/tavily/usage", [text "GET"]),
    (modelsPath, [text "GET"]), (text "/escalation/budget", [text "GET"]),
    (text "/healthz", [text "GET"]), (text "/metrics", [text "GET"]),
    (text "/openapi.json", [text "GET", text "HEAD"]), (text "/docs", [text "GET", text "HEAD"]),
    (text "/docs/oauth2-redirect", [text "GET", text "HEAD"]),
    (text "/redoc", [text "GET", text "HEAD"])]

/-- The route of a request whose principal may call it. -/
def route (config : Config) (conditions : Conditions) (principal : Principal) (request : Request) :
    List Act :=
  match routes.lookup request.path with
  | none => [.respond 404]
  | some methods =>
      if ¬methods.contains request.method then [.respond 405]
      else if request.path = chatPath then chat config conditions principal request
      else [.serve request.path]

/-- Requests that `require_bearer` lets through without a key. -/
def isExempt (request : Request) : Bool :=
  request.method = text "OPTIONS" || [text "/healthz", text "/metrics"].contains request.path

/-- One request, from `require_bearer` on. -/
def handle (python : Python) (config : Config) (conditions : Conditions) (request : Request) :
    List Act :=
  if isExempt request then [.serve request.path]
  else
    match identify python conditions request with
    | .error status => [.respond status]
    | .ok principal =>
        if ¬AccessKeys.endpointAllowed principal request.method request.path then [.respond 403]
        else route config conditions principal request

end Router

end LocalGpuCluster
