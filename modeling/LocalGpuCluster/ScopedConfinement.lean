/-
This file proves that a scoped key stays confined through the whole of a request. Each of its
restrictions is enforced in a place of its own: the endpoint in `require_bearer`, the escalation
aliases in `_escalate`, the alias and the tools in the chat policy, the swap in the profile check,
the slot in `gate_for`. What is left for a scoped principal is one response, or a slot of the lane
and one forward in it.
-/

import LocalGpuCluster.KeyReload
import LocalGpuCluster.Router

namespace LocalGpuCluster

namespace Router

open AccessKeys (Principal)

/-! ### What a scoped request can do -/

/-- The router answers by itself, or takes a slot of the lane and forwards the body once, with
client-side tools. -/
def InLane (acts : List Act) : Prop :=
  (∃ status, acts = [.respond status]) ∨
    ∃ body strip, body.lookup (text "tool_execution") = some (.str (text "client")) ∧
      acts = [.takeSlot .laneThenChat, .forward body strip]

section Stages

variable {config : Config} {conditions : Conditions} {principal : Principal} {stream strip : Bool}
  {images : ℕ} {model : Text} {body : Fields}

theorem dispatch_inLane (client : body.lookup (text "tool_execution") = some (.str (text "client"))) :
    InLane (dispatch config conditions .laneThenChat stream strip body) := by
  unfold dispatch
  split
  · exact Or.inl ⟨_, rfl⟩
  · rw [client]
    exact Or.inr ⟨body, strip, client, rfl⟩

theorem chatCounted_inLane
    (client : body.lookup (text "tool_execution") = some (.str (text "client"))) :
    InLane (chatCounted config conditions .laneThenChat stream strip images body) := by
  unfold chatCounted
  split
  · exact Or.inl ⟨_, rfl⟩
  · exact dispatch_inLane client

theorem gateFor_of_scoped (isScoped : principal.isOwner = false) :
    gateFor principal = .laneThenChat := by
  rw [gateFor, isScoped]
  rfl

/-- A scoped principal may not swap, so a mismatch is a 409. -/
theorem chatChecked_inLane (isScoped : principal.isOwner = false)
    (client : body.lookup (text "tool_execution") = some (.str (text "client"))) :
    InLane (chatChecked config conditions principal stream strip images model body) := by
  unfold chatChecked
  dsimp only
  split
  · unfold autoSwap
    rw [AccessKeys.maySwap, isScoped, Bool.and_false]
    exact Or.inl ⟨_, rfl⟩
  · rw [gateFor_of_scoped isScoped]
    exact chatCounted_inLane client

theorem chatAllowed_inLane (isScoped : principal.isOwner = false) (header : Option Text)
    (client : body.lookup (text "tool_execution") = some (.str (text "client"))) :
    InLane (chatAllowed config conditions principal header body) := by
  unfold chatAllowed
  split
  · rename_i strip model _ _
    cases applied : applyAliasDefaults body (resolveAlias model) with
    | none => exact Or.inl ⟨_, rfl⟩
    | some out =>
      have kept : out.lookup (text "tool_execution") = some (.str (text "client")) :=
        lookup_applyAliasDefaults applied (by decide) (by decide) client
      dsimp only
      split
      · exact Or.inl ⟨_, rfl⟩
      · exact Or.inl ⟨_, rfl⟩
      · exact chatChecked_inLane isScoped kept
  · exact Or.inl ⟨_, rfl⟩

/-- The policy leaves client-side tools, whatever the body asks for. -/
theorem applyChatPolicy_client (isScoped : principal.isOwner = false) (body : Fields) :
    (AccessKeys.applyChatPolicy principal body).lookup (text "tool_execution") =
      some (.str (text "client")) := by
  rw [AccessKeys.applyChatPolicy, isScoped]
  exact Json.lookup_setIn_self body _ _

/-- A body without a violation names an alias of the principal. -/
theorem model_of_no_violation (isScoped : principal.isOwner = false)
    (allowed : (AccessKeys.chatViolation principal body).isSome = false) :
    ∃ model, Json.getIn body (text "model") = .str model ∧ model ∈ principal.aliases := by
  unfold AccessKeys.chatViolation at allowed
  rw [isScoped] at allowed
  cases named : Json.getIn body (text "model") with
  | str model =>
    refine ⟨model, rfl, ?_⟩
    by_contra unlisted
    rw [named] at allowed
    simp [unlisted] at allowed
  | _ => simp [named] at allowed

/-- What a scoped chat request does, and the alias it names if it is forwarded. -/
theorem chat_scoped (isScoped : principal.isOwner = false) (request : Request) :
    (∃ status, chat config conditions principal request = [.respond status]) ∨
      InLane (chat config conditions principal request) ∧
        ∃ fields model, request.body = .json (.obj fields) ∧
          Json.getIn fields (text "model") = .str model ∧ model ∈ principal.aliases := by
  unfold chat
  split
  · exact Or.inl ⟨_, rfl⟩
  · split
    · exact Or.inl ⟨_, rfl⟩
    · exact Or.inl ⟨_, rfl⟩
    · exact Or.inl ⟨_, rfl⟩
    · exact Or.inl ⟨_, rfl⟩
    · rename_i fields isObject
      unfold chatBody
      split
      · rw [escalate, isScoped]
        exact Or.inl ⟨_, rfl⟩
      · split
        · exact Or.inl ⟨_, rfl⟩
        · split
          · exact Or.inl ⟨_, rfl⟩
          · rename_i allowed
            split
            · exact Or.inl ⟨_, rfl⟩
            · obtain ⟨model, named, listed⟩ :=
                model_of_no_violation isScoped (Bool.eq_false_iff.mpr allowed)
              exact Or.inr ⟨chatAllowed_inLane isScoped _ (applyChatPolicy_client isScoped fields),
                fields, model, isObject, named, listed⟩
    · exact Or.inl ⟨_, rfl⟩

end Stages

/-! ### Confinement -/

/-- What a scoped request is confined to. -/
structure Confined (principal : Principal) (request : Request) (acts : List Act) : Prop where
  /-- It is refused unless it is a chat completion or asks for the model list. -/
  endpoint : request.method = text "POST" ∧ request.path = chatPath ∨
    request.method = text "GET" ∧ request.path = modelsPath ∨
    ∃ status, acts = [.respond status] ∧ 400 ≤ status ∧ status < 500
  /-- What is forwarded names an alias of the principal. -/
  listed : ∀ body strip, .forward body strip ∈ acts → ∃ fields model,
    request.body = .json (.obj fields) ∧ Json.getIn fields (text "model") = .str model ∧
      model ∈ principal.aliases
  /-- What is forwarded runs with client-side tools. -/
  clientTools : ∀ body strip, .forward body strip ∈ acts →
    body.lookup (text "tool_execution") = some (.str (text "client"))
  noServerTools : ∀ body strip, .serverTools body strip ∉ acts
  noSwap : ∀ wanted, .swap wanted ∉ acts
  noEscalation : ∀ chosen, .escalate chosen ∉ acts
  /-- Slots are of the lane, and what is forwarded has one. -/
  lane : ∀ gate, .takeSlot gate ∈ acts → gate = .laneThenChat
  slot : ∀ body strip, .forward body strip ∈ acts →
    acts = [.takeSlot .laneThenChat, .forward body strip]

/-- A refusal confines. -/
theorem confined_of_respond {principal : Principal} {request : Request} {status : ℤ}
    (endpoint : request.method = text "POST" ∧ request.path = chatPath ∨
      request.method = text "GET" ∧ request.path = modelsPath ∨ 400 ≤ status ∧ status < 500) :
    Confined principal request [.respond status] where
  endpoint := endpoint.imp id (Or.imp id fun refused => ⟨status, rfl, refused⟩)
  listed := by simp
  clientTools := by simp
  noServerTools := by simp
  noSwap := by simp
  noEscalation := by simp
  lane := by simp
  slot := by simp

theorem confined_of_inLane {principal : Principal} {request : Request} {acts : List Act}
    (isPost : request.method = text "POST") (isChat : request.path = chatPath) (inLane : InLane acts)
    (named : ∃ fields model, request.body = .json (.obj fields) ∧
      Json.getIn fields (text "model") = .str model ∧ model ∈ principal.aliases) :
    Confined principal request acts := by
  obtain ⟨status, rfl⟩ | ⟨body, strip, client, rfl⟩ := inLane
  · exact confined_of_respond (Or.inl ⟨isPost, isChat⟩)
  · refine ⟨Or.inl ⟨isPost, isChat⟩, fun _ _ _ => named, ?_, ?_, ?_, ?_, ?_, ?_⟩
    · rintro other otherStrip member
      simp only [List.mem_cons, reduceCtorEq, Act.forward.injEq, List.not_mem_nil, or_false,
        false_or] at member
      rw [member.1]
      exact client
    · simp
    · simp
    · simp
    · simp
    · simp

/-- An allowed endpoint in another case of letters is no route. -/
theorem route_scoped {config : Config} {conditions : Conditions} {principal : Principal}
    {request : Request} (isScoped : principal.isOwner = false)
    (allowed : AccessKeys.endpointAllowed principal request.method request.path = true) :
    Confined principal request (route config conditions principal request) := by
  have endpoint : request.path = chatPath ∨ request.path = modelsPath := by
    rw [AccessKeys.endpointAllowed, isScoped, Bool.false_or] at allowed
    simp only [AccessKeys.scopedEndpoints, List.contains_iff_mem, List.mem_cons, Prod.mk.injEq,
      List.not_mem_nil, or_false] at allowed
    exact allowed.imp And.right And.right
  unfold route
  rcases endpoint with isChat | isModels
  · rw [isChat, show routes.lookup chatPath = some [text "POST"] by decide]
    dsimp only
    by_cases isPost : request.method = text "POST"
    · rw [if_neg (by simp [isPost]), if_pos rfl]
      obtain ⟨status, refused⟩ | ⟨inLane, named⟩ := chat_scoped isScoped request
      · rw [refused]
        exact confined_of_respond (Or.inl ⟨isPost, isChat⟩)
      · exact confined_of_inLane isPost isChat inLane named
    · rw [if_pos (by simpa using isPost)]
      exact confined_of_respond (Or.inr (Or.inr (by decide)))
  · rw [isModels, show routes.lookup modelsPath = some [text "GET"] by decide]
    dsimp only
    by_cases isGet : request.method = text "GET"
    · rw [if_neg (by simp [isGet]), if_neg (by decide)]
      exact ⟨Or.inr (Or.inl ⟨isGet, isModels⟩), by simp, by simp, by simp, by simp, by simp,
        by simp, by simp⟩
    · rw [if_pos (by simpa using isGet)]
      exact confined_of_respond (Or.inr (Or.inr (by decide)))

/-- A request that a scoped key authenticates is confined. -/
theorem scoped_confined (python : Python) (config : Config) (conditions : Conditions)
    (request : Request) (authenticated : isExempt request = false) {principal : Principal}
    (identified : identify python conditions request = .ok principal)
    (isScoped : principal.kind = .scoped) :
    Confined principal request (handle python config conditions request) := by
  have notOwner : principal.isOwner = false := by
    rw [Principal.isOwner, isScoped]
    rfl
  rw [handle, authenticated, identified]
  dsimp only
  by_cases allowed : AccessKeys.endpointAllowed principal request.method request.path = true
  · rw [if_neg (not_not.mpr allowed)]
    exact route_scoped notOwner allowed
  · rw [if_pos allowed]
    exact confined_of_respond (Or.inr (Or.inr (by decide)))

/-- A router whose default is server-side tools, and whose swap webhook is set. -/
def toolsConfig : Config where
  strictProfileMatch := true
  swapWebhookUrl := text "http://swap"
  visionEnabled := false
  imageTokenEstimate := 1280
  maxChatInputTokens := 120000
  toolExecutionDefault := text "server"

/-- The key is issued, the lane is open and `qwen3.8` is loaded. -/
def issuedConditions : Conditions where
  now := 0
  file := some (0, AccessKeys.keysFile AccessKeys.revokedDigest (.int 2000))
  store := ⟨text "owner", none, []⟩
  rateLimited := false
  laneCapacity := 2
  laneOpen := true
  activeBackend := some (text "qwen3.8")
  swapWorks := true
  tokenCount := 3
  escalationConfigured := true

/-- A streamed chat completion with the key. -/
def keyRequest : Request where
  method := text "POST"
  path := chatPath
  authorization := some (text "Bearer wf_revoked-key")
  xStripThinking := none
  body := .json (.obj [(text "model", .str (text "qwen3.8-nothink")),
    (text "messages", .arr [.obj [(text "role", .str (text "user")), (text "content",
      .str (text "hi"))]]), (text "stream", .bool true)])

/-- The principal of the key. -/
def keyPrincipal : Principal :=
  ⟨text "wf-run-1", .scoped, [text "qwen3.8-nothink"], some 2000⟩

/-- That request is forwarded. -/
theorem scoped_confined_keyRequest :
    Confined keyPrincipal keyRequest
        (handle AccessKeys.hashing toolsConfig issuedConditions keyRequest) ∧
      (handle AccessKeys.hashing toolsConfig issuedConditions keyRequest).length = 2 := by
  have identified : identify AccessKeys.hashing issuedConditions keyRequest = .ok keyPrincipal := by
    decide +kernel
  exact ⟨scoped_confined AccessKeys.hashing toolsConfig issuedConditions keyRequest (by decide +kernel)
    identified rfl, by decide +kernel⟩

end Router

end LocalGpuCluster
