/-
This file models what `chat` of `router-app.py` makes of a request body before it forwards it:
the alias table and the defaults it injects, the fields and media that are refused, whether
thinking is stripped from the answer, and the text whose tokens are counted. A function that can
raise on a body that is no chat completion returns `none` there.
-/

import LocalGpuCluster.AutoSwap
import LocalGpuCluster.EscalationBrief

namespace LocalGpuCluster

namespace Router

/-- A request body: the fields of a JSON object. -/
abbrev Fields := List (Text × Json)

/-! ### Aliases -/

/-- An entry of `ALIAS_MAP`, or what `resolve_alias` makes up for an unknown model. -/
structure AliasInfo where
  backend : Text
  enableThinking : Option Bool
  stripThinking : Bool
  reasoningEffort : Option Text
  sampling : Fields

/-- A sampling value. -/
def number (value : ℚ) : Json := .float (.finite value)

/-- The values that the Qwen recipes differ in, and those they share. -/
def qwenSampling (temperature topP presencePenalty : ℚ) : Fields :=
  [(text "temperature", number temperature), (text "top_p", number topP), (text "top_k", .int 20),
    (text "min_p", number 0), (text "presence_penalty", number presencePenalty)]

/-- `QWEN38_THINK_SAMPLING`. -/
def qwen38ThinkSampling : Fields := qwenSampling 1 0.95 0

/-- `QWEN38_NOTHINK_SAMPLING`. -/
def qwen38NothinkSampling : Fields := qwenSampling 0.7 0.8 1.5

/-- `QWEN36_THINK_SAMPLING`. -/
def qwen36ThinkSampling : Fields := qwenSampling 1 0.95 1.5

/-- `QWEN36_NOTHINK_SAMPLING`. -/
def qwen36NothinkSampling : Fields := qwenSampling 0.7 0.8 1.5

/-- `OBLITERATED_SAMPLING`. -/
def obliteratedSampling : Fields :=
  [(text "temperature", number 0.2), (text "repetition_penalty", number 1.15)]

/-- `ALIAS_MAP`. -/
def aliasMap : List (Text × AliasInfo) :=
  let qwen36 := text "rag-qwen3.6"
  let fast := text "rag-qwen3.6-fast"
  let qwen38 := text "qwen3.8"
  let redteam := text "qwen3.8-redteam"
  let medium := some (text "medium")
  [(text "rag-qwen3.6", ⟨qwen36, some false, true, none, qwen36NothinkSampling⟩),
    (text "qwen3.6-think", ⟨qwen36, some true, false, none, qwen36ThinkSampling⟩),
    (text "qwen3.6", ⟨qwen36, some true, false, none, qwen36ThinkSampling⟩),
    (text "rag-qwen3.6-fast", ⟨fast, some false, true, none, qwen36NothinkSampling⟩),
    (text "qwen3.6-fast-think", ⟨fast, some true, false, none, qwen36ThinkSampling⟩),
    (text "qwen3.6-fast", ⟨fast, some true, false, none, qwen36ThinkSampling⟩),
    (text "devstral", ⟨text "devstral", none, false, none, []⟩),
    (text "devstral-large", ⟨text "devstral-large", none, false, none, []⟩),
    (text "rag-qwen3.8", ⟨qwen38, some false, true, none, qwen38NothinkSampling⟩),
    (text "qwen3.8-nothink", ⟨qwen38, some false, true, none, qwen38NothinkSampling⟩),
    (text "qwen3.8-think", ⟨qwen38, some true, false, medium, qwen38ThinkSampling⟩),
    (text "qwen3.8", ⟨qwen38, some true, false, medium, qwen38ThinkSampling⟩),
    (text "qwen3.8-xhigh", ⟨qwen38, some true, false, some (text "xhigh"), qwen38ThinkSampling⟩),
    (text "hemmingway", ⟨text "hemmingway", some false, true, none, qwen38NothinkSampling⟩),
    (text "qwen3.8-redteam", ⟨redteam, some false, true, none, obliteratedSampling⟩),
    (text "qwen3.8-redteam-think", ⟨redteam, some true, false, medium, obliteratedSampling⟩)]

/-- The aliases and backends are those the swaps are about. -/
theorem aliasMap_backends : aliasMap.map (fun entry => (entry.1, entry.2.backend)) =
    AutoSwap.aliasMap.map fun entry => (text entry.1, text entry.2) := rfl

/-- `RAG_MODEL_RE.search`; a `$` also matches before a line feed at the end. -/
def isRagModel (model : Text) : Bool :=
  Text.phraseHere (text "rag-") model ||
    model.tails.any fun rest =>
      Text.phraseHere (text "-rag") rest && (rest.drop 4 = [] || rest.drop 4 = newline)

/-- `resolve_alias` of a string. -/
def resolveAlias (model : Text) : AliasInfo :=
  match aliasMap.lookup model with
  | some info => info
  | none =>
      if isRagModel model then ⟨model, some false, true, none, []⟩
      else ⟨model, none, false, none, []⟩

/-- `is_swap_exempt`. -/
def isSwapExempt (model : Text) : Bool := model.startsWith (text "rag-")

/-- The `chat_template_kwargs` an alias injects. -/
def templateDefaults (info : AliasInfo) : Fields :=
  (info.enableThinking.map fun on => (text "enable_thinking", .bool on)).toList ++
    ((info.reasoningEffort.filter (· ≠ [])).map fun effort =>
      (text "reasoning_effort", .str effort)).toList

/-- `setdefault` of each of some fields. -/
def setDefaults (fields defaults : Fields) : Fields :=
  defaults.foldl (fun fields entry => Json.setDefault fields entry.1 entry.2) fields

/-- The body with the alias's `chat_template_kwargs`. -/
def applyTemplate (body : Fields) (info : AliasInfo) : Option Fields :=
  if (templateDefaults info).isEmpty then some body
  else
    match (body.lookup (text "chat_template_kwargs")).getD (.obj []) with
    | .obj kwargs => some (Json.setIn body (text "chat_template_kwargs")
        (.obj (setDefaults kwargs (templateDefaults info))))
    | _ => none

/-- The body with the alias's backend; one that is named already is replaced by itself. -/
def applyBackend (body : Fields) (info : AliasInfo) : Fields :=
  if (body.lookup (text "model")).isSome then Json.setIn body (text "model") (.str info.backend)
  else body

/-- `apply_alias_defaults`. -/
def applyAliasDefaults (body : Fields) (info : AliasInfo) : Option Fields :=
  (applyTemplate (applyBackend body info) info).map fun out => setDefaults out info.sampling

/-! ### Refused fields and media -/

/-- `CHAT_REFUSED_KEYS`, sorted. -/
def chatRefusedKeys : List Text := [text "image_data", text "multimodal_data", text "prompt_string"]

/-- The error of `check_chat_body` for a body that is an object; its status is 400. -/
def checkChatBody (body : Fields) : Option Text :=
  let bad := chatRefusedKeys.filter fun key => (body.lookup key).isSome
  if bad = [] then none
  else some (text "fields not accepted by this router: " ++ Text.join (text ", ") bad)

/-- `CHAT_PART_TYPES`, sorted. -/
def chatPartTypes : List Text := [text "image_url", text "refusal", text "text"]

/-- `type(value).__name__`. -/
def typeName : Json → Text
  | .null => text "NoneType"
  | .bool _ => text "bool"
  | .int _ => text "int"
  | .float _ => text "float"
  | .str _ => text "str"
  | .arr _ => text "list"
  | .obj _ => text "dict"

/-- `_image_url`. -/
def imageUrl (part : Fields) : Text :=
  match Json.getIn part (text "image_url") with
  | .str url => url
  | .obj source =>
      match Json.getIn source (text "url") with
      | .str url => url
      | _ => []
  | _ => []

/-- A part of a type that is not accepted. -/
def refuseType (shown : Text) : Except Text ℕ :=
  .error (text "content part type '" ++ shown ++ text "' is not accepted by this router (allowed: " ++
    Text.join (text ", ") chatPartTypes ++ text ")")

/-- One content part in `check_media`: how many images it is. -/
def checkPart (visionEnabled : Bool) : Json → Except Text ℕ
  | .obj part =>
      match Json.getIn part (text "type") with
      | .str kind =>
          if ¬chatPartTypes.contains kind then refuseType kind
          else if kind ≠ text "image_url" then .ok 0
          else if ¬visionEnabled then
            .error (text "the loaded chat model has no vision projector; images are not accepted")
          else if ¬(imageUrl part).startsWith (text "data:image/") then
            .error (text "images must be sent inline as data: URIs (data:image/...;base64,...); " ++
              text "remote image URLs are not fetched")
          else .ok 1
      | other => refuseType (typeName other)
  | _ => .ok 0

/-- One message in `check_media`. -/
def checkMessage (visionEnabled : Bool) : Json → Except Text ℕ
  | .obj message =>
      match Json.getIn message (text "content") with
      | .arr parts => (parts.mapM (checkPart visionEnabled)).map List.sum
      | _ => .ok 0
  | _ => .ok 0

/-- `check_media`: the number of images, or the first refusal, whose status is 400. -/
def checkMedia (messages : Json) (visionEnabled : Bool) : Except Text ℕ :=
  match messages with
  | .arr items => (items.mapM (checkMessage visionEnabled)).map List.sum
  | _ => .ok 0

/-- `image_token_estimate`. -/
def imageTokenEstimate (images : ℕ) (perImage : ℤ) : ℤ := images * max 0 perImage

/-! ### Thinking and tokens -/

/-- `message_text` of `vision_guard`, which reads a message as `brief_text` does. -/
def messageText (message : Json) : Text := (Escalation.messageText message).getD []

/-- The alternatives of `NOTHINK_HINT`. -/
def nothinkHints : List Text := [text "/no_think", text "hide thinking", text "strip reasoning"]

/-- `NOTHINK_HINT.search`. -/
def hasNothinkHint (content : Text) : Bool :=
  content.tails.any fun rest => nothinkHints.any fun hint => Text.phraseHere hint rest

/-- `msgs and msgs[0].get("role") == "system"`, with the hint looked for where it holds. -/
def systemHint : Json → Option Bool
  | .arr (.obj first :: _) =>
      match Json.getIn first (text "role") with
      | .str role => some (role = text "system" && hasNothinkHint (messageText (.obj first)))
      | _ => some false
  | .arr [] | .obj [] | .str [] | .null | .bool false | .int 0 | .float (.finite 0) => some false
  | _ => none

/-- `should_strip_thinking`. -/
def shouldStripThinking (body : Fields) (header : Option Text) : Option Bool :=
  match header with
  | some value => some ([text "true", text "1", text "yes"].contains value.lower)
  | none =>
      match body.lookup (text "strip_thinking") with
      | some value => some value.truthy
      | none => do
          let hinted ← systemHint ((body.lookup (text "messages")).getD (.arr []))
          if hinted then some true
          else
            match (body.lookup (text "model")).getD (.str []) with
            | .str model => some (resolveAlias model).stripThinking
            | _ => none

/-- A piece of a content list in `_approx_text_from_messages`; joining raises on a text that is
no string. -/
def pieceText : Json → Option (List Text)
  | .obj piece =>
      match Json.getIn piece (text "type") with
      | .str kind =>
          if kind ≠ text "text" then some []
          else
            match (piece.lookup (text "text")).getD (.str []) with
            | .str content => some [content]
            | _ => none
      | _ => some []
  | _ => some []

/-- A message in `_approx_text_from_messages`. -/
def approxMessage : Json → Option (List Text)
  | .obj message =>
      match (message.lookup (text "content")).getD (.str []) with
      | .str content => some [content]
      | .arr pieces => (pieces.mapM pieceText).map List.flatten
      | _ => some []
  | _ => none

/-- `_approx_text_from_messages`. -/
def approxText : Json → Option Text
  | .arr messages => (messages.mapM approxMessage).map fun parts => Text.join newline parts.flatten
  | .str [] | .obj [] => some []
  | _ => none

/-! ### What the defaults leave alone -/

theorem lookup_setDefaults {fields defaults : Fields} {key : Text} {value : Json}
    (present : fields.lookup key = some value) :
    (setDefaults fields defaults).lookup key = some value := by
  induction defaults generalizing fields with
  | nil => exact present
  | cons entry rest inductionHypothesis =>
    exact inductionHypothesis (Json.lookup_setDefault present entry.2)

/-- Alias defaults change the model and the template arguments; any other field that is present
stays. -/
theorem lookup_applyAliasDefaults {body out : Fields} {info : AliasInfo}
    (applied : applyAliasDefaults body info = some out) {key : Text} {value : Json}
    (notModel : text "model" ≠ key) (notTemplate : text "chat_template_kwargs" ≠ key)
    (present : body.lookup key = some value) : out.lookup key = some value := by
  obtain ⟨templated, template, rfl⟩ := Option.map_eq_some_iff.mp applied
  have named : (applyBackend body info).lookup key = some value := by
    unfold applyBackend
    split
    · rw [Json.lookup_setIn_of_ne notModel, present]
    · exact present
  refine lookup_setDefaults ?_
  unfold applyTemplate at template
  split at template
  · cases template
    exact named
  · split at template
    · cases template
      rw [Json.lookup_setIn_of_ne notTemplate, named]
    · cases template

end Router

end LocalGpuCluster
