/-
This file asks for which bodies the owner's chat completions come as far as a slot, or are refused with
a 4xx status: everything before the slot walks the same body, and each helper raises on other shapes of
it. The exact condition is put together from what each of them needs.
-/

import LocalGpuCluster.AliasDefaults
import LocalGpuCluster.Router
import LocalGpuCluster.VisionGuard

namespace LocalGpuCluster

namespace ChatRoute

open AliasDefaults (modelKey templateKey)
open Router (Act Conditions Config Fields RawBody)
open VisionGuard (AllowedPart contentParts)

def owner : AccessKeys.Principal := AccessKeys.Principal.owner

/-- `chat` from the body on for the owner. A body that `copy.deepcopy` cannot copy is not refused before
the copy. -/
def chatBody (limit : ℕ) (config : Config) (conditions : Conditions) (header : Option Text)
    (body : Fields) : List Act :=
  if (Escalation.handles (Json.getIn body modelKey)).isNone && (Router.checkChatBody body).isNone &&
      !ObjectStore.within limit (.obj body) then [.respond 500]
  else Router.chatBody config conditions owner header body

/-- `chat` for the owner from the reading of the body on. -/
def chat (limit : ℕ) (config : Config) (conditions : Conditions) (header : Option Text) :
    RawBody → List Act
  | .tooLarge => [.respond 413]
  | .badLength | .invalid => [.respond 400]
  | .tooDeep => [.respond 500]
  | .json (.obj body) => chatBody limit config conditions header body
  | .json _ => [.respond 400]

/-- Up to the first slot, or to the escalation, nothing is raised but an error with a 4xx status. -/
def Orderly : List Act → Prop
  | [] => True
  | .takeSlot _ :: _ | .escalate _ :: _ => True
  | .respond status :: rest => (400 ≤ status ∧ status < 500) ∧ Orderly rest
  | .serve _ :: rest | .swap _ :: rest | .serverTools _ _ :: rest | .forward _ _ :: rest => Orderly rest

/-! ### What the helpers need -/

/-- The messages that `chat` reads. -/
def messagesOf (body : Fields) : Json := (body.lookup (text "messages")).getD (.arr [])

/-- The model that is asked for. -/
def modelOf (body : Fields) : Text :=
  match (body.lookup modelKey).getD (.str (text "?")) with
  | .str model => model
  | _ => []

/-- A model is a string. -/
def ModelFits (body : Fields) : Prop :=
  ∀ value, body.lookup modelKey = some value → ∃ model, value = .str model

/-- `msgs[0].get` is there where it is asked for. -/
def startsWithObject : Json → Bool
  | .arr (.obj _ :: _) => true
  | messages => !messages.truthy

/-- A text part has text. -/
def pieceFits : Json → Bool
  | .obj piece =>
      match Json.getIn piece (text "type"), (piece.lookup (text "text")).getD (.str []) with
      | .str _, .str _ => true
      | .str kind, _ => kind ≠ text "text"
      | _, _ => true
  | _ => true

/-- A message is an object, and the text parts of its content have text. -/
def messageFits : Json → Bool
  | .obj message =>
      match Json.getIn message (text "content") with
      | .arr pieces => pieces.all pieceFits
      | _ => true
  | _ => false

/-- The messages are a list of them, or what iterates over nothing. -/
def messagesFit : Json → Bool
  | .arr messages => messages.all messageFits
  | .str [] | .obj [] => true
  | _ => false

/-- The request waits for another backend to be loaded. -/
def waitsForSwap (config : Config) (conditions : Conditions) (body : Fields) : Bool :=
  let wanted := (Router.resolveAlias (modelOf body)).backend
  config.strictProfileMatch && (Router.aliasMap.lookup (modelOf body)).isSome &&
    !Router.isSwapExempt (modelOf body) && (conditions.activeBackend.any fun active => wanted ≠ active) &&
    config.swapWebhookUrl ≠ [] &&
    (AutoSwap.backendToProfile.any fun entry => text entry.1 = wanted) &&
    !((body.lookup (text "stream")).getD (.bool false)).truthy

/-- What a body has to be that is not refused before the copy. -/
structure Proceeds (limit : ℕ) (config : Config) (conditions : Conditions) (header : Option Text)
    (body : Fields) : Prop where
  model : ModelFits body
  hint : header.isSome = true ∨ (body.lookup (text "strip_thinking")).isSome = true ∨
    startsWithObject (messagesOf body) = true
  shallow : ObjectStore.within limit (.obj body) = true
  template : Router.templateDefaults (Router.resolveAlias (modelOf body)) = [] ∨
    ∀ value, body.lookup templateKey = some value → ∃ kwargs, value = .obj kwargs
  messages : (∃ part ∈ contentParts (messagesOf body), ¬ AllowedPart config.visionEnabled part) ∨
    messagesFit (messagesOf body) = true ∧
      (waitsForSwap config conditions body = true → conditions.swapWorks = true)

/-! ### Each helper returns where it is given what it needs -/

theorem systemHint_isSome (messages : Json) :
    (Router.systemHint messages).isSome = startsWithObject messages := by
  cases messages with
  | arr items =>
    cases items with
    | nil => rfl
    | cons first rest =>
      cases first with
      | obj fields =>
        rw [Router.systemHint, startsWithObject]
        split <;> rfl
      | null | bool | int | float | str | arr => rfl
  | null => rfl
  | bool value => cases value <;> rfl
  | int value =>
    by_cases zero : value = 0
    · subst zero
      rfl
    · simp [Router.systemHint, startsWithObject, Json.truthy, zero]
  | float value =>
    cases value with
    | finite value =>
      by_cases zero : value = 0
      · subst zero
        rfl
      · simp [Router.systemHint, startsWithObject, Json.truthy, zero]
    | infinite | notANumber => rfl
  | str value => cases value <;> rfl
  | obj fields => cases fields <;> rfl

theorem getD_str {body : Fields} (fits : ModelFits body) (default : Text) :
    ∃ model, (body.lookup modelKey).getD (.str default) = .str model := by
  cases found : body.lookup modelKey with
  | none => exact ⟨default, rfl⟩
  | some value => exact fits value found

theorem modelOf_eq {body : Fields} {model : Text}
    (named : (body.lookup modelKey).getD (.str (text "?")) = .str model) : modelOf body = model := by
  rw [modelOf, named]

theorem shouldStripThinking_isSome {body : Fields} (fits : ModelFits body) (header : Option Text) :
    (Router.shouldStripThinking body header).isSome = true ↔ header.isSome = true ∨
      (body.lookup (text "strip_thinking")).isSome = true ∨
        startsWithObject (messagesOf body) = true := by
  unfold Router.shouldStripThinking
  cases header with
  | some value => exact iff_of_true rfl (Or.inl rfl)
  | none =>
    rw [Option.isSome_none, or_iff_right Bool.false_ne_true]
    cases body.lookup (text "strip_thinking") with
    | some value => exact iff_of_true rfl (Or.inl rfl)
    | none =>
      rw [Option.isSome_none, or_iff_right Bool.false_ne_true, ← systemHint_isSome, messagesOf]
      dsimp only
      cases Router.systemHint ((body.lookup (text "messages")).getD (.arr [])) with
      | none => exact Iff.rfl
      | some hinted =>
        refine iff_of_true ?_ rfl
        obtain ⟨model, named⟩ := getD_str fits []
        cases hinted with
        | true => rfl
        | false =>
          show (match (body.lookup modelKey).getD (.str []) with
            | .str model => some (Router.resolveAlias model).stripThinking
            | _ => none).isSome = true
          rw [named]
          rfl

theorem pieceText_isSome (piece : Json) : (Router.pieceText piece).isSome = pieceFits piece := by
  cases piece with
  | obj piece =>
    rw [Router.pieceText, pieceFits]
    cases Json.getIn piece (text "type") with
    | str kind =>
      dsimp only
      by_cases other : kind ≠ text "text"
      · rw [if_pos other]
        cases (piece.lookup (text "text")).getD (.str []) <;> first | rfl | exact (decide_eq_true other).symm
      · rw [if_neg other]
        cases (piece.lookup (text "text")).getD (.str []) <;> first | rfl | exact (decide_eq_false other).symm
    | null | bool | int | float | arr | obj => rfl
  | null | bool | int | float | str | arr => rfl

theorem isSome_mapM {Item Result : Type} {make : Item → Option Result} {fits : Item → Bool}
    (each : ∀ item, (make item).isSome = fits item) (items : List Item) :
    (items.mapM make).isSome = items.all fits := by
  induction items with
  | nil => rfl
  | cons item rest inductionHypothesis =>
    rw [List.mapM_cons, List.all_cons, ← each item, ← inductionHypothesis]
    cases make item with
    | none => rfl
    | some result => cases rest.mapM make <;> rfl

theorem approxMessage_isSome (message : Json) :
    (Router.approxMessage message).isSome = messageFits message := by
  cases message with
  | obj message =>
    rw [Router.approxMessage, messageFits, Json.getIn]
    cases message.lookup (text "content") with
    | none => rfl
    | some content =>
      cases content with
      | arr pieces =>
        rw [Option.getD_some, Option.getD_some]
        dsimp only
        rw [Option.isSome_map]
        exact isSome_mapM pieceText_isSome pieces
      | null | bool | int | float | str | obj => rfl
  | null | bool | int | float | str | arr => rfl

theorem approxText_isSome (messages : Json) :
    (Router.approxText messages).isSome = messagesFit messages := by
  cases messages with
  | arr messages =>
    rw [Router.approxText, messagesFit, Option.isSome_map]
    exact isSome_mapM approxMessage_isSome messages
  | str value => cases value <;> rfl
  | obj fields => cases fields <;> rfl
  | null | bool | int | float => rfl

/-! ### The messages are the client's -/

/-- No alias samples messages. -/
theorem messages_not_sampled (model : Text) :
    text "messages" ∉ (Router.resolveAlias model).sampling.map Prod.fst := by
  have qwen (temperature topP presencePenalty : ℚ) : text "messages" ∉
      (Router.qwenSampling temperature topP presencePenalty).map Prod.fst :=
    show text "messages" ∉ [text "temperature", text "top_p", text "top_k", text "min_p",
      text "presence_penalty"] by decide
  have obliterated : text "messages" ∉ Router.obliteratedSampling.map Prod.fst :=
    show text "messages" ∉ [text "temperature", text "repetition_penalty"] by decide
  have all : ∀ entry ∈ Router.aliasMap, text "messages" ∉ entry.2.sampling.map Prod.fst :=
    List.forall_iff_forall_mem.mp
      ⟨qwen _ _ _, qwen _ _ _, qwen _ _ _, qwen _ _ _, qwen _ _ _, qwen _ _ _, List.not_mem_nil,
        List.not_mem_nil, qwen _ _ _, qwen _ _ _, qwen _ _ _, qwen _ _ _, qwen _ _ _, qwen _ _ _,
        obliterated, obliterated⟩
  unfold Router.resolveAlias
  split
  · rename_i info found
    obtain ⟨before, after, split, _⟩ := List.lookup_eq_some_iff.mp found
    refine all (model, info) ?_
    rw [split]
    exact List.mem_append_right _ List.mem_cons_self
  · split <;> exact List.not_mem_nil

theorem messagesOf_applied {body out : Fields} {model : Text}
    (applied : Router.applyAliasDefaults body (Router.resolveAlias model) = some out) :
    messagesOf out = messagesOf body := by
  have notModel : modelKey ≠ text "messages" := by decide
  have notTemplate : templateKey ≠ text "messages" := by decide
  unfold messagesOf
  cases sent : body.lookup (text "messages") with
  | some value =>
    rw [Router.lookup_applyAliasDefaults applied notModel notTemplate sent]
  | none =>
    cases found : out.lookup (text "messages") with
    | none => rfl
    | some value =>
      obtain default | ⟨same, _⟩ := (AliasDefaults.keepsSent_of_applied applied).filled _ _ found sent
      · exact absurd (List.mem_map_of_mem default) (messages_not_sampled model)
      · exact absurd same.symm notTemplate

/-! ### From the body to the slot -/

theorem orderly_chatCounted (config : Config) (conditions : Conditions) (stream strip : Bool)
    (images : ℕ) (body : Fields) :
    Orderly (Router.chatCounted config conditions .chat stream strip images body) := by
  unfold Router.chatCounted Router.dispatch
  split
  · exact ⟨⟨by decide, by decide⟩, trivial⟩
  · rw [if_neg (by rw [decide_eq_false (by decide), Bool.false_and]; exact Bool.false_ne_true)]
    split
    · split <;> trivial
    · trivial

theorem orderly_chatChecked_iff {config : Config} {conditions : Conditions} {strip : Bool}
    {images : ℕ} {out body : Fields} :
    Orderly (Router.chatChecked config conditions owner
        ((body.lookup (text "stream")).getD (.bool false)).truthy strip images (modelOf body) out) ↔
      (waitsForSwap config conditions body = true → conditions.swapWorks = true) := by
  unfold Router.chatChecked Router.autoSwap waitsForSwap
  dsimp only
  generalize (config.strictProfileMatch && (Router.aliasMap.lookup (modelOf body)).isSome &&
    !Router.isSwapExempt (modelOf body) && conditions.activeBackend.any fun active =>
      decide ((Router.resolveAlias (modelOf body)).backend ≠ active)) = other
  generalize ((body.lookup (text "stream")).getD (.bool false)).truthy = stream
  generalize decide (config.swapWebhookUrl ≠ []) = url
  generalize (AutoSwap.backendToProfile.any fun entry =>
    decide (text entry.1 = (Router.resolveAlias (modelOf body)).backend)) = profile
  have counted := orderly_chatCounted config conditions stream strip images out
  cases other with
  | false => exact iff_of_true counted fun waits => absurd waits (by simp)
  | true =>
    rw [if_pos rfl]
    cases url with
    | false => exact iff_of_true ⟨⟨by decide, by decide⟩, trivial⟩ fun waits => absurd waits (by simp)
    | true =>
      cases profile with
      | false => exact iff_of_true ⟨⟨by decide, by decide⟩, trivial⟩ fun waits => absurd waits (by simp)
      | true =>
        rw [if_pos (show (true && true && AccessKeys.maySwap owner) = true from rfl)]
        cases stream with
        | true => exact iff_of_true trivial fun waits => absurd waits (by simp)
        | false =>
          rw [if_neg Bool.false_ne_true]
          cases conditions.swapWorks with
          | true => exact iff_of_true counted fun _ => rfl
          | false =>
            refine iff_of_false (fun orderly => ?_) fun works => Bool.false_ne_true (works rfl)
            exact absurd orderly.1.2 (by decide)

theorem not_orderly_500 : ¬ Orderly [.respond 500] := fun orderly => absurd orderly.1.2 (by decide)

/-- The body on its way to the slot, once it is copied. -/
theorem orderly_chatAllowed_iff {limit : ℕ} {config : Config} {conditions : Conditions}
    {header : Option Text} {body : Fields} (shallow : ObjectStore.within limit (.obj body) = true) :
    Orderly (Router.chatAllowed config conditions owner header body) ↔
      Proceeds limit config conditions header body := by
  by_cases named : ModelFits body
  · obtain ⟨model, asked⟩ := getD_str named (text "?")
    have isModel := modelOf_eq asked
    have strips := shouldStripThinking_isSome named header
    unfold Router.chatAllowed
    rw [asked]
    cases strip : Router.shouldStripThinking body header with
    | none =>
      rw [strip] at strips
      exact iff_of_false not_orderly_500 fun proceeds => Bool.false_ne_true (strips.mpr proceeds.hint)
    | some strip =>
      rw [strip] at strips
      have hint := strips.mp rfl
      have template : (Router.applyAliasDefaults body (Router.resolveAlias (modelOf body))).isSome =
          true ↔ Router.templateDefaults (Router.resolveAlias (modelOf body)) = [] ∨
            ∀ value, body.lookup templateKey = some value → ∃ kwargs, value = .obj kwargs := by
        rw [Router.applyAliasDefaults, Option.isSome_map, AliasDefaults.applyTemplate_isSome_iff,
          AliasDefaults.lookup_applyBackend_of_ne body (by decide)]
      rw [isModel] at template
      dsimp only
      cases applied : Router.applyAliasDefaults body (Router.resolveAlias model) with
      | none =>
        rw [applied] at template
        refine iff_of_false not_orderly_500 fun proceeds => ?_
        have fits := proceeds.template
        rw [isModel] at fits
        exact Bool.false_ne_true (template.mpr fits)
      | some out =>
        have same : (out.lookup (text "messages")).getD (.arr []) = messagesOf body :=
          messagesOf_applied applied
        rw [applied] at template
        have fits := template.mp rfl
        have proceeds : Proceeds limit config conditions header body ↔
            (∃ part ∈ contentParts (messagesOf body), ¬ AllowedPart config.visionEnabled part) ∨
              messagesFit (messagesOf body) = true ∧
                (waitsForSwap config conditions body = true → conditions.swapWorks = true) :=
          ⟨Proceeds.messages, fun messages => ⟨named, hint, shallow, isModel ▸ fits, messages⟩⟩
        dsimp only
        rw [same, proceeds]
        obtain ⟨allowed, accepted⟩ | ⟨refusedPart, refusal, refused⟩ :=
          VisionGuard.counts_checkMedia config.visionEnabled (messagesOf body)
        · have none : ¬ ∃ part ∈ contentParts (messagesOf body),
              ¬ AllowedPart config.visionEnabled part := by
            rintro ⟨part, member, bad⟩
            exact bad (allowed part member)
          dsimp only at accepted
          rw [accepted, or_iff_right none, ← approxText_isSome]
          cases Router.approxText (messagesOf body) with
          | none => exact iff_of_false not_orderly_500 fun both => Bool.false_ne_true both.1
          | some content =>
            rw [and_iff_right (show (some content).isSome = true from rfl), ← isModel]
            exact orderly_chatChecked_iff
        · dsimp only at refused
          rw [refused]
          refine iff_of_true ⟨⟨by decide, by decide⟩, trivial⟩ (Or.inl ?_)
          push Not at refusedPart
          exact refusedPart
  · refine iff_of_false (fun orderly => ?_) fun proceeds => named proceeds.model
    unfold Router.chatAllowed at orderly
    split at orderly
    · rename_i strip model _ asked
      refine named fun value found => ⟨model, ?_⟩
      rw [found] at asked
      exact asked
    · exact not_orderly_500 orderly

theorem orderly_chatBody_iff {limit : ℕ} {config : Config} {conditions : Conditions}
    {header : Option Text} {body : Fields} :
    Orderly (chatBody limit config conditions header body) ↔
      (Escalation.handles (Json.getIn body modelKey)).isSome = true ∨
        (Router.checkChatBody body).isSome = true ∨
          Proceeds limit config conditions header body := by
  unfold chatBody Router.chatBody
  cases Escalation.handles (Json.getIn body modelKey) with
  | some chosen =>
    refine iff_of_true ?_ (Or.inl rfl)
    show Orderly (Router.escalate conditions owner chosen)
    unfold Router.escalate
    rw [if_neg (show ¬(!owner.isOwner) = true from Bool.false_ne_true)]
    split
    · exact ⟨⟨by decide, by decide⟩, trivial⟩
    · trivial
  | none =>
    rw [Option.isSome_none, or_iff_right Bool.false_ne_true]
    cases Router.checkChatBody body with
    | some refusal => exact iff_of_true ⟨⟨by decide, by decide⟩, trivial⟩ (Or.inl rfl)
    | none =>
      rw [Option.isSome_none, or_iff_right Bool.false_ne_true]
      cases shallow : ObjectStore.within limit (.obj body) with
      | false =>
        refine iff_of_false not_orderly_500 fun proceeds => ?_
        rw [proceeds.shallow] at shallow
        cases shallow
      | true => exact orderly_chatAllowed_iff shallow

/-- The owner's request comes to a slot, to the escalation or to a 4xx error unless its body is too
deep to be read, or it is neither escalated nor refused for its fields and a helper misses something. -/
theorem orderly_chat_iff (limit : ℕ) (config : Config) (conditions : Conditions)
    (header : Option Text) (raw : RawBody) :
    Orderly (chat limit config conditions header raw) ↔ raw ≠ .tooDeep ∧
      ∀ body, raw = .json (.obj body) →
        (Escalation.handles (Json.getIn body modelKey)).isSome = true ∨
          (Router.checkChatBody body).isSome = true ∨
            Proceeds limit config conditions header body := by
  cases raw with
  | tooDeep => exact iff_of_false not_orderly_500 fun both => both.1 rfl
  | json value =>
    cases value with
    | obj body =>
      refine orderly_chatBody_iff.trans ⟨fun fits => ⟨nofun, ?_⟩, ?_⟩
      · rintro _ ⟨⟩
        exact fits
      · exact fun both => both.2 body rfl
    | null | bool | int | float | str | arr =>
      exact iff_of_true ⟨⟨by decide, by decide⟩, trivial⟩ ⟨nofun, nofun⟩
  | tooLarge | badLength | invalid =>
    exact iff_of_true ⟨⟨by decide, by decide⟩, trivial⟩ ⟨nofun, nofun⟩

/-- A router without vision that swaps nothing. -/
def plainConfig : Config where
  strictProfileMatch := false
  swapWebhookUrl := []
  visionEnabled := false
  imageTokenEstimate := 1024
  maxChatInputTokens := 100000
  toolExecutionDefault := text "client"

/-- Nothing stands in the way of the request. -/
def idleConditions : Conditions where
  now := 0
  file := none
  store := ⟨text "owner", none, []⟩
  rateLimited := false
  laneCapacity := 1
  laneOpen := true
  activeBackend := none
  swapWorks := true
  tokenCount := 1
  escalationConfigured := true

/-- An explicit `null` for the messages passes the media check and is iterated over after it. -/
theorem not_orderly_null_messages : ¬ ∀ (limit : ℕ), 2 ≤ limit → ∀ (config : Config)
    (conditions : Conditions) (header : Option Text) (body : Fields),
    Orderly (chat limit config conditions header (.json (.obj body))) := by
  intro claimed
  have orderly := claimed 500 (by decide) plainConfig idleConditions none
    [(text "messages", .null)]
  have raised : chat 500 plainConfig idleConditions none (.json (.obj [(text "messages", .null)])) =
    [.respond 500] := rfl
  rw [raised] at orderly
  exact not_orderly_500 orderly

end ChatRoute

end LocalGpuCluster
