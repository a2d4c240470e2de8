/-
This file is about the two walks of `vision_guard.py` over what a client wants a model to look at:
`check_media` over OpenAI messages, which is modelled with the chat route, and `check_media_anthropic`.
A body is accepted exactly where every part of it is allowed, and then the images are counted. In the
Anthropic shape more has to be right than the types: what is not of the expected shape is refused.
-/

import LocalGpuCluster.ChatBody

namespace LocalGpuCluster

namespace VisionGuard

open Router (Fields checkMedia checkPart checkMessage chatPartTypes imageUrl typeName)

/-! ### Anthropic bodies -/

/-- `ANTHROPIC_PLAIN_BLOCKS`. -/
def anthropicPlainBlocks : List Text :=
  [text "text", text "thinking", text "redacted_thinking", text "tool_use"]

def imageKind : Text := text "image"

def resultKind : Text := text "tool_result"

/-- The source of an image block is inline. -/
def isInline (block : Fields) : Bool :=
  match Json.getIn block (text "source") with
  | .obj source =>
      match Json.getIn source (text "type"), Json.getIn source (text "data"),
        Json.getIn source (text "media_type") with
      | .str kind, .str _, .str media => kind = text "base64" && media.startsWith (text "image/")
      | _, _, _ => false
  | _ => false

/-- An image block, which is the last kind there may be. -/
def anthropicImage (visionEnabled : Bool) (kind : Text) (block : Fields) : Except Text ℕ :=
  if kind = imageKind then
    if ¬visionEnabled then
      .error (text "the loaded chat model has no vision projector; images are not accepted")
    else if ¬isInline block then
      .error (text "images must be base64 sources with an image/* media_type; " ++
        text "url and file sources are not fetched")
    else .ok 1
  else .error (text "content block type '" ++ kind ++ text "' is not accepted by this router")

/-- One block in `_anthropic_blocks`, with what looks at the blocks of a `tool_result` where these are
allowed: how many images it is. -/
def anthropicBlock (visionEnabled : Bool) (nested : Option (List Json → Except Text ℕ)) :
    Json → Except Text ℕ
  | .obj block =>
      match Json.getIn block (text "type") with
      | .str kind =>
          if anthropicPlainBlocks.contains kind then .ok 0
          else
            match if kind = resultKind then nested else none with
            | some inner =>
                match Json.getIn block (text "content") with
                | .arr blocks => inner blocks
                | .null | .str _ => .ok 0
                | _ => .error (text "tool_result content must be a string or a list of blocks")
            | none => anthropicImage visionEnabled kind block
      | other => .error (text "content block type '" ++ typeName other ++ text "' is not accepted")
  | _ => .error (text "content blocks must be JSON objects")

/-- `_anthropic_blocks`. -/
def anthropicBlocks (visionEnabled : Bool) (nested : Option (List Json → Except Text ℕ))
    (blocks : List Json) : Except Text ℕ :=
  (blocks.mapM (anthropicBlock visionEnabled nested)).map List.sum

/-- A block of a system prompt. -/
def isTextBlock : Json → Bool
  | .obj block =>
      match Json.getIn block (text "type") with
      | .str kind => kind = text "text"
      | _ => false
  | _ => false

/-- The system prompt in `check_media_anthropic`. -/
def checkSystem : Json → Except Text Unit
  | .arr blocks =>
      if blocks.all isTextBlock then .ok () else .error (text "system blocks must be text")
  | .null | .str _ => .ok ()
  | _ => .error (text "system must be a string or a list of text blocks")

/-- One message in `check_media_anthropic`. -/
def anthropicMessage (visionEnabled : Bool) : Json → Except Text ℕ
  | .obj message =>
      match Json.getIn message (text "content") with
      | .arr blocks => anthropicBlocks visionEnabled (some (anthropicBlocks visionEnabled none)) blocks
      | _ => .ok 0
  | _ => .ok 0

/-- `check_media_anthropic`: the number of images, or the first refusal, whose status is 400. -/
def checkMediaAnthropic (body : Json) (visionEnabled : Bool) : Except Text ℕ :=
  match body with
  | .obj fields => do
      checkSystem (Json.getIn fields (text "system"))
      match Json.getIn fields (text "messages") with
      | .arr messages => (messages.mapM (anthropicMessage visionEnabled)).map List.sum
      | _ => .ok 0
  | _ => .error (text "request body must be a JSON object")

/-! ### Checks that count -/

/-- A check that accepts what fits with a count, and refuses all else. -/
def Counts {Item : Type} (check : Item → Except Text ℕ) (fits : Item → Prop) (count : Item → ℕ) :
    Prop :=
  ∀ item, fits item ∧ check item = .ok (count item) ∨ ¬ fits item ∧ ∃ refusal, check item = .error refusal

section Counts

variable {Item : Type} {check : Item → Except Text ℕ} {fits : Item → Prop} {count : Item → ℕ}

theorem Counts.accepts_iff (counts : Counts check fits count) (item : Item) :
    (∃ images, check item = .ok images) ↔ fits item := by
  obtain ⟨fit, accepted⟩ | ⟨unfit, refusal, refused⟩ := counts item
  · exact iff_of_true ⟨_, accepted⟩ fit
  · refine iff_of_false ?_ unfit
    rintro ⟨images, accepted⟩
    rw [refused] at accepted
    cases accepted

theorem Counts.eq_of_accepted (counts : Counts check fits count) {item : Item} {images : ℕ}
    (accepted : check item = .ok images) : images = count item := by
  obtain ⟨_, same⟩ | ⟨_, refusal, refused⟩ := counts item
  · rw [accepted] at same
    exact Except.ok.inj same
  · rw [accepted] at refused
    cases refused

/-- A list is checked item by item. -/
theorem Counts.list (counts : Counts check fits count) :
    Counts (fun items : List Item => (items.mapM check).map List.sum)
      (fun items => ∀ item ∈ items, fits item) fun items => (items.map count).sum := by
  intro items
  induction items with
  | nil => exact Or.inl ⟨fun _ member => absurd member List.not_mem_nil, rfl⟩
  | cons item rest inductionHypothesis =>
    dsimp only at inductionHypothesis ⊢
    rw [List.forall_mem_cons, List.mapM_cons]
    obtain ⟨fit, accepted⟩ | ⟨unfit, refusal, refused⟩ := counts item
    · rw [accepted]
      cases others : rest.mapM check with
      | ok values =>
        rw [others] at inductionHypothesis
        obtain ⟨all, sum⟩ | ⟨_, refusal, refused⟩ := inductionHypothesis
        · refine Or.inl ⟨⟨fit, all⟩, ?_⟩
          rw [List.map_cons, List.sum_cons, ← Except.ok.inj sum]
          rfl
        · cases refused
      | error refusal =>
        rw [others] at inductionHypothesis
        obtain ⟨_, accepted⟩ | ⟨some, _⟩ := inductionHypothesis
        · cases accepted
        · exact Or.inr ⟨fun both => some both.2, refusal, rfl⟩
    · rw [refused]
      exact Or.inr ⟨fun both => unfit both.1, refusal, rfl⟩

theorem Counts.congr {other : Item → Except Text ℕ} {others : Item → Prop} {another : Item → ℕ}
    (counts : Counts check fits count) (sameCheck : ∀ item, other item = check item)
    (sameFits : ∀ item, others item ↔ fits item) (sameCount : ∀ item, another item = count item) :
    Counts other others another := by
  intro item
  rw [sameCheck, sameFits, sameCount]
  exact counts item

/-- The items are lists that are all checked. -/
theorem Counts.flatMap {Whole : Type} (counts : Counts check fits count) (parts : Whole → List Item) :
    Counts (fun wholes : List Whole => (wholes.mapM fun whole =>
        ((parts whole).mapM check).map List.sum).map List.sum)
      (fun wholes => ∀ item ∈ wholes.flatMap parts, fits item)
      fun wholes => ((wholes.flatMap parts).map count).sum := by
  have each : Counts (fun whole => ((parts whole).mapM check).map List.sum)
      (fun whole => ∀ item ∈ parts whole, fits item) fun whole => ((parts whole).map count).sum :=
    fun whole => counts.list (parts whole)
  refine each.list.congr (fun _ => rfl) (fun _ => List.forall_mem_flatMap) fun wholes => ?_
  induction wholes with
  | nil => rfl
  | cons whole rest inductionHypothesis =>
    rw [List.flatMap_cons, List.map_append, List.sum_append, inductionHypothesis, List.map_cons,
      List.sum_cons]

end Counts

theorem sum_countP {Item : Type} (counted : Item → Bool) (items : List Item) :
    (items.map fun item => if counted item then 1 else 0).sum = items.countP counted := by
  induction items with
  | nil => rfl
  | cons item rest inductionHypothesis =>
    rw [List.map_cons, List.sum_cons, inductionHypothesis, List.countP_cons, Nat.add_comm]

/-! ### What is allowed -/

/-- The parts of a message whose content is a list. -/
def messageParts : Json → List Json
  | .obj message =>
      match Json.getIn message (text "content") with
      | .arr parts => parts
      | _ => []
  | _ => []

/-- The parts of the messages, in every content that is a list. -/
def contentParts : Json → List Json
  | .arr messages => messages.flatMap messageParts
  | _ => []

/-- The type of an object. -/
def kindOf : Json → Option Text
  | .obj part =>
      match Json.getIn part (text "type") with
      | .str kind => some kind
      | _ => none
  | _ => none

/-- An object of an allowed type, inline where it is an image, for which there must be vision. -/
def Allowed (visionEnabled : Bool) (kinds : List Text) (image : Text) (inline : Fields → Bool)
    (part : Fields) : Prop :=
  ∃ kind ∈ kinds, kindOf (.obj part) = some kind ∧
    (kind = image → visionEnabled = true ∧ inline part = true)

theorem allowed_iff {visionEnabled : Bool} {kinds : List Text} {image : Text}
    {inline : Fields → Bool} {part : Fields} {kind : Text} (named : kindOf (.obj part) = some kind) :
    Allowed visionEnabled kinds image inline part ↔
      kind ∈ kinds ∧ (kind = image → visionEnabled = true ∧ inline part = true) := by
  constructor
  · rintro ⟨other, listed, same, images⟩
    obtain rfl := Option.some.inj (named.symm.trans same)
    exact ⟨listed, images⟩
  · rintro ⟨listed, images⟩
    exact ⟨kind, listed, named, images⟩

theorem not_allowed {visionEnabled : Bool} {kinds : List Text} {image : Text}
    {inline : Fields → Bool} {part : Fields} (unnamed : kindOf (.obj part) = none) :
    ¬ Allowed visionEnabled kinds image inline part := by
  rintro ⟨kind, _, same, _⟩
  rw [unnamed] at same
  cases same

theorem kindOf_str {part : Fields} {kind : Text} (named : Json.getIn part (text "type") = .str kind) :
    kindOf (.obj part) = some kind := by
  rw [kindOf, named]

theorem kindOf_other {part : Fields} (other : ∀ kind, Json.getIn part (text "type") ≠ .str kind) :
    kindOf (.obj part) = none := by
  rw [kindOf]
  split
  · rename_i kind named
    exact absurd named (other kind)
  · rfl

/-! ### OpenAI messages -/

/-- A part of an OpenAI message; what is no object is left to the server. -/
def AllowedPart (visionEnabled : Bool) (part : Json) : Prop :=
  ∀ fields, part = .obj fields → Allowed visionEnabled chatPartTypes (text "image_url")
    (fun fields => (imageUrl fields).startsWith (text "data:image/")) fields

def isImagePart (part : Json) : Bool := kindOf part = some (text "image_url")

theorem counts_checkPart (visionEnabled : Bool) : Counts (checkPart visionEnabled)
    (AllowedPart visionEnabled) fun part => if isImagePart part then 1 else 0 := by
  intro part
  cases part with
  | obj part =>
    have allowed : AllowedPart visionEnabled (.obj part) ↔ Allowed visionEnabled chatPartTypes
        (text "image_url") (fun fields => (imageUrl fields).startsWith (text "data:image/")) part :=
      ⟨fun each => each part rfl, fun one fields same => by cases same; exact one⟩
    dsimp only
    rw [allowed, checkPart]
    cases typed : Json.getIn part (text "type") with
    | str kind =>
      rw [allowed_iff (kindOf_str typed), isImagePart, kindOf_str typed]
      dsimp only
      by_cases listed : kind ∈ chatPartTypes
      · rw [if_neg (not_not_intro (List.contains_iff_mem.mpr listed))]
        by_cases image : kind = text "image_url"
        · rw [if_neg (not_not_intro image), if_pos (decide_eq_true (congrArg some image))]
          cases visionEnabled with
          | false => exact Or.inr ⟨fun fits => Bool.false_ne_true (fits.2 image).1, _, rfl⟩
          | true =>
            by_cases inline : (imageUrl part).startsWith (text "data:image/") = true
            · rw [if_neg (not_not_intro rfl), if_neg (not_not_intro inline)]
              exact Or.inl ⟨⟨listed, fun _ => ⟨rfl, inline⟩⟩, rfl⟩
            · rw [if_neg (not_not_intro rfl), if_pos inline]
              exact Or.inr ⟨fun fits => inline (fits.2 image).2, _, rfl⟩
        · rw [if_pos image, if_neg fun same => image (Option.some.inj (of_decide_eq_true same))]
          exact Or.inl ⟨⟨listed, fun same => absurd same image⟩, rfl⟩
      · rw [if_pos fun contained => listed (List.contains_iff_mem.mp contained)]
        exact Or.inr ⟨fun fits => listed fits.1, _, rfl⟩
    | null | bool | int | float | arr | obj =>
      refine Or.inr ⟨not_allowed (kindOf_other fun kind named => ?_), _, rfl⟩
      rw [typed] at named
      cases named
  | null | bool | int | float | str | arr => exact Or.inl ⟨fun _ same => (by cases same), rfl⟩

/-- The messages are walked part by part. -/
theorem Counts.messages {check : Json → Except Text ℕ} {fits : Json → Prop} {count : Json → ℕ}
    (counts : Counts check fits count) {message : Json → Except Text ℕ}
    (each : ∀ item, message item = ((messageParts item).mapM check).map List.sum) :
    Counts (fun messages => match messages with
        | .arr items => (items.mapM message).map List.sum
        | _ => .ok 0)
      (fun messages => ∀ part ∈ contentParts messages, fits part)
      fun messages => ((contentParts messages).map count).sum := by
  have parts := counts.flatMap messageParts
  intro messages
  cases messages with
  | arr items =>
    dsimp only
    rw [funext each, contentParts]
    exact parts items
  | null | bool | int | float | str | obj =>
    exact Or.inl ⟨fun _ member => absurd member List.not_mem_nil, rfl⟩

theorem checkMessage_eq (visionEnabled : Bool) (message : Json) : checkMessage visionEnabled message =
    ((messageParts message).mapM (checkPart visionEnabled)).map List.sum := by
  cases message with
  | obj fields =>
    rw [checkMessage, messageParts]
    cases Json.getIn fields (text "content") <;> rfl
  | null | bool | int | float | str | arr => rfl

theorem counts_checkMedia (visionEnabled : Bool) :
    Counts (fun messages => checkMedia messages visionEnabled)
      (fun messages => ∀ part ∈ contentParts messages, AllowedPart visionEnabled part)
      fun messages => (contentParts messages).countP isImagePart :=
  ((counts_checkPart visionEnabled).messages (checkMessage_eq visionEnabled)).congr (fun _ => rfl)
    (fun _ => Iff.rfl) fun _ => (sum_countP _ _).symm

/-! ### Anthropic messages -/

/-- The blocks in a `tool_result`. -/
def innerBlocks (block : Json) : List Json :=
  if kindOf block = some resultKind then messageParts block else []

/-- Text, a list or nothing. -/
def isTextOrList : Json → Bool
  | .arr _ | .null | .str _ => true
  | _ => false

def isImageBlock (block : Json) : Bool := kindOf block = some imageKind

/-- A block in a `tool_result`: an object, and no `tool_result` again. -/
def AllowedInner (visionEnabled : Bool) (block : Json) : Prop :=
  ∃ fields, block = .obj fields ∧
    Allowed visionEnabled (anthropicPlainBlocks ++ [imageKind]) imageKind isInline fields

/-- A block of a message: an object, and a `tool_result` has text or allowed blocks in it. -/
def AllowedBlock (visionEnabled : Bool) (block : Json) : Prop :=
  ∃ fields, block = .obj fields ∧
    Allowed visionEnabled (anthropicPlainBlocks ++ [resultKind, imageKind]) imageKind isInline fields ∧
    (kindOf block = some resultKind → isTextOrList (Json.getIn fields (text "content")) = true) ∧
    ∀ inner ∈ innerBlocks block, AllowedInner visionEnabled inner

theorem anthropicImage_cases (visionEnabled : Bool) (kind : Text) (block : Fields) :
    (kind = imageKind ∧ visionEnabled = true ∧ isInline block = true) ∧
        anthropicImage visionEnabled kind block = .ok 1 ∨
      ¬(kind = imageKind ∧ visionEnabled = true ∧ isInline block = true) ∧
        ∃ refusal, anthropicImage visionEnabled kind block = .error refusal := by
  unfold anthropicImage
  by_cases image : kind = imageKind
  · rw [if_pos image]
    cases visionEnabled with
    | false => exact Or.inr ⟨fun all => Bool.false_ne_true all.2.1, _, rfl⟩
    | true =>
      rw [if_neg (not_not_intro rfl)]
      by_cases inline : isInline block = true
      · rw [if_neg (not_not_intro inline)]
        exact Or.inl ⟨⟨image, rfl, inline⟩, rfl⟩
      · rw [if_pos inline]
        exact Or.inr ⟨fun all => inline all.2.2, _, rfl⟩
  · rw [if_neg image]
    exact Or.inr ⟨fun all => image all.1, _, rfl⟩

/-- An image block must be allowed as such. -/
theorem counts_image {visionEnabled : Bool} {kind : Text} {block : Fields} {kinds : List Text}
    (named : kindOf (.obj block) = some kind) (listed : kind ∈ kinds ↔ kind = imageKind) :
    Allowed visionEnabled kinds imageKind isInline block ∧
        anthropicImage visionEnabled kind block = .ok (if isImageBlock (.obj block) then 1 else 0) ∨
      ¬Allowed visionEnabled kinds imageKind isInline block ∧
        ∃ refusal, anthropicImage visionEnabled kind block = .error refusal := by
  rw [allowed_iff named, listed]
  obtain ⟨⟨image, both⟩, accepted⟩ | ⟨never, refused⟩ := anthropicImage_cases visionEnabled kind block
  · refine Or.inl ⟨⟨image, fun _ => both⟩, ?_⟩
    rw [accepted, isImageBlock, named, if_pos (decide_eq_true (congrArg some image))]
  · exact Or.inr ⟨fun fits => never ⟨fits.1, fits.2 fits.1⟩, refused⟩

theorem not_plain_image : imageKind ∉ anthropicPlainBlocks := by decide

theorem not_plain_result : resultKind ∉ anthropicPlainBlocks := by decide

theorem counts_inner (visionEnabled : Bool) : Counts (anthropicBlock visionEnabled none)
    (AllowedInner visionEnabled) fun block => if isImageBlock block then 1 else 0 := by
  intro block
  cases block with
  | obj block =>
    have allowed : AllowedInner visionEnabled (.obj block) ↔ Allowed visionEnabled
        (anthropicPlainBlocks ++ [imageKind]) imageKind isInline block :=
      ⟨fun ⟨_, same, allowed⟩ => by cases same; exact allowed, fun allowed => ⟨_, rfl, allowed⟩⟩
    dsimp only
    rw [allowed, anthropicBlock]
    cases typed : Json.getIn block (text "type") with
    | str kind =>
      dsimp only
      by_cases plain : kind ∈ anthropicPlainBlocks
      · have other : kind ≠ imageKind := fun same => not_plain_image (same ▸ plain)
        rw [if_pos (List.contains_iff_mem.mpr plain), allowed_iff (kindOf_str typed), isImageBlock,
          kindOf_str typed, if_neg fun same => other (Option.some.inj (of_decide_eq_true same))]
        exact Or.inl ⟨⟨List.mem_append_left _ plain, fun same => absurd same other⟩, rfl⟩
      · rw [if_neg fun contained => plain (List.contains_iff_mem.mp contained), ite_self]
        refine counts_image (kindOf_str typed) ?_
        rw [List.mem_append, or_iff_right plain, List.mem_singleton]
    | null | bool | int | float | arr | obj =>
      refine Or.inr ⟨not_allowed (kindOf_other fun kind named => ?_), _, rfl⟩
      rw [typed] at named
      cases named
  | null | bool | int | float | str | arr =>
    exact Or.inr ⟨fun ⟨_, same, _⟩ => (by cases same), _, rfl⟩

/-- A `tool_result` is allowed as its content is. -/
theorem counts_result (visionEnabled : Bool) {block : Fields}
    (named : kindOf (.obj block) = some resultKind) :
    (isTextOrList (Json.getIn block (text "content")) = true ∧
        ∀ inner ∈ innerBlocks (.obj block), AllowedInner visionEnabled inner) ∧
        (match Json.getIn block (text "content") with
          | .arr blocks => anthropicBlocks visionEnabled none blocks
          | .null | .str _ => .ok 0
          | _ => .error (text "tool_result content must be a string or a list of blocks")) =
          .ok ((innerBlocks (.obj block)).countP isImageBlock) ∨
      ¬(isTextOrList (Json.getIn block (text "content")) = true ∧
        ∀ inner ∈ innerBlocks (.obj block), AllowedInner visionEnabled inner) ∧
        ∃ refusal, (match Json.getIn block (text "content") with
          | .arr blocks => anthropicBlocks visionEnabled none blocks
          | .null | .str _ => .ok 0
          | _ => .error (text "tool_result content must be a string or a list of blocks")) =
          .error refusal := by
  rw [innerBlocks, if_pos named, messageParts]
  cases Json.getIn block (text "content") with
  | arr blocks =>
    dsimp only
    rw [isTextOrList, ← sum_countP]
    obtain ⟨fit, accepted⟩ | ⟨unfit, refused⟩ := (counts_inner visionEnabled).list blocks
    · exact Or.inl ⟨⟨rfl, fit⟩, accepted⟩
    · exact Or.inr ⟨fun both => unfit both.2, refused⟩
  | null | str => exact Or.inl ⟨⟨rfl, fun _ member => absurd member List.not_mem_nil⟩, rfl⟩
  | bool | int | float | obj => exact Or.inr ⟨fun both => Bool.false_ne_true both.1, _, rfl⟩

theorem counts_block (visionEnabled : Bool) :
    Counts (anthropicBlock visionEnabled (some (anthropicBlocks visionEnabled none)))
      (AllowedBlock visionEnabled) fun block => (block :: innerBlocks block).countP isImageBlock := by
  intro block
  cases block with
  | obj block =>
    have allowed : AllowedBlock visionEnabled (.obj block) ↔ Allowed visionEnabled
        (anthropicPlainBlocks ++ [resultKind, imageKind]) imageKind isInline block ∧
        (kindOf (.obj block) = some resultKind →
          isTextOrList (Json.getIn block (text "content")) = true) ∧
        ∀ inner ∈ innerBlocks (.obj block), AllowedInner visionEnabled inner :=
      ⟨fun ⟨_, same, allowed⟩ => by cases same; exact allowed, fun allowed => ⟨_, rfl, allowed⟩⟩
    -- Only a `tool_result` has blocks in it.
    have noInner (other : kindOf (.obj block) ≠ some resultKind) : innerBlocks (.obj block) = [] :=
      if_neg other
    dsimp only
    rw [allowed, anthropicBlock, List.countP_cons]
    cases typed : Json.getIn block (text "type") with
    | str kind =>
      have named := kindOf_str typed
      dsimp only
      by_cases plain : kind ∈ anthropicPlainBlocks
      · have image : kind ≠ imageKind := fun same => not_plain_image (same ▸ plain)
        have result : kind ≠ resultKind := fun same => not_plain_result (same ▸ plain)
        have other : kindOf (.obj block) ≠ some resultKind := fun same =>
          result (Option.some.inj (named.symm.trans same))
        rw [if_pos (List.contains_iff_mem.mpr plain), allowed_iff named, noInner other, isImageBlock,
          named, if_neg fun same => image (Option.some.inj (of_decide_eq_true same))]
        exact Or.inl ⟨⟨⟨List.mem_append_left _ plain, fun same => absurd same image⟩,
          fun same => absurd (Option.some.inj same) result,
          fun _ member => absurd member List.not_mem_nil⟩, rfl⟩
      · rw [if_neg fun contained => plain (List.contains_iff_mem.mp contained)]
        by_cases result : kind = resultKind
        · subst result
          have image : resultKind ≠ imageKind := by decide
          rw [if_pos rfl, allowed_iff named, isImageBlock, named, Nat.add_comm,
            if_neg fun same => image (Option.some.inj (of_decide_eq_true same)), Nat.zero_add]
          have listed : resultKind ∈ anthropicPlainBlocks ++ [resultKind, imageKind] := by decide
          obtain ⟨fit, accepted⟩ | ⟨unfit, refused⟩ := counts_result visionEnabled named
          · exact Or.inl ⟨⟨⟨listed, fun same => absurd same image⟩, fun _ => fit.1, fit.2⟩, accepted⟩
          · exact Or.inr ⟨fun all => unfit ⟨all.2.1 rfl, all.2.2⟩, refused⟩
        · have other : kindOf (.obj block) ≠ some resultKind := fun same =>
            result (Option.some.inj (named.symm.trans same))
          have listed : kind ∈ anthropicPlainBlocks ++ [resultKind, imageKind] ↔ kind = imageKind := by
            rw [List.mem_append, or_iff_right plain, List.mem_cons, or_iff_right result,
              List.mem_singleton]
          rw [if_neg result, noInner other, List.countP_nil, Nat.zero_add]
          obtain ⟨fit, accepted⟩ | ⟨unfit, refused⟩ := counts_image named listed
          · exact Or.inl ⟨⟨fit, fun same => absurd same other,
              fun _ member => absurd member List.not_mem_nil⟩, accepted⟩
          · exact Or.inr ⟨fun all => unfit all.1, refused⟩
    | null | bool | int | float | arr | obj =>
      refine Or.inr ⟨fun all => not_allowed (kindOf_other fun kind named => ?_) all.1, _, rfl⟩
      rw [typed] at named
      cases named
  | null | bool | int | float | str | arr =>
    exact Or.inr ⟨fun ⟨_, same, _⟩ => (by cases same), _, rfl⟩

/-! ### Bodies -/

/-- A system prompt is text, a list of text blocks or left out. -/
def SystemFits (system : Json) : Prop :=
  isTextOrList system = true ∧
    ∀ blocks, system = .arr blocks → ∀ block ∈ blocks, kindOf block = some (text "text")

/-- All blocks of a body, those in a `tool_result` after it. -/
def walkedBlocks (body : Fields) : List Json :=
  (contentParts (Json.getIn body (text "messages"))).flatMap fun block => block :: innerBlocks block

/-- An Anthropic body that is accepted: an object with a system prompt and blocks as they should be. -/
def BodyFits (visionEnabled : Bool) (body : Json) : Prop :=
  ∃ fields, body = .obj fields ∧ SystemFits (Json.getIn fields (text "system")) ∧
    ∀ block ∈ contentParts (Json.getIn fields (text "messages")), AllowedBlock visionEnabled block

/-- The images anywhere in a body. -/
def imageCount : Json → ℕ
  | .obj fields => (walkedBlocks fields).countP isImageBlock
  | _ => 0

theorem isTextBlock_iff (block : Json) :
    isTextBlock block = true ↔ kindOf block = some (text "text") := by
  cases block with
  | obj block =>
    rw [isTextBlock, kindOf]
    cases Json.getIn block (text "type") with
    | str kind =>
      exact decide_eq_true_iff.trans ⟨congrArg some, Option.some.inj⟩
    | null | bool | int | float | arr | obj =>
      exact iff_of_false Bool.false_ne_true fun same => by cases same
  | null | bool | int | float | str | arr =>
    exact iff_of_false Bool.false_ne_true fun same => by cases same

theorem checkSystem_cases (system : Json) :
    SystemFits system ∧ checkSystem system = .ok () ∨
      ¬ SystemFits system ∧ ∃ refusal, checkSystem system = .error refusal := by
  cases system with
  | arr blocks =>
    have fits : SystemFits (.arr blocks) ↔ blocks.all isTextBlock = true := by
      rw [List.all_eq_true]
      constructor
      · exact fun fits block member => (isTextBlock_iff block).mpr (fits.2 blocks rfl block member)
      · intro all
        refine ⟨rfl, fun others same block member => ?_⟩
        cases same
        exact (isTextBlock_iff block).mp (all block member)
    rw [fits, checkSystem]
    by_cases all : blocks.all isTextBlock = true
    · rw [if_pos all]
      exact Or.inl ⟨all, rfl⟩
    · rw [if_neg all]
      exact Or.inr ⟨all, _, rfl⟩
  | null | str => exact Or.inl ⟨⟨rfl, fun _ same => by cases same⟩, rfl⟩
  | bool | int | float | obj => exact Or.inr ⟨fun fits => Bool.false_ne_true fits.1, _, rfl⟩

theorem anthropicMessage_eq (visionEnabled : Bool) (message : Json) :
    anthropicMessage visionEnabled message = ((messageParts message).mapM
      (anthropicBlock visionEnabled (some (anthropicBlocks visionEnabled none)))).map List.sum := by
  cases message with
  | obj fields =>
    rw [anthropicMessage, messageParts]
    cases Json.getIn fields (text "content") <;> rfl
  | null | bool | int | float | str | arr => rfl

theorem counts_checkMediaAnthropic (visionEnabled : Bool) :
    Counts (fun body => checkMediaAnthropic body visionEnabled) (BodyFits visionEnabled) imageCount := by
  have messages := (counts_block visionEnabled).messages (anthropicMessage_eq visionEnabled)
  intro body
  cases body with
  | obj fields =>
    have fits : BodyFits visionEnabled (.obj fields) ↔ SystemFits (Json.getIn fields (text "system")) ∧
        ∀ block ∈ contentParts (Json.getIn fields (text "messages")),
          AllowedBlock visionEnabled block :=
      ⟨fun ⟨_, same, both⟩ => by cases same; exact both, fun both => ⟨_, rfl, both⟩⟩
    dsimp only
    rw [fits, checkMediaAnthropic, imageCount, walkedBlocks, List.countP_flatMap]
    obtain ⟨system, accepted⟩ | ⟨never, refusal, refused⟩ :=
      checkSystem_cases (Json.getIn fields (text "system"))
    · rw [accepted]
      obtain ⟨fit, counted⟩ | ⟨unfit, refused⟩ := messages (Json.getIn fields (text "messages"))
      · exact Or.inl ⟨⟨system, fit⟩, counted⟩
      · exact Or.inr ⟨fun both => unfit both.2, refused⟩
    · rw [refused]
      exact Or.inr ⟨fun both => never both.1, refusal, rfl⟩
  | null | bool | int | float | str | arr =>
    exact Or.inr ⟨fun ⟨_, same, _⟩ => (by cases same), _, rfl⟩

/-- Both guards accept exactly what is allowed, and count its images. -/
theorem media_accepted_iff (visionEnabled : Bool) (messages body : Json) :
    ((∃ images, checkMedia messages visionEnabled = .ok images) ↔
      ∀ part ∈ contentParts messages, AllowedPart visionEnabled part) ∧
    (∀ images, checkMedia messages visionEnabled = .ok images →
      images = (contentParts messages).countP isImagePart) ∧
    ((∃ images, checkMediaAnthropic body visionEnabled = .ok images) ↔ BodyFits visionEnabled body) ∧
    ∀ images, checkMediaAnthropic body visionEnabled = .ok images → images = imageCount body :=
  ⟨(counts_checkMedia visionEnabled).accepts_iff messages,
    fun _ accepted => (counts_checkMedia visionEnabled).eq_of_accepted accepted,
    (counts_checkMediaAnthropic visionEnabled).accepts_iff body,
    fun _ accepted => (counts_checkMediaAnthropic visionEnabled).eq_of_accepted accepted⟩

/-- A string among the blocks is refused although no object in the body is anything but allowed. -/
theorem not_objects_alone : ¬ ∀ (visionEnabled : Bool) (fields : Fields),
    (∃ images, checkMediaAnthropic (.obj fields) visionEnabled = .ok images) ↔
      ∀ block ∈ contentParts (Json.getIn fields (text "messages")), ∀ part, block = .obj part →
        Allowed visionEnabled (anthropicPlainBlocks ++ [resultKind, imageKind]) imageKind isInline part ∧
        ∀ inner ∈ innerBlocks block, ∀ other, inner = .obj other →
          Allowed visionEnabled (anthropicPlainBlocks ++ [imageKind]) imageKind isInline other := by
  intro claimed
  have accepted := (claimed true [(text "messages", .arr [.obj [(text "content",
    .arr [.str (text "hi")])]])]).mpr fun block member part same => by
      cases List.mem_singleton.mp member
      cases same
  obtain ⟨images, accepted⟩ := accepted
  cases accepted

end VisionGuard

end LocalGpuCluster
