/-
This file is about the token budget of `/v1/embeddings`: `embed_admission.py` and the request handler
that uses it. The texts are counted as the client sent them and forwarded with the end-of-text token, so
a text at the limit goes out one token over it; and the position in a rejection counts the strings of
the list alone. The exact condition for both to come out right is at the end.
-/

import LocalGpuCluster.ChatBody

namespace LocalGpuCluster

namespace EmbedAdmission

open Router (Fields)

/-! ### The admission -/

/-- The entries that `embed_texts` keeps. -/
def stringOf : Json → Option Text
  | .str content => some content
  | _ => none

/-- `embed_texts`. -/
def embedTexts : Json → List Text
  | .str content => [content]
  | .arr items => items.filterMap stringOf
  | _ => []

/-- The loop of `first_oversized`. -/
def firstOversizedFrom (limit : ℤ) (index : ℕ) : List ℤ → Option (ℕ × ℤ)
  | [] => none
  | count :: rest =>
      if count ≠ -1 ∧ limit < count then some (index, count)
      else firstOversizedFrom limit (index + 1) rest

/-- `first_oversized`. -/
def firstOversized (counts : List ℤ) (limit : ℤ) : Option (ℕ × ℤ) := firstOversizedFrom limit 0 counts

/-- `QWEN3_EOT`. -/
def qwen3Eot : Text := text "<|endoftext|>"

/-- `_ensure_eot`. -/
def ensureEot (content : Text) : Text :=
  if content = [] then content
  else if qwen3Eot.isSuffixOf content then content
  else content.rstrip ++ qwen3Eot

/-- An entry of the list that is forwarded. -/
def ensureItem : Json → Json
  | .str content => .str (ensureEot content)
  | item => item

def inputKey : Text := text "input"

/-- The body with the end-of-text tokens. -/
def ensureInput (body : Fields) : Fields :=
  match Json.getIn body inputKey with
  | .str content => Json.setIn body inputKey (.str (ensureEot content))
  | .arr items => Json.setIn body inputKey (.arr (items.map ensureItem))
  | _ => body

/-- What the request comes to, short of the embedding server's answer. -/
inductive Outcome where
  | refused (status : ℤ) (detail : Text)
  | forwarded (body : Fields)

/-- The name of an entry of the list. -/
def position (index : ℕ) : Text := text "input[" ++ decimal (index : ℕ) ++ text "]"

/-- The detail of a rejection. -/
def oversizedDetail (place : Text) (tokens limit : ℤ) : Text :=
  place ++ text " is " ++ decimal tokens ++ text " tokens, exceeds MAX_EMBED_INPUT_TOKENS=" ++
    decimal limit

/-- `embeddings`, with `MAX_EMBED_INPUT_TOKENS` and `count_tokens`. -/
def embeddings (limit : ℤ) (countTokens : Text → ℤ) (body : Fields) : Outcome :=
  let inp := Json.getIn body inputKey
  match firstOversized ((embedTexts inp).map countTokens) limit with
  | some (index, tokens) =>
      let place := match inp with
        | .str _ => text "input"
        | _ => position index
      .refused 413 (oversizedDetail place tokens limit)
  | none => .forwarded (ensureInput body)

/-! ### What is asked of it -/

/-- The detail is about a string over the limit and says where the client has it. -/
def Names (limit : ℤ) (tokens : Text → ℕ) (detail : Text) : Json → Prop
  | .str content => limit < tokens content ∧ detail = oversizedDetail (text "input") (tokens content) limit
  | .arr items => ∃ index content, items[index]? = some (.str content) ∧ limit < tokens content ∧
      detail = oversizedDetail (position index) (tokens content) limit
  | _ => False

/-- What is forwarded fits, and a rejection says what does not. -/
def KeepsLimit (limit : ℤ) (tokens : Text → ℕ) (body : Fields) : Outcome → Prop
  | .refused _ detail => Names limit tokens detail (Json.getIn body inputKey)
  | .forwarded sent => ∀ content ∈ embedTexts (Json.getIn sent inputKey), (tokens content : ℤ) ≤ limit

/-- A text to which the end-of-text token is appended has room for it. -/
def HasRoom (limit : ℤ) (tokens : Text → ℕ) (content : Text) : Prop :=
  content ≠ [] → qwen3Eot.isSuffixOf content = false → (tokens content.rstrip : ℤ) < limit

/-- A string over the limit, with nothing but strings before it. -/
def StringsFirst (limit : ℤ) (tokens : Text → ℕ) (items : List Json) : Prop :=
  ∃ (before : List Text) (content : Text) (after : List Json),
    items = before.map Json.str ++ .str content :: after ∧ limit < tokens content

/-- When the limit is kept. -/
def Fits (limit : ℤ) (tokens : Text → ℕ) (inp : Json) : Prop :=
  if ∃ content ∈ embedTexts inp, limit < tokens content then
    ∀ items, inp = .arr items → StringsFirst limit tokens items
  else ∀ content ∈ embedTexts inp, HasRoom limit tokens content

/-! ### The search -/

theorem firstOversizedFrom_eq_none {limit : ℤ} {counts : List ℤ} {start : ℕ}
    (absent : firstOversizedFrom limit start counts = none) :
    ∀ count ∈ counts, count = -1 ∨ count ≤ limit := by
  induction counts generalizing start with
  | nil => simp
  | cons count rest inductionHypothesis =>
    rw [firstOversizedFrom] at absent
    split at absent
    · cases absent
    · rename_i small
      intro other member
      obtain rfl | inRest := List.mem_cons.mp member
      · omega
      · exact inductionHypothesis absent other inRest

theorem firstOversizedFrom_eq_some {limit : ℤ} {counts : List ℤ} {start index : ℕ} {tokens : ℤ}
    (found : firstOversizedFrom limit start counts = some (index, tokens)) :
    ∃ before after, counts = before ++ tokens :: after ∧ index = start + before.length ∧
      limit < tokens ∧ ∀ count ∈ before, count = -1 ∨ count ≤ limit := by
  induction counts generalizing start with
  | nil => cases found
  | cons count rest inductionHypothesis =>
    rw [firstOversizedFrom] at found
    split at found
    · rename_i large
      cases found
      exact ⟨[], rest, rfl, rfl, large.2, by simp⟩
    · rename_i small
      obtain ⟨before, after, rfl, rfl, large, smaller⟩ := inductionHypothesis found
      refine ⟨count :: before, after, rfl, by rw [List.length_cons]; omega, large, ?_⟩
      intro other member
      obtain rfl | inBefore := List.mem_cons.mp member
      · omega
      · exact smaller other inBefore

variable {limit : ℤ} {tokens : Text → ℕ}

/-- The search over the counts, in terms of the texts. -/
theorem firstOversized_cases (limit : ℤ) (tokens : Text → ℕ) (texts : List Text) :
    (firstOversized (texts.map fun content => (tokens content : ℤ)) limit = none ∧
      ∀ content ∈ texts, (tokens content : ℤ) ≤ limit) ∨
    ∃ before content after, texts = before ++ content :: after ∧ limit < tokens content ∧
      (∀ other ∈ before, (tokens other : ℤ) ≤ limit) ∧
      firstOversized (texts.map fun content => (tokens content : ℤ)) limit =
        some (before.length, (tokens content : ℤ)) := by
  cases found : firstOversized (texts.map fun content => (tokens content : ℤ)) limit with
  | none =>
    refine Or.inl ⟨rfl, fun content member => ?_⟩
    have small := firstOversizedFrom_eq_none found _ (List.mem_map_of_mem member)
    omega
  | some entry =>
    obtain ⟨index, count⟩ := entry
    obtain ⟨before, after, split, rfl, large, smaller⟩ := firstOversizedFrom_eq_some found
    obtain ⟨first, rest, rfl, rfl, tail⟩ := List.map_eq_append_iff.mp split
    obtain ⟨content, other, rfl, rfl, rfl⟩ := List.map_eq_cons_iff.mp tail
    refine Or.inr ⟨first, content, other, rfl, large, fun earlier member => ?_, ?_⟩
    · have small := smaller _ (List.mem_map_of_mem member)
      omega
    · rw [List.length_map, Nat.zero_add]

/-! ### What is forwarded -/

theorem filterMap_stringOf_map (items : List Json) :
    (items.map ensureItem).filterMap stringOf = (items.filterMap stringOf).map ensureEot := by
  induction items with
  | nil => rfl
  | cons item rest inductionHypothesis =>
    rw [List.map_cons, List.filterMap_cons, List.filterMap_cons, inductionHypothesis]
    cases item <;> rfl

theorem getIn_setIn (body : Fields) (value : Json) :
    Json.getIn (Json.setIn body inputKey value) inputKey = value := by
  rw [Json.getIn, Json.lookup_setIn_self, Option.getD_some]

/-- The strings that are forwarded are the client's, each with its end-of-text token. -/
theorem embedTexts_ensureInput (body : Fields) :
    embedTexts (Json.getIn (ensureInput body) inputKey) =
      (embedTexts (Json.getIn body inputKey)).map ensureEot := by
  unfold ensureInput
  cases sent : Json.getIn body inputKey with
  | str content =>
    dsimp only
    rw [getIn_setIn]
    rfl
  | arr items =>
    dsimp only
    rw [getIn_setIn]
    exact filterMap_stringOf_map items
  | null | bool | int | float | obj =>
    dsimp only
    rw [sent]
    rfl

theorem ensureEot_le_iff (adds : ∀ content, tokens (content ++ qwen3Eot) = tokens content + 1)
    {content : Text} (small : (tokens content : ℤ) ≤ limit) :
    (tokens (ensureEot content) : ℤ) ≤ limit ↔ HasRoom limit tokens content := by
  unfold ensureEot HasRoom
  split
  · rename_i empty
    exact iff_of_true small fun notEmpty => absurd empty notEmpty
  · rename_i notEmpty
    split
    · rename_i ends
      exact iff_of_true small fun _ endless => by rw [ends] at endless; cases endless
    · rename_i endless
      rw [adds, Nat.cast_add, Nat.cast_one]
      constructor
      · intro fits _ _
        omega
      · intro room
        have := room notEmpty (Bool.eq_false_iff.mpr endless)
        omega

/-! ### What a rejection names -/

/-- The digits before the bracket. -/
theorem takeWhile_decimal (index : ℕ) (rest : Text) :
    (decimal (index : ℕ) ++ (text "]" ++ rest)).takeWhile (fun point => 0x30 ≤ point.val && point.val ≤ 0x39) =
      decimal (index : ℕ) := by
  rw [List.takeWhile_append_of_pos fun point member => by
    simpa using isDigit_of_mem_decimal member]
  exact List.append_nil _

theorem oversizedDetail_position_injective {first second : ℕ} {firstTokens secondTokens : ℤ}
    (same : oversizedDetail (position first) firstTokens limit =
      oversizedDetail (position second) secondTokens limit) : first = second := by
  simp only [oversizedDetail, position, List.append_assoc] at same
  have rest := List.append_cancel_left same
  have digits := congrArg
    (List.takeWhile fun point : CodePoint => 0x30 ≤ point.val && point.val ≤ 0x39) rest
  rw [takeWhile_decimal, takeWhile_decimal] at digits
  exact decimal_natCast_injective digits

/-- A string of the list is no later among the strings alone. -/
theorem exists_getElem?_filterMap {items : List Json} {index : ℕ} {content : Text}
    (found : items[index]? = some (.str content)) :
    ∃ earlier ≤ index, (items.filterMap stringOf)[earlier]? = some content := by
  induction items generalizing index with
  | nil => cases found
  | cons item rest inductionHypothesis =>
    cases index with
    | zero =>
      cases found
      exact ⟨0, le_rfl, rfl⟩
    | succ index =>
      have inRest : rest[index]? = some (.str content) := found
      obtain ⟨earlier, bound, same⟩ := inductionHypothesis inRest
      cases kept : stringOf item with
      | none => exact ⟨earlier, by omega, by rw [List.filterMap_cons_none kept]; exact same⟩
      | some text => exact ⟨earlier + 1, by omega, by rw [List.filterMap_cons_some kept]; exact same⟩

theorem filterMap_stringOf_map_str (texts : List Text) :
    (texts.map Json.str).filterMap stringOf = texts := by
  induction texts with
  | nil => rfl
  | cons content rest inductionHypothesis =>
    rw [List.map_cons, List.filterMap_cons, inductionHypothesis]
    rfl

/-- Where the first string over the limit stands at its place among the strings in the list, there
is nothing but strings before it. -/
theorem stringsFirst_of_getElem? {items : List Json} {before after : List Text} {content other : Text}
    (strings : items.filterMap stringOf = before ++ content :: after)
    (smaller : ∀ earlier ∈ before, (tokens earlier : ℤ) ≤ limit)
    (found : items[before.length]? = some (.str other)) (large : limit < tokens other) :
    StringsFirst limit tokens items := by
  induction items generalizing before with
  | nil => cases found
  | cons item rest inductionHypothesis =>
    cases before with
    | nil =>
      cases found
      exact ⟨[], other, rest, rfl, large⟩
    | cons head before =>
      cases kept : stringOf item with
      | some first =>
        rw [List.filterMap_cons_some kept] at strings
        obtain ⟨rfl, tail⟩ := List.cons_eq_cons.mp strings
        obtain ⟨start, named, last, rfl, excess⟩ := inductionHypothesis tail
          (fun earlier member => smaller earlier (List.mem_cons_of_mem _ member)) found
        refine ⟨first :: start, named, last, ?_, excess⟩
        cases item with
        | str content => cases kept; rfl
        | null | bool | int | float | arr | obj => cases kept
      | none =>
        -- The string comes before the first that is over the limit.
        rw [List.filterMap_cons_none kept] at strings
        have inRest : rest[before.length]? = some (.str other) := found
        obtain ⟨earlier, bound, same⟩ := exists_getElem?_filterMap inRest
        have short : earlier < (head :: before).length := by
          rw [List.length_cons]
          omega
        rw [strings, List.getElem?_append_left short] at same
        have small := smaller other (List.mem_of_getElem? same)
        omega

theorem names_iff {items : List Json} {before after : List Text} {content : Text}
    (strings : items.filterMap stringOf = before ++ content :: after)
    (large : limit < tokens content)
    (smaller : ∀ earlier ∈ before, (tokens earlier : ℤ) ≤ limit) :
    Names limit tokens (oversizedDetail (position before.length) (tokens content) limit) (.arr items) ↔
      StringsFirst limit tokens items := by
  constructor
  · rintro ⟨index, other, found, excess, same⟩
    rw [← oversizedDetail_position_injective same] at found
    exact stringsFirst_of_getElem? strings smaller found excess
  · rintro ⟨start, other, last, rfl, excess⟩
    have joined : start ++ other :: last.filterMap stringOf = before ++ content :: after := by
      rw [← strings, List.filterMap_append, filterMap_stringOf_map_str]
      rfl
    -- The string over the limit is not among the smaller ones.
    have bound : before.length ≤ start.length := by
      by_contra longer
      have found : before[start.length]? = some other := by
        have inBefore : start.length < before.length := by omega
        have whole : (before ++ content :: after)[start.length]? = before[start.length]? :=
          List.getElem?_append_left inBefore
        rw [← whole, ← joined, List.getElem?_append_right le_rfl, Nat.sub_self]
        rfl
      have small := smaller other (List.mem_of_getElem? found)
      omega
    refine ⟨before.length, content, ?_, large, rfl⟩
    have among : (start ++ [other])[before.length]? = some content := by
      have inStart : before.length < (start ++ [other]).length := by
        rw [List.length_append, List.length_singleton]
        omega
      have inStrings : (start ++ [other] ++ last.filterMap stringOf)[before.length]? =
          (start ++ [other])[before.length]? := List.getElem?_append_left inStart
      rw [← inStrings, List.append_assoc, List.singleton_append, joined,
        List.getElem?_append_right le_rfl, Nat.sub_self]
      rfl
    have whole : start.map Json.str ++ .str other :: last = (start ++ [other]).map Json.str ++ last := by
      rw [List.map_append, List.append_assoc]
      rfl
    rw [whole, List.getElem?_append_left (by simp; omega), List.getElem?_map, among]
    rfl

/-- The limit is kept exactly where every text to which the token is appended has room for it, or a
text over the limit has nothing but strings before it. -/
theorem keepsLimit_iff (tokens : Text → ℕ)
    (adds : ∀ content, tokens (content ++ qwen3Eot) = tokens content + 1) (limit : ℤ) (body : Fields) :
    KeepsLimit limit tokens body (embeddings limit (fun content => tokens content) body) ↔
      Fits limit tokens (Json.getIn body inputKey) := by
  unfold embeddings Fits
  obtain ⟨absent, small⟩ | ⟨before, content, after, split, large, smaller, found⟩ :=
    firstOversized_cases limit tokens (embedTexts (Json.getIn body inputKey))
  · have none : ¬ ∃ content ∈ embedTexts (Json.getIn body inputKey), limit < tokens content := by
      rintro ⟨content, member, large⟩
      have := small content member
      omega
    dsimp only
    rw [if_neg none, absent]
    show (∀ content ∈ embedTexts (Json.getIn (ensureInput body) inputKey),
      (tokens content : ℤ) ≤ limit) ↔ _
    rw [embedTexts_ensureInput, List.forall_mem_map]
    exact forall₂_congr fun content member => ensureEot_le_iff adds (small content member)
  · have some : ∃ content ∈ embedTexts (Json.getIn body inputKey), limit < tokens content :=
      ⟨content, by rw [split]; exact List.mem_append_right _ List.mem_cons_self, large⟩
    dsimp only
    rw [if_pos some, found]
    show Names limit tokens _ (Json.getIn body inputKey) ↔ _
    cases sent : Json.getIn body inputKey with
    | str whole =>
      rw [sent] at split
      have only : [whole] = before ++ content :: after := split
      cases before with
      | nil =>
        cases only
        exact iff_of_true ⟨large, rfl⟩ nofun
      | cons => simp at only
    | arr items =>
      rw [sent] at split
      refine (names_iff split large smaller).trans ⟨?_, fun first => first items rfl⟩
      rintro first _ ⟨⟩
      exact first
    | null | bool | int | float | obj =>
      rw [sent] at split
      have none : [] = before ++ content :: after := split
      simp at none

/-- A tokenizer that cuts after thirteen code points. -/
theorem keepsLimit_batch :
    (∀ content : Text, (content ++ qwen3Eot).length / 13 = content.length / 13 + 1) ∧
    (KeepsLimit 1 (fun content => content.length / 13) [(inputKey, .arr [.str (text "a text"), .null])]
        (embeddings 1 (fun content => (content.length / 13 : ℕ))
          [(inputKey, .arr [.str (text "a text"), .null])]) ↔
      Fits 1 (fun content => content.length / 13) (.arr [.str (text "a text"), .null])) := by
  have adds (content : Text) : (content ++ qwen3Eot).length / 13 = content.length / 13 + 1 := by
    rw [List.length_append, show qwen3Eot.length = 13 from rfl]
    omega
  exact ⟨adds, keepsLimit_iff (fun content => content.length / 13) adds 1
    [(inputKey, .arr [.str (text "a text"), .null])]⟩

/-- A text that is at the limit is forwarded with a token more. -/
theorem not_keepsLimit_at_limit : ¬ ∀ (tokens : Text → ℕ),
    (∀ content, tokens (content ++ qwen3Eot) = tokens content + 1) → ∀ (limit : ℤ) (items : List Text),
      KeepsLimit limit tokens [(inputKey, .arr (items.map Json.str))]
        (embeddings limit (fun content => tokens content) [(inputKey, .arr (items.map Json.str))]) := by
  intro claimed
  have kept := claimed (fun content => content.length / 13)
    (fun content => by
      rw [List.length_append, show qwen3Eot.length = 13 from rfl]
      omega) 1 [text "thirteen long"]
  have excess := kept (text "thirteen long<|endoftext|>") (List.mem_singleton.mpr rfl)
  exact absurd excess (by decide)

end EmbedAdmission

end LocalGpuCluster
