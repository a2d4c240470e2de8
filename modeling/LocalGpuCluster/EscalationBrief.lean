/-
This file models what `escalation.py` makes of a request before it thinks of money: which model
names it handles, which text of the body is the brief, and what is wrong with a brief. Every
function here is total on what `json.loads` yields.
-/

import LocalGpuCluster.Json

namespace LocalGpuCluster

namespace Escalation

/-! ### Aliases -/

inductive Tier where
  | sonnet
  | opus
  deriving DecidableEq, Repr

/-- The keys of `ALIASES`. -/
inductive Alias where
  | ask
  | auto
  | hard
  deriving DecidableEq, Repr

namespace Alias

def all : List Alias := [.ask, .auto, .hard]

def name : Alias → Text
  | .ask => text "claude-ask"
  | .auto => text "claude-auto"
  | .hard => text "claude-hard"

def origin : Alias → Text
  | .ask => text "user"
  | .auto => text "model"
  | .hard => text "user"

def tier : Alias → Tier
  | .ask => .sonnet
  | .auto => .sonnet
  | .hard => .opus

def maxBrief : Alias → ℕ
  | .ask => 8192
  | .auto => 8192
  | .hard => 16384

/-- `model in ALIASES`. -/
def ofName (model : Text) : Option Alias := all.find? fun chosen => chosen.name = model

end Alias

def answerMaxTokens : ℕ := 128000

def reserveAnswerTokens : ℕ := 16384

/-- `handles`. -/
def handles : Json → Option Alias
  | .str model => Alias.ofName model
  | _ => none

/-! ### The brief -/

/-- `m.get("role") == "user"` of a message that is an object. -/
def isUser : Json → Bool
  | .obj entries =>
      match Json.getIn entries (text "role") with
      | .str role => role = text "user"
      | _ => false
  | _ => false

/-- The text of a text part of a content list. -/
def textPart : Json → Option Text
  | .obj entries =>
      match Json.getIn entries (text "type"), Json.getIn entries (text "text") with
      | .str kind, .str content => if kind = text "text" then some content else none
      | _, _ => none
  | _ => none

/-- The content of the message: a string, or its text parts joined by newlines. -/
def messageText : Json → Option Text
  | .obj entries =>
      match Json.getIn entries (text "content") with
      | .str content => some content
      | .arr parts => some (Text.join newline (parts.filterMap textPart))
      | _ => none
  | _ => none

/-- `brief_text`. -/
def briefText : Json → Option Text
  | .obj entries =>
      match Json.getIn entries (text "messages") with
      | .arr messages => (messages.reverse.find? isUser).bind messageText
      | _ => none
  | _ => none

/-- `estimate_tokens`: the bytes divided by 2.4, rounded up. -/
def estimateTokens (content : Text) : ℕ := (content.utf8Length * 5 + 11) / 12

/-! ### Sections -/

/-- `SECTIONS`. -/
def sections : List Text :=
  [text "Goal", text "Context", text "Reproduce", text "Exact error", text "Code",
    text "What was tried", text "Question"]

/-- `NEVER_NA`. -/
def neverNa : List Text := [text "Goal", text "Exact error", text "Question"]

def heading (name : Text) : Text := text "## " ++ name

/-- The line opens or closes a fence. -/
def isFence (line : Text) : Bool := (line.strip CodePoint.isSpace).startsWith (text "```")

/-- The variables of the loop of `parse_sections`. -/
structure Parse where
  bodies : List (Text × List Text)
  current : Option Text
  inFence : Bool

/-- `out.setdefault(name, [])`. -/
def openBody (bodies : List (Text × List Text)) (name : Text) : List (Text × List Text) :=
  if (bodies.lookup name).isSome then bodies else bodies ++ [(name, [])]

/-- `out[name].append(line)`. -/
def appendLine (bodies : List (Text × List Text)) (name line : Text) : List (Text × List Text) :=
  bodies.map fun entry => if entry.1 = name then (entry.1, entry.2 ++ [line]) else entry

/-- One line of `parse_sections`. -/
def parseLine (state : Parse) (line : Text) : Parse :=
  if !state.inFence && (sections.map heading).contains line.rstrip then
    let name := (line.strip CodePoint.isSpace).drop 3
    { state with bodies := openBody state.bodies name, current := some name }
  else
    { bodies :=
        match state.current with
        | some name => appendLine state.bodies name line
        | none => state.bodies
      current := state.current
      inFence := state.inFence != isFence line }

/-- `parse_sections`. -/
def parseSections (content : Text) : List (Text × Text) :=
  let parsed := content.splitLines.foldl parseLine ⟨[], none, false⟩
  parsed.bodies.map fun entry => (entry.1, (Text.join newline entry.2).strip CodePoint.isSpace)

/-- `_NA_EDGE`. -/
def naEdge : Text := text " \t\r\n*_`-()>"

/-- `_is_na`: `n/a` at the end of the text or before a colon. -/
def isNa (content : Text) : Bool :=
  match content.strip naEdge.contains with
  | first :: slash :: second :: rest =>
      first.asciiLower = 0x6E && slash = 0x2F && second.asciiLower = 0x61 &&
        (rest = [] || rest = newline || rest.head? = some 0x3A)
  | _ => false

/-- `_NEAR_EDGE`. -/
def nearEdge : Text := text " \t#*_:"

/-- The loop of `_near_miss`. -/
def nearMissIn (name : Text) : Bool → List Text → Option Text
  | _, [] => none
  | inFence, line :: rest =>
      if isFence line then nearMissIn name (!inFence) rest
      else if !inFence && line.rstrip ≠ heading name &&
          (line.strip nearEdge.contains).lower = name.lower then
        some (line.strip CodePoint.isSpace)
      else nearMissIn name inFence rest

/-- `_near_miss`. -/
def nearMiss (content name : Text) : Option Text := nearMissIn name false content.splitLines

/-- The hint of `_brief_guidance` for one missing section. -/
def hint (content name : Text) : Text :=
  match nearMiss content name with
  | some (point :: near) =>
      text "- found '" ++ (point :: near) ++ text "' -- write the heading exactly as '## " ++ name ++
        text "'"
  | _ =>
      if neverNa.contains name then
        text "- '## " ++ name ++ text "' is missing, empty or n/a; it needs real content"
      else
        text "- '## " ++ name ++
          text "' is missing or empty (write 'n/a: <why>' if it truly does not apply)"

/-- `_brief_guidance`. -/
def briefGuidance (content : Text) (missing : List Text) : Text :=
  Text.join newline (missing.map (hint content)) ++
    text ("\nA brief has these headings, each alone on its own line and followed by content " ++
      "(Goal, Exact error and Question may not be n/a; the others may say n/a: <why>):\n") ++
    Text.join newline (sections.map heading)

/-- A refusal: its status, its code and its message. -/
structure Refusal where
  status : ℤ
  code : Text
  message : Text
  deriving DecidableEq

/-- The sections of the brief that have no content, or `n/a` where that is not enough. -/
def missingSections (content : Text) : List Text :=
  let parsed := parseSections content
  sections.filter fun name =>
    let body := (parsed.lookup name).getD []
    body = [] || neverNa.contains name && isNa body

/-- `validate_brief`. -/
def validateBrief (content : Text) (chosen : Alias) : Option Refusal :=
  match missingSections content with
  | [name] =>
      some ⟨422, text "brief_section", text "brief: missing or empty section " ++ name ++ newline ++
        briefGuidance content [name]⟩
  | first :: second :: rest =>
      some ⟨422, text "brief_section", text "brief: missing or empty sections " ++
        Text.join (text ", ") (first :: second :: rest) ++ newline ++
        briefGuidance content (first :: second :: rest)⟩
  | [] =>
      let tokens := estimateTokens content
      if chosen.maxBrief < tokens then
        some ⟨413, text "brief_too_large", text "brief: about " ++
          decimal ((tokens + 1023) / 1024 : ℕ) ++ text "k tokens, over the " ++
          decimal (chosen.maxBrief / 1024 : ℕ) ++ text "k limit -- trim it"⟩
      else none

/-- A brief is refused with a status that no client resends, and for the brief itself. -/
theorem validateBrief_status {content : Text} {chosen : Alias} {refusal : Refusal}
    (refused : validateBrief content chosen = some refusal) :
    refusal.status = 422 ∧ refusal.code = text "brief_section" ∨
      refusal.status = 413 ∧ refusal.code = text "brief_too_large" := by
  unfold validateBrief at refused
  split at refused
  · cases refused
    exact Or.inl ⟨rfl, rfl⟩
  · cases refused
    exact Or.inl ⟨rfl, rfl⟩
  · dsimp only at refused
    split at refused <;> cases refused
    exact Or.inr ⟨rfl, rfl⟩

/-- A brief with one line in every section. -/
def plainBrief : Text :=
  text ("## Goal\nx\n## Context\nx\n## Reproduce\nx\n## Exact error\nx\n" ++
    "## Code\nx\n## What was tried\nx\n## Question\nx")

/-- A body that asks `claude-ask` with that brief. -/
def plainBody : Json :=
  .obj [(text "model", .str (text "claude-ask")),
    (text "messages", .arr [.obj [(text "role", .str (text "user")),
      (text "content", .str plainBrief)]])]

end Escalation

end LocalGpuCluster
