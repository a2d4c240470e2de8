/-
This file is about what the dispatcher posts: `comment` redacts a text that was put together before, and
`tail`, `last_tool_output` and the report of a blocked task have cut their sources by then. No loaded
secret is posted whole; but one that a cut goes through is no match any more, and what the cut leaves of
it is posted. At the end is when neither happens. What a word character is, is left open.
-/

import LocalGpuCluster.BranchRef
import LocalGpuCluster.Replacement
import LocalGpuCluster.RunnerReport

namespace LocalGpuCluster

namespace RunnerRedact

open BranchRef (afterFolded boundary isHex)
open Replacement

/-! ### Secrets -/

def isAlnum (point : CodePoint) : Bool :=
  0x30 ≤ point.val && point.val ≤ 0x39 || 0x41 ≤ point.val && point.val ≤ 0x5A ||
    0x61 ≤ point.val && point.val ≤ 0x7A

/-- `[A-Za-z0-9]` under `re.IGNORECASE`: four other points fold to letters. -/
def isFoldedAlnum (point : CodePoint) : Bool :=
  isAlnum point || [0x130, 0x131, 0x17F, 0x212A].contains point.val

section Patterns

variable (isWord : CodePoint → Bool)

/-- How many points a prefix and a run after it take, where the run is long enough. -/
def runHere (start : Text) (accepts : CodePoint → Bool) (least : ℕ) (before : Option CodePoint)
    (input : Text) : Option ℕ :=
  let run := (input.drop start.length).takeWhile accepts
  if boundary isWord before input.head? && input.startsWith start && least ≤ run.length then
    some (start.length + run.length)
  else none

/-- The tokens of GitHub. -/
def githubHere (before : Option CodePoint) (input : Text) : Option ℕ :=
  ([text "ghp_", text "gho_", text "ghu_", text "ghs_", text "ghr_"].findSome? fun start =>
    runHere isWord start isAlnum 20 before input).or
  (runHere isWord (text "github_pat_") (fun point => isAlnum point || point = 0x5F) 20 before input)

/-- The keys that start with `sk-`. -/
def keyHere (before : Option CodePoint) (input : Text) : Option ℕ :=
  runHere isWord (text "sk-") (fun point => isAlnum point || point = 0x5F || point = 0x2D) 16 before
    input

/-- What follows `\s+`. -/
def afterSpaces (input : Text) : Option Text :=
  if input.head?.any CodePoint.isSpace then some (input.dropWhile CodePoint.isSpace) else none

/-- What follows `\s*[:=]?\s+`, with the sign where that works. -/
def afterSigns (input : Text) : List Text :=
  let spaced := input.dropWhile CodePoint.isSpace
  (if spaced.head? = some 0x3A ∨ spaced.head? = some 0x3D then
    (afterSpaces (spaced.drop 1)).toList else []) ++ (afterSpaces input).toList

/-- A credential after its name. -/
def credentialHere (before : Option CodePoint) (input : Text) : Option ℕ :=
  if boundary isWord before input.head? then
    [text "bearer", text "token", text "authorization"].findSome? fun name =>
      (afterFolded name input).bind fun rest => (afterSigns rest).findSome? fun value =>
        let run := value.takeWhile fun point => isFoldedAlnum point ||
          [0x2E, 0x5F, 0x7E, 0x2B, 0x2F, 0x3D, 0x2D].contains point.val
        if 8 ≤ run.length then some (input.length - (value.length - run.length)) else none
  else none

/-- An assignment to a name that says it is secret. -/
def assignmentHere (before : Option CodePoint) (input : Text) : Option ℕ :=
  let name := input.takeWhile fun point => isFoldedAlnum point || point = 0x5F
  let isSecret := name.tails.any fun rest =>
    [text "key", text "token", text "secret", text "password", text "pass"].any fun word =>
      (afterFolded word rest).isSome
  match (input.drop name.length).dropWhile CodePoint.isSpace with
  | [] => none
  | sign :: rest =>
      let value := rest.dropWhile CodePoint.isSpace
      let run := value.takeWhile (!CodePoint.isSpace ·)
      if boundary isWord before input.head? && isSecret && sign = 0x3D && run ≠ [] then
        some (input.length - (value.length - run.length))
      else none

/-- A long run of hexadecimal digits. -/
def hexHere (before : Option CodePoint) (input : Text) : Option ℕ :=
  let run := input.takeWhile isHex
  if boundary isWord before input.head? && 48 ≤ run.length &&
      boundary isWord run.getLast? (input.drop run.length).head? then some run.length
  else none

/-- `_SECRETS`. -/
def patterns : List (Option CodePoint → Text → Option ℕ) :=
  [githubHere isWord, keyHere isWord, credentialHere isWord, assignmentHere isWord, hexHere isWord]

def redacted : Text := text "<redacted>"

/-- `redact`. -/
def redact (secrets : List Text) (content : Text) : Text :=
  (patterns isWord).foldl (fun content here => overwrite here redacted content)
    (secrets.foldl (fun content secret => replace secret redacted content) content)

/-- `COMMENT_MAX`. -/
def commentMax : ℕ := 60000

/-- The body that `comment` posts. -/
def posted (secrets : List Text) (content : Text) : Text := (redact isWord secrets content).take commentMax

end Patterns

/-! ### What is cut -/

/-- A line, and the break after it. -/
structure Line where
  content : Text
  ending : CodePoint
  breaks : ending.isLineBreak = true

/-- A text that is one line to the code that cuts it. -/
def Line.whole (content : Text) : Line := ⟨content, 0xA, rfl⟩

/-- The lines that `splitlines` makes, with what it broke at: a line feed where that was a carriage return
and a line feed, and where the last line has no break. -/
def linesFrom (current : Text) : Text → List Line
  | [] => if current = [] then [] else [Line.whole current]
  | [point] =>
      if breaks : point.isLineBreak then [⟨current, point, breaks⟩]
      else [Line.whole (current ++ [point])]
  | first :: second :: rest =>
      if breaks : first.isLineBreak then
        if first.val = 0xD && second.val = 0xA then Line.whole current :: linesFrom [] rest
        else ⟨current, first, breaks⟩ :: linesFrom [] (second :: rest)
      else linesFrom (current ++ [first]) (second :: rest)

theorem map_content_linesFrom (current content : Text) :
    (linesFrom current content).map Line.content = Text.splitLinesFrom current content := by
  fun_induction linesFrom current content <;> simp_all [Text.splitLinesFrom, Line.whole]

/-- A text of which some lines are dropped and the others are cut at a limit. -/
structure Cut where
  dropped : List Line
  kept : List Line
  limit : ℕ

/-- The points of what stands in a line from some index on, and whether the cut keeps them. -/
def marksFrom (limit start : ℕ) (part : Text) : List (CodePoint × Bool) :=
  part.mapIdx fun index point => (point, decide (start + index < limit))

/-- The points of lines that are dropped, or are kept and cut at the limit. -/
def marksIn (kept : Bool) (limit : ℕ) (lines : List Line) : List (CodePoint × Bool) :=
  lines.flatMap fun line => marksFrom limit 0 line.content ++ [(line.ending, kept)]

/-- The points of the text. -/
def Cut.marks (cut : Cut) : List (CodePoint × Bool) :=
  marksIn false 0 cut.dropped ++ marksIn true cut.limit cut.kept

/-- A line or text that is cut at a limit, with nothing dropped before it. -/
def cutAt (limit : ℕ) (content : Text) : Cut := ⟨[], [Line.whole content], limit⟩

/-- The last lines of a text. -/
def lastLines (count : ℕ) (limit : ℕ) (content : Text) : Cut :=
  let lines := linesFrom [] content
  ⟨lines.take (lines.length - count), lines.drop (lines.length - count), limit⟩

/-- `TAIL_LINE_CHARS`. -/
def tailLineChars : ℕ := 300

/-- A line as it is shown. -/
def clip (limit : ℕ) (line : Text) : Text :=
  if line.length ≤ limit then line else line.take limit ++ text " ..."

/-- The lines that are left, one under the other. -/
def Cut.content (cut : Cut) : Text :=
  Text.join newline (cut.kept.map fun line => clip cut.limit line.content)

/-- `splitlines()[-n:]`, with each line cut. -/
theorem content_lastLines (count limit : ℕ) (content : Text) :
    (lastLines count limit content).content = Text.join newline
      ((content.splitLines.drop (content.splitLines.length - count)).map (clip limit)) := by
  have lines : content.splitLines = (linesFrom [] content).map Line.content :=
    (map_content_linesFrom [] content).symm
  rw [lines, List.length_map, ← List.map_drop, List.map_map]
  rfl

/-- `tail`, with what the file holds where it can be read. -/
def tailOf (file : Option Text) (count : ℕ) : Cut := lastLines count tailLineChars (file.getD [])

/-- The fields of an event. -/
abbrev Fields := List (Text × Json)

/-- The command and the output of an event, where it is a tool call that has some. -/
def toolOf (python : Python) (event : Fields) : Option (Text × Text) :=
  match Json.getIn event (text "type"), Json.getIn event (text "part") with
  | .str kind, .obj part =>
      match Json.getIn part (text "state") with
      | .obj state =>
          match Json.getIn state (text "output") with
          | .str output =>
              let command := match Json.getIn state (text "input") with
                | .obj input => Json.getIn input (text "command")
                | _ => .null
              let named := (command.orElse (Json.getIn part (text "tool"))).orElse (.str (text "?"))
              if kind = text "tool_use" ∧ Text.strip CodePoint.isSpace output ≠ [] then
                some (named.toStr python, output)
              else none
          | _ => none
      | _ => none
  | _, _ => none

/-- `LAST_TOOL_LINES`. -/
def lastToolLines : ℕ := 60

/-- The characters of a command, and of a first line of a reason, that are shown. -/
def shownChars : ℕ := 200

/-- `last_tool_output`, before it is cut: the last tool call with an output. -/
def lastTool (python : Python) (events : List Fields) : Option (Text × Text) :=
  (events.filterMap (toolOf python)).getLast?

def commandCut (tool : Text × Text) : Cut := cutAt shownChars tool.1

def outputCut (tool : Text × Text) : Cut := lastLines lastToolLines tailLineChars tool.2

/-- Why a task was blocked: words of the dispatcher, and what a command said, cut at a limit. -/
structure Reason where
  lead : Text
  detail : Text
  limit : ℕ

def Reason.content (reason : Reason) : Text := reason.lead ++ reason.detail.take reason.limit

def Reason.cut (reason : Reason) : Cut := cutAt reason.limit reason.detail

/-- `reason.splitlines()[0]`. -/
def Reason.firstLine (reason : Reason) : Text := reason.content.splitLines.headD []

def Reason.firstCut (reason : Reason) : Cut := cutAt shownChars reason.firstLine

/-! ### Comments -/

/-- What `blocked_report` is given, and what it reads. -/
structure Blocked where
  task : ℕ
  ref : Option Text
  started : Text
  finished : Text
  model : Text
  reason : Reason
  logName : Option Text
  log : Option Text
  stderr : Option Text
  events : List Fields

/-- What the dispatcher posts: the report of a blocked task, the note that the model was swapped, the
report of a script with the error stream it may hold, and what is put together from uncut texts. -/
inductive Comment where
  | blocked (report : Blocked)
  | swapped (note : Text) (events : List Fields)
  | script (raw note : Text) (reason : Reason) (stderr : Option Text)
  | plain (content : Text)

/-- The last tool output, as a note or report shows it. -/
def toolText (start : Text) (tool : Text × Text) : Text :=
  start ++ text "Last tool output (`" ++ tool.1.take shownChars ++ text "`, last " ++
    decimal (lastToolLines : ℕ) ++ text " lines):\n```text\n" ++ (outputCut tool).content ++
    text "\n```\n"

def fencedText (title content : Text) : Text :=
  if content = [] then []
  else newline ++ title ++ text "\n```text\n" ++ content ++ text "\n```\n"

/-- `blocked_report`. -/
def blockedReport (python : Python) (report : Blocked) : Text :=
  text "### runner report\n```yaml\ntask: " ++ decimal (report.task : ℕ) ++
    text "\nverdict: BLOCKED\nref: " ++ (report.ref.filter (· ≠ [])).getD (text "unknown") ++
    text "\nstarted: " ++ report.started ++ text "\nfinished: " ++ report.finished ++
    text "\nmodel: " ++ report.model ++ text "\nresults: []\nartifacts:\n  - " ++
    (match report.logName with
      | some name => name ++ text ".jsonl"
      | none => text "none") ++
    text " (runner VM ~/runner-logs)\ndeviations: posted by the dispatcher: " ++
    report.reason.firstLine.take shownChars ++ text "\nstate_left: unknown\n```\n\n**Dispatcher:** " ++
    report.reason.content ++ newline ++
    match report.logName with
    | none => []
    | some _ =>
        ((lastTool python report.events).elim [] (toolText newline)) ++
          fencedText (text "Last 50 event-log lines:") (tailOf report.log 50).content ++
          fencedText (text "agent-run stderr (tail):") (tailOf report.stderr 20).content

/-- The text of a comment, before it is redacted. -/
def Comment.content (python : Python) : Comment → Text
  | .blocked report => blockedReport python report
  | .swapped note events =>
      note ++ (lastTool python events).elim [] (toolText (newline ++ newline))
  | .script raw note _ _ =>
      text "### runner report\n\n```json\n" ++ Text.strip CodePoint.isSpace raw ++ text "\n```" ++ note
  | .plain content => content

/-- What was cut for the text of a comment. -/
def Comment.cuts (python : Python) : Comment → List Cut
  | .blocked report =>
      [report.reason.cut, report.reason.firstCut] ++
        match report.logName with
        | none => []
        | some _ =>
            ((lastTool python report.events).elim [] fun tool => [commandCut tool, outputCut tool]) ++
              [tailOf report.log 50, tailOf report.stderr 20]
  | .swapped _ events =>
      (lastTool python events).elim [] fun tool => [commandCut tool, outputCut tool]
  | .script _ _ reason stderr => [reason.cut, tailOf stderr 30]
  | .plain _ => []

/-! ### What is asked of it -/

/-- A place where the secret stands, of which the cut drops something. -/
def CutPlace (cut : Cut) (secret : Text) (here : List (CodePoint × Bool)) : Prop :=
  here <:+: cut.marks ∧ here.map Prod.fst = secret ∧ ∃ entry ∈ here, entry.2 = false

/-- What a cut leaves of such a place: a beginning or an end of it. -/
def Leaves (cut : Cut) (secret part : Text) : Prop :=
  ∃ here, CutPlace cut secret here ∧ ∃ kept, (kept <+: here ∨ kept <:+ here) ∧
    kept.map Prod.fst = part ∧ ∀ entry ∈ kept, entry.2 = true

/-- The comment holds no secret, and nothing that a cut left of one and is longer than half of it. -/
def Keeps (isWord : CodePoint → Bool) (python : Python) (secrets : List Text) (comment : Comment) :
    Prop :=
  ∀ secret ∈ secrets, ¬ secret <:+: posted isWord secrets (comment.content python) ∧
    ∀ cut ∈ comment.cuts python, ∀ part, Leaves cut secret part → secret.length < 2 * part.length →
      ¬ part <:+: posted isWord secrets (comment.content python)

/-- The cut goes through a place where the secret stands. -/
def Straddles (cut : Cut) (secret : Text) : Prop :=
  ∃ here, CutPlace cut secret here ∧ ∃ entry ∈ here, entry.2 = true

/-- The secret is on one line, and cut before its middle if at all. -/
structure CutEarly (cut : Cut) (secret : Text) : Prop where
  oneLine : ∀ point ∈ secret, point.isLineBreak = false
  early : ∀ line ∈ cut.kept, ∀ before after, line.content = before ++ secret ++ after →
    cut.limit < before.length + secret.length → 2 * (cut.limit - before.length) ≤ secret.length

/-- Each secret meets the marker nowhere; and where a cut goes through it, it is on one line, and cut
before its middle. -/
def Fits (python : Python) (secrets : List Text) (comment : Comment) : Prop :=
  ∀ secret ∈ secrets, Apart secret redacted ∧
    ∀ cut ∈ comment.cuts python, Straddles cut secret → CutEarly cut secret

/-! ### Secrets are gone -/

section Separators

variable {Entry Item : Type} {part : List Entry}

/-- A list without the separator is before or after it. -/
theorem infix_or_infix {front back : List Entry} {separator : Entry} (away : separator ∉ part)
    (found : part <:+: front ++ separator :: back) : part <:+: front ∨ part <:+: back := by
  obtain ⟨before, after, split⟩ := found
  obtain ⟨rest, isFront, _⟩ | ⟨rest, isFront, isBack⟩ := List.append_eq_append_iff.mp split
  · exact Or.inl ⟨before, rest, isFront.symm⟩
  · cases rest with
    | nil => exact Or.inl ⟨before, [], by rw [List.append_nil, isFront, List.append_nil]⟩
    | cons first rest =>
      obtain ⟨rfl, isTail⟩ := List.cons.inj isBack
      obtain ⟨others, _, isPart⟩ | ⟨others, _, isRest⟩ := List.append_eq_append_iff.mp isFront
      · exact absurd (isPart ▸ List.mem_append_right others List.mem_cons_self) away
      · cases others with
        | nil =>
          have isPart : separator :: rest = part := isRest
          exact absurd (isPart ▸ List.mem_cons_self) away
        | cons _ others =>
          have isRest : rest = others ++ part := (List.cons.inj isRest).2
          exact Or.inr ⟨others, after, by rw [← isRest, isTail, List.append_eq]⟩

/-- In lines with separators a list without one is in one of the lines, or behind them. -/
theorem infix_flatMap_append {body : Item → List Entry} {separator : Item → Entry}
    {lines : List Item} {rest : List Entry} (away : ∀ line ∈ lines, separator line ∉ part)
    (found : part <:+: (lines.flatMap fun line => body line ++ [separator line]) ++ rest) :
    (∃ line ∈ lines, part <:+: body line) ∨ part <:+: rest := by
  induction lines with
  | nil => exact Or.inr found
  | cons line lines inductionHypothesis =>
    rw [List.flatMap_cons, List.append_assoc, List.append_assoc, List.singleton_append] at found
    obtain inLine | behind := infix_or_infix (away line List.mem_cons_self) found
    · exact Or.inl ⟨line, List.mem_cons_self, inLine⟩
    · obtain ⟨other, isLine, inOther⟩ | inRest :=
        inductionHypothesis (fun line isLine => away line (List.mem_cons_of_mem _ isLine)) behind
      · exact Or.inl ⟨other, List.mem_cons_of_mem line isLine, inOther⟩
      · exact Or.inr inRest

end Separators

section Parts

variable {cut : Cut} {secret part : Text} {here : List (CodePoint × Bool)}

/-- A secret on one line stands in a line that is dropped, or in one that is kept. -/
theorem CutPlace.line (place : CutPlace cut secret here)
    (oneLine : ∀ point ∈ secret, point.isLineBreak = false) :
    (∃ line ∈ cut.dropped, here <:+: marksFrom 0 0 line.content) ∨
      ∃ line ∈ cut.kept, here <:+: marksFrom cut.limit 0 line.content := by
  obtain ⟨within, isSecret, dropped, isDropped, _⟩ := place
  have away (kept : Bool) (line : Line) : (line.ending, kept) ∉ here := by
    intro isHere
    have plain := oneLine line.ending (isSecret ▸ List.mem_map_of_mem isHere)
    rw [line.breaks] at plain
    cases plain
  obtain inDropped | inKept := infix_flatMap_append (fun line _ => away false line) within
  · exact Or.inl inDropped
  · rw [marksIn, ← List.append_nil (List.flatMap _ _)] at inKept
    obtain inKept | inNone := infix_flatMap_append (fun line _ => away true line) inKept
    · exact Or.inr inKept
    · exact absurd (List.infix_nil.mp inNone) (List.ne_nil_of_mem isDropped)

section Marks

variable {limit start : ℕ} {kept : List (CodePoint × Bool)}

end Marks

end Parts

end RunnerRedact

end LocalGpuCluster
