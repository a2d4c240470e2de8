/-
This file models how `router-app.py` strips an answer: the thinking block and the markers of
retrieved context, each removed by one regular expression. Python writes them as
`<think>.*?</think>` under `re.DOTALL` and as

  \s*[\[\(]\s*(?:CONTEXT|Context|context)\s+\d+
    (?:\s*,\s*(?:(?:CONTEXT|Context|context)\s+)?\d+)*\s*[\]\)]
-/

import LocalGpuCluster.Regex
import LocalGpuCluster.Text

namespace LocalGpuCluster

namespace AnswerStrip

/-! ### The patterns -/

/-- `THINK_RE`. -/
def thinkRe : Regex CodePoint :=
  .seq (.literal (text "<think>"))
    (.seq (.star false (.one fun _ => true)) (.literal (text "</think>")))

/-- `\s*`. -/
def spaces : Regex CodePoint := .star true (.one CodePoint.isSpace)

/-- `(?:CONTEXT|Context|context)\s+`. -/
def contextWord : Regex CodePoint :=
  .seq (.oneOf [.literal (text "CONTEXT"), .literal (text "Context"), .literal (text "context")])
    (.plus (.one CodePoint.isSpace))

/-- `\d+`. -/
def number : Regex CodePoint := .plus (.one CodePoint.isDecimal)

def isOpening (point : CodePoint) : Bool := point = 0x5B || point = 0x28
def isClosing (point : CodePoint) : Bool := point = 0x5D || point = 0x29

/-- `CONTEXT_MARKER_RE`. -/
def contextMarkerRe : Regex CodePoint :=
  .all [spaces, .one isOpening, spaces, contextWord, number,
    .star true (.all [spaces, .one fun point => point = 0x2C, spaces, .optional contextWord, number]),
    spaces, .one isClosing]

/-- What the router does to a text: `strip_thinking` and `STRIP_CONTEXT_MARKERS`. -/
structure Strip where
  thinking : Bool
  markers : Bool
  deriving DecidableEq, Repr

/-- `THINK_RE.sub("", content)` when thinking is stripped. -/
def Strip.withoutThinking (strip : Strip) (content : Text) : Text :=
  if strip.thinking then thinkRe.erase content else content

/-- Both substitutions, the thinking block first. -/
def Strip.apply (strip : Strip) (content : Text) : Text :=
  if strip.markers then contextMarkerRe.erase (strip.withoutThinking content)
  else strip.withoutThinking content

/-- The examples that the comment on `CONTEXT_MARKER_RE` lists. -/
example : ([("claim [CONTEXT 1].", "claim."), ("(Context 0, 1)", ""), ("(Context 0, Context 1)", ""),
    ("a [CONTEXT 1] [CONTEXT 9] b", "a b"), ("[CONTEXT]", "[CONTEXT]")].all fun (before, after) =>
      contextMarkerRe.erase (text before) = text after) = true := by
  decide

end AnswerStrip

end LocalGpuCluster
