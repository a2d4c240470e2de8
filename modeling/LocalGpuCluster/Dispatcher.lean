/-
This file models `agent_runner_dispatch.py`, from the queue of ready issues on. GitHub is a set of
labels and a list of comments for each issue. What the calls answer is given by an environment: any
call but a label edit may raise, and a label edit may fail after GitHub applied a part of it. What is
read out of the text of an issue, and what becomes of the checkout and of the run, are answers too.
-/

import LocalGpuCluster.Text
import Mathlib.Data.List.AList

namespace LocalGpuCluster

namespace Dispatcher

/-! ### Issues and labels -/

structure IssueId where
  repo : Text
  number : ℕ
  deriving DecidableEq, Repr

/-- A row of `gh issue list`. -/
structure Issue where
  id : IssueId
  body : Text
  labels : List Text
  deriving DecidableEq, Repr

def labelReady : Text := text "runner:ready"
def labelRunning : Text := text "runner:running"
def labelDone : Text := text "runner:done"
def labelBlocked : Text := text "runner:blocked"
def labelClaude : Text := text "needs-claude"
def tierA : Text := text "tier:a"
def tierB : Text := text "tier:b"
def tierC : Text := text "tier:c"
def labelHalt : Text := text "runner:halt"
def labelKindScript : Text := text "kind:script"

def tiers : List Text := [tierA, tierB, tierC]

/-- The comments that the dispatcher posts, and those of others. -/
inductive Comment where
  | refusedTier
  | halted
  | claimed
  | refusedScript
  | requeued
  | report
  | other
  deriving DecidableEq, Repr

/-- The label edits that the dispatcher makes. -/
inductive Edit where
  | refuseTier
  | claim
  | refuseScript
  | requeue
  | finish
  deriving DecidableEq, Repr

/-- The calls of `gh` that are no label edits. -/
inductive Call where
  | listHalted (repo : Text)
  | viewComments (id : IssueId)
  | viewLabels (id : IssueId) (edit : Edit) (attempt : ℕ)
  | comment (id : IssueId) (comment : Comment)
  deriving DecidableEq, Repr

/-- An edit that fails may have been applied in part. -/
inductive EditAnswer where
  | done
  | failed (applied : Text → Bool)

/-! ### What the runs answer -/

inductive Verdict where
  | pass
  | fail
  | indeterminate
  | blocked
  deriving DecidableEq, Repr

/-- The last report block that the agent printed. The verdict may be none of the four. -/
structure Report where
  verdict : Option Verdict
  deviations : Text

/-- A well formed `report.json`. -/
structure ScriptReport where
  verdict : Verdict
  deviations : Bool

/-- A step that may raise. -/
inductive Answer (Result : Type) where
  | raised
  | returned (result : Result)

/-- What the dispatcher meets. -/
structure Env where
  /-- A call of `gh` raises. -/
  raises : Call → Bool
  /-- The answer to each try of a label edit. -/
  edit : IssueId → Edit → ℕ → EditAnswer
  /-- `runner_ready`. -/
  ready : Text → Bool
  scriptMode : Bool
  /-- `parse_script` finds a path and arguments. -/
  scriptNamed : Issue → Bool
  /-- `parse_ref` finds one branch. -/
  refNamed : Issue → Bool
  /-- `prepare_checkout` or `prepare_exact_checkout`, without an error. -/
  checkout : Issue → Answer Bool
  /-- `script_file_ok`. -/
  scriptFileOk : Issue → Bool
  /-- `run_agent` or `run_script`: the exit code, or none where the time ran out. -/
  run : Issue → Answer (Option ℤ)
  /-- `find_report` on the event log. -/
  report : Issue → Answer (Option Report)
  /-- `model_swapped`. -/
  swapped : Issue → Answer Bool
  /-- `load_script_report`. -/
  scriptReport : Issue → Answer (Option ScriptReport)

/-- GitHub, with the issues that this run has claimed and those it ran something for. -/
structure World where
  openIssues : List IssueId
  labels : IssueId → List Text
  comments : IssueId → List Comment
  claims : List IssueId
  runs : List IssueId

/-- What the dispatcher has done stays done when it raises. -/
abbrev Dispatch := ExceptT Unit (StateM World)

def Answer.get {Result : Type} : Answer Result → Dispatch Result
  | .raised => throw ()
  | .returned result => pure result

/-! ### Comments and labels -/

/-- A call of `gh` that is no label edit. -/
def gh (env : Env) (call : Call) : Dispatch Unit := if env.raises call then throw () else pure ()

def World.post (world : World) (id : IssueId) (posted : Comment) : World :=
  { world with comments := Function.update world.comments id (world.comments id ++ [posted]) }

/-- `comment`. -/
def comment (env : Env) (id : IssueId) (posted : Comment) : Dispatch Unit := do
  gh env (.comment id posted)
  modify fun world => world.post id posted

/-- What `gh issue edit` makes of the labels. -/
def editLabels (remove add labels : List Text) : List Text :=
  labels.filter (· ∉ remove) ++ add.filter (· ∉ labels.filter (· ∉ remove))

def World.edit (world : World) (id : IssueId) (remove add : List Text) : World :=
  { world with labels := Function.update world.labels id (editLabels remove add (world.labels id)) }

/-- `RELABEL_TRIES`. -/
def relabelTries : ℕ := 4

/-- The loop of `relabel`, with the tries that are left after this one. A try that fails is followed by
a look at the labels, which may fail too. -/
def relabelFrom (env : Env) (id : IssueId) (edit : Edit) : ℕ → List Text → List Text → Dispatch Unit
  | left, remove, add => do
    let attempt := relabelTries - left
    match env.edit id edit attempt with
    | .done => modify fun world => world.edit id remove add
    | .failed applied =>
        modify fun world => world.edit id (remove.filter applied) (add.filter applied)
        match left with
        | 0 => throw ()
        | left + 1 =>
            if env.raises (.viewLabels id edit attempt) then
              relabelFrom env id edit left remove add
            else
              let labels := (← get).labels id
              let missing := add.filter (· ∉ labels)
              let kept := remove.filter (· ∈ labels)
              if kept.isEmpty && missing.isEmpty then pure ()
              else relabelFrom env id edit left kept missing

/-- `relabel`. -/
def relabel (env : Env) (id : IssueId) (edit : Edit) (remove add : List Text) : Dispatch Unit :=
  relabelFrom env id edit (relabelTries - 1) remove add

/-! ### The pick -/

/-- The tier labels of an issue. -/
def Issue.tiers (issue : Issue) : List Text := issue.labels.filter (· ∈ Dispatcher.tiers)

/-- `tier_of`. -/
def tierOf (issue : Issue) : Option Text :=
  match issue.tiers with
  | [tier] => some tier
  | _ => none

/-- `refuse_tier`. -/
def refuseTier (env : Env) (issue : Issue) : Dispatch Unit := do
  comment env issue.id .refusedTier
  relabel env issue.id .refuseTier [labelReady] [labelBlocked]

/-- An open issue of the repository has the halt label. -/
def World.halted (world : World) (repo : Text) : Bool :=
  world.openIssues.any fun id => id.repo = repo && (world.labels id).contains labelHalt

/-- `halted`. -/
def halted (env : Env) (repo : Text) : Dispatch Bool := do
  gh env (.listHalted repo)
  return (← get).halted repo

/-- `note_halted`. The comment is not repeated. -/
def noteHalted (env : Env) (issue : Issue) : Dispatch Unit := do
  gh env (.viewComments issue.id)
  if ((← get).comments issue.id).getLast? ≠ some .halted then comment env issue.id .halted

/-- Answers that were asked for once, by repository. -/
abbrev Memo := AList fun _ : Text => Bool

/-- A memoised answer, and the memo after it. -/
def Memo.ask (memo : Memo) (repo : Text) (fresh : Dispatch Bool) : Dispatch (Bool × Memo) :=
  match memo.lookup repo with
  | some answer => pure (answer, memo)
  | none => do
      let answer ← fresh
      pure (answer, memo.insert repo answer)

/-- The loop of `pick`. -/
def pickFrom (env : Env) : Memo → Memo → List Issue → Dispatch (Option Issue)
  | _, _, [] => pure none
  | halt, ok, issue :: rest => do
      let tier := tierOf issue
      if tier = none ∨ tier = some tierC then
        refuseTier env issue
        pickFrom env halt ok rest
      else
        let (held, halt) ← if tier = some tierB then halt.ask issue.id.repo (halted env issue.id.repo)
          else pure (false, halt)
        if held then
          noteHalted env issue
          pickFrom env halt ok rest
        else
          let (isReady, ok) ← ok.ask issue.id.repo (pure (env.ready issue.id.repo))
          if isReady then pure (some issue) else pickFrom env halt ok rest

/-- `pick`. -/
def pick (env : Env) (queue : List Issue) : Dispatch (Option Issue) := pickFrom env ∅ ∅ queue

/-! ### Agent tasks -/

/-- What surrounds the answer in `deviations`. -/
def isQuote (point : CodePoint) : Bool := point = 0x27 || point = 0x22

/-- `needs_claude`. -/
def needsClaude (verdict : Verdict) (deviations : Text) (exitCode : ℤ) : Bool :=
  let clean := [text "none", text "no", text "[]"].contains
    ((deviations.strip CodePoint.isSpace).strip isQuote).lower
  !(decide (verdict = .pass) && clean && decide (exitCode = 0))

/-- The labels that a verdict gives. -/
def finalLabels (verdict : Verdict) (claude : Bool) : List Text :=
  (if verdict = .blocked then labelBlocked else labelDone) :: if claude then [labelClaude] else []

/-- `finish`, with the verdict of its report. -/
def finish (env : Env) (id : IssueId) (verdict : Verdict) (claude : Bool) : Dispatch Unit := do
  comment env id .report
  relabel env id .finish [labelRunning] (finalLabels verdict claude)

/-- `finish` with a report of the dispatcher itself. -/
def finishBlocked (env : Env) (id : IssueId) : Dispatch Unit := finish env id .blocked true

/-- The task goes back to the queue. -/
def requeue (env : Env) (id : IssueId) : Dispatch Unit := do
  relabel env id .requeue [labelRunning] [labelReady]
  comment env id .requeued

/-- The claim of an issue. -/
def claim (env : Env) (id : IssueId) : Dispatch Unit := do
  relabel env id .claim [labelReady] [labelRunning]
  modify fun world => { world with claims := world.claims ++ [id] }
  comment env id .claimed

/-- `run_agent` and `run_script`. -/
def runTask (env : Env) (issue : Issue) : Dispatch (Option ℤ) := do
  modify fun world => { world with runs := world.runs ++ [issue.id] }
  (env.run issue).get

def exitLaneClosed : ℤ := 75
def exitNotReady : ℤ := 76

/-- The end of `dispatch`, where the task is through. -/
def conclude (env : Env) (id : IssueId) (code : Option ℤ) (report : Option Report) : Dispatch Unit :=
  match code, report, report.bind Report.verdict with
  | some code, some report, some verdict =>
      finish env id verdict (needsClaude verdict report.deviations code)
  | _, _, _ => finishBlocked env id

/-- `dispatch`, after the claim. -/
def agentTask (env : Env) (issue : Issue) : Dispatch Unit := do
  if !env.refNamed issue then finishBlocked env issue.id
  else if !(← (env.checkout issue).get) then finishBlocked env issue.id
  else
    let code ← runTask env issue
    if code = some exitLaneClosed ∨ code = some exitNotReady then requeue env issue.id
    else
      let report ← (env.report issue).get
      if code.isSome && (report.bind Report.verdict).isNone then
        if ← (env.swapped issue).get then requeue env issue.id
        else conclude env issue.id code report
      else conclude env issue.id code report

/-- `dispatch`. -/
def dispatch (env : Env) (issue : Issue) : Dispatch Unit := do
  claim env issue.id
  agentTask env issue

/-! ### Script tasks -/

/-- `is_script`. -/
def isScript (issue : Issue) : Bool := issue.labels.contains labelKindScript

/-- `script_needs_claude`. -/
def scriptNeedsClaude (report : ScriptReport) (exitCode : ℤ) : Bool :=
  !(decide (report.verdict = .pass) && !report.deviations && decide (exitCode = 0))

/-- `post_script_report`. -/
def postScriptReport (env : Env) (id : IssueId) (verdict : Verdict) (claude : Bool) :
    Dispatch Unit := do
  comment env id .report
  relabel env id .finish [labelRunning] (finalLabels verdict claude)

/-- `refuse_script`. -/
def refuseScript (env : Env) (id : IssueId) (claimed : Bool) : Dispatch Unit := do
  relabel env id .refuseScript [if claimed then labelRunning else labelReady] [labelBlocked]
  comment env id .refusedScript

/-- `dispatch_script`, after the claim. -/
def scriptTask (env : Env) (issue : Issue) : Dispatch Unit := do
  if !env.refNamed issue then refuseScript env issue.id true
  else if !(← (env.checkout issue).get) then refuseScript env issue.id true
  else if !env.scriptFileOk issue then refuseScript env issue.id true
  else
    let code ← runTask env issue
    if code = some exitNotReady then requeue env issue.id
    else
      match code, ← (env.scriptReport issue).get with
      | none, some report => postScriptReport env issue.id report.verdict true
      | some code, some report =>
          postScriptReport env issue.id report.verdict (scriptNeedsClaude report code)
      | _, none => postScriptReport env issue.id .blocked true

/-- `dispatch_script`. -/
def dispatchScript (env : Env) (issue : Issue) : Dispatch Unit := do
  if !env.scriptMode then refuseScript env issue.id false
  else if !env.scriptNamed issue then refuseScript env issue.id false
  else
    claim env issue.id
    scriptTask env issue

/-! ### A run -/

/-- `main`, from the queue on. While the router's lane is closed only scripts run. -/
def main (env : Env) (laneOpen : Bool) (queue : List Issue) : Dispatch Unit := do
  match ← pick env (if laneOpen then queue else queue.filter isScript) with
  | none => pure ()
  | some issue => if isScript issue then dispatchScript env issue else dispatch env issue

end Dispatcher

end LocalGpuCluster
