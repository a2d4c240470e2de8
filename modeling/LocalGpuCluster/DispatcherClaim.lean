/-
This file proves when the dispatcher leaves no claimed issue behind. What goes back to the queue or is
refused gets its labels before the comment, so the comment may fail. A report is posted before the
labels are set, and so is the start comment: if one of the two fails, or a step of the task raises,
the issue stays `runner:running`.
-/

import LocalGpuCluster.DispatcherPick

namespace LocalGpuCluster

namespace Dispatcher

open Interaction (run_bind run_bind_ok run_bind_error)

variable {env : Env} {issue : Issue} {queue : List Issue} {world : World} {id : IssueId}

/-- An issue is not running, and it carries one of the labels that end a run. -/
def Released (labels : List Text) : Prop :=
  labelRunning ∉ labels ∧
    ([labelReady, labelDone, labelBlocked].filter (· ∈ labels)).length = 1

/-- An issue is running. -/
def Claimed (labels : List Text) : Prop :=
  labelRunning ∈ labels ∧ ∀ label ∈ [labelReady, labelDone, labelBlocked], label ∉ labels

/-- What `ready_issues` lists: each issue once, ready and without another label of the runner. -/
structure ReadyIssues (queue : List Issue) (world : World) : Prop extends Listed queue world where
  alone : ∀ issue ∈ queue, ∀ label ∈ issue.labels,
    label.startsWith (text "runner:") = true → label = labelReady
  once : ∀ issue ∈ queue, ∀ other ∈ queue, issue.id = other.id → issue = other

/-- How a task ends that was claimed. -/
inductive End where
  | raises
  | requeues
  | refuses
  | reports
  deriving DecidableEq, Repr

/-- How steps end that need an answer. -/
def Answer.ending {Result : Type} (answer : Answer Result) (next : Result → End) : End :=
  match answer with
  | .raised => .raises
  | .returned result => next result

/-- How an agent task ends, where the start comment is posted. -/
def agentEnd (env : Env) (issue : Issue) : End :=
  if !env.refNamed issue then .reports
  else (env.checkout issue).ending fun isReady =>
    if !isReady then .reports
    else (env.run issue).ending fun code =>
      if code = some exitLaneClosed ∨ code = some exitNotReady then .requeues
      else (env.report issue).ending fun report =>
        if code.isSome && (report.bind Report.verdict).isNone then
          (env.swapped issue).ending fun swapped => if swapped then .requeues else .reports
        else .reports

/-- How a script task ends, where the start comment is posted. -/
def scriptEnd (env : Env) (issue : Issue) : End :=
  if !env.refNamed issue then .refuses
  else (env.checkout issue).ending fun isReady =>
    if !isReady then .refuses
    else if !env.scriptFileOk issue then .refuses
    else (env.run issue).ending fun code =>
      if code = some exitNotReady then .requeues
      else (env.scriptReport issue).ending fun _ => .reports

/-- A report that is due can be posted. -/
def End.Releases (env : Env) (id : IssueId) : End → Prop
  | .raises => False
  | .requeues | .refuses => True
  | .reports => env.raises (.comment id .report) = false

/-- The start comment is posted, no step raises, and a report that is due is posted. -/
def Env.Releases (env : Env) (issue : Issue) : Prop :=
  env.raises (.comment issue.id .claimed) = false ∧
    (if isScript issue then scriptEnd env issue else agentEnd env issue).Releases env issue.id

/-! ### The ends -/

/-- Steps release a running issue just where they end so. -/
def EndsIn (env : Env) (id : IssueId) (ending : End) (action : Dispatch Unit) : Prop :=
  ∀ world, Claimed (world.labels id) →
    (Released ((action world).2.labels id) ↔ ending.Releases env id)

theorem Claimed.not_released {labels : List Text} (claimed : Claimed labels) : ¬ Released labels :=
  fun released => released.1 claimed.1

/-- The last edit of a running issue gives it one label. -/
theorem released_of_relabelled {before after : World} {label : Text} {more : List Text}
    (claimed : Claimed (before.labels id))
    (edited : Relabelled id [labelRunning] (label :: more) before after)
    (isEnd : label ∈ [labelReady, labelDone, labelBlocked]) (extra : more ⊆ [labelClaude]) :
    Released (after.labels id) := by
  have only (other : Text) (isOther : other ∈ [labelReady, labelDone, labelBlocked]) :
      other ∈ after.labels id ↔ other = label := by
    rw [edited.mem_iff, @List.mem_cons _ label more other]
    have absent := claimed.2 other isOther
    have notExtra : other ∉ more := fun member => by
      have isClaude := List.mem_singleton.mp (extra member)
      rw [isClaude] at isOther
      exact absurd isOther (by decide)
    tauto
  constructor
  · rw [edited.mem_iff]
    rintro (⟨_, kept⟩ | added)
    · exact kept (List.mem_singleton_self _)
    · obtain isLabel | isExtra := List.mem_cons.mp added
      · rw [← isLabel] at isEnd
        exact absurd isEnd (by decide)
      · exact absurd (List.mem_singleton.mp (extra isExtra)) (by decide)
  · have filtered : [labelReady, labelDone, labelBlocked].filter (· ∈ after.labels id) =
        [labelReady, labelDone, labelBlocked].filter (· = label) :=
      List.filter_congr fun other isOther => decide_eq_decide.mpr (only other isOther)
    rw [filtered]
    simp only [List.mem_cons, List.not_mem_nil, or_false] at isEnd
    obtain rfl | rfl | rfl := isEnd <;> decide

section Ends

variable (edits : ∀ edit, env.EditSucceeds id edit)

include edits

theorem endsIn_finish (verdict : Verdict) (claude : Bool) :
    EndsIn env id .reports (finish env id verdict claude) := by
  intro world claimed
  unfold finish
  cases raises : env.raises (.comment id .report) with
  | true =>
    rw [run_bind_error (comment_error raises)]
    refine iff_of_false claimed.not_released fun releases => ?_
    rw [End.Releases, raises] at releases
    cases releases
  | false =>
    have disjoint : ∀ label ∈ finalLabels verdict claude, label ∉ [labelRunning] := by
      cases verdict <;> cases claude <;> decide
    obtain ⟨after, runs, edited⟩ := relabel_spec (edits .finish) disjoint (world.post id .report)
    have posted : Claimed ((world.post id .report).labels id) := claimed
    rw [run_bind_ok (comment_ok raises), runs]
    unfold finalLabels at edited
    refine iff_of_true (released_of_relabelled posted edited ?_ ?_) raises
    · cases verdict <;> decide
    · cases claude <;> decide

/-- An edit comes first, so it does not matter whether the comment after it is posted. -/
theorem endsIn_edit {edit : Edit} {label : Text} {posted : Comment} {ending : End}
    (isEnd : label ∈ [labelReady, labelDone, labelBlocked]) (releases : ending.Releases env id) :
    EndsIn env id ending (do
      relabel env id edit [labelRunning] [label]
      comment env id posted) := by
  intro world claimed
  have disjoint : ∀ other ∈ [label], other ∉ [labelRunning] := by
    intro other isLabel
    rw [List.mem_singleton.mp isLabel]
    intro isRunning
    rw [List.mem_singleton.mp isRunning] at isEnd
    exact absurd isEnd (by decide)
  obtain ⟨after, runs, edited⟩ := relabel_spec (edits edit) disjoint world
  have released := released_of_relabelled claimed edited isEnd (List.nil_subset _)
  rw [run_bind_ok runs]
  refine iff_of_true ?_ releases
  cases raises : env.raises (.comment id posted) with
  | true => rw [comment_error raises]; exact released
  | false => rw [comment_ok raises]; exact released

theorem endsIn_requeue : EndsIn env id .requeues (requeue env id) :=
  endsIn_edit edits (by decide) trivial

theorem endsIn_refuseScript : EndsIn env id .refuses (refuseScript env id true) :=
  endsIn_edit edits (by decide) trivial

theorem endsIn_conclude (code : Option ℤ) (report : Option Report) :
    EndsIn env id .reports (conclude env id code report) := by
  unfold conclude
  split
  · exact endsIn_finish edits _ _
  · exact endsIn_finish edits _ _

end Ends

theorem EndsIn.get {Result : Type} {answer : Answer Result} {ending : Result → End}
    {next : Result → Dispatch Unit} (ends : ∀ result, EndsIn env id (ending result) (next result)) :
    EndsIn env id (answer.ending ending) (answer.get >>= next) := by
  intro world claimed
  cases answer with
  | raised => exact iff_of_false claimed.not_released fun raised => raised
  | returned result => exact ends result world claimed

theorem EndsIn.runTask {ending : Option ℤ → End} {next : Option ℤ → Dispatch Unit}
    (ends : ∀ code, EndsIn env id (ending code) (next code)) :
    EndsIn env id ((env.run issue).ending ending) (runTask env issue >>= next) := by
  intro world claimed
  have task : Dispatcher.runTask env issue world =
      (env.run issue).get { world with runs := world.runs ++ [issue.id] } := run_bind_ok rfl
  rw [run_bind, task, ← run_bind]
  exact EndsIn.get ends { world with runs := world.runs ++ [issue.id] } claimed

/-! ### The claim -/

/-- A claim sets its labels and notes its issue before it posts its comment. -/
theorem claim_spec (edits : ∀ edit, env.EditSucceeds id edit) (world : World) :
    ∃ after, Relabelled id [labelReady] [labelRunning] world after ∧
      claim env id world =
        comment env id .claimed { after with claims := world.claims ++ [id] } := by
  obtain ⟨after, runs, edited⟩ := relabel_spec (edits .claim)
    (by decide : ∀ label ∈ [labelRunning], label ∉ [labelReady]) world
  refine ⟨after, edited, ?_⟩
  have claims : after.claims = world.claims := by rw [edited.rest]
  rw [← claims]
  unfold claim
  rw [run_bind_ok runs]
  exact run_bind_ok rfl

/-- What follows the claim of a ready issue ends as the claim and its own end say. -/
theorem released_claim (edits : ∀ edit, env.EditSucceeds id edit) {ending : End}
    {next : Dispatch Unit} (ends : EndsIn env id ending next)
    (alone : ∀ label ∈ world.labels id,
      label.startsWith (text "runner:") = true → label = labelReady) :
    Released (((claim env id >>= fun _ => next) world).2.labels id) ↔
      env.raises (.comment id .claimed) = false ∧ ending.Releases env id := by
  obtain ⟨after, edited, claims⟩ := claim_spec edits world
  have claimed : Claimed (after.labels id) := by
    refine ⟨(edited.mem_iff _).mpr (Or.inr (List.mem_singleton_self _)), fun label isEnd => ?_⟩
    rw [edited.mem_iff]
    rintro (⟨inLabels, notReady⟩ | isRunning)
    · have isRunner : label.startsWith (text "runner:") = true := by
        simp only [List.mem_cons, List.not_mem_nil, or_false] at isEnd
        obtain rfl | rfl | rfl := isEnd <;> decide
      exact notReady (List.mem_singleton.mpr (alone label inLabels isRunner))
    · rw [List.mem_singleton.mp isRunning] at isEnd
      exact absurd isEnd (by decide)
  rw [run_bind, claims]
  cases raises : env.raises (.comment id .claimed) with
  | true =>
    rw [comment_error raises]
    exact iff_of_false claimed.not_released fun both => Bool.noConfusion both.1
  | false =>
    rw [comment_ok raises]
    rw [eq_self, true_and]
    exact ends _ claimed

/-! ### The tasks -/

theorem endsIn_agentTask (edits : ∀ edit, env.EditSucceeds issue.id edit) :
    EndsIn env issue.id (agentEnd env issue) (agentTask env issue) := by
  unfold agentEnd agentTask
  split
  · exact endsIn_finish edits _ _
  · refine EndsIn.get fun isReady => ?_
    split
    · exact endsIn_finish edits _ _
    · refine EndsIn.runTask fun code => ?_
      split
      · exact endsIn_requeue edits
      · refine EndsIn.get fun report => ?_
        split
        · refine EndsIn.get fun swapped => ?_
          split
          · exact endsIn_requeue edits
          · exact endsIn_conclude edits _ _
        · exact endsIn_conclude edits _ _

theorem endsIn_scriptTask (edits : ∀ edit, env.EditSucceeds issue.id edit) :
    EndsIn env issue.id (scriptEnd env issue) (scriptTask env issue) := by
  unfold scriptEnd scriptTask
  split
  · exact endsIn_refuseScript edits
  · refine EndsIn.get fun isReady => ?_
    split
    · exact endsIn_refuseScript edits
    · split
      · exact endsIn_refuseScript edits
      · refine EndsIn.runTask fun code => ?_
        split
        · exact endsIn_requeue edits
        · refine EndsIn.get fun report => ?_
          split <;> exact endsIn_finish edits _ _

theorem quiet_claims : Quiet (Same World.claims) where
  posts := fun _ _ _ => rfl
  edits := fun _ _ _ _ => rfl

/-- A claim notes its issue, if its label edit succeeds. -/
theorem claims_claim (edits : ∀ edit, env.EditSucceeds id edit) {next : Dispatch Unit}
    (same : Within (Same World.claims) next) (world : World) :
    ((claim env id >>= fun _ => next) world).2.claims = world.claims ++ [id] := by
  obtain ⟨after, _, claims⟩ := claim_spec edits world
  have rest : Within (Same World.claims) (comment env id .claimed >>= fun _ => next) :=
    (quiet_claims.comment _).bind fun _ => same
  rw [run_bind, claims, ← run_bind (comment env id .claimed) fun _ => next]
  exact rest { after with claims := world.claims ++ [id] }

/-- What the dispatch of a picked issue leaves: nothing is claimed, or the issue is and is released
where its steps say so. -/
theorem dispatched (edits : ∀ edit, env.EditSucceeds issue.id edit)
    (alone : ∀ label ∈ world.labels issue.id,
      label.startsWith (text "runner:") = true → label = labelReady) {after : World}
    (isAfter : after =
      ((if isScript issue then dispatchScript env issue else dispatch env issue) world).2) :
    after.claims = world.claims ∨ after.claims = world.claims ++ [issue.id] ∧
      (Released (after.labels issue.id) ↔ env.Releases issue) := by
  have runs (world : World) :
      Same World.claims world { world with runs := world.runs ++ [issue.id] } := rfl
  subst isAfter
  unfold Env.Releases
  split
  · have refuses : Within (Same World.claims) (refuseScript env issue.id false) :=
      quiet_claims.refuseScript false
    unfold dispatchScript
    split
    · exact Or.inl (refuses world)
    · split
      · exact Or.inl (refuses world)
      · exact Or.inr ⟨claims_claim edits (quiet_claims.scriptTask runs) world,
          released_claim edits (endsIn_scriptTask edits) alone⟩
  · exact Or.inr ⟨claims_claim edits (quiet_claims.agentTask runs) world,
      released_claim edits (endsIn_agentTask edits) alone⟩

/-! ### The pick before the claim -/

/-- An observation that the refusals keep is the same after a pick. -/
theorem same_pickFresh {Observed : Type} {observe : World → Observed}
    (posts : ∀ world id posted, observe (world.post id posted) = observe world)
    (refusals : ∀ issue ∈ queue, Refused issue → ∀ world remove add,
      observe (world.edit issue.id remove add) = observe world) :
    Within (Same observe) (pickFresh env queue) := by
  induction queue with
  | nil => exact within_pure none
  | cons issue rest inductionHypothesis =>
    have later := inductionHypothesis fun other member =>
      refusals other (List.mem_cons_of_mem _ member)
    rw [pickFresh_cons]
    split
    · rename_i refused
      have posted (world : World) : Same observe world (world.post issue.id .refusedTier) :=
        posts world _ _
      have edited (world : World) (fewer less : List Text) :
          Same observe world (world.edit issue.id fewer less) :=
        refusals issue List.mem_cons_self refused world fewer less
      refine Within.bind ((within_comment posted).bind fun _ => within_relabel ?_) fun _ => later
      exact fun world fewer less _ _ => edited world fewer less
    · refine Within.bind ?_ fun held => ?_
      · split
        · exact within_halted
        · exact within_pure false
      · split
        · exact (within_noteHalted fun world posted => posts world _ posted).bind fun _ => later
        · split
          · exact within_pure _
          · exact later

/-- What is picked is in the queue and was not refused. -/
theorem mem_of_pickFresh {after : World} (picks : pickFresh env queue world = (.ok (some issue), after)) :
    issue ∈ queue ∧ ¬ Refused issue := by
  induction queue generalizing world with
  | nil => cases picks
  | cons head rest inductionHypothesis =>
    have later {First : Type} {action : Dispatch First} {world : World}
        (found : (action >>= fun _ => pickFresh env rest) world = (.ok (some issue), after)) :
        issue ∈ head :: rest ∧ ¬ Refused issue := by
      rw [run_bind] at found
      split at found
      · exact (inductionHypothesis found).imp_left (List.mem_cons_of_mem _)
      · cases found
    rw [pickFresh_cons] at picks
    split at picks
    · exact later picks
    · rename_i allowed
      rw [run_bind] at picks
      split at picks
      · split at picks
        · exact later picks
        · split at picks
          · cases picks
            exact ⟨List.mem_cons_self, allowed⟩
          · exact (inductionHypothesis picks).imp_left (List.mem_cons_of_mem _)
      · cases picks

/-! ### A whole run -/

/-- A run claims one issue at most. -/
theorem claims_main (edits : ∀ id edit, env.EditSucceeds id edit) (ready : ReadyIssues queue world)
    (laneOpen : Bool) :
    (main env laneOpen queue world).2.claims = world.claims ∨
      ∃ issue ∈ queue, (main env laneOpen queue world).2.claims = world.claims ++ [issue.id] ∧
        (Released ((main env laneOpen queue world).2.labels issue.id) ↔ env.Releases issue) := by
  have within : ∀ issue ∈ (if laneOpen then queue else queue.filter isScript), issue ∈ queue := by
    cases laneOpen with
    | true => exact fun _ => id
    | false => exact fun _ member => (List.mem_filter.mp member).1
  have fresh : pick env (if laneOpen then queue else queue.filter isScript) world =
      pickFresh env (if laneOpen then queue else queue.filter isScript) world :=
    pickFrom_eq_pickFresh (Memo.holds_empty _) (Memo.holds_empty _)
  have sameClaims : World.claims (pickFresh env (if laneOpen then queue else queue.filter isScript)
      world).2 = world.claims :=
    same_pickFresh (fun _ _ _ => rfl) (fun _ _ _ _ _ _ => rfl) world
  unfold main
  rw [run_bind, fresh]
  cases picks : pickFresh env (if laneOpen then queue else queue.filter isScript) world with
  | mk result after =>
    rw [picks] at sameClaims
    cases result with
    | error _ => exact Or.inl sameClaims
    | ok result =>
      cases result with
      | none => exact Or.inl sameClaims
      | some issue =>
        obtain ⟨member, allowed⟩ := mem_of_pickFresh picks
        have inQueue := within issue member
        have sameLabels : after.labels issue.id = issue.labels := by
          have keeps : Within (Same fun now : World => now.labels issue.id)
              (pickFresh env (if laneOpen then queue else queue.filter isScript)) := by
            refine same_pickFresh (fun _ _ _ => rfl) fun other isOther refused now remove add => ?_
            refine (relabelled_edit now other.id remove add).others issue.id fun same => ?_
            exact allowed (ready.once issue inQueue other (within other isOther) same ▸ refused)
          have kept := keeps world
          rw [picks] at kept
          exact kept.trans (ready.labels issue inQueue)
        have dispatches := @dispatched env issue after (edits issue.id)
          (sameLabels ▸ ready.alone issue inQueue) _ rfl
        rw [show after.claims = world.claims from sameClaims] at dispatches
        exact dispatches.imp_right fun claimed => ⟨issue, inQueue, claimed⟩

/-- No claimed issue is left behind exactly when for the claimed issue the start comment is posted, no
step raises, and a report that is due is posted. -/
theorem released_iff (edits : ∀ id edit, env.EditSucceeds id edit) (ready : ReadyIssues queue world)
    (fresh : world.claims = []) (laneOpen : Bool) :
    (∀ id ∈ (main env laneOpen queue world).2.claims,
        Released ((main env laneOpen queue world).2.labels id)) ↔
      ∀ issue ∈ queue, issue.id ∈ (main env laneOpen queue world).2.claims → env.Releases issue := by
  obtain none | ⟨claimed, member, claims, iff⟩ := claims_main edits ready laneOpen
  · rw [none, fresh]
    exact iff_of_true nofun nofun
  · rw [claims, fresh, List.nil_append]
    constructor
    · intro released issue inQueue isClaimed
      have same := ready.once issue inQueue claimed member (List.mem_singleton.mp isClaimed)
      exact same ▸ iff.mp (released claimed.id (List.mem_singleton_self _))
    · intro releases id isClaimed
      rw [List.mem_singleton.mp isClaimed]
      exact iff.mpr (releases claimed member (List.mem_singleton_self _))

/-! ### A start comment that fails -/

theorem exampleQueue_ready : ReadyIssues exampleQueue exampleWorld where
  labels := by decide
  ready := by decide
  alone := by decide
  once := by decide

theorem example_released_iff :
    (∀ id ∈ (main exampleEnv true exampleQueue exampleWorld).2.claims,
        Released ((main exampleEnv true exampleQueue exampleWorld).2.labels id)) ↔
      ∀ issue ∈ exampleQueue,
        issue.id ∈ (main exampleEnv true exampleQueue exampleWorld).2.claims →
          exampleEnv.Releases issue :=
  released_iff exampleEnv_answers.edits exampleQueue_ready rfl true

/-- The comments that tell of a claim cannot be posted. -/
def silentEnv : Env :=
  { exampleEnv with raises := fun call => match call with
      | .comment _ .claimed => true
      | _ => false }

/-- The fifth issue is claimed and stays `runner:running`. -/
theorem failed_comment_strands :
    (∀ id edit, silentEnv.EditSucceeds id edit) ∧ ReadyIssues exampleQueue exampleWorld ∧
      exampleWorld.claims = [] ∧
      (main silentEnv true exampleQueue exampleWorld).2.claims = [⟨text "lab/a", 5⟩] ∧
      (main silentEnv true exampleQueue exampleWorld).2.labels ⟨text "lab/a", 5⟩ =
        [tierA, labelRunning] ∧
      ¬ ∀ id ∈ (main silentEnv true exampleQueue exampleWorld).2.claims,
        Released ((main silentEnv true exampleQueue exampleWorld).2.labels id) := by
  have claims : (main silentEnv true exampleQueue exampleWorld).2.claims = [⟨text "lab/a", 5⟩] := by
    decide
  have labels : (main silentEnv true exampleQueue exampleWorld).2.labels ⟨text "lab/a", 5⟩ =
      [tierA, labelRunning] := by decide
  refine ⟨fun _ _ => ⟨1, le_refl 1, by decide, rfl⟩, exampleQueue_ready, rfl, claims, labels, ?_⟩
  intro released
  have one := released ⟨text "lab/a", 5⟩ (claims ▸ List.mem_singleton_self _)
  rw [labels] at one
  exact one.1 (List.mem_cons_of_mem _ (List.mem_singleton_self _))

end Dispatcher

end LocalGpuCluster
