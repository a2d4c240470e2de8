/-
This file proves what `pick` returns: the first issue of the queue that may run, after it refused the
issues before it whose tier labels are wrong and left the others as they were. The answers that it
keeps for a repository are the answers that it would get afresh, since its own label edits never touch
the halt label.
-/

import LocalGpuCluster.DispatcherSteps

namespace LocalGpuCluster

namespace Dispatcher

open Interaction (run_bind run_bind_ok run_bind_error)

variable {env : Env} {issue : Issue} {queue : List Issue} {world after : World} {id : IssueId}
  {repo : Text}

/-- An issue has no tier label, several ones, or `tier:c`. -/
def Refused (issue : Issue) : Prop :=
  issue.tiers = [] ∨ 1 < issue.tiers.length ∨ issue.tiers = [tierC]

/-- An issue has one tier label, it is `tier:a`, or `tier:b` without a halt, and its repository is
ready. -/
def Runnable (env : Env) (world : World) (issue : Issue) : Prop :=
  (issue.tiers = [tierA] ∨ issue.tiers = [tierB] ∧ world.halted issue.id.repo = false) ∧
    env.ready issue.id.repo = true

instance (issue : Issue) : Decidable (Refused issue) := inferInstanceAs (Decidable (_ ∨ _ ∨ _))

/-- No call raises, and each label edit succeeds within its tries. -/
structure Env.Answers (env : Env) : Prop where
  calls : ∀ call, env.raises call = false
  edits : ∀ id edit, env.EditSucceeds id edit

/-- The rows of the queue tell the labels that the issues have. -/
structure Listed (queue : List Issue) (world : World) : Prop where
  labels : ∀ issue ∈ queue, world.labels issue.id = issue.labels
  ready : ∀ issue ∈ queue, labelReady ∈ issue.labels

/-- `pick`, with the answers asked for afresh for each issue. -/
def pickFresh (env : Env) : List Issue → Dispatch (Option Issue)
  | [] => pure none
  | issue :: rest => do
      let tier := tierOf issue
      if tier = none ∨ tier = some tierC then
        refuseTier env issue
        pickFresh env rest
      else
        let held ← if tier = some tierB then halted env issue.id.repo else pure false
        if held then
          noteHalted env issue
          pickFresh env rest
        else if env.ready issue.id.repo then pure (some issue)
        else pickFresh env rest

/-- What `pick` returns and what it leaves, with the issues that it passed by. -/
structure Picked (env : Env) (queue passed : List Issue) (world : World) (result : Option Issue)
    (after : World) : Prop where
  first : ∃ rest, queue = passed ++ result.toList ++ rest ∧ (result = none → rest = [])
  runnable : ∀ issue ∈ result, Runnable env world issue
  notRunnable : ∀ issue ∈ passed, ¬ Runnable env world issue
  refused : ∀ issue ∈ passed, Refused issue →
    labelBlocked ∈ after.labels issue.id ∧ labelReady ∉ after.labels issue.id
  kept : ∀ id, (∀ issue ∈ passed, Refused issue → issue.id ≠ id) → after.labels id = world.labels id
  runs : after.runs = world.runs
  claims : after.claims = world.claims

/-! ### Tiers -/

theorem tierOf_eq_some {tier : Text} : tierOf issue = some tier ↔ issue.tiers = [tier] := by
  unfold tierOf
  split
  · rename_i single same
    rw [same, Option.some.injEq, List.singleton_inj]
  · rename_i notSingle
    exact iff_of_false nofun fun same => notSingle tier same

/-- The issues that `tier_of` finds no tier for, or the third one. -/
theorem refused_iff : Refused issue ↔ tierOf issue = none ∨ tierOf issue = some tierC := by
  have none : tierOf issue = none ↔ issue.tiers = [] ∨ 1 < issue.tiers.length := by
    unfold tierOf
    split
    · rename_i single same
      rw [same]
      exact iff_of_false nofun fun wrong => wrong.elim nofun fun many => absurd many (by simp)
    · rename_i notSingle
      refine iff_of_true rfl ?_
      cases tiers : issue.tiers with
      | nil => exact Or.inl rfl
      | cons first rest =>
        cases rest with
        | nil => exact absurd tiers (notSingle first)
        | cons second others => exact Or.inr (by simp)
  rw [none, tierOf_eq_some, or_assoc]
  rfl

theorem tierA_or_tierB (allowed : ¬ Refused issue) :
    issue.tiers = [tierA] ∨ issue.tiers = [tierB] := by
  rw [refused_iff, not_or] at allowed
  obtain ⟨tier, isTier⟩ := Option.ne_none_iff_exists'.mp allowed.1
  have single := tierOf_eq_some.mp isTier
  have inTiers : tier ∈ issue.tiers := single ▸ List.mem_singleton_self tier
  have member : tier ∈ tiers := of_decide_eq_true (List.mem_filter.mp inTiers).2
  simp only [tiers, List.mem_cons, List.not_mem_nil, or_false] at member
  obtain rfl | rfl | rfl := member
  · exact Or.inl single
  · exact Or.inr single
  · exact absurd isTier allowed.2

theorem Runnable.not_refused (runnable : Runnable env world issue) : ¬ Refused issue := by
  unfold Refused
  obtain ⟨isA | ⟨isB, _⟩, _⟩ := runnable
  · rw [isA]; decide
  · rw [isB]; decide

/-! ### What the pick keeps -/

/-- An observation is the same before and after. -/
def Same {Observed : Type} (observe : World → Observed) (before after : World) : Prop :=
  observe after = observe before

instance {Observed : Type} (observe : World → Observed) : IsPreorder World (Same observe) where
  refl := fun _ => rfl
  trans := fun _ _ _ first second => second.trans first

theorem same_halted_edit {remove add : List Text} (removed : labelHalt ∉ remove)
    (added : labelHalt ∉ add) (world : World) (id : IssueId) :
    Same World.halted world (world.edit id remove add) := by
  funext repo
  have kept (other : IssueId) : ((world.edit id remove add).labels other).contains labelHalt =
      (world.labels other).contains labelHalt := by
    have edited := relabelled_edit world id remove add
    by_cases same : other = id
    · subst same
      rw [Bool.eq_iff_iff, List.contains_iff_mem, List.contains_iff_mem, edited.mem_iff]
      tauto
    · rw [edited.others other same]
  show world.openIssues.any _ = world.openIssues.any _
  simp only [kept]

theorem same_halted_relabel {edit : Edit} {remove add : List Text} (removed : labelHalt ∉ remove)
    (added : labelHalt ∉ add) : Within (Same World.halted) (relabel env id edit remove add) :=
  within_relabel fun world _ _ fewer less => same_halted_edit
    (fun member => removed (fewer member)) (fun member => added (less member)) world id

theorem same_halted_refuseTier : Within (Same World.halted) (refuseTier env issue) := by
  have posts (world : World) : Same World.halted world (world.post issue.id .refusedTier) := rfl
  exact (within_comment posts).bind fun _ => same_halted_relabel (by decide) (by decide)

theorem within_halted {relation : World → World → Prop} [IsPreorder World relation] :
    Within relation (halted env repo) :=
  (within_gh _).bind fun _ world => refl world

theorem within_noteHalted {relation : World → World → Prop} [IsPreorder World relation]
    (posts : ∀ world posted, relation world (world.post issue.id posted)) :
    Within relation (noteHalted env issue) := by
  refine (within_gh _).bind fun _ => Within.bind (fun world => refl world) fun now => ?_
  split
  · exact within_comment fun world => posts world _
  · exact within_pure ()

/-! ### Memoised answers -/

/-- The answer to a question about a repository, or none where the call raises. -/
def answered (answer : Option Bool) (world : World) : Except Unit Bool × World :=
  match answer with
  | some answer => (.ok answer, world)
  | none => (.error (), world)

/-- A memo holds answers as they are. -/
def Memo.Holds (memo : Memo) (answer : Text → Option Bool) : Prop :=
  ∀ repo known, memo.lookup repo = some known → answer repo = some known

theorem Memo.holds_empty (answer : Text → Option Bool) : Memo.Holds ∅ answer :=
  fun _ _ found => by cases found

theorem Memo.ask_spec {memo : Memo} {answer : Text → Option Bool} {fresh : Dispatch Bool}
    (holds : memo.Holds answer) (isFresh : fresh world = answered (answer repo) world) :
    answer repo = none ∧ memo.ask repo fresh world = (.error (), world) ∨
      ∃ known memoAfter, answer repo = some known ∧
        memo.ask repo fresh world = (.ok (known, memoAfter), world) ∧ memoAfter.Holds answer := by
  unfold Memo.ask
  cases found : memo.lookup repo with
  | some known => exact Or.inr ⟨known, memo, holds repo known found, rfl, holds⟩
  | none =>
    cases isAnswer : answer repo with
    | none =>
      rw [isAnswer] at isFresh
      exact Or.inl ⟨rfl, run_bind_error isFresh⟩
    | some known =>
      rw [isAnswer] at isFresh
      refine Or.inr ⟨known, memo.insert repo known, rfl, run_bind_ok isFresh, ?_⟩
      intro other otherKnown otherFound
      by_cases same : other = repo
      · subst same
        rw [AList.lookup_insert] at otherFound
        rw [isAnswer, otherFound]
      · rw [AList.lookup_insert_ne same] at otherFound
        exact holds other otherKnown otherFound

/-- What `halted` answers. -/
def haltAnswer (env : Env) (world : World) (repo : Text) : Option Bool :=
  if env.raises (.listHalted repo) then none else some (world.halted repo)

theorem halted_eq : halted env repo world = answered (haltAnswer env world repo) world := by
  unfold haltAnswer
  cases raises : env.raises (.listHalted repo) with
  | true => exact run_bind_error (gh_error raises)
  | false => exact run_bind_ok (gh_ok raises)

/-- The memoised answers give what fresh ones would. -/
theorem pickFrom_eq_pickFresh {halt ok : Memo} (halts : halt.Holds (haltAnswer env world))
    (oks : ok.Holds fun repo => some (env.ready repo)) :
    pickFrom env halt ok queue world = pickFresh env queue world := by
  induction queue generalizing world halt ok with
  | nil => rfl
  | cons issue rest inductionHypothesis =>
    unfold pickFrom pickFresh
    dsimp only
    have again {action : Dispatch Unit} (kept : Within (Same World.halted) action) {halt ok : Memo}
        (halts : halt.Holds (haltAnswer env world))
        (oks : ok.Holds fun repo => some (env.ready repo)) :
        (action >>= fun _ => pickFrom env halt ok rest) world =
          (action >>= fun _ => pickFresh env rest) world := by
      have same : World.halted (action world).2 = world.halted := kept world
      rw [run_bind, run_bind]
      revert same
      obtain ⟨_ | _, middle⟩ := action world
      · exact fun _ => rfl
      · intro same
        have isSame : middle.halted = world.halted := same
        refine inductionHypothesis ?_ oks
        intro repo known found
        rw [← halts repo known found, haltAnswer, haltAnswer, isSame]
    have ready {halt : Memo} (halts : halt.Holds (haltAnswer env world)) :
        (ok.ask issue.id.repo (pure (env.ready issue.id.repo)) >>= fun asked =>
          if asked.1 then pure (some issue) else pickFrom env halt asked.2 rest : Dispatch _) world =
          (if env.ready issue.id.repo then pure (some issue) else pickFresh env rest : Dispatch _)
            world := by
      obtain ⟨none, _⟩ | ⟨known, okAfter, isKnown, asks, oksAfter⟩ := Memo.ask_spec oks
        (show (pure (env.ready issue.id.repo) : Dispatch Bool) world = answered _ world from rfl)
      · cases none
      · rw [run_bind_ok asks]
        obtain rfl := Option.some.inj isKnown
        dsimp only
        split
        · rfl
        · exact inductionHypothesis halts oksAfter
    split
    · exact again same_halted_refuseTier halts oks
    · split
      · obtain ⟨none, asks⟩ | ⟨known, haltAfter, isKnown, asks, haltsAfter⟩ :=
          Memo.ask_spec halts (@halted_eq env world issue.id.repo)
        · have raises : halted env issue.id.repo world = (.error (), world) := by
            rw [halted_eq, none]
            rfl
          rw [run_bind_error asks, run_bind_error raises]
        · have answers : halted env issue.id.repo world = (.ok known, world) := by
            rw [halted_eq, isKnown]
            rfl
          rw [run_bind_ok asks, run_bind_ok answers]
          dsimp only
          split
          · exact again (within_noteHalted fun _ _ => rfl) haltsAfter oks
          · exact ready haltsAfter
      · exact ready halts

/-! ### What is picked -/

theorem Env.Answers.comment (answers : env.Answers) (posted : Comment) (world : World) :
    comment env id posted world = (.ok (), world.post id posted) :=
  comment_ok (answers.calls _)

/-- A refused issue loses its place in the queue and is blocked. -/
theorem refuseTier_spec (answers : env.Answers) (issue : Issue) (world : World) :
    ∃ after, refuseTier env issue world = (.ok (), after) ∧
      Relabelled issue.id [labelReady] [labelBlocked] (world.post issue.id .refusedTier) after := by
  obtain ⟨after, runs, edited⟩ := relabel_spec (answers.edits issue.id .refuseTier)
    (by decide : ∀ label ∈ [labelBlocked], label ∉ [labelReady]) (world.post issue.id .refusedTier)
  exact ⟨after, (run_bind_ok (answers.comment _ world)).trans runs, edited⟩

/-- A held issue only gets a comment. -/
theorem noteHalted_spec (answers : env.Answers) (issue : Issue) (world : World) :
    ∃ comments, noteHalted env issue world = (.ok (), { world with comments }) := by
  unfold noteHalted
  rw [run_bind_ok (gh_ok (answers.calls _)),
    run_bind_ok (show (get : Dispatch World) world = (.ok world, world) from rfl)]
  split
  · exact ⟨_, answers.comment _ world⟩
  · exact ⟨world.comments, rfl⟩

theorem halted_spec (answers : env.Answers) (repo : Text) (world : World) :
    halted env repo world = (.ok (world.halted repo), world) :=
  run_bind_ok (gh_ok (answers.calls _))

/-- An issue that was passed by and left as it was changes nothing. -/
theorem Picked.pass {comments : IssueId → List Comment} {passed rest : List Issue}
    {result : Option Issue} (allowed : ¬ Refused issue) (notRunnable : ¬ Runnable env world issue)
    (picked : Picked env rest passed { world with comments } result after) :
    Picked env (issue :: rest) (issue :: passed) world result after where
  first := by
    obtain ⟨others, isQueue, none⟩ := picked.first
    exact ⟨others, congrArg (issue :: ·) isQueue, none⟩
  runnable := picked.runnable
  notRunnable := List.forall_mem_cons.mpr ⟨notRunnable, picked.notRunnable⟩
  refused := List.forall_mem_cons.mpr ⟨fun refused => absurd refused allowed, picked.refused⟩
  kept := fun id apart => picked.kept id fun other member => apart other (List.mem_cons_of_mem _ member)
  runs := picked.runs
  claims := picked.claims

/-- A refused issue is passed by. -/
theorem Picked.refuse {middle : World} {passed rest : List Issue} {result : Option Issue}
    (isRefused : Refused issue)
    (edited : Relabelled issue.id [labelReady] [labelBlocked] (world.post issue.id .refusedTier) middle)
    (sameHalted : middle.halted = world.halted) (picked : Picked env rest passed middle result after) :
    Picked env (issue :: rest) (issue :: passed) world result after where
  first := by
    obtain ⟨others, isQueue, none⟩ := picked.first
    exact ⟨others, congrArg (issue :: ·) isQueue, none⟩
  runnable := fun other isResult => by
    have runnable := picked.runnable other isResult
    unfold Runnable at runnable ⊢
    rwa [sameHalted] at runnable
  notRunnable := by
    refine List.forall_mem_cons.mpr ⟨fun runnable => runnable.not_refused isRefused, ?_⟩
    intro other member runnable
    refine picked.notRunnable other member ?_
    unfold Runnable at runnable ⊢
    rwa [sameHalted]
  refused := by
    refine List.forall_mem_cons.mpr ⟨fun _ => ?_, picked.refused⟩
    by_cases again : ∃ other ∈ passed, Refused other ∧ other.id = issue.id
    · obtain ⟨other, member, otherRefused, same⟩ := again
      exact same ▸ picked.refused other member otherRefused
    · push Not at again
      rw [picked.kept issue.id again, edited.mem_iff, edited.mem_iff]
      refine ⟨Or.inr (List.mem_singleton_self _), ?_⟩
      rintro (⟨_, notRemoved⟩ | isBlocked)
      · exact notRemoved (List.mem_singleton_self _)
      · exact absurd isBlocked (by decide)
  kept := fun id apart => by
    rw [picked.kept id fun other member => apart other (List.mem_cons_of_mem _ member),
      edited.others id (Ne.symm (apart issue List.mem_cons_self isRefused))]
    rfl
  runs := by rw [picked.runs, edited.rest]; rfl
  claims := by rw [picked.claims, edited.rest]; rfl

theorem pickFresh_cons (issue : Issue) (rest : List Issue) : pickFresh env (issue :: rest) =
    if Refused issue then refuseTier env issue >>= fun _ => pickFresh env rest
    else
      (if tierOf issue = some tierB then halted env issue.id.repo else pure false) >>= fun held =>
        if held then noteHalted env issue >>= fun _ => pickFresh env rest
        else if env.ready issue.id.repo then pure (some issue)
        else pickFresh env rest := by
  rw [pickFresh]
  dsimp only
  by_cases isRefused : Refused issue
  · rw [if_pos isRefused]
    exact if_pos (refused_iff.mp isRefused)
  · rw [if_neg isRefused]
    refine (if_neg fun refused => isRefused (refused_iff.mpr refused)).trans ?_
    split <;> rfl

theorem pickFresh_spec (answers : env.Answers) (queue : List Issue) (world : World) :
    ∃ passed result after, pickFresh env queue world = (.ok result, after) ∧
      Picked env queue passed world result after := by
  induction queue generalizing world with
  | nil =>
    exact ⟨[], none, world, rfl, ⟨[], rfl, fun _ => rfl⟩, nofun, nofun, nofun, fun _ _ => rfl, rfl, rfl⟩
  | cons issue rest inductionHypothesis =>
    rw [pickFresh_cons]
    by_cases isRefused : Refused issue
    · rw [if_pos isRefused]
      obtain ⟨middle, refuses, edited⟩ := refuseTier_spec answers issue world
      have sameHalted : middle.halted = world.halted := by
        have kept := @same_halted_refuseTier env issue world
        rwa [refuses] at kept
      obtain ⟨passed, result, after, runs, picked⟩ := inductionHypothesis middle
      exact ⟨_, _, _, (run_bind_ok refuses).trans runs, picked.refuse isRefused edited sameHalted⟩
    · rw [if_neg isRefused]
      have isHeld : (if tierOf issue = some tierB then halted env issue.id.repo else pure false :
          Dispatch Bool) world =
            (.ok (decide (tierOf issue = some tierB) && world.halted issue.id.repo), world) := by
        split
        · rename_i isB
          rw [halted_spec answers, decide_eq_true isB, Bool.true_and]
        · rename_i notB
          rw [decide_eq_false notB, Bool.false_and]
          rfl
      rw [run_bind_ok isHeld]
      split
      · rename_i held
        rw [Bool.and_eq_true, decide_eq_true_eq] at held
        have notRunnable : ¬ Runnable env world issue := by
          rintro ⟨isA | ⟨_, notHalted⟩, _⟩
          · exact absurd (isA.symm.trans (tierOf_eq_some.mp held.1)) (by decide)
          · rw [held.2] at notHalted
            cases notHalted
        obtain ⟨comments, notes⟩ := noteHalted_spec answers issue world
        obtain ⟨passed, result, after, runs, picked⟩ := inductionHypothesis { world with comments }
        exact ⟨_, _, _, (run_bind_ok notes).trans runs, picked.pass isRefused notRunnable⟩
      · rename_i notHeld
        split
        · rename_i isReady
          have runnable : Runnable env world issue := by
            refine ⟨(tierA_or_tierB isRefused).imp_right fun isB => ⟨isB, ?_⟩, isReady⟩
            rw [decide_eq_true (tierOf_eq_some.mpr isB), Bool.true_and] at notHeld
            exact Bool.eq_false_iff.mpr notHeld
          refine ⟨[], some issue, world, rfl, ⟨rest, rfl, nofun⟩, ?_, nofun, nofun, fun _ _ => rfl,
            rfl, rfl⟩
          intro other isResult
          exact Option.some.inj isResult ▸ runnable
        · rename_i notReady
          obtain ⟨passed, result, after, runs, picked⟩ := inductionHypothesis world
          exact ⟨_, _, _, runs, @Picked.pass env issue world after world.comments _ _ _ isRefused
            (fun runnable => notReady runnable.2) picked⟩

/-! ### What is run -/

/-- A relation that comments and labels do not matter to. -/
structure Quiet (relation : World → World → Prop) : Prop where
  posts : ∀ world id posted, relation world (world.post id posted)
  edits : ∀ world id remove add, relation world (world.edit id remove add)

section Quiet

variable {relation : World → World → Prop} [IsPreorder World relation] (quiet : Quiet relation)

include quiet

theorem Quiet.comment (posted : Comment) : Within relation (comment env id posted) :=
  within_comment fun world => quiet.posts world id posted

theorem Quiet.relabel (edit : Edit) (remove add : List Text) :
    Within relation (relabel env id edit remove add) :=
  within_relabel fun world fewer less _ _ => quiet.edits world id fewer less

theorem Quiet.finish (verdict : Verdict) (claude : Bool) :
    Within relation (finish env id verdict claude) :=
  (quiet.comment _).bind fun _ => quiet.relabel _ _ _

theorem Quiet.requeue : Within relation (requeue env id) :=
  (quiet.relabel _ _ _).bind fun _ => quiet.comment _

theorem Quiet.refuseScript (claimed : Bool) : Within relation (refuseScript env id claimed) :=
  (quiet.relabel _ _ _).bind fun _ => quiet.comment _

theorem Quiet.conclude (code : Option ℤ) (report : Option Report) :
    Within relation (conclude env id code report) := by
  unfold Dispatcher.conclude
  split <;> exact quiet.finish _ _

variable (runs : ∀ world : World, relation world { world with runs := world.runs ++ [issue.id] })

include runs

omit quiet in
theorem within_runTask : Within relation (runTask env issue) :=
  (within_modify runs).bind fun _ => within_get _

theorem Quiet.agentTask : Within relation (agentTask env issue) := by
  unfold Dispatcher.agentTask
  split
  · exact quiet.finish _ _
  · refine (within_get _).bind fun _ => ?_
    split
    · exact quiet.finish _ _
    · refine (within_runTask runs).bind fun code => ?_
      split
      · exact quiet.requeue
      · refine (within_get _).bind fun report => ?_
        split
        · refine (within_get _).bind fun swapped => ?_
          split
          · exact quiet.requeue
          · exact quiet.conclude _ _
        · exact quiet.conclude _ _

theorem Quiet.scriptTask : Within relation (scriptTask env issue) := by
  unfold Dispatcher.scriptTask
  split
  · exact quiet.refuseScript _
  · refine (within_get _).bind fun _ => ?_
    split
    · exact quiet.refuseScript _
    · split
      · exact quiet.refuseScript _
      · refine (within_runTask runs).bind fun code => ?_
        split
        · exact quiet.requeue
        · refine (within_get _).bind fun report => ?_
          split <;> exact quiet.finish _ _

end Quiet

/-- Something was run for one issue at most. -/
def RunsFor (id : IssueId) (before after : World) : Prop :=
  ∀ other ∈ after.runs, other ∈ before.runs ∨ other = id

instance (id : IssueId) : IsPreorder World (RunsFor id) where
  refl := fun _ _ => Or.inl
  trans := fun _ _ _ first second other member => (second other member).elim (first other) Or.inr

theorem quiet_runsFor (id : IssueId) : Quiet (RunsFor id) where
  posts := fun _ _ _ _ => Or.inl
  edits := fun _ _ _ _ _ => Or.inl

theorem runsFor_claim (target : IssueId) : Within (RunsFor target) (claim env id) := by
  have claims (world : World) :
      RunsFor target world { world with claims := world.claims ++ [id] } := fun _ => Or.inl
  exact ((quiet_runsFor target).relabel _ _ _).bind fun _ =>
    (within_modify claims).bind fun _ => (quiet_runsFor target).comment _

theorem runsFor_task (issue : Issue) (world : World) :
    RunsFor issue.id world { world with runs := world.runs ++ [issue.id] } := fun _ member =>
  (List.mem_append.mp member).imp_right List.mem_singleton.mp

theorem runsFor_dispatch : Within (RunsFor issue.id) (dispatch env issue) :=
  (runsFor_claim issue.id).bind fun _ => (quiet_runsFor issue.id).agentTask (runsFor_task issue)

theorem runsFor_dispatchScript : Within (RunsFor issue.id) (dispatchScript env issue) := by
  unfold dispatchScript
  split
  · exact (quiet_runsFor issue.id).refuseScript false
  · split
    · exact (quiet_runsFor issue.id).refuseScript false
    · exact (runsFor_claim issue.id).bind fun _ =>
        (quiet_runsFor issue.id).scriptTask (runsFor_task issue)

/-- `pick` returns the first issue that may run, refuses the issues before it whose tier labels are
wrong and leaves the others ready; its memoised answers are the fresh ones; and the run that picks
runs nothing for another issue. -/
def PicksFirst (env : Env) (queue : List Issue) (world : World) : Prop :=
  ∃ passed result after, pick env queue world = (.ok result, after) ∧
    Picked env queue passed world result after ∧
    (∀ issue ∈ passed, ¬ Refused issue →
      after.labels issue.id = issue.labels ∧ labelReady ∈ after.labels issue.id) ∧
    pick env queue world = pickFresh env queue world ∧
    ∀ laneOpen issues, (if laneOpen then issues else issues.filter isScript) = queue →
      ∀ id ∈ (main env laneOpen issues world).2.runs,
        id ∈ world.runs ∨ ∃ issue ∈ result, issue.id = id

theorem picks_first (answers : env.Answers) (listed : Listed queue world) :
    PicksFirst env queue world := by
  have same : pick env queue world = pickFresh env queue world :=
    pickFrom_eq_pickFresh (Memo.holds_empty _) (Memo.holds_empty _)
  obtain ⟨passed, result, after, runs, picked⟩ := pickFresh_spec answers queue world
  refine ⟨passed, result, after, same.trans runs, picked, ?_, same, ?_⟩
  · intro issue member allowed
    have inQueue {issue : Issue} (member : issue ∈ passed) : issue ∈ queue := by
      obtain ⟨rest, isQueue, _⟩ := picked.first
      rw [isQueue, List.append_assoc]
      exact List.mem_append_left _ member
    have apart : ∀ other ∈ passed, Refused other → other.id ≠ issue.id := by
      intro other otherMember refused sameId
      have sameLabels : other.labels = issue.labels := by
        rw [← listed.labels other (inQueue otherMember), ← listed.labels issue (inQueue member), sameId]
      have sameTiers : other.tiers = issue.tiers := by
        unfold Issue.tiers
        rw [sameLabels]
      unfold Refused at refused allowed
      exact allowed (sameTiers ▸ refused)
    rw [picked.kept issue.id apart, listed.labels issue (inQueue member)]
    exact ⟨rfl, listed.ready issue (inQueue member)⟩
  · intro laneOpen issues isQueue id member
    have picks : pick env (if laneOpen then issues else issues.filter isScript) world =
        (.ok result, after) := by
      rw [isQueue, same, runs]
    unfold main at member
    rw [run_bind_ok picks] at member
    rw [← picked.runs]
    cases result with
    | none => exact Or.inl member
    | some issue =>
      have within : RunsFor issue.id after
          ((if isScript issue then dispatchScript env issue else dispatch env issue) after).2 := by
        split
        · exact runsFor_dispatchScript after
        · exact runsFor_dispatch after
      exact (within id member).imp_right fun isId => ⟨issue, rfl, isId.symm⟩

/-! ### A queue with all kinds of issues -/

/-- Every call answers, and one of two repositories is ready. -/
def exampleEnv : Env where
  raises := fun _ => false
  edit := fun _ _ _ => .done
  ready := fun repo => decide (repo ≠ text "lab/b")
  scriptMode := true
  scriptNamed := fun _ => true
  refNamed := fun _ => true
  checkout := fun _ => .returned true
  scriptFileOk := fun _ => true
  run := fun _ => .returned (some 0)
  report := fun _ => .returned (some ⟨some .pass, text "none"⟩)
  swapped := fun _ => .returned false
  scriptReport := fun _ => .returned (some ⟨.pass, false⟩)

def exampleIssue (repo : String) (number : ℕ) (labels : List String) : Issue :=
  ⟨⟨text repo, number⟩, [], labels.map text⟩

/-- Two refused issues, a held one, one whose repository is not ready, and two that may run. -/
def exampleQueue : List Issue :=
  [exampleIssue "lab/a" 1 ["runner:ready"], exampleIssue "lab/a" 2 ["runner:ready", "tier:b"],
    exampleIssue "lab/b" 3 ["runner:ready", "tier:a"],
    exampleIssue "lab/a" 4 ["runner:ready", "tier:c"],
    exampleIssue "lab/a" 5 ["runner:ready", "tier:a"],
    exampleIssue "lab/a" 6 ["runner:ready", "tier:a"]]

/-- The first repository is halted. -/
def exampleWorld : World where
  openIssues := [⟨text "lab/a", 9⟩]
  labels := fun id =>
    ((exampleQueue.find? fun issue => issue.id = id).map Issue.labels).getD [labelHalt]
  comments := fun _ => []
  claims := []
  runs := []

theorem exampleEnv_answers : exampleEnv.Answers :=
  ⟨fun _ => rfl, fun _ _ => ⟨1, le_refl 1, by decide, rfl⟩⟩

theorem example_picks_first : PicksFirst exampleEnv exampleQueue exampleWorld :=
  picks_first exampleEnv_answers ⟨by decide, by decide⟩

example : ((pick exampleEnv exampleQueue exampleWorld).1.toOption.join.map Issue.id) =
    some ⟨text "lab/a", 5⟩ := by decide

end Dispatcher

end LocalGpuCluster
