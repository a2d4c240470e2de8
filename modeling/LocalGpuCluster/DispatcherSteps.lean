/-
This file proves what the calls of the dispatcher do to GitHub. A label edit that succeeds at one of its
tries has made the whole change, whatever the tries before it applied.
-/

import LocalGpuCluster.Dispatcher
import LocalGpuCluster.Interaction

namespace LocalGpuCluster

namespace Dispatcher

open Interaction (run_bind run_bind_ok run_bind_error)

variable {env : Env} {id other : IssueId} {edit : Edit} {remove add : List Text} {world : World}

/-! ### Steps one after another -/

theorem gh_ok {call : Call} (answers : env.raises call = false) :
    gh env call world = (.ok (), world) := by
  rw [gh, answers]
  rfl

theorem gh_error {call : Call} (raises : env.raises call = true) :
    gh env call world = (.error (), world) := by
  rw [gh, raises]
  rfl

theorem comment_ok {posted : Comment} (answers : env.raises (.comment id posted) = false) :
    comment env id posted world = (.ok (), world.post id posted) :=
  run_bind_ok (gh_ok answers)

theorem comment_error {posted : Comment} (raises : env.raises (.comment id posted) = true) :
    comment env id posted world = (.error (), world) :=
  run_bind_error (gh_error raises)

/-! ### Label edits -/

theorem mem_editLabels {label : Text} {labels : List Text} :
    label ∈ editLabels remove add labels ↔ label ∈ labels ∧ label ∉ remove ∨ label ∈ add := by
  simp only [editLabels, List.mem_append, List.mem_filter, decide_eq_true_eq]
  tauto

/-- What a label edit leaves. -/
structure Relabelled (id : IssueId) (remove add : List Text) (before after : World) : Prop where
  mem_iff : ∀ label, label ∈ after.labels id ↔ label ∈ before.labels id ∧ label ∉ remove ∨ label ∈ add
  others : ∀ other, other ≠ id → after.labels other = before.labels other
  rest : after = { before with labels := after.labels }

theorem relabelled_edit (world : World) (id : IssueId) (remove add : List Text) :
    Relabelled id remove add world (world.edit id remove add) where
  mem_iff := fun label => by
    show label ∈ Function.update world.labels id _ id ↔ _
    rw [Function.update_self, mem_editLabels]
  others := fun _ apart => Function.update_of_ne apart _ _
  rest := rfl

/-- A part of the change does not alter what the whole change leads to. -/
theorem Relabelled.of_partial {middle after : World} {applied : Text → Bool}
    (first : Relabelled id (remove.filter applied) (add.filter applied) world middle)
    (second : Relabelled id remove add middle after) : Relabelled id remove add world after where
  mem_iff := fun label => by
    rw [second.mem_iff, first.mem_iff, List.mem_filter, List.mem_filter]
    tauto
  others := fun other apart => (second.others other apart).trans (first.others other apart)
  rest := by rw [second.rest, first.rest]

/-- What is still missing of the change is the rest of it. -/
theorem Relabelled.of_missing {middle after : World} (disjoint : ∀ label ∈ add, label ∉ remove)
    (second : Relabelled id (remove.filter (· ∈ middle.labels id))
      (add.filter (· ∉ middle.labels id)) middle after) :
    Relabelled id remove add middle after where
  mem_iff := fun label => by
    rw [second.mem_iff, List.mem_filter, List.mem_filter, decide_eq_true_eq, decide_eq_true_eq]
    have apart := disjoint label
    tauto
  others := second.others
  rest := second.rest

theorem relabelled_of_nothing_missing (disjoint : ∀ label ∈ add, label ∉ remove)
    (nothing : ((remove.filter (· ∈ world.labels id)).isEmpty &&
      (add.filter (· ∉ world.labels id)).isEmpty) = true) : Relabelled id remove add world world := by
  rw [Bool.and_eq_true, List.isEmpty_iff, List.isEmpty_iff] at nothing
  refine Relabelled.of_missing disjoint ?_
  rw [nothing.1, nothing.2]
  exact ⟨fun label => by simp, fun _ _ => rfl, rfl⟩

/-- A label edit succeeds at one of its tries. -/
def Env.EditSucceeds (env : Env) (id : IssueId) (edit : Edit) : Prop :=
  ∃ attempt, 1 ≤ attempt ∧ attempt ≤ relabelTries ∧ env.edit id edit attempt = .done

/-- The change is made, or each of the tries from this one on fails. -/
theorem relabelFrom_ends {left : ℕ} (tries : left < relabelTries)
    (disjoint : ∀ label ∈ add, label ∉ remove) :
    (∃ after, relabelFrom env id edit left remove add world = (.ok (), after) ∧
      Relabelled id remove add world after) ∨
    ∃ after, relabelFrom env id edit left remove add world = (.error (), after) ∧
      ∀ attempt, relabelTries - left ≤ attempt → attempt ≤ relabelTries →
        ∃ applied, env.edit id edit attempt = .failed applied := by
  induction left generalizing remove add world with
  | zero =>
    cases answer : env.edit id edit (relabelTries - 0) with
    | done =>
      refine Or.inl ⟨_, ?_, relabelled_edit world id remove add⟩
      unfold relabelFrom
      simp only [answer]
      rfl
    | failed applied =>
      refine Or.inr ⟨world.edit id (remove.filter applied) (add.filter applied), ?_, ?_⟩
      · unfold relabelFrom
        simp only [answer]
        rfl
      · intro attempt least most
        have last : attempt = relabelTries - 0 := by omega
        exact ⟨applied, by rw [last, answer]⟩
  | succ left inductionHypothesis =>
    cases answer : env.edit id edit (relabelTries - (left + 1)) with
    | done =>
      refine Or.inl ⟨_, ?_, relabelled_edit world id remove add⟩
      unfold relabelFrom
      simp only [answer]
      rfl
    | failed applied =>
      have part := relabelled_edit world id (remove.filter applied) (add.filter applied)
      have unfolded : relabelFrom env id edit (left + 1) remove add world =
          (if env.raises (.viewLabels id edit (relabelTries - (left + 1))) then
            relabelFrom env id edit left remove add
          else do
            let labels := (← get).labels id
            let missing := add.filter (· ∉ labels)
            let kept := remove.filter (· ∈ labels)
            if kept.isEmpty && missing.isEmpty then pure ()
            else relabelFrom env id edit left kept missing)
          (world.edit id (remove.filter applied) (add.filter applied)) := by
        rw [relabelFrom]
        simp only [answer]
        rfl
      have earlier (later : ∀ attempt, relabelTries - left ≤ attempt → attempt ≤ relabelTries →
          ∃ applied, env.edit id edit attempt = .failed applied) (attempt : ℕ)
          (least : relabelTries - (left + 1) ≤ attempt) (most : attempt ≤ relabelTries) :
          ∃ applied, env.edit id edit attempt = .failed applied := by
        by_cases this : attempt = relabelTries - (left + 1)
        · exact ⟨applied, by rw [this, answer]⟩
        · exact later attempt (by omega) most
      rw [unfolded]
      split
      · obtain ⟨after, runs, whole⟩ | ⟨after, raises, later⟩ :=
          @inductionHypothesis remove add (world.edit id (remove.filter applied) (add.filter applied))
            (by omega) disjoint
        · exact Or.inl ⟨after, runs, part.of_partial whole⟩
        · exact Or.inr ⟨after, raises, earlier later⟩
      · rw [run_bind_ok (show (get : Dispatch World) _ = (.ok _, _) from rfl)]
        split
        · rename_i nothing
          exact Or.inl ⟨_, rfl, part.of_partial (relabelled_of_nothing_missing disjoint nothing)⟩
        · obtain ⟨after, runs, whole⟩ | ⟨after, raises, later⟩ :=
            @inductionHypothesis _ _ (world.edit id (remove.filter applied) (add.filter applied))
              (by omega) fun label isMissing isKept =>
                disjoint label (List.mem_filter.mp isMissing).1 (List.mem_filter.mp isKept).1
          · exact Or.inl ⟨after, runs, part.of_partial (whole.of_missing disjoint)⟩
          · exact Or.inr ⟨after, raises, earlier later⟩

/-- A label edit that succeeds within its tries makes the whole change. -/
theorem relabel_spec (succeeds : env.EditSucceeds id edit)
    (disjoint : ∀ label ∈ add, label ∉ remove) (world : World) :
    ∃ after, relabel env id edit remove add world = (.ok (), after) ∧
      Relabelled id remove add world after := by
  obtain made | ⟨_, _, fails⟩ :=
    @relabelFrom_ends env id edit remove add world (relabelTries - 1) (by decide) disjoint
  · exact made
  · obtain ⟨attempt, least, most, done⟩ := succeeds
    obtain ⟨applied, failed⟩ := fails attempt least most
    rw [done] at failed
    cases failed

/-! ### What steps keep -/

/-- Whatever a step meets, the worlds before and after it are related. -/
def Within {Result : Type} (relation : World → World → Prop) (action : Dispatch Result) : Prop :=
  ∀ world, relation world (action world).2

section Within

variable {relation : World → World → Prop} [IsPreorder World relation] {First Second : Type}

theorem within_pure (result : First) : Within relation (pure result : Dispatch First) :=
  fun world => refl world

theorem within_throw : Within relation (throw () : Dispatch First) := fun world => refl world

theorem Within.bind {action : Dispatch First} {next : First → Dispatch Second}
    (first : Within relation action) (second : ∀ result, Within relation (next result)) :
    Within relation (action >>= next) := by
  intro world
  have step := first world
  rw [run_bind]
  revert step
  obtain ⟨_ | result, after⟩ := action world
  · exact id
  · exact fun step => IsTrans.trans _ _ _ step (second result after)

theorem within_get (answer : Answer First) : Within relation answer.get := by
  cases answer with
  | raised => exact within_throw
  | returned result => exact within_pure result

theorem within_gh (call : Call) : Within relation (gh env call) := by
  unfold gh
  split
  · exact within_throw
  · exact within_pure ()

omit [IsPreorder World relation] in
theorem within_modify {change : World → World} (kept : ∀ world, relation world (change world)) :
    Within relation (modify change : Dispatch Unit) := kept

theorem within_comment {posted : Comment} (kept : ∀ world, relation world (world.post id posted)) :
    Within relation (comment env id posted) :=
  (within_gh _).bind fun _ => within_modify kept

theorem within_relabelFrom {left : ℕ} (kept : ∀ world fewer less, fewer ⊆ remove → less ⊆ add →
    relation world (world.edit id fewer less)) :
    Within relation (relabelFrom env id edit left remove add) := by
  induction left generalizing remove add with
  | zero =>
    unfold relabelFrom
    dsimp only
    split
    · exact within_modify fun world => kept world _ _ (List.Subset.refl _) (List.Subset.refl _)
    · refine (within_modify fun world => ?_).bind fun _ => within_throw
      exact kept world _ _ List.filter_sublist.subset List.filter_sublist.subset
  | succ left inductionHypothesis =>
    unfold relabelFrom
    dsimp only
    split
    · exact within_modify fun world => kept world _ _ (List.Subset.refl _) (List.Subset.refl _)
    · refine (within_modify fun world => ?_).bind fun _ => ?_
      · exact kept world _ _ List.filter_sublist.subset List.filter_sublist.subset
      · split
        · exact inductionHypothesis kept
        · refine Within.bind (fun world => refl world) fun now => ?_
          split
          · exact within_pure ()
          · exact inductionHypothesis fun world fewer less isFewer isLess => kept world fewer less
              (List.Subset.trans isFewer List.filter_sublist.subset)
              (List.Subset.trans isLess List.filter_sublist.subset)

theorem within_relabel (kept : ∀ world fewer less, fewer ⊆ remove → less ⊆ add →
    relation world (world.edit id fewer less)) : Within relation (relabel env id edit remove add) :=
  within_relabelFrom kept

end Within

end Dispatcher

end LocalGpuCluster
