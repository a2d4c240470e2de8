/-
This file says what invocations of `router-keys.py` make of the keys when they run one after the other.
The names after them are those that the last command about each name leaves, and no name comes twice when
none did before.
-/

import LocalGpuCluster.RouterKeys

namespace LocalGpuCluster

namespace RouterKeys

/-! ### Names -/

/-- The names of the keys. -/
def names (keys : List Json) : List Text := keys.filterMap nameOf

/-- What a command that saves makes of the names. -/
def Command.onNames (command : Command) (names : List Text) : List Text :=
  match command with
  | .add args => names ++ [args.name]
  | .revoke name => names.filter (· ≠ name)
  | .revokeAll => []

def Command.Removes (command : Command) (name : Text) : Prop :=
  command = .revoke name ∨ command = .revokeAll

theorem isNamed_eq_some {name : Text} {entry : Json} {named : Bool}
    (known : isNamed name entry = some named) : named = decide (nameOf entry = some name) := by
  cases entry with
  | obj fields => exact (Option.some.inj known).symm
  | _ => cases known

theorem not_mem_of_anyNamed {name : Text} {keys : List Json} (free : anyNamed name keys = some false) :
    name ∉ names keys := by
  induction keys with
  | nil => exact List.not_mem_nil
  | cons entry rest inductionHypothesis =>
    obtain ⟨named, known, below⟩ := Option.bind_eq_some_iff.mp free
    have isName := isNamed_eq_some known
    cases named with
    | true => cases below
    | false =>
      intro member
      obtain ⟨other, inKeys, same⟩ := List.mem_filterMap.mp member
      obtain rfl | inRest := List.mem_cons.mp inKeys
      · exact of_decide_eq_false isName.symm same
      · exact inductionHypothesis below (List.mem_filterMap.mpr ⟨other, inRest, same⟩)

theorem names_withoutNamed {name : Text} {keys kept : List Json}
    (without : withoutNamed name keys = some kept) :
    names kept = (names keys).filter (· ≠ name) := by
  induction keys generalizing kept with
  | nil =>
    obtain rfl := Option.some.inj without
    rfl
  | cons entry rest inductionHypothesis =>
    obtain ⟨named, known, below⟩ := Option.bind_eq_some_iff.mp without
    obtain ⟨keptRest, withoutRest, rfl⟩ := Option.map_eq_some_iff.mp below
    have ofRest := inductionHypothesis withoutRest
    rw [isNamed_eq_some known]
    unfold names at ofRest ⊢
    cases found : nameOf entry with
    | none =>
      rw [if_neg (by simp), List.filterMap_cons_none found, List.filterMap_cons_none found, ofRest]
    | some other =>
      rw [List.filterMap_cons_some found]
      by_cases same : other = name
      · rw [if_pos (by simp [same]), List.filter_cons_of_neg (by simp [same]), ofRest]
      · rw [if_neg (by simp [same]), List.filterMap_cons_some found,
          List.filter_cons_of_pos (by simp [same]), ofRest]

/-- The names after commands that came one after the other. -/
def namesAfter (commands : List Command) (names : List Text) : List Text :=
  commands.foldl (fun names command => command.onNames names) names

theorem namesAfter_concat (commands : List Command) (last : Command) (first : List Text) :
    namesAfter (commands ++ [last]) first = last.onNames (namesAfter commands first) :=
  List.foldl_concat ..

theorem mem_onNames {command : Command} {name : Text} {names : List Text} :
    name ∈ command.onNames names ↔
      (∃ args, command = .add args ∧ args.name = name) ∨ name ∈ names ∧ ¬ command.Removes name := by
  cases command with
  | add args =>
    constructor
    · intro member
      obtain old | isNew := List.mem_append.mp member
      · exact .inr ⟨old, by simp [Command.Removes]⟩
      · exact .inl ⟨args, rfl, (List.mem_singleton.mp isNew).symm⟩
    · rintro (⟨_, same, rfl⟩ | ⟨old, -⟩)
      · exact Command.add.inj same ▸ List.mem_append_right _ List.mem_cons_self
      · exact List.mem_append_left _ old
  | revoke other =>
    have removes : (Command.revoke other).Removes name ↔ name = other := by
      simp [Command.Removes, eq_comm]
    simp [Command.onNames, removes]
  | revokeAll => simp [Command.onNames, Command.Removes]

/-- A name is there afterwards when it was added and not removed later, or was there at first and not
removed. -/
theorem mem_namesAfter {commands : List Command} {name : Text} {first : List Text} :
    name ∈ namesAfter commands first ↔
      (∃ before args after, commands = before ++ .add args :: after ∧ args.name = name ∧
          ∀ command ∈ after, ¬ command.Removes name) ∨
        name ∈ first ∧ ∀ command ∈ commands, ¬ command.Removes name := by
  induction commands using List.reverseRecOn with
  | nil => simp [namesAfter]
  | append_singleton commands last inductionHypothesis =>
    rw [namesAfter_concat, mem_onNames, inductionHypothesis]
    constructor
    · rintro (⟨args, rfl, same⟩ | ⟨⟨before, args, after, rfl, same, stays⟩ | ⟨member, stays⟩, lastStays⟩)
      · exact .inl ⟨commands, args, [], rfl, same, fun _ member => absurd member List.not_mem_nil⟩
      · refine .inl ⟨before, args, after ++ [last], by simp, same, fun command member => ?_⟩
        obtain earlier | isLast := List.mem_append.mp member
        · exact stays command earlier
        · exact List.mem_singleton.mp isLast ▸ lastStays
      · refine .inr ⟨member, fun command member => ?_⟩
        obtain earlier | isLast := List.mem_append.mp member
        · exact stays command earlier
        · exact List.mem_singleton.mp isLast ▸ lastStays
    · rintro (⟨before, args, after, whole, same, stays⟩ | ⟨member, stays⟩)
      · obtain rfl | ⟨earlier, final, rfl⟩ := List.eq_nil_or_concat after
        · obtain ⟨-, isLast⟩ := List.append_inj' whole rfl
          exact .inl ⟨args, List.singleton_inj.mp isLast, same⟩
        · rw [List.concat_eq_append] at whole stays
          rw [← List.cons_append, ← List.append_assoc] at whole
          obtain ⟨rest, isLast⟩ := List.append_inj' whole rfl
          refine .inr ⟨.inl ⟨before, args, earlier, rest, same, fun command member =>
            stays command (List.mem_append_left _ member)⟩, ?_⟩
          exact List.singleton_inj.mp isLast ▸ stays final (by simp)
      · exact .inr ⟨.inr ⟨member, fun command member => stays command (List.mem_append_left _ member)⟩,
          stays last (by simp)⟩

section Names

variable {python : Python} {invocation : Invocation} {keys next : List Json}

/-- What an invocation that saves makes of the names; an `add` only saves a name that is new. -/
theorem names_of_saves (saves : invocation.verdict python keys = .saves next) :
    names next = invocation.command.onNames (names keys) ∧
      ∀ args, invocation.command = .add args → args.name ∉ names keys := by
  unfold Invocation.verdict at saves
  cases known : invocation.command with
  | add args =>
    rw [known] at saves
    dsimp only at saves
    split at saves
    case h_3 free =>
      obtain rfl := Verdict.saves.inj saves
      refine ⟨?_, fun other same => Command.add.inj same ▸ not_mem_of_anyNamed free⟩
      unfold names
      rw [List.filterMap_append]
      rfl
    all_goals cases saves
  | revoke name =>
    rw [known] at saves
    dsimp only at saves
    split at saves
    case h_1 => cases saves
    case h_2 kept without =>
      split at saves
      · cases saves
      · obtain rfl := Verdict.saves.inj saves
        exact ⟨names_withoutNamed without, fun _ same => Command.noConfusion same⟩
  | revokeAll =>
    rw [known] at saves
    obtain rfl := Verdict.saves.inj saves
    exact ⟨rfl, fun _ same => Command.noConfusion same⟩

theorem nodup_of_saves (saves : invocation.verdict python keys = .saves next)
    (nodup : (names keys).Nodup) : (names next).Nodup := by
  obtain ⟨same, free⟩ := names_of_saves saves
  rw [same]
  cases known : invocation.command with
  | add args => exact List.nodup_append_comm.mp (nodup.cons (free args known))
  | revoke name => exact nodup.filter _
  | revokeAll => exact List.nodup_nil

/-- An invocation that returns without saving does not return zero. -/
theorem returns_ne_zero {code : ℕ} (returns : invocation.verdict python keys = .returns code) :
    code ≠ 0 := by
  unfold Invocation.verdict at returns
  cases known : invocation.command with
  | add args =>
    rw [known] at returns
    dsimp only at returns
    split at returns <;> cases returns
    exact Nat.succ_ne_zero 1
  | revoke name =>
    rw [known] at returns
    dsimp only at returns
    split at returns
    case h_1 => cases returns
    case h_2 =>
      split at returns <;> cases returns
      exact Nat.one_ne_zero
  | revokeAll =>
    rw [known] at returns
    cases returns

end Names

/-! ### Invocations one after the other -/

/-- What invocations make of a document, one after the other. -/
def serially (python : Python) (invocation : ℕ → Invocation) (order : List ℕ)
    (document : Document) : Option Document :=
  order.foldlM (fun document who => (invocation who).apply python document) document

section Serially

variable {python : Python} {invocation : ℕ → Invocation} {document result : Document}

theorem apply_eq_some {one : Invocation} (applied : one.apply python document = some result) :
    ∃ keys, one.verdict python document.keys = .saves keys ∧ result = document.setKeys keys := by
  unfold Invocation.apply at applied
  split at applied
  case h_1 keys saves => exact ⟨keys, saves, (Option.some.inj applied).symm⟩
  all_goals cases applied

theorem serially_concat (order : List ℕ) (who : ℕ) :
    serially python invocation (order ++ [who]) document =
      (serially python invocation order document).bind (Invocation.apply python (invocation who)) := by
  unfold serially
  rw [List.foldlM_append]
  refine congrArg (Option.bind _) (funext fun middle => ?_)
  rw [List.foldlM_cons]
  simp only [List.foldlM_nil]
  exact bind_pure _

/-- No names come twice, and the names are those that the commands make one after the other. -/
theorem names_serially {order : List ℕ}
    (ran : serially python invocation order document = some result) :
    names result.keys = namesAfter (order.map fun who => (invocation who).command)
        (names document.keys) ∧
      ((names document.keys).Nodup → (names result.keys).Nodup) := by
  induction order using List.reverseRecOn generalizing result with
  | nil =>
    obtain rfl := Option.some.inj ran
    exact ⟨rfl, id⟩
  | append_singleton order who inductionHypothesis =>
    rw [serially_concat] at ran
    obtain ⟨middle, before, applied⟩ := Option.bind_eq_some_iff.mp ran
    obtain ⟨keys, saves, rfl⟩ := apply_eq_some applied
    obtain ⟨same, nodup⟩ := inductionHypothesis before
    rw [List.map_append, List.map_singleton, namesAfter_concat, ← same]
    exact ⟨(names_of_saves saves).1, fun first => nodup_of_saves saves (nodup first)⟩

end Serially

end RouterKeys

end LocalGpuCluster
