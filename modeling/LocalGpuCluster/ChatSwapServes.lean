/-
This file proves when a swap that ends well leaves the profile served. A run carries its settings from
`config.env` to the unit file, to systemd and to the server, so what the wait loop sees active is the
target. The shortcut of the idempotency check knows the unit file only, and what it reports is true
exactly where the server happens to be there already.
-/

import LocalGpuCluster.ChatSwap

namespace LocalGpuCluster

namespace ChatSwap

variable {maxSlotCtx : ℕ} {host : Host} {state next : State} {event : Event}

/-- All that a step can be. -/
inductive Stepped (maxSlotCtx : ℕ) (state : State) : State → Prop where
  | change (change : Change) : Stepped maxSlotCtx state ⟨state.host.change change, state.stage⟩
  | start (args : List String) : Stepped maxSlotCtx state (state.host.begin args)
  | command {request : Request} {phase : Phase} (isRunning : state.stage = .running request phase)
      (notWait : phase ≠ .wait) (answer : Answer) :
      Stepped maxSlotCtx state (state.command request answer maxSlotCtx phase)
  | poll {request : Request} (isRunning : state.stage = .running request .wait) (answered : Bool) :
      Stepped maxSlotCtx state (state.poll request answered)
  | deadline {request : Request} (isRunning : state.stage = .running request .wait) :
      Stepped maxSlotCtx state ⟨state.host, .exited (some request.target) 1⟩
  | kill : Stepped maxSlotCtx state ⟨state.host, .idle⟩

theorem stepped_of_step (stepped : step maxSlotCtx state event = some next) :
    Stepped maxSlotCtx state next := by
  unfold step at stepped
  split at stepped
  · cases stepped
    exact .change _
  · cases stepped
    exact .start _
  · cases stepped
    exact .start _
  next isRunning =>
    split at stepped
    · cases stepped
    next notWait =>
      cases stepped
      exact .command isRunning notWait _
  next isRunning =>
    cases stepped
    exact .poll isRunning _
  next isRunning =>
    cases stepped
    exact .deadline isRunning
  · cases stepped
    exact .kill
  · cases stepped

/-! ### What a run has prepared -/

/-- What the phases before this one have left of the settings. -/
def Host.Prepared (host : Host) (settings : Settings) : Phase → Prop
  | .detect | .compare _ | .preconditions | .writeConfig => True
  | .provision => host.config = settings
  | .unitWritten | .installed | .reload => host.unit = some settings
  | .restart => host.unit = some settings ∧ host.loaded = some settings
  | .wait =>
      host.unit = some settings ∧ host.loaded = some settings ∧
        host.server.startedFrom = some settings

/-- The profile of a run is known once it was compared. -/
def Phase.IsEarly : Phase → Prop
  | .detect | .compare _ => True
  | _ => False

/-- The invariant of a run: what it has prepared are the settings of its target. -/
def State.Carries (state : State) : Prop :=
  ∀ request phase, state.stage = .running request phase → ¬phase.IsEarly →
    ∃ profile, getProfile request.target = some profile ∧
      state.host.Prepared profile.settings phase

theorem carries_of_not_running (notRunning : ∀ request phase, state.stage ≠ .running request phase) :
    state.Carries := fun request phase isRunning => absurd isRunning (notRunning request phase)

theorem change_startedFrom (server : Server) (loaded unit : Option Settings) (change : Change) :
    (server.change loaded unit change).startedFrom = server.startedFrom ∨
      (server.change loaded unit change).startedFrom = loaded ∨
        (server.change loaded unit change).startedFrom = unit := by
  cases change with
  | becomesActive =>
    rw [Server.change]
    split <;> exact .inl rfl
  | fails => exact .inl rfl
  | restarts =>
    rw [Server.change]
    split
    · exact .inr (.inl rfl)
    · exact .inl rfl
  | reboots => exact .inr (.inr rfl)

/-- Nothing that the server does on its own takes back what was prepared. -/
theorem Host.Prepared.change {settings : Settings} {phase : Phase}
    (prepared : host.Prepared settings phase) (change : Change) :
    (host.change change).Prepared settings phase := by
  have loaded (isUnit : host.unit = some settings) (isLoaded : host.loaded = some settings) :
      (host.change change).loaded = some settings := by
    show (if change = .reboots then host.unit else host.loaded) = some settings
    split
    · exact isUnit
    · exact isLoaded
  cases phase with
  | detect | compare | preconditions | writeConfig => trivial
  | provision => exact prepared
  | unitWritten | installed | reload => exact prepared
  | restart => exact ⟨prepared.1, loaded prepared.1 prepared.2⟩
  | wait =>
    obtain ⟨isUnit, isLoaded, isStarted⟩ := prepared
    refine ⟨isUnit, loaded isUnit isLoaded, ?_⟩
    obtain same | same | same := change_startedFrom host.server host.loaded host.unit change
    · exact same.trans isStarted
    · exact same.trans isLoaded
    · exact same.trans isUnit

/-- A command carries the settings one phase further. -/
theorem carries_effect {request : Request} {answer : Answer} {after : Host} {phase : Phase}
    (late : ¬phase.IsEarly → ∃ profile, getProfile request.target = some profile ∧
      after.Prepared profile.settings phase) :
    (state.effect request answer after phase).Carries := by
  intro other otherPhase isRunning notEarly
  cases answer with
  | done =>
    cases isRunning
    exact late notEarly
  | refused => cases isRunning
  | failedAfter => cases isRunning

/-- What the comparison does: it ends the run, or lets it go on with a profile that is known. -/
theorem compare_cases (state : State) (request : Request) (current : String) (maxSlotCtx : ℕ) :
    (∃ code, state.compare request current maxSlotCtx =
        ⟨state.host, .exited (some request.target) code⟩ ∧
      (code = 0 → ∃ profile, getProfile request.target = some profile ∧ request.force = false ∧
        current = profile.hfRepo)) ∨
    state.compare request current maxSlotCtx = ⟨state.host, .running request .preconditions⟩ ∧
      ∃ profile, getProfile request.target = some profile := by
  unfold State.compare
  dsimp only
  cases known : getProfile request.target with
  | none => exact .inl ⟨2, rfl, fun zero => by cases zero⟩
  | some profile =>
    dsimp only
    split
    · exact .inl ⟨1, rfl, fun zero => by cases zero⟩
    · split
      next same =>
        rw [Bool.and_eq_true, Bool.not_eq_true', decide_eq_true_eq] at same
        exact .inl ⟨0, rfl, fun _ => ⟨profile, rfl, same⟩⟩
      · exact .inr ⟨rfl, profile, rfl⟩

theorem carries_command {request : Request} {phase : Phase} (carries : state.Carries)
    (isRunning : state.stage = .running request phase) (notWait : phase ≠ .wait) (answer : Answer) :
    (state.command request answer maxSlotCtx phase).Carries := by
  have late := carries request phase isRunning
  cases phase with
  | detect =>
    intro other otherPhase isNext notEarly
    cases isNext
    exact absurd trivial notEarly
  | compare current =>
    show (state.compare request current maxSlotCtx).Carries
    obtain ⟨code, ended, _⟩ | ⟨goesOn, profile, known⟩ := compare_cases state request current maxSlotCtx
    · rw [ended]
      exact carries_of_not_running fun _ _ same => by cases same
    · rw [goesOn]
      intro other otherPhase isNext _
      cases isNext
      exact ⟨profile, known, trivial⟩
  | preconditions =>
    exact carries_effect fun _ => (late not_false).imp fun _ ⟨known, _⟩ => ⟨known, trivial⟩
  | writeConfig =>
    refine carries_effect fun _ => ?_
    obtain ⟨profile, known, _⟩ := late not_false
    refine ⟨profile, known, ?_⟩
    show (getProfile request.target).elim state.host.config Profile.settings = profile.settings
    rw [known]
    rfl
  | provision =>
    exact carries_effect fun _ => (late not_false).imp fun _ ⟨known, config⟩ =>
      ⟨known, congrArg some config⟩
  | unitWritten => exact carries_effect fun _ => late not_false
  | installed => exact carries_effect fun _ => late not_false
  | reload =>
    exact carries_effect fun _ => (late not_false).imp fun _ ⟨known, unit⟩ => ⟨known, unit, unit⟩
  | restart =>
    exact carries_effect fun _ => (late not_false).imp fun _ ⟨known, unit, loaded⟩ =>
      ⟨known, unit, loaded, loaded⟩
  | wait => exact absurd rfl notWait

/-- Every step keeps the invariant. -/
theorem carries_step (carries : state.Carries) (stepped : step maxSlotCtx state event = some next) :
    next.Carries := by
  cases stepped_of_step stepped with
  | change change =>
    intro request phase isRunning notEarly
    obtain ⟨profile, known, prepared⟩ := carries request phase isRunning notEarly
    exact ⟨profile, known, prepared.change change⟩
  | start args =>
    intro request phase isRunning notEarly
    unfold Host.begin at isRunning
    split at isRunning
    · cases isRunning
      exact absurd trivial notEarly
    · cases isRunning
    · cases isRunning
  | command isRunning notWait answer => exact carries_command carries isRunning notWait answer
  | poll isRunning answered =>
    unfold State.poll
    split
    · split
      · exact carries_of_not_running fun _ _ same => by cases same
      · exact carries_of_not_running fun _ _ same => by cases same
      · exact carries
    · exact carries
  | deadline => exact carries_of_not_running fun _ _ same => by cases same
  | kill => exact carries_of_not_running fun _ _ same => by cases same

/-- Whatever happened before, a run carries the settings of its target. -/
theorem carries_run {events : List Event} (carries : state.Carries)
    (reached : run maxSlotCtx state events = some next) : next.Carries := by
  induction events generalizing state with
  | nil =>
    cases reached
    exact carries
  | cons event rest inductionHypothesis =>
    obtain ⟨between, stepped, reached⟩ := Option.bind_eq_some_iff.mp reached
    exact inductionHypothesis (carries_step carries stepped) reached

/-! ### Runs that end well -/

/-- The run is at its idempotency check, and will report the target as loaded already. -/
def State.TakesShortcut (state : State) (target : String) : Prop :=
  ∃ profile, getProfile target = some profile ∧
    state.stage = .running ⟨target, false⟩ (.compare profile.hfRepo)

/-- A run with this target ends here with code 0. -/
def EndsWell (maxSlotCtx : ℕ) (state : State) (event : Event) (next : State) (target : String) :
    Prop :=
  step maxSlotCtx state event = some next ∧ state.stage ≠ next.stage ∧
    next.stage = .exited (some target) 0

theorem not_exited_effect {request : Request} {answer : Answer} {after : Host} {phase : Phase}
    {target : String} : (state.effect request answer after phase).stage ≠ .exited (some target) 0 := by
  cases answer <;> exact fun same => by cases same

/-- A command ends a run well at its shortcut only. -/
theorem shortcut_of_command {request : Request} {phase : Phase} {answer : Answer} {target : String}
    (isRunning : state.stage = .running request phase) (notWait : phase ≠ .wait)
    (exited : (state.command request answer maxSlotCtx phase).stage = .exited (some target) 0) :
    (state.command request answer maxSlotCtx phase).host = state.host ∧ state.TakesShortcut target := by
  cases phase with
  | detect => cases exited
  | compare current =>
    have compared : state.command request answer maxSlotCtx (.compare current) =
        state.compare request current maxSlotCtx := rfl
    rw [compared] at exited ⊢
    obtain ⟨code, ended, shortcut⟩ | ⟨goesOn, _⟩ := compare_cases state request current maxSlotCtx
    · rw [ended] at exited ⊢
      cases exited
      obtain ⟨profile, known, notForced, rfl⟩ := shortcut rfl
      obtain ⟨target, force⟩ := request
      cases notForced
      exact ⟨rfl, profile, known, isRunning⟩
    · rw [goesOn] at exited
      cases exited
  | preconditions | writeConfig | provision | unitWritten | installed | reload | restart =>
    exact absurd exited not_exited_effect
  | wait => exact absurd rfl notWait

/-- The wait loop ends a run well at an active server only. -/
theorem active_of_poll {request : Request} {answered : Bool} {target : String}
    (isRunning : state.stage = .running request .wait)
    (exited : (state.poll request answered).stage = .exited (some target) 0) :
    (state.poll request answered).host = state.host ∧ request.target = target ∧
      state.host.server.status = .active := by
  unfold State.poll at exited ⊢
  split at exited
  next answers =>
    rw [if_pos answers]
    split at exited
    next active =>
      cases exited
      rw [active]
      exact ⟨rfl, rfl, rfl⟩
    · cases exited
    · rw [isRunning] at exited
      cases exited
  · rw [isRunning] at exited
    cases exited

/-- A run ends well at its shortcut or at the active server of the wait loop, and changes nothing by
it. -/
theorem endsWell_cases {target : String} (ends : EndsWell maxSlotCtx state event next target) :
    next.host = state.host ∧ (state.TakesShortcut target ∨
      (∃ force, state.stage = .running ⟨target, force⟩ .wait) ∧ state.host.server.status = .active) := by
  obtain ⟨stepped, moved, exited⟩ := ends
  cases stepped_of_step stepped with
  | change change => exact absurd rfl moved
  | start args =>
    unfold Host.begin at exited
    split at exited <;> cases exited
  | command isRunning notWait answer =>
    obtain ⟨same, shortcut⟩ := shortcut_of_command isRunning notWait exited
    exact ⟨same, .inl shortcut⟩
  | @poll request isRunning answered =>
    obtain ⟨same, rfl, active⟩ := active_of_poll isRunning exited
    exact ⟨same, .inr ⟨⟨request.force, isRunning⟩, active⟩⟩
  | deadline => cases exited
  | kill => cases exited

/-- From every state that earlier runs can leave, a run that ends well has loaded its target, unless it
took the shortcut and the target was not loaded. -/
theorem serves_iff {events : List Event} {target : String}
    (reached : run maxSlotCtx ⟨host, .idle⟩ events = some state)
    (ends : EndsWell maxSlotCtx state event next target) :
    next.host.Serves target ↔ (state.TakesShortcut target → state.host.Serves target) := by
  have carries := carries_run (carries_of_not_running fun _ _ same => by cases same) reached
  obtain ⟨same, shortcut | ⟨⟨force, waits⟩, active⟩⟩ := endsWell_cases ends
  · rw [same]
    exact ⟨fun serves _ => serves, fun serves => serves shortcut⟩
  · rw [same]
    obtain ⟨profile, known, _, _, startedFrom⟩ := carries _ _ waits not_false
    exact ⟨fun serves _ => serves, fun _ => ⟨active, profile, known, startedFrom⟩⟩

/-- A run that ends well with `--force` has loaded its target. -/
theorem serves_of_force {events : List Event} {target : String} {phase : Phase}
    (reached : run maxSlotCtx ⟨host, .idle⟩ events = some state)
    (forced : state.stage = .running ⟨target, true⟩ phase)
    (ends : EndsWell maxSlotCtx state event next target) : next.host.Serves target :=
  (serves_iff reached ends).mpr fun ⟨_, _, shortcut⟩ => by
    rw [forced] at shortcut
    cases shortcut

/-- The webhook answers 200 for a script that ended well, and for nothing else. -/
theorem returned_zero_of_status {post : Post} {result : Subprocess} (ok : post.status result = 200) :
    result = .returned 0 := by
  unfold Post.status at ok
  split at ok
  · cases ok
  · split at ok
    · cases ok
    · split at ok
      · cases ok
      · split at ok
        · cases ok
        · split at ok
          · cases ok
          · split at ok
            next returned => exact returned
            · cases ok

/-! ### A half-done swap -/

def settingsOf (name : String) : Option Settings := (getProfile name).map Profile.settings

/-- The default profile is loaded, and everything says so. -/
def defaultHost : Host where
  config := ⟨"unsloth/Qwen3.6-35B-A3B-MTP-GGUF", "UD-Q6_K_XL", "rag-qwen3.6", "1,1.3", 262144, 2, "1024",
    "q8_0", "layer", "draft-mtp", "3", "/opt/models/qwen36-mmproj/mmproj-F16.gguf", "ROCm0", true, ""⟩
  unit := settingsOf "qwen3.6"
  loaded := settingsOf "qwen3.6"
  server := ⟨.active, settingsOf "qwen3.6"⟩

/-- A swap from its start to the end of `51-lxc-amd.sh`. -/
def untilInstalled (target : String) : List Event :=
  .start [target] :: List.replicate 7 (.command .done)

/-- The host after a swap to `qwen3.8`. -/
def swappedHost : Host where
  config := (settingsOf "qwen3.8").getD defaultHost.config
  unit := settingsOf "qwen3.8"
  loaded := settingsOf "qwen3.8"
  server := ⟨.active, settingsOf "qwen3.8"⟩

/-- A whole swap ends well, with its profile served. -/
theorem serves_swappedHost : swappedHost.Serves "qwen3.8" := by
  have reached : run 262144 ⟨defaultHost, .idle⟩ (untilInstalled "qwen3.8" ++
      [.command .done, .command .done, .change .becomesActive]) =
        some ⟨swappedHost, .running ⟨"qwen3.8", false⟩ .wait⟩ := by
    decide +kernel
  have ends : EndsWell 262144 ⟨swappedHost, .running ⟨"qwen3.8", false⟩ .wait⟩ (.poll true)
      ⟨swappedHost, .exited (some "qwen3.8") 0⟩ "qwen3.8" := by
    unfold EndsWell
    decide +kernel
  exact (serves_iff reached ends).mpr fun ⟨_, _, shortcut⟩ => by cases shortcut

/-- The host after a swap to `qwen3.8` that was killed before it restarted the server. -/
def halfDoneHost : Host :=
  { defaultHost with
    config := (settingsOf "qwen3.8").getD defaultHost.config
    unit := settingsOf "qwen3.8"
    loaded := settingsOf "qwen3.8" }

/-- The next swap to the same profile ends well, and the old profile is still served. -/
theorem not_serves_after_kill :
    run 262144 ⟨defaultHost, .idle⟩ (untilInstalled "qwen3.8" ++
        [.kill, .start ["qwen3.8"], .command .done, .command .done]) =
      some ⟨halfDoneHost, .exited (some "qwen3.8") 0⟩ ∧
    ¬halfDoneHost.Serves "qwen3.8" := by
  refine ⟨by decide +kernel, ?_⟩
  rintro ⟨_, profile, known, startedFrom⟩
  have startedOld : halfDoneHost.server.startedFrom ≠ settingsOf "qwen3.8" := by decide +kernel
  exact startedOld (startedFrom.trans (congrArg (Option.map Profile.settings) known).symm)

end ChatSwap

end LocalGpuCluster
