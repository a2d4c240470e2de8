/-
This file proves what `swap-webhook.py` does in every order of its threads' steps. The lock is held exactly
while one script runs, a script runs only for an authorized request and a profile of the allowlist, and an
answer of 200 stands for a script that ended with 0. While the script on disk can be opened and each version
of it has its own `mtime`, the allowlist is never older than the request that it is read for.
-/

import LocalGpuCluster.SwapWebhook

namespace LocalGpuCluster

namespace SwapWebhook

variable {Thread Time : Type} [DecidableEq Thread] [DecidableEq Time] {key : Text}
  {state next : State Thread Time} {event : Event Thread Time}

/-! ### One step -/

/-- Each way a step can go. -/
inductive Stepped (key : Text) (state : State Thread Time) :
    Event Thread Time → State Thread Time → Prop
  | got {thread : Thread} {path : Text} (idle : state.phase thread = .idle) (body : Body)
      (noSwap : ∀ profile output, body ≠ .done profile output) :
      Stepped key state (.get thread path) (state.answer thread body)
  | refused {thread : Thread} {request : Request} {body : Body} (idle : state.phase thread = .idle)
      (noSwap : ∀ profile output, body ≠ .done profile output) :
      Stepped key state (.post thread request)
        ({ state with asked := state.asked ++ [(thread, request)] }.answer thread body)
  | raised {thread : Thread} {request : Request} (idle : state.phase thread = .idle) :
      Stepped key state (.post thread request)
        { state with asked := state.asked ++ [(thread, request)] }
  | admitted {thread : Thread} {request : Request} {profile : Text}
      (idle : state.phase thread = .idle) (admits : admission key request = .goesOn profile) :
      Stepped key state (.post thread request)
        ({ state with asked := state.asked ++ [(thread, request)] }.move thread (.admitted profile))
  | gone {thread : Thread} {profile : Text} (isAdmitted : state.phase thread = .admitted profile)
      (missing : state.script = none) : Stepped key state (.stat thread)
        (state.move thread (.looked profile fallbackProfiles state.now))
  | statted {thread : Thread} {profile : Text} {script : Script Time}
      (isAdmitted : state.phase thread = .admitted profile) (isScript : state.script = some script) :
      Stepped key state (.stat thread)
        (state.move thread (.statted profile script.mtime state.now))
  | looked {thread : Thread} {opens : Bool} {profile : Text} {mtime : Time} {since : ℕ}
      (isStatted : state.phase thread = .statted profile mtime since) :
      Stepped key state (.look thread opens)
        ((refreshProfiles state mtime opens).move thread
          (.looked profile (refreshProfiles state mtime opens).cacheProfiles since))
  | turnedAway {thread : Thread} {profile : Text} {valid : List Text} {since : ℕ} {body : Body}
      (isLooked : state.phase thread = .looked profile valid since)
      (noSwap : ∀ profile output, body ≠ .done profile output) :
      Stepped key state (.acquire thread) (state.answer thread body)
  | acquired {thread : Thread} {profile : Text} {valid : List Text} {since : ℕ}
      (isLooked : state.phase thread = .looked profile valid since) (isValid : profile ∈ valid)
      (free : state.swapLock = none) : Stepped key state (.acquire thread)
        { state.move thread (.running profile) with
          swapLock := some thread
          started := state.started ++ [(thread, profile)] }
  | finished {thread : Thread} {outcome : Outcome} {profile : Text}
      (isRunning : state.phase thread = .running profile) :
      Stepped key state (.finish thread outcome)
        { state.move thread (.ran profile outcome) with
          swapLock := none
          finished := state.finished ++ [(thread, profile, outcome)] }
  | responded {thread : Thread} {profile : Text} {outcome : Outcome}
      (hasRun : state.phase thread = .ran profile outcome) :
      Stepped key state (.respond thread) (state.answer thread (bodyOf profile outcome))
  | written (script : Option (Script Time)) :
      Stepped key state (.write script) { state with scripts := state.scripts ++ [script] }

theorem noSwap_of_answers {request : Request} {body : Body} (answers : admission key request = .answers body)
    (profile output : Text) : body ≠ .done profile output := by
  rintro rfl
  unfold admission at answers
  split at answers
  · cases answers
  · split at answers
    · cases answers
    · split at answers <;> cases answers

theorem step_spec (stepped : step key state event = some next) : Stepped key state event next := by
  cases event with
  | get thread path =>
    rw [step] at stepped
    split at stepped
    next idle =>
      cases stepped
      refine .got idle _ fun profile output => ?_
      split <;> exact nofun
    next => cases stepped
  | post thread request =>
    rw [step] at stepped
    split at stepped
    next idle =>
      dsimp only at stepped
      split at stepped
      next body answers =>
        cases stepped
        exact .refused idle (noSwap_of_answers answers)
      next =>
        cases stepped
        exact .raised idle
      next profile admits =>
        cases stepped
        exact .admitted idle admits
    next => cases stepped
  | stat thread =>
    rw [step] at stepped
    split at stepped
    next profile isAdmitted =>
      split at stepped
      next missing =>
        cases stepped
        exact .gone isAdmitted missing
      next script isScript =>
        cases stepped
        exact .statted isAdmitted isScript
    next => cases stepped
  | look thread opens =>
    rw [step] at stepped
    split at stepped
    next profile mtime since isStatted =>
      cases stepped
      exact .looked isStatted
    next => cases stepped
  | acquire thread =>
    rw [step] at stepped
    split at stepped
    next profile valid since isLooked =>
      unfold acquire at stepped
      split at stepped
      next =>
        cases stepped
        exact .turnedAway isLooked fun _ _ => nofun
      next isValid =>
        split at stepped
        next =>
          cases stepped
          exact .turnedAway isLooked fun _ _ => nofun
        next free =>
          cases stepped
          exact .acquired isLooked (Classical.not_not.mp isValid) free
    next => cases stepped
  | finish thread outcome =>
    rw [step] at stepped
    split at stepped
    next profile isRunning =>
      cases stepped
      exact .finished isRunning
    next => cases stepped
  | respond thread =>
    rw [step] at stepped
    split at stepped
    next profile outcome hasRun =>
      cases stepped
      exact .responded hasRun
    next => cases stepped
  | write script =>
    cases stepped
    exact .written script

/-! ### What is known of every state -/

/-- The thread has an authorized request for the profile. -/
def Asked (key : Text) (state : State Thread Time) (thread : Thread) (profile : Text) : Prop :=
  ∃ request, (thread, request) ∈ state.asked ∧ admission key request = .goesOn profile

/-- The profile is one of the fallback, or of some version of the script. -/
def Listed (state : State Thread Time) (profile : Text) : Prop :=
  profile ∈ fallbackProfiles ∨ ∃ script, some script ∈ state.scripts ∧
    profile ∈ discoverProfiles (some script.content)

/-- What a thread has come through. -/
def Backed (key : Text) (state : State Thread Time) (thread : Thread) : Phase Time → Prop
  | .idle => True
  | .admitted profile | .statted profile _ _ => Asked key state thread profile
  | .looked profile valid _ => Asked key state thread profile ∧ ∀ name ∈ valid, Listed state name
  | .running profile => (thread, profile) ∈ state.started
  | .ran profile outcome => (thread, profile, outcome) ∈ state.finished

/-- What is noted stays noted. -/
structure Grows (state next : State Thread Time) : Prop where
  scripts : state.scripts ⊆ next.scripts
  asked : state.asked ⊆ next.asked
  started : state.started ⊆ next.started
  finished : state.finished ⊆ next.finished

omit [DecidableEq Thread] [DecidableEq Time] in
theorem Asked.mono (grows : Grows state next) {thread : Thread} {profile : Text}
    (asked : Asked key state thread profile) : Asked key next thread profile :=
  let ⟨request, member, admits⟩ := asked
  ⟨request, grows.asked member, admits⟩

omit [DecidableEq Thread] [DecidableEq Time] in
theorem Listed.mono (grows : Grows state next) {profile : Text} (listed : Listed state profile) :
    Listed next profile :=
  listed.imp_right fun ⟨script, member, names⟩ => ⟨script, grows.scripts member, names⟩

omit [DecidableEq Thread] [DecidableEq Time] in
theorem Backed.mono (grows : Grows state next) {thread : Thread} {phase : Phase Time}
    (backed : Backed key state thread phase) : Backed key next thread phase := by
  cases phase with
  | idle => trivial
  | admitted | statted => exact Asked.mono grows backed
  | looked => exact ⟨backed.1.mono grows, fun name member => (backed.2 name member).mono grows⟩
  | running => exact grows.started backed
  | ran => exact grows.finished backed

structure Honest (key : Text) (state : State Thread Time) : Prop where
  lock : ∀ thread, state.swapLock = some thread ↔ ∃ profile, state.phase thread = .running profile
  backed : ∀ thread, Backed key state thread (state.phase thread)
  cache : ∀ name ∈ state.cacheProfiles, Listed state name
  started : ∀ thread profile, (thread, profile) ∈ state.started →
    Asked key state thread profile ∧ Listed state profile
  finished : ∀ thread profile outcome, (thread, profile, outcome) ∈ state.finished →
    (thread, profile) ∈ state.started
  answered : ∀ thread profile output, (thread, .done profile output) ∈ state.answered →
    ∃ stdout stderr, (thread, profile, .exited 0 stdout stderr) ∈ state.finished ∧
      output = lastPart stdout

omit [DecidableEq Thread] [DecidableEq Time] in
theorem honest_start (script : Option (Script Time)) :
    Honest key (start script : State Thread Time) where
  lock := fun _ => ⟨nofun, fun ⟨_, running⟩ => by cases running⟩
  backed := fun _ => trivial
  cache := fun _ member => .inl member
  started := fun _ _ none => by cases none
  finished := fun _ _ _ none => by cases none
  answered := fun _ _ _ none => by cases none

omit [DecidableEq Time] in
/-- A thread moves between phases that are not the running one. -/
theorem lock_move {phase : Thread → Phase Time} {held : Option Thread} {thread : Thread}
    {moved : Phase Time}
    (lock : ∀ thread, held = some thread ↔ ∃ profile, phase thread = .running profile)
    (was : ∀ profile, phase thread ≠ .running profile) (is : ∀ profile, moved ≠ .running profile)
    (other : Thread) :
    held = some other ↔ ∃ profile, Function.update phase thread moved other = .running profile := by
  rw [lock other]
  by_cases same : other = thread
  · rw [same, Function.update_self]
    exact ⟨fun ⟨profile, running⟩ => absurd running (was profile),
      fun ⟨profile, running⟩ => absurd running (is profile)⟩
  · rw [Function.update_of_ne same]

omit [DecidableEq Time] in
theorem backed_move {phase : Thread → Phase Time} {thread : Thread} {moved : Phase Time}
    (backed : ∀ thread, Backed key state thread (phase thread)) (grows : Grows state next)
    (isBacked : Backed key next thread moved) (other : Thread) :
    Backed key next other (Function.update phase thread moved other) := by
  by_cases same : other = thread
  · rw [same, Function.update_self]
    exact isBacked
  · rw [Function.update_of_ne same]
    exact (backed other).mono grows

/-- A step of a thread that runs no script and starts none. -/
structure Quiet (key : Text) (state next : State Thread Time) (thread : Thread) : Prop where
  grows : Grows state next
  swapLock : next.swapLock = state.swapLock
  phase : next.phase = Function.update state.phase thread (next.phase thread)
  was : ∀ profile, state.phase thread ≠ .running profile
  is : ∀ profile, next.phase thread ≠ .running profile
  backed : Backed key next thread (next.phase thread)
  cache : ∀ name ∈ next.cacheProfiles, Listed next name
  started : next.started = state.started
  finished : next.finished = state.finished
  answered : ∀ other profile output, (other, .done profile output) ∈ next.answered →
    (other, .done profile output) ∈ state.answered ∨
      ∃ stdout stderr, (other, profile, .exited 0 stdout stderr) ∈ state.finished ∧
        output = lastPart stdout

omit [DecidableEq Time] in
theorem Honest.of_quiet {thread : Thread} (honest : Honest key state)
    (quiet : Quiet key state next thread) : Honest key next where
  lock := by
    rw [quiet.swapLock, quiet.phase]
    exact lock_move honest.lock quiet.was quiet.is
  backed := by
    rw [quiet.phase]
    exact backed_move honest.backed quiet.grows quiet.backed
  cache := quiet.cache
  started := by
    rw [quiet.started]
    intro other profile member
    obtain ⟨asked, listed⟩ := honest.started other profile member
    exact ⟨asked.mono quiet.grows, listed.mono quiet.grows⟩
  finished := by
    rw [quiet.started, quiet.finished]
    exact honest.finished
  answered := by
    rw [quiet.finished]
    intro other profile output member
    exact (quiet.answered other profile output member).elim (honest.answered other profile output) id

/-! ### The steps keep it -/

omit [DecidableEq Time] in
/-- A thread that runs no script answers. -/
theorem quiet_answer {thread : Thread} {body : Body} {asked : List (Thread × Request)}
    (honest : Honest key state) (grows : state.asked ⊆ asked)
    (was : ∀ profile, state.phase thread ≠ .running profile)
    (honestly : ∀ profile output, body = .done profile output →
      ∃ stdout stderr, (thread, profile, .exited 0 stdout stderr) ∈ state.finished ∧
        output = lastPart stdout) :
    Quiet key state ({ state with asked := asked }.answer thread body) thread where
  grows := ⟨List.Subset.refl _, grows, List.Subset.refl _, List.Subset.refl _⟩
  swapLock := rfl
  phase := by simp only [State.answer, State.move, Function.update_self]
  was := was
  is := by simp [State.answer, State.move]
  backed := by
    simp only [State.answer, State.move, Function.update_self]
    trivial
  cache := honest.cache
  started := rfl
  finished := rfl
  answered := by
    intro other profile output member
    obtain old | new := List.mem_append.mp member
    · exact .inl old
    · obtain ⟨rfl, same⟩ := Prod.mk.inj (List.mem_singleton.mp new)
      exact .inr (honestly profile output same.symm)

omit [DecidableEq Time] in
/-- A thread moves on to a phase in which it runs no script. -/
theorem quiet_move {thread : Thread} {phase : Phase Time} (grows : Grows state next)
    (same : next = { state with
      asked := next.asked
      cacheKey := next.cacheKey
      cacheProfiles := next.cacheProfiles })
    (was : ∀ profile, state.phase thread ≠ .running profile)
    (is : ∀ profile, phase ≠ .running profile) (backed : Backed key next thread phase)
    (cache : ∀ name ∈ next.cacheProfiles, Listed next name) :
    Quiet key state (next.move thread phase) thread where
  grows := ⟨grows.scripts, grows.asked, grows.started, grows.finished⟩
  swapLock := by rw [same]; rfl
  phase := by
    rw [same]
    simp only [State.move, Function.update_self]
  was := was
  is := by simpa [State.move] using is
  backed := by
    simp only [State.move, Function.update_self]
    exact backed.mono ⟨List.Subset.refl _, List.Subset.refl _, List.Subset.refl _, List.Subset.refl _⟩
  cache := cache
  started := by rw [same]; rfl
  finished := by rw [same]; rfl
  answered := by
    intro other profile output member
    rw [same] at member
    exact .inl member

omit [DecidableEq Thread] [DecidableEq Time] in
theorem script_mem {script : Script Time} (isScript : state.script = some script) :
    some script ∈ state.scripts := by
  obtain ⟨last, isLast, isSome⟩ := Option.bind_eq_some_iff.mp isScript
  obtain rfl : last = some script := isSome
  exact List.mem_of_getLast? isLast

omit [DecidableEq Thread] in
theorem grows_refreshProfiles (state : State Thread Time) (mtime : Time) (opens : Bool) :
    Grows state (refreshProfiles state mtime opens) := by
  unfold refreshProfiles
  split <;> exact ⟨List.Subset.refl _, List.Subset.refl _, List.Subset.refl _, List.Subset.refl _⟩

omit [DecidableEq Thread] in
theorem cache_refreshProfiles (honest : Honest key state) (mtime : Time) (opens : Bool) :
    ∀ name ∈ (refreshProfiles state mtime opens).cacheProfiles,
      Listed (refreshProfiles state mtime opens) name := by
  intro name member
  refine Listed.mono (grows_refreshProfiles state mtime opens) ?_
  unfold refreshProfiles at member
  split at member
  · exact honest.cache name member
  · obtain discovered | fallback := List.mem_append.mp member
    · split at discovered
      next =>
        cases isScript : state.script with
        | none =>
          rw [isScript] at discovered
          exact .inl discovered
        | some script =>
          rw [isScript] at discovered
          exact .inr ⟨script, script_mem isScript, discovered⟩
      next => exact .inl discovered
    · exact .inl fallback

theorem done_of_bodyOf {profile other output : Text} {outcome : Outcome}
    (same : bodyOf profile outcome = .done other output) : profile = other ∧
      ∃ stdout stderr, outcome = .exited 0 stdout stderr ∧ output = lastPart stdout := by
  cases outcome with
  | exited returncode stdout stderr =>
    rw [bodyOf] at same
    split at same
    next zero =>
      cases same
      exact ⟨rfl, stdout, stderr, by rw [zero], rfl⟩
    next => cases same
  | timedOut => cases same
  | raised message => cases same

omit [DecidableEq Thread] [DecidableEq Time] in
theorem grows_refl (state : State Thread Time) : Grows state state :=
  ⟨List.Subset.refl _, List.Subset.refl _, List.Subset.refl _, List.Subset.refl _⟩

theorem Honest.of_step (honest : Honest key state) (stepped : Stepped key state event next) :
    Honest key next := by
  have noRun {thread : Thread} {phase : Phase Time} (isAt : state.phase thread = phase)
      (is : ∀ profile, phase ≠ .running profile) (profile : Text) :
      state.phase thread ≠ .running profile := isAt ▸ is profile
  have backed {thread : Thread} {phase : Phase Time} (isAt : state.phase thread = phase) :
      Backed key state thread phase := isAt ▸ honest.backed thread
  cases stepped with
  | @got thread path idle body noSwap =>
    exact honest.of_quiet (quiet_answer honest (List.Subset.refl _) (noRun idle nofun)
      fun profile output same => absurd same (noSwap profile output))
  | @refused thread request body idle noSwap =>
    exact honest.of_quiet (quiet_answer honest (List.subset_append_left _ _) (noRun idle nofun)
      fun profile output same => absurd same (noSwap profile output))
  | @raised thread request idle =>
    have grows : Grows state { state with asked := state.asked ++ [(thread, request)] } :=
      { grows_refl state with asked := List.subset_append_left _ _ }
    exact {
      lock := honest.lock
      backed := fun other => (honest.backed other).mono grows
      cache := honest.cache
      started := fun other profile member =>
        (honest.started other profile member).imp (Asked.mono grows) id
      finished := honest.finished
      answered := honest.answered }
  | @admitted thread request profile idle admits =>
    refine honest.of_quiet (quiet_move { grows_refl state with asked := List.subset_append_left _ _ }
      rfl (noRun idle nofun) nofun ?_ honest.cache)
    exact ⟨request, List.mem_append_right _ (List.mem_singleton_self _), admits⟩
  | @gone thread profile isAdmitted missing =>
    refine honest.of_quiet (quiet_move (grows_refl state) rfl (noRun isAdmitted nofun) nofun ?_
      honest.cache)
    exact ⟨backed isAdmitted, fun name member => .inl member⟩
  | @statted thread profile script isAdmitted isScript =>
    have asked : Asked key state thread profile := backed isAdmitted
    exact honest.of_quiet (quiet_move (grows_refl state) rfl (noRun isAdmitted nofun) nofun asked
      honest.cache)
  | @looked thread opens profile mtime since isStatted =>
    have grows := grows_refreshProfiles state mtime opens
    have cache := cache_refreshProfiles honest mtime opens
    refine honest.of_quiet (quiet_move grows ?_ (noRun isStatted nofun) nofun ?_ cache)
    · unfold refreshProfiles
      split <;> rfl
    · exact ⟨Asked.mono grows (backed isStatted), cache⟩
  | @turnedAway thread profile valid since body isLooked noSwap =>
    exact honest.of_quiet (quiet_answer honest (List.Subset.refl _) (noRun isLooked nofun)
      fun profile output same => absurd same (noSwap profile output))
  | @acquired thread profile valid since isLooked isValid free =>
    have nobody (other : Thread) (name : Text) : state.phase other ≠ .running name := fun running => by
      have held := (honest.lock other).mpr ⟨name, running⟩
      rw [free] at held
      cases held
    have isBacked := backed isLooked
    refine {
      lock := fun other => ?_
      backed := backed_move honest.backed
        { grows_refl state with started := List.subset_append_left _ _ }
        (List.mem_append_right _ (List.mem_singleton_self _))
      cache := honest.cache
      started := fun other name member => ?_
      finished := fun other name outcome member =>
        List.mem_append_left _ (honest.finished other name outcome member)
      answered := honest.answered }
    · change some thread = some other ↔
        ∃ name, Function.update state.phase thread (.running profile) other = .running name
      by_cases same : other = thread
      · rw [same, Function.update_self]
        exact ⟨fun _ => ⟨profile, rfl⟩, fun _ => rfl⟩
      · rw [Function.update_of_ne same]
        exact ⟨fun isSame => absurd (Option.some.inj isSame).symm same,
          fun ⟨name, running⟩ => absurd running (nobody other name)⟩
    · obtain old | new := List.mem_append.mp member
      · exact honest.started other name old
      · obtain ⟨rfl, rfl⟩ := Prod.mk.inj (List.mem_singleton.mp new)
        exact ⟨isBacked.1, isBacked.2 _ isValid⟩
  | @finished thread outcome profile isRunning =>
    have held := (honest.lock thread).mpr ⟨profile, isRunning⟩
    refine {
      lock := fun other => ?_
      backed := backed_move honest.backed
        { grows_refl state with finished := List.subset_append_left _ _ }
        (List.mem_append_right _ (List.mem_singleton_self _))
      cache := honest.cache
      started := honest.started
      finished := fun other name ended member => ?_
      answered := fun other name output member => ?_ }
    · change none = some other ↔
        ∃ name, Function.update state.phase thread (.ran profile outcome) other = .running name
      refine iff_of_false nofun ?_
      rintro ⟨name, running⟩
      by_cases same : other = thread
      · rw [same, Function.update_self] at running
        cases running
      · rw [Function.update_of_ne same] at running
        have heldToo := (honest.lock other).mpr ⟨name, running⟩
        exact same (Option.some.inj (heldToo.symm.trans held))
    · obtain old | new := List.mem_append.mp member
      · exact honest.finished other name ended old
      · obtain ⟨rfl, same⟩ := Prod.mk.inj (List.mem_singleton.mp new)
        obtain ⟨rfl, rfl⟩ := Prod.mk.inj same
        exact backed isRunning
    · obtain ⟨stdout, stderr, ended, same⟩ := honest.answered other name output member
      exact ⟨stdout, stderr, List.mem_append_left _ ended, same⟩
  | @responded thread profile outcome hasRun =>
    refine honest.of_quiet (quiet_answer honest (List.Subset.refl _) (noRun hasRun nofun) ?_)
    intro name output same
    obtain ⟨rfl, stdout, stderr, rfl, isOutput⟩ := done_of_bodyOf same
    exact ⟨stdout, stderr, backed hasRun, isOutput⟩
  | written script =>
    have grows : Grows state { state with scripts := state.scripts ++ [script] } :=
      { grows_refl state with scripts := List.subset_append_left _ _ }
    exact {
      lock := honest.lock
      backed := fun other => (honest.backed other).mono grows
      cache := fun name member => (honest.cache name member).mono grows
      started := fun other profile member =>
        (honest.started other profile member).imp id (Listed.mono grows)
      finished := honest.finished
      answered := honest.answered }

/-- In every order of steps, the lock is held by the one thread that runs the script, every script that was
started has an authorized request of its thread for a profile of the allowlist, and every 200 of a swap is
about a script of the thread that ended with 0. -/
theorem swaps_exclusive {script : Option (Script Time)} {events : List (Event Thread Time)}
    {finish : State Thread Time} (ran : (server key).run (start script) events = some finish) :
    (∀ thread, finish.swapLock = some thread ↔ ∃ profile, finish.phase thread = .running profile) ∧
      (∀ thread profile, (thread, profile) ∈ finish.started →
        Asked key finish thread profile ∧ Listed finish profile) ∧
      ∀ thread profile output, (thread, .done profile output) ∈ finish.answered →
        (thread, profile) ∈ finish.started ∧ ∃ stdout stderr,
          (thread, profile, .exited 0 stdout stderr) ∈ finish.finished ∧ output = lastPart stdout := by
  have honest : Honest key finish := (server key).run_invariant (Honest key)
    (fun _ _ _ stepped honest => honest.of_step (step_spec stepped)) ran (honest_start script)
  refine ⟨honest.lock, honest.started, fun thread profile output member => ?_⟩
  obtain ⟨stdout, stderr, ended, same⟩ := honest.answered thread profile output member
  exact ⟨honest.finished thread profile _ ended, stdout, stderr, ended, same⟩

/-! ### How old the allowlist is -/

section Versions

variable {scripts : List (Option (Script Time))} {version since : ℕ} {names : List Text}

/-- The script in one of its states. -/
def versionAt (scripts : List (Option (Script Time))) (version : ℕ) : Option (Script Time) :=
  scripts[version]?.join

/-- The allowlist of a version of the script. -/
def namesAt (scripts : List (Option (Script Time))) (version : ℕ) : List Text :=
  discoverProfiles ((versionAt scripts version).map Script.content) ++ fallbackProfiles

/-- The names are those of a version that is no older than the given one. -/
def NoOlder (scripts : List (Option (Script Time))) (since : ℕ) (names : List Text) : Prop :=
  ∃ version, since ≤ version ∧ version < scripts.length ∧
    ∀ name, name ∈ names ↔ name ∈ namesAt scripts version

omit [DecidableEq Time] in
theorem versionAt_append (bound : version < scripts.length) (script : Option (Script Time)) :
    versionAt (scripts ++ [script]) version = versionAt scripts version := by
  unfold versionAt
  rw [List.getElem?_append_left bound]

omit [DecidableEq Time] in
theorem versionAt_length (scripts : List (Option (Script Time))) (script : Option (Script Time)) :
    versionAt (scripts ++ [script]) scripts.length = script := by
  unfold versionAt
  rw [List.getElem?_concat_length]
  rfl

omit [DecidableEq Time] in
theorem lt_of_versionAt {script : Script Time} (found : versionAt scripts version = some script) :
    version < scripts.length := by
  by_contra beyond
  unfold versionAt at found
  rw [List.getElem?_eq_none (Nat.not_lt.mp beyond)] at found
  cases found

omit [DecidableEq Time] in
theorem mem_of_versionAt {script : Script Time} (found : versionAt scripts version = some script) :
    some script ∈ scripts := by
  obtain ⟨entry, isEntry, isSome⟩ := Option.bind_eq_some_iff.mp found
  obtain rfl : entry = some script := isSome
  exact List.mem_of_getElem? isEntry

omit [DecidableEq Time] in
theorem NoOlder.append (noOlder : NoOlder scripts since names) (script : Option (Script Time)) :
    NoOlder (scripts ++ [script]) since names := by
  obtain ⟨version, notBefore, bound, same⟩ := noOlder
  refine ⟨version, notBefore, ?_, fun name => ?_⟩
  · rw [List.length_append]
    exact Nat.lt_add_right _ bound
  · rw [namesAt, versionAt_append bound]
    exact same name

end Versions

/-- A version of the script comes with a new `mtime`, and the script on disk can be opened. -/
def Careful (state : State Thread Time) : Event Thread Time → Prop
  | .write (some script) => ∀ old, some old ∈ state.scripts → old.mtime ≠ script.mtime
  | .look _ opens => opens = true
  | _ => True

/-- What is known of the versions. -/
structure Current (state : State Thread Time) : Prop where
  some_script : state.scripts ≠ []
  mtimes : ∀ first second script other, versionAt state.scripts first = some script →
    versionAt state.scripts second = some other → script.mtime = other.mtime → first = second
  cache : ∀ mtime, state.cacheKey = some mtime → ∃ since script,
    versionAt state.scripts since = some script ∧ script.mtime = mtime ∧
      NoOlder state.scripts since state.cacheProfiles
  statted : ∀ thread profile mtime since, state.phase thread = .statted profile mtime since →
    ∃ script, versionAt state.scripts since = some script ∧ script.mtime = mtime
  looked : ∀ thread profile valid since, state.phase thread = .looked profile valid since →
    NoOlder state.scripts since valid

omit [DecidableEq Thread] [DecidableEq Time] in
theorem current_start (script : Option (Script Time)) :
    Current (start script : State Thread Time) where
  some_script := List.cons_ne_nil _ _
  mtimes := fun first second _ _ isFirst isSecond _ => by
    have boundFirst : first < 1 := lt_of_versionAt isFirst
    have boundSecond : second < 1 := lt_of_versionAt isSecond
    omega
  cache := nofun
  statted := nofun
  looked := nofun

omit [DecidableEq Thread] [DecidableEq Time] in
theorem versionAt_now (state : State Thread Time) :
    versionAt state.scripts state.now = state.script := by
  unfold versionAt State.now State.script
  rw [List.getLast?_eq_getElem?]

omit [DecidableEq Thread] [DecidableEq Time] in
/-- The allowlist of the script as it is now. -/
theorem noOlder_now (current : Current state) {since : ℕ} (notAfter : since ≤ state.now)
    {names : List Text} (same : ∀ name, name ∈ names ↔ name ∈ namesAt state.scripts state.now) :
    NoOlder state.scripts since names :=
  ⟨state.now, notAfter, Nat.sub_lt (List.length_pos_iff.mpr current.some_script) Nat.one_pos, same⟩

omit [DecidableEq Time] in
/-- A thread moves, and neither the script nor the cache changes. -/
theorem Current.move (current : Current state) {thread : Thread} {moved : Phase Time}
    (scripts : next.scripts = state.scripts) (cacheKey : next.cacheKey = state.cacheKey)
    (cacheProfiles : next.cacheProfiles = state.cacheProfiles)
    (phase : next.phase = Function.update state.phase thread moved)
    (statted : ∀ profile mtime since, moved = .statted profile mtime since →
      ∃ script, versionAt state.scripts since = some script ∧ script.mtime = mtime)
    (looked : ∀ profile valid since, moved = .looked profile valid since →
      NoOlder state.scripts since valid) : Current next where
  some_script := scripts ▸ current.some_script
  mtimes := scripts ▸ current.mtimes
  cache := by
    rw [scripts, cacheKey, cacheProfiles]
    exact current.cache
  statted := by
    rw [scripts, phase]
    intro other profile mtime since isAt
    by_cases same : other = thread
    · rw [same, Function.update_self] at isAt
      exact statted profile mtime since isAt
    · rw [Function.update_of_ne same] at isAt
      exact current.statted other profile mtime since isAt
  looked := by
    rw [scripts, phase]
    intro other profile valid since isAt
    by_cases same : other = thread
    · rw [same, Function.update_self] at isAt
      exact looked profile valid since isAt
    · rw [Function.update_of_ne same] at isAt
      exact current.looked other profile valid since isAt

omit [DecidableEq Thread] in
/-- What the block under `_profiles_lock` leaves is no older than the `stat` before it. -/
theorem noOlder_refreshProfiles (current : Current state) {mtime : Time} {since : ℕ}
    {script : Script Time} (isVersion : versionAt state.scripts since = some script)
    (isTime : script.mtime = mtime) :
    NoOlder state.scripts since (refreshProfiles state mtime true).cacheProfiles := by
  unfold refreshProfiles
  split
  next cached =>
    obtain ⟨first, other, isOther, otherTime, noOlder⟩ := current.cache mtime cached
    rw [current.mtimes since first script other isVersion isOther (isTime.trans otherTime.symm)]
    exact noOlder
  next =>
    have notAfter : since ≤ state.now := Nat.le_sub_one_of_lt (lt_of_versionAt isVersion)
    refine noOlder_now current notAfter fun name => ?_
    rw [namesAt, versionAt_now, if_pos rfl]

theorem Current.refreshed (current : Current state) {thread : Thread} {profile : Text} {mtime : Time}
    {since : ℕ} (isStatted : state.phase thread = .statted profile mtime since) :
    Current ((refreshProfiles state mtime true).move thread
      (.looked profile (refreshProfiles state mtime true).cacheProfiles since)) := by
  obtain ⟨script, isVersion, isTime⟩ := current.statted thread profile mtime since isStatted
  have noOlder := noOlder_refreshProfiles current isVersion isTime
  have same : (refreshProfiles state mtime true).scripts = state.scripts ∧
      (refreshProfiles state mtime true).phase = state.phase ∧
      (refreshProfiles state mtime true).cacheKey = some mtime := by
    unfold refreshProfiles
    split
    next cached => exact ⟨rfl, rfl, cached⟩
    next => exact ⟨rfl, rfl, rfl⟩
  obtain ⟨scripts, phase, cacheKey⟩ := same
  have kept : Current (refreshProfiles state mtime true) := {
    some_script := scripts ▸ current.some_script
    mtimes := scripts ▸ current.mtimes
    cache := by
      rw [scripts, cacheKey]
      rintro other ⟨rfl⟩
      exact ⟨since, script, isVersion, isTime, noOlder⟩
    statted := by
      rw [scripts, phase]
      exact current.statted
    looked := by
      rw [scripts, phase]
      exact current.looked }
  refine kept.move rfl rfl rfl rfl (fun _ _ _ isAt => by cases isAt) fun other valid first isAt => ?_
  cases isAt
  rw [scripts]
  exact noOlder

omit [DecidableEq Thread] [DecidableEq Time] in
theorem Current.written (current : Current state) {script : Option (Script Time)}
    (careful : ∀ new, script = some new → ∀ old, some old ∈ state.scripts → old.mtime ≠ new.mtime) :
    Current { state with scripts := state.scripts ++ [script] } := by
  have place {version : ℕ} {found : Script Time}
      (isVersion : versionAt (state.scripts ++ [script]) version = some found) :
      versionAt state.scripts version = some found ∨
        version = state.scripts.length ∧ script = some found := by
    have bound := lt_of_versionAt isVersion
    rw [List.length_append, List.length_singleton] at bound
    obtain old | new := Nat.lt_or_eq_of_le (Nat.le_of_lt_succ bound)
    · rw [versionAt_append old] at isVersion
      exact .inl isVersion
    · rw [new, versionAt_length] at isVersion
      exact .inr ⟨new, isVersion⟩
  refine {
    some_script := List.append_ne_nil_of_right_ne_nil _ (List.cons_ne_nil _ _)
    mtimes := fun first second one other isFirst isSecond sameTime => ?_
    cache := fun mtime cached => ?_
    statted := fun thread profile mtime since isAt => ?_
    looked := fun thread profile valid since isAt =>
      (current.looked thread profile valid since isAt).append script }
  · obtain oldFirst | ⟨rfl, newFirst⟩ := place isFirst <;>
      obtain oldSecond | ⟨rfl, newSecond⟩ := place isSecond
    · exact current.mtimes first second one other oldFirst oldSecond sameTime
    · exact absurd sameTime (careful other newSecond one (mem_of_versionAt oldFirst))
    · exact absurd sameTime.symm (careful one newFirst other (mem_of_versionAt oldSecond))
    · rfl
  · obtain ⟨since, found, isVersion, isTime, noOlder⟩ := current.cache mtime cached
    refine ⟨since, found, ?_, isTime, noOlder.append script⟩
    exact (versionAt_append (lt_of_versionAt isVersion) script).trans isVersion
  · obtain ⟨found, isVersion, isTime⟩ := current.statted thread profile mtime since isAt
    exact ⟨found, (versionAt_append (lt_of_versionAt isVersion) script).trans isVersion, isTime⟩

theorem Current.of_step (current : Current state) (careful : Careful state event)
    (stepped : Stepped key state event next) : Current next := by
  cases stepped with
  | got | refused | turnedAway | responded | admitted | acquired | finished =>
    exact current.move rfl rfl rfl rfl nofun nofun
  | @raised thread request idle =>
    refine current.move rfl rfl rfl (Function.update_eq_self thread _).symm ?_ ?_
    · intro profile mtime since isAt
      cases idle.symm.trans isAt
    · intro profile valid since isAt
      cases idle.symm.trans isAt
  | @gone thread profile isAdmitted missing =>
    refine current.move rfl rfl rfl rfl nofun fun other valid since isAt => ?_
    cases isAt
    refine noOlder_now current le_rfl fun name => ?_
    rw [namesAt, versionAt_now, missing]
    exact (or_self_iff.symm.trans List.mem_append.symm)
  | @statted thread profile script isAdmitted isScript =>
    refine current.move rfl rfl rfl rfl (fun other mtime since isAt => ?_) nofun
    cases isAt
    exact ⟨script, (versionAt_now state).trans isScript, rfl⟩
  | @looked thread opens profile mtime since isStatted =>
    obtain rfl : opens = true := careful
    exact current.refreshed isStatted
  | written script =>
    refine current.written fun new isNew => ?_
    subst isNew
    exact careful

/-- While each version of the script has its own `mtime` and can be opened, the allowlist that a handler
decides by is that of a version no older than the one at its `stat`. -/
theorem allowlist_current {script : Option (Script Time)} {events : List (Event Thread Time)}
    {finish : State Thread Time} (careful : (server key).Guarded Careful (start script) events)
    (ran : (server key).run (start script) events = some finish) :
    ∀ thread profile valid since, finish.phase thread = .looked profile valid since →
      ∃ version, since ≤ version ∧ version < finish.scripts.length ∧
        ∀ name, name ∈ valid ↔ name ∈ namesAt finish.scripts version :=
  ((server key).run_invariant_of_guarded Careful Current
    (fun _ _ _ careful stepped current => current.of_step careful (step_spec stepped)) careful ran
    (current_start script)).looked

/-! ### A profile that is new in the script -/

/-- A script with these profiles. -/
def scriptWith (mtime : ℕ) (names : String) : Script ℕ := ⟨mtime, text ("PROFILE_NAMES=(" ++ names ++ ")")⟩

/-- A request with the key `k`. -/
def swapTo (profile : String) : Request := ⟨text "/swap", some (text "Bearer k"), [text profile]⟩

/-- The script gets a profile, and two threads ask for it. -/
def newProfile : List (Event ℕ ℕ) :=
  [.post 0 (swapTo "new"), .write (some (scriptWith 2 "old new")), .stat 0, .look 0 true,
    .post 1 (swapTo "new"), .stat 1, .look 1 true]

/-- Only one of them runs the script. -/
def oneSwap : List (Event ℕ ℕ) :=
  newProfile ++ [.acquire 0, .acquire 1, .finish 0 (.exited 0 (text "done") []), .respond 0]

theorem oneSwap_exclusive : ∃ finish : State ℕ ℕ,
    (server (text "k")).run (start (some (scriptWith 1 "old"))) oneSwap = some finish ∧
      finish.answered = [(1, .swapInProgress), (0, .done (text "new") (text "done"))] ∧
      (∀ thread, finish.swapLock = some thread ↔ ∃ profile, finish.phase thread = .running profile) ∧
      (∀ thread profile, (thread, profile) ∈ finish.started →
        Asked (text "k") finish thread profile ∧ Listed finish profile) ∧
      ∀ thread profile output, (thread, .done profile output) ∈ finish.answered →
        (thread, profile) ∈ finish.started ∧ ∃ stdout stderr,
          (thread, profile, .exited 0 stdout stderr) ∈ finish.finished ∧ output = lastPart stdout :=
  ⟨_, rfl, rfl, swaps_exclusive (rfl : (server (text "k")).run _ oneSwap = some _)⟩

theorem newProfile_current : ∃ finish : State ℕ ℕ,
    (server (text "k")).run (start (some (scriptWith 1 "old"))) newProfile = some finish ∧
      ∀ thread profile valid since, finish.phase thread = .looked profile valid since →
        ∃ version, since ≤ version ∧ version < finish.scripts.length ∧
          ∀ name, name ∈ valid ↔ name ∈ namesAt finish.scripts version := by
  have careful : (server (text "k")).Guarded Careful (start (some (scriptWith 1 "old"))) newProfile := by
    refine (server _).guarded_cons trivial rfl <| (server _).guarded_cons ?_ rfl <|
      (server _).guarded_cons trivial rfl <| (server _).guarded_cons rfl rfl <|
      (server _).guarded_cons trivial rfl <| (server _).guarded_cons trivial rfl <|
      (server _).guarded_cons rfl rfl trivial
    intro old member same
    cases List.mem_singleton.mp member
    cases same
  exact ⟨_, rfl, allowlist_current careful rfl⟩

end SwapWebhook

end LocalGpuCluster
