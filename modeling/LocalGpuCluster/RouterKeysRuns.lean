/-
This file proves what holds of the keys file, whatever order the operations of the invocations come in.
Only the holder of the lock is between `_load` and `os.replace`, so what it saves is made from what the
file holds then, and the file is always what the invocations that saved make of it one after the other.
An `add` whose `--out` file is made leaves it behind when a later operation fails, and nothing undoes what
was saved when the report or the closing of the lock file fails. Runs without these failures are
transactional.
-/

import LocalGpuCluster.RouterKeysSerial

namespace LocalGpuCluster

namespace RouterKeys

/-! ### Where an invocation is -/

namespace Phase

/-- The lock is held. -/
def inside : Phase → Bool
  | .locked | .creating _ | .writing _ | .saving _ | .dumping _ _ | .replacing _ _ | .cleaning _ => true
  | .started | .waiting | .reporting | .closing _ | .ended _ => false

/-- The document that is going to be saved. -/
def pending : Phase → Option Document
  | .creating next | .writing next | .saving next | .dumping next _ | .replacing next _ => some next
  | .started | .waiting | .locked | .cleaning _ | .reporting | .closing _ | .ended _ => none

/-- The temporary file. -/
def temp? : Phase → Option Text
  | .dumping _ temp | .replacing _ temp | .cleaning temp => some temp
  | .started | .waiting | .locked | .creating _ | .writing _ | .saving _ | .reporting | .closing _
  | .ended _ => none

/-- The keys file is replaced, and nothing failed afterwards. -/
def saved : Phase → Bool
  | .reporting | .closing (.returned 0) | .ended (.returned 0) => true
  | _ => false

/-- The invocation has failed. -/
def failed : Phase → Bool
  | .ended (.returned code) => code ≠ 0
  | .ended .raised => true
  | _ => false

end Phase

namespace Process

/-- The `--out` file that an `add` has written. -/
def written (process : Process) : Option Text :=
  match process.phase with
  | .saving _ | .dumping _ _ | .replacing _ _ | .reporting | .closing (.returned 0)
  | .ended (.returned 0) => process.invocation.out
  | _ => none

/-- The `--out` file that an `add` has made. -/
def made (process : Process) : Option Text :=
  match process.phase with
  | .writing _ => process.invocation.out
  | _ => process.written

/-- The files of an invocation. -/
def uses (process : Process) : List Text := process.made.toList ++ process.phase.temp?.toList

end Process

/-! ### Failures that are not undone -/

section Runs

variable (python : Python) (keysFile : Text)

/-- The operation that comes next makes no file that is the keys file or, for the lock file, the `--out`
file; it does not fail where `add` has made its `--out` file, nor where the keys are saved. -/
def Undoable (world : World) (event : Event) : Prop :=
  match world.phase event.who, event.happening with
  | .started, .done _ =>
      (world.files (lockFile keysFile)).isNone →
        (world.invocation event.who).out ≠ some (lockFile keysFile)
  | .creating _, .done _ =>
      (world.files keysFile).isNone → (world.invocation event.who).out ≠ some keysFile
  | .saving _, .done temp => (world.files keysFile).isNone → temp ≠ keysFile
  | .writing _, .fails _ | .saving _, .fails _ | .dumping _ _, .fails _ | .replacing _ _, .fails _ =>
      (world.invocation event.who).out = none
  | .reporting, .fails _ | .closing (.returned 0), .fails _ => False
  | _, _ => True

/-- No operation of an invocation in the run changes a path. -/
def Untouched (start : World) (events : List Event) (who : ℕ) (path : Text) : Prop :=
  ∀ before happening after middle next, events = before ++ ⟨who, happening⟩ :: after →
    (routerKeys python keysFile).run start before = some middle →
    step python keysFile middle ⟨who, happening⟩ = some next → next.files path = middle.files path

/-- The document is what the invocations that saved make of the first one, in some order. Those that
returned zero have saved, and one that has saved is about to return zero. -/
structure Serialized (start finish : World) (document result : Document) (order : List ℕ) : Prop where
  nodup : order.Nodup
  saved : ∀ who, who ∈ order ↔ (finish.phase who).saved = true
  ran : serially python start.invocation order document = some result
  /-- No name comes twice. -/
  unique : (names document.keys).Nodup → (names result.keys).Nodup
  /-- No `add` is lost, and a name that was removed comes back only when it is added again. -/
  named : ∀ name, name ∈ names result.keys ↔
    (∃ before args after,
        order.map (fun who => (start.invocation who).command) = before ++ .add args :: after ∧
          args.name = name ∧ ∀ command ∈ after, ¬ command.Removes name) ∨
      name ∈ names document.keys ∧ ∀ who ∈ order, ¬ (start.invocation who).command.Removes name

/-- What is to hold of a run. -/
structure Transactional (start : World) (document : Document) (events : List Event) (finish : World) :
    Prop where
  /-- The keys file is as it was, or a whole document; its entries are those of a serial order. -/
  serial : ∃ (order : List ℕ) (result : Document),
    Serialized python start finish document result order ∧
      finish.files keysFile = if order = [] then start.files keysFile else some result.content
  /-- An `add` that returned zero has put its key into its `--out` file. -/
  issued : ∀ who out, finish.phase who = .ended (.returned 0) →
    (start.invocation who).out = some out →
      finish.files out = some (.key (start.invocation who).key)
  /-- An invocation that failed leaves both files as they were. -/
  untouched : ∀ who, (finish.phase who).failed = true →
    Untouched python keysFile start events who keysFile ∧
      ∀ out, (start.invocation who).out = some out →
        Untouched python keysFile start events who out

end Runs

/-! ### One step -/

section Step

variable {python : Python} {keysFile : Text} {world after : World} {who : ℕ}

theorem process_eq {phase : Phase} (at_ : world.phase who = phase) :
    world.process who = ⟨world.invocation who, phase⟩ := by
  rw [← at_]
  rfl

/-- What holds of one invocation. -/
structure Fits (python : Python) (keysFile : Text) (world : World) (who : ℕ) : Prop where
  holds : (world.phase who).inside = true → world.holder = some who
  pending : ∀ next, (world.phase who).pending = some next → ∃ current,
    load (world.files keysFile) = some current ∧
      (world.invocation who).apply python current = some next
  used : ∀ path ∈ (world.process who).uses, path ≠ keysFile ∧ (world.files path).isSome
  nodup : (world.process who).uses.Nodup
  written : ∀ out, (world.process who).written = some out →
    world.files out = some (.key (world.invocation who).key)
  dumped : ∀ next temp, world.phase who = .replacing next temp →
    world.files temp = some next.content

/-- What a step of one invocation leaves to the others. -/
structure Moves (keysFile : Text) (world after : World) (who : ℕ) : Prop where
  process : ∀ other, other ≠ who → after.process other = world.process other
  holder : ∀ other, other ≠ who → world.holder = some other → after.holder = some other
  files : ∀ path, path ≠ keysFile → after.files path = world.files path ∨
    path ∈ (world.process who).uses ∨ world.files path = none
  keys : (world.phase who).inside = true ∨ after.files keysFile = world.files keysFile
  fresh : ∀ path ∈ (after.process who).uses,
    path ∈ (world.process who).uses ∨ world.files path = none

/-- No two invocations use one file. -/
def Apart (world : World) : Prop :=
  ∀ first second, first ≠ second → ∀ path ∈ (world.process first).uses,
    path ∉ (world.process second).uses

theorem inside_of_pending {phase : Phase} {next : Document} (pending : phase.pending = some next) :
    phase.inside = true := by
  cases phase <;> first | rfl | cases pending

theorem made_of_written {process : Process} {out : Text} (written : process.written = some out) :
    process.made = some out := by
  obtain ⟨invocation, phase⟩ := process
  cases phase <;> first | exact written | cases written

theorem mem_uses_of_written {process : Process} {out : Text} (written : process.written = some out) :
    out ∈ process.uses :=
  List.mem_append_left _ (Option.mem_toList.mpr (made_of_written written))

/-- Another invocation sees nothing of a step. -/
theorem Moves.fits (moves : Moves keysFile world after who) (apart : Apart world) {other : ℕ}
    (ne : other ≠ who) (fitsWho : Fits python keysFile world who)
    (fits : Fits python keysFile world other) : Fits python keysFile after other := by
  have process := moves.process other ne
  have phase : after.phase other = world.phase other := congrArg Process.phase process
  have invocation : after.invocation other = world.invocation other :=
    congrArg Process.invocation process
  have files : ∀ path ∈ (world.process other).uses, after.files path = world.files path := by
    intro path used
    obtain ⟨apartKeys, isSome⟩ := fits.used path used
    obtain same | own | none := moves.files path apartKeys
    · exact same
    · exact absurd own (apart other who ne path used)
    · rw [none] at isSome
      cases isSome
  refine ⟨fun inside => ?_, fun next pending => ?_, fun path used => ?_, ?_, fun out written => ?_,
    fun next temp replacing => ?_⟩
  · exact moves.holder other ne (fits.holds (phase ▸ inside))
  · rw [phase] at pending
    have holds := fits.holds (inside_of_pending pending)
    rw [invocation]
    obtain inside | same := moves.keys
    · exact absurd (Option.some.inj (holds.symm.trans (fitsWho.holds inside))) ne
    · rw [same]
      exact fits.pending next pending
  · rw [process] at used
    rw [files path used]
    exact fits.used path used
  · rw [process]
    exact fits.nodup
  · rw [process] at written
    rw [files out (mem_uses_of_written written), invocation]
    exact fits.written out written
  · rw [phase] at replacing
    have used : temp ∈ (world.process other).uses := by
      rw [process_eq replacing]
      exact List.mem_append_right _ List.mem_cons_self
    rw [files temp used]
    exact fits.dumped next temp replacing

theorem Moves.apart (moves : Moves keysFile world after who) (apart : Apart world)
    (fits : ∀ who, Fits python keysFile world who) : Apart after := by
  have known : ∀ other, other ≠ who → ∀ path ∈ (after.process who).uses,
      path ∉ (world.process other).uses := by
    intro other ne path used both
    obtain own | none := moves.fresh path used
    · exact apart who other ne.symm path own both
    · have isSome := ((fits other).used path both).2
      rw [none] at isSome
      cases isSome
  intro first second ne path used both
  by_cases isFirst : first = who
  · subst isFirst
    rw [moves.process second ne.symm] at both
    exact known second ne.symm path used both
  · rw [moves.process first isFirst] at used
    by_cases isSecond : second = who
    · subst isSecond
      exact known first isFirst path both used
    · rw [moves.process second isSecond] at both
      exact apart first second ne path used both

/-- What a step does that fails nothing that is not undone. -/
structure Spec (python : Python) (keysFile : Text) (world after : World) (who : ℕ) : Prop where
  moves : Moves keysFile world after who
  fits : Fits python keysFile after who
  invocation : after.invocation = world.invocation
  /-- The keys file is replaced, or stays. -/
  keys : (∃ next temp, world.phase who = .replacing next temp ∧ after.phase who = .reporting ∧
      after.files keysFile = some next.content) ∨
    after.files keysFile = world.files keysFile ∧ (after.phase who).saved = (world.phase who).saved

/-- A phase in which an invocation has nothing to lose. -/
def Phase.resting (phase : Phase) : Bool := !phase.inside && !phase.saved

theorem uses_of_resting {process : Process} (resting : process.phase.resting = true) :
    process.uses = [] := by
  obtain ⟨invocation, phase⟩ := process
  cases phase with
  | closing outcome => 
    cases outcome with
    | raised => rfl
    | returned code => cases code <;> first | rfl | cases resting
  | ended outcome => 
    cases outcome with
    | raised => rfl
    | returned code => cases code <;> first | rfl | cases resting
  | started | waiting => rfl
  | _ => cases resting

theorem fits_of_resting (resting : (world.phase who).resting = true) :
    Fits python keysFile world who := by
  have uses : (world.process who).uses = [] := uses_of_resting resting
  obtain ⟨outside, -⟩ := Bool.and_eq_true_iff.mp resting
  rw [Bool.not_eq_true'] at outside
  refine ⟨fun inside => ?_, fun next pending => ?_, fun path used => ?_, ?_, fun out written => ?_,
    fun next temp replacing => ?_⟩
  · rw [outside] at inside
    cases inside
  · rw [inside_of_pending pending] at outside
    cases outside
  · rw [uses] at used
    cases used
  · rw [uses]
    exact List.nodup_nil
  · have used := mem_uses_of_written written
    rw [uses] at used
    cases used
  · rw [replacing] at outside
    cases outside

theorem lockFile_ne (keysFile : Text) : lockFile keysFile ≠ keysFile := fun same => by
  have lengths := congrArg List.length same
  rw [lockFile, List.length_append] at lengths
  change _ + 5 = _ at lengths
  omega

/-! ### What each step does -/

section Specs

variable {base : World} {next : Phase}

theorem goto_invocation_of (process : base.process = world.process) :
    (base.goto who next).invocation = world.invocation := by
  rw [World.goto_invocation]
  funext other
  exact congrArg Process.invocation (congrFun process other)

/-- An invocation goes on after a change of the lock or of files that are its own or new. -/
theorem Moves.of_goto (process : base.process = world.process)
    (holder : ∀ other, other ≠ who → world.holder = some other → base.holder = some other)
    (files : ∀ path, path ≠ keysFile → base.files path = world.files path ∨
      path ∈ (world.process who).uses ∨ world.files path = none)
    (keys : (world.phase who).inside = true ∨ base.files keysFile = world.files keysFile)
    (fresh : ∀ path ∈ (Process.mk (world.invocation who) next).uses,
      path ∈ (world.process who).uses ∨ world.files path = none) :
    Moves keysFile world (base.goto who next) who := by
  refine ⟨fun other ne => ?_, holder, files, keys, fun path used => fresh path ?_⟩
  · rw [World.goto_process_of_ne _ _ _ ne, process]
  · have invocation : base.invocation who = world.invocation who :=
      congrArg Process.invocation (congrFun process who)
    rw [World.goto_process_self, invocation] at used
    exact used

theorem fits_goto (process : base.process = world.process)
    (holds : next.inside = true → base.holder = some who)
    (pending : ∀ document, next.pending = some document → ∃ current,
      load (base.files keysFile) = some current ∧
        (world.invocation who).apply python current = some document)
    (used : ∀ path ∈ (Process.mk (world.invocation who) next).uses,
      path ≠ keysFile ∧ (base.files path).isSome)
    (nodup : (Process.mk (world.invocation who) next).uses.Nodup)
    (written : ∀ out, (Process.mk (world.invocation who) next).written = some out →
      base.files out = some (.key (world.invocation who).key))
    (dumped : ∀ document temp, next = .replacing document temp →
      base.files temp = some document.content) :
    Fits python keysFile (base.goto who next) who := by
  have invocation : base.invocation who = world.invocation who :=
    congrArg Process.invocation (congrFun process who)
  have phase := World.goto_phase_self base who next
  have moved : (base.goto who next).process who = ⟨world.invocation who, next⟩ := by
    rw [World.goto_process_self, invocation]
  refine ⟨fun inside => holds (phase ▸ inside), fun document isPending => ?_, fun path isUsed => ?_, ?_,
    fun out isWritten => ?_, fun document temp isReplacing => ?_⟩
  · rw [World.goto_invocation, invocation]
    exact pending document (phase ▸ isPending)
  · exact used path (moved ▸ isUsed)
  · exact moved ▸ nodup
  · rw [World.goto_invocation, invocation]
    exact written out (moved ▸ isWritten)
  · exact dumped document temp (phase ▸ isReplacing)

/-- An invocation comes to rest. -/
theorem Spec.of_resting (process : base.process = world.process)
    (holder : ∀ other, other ≠ who → world.holder = some other → base.holder = some other)
    (files : ∀ path, path ≠ keysFile → base.files path = world.files path ∨
      path ∈ (world.process who).uses ∨ world.files path = none)
    (keys : base.files keysFile = world.files keysFile) (unsaved : (world.phase who).saved = false)
    (resting : next.resting = true) : Spec python keysFile world (base.goto who next) who := by
  have phase := World.goto_phase_self base who next
  refine ⟨.of_goto process holder files (.inr keys) fun path used => ?_,
    fits_of_resting (phase.symm ▸ resting), goto_invocation_of process, .inr ⟨keys, ?_⟩⟩
  · rw [uses_of_resting resting] at used
    cases used
  · obtain ⟨-, restUnsaved⟩ := Bool.and_eq_true_iff.mp resting
    rw [Bool.not_eq_true'] at restUnsaved
    rw [phase, unsaved, restUnsaved]

/-- An invocation comes to rest and changes no file. -/
theorem Spec.of_rest (unsaved : (world.phase who).saved = false) (resting : next.resting = true) :
    Spec python keysFile world (world.goto who next) who :=
  .of_resting rfl (fun _ _ => id) (fun _ _ => .inl rfl) rfl unsaved resting

theorem opened_spec (unsaved : (world.phase who).saved = false) :
    Spec python keysFile world ((world.opened (lockFile keysFile)).goto who .waiting) who := by
  refine .of_resting (World.opened_process ..) (fun other _ holds => ?_) (fun path _ => ?_) ?_ unsaved rfl
  · rw [World.opened_holder, holds]
  · obtain kept | ⟨rfl, none⟩ := World.opened_files world (lockFile keysFile) path
    · exact .inl kept
    · exact .inr (.inr none)
  · exact (World.opened_files world (lockFile keysFile) keysFile).resolve_right
      fun ⟨same, _⟩ => lockFile_ne keysFile same.symm

/-- `flock` returns. -/
theorem waiting_spec (at_ : world.phase who = .waiting) (free : world.holder.isNone = true) :
    Spec python keysFile world ({ world with holder := some who }.goto who .locked) who := by
  refine ⟨.of_goto rfl (fun other _ holds => ?_) (fun _ _ => .inl rfl) (.inr rfl) fun path used => ?_,
    fits_goto rfl (fun _ => rfl) (fun _ pending => ?_) (fun _ used => ?_) List.nodup_nil
      (fun _ written => ?_) (fun _ _ same => ?_), goto_invocation_of rfl, .inr ⟨rfl, ?_⟩⟩
  · rw [holds] at free
    cases free
  · exact absurd used List.not_mem_nil
  · cases pending
  · exact absurd used List.not_mem_nil
  · cases written
  · cases same
  · rw [World.goto_phase_self, at_]
    rfl

/-- `_load` and the check of the names return. -/
theorem locked_spec (fits : Fits python keysFile world who) (at_ : world.phase who = .locked)
    {document : Document} (loaded : load (world.files keysFile) = some document) :
    Spec python keysFile world
      (world.goto who (afterLoad python (world.invocation who) document)) who := by
  have unsaved : (world.phase who).saved = false := by rw [at_]; rfl
  unfold afterLoad
  cases verdict : (world.invocation who).verdict python document.keys with
  | raises => exact .of_rest unsaved rfl
  | returns code =>
    refine .of_rest unsaved ?_
    cases code with
    | zero => exact absurd rfl (returns_ne_zero verdict)
    | succ => rfl
  | saves keys =>
    have applied : (world.invocation who).apply python document = some (document.setKeys keys) := by
      rw [Invocation.apply, verdict]
    have holds : world.holder = some who := fits.holds (by rw [at_]; rfl)
    have goes : ∀ next : Phase, next.pending = some (document.setKeys keys) → next.saved = false →
        (Process.mk (world.invocation who) next).uses = [] → (∀ other temp, next ≠ .replacing other temp) →
        Spec python keysFile world (world.goto who next) who := by
      intro next pending nextUnsaved uses notReplacing
      refine ⟨.of_goto rfl (fun _ _ => id) (fun _ _ => .inl rfl) (.inr rfl) fun path used => ?_,
        fits_goto rfl (fun _ => holds) (fun other same => ?_) (fun path used => ?_) ?_
          (fun out written => ?_) fun other temp same => absurd same (notReplacing other temp),
        goto_invocation_of rfl, .inr ⟨rfl, ?_⟩⟩
      · rw [uses] at used
        cases used
      · obtain rfl := Option.some.inj (pending.symm.trans same)
        exact ⟨document, loaded, applied⟩
      · rw [uses] at used
        cases used
      · rw [uses]
        exact List.nodup_nil
      · have used := mem_uses_of_written written
        rw [uses] at used
        cases used
      · rw [World.goto_phase_self, unsaved, nextUnsaved]
    dsimp only
    cases command : (world.invocation who).command with
    | add args => exact goes (.creating _) rfl rfl rfl fun _ _ => Phase.noConfusion
    | revoke name =>
      refine goes (.saving _) rfl rfl ?_ fun _ _ => Phase.noConfusion
      show (world.invocation who).out.toList ++ [] = []
      rw [Invocation.out, command]
      rfl
    | revokeAll =>
      refine goes (.saving _) rfl rfl ?_ fun _ _ => Phase.noConfusion
      show (world.invocation who).out.toList ++ [] = []
      rw [Invocation.out, command]
      rfl

/-- The holder of the lock writes a file that is its own or new. -/
theorem Spec.of_write (fits : Fits python keysFile world who) {path : Text} {content : Content}
    (notKeys : path ≠ keysFile) (own : path ∈ (world.process who).uses ∨ world.files path = none)
    (inside : (world.phase who).inside = true)
    (pending : ∀ document, next.pending = some document → (world.phase who).pending = some document)
    (uses : (Process.mk (world.invocation who) next).uses ⊆ path :: (world.process who).uses)
    (nodup : (Process.mk (world.invocation who) next).uses.Nodup)
    (written : ∀ out, (Process.mk (world.invocation who) next).written = some out →
      (world.write path (some content)).files out = some (.key (world.invocation who).key))
    (dumped : ∀ document temp, next = .replacing document temp →
      (world.write path (some content)).files temp = some document.content)
    (saved : next.saved = (world.phase who).saved) :
    Spec python keysFile world ((world.write path (some content)).goto who next) who := by
  have process : (world.write path (some content)).process = world.process := rfl
  have keys : (world.write path (some content)).files keysFile = world.files keysFile :=
    World.write_files_of_ne _ _ _ notKeys.symm
  refine ⟨.of_goto process (fun _ _ => id) (fun other _ => ?_) (.inr keys) fun other used => ?_,
    fits_goto process (fun _ => fits.holds inside) (fun document isPending => ?_)
      (fun other used => ?_) nodup written dumped, goto_invocation_of process, .inr ⟨keys, ?_⟩⟩
  · by_cases same : other = path
    · exact .inr (same ▸ own)
    · exact .inl (World.write_files_of_ne _ _ _ same)
  · obtain rfl | before := List.mem_cons.mp (uses used)
    · exact own
    · exact .inl before
  · rw [keys]
    exact fits.pending document (pending document isPending)
  · by_cases same : other = path
    · subst same
      rw [World.write_files_self]
      exact ⟨notKeys, rfl⟩
    · rw [World.write_files_of_ne _ _ _ same]
      exact fits.used other ((List.mem_cons.mp (uses used)).resolve_left same)
  · rw [World.goto_phase_self, saved]

/-- The files of an invocation that is about to make, or has made, its `--out` file. -/
theorem uses_of_out {invocation : Invocation} {out : Text} (isOut : invocation.out = some out)
    (document : Document) :
    (Process.mk invocation (.writing document)).uses = [out] ∧
      (Process.mk invocation (.saving document)).uses = [out] := by
  constructor <;>
  · show invocation.out.toList ++ [] = [out]
    rw [isOut]
    rfl

/-- The `--out` file is made. -/
theorem creating_spec (fits : Fits python keysFile world who) {document : Document}
    (at_ : world.phase who = .creating document) {out : Text}
    (isOut : (world.invocation who).out = some out) (missing : world.files out = none)
    (notKeys : out ≠ keysFile) :
    Spec python keysFile world ((world.write out (some .other)).goto who (.writing document)) who := by
  obtain ⟨uses, -⟩ := uses_of_out isOut document
  refine .of_write fits notKeys (.inr missing) (by rw [at_]; rfl) (fun _ pending => by rw [at_]; exact pending)
    (fun path used => ?_) ?_ (fun _ written => ?_) (fun _ _ => Phase.noConfusion) (by rw [at_]; rfl)
  · rw [uses] at used
    exact List.mem_singleton.mp used ▸ List.mem_cons_self
  · rw [uses]
    exact List.nodup_singleton out
  · cases written

/-- The key is written. -/
theorem writing_spec (fits : Fits python keysFile world who) {document : Document}
    (at_ : world.phase who = .writing document) {out : Text}
    (isOut : (world.invocation who).out = some out) :
    Spec python keysFile world ((world.write out (some (.key (world.invocation who).key))).goto who
      (.saving document)) who := by
  obtain ⟨before, uses⟩ := uses_of_out isOut document
  rw [← process_eq at_] at before
  have own : out ∈ (world.process who).uses := before ▸ List.mem_cons_self
  refine .of_write fits (fits.used out own).1 (.inl own) (by rw [at_]; rfl)
    (fun _ pending => by rw [at_]; exact pending) (fun path used => ?_) ?_ (fun other written => ?_)
    (fun _ _ => Phase.noConfusion) (by rw [at_]; rfl)
  · rw [uses] at used
    exact List.mem_singleton.mp used ▸ List.mem_cons_self
  · rw [uses]
    exact List.nodup_singleton out
  · obtain rfl := Option.some.inj (isOut.symm.trans written)
    rw [World.write_files_self]

/-- `mkstemp` makes a file. -/
theorem saving_spec (fits : Fits python keysFile world who) {document : Document}
    (at_ : world.phase who = .saving document) {temp : Text} (missing : world.files temp = none)
    (notKeys : temp ≠ keysFile) :
    Spec python keysFile world ((world.write temp (some .other)).goto who (.dumping document temp))
      who := by
  have process := process_eq at_
  have fresh : temp ∉ (world.process who).uses := fun used => by
    have isSome := (fits.used temp used).2
    rw [missing] at isSome
    cases isSome
  have before : (world.process who).uses = (world.invocation who).out.toList := by
    rw [process]
    exact List.append_nil _
  have uses : (Process.mk (world.invocation who) (.dumping document temp)).uses =
      (world.process who).uses ++ [temp] := by
    rw [before]
    rfl
  refine .of_write fits notKeys (.inr missing) (by rw [at_]; rfl) (fun _ pending => by rw [at_]; exact pending)
    (fun path used => ?_) ?_ (fun out written => ?_) (fun _ _ => Phase.noConfusion) (by rw [at_]; rfl)
  · rw [uses] at used
    obtain own | isTemp := List.mem_append.mp used
    · exact List.mem_cons_of_mem _ own
    · exact List.mem_singleton.mp isTemp ▸ List.mem_cons_self
  · rw [uses]
    exact List.nodup_append_comm.mp (fits.nodup.cons fresh)
  · have isWritten : (world.process who).written = some out := by
      rw [process]
      exact written
    have notTemp : out ≠ temp := fun same => fresh (same ▸ mem_uses_of_written isWritten)
    rw [World.write_files_of_ne _ _ _ notTemp]
    exact fits.written out isWritten

/-- A temporary file is not the `--out` file. -/
theorem ne_temp_of_written (fits : Fits python keysFile world who) {out temp : Text}
    (isTemp : (world.phase who).temp? = some temp)
    (written : (world.process who).written = some out) : out ≠ temp := by
  have both := fits.nodup
  unfold Process.uses at both
  rw [show (world.process who).phase.temp? = some temp from isTemp] at both
  have made : out ∈ (world.process who).made.toList :=
    Option.mem_toList.mpr (made_of_written written)
  exact fun same => (List.nodup_append.mp both).2.2 out made temp List.mem_cons_self same

/-- The temporary file is written. -/
theorem dumping_spec (fits : Fits python keysFile world who) {document : Document} {temp : Text}
    (at_ : world.phase who = .dumping document temp) :
    Spec python keysFile world
      ((world.write temp (some document.content)).goto who (.replacing document temp)) who := by
  have process := process_eq at_
  have uses : (Process.mk (world.invocation who) (.replacing document temp)).uses =
      (world.process who).uses := by
    rw [process]
    rfl
  have own : temp ∈ (world.process who).uses := by
    rw [process]
    exact List.mem_append_right _ List.mem_cons_self
  refine .of_write fits (fits.used temp own).1 (.inl own) (by rw [at_]; rfl)
    (fun _ pending => by rw [at_]; exact pending) (fun path used => ?_) ?_ (fun out written => ?_)
    (fun _ _ same => ?_) (by rw [at_]; rfl)
  · exact List.mem_cons_of_mem _ (uses ▸ used)
  · exact uses ▸ fits.nodup
  · have isWritten : (world.process who).written = some out := by
      rw [process]
      exact written
    rw [World.write_files_of_ne _ _ _ (ne_temp_of_written fits (by rw [at_]; rfl) isWritten)]
    exact fits.written out isWritten
  · obtain ⟨rfl, rfl⟩ := Phase.replacing.inj same
    rw [World.write_files_self]

/-- The temporary file is not written whole. -/
theorem dumping_fails_spec (fits : Fits python keysFile world who) {document : Document} {temp : Text}
    (at_ : world.phase who = .dumping document temp) (left : Content) :
    Spec python keysFile world ((world.write temp (some left)).goto who (.cleaning temp)) who := by
  have own : temp ∈ (world.process who).uses := by
    rw [process_eq at_]
    exact List.mem_append_right _ List.mem_cons_self
  refine .of_write fits (fits.used temp own).1 (.inl own) (by rw [at_]; rfl)
    (fun _ pending => ?_) (fun path used => ?_) (List.nodup_singleton temp) (fun _ written => ?_)
    (fun _ _ => Phase.noConfusion) (by rw [at_]; rfl)
  · cases pending
  · exact List.mem_singleton.mp used ▸ List.mem_cons_self
  · cases written

/-- `os.replace` fails. -/
theorem replacing_fails_spec (fits : Fits python keysFile world who) {document : Document} {temp : Text}
    (at_ : world.phase who = .replacing document temp) :
    Spec python keysFile world (world.goto who (.cleaning temp)) who := by
  have own : temp ∈ (world.process who).uses := by
    rw [process_eq at_]
    exact List.mem_append_right _ List.mem_cons_self
  refine ⟨.of_goto rfl (fun _ _ => id) (fun _ _ => .inl rfl) (.inr rfl) fun path used => .inl ?_,
    fits_goto rfl (fun _ => fits.holds (by rw [at_]; rfl)) (fun _ pending => ?_) (fun path used => ?_)
      (List.nodup_singleton temp) (fun _ written => ?_) (fun _ _ => Phase.noConfusion),
    goto_invocation_of rfl, .inr ⟨rfl, ?_⟩⟩
  · exact List.mem_singleton.mp used ▸ own
  · cases pending
  · exact List.mem_singleton.mp used ▸ fits.used temp own
  · cases written
  · rw [World.goto_phase_self, at_]
    rfl

/-- `os.replace` returns. -/
theorem replacing_spec (fits : Fits python keysFile world who) {document : Document} {temp : Text}
    (at_ : world.phase who = .replacing document temp) :
    Spec python keysFile world
      (((world.write keysFile (world.files temp)).write temp none).goto who .reporting) who := by
  have process := process_eq at_
  have uses : (world.process who).uses =
      (Process.mk (world.invocation who) .reporting).uses ++ [temp] := by
    rw [process]
    show (world.invocation who).out.toList ++ [temp] = (world.invocation who).out.toList ++ [] ++ [temp]
    rw [List.append_nil]
  have own : temp ∈ (world.process who).uses := by
    rw [uses]
    exact List.mem_append_right _ List.mem_cons_self
  have notKeys := (fits.used temp own).1
  have kept : ∀ path, path ≠ keysFile → path ≠ temp →
      ((world.write keysFile (world.files temp)).write temp none).files path = world.files path := by
    intro path ne neTemp
    rw [World.write_files_of_ne _ _ _ neTemp, World.write_files_of_ne _ _ _ ne]
  have nodup := fits.nodup
  rw [uses] at nodup
  have before : ∀ path ∈ (Process.mk (world.invocation who) .reporting).uses,
      path ∈ (world.process who).uses ∧ path ≠ temp := fun path used =>
    ⟨uses ▸ List.mem_append_left _ used,
      (List.nodup_append.mp nodup).2.2 path used temp List.mem_cons_self⟩
  refine ⟨.of_goto rfl (fun _ _ => id) (fun path ne => ?_) (.inl (by rw [at_]; rfl))
      fun path used => .inl (before path used).1,
    fits_goto rfl (fun inside => ?_) (fun _ pending => ?_) (fun path used => ?_)
      (List.nodup_append.mp nodup).1 (fun out written => ?_) (fun _ _ => Phase.noConfusion),
    goto_invocation_of rfl, .inl ⟨document, temp, at_, World.goto_phase_self .., ?_⟩⟩
  · by_cases same : path = temp
    · exact .inr (.inl (same ▸ own))
    · exact .inl (kept path ne same)
  · cases inside
  · cases pending
  · obtain ⟨used, neTemp⟩ := before path used
    rw [kept path (fits.used path used).1 neTemp]
    exact fits.used path used
  · have isWritten : (world.process who).written = some out := by
      rw [process]
      exact written
    have used := mem_uses_of_written isWritten
    rw [kept out (fits.used out used).1 (ne_temp_of_written fits (by rw [at_]; rfl) isWritten)]
    exact fits.written out isWritten
  · rw [World.goto_files, World.write_files_of_ne _ _ _ notKeys.symm, World.write_files_self]
    exact fits.dumped document temp at_

/-- The temporary file is removed. -/
theorem cleaning_spec (fits : Fits python keysFile world who) {temp : Text}
    (at_ : world.phase who = .cleaning temp) :
    Spec python keysFile world ((world.write temp none).goto who (.closing .raised)) who := by
  have own : temp ∈ (world.process who).uses := by
    rw [process_eq at_]
    exact List.mem_append_right _ List.mem_cons_self
  refine .of_resting rfl (fun _ _ => id) (fun path _ => ?_)
    (World.write_files_of_ne _ _ _ (fits.used temp own).1.symm) (by rw [at_]; rfl) rfl
  by_cases same : path = temp
  · exact .inr (.inl (same ▸ own))
  · exact .inl (World.write_files_of_ne _ _ _ same)

/-- The keys are saved, and nothing fails. -/
theorem saved_spec (fits : Fits python keysFile world who) {base : World} {next : Phase}
    (process : base.process = world.process) (sameFiles : base.files = world.files)
    (holder : ∀ other, other ≠ who → world.holder = some other → base.holder = some other)
    (saved : (world.phase who).saved = true) (nextSaved : next.saved = true) :
    Spec python keysFile world (base.goto who next) who := by
  have known : ∀ phase : Phase, phase.saved = true → phase.inside = false ∧ phase.pending = none ∧
      (∀ document temp, phase ≠ .replacing document temp) ∧
      (Process.mk (world.invocation who) phase).uses = (world.invocation who).out.toList ++ [] ∧
      (Process.mk (world.invocation who) phase).written = (world.invocation who).out := by
    intro phase isSaved
    cases phase with
    | reporting => exact ⟨rfl, rfl, fun _ _ => Phase.noConfusion, rfl, rfl⟩
    | closing outcome =>
      obtain rfl : outcome = .returned 0 := by
        cases outcome with
        | raised => cases isSaved
        | returned code => cases code <;> first | rfl | cases isSaved
      exact ⟨rfl, rfl, fun _ _ => Phase.noConfusion, rfl, rfl⟩
    | ended outcome =>
      obtain rfl : outcome = .returned 0 := by
        cases outcome with
        | raised => cases isSaved
        | returned code => cases code <;> first | rfl | cases isSaved
      exact ⟨rfl, rfl, fun _ _ => Phase.noConfusion, rfl, rfl⟩
    | _ => cases isSaved
  obtain ⟨-, -, -, usesBefore, writtenBefore⟩ := known _ saved
  obtain ⟨outside, noPending, notReplacing, uses, written⟩ := known next nextSaved
  have sameUses : (Process.mk (world.invocation who) next).uses = (world.process who).uses :=
    uses.trans usesBefore.symm
  refine ⟨.of_goto process holder (fun _ _ => .inl (congrFun sameFiles _))
      (.inr (congrFun sameFiles _)) fun path used => .inl (sameUses ▸ used),
    fits_goto process (fun inside => ?_) (fun _ pending => ?_) (fun path used => ?_)
      (sameUses ▸ fits.nodup) (fun out isWritten => ?_)
      (fun document temp same => absurd same (notReplacing document temp)),
    goto_invocation_of process, .inr ⟨congrFun sameFiles _, ?_⟩⟩
  · rw [outside] at inside
    cases inside
  · rw [noPending] at pending
    cases pending
  · rw [sameFiles]
    exact fits.used path (sameUses ▸ used)
  · rw [sameFiles]
    exact fits.written out (writtenBefore.trans (written.symm.trans isWritten))
  · rw [World.goto_phase_self, nextSaved, saved]

theorem saved_ended (outcome : Outcome) :
    (Phase.ended outcome).saved = (Phase.closing outcome).saved := by
  cases outcome with
  | raised => rfl
  | returned code => cases code <;> rfl

/-- What a step does whose operation is done. -/
theorem done_spec (fits : Fits python keysFile world who) {temp : Text}
    (undoable : Undoable keysFile world ⟨who, .done temp⟩)
    (stepped : doneStep python keysFile world who temp = some after) :
    Spec python keysFile world after who := by
  unfold doneStep at stepped
  cases at_ : world.phase who with
  | started =>
    rw [at_] at stepped
    dsimp only at stepped
    split at stepped <;> obtain rfl := Option.some.inj stepped
    · exact .of_rest (by rw [at_]; rfl) rfl
    · exact opened_spec (by rw [at_]; rfl)
  | waiting =>
    rw [at_] at stepped
    dsimp only at stepped
    split at stepped
    case isTrue free =>
      obtain rfl := Option.some.inj stepped
      exact waiting_spec at_ free
    case isFalse => cases stepped
  | locked =>
    rw [at_] at stepped
    dsimp only at stepped
    split at stepped <;> obtain rfl := Option.some.inj stepped
    case h_1 => exact .of_rest (by rw [at_]; rfl) rfl
    case h_2 document loaded => exact locked_spec fits at_ loaded
  | creating document =>
    rw [at_] at stepped
    dsimp only at stepped
    split at stepped
    case h_1 out isOut =>
      split at stepped <;> obtain rfl := Option.some.inj stepped
      case isTrue missing =>
        have none := Option.isNone_iff_eq_none.mp missing
        refine creating_spec fits at_ isOut none fun same => ?_
        have notKeys : (world.files keysFile).isNone → (world.invocation who).out ≠ some keysFile := by
          simpa only [Undoable, at_] using undoable
        exact notKeys (same ▸ missing) (same ▸ isOut)
      case isFalse => exact .of_rest (by rw [at_]; rfl) rfl
    case h_2 => cases stepped
  | writing document =>
    rw [at_] at stepped
    dsimp only at stepped
    split at stepped
    case h_1 out isOut =>
      obtain rfl := Option.some.inj stepped
      exact writing_spec fits at_ isOut
    case h_2 => cases stepped
  | saving document =>
    rw [at_] at stepped
    dsimp only at stepped
    split at stepped
    case isTrue missing =>
      obtain rfl := Option.some.inj stepped
      refine saving_spec fits at_ (Option.isNone_iff_eq_none.mp missing) fun same => ?_
      have notKeys : (world.files keysFile).isNone → temp ≠ keysFile := by
        simpa only [Undoable, at_] using undoable
      exact notKeys (same ▸ missing) same
    case isFalse => cases stepped
  | dumping document temp =>
    rw [at_] at stepped
    obtain rfl := Option.some.inj stepped
    exact dumping_spec fits at_
  | replacing document temp =>
    rw [at_] at stepped
    obtain rfl := Option.some.inj stepped
    exact replacing_spec fits at_
  | cleaning temp =>
    rw [at_] at stepped
    obtain rfl := Option.some.inj stepped
    exact cleaning_spec fits at_
  | reporting =>
    rw [at_] at stepped
    obtain rfl := Option.some.inj stepped
    exact saved_spec fits rfl rfl (fun _ _ => id) (by rw [at_]; rfl) rfl
  | closing outcome =>
    rw [at_] at stepped
    obtain rfl := Option.some.inj stepped
    cases isSaved : (world.phase who).saved with
    | true =>
      refine saved_spec fits rfl rfl (fun other ne => World.release_holder _ _ ne) isSaved ?_
      rw [at_] at isSaved
      exact (saved_ended outcome).trans isSaved
    | false =>
      refine .of_resting rfl (fun other ne => World.release_holder _ _ ne) (fun _ _ => .inl rfl) rfl
        isSaved ?_
      rw [at_, ← saved_ended] at isSaved
      rw [Phase.resting, isSaved]
      rfl
  | ended outcome =>
    rw [at_] at stepped
    cases stepped

/-- What a step does whose operation raises. -/
theorem fail_spec (fits : Fits python keysFile world who) {left : Content}
    (undoable : Undoable keysFile world ⟨who, .fails left⟩)
    (stepped : failStep world who left = some after) : Spec python keysFile world after who := by
  unfold failStep at stepped
  cases at_ : world.phase who with
  | started =>
    rw [at_] at stepped
    dsimp only at stepped
    split at stepped
    case isTrue => cases stepped
    case isFalse =>
      obtain rfl := Option.some.inj stepped
      exact .of_rest (by rw [at_]; rfl) rfl
  | waiting | locked | creating _ | saving _ | cleaning _ =>
    rw [at_] at stepped
    obtain rfl := Option.some.inj stepped
    exact .of_rest (by rw [at_]; rfl) rfl
  | reporting => exact absurd undoable (by simp only [Undoable, at_, not_false_eq_true])
  | writing document =>
    rw [at_] at stepped
    have noOut : (world.invocation who).out = none := by simpa only [Undoable, at_] using undoable
    rw [noOut] at stepped
    cases stepped
  | dumping document temp =>
    rw [at_] at stepped
    obtain rfl := Option.some.inj stepped
    exact dumping_fails_spec fits at_ left
  | replacing document temp =>
    rw [at_] at stepped
    obtain rfl := Option.some.inj stepped
    exact replacing_fails_spec fits at_
  | closing outcome =>
    rw [at_] at stepped
    obtain rfl := Option.some.inj stepped
    refine .of_resting rfl (fun other ne => World.release_holder _ _ ne) (fun _ _ => .inl rfl) rfl ?_ rfl
    rw [at_]
    cases outcome with
    | raised => rfl
    | returned code =>
      cases code with
      | zero => exact absurd undoable (by simp only [Undoable, at_, not_false_eq_true])
      | succ => rfl
  | ended outcome =>
    rw [at_] at stepped
    cases stepped

theorem step_spec (fits : Fits python keysFile world who) {happening : Happening}
    (undoable : Undoable keysFile world ⟨who, happening⟩)
    (stepped : step python keysFile world ⟨who, happening⟩ = some after) :
    Spec python keysFile world after who := by
  cases happening with
  | done temp => exact done_spec fits undoable stepped
  | fails left => exact fail_spec fits undoable stepped

/-- The keys are saved, or the `--out` file is made. -/
def Process.engaged (process : Process) : Bool := process.phase.saved || process.made.isSome

theorem goto_process_of (process : base.process = world.process) :
    (base.goto who next).process who = ⟨world.invocation who, next⟩ := by
  have invocation : base.invocation who = world.invocation who :=
    congrArg Process.invocation (congrFun process who)
  rw [World.goto_process_self, invocation]

/-- An invocation that has changed something does not fail. -/
theorem engaged_of_step {happening : Happening} (undoable : Undoable keysFile world ⟨who, happening⟩)
    (stepped : step python keysFile world ⟨who, happening⟩ = some after)
    (engaged : (world.process who).engaged = true) : (after.process who).engaged = true := by
  cases at_ : world.phase who with
  | started | waiting | locked | creating _ | cleaning _ =>
    rw [process_eq at_] at engaged
    cases engaged
  | writing document | saving document | dumping document temp | replacing document temp =>
    rw [process_eq at_] at engaged
    have isSome : (world.invocation who).out.isSome = true := engaged
    cases happening with
    | fails left =>
      have noOut : (world.invocation who).out = none := by simpa only [Undoable, at_] using undoable
      rw [noOut] at isSome
      cases isSome
    | done temp =>
      obtain ⟨out, isOut⟩ := Option.isSome_iff_exists.mp isSome
      simp only [step, doneStep, at_, isOut, Option.ite_none_right_eq_some, Option.some_inj] at stepped
      first
        | obtain rfl := stepped
          exact (goto_process_of rfl).symm ▸ isSome
        | obtain ⟨-, rfl⟩ := stepped
          exact (goto_process_of rfl).symm ▸ isSome
        | obtain rfl := stepped
          exact (goto_process_of rfl).symm ▸ rfl
  | reporting =>
    cases happening with
    | fails left => exact absurd undoable (by simp only [Undoable, at_, not_false_eq_true])
    | done temp =>
      simp only [step, doneStep, at_, Option.some_inj] at stepped
      obtain rfl := stepped
      exact (goto_process_of rfl).symm ▸ rfl
  | closing outcome =>
    have isZero : outcome = .returned 0 := by
      rw [process_eq at_] at engaged
      cases outcome with
      | raised => cases engaged
      | returned code => cases code <;> first | rfl | cases engaged
    subst isZero
    cases happening with
    | fails left => exact absurd undoable (by simp only [Undoable, at_, not_false_eq_true])
    | done temp =>
      simp only [step, doneStep, at_, Option.some_inj] at stepped
      obtain rfl := stepped
      exact (goto_process_of rfl).symm ▸ rfl
  | ended outcome =>
    cases happening <;> simp only [step, doneStep, failStep, at_] at stepped <;> cases stepped

/-- Only a `revoke` removes a temporary file. -/
def Cleans (world : World) (who : ℕ) : Prop :=
  ∀ temp, world.phase who = .cleaning temp → (world.invocation who).out = none

theorem cleans_of_step {happening : Happening} (undoable : Undoable keysFile world ⟨who, happening⟩)
    (stepped : step python keysFile world ⟨who, happening⟩ = some after) : Cleans after who := by
  intro temp isCleaning
  cases at_ : world.phase who with
  | dumping _ _ | replacing _ _ =>
    cases happening with
    | done _ =>
      simp only [step, doneStep, at_, Option.some_inj] at stepped
      obtain rfl := stepped
      rw [World.goto_phase_self] at isCleaning
      cases isCleaning
    | fails left =>
      simp only [step, failStep, at_, Option.some_inj] at stepped
      obtain rfl := stepped
      rw [World.goto_invocation]
      show (world.invocation who).out = none
      simpa only [Undoable, at_] using undoable
  | locked =>
    cases happening with
    | done _ =>
      simp only [step, doneStep, at_] at stepped
      split at stepped <;> obtain rfl := Option.some.inj stepped <;>
        rw [World.goto_phase_self] at isCleaning
      · cases isCleaning
      · unfold afterLoad at isCleaning
        split at isCleaning
        case h_3 => split at isCleaning <;> cases isCleaning
        all_goals cases isCleaning
    | fails left =>
      simp only [step, failStep, at_, Option.some_inj] at stepped
      obtain rfl := stepped
      rw [World.goto_phase_self] at isCleaning
      cases isCleaning
  | started | waiting | creating _ | writing _ | saving _ | cleaning _ | reporting | closing _ | ended _ =>
    cases happening <;> simp only [step, doneStep, failStep, at_] at stepped <;>
      (repeat' split at stepped) <;> cases stepped <;> rw [World.goto_phase_self] at isCleaning <;>
      cases isCleaning

theorem eq_of_write_change {path other : Text} {content : Option Content}
    (change : (world.write path content).files other ≠ world.files other) : other = path :=
  by_contra fun ne => change (World.write_files_of_ne _ _ _ ne)

/-- A step that changes the keys file or the `--out` file engages the invocation. -/
theorem engaged_of_change (fits : Fits python keysFile world who) {happening : Happening}
    (cleans : ∀ temp, world.phase who = .cleaning temp → (world.invocation who).out = none)
    (undoable : Undoable keysFile world ⟨who, happening⟩)
    (stepped : step python keysFile world ⟨who, happening⟩ = some after) {path : Text}
    (own : path = keysFile ∨ (world.invocation who).out = some path)
    (change : after.files path ≠ world.files path) : (after.process who).engaged = true := by
  -- a temporary file is not the keys file
  have notKeys : ∀ temp, (world.phase who).temp? = some temp → temp ≠ keysFile := fun temp isTemp =>
    (fits.used temp (List.mem_append_right _ (Option.mem_toList.mpr isTemp))).1
  cases happening with
  | done temp =>
    cases at_ : world.phase who with
    | started =>
      simp only [step, doneStep, at_] at stepped
      split at stepped <;> obtain rfl := Option.some.inj stepped
      · exact absurd rfl change
      · obtain kept | ⟨rfl, missing⟩ := World.opened_files world (lockFile keysFile) path
        · exact absurd kept change
        · have notOut : (world.files (lockFile keysFile)).isNone →
              (world.invocation who).out ≠ some (lockFile keysFile) := by
            simpa only [Undoable, at_] using undoable
          exact absurd (own.resolve_left (lockFile_ne keysFile)) (notOut (by rw [missing]; rfl))
    | waiting =>
      simp only [step, doneStep, at_] at stepped
      split at stepped
      · obtain rfl := Option.some.inj stepped
        exact absurd rfl change
      · cases stepped
    | locked =>
      simp only [step, doneStep, at_] at stepped
      split at stepped <;> obtain rfl := Option.some.inj stepped <;> exact absurd rfl change
    | creating document =>
      simp only [step, doneStep, at_] at stepped
      split at stepped
      case h_1 out isOut =>
        split at stepped <;> obtain rfl := Option.some.inj stepped
        · rw [goto_process_of rfl]
          exact Option.isSome_iff_exists.mpr ⟨out, isOut⟩
        · exact absurd rfl change
      case h_2 => cases stepped
    | writing document =>
      simp only [step, doneStep, at_] at stepped
      split at stepped
      case h_1 out isOut =>
        obtain rfl := Option.some.inj stepped
        rw [goto_process_of rfl]
        exact Option.isSome_iff_exists.mpr ⟨out, isOut⟩
      case h_2 => cases stepped
    | saving document =>
      simp only [step, doneStep, at_] at stepped
      split at stepped
      case isTrue missing =>
        obtain rfl := Option.some.inj stepped
        obtain rfl := eq_of_write_change change
        have notKeys : (world.files keysFile).isNone → path ≠ keysFile := by
          simpa only [Undoable, at_] using undoable
        have isOut := own.resolve_left fun same => notKeys (same ▸ missing) same
        rw [goto_process_of rfl]
        exact Option.isSome_iff_exists.mpr ⟨path, isOut⟩
      case isFalse => cases stepped
    | dumping document temp =>
      simp only [step, doneStep, at_, Option.some_inj] at stepped
      obtain rfl := stepped
      obtain rfl := eq_of_write_change change
      have isOut := own.resolve_left (notKeys path (by rw [at_]; rfl))
      rw [goto_process_of rfl]
      exact Option.isSome_iff_exists.mpr ⟨path, isOut⟩
    | replacing document temp =>
      simp only [step, doneStep, at_, Option.some_inj] at stepped
      obtain rfl := stepped
      rw [goto_process_of rfl]
      rfl
    | cleaning temp =>
      simp only [step, doneStep, at_, Option.some_inj] at stepped
      obtain rfl := stepped
      obtain rfl := eq_of_write_change change
      have isOut := own.resolve_left (notKeys path (by rw [at_]; rfl))
      rw [cleans path at_] at isOut
      cases isOut
    | reporting | closing _ =>
      simp only [step, doneStep, at_, Option.some_inj] at stepped
      obtain rfl := stepped
      exact absurd rfl change
    | ended outcome =>
      simp only [step, doneStep, at_] at stepped
      cases stepped
  | fails left =>
    cases at_ : world.phase who with
    | started =>
      simp only [step, failStep, at_] at stepped
      split at stepped
      · cases stepped
      · obtain rfl := Option.some.inj stepped
        exact absurd rfl change
    | writing document =>
      have noOut : (world.invocation who).out = none := by simpa only [Undoable, at_] using undoable
      simp only [step, failStep, at_, noOut] at stepped
      cases stepped
    | dumping document temp =>
      have noOut : (world.invocation who).out = none := by simpa only [Undoable, at_] using undoable
      simp only [step, failStep, at_, Option.some_inj] at stepped
      obtain rfl := stepped
      obtain rfl := eq_of_write_change change
      have isOut := own.resolve_left (notKeys path (by rw [at_]; rfl))
      rw [noOut] at isOut
      cases isOut
    | waiting | locked | creating _ | saving _ | replacing _ _ | cleaning _ | reporting | closing _ =>
      simp only [step, failStep, at_, Option.some_inj] at stepped
      obtain rfl := stepped
      exact absurd rfl change
    | ended outcome =>
      simp only [step, failStep, at_] at stepped
      cases stepped

end Specs

end Step

/-! ### Whole runs -/

section Runs

variable {python : Python} {keysFile : Text} {start : World} {document : Document}

/-- What holds in every state of a run. -/
structure Sound (python : Python) (keysFile : Text) (start : World) (document : Document)
    (world : World) : Prop where
  fits : ∀ who, Fits python keysFile world who
  apart : Apart world
  invocation : world.invocation = start.invocation
  serial : ∃ (order : List ℕ) (result : Document), order.Nodup ∧
    (∀ who, who ∈ order ↔ (world.phase who).saved = true) ∧
    serially python start.invocation order document = some result ∧
    load (world.files keysFile) = some result ∧
    world.files keysFile = if order = [] then start.files keysFile else some result.content

/-- No invocation has begun, and the keys file is a document or missing. -/
structure Begins (keysFile : Text) (start : World) (document : Document) : Prop where
  started : ∀ who, start.phase who = .started
  loads : load (start.files keysFile) = some document

theorem load_content (result : Document) : load (some result.content) = some result := by
  obtain ⟨fields, keys, isList⟩ := result
  unfold Document.content load
  dsimp only
  split
  case h_1 others same =>
    obtain rfl : keys = others := by
      have both := isList.symm.trans same
      simpa using both
    rfl
  case h_2 missing => exact absurd isList (missing keys)

theorem sound_of_begins (begins : Begins keysFile start document) :
    Sound python keysFile start document start := by
  have resting : ∀ who, (start.phase who).resting = true := fun who => by
    rw [begins.started who]
    rfl
  refine ⟨fun who => fits_of_resting (resting who), fun first _ _ path used => ?_, rfl,
    [], document, List.nodup_nil, fun who => ?_, rfl, begins.loads, (if_pos rfl).symm⟩
  · rw [uses_of_resting (resting first)] at used
    cases used
  · rw [begins.started who]
    exact ⟨fun member => absurd member List.not_mem_nil, fun saved => Bool.noConfusion saved⟩

theorem sound_of_step {world after : World} {event : Event}
    (sound : Sound python keysFile start document world)
    (undoable : Undoable keysFile world event)
    (stepped : step python keysFile world event = some after) :
    Sound python keysFile start document after := by
  obtain ⟨who, happening⟩ := event
  have spec := step_spec (sound.fits who) undoable stepped
  have phase : ∀ other, other ≠ who → after.phase other = world.phase other := fun other ne =>
    congrArg Process.phase (spec.moves.process other ne)
  refine ⟨fun other => ?_, spec.moves.apart sound.apart sound.fits,
    spec.invocation.trans sound.invocation, ?_⟩
  · by_cases same : other = who
    · exact same ▸ spec.fits
    · exact spec.moves.fits sound.apart same (sound.fits who) (sound.fits other)
  obtain ⟨order, result, nodup, savedIff, ran, loads, file⟩ := sound.serial
  obtain ⟨next, temp, at_, reports, replaced⟩ | ⟨kept, saved⟩ := spec.keys
  · have unsaved : who ∉ order := fun member => by
      have saved := (savedIff who).mp member
      rw [at_] at saved
      cases saved
    obtain ⟨current, loadsCurrent, applied⟩ := (sound.fits who).pending next (by rw [at_]; rfl)
    obtain rfl := Option.some.inj (loads.symm.trans loadsCurrent)
    refine ⟨order ++ [who], next, List.nodup_append_comm.mp (nodup.cons unsaved), fun other => ?_, ?_, ?_,
      ?_⟩
    · by_cases same : other = who
      · rw [same, reports]
        exact ⟨fun _ => rfl, fun _ => List.mem_append_right _ List.mem_cons_self⟩
      · rw [phase other same, ← savedIff other, List.mem_append, List.mem_singleton]
        exact ⟨fun either => either.resolve_right same, .inl⟩
    · rw [serially_concat, ran, Option.bind_some, ← sound.invocation]
      exact applied
    · rw [replaced]
      exact load_content next
    · rw [replaced, if_neg (List.append_ne_nil_of_right_ne_nil _ (List.cons_ne_nil _ _))]
  · refine ⟨order, result, nodup, fun other => ?_, ran, kept ▸ loads, kept ▸ file⟩
    rw [savedIff other]
    by_cases same : other = who
    · rw [same, saved]
    · rw [phase other same]

theorem sound_of_run (begins : Begins keysFile start document) {events : List Event} {finish : World}
    (guarded : (routerKeys python keysFile).Guarded (Undoable keysFile) start events)
    (ran : (routerKeys python keysFile).run start events = some finish) :
    Sound python keysFile start document finish :=
  (routerKeys python keysFile).run_invariant_of_guarded _ _
    (fun _ _ _ undoable stepped sound => sound_of_step sound undoable stepped) guarded ran
    (sound_of_begins begins)

theorem not_engaged_of_failed {world : World} {who : ℕ} (failed : (world.phase who).failed = true) :
    ¬ (world.process who).engaged = true := by
  cases at_ : world.phase who with
  | ended outcome =>
    rw [at_] at failed
    rw [process_eq at_]
    cases outcome with
    | raised => exact Bool.false_ne_true
    | returned code =>
      cases code with
      | zero => cases failed
      | succ => exact Bool.false_ne_true
  | _ =>
    rw [at_] at failed
    cases failed

/-- An invocation that has changed the keys file or its `--out` file does not fail. -/
theorem untouched_of_failed (begins : Begins keysFile start document) {events : List Event}
    {finish : World}
    (guarded : (routerKeys python keysFile).Guarded (Undoable keysFile) start events)
    (ran : (routerKeys python keysFile).run start events = some finish) {who : ℕ}
    (failed : (finish.phase who).failed = true) {path : Text}
    (own : path = keysFile ∨ (start.invocation who).out = some path) :
    Untouched python keysFile start events who path := by
  rintro before happening rest middle next rfl ranBefore stepped
  by_contra change
  obtain ⟨guardedBefore, undoable, guardedRest⟩ :=
    (routerKeys python keysFile).guarded_of_append guarded ranBefore
  have sound := sound_of_run begins guardedBefore ranBefore
  have cleans : Cleans middle who := by
    refine ((routerKeys python keysFile).run_invariant_of_guarded (Undoable keysFile)
      (fun world => Sound python keysFile start document world ∧ Cleans world who)
      (fun world event after undoable stepped both => ?_) guardedBefore ranBefore
      ⟨sound_of_begins begins, fun temp same => ?_⟩).2
    · refine ⟨sound_of_step both.1 undoable stepped, ?_⟩
      by_cases same : event.who = who
      · exact same ▸ cleans_of_step undoable stepped
      · have spec := step_spec (both.1.fits event.who) undoable stepped
        have process := spec.moves.process who (Ne.symm same)
        intro temp isCleaning
        rw [spec.invocation]
        exact both.2 temp ((congrArg Process.phase process).symm.trans isCleaning)
    · rw [begins.started who] at same
      cases same
  have engaged : (next.process who).engaged = true :=
    engaged_of_change (sound.fits who) cleans undoable stepped
      (own.imp_right fun isOut => by rw [sound.invocation]; exact isOut) change
  have ranRest : (routerKeys python keysFile).run next rest = some finish := by
    rw [Machine.run_append, ranBefore, Option.bind_some, Machine.run_cons_eq_some] at ran
    obtain ⟨other, otherStepped, ranOther⟩ := ran
    obtain rfl := Option.some.inj (stepped.symm.trans otherStepped)
    exact ranOther
  have finally_ : (finish.process who).engaged = true := by
    refine ((routerKeys python keysFile).run_invariant_of_guarded (Undoable keysFile)
      (fun world => Sound python keysFile start document world ∧ (world.process who).engaged = true)
      (fun world event after undoable stepped both => ?_) (guardedRest next stepped) ranRest
      ⟨sound_of_step sound undoable stepped, engaged⟩).2
    refine ⟨sound_of_step both.1 undoable stepped, ?_⟩
    by_cases same : event.who = who
    · exact same ▸ engaged_of_step undoable stepped (same ▸ both.2)
    · rw [(step_spec (both.1.fits event.who) undoable stepped).moves.process who (Ne.symm same)]
      exact both.2
  exact not_engaged_of_failed failed finally_

/-- Every run in which no operation fails that is not undone is transactional. -/
theorem transactional_of_undoable (begins : Begins keysFile start document) {events : List Event}
    {finish : World}
    (guarded : (routerKeys python keysFile).Guarded (Undoable keysFile) start events)
    (ran : (routerKeys python keysFile).run start events = some finish) :
    Transactional python keysFile start document events finish := by
  have sound := sound_of_run begins guarded ran
  obtain ⟨order, result, nodup, savedIff, ranSerially, -, file⟩ := sound.serial
  obtain ⟨same, unique⟩ := names_serially ranSerially
  refine ⟨⟨order, result, ⟨nodup, savedIff, ranSerially, unique, fun name => ?_⟩, file⟩,
    fun who out ended isOut => ?_,
    fun who failed => ⟨untouched_of_failed begins guarded ran failed (.inl rfl),
      fun out isOut => untouched_of_failed begins guarded ran failed (.inr isOut)⟩⟩
  · rw [same, mem_namesAfter]
    simp only [List.forall_mem_map]
  · have written : (finish.process who).written = some out := by
      rw [process_eq ended, sound.invocation]
      exact isOut
    rw [← sound.invocation]
    exact (sound.fits who).written out written

end Runs

/-! ### Two runs -/

def keysPath : Text := text "/k"

/-- One invocation adds a key; the others revoke all. -/
def oneAdd (who : ℕ) : Process :=
  if who = 0 then
    ⟨⟨.add ⟨text "a", text "m", .finite 1, text "/o"⟩, text "t", 0⟩, .started⟩
  else ⟨⟨.revokeAll, [], 0⟩, .started⟩

/-- There is no file at first. -/
def emptyWorld : World := ⟨fun _ => none, none, oneAdd⟩

/-- The `add` goes on. -/
def goesOn : Event := ⟨0, .done (text "/t")⟩

/-- The `add` runs while a `revoke --all` waits for the lock. -/
theorem oneAdd_transactional : ∃ finish, finish.phase 0 = .ended (.returned 0) ∧
    Transactional .exact keysPath emptyWorld .empty
      ([goesOn, goesOn, ⟨1, .done []⟩] ++ List.replicate 8 goesOn) finish := by
  refine ⟨_, ?_, transactional_of_undoable ⟨fun who => ?_, rfl⟩ ?_ rfl⟩
  · rfl
  · show (oneAdd who).phase = .started
    unfold oneAdd
    split <;> rfl
  · have cons := @Machine.guarded_cons World Event (routerKeys .exact keysPath) (Undoable keysPath)
    refine cons (fun _ => by decide) rfl <| cons trivial rfl <| cons (fun _ => by decide) rfl <|
      cons trivial rfl <| cons (fun _ => by decide) rfl <| cons trivial rfl <|
      cons (fun _ => by decide) rfl <| cons trivial rfl <| cons trivial rfl <| cons trivial rfl <|
      cons trivial rfl trivial

/-- An `add` fails at `mkstemp` and leaves its `--out` file. -/
theorem out_left : ∃ finish,
    (routerKeys .exact keysPath).run emptyWorld (List.replicate 5 goesOn ++ [⟨0, .fails .other⟩, goesOn]) =
        some finish ∧ finish.phase 0 = .ended .raised ∧
      ¬ Transactional .exact keysPath emptyWorld .empty
          (List.replicate 5 goesOn ++ [⟨0, .fails .other⟩, goesOn]) finish := by
  refine ⟨_, rfl, rfl, fun transactional => ?_⟩
  have untouched := (transactional.untouched 0 rfl).2 (text "/o") rfl
  have same := untouched (List.replicate 3 goesOn) (.done (text "/t")) _ _ _ rfl rfl rfl
  cases same

end RouterKeys

end LocalGpuCluster
