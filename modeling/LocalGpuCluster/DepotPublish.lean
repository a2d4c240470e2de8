/-
This file models `cmd_publish` of the depot publisher over a machine where each step may fail. A file is
copied beside its place, checked and renamed into it, and what is left of the copy is removed; so at every
place that is not one for such a copy there is what was there, or the staged file that the catalogue asks
for. A file that has the name of such a copy is written over and removed.
-/

import LocalGpuCluster.DepotCatalogue
import Mathlib.Logic.Function.Basic

namespace LocalGpuCluster

namespace Depot

/-! ### The machine -/

abbrev Bytes := List UInt8

/-- The names from the root on; a file name is one of them. -/
abbrev Path := List Text

/-- The files, each with what it holds. -/
abbrev Files := Path → Option Bytes

/-- What `head` returns; a size that is not given is 0. -/
inductive Probe where
  | ok (size : ℤ)
  | absent
  | error
  deriving DecidableEq

/-- `Probe.matches`. -/
def Probe.matches (want : Json) : Probe → Bool
  | .ok size => !differ (.int size) want
  | _ => false

/-- What a step raises. -/
inductive Fault where
  | osError
  | interrupt
  | other
  deriving DecidableEq

/-- What the depot and the file system answer, by the file's name: each step may raise, and a copy that
does leaves anything where it was to go. What ends the run before the loop is left out. -/
structure Host where
  probe : Text → Probe
  confirm : Text → Probe
  unreadable : Text → Bool
  read : Text → Option Fault
  mkdir : Text → Option Fault
  copy : Text → Option Fault
  leftover : Text → Option Bytes
  written : Text → Option Fault
  replace : Text → Option Fault
  unlink : Text → Option Fault

/-- What a call is given. -/
structure Call where
  stagingDir : Path
  destDir : Path
  pid : ℕ
  apply : Bool
  sha256 : Bytes → Text

def Call.src (call : Call) (name : Text) : Path := call.stagingDir ++ [name]

def Call.dest (call : Call) (name : Text) : Path := call.destDir ++ [name]

/-- Where the copy is made. -/
def Call.tmp (call : Call) (name : Text) : Path :=
  call.destDir ++ [text "." ++ name ++ text ".partial-" ++ decimal (call.pid : ℕ)]

/-! ### The survey -/

/-- A row of `survey`. -/
structure Row where
  file : Text
  size : Json
  checksum : Json
  probe : Probe
  staged : Bool
  unverifiable : Text

/-- `row["published"]`. -/
def Row.published (row : Row) : Bool := row.probe.matches row.size

def isNull : Json → Bool
  | .null => true
  | _ => false

/-- What the catalogue does not say of a file. -/
def unverifiable (size checksum : Json) : Text :=
  if isNull size then text "catalogue gives no size"
  else if checksum.truthy then []
  else text "catalogue gives no checksum"

section Publish

variable (call : Call) (host : Host)

/-- The row of a required file. -/
def surveyRow (files : Files) (entry : Entry) : Row :=
  let reason := unverifiable entry.size entry.checksum
  { file := entry.fileName
    size := entry.size
    checksum := entry.checksum
    probe := host.probe entry.fileName
    staged :=
      reason = [] && !host.unreadable entry.fileName &&
        match files (call.src entry.fileName) with
        | some bytes => !differ (.int bytes.length) entry.size
        | none => false
    unverifiable := reason }

/-! ### Publishing -/

/-- `sha256_file` opens the staged file and reads it. -/
def readStaged (files : Files) (name : Text) : Except Fault Bytes :=
  match host.read name, files (call.src name) with
  | some fault, _ => .error fault
  | none, some bytes => .ok bytes
  | none, none => .error .osError

/-- The `try` block: whether the copy has the right size, and is in its place then. -/
def copyInto (row : Row) (bytes : Bytes) (files : Files) : Files × Except Fault Bool :=
  let copied := Function.update files (call.tmp row.file) (some bytes)
  match host.mkdir row.file, host.copy row.file, host.written row.file, host.replace row.file with
  | some fault, _, _, _ => (files, .error fault)
  | none, some fault, _, _ =>
      (Function.update files (call.tmp row.file) (host.leftover row.file), .error fault)
  | none, none, some fault, _ => (copied, .error fault)
  | none, none, none, replaced =>
      if differ (.int bytes.length) row.size then (copied, .ok false)
      else
        match replaced with
        | some fault => (copied, .error fault)
        | none =>
            (Function.update (Function.update copied (call.dest row.file) (some bytes))
              (call.tmp row.file) none, .ok true)

/-- How the loop goes on. -/
inductive Flow where
  | next
  | stop
  | raised
  deriving DecidableEq

structure State where
  files : Files
  problems : ℕ

/-- One more problem. -/
def State.failed (state : State) : State := { state with problems := state.problems + 1 }

/-- The handler behind the `try` block. -/
def handle (state : State) : Except Fault Bool → State × Flow
  | .ok true => (state, .next)
  | .ok false => (state.failed, .next)
  | .error .osError => (state.failed, .next)
  | .error .interrupt => (state.failed, .stop)
  | .error .other => (state, .raised)

/-- The `finally` block. -/
def cleanUp (row : Row) (after : State × Flow) : State × Flow :=
  match host.unlink row.file with
  | none => ({ after.1 with files := Function.update after.1.files (call.tmp row.file) none }, after.2)
  | some .osError => after
  | some _ => (after.1, .raised)

/-- One file of `cmd_publish`. -/
def publishRow (row : Row) (state : State) : State × Flow :=
  if row.unverifiable ≠ [] then (state.failed, .next)
  else if row.published then (state, .next)
  else if row.probe = .error ∨ row.staged = false then (state.failed, .next)
  else
    match readStaged call host state.files row.file with
    | .error .osError => (state.failed, .next)
    | .error _ => (state, .raised)
    | .ok bytes =>
        match row.checksum with
        | .str checksum =>
            if call.sha256 bytes ≠ checksum.lower then (state.failed, .next)
            else if !call.apply then (state, .next)
            else
              let (files, outcome) := copyInto call host row bytes state.files
              cleanUp call host row (handle { state with files } outcome)
        | _ => (state, .raised)

/-- The loop over the files. -/
def publishRows : List Row → State → State × Flow
  | [], state => (state, .next)
  | row :: rest, state =>
      match publishRow call host row state with
      | (after, .next) => publishRows rest after
      | (after, .stop) => (after, .stop)
      | (after, .raised) => (after, .raised)

/-- The files that the depot does not serve as they should be. -/
def unconfirmed (rows : List Row) : ℕ :=
  rows.countP fun row => !(host.confirm row.file).matches row.size

/-- `cmd_publish`: the files it leaves, and its exit status where it does not raise. -/
def publish (required : Except Text (List Entry)) (files : Files) : Files × Option ℕ :=
  match required with
  | .error _ => (files, none)
  | .ok [] => (files, none)
  | .ok entries =>
      let rows := entries.map (surveyRow call host files)
      match publishRows call host rows ⟨files, 0⟩ with
      | (after, .raised) => (after.files, none)
      | (after, _) =>
          let problems :=
            if call.apply && after.problems = 0 then unconfirmed host rows else after.problems
          (after.files, some (if problems = 0 then 0 else 1))

end Publish

/-! ### What a run does -/

section Effect

variable (call : Call) (host : Host) (files : Files) (entries : List Entry)

/-- The staged file is what the catalogue says. -/
def Verified (entry : Entry) (bytes : Bytes) : Prop :=
  files (call.src entry.fileName) = some bytes ∧ differ (.int bytes.length) entry.size = false ∧
    ∃ checksum, entry.checksum = .str checksum ∧ call.sha256 bytes = checksum.lower

/-- A place holds what it held, or it is that of a file that was not served as it should be, and holds
the verified staged file. -/
def Expected (path : Path) (content : Option Bytes) : Prop :=
  content = files path ∨ ∃ entry ∈ entries, path = call.dest entry.fileName ∧
    (host.probe entry.fileName).matches entry.size = false ∧
      ∃ bytes, Verified call files entry bytes ∧ content = some bytes

/-- A place where a copy is made. -/
def Scratch (path : Path) : Prop := ∃ entry ∈ entries, path = call.tmp entry.fileName

/-- No removal fails. -/
def Removes : Prop := ∀ name, host.unlink name = none

/-- What may stand at a place: where copies are made, anything that could not be removed. -/
def Allowed (path : Path) (content : Option Bytes) : Prop :=
  Expected call host files entries path content ∨
    Scratch call entries path ∧ (Removes host → content = none)

end Effect

section Steps

variable {call : Call} {host : Host} {files : Files} {entries : List Entry} {row : Row} {state : State}

theorem Call.path_injective {front back : Path} {first second : Text}
    (same : front ++ [first] = back ++ [second]) : front = back ∧ first = second :=
  ⟨List.append_inj_left' same rfl, List.singleton_inj.mp (List.append_inj_right' same rfl)⟩

/-- The copy changes the place of the file and that of the copy. -/
theorem copyInto_of_ne {bytes : Bytes} {path : Path} (other : path ≠ call.tmp row.file) :
    (copyInto call host row bytes files).1 path = files path ∨ path = call.dest row.file ∧
      differ (.int bytes.length) row.size = false ∧
        (copyInto call host row bytes files).1 path = some bytes := by
  unfold copyInto
  dsimp only
  split
  · exact Or.inl rfl
  · exact Or.inl (Function.update_of_ne other _ _)
  · exact Or.inl (Function.update_of_ne other _ _)
  · split
    · exact Or.inl (Function.update_of_ne other _ _)
    · rename_i same
      split
      · exact Or.inl (Function.update_of_ne other _ _)
      · dsimp only
        rw [Function.update_of_ne other]
        by_cases isDest : path = call.dest row.file
        · refine Or.inr ⟨isDest, Bool.eq_false_iff.mpr same, ?_⟩
          rw [isDest, Function.update_self]
        · rw [Function.update_of_ne isDest, Function.update_of_ne other]
          exact Or.inl rfl

theorem handle_files (outcome : Except Fault Bool) : (handle state outcome).1.files = state.files := by
  unfold handle
  split <;> rfl

theorem cleanUp_of_ne {after : State × Flow} {path : Path} (other : path ≠ call.tmp row.file) :
    (cleanUp call host row after).1.files path = after.1.files path := by
  unfold cleanUp
  split
  · exact Function.update_of_ne other _ _
  · rfl
  · rfl

theorem cleanUp_self {after : State × Flow} (removes : Removes host) :
    (cleanUp call host row after).1.files (call.tmp row.file) = none := by
  unfold cleanUp
  rw [removes row.file]
  exact Function.update_self _ _ _

/-- A file that is published is staged as the catalogue says, and was not served so. -/
theorem publishRow_files (call : Call) (host : Host) (row : Row) (state : State) :
    (publishRow call host row state).1.files = state.files ∨
      call.apply = true ∧ row.published = false ∧
        ∃ bytes checksum, state.files (call.src row.file) = some bytes ∧
          row.checksum = .str checksum ∧ call.sha256 bytes = checksum.lower ∧
            (publishRow call host row state).1.files =
              (cleanUp call host row (handle
                { state with files := (copyInto call host row bytes state.files).1 }
                (copyInto call host row bytes state.files).2)).1.files := by
  unfold publishRow
  split
  · exact Or.inl rfl
  · split
    · exact Or.inl rfl
    · rename_i unpublished
      split
      · exact Or.inl rfl
      · split
        · exact Or.inl rfl
        · exact Or.inl rfl
        · rename_i bytes read
          split
          · rename_i checksum isText
            split
            · exact Or.inl rfl
            · rename_i same
              split
              · exact Or.inl rfl
              · rename_i applies
                refine Or.inr ⟨by simpa using applies, Bool.eq_false_iff.mpr unpublished, bytes, checksum, ?_,
                  isText, not_not.mp same, rfl⟩
                unfold readStaged at read
                split at read
                · cases read
                · rename_i staged
                  rw [staged, Except.ok.inj read]
                · cases read
          · exact Or.inl rfl

/-- What a staged file holds now is what it held, unless copies are made where it is. -/
theorem verified_of_allowed {entry : Entry} {bytes : Bytes}
    (allowed : ∀ path, Allowed call host files entries path (state.files path)) (staged : state.files (call.src entry.fileName) = some bytes) :
    files (call.src entry.fileName) = some bytes ∨
      Scratch call entries (call.dest entry.fileName) ∧ ¬ Removes host := by
  obtain (same | ⟨other, _, place, _, published, ⟨isStaged, _, _⟩, content⟩) |
    ⟨⟨other, isOther, place⟩, removed⟩ := allowed (call.src entry.fileName)
  · exact Or.inl (same.symm.trans staged)
  · obtain ⟨_, named⟩ := Call.path_injective place
    rw [staged] at content
    rw [named, content]
    exact Or.inl isStaged
  · -- The staging directory is that of the depot, so the file would be published there too.
    obtain ⟨sameDir, named⟩ := Call.path_injective place
    refine Or.inr ⟨⟨other, isOther, ?_⟩, fun removes => ?_⟩
    · rw [Call.dest, named]
      rfl
    · rw [staged] at removed
      cases removed removes

/-- One file keeps what may stand at each place. -/
theorem publishRow_allowed {entry : Entry} (isEntry : entry ∈ entries)
    (allowed : ∀ path, Allowed call host files entries path (state.files path)) (path : Path) :
    Allowed call host files entries path
      ((publishRow call host (surveyRow call host files entry) state).1.files path) := by
  obtain same | ⟨_, unpublished, bytes, checksum, staged, isText, digest, result⟩ :=
    publishRow_files call host (surveyRow call host files entry) state
  · rw [same]
    exact allowed path
  · rw [result]
    by_cases isCopy : path = call.tmp entry.fileName
    · refine Or.inr ⟨⟨entry, isEntry, isCopy⟩, fun removes => ?_⟩
      rw [isCopy]
      exact @cleanUp_self call host (surveyRow call host files entry) _ removes
    · rw [cleanUp_of_ne isCopy, handle_files]
      obtain same | ⟨isDest, size, content⟩ :=
        @copyInto_of_ne call host state.files (surveyRow call host files entry) bytes path isCopy
      · dsimp only
        rw [same]
        exact allowed path
      · dsimp only
        rw [content]
        obtain isStaged | ⟨isScratch, remains⟩ := verified_of_allowed allowed staged
        · exact Or.inl (Or.inr ⟨entry, isEntry, isDest, unpublished, bytes,
            ⟨isStaged, size, checksum, isText, digest⟩, rfl⟩)
        · exact Or.inr ⟨isDest ▸ isScratch, fun removes => absurd removes remains⟩

/-- So does the loop. -/
theorem publishRows_allowed {part : List Entry} (within : ∀ entry ∈ part, entry ∈ entries)
    (allowed : ∀ path, Allowed call host files entries path (state.files path)) (path : Path) :
    Allowed call host files entries path
      ((publishRows call host (part.map (surveyRow call host files)) state).1.files path) := by
  induction part generalizing state with
  | nil => exact allowed path
  | cons entry rest inductionHypothesis =>
    obtain ⟨isEntry, others⟩ := List.forall_mem_cons.mp within
    have step := publishRow_allowed isEntry allowed
    rw [List.map_cons, publishRows]
    split
    · rename_i after isNext
      rw [isNext] at step
      exact inductionHypothesis others step
    · rename_i after isStop
      rw [isStop] at step
      exact step path
    · rename_i after isRaised
      rw [isRaised] at step
      exact step path

/-- A dry run writes nothing. -/
theorem publishRows_dry (dry : call.apply = false) (rows : List Row) :
    (publishRows call host rows state).1.files = state.files := by
  induction rows generalizing state with
  | nil => rfl
  | cons row rest inductionHypothesis =>
    have step : (publishRow call host row state).1.files = state.files := by
      obtain same | ⟨applies, _⟩ := publishRow_files call host row state
      · exact same
      · rw [dry] at applies
        cases applies
    rw [publishRows]
    split
    · rename_i after isNext
      rw [isNext] at step
      exact inductionHypothesis.trans step
    · rename_i after isStop
      rwa [isStop] at step
    · rename_i after isRaised
      rwa [isRaised] at step

/-- What is left is what the loop leaves, whatever it ends with. -/
theorem publish_files {required : Except Text (List Entry)} :
    (publish call host required files).1 = files ∨ ∃ entries, required = .ok entries ∧
      (publish call host required files).1 =
        (publishRows call host (entries.map (surveyRow call host files)) ⟨files, 0⟩).1.files := by
  unfold publish
  split
  · exact Or.inl rfl
  · exact Or.inl rfl
  · rename_i entries _
    refine Or.inr ⟨entries, rfl, ?_⟩
    dsimp only
    split
    · rename_i after result
      rw [result]
    · rename_i after flow _ result
      rw [result]

/-- With status 0 every file was served in the end as it should be. -/
theorem confirmed_of_exit {required : Except Text (List Entry)} (applies : call.apply = true)
    (exit : (publish call host required files).2 = some 0) :
    ∃ entries, required = .ok entries ∧
      ∀ entry ∈ entries, (host.confirm entry.fileName).matches entry.size = true := by
  unfold publish at exit
  split at exit
  · cases exit
  · cases exit
  · rename_i entries _
    refine ⟨entries, rfl, fun entry isEntry => ?_⟩
    dsimp only at exit
    split at exit
    · cases exit
    · rename_i after flow _ result
      rw [applies, Bool.true_and] at exit
      have clean : (if decide (after.problems = 0) = true then
          unconfirmed host (entries.map (surveyRow call host files)) else after.problems) = 0 := by
        by_contra some
        rw [if_neg some] at exit
        cases exit
      split at clean
      · rw [unconfirmed, List.countP_eq_zero] at clean
        have confirmed := clean _ (List.mem_map_of_mem isEntry)
        rwa [Bool.not_eq_true', Bool.not_eq_false] at confirmed
      · rename_i some
        exact absurd (decide_eq_true clean) some

end Steps

/-! ### Result -/

/-- What the files are required of: the selected binaries, which must not disagree. -/
structure Requires (items : List (Text × Binary)) (required : Except Text (List Entry)) : Prop where
  raises : (∃ message, required = .error message) ↔ ¬ Consistent items
  covers : ∀ entries, required = .ok entries → Covers items (binariesOf entries)

/-- What a run leaves: at each place what may stand there, nothing new after a dry run, and status 0 of a
run that writes only where the depot serves every file in the end. -/
structure Leaves (call : Call) (host : Host) (files : Files) (required : Except Text (List Entry))
    (after : Files × Option ℕ) : Prop where
  refused : ∀ message, required = .error message → after = (files, none)
  allowed : ∀ entries, required = .ok entries →
    ∀ path, Allowed call host files entries path (after.1 path)
  dry : call.apply = false → after.1 = files
  confirmed : call.apply = true → after.2 = some 0 → ∃ entries, required = .ok entries ∧
    ∀ entry ∈ entries, (host.confirm entry.fileName).matches entry.size = true

/-- The required files are those of the catalogue, and publishing leaves what it should. -/
theorem publish_leaves (repr : Json → Text) (catalog : Catalogue) (component version : Text)
    (types : List Text) (call : Call) (host : Host) (files : Files) :
    let required := requiredFiles repr component version catalog types
    Requires (selected catalog component version types) required ∧
      Leaves call host files required (publish call host required files) := by
  intro required
  refine ⟨⟨?_, fun entries found => requiredFiles_covers repr component version found⟩,
    fun message raised => ?_, fun entries found path => ?_, fun dry => ?_, confirmed_of_exit⟩
  · have found := requiredFiles_ok_iff repr component version catalog types
    rw [← found]
    constructor
    · rintro ⟨message, raised⟩ ⟨entries, isOk⟩
      cases raised.symm.trans isOk
    · intro nothing
      cases outcome : required with
      | error message => exact ⟨message, rfl⟩
      | ok entries => exact absurd ⟨entries, outcome⟩ nothing
  · rw [raised]
    rfl
  · have start : ∀ path, Allowed call host files entries path (files path) := fun _ => Or.inl (Or.inl rfl)
    obtain same | ⟨others, found', result⟩ := @publish_files call host files required
    · rw [same]
      exact start path
    · cases found.symm.trans found'
      rw [result]
      exact publishRows_allowed (fun _ => id) start path
  · obtain same | ⟨entries, _, result⟩ := @publish_files call host files required
    · exact same
    · exact result.trans (publishRows_dry dry _)

/-- A catalogue with one file, and the digest of what is staged for it. -/
def oneFile : Catalogue :=
  [(text "VRLI", [⟨text "9.1", [⟨text "INSTALL", [⟨text "a", .int 1,
    .str (text "ca978112ca1bbdcafac231b39a23dc4da786eff8147c4e72b9807785afee48bb")⟩]⟩]⟩])]

def oneCall : Call where
  stagingDir := [text "staging"]
  destDir := [text "VRLI"]
  pid := 7
  apply := true
  sha256 _ := text "ca978112ca1bbdcafac231b39a23dc4da786eff8147c4e72b9807785afee48bb"

/-- The depot has no such file yet, and nothing fails. -/
def sound : Host where
  probe _ := .absent
  confirm _ := .ok 1
  unreadable _ := false
  read _ := none
  mkdir _ := none
  copy _ := none
  leftover _ := none
  written _ := none
  replace _ := none
  unlink _ := none

/-- The file is staged, and the depot holds a file with the name that its copy has. -/
def withPartial : Files := fun path =>
  if path = [text "staging", text "a"] then some [0x61]
  else if path = [text "VRLI", text ".a.partial-7"] then some [1]
  else none

/-- A file of the depot that has the name of a copy is removed. -/
theorem not_expected_partial : ¬ ∀ (repr : Json → Text) (catalog : Catalogue)
    (component version : Text) (types : List Text) (call : Call) (host : Host) (files : Files)
    (entries : List Entry), Removes host →
      requiredFiles repr component version catalog types = .ok entries → ∀ path,
        Expected call host files entries path ((publish call host (.ok entries) files).1 path) := by
  intro claimed
  have expected := claimed (fun _ => []) oneFile (text "VRLI") (text "9.1") [text "INSTALL"] oneCall
    sound withPartial [⟨⟨text "a", .int 1, .str (text
      "ca978112ca1bbdcafac231b39a23dc4da786eff8147c4e72b9807785afee48bb")⟩, [text "INSTALL"]⟩]
    (fun _ => rfl) rfl [text "VRLI", text ".a.partial-7"]
  have removed : (publish oneCall sound (.ok [⟨⟨text "a", .int 1, .str (text
      "ca978112ca1bbdcafac231b39a23dc4da786eff8147c4e72b9807785afee48bb")⟩, [text "INSTALL"]⟩])
      withPartial).1 [text "VRLI", text ".a.partial-7"] = none := by decide +kernel
  rw [removed] at expected
  obtain same | ⟨_, _, _, _, _, _, content⟩ := expected
  · have held : withPartial [text "VRLI", text ".a.partial-7"] = some [1] := by decide
    rw [held] at same
    cases same
  · cases content

end Depot

end LocalGpuCluster
