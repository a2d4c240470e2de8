/-
This file models `router-keys.py` with any number of invocations of `add` and `revoke` on one keys file.
An invocation goes through one file operation after the other, each of which may fail, and the operations
of different invocations come in any order; only `flock` makes one wait for another. A file is a complete
JSON document, the line of a key, or something else.
-/

import LocalGpuCluster.AccessKeys
import LocalGpuCluster.Dictionary
import LocalGpuCluster.Machine

namespace LocalGpuCluster

namespace RouterKeys

open AccessKeys (isName)

/-! ### The keys -/

/-- The arguments of `add`. -/
structure Add where
  name : Text
  aliases : Text
  ttlHours : Float64
  out : Text
  deriving DecidableEq

inductive Command where
  | add (args : Add)
  | revoke (name : Text)
  /-- `revoke --all`. -/
  | revokeAll
  deriving DecidableEq

/-- A command with the token and the time that it gets. -/
structure Invocation where
  command : Command
  /-- `secrets.token_urlsafe(32)`. -/
  token : Text
  /-- `time.time()`. -/
  now : ℚ
  deriving DecidableEq

/-- `[x.strip() for x in a.aliases.split(",") if x.strip()]`. -/
def Add.aliasList (args : Add) : List Text :=
  ((args.aliases.splitOn 0x2C).map fun part => Text.strip CodePoint.isSpace part).filter (· ≠ [])

/-- `0 < a.ttl_hours <= MAX_TTL_HOURS`. -/
def Add.validTtl (args : Add) : Bool :=
  match args.ttlHours with
  | .finite hours => 0 < hours && hours ≤ 336
  | .infinite | .notANumber => false

/-- `cmd_add` refuses before it opens anything. -/
def Command.refused : Command → Bool
  | .add args =>
      !isName args.name || args.name = text "owner" || args.aliasList = [] || !args.validTtl
  | .revoke _ | .revokeAll => false

/-- The plaintext key. -/
def Invocation.key (invocation : Invocation) : Text := text "wf_" ++ invocation.token

/-- The entry that `add` appends. -/
def Invocation.entry (python : Python) (invocation : Invocation) (args : Add) : Json :=
  let hours := match args.ttlHours with
    | .finite hours => hours
    | .infinite | .notANumber => 0
  .obj [(text "name", .str args.name), (text "sha256", .str (python.sha256 invocation.key)),
    (text "aliases", .arr (args.aliasList.map .str)),
    (text "expires", .float (.finite (invocation.now + hours * 3600)))]

/-- The name of an entry. -/
def nameOf : Json → Option Text
  | .obj fields =>
      match fields.lookup (text "name") with
      | some (.str name) => some name
      | _ => none
  | _ => none

/-- `entry.get("name") == name`; what is no dict raises. -/
def isNamed (name : Text) (entry : Json) : Option Bool :=
  match entry with
  | .obj _ => some (nameOf entry = some name)
  | _ => none

/-- `any(e.get("name") == name for e in keys)`. -/
def anyNamed (name : Text) : List Json → Option Bool
  | [] => some false
  | entry :: rest => (isNamed name entry).bind fun named => if named then some true else anyNamed name rest

/-- `[e for e in keys if e.get("name") != name]`. -/
def withoutNamed (name : Text) : List Json → Option (List Json)
  | [] => some []
  | entry :: rest =>
      (isNamed name entry).bind fun named =>
        (withoutNamed name rest).map fun kept => if named then kept else entry :: kept

/-- What an invocation makes of the keys it has loaded. -/
inductive Verdict where
  | raises
  | returns (code : ℕ)
  | saves (keys : List Json)

/-- `_add_locked` and `_revoke_locked`, without what they do to files. -/
def Invocation.verdict (python : Python) (invocation : Invocation) (keys : List Json) : Verdict :=
  match invocation.command with
  | .add args =>
      match anyNamed args.name keys with
      | none => .raises
      | some true => .returns 2
      | some false => .saves (keys ++ [invocation.entry python args])
  | .revoke name =>
      match withoutNamed name keys with
      | none => .raises
      | some kept => if keys.length - kept.length = 0 then .returns 1 else .saves kept
  | .revokeAll => .saves []

/-! ### Documents -/

/-- A JSON object whose `keys` are a list. -/
structure Document where
  fields : List (Text × Json)
  keys : List Json
  isList : fields.lookup (text "keys") = some (.arr keys)

/-- `{"keys": []}`. -/
def Document.empty : Document := ⟨[(text "keys", .arr [])], [], rfl⟩

theorem lookup_assign (fields : List (Text × Json)) (key : Text) (value : Json) :
    (Dictionary.assign fields key value).lookup key = some value := by
  unfold Dictionary.assign
  split
  case isTrue known =>
    induction fields with
    | nil => exact absurd known List.not_mem_nil
    | cons field rest inductionHypothesis =>
      by_cases same : field.1 = key
      · rw [List.map_cons, if_pos same, List.lookup_cons, beq_self_eq_true]
      · rw [List.map_cons, if_neg same, List.lookup_cons, beq_false_of_ne (Ne.symm same)]
        exact inductionHypothesis ((List.mem_cons.mp known).resolve_left (Ne.symm same))
  case isFalse missing =>
    rw [List.lookup_append, List.lookup_eq_none_iff.mpr fun field member =>
      bne_iff_ne.mpr fun same : key = field.1 => missing (same ▸ List.mem_map_of_mem member)]
    show List.lookup key [(key, value)] = some value
    rw [List.lookup_cons, beq_self_eq_true]

/-- `data["keys"] = keys`. -/
def Document.setKeys (document : Document) (keys : List Json) : Document :=
  ⟨Dictionary.assign document.fields (text "keys") (.arr keys), keys, lookup_assign ..⟩

/-- What an invocation makes of a document; `none` when it leaves it as it is. -/
def Invocation.apply (python : Python) (invocation : Invocation) (document : Document) :
    Option Document :=
  match invocation.verdict python document.keys with
  | .saves keys => some (document.setKeys keys)
  | .raises | .returns _ => none

/-! ### Files -/

/-- What is in a file. -/
inductive Content where
  | json (value : Json)
  /-- The line of a key. -/
  | key (plaintext : Text)
  | other

def Document.content (document : Document) : Content := .json (.obj document.fields)

/-- `_load`; `none` when it raises. -/
def load : Option Content → Option Document
  | none => some .empty
  | some (.json (.obj fields)) =>
      match isList : fields.lookup (text "keys") with
      | some (.arr keys) => some ⟨fields, keys, isList⟩
      | _ => none
  | some _ => none

/-! ### Invocations at work -/

/-- How an invocation ends. -/
inductive Outcome where
  | returned (code : ℕ)
  | raised
  deriving DecidableEq

/-- Where an invocation is: the operation that comes next, with what it has read. -/
inductive Phase where
  /-- Before `os.open` of the lock file. -/
  | started
  /-- Before `flock`. -/
  | waiting
  /-- Before `_load`. -/
  | locked
  /-- Before `os.open` of the `--out` file. -/
  | creating (next : Document)
  /-- Before the key is written. -/
  | writing (next : Document)
  /-- Before `mkstemp`. -/
  | saving (next : Document)
  /-- Before `json.dump`, `chmod` and `chown` of the temporary file. -/
  | dumping (next : Document) (temp : Text)
  /-- Before `os.replace`. -/
  | replacing (next : Document) (temp : Text)
  /-- Before the temporary file is removed, as saving failed. -/
  | cleaning (temp : Text)
  /-- Before `print`. -/
  | reporting
  /-- Before the lock file is closed. -/
  | closing (outcome : Outcome)
  | ended (outcome : Outcome)

structure Process where
  invocation : Invocation
  phase : Phase

/-- All files, the holder of the lock, and the invocations. -/
structure World where
  files : Text → Option Content
  holder : Option ℕ
  process : ℕ → Process

/-- What happens to the operation that comes next. -/
inductive Happening where
  /-- It is done; `mkstemp` makes the file `temp`. -/
  | done (temp : Text)
  /-- It raises; where it writes, it leaves `left`. -/
  | fails (left : Content)

structure Event where
  who : ℕ
  happening : Happening

namespace World

def phase (world : World) (who : ℕ) : Phase := (world.process who).phase

def invocation (world : World) (who : ℕ) : Invocation := (world.process who).invocation

/-- The invocation goes on to a phase. -/
def goto (world : World) (who : ℕ) (next : Phase) : World :=
  { world with
    process := Function.update world.process who { world.process who with phase := next } }

def write (world : World) (path : Text) (content : Option Content) : World :=
  { world with files := Function.update world.files path content }

/-- Closing the lock file releases the lock. -/
def release (world : World) (who : ℕ) : World :=
  { world with holder := if world.holder = some who then none else world.holder }

end World

/-- `open` with `O_CREAT`. -/
def World.opened (world : World) (path : Text) : World :=
  if (world.files path).isNone then world.write path (some .other) else world

section Operations

variable (world : World) (who : ℕ) (next : Phase) (path : Text) (content : Option Content)

@[simp] theorem World.goto_files : (world.goto who next).files = world.files := rfl

@[simp] theorem World.goto_holder : (world.goto who next).holder = world.holder := rfl

@[simp] theorem World.goto_process_self :
    (world.goto who next).process who = ⟨world.invocation who, next⟩ := Function.update_self ..

@[simp] theorem World.goto_phase_self : (world.goto who next).phase who = next :=
  congrArg Process.phase (goto_process_self ..)

theorem World.goto_process_of_ne {other : ℕ} (ne : other ≠ who) :
    (world.goto who next).process other = world.process other := Function.update_of_ne ne ..

@[simp] theorem World.goto_invocation : (world.goto who next).invocation = world.invocation := by
  funext other
  by_cases same : other = who
  · subst same
    show ((world.goto other next).process other).invocation = _
    rw [goto_process_self]
  · exact congrArg Process.invocation (goto_process_of_ne _ _ _ same)

@[simp] theorem World.write_process : (world.write path content).process = world.process := rfl

@[simp] theorem World.write_holder : (world.write path content).holder = world.holder := rfl

@[simp] theorem World.write_invocation :
    (world.write path content).invocation = world.invocation := rfl

@[simp] theorem World.write_files_self : (world.write path content).files path = content :=
  Function.update_self ..

theorem World.write_files_of_ne {other : Text} (ne : other ≠ path) :
    (world.write path content).files other = world.files other := Function.update_of_ne ne ..

@[simp] theorem World.release_files : (world.release who).files = world.files := rfl

@[simp] theorem World.release_process : (world.release who).process = world.process := rfl

@[simp] theorem World.release_invocation : (world.release who).invocation = world.invocation := rfl

theorem World.release_holder {other : ℕ} (ne : other ≠ who) (holds : world.holder = some other) :
    (world.release who).holder = some other := by
  rw [World.release, if_neg fun same => ne (Option.some.inj (holds.symm.trans same))]
  exact holds

@[simp] theorem World.opened_process : (world.opened path).process = world.process := by
  unfold World.opened
  split <;> rfl

@[simp] theorem World.opened_holder : (world.opened path).holder = world.holder := by
  unfold World.opened
  split <;> rfl

@[simp] theorem World.opened_invocation : (world.opened path).invocation = world.invocation := by
  unfold World.opened
  split <;> rfl

theorem World.opened_files (other : Text) : (world.opened path).files other = world.files other ∨
    other = path ∧ world.files path = none := by
  unfold World.opened
  split
  case isTrue missing =>
    by_cases same : other = path
    · exact .inr ⟨same, Option.isNone_iff_eq_none.mp missing⟩
    · exact .inl (write_files_of_ne _ _ _ same)
  case isFalse => exact .inl rfl

end Operations

/-- The lock file. -/
def lockFile (keysFile : Text) : Text := keysFile ++ text ".lock"

section Step

variable (python : Python) (keysFile : Text)

/-- The phase after `_load` and the check of the names. -/
def afterLoad (invocation : Invocation) (document : Document) : Phase :=
  match invocation.verdict python document.keys with
  | .raises => .closing .raised
  | .returns code => .closing (.returned code)
  | .saves keys =>
      match invocation.command with
      | .add _ => .creating (document.setKeys keys)
      | .revoke _ | .revokeAll => .saving (document.setKeys keys)

/-- The `--out` file of an `add`. -/
def Invocation.out (invocation : Invocation) : Option Text :=
  match invocation.command with
  | .add args => some args.out
  | .revoke _ | .revokeAll => none

/-- The next operation is done; `none` when it has to wait or cannot make this file. -/
def doneStep (world : World) (who : ℕ) (temp : Text) : Option World :=
  match world.phase who with
  | .started =>
      if (world.invocation who).command.refused then some (world.goto who (.ended (.returned 2)))
      else some ((world.opened (lockFile keysFile)).goto who .waiting)
  | .waiting =>
      if world.holder.isNone then some ({ world with holder := some who }.goto who .locked) else none
  | .locked =>
      match load (world.files keysFile) with
      | none => some (world.goto who (.closing .raised))
      | some document => some (world.goto who (afterLoad python (world.invocation who) document))
  | .creating next =>
      match (world.invocation who).out with
      | some out =>
          if (world.files out).isNone then some ((world.write out (some .other)).goto who (.writing next))
          else some (world.goto who (.closing (.returned 2)))
      | none => none
  | .writing next =>
      match (world.invocation who).out with
      | some out =>
          some ((world.write out (some (.key (world.invocation who).key))).goto who (.saving next))
      | none => none
  | .saving next =>
      if (world.files temp).isNone then
        some ((world.write temp (some .other)).goto who (.dumping next temp))
      else none
  | .dumping next temp => some ((world.write temp (some next.content)).goto who (.replacing next temp))
  | .replacing _ temp =>
      some (((world.write keysFile (world.files temp)).write temp none).goto who .reporting)
  | .cleaning temp => some ((world.write temp none).goto who (.closing .raised))
  | .reporting => some (world.goto who (.closing (.returned 0)))
  | .closing outcome => some ((world.release who).goto who (.ended outcome))
  | .ended _ => none

/-- The next operation raises. -/
def failStep (world : World) (who : ℕ) (left : Content) : Option World :=
  match world.phase who with
  | .started =>
      if (world.invocation who).command.refused then none
      else some (world.goto who (.ended .raised))
  | .waiting | .locked | .creating _ | .saving _ | .reporting | .cleaning _ =>
      some (world.goto who (.closing .raised))
  | .writing _ =>
      match (world.invocation who).out with
      | some out => some ((world.write out (some left)).goto who (.closing .raised))
      | none => none
  | .dumping _ temp => some ((world.write temp (some left)).goto who (.cleaning temp))
  | .replacing _ temp => some (world.goto who (.cleaning temp))
  | .closing _ => some ((world.release who).goto who (.ended .raised))
  | .ended _ => none

def step (world : World) (event : Event) : Option World :=
  match event.happening with
  | .done temp => doneStep python keysFile world event.who temp
  | .fails left => failStep world event.who left

/-- Any number of invocations on one keys file. -/
def routerKeys : Machine World Event := ⟨step python keysFile⟩

end Step

end RouterKeys

end LocalGpuCluster
