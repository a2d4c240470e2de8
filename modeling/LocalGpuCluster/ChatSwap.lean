/-
This file models `swap-chat-model.sh` as steps on a host: each command of the script is a step that may
be refused or may fail after it took effect, the script may be killed between any two of them, and the
chat server changes on its own at any time. The unit file that `51-lxc-amd.sh` writes from `config.env`
is taken for the settings it was written from.
-/

import Mathlib.Data.Nat.Notation

namespace LocalGpuCluster

namespace ChatSwap

/-! ### Profiles -/

/-- The fields of a line of `get_profile`; a line without the last one has one slot. -/
structure Profile where
  repo : String
  quant : String
  modelAlias : String
  tensorSplit : String
  ctx : ℕ
  cacheReuse : String
  kvType : String
  splitMode : String
  specType : String
  specNmax : String
  parallel : ℕ
  deriving DecidableEq, Repr

/-- `get_profile`. -/
def getProfile (name : String) : Option Profile :=
  [("qwen3.6", (⟨"unsloth/Qwen3.6-35B-A3B-MTP-GGUF", "UD-Q6_K_XL", "rag-qwen3.6", "1,1.3", 262144,
      "1024", "q8_0", "layer", "draft-mtp", "3", 2⟩ : Profile)),
    ("qwen3.6-fast", ⟨"unsloth/Qwen3.6-35B-A3B-GGUF", "UD-Q4_K_M", "rag-qwen3.6-fast", "1,1", 262144,
      "1024", "q8_0", "layer", "none", "0", 1⟩),
    ("devstral", ⟨"unsloth/Devstral-Small-2-24B-Instruct-2512-GGUF", "Q8_0", "devstral", "1,1.5",
      262144, "0", "q4_0", "layer", "none", "0", 1⟩),
    ("devstral-large", ⟨"unsloth/Devstral-2-123B-Instruct-2512-GGUF", "UD-IQ2_M", "devstral-large",
      "1,1.5", 65536, "0", "q4_0", "layer", "none", "0", 1⟩),
    ("qwen3.8", ⟨"unsloth/Qwen3.8-27B-GGUF", "UD-Q6_K_XL", "qwen3.8", "1,1", 393216, "0", "q8_0",
      "tensor", "draft-mtp", "3", 3⟩),
    ("hemmingway", ⟨"bartowski/Altworld_Hemmingway-1-GGUF", "Q6_K", "hemmingway", "1,1", 262144, "1024",
      "q8_0", "tensor", "draft-mtp", "2", 1⟩),
    ("qwen3.8-redteam", ⟨"OBLITERATUS/Qwen3.8-27B-OBLITERATED", "Q6_K", "qwen3.8-redteam", "1,1",
      393216, "0", "q8_0", "tensor", "draft-mtp", "3", 3⟩)].lookup name

/-- The keys of `config.env` that a swap sets. -/
structure Settings where
  hfRepo : String
  hfQuant : String
  modelAlias : String
  tensorSplit : String
  ctx : ℕ
  parallel : ℕ
  cacheReuse : String
  kvType : String
  splitMode : String
  specType : String
  specNmax : String
  mmproj : String
  mmprojDevice : String
  visionEnabled : Bool
  chatTemplate : String
  deriving DecidableEq, Repr

/-- The vision projector of a model, its device, and whether there is one. -/
def projectorOf (modelAlias : String) : String × String × Bool :=
  if modelAlias ∈ ["qwen3.8", "qwen3.8-redteam", "hemmingway"] then
    ("/opt/models/qwen38-mmproj/mmproj-F16.gguf", "ROCm1", true)
  else if modelAlias = "rag-qwen3.6" then
    ("/opt/models/qwen36-mmproj/mmproj-F16.gguf", "ROCm0", true)
  else if modelAlias = "rag-qwen3.6-fast" then
    ("/opt/models/qwen36-fast-mmproj/mmproj-F16.gguf", "ROCm0", true)
  else if modelAlias = "devstral" then
    ("/opt/models/devstral-mmproj/mmproj-F16.gguf", "ROCm0", true)
  else ("", "", false)

/-- What `write_config_env` sets for a profile. -/
def Profile.settings (profile : Profile) : Settings where
  hfRepo := profile.repo
  hfQuant := profile.quant
  modelAlias := profile.modelAlias
  tensorSplit := profile.tensorSplit
  ctx := profile.ctx
  parallel := profile.parallel
  cacheReuse := profile.cacheReuse
  kvType := profile.kvType
  splitMode := profile.splitMode
  specType := profile.specType
  specNmax := profile.specNmax
  mmproj := (projectorOf profile.modelAlias).1
  mmprojDevice := (projectorOf profile.modelAlias).2.1
  visionEnabled := (projectorOf profile.modelAlias).2.2
  chatTemplate :=
    if profile.modelAlias = "qwen3.8-redteam" then "/opt/models/chat-templates/qwen3.8.jinja" else ""

/-- `"${TARGET_REPO}:${TARGET_QUANT}"`. -/
def Profile.hfRepo (profile : Profile) : String := profile.repo ++ ":" ++ profile.quant

/-- `chat_check_slot_ctx`: no slot has more context than this. -/
def Profile.fitsSlot (profile : Profile) (maxSlotCtx : ℕ) : Bool :=
  0 < profile.ctx && 0 < profile.parallel && 0 < maxSlotCtx &&
    profile.ctx / profile.parallel ≤ maxSlotCtx

/-! ### The host -/

inductive Status where
  | active
  | loading
  | failed
  deriving DecidableEq, Repr

/-- The chat server, and what was in the unit it was started from. -/
structure Server where
  status : Status
  startedFrom : Option Settings
  deriving DecidableEq, Repr

structure Host where
  /-- The settings in `config.env`. -/
  config : Settings
  /-- The chat unit file. -/
  unit : Option Settings
  /-- The chat unit as systemd has it since it last reloaded its units. -/
  loaded : Option Settings
  server : Server
  deriving DecidableEq, Repr

/-- What the server does on its own. A server that fails is started again from the unit that systemd
has, and a container that starts again starts its server from the unit file. -/
inductive Change where
  | becomesActive
  | fails
  | restarts
  | reboots
  deriving DecidableEq, Repr

def Server.change (server : Server) (loaded unit : Option Settings) : Change → Server
  | .becomesActive => if server.status = .loading then { server with status := .active } else server
  | .fails => { server with status := .failed }
  | .restarts => if server.status = .failed then ⟨.loading, loaded⟩ else server
  | .reboots => ⟨.loading, unit⟩

def Host.change (host : Host) (change : Change) : Host :=
  { host with
    loaded := if change = .reboots then host.unit else host.loaded
    server := host.server.change host.loaded host.unit change }

/-- `detect_current_hfrepo`: what the `--hf-repo` of the unit file says, empty where it cannot be
read. -/
def Host.currentHfRepo (host : Host) (readable : Bool) : String :=
  if readable then host.unit.elim "" fun unit => unit.hfRepo ++ ":" ++ unit.hfQuant else ""

/-- The profile is loaded: the server is active, and was started from a unit for the profile. -/
def Host.Serves (host : Host) (target : String) : Prop :=
  host.server.status = .active ∧
    ∃ profile, getProfile target = some profile ∧ host.server.startedFrom = some profile.settings

/-! ### The script -/

/-- What the arguments ask for. -/
structure Request where
  target : String
  force : Bool
  deriving DecidableEq, Repr

inductive Parsed where
  | request (request : Request)
  /-- `--status`. -/
  | status
  /-- `usage`, with its exit code. -/
  | usage (code : ℕ)
  deriving DecidableEq, Repr

/-- The loop that parses the arguments; the target is empty at first. -/
def parseArgs (force : Bool) (target : String) : List String → Parsed
  | [] =>
      if target = "" then .usage 2 else if target = "--status" then .status
      else .request ⟨target, force⟩
  | argument :: rest =>
      if argument = "--force" then parseArgs true target rest
      else if argument = "--follow" then parseArgs force target rest
      else if argument = "--status" then parseArgs force "--status" rest
      else if argument = "-h" || argument = "--help" then .usage 0
      else if argument.startsWith "--" then .usage 2
      else if target ≠ "" then .usage 2
      else parseArgs force argument rest

/-- How far a run has come. -/
inductive Phase where
  | detect
  /-- What is known of the unit file is compared with the target. -/
  | compare (current : String)
  | preconditions
  | writeConfig
  /-- `51-lxc-amd.sh` runs: until it has written the unit, until systemd has it, until its end. -/
  | provision
  | unitWritten
  | installed
  | reload
  | restart
  /-- The wait loop. -/
  | wait
  deriving DecidableEq, Repr

inductive Stage where
  | idle
  | running (request : Request) (phase : Phase)
  /-- The script ended with this code; there is no target where it was not asked for one. -/
  | exited (target : Option String) (code : ℕ)
  deriving DecidableEq, Repr

structure State where
  host : Host
  stage : Stage
  deriving DecidableEq, Repr

/-- What comes of a command. One that fails may have taken effect. -/
inductive Answer where
  | done
  | refused
  | failedAfter
  deriving DecidableEq, Repr

inductive Event where
  | start (args : List String)
  /-- The next command of the run. -/
  | command (answer : Answer)
  /-- The wait loop asks for `is-active`, which may not be answered. -/
  | poll (answered : Bool)
  /-- The wait loop is over its deadline. -/
  | deadline
  | kill
  | change (change : Change)
  deriving DecidableEq, Repr

/-- A command with its effect: where it fails, the script ends (`set -e`). -/
def State.effect (state : State) (request : Request) (answer : Answer) (after : Host) (next : Phase) :
    State :=
  match answer with
  | .done => ⟨after, .running request next⟩
  | .refused => ⟨state.host, .exited (some request.target) 1⟩
  | .failedAfter => ⟨after, .exited (some request.target) 1⟩

/-- Validation, the slot check and the idempotency check. -/
def State.compare (state : State) (request : Request) (current : String) (maxSlotCtx : ℕ) : State :=
  let exit := fun code => (⟨state.host, .exited (some request.target) code⟩ : State)
  match getProfile request.target with
  | none => exit 2
  | some profile =>
      if !profile.fitsSlot maxSlotCtx then exit 1
      else if !request.force && current = profile.hfRepo then exit 0
      else ⟨state.host, .running request .preconditions⟩

/-- The next command of a run. -/
def State.command (state : State) (request : Request) (answer : Answer) (maxSlotCtx : ℕ) :
    Phase → State
  | .detect =>
      ⟨state.host, .running request (.compare (state.host.currentHfRepo (answer = .done)))⟩
  | .compare current => state.compare request current maxSlotCtx
  | .preconditions => state.effect request answer state.host .writeConfig
  | .writeConfig =>
      state.effect request answer
        { state.host with
          config := (getProfile request.target).elim state.host.config Profile.settings }
        .provision
  | .provision =>
      state.effect request answer { state.host with unit := some state.host.config } .unitWritten
  | .unitWritten =>
      state.effect request answer { state.host with loaded := state.host.unit } .installed
  | .installed => state.effect request answer state.host .reload
  | .reload => state.effect request answer { state.host with loaded := state.host.unit } .restart
  | .restart =>
      state.effect request answer { state.host with server := ⟨.loading, state.host.loaded⟩ } .wait
  | .wait => state

/-- One pass of the wait loop. -/
def State.poll (state : State) (request : Request) (answered : Bool) : State :=
  if answered then
    match state.host.server.status with
    | .active => ⟨state.host, .exited (some request.target) 0⟩
    | .failed => ⟨state.host, .exited (some request.target) 1⟩
    | .loading => state
  else state

/-- A run begins. -/
def Host.begin (host : Host) (args : List String) : State :=
  match parseArgs false "" args with
  | .request request => ⟨host, .running request .detect⟩
  | .status => ⟨host, .exited none 0⟩
  | .usage code => ⟨host, .exited none code⟩

/-- A step, `none` where the event cannot happen. `maxSlotCtx` is `LLAMA_MAX_SLOT_CTX`. -/
def step (maxSlotCtx : ℕ) (state : State) (event : Event) : Option State :=
  match event, state.stage with
  | .change change, stage => some ⟨state.host.change change, stage⟩
  | .start args, .idle | .start args, .exited _ _ => some (state.host.begin args)
  | .command answer, .running request phase =>
      if phase = .wait then none else some (state.command request answer maxSlotCtx phase)
  | .poll answered, .running request .wait => some (state.poll request answered)
  | .deadline, .running request .wait => some ⟨state.host, .exited (some request.target) 1⟩
  | .kill, .running _ _ => some ⟨state.host, .idle⟩
  | _, _ => none

/-- The state after the events, `none` where one of them cannot happen. -/
def run (maxSlotCtx : ℕ) (state : State) : List Event → Option State
  | [] => some state
  | event :: rest => (step maxSlotCtx state event).bind fun next => run maxSlotCtx next rest

/-! ### The webhook -/

/-- What comes of the script in `do_POST`. -/
inductive Subprocess where
  | returned (code : ℕ)
  /-- `TimeoutExpired`: the script is killed. -/
  | timeout
  | raised
  deriving DecidableEq, Repr

/-- A request, and what `do_POST` knows when it comes. -/
structure Post where
  path : String
  webhookKey : String
  authorized : Bool
  profile : String
  validProfiles : List String
  /-- No other swap holds `_swap_lock`. -/
  lockFree : Bool

/-- The status that `do_POST` answers, given what comes of the script if it is run. -/
def Post.status (post : Post) (result : Subprocess) : ℕ :=
  if post.path ≠ "/swap" then 404
  else if post.webhookKey = "" then 503
  else if post.authorized = false then 401
  else if post.profile ∉ post.validProfiles then 400
  else if post.lockFree = false then 409
  else if result = .returned 0 then 200
  else 500

end ChatSwap

end LocalGpuCluster
