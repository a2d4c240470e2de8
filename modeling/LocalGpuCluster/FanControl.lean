/-
This file models the control of the GPUs' blowers: `v620-temp-publish.sh`, which writes the temperature of
the hotter card to a file, `v620-fan-bridge.sh`, which reads it and writes a duty to the headers of the
board, and the unit that runs the bridge. The chip has no watchdog, so a header holds what was written last
whatever becomes of the bridge. Clocks are whole seconds, and whether a chat request is recent is an input.
-/

import LocalGpuCluster.JsonRoundTrip
import LocalGpuCluster.Machine
import LocalGpuCluster.SlewLimit
import Mathlib.Data.List.SplitOn

namespace LocalGpuCluster

namespace FanControl

open JsonText (isDigit natOf wholeOf)

/-! ### The publisher -/

/-- What a card that cannot be read counts as. -/
def failHot : ℕ := 105

def phraseIn (phrase : Text) : Text → Bool
  | [] => phrase = []
  | point :: rest => Text.startsWith (point :: rest) phrase || phraseIn phrase rest

/-- The digits of the first match of `GPU\[[0-9]+\]`. -/
def gpuIndex : Text → Option Text
  | [] => none
  | point :: rest =>
      let digits := ((point :: rest).drop 4).takeWhile isDigit
      if Text.startsWith (point :: rest) (text "GPU[") && !digits.isEmpty &&
          Text.startsWith ((point :: rest).drop (4 + digits.length)) (text "]") then some digits
      else gpuIndex rest

/-- `$NF`. -/
def lastField (line : Text) : Text :=
  (((line.splitOnP fun point => point = 0x20 || point = 0x09).filter (· ≠ [])).getLast?).getD line

/-- `int(v)` where `v` matches `^[0-9]+(\.[0-9]+)?$`. -/
def wholeDegrees (field : Text) : Option ℕ :=
  let whole := field.takeWhile isDigit
  let rest := field.dropWhile isDigit
  if whole = [] then none
  else if rest = [] ∨
      (Text.startsWith rest (text ".") ∧ rest.drop 1 ≠ [] ∧ (rest.drop 1).all isDigit) then
    some (natOf whole)
  else none

/-- What a line of `rocm-smi` says of a sensor: the card and its temperature. -/
def reading (sensor line : Text) : Option (Text × ℕ) :=
  if phraseIn (text "sensor " ++ sensor ++ text ")") line.lower then
    (gpuIndex line).bind fun card => (wholeDegrees (lastField line)).map fun degrees => (card, degrees)
  else none

/-- The array `t`: the last value of each card. -/
def readings (sensor : Text) (lines : List Text) : List (Text × ℕ) :=
  (lines.filterMap (reading sensor)).foldl (fun cards entry =>
    entry :: cards.filter fun other => other.1 ≠ entry.1) []

/-- `max_temp`. -/
def maxTemp (cards : ℕ) (sensor : Text) (lines : List Text) : ℕ :=
  let found := readings sensor lines
  if found.length < cards then failHot else (found.map Prod.snd).foldl max 0

/-- What a call of `publish_once` leaves in `current-junction`, and when. -/
structure Publication where
  mtime : ℤ
  lines : List Text

def Publication.content (cards : ℕ) (publication : Publication) : Text :=
  decimal (maxTemp cards (text "junction") publication.lines : ℕ) ++ newline

/-! ### The bridge -/

/-- The variables of the bridge's environment that its arithmetic reads. -/
structure Config where
  maxAge : ℤ
  failsafePwm : ℤ
  decayStep : ℤ
  minPwm : ℤ
  boostPwm : ℤ
  /-- `V620_CARDS` of the publisher. -/
  cards : ℕ

/-- `target_pwm`. -/
def targetPwm (temp : ℕ) : ℤ :=
  if temp < 60 then 64 else if temp < 70 then 128 else if temp < 78 then 191
  else if temp < 84 then 230 else 255

/-- `read_temp` after the age was found good: what is read of the content. -/
def readTemp (content : Text) : Option ℕ :=
  let read := Text.stripRight (fun point => point = 0xA) ((content.take 16).filter (· ≠ 0))
  if read ≠ [] ∧ wholeOf read = read then some (natOf read) else none

/-- The test of the age. -/
def Config.fresh (config : Config) (now mtime : ℤ) : Bool :=
  -2 ≤ now - mtime && now - mtime ≤ config.maxAge

/-- A recent chat request raises the target. -/
def Config.boosted (config : Config) (recent : Bool) (target : ℤ) : ℤ :=
  if recent && config.boostPwm > target then config.boostPwm else target

/-- `decide_target`. -/
def Config.decideTarget (config : Config) (temp : Option ℕ) (recent : Bool) : ℤ :=
  config.boosted recent (match temp with
    | none => config.failsafePwm
    | some temp => targetPwm temp)

/-- `shape`. -/
def Config.shape (config : Config) (current target : ℤ) : ℤ :=
  let shaped :=
    if target ≥ current then target
    else if current - config.decayStep < target then target else current - config.decayStep
  if shaped < config.minPwm then config.minPwm else shaped

/-! ### The headers -/

structure Pwm where
  manual : Bool
  duty : ℤ
  deriving DecidableEq

/-- How far the two writes of a header get. -/
inductive Write where
  | done
  | enabledOnly
  | failed
  deriving DecidableEq

def Write.apply (duty : ℤ) : Write → Pwm → Pwm
  | .done, _ => ⟨true, duty⟩
  | .enabledOnly, pwm => { pwm with manual := true }
  | .failed, pwm => pwm

section Unit

variable {Header : Type} [DecidableEq Header]

/-- `write_pwms`: a header that fails does not keep the others from their duty. -/
def writePwms (duty : ℤ) (headers : List Header) (writes : Header → Write) (pwms : Header → Pwm) :
    Header → Pwm :=
  fun header => if header ∈ headers then (writes header).apply duty (pwms header) else pwms header

/-! ### The unit -/

/-- What a poll took into account: the publication that it read, if that was fresh. -/
structure Seen where
  source : Option Publication
  recent : Bool

def Config.target (config : Config) (seen : Seen) : ℤ :=
  config.decideTarget (seen.source.bind fun publication => readTemp (publication.content config.cards))
    seen.recent

/-- Where the unit is. A running bridge has its headers, `cur` and the polls that it made so far. -/
inductive Phase (Header : Type) where
  | fresh
  | running (headers : List Header) (current : ℤ) (polls : List Seen)
  /-- In a poll, when the age of the file has been found good or not. -/
  | statted (headers : List Header) (current : ℤ) (polls : List Seen) (isFresh : Bool)
  /-- The trap on `EXIT` is to run. -/
  | leaving (headers : List Header)
  /-- `ExecStopPost` is to run. -/
  | stopped
  | down

structure State (Header : Type) where
  file : Option Publication
  pwms : Header → Pwm
  phase : Phase Header

inductive Event (Header : Type) where
  | publish (publication : Publication)
  | remove
  /-- `ExecStart`, with the headers that `resolve_all` finds. -/
  | start (resolved : List Header)
  | stat (now : ℤ)
  /-- The rest of a poll. A signal that comes between the writes leaves the later ones undone. -/
  | poll (recent : Bool) (writes : Header → Write)
  | signal
  | trap (writes : Header → Write)
  | kill
  | stopPost (resolved : List Header) (writes : Header → Write)

/-- `read_temp`, `decide_target`, `shape` and `write_pwms` of a poll. -/
def pollStep (config : Config) (state : State Header) (headers : List Header) (current : ℤ)
    (polls : List Seen) (isFresh recent : Bool) (writes : Header → Write) : State Header :=
  let seen : Seen := ⟨if isFresh then state.file else none, recent⟩
  let next := config.shape current (config.target seen)
  { state with
    pwms := writePwms next headers writes state.pwms
    phase :=
      if ∀ header ∈ headers, writes header = .done then .running headers next (polls ++ [seen])
      else .leaving headers }

def step (config : Config) (state : State Header) : Event Header → Option (State Header)
  | .publish publication => some { state with file := some publication }
  | .remove => some { state with file := none }
  | .start resolved =>
      match state.phase with
      | .fresh | .down =>
          some { state with
            phase := if resolved = [] then .stopped else .running resolved config.failsafePwm [] }
      | _ => none
  | .stat now =>
      match state.phase with
      | .running headers current polls =>
          some { state with
            phase := .statted headers current polls
              (state.file.any fun publication => config.fresh now publication.mtime) }
      | _ => none
  | .poll recent writes =>
      match state.phase with
      | .statted headers current polls isFresh =>
          some (pollStep config state headers current polls isFresh recent writes)
      | _ => none
  | .signal =>
      match state.phase with
      | .running headers _ _ | .statted headers _ _ _ => some { state with phase := .leaving headers }
      | _ => none
  | .trap writes =>
      match state.phase with
      | .leaving headers =>
          some { state with
            pwms := writePwms config.failsafePwm headers writes state.pwms
            phase := .stopped }
      | _ => none
  | .kill =>
      match state.phase with
      | .running _ _ _ | .statted _ _ _ _ | .leaving _ => some { state with phase := .stopped }
      | _ => none
  | .stopPost resolved writes =>
      match state.phase with
      | .stopped =>
          some { state with
            pwms := writePwms config.failsafePwm resolved writes state.pwms
            phase := .down }
      | _ => none

def unit (config : Config) : Machine (State Header) (Event Header) := ⟨step config⟩

end Unit

end FanControl

end LocalGpuCluster
