/-
This file models `swap-webhook.py`: the handler threads of the server that runs `swap-chat-model.sh`, the
allowlist that is read from the script whenever its `mtime` has changed, and the lock that lets one swap run
at a time. The steps of the threads come in any order, and the script may change between any two of them.
How a URL and its query are split is left out, and so is a script that is no UTF-8.
-/

import LocalGpuCluster.LedgerFile
import LocalGpuCluster.Machine
import Mathlib.Logic.Function.Basic

namespace LocalGpuCluster

namespace SwapWebhook

/-! ### The allowlist -/

/-- `_FALLBACK_PROFILES`. -/
def fallbackProfiles : List Text :=
  ["qwen3.6", "qwen3.6-fast", "coder", "devstral", "devstral-large", "qwen3.8"].map text

/-- An apostrophe or a quotation mark. -/
def isQuote (point : CodePoint) : Bool := point.val = 0x27 || point.val = 0x22

/-- The names of a line that has the start `PROFILE_NAMES=(`. -/
def namesOfLine (line : Text) : List Text :=
  let inner := ((line.dropWhile (· ≠ 0x28)).drop 1).takeWhile (· ≠ 0x29)
  (Text.words inner).map (Text.strip isQuote)

/-- The names of a line that are returned. -/
def discoveredIn (line : Text) : Option (List Text) :=
  if line.startsWith (text "PROFILE_NAMES=(") && !(namesOfLine line).isEmpty then
    some (namesOfLine line)
  else none

/-- `_discover_profiles`, `none` for a script that is not opened. -/
def discoverProfiles (content : Option Text) : List Text :=
  match content with
  | none => fallbackProfiles
  | some content =>
      ((Escalation.linesFrom [] (Escalation.translateNewlines false content)).findSome?
        discoveredIn).getD fallbackProfiles

example : discoverProfiles (some (text "#!/bin/bash\nPROFILE_NAMES=(coder 'qwen3.8' new) # all\n")) =
    ["coder", "qwen3.8", "new"].map text := by
  decide

/-! ### Requests -/

/-- A `POST`; the profiles are `parse_qs(parsed.query).get("profile", [])`. -/
structure Request where
  path : Text
  authorization : Option Text
  profiles : List Text

/-- How a handler answers. -/
inductive Body where
  | notFound
  | health (lockHeld : Bool)
  | notConfigured
  | unauthorized
  | unknownProfile (profile : Text) (valid : List Text)
  | swapInProgress
  | swapTimeout (profile : Text)
  | swapException (message : Text)
  | done (profile output : Text)
  | swapFailed (profile : Text) (returncode : ℤ) (output : Text)

def Body.status : Body → ℕ
  | .health _ | .done _ _ => 200
  | .unknownProfile _ _ => 400
  | .unauthorized => 401
  | .notFound => 404
  | .swapInProgress => 409
  | .swapTimeout _ | .swapException _ | .swapFailed _ _ _ => 500
  | .notConfigured => 503

/-- `hmac.compare_digest` of strings, `none` where it raises on what is not ASCII. -/
def compareDigest (first second : Text) : Option Bool :=
  if (first ++ second).all (·.val < 0x80) then some (first = second) else none

/-- `_authorized`. -/
def authorized (key : Text) (request : Request) : Option Bool :=
  let auth := request.authorization.getD []
  if key = [] then some false
  else if !auth.startsWith (text "Bearer ") then some false
  else compareDigest (Text.strip CodePoint.isSpace (auth.drop 7)) key

/-- The profile that a request asks for. -/
def Request.profile (request : Request) : Text :=
  ((request.profiles.head?).map (Text.strip CodePoint.isSpace)).getD []

/-- What `do_POST` makes of a request before it looks at the allowlist. -/
inductive Admission where
  | answers (body : Body)
  /-- The handler ends in an exception, without an answer. -/
  | raises
  | goesOn (profile : Text)

def admission (key : Text) (request : Request) : Admission :=
  if request.path ≠ text "/swap" then .answers .notFound
  else if key = [] then .answers .notConfigured
  else
    match authorized key request with
    | none => .raises
    | some false => .answers .unauthorized
    | some true => .goesOn request.profile

/-! ### The threads -/

/-- How `subprocess.run` ends. -/
inductive Outcome where
  | exited (returncode : ℤ) (stdout stderr : Text)
  | timedOut
  | raised (message : Text)

/-- `output[-2000:]`. -/
def lastPart (output : Text) : Text := output.drop (output.length - 2000)

/-- The answer after the lock is released. -/
def bodyOf (profile : Text) : Outcome → Body
  | .exited returncode stdout stderr =>
      if returncode = 0 then .done profile (lastPart stdout)
      else .swapFailed profile returncode (lastPart (stdout ++ stderr))
  | .timedOut => .swapTimeout profile
  | .raised message => .swapException message

/-- The script as it is on disk. -/
structure Script (Time : Type) where
  mtime : Time
  content : Text

/-- Where a handler thread is. The number is that of the script's state that it saw first. -/
inductive Phase (Time : Type) where
  | idle
  | admitted (profile : Text)
  /-- `os.stat` returned. -/
  | statted (profile : Text) (mtime : Time) (since : ℕ)
  /-- `current_valid_profiles` returned. -/
  | looked (profile : Text) (valid : List Text) (since : ℕ)
  | running (profile : Text)
  /-- The lock is released. -/
  | ran (profile : Text) (outcome : Outcome)

variable {Thread Time : Type}

structure State (Thread Time : Type) where
  /-- What the script was from the start on, one state after the other; the last is now. -/
  scripts : List (Option (Script Time))
  /-- `_profiles_cache`. -/
  cacheKey : Option Time
  cacheProfiles : List Text
  /-- The thread that holds `_swap_lock`. -/
  swapLock : Option Thread
  phase : Thread → Phase Time
  asked : List (Thread × Request)
  started : List (Thread × Text)
  finished : List (Thread × Text × Outcome)
  answered : List (Thread × Body)

/-- The server has come up. -/
def start (script : Option (Script Time)) : State Thread Time where
  scripts := [script]
  cacheKey := none
  cacheProfiles := fallbackProfiles
  swapLock := none
  phase := fun _ => .idle
  asked := []
  started := []
  finished := []
  answered := []

namespace State

/-- The script now. -/
def script (state : State Thread Time) : Option (Script Time) := state.scripts.getLast?.join

/-- The number of the script's state now. -/
def now (state : State Thread Time) : ℕ := state.scripts.length - 1

variable [DecidableEq Thread]

def move (state : State Thread Time) (thread : Thread) (phase : Phase Time) : State Thread Time :=
  { state with phase := Function.update state.phase thread phase }

/-- The thread answers, and its connection is closed. -/
def answer (state : State Thread Time) (thread : Thread) (body : Body) : State Thread Time :=
  { state.move thread .idle with answered := state.answered ++ [(thread, body)] }

end State

inductive Event (Thread Time : Type) where
  | get (thread : Thread) (path : Text)
  | post (thread : Thread) (request : Request)
  | stat (thread : Thread)
  /-- The block under `_profiles_lock`; the script may not open. -/
  | look (thread : Thread) (opens : Bool)
  | acquire (thread : Thread)
  | finish (thread : Thread) (outcome : Outcome)
  | respond (thread : Thread)
  /-- Somebody writes or removes the script. -/
  | write (script : Option (Script Time))

section Steps

variable [DecidableEq Thread] [DecidableEq Time] (key : Text) (state : State Thread Time)

/-- The block under `_profiles_lock`. -/
def refreshProfiles (mtime : Time) (opens : Bool) : State Thread Time :=
  if state.cacheKey = some mtime then state
  else
    { state with
      cacheKey := some mtime
      cacheProfiles :=
        discoverProfiles (if opens then state.script.map Script.content else none) ++
          fallbackProfiles }

/-- After the allowlist: the check and the lock, which is not waited for. -/
def acquire (thread : Thread) (profile : Text) (valid : List Text) : State Thread Time :=
  if profile ∉ valid then
    state.answer thread (.unknownProfile profile (valid.dedup.insertionSort (· ≤ ·)))
  else
    match state.swapLock with
    | some _ => state.answer thread .swapInProgress
    | none =>
        { state.move thread (.running profile) with
          swapLock := some thread
          started := state.started ++ [(thread, profile)] }

/-- What a thread does next. -/
def step : Event Thread Time → Option (State Thread Time)
  | .get thread path =>
      match state.phase thread with
      | .idle => some (state.answer thread
          (if path = text "/healthz" then .health state.swapLock.isSome else .notFound))
      | _ => none
  | .post thread request =>
      match state.phase thread with
      | .idle =>
          let asked := { state with asked := state.asked ++ [(thread, request)] }
          match admission key request with
          | .answers body => some (asked.answer thread body)
          | .raises => some asked
          | .goesOn profile => some (asked.move thread (.admitted profile))
      | _ => none
  | .stat thread =>
      match state.phase thread with
      | .admitted profile =>
          match state.script with
          | none => some (state.move thread (.looked profile fallbackProfiles state.now))
          | some script => some (state.move thread (.statted profile script.mtime state.now))
      | _ => none
  | .look thread opens =>
      match state.phase thread with
      | .statted profile mtime since =>
          let refreshed := refreshProfiles state mtime opens
          some (refreshed.move thread (.looked profile refreshed.cacheProfiles since))
      | _ => none
  | .acquire thread =>
      match state.phase thread with
      | .looked profile valid _ => some (acquire state thread profile valid)
      | _ => none
  | .finish thread outcome =>
      match state.phase thread with
      | .running profile => some
          { state.move thread (.ran profile outcome) with
            swapLock := none
            finished := state.finished ++ [(thread, profile, outcome)] }
      | _ => none
  | .respond thread =>
      match state.phase thread with
      | .ran profile outcome => some (state.answer thread (bodyOf profile outcome))
      | _ => none
  | .write script => some { state with scripts := state.scripts ++ [script] }

/-- The server. -/
def server : Machine (State Thread Time) (Event Thread Time) where
  step := step key

end Steps

end SwapWebhook

end LocalGpuCluster
