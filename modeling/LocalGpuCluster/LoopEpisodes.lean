/-
This file models `episodes` of `loops.py`, which finds where an agent repeats itself: a tool call or a
block of up to four calls that comes at least three times in a row. Both loops of the code are given a
number of turns and fail when they use them up; they never do. The scan reports something exactly where
there is such a block, and what it reports are runs that do not go on, one after the other.
-/

import LocalGpuCluster.Json
import LocalGpuCluster.Repeats

namespace LocalGpuCluster

namespace LoopEpisodes

open Repeats

/-- `MIN_REPS`. -/
def minReps : ℕ := 3

/-- `MAX_PERIOD`. -/
def maxPeriod : ℕ := 4

/-- What the scan reads of a tool call. -/
structure Call (Tool : Type) where
  tool : Tool
  input : Json

inductive Kind where
  | repeat
  | cycle
  deriving DecidableEq

structure Episode where
  kind : Kind
  start : ℕ
  length : ℕ
  period : ℕ

/-- `key`, with `json.dumps` as it writes the arguments. -/
def key {Tool : Type} (dumps : Json → Text) (call : Call Tool) : Tool × Text :=
  (call.tool, dumps call.input)

section Scan

variable {Key : Type} [DecidableEq Key]

/-- The loop of `_reps`, with how many turns it may take. -/
def repsFrom (keys : List Key) (i p : ℕ) : ℕ → ℕ → Option ℕ
  | 0, _ => none
  | turns + 1, n =>
      if slice keys (i + n * p) (i + (n + 1) * p) = slice keys i (i + p) then
        repsFrom keys i p turns (n + 1)
      else some n

/-- `_reps`. -/
def reps (turns : ℕ) (keys : List Key) (i p : ℕ) : Option ℕ := repsFrom keys i p turns 1

/-- The loop for the periods of a cycle: the first cycle that is found at a position. -/
def cycleAt (turns : ℕ) (keys : List Key) (i : ℕ) : List ℕ → Option (Option Episode)
  | [] => some none
  | p :: rest =>
      if keys.length < i + p then cycleAt turns keys i rest
      else do
        let n : ℕ ← reps turns keys i p
        if minReps ≤ n then some (some ⟨.cycle, i, n * p, p⟩) else cycleAt turns keys i rest

/-- What is reported at a position. -/
def episodeAt (turns : ℕ) (keys : List Key) (i : ℕ) : Option (Option Episode) := do
  let n : ℕ ← reps turns keys i 1
  if minReps ≤ n then some (some ⟨.repeat, i, n, 1⟩)
  else cycleAt turns keys i (List.range' 2 (maxPeriod - 1))

/-- The loop of `episodes`. -/
def scan (bound : ℕ) (keys : List Key) : ℕ → ℕ → Option (List Episode)
  | 0, _ => none
  | turns + 1, i =>
      if i < keys.length then do
        let found : Option Episode ← episodeAt bound keys i
        match found with
        | some episode => do
            let later : List Episode ← scan bound keys turns (i + episode.length)
            some (episode :: later)
        | none => scan bound keys turns (i + 1)
      else some []

end Scan

/-- `episodes`. -/
def episodes {Tool : Type} [DecidableEq Tool] (dumps : Json → Text) (turns : ℕ)
    (calls : List (Call Tool)) : Option (List Episode) :=
  scan turns (calls.map (key dumps)) turns 0

/-! ### Where a block repeats -/

/-- A block of one to four items comes three times in a row from a position on. -/
def RepeatsAt {Key : Type} (keys : List Key) (start : ℕ) : Prop :=
  ∃ period, 1 ≤ period ∧ period ≤ maxPeriod ∧ Run keys start period minReps

/-- An episode is a run of whole blocks that is long enough and does not go on. -/
structure Whole {Key : Type} (keys : List Key) (episode : Episode) (times : ℕ) : Prop where
  positive : 1 ≤ episode.period
  short : episode.period ≤ maxPeriod
  kind : episode.kind = .repeat ↔ episode.period = 1
  enough : minReps ≤ times
  length : episode.length = times * episode.period
  run : Run keys episode.start episode.period times
  ends : ¬ Run keys episode.start episode.period (times + 1)

section Whole

variable {Key : Type} {keys : List Key} {i times : ℕ} {episode : Episode}

theorem not_repeatsAt (never : ∀ p ∈ List.range' 1 maxPeriod, ¬ Run keys i p minReps) :
    ¬ RepeatsAt keys i := by
  rintro ⟨p, positive, short, run⟩
  exact never p (List.mem_range'_1.mpr ⟨positive, by omega⟩) run

theorem Whole.length_pos (whole : Whole keys episode times) : 0 < episode.length := by
  rw [whole.length]
  exact Nat.mul_pos (Nat.lt_of_lt_of_le (by decide) whole.enough) whole.positive

theorem Whole.bound (whole : Whole keys episode times) :
    episode.start + episode.length ≤ keys.length := by
  rw [whole.length]
  exact whole.run.bound

end Whole

section Scan

variable {Key : Type} [DecidableEq Key] {keys : List Key} {turns i p n : ℕ}

/-- The blocks are counted before the turns are used up. -/
theorem repsFrom_spec (positive : 0 < p) (run : Run keys i p n) (some : 0 < n) :
    ∃ times, (∀ turns, keys.length + 2 ≤ turns + n → repsFrom keys i p turns n = Option.some times) ∧
      Run keys i p times ∧ ¬ Run keys i p (times + 1) := by
  induction left : keys.length - n generalizing n with
  | zero =>
    have few := run.times_le positive
    have stops : ¬ Run keys i p (n + 1) := fun longer => by
      have more := longer.times_le positive
      omega
    refine ⟨n, fun turns room => ?_, run, stops⟩
    obtain ⟨turns, rfl⟩ : ∃ later, turns = later + 1 := ⟨turns - 1, by omega⟩
    rw [repsFrom, if_neg (mt (run_succ_iff positive run some).mpr stops)]
  | succ left inductionHypothesis =>
    have few := run.times_le positive
    by_cases longer : Run keys i p (n + 1)
    · obtain ⟨times, counts, whole⟩ := inductionHypothesis longer (Nat.succ_pos n) (by omega)
      refine ⟨times, fun turns room => ?_, whole⟩
      obtain ⟨turns, rfl⟩ : ∃ later, turns = later + 1 := ⟨turns - 1, by omega⟩
      rw [repsFrom, if_pos ((run_succ_iff positive run some).mp longer)]
      exact counts turns (by omega)
    · refine ⟨n, fun turns room => ?_, run, longer⟩
      obtain ⟨turns, rfl⟩ : ∃ later, turns = later + 1 := ⟨turns - 1, by omega⟩
      rw [repsFrom, if_neg (mt (run_succ_iff positive run some).mpr longer)]

theorem reps_spec (positive : 0 < p) (bound : i + p ≤ keys.length) :
    ∃ times, (∀ turns, keys.length < turns → reps turns keys i p = some times) ∧
      Run keys i p times ∧ ¬ Run keys i p (times + 1) := by
  obtain ⟨times, counts, whole⟩ := repsFrom_spec positive (run_one bound) Nat.one_pos
  exact ⟨times, fun turns room => counts turns (by omega), whole⟩

/-- What is found at a position: an episode that starts there, or nothing where nothing repeats. -/
def Found (keys : List Key) (i : ℕ) (periods : List ℕ) : Option Episode → Prop
  | some episode => episode.start = i ∧ ∃ times, Whole keys episode times
  | none => ∀ p ∈ periods, ¬ Run keys i p minReps

theorem cycleAt_spec {periods : List ℕ} (periodic : ∀ p ∈ periods, 2 ≤ p ∧ p ≤ maxPeriod) :
    ∃ found, (∀ turns, keys.length < turns → cycleAt turns keys i periods = some found) ∧
      Found keys i periods found := by
  induction periods with
  | nil => exact ⟨none, fun _ _ => rfl, fun _ member => absurd member List.not_mem_nil⟩
  | cons p rest inductionHypothesis =>
    obtain ⟨found, finds, isFound⟩ :=
      inductionHypothesis fun other member => periodic other (List.mem_cons_of_mem _ member)
    obtain ⟨atLeast, atMost⟩ := periodic p List.mem_cons_self
    -- Without an episode of this period the later ones decide.
    have goesOn (never : ¬ Run keys i p minReps) : Found keys i (p :: rest) found := by
      cases found with
      | some episode => exact isFound
      | none => exact List.forall_mem_cons.mpr ⟨never, isFound⟩
    by_cases long : keys.length < i + p
    · refine ⟨found, fun turns room => ?_, goesOn fun run => ?_⟩
      · rw [cycleAt, if_pos long]
        exact finds turns room
      · have bound := run.bound
        unfold minReps at bound
        omega
    · obtain ⟨times, counts, run, ends⟩ := reps_spec (by omega) (Nat.le_of_not_lt long)
      by_cases enough : minReps ≤ times
      · refine ⟨some ⟨.cycle, i, times * p, p⟩, fun turns room => ?_, rfl, times, ?_⟩
        · rw [cycleAt, if_neg long, counts turns room]
          exact if_pos enough
        · have cyclic : Kind.cycle = Kind.repeat ↔ p = 1 :=
            iff_of_false (fun same => by cases same) (by omega)
          exact ⟨Nat.le_of_succ_le atLeast, atMost, cyclic, enough, rfl, run, ends⟩
      · refine ⟨found, fun turns room => ?_, goesOn fun longer => ends (longer.anti (by omega))⟩
        rw [cycleAt, if_neg long, counts turns room]
        exact (if_neg enough).trans (finds turns room)

theorem episodeAt_spec (bound : i < keys.length) :
    ∃ found, (∀ turns, keys.length < turns → episodeAt turns keys i = some found) ∧
      Found keys i (List.range' 1 maxPeriod) found := by
  obtain ⟨times, counts, run, ends⟩ := reps_spec Nat.one_pos bound
  by_cases enough : minReps ≤ times
  · refine ⟨some ⟨.repeat, i, times, 1⟩, fun turns room => ?_, rfl, times, ?_⟩
    · rw [episodeAt, counts turns room]
      exact if_pos enough
    · have one : 1 ≤ maxPeriod := by decide
      exact ⟨Nat.le_refl 1, one, iff_of_true rfl rfl, enough, (Nat.mul_one times).symm, run, ends⟩
  · have periodic : ∀ p ∈ List.range' 2 (maxPeriod - 1), 2 ≤ p ∧ p ≤ maxPeriod := by decide
    obtain ⟨found, finds, isFound⟩ := @cycleAt_spec _ _ keys i _ periodic
    refine ⟨found, fun turns room => ?_, ?_⟩
    · rw [episodeAt, counts turns room]
      exact (if_neg enough).trans (finds turns room)
    · cases found with
      | some episode => exact isFound
      | none =>
        have never : ¬ Run keys i 1 minReps := fun longer => ends (longer.anti (by omega))
        exact List.forall_mem_cons.mpr ⟨never, isFound⟩

/-- What the scan gives from a position on. -/
structure Scanned (keys : List Key) (i : ℕ) (out : List Episode) : Prop where
  whole : ∀ episode ∈ out, i ≤ episode.start ∧ ∃ times, Whole keys episode times
  apart : out.Pairwise fun first second => first.start + first.length ≤ second.start
  complete : out = [] → ∀ start, i ≤ start → ¬ RepeatsAt keys start

/-- The scan comes to the end: every turn moves it on, past what it found or by one. -/
theorem scan_spec (within : i ≤ keys.length) :
    ∃ out, (∀ bound, keys.length < bound → ∀ turns, keys.length < turns + i →
      scan bound keys turns i = some out) ∧ Scanned keys i out := by
  induction left : keys.length - i using Nat.strong_induction_on generalizing i with
  | h left inductionHypothesis =>
  by_cases inside : i < keys.length
  · obtain ⟨found, finds, isFound⟩ := episodeAt_spec inside
    cases found with
    | some episode =>
      obtain ⟨rfl, times, whole⟩ := isFound
      have moves := whole.length_pos
      obtain ⟨out, scans, scanned⟩ := inductionHypothesis _ (by omega) whole.bound rfl
      refine ⟨episode :: out, fun bound enough turns room => ?_, ?_, ?_, fun none => by cases none⟩
      · obtain ⟨turns, rfl⟩ : ∃ later, turns = later + 1 := ⟨turns - 1, by omega⟩
        rw [scan, if_pos inside, finds bound enough]
        show (scan bound keys turns (episode.start + episode.length) >>= _) = _
        rw [scans bound enough turns (by omega)]
        rfl
      · refine List.forall_mem_cons.mpr ⟨⟨Nat.le_refl _, times, whole⟩, fun other member => ?_⟩
        obtain ⟨later, isWhole⟩ := scanned.whole other member
        exact ⟨by omega, isWhole⟩
      · exact List.pairwise_cons.mpr ⟨fun other member => (scanned.whole other member).1,
          scanned.apart⟩
    | none =>
      obtain ⟨out, scans, scanned⟩ := inductionHypothesis _ (by omega) inside rfl
      refine ⟨out, fun bound enough turns room => ?_, fun other member => ?_, scanned.apart,
        fun empty start after => ?_⟩
      · obtain ⟨turns, rfl⟩ : ∃ later, turns = later + 1 := ⟨turns - 1, by omega⟩
        rw [scan, if_pos inside, finds bound enough]
        exact scans bound enough turns (by omega)
      · obtain ⟨later, isWhole⟩ := scanned.whole other member
        exact ⟨Nat.le_of_succ_le later, isWhole⟩
      · obtain rfl | later := Nat.eq_or_lt_of_le after
        · exact not_repeatsAt isFound
        · exact scanned.complete empty start later
  · refine ⟨[], fun bound enough turns room => ?_, ?_⟩
    · obtain ⟨turns, rfl⟩ : ∃ later, turns = later + 1 := ⟨turns - 1, by omega⟩
      rw [scan, if_neg inside]
    · refine ⟨fun _ member => absurd member List.not_mem_nil, List.Pairwise.nil, fun _ start after => ?_⟩
      rintro ⟨p, positive, short, run⟩
      have bound := run.bound
      have some : 0 < minReps * p := Nat.mul_pos (by decide) positive
      omega

end Scan

/-- The scan of any calls ends; it reports something exactly where a block repeats, and what it reports
are whole runs, one after the other. -/
theorem episodes_spec {Tool : Type} [DecidableEq Tool] (dumps : Json → Text)
    (calls : List (Call Tool)) :
    ∃ out, (∀ turns, calls.length < turns → episodes dumps turns calls = some out) ∧
      (out ≠ [] ↔ ∃ start, RepeatsAt (calls.map (key dumps)) start) ∧
      (out.Pairwise fun first second => first.start + first.length ≤ second.start) ∧
      ∀ episode ∈ out, ∃ times, Whole (calls.map (key dumps)) episode times := by
  obtain ⟨out, scans, scanned⟩ := scan_spec (Nat.zero_le (calls.map (key dumps)).length)
  rw [List.length_map] at scans
  refine ⟨out, fun turns room => scans turns room turns room, ?_, scanned.apart,
    fun episode member => (scanned.whole episode member).2⟩
  constructor
  · intro reported
    obtain ⟨episode, member⟩ := List.exists_mem_of_ne_nil out reported
    obtain ⟨_, times, whole⟩ := scanned.whole episode member
    exact ⟨episode.start, episode.period, whole.positive, whole.short, whole.run.anti whole.enough⟩
  · rintro ⟨start, repeats⟩ nothing
    exact scanned.complete nothing start (Nat.zero_le start) repeats

end LoopEpisodes

end LocalGpuCluster
