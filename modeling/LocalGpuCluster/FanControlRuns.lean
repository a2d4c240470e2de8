/-
This file proves what the control of the blowers does in every run. While the bridge runs, each header
holds the least duty that is above the duty of every poll so far, lowered by a step for each poll since.
That is no less than what the curve asks for the temperature of every card in the publication that the
last poll read, and no less than the fail-safe duty when there was none. When the bridge is gone, however
it ended, the headers are at the fail-safe duty.
-/

import LocalGpuCluster.FanControl

namespace LocalGpuCluster

namespace FanControl

open JsonText (isDigit natOf wholeOf)

/-! ### The curve -/

theorem targetPwm_mono {cool hot : ℕ} (le : cool ≤ hot) : targetPwm cool ≤ targetPwm hot := by
  unfold targetPwm
  repeat' split
  all_goals omega

theorem targetPwm_le (temp : ℕ) : targetPwm temp ≤ 255 := by
  unfold targetPwm
  repeat' split
  all_goals omega

theorem targetPwm_of_hot {temp : ℕ} (hot : 84 ≤ temp) : targetPwm temp = 255 := by
  unfold targetPwm
  rw [if_neg (by omega), if_neg (by omega), if_neg (by omega), if_neg (by omega)]

/-! ### What is read of what was published -/

/-- `head -c 16` keeps a number, or leaves a large one. -/
theorem take_decimal (value : ℕ) :
    ∃ kept : ℕ, (decimal (value : ℕ)).take 16 = decimal (kept : ℕ) ∧
      (kept = value ∨ 10 ^ 15 ≤ kept) := by
  induction value using Nat.strongRecOn with
  | ind value inductionHypothesis =>
    by_cases short : (decimal (value : ℕ)).length ≤ 16
    · exact ⟨value, List.take_of_length_le short, .inl rfl⟩
    · have large : 10 ^ 16 ≤ value := by
        rw [decimal_natCast, List.length_map, Nat.length_toDigits_le_iff (by decide) (by decide),
          not_lt] at short
        exact short
      have digits : decimal (value : ℕ) = decimal ((value / 10 : ℕ)) ++
          [Fin.ofNat 0x110000 (Nat.digitChar (value % 10)).toNat] := by
        rw [decimal_natCast, decimal_natCast, Nat.toDigits_of_base_le (by decide) (by omega),
          List.map_append, List.map_singleton]
      have enough : 16 ≤ (decimal ((value / 10 : ℕ))).length := by
        rw [digits, List.length_append, List.length_singleton] at short
        omega
      obtain ⟨kept, isKept, keeps⟩ := inductionHypothesis (value / 10) (by omega)
      refine ⟨kept, ?_, .inr ?_⟩
      · rw [digits, List.take_append_of_le_length enough]
        exact isKept
      · obtain rfl | isLarge := keeps
        · omega
        · exact isLarge

theorem stripNewlines_decimal (value : ℕ) :
    Text.stripRight (fun point => point = 0xA) (decimal (value : ℕ)) = decimal (value : ℕ) ∧
      Text.stripRight (fun point => point = 0xA) (decimal (value : ℕ) ++ newline) =
        decimal (value : ℕ) := by
  have noNewline : (decimal (value : ℕ)).reverse.dropWhile (fun point => point = 0xA) =
      (decimal (value : ℕ)).reverse := by
    refine List.dropWhile_eq_self_iff.mpr fun some isNewline => ?_
    have isLast := List.mem_reverse.mp (List.getElem_mem some)
    have low := (isDigit_of_mem_decimal isLast).1
    rw [of_decide_eq_true isNewline] at low
    exact absurd low (by decide)
  unfold Text.stripRight newline
  refine ⟨by rw [noNewline, List.reverse_reverse], ?_⟩
  rw [List.reverse_append, List.reverse_singleton, List.singleton_append,
    List.dropWhile_cons_of_pos (by rfl), noNewline, List.reverse_reverse]

theorem filter_decimal (value : ℕ) :
    (decimal (value : ℕ)).filter (· ≠ 0) = decimal (value : ℕ) := by
  refine List.filter_eq_self.mpr fun point member => decide_eq_true fun isZero => ?_
  have low := (isDigit_of_mem_decimal member).1
  rw [isZero] at low
  exact absurd low (by decide)

/-- The number is read, or a large one for a large one. -/
theorem readTemp_published (value : ℕ) :
    ∃ read, readTemp (decimal (value : ℕ) ++ newline) = some read ∧
      targetPwm value ≤ targetPwm read := by
  have reads {kept : ℕ} {cut : Text} (stripped : Text.stripRight (fun point => point = 0xA)
      ((cut.take 16).filter (· ≠ 0)) = decimal (kept : ℕ)) : readTemp cut = some kept := by
    unfold readTemp
    rw [stripped, if_pos ⟨JsonText.decimal_ne_nil kept, JsonText.wholeOf_decimal kept⟩,
      JsonText.natOf_decimal]
  by_cases long : 16 ≤ (decimal (value : ℕ)).length
  · obtain ⟨kept, isKept, keeps⟩ := take_decimal value
    refine ⟨kept, reads ?_, ?_⟩
    · rw [List.take_append_of_le_length long, isKept, filter_decimal, (stripNewlines_decimal kept).1]
    · obtain rfl | large := keeps
      · exact le_rfl
      · rw [targetPwm_of_hot (by omega : 84 ≤ kept)]
        exact targetPwm_le value
  · refine ⟨value, reads ?_, le_rfl⟩
    rw [List.take_of_length_le (by simp [newline]; omega), List.filter_append, filter_decimal]
    exact (stripNewlines_decimal value).2

/-! ### The publication -/

theorem le_foldl_max {temp : ℕ} {temps : List ℕ} (member : temp ∈ temps) (least : ℕ) :
    temp ≤ temps.foldl max least := by
  rw [List.foldl_max_eq_max (List.ne_nil_of_mem member)]
  exact le_max_of_le_right (List.le_max_of_mem member)

/-- The published temperature asks for no less than any card does. -/
theorem targetPwm_le_maxTemp {cards : ℕ} {sensor : Text} {lines : List Text} {entry : Text × ℕ}
    (member : entry ∈ readings sensor lines) :
    targetPwm entry.2 ≤ targetPwm (maxTemp cards sensor lines) := by
  unfold maxTemp
  dsimp only
  split
  · exact targetPwm_le entry.2
  · exact targetPwm_mono (le_foldl_max (List.mem_map_of_mem member) 0)

theorem targetPwm_maxTemp_of_few {cards : ℕ} {sensor : Text} {lines : List Text}
    (few : (readings sensor lines).length < cards) :
    targetPwm (maxTemp cards sensor lines) = 255 := by
  unfold maxTemp
  dsimp only
  rw [if_pos few]
  rfl

/-! ### One poll -/

variable {config : Config} {seen : Seen}

/-- A duty that is enough for what a poll took into account. -/
structure Cools (config : Config) (seen : Seen) (duty : ℤ) : Prop where
  blind : seen.source = none → config.failsafePwm ≤ duty
  cards : ∀ publication, seen.source = some publication →
    ∀ entry ∈ readings (text "junction") publication.lines, targetPwm entry.2 ≤ duty
  missing : ∀ publication, seen.source = some publication →
    (readings (text "junction") publication.lines).length < config.cards → 255 ≤ duty
  boost : seen.recent = true → config.boostPwm ≤ duty
  least : config.minPwm ≤ duty

theorem le_boosted (config : Config) (recent : Bool) (target : ℤ) :
    target ≤ config.boosted recent target ∧
      (recent = true → config.boostPwm ≤ config.boosted recent target) := by
  unfold Config.boosted
  split
  next isHigher =>
    rw [Bool.and_eq_true, decide_eq_true_eq] at isHigher
    exact ⟨le_of_lt isHigher.2, fun _ => le_rfl⟩
  next notHigher =>
    refine ⟨le_rfl, ?_⟩
    rintro rfl
    rw [Bool.true_and, decide_eq_true_eq] at notHigher
    exact not_lt.mp notHigher

theorem cools_of_target_le {duty : ℤ} (reached : config.target seen ≤ duty)
    (least : config.minPwm ≤ duty) : Cools config seen duty := by
  have published {publication : Publication} (isSource : seen.source = some publication) :
      targetPwm (maxTemp config.cards (text "junction") publication.lines) ≤ duty := by
    obtain ⟨read, isRead, enough⟩ :=
      readTemp_published (maxTemp config.cards (text "junction") publication.lines)
    have isTarget : config.target seen = config.boosted seen.recent (targetPwm read) := by
      unfold Config.target Config.decideTarget
      rw [isSource, Option.bind_some, Publication.content, isRead]
    rw [isTarget] at reached
    exact enough.trans ((le_boosted config _ _).1.trans reached)
  refine ⟨fun isNone => ?_, fun publication isSource entry member => ?_,
    fun publication isSource few => ?_, fun recent => ?_, least⟩
  · have isTarget : config.target seen = config.boosted seen.recent config.failsafePwm := by
      unfold Config.target Config.decideTarget
      rw [isNone, Option.bind_none]
    rw [isTarget] at reached
    exact (le_boosted config _ _).1.trans reached
  · exact (targetPwm_le_maxTemp member).trans (published isSource)
  · rw [← targetPwm_maxTemp_of_few few]
    exact published isSource
  · exact ((le_boosted config _ _).2 recent).trans reached

/-- `shape` follows the target, and the least duty. -/
theorem shape_eq_follow (falls : 0 ≤ config.decayStep) (current target : ℤ) :
    config.shape current target =
      SlewLimit.follow config.decayStep current (max config.minPwm target) := by
  unfold Config.shape SlewLimit.follow
  dsimp only
  repeat' split
  all_goals omega

/-- The duty after these polls. -/
def dutyAfter (config : Config) (polls : List Seen) : ℤ :=
  SlewLimit.followAll config.decayStep config.failsafePwm
    (polls.map fun seen => max config.minPwm (config.target seen))

theorem dutyAfter_concat (falls : 0 ≤ config.decayStep) (polls : List Seen) (seen : Seen) :
    dutyAfter config (polls ++ [seen]) =
      config.shape (dutyAfter config polls) (config.target seen) := by
  rw [shape_eq_follow falls, dutyAfter, List.map_append, List.map_singleton, SlewLimit.followAll_concat]
  rfl

/-- The duty by the bounds it has. -/
theorem dutyAfter_le_iff {polls : List Seen} (falls : 0 ≤ config.decayStep) (polled : polls ≠ [])
    {bound : ℤ} :
    dutyAfter config polls ≤ bound ↔
      config.failsafePwm ≤ bound + polls.length * config.decayStep ∧ config.minPwm ≤ bound ∧
        ∀ seen later, seen :: later <:+ polls →
          config.target seen ≤ bound + later.length * config.decayStep := by
  unfold dutyAfter
  rw [SlewLimit.followAll_le_iff, List.length_map, nsmul_eq_mul]
  refine and_congr_right fun _ => ⟨fun all => ⟨?_, fun seen later isSuffix => ?_⟩, ?_⟩
  · obtain ⟨earlier, last, rfl⟩ := (List.eq_nil_or_concat' polls).resolve_left polled
    have here := all (max config.minPwm (config.target last)) [] (by simp)
    exact (le_max_left _ _).trans (by simpa using here)
  · have here := all _ _ (isSuffix.map fun seen => max config.minPwm (config.target seen))
    rw [List.length_map, nsmul_eq_mul] at here
    exact (le_max_right _ _).trans here
  · rintro ⟨least, each⟩ target later isSuffix
    obtain ⟨before, whole⟩ := isSuffix
    obtain ⟨front, back, rfl, -, isBack⟩ := List.map_eq_append_iff.mp whole.symm
    obtain ⟨seen, rest, rfl, rfl, rfl⟩ := List.map_eq_cons_iff.mp isBack
    rw [List.length_map, nsmul_eq_mul, max_le_iff]
    have drops : 0 ≤ (rest.length : ℤ) * config.decayStep := mul_nonneg (Int.natCast_nonneg _) falls
    exact ⟨by omega, each seen rest (List.suffix_append front (seen :: rest))⟩

/-! ### Runs -/

section Runs

variable {Header : Type} [DecidableEq Header] {all : List Header} {state next : State Header}
  {event : Event Header} {polls : List Seen}

/-- The call of `ExecStopPost` finds these headers and can write them. -/
def Reaches (all : List Header) (_ : State Header) (event : Event Header) : Prop :=
  ∀ resolved writes, event = .stopPost resolved writes →
    ∀ header ∈ all, header ∈ resolved ∧ writes header = .done

/-- The headers are where the polls put them, and at the fail-safe duty when the bridge is gone. -/
def Driven (config : Config) (all : List Header) (pwms : Header → Pwm) : Phase Header → Prop
  | .running headers current polls | .statted headers current polls _ =>
      current = dutyAfter config polls ∧
        (polls ≠ [] → ∀ header ∈ headers, pwms header = ⟨true, current⟩)
  | .down => ∀ header ∈ all, pwms header = ⟨true, config.failsafePwm⟩
  | .fresh | .leaving _ | .stopped => True

theorem writePwms_of_done {duty : ℤ} {headers : List Header} {writes : Header → Write}
    {pwms : Header → Pwm} {header : Header} (member : header ∈ headers) (done : writes header = .done) :
    writePwms duty headers writes pwms header = ⟨true, duty⟩ := by
  rw [writePwms, if_pos member, done]
  rfl

theorem Driven.polled (falls : 0 ≤ config.decayStep) {headers : List Header} {current : ℤ}
    {isFresh recent : Bool} {writes : Header → Write}
    (driven : Driven config all state.pwms (.statted headers current polls isFresh)) :
    Driven config all (pollStep config state headers current polls isFresh recent writes).pwms
      (pollStep config state headers current polls isFresh recent writes).phase := by
  unfold pollStep
  dsimp only
  by_cases allDone : ∀ header ∈ headers, writes header = .done
  · rw [if_pos allDone]
    refine ⟨?_, fun _ header member => writePwms_of_done member (allDone header member)⟩
    rw [driven.1, dutyAfter_concat falls]
  · rw [if_neg allDone]
    trivial

theorem Driven.of_step (falls : 0 ≤ config.decayStep)
    (driven : Driven config all state.pwms state.phase) (reaches : Reaches all state event)
    (stepped : step config state event = some next) :
    Driven config all next.pwms next.phase := by
  obtain ⟨file, pwms, phase⟩ := state
  cases event with
  | publish publication =>
    cases stepped
    exact driven
  | remove =>
    cases stepped
    exact driven
  | start resolved =>
    have started : Driven config all pwms
        (if resolved = [] then .stopped else .running resolved config.failsafePwm []) := by
      split
      · trivial
      · exact ⟨rfl, fun polled => absurd rfl polled⟩
    cases phase with
    | fresh | down =>
      cases stepped
      exact started
    | _ => cases stepped
  | stat now =>
    cases phase with
    | running headers current polls =>
      cases stepped
      exact driven
    | _ => cases stepped
  | poll recent writes =>
    cases phase with
    | statted headers current polls isFresh =>
      cases stepped
      exact Driven.polled falls driven
    | _ => cases stepped
  | signal =>
    cases phase with
    | running | statted =>
      cases stepped
      trivial
    | _ => cases stepped
  | trap writes =>
    cases phase with
    | leaving headers =>
      cases stepped
      trivial
    | _ => cases stepped
  | kill =>
    cases phase with
    | running | statted | leaving =>
      cases stepped
      trivial
    | _ => cases stepped
  | stopPost resolved writes =>
    cases phase with
    | stopped =>
      cases stepped
      intro header member
      obtain ⟨isResolved, done⟩ := reaches resolved writes rfl header member
      exact writePwms_of_done isResolved done
    | _ => cases stepped

theorem driven_of_run (falls : 0 ≤ config.decayStep) {file : Option Publication} {pwms : Header → Pwm}
    {events : List (Event Header)} (ran : (unit config).run ⟨file, pwms, .fresh⟩ events = some state)
    (reaches : (unit config).Guarded (Reaches all) ⟨file, pwms, .fresh⟩ events) :
    Driven config all state.pwms state.phase :=
  (unit config).run_invariant_of_guarded (Reaches all)
    (fun state => Driven config all state.pwms state.phase)
    (fun _ _ _ reaches stepped driven => driven.of_step falls reaches stepped) reaches ran trivial

/-- While the bridge runs, its headers hold the least duty that falls by a step at most and is above the
duties of all polls. -/
theorem headers_follow (falls : 0 ≤ config.decayStep) {file : Option Publication} {pwms : Header → Pwm}
    {events : List (Event Header)} (ran : (unit config).run ⟨file, pwms, .fresh⟩ events = some state)
    {headers : List Header} {current : ℤ} (running : state.phase = .running headers current polls)
    (polled : polls ≠ []) :
    (∀ header ∈ headers, state.pwms header = ⟨true, current⟩) ∧
      ∀ bound, current ≤ bound ↔
        config.failsafePwm ≤ bound + polls.length * config.decayStep ∧ config.minPwm ≤ bound ∧
          ∀ seen later, seen :: later <:+ polls →
            config.target seen ≤ bound + later.length * config.decayStep := by
  have noHeaders : (unit config).Guarded (Reaches []) ⟨file, pwms, .fresh⟩ events :=
    (unit config).guarded_of_forall (fun _ _ _ _ _ _ _ member => absurd member List.not_mem_nil) _
  have driven := driven_of_run falls ran noHeaders
  rw [running] at driven
  exact ⟨driven.2 polled, fun bound => driven.1 ▸ dutyAfter_le_iff falls polled⟩

def exampleConfig : Config := ⟨10, 255, 4, 64, 204, 2⟩

/-- Two warm cards are published, and the bridge polls once. -/
def warmPoll : List (Event Unit) :=
  [.publish ⟨100, [text "GPU[0] : Temperature (Sensor junction) (C): 61.0",
    text "GPU[1] : Temperature (Sensor junction) (C): 58.0"]⟩,
    .start [()], .stat 105, .poll false fun _ => .done]

theorem example_headers_follow : ∃ state headers current polls,
    (unit exampleConfig).run ⟨none, fun _ => ⟨false, 0⟩, .fresh⟩ warmPoll = some state ∧
      state.phase = .running headers current polls ∧
      (∀ header ∈ headers, state.pwms header = ⟨true, current⟩) ∧
      ∀ bound, current ≤ bound ↔
        exampleConfig.failsafePwm ≤ bound + polls.length * exampleConfig.decayStep ∧
          exampleConfig.minPwm ≤ bound ∧ ∀ seen later, seen :: later <:+ polls →
            exampleConfig.target seen ≤ bound + later.length * exampleConfig.decayStep := by
  have polls : ∃ state current seen, (unit exampleConfig).run ⟨none, fun _ => ⟨false, 0⟩, .fresh⟩ warmPoll =
      some state ∧ state.phase = .running [()] current [seen] := ⟨_, _, _, rfl, rfl⟩
  obtain ⟨state, current, seen, ran, running⟩ := polls
  exact ⟨state, _, _, _, ran, running, headers_follow (by decide) ran running (List.cons_ne_nil _ _)⟩

/-- What is safe for the cards, in each phase of the unit. -/
def Cool (config : Config) (all : List Header) (pwms : Header → Pwm) : Phase Header → Prop
  | .running headers _ polls | .statted headers _ polls _ =>
      ∀ seen ∈ polls.getLast?, ∀ header ∈ headers,
        (pwms header).manual = true ∧ Cools config seen (pwms header).duty
  | .down => ∀ header ∈ all, pwms header = ⟨true, config.failsafePwm⟩
  | .fresh | .leaving _ | .stopped => True

omit [DecidableEq Header] in
theorem Driven.cool (falls : 0 ≤ config.decayStep) {headers : List Header} {current : ℤ}
    (isDuty : current = dutyAfter config polls)
    (holds : polls ≠ [] → ∀ header ∈ headers, state.pwms header = ⟨true, current⟩) :
    ∀ seen ∈ polls.getLast?, ∀ header ∈ headers,
      (state.pwms header).manual = true ∧ Cools config seen (state.pwms header).duty := by
  intro seen isLast header member
  obtain ⟨earlier, rfl⟩ := List.getLast?_eq_some_iff.mp isLast
  have polled : earlier ++ [seen] ≠ [] := List.append_ne_nil_of_right_ne_nil _ (List.cons_ne_nil _ _)
  rw [holds polled header member]
  obtain ⟨-, least, each⟩ := (dutyAfter_le_iff falls polled).mp isDuty.ge
  exact ⟨rfl, cools_of_target_le (by simpa using each seen [] (List.suffix_append _ _)) least⟩

/-- In every run of the publisher, the bridge and its unit the headers hold what the last poll calls for
while the bridge runs, and the fail-safe duty when it is gone. -/
theorem headers_cool (falls : 0 ≤ config.decayStep) {file : Option Publication} {pwms : Header → Pwm}
    {events : List (Event Header)} (ran : (unit config).run ⟨file, pwms, .fresh⟩ events = some state)
    (reaches : (unit config).Guarded (Reaches all) ⟨file, pwms, .fresh⟩ events) :
    Cool config all state.pwms state.phase := by
  have driven := driven_of_run falls ran reaches
  obtain ⟨file, pwms, phase⟩ := state
  cases phase with
  | running headers current polls | statted headers current polls =>
    exact Driven.cool falls driven.1 driven.2
  | down => exact driven
  | _ => trivial

/-- The bridge is stopped after a poll. -/
def stoppedAfterPoll : List (Event Unit) :=
  warmPoll ++ [.signal, .trap fun _ => .failed, .stopPost [()] fun _ => .done]

theorem example_headers_cool : ∃ state : State Unit,
    (unit exampleConfig).run ⟨none, fun _ => ⟨false, 0⟩, .fresh⟩ stoppedAfterPoll = some state ∧
      state.phase = .down ∧ Cool exampleConfig [()] state.pwms state.phase := by
  have stops : ∃ state : State Unit, (unit exampleConfig).run ⟨none, fun _ => ⟨false, 0⟩, .fresh⟩
      stoppedAfterPoll = some state ∧ state.phase = .down := ⟨_, rfl, rfl⟩
  obtain ⟨state, ran, isDown⟩ := stops
  refine ⟨state, ran, isDown, headers_cool (by decide) ran ?_⟩
  refine (unit exampleConfig).guarded_of_forall (fun event member _ resolved writes same => ?_) _
  subst same
  simp only [stoppedAfterPoll, warmPoll, List.cons_append, List.nil_append, List.mem_cons,
    reduceCtorEq, Event.stopPost.injEq, List.not_mem_nil, false_or, or_false] at member
  obtain ⟨rfl, rfl⟩ := member
  exact fun header _ => ⟨List.mem_singleton.mpr rfl, rfl⟩

end Runs

end FanControl

end LocalGpuCluster
