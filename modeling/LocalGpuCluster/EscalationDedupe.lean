/-
This file proves what the duplicate check of `handle` is good for. The check reads the rows of
the ledger, and the row of a call is written when the call is over: from then on, for the time
of the window, a call with the same brief is not sent, whatever happened in between. While the
first call is still under way there is no row, and nothing keeps the second one back.
-/

import LocalGpuCluster.EscalationBilling
import LocalGpuCluster.EscalationMachine

namespace LocalGpuCluster

namespace Escalation

variable {python : Python} {config : Config}

/-! ### Rows that make a later call a duplicate -/

/-- The row of the call says that it was answered or charged. -/
def Charge.Recorded (python : Python) (charged : Charge) : Prop :=
  charged.outcome = text "ok" ∨ 0 < python.round charged.cost 6

/-- A call that was not answered has an error for its outcome. -/
theorem charge_outcome (call : Call) (posted : Posted) :
    (charge python call posted).outcome = text "ok" ∨
      (charge python call posted).outcome.startsWith (text "error:") = true := by
  cases posted with
  | answered data =>
    simp only [charge]
    split
    · exact Or.inl rfl
    · exact Or.inr rfl
  | failed err => exact Or.inr rfl
  | cancelled => exact Or.inr rfl
  | raised => exact Or.inr rfl

theorem settledRow_spent {call : Call} {posted : Posted} (elapsed : ℚ)
    (recorded : (charge python call posted).Recorded python) :
    spentOrBudgetRefused python (settledRow python call elapsed (charge python call posted)) =
      true := by
  simp only [spentOrBudgetRefused, settledRow, outcomeText_callRow, callRow_cost, Json.finite,
    Option.any_some, Bool.or_eq_true, Bool.and_eq_true]
  rcases charge_outcome call posted with answered | failed
  · exact Or.inl (Or.inl (decide_eq_true answered))
  · rcases recorded with answered | charged
    · exact Or.inl (Or.inl (decide_eq_true answered))
    · exact Or.inr ⟨failed, decide_eq_true charged⟩

/-- When the row of a call has it that the call was done. -/
def Call.doneAt (python : Python) (call : Call) (elapsed : ℚ) : ℚ :=
  max call.now (python.round (call.now + elapsed) 3)

theorem settledRow_finishedAt {call : Call} {now : ℚ} (arrived : call.now ≤ now) (elapsed : ℚ)
    (charged : Charge) : finishedAt python now (settledRow python call elapsed charged) =
      some (call.doneAt python elapsed) := by
  simp only [finishedAt, settledRow, callRow_ts, callRow_done, Json.finite, if_neg (not_lt.mpr arrived)]
  rfl

/-- A call that finds such a row in its window is not fresh. -/
theorem not_fresh_of_row (on : 0 < config.dedupeS) {ledger : Ledger} {row : Row}
    (member : row ∈ ledger.lines.filterMap Line.row) {sha : Text} (same : hasSha sha row = true)
    (spent : spentOrBudgetRefused python row = true) {now finished : ℚ}
    (done : finishedAt python now row = some finished) (window : now ≤ finished + config.dedupeS) :
    duplicateAge python config ledger sha now ≠ .ok none := by
  have age : duplicateOf python config sha now row = some (max 0 (now - finished)) := by
    simp only [duplicateOf, same, spent, Bool.and_self, if_true, done]
    exact if_pos (sub_le_iff_le_add.mpr window)
  intro fresh
  rw [duplicateAge, if_neg (not_le.mpr on)] at fresh
  cases read : ledger.rows with
  | error failure =>
    rw [read] at fresh
    cases fresh
  | ok rows =>
    obtain ⟨-, rfl⟩ := rows_eq_ok.mp read
    rw [read, Except.map, Except.ok.injEq, List.min?_eq_none_iff] at fresh
    exact absurd (List.mem_filterMap.mpr ⟨row, member, age⟩) (fresh ▸ List.not_mem_nil)

/-! ### What stays through a run -/

section Runs

variable {Index : Type} [DecidableEq Index] {state next finish : State Index}

/-- Lines are only ever appended. -/
theorem appendLines_prefix (lines : List Line) (row : Row) (append : Append) :
    lines <+: appendLines lines row append := by
  cases append with
  | written => exact List.prefix_append _ _
  | failed => exact List.prefix_rfl
  | torn => exact List.prefix_append _ _

theorem settle_lines (ledger : Ledger) (token : ℕ) (row : Row) (append : Append) :
    (ledger.settle token row append).1.lines = appendLines ledger.lines row append := by
  cases append <;> rfl

theorem step_lines {event : Event Index}
    (stepped : (machine python config).step state event = some next) :
    state.ledger.lines <+: next.ledger.lines := by
  cases event with
  | tick now =>
    obtain ⟨-, ⟨⟩⟩ := Option.ite_none_right_eq_some.mp stepped
    exact List.prefix_rfl
  | reserve chosen worst now =>
    obtain ⟨-, moved⟩ := Option.ite_none_right_eq_some.mp stepped
    split at moved
    · rename_i token held grants
      obtain ⟨cost, rows, -, -, -, -, -, rfl⟩ := reserve_granted grants
      cases moved
      exact List.prefix_rfl
    · cases moved
      exact List.prefix_rfl
  | settle token row append =>
    obtain ⟨-, ⟨⟩⟩ := Option.ite_none_right_eq_some.mp stepped
    rw [settle_lines]
    exact appendLines_prefix _ row append
  | release token =>
    obtain ⟨-, ⟨⟩⟩ := Option.ite_none_right_eq_some.mp stepped
    exact List.prefix_rfl
  | arrive index file append chosen body now =>
    obtain ⟨-, rfl | ⟨call, spoken, rfl⟩ | ⟨after, call, sent, -, rfl⟩⟩ := step_arrive stepped
    · exact List.prefix_rfl
    · exact appendLines_prefix _ _ append
    · obtain ⟨cost, rows, -, -, -, -, -, rfl⟩ := reserve_granted sent.granted
      exact List.prefix_rfl
  | conclude index elapsed append keepsBrief upstream =>
    obtain ⟨call, under, rfl⟩ := step_conclude stepped
    rw [settle_lines]
    exact appendLines_prefix _ _ append

theorem run_lines {events : List (Event Index)}
    (ran : (machine python config).run state events = some finish) :
    state.ledger.lines <+: finish.ledger.lines :=
  (machine python config).run_invariant (fun later => state.ledger.lines <+: later.ledger.lines)
    (fun _ _ _ stepped so_far => so_far.trans (step_lines stepped)) ran List.prefix_rfl

theorem run_clock {events : List (Event Index)}
    (ran : (machine python config).run state events = some finish) : state.clock ≤ finish.clock :=
  (machine python config).run_invariant (fun later => state.clock ≤ later.clock)
    (fun _ _ _ stepped so_far => so_far.trans (step_clock stepped).2) ran le_rfl

/-- A call under way has the hash of its brief, and has arrived. -/
def Underway (python : Python) (state : State Index) : Prop :=
  ∀ index call, state.calls index = some call →
    call.sha = python.sha256 call.brief ∧ call.now ≤ state.clock

theorem underway_step {event : Event Index}
    (stepped : (machine python config).step state event = some next)
    (underway : Underway python state) : Underway python next := by
  have later (index : Index) (call : Call) (under : state.calls index = some call) :
      call.sha = python.sha256 call.brief ∧ call.now ≤ next.clock :=
    ⟨(underway index call under).1, (underway index call under).2.trans (step_clock stepped).2⟩
  intro index call under
  cases event with
  | tick now =>
    obtain ⟨-, ⟨⟩⟩ := Option.ite_none_right_eq_some.mp stepped
    exact later index call under
  | reserve chosen worst now =>
    obtain ⟨-, moved⟩ := Option.ite_none_right_eq_some.mp stepped
    split at moved <;> cases moved <;> exact later index call under
  | settle token row append =>
    obtain ⟨-, ⟨⟩⟩ := Option.ite_none_right_eq_some.mp stepped
    exact later index call under
  | release token =>
    obtain ⟨-, ⟨⟩⟩ := Option.ite_none_right_eq_some.mp stepped
    exact later index call under
  | arrive newIndex file append chosen body now =>
    obtain ⟨-, rfl | ⟨refused, spoken, rfl⟩ | ⟨after, newCall, sent, -, rfl⟩⟩ := step_arrive stepped
    · exact later index call under
    · exact later index call under
    · obtain ⟨-, rfl⟩ | ⟨-, older⟩ := update_some_eq_some.mp under
      · exact ⟨sent.sha, sent.sameNow.le⟩
      · exact later index call older
  | conclude ended elapsed append keepsBrief upstream =>
    obtain ⟨endedCall, -, rfl⟩ := step_conclude stepped
    exact later index call (update_none_eq_some.mp under).2

theorem run_underway {lines : List Line} {clock : ℚ} {events : List (Event Index)}
    (ran : (machine python config).run (start lines clock) events = some state) :
    Underway python state :=
  (machine python config).run_invariant (Underway python)
    (fun _ _ _ => underway_step) ran fun _ _ under => by cases under

/-- A call whose row says that it was answered or charged keeps every later call with its brief
from being sent while the window lasts. -/
theorem repeat_not_sent (python : Python) (config : Config) (on : 0 < config.dedupeS)
    {lines : List Line} {clock : ℚ} {earlier between : List (Event Index)}
    {settled later arrived : State Index}
    (ran : (machine python config).run (start lines clock) earlier = some state)
    {index : Index} {first : Call} (under : state.calls index = some first)
    {elapsed : ℚ} {keepsBrief : Bool} {upstream : Upstream}
    (recorded : (charge python first (post upstream).1).Recorded python)
    (concluded : (machine python config).step state
      (.conclude index elapsed .written keepsBrief upstream) = some settled)
    (ranOn : (machine python config).run settled between = some later)
    {other : Index} {file : Option Text} {append : Append} {chosen : Alias} {body : Json} {now : ℚ}
    (same : briefText body = some first.brief)
    (window : now ≤ first.doneAt python elapsed + config.dedupeS)
    (arrives : (machine python config).step later (.arrive other file append chosen body now) =
      some arrived) :
    arrived.calls = later.calls ∧ arrived.ledger.pending = later.ledger.pending := by
  obtain ⟨⟨passed, -⟩, rfl | ⟨call, spoken, rfl⟩ | ⟨after, call, sent, -, -⟩⟩ := step_arrive arrives
  · exact ⟨rfl, rfl⟩
  · exact ⟨rfl, rfl⟩
  · exfalso
    obtain ⟨sha, hasArrived⟩ := run_underway ran index first under
    have arrivedFirst : first.now ≤ now :=
      hasArrived.trans ((step_clock concluded).2.trans ((run_clock ranOn).trans passed))
    obtain ⟨ended, endedUnder, rfl⟩ := step_conclude concluded
    obtain rfl : first = ended := Option.some.inj (under.symm.trans endedUnder)
    have kept := (run_lines ranOn).subset
      (List.mem_append_right state.ledger.lines (List.mem_singleton_self _))
    have row : settledRow python first elapsed (charge python first (post upstream).1) ∈
        later.ledger.lines.filterMap Line.row := List.mem_filterMap.mpr ⟨_, kept, rfl⟩
    have sameSha : hasSha call.sha
        (settledRow python first elapsed (charge python first (post upstream).1)) = true := by
      have brief : first.brief = call.brief := Option.some.inj (same.symm.trans sent.brief)
      rw [hasSha, settledRow, callRow_sha, sha, brief, ← sent.sha]
      exact decide_eq_true rfl
    exact not_fresh_of_row on row sameSha (settledRow_spent elapsed recorded)
      (settledRow_finishedAt arrivedFirst elapsed _) window sent.fresh

end Runs

/-! ### A repeat after the answer and a repeat before it -/

/-- A call with a valid brief arrives. -/
def arrivePlain (index : Bool) (chosen : Alias) (now : ℚ) : Event Bool :=
  .arrive index (some (text "sk-ant")) .written chosen plainBody now

/-- An upstream that answers at once. -/
def answers : Upstream := (answering usageData).upstream

theorem repeat_not_sent_afterAnswer : ∃ later arrived : State Bool,
    (machine .exact plainConfig).run (start [] 1000)
      [arrivePlain false .ask 1000, .conclude false 2 .written true answers, .tick 1100] = some later ∧
    (machine .exact plainConfig).step later (arrivePlain true .hard 1121) = some arrived ∧
    arrived.calls = later.calls ∧ arrived.ledger.pending = later.ledger.pending := by
  have runs : ((machine .exact plainConfig).run (start [] 1000) [arrivePlain false .ask 1000,
      .conclude false 2 .written true answers, .tick 1100, arrivePlain true .hard 1121]).isSome =
      true := by decide +kernel
  have sends : ((machine .exact plainConfig).run (start [] 1000) [arrivePlain false .ask 1000]).any
      (fun state => (state.calls false).any fun first =>
        (charge .exact first (post answers).1).outcome = text "ok" ∧
          briefText plainBody = some first.brief ∧
          1121 ≤ first.doneAt .exact 2 + plainConfig.dedupeS) = true := by decide +kernel
  obtain ⟨state, ran, sent⟩ := (Option.any_eq_true ..).mp sends
  obtain ⟨first, under, facts⟩ := (Option.any_eq_true ..).mp sent
  obtain ⟨answered, same, window⟩ := of_decide_eq_true facts
  obtain ⟨arrived, all⟩ := Option.isSome_iff_exists.mp runs
  obtain ⟨afterArrival, arrival, rest⟩ := Machine.run_cons_eq_some _ |>.mp all
  obtain ⟨settled, concluded, rest⟩ := Machine.run_cons_eq_some _ |>.mp rest
  obtain ⟨later, ticked, rest⟩ := Machine.run_cons_eq_some _ |>.mp rest
  obtain ⟨final, arrives, rest⟩ := Machine.run_cons_eq_some _ |>.mp rest
  have single : (machine .exact plainConfig).run (start [] 1000) [arrivePlain false .ask 1000] =
      some afterArrival := (Machine.run_cons_eq_some _).mpr ⟨afterArrival, arrival, rfl⟩
  obtain rfl : state = afterArrival := Option.some.inj (ran.symm.trans single)
  have between : (machine .exact plainConfig).run settled [.tick 1100] = some later :=
    (Machine.run_cons_eq_some _).mpr ⟨later, ticked, rfl⟩
  refine ⟨later, final, ?_, arrives, repeat_not_sent .exact plainConfig (by decide) ran under
    (Or.inl answered) concluded between same window arrives⟩
  exact (Machine.run_cons_eq_some _).mpr ⟨state, arrival,
    (Machine.run_cons_eq_some _).mpr ⟨settled, concluded, between⟩⟩

theorem repeat_not_sent_fails :
    ¬∀ (python : Python) (config : Config), 0 < config.dedupeS →
      ∀ (lines : List Line) (clock : ℚ) (events : List (Event Bool)) (state : State Bool),
        (machine python config).run (start lines clock) events = some state →
        ∀ first second, state.calls false = some first → state.calls true = some second →
          first.brief = second.brief → ∀ firstUpstream secondUpstream,
            ¬((charge python first (post firstUpstream).1).outcome = text "ok" ∧
              (charge python second (post secondUpstream).1).outcome = text "ok") := by
  intro always
  have both : ((machine .exact plainConfig).run (start [] 1000)
      [arrivePlain false .ask 1000, arrivePlain true .ask 1001]).any (fun state =>
        (state.calls false).any fun first => (state.calls true).any fun second =>
          first.brief = second.brief ∧ (charge .exact first (post answers).1).outcome = text "ok" ∧
            (charge .exact second (post answers).1).outcome = text "ok") = true := by decide +kernel
  obtain ⟨state, ran, firstUnder⟩ := (Option.any_eq_true ..).mp both
  obtain ⟨first, isFirst, secondUnder⟩ := (Option.any_eq_true ..).mp firstUnder
  obtain ⟨second, isSecond, facts⟩ := (Option.any_eq_true ..).mp secondUnder
  obtain ⟨same, answered⟩ := of_decide_eq_true facts
  exact always .exact plainConfig (by decide) [] 1000 _ state ran first second isFirst isSecond same
    answers answers answered

end Escalation

end LocalGpuCluster
