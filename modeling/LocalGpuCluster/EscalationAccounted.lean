/-
This file proves when an escalation call ends as the client can take it: with a response it does
not resend, one row in the ledger and no reservation left. `handle` answers every failure of
its own and of the upstream with a status outside the client's retry list and a message that has
been through `_safe_message`. What gets out of it comes before any of that: the hash of the
brief encodes it strictly, so a lone surrogate raises, and a ledger line that nests deeper than
the decoder goes raises in `rows`.
-/

import LocalGpuCluster.EscalationSegments

namespace LocalGpuCluster

namespace Escalation

/-! ### What is asked of a call -/

/-- The client takes the response as it is: its status is none that is resent, and neither is its
error message. -/
structure Response.NotRetried (response : Response) : Prop where
  below : response.status < 500
  unlisted : response.status ∉ [408, 409, 429]
  message : ∀ code message, response.payload = .error code message → retryable message = false

/-- One row is appended over the call, and its reservation is gone. -/
def Run.AccountedOnce (before : Ledger) (run : Run) : Prop :=
  match run.token with
  | none => run.finished.pending = before.pending ∧
      ∃ row, run.finished.lines = before.lines ++ [.value (.obj row)]
  | some token => run.arrived.lines = before.lines ∧
      (∀ entry ∈ run.finished.pending, entry.token ≠ token) ∧
        ∃ row, run.finished.lines = run.resumed.lines ++ [.value (.obj row)]

/-- `handle` returns a response that is not retried, or raises `CancelledError` again. -/
def Outcome.Ended : Outcome → Prop
  | .returned response => response.NotRetried
  | .cancelled => True
  | .raised _ => False

/-! ### What can be raised -/

theorem refuse_raises_iff (python : Python) (ledger : Ledger) (call : Refused)
    (refusal : Refusal) :
    (∃ failure, (refuse python ledger call .written refusal).2 = .error failure) ↔
      refusal.code ∈ briefRefusals ∧ ledger.tooDeep = true := by
  obtain ⟨raised, counted, deep⟩ | ⟨readable, spoken, -, refused⟩ :=
    refuse_cases python ledger call .written refusal
  · rw [raised]
    exact ⟨fun _ => ⟨counted, deep⟩, fun _ => ⟨_, rfl⟩⟩
  · rw [refused, refuseWith_written]
    constructor
    · rintro ⟨failure, raised⟩
      cases raised
    · rintro ⟨counted, deep⟩
      rw [readable counted] at deep
      cases deep

/-- The worst case is a cost that `reserve` takes to the budget check. -/
def Costed (worst : Option ℚ) : Prop := ∃ cost, worst = some cost ∧ 0 ≤ cost

theorem reserve_raises_iff {python : Python} {config : Config} {chosen : Alias}
    {worst : Option ℚ} {now : ℚ} {ledger : Ledger} :
    (∃ failure, reserve python config chosen worst now ledger = .error failure) ↔
      Costed worst ∧ ledger.tooDeep = true := by
  unfold reserve Costed usage
  cases worst with
  | none => simp
  | some cost =>
    by_cases negative : cost < 0
    · simp [negative]
    · unfold Ledger.rows
      cases ledger.tooDeep <;> simp [negative, not_lt.mp negative, Except.map]

theorem duplicateAge_raises_iff {python : Python} {config : Config} {ledger : Ledger} {sha : Text}
    {now : ℚ} : (∃ failure, duplicateAge python config ledger sha now = .error failure) ↔
      0 < config.dedupeS ∧ ledger.tooDeep = true := by
  unfold duplicateAge Ledger.rows
  by_cases off : config.dedupeS ≤ 0
  · simp [off]
  · rw [if_neg off]
    cases ledger.tooDeep <;> simp [not_le.mp off, Except.map]

/-- A duplicate was read off a ledger that can be read. -/
theorem duplicateAge_some {python : Python} {config : Config} {ledger : Ledger} {sha : Text}
    {now age : ℚ} (found : duplicateAge python config ledger sha now = .ok (some age)) :
    ledger.tooDeep = false := by
  unfold duplicateAge at found
  split at found
  · cases found
  · cases read : ledger.rows with
    | error failure =>
      rw [read] at found
      cases found
    | ok rows => exact (rows_eq_ok.mp read).1

/-- The call reads the ledger file before it is sent or refused: all do but one that is refused
for its price or its key, and one with the duplicate check off whose worst case is no cost. -/
def ReadsLedger (config : Config) (file : Option Text) (chosen : Alias) (body : Json) : Prop :=
  match briefText body with
  | none => True
  | some brief =>
      match validateBrief brief chosen with
      | some _ => True
      | none =>
          match priceOf config (config.models chosen.tier) with
          | none => False
          | some (_, prices) =>
              (readKey file).isSome = true ∧
                (0 < config.dedupeS ∨ Costed (worstCost prices (estimateTokens brief)))

theorem arriveValid_raises_iff (python : Python) (config : Config) (file : Option Text)
    (ledger : Ledger) (call : Refused) (brief : Text) :
    (∃ failure, (arriveValid python config file .written ledger call brief).2 = .error failure) ↔
      (match priceOf config call.model with
        | none => False
        | some (_, prices) => (readKey file).isSome = true ∧
            (0 < config.dedupeS ∨ Costed (worstCost prices call.briefTokens))) ∧
        ledger.tooDeep = true := by
  have uncounted (refusal : Refusal) (code : refusal.code ∉ briefRefusals) :
      ¬∃ failure, (refuse python ledger call .written refusal).2 = .error failure :=
    fun raises => code ((refuse_raises_iff python ledger call refusal).mp raises).1
  unfold arriveValid
  cases priced : priceOf config call.model with
  | none =>
    refine iff_of_false (uncounted _ ?_) fun reads => reads.1
    show text "unpriced" ∉ briefRefusals
    decide
  | some entry =>
    obtain ⟨model, prices⟩ := entry
    dsimp only
    cases key : readKey file with
    | none =>
      refine iff_of_false (uncounted _ ?_) fun reads => Bool.false_ne_true reads.1.1
      show text "no_key" ∉ briefRefusals
      decide
    | some secret =>
      simp only [Option.isSome_some, true_and]
      cases duplicate : duplicateAge python config ledger call.sha call.now with
      | error failure =>
        obtain ⟨on, deep⟩ := duplicateAge_raises_iff.mp ⟨failure, duplicate⟩
        exact ⟨fun _ => ⟨Or.inl on, deep⟩, fun _ => ⟨_, rfl⟩⟩
      | ok age =>
        cases age with
        | some age =>
          dsimp only
          rw [refuse_raises_iff, duplicateAge_some duplicate]
          simp
        | none =>
          dsimp only
          have silent : ¬(0 < config.dedupeS ∧ ledger.tooDeep = true) := fun reads => by
            obtain ⟨failure, raised⟩ := duplicateAge_raises_iff.mpr reads
            rw [raised] at duplicate
            cases duplicate
          cases reserved : reserve python config call.chosen (worstCost prices call.briefTokens)
              call.now ledger with
          | error failure =>
            obtain ⟨costed, deep⟩ := reserve_raises_iff.mp ⟨failure, reserved⟩
            exact ⟨fun _ => ⟨Or.inr costed, deep⟩, fun _ => ⟨_, rfl⟩⟩
          | ok result =>
            have unread : ¬((0 < config.dedupeS ∨ Costed (worstCost prices call.briefTokens)) ∧
                ledger.tooDeep = true) := by
              rintro ⟨on | costed, deep⟩
              · exact silent ⟨on, deep⟩
              · obtain ⟨failure, raised⟩ := reserve_raises_iff.mpr ⟨costed, deep⟩
                rw [raised] at reserved
                cases reserved
            refine iff_of_false ?_ unread
            cases result with
            | refused reason =>
              refine uncounted _ ?_
              show text "budget" ∉ briefRefusals
              decide
            | granted token held => simp

/-- What gets out of the first segment: the brief cannot be encoded, or the ledger not read. -/
theorem arrive_raises_iff (python : Python) (config : Config) (file : Option Text)
    (ledger : Ledger) (chosen : Alias) (body : Json) (now : ℚ) :
    (∃ failure, (arrive python config file .written ledger chosen body now).2 = .error failure) ↔
      ((briefText body).getD []).hasSurrogate = true ∨
        ReadsLedger config file chosen body ∧ ledger.tooDeep = true := by
  unfold arrive ReadsLedger
  dsimp only
  cases encodes : ((briefText body).getD []).hasSurrogate with
  | true => exact iff_of_true ⟨_, rfl⟩ (Or.inl rfl)
  | false =>
    rw [if_neg Bool.false_ne_true]
    simp only [Bool.false_eq_true, false_or]
    cases briefText body with
    | none =>
      dsimp only
      rw [refuse_raises_iff]
      simp [briefRefusals]
    | some brief =>
      dsimp only
      cases valid : validateBrief brief chosen with
      | some refusal =>
        dsimp only
        rw [refuse_raises_iff]
        have counted : refusal.code ∈ briefRefusals := by
          obtain ⟨-, code⟩ | ⟨-, code⟩ := validateBrief_status valid <;> rw [code] <;> decide
        simp [counted]
      | none => exact arriveValid_raises_iff python config file ledger _ brief

/-! ### The whole call -/

theorem errorBody_not_retried {status : ℤ} {code message : Text} (below : status < 500)
    (unlisted : status ∉ [408, 409, 429]) :
    (⟨status, errorBody code message⟩ : Response).NotRetried := by
  refine ⟨below, unlisted, fun otherCode otherMessage same => ?_⟩
  cases same
  exact safeMessage_not_retryable message

/-- A call that is sent ends as the client can take it. -/
theorem conclude_ended (python : Python) (config : Config) (keepsBrief : Bool) (ledger : Ledger)
    {call : Call} (elapsed : ℚ) (posted : Posted) (encodes : call.brief.hasSurrogate = false) :
    (conclude python config .written keepsBrief ledger call elapsed posted).2.Ended := by
  have failed (code message : Text) : (⟨424, errorBody code message⟩ : Response).NotRetried :=
    errorBody_not_retried (by decide) (by decide)
  unfold conclude
  dsimp only
  rw [settle_written]
  cases posted with
  | cancelled => trivial
  | raised => exact failed _ _
  | failed err => exact failed _ _
  | answered data =>
    dsimp only
    cases answerCost python call.prices data with
    | none => exact failed _ _
    | some cost =>
      dsimp only
      rw [encodes, Bool.and_false, if_neg Bool.false_ne_true]
      exact ⟨show (200 : ℤ) < 500 by decide, show (200 : ℤ) ∉ [408, 409, 429] by decide,
        fun _ _ same => Payload.noConfusion same⟩

/-- For every body, ledger, configuration and upstream: the call ends with a response the client
does not resend or with its cancellation, appends exactly one ledger row and leaves no
reservation, if and only if its brief has no lone surrogate and, where the call reads the
ledger before it is sent, the ledger file can be read. -/
theorem handle_accounted_iff (python : Python) (config : Config) (surroundings : Surroundings)
    (ledger : Ledger) (chosen : Alias) (body : Json) :
    (handle python config surroundings ledger chosen body).outcome.Ended ∧
        (handle python config surroundings ledger chosen body).AccountedOnce ledger ↔
      ((briefText body).getD []).hasSurrogate = false ∧
        (ReadsLedger config surroundings.file chosen body → ledger.tooDeep = false) := by
  have raises := arrive_raises_iff python config surroundings.file ledger chosen body
    surroundings.now
  unfold handle
  obtain ⟨failure, raised⟩ | ⟨call, spoken, -, -, status, refused⟩ | ⟨held, call, sent, isSent⟩ :=
    arrive_cases python config surroundings.file .written ledger chosen body surroundings.now
  · rw [raised]
    refine iff_of_false (fun ends => ends.1) fun ⟨encodes, readable⟩ => ?_
    obtain surrogate | ⟨reads, deep⟩ := raises.mp ⟨failure, by rw [raised]⟩
    · rw [encodes] at surrogate
      cases surrogate
    · rw [readable reads] at deep
      cases deep
  · rw [refused, refuseWith_written]
    refine iff_of_true ⟨?_, rfl, _, rfl⟩ ?_
    · refine errorBody_not_retried ?_ ?_ <;> revert status <;>
        simp only [refusalStatuses, List.mem_cons, List.not_mem_nil, or_false] <;> omega
    · have silent := raises.not.mp (by
        rw [refused, refuseWith_written]
        simp)
      rw [not_or, not_and, Bool.not_eq_true, Bool.not_eq_true] at silent
      exact silent
  · rw [sent]
    have silent := raises.not.mp (by
      rw [sent]
      simp)
    rw [not_or, not_and, Bool.not_eq_true, Bool.not_eq_true] at silent
    have encodes : call.brief.hasSurrogate = false := by
      have brief := silent.1
      rw [isSent.brief] at brief
      exact brief
    refine iff_of_true ⟨conclude_ended python config _ _ _ _ encodes, ?_, ?_, ?_⟩ silent
    · obtain ⟨cost, rows, -, -, -, -, -, rfl⟩ := reserve_granted isSent.granted
      rfl
    · intro entry member
      dsimp only at member
      rw [conclude_ledger, settle_written] at member
      have kept := (List.mem_filter.mp member).2
      simpa using kept
    · dsimp only
      rw [conclude_ledger, settle_written]
      exact ⟨_, rfl⟩

/-- A body whose final user message is one lone surrogate, as `"\\ud800"` in its JSON gives. -/
def surrogateBody : Json :=
  .obj [(text "model", .str (text "claude-ask")),
    (text "messages", .arr [.obj [(text "role", .str (text "user")),
      (text "content", .str [0xD800])]])]

/-- On that body the encoding of the brief raises before anything is recorded. -/
theorem handle_accounted_fails :
    ¬∀ (python : Python) (config : Config) (surroundings : Surroundings) (ledger : Ledger),
      (handle python config surroundings ledger .ask surrogateBody).outcome.Ended ∧
        (handle python config surroundings ledger .ask surrogateBody).AccountedOnce ledger :=
  fun always =>
    (always .exact (.shipped (fun _ => none) .utc)
      ⟨none, 0, 0, ⟨.cancelled, false, .cancelled⟩, true, id⟩ ⟨[], [], 0⟩).1

end Escalation

end LocalGpuCluster
