/-
This file says once what each segment of an escalation call can do. The first segment raises
and leaves the ledger alone, or appends the row of a refusal, or leaves a reservation and
nothing else; the last one settles that reservation. Everything proved about escalation calls
starts from here.
-/

import LocalGpuCluster.EscalationHandle

namespace LocalGpuCluster

namespace Escalation

/-! ### The ledger's own operations -/

theorem rows_eq_error {ledger : Ledger} {failure : PyError} :
    ledger.rows = .error failure ↔ ledger.tooDeep = true ∧ failure = .recursionError := by
  unfold Ledger.rows
  cases ledger.tooDeep <;> simp [eq_comm]

theorem rows_eq_ok {ledger : Ledger} {rows : List Row} :
    ledger.rows = .ok rows ↔ ledger.tooDeep = false ∧ rows = ledger.lines.filterMap Line.row := by
  unfold Ledger.rows
  cases ledger.tooDeep <;> simp [eq_comm]

/-- A refusal is appended, and its reservation-free ledger is otherwise as it was. -/
theorem refuseWith_written (ledger : Ledger) (call : Refused) (refusal : Refusal) :
    refuseWith ledger call .written refusal =
      ({ ledger with
          lines := ledger.lines ++ [.value (.obj (callRow call.now call.chosen call.model call.sha
            call.briefTokens 0 0 0 (text "refused:" ++ refusal.code) none))] },
        .ok (.refused ⟨refusal.status, errorBody refusal.code refusal.message⟩)) := rfl

/-- What `refuse` does: it fails to read the ledger, or refuses with the status it was given. -/
theorem refuse_cases (python : Python) (ledger : Ledger) (call : Refused) (append : Append)
    (refusal : Refusal) :
    (refuse python ledger call append refusal = (ledger, .error .recursionError) ∧
        refusal.code ∈ briefRefusals ∧ ledger.tooDeep = true) ∨
      (refusal.code ∈ briefRefusals → ledger.tooDeep = false) ∧
        ∃ spoken : Refusal, spoken.status = refusal.status ∧
          refuse python ledger call append refusal = refuseWith ledger call append spoken := by
  unfold refuse
  split
  · rename_i counted
    cases read : ledger.rows with
    | error failure =>
      obtain ⟨deep, rfl⟩ := rows_eq_error.mp read
      exact Or.inl ⟨rfl, List.contains_iff_mem.mp counted, deep⟩
    | ok rows =>
      refine Or.inr ⟨fun _ => (rows_eq_ok.mp read).1, _, ?_, rfl⟩
      unfold afterStreak
      split <;> rfl
  · rename_i uncounted
    exact Or.inr ⟨fun member => absurd (List.contains_iff_mem.mpr member) uncounted, refusal, rfl,
      rfl⟩

/-! ### Arrival -/

/-- The statuses `handle` refuses with. -/
def refusalStatuses : List ℤ := [400, 402, 413, 422, 424]

/-- The call `handle` sends and the ledger it leaves: the reservation was granted. -/
structure Sent (python : Python) (config : Config) (ledger held : Ledger) (chosen : Alias)
    (body : Json) (now : ℚ) (call : Call) : Prop where
  sameNow : call.now = now
  sameAlias : call.chosen = chosen
  brief : briefText body = some call.brief
  sha : call.sha = python.sha256 call.brief
  valid : validateBrief call.brief chosen = none
  briefTokens : call.briefTokens = estimateTokens call.brief
  priced : priceOf config (config.models chosen.tier) = some (call.model, call.prices)
  fresh : duplicateAge python config ledger call.sha now = .ok none
  worst : worstCost call.prices call.briefTokens = some call.worst
  granted : reserve python config chosen (some call.worst) now ledger = .ok (.granted call.token held)

/-- A refusal of the call: its row carries the call's arrival and alias. -/
def Refuses (ledger : Ledger) (chosen : Alias) (now : ℚ) (append : Append)
    (result : Ledger × Except PyError Arrival) : Prop :=
  ∃ (call : Refused) (spoken : Refusal), call.now = now ∧ call.chosen = chosen ∧
    spoken.status ∈ refusalStatuses ∧ result = refuseWith ledger call append spoken

theorem refuse_refuses (python : Python) {ledger : Ledger} {call : Refused} {append : Append}
    {refusal : Refusal} (status : refusal.status ∈ refusalStatuses) :
    refuse python ledger call append refusal = (ledger, .error .recursionError) ∨
      Refuses ledger call.chosen call.now append (refuse python ledger call append refusal) := by
  obtain ⟨raised, -, -⟩ | ⟨-, spoken, same, refused⟩ :=
    refuse_cases python ledger call append refusal
  · exact Or.inl raised
  · exact Or.inr ⟨call, spoken, rfl, rfl, same ▸ status, refused⟩

/-- `handle` from the brief check on: it raises, refuses, or sends the call it was given. -/
theorem arriveValid_cases (python : Python) (config : Config) (file : Option Text)
    (append : Append) (ledger : Ledger) (call : Refused) (brief : Text) :
    (∃ failure, arriveValid python config file append ledger call brief =
        (ledger, .error failure)) ∨
      Refuses ledger call.chosen call.now append
        (arriveValid python config file append ledger call brief) ∨
      ∃ held model prices worst token,
        arriveValid python config file append ledger call brief =
          (held, .ok (.sent ⟨call.now, call.chosen, model, prices, brief, call.sha,
            call.briefTokens, worst, token⟩)) ∧
        priceOf config call.model = some (model, prices) ∧
        duplicateAge python config ledger call.sha call.now = .ok none ∧
        worstCost prices call.briefTokens = some worst ∧
        reserve python config call.chosen (some worst) call.now ledger =
          .ok (.granted token held) := by
  have refusing {refusal : Refusal} (status : refusal.status ∈ refusalStatuses) :
      (∃ failure, refuse python ledger call append refusal = (ledger, .error failure)) ∨
        Refuses ledger call.chosen call.now append (refuse python ledger call append refusal) :=
    (refuse_refuses python status).imp (fun raised => ⟨_, raised⟩) id
  unfold arriveValid
  split
  · exact (refusing (by simp [refusalStatuses])).imp id Or.inl
  · rename_i model prices priced
    split
    · exact (refusing (by simp [refusalStatuses])).imp id Or.inl
    · split
      · exact Or.inl ⟨_, rfl⟩
      · exact (refusing (by simp [refusalStatuses])).imp id Or.inl
      · rename_i fresh
        dsimp only
        split
        · exact Or.inl ⟨_, rfl⟩
        · exact (refusing (by simp [refusalStatuses])).imp id Or.inl
        · rename_i token held granted
          obtain ⟨cost, -, worst, -⟩ := reserve_granted granted
          rw [worst] at granted
          refine Or.inr (Or.inr ⟨held, model, prices, cost, token, ?_, priced, fresh, worst, granted⟩)
          rw [worst, Option.getD_some]

/-- What the first segment of `handle` can do. -/
theorem arrive_cases (python : Python) (config : Config) (file : Option Text) (append : Append)
    (ledger : Ledger) (chosen : Alias) (body : Json) (now : ℚ) :
    (∃ failure, arrive python config file append ledger chosen body now =
        (ledger, .error failure)) ∨
      Refuses ledger chosen now append
        (arrive python config file append ledger chosen body now) ∨
      ∃ held call, arrive python config file append ledger chosen body now =
          (held, .ok (.sent call)) ∧
        Sent python config ledger held chosen body now call := by
  have refusing (call : Refused) {refusal : Refusal} (status : refusal.status ∈ refusalStatuses) :
      (∃ failure, refuse python ledger call append refusal = (ledger, .error failure)) ∨
        Refuses ledger call.chosen call.now append (refuse python ledger call append refusal) :=
    (refuse_refuses python status).imp (fun raised => ⟨_, raised⟩) id
  unfold arrive
  dsimp only
  split
  · exact Or.inl ⟨_, rfl⟩
  · cases brief : briefText body with
    | none =>
      exact (refusing ⟨now, chosen, config.models chosen.tier, _, _⟩ (by decide)).imp id Or.inl
    | some content =>
      dsimp only
      cases valid : validateBrief content chosen with
      | some refusal =>
        have status : refusal.status ∈ refusalStatuses := by
          obtain ⟨status, -⟩ | ⟨status, -⟩ := validateBrief_status valid <;> rw [status] <;> decide
        exact (refusing ⟨now, chosen, config.models chosen.tier, _, _⟩ status).imp id Or.inl
      | none =>
        obtain raised | refused | ⟨held, model, prices, worst, token, sent, priced, fresh, cost,
          granted⟩ := arriveValid_cases python config file append ledger
            ⟨now, chosen, config.models chosen.tier, python.sha256 content, estimateTokens content⟩
            content
        · exact Or.inl raised
        · exact Or.inr (Or.inl refused)
        · exact Or.inr (Or.inr ⟨held, _, sent, rfl, rfl, brief, rfl, valid, rfl, priced, fresh,
            cost, granted⟩)

/-! ### Conclusion -/

/-- The last segment settles the reservation with the row of the charge, whatever it returns. -/
theorem conclude_ledger (python : Python) (config : Config) (append : Append) (keepsBrief : Bool)
    (ledger : Ledger) (call : Call) (elapsed : ℚ) (posted : Posted) :
    (conclude python config append keepsBrief ledger call elapsed posted).1 =
      (ledger.settle call.token (settledRow python call elapsed (charge python call posted))
        append).1 := by
  unfold conclude
  dsimp only
  cases settled : ledger.settle call.token
    (settledRow python call elapsed (charge python call posted)) append with
  | mk after ok =>
    cases posted <;> cases ok <;> try rfl
    dsimp only
    split
    · rfl
    · split <;> rfl

/-- A settlement that goes through appends its row and drops its reservation. -/
theorem settle_written (ledger : Ledger) (token : ℕ) (row : Row) :
    ledger.settle token row .written =
      (({ ledger with lines := ledger.lines ++ [.value (.obj row)] } : Ledger).pop token, true) :=
  rfl

/-- A settlement whose append raises keeps its reservation. -/
theorem settle_raised {ledger : Ledger} {token : ℕ} {row : Row} {append : Append}
    (raised : append ≠ .written) :
    ledger.settle token row append =
      ({ ledger with lines := appendLines ledger.lines row append }, false) := by
  cases append with
  | written => exact absurd rfl raised
  | failed => rfl
  | torn => rfl

end Escalation

end LocalGpuCluster
