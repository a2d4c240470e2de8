/-
This file models the budget of `escalation.py`: the configuration, the periods, the ledger file
with the reservations held beside it, what they add up to, and the check of a new call against
the caps. The file is a list of lines, each as `json.loads` takes it. A ledger operation that
raises is explicit, and so is what it leaves behind.
-/

import LocalGpuCluster.EscalationBrief

namespace LocalGpuCluster

namespace Escalation

/-! ### Periods -/

/-- A `datetime` on the wall clock: the day since the epoch, the second in the day, and which of
two equal wall times is meant. -/
structure LocalTime where
  ordinal : ℤ
  second : ℚ
  fold : Bool
  deriving DecidableEq, Repr

namespace LocalTime

/-- The day of the month of a day since the epoch, in the proleptic Gregorian calendar. -/
def dayOfMonth (ordinal : ℤ) : ℤ :=
  -- Days are counted from the first of March, so that the leap day comes last.
  let shifted := ordinal + 719468
  let dayOfEra := shifted % 146097
  let yearOfEra := (dayOfEra - dayOfEra / 1460 + dayOfEra / 36524 - dayOfEra / 146096) / 365
  let dayOfYear := dayOfEra - (365 * yearOfEra + yearOfEra / 4 - yearOfEra / 100)
  dayOfYear - (153 * ((5 * dayOfYear + 2) / 153) + 2) / 5 + 1

/-- `replace(hour=0, minute=0, second=0, microsecond=0)`, which keeps `fold`. -/
def midnight (time : LocalTime) : LocalTime := { time with second := 0 }

/-- `replace(day=1)`, which keeps `fold`. -/
def firstOfMonth (time : LocalTime) : LocalTime :=
  { time with ordinal := time.ordinal - (dayOfMonth time.ordinal - 1) }

end LocalTime

/-- The time zone: `datetime.fromtimestamp(now, ZoneInfo(tz))` and `timestamp()`, and how
`_when` writes the start of the next day and of the next month. -/
structure Zone where
  fromTimestamp : ℚ → LocalTime
  timestamp : LocalTime → ℚ
  nextDay : ℚ → Text
  nextMonth : ℚ → Text

namespace Zone

/-- UTC, where no wall time is repeated. -/
def utc : Zone where
  fromTimestamp now := ⟨⌊now / 86400⌋, now - 86400 * ⌊now / 86400⌋, false⟩
  timestamp time := 86400 * time.ordinal + time.second
  nextDay _ := []
  nextMonth _ := []

variable (zone : Zone) (now : ℚ)

/-- `day_start_ts` of `period_bounds`. -/
def dayStart : ℚ := zone.timestamp (zone.fromTimestamp now).midnight

/-- `month_start_ts` of `period_bounds`. -/
def monthStart : ℚ := zone.timestamp (zone.fromTimestamp now).midnight.firstOfMonth

end Zone

/-! ### Configuration and cost -/

/-- The part of `Config` that a call depends on; `zone` stands for `tz`. -/
structure Config where
  models : Tier → Option Text
  prices : Text → Option (ℚ × ℚ)
  monthCap : ℚ
  dayCap : ℚ
  sharedDailyCalls : Option ℕ
  autoDailyCalls : Option ℕ
  hardDailyCalls : Option ℕ
  zone : Zone
  keepBriefs : ℕ
  dedupeS : ℚ
  /-- `_money` lets no other caps in. -/
  monthCap_nonneg : 0 ≤ monthCap
  dayCap_nonneg : 0 ≤ dayCap

/-- `load_config` with `ESCALATION_PRICES` and `ESCALATION_TZ` set and the rest left unset. -/
def Config.shipped (prices : Text → Option (ℚ × ℚ)) (zone : Zone) : Config where
  models
    | .sonnet => some (text "claude-sonnet-5-5")
    | .opus => some (text "claude-opus-5-5")
  prices
  monthCap := 150
  dayCap := 7
  sharedDailyCalls := none
  autoDailyCalls := some 5
  hardDailyCalls := none
  zone
  keepBriefs := 0
  dedupeS := 120
  monthCap_nonneg := by norm_num
  dayCap_nonneg := by norm_num

/-- `call_cost`, `none` when it is no finite number or a token count is too large for a float. -/
def callCost (prices : ℚ × ℚ) (inputTokens outputTokens : ℤ) : Option ℚ := do
  let input ← finiteFloat inputTokens
  let output ← finiteFloat outputTokens
  let inputCost ← finiteFloat (input * prices.1)
  let outputCost ← finiteFloat (output * prices.2)
  let sum ← finiteFloat (inputCost + outputCost)
  finiteFloat (sum / 1000000)

/-- `SYSTEM_TOKENS`. -/
def systemTokens : ℕ := 200

/-- `worst_cost`, with the answer tokens `handle` reserves. -/
def worstCost (prices : ℚ × ℚ) (briefTokens : ℕ) : Option ℚ :=
  callCost prices ((briefTokens + systemTokens : ℕ) : ℤ)
    ((min answerMaxTokens reserveAnswerTokens : ℕ) : ℤ)

/-- An exception that a ledger operation or `handle` can let out. -/
inductive PyError where
  | unicodeEncodeError
  | recursionError
  | osError
  deriving DecidableEq, Repr

/-- One line of the ledger file, as `json.loads` takes it. -/
inductive Line where
  | value (json : Json)
  /-- `ValueError`: a torn line. -/
  | invalid
  /-- `RecursionError`: the line nests deeper than the decoder goes. -/
  | tooDeep

/-- A row: a line that is an object. -/
abbrev Row := List (Text × Json)

/-- The row of a line, `none` for a line that is skipped. -/
def Line.row : Line → Option Row
  | .value (.obj row) => some row
  | _ => none

/-- An entry of `_pending`. -/
structure Reservation where
  token : ℕ
  chosen : Alias
  worst : ℚ
  deriving DecidableEq, Repr

/-- The ledger file and `_pending`. Tokens are drawn from a counter, as no two `uuid4` agree. -/
structure Ledger where
  lines : List Line
  pending : List Reservation
  issued : ℕ

/-- What becomes of the write of one line. -/
inductive Append where
  | written
  /-- It raises and leaves the file as it was. -/
  | failed
  /-- It raises and leaves a torn line. -/
  | torn
  deriving DecidableEq, Repr

/-- The lines an attempt to append a row leaves. -/
def appendLines (lines : List Line) (row : Row) : Append → List Line
  | .written => lines ++ [.value (.obj row)]
  | .failed => lines
  | .torn => lines ++ [.invalid]

namespace Ledger

/-- `json.loads` raises `RecursionError` on a line of the file. -/
def tooDeep (ledger : Ledger) : Bool :=
  ledger.lines.any fun line =>
    match line with
    | .tooDeep => true
    | _ => false

/-- `rows`. The result is cached on the file's size and time, so it is that of reading it. -/
def rows (ledger : Ledger) : Except PyError (List Row) :=
  if ledger.tooDeep then .error .recursionError else .ok (ledger.lines.filterMap Line.row)

/-- `append`, and whether it returned. -/
def append (ledger : Ledger) (row : Row) (outcome : Append) : Ledger × Bool :=
  ({ ledger with lines := appendLines ledger.lines row outcome }, outcome = .written)

/-- `self._pending.pop(token, None)`. -/
def pop (ledger : Ledger) (token : ℕ) : Ledger :=
  { ledger with pending := ledger.pending.filter fun entry => entry.token ≠ token }

/-- `release`. -/
def release (ledger : Ledger) (token : ℕ) : Ledger := ledger.pop token

/-- `settle`: the row, then the reservation; if the row raises, the reservation stays. -/
def settle (ledger : Ledger) (token : ℕ) (row : Row) (outcome : Append) : Ledger × Bool :=
  match ledger.append row outcome with
  | (appended, true) => (appended.pop token, true)
  | (appended, false) => (appended, false)

end Ledger

/-! ### Usage -/

/-- `t` of a row in `usage`: an unreadable one counts as `now`. -/
def rowTime (python : Python) (now : ℚ) (row : Row) : ℚ :=
  ((Json.getIn row (text "ts")).finite python).getD now

/-- `cost` of a row in `usage`: an unreadable or negative one counts as the day cap. -/
def rowCost (python : Python) (config : Config) (row : Row) : ℚ :=
  match (Json.getIn row (text "cost_usd")).finite python with
  | some cost => if cost < 0 then config.dayCap else cost
  | none => config.dayCap

/-- `str(r.get("outcome", ""))`. -/
def outcomeText (python : Python) (row : Row) : Text :=
  match row.lookup (text "outcome") with
  | some outcome => outcome.toStr python
  | none => []

/-- The row counts as a call of the alias. -/
def countsFor (python : Python) (chosen : Alias) (row : Row) : Bool :=
  match Json.getIn row (text "alias") with
  | .str name => name = chosen.name && !(outcomeText python row).startsWith (text "refused")
  | _ => false

structure Usage where
  dayCost : ℚ
  monthCost : ℚ
  calls : Alias → ℕ

/-- What the rows from `start` on cost. -/
def costSince (python : Python) (config : Config) (now start : ℚ) (rows : List Row) : ℚ :=
  ((rows.filter fun row => start ≤ rowTime python now row).map (rowCost python config)).sum

/-- The rows from `start` on that are calls of the alias. -/
def callsSince (python : Python) (now start : ℚ) (chosen : Alias) (rows : List Row) : ℕ :=
  (rows.filter fun row => start ≤ rowTime python now row && countsFor python chosen row).length

def pendingCost (pending : List Reservation) : ℚ := (pending.map Reservation.worst).sum

def pendingCalls (chosen : Alias) (pending : List Reservation) : ℕ :=
  (pending.filter fun entry => entry.chosen = chosen).length

/-- `usage`, of the rows the file has. -/
def usageOf (python : Python) (config : Config) (now : ℚ) (rows : List Row)
    (pending : List Reservation) : Usage where
  dayCost := python.round
    (costSince python config now (config.zone.dayStart now) rows + pendingCost pending) 6
  monthCost := python.round
    (costSince python config now (config.zone.monthStart now) rows + pendingCost pending) 6
  calls chosen :=
    callsSince python now (config.zone.dayStart now) chosen rows + pendingCalls chosen pending

/-- `usage`. -/
def usage (python : Python) (config : Config) (now : ℚ) (ledger : Ledger) :
    Except PyError Usage :=
  ledger.rows.map fun rows => usageOf python config now rows ledger.pending

/-- `calls >= limit` of a limit that is set. -/
def reached (limit : Option ℕ) (calls : ℕ) : Bool := limit.any fun count => count ≤ calls

/-- The limit in a message. -/
def limitText (limit : Option ℕ) : Text := decimal (limit.getD 0 : ℕ)

/-- `check_budget`. -/
def checkBudget (python : Python) (config : Config) (usage : Usage) (chosen : Alias) (worst : ℚ) :
    Option Text :=
  if ¬usage.monthCost + worst ≤ config.monthCap then
    some (text "monthly cap reached ($" ++ python.fixed config.monthCap 2 ++ text ")")
  else if ¬usage.dayCost + worst ≤ config.dayCap then
    some (text "daily cap reached ($" ++ python.fixed config.dayCap 2 ++ text ")")
  else if chosen = .hard then
    if reached config.hardDailyCalls (usage.calls .hard) then
      some (text "Opus calls for today used (" ++ limitText config.hardDailyCalls ++ text ")")
    else none
  else if reached config.sharedDailyCalls (usage.calls .ask + usage.calls .auto) then
    some (text "daily calls used (" ++ limitText config.sharedDailyCalls ++ text ")")
  else if chosen = .auto && reached config.autoDailyCalls (usage.calls .auto) then
    some (text "automatic calls for today used (" ++ limitText config.autoDailyCalls ++ text ")")
  else none

/-! ### Reservations -/

/-- What `reserve` returns: a reason, or a token and the ledger that holds it. -/
inductive Reserved where
  | refused (reason : Text)
  | granted (token : ℕ) (ledger : Ledger)

/-- `reserve`; a worst case that is no finite number is `none`. -/
def reserve (python : Python) (config : Config) (chosen : Alias) (worst : Option ℚ) (now : ℚ)
    (ledger : Ledger) : Except PyError Reserved :=
  match worst with
  | none => .ok (.refused (text "budget: invalid cost estimate"))
  | some worst =>
      if worst < 0 then .ok (.refused (text "budget: invalid cost estimate"))
      else
        (usage python config now ledger).map fun usage =>
          match checkBudget python config usage chosen worst with
          | some reason =>
              .refused (text "budget: " ++ reason ++ text "; resets " ++
                if reason.startsWith (text "monthly") then config.zone.nextMonth now
                else config.zone.nextDay now)
          | none =>
              .granted ledger.issued
                { ledger with
                  pending := ledger.pending ++ [⟨ledger.issued, chosen, worst⟩]
                  issued := ledger.issued + 1 }

/-- What a granted reservation has passed and what it changes. -/
theorem reserve_granted {python : Python} {config : Config} {chosen : Alias} {worst : Option ℚ}
    {now : ℚ} {ledger next : Ledger} {token : ℕ}
    (granted : reserve python config chosen worst now ledger = .ok (.granted token next)) :
    ∃ cost rows, worst = some cost ∧ 0 ≤ cost ∧ ledger.rows = .ok rows ∧
      checkBudget python config (usageOf python config now rows ledger.pending) chosen cost = none ∧
      token = ledger.issued ∧
      next = { ledger with
        pending := ledger.pending ++ [⟨ledger.issued, chosen, cost⟩]
        issued := ledger.issued + 1 } := by
  unfold reserve at granted
  split at granted
  · cases granted
  · rename_i cost
    split at granted
    · cases granted
    · rename_i nonneg
      unfold usage at granted
      cases read : ledger.rows with
      | error failure =>
        rw [read] at granted
        cases granted
      | ok rows =>
        rw [read] at granted
        simp only [Except.map, Except.ok.injEq] at granted
        split at granted
        · cases granted
        · rename_i fits
          cases granted
          exact ⟨cost, rows, rfl, not_lt.mp nonneg, rfl, fits, rfl, rfl⟩

end Escalation

end LocalGpuCluster
