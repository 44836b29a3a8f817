/-
# `SystemdMonitoring.Domain.Tools.Timers` — `list_timers`

Timer rows with what follows from the clock: seconds until the next and since
the last run, and whether a run is overdue.  Unlike the other tools this one
parses its arguments itself and takes an explicit null for a wrong type.
-/
import SystemdMonitoring.Domain.Responses

namespace SystemdMonitoring

open Lib Lib.Text

/-! ## Arguments -/

structure TimersQueryParams where
  scope : Option String
  limit : Option Nat
  nameContains : Option String
  state : Option String
  summary : Option Bool
  includePersistent : Option Bool
  overdueOnly : Option Bool
  sort : Option String
  order : Option String
  deriving DecidableEq, Repr

/-- A missing argument is no argument; a present one must be of the right type. -/
def parseOptionalArgument {α : Type} (read : Json → Except AppError α) (arguments : Members)
    (key : String) : Except AppError (Option α) :=
  match Json.member arguments key with
  | none => .ok none
  | some value => (read value).map some

/-- A value of the expected type, or `invalid_params` with what was expected. -/
def expectedValue {α : Type} (message : String) (value : Option α) : Except AppError α :=
  match value with
  | some value => .ok value
  | none => .error (.badRequest "invalid_params" message)

def parseOptionalBoolArgument : Members → String → Except AppError (Option Bool) :=
  parseOptionalArgument (fun value => expectedValue "boolean parameter expected" value.asBool)

def parseOptionalStringArgument : Members → String → Except AppError (Option String) :=
  parseOptionalArgument (fun value => expectedValue "string parameter expected" value.asStr)

def parseOptionalU32Argument : Members → String → Except AppError (Option Nat) :=
  parseOptionalArgument (fun value => do
    let raw ← expectedValue "integer parameter expected" value.asU64
    if raw < 2 ^ 32 then return raw
    else .error (.badRequest "invalid_params" "integer parameter out of range"))

/-- Parses raw MCP arguments into strongly-typed timer query parameters. -/
def parseTimersQueryParams (arguments : Option Members) : Except AppError TimersQueryParams := do
  let arguments := arguments.getD []
  let scope ← parseOptionalStringArgument arguments "scope"
  let limit ← parseOptionalU32Argument arguments "limit"
  let nameContains ← parseOptionalStringArgument arguments "name_contains"
  let state ← parseOptionalStringArgument arguments "state"
  let summary ← parseOptionalBoolArgument arguments "summary"
  let includePersistent ← parseOptionalBoolArgument arguments "include_persistent"
  let overdueOnly ← parseOptionalBoolArgument arguments "overdue_only"
  let sort ← parseOptionalStringArgument arguments "sort"
  let order ← parseOptionalStringArgument arguments "order"
  return {
    scope := scope
    limit := limit
    nameContains := nameContains
    state := state
    summary := summary
    includePersistent := includePersistent
    overdueOnly := overdueOnly
    sort := sort
    order := order }

structure NormalizedTimersQuery where
  scope : UnitScope
  limit : Nat
  timerState : Option String
  nameContains : Option String
  summaryEnabled : Bool
  includePersistent : Bool
  overdueOnly : Bool
  sort : String
  order : String
  deriving DecidableEq, Repr

/-- Parses and normalizes `list_timers` arguments into a typed execution query. -/
def normalizeTimersQuery (arguments : Option Members) : Except AppError NormalizedTimersQuery := do
  let queryParams ← parseTimersQueryParams arguments
  let scope ← normalizeScope queryParams.scope
  let limit ← normalizeTimersLimit queryParams.limit
  let timerState ← normalizeTimerState queryParams.state
  let sort ← normalizeTimersSort queryParams.sort
  let order ← normalizeTimersOrder queryParams.order
  return {
    scope := scope
    limit := limit
    timerState := timerState
    nameContains := (normalizeNameContains queryParams.nameContains).map toAsciiLowercase
    summaryEnabled := queryParams.summary.getD false
    includePersistent := queryParams.includePersistent.getD false
    overdueOnly := queryParams.overdueOnly.getD false
    sort := sort
    order := order }

/-! ## Items -/

structure TimerItem where
  unit : String
  scope : String
  activeState : String
  subState : String
  nextRunUtc : Option String
  lastRunUtc : Option String
  timeUntilNextSec : Option Int
  timeSinceLastSec : Option Int
  triggerUnit : Option String
  persistent : Option Bool
  result : Option String
  loadState : Option String
  unitFileState : Option String
  overdue : Bool
  overdueReason : Option String
  deriving DecidableEq, Repr

def TimerItem.json (item : TimerItem) : Json :=
  .obj [("unit", .str item.unit), ("scope", .str item.scope),
    ("active_state", .str item.activeState), ("sub_state", .str item.subState),
    ("next_run_utc", jsonStr item.nextRunUtc), ("last_run_utc", jsonStr item.lastRunUtc),
    ("time_until_next_sec", jsonInt item.timeUntilNextSec),
    ("time_since_last_sec", jsonInt item.timeSinceLastSec),
    ("trigger_unit", jsonStr item.triggerUnit), ("persistent", jsonBool item.persistent),
    ("result", jsonStr item.result), ("load_state", jsonStr item.loadState),
    ("unit_file_state", jsonStr item.unitFileState), ("overdue", .bool item.overdue),
    ("overdue_reason", jsonStr item.overdueReason)]

section Items

variable [Chrono]

/-- Parses an optional RFC 3339 timestamp; what does not parse is unknown. -/
def parseRfc3339Utc (value : Option String) : Option DateTime :=
  value.bind (fun timestamp => (Chrono.parseFromRfc3339 timestamp).map Prod.fst)

/-- Whole seconds of a difference, towards zero. -/
def numSeconds (nanos : Int) : Int := nanos.tdiv DateTime.secondNanos

def overdueGrace : Int := 300 * DateTime.secondNanos

/-- An active timer is overdue when its next run is known and more than five minutes ago. -/
def timerOverdueStatus (now : DateTime) (timer : TimerStatus) : Bool × Option String :=
  if !eqIgnoreAsciiCase timer.activeState "active" then (false, some "not_active")
  else
    match parseRfc3339Utc timer.nextRunUtc with
    | none => (false, some "no_next_run_known")
    | some nextRun =>
        if nextRun.addDelta overdueGrace < now then (true, some "past_due_beyond_grace")
        else (false, none)

/-- Builds the API-facing timer item with derived fields. -/
def buildTimerItem (timer : TimerStatus) (now : DateTime) (includePersistent : Bool) : TimerItem :=
  { unit := timer.unit
    scope := timer.scope
    activeState := timer.activeState
    subState := timer.subState
    nextRunUtc := timer.nextRunUtc
    lastRunUtc := timer.lastRunUtc
    timeUntilNextSec :=
      (parseRfc3339Utc timer.nextRunUtc).map (fun next => numSeconds (next.sub now))
    timeSinceLastSec :=
      (parseRfc3339Utc timer.lastRunUtc).map (fun last => numSeconds (now.sub last))
    triggerUnit := timer.triggerUnit
    persistent := if includePersistent then timer.persistent else none
    result := timer.result
    loadState := some timer.loadState
    unitFileState := timer.unitFileState
    overdue := (timerOverdueStatus now timer).1
    overdueReason := (timerOverdueStatus now timer).2 }

end Items

/-! ## Order -/

/-- Compares optional integer keys with an unknown one always last. -/
def compareOptionalI64NoneLast (left right : Option Int) (descending : Bool) : Ordering :=
  match left, right with
  | none, none => .eq
  | none, some _ => .gt
  | some _, none => .lt
  | some left, some right => if descending then compare right left else compare left right

/-- The comparator of `sort_timer_items`; `desc` turns around the keys that are always known. -/
def compareTimerItems (sort order : String) (left right : TimerItem) : Ordering :=
  let isDesc := eqIgnoreAsciiCase order "desc"
  let byUnit := compare left.unit right.unit
  let cmp :=
    if sort = "next" then
      (compareOptionalI64NoneLast left.timeUntilNextSec right.timeUntilNextSec isDesc).then byUnit
    else if sort = "last" then
      (compareOptionalI64NoneLast left.timeSinceLastSec right.timeSinceLastSec isDesc).then byUnit
    else if sort = "state" then (compare left.activeState right.activeState).then byUnit
    else byUnit
  if isDesc && sort != "next" && sort != "last" then cmp.swap else cmp

def sortTimerItems (items : List TimerItem) (sort order : String) : List TimerItem :=
  items.mergeSort (fun left right => (compareTimerItems sort order left right).isLE)

/-! ## Summary -/

structure NextDueSoonTimer where
  unit : String
  nextRunUtc : String
  timeUntilNextSec : Int
  activeState : String
  triggerUnit : Option String
  deriving DecidableEq, Repr

def NextDueSoonTimer.json (timer : NextDueSoonTimer) : Json :=
  .obj [("unit", .str timer.unit), ("next_run_utc", .str timer.nextRunUtc),
    ("time_until_next_sec", .int timer.timeUntilNextSec),
    ("active_state", .str timer.activeState), ("trigger_unit", jsonStr timer.triggerUnit)]

structure ProblemTimer where
  unit : String
  activeState : String
  subState : String
  result : Option String
  overdue : Bool
  overdueReason : Option String
  deriving DecidableEq, Repr

def ProblemTimer.json (timer : ProblemTimer) : Json :=
  .obj [("unit", .str timer.unit), ("active_state", .str timer.activeState),
    ("sub_state", .str timer.subState), ("result", jsonStr timer.result),
    ("overdue", .bool timer.overdue), ("overdue_reason", jsonStr timer.overdueReason)]

structure TimerSummary where
  countsByActiveState : List (String × Nat)
  overdueCount : Nat
  nextDueSoon : List NextDueSoonTimer
  failedOrProblemTimers : List ProblemTimer
  deriving DecidableEq, Repr

def TimerSummary.json (summary : TimerSummary) : Json :=
  .obj [("counts_by_active_state", countsJson summary.countsByActiveState),
    ("overdue_count", .int summary.overdueCount),
    ("next_due_soon", .arr (summary.nextDueSoon.map NextDueSoonTimer.json)),
    ("failed_or_problem_timers", .arr (summary.failedOrProblemTimers.map ProblemTimer.json))]

/-- The entry of a timer that is still to run. -/
def nextDue (timer : TimerItem) : Option NextDueSoonTimer := do
  let nextRunUtc ← timer.nextRunUtc
  let timeUntilNextSec ← timer.timeUntilNextSec
  if timeUntilNextSec < 0 then none
  else some {
    unit := timer.unit
    nextRunUtc := nextRunUtc
    timeUntilNextSec := timeUntilNextSec
    activeState := timer.activeState
    triggerUnit := timer.triggerUnit }

def isProblemTimer (timer : TimerItem) : Bool :=
  timer.overdue || eqIgnoreAsciiCase timer.activeState "failed"
    || eqIgnoreAsciiCase timer.subState "failed"
    || timer.result.any (fun result => !eqIgnoreAsciiCase result "success")

/-- Builds compact timer triage summary output for `summary=true` responses. -/
def buildTimerSummary (items : List TimerItem) : TimerSummary where
  countsByActiveState := tally (items.map TimerItem.activeState)
  overdueCount := items.countP TimerItem.overdue
  nextDueSoon := ((items.filterMap nextDue).mergeSort (fun left right =>
    ((compare left.timeUntilNextSec right.timeUntilNextSec).then
      (compare left.unit right.unit)).isLE)).take 5
  failedOrProblemTimers := ((items.filter isProblemTimer).map (fun timer => {
      unit := timer.unit
      activeState := timer.activeState
      subState := timer.subState
      result := timer.result
      overdue := timer.overdue
      overdueReason := timer.overdueReason : ProblemTimer })).mergeSort
        (fun left right => left.unit ≤ right.unit)

/-! ## Handler -/

/-- The rows of a `list_timers` call. -/
def timerRows [Chrono] (normalized : NormalizedTimersQuery) (timers : List TimerStatus)
    (now : DateTime) : Pagination TimerItem :=
  let timers := timers.filter (fun timer =>
    match normalized.timerState with
    | some expected => eqIgnoreAsciiCase timer.activeState expected
    | none => true)
  let timers := timers.filter (fun timer =>
    match normalized.nameContains with
    | some needle => contains (toAsciiLowercase timer.unit) needle
    | none => true)
  let items := timers.map (fun timer => buildTimerItem timer now normalized.includePersistent)
  let items := if normalized.overdueOnly then items.filter TimerItem.overdue else items
  paginateRows (sortTimerItems items normalized.sort normalized.order) normalized.limit

section Handler

variable [Chrono] [McpSdk]

/-- The response to the provider's rows. -/
def timersResponse (id : Option Json) (normalized : NormalizedTimersQuery)
    (timers : List TimerStatus) : App Json := do
  let now ← utcNow
  let page := timerRows normalized timers now
  let generatedAtUtc ← generatedAtUtcString
  if normalized.summaryEnabled then
    return toolSuccessResponse id "Returned timer triage summary"
      [("summary", (buildTimerSummary page.rows).json), ("total_scanned", .int page.total),
        ("returned", .int page.returned), ("truncated", .bool page.truncated),
        ("generated_at_utc", .str generatedAtUtc)]
  else
    return toolSuccessResponse id s!"Returned {page.returned} of {page.total} timers"
      [("timers", .arr (page.rows.map TimerItem.json)), ("total_scanned", .int page.total),
        ("returned", .int page.returned), ("truncated", .bool page.truncated),
        ("generated_at_utc", .str generatedAtUtc)]

/-- Handles `list_timers` tool execution. -/
def handleListTimers (id : Option Json) (arguments : Option Members) : App Json :=
  match normalizeTimersQuery arguments with
  | .error err => pure (appErrorToJsonRpc id err)
  | .ok normalized =>
      respond id (.listTimerUnits normalized.scope) (timersResponse id normalized)

theorem timersResponse_returns (id : Option Json) (normalized : NormalizedTimersQuery)
    (timers : List TimerStatus) :
    (timersResponse id normalized timers).Returns (IsResult id) := by
  intro now
  refine generatedAtUtcString_returns.bind fun generatedAtUtc _ => ?_
  split <;> exact Prog.Returns.value ⟨_, rfl⟩

theorem handleListTimers_answers [LawfulMcpSdk] {id : Option Json} (hid : UsableId id)
    (arguments : Option Members) :
    (handleListTimers id arguments).Returns (Envelope (echoedId id)) := by
  rw [handleListTimers]
  split
  case h_1 err _ => exact Prog.Returns.value (envelope_appError id err)
  case h_2 normalized _ => exact respond_answers hid (timersResponse_returns id normalized)

end Handler

end SystemdMonitoring
