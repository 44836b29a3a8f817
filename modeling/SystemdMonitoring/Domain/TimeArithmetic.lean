/-
# `SystemdMonitoring.Domain.TimeArithmetic` — no timestamp overflows the arithmetic

Two tools calculate with timestamps that somebody else has written: `list_timers`
with the times of the provider's rows, `list_logs` with the bounds of the window.
They do so with `+` and `-`, which abort where a result cannot be represented.
Their definitions are repeated here with those aborts as `none`, and come to what
they come to without (`arithmetic_in_range`).

What makes it so is the reader: whatever is read lies in the years 0 to 9999, or
within a day of them, and there is room for five minutes or seven days more.
-/
import SystemdMonitoring.Domain.LogQuery
import SystemdMonitoring.Domain.Tools.Timers
import SystemdMonitoring.Lib.DateRange

namespace SystemdMonitoring

open Lib Lib.Text

section Checked

variable [Chrono]

/-! ## Timers -/

/-- `timer_overdue_status`, or none where the addition aborts. -/
def timerOverdueStatusChecked (now : DateTime) (timer : TimerStatus) :
    Option (Bool × Option String) :=
  if !eqIgnoreAsciiCase timer.activeState "active" then some (false, some "not_active")
  else
    match parseRfc3339Utc timer.nextRunUtc with
    | none => some (false, some "no_next_run_known")
    | some nextRun => do
        let graceDeadline ← nextRun.checkedAdd overdueGrace
        if graceDeadline < now then return (true, some "past_due_beyond_grace")
        else return (false, none)

/-- The seconds of an optional difference; none where the subtraction aborts. -/
def secondsChecked (difference : DateTime → Option Int) (run : Option DateTime) :
    Option (Option Int) :=
  match run with
  | none => some none
  | some run => (difference run).map (fun nanos => some (numSeconds nanos))

/-- `build_timer_item`, or none where its arithmetic aborts. -/
def buildTimerItemChecked (timer : TimerStatus) (now : DateTime) (includePersistent : Bool) :
    Option TimerItem := do
  let nextRun := parseRfc3339Utc timer.nextRunUtc
  let lastRun := parseRfc3339Utc timer.lastRunUtc
  let timeUntilNextSec ← secondsChecked (fun next => next.checkedSub now) nextRun
  let timeSinceLastSec ← secondsChecked (fun last => now.checkedSub last) lastRun
  let (overdue, overdueReason) ← timerOverdueStatusChecked now timer
  return {
    unit := timer.unit
    scope := timer.scope
    activeState := timer.activeState
    subState := timer.subState
    nextRunUtc := timer.nextRunUtc
    lastRunUtc := timer.lastRunUtc
    timeUntilNextSec := timeUntilNextSec
    timeSinceLastSec := timeSinceLastSec
    triggerUnit := timer.triggerUnit
    persistent := if includePersistent then timer.persistent else none
    result := timer.result
    loadState := some timer.loadState
    unitFileState := timer.unitFileState
    overdue := overdue
    overdueReason := overdueReason }

/-! ## The window of a log request -/

/-- The window check of `build_log_query`, or none where its arithmetic aborts.  The length of the
window is looked at only if it matters, and the hint is written only if it is too long. -/
def logWindowChecked (params : LogsQueryParams) :
    Option (Except AppError (DateTime × DateTime)) :=
  match parseUtc params.startUtc, parseUtc params.endUtc with
  | .error err, _ => some (.error err)
  | .ok _, .error err => some (.error err)
  | .ok (some start), .ok (some finish) =>
      if finish ≤ start then
        some (.error
          (.badRequest "invalid_time_range" "start_utc must be strictly less than end_utc"))
      else if params.allowLargeWindow.getD false = true then some (.ok (start, finish))
      else do
        let length ← finish.checkedSub start
        if sevenDays < length then
          let maximumStart ← finish.checkedAdd (-sevenDays)
          return .error (.badRequestWithDetails "time_range_too_large"
            "time window must not exceed 7 days unless allow_large_window is true"
            (.obj [("maximum_start_utc", .str (Chrono.toRfc3339Millis maximumStart))]))
        else return .ok (start, finish)
  | .ok _, .ok _ =>
      some (.error (.badRequest "missing_time_range" "start_utc and end_utc are required"))

/-! ## No abort -/

omit [Chrono] in
theorem checkedAdd_overdueGrace {d : DateTime} (h : d.NearYears) :
    d.checkedAdd overdueGrace = some (d.addDelta overdueGrace) :=
  DateTime.checkedAdd_eq h (by decide)

omit [Chrono] in
theorem checkedAdd_sevenDays {d : DateTime} (h : d.NearYears) :
    d.checkedAdd (-sevenDays) = some (d.addDelta (-sevenDays)) :=
  DateTime.checkedAdd_eq h (by decide)

omit [Chrono] in
theorem secondsChecked_eq {difference : DateTime → Option Int} {exact : DateTime → Int}
    {run : Option DateTime} (h : ∀ d, run = some d → difference d = some (exact d)) :
    secondsChecked difference run = some (run.map (fun d => numSeconds (exact d))) := by
  cases run with
  | none => rfl
  | some d =>
      rw [secondsChecked, h d rfl]
      rfl

variable [ReadsNearYears]

theorem nearYears_of_parseRfc3339Utc {value : Option String} {d : DateTime}
    (h : parseRfc3339Utc value = some d) : d.NearYears := by
  obtain ⟨text, rfl, hread⟩ := Option.bind_eq_some_iff.mp h
  obtain ⟨⟨parsed, offset⟩, hparsed, rfl⟩ := Option.map_eq_some_iff.mp hread
  exact ReadsNearYears.nearYears_of_parse hparsed

theorem nearYears_of_parseUtc {value : Option String} {d : DateTime}
    (h : parseUtc value = .ok (some d)) : d.NearYears := by
  cases value with
  | none => cases h
  | some text => exact ReadsNearYears.nearYears_of_parse (parseUtc_eq_ok_iff.mp h).2

theorem timerOverdueStatusChecked_eq (now : DateTime) (timer : TimerStatus) :
    timerOverdueStatusChecked now timer = some (timerOverdueStatus now timer) := by
  rw [timerOverdueStatusChecked, timerOverdueStatus]
  split
  · rfl
  · cases hnext : parseRfc3339Utc timer.nextRunUtc with
    | none => rfl
    | some nextRun =>
        dsimp only
        rw [checkedAdd_overdueGrace (nearYears_of_parseRfc3339Utc hnext), Option.bind_eq_bind,
          Option.bind_some]
        split <;> rfl

/-- The item of a timer is built, whatever its times. -/
theorem buildTimerItemChecked_eq (timer : TimerStatus) {now : DateTime} (hnow : now.InRange)
    (includePersistent : Bool) :
    buildTimerItemChecked timer now includePersistent
      = some (buildTimerItem timer now includePersistent) := by
  have hnext : ∀ next, parseRfc3339Utc timer.nextRunUtc = some next →
      next.checkedSub now = some (next.sub now) := by
    intro next hread
    exact DateTime.checkedSub_eq (nearYears_of_parseRfc3339Utc hread).inRange hnow
  have hlast : ∀ last, parseRfc3339Utc timer.lastRunUtc = some last →
      now.checkedSub last = some (now.sub last) := by
    intro last hread
    exact DateTime.checkedSub_eq hnow (nearYears_of_parseRfc3339Utc hread).inRange
  simp only [buildTimerItemChecked, secondsChecked_eq hnext, secondsChecked_eq hlast,
    timerOverdueStatusChecked_eq, Option.bind_eq_bind, Option.bind_some]
  rfl

/-- The window of a log request is checked, whatever its bounds. -/
theorem logWindowChecked_eq (params : LogsQueryParams) :
    logWindowChecked params = some (logWindow params) := by
  rw [logWindowChecked, logWindow]
  cases hstart : parseUtc params.startUtc with
  | error err => rfl
  | ok start =>
      cases hfinish : parseUtc params.endUtc with
      | error err => cases start <;> rfl
      | ok finish =>
          cases start with
          | none => cases finish <;> rfl
          | some start =>
              cases finish with
              | none => rfl
              | some finish =>
                  have hyears := nearYears_of_parseUtc hfinish
                  rw [ok_bind, ok_bind]
                  dsimp only
                  rw [DateTime.checkedSub_eq hyears.inRange (nearYears_of_parseUtc hstart).inRange,
                    checkedAdd_sevenDays hyears]
                  split
                  · rfl
                  · by_cases hallow : params.allowLargeWindow.getD false = true
                    · rw [if_pos hallow, if_neg (fun h => by rw [hallow] at h; cases h.1)]
                    · rw [if_neg hallow]
                      simp only [Option.bind_eq_bind, Option.bind_some,
                        Bool.eq_false_of_not_eq_true hallow, true_and]
                      split <;> rfl

/-- **No timestamp overflows the arithmetic**: the grace period of a next run, the time until it and
the time since a last run, at any moment that can be represented; the length of a window of logs,
and the earliest start that would do.  So both tools come to what they come to without overflow. -/
theorem arithmetic_in_range :
    (∀ (timer : TimerStatus) (now : DateTime) (includePersistent : Bool), now.InRange →
      (∀ next, parseRfc3339Utc timer.nextRunUtc = some next →
        next.checkedAdd overdueGrace = some (next.addDelta overdueGrace)
          ∧ next.checkedSub now = some (next.sub now))
      ∧ (∀ last, parseRfc3339Utc timer.lastRunUtc = some last →
        now.checkedSub last = some (now.sub last))
      ∧ buildTimerItemChecked timer now includePersistent
        = some (buildTimerItem timer now includePersistent))
    ∧ ∀ params : LogsQueryParams,
      (∀ start finish, parseUtc params.startUtc = .ok (some start) →
        parseUtc params.endUtc = .ok (some finish) →
        finish.checkedSub start = some (finish.sub start)
          ∧ finish.checkedAdd (-sevenDays) = some (finish.addDelta (-sevenDays)))
      ∧ logWindowChecked params = some (logWindow params) := by
  constructor
  · intro timer now includePersistent hnow
    refine ⟨?_, ?_, buildTimerItemChecked_eq timer hnow includePersistent⟩
    · intro next hnext
      have hyears := nearYears_of_parseRfc3339Utc hnext
      exact ⟨checkedAdd_overdueGrace hyears, DateTime.checkedSub_eq hyears.inRange hnow⟩
    · intro last hlast
      exact DateTime.checkedSub_eq hnow (nearYears_of_parseRfc3339Utc hlast).inRange
  · intro params
    refine ⟨?_, logWindowChecked_eq params⟩
    intro start finish hstart hfinish
    have hyears := nearYears_of_parseUtc hfinish
    exact ⟨DateTime.checkedSub_eq hyears.inRange (nearYears_of_parseUtc hstart).inRange,
      checkedAdd_sevenDays hyears⟩

end Checked

/-- A timer at both ends of what is read: past the year 9999, and before the year 0. -/
def farTimer : TimerStatus where
  unit := "backup.timer"
  scope := "system"
  loadState := "loaded"
  activeState := "active"
  subState := "waiting"
  unitFileState := none
  nextRunUtc := some "9999-12-31T23:59:60-23:59"
  lastRunUtc := some "0000-01-01T00:00:00+23:59"
  triggerUnit := none
  persistent := none
  result := none

/-- That timer in the last second that can be represented, and a log of all the years. -/
theorem arithmetic_in_range_ends :
    (DateTime.ofSecs DateTime.maxSecs).InRange
    ∧ @buildTimerItemChecked rfc3339 farTimer (.ofSecs DateTime.maxSecs) false
      = some (@buildTimerItem rfc3339 farTimer (.ofSecs DateTime.maxSecs) false)
    ∧ @logWindowChecked rfc3339 { monthOfLogs with
          startUtc := some "0000-01-01T00:00:00Z", endUtc := some "9999-12-31T23:59:60Z" }
      = some (@logWindow rfc3339 { monthOfLogs with
          startUtc := some "0000-01-01T00:00:00Z", endUtc := some "9999-12-31T23:59:60Z" }) :=
  ⟨by decide,
    ((@arithmetic_in_range rfc3339 readsNearYears_rfc3339).1 farTimer _ false (by decide)).2.2,
    ((@arithmetic_in_range rfc3339 readsNearYears_rfc3339).2 _).2⟩

end SystemdMonitoring
