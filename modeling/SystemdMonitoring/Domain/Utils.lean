/-
# `SystemdMonitoring.Domain.Utils` — shared validation of tool arguments

Each `normalize_*` function of the source takes an optional argument and
answers with a validated value or the error that names it.  Those that pick a
word from a list share `chosenWord`: blanks around it and letter case do not
count, and a blank value is no value.
-/
import SystemdMonitoring.Systemd.Types
import SystemdMonitoring.Lib.Rfc3339

namespace SystemdMonitoring

open Lib Lib.Text

def maxLogLimit : Nat := 1000
def defaultLogLimit : Nat := 200
def maxServicesLimit : Nat := 1000
def defaultServicesLimit : Nat := 200
def maxTimersLimit : Nat := 1000
def defaultTimersLimit : Nat := 200

def validServiceStates : List String :=
  ["active", "inactive", "failed", "activating", "deactivating", "reloading"]

/-! ## Timestamps -/

/-- Parses optional RFC 3339 UTC input: `Z` is required and other offsets are rejected. -/
def parseUtc [Chrono] (value : Option String) : Except AppError (Option DateTime) :=
  match value with
  | none => .ok none
  | some value =>
      if !endsWith "Z" value then
        .error (.badRequest "invalid_utc_time"
          "timestamps must be RFC3339 UTC format ending with Z")
      else
        match Chrono.parseFromRfc3339 value with
        | none =>
            .error (.badRequest "invalid_utc_time"
              "timestamps must be RFC3339 UTC format ending with Z")
        | some (parsed, offset) =>
            if offset ≠ 0 then
              .error (.badRequest "invalid_utc_time" "timestamps must use UTC offset")
            else .ok (some parsed)

/-- What it takes for a timestamp to be accepted. -/
theorem parseUtc_eq_ok_iff [Chrono] {value : String} {d : DateTime} :
    parseUtc (some value) = .ok (some d)
      ↔ endsWith "Z" value = true ∧ Chrono.parseFromRfc3339 value = some (d, 0) := by
  rw [parseUtc]
  cases hz : endsWith "Z" value with
  | false => simp
  | true =>
      cases hp : Chrono.parseFromRfc3339 value with
      | none => simp
      | some p =>
          obtain ⟨parsed, offset⟩ := p
          by_cases ho : offset = 0 <;> simp [ho]

/-- An instant that has been written in milliseconds is read back as its last whole one. -/
theorem parseUtc_toRfc3339Millis [Chrono] [LawfulChrono] {d : DateTime} (hyears : d.InYears)
    (hplain : d.isLeap = false) :
    parseUtc (some (Chrono.toRfc3339Millis d)) = .ok (some d.truncMillis) :=
  parseUtc_eq_ok_iff.mpr
    ⟨LawfulChrono.endsWith_format hyears, LawfulChrono.parse_format hyears hplain⟩

/-! ## Words from a list -/

/-- The word an optional argument chooses. -/
def chosenWord (value : Option String) : Option String :=
  ((value.map trim).filter (· ≠ "")).map toAsciiLowercase

/-- `normalize_scope`: the default is `system`. -/
def normalizeScope (scope : Option String) : Except AppError UnitScope :=
  match chosenWord scope with
  | none => .ok .system
  | some "system" => .ok .system
  | some "user" => .ok .user
  | some "both" => .ok .both
  | some _ => .error (.badRequest "invalid_scope" "scope must be one of: system, user, both")

/-- `normalize_timers_sort`: the default is `name`. -/
def normalizeTimersSort (sort : Option String) : Except AppError String :=
  match chosenWord sort with
  | none => .ok "name"
  | some "name" => .ok "name"
  | some "next" => .ok "next"
  | some "last" => .ok "last"
  | some "state" => .ok "state"
  | some _ => .error (.badRequest "invalid_sort" "sort must be one of: next, last, name, state")

/-- `normalize_timers_order`: the default is `asc`. -/
def normalizeTimersOrder (order : Option String) : Except AppError String :=
  match chosenWord order with
  | none => .ok "asc"
  | some "asc" => .ok "asc"
  | some "desc" => .ok "desc"
  | some _ => .error (.badRequest "invalid_order" "order must be one of: asc, desc")

/-! ## Priorities, states and units -/

def invalidPriority : AppError :=
  .badRequest "invalid_priority"
    "priority must be one of 0-7 or: emerg, alert, crit, err, warning, notice, info, debug"

/-- The severity a word stands for. -/
def priorityNumber : String → Option String
  | "0" | "emerg" | "panic" => some "0"
  | "1" | "alert" => some "1"
  | "2" | "crit" | "critical" => some "2"
  | "3" | "err" | "error" => some "3"
  | "4" | "warning" | "warn" => some "4"
  | "5" | "notice" => some "5"
  | "6" | "info" | "informational" => some "6"
  | "7" | "debug" => some "7"
  | _ => none

def normalizePriority (priority : Option String) : Except AppError (Option String) :=
  match priority with
  | none => .ok none
  | some value =>
      let normalized := toAsciiLowercase (trim value)
      if normalized = "" then .error invalidPriority
      else
        match priorityNumber normalized with
        | some mapped => .ok (some mapped)
        | none => .error invalidPriority

def isValidUnitNameChars (s : String) : Bool :=
  s.toList.all (fun c =>
    isAsciiAlphanumeric c || c == '-' || c == '_' || c == '@' || c == ':' || c == '.')

def normalizeUnit (unit : Option String) : Except AppError (Option String) :=
  match unit with
  | none => .ok none
  | some value =>
      let normalized := trim value
      if normalized = "" ∨ isValidUnitNameChars normalized = false then
        .error (.badRequest "invalid_unit"
          "unit must contain only alphanumeric characters, dashes, underscores, dots, @, and :")
      else .ok (some normalized)

/-- Trims; an empty substring filter is no filter. -/
def normalizeNameContains (value : Option String) : Option String :=
  (value.map trim).filter (· ≠ "")

def normalizeServiceState (state : Option String) : Except AppError (Option String) :=
  match state with
  | none => .ok none
  | some value =>
      let normalized := toAsciiLowercase (trim value)
      if normalized = "" ∨ normalized ∉ validServiceStates then
        .error (.badRequest "invalid_state"
          "state must be one of: active, inactive, failed, activating, deactivating, reloading")
      else .ok (some normalized)

/-- Unlike service states, timer states are not checked against a list. -/
def normalizeTimerState (state : Option String) : Except AppError (Option String) :=
  match state with
  | none => .ok none
  | some value =>
      let normalized := toAsciiLowercase (trim value)
      if normalized = "" then
        .error (.badRequest "invalid_state" "state must be a non-empty string")
      else .ok (some normalized)

/-! ## Limits -/

/-- A limit between 1 and `max`, or the default. -/
def normalizeLimit (default max : Nat) (limit : Option Nat) : Except AppError Nat :=
  let limit := limit.getD default
  if limit = 0 ∨ max < limit then
    .error (.badRequest "invalid_limit" "limit must be between 1 and 1000")
  else .ok limit

def normalizeServicesLimit : Option Nat → Except AppError Nat :=
  normalizeLimit defaultServicesLimit maxServicesLimit

def normalizeTimersLimit : Option Nat → Except AppError Nat :=
  normalizeLimit defaultTimersLimit maxTimersLimit

theorem normalizeLimit_mem {default max n : Nat} {limit : Option Nat}
    (h : normalizeLimit default max limit = .ok n) : 1 ≤ n ∧ n ≤ max := by
  unfold normalizeLimit at h
  dsimp only at h
  split at h
  · cases h
  · cases h
    omega

/-! ## Filters and orders of service rows -/

def filterServicesByState (services : List UnitStatus) (state : Option String) :
    List UnitStatus :=
  match state with
  | none => services
  | some state => services.filter (fun service => eqIgnoreAsciiCase service.activeState state)

def filterServicesByNameContains (services : List UnitStatus) (nameContains : Option String) :
    List UnitStatus :=
  match nameContains with
  | none => services
  | some nameContains => services.filter (fun service => contains service.unit nameContains)

/-- In failed-first mode failed services come first; both modes order by unit name. -/
def sortServices (services : List UnitStatus) (failedFirst : Bool) : List UnitStatus :=
  services.mergeSort (fun left right =>
    if failedFirst then
      let leftFailed := eqIgnoreAsciiCase left.activeState "failed"
      let rightFailed := eqIgnoreAsciiCase right.activeState "failed"
      if leftFailed = rightFailed then left.unit ≤ right.unit else leftFailed
    else left.unit ≤ right.unit)

end SystemdMonitoring
