/-
# `SystemdMonitoring.Systemd.Types` — units, timers, log queries and their JSON

The rows that unit providers answer with, the query that journal readers take,
and how each row is written as JSON.  An absent optional field is written as
`null`.
-/
import SystemdMonitoring.Errors
import SystemdMonitoring.Lib.DateTime

namespace SystemdMonitoring

open Lib

/-! ## Scopes and orders -/

inductive UnitScope where
  | system
  | user
  | both
  deriving DecidableEq, Repr

/-- The stable lowercase scope name used by external API contracts. -/
def UnitScope.asStr : UnitScope → String
  | .system => "system"
  | .user => "user"
  | .both => "both"

inductive LogOrder where
  | asc
  | desc
  deriving DecidableEq, Repr

/-! ## Rows -/

structure UnitStatus where
  unit : String
  scope : String
  description : String
  loadState : String
  activeState : String
  subState : String
  unitFileState : Option String
  sinceUtc : Option String
  mainPid : Option Nat
  execMainStatus : Option Int
  result : Option String
  deriving DecidableEq, Repr

structure TimerStatus where
  unit : String
  scope : String
  loadState : String
  activeState : String
  subState : String
  unitFileState : Option String
  nextRunUtc : Option String
  lastRunUtc : Option String
  triggerUnit : Option String
  persistent : Option Bool
  result : Option String
  deriving DecidableEq, Repr

structure JournalLogEntry where
  timestampUtc : String
  unit : Option String
  priority : Option String
  hostname : Option String
  pid : Option Int
  message : Option String
  cursor : Option String
  deriving DecidableEq, Repr

structure LogQuery where
  scope : UnitScope
  priority : Option String
  unit : Option String
  excludeUnits : List String
  grep : Option String
  order : LogOrder
  startUtc : Option DateTime
  endUtc : Option DateTime
  limit : Nat
  cursor : Option String
  deriving DecidableEq, Repr

structure LogQueryResult where
  entries : List JournalLogEntry
  totalScanned : Option Nat
  hasMore : Bool
  deriving DecidableEq, Repr

/-! ## JSON -/

def jsonStr (s : Option String) : Json := Json.ofOption (s.map .str)

def jsonNat (n : Option Nat) : Json := Json.ofOption (n.map (fun k => .int k))

def jsonInt (i : Option Int) : Json := Json.ofOption (i.map .int)

def jsonBool (b : Option Bool) : Json := Json.ofOption (b.map .bool)

/-- Compatibility service fields plus additive restart and timestamp metadata. -/
def UnitStatus.members (row : UnitStatus) : List (String × Json) :=
  [("unit", .str row.unit), ("scope", .str row.scope), ("description", .str row.description),
    ("load_state", .str row.loadState), ("active_state", .str row.activeState),
    ("sub_state", .str row.subState), ("unit_file_state", jsonStr row.unitFileState),
    ("since_utc", jsonStr row.sinceUtc), ("main_pid", jsonNat row.mainPid),
    ("exec_main_status", jsonInt row.execMainStatus), ("result", jsonStr row.result),
    ("restart_count", .null),
    ("timestamps", .obj [("state_change", .null), ("active_enter", jsonStr row.sinceUtc),
      ("active_exit", .null), ("inactive_enter", .null), ("inactive_exit", .null),
      ("main_process_start", .null), ("main_process_exit", .null)])]

def JournalLogEntry.members (entry : JournalLogEntry) : List (String × Json) :=
  [("timestamp_utc", .str entry.timestampUtc), ("unit", jsonStr entry.unit),
    ("priority", jsonStr entry.priority), ("hostname", jsonStr entry.hostname),
    ("pid", jsonInt entry.pid), ("message", jsonStr entry.message),
    ("cursor", jsonStr entry.cursor)]

end SystemdMonitoring
