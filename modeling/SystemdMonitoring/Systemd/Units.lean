/-
# `SystemdMonitoring.Systemd.Units` — from raw unit rows to services and timers

What the D-Bus client does with the rows of `ListUnits`, without the calls that
fetch them: filtering and ordering by name, filling in the details that have
been fetched, combining two managers, and classifying direct dependencies.

The hash maps of the source are association lists, newest entry first, so that
looking up a name finds what was inserted last.
-/
import SystemdMonitoring.Host

namespace SystemdMonitoring

open Lib Lib.Text

/-! ## Details -/

structure ServiceDetails where
  unitFileState : Option String
  sinceUtc : Option String
  mainPid : Option Nat
  execMainStatus : Option Int
  result : Option String
  deriving DecidableEq, Repr

structure TimerDetails where
  unitFileState : Option String
  nextRunUtc : Option String
  lastRunUtc : Option String
  triggerUnit : Option String
  persistent : Option Bool
  result : Option String
  deriving DecidableEq, Repr

def TimerDetails.default : TimerDetails := ⟨none, none, none, none, none, none⟩

/-- Zero timestamps are unknown; so are those that are no dates. -/
def formatSystemdTimestampUsec [Chrono] (timestampUsec : Nat) : Option String :=
  if timestampUsec = 0 then none
  else if 2 ^ 63 ≤ timestampUsec then none
  else (DateTime.fromTimestampMicros timestampUsec).map Chrono.toRfc3339Millis

/-- Blank strings are absent. -/
def nonBlank (value : String) : Option String := if trim value = "" then none else some value

/-! ## Rows of one manager -/

/-- Services only, tagged with their manager's scope, by name. -/
def mapAndSortServiceUnits (rawUnits : List RawUnit) (scope : UnitScope) : List UnitStatus :=
  ((rawUnits.filter (fun unit => endsWith ".service" unit.name)).map (fun unit => {
      unit := unit.name
      scope := scope.asStr
      description := unit.description
      loadState := unit.loadState
      activeState := unit.activeState
      subState := unit.subState
      unitFileState := none
      sinceUtc := none
      mainPid := none
      execMainStatus := none
      result := none : UnitStatus })).mergeSort (fun left right => left.unit ≤ right.unit)

/-- Timers only, tagged with their manager's scope, by name. -/
def mapAndSortTimerUnits (rawUnits : List RawUnit) (scope : UnitScope) : List TimerStatus :=
  ((rawUnits.filter (fun unit => endsWith ".timer" unit.name)).map (fun unit => {
      unit := unit.name
      scope := scope.asStr
      loadState := unit.loadState
      activeState := unit.activeState
      subState := unit.subState
      unitFileState := none
      nextRunUtc := none
      lastRunUtc := none
      triggerUnit := none
      persistent := none
      result := none : TimerStatus })).mergeSort (fun left right => left.unit ≤ right.unit)

/-- The object paths of the units with that suffix. -/
def unitPaths (suffix : String) (rawUnits : List RawUnit) : List (String × String) :=
  ((rawUnits.filter (fun unit => endsWith suffix unit.name)).map
    (fun unit => (unit.name, unit.unitPath))).reverse

def pathToName (rawUnits : List RawUnit) : List (String × String) :=
  (rawUnits.map (fun unit => (unit.unitPath, unit.name))).reverse

/-- Gives every row the details under its name and takes them out of the map. -/
def fillDetails {α δ : Type} (name : α → String) (fill : α → δ → α) :
    List (String × δ) → List α → List α
  | _, [] => []
  | details, row :: rows =>
      match details.lookup (name row) with
      | some found =>
          fill row found
            :: fillDetails name fill (details.filter (fun entry => entry.1 ≠ name row)) rows
      | none => row :: fillDetails name fill details rows

def UnitStatus.withDetails (unit : UnitStatus) (details : ServiceDetails) : UnitStatus :=
  { unit with
    unitFileState := details.unitFileState
    sinceUtc := details.sinceUtc
    mainPid := details.mainPid
    execMainStatus := details.execMainStatus
    result := details.result }

/-- A timer without a known trigger triggers the service of its own name. -/
def TimerStatus.withDetails (timer : TimerStatus) (details : TimerDetails) : TimerStatus :=
  { timer with
    unitFileState := details.unitFileState
    nextRunUtc := details.nextRunUtc
    lastRunUtc := details.lastRunUtc
    triggerUnit := details.triggerUnit.or
      (if endsWith ".timer" timer.unit then
        some (String.ofList (timer.unit.toList.take (timer.unit.length - 6)) ++ ".service")
      else none)
    persistent := details.persistent
    result := details.result }

/-! ## Both managers -/

/-- Rows of both managers by name, none merged; one manager that fails is left out, and only two
that fail make an error. -/
def combineScopeRowsByKey {α : Type} (systemResult userResult : Except AppError (List α))
    (unitKind : String) (key : α → String) : Except AppError (List α) :=
  match systemResult, userResult with
  | .error _, .error _ =>
      .error (.internalError s!"failed to list {unitKind} for both system and user scopes")
  | system, user =>
      .ok ((system.toOption.getD [] ++ user.toOption.getD []).mergeSort
        (fun left right => key left ≤ key right))

/-! ## Dependencies -/

structure FailedDependency where
  unit : String
  relationship : String
  loadState : String
  activeState : String
  subState : String
  result : Option String
  deriving DecidableEq, Repr

def FailedDependency.json (dependency : FailedDependency) : Json :=
  .obj [("unit", .str dependency.unit), ("relationship", .str dependency.relationship),
    ("load_state", .str dependency.loadState), ("active_state", .str dependency.activeState),
    ("sub_state", .str dependency.subState), ("result", jsonStr dependency.result)]

/-- A dependency is broken when its row is failed or not loaded, or is missing. -/
def brokenDependency (relationship name : String) (row : Option RawUnit) :
    Option FailedDependency :=
  match row with
  | some row =>
      if eqIgnoreAsciiCase row.activeState "failed"
          || !eqIgnoreAsciiCase row.loadState "loaded" then
        some ⟨name, relationship, row.loadState, row.activeState, row.subState, none⟩
      else none
  | none => some ⟨name, relationship, "not-found", "inactive", "dead", none⟩

def FailedDependency.le (left right : FailedDependency) : Bool :=
  if left.unit = right.unit then left.relationship ≤ right.relationship else left.unit ≤ right.unit

/-- Drops every element that repeats the key of the last one kept. -/
def dedupFrom (kept : FailedDependency) : List FailedDependency → List FailedDependency
  | [] => [kept]
  | next :: rest =>
      if next.unit = kept.unit ∧ next.relationship = kept.relationship then dedupFrom kept rest
      else kept :: dedupFrom next rest

/-- Direct requires and wants that are failed, missing, or unloaded, each once and in order. -/
def classifyFailedDependencies (requires wants : List String) (rows : List RawUnit) :
    List FailedDependency :=
  let byName := (rows.map (fun row => (row.name, row))).reverse
  let output :=
    requires.filterMap (fun name => brokenDependency "requires" name (byName.lookup name))
    ++ wants.filterMap (fun name => brokenDependency "wants" name (byName.lookup name))
  match output.mergeSort FailedDependency.le with
  | [] => []
  | first :: rest => dedupFrom first rest

/-! ## Transitions -/

structure UnitTransition where
  timestampUtc : String
  kind : String
  message : Option String
  cursor : Option String
  deriving DecidableEq, Repr

def UnitTransition.json (transition : UnitTransition) : Json :=
  .obj [("timestamp_utc", .str transition.timestampUtc), ("kind", .str transition.kind),
    ("message", jsonStr transition.message), ("cursor", jsonStr transition.cursor)]

def maxTransitionScan : Nat := 10000

def unitTransitionMessageIds : List (String × String) :=
  [("7d4958e842da4a758f6c1cdc7b36dcc5", "starting"),
    ("39f53479d3a045ac8e11786248231fbf", "started"),
    ("de5b426a63be47a7b6ac3eaac82e2f6f", "stopping"),
    ("9d1aaa27d60140bd96365438aad20286", "stopped"),
    ("be02cf6855d2428ba40df7e9d022f03d", "failed"),
    ("d34d037fff1847e6ae669a370e694725", "reloading"),
    ("7b05ebc668384222baa8881179cfda54", "reloaded")]

def transitionKind (messageId : String) : Option String := unitTransitionMessageIds.lookup messageId

/-- The transition that an entry records for a unit. -/
def entryTransition [Chrono] (journal : Journal) (unit : String) (entry : JournalEntry) :
    Except AppError (Option UnitTransition) := do
  let reads := journal.reads entry
  match (← readJournalField reads "MESSAGE_ID").bind transitionKind with
  | none => .ok none
  | some kind => do
      let systemUnit ← readJournalField reads "UNIT"
      let userUnit ← readJournalField reads "USER_UNIT"
      if systemUnit.or userUnit ≠ some unit then .ok none
      else do
        journal.attempt (.timestamp entry) "failed to read transition timestamp"
        match DateTime.fromTimestampMicros entry.timestampUsec with
        | none => .ok none
        | some timestamp => do
            let message ← readJournalField reads "MESSAGE"
            .ok (some {
              timestampUtc := Chrono.toRfc3339Millis timestamp
              kind := kind
              message := sanitizeLogMessage message
              cursor := reads.cursor.toOption })

/-- The loop over the entries ahead, newest first, within a budget of steps. -/
def scanTransitions [Chrono] (journal : Journal) (unit : String) (limit : Nat) :
    Nat → List JournalEntry → List UnitTransition → Except AppError (List UnitTransition)
  | 0, _, transitions => .ok transitions
  | budget + 1, entries, transitions =>
      if limit ≤ transitions.length then .ok transitions
      else do
        journal.attempt (.advance (maxTransitionScan - (budget + 1)))
          "failed to read transition journal"
        match entries with
        | [] => .ok transitions
        | entry :: rest => do
            match ← entryTransition journal unit entry with
            | none => scanTransitions journal unit limit budget rest transitions
            | some transition =>
                scanTransitions journal unit limit budget rest (transitions ++ [transition])

/-- The newest transitions of a unit in a journal that has been opened. -/
def transitionsOf [Chrono] (opened : Except String Journal) (unit : String) (limit : Nat) :
    Except AppError (List UnitTransition) := do
  let journal ← opened.mapError
    (fun err => AppError.internalError s!"failed to open transition journal: {err}")
  journal.attempt .seek "failed to seek transition journal tail"
  scanTransitions journal unit limit maxTransitionScan (ahead .desc .tail journal.entries) []

end SystemdMonitoring
