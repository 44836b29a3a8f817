/-
# `SystemdMonitoring.Systemd.Client` — the unit provider on D-Bus and the journal

The production implementation of the unit provider's operations, as programs
over the host's.  Operator warnings are left out.

Two things are coarser here than in the source.  The lookups of a listing's
details run concurrently there (`join_all`), and are made one after the other
here, in the order of the rows: on a host that stands still that makes no
difference, on one that changes meanwhile other interleavings of the same lookups
are possible.  And the journal, once opened, is one value that is read in one
piece, where the source makes several operations for each entry.

Whatever the host answers, listings fail with internal errors only, and an
inspection of a concrete scope with those or with `unit_not_found`
(`ErrorsIn`).  A request that has come this far is not told that its arguments
are wrong, except for a search that does not compile (`listJournalLogs_errors`).
-/
import SystemdMonitoring.Systemd.Units

namespace SystemdMonitoring

open Lib Lib.Text

/-! ## Asking the host -/

/-- A program of a provider: it may fail. -/
abbrev HostTry (α : Type) : Type := ExceptT AppError (Prog HostSig) α

def ask (o : HostOp) : HostProg (HostSig.Ans o) := Prog.call (S := HostSig) o

/-- A host's failure as an internal error with its context. -/
def orInternal {α : Type} (context : String) (answer : Except String α) : Except AppError α :=
  answer.mapError (fun err => .internalError s!"{context}: {err}")

/-- Ask, and fail when the host does. -/
def failing {α : Type} (context : String) (p : HostProg (Except String α)) : HostTry α :=
  ExceptT.mk (p >>= fun answer => pure (orInternal context answer))

def systemdPath : String := "/org/freedesktop/systemd1"

/-- Opens the D-Bus connection associated with one concrete systemd manager scope. -/
def dbusConnectionForScope (scope : UnitScope) : HostTry Unit :=
  match scope with
  | .system => failing "failed to connect to system dbus" (ask (.connect .system))
  | .user => failing "failed to connect to user session dbus" (ask (.connect .user))
  | .both =>
      throw (.internalError "dbus_connection_for_scope requires a concrete scope, got both")

/-- Calls `ListUnits` on the requested manager scope and returns raw D-Bus rows. -/
def listUnitsRows (scope : UnitScope) : HostTry (List RawUnit) := do
  failing s!"failed to create {scope.asStr} systemd dbus proxy"
    (ask (.proxy scope systemdPath .manager))
  failing s!"failed to list {scope.asStr} scope units from systemd" (ask (.listUnits scope))

def tryGetStringProperty (scope : UnitScope) (path : String) (interface : Interface)
    (name : String) : HostTry (Option String) := do
  let value ← failing s!"failed to read systemd property {name}"
    (ask (.property scope path interface name .string))
  return nonBlank value

def tryGetU64Property (scope : UnitScope) (path : String) (interface : Interface)
    (name : String) : HostTry (Option Nat) := do
  let value ← failing s!"failed to read systemd property {name}"
    (ask (.property scope path interface name .u64))
  return some value

def tryGetU32Property (scope : UnitScope) (path : String) (interface : Interface)
    (name : String) : HostTry (Option Nat) := do
  let value ← failing s!"failed to read systemd property {name}"
    (ask (.property scope path interface name .u32))
  return some value

/-- A property whose failure counts as absence. -/
def readOptionalProperty (scope : UnitScope) (path : String) (interface : Interface)
    (name : String) (type : PropertyType) : HostProg (Option type.Val) := do
  let value ← ask (.property scope path interface name type)
  return value.toOption

/-! ## Details -/

section Details

variable [Chrono]

/-- Any failing read fails the whole lookup. -/
def fetchServiceDetails (scope : UnitScope) (unitPath : String) : HostTry ServiceDetails := do
  failing s!"failed to create systemd unit proxy for {unitPath}"
    (ask (.proxy scope unitPath .unit))
  let unitFileState ← tryGetStringProperty scope unitPath .unit "UnitFileState"
  let since ← tryGetU64Property scope unitPath .unit "ActiveEnterTimestamp"
  failing s!"failed to create systemd service proxy for {unitPath}"
    (ask (.proxy scope unitPath .service))
  let mainPid ← tryGetU32Property scope unitPath .service "MainPID"
  let execMainStatus ← tryGetU32Property scope unitPath .service "ExecMainStatus"
  let result ← tryGetStringProperty scope unitPath .service "Result"
  return {
    unitFileState := unitFileState
    sinceUtc := since.bind formatSystemdTimestampUsec
    mainPid := mainPid.filter (fun value => 0 < value)
    execMainStatus :=
      (execMainStatus.filter (fun value => value < 2 ^ 31)).map (fun value => (value : Int))
    result := result }

/-- Every failing read leaves its own field empty. -/
def fetchTimerDetails (scope : UnitScope) (unitPath : String) (names : List (String × String)) :
    HostProg TimerDetails := do
  match ← ask (.proxy scope unitPath .unit) with
  | .error _ => return .default
  | .ok _ =>
      let timerProxy ← ask (.proxy scope unitPath .timer)
      let unitFileState ← readOptionalProperty scope unitPath .unit "UnitFileState" .string
      let triggers ← readOptionalProperty scope unitPath .unit "Triggers" .paths
      let details : TimerDetails := { TimerDetails.default with
        unitFileState := unitFileState.bind nonBlank
        triggerUnit :=
          triggers.bind (fun paths => paths.findSome? (fun path => names.lookup path)) }
      match timerProxy with
      | .error _ => return details
      | .ok _ =>
          let nextRun ← readOptionalProperty scope unitPath .timer "NextElapseUSecRealtime" .u64
          let lastRun ← readOptionalProperty scope unitPath .timer "LastTriggerUSec" .u64
          let persistent ← readOptionalProperty scope unitPath .timer "Persistent" .bool
          let result ← readOptionalProperty scope unitPath .timer "Result" .string
          return { details with
            nextRunUtc := nextRun.bind formatSystemdTimestampUsec
            lastRunUtc := lastRun.bind formatSystemdTimestampUsec
            persistent := persistent
            result := result.bind nonBlank }

/-! ## Listings -/

/-- Lists service units for a single concrete scope over a single D-Bus connection. -/
def listServiceUnitsForSingleScope (scope : UnitScope) : HostTry (List UnitStatus) := do
  dbusConnectionForScope scope
  let rawUnits ← listUnitsRows scope
  let units := mapAndSortServiceUnits rawUnits scope
  let paths := unitPaths ".service" rawUnits
  let tasks := units.filterMap (fun unit =>
    (paths.lookup unit.unit).map (fun path => (unit.unit, path)))
  let results ← ExceptT.lift (tasks.mapM (fun task => do
    let details ← (fetchServiceDetails scope task.2).run
    return details.toOption.map (fun details => (task.1, details))))
  return fillDetails UnitStatus.unit UnitStatus.withDetails results.reduceOption.reverse units

/-- Lists timer units for a single concrete scope over a single D-Bus connection. -/
def listTimerUnitsForSingleScope (scope : UnitScope) : HostTry (List TimerStatus) := do
  dbusConnectionForScope scope
  let rawUnits ← listUnitsRows scope
  let timers := mapAndSortTimerUnits rawUnits scope
  let paths := unitPaths ".timer" rawUnits
  let tasks := timers.filterMap (fun timer =>
    (paths.lookup timer.unit).map (fun path => (timer.unit, path)))
  let results ← ExceptT.lift (tasks.mapM (fun task => do
    let details ← fetchTimerDetails scope task.2 (pathToName rawUnits)
    return (task.1, details)))
  return fillDetails TimerStatus.unit TimerStatus.withDetails results.reverse timers

/-- Both managers, one after the other, and what came of it. -/
def bothScopes {α : Type} (unitKind : String) (key : α → String)
    (single : UnitScope → HostTry (List α)) : HostTry (List α) :=
  ExceptT.mk (do
    let systemResult ← (single .system).run
    let userResult ← (single .user).run
    return combineScopeRowsByKey systemResult userResult unitKind key)

def listServiceUnits (scope : UnitScope) : HostTry (List UnitStatus) :=
  match scope with
  | .both => bothScopes "service units" UnitStatus.unit listServiceUnitsForSingleScope
  | scope => listServiceUnitsForSingleScope scope

def listTimerUnits (scope : UnitScope) : HostTry (List TimerStatus) :=
  match scope with
  | .both => bothScopes "timer units" TimerStatus.unit listTimerUnitsForSingleScope
  | scope => listTimerUnitsForSingleScope scope

/-- Reads the systemd manager `SystemState` property for status endpoints. -/
def systemState (scope : UnitScope) : HostTry String := do
  dbusConnectionForScope scope
  failing s!"failed to create {scope.asStr} systemd dbus proxy"
    (ask (.proxy scope systemdPath .manager))
  failing s!"failed to read {scope.asStr} systemd SystemState property"
    (ask (.property scope systemdPath .manager "SystemState" .string))

/-- The trait's own method: the main-process start is the service's `since_utc`, read back. -/
def unitMainStart (unit : String) (scope : UnitScope) : HostTry (Option DateTime) := do
  let rows ← listServiceUnits scope
  return ((rows.find? (fun row => row.unit == unit)).bind UnitStatus.sinceUtc).bind
    (fun value => (Chrono.parseFromRfc3339 value).map Prod.fst)

/-! ## Inspection -/

def unitNotFound : AppError := .badRequest "unit_not_found" "systemd service unit was not found"

/-- The first row of that name, and what else is read of a service that has failed. -/
def dependencyResult (scope : UnitScope) (rows : List RawUnit) (dependency : FailedDependency) :
    HostProg FailedDependency :=
  match rows.find? (fun row => row.name == dependency.unit) with
  | some row =>
      if endsWith ".service" dependency.unit then do
        let details ← (fetchServiceDetails scope row.unitPath).run
        return { dependency with result := details.toOption.bind ServiceDetails.result }
      else return dependency
  | none => return dependency

/-- Reads direct dependency properties and current rows for one concrete unit. -/
def readFailedDependencies (scope : UnitScope) (unitPath : String) :
    HostTry (List FailedDependency) := do
  failing "failed to create unit dependency proxy" (ask (.proxy scope unitPath .unit))
  let requires ← ExceptT.lift (readOptionalProperty scope unitPath .unit "Requires" .names)
  let wants ← ExceptT.lift (readOptionalProperty scope unitPath .unit "Wants" .names)
  let rows ← listUnitsRows scope
  let dependencies := classifyFailedDependencies (requires.getD []) (wants.getD []) rows
  ExceptT.lift (dependencies.mapM (dependencyResult scope rows))

/-- Reads canonical systemd transition entries newest-first with a hard scan bound. -/
def readUnitTransitions (unit : String) (scope : UnitScope) (limit : Nat) :
    HostTry (List UnitTransition) := do
  if scope = .both then
    throw (.badRequest "invalid_scope" "transition lookup requires a concrete scope")
  let opened ← ExceptT.lift (ask (.openJournal scope))
  ExceptT.mk (pure (transitionsOf opened unit limit))

/-- The transitions, in a task of their own; none when anything about it fails. -/
def recentTransitions (scope : UnitScope) (unit : String) (limit : Nat) :
    HostProg (List UnitTransition) := do
  let transitions ← (readUnitTransitions unit scope limit).run
  let joined ← ask .joinReader
  match joined with
  | .error _ => return []
  | .ok _ => return transitions.toOption.getD []

/-- Inspects one service with direct dependency failures and bounded transition history. -/
def getUnitStatus (unit : String) (scope : UnitScope) (transitionLimit : Nat) : HostTry Json := do
  if scope = .both then
    throw (.badRequest "invalid_scope" "unit inspection requires system or user scope")
  let rows ← listServiceUnitsForSingleScope scope
  match rows.find? (fun row => row.unit == unit) with
  | none => throw unitNotFound
  | some row => do
      dbusConnectionForScope scope
      failing "failed to create unit lookup proxy" (ask (.proxy scope systemdPath .manager))
      match ← ExceptT.lift (ask (.getUnit scope unit)) with
      | .error _ => throw unitNotFound
      | .ok unitPath => do
          let dependencies ← ExceptT.lift (readFailedDependencies scope unitPath).run
          let transitions ← ExceptT.lift (recentTransitions scope unit transitionLimit)
          let withDependencies := Json.setMember row.members "failed_dependencies"
            (.arr ((dependencies.toOption.getD []).map FailedDependency.json))
          return .obj (Json.setMember withDependencies "recent_transitions"
            (.arr (transitions.map UnitTransition.json)))

/-- Scans the journal in a task of its own. -/
def listJournalLogs [RegexEngine] (query : LogQuery) : HostTry LogQueryResult :=
  ExceptT.mk (do
    let opened ← ask (.openJournal query.scope)
    let joined ← ask .joinReader
    match joined with
    | .error err => return .error (.internalError s!"failed to spawn journald reader task: {err}")
    | .ok _ => return readJournalLogs opened query)

end Details

/-! ## What can go wrong -/

/-- Every path returns, and the errors among what is returned satisfy `P`. -/
def ErrorsIn {α : Type} (P : AppError → Prop) (p : HostTry α) : Prop :=
  p.run.Returns (fun answer => ∀ e, answer = .error e → P e)

namespace ErrorsIn

variable {α β : Type} {P P' : AppError → Prop}

theorem mono (hP : ∀ e, P e → P' e) {p : HostTry α} (h : ErrorsIn P p) : ErrorsIn P' p :=
  Prog.Returns.mono (fun _ ha e he => hP e (ha e he)) h

theorem returns {p : HostTry α} (h : ErrorsIn P p) : p.run.Returns (fun _ => True) :=
  Prog.Returns.mono (fun _ _ => trivial) h

theorem of_pure (a : α) : ErrorsIn P (pure a : HostTry α) :=
  Prog.Returns.value (fun _ he => by cases he)

theorem of_throw {e : AppError} (h : P e) : ErrorsIn P (throw e : HostTry α) :=
  Prog.Returns.value (fun _ he => by cases he; exact h)

theorem bind {p : HostTry α} {f : α → HostTry β} (hp : ErrorsIn P p)
    (hf : ∀ a, ErrorsIn P (f a)) : ErrorsIn P (p >>= f) := by
  rw [ErrorsIn, ExceptT.run_bind]
  refine Prog.Returns.bind hp fun answer hanswer => ?_
  cases answer with
  | ok a => exact hf a
  | error e => exact Prog.Returns.value (fun _ he => by cases he; exact hanswer e rfl)

theorem lift {p : HostProg α} (hp : p.Returns (fun _ => True)) : ErrorsIn P (ExceptT.lift p) := by
  refine Prog.Returns.bind hp fun a _ => ?_
  exact Prog.Returns.value (fun _ he => by cases he)

end ErrorsIn

theorem returns_ask (o : HostOp) : (ask o).Returns (fun _ => True) := fun _ => ⟨_, rfl, trivial⟩

theorem errorsIn_failing {α : Type} (context : String) {p : HostProg (Except String α)}
    (hp : p.Returns (fun _ => True)) :
    ErrorsIn (fun e => e.isInternal = true) (failing context p) := by
  refine Prog.Returns.bind hp ?_
  intro answer _
  refine Prog.Returns.value ?_
  intro e he
  cases answer with
  | ok a => cases he
  | error err =>
      cases he
      rfl

theorem errorsIn_proxy (context : String) (scope : UnitScope) (path : String)
    (interface : Interface) :
    ErrorsIn (fun e => e.isInternal = true) (failing context (ask (.proxy scope path interface))) :=
  errorsIn_failing context (by exact returns_ask _)

theorem dbusConnectionForScope_errors (scope : UnitScope) :
    ErrorsIn (fun e => e.isInternal = true) (dbusConnectionForScope scope) := by
  cases scope with
  | system => exact errorsIn_failing _ (by exact returns_ask _)
  | user => exact errorsIn_failing _ (by exact returns_ask _)
  | both => exact .of_throw rfl

theorem listUnitsRows_errors (scope : UnitScope) :
    ErrorsIn (fun e => e.isInternal = true) (listUnitsRows scope) := by
  refine (errorsIn_proxy _ _ _ _).bind ?_
  intro _
  exact errorsIn_failing _ (by exact returns_ask _)

section Errors

variable [Chrono]

omit [Chrono] in
theorem systemState_errors (scope : UnitScope) :
    ErrorsIn (fun e => e.isInternal = true) (systemState scope) := by
  refine (dbusConnectionForScope_errors scope).bind ?_
  intro _
  refine (errorsIn_proxy _ _ _ _).bind ?_
  intro _
  exact errorsIn_failing _ (by exact returns_ask _)

theorem fetchServiceDetails_errors (scope : UnitScope) (unitPath : String) :
    ErrorsIn (fun e => e.isInternal = true) (fetchServiceDetails scope unitPath) := by
  have hproperty : ∀ {α β : Type} (context : String) (p : HostProg (Except String α))
      (read : α → β), p.Returns (fun _ => True) →
      ErrorsIn (fun e => e.isInternal = true)
        (failing context p >>= fun value => (pure (read value) : HostTry β)) := by
    intro α β context p read hp
    refine (errorsIn_failing context hp).bind ?_
    intro value
    exact .of_pure _
  have hstring : ∀ interface name, ErrorsIn (fun e => e.isInternal = true)
      (tryGetStringProperty scope unitPath interface name) := by
    intro interface name
    exact hproperty _ _ nonBlank (by exact returns_ask _)
  have hu64 : ∀ interface name, ErrorsIn (fun e => e.isInternal = true)
      (tryGetU64Property scope unitPath interface name) := by
    intro interface name
    exact hproperty _ _ some (by exact returns_ask _)
  have hu32 : ∀ interface name, ErrorsIn (fun e => e.isInternal = true)
      (tryGetU32Property scope unitPath interface name) := by
    intro interface name
    exact hproperty _ _ some (by exact returns_ask _)
  refine (errorsIn_proxy _ _ _ _).bind ?_
  intro _
  refine (hstring _ _).bind ?_
  intro unitFileState
  refine (hu64 _ _).bind ?_
  intro since
  refine (errorsIn_proxy _ _ _ _).bind ?_
  intro _
  refine (hu32 _ _).bind ?_
  intro mainPid
  refine (hu32 _ _).bind ?_
  intro execMainStatus
  refine (hstring _ _).bind ?_
  intro result
  exact .of_pure _

theorem fetchTimerDetails_returns (scope : UnitScope) (unitPath : String)
    (names : List (String × String)) :
    (fetchTimerDetails scope unitPath names).Returns (fun _ => True) := by
  have hread : ∀ interface name type,
      (readOptionalProperty scope unitPath interface name type).Returns (fun _ => True) := by
    intro interface name type
    refine (returns_ask _).bind ?_
    intro value _
    exact Prog.Returns.value trivial
  refine (returns_ask _).bind ?_
  intro unitProxy _
  cases unitProxy with
  | error err => exact Prog.Returns.value trivial
  | ok proxy =>
      refine (returns_ask _).bind ?_
      intro timerProxy _
      refine (hread _ _ _).bind ?_
      intro unitFileState _
      refine (hread _ _ _).bind ?_
      intro triggers _
      cases timerProxy with
      | error err => exact Prog.Returns.value trivial
      | ok proxy =>
          refine (hread _ _ _).bind ?_
          intro nextRun _
          refine (hread _ _ _).bind ?_
          intro lastRun _
          refine (hread _ _ _).bind ?_
          intro persistent _
          refine (hread _ _ _).bind ?_
          intro result _
          exact Prog.Returns.value trivial

omit [Chrono] in
/-- A listing of one manager fails with its units: a lookup that fails is one without an answer. -/
theorem singleScope_errors {α β : Type} {scope : UnitScope} {lookups : List RawUnit → HostProg α}
    {fill : List RawUnit → α → β} (h : ∀ rawUnits, (lookups rawUnits).Returns (fun _ => True)) :
    ErrorsIn (fun e => e.isInternal = true)
      (dbusConnectionForScope scope >>= fun _ => listUnitsRows scope >>= fun rawUnits =>
        ExceptT.lift (lookups rawUnits) >>= fun results => pure (fill rawUnits results)) := by
  refine (dbusConnectionForScope_errors scope).bind ?_
  intro _
  refine (listUnitsRows_errors scope).bind ?_
  intro rawUnits
  exact ErrorsIn.bind (.lift (h rawUnits)) fun results => .of_pure _

theorem listServiceUnitsForSingleScope_errors (scope : UnitScope) :
    ErrorsIn (fun e => e.isInternal = true) (listServiceUnitsForSingleScope scope) := by
  refine singleScope_errors fun rawUnits => ?_
  refine (Prog.Returns.mapM (R := fun _ _ => True) ?_ _).mono fun _ _ => trivial
  intro task
  refine (fetchServiceDetails_errors scope task.2).returns.bind ?_
  intro details _
  exact Prog.Returns.value trivial

theorem listTimerUnitsForSingleScope_errors (scope : UnitScope) :
    ErrorsIn (fun e => e.isInternal = true) (listTimerUnitsForSingleScope scope) := by
  refine singleScope_errors fun rawUnits => ?_
  refine (Prog.Returns.mapM (R := fun _ _ => True) ?_ _).mono fun _ _ => trivial
  intro task
  refine (fetchTimerDetails_returns scope task.2 _).bind ?_
  intro details _
  exact Prog.Returns.value trivial

omit [Chrono] in
theorem bothScopes_errors {α : Type} (unitKind : String) (key : α → String)
    {single : UnitScope → HostTry (List α)}
    (hsingle : ∀ scope, ErrorsIn (fun e => e.isInternal = true) (single scope)) :
    ErrorsIn (fun e => e.isInternal = true) (bothScopes unitKind key single) := by
  refine (hsingle .system).returns.bind ?_
  intro systemResult _
  refine (hsingle .user).returns.bind ?_
  intro userResult _
  refine Prog.Returns.value ?_
  intro e he
  cases systemResult with
  | ok system => cases userResult <;> cases he
  | error es =>
      cases userResult with
      | ok user => cases he
      | error eu =>
          cases he
          rfl

theorem listServiceUnits_errors (scope : UnitScope) :
    ErrorsIn (fun e => e.isInternal = true) (listServiceUnits scope) := by
  cases scope with
  | both => exact bothScopes_errors _ _ listServiceUnitsForSingleScope_errors
  | system => exact listServiceUnitsForSingleScope_errors _
  | user => exact listServiceUnitsForSingleScope_errors _

theorem listTimerUnits_errors (scope : UnitScope) :
    ErrorsIn (fun e => e.isInternal = true) (listTimerUnits scope) := by
  cases scope with
  | both => exact bothScopes_errors _ _ listTimerUnitsForSingleScope_errors
  | system => exact listTimerUnitsForSingleScope_errors _
  | user => exact listTimerUnitsForSingleScope_errors _

theorem unitMainStart_errors (unit : String) (scope : UnitScope) :
    ErrorsIn (fun e => e.isInternal = true) (unitMainStart unit scope) := by
  refine (listServiceUnits_errors scope).bind ?_
  intro rows
  exact .of_pure _

theorem readFailedDependencies_errors (scope : UnitScope) (unitPath : String) :
    ErrorsIn (fun e => e.isInternal = true) (readFailedDependencies scope unitPath) := by
  have hread : ∀ name,
      (readOptionalProperty scope unitPath .unit name .names).Returns (fun _ => True) := by
    intro name
    refine (returns_ask _).bind ?_
    intro value _
    exact Prog.Returns.value trivial
  refine (errorsIn_proxy _ _ _ _).bind ?_
  intro _
  refine (ErrorsIn.lift (hread _)).bind ?_
  intro requires
  refine (ErrorsIn.lift (hread _)).bind ?_
  intro wants
  refine (listUnitsRows_errors scope).bind ?_
  intro rows
  refine ErrorsIn.lift ?_
  refine (Prog.Returns.mapM (R := fun _ _ => True) ?_ _).mono fun _ _ => trivial
  intro dependency
  rw [dependencyResult]
  split
  · split
    · refine (fetchServiceDetails_errors scope _).returns.bind ?_
      intro details _
      exact Prog.Returns.value trivial
    · exact Prog.Returns.value trivial
  · exact Prog.Returns.value trivial

theorem recentTransitions_returns (scope : UnitScope) (unit : String) (limit : Nat) :
    (recentTransitions scope unit limit).Returns (fun _ => True) := by
  have hread : (readUnitTransitions unit scope limit).run.Returns (fun _ => True) := by
    rw [readUnitTransitions]
    split
    · exact Prog.Returns.value trivial
    · intro opened
      exact ⟨_, rfl, trivial⟩
  refine hread.bind ?_
  intro transitions _
  refine (returns_ask _).bind ?_
  intro joined _
  cases joined with
  | error err => exact Prog.Returns.value trivial
  | ok _ => exact Prog.Returns.value trivial

/-- An inspection of a concrete scope fails internally or does not find the unit. -/
theorem getUnitStatus_errors (unit : String) {scope : UnitScope} (hscope : scope ≠ .both)
    (transitionLimit : Nat) :
    ErrorsIn (fun e => e.isInternal = true ∨ e = unitNotFound)
      (getUnitStatus unit scope transitionLimit) := by
  have hinternal : ∀ {α : Type} {p : HostTry α}, ErrorsIn (fun e => e.isInternal = true) p →
      ErrorsIn (fun e => e.isInternal = true ∨ e = unitNotFound) p := by
    intro α p h
    exact h.mono fun _ he => .inl he
  rw [getUnitStatus, if_neg hscope]
  refine (hinternal (listServiceUnitsForSingleScope_errors scope)).bind ?_
  intro rows
  split
  · exact .of_throw (.inr rfl)
  · refine (hinternal (dbusConnectionForScope_errors scope)).bind ?_
    intro _
    refine (hinternal (errorsIn_proxy _ _ _ _)).bind ?_
    intro _
    refine (ErrorsIn.lift (returns_ask _)).bind ?_
    intro unitPath
    cases unitPath with
    | error err => exact .of_throw (.inr rfl)
    | ok unitPath =>
        refine (ErrorsIn.lift (readFailedDependencies_errors scope unitPath).returns).bind ?_
        intro dependencies
        refine (ErrorsIn.lift (recentTransitions_returns scope unit _)).bind ?_
        intro transitions
        exact .of_pure _

/-- A page of logs is refused for its search, or not for its arguments. -/
theorem listJournalLogs_errors [RegexEngine] (query : LogQuery) :
    ErrorsIn (fun e => e.isRejection = true → buildGrepMatcher query.grep = .error e)
      (listJournalLogs query) := by
  refine (returns_ask _).bind ?_
  intro opened _
  refine (returns_ask _).bind ?_
  intro joined _
  cases joined with
  | error err =>
      refine Prog.Returns.value ?_
      intro e he hrejection
      cases he
      cases hrejection
  | ok _ =>
      refine Prog.Returns.value ?_
      intro e he hrejection
      exact (readJournalLogs_rejection he hrejection).2

end Errors

end SystemdMonitoring
