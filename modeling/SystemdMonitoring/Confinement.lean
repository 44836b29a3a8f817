/-
# `SystemdMonitoring.Confinement` — what a provider may do on the machine

For each provider operation, the operations on the machine that it may come to
(`Permits`): the managers of its scope and no others; of a manager, the list of
units, one unit's path and the system state; of an object, the properties of its
kind that are listed here; the journal of its scope; or one `podman` command with
the checked identifier as its operand.

An object is known by its path, and a path is used only when the manager of that
scope has handed it out before (`pathsOf`): nothing that a client sends becomes a
path.  All providers keep to this, whatever the machine answers
(`fulfil_confined`).
-/
import SystemdMonitoring.Lib.Policy
import SystemdMonitoring.Provider
import SystemdMonitoring.Systemd.Listings

namespace SystemdMonitoring

open Lib

/-! ## The policy -/

/-- The object paths that a manager has handed out. -/
def pathsIn : Exchange HostSig → List (UnitScope × String)
  | ⟨.listUnits scope, .ok rows⟩ => rows.map fun row => (scope, row.unitPath)
  | ⟨.getUnit scope _, .ok path⟩ => [(scope, path)]
  | _ => []

def pathsOf (history : List (Exchange HostSig)) : List (UnitScope × String) :=
  history.flatMap pathsIn

/-- The managers that are meant by a scope. -/
def UnitScope.managers : UnitScope → List UnitScope
  | .both => [.system, .user]
  | scope => [scope]

/-- The scopes of an operation whose managers may be talked to. -/
def ProviderOp.managers : ProviderOp → List UnitScope
  | .systemState scope => [scope]
  | .listServiceUnits scope | .listTimerUnits scope | .unitMainStart _ scope => scope.managers
  | .getUnitStatus _ scope _ => [scope]
  | _ => []

/-- The scopes of an operation whose journals may be opened. -/
def ProviderOp.journals : ProviderOp → List UnitScope
  | .listJournalLogs query => [query.scope]
  | .getUnitStatus _ scope _ => [scope]
  | _ => []

def serviceProperties : List (Interface × String × PropertyType) :=
  [(.unit, "UnitFileState", .string), (.unit, "ActiveEnterTimestamp", .u64),
    (.service, "MainPID", .u32), (.service, "ExecMainStatus", .u32), (.service, "Result", .string)]

def timerProperties : List (Interface × String × PropertyType) :=
  [(.unit, "UnitFileState", .string), (.unit, "Triggers", .paths),
    (.timer, "NextElapseUSecRealtime", .u64), (.timer, "LastTriggerUSec", .u64),
    (.timer, "Persistent", .bool), (.timer, "Result", .string)]

def dependencyProperties : List (Interface × String × PropertyType) :=
  [(.unit, "Requires", .names), (.unit, "Wants", .names)]

/-- The properties of objects that an operation may read. -/
def ProviderOp.properties : ProviderOp → List (Interface × String × PropertyType)
  | .listServiceUnits _ | .unitMainStart _ _ => serviceProperties
  | .listTimerUnits _ => timerProperties
  | .getUnitStatus _ _ _ => serviceProperties ++ dependencyProperties
  | _ => []

/-- The command that an operation may run: its identifier has been checked. -/
def ProviderOp.command : ProviderOp → Option (Podman.Kind × String)
  | .containerStatus container => some (.container, container)
  | .podStatus pod => some (.pod, pod)
  | _ => none

/-- What an operation may come to on the machine, by what has been handed out. -/
inductive Permits (asked : ProviderOp) (granted : List (UnitScope × String)) : HostOp → Prop where
  | connect {scope : UnitScope} (h : scope ∈ asked.managers) :
      Permits asked granted (.connect scope)
  | manager {scope : UnitScope} (h : scope ∈ asked.managers) :
      Permits asked granted (.proxy scope systemdPath .manager)
  | systemState {scope : UnitScope} (h : asked = .systemState scope) :
      Permits asked granted (.property scope systemdPath .manager "SystemState" .string)
  | listUnits {scope : UnitScope} (h : scope ∈ asked.managers) (hlists : asked.properties ≠ []) :
      Permits asked granted (.listUnits scope)
  | getUnit {unit : String} {scope : UnitScope} {limit : Nat}
      (h : asked = .getUnitStatus unit scope limit) : Permits asked granted (.getUnit scope unit)
  | object {scope : UnitScope} {path : String} {interface : Interface}
      (h : scope ∈ asked.managers) (hpath : (scope, path) ∈ granted)
      (hkind : ∃ name type, (interface, name, type) ∈ asked.properties) :
      Permits asked granted (.proxy scope path interface)
  | property {scope : UnitScope} {path : String} {interface : Interface} {name : String}
      {type : PropertyType} (h : scope ∈ asked.managers) (hpath : (scope, path) ∈ granted)
      (hname : (interface, name, type) ∈ asked.properties) :
      Permits asked granted (.property scope path interface name type)
  | journal {scope : UnitScope} (h : scope ∈ asked.journals) :
      Permits asked granted (.openJournal scope)
  | joined (h : asked.journals ≠ []) : Permits asked granted .joinReader
  | podman {kind : Podman.Kind} {value : String} (h : asked.command = some (kind, value))
      (hvalid : Podman.validateIdentifier value kind = .ok ()) :
      Permits asked granted (.podman [kind.asStr, "inspect", value])

/-- More paths permit more. -/
theorem Permits.mono {asked : ProviderOp} {granted granted' : List (UnitScope × String)}
    {o : HostOp} (h : Permits asked granted o) (hgranted : granted ⊆ granted') :
    Permits asked granted' o := by
  cases h with
  | connect h => exact .connect h
  | manager h => exact .manager h
  | systemState h => exact .systemState h
  | listUnits h hlists => exact .listUnits h hlists
  | getUnit h => exact .getUnit h
  | object h hpath hkind => exact .object h (hgranted hpath) hkind
  | property h hpath hname => exact .property h (hgranted hpath) hname
  | journal h => exact .journal h
  | joined h => exact .joined h
  | podman h hvalid => exact .podman h hvalid

/-- The policy of an operation. -/
def confinement (asked : ProviderOp) (history : List (Exchange HostSig)) (o : HostOp) : Prop :=
  Permits asked (pathsOf history) o

theorem pathsOf_subset (before history : List (Exchange HostSig)) :
    pathsOf before ⊆ pathsOf (before ++ history) := by
  rw [pathsOf, pathsOf, List.flatMap_append]
  exact List.subset_append_left _ _

/-- A provider's program that keeps to the policy, when these paths have been handed out. -/
def Confined {α : Type} (asked : ProviderOp) (granted : List (UnitScope × String))
    (p : HostProg α) : Prop :=
  ∀ before, granted ⊆ pathsOf before → p.Within (confinement asked) before

namespace Confined

variable {asked : ProviderOp} {granted : List (UnitScope × String)} {α β : Type}

theorem value (a : α) : Confined asked granted (pure a : HostProg α) := fun _ _ => trivial

theorem ask {o : HostOp} (h : Permits asked granted o) : Confined asked granted (ask o) :=
  fun _ hbefore => .call (h.mono hbefore)

theorem bind {p : HostProg α} {f : α → HostProg β} (hp : Confined asked granted p)
    (hf : ∀ a, Confined asked granted (f a)) : Confined asked granted (p >>= f) := by
  intro before hbefore
  refine (hp before hbefore).bind ?_
  intro a history _
  exact hf a _ (List.Subset.trans hbefore (pathsOf_subset before history))

/-- What comes behind an operation that hands out paths. -/
theorem granting {o : HostOp} {f : HostSig.Ans o → HostProg β} (ho : Permits asked granted o)
    (hf : ∀ answer, Confined asked (pathsIn ⟨o, answer⟩ ++ granted) (f answer)) :
    Confined asked granted (SystemdMonitoring.ask o >>= f) := by
  intro before hbefore
  refine ⟨ho.mono hbefore, ?_⟩
  intro answer
  refine hf answer _ (List.append_subset.mpr ⟨?_, List.Subset.trans hbefore (pathsOf_subset _ _)⟩)
  rw [pathsOf, List.flatMap_append, List.flatMap_singleton]
  exact List.subset_append_right _ _

theorem mapM {f : α → HostProg β} {l : List α} (h : ∀ a ∈ l, Confined asked granted (f a)) :
    Confined asked granted (l.mapM f) := by
  intro before hbefore
  refine Prog.Within.mapM ?_
  intro a ha history
  exact h a ha _ (List.Subset.trans hbefore (pathsOf_subset before history))

/-! ### Programs that may fail -/

theorem failing (context : String) {p : HostProg (Except String α)}
    (hp : Confined asked granted p) : Confined asked granted (failing context p).run :=
  hp.bind fun _ => value _

theorem andThen {p : HostTry α} {f : α → HostTry β} (hp : Confined asked granted p.run)
    (hf : ∀ a, Confined asked granted (f a).run) : Confined asked granted (p >>= f).run := by
  rw [ExceptT.run_bind]
  refine hp.bind ?_
  intro answer
  cases answer with
  | ok a => exact hf a
  | error err => exact value _

theorem lift {p : HostProg α} (hp : Confined asked granted p) :
    Confined asked granted (ExceptT.lift p : HostTry α).run :=
  hp.bind fun _ => value _

end Confined

/-! ## Units -/

section Units

variable {asked : ProviderOp} {granted : List (UnitScope × String)} {scope : UnitScope}

theorem dbusConnectionForScope_confined (h : scope ∈ asked.managers) :
    Confined asked granted (dbusConnectionForScope scope).run := by
  cases scope with
  | system => exact .failing _ (.ask (.connect h))
  | user => exact .failing _ (.ask (.connect h))
  | both => exact .value _

/-- The paths of the rows of a manager. -/
def rowPaths (scope : UnitScope) (rows : List RawUnit) : List (UnitScope × String) :=
  rows.map fun row => (scope, row.unitPath)

/-- What comes behind a list of units knows their paths. -/
theorem listUnitsRows_confined {β : Type} (h : scope ∈ asked.managers)
    (hlists : asked.properties ≠ []) {f : List RawUnit → HostTry β}
    (hf : ∀ rows, Confined asked (rowPaths scope rows ++ granted) (f rows).run) :
    Confined asked granted (listUnitsRows scope >>= f).run := by
  rw [listUnitsRows, bind_assoc]
  refine .andThen (.failing _ (.ask (.manager h))) fun _ => ?_
  rw [ExceptT.run_bind]
  show Confined asked granted ((ask (.listUnits scope) >>= _) >>= _)
  rw [bind_assoc]
  refine .granting (.listUnits h hlists) ?_
  intro answer
  cases answer with
  | ok rows => exact hf rows
  | error err => exact .value _

/-- A path that is looked up is that of a row. -/
theorem mem_rowPaths {suffix unit path : String} {rows : List RawUnit}
    (h : (unitPaths suffix rows).lookup unit = some path) :
    (scope, path) ∈ rowPaths scope rows := by
  obtain ⟨row, hrow, heq⟩ := List.mem_map.mp (List.mem_reverse.mp (mem_of_lookup h))
  cases heq
  exact List.mem_map_of_mem (List.mem_filter.mp hrow).1

theorem mem_rowPaths_of_task {α : Type} {suffix : String} {key : α → String} {units : List α}
    {rows : List RawUnit} {task : String × String}
    (h : task ∈ units.filterMap fun unit =>
      ((unitPaths suffix rows).lookup (key unit)).map fun path => (key unit, path)) :
    (scope, task.2) ∈ rowPaths scope rows := by
  obtain ⟨unit, -, hunit⟩ := List.mem_filterMap.mp h
  obtain ⟨path, hpath, rfl⟩ := Option.map_eq_some_iff.mp hunit
  exact mem_rowPaths hpath

variable {path : String}

/-- The details of a service, at a path that has been handed out. -/
theorem fetchServiceDetails_confined [Chrono] (h : scope ∈ asked.managers)
    (hpath : (scope, path) ∈ granted) (hproperties : serviceProperties ⊆ asked.properties) :
    Confined asked granted (fetchServiceDetails scope path).run := by
  have hproperty : ∀ (context name : String) (interface : Interface) (type : PropertyType),
      (interface, name, type) ∈ serviceProperties →
      Confined asked granted
        (failing context (ask (.property scope path interface name type))).run := by
    intro context name interface type hname
    exact .failing _ (.ask (.property h hpath (hproperties hname)))
  have hobject : ∀ (context name : String) (interface : Interface) (type : PropertyType),
      (interface, name, type) ∈ serviceProperties →
      Confined asked granted (failing context (ask (.proxy scope path interface))).run := by
    intro context name interface type hname
    exact .failing _ (.ask (.object h hpath ⟨name, type, hproperties hname⟩))
  rw [fetchServiceDetails]
  refine .andThen (hobject _ "UnitFileState" .unit .string (by decide)) fun _ => ?_
  refine .andThen (.andThen (hproperty _ _ _ _ (by decide)) fun _ => .value _) fun _ => ?_
  refine .andThen (.andThen (hproperty _ _ _ _ (by decide)) fun _ => .value _) fun _ => ?_
  refine .andThen (hobject _ "MainPID" .service .u32 (by decide)) fun _ => ?_
  refine .andThen (.andThen (hproperty _ _ _ _ (by decide)) fun _ => .value _) fun _ => ?_
  refine .andThen (.andThen (hproperty _ _ _ _ (by decide)) fun _ => .value _) fun _ => ?_
  refine .andThen (.andThen (hproperty _ _ _ _ (by decide)) fun _ => .value _) fun _ => ?_
  exact .value _

/-- The details of a timer, at a path that has been handed out. -/
theorem fetchTimerDetails_confined [Chrono] (h : scope ∈ asked.managers)
    (hpath : (scope, path) ∈ granted) (hproperties : timerProperties ⊆ asked.properties)
    (names : List (String × String)) :
    Confined asked granted (fetchTimerDetails scope path names) := by
  have hoptional : ∀ (name : String) (interface : Interface) (type : PropertyType),
      (interface, name, type) ∈ timerProperties →
      Confined asked granted (readOptionalProperty scope path interface name type) := by
    intro name interface type hname
    exact .bind (.ask (.property h hpath (hproperties hname))) fun _ => .value _
  have hobject : ∀ (name : String) (interface : Interface) (type : PropertyType),
      (interface, name, type) ∈ timerProperties →
      Confined asked granted (ask (.proxy scope path interface)) := by
    intro name interface type hname
    exact .ask (.object h hpath ⟨name, type, hproperties hname⟩)
  rw [fetchTimerDetails]
  refine .bind (hobject "UnitFileState" .unit .string (by decide)) fun answer => ?_
  split
  · exact .value _
  · refine .bind (hobject "Persistent" .timer .bool (by decide)) fun timerProxy => ?_
    refine .bind (hoptional _ _ _ (by decide)) fun _ => ?_
    refine .bind (hoptional _ _ _ (by decide)) fun _ => ?_
    dsimp only
    split
    · exact .value _
    · refine .bind (hoptional _ _ _ (by decide)) fun _ => ?_
      refine .bind (hoptional _ _ _ (by decide)) fun _ => ?_
      refine .bind (hoptional _ _ _ (by decide)) fun _ => ?_
      refine .bind (hoptional _ _ _ (by decide)) fun _ => ?_
      exact .value _

/-! ## Listings -/

variable [Chrono]

theorem listServiceUnitsForSingleScope_confined (h : scope ∈ asked.managers)
    (hproperties : serviceProperties ⊆ asked.properties) :
    Confined asked granted (listServiceUnitsForSingleScope scope).run := by
  have hlists : asked.properties ≠ [] := List.ne_nil_of_mem (hproperties List.mem_cons_self)
  rw [listServiceUnitsForSingleScope]
  refine .andThen (dbusConnectionForScope_confined h) fun _ => ?_
  refine listUnitsRows_confined h hlists fun rows => ?_
  refine .andThen (.lift (.mapM ?_)) fun _ => .value _
  intro task htask
  have hpath : (scope, task.2) ∈ rowPaths scope rows ++ granted :=
    List.mem_append_left granted (mem_rowPaths_of_task htask)
  exact .bind (fetchServiceDetails_confined h hpath hproperties) fun _ => .value _

theorem listTimerUnitsForSingleScope_confined (h : scope ∈ asked.managers)
    (hproperties : timerProperties ⊆ asked.properties) :
    Confined asked granted (listTimerUnitsForSingleScope scope).run := by
  have hlists : asked.properties ≠ [] := List.ne_nil_of_mem (hproperties List.mem_cons_self)
  rw [listTimerUnitsForSingleScope]
  refine .andThen (dbusConnectionForScope_confined h) fun _ => ?_
  refine listUnitsRows_confined h hlists fun rows => ?_
  refine .andThen (.lift (.mapM ?_)) fun _ => .value _
  intro task htask
  have hpath : (scope, task.2) ∈ rowPaths scope rows ++ granted :=
    List.mem_append_left granted (mem_rowPaths_of_task htask)
  exact .bind (fetchTimerDetails_confined h hpath hproperties _) fun _ => .value _

omit [Chrono] in
theorem bothScopes_confined {α : Type} {unitKind : String} {key : α → String}
    {single : UnitScope → HostTry (List α)}
    (hsystem : Confined asked granted (single .system).run)
    (huser : Confined asked granted (single .user).run) :
    Confined asked granted (bothScopes unitKind key single).run :=
  hsystem.bind fun _ => huser.bind fun _ => .value _

/-- The services of the managers that are meant. -/
theorem listServiceUnits_confined (h : scope.managers ⊆ asked.managers)
    (hproperties : serviceProperties ⊆ asked.properties) :
    Confined asked granted (listServiceUnits scope).run := by
  have hsingle : ∀ scope ∈ asked.managers,
      Confined asked granted (listServiceUnitsForSingleScope scope).run :=
    fun _ h => listServiceUnitsForSingleScope_confined h hproperties
  cases scope with
  | system => exact hsingle .system (h (by decide))
  | user => exact hsingle .user (h (by decide))
  | both =>
      exact bothScopes_confined (hsingle .system (h (by decide))) (hsingle .user (h (by decide)))

theorem listTimerUnits_confined (h : scope.managers ⊆ asked.managers)
    (hproperties : timerProperties ⊆ asked.properties) :
    Confined asked granted (listTimerUnits scope).run := by
  have hsingle : ∀ scope ∈ asked.managers,
      Confined asked granted (listTimerUnitsForSingleScope scope).run :=
    fun _ h => listTimerUnitsForSingleScope_confined h hproperties
  cases scope with
  | system => exact hsingle .system (h (by decide))
  | user => exact hsingle .user (h (by decide))
  | both =>
      exact bothScopes_confined (hsingle .system (h (by decide))) (hsingle .user (h (by decide)))

/-! ## Inspection -/

/-- The results of dependencies, at the paths of the rows. -/
theorem dependencyResult_confined (h : scope ∈ asked.managers)
    (hproperties : serviceProperties ⊆ asked.properties) {rows : List RawUnit}
    (hrows : rowPaths scope rows ⊆ granted) (dependency : FailedDependency) :
    Confined asked granted (dependencyResult scope rows dependency) := by
  rw [dependencyResult]
  split
  · next row hrow =>
      split
      · have hpath : (scope, row.unitPath) ∈ granted :=
          hrows (List.mem_map_of_mem (List.mem_of_find?_eq_some hrow))
        exact .bind (fetchServiceDetails_confined h hpath hproperties) fun _ => .value _
      · exact .value _
  · exact .value _

theorem readFailedDependencies_confined (h : scope ∈ asked.managers)
    (hpath : (scope, path) ∈ granted)
    (hproperties : serviceProperties ++ dependencyProperties ⊆ asked.properties) :
    Confined asked granted (readFailedDependencies scope path).run := by
  have hservice : serviceProperties ⊆ asked.properties :=
    List.Subset.trans (List.subset_append_left _ _) hproperties
  have hlists : asked.properties ≠ [] := List.ne_nil_of_mem (hservice List.mem_cons_self)
  have hoptional : ∀ name, (Interface.unit, name, PropertyType.names) ∈ dependencyProperties →
      Confined asked granted (readOptionalProperty scope path .unit name .names) := by
    intro name hname
    have hallowed := hproperties (List.mem_append_right _ hname)
    exact .bind (.ask (.property h hpath hallowed)) fun _ => .value _
  have hkind : ∃ name type, (Interface.unit, name, type) ∈ asked.properties :=
    ⟨"UnitFileState", .string, hservice (by decide)⟩
  rw [readFailedDependencies]
  refine .andThen (.failing _ (.ask (.object h hpath hkind))) fun _ => ?_
  refine .andThen (.lift (hoptional _ (by decide))) fun requires => ?_
  refine .andThen (.lift (hoptional _ (by decide))) fun wants => ?_
  refine listUnitsRows_confined h hlists fun rows => ?_
  refine .lift (.mapM ?_)
  intro dependency _
  exact dependencyResult_confined h hservice (List.subset_append_left _ _) dependency

theorem recentTransitions_confined (h : scope ∈ asked.journals) (unit : String)
    (limit : Nat) : Confined asked granted (recentTransitions scope unit limit) := by
  have hread : Confined asked granted (readUnitTransitions unit scope limit).run := by
    rw [readUnitTransitions]
    split
    · exact .value _
    · exact .andThen (.lift (.ask (.journal h))) fun _ => .value _
  refine .bind hread fun transitions => ?_
  refine .bind (.ask (.joined (List.ne_nil_of_mem h))) fun joined => ?_
  split <;> exact .value _

theorem getUnitStatus_confined (unit : String) (scope : UnitScope) (limit : Nat) :
    Confined (.getUnitStatus unit scope limit) granted (getUnitStatus unit scope limit).run := by
  have hscope : scope ∈ (ProviderOp.getUnitStatus unit scope limit).managers := List.mem_cons_self
  rw [getUnitStatus]
  split
  · exact .value _
  · refine .andThen (listServiceUnitsForSingleScope_confined hscope
      (List.subset_append_left _ _)) fun rows => ?_
    split
    · exact .value _
    · refine .andThen (dbusConnectionForScope_confined hscope) fun _ => ?_
      refine .andThen (.failing _ (.ask (.manager hscope))) fun _ => ?_
      -- the manager hands out the path of the one unit
      refine .granting (.getUnit rfl) fun found => ?_
      cases found with
      | error _ => exact .value _
      | ok unitPath =>
          refine .andThen (.lift (readFailedDependencies_confined hscope List.mem_cons_self
            (List.Subset.refl _))) fun dependencies => ?_
          refine .andThen (.lift (recentTransitions_confined List.mem_cons_self unit limit))
            fun transitions => ?_
          exact .value _

end Units

/-! ## Containers -/

theorem inspect_confined [SerdeJson] {asked : ProviderOp} {granted : List (UnitScope × String)}
    {kind : Podman.Kind} {value : String} (h : asked.command = some (kind, value))
    (compact : Json → Except AppError Json) :
    Confined asked granted (Podman.inspect kind compact value).run := by
  cases hvalid : Podman.validateIdentifier value kind with
  | error err =>
      rw [Podman.inspect_of_invalid hvalid]
      exact .value _
  | ok _ =>
      rw [Podman.inspect, hvalid]
      refine .andThen (.value _) fun _ => .andThen ?_ fun _ => .value _
      exact .bind (.ask (.podman h hvalid)) fun _ => .value _

/-! ## All providers -/

/-- **A provider does on the machine what its operation permits**, whatever it is answered. -/
theorem fulfil_confined [Chrono] [RegexEngine] [SerdeJson] (o : ProviderOp) :
    Confined o [] (fulfil o) := by
  cases o with
  | systemState scope =>
      refine .andThen (dbusConnectionForScope_confined List.mem_cons_self) fun _ => ?_
      refine .andThen (.failing _ (.ask (.manager List.mem_cons_self))) fun _ => ?_
      exact .failing _ (.ask (.systemState rfl))
  | listServiceUnits scope =>
      exact listServiceUnits_confined (List.Subset.refl _) (List.Subset.refl _)
  | getUnitStatus unit scope limit => exact getUnitStatus_confined unit scope limit
  | listTimerUnits scope =>
      exact listTimerUnits_confined (List.Subset.refl _) (List.Subset.refl _)
  | listJournalLogs query =>
      refine .bind (.ask (.journal List.mem_cons_self)) fun opened => ?_
      refine .bind (.ask (.joined (List.cons_ne_nil _ _))) fun joined => ?_
      split <;> exact .value _
  | unitMainStart unit scope =>
      refine .andThen (listServiceUnits_confined (List.Subset.refl _) (List.Subset.refl _)) ?_
      intro rows
      exact .value _
  | containerStatus container => exact inspect_confined rfl _
  | podStatus pod => exact inspect_confined rfl _

end SystemdMonitoring
