/-
# `SystemdMonitoring.Systemd.Snapshot` — a host that stands still

A snapshot gives every host operation one answer.  Under a snapshot a program
of the unit provider finds a value or nothing (`Finds`), by the rules of the
option monad, and its reads become plain functions of the answers: what a
manager lists (`managerUnits`), and the details of a service and of a timer.

A service's details are those of all its reads or none (`serviceDetails`);
those of a timer are each its own read's (`timerDetails`).
-/
import SystemdMonitoring.Systemd.Client

namespace SystemdMonitoring

open Lib Lib.Text

/-! ## Finding a value -/

/-- What the host answers, whenever it is asked. -/
abbrev Snapshot : Type := (o : HostOp) → HostSig.Ans o

/-- The program comes to an end under the snapshot, with this value or with an error. -/
def Finds {α : Type} (answers : Snapshot) (p : HostTry α) (found : Option α) : Prop :=
  ∃ answer, p.run.under answers = .done answer ∧ answer.toOption = found

namespace Finds

variable {α β : Type} {answers : Snapshot}

theorem value (a : α) : Finds answers (pure a) (some a) := ⟨.ok a, rfl, rfl⟩

theorem bind {p : HostTry α} {f : α → HostTry β} {found : Option α} {g : α → Option β}
    (hp : Finds answers p found) (hf : ∀ a, Finds answers (f a) (g a)) :
    Finds answers (p >>= f) (found >>= g) := by
  obtain ⟨answer, hanswer, rfl⟩ := hp
  rw [Finds, ExceptT.run_bind, Prog.under_bind hanswer]
  cases answer with
  | ok a => exact hf a
  | error err => exact ⟨.error err, rfl, rfl⟩

theorem map {p : HostTry α} {found : Option α} (hp : Finds answers p found) (f : α → β) :
    Finds answers (p >>= fun a => pure (f a)) (found.map f) := by
  rw [Option.map_eq_bind]
  exact hp.bind fun a => .value (f a)

theorem lift {p : HostProg α} {a : α} (hp : p.under answers = .done a) :
    Finds answers (ExceptT.lift p) (some a) :=
  ⟨.ok a, Prog.under_bind hp _, rfl⟩

theorem failing (context : String) (p : HostProg (Except String α)) {answer : Except String α}
    (hp : p.under answers = .done answer) :
    Finds answers (failing context p) answer.toOption := by
  refine ⟨orInternal context answer, Prog.under_bind hp _, ?_⟩
  cases answer <;> rfl

end Finds

/-! ## What is read of a unit -/

section Reads

variable [Chrono] (answers : Snapshot) (scope : UnitScope) (path : String)

/-- The value of a property, when it can be read. -/
def readProperty (interface : Interface) (name : String) (type : PropertyType) : Option type.Val :=
  (answers (.property scope path interface name type)).toOption

def readString (interface : Interface) (name : String) : Option String :=
  readProperty answers scope path interface name .string

def readU64 (interface : Interface) (name : String) : Option Nat :=
  readProperty answers scope path interface name .u64

def readU32 (interface : Interface) (name : String) : Option Nat :=
  readProperty answers scope path interface name .u32

/-- The proxy of an interface of a unit's object, when it can be created. -/
def openProxy (interface : Interface) : Option Unit :=
  (answers (.proxy scope path interface)).toOption

/-- The units that a manager lists, when it can be asked. -/
def managerUnits : Option (List RawUnit) := do
  (answers (.connect scope)).toOption
  openProxy answers scope systemdPath .manager
  (answers (.listUnits scope)).toOption

/-- What each read of a service's properties comes to on its own. -/
def ownDetails : ServiceDetails where
  unitFileState := (readString answers scope path .unit "UnitFileState").bind nonBlank
  sinceUtc := (readU64 answers scope path .unit "ActiveEnterTimestamp").bind
    formatSystemdTimestampUsec
  mainPid := (readU32 answers scope path .service "MainPID").filter (fun value => 0 < value)
  execMainStatus := ((readU32 answers scope path .service "ExecMainStatus").filter
    (fun value => value < 2 ^ 31)).map (fun value => (value : Int))
  result := (readString answers scope path .service "Result").bind nonBlank

/-- Both proxies are created and all five properties are read. -/
def AllRead : Prop :=
  (openProxy answers scope path .unit).isSome = true
  ∧ (readString answers scope path .unit "UnitFileState").isSome = true
  ∧ (readU64 answers scope path .unit "ActiveEnterTimestamp").isSome = true
  ∧ (openProxy answers scope path .service).isSome = true
  ∧ (readU32 answers scope path .service "MainPID").isSome = true
  ∧ (readU32 answers scope path .service "ExecMainStatus").isSome = true
  ∧ (readString answers scope path .service "Result").isSome = true

instance : Decidable (AllRead answers scope path) := inferInstanceAs (Decidable (_ ∧ _))

/-- The details of a service: those of all the reads, or none. -/
def serviceDetails : Option ServiceDetails :=
  if AllRead answers scope path then some (ownDetails answers scope path) else none

/-- A property of a timer, read behind the proxies of both interfaces. -/
def readTimerProperty (name : String) (type : PropertyType) : Option type.Val := do
  openProxy answers scope path .unit
  openProxy answers scope path .timer
  readProperty answers scope path .timer name type

/-- The details of a timer, each by its own read. -/
def timerDetails (names : List (String × String)) : TimerDetails where
  unitFileState := (openProxy answers scope path .unit).bind fun _ =>
    (readString answers scope path .unit "UnitFileState").bind nonBlank
  nextRunUtc := (readTimerProperty answers scope path "NextElapseUSecRealtime" .u64).bind
    formatSystemdTimestampUsec
  lastRunUtc := (readTimerProperty answers scope path "LastTriggerUSec" .u64).bind
    formatSystemdTimestampUsec
  triggerUnit := (openProxy answers scope path .unit).bind fun _ =>
    (readProperty answers scope path .unit "Triggers" .paths : Option (List String)).bind
      fun paths => paths.findSome? (fun path => names.lookup path)
  persistent := readTimerProperty answers scope path "Persistent" .bool
  result := (readTimerProperty answers scope path "Result" .string).bind nonBlank

end Reads

section Lookups

variable {answers : Snapshot}

theorem finds_property (context : String) (scope : UnitScope) (path : String)
    (interface : Interface) (name : String) (type : PropertyType) :
    Finds answers (failing context (ask (.property scope path interface name type)))
      (readProperty answers scope path interface name type) :=
  .failing _ _ rfl

theorem finds_proxy (context : String) (scope : UnitScope) (path : String)
    (interface : Interface) :
    Finds answers (failing context (ask (.proxy scope path interface)))
      (openProxy answers scope path interface) :=
  .failing _ _ rfl

theorem finds_listUnitsRows (scope : UnitScope) :
    Finds answers (listUnitsRows scope) (do
      openProxy answers scope systemdPath .manager
      (answers (.listUnits scope)).toOption) :=
  (finds_proxy _ _ _ _).bind fun _ => .failing _ _ rfl

theorem finds_tryGetStringProperty (scope : UnitScope) (path : String) (interface : Interface)
    (name : String) :
    Finds answers (tryGetStringProperty scope path interface name)
      ((readString answers scope path interface name).map nonBlank) :=
  (finds_property _ _ _ _ _ _).map _

theorem finds_tryGetU64Property (scope : UnitScope) (path : String) (interface : Interface)
    (name : String) :
    Finds answers (tryGetU64Property scope path interface name)
      ((readU64 answers scope path interface name).map some) :=
  (finds_property _ _ _ _ _ _).map _

theorem finds_tryGetU32Property (scope : UnitScope) (path : String) (interface : Interface)
    (name : String) :
    Finds answers (tryGetU32Property scope path interface name)
      ((readU32 answers scope path interface name).map some) :=
  (finds_property _ _ _ _ _ _).map _

variable [Chrono]

variable (answers) in
/-- The reads of a service stop at the first that fails. -/
theorem finds_fetchServiceDetails (scope : UnitScope) (path : String) :
    Finds answers (fetchServiceDetails scope path) (serviceDetails answers scope path) := by
  have hfound : serviceDetails answers scope path = (do
      openProxy answers scope path .unit
      let unitFileState ←
        (readString answers scope path .unit "UnitFileState").map nonBlank
      let since ← (readU64 answers scope path .unit "ActiveEnterTimestamp").map some
      openProxy answers scope path .service
      let mainPid ← (readU32 answers scope path .service "MainPID").map some
      let execMainStatus ←
        (readU32 answers scope path .service "ExecMainStatus").map some
      let result ← (readString answers scope path .service "Result").map nonBlank
      return {
        unitFileState := unitFileState
        sinceUtc := since.bind formatSystemdTimestampUsec
        mainPid := mainPid.filter (fun value => 0 < value)
        execMainStatus := (execMainStatus.filter (fun value => value < 2 ^ 31)).map
          (fun value => (value : Int))
        result := result }) := by
    rw [serviceDetails]
    split
    case isTrue hall =>
      simp only [AllRead, Option.isSome_iff_exists] at hall
      obtain ⟨⟨_, h₁⟩, ⟨_, h₂⟩, ⟨_, h₃⟩, ⟨_, h₄⟩, ⟨_, h₅⟩, ⟨_, h₆⟩, ⟨_, h₇⟩⟩ := hall
      rw [ownDetails, h₁, h₂, h₃, h₄, h₅, h₆, h₇]
      rfl
    case isFalse hall =>
      refine (Option.eq_none_iff_forall_ne_some.mpr ?_).symm
      intro details hdetails
      refine hall ?_
      simp only [Option.bind_eq_bind, Option.bind_eq_some_iff, Option.map_eq_some_iff]
        at hdetails
      obtain ⟨_, h₁, _, ⟨_, h₂, _⟩, _, ⟨_, h₃, _⟩, _, h₄, _, ⟨_, h₅, _⟩, _, ⟨_, h₆, _⟩, _,
        ⟨_, h₇, _⟩, _⟩ := hdetails
      simp only [AllRead, h₁, h₂, h₃, h₄, h₅, h₆, h₇, Option.isSome_some, and_self]
  rw [hfound]
  refine (finds_proxy _ _ _ _).bind fun _ => ?_
  refine (finds_tryGetStringProperty _ _ _ _).bind fun _ => ?_
  refine (finds_tryGetU64Property _ _ _ _).bind fun _ => ?_
  refine (finds_proxy _ _ _ _).bind fun _ => ?_
  refine (finds_tryGetU32Property _ _ _ _).bind fun _ => ?_
  refine (finds_tryGetU32Property _ _ _ _).bind fun _ => ?_
  refine (finds_tryGetStringProperty _ _ _ _).bind fun _ => ?_
  exact .value _

/-- The reads of a timer leave one another alone. -/
theorem under_fetchTimerDetails (scope : UnitScope) (path : String)
    (names : List (String × String)) :
    (fetchTimerDetails scope path names).under answers
      = .done (timerDetails answers scope path names) := by
  rw [fetchTimerDetails, Prog.under_bind (p := ask (.proxy scope path .unit)) rfl, timerDetails]
  unfold readTimerProperty openProxy
  cases answers (.proxy scope path .unit) with
  | error err => rfl
  | ok proxy =>
      show Prog.under answers (ask (.proxy scope path .timer) >>= _) = _
      rw [Prog.under_bind rfl]
      cases answers (.proxy scope path .timer) with
      | error err => rfl
      | ok proxy => rfl

end Lookups

end SystemdMonitoring
