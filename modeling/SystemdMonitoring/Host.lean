/-
# `SystemdMonitoring.Host` — what the server asks for

Three signatures, from the handlers down to the machine.

* `ProviderSig`: the two provider traits.  Handlers know no more of units, logs
  and containers than what these operations answer.
* `HostSig`: the operations of the real providers on D-Bus, the journal and the
  `podman` command.  Opening a journal answers with all that is read of it, so
  that a scan is one operation here, however many entries it visits.
* `ServerSig`: the clock and the audit log, which are no provider's work.
-/
import SystemdMonitoring.Lib.Prog
import SystemdMonitoring.Systemd.Logs

namespace SystemdMonitoring

open Lib

/-- A JSON library: reading a document from bytes, and writing a value as text. -/
class SerdeJson where
  fromSlice : List UInt8 → Option Json
  toString : Json → String

/-! ## Providers -/

inductive ProviderOp where
  | systemState (scope : UnitScope)
  | listServiceUnits (scope : UnitScope)
  | getUnitStatus (unit : String) (scope : UnitScope) (transitionLimit : Nat)
  | listTimerUnits (scope : UnitScope)
  | listJournalLogs (query : LogQuery)
  | unitMainStart (unit : String) (scope : UnitScope)
  | containerStatus (container : String)
  | podStatus (pod : String)
  deriving DecidableEq, Repr

/-- What each operation answers with when it does not fail. -/
def ProviderOp.Row : ProviderOp → Type
  | .systemState _ => String
  | .listServiceUnits _ => List UnitStatus
  | .getUnitStatus _ _ _ => Json
  | .listTimerUnits _ => List TimerStatus
  | .listJournalLogs _ => LogQueryResult
  | .unitMainStart _ _ => Option DateTime
  | .containerStatus _ => Json
  | .podStatus _ => Json

abbrev ProviderSig : Sig where
  Op := ProviderOp
  Ans o := Except AppError o.Row

/-! ## The host -/

/-- The types of the D-Bus properties that are read. -/
inductive PropertyType where
  | string
  | u64
  | u32
  | bool
  | paths
  | names
  deriving DecidableEq, Repr

def PropertyType.Val : PropertyType → Type
  | .string => String
  | .u64 => Nat
  | .u32 => Nat
  | .bool => Bool
  | .paths => List String
  | .names => List String

inductive Interface where
  | manager
  | unit
  | service
  | timer
  deriving DecidableEq, Repr

/-- A row of `ListUnits`; its following unit and its job are never looked at. -/
structure RawUnit where
  name : String
  description : String
  loadState : String
  activeState : String
  subState : String
  unitPath : String
  deriving DecidableEq, Repr

/-- How a `podman` process ends. -/
inductive CommandOutcome where
  | timedOut
  | notFound
  | failed (err : String)
  | finished (success : Bool) (stdout stderr : List UInt8)
  deriving DecidableEq, Repr

inductive HostOp where
  | connect (scope : UnitScope)
  | proxy (scope : UnitScope) (path : String) (interface : Interface)
  | listUnits (scope : UnitScope)
  | getUnit (scope : UnitScope) (unit : String)
  | property (scope : UnitScope) (path : String) (interface : Interface) (name : String)
      (type : PropertyType)
  | openJournal (scope : UnitScope)
  | joinReader
  | podman (args : List String)
  deriving DecidableEq, Repr

abbrev HostSig : Sig where
  Op := HostOp
  Ans
    | .connect _ => Except String Unit
    | .proxy _ _ _ => Except String Unit
    | .listUnits _ => Except String (List RawUnit)
    | .getUnit _ _ => Except String String
    | .property _ _ _ _ type => Except String type.Val
    | .openJournal _ => Except String Journal
    | .joinReader => Except String Unit
    | .podman _ => CommandOutcome

/-! ## The server's own -/

/-- One line of the audit log. -/
structure AuditEvent where
  method : String
  params : Json
  failure : Bool
  deriving DecidableEq, Repr

inductive ServerOp where
  | utcNow
  | audit (event : AuditEvent)
  deriving DecidableEq, Repr

abbrev ServerSig : Sig where
  Op := ServerOp
  Ans
    | .utcNow => DateTime
    | .audit _ => Unit

/-- What handlers may ask for. -/
abbrev AppSig : Sig := ProviderSig.sum ServerSig

abbrev App (α : Type) : Type := Prog AppSig α

/-- What the real providers may ask for. -/
abbrev HostProg (α : Type) : Type := Prog HostSig α

def provider (o : ProviderOp) : App (Except AppError o.Row) := Prog.call (S := AppSig) (.inl o)

def server (o : ServerOp) : App (ServerSig.Ans o) := Prog.call (S := AppSig) (.inr o)

def utcNow : App DateTime := server .utcNow

/-- `expect`: a value that must be there. -/
def expectSome {α : Type} (message : String) (value : Option α) : App α :=
  match value with
  | some value => pure value
  | none => .abort message

end SystemdMonitoring
