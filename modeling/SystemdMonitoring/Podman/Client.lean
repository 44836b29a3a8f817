/-
# `SystemdMonitoring.Podman.Client` — the Podman provider on the command line

An identifier is checked before anything is started; what is accepted becomes
the one operand of a fixed `podman` command, whose outcome is mapped to the
compact document or to an error of its own.

So a rejected identifier asks the host for nothing (`inspect_of_invalid`), and
an accepted one is not called wrong afterwards (`inspect_errors`).
-/
import SystemdMonitoring.Podman.Inspect
import SystemdMonitoring.Systemd.Client

namespace SystemdMonitoring.Podman

open Lib Lib.Text

def maxOutputBytes : Nat := 2 * 1024 * 1024

inductive Kind where
  | container
  | pod
  deriving DecidableEq, Repr

def Kind.asStr : Kind → String
  | .container => "container"
  | .pod => "pod"

/-- What a target is refused with before a process is started. -/
def Kind.invalid : Kind → AppError
  | .container => .badRequest "invalid_container" "container identifier is invalid"
  | .pod => .badRequest "invalid_pod" "pod identifier is invalid"

def Kind.notFoundCode : Kind → String
  | .container => "container_not_found"
  | .pod => "pod_not_found"

def isIdentifierChar (c : Char) : Bool :=
  isAsciiAlphanumeric c || c == '.' || c == '_' || c == '-' || c == ':' || c == '@'

/-- Validates a Podman name or ID before it is supplied as one process argument. -/
def validateIdentifier (value : String) (kind : Kind) : Except AppError Unit :=
  if value = "" ∨ 256 < value.utf8ByteSize ∨ value.toList.all isIdentifierChar = false then
    .error kind.invalid
  else .ok ()

/-- What the outcome of a command means. -/
def commandResult [SerdeJson] (notFoundCode : String) (outcome : CommandOutcome) :
    Except AppError Json :=
  match outcome with
  | .timedOut => .error (.badRequest "podman_timeout" "Podman inspection timed out")
  | .notFound => .error (.badRequest "podman_unavailable" "Podman is unavailable")
  | .failed err => .error (.internalError s!"failed to execute podman: {err}")
  | .finished success stdout stderr =>
      if maxOutputBytes < stdout.length ∨ maxOutputBytes < stderr.length then
        .error (.badRequest "podman_output_too_large" "Podman returned an oversized response")
      else if !success then
        let stderr := toAsciiLowercase (fromUtf8Lossy stderr)
        if contains stderr "no such" || contains stderr "not found" then
          .error (.badRequest notFoundCode "Podman target was not found")
        else if contains stderr "cannot connect" || contains stderr "permission denied" then
          .error (.badRequest "podman_unavailable" "Podman is unavailable")
        else .error (.badRequest "podman_provider_error" "Podman inspection failed")
      else
        match SerdeJson.fromSlice stdout with
        | some value => .ok value
        | none => .error (.badRequest "podman_invalid_response" "Podman returned malformed JSON")

/-- Executes Podman directly, within its time and output bounds. -/
def runPodman [SerdeJson] (args : List String) (notFoundCode : String) : HostTry Json :=
  ExceptT.mk (do
    let outcome ← ask (.podman args)
    return commandResult notFoundCode outcome)

/-- The shape of both operations: check, inspect, project. -/
def inspect [SerdeJson] (kind : Kind) (compact : Json → Except AppError Json) (value : String) :
    HostTry Json := do
  ExceptT.mk (pure (validateIdentifier value kind))
  let raw ← runPodman [kind.asStr, "inspect", value] kind.notFoundCode
  ExceptT.mk (pure (compact raw))

def containerStatus [SerdeJson] (container : String) : HostTry Json :=
  inspect .container compactContainer container

def podStatus [SerdeJson] (pod : String) : HostTry Json := inspect .pod compactPod pod

/-! ## What can go wrong -/

theorem inspect_of_invalid [SerdeJson] {kind : Kind} {value : String} {e : AppError}
    (h : validateIdentifier value kind = .error e) (compact : Json → Except AppError Json) :
    (inspect kind compact value).run = pure (.error e) := by
  rw [inspect, h]
  rfl

theorem commandResult_error [SerdeJson] {notFoundCode : String} {outcome : CommandOutcome}
    {e : AppError} (hcode : notFoundCode ∉ argumentCodes)
    (h : commandResult notFoundCode outcome = .error e) : e.isRejection = false := by
  cases outcome with
  | timedOut => cases h; decide
  | notFound => cases h; decide
  | failed err => cases h; rfl
  | finished success stdout stderr =>
      simp only [commandResult] at h
      split at h
      · cases h; decide
      · split at h
        · split at h
          · cases h
            exact decide_eq_false hcode
          · split at h <;> cases h <;> decide
        · split at h <;> cases h
          decide

theorem firstObject_error {value : Json} {e : AppError} (h : firstObject value = .error e) :
    e.isRejection = false := by
  rw [firstObject] at h
  split at h <;> cases h
  decide

theorem compactContainer_error {raw : Json} {e : AppError} (h : compactContainer raw = .error e) :
    e.isRejection = false := by
  rw [compactContainer, bind_eq_error] at h
  rcases h with h | ⟨object, -, h⟩
  · exact firstObject_error h
  · cases h

theorem compactPod_error {raw : Json} {e : AppError} (h : compactPod raw = .error e) :
    e.isRejection = false := by
  rw [compactPod, bind_eq_error] at h
  rcases h with h | ⟨object, -, h⟩
  · exact firstObject_error h
  · cases h

/-- Behind the check no error says that the identifier is wrong. -/
theorem inspect_errors [SerdeJson] {kind : Kind} {value : String}
    (h : validateIdentifier value kind = .ok ()) {compact : Json → Except AppError Json}
    (hcompact : ∀ raw e, compact raw = .error e → e.isRejection = false) :
    ErrorsIn (fun e => e.isRejection = false) (inspect kind compact value) := by
  have hcode : kind.notFoundCode ∉ argumentCodes := by cases kind <;> decide
  rw [inspect, h]
  refine ErrorsIn.bind (.of_pure ()) fun _ => ErrorsIn.bind ?_ fun raw =>
    Prog.Returns.value fun e => hcompact raw e
  exact (returns_ask _).bind fun outcome _ =>
    Prog.Returns.value fun e => commandResult_error hcode

theorem inspect_returns [SerdeJson] (kind : Kind) (compact : Json → Except AppError Json)
    (value : String) : (inspect kind compact value).run.Returns (fun _ => True) := by
  cases hvalue : validateIdentifier value kind with
  | error e =>
      rw [inspect_of_invalid hvalue]
      exact Prog.Returns.value trivial
  | ok _ =>
      rw [inspect, hvalue]
      exact ErrorsIn.returns (P := fun _ => True) (.bind (.of_pure ()) fun _ =>
        .bind ((returns_ask _).bind fun _ _ => Prog.Returns.value fun _ _ => trivial)
          fun _ => Prog.Returns.value fun _ _ => trivial)

end SystemdMonitoring.Podman
