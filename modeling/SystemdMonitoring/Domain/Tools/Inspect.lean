/-
# `SystemdMonitoring.Domain.Tools.Inspect` — `get_unit_status` and the Podman tools

One unit, container or pod.  The unit's arguments are checked here; an
identifier of a container or a pod is checked by its provider.
-/
import SystemdMonitoring.Domain.Responses

namespace SystemdMonitoring

open Lib Lib.Text

/-! ## Units -/

structure UnitStatusParams where
  unit : String
  scope : Option String
  transitionLimit : Option Nat
  deriving DecidableEq, Repr

def decodeUnitStatusParams (arguments : Members) : Option UnitStatusParams := do
  return {
    unit := ← (Json.member arguments "unit").bind Json.asStr
    scope := ← Json.optionalMember Json.asStr arguments "scope"
    transitionLimit := ← Json.optionalMember Json.asU32 arguments "transition_limit" }

structure UnitStatusQuery where
  unit : String
  scope : UnitScope
  limit : Nat
  deriving DecidableEq, Repr

def normalizeServiceUnit (unit : String) : Except AppError String :=
  match normalizeUnit (some unit) with
  | .ok (some value) =>
      if endsWith ".service" value then .ok value
      else .error (.badRequest "invalid_unit" "unit must be a valid .service name")
  | _ => .error (.badRequest "invalid_unit" "unit must be a valid .service name")

/-- A scope with one manager; anything else is wrong, whatever is wrong with it. -/
def normalizeConcreteScope (message : String) (scope : Option String) : Except AppError UnitScope :=
  match normalizeScope scope with
  | .ok .system => .ok .system
  | .ok .user => .ok .user
  | _ => .error (.badRequest "invalid_scope" message)

def normalizeTransitionLimit (limit : Option Nat) : Except AppError Nat :=
  let limit := limit.getD 20
  if 1 ≤ limit ∧ limit ≤ 100 then .ok limit
  else
    .error (.badRequest "invalid_transition_limit" "transition_limit must be between 1 and 100")

/-- The checks of `get_unit_status`, in their order. -/
def normalizeUnitStatusQuery (arguments : Option Members) :
    Except NormalizeError UnitStatusQuery := do
  let params ← decoded (decodeUnitStatusParams (arguments.getD []))
  let unit ← (normalizeServiceUnit params.unit).mapError .domain
  let scope ← (normalizeConcreteScope "scope must be system or user" params.scope).mapError .domain
  let limit ← (normalizeTransitionLimit params.transitionLimit).mapError .domain
  return { unit := unit, scope := scope, limit := limit }

theorem normalizeConcreteScope_ne_both {message : String} {scope : Option String}
    {concrete : UnitScope} (h : normalizeConcreteScope message scope = .ok concrete) :
    concrete ≠ .both := by
  rw [normalizeConcreteScope] at h
  split at h <;> cases h <;> decide

theorem normalizeUnitStatusQuery_scope {arguments : Option Members} {query : UnitStatusQuery}
    (h : normalizeUnitStatusQuery arguments = .ok query) : query.scope ≠ .both := by
  rw [normalizeUnitStatusQuery, bind_eq_ok] at h
  obtain ⟨params, -, h⟩ := h
  rw [bind_eq_ok] at h
  obtain ⟨unit, -, h⟩ := h
  rw [bind_eq_ok] at h
  obtain ⟨scope, hscope, h⟩ := h
  rw [bind_eq_ok] at h
  obtain ⟨limit, -, h⟩ := h
  cases h
  cases hconcrete : normalizeConcreteScope "scope must be system or user" params.scope with
  | error err => rw [hconcrete] at hscope; cases hscope
  | ok concrete =>
      rw [hconcrete] at hscope
      cases hscope
      exact normalizeConcreteScope_ne_both hconcrete

section Handlers

variable [McpSdk]

/-- Validates and handles `get_unit_status` for a concrete service manager scope. -/
def handleUnitStatus (id : Option Json) (arguments : Option Members) : App Json :=
  match normalizeUnitStatusQuery arguments with
  | .error err => pure (err.response id)
  | .ok query =>
      respond id (.getUnitStatus query.unit query.scope query.limit) (fun status =>
        pure (toolSuccessResponse id "Returned unit status" [("status", status)]))

/-! ## Containers and pods -/

/-- Handles `get_container_status` after strict argument decoding. -/
def handleContainer (id : Option Json) (arguments : Option Members) : App Json :=
  match (Json.member (arguments.getD []) "container").bind Json.asStr with
  | none => pure (jsonRpcInvalidParams id)
  | some container =>
      respond id (.containerStatus container) (fun status =>
        pure (toolSuccessResponse id "Returned container status" [("container", status)]))

/-- Handles `get_pod_status` after strict argument decoding. -/
def handlePod (id : Option Json) (arguments : Option Members) : App Json :=
  match (Json.member (arguments.getD []) "pod").bind Json.asStr with
  | none => pure (jsonRpcInvalidParams id)
  | some pod =>
      respond id (.podStatus pod) (fun status =>
        pure (toolSuccessResponse id "Returned pod status" [("pod", status)]))

/-! ## Answers -/

theorem toolSuccess_returns (id : Option Json) (message : String) (structuredContent : Members) :
    (pure (toolSuccessResponse id message structuredContent) : App Json).Returns (IsResult id) :=
  Prog.Returns.value ⟨_, rfl⟩

variable [LawfulMcpSdk]

theorem handleUnitStatus_answers {id : Option Json} (hid : UsableId id)
    (arguments : Option Members) :
    (handleUnitStatus id arguments).Returns (Envelope (echoedId id)) := by
  rw [handleUnitStatus]
  split
  case h_1 err _ => exact Prog.Returns.value (envelope_normalizeError id err)
  case h_2 => exact respond_answers hid fun _ => toolSuccess_returns id _ _

theorem handleContainer_answers {id : Option Json} (hid : UsableId id)
    (arguments : Option Members) :
    (handleContainer id arguments).Returns (Envelope (echoedId id)) := by
  rw [handleContainer]
  split
  · exact Prog.Returns.value (envelope_error _ _ _ _)
  · exact respond_answers hid fun _ => toolSuccess_returns id _ _

theorem handlePod_answers {id : Option Json} (hid : UsableId id) (arguments : Option Members) :
    (handlePod id arguments).Returns (Envelope (echoedId id)) := by
  rw [handlePod]
  split
  · exact Prog.Returns.value (envelope_error _ _ _ _)
  · exact respond_answers hid fun _ => toolSuccess_returns id _ _

end Handlers

end SystemdMonitoring
