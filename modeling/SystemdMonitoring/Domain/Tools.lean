/-
# `SystemdMonitoring.Domain.Tools` — the tool catalog and its dispatch
-/
import SystemdMonitoring.Domain.Tools.Services
import SystemdMonitoring.Domain.Tools.Timers
import SystemdMonitoring.Domain.Tools.Logs

namespace SystemdMonitoring

open Lib

/-! ## Catalog -/

def optionalArguments (arguments : List (String × ArgumentType)) : List ToolArgument :=
  arguments.map (fun argument => ⟨argument.1, argument.2, false⟩)

def listServicesTool : Tool where
  name := "list_services"
  description := "List systemd service units and current state. " ++
    "Optional filters should be omitted when unset. scope accepts system, user, " ++
    "or both and defaults to system. state accepts active, inactive, failed, " ++
    "activating, deactivating, or reloading. limit accepts 1-1000 and defaults to 200."
  arguments := optionalArguments [("scope", .string), ("state", .string),
    ("name_contains", .string), ("limit", .u32), ("summary", .bool)]

def listTimersTool : Tool where
  name := "list_timers"
  description := "List systemd timer units and scheduling/trigger state. " ++
    "Optional filters should be omitted when unset. scope accepts system, user, " ++
    "or both and defaults to system. state is a non-empty active-state filter. " ++
    "sort accepts next, last, name, or state and defaults to name; order accepts " ++
    "asc or desc and defaults to asc. limit accepts 1-1000 and defaults to 200."
  arguments := optionalArguments [("scope", .string), ("limit", .u32), ("name_contains", .string),
    ("state", .string), ("summary", .bool), ("include_persistent", .bool),
    ("overdue_only", .bool), ("sort", .string), ("order", .string)]

def listLogsTool : Tool where
  name := "list_logs"
  description := "List journald logs with filters and bounds. " ++
    "Optional filters must be omitted when unset: do not send priority=\".*\" " ++
    "for all priorities, and do not send unit=\"\" for all units. " ++
    "priority accepts journald severity thresholds 0-7 and aliases: emerg, alert, " ++
    "crit, err, warning, notice, info, debug. Use grep for message substring or " ++
    "regex-lite matching. start_utc is required unless since_last_start=true; " ++
    "when since_last_start=true, omit start_utc and provide exactly one unit."
  arguments := optionalArguments [("scope", .string), ("priority", .string), ("unit", .string),
      ("start_utc", .string)]
    ++ [⟨"end_utc", .string, true⟩]
    ++ optionalArguments [("grep", .string), ("exclude_units", .strings), ("order", .string),
      ("allow_large_window", .bool), ("limit", .u32), ("summary", .bool), ("cursor", .string),
      ("fields", .strings), ("group_by", .string), ("since_last_start", .bool)]

def getUnitStatusTool : Tool where
  name := "get_unit_status"
  description :=
    "Inspect one systemd service with direct dependency failures and recent transitions."
  arguments := [⟨"unit", .string, true⟩]
    ++ optionalArguments [("scope", .string), ("transition_limit", .u32)]

def getContainerStatusTool : Tool where
  name := "get_container_status"
  description := "Inspect one local Podman container using a read-only bounded CLI call. " ++
    "Commands and health checks are credential-redacted; raw create commands and host mount " ++
    "sources are omitted."
  arguments := [⟨"container", .string, true⟩]

def getPodStatusTool : Tool where
  name := "get_pod_status"
  description := "Inspect one local Podman pod using a read-only bounded CLI call."
  arguments := [⟨"pod", .string, true⟩]

/-- Builds the advertised MCP tool catalog returned by `tools/list`. -/
def buildToolsList : List Tool :=
  [listServicesTool, listTimersTool, listLogsTool, getUnitStatusTool, getContainerStatusTool,
    getPodStatusTool]

/-! ## Dispatch -/

section Dispatch

variable [Chrono] [McpSdk] [HashOrder]

/-- The handler of a tool's name. -/
def toolHandler (name : String) : Option (Option Json → Option Members → App Json) :=
  match name with
  | "list_services" => some handleListServices
  | "get_unit_status" => some handleUnitStatus
  | "get_container_status" => some handleContainer
  | "get_pod_status" => some handlePod
  | "list_timers" => some handleListTimers
  | "list_logs" => some handleListLogs
  | _ => none

def toolNotFound (name : String) : Json :=
  errorData "tool_not_found" "unknown tool name" (.obj [("name", .str name)])

/-- Handles MCP `tools/call` requests and dispatches to supported tool handlers. -/
def handleToolsCall (id : Option Json) (params : Option Json) : App Json :=
  match params.bind McpSdk.callToolRequestParams with
  | none => pure (jsonRpcInvalidParams id)
  | some (name, arguments) =>
      match toolHandler name with
      | some handler => handler id arguments
      | none => pure (jsonRpcMethodNotFoundWithData id (toolNotFound name))

theorem toolHandler_answers [LawfulMcpSdk] {name : String}
    {handler : Option Json → Option Members → App Json} (h : toolHandler name = some handler)
    {id : Option Json} (hid : UsableId id) (arguments : Option Members) :
    (handler id arguments).Returns (Envelope (echoedId id)) := by
  unfold toolHandler at h
  split at h <;> cases h
  · exact handleListServices_answers hid arguments
  · exact handleUnitStatus_answers hid arguments
  · exact handleContainer_answers hid arguments
  · exact handlePod_answers hid arguments
  · exact handleListTimers_answers hid arguments
  · exact handleListLogs_answers hid arguments

theorem handleToolsCall_answers [LawfulMcpSdk] {id : Option Json} (hid : UsableId id)
    (params : Option Json) : (handleToolsCall id params).Returns (Envelope (echoedId id)) := by
  rw [handleToolsCall]
  split
  · exact Prog.Returns.value (envelope_error _ _ _ _)
  · split
    case h_1 handler hhandler => exact toolHandler_answers hhandler hid _
    case h_2 => exact Prog.Returns.value (envelope_error _ _ _ _)

end Dispatch

end SystemdMonitoring
