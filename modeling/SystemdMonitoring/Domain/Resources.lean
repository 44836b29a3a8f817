/-
# `SystemdMonitoring.Domain.Resources` — fixed snapshot resources
-/
import SystemdMonitoring.Domain.Responses

namespace SystemdMonitoring

open Lib

def servicesResourceUri : String := "resource://services/snapshot"
def failedServicesResourceUri : String := "resource://services/failed"
def logsResourceUri : String := "resource://logs/recent"

/-- Builds the MCP resource catalog exposed by `resources/list`. -/
def buildResourcesList : List Resource :=
  [{ name := "Service Snapshot"
     description := "Current systemd service statuses"
     mimeType := "application/json"
     uri := servicesResourceUri },
   { name := "Failed Service Snapshot"
     description := "Current failed systemd service statuses"
     mimeType := "application/json"
     uri := failedServicesResourceUri },
   { name := "Recent Logs Snapshot"
     description := "Recent journald logs for the last hour"
     mimeType := "application/json"
     uri := logsResourceUri }]

/-- The log query of the last hour. -/
def recentLogsQuery (now : DateTime) : LogQuery where
  scope := .system
  priority := none
  unit := none
  excludeUnits := []
  grep := none
  order := .desc
  startUtc := some (now.addDelta (-(3600 * DateTime.secondNanos)))
  endUtc := some now
  limit := defaultLogLimit
  cursor := none

def resourceNotFound (uri : String) : Json :=
  errorData "resource_not_found" "unknown resource uri" (.obj [("uri", .str uri)])

def servicesJson (services : List UnitStatus) : Json :=
  .obj [("services", .arr (services.map (fun row => .obj row.members)))]

/-- Handles MCP `resources/read` requests for fixed snapshot resources. -/
def handleResourcesRead [McpSdk] [SerdeJson] (id : Option Json) (params : Option Json) :
    App Json :=
  match params.bind McpSdk.readResourceRequestParams with
  | none => pure (jsonRpcInvalidParams id)
  | some uri =>
      if uri = servicesResourceUri then
        respond id (.listServiceUnits .system) (fun services =>
          pure (jsonTextResourceResponse id servicesResourceUri (servicesJson services)))
      else if uri = failedServicesResourceUri then
        respond id (.listServiceUnits .system) (fun services =>
          pure (jsonTextResourceResponse id failedServicesResourceUri
            (servicesJson (filterServicesByState services (some "failed")))))
      else if uri = logsResourceUri then do
        let now ← utcNow
        respond id (.listJournalLogs (recentLogsQuery now)) (fun result =>
          pure (jsonTextResourceResponse id logsResourceUri
            (.obj [("logs", .arr (result.entries.map (fun entry => .obj entry.members)))])))
      else pure (jsonRpcMethodNotFoundWithData id (resourceNotFound uri))

theorem handleResourcesRead_answers [McpSdk] [LawfulMcpSdk] [SerdeJson] {id : Option Json}
    (hid : UsableId id) (params : Option Json) :
    (handleResourcesRead id params).Returns (Envelope (echoedId id)) := by
  have hresult : ∀ uri content, (pure (jsonTextResourceResponse id uri content) : App Json).Returns
      (IsResult id) := fun _ _ => Prog.Returns.value ⟨_, rfl⟩
  rw [handleResourcesRead]
  split
  · exact Prog.Returns.value (envelope_error _ _ _ _)
  · split
    · exact respond_answers hid fun _ => hresult _ _
    · split
      · exact respond_answers hid fun _ => hresult _ _
      · split
        · exact fun now => respond_answers hid fun _ => hresult _ _
        · exact Prog.Returns.value (envelope_error _ _ _ _)

end SystemdMonitoring
