/-
# `SystemdMonitoring.Domain.Course` — the course of a call

All handlers go one way: they check their arguments, ask a provider, respond to
its rows, and may look at the clock; in the end there is a result or an error.
`Course` is that shape, with what is asked and what is refused left open, so that
a property of the shape is a property of all tools and resources: what they ask
for is then read off the handlers once (`handleToolsCall_course`,
`handleResourcesRead_course`).
-/
import SystemdMonitoring.Domain.Resources
import SystemdMonitoring.Domain.Tools

namespace SystemdMonitoring

open Lib

/-! ## The shape -/

/-- What is not found: no tool of that name, no resource at that URI. -/
inductive Unknown : Json → Prop where
  | tool (name : String) : Unknown (toolNotFound name)
  | resource (uri : String) : Unknown (resourceNotFound uri)

section Shape

variable [McpSdk]

/-- A handler that asks the providers for what `Asks` says and refuses with what `Refuses` says. -/
inductive Course (id : Option Json) (Asks : ProviderOp → Prop) (Refuses : AppError → Prop) :
    App Json → Prop where
  | result (value : Json) : Course id Asks Refuses (pure (jsonRpcResult id value))
  | malformed : Course id Asks Refuses (pure (jsonRpcInvalidParams id))
  | unknown {data : Json} (h : Unknown data) :
      Course id Asks Refuses (pure (jsonRpcMethodNotFoundWithData id data))
  | refused {err : AppError} (h : Refuses err) :
      Course id Asks Refuses (pure (appErrorToJsonRpc id err))
  | now {k : DateTime → App Json} (h : ∀ now, Course id Asks Refuses (k now)) :
      Course id Asks Refuses (utcNow >>= k)
  | asked {o : ProviderOp} {onRow : o.Row → App Json} (ho : Asks o)
      (h : ∀ row, Course id Asks Refuses (onRow row)) :
      Course id Asks Refuses (respond id o onRow)

variable {id : Option Json} {Asks : ProviderOp → Prop} {Refuses : AppError → Prop}

theorem Course.stamped [Chrono] {k : String → App Json}
    (h : ∀ generatedAtUtc, Course id Asks Refuses (k generatedAtUtc)) :
    Course id Asks Refuses (generatedAtUtcString >>= k) :=
  .now fun _ => h _

theorem Course.normalizeError {err : NormalizeError}
    (h : ∀ refusal, err = .domain refusal → Refuses refusal) :
    Course id Asks Refuses (pure (err.response id)) := by
  cases err with
  | invalidParams => exact .malformed
  | domain refusal => exact .refused (h refusal rfl)

end Shape

/-! ## Tools -/

/-- What a tool asks the providers for, by its arguments. -/
inductive ToolAsks [Chrono] (arguments : Option Members) : String → ProviderOp → Prop where
  | listServices {normalized : NormalizedServicesQuery}
      (h : normalizeServicesQuery arguments = .ok normalized) :
      ToolAsks arguments "list_services" (.listServiceUnits normalized.scope)
  | listTimers {normalized : NormalizedTimersQuery}
      (h : normalizeTimersQuery arguments = .ok normalized) :
      ToolAsks arguments "list_timers" (.listTimerUnits normalized.scope)
  | listLogs {normalized : NormalizedLogsQuery}
      (h : normalizeLogsQuery (arguments.getD []) = .ok normalized) :
      ToolAsks arguments "list_logs" (.listJournalLogs normalized.query)
  | lookup {unit : String} {scope : UnitScope}
      (h : startLookup (arguments.getD []) = .ok (some (unit, scope))) :
      ToolAsks arguments "list_logs" (.unitMainStart unit scope)
  | logsFromStart {unit : String} {scope : UnitScope} {start : DateTime}
      {normalized : NormalizedLogsQuery}
      (hlookup : startLookup (arguments.getD []) = .ok (some (unit, scope)))
      (h : normalizeLogsQuery (withStart (arguments.getD []) start) = .ok normalized) :
      ToolAsks arguments "list_logs" (.listJournalLogs normalized.query)
  | unitStatus {query : UnitStatusQuery} (h : normalizeUnitStatusQuery arguments = .ok query) :
      ToolAsks arguments "get_unit_status" (.getUnitStatus query.unit query.scope query.limit)
  | container {container : String}
      (h : (Json.member (arguments.getD []) "container").bind Json.asStr = some container) :
      ToolAsks arguments "get_container_status" (.containerStatus container)
  | pod {pod : String}
      (h : (Json.member (arguments.getD []) "pod").bind Json.asStr = some pod) :
      ToolAsks arguments "get_pod_status" (.podStatus pod)

/-- What the arguments of a tool are refused with. -/
inductive ToolRefuses [Chrono] (arguments : Option Members) : AppError → Prop where
  | services {err : AppError} (h : normalizeServicesQuery arguments = .error (.domain err)) :
      ToolRefuses arguments err
  | timers {err : AppError} (h : normalizeTimersQuery arguments = .error err) :
      ToolRefuses arguments err
  | logs {members : Members} {err : AppError}
      (h : normalizeLogsQuery members = .error (.domain err)) : ToolRefuses arguments err
  | lookup {err : AppError} (h : startLookup (arguments.getD []) = .error err) :
      ToolRefuses arguments err
  | noStart : ToolRefuses arguments
      (.badRequest "unit_start_unavailable" "unit main-process start is unavailable")
  | unitStatus {err : AppError} (h : normalizeUnitStatusQuery arguments = .error (.domain err)) :
      ToolRefuses arguments err

section Tools

variable [McpSdk]

/-- The course of a tool's call. -/
abbrev ToolCourse [Chrono] (id : Option Json) (name : String) (arguments : Option Members) :
    App Json → Prop :=
  Course id (ToolAsks arguments name) (ToolRefuses arguments)

variable [Chrono] (id : Option Json) (arguments : Option Members)

theorem handleListServices_course :
    ToolCourse id "list_services" arguments (handleListServices id arguments) := by
  rw [handleListServices]
  split
  case h_1 err herr =>
    refine .normalizeError ?_
    rintro refusal rfl
    exact .services herr
  case h_2 normalized hnormalized =>
    refine .asked (.listServices hnormalized) ?_
    intro services
    refine .stamped ?_
    intro generatedAtUtc
    split <;> exact .result _

theorem handleListTimers_course :
    ToolCourse id "list_timers" arguments (handleListTimers id arguments) := by
  rw [handleListTimers]
  split
  case h_1 err herr => exact .refused (.timers herr)
  case h_2 normalized hnormalized =>
    refine .asked (.listTimers hnormalized) ?_
    intro timers
    refine .now ?_
    intro now
    refine .stamped ?_
    intro generatedAtUtc
    split <;> exact .result _

theorem handleUnitStatus_course :
    ToolCourse id "get_unit_status" arguments (handleUnitStatus id arguments) := by
  rw [handleUnitStatus]
  split
  case h_1 err herr =>
    refine .normalizeError ?_
    rintro refusal rfl
    exact .unitStatus herr
  case h_2 query hquery => exact .asked (.unitStatus hquery) fun _ => .result _

theorem handleContainer_course :
    ToolCourse id "get_container_status" arguments (handleContainer id arguments) := by
  rw [handleContainer]
  split
  case h_1 => exact .malformed
  case h_2 container hcontainer => exact .asked (.container hcontainer) fun _ => .result _

theorem handlePod_course :
    ToolCourse id "get_pod_status" arguments (handlePod id arguments) := by
  rw [handlePod]
  split
  case h_1 => exact .malformed
  case h_2 pod hpod => exact .asked (.pod hpod) fun _ => .result _

variable [HashOrder]

/-- The journal is asked for what the arguments come to. -/
theorem queryLogs_course {members : Members}
    (hasks : ∀ normalized, normalizeLogsQuery members = .ok normalized →
      ToolAsks arguments "list_logs" (.listJournalLogs normalized.query)) :
    ToolCourse id "list_logs" arguments (queryLogs id members) := by
  rw [queryLogs]
  split
  case h_1 err herr =>
    refine .normalizeError ?_
    rintro refusal rfl
    exact .logs herr
  case h_2 normalized hnormalized =>
    obtain ⟨start, finish, hvalid⟩ := normalizeLogsQuery_valid hnormalized
    refine .asked (hasks normalized hnormalized) ?_
    intro result
    refine .stamped ?_
    intro generatedAtUtc
    -- the bounds that are expected of the query are there
    rw [hvalid.startUtc, hvalid.endUtc]
    dsimp only [expectSome]
    rw [Prog.pure_bind, Prog.pure_bind]
    split <;> exact .result _

theorem handleListLogs_course :
    ToolCourse id "list_logs" arguments (handleListLogs id arguments) := by
  rw [handleListLogs]
  split
  case h_1 err herr => exact .refused (.lookup herr)
  case h_2 => exact queryLogs_course id arguments fun _ h => .listLogs h
  case h_3 unit scope hlookup =>
    refine .asked (.lookup hlookup) ?_
    intro start
    cases start with
    | some start => exact queryLogs_course id arguments fun _ h => .logsFromStart hlookup h
    | none => exact .refused .noStart

/-- **Every tool call takes its tool's course**, or is refused as malformed or unknown. -/
theorem handleToolsCall_course (params : Option Json) :
    handleToolsCall id params = pure (jsonRpcInvalidParams id)
      ∨ ∃ name arguments, params.bind McpSdk.callToolRequestParams = some (name, arguments)
        ∧ ToolCourse id name arguments (handleToolsCall id params) := by
  rw [handleToolsCall]
  split
  case h_1 => exact .inl rfl
  case h_2 name arguments hparams =>
    refine .inr ⟨name, arguments, hparams, ?_⟩
    split
    case h_1 handler hhandler =>
      unfold toolHandler at hhandler
      split at hhandler <;> cases hhandler
      · exact handleListServices_course id arguments
      · exact handleUnitStatus_course id arguments
      · exact handleContainer_course id arguments
      · exact handlePod_course id arguments
      · exact handleListTimers_course id arguments
      · exact handleListLogs_course id arguments
    case h_2 => exact .unknown (.tool name)

end Tools

/-! ## Resources -/

/-- What a resource asks the providers for. -/
inductive ResourceAsks : String → ProviderOp → Prop where
  | services : ResourceAsks servicesResourceUri (.listServiceUnits .system)
  | failedServices : ResourceAsks failedServicesResourceUri (.listServiceUnits .system)
  | logs (now : DateTime) : ResourceAsks logsResourceUri (.listJournalLogs (recentLogsQuery now))

/-- Resources have no arguments to refuse. -/
theorem handleResourcesRead_course [McpSdk] [SerdeJson] (id params : Option Json) :
    handleResourcesRead id params = pure (jsonRpcInvalidParams id)
      ∨ ∃ uri, params.bind McpSdk.readResourceRequestParams = some uri
        ∧ Course id (ResourceAsks uri) (fun _ => False) (handleResourcesRead id params) := by
  rw [handleResourcesRead]
  split
  case h_1 => exact .inl rfl
  case h_2 uri huri =>
    refine .inr ⟨uri, huri, ?_⟩
    split
    case isTrue h =>
      subst h
      exact .asked .services fun _ => .result _
    case isFalse =>
      split
      case isTrue h =>
        subst h
        exact .asked .failedServices fun _ => .result _
      case isFalse =>
        split
        case isTrue h =>
          subst h
          exact .now fun now => .asked (.logs now) fun _ => .result _
        case isFalse => exact .unknown (.resource uri)

end SystemdMonitoring
