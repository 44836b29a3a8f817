/-
# `SystemdMonitoring.Domain.Tools.Services` — `list_services`

Service rows filtered by state and name, ordered, cut to a limit, and either
listed or summarized.
-/
import SystemdMonitoring.Domain.Responses

namespace SystemdMonitoring

open Lib Lib.Text

structure ServicesQueryParams where
  scope : Option String
  state : Option String
  nameContains : Option String
  limit : Option Nat
  summary : Option Bool
  deriving DecidableEq, Repr

def decodeServicesQueryParams (arguments : Members) : Option ServicesQueryParams := do
  return {
    scope := ← Json.optionalMember Json.asStr arguments "scope"
    state := ← Json.optionalMember Json.asStr arguments "state"
    nameContains := ← Json.optionalMember Json.asStr arguments "name_contains"
    limit := ← Json.optionalMember Json.asU32 arguments "limit"
    summary := ← Json.optionalMember Json.asBool arguments "summary" }

structure NormalizedServicesQuery where
  scope : UnitScope
  stateFilter : Option String
  nameContainsFilter : Option String
  limit : Nat
  summaryEnabled : Bool
  deriving DecidableEq, Repr

/-- Parses and normalizes `list_services` arguments into a typed execution query. -/
def normalizeServicesQuery (arguments : Option Members) :
    Except NormalizeError NormalizedServicesQuery := do
  let queryParams ← decoded (decodeServicesQueryParams (arguments.getD []))
  let scope ← (normalizeScope queryParams.scope).mapError .domain
  let stateFilter ← (normalizeServiceState queryParams.state).mapError .domain
  let limit ← (normalizeServicesLimit queryParams.limit).mapError .domain
  return {
    scope := scope
    stateFilter := stateFilter
    nameContainsFilter := normalizeNameContains queryParams.nameContains
    limit := limit
    summaryEnabled := queryParams.summary.getD false }

/-! ## Summary -/

structure FailedUnitSummary where
  unit : String
  subState : String
  result : Option String
  sinceUtc : Option String
  deriving DecidableEq, Repr

def FailedUnitSummary.json (summary : FailedUnitSummary) : Json :=
  .obj [("unit", .str summary.unit), ("sub_state", .str summary.subState),
    ("result", jsonStr summary.result), ("since_utc", jsonStr summary.sinceUtc)]

structure ServiceSummary where
  countsByActiveState : List (String × Nat)
  failedUnits : List FailedUnitSummary
  degradedHint : Option String
  deriving DecidableEq, Repr

def ServiceSummary.json (summary : ServiceSummary) : Json :=
  .obj [("counts_by_active_state", countsJson summary.countsByActiveState),
    ("failed_units", .arr (summary.failedUnits.map FailedUnitSummary.json)),
    ("degraded_hint", jsonStr summary.degradedHint)]

/-- State counts, at most ten failed units by name, and a hint when there are any. -/
def buildServiceSummary (services : List UnitStatus) : ServiceSummary :=
  let failed := services.filter (fun service => eqIgnoreAsciiCase service.activeState "failed")
  let failedUnits := ((failed.map (fun service => {
      unit := service.unit
      subState := service.subState
      result := service.result
      sinceUtc := service.sinceUtc : FailedUnitSummary })).mergeSort
        (fun left right => left.unit ≤ right.unit)).take 10
  { countsByActiveState := tally (services.map UnitStatus.activeState)
    failedUnits := failedUnits
    degradedHint :=
      if failedUnits = [] then none
      else
        some s!"Detected {failedUnits.length} failed service(s); review failed_units for triage" }

/-! ## Handler -/

/-- The rows of a `list_services` call. -/
def serviceRows (normalized : NormalizedServicesQuery) (services : List UnitStatus) :
    Pagination UnitStatus :=
  let services := filterServicesByState services normalized.stateFilter
  let services := filterServicesByNameContains services normalized.nameContainsFilter
  paginateRows (sortServices services (decide (normalized.stateFilter = some "failed")))
    normalized.limit

section Handler

variable [Chrono] [McpSdk]

/-- The response to the provider's rows. -/
def servicesResponse (id : Option Json) (normalized : NormalizedServicesQuery)
    (services : List UnitStatus) : App Json := do
  let page := serviceRows normalized services
  let generatedAtUtc ← generatedAtUtcString
  if normalized.summaryEnabled then
    return toolSuccessResponse id "Returned service triage summary"
      [("summary", (buildServiceSummary page.rows).json), ("total", .int page.total),
        ("returned", .int page.returned), ("truncated", .bool page.truncated),
        ("generated_at_utc", .str generatedAtUtc)]
  else
    return toolSuccessResponse id s!"Returned {page.returned} of {page.total} services"
      [("services", .arr (page.rows.map (fun row => .obj row.members))),
        ("total", .int page.total), ("returned", .int page.returned),
        ("truncated", .bool page.truncated), ("generated_at_utc", .str generatedAtUtc)]

/-- Handles `list_services` tool execution. -/
def handleListServices (id : Option Json) (arguments : Option Members) : App Json :=
  match normalizeServicesQuery arguments with
  | .error err => pure (err.response id)
  | .ok normalized =>
      respond id (.listServiceUnits normalized.scope) (servicesResponse id normalized)

theorem servicesResponse_returns (id : Option Json) (normalized : NormalizedServicesQuery)
    (services : List UnitStatus) :
    (servicesResponse id normalized services).Returns (IsResult id) := by
  refine generatedAtUtcString_returns.bind fun generatedAtUtc _ => ?_
  split <;> exact Prog.Returns.value ⟨_, rfl⟩

theorem handleListServices_answers [LawfulMcpSdk] {id : Option Json} (hid : UsableId id)
    (arguments : Option Members) :
    (handleListServices id arguments).Returns (Envelope (echoedId id)) := by
  rw [handleListServices]
  split
  case h_1 err _ => exact Prog.Returns.value (envelope_normalizeError id err)
  case h_2 normalized _ => exact respond_answers hid (servicesResponse_returns id normalized)

end Handler

end SystemdMonitoring
