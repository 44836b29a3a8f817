/-
# `SystemdMonitoring.Domain.Tools.Logs` — `list_logs`

With `since_last_start` the start of the window comes from the unit's provider,
and only then are the other arguments looked at; without it they are all
checked first.  The rows of a page are listed, grouped by message, or
summarized.

The hash maps of the summary are iterated in an order that nothing promises:
`HashOrder` is that order.
-/
import SystemdMonitoring.Domain.Tools.Inspect

namespace SystemdMonitoring

open Lib Lib.Text

/-! ## Arguments -/

def decodeLogsQueryParams (arguments : Members) : Option LogsQueryParams := do
  return {
    scope := ← Json.optionalMember Json.asStr arguments "scope"
    priority := ← Json.optionalMember Json.asStr arguments "priority"
    unit := ← Json.optionalMember Json.asStr arguments "unit"
    startUtc := ← Json.optionalMember Json.asStr arguments "start_utc"
    endUtc := ← Json.optionalMember Json.asStr arguments "end_utc"
    grep := ← Json.optionalMember Json.asStr arguments "grep"
    excludeUnits := ← Json.optionalMember Json.asStrings arguments "exclude_units"
    order := ← Json.optionalMember Json.asStr arguments "order"
    allowLargeWindow := ← Json.optionalMember Json.asBool arguments "allow_large_window"
    limit := ← Json.optionalMember Json.asU32 arguments "limit"
    summary := ← Json.optionalMember Json.asBool arguments "summary"
    cursor := ← Json.optionalMember Json.asStr arguments "cursor"
    fields := ← Json.optionalMember Json.asStrings arguments "fields"
    groupBy := ← Json.optionalMember Json.asStr arguments "group_by"
    sinceLastStart := ← Json.optionalMember Json.asBool arguments "since_last_start" }

def allLogFields : List String :=
  ["timestamp_utc", "unit", "priority", "hostname", "pid", "message", "cursor"]

/-- Validates the optional log field projection and rejects duplicates. -/
def normalizeFields (fields : Option (List String)) : Except AppError (List String) :=
  let fields := fields.getD allLogFields
  if fields = [] then .error (.badRequest "invalid_fields" "fields must not be empty")
  else if fields.all (allLogFields.contains ·) && decide fields.Nodup then .ok fields
  else .error (.badRequest "invalid_fields" "fields must be unique supported log fields")

/-- Validates page-local grouping selection. -/
def normalizeGroupBy (groupBy : Option String) : Except AppError Bool :=
  match groupBy with
  | none => .ok false
  | some "message" => .ok true
  | some _ => .error (.badRequest "invalid_group_by" "group_by must be message")

structure NormalizedLogsQuery where
  query : LogQuery
  summaryEnabled : Bool
  fields : List String
  groupByMessage : Bool
  deriving DecidableEq, Repr

/-- Parses and normalizes `list_logs` arguments into a typed execution query. -/
def normalizeLogsQuery [Chrono] (arguments : Members) :
    Except NormalizeError NormalizedLogsQuery := do
  let queryParams ← decoded (decodeLogsQueryParams arguments)
  let fields ← (normalizeFields queryParams.fields).mapError .domain
  let groupByMessage ← (normalizeGroupBy queryParams.groupBy).mapError .domain
  let query ← (buildLogQuery queryParams).mapError .domain
  return {
    query := query
    summaryEnabled := queryParams.summary.getD false
    fields := fields
    groupByMessage := groupByMessage }

/-- With `since_last_start`, the unit whose start is looked up, and its scope. -/
def startLookup (arguments : Members) : Except AppError (Option (String × UnitScope)) :=
  if (Json.member arguments "since_last_start").bind Json.asBool = some true then
    if (Json.member arguments "start_utc").isSome then
      .error (.badRequest "invalid_time_range" "start_utc must be omitted with since_last_start")
    else
      match normalizeUnit ((Json.member arguments "unit").bind Json.asStr) with
      | .ok (some unit) => do
          let scope ← normalizeConcreteScope
            "since_last_start requires one unit and system or user scope"
            ((Json.member arguments "scope").bind Json.asStr)
          return some (unit, scope)
      | _ => .error (.badRequest "invalid_unit" "since_last_start requires exactly one unit")
  else .ok none

/-- The arguments with the start that has been looked up. -/
def withStart [Chrono] (arguments : Members) (start : DateTime) : Members :=
  Json.setMember arguments "start_utc" (.str (Chrono.toRfc3339Millis start))

/-! ## Summary -/

/-- The iteration order of hash maps: that of the `n`-th map. -/
class HashOrder where
  iterate : Nat → List (String × Nat) → List (String × Nat)
  perm : ∀ n counts, (iterate n counts).Perm counts

/-- Maps that are iterated in the order of their names. -/
@[reducible] def nameOrder : HashOrder where
  iterate := fun _ counts => counts
  perm := fun _ _ => List.Perm.refl _

structure LogSummary where
  countsByUnit : List (String × Nat)
  countsByPriority : List (String × Nat)
  topMessages : List (String × Nat)
  errorHotspots : List (String × Nat)
  deriving DecidableEq, Repr

def LogSummary.json (summary : LogSummary) : Json :=
  .obj [("counts_by_unit", countsJson summary.countsByUnit),
    ("counts_by_priority", countsJson summary.countsByPriority),
    ("top_messages", .arr (summary.topMessages.map (fun entry =>
      .obj [("message", .str entry.1), ("count", .int entry.2)]))),
    ("error_hotspots", .arr (summary.errorHotspots.map (fun entry =>
      .obj [("unit", .str entry.1), ("error_count", .int entry.2)])))]

/-- Greater counts first, then by name. -/
def byCount (counts : List (String × Nat)) : List (String × Nat) :=
  counts.mergeSort (fun left right =>
    if left.2 = right.2 then left.1 ≤ right.1 else right.2 < left.2)

def byName (counts : List (String × Nat)) : List (String × Nat) :=
  counts.mergeSort (fun left right => left.1 ≤ right.1)

def isErrorEntry (entry : JournalLogEntry) : Bool :=
  (entry.priority.bind (parseUnsigned 255)).any (fun priority => priority ≤ 3)

/-- Top units and messages, priority counts, and error hotspots. -/
def buildLogSummary [HashOrder] (entries : List JournalLogEntry) : LogSummary :=
  let units := HashOrder.iterate 0 (tally (entries.filterMap JournalLogEntry.unit))
  let priorities := HashOrder.iterate 1
    (tally (entries.map (fun entry => entry.priority.getD "unknown")))
  let messages := HashOrder.iterate 2 (tally (entries.filterMap JournalLogEntry.message))
  let hotspots := HashOrder.iterate 3
    (tally ((entries.filter isErrorEntry).filterMap JournalLogEntry.unit))
  { countsByUnit := byName ((byCount units).take 10)
    countsByPriority := byName priorities
    topMessages := (byCount messages).take 10
    errorHotspots := byCount hotspots }

/-! ## Rows -/

/-- Projects one typed journal row into requested public fields. -/
def projectEntry (entry : JournalLogEntry) (fields : List String) : Members :=
  fields.filterMap (fun field =>
    (Json.member entry.members field).map (fun value => (field, value)))

structure LogGroup where
  unit : Option String
  priority : Option String
  message : Option String
  count : Nat
  firstTimestampUtc : String
  lastTimestampUtc : String
  row : Members

def LogGroup.json (group : LogGroup) : Json :=
  .obj (Json.setMember (Json.setMember (Json.setMember group.row "count" (.int group.count))
    "first_timestamp_utc" (.str group.firstTimestampUtc))
    "last_timestamp_utc" (.str group.lastTimestampUtc))

/-- Counts an entry in the first group it belongs to, or in a new one at the end. -/
def groupEntry (fields : List String) (entry : JournalLogEntry) : List LogGroup → List LogGroup
  | [] =>
      [{ unit := entry.unit
         priority := entry.priority
         message := entry.message
         count := 1
         firstTimestampUtc := entry.timestampUtc
         lastTimestampUtc := entry.timestampUtc
         row := projectEntry entry fields }]
  | group :: groups =>
      if group.unit = entry.unit ∧ group.priority = entry.priority ∧ group.message = entry.message
      then
        { group with
          count := group.count + 1
          firstTimestampUtc :=
            if entry.timestampUtc < group.firstTimestampUtc then entry.timestampUtc
            else group.firstTimestampUtc
          lastTimestampUtc :=
            if group.lastTimestampUtc < entry.timestampUtc then entry.timestampUtc
            else group.lastTimestampUtc } :: groups
      else group :: groupEntry fields entry groups

/-- Groups a raw page by unit, priority and message while preserving first-seen order. -/
def groupEntries (entries : List JournalLogEntry) (fields : List String) : List Json :=
  (entries.foldl (fun groups entry => groupEntry fields entry groups) []).map LogGroup.json

/-! ## Handler -/

section Handler

variable [Chrono] [McpSdk] [HashOrder]

/-- The response to a journal query's result. -/
def logsResponse (id : Option Json) (normalized : NormalizedLogsQuery) (result : LogQueryResult) :
    App Json := do
  let detailedRows :=
    if normalized.groupByMessage then groupEntries result.entries normalized.fields
    else result.entries.map (fun entry => .obj (projectEntry entry normalized.fields))
  let returned := if normalized.groupByMessage then detailedRows.length else result.entries.length
  let generatedAtUtc ← generatedAtUtcString
  let startUtc ← expectSome "validated start_utc" normalized.query.startUtc
  let endUtc ← expectSome "validated end_utc" normalized.query.endUtc
  let window := Json.obj [("start_utc", .str (Chrono.toRfc3339Millis startUtc)),
    ("end_utc", .str (Chrono.toRfc3339Millis endUtc))]
  if normalized.summaryEnabled then
    return toolSuccessResponse id "Returned logs triage summary"
      [("summary", (buildLogSummary result.entries).json),
        ("total_scanned", jsonNat result.totalScanned), ("returned", .int result.entries.length),
        ("truncated", .bool result.hasMore), ("next_cursor", jsonStr result.nextCursor),
        ("generated_at_utc", .str generatedAtUtc), ("window", window)]
  else
    return toolSuccessResponse id s!"Returned {returned} log entries"
      [(if normalized.groupByMessage then "groups" else "logs", .arr detailedRows),
        ("total_scanned", jsonNat result.totalScanned), ("returned", .int returned),
        ("truncated", .bool result.hasMore), ("next_cursor", jsonStr result.nextCursor),
        ("generated_at_utc", .str generatedAtUtc), ("window", window)]

/-- The call once its start is settled. -/
def queryLogs (id : Option Json) (arguments : Members) : App Json :=
  match normalizeLogsQuery arguments with
  | .error err => pure (err.response id)
  | .ok normalized => respond id (.listJournalLogs normalized.query) (logsResponse id normalized)

/-- The call with the start that the provider has found. -/
def logsFromStart (id : Option Json) (arguments : Members) : Option DateTime → App Json
  | some start => queryLogs id (withStart arguments start)
  | none => pure (appErrorToJsonRpc id
      (.badRequest "unit_start_unavailable" "unit main-process start is unavailable"))

/-- Handles `list_logs` tool execution. -/
def handleListLogs (id : Option Json) (arguments : Option Members) : App Json :=
  match startLookup (arguments.getD []) with
  | .error err => pure (appErrorToJsonRpc id err)
  | .ok none => queryLogs id (arguments.getD [])
  | .ok (some (unit, scope)) =>
      respond id (.unitMainStart unit scope) (logsFromStart id (arguments.getD []))

/-! ## Answers -/

omit [McpSdk] [HashOrder] in
/-- A query that is carried out has been built, with both of its bounds. -/
theorem normalizeLogsQuery_valid {arguments : Members} {normalized : NormalizedLogsQuery}
    (h : normalizeLogsQuery arguments = .ok normalized) :
    ∃ start finish, normalized.query.Valid start finish := by
  rw [normalizeLogsQuery, bind_eq_ok] at h
  obtain ⟨queryParams, -, h⟩ := h
  rw [bind_eq_ok] at h
  obtain ⟨fields, -, h⟩ := h
  rw [bind_eq_ok] at h
  obtain ⟨groupByMessage, -, h⟩ := h
  rw [bind_eq_ok] at h
  obtain ⟨query, hquery, h⟩ := h
  cases h
  cases hbuild : buildLogQuery queryParams with
  | error err => rw [hbuild] at hquery; cases hquery
  | ok built =>
      rw [hbuild] at hquery
      cases hquery
      exact buildLogQuery_valid hbuild

/-- What is expected of a validated query is there. -/
theorem logsResponse_returns (id : Option Json) {normalized : NormalizedLogsQuery}
    {start finish : DateTime} (hvalid : normalized.query.Valid start finish)
    (result : LogQueryResult) : (logsResponse id normalized result).Returns (IsResult id) := by
  refine generatedAtUtcString_returns.bind fun generatedAtUtc _ => ?_
  rw [hvalid.startUtc, hvalid.endUtc]
  dsimp only [expectSome]
  rw [Prog.pure_bind, Prog.pure_bind]
  split <;> exact Prog.Returns.value ⟨_, rfl⟩

variable [LawfulMcpSdk]

theorem queryLogs_answers {id : Option Json} (hid : UsableId id) (arguments : Members) :
    (queryLogs id arguments).Returns (Envelope (echoedId id)) := by
  rw [queryLogs]
  split
  case h_1 err _ => exact Prog.Returns.value (envelope_normalizeError id err)
  case h_2 normalized hnormalized =>
      obtain ⟨start, finish, hvalid⟩ := normalizeLogsQuery_valid hnormalized
      exact respond_answers hid (logsResponse_returns id hvalid)

theorem handleListLogs_answers {id : Option Json} (hid : UsableId id)
    (arguments : Option Members) :
    (handleListLogs id arguments).Returns (Envelope (echoedId id)) := by
  rw [handleListLogs]
  split
  · exact Prog.Returns.value (envelope_appError id _)
  · exact queryLogs_answers hid _
  · refine respond_returns (fun start => ?_) (envelope_appError id)
    cases start with
    | some start => exact queryLogs_answers hid _
    | none => exact Prog.Returns.value (envelope_appError id _)

end Handler

end SystemdMonitoring
