/-
# `SystemdMonitoring.Domain.SinceLastStart` — the log since a service's last start

With `since_last_start` the window of a log request begins where the provider
says that the service's main process has been started.  The provider reads that
off the listing of services: `since_utc`, which is `ActiveEnterTimestamp`,
written in milliseconds.  The handler writes what it is told in milliseconds
again and reads it back, so the start bound is `ActiveEnterTimestamp` cut to
milliseconds (`startUtc_of_listLogs`): every rounding errs on the early side.

But a service becomes active when it is ready, not when its main process is
started.  So the log of the current run is complete exactly when the two lie in
one millisecond (`sinceLastStart_covers_iff`).
-/
import SystemdMonitoring.Domain.LogRequests
import SystemdMonitoring.Systemd.Enrichment

namespace SystemdMonitoring

open Lib Lib.Text

/-! ## Timestamps as text -/

/-- The instant of so many microseconds since 1970, cut to whole milliseconds. -/
def wholeMillis (timestampUsec : Nat) : DateTime :=
  DateTime.ofNanos ((timestampUsec / 1000 * 1000 * 1000 : Nat) : Int)

@[simp] theorem timestampMicros_wholeMillis (timestampUsec : Nat) :
    (wholeMillis timestampUsec).timestampMicros = (timestampUsec / 1000 * 1000 : Nat) := by
  rw [DateTime.timestampMicros, wholeMillis, DateTime.nanos_ofNanos]
  omega

theorem truncMillis_wholeMillis (timestampUsec : Nat) :
    (wholeMillis timestampUsec).truncMillis = wholeMillis timestampUsec := by
  rw [wholeMillis, DateTime.truncMillis_ofNanos]
  congr 1
  omega

section Provider

variable [Chrono] [StrictChrono]

/-- A timestamp that is written is read back in whole milliseconds, or not at all. -/
theorem parse_formatSystemdTimestampUsec {timestampUsec : Nat} {text : String}
    {read : DateTime × Int} (htext : formatSystemdTimestampUsec timestampUsec = some text)
    (hread : Chrono.parseFromRfc3339 text = some read) : read = (wholeMillis timestampUsec, 0) := by
  rw [formatSystemdTimestampUsec] at htext
  split at htext
  · cases htext
  · split at htext
    · cases htext
    · obtain ⟨d, hd, rfl⟩ := Option.map_eq_some_iff.mp htext
      rw [DateTime.fromTimestampMicros] at hd
      split at hd
      · cases hd
        by_cases hyears : (DateTime.ofNanos ((timestampUsec : Int) * 1000)).InYears
        · rw [LawfulChrono.parse_format hyears (DateTime.isLeap_ofNanos _),
            DateTime.truncMillis_ofNanos] at hread
          cases hread
          rw [wholeMillis]
          congr 2
          omega
        · rw [StrictChrono.parse_format_far hyears] at hread
          cases hread
      · cases hd

/-! ## What the provider says -/

variable {answers : Snapshot} {scope : UnitScope} {rawUnits : List RawUnit} {unit path : String}

omit [StrictChrono] in
/-- The listing's `since_utc`, read back. -/
theorem finds_unitMainStart (hscope : scope ≠ .both)
    (hunits : managerUnits answers scope = some rawUnits)
    (hpath : (unitPaths ".service" rawUnits).lookup unit = some path)
    (hall : AllRead answers scope path) :
    Finds answers (unitMainStart unit scope)
      (some ((ownDetails answers scope path).sinceUtc.bind
        (fun value => (Chrono.parseFromRfc3339 value).map Prod.fst))) := by
  have hlisting : Finds answers (listServiceUnits scope)
      (some (serviceListing answers scope rawUnits)) := by
    have hfinds := finds_listServiceUnitsForSingleScope answers hscope
    rw [hunits, Option.map_some] at hfinds
    cases scope with
    | system => exact hfinds
    | user => exact hfinds
    | both => exact absurd rfl hscope
  obtain ⟨row, hfind, hfield⟩ := field_serviceListing answers scope hpath
  have hsince : row.sinceUtc = (ownDetails answers scope path).sinceUtc :=
    (hfield .sinceUtc).trans (if_pos hall)
  have hstart := hlisting.map fun rows =>
    ((rows.find? (fun row => row.unit == unit)).bind UnitStatus.sinceUtc).bind
      (fun value => (Chrono.parseFromRfc3339 value).map Prod.fst)
  rw [Option.map_some, hfind, Option.bind_some, hsince] at hstart
  exact hstart

/-- **What the provider says** of a service with that `ActiveEnterTimestamp`. -/
theorem start_of_unitMainStart (hscope : scope ≠ .both)
    (hunits : managerUnits answers scope = some rawUnits)
    (hpath : (unitPaths ".service" rawUnits).lookup unit = some path)
    (hall : AllRead answers scope path) {activeEnter : Nat}
    (hactive : readU64 answers scope path .unit "ActiveEnterTimestamp" = some activeEnter)
    {latest : DateTime}
    (hlatest : (unitMainStart unit scope).run.under answers = .done (.ok (some latest))) :
    latest = wholeMillis activeEnter ∧ latest.InYears := by
  obtain ⟨answer, hanswer, hfound⟩ := finds_unitMainStart hscope hunits hpath hall
  rw [hlatest] at hanswer
  cases hanswer
  rw [Except.toOption, Option.some.injEq, ownDetails, hactive, Option.bind_some] at hfound
  obtain ⟨text, htext, hparsed⟩ := Option.bind_eq_some_iff.mp hfound.symm
  obtain ⟨read, hread, rfl⟩ := Option.map_eq_some_iff.mp hparsed
  obtain rfl := parse_formatSystemdTimestampUsec htext hread
  exact ⟨rfl, LawfulChrono.inYears_of_parse hread⟩

end Provider

/-! ## What is executed -/

section Handler

variable [Chrono] [LawfulChrono]

/-- A start that has been looked up becomes the start bound, cut to milliseconds. -/
theorem startUtc_of_withStart {arguments : Members} {latest : DateTime} (hyears : latest.InYears)
    (hplain : latest.isLeap = false) {normalized : NormalizedLogsQuery}
    (h : normalizeLogsQuery (withStart arguments latest) = .ok normalized) :
    normalized.query.startUtc = some latest.truncMillis
      ∧ ∃ finish, normalized.query.endUtc = some finish := by
  obtain ⟨params, hparams, hquery⟩ := normalizeLogsQuery_built h
  obtain ⟨-, hstart, -⟩ := decodeLogsQueryParams_reads hparams
  have hmember : Json.member (withStart arguments latest) "start_utc"
      = some (.str (Chrono.toRfc3339Millis latest)) := by
    rw [withStart, Json.member_setMember, if_pos rfl]
  have hgiven : Json.optionalMember Json.asStr (withStart arguments latest) "start_utc"
      = some (some (Chrono.toRfc3339Millis latest)) :=
    Json.optionalMember_eq_some_iff.mpr ⟨_, Json.noConfusion, hmember, rfl⟩
  have htext : params.startUtc = some (Chrono.toRfc3339Millis latest) :=
    Option.some.inj (hstart.symm.trans hgiven)
  simp only [buildLogQuery, bind_eq_ok] at hquery
  obtain ⟨⟨start, finish⟩, hwindow, _, _, _, _, _, _, _, _, _, _, _, _, hquery⟩ := hquery
  rw [← Except.ok.inj hquery]
  have hparsed := (logWindow_eq_ok_iff.mp hwindow).1
  rw [htext, parseUtc_toRfc3339Millis hyears hplain] at hparsed
  cases hparsed
  exact ⟨rfl, finish, rfl⟩

variable [McpSdk] [HashOrder] {σ : Type}

omit [LawfulChrono] in
/-- Whatever is executed for a unit's last start has been built from the start that was found. -/
theorem query_of_lookedUp {id : Option Json} {arguments : Option Members} {unit : String}
    {scope : UnitScope} (hlookup : startLookup (arguments.getD []) = .ok (some (unit, scope)))
    {h : Host AppSig σ} {s : σ} {query : LogQuery}
    (hquery : .inl (.listJournalLogs query) ∈ ((handleListLogs id arguments).run h s).trace) :
    ∃ latest normalized, (h.answer (.inl (.unitMainStart unit scope)) s).1 = .ok (some latest)
      ∧ normalizeLogsQuery (withStart (arguments.getD []) latest) = .ok normalized
      ∧ query = normalized.query := by
  rw [handleListLogs, hlookup] at hquery
  obtain heq | ⟨found, hanswer, hrest⟩ := mem_trace_respond_iff.mp hquery
  · cases heq
  · cases found with
    | none => cases hrest
    | some latest =>
        have hpath : (queryLogs id (withStart (arguments.getD []) latest)).All
            (GoodPath fun query => ∃ normalized,
              normalizeLogsQuery (withStart (arguments.getD []) latest) = .ok normalized
                ∧ query = normalized.query) :=
          queryLogs_goodPath id fun normalized hnormalized => ⟨normalized, hnormalized, rfl⟩
        have hbuilt := Prog.All_run hpath h (h.answer (.inl (.unitMainStart unit scope)) s).2
        obtain ⟨normalized, hnormalized, rfl⟩ := hbuilt.2 query hrest
        exact ⟨latest, normalized, hanswer, hnormalized, rfl⟩

end Handler

/-! ## The start of the main process -/

section MainProcess

variable [Chrono] [StrictChrono] [McpSdk] [HashOrder] {σ : Type}

/-- **The start bound** of what is executed is the `ActiveEnterTimestamp`, cut to milliseconds. -/
theorem startUtc_of_listLogs {id : Option Json} {arguments : Option Members} {unit : String}
    {scope : UnitScope} (hlookup : startLookup (arguments.getD []) = .ok (some (unit, scope)))
    {answers : Snapshot} {rawUnits : List RawUnit} {path : String}
    (hunits : managerUnits answers scope = some rawUnits)
    (hpath : (unitPaths ".service" rawUnits).lookup unit = some path)
    (hall : AllRead answers scope path) {activeEnter : Nat}
    (hactive : readU64 answers scope path .unit "ActiveEnterTimestamp" = some activeEnter)
    {h : Host AppSig σ} {s : σ}
    (hprovider : (unitMainStart unit scope).run.under answers
      = .done (h.answer (.inl (.unitMainStart unit scope)) s).1)
    {query : LogQuery}
    (hquery : .inl (.listJournalLogs query) ∈ ((handleListLogs id arguments).run h s).trace) :
    query.startUtc = some (wholeMillis activeEnter)
      ∧ ∃ finish, query.endUtc = some finish := by
  obtain ⟨latest, normalized, hanswer, hnormalized, rfl⟩ := query_of_lookedUp hlookup hquery
  rw [hanswer] at hprovider
  obtain ⟨rfl, hyears⟩ := start_of_unitMainStart (startLookup_concrete hlookup) hunits hpath hall
    hactive hprovider
  have hbounds := startUtc_of_withStart hyears (DateTime.isLeap_ofNanos _) hnormalized
  rw [truncMillis_wholeMillis] at hbounds
  exact hbounds

/-- **When the log of the current run is complete**: the start bound is no later than the start of
the main process, and whatever is logged from there up to the end passes the window check, exactly
when the service has become active within the millisecond of that start. -/
theorem sinceLastStart_covers_iff {id : Option Json} {arguments : Option Members} {unit : String}
    {scope : UnitScope} (hlookup : startLookup (arguments.getD []) = .ok (some (unit, scope)))
    {answers : Snapshot} {rawUnits : List RawUnit} {path : String}
    (hunits : managerUnits answers scope = some rawUnits)
    (hpath : (unitPaths ".service" rawUnits).lookup unit = some path)
    (hall : AllRead answers scope path) {mainStart activeEnter : Nat}
    (hactive : readU64 answers scope path .unit "ActiveEnterTimestamp" = some activeEnter)
    (horder : mainStart ≤ activeEnter) {h : Host AppSig σ} {s : σ}
    (hprovider : (unitMainStart unit scope).run.under answers
      = .done (h.answer (.inl (.unitMainStart unit scope)) s).1)
    {query : LogQuery}
    (hquery : .inl (.listJournalLogs query) ∈ ((handleListLogs id arguments).run h s).trace) :
    ∃ start finish, query.startUtc = some start ∧ query.endUtc = some finish
      ∧ ((start.timestampMicros ≤ mainStart
          ∧ ∀ logged : Nat, mainStart ≤ logged → (logged : Int) ≤ finish.timestampMicros →
            query.InWindow logged)
        ↔ mainStart / 1000 = activeEnter / 1000) := by
  obtain ⟨hstart, finish, hfinish⟩ :=
    startUtc_of_listLogs hlookup hunits hpath hall hactive hprovider hquery
  refine ⟨_, finish, hstart, hfinish, ?_⟩
  rw [timestampMicros_wholeMillis]
  constructor
  · rintro ⟨hle, -⟩
    omega
  · intro hsame
    have hle : ((activeEnter / 1000 * 1000 : Nat) : Int) ≤ mainStart := by omega
    refine ⟨hle, ?_⟩
    intro logged hfrom hto
    refine ⟨⟨_, hstart, ?_⟩, finish, hfinish, hto⟩
    rw [timestampMicros_wholeMillis]
    omega

end MainProcess

/-! ## A service that takes a second to be ready -/

/-- The log of the service since its last start. -/
def appSinceStart : Members :=
  [("since_last_start", .bool true), ("unit", .str "app.service"),
    ("end_utc", .str "2026-01-01T01:00:00Z")]

/-- The query of that request: the first hour of the month. -/
def appSinceStartQuery : LogQuery where
  scope := .system
  priority := none
  unit := some "app.service"
  excludeUnits := []
  grep := none
  order := .desc
  startUtc := some (.ofSecs 1767225600)
  endUtc := some (.ofSecs 1767229200)
  limit := 200
  cursor := none

theorem appSinceStart_executed : .inl (.listJournalLogs appSinceStartQuery)
    ∈ ((@handleListLogs rfc3339 plainSdk nameOrder (some (.int 1)) (some appSinceStart)).run
      startedHost ()).trace :=
  List.mem_cons_of_mem _ List.mem_cons_self

/-- The provider's answer is that of a host which knows when units have been started. -/
theorem app_unitMainStart :
    (@unitMainStart rfc3339 "app.service" .system).run.under (oneService (.ok 7))
      = .done (startedHost.answer (.inl (.unitMainStart "app.service" .system)) ()).1 := by
  obtain ⟨answer, hanswer, hfound⟩ := @finds_unitMainStart rfc3339 (oneService (.ok 7)) .system _
    "app.service" "/app" (by decide) rfl rfl (by decide)
  rw [hanswer]
  cases answer with
  | error err => cases hfound
  | ok start =>
      obtain rfl := Option.some.inj hfound
      rfl

/-- Its main process has been started within that millisecond: nothing is cut off. -/
theorem sinceLastStart_covers_iff_app : ∃ start finish,
    appSinceStartQuery.startUtc = some start ∧ appSinceStartQuery.endUtc = some finish
    ∧ ((start.timestampMicros ≤ (1767225600000000 : Nat)
        ∧ ∀ logged : Nat, 1767225600000000 ≤ logged → (logged : Int) ≤ finish.timestampMicros →
          appSinceStartQuery.InWindow logged)
      ↔ 1767225600000000 / 1000 = 1767225600000000 / 1000) :=
  @sinceLastStart_covers_iff rfc3339 strict_rfc3339 plainSdk nameOrder Unit (some (.int 1))
    (some appSinceStart) "app.service" .system rfl (oneService (.ok 7)) _ "/app" rfl rfl (by decide)
    1767225600000000 1767225600000000 rfl (by decide) startedHost () app_unitMainStart
    appSinceStartQuery appSinceStart_executed

/-- It has been started a second before it was ready: that second is not in the window. -/
theorem startup_cut_off :
    startLookup appSinceStart = .ok (some ("app.service", .system))
    ∧ AllRead (oneService (.ok 7)) .system "/app"
    ∧ readU64 (oneService (.ok 7)) .system "/app" .unit "ActiveEnterTimestamp"
      = some 1767225600000000
    ∧ (@unitMainStart rfc3339 "app.service" .system).run.under (oneService (.ok 7))
      = .done (startedHost.answer (.inl (.unitMainStart "app.service" .system)) ()).1
    ∧ ∃ query start, .inl (.listJournalLogs query)
        ∈ ((@handleListLogs rfc3339 plainSdk nameOrder (some (.int 1)) (some appSinceStart)).run
          startedHost ()).trace
      ∧ query.startUtc = some start
      ∧ ((1767225599000000 : Nat) : Int) < start.timestampMicros
      ∧ ¬ query.InWindow 1767225599000000 := by
  refine ⟨rfl, by decide, rfl, app_unitMainStart, appSinceStartQuery, _, appSinceStart_executed,
    rfl, by decide, ?_⟩
  rintro ⟨⟨start, hstart, hle⟩, -⟩
  cases hstart
  revert hle
  decide

end SystemdMonitoring
