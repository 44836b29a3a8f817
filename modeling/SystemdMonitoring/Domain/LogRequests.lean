/-
# `SystemdMonitoring.Domain.LogRequests` — which log requests are executed

`list_logs` hands its provider one query at most.  What reads the query relies
on more than its type says: a missing bound would abort the response, a
priority that is no number would switch its filter off.  `WellFormed` is all of
it, and every query that is handed over has it, whatever the arguments and
whatever start the provider finds.

The other way around nothing that is documented is refused.  `MeetsConstraints`
says what the documentation asks of an argument map, name by name, without any
of the functions that check it; `StartsAt` says which start the request then
stands for.
-/
import SystemdMonitoring.Domain.Tools.Logs

namespace SystemdMonitoring

open Lib Lib.Text

/-! ## What is documented -/

/-- A name over the alphabet of unit names. -/
def UnitName (unit : String) : Prop :=
  unit ≠ "" ∧ ∀ c ∈ unit.toList, isAsciiAlphanumeric c = true ∨ c ∈ ['-', '_', '@', ':', '.']

/-- The severities, by number and by name. -/
def severityWords : List String :=
  ["0", "1", "2", "3", "4", "5", "6", "7", "emerg", "panic", "alert", "crit", "critical", "err",
    "error", "warning", "warn", "notice", "info", "informational", "debug"]

/-- A timestamp that must be there: RFC 3339, in UTC, with a `Z`. -/
def RequiredUtc [Chrono] (arguments : Members) (name : String) (d : DateTime) : Prop :=
  ∃ text, Json.member arguments name = some (.str text) ∧ endsWith "Z" text = true
    ∧ Chrono.parseFromRfc3339 text = some (d, 0)

/-- The arguments of a request for that window, but for its start. -/
structure MeetsConstraints [Chrono] (arguments : Members) (start finish : DateTime) : Prop where
  scope : Json.Optionally Json.asStr arguments "scope" (fun scope =>
    chosenWord (some scope) ∈ [none, some "system", some "user", some "both"])
  priority : Json.Optionally Json.asStr arguments "priority" (fun priority =>
    toAsciiLowercase (trim priority) ∈ severityWords)
  unit : Json.Optionally Json.asStr arguments "unit" (fun unit => UnitName (trim unit))
  endUtc : RequiredUtc arguments "end_utc" finish
  grep : Json.Optionally Json.asStr arguments "grep" (fun _ => True)
  excludeUnits : Json.Optionally Json.asStrings arguments "exclude_units" (fun units =>
    ∀ unit ∈ units, UnitName (trim unit))
  order : Json.Optionally Json.asStr arguments "order" (fun order =>
    chosenWord (some order) ∈ [none, some "asc", some "desc"])
  allowLargeWindow : Json.Optionally Json.asBool arguments "allow_large_window" (fun _ => True)
  limit : Json.Optionally Json.asU32 arguments "limit" (fun limit => 1 ≤ limit ∧ limit ≤ 1000)
  summary : Json.Optionally Json.asBool arguments "summary" (fun _ => True)
  cursor : Json.Optionally Json.asStr arguments "cursor" (fun _ => True)
  fields : Json.Optionally Json.asStrings arguments "fields" (fun fields =>
    fields ≠ [] ∧ fields.Nodup ∧ ∀ field ∈ fields, field ∈ allLogFields)
  groupBy : Json.Optionally Json.asStr arguments "group_by" (fun groupBy => groupBy = "message")
  sinceLastStart : Json.Optionally Json.asBool arguments "since_last_start" (fun _ => True)
  ordered : start < finish
  window : finish.sub start ≤ sevenDays
    ∨ Json.member arguments "allow_large_window" = some (.bool true)

/-- The system or the user scope, as an argument chooses it. -/
def ChoosesScope (arguments : Members) : UnitScope → Prop
  | .system =>
      chosenWord ((Json.member arguments "scope").bind Json.asStr) ∈ [none, some "system"]
  | .user => chosenWord ((Json.member arguments "scope").bind Json.asStr) = some "user"
  | .both => False

/-- The start of a request's window: the one it gives, or, cut to milliseconds on its way through
the arguments, the one that the provider finds for its unit. -/
inductive StartsAt [Chrono] {σ : Type} (h : Host AppSig σ) (s : σ) (arguments : Members)
    (start : DateTime) : Prop where
  | given (hsince : Json.member arguments "since_last_start" ≠ some (.bool true))
      (hstart : RequiredUtc arguments "start_utc" start)
  | lookedUp {unit : String} {scope : UnitScope} {latest : DateTime}
      (hsince : Json.member arguments "since_last_start" = some (.bool true))
      (hstart : Json.member arguments "start_utc" = none)
      (hunit : Json.member arguments "unit" = some (.str unit)) (hname : UnitName (trim unit))
      (hscope : ChoosesScope arguments scope)
      (hlatest : (h.answer (.inl (.unitMainStart (trim unit) scope)) s).1 = .ok (some latest))
      (hread : parseUtc (some (Chrono.toRfc3339Millis latest)) = .ok (some start))

/-- The names that a request excludes. -/
def excludedNames (arguments : Members) : List String :=
  ((Json.member arguments "exclude_units").bind Json.asStrings).getD []

/-! ## What its readers rely on -/

/-- A query that can be executed for these arguments. -/
structure WellFormed (arguments : Members) (query : LogQuery) : Prop where
  window : ∃ start finish, query.startUtc = some start ∧ query.endUtc = some finish
    ∧ start < finish
    ∧ (finish.sub start ≤ sevenDays
      ∨ Json.member arguments "allow_large_window" = some (.bool true))
  limit : 1 ≤ query.limit ∧ query.limit ≤ 1000
  priority : (query.priority = none ∧ Json.Missing arguments "priority")
    ∨ ∃ severity ≤ 7, query.threshold = some severity
  unit : ∀ unit, query.unit = some unit → UnitName unit
  excludeUnits : ∀ unit ∈ query.excludeUnits, UnitName unit
  grep : ∀ grep, query.grep = some grep → grep ≠ "" ∧ trim grep = grep

/-! ## The checks, one by one -/

theorem isValidUnitNameChars_iff {unit : String} :
    unit ≠ "" ∧ isValidUnitNameChars unit = true ↔ UnitName unit := by
  simp [UnitName, isValidUnitNameChars, or_assoc]

theorem normalizeUnit_some_iff {value : String} {unit : Option String} :
    normalizeUnit (some value) = .ok unit ↔ UnitName (trim value) ∧ unit = some (trim value) := by
  rw [← isValidUnitNameChars_iff, normalizeUnit]
  split
  case isTrue hbad =>
    refine iff_of_false (fun h => by cases h) ?_
    rintro ⟨⟨hne, hchars⟩, -⟩
    rcases hbad with hempty | hchars'
    · exact hne hempty
    · rw [hchars] at hchars'
      cases hchars'
  case isFalse hgood =>
    obtain ⟨hne, hchars⟩ := not_or.mp hgood
    rw [Bool.not_eq_false] at hchars
    constructor
    · intro h
      cases h
      exact ⟨⟨hne, hchars⟩, rfl⟩
    · rintro ⟨-, rfl⟩
      rfl

/-- The excluded names keep their number and their order. -/
theorem normalizeExcludeUnits_iff {units : Option (List String)} {names : List String} :
    normalizeExcludeUnits units = .ok names
      ↔ (∀ unit ∈ units.getD [], UnitName (trim unit)) ∧ names = (units.getD []).map trim := by
  have hnames : ((units.getD []).map (fun unit => some (trim unit))).reduceOption
      = (units.getD []).map trim := by
    show List.filterMap id _ = _
    rw [List.filterMap_map]
    exact congrFun (List.filterMap_eq_map' (f := trim)) _
  rw [normalizeExcludeUnits, bind_eq_ok]
  constructor
  · rintro ⟨normalized, hnormalized, h⟩
    obtain ⟨hunits, rfl⟩ := (mapM_eq_ok_iff fun _ _ => normalizeUnit_some_iff).mp hnormalized
    rw [hnames] at h
    cases h
    exact ⟨hunits, rfl⟩
  · rintro ⟨hunits, rfl⟩
    refine ⟨_, (mapM_eq_ok_iff fun _ _ => normalizeUnit_some_iff).mpr ⟨hunits, rfl⟩, ?_⟩
    rw [hnames]
    rfl

/-- A severity that has been chosen is a number that the journal reader can read back. -/
theorem threshold_of_priorityNumber {word number : String}
    (h : priorityNumber word = some number) :
    ∃ severity ≤ 7, parseUnsigned 255 number = some severity := by
  unfold priorityNumber at h
  split at h <;> cases h <;> decide

theorem priorityNumber_of_severityWords :
    ∀ word ∈ severityWords, word ≠ "" ∧ (priorityNumber word).isSome = true := by
  decide

theorem normalizePriority_ok {priority number : Option String}
    (h : normalizePriority priority = .ok number) :
    (priority = none ∧ number = none)
      ∨ ∃ severity ≤ 7, number.bind (parseUnsigned 255) = some severity := by
  unfold normalizePriority at h
  split at h
  case h_1 =>
    cases h
    exact .inl ⟨rfl, rfl⟩
  case h_2 value =>
    dsimp only at h
    split at h
    · cases h
    · split at h
      case h_1 mapped hmapped =>
        cases h
        exact .inr (threshold_of_priorityNumber hmapped)
      case h_2 => cases h

theorem normalizePriority_of_severityWords {value : String}
    (h : toAsciiLowercase (trim value) ∈ severityWords) :
    ∃ number, normalizePriority (some value) = .ok number := by
  obtain ⟨hne, hsome⟩ := priorityNumber_of_severityWords _ h
  obtain ⟨number, hnumber⟩ := Option.isSome_iff_exists.mp hsome
  refine ⟨some number, ?_⟩
  rw [normalizePriority, if_neg hne, hnumber]

theorem normalizeScope_of_words {scope : Option String}
    (h : chosenWord scope ∈ [none, some "system", some "user", some "both"]) :
    ∃ unitScope, normalizeScope scope = .ok unitScope := by
  simp only [List.mem_cons, List.not_mem_nil, or_false] at h
  rw [normalizeScope]
  rcases h with h | h | h | h <;> rw [h] <;> exact ⟨_, rfl⟩

theorem normalizeOrder_of_words {order : Option String}
    (h : chosenWord order ∈ [none, some "asc", some "desc"]) :
    ∃ logOrder, normalizeOrder order = .ok logOrder := by
  simp only [List.mem_cons, List.not_mem_nil, or_false] at h
  rw [normalizeOrder]
  rcases h with h | h | h <;> rw [h] <;> exact ⟨_, rfl⟩

theorem normalizeLimit_of_mem {limit : Option Nat}
    (h : ∀ n, limit = some n → 1 ≤ n ∧ n ≤ 1000) :
    ∃ n, normalizeLimit defaultLogLimit maxLogLimit limit = .ok n := by
  refine ⟨limit.getD defaultLogLimit, if_neg ?_⟩
  cases limit with
  | none => decide
  | some n =>
      have hn := h n rfl
      rw [Option.getD_some, maxLogLimit]
      omega

theorem normalizeFields_of_unique {fields : Option (List String)}
    (h : ∀ names, fields = some names →
      names ≠ [] ∧ names.Nodup ∧ ∀ name ∈ names, name ∈ allLogFields) :
    ∃ names, normalizeFields fields = .ok names := by
  refine ⟨fields.getD allLogFields, ?_⟩
  obtain ⟨hne, hnodup, hsub⟩ : fields.getD allLogFields ≠ []
      ∧ (fields.getD allLogFields).Nodup
      ∧ ∀ name ∈ fields.getD allLogFields, name ∈ allLogFields := by
    cases fields with
    | none => decide
    | some names => exact h names rfl
  have hall : (fields.getD allLogFields).all (allLogFields.contains ·) = true :=
    List.all_eq_true.mpr fun name hname => List.contains_iff_mem.mpr (hsub name hname)
  rw [normalizeFields, if_neg hne, hall, decide_eq_true hnodup]
  rfl

/-- A search that is kept is not empty and needs no trimming. -/
theorem trimmed_grep {grep : Option String} {search : String}
    (h : (grep.map trim).filter (· ≠ "") = some search) : search ≠ "" ∧ trim search = search := by
  rw [Option.filter_eq_some_iff, Option.map_eq_some_iff] at h
  obtain ⟨⟨value, -, rfl⟩, hne⟩ := h
  exact ⟨of_decide_eq_true hne, trim_trim value⟩

/-! ## Every query is well formed -/

section Requests

variable [Chrono]

omit [Chrono] in
/-- What is in the arguments, by the fields that later checks look at. -/
theorem decodeLogsQueryParams_reads {arguments : Members} {params : LogsQueryParams}
    (h : decodeLogsQueryParams arguments = some params) :
    Json.optionalMember Json.asStr arguments "priority" = some params.priority
      ∧ Json.optionalMember Json.asStr arguments "start_utc" = some params.startUtc
      ∧ Json.optionalMember Json.asBool arguments "allow_large_window"
        = some params.allowLargeWindow := by
  rw [decodeLogsQueryParams] at h
  obtain ⟨scope, -, h⟩ := Option.bind_eq_some_iff.mp h
  obtain ⟨priority, hpriority, h⟩ := Option.bind_eq_some_iff.mp h
  obtain ⟨unit, -, h⟩ := Option.bind_eq_some_iff.mp h
  obtain ⟨startUtc, hstart, h⟩ := Option.bind_eq_some_iff.mp h
  obtain ⟨endUtc, -, h⟩ := Option.bind_eq_some_iff.mp h
  obtain ⟨grep, -, h⟩ := Option.bind_eq_some_iff.mp h
  obtain ⟨excludeUnits, -, h⟩ := Option.bind_eq_some_iff.mp h
  obtain ⟨order, -, h⟩ := Option.bind_eq_some_iff.mp h
  obtain ⟨allowLargeWindow, hallow, h⟩ := Option.bind_eq_some_iff.mp h
  obtain ⟨limit, -, h⟩ := Option.bind_eq_some_iff.mp h
  obtain ⟨summary, -, h⟩ := Option.bind_eq_some_iff.mp h
  obtain ⟨cursor, -, h⟩ := Option.bind_eq_some_iff.mp h
  obtain ⟨fields, -, h⟩ := Option.bind_eq_some_iff.mp h
  obtain ⟨groupBy, -, h⟩ := Option.bind_eq_some_iff.mp h
  obtain ⟨sinceLastStart, -, h⟩ := Option.bind_eq_some_iff.mp h
  cases h
  exact ⟨hpriority, hstart, hallow⟩

/-- What has been built passed every check. -/
theorem normalizeLogsQuery_built {arguments : Members} {normalized : NormalizedLogsQuery}
    (h : normalizeLogsQuery arguments = .ok normalized) :
    ∃ params, decodeLogsQueryParams arguments = some params
      ∧ buildLogQuery params = .ok normalized.query := by
  rw [normalizeLogsQuery, bind_eq_ok] at h
  obtain ⟨params, hparams, h⟩ := h
  rw [bind_eq_ok] at h
  obtain ⟨fields, -, h⟩ := h
  rw [bind_eq_ok] at h
  obtain ⟨groupByMessage, -, h⟩ := h
  rw [bind_eq_ok] at h
  obtain ⟨query, hquery, h⟩ := h
  cases h
  refine ⟨params, ?_, mapError_eq_ok_iff.mp hquery⟩
  unfold decoded at hparams
  split at hparams <;> cases hparams
  assumption

/-- **Soundness of the checks.** -/
theorem normalizeLogsQuery_wellFormed {arguments : Members} {normalized : NormalizedLogsQuery}
    (h : normalizeLogsQuery arguments = .ok normalized) :
    WellFormed arguments normalized.query := by
  obtain ⟨params, hparams, hquery⟩ := normalizeLogsQuery_built h
  obtain ⟨hpriorities, -, hallow⟩ := decodeLogsQueryParams_reads hparams
  simp only [buildLogQuery, bind_eq_ok] at hquery
  obtain ⟨⟨start, finish⟩, hwindow, limit, hlimit, order, -, excludeUnits, hexclude, scope, -,
    priority, hpriority, unit, hunit, hquery⟩ := hquery
  rw [← Except.ok.inj hquery]
  obtain ⟨-, -, horder, hsize⟩ := logWindow_eq_ok_iff.mp hwindow
  obtain ⟨hnames, rfl⟩ := normalizeExcludeUnits_iff.mp hexclude
  refine ⟨⟨start, finish, rfl, rfl, horder, ?_⟩, normalizeLimit_mem hlimit, ?_, ?_, ?_, ?_⟩
  · cases hlarge : params.allowLargeWindow.getD false with
    | false => exact .inl (hsize hlarge)
    | true =>
        rw [Option.getD_eq_iff] at hlarge
        rcases hlarge with hlarge | ⟨-, habsurd⟩
        · rw [hlarge] at hallow
          obtain ⟨v, -, hv, htrue⟩ := Json.optionalMember_eq_some_iff.mp hallow
          cases v <;> cases htrue
          exact .inr hv
        · cases habsurd
  · rcases normalizePriority_ok hpriority with ⟨hnone, rfl⟩ | hsome
    · rw [hnone] at hpriorities
      exact .inl ⟨rfl, Json.optionalMember_eq_none_iff.mp hpriorities⟩
    · exact .inr hsome
  · intro name hname
    dsimp only at hname
    cases hgiven : params.unit with
    | none =>
        rw [hgiven] at hunit
        cases hunit
        cases hname
    | some value =>
        rw [hgiven] at hunit
        obtain ⟨hvalid, rfl⟩ := normalizeUnit_some_iff.mp hunit
        cases hname
        exact hvalid
  · intro name hname
    obtain ⟨value, hvalue, rfl⟩ := List.mem_map.mp hname
    exact hnames value hvalue
  · intro search hsearch
    exact trimmed_grep hsearch

/-- The start that is put in among the arguments touches no other one. -/
theorem member_withStart {arguments : Members} {start : DateTime} {name : String}
    (h : name ≠ "start_utc") :
    Json.member (withStart arguments start) name = Json.member arguments name := by
  rw [withStart, Json.member_setMember, if_neg (Ne.symm h)]

theorem wellFormed_of_withStart {arguments : Members} {start : DateTime} {query : LogQuery}
    (h : WellFormed (withStart arguments start) query) : WellFormed arguments query := by
  have hallow : Json.member (withStart arguments start) "allow_large_window"
      = Json.member arguments "allow_large_window" := member_withStart (by decide)
  have hpriority : Json.Missing (withStart arguments start) "priority"
      ↔ Json.Missing arguments "priority" := by
    rw [Json.Missing, Json.Missing, member_withStart (by decide)]
  refine ⟨hallow ▸ h.window, h.limit, ?_, h.unit, h.excludeUnits, h.grep⟩
  rcases h.priority with ⟨hnone, hmissing⟩ | hsome
  · exact .inl ⟨hnone, hpriority.mp hmissing⟩
  · exact .inr hsome

/-! ## Nothing that is documented is refused -/

theorem parseUtc_of_required {arguments : Members} {name : String} {d : DateTime}
    (h : RequiredUtc arguments name d) :
    ∃ text, Json.optionalMember Json.asStr arguments name = some (some text)
      ∧ parseUtc (some text) = .ok (some d) := by
  obtain ⟨text, htext, hz, hparse⟩ := h
  refine ⟨text, ?_, parseUtc_eq_ok_iff.mpr ⟨hz, hparse⟩⟩
  exact Json.optionalMember_eq_some_iff.mpr ⟨.str text, Json.noConfusion, htext, rfl⟩

/-- The constraints on arguments that have been read. -/
structure ParamsMeet (params : LogsQueryParams) (start finish : DateTime) : Prop where
  scope : chosenWord params.scope ∈ [none, some "system", some "user", some "both"]
  priority : ∀ priority, params.priority = some priority →
    toAsciiLowercase (trim priority) ∈ severityWords
  unit : ∀ unit, params.unit = some unit → UnitName (trim unit)
  startUtc : parseUtc params.startUtc = .ok (some start)
  endUtc : parseUtc params.endUtc = .ok (some finish)
  excludeUnits : ∀ unit ∈ params.excludeUnits.getD [], UnitName (trim unit)
  order : chosenWord params.order ∈ [none, some "asc", some "desc"]
  limit : ∀ n, params.limit = some n → 1 ≤ n ∧ n ≤ 1000
  fields : ∀ names, params.fields = some names →
    names ≠ [] ∧ names.Nodup ∧ ∀ name ∈ names, name ∈ allLogFields
  groupBy : ∀ groupBy, params.groupBy = some groupBy → groupBy = "message"
  ordered : start < finish
  window : params.allowLargeWindow.getD false = false → finish.sub start ≤ sevenDays

/-- Arguments that meet the constraints are read, and still meet them. -/
theorem decodeLogsQueryParams_meets {arguments : Members} {start finish : DateTime}
    (hstart : RequiredUtc arguments "start_utc" start)
    (h : MeetsConstraints arguments start finish) :
    ∃ params, decodeLogsQueryParams arguments = some params ∧ ParamsMeet params start finish
      ∧ params.excludeUnits.getD [] = excludedNames arguments := by
  obtain ⟨scope, hscope, hword⟩ := Json.optionalMember_of_optionally h.scope
  obtain ⟨priority, hpriority, hseverity⟩ := Json.optionalMember_of_optionally h.priority
  obtain ⟨unit, hunit, hname⟩ := Json.optionalMember_of_optionally h.unit
  obtain ⟨startUtc, hstartUtc, hstartParsed⟩ := parseUtc_of_required hstart
  obtain ⟨endUtc, hendUtc, hendParsed⟩ := parseUtc_of_required h.endUtc
  obtain ⟨grep, hgrep, -⟩ := Json.optionalMember_of_optionally h.grep
  obtain ⟨excludeUnits, hexclude, hnames⟩ := Json.optionalMember_of_optionally h.excludeUnits
  obtain ⟨order, horder, horderWord⟩ := Json.optionalMember_of_optionally h.order
  obtain ⟨allow, hallow, -⟩ := Json.optionalMember_of_optionally h.allowLargeWindow
  obtain ⟨limit, hlimit, hrange⟩ := Json.optionalMember_of_optionally h.limit
  obtain ⟨summary, hsummary, -⟩ := Json.optionalMember_of_optionally h.summary
  obtain ⟨cursor, hcursor, -⟩ := Json.optionalMember_of_optionally h.cursor
  obtain ⟨fields, hfields, hunique⟩ := Json.optionalMember_of_optionally h.fields
  obtain ⟨groupBy, hgroupBy, hmessage⟩ := Json.optionalMember_of_optionally h.groupBy
  obtain ⟨since, hsince, -⟩ := Json.optionalMember_of_optionally h.sinceLastStart
  refine ⟨⟨scope, priority, unit, some startUtc, some endUtc, grep, excludeUnits, order, allow,
    limit, summary, cursor, fields, groupBy, since⟩, ?_, ?_, ?_⟩
  · rw [decodeLogsQueryParams, hscope, hpriority, hunit, hstartUtc, hendUtc, hgrep, hexclude,
      horder, hallow, hlimit, hsummary, hcursor, hfields, hgroupBy, hsince]
    rfl
  · refine ⟨?_, hseverity, hname, hstartParsed, hendParsed, ?_, ?_, hrange, hunique, hmessage,
      h.ordered, ?_⟩
    · cases scope with
      | none => exact List.mem_cons_self
      | some scope => exact hword scope rfl
    · cases excludeUnits with
      | none => exact fun _ hmem => (nomatch hmem)
      | some units => exact hnames units rfl
    · cases order with
      | none => exact List.mem_cons_self
      | some order => exact horderWord order rfl
    · intro hsmall
      rcases h.window with hsize | hlarge
      · exact hsize
      · have hread : Json.optionalMember Json.asBool arguments "allow_large_window"
            = some (some true) :=
          Json.optionalMember_eq_some_iff.mpr ⟨_, Json.noConfusion, hlarge, rfl⟩
        obtain rfl : allow = some true := Option.some.inj (hallow.symm.trans hread)
        cases hsmall
  · rw [excludedNames, Json.bind_of_optionalMember rfl hexclude]

/-- Read arguments that meet the constraints make a query. -/
theorem buildLogQuery_of_meets {params : LogsQueryParams} {start finish : DateTime}
    (h : ParamsMeet params start finish) :
    ∃ query, buildLogQuery params = .ok query ∧ query.startUtc = some start
      ∧ query.endUtc = some finish
      ∧ query.excludeUnits = (params.excludeUnits.getD []).map trim := by
  have hwindow : logWindow params = .ok (start, finish) :=
    logWindow_eq_ok_iff.mpr ⟨h.startUtc, h.endUtc, h.ordered, h.window⟩
  have hexclude := normalizeExcludeUnits_iff.mpr ⟨h.excludeUnits, rfl⟩
  obtain ⟨rows, hrows⟩ := normalizeLimit_of_mem h.limit
  obtain ⟨order, horder⟩ := normalizeOrder_of_words h.order
  obtain ⟨scope, hscope⟩ := normalizeScope_of_words h.scope
  obtain ⟨number, hnumber⟩ : ∃ number, normalizePriority params.priority = .ok number := by
    cases hpriority : params.priority with
    | none => exact ⟨_, rfl⟩
    | some priority => exact normalizePriority_of_severityWords (h.priority priority hpriority)
  obtain ⟨unit, hunit⟩ : ∃ unit, normalizeUnit params.unit = .ok unit := by
    cases hname : params.unit with
    | none => exact ⟨_, rfl⟩
    | some unit => exact ⟨_, normalizeUnit_some_iff.mpr ⟨h.unit unit hname, rfl⟩⟩
  simp only [buildLogQuery, hwindow, hrows, horder, hexclude, hscope, hnumber, hunit, ok_bind]
  exact ⟨_, rfl, rfl, rfl, rfl⟩

/-- **Completeness of the checks.** -/
theorem normalizeLogsQuery_complete {arguments : Members} {start finish : DateTime}
    (hstart : RequiredUtc arguments "start_utc" start)
    (h : MeetsConstraints arguments start finish) :
    ∃ normalized, normalizeLogsQuery arguments = .ok normalized
      ∧ normalized.query.startUtc = some start ∧ normalized.query.endUtc = some finish
      ∧ normalized.query.excludeUnits = (excludedNames arguments).map trim := by
  obtain ⟨params, hparams, hmeets, hexcluded⟩ := decodeLogsQueryParams_meets hstart h
  obtain ⟨query, hquery, hbounds⟩ := buildLogQuery_of_meets hmeets
  obtain ⟨fields, hfields⟩ := normalizeFields_of_unique hmeets.fields
  obtain ⟨grouped, hgrouped⟩ : ∃ grouped, normalizeGroupBy params.groupBy = .ok grouped := by
    cases hgroupBy : params.groupBy with
    | none => exact ⟨_, rfl⟩
    | some groupBy =>
        rw [hmeets.groupBy groupBy hgroupBy]
        exact ⟨_, rfl⟩
  refine ⟨⟨query, params.summary.getD false, fields, grouped⟩, ?_, ?_⟩
  · rw [normalizeLogsQuery, hparams, decoded, ok_bind, hfields, hgrouped, hquery]
    rfl
  · rw [← hexcluded]
    exact hbounds

variable [McpSdk] [HashOrder]

/-- Along a path the handler responds, and hands only good queries to the provider. -/
def GoodPath (good : LogQuery → Prop) (trace : List AppSig.Op) (outcome : Outcome Json) : Prop :=
  (∃ response, outcome = .done response)
    ∧ ∀ query, .inl (.listJournalLogs query) ∈ trace → good query

section GoodPaths

variable {good : LogQuery → Prop}

omit [Chrono] [McpSdk] [HashOrder] in
/-- Asking for something else first changes nothing. -/
theorem GoodPath.cons {o : AppSig.Op}
    (ho : ∀ query, .inl (.listJournalLogs query) = o → good query)
    {trace : List AppSig.Op} {outcome : Outcome Json} (h : GoodPath good trace outcome) :
    GoodPath good (o :: trace) outcome := by
  refine ⟨h.1, fun query hmem => ?_⟩
  rcases List.mem_cons.mp hmem with heq | hrest
  · exact ho query heq
  · exact h.2 query hrest

omit [Chrono] [McpSdk] [HashOrder] in
theorem GoodPath.pure (response : Json) : (Pure.pure response : App Json).All (GoodPath good) :=
  ⟨⟨response, rfl⟩, fun _ hmem => (nomatch hmem)⟩

/-- Behind the query there is the clock only, and the bounds that the response expects. -/
theorem logsResponse_goodPath (id : Option Json) {normalized : NormalizedLogsQuery}
    {start finish : DateTime} (hvalid : normalized.query.Valid start finish)
    (result : LogQueryResult) : (logsResponse id normalized result).All (GoodPath good) := by
  have hclock : ∀ response : Json, (Pure.pure response : App Json).All
      (fun trace outcome => GoodPath good (.inr .utcNow :: trace) outcome) := by
    intro response
    exact GoodPath.cons (fun _ heq => by cases heq) (GoodPath.pure response)
  have hgenerated : generatedAtUtcString.All (fun trace outcome =>
      trace = [(.inr .utcNow : AppSig.Op)] ∧ ∃ now, outcome = .done now) := fun _ => ⟨rfl, _, rfl⟩
  rw [logsResponse, hvalid.startUtc, hvalid.endUtc]
  refine (Prog.All_bind _ _ _).mpr (Prog.All_mono ?_ hgenerated)
  rintro trace outcome ⟨rfl, now, rfl⟩
  dsimp only [Prog.Then, expectSome]
  rw [Prog.pure_bind, Prog.pure_bind]
  split
  · exact hclock _
  · exact hclock _

/-- What is handed on is what the checks have made of the arguments. -/
theorem queryLogs_goodPath (id : Option Json) {arguments : Members}
    (hgood : ∀ normalized, normalizeLogsQuery arguments = .ok normalized → good normalized.query) :
    (queryLogs id arguments).All (GoodPath good) := by
  rw [queryLogs]
  split
  case h_1 err _ => exact GoodPath.pure _
  case h_2 normalized hnormalized =>
    obtain ⟨start, finish, hvalid⟩ := normalizeLogsQuery_valid hnormalized
    intro answer
    have hquery : ∀ query, (.inl (.listJournalLogs query) : AppSig.Op)
        = .inl (.listJournalLogs normalized.query) → good query := by
      intro query heq
      cases heq
      exact hgood normalized hnormalized
    cases answer with
    | error err => exact GoodPath.cons hquery (GoodPath.pure _)
    | ok result =>
        exact Prog.All_mono (fun _ _ => GoodPath.cons hquery)
          (logsResponse_goodPath id hvalid result)

end GoodPaths

/-- **Every query is well formed**, along every path through the handler. -/
theorem handleListLogs_goodPath (id : Option Json) (arguments : Option Members) :
    (handleListLogs id arguments).All (GoodPath (WellFormed (arguments.getD []))) := by
  rw [handleListLogs]
  split
  case h_1 err _ => exact GoodPath.pure _
  case h_2 => exact queryLogs_goodPath id fun _ => normalizeLogsQuery_wellFormed
  case h_3 unit scope _ =>
    intro answer
    have hlookup : ∀ query, (.inl (.listJournalLogs query) : AppSig.Op)
        = .inl (.unitMainStart unit scope) → WellFormed (arguments.getD []) query := by
      intro query heq
      cases heq
    rcases answer with err | _ | start
    · exact GoodPath.cons hlookup (GoodPath.pure _)
    · exact GoodPath.cons hlookup (GoodPath.pure _)
    · exact Prog.All_mono (fun _ _ => GoodPath.cons hlookup) (queryLogs_goodPath id
        fun _ hnormalized => wellFormed_of_withStart (normalizeLogsQuery_wellFormed hnormalized))

/-! ## The start -/

omit [McpSdk] [HashOrder] [Chrono] in
theorem startLookup_given {arguments : Members}
    (hsince : Json.member arguments "since_last_start" ≠ some (.bool true)) :
    startLookup arguments = .ok none := by
  rw [startLookup, if_neg]
  intro hbool
  obtain ⟨v, hv, htrue⟩ := Option.bind_eq_some_iff.mp hbool
  cases v <;> cases htrue
  exact hsince hv

omit [McpSdk] [HashOrder] [Chrono] in
theorem normalizeConcreteScope_of_chosen {arguments : Members} {scope : UnitScope}
    (h : ChoosesScope arguments scope) (message : String) :
    normalizeConcreteScope message ((Json.member arguments "scope").bind Json.asStr)
      = .ok scope := by
  cases scope with
  | system =>
      simp only [ChoosesScope, List.mem_cons, List.not_mem_nil, or_false] at h
      rw [normalizeConcreteScope, normalizeScope]
      rcases h with h | h <;> rw [h]
      rfl
  | user =>
      rw [normalizeConcreteScope, normalizeScope, show chosenWord _ = _ from h]
      rfl
  | both => exact h.elim

omit [McpSdk] [HashOrder] [Chrono] in
/-- A start is looked up in one manager's scope. -/
theorem startLookup_concrete {arguments : Members} {unit : String} {scope : UnitScope}
    (h : startLookup arguments = .ok (some (unit, scope))) : scope ≠ .both := by
  rw [startLookup] at h
  split at h
  · split at h
    · cases h
    · split at h
      · obtain ⟨concrete, hconcrete, heq⟩ := bind_eq_ok.mp h
        cases heq
        exact normalizeConcreteScope_ne_both hconcrete
      · cases h
  · cases h

omit [McpSdk] [HashOrder] [Chrono] in
theorem startLookup_lookedUp {arguments : Members} {unit : String} {scope : UnitScope}
    (hsince : Json.member arguments "since_last_start" = some (.bool true))
    (hstart : Json.member arguments "start_utc" = none)
    (hunit : Json.member arguments "unit" = some (.str unit)) (hname : UnitName (trim unit))
    (hscope : ChoosesScope arguments scope) :
    startLookup arguments = .ok (some (trim unit, scope)) := by
  have hsinceTrue : (Json.member arguments "since_last_start").bind Json.asBool = some true := by
    rw [hsince]
    rfl
  have hunitStr : (Json.member arguments "unit").bind Json.asStr = some unit := by
    rw [hunit]
    rfl
  have habsent : (Json.member arguments "start_utc").isSome ≠ true := by
    rw [hstart]
    exact Bool.false_ne_true
  rw [startLookup, if_pos hsinceTrue, if_neg habsent, hunitStr,
    normalizeUnit_some_iff.mpr ⟨hname, rfl⟩]
  dsimp only
  rw [normalizeConcreteScope_of_chosen hscope, ok_bind]
  rfl

omit [McpSdk] [HashOrder] in
/-- The start among the arguments leaves the constraints on all others as they are. -/
theorem meetsConstraints_withStart {arguments : Members} {latest start finish : DateTime}
    (h : MeetsConstraints arguments start finish) :
    MeetsConstraints (withStart arguments latest) start finish := by
  have hsame : ∀ {α : Type} {decode : Json → Option α} {name : String} {P : α → Prop},
      name ≠ "start_utc" → Json.Optionally decode arguments name P →
      Json.Optionally decode (withStart arguments latest) name P := by
    intro α decode name P hname hgiven
    rw [Json.Optionally, Json.Missing, member_withStart hname]
    exact hgiven
  have hend : RequiredUtc (withStart arguments latest) "end_utc" finish := by
    rw [RequiredUtc, member_withStart (by decide)]
    exact h.endUtc
  have hwindow : finish.sub start ≤ sevenDays
      ∨ Json.member (withStart arguments latest) "allow_large_window" = some (.bool true) := by
    rw [member_withStart (by decide)]
    exact h.window
  exact ⟨hsame (by decide) h.scope, hsame (by decide) h.priority, hsame (by decide) h.unit, hend,
    hsame (by decide) h.grep, hsame (by decide) h.excludeUnits, hsame (by decide) h.order,
    hsame (by decide) h.allowLargeWindow, hsame (by decide) h.limit, hsame (by decide) h.summary,
    hsame (by decide) h.cursor, hsame (by decide) h.fields, hsame (by decide) h.groupBy,
    hsame (by decide) h.sinceLastStart, h.ordered, hwindow⟩

omit [McpSdk] [HashOrder] in
/-- The start that has been looked up is the one among the arguments. -/
theorem requiredUtc_withStart {arguments : Members} {latest start : DateTime}
    (hread : parseUtc (some (Chrono.toRfc3339Millis latest)) = .ok (some start)) :
    RequiredUtc (withStart arguments latest) "start_utc" start := by
  obtain ⟨hz, hparse⟩ := parseUtc_eq_ok_iff.mp hread
  exact ⟨_, by rw [withStart, Json.member_setMember, if_pos rfl], hz, hparse⟩

/-! ## Requests and queries -/

variable {σ : Type}

/-- Arguments that meet the constraints are handed on as a query. -/
theorem queryLogs_executes (id : Option Json) (h : Host AppSig σ) (s : σ) {arguments : Members}
    {start finish : DateTime} (hstart : RequiredUtc arguments "start_utc" start)
    (hmeets : MeetsConstraints arguments start finish) :
    ∃ query, .inl (.listJournalLogs query) ∈ ((queryLogs id arguments).run h s).trace
      ∧ query.startUtc = some start ∧ query.endUtc = some finish
      ∧ query.excludeUnits = (excludedNames arguments).map trim := by
  obtain ⟨normalized, hnormalized, hbounds⟩ := normalizeLogsQuery_complete hstart hmeets
  refine ⟨normalized.query, ?_, hbounds⟩
  rw [queryLogs, hnormalized]
  exact List.mem_cons_self

/-- **Exactly the documented requests are executed**: along every path the handler responds, and a
query that it executes is well formed; and a request that meets the documented constraints is
executed, over its own window and with its own exclusions, one by one and in their order. -/
theorem listLogs_exact (id : Option Json) (arguments : Option Members) :
    (handleListLogs id arguments).All (fun trace outcome =>
      (∃ response, outcome = .done response)
        ∧ ∀ query, .inl (.listJournalLogs query) ∈ trace →
            WellFormed (arguments.getD []) query)
    ∧ ∀ {σ : Type} (h : Host AppSig σ) (s : σ) (start finish : DateTime),
        StartsAt h s (arguments.getD []) start →
        MeetsConstraints (arguments.getD []) start finish →
        ∃ query, .inl (.listJournalLogs query) ∈ ((handleListLogs id arguments).run h s).trace
          ∧ query.startUtc = some start ∧ query.endUtc = some finish
          ∧ query.excludeUnits = (excludedNames (arguments.getD [])).map trim := by
  refine ⟨handleListLogs_goodPath id arguments, ?_⟩
  intro σ h s start finish hstarts hmeets
  rcases hstarts with ⟨hsince, hstart⟩
    | @⟨unit, scope, latest, hsince, habsent, hunit, hname, hscope, hlatest, hread⟩
  · rw [handleListLogs, startLookup_given hsince]
    exact queryLogs_executes id h s hstart hmeets
  · obtain ⟨query, hquery, hbounds⟩ := queryLogs_executes id h
      (h.answer (.inl (.unitMainStart (trim unit) scope)) s).2
      (requiredUtc_withStart hread) (meetsConstraints_withStart hmeets)
    have hexcluded : excludedNames (withStart (arguments.getD []) latest)
        = excludedNames (arguments.getD []) := by
      rw [excludedNames, excludedNames, member_withStart (by decide)]
    rw [hexcluded] at hbounds
    refine ⟨query, ?_, hbounds⟩
    rw [handleListLogs, startLookup_lookedUp hsince habsent hunit hname hscope]
    exact mem_trace_respond_iff.mpr (.inr ⟨some latest, hlatest, hquery⟩)

end Requests

/-! ## A week since the last start -/

/-- A host that knows when units have been started, and nothing else. -/
def startedHost : Host AppSig Unit where
  answer
    | .inl (.unitMainStart _ _), s => (.ok (some (.ofSecs 1767225600)), s)
    | .inl _, s => (.error (.internalError "no bus"), s)
    | .inr .utcNow, s => (.ofSecs 1767830400, s)
    | .inr (.audit _), s => ((), s)

/-- Seven days of one unit's log, two others excluded. -/
def sinceStartArguments : Members :=
  [("since_last_start", .bool true), ("unit", .str "backup.service"),
    ("end_utc", .str "2026-01-08T00:00:00Z"),
    ("exclude_units", .arr [.str "b.service", .str " a.service "])]

theorem listLogs_exact_sinceStart : ∃ query,
    .inl (.listJournalLogs query) ∈ ((@handleListLogs rfc3339 plainSdk nameOrder (some (.int 1))
      (some sinceStartArguments)).run startedHost ()).trace
    ∧ query.startUtc = some (.ofSecs 1767225600) ∧ query.endUtc = some (.ofSecs 1767830400)
    ∧ query.excludeUnits = ["b.service", "a.service"] := by
  have hmissing : ∀ {α : Type} {decode : Json → Option α} {name : String} {P : α → Prop},
      Json.member sinceStartArguments name = none →
      Json.Optionally decode sinceStartArguments name P := fun h => .inl (.inl h)
  have hname : ∀ {unit : String}, unit ≠ "" ∧ isValidUnitNameChars unit = true → UnitName unit :=
    isValidUnitNameChars_iff.mp
  refine (@listLogs_exact rfc3339 plainSdk nameOrder (some (.int 1))
    (some sinceStartArguments)).2 startedHost () (.ofSecs 1767225600) (.ofSecs 1767830400) ?_ ?_
  · exact @StartsAt.lookedUp rfc3339 Unit startedHost () _ _ "backup.service" .system
      (.ofSecs 1767225600) rfl rfl rfl (hname (by decide)) List.mem_cons_self rfl rfl
  · refine @MeetsConstraints.mk rfc3339 _ _ _ (hmissing rfl) (hmissing rfl)
      (.inr ⟨_, _, rfl, rfl, hname (by decide)⟩) ⟨_, rfl, rfl, rfl⟩ (hmissing rfl)
      (.inr ⟨_, _, rfl, rfl, ?_⟩) (hmissing rfl) (hmissing rfl) (hmissing rfl) (hmissing rfl)
      (hmissing rfl) (hmissing rfl) (hmissing rfl) (.inr ⟨_, _, rfl, rfl, trivial⟩) (by decide)
      (.inl (by decide))
    intro unit hunit
    rcases List.mem_cons.mp hunit with rfl | hunit
    · exact hname (by decide)
    · rw [List.mem_singleton.mp hunit]
      exact hname (by decide)

end SystemdMonitoring
