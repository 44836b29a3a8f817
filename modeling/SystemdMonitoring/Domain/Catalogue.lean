/-
# `SystemdMonitoring.Domain.Catalogue` — the catalogue says what tools take

A tool's arguments are written down twice in the source: in the structure that the
advertised schema is made of, and in what its handler decodes.  Nothing keeps the
two together but care.

They do agree.  A handler looks at no argument that is not declared: two calls
whose declared arguments agree are the same call (`handles_declared`).  And it
takes none that the schema does not admit: an argument of another type, or a
required one that is missing, is refused, and no rows are asked for
(`refuses_unadmitted`).  What may still be asked for is the start of a unit, which
`list_logs` looks up before it decodes the rest.
-/
import SystemdMonitoring.Domain.ListedRows
import SystemdMonitoring.Domain.LogRequests
import SystemdMonitoring.Domain.Tools
import SystemdMonitoring.Lib.Pool

namespace SystemdMonitoring

open Lib

/-! ## Schemas -/

/-- A value of that type. -/
def ArgumentType.fits : ArgumentType → Json → Bool
  | .string, value => value.asStr.isSome
  | .u32, value => value.asU32.isSome
  | .bool, value => value.asBool.isSome
  | .strings, value => value.asStrings.isSome

/-- What a schema says of one argument: it has a value of its type, or none and need not have. -/
def ToolArgument.Admits (argument : ToolArgument) (members : Members) : Prop :=
  (argument.required = false ∧ Json.Missing members argument.name)
    ∨ ∃ value, Json.member members argument.name = some value
      ∧ argument.type.fits value = true

def Tool.Admits (tool : Tool) (members : Members) : Prop :=
  ∀ argument ∈ tool.arguments, argument.Admits members

/-- The names that a tool declares. -/
def Tool.declares (tool : Tool) : List String := tool.arguments.map ToolArgument.name

/-- The same value, or none, under each of these names. -/
def AgreeOn (names : List String) (members members' : Members) : Prop :=
  ∀ name ∈ names, Json.member members name = Json.member members' name

theorem optionalMember_congr {α : Type} (decode : Json → Option α) {members members' : Members}
    {name : String} (h : Json.member members name = Json.member members' name) :
    Json.optionalMember decode members name = Json.optionalMember decode members' name := by
  rw [Json.optionalMember, Json.optionalMember, h]

/-- An argument that has been read is one that the schema admits. -/
theorem admits_of_optionalMember {α : Type} {decode : Json → Option α} {members : Members}
    {argument : ToolArgument} {value : Option α} (hoptional : argument.required = false)
    (hdecode : ∀ v a, decode v = some a → argument.type.fits v = true)
    (h : Json.optionalMember decode members argument.name = some value) :
    argument.Admits members := by
  cases value with
  | none => exact .inl ⟨hoptional, Json.optionalMember_eq_none_iff.mp h⟩
  | some a =>
      obtain ⟨v, -, hv, ha⟩ := Json.optionalMember_eq_some_iff.mp h
      exact .inr ⟨v, hv, hdecode v a ha⟩

section Types

variable {members : Members} {name : String}

theorem admits_string {value : Option String}
    (h : Json.optionalMember Json.asStr members name = some value) :
    (⟨name, .string, false⟩ : ToolArgument).Admits members :=
  admits_of_optionalMember rfl (fun _ _ ha => Option.isSome_of_eq_some ha) h

theorem admits_u32 {value : Option Nat}
    (h : Json.optionalMember Json.asU32 members name = some value) :
    (⟨name, .u32, false⟩ : ToolArgument).Admits members :=
  admits_of_optionalMember rfl (fun _ _ ha => Option.isSome_of_eq_some ha) h

theorem admits_bool {value : Option Bool}
    (h : Json.optionalMember Json.asBool members name = some value) :
    (⟨name, .bool, false⟩ : ToolArgument).Admits members :=
  admits_of_optionalMember rfl (fun _ _ ha => Option.isSome_of_eq_some ha) h

theorem admits_strings {value : Option (List String)}
    (h : Json.optionalMember Json.asStrings members name = some value) :
    (⟨name, .strings, false⟩ : ToolArgument).Admits members :=
  admits_of_optionalMember rfl (fun _ _ ha => Option.isSome_of_eq_some ha) h

/-- A required string. -/
theorem admits_required {value : String}
    (h : (Json.member members name).bind Json.asStr = some value) :
    (⟨name, .string, true⟩ : ToolArgument).Admits members := by
  obtain ⟨v, hv, hvalue⟩ := Option.bind_eq_some_iff.mp h
  exact .inr ⟨v, hv, Option.isSome_of_eq_some hvalue⟩

end Types

/-! ## What is decoded is admitted -/

theorem decoded_eq_ok_iff {α : Type} {value : Option α} {a : α} :
    decoded value = .ok a ↔ value = some a := by
  cases value <;> simp [decoded]

theorem listServices_admits {arguments : Option Members} {normalized : NormalizedServicesQuery}
    (h : normalizeServicesQuery arguments = .ok normalized) :
    listServicesTool.Admits (arguments.getD []) := by
  rw [normalizeServicesQuery, bind_eq_ok] at h
  obtain ⟨params, hparams, -⟩ := h
  have hdecoded := decoded_eq_ok_iff.mp hparams
  rw [decodeServicesQueryParams] at hdecoded
  obtain ⟨scope, hscope, hdecoded⟩ := Option.bind_eq_some_iff.mp hdecoded
  obtain ⟨state, hstate, hdecoded⟩ := Option.bind_eq_some_iff.mp hdecoded
  obtain ⟨nameContains, hname, hdecoded⟩ := Option.bind_eq_some_iff.mp hdecoded
  obtain ⟨limit, hlimit, hdecoded⟩ := Option.bind_eq_some_iff.mp hdecoded
  obtain ⟨summary, hsummary, -⟩ := Option.bind_eq_some_iff.mp hdecoded
  intro argument hargument
  simp only [listServicesTool, optionalArguments, List.map_cons, List.map_nil, List.mem_cons,
    List.not_mem_nil, or_false] at hargument
  rcases hargument with rfl | rfl | rfl | rfl | rfl
  · exact admits_string hscope
  · exact admits_string hstate
  · exact admits_string hname
  · exact admits_u32 hlimit
  · exact admits_bool hsummary

theorem getUnitStatus_admits {arguments : Option Members} {query : UnitStatusQuery}
    (h : normalizeUnitStatusQuery arguments = .ok query) :
    getUnitStatusTool.Admits (arguments.getD []) := by
  rw [normalizeUnitStatusQuery, bind_eq_ok] at h
  obtain ⟨params, hparams, -⟩ := h
  have hdecoded := decoded_eq_ok_iff.mp hparams
  rw [decodeUnitStatusParams] at hdecoded
  obtain ⟨unit, hunit, hdecoded⟩ := Option.bind_eq_some_iff.mp hdecoded
  obtain ⟨scope, hscope, hdecoded⟩ := Option.bind_eq_some_iff.mp hdecoded
  obtain ⟨limit, hlimit, -⟩ := Option.bind_eq_some_iff.mp hdecoded
  intro argument hargument
  simp only [getUnitStatusTool, optionalArguments, List.map_cons, List.map_nil, List.cons_append,
    List.nil_append, List.mem_cons, List.not_mem_nil, or_false] at hargument
  rcases hargument with rfl | rfl | rfl
  · exact admits_required hunit
  · exact admits_string hscope
  · exact admits_u32 hlimit

/-- `list_timers` parses its arguments itself, and takes no null for an absent one. -/
theorem admits_of_parse {α : Type} {read : Json → Except AppError α} {members : Members}
    {argument : ToolArgument} {value : Option α} (hoptional : argument.required = false)
    (hread : ∀ v a, read v = .ok a → argument.type.fits v = true)
    (h : parseOptionalArgument read members argument.name = .ok value) :
    argument.Admits members := by
  rw [parseOptionalArgument] at h
  split at h
  case h_1 hnone => exact .inl ⟨hoptional, .inl hnone⟩
  case h_2 v hv =>
    cases hvalue : read v with
    | ok a => exact .inr ⟨v, hv, hread v a hvalue⟩
    | error err =>
        rw [hvalue] at h
        cases h

theorem expectedValue_eq_ok_iff {α : Type} {message : String} {value : Option α} {a : α} :
    expectedValue message value = .ok a ↔ value = some a := by
  cases value <;> simp [expectedValue]

/-- A number that is in range is one of thirty-two bits. -/
theorem asU32_of_asU64 {v : Json} {raw : Nat} (h : v.asU64 = some raw) (hlt : raw < 2 ^ 32) :
    v.asU32.isSome = true := by
  cases v with
  | int i =>
      rw [Json.asU64] at h
      split at h
      · cases h
        rw [Json.asU32, if_pos]
        · rfl
        · omega
      · cases h
  | _ => cases h

theorem listTimers_admits [Chrono] {arguments : Option Members} {normalized : NormalizedTimersQuery}
    (h : normalizeTimersQuery arguments = .ok normalized) :
    listTimersTool.Admits (arguments.getD []) := by
  have hstring : ∀ {name : String} {value : Option String},
      parseOptionalStringArgument (arguments.getD []) name = .ok value →
      (⟨name, .string, false⟩ : ToolArgument).Admits (arguments.getD []) := by
    intro name value hparse
    refine admits_of_parse rfl ?_ hparse
    intro v a ha
    exact Option.isSome_of_eq_some (expectedValue_eq_ok_iff.mp ha)
  have hbool : ∀ {name : String} {value : Option Bool},
      parseOptionalBoolArgument (arguments.getD []) name = .ok value →
      (⟨name, .bool, false⟩ : ToolArgument).Admits (arguments.getD []) := by
    intro name value hparse
    refine admits_of_parse rfl ?_ hparse
    intro v a ha
    exact Option.isSome_of_eq_some (expectedValue_eq_ok_iff.mp ha)
  have hu32 : ∀ {name : String} {value : Option Nat},
      parseOptionalU32Argument (arguments.getD []) name = .ok value →
      (⟨name, .u32, false⟩ : ToolArgument).Admits (arguments.getD []) := by
    intro name value hparse
    refine admits_of_parse rfl ?_ hparse
    intro v a ha
    obtain ⟨raw, hraw, hrange⟩ := bind_eq_ok.mp ha
    split at hrange
    · next hlt => exact asU32_of_asU64 (expectedValue_eq_ok_iff.mp hraw) hlt
    · cases hrange
  rw [normalizeTimersQuery, bind_eq_ok] at h
  obtain ⟨params, hparams, -⟩ := h
  simp only [parseTimersQueryParams, bind_eq_ok] at hparams
  obtain ⟨scope, hscope, limit, hlimit, nameContains, hname, state, hstate, summary, hsummary,
    includePersistent, hpersistent, overdueOnly, hoverdue, sort, hsort, order, horder, -⟩ := hparams
  intro argument hargument
  simp only [listTimersTool, optionalArguments, List.map_cons, List.map_nil, List.mem_cons,
    List.not_mem_nil, or_false] at hargument
  rcases hargument with rfl | rfl | rfl | rfl | rfl | rfl | rfl | rfl | rfl
  · exact hstring hscope
  · exact hu32 hlimit
  · exact hstring hname
  · exact hstring hstate
  · exact hbool hsummary
  · exact hbool hpersistent
  · exact hbool hoverdue
  · exact hstring hsort
  · exact hstring horder

/-- A query for logs has an end, though what is decoded need not have one. -/
theorem listLogs_admits [Chrono] {arguments : Members} {normalized : NormalizedLogsQuery}
    (h : normalizeLogsQuery arguments = .ok normalized) : listLogsTool.Admits arguments := by
  obtain ⟨params, hdecoded, hquery⟩ := normalizeLogsQuery_built h
  have hend : ∃ value, params.endUtc = some value := by
    rw [buildLogQuery, bind_eq_ok] at hquery
    obtain ⟨⟨start, finish⟩, hwindow, -⟩ := hquery
    obtain ⟨-, hend, -⟩ := logWindow_eq_ok_iff.mp hwindow
    cases hvalue : params.endUtc with
    | none =>
        rw [hvalue] at hend
        cases hend
    | some value => exact ⟨value, rfl⟩
  rw [decodeLogsQueryParams] at hdecoded
  obtain ⟨scope, hscope, hdecoded⟩ := Option.bind_eq_some_iff.mp hdecoded
  obtain ⟨priority, hpriority, hdecoded⟩ := Option.bind_eq_some_iff.mp hdecoded
  obtain ⟨unit, hunit, hdecoded⟩ := Option.bind_eq_some_iff.mp hdecoded
  obtain ⟨startUtc, hstart, hdecoded⟩ := Option.bind_eq_some_iff.mp hdecoded
  obtain ⟨endUtc, hendUtc, hdecoded⟩ := Option.bind_eq_some_iff.mp hdecoded
  obtain ⟨grep, hgrep, hdecoded⟩ := Option.bind_eq_some_iff.mp hdecoded
  obtain ⟨excludeUnits, hexclude, hdecoded⟩ := Option.bind_eq_some_iff.mp hdecoded
  obtain ⟨order, horder, hdecoded⟩ := Option.bind_eq_some_iff.mp hdecoded
  obtain ⟨allowLargeWindow, hallow, hdecoded⟩ := Option.bind_eq_some_iff.mp hdecoded
  obtain ⟨limit, hlimit, hdecoded⟩ := Option.bind_eq_some_iff.mp hdecoded
  obtain ⟨summary, hsummary, hdecoded⟩ := Option.bind_eq_some_iff.mp hdecoded
  obtain ⟨cursor, hcursor, hdecoded⟩ := Option.bind_eq_some_iff.mp hdecoded
  obtain ⟨fields, hfields, hdecoded⟩ := Option.bind_eq_some_iff.mp hdecoded
  obtain ⟨groupBy, hgroup, hdecoded⟩ := Option.bind_eq_some_iff.mp hdecoded
  obtain ⟨sinceLastStart, hsince, hdecoded⟩ := Option.bind_eq_some_iff.mp hdecoded
  cases hdecoded
  obtain ⟨value, rfl⟩ := hend
  intro argument hargument
  simp only [listLogsTool, optionalArguments, List.map_cons, List.map_nil, List.cons_append,
    List.nil_append, List.mem_cons, List.not_mem_nil, or_false] at hargument
  rcases hargument with rfl | rfl | rfl | rfl | rfl | rfl | rfl | rfl | rfl | rfl | rfl | rfl
    | rfl | rfl | rfl
  · exact admits_string hscope
  · exact admits_string hpriority
  · exact admits_string hunit
  · exact admits_string hstart
  · obtain ⟨v, -, hv, hvalue⟩ := Json.optionalMember_eq_some_iff.mp hendUtc
    exact .inr ⟨v, hv, Option.isSome_of_eq_some hvalue⟩
  · exact admits_string hgrep
  · exact admits_strings hexclude
  · exact admits_string horder
  · exact admits_bool hallow
  · exact admits_u32 hlimit
  · exact admits_bool hsummary
  · exact admits_string hcursor
  · exact admits_strings hfields
  · exact admits_string hgroup
  · exact admits_bool hsince

/-- The start that has been looked up takes the place of one that is not there. -/
theorem admits_of_withStart [Chrono] {arguments : Members} {start : DateTime}
    (habsent : Json.member arguments "start_utc" = none)
    (h : listLogsTool.Admits (withStart arguments start)) : listLogsTool.Admits arguments := by
  intro argument hargument
  by_cases hname : argument.name = "start_utc"
  · have hoptional : argument.required = false := by
      simp only [listLogsTool, optionalArguments, List.map_cons, List.map_nil, List.cons_append,
        List.nil_append, List.mem_cons, List.not_mem_nil, or_false] at hargument
      rcases hargument with rfl | rfl | rfl | rfl | rfl | rfl | rfl | rfl | rfl | rfl | rfl | rfl
        | rfl | rfl | rfl <;> first | rfl | exact absurd hname (by decide)
    refine .inl ⟨hoptional, .inl ?_⟩
    rw [hname]
    exact habsent
  · have hsame : Json.member (withStart arguments start) argument.name
        = Json.member arguments argument.name := by
      rw [withStart, Json.member_setMember, if_neg (Ne.symm hname)]
    have hadmits := h argument hargument
    rw [ToolArgument.Admits, Json.Missing, hsame] at hadmits
    exact hadmits

/-- A start is looked up when none is given. -/
theorem startLookup_absent {arguments : Members} {unit : String} {scope : UnitScope}
    (h : startLookup arguments = .ok (some (unit, scope))) :
    Json.member arguments "start_utc" = none := by
  rw [startLookup] at h
  split at h
  · split at h
    · cases h
    · next habsent => simpa using habsent
  · cases h

/-! ## What is not declared is not looked at -/

section Declared

variable {arguments arguments' : Option Members}

theorem normalizeServicesQuery_congr
    (h : AgreeOn listServicesTool.declares (arguments.getD []) (arguments'.getD [])) :
    normalizeServicesQuery arguments = normalizeServicesQuery arguments' := by
  simp only [AgreeOn, Tool.declares, listServicesTool, optionalArguments, List.map_cons,
    List.map_nil, List.forall_mem_cons] at h
  obtain ⟨hscope, hstate, hname, hlimit, hsummary, -⟩ := h
  rw [normalizeServicesQuery, normalizeServicesQuery, decodeServicesQueryParams,
    decodeServicesQueryParams, optionalMember_congr _ hscope, optionalMember_congr _ hstate,
    optionalMember_congr _ hname, optionalMember_congr _ hlimit, optionalMember_congr _ hsummary]

theorem normalizeUnitStatusQuery_congr
    (h : AgreeOn getUnitStatusTool.declares (arguments.getD []) (arguments'.getD [])) :
    normalizeUnitStatusQuery arguments = normalizeUnitStatusQuery arguments' := by
  simp only [AgreeOn, Tool.declares, getUnitStatusTool, optionalArguments, List.map_cons,
    List.map_nil, List.cons_append, List.nil_append, List.forall_mem_cons] at h
  obtain ⟨hunit, hscope, hlimit, -⟩ := h
  rw [normalizeUnitStatusQuery, normalizeUnitStatusQuery, decodeUnitStatusParams,
    decodeUnitStatusParams, hunit, optionalMember_congr _ hscope, optionalMember_congr _ hlimit]

theorem parseOptionalArgument_congr {α : Type} (read : Json → Except AppError α)
    {members members' : Members} {name : String}
    (h : Json.member members name = Json.member members' name) :
    parseOptionalArgument read members name = parseOptionalArgument read members' name := by
  rw [parseOptionalArgument, parseOptionalArgument, h]

theorem normalizeTimersQuery_congr [Chrono]
    (h : AgreeOn listTimersTool.declares (arguments.getD []) (arguments'.getD [])) :
    normalizeTimersQuery arguments = normalizeTimersQuery arguments' := by
  simp only [AgreeOn, Tool.declares, listTimersTool, optionalArguments, List.map_cons,
    List.map_nil, List.forall_mem_cons] at h
  obtain ⟨hscope, hlimit, hname, hstate, hsummary, hpersistent, hoverdue, hsort, horder, -⟩ := h
  have hparams : parseTimersQueryParams arguments = parseTimersQueryParams arguments' := by
    simp only [parseTimersQueryParams, parseOptionalStringArgument, parseOptionalBoolArgument,
      parseOptionalU32Argument]
    rw [parseOptionalArgument_congr _ hscope, parseOptionalArgument_congr _ hlimit,
      parseOptionalArgument_congr _ hname, parseOptionalArgument_congr _ hstate,
      parseOptionalArgument_congr _ hsummary, parseOptionalArgument_congr _ hpersistent,
      parseOptionalArgument_congr _ hoverdue, parseOptionalArgument_congr _ hsort,
      parseOptionalArgument_congr _ horder]
  rw [normalizeTimersQuery, normalizeTimersQuery, hparams]

/-- What agrees on the arguments of `list_logs` decodes alike, and looks up the same start. -/
theorem decodeLogsQueryParams_congr {members members' : Members}
    (h : AgreeOn listLogsTool.declares members members') :
    decodeLogsQueryParams members = decodeLogsQueryParams members'
      ∧ startLookup members = startLookup members' := by
  simp only [AgreeOn, Tool.declares, listLogsTool, optionalArguments, List.map_cons, List.map_nil,
    List.cons_append, List.nil_append, List.forall_mem_cons] at h
  obtain ⟨hscope, hpriority, hunit, hstart, hend, hgrep, hexclude, horder, hallow, hlimit,
    hsummary, hcursor, hfields, hgroup, hsince, -⟩ := h
  constructor
  · rw [decodeLogsQueryParams, decodeLogsQueryParams, optionalMember_congr _ hscope,
      optionalMember_congr _ hpriority, optionalMember_congr _ hunit,
      optionalMember_congr _ hstart, optionalMember_congr _ hend, optionalMember_congr _ hgrep,
      optionalMember_congr _ hexclude, optionalMember_congr _ horder,
      optionalMember_congr _ hallow, optionalMember_congr _ hlimit,
      optionalMember_congr _ hsummary, optionalMember_congr _ hcursor,
      optionalMember_congr _ hfields, optionalMember_congr _ hgroup,
      optionalMember_congr _ hsince]
  · rw [startLookup, startLookup, hsince, hstart, hunit, hscope]

theorem queryLogs_congr [Chrono] [McpSdk] [HashOrder] (id : Option Json)
    {members members' : Members} (h : AgreeOn listLogsTool.declares members members') :
    queryLogs id members = queryLogs id members' := by
  rw [queryLogs, queryLogs, normalizeLogsQuery, normalizeLogsQuery,
    (decodeLogsQueryParams_congr h).1]

theorem AgreeOn.withStart [Chrono] {names : List String} {members members' : Members}
    (h : AgreeOn names members members') (start : DateTime) :
    AgreeOn names (withStart members start) (withStart members' start) := by
  intro name hname
  rw [SystemdMonitoring.withStart, SystemdMonitoring.withStart, Json.member_setMember,
    Json.member_setMember, h name hname]

variable [Chrono] [McpSdk] [HashOrder]

/-- **A handler looks at what its tool declares**, and at nothing else. -/
theorem handles_declared {tool : Tool} (htool : tool ∈ buildToolsList)
    {handler : Option Json → Option Members → App Json}
    (hhandler : toolHandler tool.name = some handler) (id : Option Json)
    (h : AgreeOn tool.declares (arguments.getD []) (arguments'.getD [])) :
    handler id arguments = handler id arguments' := by
  simp only [buildToolsList, List.mem_cons, List.not_mem_nil, or_false] at htool
  rcases htool with rfl | rfl | rfl | rfl | rfl | rfl <;> cases hhandler
  · rw [handleListServices, handleListServices, normalizeServicesQuery_congr h]
  · rw [handleListTimers, handleListTimers, normalizeTimersQuery_congr h]
  · have hstart : logsFromStart id (arguments.getD []) = logsFromStart id (arguments'.getD []) := by
      funext start
      cases start with
      | some start => exact queryLogs_congr id (h.withStart start)
      | none => rfl
    rw [handleListLogs, handleListLogs, (decodeLogsQueryParams_congr h).2, queryLogs_congr id h,
      hstart]
  · rw [handleUnitStatus, handleUnitStatus, normalizeUnitStatusQuery_congr h]
  · rw [handleContainer, handleContainer, h "container" List.mem_cons_self]
  · rw [handlePod, handlePod, h "pod" List.mem_cons_self]

end Declared

/-! ## What is not admitted is refused -/

/-- The lookup of a unit's start. -/
def IsStartLookup : AppSig.Op → Prop
  | .inl (.unitMainStart _ _) => True
  | _ => False

/-- A call that comes to an error, and asks for the start of a unit at most. -/
structure TurnedDown [McpSdk] (p : App Json) : Prop where
  fails : p.Returns fun response => isJsonRpcError response = true
  asks : p.Only IsStartLookup

section TurnedDown

variable [McpSdk] [LawfulMcpSdk] {id : Option Json}

theorem isJsonRpcError_invalidParams (id : Option Json) :
    isJsonRpcError (jsonRpcInvalidParams id) = true := by
  rw [isJsonRpcError, jsonRpcInvalidParams, jsonRpcError, get_error_jsonRpcErrorWithData]
  rfl

omit [LawfulMcpSdk] in
theorem TurnedDown.value {response : Json} (h : isJsonRpcError response = true) :
    TurnedDown (pure response) :=
  ⟨Prog.Returns.value h, .pure _⟩

theorem TurnedDown.malformed : TurnedDown (pure (jsonRpcInvalidParams id)) :=
  .value (isJsonRpcError_invalidParams id)

theorem TurnedDown.domain (err : AppError) : TurnedDown (pure (appErrorToJsonRpc id err)) :=
  .value (isJsonRpcError_appError id err)

theorem TurnedDown.normalizeError (err : NormalizeError) : TurnedDown (pure (err.response id)) := by
  cases err with
  | invalidParams => exact .malformed
  | domain err => exact .domain err

variable [Chrono] [HashOrder]

theorem queryLogs_refused {members : Members} (h : ¬ listLogsTool.Admits members) :
    TurnedDown (queryLogs id members) := by
  rw [queryLogs]
  split
  · exact .normalizeError _
  · next normalized hnormalized => exact absurd (listLogs_admits hnormalized) h

/-- **Arguments that the schema does not admit are refused.** -/
theorem refuses_unadmitted {tool : Tool} (htool : tool ∈ buildToolsList)
    {handler : Option Json → Option Members → App Json}
    (hhandler : toolHandler tool.name = some handler) {arguments : Option Members}
    (h : ¬ tool.Admits (arguments.getD [])) : TurnedDown (handler id arguments) := by
  have hrequired : ∀ {name : String} {tool : Tool}, tool.arguments = [⟨name, .string, true⟩] →
      ∀ {value : String}, (Json.member (arguments.getD []) name).bind Json.asStr = some value →
      tool.Admits (arguments.getD []) := by
    intro name tool harguments value hvalue argument hargument
    rw [harguments, List.mem_singleton] at hargument
    subst hargument
    exact admits_required hvalue
  simp only [buildToolsList, List.mem_cons, List.not_mem_nil, or_false] at htool
  rcases htool with rfl | rfl | rfl | rfl | rfl | rfl <;> cases hhandler
  · rw [handleListServices]
    split
    · exact .normalizeError _
    · next normalized hnormalized => exact absurd (listServices_admits hnormalized) h
  · rw [handleListTimers]
    split
    · exact .domain _
    · next normalized hnormalized => exact absurd (listTimers_admits hnormalized) h
  · rw [handleListLogs]
    split
    · exact .domain _
    · exact queryLogs_refused h
    · next unit scope hlookup =>
        have hrest : ∀ answer, TurnedDown (logsFromStart id (arguments.getD []) answer) := by
          intro answer
          cases answer with
          | some start =>
              refine queryLogs_refused ?_
              intro hadmits
              exact h (admits_of_withStart (startLookup_absent hlookup) hadmits)
          | none => exact .domain _
        refine ⟨respond_returns (fun answer => (hrest answer).fails)
          (isJsonRpcError_appError id), ?_⟩
        refine ⟨trivial, ?_⟩
        intro answer
        cases answer with
        | ok start => exact (hrest start).asks
        | error err => trivial
  · rw [handleUnitStatus]
    split
    · exact .normalizeError _
    · next query hquery => exact absurd (getUnitStatus_admits hquery) h
  · rw [handleContainer]
    split
    · exact .malformed
    · next container hcontainer => exact absurd (hrequired rfl hcontainer) h
  · rw [handlePod]
    split
    · exact .malformed
    · next pod hpod => exact absurd (hrequired rfl hpod) h

end TurnedDown

/-! ## The catalogue -/

/-- A name has a handler when it is advertised, and only then. -/
theorem toolHandler_isSome_iff [Chrono] [McpSdk] [HashOrder] (name : String) :
    (toolHandler name).isSome = true ↔ name ∈ buildToolsList.map Tool.name := by
  simp only [buildToolsList, List.map_cons, List.map_nil, listServicesTool, listTimersTool,
    listLogsTool, getUnitStatusTool, getContainerStatusTool, getPodStatusTool, List.mem_cons,
    List.not_mem_nil, or_false]
  constructor
  · intro h
    unfold toolHandler at h
    split at h <;> simp at h ⊢
  · rintro (rfl | rfl | rfl | rfl | rfl | rfl) <;> rfl

/-- **The catalogue is true.**  Tools are advertised under names of their own, and just those names
have handlers; a handler looks at what its tool declares and at nothing else; and what its schema
does not admit is refused, with nothing asked for but perhaps the start of a unit. -/
theorem catalogue_true [Chrono] [McpSdk] [LawfulMcpSdk] [HashOrder] :
    (buildToolsList.map Tool.name).Nodup
    ∧ (∀ name, (toolHandler name).isSome = true ↔ name ∈ buildToolsList.map Tool.name)
    ∧ ∀ tool ∈ buildToolsList, ∀ handler, toolHandler tool.name = some handler → ∀ id arguments,
      (∀ arguments', AgreeOn tool.declares (arguments.getD []) (arguments'.getD []) →
        handler id arguments = handler id arguments')
      ∧ (¬ tool.Admits (arguments.getD []) → TurnedDown (handler id arguments)) := by
  refine ⟨by decide, toolHandler_isSome_iff, ?_⟩
  intro tool htool handler hhandler id arguments
  refine ⟨?_, refuses_unadmitted htool hhandler⟩
  intro arguments' h
  exact handles_declared htool hhandler id h

/-- A colour is not declared, and makes no difference; a limit in words is refused. -/
theorem catalogue_true_services :
    @handleListServices rfc3339 plainSdk (some (.int 1))
        (some [("color", .str "red"), ("limit", .int 5)])
      = @handleListServices rfc3339 plainSdk (some (.int 1)) (some [("limit", .int 5)])
    ∧ @TurnedDown plainSdk (@handleListServices rfc3339 plainSdk (some (.int 1))
        (some [("limit", .str "five")])) := by
  have h := @catalogue_true rfc3339 plainSdk lawful_plainSdk nameOrder
  have hservices := h.2.2 listServicesTool List.mem_cons_self _ rfl (some (.int 1))
  refine ⟨(hservices _).1 _ ?_, (hservices _).2 ?_⟩
  · intro name hname
    simp only [Tool.declares, listServicesTool, optionalArguments, List.map_cons, List.map_nil,
      List.mem_cons, List.not_mem_nil, or_false] at hname
    rcases hname with rfl | rfl | rfl | rfl | rfl <;> rfl
  · intro hadmits
    have hlimit : (⟨"limit", .u32, false⟩ : ToolArgument).Admits [("limit", .str "five")] :=
      hadmits _ (by decide)
    rcases hlimit with ⟨-, hmissing⟩ | ⟨value, hvalue, hfits⟩
    · rcases hmissing with hnone | hnull
      · cases hnone
      · cases hnull
    · cases hvalue
      cases hfits

end SystemdMonitoring
