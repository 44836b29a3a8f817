/-
# `SystemdMonitoring.Domain.ServiceViews` — resources and the tool show the same services

`resource://services/failed` and `resource://services/snapshot` emit the
provider's rows in the provider's order, the first of them filtered.  A
`list_services` call for the same rows sorts them again and cuts them.  The
provider's rows are in the order of their units already, distinct or not
(`sorted_serviceListing`), a filter keeps them so, and failed services only are
not told apart by having failed; so the second sort changes nothing
(`sortServices_filtered`), and a limit that is not exceeded nothing either.

Both therefore respond with one list of rows, or both with the provider's error
(`resources_eq_tool`).
-/
import SystemdMonitoring.Domain.ListedRows
import SystemdMonitoring.Domain.Resources

namespace SystemdMonitoring

open Lib Lib.Text

/-! ## The provider's order -/

/-- The services of the system manager that are in a state, or all of them. -/
def systemServices (answers : Snapshot) (state : Option String) : List RawUnit :=
  (((managerUnits answers .system).getD []).filter
    (fun raw => endsWith ".service" raw.name)).filter
      (fun raw => state.all (fun state => eqIgnoreAsciiCase raw.activeState state))

section Listing

variable [Chrono] (answers : Snapshot)

/-- The rows of the provider are in the order of their units. -/
theorem sorted_serviceListing (scope : UnitScope) (rawUnits : List RawUnit) :
    (serviceListing answers scope rawUnits).Pairwise
      (fun left right => left.unit ≤ right.unit) := by
  have hunits : (serviceListing answers scope rawUnits).map UnitStatus.unit
      = (mapAndSortServiceUnits rawUnits scope).map UnitStatus.unit := by
    have hfill : ∀ (row : UnitStatus) (details : ServiceDetails),
        (row.withDetails details).unit = row.unit := fun _ _ => rfl
    exact map_fillDetails hfill _ _
  have hsorted : ((mapAndSortServiceUnits rawUnits scope).map UnitStatus.unit).Pairwise (· ≤ ·) :=
    List.pairwise_map.mpr (pairwise_mergeSort_key UnitStatus.unit _)
  rw [← hunits] at hsorted
  exact List.pairwise_map.mp hsorted

/-- As many rows are in a state as units are. -/
theorem length_filter_serviceListing {rawUnits : List RawUnit}
    (hunits : managerUnits answers .system = some rawUnits) (state : Option String) :
    (filterServicesByState (serviceListing answers .system rawUnits) state).length
      = (systemServices answers state).length := by
  have hstates : ((serviceListing answers .system rawUnits).map UnitStatus.activeState).Perm
      ((rawUnits.filter (fun raw => endsWith ".service" raw.name)).map RawUnit.activeState) := by
    have hfilled : (serviceListing answers .system rawUnits).map UnitStatus.activeState
        = (mapAndSortServiceUnits rawUnits .system).map UnitStatus.activeState := by
      have hfill : ∀ (row : UnitStatus) (details : ServiceDetails),
          (row.withDetails details).activeState = row.activeState := fun _ _ => rfl
      exact map_fillDetails hfill _ _
    rw [hfilled, mapAndSortServiceUnits]
    refine ((List.mergeSort_perm _ _).map UnitStatus.activeState).trans (List.Perm.of_eq ?_)
    rw [List.map_map]
    rfl
  have hcount := hstates.countP_eq
    (fun active => state.all (fun state => eqIgnoreAsciiCase active state))
  rw [List.countP_map, List.countP_map, List.countP_eq_length_filter,
    List.countP_eq_length_filter] at hcount
  rw [filterServicesByState_eq, systemServices, hunits]
  exact hcount

/-- **The second sort changes nothing**, whether all services are shown or the failed ones. -/
theorem sortServices_filtered (rawUnits : List RawUnit) {state : Option String}
    (hstate : state = none ∨ state = some "failed") :
    sortServices (filterServicesByState (serviceListing answers .system rawUnits) state)
        (decide (state = some "failed"))
      = filterServicesByState (serviceListing answers .system rawUnits) state := by
  have hsorted := (sorted_serviceListing answers .system rawUnits).filter
    (fun row => state.all (fun state => eqIgnoreAsciiCase row.activeState state))
  rw [filterServicesByState_eq]
  refine @List.mergeSort_of_pairwise _ (serviceLE (decide (state = some "failed"))) _
    (hsorted.imp_of_mem ?_)
  intro left right hleft hright hle
  rw [serviceLE_eq_true_iff]
  rcases hstate with rfl | rfl
  · simpa using hle
  · have hleft := (List.mem_filter.mp hleft).2
    have hright := (List.mem_filter.mp hright).2
    rw [Option.all_some] at hleft hright
    rw [hleft, hright]
    simpa using hle

/-- The page of the tool call is what the resource shows. -/
theorem serviceRows_serviceListing {rawUnits : List RawUnit}
    (hunits : managerUnits answers .system = some rawUnits) {state : Option String}
    (hstate : state = none ∨ state = some "failed") {limit : Nat}
    (hlimit : (systemServices answers state).length ≤ limit) :
    serviceRows ⟨.system, state, none, limit, false⟩ (serviceListing answers .system rawUnits)
      = ⟨filterServicesByState (serviceListing answers .system rawUnits) state,
          (systemServices answers state).length, (systemServices answers state).length, false⟩ := by
  have hlength := length_filter_serviceListing answers hunits state
  have htake : (filterServicesByState (serviceListing answers .system rawUnits) state).take limit
      = filterServicesByState (serviceListing answers .system rawUnits) state :=
    List.take_of_length_le (hlength.trans_le hlimit)
  rw [serviceRows, filterServicesByNameContains, sortServices_filtered answers rawUnits hstate,
    paginateRows, htake, hlength, decide_eq_false (lt_irrefl _)]

end Listing

/-! ## Two responses -/

section Responses

variable [Chrono] [McpSdk] [RegexEngine] [SerdeJson]
  (served : (o : ServedSig.Op) → ServedSig.Ans o)

/-- The response of a services resource with those rows. -/
def servicesResource (id : Option Json) (uri : String) (rows : List UnitStatus) : Json :=
  jsonTextResourceResponse id uri (servicesJson rows)

/-- The responses of a resource and of a tool call, when both show the same: the rows of the
provider that are in a state, as they come, or the provider's error. -/
def SameServices (uri : String) (state : Option String) (id toolId : Option Json)
    (resource tool : Json) : Prop :=
  (∃ err, resource = appErrorToJsonRpc id err ∧ tool = appErrorToJsonRpc toolId err)
    ∨ ∃ rows, resource = servicesResource id uri rows
      ∧ tool = servicesReport toolId ⟨.system, state, none, maxServicesLimit, false⟩
        ⟨rows, rows.length, rows.length, false⟩ (Chrono.toRfc3339Millis (served (.inr .utcNow)))

/-- A resource that shows the system's services that are in a state. -/
def ServesState (uri : String) (state : Option String) : Prop :=
  ∀ (id params : Option Json), params.bind McpSdk.readResourceRequestParams = some uri →
    handleResourcesRead id params = respond id (.listServiceUnits .system) (fun services =>
      pure (servicesResource id uri (filterServicesByState services state)))

omit [Chrono] [RegexEngine] in
theorem servesState_services : ServesState servicesResourceUri none := by
  intro id params hparams
  rw [handleResourcesRead, hparams]
  rfl

omit [Chrono] [RegexEngine] in
theorem servesState_failed : ServesState failedServicesResourceUri (some "failed") := by
  intro id params hparams
  rw [handleResourcesRead, hparams]
  rfl

/-- Whatever the host answers, as long as no more services are in the state than may be listed. -/
theorem sameServices {uri : String} {state : Option String} (huri : ServesState uri state)
    (hstate : state = none ∨ state = some "failed")
    (hlimit : (systemServices (fun o => served (.inl o)) state).length ≤ maxServicesLimit)
    (id toolId : Option Json) {params : Option Json}
    (hparams : params.bind McpSdk.readResourceRequestParams = some uri)
    {arguments : Option Members}
    (harguments : normalizeServicesQuery arguments
      = .ok ⟨.system, state, none, maxServicesLimit, false⟩) :
    ∃ resource tool,
      (serve (handleResourcesRead id params)).under served = .done resource
      ∧ (serve (handleListServices toolId arguments)).under served = .done tool
      ∧ SameServices served uri state id toolId resource tool := by
  obtain ⟨answer, hanswer, hfound⟩ :=
    finds_listServiceUnitsForSingleScope (fun o => served (.inl o))
      (show UnitScope.system ≠ .both by decide)
  have hresource := under_serve_respond (o := .listServiceUnits .system) id (fun services =>
    pure (servicesResource id uri (filterServicesByState services state))) hanswer
  have htool := under_serve_respond (o := .listServiceUnits .system) toolId
    (servicesResponse toolId ⟨.system, state, none, maxServicesLimit, false⟩) hanswer
  rw [huri id params hparams, handleListServices, harguments]
  cases answer with
  | error err => exact ⟨_, _, hresource, htool, .inl ⟨err, rfl, rfl⟩⟩
  | ok services =>
      obtain ⟨rawUnits, hunits, rfl⟩ := Option.map_eq_some_iff.mp hfound.symm
      have hpage := serviceRows_serviceListing (fun o => served (.inl o)) hunits hstate hlimit
      have hlength := length_filter_serviceListing (fun o => served (.inl o)) hunits state
      refine ⟨_, _, hresource, htool, .inr ⟨_, rfl, ?_⟩⟩
      rw [hpage, ← hlength]
      rfl

variable [LawfulMcpSdk]

omit [RegexEngine] in
/-- Of two responses that show the same, one is an error when the other is. -/
theorem isJsonRpcError_sameServices {uri : String} {state : Option String}
    {id toolId : Option Json} {resource tool : Json}
    (h : SameServices served uri state id toolId resource tool) :
    isJsonRpcError resource = isJsonRpcError tool := by
  rcases h with ⟨err, rfl, rfl⟩ | ⟨rows, rfl, rfl⟩
  · rw [isJsonRpcError_appError, isJsonRpcError_appError]
  · rw [isJsonRpcError_servicesReport, servicesResource, jsonTextResourceResponse,
      isJsonRpcError_result]

/-- **The services resources and the services tool show the same thing**: with at most a thousand
failed services for the one resource, or services for the other, one list of rows or one error. -/
theorem resources_eq_tool {σ : Type} {host : Host ServedSig σ}
    (hserved : ∀ o s, (host.answer o s).1 = served o) (s s' : σ) (id toolId : Option Json) :
    ∀ uri state, (uri, state) ∈ [(failedServicesResourceUri, some "failed"),
        (servicesResourceUri, none)] →
      (systemServices (fun o => served (.inl o)) state).length ≤ maxServicesLimit →
      ∀ params arguments, params.bind McpSdk.readResourceRequestParams = some uri →
        normalizeServicesQuery arguments
          = .ok ⟨.system, state, none, maxServicesLimit, false⟩ →
        ∃ resource tool,
          ((serve (handleResourcesRead id params)).run host s).result = .done resource
          ∧ ((serve (handleListServices toolId arguments)).run host s').result = .done tool
          ∧ (isJsonRpcError resource = true ↔ isJsonRpcError tool = true)
          ∧ SameServices served uri state id toolId resource tool := by
  intro uri state hmem hlimit params arguments hparams harguments
  obtain ⟨huri, hstate⟩ : ServesState uri state ∧ (state = none ∨ state = some "failed") := by
    rcases List.mem_cons.mp hmem with heq | hmem
    · cases heq
      exact ⟨servesState_failed, .inr rfl⟩
    · cases List.mem_singleton.mp hmem
      exact ⟨servesState_services, .inl rfl⟩
  obtain ⟨resource, tool, hresource, htool, hsame⟩ :=
    sameServices served huri hstate hlimit id toolId hparams harguments
  refine ⟨resource, tool, ?_, ?_, ?_, hsame⟩
  · rw [Prog.result_run_under hserved, hresource]
  · rw [Prog.result_run_under hserved, htool]
  · rw [isJsonRpcError_sameServices served hsame]

end Responses

/-- A machine with two failed services, one of them in capitals, and a third. -/
def twoFailed : (o : ServedSig.Op) → ServedSig.Ans o
  | .inl (.listUnits _) => .ok [⟨"web.service", "Web", "loaded", "FAILED", "failed", "/web"⟩,
      ⟨"app.service", "App", "loaded", "active", "running", "/app"⟩,
      ⟨"db.service", "Database", "loaded", "failed", "failed", "/db"⟩]
  | .inl o => oneService (.ok 7) o
  | .inr .utcNow => .ofSecs 1767225600
  | .inr (.audit _) => ()

theorem resources_eq_tool_twoFailed : ∃ resource tool,
    ((@serve rfc3339 noRegex ⟨fun _ => none, fun _ => ""⟩ _
        (@handleResourcesRead plainSdk ⟨fun _ => none, fun _ => ""⟩ (some (.int 1))
          (some (.obj [("uri", .str failedServicesResourceUri)])))).run
            (Host.fixed twoFailed) ()).result = .done resource
    ∧ ((@serve rfc3339 noRegex ⟨fun _ => none, fun _ => ""⟩ _
        (@handleListServices rfc3339 plainSdk (some (.int 2))
          (some [("limit", .int 1000), ("state", .str "failed")]))).run
            (Host.fixed twoFailed) ()).result = .done tool
    ∧ (isJsonRpcError resource = true ↔ isJsonRpcError tool = true)
    ∧ @SameServices rfc3339 plainSdk ⟨fun _ => none, fun _ => ""⟩ twoFailed
        failedServicesResourceUri (some "failed") (some (.int 1)) (some (.int 2)) resource tool :=
  @resources_eq_tool rfc3339 plainSdk noRegex ⟨fun _ => none, fun _ => ""⟩ twoFailed
    lawful_plainSdk Unit (Host.fixed twoFailed) (fun _ _ => rfl) () () (some (.int 1))
    (some (.int 2)) failedServicesResourceUri (some "failed") List.mem_cons_self (by decide) _ _
    rfl rfl

end SystemdMonitoring
