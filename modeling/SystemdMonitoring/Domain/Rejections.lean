/-
# `SystemdMonitoring.Domain.Rejections` — what a rejected call has asked of the host

A call is *quiet* when a response that rejects its arguments comes without any
work on the host, on every path.  Five of the six tools are quiet: what they
check, they check before a provider is asked, and a provider that has been
asked does not reject.

`list_logs` is not.  A search is compiled by the journal reader, behind the
opening of the journal; and with `since_last_start` the other arguments are
looked at behind the lookup of the unit's start.  `LateRejection` says exactly
when one of the two happens, and `rejected_without_work_iff` that nothing else
does.
-/
import SystemdMonitoring.Domain.Tools
import SystemdMonitoring.Provider

namespace SystemdMonitoring

open Lib

section Rejections

variable [Chrono] [RegexEngine] [SerdeJson] [McpSdk]

/-! ## Quiet calls -/

/-- Every path ends in a response, and in one that rejects only where the host was left alone. -/
def Quiet (p : Served Json) : Prop :=
  p.All (fun trace outcome => ∃ response, outcome = .done response
    ∧ (ArgumentRejection response → hostWork trace = []))

omit [McpSdk] in
theorem quiet_pure (response : Json) : Quiet (serve (pure response)) :=
  ⟨response, rfl, fun _ => rfl⟩

omit [Chrono] [RegexEngine] [SerdeJson] [McpSdk] in
theorem quiet_of_accepted {p : Served Json}
    (h : p.Returns (fun response => ¬ ArgumentRejection response)) : Quiet p :=
  Prog.All_mono (fun _ _ ⟨response, hx, hno⟩ => ⟨response, hx, fun h => absurd h hno⟩) h

/-- A provider that refuses before it asks the host. -/
theorem quiet_respond_of_refused (id : Option Json) {o : ProviderOp} (onRow : o.Row → App Json)
    {e : AppError} (h : fulfil o = pure (.error e)) : Quiet (serve (respond id o onRow)) := by
  rw [serve_respond, provided, h]
  exact quiet_pure _

variable [LawfulMcpSdk]

/-- A provider that does not reject, and rows that become results. -/
theorem quiet_respond {id : Option Json} {o : ProviderOp} {onRow : o.Row → App Json}
    (herr : (fulfil o).Returns (fun answer => ∀ e, answer = .error e → e.isRejection = false))
    (hrow : ∀ row, (onRow row).Returns (IsResult id)) : Quiet (serve (respond id o onRow)) := by
  rw [serve_respond]
  refine quiet_of_accepted ((provided_returns herr).bind fun answer hanswer => ?_)
  cases answer with
  | ok row =>
      refine (serve_returns (hrow row)).mono ?_
      rintro response ⟨result, rfl⟩
      exact not_argumentRejection_result id result
  | error e =>
      refine Prog.Returns.value fun hrejected => ?_
      rw [argumentRejection_appError, hanswer e rfl] at hrejected
      exact Bool.false_ne_true hrejected

/-! ## The quiet tools -/

theorem handleListServices_quiet (id : Option Json) (arguments : Option Members) :
    Quiet (serve (handleListServices id arguments)) := by
  rw [handleListServices]
  split
  · exact quiet_pure _
  · next normalized _ =>
      exact quiet_respond
        ((listServiceUnits_errors _).mono fun _ => AppError.isRejection_of_isInternal)
        (servicesResponse_returns id normalized)

theorem handleListTimers_quiet (id : Option Json) (arguments : Option Members) :
    Quiet (serve (handleListTimers id arguments)) := by
  rw [handleListTimers]
  split
  · exact quiet_pure _
  · next normalized _ =>
      exact quiet_respond
        ((listTimerUnits_errors _).mono fun _ => AppError.isRejection_of_isInternal)
        (timersResponse_returns id normalized)

theorem handleUnitStatus_quiet (id : Option Json) (arguments : Option Members) :
    Quiet (serve (handleUnitStatus id arguments)) := by
  rw [handleUnitStatus]
  split
  · exact quiet_pure _
  · next query hquery =>
      refine quiet_respond ((getUnitStatus_errors query.unit ?_ query.limit).mono ?_)
        fun _ => toolSuccess_returns id _ _
      · exact normalizeUnitStatusQuery_scope hquery
      · rintro e (he | rfl)
        · exact AppError.isRejection_of_isInternal he
        · decide

theorem handleContainer_quiet (id : Option Json) (arguments : Option Members) :
    Quiet (serve (handleContainer id arguments)) := by
  rw [handleContainer]
  split
  · exact quiet_pure _
  · next container _ =>
      cases hvalid : Podman.validateIdentifier container .container with
      | error e => exact quiet_respond_of_refused id _ (Podman.inspect_of_invalid hvalid _)
      | ok _ =>
          refine quiet_respond (Podman.inspect_errors hvalid ?_) ?_
          · exact fun _ _ => Podman.compactContainer_error
          · exact fun _ => toolSuccess_returns id _ _

theorem handlePod_quiet (id : Option Json) (arguments : Option Members) :
    Quiet (serve (handlePod id arguments)) := by
  rw [handlePod]
  split
  · exact quiet_pure _
  · next pod _ =>
      cases hvalid : Podman.validateIdentifier pod .pod with
      | error e => exact quiet_respond_of_refused id _ (Podman.inspect_of_invalid hvalid _)
      | ok _ =>
          exact quiet_respond (Podman.inspect_errors hvalid fun _ _ => Podman.compactPod_error)
            fun _ => toolSuccess_returns id _ _

/-! ## Logs -/

variable {σ : Type}

/-- What the journal reader's task gets to read, and whether it can be waited for. -/
def opening (h : Host ServedSig σ) (s : σ) (scope : UnitScope) :
    Except String Journal × Except String Unit :=
  let opened := h.answer (.inl (.openJournal scope)) s
  (opened.1, (h.answer (.inl .joinReader) opened.2).1)

/-- The journal opens and its reader ends as it should. -/
def Opens (h : Host ServedSig σ) (s : σ) (scope : UnitScope) : Prop :=
  ∃ journal, opening h s scope = (.ok journal, .ok ())

/-- A search that does not compile, in an otherwise valid query, on a journal that opens. -/
def LateSearch (h : Host ServedSig σ) (s : σ) (arguments : Members) : Prop :=
  ∃ normalized e, normalizeLogsQuery arguments = .ok normalized
    ∧ buildGrepMatcher normalized.query.grep = .error e ∧ Opens h s normalized.query.scope

def NormalizeError.isRejection : NormalizeError → Bool
  | .invalidParams => true
  | .domain err => err.isRejection

/-- Arguments that do not make a query, and are told so. -/
def Refused (arguments : Members) : Prop :=
  ∃ err, normalizeLogsQuery arguments = .error err ∧ err.isRejection = true

/-- What `list_logs` rejects behind work on the host. -/
inductive LateRejection (h : Host ServedSig σ) (s : σ) (arguments : Members) : Prop where
  | search (hlookup : startLookup arguments = .ok none) (hlate : LateSearch h s arguments)
  | lookedUp {unit : String} {scope : UnitScope} {start : DateTime}
      (hlookup : startLookup arguments = .ok (some (unit, scope)))
      (hstart : ((provided (.unitMainStart unit scope)).run h s).result = .done (.ok (some start)))
      (hlate : Refused (withStart arguments start)
        ∨ LateSearch h ((provided (.unitMainStart unit scope)).run h s).state
          (withStart arguments start))

omit [Chrono] [RegexEngine] [SerdeJson] in
theorem argumentRejection_normalizeError (id : Option Json) (err : NormalizeError) :
    ArgumentRejection (err.response id) ↔ err.isRejection = true := by
  cases err with
  | invalidParams => exact iff_of_true (argumentRejection_invalidParams id) rfl
  | domain err => exact argumentRejection_appError id err

/-- The answer of the journal reader's task. -/
def journalAnswer (query : LogQuery) :
    Except String Journal × Except String Unit → Except AppError LogQueryResult
  | (_, .error err) => .error (.internalError s!"failed to spawn journald reader task: {err}")
  | (opened, .ok _) => readJournalLogs opened query

omit [McpSdk] [LawfulMcpSdk] in
theorem run_listJournalLogs (h : Host ServedSig σ) (s : σ) (query : LogQuery) :
    ((provided (.listJournalLogs query)).run h s).result
      = .done (journalAnswer query (opening h s query.scope)) := by
  have hrun : provided (.listJournalLogs query)
      = Prog.op (S := ServedSig) (.inl (.openJournal query.scope)) fun opened =>
        .op (.inl .joinReader) fun joined => pure (journalAnswer query (opened, joined)) := by
    refine congrArg (Prog.op _) (funext fun opened => ?_)
    refine congrArg (Prog.op _) (funext fun joined => ?_)
    cases joined <;> rfl
  rw [hrun]
  rfl

omit [SerdeJson] [McpSdk] [LawfulMcpSdk] in
/-- A journal that opens is all that a search which does not compile takes to be rejected. -/
theorem journalAnswer_rejects_iff (h : Host ServedSig σ) (s : σ) (query : LogQuery) :
    (∃ e, journalAnswer query (opening h s query.scope) = .error e ∧ e.isRejection = true)
      ↔ (∃ e, buildGrepMatcher query.grep = .error e) ∧ Opens h s query.scope := by
  rcases hopening : opening h s query.scope with ⟨opened, joined⟩
  constructor
  · rintro ⟨e, he, hrejection⟩
    cases joined with
    | error err => cases he; cases hrejection
    | ok _ =>
        obtain ⟨⟨journal, rfl⟩, hgrep⟩ := readJournalLogs_rejection he hrejection
        exact ⟨⟨e, hgrep⟩, journal, hopening⟩
  · rintro ⟨⟨e, hgrep⟩, journal, hopens⟩
    obtain ⟨rfl, rfl⟩ := Prod.mk.inj (hopening.symm.trans hopens)
    exact ⟨e, readJournalLogs_of_grep hgrep journal, buildGrepMatcher_error hgrep⟩

variable [HashOrder]

/-- When the call is rejected once its start is settled. -/
theorem queryLogs_rejects_iff (h : Host ServedSig σ) (s : σ) (id : Option Json)
    (arguments : Members) :
    ∃ response, ((serve (queryLogs id arguments)).run h s).result = .done response
      ∧ (ArgumentRejection response ↔ Refused arguments ∨ LateSearch h s arguments) := by
  rw [queryLogs]
  split
  case h_1 err herr =>
    refine ⟨err.response id, rfl, (argumentRejection_normalizeError id err).trans ?_⟩
    simp [Refused, LateSearch, herr]
  case h_2 normalized hnormalized =>
    have hlate : Refused arguments ∨ LateSearch h s arguments
        ↔ (∃ e, buildGrepMatcher normalized.query.grep = .error e)
          ∧ Opens h s normalized.query.scope := by
      simp [Refused, LateSearch, hnormalized]
    have hrun := run_serve_respond h id (.listJournalLogs normalized.query)
      (logsResponse id normalized) (run_listJournalLogs h s normalized.query)
    rw [hlate, ← journalAnswer_rejects_iff, hrun]
    cases journalAnswer normalized.query (opening h s normalized.query.scope) with
    | error e =>
        refine ⟨appErrorToJsonRpc id e, rfl, (argumentRejection_appError id e).trans ?_⟩
        simp
    | ok result =>
        obtain ⟨start, finish, hvalid⟩ := normalizeLogsQuery_valid hnormalized
        obtain ⟨response, hrun, value, rfl⟩ :=
          (serve_returns (logsResponse_returns id hvalid result)).run h
            ((provided (.listJournalLogs normalized.query)).run h s).state
        exact ⟨_, hrun, iff_of_false (not_argumentRejection_result id value) (by simp)⟩

omit [LawfulMcpSdk] in
/-- Behind the checks of the arguments there is always work. -/
theorem hostWork_queryLogs (h : Host ServedSig σ) (s : σ) (id : Option Json) (arguments : Members) :
    hostWork ((serve (queryLogs id arguments)).run h s).trace = []
      ↔ ∃ err, normalizeLogsQuery arguments = .error err := by
  rw [queryLogs]
  split
  case h_1 err herr => exact iff_of_true rfl ⟨err, herr⟩
  case h_2 normalized hnormalized =>
    have hrun := run_serve_respond h id (.listJournalLogs normalized.query)
      (logsResponse id normalized) (run_listJournalLogs h s normalized.query)
    rw [hrun]
    refine iff_of_false (hostWork_append_ne_nil ?_ _) (by simp [hnormalized])
    exact List.cons_ne_nil (HostOp.openJournal normalized.query.scope) _

omit [McpSdk] [LawfulMcpSdk] [HashOrder] in
theorem hostWork_unitMainStart (h : Host ServedSig σ) (s : σ) (unit : String) (scope : UnitScope) :
    hostWork ((provided (.unitMainStart unit scope)).run h s).trace ≠ [] := by
  cases scope <;> exact List.cons_ne_nil (HostOp.connect _) _

/-- When the call is rejected behind the lookup of a start. -/
theorem logsFromStart_rejects_iff (h : Host ServedSig σ) (s : σ) (id : Option Json)
    (unit : String) (scope : UnitScope) (arguments : Members)
    {answer : Except AppError (Option DateTime)}
    (hinternal : ∀ e, answer = .error e → e.isInternal = true) :
    ∃ response, ((serve (answered id (o := .unitMainStart unit scope) (logsFromStart id arguments)
        answer)).run h s).result = .done response
      ∧ (ArgumentRejection response ↔ ∃ start, answer = .ok (some start)
        ∧ (Refused (withStart arguments start) ∨ LateSearch h s (withStart arguments start))) := by
  have hno : ∀ {e : AppError}, e.isRejection = false →
      ¬ ArgumentRejection (appErrorToJsonRpc id e) := by
    intro e he hrejected
    rw [argumentRejection_appError, he] at hrejected
    exact Bool.false_ne_true hrejected
  rcases answer with err | _ | start
  · exact ⟨_, rfl, iff_of_false (hno (AppError.isRejection_of_isInternal (hinternal err rfl)))
      (by simp)⟩
  · exact ⟨_, rfl, iff_of_false (hno (by decide)) (by simp)⟩
  · obtain ⟨response, hrun, hrejects⟩ := queryLogs_rejects_iff h s id (withStart arguments start)
    exact ⟨response, hrun, hrejects.trans (by simp)⟩

/-- With no start to look up, it is the search that may be rejected behind work. -/
theorem queryLogs_late_iff (h : Host ServedSig σ) (s : σ) (id : Option Json) {arguments : Members}
    (hlookup : startLookup arguments = .ok none) :
    ∃ response, ((serve (queryLogs id arguments)).run h s).result = .done response
      ∧ ((ArgumentRejection response
          → hostWork ((serve (queryLogs id arguments)).run h s).trace = [])
        ↔ ¬ LateRejection h s arguments) := by
  obtain ⟨response, hrun, hrejects⟩ := queryLogs_rejects_iff h s id arguments
  refine ⟨response, hrun, ?_⟩
  rw [hostWork_queryLogs, hrejects]
  constructor
  · rintro hquiet (⟨-, hlate⟩ | ⟨hsome, -, -⟩)
    · obtain ⟨err, herr⟩ := hquiet (.inr hlate)
      obtain ⟨normalized, e, hnormalized, -⟩ := hlate
      rw [herr] at hnormalized
      cases hnormalized
    · rw [hlookup] at hsome
      cases hsome
  · rintro hlate (⟨err, herr, -⟩ | hsearch)
    · exact ⟨err, herr⟩
    · exact absurd (.search hlookup hsearch) hlate

/-- With a start to look up, whatever is rejected then is rejected behind work. -/
theorem respond_unitMainStart_late_iff (h : Host ServedSig σ) (s : σ) (id : Option Json)
    {arguments : Members} {unit : String} {scope : UnitScope}
    (hlookup : startLookup arguments = .ok (some (unit, scope))) :
    ∃ response, ((serve (respond id (.unitMainStart unit scope) (logsFromStart id arguments))).run
        h s).result = .done response
      ∧ ((ArgumentRejection response
          → hostWork ((serve (respond id (.unitMainStart unit scope)
              (logsFromStart id arguments))).run h s).trace = [])
        ↔ ¬ LateRejection h s arguments) := by
  obtain ⟨answer, hanswer, hinternal⟩ :=
    (provided_returns (o := .unitMainStart unit scope) (unitMainStart_errors unit scope)).run h s
  have hrun := run_serve_respond h id (.unitMainStart unit scope) (logsFromStart id arguments)
    hanswer
  obtain ⟨response, hresponse, hrejects⟩ := logsFromStart_rejects_iff h
    ((provided (.unitMainStart unit scope)).run h s).state id unit scope arguments hinternal
  rw [hrun]
  refine ⟨response, hresponse, ?_⟩
  have hwork := hostWork_append_ne_nil (hostWork_unitMainStart h s unit scope)
    ((serve (answered id (o := .unitMainStart unit scope) (logsFromStart id arguments)
      answer)).run h ((provided (.unitMainStart unit scope)).run h s).state).trace
  rw [hrejects]
  constructor
  · rintro hquiet (⟨hnone, -⟩ | ⟨hsome, hstart, hlate⟩)
    · rw [hlookup] at hnone
      cases hnone
    · rw [hlookup] at hsome
      cases hsome
      rw [hanswer] at hstart
      cases hstart
      exact hwork (hquiet ⟨_, rfl, hlate⟩)
  · rintro hlate ⟨start, rfl, hrefused⟩
    exact absurd (.lookedUp hlookup hanswer hrefused) hlate

/-- `list_logs` rejects behind work on the host exactly in the two cases. -/
theorem handleListLogs_late_iff (h : Host ServedSig σ) (s : σ) (id : Option Json)
    (arguments : Option Members) :
    ∃ response, ((serve (handleListLogs id arguments)).run h s).result = .done response
      ∧ ((ArgumentRejection response
          → hostWork ((serve (handleListLogs id arguments)).run h s).trace = [])
        ↔ ¬ LateRejection h s (arguments.getD [])) := by
  rw [handleListLogs]
  split
  case h_1 err herr =>
    -- refused on the spot
    refine ⟨_, rfl, iff_of_true (fun _ => rfl) ?_⟩
    rintro (⟨hlookup, -⟩ | ⟨hlookup, -, -⟩) <;> rw [herr] at hlookup <;> cases hlookup
  case h_2 hlookup => exact queryLogs_late_iff h s id hlookup
  case h_3 unit scope hlookup => exact respond_unitMainStart_late_iff h s id hlookup

/-! ## Every tool -/

/-- A `list_logs` call that is rejected late. -/
def LateCall (h : Host ServedSig σ) (s : σ) (params : Option Json) : Prop :=
  ∃ arguments, params.bind McpSdk.callToolRequestParams = some ("list_logs", arguments)
    ∧ LateRejection h s (arguments.getD [])

theorem toolHandler_quiet {name : String} {handler : Option Json → Option Members → App Json}
    (h : toolHandler name = some handler) (hname : name ≠ "list_logs") (id : Option Json)
    (arguments : Option Members) : Quiet (serve (handler id arguments)) := by
  unfold toolHandler at h
  split at h <;> cases h
  · exact handleListServices_quiet id arguments
  · exact handleUnitStatus_quiet id arguments
  · exact handleContainer_quiet id arguments
  · exact handlePod_quiet id arguments
  · exact handleListTimers_quiet id arguments
  · exact absurd rfl hname

/-- A call is quiet, or it is one of `list_logs`. -/
theorem handleToolsCall_quiet (id : Option Json) {params : Option Json}
    (hno : ∀ arguments, params.bind McpSdk.callToolRequestParams ≠ some ("list_logs", arguments)) :
    Quiet (serve (handleToolsCall id params)) := by
  rw [handleToolsCall]
  split
  · exact quiet_pure _
  · next name arguments hparams =>
      split
      · next handler hhandler =>
          refine toolHandler_quiet hhandler ?_ id arguments
          rintro rfl
          exact hno arguments hparams
      · exact quiet_pure _

/-- **Rejected arguments cause no work on the host**, whatever the host does, unless the call is
one of `list_logs` that is rejected late: and then they do. -/
theorem rejected_without_work_iff (id params : Option Json) (h : Host ServedSig σ) (s : σ) :
    ∃ response, ((serve (handleToolsCall id params)).run h s).result = .done response
      ∧ ((ArgumentRejection response
          → hostWork ((serve (handleToolsCall id params)).run h s).trace = [])
        ↔ ¬ LateCall h s params) := by
  by_cases hlogs : ∃ arguments,
      params.bind McpSdk.callToolRequestParams = some ("list_logs", arguments)
  · obtain ⟨arguments, hparams⟩ := hlogs
    have hcall : handleToolsCall id params = handleListLogs id arguments := by
      rw [handleToolsCall, hparams]
      rfl
    have hlate : LateCall h s params ↔ LateRejection h s (arguments.getD []) := by
      simp [LateCall, hparams]
    rw [hcall, hlate]
    exact handleListLogs_late_iff h s id arguments
  · obtain ⟨response, hresult, hquiet⟩ := Prog.All_run
      (handleToolsCall_quiet id fun arguments hparams => hlogs ⟨arguments, hparams⟩) h s
    refine ⟨response, hresult, iff_of_true hquiet ?_⟩
    rintro ⟨arguments, hparams, -⟩
    exact hlogs ⟨arguments, hparams⟩

end Rejections

/-! ## Two calls on one host -/

/-- A host with a journal, and with nothing else. -/
def journalHost : Host ServedSig Unit where
  answer
    | .inl (.connect _), s => (.error "no bus", s)
    | .inl (.proxy _ _ _), s => (.error "no bus", s)
    | .inl (.listUnits _), s => (.error "no bus", s)
    | .inl (.getUnit _ _), s => (.error "no bus", s)
    | .inl (.property _ _ _ _ _), s => (.error "no bus", s)
    | .inl (.openJournal _), s => (.ok (bootJournal []), s)
    | .inl .joinReader, s => (.ok (), s)
    | .inl (.podman _), s => (.notFound, s)
    | .inr .utcNow, s => (.ofSecs 1767225600, s)
    | .inr (.audit _), s => ((), s)

/-- A JSON library for hosts without documents. -/
@[reducible] def noJson : SerdeJson where
  fromSlice := fun _ => none
  toString := fun _ => ""

/-- A `list_logs` call over the first hour of the month, with more arguments. -/
def firstHourCall (arguments : Members) : Option Json :=
  some (.obj [("name", .str "list_logs"), ("arguments", .obj
    ([("start_utc", .str "2026-01-01T00:00:00Z"), ("end_utc", .str "2026-01-01T01:00:00Z")]
      ++ arguments))])

/-- A search that does not compile is rejected when the journal has been opened. -/
theorem grep_rejected_behind_work :
    ¬ ∀ response,
      ((@serve rfc3339 noRegex noJson _ (@handleToolsCall rfc3339 plainSdk nameOrder
        (some (.int 1)) (firstHourCall [("grep", .str "/(/")]))).run journalHost ()).result
          = .done response →
      ArgumentRejection response →
      hostWork ((@serve rfc3339 noRegex noJson _ (@handleToolsCall rfc3339 plainSdk nameOrder
        (some (.int 1)) (firstHourCall [("grep", .str "/(/")]))).run
          journalHost ()).trace = [] := by
  intro hclaim
  have hrejection := (@argumentRejection_appError plainSdk lawful_plainSdk (some (.int 1))
    (.badRequest "invalid_grep" "grep regex pattern is invalid")).mpr rfl
  have hnil := hclaim _ rfl hrejection
  exact List.cons_ne_nil (HostOp.openJournal .system) [.joinReader] hnil

/-- A limit of zero is rejected before. -/
theorem rejected_without_work_iff_limit : ∃ response,
    ((@serve rfc3339 noRegex noJson _ (@handleToolsCall rfc3339 plainSdk nameOrder
      (some (.int 1)) (firstHourCall [("limit", .int 0)]))).run journalHost ()).result
        = .done response
    ∧ ArgumentRejection response
    ∧ hostWork ((@serve rfc3339 noRegex noJson _ (@handleToolsCall rfc3339 plainSdk nameOrder
      (some (.int 1)) (firstHourCall [("limit", .int 0)]))).run journalHost ()).trace = [] := by
  obtain ⟨response, hresult, hiff⟩ := @rejected_without_work_iff rfc3339 noRegex noJson plainSdk
    lawful_plainSdk Unit nameOrder (some (.int 1)) (firstHourCall [("limit", .int 0)])
    journalHost ()
  have hlate : ¬ @LateCall rfc3339 noRegex noJson plainSdk Unit journalHost ()
      (firstHourCall [("limit", .int 0)]) := by
    rintro ⟨arguments, hparams, hlate⟩
    cases hparams
    rcases hlate with ⟨-, normalized, e, hnormalized, -⟩ | ⟨hlookup, -, -⟩
    · cases hnormalized
    · cases hlookup
  have hrejection := (@argumentRejection_appError plainSdk lawful_plainSdk (some (.int 1))
    (.badRequest "invalid_limit" "limit must be between 1 and 1000")).mpr rfl
  cases hresult
  exact ⟨_, rfl, hrejection, hiff.mpr hlate hrejection⟩

end SystemdMonitoring
