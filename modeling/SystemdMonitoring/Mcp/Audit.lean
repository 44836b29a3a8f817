/-
# `SystemdMonitoring.Mcp.Audit` — the audit log of dispatched methods

`handle_json_rpc_request` writes its audit line last, from the response it is
about to return, and nothing it calls writes one (`Silent`).  So every call
that gets there writes exactly one line, and a true one.  The one way past it
is the early return of `initialize`, for a protocol version that is not
negotiated (`audited_once_iff`).
-/
import SystemdMonitoring.Mcp.Server

namespace SystemdMonitoring

open Lib Lib.Text

/-- The audit lines among a handler's operations. -/
def auditEvents (trace : List AppSig.Op) : List AuditEvent :=
  trace.filterMap fun
    | .inr (.audit event) => some event
    | _ => none

/-! ## Programs that return and write no line -/

/-- Every path returns, without an audit line. -/
def Silent {α : Type} (p : App α) : Prop :=
  p.All (fun trace x => auditEvents trace = [] ∧ ∃ a, x = .done a)

namespace Silent

variable {α β : Type}

theorem value (a : α) : Silent (pure a : App α) := ⟨rfl, a, rfl⟩

theorem bind {p : App α} {f : α → App β} (hp : Silent p) (hf : ∀ a, Silent (f a)) :
    Silent (p >>= f) := by
  refine (Prog.All_bind _ p f).mpr (Prog.All_mono ?_ hp)
  rintro trace x ⟨htrace, a, rfl⟩
  refine Prog.All_mono ?_ (hf a)
  rintro trace' y ⟨htrace', hy⟩
  refine ⟨?_, hy⟩
  rw [auditEvents, List.filterMap_append]
  exact List.append_eq_nil_iff.mpr ⟨htrace, htrace'⟩

theorem utcNow : Silent utcNow := fun now => ⟨rfl, now, rfl⟩

theorem generatedAtUtcString [Chrono] : Silent generatedAtUtcString :=
  Silent.utcNow.bind fun _ => .value _

theorem respond [McpSdk] {id : Option Json} {o : ProviderOp} {onRow : o.Row → App Json}
    (h : ∀ row, Silent (onRow row)) : Silent (respond id o onRow) := by
  have hprovider : Silent (provider o) := fun answer => ⟨rfl, answer, rfl⟩
  refine hprovider.bind ?_
  intro answer
  cases answer with
  | ok row => exact h row
  | error err => exact .value _

end Silent

section Handlers

variable [McpSdk] [Chrono]

theorem handleListServices_silent (id : Option Json) (arguments : Option Members) :
    Silent (handleListServices id arguments) := by
  rw [handleListServices]
  split
  · exact .value _
  · refine .respond fun services => Silent.generatedAtUtcString.bind fun generatedAtUtc => ?_
    split <;> exact .value _

theorem handleListTimers_silent (id : Option Json) (arguments : Option Members) :
    Silent (handleListTimers id arguments) := by
  rw [handleListTimers]
  split
  · exact .value _
  · refine .respond fun timers => Silent.utcNow.bind fun now => ?_
    refine Silent.generatedAtUtcString.bind fun generatedAtUtc => ?_
    split <;> exact .value _

omit [Chrono] in
theorem handleUnitStatus_silent (id : Option Json) (arguments : Option Members) :
    Silent (handleUnitStatus id arguments) := by
  rw [handleUnitStatus]
  split
  · exact .value _
  · exact .respond fun status => .value _

omit [Chrono] in
theorem handleContainer_silent (id : Option Json) (arguments : Option Members) :
    Silent (handleContainer id arguments) := by
  rw [handleContainer]
  split
  · exact .value _
  · exact .respond fun status => .value _

omit [Chrono] in
theorem handlePod_silent (id : Option Json) (arguments : Option Members) :
    Silent (handlePod id arguments) := by
  rw [handlePod]
  split
  · exact .value _
  · exact .respond fun status => .value _

variable [HashOrder]

theorem queryLogs_silent (id : Option Json) (arguments : Members) :
    Silent (queryLogs id arguments) := by
  rw [queryLogs]
  split
  case h_1 err _ => exact .value _
  case h_2 normalized hnormalized =>
    obtain ⟨start, finish, hvalid⟩ := normalizeLogsQuery_valid hnormalized
    refine .respond fun result => Silent.generatedAtUtcString.bind fun generatedAtUtc => ?_
    -- the bounds that are expected of the query are there
    rw [hvalid.startUtc, hvalid.endUtc]
    dsimp only [expectSome]
    rw [Prog.pure_bind, Prog.pure_bind]
    split <;> exact .value _

theorem handleListLogs_silent (id : Option Json) (arguments : Option Members) :
    Silent (handleListLogs id arguments) := by
  rw [handleListLogs]
  split
  · exact .value _
  · exact queryLogs_silent id _
  · refine .respond fun start => ?_
    cases start with
    | some start => exact queryLogs_silent id _
    | none => exact .value _

theorem handleToolsCall_silent (id params : Option Json) : Silent (handleToolsCall id params) := by
  rw [handleToolsCall]
  split
  case h_1 => exact .value _
  case h_2 name arguments _ =>
    split
    case h_1 handler hhandler =>
      unfold toolHandler at hhandler
      split at hhandler <;> cases hhandler
      · exact handleListServices_silent id arguments
      · exact handleUnitStatus_silent id arguments
      · exact handleContainer_silent id arguments
      · exact handlePod_silent id arguments
      · exact handleListTimers_silent id arguments
      · exact handleListLogs_silent id arguments
    case h_2 => exact .value _

omit [Chrono] [HashOrder] in
theorem handleResourcesRead_silent [SerdeJson] (id params : Option Json) :
    Silent (handleResourcesRead id params) := by
  rw [handleResourcesRead]
  split
  · exact .value _
  · split
    · exact .respond fun services => .value _
    · split
      · exact .respond fun services => .value _
      · split
        · exact Silent.utcNow.bind fun now => .respond fun result => .value _
        · exact .value _

end Handlers

/-! ## Negotiated versions -/

section Audit

variable [McpSdk]

/-- The version that the parameters of `initialize` offer. -/
def offeredVersion (params : Option Json) : Option String :=
  (((params.bind (fun value => value.get "protocolVersion")).bind Json.asStr).map trim).filter
    (· ≠ "")

/-- `initialize` accepts the parameters: they offer a version that is known, or a date that is not
before the first supported one. -/
def Negotiates (params : Option Json) : Prop :=
  ∃ version, offeredVersion params = some version
    ∧ ((McpSdk.protocolVersion version).isSome = true
      ∨ ∃ date, parseProtocolVersionDate version = some date
        ∧ (⟨2024, 11, 5⟩ : Date).toDays ≤ date.toDays)

theorem negotiateProtocolVersion_eq (params : Option Json) :
    ∃ answer, negotiateProtocolVersion params = pure answer
      ∧ ((∃ version, answer = .ok version) ↔ Negotiates params) := by
  have hmin : parseProtocolVersionDate minSupportedProtocolVersion = some ⟨2024, 11, 5⟩ := by rfl
  rw [negotiateProtocolVersion, Negotiates, offeredVersion]
  split
  case h_1 hnone =>
    refine ⟨_, rfl, iff_of_false (by simp) ?_⟩
    rintro ⟨version, hversion, -⟩
    rw [hnone] at hversion
    cases hversion
  case h_2 offered hoffered =>
    simp only [hoffered, Option.some.injEq, exists_eq_left']
    split
    case h_1 version hversion => exact ⟨_, rfl, iff_of_true ⟨_, rfl⟩ (.inl (by rw [hversion]; rfl))⟩
    case h_2 hunknown =>
      rw [hunknown]
      split
      case h_1 hnone =>
        rw [hnone]
        exact ⟨_, rfl, iff_of_false (by simp) (by simp)⟩
      case h_2 date hdate =>
        rw [hmin]
        dsimp only [expectSome]
        rw [Prog.pure_bind, hdate]
        split
        case isTrue hlate => exact ⟨_, rfl, iff_of_true ⟨_, rfl⟩ (.inr ⟨date, rfl, hlate⟩)⟩
        case isFalse hearly =>
          refine ⟨_, rfl, iff_of_false (by simp) ?_⟩
          rintro (hsome | ⟨date', heq, hlate⟩)
          · cases hsome
          · cases heq
            exact hearly hlate

variable [Chrono] [HashOrder] [SerdeJson]

/-- What `dispatch` comes to: no audit line of its own, and a response exactly when `answered`. -/
def Dispatched (answered : Prop) (trace : List AppSig.Op) (x : Outcome (Except AppError Json)) :
    Prop :=
  auditEvents trace = [] ∧ ∃ answer, x = .done answer
    ∧ ((∃ response, answer = .ok response) ↔ answered)

omit [McpSdk] [Chrono] [HashOrder] [SerdeJson] in
theorem dispatched_of_silent {p : App Json} {answered : Prop} (hp : Silent p) (h : answered) :
    (p >>= fun response => pure (.ok response)).All (Dispatched answered) := by
  refine (Prog.All_bind _ p _).mpr (Prog.All_mono ?_ hp)
  rintro trace x ⟨htrace, response, rfl⟩
  show Dispatched answered (trace ++ []) (.done (.ok response))
  rw [List.append_nil]
  exact ⟨htrace, _, rfl, iff_of_true ⟨response, rfl⟩ h⟩

/-- What is dispatched writes no line of its own, and has a response unless it is an `initialize`
that is not negotiated. -/
theorem dispatch_audit (id : Option Json) (method : String) (params : Option Json) :
    (dispatch id method params).All
      (Dispatched (method = "initialize" → Negotiates params)) := by
  have hok : ∀ {response : Json} {answered : Prop}, answered →
      (pure (.ok response) : App (Except AppError Json)).All (Dispatched answered) :=
    fun h => dispatched_of_silent (.value _) h
  unfold dispatch
  split
  case h_1 =>
    obtain ⟨answer, hanswer, hnegotiates⟩ := negotiateProtocolVersion_eq params
    rw [hanswer, Prog.pure_bind]
    cases answer with
    | ok version => exact hok fun _ => hnegotiates.mp ⟨version, rfl⟩
    | error err =>
        refine ⟨rfl, _, rfl, iff_of_false (by simp) ?_⟩
        intro h
        obtain ⟨version, hversion⟩ := hnegotiates.mpr (h rfl)
        cases hversion
  case h_2 => exact hok fun h => absurd h (by decide)
  case h_3 => exact hok fun h => absurd h (by decide)
  case h_4 => exact dispatched_of_silent (handleToolsCall_silent id params) (by simp)
  case h_5 => exact hok fun h => absurd h (by decide)
  case h_6 => exact dispatched_of_silent (handleResourcesRead_silent id params) (by simp)
  case h_7 hinitialize _ _ _ _ _ => exact hok fun h => absurd h hinitialize

/-- The line that a method's response is audited with. -/
def auditEvent (method : String) (params : Option Json) (response : Json) : AuditEvent where
  method := method
  params := redactAuditParams params
  failure := isJsonRpcError response

variable {σ : Type}

/-- **When a dispatched method is audited exactly once and truthfully**: every time, but for an
`initialize` whose protocol version is not negotiated. -/
theorem audited_once_iff (id : Option Json) (method : String) (params : Option Json)
    (host : Host AppSig σ) (s : σ) :
    ∃ response, ((handleJsonRpcRequest id method params).run host s).result = .done response
      ∧ (auditEvents ((handleJsonRpcRequest id method params).run host s).trace
          = [auditEvent method params response]
        ↔ (method = "initialize" → Negotiates params)) := by
  refine Prog.All_run (Q := fun trace x => ∃ response, x = .done response
    ∧ (auditEvents trace = [auditEvent method params response]
      ↔ (method = "initialize" → Negotiates params))) ?_ host s
  refine (Prog.All_bind _ (dispatch id method params) _).mpr ?_
  refine Prog.All_mono ?_ (dispatch_audit id method params)
  rintro trace x ⟨htrace, answer, rfl, hanswer⟩
  cases answer with
  | ok response =>
      intro _
      refine ⟨response, rfl, iff_of_true ?_ (hanswer.mp ⟨response, rfl⟩)⟩
      rw [auditEvents, List.filterMap_append]
      show auditEvents trace ++ [_] = _
      rw [htrace]
      rfl
  | error err =>
      refine ⟨_, rfl, iff_of_false ?_ ?_⟩
      · rw [List.append_nil, htrace]
        exact List.cons_ne_nil _ _ ∘ Eq.symm
      · intro hnegotiates
        obtain ⟨response, hresponse⟩ := hanswer.mpr hnegotiates
        cases hresponse

end Audit

/-- A host whose providers are all down. -/
def downHost : Host AppSig Unit where
  answer
    | .inl _, s => (.error (.internalError "no provider"), s)
    | .inr .utcNow, s => (.ofSecs 1767225600, s)
    | .inr (.audit _), s => ((), s)

/-- An `initialize` without parameters is answered with an error and leaves no line. -/
theorem initialize_not_audited :
    ¬ ∃ response,
      ((@handleJsonRpcRequest plainSdk rfc3339 nameOrder ⟨fun _ => none, fun _ => ""⟩
        (some (.int 1)) "initialize" none).run downHost ()).result = .done response
      ∧ auditEvents ((@handleJsonRpcRequest plainSdk rfc3339 nameOrder
          ⟨fun _ => none, fun _ => ""⟩ (some (.int 1)) "initialize" none).run downHost ()).trace
        = [auditEvent "initialize" none response] := by
  rintro ⟨response, -, hevents⟩
  have hnone : auditEvents ((@handleJsonRpcRequest plainSdk rfc3339 nameOrder
      ⟨fun _ => none, fun _ => ""⟩ (some (.int 1)) "initialize" none).run downHost ()).trace
      = [] := rfl
  rw [hnone] at hevents
  cases hevents

end SystemdMonitoring
