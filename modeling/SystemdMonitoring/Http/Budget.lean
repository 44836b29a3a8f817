/-
# `SystemdMonitoring.Http.Budget` — how much work requests make

A call makes thirteen operations of its provider at most, whatever it asks for
(`handleToolsCall_affords`), and twice looks at the clock; a request for a status
makes three, and a request without the token none.  Beyond that the machine itself
decides how much there is to do, by the rows that it hands out: fourteen
operations for each of them pay for everything (`work_bounded`).  So a client
makes no more work than in proportion to what it has sent, at any time and in
every interleaving.  The reading of an opened journal is not counted.

The server's own operations, on its clocks, its limiter and its logs, are counted
at a price that is left open: nothing for the work on the machine, and one for the
turns that a request needs.
-/
import SystemdMonitoring.Budget
import SystemdMonitoring.Http.Confinement
import SystemdMonitoring.Lib.Erasure

namespace SystemdMonitoring

open Lib

/-! ## Calls -/

/-- Each operation of a provider at the price of its fixed part, the server's own at theirs. -/
def appTariff (own : Nat) : Tariff AppSig := (Tariff.flat ProviderOp.steps).beside own

/-- A call makes its provider's steps and looks at the clock twice. -/
def perCall (own : Nat) : Nat := 13 + 2 * own

theorem steps_le (o : ProviderOp) : o.steps ≤ 13 := by
  have hcount : ∀ scope : UnitScope, 3 * scope.count ≤ 13 := by
    intro scope
    cases scope <;> decide
  cases o with
  | listServiceUnits scope => exact hcount scope
  | listTimerUnits scope => exact hcount scope
  | unitMainStart unit scope => exact hcount scope
  | _ => simp [ProviderOp.steps]

section Calls

variable [McpSdk] {own : Nat}

theorem respond_affords {id : Option Json} {o : ProviderOp} {onRow : o.Row → App Json} {c : Nat}
    (h : ∀ row, (onRow row).Affords (appTariff own) c) :
    (respond id o onRow).Affords (appTariff own) (c + o.steps) := by
  have ho : (provider o).Affords (appTariff own) o.steps := .call (Nat.le_refl _)
  refine ho.bind ?_
  intro answer
  cases answer with
  | ok row => exact h row
  | error err => exact .value _

/-- A handler that responds to one operation, and looks at the clock. -/
theorem respond_affords_once {id : Option Json} {o : ProviderOp} {onRow : o.Row → App Json}
    {c : Nat} (hc : c ≤ 2 * own) (h : ∀ row, (onRow row).Affords (appTariff own) c) :
    (respond id o onRow).Affords (appTariff own) (perCall own) := by
  refine (respond_affords h).mono ?_
  have hsteps := steps_le o
  rw [perCall]
  omega

omit [McpSdk] in
theorem now_affords {α : Type} {k : DateTime → App α} {c : Nat}
    (h : ∀ now, (k now).Affords (appTariff own) c) :
    (utcNow >>= k).Affords (appTariff own) (c + own) :=
  Prog.Affords.bind (.call (Nat.le_refl own)) h

variable [Chrono]

omit [McpSdk] in
theorem stamped_affords {α : Type} {k : String → App α} {c : Nat}
    (h : ∀ generatedAtUtc, (k generatedAtUtc).Affords (appTariff own) c) :
    (generatedAtUtcString >>= k).Affords (appTariff own) (c + own) :=
  now_affords fun _ => h _

variable (id : Option Json) (arguments : Option Members)

theorem handleListServices_affords :
    (handleListServices id arguments).Affords (appTariff own) (perCall own) := by
  rw [handleListServices]
  split
  case h_1 => exact .value _
  case h_2 =>
    refine respond_affords_once (c := 0 + own) (by omega) ?_
    intro services
    refine stamped_affords ?_
    intro generatedAtUtc
    split <;> exact .value _

theorem handleListTimers_affords :
    (handleListTimers id arguments).Affords (appTariff own) (perCall own) := by
  rw [handleListTimers]
  split
  case h_1 => exact .value _
  case h_2 =>
    refine respond_affords_once (c := 0 + own + own) (by omega) ?_
    intro timers
    refine now_affords ?_
    intro now
    refine stamped_affords ?_
    intro generatedAtUtc
    split <;> exact .value _

omit [Chrono] in
theorem handleUnitStatus_affords :
    (handleUnitStatus id arguments).Affords (appTariff own) (perCall own) := by
  rw [handleUnitStatus]
  split
  case h_1 => exact .value _
  case h_2 => exact respond_affords_once (Nat.zero_le _) fun _ => .value _

omit [Chrono] in
theorem handleContainer_affords :
    (handleContainer id arguments).Affords (appTariff own) (perCall own) := by
  rw [handleContainer]
  split
  case h_1 => exact .value _
  case h_2 => exact respond_affords_once (Nat.zero_le _) fun _ => .value _

omit [Chrono] in
theorem handlePod_affords : (handlePod id arguments).Affords (appTariff own) (perCall own) := by
  rw [handlePod]
  split
  case h_1 => exact .value _
  case h_2 => exact respond_affords_once (Nat.zero_le _) fun _ => .value _

variable [HashOrder]

/-- A page of logs makes two operations. -/
theorem queryLogs_affords (members : Members) :
    (queryLogs id members).Affords (appTariff own) (0 + own + 2) := by
  rw [queryLogs]
  split
  case h_1 => exact .value _
  case h_2 normalized =>
    refine respond_affords (c := 0 + own) ?_
    intro result
    refine stamped_affords ?_
    intro generatedAtUtc
    refine Prog.Affords.andFree (.free (expectSome_only _ _)) ?_
    intro start
    refine Prog.Affords.andFree (.free (expectSome_only _ _)) ?_
    intro finish
    split <;> exact .value _

/-- Also when the start has to be looked up first. -/
theorem handleListLogs_affords :
    (handleListLogs id arguments).Affords (appTariff own) (perCall own) := by
  rw [handleListLogs]
  split
  case h_1 => exact .value _
  case h_2 =>
    refine (queryLogs_affords id _).mono ?_
    rw [perCall]
    omega
  case h_3 unit scope _ =>
    have hlookup : 0 + own + 2 + (ProviderOp.unitMainStart unit scope).steps ≤ perCall own := by
      have hcount : (ProviderOp.unitMainStart unit scope).steps ≤ 6 := by
        cases scope <;> simp [ProviderOp.steps, UnitScope.count]
      rw [perCall]
      omega
    refine (respond_affords ?_).mono hlookup
    intro start
    cases start with
    | some start => exact queryLogs_affords id _
    | none => exact .value _

/-- **A call makes thirteen operations at most.** -/
theorem handleToolsCall_affords (params : Option Json) :
    (handleToolsCall id params).Affords (appTariff own) (perCall own) := by
  rw [handleToolsCall]
  split
  · exact .value _
  · split
    case h_1 handler hhandler =>
      unfold toolHandler at hhandler
      split at hhandler <;> cases hhandler
      · exact handleListServices_affords id _
      · exact handleUnitStatus_affords id _
      · exact handleContainer_affords id _
      · exact handlePod_affords id _
      · exact handleListTimers_affords id _
      · exact handleListLogs_affords id _
    case h_2 => exact .value _

omit [Chrono] [HashOrder] in
theorem handleResourcesRead_affords [SerdeJson] (params : Option Json) :
    (handleResourcesRead id params).Affords (appTariff own) (perCall own) := by
  rw [handleResourcesRead]
  split
  · exact .value _
  · split
    · exact respond_affords_once (Nat.zero_le _) fun _ => .value _
    · split
      · exact respond_affords_once (Nat.zero_le _) fun _ => .value _
      · split
        · have hlogs : ∀ now, (respond id (.listJournalLogs (recentLogsQuery now)) (fun result =>
              pure (jsonTextResourceResponse id logsResourceUri (.obj [("logs",
                .arr (result.entries.map (fun entry => .obj entry.members)))])))).Affords
              (appTariff own) 2 := by
            intro now
            exact respond_affords (c := 0) fun _ => .value _
          refine (now_affords hlogs).mono ?_
          rw [perCall]
          omega
        · exact .value _

end Calls

/-! ## Messages -/

/-- A message makes a call, and is audited. -/
def perMessage (own : Nat) : Nat := own + perCall own

section Messages

variable [McpSdk] [Chrono] [HashOrder] [SerdeJson] {own : Nat}

theorem dispatch_affords (id : Option Json) (method : String) (params : Option Json) :
    (dispatch id method params).Affords (appTariff own) (perCall own) := by
  unfold dispatch
  split
  · refine Prog.Affords.bind (c := 0) (.free (negotiateProtocolVersion_asks params)) ?_
    intro version
    split <;> exact .value _
  · exact .value _
  · exact .value _
  · exact (handleToolsCall_affords id params).map _
  · exact .value _
  · exact (handleResourcesRead_affords id params).map _
  · exact .value _

theorem handleJsonRpcRequest_affords (id : Option Json) (method : String) (params : Option Json) :
    (handleJsonRpcRequest id method params).Affords (appTariff own) (perMessage own) := by
  refine (dispatch_affords id method params).bind ?_
  intro answer
  cases answer with
  | error err => exact .value _
  | ok response => exact Prog.Affords.map (.call (Nat.le_refl own)) _

theorem handleJsonRpcValue_affords (payload : Json) :
    (handleJsonRpcValue payload).Affords (appTariff own) (perMessage own) := by
  rw [handleJsonRpcValue]
  split
  · exact .value _
  · split
    · exact .value _
    · split
      · exact .value _
      · split
        · exact .value _
        · split
          · exact .value _
          · exact (handleJsonRpcRequest_affords _ _ _).map _
      · split
        · exact .value _
        · exact (handleJsonRpcRequest_affords _ _ _).map _
      · exact .value _

theorem handleBatch_affords (batch responses : List Json) :
    (handleBatch batch responses).Affords (appTariff own) (perMessage own * batch.length) := by
  induction batch generalizing responses with
  | nil => exact .value _
  | cons item batch ih =>
      rw [List.length_cons, Nat.mul_succ]
      refine (handleJsonRpcValue_affords item).bind ?_
      intro answer
      cases answer with
      | none => exact ih responses
      | some response => exact ih (responses ++ [response])

/-- A body makes the work of its messages. -/
theorem mcpEndpoint_affords (body : List UInt8) :
    (mcpEndpoint body).Affords (appTariff own) (perMessage own * (messagesOf body).length) := by
  rw [mcpEndpoint]
  split
  · exact .value _
  · exact .value _
  · next batch _ hbody =>
      have hmessages : messagesOf body = batch := by rw [messagesOf, hbody]
      rw [hmessages]
      refine Prog.Affords.andFree (handleBatch_affords batch []) ?_
      intro responses
      split <;> exact .value _
  · next payload _ hsingle hbody =>
      have hmessages : messagesOf body = [payload] := by
        rw [messagesOf, hbody]
        cases payload with
        | arr batch => exact absurd rfl (hsingle batch)
        | _ => rfl
      rw [hmessages, List.length_singleton, Nat.mul_one]
      refine Prog.Affords.andFree (handleJsonRpcValue_affords payload) ?_
      intro answer
      cases answer <;> exact .value _

end Messages

/-! ## Requests -/

def httpTariff (own : Nat) : Tariff HttpSig := (appTariff own).beside own

theorem httpTariff_worth (own : Nat) (exchange : Exchange HttpSig) :
    (httpTariff own).worth exchange = 0 := by
  obtain ⟨(o | o) | o, answer⟩ := exchange <;> rfl

/-- When the server's own operations are free, what asks no provider is. -/
theorem httpTariff_free {o : HttpSig.Op} (h : SparesProviders o) : (httpTariff 0).price o = 0 := by
  rcases o with (o | o) | o
  · exact absurd trivial h
  · rfl
  · rfl

section Requests

variable {own : Nat}

theorem edge_bind_affords {α : Type} {o : EdgeOp} {f : EdgeSig.Ans o → Http α} {c : Nat}
    (hf : ∀ answer, (f answer).Affords (httpTariff own) c) :
    (edge o >>= f).Affords (httpTariff own) (c + own) :=
  Prog.Affords.bind (.call (Nat.le_refl own)) hf

/-- An error may be logged. -/
theorem intoResponse_affords (err : AppError) :
    (intoResponse err).Affords (httpTariff own) own := by
  cases err with
  | internal code message => exact Prog.Affords.map (.call (Nat.le_refl own)) _
  | _ => exact .value _

theorem systemdStatus_affords (scope : UnitScope) :
    (systemdStatus scope).Affords (httpTariff own) (own + 3) := by
  have hask : (engine (provider (.systemState scope))).Affords (httpTariff own) 3 :=
    .inLeft (.call (Nat.le_refl 3))
  refine hask.bind ?_
  intro answer
  cases answer with
  | error err => exact intoResponse_affords err
  | ok status =>
      dsimp only
      split <;> exact .value _

/-- The clock, the summary, and a warning when authentication has failed. -/
theorem logged_affords (request : Request) (startedAt : Duration) (response : Response) :
    (logged request startedAt response).Affords (httpTariff own) (own + own + own) := by
  refine edge_bind_affords (c := own + own) ?_
  intro finishedAt
  refine edge_bind_affords (c := own) ?_
  intro summary
  split
  · exact Prog.Affords.map (.call (Nat.le_refl own)) _
  · exact .value _

/-- What a request may make beside the server's own operations. -/
def Request.share [SerdeJson] (own : Nat) (request : Request) : Nat :=
  if request.path = "/mcp" then perMessage own * (messagesOf request.body).length else own + 3

variable [SerdeJson] [Chrono] [McpSdk] [HashOrder]

theorem runHandler_affords {route : Route} (hroute : route ∈ routes) {request : Request}
    (hpath : route.path = request.path) :
    (runHandler route.handler request).Affords (httpTariff own) (request.share own + own) := by
  refine edge_bind_affords ?_
  intro reached
  rw [Request.share, ← hpath]
  simp only [routes, List.mem_cons, List.not_mem_nil, or_false] at hroute
  rcases hroute with rfl | rfl | rfl | rfl | rfl
  · exact .value _
  · exact .value _
  · exact .inLeft (mcpEndpoint_affords request.body)
  · exact systemdStatus_affords .system
  · exact systemdStatus_affords .user

variable [HttpStack]

omit [SerdeJson] [Chrono] [McpSdk] [HashOrder] in
theorem requireBearerToken_affords {apiToken : String} {request : Request} {next : Http Response}
    {c : Nat} (hc : own ≤ c) (h : next.Affords (httpTariff own) c) :
    (requireBearerToken apiToken request next).Affords (httpTariff own) (c + own) := by
  have hrefused : ∀ err, (intoResponse err).Affords (httpTariff own) c := by
    intro err
    exact (intoResponse_affords err).mono hc
  refine edge_bind_affords ?_
  intro reached
  split
  · exact hrefused _
  · split
    · exact hrefused _
    · split
      · exact h
      · exact hrefused _

theorem router_affords (apiToken : String) (request : Request) :
    (router apiToken request).Affords (httpTariff own) (request.share own + own + own) := by
  rw [router]
  split
  · exact .value _
  · next route hroute =>
      have hpath : route.path = request.path := by simpa using List.find?_some hroute
      have hhandler : (runHandler route.handler request).Affords (httpTariff own)
          (request.share own + own) := runHandler_affords (List.mem_of_find?_eq_some hroute) hpath
      split
      · split
        · exact requireBearerToken_affords (Nat.le_add_left own _) hhandler
        · exact hhandler.mono (Nat.le_add_right _ own)
      · split
        · exact requireBearerToken_affords (Nat.le_add_left own _) (.value _)
        · exact .value _

/-- A request makes its share of work, and seven operations of the server's own. -/
theorem buildApp_affords (apiToken : String) (request : Request) :
    (buildApp apiToken request).Affords (httpTariff own) (request.share own + 7 * own) := by
  have hsum : own + own + own + (request.share own + own + own) + own + own
      = request.share own + 7 * own := by omega
  rw [buildApp_eq, ← hsum]
  refine edge_bind_affords ?_
  intro startedAt
  refine edge_bind_affords ?_
  intro decision
  refine Prog.Affords.bind ?_ (logged_affords request startedAt)
  cases decision with
  | ok _ => exact router_affords apiToken request
  | error n => exact (intoResponse_affords (.rateLimited n)).mono (Nat.le_add_left own _)

end Requests

/-! ## In production -/

def deployedTariff (own : Nat) : Tariff DeployedSig := (machineTariff.beside own).beside own

/-- How many rows have been handed out. -/
def handedOut (work : List (Exchange HostSig)) : Nat := (work.map rowsIn).sum

theorem sum_worth (own : Nat) (history : List (Exchange DeployedSig)) :
    (history.map (deployedTariff own).worth).sum = perRow * handedOut (workOf history) := by
  induction history with
  | nil => rfl
  | cons exchange history ih =>
      rw [List.map_cons, List.sum_cons, ih]
      obtain ⟨(o | o) | o, answer⟩ := exchange
      · exact (Nat.mul_add _ _ _).symm
      · exact Nat.zero_add _
      · exact Nat.zero_add _

/-- The price of the work on the machine is the number of its operations. -/
theorem sum_price_work (history : List (Exchange DeployedSig)) :
    (history.map fun exchange => (deployedTariff 0).price exchange.1).sum
      = (workOf history).length := by
  induction history with
  | nil => rfl
  | cons exchange history ih =>
      rw [List.map_cons, List.sum_cons, ih]
      obtain ⟨(o | o) | o, answer⟩ := exchange
      · exact Nat.add_comm _ _
      · exact Nat.zero_add _
      · exact Nat.zero_add _

section Production

variable [Chrono] [RegexEngine] [SerdeJson]

theorem deployed_affords (own : Nat) (o : HttpSig.Op) :
    (deployed o).Affords (deployedTariff own) ((httpTariff own).price o) := by
  rcases o with (o | o) | o
  · exact .inLeft (.inLeft (fulfil_affords o))
  · exact .call (Nat.le_refl own)
  · exact .call (Nat.le_refl own)

variable [HttpStack]

instance (apiToken : String) (request : Request) : Decidable (Presents apiToken request) :=
  inferInstanceAs (Decidable (_ = _))

/-- How much work on the machine a request may make, without the rows. -/
def Request.budget (apiToken : String) (request : Request) : Nat :=
  if Presents apiToken request then request.share 0 else 0

variable [LawfulHttpStack] [McpSdk] [HashOrder] {σ : Type}

omit [RegexEngine] in
theorem buildApp_affords_work (apiToken : String) (request : Request) :
    (buildApp apiToken request).Affords (httpTariff 0) (request.budget apiToken) := by
  rw [Request.budget]
  split
  case isTrue => exact buildApp_affords apiToken request
  case isFalse h =>
    have hfree : (buildApp apiToken request).Only fun o => (httpTariff 0).price o = 0 :=
      (buildApp_unauthenticated h).obeys (fun _ => httpTariff_free) (fun _ _ _ => rfl) trivial
    exact .free hfree

/-- **Work is in proportion.**  In production, in every interleaving, at any time and whatever the
machine answers: a request has made at most thirteen operations on the machine for each of its
messages, or three for a status, and fourteen for each row that the machine has handed to it, and
none at all without the token; and so for all requests together.  A journal is opened and its reader
is waited for; the reader's own moves are not counted. -/
theorem work_bounded (apiToken : String) (requests : List Request)
    (turns : List (Nat × Moment)) (limiter : RateLimiter) (machine : Moment → Host HostSig σ)
    (s : σ) :
    let run := (deployment apiToken requests limiter s).run (deployedHost machine) turns
    (∀ (i : Nat) (request : Request), requests[i]? = some request →
      let work := workOf ((ofTask i run.1).map Event.exchange)
      work.length ≤ request.budget apiToken + perRow * handedOut work)
    ∧ let work := workOf (run.1.map Event.exchange)
      work.length ≤ (requests.map (Request.budget apiToken)).sum + perRow * handedOut work := by
  intro run
  have heach : ∀ (i : Nat) (request : Request), requests[i]? = some request →
      (((ofTask i run.1).map Event.exchange).map
          fun exchange => (deployedTariff 0).price exchange.1).sum
        ≤ request.budget apiToken
          + (((ofTask i run.1).map Event.exchange).map (deployedTariff 0).worth).sum := by
    intro i request hi
    obtain ⟨p, -, hleads⟩ := Pool.run_leads (deployedHost machine)
      (deployment_task apiToken hi limiter s) turns
    obtain ⟨left, -, hsum⟩ := Prog.Affords.leads hleads
      ((buildApp_affords_work apiToken request).interp (httpTariff_worth 0) (deployed_affords 0))
    exact Nat.le_of_add_left_le (Nat.le_of_eq hsum)
  have htasks : ∀ event ∈ run.1, event.task < requests.length := by
    intro event hevent
    have htask := Pool.task_of_run (deployedHost machine) _ turns event hevent
    rwa [deployment, List.length_map] at htask
  refine ⟨?_, ?_⟩
  · intro i request hi work
    have hpaid := heach i request hi
    rwa [sum_price_work, sum_worth] at hpaid
  · have hpaid := sum_le_of_tasks htasks heach
    rwa [sum_price_work, sum_worth] at hpaid

end Production

/-- Of two requests for a status one carries the token: together they make three operations. -/
theorem work_bounded_status :
    (workOf ((stateRun "running").1.map Event.exchange)).length ≤ 3 := by
  have h := @work_bounded rfc3339 noRegex pingJson plainHttp lawful_plainHttp plainSdk nameOrder
    Unit "t" statusRequests
    ((List.replicate 10 [0, 1]).flatten.map fun i => (i, ⟨0, .ofSecs 1767225600⟩))
    (.new .default 0) (fun _ => stateMachine "running") ()
  have hbudget : (statusRequests.map (@Request.budget pingJson plainHttp "t")).sum = 3 := by
    decide +kernel
  have hrows : handedOut (workOf ((stateRun "running").1.map Event.exchange)) = 0 := by
    decide +kernel
  have hbound : (workOf ((stateRun "running").1.map Event.exchange)).length
      ≤ (statusRequests.map (@Request.budget pingJson plainHttp "t")).sum
        + perRow * handedOut (workOf ((stateRun "running").1.map Event.exchange)) := h.2
  rw [hbudget, hrows] at hbound
  exact hbound

end SystemdMonitoring
