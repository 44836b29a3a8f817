/-
# `SystemdMonitoring.Http.Status` — the uptime endpoints fail closed

A monitor takes a 200 from one of the two status endpoints for a running
manager.  Here is what such an answer rests on, in any interleaving with other
requests: the request has carried the token and asked with a method of the route,
the provider of that scope, and no other, has been asked, once, and it has said
`running` (`status_fails_closed`).
-/
import SystemdMonitoring.Http.AccessLog

namespace SystemdMonitoring

open Lib

/-- What a request has asked the providers, and what they have said. -/
def providerOf : Exchange HttpSig → Option (Exchange ProviderSig)
  | ⟨.inl (.inl o), answer⟩ => some ⟨o, answer⟩
  | _ => none

def askedOf (exchanges : List (Exchange HttpSig)) : List (Exchange ProviderSig) :=
  exchanges.filterMap providerOf

theorem askedOf_append (before exchanges : List (Exchange HttpSig)) :
    askedOf (before ++ exchanges) = askedOf before ++ askedOf exchanges :=
  List.filterMap_append

theorem askedOf_spares {exchanges : List (Exchange HttpSig)}
    (h : ∀ exchange ∈ exchanges, SparesProviders exchange.1) : askedOf exchanges = [] := by
  rw [askedOf, List.filterMap_eq_nil_iff]
  rintro ⟨o, answer⟩ hmem
  rcases o with (o | o) | o
  · exact absurd trivial (h _ hmem)
  · rfl
  · rfl

/-- The path of a scope's endpoint. -/
def statusPath : UnitScope → String
  | .user => "/systemd/user/status"
  | _ => "/systemd/system/status"

def statusHandler : UnitScope → Handler
  | .user => .systemdUserStatus
  | _ => .systemdSystemStatus

/-- The response to what the provider has said. -/
def statusResponse (scope : UnitScope) : Except AppError String → Response
  | .error err => err.httpResponse
  | .ok status =>
      if status = "running" then
        okJson (.obj [("scope", .str scope.asStr), ("status", .str status)])
      else
        ⟨503, some (errorData "systemd_not_running" "systemd manager is not running"
          (.obj [("scope", .str scope.asStr), ("status", .str status)])), none⟩

/-- No error is a 200, and an empty answer is none either. -/
theorem statusResponse_ok_iff (scope : UnitScope) (answer : Except AppError String) :
    (statusResponse scope answer).status = 200 ↔ answer = .ok "running" := by
  cases answer with
  | error err => cases err <;> simp [statusResponse, AppError.httpResponse, AppError.httpParts]
  | ok status =>
      by_cases hstatus : status = "running"
      · simp [statusResponse, hstatus, okJson]
      · simp [statusResponse, hstatus]

/-! ## Behind the router -/

theorem intoResponse_leads {err : AppError} {history : List (Exchange HttpSig)}
    {response : Response} (h : (intoResponse err).Leads history (pure response)) :
    response = err.httpResponse ∧ askedOf history = [] := by
  cases err with
  | internal code message =>
      obtain ⟨answer, rest, rfl, hrest⟩ := edge_leads h
      obtain ⟨rfl, rfl⟩ := hrest.pure_inv
      exact ⟨rfl, rfl⟩
  | _ =>
      obtain ⟨rfl, rfl⟩ := h.pure_inv
      exact ⟨rfl, rfl⟩

/-- An endpoint asks its provider, and answers with what it has said. -/
theorem systemdStatus_leads {scope : UnitScope} {history : List (Exchange HttpSig)}
    {response : Response} (h : (systemdStatus scope).Leads history (pure response)) :
    ∃ answer : Except AppError String, askedOf history = [⟨.systemState scope, answer⟩]
      ∧ response = statusResponse scope answer := by
  obtain ⟨answer, rest, rfl, hrest⟩ := h.op_inv
  refine ⟨answer, ?_⟩
  have hasked : askedOf (⟨.inl (.inl (.systemState scope)), answer⟩ :: rest)
      = ⟨.systemState scope, answer⟩ :: askedOf rest := rfl
  rw [hasked]
  cases answer with
  | error err =>
      obtain ⟨hresponse, hnone⟩ := intoResponse_leads hrest
      exact ⟨by rw [hnone], hresponse⟩
  | ok status =>
      have hvalue : rest = [] ∧ statusResponse scope (.ok status) = response := by
        dsimp only [statusResponse]
        change (if (show String from status) = "running" then (_ : Http Response) else _).Leads _ _
          at hrest
        split at hrest
        · next hstatus =>
            rw [if_pos hstatus]
            exact hrest.pure_inv
        · next hstatus =>
            rw [if_neg hstatus]
            exact hrest.pure_inv
      obtain ⟨rfl, rfl⟩ := hvalue
      exact ⟨rfl, rfl⟩

section Router

variable [HttpStack]

/-- Behind the guard is a request that carries a token with the right tag. -/
theorem requireBearerToken_leads {apiToken : String} {request : Request} {next : Http Response}
    {history : List (Exchange HttpSig)} {response : Response}
    (h : (requireBearerToken apiToken request next).Leads history (pure response)) :
    (response.status = 401 ∧ askedOf history = [])
      ∨ ∃ token rest, request.authorization.bind HttpStack.decodeBearer = some token
        ∧ bearerTokenMatches token apiToken = true ∧ askedOf history = askedOf rest
        ∧ next.Leads rest (pure response) := by
  obtain ⟨reached, rest, rfl, hrest⟩ := edge_leads h
  have hasked : askedOf (⟨.inr (.reached .authentication), reached⟩ :: rest) = askedOf rest := rfl
  rw [hasked]
  have hrefused : ∀ {code message : String},
      (intoResponse (.unauthorized code message)).Leads rest (pure response) →
      response.status = 401 ∧ askedOf rest = [] := by
    intro code message hleads
    obtain ⟨rfl, hnone⟩ := intoResponse_leads hleads
    exact ⟨rfl, hnone⟩
  split at hrest
  · exact .inl (hrefused hrest)
  · next header hheader =>
      split at hrest
      · exact .inl (hrefused hrest)
      · next token htoken =>
          split at hrest
          · next hmatches =>
              exact .inr ⟨token, rest, by rw [hheader]; exact htoken, hmatches, rfl, hrest⟩
          · exact .inl (hrefused hrest)

variable [Chrono] [McpSdk] [HashOrder] [SerdeJson]

/-- What has become of a request for a status: either nothing has been asked for it, or it was
entitled to an answer, and has got the one that the provider's calls for. -/
def StatusServed (apiToken : String) (request : Request) (scope : UnitScope)
    (asked : List (Exchange ProviderSig)) (response : Response) : Prop :=
  (asked = [] ∧ (response.status = 401 ∨ response.status = 405 ∨ response.status = 429))
    ∨ (Presents apiToken request ∧ (request.method = "GET" ∨ request.method = "HEAD")
        ∧ ∃ answer : Except AppError String, asked = [⟨.systemState scope, answer⟩]
          ∧ response = statusResponse scope answer)

omit [HttpStack] in
theorem runHandler_status {scope : UnitScope} {request : Request}
    {history : List (Exchange HttpSig)} {response : Response}
    (h : (runHandler (statusHandler scope) request).Leads history (pure response))
    (hscope : scope ≠ .both) :
    ∃ answer : Except AppError String, askedOf history = [⟨.systemState scope, answer⟩]
      ∧ response = statusResponse scope answer := by
  obtain ⟨reached, rest, rfl, hrest⟩ := edge_leads h
  show ∃ answer : Except AppError String, askedOf rest = _ ∧ _
  cases scope with
  | system => exact systemdStatus_leads hrest
  | user => exact systemdStatus_leads hrest
  | both => exact absurd rfl hscope

omit [HttpStack] [Chrono] [McpSdk] [HashOrder] [SerdeJson] in
theorem routes_status {scope : UnitScope} {request : Request}
    (hpath : request.path = statusPath scope) :
    routes.find? (fun route => route.path == request.path)
      = some ⟨statusPath scope, "GET", statusHandler scope, true⟩ := by
  rw [hpath]
  cases scope <;> decide

theorem router_status [LawfulHttpStack] {apiToken : String} {request : Request} {scope : UnitScope}
    (hscope : scope ≠ .both) (hpath : request.path = statusPath scope)
    {history : List (Exchange HttpSig)} {response : Response}
    (h : (router apiToken request).Leads history (pure response)) :
    StatusServed apiToken request scope (askedOf history) response := by
  rw [router, routes_status hpath] at h
  dsimp only at h
  split at h
  · next haccepts =>
      rw [if_pos rfl] at h
      rcases requireBearerToken_leads h with
        ⟨hstatus, hnone⟩ | ⟨token, rest, htoken, hmatches, hasked, hrest⟩
      · exact .inl ⟨hnone, .inl hstatus⟩
      · obtain ⟨answer, hanswer, hresponse⟩ := runHandler_status hrest hscope
        have heq := LawfulHttpStack.eq_of_tokenHmac (beq_iff_eq.mp hmatches)
        refine .inr ⟨heq ▸ htoken, ?_, answer, hasked.trans hanswer, hresponse⟩
        simpa [Route.accepts] using haccepts
  · split at h
    · rcases requireBearerToken_leads h with ⟨hstatus, hnone⟩ | ⟨token, rest, -, -, hasked, hrest⟩
      · exact .inl ⟨hnone, .inl hstatus⟩
      · obtain ⟨rfl, rfl⟩ := hrest.pure_inv
        exact .inl ⟨hasked, .inr (.inl rfl)⟩
    · obtain ⟨rfl, rfl⟩ := h.pure_inv
      exact .inl ⟨rfl, .inr (.inl rfl)⟩

theorem decided_status [LawfulHttpStack] {apiToken : String} {request : Request} {scope : UnitScope}
    (hscope : scope ≠ .both) (hpath : request.path = statusPath scope)
    {decision : Except Nat Unit} {history : List (Exchange HttpSig)} {response : Response}
    (h : (decided apiToken request decision).Leads history (pure response)) :
    StatusServed apiToken request scope (askedOf history) response := by
  cases decision with
  | ok _ => exact router_status hscope hpath h
  | error n =>
      have hrejected : (intoResponse (.rateLimited n)).Leads history (pure response) := h
      obtain ⟨rfl, hnone⟩ := intoResponse_leads hrejected
      exact .inl ⟨hnone, .inr (.inr rfl)⟩

end Router

/-! ## Any interleaving -/

section Runs

variable [HttpStack] [Chrono] [McpSdk] [HashOrder] [SerdeJson] {σ : Type}

/-- What has become of a request that has been answered, by its history. -/
theorem buildApp_status [LawfulHttpStack] {apiToken : String} {request : Request}
    {scope : UnitScope} (hscope : scope ≠ .both) (hpath : request.path = statusPath scope)
    {history : List (Exchange HttpSig)} {answer : Response}
    (h : (buildApp apiToken request).Leads history (pure answer)) :
    ∃ response, answer = response.to request
      ∧ StatusServed apiToken request scope (askedOf history) response := by
  obtain ⟨startedAt, decision, response, before, rest, rfl, hbefore, hrest⟩ := buildApp_leads h
  obtain ⟨rfl, -⟩ := logged_leads hrest
  have hsilent := askedOf_spares
    (hrest.only (logged_only (fun _ h => h.2.2) request startedAt response))
  refine ⟨response, rfl, ?_⟩
  show StatusServed apiToken request scope (askedOf (before ++ rest)) response
  rw [askedOf_append, hsilent, List.append_nil]
  exact decided_status hscope hpath hbefore

omit [Chrono] [McpSdk] [HashOrder] [SerdeJson] in
/-- A 200 says that the manager is running, and nothing else is one. -/
theorem StatusServed.ok_iff {apiToken : String} {request : Request} {scope : UnitScope}
    {asked : List (Exchange ProviderSig)} {response : Response}
    (h : StatusServed apiToken request scope asked response) :
    response.status = 200 ↔ asked = [⟨.systemState scope, .ok "running"⟩] := by
  rcases h with ⟨hnone, hstatus⟩ | ⟨-, -, said, hsaid, rfl⟩
  · rw [hnone]
    refine iff_of_false ?_ (by simp)
    rcases hstatus with hstatus | hstatus | hstatus <;> simp [hstatus]
  · rw [hsaid, statusResponse_ok_iff]
    constructor
    · rintro rfl
      rfl
    · intro heq
      exact eq_of_heq (Sigma.mk.inj (List.cons.inj heq).1).2

/-- **The uptime endpoints fail closed**, in any interleaving and whatever the providers do: a
request that has been answered has asked nothing and got a 401, a 405 or a 429, or it has carried
the token, has asked the provider of its scope once, and its answer says what the provider has
said; and the answer is a 200 only, and always, when that was `running`. -/
theorem status_fails_closed [LawfulHttpStack] (apiToken : String) (requests : List Request)
    (turns : List (Nat × Moment)) (limiter : RateLimiter)
    (providers : Moment → Host ProviderSig σ) (s : σ) :
    let run := (app apiToken requests limiter s).run (httpHost providers) turns
    ∀ i request answer scope, requests[i]? = some request → scope ≠ .both →
      request.path = statusPath scope → run.2.tasks[i]? = some (pure answer) →
      let asked := askedOf ((ofTask i run.1).map Event.exchange)
      (∃ response, answer = response.to request
        ∧ StatusServed apiToken request scope asked response)
      ∧ (answer.status = 200 ↔ asked = [⟨.systemState scope, .ok "running"⟩]) := by
  intro run i request answer scope hi hscope hpath hanswer asked
  obtain ⟨p, hp, hleads⟩ := Pool.run_leads (httpHost providers)
    (app_task apiToken hi limiter s) turns
  obtain rfl : p = pure answer := Option.some.inj (hp.symm.trans hanswer)
  obtain ⟨response, rfl, hserved⟩ := buildApp_status hscope hpath hleads
  refine ⟨⟨response, rfl, hserved⟩, ?_⟩
  rw [to_status]
  exact hserved.ok_iff

end Runs

/-- The request with the token, on a manager that is running. -/
theorem status_fails_closed_running :
    askedOf ((ofTask 1 (statusRun "running").1).map Event.exchange)
      = [⟨.systemState .system, .ok "running"⟩] := by
  have hanswered : ((statusRun "running").2.tasks.map statusOf)[1]? = some (some 200) := by
    decide +kernel
  obtain ⟨response, hp, h200⟩ := answered_of_statusOf hanswered
  have h := @status_fails_closed plainHttp rfc3339 plainSdk nameOrder pingJson Unit lawful_plainHttp
    "t" statusRequests statusTurns (.new .default 0) (fun _ => statusHost "running") () 1 _ response
    .system rfl (by decide) rfl hp
  exact h.2.mp h200

end SystemdMonitoring
