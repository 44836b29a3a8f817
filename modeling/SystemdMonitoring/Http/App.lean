/-
# `SystemdMonitoring.Http.App` — the router, its layers, and all requests together

A request passes the log, the limiter and the router, in that order; behind the
router the protected routes are guarded by the bearer token.  All requests run
on one limiter and on the same two providers, in any interleaving: they are the
tasks of a `Lib.Pool`.

A request without the token is a low task, one that asks no provider; a request
with it may be answered by what a provider says, but only once it is behind the
limiter, which is all that the requests have in common.  Hence the requests
without the token cannot tell one pair of providers from another
(`unauthenticated_learns_nothing`).
-/
import SystemdMonitoring.Http.Handlers
import SystemdMonitoring.Lib.Pool

namespace SystemdMonitoring

open Lib

/-! ## Requests -/

/-- What is read of an HTTP request; of several authorization headers, the first. -/
structure Request where
  method : String
  path : String
  authorization : Option (List UInt8)
  body : List UInt8
  deriving DecidableEq, Repr

/-- What is used of the HTTP, header and HMAC libraries.  Whether `route_layer` also covers the
answer to a wrong method on one of its routes is left open. -/
class HttpStack where
  decodeBearer : List UInt8 → Option String
  tokenHmac : String → List UInt8
  coversMethods : Bool

class LawfulHttpStack [HttpStack] : Prop where
  eq_of_tokenHmac : ∀ {provided expected : String},
    HttpStack.tokenHmac provided = HttpStack.tokenHmac expected → provided = expected

section Layers

variable [HttpStack]

/-- Compares bearer tokens by their tags. -/
def bearerTokenMatches (provided expected : String) : Bool :=
  HttpStack.tokenHmac provided == HttpStack.tokenHmac expected

/-- The request carries the configured token. -/
def Presents (apiToken : String) (request : Request) : Prop :=
  request.authorization.bind HttpStack.decodeBearer = some apiToken

/-- Auth middleware that enforces bearer token access to protected routes. -/
def requireBearerToken (apiToken : String) (request : Request) (next : Http Response) :
    Http Response := do
  edge (.reached .authentication)
  match request.authorization with
  | none => intoResponse (.unauthorized "missing_token" "missing authorization header")
  | some rawAuthorizationHeader =>
      match HttpStack.decodeBearer rawAuthorizationHeader with
      | none => intoResponse (.unauthorized "invalid_token" "invalid authorization scheme")
      | some token =>
          if bearerTokenMatches token apiToken then next
          else intoResponse (.unauthorized "invalid_token" "invalid bearer token")

/-- Enforces the single shared request budget before authentication and handlers. -/
def rateLimitMiddleware (next : Http Response) : Http Response := do
  match ← edge .checkLimiter with
  | .ok () => next
  | .error retryAfterSeconds => intoResponse (.rateLimited retryAfterSeconds)

/-- Emits the request summary, and a warning when authentication has failed. -/
def requestLoggingMiddleware (request : Request) (next : Http Response) : Http Response := do
  let startedAt ← edge .instantNow
  let response ← next
  let finishedAt ← edge .instantNow
  edge (.requestSummary request.method request.path response.status
    ((finishedAt - startedAt) / 1000000))
  if response.status = 401 then edge (.authenticationFailure request.method request.path)
  return response

/-! ## Routes -/

structure Route where
  path : String
  method : String
  handler : Handler
  isProtected : Bool
  deriving DecidableEq, Repr

def routes : List Route :=
  [⟨"/health", "GET", .health, false⟩,
    ⟨"/.well-known/mcp", "GET", .discovery, false⟩,
    ⟨"/mcp", "POST", .mcpEndpoint, true⟩,
    ⟨"/systemd/system/status", "GET", .systemdSystemStatus, true⟩,
    ⟨"/systemd/user/status", "GET", .systemdUserStatus, true⟩]

/-- A route for `GET` also takes `HEAD`. -/
def Route.accepts (route : Route) (method : String) : Bool :=
  method == route.method || (method == "HEAD" && route.method == "GET")

def notFound : Response := ⟨404, none, none⟩

def methodNotAllowed : Response := ⟨405, none, none⟩

variable [Chrono] [McpSdk] [HashOrder] [SerdeJson]

def runHandler (handler : Handler) (request : Request) : Http Response := do
  edge (.reached (.handler handler))
  match handler with
  | .health => health
  | .discovery => discovery
  | .mcpEndpoint => engine (mcpEndpoint request.body)
  | .systemdSystemStatus => systemdStatus .system
  | .systemdUserStatus => systemdStatus .user

def router (apiToken : String) (request : Request) : Http Response :=
  match routes.find? (fun route => route.path == request.path) with
  | none => pure notFound
  | some route =>
      if route.accepts request.method then
        if route.isProtected then
          requireBearerToken apiToken request (runHandler route.handler request)
        else runHandler route.handler request
      else if route.isProtected && HttpStack.coversMethods then
        requireBearerToken apiToken request (pure methodNotAllowed)
      else pure methodNotAllowed

/-- The answer to `HEAD` has no body. -/
def Response.to (response : Response) (request : Request) : Response :=
  if request.method = "HEAD" then { response with body := none } else response

/-- The application: the log around the limiter around the router. -/
def buildApp (apiToken : String) (request : Request) : Http Response := do
  let response ← requestLoggingMiddleware request (rateLimitMiddleware (router apiToken request))
  return response.to request

end Layers

/-! ## All requests -/

/-- When a turn is taken, by the monotonic clock and by the calendar. -/
structure Moment where
  clock : Duration
  now : DateTime
  deriving DecidableEq, Repr

variable {σ σ' : Type}

/-- The one limiter and the providers, as the host of all requests. -/
def httpHost (providers : Moment → Host ProviderSig σ) (moment : Moment) :
    Host HttpSig (RateLimiter × σ) where
  answer
    | .inl (.inl o), (limiter, s) =>
        let r := (providers moment).answer o s
        (r.1, limiter, r.2)
    | .inl (.inr .utcNow), state => (moment.now, state)
    | .inl (.inr (.audit _)), state => ((), state)
    | .inr .instantNow, state => (moment.clock, state)
    | .inr .checkLimiter, (limiter, s) =>
        let r := limiter.check moment.clock
        (r.1, r.2, s)
    | .inr (.reached _), state => ((), state)
    | .inr (.requestSummary _ _ _ _), state => ((), state)
    | .inr (.authenticationFailure _ _), state => ((), state)
    | .inr (.internalFailure _), state => ((), state)

section App

variable [HttpStack] [Chrono] [McpSdk] [HashOrder] [SerdeJson]

/-- All requests, none of them begun. -/
def app (apiToken : String) (requests : List Request) (limiter : RateLimiter) (s : σ) :
    Pool HttpSig (RateLimiter × σ) Response :=
  ⟨requests.map (buildApp apiToken), (limiter, s)⟩

end App

/-! ## What a program may ask for -/

def IsProvider : HttpSig.Op → Prop
  | .inl (.inl _) => True
  | _ => False

def IsStage : HttpSig.Op → Prop
  | .inr (.reached _) => True
  | _ => False

def SparesLimiter (o : HttpSig.Op) : Prop := o ≠ .inr .checkLimiter

def SparesProviders (o : HttpSig.Op) : Prop := ¬ IsProvider o

/-- Neither the limiter, nor a stage behind it, nor a provider. -/
def IsNeutral (o : HttpSig.Op) : Prop := SparesLimiter o ∧ ¬ IsStage o ∧ SparesProviders o

theorem sparesLimiter_engine (o : AppSig.Op) : SparesLimiter (.inl o) := by simp [SparesLimiter]

theorem sparesLimiter_edge {o : EdgeOp} (h : o ≠ .checkLimiter) : SparesLimiter (.inr o) := by
  simpa [SparesLimiter] using h

theorem isNeutral_edge {o : EdgeOp} (h : o ≠ .checkLimiter) (hstage : ∀ stage, o ≠ .reached stage) :
    IsNeutral (.inr o) := by
  refine ⟨sparesLimiter_edge h, ?_, id⟩
  cases o with
  | reached stage => exact absurd rfl (hstage stage)
  | _ => exact id

section Only

variable {P : HttpSig.Op → Prop}

theorem edge_bind_only {α : Type} {o : EdgeOp} {f : EdgeSig.Ans o → Http α} (ho : P (.inr o))
    (hf : ∀ answer, (f answer).Only P) : (edge o >>= f).Only P := ⟨ho, hf⟩

theorem intoResponse_only (hP : ∀ o, IsNeutral o → P o) (err : AppError) :
    (intoResponse err).Only P := by
  cases err with
  | internal code message =>
      exact edge_bind_only (hP _ (isNeutral_edge (by simp) (by simp))) fun _ => .pure _
  | _ => exact .pure _

variable [HttpStack]

theorem requireBearerToken_only (hP : ∀ o, IsNeutral o → P o)
    (hstage : ∀ stage, P (.inr (.reached stage))) {apiToken : String} {request : Request}
    {next : Http Response}
    (hnext : ∀ token, request.authorization.bind HttpStack.decodeBearer = some token →
      bearerTokenMatches token apiToken = true → next.Only P) :
    (requireBearerToken apiToken request next).Only P := by
  refine edge_bind_only (hstage _) fun _ => ?_
  split
  · exact intoResponse_only hP _
  · next header hheader =>
      split
      · exact intoResponse_only hP _
      · next token htoken =>
          split
          · next hmatches => exact hnext token (by rw [hheader]; exact htoken) hmatches
          · exact intoResponse_only hP _

variable [Chrono] [McpSdk] [HashOrder] [SerdeJson]

omit [HttpStack] [Chrono] [McpSdk] [HashOrder] [SerdeJson] in
theorem systemdStatus_only (scope : UnitScope) : (systemdStatus scope).Only SparesLimiter := by
  refine .bind (Prog.only_inLeft sparesLimiter_engine _) fun answer => ?_
  cases answer with
  | error err => exact intoResponse_only (fun _ h => h.1) err
  | ok status =>
      dsimp only
      split <;> exact .pure _

omit [HttpStack] in
theorem runHandler_only (handler : Handler) (request : Request) :
    (runHandler handler request).Only SparesLimiter := by
  refine edge_bind_only (sparesLimiter_edge (by simp)) fun _ => ?_
  cases handler with
  | health => exact .pure _
  | discovery => exact .pure _
  | mcpEndpoint => exact Prog.only_inLeft sparesLimiter_engine _
  | systemdSystemStatus => exact systemdStatus_only .system
  | systemdUserStatus => exact systemdStatus_only .user

/-- Behind the limiter nothing asks it again. -/
theorem router_only (apiToken : String) (request : Request) :
    (router apiToken request).Only SparesLimiter := by
  have hguarded : ∀ {next : Http Response}, next.Only SparesLimiter →
      (requireBearerToken apiToken request next).Only SparesLimiter := fun hnext =>
    requireBearerToken_only (fun _ h => h.1) (fun _ => sparesLimiter_edge (by simp))
      fun _ _ _ => hnext
  rw [router]
  split
  · exact .pure _
  · next route _ =>
      split
      · split
        · exact hguarded (runHandler_only route.handler request)
        · exact runHandler_only route.handler request
      · split
        · exact hguarded (.pure _)
        · exact .pure _

omit [HttpStack] in
/-- The open routes ask no provider. -/
theorem runHandler_open {route : Route} (hroute : route ∈ routes)
    (hopen : route.isProtected = false) (request : Request) :
    (runHandler route.handler request).Only SparesProviders := by
  refine edge_bind_only id fun _ => ?_
  simp only [routes, List.mem_cons, List.not_mem_nil, or_false] at hroute
  rcases hroute with rfl | rfl | rfl | rfl | rfl
  · exact .pure _
  · exact .pure _
  all_goals cases hopen

/-- Without the token nothing is asked of a provider. -/
theorem router_unauthenticated [LawfulHttpStack] {apiToken : String} {request : Request}
    (h : ¬ Presents apiToken request) : (router apiToken request).Only SparesProviders := by
  have hguarded : ∀ next : Http Response,
      (requireBearerToken apiToken request next).Only SparesProviders := by
    intro next
    refine requireBearerToken_only (fun _ h => h.2.2) (fun _ => id) fun token htoken hmatches => ?_
    -- a token that matches is the configured one
    have heq := LawfulHttpStack.eq_of_tokenHmac (beq_iff_eq.mp hmatches)
    exact absurd (heq ▸ htoken) h
  rw [router]
  split
  · exact .pure _
  · next route hroute =>
      split
      · split
        · exact hguarded _
        · next hopen =>
            exact runHandler_open (List.mem_of_find?_eq_some hroute) (by simpa using hopen) request
      · split
        · exact hguarded _
        · exact .pure _

end Only

/-! ## Before and behind the limiter -/

/-- How far a request has come: before the limiter, let through, or turned away. -/
inductive Phase where
  | arrived
  | admitted
  | rejected
  deriving DecidableEq, Repr

/-- One decision, and stages and providers only behind one that lets through. -/
def limiterMonitor : Monitor HttpSig Phase where
  allows
    | .arrived, o => ¬ IsStage o ∧ ¬ IsProvider o
    | .admitted, o => SparesLimiter o
    | .rejected, o => IsNeutral o
  next
    | .arrived, .inr .checkLimiter, .ok _ => .admitted
    | .arrived, .inr .checkLimiter, .error _ => .rejected
    | phase, _, _ => phase

/-- Without the limiter the phase stays. -/
theorem limiterMonitor_next (phase : Phase) {o : HttpSig.Op} (h : SparesLimiter o)
    (answer : HttpSig.Ans o) : limiterMonitor.next phase o answer = phase := by
  cases phase with
  | admitted => rfl
  | rejected => rfl
  | arrived =>
      cases o with
      | inl o => rfl
      | inr o =>
          cases o with
          | checkLimiter => exact absurd rfl h
          | _ => rfl

section Shape

variable [HttpStack] [Chrono] [McpSdk] [HashOrder] [SerdeJson]

/-- What follows the limiter's decision. -/
def decided (apiToken : String) (request : Request) : Except Nat Unit → Http Response
  | .ok () => router apiToken request
  | .error retryAfterSeconds => intoResponse (.rateLimited retryAfterSeconds)

/-- What follows a response. -/
def logged (request : Request) (startedAt : Duration) (response : Response) : Http Response := do
  let finishedAt ← edge .instantNow
  edge (.requestSummary request.method request.path response.status
    ((finishedAt - startedAt) / 1000000))
  if response.status = 401 then edge (.authenticationFailure request.method request.path)
  return response.to request

/-- The application reads the clock, asks the limiter, and goes on from its decision. -/
theorem buildApp_eq (apiToken : String) (request : Request) :
    buildApp apiToken request = edge .instantNow >>= fun startedAt =>
      edge .checkLimiter >>= fun decision =>
        decided apiToken request decision >>= logged request startedAt := by
  rw [buildApp, requestLoggingMiddleware, rateLimitMiddleware]
  simp only [Prog.bind_assoc]
  congr 1
  funext startedAt
  congr 1
  funext decision
  refine congrArg₂ (· >>= ·) (by cases decision <;> rfl) (funext fun response => ?_)
  rw [logged]
  congr 1
  funext finishedAt
  congr 1
  funext summary
  split <;> rfl

omit [HttpStack] [Chrono] [McpSdk] [HashOrder] [SerdeJson] in
theorem logged_only {P : HttpSig.Op → Prop} (hP : ∀ o, IsNeutral o → P o) (request : Request)
    (startedAt : Duration) (response : Response) : (logged request startedAt response).Only P := by
  have hedge : ∀ {o : EdgeOp}, o ≠ .checkLimiter → (∀ stage, o ≠ .reached stage) → P (.inr o) :=
    fun h hstage => hP _ (isNeutral_edge h hstage)
  refine edge_bind_only (hedge (by simp) (by simp)) fun finishedAt =>
    edge_bind_only (hedge (by simp) (by simp)) fun _ => ?_
  split
  · exact edge_bind_only (hedge (by simp) (by simp)) fun _ => .pure _
  · exact .pure _

theorem decided_only {P : HttpSig.Op → Prop} (hP : ∀ o, IsNeutral o → P o) {apiToken : String}
    {request : Request} (hrouter : (router apiToken request).Only P) (decision : Except Nat Unit) :
    (decided apiToken request decision).Only P := by
  cases decision with
  | ok _ => exact hrouter
  | error n => exact intoResponse_only hP (.rateLimited n)

/-- The application is the same for all providers until the limiter has decided. -/
theorem buildApp_forks (apiToken : String) (request : Request) :
    (buildApp apiToken request).Forks SparesProviders SparesLimiter := by
  have hneutral : ∀ o, IsNeutral o → SparesLimiter o := fun _ h => h.1
  have hrest : ∀ startedAt decision,
      (decided apiToken request decision >>= logged request startedAt).Only SparesLimiter :=
    fun startedAt decision => (decided_only hneutral (router_only apiToken request) decision).bind
      (logged_only hneutral request startedAt)
  rw [buildApp_eq]
  exact .inr ⟨id, fun startedAt => .inr ⟨id, fun decision => (hrest startedAt decision).forks⟩⟩

theorem buildApp_unauthenticated [LawfulHttpStack] {apiToken : String} {request : Request}
    (h : ¬ Presents apiToken request) : (buildApp apiToken request).Only SparesProviders := by
  have hneutral : ∀ o, IsNeutral o → SparesProviders o := fun _ h => h.2.2
  rw [buildApp_eq]
  exact edge_bind_only id fun startedAt => edge_bind_only id fun decision =>
    (decided_only hneutral (router_unauthenticated h) decision).bind
      (logged_only hneutral request startedAt)

theorem buildApp_obeys (apiToken : String) (request : Request) :
    limiterMonitor.Obeys (· ≠ .arrived) .arrived (buildApp apiToken request) := by
  have hneutral : ∀ o, IsNeutral o → SparesLimiter o := fun _ h => h.1
  have hadmitted : ∀ startedAt, limiterMonitor.Obeys (· ≠ .arrived) .admitted
      (router apiToken request >>= logged request startedAt) := fun startedAt =>
    ((router_only apiToken request).bind (logged_only hneutral request startedAt)).obeys
      (fun _ h => h) (fun _ r h => limiterMonitor_next .admitted h r) (by decide)
  have hrejected : ∀ startedAt n, limiterMonitor.Obeys (· ≠ .arrived) .rejected
      (intoResponse (.rateLimited n) >>= logged request startedAt) := fun startedAt n =>
    ((intoResponse_only (fun _ h => h) _).bind (logged_only (fun _ h => h) request startedAt)).obeys
      (fun _ h => h) (fun _ r h => limiterMonitor_next .rejected h.1 r) (by decide)
  rw [buildApp_eq]
  refine ⟨⟨id, id⟩, fun startedAt => ⟨⟨id, id⟩, fun decision => ?_⟩⟩
  cases decision with
  | ok _ => exact hadmitted startedAt
  | error n => exact hrejected startedAt n

end Shape

/-! ## What two runs have in common -/

/-- Two hosts with one limiter; the providers are nothing that a request without the token asks. -/
theorem httpHost_agree (providers : Moment → Host ProviderSig σ)
    (providers' : Moment → Host ProviderSig σ') :
    Agree SparesProviders SparesLimiter
      (fun (state : RateLimiter × σ) (state' : RateLimiter × σ') => state.1 = state'.1)
      (httpHost providers) (httpHost providers') where
  low := by
    rintro moment o ⟨limiter, s⟩ ⟨limiter', s'⟩ hlow rfl
    rcases o with (o | o) | o
    · exact absurd trivial hlow
    · cases o <;> exact ⟨rfl, rfl⟩
    · cases o <;> exact ⟨rfl, rfl⟩
  high_left := by
    rintro moment o ⟨limiter, s⟩ ⟨limiter', s'⟩ hhigh rfl
    rcases o with (o | o) | o
    · rfl
    · cases o <;> rfl
    · cases o with
      | checkLimiter => exact absurd rfl hhigh
      | _ => rfl
  high_right := by
    rintro moment o ⟨limiter, s⟩ ⟨limiter', s'⟩ hhigh rfl
    rcases o with (o | o) | o
    · rfl
    · cases o <;> rfl
    · cases o with
      | checkLimiter => exact absurd rfl hhigh
      | _ => rfl

/-! ## Decisions -/

def decisionOf : Exchange HttpSig → Option (Except Nat Unit)
  | ⟨.inr .checkLimiter, decision⟩ => some decision
  | _ => none

/-- One decision at most, and only behind one that admits a stage or a provider's work. -/
structure Disciplined (exchanges : List (Exchange HttpSig)) : Prop where
  once : (exchanges.filterMap decisionOf).length ≤ 1
  admitted : ∀ before exchange rest, exchanges = before ++ exchange :: rest →
    IsStage exchange.1 ∨ IsProvider exchange.1 → before.filterMap decisionOf = [.ok ()]
  rejected : ∀ n, .error n ∈ exchanges.filterMap decisionOf →
    ∀ exchange ∈ exchanges, ¬ IsStage exchange.1 ∧ ¬ IsProvider exchange.1

theorem decisionOf_eq_none {exchange : Exchange HttpSig} (h : SparesLimiter exchange.1) :
    decisionOf exchange = none := by
  obtain ⟨o | o, answer⟩ := exchange
  · rfl
  · cases o with
    | checkLimiter => exact absurd rfl h
    | _ => rfl

/-- An operation is the limiter's, or it leaves the phase. -/
theorem limiter_or_spares (o : HttpSig.Op) : o = .inr .checkLimiter ∨ SparesLimiter o := by
  by_cases h : o = .inr .checkLimiter
  · exact .inl h
  · exact .inr h

theorem decisions_of_spares {exchanges : List (Exchange HttpSig)}
    (h : ∀ exchange ∈ exchanges, SparesLimiter exchange.1) :
    exchanges.filterMap decisionOf = [] :=
  List.filterMap_eq_nil_iff.mpr fun exchange hmem => decisionOf_eq_none (h exchange hmem)

theorem spares_of_admitted {exchanges : List (Exchange HttpSig)}
    (h : limiterMonitor.Accepts .admitted exchanges) :
    ∀ exchange ∈ exchanges, SparesLimiter exchange.1 := by
  induction exchanges with
  | nil => simp
  | cons exchange exchanges ih =>
      rw [Monitor.Accepts, limiterMonitor_next .admitted h.1] at h
      exact List.forall_mem_cons.mpr ⟨h.1, ih h.2⟩

theorem neutral_of_rejected {exchanges : List (Exchange HttpSig)}
    (h : limiterMonitor.Accepts .rejected exchanges) :
    ∀ exchange ∈ exchanges, IsNeutral exchange.1 := by
  induction exchanges with
  | nil => simp
  | cons exchange exchanges ih =>
      rw [Monitor.Accepts, limiterMonitor_next .rejected h.1.1] at h
      exact List.forall_mem_cons.mpr ⟨h.1, ih h.2⟩

/-! ### Discipline -/

theorem Disciplined.neutral {exchange : Exchange HttpSig} {exchanges : List (Exchange HttpSig)}
    (h : Disciplined exchanges) (hneutral : IsNeutral exchange.1) :
    Disciplined (exchange :: exchanges) := by
  obtain ⟨hspares, hplain⟩ := hneutral
  have hdecisions : ∀ before : List (Exchange HttpSig),
      (exchange :: before).filterMap decisionOf = before.filterMap decisionOf := fun before =>
    List.filterMap_cons_none (decisionOf_eq_none hspares)
  refine ⟨by rw [hdecisions]; exact h.once, ?_, ?_⟩
  · rintro (_ | ⟨first, before⟩) behind rest heq hbehind
    · cases heq
      exact absurd hbehind (not_or.mpr hplain)
    · cases heq
      rw [hdecisions]
      exact h.admitted before behind rest rfl hbehind
  · intro n hn
    rw [hdecisions] at hn
    exact List.forall_mem_cons.mpr ⟨hplain, h.rejected n hn⟩

theorem disciplined_ok {exchanges : List (Exchange HttpSig)}
    (h : ∀ exchange ∈ exchanges, SparesLimiter exchange.1) :
    Disciplined (⟨.inr .checkLimiter, Except.ok ()⟩ :: exchanges) := by
  have hnone := decisions_of_spares h
  refine ⟨by simp [decisionOf, hnone], ?_, fun n hn => by simp [decisionOf, hnone] at hn⟩
  rintro (_ | ⟨first, before⟩) behind rest heq hbehind
  · cases heq
    exact absurd hbehind (not_or.mpr ⟨id, id⟩)
  · cases heq
    have hbefore := decisions_of_spares fun exchange hmem =>
      h exchange (List.mem_append_left _ hmem)
    simp [decisionOf, hbefore]

theorem disciplined_error {exchanges : List (Exchange HttpSig)} (n : Nat)
    (h : ∀ exchange ∈ exchanges, IsNeutral exchange.1) :
    Disciplined (⟨.inr .checkLimiter, Except.error n⟩ :: exchanges) := by
  have hnone := decisions_of_spares fun exchange hmem => (h exchange hmem).1
  have hplain : ∀ exchange ∈ (⟨.inr .checkLimiter, Except.error n⟩ : Exchange HttpSig) :: exchanges,
      ¬ IsStage exchange.1 ∧ ¬ IsProvider exchange.1 :=
    List.forall_mem_cons.mpr ⟨⟨id, id⟩, fun exchange hmem => (h exchange hmem).2⟩
  refine ⟨by simp [decisionOf, hnone], ?_, fun _ _ => hplain⟩
  intro before behind rest heq hbehind
  exact absurd hbehind (not_or.mpr (hplain behind (heq ▸ by simp)))

/-- What the monitor accepts from the start is disciplined. -/
theorem disciplined_of_accepts {exchanges : List (Exchange HttpSig)}
    (h : limiterMonitor.Accepts .arrived exchanges) : Disciplined exchanges := by
  induction exchanges with
  | nil => exact ⟨by simp, by simp, by simp⟩
  | cons exchange exchanges ih =>
      obtain ⟨o, answer⟩ := exchange
      obtain ⟨hplain, hrest⟩ := h
      rcases limiter_or_spares o with rfl | hspares
      · cases answer with
        | ok _ => exact disciplined_ok (spares_of_admitted hrest)
        | error n => exact disciplined_error n (neutral_of_rejected hrest)
      · rw [limiterMonitor_next .arrived hspares] at hrest
        exact (ih hrest).neutral ⟨hspares, hplain⟩

/-- Without a decision a request has not come past the limiter. -/
theorem after_of_no_decision {exchanges : List (Exchange HttpSig)}
    (h : exchanges.filterMap decisionOf = []) :
    limiterMonitor.after .arrived exchanges = .arrived := by
  induction exchanges with
  | nil => rfl
  | cons exchange exchanges ih =>
      obtain ⟨o, answer⟩ := exchange
      rcases limiter_or_spares o with rfl | hspares
      · cases h
      · rw [List.filterMap_cons_none (decisionOf_eq_none hspares)] at h
        rw [Monitor.after, limiterMonitor_next .arrived hspares]
        exact ih h

/-! ## The limiter's log -/

/-- A decision with its offset, as the limiter's own log has it. -/
def chargeOf (startedAt : Duration) (event : Event HttpSig Moment) : Option Answer :=
  (decisionOf event.exchange).map (fun decision => (event.stamp.clock - startedAt, decision))

/-- The charges of a history are a run of the limiter, and leave the limiter that is left. -/
def Charges (limiter last : RateLimiter) (history : List (Event HttpSig Moment)) : Prop :=
  limiter.run ((history.filterMap (chargeOf limiter.startedAt)).map Prod.fst)
    = (history.filterMap (chargeOf limiter.startedAt), last)

theorem Charges.append {limiter middle last : RateLimiter}
    {before history : List (Event HttpSig Moment)} (hbefore : Charges limiter middle before)
    (hstarted : middle.startedAt = limiter.startedAt) (hhistory : Charges middle last history) :
    Charges limiter last (before ++ history) := by
  rw [Charges, hstarted] at hhistory
  rw [Charges, List.filterMap_append, List.map_append, RateLimiter.run_append, hbefore, hhistory]

/-- One operation charges the limiter when it is the limiter's, and leaves it alone otherwise. -/
theorem charges_answer (providers : Moment → Host ProviderSig σ) (moment : Moment)
    (limiter : RateLimiter) (s : σ) (o : HttpSig.Op) (i : Nat) :
    let r := (httpHost providers moment).answer o (limiter, s)
    Charges limiter r.2.1 [⟨i, moment, ⟨o, r.1⟩⟩] ∧ r.2.1.startedAt = limiter.startedAt := by
  rcases o with (o | o) | o
  · exact ⟨rfl, rfl⟩
  · cases o <;> exact ⟨rfl, rfl⟩
  · cases o with
    | checkLimiter => exact ⟨rfl, checkAt_startedAt limiter _⟩
    | _ => exact ⟨rfl, rfl⟩

theorem charges_step (providers : Moment → Host ProviderSig σ)
    (pool : Pool HttpSig (RateLimiter × σ) Response) (turn : Nat × Moment) :
    Charges pool.state.1 (pool.step (httpHost providers) turn).2.state.1
        (pool.step (httpHost providers) turn).1
      ∧ (pool.step (httpHost providers) turn).2.state.1.startedAt = pool.state.1.startedAt := by
  rw [Pool.step]
  split
  · exact ⟨rfl, rfl⟩
  · next p _ =>
      cases p with
      | pure response => exact ⟨rfl, rfl⟩
      | abort msg => exact ⟨rfl, rfl⟩
      | op o k => exact charges_answer providers turn.2 pool.state.1 pool.state.2 o turn.1

/-- **The limiter is one**: all decisions of a run, in their order, are its log. -/
theorem charges_run (providers : Moment → Host ProviderSig σ) (turns : List (Nat × Moment))
    (pool : Pool HttpSig (RateLimiter × σ) Response) :
    Charges pool.state.1 (pool.run (httpHost providers) turns).2.state.1
      (pool.run (httpHost providers) turns).1 := by
  induction turns generalizing pool with
  | nil => rfl
  | cons turn turns ih =>
      obtain ⟨hstep, hstarted⟩ := charges_step providers pool turn
      exact hstep.append hstarted (ih _)

/-! ## Noninterference -/

section Noninterference

variable [HttpStack] [Chrono] [McpSdk] [HashOrder] [SerdeJson]

theorem app_task (apiToken : String) {requests : List Request} {i : Nat} {request : Request}
    (hi : requests[i]? = some request) (limiter : RateLimiter) (s : σ) :
    (app apiToken requests limiter s).tasks[i]? = some (buildApp apiToken request) := by
  rw [app, List.getElem?_map, hi]
  rfl

/-- The same requests on two pairs of providers. -/
theorem app_alike (apiToken : String) (requests : List Request) (limiter : RateLimiter) (s : σ)
    (s' : σ') :
    (app apiToken requests limiter s).Alike SparesProviders SparesLimiter
      (fun state state' => state.1 = state'.1) (app apiToken requests limiter s') where
  state := rfl
  tasks i := by
    simp only [app, List.getElem?_map]
    cases requests[i]? with
    | none => exact .none
    | some request => exact .some (.inl ⟨rfl, buildApp_forks apiToken request⟩)

/-- **A client without the token learns nothing about the host**, in any interleaving and whatever
the providers do: its requests go the same way with any two pairs of providers, and ask neither.
Every request goes through one decision of the one limiter before anything else is done for it,
and one that is turned away comes to nothing else. -/
theorem unauthenticated_learns_nothing [LawfulHttpStack] (apiToken : String)
    (requests : List Request) (turns : List (Nat × Moment)) (limiter : RateLimiter)
    (providers : Moment → Host ProviderSig σ) (s : σ)
    (providers' : Moment → Host ProviderSig σ') (s' : σ') :
    let run := (app apiToken requests limiter s).run (httpHost providers) turns
    let run' := (app apiToken requests limiter s').run (httpHost providers') turns
    (∀ i request, requests[i]? = some request → ¬ Presents apiToken request →
      run.2.tasks[i]? = run'.2.tasks[i]? ∧ ofTask i run.1 = ofTask i run'.1
        ∧ ∀ event ∈ ofTask i run.1, ¬ IsProvider event.exchange.1)
    ∧ (∀ i request, requests[i]? = some request →
      Disciplined ((ofTask i run.1).map Event.exchange)
        ∧ ∀ response, run.2.tasks[i]? = some (pure response) →
          (((ofTask i run.1).map Event.exchange).filterMap decisionOf).length = 1)
    ∧ Charges limiter run.2.state.1 run.1 := by
  intro run run'
  refine ⟨fun i request hi habsent => ?_, fun i request hi => ?_,
    charges_run providers turns (app apiToken requests limiter s)⟩
  · have htask := app_task apiToken hi limiter s
    have hlow := buildApp_unauthenticated habsent
    obtain ⟨hleft, hhistory⟩ := Pool.run_low (httpHost_agree providers providers')
      (app_alike apiToken requests limiter s s') htask (app_task apiToken hi limiter s') hlow turns
    obtain ⟨haccepts, -⟩ := Pool.run_obeys (httpHost providers) htask hlow turns
    have hspares := Monitor.accepts_only haccepts
    exact ⟨hleft, hhistory, fun event hevent =>
      hspares event.exchange (List.mem_map_of_mem hevent)⟩
  · obtain ⟨haccepts, p, hp, hobeys⟩ := Pool.run_obeys (httpHost providers)
      (app_task apiToken hi limiter s) (buildApp_obeys apiToken request) turns
    have hdisciplined := disciplined_of_accepts haccepts
    refine ⟨hdisciplined, fun response hresponse => ?_⟩
    rw [hp, Option.some.injEq] at hresponse
    subst hresponse
    -- a request that has been answered is past the limiter
    have hsome : ((ofTask i run.1).map Event.exchange).filterMap decisionOf ≠ [] := fun hnone =>
      hobeys (after_of_no_decision hnone)
    exact Nat.le_antisymm hdisciplined.once (List.length_pos_iff.mpr hsome)

end Noninterference

/-! ## Two requests -/

/-- Headers that begin with the scheme, and tags that are the token's own bytes. -/
@[reducible] def plainHttp : HttpStack where
  decodeBearer := fun header =>
    if header.take 7 = [66, 101, 97, 114, 101, 114, 32] then
      some (Text.fromUtf8Lossy (header.drop 7))
    else none
  tokenHmac := fun token => token.toUTF8.data.toList
  coversMethods := true

theorem lawful_plainHttp : @LawfulHttpStack plainHttp :=
  @LawfulHttpStack.mk plainHttp fun h =>
    String.toByteArray_inj.mp (ByteArray.ext (Array.toList_inj.mp h))

/-- A host of which only the manager's state is known. -/
def statusHost (status : String) : Host ProviderSig Unit where
  answer o s := ((match o with
    | .systemState _ => .ok status
    | _ => .error (.internalError "unavailable")), s)

/-- The state of the system, asked for without the token `t` and with it. -/
def statusRequests : List Request :=
  [⟨"GET", "/systemd/system/status", none, []⟩,
    ⟨"GET", "/systemd/system/status", some [66, 101, 97, 114, 101, 114, 32, 116], []⟩]

/-- Turn about, all in one instant. -/
def statusTurns : List (Nat × Moment) :=
  (List.replicate 7 [0, 1]).flatten.map
    (fun i => (i, ⟨0, .ofSecs 1767225600⟩))

/-- Both requests on a manager in that state. -/
def statusRun (status : String) :
    List (Event HttpSig Moment) × Pool HttpSig (RateLimiter × Unit) Response :=
  (@app Unit plainHttp rfc3339 plainSdk nameOrder pingJson "t" statusRequests
    (.new .default 0) ()).run (httpHost fun _ => statusHost status) statusTurns

/-- The status of a request that has been answered. -/
def statusOf : Prog HttpSig Response → Option Nat
  | .pure response => some response.status
  | _ => none

/-- With the token the state is seen, and without it not. -/
theorem unauthenticated_learns_nothing_status :
    (statusRun "running").2.tasks[0]? = (statusRun "degraded").2.tasks[0]?
      ∧ (statusRun "running").2.tasks.map statusOf = [some 401, some 200]
      ∧ (statusRun "degraded").2.tasks.map statusOf = [some 401, some 503] := by
  have habsent : ¬ @Presents plainHttp "t" ⟨"GET", "/systemd/system/status", none, []⟩ := by
    intro h
    cases h
  have h := @unauthenticated_learns_nothing Unit Unit plainHttp rfc3339 plainSdk nameOrder pingJson
    lawful_plainHttp "t" statusRequests statusTurns (.new .default 0)
    (fun _ => statusHost "running") () (fun _ => statusHost "degraded") ()
  exact ⟨(h.1 0 _ rfl habsent).1, by decide +kernel, by decide +kernel⟩

end SystemdMonitoring
