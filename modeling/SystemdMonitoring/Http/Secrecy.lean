/-
# `SystemdMonitoring.Http.Secrecy` — the token stays in the guard

What a client has sent for a token is compared with the configured one and then
dropped.  Of both the server keeps which of four classes the comparison has put
the request in, so two servers with different tokens do the same for requests
that differ in nothing else: the same answers, the same log, the same work for
the providers (`token_secret`).
-/
import SystemdMonitoring.Http.App

namespace SystemdMonitoring

open Lib

section Secrecy

variable [HttpStack]

/-- What the guard makes of a request. -/
inductive Credential where
  | missing
  | malformed
  | wrong
  | right
  deriving DecidableEq, Repr

def credentialOf (apiToken : String) (request : Request) : Credential :=
  match request.authorization with
  | none => .missing
  | some header =>
      match HttpStack.decodeBearer header with
      | none => .malformed
      | some token => if bearerTokenMatches token apiToken then .right else .wrong

/-- With lawful tags, the right credential is the token itself. -/
theorem credentialOf_right_iff [LawfulHttpStack] (apiToken : String) (request : Request) :
    credentialOf apiToken request = .right ↔ Presents apiToken request := by
  rw [credentialOf, Presents]
  cases hheader : request.authorization with
  | none => simp
  | some header =>
      rw [Option.bind_some]
      dsimp only
      cases htoken : HttpStack.decodeBearer header with
      | none => simp only [reduceCtorEq]
      | some token =>
          dsimp only
          constructor
          · intro h
            split at h
            · next hmatches =>
                rw [LawfulHttpStack.eq_of_tokenHmac (beq_iff_eq.mp hmatches)]
            · cases h
          · intro h
            obtain rfl := Option.some.inj h
            exact if_pos (beq_self_eq_true _)

/-- Requests that differ in what they have sent for a token, but not in what that is worth. -/
structure Indistinct (apiToken apiToken' : String) (request request' : Request) : Prop where
  method : request.method = request'.method
  path : request.path = request'.path
  body : request.body = request'.body
  credential : credentialOf apiToken request = credentialOf apiToken' request'

/-- The guard goes by the class of the credential. -/
def guarded (next : Http Response) : Credential → Http Response
  | .missing => intoResponse (.unauthorized "missing_token" "missing authorization header")
  | .malformed => intoResponse (.unauthorized "invalid_token" "invalid authorization scheme")
  | .wrong => intoResponse (.unauthorized "invalid_token" "invalid bearer token")
  | .right => next

theorem requireBearerToken_eq (apiToken : String) (request : Request) (next : Http Response) :
    requireBearerToken apiToken request next
      = edge (.reached .authentication) >>= fun _ =>
        guarded next (credentialOf apiToken request) := by
  rw [requireBearerToken, credentialOf]
  congr 1
  funext reached
  cases request.authorization with
  | none => rfl
  | some header =>
      dsimp only
      cases HttpStack.decodeBearer header with
      | none => rfl
      | some token =>
          dsimp only
          split <;> rfl

variable {apiToken apiToken' : String} {request request' : Request}

theorem Indistinct.requireBearerToken (h : Indistinct apiToken apiToken' request request')
    {next next' : Http Response} (hnext : next = next') :
    requireBearerToken apiToken request next = requireBearerToken apiToken' request' next' := by
  rw [requireBearerToken_eq, requireBearerToken_eq, h.credential, hnext]

variable [Chrono] [McpSdk] [HashOrder] [SerdeJson]

omit [HttpStack] in
/-- A handler reads the body of its request and nothing else. -/
theorem runHandler_congr (handler : Handler) (hbody : request.body = request'.body) :
    runHandler handler request = runHandler handler request' := by
  cases handler with
  | mcpEndpoint => simp only [runHandler, hbody]
  | _ => rfl

theorem Indistinct.router (h : Indistinct apiToken apiToken' request request') :
    router apiToken request = router apiToken' request' := by
  rw [SystemdMonitoring.router, SystemdMonitoring.router, h.path, h.method]
  split
  · rfl
  · next route _ =>
      rw [runHandler_congr route.handler h.body, h.requireBearerToken rfl, h.requireBearerToken rfl]

theorem Indistinct.buildApp (h : Indistinct apiToken apiToken' request request') :
    buildApp apiToken request = buildApp apiToken' request' := by
  have hlogged : ∀ startedAt, logged request startedAt = logged request' startedAt := by
    intro startedAt
    funext response
    rw [logged, logged, Response.to, Response.to, h.method, h.path]
  have hdecided : ∀ decision, decided apiToken request decision
      = decided apiToken' request' decision := by
    intro decision
    cases decision with
    | ok _ => exact h.router
    | error n => rfl
  rw [buildApp_eq, buildApp_eq]
  congr 1
  funext startedAt
  congr 1
  funext decision
  rw [hdecided, hlogged]

/-- **The token stays in the guard**: servers with different tokens do the same, in every
interleaving, for requests that differ only in what they send for one, as long as the guard puts
them in the same class.  So neither an answer nor the log, an audit line or a provider's work says
more of the configured token, or of one that has been sent, than that class. -/
theorem token_secret {σ : Type} {requests requests' : List Request}
    (h : List.Forall₂ (Indistinct apiToken apiToken') requests requests')
    (turns : List (Nat × Moment)) (limiter : RateLimiter)
    (providers : Moment → Host ProviderSig σ) (s : σ) :
    (app apiToken requests limiter s).run (httpHost providers) turns
      = (app apiToken' requests' limiter s).run (httpHost providers) turns := by
  have htasks : requests.map (SystemdMonitoring.buildApp apiToken)
      = requests'.map (SystemdMonitoring.buildApp apiToken') := by
    induction h with
    | nil => rfl
    | cons hfirst _ ih => rw [List.map_cons, List.map_cons, hfirst.buildApp, ih]
  rw [app, app, htasks]

end Secrecy

/-- A request with the right token of one server or of another. -/
theorem token_secret_status :
    let header := fun token : UInt8 => some [66, 101, 97, 114, 101, 114, 32, token]
    (@app Unit plainHttp rfc3339 plainSdk nameOrder pingJson "t"
        [⟨"GET", "/systemd/system/status", header 116, []⟩] (.new .default 0) ()).run
        (httpHost fun _ => statusHost "running") statusTurns
      = (@app Unit plainHttp rfc3339 plainSdk nameOrder pingJson "u"
        [⟨"GET", "/systemd/system/status", header 117, []⟩] (.new .default 0) ()).run
        (httpHost fun _ => statusHost "running") statusTurns := by
  intro header
  have hindistinct : @Indistinct plainHttp "t" "u"
      ⟨"GET", "/systemd/system/status", header 116, []⟩
      ⟨"GET", "/systemd/system/status", header 117, []⟩ :=
    @Indistinct.mk plainHttp _ _ _ _ rfl rfl rfl (by decide +kernel)
  exact @token_secret plainHttp "t" "u" rfc3339 plainSdk nameOrder pingJson Unit _ _
    (.cons hindistinct .nil) statusTurns _ _ _

end SystemdMonitoring
