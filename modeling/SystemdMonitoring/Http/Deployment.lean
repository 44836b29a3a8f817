/-
# `SystemdMonitoring.Http.Deployment` — all requests on one machine

Where the application asks a provider, the server in production runs that
provider's own program on D-Bus, the journal and `podman`.  `deploy` puts those
programs in place, and a turn is then one operation on the machine: requests
interleave between the operations of one provider, too.

Within one request the operations come one after the other, also the lookups of a
listing, which the source makes concurrently; and an opened journal is read in one
operation.  Interleavings here are those between requests.

The machine is left open (`Host HostSig`); it may remember what it likes from
one operation to the next, and change between them.
-/
import SystemdMonitoring.Http.App
import SystemdMonitoring.Provider

namespace SystemdMonitoring

open Lib

abbrev DeployedSig : Sig := ServedSig.sum EdgeSig

section Deployment

variable [Chrono] [RegexEngine] [SerdeJson]

/-- An operation of the application, carried out by the server in production. -/
def deployed : (o : HttpSig.Op) → Prog DeployedSig (HttpSig.Ans o)
  | .inl (.inl o) => (provided o).inLeft (T := EdgeSig)
  | .inl (.inr o) => Prog.call (S := DeployedSig) (.inl (.inr o))
  | .inr o => Prog.call (S := DeployedSig) (.inr o)

def deploy {α : Type} (p : Http α) : Prog DeployedSig α := p.interp deployed

variable [HttpStack] [McpSdk] [HashOrder] {σ : Type}

/-- All requests in production, none of them begun. -/
def deployment (apiToken : String) (requests : List Request) (limiter : RateLimiter) (s : σ) :
    Pool DeployedSig (RateLimiter × σ) Response :=
  ⟨requests.map fun request => deploy (buildApp apiToken request), (limiter, s)⟩

theorem deployment_task (apiToken : String) {requests : List Request} {i : Nat}
    {request : Request} (hi : requests[i]? = some request) (limiter : RateLimiter) (s : σ) :
    (deployment apiToken requests limiter s).tasks[i]?
      = some (deploy (buildApp apiToken request)) := by
  rw [deployment, List.getElem?_map, hi]
  rfl

end Deployment

/-- The one limiter and the machine, as the host of all requests. -/
def deployedHost {σ : Type} (machine : Moment → Host HostSig σ) (moment : Moment) :
    Host DeployedSig (RateLimiter × σ) where
  answer
    | .inl (.inl o), (limiter, s) =>
        let r := (machine moment).answer o s
        (r.1, limiter, r.2)
    | .inl (.inr .utcNow), state => (moment.now, state)
    | .inl (.inr (.audit _)), state => ((), state)
    | .inr .instantNow, state => (moment.clock, state)
    | .inr .checkLimiter, (limiter, s) =>
        let r := limiter.check moment.clock
        (r.1, r.2, s)
    | .inr (.reached _), state => ((), state)
    | .inr (.requestSummary _ _ _ _), state => ((), state)
    | .inr (.authenticationFailure _ _), state => ((), state)
    | .inr (.internalFailure _), state => ((), state)

/-- The status of a request that has been answered. -/
def deployedStatusOf : Prog DeployedSig Response → Option Nat
  | .pure response => some response.status
  | _ => none

theorem answered_of_deployedStatusOf {tasks : List (Prog DeployedSig Response)} {i status : Nat}
    (h : (tasks.map deployedStatusOf)[i]? = some (some status)) :
    ∃ response : Response, tasks[i]? = some (pure response) ∧ response.status = status := by
  rw [List.getElem?_map] at h
  obtain ⟨p, hp, hanswered⟩ := Option.map_eq_some_iff.mp h
  cases p with
  | pure response => exact ⟨response, hp, Option.some.inj hanswered⟩
  | op o k => cases hanswered
  | abort msg => cases hanswered

end SystemdMonitoring
