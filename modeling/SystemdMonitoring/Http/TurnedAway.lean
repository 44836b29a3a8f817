/-
# `SystemdMonitoring.Http.TurnedAway` — a request that is turned away costs nobody anything

Whoever floods the server is turned away by the limiter.  Does that take anything
from those who are not?  A rejection does write to the bucket: it stores the
tokens refilled so far and the time of the refill.  But it finds less than a token,
so the cap has not cut anything off, and the refill that follows comes to the same
with it and without it.  It does so because refills are added up exactly here: with
binary64, two refills may come to a little less than the one for both times.

So the requests that are turned away can be struck off any run in production: the
others do the same operations at the same moments with the same answers, the
machine is left in the same state, and the limiter decides alike from then on
(`turned_away_traceless`).
-/
import SystemdMonitoring.Http.Uptime
import SystemdMonitoring.Lib.Erasure
import SystemdMonitoring.RetryAfter

namespace SystemdMonitoring

open Lib Lib.TokenBucket

/-! ## The limiter -/

theorem BucketState.eq_of_abs {bucket bucket' : BucketState} (h : bucket.abs = bucket'.abs) :
    bucket = bucket' := by
  obtain ⟨tokens, lastRefill⟩ := bucket
  obtain ⟨tokens', lastRefill'⟩ := bucket'
  obtain ⟨htokens, htime⟩ := Bucket.mk.injEq .. ▸ h
  have hlast : lastRefill = lastRefill' :=
    Nat.le_antisymm (asSecs_le_asSecs.mp htime.le) (asSecs_le_asSecs.mp htime.ge)
  rw [hlast]
  exact congrArg (fun tokens => (⟨tokens, lastRefill'⟩ : BucketState)) htokens

/-- A refill on the way is part of the next one. -/
theorem refill_refilled {limiter : RateLimiter} (hfits : limiter.Fits) {now later : Duration}
    (hnow : limiter.bucket.lastRefill ≤ now) (hlater : now ≤ later) :
    ({ limiter with bucket := limiter.refill now } : RateLimiter).refill later
      = limiter.refill later := by
  have hrefilled : ({ limiter with bucket := limiter.refill now } : RateLimiter).Fits :=
    hfits.refill now
  have hlast : (limiter.refill now).lastRefill ≤ later := (refill_lastRefill hnow).le.trans hlater
  apply BucketState.eq_of_abs
  rw [refill_abs_of_fits hrefilled hlast, refill_abs_of_fits hfits (hnow.trans hlater)]
  show (limiter.refill now).abs.refill _ _ _ = _
  rw [refill_abs_of_fits hfits hnow]
  exact Bucket.refill_refill limiter.policy.rate_nonneg _ (asSecs_le_asSecs.mpr hlater)

/-- From a reading of the clock on, the two limiters find the same tokens. -/
structure SameFrom (clock : Duration) (limiter limiter' : RateLimiter) : Prop where
  policy : limiter.policy = limiter'.policy
  startedAt : limiter.startedAt = limiter'.startedAt
  fits : limiter'.Fits
  last : limiter'.bucket.lastRefill ≤ clock - limiter'.startedAt
  refill : ∀ now, clock - limiter'.startedAt ≤ now → limiter.refill now = limiter'.refill now

theorem SameFrom.refl {clock : Duration} {limiter : RateLimiter} (hfits : limiter.Fits)
    (hlast : limiter.bucket.lastRefill ≤ clock - limiter.startedAt) :
    SameFrom clock limiter limiter :=
  ⟨rfl, rfl, hfits, hlast, fun _ _ => rfl⟩

theorem SameFrom.mono {clock clock' : Duration} (hclock : clock ≤ clock')
    {limiter limiter' : RateLimiter} (h : SameFrom clock limiter limiter') :
    SameFrom clock' limiter limiter' := by
  have hoffset : clock - limiter'.startedAt ≤ clock' - limiter'.startedAt :=
    Nat.sub_le_sub_right hclock _
  refine ⟨h.policy, h.startedAt, h.fits, h.last.trans hoffset, ?_⟩
  intro now hnow
  exact h.refill now (hoffset.trans hnow)

/-- They decide alike, and after that they are one and the same. -/
theorem SameFrom.check {clock : Duration} {limiter limiter' : RateLimiter}
    (h : SameFrom clock limiter limiter') : limiter.check clock = limiter'.check clock := by
  have hrefill := h.refill _ le_rfl
  obtain ⟨policy, startedAt, bucket⟩ := limiter
  obtain ⟨policy', startedAt', bucket'⟩ := limiter'
  obtain rfl : policy = policy' := h.policy
  obtain rfl : startedAt = startedAt' := h.startedAt
  rw [RateLimiter.check, RateLimiter.check, RateLimiter.checkAt, RateLimiter.checkAt, hrefill]

theorem SameFrom.after_check {clock : Duration} {limiter limiter' : RateLimiter}
    (h : SameFrom clock limiter limiter') :
    SameFrom clock (limiter.check clock).2 (limiter'.check clock).2 := by
  rw [h.check]
  refine .refl (h.fits.checkAt _) ?_
  rw [RateLimiter.check, checkAt_startedAt, checkAt_lastRefill h.last]

/-- A rejection leaves the limiter as it was, from then on. -/
theorem SameFrom.after_rejection {clock : Duration} {limiter limiter' : RateLimiter}
    (h : SameFrom clock limiter limiter') (hrejected : (limiter'.check clock).1 ≠ .ok ()) :
    SameFrom clock limiter (limiter'.check clock).2 := by
  have hleft : (limiter'.check clock).2
      = { limiter' with bucket := limiter'.refill (clock - limiter'.startedAt) } := by
    rw [Ne, RateLimiter.check, checkAt_eq_ok_iff] at hrejected
    rw [RateLimiter.check, RateLimiter.checkAt]
    exact congrArg Prod.snd (if_neg hrejected)
  rw [hleft]
  refine ⟨h.policy, h.startedAt, h.fits.refill _, (refill_lastRefill h.last).le, ?_⟩
  intro now hnow
  rw [h.refill now hnow, refill_refilled h.fits h.last hnow]

/-! ## All requests -/

/-- Clocks, logs, stages and rejections: nothing on the machine, and no token spent. -/
def Idle : Exchange DeployedSig → Prop
  | ⟨.inl (.inl _), _⟩ => False
  | ⟨.inr .checkLimiter, decision⟩ => decision ≠ Except.ok ()
  | _ => True

variable {σ : Type}

/-- Limiters that decide alike from then on, and the same machine. -/
def StandsAlike (moment : Moment) (state state' : RateLimiter × σ) : Prop :=
  SameFrom moment.clock state.1 state'.1 ∧ state.2 = state'.2

theorem deployedHost_traceless (machine : Moment → Host HostSig σ) :
    Traceless (fun moment moment' => moment.clock ≤ moment'.clock) Idle StandsAlike
      (deployedHost machine) where
  later := by
    intro moment moment' state state' hclock h
    exact ⟨h.1.mono hclock, h.2⟩
  kept := by
    rintro moment ((o | o) | o) ⟨limiter, s⟩ ⟨limiter', s'⟩ ⟨hsame, hs⟩
    · obtain rfl : s = s' := hs
      exact ⟨rfl, hsame, rfl⟩
    · cases o <;> exact ⟨rfl, hsame, hs⟩
    · cases o with
      | checkLimiter =>
          refine ⟨?_, hsame.after_check, hs⟩
          show (limiter.check moment.clock).1 = (limiter'.check moment.clock).1
          rw [hsame.check]
      | _ => exact ⟨rfl, hsame, hs⟩
  idle := by
    rintro moment ((o | o) | o) ⟨limiter, s⟩ ⟨limiter', s'⟩ ⟨hsame, hs⟩ hidle
    · exact hidle.elim
    · cases o <;> exact ⟨hsame, hs⟩
    · cases o with
      | checkLimiter => exact ⟨hsame.after_rejection hidle, hs⟩
      | _ => exact ⟨hsame, hs⟩

/-- The limiter lets the request through. -/
def isAdmission : Exchange DeployedSig → Bool
  | ⟨.inr .checkLimiter, .ok _⟩ => true
  | _ => false

/-- Nothing that a rejected request still does is done on the machine, or spends a token. -/
def IdleOp : DeployedSig.Op → Prop
  | .inl (.inl _) => False
  | .inr .checkLimiter => False
  | _ => True

theorem idle_of_idleOp {exchange : Exchange DeployedSig} (h : IdleOp exchange.1) :
    Idle exchange := by
  obtain ⟨(o | o) | o, answer⟩ := exchange
  · exact h.elim
  · trivial
  · cases o with
    | checkLimiter => exact h.elim
    | _ => trivial

section Requests

variable [Chrono] [RegexEngine] [SerdeJson]

theorem deployed_idle {o : HttpSig.Op} (h : IsNeutral o) : (deployed o).Only IdleOp := by
  obtain ⟨hspares, -, hproviders⟩ := h
  rcases o with (o | o) | o
  · exact absurd trivial hproviders
  · exact ⟨trivial, fun _ => trivial⟩
  · cases o with
    | checkLimiter => exact absurd rfl hspares
    | _ => exact ⟨trivial, fun _ => trivial⟩

variable [HttpStack] [McpSdk] [HashOrder]

/-- A request that has not been admitted has been idle. -/
theorem idle_of_leads {apiToken : String} {request : Request}
    {history : List (Exchange DeployedSig)} {p : Prog DeployedSig Response}
    (h : (deploy (buildApp apiToken request)).Leads history p)
    (hnone : ∀ exchange ∈ history, isAdmission exchange = false) :
    ∀ exchange ∈ history, Idle exchange := by
  rw [buildApp_eq] at h
  intro exchange hmem
  cases h with
  | refl => cases hmem
  | @op _ _ startedAt history _ hrest =>
      rcases List.mem_cons.mp hmem with rfl | hlimited
      · trivial
      · cases hrest with
        | refl => cases hlimited
        | @op _ _ decision history _ hrest =>
            rcases List.mem_cons.mp hlimited with rfl | hbehind
            · show decision ≠ Except.ok ()
              rintro rfl
              cases hnone _ (List.mem_cons_of_mem _ List.mem_cons_self)
            · cases decision with
              | ok _ => cases hnone _ (List.mem_cons_of_mem _ List.mem_cons_self)
              | error n =>
                  have honly : (deploy (intoResponse (.rateLimited n)
                      >>= logged request startedAt)).Only IdleOp :=
                    Prog.Only.interp (fun _ => deployed_idle)
                      ((intoResponse_only (fun _ h => h) _).bind
                        (logged_only (fun _ h => h) request startedAt))
                  exact idle_of_idleOp (hrest.only honly exchange hbehind)

/-- **A request that is turned away leaves no trace.**  Strike any requests that have not been
admitted off a run in production: the others do the same operations, at the same moments and with
the same answers, and come equally far; the machine is left in the same state, and the limiter, in
exact rationals, decides the same at every later reading of the clock. -/
theorem turned_away_traceless (apiToken : String) (requests : List Request)
    (turns : List (Nat × Moment)) (policy : RateLimitPolicy) (startedAt : Duration)
    (machine : Moment → Host HostSig σ) (s : σ) (away : Nat → Bool)
    (hclock : (turns.map Prod.snd).Pairwise fun moment moment' => moment.clock ≤ moment'.clock) :
    let begun := deployment apiToken requests (.new policy startedAt) s
    let run := begun.run (deployedHost machine) turns
    let kept := begun.run (deployedHost machine) (turns.filter fun turn => !away turn.1)
    (∀ event ∈ run.1, away event.task = true → isAdmission event.exchange = false) →
    kept.1 = run.1.filter (fun event => !away event.task)
      ∧ (∀ i, away i = false → kept.2.tasks[i]? = run.2.tasks[i]?)
      ∧ kept.2.state.2 = run.2.state.2
      ∧ ∀ clock, (∀ turn ∈ turns, turn.2.clock ≤ clock) →
        kept.2.state.1.check clock = run.2.state.1.check clock := by
  intro begun run kept hnone
  have hidle : ∀ event ∈ run.1, away event.task = true → Idle event.exchange := by
    intro event hevent haway
    have hlt := Pool.task_of_run (deployedHost machine) begun turns event hevent
    rw [show begun.tasks.length = requests.length from List.length_map _] at hlt
    have hrequest : requests[event.task]? = some requests[event.task] :=
      List.getElem?_eq_getElem hlt
    obtain ⟨p, -, hleads⟩ := Pool.run_leads (deployedHost machine)
      (deployment_task apiToken hrequest (.new policy startedAt) s) turns
    have hown : event ∈ ofTask event.task run.1 :=
      List.mem_filter.mpr ⟨hevent, beq_self_eq_true event.task⟩
    refine idle_of_leads hleads ?_ event.exchange (List.mem_map_of_mem hown)
    intro exchange hexchange
    obtain ⟨event', hevent', rfl⟩ := List.mem_map.mp hexchange
    obtain ⟨hmem, htask⟩ := List.mem_filter.mp hevent'
    exact hnone event' hmem ((congrArg away (beq_iff_eq.mp htask)).trans haway)
  -- the run begins at the limiter's own beginning
  have hbegun : Pool.Struck away StandsAlike (⟨0, .ofSecs 0⟩ : Moment) begun begun := by
    refine ⟨fun _ _ => rfl, .refl ?_ (Nat.zero_le _), rfl⟩
    exact le_rfl
  obtain ⟨hevents, stop, hstop, hleft⟩ := hbegun.run (deployedHost_traceless machine)
    (List.pairwise_cons.mpr ⟨fun _ _ => Nat.zero_le _, hclock⟩) hidle
  refine ⟨hevents, hleft.tasks, hleft.state.2, ?_⟩
  intro clock hlater
  have hnow : stop.clock ≤ clock := by
    rcases List.mem_cons.mp hstop with rfl | hmem
    · exact Nat.zero_le clock
    · obtain ⟨turn, hturn, rfl⟩ := List.mem_map.mp hmem
      exact hlater turn hturn
  exact (hleft.state.1.mono hnow).check

end Requests

/-- Two requests at once, and a budget for one of them. -/
def crowdedRun (turns : List (Nat × Moment)) :
    List (Event DeployedSig Moment) × Pool DeployedSig (RateLimiter × Unit) Response :=
  (@deployment rfc3339 noRegex pingJson plainHttp plainSdk nameOrder Unit "t"
    (statusRequests ++ statusRequests) (.new ⟨1, 1, by decide, by decide⟩ 0) ()).run
    (deployedHost fun _ => stateMachine "running") turns

def crowdedTurns : List (Nat × Moment) :=
  (List.replicate 10 [1, 2, 3]).flatten.map fun i => (i, ⟨0, .ofSecs 1767225600⟩)

/-- The one that is admitted gets the same answer with the other two and without them. -/
theorem turned_away_traceless_crowded :
    (crowdedRun crowdedTurns).2.tasks.map deployedStatusOf = [none, some 200, some 429, some 429]
      ∧ (crowdedRun (crowdedTurns.filter fun turn => !decide (2 ≤ turn.1))).2.tasks[1]?
        = (crowdedRun crowdedTurns).2.tasks[1]? := by
  have hrejected : ∀ event ∈ (crowdedRun crowdedTurns).1, decide (2 ≤ event.task) = true →
      isAdmission event.exchange = false := by
    decide +kernel
  have h := @turned_away_traceless Unit rfc3339 noRegex pingJson plainHttp plainSdk nameOrder "t"
    (statusRequests ++ statusRequests) crowdedTurns ⟨1, 1, by decide, by decide⟩ 0
    (fun _ => stateMachine "running") () (fun i => decide (2 ≤ i)) (by decide +kernel) hrejected
  exact ⟨by decide +kernel, h.2.1 1 rfl⟩

end SystemdMonitoring
