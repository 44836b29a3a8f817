/-
# `SystemdMonitoring.RateLimitRaces` — the limiter under races

`RateLimiter::check` reads the clock before it takes the lock, so of two calls
the one that has read the later time may be the first to decide; the refill then
sees time run backwards, and counts it as no time at all.

The limiter is linearizable all the same: between its reading of the clock and
its decision each call has an instant such that the instants do not run
backwards, and the calls are decided as if they had come one by one at those
(`check_linearizable`).  The instant is the latest time that has been read by
the calls decided so far.

Tokens are exact rationals, as in all that rests on `RateLimit`.  Binary64 loses
the refill of very short times, and a long run of them may then admit a call more
than the bound on a window says.
-/
import SystemdMonitoring.RateLimit
import SystemdMonitoring.Lib.Replay

namespace SystemdMonitoring

open Lib

/-! ## The two steps of a call -/

inductive LimiterOp where
  | elapsed
  | checkAt (now : Duration)
  deriving DecidableEq, Repr

abbrev LimiterSig : Sig where
  Op := LimiterOp
  Ans
    | .elapsed => Duration
    | .checkAt _ => Except Nat Unit

/-- The clock, and the limiter behind its lock. -/
def limiterHost (clock : Duration) : Host LimiterSig RateLimiter where
  answer
    | .elapsed, limiter => (clock - limiter.startedAt, limiter)
    | .checkAt now, limiter => limiter.checkAt now

/-- `check`: the clock is read first, and the lock is taken then. -/
def checkSteps : Prog LimiterSig (Except Nat Unit) := do
  let now ← Prog.call (S := LimiterSig) .elapsed
  Prog.call (S := LimiterSig) (.checkAt now)

/-- In one instant the two steps are one charge. -/
theorem checkSteps_run (limiter : RateLimiter) (clock : Duration) :
    let run := checkSteps.run (limiterHost clock) limiter
    (run.result, run.state) = (.done (limiter.check clock).1, (limiter.check clock).2) := rfl

/-- So many calls, none of them begun. -/
def calls (count : Nat) (limiter : RateLimiter) :
    Pool LimiterSig RateLimiter (Except Nat Unit) :=
  ⟨List.replicate count checkSteps, limiter⟩

/-- A decision: when the lock was taken, with which reading of the clock, and the answer. -/
def decisionAt : Event LimiterSig Duration → Option (Duration × Answer)
  | ⟨_, clock, ⟨.checkAt now, answer⟩⟩ => some (clock, now, answer)
  | _ => none

/-! ## Time that runs backwards -/

/-- An older reading counts as the last refill's time. -/
theorem checkAt_max (limiter : RateLimiter) (now : Duration) :
    limiter.checkAt (max limiter.bucket.lastRefill now) = limiter.checkAt now := by
  have hrefill : limiter.refill (max limiter.bucket.lastRefill now) = limiter.refill now := by
    rcases le_total limiter.bucket.lastRefill now with h | h
    · rw [max_eq_right h]
    · rw [max_eq_left h, RateLimiter.refill, RateLimiter.refill, Nat.sub_self,
        Nat.sub_eq_zero_of_le h]
      rfl
  simp only [RateLimiter.checkAt, hrefill]

theorem checkAt_lastRefill_max (limiter : RateLimiter) (now : Duration) :
    (limiter.checkAt now).2.bucket.lastRefill = max limiter.bucket.lastRefill now := by
  rw [← checkAt_max]
  exact checkAt_lastRefill (le_max_left _ _)

/-- The latest time read so far, call by call. -/
def settle : Duration → List Duration → List Duration
  | _, [] => []
  | last, now :: offsets => max last now :: settle (max last now) offsets

theorem le_of_mem_settle {last : Duration} {offsets : List Duration} :
    ∀ instant ∈ settle last offsets, last ≤ instant := by
  induction offsets generalizing last with
  | nil =>
      intro instant hinstant
      cases hinstant
  | cons now offsets ih =>
      intro instant hinstant
      rcases List.mem_cons.mp hinstant with rfl | hrest
      · exact le_max_left _ _
      · exact (le_max_left _ _).trans (ih instant hrest)

theorem settle_sorted (last : Duration) (offsets : List Duration) :
    (settle last offsets).Pairwise (· ≤ ·) := by
  induction offsets generalizing last with
  | nil => exact .nil
  | cons now offsets ih => exact .cons le_of_mem_settle (ih _)

/-- **A run is the run at the instants to which its readings settle.** -/
theorem run_settle {limiter : RateLimiter} {last : Duration}
    (hlast : limiter.bucket.lastRefill = last) (offsets : List Duration) :
    limiter.run (settle last offsets)
      = ((settle last offsets).zip ((limiter.run offsets).1.map Prod.snd),
          (limiter.run offsets).2) := by
  subst hlast
  induction offsets generalizing limiter with
  | nil => rfl
  | cons now offsets ih =>
      have hrest := @ih (limiter.checkAt now).2
      rw [checkAt_lastRefill_max] at hrest
      rw [settle, RateLimiter.run_cons, checkAt_max, hrest]
      rfl

/-- Each instant is between the reading and whatever bound the readings have, when the bounds do
not run backwards. -/
theorem settle_between {last : Duration} {readings : List (Duration × Duration)}
    (hsorted : (readings.map Prod.fst).Pairwise (· ≤ ·))
    (hlast : ∀ reading ∈ readings, last ≤ reading.1)
    (hbound : ∀ reading ∈ readings, reading.2 ≤ reading.1) :
    List.Forall₂ (fun instant (reading : Duration × Duration) =>
      reading.2 ≤ instant ∧ instant ≤ reading.1)
      (settle last (readings.map Prod.snd)) readings := by
  induction readings generalizing last with
  | nil => exact .nil
  | cons reading readings ih =>
      obtain ⟨hfirst, hrest⟩ := List.pairwise_cons.mp hsorted
      obtain ⟨hl, hlasts⟩ := List.forall_mem_cons.mp hlast
      obtain ⟨hb, hbounds⟩ := List.forall_mem_cons.mp hbound
      refine .cons ⟨le_max_right _ _, max_le hl hb⟩ (ih hrest ?_ hbounds)
      intro other hother
      have hle : reading.1 ≤ other.1 := hfirst other.1 (List.mem_map_of_mem hother)
      exact (max_le hl hb).trans hle

/-! ## Any interleaving -/

/-- A call that has not begun, has read the clock, or has been decided. -/
inductive Underway (offset : Duration) : Prog LimiterSig (Except Nat Unit) → Prop where
  | begun : Underway offset checkSteps
  | read {now : Duration} (h : now ≤ offset) :
      Underway offset (Prog.call (S := LimiterSig) (.checkAt now))
  | decided (answer : Except Nat Unit) : Underway offset (pure answer)

theorem Underway.mono {offset offset' : Duration} (h : offset ≤ offset')
    {p : Prog LimiterSig (Except Nat Unit)} (hp : Underway offset p) : Underway offset' p := by
  cases hp with
  | begun => exact .begun
  | read hnow => exact .read (hnow.trans h)
  | decided answer => exact .decided answer

/-- All calls are underway, with readings no later than the clock. -/
def Racing (pool : Pool LimiterSig RateLimiter (Except Nat Unit)) (clock : Duration) : Prop :=
  ∀ p ∈ pool.tasks, Underway (clock - pool.state.startedAt) p

/-- What has been decided in a history is a run of the limiter, on readings no later than the
decisions. -/
structure Decided (limiter last : RateLimiter)
    (history : List (Event LimiterSig Duration)) : Prop where
  run : limiter.run ((history.filterMap decisionAt).map fun decision => decision.2.1)
    = ((history.filterMap decisionAt).map Prod.snd, last)
  reading : ∀ decision ∈ history.filterMap decisionAt,
    decision.2.1 ≤ decision.1 - limiter.startedAt

theorem Decided.append {limiter middle last : RateLimiter}
    {before history : List (Event LimiterSig Duration)} (hbefore : Decided limiter middle before)
    (hstarted : middle.startedAt = limiter.startedAt) (hhistory : Decided middle last history) :
    Decided limiter last (before ++ history) where
  run := by
    rw [List.filterMap_append, List.map_append, List.map_append, RateLimiter.run_append,
      hbefore.run, hhistory.run]
  reading := by
    intro decision hdecision
    rw [List.filterMap_append] at hdecision
    rcases List.mem_append.mp hdecision with h | h
    · exact hbefore.reading decision h
    · rw [← hstarted]
      exact hhistory.reading decision h

/-- **Step**: one turn of a race. -/
theorem Racing.step {pool : Pool LimiterSig RateLimiter (Except Nat Unit)} {clock : Duration}
    (h : Racing pool clock) (i : Nat) :
    Racing (pool.step limiterHost (i, clock)).2 clock
      ∧ Decided pool.state (pool.step limiterHost (i, clock)).2.state
        (pool.step limiterHost (i, clock)).1
      ∧ (pool.step limiterHost (i, clock)).2.state.startedAt = pool.state.startedAt := by
  have hset : ∀ {p' : Prog LimiterSig (Except Nat Unit)},
      Underway (clock - pool.state.startedAt) p' →
      ∀ p ∈ pool.tasks.set i p', Underway (clock - pool.state.startedAt) p := by
    intro p' hp' p hp
    rcases List.mem_or_eq_of_mem_set hp with hp | rfl
    · exact h p hp
    · exact hp'
  rw [Pool.step]
  cases hp : pool.tasks[i]? with
  | none => exact ⟨h, ⟨rfl, List.forall_mem_nil _⟩, rfl⟩
  | some p =>
      cases h p (List.mem_of_getElem? hp) with
      | begun => exact ⟨hset (.read le_rfl), ⟨rfl, List.forall_mem_nil _⟩, rfl⟩
      | @read now hnow =>
          have hstarted := checkAt_startedAt pool.state now
          refine ⟨?_, ⟨rfl, ?_⟩, hstarted⟩
          · show ∀ p ∈ _, Underway (clock - (pool.state.checkAt now).2.startedAt) p
            rw [hstarted]
            exact hset (.decided _)
          · exact List.forall_mem_singleton.mpr hnow
      | decided answer => exact ⟨hset (.decided answer), ⟨rfl, List.forall_mem_nil _⟩, rfl⟩

theorem Racing.mono {pool : Pool LimiterSig RateLimiter (Except Nat Unit)} {clock clock' : Duration}
    (h : Racing pool clock) (hclock : clock ≤ clock') : Racing pool clock' := by
  intro p hp
  exact (h p hp).mono (Nat.sub_le_sub_right hclock _)

/-- **Run**: whatever the schedule, as long as the clock does not run backwards. -/
theorem Racing.run {pool : Pool LimiterSig RateLimiter (Except Nat Unit)} {clock : Duration}
    (h : Racing pool clock) {turns : List (Nat × Duration)}
    (hsorted : (turns.map Prod.snd).Pairwise (· ≤ ·)) (hclock : ∀ turn ∈ turns, clock ≤ turn.2) :
    Decided pool.state (pool.run limiterHost turns).2.state (pool.run limiterHost turns).1 := by
  induction turns generalizing pool clock with
  | nil => exact ⟨rfl, List.forall_mem_nil _⟩
  | cons turn turns ih =>
      obtain ⟨i, now⟩ := turn
      obtain ⟨hfirst, hrest⟩ := List.forall_mem_cons.mp hclock
      obtain ⟨hlater, hsorted⟩ := List.pairwise_cons.mp hsorted
      obtain ⟨hracing, hdecided, hstarted⟩ := (h.mono hfirst).step i
      refine hdecided.append hstarted (ih hracing hsorted ?_)
      intro turn hturn
      exact hlater turn.2 (List.mem_map_of_mem hturn)

/-- A call reads the clock once, and is decided once, on that reading. -/
def CallHistory (exchanges : List (Exchange LimiterSig)) : Prop :=
  exchanges = [] ∨ ∃ now : Duration, exchanges = [⟨.elapsed, now⟩]
    ∨ ∃ answer : Except Nat Unit, exchanges = [⟨.elapsed, now⟩, ⟨.checkAt now, answer⟩]

theorem callHistory_of_leads {exchanges : List (Exchange LimiterSig)}
    {p : Prog LimiterSig (Except Nat Unit)} (h : checkSteps.Leads exchanges p) :
    CallHistory exchanges := by
  cases h with
  | refl => exact .inl rfl
  | @op _ _ now _ _ hread =>
      refine .inr ⟨now, ?_⟩
      cases hread with
      | refl => exact .inl rfl
      | @op _ _ answer _ _ hdecided =>
          cases hdecided with
          | refl => exact .inr ⟨answer, rfl⟩

section Calls

variable (policy : RateLimitPolicy) (startedAt : Duration)

theorem decisionAt_sublist (history : List (Event LimiterSig Duration)) :
    ((history.filterMap decisionAt).map Prod.fst).Sublist (history.map Event.stamp) := by
  induction history with
  | nil => exact .slnil
  | cons event history ih =>
      obtain ⟨i, clock, o, answer⟩ := event
      cases o with
      | elapsed => exact ih.cons _
      | checkAt now => exact ih.cons_cons _

/-- **The limiter is linearizable**: whatever the interleaving of the calls' two steps, as long as
the clock does not run backwards, each decision has an instant between its reading of the clock
and the taking of the lock, such that the instants do not run backwards and the decisions, and the
limiter that is left, are those of calls that come one by one at these instants.  In particular no
window of instants admits more than a burst and the rate's share, in exact rationals. -/
theorem check_linearizable (count : Nat) (turns : List (Nat × Duration))
    (hclock : (turns.map Prod.snd).Pairwise (· ≤ ·)) :
    let limiter := RateLimiter.new policy startedAt
    let run := (calls count limiter).run limiterHost turns
    let decisions := run.1.filterMap decisionAt
    (∀ i, i < count → CallHistory ((ofTask i run.1).map Event.exchange))
    ∧ ∃ instants : List Duration, instants.Pairwise (· ≤ ·)
      ∧ List.Forall₂ (fun instant (decision : Duration × Answer) =>
          decision.2.1 ≤ instant ∧ instant ≤ decision.1 - startedAt) instants decisions
      ∧ limiter.run instants
          = (instants.zip (decisions.map fun decision => decision.2.2), run.2.state)
      ∧ ∀ start stop : Duration, start ≤ stop →
          (((instants.zip (decisions.map fun decision => decision.2.2)).countP
              (fun a => Answer.admitted a && decide (start ≤ a.1) && decide (a.1 ≤ stop)) : Nat) : ℚ)
            ≤ policy.burst
              + policy.requestsPerSecond * (Duration.asSecs stop - Duration.asSecs start) := by
  intro limiter run decisions
  have hbegun : Racing (calls count limiter) 0 := by
    intro p hp
    rw [List.eq_of_mem_replicate hp]
    exact .begun
  have hdecided : Decided limiter run.2.state run.1 :=
    hbegun.run hclock (fun _ _ => Nat.zero_le _)
  have hclocks : ((decisions.map fun decision => (decision.1 - startedAt, decision.2.1)).map
      Prod.fst).Pairwise (· ≤ ·) := by
    have hsorted := hclock.sublist ((decisionAt_sublist run.1).trans
      (Pool.run_stamps limiterHost (calls count limiter) turns))
    rw [List.map_map]
    refine List.pairwise_map.mpr ((List.pairwise_map.mp hsorted).imp ?_)
    intro decision decision' hle
    exact Nat.sub_le_sub_right hle _
  have hreadings : ∀ reading ∈ decisions.map fun decision => (decision.1 - startedAt, decision.2.1),
      reading.2 ≤ reading.1 := by
    intro reading hreading
    obtain ⟨decision, hdecision, rfl⟩ := List.mem_map.mp hreading
    exact hdecided.reading decision hdecision
  have hbetween := settle_between hclocks (fun _ _ => Nat.zero_le _) hreadings
  rw [List.map_map, List.forall₂_map_right_iff] at hbetween
  have hreads : limiter.run (decisions.map fun decision => decision.2.1)
      = (decisions.map Prod.snd, run.2.state) := hdecided.run
  have hlast : limiter.bucket.lastRefill = 0 := rfl
  have hrun := run_settle hlast (decisions.map fun decision => decision.2.1)
  rw [hreads, List.map_map] at hrun
  have hsorted := settle_sorted 0 (decisions.map fun decision => decision.2.1)
  refine ⟨?_, _, hsorted, hbetween, hrun, ?_⟩
  · intro i hi
    have htask : (calls count limiter).tasks[i]? = some checkSteps :=
      List.getElem?_replicate_of_lt hi
    obtain ⟨p, -, hleads⟩ := Pool.run_leads limiterHost htask turns
    exact callHistory_of_leads hleads
  · intro start stop hss
    have hwindow := admitted_window_le policy (answered_of_run policy startedAt hsorted) hss
    rw [show (RateLimiter.new policy startedAt).run _ = _ from hrun] at hwindow
    exact hwindow

end Calls

/-- Two calls, of which the one that has read the later time decides first. -/
theorem check_linearizable_overtaken :
    let turns : List (Nat × Duration) := [(0, 5), (1, 7), (1, 8), (0, 9)]
    let run := (calls 2 (.new .default 0)).run limiterHost turns
    run.1.filterMap decisionAt = [(8, 7, .ok ()), (9, 5, .ok ())]
      ∧ ∃ instants : List Duration, instants.Pairwise (· ≤ ·)
        ∧ List.Forall₂ (fun instant (decision : Duration × Answer) =>
          decision.2.1 ≤ instant ∧ instant ≤ decision.1 - 0) instants
            (run.1.filterMap decisionAt) := by
  intro turns run
  obtain ⟨-, instants, hsorted, hbetween, -⟩ :=
    check_linearizable .default 0 2 turns (by decide)
  exact ⟨by decide +kernel, instants, hsorted, hbetween⟩

end SystemdMonitoring
