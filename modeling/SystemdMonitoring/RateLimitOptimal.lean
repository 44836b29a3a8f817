/-
# `SystemdMonitoring.RateLimitOptimal` — the limiter turns away no more than it must

The policy promises that no window admits more than a burst and the rate's share.
Turning everybody away would keep that promise, too.  The limiter keeps it at the
least cost: whoever decides on the same calls under that promise, with knowledge
of all that is to come, has admitted no more of them at any point
(`limiter_optimal`).

The promise of a smaller policy is one of a greater policy as well.  So a limiter
that is given a higher rate or burst never falls behind one that is not.

All of this is about exact rationals.  In binary64 the refills of ten tenths of a
second need not come to a whole token, and a call may be turned away that could
have been admitted.
-/
import SystemdMonitoring.Lib.BucketOptimality
import SystemdMonitoring.RateLimit

namespace SystemdMonitoring

open Lib.TokenBucket

/-! ## Plans -/

/-- Calls and whether to admit them, oldest first. -/
abbrev AdmissionPlan : Type := List (Duration × Bool)

def plannedCount (plan : AdmissionPlan) : Nat := plan.countP Prod.snd

/-- How many calls are to be admitted between two offsets, both included. -/
def plannedWithin (start stop : Duration) (plan : AdmissionPlan) : Nat :=
  plan.countP fun p => p.2 && decide (start ≤ p.1) && decide (p.1 ≤ stop)

/-- No window is to admit more than a burst and the rate's share. -/
def RateLimitPolicy.Allows (policy : RateLimitPolicy) (plan : AdmissionPlan) : Prop :=
  ∀ start stop : Duration, start ≤ stop →
    (plannedWithin start stop plan : ℚ) ≤ policy.burst
      + policy.requestsPerSecond * (Duration.asSecs stop - Duration.asSecs start)

theorem RateLimitPolicy.Allows.take {policy : RateLimitPolicy} {plan : AdmissionPlan}
    (h : policy.Allows plan) (k : Nat) : policy.Allows (plan.take k) := by
  intro start stop hss
  have hle : plannedWithin start stop (plan.take k) ≤ plannedWithin start stop plan :=
    (List.take_sublist k plan).countP_le
  exact (Nat.cast_le.mpr hle).trans (h start stop hss)

/-! ## The limiter's calls -/

/-- The answers of a run are those to its offsets. -/
theorem run_offsets (limiter : RateLimiter) (offsets : List Duration) :
    (limiter.run offsets).1.map Prod.fst = offsets := by
  induction offsets generalizing limiter with
  | nil => rfl
  | cons now rest ih =>
      rw [RateLimiter.run_cons, List.map_cons, ih]

theorem length_run (limiter : RateLimiter) (offsets : List Duration) :
    (limiter.run offsets).1.length = offsets.length := by
  rw [← List.length_map Prod.fst, run_offsets]

theorem run_take (limiter : RateLimiter) (offsets : List Duration) (k : Nat) :
    (limiter.run (offsets.take k)).1 = (limiter.run offsets).1.take k := by
  conv_rhs => rw [← List.take_append_drop k offsets, RateLimiter.run_append]
  by_cases hk : k ≤ offsets.length
  · have hlength : (limiter.run (offsets.take k)).1.length = k := by
      rw [length_run, List.length_take_of_le hk]
    rw [List.take_left' hlength]
  · have hall : offsets.length ≤ k := (not_le.mp hk).le
    rw [List.drop_eq_nil_of_le hall]
    show _ = ((limiter.run (offsets.take k)).1 ++ []).take k
    have hlog : (limiter.run offsets).1.length ≤ k := (length_run limiter offsets).le.trans hall
    rw [List.append_nil, List.take_of_length_le hall, List.take_of_length_le hlog]

/-- A plan and the answers of a run over its calls, as the library sees them. -/
def planOf (log : List Answer) (plan : AdmissionPlan) : Plan ℚ :=
  ((log.zip plan).map fun pair => (Answer.call pair.1, pair.2.2)).reverse

section Plans

variable {log : List Answer} {plan : AdmissionPlan} (h : log.map Prod.fst = plan.map Prod.fst)

include h

theorem length_of_offsets : log.length = plan.length := by
  rw [← List.length_map Prod.fst, h, List.length_map]

theorem offset_eq_of_mem_zip : ∀ pair ∈ log.zip plan, pair.1.1 = pair.2.1 := by
  have hforall : List.Forall₂ (fun (a : Answer) (p : Duration × Bool) => a.1 = p.1) log plan := by
    rw [← List.forall₂_map_right_iff, ← List.forall₂_map_left_iff, h]
    exact List.forall₂_same.mpr fun _ _ => rfl
  intro pair hpair
  exact (List.forall₂_iff_zip.mp hforall).2 hpair

theorem calls_of_planOf : (planOf log plan).map Prod.fst = historyOf log := by
  rw [planOf, List.map_reverse, List.map_map, historyOf]
  have hlog : (log.zip plan).map Prod.fst = log :=
    List.map_fst_zip (length_of_offsets h).le
  conv_rhs => rw [← hlog, List.map_map]
  rfl

theorem served_planOf : served (planOf log plan) = plannedCount plan := by
  have hplan : (log.zip plan).map Prod.snd = plan := List.map_snd_zip (length_of_offsets h).ge
  rw [served, planOf, (List.reverse_perm _).countP_eq, List.countP_map, plannedCount]
  conv_rhs => rw [← hplan, List.countP_map]
  rfl

theorem servedWithin_planOf (start stop : Duration) :
    servedWithin (Duration.asSecs start) (Duration.asSecs stop) (planOf log plan)
      = plannedWithin start stop plan := by
  have hplan : (log.zip plan).map Prod.snd = plan := List.map_snd_zip (length_of_offsets h).ge
  rw [servedWithin, planOf, (List.reverse_perm _).countP_eq, List.countP_map, plannedWithin]
  conv_rhs => rw [← hplan, List.countP_map]
  refine List.countP_congr ?_
  intro pair hpair
  simp [Answer.call, offset_eq_of_mem_zip h pair hpair, asSecs_le_asSecs]

end Plans

/-! ## Optimality -/

/-- **The limiter admits the most**, in exact rationals: any plan for the same calls that a policy
allows, made with whatever foresight, has at no point admitted more of them than a new limiter has
whose rate and burst are at least that policy's. -/
theorem limiter_optimal {policy policy' : RateLimitPolicy} (startedAt : Duration)
    (hrate : policy.requestsPerSecond ≤ policy'.requestsPerSecond)
    (hburst : policy.burst ≤ policy'.burst) {plan : AdmissionPlan}
    (hsorted : (plan.map Prod.fst).Pairwise (· ≤ ·)) (hallows : policy.Allows plan) (k : Nat) :
    plannedCount (plan.take k) ≤ admittedCount
      (((RateLimiter.new policy' startedAt).run (plan.map Prod.fst)).1.take k) := by
  have hprefix : ((plan.take k).map Prod.fst).Pairwise (· ≤ ·) := by
    rw [List.map_take]
    exact hsorted.sublist (List.take_sublist k _)
  rw [← run_take, ← List.map_take]
  set log := ((RateLimiter.new policy' startedAt).run ((plan.take k).map Prod.fst)).1
  have hoffsets : log.map Prod.fst = (plan.take k).map Prod.fst := run_offsets _ _
  have hanswered : Answered policy'.rate policy'.capacity
      ((planOf log (plan.take k)).map Prod.fst) := by
    rw [calls_of_planOf hoffsets]
    exact answered_of_run policy' startedAt hprefix
  have hkeeps : KeepsTo (Set.range Duration.asSecs) policy.rate policy.capacity
      (planOf log (plan.take k)) := by
    rintro _ ⟨start, rfl⟩ _ ⟨stop, rfl⟩ hss
    rw [servedWithin_planOf hoffsets]
    exact hallows.take k start stop (asSecs_le_asSecs.mp hss)
  have hinstants : ∀ p ∈ planOf log (plan.take k), p.1.time ∈ Set.range Duration.asSecs := by
    intro p hp
    rw [planOf, List.mem_reverse] at hp
    obtain ⟨pair, -, rfl⟩ := List.mem_map.mp hp
    exact ⟨pair.1.1, rfl⟩
  have hzero : (0 : ℚ) ∈ Set.range Duration.asSecs := ⟨0, by simp [Duration.asSecs]⟩
  have hserved := served_le_takenCount (Nat.cast_le.mpr hrate : policy.rate ≤ policy'.rate)
    (Nat.cast_le.mpr hburst : policy.capacity ≤ policy'.capacity) policy'.one_le_capacity
    hanswered hzero hinstants hkeeps
  rw [served_planOf hoffsets, calls_of_planOf hoffsets, historyOf, takenCount,
    (List.reverse_perm _).countP_eq, ← takenCount, takenCount_map_call] at hserved
  exact hserved

/-- The first call is passed over for the sake of the second. -/
def patientPlan : AdmissionPlan := [(0, false), (500000000, true), (1000000000, false)]

/-- With a token a second and a burst of one, that is no gain. -/
theorem limiter_optimal_patient :
    plannedCount (patientPlan.take 3) ≤ admittedCount
      (((RateLimiter.new ⟨1, 1, by decide, by decide⟩ 0).run (patientPlan.map Prod.fst)).1.take
        3) := by
  have hone : RateLimitPolicy.Allows ⟨1, 1, by decide, by decide⟩ patientPlan := by
    intro start stop hss
    have hcount : plannedWithin start stop patientPlan ≤ plannedCount patientPlan := by
      refine List.countP_mono_left ?_
      intro p _ hp
      simp only [Bool.and_eq_true] at hp
      exact hp.1.1
    have hplanned : (plannedWithin start stop patientPlan : ℚ) ≤ 1 := by
      exact_mod_cast hcount
    have hgain : 0 ≤ Duration.asSecs stop - Duration.asSecs start :=
      sub_nonneg.mpr (asSecs_le_asSecs.mpr hss)
    push_cast
    linarith
  exact limiter_optimal 0 le_rfl le_rfl (by decide) hone 3

end SystemdMonitoring
