/-
# `SystemdMonitoring.RetryAfter` — the delay that a rejection names

A rejected call is told how many whole seconds to wait.  Rejected calls in the
meantime only refill the bucket, and refilling twice is refilling once, so the
token that was missing has come in after exactly the quotient that the delay
rounds up: whoever waits is admitted, and a shorter whole delay would not do
(`retryAfter_sound`).

Calls may have come at any offsets before, in any order: what is needed of a
reachable state is only that its bucket is not overfull.
-/
import SystemdMonitoring.RateLimit

namespace SystemdMonitoring

open Lib.TokenBucket

/-! ## The bucket is not overfull -/

def RateLimiter.Fits (limiter : RateLimiter) : Prop :=
  limiter.bucket.tokens ≤ limiter.policy.capacity

theorem RateLimiter.Fits.refill {limiter : RateLimiter} (h : limiter.Fits) (now : Duration) :
    (limiter.refill now).tokens ≤ limiter.policy.capacity := by
  rw [RateLimiter.refill]
  dsimp only
  split
  · exact min_le_right _ _
  · exact h

theorem RateLimiter.Fits.checkAt {limiter : RateLimiter} (h : limiter.Fits) (now : Duration) :
    (limiter.checkAt now).2.Fits := by
  rw [RateLimiter.Fits, checkAt_policy, RateLimiter.checkAt]
  have hrefill := h.refill now
  dsimp only
  split
  · exact (sub_le_self _ zero_le_one).trans hrefill
  · exact hrefill

theorem RateLimiter.Fits.run {limiter : RateLimiter} (h : limiter.Fits)
    (offsets : List Duration) : (limiter.run offsets).2.Fits := by
  induction offsets generalizing limiter with
  | nil => exact h
  | cons now rest ih => exact ih (h.checkAt now)

/-! ## Rejected calls -/

/-- A call is admitted exactly when the refilled bucket holds a token. -/
theorem checkAt_eq_ok_iff (limiter : RateLimiter) (now : Duration) :
    (limiter.checkAt now).1 = .ok () ↔ 1 ≤ (limiter.refill now).tokens := by
  rw [RateLimiter.checkAt]
  dsimp only
  split
  case isTrue h => exact iff_of_true rfl h
  case isFalse h => exact iff_of_false (fun heq => by cases heq) h

/-- What a rejection leaves behind, and the delay it names. -/
theorem checkAt_error {limiter : RateLimiter} {now : Duration} {delay : Nat}
    (h : (limiter.checkAt now).1 = .error delay) :
    (limiter.checkAt now).2.bucket = limiter.refill now
      ∧ delay = max ⌈(1 - (limiter.refill now).tokens) / limiter.policy.rate⌉.toNat 1 := by
  rw [RateLimiter.checkAt] at h ⊢
  dsimp only at h ⊢
  split at h
  · cases h
  case isFalse hempty =>
    rw [if_neg hempty]
    cases h
    exact ⟨rfl, rfl⟩

/-- **Rejected calls leave later refills as they are.** -/
theorem refill_run_rejected {limiter : RateLimiter} (hfits : limiter.Fits) {before : List Duration}
    {now : Duration} (hsorted : (before ++ [now]).Pairwise (· ≤ ·))
    (hlast : ∀ t ∈ before ++ [now], limiter.bucket.lastRefill ≤ t)
    (hrejected : admittedCount (limiter.run before).1 = 0) :
    ((limiter.run before).2.refill now).abs
      = limiter.bucket.abs.refill limiter.policy.rate limiter.policy.capacity
          (Duration.asSecs now) := by
  induction before generalizing limiter with
  | nil => exact refill_abs_of_fits hfits (hlast now (List.mem_singleton_self now))
  | cons first rest ih =>
      have hfirst := hlast first List.mem_cons_self
      obtain ⟨hfrom, hrest⟩ := List.pairwise_cons.mp hsorted
      rw [RateLimiter.run_cons, admittedCount, List.countP_cons, Nat.add_eq_zero_iff] at hrejected
      -- the first call is rejected, so it stores the refilled bucket
      obtain ⟨delay, hdelay⟩ : ∃ delay, (limiter.checkAt first).1 = .error delay := by
        cases hanswer : (limiter.checkAt first).1 with
        | error delay => exact ⟨delay, rfl⟩
        | ok _ => simp [hanswer, Answer.admitted, Except.toBool] at hrejected
      have hbucket := (checkAt_error hdelay).1
      rw [RateLimiter.run_cons]
      rw [ih (hfits.checkAt first) hrest ?_ hrejected.1, hbucket, checkAt_policy,
        refill_abs_of_fits hfits hfirst]
      · refine Bucket.refill_refill limiter.policy.rate_nonneg _ (asSecs_le_asSecs.mpr ?_)
        exact hfrom now (List.mem_append_right rest (List.mem_singleton_self now))
      · intro t ht
        rw [checkAt_lastRefill hfirst]
        exact hfrom t ht

/-! ## The delay -/

/-- Seconds as a duration. -/
def Duration.ofSecs (secs : Nat) : Duration := secs * 1000000000

/-- Whoever waits that many seconds after `now` is admitted: after any calls in between, none of
which is admitted, the first one that comes later. -/
def WaitSuffices (limiter : RateLimiter) (now : Duration) (delay : Nat) : Prop :=
  ∀ (before : List Duration) (later : Duration),
    (now :: before ++ [later]).Pairwise (· ≤ ·) →
    (∀ t ∈ before, t < now + Duration.ofSecs delay) →
    admittedCount (limiter.run before).1 = 0 →
    now + Duration.ofSecs delay ≤ later →
    ((limiter.run before).2.checkAt later).1 = .ok ()

/-- After a rejection: a later call finds a token when the missing part has come in. -/
theorem waited_iff {limiter : RateLimiter} (hfits : limiter.Fits) {before : List Duration}
    {later : Duration}
    (hsorted : (limiter.bucket.lastRefill :: before ++ [later]).Pairwise (· ≤ ·))
    (hrejected : admittedCount (limiter.run before).1 = 0) :
    ((limiter.run before).2.checkAt later).1 = .ok ()
      ↔ 1 - limiter.bucket.tokens ≤ limiter.policy.rate
          * (Duration.asSecs later - Duration.asSecs limiter.bucket.lastRefill) := by
  obtain ⟨hfrom, hrest⟩ := List.pairwise_cons.mp hsorted
  have hrefill := congrArg Bucket.tokens (refill_run_rejected hfits hrest hfrom hrejected)
  have htokens : ((limiter.run before).2.refill later).tokens = _ := hrefill
  rw [checkAt_eq_ok_iff, htokens]
  exact Bucket.one_le_refill_iff limiter.policy.one_le_capacity _ _

theorem RateLimitPolicy.rate_pos (policy : RateLimitPolicy) : 0 < policy.rate := by
  rw [rate]
  exact_mod_cast policy.rate_valid.1

/-- A wait suffices exactly when the missing part of a token comes in during it. -/
theorem waitSuffices_iff {limiter : RateLimiter} (hfits : limiter.Fits) (delay : Nat) :
    WaitSuffices limiter limiter.bucket.lastRefill delay
      ↔ 1 - limiter.bucket.tokens ≤ limiter.policy.rate * delay := by
  have hsecs : Duration.asSecs (Duration.ofSecs delay) = delay := by
    rw [Duration.asSecs, Duration.ofSecs]
    push_cast
    exact mul_div_cancel_right₀ _ (by norm_num)
  constructor
  · intro hsuffices
    have hle : limiter.bucket.lastRefill
        ≤ limiter.bucket.lastRefill + Duration.ofSecs delay := Nat.le_add_right _ _
    have hsorted : [limiter.bucket.lastRefill,
        limiter.bucket.lastRefill + Duration.ofSecs delay].Pairwise (· ≤ ·) :=
      List.pairwise_pair.mpr hle
    have hadmitted := hsuffices [] _ hsorted (fun t ht => by cases ht) rfl le_rfl
    have hmissing := (@waited_iff limiter hfits [] _ hsorted rfl).mp hadmitted
    rwa [← asSecs_sub hle, Nat.add_sub_cancel_left, hsecs] at hmissing
  · intro hmissing before later hsorted _ hrejected hlater
    have hle : limiter.bucket.lastRefill ≤ later := (Nat.le_add_right _ _).trans hlater
    rw [waited_iff hfits hsorted hrejected, ← asSecs_sub hle]
    refine hmissing.trans (mul_le_mul_of_nonneg_left ?_ limiter.policy.rate_nonneg)
    rw [← hsecs]
    exact asSecs_le_asSecs.mpr (Nat.le_sub_of_add_le' hlater)

/-- **The delay of a rejection is sound**: it is at least a second, whoever waits for it is
admitted, and no shorter whole delay does. -/
theorem retryAfter_sound (policy : RateLimitPolicy) (startedAt : Duration)
    (offsets : List Duration) {now : Duration} {delay : Nat}
    (hnow : ((RateLimiter.new policy startedAt).run offsets).2.bucket.lastRefill ≤ now)
    (hdelay : (((RateLimiter.new policy startedAt).run offsets).2.checkAt now).1
      = .error delay) :
    let rejecting := (((RateLimiter.new policy startedAt).run offsets).2.checkAt now).2
    1 ≤ delay ∧ WaitSuffices rejecting now delay
      ∧ ∀ shorter, 1 ≤ shorter → WaitSuffices rejecting now shorter → delay ≤ shorter := by
  intro rejecting
  have hfits : ((RateLimiter.new policy startedAt).run offsets).2.Fits :=
    RateLimiter.Fits.run (show (RateLimiter.new policy startedAt).Fits from le_rfl) offsets
  have hrejecting : rejecting.Fits := hfits.checkAt now
  have hlast : rejecting.bucket.lastRefill = now := checkAt_lastRefill hnow
  have hpolicy : rejecting.policy = policy :=
    (checkAt_policy _ _).trans (run_policy _ _)
  obtain ⟨hbucket, heq⟩ := checkAt_error hdelay
  rw [← hbucket, run_policy] at heq
  have hsuffices : ∀ waited : Nat, WaitSuffices rejecting now waited
      ↔ (1 - rejecting.bucket.tokens) / policy.rate ≤ waited := by
    intro waited
    have hiff := waitSuffices_iff hrejecting waited
    rw [hlast, hpolicy] at hiff
    rw [hiff, div_le_iff₀' policy.rate_pos]
  have hceil : ∀ waited : Nat, (1 - rejecting.bucket.tokens) / policy.rate ≤ waited
      ↔ ⌈(1 - rejecting.bucket.tokens) / policy.rate⌉.toNat ≤ waited := by
    intro waited
    rw [Int.toNat_le, Int.ceil_le, Int.cast_natCast]
  refine ⟨heq.ge.trans' (le_max_right _ _), ?_, ?_⟩
  · rw [hsuffices, hceil]
    exact (le_max_left _ _).trans heq.ge
  · intro shorter hshorter hwait
    rw [hsuffices, hceil] at hwait
    rw [heq]
    exact max_le hwait hshorter

/-- Half a second's refill is missing a quarter of a second after the only token is spent. -/
theorem retryAfter_sound_quarter :
    let policy : RateLimitPolicy := ⟨2, 1, by decide, by decide⟩
    let spent := ((RateLimiter.new policy 0).run [0]).2
    (spent.bucket.lastRefill ≤ 250000000 ∧ (spent.checkAt 250000000).1 = .error 1)
      ∧ WaitSuffices (spent.checkAt 250000000).2 250000000 1 := by
  have hnow : ((RateLimiter.new ⟨2, 1, by decide, by decide⟩ 0).run [0]).2.bucket.lastRefill
      ≤ 250000000 := by decide
  have hdelay : (((RateLimiter.new ⟨2, 1, by decide, by decide⟩ 0).run [0]).2.checkAt
      250000000).1 = .error 1 := by
    decide +kernel
  exact ⟨⟨hnow, hdelay⟩, (retryAfter_sound ⟨2, 1, by decide, by decide⟩ 0 [0] hnow hdelay).2.1⟩

end SystemdMonitoring
