/-
# `SystemdMonitoring.RateLimit` — the shared request budget

`RateLimiter::check_at` charges one request at an offset from the limiter's
start, with its shortcut when no time has passed and its update of the refill
time on rejection.  Token counts are exact rationals here where the source
computes in binary64; offsets are whole nanoseconds, as in the source.

The limiter simulates `Lib.TokenBucket` call for call (`Simulates`), so the
whole-run facts are the library's, read at the run's log.
-/
import Mathlib.Data.Rat.Floor
import SystemdMonitoring.Lib.TokenBucket

namespace SystemdMonitoring

open Lib.TokenBucket

/-! ## Policy -/

def defaultRequestsPerSecond : Nat := 10
def defaultBurst : Nat := 20
def maxRequestsPerSecond : Nat := 1000000
def maxBurst : Nat := 1000000

/-- A validated token-bucket policy. -/
structure RateLimitPolicy where
  requestsPerSecond : Nat
  burst : Nat
  rate_valid : 1 ≤ requestsPerSecond ∧ requestsPerSecond ≤ maxRequestsPerSecond
  burst_valid : 1 ≤ burst ∧ burst ≤ maxBurst

inductive RateLimitPolicyError where
  | invalidRequestsPerSecond
  | invalidBurst
  deriving DecidableEq, Repr

def RateLimitPolicyError.message : RateLimitPolicyError → String
  | .invalidRequestsPerSecond =>
      s!"requests per second must be between 1 and {maxRequestsPerSecond}"
  | .invalidBurst => s!"burst must be between 1 and {maxBurst}"

/-- Creates a validated policy; both values must be nonzero and within bounds. -/
def RateLimitPolicy.new (requestsPerSecond burst : Nat) :
    Except RateLimitPolicyError RateLimitPolicy :=
  if hrate : 1 ≤ requestsPerSecond ∧ requestsPerSecond ≤ maxRequestsPerSecond then
    if hburst : 1 ≤ burst ∧ burst ≤ maxBurst then
      .ok { requestsPerSecond, burst, rate_valid := hrate, burst_valid := hburst }
    else .error .invalidBurst
  else .error .invalidRequestsPerSecond

/-- The documented default policy. -/
def RateLimitPolicy.default : RateLimitPolicy where
  requestsPerSecond := defaultRequestsPerSecond
  burst := defaultBurst
  rate_valid := by decide
  burst_valid := by decide

/-! ## Limiter -/

/-- A duration in whole nanoseconds. -/
abbrev Duration := Nat

def Duration.asSecs (d : Duration) : ℚ := (d : ℚ) / 1000000000

structure BucketState where
  tokens : ℚ
  lastRefill : Duration

/-- `startedAt` is the monotonic clock's reading at creation. -/
structure RateLimiter where
  policy : RateLimitPolicy
  startedAt : Duration
  bucket : BucketState

/-- A full bucket for the supplied policy. -/
def RateLimiter.new (policy : RateLimitPolicy) (startedAt : Duration) : RateLimiter where
  policy := policy
  startedAt := startedAt
  bucket := { tokens := policy.burst, lastRefill := 0 }

/-- The first half of `check_at`: nothing at all happens when no time has passed. -/
def RateLimiter.refill (limiter : RateLimiter) (now : Duration) : BucketState :=
  let elapsed := now - limiter.bucket.lastRefill
  if elapsed ≠ 0 then
    let refilled := Duration.asSecs elapsed * limiter.policy.requestsPerSecond
    { tokens := min (limiter.bucket.tokens + refilled) limiter.policy.burst, lastRefill := now }
  else limiter.bucket

/-- One admission decision at a monotonic offset: admitted, or the seconds to wait. -/
def RateLimiter.checkAt (limiter : RateLimiter) (now : Duration) :
    Except Nat Unit × RateLimiter :=
  let bucket := limiter.refill now
  if 1 ≤ bucket.tokens then
    (.ok (), { limiter with bucket := { bucket with tokens := bucket.tokens - 1 } })
  else
    let missingTokens := 1 - bucket.tokens
    let retrySeconds := ⌈missingTokens / limiter.policy.requestsPerSecond⌉.toNat
    (.error (max retrySeconds 1), { limiter with bucket := bucket })

/-- Charges one request at a reading of the monotonic clock. -/
def RateLimiter.check (limiter : RateLimiter) (clock : Duration) : Except Nat Unit × RateLimiter :=
  limiter.checkAt (clock - limiter.startedAt)

/-! ## Runs -/

/-- One answered call of a run. -/
abbrev Answer := Duration × Except Nat Unit

def Answer.admitted (a : Answer) : Bool := a.2.toBool

/-- A run over a list of offsets: the log, oldest call first, and the limiter after it. -/
def RateLimiter.run (limiter : RateLimiter) : List Duration → List Answer × RateLimiter
  | [] => ([], limiter)
  | now :: rest =>
      let (answer, limiter') := limiter.checkAt now
      let (log, last) := limiter'.run rest
      ((now, answer) :: log, last)

/-- How many calls of a log were admitted. -/
def admittedCount (log : List Answer) : Nat := log.countP Answer.admitted

/-- The offsets at which a log admitted calls: its admitted history. -/
def admittedOffsets (log : List Answer) : List Duration :=
  (log.filter Answer.admitted).map Prod.fst

theorem RateLimiter.run_cons (limiter : RateLimiter) (now : Duration) (rest : List Duration) :
    limiter.run (now :: rest)
      = ((now, (limiter.checkAt now).1) :: ((limiter.checkAt now).2.run rest).1,
          ((limiter.checkAt now).2.run rest).2) := rfl

theorem RateLimiter.run_append (limiter : RateLimiter) (xs ys : List Duration) :
    limiter.run (xs ++ ys)
      = ((limiter.run xs).1 ++ ((limiter.run xs).2.run ys).1, ((limiter.run xs).2.run ys).2) := by
  induction xs generalizing limiter with
  | nil => rfl
  | cons now xs ih => rw [List.cons_append, run_cons, run_cons, ih, List.cons_append]

/-! ## The limiter simulates the bucket -/

/-- Rate and burst as the library's numbers. -/
def RateLimitPolicy.rate (policy : RateLimitPolicy) : ℚ := policy.requestsPerSecond
def RateLimitPolicy.capacity (policy : RateLimitPolicy) : ℚ := policy.burst

theorem RateLimitPolicy.rate_nonneg (policy : RateLimitPolicy) : 0 ≤ policy.rate :=
  Nat.cast_nonneg _

theorem RateLimitPolicy.one_le_capacity (policy : RateLimitPolicy) : 1 ≤ policy.capacity := by
  rw [capacity]
  exact_mod_cast policy.burst_valid.1

theorem asSecs_le_asSecs {s t : Duration} : Duration.asSecs s ≤ Duration.asSecs t ↔ s ≤ t := by
  rw [Duration.asSecs, Duration.asSecs, div_le_div_iff_of_pos_right (by norm_num), Nat.cast_le]

theorem asSecs_sub {s t : Duration} (h : s ≤ t) :
    Duration.asSecs (t - s) = Duration.asSecs t - Duration.asSecs s := by
  rw [Duration.asSecs, Duration.asSecs, Duration.asSecs, Nat.cast_sub h, sub_div]

/-- An answered call as the library sees it. -/
def Answer.call (a : Answer) : Call ℚ := ⟨Duration.asSecs a.1, a.admitted⟩

def BucketState.abs (bucket : BucketState) : Bucket ℚ :=
  ⟨bucket.tokens, Duration.asSecs bucket.lastRefill⟩

/-- The limiter is where the library's bucket is after the history, newest call first. -/
structure Simulates (limiter : RateLimiter) (hist : List (Call ℚ)) : Prop where
  answered : Answered limiter.policy.rate limiter.policy.capacity hist
  bucket : limiter.bucket.abs = after limiter.policy.rate limiter.policy.capacity hist

theorem simulates_new (policy : RateLimitPolicy) (startedAt : Duration) :
    Simulates (.new policy startedAt) [] where
  answered := .nil
  bucket := by simp [RateLimiter.new, BucketState.abs, after, Bucket.full, Duration.asSecs,
    RateLimitPolicy.capacity]

/-- The shortcut for no elapsed time agrees with the formula when what is stored fits. -/
theorem refill_abs_of_fits {limiter : RateLimiter}
    (hfits : limiter.bucket.tokens ≤ limiter.policy.capacity) {now : Duration}
    (hnow : limiter.bucket.lastRefill ≤ now) :
    (limiter.refill now).abs
      = limiter.bucket.abs.refill limiter.policy.rate limiter.policy.capacity
          (Duration.asSecs now) := by
  by_cases helapsed : now - limiter.bucket.lastRefill = 0
  · have hsame : now = limiter.bucket.lastRefill :=
      Nat.le_antisymm (Nat.sub_eq_zero_iff_le.mp helapsed) hnow
    simp [RateLimiter.refill, BucketState.abs, Bucket.refill, hsame, hfits]
  · simp only [RateLimiter.refill, ne_eq, helapsed, not_false_eq_true, if_true, BucketState.abs,
      Bucket.refill, asSecs_sub hnow]
    rw [min_comm, mul_comm]
    rfl

/-- What is stored fits. -/
theorem refill_abs {limiter : RateLimiter} {hist : List (Call ℚ)} (h : Simulates limiter hist)
    {now : Duration} (hnow : limiter.bucket.lastRefill ≤ now) :
    (limiter.refill now).abs
      = limiter.bucket.abs.refill limiter.policy.rate limiter.policy.capacity
          (Duration.asSecs now) := by
  refine refill_abs_of_fits ?_ hnow
  have hmem := h.answered.tokens_mem limiter.policy.rate_nonneg
    (zero_le_one.trans limiter.policy.one_le_capacity)
  rw [← h.bucket] at hmem
  exact hmem.2

theorem checkAt_policy (limiter : RateLimiter) (now : Duration) :
    (limiter.checkAt now).2.policy = limiter.policy := by
  rw [RateLimiter.checkAt]
  dsimp only
  split <;> rfl

theorem checkAt_startedAt (limiter : RateLimiter) (now : Duration) :
    (limiter.checkAt now).2.startedAt = limiter.startedAt := by
  rw [RateLimiter.checkAt]
  dsimp only
  split <;> rfl

theorem refill_lastRefill {limiter : RateLimiter} {now : Duration}
    (hnow : limiter.bucket.lastRefill ≤ now) : (limiter.refill now).lastRefill = now := by
  by_cases helapsed : now - limiter.bucket.lastRefill = 0
  · simp only [RateLimiter.refill, helapsed, ne_eq, not_true, if_false]
    exact Nat.le_antisymm hnow (Nat.sub_eq_zero_iff_le.mp helapsed)
  · simp [RateLimiter.refill, helapsed]

theorem checkAt_lastRefill {limiter : RateLimiter} {now : Duration}
    (hnow : limiter.bucket.lastRefill ≤ now) :
    (limiter.checkAt now).2.bucket.lastRefill = now := by
  rw [RateLimiter.checkAt]
  dsimp only
  split <;> exact refill_lastRefill hnow

/-- **Step**: one call is one call of the library's bucket. -/
theorem Simulates.checkAt {limiter : RateLimiter} {hist : List (Call ℚ)}
    (h : Simulates limiter hist) {now : Duration} (hnow : limiter.bucket.lastRefill ≤ now) :
    Simulates (limiter.checkAt now).2 (Answer.call (now, (limiter.checkAt now).1) :: hist) := by
  have hrefill := refill_abs h hnow
  rw [h.bucket] at hrefill
  have htokens : (limiter.refill now).tokens
      = level limiter.policy.rate limiter.policy.capacity hist (Duration.asSecs now) :=
    congrArg Bucket.tokens hrefill
  have htime : (after limiter.policy.rate limiter.policy.capacity hist).time
      ≤ Duration.asSecs now := by
    rw [← h.bucket]
    exact asSecs_le_asSecs.mpr hnow
  have hadmitted : (Answer.call (now, (limiter.checkAt now).1)).taken = true
      ↔ 1 ≤ (limiter.refill now).tokens := by
    by_cases hone : 1 ≤ (limiter.refill now).tokens <;>
      simp [Answer.call, Answer.admitted, RateLimiter.checkAt, hone, Except.toBool]
  refine { answered := ?_, bucket := ?_ }
  · rw [checkAt_policy]
    exact .cons h.answered htime (by rw [hadmitted, htokens]; rfl)
  · rw [checkAt_policy]
    show _ = Bucket.charge _ _
    rw [show (Answer.call (now, (limiter.checkAt now).1)).time = Duration.asSecs now from rfl,
      ← hrefill]
    by_cases hone : 1 ≤ (limiter.refill now).tokens
    · rw [hadmitted.mpr hone]
      simp [RateLimiter.checkAt, hone, Bucket.charge, BucketState.abs]
    · rw [Bool.eq_false_iff.mpr (hone ∘ hadmitted.mp)]
      simp [RateLimiter.checkAt, hone, Bucket.charge, BucketState.abs]

/-- The history a log amounts to, newest call first. -/
def historyOf (log : List Answer) : List (Call ℚ) := (log.map Answer.call).reverse

theorem historyOf_cons (a : Answer) (log : List Answer) :
    historyOf (a :: log) = historyOf log ++ [a.call] := by
  rw [historyOf, historyOf, List.map_cons, List.reverse_cons]

/-- **Run**: the calls of a run are calls of the library's bucket. -/
theorem Simulates.run {limiter : RateLimiter} {hist : List (Call ℚ)} (h : Simulates limiter hist)
    {offsets : List Duration} (hsorted : offsets.Pairwise (· ≤ ·))
    (hlast : ∀ now ∈ offsets, limiter.bucket.lastRefill ≤ now) :
    Simulates (limiter.run offsets).2 (historyOf (limiter.run offsets).1 ++ hist) := by
  induction offsets generalizing limiter hist with
  | nil => exact h
  | cons now rest ih =>
      obtain ⟨hfirst, hrest⟩ := List.pairwise_cons.mp hsorted
      have hnow := hlast now (List.mem_cons_self ..)
      have hstep := h.checkAt hnow
      rw [RateLimiter.run_cons, historyOf_cons, List.append_assoc]
      refine ih hstep hrest ?_
      intro later hlater
      rw [checkAt_lastRefill hnow]
      exact hfirst later hlater

theorem run_policy (limiter : RateLimiter) (offsets : List Duration) :
    (limiter.run offsets).2.policy = limiter.policy := by
  induction offsets generalizing limiter with
  | nil => rfl
  | cons now rest ih => rw [RateLimiter.run_cons, ih, checkAt_policy]

theorem run_startedAt (limiter : RateLimiter) (offsets : List Duration) :
    (limiter.run offsets).2.startedAt = limiter.startedAt := by
  induction offsets generalizing limiter with
  | nil => rfl
  | cons now rest ih => rw [RateLimiter.run_cons, ih, checkAt_startedAt]

theorem run_lastRefill {limiter : RateLimiter} {offsets : List Duration} {now : Duration}
    (hlast : limiter.bucket.lastRefill ≤ now) (hsorted : (offsets ++ [now]).Pairwise (· ≤ ·))
    (hfrom : ∀ t ∈ offsets, limiter.bucket.lastRefill ≤ t) :
    (limiter.run offsets).2.bucket.lastRefill ≤ now := by
  induction offsets generalizing limiter with
  | nil => exact hlast
  | cons first rest ih =>
      rw [List.cons_append, List.pairwise_cons] at hsorted
      have hfirst := checkAt_lastRefill (hfrom first (List.mem_cons_self ..))
      rw [RateLimiter.run_cons]
      refine ih ?_ hsorted.2 ?_
      · rw [hfirst]
        exact hsorted.1 now (by simp)
      · intro t ht
        rw [hfirst]
        exact hsorted.1 t (by simp [ht])

/-! ## Whole runs -/

section Runs

variable (policy : RateLimitPolicy) (startedAt : Duration)

theorem Simulates.of_run {offsets : List Duration} (hsorted : offsets.Pairwise (· ≤ ·)) :
    Simulates ((RateLimiter.new policy startedAt).run offsets).2
      (historyOf ((RateLimiter.new policy startedAt).run offsets).1) := by
  have h := (simulates_new policy startedAt).run hsorted (fun _ _ => Nat.zero_le _)
  rwa [List.append_nil] at h

theorem answered_of_run {offsets : List Duration} (hsorted : offsets.Pairwise (· ≤ ·)) :
    Answered policy.rate policy.capacity
      (historyOf ((RateLimiter.new policy startedAt).run offsets).1) := by
  have h := (Simulates.of_run policy startedAt hsorted).answered
  rwa [run_policy] at h

theorem takenCount_map_call (log : List Answer) :
    takenCount (log.map Answer.call) = admittedCount log := by
  rw [takenCount, List.countP_map]
  rfl

theorem admitted_iff (answer : Except Nat Unit) : answer.toBool = true ↔ answer = .ok () := by
  cases answer <;> simp [Except.toBool]

/-- The history around an entry of the log. -/
theorem historyOf_split {log : List Answer} {k : Nat} {entry : Answer} (hk : log[k]? = some entry) :
    historyOf log
      = historyOf (log.drop (k + 1)) ++ Answer.call entry :: historyOf (log.take k) := by
  obtain ⟨hlt, hget⟩ := List.getElem?_eq_some_iff.mp hk
  conv_lhs => rw [← List.take_append_drop k log, List.drop_eq_getElem_cons hlt, hget]
  simp [historyOf]

/-- A call among the first `k` is an entry of the log before the `k`-th. -/
theorem call_take_iff {log : List Answer} {k j : Nat} {c : Call ℚ} :
    ((log.take k).map Answer.call)[j]? = some c
      ↔ j < k ∧ ∃ entry, log[j]? = some entry ∧ Answer.call entry = c := by
  rw [List.getElem?_map, Option.map_eq_some_iff]
  by_cases hjk : j < k
  · rw [List.getElem?_take_of_lt hjk]
    exact (and_iff_right hjk).symm
  · rw [List.getElem?_eq_none (by rw [List.length_take]; omega)]
    exact iff_of_false (by simp) (fun h => hjk h.1)

/-- Admission is the min-plus condition over every start point up to the call. -/
theorem admitted_iff_lines {log : List Answer} {k : Nat} {now : Duration}
    {answer : Except Nat Unit}
    (h : Answered policy.rate policy.capacity (historyOf log))
    (hk : log[k]? = some (now, answer)) :
    answer = .ok () ↔
      (admittedCount (log.take k) + 1 : ℚ) ≤ policy.burst
          + policy.requestsPerSecond * Duration.asSecs now
        ∧ ∀ j start previous, j ≤ k → log[j]? = some (start, previous) →
          (admittedCount ((log.take k).drop j) + 1 : ℚ) ≤ policy.burst
            + policy.requestsPerSecond * (Duration.asSecs now - Duration.asSecs start) := by
  rw [historyOf_split hk] at h
  have hdecided := h.taken_iff_level
  rw [historyOf, le_level_reverse_iff, takenCount_map_call] at hdecided
  rw [← admitted_iff]
  refine hdecided.trans ?_
  have hline : ∀ (start : ℚ) (n : Nat),
      (1 ≤ policy.capacity + policy.rate * (Duration.asSecs now - start) - n
        ↔ (n + 1 : ℚ) ≤ policy.burst
          + policy.requestsPerSecond * (Duration.asSecs now - start)) := by
    intro start n
    rw [le_sub_iff_add_le, add_comm (1 : ℚ)]
    rfl
  have hzero := hline 0 (admittedCount (log.take k))
  rw [sub_zero] at hzero
  constructor
  · rintro ⟨hone, hall, hlines⟩
    refine ⟨hzero.mp hall, ?_⟩
    intro j start previous hj hstart
    by_cases hjk : j = k
    · -- the window that starts with the call itself is empty
      subst hjk
      obtain ⟨rfl, -⟩ : now = start ∧ answer = previous := by simpa using hk.symm.trans hstart
      rw [List.drop_take, Nat.sub_self, List.take_zero]
      simpa [admittedCount] using policy.burst_valid.1
    · have hcall := call_take_iff.mpr ⟨lt_of_le_of_ne hj hjk, _, hstart, rfl⟩
      have hbound := hlines j _ hcall
      rw [← List.map_drop, takenCount_map_call] at hbound
      exact (hline _ _).mp hbound
  · rintro ⟨hall, hlines⟩
    refine ⟨policy.one_le_capacity, hzero.mpr hall, ?_⟩
    intro j c hj
    obtain ⟨hjk, ⟨start, previous⟩, hentry, rfl⟩ := call_take_iff.mp hj
    have hbound := hlines j start previous hjk.le hentry
    rw [← List.map_drop, takenCount_map_call]
    exact (hline _ _).mpr hbound

/-- At most a burst and the rate's share are admitted in a window. -/
theorem admitted_window_le {log : List Answer}
    (h : Answered policy.rate policy.capacity (historyOf log)) {start stop : Duration}
    (hss : start ≤ stop) :
    ((log.countP (fun a => a.admitted && decide (start ≤ a.1) && decide (a.1 ≤ stop)) : Nat) : ℚ)
      ≤ policy.burst
        + policy.requestsPerSecond * (Duration.asSecs stop - Duration.asSecs start) := by
  have hbound := takenWithin_le policy.rate_nonneg (zero_le_one.trans policy.one_le_capacity) h
    (asSecs_le_asSecs.mpr hss)
  have hcount : takenWithin (Duration.asSecs start) (Duration.asSecs stop) (historyOf log)
      = log.countP (fun a => a.admitted && decide (start ≤ a.1) && decide (a.1 ≤ stop)) := by
    rw [takenWithin, historyOf, (List.reverse_perm _).countP_eq, List.countP_map]
    congr 1
    funext a
    simp [Answer.call, asSecs_le_asSecs]
  rwa [hcount] at hbound

/-- Two limiters that find one level answer alike from there on. -/
theorem run_congr_of_level {limiter limiter' : RateLimiter} {hist hist' : List (Call ℚ)}
    (h : Simulates limiter hist) (h' : Simulates limiter' hist')
    (hpolicy : limiter.policy = limiter'.policy) (hstarted : limiter.startedAt = limiter'.startedAt)
    {now : Duration} {rest : List Duration} (hnow : limiter.bucket.lastRefill ≤ now)
    (hnow' : limiter'.bucket.lastRefill ≤ now)
    (hlevel : level limiter.policy.rate limiter.policy.capacity hist (Duration.asSecs now)
      = level limiter.policy.rate limiter.policy.capacity hist' (Duration.asSecs now)) :
    limiter.run (now :: rest) = limiter'.run (now :: rest) := by
  have htokens : (limiter.refill now).tokens = (limiter'.refill now).tokens := by
    have hfound := congrArg Bucket.tokens (refill_abs h hnow)
    have hfound' := congrArg Bucket.tokens (refill_abs h' hnow')
    rw [h.bucket] at hfound
    rw [h'.bucket, ← hpolicy] at hfound'
    exact hfound.trans (hlevel.trans hfound'.symm)
  have hrefill : limiter.refill now = limiter'.refill now := by
    have htime := (refill_lastRefill hnow).trans (refill_lastRefill hnow').symm
    generalize limiter.refill now = b at *
    generalize limiter'.refill now = b' at *
    cases b
    cases b'
    simp_all
  have hcheck : limiter.checkAt now = limiter'.checkAt now := by
    simp only [RateLimiter.checkAt, hrefill, hpolicy, hstarted]
  rw [RateLimiter.run_cons, RateLimiter.run_cons, hcheck]

/-- The level after a run is a function of the admitted offsets. -/
theorem level_eq_of_admittedOffsets {offsets : List Duration}
    (hsorted : offsets.Pairwise (· ≤ ·)) (now : ℚ) :
    level policy.rate policy.capacity
        (historyOf ((RateLimiter.new policy startedAt).run offsets).1) now
      = level policy.rate policy.capacity
        (((admittedOffsets ((RateLimiter.new policy startedAt).run offsets).1).map
          (fun t => (⟨Duration.asSecs t, true⟩ : Call ℚ))).reverse) now := by
  rw [← level_filter_taken policy.one_le_capacity (answered_of_run policy startedAt hsorted)]
  congr 1
  rw [historyOf, List.filter_reverse, List.filter_map, admittedOffsets, List.map_map]
  congr 1
  refine List.map_congr_left ?_
  intro a ha
  have hadmitted : a.admitted = true := (List.mem_filter.mp ha).2
  simp [Answer.call, hadmitted]

/-- Decisions depend on the admitted history alone. -/
theorem run_congr_of_admittedOffsets {before before' later : List Duration}
    (hsorted : (before ++ later).Pairwise (· ≤ ·)) (hsorted' : (before' ++ later).Pairwise (· ≤ ·))
    (hhistory : admittedOffsets ((RateLimiter.new policy startedAt).run before).1
      = admittedOffsets ((RateLimiter.new policy startedAt).run before').1) :
    (((RateLimiter.new policy startedAt).run before).2.run later).1
      = (((RateLimiter.new policy startedAt).run before').2.run later).1 := by
  cases later with
  | nil => rfl
  | cons now rest =>
      have hbefore : ∀ xs : List Duration, (xs ++ now :: rest).Pairwise (· ≤ ·) →
          xs.Pairwise (· ≤ ·) ∧ (xs ++ [now]).Pairwise (· ≤ ·) := by
        intro xs hxs
        refine ⟨(List.pairwise_append.mp hxs).1, hxs.sublist ?_⟩
        exact List.Sublist.append_left (List.singleton_sublist.mpr (List.mem_cons_self ..)) xs
      obtain ⟨hxs, hxsn⟩ := hbefore before hsorted
      obtain ⟨hys, hysn⟩ := hbefore before' hsorted'
      refine congrArg Prod.fst (run_congr_of_level (Simulates.of_run policy startedAt hxs)
        (Simulates.of_run policy startedAt hys) ?_ ?_
        (run_lastRefill (Nat.zero_le _) hxsn (fun _ _ => Nat.zero_le _))
        (run_lastRefill (Nat.zero_le _) hysn (fun _ _ => Nat.zero_le _)) ?_)
      · rw [run_policy, run_policy]
      · rw [run_startedAt, run_startedAt]
      · rw [run_policy]
        show level policy.rate policy.capacity _ _ = level policy.rate policy.capacity _ _
        rw [level_eq_of_admittedOffsets policy startedAt hxs,
          level_eq_of_admittedOffsets policy startedAt hys, hhistory]

/-- **The limiter is a token bucket**: over every run from a new limiter, a call is admitted
exactly when no window that ends with it would exceed burst and rate; so every window is bounded,
the stored count stays in range, and a rejected call changes no later answer. -/
theorem rateLimiter_tokenBucket (offsets : List Duration) (hsorted : offsets.Pairwise (· ≤ ·)) :
    let limiter := RateLimiter.new policy startedAt
    let log := (limiter.run offsets).1
    (∀ k now answer, log[k]? = some (now, answer) →
      (answer = .ok () ↔
        (admittedCount (log.take k) + 1 : ℚ) ≤ policy.burst
            + policy.requestsPerSecond * Duration.asSecs now
          ∧ ∀ j start previous, j ≤ k → log[j]? = some (start, previous) →
            (admittedCount ((log.take k).drop j) + 1 : ℚ) ≤ policy.burst
              + policy.requestsPerSecond * (Duration.asSecs now - Duration.asSecs start)))
    ∧ (∀ start stop : Duration, start ≤ stop →
      ((log.countP (fun a => a.admitted && decide (start ≤ a.1) && decide (a.1 ≤ stop)) : Nat) : ℚ)
        ≤ policy.burst
          + policy.requestsPerSecond * (Duration.asSecs stop - Duration.asSecs start))
    ∧ (∀ k, 0 ≤ (limiter.run (offsets.take k)).2.bucket.tokens
      ∧ (limiter.run (offsets.take k)).2.bucket.tokens ≤ policy.burst)
    ∧ (∀ before before' later, before ++ later = offsets → (before' ++ later).Pairwise (· ≤ ·) →
      admittedOffsets (limiter.run before).1 = admittedOffsets (limiter.run before').1 →
      ((limiter.run before).2.run later).1 = ((limiter.run before').2.run later).1)
    ∧ (∀ before now later, before ++ now :: later = offsets →
      ((limiter.run before).2.checkAt now).1 ≠ .ok () →
      ((limiter.run (before ++ [now])).2.run later).1 = ((limiter.run before).2.run later).1) := by
  intro limiter log
  have hanswered := answered_of_run policy startedAt hsorted
  refine ⟨fun k now answer hk => admitted_iff_lines policy hanswered hk,
    fun start stop hss => admitted_window_le policy hanswered hss, ?_, ?_, ?_⟩
  · intro k
    have hsim := Simulates.of_run policy startedAt (hsorted.sublist (List.take_sublist k offsets))
    have hmem := hsim.answered.tokens_mem (RateLimitPolicy.rate_nonneg _)
      (zero_le_one.trans (RateLimitPolicy.one_le_capacity _))
    rw [← hsim.bucket, run_policy] at hmem
    exact hmem
  · intro before before' later heq hsorted' hhistory
    exact run_congr_of_admittedOffsets policy startedAt (heq ▸ hsorted) hsorted' hhistory
  · intro before now later heq hrejected
    subst heq
    have hadmitted : Answer.admitted (now, ((limiter.run before).2.checkAt now).1) = false := by
      rw [Bool.eq_false_iff]
      exact hrejected ∘ (admitted_iff _).mp
    refine run_congr_of_admittedOffsets policy startedAt ?_ ?_ ?_
    · rwa [List.append_assoc]
    · exact hsorted.sublist (List.Sublist.append_left (List.sublist_cons_self now later) before)
    · rw [RateLimiter.run_append]
      simp only [admittedOffsets, List.filter_append, List.map_append]
      have hone : ((limiter.run before).2.run [now]).1
          = [(now, ((limiter.run before).2.checkAt now).1)] := rfl
      rw [hone, List.filter_cons_of_neg (by rw [hadmitted]; exact Bool.false_ne_true)]
      simp

end Runs

/-- Three calls on the default policy, two of them in one instant. -/
theorem rateLimiter_tokenBucket_three :
    let log := ((RateLimiter.new .default 0).run [0, 0, 1000000000]).1
    [(0 : Duration), 0, 1000000000].Pairwise (· ≤ ·)
      ∧ ((log.countP (fun a => a.admitted && decide (0 ≤ a.1) && decide (a.1 ≤ 1000000000)) : Nat)
        : ℚ) ≤ 20 + 10 * (Duration.asSecs 1000000000 - Duration.asSecs 0) :=
  ⟨by decide,
    (rateLimiter_tokenBucket .default 0 [0, 0, 1000000000] (by decide)).2.1 0 1000000000
      (by decide)⟩

end SystemdMonitoring
