/-
# `SystemdMonitoring.Lib.TokenBucket` — the token bucket over histories

A bucket holds at most `burst` tokens, gains `rate` of them per unit of time,
and pays one for every admitted call.  A history is what the bucket has
answered so far, newest call first.  The level at a time is a minimum of
straight lines, one for each point a window can start at:

    x ≤ level older now  ↔  x ≤ burst, and for every earlier call at `t`
                            x ≤ burst + rate·(now - t) - taken since `t`

(`le_level_iff`).  The bound on a window (`takenWithin_le`) is the same
induction with the start moved off the calls; that a refused call leaves no
mark on any later level (`level_cons_refused`) is the collapse of two lines
into one.

Numbers are an ordered commutative ring, times are among them.
-/
import Mathlib.Algebra.Order.Ring.Defs
import Mathlib.Algebra.Order.Group.MinMax
import Mathlib.Data.List.Basic
import Mathlib.Tactic.Linarith
import Mathlib.Tactic.Ring

namespace Lib.TokenBucket

/-! ## Buckets and histories -/

/-- The tokens left after the last call, and its time. -/
structure Bucket (K : Type*) where
  tokens : K
  time : K

/-- One answered call: when it came, and whether it was admitted. -/
structure Call (K : Type*) where
  time : K
  taken : Bool

/-- How many calls of a history were taken. -/
def takenCount {K : Type*} (hist : List (Call K)) : Nat := hist.countP Call.taken

theorem takenCount_cons {K : Type*} (c : Call K) (hist : List (Call K)) :
    takenCount (c :: hist) = takenCount hist + (if c.taken then 1 else 0) := by
  rw [takenCount, takenCount, List.countP_cons]

variable {K : Type*} [CommRing K] [LinearOrder K]

/-- A full bucket at time zero. -/
def Bucket.full (burst : K) : Bucket K := ⟨burst, 0⟩

def Bucket.refill (rate burst : K) (s : Bucket K) (now : K) : Bucket K :=
  ⟨min burst (s.tokens + rate * (now - s.time)), now⟩

/-- Pay for a call that was taken. -/
def Bucket.charge (s : Bucket K) (taken : Bool) : Bucket K :=
  ⟨if taken then s.tokens - 1 else s.tokens, s.time⟩

/-- The bucket after a history, newest call first. -/
def after (rate burst : K) : List (Call K) → Bucket K
  | [] => .full burst
  | c :: older => ((after rate burst older).refill rate burst c.time).charge c.taken

/-- The tokens a call at `now` finds. -/
def level (rate burst : K) (hist : List (Call K)) (now : K) : K :=
  ((after rate burst hist).refill rate burst now).tokens

/-- A history a bucket can have answered: times do not run backwards, and a call is taken exactly
when it finds a token. -/
inductive Answered (rate burst : K) : List (Call K) → Prop where
  | nil : Answered rate burst []
  | cons {c : Call K} {older : List (Call K)} (hist : Answered rate burst older)
      (time_le : (after rate burst older).time ≤ c.time)
      (taken_iff : c.taken = true ↔ 1 ≤ level rate burst older c.time) :
      Answered rate burst (c :: older)

theorem level_nil (rate burst now : K) :
    level rate burst [] now = min burst (burst + rate * now) := by
  simp [level, after, Bucket.full, Bucket.refill]

/-- One call later: what it found, less what it paid, plus the gain since. -/
theorem level_cons (rate burst : K) (c : Call K) (older : List (Call K)) (now : K) :
    level rate burst (c :: older) now
      = min burst (level rate burst older c.time - (if c.taken then 1 else 0)
          + rate * (now - c.time)) := by
  cases h : c.taken <;> simp [level, after, Bucket.refill, Bucket.charge, h]

/-- The level is at most the burst: the line that starts now. -/
theorem level_le_burst (rate burst : K) (hist : List (Call K)) (now : K) :
    level rate burst hist now ≤ burst := min_le_left _ _

@[simp] theorem after_cons_time (rate burst : K) (c : Call K) (older : List (Call K)) :
    (after rate burst (c :: older)).time = c.time := rfl

/-- Each call of an answered history was decided by the level it found. -/
theorem Answered.taken_iff_level {rate burst : K} {newer older : List (Call K)} {c : Call K}
    (h : Answered rate burst (newer ++ c :: older)) :
    c.taken = true ↔ 1 ≤ level rate burst older c.time := by
  induction newer with
  | nil => cases h with | cons _ _ htaken => exact htaken
  | cons _ newer ih => cases h with | cons hist _ _ => exact ih hist

/-- Every call of an answered history is no later than its last. -/
theorem Answered.time_le {rate burst : K} {hist : List (Call K)} (h : Answered rate burst hist) :
    ∀ c ∈ hist, c.time ≤ (after rate burst hist).time := by
  induction h with
  | nil => simp
  | cons _ htime _ ih =>
      intro c hc
      cases List.mem_cons.mp hc with
      | inl heq => rw [heq, after_cons_time]
      | inr hmem => exact (ih c hmem).trans htime

variable [IsStrictOrderedRing K]

/-! ## The level is a minimum of lines -/

/-- **Min-plus form**: a level is what every starting point leaves of burst and rate. -/
theorem le_level_iff (rate burst : K) (hist : List (Call K)) (now x : K) :
    x ≤ level rate burst hist now ↔
      x ≤ burst ∧ x ≤ burst + rate * now - takenCount hist ∧
      ∀ newer c older, hist = newer ++ c :: older →
        x ≤ burst + rate * (now - c.time) - takenCount (newer ++ [c]) := by
  induction hist generalizing now x with
  | nil =>
      rw [level_nil, le_min_iff]
      simp [takenCount]
  | cons d hist ih =>
      -- a line of the shorter history, moved on by what `d` paid and what came in since
      have hmove : ∀ (start : K) (n : Nat),
          (x + (if d.taken then 1 else 0) - rate * (now - d.time)
              ≤ burst + rate * (d.time - start) - n
            ↔ x ≤ burst + rate * (now - start) - ((n + (if d.taken then 1 else 0) : Nat) : K)) := by
        intro start n
        cases d.taken <;> simp only [if_true, if_false, Nat.cast_add, Nat.cast_one, Nat.cast_zero,
          Bool.false_eq_true] <;> constructor <;> intro h <;> linarith
      have hzero := hmove 0 (takenCount hist)
      have hhere := hmove d.time 0
      simp only [sub_zero, sub_self, mul_zero, add_zero, Nat.cast_zero, Nat.zero_add]
        at hzero hhere
      have hstep : x ≤ level rate burst hist d.time - (if d.taken then 1 else 0)
            + rate * (now - d.time)
          ↔ x + (if d.taken then 1 else 0) - rate * (now - d.time)
            ≤ level rate burst hist d.time := by
        constructor <;> intro h <;> linarith
      rw [level_cons, le_min_iff, takenCount_cons, hstep, ih, hzero, hhere]
      constructor
      · rintro ⟨hburst, hd, hall, hlines⟩
        refine ⟨hburst, hall, ?_⟩
        intro newer c older heq
        cases newer with
        | nil =>
            obtain ⟨rfl, rfl⟩ := List.cons.inj heq
            rw [List.nil_append, takenCount_cons]
            simpa [takenCount] using hd
        | cons e newer =>
            obtain ⟨rfl, rfl⟩ := List.cons.inj heq
            rw [List.cons_append, takenCount_cons]
            exact (hmove c.time _).mp (hlines newer c older rfl)
      · rintro ⟨hburst, hall, hlines⟩
        refine ⟨hburst, ?_, hall, ?_⟩
        · have hd := hlines [] d hist rfl
          rw [List.nil_append, takenCount_cons] at hd
          simpa [takenCount] using hd
        · intro newer c older heq
          have hc := hlines (d :: newer) c older (by rw [heq, List.cons_append])
          rw [List.cons_append, takenCount_cons] at hc
          exact (hmove c.time _).mpr hc

/-- The same over a history written oldest call first, its lines by their index. -/
theorem le_level_reverse_iff (rate burst : K) (log : List (Call K)) (now x : K) :
    x ≤ level rate burst log.reverse now ↔
      x ≤ burst ∧ x ≤ burst + rate * now - takenCount log ∧
      ∀ (j : Nat) (c : Call K), log[j]? = some c →
        x ≤ burst + rate * (now - c.time) - takenCount (log.drop j) := by
  rw [le_level_iff]
  have hcount : ∀ hist : List (Call K), takenCount hist.reverse = takenCount hist :=
    fun hist => (List.reverse_perm hist).countP_eq _
  rw [hcount]
  refine and_congr_right (fun _ => and_congr_right (fun _ => ?_))
  constructor
  · intro hlines j c hj
    obtain ⟨hlt, rfl⟩ := List.getElem?_eq_some_iff.mp hj
    have hdrop := List.drop_eq_getElem_cons hlt
    have hsplit : log.reverse = (log.drop (j + 1)).reverse ++ log[j] :: (log.take j).reverse := by
      conv_lhs => rw [← List.take_append_drop j log, hdrop]
      simp
    have hline := hlines _ _ _ hsplit
    rw [hdrop]
    rwa [← List.reverse_cons, hcount] at hline
  · intro hlines newer c older heq
    have hlog : log = older.reverse ++ c :: newer.reverse := by
      rw [← List.reverse_reverse log, heq]
      simp
    have hline := hlines older.reverse.length c (by rw [hlog]; simp)
    rw [hlog, List.drop_left, ← hcount] at hline
    simpa using hline

/-! ## Windows -/

/-- Calls of a history taken at or after `start`. -/
def takenSince (start : K) (hist : List (Call K)) : Nat :=
  hist.countP (fun c => c.taken && decide (start ≤ c.time))

/-- Calls of a history taken between `start` and `stop`, both included. -/
def takenWithin (start stop : K) (hist : List (Call K)) : Nat :=
  hist.countP (fun c => c.taken && decide (start ≤ c.time) && decide (c.time ≤ stop))

/-- The line from an arbitrary start, on a call or off it. -/
theorem level_le_line {rate burst : K} (hrate : 0 ≤ rate) {hist : List (Call K)}
    (h : Answered rate burst hist) {start now : K} (hstart : start ≤ now) :
    level rate burst hist now ≤ burst + rate * (now - start) - takenSince start hist := by
  induction h generalizing now with
  | nil =>
      have hgain := mul_nonneg hrate (sub_nonneg.mpr hstart)
      have hlevel := level_le_burst rate burst [] now
      simp only [takenSince, List.countP_nil, Nat.cast_zero]
      linarith
  | @cons d older hist htime htaken ih =>
      have hgain := mul_nonneg hrate (sub_nonneg.mpr hstart)
      by_cases hd : start ≤ d.time
      · have hlevel : level rate burst (d :: older) now
            ≤ level rate burst older d.time - (if d.taken then 1 else 0)
              + rate * (now - d.time) := by
          rw [level_cons]
          exact min_le_right _ _
        have hline := ih hd
        cases hk : d.taken <;> simp only [hk, takenSince, List.countP_cons, hd, decide_true,
          Bool.and_true, Bool.false_eq_true, if_true, if_false, Nat.cast_add, Nat.cast_one,
          Nat.cast_zero] at hlevel hline ⊢ <;> linarith
      · -- nothing this old was taken since `start`
        have hnone : takenSince start (d :: older) = 0 := by
          rw [takenSince, List.countP_eq_zero]
          intro c hc
          have hle := (Answered.cons hist htime htaken).time_le c hc
          rw [after_cons_time] at hle
          simp [not_le.mpr (hle.trans_lt (not_le.mp hd))]
        have hlevel := level_le_burst rate burst (d :: older) now
        rw [hnone, Nat.cast_zero]
        linarith

/-- **Window bound**: between `start` and `stop` at most a burst and the rate's share are taken. -/
theorem takenWithin_le {rate burst : K} (hrate : 0 ≤ rate) (hburst : 0 ≤ burst)
    {hist : List (Call K)} (h : Answered rate burst hist) {start stop : K} (hss : start ≤ stop) :
    (takenWithin start stop hist : K) ≤ burst + rate * (stop - start) := by
  induction h with
  | nil =>
      have hgain := mul_nonneg hrate (sub_nonneg.mpr hss)
      simp only [takenWithin, List.countP_nil, Nat.cast_zero]
      linarith
  | @cons d older hist htime htaken ih =>
      by_cases hd : (d.taken && decide (start ≤ d.time) && decide (d.time ≤ stop)) = true
      · -- `d` is the last call of the window: the line from `start` ends at it
        simp only [Bool.and_eq_true, decide_eq_true_eq] at hd
        obtain ⟨⟨hk, hstart⟩, hstop⟩ := hd
        have hfound := (htaken.mp hk).trans (level_le_line hrate hist hstart)
        have hsince : takenWithin start stop older ≤ takenSince start older :=
          List.countP_mono_left (fun c _ hc => by
            simp only [Bool.and_eq_true] at hc ⊢
            exact hc.1)
        have hgain := mul_le_mul_of_nonneg_left (sub_le_sub_right hstop start) hrate
        have hcount : (takenWithin start stop older : K) ≤ takenSince start older :=
          Nat.cast_le.mpr hsince
        rw [takenWithin, List.countP_cons, ← takenWithin]
        simp only [hk, hstart, hstop, decide_true, Bool.and_true, if_true, Nat.cast_add,
          Nat.cast_one]
        linarith
      · rw [takenWithin, List.countP_cons, ← takenWithin, if_neg hd, Nat.add_zero]
        exact ih

/-! ## Refused calls leave no mark -/

omit [IsStrictOrderedRing K] in
/-- **A refused call changes no later level**: it found less than a token, so the cap did not
bind, and the refill it caused is part of the refill that follows. -/
theorem level_cons_refused {rate burst : K} (hburst : 1 ≤ burst) {c : Call K}
    {older : List (Call K)} (hc : c.taken = false) (hempty : level rate burst older c.time < 1)
    (now : K) :
    level rate burst (c :: older) now = level rate burst older now := by
  rw [level_cons, hc]
  have hfree : level rate burst older c.time
      = (after rate burst older).tokens + rate * (c.time - (after rate burst older).time) := by
    rw [level, Bucket.refill] at hempty ⊢
    exact min_eq_right (le_of_not_ge (fun hle => by
      rw [min_eq_left hle] at hempty
      exact absurd hburst (not_le.mpr hempty)))
  rw [hfree]
  show _ = min burst ((after rate burst older).tokens
    + rate * (now - (after rate burst older).time))
  congr 1
  simp only [Bool.false_eq_true, if_false]
  ring

omit [IsStrictOrderedRing K] in
/-- The level is a function of the calls that were taken. -/
theorem level_filter_taken {rate burst : K} (hburst : 1 ≤ burst) {hist : List (Call K)}
    (h : Answered rate burst hist) (now : K) :
    level rate burst (hist.filter Call.taken) now = level rate burst hist now := by
  induction h generalizing now with
  | nil => rfl
  | @cons d older hist htime htaken ih =>
      cases hd : d.taken with
      | true => rw [List.filter_cons_of_pos hd, level_cons, level_cons, ih]
      | false =>
          have hempty : level rate burst older d.time < 1 := by
            rw [← not_le, ← htaken, hd]
            exact Bool.false_ne_true
          rw [List.filter_cons_of_neg (by rw [hd]; exact Bool.false_ne_true), ih,
            level_cons_refused hburst hd hempty]

/-! ## The stored count -/

/-- What a bucket stores stays between nothing and the burst. -/
theorem Answered.tokens_mem {rate burst : K} (hrate : 0 ≤ rate) (hburst : 0 ≤ burst)
    {hist : List (Call K)} (h : Answered rate burst hist) :
    0 ≤ (after rate burst hist).tokens ∧ (after rate burst hist).tokens ≤ burst := by
  induction h with
  | nil => exact ⟨hburst, le_rfl⟩
  | @cons d older hist htime htaken ih =>
      have htop := level_le_burst rate burst older d.time
      have hfound : 0 ≤ level rate burst older d.time :=
        le_min hburst (add_nonneg ih.1 (mul_nonneg hrate (sub_nonneg.mpr htime)))
      have hstored : (after rate burst (d :: older)).tokens
          = if d.taken then level rate burst older d.time - 1
            else level rate burst older d.time := rfl
      rw [hstored]
      cases hk : d.taken with
      | true =>
          have hone := htaken.mp hk
          simp only [if_true]
          constructor <;> linarith
      | false =>
          simp only [Bool.false_eq_true, if_false]
          exact ⟨hfound, htop⟩

/-! ## Waiting -/

/-- A refill on the way changes nothing: where it is cut to the burst, so is the later one. -/
theorem Bucket.refill_refill {rate burst : K} (hrate : 0 ≤ rate) (s : Bucket K) {t now : K}
    (h : t ≤ now) :
    (s.refill rate burst t).refill rate burst now = s.refill rate burst now := by
  have hgain : 0 ≤ rate * (now - t) := mul_nonneg hrate (sub_nonneg.mpr h)
  have hsum : s.tokens + rate * (t - s.time) + rate * (now - t)
      = s.tokens + rate * (now - s.time) := by ring
  simp only [Bucket.refill, Bucket.mk.injEq, and_true]
  rw [← hsum]
  rcases le_total burst (s.tokens + rate * (t - s.time)) with hcut | hfits
  · rw [min_eq_left hcut, min_eq_left (le_add_of_nonneg_right hgain),
      min_eq_left (hcut.trans (le_add_of_nonneg_right hgain))]
  · rw [min_eq_right hfits]

/-- There is a token once the missing part of it has come in. -/
theorem Bucket.one_le_refill_iff {rate burst : K} (hburst : 1 ≤ burst) (s : Bucket K) (now : K) :
    1 ≤ (s.refill rate burst now).tokens ↔ 1 - s.tokens ≤ rate * (now - s.time) := by
  show 1 ≤ min burst (s.tokens + rate * (now - s.time)) ↔ _
  rw [le_min_iff, sub_le_iff_le_add']
  exact and_iff_right hburst

end Lib.TokenBucket
