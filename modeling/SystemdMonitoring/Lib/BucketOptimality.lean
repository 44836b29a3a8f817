/-
# `SystemdMonitoring.Lib.BucketOptimality` — no one who keeps to burst and rate serves more

A plan says of each call whether to serve it, and may know all the calls in
advance.  It keeps to burst and rate when no window serves more than a burst and
the rate's share.  The bucket, which knows nothing of what comes, has served at
least as many calls as any such plan, at every call (`served_le_takenCount`).

The induction is on the calls, by the lines of `le_level_iff`.  Where the bucket
refuses, one of its lines is below a token: since that line's start it has served
all that the window admits of, so the plan has served no more since then, and no
more before then by induction.
-/
import SystemdMonitoring.Lib.TokenBucket

namespace Lib.TokenBucket

variable {K : Type*}

/-- Calls, newest first, and which of them to serve. -/
abbrev Plan (K : Type*) : Type _ := List (Call K × Bool)

def served (plan : Plan K) : Nat := plan.countP Prod.snd

theorem served_append (newer older : Plan K) :
    served (newer ++ older) = served newer + served older := List.countP_append ..

theorem served_cons_le (p : Call K × Bool) (plan : Plan K) :
    served (p :: plan) ≤ served plan + 1 := by
  rw [served, List.countP_cons]
  split
  · exact le_rfl
  · exact Nat.le_succ _

theorem takenCount_append (newer older : List (Call K)) :
    takenCount (newer ++ older) = takenCount newer + takenCount older := List.countP_append ..

section Windows

variable [LinearOrder K]

/-- Calls that are to be served between `start` and `stop`, both included. -/
def servedWithin (start stop : K) (plan : Plan K) : Nat :=
  plan.countP fun p => p.2 && decide (start ≤ p.1.time) && decide (p.1.time ≤ stop)

theorem servedWithin_le_append (start stop : K) (newer older : Plan K) :
    servedWithin start stop older ≤ servedWithin start stop (newer ++ older) :=
  (List.sublist_append_right newer older).countP_le

/-- A window that holds the newest calls serves all that are served of them. -/
theorem served_le_servedWithin {start stop : K} {newer : Plan K}
    (h : ∀ p ∈ newer, start ≤ p.1.time ∧ p.1.time ≤ stop) (older : Plan K) :
    served newer ≤ servedWithin start stop (newer ++ older) := by
  have hall : served newer ≤ servedWithin start stop newer := by
    refine List.countP_mono_left ?_
    intro p hp hserved
    simp [hserved, h p hp]
  exact hall.trans (List.sublist_append_left newer older).countP_le

end Windows

variable [CommRing K] [LinearOrder K]

/-- No window between these instants serves more than a burst and the rate's share. -/
def KeepsTo (instants : Set K) (rate burst : K) (plan : Plan K) : Prop :=
  ∀ start ∈ instants, ∀ stop ∈ instants, start ≤ stop →
    (servedWithin start stop plan : K) ≤ burst + rate * (stop - start)

variable [IsStrictOrderedRing K]

theorem KeepsTo.of_append {instants : Set K} {rate burst : K} {newer older : Plan K}
    (h : KeepsTo instants rate burst (newer ++ older)) : KeepsTo instants rate burst older := by
  intro start hstart stop hstop hss
  have hle : (servedWithin start stop older : K) ≤ servedWithin start stop (newer ++ older) :=
    Nat.cast_le.mpr (servedWithin_le_append start stop newer older)
  exact hle.trans (h start hstart stop hstop hss)

/-! ## Times -/

omit [IsStrictOrderedRing K] in
/-- Times count from the beginning. -/
theorem Answered.time_nonneg {rate burst : K} {hist : List (Call K)}
    (h : Answered rate burst hist) :
    0 ≤ (after rate burst hist).time ∧ ∀ c ∈ hist, 0 ≤ c.time := by
  induction h with
  | nil => exact ⟨le_rfl, List.forall_mem_nil _⟩
  | cons _ htime _ ih =>
      have hnow := ih.1.trans htime
      exact ⟨hnow, List.forall_mem_cons.mpr ⟨hnow, ih.2⟩⟩

omit [IsStrictOrderedRing K] in
/-- Newer calls come later. -/
theorem Answered.le_newer {rate burst : K} {newer older : List (Call K)} {c : Call K}
    (h : Answered rate burst (newer ++ c :: older)) : ∀ d ∈ newer, c.time ≤ d.time := by
  induction newer with
  | nil => exact List.forall_mem_nil _
  | cons d newer ih =>
      cases h with
      | cons hist htime _ =>
          have hc : c ∈ newer ++ c :: older :=
            List.mem_append_right newer List.mem_cons_self
          exact List.forall_mem_cons.mpr ⟨(hist.time_le c hc).trans htime, ih hist⟩

omit [IsStrictOrderedRing K] in
theorem Answered.of_append {rate burst : K} {newer older : List (Call K)}
    (h : Answered rate burst (newer ++ older)) : Answered rate burst older := by
  induction newer with
  | nil => exact h
  | cons d newer ih => cases h with | cons hist _ _ => exact ih hist

/-! ## The bucket serves the most -/

/-- A call is refused when burst and rate are used up since some start: the beginning, or the time
of an earlier call. -/
theorem Answered.used_up {rate burst : K} (hburst : 1 ≤ burst) {c : Call K}
    {older : List (Call K)} (h : Answered rate burst (c :: older)) (hc : c.taken = false) :
    burst + rate * c.time < takenCount older + 1
      ∨ ∃ newer d rest, older = newer ++ d :: rest
        ∧ burst + rate * (c.time - d.time) < takenCount (newer ++ [d]) + 1 := by
  cases h with
  | cons _ _ htaken =>
      have hempty : ¬ 1 ≤ level rate burst older c.time := by
        rw [← htaken, hc]
        exact Bool.false_ne_true
      by_contra hleft
      rw [not_or, not_lt] at hleft
      refine hempty ((le_level_iff rate burst older c.time 1).mpr ⟨hburst, ?_, ?_⟩)
      · linarith [hleft.1]
      · intro newer d rest heq
        by_contra hline
        refine hleft.2 ⟨newer, d, rest, heq, ?_⟩
        linarith [not_le.mp hline]

/-- **The bucket serves the most**: a plan that keeps to a burst and a rate has served no more
calls than a bucket with at least these. -/
theorem served_le_takenCount {instants : Set K} {rate burst rate' burst' : K}
    (hrate : rate ≤ rate') (hburst : burst ≤ burst') (hone : 1 ≤ burst') {plan : Plan K}
    (h : Answered rate' burst' (plan.map Prod.fst)) (hzero : 0 ∈ instants)
    (htimes : ∀ p ∈ plan, p.1.time ∈ instants) (hkeeps : KeepsTo instants rate burst plan) :
    served plan ≤ takenCount (plan.map Prod.fst) := by
  induction hlength : plan.length using Nat.strong_induction_on generalizing plan with
  | h n ih =>
      -- what the plan serves in a window fits into the bucket's burst and rate
      have hwindow : ∀ {start stop : K}, start ∈ instants → stop ∈ instants → start ≤ stop →
          ∀ {k : Nat}, burst' + rate' * (stop - start) < k + 1 →
          servedWithin start stop plan ≤ k := by
        intro start stop hstart hstop hss k hk
        have hkept := hkeeps start hstart stop hstop hss
        have hgain := mul_le_mul_of_nonneg_right hrate (sub_nonneg.mpr hss)
        have hlt : (servedWithin start stop plan : K) < ((k + 1 : Nat) : K) := by
          push_cast
          linarith
        exact Nat.lt_succ_iff.mp (Nat.cast_lt.mp hlt)
      have hsuffix : ∀ newer older : Plan K, plan = newer ++ older → newer ≠ [] →
          served older ≤ takenCount (older.map Prod.fst) := by
        rintro newer older rfl hne
        refine ih older.length ?_ ?_ ?_ hkeeps.of_append rfl
        · rw [← hlength, List.length_append]
          exact Nat.lt_add_of_pos_left (List.length_pos_of_ne_nil hne)
        · rw [List.map_append] at h
          exact h.of_append
        · intro p hp
          exact htimes p (List.mem_append_right newer hp)
      cases plan with
      | nil => exact Nat.zero_le _
      | cons p rest =>
          have hrest := hsuffix [p] rest rfl (List.cons_ne_nil p [])
          have hnow : p.1.time ∈ instants := htimes p List.mem_cons_self
          rw [List.map_cons] at h ⊢
          rw [takenCount_cons]
          cases hp : p.1.taken with
          | true => exact (served_cons_le p rest).trans (Nat.succ_le_succ hrest)
          | false =>
              rw [if_neg Bool.false_ne_true, Nat.add_zero]
              rcases h.used_up hone hp with hall | ⟨newer, d, older, heq, hline⟩
              · -- used up since the beginning
                have hin : ∀ q ∈ p :: rest, 0 ≤ q.1.time ∧ q.1.time ≤ p.1.time := by
                  intro q hq
                  have hmem : q.1 ∈ p.1 :: rest.map Prod.fst :=
                    List.mem_map_of_mem (f := Prod.fst) hq
                  exact ⟨h.time_nonneg.2 _ hmem, h.time_le _ hmem⟩
                have hserved := served_le_servedWithin hin []
                rw [List.append_nil] at hserved
                refine hserved.trans (hwindow hzero hnow (hin p List.mem_cons_self).1 ?_)
                rwa [sub_zero]
              · -- used up since an earlier call: split the plan there
                obtain ⟨newerPlan, behind, rfl, rfl, hbehind⟩ := List.map_eq_append_iff.mp heq
                obtain ⟨q, olderPlan, rfl, rfl, rfl⟩ := List.map_eq_cons_iff.mp hbehind
                have hlater : ∀ r ∈ p :: newerPlan ++ [q], q.1.time ≤ r.1.time := by
                  intro r hr
                  rcases List.mem_append.mp hr with hr | hr
                  · rw [List.map_append, ← List.cons_append, ← List.map_cons, List.map_cons] at h
                    exact h.le_newer _ (List.mem_map_of_mem (f := Prod.fst) hr)
                  · rw [List.mem_singleton.mp hr]
                have hin : ∀ r ∈ p :: newerPlan ++ [q],
                    q.1.time ≤ r.1.time ∧ r.1.time ≤ p.1.time := by
                  intro r hr
                  refine ⟨hlater r hr, h.time_le r.1 ?_⟩
                  have hmem : r ∈ p :: newerPlan ++ q :: olderPlan := by
                    rcases List.mem_append.mp hr with hr | hr
                    · exact List.mem_append_left _ hr
                    · exact List.mem_append_right _ (List.mem_singleton.mp hr ▸ List.mem_cons_self)
                  exact List.mem_map_of_mem (f := Prod.fst) hmem
                have hsplit : p :: (newerPlan ++ q :: olderPlan)
                    = (p :: newerPlan ++ [q]) ++ olderPlan := by simp
                have hserved := served_le_servedWithin hin olderPlan
                rw [← hsplit] at hserved
                have hsince := hserved.trans (hwindow
                  (htimes q (List.mem_cons_of_mem p (List.mem_append_right _ List.mem_cons_self)))
                  hnow (hlater p List.mem_cons_self) hline)
                have hbefore := hsuffix _ olderPlan hsplit (by simp)
                calc served (p :: (newerPlan ++ q :: olderPlan))
                    = served (p :: newerPlan ++ [q]) + served olderPlan := by
                      rw [hsplit, served_append]
                  _ ≤ takenCount (newerPlan.map Prod.fst ++ [q.1])
                        + takenCount (olderPlan.map Prod.fst) := Nat.add_le_add hsince hbefore
                  _ = takenCount ((newerPlan ++ q :: olderPlan).map Prod.fst) := by
                      rw [← takenCount_append]
                      simp

end Lib.TokenBucket
