/-
# `SystemdMonitoring.Domain.TimerOrder` — timers in the order of instants

Timers are sorted by the whole seconds until their next and since their last
run, which are cut towards zero, and by name among equal ones.  Descending
lists turn the seconds around and not the names.

So the order is that of the instants exactly when the seconds tell the instants
apart (`known_order_iff`): two runs that share a second come in the order of
their names in both directions, and in one of the two that is wrong.  Of the
timers that are due soon the same second is shared by both sides of now
(`timers_ordered_iff`).
-/
import SystemdMonitoring.Domain.ListedRows

namespace SystemdMonitoring

open Lib Lib.Text

/-! ## Rounded keys -/

section Rounded

variable {α β : Type} (instant : α → Option β) (seconds : β → Int)
  (unit : α → String)

/-- Two known instants are in that order. -/
def KnownPair (R : β → β → Prop) (left right : α) : Prop :=
  ∀ x y, instant left = some x → instant right = some y → R x y

/-- A known instant does not come after an unknown one. -/
def KnownFirst (left right : α) : Prop := instant left = none → instant right = none

/-- By seconds, unknown ones last, and then by name. -/
def compareRounded (descending : Bool) (left right : α) : Ordering :=
  (compareOptionalI64NoneLast ((instant left).map seconds) ((instant right).map seconds)
    descending).then (compare (unit left) (unit right))

instance transCmp_compareRounded (descending : Bool) :
    Std.TransCmp (compareRounded instant seconds unit descending) := by
  have hkeys := transCmp_on (fun left right =>
    compareOptionalI64NoneLast left right descending) (fun a => (instant a).map seconds)
  exact inferInstanceAs (Std.TransCmp (compareLex _ (compareOn unit)))

/-- The list sorted that way. -/
def sortRounded (descending : Bool) (rows : List α) : List α :=
  rows.mergeSort (fun left right =>
    (compareRounded instant seconds unit descending left right).isLE)

variable {instant seconds unit}

theorem compareRounded_known {left right : α} {x y : β} (hx : instant left = some x)
    (hy : instant right = some y) (descending : Bool) :
    compareRounded instant seconds unit descending left right
      = (if descending then compare (seconds y) (seconds x)
          else compare (seconds x) (seconds y)).then (compare (unit left) (unit right)) := by
  rw [compareRounded, hx, hy]
  rfl

variable (seconds unit) in
/-- Not greater: fewer seconds, or as many and a name that is no greater. -/
theorem isLE_compareRounded_iff {left right : α} {x y : β} (hx : instant left = some x)
    (hy : instant right = some y) :
    ((compareRounded instant seconds unit false left right).isLE = true
      ↔ seconds x < seconds y ∨ (seconds x = seconds y ∧ unit left ≤ unit right))
    ∧ ((compareRounded instant seconds unit true left right).isLE = true
      ↔ seconds y < seconds x ∨ (seconds x = seconds y ∧ unit left ≤ unit right)) := by
  have hunits : ∀ a b : String, (compare a b).isLE = true ↔ a ≤ b := by
    intro a b
    rw [Ordering.isLE_iff_ne_gt, compare_gt_iff_gt]
    exact not_lt
  rw [compareRounded_known hx hy, compareRounded_known hx hy]
  constructor
  · rw [if_neg Bool.false_ne_true, Ordering.isLE_then_iff_or, compare_lt_iff_lt,
      compare_eq_iff_eq, hunits]
  · rw [if_pos rfl, Ordering.isLE_then_iff_or, compare_lt_iff_lt, compare_eq_iff_eq, hunits,
      @eq_comm _ (seconds y)]

theorem known_first (descending : Bool) (rows : List α) :
    (sortRounded instant seconds unit descending rows).Pairwise (KnownFirst instant) := by
  have hle := Comparison.ofCmp (compareRounded instant seconds unit descending)
  refine (List.pairwise_mergeSort hle.trans hle.total rows).imp ?_
  intro left right hle hunknown
  cases hy : instant right with
  | none => rfl
  | some y =>
      rw [compareRounded, hunknown, hy] at hle
      cases hle

variable [LinearOrder β]

/-- Different instants have different seconds, in the same order. -/
def ToldApart (seconds : β → Int) (instants : List β) : Prop :=
  ∀ x ∈ instants, ∀ y ∈ instants, x < y → seconds x < seconds y

/-- Rows that do not come later by their seconds do not by their instants. -/
theorem le_of_seconds_le {rows : List α} (htold : ToldApart seconds (rows.filterMap instant))
    {a b : α} (ha : a ∈ rows) (hb : b ∈ rows) {x y : β} (hx : instant a = some x)
    (hy : instant b = some y) (hle : seconds x ≤ seconds y) : x ≤ y := by
  by_contra hlt
  have hsec := htold y (List.mem_filterMap.mpr ⟨b, hb, hy⟩) x
    (List.mem_filterMap.mpr ⟨a, ha, hx⟩) (not_le.mp hlt)
  exact not_lt.mpr hle hsec

/-- Keys that order the instants both ways tell them apart. -/
theorem toldApart_of_known_order {rows : List α}
    (hup : (sortRounded instant seconds unit false rows).Pairwise (KnownPair instant (· ≤ ·)))
    (hdown : (sortRounded instant seconds unit true rows).Pairwise
      (KnownPair instant (· ≥ ·))) :
    ToldApart seconds (rows.filterMap instant) := by
  intro x hx y hy hlt
  obtain ⟨a, ha, hxa⟩ := List.mem_filterMap.mp hx
  obtain ⟨b, hb, hyb⟩ := List.mem_filterMap.mp hy
  obtain ⟨hupApart, hupTie⟩ := (pairwise_mergeSort_iff
    (Comparison.ofCmp (compareRounded instant seconds unit false))).mp hup
  obtain ⟨hdownApart, hdownTie⟩ := (pairwise_mergeSort_iff
    (Comparison.ofCmp (compareRounded instant seconds unit true))).mp hdown
  have hab := isLE_compareRounded_iff seconds unit hxa hyb
  have hba := isLE_compareRounded_iff seconds unit hyb hxa
  -- going up `b` must not come before `a`, and going down `a` not before `b`
  have hup' : (compareRounded instant seconds unit false a b).isLE = true := by
    by_contra hno
    exact not_le.mpr hlt (hupApart b hb a ha (Bool.eq_false_of_not_eq_true hno) y x hyb hxa)
  have hdown' : (compareRounded instant seconds unit true b a).isLE = true := by
    by_contra hno
    exact not_le.mpr hlt (hdownApart a ha b hb (Bool.eq_false_of_not_eq_true hno) x y hxa hyb)
  rcases hab.1.mp hup' with hsec | ⟨hsec, hunit⟩
  · exact hsec
  · rcases hba.2.mp hdown' with hsec' | ⟨-, hunit'⟩
    · exact absurd hsec' (by rw [hsec]; exact lt_irrefl _)
    · -- of one second and one name: the order of the input is wrong for one of the two
      have hne : a ≠ b := by
        rintro rfl
        rw [hxa] at hyb
        cases hyb
        exact lt_irrefl x hlt
      rcases pair_sublist_or ha hb hne with hsub | hsub
      · exact absurd (hdownTie a b hsub (hab.2.mpr (.inr ⟨hsec, hunit⟩)) hdown' x y hxa hyb)
          (not_le.mpr hlt)
      · exact absurd (hupTie b a hsub (hba.1.mpr (.inr ⟨hsec.symm, hunit'⟩)) hup' y x hyb hxa)
          (not_le.mpr hlt)

/-- Going up, keys that tell the instants apart order them. -/
theorem known_order_asc {rows : List α} (htold : ToldApart seconds (rows.filterMap instant)) :
    (sortRounded instant seconds unit false rows).Pairwise (KnownPair instant (· ≤ ·)) := by
  have hasc := Comparison.ofCmp (compareRounded instant seconds unit false)
  refine (List.pairwise_mergeSort hasc.trans hasc.total rows).imp_of_mem ?_
  intro a b ha hb hab x y hx hy
  refine le_of_seconds_le htold (List.mem_mergeSort.mp ha) (List.mem_mergeSort.mp hb) hx hy ?_
  rcases (isLE_compareRounded_iff seconds unit hx hy).1.mp hab with hsec | ⟨hsec, -⟩
  · exact hsec.le
  · exact hsec.le

/-- And going down. -/
theorem known_order_desc {rows : List α} (htold : ToldApart seconds (rows.filterMap instant)) :
    (sortRounded instant seconds unit true rows).Pairwise (KnownPair instant (· ≥ ·)) := by
  have hdesc := Comparison.ofCmp (compareRounded instant seconds unit true)
  refine (List.pairwise_mergeSort hdesc.trans hdesc.total rows).imp_of_mem ?_
  intro a b ha hb hab x y hx hy
  refine le_of_seconds_le htold (List.mem_mergeSort.mp hb) (List.mem_mergeSort.mp ha) hy hx ?_
  rcases (isLE_compareRounded_iff seconds unit hx hy).2.mp hab with hsec | ⟨hsec, -⟩
  · exact hsec.le
  · exact hsec.ge

/-- **When sorting by rounded keys sorts by instants**, both ways: when the keys tell the instants
apart. -/
theorem known_order_iff (rows : List α) :
    ((sortRounded instant seconds unit false rows).Pairwise (KnownPair instant (· ≤ ·))
      ∧ (sortRounded instant seconds unit true rows).Pairwise (KnownPair instant (· ≥ ·)))
    ↔ ToldApart seconds (rows.filterMap instant) := by
  constructor
  · rintro ⟨hup, hdown⟩
    exact toldApart_of_known_order hup hdown
  · intro htold
    exact ⟨known_order_asc htold, known_order_desc htold⟩

end Rounded

/-! ## Timers -/

section Timers

variable [Chrono]

def nextRun (timer : TimerStatus) : Option DateTime := parseRfc3339Utc timer.nextRunUtc

def lastRun (timer : TimerStatus) : Option DateTime := parseRfc3339Utc timer.lastRunUtc

/-- The items of timers, sorted. -/
def sortedItems (timers : List TimerStatus) (now : DateTime) (includePersistent : Bool)
    (sort order : String) : List TimerItem :=
  sortTimerItems (timers.map (fun timer => buildTimerItem timer now includePersistent)) sort order

/-- The next and the last run of an item. -/
def itemNext (item : TimerItem) : Option DateTime := parseRfc3339Utc item.nextRunUtc

def itemLast (item : TimerItem) : Option DateTime := parseRfc3339Utc item.lastRunUtc

/-- The timer is known to run again, and not before now. -/
def isDue (now : DateTime) (timer : TimerStatus) : Bool :=
  (nextRun timer).any (fun next => now ≤ next)

/-- The summary's entry of a timer that is due. -/
def dueSoonEntry (now : DateTime) (timer : TimerStatus) : NextDueSoonTimer where
  unit := timer.unit
  nextRunUtc := timer.nextRunUtc.getD ""
  timeUntilNextSec := ((nextRun timer).map (fun next => numSeconds (next.sub now))).getD 0
  activeState := timer.activeState
  triggerUnit := timer.triggerUnit

/-- Timers are ordered and selected by their instants. -/
structure OrderedByInstants (timers : List TimerStatus) (now : DateTime)
    (includePersistent : Bool) : Prop where
  next_first : ∀ order ∈ ["asc", "desc"],
    (sortedItems timers now includePersistent "next" order).Pairwise (KnownFirst itemNext)
  next_asc : (sortedItems timers now includePersistent "next" "asc").Pairwise
    (KnownPair itemNext (· ≤ ·))
  next_desc : (sortedItems timers now includePersistent "next" "desc").Pairwise
    (KnownPair itemNext (· ≥ ·))
  last_asc : (sortedItems timers now includePersistent "last" "asc").Pairwise
    (KnownPair itemLast (· ≥ ·))
  last_desc : (sortedItems timers now includePersistent "last" "desc").Pairwise
    (KnownPair itemLast (· ≤ ·))
  due_soon : ∀ sort order, ∃ arranged : List TimerStatus,
    arranged.Perm (timers.filter (isDue now))
    ∧ arranged.Pairwise (KnownPair nextRun (· ≤ ·))
    ∧ (buildTimerSummary (sortedItems timers now includePersistent sort order)).nextDueSoon
      = (arranged.take 5).map (dueSoonEntry now)

variable (timers : List TimerStatus) (now : DateTime) (includePersistent : Bool)

/-- The items are built from the timers in that order. -/
theorem sortedItems_eq_map (sort order : String) :
    sortedItems timers now includePersistent sort order =
      (timers.mergeSort (fun left right => (compareTimerItems sort order
        (buildTimerItem left now includePersistent)
        (buildTimerItem right now includePersistent)).isLE)).map
          (fun timer => buildTimerItem timer now includePersistent) :=
  (List.map_mergeSort (f := fun timer => buildTimerItem timer now includePersistent)
    fun _ _ _ _ => rfl).symm

omit [Chrono] in
theorem compareTimerItems_next (order : String) (left right : TimerItem) :
    compareTimerItems "next" order left right =
      (compareOptionalI64NoneLast left.timeUntilNextSec right.timeUntilNextSec
        (eqIgnoreAsciiCase order "desc")).then (compare left.unit right.unit) := by
  rw [compareTimerItems_eq, if_neg (by simp)]
  rfl

omit [Chrono] in
theorem compareTimerItems_last (order : String) (left right : TimerItem) :
    compareTimerItems "last" order left right =
      (compareOptionalI64NoneLast left.timeSinceLastSec right.timeSinceLastSec
        (eqIgnoreAsciiCase order "desc")).then (compare left.unit right.unit) := by
  rw [compareTimerItems_eq, if_neg (by simp)]
  rfl

theorem sortedItems_next (order : String) :
    sortedItems timers now includePersistent "next" order =
      (sortRounded nextRun (fun next => numSeconds (next.sub now)) TimerStatus.unit
        (eqIgnoreAsciiCase order "desc") timers).map
          (fun timer => buildTimerItem timer now includePersistent) := by
  rw [sortedItems_eq_map]
  simp only [compareTimerItems_next]
  rfl

/-- Seconds since the last run grow as the run goes back: instants the other way around. -/
theorem sortedItems_last (order : String) :
    sortedItems timers now includePersistent "last" order =
      (sortRounded lastRun (fun last => numSeconds (now.sub last))
        TimerStatus.unit (eqIgnoreAsciiCase order "desc") timers).map
          (fun timer => buildTimerItem timer now includePersistent) := by
  rw [sortedItems_eq_map]
  simp only [compareTimerItems_last]
  rfl

theorem next_order_iff :
    ((sortedItems timers now includePersistent "next" "asc").Pairwise (KnownPair itemNext (· ≤ ·))
      ∧ (sortedItems timers now includePersistent "next" "desc").Pairwise
        (KnownPair itemNext (· ≥ ·)))
    ↔ ToldApart (fun next => numSeconds (next.sub now)) (timers.filterMap nextRun) := by
  rw [sortedItems_next, sortedItems_next, List.pairwise_map, List.pairwise_map]
  exact known_order_iff timers

theorem last_order_iff :
    ((sortedItems timers now includePersistent "last" "asc").Pairwise (KnownPair itemLast (· ≥ ·))
      ∧ (sortedItems timers now includePersistent "last" "desc").Pairwise
        (KnownPair itemLast (· ≤ ·)))
    ↔ ToldApart (fun last => -numSeconds (now.sub last)) (timers.filterMap lastRun) := by
  rw [sortedItems_last, sortedItems_last, List.pairwise_map, List.pairwise_map]
  refine (@known_order_iff TimerStatus DateTimeᵒᵈ lastRun
    (fun last => numSeconds (now.sub last)) TimerStatus.unit _ timers).trans ?_
  constructor
  · intro htold x hx y hy hlt
    exact neg_lt_neg (htold y hy x hx hlt)
  · intro htold x hx y hy hlt
    exact neg_lt_neg_iff.mp (htold y hy x hx hlt)

theorem next_first (order : String) :
    (sortedItems timers now includePersistent "next" order).Pairwise (KnownFirst itemNext) := by
  rw [sortedItems_next, List.pairwise_map]
  exact known_first _ timers

/-! ### Due soon -/

omit [Chrono] in
/-- What is not before now is not before it by its seconds either. -/
theorem numSeconds_nonneg {now next : DateTime} (h : now ≤ next) :
    0 ≤ numSeconds (next.sub now) := by
  have hsub : -DateTime.secondNanos < next.sub now := by
    have hnot := not_lt.mpr h
    rw [DateTime.lt_iff] at hnot
    have hnow := now.frac_lt
    rw [DateTime.sub]
    simp only [DateTime.isLeap, DateTime.timeOfDay, DateTime.nanos, DateTime.secondNanos,
      decide_eq_true_eq]
    split_ifs <;> omega
  rw [numSeconds]
  rcases le_or_gt 0 (next.sub now) with hpos | hneg
  · exact Int.tdiv_nonneg hpos (by decide)
  · have hzero : (-(next.sub now)).tdiv DateTime.secondNanos = 0 :=
      Int.tdiv_eq_zero_of_lt (by omega) (by omega)
    rw [Int.neg_tdiv, neg_eq_zero] at hzero
    exact hzero.ge

/-- By its seconds the timer runs again, and not before now. -/
def isSoon (now : DateTime) (timer : TimerStatus) : Bool :=
  (nextRun timer).any (fun next => 0 ≤ numSeconds (next.sub now))

theorem nextDue_buildTimerItem (timer : TimerStatus) :
    nextDue (buildTimerItem timer now includePersistent)
      = if isSoon now timer then some (dueSoonEntry now timer) else none := by
  rw [nextDue, buildTimerItem, dueSoonEntry, isSoon, nextRun]
  cases hnext : parseRfc3339Utc timer.nextRunUtc with
  | none => cases timer.nextRunUtc <;> rfl
  | some next =>
      obtain ⟨nextRunUtc, htext⟩ : ∃ nextRunUtc, timer.nextRunUtc = some nextRunUtc := by
        cases htext : timer.nextRunUtc with
        | none =>
            rw [htext] at hnext
            cases hnext
        | some nextRunUtc => exact ⟨nextRunUtc, rfl⟩
      rw [htext]
      by_cases hsec : numSeconds (next.sub now) < 0
      · simp [hsec]
      · simp [hsec, not_lt.mp hsec]

/-- How the summary compares the timers that are due. -/
def dueLE (left right : NextDueSoonTimer) : Bool :=
  ((compare left.timeUntilNextSec right.timeUntilNextSec).then
    (compare left.unit right.unit)).isLE

/-- The timers that the summary's entries are built from, sorted as they are. -/
def soonTimers (sort order : String) : List TimerStatus :=
  ((timers.mergeSort (fun left right => (compareTimerItems sort order
    (buildTimerItem left now includePersistent)
    (buildTimerItem right now includePersistent)).isLE)).filter (isSoon now)).mergeSort
      (fun left right => dueLE (dueSoonEntry now left) (dueSoonEntry now right))

theorem nextDueSoon_eq (sort order : String) :
    (buildTimerSummary (sortedItems timers now includePersistent sort order)).nextDueSoon
      = ((soonTimers timers now includePersistent sort order).take 5).map (dueSoonEntry now) := by
  have hentries : ∀ rows : List TimerStatus,
      (rows.map (fun timer => buildTimerItem timer now includePersistent)).filterMap nextDue
        = (rows.filter (isSoon now)).map (dueSoonEntry now) := by
    intro rows
    induction rows with
    | nil => rfl
    | cons timer rows ih =>
        rw [List.map_cons, List.filterMap_cons, nextDue_buildTimerItem, List.filter_cons]
        cases isSoon now timer with
        | false => exact ih
        | true => exact congrArg (dueSoonEntry now timer :: ·) ih
  rw [List.map_take, soonTimers, List.map_mergeSort (s := dueLE) fun _ _ _ _ => rfl,
    ← hentries, ← sortedItems_eq_map]
  rfl

theorem perm_soonTimers (sort order : String) :
    (soonTimers timers now includePersistent sort order).Perm (timers.filter (isSoon now)) :=
  (List.mergeSort_perm _ _).trans ((List.mergeSort_perm _ _).filter _)

theorem comparison_dueLE : Comparison (fun left right =>
    dueLE (dueSoonEntry now left) (dueSoonEntry now right)) := by
  have hseconds : Std.TransCmp (compareLex (compareOn NextDueSoonTimer.timeUntilNextSec)
      (compareOn NextDueSoonTimer.unit)) := inferInstance
  have hle := Comparison.ofCmp (compareLex (compareOn NextDueSoonTimer.timeUntilNextSec)
    (compareOn NextDueSoonTimer.unit))
  exact ⟨fun a b c => hle.trans _ _ _, fun a b => hle.total _ _⟩

/-- The timers that are soon come by their seconds. -/
theorem pairwise_soonTimers (sort order : String) :
    (soonTimers timers now includePersistent sort order).Pairwise (fun left right =>
      ∀ x y, nextRun left = some x → nextRun right = some y →
        numSeconds (x.sub now) ≤ numSeconds (y.sub now)) := by
  have hle := comparison_dueLE now
  refine (List.pairwise_mergeSort hle.trans hle.total _).imp ?_
  intro left right hle x y hx hy
  have hcompare := Ordering.isLE_left_of_isLE_then hle
  rw [dueSoonEntry, dueSoonEntry, hx, hy, Ordering.isLE_iff_ne_gt] at hcompare
  exact not_lt.mp (fun hlt => hcompare (compare_gt_iff_gt.mpr hlt))

variable {timers now includePersistent}

theorem isSoon_eq_isDue {timer : TimerStatus}
    (hbefore : ∀ next, nextRun timer = some next → next < now → numSeconds (next.sub now) < 0) :
    isSoon now timer = isDue now timer := by
  rw [isSoon, isDue]
  cases hnext : nextRun timer with
  | none => rfl
  | some next =>
      rw [Option.any_some, Option.any_some, decide_eq_decide]
      constructor
      · intro hsec
        by_contra hlt
        exact not_lt.mpr hsec (hbefore next hnext (not_le.mp hlt))
      · exact numSeconds_nonneg

/-- One entry is one next run. -/
theorem nextRun_eq_of_dueSoonEntry_eq {timer other : TimerStatus} {x y : DateTime}
    (hx : nextRun timer = some x) (hy : nextRun other = some y)
    (h : dueSoonEntry now timer = dueSoonEntry now other) : x = y := by
  have htext := congrArg NextDueSoonTimer.nextRunUtc h
  rw [nextRun] at hx hy
  obtain ⟨text, htimer, hparse⟩ := Option.bind_eq_some_iff.mp hx
  obtain ⟨text', hother, hparse'⟩ := Option.bind_eq_some_iff.mp hy
  simp only [dueSoonEntry, htimer, hother, Option.getD_some] at htext
  rw [htext, hparse'] at hparse
  exact (Option.some.inj hparse).symm

/-- The first timer that is soon has no more seconds than any other. -/
theorem exists_first_soon {sort order : String} {timer : TimerStatus} {x : DateTime}
    (hmem : timer ∈ soonTimers timers now includePersistent sort order)
    (hx : nextRun timer = some x) :
    ∃ first rest x₀, soonTimers timers now includePersistent sort order = first :: rest
      ∧ first ∈ timers ∧ nextRun first = some x₀
      ∧ numSeconds (x₀.sub now) ≤ numSeconds (x.sub now) := by
  have hpairs := pairwise_soonTimers timers now includePersistent sort order
  cases hfirst : soonTimers timers now includePersistent sort order with
  | nil =>
      rw [hfirst] at hmem
      cases hmem
  | cons first rest =>
      have hfirstMem : first ∈ timers.filter (isSoon now) := by
        refine (perm_soonTimers timers now includePersistent sort order).mem_iff.mp ?_
        rw [hfirst]
        exact List.mem_cons_self
      obtain ⟨hfirstMem, hfirstSoon⟩ := List.mem_filter.mp hfirstMem
      obtain ⟨x₀, hx₀, -⟩ := (Option.any_eq_true _ _).mp hfirstSoon
      refine ⟨first, rest, x₀, rfl, hfirstMem, hx₀, ?_⟩
      rw [hfirst] at hmem hpairs
      rcases List.mem_cons.mp hmem with rfl | hrest
      · rw [hx] at hx₀
        cases hx₀
        exact le_rfl
      · exact List.rel_of_pairwise_cons hpairs hrest x₀ x hx₀ hx

/-- If a summary's entries are the earliest runs from now on, no run shortly before now shares a
second with them. -/
theorem before_now_of_due_soon
    (htold : ToldApart (fun next => numSeconds (next.sub now)) (timers.filterMap nextRun))
    {sort order : String} {arranged : List TimerStatus}
    (hperm : arranged.Perm (timers.filter (isDue now)))
    (hentries : (buildTimerSummary
        (sortedItems timers now includePersistent sort order)).nextDueSoon
      = (arranged.take 5).map (dueSoonEntry now)) :
    ∀ next ∈ timers.filterMap nextRun, next < now → numSeconds (next.sub now) < 0 := by
  intro x hx hlt
  by_contra hsec
  obtain ⟨timer, htimer, hnext⟩ := List.mem_filterMap.mp hx
  have hmem : timer ∈ soonTimers timers now includePersistent sort order := by
    refine (perm_soonTimers ..).mem_iff.mpr (List.mem_filter.mpr ⟨htimer, ?_⟩)
    rw [isSoon, hnext]
    exact decide_eq_true (not_lt.mp hsec)
  -- the first entry has no more seconds than this timer, and so is before now too
  obtain ⟨first, rest, x₀, hfirst, hfirstMem, hx₀, hle⟩ := exists_first_soon hmem hnext
  have hbefore : x₀ < now :=
    lt_of_le_of_lt (le_of_seconds_le htold hfirstMem htimer hx₀ hnext hle) hlt
  rw [nextDueSoon_eq, hfirst] at hentries
  cases harranged : arranged with
  | nil =>
      rw [harranged] at hentries
      cases hentries
  | cons due others =>
      rw [harranged] at hentries hperm
      obtain ⟨y, hy, hdue⟩ := (Option.any_eq_true _ _).mp
        (List.mem_filter.mp (hperm.mem_iff.mp List.mem_cons_self)).2
      have heq := nextRun_eq_of_dueSoonEntry_eq hx₀ hy (List.cons.inj hentries).1
      exact not_le.mpr hbefore (heq ▸ of_decide_eq_true hdue)

/-- Where seconds tell the next runs apart, the entries are the earliest runs from now on exactly
when no run shortly before now shares a second with them. -/
theorem due_soon_iff
    (htold : ToldApart (fun next => numSeconds (next.sub now)) (timers.filterMap nextRun)) :
    (∀ sort order, ∃ arranged : List TimerStatus,
      arranged.Perm (timers.filter (isDue now))
      ∧ arranged.Pairwise (KnownPair nextRun (· ≤ ·))
      ∧ (buildTimerSummary (sortedItems timers now includePersistent sort order)).nextDueSoon
        = (arranged.take 5).map (dueSoonEntry now))
    ↔ ∀ next ∈ timers.filterMap nextRun, next < now → numSeconds (next.sub now) < 0 := by
  constructor
  · intro hsoon
    obtain ⟨arranged, hperm, -, hentries⟩ := hsoon "name" "asc"
    exact before_now_of_due_soon htold hperm hentries
  · intro hbefore sort order
    refine ⟨soonTimers timers now includePersistent sort order, ?_, ?_, nextDueSoon_eq ..⟩
    · refine (perm_soonTimers ..).trans (List.Perm.of_eq (List.filter_congr fun timer htimer => ?_))
      refine isSoon_eq_isDue fun next hnext => hbefore next ?_
      exact List.mem_filterMap.mpr ⟨timer, htimer, hnext⟩
    · refine (pairwise_soonTimers ..).imp_of_mem ?_
      intro left right hleft hright hle x y hx hy
      have hmem : ∀ timer ∈ soonTimers timers now includePersistent sort order,
          timer ∈ timers :=
        fun timer htimer => (List.mem_filter.mp ((perm_soonTimers ..).mem_iff.mp htimer)).1
      exact le_of_seconds_le htold (hmem left hleft) (hmem right hright) hx hy (hle x y hx hy)

/-- **When `list_timers` orders and selects by instants**: when whole seconds from now tell the
known next runs apart, and the known last runs, and no next run before now is less than a second
away. -/
theorem timers_ordered_iff (timers : List TimerStatus) (now : DateTime)
    (includePersistent : Bool) :
    OrderedByInstants timers now includePersistent
      ↔ ToldApart (fun next => numSeconds (next.sub now)) (timers.filterMap nextRun)
        ∧ ToldApart (fun last => -numSeconds (now.sub last)) (timers.filterMap lastRun)
        ∧ ∀ next ∈ timers.filterMap nextRun, next < now → numSeconds (next.sub now) < 0 := by
  constructor
  · intro h
    have htold := (next_order_iff timers now includePersistent).mp ⟨h.next_asc, h.next_desc⟩
    exact ⟨htold, (last_order_iff timers now includePersistent).mp ⟨h.last_asc, h.last_desc⟩,
      (due_soon_iff htold).mp h.due_soon⟩
  · rintro ⟨htold, hlast, hbefore⟩
    obtain ⟨hasc, hdesc⟩ := (next_order_iff timers now includePersistent).mpr htold
    obtain ⟨hasc', hdesc'⟩ := (last_order_iff timers now includePersistent).mpr hlast
    exact ⟨fun order _ => next_first timers now includePersistent order, hasc, hdesc, hasc',
      hdesc', (due_soon_iff htold).mpr hbefore⟩

end Timers

/-- A timer of the system that runs next at that time. -/
def timerAt (unit nextRunUtc : String) : TimerStatus where
  unit := unit
  scope := "system"
  loadState := "loaded"
  activeState := "active"
  subState := "waiting"
  unitFileState := none
  nextRunUtc := some nextRunUtc
  lastRunUtc := none
  triggerUnit := none
  persistent := none
  result := none

/-- Two timers within one second from now, the later one first by name. -/
theorem timers_of_one_second :
    ¬ @OrderedByInstants rfc3339 [timerAt "a.timer" "2026-01-01T00:00:01.900Z",
      timerAt "b.timer" "2026-01-01T00:00:01.100Z"] (.ofSecs 1767225600) false := by
  rintro ⟨-, hasc, hdesc, -, -, -⟩
  have htold := (@next_order_iff rfc3339 _ _ _).mp ⟨hasc, hdesc⟩
  have hlt := htold ⟨1767225601, 100000000, by decide, by decide⟩ (by decide)
    ⟨1767225601, 900000000, by decide, by decide⟩ (by decide) (by decide)
  exact absurd hlt (by decide)

end SystemdMonitoring
