/-
# `SystemdMonitoring.Domain.LogQuery` — from log arguments to a query

`build_log_query` checks the time window first and everything else after it.
A window of more than seven days is refused with a hint, the earliest start
that would do: `end_utc` less seven days, written in milliseconds.

The hint is cut to milliseconds and then read back, which moves it *before*
the bound whenever `end_utc` has digits below the millisecond.  So the hint
works exactly when it has none (`logWindow_hint_iff`), one more case apart: an
`end_utc` in a leap second within a day, where the bound itself lies a second
further back.
-/
import SystemdMonitoring.Domain.Utils
import SystemdMonitoring.Lib.Except

namespace SystemdMonitoring

open Lib Lib.Text

/-! ## Arguments -/

structure LogsQueryParams where
  scope : Option String
  priority : Option String
  unit : Option String
  startUtc : Option String
  endUtc : Option String
  grep : Option String
  excludeUnits : Option (List String)
  order : Option String
  allowLargeWindow : Option Bool
  limit : Option Nat
  summary : Option Bool
  cursor : Option String
  fields : Option (List String)
  groupBy : Option String
  sinceLastStart : Option Bool
  deriving DecidableEq, Repr

def sevenDays : Int := 7 * DateTime.dayNanos

/-- The corrective hint: the start of the largest window that ends there. -/
def maximumStart [Chrono] (finish : DateTime) : String :=
  Chrono.toRfc3339Millis (finish.addDelta (-sevenDays))

/-- The window check of `build_log_query`: both bounds, in order, at most seven days apart. -/
def logWindow [Chrono] (params : LogsQueryParams) : Except AppError (DateTime × DateTime) := do
  let startUtc ← parseUtc params.startUtc
  let endUtc ← parseUtc params.endUtc
  match startUtc, endUtc with
  | some start, some finish =>
      if finish ≤ start then
        .error (.badRequest "invalid_time_range" "start_utc must be strictly less than end_utc")
      else if params.allowLargeWindow.getD false = false ∧ sevenDays < finish.sub start then
        .error (.badRequestWithDetails "time_range_too_large"
          "time window must not exceed 7 days unless allow_large_window is true"
          (.obj [("maximum_start_utc", .str (maximumStart finish))]))
      else .ok (start, finish)
  | _, _ => .error (.badRequest "missing_time_range" "start_utc and end_utc are required")

def normalizeOrder (order : Option String) : Except AppError LogOrder :=
  match chosenWord order with
  | none => .ok .desc
  | some "desc" => .ok .desc
  | some "asc" => .ok .asc
  | some _ => .error (.badRequest "invalid_order" "order must be one of: asc, desc")

/-- Every excluded unit is normalized as a unit, the first bad one decides. -/
def normalizeExcludeUnits (units : Option (List String)) : Except AppError (List String) := do
  let normalized ← (units.getD []).mapM (fun unit => normalizeUnit (some unit))
  return normalized.reduceOption

/-- Validates and normalizes `list_logs` arguments into an execution query. -/
def buildLogQuery [Chrono] (params : LogsQueryParams) : Except AppError LogQuery := do
  let (start, finish) ← logWindow params
  let limit ← normalizeLimit defaultLogLimit maxLogLimit params.limit
  let order ← normalizeOrder params.order
  let excludeUnits ← normalizeExcludeUnits params.excludeUnits
  let scope ← normalizeScope params.scope
  let priority ← normalizePriority params.priority
  let unit ← normalizeUnit params.unit
  return {
    scope := scope
    priority := priority
    unit := unit
    excludeUnits := excludeUnits
    grep := (params.grep.map trim).filter (· ≠ "")
    order := order
    startUtc := some start
    endUtc := some finish
    limit := limit
    cursor := params.cursor.filter (fun value => trim value ≠ "") }

/-! ## What a query promises -/

/-- What `build_log_query` promises of its result. -/
structure LogQuery.Valid (query : LogQuery) (start finish : DateTime) : Prop where
  startUtc : query.startUtc = some start
  endUtc : query.endUtc = some finish
  ordered : start < finish
  limit : 1 ≤ query.limit ∧ query.limit ≤ maxLogLimit

/-- An accepted window has both bounds, in order. -/
theorem logWindow_eq_ok_iff [Chrono] {params : LogsQueryParams} {start finish : DateTime} :
    logWindow params = .ok (start, finish)
      ↔ parseUtc params.startUtc = .ok (some start) ∧ parseUtc params.endUtc = .ok (some finish)
        ∧ start < finish
        ∧ (params.allowLargeWindow.getD false = false → finish.sub start ≤ sevenDays) := by
  simp only [logWindow, bind_eq_ok]
  constructor
  · rintro ⟨startUtc, hstart, endUtc, hend, h⟩
    split at h
    case h_1 s f =>
      split at h
      · cases h
      case isFalse horder =>
        split at h
        · cases h
        case isFalse hsize =>
          cases h
          refine ⟨hstart, hend, not_le.mp horder, fun hallow => ?_⟩
          exact not_lt.mp (fun hlt => hsize ⟨hallow, hlt⟩)
    case h_2 => cases h
  · rintro ⟨hstart, hend, horder, hsize⟩
    refine ⟨_, hstart, _, hend, ?_⟩
    dsimp only
    rw [if_neg (not_le.mpr horder), if_neg]
    rintro ⟨hallow, hlt⟩
    exact absurd (hsize hallow) (not_le.mpr hlt)

theorem buildLogQuery_valid [Chrono] {params : LogsQueryParams} {query : LogQuery}
    (h : buildLogQuery params = .ok query) : ∃ start finish, query.Valid start finish := by
  simp only [buildLogQuery, bind_eq_ok] at h
  obtain ⟨⟨start, finish⟩, hwindow, limit, hlimit, _, _, _, _, _, _, _, _, _, _, h⟩ := h
  cases h
  exact ⟨start, finish, rfl, rfl, (logWindow_eq_ok_iff.mp hwindow).2.2.1, normalizeLimit_mem hlimit⟩

/-! ## The corrective hint -/

/-- The bound on a start: in the order of instants, at most seven days before the end. -/
def InWindow (start finish : DateTime) : Prop := start < finish ∧ finish.sub start ≤ sevenDays

instance (start finish : DateTime) : Decidable (InWindow start finish) :=
  inferInstanceAs (Decidable (_ ∧ _))

/-- The instants at which the hint is exact: no digits below the millisecond, except in a leap
second that is not the last second of a day, where it must begin with that second. -/
def HintExact (finish : DateTime) : Prop :=
  if finish.isLeap = true ∧ finish.timeOfDay ≠ 86399 then finish.frac < 1001000000
  else finish.frac % 1000000 = 0

instance (finish : DateTime) : Decidable (HintExact finish) :=
  inferInstanceAs (Decidable (ite _ _ _))

/-- The start that the hint is read back as. -/
def hintedStart (finish : DateTime) : DateTime := (finish.addDelta (-sevenDays)).truncMillis

theorem hintedStart_eq (finish : DateTime) :
    hintedStart finish
      = DateTime.ofNanos (finish.nanos - sevenDays - (finish.frac % 1000000 : Nat)) := by
  rw [hintedStart, DateTime.addDelta_back finish (by decide), DateTime.truncMillis_ofNanos]
  congr 1
  simp only [DateTime.nanos, DateTime.secondNanos, sevenDays, DateTime.dayNanos]
  omega

/-- How far the hint is from the end, a leap second within a day not counted. -/
theorem sub_hintedStart (finish : DateTime) :
    finish.sub (hintedStart finish)
      = sevenDays + (finish.frac % 1000000 : Nat)
        - (if finish.isLeap = true ∧ finish.timeOfDay ≠ 86399 then DateTime.secondNanos
          else 0) := by
  rw [hintedStart_eq, DateTime.sub, DateTime.nanos_ofNanos, DateTime.isLeap_ofNanos]
  have hlt := finish.frac_lt
  have hat := finish.leap_at_59
  by_cases hleap : finish.isLeap = true
  · have hfrac : 1000000000 ≤ finish.frac := of_decide_eq_true hleap
    have hside : finish.timeOfDay < (DateTime.ofNanos (finish.nanos - sevenDays
        - (finish.frac % 1000000 : Nat))).timeOfDay ↔ finish.timeOfDay ≠ 86399 := by
      simp only [DateTime.timeOfDay, DateTime.ofNanos, DateTime.nanos, DateTime.secondNanos,
        sevenDays, DateTime.dayNanos]
      omega
    simp only [Bool.false_eq_true, and_false, if_false, hside, hleap, and_true, true_and]
    split <;> omega
  · simp only [Bool.false_eq_true, and_false, if_false, hleap, false_and]
    omega

theorem inWindow_hintedStart_iff (finish : DateTime) :
    InWindow (hintedStart finish) finish
      ↔ finish.frac % 1000000 = 0 ∨ (finish.isLeap = true ∧ finish.timeOfDay ≠ 86399) := by
  have hbefore : hintedStart finish < finish := by
    refine DateTime.lt_of_nanos_add_le ?_
    rw [hintedStart_eq, DateTime.nanos_ofNanos]
    simp only [sevenDays, DateTime.dayNanos, DateTime.secondNanos]
    omega
  rw [InWindow, sub_hintedStart]
  simp only [hbefore, true_and, DateTime.secondNanos]
  split
  case isTrue h => exact iff_of_true (by omega) (.inr h)
  case isFalse h =>
    rw [or_iff_left h]
    omega

/-- Away from leap seconds within a day, a difference is at least the one on the line. -/
theorem nanos_le_of_inWindow {start finish : DateTime} (h : InWindow start finish)
    (hplain : ¬ (finish.isLeap = true ∧ finish.timeOfDay ≠ 86399)) :
    finish.nanos - sevenDays ≤ start.nanos := by
  have hsize := h.2
  have hnoon : ¬ (finish.timeOfDay < start.timeOfDay ∧ finish.isLeap = true) := by
    rintro ⟨hlt, hleap⟩
    refine hplain ⟨hleap, ?_⟩
    simp only [DateTime.timeOfDay] at hlt ⊢
    omega
  rw [DateTime.sub, if_neg hnoon] at hsize
  split at hsize
  · simp only [DateTime.secondNanos] at hsize
    omega
  · omega

/-- A leap second within a day moves the bound a second back, onto the minute. -/
theorem nanos_le_of_inWindow_leap {start finish : DateTime} (h : InWindow start finish)
    (hleap : finish.isLeap = true) :
    (finish.secs + 1) * DateTime.secondNanos - sevenDays ≤ start.nanos := by
  have hsize := h.2
  have hfrac : 1000000000 ≤ finish.frac := of_decide_eq_true hleap
  have hat := finish.leap_at_59
  have hlt := finish.frac_lt
  have hstart := start.leap_at_59
  have hslt := start.frac_lt
  by_contra hearly
  -- a start that lies there has the end's time of day, so no second is taken off
  have hside : ¬ finish.timeOfDay < start.timeOfDay
      ∨ start.nanos + DateTime.secondNanos
        < (finish.secs + 1) * DateTime.secondNanos - sevenDays := by
    simp only [DateTime.timeOfDay, DateTime.nanos, DateTime.secondNanos, sevenDays,
      DateTime.dayNanos] at hearly ⊢
    omega
  rw [DateTime.sub] at hsize
  split_ifs at hsize <;>
    simp only [DateTime.nanos, DateTime.secondNanos, sevenDays, DateTime.dayNanos] at * <;> omega

/-- The minute behind a leap second within a day, seven days earlier, opens a window. -/
theorem inWindow_behindLeap {finish : DateTime} (hleap : finish.isLeap = true)
    (hday : finish.timeOfDay ≠ 86399) :
    InWindow (DateTime.ofNanos ((finish.secs + 1) * DateTime.secondNanos - sevenDays)) finish := by
  have hfrac : 1000000000 ≤ finish.frac := of_decide_eq_true hleap
  have hlt := finish.frac_lt
  have hat := finish.leap_at_59 hfrac
  refine ⟨DateTime.lt_of_nanos_add_le ?_, ?_⟩
  · rw [DateTime.nanos_ofNanos]
    simp only [DateTime.nanos, DateTime.secondNanos, sevenDays, DateTime.dayNanos]
    omega
  · -- the start of a minute is the earlier time of day, so a second is taken off
    have hside : finish.timeOfDay < (DateTime.ofNanos ((finish.secs + 1)
        * DateTime.secondNanos - sevenDays)).timeOfDay := by
      simp only [DateTime.timeOfDay, DateTime.ofNanos, DateTime.secondNanos, sevenDays,
        DateTime.dayNanos] at hday ⊢
      omega
    rw [DateTime.sub, DateTime.nanos_ofNanos, DateTime.isLeap_ofNanos,
      if_neg (fun h => absurd h.2 Bool.false_ne_true), if_pos ⟨hside, hleap⟩]
    simp only [DateTime.nanos, DateTime.secondNanos, sevenDays, DateTime.dayNanos]
    omega

/-- **The hint is right exactly when it is exact**: it is accepted and no acceptable start is a
millisecond earlier. -/
theorem hintedStart_iff (finish : DateTime) :
    (InWindow (hintedStart finish) finish ∧ ∀ start : DateTime, InWindow start finish →
        (hintedStart finish).nanos < start.nanos + 1000000)
      ↔ HintExact finish := by
  rw [inWindow_hintedStart_iff, HintExact, hintedStart_eq, DateTime.nanos_ofNanos]
  split
  case isTrue hleap =>
    have hfrac : 1000000000 ≤ finish.frac := of_decide_eq_true hleap.1
    constructor
    · rintro ⟨-, hearliest⟩
      have h := hearliest _ (inWindow_behindLeap hleap.1 hleap.2)
      rw [DateTime.nanos_ofNanos] at h
      simp only [DateTime.nanos, DateTime.secondNanos] at h
      omega
    · intro hfirst
      refine ⟨.inr hleap, ?_⟩
      intro start hstart
      have h := nanos_le_of_inWindow_leap hstart hleap.1
      simp only [DateTime.nanos, DateTime.secondNanos] at h ⊢
      omega
  case isFalse hplain =>
    constructor
    · rintro ⟨hexact | hleap, -⟩
      · exact hexact
      · exact absurd hleap hplain
    · intro hexact
      refine ⟨.inl hexact, ?_⟩
      intro start hstart
      have h := nanos_le_of_inWindow hstart hplain
      omega

/-- Seven days before the end still lies behind the start, so it is written with four digits. -/
theorem inYears_addDelta {start finish : DateTime} (hstart : start.InYears)
    (hfinish : finish.InYears) (hlarge : sevenDays < finish.sub start) :
    (finish.addDelta (-sevenDays)).InYears := by
  have hsecs : start.secs ≤ (finish.addDelta (-sevenDays)).secs
      ∧ (finish.addDelta (-sevenDays)).secs ≤ finish.secs := by
    have hf := finish.frac_lt
    -- at worst a second too much is counted, for a start in a leap second
    have hline : sevenDays + start.secs * DateTime.secondNanos < finish.nanos := by
      rw [DateTime.sub] at hlarge
      split_ifs at hlarge with hleap
      · have hs : 1000000000 ≤ start.frac := of_decide_eq_true hleap.2
        simp only [DateTime.nanos, DateTime.secondNanos] at hlarge ⊢
        omega
      · simp only [DateTime.nanos, DateTime.secondNanos] at hlarge ⊢
        omega
      · simp only [DateTime.nanos, DateTime.secondNanos] at hlarge ⊢
        omega
    rw [DateTime.addDelta_back finish (by decide)]
    simp only [DateTime.ofNanos, DateTime.nanos, DateTime.secondNanos, sevenDays,
      DateTime.dayNanos] at hline ⊢
    omega
  unfold DateTime.InYears at *
  omega

section Resubmission

variable [Chrono] [LawfulChrono]

theorem inYears_of_parseUtc {value : Option String} {d : DateTime}
    (h : parseUtc value = .ok (some d)) : d.InYears := by
  cases value with
  | none => cases h
  | some value => exact LawfulChrono.inYears_of_parse (parseUtc_eq_ok_iff.mp h).2

/-- The bounds of a query are read from text, so their years have four digits. -/
theorem buildLogQuery_inYears {params : LogsQueryParams} {query : LogQuery} {finish : DateTime}
    (h : buildLogQuery params = .ok query) (hfinish : query.endUtc = some finish) :
    finish.InYears := by
  simp only [buildLogQuery, bind_eq_ok] at h
  obtain ⟨⟨start, finish'⟩, hwindow, _, _, _, _, _, _, _, _, _, _, _, _, h⟩ := h
  cases h
  cases hfinish
  exact inYears_of_parseUtc (logWindow_eq_ok_iff.mp hwindow).2.1

/-- The hint is read back as the start it was written from, cut to milliseconds. -/
theorem parseUtc_maximumStart {start finish : DateTime} (hstart : start.InYears)
    (hfinish : finish.InYears) (hlarge : sevenDays < finish.sub start) :
    parseUtc (some (maximumStart finish)) = .ok (some (hintedStart finish)) := by
  have hyears := inYears_addDelta hstart hfinish hlarge
  have hplain : (finish.addDelta (-sevenDays)).isLeap = false := by
    rw [DateTime.addDelta_back finish (by decide), DateTime.isLeap_ofNanos]
  exact parseUtc_toRfc3339Millis hyears hplain

/-- **When the corrective hint works**: a window of more than seven days is refused with a hint;
sent back in place of `start_utc`, the hint is accepted and the earliest such start, to the
millisecond, exactly when `end_utc` is free of digits below the millisecond. -/
theorem logWindow_hint_iff (params : LogsQueryParams) {start finish : DateTime}
    (hstart : parseUtc params.startUtc = .ok (some start))
    (hfinish : parseUtc params.endUtc = .ok (some finish)) (horder : start < finish)
    (hlarge : sevenDays < finish.sub start) (hallow : params.allowLargeWindow ≠ some true) :
    ∃ hint,
      buildLogQuery params
        = .error (.badRequestWithDetails "time_range_too_large"
            "time window must not exceed 7 days unless allow_large_window is true"
            (.obj [("maximum_start_utc", .str hint)]))
      ∧ ((∃ hinted, logWindow { params with startUtc := some hint } = .ok (hinted, finish)
            ∧ ∀ other : DateTime, InWindow other finish → hinted.nanos < other.nanos + 1000000)
          ↔ HintExact finish) := by
  have hallow' : params.allowLargeWindow.getD false = false := by
    cases h : params.allowLargeWindow with
    | none => rfl
    | some b =>
        cases b with
        | false => rfl
        | true => exact absurd h hallow
  refine ⟨maximumStart finish, ?_, ?_⟩
  · rw [buildLogQuery, logWindow, hstart, hfinish, ok_bind, ok_bind]
    dsimp only
    rw [if_neg (not_le.mpr horder), if_pos ⟨hallow', hlarge⟩]
    rfl
  · rw [← hintedStart_iff]
    have hread := parseUtc_maximumStart (inYears_of_parseUtc hstart)
      (inYears_of_parseUtc hfinish) hlarge
    constructor
    · rintro ⟨hinted, haccepted, hearliest⟩
      obtain ⟨hparsed, -, hbefore, hsize⟩ := logWindow_eq_ok_iff.mp haccepted
      have heq : hinted = hintedStart finish := by
        rw [hread] at hparsed
        cases hparsed
        rfl
      subst heq
      exact ⟨⟨hbefore, hsize hallow'⟩, hearliest⟩
    · rintro ⟨haccepted, hearliest⟩
      exact ⟨hintedStart finish,
        logWindow_eq_ok_iff.mpr ⟨hread, hfinish, haccepted.1, fun _ => haccepted.2⟩, hearliest⟩

end Resubmission

/-- A month of logs, up to half a millisecond past midnight. -/
def monthOfLogs : LogsQueryParams where
  scope := none
  priority := none
  unit := none
  startUtc := some "2026-01-01T00:00:00Z"
  endUtc := some "2026-02-01T00:00:00.0005Z"
  grep := none
  excludeUnits := none
  order := none
  allowLargeWindow := none
  limit := none
  summary := none
  cursor := none
  fields := none
  groupBy := none
  sinceLastStart := none

theorem logWindow_hint_iff_month :
    let start : DateTime := .ofSecs 1767225600
    let finish : DateTime := ⟨1769904000, 500000, by decide, by decide⟩
    (@parseUtc rfc3339 monthOfLogs.startUtc = .ok (some start)
      ∧ @parseUtc rfc3339 monthOfLogs.endUtc = .ok (some finish))
    ∧ ∃ hint,
      @buildLogQuery rfc3339 monthOfLogs
        = .error (.badRequestWithDetails "time_range_too_large"
            "time window must not exceed 7 days unless allow_large_window is true"
            (.obj [("maximum_start_utc", .str hint)]))
      ∧ ((∃ hinted, @logWindow rfc3339 { monthOfLogs with startUtc := some hint }
              = .ok (hinted, finish)
            ∧ ∀ other : DateTime, InWindow other finish → hinted.nanos < other.nanos + 1000000)
          ↔ HintExact finish) :=
  ⟨⟨rfl, rfl⟩, @logWindow_hint_iff rfc3339 lawful_rfc3339 monthOfLogs _ _ rfl rfl (by decide)
    (by decide) (by decide)⟩

/-- Half a millisecond past midnight: the hint is refused like the start it replaces. -/
theorem logWindow_hint_rejected :
    @logWindow rfc3339 monthOfLogs
      = .error (.badRequestWithDetails "time_range_too_large"
          "time window must not exceed 7 days unless allow_large_window is true"
          (.obj [("maximum_start_utc", .str "2026-01-25T00:00:00.000Z")]))
    ∧ @logWindow rfc3339 { monthOfLogs with startUtc := some "2026-01-25T00:00:00.000Z" }
      = .error (.badRequestWithDetails "time_range_too_large"
          "time window must not exceed 7 days unless allow_large_window is true"
          (.obj [("maximum_start_utc", .str "2026-01-25T00:00:00.000Z")])) :=
  ⟨rfl, rfl⟩

end SystemdMonitoring
