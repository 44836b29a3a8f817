/-
# `SystemdMonitoring.Domain.TimerTimestamps` — a timer's timestamps, written and read back

The provider writes the times of a timer as RFC 3339, out of the microseconds
that D-Bus has for them; the handler reads them back for its arithmetic.  What
is read is the instant that was written, cut to whole milliseconds, up to the
end of the year 9999.  From there to the end of the range of instants it is
written with a sign and five digits or six, and not read (`survives_iff`).

A row of `list_timers` that shows such a time thus shows no seconds to go with
it, and every other row shows both or neither (`timestamps_survive_iff`).
-/
import SystemdMonitoring.Domain.SinceLastStart
import SystemdMonitoring.Domain.ListedRows
import SystemdMonitoring.Lib.Rfc3339Order

namespace SystemdMonitoring

open Lib Lib.Text

/-! ## Microseconds -/

/-- The end of the range of instants, in microseconds since 1970. -/
def endOfRange : Nat := 8210266876800000000

/-- An instant of the year 10000 or of a later one. -/
def FarYear (timestampUsec : Nat) : Prop :=
  year10000 ≤ timestampUsec ∧ timestampUsec < endOfRange

instance (timestampUsec : Nat) : Decidable (FarYear timestampUsec) :=
  inferInstanceAs (Decidable (_ ∧ _))

theorem fromTimestampMicros_eq (timestampUsec : Nat) :
    DateTime.fromTimestampMicros timestampUsec =
      if timestampUsec < endOfRange then some (DateTime.ofNanos ((timestampUsec : Int) * 1000))
      else none := by
  rw [DateTime.fromTimestampMicros]
  refine if_congr ?_ rfl rfl
  rw [DateTime.minSecs, DateTime.maxSecs, endOfRange]
  omega

theorem wholeMillis_mono {u v : Nat} (h : u ≤ v) : wholeMillis u ≤ wholeMillis v := by
  refine DateTime.ofNanos_mono ?_
  exact_mod_cast Nat.mul_le_mul_right 1000 (Nat.mul_le_mul_right 1000 (Nat.div_le_div_right h))

section Survival

variable [Chrono]

/-- **What is written**: all but zero and what lies past the range of instants. -/
theorem formatSystemdTimestampUsec_eq_some_iff {timestampUsec : Nat} {text : String} :
    formatSystemdTimestampUsec timestampUsec = some text
      ↔ 0 < timestampUsec ∧ timestampUsec < endOfRange
        ∧ text = Chrono.toRfc3339Millis (DateTime.ofNanos ((timestampUsec : Int) * 1000)) := by
  rw [formatSystemdTimestampUsec, fromTimestampMicros_eq]
  by_cases hzero : timestampUsec = 0
  · rw [if_pos hzero]
    exact iff_of_false (Option.some_ne_none text).symm fun h => absurd hzero h.1.ne'
  · rw [if_neg hzero]
    by_cases hend : timestampUsec < endOfRange
    · rw [if_neg (by unfold endOfRange at hend; omega), if_pos hend, Option.map_some,
        Option.some.injEq, eq_comm]
      exact ⟨fun h => ⟨Nat.pos_of_ne_zero hzero, hend, h⟩, fun h => h.2.2⟩
    · rw [if_neg hend, Option.map_none, ite_self]
      exact iff_of_false (Option.some_ne_none text).symm fun h => hend h.2.1

/-- The timestamp is read back as the last whole millisecond, if it is written at all. -/
def Survives (timestampUsec : Nat) : Prop :=
  ∀ text, formatSystemdTimestampUsec timestampUsec = some text →
    parseRfc3339Utc (some text) = some (wholeMillis timestampUsec)

variable [ReadsRfc3339]

/-- What is read of a timestamp that has been written. -/
theorem parse_written (timestampUsec : Nat) :
    parseRfc3339Utc
        (some (Chrono.toRfc3339Millis (DateTime.ofNanos ((timestampUsec : Int) * 1000))))
      = if timestampUsec < year10000 then some (wholeMillis timestampUsec) else none := by
  rw [parseRfc3339Utc, Option.bind_some, WritesRfc3339.toRfc3339Millis_eq,
    ReadsRfc3339.parse_format_eq]
  by_cases hyears : timestampUsec < year10000
  · rw [if_pos hyears, Rfc3339.parse_format ((inYears_ofMicros_iff _).mpr hyears)
      (DateTime.isLeap_ofNanos _), DateTime.truncMillis_ofNanos, wholeMillis]
    refine congrArg (fun nanos => some (DateTime.ofNanos nanos)) ?_
    omega
  · rw [if_neg hyears, Rfc3339.parse_format_far fun h => hyears ((inYears_ofMicros_iff _).mp h)]
    rfl

/-- **When a timestamp survives**: its year has four digits, or it is not written at all. -/
theorem survives_iff (timestampUsec : Nat) : Survives timestampUsec ↔ ¬ FarYear timestampUsec := by
  constructor
  · rintro hsurvives ⟨hfar, hend⟩
    have hpos : 0 < timestampUsec := by
      unfold year10000 at hfar
      omega
    have hread := hsurvives _ (formatSystemdTimestampUsec_eq_some_iff.mpr ⟨hpos, hend, rfl⟩)
    rw [parse_written, if_neg (not_lt.mpr hfar)] at hread
    cases hread
  · intro hnear text htext
    obtain ⟨-, hend, rfl⟩ := formatSystemdTimestampUsec_eq_some_iff.mp htext
    rw [parse_written, if_pos]
    by_contra hfar
    exact hnear ⟨not_lt.mp hfar, hend⟩

/-- Written timestamps are both read back, and in their order, when the later one survives. -/
theorem order_survives_iff {u v : Nat} (h : u ≤ v) {text text' : String}
    (htext : formatSystemdTimestampUsec u = some text)
    (htext' : formatSystemdTimestampUsec v = some text') :
    (∃ d e, parseRfc3339Utc (some text) = some d ∧ parseRfc3339Utc (some text') = some e ∧ d ≤ e)
      ↔ ¬ FarYear v := by
  constructor
  · rintro ⟨-, e, -, hread, -⟩ ⟨hfar, -⟩
    obtain ⟨-, -, rfl⟩ := formatSystemdTimestampUsec_eq_some_iff.mp htext'
    rw [parse_written, if_neg (not_lt.mpr hfar)] at hread
    cases hread
  · intro hnear
    have hnear' : ¬ FarYear u := by
      intro hfar
      exact hnear ⟨hfar.1.trans h, (formatSystemdTimestampUsec_eq_some_iff.mp htext').2.1⟩
    exact ⟨_, _, (survives_iff u).mpr hnear' _ htext, (survives_iff v).mpr hnear _ htext',
      wholeMillis_mono h⟩

/-- The instant of a timestamp is known when its text is, unless the year is far. -/
theorem known_together_iff (read : Option Nat) :
    ((read.bind formatSystemdTimestampUsec).isSome = true
        ↔ (parseRfc3339Utc (read.bind formatSystemdTimestampUsec)).isSome = true)
      ↔ ∀ timestampUsec, read = some timestampUsec → ¬ FarYear timestampUsec := by
  cases read with
  | none => exact iff_of_true Iff.rfl nofun
  | some timestampUsec =>
      simp only [Option.bind_some, Option.some.injEq, forall_eq']
      cases htext : formatSystemdTimestampUsec timestampUsec with
      | none =>
          refine iff_of_true Iff.rfl ((survives_iff timestampUsec).mp ?_)
          intro text htext'
          rw [htext] at htext'
          cases htext'
      | some text =>
          obtain ⟨-, hend, rfl⟩ := formatSystemdTimestampUsec_eq_some_iff.mp htext
          rw [parse_written, FarYear, and_iff_left hend, not_le]
          split
          case isTrue hnear => exact iff_of_true Iff.rfl hnear
          case isFalse hfar => exact iff_of_false (fun h => nomatch h.mp rfl) hfar

end Survival

/-! ## Rows of the managers -/

section Rows

variable [Chrono] {answers : Snapshot}

/-- The microseconds behind the two times of a row: those that the manager has for the path of a
unit of that name, or none for want of details. -/
inductive ReadFromBus (answers : Snapshot) (unit : String) : Option Nat → Option Nat → Prop where
  | undetailed : ReadFromBus answers unit none none
  | read {manager : UnitScope} {rawUnits : List RawUnit} {path : String} :
      managerUnits answers manager = some rawUnits →
      (unitPaths ".timer" rawUnits).lookup unit = some path →
      ReadFromBus answers unit
        (readTimerProperty answers manager path "NextElapseUSecRealtime" .u64)
        (readTimerProperty answers manager path "LastTriggerUSec" .u64)

/-- The two times of a timer are what is written of those microseconds. -/
def TimesFromBus (answers : Snapshot) (timer : TimerStatus) : Prop :=
  ∃ next last, ReadFromBus answers timer.unit next last
    ∧ timer.nextRunUtc = next.bind formatSystemdTimestampUsec
    ∧ timer.lastRunUtc = last.bind formatSystemdTimestampUsec

theorem timesFromBus_timerListing {manager : UnitScope} {rawUnits : List RawUnit}
    (hunits : managerUnits answers manager = some rawUnits) {timer : TimerStatus}
    (h : timer ∈ timerListing answers manager rawUnits) : TimesFromBus answers timer := by
  have hbare : ∀ base ∈ mapAndSortTimerUnits rawUnits manager,
      base.nextRunUtc = none ∧ base.lastRunUtc = none := by
    intro base hbase
    obtain ⟨raw, -, rfl⟩ := List.mem_map.mp (List.mem_mergeSort.mp hbase)
    exact ⟨rfl, rfl⟩
  rcases mem_fillDetails h with hbase | ⟨base, -, details, hfound, rfl⟩
  · exact ⟨none, none, .undetailed, hbare timer hbase⟩
  · obtain ⟨unit, -, hdetails⟩ := List.mem_filterMap.mp (List.mem_reverse.mp hfound)
    obtain ⟨value, hvalue, heq⟩ := Option.map_eq_some_iff.mp hdetails
    obtain ⟨rfl, rfl⟩ := Prod.mk.inj heq
    obtain ⟨path, hpath, rfl⟩ := Option.map_eq_some_iff.mp hvalue
    exact ⟨_, _, .read hunits hpath, rfl, rfl⟩

variable (answers) in
/-- What one manager answers. -/
theorem timesFromBus_singleScope {manager : UnitScope} (hscope : manager ≠ .both) :
    ∃ answer, (listTimerUnitsForSingleScope manager).run.under answers = .done answer
      ∧ ∀ timer ∈ answer.toOption.getD [], TimesFromBus answers timer := by
  obtain ⟨answer, hanswer, hfound⟩ := finds_listTimerUnitsForSingleScope answers hscope
  refine ⟨answer, hanswer, ?_⟩
  rw [hfound]
  intro timer htimer
  cases hunits : managerUnits answers manager with
  | none =>
      rw [hunits] at htimer
      cases htimer
  | some rawUnits =>
      rw [hunits] at htimer
      exact timesFromBus_timerListing hunits htimer

/-- **Whatever is listed has its times from the bus.** -/
theorem timesFromBus_listTimerUnits {scope : UnitScope} {timers : List TimerStatus}
    (h : (listTimerUnits scope).run.under answers = .done (.ok timers)) :
    ∀ timer ∈ timers, TimesFromBus answers timer := by
  have hsingle : ∀ {manager : UnitScope}, manager ≠ .both →
      (listTimerUnitsForSingleScope manager).run.under answers = .done (.ok timers) →
      ∀ timer ∈ timers, TimesFromBus answers timer := by
    intro manager hmanager hrun
    obtain ⟨answer, hanswer, htimes⟩ := timesFromBus_singleScope answers hmanager
    rw [hrun] at hanswer
    cases hanswer
    exact htimes
  cases scope with
  | system => exact hsingle (by decide) h
  | user => exact hsingle (by decide) h
  | both =>
      obtain ⟨system, hsystem, htimes⟩ :=
        timesFromBus_singleScope answers (show UnitScope.system ≠ .both by decide)
      obtain ⟨user, huser, htimes'⟩ :=
        timesFromBus_singleScope answers (show UnitScope.user ≠ .both by decide)
      have hrun := h.symm.trans (under_bothScopes "timer units" TimerStatus.unit hsystem huser)
      have hrows := eq_of_combineScopeRowsByKey (Outcome.done.inj hrun).symm
      intro timer htimer
      rw [hrows] at htimer
      rcases List.mem_append.mp (List.mem_mergeSort.mp htimer) with hleft | hright
      · exact htimes timer hleft
      · exact htimes' timer hright

end Rows

/-! ## Rows of `list_timers` -/

section Items

variable [Chrono]

theorem mem_timerRows {normalized : NormalizedTimersQuery} {timers : List TimerStatus}
    {now : DateTime} {item : TimerItem} (h : item ∈ (timerRows normalized timers now).rows) :
    ∃ timer ∈ timers, item = buildTimerItem timer now normalized.includePersistent := by
  rw [timerItems_eq] at h
  obtain ⟨timer, htimer, rfl⟩ := List.mem_map.mp (List.mem_mergeSort.mp (List.mem_of_mem_take h))
  exact ⟨timer, List.mem_of_mem_filter htimer, rfl⟩

/-- **When timestamps survive being written and read**: a timestamp is read back as its last whole
millisecond, written timestamps are read back in their order, and a row of `list_timers` shows a
time together with its seconds, each exactly when no year is far. -/
theorem timestamps_survive_iff [ReadsRfc3339] :
    (∀ timestampUsec, Survives timestampUsec ↔ ¬ FarYear timestampUsec)
    ∧ (∀ u v text text', u ≤ v → formatSystemdTimestampUsec u = some text →
        formatSystemdTimestampUsec v = some text' →
        ((∃ d e, parseRfc3339Utc (some text) = some d ∧ parseRfc3339Utc (some text') = some e
            ∧ d ≤ e)
          ↔ ¬ FarYear v))
    ∧ ∀ (answers : Snapshot) (normalized : NormalizedTimersQuery) (now : DateTime)
        (timers : List TimerStatus),
        (listTimerUnits normalized.scope).run.under answers = .done (.ok timers) →
        ∀ item ∈ (timerRows normalized timers now).rows,
          ∃ next last, ReadFromBus answers item.unit next last
            ∧ item.nextRunUtc = next.bind formatSystemdTimestampUsec
            ∧ item.lastRunUtc = last.bind formatSystemdTimestampUsec
            ∧ ((item.nextRunUtc.isSome = true ↔ item.timeUntilNextSec.isSome = true)
              ↔ ∀ timestampUsec, next = some timestampUsec → ¬ FarYear timestampUsec)
            ∧ ((item.lastRunUtc.isSome = true ↔ item.timeSinceLastSec.isSome = true)
              ↔ ∀ timestampUsec, last = some timestampUsec → ¬ FarYear timestampUsec) := by
  refine ⟨survives_iff, ?_, ?_⟩
  · intro u v text text' h htext htext'
    exact order_survives_iff h htext htext'
  · intro answers normalized now timers hlisted item hitem
    obtain ⟨timer, htimer, rfl⟩ := mem_timerRows hitem
    obtain ⟨next, last, hread, hnext, hlast⟩ := timesFromBus_listTimerUnits hlisted timer htimer
    refine ⟨next, last, hread, hnext, hlast, ?_, ?_⟩
    · rw [buildTimerItem, Option.isSome_map, hnext]
      exact known_together_iff next
    · rw [buildTimerItem, Option.isSome_map, hlast]
      exact known_together_iff last

end Items

/-! ## A timer that runs next in the year 10000 -/

def backupUnit : RawUnit where
  name := "backup.timer"
  description := "Backup"
  loadState := "loaded"
  activeState := "active"
  subState := "waiting"
  unitPath := "/backup"

/-- That timer alone under every manager, with the microseconds of its next run and its last. -/
def oneTimer (next last : Nat) : Snapshot
  | .listUnits _ => .ok [backupUnit]
  | .property _ _ _ name .u64 => .ok (if name = "NextElapseUSecRealtime" then next else last)
  | o => oneService (.ok 7) o

def backupTimer [Chrono] (next last : Nat) : TimerStatus where
  unit := "backup.timer"
  scope := "system"
  loadState := "loaded"
  activeState := "active"
  subState := "waiting"
  unitFileState := some "enabled"
  nextRunUtc := formatSystemdTimestampUsec next
  lastRunUtc := formatSystemdTimestampUsec last
  triggerUnit := some "backup.service"
  persistent := some true
  result := some "success"

theorem oneTimer_listed [Chrono] (next last : Nat) :
    (listTimerUnits .system).run.under (oneTimer next last)
      = .done (.ok [backupTimer next last]) := by
  obtain ⟨answer, hanswer, hfound⟩ := finds_listTimerUnitsForSingleScope (oneTimer next last)
    (show UnitScope.system ≠ .both by decide)
  have hunits : managerUnits (oneTimer next last) .system = some [backupUnit] := rfl
  have hnodup : ([backupUnit].map RawUnit.name).Nodup := List.nodup_singleton _
  have hperm : (timerListing (oneTimer next last) .system [backupUnit]).Perm
      [backupTimer next last] := (timerListing_spec .system hnodup).1
  rw [hunits, Option.map_some, List.perm_singleton.mp hperm] at hfound
  cases answer with
  | error err => cases hfound
  | ok timers =>
      cases hfound
      exact hanswer

/-- A call for all timers of the system, by name. -/
def allTimers : NormalizedTimersQuery where
  scope := .system
  limit := 200
  timerState := none
  nameContains := none
  summaryEnabled := false
  includePersistent := false
  overdueOnly := false
  sort := "name"
  order := "asc"

theorem timerRows_allTimers [Chrono] (timer : TimerStatus) (now : DateTime) :
    (timerRows allTimers [timer] now).rows = [buildTimerItem timer now false] := by
  rw [timerItems_eq]
  exact congrArg (List.take 200) (List.mergeSort_singleton _)

/-- Last run in the last second of 9999, next in the first of 10000. -/
theorem timestamps_survive_iff_backup :
    let rows := (@timerRows rfc3339 allTimers
      [@backupTimer rfc3339 253402300800000000 253402300799000000] (.ofSecs 1767225600)).rows
    @Survives rfc3339 253402300799000000
    ∧ (@listTimerUnits rfc3339 .system).run.under (oneTimer 253402300800000000 253402300799000000)
      = .done (.ok [@backupTimer rfc3339 253402300800000000 253402300799000000])
    ∧ ∃ item ∈ rows, ∃ next last,
      ReadFromBus (oneTimer 253402300800000000 253402300799000000) item.unit next last
      ∧ item.nextRunUtc = next.bind (@formatSystemdTimestampUsec rfc3339)
      ∧ item.lastRunUtc = last.bind (@formatSystemdTimestampUsec rfc3339)
      ∧ ((item.nextRunUtc.isSome = true ↔ item.timeUntilNextSec.isSome = true)
        ↔ ∀ timestampUsec, next = some timestampUsec → ¬ FarYear timestampUsec)
      ∧ ((item.lastRunUtc.isSome = true ↔ item.timeSinceLastSec.isSome = true)
        ↔ ∀ timestampUsec, last = some timestampUsec → ¬ FarYear timestampUsec) := by
  have hlisted := @oneTimer_listed rfc3339 253402300800000000 253402300799000000
  have hrows := @timerRows_allTimers rfc3339
    (@backupTimer rfc3339 253402300800000000 253402300799000000) (.ofSecs 1767225600)
  have hitem := hrows ▸ List.mem_singleton_self _
  exact ⟨((@timestamps_survive_iff rfc3339 reads_rfc3339).1 _).mpr (by decide), hlisted, _, hitem,
    (@timestamps_survive_iff rfc3339 reads_rfc3339).2.2 _ allTimers _ _ hlisted _ hitem⟩

/-- The first instant of the year 10000 is written, but not as RFC 3339: a timer that runs next
then shows the time without the seconds. -/
theorem year10000_not_read :
    @formatSystemdTimestampUsec rfc3339 253402300800000000 = some "+10000-01-01T00:00:00.000Z"
    ∧ @parseRfc3339Utc rfc3339 (some "+10000-01-01T00:00:00.000Z") = none
    ∧ ¬ @Survives rfc3339 253402300800000000
    ∧ ∃ timers item,
      (@listTimerUnits rfc3339 .system).run.under (oneTimer 253402300800000000 0)
        = .done (.ok timers)
      ∧ item ∈ (@timerRows rfc3339 allTimers timers (.ofSecs 1767225600)).rows
      ∧ item.nextRunUtc = some "+10000-01-01T00:00:00.000Z" ∧ item.timeUntilNextSec = none := by
  have hwritten : @formatSystemdTimestampUsec rfc3339 253402300800000000
      = some "+10000-01-01T00:00:00.000Z" := by decide +kernel
  have hread : @parseRfc3339Utc rfc3339 (some "+10000-01-01T00:00:00.000Z") = none := by
    decide +kernel
  have hrows := @timerRows_allTimers rfc3339 (@backupTimer rfc3339 253402300800000000 0)
    (.ofSecs 1767225600)
  refine ⟨hwritten, hread, ?_, _, _, @oneTimer_listed rfc3339 253402300800000000 0,
    hrows ▸ List.mem_singleton_self _, hwritten, ?_⟩
  · intro hsurvives
    have hsome := hsurvives _ hwritten
    rw [hread] at hsome
    cases hsome
  · show Option.map (fun next => numSeconds (next.sub (.ofSecs 1767225600)))
      (@parseRfc3339Utc rfc3339 (@formatSystemdTimestampUsec rfc3339 253402300800000000)) = none
    rw [hwritten, hread, Option.map_none]

end SystemdMonitoring
