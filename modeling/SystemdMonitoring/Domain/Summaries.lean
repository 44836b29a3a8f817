/-
# `SystemdMonitoring.Domain.Summaries` — what the triage summaries count

Both summaries count by name in one pass (`tally`).  The counts are the
histogram of the names in the order of names (`tally_spec`), so they add up, and
how the rows are arranged does not matter.

The services summary lists ten failed units at most and then words its hint
from the list: with more failed services than that the hint says ten
(`summaryAgrees_iff`).

The logs summary goes through hash maps, but all its orders are linear on
counts, and what it cuts is the front of a ranking (`logSummary_exact`).  Its
hotspots count the entries whose priority is a numeral of at most 3
(`isErrorEntry_iff`).
-/
import SystemdMonitoring.Domain.Tools.Logs
import SystemdMonitoring.Domain.Tools.Services
import SystemdMonitoring.Lib.Counting
import SystemdMonitoring.Lib.TextParts
import SystemdMonitoring.Systemd.Listings

namespace SystemdMonitoring

open Lib Lib.Text

/-! ## Counting by name -/

theorem mem_bump {name : String} {counts : List (String × Nat)}
    (hsorted : counts.Pairwise (fun left right => left.1 < right.1)) {entry : String × Nat} :
    entry ∈ bump name counts
      ↔ entry = (name, (counts.lookup name).getD 0 + 1) ∨ (entry ∈ counts ∧ entry.1 ≠ name) := by
  induction counts with
  | nil => simp [bump]
  | cons first rest ih =>
      obtain ⟨other, count⟩ := first
      obtain ⟨hfirst, hrest⟩ := List.pairwise_cons.mp hsorted
      have hlater : ∀ entry ∈ rest, name ≤ other → entry.1 ≠ name := by
        rintro entry hentry hle rfl
        exact absurd (hfirst entry hentry) (not_lt.mpr hle)
      rw [bump]
      split
      case isTrue heq =>
        subst heq
        have hkept : entry ∈ rest ↔ entry ∈ (name, count) :: rest ∧ entry.1 ≠ name := by
          rw [List.mem_cons]
          constructor
          · intro hentry
            exact ⟨.inr hentry, hlater entry hentry le_rfl⟩
          · rintro ⟨rfl | hentry, hne⟩
            · exact absurd rfl hne
            · exact hentry
        rw [List.mem_cons, List.lookup_cons, beq_self_eq_true, hkept]
        rfl
      case isFalse hne =>
        split
        case isTrue hlt =>
          have hall : ∀ entry ∈ (other, count) :: rest, entry.1 ≠ name := by
            intro entry hentry
            rcases List.mem_cons.mp hentry with rfl | hentry
            · exact hlt.ne'
            · exact hlater entry hentry hlt.le
          have hnone : ((other, count) :: rest).lookup name = none := by
            rw [List.lookup_eq_none_iff]
            intro entry hentry
            exact bne_iff_ne.mpr (hall entry hentry).symm
          rw [hnone, List.mem_cons]
          exact or_congr_right (and_iff_left_of_imp (hall entry)).symm
        case isFalse =>
          rw [List.mem_cons, ih hrest, List.lookup_cons, beq_false_of_ne hne, List.mem_cons]
          constructor
          · rintro (rfl | heq | ⟨hentry, hname⟩)
            · exact .inr ⟨.inl rfl, Ne.symm hne⟩
            · exact .inl heq
            · exact .inr ⟨.inr hentry, hname⟩
          · rintro (heq | ⟨rfl | hentry, hname⟩)
            · exact .inr (.inl heq)
            · exact .inl rfl
            · exact .inr (.inr ⟨hentry, hname⟩)

theorem pairwise_bump {name : String} {counts : List (String × Nat)}
    (hsorted : counts.Pairwise (fun left right => left.1 < right.1)) :
    (bump name counts).Pairwise (fun left right => left.1 < right.1) := by
  induction counts with
  | nil => exact List.pairwise_singleton _ _
  | cons first rest ih =>
      obtain ⟨other, count⟩ := first
      obtain ⟨hfirst, hrest⟩ := List.pairwise_cons.mp hsorted
      rw [bump]
      split
      case isTrue => exact List.pairwise_cons.mpr ⟨hfirst, hrest⟩
      case isFalse hne =>
        split
        case isTrue hlt =>
          refine List.pairwise_cons.mpr ⟨?_, hsorted⟩
          intro entry hentry
          rcases List.mem_cons.mp hentry with rfl | hentry
          · exact hlt
          · exact hlt.trans (hfirst entry hentry)
        case isFalse hnlt =>
          refine List.pairwise_cons.mpr ⟨?_, ih hrest⟩
          intro entry hentry
          rcases (mem_bump hrest).mp hentry with rfl | ⟨hentry, -⟩
          · exact lt_of_le_of_ne (not_lt.mp hnlt) (Ne.symm hne)
          · exact hfirst entry hentry

/-- In strict order of names, and exact. -/
structure Tallies (names : List String) (counts : List (String × Nat)) : Prop where
  sorted : counts.Pairwise (fun left right => left.1 < right.1)
  mem : ∀ entry, entry ∈ counts ↔ entry.1 ∈ names ∧ entry.2 = names.count entry.1

theorem Tallies.nodup_keys {names : List String} {counts : List (String × Nat)}
    (h : Tallies names counts) : (counts.map Prod.fst).Nodup :=
  (List.pairwise_map.mpr h.sorted).imp ne_of_lt

theorem Tallies.lookup {names : List String} {counts : List (String × Nat)}
    (h : Tallies names counts) (name : String) :
    (counts.lookup name).getD 0 = names.count name := by
  by_cases hname : name ∈ names
  · rw [lookup_of_mem h.nodup_keys ((h.mem (name, names.count name)).mpr ⟨hname, rfl⟩)]
    rfl
  · have hnone : counts.lookup name = none := by
      rw [List.lookup_eq_none_iff]
      intro entry hentry
      rw [bne_iff_ne]
      rintro rfl
      exact hname ((h.mem entry).mp hentry).1
    rw [hnone, List.count_eq_zero_of_not_mem hname]
    rfl

/-- One name more. -/
theorem Tallies.bump {names : List String} {counts : List (String × Nat)}
    (h : Tallies names counts) (name : String) : Tallies (name :: names) (bump name counts) := by
  refine ⟨pairwise_bump h.sorted, ?_⟩
  rintro ⟨other, count⟩
  rw [mem_bump h.sorted, h.mem, h.lookup, Prod.mk.injEq, List.mem_cons, List.count_cons]
  dsimp only
  by_cases hother : other = name
  · subst hother
    simp
  · simp [hother, Ne.symm hother]

theorem tally_spec (names : List String) : Tallies names (tally names) := by
  have hreverse : ∀ names : List String, Tallies names (names.foldr bump []) := by
    intro names
    induction names with
    | nil => exact ⟨.nil, fun entry => by simp⟩
    | cons name names ih => exact ih.bump name
  have h := hreverse names.reverse
  rw [List.foldr_reverse] at h
  refine ⟨h.sorted, ?_⟩
  intro entry
  have hmem := h.mem entry
  rwa [List.mem_reverse, List.count_reverse] at hmem

theorem tally_perm_histogram (names : List String) : (tally names).Perm (histogram names) :=
  perm_histogram (tally_spec names).nodup_keys.of_map (tally_spec names).mem

/-- A tally forgets the arrangement. -/
theorem tally_congr {names names' : List String} (h : names.Perm names') :
    tally names = tally names' := by
  refine eq_of_pairwise_lt (tally_spec names).sorted (tally_spec names').sorted ?_
  intro entry
  rw [(tally_spec names).mem, (tally_spec names').mem, h.mem_iff, h.count_eq]

/-! ## Services -/

/-- How the hint words a number. -/
def failedHint (count : Nat) : String :=
  s!"Detected {count} failed service(s); review failed_units for triage"

theorem failedHint_injective : Function.Injective failedHint := by
  intro m n h
  have hchars := congrArg String.toList h
  simp only [failedHint, String.toList_append] at hchars
  have hdigits : (toString m).toList = (toString n).toList :=
    List.append_cancel_left (List.append_cancel_right hchars)
  have hrepr : Nat.toDigits 10 m = Nat.toDigits 10 n := by simpa using hdigits
  rw [← @Nat.ofDigitChars_ten_toDigits m, hrepr, Nat.ofDigitChars_ten_toDigits]

def failedServices (services : List UnitStatus) : List UnitStatus :=
  services.filter (fun service => eqIgnoreAsciiCase service.activeState "failed")

/-- What the summary lists of a failed service. -/
def FailedUnitSummary.ofStatus (service : UnitStatus) : FailedUnitSummary where
  unit := service.unit
  subState := service.subState
  result := service.result
  sinceUtc := service.sinceUtc

/-- The counts add up, those of failed services to their number, and ten of these at most are
listed in the order of units. -/
structure SummaryCounts (services : List UnitStatus) (summary : ServiceSummary) : Prop where
  total : (summary.countsByActiveState.map Prod.snd).sum = services.length
  failed : ((summary.countsByActiveState.filter
    (fun entry => eqIgnoreAsciiCase entry.1 "failed")).map Prod.snd).sum
      = (failedServices services).length
  listed : Leading (fun left right => left.unit ≤ right.unit) 10
    ((failedServices services).map FailedUnitSummary.ofStatus) summary.failedUnits
  quiet : summary.degradedHint = none ↔ (failedServices services).length = 0

/-- The hint states the number of failed services as well. -/
structure SummaryAgrees (services : List UnitStatus) (summary : ServiceSummary) : Prop
    extends SummaryCounts services summary where
  stated : ∀ hint, summary.degradedHint = some hint →
    hint = failedHint (failedServices services).length

/-- What the hint states. -/
theorem degradedHint_eq (services : List UnitStatus) :
    (buildServiceSummary services).degradedHint
      = if (failedServices services).length = 0 then none
        else some (failedHint (min 10 (failedServices services).length)) := by
  have hlength : (buildServiceSummary services).failedUnits.length
      = min 10 (failedServices services).length := by
    rw [buildServiceSummary, List.length_take, List.length_mergeSort, List.length_map]
    rfl
  have hempty : (buildServiceSummary services).failedUnits = []
      ↔ (failedServices services).length = 0 := by
    rw [← List.length_eq_zero_iff, hlength]
    omega
  have hhint : (buildServiceSummary services).degradedHint
      = if (buildServiceSummary services).failedUnits = [] then none
        else some (failedHint (buildServiceSummary services).failedUnits.length) := rfl
  rw [hhint, hlength]
  exact if_congr hempty rfl rfl

theorem summaryCounts (services : List UnitStatus) :
    SummaryCounts services (buildServiceSummary services) where
  total := by
    have hsum := ((tally_perm_histogram (services.map UnitStatus.activeState)).map Prod.snd).sum_eq
    rwa [sum_histogram, List.length_map] at hsum
  failed := by
    have hsum := (((tally_perm_histogram (services.map UnitStatus.activeState)).filter
      (fun entry => eqIgnoreAsciiCase entry.1 "failed")).map Prod.snd).sum_eq
    rwa [sum_filter_histogram (fun state => eqIgnoreAsciiCase state "failed"), List.countP_map,
      List.countP_eq_length_filter] at hsum
  listed := leading_take (List.mergeSort_perm _ _) (pairwise_mergeSort_key FailedUnitSummary.unit _)
    10
  quiet := by
    rw [degradedHint_eq]
    split
    case isTrue hnone => exact iff_of_true rfl hnone
    case isFalse hsome => exact iff_of_false (Option.some_ne_none _) hsome

/-- **When the services summary agrees with itself**: the hint states the number of failed services
exactly when there are no more than are listed; all else always holds. -/
theorem summaryAgrees_iff (services : List UnitStatus) :
    SummaryCounts services (buildServiceSummary services)
      ∧ (SummaryAgrees services (buildServiceSummary services)
        ↔ (failedServices services).length ≤ 10) := by
  refine ⟨summaryCounts services, ?_⟩
  constructor
  · intro h
    by_contra hmore
    have hstated := h.stated _ ((degradedHint_eq services).trans (if_neg (by omega)))
    have hcount := failedHint_injective hstated
    omega
  · intro hfew
    refine ⟨summaryCounts services, ?_⟩
    intro hint hhint
    rw [degradedHint_eq, min_eq_right hfew] at hhint
    split at hhint
    · cases hhint
    · exact (Option.some.inj hhint).symm

/-- A worker that has failed. -/
def failedWorker (unit : String) : UnitStatus where
  unit := unit
  scope := "system"
  description := "Worker"
  loadState := "loaded"
  activeState := "failed"
  subState := "failed"
  unitFileState := none
  sinceUtc := none
  mainPid := none
  execMainStatus := none
  result := some "exit-code"

def elevenFailed : List UnitStatus :=
  ["a", "b", "c", "d", "e", "f", "g", "h", "i", "j", "k"].map failedWorker

/-- Of eleven failed services the hint says that they are ten. -/
theorem elevenFailed_disagrees :
    ¬ SummaryAgrees elevenFailed (buildServiceSummary elevenFailed) := by
  intro h
  have hhint : (buildServiceSummary elevenFailed).degradedHint = some (failedHint 10) :=
    degradedHint_eq elevenFailed
  have hcount : (failedServices elevenFailed).length = 11 := rfl
  have hstated := h.stated _ hhint
  rw [hcount] at hstated
  exact absurd hstated (by decide)

/-! ## Logs -/

theorem byCount_eq (counts : List (String × Nat)) : byCount counts = ranked counts := by
  have hle : ∀ left right : String × Nat,
      (if left.2 = right.2 then decide (left.1 ≤ right.1) else decide (right.2 < left.2))
        = decide (rank left ≤ rank right) := by
    intro left right
    rw [Bool.eq_iff_iff, decide_eq_true_eq, rank, rank, Prod.Lex.toLex_le_toLex,
      OrderDual.toDual_lt_toDual, OrderDual.toDual_inj]
    by_cases hcount : left.2 = right.2
    · simp [hcount]
    · simp [hcount]
  rw [byCount, ranked]
  exact congrArg (List.mergeSort counts ·) (funext fun left => funext fun right => hle left right)

theorem byName_congr {counts counts' : List (String × Nat)} (hperm : counts.Perm counts')
    (hkeys : (counts.map Prod.fst).Nodup) : byName counts = byName counts' := by
  refine eq_of_pairwise_lt (pairwise_lt_mergeSort_key hkeys)
    (pairwise_lt_mergeSort_key ((hperm.map Prod.fst).nodup_iff.mp hkeys)) ?_
  intro entry
  rw [byName, byName, List.mem_mergeSort, List.mem_mergeSort, hperm.mem_iff]

/-- An entry of priority at most 3: its priority is the decimal numeral of such a number.  No
bound of the code's type is needed beside it. -/
def JournalLogEntry.IsError (entry : JournalLogEntry) : Prop :=
  ∃ priority level, entry.priority = some priority ∧ IsDecimal priority level ∧ level ≤ 3

theorem isErrorEntry_iff {entry : JournalLogEntry} : isErrorEntry entry = true ↔ entry.IsError := by
  rw [isErrorEntry, Option.any_eq_true]
  constructor
  · rintro ⟨level, hparsed, hlevel⟩
    obtain ⟨priority, hpriority, hread⟩ := Option.bind_eq_some_iff.mp hparsed
    exact ⟨priority, level, hpriority, (parseUnsigned_eq_some_iff.mp hread).1,
      of_decide_eq_true hlevel⟩
  · rintro ⟨priority, level, hpriority, hdecimal, hlevel⟩
    refine ⟨level, Option.bind_eq_some_iff.mpr ⟨priority, hpriority, ?_⟩, decide_eq_true hlevel⟩
    exact parseUnsigned_eq_some_iff.mpr ⟨hdecimal, by omega⟩

instance : DecidablePred JournalLogEntry.IsError := fun _ => decidable_of_iff _ isErrorEntry_iff

/-- The error entries of a unit. -/
def errorCount (entries : List JournalLogEntry) (unit : String) : Nat :=
  entries.countP (fun entry => entry.IsError ∧ entry.unit = some unit)

/-- What the summary of a list of entries is: the greatest counts of units and of messages, all
counts of priorities, and the number of errors of every unit that has one. -/
structure LogSummaryExact (entries : List JournalLogEntry) (summary : LogSummary) : Prop where
  units : TopCounts 10 (entries.filterMap JournalLogEntry.unit) summary.countsByUnit
  messages : TopCounts 10 (entries.filterMap JournalLogEntry.message) summary.topMessages
  priorities : (summary.countsByPriority.map Prod.snd).sum = entries.length
    ∧ summary.countsByPriority.Perm
      (histogram (entries.map (fun entry => entry.priority.getD "unknown")))
  hotspots : ∀ unit count, (unit, count) ∈ summary.errorHotspots
    ↔ 0 < count ∧ count = errorCount entries unit
  unitsByName : summary.countsByUnit.Pairwise (fun left right => left.1 < right.1)
  prioritiesByName : summary.countsByPriority.Pairwise (fun left right => left.1 < right.1)
  messagesByCount : summary.topMessages.Pairwise Outranks
  hotspotsByCount : summary.errorHotspots.Pairwise Outranks

theorem count_errorUnits (entries : List JournalLogEntry) (unit : String) :
    ((entries.filter isErrorEntry).filterMap JournalLogEntry.unit).count unit
      = errorCount entries unit := by
  rw [List.count_filterMap, List.countP_filter, errorCount]
  refine List.countP_congr fun entry _ => ?_
  rw [Bool.and_eq_true, decide_eq_true_eq, beq_iff_eq, isErrorEntry_iff, and_comm]

theorem nodup_keys_of_perm {names : List String} {counts : List (String × Nat)}
    (h : counts.Perm (histogram names)) : (counts.map Prod.fst).Nodup := by
  rw [(h.map Prod.fst).nodup_iff, map_fst_histogram]
  exact names.nodup_dedup

theorem pairwise_byName {counts : List (String × Nat)} (hkeys : (counts.map Prod.fst).Nodup) :
    (byName counts).Pairwise (fun left right => left.1 < right.1) :=
  pairwise_lt_mergeSort_key hkeys

section Summary

variable [HashOrder]

theorem iterate_tally_perm (n : Nat) (names : List String) :
    (HashOrder.iterate n (tally names)).Perm (histogram names) :=
  (HashOrder.perm n (tally names)).trans (tally_perm_histogram names)

theorem buildLogSummary_exact (entries : List JournalLogEntry) :
    LogSummaryExact entries (buildLogSummary entries) := by
  have hunits := topCounts_take_ranked
    (iterate_tally_perm 0 (entries.filterMap JournalLogEntry.unit)) 10
  have hpriorities := iterate_tally_perm 1
    (entries.map (fun entry => entry.priority.getD "unknown"))
  have hmessages := iterate_tally_perm 2 (entries.filterMap JournalLogEntry.message)
  have hhotspots := iterate_tally_perm 3
    ((entries.filter isErrorEntry).filterMap JournalLogEntry.unit)
  have hnamed := (List.mergeSort_perm _ (fun left right => decide (left.1 ≤ right.1))).trans
    hpriorities
  rw [← byCount_eq] at hunits
  refine ⟨hunits.perm (List.mergeSort_perm _ _), ?_, ⟨?_, hnamed⟩, ?_,
    pairwise_byName (hunits.distinct), pairwise_byName (nodup_keys_of_perm hpriorities), ?_, ?_⟩
  · dsimp only [buildLogSummary]
    rw [byCount_eq]
    exact topCounts_take_ranked hmessages 10
  · have hsum := (hnamed.map Prod.snd).sum_eq
    rwa [sum_histogram, List.length_map] at hsum
  · intro unit count
    dsimp only [buildLogSummary]
    rw [byCount_eq, ((ranked_perm _).trans hhotspots).mem_iff, mem_histogram, count_errorUnits,
      ← List.count_pos_iff, count_errorUnits]
    dsimp only
    constructor
    · rintro ⟨hpos, rfl⟩
      exact ⟨hpos, rfl⟩
    · rintro ⟨hpos, rfl⟩
      exact ⟨hpos, rfl⟩
  · dsimp only [buildLogSummary]
    rw [byCount_eq]
    exact (pairwise_ranked (hmessages.nodup_iff.mpr (nodup_histogram _))).sublist
      (List.take_sublist _ _)
  · dsimp only [buildLogSummary]
    rw [byCount_eq]
    exact pairwise_ranked (hhotspots.nodup_iff.mpr (nodup_histogram _))

end Summary

/-- **The logs summary is an exact selection, and depends on the multiset of entries alone**:
whatever order the hash maps are iterated in, and however the entries are arranged. -/
theorem logSummary_exact (order : HashOrder) (entries : List JournalLogEntry) :
    LogSummaryExact entries (@buildLogSummary order entries)
      ∧ ∀ (order' : HashOrder) (entries' : List JournalLogEntry), entries.Perm entries' →
        @buildLogSummary order entries = @buildLogSummary order' entries' := by
  refine ⟨@buildLogSummary_exact order entries, ?_⟩
  intro order' entries' hperm
  have hiterate : ∀ n {names names' : List String}, names.Perm names' →
      (@HashOrder.iterate order n (tally names)).Perm
        (@HashOrder.iterate order' n (tally names')) := by
    intro n names names' hnames
    rw [tally_congr hnames]
    exact (@HashOrder.perm order n _).trans (@HashOrder.perm order' n _).symm
  have hcount : ∀ n {names names' : List String}, names.Perm names' →
      byCount (@HashOrder.iterate order n (tally names))
        = byCount (@HashOrder.iterate order' n (tally names')) := by
    intro n names names' hnames
    rw [byCount_eq, byCount_eq]
    exact ranked_congr (hiterate n hnames)
  have hunits := hcount 0 (hperm.filterMap JournalLogEntry.unit)
  have hmessages := hcount 2 (hperm.filterMap JournalLogEntry.message)
  have hhotspots := hcount 3 ((hperm.filter isErrorEntry).filterMap JournalLogEntry.unit)
  have hpriorities := byName_congr
    (hiterate 1 (hperm.map (fun entry => entry.priority.getD "unknown")))
    (nodup_keys_of_perm (@iterate_tally_perm order 1 _))
  simp only [buildLogSummary, hunits, hmessages, hhotspots, hpriorities]

/-- Maps that are iterated backwards. -/
@[reducible] def backwards : HashOrder where
  iterate := fun _ counts => counts.reverse
  perm := fun _ counts => List.reverse_perm counts

def summaryEntry (unit priority message : String) : JournalLogEntry where
  timestampUtc := "2026-01-01T00:00:01.000Z"
  unit := some unit
  priority := some priority
  hostname := none
  pid := none
  message := some message
  cursor := none

theorem logSummary_exact_swapped :
    LogSummaryExact [summaryEntry "db" "3" "lost", summaryEntry "web" "6" "up"]
        (@buildLogSummary nameOrder [summaryEntry "db" "3" "lost", summaryEntry "web" "6" "up"])
      ∧ @buildLogSummary nameOrder [summaryEntry "db" "3" "lost", summaryEntry "web" "6" "up"]
        = @buildLogSummary backwards
          [summaryEntry "web" "6" "up", summaryEntry "db" "3" "lost"] :=
  have h := logSummary_exact nameOrder [summaryEntry "db" "3" "lost", summaryEntry "web" "6" "up"]
  ⟨h.1, h.2 backwards _ (List.Perm.swap _ _ _)⟩

end SystemdMonitoring
