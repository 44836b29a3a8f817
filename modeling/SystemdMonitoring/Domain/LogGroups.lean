/-
# `SystemdMonitoring.Domain.LogGroups` — `group_by=message`

`group_entries` is a fold into groups by unit, priority and message, and thus a
partition of the page in the order of first occurrence (`groups_summarize`).
The first and the last timestamp of a group are found by comparing text.

Text is in the order of time as long as years have four digits.  A window may
end in a leap second of the last minute of the year 9999, and then admits
entries of the first second of the year 10000, whose text begins with a sign and
sorts before all others.  A group's timestamps are its earliest and its latest
exactly when no group has entries on both sides (`groupEntries_exact`).
-/
import SystemdMonitoring.Domain.Tools.Logs
import SystemdMonitoring.Lib.Grouping
import SystemdMonitoring.Lib.Rfc3339Order
import SystemdMonitoring.Systemd.FullScan

namespace SystemdMonitoring

open Lib Lib.Text

/-! ## Groups -/

/-- What rows are grouped by. -/
structure LogKey where
  unit : Option String
  priority : Option String
  message : Option String
  deriving DecidableEq, Repr

def JournalLogEntry.key (entry : JournalLogEntry) : LogKey :=
  ⟨entry.unit, entry.priority, entry.message⟩

def LogGroup.key (group : LogGroup) : LogKey := ⟨group.unit, group.priority, group.message⟩

/-- How `group_entries` makes groups. -/
def logGrouping (fields : List String) : Grouping JournalLogEntry LogGroup LogKey where
  key := JournalLogEntry.key
  groupKey := LogGroup.key
  new := fun entry => {
    unit := entry.unit
    priority := entry.priority
    message := entry.message
    count := 1
    firstTimestampUtc := entry.timestampUtc
    lastTimestampUtc := entry.timestampUtc
    row := projectEntry entry fields }
  add := fun group entry => { group with
    count := group.count + 1
    firstTimestampUtc :=
      if entry.timestampUtc < group.firstTimestampUtc then entry.timestampUtc
      else group.firstTimestampUtc
    lastTimestampUtc :=
      if group.lastTimestampUtc < entry.timestampUtc then entry.timestampUtc
      else group.lastTimestampUtc }
  groupKey_new := fun _ => rfl
  groupKey_add := fun _ _ => rfl

theorem groupEntry_eq_insert (fields : List String) (entry : JournalLogEntry)
    (groups : List LogGroup) :
    groupEntry fields entry groups = (logGrouping fields).insert entry groups := by
  induction groups with
  | nil => rfl
  | cons group groups ih =>
      have hkey : (logGrouping fields).groupKey group = (logGrouping fields).key entry
          ↔ group.unit = entry.unit ∧ group.priority = entry.priority
            ∧ group.message = entry.message := by
        show group.key = entry.key ↔ _
        rw [LogGroup.key, JournalLogEntry.key, LogKey.mk.injEq]
      rw [groupEntry, Grouping.insert, ih]
      exact if_congr hkey.symm rfl rfl

theorem groupEntries_eq (entries : List JournalLogEntry) (fields : List String) :
    groupEntries entries fields = ((logGrouping fields).grouped entries).map LogGroup.json := by
  have hinsert : (fun groups entry => groupEntry fields entry groups)
      = fun groups entry => (logGrouping fields).insert entry groups :=
    funext fun groups => funext fun entry => groupEntry_eq_insert fields entry groups
  rw [groupEntries, hinsert, Grouping.grouped]

/-- What a group says of the rows that it stands for. -/
structure Summarizes (fields : List String) (rows : List JournalLogEntry) (group : LogGroup) :
    Prop where
  projected : ∃ first, rows.head? = some first ∧ group.row = projectEntry first fields
  count : group.count = rows.length
  first_mem : group.firstTimestampUtc ∈ rows.map JournalLogEntry.timestampUtc
  first_le : ∀ row ∈ rows, group.firstTimestampUtc ≤ row.timestampUtc
  last_mem : group.lastTimestampUtc ∈ rows.map JournalLogEntry.timestampUtc
  le_last : ∀ row ∈ rows, row.timestampUtc ≤ group.lastTimestampUtc

theorem Summarizes.add {fields : List String} {rows : List JournalLogEntry} {group : LogGroup}
    (h : Summarizes fields rows group) (entry : JournalLogEntry) :
    Summarizes fields (rows ++ [entry]) ((logGrouping fields).add group entry) := by
  have hold : ∀ {text}, text ∈ rows.map JournalLogEntry.timestampUtc →
      text ∈ (rows ++ [entry]).map JournalLogEntry.timestampUtc := by
    intro text hmem
    rw [List.map_append]
    exact List.mem_append_left _ hmem
  have hnew : entry.timestampUtc ∈ (rows ++ [entry]).map JournalLogEntry.timestampUtc :=
    List.mem_map_of_mem (List.mem_append_right _ List.mem_cons_self)
  refine ⟨?_, ?_, ?_, ?_, ?_, ?_⟩
  · obtain ⟨first, hfirst, hrow⟩ := h.projected
    refine ⟨first, ?_, hrow⟩
    rw [List.head?_append, hfirst]
    rfl
  · rw [List.length_append, ← h.count]
    rfl
  · dsimp only [logGrouping]
    split
    · exact hnew
    · exact hold h.first_mem
  · intro row hrow
    dsimp only [logGrouping]
    rcases List.mem_append.mp hrow with hrow | hrow
    · split
      case isTrue hlt => exact hlt.le.trans (h.first_le row hrow)
      case isFalse => exact h.first_le row hrow
    · obtain rfl := List.mem_singleton.mp hrow
      split
      case isTrue => exact le_rfl
      case isFalse hle => exact not_lt.mp hle
  · dsimp only [logGrouping]
    split
    · exact hnew
    · exact hold h.last_mem
  · intro row hrow
    dsimp only [logGrouping]
    rcases List.mem_append.mp hrow with hrow | hrow
    · split
      case isTrue hlt => exact (h.le_last row hrow).trans hlt.le
      case isFalse => exact h.le_last row hrow
    · obtain rfl := List.mem_singleton.mp hrow
      split
      case isTrue => exact le_rfl
      case isFalse hle => exact not_lt.mp hle

theorem summarizes_groupOf {fields : List String} {rows : List JournalLogEntry} {group : LogGroup}
    (h : (logGrouping fields).groupOf rows = some group) : Summarizes fields rows group := by
  induction rows using List.reverseRecOn generalizing group with
  | nil => cases h
  | append_singleton rows entry ih =>
      cases hbefore : (logGrouping fields).groupOf rows with
      | some before =>
          rw [(logGrouping fields).groupOf_append hbefore entry] at h
          cases h
          exact (ih hbefore).add entry
      | none =>
          obtain rfl : rows = [] := List.head?_eq_none_iff.mp (Option.map_eq_none_iff.mp hbefore)
          cases h
          have hone : ∀ row ∈ [entry], row = entry := fun row hrow => List.mem_singleton.mp hrow
          refine ⟨⟨entry, rfl, rfl⟩, rfl, List.mem_cons_self, ?_, List.mem_cons_self, ?_⟩
          · intro row hrow
            exact (congrArg JournalLogEntry.timestampUtc (hone row hrow)).ge
          · intro row hrow
            exact (congrArg JournalLogEntry.timestampUtc (hone row hrow)).le

/-- The rows of a key. -/
def rowsOf (rows : List JournalLogEntry) (key : LogKey) : List JournalLogEntry :=
  rows.filter (fun row => row.key = key)

theorem sum_count_insert (fields : List String) (entry : JournalLogEntry)
    (groups : List LogGroup) :
    (((logGrouping fields).insert entry groups).map LogGroup.count).sum
      = (groups.map LogGroup.count).sum + 1 := by
  induction groups with
  | nil => rfl
  | cons group groups ih =>
      rw [Grouping.insert]
      split
      · rw [List.map_cons, List.map_cons, List.sum_cons, List.sum_cons]
        show group.count + 1 + _ = _
        omega
      · rw [List.map_cons, List.map_cons, List.sum_cons, List.sum_cons, ih]
        omega

/-- **The groups of a page**: one for every key, in the order of first occurrence, each with the
projection of its first row and the number of its rows. -/
structure GroupsOf (fields : List String) (rows : List JournalLogEntry) (groups : List LogGroup) :
    Prop where
  ordered : (groups.map LogGroup.key).Pairwise (fun key key' =>
    (rows.map JournalLogEntry.key).idxOf key < (rows.map JournalLogEntry.key).idxOf key')
  keys : ∀ key, key ∈ groups.map LogGroup.key ↔ key ∈ rows.map JournalLogEntry.key
  summarizes : ∀ group ∈ groups, Summarizes fields (rowsOf rows group.key) group
  total : (groups.map LogGroup.count).sum = rows.length

theorem groups_summarize (fields : List String) (rows : List JournalLogEntry) :
    GroupsOf fields rows ((logGrouping fields).grouped rows) := by
  have hpartition := (logGrouping fields).grouped_spec rows
  refine ⟨hpartition.ordered, hpartition.keys, ?_, ?_⟩
  · intro group hgroup
    exact summarizes_groupOf (hpartition.made group hgroup)
  · induction rows using List.reverseRecOn with
    | nil => rfl
    | append_singleton rows entry ih =>
        rw [Grouping.grouped, List.foldl_append, List.length_append]
        have hlast := sum_count_insert fields entry ((logGrouping fields).grouped rows)
        rw [ih ((logGrouping fields).grouped_spec rows)] at hlast
        exact hlast

/-! ## Where the rows come from -/

/-- The time of an entry. -/
def JournalEntry.instant (entry : JournalEntry) : DateTime :=
  .ofNanos ((entry.timestampUsec : Int) * 1000)

section Source

variable [Chrono] [RegexEngine]

/-- The entries that the rows of a page have been made of, one for each. -/
structure SourceOf (journal : Journal) (query : LogQuery) (rows : List JournalLogEntry)
    (source : List JournalEntry) : Prop where
  entries : ∀ entry ∈ source, entry ∈ journal.entries
  rows : source.map (journal.row query) = rows.map some

theorem scan_source {journal : Journal} {query : LogQuery} {start finish : DateTime}
    {matcher : Option GrepMatcher} (hready : Ready query start finish matcher)
    {entries : List JournalEntry} {rows : List JournalLogEntry} {scanned : Nat}
    {found : List JournalLogEntry} {total : Nat}
    (h : scan journal query matcher start.timestampMicros finish.timestampMicros entries rows
      scanned = .ok (found, total)) :
    ∃ (source : List JournalEntry) (added : List JournalLogEntry), source.Sublist entries
      ∧ found = rows ++ added ∧ source.map (journal.row query) = added.map some := by
  have hstop : ∀ (entries : List JournalEntry) (rows : List JournalLogEntry),
      ∃ (source : List JournalEntry) (added : List JournalLogEntry), source.Sublist entries
        ∧ rows = rows ++ added ∧ source.map (journal.row query) = added.map some :=
    fun entries rows => ⟨[], [], List.nil_sublist entries, (List.append_nil rows).symm, rfl⟩
  induction entries generalizing rows scanned with
  | nil =>
      rw [scan] at h
      split at h
      · cases h
        exact hstop _ _
      · obtain ⟨-, -, h⟩ := bind_eq_ok.mp h
        cases h
        exact hstop _ _
  | cons entry rest ih =>
      by_cases hfull : query.limit < rows.length
      · rw [scan, if_pos hfull] at h
        cases h
        exact hstop _ _
      · rcases scan_cons_of_ok hready hfull h with ⟨-, hpast⟩ | ⟨-, hrest⟩
        · cases hpast
          exact hstop _ _
        · obtain ⟨source, added, hsub, rfl, hrows⟩ := ih hrest
          cases hrow : journal.row query entry with
          | none =>
              rw [Option.toList_none, List.append_nil]
              exact ⟨source, added, hsub.cons entry, rfl, hrows⟩
          | some row =>
              refine ⟨entry :: source, row :: added, hsub.cons_cons entry, ?_, ?_⟩
              · rw [Option.toList_some, List.append_assoc, List.singleton_append]
              · rw [List.map_cons, List.map_cons, hrow, hrows]

/-- **Every row of a page has an entry of the journal behind it.** -/
theorem source_of_readJournalLogs {query : LogQuery} {start finish : DateTime}
    (hvalid : query.Valid start finish) (hyears : finish.InYears)
    {opened : Except String Journal} {result : LogQueryResult}
    (hread : readJournalLogs opened query = .ok result) :
    ∃ journal source matcher, opened = .ok journal ∧ Ready query start finish matcher
      ∧ SourceOf journal query result.entries source := by
  rw [readJournalLogs, bind_eq_ok] at hread
  obtain ⟨journal, hopened, hread⟩ := hread
  obtain ⟨matcher, hgrep, hread⟩ := bind_eq_ok.mp hread
  have hready : Ready query start finish matcher := ⟨hvalid.startUtc, hvalid.endUtc, hyears, hgrep⟩
  rw [hvalid.startUtc, hvalid.endUtc] at hread
  dsimp only at hread
  obtain ⟨position, -, hread⟩ := bind_eq_ok.mp hread
  obtain ⟨⟨found, total⟩, hscan, hresult⟩ := bind_eq_ok.mp hread
  cases hresult
  obtain ⟨source, added, hsub, rfl, hrows⟩ := scan_source hready hscan
  refine ⟨journal, source.take query.limit, matcher, mapError_eq_ok_iff.mp hopened, hready, ?_, ?_⟩
  · intro entry hentry
    have hahead := hsub.subset (List.mem_of_mem_take hentry)
    have hordered := (ahead_sublist query.order position journal.entries).subset hahead
    revert hordered
    cases query.order with
    | asc => exact id
    | desc => exact List.mem_reverse.mp
  · rw [List.map_take, hrows]
    exact List.map_take.symm

/-- What a row says of the time of its entry, which lies in the window. -/
theorem timestampUtc_of_row {journal : Journal} {query : LogQuery} {start finish : DateTime}
    {matcher : Option GrepMatcher} (hready : Ready query start finish matcher)
    {entry : JournalEntry} {row : JournalLogEntry} (h : journal.row query entry = some row) :
    row.timestampUtc = Chrono.toRfc3339Millis entry.instant
      ∧ (entry.timestampUsec : Int) ≤ finish.timestampMicros := by
  rw [Journal.row, hready.row_eq] at h
  obtain ⟨chained, hwindow, rfl⟩ := Option.map_eq_some_iff.mp h
  obtain ⟨⟨-, hle⟩, hchain⟩ := windowRow_eq_some_iff.mp hwindow
  refine ⟨?_, hle⟩
  obtain ⟨timestamp, message, htimestamp, -, htext, -, -⟩ := row_of_entryRow hchain
  rw [DateTime.fromTimestampMicros] at htimestamp
  split at htimestamp
  · cases htimestamp
    exact htext
  · cases htimestamp

end Source

/-! ## Time and text -/

theorem inYears_instant_iff (entry : JournalEntry) :
    entry.instant.InYears ↔ entry.timestampUsec < year10000 :=
  inYears_ofMicros_iff entry.timestampUsec

/-- A window that has been validated ends in the first second of the year 10000 at the latest. -/
theorem timestampMicros_lt_of_inYears {finish : DateTime} (h : finish.InYears) :
    finish.timestampMicros < (year10000 : Int) + 1000000 := by
  have hfrac := finish.frac_lt
  rw [DateTime.InYears] at h
  simp only [DateTime.timestampMicros, DateTime.nanos, DateTime.secondNanos, year10000]
  omega

section Texts

variable [Chrono] [WritesRfc3339]

theorem format_instant_lt {entry later : JournalEntry}
    (hside : entry.timestampUsec < year10000 ∧ later.timestampUsec < year10000
      ∨ year10000 ≤ entry.timestampUsec ∧ later.timestampUsec < year10000 + 1000000)
    (h : entry.timestampUsec / 1000 < later.timestampUsec / 1000) :
    Chrono.toRfc3339Millis entry.instant < Chrono.toRfc3339Millis later.instant := by
  rw [WritesRfc3339.toRfc3339Millis_eq, WritesRfc3339.toRfc3339Millis_eq]
  refine Rfc3339.format_lt (DateTime.isLeap_ofNanos _) (DateTime.isLeap_ofNanos _) ?_ ?_
  · rcases hside with ⟨hentry, hlater⟩ | ⟨hentry, hlater⟩
    · exact .inr ⟨(inYears_instant_iff entry).mpr hentry, (inYears_instant_iff later).mpr hlater⟩
    · left
      simp only [JournalEntry.instant, DateTime.ofNanos, DateTime.secondNanos, year10000] at *
      omega
  · rw [JournalEntry.instant, JournalEntry.instant, DateTime.truncMillis_ofNanos,
      DateTime.truncMillis_ofNanos, DateTime.lt_iff]
    simp only [DateTime.ofNanos, DateTime.secondNanos]
    omega

theorem format_instant_far_lt {entry later : JournalEntry} (h : entry.timestampUsec < year10000)
    (h' : year10000 ≤ later.timestampUsec) :
    Chrono.toRfc3339Millis later.instant < Chrono.toRfc3339Millis entry.instant := by
  rw [WritesRfc3339.toRfc3339Millis_eq, WritesRfc3339.toRfc3339Millis_eq]
  refine Rfc3339.format_far_lt ((inYears_instant_iff entry).mpr h) ?_
  rw [inYears_instant_iff]
  exact not_lt.mpr h'

end Texts

section Chronology

variable [Chrono] [RegexEngine]

/-- The entries behind the rows of a key. -/
def membersOf (journal : Journal) (query : LogQuery) (source : List JournalEntry) (key : LogKey) :
    List JournalEntry :=
  source.filter (fun entry => (journal.row query entry).map JournalLogEntry.key = some key)

/-- The group's timestamps are those of its earliest and its latest entry, in whole
milliseconds. -/
structure Chronological (journal : Journal) (query : LogQuery) (source : List JournalEntry)
    (group : LogGroup) : Prop where
  first : ∃ earliest ∈ membersOf journal query source group.key,
    group.firstTimestampUtc = Chrono.toRfc3339Millis earliest.instant
    ∧ ∀ entry ∈ membersOf journal query source group.key,
      earliest.timestampUsec / 1000 ≤ entry.timestampUsec / 1000
  last : ∃ latest ∈ membersOf journal query source group.key,
    group.lastTimestampUtc = Chrono.toRfc3339Millis latest.instant
    ∧ ∀ entry ∈ membersOf journal query source group.key,
      entry.timestampUsec / 1000 ≤ latest.timestampUsec / 1000

/-- Some group has entries before the year 10000 and entries in it. -/
def SplitBy10000 (journal : Journal) (query : LogQuery) (source : List JournalEntry) : Prop :=
  ∃ key, ∃ entry ∈ membersOf journal query source key,
    ∃ later ∈ membersOf journal query source key,
      entry.timestampUsec < year10000 ∧ year10000 ≤ later.timestampUsec

/-- What a group's rows say is what the entries behind them say. -/
theorem mem_rowsOf_iff {journal : Journal} {query : LogQuery} {rows : List JournalLogEntry}
    {source : List JournalEntry} (h : SourceOf journal query rows source) {key : LogKey}
    {row : JournalLogEntry} :
    row ∈ rowsOf rows key
      ↔ ∃ entry ∈ membersOf journal query source key, journal.row query entry = some row := by
  have hsome : row ∈ rows ↔ ∃ entry ∈ source, journal.row query entry = some row := by
    rw [← List.mem_map_of_injective (Option.some_injective _), ← h.rows, List.mem_map]
  rw [rowsOf, List.mem_filter, hsome, decide_eq_true_eq]
  constructor
  · rintro ⟨⟨entry, hentry, hrow⟩, hkey⟩
    refine ⟨entry, List.mem_filter.mpr ⟨hentry, ?_⟩, hrow⟩
    rw [hrow, Option.map_some, hkey, decide_eq_true_eq]
  · rintro ⟨entry, hentry, hrow⟩
    obtain ⟨hsource, hkey⟩ := List.mem_filter.mp hentry
    rw [hrow, Option.map_some, decide_eq_true_eq, Option.some.injEq] at hkey
    exact ⟨⟨entry, hsource, hrow⟩, hkey⟩

/-- Every entry behind a group has a row in it. -/
theorem row_of_mem_membersOf {journal : Journal} {query : LogQuery} {source : List JournalEntry}
    {key : LogKey} {entry : JournalEntry} (h : entry ∈ membersOf journal query source key) :
    ∃ row, journal.row query entry = some row ∧ row.key = key := by
  have hkey := of_decide_eq_true (List.mem_filter.mp h).2
  obtain ⟨row, hrow, hkey⟩ := Option.map_eq_some_iff.mp hkey
  exact ⟨row, hrow, hkey⟩

/-- The least and the greatest text of a group are texts of its entries. -/
theorem texts_of_summarizes {journal : Journal} {query : LogQuery} {start finish : DateTime}
    {matcher : Option GrepMatcher} (hready : Ready query start finish matcher)
    {rows : List JournalLogEntry} {source : List JournalEntry}
    (hsource : SourceOf journal query rows source) {fields : List String} {group : LogGroup}
    (hgroup : Summarizes fields (rowsOf rows group.key) group) :
    (∃ entry ∈ membersOf journal query source group.key,
        group.firstTimestampUtc = Chrono.toRfc3339Millis entry.instant)
      ∧ (∃ entry ∈ membersOf journal query source group.key,
        group.lastTimestampUtc = Chrono.toRfc3339Millis entry.instant)
      ∧ ∀ entry ∈ membersOf journal query source group.key,
        group.firstTimestampUtc ≤ Chrono.toRfc3339Millis entry.instant
          ∧ Chrono.toRfc3339Millis entry.instant ≤ group.lastTimestampUtc := by
  have htext : ∀ {text}, text ∈ (rowsOf rows group.key).map JournalLogEntry.timestampUtc →
      ∃ entry ∈ membersOf journal query source group.key,
        text = Chrono.toRfc3339Millis entry.instant := by
    intro text hmem
    obtain ⟨row, hrow, rfl⟩ := List.mem_map.mp hmem
    obtain ⟨entry, hentry, hrow⟩ := (mem_rowsOf_iff hsource).mp hrow
    exact ⟨entry, hentry, (timestampUtc_of_row hready hrow).1⟩
  refine ⟨htext hgroup.first_mem, htext hgroup.last_mem, ?_⟩
  intro entry hentry
  obtain ⟨row, hrow, -⟩ := row_of_mem_membersOf hentry
  have hmem := (mem_rowsOf_iff hsource).mpr ⟨entry, hentry, hrow⟩
  rw [← (timestampUtc_of_row hready hrow).1]
  exact ⟨hgroup.first_le row hmem, hgroup.le_last row hmem⟩

/-- **When the timestamps of all groups are chronological.** -/
theorem chronological_iff [WritesRfc3339] {journal : Journal} {query : LogQuery}
    {start finish : DateTime} {matcher : Option GrepMatcher}
    (hready : Ready query start finish matcher) {rows : List JournalLogEntry}
    {source : List JournalEntry} (hsource : SourceOf journal query rows source)
    {fields : List String} {groups : List LogGroup} (hgroups : GroupsOf fields rows groups) :
    (∀ group ∈ groups, Chronological journal query source group)
      ↔ ¬ SplitBy10000 journal query source := by
  constructor
  · rintro hchrono ⟨key, entry, hentry, later, hlater, hbefore, hafter⟩
    obtain ⟨row, hrow, hkey⟩ := row_of_mem_membersOf hentry
    have hmem : row ∈ rowsOf rows key := (mem_rowsOf_iff hsource).mpr ⟨entry, hentry, hrow⟩
    have hkeys : key ∈ rows.map JournalLogEntry.key := by
      rw [← hkey]
      exact List.mem_map_of_mem (List.mem_of_mem_filter hmem)
    obtain ⟨group, hgroup, rfl⟩ := List.mem_map.mp ((hgroups.keys key).mpr hkeys)
    obtain ⟨earliest, -, htext, hleast⟩ := (hchrono group hgroup).first
    have hearly : earliest.timestampUsec < year10000 := by
      have hle := hleast entry hentry
      rw [year10000] at *
      omega
    -- the text of the later entry comes before that of the earliest
    have hlt := format_instant_far_lt hearly hafter
    rw [← htext] at hlt
    have hle := ((texts_of_summarizes hready hsource
      (hgroups.summarizes group hgroup)).2.2 later hlater).1
    exact absurd hle (not_le.mpr hlt)
  · intro hone group hgroup
    obtain ⟨⟨earliest, hearliest, hfirst⟩, ⟨latest, hlatest, hlast⟩, hbounds⟩ :=
      texts_of_summarizes hready hsource (hgroups.summarizes group hgroup)
    have hend : ∀ entry ∈ membersOf journal query source group.key,
        entry.timestampUsec < year10000 + 1000000 := by
      intro entry hentry
      obtain ⟨row, hrow, -⟩ := row_of_mem_membersOf hentry
      have hle := (timestampUtc_of_row hready hrow).2
      have hlt := timestampMicros_lt_of_inYears hready.inYears
      omega
    have hside : ∀ entry ∈ membersOf journal query source group.key,
        ∀ later ∈ membersOf journal query source group.key,
          entry.timestampUsec / 1000 < later.timestampUsec / 1000 →
          Chrono.toRfc3339Millis entry.instant < Chrono.toRfc3339Millis later.instant := by
      intro entry hentry later hlater hlt
      refine format_instant_lt ?_ hlt
      by_cases hfar : year10000 ≤ later.timestampUsec
      · refine .inr ⟨not_lt.mp fun hbefore => ?_, hend later hlater⟩
        exact hone ⟨group.key, entry, hentry, later, hlater, hbefore, hfar⟩
      · exact .inl ⟨by omega, not_le.mp hfar⟩
    refine ⟨⟨earliest, hearliest, hfirst, ?_⟩, ⟨latest, hlatest, hlast, ?_⟩⟩
    · intro entry hentry
      by_contra hlt
      have htext := hside entry hentry earliest hearliest (not_le.mp hlt)
      rw [← hfirst] at htext
      exact absurd (hbounds entry hentry).1 (not_le.mpr htext)
    · intro entry hentry
      by_contra hlt
      have htext := hside latest hlatest entry hentry (not_le.mp hlt)
      rw [← hlast] at htext
      exact absurd (hbounds entry hentry).2 (not_le.mpr htext)

end Chronology

/-! ## Responses -/

theorem normalizeFields_supported {given : Option (List String)} {fields : List String}
    (h : normalizeFields given = .ok fields) : ∀ field ∈ fields, field ∈ allLogFields := by
  rw [normalizeFields] at h
  split at h
  · cases h
  · split at h
    case isTrue hall =>
      cases h
      intro field hfield
      have hcontains := List.all_eq_true.mp (Bool.and_eq_true_iff.mp hall).1 field hfield
      exact List.contains_iff_mem.mp hcontains
    case isFalse => cases h

/-- A group is written as its row, its count and its two timestamps. -/
theorem json_of_projected {given : Option (List String)} {fields : List String}
    (hfields : normalizeFields given = .ok fields) {group : LogGroup} {first : JournalLogEntry}
    (hrow : group.row = projectEntry first fields) :
    group.json = .obj (group.row ++ [("count", .int group.count),
      ("first_timestamp_utc", .str group.firstTimestampUtc),
      ("last_timestamp_utc", .str group.lastTimestampUtc)]) := by
  have hnames : ∀ name ∈ group.row.map Prod.fst, name ∈ allLogFields := by
    intro name hname
    rw [hrow, projectEntry, List.map_filterMap] at hname
    obtain ⟨field, hfield, hmember⟩ := List.mem_filterMap.mp hname
    rw [Option.map_map] at hmember
    obtain ⟨value, -, rfl⟩ := Option.map_eq_some_iff.mp hmember
    exact normalizeFields_supported hfields field hfield
  have hnew : ∀ name, name ∉ allLogFields → name ∉ group.row.map Prod.fst :=
    fun name hout hname => hout (hnames name hname)
  have hfirst : "first_timestamp_utc"
      ∉ (group.row ++ [("count", Json.int group.count)]).map Prod.fst := by
    simpa using hnew "first_timestamp_utc" (by decide)
  have hlast : "last_timestamp_utc"
      ∉ (group.row ++ [("count", Json.int group.count)]
        ++ [("first_timestamp_utc", Json.str group.firstTimestampUtc)]).map Prod.fst := by
    simpa using hnew "last_timestamp_utc" (by decide)
  rw [LogGroup.json, Json.setMember_of_notMem (hnew "count" (by decide)),
    Json.setMember_of_notMem hfirst, Json.setMember_of_notMem hlast, List.append_assoc,
    List.append_assoc]
  rfl

section Response

variable [Chrono] [McpSdk] [HashOrder]

/-- What a `list_logs` call responds with, whichever rows it shows. -/
structure LogsContent (query : LogQuery) (summaryEnabled : Bool) (fields : List String)
    (groupByMessage : Bool) (result : LogQueryResult) (content : Members) : Prop where
  truncated : Json.member content "truncated" = some (.bool result.hasMore)
  nextCursor : Json.member content "next_cursor" = some (jsonStr result.nextCursor)
  rows : summaryEnabled = false →
    Json.member content (if groupByMessage then "groups" else "logs") = some (.arr
      (if groupByMessage then groupEntries result.entries fields
        else result.entries.map (fun entry => .obj (projectEntry entry fields))))

theorem under_logsResponse {query : LogQuery} {start finish : DateTime}
    (hvalid : query.Valid start finish) (id : Option Json) (summaryEnabled : Bool)
    (fields : List String) (groupByMessage : Bool) (result : LogQueryResult)
    (answers : (o : AppSig.Op) → AppSig.Ans o) :
    ∃ message content,
      (logsResponse id ⟨query, summaryEnabled, fields, groupByMessage⟩ result).under answers
        = .done (toolSuccessResponse id message content)
      ∧ LogsContent query summaryEnabled fields groupByMessage result content := by
  rw [logsResponse, Prog.under_bind (p := generatedAtUtcString) rfl, hvalid.startUtc,
    hvalid.endUtc]
  cases summaryEnabled with
  | true => exact ⟨_, _, rfl, rfl, rfl, fun h => by cases h⟩
  | false => cases groupByMessage <;> exact ⟨_, _, rfl, rfl, rfl, fun _ => rfl⟩

end Response

/-! ## Grouping by message -/

/-- **`group_by=message` partitions the raw page**: whatever a validated query has been answered
with, and whichever fields are asked for, there is a row for every key in the order of first
occurrence, and the page goes on where the ungrouped one does.  The first and the last timestamps
are the earliest and the latest exactly when no group has entries before the year 10000 and entries
in it. -/
theorem groupEntries_exact [Chrono] [LawfulChrono] [WritesRfc3339] [RegexEngine] [McpSdk]
    [HashOrder] {params : LogsQueryParams} {query : LogQuery}
    (hquery : buildLogQuery params = .ok query) {opened : Except String Journal}
    {result : LogQueryResult} (hread : readJournalLogs opened query = .ok result)
    {given : Option (List String)} {fields : List String}
    (hfields : normalizeFields given = .ok fields) :
    ∃ groups journal source, groupEntries result.entries fields = groups.map LogGroup.json
      ∧ GroupsOf fields result.entries groups
      ∧ (∀ group ∈ groups, group.json = .obj (group.row ++ [("count", .int group.count),
        ("first_timestamp_utc", .str group.firstTimestampUtc),
        ("last_timestamp_utc", .str group.lastTimestampUtc)]))
      ∧ (∀ id summaryEnabled answers, ∃ message content message' content',
        (logsResponse id ⟨query, summaryEnabled, fields, true⟩ result).under answers
          = .done (toolSuccessResponse id message content)
        ∧ (logsResponse id ⟨query, summaryEnabled, allLogFields, false⟩ result).under answers
          = .done (toolSuccessResponse id message' content')
        ∧ LogsContent query summaryEnabled fields true result content
        ∧ LogsContent query summaryEnabled allLogFields false result content')
      ∧ opened = .ok journal ∧ SourceOf journal query result.entries source
      ∧ ((∀ group ∈ groups, Chronological journal query source group)
        ↔ ¬ SplitBy10000 journal query source) := by
  obtain ⟨start, finish, hvalid⟩ := buildLogQuery_valid hquery
  have hyears := buildLogQuery_inYears hquery hvalid.endUtc
  obtain ⟨journal, source, matcher, hopened, hready, hsource⟩ :=
    source_of_readJournalLogs hvalid hyears hread
  have hgroups := groups_summarize fields result.entries
  refine ⟨_, journal, source, groupEntries_eq result.entries fields, hgroups, ?_, ?_, hopened,
    hsource, chronological_iff hready hsource hgroups⟩
  · intro group hgroup
    obtain ⟨first, -, hrow⟩ := (hgroups.summarizes group hgroup).projected
    exact json_of_projected hfields hrow
  · intro id summaryEnabled answers
    obtain ⟨message, content, hrun, hcontent⟩ :=
      under_logsResponse hvalid id summaryEnabled fields true result answers
    obtain ⟨message', content', hrun', hcontent'⟩ :=
      under_logsResponse hvalid id summaryEnabled allLogFields false result answers
    exact ⟨message, content, message', content', hrun, hrun', hcontent, hcontent'⟩

/-! ### A page of one group -/

theorem groupEntries_exact_boot : ∃ query result,
    @buildLogQuery rfc3339 firstHourParams = .ok query
    ∧ @readJournalLogs rfc3339 noRegex (.ok (bootJournal [])) query = .ok result
    ∧ ∃ groups journal source, groupEntries result.entries ["unit"] = groups.map LogGroup.json
      ∧ GroupsOf ["unit"] result.entries groups
      ∧ (∀ group ∈ groups, group.json = .obj (group.row ++ [("count", .int group.count),
        ("first_timestamp_utc", .str group.firstTimestampUtc),
        ("last_timestamp_utc", .str group.lastTimestampUtc)]))
      ∧ (∀ id summaryEnabled answers, ∃ message content message' content',
        (@logsResponse rfc3339 plainSdk nameOrder id ⟨query, summaryEnabled, ["unit"], true⟩
          result).under answers = .done (@toolSuccessResponse plainSdk id message content)
        ∧ (@logsResponse rfc3339 plainSdk nameOrder id
          ⟨query, summaryEnabled, allLogFields, false⟩ result).under answers
            = .done (@toolSuccessResponse plainSdk id message' content')
        ∧ LogsContent query summaryEnabled ["unit"] true result content
        ∧ LogsContent query summaryEnabled allLogFields false result content')
      ∧ Except.ok (bootJournal []) = (.ok journal : Except String Journal)
      ∧ @SourceOf rfc3339 noRegex journal query result.entries source
      ∧ ((∀ group ∈ groups, @Chronological rfc3339 noRegex journal query source group)
        ↔ ¬ @SplitBy10000 rfc3339 noRegex journal query source) :=
  ⟨_, _, rfl, rfl, @groupEntries_exact rfc3339 lawful_rfc3339 writes_rfc3339 noRegex plainSdk
    nameOrder firstHourParams _ rfl (.ok (bootJournal [])) _ rfl (some ["unit"]) ["unit"] rfl⟩

/-! ### The last second of the year 9999 -/

/-- The last second of the year, with its leap second. -/
def lastSecondParams : LogsQueryParams :=
  { firstHourParams with
    startUtc := some "9999-12-31T23:59:59Z"
    endUtc := some "9999-12-31T23:59:60Z" }

/-- One message in that second, and the same when the year has ended. -/
def lastSecondJournal : Journal where
  entries := [bootEntry "s=1;i=1" 253402300799500000, bootEntry "s=1;i=2" 253402300800000000]
  nearest := fun _ => none
  fault := fun _ => none

def lastSecondGroup : LogGroup where
  unit := some "boot.service"
  priority := some "6"
  message := some "up"
  count := 2
  firstTimestampUtc := "+10000-01-01T00:00:00.000Z"
  lastTimestampUtc := "9999-12-31T23:59:59.500Z"
  row := [("unit", .str "boot.service")]

/-- The group's first timestamp is that of its latest entry. -/
theorem lastSecond_disordered : ∃ query result,
    @buildLogQuery rfc3339 lastSecondParams = .ok query
    ∧ @readJournalLogs rfc3339 noRegex (.ok lastSecondJournal) query = .ok result
    ∧ @SourceOf rfc3339 noRegex lastSecondJournal query result.entries lastSecondJournal.entries
    ∧ groupEntries result.entries ["unit"] = [lastSecondGroup.json]
    ∧ ¬ @Chronological rfc3339 noRegex lastSecondJournal query lastSecondJournal.entries
      lastSecondGroup := by
  refine ⟨_, _, rfl, rfl, @SourceOf.mk rfc3339 noRegex _ _ _ _ (fun _ hmem => hmem) rfl, rfl, ?_⟩
  intro h
  obtain ⟨earliest, hmem, htext, hleast⟩ := @Chronological.first rfc3339 noRegex _ _ _ _ h
  have hle := hleast (bootEntry "s=1;i=1" 253402300799500000)
    (List.mem_filter.mpr ⟨List.mem_cons_self, rfl⟩)
  rcases List.mem_cons.mp (List.mem_of_mem_filter hmem) with rfl | hmem
  · exact absurd htext (by decide)
  · obtain rfl := List.mem_singleton.mp hmem
    exact absurd hle (by decide)

end SystemdMonitoring
