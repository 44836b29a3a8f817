/-
# `SystemdMonitoring.Systemd.FullScan` — what the early exit of the scan may lose

The scan leaves the window at the first entry past its far end.  A full scan
would go on and filter all that lies ahead of the position.  Journals are
navigated by sequence number, not by time, so when the clock has been set back
there may be entries of the window behind that entry.

The two agree exactly when there is no such entry that the query accepts
(`fullScan_iff`).  Nothing is assumed of the journal here: neither that its
times are in order nor that every read succeeds.  Only a seek to a time is
modelled for journals in order; a scan from the head, the tail or a cursor is
not concerned with it.
-/
import SystemdMonitoring.Systemd.Logs

namespace SystemdMonitoring

open Lib Lib.Text Lib.Paging

section FullScan

variable [Chrono] [RegexEngine]

/-! ## Rows without a scan -/

/-- The row a query makes of an entry, wherever it lies; its cursor as this reader can tell it. -/
def Journal.row (journal : Journal) (query : LogQuery) (entry : JournalEntry) :
    Option JournalLogEntry :=
  (query.row entry).map (fun row =>
    { row with cursor := (journal.reads entry).cursor.toOption })

/-- An entry whose time, when it is a signed one, lies past the far end of the window.  Both ends
are asked about in ascending order: a start in a leap second may lie behind the end. -/
def LogQuery.PastFarEnd (query : LogQuery) (entry : JournalEntry) : Prop :=
  entry.timestampUsec < 2 ^ 63 ∧ ∃ start finish,
    query.startUtc = some start ∧ query.endUtc = some finish ∧
      match query.order with
      | .desc => (entry.timestampUsec : Int) < start.timestampMicros
      | .asc => start.timestampMicros ≤ entry.timestampUsec
          ∧ finish.timestampMicros < (entry.timestampUsec : Int)

omit [Chrono] [RegexEngine] in
/-- A field that has been read is the entry's. -/
theorem readJournalField_of_ok {journal : Journal} {entry : JournalEntry} {name : String}
    {value : Option String} (h : readJournalField (journal.reads entry) name = .ok value) :
    value = entry.field name := by
  rw [readJournalField, Journal.reads] at h
  dsimp only at h
  split at h
  · cases h
  · cases h
    rfl

/-- What the reads of a faulty journal make of an entry, when they succeed, is what its own reads
make of it, the cursor apart. -/
theorem entryRow_of_ok {journal : Journal} {query : LogQuery} {matcher : Option GrepMatcher}
    {entry : JournalEntry} {timestampUsec : Nat} {row : Option JournalLogEntry}
    (h : entryRow query matcher (journal.reads entry) timestampUsec = .ok row) :
    row = (entryRow query matcher entry.reads timestampUsec).toOption.join.map (fun row =>
      { row with cursor := (journal.reads entry).cursor.toOption }) := by
  have hfield : ∀ {β : Type} {name : String} {f : Option String → Except AppError β} {b : β},
      (readJournalField (journal.reads entry) name >>= f) = .ok b →
      f (entry.field name) = .ok b := by
    intro β name f b hbind
    obtain ⟨value, hvalue, hf⟩ := bind_eq_ok.mp hbind
    rw [← readJournalField_of_ok hvalue]
    exact hf
  have hunit : selectUnitForScope query.scope (entry.field "_SYSTEMD_UNIT")
      (entry.field "_SYSTEMD_USER_UNIT") = entry.unit query.scope := rfl
  rw [entryRow] at h
  have hunits := hfield (hfield h)
  simp only [entryRow, readJournalField_reads, ok_bind, hunit] at hunits ⊢
  cases haccepted : unitAccepted query (entry.unit query.scope) with
  | false =>
      simp only [haccepted] at hunits
      cases hunits
      rfl
  | true =>
      simp only [haccepted] at hunits
      cases htimestamp : DateTime.fromTimestampMicros timestampUsec with
      | none =>
          simp only [htimestamp] at hunits
          cases hunits
          rfl
      | some timestamp =>
          simp only [htimestamp] at hunits
          have hpriorities := hfield hunits
          cases hpriority : priorityAccepted query.threshold
              ((entry.field "PRIORITY").bind (parseUnsigned 255)) with
          | false =>
              simp only [hpriority] at hpriorities
              cases hpriorities
              rfl
          | true =>
              simp only [hpriority] at hpriorities
              have hmessages := hfield (hfield (hfield hpriorities))
              cases hmessage : messageAccepted query matcher
                  (sanitizeLogMessage (entry.field "MESSAGE")) with
              | false =>
                  simp only [hmessage] at hmessages
                  cases hmessages
                  rfl
              | true =>
                  simp only [hmessage] at hmessages
                  cases hmessages
                  rfl

/-! ## The scan without assumptions -/

/-- An entry has a row exactly when the query accepts it. -/
theorem row_eq_none_iff {journal : Journal} {query : LogQuery} {start finish : DateTime}
    {matcher : Option GrepMatcher} (hready : Ready query start finish matcher)
    {entry : JournalEntry} : journal.row query entry = none ↔ ¬ Accepted query entry := by
  have hwindow : query.InWindow entry.timestampUsec
      ↔ start.timestampMicros ≤ entry.timestampUsec
        ∧ (entry.timestampUsec : Int) ≤ finish.timestampMicros := by
    simp [LogQuery.InWindow, hready.startUtc, hready.endUtc]
  rw [Journal.row, Option.map_eq_none_iff, Option.eq_none_iff_forall_ne_some, hready.row_eq,
    Accepted, hready.grep, hwindow]
  constructor
  · rintro hnone ⟨hin, found, hfound, row, hrow⟩
    cases hfound
    exact hnone row (windowRow_eq_some_iff.mpr ⟨hin, hrow⟩)
  · intro hreject row hrow
    obtain ⟨hin, hchain⟩ := windowRow_eq_some_iff.mp hrow
    exact hreject ⟨hin, matcher, rfl, row, hchain⟩

/-- What lies past the far end lies outside the window. -/
theorem not_accepted_of_past {query : LogQuery} {entry : JournalEntry}
    (h : query.PastFarEnd entry) : ¬ Accepted query entry := by
  rintro ⟨⟨⟨start, hstart, hle⟩, finish, hfinish, hge⟩, -⟩
  obtain ⟨-, start', finish', hstart', hfinish', hpast⟩ := h
  cases hstart.symm.trans hstart'
  cases hfinish.symm.trans hfinish'
  split at hpast <;> omega

omit [Chrono] in
theorem pastFarEnd_iff {query : LogQuery} {start finish : DateTime}
    {matcher : Option GrepMatcher} (hready : Ready query start finish matcher)
    {entry : JournalEntry} : query.PastFarEnd entry
      ↔ StopsAt query.order start.timestampMicros finish.timestampMicros entry := by
  cases horder : query.order <;>
    simp [LogQuery.PastFarEnd, StopsAt, horder, hready.startUtc, hready.endUtc]

/-- **One step of a scan that goes through**: it stops past the far end, or takes the row. -/
theorem scan_cons_of_ok {journal : Journal} {query : LogQuery} {start finish : DateTime}
    {matcher : Option GrepMatcher} (hready : Ready query start finish matcher)
    {entry : JournalEntry} {rest : List JournalEntry} {rows : List JournalLogEntry}
    (hroom : ¬ query.limit < rows.length) {scanned : Nat} {result : List JournalLogEntry × Nat}
    (h : scan journal query matcher start.timestampMicros finish.timestampMicros (entry :: rest)
      rows scanned = .ok result) :
    (query.PastFarEnd entry ∧ result = (rows, scanned + 1))
    ∨ (¬ query.PastFarEnd entry
      ∧ scan journal query matcher start.timestampMicros finish.timestampMicros rest
        (rows ++ (journal.row query entry).toList) (scanned + 1) = .ok result) := by
  obtain ⟨next, hnext, hscan⟩ := scan_step journal query matcher start.timestampMicros
    finish.timestampMicros entry rest hroom scanned
  rw [hscan] at h
  obtain ⟨-, -, h⟩ := bind_eq_ok.mp h
  obtain ⟨-, -, h⟩ := bind_eq_ok.mp h
  rw [pastFarEnd_iff hready, Journal.row, hready.row_eq]
  cases hnext with
  | stop hstop =>
      cases h
      exact .inl ⟨hstop, rfl⟩
  | skip hgo hskip =>
      right
      rw [windowRow_eq_none_of_not_looksAt (timestampMicros_lt hready.inYears) hskip,
        Option.map_none, Option.toList_none, List.append_nil]
      exact ⟨hgo, h⟩
  | look hlook =>
      obtain ⟨row, hrow, h⟩ := bind_eq_ok.mp h
      right
      rw [windowRow, if_pos hlook.2, ← entryRow_of_ok hrow]
      refine ⟨?_, h⟩
      rintro ⟨-, ⟨-, hearly⟩ | ⟨-, -, hlate⟩⟩
      · exact absurd hlook.2.1 (not_le.mpr hearly)
      · exact absurd hlook.2.2 (not_le.mpr hlate)

/-- What has been read of the entries ahead: those in front of the first past the far end. -/
structure Reached (query : LogQuery) (front behind : List JournalEntry) : Prop where
  front : ∀ entry ∈ front, ¬ query.PastFarEnd entry
  behind : ∀ entry, behind.head? = some entry → query.PastFarEnd entry

/-- **A scan with room left** has the rows of all entries in front of the first past the far
end. -/
theorem scan_of_ok {journal : Journal} {query : LogQuery} {start finish : DateTime}
    {matcher : Option GrepMatcher} (hready : Ready query start finish matcher)
    {entries : List JournalEntry} {rows : List JournalLogEntry} {scanned : Nat}
    {found : List JournalLogEntry} {total : Nat}
    (h : scan journal query matcher start.timestampMicros finish.timestampMicros entries rows
      scanned = .ok (found, total))
    (hroom : ¬ query.limit < found.length) :
    ∃ front behind, entries = front ++ behind ∧ Reached query front behind
      ∧ found = rows ++ front.filterMap (journal.row query) := by
  induction entries generalizing rows scanned with
  | nil =>
      refine ⟨[], [], rfl, ⟨fun _ hmem => (nomatch hmem), fun _ hhead => (nomatch hhead)⟩, ?_⟩
      rw [List.filterMap_nil, List.append_nil]
      rw [scan] at h
      split at h
      · cases h
        rfl
      · obtain ⟨-, -, h⟩ := bind_eq_ok.mp h
        cases h
        rfl
  | cons entry rest ih =>
      by_cases hfull : query.limit < rows.length
      · rw [scan, if_pos hfull] at h
        cases h
        exact absurd hfull hroom
      · rcases scan_cons_of_ok hready hfull h with ⟨hpast, hstop⟩ | ⟨hon, hrest⟩
        · cases hstop
          refine ⟨[], entry :: rest, rfl, ⟨fun _ hmem => (nomatch hmem), ?_⟩, ?_⟩
          · intro e he
            cases he
            exact hpast
          · rw [List.filterMap_nil, List.append_nil]
        · obtain ⟨front, behind, rfl, hreached, rfl⟩ := ih hrest
          refine ⟨entry :: front, behind, rfl, ⟨?_, hreached.behind⟩, ?_⟩
          · intro e he
            rcases List.mem_cons.mp he with rfl | hmem
            · exact hon
            · exact hreached.front e hmem
          · cases hrow : journal.row query entry with
            | none => rw [List.filterMap_cons_none hrow, Option.toList_none, List.append_nil]
            | some row =>
                rw [List.filterMap_cons_some hrow, Option.toList_some, List.append_assoc,
                  List.singleton_append]

/-! ## The early exit -/

/-- A scan that found no more than it was asked for returns all that it found. -/
theorem entries_of_ok {journal : Journal} {query : LogQuery} {start finish : DateTime}
    {matcher : Option GrepMatcher} (hready : Ready query start finish matcher)
    {position : Position} {result : LogQueryResult}
    (hposition : startPosition journal query start.timestampMicros finish.timestampMicros
      = .ok position)
    (hread : readJournalLogs (.ok journal) query = .ok result) (hmore : result.hasMore = false) :
    ∃ front behind, ahead query.order position journal.entries = front ++ behind
      ∧ Reached query front behind
      ∧ result.entries = front.filterMap (journal.row query) := by
  have hopened : (Except.ok journal : Except String Journal).mapError
      (fun err => AppError.internalError s!"failed to open journald reader: {err}")
        = .ok journal := rfl
  rw [readJournalLogs, hopened, hready.startUtc, hready.endUtc, hready.grep, ok_bind, ok_bind]
    at hread
  dsimp only at hread
  rw [hposition, ok_bind] at hread
  obtain ⟨⟨found, total⟩, hscan, hresult⟩ := bind_eq_ok.mp hread
  cases hresult
  have hroom : ¬ query.limit < found.length := of_decide_eq_false hmore
  obtain ⟨front, behind, hsplit, hreached, rfl⟩ := scan_of_ok hready hscan hroom
  refine ⟨front, behind, hsplit, hreached, ?_⟩
  rw [List.nil_append] at hroom ⊢
  exact List.take_of_length_le (not_lt.mp hroom)

/-- **What the early exit loses**: when no more is reported, the entries are all the rows ahead,
in order, exactly when no entry that the query accepts lies behind one past the window's far
end. -/
theorem fullScan_iff [LawfulChrono] {params : LogsQueryParams} {query : LogQuery}
    (hquery : buildLogQuery params = .ok query) {start finish : DateTime}
    (hstart : query.startUtc = some start) (hfinish : query.endUtc = some finish)
    {journal : Journal} {position : Position}
    (hposition : startPosition journal query start.timestampMicros finish.timestampMicros
      = .ok position)
    {result : LogQueryResult} (hread : readJournalLogs (.ok journal) query = .ok result)
    (hmore : result.hasMore = false) :
    result.entries
        = (ahead query.order position journal.entries).filterMap (journal.row query)
      ↔ (ahead query.order position journal.entries).Pairwise
          (fun stop entry => query.PastFarEnd stop → ¬ Accepted query entry) := by
  obtain ⟨matcher, hgrep⟩ := grep_of_readJournalLogs hread
  have hready : Ready query start finish matcher :=
    ⟨hstart, hfinish, buildLogQuery_inYears hquery hfinish, hgrep⟩
  obtain ⟨front, behind, hsplit, hreached, hentries⟩ :=
    entries_of_ok hready hposition hread hmore
  have hpast : ∀ entry, query.PastFarEnd entry → journal.row query entry = none :=
    fun entry hentry => (row_eq_none_iff hready).mpr (not_accepted_of_past hentry)
  rw [hentries, hsplit, filterMap_stopped_iff hpast hreached.front hreached.behind]
  simp only [row_eq_none_iff hready]

/-- In a journal with times in order nothing is lost: behind an entry past the far end all are. -/
theorem pairwise_of_ordered {query : LogQuery} {journal : Journal} (hordered : journal.Ordered)
    (position : Position) :
    (ahead query.order position journal.entries).Pairwise
      (fun stop entry => query.PastFarEnd stop → ¬ Accepted query entry) := by
  have hsorted := (sortedIn_inOrder hordered query.order).sublist
    (ahead_sublist query.order position journal.entries)
  have hbehind : ∀ stop entry : JournalEntry,
      (query.order = .asc → stop.timestampUsec ≤ entry.timestampUsec) →
      (query.order = .desc → entry.timestampUsec ≤ stop.timestampUsec) →
      query.PastFarEnd stop → ¬ Accepted query entry := by
    rintro stop entry hasc hdesc ⟨-, start, finish, hstart, hfinish, hpast⟩
    rintro ⟨⟨⟨start', hstart', hge⟩, finish', hfinish', hle⟩, -⟩
    cases hstart.symm.trans hstart'
    cases hfinish.symm.trans hfinish'
    split at hpast
    case h_1 horder =>
      have := hdesc horder
      omega
    case h_2 horder =>
      have := hasc horder
      omega
  unfold SortedIn at hsorted
  split at hsorted
  case h_1 horder =>
    exact hsorted.imp fun hle =>
      hbehind _ _ (fun _ => hle) (fun hdesc => by rw [horder] at hdesc; cases hdesc)
  case h_2 horder =>
    exact hsorted.imp fun hle =>
      hbehind _ _ (fun hasc => by rw [horder] at hasc; cases hasc) (fun _ => hle)

end FullScan

/-! ## A clock that is set back -/

/-- The first hour, oldest first, from behind the first entry. -/
def resumedHourParams : LogsQueryParams := { firstHourParams with cursor := some "s=1;i=1" }

def resumedHourQuery : LogQuery := { firstHourQuery with cursor := some "s=1;i=1" }

/-- Two entries of the first hour; in between the clock was two hours ahead for one entry. -/
def clockSetBack : Journal where
  entries := [bootEntry "s=1;i=1" 1767225601000000, bootEntry "s=1;i=2" 1767232800000000,
    bootEntry "s=1;i=3" 1767225602000000]
  nearest := fun _ => none
  fault := fun _ => none

/-- Without the entry in between everything ahead is returned. -/
theorem fullScan_iff_resumed : ∃ result,
    @readJournalLogs rfc3339 noRegex
        (.ok (bootJournal [bootEntry "s=1;i=3" 1767225602000000])) resumedHourQuery = .ok result
    ∧ (result.entries
        = (ahead .asc (.entry "s=1;i=1")
            (bootJournal [bootEntry "s=1;i=3" 1767225602000000]).entries).filterMap
          (@Journal.row rfc3339 noRegex
            (bootJournal [bootEntry "s=1;i=3" 1767225602000000]) resumedHourQuery)
      ↔ (ahead .asc (.entry "s=1;i=1")
            (bootJournal [bootEntry "s=1;i=3" 1767225602000000]).entries).Pairwise
          (fun stop entry => resumedHourQuery.PastFarEnd stop →
            ¬ @Accepted noRegex rfc3339 resumedHourQuery entry)) :=
  ⟨_, rfl, @fullScan_iff rfc3339 noRegex lawful_rfc3339 resumedHourParams resumedHourQuery rfl
    _ _ rfl rfl _ _ rfl _ rfl rfl⟩

/-- The last entry is in the hour and passes the filters, and the answer is that there is none. -/
theorem clockSetBack_lost :
    @buildLogQuery rfc3339 resumedHourParams = .ok resumedHourQuery
    ∧ startPosition clockSetBack resumedHourQuery 1767225600000000 1767229200000000
      = .ok (.entry "s=1;i=1")
    ∧ ∃ result, @readJournalLogs rfc3339 noRegex (.ok clockSetBack) resumedHourQuery = .ok result
      ∧ result.hasMore = false
      ∧ result.entries
        ≠ (ahead .asc (.entry "s=1;i=1") clockSetBack.entries).filterMap
          (@Journal.row rfc3339 noRegex clockSetBack resumedHourQuery) := by
  refine ⟨rfl, rfl, _, rfl, rfl, ?_⟩
  have hlost : (ahead .asc (.entry "s=1;i=1") clockSetBack.entries).filterMap
      (@Journal.row rfc3339 noRegex clockSetBack resumedHourQuery)
        = [{ timestampUtc := "2026-01-01T00:00:02.000Z"
             unit := some "boot.service"
             priority := some "6"
             hostname := none
             pid := none
             message := some "up"
             cursor := some "s=1;i=3" }] := rfl
  rw [hlost]
  exact (List.cons_ne_nil _ _).symm

end SystemdMonitoring
