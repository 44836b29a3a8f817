/-
# `SystemdMonitoring.Systemd.Logs` — the journal scan and its pages

`read_journal_logs` opens a journal, seeks to one end of the query's window or
to a cursor, and walks in the query's order, collecting rows until it holds one
more than asked for.  That row is not returned: it says that there is more, and
the cursor of the last returned row lets the next request go on.

A page is therefore a prefix of what is left behind the position, and what is
left behind its cursor is the rest of it (`remaining_next`), while the journal
may grow (`remaining_grow`).  `Lib.Paging` makes whole runs of these two facts
(`paging_exact`).
-/
import Mathlib.Data.List.Nodup
import SystemdMonitoring.Lib.Paging
import SystemdMonitoring.Systemd.Journal

namespace SystemdMonitoring

open Lib Lib.Text Lib.Paging

/-! ## Journals -/

/-- The single operations on an open journal. -/
inductive ReadOp where
  | seek
  | seekCursor
  | select
  | testCursor
  | advance (step : Nat)
  | timestamp (entry : JournalEntry)
  | field (entry : JournalEntry) (name : String)
  | cursor (entry : JournalEntry)

/-- What an opened reader sees, oldest first; `nearest` is where a seek to a cursor ends that is
not there. -/
structure Journal where
  entries : List JournalEntry
  nearest : String → Option JournalEntry
  fault : ReadOp → Option String

/-- No operation fails. -/
def Journal.Reliable (journal : Journal) : Prop := ∀ op, journal.fault op = none

/-- Distinct cursors, timestamps that do not decrease. -/
structure Journal.Ordered (journal : Journal) : Prop where
  cursors : (journal.entries.map JournalEntry.cursor).Nodup
  timestamps : journal.entries.Pairwise (fun e f => e.timestampUsec ≤ f.timestampUsec)

def Journal.attempt (journal : Journal) (op : ReadOp) (what : String) : Except AppError Unit :=
  match journal.fault op with
  | some err => .error (.internalError s!"{what}: {err}")
  | none => .ok ()

def Journal.reads (journal : Journal) (entry : JournalEntry) : EntryReads where
  field := fun name =>
    match journal.fault (.field entry name) with
    | some err => .error err
    | none => .ok (entry.field name)
  cursor :=
    match journal.fault (.cursor entry) with
    | some err => .error err
    | none => .ok entry.cursor

/-! ## Navigation -/

/-- Where a seek has left the reader. -/
inductive Position where
  | head
  | tail
  | realtime (usec : Int)
  | entry (cursor : String)
  deriving DecidableEq, Repr

/-- The entries in the order that repeated `next`, or `previous`, visits them in. -/
def inOrder (order : LogOrder) (entries : List JournalEntry) : List JournalEntry :=
  match order with
  | .asc => entries
  | .desc => entries.reverse

/-- Going in that order, a time not reached yet after a seek to another. -/
def beforeTime (order : LogOrder) (usec : Int) (entry : JournalEntry) : Bool :=
  match order with
  | .asc => decide ((entry.timestampUsec : Int) < usec)
  | .desc => decide (usec < (entry.timestampUsec : Int))

/-- What repeated `next` (or `previous`) selects from a position, in turn: after a seek to a time
the first entry not before it (the last not after it), after a cursor what is behind it. -/
def ahead (order : LogOrder) (position : Position) (entries : List JournalEntry) :
    List JournalEntry :=
  match position, order with
  | .head, .asc => entries
  | .head, .desc => []
  | .tail, .asc => []
  | .tail, .desc => entries.reverse
  | .realtime usec, _ => (inOrder order entries).dropWhile (beforeTime order usec)
  | .entry cursor, _ => after JournalEntry.cursor cursor (inOrder order entries)

def invalidCursorError : AppError :=
  .badRequest "invalid_cursor" "journal cursor is invalid or expired"

/-- The entry that a seek to a cursor selects on the next step. -/
def Journal.selected (journal : Journal) (cursor : String) : Option JournalEntry :=
  (journal.entries.find? (fun e => e.cursor == cursor)).or (journal.nearest cursor)

/-- Selects and verifies the exact cursor entry before exclusive continuation. -/
def positionAtExactCursor (journal : Journal) (cursor : String) : Except AppError Position :=
  if (journal.fault .seekCursor).isSome ∨ (journal.fault .select).isSome then
    .error invalidCursorError
  else
    match journal.selected cursor with
    | none => .error invalidCursorError
    | some selected =>
        if (journal.fault .testCursor).isSome ∨ selected.cursor ≠ cursor then
          .error invalidCursorError
        else .ok (.entry cursor)

/-- Seeks to the end of the window that the order starts from; times before 1970 are no journal
times, and the whole journal is on their far side. -/
def seekWindow (journal : Journal) (order : LogOrder) (start finish : Int) :
    Except AppError Position :=
  match order with
  | .desc =>
      if 0 ≤ finish then do
        journal.attempt .seek "failed to seek journald end timestamp"
        return .realtime finish
      else do
        journal.attempt .seek "failed to seek journald tail"
        return .tail
  | .asc =>
      if 0 ≤ start then do
        journal.attempt .seek "failed to seek journald start timestamp"
        return .realtime start
      else do
        journal.attempt .seek "failed to seek journald head"
        return .head

/-- A cursor takes precedence over the window. -/
def startPosition (journal : Journal) (query : LogQuery) (start finish : Int) :
    Except AppError Position :=
  match query.cursor with
  | some cursor => positionAtExactCursor journal cursor
  | none => seekWindow journal query.order start finish

/-! ## The scan -/

section Scan

variable [Chrono] [RegexEngine]

/-- The loop over the entries ahead: the rows so far and the entries counted so far. -/
def scan (journal : Journal) (query : LogQuery) (matcher : Option GrepMatcher)
    (start finish : Int) :
    List JournalEntry → List JournalLogEntry → Nat → Except AppError (List JournalLogEntry × Nat)
  | [], rows, scanned =>
      if query.limit < rows.length then .ok (rows, scanned)
      else
        journal.attempt (.advance scanned) "failed to read journald entry" >>= fun _ =>
        .ok (rows, scanned)
  | entry :: rest, rows, scanned =>
      if query.limit < rows.length then .ok (rows, scanned)
      else
        journal.attempt (.advance scanned) "failed to read journald entry" >>= fun _ =>
        journal.attempt (.timestamp entry) "failed to read journald timestamp" >>= fun _ =>
        -- a timestamp beyond the signed range is skipped
        if 2 ^ 63 ≤ entry.timestampUsec then
          scan journal query matcher start finish rest rows (scanned + 1)
        else if (entry.timestampUsec : Int) < start then
          if query.order = .desc then .ok (rows, scanned + 1)
          else scan journal query matcher start finish rest rows (scanned + 1)
        else if finish < (entry.timestampUsec : Int) then
          if query.order = .asc then .ok (rows, scanned + 1)
          else scan journal query matcher start finish rest rows (scanned + 1)
        else
          entryRow query matcher (journal.reads entry) entry.timestampUsec >>= fun row =>
          match row with
          | none => scan journal query matcher start finish rest rows (scanned + 1)
          | some row => scan journal query matcher start finish rest (rows ++ [row]) (scanned + 1)

/-- Reads journal entries according to time, unit, priority, and grep filters. -/
def readJournalLogs (opened : Except String Journal) (query : LogQuery) :
    Except AppError LogQueryResult := do
  let journal ← opened.mapError
    (fun err => AppError.internalError s!"failed to open journald reader: {err}")
  let matcher ← buildGrepMatcher query.grep
  match query.startUtc, query.endUtc with
  | some startUtc, some endUtc => do
      let start := startUtc.timestampMicros
      let finish := endUtc.timestampMicros
      let position ← startPosition journal query start finish
      let (rows, scanned) ← scan journal query matcher start finish
        (ahead query.order position journal.entries) [] 0
      return {
        entries := rows.take query.limit
        totalScanned := some scanned
        hasMore := decide (query.limit < rows.length) }
  | _, _ => .error (.badRequest "missing_time_range" "start_utc and end_utc are required")

end Scan

/-! ## Pages -/

/-- What `list_logs` answers with of a result: its raw rows, whether they were cut, and where to
go on. -/
structure LogsPage where
  rows : List JournalLogEntry
  truncated : Bool
  nextCursor : Option String
  deriving DecidableEq, Repr

/-- The cursor of the last row, when there is more. -/
def LogQueryResult.nextCursor (result : LogQueryResult) : Option String :=
  if result.hasMore then result.entries.getLast?.bind JournalLogEntry.cursor else none

def LogQueryResult.page (result : LogQueryResult) : LogsPage where
  rows := result.entries
  truncated := result.hasMore
  nextCursor := result.nextCursor

/-- A client that repeats its query with `cursor := next_cursor` until a page is not truncated;
each visit has the journal as it then is and a limit. -/
def paginate [Chrono] [RegexEngine] (query : LogQuery) :
    List (Journal × Nat) → Except AppError (List LogsPage)
  | [] => .ok []
  | (journal, limit) :: visits => do
      let result ← readJournalLogs (.ok journal) { query with limit := limit }
      let page := result.page
      if page.truncated then
        let pages ← paginate { query with cursor := page.nextCursor } visits
        return page :: pages
      else return [page]

/-! ## Reliable journals, ordered entries -/

theorem reads_of_reliable {journal : Journal} (h : journal.Reliable) (entry : JournalEntry) :
    journal.reads entry = entry.reads := by
  simp [Journal.reads, JournalEntry.reads, h _]

theorem attempt_of_reliable {journal : Journal} (h : journal.Reliable) (op : ReadOp)
    (what : String) : journal.attempt op what = .ok () := by
  rw [Journal.attempt, h op]

/-- Times do not run backwards in that order. -/
def SortedIn (order : LogOrder) (entries : List JournalEntry) : Prop :=
  match order with
  | .asc => entries.Pairwise (fun e f => e.timestampUsec ≤ f.timestampUsec)
  | .desc => entries.Pairwise (fun e f => f.timestampUsec ≤ e.timestampUsec)

theorem SortedIn.tail {order : LogOrder} {entry : JournalEntry} {rest : List JournalEntry}
    (h : SortedIn order (entry :: rest)) : SortedIn order rest := by
  cases order <;> exact (List.pairwise_cons.mp h).2

theorem SortedIn.sublist {order : LogOrder} {entries entries' : List JournalEntry}
    (h : SortedIn order entries) (hsub : entries'.Sublist entries) : SortedIn order entries' := by
  cases order <;> exact List.Pairwise.sublist hsub h

theorem sortedIn_inOrder {journal : Journal} (h : journal.Ordered) (order : LogOrder) :
    SortedIn order (inOrder order journal.entries) := by
  cases order with
  | asc => exact h.timestamps
  | desc => exact List.pairwise_reverse.mpr h.timestamps

theorem nodup_inOrder {journal : Journal} (h : journal.Ordered) (order : LogOrder) :
    ((inOrder order journal.entries).map JournalEntry.cursor).Nodup := by
  cases order with
  | asc => exact h.cursors
  | desc =>
      rw [inOrder, List.map_reverse]
      exact List.nodup_reverse.mpr h.cursors

theorem ahead_sublist (order : LogOrder) (position : Position) (entries : List JournalEntry) :
    (ahead order position entries).Sublist (inOrder order entries) := by
  cases position with
  | head =>
      cases order with
      | asc => exact List.Sublist.refl _
      | desc => exact List.nil_sublist _
  | tail =>
      cases order with
      | asc => exact List.nil_sublist _
      | desc => exact List.Sublist.refl _
  | realtime usec => cases order <;> exact List.dropWhile_sublist _
  | entry cursor => cases order <;> exact (List.drop_sublist _ _).trans (List.dropWhile_sublist _)

theorem positionAtExactCursor_reliable {journal : Journal} (hreliable : journal.Reliable)
    {cursor : String} (hmem : cursor ∈ journal.entries.map JournalEntry.cursor) :
    positionAtExactCursor journal cursor = .ok (.entry cursor) := by
  obtain ⟨entry, hentry, hcursor⟩ := List.mem_map.mp hmem
  cases hfind : journal.entries.find? (fun e => e.cursor == cursor) with
  | none =>
      have hno := List.find?_eq_none.mp hfind entry hentry
      simp [hcursor] at hno
  | some found =>
      have hfound : found.cursor = cursor := by simpa using List.find?_some hfind
      simp [positionAtExactCursor, hreliable _, Journal.selected, hfind, hfound]

theorem timestampMicros_lt {d : DateTime} (h : d.InYears) : d.timestampMicros < 2 ^ 63 := by
  have hfrac := d.frac_lt
  rw [DateTime.InYears] at h
  simp only [DateTime.timestampMicros, DateTime.nanos, DateTime.secondNanos]
  omega

/-- The entries a query has still to look at. -/
def LogQuery.behind (query : LogQuery) (entries : List JournalEntry) : List JournalEntry :=
  match query.cursor with
  | none => inOrder query.order entries
  | some cursor => after JournalEntry.cursor cursor (inOrder query.order entries)

/-- What is behind a position is the end of the journal in that order. -/
theorem behind_suffix (query : LogQuery) (entries : List JournalEntry) :
    query.behind entries <:+ inOrder query.order entries := by
  rw [LogQuery.behind]
  split
  · exact List.suffix_rfl
  · exact (List.drop_suffix _ _).trans (List.dropWhile_suffix _)

/-! ## Growing journals -/

/-- Visits to a journal that is reliable, ordered, and only appended to. -/
def Appending : List JournalEntry → List (Journal × Nat) → Prop
  | _, [] => True
  | entries, (journal, limit) :: visits =>
      journal.Reliable ∧ journal.Ordered ∧ 1 ≤ limit
        ∧ (∃ new, journal.entries = entries ++ new) ∧ Appending journal.entries visits

/-- The entries of the journal as it was at the last of the first `n` visits. -/
def entriesAt : List JournalEntry → List (Journal × Nat) → Nat → List JournalEntry
  | entries, _, 0 => entries
  | entries, [], _ => entries
  | _, (journal, _) :: visits, n + 1 => entriesAt journal.entries visits n

theorem entriesAt_append {entries : List JournalEntry} {visits : List (Journal × Nat)}
    (hvisits : Appending entries visits) (n : Nat) :
    ∃ new, entriesAt entries visits n = entries ++ new := by
  induction visits generalizing entries n with
  | nil =>
      refine ⟨[], ?_⟩
      cases n <;> simp [entriesAt]
  | cons visit visits ih =>
      obtain ⟨journal, limit⟩ := visit
      cases n with
      | zero => exact ⟨[], by simp [entriesAt]⟩
      | succ n =>
          obtain ⟨-, -, -, ⟨new, hnew⟩, happending⟩ := hvisits
          obtain ⟨new', hnew'⟩ := ih happending n
          refine ⟨new ++ new', ?_⟩
          rw [entriesAt, hnew', hnew, List.append_assoc]

/-! ## Pages of the library -/

/-- A page as the library has it. -/
def LogsPage.abs (page : LogsPage) : Page JournalLogEntry := ⟨page.rows, page.truncated⟩

/-- A run whose last page is not truncated has returned what remained and what arrived. -/
theorem flatMap_rows_of_pages {run : List LogsPage} {rest : List JournalLogEntry}
    {visits : List (List JournalLogEntry × Nat)} (hrun : run.map LogsPage.abs = pages rest visits)
    {last : LogsPage} (hlast : run.getLast? = some last) (htruncated : last.truncated = false) :
    run.flatMap LogsPage.rows = rest ++ (visits.take run.length).flatMap Prod.fst := by
  have hcomplete : Complete (pages rest visits) := by
    refine ⟨last.abs, ?_, htruncated⟩
    rw [← hrun, List.getLast?_map, hlast, Option.map_some]
  have hrows := pages_rows rest visits hcomplete
  rw [← hrun, List.flatMap_map, List.length_map] at hrows
  exact hrows

/-! ## What a query selects -/

section Rows

variable [Chrono] [RegexEngine]

/-- The row of an entry in a window, when it passes the filters. -/
def windowRow (query : LogQuery) (matcher : Option GrepMatcher) (start finish : Int)
    (entry : JournalEntry) : Option JournalLogEntry :=
  if start ≤ entry.timestampUsec ∧ (entry.timestampUsec : Int) ≤ finish then
    (entryRow query matcher entry.reads entry.timestampUsec).toOption.join
  else none

/-- The row a query makes of an entry. -/
def LogQuery.row (query : LogQuery) (entry : JournalEntry) : Option JournalLogEntry :=
  match query.startUtc, query.endUtc, buildGrepMatcher query.grep with
  | some start, some finish, .ok matcher =>
      windowRow query matcher start.timestampMicros finish.timestampMicros entry
  | _, _, _ => none

theorem windowRow_eq_some_iff {query : LogQuery} {matcher : Option GrepMatcher}
    {start finish : Int} {entry : JournalEntry} {row : JournalLogEntry} :
    windowRow query matcher start finish entry = some row
      ↔ (start ≤ entry.timestampUsec ∧ (entry.timestampUsec : Int) ≤ finish)
        ∧ entryRow query matcher entry.reads entry.timestampUsec = .ok (some row) := by
  obtain ⟨result, hresult⟩ := entryRow_reads_ok query matcher entry entry.timestampUsec
  rw [windowRow, hresult]
  by_cases hwindow : start ≤ entry.timestampUsec ∧ (entry.timestampUsec : Int) ≤ finish
  · cases result <;> simp [hwindow, Except.toOption]
  · simp [hwindow]

/-! ## The scan finds the rows -/

/-- A row has a time inside the window. -/
theorem windowRow_eq_none {query : LogQuery} {matcher : Option GrepMatcher} {start finish : Int}
    {entry : JournalEntry}
    (h : (entry.timestampUsec : Int) < start ∨ finish < (entry.timestampUsec : Int)) :
    windowRow query matcher start finish entry = none := by
  rw [windowRow, if_neg]
  omega

/-- Past the far edge of the window there are no rows, which is why the scan stops there. -/
theorem filterMap_eq_nil_of_past {query : LogQuery} {matcher : Option GrepMatcher}
    {start finish : Int} {entry : JournalEntry} {rest : List JournalEntry}
    (hsorted : SortedIn query.order (entry :: rest))
    (hpast : query.order = .desc ∧ (entry.timestampUsec : Int) < start
      ∨ query.order = .asc ∧ finish < (entry.timestampUsec : Int)) :
    (entry :: rest).filterMap (windowRow query matcher start finish) = [] := by
  rw [List.filterMap_eq_nil_iff]
  intro e he
  apply windowRow_eq_none
  unfold SortedIn at hsorted
  rcases hpast with ⟨horder, hlt⟩ | ⟨horder, hlt⟩ <;> rw [horder] at hsorted <;>
    rcases List.mem_cons.mp he with rfl | hmem
  · exact .inl hlt
  · have hle := (List.pairwise_cons.mp hsorted).1 e hmem
    omega
  · exact .inr hlt
  · have hle := (List.pairwise_cons.mp hsorted).1 e hmem
    omega

/-- The scan stops at an entry: its time, a signed one, lies past the far edge of the window. -/
def StopsAt (order : LogOrder) (start finish : Int) (entry : JournalEntry) : Prop :=
  entry.timestampUsec < 2 ^ 63
    ∧ (order = .desc ∧ (entry.timestampUsec : Int) < start
      ∨ order = .asc ∧ start ≤ entry.timestampUsec ∧ finish < (entry.timestampUsec : Int))

/-- The scan looks at an entry: its time, a signed one, lies inside the window. -/
def LooksAt (start finish : Int) (entry : JournalEntry) : Prop :=
  entry.timestampUsec < 2 ^ 63
    ∧ start ≤ entry.timestampUsec ∧ (entry.timestampUsec : Int) ≤ finish

/-- What a step of the scan comes to once the entry and its time have been read: it stops, it goes
on, or it goes on with the entry's row. -/
inductive ScanStep (journal : Journal) (query : LogQuery) (matcher : Option GrepMatcher)
    (start finish : Int) (entry : JournalEntry) (rest : List JournalEntry)
    (rows : List JournalLogEntry) (scanned : Nat) :
    Except AppError (List JournalLogEntry × Nat) → Prop where
  | stop (hstop : StopsAt query.order start finish entry) :
      ScanStep journal query matcher start finish entry rest rows scanned (.ok (rows, scanned + 1))
  | skip (hgo : ¬ StopsAt query.order start finish entry) (hskip : ¬ LooksAt start finish entry) :
      ScanStep journal query matcher start finish entry rest rows scanned
        (scan journal query matcher start finish rest rows (scanned + 1))
  | look (hlook : LooksAt start finish entry) :
      ScanStep journal query matcher start finish entry rest rows scanned
        (entryRow query matcher (journal.reads entry) entry.timestampUsec >>= fun row =>
          scan journal query matcher start finish rest (rows ++ row.toList) (scanned + 1))

/-- **One step of the scan**: the entry is read, and one of the three follows. -/
theorem scan_step (journal : Journal) (query : LogQuery) (matcher : Option GrepMatcher)
    (start finish : Int) (entry : JournalEntry) (rest : List JournalEntry)
    {rows : List JournalLogEntry} (hroom : ¬ query.limit < rows.length) (scanned : Nat) :
    ∃ next, ScanStep journal query matcher start finish entry rest rows scanned next
      ∧ scan journal query matcher start finish (entry :: rest) rows scanned
        = (journal.attempt (.advance scanned) "failed to read journald entry" >>= fun _ =>
            journal.attempt (.timestamp entry) "failed to read journald timestamp" >>= fun _ =>
            next) := by
  rw [scan, if_neg hroom]
  refine ⟨_, ?_, rfl⟩
  split
  case isTrue hhuge =>
    exact .skip (fun h => absurd h.1 (by omega)) (fun h => absurd h.1 (by omega))
  case isFalse hsmall =>
    split
    case isTrue hearly =>
      split
      case isTrue horder => exact .stop ⟨by omega, .inl ⟨horder, hearly⟩⟩
      case isFalse horder =>
        refine .skip ?_ (fun h => absurd h.2 (by omega))
        rintro ⟨-, ⟨hdesc, -⟩ | ⟨-, hlate, -⟩⟩
        · exact horder hdesc
        · omega
    case isFalse hearly =>
      split
      case isTrue hlate =>
        split
        case isTrue horder => exact .stop ⟨by omega, .inr ⟨horder, by omega, hlate⟩⟩
        case isFalse horder =>
          refine .skip ?_ (fun h => absurd h.2 (by omega))
          rintro ⟨-, ⟨-, hlt⟩ | ⟨hasc, -⟩⟩
          · exact hearly hlt
          · exact horder hasc
      case isFalse hlate =>
        -- inside the window the row decides
        have hlook : LooksAt start finish entry := ⟨by omega, by omega, by omega⟩
        refine cast (congrArg _ ?_) (ScanStep.look hlook)
        refine congrArg (entryRow query matcher _ _ >>= ·) (funext fun row => ?_)
        cases row with
        | none => rw [Option.toList_none, List.append_nil]
        | some row => rfl

/-- What is not looked at has no row, and what is looked at has the row that is made of it. -/
theorem windowRow_eq_none_of_not_looksAt {query : LogQuery} {matcher : Option GrepMatcher}
    {start finish : Int} (hfinish : finish < 2 ^ 63) {entry : JournalEntry}
    (h : ¬ LooksAt start finish entry) : windowRow query matcher start finish entry = none := by
  rw [windowRow, if_neg]
  rintro ⟨hstart, hend⟩
  exact h ⟨by omega, hstart, hend⟩

/-- **A step over a reliable journal**: it stops past the far edge of the window, or takes the
row. -/
theorem scan_cons {journal : Journal} (hreliable : journal.Reliable) (query : LogQuery)
    (matcher : Option GrepMatcher) (start : Int) {finish : Int} (hfinish : finish < 2 ^ 63)
    (entry : JournalEntry) (rest : List JournalEntry) {rows : List JournalLogEntry}
    (hroom : ¬ query.limit < rows.length) (scanned : Nat) :
    ((query.order = .desc ∧ (entry.timestampUsec : Int) < start
        ∨ query.order = .asc ∧ finish < (entry.timestampUsec : Int))
      ∧ scan journal query matcher start finish (entry :: rest) rows scanned
        = .ok (rows, scanned + 1))
    ∨ scan journal query matcher start finish (entry :: rest) rows scanned
      = scan journal query matcher start finish rest
          (rows ++ (windowRow query matcher start finish entry).toList) (scanned + 1) := by
  obtain ⟨next, hnext, hscan⟩ := scan_step journal query matcher start finish entry rest hroom
    scanned
  rw [attempt_of_reliable hreliable, attempt_of_reliable hreliable, ok_bind, ok_bind] at hscan
  rw [hscan]
  cases hnext with
  | stop hstop =>
      obtain ⟨-, hdesc | ⟨hasc, -, hlate⟩⟩ := hstop
      · exact .inl ⟨.inl hdesc, rfl⟩
      · exact .inl ⟨.inr ⟨hasc, hlate⟩, rfl⟩
  | skip hgo hskip =>
      right
      rw [windowRow_eq_none_of_not_looksAt hfinish hskip, Option.toList_none, List.append_nil]
  | look hlook =>
      obtain ⟨result, hresult⟩ := entryRow_reads_ok query matcher entry entry.timestampUsec
      have hwindow : windowRow query matcher start finish entry = result := by
        rw [windowRow, if_pos hlook.2, hresult]
        rfl
      right
      rw [reads_of_reliable hreliable, hresult, ok_bind, hwindow]

/-- **The scan collects the rows ahead**, one more than the limit at most. -/
theorem scan_reliable {journal : Journal} (hreliable : journal.Reliable) (query : LogQuery)
    (matcher : Option GrepMatcher) (start : Int) {finish : Int} (hfinish : finish < 2 ^ 63)
    {entries : List JournalEntry} (hsorted : SortedIn query.order entries)
    {rows : List JournalLogEntry} (hrows : rows.length ≤ query.limit + 1) (scanned : Nat) :
    ∃ total, scan journal query matcher start finish entries rows scanned
      = .ok ((rows ++ entries.filterMap (windowRow query matcher start finish)).take
          (query.limit + 1), total) := by
  induction entries generalizing rows scanned with
  | nil =>
      refine ⟨scanned, ?_⟩
      rw [scan, attempt_of_reliable hreliable, List.filterMap_nil, List.append_nil,
        List.take_of_length_le hrows]
      split <;> rfl
  | cons entry rest ih =>
      by_cases hfull : query.limit < rows.length
      · refine ⟨scanned, ?_⟩
        rw [scan, if_pos hfull, List.take_append_of_le_length (by omega),
          List.take_of_length_le (by omega)]
      · rcases scan_cons hreliable query matcher start hfinish entry rest hfull scanned with
          ⟨hpast, hstop⟩ | hstep
        · refine ⟨scanned + 1, ?_⟩
          rw [hstop, filterMap_eq_nil_of_past hsorted hpast, List.append_nil,
            List.take_of_length_le hrows]
        · have hgrown : (rows ++ (windowRow query matcher start finish entry).toList).length
              ≤ query.limit + 1 := by
            have hone : (windowRow query matcher start finish entry).toList.length ≤ 1 := by
              cases windowRow query matcher start finish entry <;> simp
            rw [List.length_append]
            omega
          obtain ⟨total, htotal⟩ := ih hsorted.tail hgrown (scanned + 1)
          refine ⟨total, ?_⟩
          rw [hstep, htotal, List.append_assoc]
          cases hrow : windowRow query matcher start finish entry with
          | none => rw [List.filterMap_cons_none hrow, Option.toList_none, List.nil_append]
          | some row =>
              rw [List.filterMap_cons_some hrow, Option.toList_some, List.singleton_append]

/-! ## What a page leaves -/

/-- The rows a query has still to return. -/
def LogQuery.remaining (query : LogQuery) (entries : List JournalEntry) : List JournalLogEntry :=
  (query.behind entries).filterMap query.row

/-- The entries before the window's near edge have no rows, so seeking past them loses none. -/
theorem seekWindow_reliable {journal : Journal} (hreliable : journal.Reliable)
    (query : LogQuery) (matcher : Option GrepMatcher) (start finish : Int) :
    ∃ position, seekWindow journal query.order start finish = .ok position
      ∧ (ahead query.order position journal.entries).filterMap
          (windowRow query matcher start finish)
        = (inOrder query.order journal.entries).filterMap
          (windowRow query matcher start finish) := by
  cases horder : query.order with
  | desc =>
      have hdrop := filterMap_dropWhile (f := windowRow query matcher start finish)
        (p := beforeTime .desc finish)
        (fun e he => windowRow_eq_none (.inr (of_decide_eq_true he))) journal.entries.reverse
      rw [seekWindow, attempt_of_reliable hreliable, attempt_of_reliable hreliable]
      split
      · exact ⟨.realtime finish, rfl, hdrop⟩
      · exact ⟨.tail, rfl, rfl⟩
  | asc =>
      have hdrop := filterMap_dropWhile (f := windowRow query matcher start finish)
        (p := beforeTime .asc start)
        (fun e he => windowRow_eq_none (.inl (of_decide_eq_true he))) journal.entries
      rw [seekWindow, attempt_of_reliable hreliable, attempt_of_reliable hreliable]
      split
      · exact ⟨.realtime start, rfl, hdrop⟩
      · exact ⟨.head, rfl, rfl⟩

/-- What a request's theorem asks of its query: a window in the years that can be written, and a
search that compiles. -/
structure Ready (query : LogQuery) (start finish : DateTime) (matcher : Option GrepMatcher) :
    Prop where
  startUtc : query.startUtc = some start
  endUtc : query.endUtc = some finish
  inYears : finish.InYears
  grep : buildGrepMatcher query.grep = .ok matcher

theorem Ready.row_eq {query : LogQuery} {start finish : DateTime} {matcher : Option GrepMatcher}
    (h : Ready query start finish matcher) :
    query.row = windowRow query matcher start.timestampMicros finish.timestampMicros := by
  funext entry
  rw [LogQuery.row, h.startUtc, h.endUtc, h.grep]

/-- **A request answers with a prefix of what remains**, and says whether that was all. -/
theorem readJournalLogs_reliable {journal : Journal} (hreliable : journal.Reliable)
    (hordered : journal.Ordered) {query : LogQuery} {start finish : DateTime}
    {matcher : Option GrepMatcher} (hready : Ready query start finish matcher)
    (hcursor : ∀ cursor, query.cursor = some cursor →
      cursor ∈ journal.entries.map JournalEntry.cursor) :
    ∃ total, readJournalLogs (.ok journal) query = .ok {
      entries := (query.remaining journal.entries).take query.limit
      totalScanned := some total
      hasMore := decide (query.limit < (query.remaining journal.entries).length) } := by
  obtain ⟨position, hposition, hahead⟩ : ∃ position,
      startPosition journal query start.timestampMicros finish.timestampMicros = .ok position
      ∧ (ahead query.order position journal.entries).filterMap query.row
        = query.remaining journal.entries := by
    rw [LogQuery.remaining, LogQuery.behind, startPosition]
    cases hc : query.cursor with
    | some cursor =>
        refine ⟨.entry cursor, positionAtExactCursor_reliable hreliable (hcursor cursor hc), ?_⟩
        rfl
    | none =>
        rw [hready.row_eq]
        exact seekWindow_reliable hreliable query matcher _ _
  obtain ⟨total, hscan⟩ := scan_reliable hreliable query matcher start.timestampMicros
    (timestampMicros_lt hready.inYears)
    ((sortedIn_inOrder hordered query.order).sublist (ahead_sublist query.order position _))
    (show ([] : List JournalLogEntry).length ≤ query.limit + 1 from Nat.zero_le _) 0
  refine ⟨total, ?_⟩
  rw [← hready.row_eq, hahead, List.nil_append] at hscan
  have hmore : query.limit < ((query.remaining journal.entries).take (query.limit + 1)).length
      ↔ query.limit < (query.remaining journal.entries).length := by
    rw [List.length_take]
    omega
  have htake : ((query.remaining journal.entries).take (query.limit + 1)).take query.limit
      = (query.remaining journal.entries).take query.limit := by
    rw [List.take_take, Nat.min_eq_left (Nat.le_succ _)]
  have hopened : (Except.ok journal : Except String Journal).mapError
      (fun err => AppError.internalError s!"failed to open journald reader: {err}")
        = .ok journal := rfl
  rw [readJournalLogs, hopened, hready.startUtc, hready.endUtc, hready.grep, ok_bind, ok_bind]
  dsimp only
  rw [hposition, ok_bind, hscan, ok_bind]
  simp only [hmore, htake]
  rfl

/-! ## From page to page -/

/-- **The next cursor resumes where the page ended.** -/
theorem remaining_next {journal : Journal} (hordered : journal.Ordered) {query : LogQuery}
    {limit : Nat} (hlimit : 1 ≤ limit)
    (hmore : limit < (query.remaining journal.entries).length) :
    ∃ cursor, (((query.remaining journal.entries).take limit).getLast?.bind JournalLogEntry.cursor)
        = some cursor
      ∧ cursor ∈ journal.entries.map JournalEntry.cursor
      ∧ ({ query with cursor := some cursor } : LogQuery).remaining journal.entries
        = (query.remaining journal.entries).drop limit := by
  obtain ⟨front, hfront⟩ := behind_suffix query journal.entries
  obtain ⟨pre, entry, post, row, hsplit, hrow, htake, hdrop⟩ :=
    exists_split_take query.row (l := query.behind journal.entries) hlimit hmore.le
  rw [hsplit, ← List.append_assoc] at hfront
  have hcursor : row.cursor = some entry.cursor := by
    rw [LogQuery.row] at hrow
    split at hrow
    · exact cursor_of_entryRow (windowRow_eq_some_iff.mp hrow).2
    · cases hrow
  have hnodup := nodup_inOrder hordered query.order
  have hmem : entry ∈ inOrder query.order journal.entries := by
    rw [← hfront]
    simp
  rw [← hfront, List.map_append, List.map_cons] at hnodup
  have hfresh : entry.cursor ∉ (front ++ pre).map JournalEntry.cursor := by
    intro h
    exact (List.nodup_append.mp hnodup).2.2 _ h _ (List.mem_cons_self ..) rfl
  refine ⟨entry.cursor, ?_, ?_, ?_⟩
  · rw [LogQuery.remaining, htake, List.getLast?_append_of_ne_nil _ (by simp)]
    exact hcursor
  · refine List.mem_map_of_mem ?_
    cases horder : query.order with
    | asc => rwa [horder] at hmem
    | desc =>
        rw [horder] at hmem
        exact List.mem_reverse.mp hmem
  · rw [LogQuery.remaining, LogQuery.remaining, hdrop]
    show (after JournalEntry.cursor entry.cursor (inOrder query.order journal.entries)).filterMap
      query.row = _
    rw [← hfront, after_split hfresh]

/-- What new entries add to what a query with a cursor has to return. -/
def LogQuery.gain (query : LogQuery) (new : List JournalEntry) : List JournalLogEntry :=
  match query.order with
  | .asc => new.filterMap query.row
  | .desc => []

/-- **Appended entries are behind every cursor of an ascending query**, and of no other. -/
theorem remaining_grow {query : LogQuery} {cursor : String} (hquery : query.cursor = some cursor)
    {entries new : List JournalEntry}
    (hnodup : ((entries ++ new).map JournalEntry.cursor).Nodup)
    (hmem : cursor ∈ entries.map JournalEntry.cursor) :
    query.remaining (entries ++ new) = query.remaining entries ++ query.gain new := by
  simp only [LogQuery.remaining, LogQuery.behind, LogQuery.gain, hquery]
  cases query.order with
  | asc =>
      dsimp only [inOrder]
      rw [after_append_of_mem hmem, List.filterMap_append]
  | desc =>
      have hfresh : cursor ∉ new.reverse.map JournalEntry.cursor := by
        intro h
        rw [List.map_reverse, List.mem_reverse] at h
        rw [List.map_append] at hnodup
        exact (List.nodup_append.mp hnodup).2.2 _ hmem _ h rfl
      dsimp only [inOrder]
      rw [List.reverse_append, after_append_of_not_mem hfresh, List.append_nil]

/-! ## Runs -/

/-- What arrives before each visit, and how much it may return. -/
def LogQuery.arrivals (query : LogQuery) :
    List JournalEntry → List (Journal × Nat) → List (List JournalLogEntry × Nat)
  | _, [] => []
  | entries, (journal, limit) :: visits =>
      (query.gain (journal.entries.drop entries.length), limit)
        :: query.arrivals journal.entries visits

theorem arrivals_cursor (query : LogQuery) (cursor : Option String)
    (entries : List JournalEntry) (visits : List (Journal × Nat)) :
    ({ query with cursor := cursor } : LogQuery).arrivals entries visits
      = query.arrivals entries visits := by
  induction visits generalizing entries with
  | nil => rfl
  | cons visit visits ih =>
      rw [LogQuery.arrivals, LogQuery.arrivals, ih]
      rfl

theorem length_arrivals (query : LogQuery) (entries : List JournalEntry)
    (visits : List (Journal × Nat)) : (query.arrivals entries visits).length = visits.length := by
  induction visits generalizing entries with
  | nil => rfl
  | cons visit visits ih => rw [LogQuery.arrivals, List.length_cons, ih, List.length_cons]

/-- One visit, and the visits that its page leads to. -/
theorem paginate_cons {journal : Journal} (hreliable : journal.Reliable)
    (hordered : journal.Ordered) {query : LogQuery} {start finish : DateTime}
    {matcher : Option GrepMatcher} (hready : Ready query start finish matcher)
    (hcursor : ∀ cursor, query.cursor = some cursor →
      cursor ∈ journal.entries.map JournalEntry.cursor)
    {limit : Nat} (hlimit : 1 ≤ limit) (visits : List (Journal × Nat)) :
    (¬ limit < (query.remaining journal.entries).length
      ∧ ∃ page, paginate query ((journal, limit) :: visits) = .ok [page]
        ∧ page.abs = ⟨(query.remaining journal.entries).take limit, false⟩)
    ∨ (limit < (query.remaining journal.entries).length
      ∧ ∃ page cursor, page.abs = ⟨(query.remaining journal.entries).take limit, true⟩
        ∧ cursor ∈ journal.entries.map JournalEntry.cursor
        ∧ ({ query with cursor := some cursor } : LogQuery).remaining journal.entries
          = (query.remaining journal.entries).drop limit
        ∧ paginate query ((journal, limit) :: visits)
          = (paginate { query with cursor := some cursor } visits >>= fun pages =>
              .ok (page :: pages))) := by
  have hready' : Ready { query with limit := limit } start finish matcher :=
    ⟨hready.startUtc, hready.endUtc, hready.inYears, hready.grep⟩
  obtain ⟨total, hread⟩ := readJournalLogs_reliable hreliable hordered hready' hcursor
  have hsame : ({ query with limit := limit } : LogQuery).remaining journal.entries
      = query.remaining journal.entries := rfl
  rw [hsame] at hread
  by_cases hmore : limit < (query.remaining journal.entries).length
  · right
    obtain ⟨cursor, hlast, hmem, hnext⟩ := remaining_next hordered hlimit hmore
    refine ⟨hmore, ⟨(query.remaining journal.entries).take limit, true, some cursor⟩, cursor, rfl,
      hmem, hnext, ?_⟩
    rw [paginate, hread, ok_bind]
    simp only [LogQueryResult.page, LogQueryResult.nextCursor, hmore, decide_true, if_true, hlast]
    rfl
  · left
    refine ⟨hmore, ⟨(query.remaining journal.entries).take limit, false, none⟩, ?_, rfl⟩
    rw [paginate, hread, ok_bind]
    simp only [LogQueryResult.page, LogQueryResult.nextCursor, hmore, decide_false,
      Bool.false_eq_true, if_false]
    rfl

/-- A visit makes a page, and its rows and those of the visits it leads to are the library's. -/
theorem paginate_visit {journal : Journal} (hreliable : journal.Reliable)
    (hordered : journal.Ordered) {query : LogQuery} {start finish : DateTime}
    {matcher : Option GrepMatcher} (hready : Ready query start finish matcher)
    (hcursor : ∀ cursor, query.cursor = some cursor →
      cursor ∈ journal.entries.map JournalEntry.cursor)
    {limit : Nat} (hlimit : 1 ≤ limit) {visits : List (Journal × Nat)}
    (hrest : ∀ {next : LogQuery} {cursor : String}, Ready next start finish matcher →
      next.cursor = some cursor → cursor ∈ journal.entries.map JournalEntry.cursor →
      ∃ run, paginate next visits = .ok run
        ∧ run.map LogsPage.abs
          = pages (next.remaining journal.entries) (next.arrivals journal.entries visits)) :
    ∃ run, paginate query ((journal, limit) :: visits) = .ok run
      ∧ run.map LogsPage.abs
        = ⟨(query.remaining journal.entries).take limit,
            decide (limit < (query.remaining journal.entries).length)⟩
          :: if limit < (query.remaining journal.entries).length then
            pages ((query.remaining journal.entries).drop limit)
              (query.arrivals journal.entries visits)
          else [] := by
  rcases paginate_cons hreliable hordered hready hcursor hlimit visits with
    ⟨hlast, page, hpaginate, hpage⟩ | ⟨hmore, page, cursor, hpage, hmem, hdrop, hpaginate⟩
  · refine ⟨[page], hpaginate, ?_⟩
    rw [List.map_singleton, hpage]
    simp only [hlast, decide_false, if_false]
  · have hnext : Ready { query with cursor := some cursor } start finish matcher :=
      ⟨hready.startUtc, hready.endUtc, hready.inYears, hready.grep⟩
    obtain ⟨run, hrun, hpages⟩ := hrest hnext rfl hmem
    refine ⟨page :: run, ?_, ?_⟩
    · rw [hpaginate, hrun, ok_bind]
    · rw [List.map_cons, hpage, hpages, hdrop, arrivals_cursor]
      simp only [hmore, decide_true, if_true]

/-- **A run from a cursor is a run of the library's pages.** -/
theorem paginate_run {query : LogQuery} {start finish : DateTime}
    {matcher : Option GrepMatcher} (hready : Ready query start finish matcher)
    {entries : List JournalEntry} {cursor : String} (hquery : query.cursor = some cursor)
    (hmem : cursor ∈ entries.map JournalEntry.cursor) {visits : List (Journal × Nat)}
    (hvisits : Appending entries visits) :
    ∃ run, paginate query visits = .ok run
      ∧ run.map LogsPage.abs = pages (query.remaining entries) (query.arrivals entries visits) := by
  induction visits generalizing query entries cursor with
  | nil => exact ⟨[], rfl, rfl⟩
  | cons visit visits ih =>
      obtain ⟨journal, limit⟩ := visit
      obtain ⟨hreliable, hordered, hlimit, ⟨new, hnew⟩, happending⟩ := hvisits
      have hcursor : ∀ c, query.cursor = some c →
          c ∈ journal.entries.map JournalEntry.cursor := by
        intro c hc
        rw [hquery, Option.some.injEq] at hc
        rw [← hc, hnew, List.map_append]
        exact List.mem_append_left _ hmem
      have hgrow := remaining_grow hquery (hnew ▸ hordered.cursors) hmem
      have hdrop : journal.entries.drop entries.length = new := by
        rw [hnew, List.drop_left]
      rw [← hnew] at hgrow
      simp only [LogQuery.arrivals, hdrop, pages]
      rw [← hgrow]
      exact paginate_visit hreliable hordered hready hcursor hlimit
        fun hnext hnextCursor hnextMem => ih hnext hnextCursor hnextMem happending

/-- A run from a journal's end is one too, when nothing has arrived before its first page. -/
theorem paginate_run_first {query : LogQuery} {start finish : DateTime}
    {matcher : Option GrepMatcher} (hready : Ready query start finish matcher)
    (hquery : query.cursor = none) {first : Journal} {limit : Nat} {visits : List (Journal × Nat)}
    (hvisits : Appending first.entries ((first, limit) :: visits)) :
    ∃ run, paginate query ((first, limit) :: visits) = .ok run
      ∧ run.map LogsPage.abs = pages (query.remaining first.entries)
          (query.arrivals first.entries ((first, limit) :: visits)) := by
  obtain ⟨hreliable, hordered, hlimit, -, happending⟩ := hvisits
  have hcursor : ∀ c, query.cursor = some c → c ∈ first.entries.map JournalEntry.cursor := by
    intro c hc
    rw [hquery] at hc
    cases hc
  have hgain : query.gain (first.entries.drop first.entries.length) = [] := by
    rw [List.drop_length, LogQuery.gain]
    cases query.order <;> rfl
  simp only [LogQuery.arrivals, hgain, pages, List.append_nil]
  exact paginate_visit hreliable hordered hready hcursor hlimit
    fun hnext hnextCursor hnextMem => paginate_run hnext hnextCursor hnextMem happending

/-- All that arrives in an ascending run is the rows of what has been appended. -/
theorem arrivals_flatMap (query : LogQuery) {entries : List JournalEntry}
    {visits : List (Journal × Nat)} (hvisits : Appending entries visits) (n : Nat) :
    ((query.arrivals entries visits).take n).flatMap Prod.fst
      = query.gain ((entriesAt entries visits n).drop entries.length) := by
  have hnil : query.gain [] = [] := by
    rw [LogQuery.gain]
    cases query.order <;> rfl
  induction visits generalizing entries n with
  | nil => cases n <;> simp [LogQuery.arrivals, entriesAt, hnil]
  | cons visit visits ih =>
      obtain ⟨journal, limit⟩ := visit
      cases n with
      | zero => simp [entriesAt, hnil]
      | succ n =>
          obtain ⟨-, -, -, ⟨new, hnew⟩, happending⟩ := hvisits
          obtain ⟨new', hnew'⟩ := entriesAt_append happending n
          have hall : (entriesAt journal.entries visits n).drop entries.length = new ++ new' := by
            rw [hnew', hnew, List.append_assoc, List.drop_left]
          rw [LogQuery.arrivals, List.take_succ_cons, List.flatMap_cons, ih happending n, hnew',
            List.drop_left, entriesAt, hall, hnew, List.drop_left, LogQuery.gain, LogQuery.gain,
            LogQuery.gain]
          cases query.order with
          | asc => exact (List.filterMap_append ..).symm
          | desc => rfl

/-! ## Paging is exact -/

/-- A page that is read has a search that compiles. -/
theorem grep_of_readJournalLogs {query : LogQuery} {opened : Except String Journal}
    {result : LogQueryResult} (hread : readJournalLogs opened query = .ok result) :
    ∃ matcher, buildGrepMatcher query.grep = .ok matcher := by
  rw [readJournalLogs, bind_eq_ok] at hread
  obtain ⟨journal, -, hread⟩ := hread
  rw [bind_eq_ok] at hread
  obtain ⟨matcher, hgrep, -⟩ := hread
  exact ⟨matcher, hgrep⟩

/-- A search that does not compile ends the run at its first page. -/
theorem grep_of_paginate {query : LogQuery} {journal : Journal} {limit : Nat}
    {visits : List (Journal × Nat)} {run : List LogsPage}
    (hrun : paginate query ((journal, limit) :: visits) = .ok run) :
    ∃ matcher, buildGrepMatcher query.grep = .ok matcher := by
  rw [paginate, bind_eq_ok] at hrun
  obtain ⟨result, hread, -⟩ := hrun
  obtain ⟨matcher, hgrep⟩ := grep_of_readJournalLogs hread
  exact ⟨matcher, hgrep⟩

/-- **Paging has no gaps and no duplicates**: the pages of a finished run are, newest first, the
rows of the journal as it was at the first page, or, oldest first, the rows of the journal as it
was at the last; and a run whose search compiles goes through, each visit a page until it is
finished. -/
theorem paging_exact [LawfulChrono] {params : LogsQueryParams} {query : LogQuery}
    (hquery : buildLogQuery params = .ok query) (hcursor : query.cursor = none) {first : Journal}
    {limit : Nat} {visits : List (Journal × Nat)}
    (hvisits : Appending first.entries ((first, limit) :: visits)) :
    ((∃ matcher, buildGrepMatcher query.grep = .ok matcher) →
      ∃ run, paginate query ((first, limit) :: visits) = .ok run
        ∧ (run.length < ((first, limit) :: visits).length →
          ∃ last, run.getLast? = some last ∧ last.truncated = false))
    ∧ ∀ run, paginate query ((first, limit) :: visits) = .ok run →
      ∀ last, run.getLast? = some last → last.truncated = false →
        run.flatMap LogsPage.rows
          = match query.order with
            | .desc => first.entries.reverse.filterMap query.row
            | .asc =>
                (entriesAt first.entries ((first, limit) :: visits) run.length).filterMap
                  query.row := by
  obtain ⟨start, finish, hvalid⟩ := buildLogQuery_valid hquery
  have hready : ∀ matcher, buildGrepMatcher query.grep = .ok matcher →
      Ready query start finish matcher := by
    intro matcher hgrep
    exact ⟨hvalid.startUtc, hvalid.endUtc, buildLogQuery_inYears hquery hvalid.endUtc, hgrep⟩
  constructor
  · rintro ⟨matcher, hgrep⟩
    obtain ⟨run, hrun, hpages⟩ := paginate_run_first (hready matcher hgrep) hcursor hvisits
    refine ⟨run, hrun, fun hshort => ?_⟩
    rw [← List.length_map (f := LogsPage.abs), hpages, ← length_arrivals query first.entries]
      at hshort
    obtain ⟨page, hpage, hmore⟩ := complete_of_length_lt hshort
    rw [← hpages, List.getLast?_map, Option.map_eq_some_iff] at hpage
    obtain ⟨last, hlast, rfl⟩ := hpage
    exact ⟨last, hlast, hmore⟩
  · intro run hrun last hlast htruncated
    obtain ⟨matcher, hgrep⟩ := grep_of_paginate hrun
    obtain ⟨run', hrun', hpages⟩ := paginate_run_first (hready matcher hgrep) hcursor hvisits
    obtain rfl : run' = run := Except.ok.inj (hrun'.symm.trans hrun)
    rw [flatMap_rows_of_pages hpages hlast htruncated, arrivals_flatMap query hvisits,
      LogQuery.remaining, LogQuery.behind, hcursor, LogQuery.gain]
    cases query.order with
    | desc => exact List.append_nil _
    | asc =>
        obtain ⟨new, hnew⟩ := entriesAt_append hvisits run'.length
        dsimp only [inOrder]
        rw [hnew, List.drop_left, List.filterMap_append]

end Rows

/-! ## What can go wrong -/

theorem attempt_error {journal : Journal} {op : ReadOp} {what : String} {e : AppError}
    (h : journal.attempt op what = .error e) : e.isInternal = true := by
  rw [Journal.attempt] at h
  split at h <;> cases h
  rfl

theorem readJournalField_error {reads : EntryReads} {name : String} {e : AppError}
    (h : readJournalField reads name = .error e) : e.isInternal = true := by
  rw [readJournalField] at h
  cases hf : reads.field name with
  | ok value => rw [hf] at h; cases h
  | error err => rw [hf] at h; cases h; rfl

section Errors

variable [Chrono] [RegexEngine]

theorem entryRow_error {query : LogQuery} {matcher : Option GrepMatcher} {reads : EntryReads}
    {timestampUsec : Nat} {e : AppError}
    (h : entryRow query matcher reads timestampUsec = .error e) : e.isInternal = true := by
  have hfield : ∀ {β : Type} {name : String} {f : Option String → Except AppError β},
      (readJournalField reads name >>= f) = .error e →
      (∀ value, f value = .error e → e.isInternal = true) → e.isInternal = true := by
    intro β name f hbind hf
    rw [bind_eq_error] at hbind
    rcases hbind with herr | ⟨value, -, herr⟩
    · exact readJournalField_error herr
    · exact hf value herr
  rw [entryRow] at h
  refine hfield h fun systemUnit h => hfield h fun userUnit h => ?_
  dsimp only at h
  split at h
  · cases h
  · split at h
    · cases h
    · refine hfield h fun priority h => ?_
      split at h
      · cases h
      · refine hfield h fun hostname h => hfield h fun pid h => hfield h fun message h => ?_
        split at h <;> cases h

theorem scan_error {journal : Journal} {query : LogQuery} {matcher : Option GrepMatcher}
    {start finish : Int} {entries : List JournalEntry} {rows : List JournalLogEntry}
    {scanned : Nat} {e : AppError}
    (h : scan journal query matcher start finish entries rows scanned = .error e) :
    e.isInternal = true := by
  induction entries generalizing rows scanned with
  | nil =>
      rw [scan] at h
      split at h
      · cases h
      · rw [bind_eq_error] at h
        rcases h with h | ⟨_, -, h⟩
        · exact attempt_error h
        · cases h
  | cons entry rest ih =>
      by_cases hfull : query.limit < rows.length
      · rw [scan, if_pos hfull] at h
        cases h
      · obtain ⟨next, hnext, hscan⟩ := scan_step journal query matcher start finish entry rest
          hfull scanned
        rw [hscan, bind_eq_error] at h
        rcases h with h | ⟨_, -, h⟩
        · exact attempt_error h
        · rw [bind_eq_error] at h
          rcases h with h | ⟨_, -, h⟩
          · exact attempt_error h
          · cases hnext with
            | stop => cases h
            | skip => exact ih h
            | look =>
                rw [bind_eq_error] at h
                rcases h with h | ⟨row, -, h⟩
                · exact entryRow_error h
                · exact ih h

omit [Chrono] [RegexEngine] in
theorem startPosition_error {journal : Journal} {query : LogQuery} {start finish : Int}
    {e : AppError} (h : startPosition journal query start finish = .error e) :
    e.isRejection = false := by
  have hcursor : invalidCursorError.isRejection = false := by decide
  have hseek : ∀ {what : String} {position : Position},
      (journal.attempt .seek what >>= fun _ => Except.ok position) = .error e →
      e.isRejection = false := by
    intro what position hbind
    rw [bind_eq_error] at hbind
    rcases hbind with herr | ⟨_, -, herr⟩
    · exact AppError.isRejection_of_isInternal (attempt_error herr)
    · cases herr
  rw [startPosition] at h
  split at h
  · rw [positionAtExactCursor] at h
    split at h
    · cases h
      exact hcursor
    · split at h
      · cases h
        exact hcursor
      · split at h <;> cases h
        exact hcursor
  · unfold seekWindow at h
    split at h <;> split at h <;> exact hseek h

/-- The only argument that a journal reader rejects is a search that does not compile. -/
theorem readJournalLogs_rejection {opened : Except String Journal} {query : LogQuery}
    {e : AppError} (h : readJournalLogs opened query = .error e) (he : e.isRejection = true) :
    (∃ journal, opened = .ok journal) ∧ buildGrepMatcher query.grep = .error e := by
  have hno : e.isRejection ≠ false := by rw [he]; decide
  cases opened with
  | error err =>
      cases h
      exact absurd rfl hno
  | ok journal =>
      refine ⟨⟨journal, rfl⟩, ?_⟩
      rw [readJournalLogs, bind_eq_error] at h
      rcases h with h | ⟨_, -, h⟩
      · cases h
      · rw [bind_eq_error] at h
        rcases h with h | ⟨matcher, -, h⟩
        · exact h
        · exfalso
          split at h
          · rw [bind_eq_error] at h
            rcases h with h | ⟨position, -, h⟩
            · exact hno (startPosition_error h)
            · rw [bind_eq_error] at h
              rcases h with h | ⟨result, -, h⟩
              · exact hno (AppError.isRejection_of_isInternal (scan_error h))
              · cases h
          · cases h
            exact hno (by decide)

omit [Chrono] in
theorem buildGrepMatcher_error {grep : Option String} {e : AppError}
    (h : buildGrepMatcher grep = .error e) : e.isRejection = true := by
  unfold buildGrepMatcher at h
  split at h
  · cases h
  · dsimp only at h
    split at h
    · cases h
    · split at h
      · split at h <;> cases h
        decide
      · cases h

/-- It rejects it once the journal is open. -/
theorem readJournalLogs_of_grep {query : LogQuery} {e : AppError}
    (h : buildGrepMatcher query.grep = .error e) (journal : Journal) :
    readJournalLogs (.ok journal) query = .error e := by
  rw [readJournalLogs, h]
  rfl

end Errors

/-! ## A growing journal -/

/-- The first hour of the month, oldest first. -/
def firstHourParams : LogsQueryParams :=
  { monthOfLogs with endUtc := some "2026-01-01T01:00:00Z", order := some "asc" }

def firstHourQuery : LogQuery where
  scope := .system
  priority := none
  unit := none
  excludeUnits := []
  grep := none
  order := .asc
  startUtc := some (.ofSecs 1767225600)
  endUtc := some (.ofSecs 1767229200)
  limit := 200
  cursor := none

def bootEntry (cursor : String) (timestampUsec : Nat) : JournalEntry where
  cursor := cursor
  timestampUsec := timestampUsec
  fields := [("_SYSTEMD_UNIT", "boot.service"), ("PRIORITY", "6"), ("MESSAGE", "up")]

/-- Two entries of that hour, and whatever has come since. -/
def bootJournal (later : List JournalEntry) : Journal where
  entries := [bootEntry "s=1;i=1" 1767225601000000, bootEntry "s=1;i=2" 1767225602000000] ++ later
  nearest := fun _ => none
  fault := fun _ => none

/-- Pages of one row; a third entry arrives before the second of them. -/
def bootVisits : List (Journal × Nat) :=
  [(bootJournal [bootEntry "s=1;i=3" 1767225602000000], 1),
    (bootJournal [bootEntry "s=1;i=3" 1767225602000000], 1)]

theorem bootVisits_appending :
    Appending (bootJournal []).entries ((bootJournal [], 1) :: bootVisits) := by
  have hreliable : ∀ later, (bootJournal later).Reliable := fun _ _ => rfl
  exact ⟨hreliable _, ⟨by decide, by decide⟩, Nat.le_refl 1, ⟨[], rfl⟩,
    hreliable _, ⟨by decide, by decide⟩, Nat.le_refl 1,
      ⟨[bootEntry "s=1;i=3" 1767225602000000], rfl⟩,
    hreliable _, ⟨by decide, by decide⟩, Nat.le_refl 1, ⟨[], rfl⟩, trivial⟩

theorem paging_exact_growing : ∃ run,
    @paginate rfc3339 noRegex firstHourQuery ((bootJournal [], 1) :: bootVisits) = .ok run
      ∧ run.length = 3
      ∧ run.flatMap LogsPage.rows
        = (bootJournal [bootEntry "s=1;i=3" 1767225602000000]).entries.filterMap
          (@LogQuery.row rfc3339 noRegex firstHourQuery) := by
  have h := @paging_exact rfc3339 noRegex lawful_rfc3339 firstHourParams firstHourQuery rfl rfl
    (bootJournal []) 1 bootVisits bootVisits_appending
  refine ⟨_, rfl, rfl, ?_⟩
  exact h.2 _ rfl _ rfl rfl

end SystemdMonitoring
