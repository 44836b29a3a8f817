/-
# `SystemdMonitoring.Systemd.Journal` — journal entries and the filter chain

A journal is the list of entries a reader can see, oldest first.  Reading it can
fail at any single operation, and `fault` says which; a reliable journal has no
faults.  Navigation is given by `ahead`: what repeated `next` (or `previous`)
selects after a seek, in turn.

`entryRow` is the filter chain of the scan loop behind its window check.  Which
unit an entry counts for depends on the scope alone (`select_unit_for_scope`),
and with `scope=both` an entry's system unit hides its user unit.  That decides
when `both` accepts all that a single scope accepts (`both_accepts_iff`).
-/
import SystemdMonitoring.Domain.LogQuery

namespace SystemdMonitoring

open Lib Lib.Text

/-- A regular expression library: patterns that compile, and matching. -/
class RegexEngine where
  Regex : Type
  new : String → Option Regex
  isMatch : Regex → String → Bool

/-! ## Messages -/

inductive GrepMatcher [RegexEngine] where
  | substring (value : String)
  | regex (regex : RegexEngine.Regex)

/-- Builds substring or regex matcher from optional grep expression. -/
def buildGrepMatcher [RegexEngine] (grep : Option String) :
    Except AppError (Option GrepMatcher) :=
  match grep with
  | none => .ok none
  | some grep =>
      let trimmed := trim grep
      if trimmed = "" then .ok none
      else if 2 ≤ trimmed.length ∧ startsWith '/' trimmed = true ∧ endsWith "/" trimmed = true then
        match RegexEngine.new (String.ofList (trimmed.toList.drop 1).dropLast) with
        | none => .error (.badRequest "invalid_grep" "grep regex pattern is invalid")
        | some regex => .ok (some (.regex regex))
      else .ok (some (.substring trimmed))

def matchesGrep [RegexEngine] (matcher : Option GrepMatcher) (message : String) : Bool :=
  match matcher with
  | none => true
  | some (.substring value) => contains message value
  | some (.regex regex) => RegexEngine.isMatch regex message

/-- Trims, and replaces control characters other than line breaks and tabs by spaces. -/
def sanitizeLogMessage (message : Option String) : Option String :=
  message.bind (fun value =>
    let trimmed := trim value
    if trimmed = "" then none
    else
      let sanitized := String.ofList (trimmed.toList.map (fun c =>
        if isControl c && c != '\n' && c != '\r' && c != '\t' then ' ' else c))
      let sanitizedTrimmed := trim sanitized
      if sanitizedTrimmed = "" then none else some sanitizedTrimmed)

/-! ## Entries -/

structure JournalEntry where
  cursor : String
  timestampUsec : Nat
  fields : List (String × String)
  deriving DecidableEq, Repr

/-- The value of a field, its first one. -/
def JournalEntry.field (entry : JournalEntry) (name : String) : Option String :=
  entry.fields.lookup name

/-- The reads of an entry, and how each of them may fail. -/
structure EntryReads where
  field : String → Except String (Option String)
  cursor : Except String String

/-- Reads that succeed. -/
def JournalEntry.reads (entry : JournalEntry) : EntryReads where
  field := fun name => .ok (entry.field name)
  cursor := .ok entry.cursor

def readJournalField (reads : EntryReads) (name : String) : Except AppError (Option String) :=
  (reads.field name).mapError
    (fun err => .internalError s!"failed to read journald field {name}: {err}")

/-- Selects the output unit field according to the requested journal scope. -/
def selectUnitForScope (scope : UnitScope) (systemUnit userUnit : Option String) :
    Option String :=
  match scope with
  | .system => systemUnit
  | .user => userUnit
  | .both => systemUnit.or userUnit

/-- The unit an entry counts for. -/
def JournalEntry.unit (entry : JournalEntry) (scope : UnitScope) : Option String :=
  selectUnitForScope scope (entry.field "_SYSTEMD_UNIT") (entry.field "_SYSTEMD_USER_UNIT")

@[simp] theorem readJournalField_reads (entry : JournalEntry) (name : String) :
    readJournalField entry.reads name = .ok (entry.field name) := rfl

/-! ## The filter chain -/

/-- The unit and exclude filters. -/
def unitAccepted (query : LogQuery) (unit : Option String) : Bool :=
  (match query.unit with
    | none => true
    | some unitFilter => unit.any (fun entryUnit => eqIgnoreAsciiCase entryUnit unitFilter))
  && !(unit.any (fun unit =>
    query.excludeUnits.any (fun excluded => eqIgnoreAsciiCase excluded unit)))

/-- The numeric priority of a query. -/
def LogQuery.threshold (query : LogQuery) : Option Nat :=
  query.priority.bind (parseUnsigned 255)

/-- The priority filter: a threshold takes entries that have a priority and reach it. -/
def priorityAccepted (threshold priority : Option Nat) : Bool :=
  match threshold with
  | none => true
  | some maxPriority => priority.any (fun entryPriority => entryPriority ≤ maxPriority)

/-- The grep filter: an entry without a message passes only when nothing is searched. -/
def messageAccepted [RegexEngine] (query : LogQuery) (matcher : Option GrepMatcher)
    (message : Option String) : Bool :=
  match message with
  | some message => matchesGrep matcher message
  | none => query.grep.isNone

/-- The part of the loop body behind the window check: the row of an entry that passes. -/
def entryRow [Chrono] [RegexEngine] (query : LogQuery) (matcher : Option GrepMatcher)
    (reads : EntryReads) (timestampUsec : Nat) : Except AppError (Option JournalLogEntry) := do
  let systemUnit ← readJournalField reads "_SYSTEMD_UNIT"
  let userUnit ← readJournalField reads "_SYSTEMD_USER_UNIT"
  let unit := selectUnitForScope query.scope systemUnit userUnit
  if !unitAccepted query unit then .ok none
  else
    match DateTime.fromTimestampMicros timestampUsec with
    | none => .ok none
    | some timestamp => do
        let priority := (← readJournalField reads "PRIORITY").bind (parseUnsigned 255)
        if !priorityAccepted query.threshold priority then .ok none
        else do
          let hostname ← readJournalField reads "_HOSTNAME"
          let pid := (← readJournalField reads "_PID").bind (parseSigned (2 ^ 31 - 1))
          let message := sanitizeLogMessage (← readJournalField reads "MESSAGE")
          if !messageAccepted query matcher message then .ok none
          else .ok (some {
            timestampUtc := Chrono.toRfc3339Millis timestamp
            unit := unit
            priority := priority.map toString
            hostname := hostname
            pid := pid
            message := message
            cursor := reads.cursor.toOption })

/-! ## Scopes and the unit filter -/

/-- The same query in another scope. -/
def LogQuery.withScope (query : LogQuery) (scope : UnitScope) : LogQuery :=
  { query with scope := scope }

/-- The query searches a user unit of this name, and the entry has that user unit under another
system unit, as entries of user services do under their manager's. -/
def HidesUserUnit (query : LogQuery) (entry : JournalEntry) : Prop :=
  ∃ unitFilter systemUnit userUnit, query.unit = some unitFilter
    ∧ entry.field "_SYSTEMD_UNIT" = some systemUnit
    ∧ eqIgnoreAsciiCase systemUnit unitFilter = false
    ∧ entry.field "_SYSTEMD_USER_UNIT" = some userUnit
    ∧ eqIgnoreAsciiCase userUnit unitFilter = true

/-- Without exclusions the unit filters compare one unit with one name. -/
theorem unitAccepted_of_no_exclude {query : LogQuery} (h : query.excludeUnits = [])
    (unit : Option String) :
    unitAccepted query unit = true
      ↔ ∀ unitFilter, query.unit = some unitFilter →
          unit.any (fun entryUnit => eqIgnoreAsciiCase entryUnit unitFilter) = true := by
  cases hu : query.unit <;> cases unit <;> simp [unitAccepted, h, hu]

/-- Where `both` loses an entry that one scope has: its user unit is searched and hidden. -/
theorem unitAccepted_both_iff {query : LogQuery} (h : query.excludeUnits = [])
    (entry : JournalEntry) :
    (unitAccepted query (entry.unit .system) = true ∨ unitAccepted query (entry.unit .user) = true
        → unitAccepted query (entry.unit .both) = true)
      ↔ ¬ HidesUserUnit query entry := by
  simp only [unitAccepted_of_no_exclude h, JournalEntry.unit, selectUnitForScope, HidesUserUnit]
  cases query.unit with
  | none => simp
  | some unitFilter =>
      cases entry.field "_SYSTEMD_UNIT" with
      | none => cases entry.field "_SYSTEMD_USER_UNIT" <;> simp
      | some systemUnit =>
          cases entry.field "_SYSTEMD_USER_UNIT" with
          | none => simp
          | some userUnit =>
              cases hs : eqIgnoreAsciiCase systemUnit unitFilter <;>
                cases hu : eqIgnoreAsciiCase userUnit unitFilter <;> simp [hs, hu]

/-! ## Acceptance -/

/-- A time in microseconds lies in the query's window, both ends included. -/
def LogQuery.InWindow (query : LogQuery) (timestampUsec : Nat) : Prop :=
  (∃ start, query.startUtc = some start ∧ start.timestampMicros ≤ timestampUsec)
    ∧ ∃ finish, query.endUtc = some finish ∧ (timestampUsec : Int) ≤ finish.timestampMicros

section Acceptance

variable [RegexEngine]

/-- The filters that do not look at units: time, priority and grep. -/
structure PassesOthers (query : LogQuery) (entry : JournalEntry) : Prop where
  window : query.InWindow entry.timestampUsec
  representable : (DateTime.fromTimestampMicros entry.timestampUsec).isSome = true
  priority : priorityAccepted query.threshold
    ((entry.field "PRIORITY").bind (parseUnsigned 255)) = true
  message : ∃ matcher, buildGrepMatcher query.grep = .ok matcher
    ∧ messageAccepted query matcher (sanitizeLogMessage (entry.field "MESSAGE")) = true

/-- Only the unit filters look at the scope. -/
theorem passesOthers_withScope {query : LogQuery} {entry : JournalEntry} (scope : UnitScope) :
    PassesOthers (query.withScope scope) entry ↔ PassesOthers query entry := by
  constructor <;> rintro ⟨hwindow, hrepr, hpriority, hmessage⟩ <;>
    exact ⟨hwindow, hrepr, hpriority, hmessage⟩

variable [Chrono]

/-- The scan of a query turns the entry into a row. -/
def Accepted (query : LogQuery) (entry : JournalEntry) : Prop :=
  query.InWindow entry.timestampUsec ∧ ∃ matcher, buildGrepMatcher query.grep = .ok matcher
    ∧ ∃ row, entryRow query matcher entry.reads entry.timestampUsec = .ok (some row)

/-- The chain over reads that succeed: it never fails, and these are its conditions. -/
theorem entryRow_eq_some_iff {query : LogQuery} {matcher : Option GrepMatcher}
    {entry : JournalEntry} :
    (∃ row, entryRow query matcher entry.reads entry.timestampUsec = .ok (some row))
      ↔ unitAccepted query (entry.unit query.scope) = true
        ∧ (DateTime.fromTimestampMicros entry.timestampUsec).isSome = true
        ∧ priorityAccepted query.threshold
          ((entry.field "PRIORITY").bind (parseUnsigned 255)) = true
        ∧ messageAccepted query matcher (sanitizeLogMessage (entry.field "MESSAGE")) = true := by
  have hunit : selectUnitForScope query.scope (entry.field "_SYSTEMD_UNIT")
      (entry.field "_SYSTEMD_USER_UNIT") = entry.unit query.scope := rfl
  simp only [entryRow, readJournalField_reads, ok_bind, hunit]
  cases unitAccepted query (entry.unit query.scope) with
  | false => simp
  | true =>
      cases DateTime.fromTimestampMicros entry.timestampUsec with
      | none => simp
      | some timestamp =>
          cases priorityAccepted query.threshold
              ((entry.field "PRIORITY").bind (parseUnsigned 255)) with
          | false => simp
          | true =>
              cases messageAccepted query matcher (sanitizeLogMessage (entry.field "MESSAGE"))
                <;> simp

/-- Over reads that succeed the chain has a result. -/
theorem entryRow_reads_ok (query : LogQuery) (matcher : Option GrepMatcher)
    (entry : JournalEntry) (timestampUsec : Nat) :
    ∃ row, entryRow query matcher entry.reads timestampUsec = .ok row := by
  simp only [entryRow, readJournalField_reads, ok_bind]
  split
  · exact ⟨_, rfl⟩
  · split
    · exact ⟨_, rfl⟩
    · split
      · exact ⟨_, rfl⟩
      · split <;> exact ⟨_, rfl⟩

/-- What a row is made of: the entry's time, its message read and sanitized, its cursor. -/
theorem row_of_entryRow {query : LogQuery} {matcher : Option GrepMatcher} {reads : EntryReads}
    {timestampUsec : Nat} {row : JournalLogEntry}
    (h : entryRow query matcher reads timestampUsec = .ok (some row)) :
    ∃ timestamp message, DateTime.fromTimestampMicros timestampUsec = some timestamp
      ∧ readJournalField reads "MESSAGE" = .ok message
      ∧ row.timestampUtc = Chrono.toRfc3339Millis timestamp
      ∧ row.message = sanitizeLogMessage message
      ∧ row.cursor = reads.cursor.toOption := by
  rw [entryRow] at h
  obtain ⟨systemUnit, -, h⟩ := bind_eq_ok.mp h
  obtain ⟨userUnit, -, h⟩ := bind_eq_ok.mp h
  dsimp only at h
  split at h
  · cases h
  · split at h
    · cases h
    case h_2 timestamp htimestamp =>
      obtain ⟨priority, -, h⟩ := bind_eq_ok.mp h
      split at h
      · cases h
      · obtain ⟨hostname, -, h⟩ := bind_eq_ok.mp h
        obtain ⟨pid, -, h⟩ := bind_eq_ok.mp h
        obtain ⟨message, hmessage, h⟩ := bind_eq_ok.mp h
        split at h
        · cases h
        · cases h
          exact ⟨timestamp, message, htimestamp, hmessage, rfl, rfl, rfl⟩

/-- The row of an entry carries its cursor. -/
theorem cursor_of_entryRow {query : LogQuery} {matcher : Option GrepMatcher}
    {entry : JournalEntry} {timestampUsec : Nat} {row : JournalLogEntry}
    (h : entryRow query matcher entry.reads timestampUsec = .ok (some row)) :
    row.cursor = some entry.cursor := by
  obtain ⟨timestamp, message, -, -, -, -, hcursor⟩ := row_of_entryRow h
  exact hcursor

theorem accepted_iff {query : LogQuery} {entry : JournalEntry} :
    Accepted query entry
      ↔ unitAccepted query (entry.unit query.scope) = true ∧ PassesOthers query entry := by
  simp only [Accepted, entryRow_eq_some_iff]
  constructor
  · rintro ⟨hwindow, matcher, hmatcher, hunit, hrepr, hpriority, hmessage⟩
    exact ⟨hunit, hwindow, hrepr, hpriority, matcher, hmatcher, hmessage⟩
  · rintro ⟨hunit, hwindow, hrepr, hpriority, matcher, hmatcher, hmessage⟩
    exact ⟨hwindow, matcher, hmatcher, hunit, hrepr, hpriority, hmessage⟩

/-- **When `scope=both` has all that the single scopes have**: for every entry that passes the
time, priority and grep filters, exactly when its user unit is not hidden. -/
theorem both_accepts_iff (query : LogQuery) (hexclude : query.excludeUnits = [])
    (entry : JournalEntry) :
    (Accepted (query.withScope .system) entry ∨ Accepted (query.withScope .user) entry
        → Accepted (query.withScope .both) entry)
      ↔ ¬ (PassesOthers query entry ∧ HidesUserUnit query entry) := by
  have hunit : ∀ scope unit, unitAccepted (query.withScope scope) unit = unitAccepted query unit :=
    fun _ _ => rfl
  have hscope : ∀ scope, (query.withScope scope).scope = scope := fun _ => rfl
  simp only [accepted_iff, passesOthers_withScope, hunit, hscope]
  have hboth := unitAccepted_both_iff hexclude entry
  by_cases hothers : PassesOthers query entry
  · simpa only [hothers, and_true, true_and] using hboth
  · simp only [hothers, and_false, false_and, or_self, false_imp_iff, not_false_iff]

end Acceptance

/-! ## A user service's entry -/

/-- An engine no pattern of which compiles; for queries that do not search. -/
@[reducible] def noRegex : RegexEngine where
  Regex := Empty
  new := fun _ => none
  isMatch := fun regex _ => nomatch regex

/-- An hour of one user service's log. -/
def userServiceQuery : LogQuery where
  scope := .user
  priority := none
  unit := some "sync.service"
  excludeUnits := []
  grep := none
  order := .desc
  startUtc := some (.ofSecs 1767225600)
  endUtc := some (.ofSecs 1767229200)
  limit := 200
  cursor := none

/-- An entry as the user manager's services write it: both unit fields are there. -/
def userServiceEntry : JournalEntry where
  cursor := "s=1;i=1"
  timestampUsec := 1767225601000000
  fields := [("_SYSTEMD_UNIT", "user@1000.service"), ("_SYSTEMD_USER_UNIT", "sync.service"),
    ("PRIORITY", "6"), ("MESSAGE", "synced")]

theorem userServiceEntry_passesOthers : @PassesOthers noRegex userServiceQuery userServiceEntry :=
  @PassesOthers.mk noRegex _ _ ⟨⟨_, rfl, by decide⟩, ⟨_, rfl, by decide⟩⟩ (by decide) (by decide)
    ⟨none, rfl, rfl⟩

theorem both_accepts_iff_userService :
    (@Accepted noRegex rfc3339 (userServiceQuery.withScope .system) userServiceEntry
        ∨ @Accepted noRegex rfc3339 (userServiceQuery.withScope .user) userServiceEntry
        → @Accepted noRegex rfc3339 (userServiceQuery.withScope .both) userServiceEntry)
      ↔ ¬ (@PassesOthers noRegex userServiceQuery userServiceEntry
        ∧ HidesUserUnit userServiceQuery userServiceEntry) :=
  @both_accepts_iff noRegex rfc3339 userServiceQuery rfl userServiceEntry

/-- The entry is found in the user scope and lost in both. -/
theorem userServiceEntry_lost :
    @buildLogQuery rfc3339
        { monthOfLogs with
          scope := some "user"
          unit := some "sync.service"
          endUtc := some "2026-01-01T01:00:00Z" }
      = .ok userServiceQuery
    ∧ userServiceQuery.excludeUnits = []
    ∧ @Accepted noRegex rfc3339 (userServiceQuery.withScope .user) userServiceEntry
    ∧ ¬ @Accepted noRegex rfc3339 (userServiceQuery.withScope .both) userServiceEntry := by
  refine ⟨rfl, rfl, ?_, ?_⟩
  · exact (@accepted_iff noRegex rfc3339 _ _).mpr
      ⟨by decide, (@passesOthers_withScope noRegex _ _ .user).mpr userServiceEntry_passesOthers⟩
  · intro h
    have hunit := ((@accepted_iff noRegex rfc3339 _ _).mp h).1
    revert hunit
    decide

end SystemdMonitoring
