/-
# `SystemdMonitoring.Systemd.Transitions` — the transitions scan is its specification

`read_unit_transitions` walks a journal back from its tail, within one budget of
steps and another of results, and passes over entries for four reasons.  What
an entry records for a unit, if anything, is a function of the entry
(`recordedTransition`); so the loop is a scan in the sense of `Lib.Scan`, and
its result is that of take, filter, take.

How often the reader is moved is told by the moves that can fail: the run is
that number of moves, and then the result (`transitions_exact`).
-/
import SystemdMonitoring.Lib.Scan
import SystemdMonitoring.Systemd.Snapshot

namespace SystemdMonitoring

open Lib Lib.Text

/-! ## What an entry records -/

/-- The entry has a canonical transition id, belongs to the unit, and has a time that can be
written. -/
def Records (unit : String) (entry : JournalEntry) : Prop :=
  (∃ messageId ∈ entry.field "MESSAGE_ID", messageId ∈ unitTransitionMessageIds.map Prod.fst)
    ∧ (entry.field "UNIT").or (entry.field "USER_UNIT") = some unit
    ∧ (DateTime.fromTimestampMicros entry.timestampUsec).isSome = true

instance (unit : String) : DecidablePred (Records unit) :=
  fun _ => inferInstanceAs (Decidable (_ ∧ _))

theorem transitionKind_isSome_iff (messageId : String) :
    (transitionKind messageId).isSome = true
      ↔ messageId ∈ unitTransitionMessageIds.map Prod.fst := by
  rw [transitionKind, List.lookup_isSome_iff, List.mem_map]
  simp only [beq_iff_eq, @eq_comm String messageId]

section Transitions

variable [Chrono]

/-- The transition of a unit that an entry records, if it does. -/
def recordedTransition (journal : Journal) (unit : String) (entry : JournalEntry) :
    Option UnitTransition := do
  let kind ← (entry.field "MESSAGE_ID").bind transitionKind
  guard ((entry.field "UNIT").or (entry.field "USER_UNIT") = some unit)
  let timestamp ← DateTime.fromTimestampMicros entry.timestampUsec
  return {
    timestampUtc := Chrono.toRfc3339Millis timestamp
    kind := kind
    message := sanitizeLogMessage (entry.field "MESSAGE")
    cursor := (journal.reads entry).cursor.toOption }

theorem recordedTransition_isSome (journal : Journal) (unit : String) (entry : JournalEntry) :
    (recordedTransition journal unit entry).isSome = true ↔ Records unit entry := by
  have hkind : ((entry.field "MESSAGE_ID").bind transitionKind).isSome = true
      ↔ ∃ messageId ∈ entry.field "MESSAGE_ID",
        messageId ∈ unitTransitionMessageIds.map Prod.fst := by
    cases entry.field "MESSAGE_ID" with
    | none => simp
    | some messageId => simpa using transitionKind_isSome_iff messageId
  rw [Records, ← hkind, recordedTransition]
  cases (entry.field "MESSAGE_ID").bind transitionKind with
  | none => simp
  | some kind =>
      by_cases hunit : (entry.field "UNIT").or (entry.field "USER_UNIT") = some unit
      · cases DateTime.fromTimestampMicros entry.timestampUsec <;> simp [hunit]
      · simp [hunit]

/-- The seek, and the reads of fields and times, succeed. -/
structure Journal.Readable (journal : Journal) : Prop where
  seek : journal.fault .seek = none
  field : ∀ entry ∈ journal.entries, ∀ name, journal.fault (.field entry name) = none
  timestamp : ∀ entry ∈ journal.entries, journal.fault (.timestamp entry) = none

omit [Chrono] in
theorem attempt_of_no_fault {journal : Journal} {op : ReadOp} (h : journal.fault op = none)
    (what : String) : journal.attempt op what = .ok () := by
  rw [Journal.attempt, h]

theorem entryTransition_eq {journal : Journal} (hread : journal.Readable) (unit : String)
    {entry : JournalEntry} (hentry : entry ∈ journal.entries) :
    entryTransition journal unit entry = .ok (recordedTransition journal unit entry) := by
  have hfield : ∀ name, readJournalField (journal.reads entry) name = .ok (entry.field name) := by
    intro name
    simp only [readJournalField, Journal.reads, hread.field entry hentry name]
    rfl
  have htimestamp := attempt_of_no_fault (hread.timestamp entry hentry)
    "failed to read transition timestamp"
  simp only [entryTransition, recordedTransition, hfield, htimestamp, ok_bind]
  cases (entry.field "MESSAGE_ID").bind transitionKind with
  | none => rfl
  | some kind =>
      by_cases hunit : (entry.field "UNIT").or (entry.field "USER_UNIT") = some unit
      · cases DateTime.fromTimestampMicros entry.timestampUsec <;> simp [hunit]
      · simp [hunit]

/-! ## The scan -/

/-- Move the reader that often. -/
def Journal.advances (journal : Journal) (steps : Nat) : Except AppError Unit :=
  forM (List.range steps)
    (fun step => journal.attempt (.advance step) "failed to read transition journal")

omit [Chrono] in
theorem advances_of_no_fault {journal : Journal} {steps : Nat}
    (h : ∀ step < steps, journal.fault (.advance step) = none) :
    journal.advances steps = .ok () := by
  rw [Journal.advances]
  have hattempts : ∀ list : List Nat, (∀ step ∈ list, journal.fault (.advance step) = none) →
      forM list (fun step => journal.attempt (.advance step) "failed to read transition journal")
        = .ok () := by
    intro list hlist
    induction list with
    | nil => rfl
    | cons step list ih =>
        rw [List.forM_cons, attempt_of_no_fault (hlist step List.mem_cons_self), ok_bind]
        exact ih fun other hother => hlist other (List.mem_cons_of_mem step hother)
  exact hattempts _ fun step hstep => h step (List.mem_range.mp hstep)

/-- The loop of the source is a scan within its two budgets. -/
theorem scanTransitions_eq_scanWithin (journal : Journal) (unit : String) (limit : Nat)
    {budget : Nat} (hbudget : budget ≤ maxTransitionScan) (entries : List JournalEntry)
    (transitions : List UnitTransition) :
    scanTransitions journal unit limit budget entries transitions
      = scanWithin (fun step => journal.attempt (.advance step) "failed to read transition journal")
        (entryTransition journal unit) limit budget (maxTransitionScan - budget) entries
        transitions := by
  induction budget generalizing entries transitions with
  | zero => rw [scanTransitions, scanWithin]
  | succ budget ih =>
      have hmoved : maxTransitionScan - (budget + 1) + 1 = maxTransitionScan - budget := by omega
      have hrest := ih (Nat.le_of_succ_le hbudget)
      cases entries with
      | nil => rfl
      | cons entry rest =>
          simp only [scanTransitions, scanWithin, hmoved, hrest]
          refine ite_congr rfl (fun _ => rfl) fun _ => ?_
          refine bind_congr fun _ => bind_congr fun found => ?_
          cases found <;> rfl

theorem transitionsOf_eq {journal : Journal} (hread : journal.Readable) (unit : String)
    (limit : Nat) :
    transitionsOf (.ok journal) unit limit
      = (journal.advances (moves (fun entry => decide (Records unit entry)) limit
          maxTransitionScan journal.entries.reverse 0)).map (fun _ =>
        ((journal.entries.reverse.take maxTransitionScan).filterMap
          (recordedTransition journal unit)).take limit) := by
  have hkeeps : (fun entry => (recordedTransition journal unit entry).isSome)
      = fun entry => decide (Records unit entry) := by
    funext entry
    rw [Bool.eq_iff_iff, decide_eq_true_eq, recordedTransition_isSome]
  have hscan := scanTransitions_eq_scanWithin journal unit limit le_rfl journal.entries.reverse []
  rw [scanWithin_eq limit maxTransitionScan (maxTransitionScan - maxTransitionScan)
    (fun entry hentry => entryTransition_eq hread unit (List.mem_reverse.mp hentry)) [], hkeeps,
    Nat.sub_self, ← List.range_eq_range', List.length_nil, List.nil_append, Nat.sub_zero] at hscan
  have hopened : (Except.ok journal : Except String Journal).mapError
      (fun err => AppError.internalError s!"failed to open transition journal: {err}")
        = .ok journal := rfl
  have hahead : ahead .desc .tail journal.entries = journal.entries.reverse := rfl
  rw [transitionsOf, hopened, ok_bind, attempt_of_no_fault hread.seek, ok_bind, hahead, hscan]
  rfl

/-- **The recent-transitions scan equals its specification**: of the newest entries, as many as
may be looked at, those that record a transition of the unit, as many as were asked for.  The
reader is moved `steps` times, never more often than it may be, and each time with results still
missing. -/
theorem transitions_exact (unit : String) {scope : UnitScope} (hscope : scope ≠ .both)
    (limit : Nat) (entries : List JournalEntry) :
    ∃ steps ≤ maxTransitionScan,
      (∀ k < steps, (entries.reverse.take k).countP (Records unit) < limit)
      ∧ ∀ (answers : Snapshot) (journal : Journal), answers (.openJournal scope) = .ok journal →
        journal.entries = entries → journal.Readable →
        (∀ entry, (recordedTransition journal unit entry).isSome = true ↔ Records unit entry)
        ∧ (readUnitTransitions unit scope limit).run.under answers
          = .done ((journal.advances steps).map (fun _ =>
            ((entries.reverse.take maxTransitionScan).filterMap
              (recordedTransition journal unit)).take limit)) := by
  refine ⟨moves (fun entry => decide (Records unit entry)) limit maxTransitionScan
    entries.reverse 0, moves_le _ _ _ _ _, ?_, ?_⟩
  · intro k hk
    have hroom := countP_lt_of_lt_moves hk
    rwa [Nat.zero_add] at hroom
  · rintro answers journal hopen rfl hread
    refine ⟨recordedTransition_isSome journal unit, ?_⟩
    rw [← transitionsOf_eq hread, ← hopen, readUnitTransitions, if_neg hscope]
    rfl

end Transitions

/-! ## A restart -/

/-- A host that has a journal, and nothing else. -/
def journalOnly (journal : Journal) : Snapshot
  | .connect _ => .error "no bus"
  | .proxy _ _ _ => .error "no bus"
  | .listUnits _ => .error "no bus"
  | .getUnit _ _ => .error "no bus"
  | .property _ _ _ _ _ => .error "no bus"
  | .openJournal _ => .ok journal
  | .joinReader => .ok ()
  | .podman _ => .notFound

def transitionEntry (cursor : String) (timestampUsec : Nat) (messageId message : String) :
    JournalEntry where
  cursor := cursor
  timestampUsec := timestampUsec
  fields := [("MESSAGE_ID", messageId), ("UNIT", "db.service"), ("MESSAGE", message)]

/-- A unit has been stopped and started again; the reader can be moved only once. -/
def restartJournal : Journal where
  entries := [
    transitionEntry "s=1;i=1" 1767225601000000 "9d1aaa27d60140bd96365438aad20286" "Stopped db.",
    transitionEntry "s=1;i=2" 1767225602000000 "39f53479d3a045ac8e11786248231fbf" "Started db."]
  nearest := fun _ => none
  fault
    | .advance (_ + 1) => some "interrupted"
    | _ => none

/-- One transition is asked for, and one move is enough. -/
theorem transitions_exact_restart :
    (@readUnitTransitions rfc3339 "db.service" .system 1).run.under (journalOnly restartJournal)
      = .done (.ok [{
          timestampUtc := "2026-01-01T00:00:02.000Z"
          kind := "started"
          message := some "Started db."
          cursor := some "s=1;i=2" }]) := by
  obtain ⟨steps, -, hroom, hrun⟩ := @transitions_exact rfc3339 "db.service" .system (by decide) 1
    restartJournal.entries
  have hsteps : steps ≤ 1 := by
    by_contra hmore
    exact absurd (hroom 1 (not_le.mp hmore)) (by decide)
  have hmoves : restartJournal.advances steps = .ok () := by
    refine advances_of_no_fault ?_
    intro step hstep
    rw [Nat.lt_one_iff.mp (hstep.trans_le hsteps)]
    rfl
  rw [(hrun (journalOnly restartJournal) restartJournal rfl rfl
    ⟨rfl, fun _ _ _ => rfl, fun _ _ => rfl⟩).2, hmoves]
  rfl

end SystemdMonitoring
