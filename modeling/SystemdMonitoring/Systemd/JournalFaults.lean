/-
# `SystemdMonitoring.Systemd.JournalFaults` — a journal whose operations fail

Reading a journal can fail at every single operation.  Held against the same
journal with fewer faults, a faulty one costs a page or a history as a whole,
or it costs nothing but cursors: an operation that fails ends the scan with an
error, and the one whose failure is passed over is the reading of an entry's
cursor.  No fault makes a row appear, disappear or change otherwise
(`readJournalLogs_short`, `transitionsOf_short`).
-/
import SystemdMonitoring.Lib.Loss
import SystemdMonitoring.Systemd.Units

namespace SystemdMonitoring

open Lib Lib.Text

/-! ## Less than there is -/

/-- The value itself, or what is left of it when `clear` has been applied. -/
def Spared {α : Type} (clear : α → α) (row full : α) : Prop := row = full ∨ row = clear full

theorem Spared.refl {α : Type} (clear : α → α) (a : α) : Spared clear a a := .inl rfl

/-- What `clear` does not change is the same. -/
theorem Spared.congr {α β : Type} {clear : α → α} {row full : α} (h : Spared clear row full)
    {f : α → β} (hf : ∀ a, f (clear a) = f a) : f row = f full := by
  rcases h with rfl | rfl
  · rfl
  · exact hf full

/-- The same, or nothing. -/
abbrev OrMissing {α : Type} : Option α → Option α → Prop := Spared (fun _ => none)

theorem orMissing_toOption {ε α : Type} {x y : Except ε α} (h : AtMost Eq x y) :
    OrMissing x.toOption y.toOption := by
  cases x with
  | error e => exact .inr rfl
  | ok a =>
      obtain ⟨a', rfl, rfl⟩ := h a rfl
      exact .inl rfl

theorem OrMissing.bind {α β : Type} {x y : Option α} (h : OrMissing x y) (f : α → Option β) :
    OrMissing (x.bind f) (y.bind f) := by
  rcases h with rfl | rfl
  · exact .inl rfl
  · exact .inr rfl

def JournalLogEntry.withoutCursor (row : JournalLogEntry) : JournalLogEntry :=
  { row with cursor := none }

def UnitTransition.withoutCursor (transition : UnitTransition) : UnitTransition :=
  { transition with cursor := none }

/-- The same rows, some without their cursors; what was scanned and whether there is more are the
same. -/
structure LogQueryResult.Short (result full : LogQueryResult) : Prop where
  entries : List.Forall₂ (Spared JournalLogEntry.withoutCursor) result.entries full.entries
  totalScanned : result.totalScanned = full.totalScanned
  hasMore : result.hasMore = full.hasMore

/-- The same entries, and at least the faults. -/
structure Journal.Short (journal full : Journal) : Prop where
  entries : journal.entries = full.entries
  nearest : journal.nearest = full.nearest
  faults : ∀ op, journal.fault op = none → full.fault op = none

namespace Journal.Short

variable {journal full : Journal}

/-! ## Single operations -/

theorem attempt (h : journal.Short full) (op : ReadOp) (what : String) :
    AtMost Eq (journal.attempt op what) (full.attempt op what) := by
  rw [Journal.attempt, Journal.attempt]
  cases hfault : journal.fault op with
  | some err => exact .error _ _
  | none =>
      rw [h.faults op hfault]
      exact .ok rfl

theorem readField (h : journal.Short full) (entry : JournalEntry) (name : String) :
    AtMost Eq (readJournalField (journal.reads entry) name)
      (readJournalField (full.reads entry) name) := by
  refine AtMost.mapError ?_ _ _
  dsimp only [Journal.reads]
  cases hfault : journal.fault (.field entry name) with
  | some err => exact .error _ _
  | none =>
      rw [h.faults _ hfault]
      exact .ok rfl

theorem readCursor (h : journal.Short full) (entry : JournalEntry) :
    OrMissing (journal.reads entry).cursor.toOption (full.reads entry).cursor.toOption := by
  refine orMissing_toOption ?_
  dsimp only [Journal.reads]
  cases hfault : journal.fault (.cursor entry) with
  | some err => exact .error _ _
  | none =>
      rw [h.faults _ hfault]
      exact .refl _

end Journal.Short

/-! ## Logs -/

section Logs

variable {journal full : Journal}

section Rows

variable [Chrono] [RegexEngine]

theorem entryRow_short (h : journal.Short full) (query : LogQuery)
    (matcher : Option GrepMatcher) (entry : JournalEntry) (timestampUsec : Nat) :
    AtMost (Option.Rel (Spared JournalLogEntry.withoutCursor))
      (entryRow query matcher (journal.reads entry) timestampUsec)
      (entryRow query matcher (full.reads entry) timestampUsec) := by
  rw [entryRow, entryRow]
  refine (h.readField entry _).bind ?_
  rintro systemUnit _ rfl
  refine (h.readField entry _).bind ?_
  rintro userUnit _ rfl
  dsimp only
  split
  · exact .ok .none
  · split
    · exact .ok .none
    · refine (h.readField entry _).bind ?_
      rintro priority _ rfl
      split
      · exact .ok .none
      · refine (h.readField entry _).bind ?_
        rintro hostname _ rfl
        refine (h.readField entry _).bind ?_
        rintro pid _ rfl
        refine (h.readField entry _).bind ?_
        rintro message _ rfl
        split
        · exact .ok .none
        · refine .ok (.some ?_)
          rcases h.readCursor entry with hcursor | hcursor
          · exact .inl (by rw [hcursor])
          · exact .inr (by rw [hcursor]; rfl)

end Rows

theorem positionAtExactCursor_short (h : journal.Short full) (cursor : String) :
    AtMost Eq (positionAtExactCursor journal cursor) (positionAtExactCursor full cursor) := by
  have hselected : full.selected cursor = journal.selected cursor := by
    rw [Journal.selected, Journal.selected, h.entries, h.nearest]
  rw [positionAtExactCursor, positionAtExactCursor, hselected]
  split
  case isTrue => exact .error _ _
  case isFalse hnavigates =>
    simp only [not_or, Option.not_isSome_iff_eq_none] at hnavigates
    rw [if_neg (by simp [h.faults _ hnavigates.1, h.faults _ hnavigates.2])]
    cases journal.selected cursor with
    | none => exact .error _ _
    | some selected =>
        dsimp only
        split
        case isTrue => exact .error _ _
        case isFalse htested =>
          simp only [not_or, Option.not_isSome_iff_eq_none, not_ne_iff] at htested
          rw [if_neg (by simp [h.faults _ htested.1, htested.2])]
          exact .refl _

theorem startPosition_short (h : journal.Short full) (query : LogQuery) (start finish : Int) :
    AtMost Eq (startPosition journal query start finish)
      (startPosition full query start finish) := by
  have hseek : ∀ {what : String} {position : Position},
      AtMost Eq (journal.attempt .seek what >>= fun _ => Except.ok position)
        (full.attempt .seek what >>= fun _ => Except.ok position) :=
    (h.attempt _ _).bind fun _ _ _ => .ok rfl
  rw [startPosition, startPosition]
  cases query.cursor with
  | some cursor => exact positionAtExactCursor_short h cursor
  | none =>
      dsimp only
      cases query.order with
      | asc =>
          dsimp only [seekWindow]
          split
          · exact hseek
          · exact hseek
      | desc =>
          dsimp only [seekWindow]
          split
          · exact hseek
          · exact hseek

variable [Chrono] [RegexEngine]

/-- The loop: both have counted as much, and have the same rows but for cursors. -/
theorem scan_short (h : journal.Short full) (query : LogQuery) (matcher : Option GrepMatcher)
    (start finish : Int) (entries : List JournalEntry) {rows rows' : List JournalLogEntry}
    (hrows : List.Forall₂ (Spared JournalLogEntry.withoutCursor) rows rows') (scanned : Nat) :
    AtMost (fun found found' => List.Forall₂ (Spared JournalLogEntry.withoutCursor) found.1 found'.1
        ∧ found.2 = found'.2)
      (scan journal query matcher start finish entries rows scanned)
      (scan full query matcher start finish entries rows' scanned) := by
  have hstep : ∀ {β : Type} {R : β → β → Prop} {op : ReadOp} {what : String}
      {f f' : Unit → Except AppError β}, (∀ a, AtMost R (f a) (f' a)) →
      AtMost R (journal.attempt op what >>= f) (full.attempt op what >>= f') := by
    intro β R op what f f' hf
    refine (h.attempt op what).bind ?_
    rintro a _ rfl
    exact hf a
  induction entries generalizing rows rows' scanned with
  | nil =>
      rw [scan, scan, hrows.length_eq]
      split
      · exact .ok ⟨hrows, rfl⟩
      · refine hstep ?_
        intro _
        exact .ok ⟨hrows, rfl⟩
  | cons entry rest ih =>
      rw [scan, scan, hrows.length_eq]
      split
      · exact .ok ⟨hrows, rfl⟩
      · refine hstep ?_
        intro _
        refine hstep ?_
        intro _
        split
        · exact ih hrows _
        · split
          · split
            · exact .ok ⟨hrows, rfl⟩
            · exact ih hrows _
          · split
            · split
              · exact .ok ⟨hrows, rfl⟩
              · exact ih hrows _
            · refine (entryRow_short h query matcher entry _).bind ?_
              intro row row' hrow
              cases hrow with
              | none => exact ih hrows _
              | some hrow => exact ih (List.rel_append hrows (.cons hrow .nil)) _

/-- **A page that is read in spite of faults is the page that is there**, but for cursors. -/
theorem readJournalLogs_short {opened sound : Except String Journal}
    (h : AtMost Journal.Short opened sound) (query : LogQuery) :
    AtMost LogQueryResult.Short (readJournalLogs opened query) (readJournalLogs sound query) := by
  rw [readJournalLogs, readJournalLogs]
  refine (h.mapError _ _).bind ?_
  intro journal full hjournal
  refine (AtMost.refl (buildGrepMatcher query.grep)).bind ?_
  rintro matcher _ rfl
  cases query.startUtc with
  | none => exact .error _ _
  | some startUtc =>
      cases query.endUtc with
      | none => exact .error _ _
      | some endUtc =>
          refine (startPosition_short hjournal query _ _).bind ?_
          rintro position _ rfl
          rw [hjournal.entries]
          refine (scan_short hjournal query matcher _ _ _ .nil 0).bind ?_
          rintro ⟨rows, scanned⟩ ⟨rows', scanned'⟩ ⟨hrows, rfl⟩
          refine .ok ⟨?_, rfl, ?_⟩
          · exact List.forall₂_take _ hrows
          · dsimp only
            rw [hrows.length_eq]

end Logs

/-! ## Transitions -/

section Transitions

variable [Chrono] {journal full : Journal}

theorem entryTransition_short (h : journal.Short full) (unit : String) (entry : JournalEntry) :
    AtMost (Option.Rel (Spared UnitTransition.withoutCursor))
      (entryTransition journal unit entry) (entryTransition full unit entry) := by
  rw [entryTransition, entryTransition]
  refine (h.readField entry _).bind ?_
  rintro messageId _ rfl
  split
  · exact .ok .none
  · refine (h.readField entry _).bind ?_
    rintro systemUnit _ rfl
    refine (h.readField entry _).bind ?_
    rintro userUnit _ rfl
    split
    · exact .ok .none
    · refine (h.attempt _ _).bind ?_
      rintro _ _ -
      split
      · exact .ok .none
      · refine (h.readField entry _).bind ?_
        rintro message _ rfl
        refine .ok (.some ?_)
        rcases h.readCursor entry with hcursor | hcursor
        · exact .inl (by rw [hcursor])
        · exact .inr (by rw [hcursor]; rfl)

theorem scanTransitions_short (h : journal.Short full) (unit : String) (limit : Nat)
    (budget : Nat) (entries : List JournalEntry) {transitions transitions' : List UnitTransition}
    (hfound : List.Forall₂ (Spared UnitTransition.withoutCursor) transitions transitions') :
    AtMost (List.Forall₂ (Spared UnitTransition.withoutCursor))
      (scanTransitions journal unit limit budget entries transitions)
      (scanTransitions full unit limit budget entries transitions') := by
  induction budget generalizing entries transitions transitions' with
  | zero => exact .ok hfound
  | succ budget ih =>
      simp only [scanTransitions, hfound.length_eq]
      split
      · exact .ok hfound
      · refine (h.attempt _ _).bind ?_
        rintro _ _ -
        cases entries with
        | nil => exact .ok hfound
        | cons entry rest =>
            refine (entryTransition_short h unit entry).bind ?_
            intro transition transition' htransition
            cases htransition with
            | none => exact ih rest hfound
            | some htransition => exact ih rest (List.rel_append hfound (.cons htransition .nil))

/-- **A history that is read in spite of faults is the unit's**, but for cursors. -/
theorem transitionsOf_short {opened sound : Except String Journal}
    (h : AtMost Journal.Short opened sound) (unit : String) (limit : Nat) :
    AtMost (List.Forall₂ (Spared UnitTransition.withoutCursor))
      (transitionsOf opened unit limit) (transitionsOf sound unit limit) := by
  rw [transitionsOf, transitionsOf]
  refine (h.mapError _ _).bind ?_
  intro journal full hjournal
  refine (hjournal.attempt _ _).bind ?_
  rintro _ _ -
  rw [hjournal.entries]
  exact scanTransitions_short hjournal unit limit _ _ .nil

end Transitions

end SystemdMonitoring
