/-
# `SystemdMonitoring.Systemd.Messages` — the canonical form of log messages

`sanitize_log_message` trims, puts a space for every control character that
messages may not have, and trims again.  A character that the second trim takes
away is whitespace or became it, so the two trims are one: the message is
stripped of whitespace and control characters alike, and what is left is mapped
(`sanitizeLogMessage_eq`).  Everything else is read off that form.

Messages reach their readers through two loops, over the entries of a log query
and over the transitions of a unit, and both hand on canonical messages only,
whatever faults the journal has.
-/
import SystemdMonitoring.Systemd.Logs
import SystemdMonitoring.Systemd.Units

namespace SystemdMonitoring

open Lib Lib.Text

/-! ## Characters -/

/-- A control character other than newline, carriage return and tab. -/
def isDisallowed (c : Char) : Bool := isControl c && c != '\n' && c != '\r' && c != '\t'

def sanitizeChar (c : Char) : Char := if isDisallowed c then ' ' else c

/-- Whitespace or a control character: what nobody sees at the end of a message. -/
def isBlank (c : Char) : Bool := isWhitespace c || isControl c

/-- A character is sanitized to whitespace exactly when it is blank. -/
theorem isWhitespace_sanitizeChar (c : Char) : isWhitespace (sanitizeChar c) = isBlank c := by
  rw [sanitizeChar, isBlank]
  by_cases hdisallowed : isDisallowed c = true
  · have hcontrol : isControl c = true := by
      simp only [isDisallowed, Bool.and_eq_true] at hdisallowed
      exact hdisallowed.1.1.1
    rw [if_pos hdisallowed, hcontrol, Bool.or_true]
    rfl
  · rw [if_neg hdisallowed]
    cases hcontrol : isControl c with
    | false => rw [Bool.or_false]
    | true =>
        -- the allowed ones are whitespace themselves
        have hallowed : c = '\n' ∨ c = '\r' ∨ c = '\t' := by
          simp only [isDisallowed, hcontrol, Bool.true_and, Bool.and_eq_true, bne_iff_ne]
            at hdisallowed
          tauto
        rw [Bool.or_true]
        rcases hallowed with rfl | rfl | rfl <;> rfl

theorem isDisallowed_sanitizeChar (c : Char) : isDisallowed (sanitizeChar c) = false := by
  rw [sanitizeChar]
  by_cases hdisallowed : isDisallowed c = true
  · rw [if_pos hdisallowed]
    rfl
  · rw [if_neg hdisallowed]
    exact eq_false_of_ne_true hdisallowed

theorem isBlank_of_isWhitespace {c : Char} (h : isWhitespace c = true) : isBlank c = true := by
  rw [isBlank, h, Bool.true_or]

/-! ## The form -/

/-- The characters of a sanitized message. -/
def sanitizedChars (value : String) : List Char :=
  (strip isBlank value.toList).map sanitizeChar

theorem sanitizedChars_eq_nil_iff {value : String} :
    sanitizedChars value = [] ↔ ∀ c ∈ value.toList, isBlank c = true := by
  rw [sanitizedChars, List.map_eq_nil_iff, strip_eq_nil_iff]

/-- The two trims around the map are one strip under it. -/
theorem trim_map_trim (value : String) :
    trim (String.ofList ((trim value).toList.map sanitizeChar))
      = String.ofList (sanitizedChars value) := by
  have hblank : isWhitespace ∘ sanitizeChar = isBlank := funext isWhitespace_sanitizeChar
  rw [trim_eq_iff, String.toList_ofList, String.toList_ofList, toList_trim, strip_map, hblank,
    strip_strip fun _ => isBlank_of_isWhitespace, sanitizedChars]

theorem ofList_eq_empty_iff {cs : List Char} : String.ofList cs = "" ↔ cs = [] := by
  rw [← String.toList_inj, String.toList_ofList]
  exact Iff.rfl

/-- **The message is its core, sanitized**, and there is none when nothing is left. -/
theorem sanitizeLogMessage_eq (value : String) :
    sanitizeLogMessage (some value) =
      if sanitizedChars value = [] then none else some (String.ofList (sanitizedChars value)) := by
  have hunfold : sanitizeLogMessage (some value) =
      if trim value = "" then none
      else if trim (String.ofList ((trim value).toList.map sanitizeChar)) = "" then none
      else some (trim (String.ofList ((trim value).toList.map sanitizeChar))) := by
    unfold sanitizeLogMessage sanitizeChar isDisallowed
    rw [Option.bind_some]
  rw [hunfold, trim_map_trim]
  simp only [ofList_eq_empty_iff]
  by_cases htrim : trim value = ""
  · -- whitespace alone is blank
    have hnone : sanitizedChars value = [] := by
      rw [sanitizedChars_eq_nil_iff]
      intro c hc
      exact isBlank_of_isWhitespace (trim_eq_empty_iff.mp htrim c hc)
    rw [if_pos htrim, if_pos hnone]
  · rw [if_neg htrim]

theorem sanitizeLogMessage_eq_some_iff {value output : String} :
    sanitizeLogMessage (some value) = some output
      ↔ sanitizedChars value ≠ [] ∧ String.ofList (sanitizedChars value) = output := by
  rw [sanitizeLogMessage_eq]
  by_cases hnil : sanitizedChars value = []
  · rw [if_pos hnil]
    constructor
    · intro h
      cases h
    · rintro ⟨hne, -⟩
      exact absurd hnil hne
  · rw [if_neg hnil, Option.some_inj]
    exact (and_iff_right hnil).symm

/-! ## What it says -/

/-- A message that can be shown: not empty, no whitespace at its ends, and no control character
but line breaks and tabs. -/
structure Canonical (output : String) : Prop where
  nonempty : output ≠ ""
  noMargin : NoMargin isWhitespace output.toList
  allowed : ∀ c ∈ output.toList, isControl c = true → c = '\n' ∨ c = '\r' ∨ c = '\t'

/-- The output is a contiguous block of the input with a space for each disallowed character, and
nothing but whitespace and control characters lies around the block. -/
def SanitizedBlock (input output : String) : Prop :=
  ∃ before block after, input.toList = before ++ block ++ after
    ∧ output.toList = block.map (fun c => if isDisallowed c then ' ' else c)
    ∧ ∀ c ∈ before ++ after, isWhitespace c = true ∨ isControl c = true

theorem canonical_of_sanitizedChars {value : String} (h : sanitizedChars value ≠ []) :
    Canonical (String.ofList (sanitizedChars value)) where
  nonempty := fun hempty => h (ofList_eq_empty_iff.mp hempty)
  noMargin := by
    rw [← trim_map_trim]
    exact trim_eq_self_iff.mp (trim_trim _)
  allowed := by
    intro c hc hcontrol
    rw [String.toList_ofList, sanitizedChars] at hc
    obtain ⟨d, -, rfl⟩ := List.mem_map.mp hc
    have hallowed := isDisallowed_sanitizeChar d
    simp only [isDisallowed, hcontrol, Bool.true_and, Bool.and_eq_false_iff, bne_eq_false_iff_eq]
      at hallowed
    tauto

theorem sanitizedBlock_sanitizedChars (value : String) :
    SanitizedBlock value (String.ofList (sanitizedChars value)) := by
  obtain ⟨before, after, heq, hbefore, hafter⟩ := exists_strip isBlank value.toList
  refine ⟨before, strip isBlank value.toList, after, heq, ?_, ?_⟩
  · rw [String.toList_ofList]
    rfl
  · intro c hc
    rcases List.mem_append.mp hc with hc | hc
    · exact Bool.or_eq_true_iff.mp (hbefore c hc)
    · exact Bool.or_eq_true_iff.mp (hafter c hc)

/-- A canonical message is its own form. -/
theorem sanitizeLogMessage_of_canonical {output : String} (h : Canonical output) :
    sanitizeLogMessage (some output) = some output := by
  have hsame : ∀ c ∈ output.toList, sanitizeChar c = c := by
    intro c hc
    refine if_neg ?_
    intro hdisallowed
    simp only [isDisallowed, Bool.and_eq_true, bne_iff_ne] at hdisallowed
    have := h.allowed c hc hdisallowed.1.1.1
    tauto
  have hmap : output.toList.map sanitizeChar = output.toList := by
    rw [List.map_congr_left hsame, List.map_id']
  have htrim : trim output = output := trim_eq_self_iff.mpr h.noMargin
  have hchars : String.ofList (sanitizedChars output) = output := by
    rw [← trim_map_trim, htrim, hmap, String.ofList_toList, htrim]
  have hne : sanitizedChars output ≠ [] := by
    intro hnil
    rw [hnil] at hchars
    exact h.nonempty hchars.symm
  exact sanitizeLogMessage_eq_some_iff.mpr ⟨hne, hchars⟩

/-- **Sanitizing is canonical.** -/
theorem sanitizeLogMessage_canonical (message : Option String) :
    (sanitizeLogMessage message = none ↔
      ∀ value, message = some value →
        ∀ c ∈ value.toList, isWhitespace c = true ∨ isControl c = true)
    ∧ ∀ output, sanitizeLogMessage message = some output →
        Canonical output
        ∧ (∃ value, message = some value ∧ SanitizedBlock value output)
        ∧ sanitizeLogMessage (some output) = some output := by
  cases message with
  | none =>
      refine ⟨iff_of_true rfl ?_, ?_⟩
      · intro value hvalue
        cases hvalue
      · intro output houtput
        cases houtput
  | some value =>
      have hblank : sanitizedChars value = []
          ↔ ∀ c ∈ value.toList, isWhitespace c = true ∨ isControl c = true := by
        rw [sanitizedChars_eq_nil_iff]
        exact forall₂_congr fun c _ => Bool.or_eq_true_iff
      constructor
      · rw [sanitizeLogMessage_eq, ite_eq_left_iff]
        constructor
        · intro hnone other heq
          cases heq
          exact hblank.mp (by_contra fun hne => Option.some_ne_none _ (hnone hne))
        · intro hall hne
          exact absurd (hblank.mpr (hall value rfl)) hne
      · intro output houtput
        obtain ⟨hne, rfl⟩ := sanitizeLogMessage_eq_some_iff.mp houtput
        have hcanonical := canonical_of_sanitizedChars hne
        exact ⟨hcanonical, ⟨value, rfl, sanitizedBlock_sanitizedChars value⟩,
          sanitizeLogMessage_of_canonical hcanonical⟩

-- a control character at an end goes, one inside becomes a space
example : sanitizeLogMessage (some "\x00 a\x07b\t\u0085\n") = some "a b" := by decide

/-! ## Where messages go -/

/-- The message of a row or a transition can be shown, if there is one. -/
def Sanitized (message : Option String) : Prop :=
  ∀ output, message = some output → Canonical output

theorem sanitized_sanitizeLogMessage (message : Option String) :
    Sanitized (sanitizeLogMessage message) := by
  cases message with
  | none =>
      intro output houtput
      cases houtput
  | some value =>
      intro output houtput
      obtain ⟨hne, rfl⟩ := sanitizeLogMessage_eq_some_iff.mp houtput
      exact canonical_of_sanitizedChars hne

section Readers

variable [Chrono] [RegexEngine]

theorem sanitized_of_entryRow {query : LogQuery} {matcher : Option GrepMatcher}
    {reads : EntryReads} {timestampUsec : Nat} {row : JournalLogEntry}
    (h : entryRow query matcher reads timestampUsec = .ok (some row)) :
    Sanitized row.message := by
  obtain ⟨timestamp, message, -, -, -, hmessage, -⟩ := row_of_entryRow h
  rw [hmessage]
  exact sanitized_sanitizeLogMessage message

/-- The scan adds canonical messages to those it has. -/
theorem sanitized_of_scan {journal : Journal} {query : LogQuery} {matcher : Option GrepMatcher}
    {start finish : Int} {entries : List JournalEntry} {rows : List JournalLogEntry}
    {scanned : Nat} {result : List JournalLogEntry × Nat}
    (hrows : ∀ row ∈ rows, Sanitized row.message)
    (h : scan journal query matcher start finish entries rows scanned = .ok result) :
    ∀ row ∈ result.1, Sanitized row.message := by
  induction entries generalizing rows scanned with
  | nil =>
      rw [scan] at h
      split at h
      · cases h
        exact hrows
      · obtain ⟨-, -, h⟩ := bind_eq_ok.mp h
        cases h
        exact hrows
  | cons entry rest ih =>
      by_cases hfull : query.limit < rows.length
      · rw [scan, if_pos hfull] at h
        cases h
        exact hrows
      · obtain ⟨next, hnext, hscan⟩ := scan_step journal query matcher start finish entry rest
          hfull scanned
        rw [hscan] at h
        obtain ⟨-, -, h⟩ := bind_eq_ok.mp h
        obtain ⟨-, -, h⟩ := bind_eq_ok.mp h
        cases hnext with
        | stop =>
            cases h
            exact hrows
        | skip => exact ih hrows h
        | look =>
            obtain ⟨found, hfound, h⟩ := bind_eq_ok.mp h
            refine ih ?_ h
            intro row hrow
            rcases List.mem_append.mp hrow with hrow | hrow
            · exact hrows row hrow
            · rw [Option.mem_toList] at hrow
              rw [hrow] at hfound
              exact sanitized_of_entryRow hfound

/-- **Every message of a log result is canonical**, from whatever journal. -/
theorem sanitized_of_readJournalLogs {opened : Except String Journal} {query : LogQuery}
    {result : LogQueryResult} (h : readJournalLogs opened query = .ok result) :
    ∀ row ∈ result.entries, Sanitized row.message := by
  rw [readJournalLogs] at h
  obtain ⟨journal, -, h⟩ := bind_eq_ok.mp h
  obtain ⟨matcher, -, h⟩ := bind_eq_ok.mp h
  split at h
  · obtain ⟨position, -, h⟩ := bind_eq_ok.mp h
    obtain ⟨scanned, hscan, h⟩ := bind_eq_ok.mp h
    cases h
    intro row hrow
    have hempty : ∀ row ∈ ([] : List JournalLogEntry), Sanitized row.message := by
      intro row hrow
      cases hrow
    exact sanitized_of_scan hempty hscan row (List.mem_of_mem_take hrow)
  · cases h

omit [RegexEngine] in
theorem sanitized_of_entryTransition {journal : Journal} {unit : String} {entry : JournalEntry}
    {transition : UnitTransition}
    (h : entryTransition journal unit entry = .ok (some transition)) :
    Sanitized transition.message := by
  rw [entryTransition] at h
  obtain ⟨messageId, -, h⟩ := bind_eq_ok.mp h
  split at h
  · cases h
  · obtain ⟨systemUnit, -, h⟩ := bind_eq_ok.mp h
    obtain ⟨userUnit, -, h⟩ := bind_eq_ok.mp h
    split at h
    · cases h
    · obtain ⟨-, -, h⟩ := bind_eq_ok.mp h
      split at h
      · cases h
      · obtain ⟨message, -, h⟩ := bind_eq_ok.mp h
        cases h
        exact sanitized_sanitizeLogMessage message

omit [RegexEngine] in
/-- **Every message of a transition history is canonical.** -/
theorem sanitized_of_scanTransitions {journal : Journal} {unit : String} {limit budget : Nat}
    {entries : List JournalEntry} {transitions result : List UnitTransition}
    (htransitions : ∀ transition ∈ transitions, Sanitized transition.message)
    (h : scanTransitions journal unit limit budget entries transitions = .ok result) :
    ∀ transition ∈ result, Sanitized transition.message := by
  induction budget generalizing entries transitions with
  | zero =>
      cases h
      exact htransitions
  | succ budget ih =>
      cases entries with
      | nil =>
          rw [scanTransitions] at h
          split at h
          · cases h
            exact htransitions
          · obtain ⟨-, -, h⟩ := bind_eq_ok.mp h
            cases h
            exact htransitions
      | cons entry rest =>
          rw [scanTransitions] at h
          split at h
          · cases h
            exact htransitions
          · obtain ⟨-, -, h⟩ := bind_eq_ok.mp h
            obtain ⟨found, hfound, h⟩ := bind_eq_ok.mp h
            cases found with
            | none => exact ih htransitions h
            | some transition =>
                refine ih ?_ h
                intro other hother
                rcases List.mem_append.mp hother with hother | hother
                · exact htransitions other hother
                · rw [List.mem_singleton.mp hother]
                  exact sanitized_of_entryTransition hfound

end Readers

end SystemdMonitoring
