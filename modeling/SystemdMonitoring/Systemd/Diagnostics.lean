/-
# `SystemdMonitoring.Systemd.Diagnostics` — what the text of a failure decides

When D-Bus or the journal fails, or `podman` cannot be executed, it says why, in
words that are for an operator: they may name sockets, users or files.  The
providers carry them in the message of an internal error, which no response
repeats.

What `podman` itself writes on standard error is another matter.  A decision is
taken on it: a failed command is about a target that is not there, or about
Podman not being available, when the text contains one of four phrases, and any
command has failed when there is too much of it.  The text itself goes nowhere;
`stderrVerdict` is what is made of it.

So two hosts whose answers differ in the words of failures, and in standard error
under one verdict, are asked for the same, step by step, and every provider
answers alike: with the same rows, the same error for the client, or internal
errors that differ in their messages alone (`fulfil_discreet`).
-/
import SystemdMonitoring.Provider
import SystemdMonitoring.Lib.Coupling

namespace SystemdMonitoring

open Lib Lib.Text

/-! ## Alike -/

/-- The same error, or internal ones of the same code. -/
inductive AppError.Like : AppError → AppError → Prop where
  | refl (err : AppError) : Like err err
  | internal (code message message' : String) :
      Like (.internal code message) (.internal code message')

abbrev LikeAnswer {α : Type} : Except AppError α → Except AppError α → Prop :=
  AlikeExcept AppError.Like

/-- The same value, or failures in whatever words. -/
abbrev SameButText {α : Type} : Except String α → Except String α → Prop :=
  AlikeExcept fun _ _ => True

/-- The same entries, and the same operations that fail. -/
structure Journal.Like (journal journal' : Journal) : Prop where
  entries : journal.entries = journal'.entries
  nearest : journal.nearest = journal'.nearest
  fault : ∀ op, (journal.fault op).isSome = (journal'.fault op).isSome

inductive LikeOpened : Except String Journal → Except String Journal → Prop where
  | ok {journal journal' : Journal} (h : journal.Like journal') :
      LikeOpened (.ok journal) (.ok journal')
  | error (err err' : String) : LikeOpened (.error err) (.error err')

/-- What a `podman` that has failed is taken to have failed for. -/
inductive StderrVerdict where
  | notFound
  | unavailable
  | other
  deriving DecidableEq, Repr

def stderrVerdict (stderr : List UInt8) : StderrVerdict :=
  let text := toAsciiLowercase (fromUtf8Lossy stderr)
  if contains text "no such" || contains text "not found" then .notFound
  else if contains text "cannot connect" || contains text "permission denied" then .unavailable
  else .other

/-- The error of a command that has failed for that. -/
def StderrVerdict.error (notFoundCode : String) : StderrVerdict → AppError
  | .notFound => .badRequest notFoundCode "Podman target was not found"
  | .unavailable => .badRequest "podman_unavailable" "Podman is unavailable"
  | .other => .badRequest "podman_provider_error" "Podman inspection failed"

/-- The same outcome, but for the words of a `podman` that could not be executed, and for what is on
standard error: that is too much on both sides or on neither, and when the command has failed it is
taken for the same. -/
inductive CommandOutcome.Like : CommandOutcome → CommandOutcome → Prop where
  | refl (outcome : CommandOutcome) : Like outcome outcome
  | failed (err err' : String) : Like (.failed err) (.failed err')
  | finished (success : Bool) (stdout : List UInt8) {stderr stderr' : List UInt8}
      (hsize : Podman.maxOutputBytes < stderr.length ↔ Podman.maxOutputBytes < stderr'.length)
      (hverdict : success = false → stderrVerdict stderr = stderrVerdict stderr') :
      Like (.finished success stdout stderr) (.finished success stdout stderr')

/-- Answers of the host that differ in the words of failures only. -/
def hostAlike : (o : HostOp) → HostSig.Ans o → HostSig.Ans o → Prop
  | .connect _ => SameButText
  | .proxy _ _ _ => SameButText
  | .listUnits _ => SameButText
  | .getUnit _ _ => SameButText
  | .property _ _ _ _ _ => SameButText
  | .openJournal _ => LikeOpened
  | .joinReader => SameButText
  | .podman _ => CommandOutcome.Like

abbrev hostLikeness : Likeness HostSig := .same hostAlike

/-- A provider's program that does not look at the words of failures. -/
def Discreet {α : Type} (p : HostTry α) : Prop := p.run.Coupled hostLikeness LikeAnswer p.run

namespace Discreet

variable {α β : Type}

theorem of_pure (a : α) : Discreet (pure a : HostTry α) := .value (.ok a)

theorem of_throw (err : AppError) : Discreet (throw err : HostTry α) := .value (.error (.refl err))

theorem bind {p : HostTry α} {f : α → HostTry β} (hp : Discreet p) (hf : ∀ a, Discreet (f a)) :
    Discreet (p >>= f) :=
  Prog.Coupled.andThen hp hf

theorem lift {p : HostProg α} (hp : p.Coupled hostLikeness Eq p) :
    Discreet (ExceptT.lift p : HostTry α) := by
  refine hp.bind ?_
  rintro a _ rfl
  exact .value (.ok a)

/-- An answer that comes from the host, and what is made of it. -/
theorem answered {R : α → α → Prop} {p : HostProg α} (hp : p.Coupled hostLikeness R p)
    {f : α → Except AppError β} (hf : ∀ a a', R a a' → LikeAnswer (f a) (f a')) :
    Discreet (ExceptT.mk (p >>= fun a => pure (f a))) := by
  refine hp.bind ?_
  intro a a' h
  exact .value (hf a a' h)

theorem failing (context : String) {p : HostProg (Except String α)}
    (hp : p.Coupled hostLikeness SameButText p) : Discreet (failing context p) := by
  refine answered hp ?_
  intro answer answer' h
  exact h.mapError fun _ _ _ => .internal _ _ _

end Discreet

/-! ## Commands -/

section Commands

variable [SerdeJson] (notFoundCode : String) {stdout stderr : List UInt8}

theorem commandResult_oversized (success : Bool)
    (h : Podman.maxOutputBytes < stdout.length ∨ Podman.maxOutputBytes < stderr.length) :
    Podman.commandResult notFoundCode (.finished success stdout stderr)
      = .error (.badRequest "podman_output_too_large" "Podman returned an oversized response") := by
  rw [Podman.commandResult, if_pos h]

theorem commandResult_failed
    (h : ¬ (Podman.maxOutputBytes < stdout.length ∨ Podman.maxOutputBytes < stderr.length)) :
    Podman.commandResult notFoundCode (.finished false stdout stderr)
      = .error ((stderrVerdict stderr).error notFoundCode) := by
  have hfailed : (!false) = true := rfl
  rw [Podman.commandResult, if_neg h, if_pos hfailed, stderrVerdict]
  dsimp only
  split
  · rfl
  · split <;> rfl

theorem commandResult_succeeded
    (h : ¬ (Podman.maxOutputBytes < stdout.length ∨ Podman.maxOutputBytes < stderr.length))
    {stderr' : List UInt8}
    (h' : ¬ (Podman.maxOutputBytes < stdout.length ∨ Podman.maxOutputBytes < stderr'.length)) :
    Podman.commandResult notFoundCode (.finished true stdout stderr)
      = Podman.commandResult notFoundCode (.finished true stdout stderr') := by
  have hsucceeded : ¬ (!true) = true := Bool.false_ne_true
  rw [Podman.commandResult, Podman.commandResult, if_neg h, if_neg h', if_neg hsucceeded,
    if_neg hsucceeded]

theorem CommandOutcome.Like.commandResult {outcome outcome' : CommandOutcome}
    (h : outcome.Like outcome') :
    LikeAnswer (Podman.commandResult notFoundCode outcome)
      (Podman.commandResult notFoundCode outcome') := by
  cases h with
  | refl outcome => exact .refl .refl _
  | failed err err' => exact .error (.internal _ _ _)
  | @finished success stdout stderr stderr' hsize hverdict =>
      by_cases hlarge : Podman.maxOutputBytes < stdout.length ∨ Podman.maxOutputBytes < stderr.length
      · have hlarge' := hlarge.imp_right hsize.mp
        rw [commandResult_oversized _ _ hlarge, commandResult_oversized _ _ hlarge']
        exact .refl .refl _
      · have hsmall := fun h => hlarge (Or.imp_right hsize.mpr h)
        cases success with
        | true =>
            rw [commandResult_succeeded _ hlarge hsmall]
            exact .refl .refl _
        | false =>
            rw [commandResult_failed _ hlarge, commandResult_failed _ hsmall, hverdict rfl]
            exact .refl .refl _

end Commands

/-! ## Asking -/

theorem coupled_ask (o : HostOp) : (ask o).Coupled hostLikeness (hostAlike o) (ask o) :=
  Prog.Coupled.call (S := HostSig) (V := hostAlike) o

/-! ## Units -/

section Units

theorem dbusConnectionForScope_discreet (scope : UnitScope) :
    Discreet (dbusConnectionForScope scope) := by
  cases scope with
  | system => exact .failing _ (coupled_ask (.connect .system))
  | user => exact .failing _ (coupled_ask (.connect .user))
  | both => exact .of_throw _

theorem proxy_discreet (context : String) (scope : UnitScope) (path : String)
    (interface : Interface) : Discreet (failing context (ask (.proxy scope path interface))) :=
  .failing context (coupled_ask (.proxy scope path interface))

theorem property_discreet (context : String) (scope : UnitScope) (path : String)
    (interface : Interface) (name : String) (type : PropertyType) :
    Discreet (failing context (ask (.property scope path interface name type))) :=
  .failing context (coupled_ask (.property scope path interface name type))

theorem listUnitsRows_discreet (scope : UnitScope) : Discreet (listUnitsRows scope) := by
  refine (proxy_discreet _ _ _ _).bind ?_
  intro _
  exact .failing _ (coupled_ask (.listUnits scope))

theorem readOptionalProperty_coupled (scope : UnitScope) (path : String) (interface : Interface)
    (name : String) (type : PropertyType) :
    (readOptionalProperty scope path interface name type).Coupled hostLikeness Eq
      (readOptionalProperty scope path interface name type) := by
  refine (coupled_ask (.property scope path interface name type)).bind ?_
  intro answer answer' h
  exact .value (AlikeExcept.toOption_eq h)

/-- A lookup whose failure is no more than that. -/
theorem toOption_coupled {α β : Type} {p : HostTry α} (hp : Discreet p) (f : Option α → β) :
    (p.run >>= fun answer => (pure (f answer.toOption) : HostProg β)).Coupled hostLikeness Eq
      (p.run >>= fun answer => pure (f answer.toOption)) := by
  refine Prog.Coupled.bind hp ?_
  intro answer answer' h
  exact .value (congrArg f h.toOption_eq)

/-- Lookups one after the other, each coupled. -/
theorem mapM_discreet {α β : Type} {f : α → HostProg β}
    (hf : ∀ a, (f a).Coupled hostLikeness Eq (f a)) (l : List α) :
    Discreet (ExceptT.lift (l.mapM f) : HostTry (List β)) := by
  refine .lift ((Prog.Coupled.mapM fun a _ => hf a).mono ?_)
  intro bs bs' h
  exact List.forall₂_eq_eq_eq ▸ h

variable [Chrono]

theorem fetchServiceDetails_discreet (scope : UnitScope) (path : String) :
    Discreet (fetchServiceDetails scope path) := by
  have hstring : ∀ interface name,
      Discreet (tryGetStringProperty scope path interface name) := by
    intro interface name
    exact (property_discreet _ _ _ _ _ _).bind fun _ => .of_pure _
  have hu64 : ∀ interface name, Discreet (tryGetU64Property scope path interface name) := by
    intro interface name
    exact (property_discreet _ _ _ _ _ _).bind fun _ => .of_pure _
  have hu32 : ∀ interface name, Discreet (tryGetU32Property scope path interface name) := by
    intro interface name
    exact (property_discreet _ _ _ _ _ _).bind fun _ => .of_pure _
  refine (proxy_discreet _ _ _ _).bind fun _ => ?_
  refine (hstring _ _).bind fun unitFileState => (hu64 _ _).bind fun since => ?_
  refine (proxy_discreet _ _ _ _).bind fun _ => ?_
  refine (hu32 _ _).bind fun mainPid => (hu32 _ _).bind fun execMainStatus => ?_
  exact (hstring _ _).bind fun result => .of_pure _

theorem fetchTimerDetails_coupled (scope : UnitScope) (path : String)
    (names : List (String × String)) :
    (fetchTimerDetails scope path names).Coupled hostLikeness Eq
      (fetchTimerDetails scope path names) := by
  have hread := readOptionalProperty_coupled scope path
  refine (coupled_ask (.proxy scope path .unit)).bind ?_
  rintro unitProxy unitProxy' hunit
  cases hunit with
  | error _ => exact .value rfl
  | ok _ =>
      refine (coupled_ask (.proxy scope path .timer)).bind ?_
      rintro timerProxy timerProxy' htimer
      refine (hread .unit "UnitFileState" .string).bind ?_
      rintro unitFileState _ rfl
      refine (hread .unit "Triggers" .paths).bind ?_
      rintro triggers _ rfl
      cases htimer with
      | error _ => exact .value rfl
      | ok _ =>
          refine (hread .timer "NextElapseUSecRealtime" .u64).bind ?_
          rintro nextRun _ rfl
          refine (hread .timer "LastTriggerUSec" .u64).bind ?_
          rintro lastRun _ rfl
          refine (hread .timer "Persistent" .bool).bind ?_
          rintro persistent _ rfl
          refine (hread .timer "Result" .string).bind ?_
          rintro result _ rfl
          exact .value rfl

theorem listServiceUnitsForSingleScope_discreet (scope : UnitScope) :
    Discreet (listServiceUnitsForSingleScope scope) := by
  refine (dbusConnectionForScope_discreet scope).bind fun _ => ?_
  refine (listUnitsRows_discreet scope).bind fun rawUnits => ?_
  refine (mapM_discreet ?_ _).bind fun results => .of_pure _
  intro task
  exact toOption_coupled (fetchServiceDetails_discreet scope task.2) _

theorem listTimerUnitsForSingleScope_discreet (scope : UnitScope) :
    Discreet (listTimerUnitsForSingleScope scope) := by
  refine (dbusConnectionForScope_discreet scope).bind fun _ => ?_
  refine (listUnitsRows_discreet scope).bind fun rawUnits => ?_
  refine (mapM_discreet ?_ _).bind fun results => .of_pure _
  intro task
  refine (fetchTimerDetails_coupled scope task.2 _).bind ?_
  rintro details _ rfl
  exact .value rfl

omit [Chrono] in
/-- Both managers' rows are combined by which of the two has failed. -/
theorem bothScopes_discreet {α : Type} (unitKind : String) (key : α → String)
    {single : UnitScope → HostTry (List α)} (h : ∀ scope, Discreet (single scope)) :
    Discreet (bothScopes unitKind key single) := by
  refine Prog.Coupled.bind (h .system) ?_
  intro systemResult systemResult' hsystem
  refine Prog.Coupled.bind (h .user) ?_
  intro userResult userResult' huser
  refine .value ?_
  cases hsystem <;> cases huser <;>
    first | exact .error (.internal _ _ _) | exact .ok _

theorem listServiceUnits_discreet (scope : UnitScope) : Discreet (listServiceUnits scope) := by
  cases scope with
  | both => exact bothScopes_discreet _ _ listServiceUnitsForSingleScope_discreet
  | system => exact listServiceUnitsForSingleScope_discreet .system
  | user => exact listServiceUnitsForSingleScope_discreet .user

theorem listTimerUnits_discreet (scope : UnitScope) : Discreet (listTimerUnits scope) := by
  cases scope with
  | both => exact bothScopes_discreet _ _ listTimerUnitsForSingleScope_discreet
  | system => exact listTimerUnitsForSingleScope_discreet .system
  | user => exact listTimerUnitsForSingleScope_discreet .user

omit [Chrono] in
theorem systemState_discreet (scope : UnitScope) : Discreet (systemState scope) := by
  refine (dbusConnectionForScope_discreet scope).bind fun _ => ?_
  refine (proxy_discreet _ _ _ _).bind fun _ => ?_
  exact property_discreet _ _ _ _ _ _

theorem unitMainStart_discreet (unit : String) (scope : UnitScope) :
    Discreet (unitMainStart unit scope) :=
  (listServiceUnits_discreet scope).bind fun _ => .of_pure _

/-! ## Journals -/

omit [Chrono]

/-- An operation fails on both journals, or on neither. -/
theorem Journal.Like.faults {journal journal' : Journal} (h : journal.Like journal')
    (op : ReadOp) :
    (journal.fault op = none ∧ journal'.fault op = none)
      ∨ ∃ err err', journal.fault op = some err ∧ journal'.fault op = some err' := by
  have hfault := h.fault op
  cases hop : journal.fault op with
  | none =>
      rw [hop] at hfault
      exact .inl ⟨rfl, Option.not_isSome_iff_eq_none.mp (hfault ▸ Bool.false_ne_true)⟩
  | some err =>
      rw [hop] at hfault
      obtain ⟨err', herr'⟩ := Option.isSome_iff_exists.mp hfault.symm
      exact .inr ⟨err, err', rfl, herr'⟩

theorem Journal.Like.attempt {journal journal' : Journal} (h : journal.Like journal')
    (op : ReadOp) (what : String) :
    LikeAnswer (journal.attempt op what) (journal'.attempt op what) := by
  rcases h.faults op with ⟨hnone, hnone'⟩ | ⟨err, err', hsome, hsome'⟩
  · rw [Journal.attempt, Journal.attempt, hnone, hnone']
    exact .ok ()
  · rw [Journal.attempt, Journal.attempt, hsome, hsome']
    exact .error (.internal _ _ _)

theorem Journal.Like.reads_field {journal journal' : Journal} (h : journal.Like journal')
    (entry : JournalEntry) (name : String) :
    LikeAnswer (readJournalField (journal.reads entry) name)
      (readJournalField (journal'.reads entry) name) := by
  have hreads : SameButText ((journal.reads entry).field name)
      ((journal'.reads entry).field name) := by
    rcases h.faults (.field entry name) with ⟨hnone, hnone'⟩ | ⟨err, err', hsome, hsome'⟩
    · simp only [Journal.reads, hnone, hnone']
      exact .ok _
    · simp only [Journal.reads, hsome, hsome']
      exact .error trivial
  exact hreads.mapError fun _ _ _ => .internal _ _ _

theorem Journal.Like.reads_cursor {journal journal' : Journal} (h : journal.Like journal')
    (entry : JournalEntry) :
    (journal.reads entry).cursor.toOption = (journal'.reads entry).cursor.toOption := by
  rcases h.faults (.cursor entry) with ⟨hnone, hnone'⟩ | ⟨err, err', hsome, hsome'⟩
  · simp only [Journal.reads, hnone, hnone']
  · simp only [Journal.reads, hsome, hsome']
    rfl

theorem likeAnswer_refl {α : Type} (answer : Except AppError α) : LikeAnswer answer answer :=
  .refl .refl answer

section Scans

variable [Chrono]

theorem entryRow_like [RegexEngine] {journal journal' : Journal} (h : journal.Like journal')
    (query : LogQuery) (matcher : Option GrepMatcher) (entry : JournalEntry) :
    LikeAnswer (entryRow query matcher (journal.reads entry) entry.timestampUsec)
      (entryRow query matcher (journal'.reads entry) entry.timestampUsec) := by
  rw [entryRow, entryRow, h.reads_cursor entry]
  refine (h.reads_field entry "_SYSTEMD_UNIT").bind fun systemUnit => ?_
  refine (h.reads_field entry "_SYSTEMD_USER_UNIT").bind fun userUnit => ?_
  dsimp only
  cases unitAccepted query (selectUnitForScope query.scope systemUnit userUnit) with
  | false => exact .ok none
  | true =>
      cases DateTime.fromTimestampMicros entry.timestampUsec with
      | none => exact .ok none
      | some timestamp =>
          refine (h.reads_field entry "PRIORITY").bind fun priority => ?_
          cases priorityAccepted query.threshold (priority.bind (parseUnsigned 255)) with
          | false => exact .ok none
          | true =>
              refine (h.reads_field entry "_HOSTNAME").bind fun hostname => ?_
              refine (h.reads_field entry "_PID").bind fun pid => ?_
              exact (h.reads_field entry "MESSAGE").bind fun message => likeAnswer_refl _

theorem scan_like [RegexEngine] {journal journal' : Journal} (h : journal.Like journal')
    (query : LogQuery) (matcher : Option GrepMatcher) (start finish : Int)
    (entries : List JournalEntry) (rows : List JournalLogEntry) (scanned : Nat) :
    LikeAnswer (scan journal query matcher start finish entries rows scanned)
      (scan journal' query matcher start finish entries rows scanned) := by
  induction entries generalizing rows scanned with
  | nil =>
      rw [scan, scan]
      by_cases hfull : query.limit < rows.length
      · rw [if_pos hfull, if_pos hfull]
        exact .ok _
      · rw [if_neg hfull, if_neg hfull]
        exact (h.attempt _ _).bind fun _ => .ok _
  | cons entry rest ih =>
      rw [scan, scan]
      by_cases hfull : query.limit < rows.length
      · rw [if_pos hfull, if_pos hfull]
        exact .ok _
      rw [if_neg hfull, if_neg hfull]
      refine (h.attempt _ _).bind fun _ => (h.attempt _ _).bind fun _ => ?_
      by_cases hrange : 2 ^ 63 ≤ entry.timestampUsec
      · rw [if_pos hrange, if_pos hrange]
        exact ih _ _
      rw [if_neg hrange, if_neg hrange]
      by_cases hbefore : (entry.timestampUsec : Int) < start
      · rw [if_pos hbefore, if_pos hbefore]
        by_cases horder : query.order = .desc
        · rw [if_pos horder, if_pos horder]
          exact .ok _
        · rw [if_neg horder, if_neg horder]
          exact ih _ _
      rw [if_neg hbefore, if_neg hbefore]
      by_cases hbehind : finish < (entry.timestampUsec : Int)
      · rw [if_pos hbehind, if_pos hbehind]
        by_cases horder : query.order = .asc
        · rw [if_pos horder, if_pos horder]
          exact .ok _
        · rw [if_neg horder, if_neg horder]
          exact ih _ _
      rw [if_neg hbehind, if_neg hbehind]
      refine (entryRow_like h query matcher entry).bind ?_
      intro row
      cases row with
      | none => exact ih _ _
      | some row => exact ih _ _

omit [Chrono] in
theorem startPosition_like {journal journal' : Journal} (h : journal.Like journal')
    (query : LogQuery) (start finish : Int) :
    LikeAnswer (startPosition journal query start finish)
      (startPosition journal' query start finish) := by
  rw [startPosition, startPosition]
  cases query.cursor with
  | some cursor =>
      have hselected : journal.selected cursor = journal'.selected cursor := by
        rw [Journal.selected, Journal.selected, h.entries, h.nearest]
      dsimp only
      rw [positionAtExactCursor, positionAtExactCursor, h.fault, h.fault, h.fault, hselected]
      exact likeAnswer_refl _
  | none =>
      have hseek : ∀ what (position : Position),
          LikeAnswer (journal.attempt .seek what >>= fun _ => pure position)
            (journal'.attempt .seek what >>= fun _ => pure position) := by
        intro what position
        exact (h.attempt .seek what).bind fun _ => .ok position
      cases query.order with
      | desc =>
          dsimp only [seekWindow]
          split
          · exact hseek _ _
          · exact hseek _ _
      | asc =>
          dsimp only [seekWindow]
          split
          · exact hseek _ _
          · exact hseek _ _

theorem readJournalLogs_like [RegexEngine] {opened opened' : Except String Journal}
    (h : LikeOpened opened opened') (query : LogQuery) :
    LikeAnswer (readJournalLogs opened query) (readJournalLogs opened' query) := by
  cases h with
  | error err err' => exact .error (.internal _ _ _)
  | @ok journal journal' h =>
      refine AlikeExcept.bind (likeAnswer_refl (buildGrepMatcher query.grep)) fun matcher => ?_
      cases query.startUtc with
      | none => exact likeAnswer_refl _
      | some startUtc =>
          cases query.endUtc with
          | none => exact likeAnswer_refl _
          | some endUtc =>
              dsimp only
              refine (startPosition_like h query _ _).bind fun position => ?_
              rw [h.entries]
              exact (scan_like h query matcher _ _ _ _ _).bind fun result => likeAnswer_refl _

theorem entryTransition_like {journal journal' : Journal} (h : journal.Like journal')
    (unit : String) (entry : JournalEntry) :
    LikeAnswer (entryTransition journal unit entry) (entryTransition journal' unit entry) := by
  rw [entryTransition, entryTransition, h.reads_cursor entry]
  refine (h.reads_field entry "MESSAGE_ID").bind fun messageId => ?_
  cases messageId.bind transitionKind with
  | none => exact .ok none
  | some kind =>
      refine (h.reads_field entry "UNIT").bind fun systemUnit => ?_
      refine (h.reads_field entry "USER_UNIT").bind fun userUnit => ?_
      by_cases hunit : systemUnit.or userUnit ≠ some unit
      · rw [if_pos hunit, if_pos hunit]
        exact .ok none
      rw [if_neg hunit, if_neg hunit]
      refine (h.attempt _ _).bind fun _ => ?_
      cases DateTime.fromTimestampMicros entry.timestampUsec with
      | none => exact .ok none
      | some timestamp =>
          exact (h.reads_field entry "MESSAGE").bind fun message => .ok _

theorem scanTransitions_like {journal journal' : Journal} (h : journal.Like journal')
    (unit : String) (limit budget : Nat) (entries : List JournalEntry)
    (transitions : List UnitTransition) :
    LikeAnswer (scanTransitions journal unit limit budget entries transitions)
      (scanTransitions journal' unit limit budget entries transitions) := by
  induction budget generalizing entries transitions with
  | zero => exact .ok transitions
  | succ budget ih =>
      simp only [scanTransitions]
      by_cases hfull : limit ≤ transitions.length
      · rw [if_pos hfull, if_pos hfull]
        exact .ok transitions
      rw [if_neg hfull, if_neg hfull]
      refine (h.attempt _ _).bind fun _ => ?_
      cases entries with
      | nil => exact .ok transitions
      | cons entry rest =>
          refine (entryTransition_like h unit entry).bind fun transition => ?_
          cases transition with
          | none => exact ih _ _
          | some transition => exact ih _ _

theorem transitionsOf_like {opened opened' : Except String Journal}
    (h : LikeOpened opened opened') (unit : String) (limit : Nat) :
    LikeAnswer (transitionsOf opened unit limit) (transitionsOf opened' unit limit) := by
  cases h with
  | error err err' => exact .error (.internal _ _ _)
  | @ok journal journal' h =>
      rw [transitionsOf, transitionsOf]
      refine (h.attempt .seek "failed to seek transition journal tail").bind fun _ => ?_
      rw [h.entries]
      exact scanTransitions_like h unit limit _ _ _

end Scans

/-! ## Inspection and logs -/

variable [Chrono]

theorem readUnitTransitions_discreet (unit : String) (scope : UnitScope) (limit : Nat) :
    Discreet (readUnitTransitions unit scope limit) := by
  have hread : Discreet (do
      let opened ← ExceptT.lift (ask (.openJournal scope))
      ExceptT.mk (pure (transitionsOf opened unit limit)) : HostTry (List UnitTransition)) := by
    refine Discreet.answered (coupled_ask (.openJournal scope)) ?_
    intro opened opened' h
    exact transitionsOf_like h unit limit
  rw [readUnitTransitions]
  split
  · exact .of_throw _
  · exact hread

theorem recentTransitions_coupled (scope : UnitScope) (unit : String) (limit : Nat) :
    (recentTransitions scope unit limit).Coupled hostLikeness Eq
      (recentTransitions scope unit limit) := by
  refine Prog.Coupled.bind (readUnitTransitions_discreet unit scope limit) ?_
  intro transitions transitions' htransitions
  refine (coupled_ask .joinReader).bind ?_
  rintro joined joined' hjoined
  cases hjoined with
  | error _ => exact .value rfl
  | ok _ => exact .value (by rw [htransitions.toOption_eq])

theorem readFailedDependencies_discreet (scope : UnitScope) (unitPath : String) :
    Discreet (readFailedDependencies scope unitPath) := by
  have hresult : ∀ (rows : List RawUnit) (dependency : FailedDependency),
      (dependencyResult scope rows dependency).Coupled hostLikeness Eq
        (dependencyResult scope rows dependency) := by
    intro rows dependency
    rw [dependencyResult]
    split
    · next row _ =>
        split
        · exact toOption_coupled (fetchServiceDetails_discreet scope row.unitPath)
            fun details => { dependency with result := details.bind ServiceDetails.result }
        · exact .value rfl
    · exact .value rfl
  refine (proxy_discreet _ _ _ _).bind fun _ => ?_
  refine Discreet.bind (.lift (readOptionalProperty_coupled _ _ _ _ _)) fun requires => ?_
  refine Discreet.bind (.lift (readOptionalProperty_coupled _ _ _ _ _)) fun wants => ?_
  refine (listUnitsRows_discreet scope).bind fun rows => ?_
  exact mapM_discreet (hresult rows) _

theorem getUnitStatus_discreet (unit : String) (scope : UnitScope) (transitionLimit : Nat) :
    Discreet (getUnitStatus unit scope transitionLimit) := by
  rw [getUnitStatus]
  split
  · exact .of_throw _
  · refine (listServiceUnitsForSingleScope_discreet scope).bind fun rows => ?_
    split
    · exact .of_throw _
    · next row _ =>
        refine (dbusConnectionForScope_discreet scope).bind fun _ => ?_
        refine (proxy_discreet _ _ _ _).bind fun _ => ?_
        refine Prog.Coupled.liftThen (coupled_ask (.getUnit scope unit)) ?_
        rintro found found' hfound
        cases hfound with
        | error _ => exact Discreet.of_throw _
        | ok unitPath =>
            refine Prog.Coupled.liftThen (readFailedDependencies_discreet scope unitPath) ?_
            intro dependencies dependencies' hdependencies
            rw [hdependencies.toOption_eq]
            exact Discreet.bind (.lift (recentTransitions_coupled scope unit transitionLimit))
              fun transitions => .of_pure _

theorem listJournalLogs_discreet [RegexEngine] (query : LogQuery) :
    Discreet (listJournalLogs query) := by
  refine (coupled_ask (.openJournal query.scope)).bind ?_
  intro opened opened' hopened
  refine (coupled_ask .joinReader).bind ?_
  rintro joined joined' hjoined
  cases hjoined with
  | error _ => exact .value (.error (.internal _ _ _))
  | ok _ => exact .value (readJournalLogs_like hopened query)

/-! ## Podman -/

omit [Chrono] in
theorem inspect_discreet [SerdeJson] (kind : Podman.Kind)
    (compact : Json → Except AppError Json) (value : String) :
    Discreet (Podman.inspect kind compact value) := by
  have hpure : ∀ {α : Type} (answer : Except AppError α), Discreet (ExceptT.mk (pure answer)) :=
    fun answer => .value (likeAnswer_refl answer)
  refine (hpure _).bind fun _ => Discreet.bind ?_ fun raw => hpure _
  refine Discreet.answered (coupled_ask (.podman _)) ?_
  intro outcome outcome' houtcome
  exact houtcome.commandResult _

/-- **No provider looks at the words of a failure**, but for the verdict on standard error: on hosts
that differ in the rest only, it asks for the same and answers alike. -/
theorem fulfil_discreet [RegexEngine] [SerdeJson] (o : ProviderOp) :
    (fulfil o).Coupled hostLikeness LikeAnswer (fulfil o) := by
  cases o with
  | systemState scope => exact systemState_discreet scope
  | listServiceUnits scope => exact listServiceUnits_discreet scope
  | getUnitStatus unit scope limit => exact getUnitStatus_discreet unit scope limit
  | listTimerUnits scope => exact listTimerUnits_discreet scope
  | listJournalLogs query => exact listJournalLogs_discreet query
  | unitMainStart unit scope => exact unitMainStart_discreet unit scope
  | containerStatus container => exact inspect_discreet _ _ container
  | podStatus pod => exact inspect_discreet _ _ pod

end Units

end SystemdMonitoring
