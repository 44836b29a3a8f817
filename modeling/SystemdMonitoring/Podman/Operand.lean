/-
# `SystemdMonitoring.Podman.Operand` — what podman takes an identifier for

An accepted identifier becomes the third word of a `podman` command.  It cannot
break out of that word: it is not empty, not long, and has no character that
separates words or means something to a shell.  But a dash is an identifier
character, and a word that begins with one is no operand to podman but an
option.  So the command is the intended one exactly when the identifier does
not begin with a dash (`status_oneOperand_iff`).
-/
import SystemdMonitoring.Podman.Client

namespace SystemdMonitoring.Podman

open Lib Lib.Text

/-- The provider's operation on a target of either kind. -/
def Kind.status [SerdeJson] : Kind → String → HostTry Json
  | .container => containerStatus
  | .pod => podStatus

/-- Characters that mean something to a shell. -/
def shellMetacharacters : List Char := "|&;<>()$`\\\"'*?[]#~=%!\x7b\x7d^".toList

/-- The command is two fixed words and the identifier, which is one word to a shell and one operand
to podman. -/
structure OneOperand (kind : Kind) (value : String) (args : List String) : Prop where
  args : args = [kind.asStr, "inspect", value]
  nonempty : value ≠ ""
  size : value.utf8ByteSize ≤ 256
  chars : ∀ c ∈ value.toList, isWhitespace c = false ∧ c ≠ '/' ∧ c ∉ shellMetacharacters
  operand : startsWith '-' value = false

/-! ## Accepted characters -/

/-- Identifier characters are visible ASCII. -/
theorem isWhitespace_of_isIdentifierChar {c : Char} (h : isIdentifierChar c = true) :
    isWhitespace c = false := by
  have hrange : 45 ≤ c.toNat ∧ c.toNat ≤ 122 := by
    simp only [isIdentifierChar, isAsciiAlphanumeric, isAsciiDigit, Bool.or_eq_true,
      Bool.and_eq_true, decide_eq_true_eq, beq_iff_eq] at h
    rcases h with (((((((h | h) | h) | rfl) | rfl) | rfl) | rfl) | rfl)
    · have hlow : 48 ≤ c.toNat := UInt32.le_iff_toNat_le.mp h.1
      have hhigh : c.toNat ≤ 57 := UInt32.le_iff_toNat_le.mp h.2
      omega
    · have hlow : 97 ≤ c.toNat := UInt32.le_iff_toNat_le.mp h.1
      have hhigh : c.toNat ≤ 122 := UInt32.le_iff_toNat_le.mp h.2
      omega
    · have hlow : 65 ≤ c.toNat := UInt32.le_iff_toNat_le.mp h.1
      have hhigh : c.toNat ≤ 90 := UInt32.le_iff_toNat_le.mp h.2
      omega
    · decide
    · decide
    · decide
    · decide
    · decide
  simp only [isWhitespace, Bool.or_eq_false_iff, Bool.and_eq_false_iff, decide_eq_false_iff_not,
    beq_eq_false_iff_ne, not_le]
  omega

theorem isIdentifierChar_safe {c : Char} (h : isIdentifierChar c = true) :
    isWhitespace c = false ∧ c ≠ '/' ∧ c ∉ shellMetacharacters := by
  have hmeta : ∀ m ∈ shellMetacharacters, isIdentifierChar m = false := by
    intro m hm
    have hall : shellMetacharacters.all (fun m => !isIdentifierChar m) = true := rfl
    exact (Bool.not_eq_true' _).mp (List.all_eq_true.mp hall m hm)
  refine ⟨isWhitespace_of_isIdentifierChar h, ?_, ?_⟩
  · rintro rfl
    exact absurd h (by decide)
  · intro hc
    rw [hmeta c hc] at h
    cases h

theorem validateIdentifier_eq_ok_iff {value : String} {kind : Kind} :
    validateIdentifier value kind = .ok ()
      ↔ value ≠ "" ∧ value.utf8ByteSize ≤ 256 ∧ ∀ c ∈ value.toList, isIdentifierChar c = true := by
  rw [validateIdentifier]
  split
  case isTrue h =>
    refine iff_of_false (fun heq => by cases heq) ?_
    rintro ⟨hne, hsize, hchars⟩
    rcases h with h | h | h
    · exact hne h
    · omega
    · rw [List.all_eq_true.mpr hchars] at h
      cases h
  case isFalse h =>
    refine iff_of_true rfl ?_
    simp only [not_or, not_lt, Bool.not_eq_false] at h
    exact ⟨h.1, h.2.1, List.all_eq_true.mp h.2.2⟩

theorem validateIdentifier_eq_error {value : String} {kind : Kind}
    (h : validateIdentifier value kind ≠ .ok ()) :
    validateIdentifier value kind = .error kind.invalid := by
  rw [validateIdentifier] at h ⊢
  split
  · rfl
  case isFalse hvalid => exact absurd (if_neg hvalid) h

/-! ## What is started -/

section Started

variable [SerdeJson] {σ : Type} (h : Host HostSig σ) (s : σ)

theorem status_eq_inspect (kind : Kind) (value : String) :
    ∃ compact, kind.status value = inspect kind compact value := by
  cases kind with
  | container => exact ⟨compactContainer, rfl⟩
  | pod => exact ⟨compactPod, rfl⟩

/-- An accepted identifier starts one process. -/
theorem trace_of_accepted {kind : Kind} {value : String}
    (hvalue : validateIdentifier value kind = .ok ()) :
    ((kind.status value).run.run h s).trace = [.podman [kind.asStr, "inspect", value]] := by
  obtain ⟨compact, hstatus⟩ := status_eq_inspect kind value
  have hprog : (inspect kind compact value).run
      = .op (.podman [kind.asStr, "inspect", value])
          (fun outcome => pure (commandResult kind.notFoundCode outcome >>= compact)) := by
    have hrest : ∀ answer : Except AppError Json,
        ((pure answer : HostProg (Except AppError Json))
          >>= ExceptT.bindCont (fun raw => ExceptT.mk (pure (compact raw))))
          = pure (answer >>= compact) := by
      intro answer
      cases answer <;> rfl
    rw [inspect, hvalue]
    exact congrArg (Prog.op _) (funext fun outcome => hrest (commandResult _ outcome))
  rw [hstatus, hprog]
  rfl

/-- A rejected one starts none. -/
theorem run_of_rejected {kind : Kind} {value : String}
    (hvalue : validateIdentifier value kind ≠ .ok ()) :
    (kind.status value).run.run h s = ⟨.done (.error kind.invalid), s, []⟩ := by
  obtain ⟨compact, hstatus⟩ := status_eq_inspect kind value
  rw [hstatus, inspect_of_invalid (validateIdentifier_eq_error hvalue)]
  rfl

/-- **When an identifier is an operand and nothing else**: for every string, exactly when it is not
an identifier that begins with a dash. -/
theorem status_oneOperand_iff (kind : Kind) (value : String) :
    ((validateIdentifier value kind ≠ .ok () →
        ((kind.status value).run.run h s).trace = []
          ∧ ((kind.status value).run.run h s).result = .done (.error kind.invalid))
      ∧ ∀ args, HostOp.podman args ∈ ((kind.status value).run.run h s).trace →
          OneOperand kind value args)
    ↔ ¬ (validateIdentifier value kind = .ok () ∧ startsWith '-' value = true) := by
  by_cases hvalue : validateIdentifier value kind = .ok ()
  · obtain ⟨hne, hsize, hchars⟩ := validateIdentifier_eq_ok_iff.mp hvalue
    rw [trace_of_accepted h s hvalue]
    constructor
    · rintro ⟨-, hargs⟩ ⟨-, hdash⟩
      have hoperand := (hargs _ List.mem_cons_self).operand
      rw [hdash] at hoperand
      cases hoperand
    · intro hno
      refine ⟨fun hinvalid => absurd hvalue hinvalid, ?_⟩
      intro args hargs
      have heq : args = [kind.asStr, "inspect", value] := by simpa using hargs
      exact ⟨heq, hne, hsize, fun c hc => isIdentifierChar_safe (hchars c hc),
        Bool.eq_false_of_not_eq_true fun hdash => hno ⟨hvalue, hdash⟩⟩
  · rw [run_of_rejected h s hvalue]
    refine iff_of_true ⟨fun _ => ⟨rfl, rfl⟩, ?_⟩ (fun hdash => hvalue hdash.1)
    intro args hargs
    cases hargs

end Started

/-- A host on which no command ends in time, and nothing else is there. -/
def idleHost : Host HostSig Unit where
  answer
    | .connect _, s => (.error "no bus", s)
    | .proxy _ _ _, s => (.error "no bus", s)
    | .listUnits _, s => (.error "no bus", s)
    | .getUnit _ _, s => (.error "no bus", s)
    | .property _ _ _ _ _, s => (.error "no bus", s)
    | .openJournal _, s => (.error "no journal", s)
    | .joinReader, s => (.ok (), s)
    | .podman _, s => (.timedOut, s)

/-- A name that is one of podman's options. -/
theorem latest_is_an_option :
    validateIdentifier "--latest" .container = .ok ()
    ∧ ((@Kind.status ⟨fun _ => none, fun _ => ""⟩ .container "--latest").run.run idleHost ()).trace
      = [.podman ["container", "inspect", "--latest"]]
    ∧ startsWith '-' "--latest" = true :=
  ⟨by rfl, by rfl, by decide⟩

end SystemdMonitoring.Podman
