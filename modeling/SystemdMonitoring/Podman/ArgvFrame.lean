/-
# `SystemdMonitoring.Podman.ArgvFrame` — what the walk over an argument vector leaves alone

Hiding credentials must not disturb the rest of a command line.  The printed
vector has the positions of the input; it has null where the input has no
string; and a string that is neither credential-like itself nor directly behind
a credential-like flag is printed as it is (`sanitizeArgv_frame`).

The bit of memory is what could carry a redaction too far.  It is set by a flag
alone and consumed by the next element, so one element back is as far as it
reaches (`redactNextAfter_concat`).
-/
import SystemdMonitoring.Podman.Argv

namespace SystemdMonitoring.Podman

open Lib Lib.Text

/-! ## Assignments -/

/-- A name that begins with a credential-like one is credential-like. -/
theorem isSensitiveArgumentName_of_prefix {name argument : String}
    (hstart : name.toList <+: argument.toList) (h : isSensitiveArgumentName name = true) :
    isSensitiveArgumentName argument = true := by
  obtain ⟨word, hword, hcontains⟩ := isSensitiveArgumentName_iff.mp h
  refine isSensitiveArgumentName_iff.mpr ⟨word, hword, ?_⟩
  obtain ⟨rest, hrest⟩ := hstart
  have hnonempty : ∀ word ∈ searchedWords, word.toList ≠ [] := by decide
  rw [contains_iff] at hcontains ⊢
  simp only [normalizedName, toList_replaceChar, toList_toAsciiLowercase, toList_trimStartMatches]
    at hcontains ⊢
  -- the word is found behind the name's dashes, so they end inside the name
  have hbehind : ¬ (name.toList.dropWhile (· == '-')).isEmpty = true := by
    intro hempty
    rw [List.isEmpty_iff.mp hempty, List.map_nil, List.map_nil, List.infix_nil] at hcontains
    exact hnonempty word hword hcontains
  rw [← hrest, List.dropWhile_append, if_neg hbehind, List.map_append, List.map_append]
  exact hcontains.trans (List.prefix_append _ _).isInfix

/-- What is in front of the first `=`. -/
theorem sensitiveAssignment_eq_some {argument name : String}
    (h : sensitiveAssignment argument = some name) :
    (∃ value, splitOnce '=' argument = some (name, value))
      ∧ isSensitiveArgumentName argument = true := by
  obtain ⟨hname, hsensitive⟩ := Option.filter_eq_some_iff.mp h
  obtain ⟨⟨first, value⟩, hsplit, rfl⟩ := Option.map_eq_some_iff.mp hname
  refine ⟨⟨value, hsplit⟩, isSensitiveArgumentName_of_prefix ?_ hsensitive⟩
  rw [splitOnce] at hsplit
  split at hsplit
  · cases hsplit
    rw [String.toList_ofList]
    exact List.takeWhile_prefix _
  · cases hsplit

/-! ## One element -/

/-- A credential-like string that starts with a dash and has no whitespace. -/
def FlagLike (argument : Json) : Prop :=
  ∃ flag, argument = .str flag ∧ isSensitiveArgumentName flag = true
    ∧ startsWith '-' flag = true ∧ flag.toList.any isWhitespace = false

/-- Only a flag sets the bit. -/
theorem flagLike_of_bit {redactNext : Bool} {argument : Json}
    (h : (sanitizeArgument redactNext argument).2 = true) : FlagLike argument := by
  rw [sanitizeArgument_bit, Bool.and_eq_true] at h
  obtain ⟨-, hflag⟩ := h
  cases argument with
  | str flag =>
      simp only [isCredentialFlag, isFlagShaped, Bool.and_eq_true, Bool.not_eq_true'] at hflag
      obtain ⟨⟨-, hname⟩, hdash, hspace⟩ := hflag
      exact ⟨flag, rfl, hname, hdash, hspace⟩
  | null | bool _ | int _ | float _ | arr _ | obj _ => cases hflag

/-- What an element may be printed as. -/
theorem sanitizeArgument_printed (redactNext : Bool) (argument : String) :
    (sanitizeArgument redactNext (.str argument)).1 = .str argument
      ∨ (sanitizeArgument redactNext (.str argument)).1 = .str "[REDACTED]"
      ∨ ∃ name value, splitOnce '=' argument = some (name, value)
        ∧ (sanitizeArgument redactNext (.str argument)).1 = .str (name ++ "=[REDACTED]") := by
  rw [sanitizeArgument]
  dsimp only [Json.asStr]
  split
  · exact .inr (.inl rfl)
  · split
    case h_1 name hname =>
      obtain ⟨⟨value, hsplit⟩, -⟩ := sensitiveAssignment_eq_some hname
      exact .inr (.inr ⟨name, value, hsplit, rfl⟩)
    case h_2 =>
      split
      · split
        · exact .inl rfl
        · exact .inr (.inl rfl)
      · exact .inl rfl

/-- Null is printed for what is no string, and for nothing else. -/
theorem sanitizeArgument_eq_null_iff (redactNext : Bool) (argument : Json) :
    (sanitizeArgument redactNext argument).1 = .null ↔ ¬ ∃ text, argument = .str text := by
  cases argument with
  | str text =>
      refine iff_of_false ?_ (fun hno => hno ⟨text, rfl⟩)
      intro hnull
      rcases sanitizeArgument_printed redactNext text with h | h | ⟨_, _, _, h⟩
      · rw [h] at hnull
        cases hnull
      · rw [h] at hnull
        cases hnull
      · rw [h] at hnull
        cases hnull
  | null | bool _ | int _ | float _ | arr _ | obj _ =>
      refine iff_of_true rfl ?_
      rintro ⟨text, htext⟩
      cases htext

/-- Outside a value slot, what is not credential-like is printed as it is. -/
theorem sanitizeArgument_of_not_sensitive {argument : String}
    (h : isSensitiveArgumentName argument = false) :
    (sanitizeArgument false (.str argument)).1 = .str argument := by
  have hassign : sensitiveAssignment argument = none := by
    cases hname : sensitiveAssignment argument with
    | none => rfl
    | some name =>
        rw [(sensitiveAssignment_eq_some hname).2] at h
        cases h
  simp [sanitizeArgument, Json.asStr, hassign, h]

/-! ## The whole vector -/

/-- The bit is the last element's doing. -/
theorem redactNextAfter_concat (redactNext : Bool) (before : List Json) (last : Json) :
    redactNextAfter redactNext (before ++ [last])
      = (sanitizeArgument (redactNextAfter redactNext before) last).2 := by
  rw [redactNextAfter_append]
  rfl

/-- Without a flag directly before it, an element is in no value slot. -/
theorem redactNextAfter_take_eq_false {arguments : List Json} {i : Nat} (hi : i < arguments.length)
    (hbefore : ∀ j previous, i = j + 1 → arguments[j]? = some previous → ¬ FlagLike previous) :
    redactNextAfter false (arguments.take i) = false := by
  cases i with
  | zero => rfl
  | succ j =>
      have hprevious : arguments[j]? = some arguments[j] := List.getElem?_eq_getElem (by omega)
      rw [List.take_add_one, hprevious, Option.toList_some, redactNextAfter_concat,
        Bool.eq_false_iff]
      exact fun hbit => hbefore j _ rfl hprevious (flagLike_of_bit hbit)

/-- What is printed at a position is printed for the element there, with the bit as the elements
before it have left it. -/
theorem getElem?_sanitizeArguments_take {arguments : List Json} {i : Nat} {argument : Json}
    (h : arguments[i]? = some argument) :
    (sanitizeArguments false arguments)[i]?
      = some (sanitizeArgument (redactNextAfter false (arguments.take i)) argument).1 := by
  obtain ⟨hi, rfl⟩ := List.getElem?_eq_some_iff.mp h
  have hprinted := getElem?_sanitizeArguments false (arguments.take i) (arguments.drop (i + 1))
    arguments[i]
  rwa [← List.drop_eq_getElem_cons hi, List.take_append_drop, List.length_take,
    Nat.min_eq_left hi.le] at hprinted

/-- **`sanitize_argv` changes nothing it need not change.** -/
theorem sanitizeArgv_frame (arguments : List Json) :
    ∃ printed, sanitizeArgv (some (.arr arguments)) = .arr printed
      ∧ printed.length = arguments.length
      ∧ ∀ i argument, arguments[i]? = some argument →
        ∃ shown, printed[i]? = some shown
          ∧ (shown = .null ↔ ¬ ∃ text, argument = .str text)
          ∧ ∀ text, argument = .str text →
            (isSensitiveArgumentName text = false →
              (∀ j previous, i = j + 1 → arguments[j]? = some previous → ¬ FlagLike previous) →
              shown = .str text)
            ∧ (shown = .str text ∨ shown = .str "[REDACTED]"
              ∨ ∃ name value, splitOnce '=' text = some (name, value)
                ∧ shown = .str (name ++ "=[REDACTED]")) := by
  refine ⟨sanitizeArguments false arguments, rfl, length_sanitizeArguments false arguments, ?_⟩
  intro i argument hargument
  refine ⟨_, getElem?_sanitizeArguments_take hargument, sanitizeArgument_eq_null_iff _ argument, ?_⟩
  rintro text rfl
  refine ⟨?_, sanitizeArgument_printed _ text⟩
  intro hplain hbefore
  obtain ⟨hi, -⟩ := List.getElem?_eq_some_iff.mp hargument
  rw [redactNextAfter_take_eq_false hi hbefore, sanitizeArgument_of_not_sensitive hplain]

end SystemdMonitoring.Podman
