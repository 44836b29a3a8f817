/-
# `SystemdMonitoring.Lib.TextParts` — sizes, parts and numbers of a text

A text of `n` characters has at least `n` bytes, and exactly `n` when all of
them are ASCII (`utf8ByteSize_of_ascii`).  Splitting at a character is the
inverse of joining parts that do not have it (`splitChars_eq_cons_cons_iff`,
`splitChars_eq_singleton_iff`).  An integer is parsed from its decimal digits,
under a sign that may be there (`parseUnsigned_eq_some_iff`).
-/
import Mathlib.Data.String.Basic
import SystemdMonitoring.Lib.Text

namespace Lib.Text

/-! ## Sizes -/

theorem utf8ByteSize_eq (s : String) : s.utf8ByteSize = String.utf8Len s.toList := by
  rw [← String.utf8ByteSize_ofList, String.ofList_toList]

theorem length_le_utf8ByteSize (s : String) : s.toList.length ≤ s.utf8ByteSize := by
  rw [utf8ByteSize_eq]
  induction s.toList with
  | nil => exact Nat.le_refl 0
  | cons c cs ih =>
      have hc := Char.utf8Size_pos c
      rw [String.utf8Len_cons, List.length_cons]
      omega

/-- An ASCII character takes one byte. -/
theorem utf8ByteSize_of_ascii {s : String} (h : ∀ c ∈ s.toList, c.toNat ≤ 127) :
    s.utf8ByteSize = s.toList.length := by
  rw [utf8ByteSize_eq]
  generalize s.toList = chars at h
  induction chars with
  | nil => rfl
  | cons c cs ih =>
      have hone : c.utf8Size = 1 :=
        Char.utf8Size_eq_one_iff.mpr (UInt32.le_iff_toNat_le.mpr (h c List.mem_cons_self))
      rw [String.utf8Len_cons, hone, List.length_cons,
        ih fun d hd => h d (List.mem_cons_of_mem c hd)]

theorem toNat_of_isAsciiDigit {c : Char} (h : isAsciiDigit c = true) :
    48 ≤ c.toNat ∧ c.toNat ≤ 57 := by
  rw [isAsciiDigit, Bool.and_eq_true, decide_eq_true_eq, decide_eq_true_eq] at h
  exact h

/-! ## Parts -/

theorem splitChars_ne_nil (c : Char) (cs : List Char) : splitChars c cs ≠ [] := by
  cases cs with
  | nil => exact List.cons_ne_nil _ _
  | cons x xs =>
      rw [splitChars]
      split
      · exact List.cons_ne_nil _ _
      · split <;> exact List.cons_ne_nil _ _

theorem splitChars_cons_of_ne {c x : Char} (h : x ≠ c) {xs p : List Char} {ps : List (List Char)}
    (hxs : splitChars c xs = p :: ps) : splitChars c (x :: xs) = (x :: p) :: ps := by
  rw [splitChars, if_neg h, hxs]

/-- No separator: one part. -/
theorem splitChars_of_not_mem {c : Char} {cs : List Char} (h : c ∉ cs) :
    splitChars c cs = [cs] := by
  induction cs with
  | nil => rfl
  | cons x xs ih =>
      rw [List.mem_cons, not_or] at h
      obtain ⟨hx, hxs⟩ := h
      exact splitChars_cons_of_ne (Ne.symm hx) (ih hxs)

/-- The part before the first separator, and the parts behind it. -/
theorem splitChars_append {c : Char} {p : List Char} (h : c ∉ p) (rest : List Char) :
    splitChars c (p ++ c :: rest) = p :: splitChars c rest := by
  induction p with
  | nil => rw [List.nil_append, splitChars, if_pos rfl]
  | cons x p ih =>
      rw [List.mem_cons, not_or] at h
      obtain ⟨hx, hp⟩ := h
      exact splitChars_cons_of_ne (Ne.symm hx) (ih hp)

theorem exists_splitChars (c : Char) (cs : List Char) :
    c ∉ cs ∨ ∃ p rest, c ∉ p ∧ cs = p ++ c :: rest := by
  by_cases h : c ∈ cs
  · obtain ⟨p, rest, heq, hp⟩ := List.eq_append_cons_of_mem h
    exact .inr ⟨p, rest, hp, heq⟩
  · exact .inl h

theorem splitChars_eq_singleton_iff {c : Char} {cs p : List Char} :
    splitChars c cs = [p] ↔ cs = p ∧ c ∉ p := by
  constructor
  · intro h
    rcases exists_splitChars c cs with hmem | ⟨q, rest, hq, rfl⟩
    · rw [splitChars_of_not_mem hmem] at h
      cases h
      exact ⟨rfl, hmem⟩
    · rw [splitChars_append hq] at h
      exact absurd (List.cons.inj h).2 (splitChars_ne_nil c rest)
  · rintro ⟨rfl, hp⟩
    exact splitChars_of_not_mem hp

theorem splitChars_eq_cons_cons_iff {c : Char} {cs p q : List Char} {ps : List (List Char)} :
    splitChars c cs = p :: q :: ps
      ↔ ∃ rest, cs = p ++ c :: rest ∧ c ∉ p ∧ splitChars c rest = q :: ps := by
  constructor
  · intro h
    rcases exists_splitChars c cs with hmem | ⟨r, rest, hr, rfl⟩
    · rw [splitChars_of_not_mem hmem] at h
      cases h
    · rw [splitChars_append hr] at h
      obtain ⟨rfl, hrest⟩ := List.cons.inj h
      exact ⟨rest, rfl, hr, hrest⟩
  · rintro ⟨rest, rfl, hp, hrest⟩
    rw [splitChars_append hp, hrest]

/-! ## Numbers -/

/-- The text is a decimal numeral of `n`: digits, behind a plus sign if one is there. -/
def IsDecimal (s : String) (n : Nat) : Prop :=
  ∃ digits : List Char, (s.toList = digits ∨ s.toList = '+' :: digits) ∧ digits ≠ []
    ∧ (∀ c ∈ digits, isAsciiDigit c = true) ∧ digitsValue digits = n

theorem parseDigits_eq_some_iff {cs : List Char} {n : Nat} :
    parseDigits cs = some n
      ↔ cs ≠ [] ∧ (∀ c ∈ cs, isAsciiDigit c = true) ∧ digitsValue cs = n := by
  have hall : cs.all isAsciiDigit = true ↔ ∀ c ∈ cs, isAsciiDigit c = true := List.all_eq_true
  rw [parseDigits, ← hall, ← and_assoc]
  by_cases h : cs ≠ [] ∧ cs.all isAsciiDigit = true
  · rw [if_pos h, Option.some_inj]
    exact (and_iff_right h).symm
  · rw [if_neg h]
    constructor
    · intro hnone
      cases hnone
    · rintro ⟨hdigits, -⟩
      exact absurd hdigits h

/-- The parser of unsigned integers reads the decimal numerals in its range. -/
theorem parseUnsigned_eq_some_iff {max n : Nat} {s : String} :
    parseUnsigned max s = some n ↔ IsDecimal s n ∧ n ≤ max := by
  have hplus : ∀ {digits : List Char}, (∀ c ∈ '+' :: digits, isAsciiDigit c = true) → False := by
    intro digits h
    cases h '+' List.mem_cons_self
  rw [parseUnsigned, Option.filter_eq_some_iff, parseDigits_eq_some_iff, decide_eq_true_eq]
  refine and_congr_left fun _ => ?_
  split
  · next cs heq =>
      constructor
      · rintro ⟨hne, hdigits, hvalue⟩
        exact ⟨cs, .inr heq, hne, hdigits, hvalue⟩
      · rintro ⟨digits, hs | hs, hne, hdigits, hvalue⟩
        · rw [heq] at hs
          exact (hplus (hs ▸ hdigits)).elim
        · rw [heq] at hs
          obtain rfl := (List.cons.inj hs).2
          exact ⟨hne, hdigits, hvalue⟩
  · next hnot =>
      constructor
      · rintro ⟨hne, hdigits, hvalue⟩
        exact ⟨s.toList, .inl rfl, hne, hdigits, hvalue⟩
      · rintro ⟨digits, hs | hs, hne, hdigits, hvalue⟩
        · rw [hs]
          exact ⟨hne, hdigits, hvalue⟩
        · exact absurd hs (hnot digits)

end Lib.Text
