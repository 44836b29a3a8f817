/-
# `SystemdMonitoring.Lib.Reader` — readers that backtrack, and where they stop

A reader takes a value off the front of a text, or fails and takes nothing.
Numbers are read greedily, digit by digit.

`Local c r` says that `r` never takes the character `c`: in front of a `c` it
reads what it reads at the end of a text, and whatever it leaves was there.
The property goes through every combinator, so that a reader is local at each
character its grammar does not mention.  Behind a character that ends it,
anything without that character may follow (`closed_append`).
-/
import SystemdMonitoring.Lib.Text

namespace Lib

/-- Take a value off the front of a text, or fail. -/
def Reader (α : Type) : Type := List Char → Option (α × List Char)

namespace Reader

variable {α β : Type}

instance : Monad Reader where
  pure a := fun cs => some (a, cs)
  bind r f := fun cs => (r cs).bind (fun found => f found.1 found.2)

def fail : Reader α := fun _ => none

/-- Exactly that character. -/
def char (c : Char) : Reader Unit
  | [] => none
  | d :: cs => if d = c then some ((), cs) else none

/-- A value if one is there; nothing is taken otherwise. -/
def attempt (r : Reader α) : Reader (Option α) := fun cs =>
  match r cs with
  | some (a, rest) => some (some a, rest)
  | none => some (none, cs)

/-- The first reader, or from the same place the second. -/
def orElse (r s : Reader α) : Reader α := fun cs => (r cs).or (s cs)

/-- The value of a digit or letter, below the radix. -/
def toDigit (radix : Nat) (c : Char) : Option Nat :=
  let value :=
    if Text.isAsciiDigit c then some (c.toNat - 48)
    else if 'a' ≤ c ∧ c ≤ 'z' then some (c.toNat - 87)
    else if 'A' ≤ c ∧ c ≤ 'Z' then some (c.toNat - 55)
    else none
  value.filter (· < radix)

def isDigit (radix : Nat) (c : Char) : Bool := (toDigit radix c).isSome

def digitsOf (radix : Nat) (digits : List Char) : Nat :=
  digits.foldl (fun n c => radix * n + (toDigit radix c).getD 0) 0

/-- All digits that are there: at least one, not more than `maxDigits`, and at most `max`; a zero
before other digits may be refused. -/
def readNumber (radix : Nat) (maxDigits : Option Nat) (allowZeroPrefix : Bool) (max : Nat) :
    Reader Nat := fun cs =>
  let digits := cs.takeWhile (isDigit radix)
  if digits = [] ∨ maxDigits.any (fun most => most < digits.length)
      ∨ (!allowZeroPrefix && digits.head? == some '0' && decide (1 < digits.length))
      ∨ max < digitsOf radix digits then none
  else some (digitsOf radix digits, cs.dropWhile (isDigit radix))

/-! ## Equations -/

@[simp] theorem pure_apply (a : α) (cs : List Char) : (pure a : Reader α) cs = some (a, cs) := rfl

theorem bind_apply (r : Reader α) (f : α → Reader β) (cs : List Char) :
    (r >>= f) cs = (r cs).bind (fun found => f found.1 found.2) := rfl

theorem bind_of_none {r : Reader α} {cs : List Char} (h : r cs = none) (f : α → Reader β) :
    (r >>= f) cs = none := by
  rw [bind_apply, h]
  rfl

theorem bind_of_some {r : Reader α} {cs rest : List Char} {a : α} (h : r cs = some (a, rest))
    (f : α → Reader β) : (r >>= f) cs = f a rest := by
  rw [bind_apply, h]
  rfl

theorem char_cons (c d : Char) (cs : List Char) :
    char c (d :: cs) = if d = c then some ((), cs) else none := rfl

/-! ## Locality -/

/-- A reader that never takes the character. -/
structure Local (c : Char) (r : Reader α) : Prop where
  blind : ∀ before after, r (before ++ c :: after)
    = (r before).map (fun found => (found.1, found.2 ++ c :: after))
  shrinks : ∀ {cs rest : List Char} {a : α}, r cs = some (a, rest) → rest ⊆ cs

namespace Local

variable {c : Char}

theorem pure (a : α) : Local c (Pure.pure a : Reader α) where
  blind _ _ := rfl
  shrinks h := by
    cases h
    exact List.Subset.refl _

theorem fail : Local c (Reader.fail : Reader α) where
  blind _ _ := rfl
  shrinks h := by cases h

theorem bind {r : Reader α} {f : α → Reader β} (hr : Local c r) (hf : ∀ a, Local c (f a)) :
    Local c (r >>= f) where
  blind before after := by
    rw [bind_apply, bind_apply, hr.blind]
    cases r before with
    | none => rfl
    | some found => exact (hf found.1).blind found.2 after
  shrinks {cs rest b} h := by
    obtain ⟨⟨a, left⟩, hleft, h⟩ := Option.bind_eq_some_iff.mp h
    exact List.Subset.trans ((hf a).shrinks h) (hr.shrinks hleft)

theorem char {d : Char} (h : d ≠ c) : Local c (Reader.char d) where
  blind before after := by
    cases before with
    | nil =>
        rw [List.nil_append, char_cons, if_neg (Ne.symm h)]
        rfl
    | cons e before =>
        rw [List.cons_append, char_cons, char_cons]
        split <;> rfl
  shrinks {cs rest a} h := by
    cases cs with
    | nil => cases h
    | cons e cs =>
        rw [char_cons] at h
        split at h
        · cases h
          exact List.subset_cons_self _ _
        · cases h

theorem attempt {r : Reader α} (hr : Local c r) : Local c (Reader.attempt r) where
  blind before after := by
    rw [Reader.attempt, Reader.attempt, hr.blind]
    cases r before <;> rfl
  shrinks {cs rest found} h := by
    rw [Reader.attempt] at h
    cases hr' : r cs with
    | none =>
        rw [hr'] at h
        cases h
        exact List.Subset.refl _
    | some left =>
        rw [hr'] at h
        cases h
        exact hr.shrinks hr'

theorem readNumber {radix : Nat} (hc : isDigit radix c = false) (maxDigits : Option Nat)
    (allowZeroPrefix : Bool) (max : Nat) :
    Local c (Reader.readNumber radix maxDigits allowZeroPrefix max) where
  blind before after := by
    have hspan : (before ++ c :: after).takeWhile (isDigit radix)
          = before.takeWhile (isDigit radix)
        ∧ (before ++ c :: after).dropWhile (isDigit radix)
          = before.dropWhile (isDigit radix) ++ c :: after := by
      induction before with
      | nil => simp [hc]
      | cons d before ih =>
          rw [List.cons_append, List.takeWhile_cons, List.dropWhile_cons, List.takeWhile_cons,
            List.dropWhile_cons]
          split
          · exact ⟨by rw [ih.1], ih.2⟩
          · exact ⟨rfl, rfl⟩
    rw [Reader.readNumber, Reader.readNumber]
    simp only [hspan.1, hspan.2]
    split <;> rfl
  shrinks {cs rest n} h := by
    rw [Reader.readNumber] at h
    split at h
    · cases h
    · cases h
      exact (List.dropWhile_suffix _).subset

end Local

/-- Where the character is not there, a reader that ends with it fails. -/
theorem closed_of_not_mem {c : Char} {r : Reader α} (hr : Local c r) {cs : List Char}
    (hc : c ∉ cs) : (do let a ← r; char c; return a : Reader α) cs = none := by
  cases hread : r cs with
  | none => exact bind_of_none hread _
  | some found =>
      obtain ⟨a, left⟩ := found
      rw [bind_of_some hread]
      have hleft : c ∉ left := fun hmem => hc (hr.shrinks hread hmem)
      cases left with
      | nil => rfl
      | cons d left =>
          have hne : d ≠ c := fun heq => hleft (heq ▸ List.mem_cons_self)
          rw [bind_apply, char_cons, if_neg hne]
          rfl

/-- A reader that ends with a character reads the same before anything without it. -/
theorem closed_append {c : Char} {r : Reader α} (hr : Local c r) {tail : List Char}
    (htail : c ∉ tail) (cs : List Char) :
    (do let a ← r; char c; return a) (cs ++ tail)
      = ((do let a ← r; char c; return a : Reader α) cs).map
          (fun found => (found.1, found.2 ++ tail)) := by
  by_cases hc : c ∈ cs
  · obtain ⟨before, after, rfl, -⟩ := List.eq_append_cons_of_mem hc
    rw [List.append_assoc, List.cons_append, bind_apply, bind_apply, hr.blind, hr.blind]
    cases r before with
    | none => rfl
    | some found =>
        -- the end is there for both, whatever is left before it
        obtain ⟨a, left⟩ := found
        show (char c >>= fun _ => Pure.pure a : Reader α) (left ++ c :: (after ++ tail))
          = ((char c >>= fun _ => Pure.pure a : Reader α) (left ++ c :: after)).map
              (fun found => (found.1, found.2 ++ tail))
        cases left with
        | nil =>
            rw [List.nil_append, List.nil_append, bind_apply, bind_apply, char_cons, char_cons,
              if_pos rfl, if_pos rfl]
            rfl
        | cons d left =>
            rw [List.cons_append, List.cons_append, bind_apply, bind_apply, char_cons, char_cons]
            split
            · show some (a, left ++ c :: (after ++ tail)) = some (a, left ++ c :: after ++ tail)
              rw [List.append_assoc, List.cons_append]
            · rfl
  · have hboth : c ∉ cs ++ tail := by
      rw [List.mem_append, not_or]
      exact ⟨hc, htail⟩
    rw [closed_of_not_mem hr hboth, closed_of_not_mem hr hc]
    rfl

end Reader
end Lib
