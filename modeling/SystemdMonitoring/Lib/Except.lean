/-
# `SystemdMonitoring.Lib.Except` — inversion of failing computations

A computation that has a result had one at each of its steps; one that failed
failed at its first step or behind it.  These are the rules by which a
validation in `do` notation is taken apart.
-/
import Mathlib.Init

namespace Lib

universe u v

variable {ε : Type u} {α β : Type v}

theorem bind_eq_ok {x : Except ε α} {f : α → Except ε β} {b : β} :
    (x >>= f) = .ok b ↔ ∃ a, x = .ok a ∧ f a = .ok b := by
  cases x with
  | error e =>
      constructor
      · intro h
        cases h
      · rintro ⟨_, h, _⟩
        cases h
  | ok a =>
      constructor
      · intro h
        exact ⟨a, rfl, h⟩
      · rintro ⟨_, h, hf⟩
        cases h
        exact hf

theorem bind_eq_error {x : Except ε α} {f : α → Except ε β} {e : ε} :
    (x >>= f) = .error e ↔ x = .error e ∨ ∃ a, x = .ok a ∧ f a = .error e := by
  cases x with
  | error e' =>
      constructor
      · intro h
        cases h
        exact .inl rfl
      · rintro (h | ⟨_, h, _⟩)
        · cases h
          rfl
        · cases h
  | ok a =>
      constructor
      · intro h
        exact .inr ⟨a, rfl, h⟩
      · rintro (h | ⟨_, h, hf⟩)
        · cases h
        · cases h
          exact hf

theorem mapError_eq_ok_iff {ε' : Type} {x : Except ε α} {f : ε → ε'} {a : α} :
    x.mapError f = .ok a ↔ x = .ok a := by
  cases x with
  | error e =>
      constructor <;> intro h <;> cases h
  | ok b =>
      constructor <;> intro h <;> cases h <;> rfl

/-- A list that is checked element by element, each for the same property. -/
theorem mapM_eq_ok_iff {f : α → Except ε β} {P : α → Prop} {g : α → β}
    (hf : ∀ a b, f a = .ok b ↔ P a ∧ b = g a) {l : List α} {bs : List β} :
    l.mapM f = .ok bs ↔ (∀ a ∈ l, P a) ∧ bs = l.map g := by
  induction l generalizing bs with
  | nil =>
      rw [List.mapM_nil]
      constructor
      · intro h
        cases h
        exact ⟨fun _ hmem => (nomatch hmem), rfl⟩
      · rintro ⟨-, rfl⟩
        rfl
  | cons a l ih =>
      rw [List.mapM_cons, bind_eq_ok, List.forall_mem_cons, List.map_cons]
      constructor
      · rintro ⟨b, hb, h⟩
        obtain ⟨ha, rfl⟩ := (hf a b).mp hb
        obtain ⟨rest, hrest, h⟩ := bind_eq_ok.mp h
        obtain ⟨hl, rfl⟩ := ih.mp hrest
        cases h
        exact ⟨⟨ha, hl⟩, rfl⟩
      · rintro ⟨⟨ha, hl⟩, rfl⟩
        refine ⟨g a, (hf a _).mpr ⟨ha, rfl⟩, ?_⟩
        rw [ih.mpr ⟨hl, rfl⟩]
        rfl

@[simp] theorem ok_bind (a : α) (f : α → Except ε β) : (Except.ok a >>= f) = f a := rfl

end Lib
