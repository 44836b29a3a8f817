/-
# `SystemdMonitoring.Lib.Strip` — lists without their margins

`strip p` takes away what satisfies `p` at both ends of a list and nothing else
(`exists_strip`).  Two margins are one: a list that has lost a margin already
has the same core as before (`strip_strip`), and what a map does to the core is
the core of what it does to the list (`strip_map`).  With these a chain of
strips and maps is a single strip under a single map.
-/
import Mathlib.Data.List.DropRight
import Mathlib.Data.List.TakeWhile

namespace Lib

variable {α β : Type*}

/-- The list between its margins, where `p` holds. -/
def strip (p : α → Bool) (l : List α) : List α := (l.dropWhile p).rdropWhile p

/-- A list with no margin: neither end satisfies `p`. -/
def NoMargin (p : α → Bool) (l : List α) : Prop :=
  (∀ a, l.head? = some a → p a = false) ∧ ∀ a, l.getLast? = some a → p a = false

variable {p q : α → Bool}

/-! ## Margins -/

theorem strip_append_left {before : List α} (h : ∀ a ∈ before, p a = true) (l : List α) :
    strip p (before ++ l) = strip p l := by
  rw [strip, List.dropWhile_append_of_pos h, strip]

theorem rdropWhile_append_of_pos (l : List α) {after : List α} (h : ∀ a ∈ after, p a = true) :
    (l ++ after).rdropWhile p = l.rdropWhile p := by
  have hrev : ∀ a ∈ after.reverse, p a = true := fun a ha => h a (List.mem_reverse.mp ha)
  rw [List.rdropWhile, List.reverse_append, List.dropWhile_append_of_pos hrev, List.rdropWhile]

theorem strip_append_right (l : List α) {after : List α} (h : ∀ a ∈ after, p a = true) :
    strip p (l ++ after) = strip p l := by
  rw [strip, strip, List.dropWhile_append]
  by_cases hnil : (l.dropWhile p).isEmpty = true
  · rw [if_pos hnil, List.isEmpty_iff.mp hnil, List.dropWhile_eq_nil_iff.mpr h]
  · rw [if_neg hnil, rdropWhile_append_of_pos _ h]

/-- A list is its core between two margins. -/
theorem exists_strip (p : α → Bool) (l : List α) :
    ∃ before after, l = before ++ strip p l ++ after
      ∧ (∀ a ∈ before, p a = true) ∧ ∀ a ∈ after, p a = true := by
  refine ⟨l.takeWhile p, (l.dropWhile p).rtakeWhile p, ?_, ?_, ?_⟩
  · rw [strip, List.append_assoc, List.rdropWhile_append_rtakeWhile,
      List.takeWhile_append_dropWhile]
  · intro a ha
    exact List.mem_takeWhile_imp ha
  · intro a ha
    exact List.mem_rtakeWhile_imp ha

theorem strip_eq_nil_iff {l : List α} : strip p l = [] ↔ ∀ a ∈ l, p a = true := by
  constructor
  · intro hnil
    obtain ⟨before, after, heq, hbefore, hafter⟩ := exists_strip p l
    rw [hnil, List.append_nil] at heq
    intro a ha
    rw [heq] at ha
    exact (List.mem_append.mp ha).elim (hbefore a) (hafter a)
  · intro hall
    rw [strip, List.dropWhile_eq_nil_iff.mpr hall, List.rdropWhile_nil]

/-! ## Cores -/

/-- A core is what it was when a narrower margin has gone before. -/
theorem strip_strip (h : ∀ a, p a = true → q a = true) (l : List α) :
    strip q (strip p l) = strip q l := by
  obtain ⟨before, after, heq, hbefore, hafter⟩ := exists_strip p l
  calc strip q (strip p l)
      = strip q (before ++ (strip p l ++ after)) := by
        rw [strip_append_left fun a ha => h a (hbefore a ha),
          strip_append_right _ fun a ha => h a (hafter a ha)]
    _ = strip q l := by rw [← List.append_assoc, ← heq]

theorem strip_map (p : β → Bool) (f : α → β) (l : List α) :
    strip p (l.map f) = (strip (p ∘ f) l).map f := by
  rw [strip, strip, List.dropWhile_map, List.rdropWhile, List.rdropWhile, ← List.map_reverse,
    List.dropWhile_map, ← List.map_reverse]

theorem noMargin_strip (p : α → Bool) (l : List α) : NoMargin p (strip p l) := by
  constructor
  · intro a ha
    have hfirst : (strip p l).head? = (strip p l ++ (l.dropWhile p).rtakeWhile p).head? := by
      rw [List.head?_append, ha]
      rfl
    rw [hfirst, strip, List.rdropWhile_append_rtakeWhile] at ha
    have hnot := List.head?_dropWhile_not p l
    rw [ha] at hnot
    exact hnot
  · intro a ha
    have hne : strip p l ≠ [] := by
      intro hnil
      rw [hnil] at ha
      cases ha
    rw [List.getLast?_eq_some_getLast hne] at ha
    cases ha
    exact eq_false_of_ne_true (List.rdropWhile_last_not p _ hne)

theorem strip_eq_self_iff {l : List α} : strip p l = l ↔ NoMargin p l := by
  constructor
  · intro h
    rw [← h]
    exact noMargin_strip p l
  · rintro ⟨hfirst, hlast⟩
    have hdrop : l.dropWhile p = l := by
      cases l with
      | nil => rfl
      | cons a l =>
          rw [List.dropWhile_cons_of_neg (Bool.not_eq_true _ ▸ hfirst a rfl)]
    rw [strip, hdrop, List.rdropWhile_eq_self_iff]
    intro hne
    exact Bool.not_eq_true _ ▸ hlast _ (List.getLast?_eq_some_getLast hne)

end Lib
