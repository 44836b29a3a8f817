/-
# `SystemdMonitoring.Lib.Related` — lists that are related row by row

`List.Forall₂ R` says that two lists have the same length and are related at every
place; what is done to both of them alike keeps it.  Here it is membership, and
sorting by a key that related rows have in common; and of lists that are in strict
order, that a part of one is found in order in the other.
-/
import Mathlib.Data.List.Forall2
import SystemdMonitoring.Lib.Arrange

namespace Lib

variable {α β : Type}

theorem forall₂_mem_left {R : α → β → Prop} {l : List α} {l' : List β}
    (h : List.Forall₂ R l l') {a : α} (ha : a ∈ l) : ∃ b ∈ l', R a b := by
  induction h with
  | nil => cases ha
  | cons hab _ ih =>
      rcases List.mem_cons.mp ha with rfl | ha
      · exact ⟨_, List.mem_cons_self, hab⟩
      · obtain ⟨b, hb, hR⟩ := ih ha
        exact ⟨b, List.mem_cons_of_mem _ hb, hR⟩

theorem forall₂_mem_right {R : α → β → Prop} {l : List α} {l' : List β}
    (h : List.Forall₂ R l l') {b : β} (hb : b ∈ l') : ∃ a ∈ l, R a b :=
  forall₂_mem_left h.flip hb

/-- Related rows with the same keys are still related when both are sorted by them. -/
theorem forall₂_mergeSort {κ : Type} [LE κ] [DecidableLE κ] {R : α → α → Prop} {key : α → κ}
    (hkey : ∀ a b, R a b → key a = key b) {l l' : List α} (h : List.Forall₂ R l l') :
    List.Forall₂ R (l.mergeSort (fun a b => key a ≤ key b))
      (l'.mergeSort (fun a b => key a ≤ key b)) := by
  -- sort the pairs, by the key that both of them have
  obtain ⟨hlength, hpairs⟩ := List.forall₂_iff_zip.mp h
  have hfst := List.map_mergeSort (r := fun x y : α × α => decide (key x.1 ≤ key y.1))
    (s := fun a b => decide (key a ≤ key b)) (f := Prod.fst) (l := l.zip l')
    (fun _ _ _ _ => rfl)
  have hsnd := List.map_mergeSort (r := fun x y : α × α => decide (key x.1 ≤ key y.1))
    (s := fun a b => decide (key a ≤ key b)) (f := Prod.snd) (l := l.zip l') (by
      rintro ⟨a, a'⟩ ha ⟨b, b'⟩ hb
      dsimp only
      rw [hkey a a' (hpairs ha), hkey b b' (hpairs hb)])
  rw [List.map_fst_zip (Nat.le_of_eq hlength)] at hfst
  rw [List.map_snd_zip (Nat.le_of_eq hlength.symm)] at hsnd
  rw [← hfst, ← hsnd, List.forall₂_map_left_iff, List.forall₂_map_right_iff, List.forall₂_same]
  rintro ⟨a, a'⟩ ha
  exact hpairs (List.mem_mergeSort.mp ha)

/-- Of two lists in strict order the one with fewer members is a part of the other. -/
theorem sublist_of_pairwise_lt {κ : Type} [Preorder κ] {key : α → κ} {l l' : List α}
    (h : l.Pairwise (fun a b => key a < key b)) (h' : l'.Pairwise (fun a b => key a < key b))
    (hsub : l ⊆ l') : l.Sublist l' := by
  have hnodup : l.Nodup := by
    refine h.imp ?_
    rintro a b hlt rfl
    exact lt_irrefl _ hlt
  obtain ⟨found, hperm, hfound⟩ := List.subperm_of_subset hnodup hsub
  have heq : found = l := by
    refine hperm.eq_of_pairwise ?_ (h'.sublist hfound) h
    intro a b _ _ hab hba
    exact absurd hba hab.asymm
  exact heq ▸ hfound

end Lib
