/-
# `SystemdMonitoring.Lib.Arrange` — what a stable sort arranges

A comparison may find two elements equal without their being one.  A stable
sort leaves such ties in the order it finds them in, so what holds of every tie
of the input, earlier to later, holds of every tie of the output
(`pairwise_mergeSort_ties`).  A list that is sorted by one comparison and then
by a finer one keeps the order among the ties that are left (`pairwise_resort`).
-/
import Mathlib.Data.List.Sigma
import Mathlib.Data.List.Sort
import Mathlib.Order.Compare

namespace Lib

variable {α : Type*}

/-! ## Comparisons -/

/-- A comparison that a sort can go by: transitive, and total. -/
structure Comparison (le : α → α → Bool) : Prop where
  trans : ∀ a b c, le a b = true → le b c = true → le a c = true
  total : ∀ a b, (le a b || le b a) = true

namespace Comparison

/-- Comparing the keys in a linear order. -/
theorem ofKey {β : Type*} [LinearOrder β] (key : α → β) :
    Comparison (fun a b => decide (key a ≤ key b)) where
  trans a b c hab hbc :=
    decide_eq_true (le_trans (of_decide_eq_true hab) (of_decide_eq_true hbc))
  total a b := by
    rw [Bool.or_eq_true, decide_eq_true_eq, decide_eq_true_eq]
    exact le_total (key a) (key b)

/-- A comparator of three outcomes, read as "not greater". -/
theorem ofCmp (cmp : α → α → Ordering) [Std.TransCmp cmp] :
    Comparison (fun a b => (cmp a b).isLE) where
  trans a b c hab hbc := Std.TransCmp.isLE_trans hab hbc
  total a b := by
    rw [Bool.or_eq_true, (Std.OrientedCmp.eq_swap : cmp b a = (cmp a b).swap)]
    cases cmp a b <;> simp

end Comparison

section Comparators

variable {β : Type*} (cmp : α → α → Ordering) [Std.TransCmp cmp]

/-- Comparing what elements are mapped to. -/
theorem transCmp_on (f : β → α) : Std.TransCmp (fun a b => cmp (f a) (f b)) where
  eq_swap := Std.OrientedCmp.eq_swap
  isLE_trans := Std.TransCmp.isLE_trans

/-- A comparator turned around. -/
theorem transCmp_swap : Std.TransCmp (fun a b => (cmp a b).swap) := by
  have hswap : (fun a b => (cmp a b).swap) = fun a b => cmp b a :=
    funext fun a => funext fun b => (Std.OrientedCmp.eq_swap : cmp b a = (cmp a b).swap).symm
  rw [hswap]
  infer_instance

/-- The three outcomes of a comparator come from one total preorder. -/
structure TotalPreorder (cmp : α → α → Ordering) : Prop where
  refl : ∀ a, cmp a a = .eq
  swap : ∀ a b, cmp b a = (cmp a b).swap
  trans : ∀ a b c, cmp a b ≠ .gt → cmp b c ≠ .gt → cmp a c ≠ .gt
  lt_trans : ∀ a b c, cmp a b = .lt → cmp b c = .lt → cmp a c = .lt
  eq_trans : ∀ a b c, cmp a b = .eq → cmp b c = .eq → cmp a c = .eq

theorem totalPreorder_of_transCmp : TotalPreorder cmp where
  refl _ := Std.ReflCmp.compare_self
  swap _ _ := Std.OrientedCmp.eq_swap
  trans a b c hab hbc := by
    rw [ne_eq, ← Ordering.isLE_iff_ne_gt] at hab hbc ⊢
    exact Std.TransCmp.isLE_trans hab hbc
  lt_trans _ _ _ := Std.TransCmp.lt_trans
  eq_trans _ _ _ := Std.TransCmp.eq_trans

/-- Elements that do not exceed one another are tied. -/
theorem eq_of_isLE_of_isLE {a b : α} (h : (cmp a b).isLE = true) (h' : (cmp b a).isLE = true) :
    cmp a b = .eq := by
  rw [(Std.OrientedCmp.eq_swap : cmp b a = (cmp a b).swap)] at h'
  cases hab : cmp a b <;> simp_all

end Comparators

/-! ## Stability -/

/-- `a` belongs before `b`: it is not greater, and where the two tie `Before` says so. -/
def Precedes (le : α → α → Bool) (Before : α → α → Prop) (a b : α) : Prop :=
  le a b = true ∧ (le b a = true → Before a b)

/-- **A stable sort keeps its ties in order.** -/
theorem pairwise_mergeSort_ties {le : α → α → Bool} (hle : Comparison le)
    {Before : α → α → Prop} {l : List α}
    (h : l.Pairwise (fun a b => le a b = true → le b a = true → Before a b)) :
    (l.mergeSort le).Pairwise (Precedes le Before) := by
  rw [← List.mergeSort_zipIdx, List.pairwise_map]
  -- the positions tell the ties apart
  have hsorted := List.pairwise_mergeSort (List.zipIdxLE_trans hle.trans)
    (List.zipIdxLE_total hle.total) l.zipIdx
  have hpositions : ((l.zipIdx.mergeSort (List.zipIdxLE le)).map Prod.snd).Nodup :=
    ((List.mergeSort_perm _ _).map Prod.snd).nodup_iff.mpr (List.nodup_zipIdx_map_snd l)
  refine (hsorted.and (List.pairwise_map.mp hpositions)).imp_of_mem ?_
  rintro ⟨a, i⟩ ⟨b, j⟩ ha hb ⟨hab, hij⟩
  obtain ⟨hle, htie⟩ : le a b = true ∧ (le b a = true → i ≤ j) := by
    simpa [List.zipIdxLE, imp_iff_not_or] using hab
  refine ⟨hle, fun hba => ?_⟩
  obtain ⟨hi, hai⟩ := List.mem_zipIdx' (List.mem_mergeSort.mp ha)
  obtain ⟨hj, hbj⟩ := List.mem_zipIdx' (List.mem_mergeSort.mp hb)
  rw [hai, hbj]
  refine List.pairwise_iff_getElem.mp h i j hi hj (lt_of_le_of_ne (htie hba) hij) ?_ ?_
  · rwa [← hai, ← hbj]
  · rwa [← hai, ← hbj]

/-- A comparison with fewer ties keeps the order of those it has. -/
theorem pairwise_resort {le le' : α → α → Bool} (hle' : Comparison le')
    (hties : ∀ a b, le' a b = true → le' b a = true → le b a = true)
    {Before : α → α → Prop} {l : List α} (h : l.Pairwise (Precedes le Before)) :
    (l.mergeSort le').Pairwise (Precedes le' Before) := by
  refine pairwise_mergeSort_ties hle' (h.imp ?_)
  intro a b hab hle hle''
  exact hab.2 (hties a b hle hle'')

theorem pair_sublist_or {l : List α} {a b : α} (ha : a ∈ l) (hb : b ∈ l) (hne : a ≠ b) :
    [a, b].Sublist l ∨ [b, a].Sublist l := by
  obtain ⟨before, after, rfl⟩ := List.append_of_mem ha
  rcases List.mem_append.mp hb with hbefore | hafter
  · exact .inr ((List.singleton_sublist.mpr hbefore).append
      (List.singleton_sublist.mpr List.mem_cons_self))
  · rcases List.mem_cons.mp hafter with heq | hafter
    · exact absurd heq.symm hne
    · refine .inl (List.Sublist.trans ?_ (List.sublist_append_right before (a :: after)))
      exact (List.singleton_sublist.mpr hafter).cons_cons a

/-- **The pairs that a stable sort arranges**: those it tells apart in their order, and the ties
in that of the input. -/
theorem pairwise_mergeSort_iff {le : α → α → Bool} (hle : Comparison le) {R : α → α → Prop}
    {l : List α} :
    (l.mergeSort le).Pairwise R ↔
      (∀ a ∈ l, ∀ b ∈ l, le b a = false → R a b)
      ∧ ∀ a b, [a, b].Sublist l → le a b = true → le b a = true → R a b := by
  constructor
  · intro h
    constructor
    · intro a ha b hb hab
      have hle' : le a b = true := by simpa [hab] using hle.total a b
      have hne : a ≠ b := by
        rintro rfl
        rw [hle'] at hab
        cases hab
      rcases pair_sublist_or (List.mem_mergeSort.mpr ha) (List.mem_mergeSort.mpr hb) hne
        with hsub | hsub
      · exact List.pairwise_iff_forall_sublist.mp h hsub
      · have hba := List.pairwise_iff_forall_sublist.mp
          (List.pairwise_mergeSort hle.trans hle.total l) hsub
        rw [hab] at hba
        cases hba
    · intro a b hsub hab _
      exact List.pairwise_iff_forall_sublist.mp h
        (List.pair_sublist_mergeSort hle.trans hle.total hab hsub)
  · rintro ⟨hlt, htie⟩
    have hinput : l.Pairwise (fun a b => le a b = true → le b a = true → R a b) :=
      List.pairwise_iff_forall_sublist.mpr fun hsub => htie _ _ hsub
    refine (pairwise_mergeSort_ties hle hinput).imp_of_mem ?_
    intro a b ha hb hab
    cases hba : le b a with
    | false => exact hlt a (List.mem_mergeSort.mp ha) b (List.mem_mergeSort.mp hb) hba
    | true => exact hab.2 hba

/-- **A stable sort leaves alone what is in order already**, wherever it stands between the rest. -/
theorem filter_mergeSort_of_pairwise {le : α → α → Bool} (hle : Comparison le) {p : α → Bool}
    {l : List α} (h : (l.filter p).Pairwise (fun a b => le a b = true)) :
    (l.mergeSort le).filter p = l.filter p := by
  have hsub : (l.filter p).Sublist ((l.mergeSort le).filter p) := by
    have h := (List.sublist_mergeSort hle.trans hle.total h List.filter_sublist).filter p
    simpa only [List.filter_filter, Bool.and_self] using h
  exact (hsub.eq_of_length ((List.mergeSort_perm l le).filter p).length_eq.symm).symm

/-- So it leaves each class of ties as it finds it. -/
theorem filter_mergeSort {le : α → α → Bool} (hle : Comparison le) {p : α → Bool}
    (hp : ∀ a b, p a = true → p b = true → le a b = true) (l : List α) :
    (l.mergeSort le).filter p = l.filter p := by
  refine filter_mergeSort_of_pairwise hle (List.pairwise_of_forall_mem_list ?_)
  intro a ha b hb
  exact hp a b (List.of_mem_filter ha) (List.of_mem_filter hb)

/-- The comparison the other way around, on elements without ties. -/
theorem mergeSort_flip {le le' : α → α → Bool} (hle : Comparison le) (hle' : Comparison le')
    (hflip : ∀ a b, le' a b = le b a) {l : List α}
    (htie : ∀ a ∈ l, ∀ b ∈ l, le a b = true → le b a = true → a = b) :
    l.mergeSort le' = (l.mergeSort le).reverse := by
  have hperm : (l.mergeSort le').Perm (l.mergeSort le).reverse :=
    (List.mergeSort_perm l le').trans
      ((List.reverse_perm _).trans (List.mergeSort_perm l le)).symm
  have hsorted : (l.mergeSort le).reverse.Pairwise (fun a b => le' a b = true) := by
    rw [List.pairwise_reverse]
    refine (List.pairwise_mergeSort hle.trans hle.total l).imp ?_
    intro a b hab
    rw [hflip, hab]
  refine hperm.eq_of_pairwise ?_ (List.pairwise_mergeSort hle'.trans hle'.total l) hsorted
  intro a b ha hb hab hba
  have hb' : b ∈ l := List.mem_mergeSort.mp (List.mem_reverse.mp hb)
  rw [hflip] at hab hba
  exact htie a (List.mem_mergeSort.mp ha) b hb' hba hab

/-- Where ties are told apart, there is one arrangement. -/
theorem eq_of_pairwise_precedes {le : α → α → Bool} {Before : α → α → Prop}
    (hasymm : ∀ a b, Before a b → ¬ Before b a) {l l' : List α} (hperm : l.Perm l')
    (h : l.Pairwise (Precedes le Before)) (h' : l'.Pairwise (Precedes le Before)) : l = l' := by
  refine hperm.eq_of_pairwise ?_ h h'
  intro a b _ _ hab hba
  exact absurd (hba.2 hab.1) (hasymm a b (hab.2 hba.1))

/-- A sort by a key leaves the keys in order. -/
theorem pairwise_mergeSort_key {β : Type*} [LinearOrder β] (key : α → β) (l : List α) :
    (l.mergeSort (fun a b => decide (key a ≤ key b))).Pairwise (fun a b => key a ≤ key b) := by
  have hle := Comparison.ofKey key
  exact (List.pairwise_mergeSort hle.trans hle.total l).imp of_decide_eq_true

/-- Distinct keys come out in strict order. -/
theorem pairwise_lt_mergeSort_key {β : Type*} [LinearOrder β] {key : α → β} {l : List α}
    (hnodup : (l.map key).Nodup) :
    (l.mergeSort (fun a b => decide (key a ≤ key b))).Pairwise (fun a b => key a < key b) := by
  have hkeys : ((l.mergeSort (fun a b => decide (key a ≤ key b))).map key).Nodup :=
    ((List.mergeSort_perm l _).map key).nodup_iff.mpr hnodup
  refine ((pairwise_mergeSort_key key l).and (List.pairwise_map.mp hkeys)).imp ?_
  rintro a b ⟨hle, hne⟩
  exact lt_of_le_of_ne hle hne

/-- Strictly ordered by a key, a list is known by its members. -/
theorem eq_of_pairwise_lt {β : Type*} [Preorder β] {key : α → β} {l l' : List α}
    (h : l.Pairwise (fun a b => key a < key b)) (h' : l'.Pairwise (fun a b => key a < key b))
    (hmem : ∀ a, a ∈ l ↔ a ∈ l') : l = l' := by
  have hnodup : ∀ {l : List α}, l.Pairwise (fun a b => key a < key b) → l.Nodup := by
    intro l hl
    refine hl.imp ?_
    rintro a b hlt rfl
    exact lt_irrefl _ hlt
  refine ((List.perm_ext_iff_of_nodup (hnodup h) (hnodup h')).mpr hmem).eq_of_pairwise ?_ h h'
  intro a b _ _ hab hba
  exact absurd hba hab.asymm

end Lib
