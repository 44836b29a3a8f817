/-
# `SystemdMonitoring.Lib.Counting` — counts, and the greatest of them

The histogram of a list has every element once, with how often it occurs
(`mem_histogram`).  A list of counts that says the same is a rearrangement of it
(`perm_histogram`), whatever map it was collected in.

Counts are ranked by number, the greater first, and by element where these tie.
That is a linear order on counts, so ranking forgets the arrangement
(`ranked_congr`), and the front of a ranking is the greatest of all
(`topCounts_take_ranked`).
-/
import Mathlib.Algebra.BigOperators.Group.List.Lemmas
import Mathlib.Algebra.Ring.Nat
import Mathlib.Data.List.Dedup
import Mathlib.Data.Prod.Lex
import SystemdMonitoring.Lib.Arrange

namespace Lib

/-! ## Fronts -/

section Leading

variable {α : Type*}

/-- The first `k` of the elements of a list, in an order, or all where there are no more. -/
def Leading (Before : α → α → Prop) (k : Nat) (l top : List α) : Prop :=
  ∃ rest, (top ++ rest).Perm l ∧ (top ++ rest).Pairwise Before ∧ top.length = min k l.length

theorem leading_take {Before : α → α → Prop} {l arranged : List α} (hperm : arranged.Perm l)
    (h : arranged.Pairwise Before) (k : Nat) : Leading Before k l (arranged.take k) := by
  refine ⟨arranged.drop k, ?_, ?_, ?_⟩
  · rwa [List.take_append_drop]
  · rwa [List.take_append_drop]
  · rw [List.length_take, hperm.length_eq]

theorem Leading.mem {Before : α → α → Prop} {k : Nat} {l top : List α}
    (h : Leading Before k l top) {a : α} (ha : a ∈ top) : a ∈ l := by
  obtain ⟨rest, hperm, -, -⟩ := h
  exact hperm.mem_iff.mp (List.mem_append_left rest ha)

/-- What is left out comes behind all that is not. -/
theorem Leading.before {Before : α → α → Prop} {k : Nat} {l top : List α}
    (h : Leading Before k l top) {a b : α} (ha : a ∈ top) (hb : b ∈ l) (hout : b ∉ top) :
    Before a b := by
  obtain ⟨rest, hperm, hsorted, -⟩ := h
  rcases List.mem_append.mp (hperm.mem_iff.mpr hb) with htop | hrest
  · exact absurd htop hout
  · exact (List.pairwise_append.mp hsorted).2.2 a ha b hrest

end Leading

/-! ## Histograms -/

variable {α : Type*}

section Histogram

variable [DecidableEq α]

/-- Every element once, and how often it occurs. -/
def histogram (names : List α) : List (α × Nat) := names.dedup.map (fun a => (a, names.count a))

theorem mem_histogram {names : List α} {entry : α × Nat} :
    entry ∈ histogram names ↔ entry.1 ∈ names ∧ entry.2 = names.count entry.1 := by
  rw [histogram, List.mem_map]
  constructor
  · rintro ⟨a, ha, rfl⟩
    exact ⟨List.mem_dedup.mp ha, rfl⟩
  · rintro ⟨ha, hcount⟩
    exact ⟨entry.1, List.mem_dedup.mpr ha, Prod.ext rfl hcount.symm⟩

theorem map_fst_histogram (names : List α) : (histogram names).map Prod.fst = names.dedup := by
  rw [histogram, List.map_map]
  exact List.map_id _

theorem nodup_histogram (names : List α) : (histogram names).Nodup := by
  refine List.Nodup.of_map Prod.fst ?_
  rw [map_fst_histogram]
  exact names.nodup_dedup

/-- Counts of distinct elements, each exact and none missing, are the histogram. -/
theorem perm_histogram {names : List α} {counts : List (α × Nat)} (hnodup : counts.Nodup)
    (hmem : ∀ entry, entry ∈ counts ↔ entry.1 ∈ names ∧ entry.2 = names.count entry.1) :
    counts.Perm (histogram names) :=
  (List.perm_ext_iff_of_nodup hnodup (nodup_histogram names)).mpr
    fun entry => (hmem entry).trans mem_histogram.symm

/-- The counts of the elements with a property add up to their number. -/
theorem sum_filter_histogram (p : α → Bool) (names : List α) :
    (((histogram names).filter (fun entry => p entry.1)).map Prod.snd).sum = names.countP p := by
  rw [histogram, List.filter_map, List.map_map]
  exact List.sum_map_count_dedup_filter_eq_countP p names

theorem sum_histogram (names : List α) : ((histogram names).map Prod.snd).sum = names.length := by
  rw [histogram, List.map_map]
  exact List.sum_map_count_dedup_eq_length names

end Histogram

/-! ## Rankings -/

section Ranking

variable [LinearOrder α]

/-- The greater number first, then the smaller element. -/
def rank (entry : α × Nat) : ℕᵒᵈ ×ₗ α := toLex (OrderDual.toDual entry.2, entry.1)

/-- `a` has the greater number, or the same and the smaller element. -/
def Outranks (a b : α × Nat) : Prop := b.2 < a.2 ∨ (b.2 = a.2 ∧ a.1 < b.1)

theorem rank_lt_iff {a b : α × Nat} : rank a < rank b ↔ Outranks a b := by
  rw [rank, rank, Prod.Lex.toLex_lt_toLex, Outranks, OrderDual.toDual_lt_toDual,
    OrderDual.toDual_inj, @eq_comm _ a.2]

omit [LinearOrder α] in
theorem rank_injective : Function.Injective (rank : α × Nat → ℕᵒᵈ ×ₗ α) := by
  rintro ⟨a, m⟩ ⟨b, n⟩ h
  have hpair := congrArg ofLex h
  simp only [rank, ofLex_toLex, Prod.mk.injEq, OrderDual.toDual_inj] at hpair
  rw [hpair.1, hpair.2]

/-- The counts by rank. -/
def ranked (counts : List (α × Nat)) : List (α × Nat) :=
  counts.mergeSort (fun a b => decide (rank a ≤ rank b))

theorem ranked_perm (counts : List (α × Nat)) : (ranked counts).Perm counts :=
  List.mergeSort_perm _ _

theorem pairwise_ranked {counts : List (α × Nat)} (hnodup : counts.Nodup) :
    (ranked counts).Pairwise Outranks :=
  (pairwise_lt_mergeSort_key (hnodup.map rank_injective)).imp rank_lt_iff.mp

/-- **Ranking forgets the arrangement.** -/
theorem ranked_congr {counts counts' : List (α × Nat)} (h : counts.Perm counts') :
    ranked counts = ranked counts' := by
  have hperm : (ranked counts).Perm (ranked counts') :=
    (ranked_perm counts).trans (h.trans (ranked_perm counts').symm)
  refine hperm.eq_of_pairwise ?_ (pairwise_mergeSort_key rank counts)
    (pairwise_mergeSort_key rank counts')
  intro a b _ _ hab hba
  exact rank_injective (le_antisymm hab hba)

/-- The `k` elements that occur most often, or all where there are no more, with exact numbers:
what is left out occurs less often, or as often and is greater. -/
structure TopCounts (k : Nat) (names : List α) (top : List (α × Nat)) : Prop where
  distinct : (top.map Prod.fst).Nodup
  exact : ∀ entry ∈ top, entry.1 ∈ names ∧ entry.2 = names.count entry.1
  length : top.length = min k names.dedup.length
  omitted : ∀ name ∈ names, name ∉ top.map Prod.fst →
    ∀ entry ∈ top, Outranks entry (name, names.count name)

theorem TopCounts.perm {k : Nat} {names : List α} {top top' : List (α × Nat)}
    (h : TopCounts k names top) (hperm : top'.Perm top) : TopCounts k names top' where
  distinct := (hperm.map Prod.fst).nodup_iff.mpr h.distinct
  exact entry hentry := h.exact entry (hperm.mem_iff.mp hentry)
  length := hperm.length_eq.trans h.length
  omitted name hname hout entry hentry :=
    h.omitted name hname (fun hmem => hout ((hperm.map Prod.fst).mem_iff.mpr hmem)) entry
      (hperm.mem_iff.mp hentry)

/-- **The front of a ranking is the greatest of all counts.** -/
theorem topCounts_take_ranked {names : List α} {counts : List (α × Nat)}
    (hcounts : counts.Perm (histogram names)) (k : Nat) :
    TopCounts k names ((ranked counts).take k) := by
  have hsorted := pairwise_ranked (hcounts.nodup_iff.mpr (nodup_histogram names))
  have hleading := leading_take ((ranked_perm counts).trans hcounts) hsorted k
  have hkeys : ((ranked counts).map Prod.fst).Nodup := by
    refine (((ranked_perm counts).trans hcounts).map Prod.fst).nodup_iff.mpr ?_
    rw [map_fst_histogram]
    exact names.nodup_dedup
  refine ⟨?_, ?_, ?_, ?_⟩
  · exact hkeys.sublist ((List.take_sublist k _).map Prod.fst)
  · intro entry hentry
    exact mem_histogram.mp (hleading.mem hentry)
  · obtain ⟨-, -, -, hlength⟩ := hleading
    rw [hlength, histogram, List.length_map]
  · intro name hname hout entry hentry
    refine hleading.before hentry (mem_histogram.mpr ⟨hname, rfl⟩) ?_
    intro hmem
    exact hout (List.mem_map_of_mem (f := Prod.fst) hmem)

end Ranking

end Lib
