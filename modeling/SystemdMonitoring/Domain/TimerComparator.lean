/-
# `SystemdMonitoring.Domain.TimerComparator` — what the sort options of timers say

`sort_timer_items` compares by one of four keys and then by unit name, and `desc`
turns the outcome around except for `next` and `last`, which turn around their
known keys only.  For every option string, known or not, that is one total
preorder.  So the sort may rely on it, and its result is read off the comparator:
unknown keys last and names ascending for the two special keys (`SortedAs`), and
for the others one list and its reverse (`sortTimerItems_desc`).
-/
import SystemdMonitoring.Domain.TimerOrder

namespace SystemdMonitoring

open Lib Lib.Text

/-- The key of `next` and of `last`, which may be unknown; the other options have none such. -/
def optionalTimerKey (sort : String) : Option (TimerItem → Option Int) :=
  if sort = "next" then some TimerItem.timeUntilNextSec
  else if sort = "last" then some TimerItem.timeSinceLastSec
  else none

/-- The rows of a result belong there in that order. -/
structure SortedAs (sort order : String) (items sorted : List TimerItem) : Prop where
  perm : sorted.Perm items
  ordered : sorted.Pairwise (fun left right => compareTimerItems sort order left right ≠ .gt)
  stable : ∀ item, sorted.filter (fun other => compareTimerItems sort order item other = .eq)
    = items.filter (fun other => compareTimerItems sort order item other = .eq)
  unknown_last : ∀ key, optionalTimerKey sort = some key →
    sorted.Pairwise (KnownFirst key)
  known_in_order : ∀ key, optionalTimerKey sort = some key →
    sorted.Pairwise (KnownPair key (fun x y =>
      if eqIgnoreAsciiCase order "desc" then y ≤ x else x ≤ y))
  equal_by_unit : ∀ key, optionalTimerKey sort = some key →
    sorted.Pairwise (fun left right => key left = key right → left.unit ≤ right.unit)

/-! ## The comparator -/

theorem compareTimerItems_of_key {sort : String} {key : TimerItem → Option Int}
    (hkey : optionalTimerKey sort = some key) (order : String) (left right : TimerItem) :
    compareTimerItems sort order left right =
      (compareOptionalI64NoneLast (key left) (key right)
        (eqIgnoreAsciiCase order "desc")).then (compare left.unit right.unit) := by
  rw [optionalTimerKey] at hkey
  by_cases hnext : sort = "next"
  · rw [if_pos hnext] at hkey
    cases hkey
    rw [hnext, compareTimerItems_next]
  · rw [if_neg hnext] at hkey
    by_cases hlast : sort = "last"
    · rw [if_pos hlast] at hkey
      cases hkey
      rw [hlast, compareTimerItems_last]
    · rw [if_neg hlast] at hkey
      cases hkey

/-- Without an optional key the outcome is turned around as a whole. -/
theorem compareTimerItems_desc {sort asc desc : String} (hkey : optionalTimerKey sort = none)
    (hasc : eqIgnoreAsciiCase asc "desc" = false) (hdesc : eqIgnoreAsciiCase desc "desc" = true)
    (left right : TimerItem) :
    compareTimerItems sort desc left right = (compareTimerItems sort asc left right).swap := by
  have hnext : sort ≠ "next" := by
    rintro rfl
    cases hkey
  have hlast : sort ≠ "last" := by
    rintro rfl
    cases hkey
  have hkeys : compareTimerKeys sort desc left right = compareTimerKeys sort asc left right := by
    simp only [compareTimerKeys, if_neg hnext, if_neg hlast]
  rw [compareTimerItems_eq, compareTimerItems_eq, hkeys, hasc, hdesc]
  simp [hnext, hlast]

/-! ## The result -/

section Result

variable {sort : String} {key : TimerItem → Option Int}

theorem ordered_sortTimerItems (sort order : String) (items : List TimerItem) :
    (sortTimerItems items sort order).Pairwise
      (fun left right => compareTimerItems sort order left right ≠ .gt) := by
  have hcmp := transCmp_compareTimerItems sort order
  have hle := Comparison.ofCmp (compareTimerItems sort order)
  refine (List.pairwise_mergeSort hle.trans hle.total items).imp ?_
  intro left right hLE
  exact Ordering.isLE_iff_ne_gt.mp hLE

theorem stable_sortTimerItems (sort order : String) (items : List TimerItem) (item : TimerItem) :
    (sortTimerItems items sort order).filter
        (fun other => compareTimerItems sort order item other = .eq)
      = items.filter (fun other => compareTimerItems sort order item other = .eq) := by
  have hcmp := transCmp_compareTimerItems sort order
  refine filter_mergeSort (Comparison.ofCmp (compareTimerItems sort order)) ?_ items
  intro left right hleft hright
  rw [decide_eq_true_eq] at hleft hright
  have htie : compareTimerItems sort order left right = .eq := by
    rw [← Std.TransCmp.congr_left hleft, hright]
  rw [htie]
  rfl

/-- What a pair in order has: keys in order, and of equal keys the names. -/
theorem keys_of_ne_gt (hkey : optionalTimerKey sort = some key) {order : String}
    {left right : TimerItem} (h : compareTimerItems sort order left right ≠ .gt) :
    KnownFirst key left right
      ∧ KnownPair key (fun x y => if eqIgnoreAsciiCase order "desc" then y ≤ x else x ≤ y)
        left right
      ∧ (key left = key right → left.unit ≤ right.unit) := by
  rw [compareTimerItems_of_key hkey, ne_eq, ← Ordering.isLE_iff_ne_gt,
    Ordering.isLE_then_iff_and] at h
  obtain ⟨hkeys, hunits⟩ := h
  refine ⟨?_, ?_, ?_⟩
  · intro hunknown
    rw [hunknown] at hkeys
    cases hright : key right with
    | none => rfl
    | some y =>
        rw [hright] at hkeys
        cases hkeys
  · intro x y hx hy
    rw [hx, hy] at hkeys
    cases hdesc : eqIgnoreAsciiCase order "desc" with
    | false =>
        rw [hdesc] at hkeys
        exact Std.isLE_compare.mp hkeys
    | true =>
        rw [hdesc] at hkeys
        exact Std.isLE_compare.mp hkeys
  · intro heq
    have htie : compareOptionalI64NoneLast (key left) (key right)
        (eqIgnoreAsciiCase order "desc") = .eq := by
      rw [heq]
      exact @Std.ReflCmp.compare_self _ (fun left right =>
        compareOptionalI64NoneLast left right (eqIgnoreAsciiCase order "desc")) _ _
    rcases hunits with hlt | hunit
    · rw [htie] at hlt
      cases hlt
    · exact not_lt.mp fun hgt =>
        Ordering.isLE_iff_ne_gt.mp hunit (compare_gt_iff_gt.mpr hgt)

theorem sortedAs_sortTimerItems (sort order : String) (items : List TimerItem) :
    SortedAs sort order items (sortTimerItems items sort order) where
  perm := List.mergeSort_perm items _
  ordered := ordered_sortTimerItems sort order items
  stable := stable_sortTimerItems sort order items
  unknown_last := by
    intro key hkey
    exact (ordered_sortTimerItems sort order items).imp fun h => (keys_of_ne_gt hkey h).1
  known_in_order := by
    intro key hkey
    exact (ordered_sortTimerItems sort order items).imp fun h => (keys_of_ne_gt hkey h).2.1
  equal_by_unit := by
    intro key hkey
    exact (ordered_sortTimerItems sort order items).imp fun h => (keys_of_ne_gt hkey h).2.2

/-- Units of different names have no ties, and `desc` is `asc` read backwards. -/
theorem sortTimerItems_desc {asc desc : String} (hkey : optionalTimerKey sort = none)
    (hasc : eqIgnoreAsciiCase asc "desc" = false) (hdesc : eqIgnoreAsciiCase desc "desc" = true)
    {items : List TimerItem} (hnodup : (items.map TimerItem.unit).Nodup) :
    sortTimerItems items sort desc = (sortTimerItems items sort asc).reverse := by
  have hcmp := transCmp_compareTimerItems sort asc
  have hcmp' := transCmp_compareTimerItems sort desc
  refine mergeSort_flip (Comparison.ofCmp (compareTimerItems sort asc))
    (Comparison.ofCmp (compareTimerItems sort desc)) ?_ ?_
  · intro left right
    rw [compareTimerItems_desc hkey hasc hdesc,
      (Std.OrientedCmp.eq_swap : compareTimerItems sort asc right left = _)]
  · intro left hleft right hright hle hge
    exact List.inj_on_of_nodup_map hnodup hleft hright
      (unit_of_compareTimerItems_eq (eq_of_isLE_of_isLE _ hle hge))

end Result

/-- **The comparator is a total preorder for every option, and the result is what the options
say.** -/
theorem sortTimerItems_exact (sort : String) :
    (∀ order, TotalPreorder (compareTimerItems sort order))
    ∧ (∀ order items, SortedAs sort order items (sortTimerItems items sort order))
    ∧ (sort ≠ "next" → sort ≠ "last" → ∀ asc desc items,
        eqIgnoreAsciiCase asc "desc" = false → eqIgnoreAsciiCase desc "desc" = true →
        (items.map TimerItem.unit).Nodup →
        sortTimerItems items sort desc = (sortTimerItems items sort asc).reverse) := by
  refine ⟨?_, sortedAs_sortTimerItems sort, ?_⟩
  · intro order
    have hcmp := transCmp_compareTimerItems sort order
    exact totalPreorder_of_transCmp _
  · intro hnext hlast asc desc items hasc hdesc hnodup
    have hkey : optionalTimerKey sort = none := by
      rw [optionalTimerKey, if_neg hnext, if_neg hlast]
    exact sortTimerItems_desc hkey hasc hdesc hnodup

end SystemdMonitoring
