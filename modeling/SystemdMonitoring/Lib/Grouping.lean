/-
# `SystemdMonitoring.Lib.Grouping` — groups in the order of first occurrence

An element joins the first group of its key, or opens a new one at the end.
Folding that over a list partitions it: there is a group for every key of the
list and for no other, in the order in which the keys first occur, and the group
of a key is what the fold makes of the elements with it, in their order
(`grouped_spec`).
-/
import Mathlib.Data.List.Induction
import Mathlib.Data.List.Nodup

namespace Lib

variable {α γ κ : Type*} [DecidableEq κ]

/-- How groups are made: of one element, and with one more. -/
structure Grouping (α γ κ : Type*) where
  key : α → κ
  groupKey : γ → κ
  new : α → γ
  add : γ → α → γ
  groupKey_new : ∀ a, groupKey (new a) = key a
  groupKey_add : ∀ group a, groupKey (add group a) = groupKey group

namespace Grouping

variable (grouping : Grouping α γ κ)

/-- One more element. -/
def insert (a : α) : List γ → List γ
  | [] => [grouping.new a]
  | group :: groups =>
      if grouping.groupKey group = grouping.key a then grouping.add group a :: groups
      else group :: insert a groups

def grouped (l : List α) : List γ := l.foldl (fun groups a => grouping.insert a groups) []

/-- What the fold makes of the elements of one key. -/
def groupOf (l : List α) : Option γ :=
  l.head?.map (fun a => l.tail.foldl grouping.add (grouping.new a))

/-- The elements of a key. -/
def members (l : List α) (k : κ) : List α := l.filter (fun a => grouping.key a = k)

/-! ## One element -/

theorem keys_insert (a : α) (groups : List γ) :
    (grouping.insert a groups).map grouping.groupKey =
      if grouping.key a ∈ groups.map grouping.groupKey then groups.map grouping.groupKey
      else groups.map grouping.groupKey ++ [grouping.key a] := by
  induction groups with
  | nil => simp [insert, grouping.groupKey_new]
  | cons group groups ih =>
      rw [insert]
      split
      case isTrue hkey =>
        rw [List.map_cons, List.map_cons, grouping.groupKey_add, hkey, if_pos List.mem_cons_self]
      case isFalse hkey =>
        rw [List.map_cons, List.map_cons, ih]
        by_cases hmem : grouping.key a ∈ groups.map grouping.groupKey
        · rw [if_pos hmem, if_pos (List.mem_cons_of_mem _ hmem)]
        · have hout : grouping.key a ∉ grouping.groupKey group :: groups.map grouping.groupKey := by
            rw [List.mem_cons]
            exact not_or.mpr ⟨fun heq => hkey heq.symm, hmem⟩
          rw [if_neg hmem, if_neg hout, List.cons_append]

/-- A group of another key is left alone; that of the key has one more, or is new. -/
theorem mem_insert {a : α} {groups : List γ} (hnodup : (groups.map grouping.groupKey).Nodup)
    {group : γ} (h : group ∈ grouping.insert a groups) :
    (group ∈ groups ∧ grouping.groupKey group ≠ grouping.key a)
      ∨ (∃ before ∈ groups, grouping.groupKey before = grouping.key a
        ∧ group = grouping.add before a)
      ∨ (grouping.key a ∉ groups.map grouping.groupKey ∧ group = grouping.new a) := by
  induction groups with
  | nil =>
      obtain rfl := List.mem_singleton.mp h
      exact .inr (.inr ⟨by simp, rfl⟩)
  | cons first groups ih =>
      obtain ⟨hfirst, hrest⟩ := List.nodup_cons.mp hnodup
      rw [insert] at h
      split at h
      case isTrue hkey =>
        rcases List.mem_cons.mp h with rfl | hmem
        · exact .inr (.inl ⟨first, List.mem_cons_self, hkey, rfl⟩)
        · refine .inl ⟨List.mem_cons_of_mem _ hmem, ?_⟩
          intro heq
          refine hfirst ?_
          rw [hkey, ← heq]
          exact List.mem_map_of_mem hmem
      case isFalse hkey =>
        rcases List.mem_cons.mp h with rfl | hmem
        · exact .inl ⟨List.mem_cons_self, hkey⟩
        · rcases ih hrest hmem with ⟨hin, hne⟩ | ⟨before, hin, hbefore, rfl⟩ | ⟨hout, rfl⟩
          · exact .inl ⟨List.mem_cons_of_mem _ hin, hne⟩
          · exact .inr (.inl ⟨before, List.mem_cons_of_mem _ hin, hbefore, rfl⟩)
          · refine .inr (.inr ⟨?_, rfl⟩)
            rw [List.map_cons, List.mem_cons]
            exact not_or.mpr ⟨fun heq => hkey heq.symm, hout⟩

/-! ## A whole list -/

/-- A group for every key, in the order of first occurrence, each made of its elements. -/
structure Partitions (l : List α) (groups : List γ) : Prop where
  ordered : (groups.map grouping.groupKey).Pairwise
    (fun k k' => (l.map grouping.key).idxOf k < (l.map grouping.key).idxOf k')
  keys : ∀ k, k ∈ groups.map grouping.groupKey ↔ k ∈ l.map grouping.key
  made : ∀ group ∈ groups,
    grouping.groupOf (grouping.members l (grouping.groupKey group)) = some group

theorem Partitions.nodup {l : List α} {groups : List γ} (h : grouping.Partitions l groups) :
    (groups.map grouping.groupKey).Nodup := by
  refine h.ordered.imp ?_
  rintro k _ hlt rfl
  exact Nat.lt_irrefl _ hlt

omit [DecidableEq κ] in
theorem groupOf_append {l : List α} {group : γ} (h : grouping.groupOf l = some group) (a : α) :
    grouping.groupOf (l ++ [a]) = some (grouping.add group a) := by
  cases l with
  | nil => cases h
  | cons b l =>
      cases h
      rw [groupOf, List.cons_append, List.head?_cons, List.tail_cons, Option.map_some,
        List.foldl_append]
      rfl

/-- **One more element at the end** of a partitioned list. -/
theorem Partitions.insert {l : List α} {groups : List γ} (h : grouping.Partitions l groups)
    (a : α) : grouping.Partitions (l ++ [a]) (grouping.insert a groups) := by
  have hkeys : (l ++ [a]).map grouping.key = l.map grouping.key ++ [grouping.key a] := by
    rw [List.map_append, List.map_singleton]
  have hmembers : ∀ k, grouping.members (l ++ [a]) k
      = grouping.members l k ++ if grouping.key a = k then [a] else [] := by
    intro k
    rw [members, List.filter_append]
    by_cases hk : grouping.key a = k <;> simp [members, hk]
  have hindex : ∀ k ∈ l.map grouping.key,
      (l.map grouping.key ++ [grouping.key a]).idxOf k = (l.map grouping.key).idxOf k :=
    fun k hk => List.idxOf_append_of_mem hk
  have hordered : (groups.map grouping.groupKey).Pairwise (fun k k' =>
      (l.map grouping.key ++ [grouping.key a]).idxOf k
        < (l.map grouping.key ++ [grouping.key a]).idxOf k') := by
    refine h.ordered.imp_of_mem ?_
    intro k k' hk hk' hlt
    rwa [hindex k ((h.keys k).mp hk), hindex k' ((h.keys k').mp hk')]
  refine ⟨?_, ?_, ?_⟩
  · rw [grouping.keys_insert, hkeys]
    split
    case isTrue => exact hordered
    case isFalse hout =>
      refine List.pairwise_append.mpr ⟨hordered, List.pairwise_singleton _ _, ?_⟩
      intro k hk k' hk'
      obtain rfl := List.mem_singleton.mp hk'
      have hkey := (h.keys k).mp hk
      rw [h.keys] at hout
      rw [hindex k hkey, List.idxOf_append_of_notMem hout, List.length_map]
      have hlt := List.idxOf_lt_length_of_mem hkey
      rw [List.length_map] at hlt
      exact Nat.lt_add_right _ hlt
  · intro k
    rw [grouping.keys_insert, hkeys, List.mem_append, List.mem_singleton, ← h.keys]
    split
    case isTrue hin =>
      constructor
      · exact .inl
      · rintro (hk | rfl)
        · exact hk
        · exact hin
    case isFalse => rw [List.mem_append, List.mem_singleton]
  · intro group hgroup
    rw [hmembers]
    rcases grouping.mem_insert h.nodup hgroup with
      ⟨hin, hne⟩ | ⟨before, hin, hbefore, rfl⟩ | ⟨hout, rfl⟩
    · rw [if_neg hne.symm, List.append_nil]
      exact h.made group hin
    · rw [grouping.groupKey_add, if_pos hbefore.symm]
      exact grouping.groupOf_append (h.made before hin) a
    · have hnone : grouping.members l (grouping.key a) = [] := by
        rw [members, List.filter_eq_nil_iff]
        intro b hb hkey
        refine hout ((h.keys _).mpr ?_)
        rw [← of_decide_eq_true hkey]
        exact List.mem_map_of_mem hb
      rw [grouping.groupKey_new, if_pos rfl, hnone]
      rfl

/-- **The fold partitions the list.** -/
theorem grouped_spec (l : List α) : grouping.Partitions l (grouping.grouped l) := by
  induction l using List.reverseRecOn with
  | nil => exact ⟨.nil, fun k => Iff.rfl, fun group hgroup => by cases hgroup⟩
  | append_singleton l a ih =>
      rw [grouped, List.foldl_append]
      exact ih.insert grouping a

end Grouping

end Lib
