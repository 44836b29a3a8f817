/-
# `SystemdMonitoring.Lib.Paging` — pages of a list that grows at its end

A page is a prefix of what is left, and a flag that says whether more was there.
The next page goes on behind it; before it is taken, more may have arrived at
the end.  Whoever asks until the flag is off has seen what was left at first
and all that arrived before the last page, once and in order (`pages_rows`).

The second half is about resuming: a reader that remembers the key of the last
element it used, skips to that key and one further (`after`), is back where the
page ended (`after_split`), whatever has been appended (`after_append_of_mem`)
or put in front (`after_append_of_not_mem`).
-/
import Mathlib.Data.List.Basic
import Mathlib.Data.List.TakeWhile

namespace Lib.Paging

variable {α β κ : Type*}

/-! ## Pages -/

structure Page (α : Type*) where
  rows : List α
  more : Bool
  deriving DecidableEq, Repr

/-- The pages of `rest`: each visit says what arrives before its page and how long it may be. -/
def pages : List α → List (List α × Nat) → List (Page α)
  | _, [] => []
  | rest, (arrived, limit) :: visits =>
      let rest := rest ++ arrived
      ⟨rest.take limit, decide (limit < rest.length)⟩
        :: if limit < rest.length then pages (rest.drop limit) visits else []

/-- The last page says that nothing is left. -/
def Complete (ps : List (Page α)) : Prop := ∃ page, ps.getLast? = some page ∧ page.more = false

theorem Complete.of_cons {page : Page α} {ps : List (Page α)} (h : Complete (page :: ps))
    (hne : ps ≠ []) : Complete ps := by
  obtain ⟨last, hlast, hmore⟩ := h
  refine ⟨last, ?_, hmore⟩
  rwa [List.getLast?_cons_of_ne_nil hne] at hlast

/-- **No gap and no duplicate**: complete pages are what was left and all that arrived. -/
theorem pages_rows (rest : List α) (visits : List (List α × Nat))
    (h : Complete (pages rest visits)) :
    (pages rest visits).flatMap Page.rows
      = rest ++ (visits.take (pages rest visits).length).flatMap Prod.fst := by
  induction visits generalizing rest with
  | nil =>
      obtain ⟨page, hpage, -⟩ := h
      cases hpage
  | cons visit visits ih =>
      obtain ⟨arrived, limit⟩ := visit
      by_cases hmore : limit < (rest ++ arrived).length
      · have hpages : pages rest ((arrived, limit) :: visits)
            = ⟨(rest ++ arrived).take limit, true⟩
              :: pages ((rest ++ arrived).drop limit) visits := by
          simp only [pages, hmore, decide_true, if_true]
        rw [hpages] at h ⊢
        have hne : pages ((rest ++ arrived).drop limit) visits ≠ [] := by
          intro hnil
          obtain ⟨page, hpage, hflag⟩ := h
          rw [hnil, List.getLast?_singleton, Option.some.injEq] at hpage
          rw [← hpage] at hflag
          cases hflag
        rw [List.flatMap_cons, ih _ (h.of_cons hne), List.length_cons, List.take_succ_cons,
          List.flatMap_cons, ← List.append_assoc, List.take_append_drop, List.append_assoc]
      · have hpages : pages rest ((arrived, limit) :: visits)
            = [⟨(rest ++ arrived).take limit, false⟩] := by
          simp only [pages, hmore, decide_false, if_false]
        rw [hpages]
        simp [List.take_of_length_le (not_lt.mp hmore)]

/-- Pages only stop before the visits do when nothing is left. -/
theorem complete_of_length_lt {rest : List α} {visits : List (List α × Nat)}
    (h : (pages rest visits).length < visits.length) : Complete (pages rest visits) := by
  induction visits generalizing rest with
  | nil => exact absurd h (Nat.not_lt_zero _)
  | cons visit visits ih =>
      obtain ⟨arrived, limit⟩ := visit
      by_cases hmore : limit < (rest ++ arrived).length
      · simp only [pages, hmore, decide_true, if_true, List.length_cons,
          Nat.succ_lt_succ_iff] at h ⊢
        obtain ⟨page, hpage, hflag⟩ := ih h
        refine ⟨page, ?_, hflag⟩
        rw [List.getLast?_cons, hpage, Option.getD_some]
      · simp only [pages, hmore, decide_false, if_false]
        exact ⟨_, rfl, rfl⟩

/-! ## Resuming behind a key -/

/-- What lies behind the first element of that key. -/
def after [DecidableEq κ] (key : α → κ) (k : κ) (l : List α) : List α :=
  (l.dropWhile (fun x => decide (key x ≠ k))).drop 1

section After

variable [DecidableEq κ] {key : α → κ} {k : κ}

theorem after_append_of_not_mem {l : List α} (h : k ∉ l.map key) (m : List α) :
    after key k (l ++ m) = after key k m := by
  induction l with
  | nil => rfl
  | cons x l ih =>
      simp only [List.map_cons, List.mem_cons, not_or] at h
      have hx : key x ≠ k := fun heq => h.1 heq.symm
      rw [List.cons_append, after, List.dropWhile_cons_of_pos (by simpa using hx), ← after]
      exact ih h.2

theorem after_append_of_mem {l : List α} (h : k ∈ l.map key) (m : List α) :
    after key k (l ++ m) = after key k l ++ m := by
  induction l with
  | nil => cases h
  | cons x l ih =>
      by_cases hx : key x = k
      · simp [after, hx]
      · have hmem : k ∈ l.map key := by
          simp only [List.map_cons, List.mem_cons] at h
          exact h.resolve_left (fun heq => hx heq.symm)
        have hdrop : ∀ t : List α, after key k (x :: t) = after key k t := by
          intro t
          rw [after, List.dropWhile_cons_of_pos (by simpa using hx), ← after]
        rw [List.cons_append, hdrop, hdrop, ih hmem]

theorem after_split {pre post : List α} {x : α} (h : key x ∉ pre.map key) :
    after key (key x) (pre ++ x :: post) = post := by
  rw [after_append_of_not_mem h]
  simp [after]

end After

/-! ## Rows -/

/-- Elements without rows may be skipped. -/
theorem filterMap_dropWhile {f : α → Option β} {p : α → Bool}
    (h : ∀ x, p x = true → f x = none) (l : List α) :
    (l.dropWhile p).filterMap f = l.filterMap f := by
  induction l with
  | nil => rfl
  | cons x l ih =>
      by_cases hx : p x = true
      · rw [List.dropWhile_cons_of_pos hx, ih, List.filterMap_cons_none (h x hx)]
      · rw [List.dropWhile_cons_of_neg hx]

/-- A proper prefix of the rows ends with the row of some element, and the other rows come from
behind that element. -/
theorem exists_split_take (row : α → Option β) {l : List α} {n : Nat} (hn : 1 ≤ n)
    (hlen : n ≤ (l.filterMap row).length) :
    ∃ pre x post r, l = pre ++ x :: post ∧ row x = some r
      ∧ (l.filterMap row).take n = pre.filterMap row ++ [r]
      ∧ (l.filterMap row).drop n = post.filterMap row := by
  induction l generalizing n with
  | nil =>
      simp only [List.filterMap_nil, List.length_nil] at hlen
      omega
  | cons x l ih =>
      cases hx : row x with
      | none =>
          rw [List.filterMap_cons_none hx] at hlen ⊢
          obtain ⟨pre, y, post, r, rfl, hy, htake, hdrop⟩ := ih hn hlen
          exact ⟨x :: pre, y, post, r, rfl, hy, by rw [List.filterMap_cons_none hx]; exact htake,
            hdrop⟩
      | some r =>
          rw [List.filterMap_cons_some hx] at hlen ⊢
          obtain ⟨n, rfl⟩ := Nat.exists_eq_add_of_le' hn
          cases Nat.eq_zero_or_pos n with
          | inl hzero =>
              subst hzero
              exact ⟨[], x, l, r, rfl, hx, rfl, rfl⟩
          | inr hpos =>
              obtain ⟨pre, y, post, s, rfl, hy, htake, hdrop⟩ :=
                ih hpos (Nat.le_of_succ_le_succ hlen)
              refine ⟨x :: pre, y, post, s, rfl, hy, ?_, ?_⟩
              · rw [List.take_succ_cons, htake, List.filterMap_cons_some hx, List.cons_append]
              · rw [List.drop_succ_cons, hdrop]

/-! ## Stopping early -/

/-- **A scan that stops early**: the rows in front of the first element that is past, which has no
row itself, are all the rows exactly when no element behind a past one has a row. -/
theorem filterMap_stopped_iff {f : α → Option β} {past : α → Prop}
    (hout : ∀ x, past x → f x = none) {pre post : List α} (hpre : ∀ x ∈ pre, ¬ past x)
    (hpost : ∀ x, post.head? = some x → past x) :
    pre.filterMap f = (pre ++ post).filterMap f
      ↔ (pre ++ post).Pairwise (fun stop x => past stop → f x = none) := by
  have hrest : post.filterMap f = [] ↔ post.Pairwise (fun stop x => past stop → f x = none) := by
    cases post with
    | nil => exact iff_of_true rfl List.Pairwise.nil
    | cons stop rest =>
        have hstop : past stop := hpost stop rfl
        rw [List.filterMap_cons_none (hout stop hstop), List.filterMap_eq_nil_iff,
          List.pairwise_cons]
        constructor
        · intro hnone
          exact ⟨fun x hx _ => hnone x hx,
            List.pairwise_of_forall_mem_list (fun _ _ x hx _ => hnone x hx)⟩
        · rintro ⟨hnone, -⟩ x hx
          exact hnone x hx hstop
  rw [List.filterMap_append, List.self_eq_append_right, hrest, List.pairwise_append]
  constructor
  · intro h
    exact ⟨List.pairwise_of_forall_mem_list (fun x hx _ _ hpast => absurd hpast (hpre x hx)), h,
      fun x hx _ _ hpast => absurd hpast (hpre x hx)⟩
  · rintro ⟨-, h, -⟩
    exact h

end Lib.Paging
