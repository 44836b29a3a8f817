/-
# `SystemdMonitoring.Lib.Scan` — a scan within two budgets

A scan moves along a list, keeps what it makes of some of the elements, and
stops when it has moved or kept as often as it may, or is behind the end.  Both
a move and a look at an element may fail.

When no look fails, a scan is its moves followed by take, filter, take
(`scanWithin_eq`); how often it moves is `moves`, which is never beyond its
budget, nor beyond the element that completes what may be kept (`moves_le`,
`countP_lt_of_lt_moves`).
-/
import SystemdMonitoring.Lib.Except

namespace Lib

variable {ε α β : Type}

/-- The scan, with the number of moves made so far and what has been kept so far. -/
def scanWithin (move : Nat → Except ε Unit) (look : α → Except ε (Option β)) (limit : Nat) :
    Nat → Nat → List α → List β → Except ε (List β)
  | 0, _, _, kept => .ok kept
  | _ + 1, moved, [], kept =>
      if limit ≤ kept.length then .ok kept
      else do
        move moved
        .ok kept
  | budget + 1, moved, a :: rest, kept =>
      if limit ≤ kept.length then .ok kept
      else do
        move moved
        match ← look a with
        | none => scanWithin move look limit budget (moved + 1) rest kept
        | some b => scanWithin move look limit budget (moved + 1) rest (kept ++ [b])

/-- How often a scan moves, when `kept` have been kept; the move that finds the end counts. -/
def moves (keeps : α → Bool) (limit : Nat) : Nat → List α → Nat → Nat
  | 0, _, _ => 0
  | _ + 1, [], kept => if limit ≤ kept then 0 else 1
  | budget + 1, a :: rest, kept =>
      if limit ≤ kept then 0
      else moves keeps limit budget rest (kept + (if keeps a then 1 else 0)) + 1

theorem moves_le (keeps : α → Bool) (limit budget : Nat) (list : List α) (kept : Nat) :
    moves keeps limit budget list kept ≤ budget := by
  induction budget generalizing list kept with
  | zero => exact Nat.le_refl 0
  | succ budget ih =>
      cases list with
      | nil =>
          rw [moves]
          split <;> omega
      | cons a rest =>
          rw [moves]
          split
          · exact Nat.zero_le _
          · exact Nat.succ_le_succ (ih _ _)

/-- **No move is made for nothing**: before each of them there is room. -/
theorem countP_lt_of_lt_moves {keeps : α → Bool} {limit budget : Nat} {list : List α}
    {kept k : Nat} (h : k < moves keeps limit budget list kept) :
    kept + (list.take k).countP keeps < limit := by
  induction budget generalizing list kept k with
  | zero => exact absurd h (Nat.not_lt_zero _)
  | succ budget ih =>
      cases list with
      | nil =>
          rw [moves] at h
          rw [List.take_nil, List.countP_nil]
          split at h <;> omega
      | cons a rest =>
          rw [moves] at h
          split at h
          case isTrue => exact absurd h (Nat.not_lt_zero _)
          case isFalse hroom =>
            cases k with
            | zero =>
                rw [List.take_zero, List.countP_nil]
                omega
            | succ k =>
                have hrest := ih (Nat.lt_of_succ_lt_succ h)
                rw [List.take_succ_cons, List.countP_cons]
                omega

/-- **A scan no look of which fails** makes its moves and has what take, filter, take give. -/
theorem scanWithin_eq {move : Nat → Except ε Unit} {look : α → Except ε (Option β)}
    {keep : α → Option β} (limit budget moved : Nat) {list : List α}
    (hlook : ∀ a ∈ list, look a = .ok (keep a)) (kept : List β) :
    scanWithin move look limit budget moved list kept
      = forM (List.range' moved
          (moves (fun a => (keep a).isSome) limit budget list kept.length)) move
        >>= fun _ => .ok (kept
          ++ ((list.take budget).filterMap keep).take (limit - kept.length)) := by
  induction budget generalizing moved list kept with
  | zero =>
      rw [List.take_zero, List.filterMap_nil, List.take_nil, List.append_nil]
      rfl
  | succ budget ih =>
      cases list with
      | nil =>
          rw [scanWithin, moves, List.take_nil, List.filterMap_nil, List.take_nil, List.append_nil]
          split
          · rfl
          · cases hmove : move moved <;> simp [hmove]
      | cons a rest =>
          rw [scanWithin, moves]
          split
          case isTrue hfull =>
            rw [Nat.sub_eq_zero_of_le hfull, List.take_zero, List.append_nil]
            rfl
          case isFalse hroom =>
            have hrest : ∀ b ∈ rest, look b = .ok (keep b) :=
              fun b hb => hlook b (List.mem_cons_of_mem a hb)
            obtain ⟨room, hleft⟩ : ∃ room, limit - kept.length = room + 1 :=
              ⟨limit - kept.length - 1, by omega⟩
            rw [List.range'_succ, List.forM_cons, bind_assoc, List.take_succ_cons]
            cases move moved with
            | error err => rfl
            | ok u =>
                rw [ok_bind, ok_bind, hlook a List.mem_cons_self, ok_bind]
                cases hkeep : keep a with
                | none =>
                    rw [List.filterMap_cons_none hkeep]
                    exact ih (moved + 1) hrest kept
                | some b =>
                    rw [List.filterMap_cons_some hkeep, hleft, List.take_succ_cons]
                    have hkept := ih (moved + 1) hrest (kept ++ [b])
                    rw [List.length_append, List.length_singleton, List.append_assoc,
                      List.singleton_append, ← Nat.sub_sub, hleft, Nat.add_sub_cancel] at hkept
                    exact hkept

end Lib
