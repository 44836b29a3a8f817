/-
# `SystemdMonitoring.Lib.Credit` — programs on credit

An operation has a price, and an answer may be worth something: a list pays for
what is done with each of its elements.  `p.Affords tariff credit` says that `p`
can pay for all it asks for, on every path, out of that credit and of what it is
given on the way.

Credit is split between the parts of a sequence (`Affords.bind`), except that an
answer's worth goes to what comes behind it, which is how the definition reads.
What a task has come to by any time is then paid for by its credit and its
answers, and what is left pays for the rest (`Affords.leads`).  A task whose credit
is used up has therefore finished.
-/
import Mathlib.Algebra.BigOperators.Fin
import Mathlib.Algebra.Order.BigOperators.Group.Finset
import SystemdMonitoring.Lib.Replay

namespace Lib

variable {S T : Sig} {α β : Type}

/-- What operations cost, and what their answers are worth. -/
structure Tariff (S : Sig) where
  price : S.Op → Nat
  worth : Exchange S → Nat

/-- Prices alone: no answer is worth anything. -/
def Tariff.flat (price : S.Op → Nat) : Tariff S := ⟨price, fun _ => 0⟩

/-- Beside operations of another signature, each at that price. -/
def Tariff.beside (tariff : Tariff S) (own : Nat) : Tariff (S.sum T) where
  price
    | .inl o => tariff.price o
    | .inr _ => own
  worth
    | ⟨.inl o, r⟩ => tariff.worth ⟨o, r⟩
    | ⟨.inr _, _⟩ => 0

/-- All that a program asks for is paid for, by its credit and the answers. -/
def Prog.Affords (tariff : Tariff S) : Nat → Prog S α → Prop
  | _, .pure _ => True
  | credit, .op o k => tariff.price o ≤ credit
      ∧ ∀ r, Prog.Affords tariff (credit - tariff.price o + tariff.worth ⟨o, r⟩) (k r)
  | _, .abort _ => True

namespace Prog

variable {tariff : Tariff S} {c d : Nat}

theorem Affords.value (a : α) : Affords tariff c (Pure.pure a : Prog S α) := trivial

theorem Affords.call {o : S.Op} (h : tariff.price o ≤ c) : Affords tariff c (Prog.call o) :=
  ⟨h, fun _ => trivial⟩

/-- More credit pays for as much. -/
theorem Affords.mono {p : Prog S α} (h : Affords tariff c p) (hle : c ≤ d) :
    Affords tariff d p := by
  induction p generalizing c d with
  | pure a => trivial
  | op o k ih =>
      refine ⟨Nat.le_trans h.1 hle, ?_⟩
      intro r
      exact ih r (h.2 r) (Nat.add_le_add_right (Nat.sub_le_sub_right hle _) _)
  | abort msg => trivial

/-- **The sequencing rule**: each part has a credit of its own. -/
theorem Affords.bind {p : Prog S α} {f : α → Prog S β} (hp : Affords tariff c p)
    (hf : ∀ a, Affords tariff d (f a)) : Affords tariff (d + c) (p >>= f) := by
  induction p generalizing c with
  | pure a => exact (hf a).mono (Nat.le_add_right d c)
  | op o k ih =>
      obtain ⟨hprice, hrest⟩ := hp
      refine ⟨Nat.le_trans hprice (Nat.le_add_left c d), ?_⟩
      intro r
      refine (ih r (hrest r)).mono (Nat.le_of_eq ?_)
      rw [Nat.add_sub_assoc hprice, Nat.add_assoc]
  | abort msg => trivial

/-- What comes behind is free. -/
theorem Affords.andFree {p : Prog S α} {f : α → Prog S β} (hp : Affords tariff c p)
    (hf : ∀ a, Affords tariff 0 (f a)) : Affords tariff c (p >>= f) := by
  have h := hp.bind hf
  rwa [Nat.zero_add] at h

theorem Affords.map {p : Prog S α} (hp : Affords tariff c p) (f : α → β) :
    Affords tariff c (p >>= fun a => Pure.pure (f a)) :=
  hp.andFree fun a => Affords.value (f a)

/-- A list of programs, each with its own credit. -/
theorem Affords.mapM {f : α → Prog S β} {l : List α} {credit : α → Nat}
    (h : ∀ a ∈ l, Affords tariff (credit a) (f a)) :
    Affords tariff ((l.map credit).sum) (l.mapM f) := by
  induction l with
  | nil => trivial
  | cons a l ih =>
      obtain ⟨ha, hl⟩ := List.forall_mem_cons.mp h
      rw [List.mapM_cons, List.map_cons, List.sum_cons, Nat.add_comm]
      exact ha.bind fun b => (ih hl).map fun bs => b :: bs

/-- What costs nothing needs no credit. -/
theorem Affords.free {p : Prog S α} (h : p.Only fun o => tariff.price o = 0) :
    Affords tariff c p := by
  induction p generalizing c with
  | pure a => trivial
  | op o k ih =>
      obtain ⟨hfree, hrest⟩ := h
      refine ⟨?_, fun r => ih r (hrest r)⟩
      rw [hfree]
      exact Nat.zero_le c
  | abort msg => trivial

theorem Affords.inLeft {own : Nat} {p : Prog S α} (h : Affords tariff c p) :
    Affords (tariff.beside own) c (p.inLeft (T := T)) := by
  induction p generalizing c with
  | pure a => trivial
  | op o k ih => exact ⟨h.1, fun r => ih r (h.2 r)⟩
  | abort msg => trivial

/-- Operations in whose place are programs that their price pays for. -/
theorem Affords.interp {tariff' : Tariff T} {f : (o : S.Op) → Prog T (S.Ans o)}
    (hworth : ∀ exchange, tariff.worth exchange = 0)
    (hf : ∀ o, Affords tariff' (tariff.price o) (f o)) {p : Prog S α} (hp : Affords tariff c p) :
    Affords tariff' c (p.interp f) := by
  induction p generalizing c with
  | pure a => trivial
  | op o k ih =>
      obtain ⟨hprice, hrest⟩ := hp
      have hsum : c - tariff.price o + tariff.price o = c := Nat.sub_add_cancel hprice
      rw [← hsum]
      refine Affords.bind (hf o) fun r => ih r ?_
      have hr := hrest r
      rwa [hworth, Nat.add_zero] at hr
  | abort msg => trivial

/-- **What has been asked for is paid for**, by the credit and by the answers, and what is left of
the credit pays for what is left of the program. -/
theorem Affords.leads {p p' : Prog S α} {history : List (Exchange S)} (h : p.Leads history p')
    (hp : Affords tariff c p) :
    ∃ left, Affords tariff left p'
      ∧ left + (history.map fun exchange => tariff.price exchange.1).sum
        = c + (history.map tariff.worth).sum := by
  induction h generalizing c with
  | refl p => exact ⟨c, hp, rfl⟩
  | @op o k r history p' _ ih =>
      obtain ⟨left, hleft, hsum⟩ := ih (hp.2 r)
      have hprice : tariff.price o ≤ c := hp.1
      refine ⟨left, hleft, ?_⟩
      rw [List.map_cons, List.map_cons, List.sum_cons, List.sum_cons]
      show left + (tariff.price o + _) = _
      omega

end Prog

/-! ## All tasks -/

/-- What is summed up over a history is summed up over the tasks. -/
theorem sum_ofTask {τ : Type} {n : Nat} {events : List (Event S τ)} (h : ∀ e ∈ events, e.task < n)
    (amount : Exchange S → Nat) :
    ∑ i ∈ Finset.range n, (((ofTask i events).map Event.exchange).map amount).sum
      = ((events.map Event.exchange).map amount).sum := by
  induction events with
  | nil => exact Finset.sum_const_zero
  | cons e events ih =>
      obtain ⟨he, hevents⟩ := List.forall_mem_cons.mp h
      have hcons : ∀ i, (((ofTask i (e :: events)).map Event.exchange).map amount).sum
          = (if e.task = i then amount e.exchange else 0)
            + (((ofTask i events).map Event.exchange).map amount).sum := by
        intro i
        by_cases hi : e.task = i
        · simp [ofTask, hi]
        · simp [ofTask, hi]
      simp only [hcons, Finset.sum_add_distrib, ih hevents]
      rw [Finset.sum_ite_eq, if_pos (Finset.mem_range.mpr he)]
      rfl

/-- What each task keeps to, all of them keep to together. -/
theorem sum_le_of_tasks {τ ι : Type} {tasks : List ι} {events : List (Event S τ)}
    (h : ∀ e ∈ events, e.task < tasks.length) {spent given : Exchange S → Nat} {credit : ι → Nat}
    (heach : ∀ i task, tasks[i]? = some task →
      (((ofTask i events).map Event.exchange).map spent).sum
        ≤ credit task + (((ofTask i events).map Event.exchange).map given).sum) :
    ((events.map Event.exchange).map spent).sum
      ≤ (tasks.map credit).sum + ((events.map Event.exchange).map given).sum := by
  rw [← sum_ofTask h spent, ← sum_ofTask h given, Finset.sum_range, Finset.sum_range,
    ← Fin.sum_univ_fun_getElem, ← Finset.sum_add_distrib]
  refine Finset.sum_le_sum fun i _ => heach i.val tasks[i.val] ?_
  exact List.getElem?_eq_getElem i.isLt

end Lib
