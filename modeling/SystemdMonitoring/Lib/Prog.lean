/-
# `SystemdMonitoring.Lib.Prog` — programs that ask a host for answers

A program is a tree: it returns a value, asks its host for one operation and
goes on with the answer, or aborts.  What the host answers is left open, so
one tree stands for the program under every behaviour of its surroundings, and
a property of the tree is a property under every host.

The operations come from a *signature*, the answers' types with them:

    Prog S α  ::=  pure a  |  op o k   (k : S.Ans o → Prog S α)  |  abort m

Two readings of a program are given and connected.

* `run h p s`: the run against the host `h` from the host state `s`: outcome,
  final state, and the operations asked for, in order.
* `p.All Q`: every path through the tree, whatever is answered along it, ends
  with a trace and an outcome that satisfy `Q`.  `All_bind` is the sequencing
  rule, `All_run` says that a run is one of those paths.

A third reading leaves the host's state out: `p.under answers` is the outcome
when every operation has one fixed answer, whenever it is asked for.  A host
that answers so runs to that outcome (`result_run_under`).

`interp` replaces each operation by a program over another signature, so that
a program written against an abstract provider can be run on the operations of
a concrete one.
-/
import Mathlib.Data.List.Basic

namespace Lib

/-- The operations a program may ask for, and the type each is answered in. -/
structure Sig where
  Op : Type
  Ans : Op → Type

/-- Two signatures side by side. -/
abbrev Sig.sum (S T : Sig) : Sig where
  Op := S.Op ⊕ T.Op
  Ans
    | .inl o => S.Ans o
    | .inr o => T.Ans o

/-- A program over `S` that returns an `α`. -/
inductive Prog (S : Sig) (α : Type) : Type where
  | pure (a : α)
  | op (o : S.Op) (k : S.Ans o → Prog S α)
  | abort (msg : String)

/-- How a run ends. -/
inductive Outcome (α : Type) where
  | done (a : α)
  | aborted (msg : String)
  deriving DecidableEq, Repr

/-- Whoever answers the operations; `σ` is what it remembers between two of them. -/
structure Host (S : Sig) (σ : Type) where
  answer : (o : S.Op) → σ → S.Ans o × σ

/-- The host that gives every operation one answer. -/
def Host.fixed {S : Sig} (answers : (o : S.Op) → S.Ans o) : Host S Unit where
  answer := fun o s => (answers o, s)

/-- A finished run. -/
structure Run (S : Sig) (σ α : Type) where
  result : Outcome α
  state : σ
  trace : List S.Op

namespace Prog

variable {S T U : Sig} {α β γ σ : Type}

/-- Sequencing: graft `f a` on every leaf that returns `a`. -/
def bind : Prog S α → (α → Prog S β) → Prog S β
  | .pure a, f => f a
  | .op o k, f => .op o (fun r => (k r).bind f)
  | .abort m, _ => .abort m

instance : Monad (Prog S) where
  pure := Prog.pure
  bind := Prog.bind

/-- Ask for one operation and return the answer. -/
def call (o : S.Op) : Prog S (S.Ans o) := .op o .pure

@[simp] theorem pure_eq (a : α) : (Prog.pure a : Prog S α) = Pure.pure a := rfl

@[simp] theorem pure_bind (a : α) (f : α → Prog S β) : (Pure.pure a >>= f) = f a := rfl

@[simp] theorem op_bind (o : S.Op) (k : S.Ans o → Prog S α) (f : α → Prog S β) :
    (Prog.op o k >>= f) = .op o (fun r => k r >>= f) := rfl

theorem bind_pure (p : Prog S α) : (p >>= Pure.pure) = p := by
  induction p with
  | pure a => rfl
  | op o k ih => exact congrArg (Prog.op o) (funext ih)
  | abort m => rfl

theorem bind_assoc (p : Prog S α) (f : α → Prog S β) (g : β → Prog S γ) :
    (p >>= f >>= g) = (p >>= fun a => f a >>= g) := by
  induction p with
  | pure a => rfl
  | op o k ih => exact congrArg (Prog.op o) (funext ih)
  | abort m => rfl

instance : LawfulMonad (Prog S) :=
  LawfulMonad.mk' _ (fun p => bind_pure p) (fun _ _ => rfl) bind_assoc

/-! ## Runs -/

/-- Run a program against a host. -/
def run (h : Host S σ) : Prog S α → σ → Run S σ α
  | .pure a, s => ⟨.done a, s, []⟩
  | .op o k, s =>
      let r := h.answer o s
      let rest := (k r.1).run h r.2
      ⟨rest.result, rest.state, o :: rest.trace⟩
  | .abort m, s => ⟨.aborted m, s, []⟩

section
variable (h : Host S σ)

@[simp] theorem run_pure (a : α) (s : σ) :
    (Pure.pure a : Prog S α).run h s = ⟨.done a, s, []⟩ := rfl

@[simp] theorem run_abort (m : String) (s : σ) :
    (Prog.abort m : Prog S α).run h s = ⟨.aborted m, s, []⟩ := rfl

theorem run_op (o : S.Op) (k : S.Ans o → Prog S α) (s : σ) :
    (Prog.op o k).run h s =
      ⟨((k (h.answer o s).1).run h (h.answer o s).2).result,
        ((k (h.answer o s).1).run h (h.answer o s).2).state,
        o :: ((k (h.answer o s).1).run h (h.answer o s).2).trace⟩ := rfl

/-- A run that returns hands its value and its state on, and the traces join. -/
theorem run_bind_done {p : Prog S α} {s : σ} {a : α} (f : α → Prog S β)
    (hp : (p.run h s).result = .done a) :
    (p >>= f).run h s =
      ⟨((f a).run h (p.run h s).state).result, ((f a).run h (p.run h s).state).state,
        (p.run h s).trace ++ ((f a).run h (p.run h s).state).trace⟩ := by
  induction p generalizing s with
  | pure b =>
      have hb : b = a := by simpa using hp
      subst hb
      rfl
  | op o k ih =>
      have hk := ih (h.answer o s).1 (s := (h.answer o s).2) hp
      rw [op_bind, run_op, run_op, hk]
      rfl
  | abort m => exact absurd hp (by simp)

end

/-! ## Every path -/

/-- Every path through the program ends as `Q` says, whatever is answered on the way. -/
def All (Q : List S.Op → Outcome α → Prop) : Prog S α → Prop
  | .pure a => Q [] (.done a)
  | .op o k => ∀ r, (k r).All (fun t x => Q (o :: t) x)
  | .abort m => Q [] (.aborted m)

@[simp] theorem All_pure (Q : List S.Op → Outcome α → Prop) (a : α) :
    (Pure.pure a : Prog S α).All Q ↔ Q [] (.done a) := Iff.rfl

@[simp] theorem All_abort (Q : List S.Op → Outcome α → Prop) (m : String) :
    (Prog.abort m : Prog S α).All Q ↔ Q [] (.aborted m) := Iff.rfl

theorem All_mono {Q Q' : List S.Op → Outcome α → Prop} (hQ : ∀ t x, Q t x → Q' t x)
    {p : Prog S α} (hp : p.All Q) : p.All Q' := by
  induction p generalizing Q Q' with
  | pure a => exact hQ _ _ hp
  | op o k ih => exact fun r => ih r (fun t x => hQ (o :: t) x) (hp r)
  | abort m => exact hQ _ _ hp

/-- What a sequenced program guarantees, from what its first part returns. -/
def Then (Q : List S.Op → Outcome β → Prop) (f : α → Prog S β) (t : List S.Op) :
    Outcome α → Prop
  | .done a => (f a).All (fun t' y => Q (t ++ t') y)
  | .aborted m => Q t (.aborted m)

/-- **The sequencing rule.** -/
theorem All_bind (Q : List S.Op → Outcome β → Prop) (p : Prog S α) (f : α → Prog S β) :
    (p >>= f).All Q ↔ p.All (Then Q f) := by
  induction p generalizing Q with
  | pure a => exact Iff.rfl
  | op o k ih => exact forall_congr' fun r => ih r (fun t x => Q (o :: t) x)
  | abort m => exact Iff.rfl

/-- A run against any host is one of the paths. -/
theorem All_run {Q : List S.Op → Outcome α → Prop} {p : Prog S α} (hp : p.All Q)
    (h : Host S σ) (s : σ) : Q (p.run h s).trace (p.run h s).result := by
  induction p generalizing Q s with
  | pure a => exact hp
  | op o k ih => exact ih (h.answer o s).1 (hp (h.answer o s).1) (h.answer o s).2
  | abort m => exact hp

/-! ## Fixed answers -/

section Under

variable (answers : (o : S.Op) → S.Ans o)

/-- The outcome when every operation has a fixed answer. -/
def under : Prog S α → Outcome α
  | .pure a => .done a
  | .op o k => (k (answers o)).under
  | .abort m => .aborted m

variable {answers}

theorem under_bind {p : Prog S α} {a : α} (hp : p.under answers = .done a) (f : α → Prog S β) :
    (p >>= f).under answers = (f a).under answers := by
  induction p with
  | pure b =>
      cases hp
      rfl
  | op o k ih => exact ih (answers o) hp
  | abort m => cases hp

/-- A list of programs that each come to an answer comes to the list of them. -/
theorem under_mapM {f : α → Prog S β} {g : α → β} {l : List α}
    (h : ∀ a ∈ l, (f a).under answers = .done (g a)) :
    (l.mapM f).under answers = .done (l.map g) := by
  induction l with
  | nil => rfl
  | cons a l ih =>
      have hl := ih (fun b hb => h b (List.mem_cons_of_mem a hb))
      rw [List.mapM_cons, under_bind (h a List.mem_cons_self), under_bind hl]
      rfl

/-- A host that gives these answers runs the program to its outcome under them. -/
theorem result_run_under {h : Host S σ} (hanswers : ∀ o s, (h.answer o s).1 = answers o)
    (p : Prog S α) (s : σ) : (p.run h s).result = p.under answers := by
  induction p generalizing s with
  | pure a => rfl
  | op o k ih =>
      rw [run_op, under, ← hanswers o s]
      exact ih _ _
  | abort m => rfl

end Under

/-! ### Properties of the returned value alone -/

/-- Every path returns, and returns a value that satisfies `P`. -/
def Returns (P : α → Prop) (p : Prog S α) : Prop :=
  p.All (fun _ x => ∃ a, x = .done a ∧ P a)

@[simp] theorem Returns_pure (P : α → Prop) (a : α) :
    (Pure.pure a : Prog S α).Returns P ↔ P a := by
  simp [Returns]

theorem Returns.value {P : α → Prop} {a : α} (h : P a) :
    (Pure.pure a : Prog S α).Returns P :=
  (Returns_pure P a).mpr h

@[simp] theorem not_Returns_abort (P : α → Prop) (m : String) :
    ¬ (Prog.abort m : Prog S α).Returns P := by
  simp [Returns]

theorem Returns.mono {P P' : α → Prop} (hP : ∀ a, P a → P' a) {p : Prog S α}
    (hp : p.Returns P) : p.Returns P' :=
  All_mono (fun _ _ ⟨a, hx, ha⟩ => ⟨a, hx, hP a ha⟩) hp

theorem Returns.bind {P : α → Prop} {P' : β → Prop} {p : Prog S α} {f : α → Prog S β}
    (hp : p.Returns P) (hf : ∀ a, P a → (f a).Returns P') : (p >>= f).Returns P' := by
  refine (All_bind _ p f).mpr (All_mono ?_ hp)
  rintro t x ⟨a, rfl, ha⟩
  exact hf a ha

theorem Returns.run {P : α → Prop} {p : Prog S α} (hp : p.Returns P) (h : Host S σ) (s : σ) :
    ∃ a, (p.run h s).result = .done a ∧ P a :=
  All_run hp h s

/-- A list of programs returns a list of answers, each related to what it was asked for. -/
theorem Returns.mapM {R : α → β → Prop} {f : α → Prog S β} (hf : ∀ a, (f a).Returns (R a))
    (l : List α) : (l.mapM f).Returns (fun answers => List.Forall₂ R l answers) := by
  induction l with
  | nil => exact Returns.value .nil
  | cons a l ih =>
      rw [List.mapM_cons]
      refine (hf a).bind fun b hb => ih.bind fun bs hbs => ?_
      exact Returns.value (.cons hb hbs)

/-! ## Interpretation -/

/-- Replace every operation by a program over another signature. -/
def interp (f : (o : S.Op) → Prog T (S.Ans o)) : Prog S α → Prog T α
  | .pure a => .pure a
  | .op o k => f o >>= fun r => (k r).interp f
  | .abort m => .abort m

/-- Interpret the left operations of a sum; the right ones are passed through. -/
def interpLeft (f : (o : S.Op) → Prog (T.sum U) (S.Ans o)) : Prog (S.sum U) α → Prog (T.sum U) α :=
  interp fun
    | .inl o => f o
    | .inr o => call (S := T.sum U) (.inr o)

/-- Interpretation keeps what a program returns, when every operation's program returns. -/
theorem Returns.interp {P : α → Prop} {f : (o : S.Op) → Prog T (S.Ans o)}
    (hf : ∀ o, (f o).Returns (fun _ => True)) {p : Prog S α} (hp : p.Returns P) :
    (p.interp f).Returns P := by
  induction p with
  | pure a => exact hp
  | op o k ih => exact (hf o).bind fun r _ => ih r (hp r)
  | abort m => exact absurd hp (not_Returns_abort P m)

/-- Programs that ask for left operations only. -/
def inLeft (p : Prog S α) : Prog (S.sum T) α :=
  interp (fun o => call (S := S.sum T) (.inl o)) p

theorem All_inLeft (Q : List (S.sum T).Op → Outcome α → Prop) (p : Prog S α) :
    (p.inLeft (T := T)).All Q ↔ p.All (fun t x => Q (t.map .inl) x) := by
  induction p generalizing Q with
  | pure a => exact Iff.rfl
  | op o k ih => exact forall_congr' fun r => ih r (fun t x => Q (.inl o :: t) x)
  | abort m => exact Iff.rfl

/-- Of the answers to both signatures such a program needs the left ones only. -/
theorem under_inLeft (answers : (o : (S.sum T).Op) → (S.sum T).Ans o) (p : Prog S α) :
    (p.inLeft (T := T)).under answers = p.under (fun o => answers (.inl o)) := by
  induction p with
  | pure a => rfl
  | op o k ih => exact ih (answers (.inl o))
  | abort m => rfl

end Prog
end Lib
