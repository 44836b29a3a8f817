/-
# `SystemdMonitoring.Lib.Coupling` — two runs side by side

Two programs are coupled when they go in step: whatever one of them asks for, the
other asks for something like it, and after like answers they are coupled again;
what they come to is related by `R`.  A `Likeness` says which operations and
which answers are alike.

The rules follow the ways in which programs are put together (`Coupled.bind`,
`Coupled.mapM`, `Coupled.interp`), so that it is enough to look at the operations
whose answers may really differ.  Coupled tasks on hosts that give like answers
stay coupled in every schedule (`Pool.Coupled.run`); a task that has come to its
value on one of them has come to a related one on the other.
-/
import Mathlib.Data.List.Forall2
import SystemdMonitoring.Lib.Pool

namespace Lib

variable {S T : Sig} {τ σ σ' α α' β β' : Type}

/-- Which operations go together, and which answers to them. -/
structure Likeness (S : Sig) where
  ops : S.Op → S.Op → Prop
  exchanges : Exchange S → Exchange S → Prop

/-- The same operation, with related answers. -/
inductive SameOp (V : (o : S.Op) → S.Ans o → S.Ans o → Prop) : Exchange S → Exchange S → Prop where
  | mk {o : S.Op} {r r' : S.Ans o} (h : V o r r') : SameOp V ⟨o, r⟩ ⟨o, r'⟩

theorem sameOp_iff {V : (o : S.Op) → S.Ans o → S.Ans o → Prop} {o : S.Op} {r r' : S.Ans o} :
    SameOp V ⟨o, r⟩ ⟨o, r'⟩ ↔ V o r r' := by
  constructor
  · intro h
    cases h with
    | mk h => exact h
  · exact .mk

/-- Likeness of the same operations. -/
def Likeness.same (V : (o : S.Op) → S.Ans o → S.Ans o → Prop) : Likeness S where
  ops := Eq
  exchanges := SameOp V

/-- Likeness on each side of a sum. -/
inductive SumAlike (L : Likeness S) (M : Likeness T) :
    Exchange (S.sum T) → Exchange (S.sum T) → Prop where
  | left {o o' : S.Op} {r : S.Ans o} {r' : S.Ans o'} (h : L.exchanges ⟨o, r⟩ ⟨o', r'⟩) :
      SumAlike L M ⟨.inl o, r⟩ ⟨.inl o', r'⟩
  | right {o o' : T.Op} {r : T.Ans o} {r' : T.Ans o'} (h : M.exchanges ⟨o, r⟩ ⟨o', r'⟩) :
      SumAlike L M ⟨.inr o, r⟩ ⟨.inr o', r'⟩

def Likeness.sum (L : Likeness S) (M : Likeness T) : Likeness (S.sum T) where
  ops := Sum.LiftRel L.ops M.ops
  exchanges := SumAlike L M

theorem sumAlike_inl {L : Likeness S} {M : Likeness T} {o o' : S.Op} {r : S.Ans o}
    {r' : S.Ans o'} (h : SumAlike L M ⟨.inl o, r⟩ ⟨.inl o', r'⟩) :
    L.exchanges ⟨o, r⟩ ⟨o', r'⟩ := by
  cases h with
  | left h => exact h

theorem sumAlike_inr {L : Likeness S} {M : Likeness T} {o o' : T.Op} {r : T.Ans o}
    {r' : T.Ans o'} (h : SumAlike L M ⟨.inr o, r⟩ ⟨.inr o', r'⟩) :
    M.exchanges ⟨o, r⟩ ⟨o', r'⟩ := by
  cases h with
  | right h => exact h

/-- Programs that go in step, and come to related values. -/
inductive Prog.Coupled (L : Likeness S) (R : α → α' → Prop) : Prog S α → Prog S α' → Prop where
  | pure {a : α} {a' : α'} (h : R a a') : Coupled L R (.pure a) (.pure a')
  | op {o o' : S.Op} {k : S.Ans o → Prog S α} {k' : S.Ans o' → Prog S α'} (ho : L.ops o o')
      (hk : ∀ r r', L.exchanges ⟨o, r⟩ ⟨o', r'⟩ → Coupled L R (k r) (k' r')) :
      Coupled L R (.op o k) (.op o' k')
  | abort (msg : String) : Coupled L R (.abort msg) (.abort msg)

namespace Prog

variable {L : Likeness S} {R : α → α' → Prop}

theorem Coupled.value {a : α} {a' : α'} (h : R a a') :
    Coupled L R (Pure.pure a : Prog S α) (Pure.pure a') :=
  .pure h

theorem Coupled.mono {R' : α → α' → Prop} (hR : ∀ a a', R a a' → R' a a') {p : Prog S α}
    {p' : Prog S α'} (h : Coupled L R p p') : Coupled L R' p p' := by
  induction h with
  | pure h => exact .pure (hR _ _ h)
  | op ho _ ih => exact .op ho ih
  | abort msg => exact .abort msg

/-- **The sequencing rule.** -/
theorem Coupled.bind {R' : β → β' → Prop} {p : Prog S α} {p' : Prog S α'} {f : α → Prog S β}
    {f' : α' → Prog S β'} (hp : Coupled L R p p')
    (hf : ∀ a a', R a a' → Coupled L R' (f a) (f' a')) : Coupled L R' (p >>= f) (p' >>= f') := by
  induction hp with
  | pure h => exact hf _ _ h
  | op ho _ ih => exact .op ho ih
  | abort msg => exact .abort msg

/-- A list of programs, one after the other. -/
theorem Coupled.mapM {f : β → Prog S α} {f' : β → Prog S α'} {l : List β}
    (h : ∀ b ∈ l, Coupled L R (f b) (f' b)) :
    Coupled L (List.Forall₂ R) (l.mapM f) (l.mapM f') := by
  induction l with
  | nil => exact .value .nil
  | cons b l ih =>
      obtain ⟨hb, hl⟩ := List.forall_mem_cons.mp h
      rw [List.mapM_cons, List.mapM_cons]
      refine hb.bind fun a a' ha => (ih hl).bind fun as as' has => ?_
      exact .value (.cons ha has)

/-- An operation by itself. -/
theorem Coupled.call {V : (o : S.Op) → S.Ans o → S.Ans o → Prop} (o : S.Op) :
    Coupled (Likeness.same V) (V o) (Prog.call o) (Prog.call o) := by
  refine .op rfl ?_
  intro r r' h
  exact .pure (sameOp_iff.mp h)

/-- Replacing like operations by coupled programs keeps programs coupled. -/
theorem Coupled.interp {M : Likeness T} {f : (o : S.Op) → Prog T (S.Ans o)}
    (hf : ∀ o o', L.ops o o' →
      Coupled M (fun r r' => L.exchanges ⟨o, r⟩ ⟨o', r'⟩) (f o) (f o'))
    {p : Prog S α} {p' : Prog S α'} (h : Coupled L R p p') :
    Coupled M R (p.interp f) (p'.interp f) := by
  induction h with
  | pure h => exact .pure h
  | op ho _ ih => exact (hf _ _ ho).bind fun r r' hr => ih r r' hr
  | abort msg => exact .abort msg

/-- Programs over one side of a sum. -/
theorem Coupled.inLeft {M : Likeness T} {p : Prog S α} {p' : Prog S α'} (h : Coupled L R p p') :
    Coupled (L.sum M) R (p.inLeft (T := T)) (p'.inLeft (T := T)) := by
  refine h.interp ?_
  intro o o' ho
  exact .op (.inl ho) fun r r' hr => .pure (sumAlike_inl hr)

/-- Like operations by themselves, on the other side. -/
theorem Coupled.right {M : Likeness T} {o o' : T.Op} (ho : M.ops o o') :
    Coupled (L.sum M) (fun r r' => M.exchanges ⟨o, r⟩ ⟨o', r'⟩)
      (Prog.call (S := S.sum T) (.inr o)) (Prog.call (S := S.sum T) (.inr o')) := by
  refine .op (.inr ho) ?_
  intro r r' hr
  exact .pure (sumAlike_inr hr)

/-- Of two programs that come to the same value, one has come to it when the other has. -/
theorem Coupled.pure_iff {p p' : Prog S α} (h : Coupled L Eq p p') (a : α) :
    p = Pure.pure a ↔ p' = Pure.pure a := by
  cases h with
  | pure h =>
      subst h
      rfl
  | op _ _ => exact iff_of_false (by rintro ⟨⟩) (by rintro ⟨⟩)
  | abort msg => rfl

end Prog

/-! ## Failures -/

/-- The same value, or errors that are alike. -/
inductive AlikeExcept {ε : Type} (E : ε → ε → Prop) {α : Type} :
    Except ε α → Except ε α → Prop where
  | ok (a : α) : AlikeExcept E (.ok a) (.ok a)
  | error {e e' : ε} (h : E e e') : AlikeExcept E (.error e) (.error e')

section Failures

variable {ε δ : Type} {E : ε → ε → Prop}

theorem AlikeExcept.bind {x x' : Except ε α} (h : AlikeExcept E x x') {f f' : α → Except ε β}
    (hf : ∀ a, AlikeExcept E (f a) (f' a)) : AlikeExcept E (x >>= f) (x' >>= f') := by
  cases h with
  | ok a => exact hf a
  | error h => exact .error h

theorem AlikeExcept.mapError {D : δ → δ → Prop} {x x' : Except ε α} (h : AlikeExcept E x x')
    {f f' : ε → δ} (hf : ∀ e e', E e e' → D (f e) (f' e')) :
    AlikeExcept D (x.mapError f) (x'.mapError f') := by
  cases h with
  | ok a => exact .ok a
  | error h => exact .error (hf _ _ h)

theorem AlikeExcept.toOption_eq {x x' : Except ε α} (h : AlikeExcept E x x') :
    x.toOption = x'.toOption := by
  cases h <;> rfl

theorem AlikeExcept.refl (hE : ∀ e, E e e) (x : Except ε α) : AlikeExcept E x x := by
  cases x with
  | ok a => exact .ok a
  | error e => exact .error (hE e)

/-- Sequencing in programs that may fail. -/
theorem Prog.Coupled.andThen {L : Likeness S} {p p' : ExceptT ε (Prog S) α}
    {f f' : α → ExceptT ε (Prog S) β} (hp : Prog.Coupled L (AlikeExcept E) p.run p'.run)
    (hf : ∀ a, Prog.Coupled L (AlikeExcept E) (f a).run (f' a).run) :
    Prog.Coupled L (AlikeExcept E) (p >>= f).run (p' >>= f').run := by
  rw [ExceptT.run_bind, ExceptT.run_bind]
  refine hp.bind ?_
  intro answer answer' h
  cases h with
  | ok a => exact hf a
  | error h => exact .value (.error h)

/-- A program that cannot fail, before one that may. -/
theorem Prog.Coupled.liftThen {L : Likeness S} {R : α → α → Prop}
    {R' : Except ε β → Except ε β → Prop} {p p' : Prog S α} {f f' : α → ExceptT ε (Prog S) β}
    (hp : Prog.Coupled L R p p')
    (hf : ∀ a a', R a a' → Prog.Coupled L R' (f a).run (f' a').run) :
    Prog.Coupled L R' (ExceptT.lift p >>= f).run (ExceptT.lift p' >>= f').run := by
  have hrun : ∀ (p : Prog S α) (f : α → ExceptT ε (Prog S) β),
      (ExceptT.lift p >>= f).run = p >>= fun a => (f a).run := by
    intro p f
    rw [ExceptT.run_bind, ExceptT.run_lift, map_eq_pure_bind, bind_assoc]
    rfl
  rw [hrun, hrun]
  exact hp.bind hf

end Failures

/-! ## Hosts and pools -/

/-- Two hosts that give like answers to like operations, as long as what they remember is related,
and keep it so. -/
def Likeness.Hosts (L : Likeness S) (R : σ → σ' → Prop) (hosts : τ → Host S σ)
    (hosts' : τ → Host S σ') : Prop :=
  ∀ stamp o o' s s', L.ops o o' → R s s' →
    L.exchanges ⟨o, ((hosts stamp).answer o s).1⟩ ⟨o', ((hosts' stamp).answer o' s').1⟩
      ∧ R ((hosts stamp).answer o s).2 ((hosts' stamp).answer o' s').2

/-- Two pools whose tasks are coupled, on hosts that remember related things. -/
structure Pool.Coupled (L : Likeness S) (Rs : σ → σ' → Prop) (R : α → α' → Prop)
    (pool : Pool S σ α) (pool' : Pool S σ' α') : Prop where
  state : Rs pool.state pool'.state
  tasks : ∀ i : Nat, Option.Rel (Prog.Coupled L R) pool.tasks[i]? pool'.tasks[i]?

/-- The same turn, with like exchanges. -/
structure Event.Like (L : Likeness S) (event event' : Event S τ) : Prop where
  task : event.task = event'.task
  stamp : event.stamp = event'.stamp
  exchange : L.exchanges event.exchange event'.exchange

variable {L : Likeness S} {Rs : σ → σ' → Prop} {R : α → α' → Prop} {hosts : τ → Host S σ}
  {hosts' : τ → Host S σ'}

/-- A turn keeps programs coupled, and is alike on both sides. -/
theorem Prog.Coupled.turn (hhosts : L.Hosts Rs hosts hosts') {p : Prog S α} {p' : Prog S α'}
    (h : p.Coupled L R p') (stamp : τ) {s : σ} {s' : σ'} (hs : Rs s s') :
    List.Forall₂ L.exchanges (p.turn (hosts stamp) s).1.toList (p'.turn (hosts' stamp) s').1.toList
      ∧ (p.turn (hosts stamp) s).2.1.Coupled L R (p'.turn (hosts' stamp) s').2.1
      ∧ Rs (p.turn (hosts stamp) s).2.2 (p'.turn (hosts' stamp) s').2.2 := by
  cases h with
  | pure h => exact ⟨.nil, .pure h, hs⟩
  | op ho hk =>
      obtain ⟨hexchange, hnext⟩ := hhosts stamp _ _ s s' ho hs
      exact ⟨.cons hexchange .nil, hk _ _ hexchange, hnext⟩
  | abort msg => exact ⟨.nil, .abort msg, hs⟩

theorem Pool.Coupled.step (hhosts : L.Hosts Rs hosts hosts') {pool : Pool S σ α}
    {pool' : Pool S σ' α'} (h : pool.Coupled L Rs R pool') (turn : Nat × τ) :
    List.Forall₂ (Event.Like L) (pool.step hosts turn).1 (pool'.step hosts' turn).1
      ∧ (pool.step hosts turn).2.Coupled L Rs R (pool'.step hosts' turn).2 := by
  obtain ⟨j, stamp⟩ := turn
  have hj := h.tasks j
  cases hp : pool.tasks[j]? with
  | none =>
      cases hp' : pool'.tasks[j]? with
      | none =>
          simp only [Pool.step, hp, hp']
          exact ⟨.nil, h⟩
      | some p' => rw [hp, hp'] at hj; cases hj
  | some p =>
      cases hp' : pool'.tasks[j]? with
      | none => rw [hp, hp'] at hj; cases hj
      | some p' =>
          rw [hp, hp'] at hj
          cases hj with
          | some hj =>
              obtain ⟨hevents, hnext, hstate⟩ := hj.turn hhosts stamp h.state
              obtain ⟨htask, hs, -⟩ := Pool.step_same hosts hp stamp
              obtain ⟨htask', hs', -⟩ := Pool.step_same hosts' hp' stamp
              refine ⟨?_, by rw [hs, hs']; exact hstate, ?_⟩
              · simp only [Pool.step, hp, hp']
                rw [List.forall₂_map_left_iff, List.forall₂_map_right_iff]
                exact hevents.imp fun _ _ hexchange => ⟨rfl, rfl, hexchange⟩
              · intro i
                by_cases hij : j = i
                · subst hij
                  rw [htask, htask']
                  exact .some hnext
                · rw [(Pool.step_other hosts pool hij stamp).1,
                    (Pool.step_other hosts' pool' hij stamp).1]
                  exact h.tasks i

/-- **Coupled tasks stay coupled, in every schedule**, and their histories are alike. -/
theorem Pool.Coupled.run (hhosts : L.Hosts Rs hosts hosts') {pool : Pool S σ α}
    {pool' : Pool S σ' α'} (h : pool.Coupled L Rs R pool') (turns : List (Nat × τ)) :
    List.Forall₂ (Event.Like L) (pool.run hosts turns).1 (pool'.run hosts' turns).1
      ∧ (pool.run hosts turns).2.Coupled L Rs R (pool'.run hosts' turns).2 := by
  induction turns generalizing pool pool' with
  | nil => exact ⟨.nil, h⟩
  | cons turn turns ih =>
      obtain ⟨hfirst, hnext⟩ := h.step hhosts turn
      obtain ⟨hrest, hleft⟩ := ih hnext
      exact ⟨List.rel_append hfirst hrest, hleft⟩

end Lib
