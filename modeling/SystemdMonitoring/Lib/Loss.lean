/-
# `SystemdMonitoring.Lib.Loss` — programs whose answers have suffered

A `Loss` says which answers may be given in place of which: a failure in place of
anything, a part in place of the whole.  A program that is given such answers
instead of the sound ones may take another path, and it is what it returns at
the end of it that is held against the sound outcome.

    p.Suffers loss sound P       every path along answers with losses returns,
                                 and a value that satisfies P
    Short loss sound R p p'      what p returns in spite of losses is R-short of
                                 what p' returns under the sound answers
    ShortOk loss sound R p p'    the same of what p returns without an error,
                                 for programs that may fail

Each has the rules of sequencing, and `AtMost` is the relation between two
answers that may be failures: a failure falls short of everything, and nothing
but a failure falls short of a failure.
-/
import Mathlib.Data.List.Forall2
import SystemdMonitoring.Lib.Except
import SystemdMonitoring.Lib.Prog

namespace Lib

variable {S : Sig} {σ α α' β β' ε ε' : Type}

/-! ## Failures -/

/-- A value falls short of a value by `R`, a failure of everything. -/
def AtMost (R : α → α' → Prop) (x : Except ε α) (y : Except ε' α') : Prop :=
  ∀ a, x = .ok a → ∃ a', y = .ok a' ∧ R a a'

namespace AtMost

variable {R : α → α' → Prop} {R' : β → β' → Prop}

theorem ok {a : α} {a' : α'} (h : R a a') :
    AtMost R (.ok a : Except ε α) (.ok a' : Except ε' α') := by
  intro b hb
  cases hb
  exact ⟨a', rfl, h⟩

theorem error (e : ε) (y : Except ε' α') : AtMost R (.error e : Except ε α) y := by
  intro b hb
  cases hb

theorem refl (x : Except ε α) : AtMost Eq x x := fun a ha => ⟨a, ha, rfl⟩

theorem mono {Q : α → α' → Prop} (hQ : ∀ a a', R a a' → Q a a') {x : Except ε α}
    {y : Except ε' α'} (h : AtMost R x y) : AtMost Q x y := by
  intro a ha
  obtain ⟨a', ha', hR⟩ := h a ha
  exact ⟨a', ha', hQ a a' hR⟩

theorem bind {x : Except ε α} {y : Except ε' α'} (h : AtMost R x y) {f : α → Except ε β}
    {f' : α' → Except ε' β'} (hf : ∀ a a', R a a' → AtMost R' (f a) (f' a')) :
    AtMost R' (x >>= f) (y >>= f') := by
  intro b hb
  obtain ⟨a, rfl, hfa⟩ := bind_eq_ok.mp hb
  obtain ⟨a', rfl, hR⟩ := h a rfl
  exact hf a a' hR b hfa

theorem mapError {δ δ' : Type} {x : Except ε α} {y : Except ε' α'} (h : AtMost R x y)
    (f : ε → δ) (f' : ε' → δ') : AtMost R (x.mapError f) (y.mapError f') := by
  intro a ha
  obtain ⟨a', rfl, hR⟩ := h a (mapError_eq_ok_iff.mp ha)
  exact ⟨a', rfl, hR⟩

/-- What has not been lost is there. -/
theorem toOption_eq_some {x : Except ε α} {y : Except ε' α} (h : AtMost Eq x y) {a : α}
    (hx : x.toOption = some a) : y.toOption = some a := by
  cases x with
  | error e => cases hx
  | ok b =>
      cases hx
      obtain ⟨a', rfl, rfl⟩ := h a rfl
      rfl

end AtMost

/-! ## Programs -/

/-- `loss o given sound`: the one answer may be given instead of the other. -/
abbrev Loss (S : Sig) : Type := (o : S.Op) → S.Ans o → S.Ans o → Prop

namespace Prog

section Suffers

variable (loss : Loss S) (sound : (o : S.Op) → S.Ans o)

/-- Whatever is lost of the sound answers, the program returns a value that satisfies `P`. -/
def Suffers (P : α → Prop) : Prog S α → Prop
  | .pure a => P a
  | .op o k => ∀ r, loss o r (sound o) → (k r).Suffers P
  | .abort _ => False

variable {loss sound} {P : α → Prop} {Q : β → Prop}

theorem Suffers.mono {P' : α → Prop} (hP : ∀ a, P a → P' a) {p : Prog S α}
    (h : p.Suffers loss sound P) : p.Suffers loss sound P' := by
  induction p with
  | pure a => exact hP a h
  | op o k ih => exact fun r hr => ih r (h r hr)
  | abort m => exact h

theorem Suffers.bind {p : Prog S α} {f : α → Prog S β} (h : p.Suffers loss sound P)
    (hf : ∀ a, P a → (f a).Suffers loss sound Q) : (p >>= f).Suffers loss sound Q := by
  induction p with
  | pure a => exact hf a h
  | op o k ih => exact fun r hr => ih r (h r hr)
  | abort m => exact h.elim

/-- A run on a host that loses answers is one of the paths. -/
theorem Suffers.run {p : Prog S α} (h : p.Suffers loss sound P) {host : Host S σ}
    (hloss : ∀ o s, loss o (host.answer o s).1 (sound o)) (s : σ) :
    ∃ a, (p.run host s).result = .done a ∧ P a := by
  induction p generalizing s with
  | pure a => exact ⟨a, rfl, h⟩
  | op o k ih => exact ih _ (h _ (hloss o s)) _
  | abort m => exact h.elim

end Suffers

/-- What returns on every path returns under any answers. -/
theorem Returns.under {P : α → Prop} {p : Prog S α} (h : p.Returns P)
    (answers : (o : S.Op) → S.Ans o) : ∃ a, p.under answers = .done a ∧ P a := by
  induction p with
  | pure a => exact ⟨a, rfl, (Returns_pure P a).mp h⟩
  | op o k ih => exact ih (answers o) (h (answers o))
  | abort m => exact absurd h (not_Returns_abort P m)

/-! ## Falling short -/

section Short

variable (loss : Loss S) (sound : (o : S.Op) → S.Ans o)

/-- What the one program returns in spite of losses is short of the other's sound outcome. -/
def Short (R : α → α' → Prop) (p : Prog S α) (p' : Prog S α') : Prop :=
  p.Suffers loss sound (fun a => ∃ a', p'.under sound = .done a' ∧ R a a')

/-- What the one program returns without an error, in spite of losses, the other returns, too, and
it is short of that. -/
def ShortOk (R : α → α' → Prop) (p : ExceptT ε (Prog S) α) (p' : ExceptT ε' (Prog S) α') : Prop :=
  p.run.Suffers loss sound (fun answer => ∀ a, answer = .ok a →
    ∃ a', p'.run.under sound = .done (.ok a') ∧ R a a')

variable {loss sound} {R : α → α' → Prop} {R' : β → β' → Prop}

namespace Short

theorem value {a : α} {a' : α'} (h : R a a') :
    Short loss sound R (Pure.pure a : Prog S α) (Pure.pure a' : Prog S α') :=
  ⟨a', rfl, h⟩

theorem call (o : S.Op) : Short loss sound (loss o) (Prog.call o) (Prog.call o) :=
  fun _ hr => ⟨sound o, rfl, hr⟩

theorem mono {Q : α → α' → Prop} (hQ : ∀ a a', R a a' → Q a a') {p : Prog S α}
    {p' : Prog S α'} (h : Short loss sound R p p') : Short loss sound Q p p' := by
  refine Suffers.mono ?_ h
  rintro a ⟨a', ha', hR⟩
  exact ⟨a', ha', hQ a a' hR⟩

theorem bind {p : Prog S α} {p' : Prog S α'} (h : Short loss sound R p p') {f : α → Prog S β}
    {f' : α' → Prog S β'} (hf : ∀ a a', R a a' → Short loss sound R' (f a) (f' a')) :
    Short loss sound R' (p >>= f) (p' >>= f') := by
  refine Suffers.bind h ?_
  rintro a ⟨a', ha', hR⟩
  rw [under_bind ha' f']
  exact hf a a' hR

/-- It is the sound outcome that the relation is about. -/
theorem outcome {p : Prog S α} {p' : Prog S α'} (h : Short loss sound R p p') :
    Short loss sound (fun a a' => R a a' ∧ p'.under sound = .done a') p p' := by
  refine Suffers.mono ?_ h
  rintro a ⟨a', ha', hR⟩
  exact ⟨a', ha', hR, ha'⟩

/-- What has been lost beforehand is not asked for; what is sound asks for everything. -/
theorem of_left {a : α} {p' : Prog S α'} (h : p'.Returns (R a)) :
    Short loss sound R (Pure.pure a : Prog S α) p' :=
  h.under sound

/-- Of a list of programs some are left out. -/
theorem mapM_sublist {γ : Type} {f : γ → Prog S β} {f' : γ → Prog S β'} {l l' : List γ}
    (hsub : l.Sublist l') (hreturns : ∀ c, (f' c).Returns (fun _ => True))
    (hf : ∀ c ∈ l', Short loss sound R' (f c) (f' c)) :
    Short loss sound (List.SublistForall₂ R') (l.mapM f) (l'.mapM f') := by
  induction hsub with
  | slnil => exact value .nil
  | @cons l l' c hsub ih =>
      obtain ⟨b', hb', -⟩ := (hreturns c).under sound
      rw [List.mapM_cons, Short, under_bind hb']
      refine Suffers.mono ?_ (ih fun d hd => hf d (List.mem_cons_of_mem c hd))
      rintro bs ⟨bs', hbs', hR⟩
      exact ⟨b' :: bs', under_bind hbs' _, .cons_right hR⟩
  | @cons_cons l l' c hsub ih =>
      rw [List.mapM_cons, List.mapM_cons]
      refine bind (hf c List.mem_cons_self) ?_
      intro b b' hb
      refine bind (ih fun d hd => hf d (List.mem_cons_of_mem c hd)) ?_
      intro bs bs' hbs
      exact value (.cons hb hbs)

theorem mapM {γ : Type} {f : γ → Prog S β} {f' : γ → Prog S β'} {l : List γ}
    (hf : ∀ c ∈ l, Short loss sound R' (f c) (f' c)) :
    Short loss sound (List.Forall₂ R') (l.mapM f) (l.mapM f') := by
  induction l with
  | nil => exact value .nil
  | cons c l ih =>
      rw [List.mapM_cons, List.mapM_cons]
      refine bind (hf c List.mem_cons_self) ?_
      intro b b' hb
      refine bind (ih fun d hd => hf d (List.mem_cons_of_mem c hd)) ?_
      intro bs bs' hbs
      exact value (.cons hb hbs)

end Short

namespace ShortOk

theorem of_short {p : ExceptT ε (Prog S) α} {p' : ExceptT ε' (Prog S) α'}
    (h : Short loss sound (AtMost R) p.run p'.run) : ShortOk loss sound R p p' := by
  refine Suffers.mono ?_ h
  rintro answer ⟨answer', hanswer', hR⟩ a rfl
  obtain ⟨a', rfl, ha⟩ := hR a rfl
  exact ⟨a', hanswer', ha⟩

/-- The other direction, when there is a sound outcome in any case. -/
theorem short {p : ExceptT ε (Prog S) α} {p' : ExceptT ε' (Prog S) α'}
    (h : ShortOk loss sound R p p') (hreturns : p'.run.Returns (fun _ => True)) :
    Short loss sound (AtMost R) p.run p'.run := by
  obtain ⟨answer', hanswer', -⟩ := hreturns.under sound
  refine Suffers.mono ?_ h
  intro answer ha
  refine ⟨answer', hanswer', ?_⟩
  intro a hok
  obtain ⟨a', ha', hR⟩ := ha a hok
  rw [hanswer'] at ha'
  cases ha'
  exact ⟨a', rfl, hR⟩

theorem value {a : α} {a' : α'} (h : R a a') :
    ShortOk loss sound R (Pure.pure a : ExceptT ε (Prog S) α)
      (Pure.pure a' : ExceptT ε' (Prog S) α') :=
  of_short (.value (.ok h))

/-- What fails falls short of everything. -/
theorem throw (e : ε) (p' : ExceptT ε' (Prog S) α') :
    ShortOk loss sound R (MonadExcept.throw e : ExceptT ε (Prog S) α) p' := by
  intro a ha
  cases ha

theorem mono {Q : α → α' → Prop} (hQ : ∀ a a', R a a' → Q a a') {p : ExceptT ε (Prog S) α}
    {p' : ExceptT ε' (Prog S) α'} (h : ShortOk loss sound R p p') : ShortOk loss sound Q p p' := by
  refine Suffers.mono ?_ h
  intro answer hanswer a ha
  obtain ⟨a', ha', hR⟩ := hanswer a ha
  exact ⟨a', ha', hQ a a' hR⟩

theorem bind {p : ExceptT ε (Prog S) α} {p' : ExceptT ε' (Prog S) α'}
    (h : ShortOk loss sound R p p') {f : α → ExceptT ε (Prog S) β}
    {f' : α' → ExceptT ε' (Prog S) β'} (hf : ∀ a a', R a a' → ShortOk loss sound R' (f a) (f' a')) :
    ShortOk loss sound R' (p >>= f) (p' >>= f') := by
  rw [ShortOk, ExceptT.run_bind, ExceptT.run_bind]
  refine Suffers.bind h ?_
  intro answer hanswer
  cases answer with
  | error e =>
      intro b hb
      cases hb
  | ok a =>
      obtain ⟨a', ha', hR⟩ := hanswer a rfl
      rw [under_bind ha']
      exact hf a a' hR

/-- A program that cannot fail, among those that may. -/
theorem lift {p : Prog S α} {p' : Prog S α'} (h : Short loss sound R p p') :
    ShortOk loss sound R (ExceptT.lift p : ExceptT ε (Prog S) α)
      (ExceptT.lift p' : ExceptT ε' (Prog S) α') := by
  refine of_short ?_
  refine Short.bind h ?_
  intro a a' hR
  exact .value (.ok hR)

end ShortOk

end Short

end Prog
end Lib
