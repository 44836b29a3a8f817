/-
# `SystemdMonitoring.Lib.Policy` — what a program may ask for, given what it has been told

A policy judges an operation by the history that it comes after: a handle may be
used once it has been handed out, say.  `p.Within policy before` says that all
operations on all paths of `p` are allowed, when it goes on from that history.

The rules follow the program.  That of sequencing hands the second part what the
first has asked for and been told (`Within.bind`), so that a value can be traced
to the answer that it comes from.  In the end all that a task has asked for in a
schedule was allowed at that point, whether it has come to a value or not
(`Within.leads`).
-/
import SystemdMonitoring.Lib.Replay

namespace Lib

variable {S T : Sig} {α β : Type}

/-- Allowed operations only, behind that history. -/
def Prog.Within (policy : List (Exchange S) → S.Op → Prop) :
    List (Exchange S) → Prog S α → Prop
  | _, .pure _ => True
  | before, .op o k => policy before o ∧ ∀ r, Prog.Within policy (before ++ [⟨o, r⟩]) (k r)
  | _, .abort _ => True

namespace Prog

variable {policy : List (Exchange S) → S.Op → Prop} {before : List (Exchange S)}

theorem Within.call {o : S.Op} (h : policy before o) : Within policy before (Prog.call o) :=
  ⟨h, fun _ => trivial⟩

/-- **The sequencing rule.** -/
theorem Within.bind {p : Prog S α} {f : α → Prog S β} (hp : Within policy before p)
    (hf : ∀ a history, p.Leads history (Pure.pure a) →
      Within policy (before ++ history) (f a)) : Within policy before (p >>= f) := by
  induction p generalizing before with
  | pure a =>
      have h := hf a [] (.refl _)
      rwa [List.append_nil] at h
  | op o k ih =>
      refine ⟨hp.1, ?_⟩
      intro r
      refine ih r (hp.2 r) ?_
      intro a history hleads
      rw [List.append_assoc]
      exact hf a _ (.op hleads)
  | abort msg => trivial

/-- A list of programs that are allowed whatever more has happened. -/
theorem Within.mapM {f : α → Prog S β} {l : List α}
    (h : ∀ a ∈ l, ∀ history, Within policy (before ++ history) (f a)) :
    Within policy before (l.mapM f) := by
  induction l generalizing before with
  | nil => trivial
  | cons a l ih =>
      obtain ⟨ha, hl⟩ := List.forall_mem_cons.mp h
      rw [List.mapM_cons]
      have hfirst := ha []
      rw [List.append_nil] at hfirst
      refine hfirst.bind ?_
      intro b history _
      refine Within.bind (ih ?_) fun bs _ _ => trivial
      intro a' ha' more
      rw [List.append_assoc]
      exact hl a' ha' _

/-- Operations in whose place are programs that are allowed at any time. -/
theorem Within.interp {policy : List (Exchange T) → T.Op → Prop} {before : List (Exchange T)}
    {P : S.Op → Prop} {f : (o : S.Op) → Prog T (S.Ans o)}
    (hf : ∀ o, P o → ∀ before, Within policy before (f o)) {p : Prog S α} (hp : p.Only P) :
    Within policy before (p.interp f) := by
  induction p generalizing before with
  | pure a => trivial
  | op o k ih => exact Within.bind (hf o hp.1 before) fun r history _ => ih r (hp.2 r)
  | abort msg => trivial

/-- **What a program has asked for was allowed at that point.** -/
theorem Within.leads {p p' : Prog S α} {history : List (Exchange S)} (h : p.Leads history p')
    (hp : Within policy before p) :
    ∀ first exchange rest, history = first ++ exchange :: rest →
      policy (before ++ first) exchange.1 := by
  induction h generalizing before with
  | refl p =>
      intro first exchange rest heq
      exact absurd heq.symm (List.append_ne_nil_of_right_ne_nil _ (List.cons_ne_nil _ _))
  | @op o k r history p' _ ih =>
      rintro (_ | ⟨e, first⟩) exchange rest heq
      · cases heq
        rw [List.append_nil]
        exact hp.1
      · cases heq
        have hrest := ih (hp.2 r) first exchange rest rfl
        rw [List.append_assoc] at hrest
        exact hrest

end Prog

end Lib
