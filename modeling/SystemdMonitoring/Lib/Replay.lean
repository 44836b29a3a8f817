/-
# `SystemdMonitoring.Lib.Replay` — from a history back to the program

A program is determined by what it has asked for and been told: `p.Leads history
p'` says that `p` comes to `p'` by this history.  In any schedule a task comes to
what is left of it by its own history (`Pool.run_leads`), so what can be said of
a finished task is said by taking its history apart along the program: one rule
for each way in which programs are put together.
-/
import SystemdMonitoring.Lib.Pool

namespace Lib

variable {S T : Sig} {τ σ α β : Type}

/-- The program comes to another one by a history. -/
inductive Prog.Leads : Prog S α → List (Exchange S) → Prog S α → Prop where
  | refl (p : Prog S α) : Leads p [] p
  | op {o : S.Op} {k : S.Ans o → Prog S α} {r : S.Ans o} {history : List (Exchange S)}
      {p' : Prog S α} (h : Leads (k r) history p') : Leads (.op o k) (⟨o, r⟩ :: history) p'

namespace Prog

theorem Leads.trans {p p' p'' : Prog S α} {before history : List (Exchange S)}
    (h : p.Leads before p') (h' : p'.Leads history p'') : p.Leads (before ++ history) p'' := by
  induction h with
  | refl p => exact h'
  | op _ ih => exact .op (ih h')

theorem Leads.bind {p p' : Prog S α} {history : List (Exchange S)} (h : p.Leads history p')
    (f : α → Prog S β) : (p >>= f).Leads history (p' >>= f) := by
  induction h with
  | refl p => exact .refl _
  | op _ ih => exact .op ih

/-- A turn is one step of the history, or none. -/
theorem leads_turn (p : Prog S α) (host : Host S σ) (s : σ) :
    p.Leads (p.turn host s).1.toList (p.turn host s).2.1 := by
  cases p with
  | op o k => exact .op (.refl _)
  | pure a => exact .refl _
  | abort msg => exact .refl _

/-! ## Taking a history apart -/

theorem Leads.pure_inv {a b : α} {history : List (Exchange S)}
    (h : (Pure.pure a : Prog S α).Leads history (Pure.pure b)) : history = [] ∧ a = b := by
  cases h with
  | refl => exact ⟨rfl, rfl⟩

theorem Leads.op_inv {o : S.Op} {k : S.Ans o → Prog S α} {b : α} {history : List (Exchange S)}
    (h : (Prog.op o k).Leads history (Pure.pure b)) :
    ∃ r rest, history = ⟨o, r⟩ :: rest ∧ (k r).Leads rest (Pure.pure b) := by
  cases h with
  | op hrest => exact ⟨_, _, rfl, hrest⟩

/-- The history of a sequence is one of its first part, and one of the rest. -/
theorem Leads.bind_inv {p : Prog S α} {f : α → Prog S β} {b : β} {history : List (Exchange S)}
    (h : (p >>= f).Leads history (Pure.pure b)) :
    ∃ a before rest, history = before ++ rest ∧ p.Leads before (Pure.pure a)
      ∧ (f a).Leads rest (Pure.pure b) := by
  induction p generalizing history with
  | pure a => exact ⟨a, [], history, rfl, .refl _, h⟩
  | op o k ih =>
      obtain ⟨r, rest, rfl, hrest⟩ := h.op_inv
      obtain ⟨a, before, after, rfl, hbefore, hafter⟩ := ih r hrest
      exact ⟨a, ⟨o, r⟩ :: before, after, rfl, .op hbefore, hafter⟩
  | abort msg => cases h

/-- The history of a program over one side of a sum is one of the program. -/
theorem Leads.inLeft_inv {p : Prog S α} {a : α} {history : List (Exchange (S.sum T))}
    (h : (p.inLeft (T := T)).Leads history (Pure.pure a)) :
    ∃ plain : List (Exchange S), p.Leads plain (Pure.pure a)
      ∧ history = plain.map fun exchange => ⟨.inl exchange.1, exchange.2⟩ := by
  induction p generalizing history with
  | pure b =>
      obtain ⟨rfl, rfl⟩ := Leads.pure_inv h
      exact ⟨[], .refl _, rfl⟩
  | op o k ih =>
      obtain ⟨r, rest, rfl, hrest⟩ := Leads.op_inv h
      obtain ⟨plain, hplain, rfl⟩ := ih r hrest
      exact ⟨⟨o, r⟩ :: plain, .op hplain, rfl⟩
  | abort msg => cases h

/-- What a program only asks for is all that is in its history. -/
theorem Leads.only {P : S.Op → Prop} {p p' : Prog S α} {history : List (Exchange S)}
    (h : p.Leads history p') (honly : p.Only P) : ∀ exchange ∈ history, P exchange.1 := by
  induction h with
  | refl p =>
      intro exchange hmem
      cases hmem
  | op _ ih => exact List.forall_mem_cons.mpr ⟨honly.1, ih (honly.2 _)⟩

/-! ## Values -/

/-- Whatever value a program comes to satisfies `P`; it may as well stop. -/
def Ends (P : α → Prop) (p : Prog S α) : Prop := p.All fun _ x => ∀ a, x = .done a → P a

theorem Ends.value {P : α → Prop} {a : α} (h : P a) : (Pure.pure a : Prog S α).Ends P := by
  intro b hb
  cases hb
  exact h

theorem Ends.any (p : Prog S α) : p.Ends (fun _ => True) := by
  induction p with
  | pure a => exact fun _ _ => trivial
  | op o k ih => exact fun r => ih r
  | abort msg => exact fun _ _ => trivial

theorem Ends.bind {P : α → Prop} {P' : β → Prop} {p : Prog S α} {f : α → Prog S β}
    (hp : p.Ends P) (hf : ∀ a, P a → (f a).Ends P') : (p >>= f).Ends P' := by
  refine (All_bind _ p f).mpr (All_mono ?_ hp)
  intro trace x hx
  cases x with
  | done a => exact hf a (hx a rfl)
  | aborted msg =>
      intro b hb
      cases hb

/-- The history of a program that has come to a value is one of its paths. -/
theorem Leads.all {Q : List S.Op → Outcome α → Prop} {p : Prog S α} {a : α}
    {history : List (Exchange S)} (h : p.Leads history (Pure.pure a)) (hp : p.All Q) :
    Q (history.map Sigma.fst) (.done a) := by
  generalize hq : (Pure.pure a : Prog S α) = q at h
  induction h generalizing Q with
  | refl p =>
      subst hq
      exact hp
  | op _ ih => exact ih (hp _) hq

end Prog

/-- **A task comes to what is left of it by its own history**, in any schedule. -/
theorem Pool.run_leads (hosts : τ → Host S σ) {pool : Pool S σ α} {i : Nat} {p : Prog S α}
    (htask : pool.tasks[i]? = some p) (turns : List (Nat × τ)) :
    ∃ p', (pool.run hosts turns).2.tasks[i]? = some p'
      ∧ p.Leads ((ofTask i (pool.run hosts turns).1).map Event.exchange) p' := by
  induction turns generalizing pool p with
  | nil => exact ⟨p, htask, .refl p⟩
  | cons turn turns ih =>
      obtain ⟨j, stamp⟩ := turn
      rw [Pool.run, ofTask_append, List.map_append]
      by_cases hij : j = i
      · subst hij
        obtain ⟨hnext, -, hevents⟩ := Pool.step_same hosts htask stamp
        obtain ⟨p', hp', hleads⟩ := ih hnext
        refine ⟨p', hp', ?_⟩
        rw [hevents, List.map_map, Function.comp_def, List.map_id']
        exact (Prog.leads_turn p (hosts stamp) pool.state).trans hleads
      · obtain ⟨hnext, hevents⟩ := Pool.step_other hosts pool hij stamp
        obtain ⟨p', hp', hleads⟩ := ih (hnext.trans htask)
        refine ⟨p', hp', ?_⟩
        rw [hevents]
        exact hleads

/-- What a task has been told is what the host has answered at that turn. -/
theorem Pool.run_answers (hosts : τ → Host S σ) (pool : Pool S σ α) (turns : List (Nat × τ)) :
    ∀ event ∈ (pool.run hosts turns).1,
      ∃ s, event.exchange.2 = ((hosts event.stamp).answer event.exchange.1 s).1 := by
  induction turns generalizing pool with
  | nil =>
      intro event hevent
      cases hevent
  | cons turn turns ih =>
      intro event hevent
      rcases List.mem_append.mp hevent with hfirst | hrest
      · rw [Pool.step] at hfirst
        split at hfirst
        · cases hfirst
        · next p hp =>
            obtain ⟨exchange, hexchange, rfl⟩ := List.mem_map.mp hfirst
            cases p with
            | op o k =>
                obtain rfl := List.mem_singleton.mp hexchange
                exact ⟨pool.state, rfl⟩
            | pure a => cases hexchange
            | abort msg => cases hexchange
      · exact ih _ event hrest

/-- The stamps of a history are those of turns, in their order. -/
theorem Pool.run_stamps (hosts : τ → Host S σ) (pool : Pool S σ α) (turns : List (Nat × τ)) :
    ((pool.run hosts turns).1.map Event.stamp).Sublist (turns.map Prod.snd) := by
  induction turns generalizing pool with
  | nil => exact List.Sublist.refl _
  | cons turn turns ih =>
      have hfirst : ((pool.step hosts turn).1.map Event.stamp).Sublist [turn.2] := by
        rw [Pool.step]
        split
        · exact List.nil_sublist _
        · next p _ =>
            cases p with
            | op o k => exact List.Sublist.refl _
            | pure a => exact List.nil_sublist _
            | abort msg => exact List.nil_sublist _
      rw [Pool.run, List.map_append]
      exact hfirst.append (ih _)

end Lib
