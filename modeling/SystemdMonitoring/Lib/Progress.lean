/-
# `SystemdMonitoring.Lib.Progress` — tasks that come to an end

A task that has not ended does one operation at each of its turns, whatever the
others do in between (`Pool.run_turns`).  So what a program can afford at one a
piece is how many turns it needs (`Prog.Affords.settles`): the credit is the
measure that every turn lowers, and that only an answer can raise.
-/
import SystemdMonitoring.Lib.Credit
import SystemdMonitoring.Lib.Serial

namespace Lib

variable {S T : Sig} {τ σ α β : Type}

/-- There is nothing left to ask for. -/
def Prog.Settled : Prog S α → Prop
  | .op _ _ => False
  | _ => True

namespace Prog

/-- What has ended stays so. -/
theorem Leads.settled {p p' : Prog S α} {history : List (Exchange S)} (h : p.Leads history p')
    (hp : p.Settled) : p'.Settled := by
  cases h with
  | refl => exact hp
  | op _ => exact hp.elim

/-- **A program whose credit has been used up has ended**, when nothing is for free. -/
theorem Affords.settles {tariff : Tariff S} {c : Nat} (hprice : ∀ o, 1 ≤ tariff.price o)
    {p p' : Prog S α} {history : List (Exchange S)} (h : p.Leads history p')
    (hp : p.Affords tariff c) (hlong : c + (history.map tariff.worth).sum ≤ history.length) :
    p'.Settled := by
  obtain ⟨left, hleft, hsum⟩ := hp.leads h
  have hlength : history.length ≤ (history.map fun exchange => tariff.price exchange.1).sum := by
    rw [← List.length_map (f := fun exchange : Exchange S => tariff.price exchange.1)]
    refine List.length_le_sum_of_one_le _ ?_
    intro price hmem
    obtain ⟨exchange, -, rfl⟩ := List.mem_map.mp hmem
    exact hprice exchange.1
  cases p' with
  | op o k =>
      have hnext : tariff.price o ≤ left := hleft.1
      have hpositive := hprice o
      omega
  | pure a => trivial
  | abort msg => trivial

/-- What is left of a program that returns does so. -/
theorem Leads.returns_rest {P : α → Prop} {p p' : Prog S α} {history : List (Exchange S)}
    (h : p.Leads history p') (hp : p.Returns P) : p'.Returns P := by
  induction h with
  | refl p => exact hp
  | op _ ih => exact ih (hp _)

theorem Returns.settled {P : α → Prop} {p : Prog S α} (hp : p.Returns P) (h : p.Settled) :
    ∃ a, p = Pure.pure a ∧ P a := by
  cases p with
  | op o k => exact h.elim
  | pure a => exact ⟨a, rfl, (Returns_pure P a).mp hp⟩
  | abort msg => exact absurd hp (not_Returns_abort P msg)

end Prog

/-- **A task does one operation at each of its turns, until it has ended.** -/
theorem Pool.run_turns (hosts : τ → Host S σ) {pool : Pool S σ α} {i : Nat} {p : Prog S α}
    (htask : pool.tasks[i]? = some p) (turns : List (Nat × τ)) :
    ∃ p', (pool.run hosts turns).2.tasks[i]? = some p'
      ∧ p.Leads ((ofTask i (pool.run hosts turns).1).map Event.exchange) p'
      ∧ (p'.Settled ∨ (ofTask i (pool.run hosts turns).1).length = (turnsOf i turns).length) := by
  induction turns generalizing pool p with
  | nil => exact ⟨p, htask, .refl p, .inr rfl⟩
  | cons turn turns ih =>
      obtain ⟨j, stamp⟩ := turn
      rw [Pool.run, ofTask_append, List.map_append, List.length_append]
      by_cases hij : j = i
      · subst hij
        obtain ⟨hnext, -, hevents⟩ := Pool.step_same hosts htask stamp
        obtain ⟨p', hp', hleads, hended⟩ := ih hnext
        rw [hevents, List.map_map, Function.comp_def, List.map_id', List.length_map]
        refine ⟨p', hp', (Prog.leads_turn p (hosts stamp) pool.state).trans hleads, ?_⟩
        cases p with
        | op o k =>
            refine hended.imp_right ?_
            intro hlength
            rw [hlength, turnsOf_same, List.length_cons]
            exact Nat.add_comm _ _
        | pure a => exact .inl (Prog.Leads.settled hleads trivial)
        | abort msg => exact .inl (Prog.Leads.settled hleads trivial)
      · obtain ⟨hnext, hevents⟩ := Pool.step_other hosts pool hij stamp
        obtain ⟨p', hp', hleads, hended⟩ := ih (hnext.trans htask)
        rw [hevents, turnsOf_other hij]
        refine ⟨p', hp', hleads, hended.imp_right ?_⟩
        intro hlength
        rw [hlength, List.length_nil, Nat.zero_add]

end Lib
