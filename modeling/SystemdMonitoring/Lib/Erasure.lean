/-
# `SystemdMonitoring.Lib.Erasure` — tasks that might as well not have been there

Strike some tasks of a pool off its schedule.  What is left runs as it did, when
the struck tasks have done nothing that the host remembers: the two runs keep
hosts that answer alike *from then on* (`Traceless`), which is less than hosts in
the same state, and is all that the other tasks can see.

The relation of the two hosts' states depends on the stamp, as a state may come
to the same as another one only once the clock has moved on.
-/
import SystemdMonitoring.Lib.Pool

namespace Lib

variable {S : Sig} {τ σ α : Type}

/-- From a stamp on a host that has seen an idle exchange cannot be told from one that has not.
`E stamp s s'`: without the idle exchanges the state is `s`, with them it is `s'`. -/
structure Traceless (before : τ → τ → Prop) (Idle : Exchange S → Prop) (E : τ → σ → σ → Prop)
    (hosts : τ → Host S σ) : Prop where
  later : ∀ {t stamp s s'}, before t stamp → E t s s' → E stamp s s'
  kept : ∀ {stamp} o {s s'}, E stamp s s' →
    ((hosts stamp).answer o s).1 = ((hosts stamp).answer o s').1
      ∧ E stamp ((hosts stamp).answer o s).2 ((hosts stamp).answer o s').2
  idle : ∀ {stamp} o {s s'}, E stamp s s' → Idle ⟨o, ((hosts stamp).answer o s').1⟩ →
    E stamp s ((hosts stamp).answer o s').2

section Erasure

variable {before : τ → τ → Prop} {Idle : Exchange S → Prop} {E : τ → σ → σ → Prop}
  {hosts : τ → Host S σ}

/-- A task that is kept takes the same turn. -/
theorem Traceless.turn (h : Traceless before Idle E hosts) (p : Prog S α) {stamp : τ} {s s' : σ}
    (hs : E stamp s s') :
    (p.turn (hosts stamp) s).1 = (p.turn (hosts stamp) s').1
      ∧ (p.turn (hosts stamp) s).2.1 = (p.turn (hosts stamp) s').2.1
      ∧ E stamp (p.turn (hosts stamp) s).2.2 (p.turn (hosts stamp) s').2.2 := by
  cases p with
  | pure a => exact ⟨rfl, rfl, hs⟩
  | abort msg => exact ⟨rfl, rfl, hs⟩
  | op o k =>
      obtain ⟨hanswer, hstate⟩ := h.kept o hs
      refine ⟨?_, ?_, hstate⟩
      · exact congrArg (fun r => some (⟨o, r⟩ : Exchange S)) hanswer
      · exact congrArg k hanswer

/-- A turn that is idle leaves the host as it was. -/
theorem Traceless.idle_turn (h : Traceless before Idle E hosts) (p : Prog S α) {stamp : τ}
    {s s' : σ} (hs : E stamp s s')
    (hidle : ∀ exchange ∈ (p.turn (hosts stamp) s').1, Idle exchange) :
    E stamp s (p.turn (hosts stamp) s').2.2 := by
  cases p with
  | pure a => exact hs
  | abort msg => exact hs
  | op o k => exact h.idle o hs (hidle _ rfl)

/-- Two pools that differ in the struck tasks alone, and in what these have left of the host. -/
structure Pool.Struck (away : Nat → Bool) (E : τ → σ → σ → Prop) (stamp : τ)
    (pool pool' : Pool S σ α) : Prop where
  tasks : ∀ i, away i = false → pool.tasks[i]? = pool'.tasks[i]?
  state : E stamp pool.state pool'.state

variable {away : Nat → Bool} {pool pool' : Pool S σ α}

/-- The turn of a task that is kept. -/
theorem Pool.Struck.step_kept (h : Traceless before Idle E hosts) {stamp : τ}
    (hpool : Pool.Struck away E stamp pool pool') {i : Nat} (hi : away i = false) :
    (pool.step hosts (i, stamp)).1 = (pool'.step hosts (i, stamp)).1
      ∧ Pool.Struck away E stamp (pool.step hosts (i, stamp)).2 (pool'.step hosts (i, stamp)).2 := by
  have htask := hpool.tasks i hi
  cases hp : pool'.tasks[i]? with
  | none =>
      rw [hp] at htask
      simp only [Pool.step, htask, hp]
      exact ⟨trivial, hpool⟩
  | some p =>
      rw [hp] at htask
      obtain ⟨hexchange, hrest, hstate⟩ := h.turn p hpool.state
      obtain ⟨hnext, hleft, -⟩ := Pool.step_same hosts htask stamp
      obtain ⟨hnext', hleft', -⟩ := Pool.step_same hosts hp stamp
      refine ⟨?_, ?_, ?_⟩
      · simp only [Pool.step, htask, hp]
        rw [hexchange]
      · intro j hj
        by_cases hij : i = j
        · subst hij
          rw [hnext, hnext', hrest]
        · rw [(Pool.step_other hosts pool hij stamp).1, (Pool.step_other hosts pool' hij stamp).1]
          exact hpool.tasks j hj
      · rw [hleft, hleft']
        exact hstate

/-- The turn of a struck task, which the other pool does not take. -/
theorem Pool.Struck.step_struck (h : Traceless before Idle E hosts) {stamp : τ}
    (hpool : Pool.Struck away E stamp pool pool') {i : Nat} (hi : away i = true)
    (hidle : ∀ event ∈ (pool'.step hosts (i, stamp)).1, Idle event.exchange) :
    Pool.Struck away E stamp pool (pool'.step hosts (i, stamp)).2 := by
  refine ⟨?_, ?_⟩
  · intro j hj
    have hij : i ≠ j := by
      rintro rfl
      rw [hi] at hj
      cases hj
    rw [(Pool.step_other hosts pool' hij stamp).1]
    exact hpool.tasks j hj
  · cases hp : pool'.tasks[i]? with
    | none =>
        simp only [Pool.step, hp]
        exact hpool.state
    | some p =>
        obtain ⟨-, hleft, -⟩ := Pool.step_same hosts hp stamp
        rw [hleft]
        refine h.idle_turn p hpool.state ?_
        intro exchange hexchange
        simp only [Pool.step, hp] at hidle
        exact hidle _ (List.mem_map_of_mem (Option.mem_toList.mpr hexchange))

theorem Pool.task_of_step (hosts : τ → Host S σ) (pool : Pool S σ α) (turn : Nat × τ) :
    ∀ event ∈ (pool.step hosts turn).1, event.task = turn.1 := by
  intro event hevent
  rw [Pool.step] at hevent
  split at hevent
  · cases hevent
  · obtain ⟨exchange, -, rfl⟩ := List.mem_map.mp hevent
    rfl

theorem Pool.length_step (hosts : τ → Host S σ) (pool : Pool S σ α) (turn : Nat × τ) :
    (pool.step hosts turn).2.tasks.length = pool.tasks.length := by
  rw [Pool.step]
  split
  · rfl
  · exact List.length_set

/-- What happens in a run happens to one of its tasks. -/
theorem Pool.task_of_run (hosts : τ → Host S σ) (pool : Pool S σ α) (turns : List (Nat × τ)) :
    ∀ event ∈ (pool.run hosts turns).1, event.task < pool.tasks.length := by
  induction turns generalizing pool with
  | nil =>
      intro event hevent
      cases hevent
  | cons turn turns ih =>
      intro event hevent
      rw [Pool.run, List.mem_append] at hevent
      rcases hevent with hfirst | hrest
      · rw [Pool.step] at hfirst
        split at hfirst
        · cases hfirst
        · next p hp =>
            obtain ⟨exchange, -, rfl⟩ := List.mem_map.mp hfirst
            exact (List.getElem?_eq_some_iff.mp hp).1
      · rw [← Pool.length_step hosts pool turn]
        exact ih _ event hrest

/-- **Tasks whose exchanges are idle might as well not have been there**: with their turns taken
out of the schedule the others do the same, and the host answers alike from then on. -/
theorem Pool.Struck.run (h : Traceless before Idle E hosts) {start : τ}
    (hpool : Pool.Struck away E start pool pool') {turns : List (Nat × τ)}
    (hsorted : (start :: turns.map Prod.snd).Pairwise before)
    (hidle : ∀ event ∈ (pool'.run hosts turns).1, away event.task = true → Idle event.exchange) :
    let kept := pool.run hosts (turns.filter fun turn => !away turn.1)
    let run := pool'.run hosts turns
    kept.1 = run.1.filter (fun event => !away event.task)
      ∧ ∃ stop ∈ start :: turns.map Prod.snd, Pool.Struck away E stop kept.2 run.2 := by
  induction turns generalizing pool pool' start with
  | nil => exact ⟨rfl, start, List.mem_cons_self, hpool⟩
  | cons turn turns ih =>
      obtain ⟨i, stamp⟩ := turn
      obtain ⟨hstart, hrest⟩ := List.pairwise_cons.mp hsorted
      have hnow : Pool.Struck away E stamp pool pool' :=
        ⟨hpool.tasks, h.later (hstart stamp List.mem_cons_self) hpool.state⟩
      have htask := Pool.task_of_step hosts pool' (i, stamp)
      rw [Pool.run] at hidle
      have hfirst : ∀ event ∈ (pool'.step hosts (i, stamp)).1, away event.task = true →
          Idle event.exchange := fun event hevent =>
        hidle event (List.mem_append_left _ hevent)
      have hbehind : ∀ event ∈ ((pool'.step hosts (i, stamp)).2.run hosts turns).1,
          away event.task = true → Idle event.exchange := fun event hevent =>
        hidle event (List.mem_append_right _ hevent)
      dsimp only
      rw [Pool.run, List.filter_append]
      cases hi : away i with
      | false =>
          obtain ⟨hevents, hstep⟩ := hnow.step_kept h hi
          obtain ⟨hleft, stop, hstop, hend⟩ := ih hstep hrest hbehind
          have hall : (pool'.step hosts (i, stamp)).1.filter (fun event => !away event.task)
              = (pool'.step hosts (i, stamp)).1 := by
            rw [List.filter_eq_self]
            intro event hevent
            rw [htask event hevent, hi]
            rfl
          rw [List.filter_cons_of_pos (by rw [hi]; rfl), Pool.run, hall, hevents]
          refine ⟨?_, stop, List.mem_cons_of_mem start hstop, hend⟩
          rw [← hleft]
      | true =>
          have hstep := hnow.step_struck h hi fun event hevent =>
            hfirst event hevent ((congrArg away (htask event hevent)).trans hi)
          obtain ⟨hleft, stop, hstop, hend⟩ := ih hstep hrest hbehind
          have hnone : (pool'.step hosts (i, stamp)).1.filter (fun event => !away event.task)
              = [] := by
            rw [List.filter_eq_nil_iff]
            intro event hevent
            rw [htask event hevent, hi]
            exact Bool.false_ne_true
          rw [List.filter_cons_of_neg (by rw [hi]; exact Bool.false_ne_true), hnone]
          exact ⟨hleft, stop, List.mem_cons_of_mem start hstop, hend⟩

end Erasure

end Lib
