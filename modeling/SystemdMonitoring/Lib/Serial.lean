/-
# `SystemdMonitoring.Lib.Serial` — interleavings that come to one task after another

Most operations of a task are *local*: they are answered without regard to what
the host remembers, and leave it alone.  When every task of a pool asks for one
operation at most that is not local, any schedule comes to the same as a serial
one, which gives each task all its turns at once (`Pool.serializable`): the same
pool is left, every task has had the same history at the same stamps, and what
is not local has happened in the same order.

A local turn can change places with any turn of another task (`Pool.swap`).  So
the turns of the task that first does something shared can be brought together
around it: those before it are local, and so are those behind it.
-/
import SystemdMonitoring.Lib.Pool

namespace Lib

variable {S : Sig} {τ σ α : Type} {Local : S.Op → Prop} {hosts : τ → Host S σ}

/-- Local operations: neither does the answer depend on what the host remembers, nor is that
changed. -/
structure Inert (Local : S.Op → Prop) (hosts : τ → Host S σ) : Prop where
  answer : ∀ stamp {o : S.Op} (s s' : σ), Local o →
    ((hosts stamp).answer o s).1 = ((hosts stamp).answer o s').1
  state : ∀ stamp {o : S.Op} (s : σ), Local o → ((hosts stamp).answer o s).2 = s

/-! ## Programs -/

/-- One operation at most on each path is not local. -/
def Prog.Once (Local : S.Op → Prop) : Prog S α → Prop
  | .pure _ => True
  | .op o k => (Local o ∧ ∀ r, Once Local (k r)) ∨ ∀ r, (k r).Only Local
  | .abort _ => True

/-- The next operation, if there is one, is local. -/
def Prog.Quiet (Local : S.Op → Prop) : Prog S α → Prop
  | .op o _ => Local o
  | _ => True

theorem Prog.Only.quiet {p : Prog S α} (h : p.Only Local) : p.Quiet Local := by
  cases p with
  | op o k => exact h.1
  | pure a => trivial
  | abort msg => trivial

theorem Prog.Only.once {p : Prog S α} (h : p.Only Local) : p.Once Local := by
  cases p with
  | op o k => exact .inr h.2
  | pure a => trivial
  | abort msg => trivial

theorem Prog.Once.turn {p : Prog S α} (h : p.Once Local) (host : Host S σ) (s : σ) :
    (p.turn host s).2.1.Once Local := by
  cases p with
  | op o k =>
      rcases h with ⟨-, hrest⟩ | hrest
      · exact hrest _
      · exact (hrest _).once
  | pure a => trivial
  | abort msg => trivial

/-- What is shared is asked for once: behind it everything is local. -/
theorem Prog.Once.turn_only {p : Prog S α} (h : p.Once Local) (hloud : ¬ p.Quiet Local)
    (host : Host S σ) (s : σ) : (p.turn host s).2.1.Only Local := by
  cases p with
  | op o k =>
      rcases h with ⟨hlocal, -⟩ | hrest
      · exact absurd hlocal hloud
      · exact hrest _
  | pure a => exact absurd trivial hloud
  | abort msg => exact absurd trivial hloud

/-- A quiet turn is the same whatever the host remembers, and leaves that alone. -/
theorem Prog.Quiet.turn (hinert : Inert Local hosts) {p : Prog S α} (h : p.Quiet Local) (stamp : τ)
    (s s' : σ) :
    (p.turn (hosts stamp) s).1 = (p.turn (hosts stamp) s').1
      ∧ (p.turn (hosts stamp) s).2.1 = (p.turn (hosts stamp) s').2.1
      ∧ (p.turn (hosts stamp) s).2.2 = s := by
  cases p with
  | op o k =>
      have hanswer := hinert.answer stamp s s' h
      refine ⟨?_, ?_, hinert.state stamp s h⟩
      · exact congrArg (fun r => some (⟨o, r⟩ : Exchange S)) hanswer
      · exact congrArg k hanswer
  | pure a => exact ⟨rfl, rfl, rfl⟩
  | abort msg => exact ⟨rfl, rfl, rfl⟩

/-! ## Turns -/

/-- The task, if there is one, is quiet at its next turn. -/
def Pool.QuietAt (Local : S.Op → Prop) (pool : Pool S σ α) (i : Nat) : Prop :=
  ∀ p, pool.tasks[i]? = some p → p.Quiet Local

/-- From here on the task, if there is one, is local. -/
def Pool.LocalAt (Local : S.Op → Prop) (pool : Pool S σ α) (i : Nat) : Prop :=
  ∀ p, pool.tasks[i]? = some p → p.Only Local

theorem Pool.LocalAt.quietAt {pool : Pool S σ α} {i : Nat} (h : pool.LocalAt Local i) :
    pool.QuietAt Local i := by
  intro p hp
  exact (h p hp).quiet

theorem Pool.LocalAt.step {pool : Pool S σ α} {i : Nat} (h : pool.LocalAt Local i)
    (turn : Nat × τ) : (pool.step hosts turn).2.LocalAt Local i := by
  intro p' hp'
  obtain ⟨j, stamp⟩ := turn
  by_cases hij : j = i
  · subst hij
    cases hp : pool.tasks[j]? with
    | none =>
        simp only [Pool.step, hp] at hp'
        cases hp'
    | some p =>
        obtain ⟨htask, -, -⟩ := Pool.step_same hosts hp stamp
        rw [htask] at hp'
        cases hp'
        exact (h p hp).turn _ _
  · rw [(Pool.step_other hosts pool hij stamp).1] at hp'
    exact h p' hp'

/-- A task is quiet as long as it is another's turn. -/
theorem Pool.QuietAt.step_other {pool : Pool S σ α} {i : Nat} (h : pool.QuietAt Local i)
    {turn : Nat × τ} (hne : turn.1 ≠ i) : (pool.step hosts turn).2.QuietAt Local i := by
  intro p hp
  rw [(Pool.step_other hosts pool hne turn.2).1] at hp
  exact h p hp

/-- A turn depends on the task and on what the host remembers, and on that only when the turn is
not quiet. -/
theorem Pool.step_alike (hinert : Inert Local hosts) {pool pool' : Pool S σ α} {i : Nat}
    (htask : pool.tasks[i]? = pool'.tasks[i]?)
    (hstate : pool.state = pool'.state ∨ pool.QuietAt Local i) (stamp : τ) :
    (pool.step hosts (i, stamp)).1 = (pool'.step hosts (i, stamp)).1
      ∧ (pool.step hosts (i, stamp)).2.tasks[i]? = (pool'.step hosts (i, stamp)).2.tasks[i]? := by
  cases hp : pool.tasks[i]? with
  | none =>
      have hp' := htask.symm.trans hp
      simp only [Pool.step, hp, hp', and_self]
  | some p =>
      have hp' := htask.symm.trans hp
      have hturn : (p.turn (hosts stamp) pool.state).1 = (p.turn (hosts stamp) pool'.state).1
          ∧ (p.turn (hosts stamp) pool.state).2.1 = (p.turn (hosts stamp) pool'.state).2.1 := by
        rcases hstate with heq | hquiet
        · rw [heq]
          exact ⟨rfl, rfl⟩
        · obtain ⟨hevent, hnext, -⟩ := (hquiet p hp).turn hinert stamp pool.state pool'.state
          exact ⟨hevent, hnext⟩
      obtain ⟨hnext, -, -⟩ := Pool.step_same hosts hp stamp
      obtain ⟨hnext', -, -⟩ := Pool.step_same hosts hp' stamp
      refine ⟨?_, ?_⟩
      · simp only [Pool.step, hp, hp', hturn.1]
      · rw [hnext, hnext', hturn.2]

/-- A quiet turn leaves alone what the host remembers. -/
theorem Pool.step_state (hinert : Inert Local hosts) {pool : Pool S σ α} {i : Nat}
    (h : pool.QuietAt Local i) (stamp : τ) :
    (pool.step hosts (i, stamp)).2.state = pool.state := by
  cases hp : pool.tasks[i]? with
  | none => simp only [Pool.step, hp]
  | some p =>
      obtain ⟨-, hstate, -⟩ := Pool.step_same hosts hp stamp
      rw [hstate]
      exact ((h p hp).turn hinert stamp pool.state pool.state).2.2

/-- The state behind a turn depends on the task and the state before it. -/
theorem Pool.step_state_congr {pool pool' : Pool S σ α} {i : Nat}
    (htask : pool.tasks[i]? = pool'.tasks[i]?) (hstate : pool.state = pool'.state) (stamp : τ) :
    (pool.step hosts (i, stamp)).2.state = (pool'.step hosts (i, stamp)).2.state := by
  cases hp : pool.tasks[i]? with
  | none =>
      have hp' := htask.symm.trans hp
      simp only [Pool.step, hp, hp', hstate]
  | some p =>
      have hp' := htask.symm.trans hp
      rw [(Pool.step_same hosts hp stamp).2.1, (Pool.step_same hosts hp' stamp).2.1, hstate]

theorem Pool.eq_of_tasks {pool pool' : Pool S σ α}
    (htasks : ∀ i : Nat, pool.tasks[i]? = pool'.tasks[i]?) (hstate : pool.state = pool'.state) :
    pool = pool' := by
  cases pool
  cases pool'
  obtain rfl := hstate
  obtain rfl := List.ext_getElem? htasks
  rfl

/-- Every task asks once at most for what is shared. -/
def Pool.Once (Local : S.Op → Prop) (pool : Pool S σ α) : Prop :=
  ∀ (i : Nat) (p : Prog S α), pool.tasks[i]? = some p → p.Once Local

theorem Pool.Once.step {pool : Pool S σ α} (h : pool.Once Local) (turn : Nat × τ) :
    (pool.step hosts turn).2.Once Local := by
  intro i p' hp'
  obtain ⟨j, stamp⟩ := turn
  by_cases hij : j = i
  · subst hij
    cases hp : pool.tasks[j]? with
    | none =>
        simp only [Pool.step, hp] at hp'
        cases hp'
    | some p =>
        obtain ⟨htask, -, -⟩ := Pool.step_same hosts hp stamp
        rw [htask] at hp'
        cases hp'
        exact (h j p hp).turn _ _
  · rw [(Pool.step_other hosts pool hij stamp).1] at hp'
    exact h i p' hp'

theorem Pool.Once.run {pool : Pool S σ α} (h : pool.Once Local) (turns : List (Nat × τ)) :
    (pool.run hosts turns).2.Once Local := by
  induction turns generalizing pool with
  | nil => exact h
  | cons turn turns ih => exact ih (h.step turn)

/-- Behind a turn that is not quiet the task is local. -/
theorem Pool.Once.localAt {pool : Pool S σ α} (h : pool.Once Local) {turn : Nat × τ}
    (hloud : ¬ pool.QuietAt Local turn.1) : (pool.step hosts turn).2.LocalAt Local turn.1 := by
  intro p' hp'
  rw [Pool.QuietAt] at hloud
  push Not at hloud
  obtain ⟨p, hp, hloud⟩ := hloud
  obtain ⟨htask, -, -⟩ := Pool.step_same hosts hp turn.2
  rw [htask] at hp'
  cases hp'
  exact (h _ p hp).turn_only hloud _ _

/-! ## Schedules that come to the same -/

section Same

variable [DecidablePred Local]

/-- What has happened that is not local. -/
def sharedOf (Local : S.Op → Prop) [DecidablePred Local] (history : List (Event S τ)) :
    List (Event S τ) :=
  history.filter (fun event => !decide (Local event.exchange.1))

theorem sharedOf_append (before history : List (Event S τ)) :
    sharedOf Local (before ++ history) = sharedOf Local before ++ sharedOf Local history :=
  List.filter_append ..

/-- Two schedules come to the same: in the end, for every task, and in what is shared. -/
structure Same (Local : S.Op → Prop) [DecidablePred Local] (hosts : τ → Host S σ)
    (pool : Pool S σ α) (turns turns' : List (Nat × τ)) : Prop where
  left : (pool.run hosts turns).2 = (pool.run hosts turns').2
  tasks : ∀ i, ofTask i (pool.run hosts turns).1 = ofTask i (pool.run hosts turns').1
  shared : sharedOf Local (pool.run hosts turns).1 = sharedOf Local (pool.run hosts turns').1

theorem Same.refl (pool : Pool S σ α) (turns : List (Nat × τ)) :
    Same Local hosts pool turns turns := ⟨rfl, fun _ => rfl, rfl⟩

theorem Same.trans {pool : Pool S σ α} {first second third : List (Nat × τ)}
    (h : Same Local hosts pool first second) (h' : Same Local hosts pool second third) :
    Same Local hosts pool first third :=
  ⟨h.left.trans h'.left, fun i => (h.tasks i).trans (h'.tasks i), h.shared.trans h'.shared⟩

/-- The same first, and then the same. -/
theorem Same.append {pool : Pool S σ α} {before before' turns turns' : List (Nat × τ)}
    (h : Same Local hosts pool before before')
    (h' : Same Local hosts (pool.run hosts before).2 turns turns') :
    Same Local hosts pool (before ++ turns) (before' ++ turns') := by
  have hlater : ((pool.run hosts before').2.run hosts turns')
      = ((pool.run hosts before).2.run hosts turns') := by
    rw [h.left]
  refine ⟨?_, ?_, ?_⟩
  · rw [Pool.run_append, Pool.run_append, hlater]
    exact h'.left
  · intro i
    rw [Pool.run_append, Pool.run_append, ofTask_append, ofTask_append, hlater, h.tasks, h'.tasks]
  · rw [Pool.run_append, Pool.run_append, sharedOf_append, sharedOf_append, hlater, h.shared,
      h'.shared]

theorem Same.cons {pool : Pool S σ α} (turn : Nat × τ) {turns turns' : List (Nat × τ)}
    (h : Same Local hosts (pool.step hosts turn).2 turns turns') :
    Same Local hosts pool (turn :: turns) (turn :: turns') :=
  Same.append (Same.refl pool [turn]) h

theorem sharedOf_quiet {pool : Pool S σ α} {turn : Nat × τ} (h : pool.QuietAt Local turn.1) :
    sharedOf Local (pool.step hosts turn).1 = [] := by
  rw [sharedOf, List.filter_eq_nil_iff]
  intro event hevent
  rw [Pool.step] at hevent
  split at hevent
  · cases hevent
  · next p hp =>
      obtain ⟨exchange, hexchange, rfl⟩ := List.mem_map.mp hevent
      have hquiet := h p hp
      cases p with
      | op o k =>
          obtain rfl := List.mem_singleton.mp hexchange
          have hlocal : Local o := hquiet
          simp [hlocal]
      | pure a => cases hexchange
      | abort msg => cases hexchange

/-- **A quiet turn changes places** with the turn of another task. -/
theorem Pool.swap (hinert : Inert Local hosts) (pool : Pool S σ α) {turn turn' : Nat × τ}
    (hne : turn.1 ≠ turn'.1) (hquiet : pool.QuietAt Local turn.1) :
    Same Local hosts pool [turn, turn'] [turn', turn] := by
  obtain ⟨i, stamp⟩ := turn
  obtain ⟨j, stamp'⟩ := turn'
  have hkeptJ := (Pool.step_other hosts pool hne stamp).1
  have hkeptI := (Pool.step_other hosts pool (Ne.symm hne) stamp').1
  have hstate := Pool.step_state hinert hquiet stamp
  have hquiet' : (pool.step hosts (j, stamp')).2.QuietAt Local i :=
    hquiet.step_other (Ne.symm hne)
  -- either order asks for the same at both turns
  obtain ⟨hsecond, hnextJ⟩ := Pool.step_alike hinert hkeptJ (.inl hstate) stamp'
  obtain ⟨hfirst, hnextI⟩ := Pool.step_alike hinert hkeptI (.inr hquiet') stamp
  have hrun : pool.run hosts [(i, stamp), (j, stamp')]
      = ((pool.step hosts (i, stamp)).1 ++ (pool.step hosts (j, stamp')).1,
          ((pool.step hosts (i, stamp)).2.step hosts (j, stamp')).2) := by
    simp only [Pool.run, List.append_nil, hsecond]
  have hrun' : pool.run hosts [(j, stamp'), (i, stamp)]
      = ((pool.step hosts (j, stamp')).1 ++ (pool.step hosts (i, stamp)).1,
          ((pool.step hosts (j, stamp')).2.step hosts (i, stamp)).2) := by
    simp only [Pool.run, List.append_nil, hfirst]
  refine ⟨?_, ?_, ?_⟩
  · rw [hrun, hrun']
    refine Pool.eq_of_tasks ?_ ?_
    · intro k
      by_cases hk : k = i
      · subst hk
        rw [(Pool.step_other hosts _ (Ne.symm hne) stamp').1, hnextI]
      · rw [(Pool.step_other hosts _ (Ne.symm hk) stamp).1]
        by_cases hkj : k = j
        · subst hkj
          exact hnextJ
        · rw [(Pool.step_other hosts _ (Ne.symm hkj) stamp').1,
            (Pool.step_other hosts _ (Ne.symm hk) stamp).1,
            (Pool.step_other hosts _ (Ne.symm hkj) stamp').1]
    · rw [Pool.step_state hinert hquiet' stamp]
      exact Pool.step_state_congr hkeptJ hstate stamp'
  · intro k
    rw [hrun, hrun', ofTask_append, ofTask_append]
    by_cases hk : k = i
    · subst hk
      rw [(Pool.step_other hosts pool (Ne.symm hne) stamp').2, List.append_nil, List.nil_append]
    · rw [(Pool.step_other hosts pool (Ne.symm hk) stamp).2, List.append_nil, List.nil_append]
  · rw [hrun, hrun', sharedOf_append, sharedOf_append, sharedOf_quiet hquiet, List.append_nil,
      List.nil_append]

theorem Same.symm {pool : Pool S σ α} {turns turns' : List (Nat × τ)}
    (h : Same Local hosts pool turns turns') : Same Local hosts pool turns' turns :=
  ⟨h.left.symm, fun i => (h.tasks i).symm, h.shared.symm⟩

/-- A turn moves behind all those of one other task, when it is quiet or they are. -/
theorem Pool.move (hinert : Inert Local hosts) {i : Nat} {turn : Nat × τ} (hne : turn.1 ≠ i)
    {turns : List (Nat × τ)} (hturns : ∀ other ∈ turns, other.1 = i) {pool : Pool S σ α}
    (hquiet : pool.QuietAt Local turn.1 ∨ pool.LocalAt Local i) :
    Same Local hosts pool (turn :: turns) (turns ++ [turn]) := by
  induction turns generalizing pool with
  | nil => exact Same.refl pool [turn]
  | cons other turns ih =>
      obtain ⟨rfl, hrest⟩ := List.forall_mem_cons.mp hturns
      have hswap : Same Local hosts pool [turn, other] [other, turn] := by
        rcases hquiet with hquiet | hlocal
        · exact Pool.swap hinert pool hne hquiet
        · exact (Pool.swap hinert pool (Ne.symm hne) hlocal.quietAt).symm
      have hquiet' : (pool.step hosts other).2.QuietAt Local turn.1
          ∨ (pool.step hosts other).2.LocalAt Local other.1 := by
        rcases hquiet with hquiet | hlocal
        · exact .inl (hquiet.step_other (Ne.symm hne))
        · exact .inr (hlocal.step other)
      have hfirst : Same Local hosts pool (turn :: other :: turns) (other :: turn :: turns) :=
        Same.append hswap (Same.refl _ turns)
      exact hfirst.trans (Same.cons other (ih hrest hquiet'))

/-- The turns of one task, and those of the others. -/
def turnsOf (i : Nat) (turns : List (Nat × τ)) : List (Nat × τ) :=
  turns.filter (fun turn => turn.1 == i)

def turnsBut (i : Nat) (turns : List (Nat × τ)) : List (Nat × τ) :=
  turns.filter (fun turn => turn.1 != i)

theorem turnsOf_same (i : Nat) (stamp : τ) (turns : List (Nat × τ)) :
    turnsOf i ((i, stamp) :: turns) = (i, stamp) :: turnsOf i turns :=
  List.filter_cons_of_pos (beq_self_eq_true i)

theorem turnsOf_other {i : Nat} {turn : Nat × τ} (h : turn.1 ≠ i) (turns : List (Nat × τ)) :
    turnsOf i (turn :: turns) = turnsOf i turns :=
  List.filter_cons_of_neg (by simpa using h)

theorem turnsBut_same (i : Nat) (stamp : τ) (turns : List (Nat × τ)) :
    turnsBut i ((i, stamp) :: turns) = turnsBut i turns :=
  List.filter_cons_of_neg (by simp)

theorem turnsBut_other {i : Nat} {turn : Nat × τ} (h : turn.1 ≠ i) (turns : List (Nat × τ)) :
    turnsBut i (turn :: turns) = turn :: turnsBut i turns :=
  List.filter_cons_of_pos (by simpa using h)

theorem task_of_mem_turnsOf {i : Nat} {turns : List (Nat × τ)} :
    ∀ turn ∈ turnsOf i turns, turn.1 = i := by
  intro turn hturn
  simpa using (List.mem_filter.mp hturn).2

/-- One turn of another task, put behind those of a task that are brought together. -/
theorem Same.past {pool : Pool S σ α} (hinert : Inert Local hosts) {i : Nat} {turn : Nat × τ}
    (hne : turn.1 ≠ i) {turns : List (Nat × τ)}
    (hquiet : pool.QuietAt Local turn.1 ∨ pool.LocalAt Local i)
    (h : Same Local hosts (pool.step hosts turn).2 turns (turnsOf i turns ++ turnsBut i turns)) :
    Same Local hosts pool (turn :: turns)
      (turnsOf i (turn :: turns) ++ turnsBut i (turn :: turns)) := by
  have hmoved : Same Local hosts pool (turn :: turnsOf i turns ++ turnsBut i turns)
      ((turnsOf i turns ++ [turn]) ++ turnsBut i turns) :=
    Same.append (Pool.move hinert hne task_of_mem_turnsOf hquiet) (Same.refl _ _)
  rw [turnsOf_other hne, turnsBut_other hne]
  rw [List.append_assoc, List.singleton_append] at hmoved
  exact (Same.cons turn h).trans hmoved

/-- A task that is local can have all its turns first. -/
theorem Pool.gather (hinert : Inert Local hosts) {i : Nat} {pool : Pool S σ α}
    (hlocal : pool.LocalAt Local i) (turns : List (Nat × τ)) :
    Same Local hosts pool turns (turnsOf i turns ++ turnsBut i turns) := by
  induction turns generalizing pool with
  | nil => exact Same.refl pool []
  | cons turn turns ih =>
      have hlater : (pool.step hosts turn).2.LocalAt Local i := hlocal.step turn
      have hrest := ih hlater
      by_cases hi : turn.1 = i
      · obtain ⟨j, stamp⟩ := turn
        obtain rfl := hi
        rw [turnsOf_same, turnsBut_same]
        exact Same.cons _ hrest
      · exact hrest.past hinert hi (.inr hlocal)

/-! ## One task after another -/

/-- **One task can be first**, with all its turns: the one that first does something shared. -/
theorem Pool.first (hinert : Inert Local hosts) {pool : Pool S σ α} (honce : pool.Once Local)
    {turns : List (Nat × τ)} (hturns : turns ≠ []) :
    ∃ turn ∈ turns, Same Local hosts pool turns
      (turnsOf turn.1 turns ++ turnsBut turn.1 turns) := by
  induction turns generalizing pool with
  | nil => exact absurd rfl hturns
  | cons turn turns ih =>
      by_cases hquiet : pool.QuietAt Local turn.1
      · cases turns with
        | nil =>
            refine ⟨turn, List.mem_cons_self, ?_⟩
            rw [turnsOf_same, turnsBut_same]
            exact Same.refl _ _
        | cons next turns =>
            have hlater : (pool.step hosts turn).2.Once Local := honce.step turn
            obtain ⟨first, hfirst, hsame⟩ := ih hlater (List.cons_ne_nil _ _)
            refine ⟨first, List.mem_cons_of_mem _ hfirst, ?_⟩
            by_cases hi : turn.1 = first.1
            · rw [← hi] at hsame ⊢
              rw [turnsOf_same, turnsBut_same]
              exact Same.cons turn hsame
            · exact hsame.past hinert hi (.inl hquiet)
      · refine ⟨turn, List.mem_cons_self, ?_⟩
        rw [turnsOf_same, turnsBut_same]
        have hlocal : (pool.step hosts turn).2.LocalAt Local turn.1 := honce.localAt hquiet
        exact Same.cons turn (Pool.gather hinert hlocal turns)

/-- The schedule that gives one task after another all its turns. -/
def serially (order : List Nat) (turns : List (Nat × τ)) : List (Nat × τ) :=
  order.flatMap (fun i => turnsOf i turns)

theorem turnsOf_turnsBut {i j : Nat} (h : j ≠ i) (turns : List (Nat × τ)) :
    turnsOf j (turnsBut i turns) = turnsOf j turns := by
  rw [turnsOf, turnsBut, List.filter_filter]
  refine List.filter_congr ?_
  intro turn hturn
  by_cases hj : turn.1 = j
  · simp [hj, h]
  · simp [hj]

/-- Without the first task the schedule is the same for those that follow. -/
theorem serially_cons {i : Nat} {order : List Nat} (h : i ∉ order) (turns : List (Nat × τ)) :
    serially (i :: order) turns = turnsOf i turns ++ serially order (turnsBut i turns) := by
  rw [serially, List.flatMap_cons, serially]
  refine congrArg (turnsOf i turns ++ ·) (List.flatMap_congr ?_)
  intro j hj
  exact (turnsOf_turnsBut (ne_of_mem_of_not_mem hj h) turns).symm

theorem mem_turnsBut {i j : Nat} {turns : List (Nat × τ)} :
    j ∈ (turnsBut i turns).map Prod.fst ↔ j ∈ turns.map Prod.fst ∧ j ≠ i := by
  constructor
  · intro h
    obtain ⟨turn, hturn, rfl⟩ := List.mem_map.mp h
    obtain ⟨hmem, hother⟩ := List.mem_filter.mp hturn
    exact ⟨List.mem_map_of_mem hmem, by simpa using hother⟩
  · rintro ⟨h, hother⟩
    obtain ⟨turn, hturn, rfl⟩ := List.mem_map.mp h
    exact List.mem_map_of_mem (List.mem_filter.mpr ⟨hturn, by simpa using hother⟩)

/-- **Every schedule comes to the same as a serial one.** -/
theorem Pool.serializable (hinert : Inert Local hosts) {pool : Pool S σ α}
    (honce : pool.Once Local) (turns : List (Nat × τ)) :
    ∃ order : List Nat, order.Nodup ∧ (∀ i, i ∈ order ↔ i ∈ turns.map Prod.fst)
      ∧ Same Local hosts pool turns (serially order turns) := by
  by_cases hturns : turns = []
  · subst hturns
    exact ⟨[], List.nodup_nil, fun i => Iff.rfl, Same.refl pool []⟩
  · obtain ⟨first, hfirst, hsame⟩ := Pool.first hinert honce hturns
    have hshorter : (turnsBut first.1 turns).length < turns.length := by
      refine List.length_filter_lt_length_iff_exists.mpr ⟨first, hfirst, ?_⟩
      simp
    have hlater : (pool.run hosts (turnsOf first.1 turns)).2.Once Local :=
      honce.run (turnsOf first.1 turns)
    obtain ⟨order, hnodup, hmem, hrest⟩ :=
      Pool.serializable hinert hlater (turnsBut first.1 turns)
    have hnew : first.1 ∉ order := by
      intro h
      exact (mem_turnsBut.mp ((hmem first.1).mp h)).2 rfl
    refine ⟨first.1 :: order, List.nodup_cons.mpr ⟨hnew, hnodup⟩, ?_, ?_⟩
    · intro i
      rw [List.mem_cons, hmem, mem_turnsBut]
      constructor
      · rintro (rfl | ⟨hi, -⟩)
        · exact List.mem_map_of_mem hfirst
        · exact hi
      · intro hi
        by_cases h : i = first.1
        · exact .inl h
        · exact .inr ⟨hi, h⟩
    · rw [serially_cons hnew]
      exact hsame.trans (Same.append (Same.refl pool _) hrest)
termination_by turns.length

end Same

end Lib
