/-
# `SystemdMonitoring.Lib.Pool` — many programs on one host

A pool is a list of programs, its tasks, and the state of the one host that
they all ask.  A schedule says whose turn it is, and with which stamp (a time,
say) the host then answers; each turn is one operation of one task, so the
schedules are all the interleavings.

Two ways to reason about a pool without looking at the schedule.

* *One task*: a `Monitor` reads what a task asks for and is told.  A program
  that obeys a monitor on all its paths has a history that the monitor accepts,
  whatever the other tasks do (`Pool.run_obeys`).
* *Two hosts*: some operations are *low*, answered alike by both hosts, and some
  are *high*, without effect on what the hosts have in common.  When every task
  is low until from some point on it is high (`Forks`), the tasks that are low
  throughout cannot tell the two hosts apart (`Pool.run_low`).
-/
import SystemdMonitoring.Lib.Prog

namespace Lib

/-- An operation and its answer. -/
abbrev Exchange (S : Sig) : Type := (o : S.Op) × S.Ans o

/-! ## Monitors -/

/-- An observer of one program: what it allows in a state, and where an answer takes it. -/
structure Monitor (S : Sig) (Q : Type) where
  allows : Q → S.Op → Prop
  next : Q → (o : S.Op) → S.Ans o → Q

namespace Monitor

variable {S : Sig} {Q α β : Type} (m : Monitor S Q)

/-- Where a history takes the monitor. -/
def after : Q → List (Exchange S) → Q
  | q, [] => q
  | q, ⟨o, r⟩ :: history => after (m.next q o r) history

/-- The monitor allows every operation of the history. -/
def Accepts : Q → List (Exchange S) → Prop
  | _, [] => True
  | q, ⟨o, r⟩ :: history => m.allows q o ∧ Accepts (m.next q o r) history

/-- The monitor allows every operation on every path, and a path that returns ends in a final
state. -/
def Obeys (final : Q → Prop) : Q → Prog S α → Prop
  | q, .pure _ => final q
  | q, .op o k => m.allows q o ∧ ∀ r, Obeys final (m.next q o r) (k r)
  | _, .abort _ => True

theorem after_append (q : Q) (before history : List (Exchange S)) :
    m.after q (before ++ history) = m.after (m.after q before) history := by
  induction before generalizing q with
  | nil => rfl
  | cons exchange before ih => exact ih _

theorem accepts_append (q : Q) (before history : List (Exchange S)) :
    m.Accepts q (before ++ history)
      ↔ m.Accepts q before ∧ m.Accepts (m.after q before) history := by
  induction before generalizing q with
  | nil => simp [Accepts, after]
  | cons exchange before ih => exact (and_congr_right fun _ => ih _).trans and_assoc.symm

variable {m}

theorem Obeys.bind {middle final : Q → Prop} {q : Q} {p : Prog S α} {f : α → Prog S β}
    (hp : m.Obeys middle q p) (hf : ∀ q, middle q → ∀ a, m.Obeys final q (f a)) :
    m.Obeys final q (p >>= f) := by
  induction p generalizing q with
  | pure a => exact hf q hp a
  | op o k ih => exact ⟨hp.1, fun r => ih r (hp.2 r)⟩
  | abort msg => trivial

/-- The monitor that allows the same operations all the time. -/
def only (P : S.Op → Prop) : Monitor S Unit where
  allows := fun _ o => P o
  next := fun _ _ _ => ()

theorem accepts_only {P : S.Op → Prop} {history : List (Exchange S)}
    (h : (only P).Accepts () history) : ∀ exchange ∈ history, P exchange.1 := by
  induction history with
  | nil => exact List.forall_mem_nil _
  | cons exchange history ih => exact List.forall_mem_cons.mpr ⟨h.1, ih h.2⟩

end Monitor

/-- Every operation on every path is one of those. -/
def Prog.Only {S : Sig} {α : Type} (P : S.Op → Prop) (p : Prog S α) : Prop :=
  (Monitor.only P).Obeys (fun _ => True) () p

namespace Prog

variable {S T : Sig} {α β : Type} {P : S.Op → Prop}

theorem Only.pure (a : α) : Only P (Pure.pure a : Prog S α) := trivial

theorem Only.bind {p : Prog S α} {f : α → Prog S β} (hp : Only P p) (hf : ∀ a, Only P (f a)) :
    Only P (p >>= f) :=
  Monitor.Obeys.bind hp fun _ _ => hf

/-- Operations that a monitor allows in a state that they do not change. -/
theorem Only.obeys {Q : Type} {m : Monitor S Q} {final : Q → Prop} {q : Q} {p : Prog S α}
    (hp : Only P p) (hallows : ∀ o, P o → m.allows q o) (hnext : ∀ o r, P o → m.next q o r = q)
    (hfinal : final q) : m.Obeys final q p := by
  induction p with
  | pure a => exact hfinal
  | op o k ih =>
      refine ⟨hallows o hp.1, fun r => ?_⟩
      rw [hnext o r hp.1]
      exact ih r (hp.2 r)
  | abort msg => trivial

theorem only_inLeft {P : (S.sum T).Op → Prop} (hP : ∀ o, P (.inl o)) (p : Prog S α) :
    Only P (p.inLeft (T := T)) := by
  induction p with
  | pure a => trivial
  | op o k ih => exact ⟨hP o, ih⟩
  | abort m => trivial

end Prog

/-- Operations that are replaced by programs which ask for those only. -/
theorem Prog.Only.interp {S T : Sig} {α : Type} {P : S.Op → Prop} {P' : T.Op → Prop}
    {f : (o : S.Op) → Prog T (S.Ans o)} (hf : ∀ o, P o → (f o).Only P') {p : Prog S α}
    (hp : p.Only P) : (p.interp f).Only P' := by
  induction p with
  | pure a => trivial
  | op o k ih => exact Prog.Only.bind (hf o hp.1) fun r => ih r (hp.2 r)
  | abort msg => trivial

/-! ## Pools -/

structure Pool (S : Sig) (σ α : Type) where
  tasks : List (Prog S α)
  state : σ

/-- What a task has asked for at its turn, and what it has been told. -/
structure Event (S : Sig) (τ : Type) where
  task : Nat
  stamp : τ
  exchange : Exchange S

section Pools

variable {S : Sig} {τ σ σ' α : Type}

/-- One turn of a program: its next operation, if it has one. -/
def Prog.turn (host : Host S σ) : Prog S α → σ → Option (Exchange S) × Prog S α × σ
  | .op o k, s => let r := host.answer o s; (some ⟨o, r.1⟩, k r.1, r.2)
  | .pure a, s => (none, .pure a, s)
  | .abort m, s => (none, .abort m, s)

/-- One turn of a schedule. -/
def Pool.step (hosts : τ → Host S σ) (pool : Pool S σ α) (turn : Nat × τ) :
    List (Event S τ) × Pool S σ α :=
  match pool.tasks[turn.1]? with
  | none => ([], pool)
  | some p =>
      let r := p.turn (hosts turn.2) pool.state
      (r.1.toList.map (fun exchange => ⟨turn.1, turn.2, exchange⟩),
        ⟨pool.tasks.set turn.1 r.2.1, r.2.2⟩)

/-- A schedule: what has happened, in order, and the pool that is left. -/
def Pool.run (hosts : τ → Host S σ) : Pool S σ α → List (Nat × τ) → List (Event S τ) × Pool S σ α
  | pool, [] => ([], pool)
  | pool, turn :: turns =>
      let first := pool.step hosts turn
      let rest := Pool.run hosts first.2 turns
      (first.1 ++ rest.1, rest.2)

theorem Pool.run_append (hosts : τ → Host S σ) (pool : Pool S σ α)
    (before turns : List (Nat × τ)) :
    pool.run hosts (before ++ turns)
      = ((pool.run hosts before).1 ++ ((pool.run hosts before).2.run hosts turns).1,
          ((pool.run hosts before).2.run hosts turns).2) := by
  induction before generalizing pool with
  | nil => rfl
  | cons turn before ih =>
      rw [List.cons_append, Pool.run, Pool.run]
      simp only [ih, List.append_assoc]

/-- What has happened to one task. -/
def ofTask (i : Nat) (history : List (Event S τ)) : List (Event S τ) :=
  history.filter (fun event => event.task == i)

theorem ofTask_append (i : Nat) (before history : List (Event S τ)) :
    ofTask i (before ++ history) = ofTask i before ++ ofTask i history :=
  List.filter_append ..

theorem ofTask_same (i : Nat) (stamp : τ) (exchanges : List (Exchange S)) :
    ofTask i (exchanges.map fun exchange => (⟨i, stamp, exchange⟩ : Event S τ))
      = exchanges.map fun exchange => ⟨i, stamp, exchange⟩ := by
  rw [ofTask, List.filter_eq_self]
  intro event hevent
  obtain ⟨exchange, -, rfl⟩ := List.mem_map.mp hevent
  exact beq_self_eq_true i

theorem ofTask_other {i j : Nat} (hij : j ≠ i) (stamp : τ) (exchanges : List (Exchange S)) :
    ofTask i (exchanges.map fun exchange => (⟨j, stamp, exchange⟩ : Event S τ)) = [] := by
  rw [ofTask, List.filter_eq_nil_iff]
  intro event hevent
  obtain ⟨exchange, -, rfl⟩ := List.mem_map.mp hevent
  simpa using hij

/-- A task at its own turn. -/
theorem Pool.step_same (hosts : τ → Host S σ) {pool : Pool S σ α} {i : Nat} {p : Prog S α}
    (hp : pool.tasks[i]? = some p) (stamp : τ) :
    let r := p.turn (hosts stamp) pool.state
    (pool.step hosts (i, stamp)).2.tasks[i]? = some r.2.1
      ∧ (pool.step hosts (i, stamp)).2.state = r.2.2
      ∧ ofTask i (pool.step hosts (i, stamp)).1
        = r.1.toList.map fun exchange => ⟨i, stamp, exchange⟩ := by
  obtain ⟨hlt, -⟩ := List.getElem?_eq_some_iff.mp hp
  simp only [Pool.step, hp]
  exact ⟨List.getElem?_set_self hlt, trivial, ofTask_same i stamp _⟩

/-- A task at another's turn. -/
theorem Pool.step_other (hosts : τ → Host S σ) (pool : Pool S σ α) {i j : Nat} (hij : j ≠ i)
    (stamp : τ) :
    (pool.step hosts (j, stamp)).2.tasks[i]? = pool.tasks[i]?
      ∧ ofTask i (pool.step hosts (j, stamp)).1 = [] := by
  rw [Pool.step]
  split
  · exact ⟨rfl, rfl⟩
  · exact ⟨List.getElem?_set_ne hij, ofTask_other hij stamp _⟩

/-- A program that obeys a monitor obeys it at its turn. -/
theorem Prog.turn_obeys {Q : Type} {m : Monitor S Q} {final : Q → Prop} {q : Q} {p : Prog S α}
    (hp : m.Obeys final q p) (host : Host S σ) (s : σ) :
    m.Accepts q (p.turn host s).1.toList
      ∧ m.Obeys final (m.after q (p.turn host s).1.toList) (p.turn host s).2.1 := by
  cases p with
  | pure a => exact ⟨trivial, hp⟩
  | op o k => exact ⟨⟨hp.1, trivial⟩, hp.2 _⟩
  | abort msg => exact ⟨trivial, trivial⟩

/-- **One task**: its history is one that a monitor it obeys accepts. -/
theorem Pool.run_obeys {Q : Type} {m : Monitor S Q} {final : Q → Prop} {q : Q}
    (hosts : τ → Host S σ) {pool : Pool S σ α} {i : Nat} {p : Prog S α}
    (htask : pool.tasks[i]? = some p) (hp : m.Obeys final q p) (turns : List (Nat × τ)) :
    m.Accepts q ((ofTask i (pool.run hosts turns).1).map Event.exchange)
      ∧ ∃ p', (pool.run hosts turns).2.tasks[i]? = some p'
        ∧ m.Obeys final
          (m.after q ((ofTask i (pool.run hosts turns).1).map Event.exchange)) p' := by
  induction turns generalizing pool p q with
  | nil => exact ⟨trivial, p, htask, hp⟩
  | cons turn turns ih =>
      obtain ⟨j, stamp⟩ := turn
      rw [Pool.run, ofTask_append, List.map_append, Monitor.accepts_append, Monitor.after_append]
      by_cases hij : j = i
      · subst hij
        obtain ⟨hnext, -, hevents⟩ := Pool.step_same hosts htask stamp
        obtain ⟨haccepts, hobeys⟩ := Prog.turn_obeys hp (hosts stamp) pool.state
        rw [hevents, List.map_map, Function.comp_def, List.map_id']
        obtain ⟨hrest, hleft⟩ := ih hnext hobeys
        exact ⟨⟨haccepts, hrest⟩, hleft⟩
      · obtain ⟨hnext, hevents⟩ := Pool.step_other hosts pool hij stamp
        rw [hevents]
        obtain ⟨hrest, hleft⟩ := ih (hnext.trans htask) hp
        exact ⟨⟨trivial, hrest⟩, hleft⟩

/-! ## Two hosts -/

/-- Two hosts with something in common, `R`: low operations keep it and are answered alike, and
high operations keep it on either side. -/
structure Agree (Low High : S.Op → Prop) (R : σ → σ' → Prop) (hosts : τ → Host S σ)
    (hosts' : τ → Host S σ') : Prop where
  low : ∀ stamp {o s s'}, Low o → R s s' →
    ((hosts stamp).answer o s).1 = ((hosts' stamp).answer o s').1
      ∧ R ((hosts stamp).answer o s).2 ((hosts' stamp).answer o s').2
  high_left : ∀ stamp {o s s'}, High o → R s s' → R ((hosts stamp).answer o s).2 s'
  high_right : ∀ stamp {o s s'}, High o → R s s' → R s ((hosts' stamp).answer o s').2

/-- Low up to some point on each path, and high from there. -/
def Prog.Forks (Low High : S.Op → Prop) : Prog S α → Prop
  | .pure _ => True
  | .op o k => Prog.Only High (.op o k) ∨ (Low o ∧ ∀ r, Forks Low High (k r))
  | .abort _ => True

/-- One task in two runs: the same program still, or both past the point. -/
def Prog.Alike (Low High : S.Op → Prop) (p p' : Prog S α) : Prop :=
  (p = p' ∧ p.Forks Low High) ∨ (p.Only High ∧ p'.Only High)

section Agreement

variable {Low High : S.Op → Prop} {R : σ → σ' → Prop} {hosts : τ → Host S σ}
  {hosts' : τ → Host S σ'}

theorem Prog.Only.forks {p : Prog S α} (hp : p.Only High) : p.Forks Low High := by
  cases p with
  | pure a => trivial
  | op o k => exact .inl hp
  | abort msg => trivial

theorem Prog.Only.turn {P : S.Op → Prop} {p : Prog S α} (hp : p.Only P) (host : Host S σ) (s : σ) :
    (p.turn host s).2.1.Only P :=
  (Prog.turn_obeys hp host s).2

theorem Prog.turn_high_left (h : Agree Low High R hosts hosts') {p : Prog S α} (hp : p.Only High)
    (stamp : τ) {s : σ} {s' : σ'} (hs : R s s') : R (p.turn (hosts stamp) s).2.2 s' := by
  cases p with
  | pure a => exact hs
  | op o k => exact h.high_left stamp hp.1 hs
  | abort msg => exact hs

theorem Prog.turn_high_right (h : Agree Low High R hosts hosts') {p : Prog S α} (hp : p.Only High)
    (stamp : τ) {s : σ} {s' : σ'} (hs : R s s') : R s (p.turn (hosts' stamp) s').2.2 := by
  cases p with
  | pure a => exact hs
  | op o k => exact h.high_right stamp hp.1 hs
  | abort msg => exact hs

/-- A turn keeps a task alike, and what the hosts have in common. -/
theorem Prog.Alike.turn (h : Agree Low High R hosts hosts') {p p' : Prog S α}
    (hp : p.Alike Low High p') (stamp : τ) {s : σ} {s' : σ'} (hs : R s s') :
    (p.turn (hosts stamp) s).2.1.Alike Low High (p'.turn (hosts' stamp) s').2.1
      ∧ R (p.turn (hosts stamp) s).2.2 (p'.turn (hosts' stamp) s').2.2 := by
  have hhigh : ∀ {p p' : Prog S α}, p.Only High → p'.Only High →
      (p.turn (hosts stamp) s).2.1.Alike Low High (p'.turn (hosts' stamp) s').2.1
        ∧ R (p.turn (hosts stamp) s).2.2 (p'.turn (hosts' stamp) s').2.2 := fun hp hp' =>
    ⟨.inr ⟨hp.turn _ _, hp'.turn _ _⟩,
      Prog.turn_high_right h hp' stamp (Prog.turn_high_left h hp stamp hs)⟩
  rcases hp with ⟨rfl, hforks⟩ | ⟨hp, hp'⟩
  · cases p with
    | pure a => exact ⟨.inl ⟨rfl, trivial⟩, hs⟩
    | abort msg => exact ⟨.inl ⟨rfl, trivial⟩, hs⟩
    | op o k =>
        rcases hforks with honly | ⟨hlow, hrest⟩
        · exact hhigh honly honly
        · obtain ⟨hanswer, hnext⟩ := h.low stamp hlow hs
          refine ⟨.inl ⟨?_, hrest _⟩, hnext⟩
          exact congrArg k hanswer
  · exact hhigh hp hp'

/-- A low program's turn is the same on both hosts. -/
theorem Prog.turn_low (h : Agree Low High R hosts hosts') {p : Prog S α} (hp : p.Only Low)
    (stamp : τ) {s : σ} {s' : σ'} (hs : R s s') :
    (p.turn (hosts stamp) s).1 = (p.turn (hosts' stamp) s').1
      ∧ (p.turn (hosts stamp) s).2.1 = (p.turn (hosts' stamp) s').2.1 := by
  cases p with
  | pure a => exact ⟨rfl, rfl⟩
  | abort msg => exact ⟨rfl, rfl⟩
  | op o k =>
      obtain ⟨hanswer, -⟩ := h.low stamp hp.1 hs
      constructor
      · exact congrArg (fun r => some (⟨o, r⟩ : Exchange S)) hanswer
      · exact congrArg k hanswer

/-- Two pools that are alike task by task, on hosts with something in common. -/
structure Pool.Alike (Low High : S.Op → Prop) (R : σ → σ' → Prop) (pool : Pool S σ α)
    (pool' : Pool S σ' α) : Prop where
  state : R pool.state pool'.state
  tasks : ∀ i : Nat, Option.Rel (Prog.Alike Low High) pool.tasks[i]? pool'.tasks[i]?

theorem Pool.Alike.step (h : Agree Low High R hosts hosts') {pool : Pool S σ α}
    {pool' : Pool S σ' α} (halike : pool.Alike Low High R pool') (turn : Nat × τ) :
    (pool.step hosts turn).2.Alike Low High R (pool'.step hosts' turn).2 := by
  obtain ⟨j, stamp⟩ := turn
  have hj := halike.tasks j
  cases hp : pool.tasks[j]? with
  | none =>
      cases hp' : pool'.tasks[j]? with
      | none => simpa only [Pool.step, hp, hp'] using halike
      | some p' => rw [hp, hp'] at hj; cases hj
  | some p =>
      cases hp' : pool'.tasks[j]? with
      | none => rw [hp, hp'] at hj; cases hj
      | some p' =>
          rw [hp, hp'] at hj
          cases hj with
          | some hj =>
              obtain ⟨hnext, hstate⟩ := hj.turn h stamp halike.state
              obtain ⟨htask, hs, -⟩ := Pool.step_same hosts hp stamp
              obtain ⟨htask', hs', -⟩ := Pool.step_same hosts' hp' stamp
              refine ⟨by rw [hs, hs']; exact hstate, fun i => ?_⟩
              by_cases hij : j = i
              · subst hij
                rw [htask, htask']
                exact .some hnext
              · rw [(Pool.step_other hosts pool hij stamp).1,
                  (Pool.step_other hosts' pool' hij stamp).1]
                exact halike.tasks i

/-- **Two hosts**: a task that is low throughout cannot tell them apart. -/
theorem Pool.run_low (h : Agree Low High R hosts hosts') {pool : Pool S σ α}
    {pool' : Pool S σ' α} (halike : pool.Alike Low High R pool') {i : Nat} {p : Prog S α}
    (hp : pool.tasks[i]? = some p) (hp' : pool'.tasks[i]? = some p) (hlow : p.Only Low)
    (turns : List (Nat × τ)) :
    (pool.run hosts turns).2.tasks[i]? = (pool'.run hosts' turns).2.tasks[i]?
      ∧ ofTask i (pool.run hosts turns).1 = ofTask i (pool'.run hosts' turns).1 := by
  induction turns generalizing pool pool' p with
  | nil => exact ⟨hp.trans hp'.symm, rfl⟩
  | cons turn turns ih =>
      obtain ⟨j, stamp⟩ := turn
      have hnext := halike.step h (j, stamp)
      rw [Pool.run, Pool.run, ofTask_append, ofTask_append]
      by_cases hij : j = i
      · subst hij
        obtain ⟨htask, -, hevents⟩ := Pool.step_same hosts hp stamp
        obtain ⟨htask', -, hevents'⟩ := Pool.step_same hosts' hp' stamp
        obtain ⟨hexchange, hprog⟩ := Prog.turn_low h hlow stamp halike.state
        obtain ⟨hleft, hrest⟩ := ih hnext htask (htask'.trans (congrArg some hprog.symm))
          (hlow.turn _ _)
        exact ⟨hleft, by rw [hevents, hevents', hexchange, hrest]⟩
      · obtain ⟨htask, hevents⟩ := Pool.step_other hosts pool hij stamp
        obtain ⟨htask', hevents'⟩ := Pool.step_other hosts' pool' hij stamp
        obtain ⟨hleft, hrest⟩ := ih hnext (htask.trans hp) (htask'.trans hp') hlow
        exact ⟨hleft, by rw [hevents, hevents', hrest]⟩

end Agreement

end Pools

end Lib
