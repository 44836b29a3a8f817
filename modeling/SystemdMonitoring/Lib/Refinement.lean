/-
# `SystemdMonitoring.Lib.Refinement` — operations that are programs of their own

`p.interp f` puts the program `f o` in place of every operation `o`.  In a pool of
such tasks an operation is no longer one turn: others come in between, and the
host changes under it.  Still, every schedule of these tasks does what some
schedule of the plain ones does, on a host that answers a worked operation with
what its program has come to (`Pool.Refines.run`).

Forward simulation: a plain task waits at `o` as long as the program in its place
is under way (`Refined.within`), and takes its turn when that has come to an
answer, together with all operations behind it whose programs ask for nothing.
The answers are read off a script, in the order in which they are given; the
script is put together from the back, so what is shown of a turn holds for
whatever is left of it.

Operations come in two kinds.  A *carried* one is an operation of the other host,
answered alike; a *worked* one is answered by the script, and nothing that its
program asks for has an effect that plain tasks could see.
-/
import SystemdMonitoring.Lib.Replay

namespace Lib

variable {S T : Sig} {τ σ ρ α ε : Type} {f : (o : S.Op) → Prog T (S.Ans o)}

/-! ## Histories -/

/-- A history in which every operation is carried out by its program. -/
inductive Expands (f : (o : S.Op) → Prog T (S.Ans o)) :
    List (Exchange S) → List (Exchange T) → Prop where
  | nil : Expands f [] []
  | cons {o : S.Op} {r : S.Ans o} {work : List (Exchange T)} {history : List (Exchange S)}
      {whole : List (Exchange T)} (h : (f o).Leads work (Pure.pure r))
      (hrest : Expands f history whole) : Expands f (⟨o, r⟩ :: history) (work ++ whole)

theorem Expands.append {before history : List (Exchange S)} {whole rest : List (Exchange T)}
    (h : Expands f before whole) (h' : Expands f history rest) :
    Expands f (before ++ history) (whole ++ rest) := by
  induction h with
  | nil => exact h'
  | cons hwork _ ih =>
      rw [List.append_assoc]
      exact .cons hwork ih

/-- A finished history of the other program is an expanded one of the plain program. -/
theorem Prog.Leads.interp_inv {p : Prog S α} {a : α} {history : List (Exchange T)}
    (h : (p.interp f).Leads history (Pure.pure a)) :
    ∃ plain, p.Leads plain (Pure.pure a) ∧ Expands f plain history := by
  induction p generalizing history with
  | pure b =>
      obtain ⟨rfl, rfl⟩ := Prog.Leads.pure_inv h
      exact ⟨[], .refl _, .nil⟩
  | op o k ih =>
      obtain ⟨r, work, rest, rfl, hwork, hrest⟩ := Prog.Leads.bind_inv h
      obtain ⟨plain, hplain, hexpands⟩ := ih r hrest
      exact ⟨⟨o, r⟩ :: plain, .op hplain, .cons hwork hexpands⟩
  | abort msg => cases h

/-- A host gives these answers, one after the other, and is then in that state. -/
def Host.Gives (host : Host S ρ) : ρ → List (Exchange S) → ρ → Prop
  | t, [], t' => t = t'
  | t, ⟨o, r⟩ :: history, t' =>
      (host.answer o t).1 = r ∧ Host.Gives host (host.answer o t).2 history t'

/-- A task that is given its answers comes to what they lead to, at its turns. -/
theorem Pool.run_gives {hosts : τ → Host S ρ} {i : Nat} {stamp : τ} {p p' : Prog S α}
    {history : List (Exchange S)} (hp : p.Leads history p') {tasks : List (Prog S α)} {t t' : ρ}
    (htask : tasks[i]? = some p) (hgives : (hosts stamp).Gives t history t') :
    Pool.run hosts ⟨tasks, t⟩ (List.replicate history.length (i, stamp))
      = (history.map fun exchange => ⟨i, stamp, exchange⟩, ⟨tasks.set i p', t'⟩) := by
  obtain ⟨hlt, hget⟩ := List.getElem?_eq_some_iff.mp htask
  induction hp generalizing tasks t with
  | refl p =>
      obtain rfl : t = t' := hgives
      rw [← hget, List.set_getElem_self]
      rfl
  | @op o k r history p' _ ih =>
      obtain ⟨hanswer, hrest⟩ := hgives
      have hstep : Pool.step hosts ⟨tasks, t⟩ (i, stamp)
          = ([⟨i, stamp, ⟨o, r⟩⟩], ⟨tasks.set i (k r), ((hosts stamp).answer o t).2⟩) := by
        simp only [Pool.step, htask, Prog.turn, hanswer, Option.toList_some, List.map_cons,
          List.map_nil]
      rw [List.length_cons, List.replicate_succ, Pool.run, hstep]
      have hset : (tasks.set i (k r))[i]? = some (k r) := List.getElem?_set_self hlt
      have hlt' : i < (tasks.set i (k r)).length := by rwa [List.length_set]
      rw [ih hset hrest hlt' (List.getElem_set_self hlt'), List.set_set]
      rfl

/-! ## One task -/

/-- What has become of a task, after the exchanges that belong to the operation under way. -/
inductive Prog.Refined (f : (o : S.Op) → Prog T (S.Ans o)) :
    List (Exchange T) → Prog T α → Prog S α → Prop where
  | pure (a : α) : Refined f [] (Pure.pure a) (Pure.pure a)
  | abort (msg : String) : Refined f [] (.abort msg) (.abort msg)
  | within {o : S.Op} {k : S.Ans o → Prog S α} {pending : List (Exchange T)}
      {q : Prog T (S.Ans o)} (hq : ∀ r, q ≠ Pure.pure r) (h : (f o).Leads pending q) :
      Refined f pending (q >>= fun r => (k r).interp f) (.op o k)

/-- A task has come to a value when the plain one has. -/
theorem Prog.Refined.pure_iff {pending : List (Exchange T)} {c : Prog T α} {p : Prog S α}
    (h : Prog.Refined f pending c p) (a : α) : c = Pure.pure a ↔ p = Pure.pure a := by
  cases h with
  | pure b =>
      constructor
      · intro heq
        cases heq
        rfl
      · intro heq
        cases heq
        rfl
  | abort msg => exact iff_of_false (by rintro ⟨⟩) (by rintro ⟨⟩)
  | @within o k pending q hq _ =>
      refine iff_of_false ?_ (by rintro ⟨⟩)
      cases q with
      | pure r => exact absurd rfl (hq r)
      | op o' k' => rintro ⟨⟩
      | abort msg => rintro ⟨⟩

/-- What belongs to the operation under way is the beginning of its program. -/
theorem Prog.Refined.unfinished {pending : List (Exchange T)} {c : Prog T α} {p : Prog S α}
    (h : Prog.Refined f pending c p) : pending = [] ∨ ∃ o q, (f o).Leads pending q := by
  cases h with
  | pure _ => exact .inl rfl
  | abort _ => exact .inl rfl
  | within _ h => exact .inr ⟨_, _, h⟩

/-- A task that has come to a value is within no operation. -/
theorem Prog.Refined.finished {pending : List (Exchange T)} {c : Prog T α} {p : Prog S α}
    (h : Prog.Refined f pending c p) {a : α} (ha : p = Pure.pure a) : pending = [] := by
  cases h with
  | pure _ => rfl
  | abort _ => rfl
  | within _ _ => cases ha

/-- The host that answers from a script, as long as it is asked for what is there. -/
def Host.scripted [DecidableEq S.Op] (otherwise : (o : S.Op) → S.Ans o) :
    Host S (List (Exchange S)) where
  answer
    | o, [] => (otherwise o, [])
    | o, ⟨o', r⟩ :: script => if h : o' = o then (h ▸ r, script) else (otherwise o, script)

theorem Host.scripted_answer [DecidableEq S.Op] (otherwise : (o : S.Op) → S.Ans o) (o : S.Op)
    (r : S.Ans o) (script : List (Exchange S)) :
    (Host.scripted otherwise).answer o (⟨o, r⟩ :: script) = (r, script) :=
  dif_pos rfl

/-- An operation that the other host answers, alike and in full sight. -/
def Carried (f : (o : S.Op) → Prog T (S.Ans o)) (seen : Exchange T → Option ε)
    (seen' : Exchange S → Option ε) (load : σ → List (Exchange S) → ρ) (concrete : τ → Host T σ)
    (plain : τ → Host S ρ) (o : S.Op) : Prop :=
  ∃ (o' : T.Op) (g : T.Ans o' → S.Ans o), f o = .op o' (fun r => Pure.pure (g r))
    ∧ (∀ r, seen ⟨o', r⟩ = seen' ⟨o, g r⟩)
    ∧ ∀ stamp s script, (plain stamp).answer o (load s script)
      = (g ((concrete stamp).answer o' s).1, load ((concrete stamp).answer o' s).2 script)

/-- An operation that the script answers; its program is out of sight. -/
def Worked (f : (o : S.Op) → Prog T (S.Ans o)) (Inner : T.Op → Prop)
    (seen' : Exchange S → Option ε) (load : σ → List (Exchange S) → ρ) (plain : τ → Host S ρ)
    (o : S.Op) : Prop :=
  (f o).Only Inner ∧ ∀ r, seen' ⟨o, r⟩ = none ∧ ∀ stamp s script,
    (plain stamp).answer o (load s (⟨o, r⟩ :: script)) = (r, load s script)

/-- What `f` puts in place does what the plain operations do. -/
structure Implements (f : (o : S.Op) → Prog T (S.Ans o)) (Inner : T.Op → Prop)
    (seen : Exchange T → Option ε) (seen' : Exchange S → Option ε)
    (load : σ → List (Exchange S) → ρ) (concrete : τ → Host T σ) (plain : τ → Host S ρ) :
    Prop where
  operation : ∀ o, Carried f seen seen' load concrete plain o ∨ Worked f Inner seen' load plain o
  inner : ∀ {o}, Inner o → ∀ stamp s script,
    load ((concrete stamp).answer o s).2 script = load s script
  unseen : ∀ {o}, Inner o → ∀ r, seen ⟨o, r⟩ = none

section Implementation

variable {Inner : T.Op → Prop} {seen : Exchange T → Option ε} {seen' : Exchange S → Option ε}
  {load : σ → List (Exchange S) → ρ} {concrete : τ → Host T σ} {plain : τ → Host S ρ}

/-- What the plain task has done by now, at operations whose programs ask for nothing: it is given
its answers by the script, and nothing of that is seen. -/
theorem Implements.settle (h : Implements f Inner seen seen' load concrete plain)
    (p : Prog S α) :
    ∃ history p', p.Leads history p' ∧ Prog.Refined f [] (p.interp f) p' ∧ Expands f history []
      ∧ history.filterMap seen' = []
      ∧ ∀ stamp s rest, (plain stamp).Gives (load s (history ++ rest)) history (load s rest) := by
  induction p with
  | pure a => exact ⟨[], _, .refl _, .pure a, .nil, rfl, fun _ _ _ => rfl⟩
  | abort msg => exact ⟨[], _, .refl _, .abort msg, .nil, rfl, fun _ _ _ => rfl⟩
  | op o k ih =>
      by_cases hq : ∃ r, f o = Pure.pure r
      · obtain ⟨r, hr⟩ := hq
        obtain ⟨history, p', hleads, hrefined, hexpands, hseen, hgives⟩ := ih r
        rcases h.operation o with ⟨o', g, hop, -, -⟩ | ⟨-, hworked⟩
        · rw [hop] at hr
          cases hr
        · obtain ⟨hnone, hanswer⟩ := hworked r
          have hwork : (f o).Leads [] (Pure.pure r) := by
            rw [hr]
            exact .refl _
          refine ⟨⟨o, r⟩ :: history, p', .op hleads, ?_, .cons hwork hexpands, ?_, ?_⟩
          · rw [Prog.interp, hr]
            exact hrefined
          · rw [List.filterMap_cons_none hnone, hseen]
          · intro stamp s rest
            have hfirst := hanswer stamp s (history ++ rest)
            refine ⟨congrArg Prod.fst hfirst, ?_⟩
            rw [List.cons_append, hfirst]
            exact hgives stamp s rest
      · refine ⟨[], .op o k, .refl _, ?_, .nil, rfl, fun _ _ _ => rfl⟩
        exact .within (fun r hr => hq ⟨r, hr⟩) (.refl _)

/-- What a turn of a task comes to for the plain one: its own turns, what the script has to say at
them, and how its history expands to the other's. -/
structure Matches (f : (o : S.Op) → Prog T (S.Ans o)) (seen : Exchange T → Option ε)
    (seen' : Exchange S → Option ε) (load : σ → List (Exchange S) → ρ) (host : Host S ρ)
    (s s' : σ) (pending : List (Exchange T)) (told : List (Exchange T)) (c' : Prog T α)
    (p : Prog S α) (script history : List (Exchange S)) (pending' : List (Exchange T))
    (p' : Prog S α) : Prop where
  leads : p.Leads history p'
  refined : Prog.Refined f pending' c' p'
  expands : ∃ whole, Expands f history whole ∧ pending ++ told = whole ++ pending'
  seen : told.filterMap seen = history.filterMap seen'
  gives : ∀ rest, host.Gives (load s (script ++ rest)) history (load s' rest)

/-- **One turn of a task.** -/
theorem Prog.Refined.turn (h : Implements f Inner seen seen' load concrete plain)
    {pending : List (Exchange T)} {c : Prog T α} {p : Prog S α} (hp : Prog.Refined f pending c p)
    (stamp : τ) (s : σ) :
    ∃ script history pending' p', Matches f seen seen' load (plain stamp) s
      (c.turn (concrete stamp) s).2.2 pending (c.turn (concrete stamp) s).1.toList
      (c.turn (concrete stamp) s).2.1 p script history pending' p' := by
  cases hp with
  | pure a => exact ⟨[], [], [], _, .refl _, .pure a, ⟨[], .nil, rfl⟩, rfl, fun _ => rfl⟩
  | abort msg => exact ⟨[], [], [], _, .refl _, .abort msg, ⟨[], .nil, rfl⟩, rfl, fun _ => rfl⟩
  | @within o k pending q hq hleads =>
      cases q with
      | pure r => exact absurd rfl (hq r)
      | abort msg =>
          refine ⟨[], [], pending, _, .refl _, .within hq hleads, ⟨[], .nil, ?_⟩, rfl, fun _ => rfl⟩
          exact List.append_nil _
      | op o' k' =>
          generalize hr' : (concrete stamp).answer o' s = r'
          have hturn : ((Prog.op o' k' : Prog T (S.Ans o)) >>= fun r => (k r).interp f).turn
              (concrete stamp) s
              = (some ⟨o', r'.1⟩, k' r'.1 >>= fun r => (k r).interp f, r'.2) := by
            rw [Prog.op_bind, Prog.turn, hr']
          have hnext : (f o).Leads (pending ++ [⟨o', r'.1⟩]) (k' r'.1) :=
            hleads.trans (.op (.refl _))
          rw [hturn]
          by_cases hdone : ∃ r, k' r'.1 = Pure.pure r
          · -- the program has come to its answer: the plain task takes its turn
            obtain ⟨r, hr⟩ := hdone
            obtain ⟨history, p', hsettled, hrefined, hexpands, hseen, hgives⟩ := h.settle (k r)
            rw [hr] at hnext ⊢
            have hwhole : ∃ whole, Expands f (⟨o, r⟩ :: history) whole
                ∧ pending ++ [⟨o', r'.1⟩] = whole ++ [] :=
              ⟨_, .cons hnext hexpands, by simp only [List.append_nil]⟩
            rcases h.operation o with ⟨o'', g, hop, hsame, hanswer⟩ | ⟨honly, hworked⟩
            · -- a carried operation is all of its program
              rw [hop] at hleads
              cases hleads with
              | refl =>
                  cases hr
                  refine ⟨history, ⟨o, g r'.1⟩ :: history, [], p', .op hsettled, hrefined, hwhole,
                    ?_, ?_⟩
                  · have hfirst := hsame r'.1
                    simp only [Option.toList_some, List.filterMap_cons, List.filterMap_nil, hfirst,
                      hseen]
                  · intro rest
                    have hfirst := hanswer stamp s (history ++ rest)
                    rw [hr'] at hfirst
                    refine ⟨congrArg Prod.fst hfirst, ?_⟩
                    rw [hfirst]
                    exact hgives stamp r'.2 rest
              | op hrest => cases hrest
            · obtain ⟨hnone, hanswer⟩ := hworked r
              have hinner : Inner o' :=
                hnext.only honly ⟨o', r'.1⟩ (List.mem_append_right _ List.mem_cons_self)
              refine ⟨⟨o, r⟩ :: history, ⟨o, r⟩ :: history, [], p', .op hsettled, hrefined, hwhole,
                ?_, ?_⟩
              · rw [Option.toList_some, List.filterMap_cons_none (h.unseen hinner _),
                  List.filterMap_cons_none hnone, hseen, List.filterMap_nil]
              · intro rest
                have hfirst := hanswer stamp s (history ++ rest)
                have hload : load r'.2 rest = load s rest := hr' ▸ h.inner hinner stamp s rest
                refine ⟨congrArg Prod.fst hfirst, ?_⟩
                rw [List.cons_append, hfirst, hload]
                exact hgives stamp s rest
          · -- it has not, and nothing has happened that the plain task could see
            have hworked : Worked f Inner seen' load plain o := by
              rcases h.operation o with ⟨o'', g, hop, -, -⟩ | hworked
              · rw [hop] at hleads
                cases hleads with
                | refl => exact absurd ⟨_, rfl⟩ hdone
                | op hrest => cases hrest
              · exact hworked
            have hinner : Inner o' :=
              hnext.only hworked.1 ⟨o', r'.1⟩ (List.mem_append_right _ List.mem_cons_self)
            refine ⟨[], [], pending ++ [⟨o', r'.1⟩], .op o k, .refl _,
              .within (fun r hr => hdone ⟨r, hr⟩) hnext, ⟨[], .nil, rfl⟩, ?_, ?_⟩
            · rw [Option.toList_some, List.filterMap_cons_none (h.unseen hinner _)]
              rfl
            · intro rest
              have hload : load r'.2 rest = load s rest := hr' ▸ h.inner hinner stamp s rest
              exact hload.symm

/-! ## Pools -/

/-- Tasks, and what has become of each of them. -/
def Refines (f : (o : S.Op) → Prog T (S.Ans o)) (pending : Nat → List (Exchange T))
    (tasks : List (Prog T α)) (tasks' : List (Prog S α)) : Prop :=
  ∀ i : Nat, Option.Rel (Prog.Refined f (pending i)) tasks[i]? tasks'[i]?

theorem Refines.pure_iff {pending : Nat → List (Exchange T)} {tasks : List (Prog T α)}
    {tasks' : List (Prog S α)} (h : Refines f pending tasks tasks') (i : Nat) (a : α) :
    tasks[i]? = some (Pure.pure a) ↔ tasks'[i]? = some (Pure.pure a) := by
  have htask := h i
  revert htask
  generalize tasks[i]? = task
  generalize tasks'[i]? = task'
  rintro (hrefined | _)
  · rw [Option.some.injEq, Option.some.injEq]
    exact hrefined.pure_iff a
  · exact iff_of_false nofun nofun

theorem Refines.task {pending : Nat → List (Exchange T)} {tasks : List (Prog T α)}
    {tasks' : List (Prog S α)} (h : Refines f pending tasks tasks') {i : Nat} {p : Prog S α}
    (hi : tasks'[i]? = some p) : ∃ c, Prog.Refined f (pending i) c p := by
  have htask := h i
  rw [hi] at htask
  revert htask
  generalize tasks[i]? = task
  rintro ⟨hrefined⟩
  exact ⟨_, hrefined⟩

/-- What is seen of a history, and whose it is. -/
def visible (seen : Exchange S → Option ε) (events : List (Event S τ)) : List (Nat × τ × ε) :=
  events.filterMap fun event => (seen event.exchange).map fun e => (event.task, event.stamp, e)

theorem visible_append (seen : Exchange S → Option ε) (before events : List (Event S τ)) :
    visible seen (before ++ events) = visible seen before ++ visible seen events :=
  List.filterMap_append

theorem visible_map (seen : Exchange S → Option ε) (i : Nat) (stamp : τ)
    (history : List (Exchange S)) :
    visible seen (history.map fun exchange => ⟨i, stamp, exchange⟩)
      = (history.filterMap seen).map fun e => (i, stamp, e) := by
  rw [visible, List.filterMap_map, List.map_filterMap]
  rfl

/-- A run of the plain tasks: its script, its schedule, its history, and the tasks that are left;
beside it, what the other's tasks have of the operations under way. -/
structure Simulation (S T : Sig) (τ α : Type) where
  script : List (Exchange S)
  turns : List (Nat × τ)
  events : List (Event S τ)
  left : List (Prog S α)
  pending : Nat → List (Exchange T)

/-- The plain tasks do what has happened, from before it to behind it. -/
structure Simulates (f : (o : S.Op) → Prog T (S.Ans o)) (seen : Exchange T → Option ε)
    (seen' : Exchange S → Option ε) (load : σ → List (Exchange S) → ρ) (plain : τ → Host S ρ)
    (pending : Nat → List (Exchange T)) (tasks : List (Prog S α)) (s : σ)
    (events : List (Event T τ)) (last : Pool T σ α) (sim : Simulation S T τ α) : Prop where
  refines : Refines f sim.pending last.tasks sim.left
  expands : ∀ i, ∃ whole, Expands f ((ofTask i sim.events).map Event.exchange) whole
    ∧ pending i ++ (ofTask i events).map Event.exchange = whole ++ sim.pending i
  seen : visible seen events = visible seen' sim.events
  run : ∀ rest, Pool.run plain ⟨tasks, load s (sim.script ++ rest)⟩ sim.turns
    = (sim.events, ⟨sim.left, load last.state rest⟩)

theorem Simulates.refl {pending : Nat → List (Exchange T)} {pool : Pool T σ α}
    {tasks : List (Prog S α)} (h : Refines f pending pool.tasks tasks) :
    Simulates f seen seen' load plain pending tasks pool.state [] pool ⟨[], [], [], tasks, pending⟩
    where
  refines := h
  expands _ := ⟨[], .nil, List.append_nil _⟩
  seen := rfl
  run _ := rfl

/-- One run behind another. -/
theorem Simulates.append {pending : Nat → List (Exchange T)} {tasks : List (Prog S α)} {s : σ}
    {before events : List (Event T τ)} {middle last : Pool T σ α} {sim sim' : Simulation S T τ α}
    (h : Simulates f seen seen' load plain pending tasks s before middle sim)
    (h' : Simulates f seen seen' load plain sim.pending sim.left middle.state events last sim') :
    Simulates f seen seen' load plain pending tasks s (before ++ events) last
      ⟨sim.script ++ sim'.script, sim.turns ++ sim'.turns, sim.events ++ sim'.events, sim'.left,
        sim'.pending⟩ where
  refines := h'.refines
  expands i := by
    obtain ⟨whole, hexpands, hwhole⟩ := h.expands i
    obtain ⟨whole', hexpands', hwhole'⟩ := h'.expands i
    refine ⟨whole ++ whole', ?_, ?_⟩
    · rw [ofTask_append, List.map_append]
      exact hexpands.append hexpands'
    · rw [ofTask_append, List.map_append, ← List.append_assoc, hwhole, List.append_assoc, hwhole',
        List.append_assoc]
  seen := by rw [visible_append, visible_append, h.seen, h'.seen]
  run rest := by
    rw [Pool.run_append, List.append_assoc, h.run]
    dsimp only
    rw [h'.run]

/-- A turn of the pool. -/
theorem Refines.step (h : Implements f Inner seen seen' load concrete plain)
    {pending : Nat → List (Exchange T)} {pool : Pool T σ α} {tasks : List (Prog S α)}
    (hrefines : Refines f pending pool.tasks tasks) (turn : Nat × τ) :
    ∃ sim, Simulates f seen seen' load plain pending tasks pool.state (pool.step concrete turn).1
      (pool.step concrete turn).2 sim := by
  obtain ⟨j, stamp⟩ := turn
  have hj := hrefines j
  cases hc : pool.tasks[j]? with
  | none =>
      simp only [Pool.step, hc]
      exact ⟨_, .refl hrefines⟩
  | some c =>
      cases hp : tasks[j]? with
      | none => rw [hc, hp] at hj; cases hj
      | some p =>
          rw [hc, hp] at hj
          cases hj with
          | some hj =>
              obtain ⟨script, history, pending', p', hmatch⟩ := hj.turn h stamp pool.state
              obtain ⟨hnext, hstate, -⟩ := Pool.step_same concrete hc stamp
              have hevents : (pool.step concrete (j, stamp)).1
                  = (c.turn (concrete stamp) pool.state).1.toList.map
                    fun exchange => ⟨j, stamp, exchange⟩ := by
                simp only [Pool.step, hc]
              obtain ⟨hlt, -⟩ := List.getElem?_eq_some_iff.mp hp
              refine ⟨⟨script, List.replicate history.length (j, stamp),
                history.map fun exchange => ⟨j, stamp, exchange⟩, tasks.set j p',
                Function.update pending j pending'⟩, ?_, ?_, ?_, ?_⟩
              · intro i
                dsimp only
                by_cases hij : j = i
                · subst hij
                  rw [hnext, List.getElem?_set_self hlt, Function.update_self]
                  exact .some hmatch.refined
                · rw [(Pool.step_other concrete pool hij stamp).1, List.getElem?_set_ne hij,
                    Function.update_of_ne (Ne.symm hij)]
                  exact hrefines i
              · intro i
                dsimp only
                rw [hevents]
                by_cases hij : j = i
                · subst hij
                  obtain ⟨whole, hexpands, hwhole⟩ := hmatch.expands
                  refine ⟨whole, ?_, ?_⟩
                  · rw [ofTask_same, List.map_map, Function.comp_def, List.map_id']
                    exact hexpands
                  · rw [ofTask_same, List.map_map, Function.comp_def, List.map_id',
                      Function.update_self]
                    exact hwhole
                · refine ⟨[], ?_, ?_⟩
                  · rw [ofTask_other hij]
                    exact .nil
                  · rw [ofTask_other hij, Function.update_of_ne (Ne.symm hij), List.map_nil,
                      List.append_nil, List.nil_append]
              · rw [hevents, visible_map, visible_map, hmatch.seen]
              · intro rest
                rw [hstate]
                exact Pool.run_gives hmatch.leads hp (hmatch.gives rest)

/-- **Every schedule is simulated by one of the plain tasks**, whatever comes between the operations
of a program. -/
theorem Refines.run (h : Implements f Inner seen seen' load concrete plain)
    {pending : Nat → List (Exchange T)} {pool : Pool T σ α} {tasks : List (Prog S α)}
    (hrefines : Refines f pending pool.tasks tasks) (turns : List (Nat × τ)) :
    ∃ sim, Simulates f seen seen' load plain pending tasks pool.state (pool.run concrete turns).1
      (pool.run concrete turns).2 sim := by
  induction turns generalizing pool pending tasks with
  | nil => exact ⟨_, .refl hrefines⟩
  | cons turn turns ih =>
      obtain ⟨sim, hfirst⟩ := hrefines.step h turn
      obtain ⟨sim', hrest⟩ := ih hfirst.refines
      exact ⟨_, hfirst.append hrest⟩

end Implementation

end Lib
