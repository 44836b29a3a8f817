/-
# `SystemdMonitoring.Http.Refinement` — providers are atomic, as far as anyone can see

The application knows its providers by what they answer, in one turn each.  In
production an answer is the work of many operations on the machine, and other
requests come in between.

Whatever the machine does, the production run is one of the application: there
are answers for the providers to give, and a schedule, with which the application
gives the same responses, takes the limiter through the same decisions, reads the
clocks and writes the logs in the same order at the same moments; and what a
request has done on the machine is, provider by provider, the work that leads to
those answers (`deployment_refines`).  So whatever is shown of the application for
all providers holds in production, as far as that is what `deployment` is: each
request makes its lookups one after the other, and reads an opened journal in one
operation.
-/
import SystemdMonitoring.Http.Deployment
import SystemdMonitoring.Http.Status
import SystemdMonitoring.Lib.Refinement

namespace SystemdMonitoring

open Lib

/-! ## What is seen -/

/-- The clocks, the limiter and the logs. -/
abbrev SeenSig : Sig := ServerSig.sum EdgeSig

def seenOf : Exchange HttpSig → Option (Exchange SeenSig)
  | ⟨.inl (.inl _), _⟩ => none
  | ⟨.inl (.inr o), answer⟩ => some ⟨.inl o, answer⟩
  | ⟨.inr o, answer⟩ => some ⟨.inr o, answer⟩

def deployedSeenOf : Exchange DeployedSig → Option (Exchange SeenSig)
  | ⟨.inl (.inl _), _⟩ => none
  | ⟨.inl (.inr o), answer⟩ => some ⟨.inl o, answer⟩
  | ⟨.inr o, answer⟩ => some ⟨.inr o, answer⟩

/-- An operation on the machine. -/
def OnMachine : DeployedSig.Op → Prop
  | .inl (.inl _) => True
  | _ => False

/-- What has been done on the machine, and what came of it. -/
def machineOf : Exchange DeployedSig → Option (Exchange HostSig)
  | ⟨.inl (.inl o), answer⟩ => some ⟨o, answer⟩
  | _ => none

def workOf (exchanges : List (Exchange DeployedSig)) : List (Exchange HostSig) :=
  exchanges.filterMap machineOf

/-! ## Scripted providers -/

/-- Providers that answer from a script. -/
def scriptedProviders : Host ProviderSig (List (Exchange ProviderSig)) :=
  Host.scripted fun _ => .error (.internalError "not in the script")

/-- The limiter goes on; what the machine remembers makes way for the script. -/
def loaded {σ : Type} (state : RateLimiter × σ) (script : List (Exchange HttpSig)) :
    RateLimiter × List (Exchange ProviderSig) :=
  (state.1, askedOf script)

section Refinement

variable [Chrono] [RegexEngine] [SerdeJson] {σ : Type}

theorem deployed_onMachine (o : ProviderOp) : (deployed (.inl (.inl o))).Only OnMachine := by
  have hserved : (provided o).Only (fun o => OnMachine (.inl o)) :=
    Prog.only_inLeft (fun _ => trivial) (fulfil o)
  have hcall : ∀ o : ServedSig.Op, OnMachine (.inl o) →
      (Prog.call (S := DeployedSig) (.inl o)).Only OnMachine := by
    intro o ho
    exact ⟨ho, fun _ => trivial⟩
  exact Prog.Only.interp hcall hserved

omit [Chrono] [RegexEngine] [SerdeJson] in
theorem workOf_inLeft (work : List (Exchange HostSig)) :
    workOf ((work.map fun exchange => (⟨.inl exchange.1, exchange.2⟩ : Exchange ServedSig)).map
      fun exchange => (⟨.inl exchange.1, exchange.2⟩ : Exchange DeployedSig)) = work := by
  rw [workOf, List.map_map, List.filterMap_map]
  exact List.filterMap_some

/-- What is done on the machine is the work of the providers that have been asked. -/
theorem expands_work {plain : List (Exchange HttpSig)} {whole : List (Exchange DeployedSig)}
    (h : Expands deployed plain whole) : Expands fulfil (askedOf plain) (workOf whole) := by
  induction h with
  | nil => exact .nil
  | @cons o answer work plain whole hwork _ ih =>
      have hwhole : workOf (work ++ whole) = workOf work ++ workOf whole := List.filterMap_append
      rw [hwhole]
      rcases o with (o | o) | o
      · obtain ⟨served, hserved, rfl⟩ := Prog.Leads.inLeft_inv hwork
        obtain ⟨plainWork, hplainWork, rfl⟩ := Prog.Leads.inLeft_inv hserved
        rw [workOf_inLeft]
        exact .cons hplainWork ih
      · obtain ⟨r, rest, rfl, hrest⟩ := Prog.Leads.op_inv hwork
        obtain ⟨rfl, -⟩ := Prog.Leads.pure_inv hrest
        exact ih
      · obtain ⟨r, rest, rfl, hrest⟩ := Prog.Leads.op_inv hwork
        obtain ⟨rfl, -⟩ := Prog.Leads.pure_inv hrest
        exact ih

/-- Production does what the application does on scripted providers. -/
theorem deployed_implements (machine : Moment → Host HostSig σ) :
    Implements deployed OnMachine deployedSeenOf seenOf loaded (deployedHost machine)
      (httpHost fun _ => scriptedProviders) where
  operation := by
    intro o
    rcases o with (o | o) | o
    · refine .inr ⟨deployed_onMachine o, ?_⟩
      intro answer
      refine ⟨rfl, ?_⟩
      intro moment state script
      exact congrArg (fun r => (r.1, state.1, r.2))
        (Host.scripted_answer _ o answer (askedOf script))
    · refine .inl ⟨.inl (.inr o), id, rfl, fun _ => rfl, ?_⟩
      intro moment state script
      cases o <;> rfl
    · refine .inl ⟨.inr o, id, rfl, fun _ => rfl, ?_⟩
      intro moment state script
      cases o <;> rfl
  inner := by
    rintro ((o | o) | o) ho moment state script
    · rfl
    · cases ho
    · cases ho
  unseen := by
    rintro ((o | o) | o) ho answer
    · rfl
    · cases ho
    · cases ho

variable [HttpStack] [McpSdk] [HashOrder]

theorem deployment_begins (apiToken : String) (requests : List Request) :
    Refines deployed (fun _ => []) (requests.map fun request => deploy (buildApp apiToken request))
      (requests.map (buildApp apiToken)) := by
  intro i
  simp only [List.getElem?_map]
  cases requests[i]? with
  | none => exact .none
  | some request =>
      refine .some ?_
      show Prog.Refined deployed [] (deploy (buildApp apiToken request)) _
      rw [buildApp_eq]
      exact .within (q := deployed (.inr .instantNow)) (by rintro r ⟨⟩) (.refl _)

/-- What a production run is, as a run of the application: the same responses and decisions, the
same to be seen, and for each request the work that its providers' answers come from, but for that
of an operation under way. -/
structure Produces (requests : List Request)
    (run : List (Event DeployedSig Moment) × Pool DeployedSig (RateLimiter × σ) Response)
    (run' : List (Event HttpSig Moment)
      × Pool HttpSig (RateLimiter × List (Exchange ProviderSig)) Response) : Prop where
  responses : ∀ (i : Nat) (response : Response),
    run.2.tasks[i]? = some (pure response) ↔ run'.2.tasks[i]? = some (pure response)
  limiter : run.2.state.1 = run'.2.state.1
  seen : visible deployedSeenOf run.1 = visible seenOf run'.1
  work : ∀ (i : Nat) (request : Request), requests[i]? = some request →
    ∃ whole pending, (ofTask i run.1).map Event.exchange = whole ++ pending
      ∧ Expands deployed ((ofTask i run'.1).map Event.exchange) whole
      ∧ (pending = [] ∨ ∃ o q, (deployed o).Leads pending q)
      ∧ ∀ response, run.2.tasks[i]? = some (pure response) → pending = []

/-- **Production is an instance of the application.**  Whatever the machine does, and however the
requests interleave between its operations, there are answers for the providers and a schedule
under which the application has the same responses, the same decisions of the one limiter, and the
same clocks, audit lines and log lines in the same order at the same moments; and what a request has
done on the machine is the work of its providers' own programs, one after the other, each coming to
the answer that it has there.  A program makes its lookups in sequence and reads an opened journal
in one operation. -/
theorem deployment_refines (apiToken : String) (requests : List Request)
    (turns : List (Nat × Moment)) (limiter : RateLimiter) (machine : Moment → Host HostSig σ)
    (s : σ) :
    ∃ (script : List (Exchange ProviderSig)) (turns' : List (Nat × Moment)),
      Produces requests ((deployment apiToken requests limiter s).run (deployedHost machine) turns)
        ((app apiToken requests limiter script).run (httpHost fun _ => scriptedProviders)
          turns') := by
  let pool := deployment apiToken requests limiter s
  have hbegins : Refines deployed (fun _ => []) pool.tasks (requests.map (buildApp apiToken)) :=
    deployment_begins apiToken requests
  obtain ⟨sim, hsim⟩ := hbegins.run (deployed_implements machine) turns
  have hrun : (app apiToken requests limiter (askedOf sim.script)).run
      (httpHost fun _ => scriptedProviders) sim.turns
      = (sim.events, ⟨sim.left, loaded (pool.run (deployedHost machine) turns).2.state []⟩) := by
    have hempty := hsim.run []
    rw [List.append_nil] at hempty
    exact hempty
  refine ⟨askedOf sim.script, sim.turns, ?_, ?_, ?_, ?_⟩
  · intro i response
    rw [hrun]
    exact hsim.refines.pure_iff i response
  · rw [hrun]
    rfl
  · rw [hrun]
    exact hsim.seen
  · intro i request hi
    rw [hrun]
    obtain ⟨whole, hexpands, hwhole⟩ := hsim.expands i
    obtain ⟨p, hp, -⟩ := Pool.run_leads (httpHost fun _ => scriptedProviders)
      (app_task apiToken hi limiter (askedOf sim.script)) sim.turns
    rw [hrun] at hp
    obtain ⟨c, hrefined⟩ := hsim.refines.task hp
    refine ⟨whole, sim.pending i, hwhole, hexpands, hrefined.unfinished, ?_⟩
    intro response hresponse
    have hdone := (hsim.refines.pure_iff i response).mp hresponse
    exact hrefined.finished (Option.some.inj (hp.symm.trans hdone))

end Refinement

end SystemdMonitoring
