/-
# `SystemdMonitoring.Http.Uptime` — what a 200 of a status endpoint rests on

In production the provider's answer is itself the end of a small conversation
with the machine: connect to the bus of the scope, make a proxy of its manager,
read `SystemState`.  So an answered request for a status has done one of these on
the machine: nothing; that conversation, as far as it has gone; and nothing else.
A 200 is the answer to the conversation that ends with `running`, and to no other
(`uptime_production`).
-/
import SystemdMonitoring.Http.Refinement

namespace SystemdMonitoring

open Lib

/-! ## Reading the state -/

/-- The conversation with a manager about its state, and what the provider makes of it. -/
inductive StateRead (scope : UnitScope) :
    List (Exchange HostSig) → Except AppError String → Prop where
  | noBus (err message : String) :
      StateRead scope [⟨.connect scope, .error err⟩] (.error (.internalError message))
  | noManager (err message : String) :
      StateRead scope [⟨.connect scope, .ok ()⟩, ⟨.proxy scope systemdPath .manager, .error err⟩]
        (.error (.internalError message))
  | unread (err message : String) :
      StateRead scope [⟨.connect scope, .ok ()⟩, ⟨.proxy scope systemdPath .manager, .ok ()⟩,
          ⟨.property scope systemdPath .manager "SystemState" .string, .error err⟩]
        (.error (.internalError message))
  | read (status : String) :
      StateRead scope [⟨.connect scope, .ok ()⟩, ⟨.proxy scope systemdPath .manager, .ok ()⟩,
          ⟨.property scope systemdPath .manager "SystemState" .string, .ok status⟩]
        (.ok status)

/-- An operation by itself, and its answer. -/
theorem ask_leads {o : HostOp} {answer : HostSig.Ans o} {work : List (Exchange HostSig)}
    (h : (ask o).Leads work (pure answer)) : work = [⟨o, answer⟩] := by
  obtain ⟨r, rest, rfl, hrest⟩ := Prog.Leads.op_inv h
  obtain ⟨rfl, rfl⟩ := Prog.Leads.pure_inv hrest
  rfl

/-- An operation that may fail comes to its error, or goes on. -/
theorem failing_leads {α : Type} {context : String} {p : HostProg (Except String α)}
    {answer : Except AppError α} {work : List (Exchange HostSig)}
    (h : (failing context p).run.Leads work (pure answer)) :
    ∃ said, p.Leads work (pure said) ∧ answer = orInternal context said := by
  obtain ⟨said, before, rest, rfl, hsaid, hrest⟩ := Prog.Leads.bind_inv h
  obtain ⟨rfl, rfl⟩ := Prog.Leads.pure_inv hrest
  exact ⟨said, by rwa [List.append_nil], rfl⟩

/-- A sequence comes to the error of its first part, or to what comes of the second. -/
theorem andThen_leads {α β : Type} {p : HostTry α} {f : α → HostTry β}
    {answer : Except AppError β} {work : List (Exchange HostSig)}
    (h : (p >>= f).run.Leads work (pure answer)) :
    (∃ err, p.run.Leads work (pure (.error err)) ∧ answer = .error err)
      ∨ ∃ a before rest, work = before ++ rest ∧ p.run.Leads before (pure (.ok a))
        ∧ (f a).run.Leads rest (pure answer) := by
  rw [ExceptT.run_bind] at h
  obtain ⟨first, before, rest, rfl, hfirst, hrest⟩ := Prog.Leads.bind_inv h
  cases first with
  | error err =>
      obtain ⟨rfl, rfl⟩ := Prog.Leads.pure_inv hrest
      exact .inl ⟨err, by rwa [List.append_nil], rfl⟩
  | ok a => exact .inr ⟨a, before, rest, rfl, hfirst, hrest⟩

theorem dbusConnectionForScope_eq {scope : UnitScope} (hscope : scope ≠ .both) :
    ∃ context, dbusConnectionForScope scope = failing context (ask (.connect scope)) := by
  cases scope with
  | system => exact ⟨_, rfl⟩
  | user => exact ⟨_, rfl⟩
  | both => exact absurd rfl hscope

/-- The conversation is all that the provider does. -/
theorem systemState_leads {scope : UnitScope} (hscope : scope ≠ .both)
    {said : Except AppError String} {work : List (Exchange HostSig)}
    (h : (systemState scope).run.Leads work (pure said)) : StateRead scope work said := by
  obtain ⟨context, hconnect⟩ := dbusConnectionForScope_eq hscope
  rw [systemState, hconnect] at h
  rcases andThen_leads h with ⟨err, hbus, rfl⟩ | ⟨_, bus, rest, rfl, hbus, hrest⟩
  · obtain ⟨answer, hanswer, heq⟩ := failing_leads hbus
    rw [ask_leads hanswer]
    cases answer with
    | error _ =>
        cases heq
        exact .noBus _ _
    | ok _ => cases heq
  · obtain ⟨connected, hconnected, heq⟩ := failing_leads hbus
    obtain rfl : connected = .ok () := by
      cases connected with
      | error _ => cases heq
      | ok _ => rfl
    rw [ask_leads hconnected]
    rcases andThen_leads hrest with ⟨err, hproxy, rfl⟩ | ⟨_, proxy, rest, rfl, hproxy, hread⟩
    · obtain ⟨answer, hanswer, heq⟩ := failing_leads hproxy
      rw [ask_leads hanswer]
      cases answer with
      | error _ =>
          cases heq
          exact .noManager _ _
      | ok _ => cases heq
    · obtain ⟨made, hmade, heq⟩ := failing_leads hproxy
      obtain rfl : made = .ok () := by
        cases made with
        | error _ => cases heq
        | ok _ => rfl
      rw [ask_leads hmade]
      obtain ⟨answer, hanswer, rfl⟩ := failing_leads hread
      rw [ask_leads hanswer]
      cases answer with
      | error err => exact .unread err _
      | ok status => exact .read status

/-- Only one conversation says that the manager is running. -/
theorem StateRead.running_iff {scope : UnitScope} {work : List (Exchange HostSig)}
    {said : Except AppError String} (h : StateRead scope work said) :
    said = .ok "running" ↔ work = [⟨.connect scope, .ok ()⟩,
      ⟨.proxy scope systemdPath .manager, .ok ()⟩,
      ⟨.property scope systemdPath .manager "SystemState" .string, .ok "running"⟩] := by
  cases h with
  | noBus err message => exact iff_of_false (by simp) (by simp)
  | noManager err message => exact iff_of_false (by simp) (by simp)
  | unread err message => exact iff_of_false (by simp) (by simp)
  | read status =>
      constructor
      · intro heq
        cases heq
        rfl
      · intro heq
        cases heq
        rfl

/-! ## In production -/

section Production

variable [HttpStack] [Chrono] [RegexEngine] [McpSdk] [HashOrder] [SerdeJson] {σ : Type}

/-- What an answered request for a status has done on the machine, and its response. -/
def UptimeServed (apiToken : String) (request : Request) (scope : UnitScope)
    (work : List (Exchange HostSig)) (response : Response) : Prop :=
  (work = [] ∧ (response.status = 401 ∨ response.status = 405 ∨ response.status = 429))
    ∨ (Presents apiToken request ∧ (request.method = "GET" ∨ request.method = "HEAD")
        ∧ ∃ said, StateRead scope work said ∧ response = statusResponse scope said)

omit [McpSdk] [HashOrder] in
theorem StatusServed.onMachine {apiToken : String} {request : Request} {scope : UnitScope}
    (hscope : scope ≠ .both) {asked : List (Exchange ProviderSig)} {response : Response}
    (h : StatusServed apiToken request scope asked response) {work : List (Exchange HostSig)}
    (hwork : Expands fulfil asked work) : UptimeServed apiToken request scope work response := by
  rcases h with ⟨rfl, hstatus⟩ | ⟨hpresents, hmethod, said, rfl, hresponse⟩
  · cases hwork
    exact .inl ⟨rfl, hstatus⟩
  · cases hwork with
    | cons hleads hnone =>
        cases hnone
        rw [List.append_nil]
        exact .inr ⟨hpresents, hmethod, said, systemState_leads hscope hleads, hresponse⟩

/-- **A 200 of a status endpoint is the word of its manager**, in production, in any interleaving
and whatever the machine does: an answered request for a status has done nothing on the machine, or
has carried the token and had one conversation with the manager of its own scope, of which the
answer says what came of it; it is a 200 when that conversation has come to `running`, and only
then. -/
theorem uptime_production [LawfulHttpStack] (apiToken : String) (requests : List Request)
    (turns : List (Nat × Moment)) (limiter : RateLimiter) (machine : Moment → Host HostSig σ)
    (s : σ) :
    let run := (deployment apiToken requests limiter s).run (deployedHost machine) turns
    ∀ (i : Nat) (request : Request) (answer : Response) (scope : UnitScope),
      requests[i]? = some request → scope ≠ .both → request.path = statusPath scope →
      run.2.tasks[i]? = some (pure answer) →
      let work := workOf ((ofTask i run.1).map Event.exchange)
      (∃ response, answer = response.to request
        ∧ UptimeServed apiToken request scope work response)
      ∧ (answer.status = 200 ↔ work = [⟨.connect scope, .ok ()⟩,
          ⟨.proxy scope systemdPath .manager, .ok ()⟩,
          ⟨.property scope systemdPath .manager "SystemState" .string, .ok "running"⟩]) := by
  intro run i request answer scope hi hscope hpath hanswer work
  obtain ⟨p, hp, hleads⟩ := Pool.run_leads (deployedHost machine)
    (deployment_task apiToken hi limiter s) turns
  obtain rfl : p = pure answer := Option.some.inj (hp.symm.trans hanswer)
  obtain ⟨plain, hplain, hexpands⟩ := Prog.Leads.interp_inv hleads
  obtain ⟨response, rfl, hserved⟩ := buildApp_status hscope hpath hplain
  have huptime := hserved.onMachine hscope (expands_work hexpands)
  refine ⟨⟨response, rfl, huptime⟩, ?_⟩
  rw [to_status]
  show response.status = 200 ↔ workOf _ = _
  rcases huptime with ⟨hnone, hstatus⟩ | ⟨-, -, said, hread, rfl⟩
  · rw [hnone]
    refine iff_of_false ?_ (by simp)
    rcases hstatus with hstatus | hstatus | hstatus <;> simp [hstatus]
  · rw [statusResponse_ok_iff]
    exact hread.running_iff

end Production

/-! ## A running manager -/

/-- A machine of which only the managers' state is known. -/
def stateMachine (status : String) : Host HostSig Unit where
  answer
    | .connect _, s => (.ok (), s)
    | .proxy _ _ _, s => (.ok (), s)
    | .property _ _ _ _ .string, s => (.ok status, s)
    | .listUnits _, s => (.error "unavailable", s)
    | .getUnit _ _, s => (.error "unavailable", s)
    | .property _ _ _ _ _, s => (.error "unavailable", s)
    | .openJournal _, s => (.error "unavailable", s)
    | .joinReader, s => (.error "unavailable", s)
    | .podman _, s => (.failed "unavailable", s)

def stateRun (status : String) :
    List (Event DeployedSig Moment) × Pool DeployedSig (RateLimiter × Unit) Response :=
  (@deployment rfc3339 noRegex pingJson plainHttp plainSdk nameOrder Unit "t" statusRequests
    (.new .default 0) ()).run (deployedHost fun _ => stateMachine status)
    ((List.replicate 10 [0, 1]).flatten.map fun i => (i, ⟨0, .ofSecs 1767225600⟩))

/-- The request with the token, on a machine whose manager is running. -/
theorem uptime_production_running :
    workOf ((ofTask 1 (stateRun "running").1).map Event.exchange)
      = [⟨.connect .system, .ok ()⟩, ⟨.proxy .system systemdPath .manager, .ok ()⟩,
        ⟨.property .system systemdPath .manager "SystemState" .string, .ok "running"⟩] := by
  have hanswered : ((stateRun "running").2.tasks.map deployedStatusOf)[1]? = some (some 200) := by
    decide +kernel
  obtain ⟨response, hp, h200⟩ := answered_of_deployedStatusOf hanswered
  have h := @uptime_production plainHttp rfc3339 noRegex plainSdk nameOrder pingJson Unit
    lawful_plainHttp "t" statusRequests _ (.new .default 0) (fun _ => stateMachine "running") () 1 _
    response .system rfl (by decide) rfl hp
  exact h.2.mp h200

end SystemdMonitoring
