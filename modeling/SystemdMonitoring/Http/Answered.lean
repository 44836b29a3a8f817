/-
# `SystemdMonitoring.Http.Answered` — every request is answered

A request is one task among many, and does one operation at each of its turns.
With every operation at one, its budget is how many turns it needs: its share of
work, seven operations of the server's own, and what the rows that the machine
hands to it give it to do.  No path of it stops, and so it has an answer once it
has had that many turns, in whatever order and however many turns the others have
in between, and whatever the machine answers (`requests_answered`).

The reading of an opened journal is part of one turn here, that of the task that
reads it: how long a scan takes is not said.
-/
import SystemdMonitoring.Http.Budget
import SystemdMonitoring.Lib.Progress

namespace SystemdMonitoring

open Lib

/-! ## Every path returns -/

section Returns

theorem edge_bind_returns {α : Type} {P : α → Prop} {o : EdgeOp} {f : EdgeSig.Ans o → Http α}
    (hf : ∀ answer, (f answer).Returns P) : (edge o >>= f).Returns P := hf

theorem intoResponse_returns (err : AppError) : (intoResponse err).Returns fun _ => True := by
  cases err with
  | internal code message => exact edge_bind_returns fun _ => Prog.Returns.value trivial
  | _ => exact Prog.Returns.value trivial

theorem engine_returns {α : Type} {P : α → Prop} {p : App α} (h : p.Returns P) :
    (engine p).Returns P :=
  (Prog.All_inLeft _ _).mpr h

theorem systemdStatus_returns (scope : UnitScope) :
    (systemdStatus scope).Returns fun _ => True := by
  have hask : (engine (provider (.systemState scope))).Returns fun _ => True :=
    fun _ => ⟨_, rfl, trivial⟩
  refine hask.bind ?_
  intro answer _
  cases answer with
  | error err => exact intoResponse_returns err
  | ok status =>
      dsimp only
      split <;> exact Prog.Returns.value trivial

theorem logged_returns (request : Request) (startedAt : Duration) (response : Response) :
    (logged request startedAt response).Returns fun _ => True := by
  refine edge_bind_returns fun finishedAt => edge_bind_returns fun summary => ?_
  split
  · exact edge_bind_returns fun _ => Prog.Returns.value trivial
  · exact Prog.Returns.value trivial

variable [Chrono] [McpSdk] [LawfulMcpSdk] [HashOrder] [SerdeJson]

theorem handleBatch_returns (batch responses : List Json) :
    (handleBatch batch responses).Returns fun _ => True := by
  induction batch generalizing responses with
  | nil => exact Prog.Returns.value trivial
  | cons item batch ih =>
      refine (handleJsonRpcValue_answers item).bind ?_
      intro answer _
      cases answer with
      | none => exact ih responses
      | some response => exact ih (responses ++ [response])

theorem mcpEndpoint_returns (body : List UInt8) :
    (mcpEndpoint body).Returns fun _ => True := by
  rw [mcpEndpoint]
  split
  · exact Prog.Returns.value trivial
  · exact Prog.Returns.value trivial
  · refine (handleBatch_returns _ []).bind ?_
    intro responses _
    split <;> exact Prog.Returns.value trivial
  · refine (handleJsonRpcValue_answers _).bind ?_
    intro answer _
    cases answer <;> exact Prog.Returns.value trivial

theorem runHandler_returns (handler : Handler) (request : Request) :
    (runHandler handler request).Returns fun _ => True := by
  refine edge_bind_returns fun reached => ?_
  cases handler with
  | health => exact Prog.Returns.value trivial
  | discovery => exact Prog.Returns.value trivial
  | mcpEndpoint => exact engine_returns (mcpEndpoint_returns request.body)
  | systemdSystemStatus => exact systemdStatus_returns .system
  | systemdUserStatus => exact systemdStatus_returns .user

variable [HttpStack]

omit [Chrono] [McpSdk] [LawfulMcpSdk] [HashOrder] [SerdeJson] in
theorem requireBearerToken_returns {apiToken : String} {request : Request} {next : Http Response}
    (h : next.Returns fun _ => True) :
    (requireBearerToken apiToken request next).Returns fun _ => True := by
  refine edge_bind_returns fun reached => ?_
  split
  · exact intoResponse_returns _
  · split
    · exact intoResponse_returns _
    · split
      · exact h
      · exact intoResponse_returns _

theorem router_returns (apiToken : String) (request : Request) :
    (router apiToken request).Returns fun _ => True := by
  rw [router]
  split
  · exact Prog.Returns.value trivial
  · split
    · split
      · exact requireBearerToken_returns (runHandler_returns _ request)
      · exact runHandler_returns _ request
    · split
      · exact requireBearerToken_returns (Prog.Returns.value trivial)
      · exact Prog.Returns.value trivial

theorem buildApp_returns (apiToken : String) (request : Request) :
    (buildApp apiToken request).Returns fun _ => True := by
  rw [buildApp_eq]
  refine edge_bind_returns fun startedAt => edge_bind_returns fun decision => ?_
  have hdecided : (decided apiToken request decision).Returns fun _ => True := by
    cases decision with
    | ok _ => exact router_returns apiToken request
    | error n => exact intoResponse_returns (.rateLimited n)
  exact hdecided.bind fun response _ => logged_returns request startedAt response

variable [RegexEngine]

/-- Nothing that a request does in production stops the server. -/
theorem deploy_returns (apiToken : String) (request : Request) :
    (deploy (buildApp apiToken request)).Returns fun _ => True := by
  refine Prog.Returns.interp ?_ (buildApp_returns apiToken request)
  intro o
  rcases o with (o | o) | o
  · exact (Prog.All_inLeft _ _).mpr (provided_returns (fulfil_returns o))
  · exact fun _ => ⟨_, rfl, trivial⟩
  · exact fun _ => ⟨_, rfl, trivial⟩

end Returns

/-! ## Turns -/

/-- Every operation counts. -/
theorem one_le_price (o : DeployedSig.Op) : 1 ≤ (deployedTariff 1).price o := by
  rcases o with (o | o) | o <;> exact Nat.le_refl 1

section Production

variable [HttpStack] [Chrono] [RegexEngine] [McpSdk] [LawfulMcpSdk] [HashOrder] [SerdeJson]
  {σ : Type}

/-- **Every request is answered.**  In production, in every interleaving and whatever the machine
answers: a request has its answer once it has had sixteen turns for each of its messages, or four
for a status, seven for the server's own operations, and fourteen for each row that the machine has
handed to it.  The scan of an opened journal takes no turn of its own. -/
theorem requests_answered (apiToken : String) (requests : List Request)
    (turns : List (Nat × Moment)) (limiter : RateLimiter) (machine : Moment → Host HostSig σ)
    (s : σ) :
    let run := (deployment apiToken requests limiter s).run (deployedHost machine) turns
    ∀ (i : Nat) (request : Request), requests[i]? = some request →
      request.share 1 + 7 + perRow * handedOut (workOf ((ofTask i run.1).map Event.exchange))
        ≤ (turnsOf i turns).length →
      ∃ response, run.2.tasks[i]? = some (pure response) := by
  intro run i request hi hturns
  obtain ⟨p, hp, hleads, hended⟩ := Pool.run_turns (deployedHost machine)
    (deployment_task apiToken hi limiter s) turns
  have haffords : (deploy (buildApp apiToken request)).Affords (deployedTariff 1)
      (request.share 1 + 7 * 1) :=
    (buildApp_affords apiToken request).interp (httpTariff_worth 1) (deployed_affords 1)
  have hsettled : p.Settled := by
    rcases hended with hsettled | hlength
    · exact hsettled
    · refine haffords.settles one_le_price hleads ?_
      rw [sum_worth, List.length_map, hlength]
      exact hturns
  obtain ⟨response, rfl, -⟩ :=
    (hleads.returns_rest (deploy_returns apiToken request)).settled hsettled
  exact ⟨response, hp⟩

end Production

/-- Two requests for a status, turn about: each is answered within eleven turns of its own. -/
theorem requests_answered_status :
    ∃ response, ((@deployment rfc3339 noRegex pingJson plainHttp plainSdk nameOrder Unit "t"
        statusRequests (.new .default 0) ()).run (deployedHost fun _ => stateMachine "running")
        ((List.replicate 11 [0, 1]).flatten.map fun i => (i, ⟨0, .ofSecs 1767225600⟩))).2.tasks[1]?
      = some (pure response) :=
  @requests_answered plainHttp rfc3339 noRegex plainSdk lawful_plainSdk nameOrder pingJson Unit "t"
    statusRequests ((List.replicate 11 [0, 1]).flatten.map fun i => (i, ⟨0, .ofSecs 1767225600⟩))
    (.new .default 0) (fun _ => stateMachine "running") () 1 _ rfl (by decide +kernel)

end SystemdMonitoring
