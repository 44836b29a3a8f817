/-
# `SystemdMonitoring.Http.Diagnostics` — the words of a failure stay on the server

On two machines that differ in the words of their failures only, the server in
production does the same, in every interleaving: it asks both machines for the
same operations in the same order, decides the same, and gives the same
responses.  What differs is what goes to the operator, the diagnostics of an
internal failure (`diagnostics_confined`).

The words are those of D-Bus, of the journal, and of an attempt to execute
`podman`.  A text on standard error goes nowhere either, but it is classified:
there the machines may differ within one verdict.

The coupling goes up the layers: the providers answer alike
(`fulfil_discreet`), a handler makes the same response of answers that are alike
(`Course.coupled`), and around it the engine, the router and the layers never
look at an error but to make a response of it.
-/
import SystemdMonitoring.Domain.Course
import SystemdMonitoring.Http.Deployment
import SystemdMonitoring.Systemd.Diagnostics

namespace SystemdMonitoring

open Lib

/-! ## The engine -/

/-- The clock says the same, and the audit log answers nothing. -/
abbrev serverLikeness : Likeness ServerSig := .same fun _ => Eq

/-- Answers of the providers are alike. -/
abbrev appLikeness : Likeness AppSig := .sum (.same fun _ => LikeAnswer) serverLikeness

theorem coupled_provider (o : ProviderOp) :
    (provider o).Coupled appLikeness LikeAnswer (provider o) := by
  refine .op (.inl rfl) ?_
  intro answer answer' h
  exact .pure (sameOp_iff.mp (sumAlike_inl h))

/-- A program of the engine whose value the words of failures do not reach. -/
def Opaque {α : Type} (p : App α) : Prop := p.Coupled appLikeness Eq p

namespace Opaque

variable {α β : Type}

theorem of_pure (a : α) : Opaque (pure a : App α) := .value rfl

theorem bind {p : App α} {f : α → App β} (hp : Opaque p) (hf : ∀ a, Opaque (f a)) :
    Opaque (p >>= f) := by
  refine Prog.Coupled.bind hp ?_
  rintro a _ rfl
  exact hf a

theorem server (o : ServerOp) : Opaque (SystemdMonitoring.server o) := by
  refine (Prog.Coupled.right rfl).mono ?_
  intro answer answer' h
  exact sameOp_iff.mp h

theorem expectSome (message : String) (value : Option α) :
    Opaque (SystemdMonitoring.expectSome message value) := by
  cases value with
  | some a => exact .of_pure a
  | none => exact .abort message

end Opaque

section Engine

variable [McpSdk]

/-- What a client sees of an error is the same for errors that are alike. -/
theorem AppError.Like.appErrorToJsonRpc {err err' : AppError} (h : err.Like err')
    (id : Option Json) : appErrorToJsonRpc id err = appErrorToJsonRpc id err' := by
  cases h with
  | refl err => rfl
  | internal code message message' => rfl

/-- A handler makes the same of answers that are alike. -/
theorem Course.coupled {id : Option Json} {Asks : ProviderOp → Prop} {Refuses : AppError → Prop}
    {p : App Json} (h : Course id Asks Refuses p) : Opaque p := by
  induction h with
  | result value => exact .of_pure _
  | malformed => exact .of_pure _
  | unknown _ => exact .of_pure _
  | refused _ => exact .of_pure _
  | now _ ih => exact Opaque.bind (.server .utcNow) ih
  | @asked o onRow _ _ ih =>
      refine (coupled_provider o).bind ?_
      intro answer answer' hanswer
      cases hanswer with
      | ok row => exact ih row
      | error hlike =>
          refine .value ?_
          exact hlike.appErrorToJsonRpc id

variable [Chrono] [HashOrder] [SerdeJson]

omit [Chrono] [HashOrder] [SerdeJson] in
theorem negotiateProtocolVersion_coupled (params : Option Json) :
    Opaque (negotiateProtocolVersion params) := by
  rw [negotiateProtocolVersion]
  split
  · exact .of_pure _
  · split
    · exact .of_pure _
    · split
      · exact .of_pure _
      · refine Opaque.bind (.expectSome _ _) ?_
        intro minSupported
        split <;> exact .of_pure _

theorem dispatch_coupled (id : Option Json) (method : String) (params : Option Json) :
    Opaque (dispatch id method params) := by
  have hcall : Opaque (handleToolsCall id params) := by
    rcases handleToolsCall_course id params with heq | ⟨name, arguments, -, hcourse⟩
    · rw [heq]
      exact .of_pure _
    · exact hcourse.coupled
  have hread : Opaque (handleResourcesRead id params) := by
    rcases handleResourcesRead_course id params with heq | ⟨uri, -, hcourse⟩
    · rw [heq]
      exact .of_pure _
    · exact hcourse.coupled
  unfold dispatch
  split
  · refine (negotiateProtocolVersion_coupled params).bind ?_
    intro version
    cases version <;> exact .of_pure _
  · exact .of_pure _
  · exact .of_pure _
  · exact hcall.bind fun response => .of_pure _
  · exact .of_pure _
  · exact hread.bind fun response => .of_pure _
  · exact .of_pure _

theorem handleJsonRpcRequest_coupled (id : Option Json) (method : String) (params : Option Json) :
    Opaque (handleJsonRpcRequest id method params) := by
  refine (dispatch_coupled id method params).bind ?_
  intro answer
  cases answer with
  | error err => exact .of_pure _
  | ok response => exact Opaque.bind (.server _) fun _ => .of_pure _

theorem handleJsonRpcValue_coupled (payload : Json) : Opaque (handleJsonRpcValue payload) := by
  rw [handleJsonRpcValue]
  split
  · exact .of_pure _
  · split
    · exact .of_pure _
    · split
      · exact .of_pure _
      · split
        · exact .of_pure _
        · split
          · exact .of_pure _
          · exact (handleJsonRpcRequest_coupled _ _ _).bind fun response => .of_pure _
      · split
        · exact .of_pure _
        · exact (handleJsonRpcRequest_coupled _ _ _).bind fun _ => .of_pure _
      · exact .of_pure _

theorem handleBatch_coupled (batch responses : List Json) :
    Opaque (handleBatch batch responses) := by
  induction batch generalizing responses with
  | nil => exact .of_pure _
  | cons item batch ih =>
      refine (handleJsonRpcValue_coupled item).bind ?_
      intro answer
      cases answer with
      | none => exact ih responses
      | some response => exact ih (responses ++ [response])

theorem mcpEndpoint_coupled (body : List UInt8) : Opaque (mcpEndpoint body) := by
  rw [mcpEndpoint]
  split
  · exact .of_pure _
  · exact .of_pure _
  · refine (handleBatch_coupled _ []).bind ?_
    intro responses
    split <;> exact .of_pure _
  · refine (handleJsonRpcValue_coupled _).bind ?_
    intro answer
    cases answer <;> exact .of_pure _

end Engine

/-! ## The application -/

/-- The same at the edge, but for the words of a diagnostic. -/
inductive EdgeOp.Like : EdgeOp → EdgeOp → Prop where
  | refl (o : EdgeOp) : Like o o
  | diagnostic (detail detail' : String) : Like (.internalFailure detail) (.internalFailure detail')

inductive EdgeAlike : Exchange EdgeSig → Exchange EdgeSig → Prop where
  | refl (exchange : Exchange EdgeSig) : EdgeAlike exchange exchange
  | diagnostic (detail detail' : String) :
      EdgeAlike ⟨.internalFailure detail, ()⟩ ⟨.internalFailure detail', ()⟩

def edgeLikeness : Likeness EdgeSig where
  ops := EdgeOp.Like
  exchanges := EdgeAlike

theorem edgeAlike_eq {o : EdgeOp} {answer answer' : EdgeSig.Ans o}
    (h : EdgeAlike ⟨o, answer⟩ ⟨o, answer'⟩) : answer = answer' := by
  cases h with
  | refl => rfl
  | diagnostic => rfl

abbrev httpLikeness : Likeness HttpSig := appLikeness.sum edgeLikeness

/-- Requests that go in step, and come to the same. -/
abbrev InStep {α : Type} (p p' : Http α) : Prop := p.Coupled httpLikeness Eq p'

theorem inStep_edge (o : EdgeOp) : InStep (edge o) (edge o) := by
  refine (Prog.Coupled.right (EdgeOp.Like.refl o)).mono ?_
  intro answer answer' h
  exact edgeAlike_eq h

theorem inStep_diagnostic (detail detail' : String) :
    InStep (edge (.internalFailure detail)) (edge (.internalFailure detail')) := by
  have hlike : edgeLikeness.ops (.internalFailure detail) (.internalFailure detail') :=
    EdgeOp.Like.diagnostic detail detail'
  refine (Prog.Coupled.right hlike).mono ?_
  intro _ _ _
  rfl

theorem InStep.bind {α β : Type} {p p' : Http α} {f f' : α → Http β} (hp : InStep p p')
    (hf : ∀ a, InStep (f a) (f' a)) : InStep (p >>= f) (p' >>= f') := by
  refine Prog.Coupled.bind hp ?_
  rintro a _ rfl
  exact hf a

/-- Errors that are alike become the same response; only the diagnostics differ. -/
theorem AppError.Like.intoResponse {err err' : AppError} (h : err.Like err') :
    InStep (intoResponse err) (intoResponse err') := by
  cases h with
  | refl err =>
      cases err with
      | internal code message => exact (inStep_edge _).bind fun _ => .value rfl
      | _ => exact .value rfl
  | internal code message message' =>
      exact (inStep_diagnostic message message').bind fun _ => .value rfl

theorem inStep_intoResponse (err : AppError) : InStep (intoResponse err) (intoResponse err) :=
  (AppError.Like.refl err).intoResponse

theorem systemdStatus_inStep (scope : UnitScope) :
    InStep (systemdStatus scope) (systemdStatus scope) := by
  refine (coupled_provider (.systemState scope)).inLeft.bind ?_
  intro answer answer' h
  cases h with
  | ok status =>
      dsimp only
      split <;> exact .value rfl
  | error h => exact h.intoResponse

section App

variable [HttpStack]

theorem requireBearerToken_inStep (apiToken : String) (request : Request) {next : Http Response}
    (hnext : InStep next next) :
    InStep (requireBearerToken apiToken request next)
      (requireBearerToken apiToken request next) := by
  refine (inStep_edge _).bind fun _ => ?_
  split
  · exact inStep_intoResponse _
  · split
    · exact inStep_intoResponse _
    · split
      · exact hnext
      · exact inStep_intoResponse _

variable [Chrono] [McpSdk] [HashOrder] [SerdeJson]

omit [HttpStack] in
theorem runHandler_inStep (handler : Handler) (request : Request) :
    InStep (runHandler handler request) (runHandler handler request) := by
  refine (inStep_edge _).bind fun _ => ?_
  cases handler with
  | health => exact .value rfl
  | discovery => exact .value rfl
  | mcpEndpoint => exact Prog.Coupled.inLeft (mcpEndpoint_coupled request.body)
  | systemdSystemStatus => exact systemdStatus_inStep .system
  | systemdUserStatus => exact systemdStatus_inStep .user

theorem router_inStep (apiToken : String) (request : Request) :
    InStep (router apiToken request) (router apiToken request) := by
  rw [router]
  split
  · exact .value rfl
  · split
    · split
      · exact requireBearerToken_inStep _ _ (runHandler_inStep _ _)
      · exact runHandler_inStep _ _
    · split
      · exact requireBearerToken_inStep _ _ (.value rfl)
      · exact .value rfl

theorem buildApp_inStep (apiToken : String) (request : Request) :
    InStep (buildApp apiToken request) (buildApp apiToken request) := by
  rw [buildApp_eq]
  refine (inStep_edge _).bind fun startedAt => (inStep_edge _).bind fun decision => ?_
  refine InStep.bind ?_ fun response => ?_
  · cases decision with
    | ok _ => exact router_inStep apiToken request
    | error n => exact inStep_intoResponse (.rateLimited n)
  · refine (inStep_edge _).bind fun finishedAt => (inStep_edge _).bind fun _ => ?_
    split
    · exact (inStep_edge _).bind fun _ => .value rfl
    · exact .value rfl

end App

/-! ## The deployment -/

/-- On the machine, answers that differ in the words of failures and in standard error under one
verdict; on the server, diagnostics. -/
abbrev deployedLikeness : Likeness DeployedSig := (hostLikeness.sum serverLikeness).sum edgeLikeness

section Deployment

variable [HttpStack] [Chrono] [RegexEngine] [McpSdk] [HashOrder] [SerdeJson]

omit [HttpStack] [McpSdk] [HashOrder] in
/-- Like operations are carried out alike. -/
theorem deployed_coupled {o o' : HttpSig.Op} (ho : httpLikeness.ops o o') :
    (deployed o).Coupled deployedLikeness
      (fun answer answer' => httpLikeness.exchanges ⟨o, answer⟩ ⟨o', answer'⟩) (deployed o') := by
  cases ho with
  | inl ho =>
      cases ho with
      | inl ho =>
          cases ho
          refine (fulfil_discreet _).inLeft.inLeft.mono ?_
          intro answer answer' h
          exact .left (.left (.mk h))
      | inr ho =>
          cases ho
          refine .op (.inl (.inr rfl)) ?_
          intro answer answer' h
          exact .pure (.left (.right (sumAlike_inr (sumAlike_inl h))))
  | inr ho =>
      refine (Prog.Coupled.right ho).mono ?_
      intro answer answer' h
      exact .right h

variable {σ σ' : Type}

theorem deployment_coupled (apiToken : String) (requests : List Request) (limiter : RateLimiter)
    {R : σ → σ' → Prop} {s : σ} {s' : σ'} (hs : R s s') :
    (deployment apiToken requests limiter s).Coupled deployedLikeness
      (fun state state' => state.1 = state'.1 ∧ R state.2 state'.2) Eq
      (deployment apiToken requests limiter s') where
  state := ⟨rfl, hs⟩
  tasks i := by
    simp only [deployment, List.getElem?_map]
    cases requests[i]? with
    | none => exact .none
    | some request =>
        exact .some ((buildApp_inStep apiToken request).interp fun _ _ => deployed_coupled)

omit [HttpStack] [Chrono] [RegexEngine] [McpSdk] [HashOrder] [SerdeJson] in
theorem deployedHost_hosts {R : σ → σ' → Prop} {machine : Moment → Host HostSig σ}
    {machine' : Moment → Host HostSig σ'} (h : hostLikeness.Hosts R machine machine') :
    deployedLikeness.Hosts (fun state state' => state.1 = state'.1 ∧ R state.2 state'.2)
      (deployedHost machine) (deployedHost machine') := by
  rintro moment o o' ⟨limiter, s⟩ ⟨limiter', s'⟩ ho ⟨rfl, hs⟩
  cases ho with
  | inl ho =>
      cases ho with
      | inl ho =>
          obtain ⟨hanswer, hnext⟩ := h moment _ _ s s' ho hs
          exact ⟨.left (.left hanswer), rfl, hnext⟩
      | @inr o _ ho =>
          cases ho
          cases o <;> exact ⟨.left (.right (.mk rfl)), rfl, hs⟩
  | @inr o _ ho =>
      cases ho with
      | refl => cases o <;> exact ⟨.right (.refl _), rfl, hs⟩
      | diagnostic detail detail' => exact ⟨.right (.diagnostic detail detail'), rfl, hs⟩

/-- **The words of a failure stay on the server.**  On machines whose answers differ in those only,
and in standard error under one verdict, the server in production gives the same responses in every
interleaving and leaves the same limiter; what it asks for and what it logs is the same, operation
by operation, up to the diagnostics. -/
theorem diagnostics_confined (apiToken : String) (requests : List Request)
    (turns : List (Nat × Moment)) (limiter : RateLimiter) {R : σ → σ' → Prop}
    {machine : Moment → Host HostSig σ} {machine' : Moment → Host HostSig σ'}
    (hmachines : hostLikeness.Hosts R machine machine') {s : σ} {s' : σ'} (hs : R s s') :
    let run := (deployment apiToken requests limiter s).run (deployedHost machine) turns
    let run' := (deployment apiToken requests limiter s').run (deployedHost machine') turns
    (∀ (i : Nat) (response : Response), run.2.tasks[i]? = some (pure response)
        ↔ run'.2.tasks[i]? = some (pure response))
      ∧ run.2.state.1 = run'.2.state.1
      ∧ List.Forall₂ (Event.Like deployedLikeness) run.1 run'.1 := by
  intro run run'
  obtain ⟨hevents, hleft⟩ := (deployment_coupled apiToken requests limiter hs).run
    (deployedHost_hosts hmachines) turns
  refine ⟨?_, hleft.state.1, hevents⟩
  intro i response
  have htask := hleft.tasks i
  revert htask
  generalize run.2.tasks[i]? = task
  generalize run'.2.tasks[i]? = task'
  rintro (hcoupled | _)
  · rw [Option.some.injEq, Option.some.injEq]
    exact hcoupled.pure_iff response
  · rfl

end Deployment

/-! ## Two machines -/

/-- A machine on which everything fails, for this reason. -/
def brokenMachine (reason : String) : Host HostSig Unit where
  answer
    | .connect _, s => (.error reason, s)
    | .proxy _ _ _, s => (.error reason, s)
    | .listUnits _, s => (.error reason, s)
    | .getUnit _ _, s => (.error reason, s)
    | .property _ _ _ _ _, s => (.error reason, s)
    | .openJournal _, s => (.error reason, s)
    | .joinReader, s => (.error reason, s)
    | .podman _, s => (.failed reason, s)

theorem brokenMachine_alike (reason reason' : String) :
    hostLikeness.Hosts (fun _ _ => True) (fun _ : Moment => brokenMachine reason)
      (fun _ => brokenMachine reason') := by
  rintro moment o _ s s' rfl -
  cases o with
  | openJournal scope => exact ⟨.mk (.error reason reason'), trivial⟩
  | podman args => exact ⟨.mk (.failed reason reason'), trivial⟩
  | _ => exact ⟨.mk (.error trivial), trivial⟩

/-- The state of the system, asked for without the token and with it. -/
def brokenRun (reason : String) :
    List (Event DeployedSig Moment) × Pool DeployedSig (RateLimiter × Unit) Response :=
  (@deployment rfc3339 noRegex pingJson plainHttp plainSdk nameOrder Unit "t" statusRequests
    (.new .default 0) ()).run (deployedHost fun _ => brokenMachine reason)
    ((List.replicate 9 [0, 1]).flatten.map fun i => (i, ⟨0, .ofSecs 1767225600⟩))

/-- The diagnostics of a history. -/
def diagnosticsOf (history : List (Event DeployedSig Moment)) : List String :=
  history.filterMap fun event =>
    match event.exchange.1 with
    | .inr (.internalFailure detail) => some detail
    | _ => none

/-- Two machines that fail for reasons of their own. -/
theorem diagnostics_confined_broken :
    (∀ (i : Nat) (response : Response),
        (brokenRun "no such file").2.tasks[i]? = some (pure response)
          ↔ (brokenRun "access denied").2.tasks[i]? = some (pure response))
      ∧ (brokenRun "access denied").2.tasks.map deployedStatusOf = [some 401, some 500]
      ∧ diagnosticsOf (brokenRun "no such file").1
        = ["failed to connect to system dbus: no such file"]
      ∧ diagnosticsOf (brokenRun "access denied").1
        = ["failed to connect to system dbus: access denied"] := by
  have h := @diagnostics_confined plainHttp rfc3339 noRegex plainSdk nameOrder pingJson Unit Unit "t"
    statusRequests ((List.replicate 9 [0, 1]).flatten.map fun i => (i, ⟨0, .ofSecs 1767225600⟩))
    (.new .default 0) _ _ _ (brokenMachine_alike "no such file" "access denied") () () trivial
  refine ⟨h.1, ?_, ?_, ?_⟩
  · decide +kernel
  · decide +kernel
  · decide +kernel

end SystemdMonitoring
