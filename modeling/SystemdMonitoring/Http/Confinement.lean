/-
# `SystemdMonitoring.Http.Confinement` — what a request can make the server do

Everything that is done on the machine in production is done for a request that
carries the token, and is permitted by a provider operation that this request
asks for in so many words: a status endpoint asks for the state of its own
manager, a message to the MCP endpoint for what its tool, with these arguments,
or its resource calls for (`machine_confined`).

The chain is followed downwards: what a request may ask the providers for
(`RequestAsks`) bounds the application, and what a provider may do for an
operation (`Permits`) bounds its program.
-/
import SystemdMonitoring.Confinement
import SystemdMonitoring.Domain.Course
import SystemdMonitoring.Http.Uptime

namespace SystemdMonitoring

open Lib

/-! ## Messages -/

/-- Nothing but that is asked of the providers. -/
def AsksOnly (Asks : ProviderOp → Prop) : AppSig.Op → Prop
  | .inl o => Asks o
  | .inr _ => True

section Messages

variable [McpSdk]

/-- The method that a message calls, and its parameters. -/
inductive Calls (message : Json) : String → Option Json → Prop where
  | request {request : JsonrpcRequest} (h : decodeMessage message = some (.request request)) :
      Calls message request.method (request.params.map .obj)
  | notification {notification : JsonrpcNotification}
      (h : decodeMessage message = some (.notification notification)) :
      Calls message notification.method (notification.params.map .obj)

/-- What a call of a method asks for. -/
inductive MethodAsks [Chrono] (params : Option Json) : String → ProviderOp → Prop where
  | tool {name : String} {arguments : Option Members} {o : ProviderOp}
      (hparams : params.bind McpSdk.callToolRequestParams = some (name, arguments))
      (h : ToolAsks arguments name o) : MethodAsks params "tools/call" o
  | resource {uri : String} {o : ProviderOp}
      (hparams : params.bind McpSdk.readResourceRequestParams = some uri)
      (h : ResourceAsks uri o) : MethodAsks params "resources/read" o

/-- What a message asks for. -/
def MessageAsks [Chrono] (message : Json) (o : ProviderOp) : Prop :=
  ∃ method params, Calls message method params ∧ MethodAsks params method o

/-- The messages of a body: one, or those of a batch. -/
def messagesOf [SerdeJson] (body : List UInt8) : List Json :=
  match SerdeJson.fromSlice body with
  | none => []
  | some (.arr batch) => batch
  | some payload => [payload]

/-- A handler asks for what its course asks for. -/
theorem Course.only {id : Option Json} {Asks : ProviderOp → Prop} {Refuses : AppError → Prop}
    {p : App Json} (h : Course id Asks Refuses p) : p.Only (AsksOnly Asks) := by
  induction h with
  | result value => exact .pure _
  | malformed => exact .pure _
  | unknown _ => exact .pure _
  | refused _ => exact .pure _
  | now _ ih => exact ⟨trivial, ih⟩
  | asked ho _ ih =>
      refine ⟨ho, ?_⟩
      intro answer
      cases answer with
      | ok row => exact ih row
      | error err => trivial

omit [McpSdk] in
theorem AsksOnly.mono {Asks Asks' : ProviderOp → Prop} (hasks : ∀ o, Asks o → Asks' o) {α : Type}
    {p : App α} (h : p.Only (AsksOnly Asks)) : p.Only (AsksOnly Asks') := by
  refine h.obeys ?_ (fun _ _ _ => rfl) trivial
  intro o ho
  cases o with
  | inl o => exact hasks o ho
  | inr o => trivial

omit [McpSdk] in
theorem expectSome_only {P : AppSig.Op → Prop} {α : Type} (message : String) (value : Option α) :
    (expectSome message value).Only P := by
  cases value with
  | some a => exact .pure a
  | none => trivial

variable [Chrono] [HashOrder] [SerdeJson]

omit [Chrono] [HashOrder] [SerdeJson] in
theorem negotiateProtocolVersion_asks {P : AppSig.Op → Prop} (params : Option Json) :
    (negotiateProtocolVersion params).Only P := by
  rw [negotiateProtocolVersion]
  split
  · exact .pure _
  · split
    · exact .pure _
    · split
      · exact .pure _
      · refine Prog.Only.bind (expectSome_only _ _) fun minSupported => ?_
        split <;> exact .pure _

theorem dispatch_asks (id : Option Json) (method : String) (params : Option Json) :
    (dispatch id method params).Only (AsksOnly (MethodAsks params method)) := by
  have hcall : (handleToolsCall id params).Only (AsksOnly (MethodAsks params "tools/call")) := by
    rcases handleToolsCall_course id params with heq | ⟨name, arguments, hparams, hcourse⟩
    · rw [heq]
      exact .pure _
    · exact AsksOnly.mono (fun o => .tool hparams) hcourse.only
  have hread : (handleResourcesRead id params).Only
      (AsksOnly (MethodAsks params "resources/read")) := by
    rcases handleResourcesRead_course id params with heq | ⟨uri, hparams, hcourse⟩
    · rw [heq]
      exact .pure _
    · exact AsksOnly.mono (fun o => .resource hparams) hcourse.only
  unfold dispatch
  split
  · refine (negotiateProtocolVersion_asks params).bind fun version => ?_
    split <;> exact .pure _
  · exact .pure _
  · exact .pure _
  · exact hcall.bind fun response => .pure _
  · exact .pure _
  · exact hread.bind fun response => .pure _
  · exact .pure _

theorem handleJsonRpcRequest_asks (id : Option Json) (method : String) (params : Option Json) :
    (handleJsonRpcRequest id method params).Only (AsksOnly (MethodAsks params method)) := by
  refine (dispatch_asks id method params).bind fun answer => ?_
  cases answer with
  | error err => exact .pure _
  | ok response => exact ⟨trivial, fun _ => trivial⟩

/-- A message asks for what its method calls for. -/
theorem handleJsonRpcValue_asks (payload : Json) :
    (handleJsonRpcValue payload).Only (AsksOnly (MessageAsks payload)) := by
  have hcalls : ∀ {id : Option Json} {method : String} {params : Option Json},
      Calls payload method params →
      (handleJsonRpcRequest id method params).Only (AsksOnly (MessageAsks payload)) := by
    intro id method params h
    exact AsksOnly.mono (fun o ho => ⟨method, params, h, ho⟩) (handleJsonRpcRequest_asks id _ _)
  rw [handleJsonRpcValue]
  split
  · exact .pure _
  · split
    · exact .pure _
    · split
      · exact .pure _
      · next request hrequest =>
          split
          · exact .pure _
          · split
            · exact .pure _
            · exact (hcalls (.request hrequest)).bind fun response => .pure _
      · next notification hnotification =>
          split
          · exact .pure _
          · exact (hcalls (.notification hnotification)).bind fun _ => .pure _
      · exact .pure _

theorem handleBatch_asks {Asks : ProviderOp → Prop} {batch : List Json}
    (h : ∀ message ∈ batch, ∀ o, MessageAsks message o → Asks o) (responses : List Json) :
    (handleBatch batch responses).Only (AsksOnly Asks) := by
  induction batch generalizing responses with
  | nil => exact .pure _
  | cons item batch ih =>
      obtain ⟨hitem, hbatch⟩ := List.forall_mem_cons.mp h
      refine (AsksOnly.mono hitem (handleJsonRpcValue_asks item)).bind fun answer => ?_
      cases answer with
      | none => exact ih hbatch responses
      | some response => exact ih hbatch (responses ++ [response])

/-- A body asks for what its messages ask for. -/
theorem mcpEndpoint_asks {Asks : ProviderOp → Prop} {body : List UInt8}
    (h : ∀ message ∈ messagesOf body, ∀ o, MessageAsks message o → Asks o) :
    (mcpEndpoint body).Only (AsksOnly Asks) := by
  rw [mcpEndpoint]
  split
  · exact .pure _
  · exact .pure _
  · next batch _ hbody =>
      have hmessages : messagesOf body = batch := by rw [messagesOf, hbody]
      rw [hmessages] at h
      refine (handleBatch_asks h []).bind fun responses => ?_
      split <;> exact .pure _
  · next payload _ hsingle hbody =>
      have hmessages : messagesOf body = [payload] := by
        rw [messagesOf, hbody]
        cases payload with
        | arr batch => exact absurd rfl (hsingle batch)
        | _ => rfl
      rw [hmessages] at h
      have hasks := AsksOnly.mono (h payload List.mem_cons_self) (handleJsonRpcValue_asks payload)
      refine Prog.Only.bind hasks fun answer => ?_
      cases answer <;> exact .pure _

end Messages

/-! ## Requests -/

/-- What a request asks for, by its method, its path and its body. -/
inductive RequestAsks [Chrono] [McpSdk] [SerdeJson] (request : Request) : ProviderOp → Prop where
  | status {scope : UnitScope} (hscope : scope ≠ .both)
      (hmethod : request.method = "GET" ∨ request.method = "HEAD")
      (hpath : request.path = statusPath scope) : RequestAsks request (.systemState scope)
  | message {message : Json} {o : ProviderOp} (hmethod : request.method = "POST")
      (hpath : request.path = "/mcp") (hmessage : message ∈ messagesOf request.body)
      (h : MessageAsks message o) : RequestAsks request o

/-- Of the providers, nothing but that is asked. -/
def HttpAsksOnly (Asks : ProviderOp → Prop) : HttpSig.Op → Prop
  | .inl (.inl o) => Asks o
  | _ => True

theorem httpAsksOnly_neutral {Asks : ProviderOp → Prop} (o : HttpSig.Op) (h : IsNeutral o) :
    HttpAsksOnly Asks o := by
  rcases o with (o | o) | o
  · exact absurd trivial h.2.2
  · trivial
  · trivial

theorem engine_asks {Asks : ProviderOp → Prop} {α : Type} {p : App α}
    (h : p.Only (AsksOnly Asks)) : (engine p).Only (HttpAsksOnly Asks) := by
  refine Prog.Only.interp ?_ h
  intro o ho
  refine ⟨?_, fun _ => trivial⟩
  cases o with
  | inl o => exact ho
  | inr o => trivial

theorem systemdStatus_asks {Asks : ProviderOp → Prop} {scope : UnitScope}
    (h : Asks (.systemState scope)) : (systemdStatus scope).Only (HttpAsksOnly Asks) := by
  refine Prog.Only.bind (engine_asks ⟨h, fun _ => trivial⟩) fun answer => ?_
  cases answer with
  | error err => exact intoResponse_only httpAsksOnly_neutral err
  | ok status =>
      dsimp only
      split <;> exact .pure _

section Requests

variable [Chrono] [McpSdk] [HashOrder] [SerdeJson]

/-- A route's handler asks for what a request for it asks for. -/
theorem runHandler_asks {route : Route} (hroute : route ∈ routes) {request : Request}
    (hpath : route.path = request.path) (haccepts : route.accepts request.method = true) :
    (runHandler route.handler request).Only (HttpAsksOnly (RequestAsks request)) := by
  refine edge_bind_only trivial fun _ => ?_
  simp only [routes, List.mem_cons, List.not_mem_nil, or_false] at hroute
  rcases hroute with rfl | rfl | rfl | rfl | rfl
  · exact .pure _
  · exact .pure _
  · have hmethod : request.method = "POST" := by simpa [Route.accepts] using haccepts
    refine engine_asks (mcpEndpoint_asks ?_)
    intro message hmessage o ho
    exact .message hmethod hpath.symm hmessage ho
  · have hmethod : request.method = "GET" ∨ request.method = "HEAD" := by
      simpa [Route.accepts] using haccepts
    exact systemdStatus_asks (.status (by decide) hmethod hpath.symm)
  · have hmethod : request.method = "GET" ∨ request.method = "HEAD" := by
      simpa [Route.accepts] using haccepts
    exact systemdStatus_asks (.status (by decide) hmethod hpath.symm)

variable [HttpStack] [LawfulHttpStack]

/-- What a request is entitled to ask for. -/
def EntitledTo (apiToken : String) (request : Request) (o : ProviderOp) : Prop :=
  Presents apiToken request ∧ RequestAsks request o

/-- The router asks for what a request with the token asks for. -/
theorem router_asks (apiToken : String) (request : Request) :
    (router apiToken request).Only (HttpAsksOnly (EntitledTo apiToken request)) := by
  have hguarded : ∀ {next : Http Response}, (Presents apiToken request →
        next.Only (HttpAsksOnly (EntitledTo apiToken request))) →
      (requireBearerToken apiToken request next).Only
        (HttpAsksOnly (EntitledTo apiToken request)) := by
    intro next hnext
    refine requireBearerToken_only httpAsksOnly_neutral (fun _ => trivial) ?_
    intro token htoken hmatches
    have heq := LawfulHttpStack.eq_of_tokenHmac (beq_iff_eq.mp hmatches)
    exact hnext (heq ▸ htoken)
  rw [router]
  split
  · exact .pure _
  · next route hroute =>
      have hmem := List.mem_of_find?_eq_some hroute
      have hpath : route.path = request.path := by simpa using List.find?_some hroute
      split
      · next haccepts =>
          split
          · refine hguarded fun hpresents => ?_
            refine (runHandler_asks hmem hpath haccepts).obeys ?_ (fun _ _ _ => rfl) trivial
            rintro ((o | o) | o) ho
            · exact ⟨hpresents, ho⟩
            · trivial
            · trivial
          · next hopen =>
              -- the open routes ask no provider
              have hspares := runHandler_open hmem (by simpa using hopen) request
              refine hspares.obeys ?_ (fun _ _ _ => rfl) trivial
              rintro ((o | o) | o) ho
              · exact absurd trivial ho
              · trivial
              · trivial
      · split
        · exact hguarded fun _ => .pure _
        · exact .pure _

theorem buildApp_asks (apiToken : String) (request : Request) :
    (buildApp apiToken request).Only (HttpAsksOnly (EntitledTo apiToken request)) := by
  rw [buildApp_eq]
  refine edge_bind_only trivial fun startedAt => edge_bind_only trivial fun decision => ?_
  exact (decided_only httpAsksOnly_neutral (router_asks apiToken request) decision).bind
    (logged_only httpAsksOnly_neutral request startedAt)

end Requests

/-! ## In production -/

/-- On the machine, what is permitted by an operation that may be asked for. -/
def machinePolicy (Asks : ProviderOp → Prop) (history : List (Exchange DeployedSig)) :
    DeployedSig.Op → Prop
  | .inl (.inl o) => ∃ asked, Asks asked ∧ Permits asked (pathsOf (workOf history)) o
  | _ => True

section Production

variable [Chrono] [RegexEngine] [SerdeJson]

omit [Chrono] [RegexEngine] [SerdeJson] in
/-- A provider's program, in the place of its operation. -/
theorem machinePolicy_inLeft {Asks : ProviderOp → Prop} {asked : ProviderOp} (h : Asks asked)
    {α : Type} {p : HostProg α} {before : List (Exchange DeployedSig)}
    (hp : p.Within (confinement asked) (workOf before)) :
    ((p.inLeft (T := ServerSig)).inLeft (T := EdgeSig)).Within (machinePolicy Asks) before := by
  induction p generalizing before with
  | pure a => trivial
  | op o k ih =>
      refine ⟨⟨asked, h, hp.1⟩, ?_⟩
      intro answer
      refine ih answer ?_
      have hwork : workOf (before ++ [⟨.inl (.inl o), answer⟩])
          = workOf before ++ [⟨o, answer⟩] := List.filterMap_append
      rw [hwork]
      exact hp.2 answer
  | abort msg => trivial

theorem deployed_within {Asks : ProviderOp → Prop} {o : HttpSig.Op} (ho : HttpAsksOnly Asks o)
    (before : List (Exchange DeployedSig)) :
    (deployed o).Within (machinePolicy Asks) before := by
  rcases o with (o | o) | o
  · exact machinePolicy_inLeft ho (fulfil_confined o _ (List.nil_subset _))
  · exact .call trivial
  · exact .call trivial

omit [Chrono] [RegexEngine] [SerdeJson] in
/-- What has been done on the machine, in its place in the whole history. -/
theorem workOf_split {history : List (Exchange DeployedSig)} {before rest : List (Exchange HostSig)}
    {exchange : Exchange HostSig} (h : workOf history = before ++ exchange :: rest) :
    ∃ first behind, history = first ++ ⟨.inl (.inl exchange.1), exchange.2⟩ :: behind
      ∧ workOf first = before := by
  obtain ⟨first, last, rfl, hfirst, hlast⟩ := List.filterMap_eq_append_iff.mp h
  obtain ⟨skipped, e, behind, rfl, hskipped, he, -⟩ := List.filterMap_eq_cons_iff.mp hlast
  refine ⟨first ++ skipped, behind, ?_, ?_⟩
  · obtain ⟨(o | o) | o, answer⟩ := e
    · cases he
      rw [List.append_assoc]
    · cases he
    · cases he
  · have hnone : workOf skipped = [] := List.filterMap_eq_nil_iff.mpr hskipped
    have happend : workOf (first ++ skipped) = workOf first ++ workOf skipped :=
      List.filterMap_append
    rw [happend, hnone, List.append_nil]
    exact hfirst

variable [HttpStack] [LawfulHttpStack] [McpSdk] [HashOrder] {σ : Type}

/-- **What is done on the machine has been asked for, with the token.**  In production, in every
interleaving and whatever the machine answers: each operation on the machine is done for a request
that carries the token, and is permitted by a provider operation that its method, path and body ask
for; an object is addressed by a path that the manager of that scope has handed out to the same
request before. -/
theorem machine_confined (apiToken : String) (requests : List Request)
    (turns : List (Nat × Moment)) (limiter : RateLimiter) (machine : Moment → Host HostSig σ)
    (s : σ) :
    let run := (deployment apiToken requests limiter s).run (deployedHost machine) turns
    ∀ (i : Nat) (request : Request), requests[i]? = some request →
      ∀ before exchange rest,
        workOf ((ofTask i run.1).map Event.exchange) = before ++ exchange :: rest →
        Presents apiToken request
          ∧ ∃ asked, RequestAsks request asked ∧ Permits asked (pathsOf before) exchange.1 := by
  intro run i request hi before exchange rest hwork
  obtain ⟨p, -, hleads⟩ := Pool.run_leads (deployedHost machine)
    (deployment_task apiToken hi limiter s) turns
  have hwithin : (deploy (buildApp apiToken request)).Within
      (machinePolicy (EntitledTo apiToken request)) [] :=
    Prog.Within.interp (fun o ho before => deployed_within ho before)
      (buildApp_asks apiToken request)
  obtain ⟨first, behind, hhistory, rfl⟩ := workOf_split hwork
  obtain ⟨asked, ⟨hpresents, hasks⟩, hpermits⟩ :=
    Prog.Within.leads hleads hwithin first _ behind hhistory
  exact ⟨hpresents, asked, hasks, hpermits⟩

end Production

/-- The request with the token, when it connects to the bus. -/
theorem machine_confined_connect :
    @Presents plainHttp "t"
        ⟨"GET", "/systemd/system/status", some [66, 101, 97, 114, 101, 114, 32, 116], []⟩
      ∧ ∃ asked, @RequestAsks rfc3339 plainSdk pingJson
          ⟨"GET", "/systemd/system/status", some [66, 101, 97, 114, 101, 114, 32, 116], []⟩ asked
        ∧ Permits asked [] (.connect .system) := by
  have hops : (workOf ((ofTask 1 (stateRun "running").1).map Event.exchange)).map Sigma.fst
      = [.connect .system, .proxy .system systemdPath .manager,
        .property .system systemdPath .manager "SystemState" .string] := by
    decide +kernel
  obtain ⟨exchange, rest, hwork, hconnect, -⟩ := List.map_eq_cons_iff.mp hops
  rw [← hconnect]
  exact @machine_confined rfc3339 noRegex pingJson plainHttp lawful_plainHttp plainSdk nameOrder
    Unit "t" statusRequests _ (.new .default 0) (fun _ => stateMachine "running") () 1 _ rfl []
    exchange rest hwork

end SystemdMonitoring
