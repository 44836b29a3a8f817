/-
# `SystemdMonitoring.Http.AccessLog` — what the log says of a request

The log takes one line about each request that is answered, between two readings
of the clock; a warning behind it when the answer is a 401, and a line with the
diagnostics before it when it is a 500.  The lines are read off the request's own
history (`Lib.Replay`), so this holds in any interleaving (`log_faithful`).

Of what is between the limiter and the log only the lines and the status matter
(`Leaves`): they are followed through the router by the sequencing rule.
-/
import SystemdMonitoring.Http.App
import SystemdMonitoring.Lib.Replay

namespace SystemdMonitoring

open Lib

/-! ## Lines -/

/-- The operations of the log: readings of the clock, and lines about the request. -/
def lineOf : HttpSig.Op → Option EdgeOp
  | .inr .instantNow => some .instantNow
  | .inr (.requestSummary method path status durationMs) =>
      some (.requestSummary method path status durationMs)
  | .inr (.authenticationFailure method path) => some (.authenticationFailure method path)
  | .inr (.internalFailure detail) => some (.internalFailure detail)
  | _ => none

def linesOf (trace : List HttpSig.Op) : List EdgeOp := trace.filterMap lineOf

theorem linesOf_append (before trace : List HttpSig.Op) :
    linesOf (before ++ trace) = linesOf before ++ linesOf trace :=
  List.filterMap_append

/-- The time that has been read. -/
def clockOf : Exchange HttpSig → Option Duration
  | ⟨.inr .instantNow, clock⟩ => some clock
  | _ => none

/-- What a program leaves in the log, and with which value. -/
def Leaves {α : Type} (Q : List EdgeOp → α → Prop) (p : Http α) : Prop :=
  p.All fun trace x => ∀ a, x = .done a → Q (linesOf trace) a

section Rules

variable {α β : Type}

theorem Leaves.value {Q : List EdgeOp → α → Prop} {a : α} (h : Q [] a) :
    Leaves Q (pure a : Http α) := by
  intro b hb
  cases hb
  exact h

theorem Leaves.mono {Q Q' : List EdgeOp → α → Prop} (hQ : ∀ lines a, Q lines a → Q' lines a)
    {p : Http α} (h : Leaves Q p) : Leaves Q' p :=
  Prog.All_mono (fun trace _ hx a ha => hQ (linesOf trace) a (hx a ha)) h

theorem Leaves.bind {Q : List EdgeOp → α → Prop} {Q' : List EdgeOp → β → Prop} {p : Http α}
    {f : α → Http β} (hp : Leaves Q p)
    (hf : ∀ lines a, Q lines a → Leaves (fun rest b => Q' (lines ++ rest) b) (f a)) :
    Leaves Q' (p >>= f) := by
  refine (Prog.All_bind _ p f).mpr (Prog.All_mono ?_ hp)
  intro trace x hx
  cases x with
  | aborted msg =>
      intro b hb
      cases hb
  | done a =>
      refine Prog.All_mono ?_ (hf _ a (hx a rfl))
      intro rest y hy b hb
      rw [linesOf_append]
      exact hy b hb

/-- An operation of the edge leaves its line, if it has one. -/
theorem Leaves.edge (o : EdgeOp) :
    Leaves (fun lines _ => lines = (lineOf (.inr o)).toList) (edge o) := by
  intro answer a ha
  show linesOf [.inr o] = _
  rw [linesOf, List.filterMap_cons]
  cases lineOf (.inr o) <;> rfl

/-- The engine writes nothing about the request. -/
theorem Leaves.engine {R : α → Prop} {p : App α} (h : p.Ends R) :
    Leaves (fun lines a => lines = [] ∧ R a) (engine p) := by
  refine (Prog.All_inLeft _ p).mpr (Prog.All_mono ?_ h)
  intro trace x hx a ha
  refine ⟨?_, hx a ha⟩
  rw [linesOf, List.filterMap_map, List.filterMap_eq_nil_iff]
  intro o ho
  rfl

end Rules

/-! ## Behind the limiter -/

/-- Diagnostics are written when the answer is a 500, and only then. -/
def Reported (lines : List EdgeOp) (response : Response) : Prop :=
  (response.status ≠ 500 ∧ lines = [])
    ∨ (response.status = 500 ∧ ∃ detail, lines = [.internalFailure detail])

theorem reported_value {response : Response} (h : response.status ≠ 500) :
    Leaves Reported (pure response) :=
  Leaves.value (.inl ⟨h, rfl⟩)

theorem intoResponse_reported (err : AppError) : Leaves Reported (intoResponse err) := by
  cases err with
  | internal code message =>
      refine (Leaves.edge _).bind ?_
      intro lines _ hlines
      exact Leaves.value (.inr ⟨rfl, message, by rw [hlines]; rfl⟩)
  | _ => exact reported_value (Nat.ne_of_beq_eq_false rfl)

theorem systemdStatus_reported (scope : UnitScope) : Leaves Reported (systemdStatus scope) := by
  have hany : Leaves (fun lines _ => lines = [] ∧ True) (engine (provider (.systemState scope))) :=
    Leaves.engine (Prog.Ends.any _)
  refine hany.bind ?_
  rintro lines answer ⟨rfl, -⟩
  cases answer with
  | error err => exact intoResponse_reported err
  | ok status =>
      dsimp only
      split
      · exact reported_value (Nat.ne_of_beq_eq_false rfl)
      · exact reported_value (Nat.ne_of_beq_eq_false rfl)

section Router

variable [Chrono] [McpSdk] [HashOrder] [SerdeJson]

/-- The transport's own answers are no failures. -/
theorem mcpEndpoint_status (body : List UInt8) :
    (mcpEndpoint body).Ends fun response => response.status ≠ 500 := by
  have hok : ∀ json, (okJson json).status ≠ 500 := fun _ => Nat.ne_of_beq_eq_false rfl
  rw [mcpEndpoint]
  split
  · exact .value (hok _)
  · exact .value (hok _)
  · refine (Prog.Ends.any _).bind ?_
    intro responses _
    split
    · exact .value (Nat.ne_of_beq_eq_false rfl)
    · exact .value (hok _)
  · refine (Prog.Ends.any _).bind ?_
    intro answer _
    cases answer with
    | none => exact .value (Nat.ne_of_beq_eq_false rfl)
    | some response => exact .value (hok _)

theorem runHandler_reported (handler : Handler) (request : Request) :
    Leaves Reported (runHandler handler request) := by
  refine (Leaves.edge _).bind ?_
  rintro lines _ rfl
  cases handler with
  | health => exact reported_value (Nat.ne_of_beq_eq_false rfl)
  | discovery => exact reported_value (Nat.ne_of_beq_eq_false rfl)
  | mcpEndpoint =>
      refine (Leaves.engine (mcpEndpoint_status request.body)).mono ?_
      rintro lines response ⟨rfl, hstatus⟩
      exact .inl ⟨hstatus, rfl⟩
  | systemdSystemStatus => exact systemdStatus_reported .system
  | systemdUserStatus => exact systemdStatus_reported .user

variable [HttpStack]

omit [Chrono] [McpSdk] [HashOrder] [SerdeJson] in
theorem requireBearerToken_reported (apiToken : String) (request : Request)
    {next : Http Response} (hnext : Leaves Reported next) :
    Leaves Reported (requireBearerToken apiToken request next) := by
  refine (Leaves.edge _).bind ?_
  rintro lines _ rfl
  split
  · exact intoResponse_reported _
  · split
    · exact intoResponse_reported _
    · split
      · exact hnext
      · exact intoResponse_reported _

theorem router_reported (apiToken : String) (request : Request) :
    Leaves Reported (router apiToken request) := by
  rw [router]
  split
  · exact reported_value (Nat.ne_of_beq_eq_false rfl)
  · next route _ =>
      split
      · split
        · exact requireBearerToken_reported apiToken request (runHandler_reported _ request)
        · exact runHandler_reported _ request
      · split
        · exact requireBearerToken_reported apiToken request
            (reported_value (Nat.ne_of_beq_eq_false rfl))
        · exact reported_value (Nat.ne_of_beq_eq_false rfl)

theorem decided_reported (apiToken : String) (request : Request) (decision : Except Nat Unit) :
    Leaves Reported (decided apiToken request decision) := by
  cases decision with
  | ok _ => exact router_reported apiToken request
  | error n => exact intoResponse_reported (.rateLimited n)

omit [HttpStack] [Chrono] [McpSdk] [HashOrder] [SerdeJson] in
theorem edge_leads {β : Type} {o : EdgeOp} {f : EdgeSig.Ans o → Http β} {b : β}
    {history : List (Exchange HttpSig)} (h : (edge o >>= f).Leads history (pure b)) :
    ∃ answer rest, history = ⟨.inr o, answer⟩ :: rest ∧ (f answer).Leads rest (pure b) :=
  h.op_inv

omit [HttpStack] [Chrono] [McpSdk] [HashOrder] [SerdeJson] in
/-- What follows a response: the clock, the line about it, and the warning. -/
theorem logged_leads {request : Request} {startedAt : Duration} {response answer : Response}
    {history : List (Exchange HttpSig)}
    (h : (logged request startedAt response).Leads history (pure answer)) :
    answer = response.to request ∧ ∃ finishedAt : Duration,
      history.filterMap clockOf = [finishedAt]
        ∧ linesOf (history.map Sigma.fst) = [.instantNow,
            .requestSummary request.method request.path response.status
              ((finishedAt - startedAt) / 1000000)]
          ++ (if response.status = 401 then
            [.authenticationFailure request.method request.path] else []) := by
  obtain ⟨finishedAt, behindClock, rfl, hsummary⟩ := edge_leads h
  obtain ⟨summary, behindSummary, rfl, hrest⟩ := edge_leads hsummary
  by_cases hstatus : response.status = 401
  · rw [if_pos hstatus] at hrest ⊢
    obtain ⟨warning, behindWarning, rfl, hlast⟩ := edge_leads hrest
    obtain ⟨rfl, rfl⟩ := hlast.pure_inv
    exact ⟨rfl, finishedAt, rfl, rfl⟩
  · rw [if_neg hstatus] at hrest ⊢
    obtain ⟨rfl, rfl⟩ := hrest.pure_inv
    exact ⟨rfl, finishedAt, rfl, rfl⟩

omit [HttpStack] [Chrono] [McpSdk] [HashOrder] [SerdeJson] in
/-- Where nothing but diagnostics is written, no time is read. -/
theorem clocks_of_reported {exchanges : List (Exchange HttpSig)} {response : Response}
    (h : Reported (linesOf (exchanges.map Sigma.fst)) response) :
    exchanges.filterMap clockOf = [] := by
  have hnone : EdgeOp.instantNow ∉ linesOf (exchanges.map Sigma.fst) := by
    rcases h with ⟨-, hlines⟩ | ⟨-, detail, hlines⟩
    · simp [hlines]
    · simp [hlines]
  rw [List.filterMap_eq_nil_iff]
  rintro ⟨o, answer⟩ hmem
  rcases o with o | o
  · rfl
  · cases o with
    | instantNow =>
        have hline : EdgeOp.instantNow ∈ linesOf (exchanges.map Sigma.fst) :=
          List.mem_filterMap.mpr ⟨_, List.mem_map_of_mem hmem, rfl⟩
        exact absurd hline hnone
    | _ => rfl

omit [HttpStack] [Chrono] [McpSdk] [HashOrder] [SerdeJson] in
theorem to_status (response : Response) (request : Request) :
    (response.to request).status = response.status := by
  rw [Response.to]
  split <;> rfl

/-- The history of a request that has been answered: the clock, the limiter, what is done on its
decision, and the log. -/
theorem buildApp_leads {apiToken : String} {request : Request} {answer : Response}
    {history : List (Exchange HttpSig)}
    (h : (buildApp apiToken request).Leads history (pure answer)) :
    ∃ (startedAt : Duration) (decision : Except Nat Unit) (response : Response)
      (before rest : List (Exchange HttpSig)),
      history = ⟨.inr .instantNow, startedAt⟩ :: ⟨.inr .checkLimiter, decision⟩ :: (before ++ rest)
        ∧ (decided apiToken request decision).Leads before (pure response)
        ∧ (logged request startedAt response).Leads rest (pure answer) := by
  rw [buildApp_eq] at h
  obtain ⟨startedAt, behindClock, rfl, hlimiter⟩ := edge_leads h
  obtain ⟨decision, behindLimiter, rfl, hdecided⟩ := edge_leads hlimiter
  obtain ⟨response, before, rest, rfl, hbefore, hrest⟩ := hdecided.bind_inv
  exact ⟨startedAt, decision, response, before, rest, rfl, hbefore, hrest⟩

/-- What is left in the log by a request that has been answered. -/
theorem buildApp_lines {apiToken : String} {request : Request} {answer : Response}
    {history : List (Exchange HttpSig)}
    (h : (buildApp apiToken request).Leads history (pure answer)) :
    ∃ (startedAt finishedAt : Duration) (failures : List EdgeOp),
      history.filterMap clockOf = [startedAt, finishedAt] ∧ Reported failures answer
        ∧ linesOf (history.map Sigma.fst) = .instantNow :: failures
          ++ [.instantNow, .requestSummary request.method request.path answer.status
            ((finishedAt - startedAt) / 1000000)]
          ++ (if answer.status = 401 then
            [.authenticationFailure request.method request.path] else []) := by
  obtain ⟨startedAt, decision, response, before, rest, rfl, hbefore, hrest⟩ := buildApp_leads h
  obtain ⟨rfl, finishedAt, hclocks, hlines⟩ := logged_leads hrest
  have hreported : Reported (linesOf (before.map Sigma.fst)) response :=
    hbefore.all (decided_reported apiToken request decision) response rfl
  refine ⟨startedAt, finishedAt, linesOf (before.map Sigma.fst), ?_, ?_, ?_⟩
  · show startedAt :: (before ++ rest).filterMap clockOf = _
    rw [List.filterMap_append, clocks_of_reported hreported, hclocks]
    rfl
  · rw [Reported, to_status]
    exact hreported
  · show EdgeOp.instantNow :: linesOf ((before ++ rest).map Sigma.fst) = _
    rw [List.map_append, linesOf_append, hlines, to_status]
    simp

end Router

/-! ## The log -/

variable {σ : Type}

/-- What the clock says is the time of the turn. -/
theorem clockOf_event (providers : Moment → Host ProviderSig σ)
    (pool : Pool HttpSig (RateLimiter × σ) Response) (turns : List (Nat × Moment)) :
    ∀ event ∈ (pool.run (httpHost providers) turns).1,
      ∀ clock, clockOf event.exchange = some clock → clock = event.stamp.clock := by
  intro event hevent clock hclock
  obtain ⟨⟨limiter, s⟩, hanswer⟩ := Pool.run_answers (httpHost providers) pool turns event hevent
  obtain ⟨task, stamp, o, answer⟩ := event
  rcases o with o | o
  · cases hclock
  · cases o with
    | instantNow =>
        cases hclock
        exact hanswer
    | _ => cases hclock

/-- The turns at which the time is read, from what is read at them. -/
theorem stamps_of_clocks {events : List (Event HttpSig Moment)}
    (h : ∀ event ∈ events, ∀ clock, clockOf event.exchange = some clock →
      clock = event.stamp.clock) :
    (((events.filter fun event => (clockOf event.exchange).isSome).map Event.stamp).map Moment.clock)
      = (events.map Event.exchange).filterMap clockOf := by
  induction events with
  | nil => rfl
  | cons event events ih =>
      obtain ⟨hfirst, hrest⟩ := List.forall_mem_cons.mp h
      rw [List.map_cons, List.filterMap_cons]
      cases hclock : clockOf event.exchange with
      | none =>
          rw [List.filter_cons_of_neg (by simp [hclock])]
          exact ih hrest
      | some clock =>
          rw [List.filter_cons_of_pos (by simp [hclock]), List.map_cons, List.map_cons, ih hrest,
            hfirst clock hclock]

section Log

variable [HttpStack] [Chrono] [McpSdk] [HashOrder] [SerdeJson]

/-- **The log says of every request that has been answered what has become of it**, in any
interleaving: one summary with its method, its path, the status of the answer and the time between
two readings of the clock, a warning exactly when it is a 401, diagnostics exactly when it is a
500, and nothing else. -/
theorem log_faithful (apiToken : String) (requests : List Request) (turns : List (Nat × Moment))
    (limiter : RateLimiter) (providers : Moment → Host ProviderSig σ) (s : σ) :
    let run := (app apiToken requests limiter s).run (httpHost providers) turns
    ∀ i request response, requests[i]? = some request →
      run.2.tasks[i]? = some (pure response) →
      ∃ (start finish : Moment) (failures : List EdgeOp),
        ((ofTask i run.1).filter fun event => (clockOf event.exchange).isSome).map Event.stamp
            = [start, finish]
        ∧ Reported failures response
        ∧ linesOf ((ofTask i run.1).map fun event => event.exchange.1) = .instantNow :: failures
          ++ [.instantNow, .requestSummary request.method request.path response.status
            ((finish.clock - start.clock) / 1000000)]
          ++ (if response.status = 401 then
            [.authenticationFailure request.method request.path] else []) := by
  intro run i request response hi hresponse
  obtain ⟨p, hp, hleads⟩ := Pool.run_leads (httpHost providers)
    (app_task apiToken hi limiter s) turns
  obtain rfl : p = pure response := Option.some.inj (hp.symm.trans hresponse)
  obtain ⟨startedAt, finishedAt, failures, hclocks, hfailures, hlines⟩ := buildApp_lines hleads
  have hread : ∀ event ∈ ofTask i run.1, ∀ clock, clockOf event.exchange = some clock →
      clock = event.stamp.clock := by
    intro event hevent
    exact clockOf_event providers _ turns event (List.mem_filter.mp hevent).1
  have hstamps := (stamps_of_clocks hread).trans hclocks
  obtain ⟨start, rest, hstart, rfl, hrest⟩ := List.map_eq_cons_iff.mp hstamps
  obtain ⟨finish, none, hfinish, rfl, hnone⟩ := List.map_eq_cons_iff.mp hrest
  rw [List.map_eq_nil_iff.mp hnone] at hfinish
  refine ⟨start, finish, failures, by rw [hstart, hfinish], hfailures, ?_⟩
  rw [List.map_map] at hlines
  exact hlines

end Log

/-- A task with a status has been answered with it. -/
theorem answered_of_statusOf {tasks : List (Prog HttpSig Response)} {i status : Nat}
    (h : (tasks.map statusOf)[i]? = some (some status)) :
    ∃ response : Response, tasks[i]? = some (pure response) ∧ response.status = status := by
  rw [List.getElem?_map] at h
  obtain ⟨p, hp, hanswered⟩ := Option.map_eq_some_iff.mp h
  cases p with
  | pure response => exact ⟨response, hp, Option.some.inj hanswered⟩
  | op o k => cases hanswered
  | abort msg => cases hanswered

/-- The request without the token, in the log. -/
theorem log_faithful_status :
    ∃ durationMs, linesOf ((ofTask 0 (statusRun "running").1).map fun event => event.exchange.1)
      = [.instantNow, .instantNow,
          .requestSummary "GET" "/systemd/system/status" 401 durationMs,
          .authenticationFailure "GET" "/systemd/system/status"] := by
  have hanswered : ((statusRun "running").2.tasks.map statusOf)[0]? = some (some 401) := by
    decide +kernel
  obtain ⟨response, hp, h401⟩ := answered_of_statusOf hanswered
  obtain ⟨start, finish, failures, -, hreported, hlines⟩ := @log_faithful Unit plainHttp rfc3339
    plainSdk nameOrder pingJson "t" statusRequests statusTurns (.new .default 0)
    (fun _ => statusHost "running") () 0 _ response rfl hp
  rw [Reported, h401] at hreported
  obtain rfl : failures = [] := by simpa using hreported
  rw [h401] at hlines
  exact ⟨_, hlines⟩

end SystemdMonitoring
