/-
# `SystemdMonitoring.Http.Handlers` — the HTTP endpoints

What the server itself asks for at its edge is a signature of its own, beside
the one of the JSON-RPC engine: an engine's program is carried over by
`inLeft`, and can therefore not touch the limiter or the request log.

`mcp_endpoint` takes one message or a batch.  A batch is answered with the
answers of its messages, one after the other and in their order
(`handleBatch_eq`), which together with the engine's theorem makes responses
and requests correspond (`responses_correspond`).
-/
import Mathlib.Data.List.ReduceOption
import SystemdMonitoring.Mcp.Server
import SystemdMonitoring.RateLimit

namespace SystemdMonitoring

open Lib

/-! ## The edge -/

inductive Handler where
  | health
  | discovery
  | mcpEndpoint
  | systemdSystemStatus
  | systemdUserStatus
  deriving DecidableEq, Repr

/-- The stages of a request behind the limiter. -/
inductive Stage where
  | authentication
  | handler (handler : Handler)
  deriving DecidableEq, Repr

/-- The monotonic clock, the limiter and the request log.  `reached` is no operation of the
source: it lets a history say which stage a request has come to. -/
inductive EdgeOp where
  | instantNow
  | checkLimiter
  | reached (stage : Stage)
  | requestSummary (method path : String) (status durationMs : Nat)
  | authenticationFailure (method path : String)
  | internalFailure (detail : String)
  deriving DecidableEq, Repr

abbrev EdgeSig : Sig where
  Op := EdgeOp
  Ans
    | .instantNow => Duration
    | .checkLimiter => Except Nat Unit
    | .reached _ => Unit
    | .requestSummary _ _ _ _ => Unit
    | .authenticationFailure _ _ => Unit
    | .internalFailure _ => Unit

abbrev HttpSig : Sig := AppSig.sum EdgeSig

abbrev Http (α : Type) : Type := Prog HttpSig α

def edge (o : EdgeOp) : Http (EdgeSig.Ans o) := Prog.call (S := HttpSig) (.inr o)

/-- A program of the engine. -/
def engine {α : Type} (p : App α) : Http α := p.inLeft (T := EdgeSig)

structure Response where
  status : Nat
  body : Option Json
  retryAfter : Option Nat
  deriving DecidableEq, Repr

def okJson (body : Json) : Response := ⟨200, some body, none⟩

def noContent : Response := ⟨204, none, none⟩

/-! ## Errors -/

/-- An error's status, code and message; those of internal failures say nothing. -/
def AppError.httpParts : AppError → Nat × String × String × Json × Option Nat
  | .badRequest code message => (400, code, message, .obj [], none)
  | .badRequestWithDetails code message details => (400, code, message, details, none)
  | .unauthorized code message => (401, code, message, .obj [], none)
  | .forbidden code message => (403, code, message, .obj [], none)
  | .internal code _ => (500, code, "internal server error", .obj [], none)
  | .notImplemented code message => (501, code, message, .obj [], none)
  | .tooManyRequests retryAfterSeconds =>
      (429, "rate_limit_exceeded", "rate limit exceeded", .obj [], some (max retryAfterSeconds 1))

def AppError.httpResponse (err : AppError) : Response :=
  let (status, code, message, details, retryAfter) := err.httpParts
  ⟨status, some (errorData code message details), retryAfter⟩

/-- Maps app errors into the standardized HTTP error response shape; the diagnostics of an internal
failure are logged. -/
def intoResponse (err : AppError) : Http Response :=
  match err with
  | .internal _ message => do
      edge (.internalFailure message)
      return err.httpResponse
  | err => pure err.httpResponse

/-! ## Endpoints -/

/-- Lightweight health handler for infrastructure liveness checks. -/
def health : Http Response := pure (okJson (.obj [("status", .str "ok")]))

/-- Public MCP discovery metadata handler. -/
def discovery : Http Response :=
  pure (okJson (.obj [("name", .str packageName), ("version", .str packageVersion),
    ("mcp_endpoint", .str "/mcp")]))

/-- Builds the shared systemd status response for one concrete manager scope. -/
def systemdStatus (scope : UnitScope) : Http Response := do
  match ← engine (provider (.systemState scope)) with
  | .error err => intoResponse err
  | .ok status =>
      let status : String := status
      if status = "running" then
        return okJson (.obj [("scope", .str scope.asStr), ("status", .str status)])
      else
        return ⟨503, some (errorData "systemd_not_running" "systemd manager is not running"
          (.obj [("scope", .str scope.asStr), ("status", .str status)])), none⟩

section Mcp

variable [Chrono] [McpSdk] [HashOrder] [SerdeJson]

/-- The loop over a batch, with the responses so far. -/
def handleBatch : List Json → List Json → App (List Json)
  | [], responses => pure responses
  | item :: batch, responses => do
      match ← handleJsonRpcValue item with
      | some response => handleBatch batch (responses ++ [response])
      | none => handleBatch batch responses

/-- Main MCP transport endpoint handling single and batch JSON-RPC payloads. -/
def mcpEndpoint (body : List UInt8) : App Response :=
  match SerdeJson.fromSlice body with
  | none => pure (okJson (jsonRpcParseError none))
  | some (.arr []) => pure (okJson (.arr [jsonRpcInvalidRequest none]))
  | some (.arr batch) => do
      let responses ← handleBatch batch []
      if responses = [] then return noContent
      else return okJson (.arr responses)
  | some payload => do
      match ← handleJsonRpcValue payload with
      | some response => return okJson response
      | none => return noContent

/-! ## Responses and requests -/

/-- A batch is handled message by message. -/
theorem handleBatch_eq (batch responses : List Json) :
    handleBatch batch responses
      = batch.mapM handleJsonRpcValue >>= fun answers =>
        pure (responses ++ answers.reduceOption) := by
  induction batch generalizing responses with
  | nil =>
      rw [handleBatch, List.mapM_nil, Prog.pure_bind, List.reduceOption_nil, List.append_nil]
  | cons item batch ih =>
      rw [handleBatch, List.mapM_cons, Prog.bind_assoc]
      congr 1
      funext answer
      rw [Prog.bind_assoc]
      cases answer with
      | none => exact ih responses
      | some response =>
          refine (ih (responses ++ [response])).trans ?_
          congr 1
          funext answers
          rw [Prog.pure_bind, List.reduceOption_cons_of_some, List.append_assoc,
            List.singleton_append]

/-- **Responses correspond to requests.**  Every message but a notification gets one response
under its id, nothing is carried out under an id of another type, and a batch gets the responses
of its messages, in their order, or none. -/
theorem responses_correspond [LawfulMcpSdk] :
    (∀ payload, (handleJsonRpcValue payload).Returns (Answered payload))
    ∧ (∀ payload id, payload.get "id" = some id → valueToRequestId id = none →
      handleJsonRpcValue payload = pure (some (jsonRpcInvalidRequest none)))
    ∧ ∀ body item items, SerdeJson.fromSlice body = some (.arr (item :: items)) →
      mcpEndpoint body = (item :: items).mapM handleJsonRpcValue >>= fun answers =>
        pure (if answers.reduceOption = [] then noContent
          else okJson (.arr answers.reduceOption)) := by
  refine ⟨handleJsonRpcValue_answers, fun payload id => handleJsonRpcValue_of_invalid, ?_⟩
  intro body item items hbody
  rw [mcpEndpoint, hbody]
  dsimp only
  rw [handleBatch_eq, Prog.bind_assoc]
  congr 1
  funext answers
  rw [Prog.pure_bind, List.nil_append]
  split <;> rfl

end Mcp

/-! ## A batch -/

/-- A request, a notification, and a message under an id that is no id. -/
def pingBatch : List Json :=
  [.obj [("jsonrpc", .str "2.0"), ("id", .int 1), ("method", .str "ping")],
    .obj [("jsonrpc", .str "2.0"), ("method", .str "ping")],
    .obj [("jsonrpc", .str "2.0"), ("id", .bool true), ("method", .str "ping")]]

def pingText : List UInt8 :=
  ("[\x7b\"jsonrpc\":\"2.0\",\"id\":1,\"method\":\"ping\"\x7d," ++
    "\x7b\"jsonrpc\":\"2.0\",\"method\":\"ping\"\x7d," ++
    "\x7b\"jsonrpc\":\"2.0\",\"id\":true,\"method\":\"ping\"\x7d]").toUTF8.toList

/-- A JSON library that has read one text. -/
@[reducible] def pingJson : SerdeJson where
  fromSlice := fun body => if body = pingText then some (.arr pingBatch) else none
  toString := fun _ => ""

theorem responses_correspond_batch :
    (@mcpEndpoint rfc3339 plainSdk nameOrder pingJson pingText).Returns (fun response =>
      response = okJson (.arr
        [.obj [("id", .int 1), ("jsonrpc", .str "2.0"), ("result", .obj [])],
          .obj [("jsonrpc", .str "2.0"), ("id", .null),
            ("error", .obj [("code", .int (-32600)), ("message", .str "Invalid Request")])]])) := by
  have h := @responses_correspond rfc3339 plainSdk nameOrder pingJson lawful_plainSdk
  rw [h.2.2 pingText _ _ (if_pos rfl)]
  exact fun _ _ => ⟨_, rfl, rfl⟩

end SystemdMonitoring
