/-
# `SystemdMonitoring.Mcp.Server` — the JSON-RPC engine

`handle_json_rpc_value` answers one message: what is no message is refused,
notifications are carried out and not answered, and requests are.  Whatever the
providers do, a message gets no answer exactly when it is a notification
without an id, and otherwise one envelope around its id (`handleJsonRpcValue_answers`).

The argument goes through the call graph once: every response of a handler is
an envelope around the id that the handler was given (`Answers`), and no handler
stops on the way, for what it expects of a validated query is there.
-/
import SystemdMonitoring.Domain.Resources
import SystemdMonitoring.Domain.Tools
import SystemdMonitoring.Lib.Calendar

namespace SystemdMonitoring

open Lib Lib.Text

/-! ## Audit -/

def isSensitiveKey (key : String) : Bool :=
  let normalized := toAsciiLowercase (trim key)
  ["token", "api_token", "access_token", "refresh_token", "authorization", "bearer", "password",
    "secret", "credentials", "credential", "api_key", "apikey"].contains normalized
  || contains normalized "token" || contains normalized "secret"
  || contains normalized "password" || contains normalized "credential"

mutual
/-- Recursively redacts sensitive keys from JSON values for logging safety. -/
def redactAuditValue : Json → Json
  | .obj members => .obj (redactAuditMembers members)
  | .arr items => .arr (redactAuditItems items)
  | value => value
def redactAuditMembers : Members → Members
  | [] => []
  | (key, item) :: members =>
      (key, if isSensitiveKey key then .str "[REDACTED]" else redactAuditValue item)
        :: redactAuditMembers members
def redactAuditItems : List Json → List Json
  | [] => []
  | item :: items => redactAuditValue item :: redactAuditItems items
end

def redactAuditParams (params : Option Json) : Json := Json.ofOption (params.map redactAuditValue)

/-! ## Protocol versions -/

def minSupportedProtocolVersion : String := "2024-11-05"
def fallbackProtocolVersion : String := "2025-03-26"

def packageName : String := "systemd-monitoring-mcp"
def packageVersion : String := "0.13.0"

/-- Parses protocol version strings in `YYYY-MM-DD` format. -/
def parseProtocolVersionDate (version : String) : Option Date :=
  if version.utf8ByteSize ≠ 10 then none
  else
    match split '-' version with
    | [year, month, day] =>
        if year.utf8ByteSize ≠ 4 ∨ month.utf8ByteSize ≠ 2 ∨ day.utf8ByteSize ≠ 2 then none
        else do
          let year ← parseDigits year.toList
          let month ← parseDigits month.toList
          let day ← parseDigits day.toList
          let date : Date := ⟨year, month, day⟩
          if date.IsValid then some date else none
    | _ => none

/-- Accepts known versions directly and falls back for newer dates. -/
def negotiateProtocolVersion [McpSdk] (params : Option Json) : App (Except AppError String) :=
  let unsupported : AppError :=
    .badRequest "unsupported_protocol_version" "unsupported initialize protocolVersion"
  match (((params.bind (fun value => value.get "protocolVersion")).bind Json.asStr).map trim).filter
      (· ≠ "") with
  | none =>
      pure (.error (.badRequest "invalid_protocol_version"
        "initialize params.protocolVersion is required"))
  | some offeredVersion =>
      match McpSdk.protocolVersion offeredVersion with
      | some version => pure (.ok version)
      | none =>
          match parseProtocolVersionDate offeredVersion with
          | none => pure (.error unsupported)
          | some offered => do
              let minSupported ← expectSome
                "MIN_SUPPORTED_PROTOCOL_VERSION must be valid YYYY-MM-DD"
                (parseProtocolVersionDate minSupportedProtocolVersion)
              if minSupported.toDays ≤ offered.toDays then return .ok fallbackProtocolVersion
              else return .error unsupported

/-! ## Requests -/

/-- Whether a present id has a supported scalar type. -/
def isValidRequestId (id : Json) : Bool := id.asStr.isSome || id.asI64.isSome

theorem isValidRequestId_iff (id : Json) :
    isValidRequestId id = true ↔ (valueToRequestId id).isSome = true := by
  cases id with
  | int value =>
      rw [isValidRequestId, Json.asI64, valueToRequestId]
      by_cases h : -2 ^ 63 ≤ value ∧ value < 2 ^ 63
      · rw [if_pos h, dif_pos h]
        simp
      · rw [if_neg h, dif_neg h]
        simp [Json.asStr]
  | _ => simp [isValidRequestId, Json.asI64, Json.asStr, valueToRequestId]

/-- The schema that a method's request is checked against. -/
def requestType : String → Option RequestType
  | "tools/call" => some .callTool
  | "resources/read" => some .readResource
  | "tools/list" => some .listTools
  | "resources/list" => some .listResources
  | "ping" => some .ping
  | "initialize" => some .initializeRequest
  | _ => none

section Engine

variable [McpSdk]

/-- Validates method-specific request envelope shape before dispatch. -/
def validateRequestShape (request : JsonrpcRequest) : Except Json Unit :=
  if (requestType request.method).all (fun type => McpSdk.decodesAs type request) then .ok ()
  else .error (jsonRpcInvalidParams (some (requestIdToValue request.id)))

/-- Emits the audit line of a response. -/
def audited (method : String) (params : Option Json) (response : Json) : App Json := do
  server (.audit {
    method := method
    params := redactAuditParams params
    failure := isJsonRpcError response })
  return response

variable [Chrono] [HashOrder] [SerdeJson]

/-- The response of a method; `initialize` may fail before there is one to audit. -/
def dispatch (id : Option Json) (method : String) (params : Option Json) :
    App (Except AppError Json) :=
  match method with
  | "initialize" => do
      match ← negotiateProtocolVersion params with
      | .error err => return .error err
      | .ok version =>
          return .ok (jsonRpcResult id
            (McpSdk.toValue (.initializeResult packageName packageVersion version)))
  | "ping" => pure (.ok (jsonRpcResult id (.obj [])))
  | "tools/list" => pure (.ok (jsonRpcResult id (McpSdk.toValue (.listTools buildToolsList))))
  | "tools/call" => do
      let response ← handleToolsCall id params
      return .ok response
  | "resources/list" =>
      pure (.ok (jsonRpcResult id (McpSdk.toValue (.listResources buildResourcesList))))
  | "resources/read" => do
      let response ← handleResourcesRead id params
      return .ok response
  | _ => pure (.ok (jsonRpcMethodNotFound id))

/-- Executes a parsed JSON-RPC request method and returns a response payload. -/
def handleJsonRpcRequest (id : Option Json) (method : String) (params : Option Json) :
    App Json := do
  match ← dispatch id method params with
  | .error err => return appErrorToJsonRpc id err
  | .ok response => audited method params response

/-- Handles a single JSON value as an MCP JSON-RPC message. -/
def handleJsonRpcValue (payload : Json) : App (Option Json) :=
  if !payload.isObject then pure (some (jsonRpcInvalidRequest none))
  else if (payload.get "id").any (fun id => !isValidRequestId id) then
    pure (some (jsonRpcInvalidRequest none))
  else
    match decodeMessage payload with
    | none => pure (some (jsonRpcInvalidRequest (payload.get "id")))
    | some (.request request) =>
        match validateRequestShape request with
        | .error response => pure (some response)
        | .ok () =>
            if trim request.method = "" then
              pure (some (jsonRpcInvalidRequest (some (requestIdToValue request.id))))
            else do
              let response ← handleJsonRpcRequest (some (requestIdToValue request.id))
                request.method (request.params.map .obj)
              return some response
    | some (.notification notification) =>
        if trim notification.method = "" then pure none
        else do
          let _ ← handleJsonRpcRequest none notification.method (notification.params.map .obj)
          return none
    | some .response => pure (some (jsonRpcInvalidRequest (payload.get "id")))

/-! ## Answers -/

omit [Chrono] [HashOrder] [SerdeJson] in
theorem negotiateProtocolVersion_returns (params : Option Json) :
    (negotiateProtocolVersion params).Returns (fun _ => True) := by
  have hmin : parseProtocolVersionDate minSupportedProtocolVersion = some ⟨2024, 11, 5⟩ := by rfl
  rw [negotiateProtocolVersion]
  split
  · exact Prog.Returns.value trivial
  · split
    · exact Prog.Returns.value trivial
    · split
      · exact Prog.Returns.value trivial
      · rw [hmin]
        dsimp only [expectSome]
        rw [Prog.pure_bind]
        split <;> exact Prog.Returns.value trivial

variable [LawfulMcpSdk]

theorem dispatch_answers {id : Option Json} (hid : UsableId id) (method : String)
    (params : Option Json) :
    (dispatch id method params).Returns
      (fun answer => ∀ response, answer = .ok response → Envelope (echoedId id) response) := by
  have hok : ∀ {response : Json}, Envelope (echoedId id) response →
      (pure (.ok response) : App (Except AppError Json)).Returns
        (fun answer => ∀ response, answer = .ok response → Envelope (echoedId id) response) :=
    fun h => Prog.Returns.value fun _ heq => by cases heq; exact h
  unfold dispatch
  split
  · refine (negotiateProtocolVersion_returns params).bind fun version _ => ?_
    cases version with
    | error err => exact Prog.Returns.value fun _ heq => by cases heq
    | ok version => exact hok (envelope_result hid _)
  · exact hok (envelope_result hid _)
  · exact hok (envelope_result hid _)
  · exact (handleToolsCall_answers hid params).bind fun _ => hok
  · exact hok (envelope_result hid _)
  · exact (handleResourcesRead_answers hid params).bind fun _ => hok
  · exact hok (envelope_error _ _ _ _)

theorem handleJsonRpcRequest_answers {id : Option Json} (hid : UsableId id) (method : String)
    (params : Option Json) :
    (handleJsonRpcRequest id method params).Returns (Envelope (echoedId id)) := by
  refine (dispatch_answers hid method params).bind fun answer hanswer => ?_
  cases answer with
  | error err => exact Prog.Returns.value (envelope_appError id err)
  | ok response => exact fun _ => Prog.Returns.value (hanswer response rfl)

/-- An object without an id that decodes as a notification. -/
def IsNotification (payload : Json) : Prop :=
  payload.isObject = true ∧ payload.get "id" = none
    ∧ (McpSdk.decodeNotification payload).isSome = true

/-- The one answer that a message gets, or none when it is a notification. -/
def Answered (payload : Json) (answer : Option Json) : Prop :=
  (answer = none ↔ IsNotification payload)
    ∧ ∀ response, answer = some response → Envelope (echoedId (payload.get "id")) response

omit [Chrono] [HashOrder] [SerdeJson] [LawfulMcpSdk] in
theorem answered_some {payload response : Json} (hno : ¬ IsNotification payload)
    (h : Envelope (echoedId (payload.get "id")) response) : Answered payload (some response) :=
  ⟨iff_of_false (by simp) hno, fun _ heq => by cases heq; exact h⟩

omit [Chrono] [HashOrder] [SerdeJson] [LawfulMcpSdk] in
theorem answered_none {payload : Json} (h : IsNotification payload) : Answered payload none :=
  ⟨iff_of_true rfl h, fun _ heq => by cases heq⟩

omit [Chrono] [HashOrder] [SerdeJson] in
/-- What a message decodes as, and what that says about its id. -/
theorem decodeMessage_spec {payload : Json} (hobject : payload.isObject = true)
    (hid : UsableId (payload.get "id")) :
    match decodeMessage payload with
    | some (.request request) => payload.get "id" = some (requestIdToValue request.id)
    | some (.notification _) => IsNotification payload
    | some .response | none => ¬ IsNotification payload := by
  cases hrequest : McpSdk.decodeRequest payload with
  | some request =>
      simp only [decodeMessage, hrequest]
      exact LawfulMcpSdk.id_of_request hrequest
  | none =>
      cases hnotification : McpSdk.decodeNotification payload with
      | some notification =>
          simp only [decodeMessage, hrequest, hnotification]
          refine ⟨hobject, ?_, by rw [hnotification]; rfl⟩
          -- with an id it would have been a request
          cases hpayload : payload.get "id" with
          | none => rfl
          | some v =>
              obtain ⟨id, hv⟩ := Option.isSome_iff_exists.mp (hid v hpayload)
              rw [← requestIdToValue_of_valueToRequestId hv] at hpayload
              rw [LawfulMcpSdk.request_of_notification hnotification hpayload] at hrequest
              cases hrequest
      | none =>
          have hno : ¬ IsNotification payload := by
            rintro ⟨-, -, hsome⟩
            rw [hnotification] at hsome
            cases hsome
          simp only [decodeMessage, hrequest, hnotification]
          cases McpSdk.decodesResponse payload <;> exact hno

omit [LawfulMcpSdk] in
/-- Under an id that is neither a string nor a signed 64-bit integer nothing is carried out. -/
theorem handleJsonRpcValue_of_invalid {payload id : Json} (hid : payload.get "id" = some id)
    (hinvalid : valueToRequestId id = none) :
    handleJsonRpcValue payload = pure (some (jsonRpcInvalidRequest none)) := by
  have hobject : payload.isObject = true := by
    cases payload <;> first | rfl | cases hid
  have hvalid : isValidRequestId id = false := by
    rw [← Bool.not_eq_true, isValidRequestId_iff, hinvalid]
    exact Bool.false_ne_true
  rw [handleJsonRpcValue, hobject, hid]
  simp only [Bool.not_true, Bool.false_eq_true, if_false, Option.any_some, hvalid, Bool.not_false,
    if_true]

omit [Chrono] [HashOrder] [SerdeJson] [LawfulMcpSdk] in
theorem not_isNotification {payload id : Json} (hid : payload.get "id" = some id) :
    ¬ IsNotification payload := by
  rintro ⟨-, hnone, -⟩
  rw [hid] at hnone
  cases hnone

omit [McpSdk] [Chrono] [HashOrder] [SerdeJson] [LawfulMcpSdk] in
theorem any_invalid_eq_false {id : Option Json} (hid : UsableId id) :
    id.any (fun id => !isValidRequestId id) = false := by
  cases id with
  | none => rfl
  | some v =>
      rw [Option.any_some, (isValidRequestId_iff v).mpr (hid v rfl)]
      rfl

omit [LawfulMcpSdk] in
theorem handleJsonRpcValue_of_not_object {payload : Json} (hobject : payload.isObject = false) :
    handleJsonRpcValue payload = pure (some (jsonRpcInvalidRequest none)) := by
  rw [handleJsonRpcValue, hobject]
  rfl

/-- An object with a usable id, or with none, is answered as it decodes. -/
theorem handleJsonRpcValue_decoded {payload : Json} (hobject : payload.isObject = true)
    (hid : UsableId (payload.get "id")) :
    (handleJsonRpcValue payload).Returns (Answered payload) := by
  have hspec := decodeMessage_spec hobject hid
  have hany := any_invalid_eq_false hid
  simp only [handleJsonRpcValue, hobject, hany, Bool.not_true, Bool.false_eq_true, if_false]
  split
  case h_1 hmessage =>
    rw [hmessage] at hspec
    exact Prog.Returns.value (answered_some hspec (envelope_error _ _ _ _))
  case h_2 request hmessage =>
    rw [hmessage] at hspec
    have hsome : ∀ {response : Json},
        Envelope (echoedId (some (requestIdToValue request.id))) response →
        Answered payload (some response) :=
      fun h => answered_some (not_isNotification hspec) (hspec ▸ h)
    split
    case h_1 response hshape =>
      rw [validateRequestShape] at hshape
      split at hshape <;> cases hshape
      exact Prog.Returns.value (hsome (envelope_error _ _ _ _))
    case h_2 =>
      split
      · exact Prog.Returns.value (hsome (envelope_error _ _ _ _))
      · refine (handleJsonRpcRequest_answers (usableId_requestId request.id) _ _).bind ?_
        intro response hresponse
        exact Prog.Returns.value (hsome hresponse)
  case h_3 notification hmessage =>
    rw [hmessage] at hspec
    split
    · exact Prog.Returns.value (answered_none hspec)
    · refine (handleJsonRpcRequest_answers usableId_none _ _).bind ?_
      intro response hresponse
      exact Prog.Returns.value (answered_none hspec)
  case h_4 hmessage =>
    rw [hmessage] at hspec
    exact Prog.Returns.value (answered_some hspec (envelope_error _ _ _ _))

/-- **Every message but a notification is answered, once and under its id.** -/
theorem handleJsonRpcValue_answers (payload : Json) :
    (handleJsonRpcValue payload).Returns (Answered payload) := by
  by_cases hobject : payload.isObject = true
  · by_cases hid : UsableId (payload.get "id")
    · exact handleJsonRpcValue_decoded hobject hid
    · -- an id that cannot be repeated
      obtain ⟨v, hv, hinvalid⟩ : ∃ v, payload.get "id" = some v ∧ valueToRequestId v = none := by
        simpa [UsableId] using hid
      rw [handleJsonRpcValue_of_invalid hv hinvalid]
      refine Prog.Returns.value (answered_some (not_isNotification hv) ?_)
      rw [hv, echoedId_eq, Option.bind_some, hinvalid]
      exact envelope_error none _ _ _
  · have hnone : payload.get "id" = none := by
      cases payload <;> first | rfl | exact absurd rfl hobject
    rw [handleJsonRpcValue_of_not_object (Bool.eq_false_of_not_eq_true hobject)]
    refine Prog.Returns.value (answered_some (fun h => hobject h.1) ?_)
    rw [hnone]
    exact envelope_error none _ _ _

end Engine

end SystemdMonitoring
