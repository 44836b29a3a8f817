/-
# `SystemdMonitoring.Mcp.Rpc` — JSON-RPC messages and responses

The message types are those of the protocol library, which also decodes and
serializes them: `McpSdk` is what the server uses of it, `LawfulMcpSdk` what it
relies on.  A request has an id that is a string or a signed 64-bit integer, a
notification has none, and a serialized response is an envelope: version, id,
and either a result or an error.

Every response of the server is made here, from an optional id, and every one
of them is such an envelope around that id, or around `null` where there is
none (`envelope_error`, `envelope_result`).
-/
import SystemdMonitoring.Errors

namespace SystemdMonitoring

open Lib

abbrev Members := List (String × Json)

/-! ## Ids -/

/-- A string or a signed 64-bit integer. -/
inductive RequestId where
  | string (value : String)
  | integer (value : Int) (range : -2 ^ 63 ≤ value ∧ value < 2 ^ 63)
  deriving DecidableEq, Repr

def requestIdToValue : RequestId → Json
  | .string value => .str value
  | .integer value _ => .int value

/-- `value_to_request_id`: `none` for what is neither. -/
def valueToRequestId : Json → Option RequestId
  | .str value => some (.string value)
  | .int value =>
      if h : -2 ^ 63 ≤ value ∧ value < 2 ^ 63 then some (.integer value h) else none
  | _ => none

@[simp] theorem valueToRequestId_requestIdToValue (id : RequestId) :
    valueToRequestId (requestIdToValue id) = some id := by
  cases id with
  | string value => rfl
  | integer value range => exact dif_pos range

theorem requestIdToValue_of_valueToRequestId {v : Json} {id : RequestId}
    (h : valueToRequestId v = some id) : requestIdToValue id = v := by
  cases v with
  | str value => cases h; rfl
  | int value =>
      by_cases hrange : -2 ^ 63 ≤ value ∧ value < 2 ^ 63
      · rw [valueToRequestId, dif_pos hrange] at h
        cases h
        rfl
      · rw [valueToRequestId, dif_neg hrange] at h
        cases h
  | _ => cases h

/-! ## The protocol library -/

structure JsonrpcRequest where
  id : RequestId
  method : String
  params : Option Members
  deriving Repr

structure JsonrpcNotification where
  method : String
  params : Option Members
  deriving Repr

structure RpcError where
  code : Int
  message : String
  data : Option Json
  deriving Repr

/-- The requests that have a schema of their own. -/
inductive RequestType where
  | callTool
  | readResource
  | listTools
  | listResources
  | ping
  | initializeRequest
  deriving DecidableEq, Repr

inductive ArgumentType where
  | string
  | u32
  | bool
  | strings
  deriving DecidableEq, Repr

structure ToolArgument where
  name : String
  type : ArgumentType
  required : Bool
  deriving DecidableEq, Repr

structure Tool where
  name : String
  description : String
  arguments : List ToolArgument
  deriving DecidableEq, Repr

structure Resource where
  name : String
  description : String
  mimeType : String
  uri : String
  deriving DecidableEq, Repr

/-- The typed results that are serialized. -/
inductive McpResult where
  | initializeResult (serverName serverVersion protocolVersion : String)
  | listTools (tools : List Tool)
  | callTool (text : String) (structuredContent : Members)
  | listResources (resources : List Resource)
  | readResource (mimeType text uri : String)

/-- What the server uses of the protocol library. -/
class McpSdk where
  decodeRequest : Json → Option JsonrpcRequest
  decodeNotification : Json → Option JsonrpcNotification
  /-- Whether a value decodes as the response to some request. -/
  decodesResponse : Json → Bool
  decodesAs : RequestType → JsonrpcRequest → Bool
  callToolRequestParams : Json → Option (String × Option Members)
  readResourceRequestParams : Json → Option String
  protocolVersion : String → Option String
  errorResponse : RequestId → RpcError → Json
  resultResponse : RequestId → Option Members → Json
  toValue : McpResult → Json

inductive JsonrpcMessage where
  | request (request : JsonrpcRequest)
  | notification (notification : JsonrpcNotification)
  | response

/-- The untagged decoder: a request, else a notification, else a response. -/
def decodeMessage [McpSdk] (payload : Json) : Option JsonrpcMessage :=
  match McpSdk.decodeRequest payload with
  | some request => some (.request request)
  | none =>
      match McpSdk.decodeNotification payload with
      | some notification => some (.notification notification)
      | none => if McpSdk.decodesResponse payload then some .response else none

/-- The JSON form of an error object. -/
def RpcError.json (error : RpcError) : Json :=
  .obj ([("code", .int error.code), ("message", .str error.message)]
    ++ (error.data.map (fun data => ("data", data))).toList)

/-- What the server relies on: a request carries its id, a notification's fields with a request's
id are a request, and the two response types serialize to envelopes. -/
class LawfulMcpSdk [McpSdk] : Prop where
  id_of_request : ∀ {payload : Json} {request : JsonrpcRequest},
    McpSdk.decodeRequest payload = some request →
    payload.get "id" = some (requestIdToValue request.id)
  request_of_notification : ∀ {payload : Json} {notification : JsonrpcNotification}
      {id : RequestId},
    McpSdk.decodeNotification payload = some notification →
    payload.get "id" = some (requestIdToValue id) →
    McpSdk.decodeRequest payload = some ⟨id, notification.method, notification.params⟩
  error_jsonrpc : ∀ id error, (McpSdk.errorResponse id error).get "jsonrpc" = some (.str "2.0")
  error_id : ∀ id error, (McpSdk.errorResponse id error).get "id" = some (requestIdToValue id)
  error_error : ∀ id error, (McpSdk.errorResponse id error).get "error" = some error.json
  error_result : ∀ id error, (McpSdk.errorResponse id error).get "result" = none
  result_jsonrpc : ∀ id extra, (McpSdk.resultResponse id extra).get "jsonrpc" = some (.str "2.0")
  result_id : ∀ id extra, (McpSdk.resultResponse id extra).get "id" = some (requestIdToValue id)
  result_error : ∀ id extra, (McpSdk.resultResponse id extra).get "error" = none
  result_result : ∀ id extra,
    (McpSdk.resultResponse id extra).get "result" = some (.obj (extra.getD []))

/-! ## A plain protocol library -/

namespace PlainSdk

/-- Parameters are an optional object. -/
def params (payload : Json) : Option (Option Members) :=
  match payload.get "params" with
  | none => some none
  | some .null => some none
  | some (.obj members) => some (some members)
  | some _ => none

def notification (payload : Json) : Option JsonrpcNotification :=
  if payload.get "jsonrpc" = some (.str "2.0") then do
    let method ← (payload.get "method").bind Json.asStr
    let params ← params payload
    return ⟨method, params⟩
  else none

def request (payload : Json) : Option JsonrpcRequest := do
  let id ← (payload.get "id").bind valueToRequestId
  let fields ← notification payload
  return ⟨id, fields.method, fields.params⟩

def hasString (name : String) (request : JsonrpcRequest) : Bool :=
  ((request.params.bind (Json.member · name)).bind Json.asStr).isSome

def decodesAs : RequestType → JsonrpcRequest → Bool
  | .callTool => hasString "name"
  | .readResource => hasString "uri"
  | .initializeRequest => hasString "protocolVersion"
  | _ => fun _ => true

def toolJson (tool : Tool) : Json :=
  .obj [("name", .str tool.name), ("description", .str tool.description),
    ("inputSchema", .obj [("type", .str "object")])]

def resourceJson (resource : Resource) : Json :=
  .obj [("name", .str resource.name), ("description", .str resource.description),
    ("mimeType", .str resource.mimeType), ("uri", .str resource.uri)]

def toValue : McpResult → Json
  | .initializeResult name version protocolVersion =>
      .obj [("serverInfo", .obj [("name", .str name), ("version", .str version)]),
        ("protocolVersion", .str protocolVersion)]
  | .listTools tools => .obj [("tools", .arr (tools.map toolJson))]
  | .callTool text structuredContent =>
      .obj [("content", .arr [.obj [("type", .str "text"), ("text", .str text)]]),
        ("structuredContent", .obj structuredContent)]
  | .listResources resources => .obj [("resources", .arr (resources.map resourceJson))]
  | .readResource mimeType text uri =>
      .obj [("contents", .arr [.obj [("mimeType", .str mimeType), ("text", .str text),
        ("uri", .str uri)]])]

end PlainSdk

/-- Messages as they are written. -/
@[reducible] def plainSdk : McpSdk where
  decodeRequest := PlainSdk.request
  decodeNotification := PlainSdk.notification
  decodesResponse := fun payload =>
    decide (payload.get "jsonrpc" = some (.str "2.0"))
      && ((payload.get "result").isSome || (payload.get "error").isSome)
  decodesAs := PlainSdk.decodesAs
  callToolRequestParams := fun params => do
    let name ← (params.get "name").bind Json.asStr
    let arguments ← Json.optionalMember Json.asObject (params.asObject.getD []) "arguments"
    return (name, arguments)
  readResourceRequestParams := fun params => (params.get "uri").bind Json.asStr
  protocolVersion := fun version =>
    if version ∈ ["2024-11-05", "2025-03-26", "2025-06-18"] then some version else none
  errorResponse := fun id error =>
    .obj [("error", error.json), ("id", requestIdToValue id), ("jsonrpc", .str "2.0")]
  resultResponse := fun id extra =>
    .obj [("id", requestIdToValue id), ("jsonrpc", .str "2.0"), ("result", .obj (extra.getD []))]
  toValue := PlainSdk.toValue

theorem PlainSdk.id_of_request {payload : Json} {request : JsonrpcRequest}
    (h : PlainSdk.request payload = some request) :
    payload.get "id" = some (requestIdToValue request.id) := by
  obtain ⟨id, hid, h⟩ := Option.bind_eq_some_iff.mp h
  obtain ⟨v, hv, hid⟩ := Option.bind_eq_some_iff.mp hid
  obtain ⟨fields, -, h⟩ := Option.bind_eq_some_iff.mp h
  cases h
  rw [hv, requestIdToValue_of_valueToRequestId hid]

theorem PlainSdk.request_of_notification {payload : Json} {notification : JsonrpcNotification}
    {id : RequestId} (h : PlainSdk.notification payload = some notification)
    (hid : payload.get "id" = some (requestIdToValue id)) :
    PlainSdk.request payload = some ⟨id, notification.method, notification.params⟩ := by
  rw [PlainSdk.request, hid, Option.bind_some, valueToRequestId_requestIdToValue, h]
  rfl

theorem lawful_plainSdk : @LawfulMcpSdk plainSdk :=
  @LawfulMcpSdk.mk plainSdk PlainSdk.id_of_request PlainSdk.request_of_notification
    (fun _ _ => rfl) (fun _ _ => rfl) (fun _ _ => rfl) (fun _ _ => rfl)
    (fun _ _ => rfl) (fun _ _ => rfl) (fun _ _ => rfl) (fun _ _ => rfl)

/-! ## Responses -/

/-- Whether a response contains an error member. -/
def isJsonRpcError (value : Json) : Bool := (value.get "error").isSome

section Responses

variable [McpSdk]

/-- An error response; without a usable id the id is an explicit null. -/
def jsonRpcErrorWithData (id : Option Json) (code : Int) (message : String) (data : Option Json) :
    Json :=
  match id.bind valueToRequestId with
  | some requestId => McpSdk.errorResponse requestId ⟨code, message, data⟩
  | none =>
      .obj [("jsonrpc", .str "2.0"), ("id", .null), ("error", RpcError.json ⟨code, message, data⟩)]

def jsonRpcError (id : Option Json) (code : Int) (message : String) : Json :=
  jsonRpcErrorWithData id code message none

def jsonRpcParseError (id : Option Json) : Json := jsonRpcError id (-32700) "Parse error"

def jsonRpcInvalidRequest (id : Option Json) : Json := jsonRpcError id (-32600) "Invalid Request"

def jsonRpcInvalidParams (id : Option Json) : Json := jsonRpcError id (-32602) "Invalid params"

def jsonRpcMethodNotFound (id : Option Json) : Json := jsonRpcError id (-32601) "Method not found"

def jsonRpcMethodNotFoundWithData (id : Option Json) (data : Json) : Json :=
  jsonRpcErrorWithData id (-32601) "Method not found" (some data)

def jsonRpcInternalError (id : Option Json) : Json := jsonRpcError id (-32603) "Internal error"

/-- The data of an error: its code, its message and its details. -/
def errorData (code message : String) (details : Json) : Json :=
  .obj [("code", .str code), ("message", .str message), ("details", details)]

/-- Maps application errors to stable responses; internal failures stay opaque. -/
def appErrorToJsonRpc (id : Option Json) (err : AppError) : Json :=
  match err with
  | .badRequest code message =>
      jsonRpcErrorWithData id (-32602) "Invalid params" (some (errorData code message (.obj [])))
  | .badRequestWithDetails code message details =>
      jsonRpcErrorWithData id (-32602) "Invalid params" (some (errorData code message details))
  | .unauthorized code message | .forbidden code message =>
      jsonRpcErrorWithData id (-32001) "Unauthorized" (some (errorData code message (.obj [])))
  | .internal _ _ | .notImplemented _ _ | .tooManyRequests _ => jsonRpcInternalError id

/-- A result response; without a usable id a raw envelope. -/
def jsonRpcResult (id : Option Json) (result : Json) : Json :=
  match id.bind valueToRequestId with
  | some requestId => McpSdk.resultResponse requestId result.asObject
  | none => .obj [("jsonrpc", .str "2.0"), ("id", Json.ofOption id), ("result", result)]

end Responses

/-! ## Envelopes -/

/-- A JSON-RPC 2.0 response with that id: exactly one of a result and an error. -/
structure Envelope (id response : Json) : Prop where
  jsonrpc : response.get "jsonrpc" = some (.str "2.0")
  id : response.get "id" = some id
  result_xor_error : (response.get "result").isSome ≠ (response.get "error").isSome

/-- The id that a response repeats: a string or a signed 64-bit integer, else null. -/
def echoedId : Option Json → Json
  | some (.str value) => .str value
  | some (.int value) => if -2 ^ 63 ≤ value ∧ value < 2 ^ 63 then .int value else .null
  | _ => .null

theorem echoedId_eq (id : Option Json) :
    echoedId id = Json.ofOption ((id.bind valueToRequestId).map requestIdToValue) := by
  cases id with
  | none => rfl
  | some v =>
      cases v with
      | int value =>
          by_cases h : -2 ^ 63 ≤ value ∧ value < 2 ^ 63
          · rw [echoedId, if_pos h, Option.bind_some, valueToRequestId, dif_pos h]
            rfl
          · rw [echoedId, if_neg h, Option.bind_some, valueToRequestId, dif_neg h]
            rfl
      | _ => rfl

/-- An id that is usable, when there is one. -/
def UsableId (id : Option Json) : Prop := ∀ v, id = some v → (valueToRequestId v).isSome = true

theorem usableId_none : UsableId none := fun _ h => by cases h

theorem usableId_requestId (id : RequestId) : UsableId (some (requestIdToValue id)) := by
  rintro v h
  cases h
  rw [valueToRequestId_requestIdToValue, Option.isSome_some]

/-- A response that rejects arguments: plain invalid params, or one of the argument codes. -/
def ArgumentRejection (response : Json) : Prop :=
  ∃ error, response.get "error" = some error ∧ error.get "code" = some (.int (-32602))
    ∧ (error.get "data" = none
      ∨ ∃ data code, error.get "data" = some data ∧ data.get "code" = some (.str code)
        ∧ code ∈ argumentCodes)

section Envelopes

variable [McpSdk] [LawfulMcpSdk]

theorem get_error_jsonRpcErrorWithData (id : Option Json) (code : Int) (message : String)
    (data : Option Json) :
    (jsonRpcErrorWithData id code message data).get "error"
      = some (RpcError.json ⟨code, message, data⟩) := by
  rw [jsonRpcErrorWithData]
  split
  · exact LawfulMcpSdk.error_error _ _
  · rfl

/-- **Every error response is an envelope.** -/
theorem envelope_error (id : Option Json) (code : Int) (message : String) (data : Option Json) :
    Envelope (echoedId id) (jsonRpcErrorWithData id code message data) := by
  have herror := get_error_jsonRpcErrorWithData id code message data
  rw [echoedId_eq]
  unfold jsonRpcErrorWithData at *
  cases hid : id.bind valueToRequestId with
  | some requestId =>
      rw [hid] at herror
      refine ⟨LawfulMcpSdk.error_jsonrpc _ _, LawfulMcpSdk.error_id _ _, ?_⟩
      rw [herror, LawfulMcpSdk.error_result]
      exact Bool.false_ne_true
  | none =>
      exact ⟨rfl, rfl, Bool.false_ne_true⟩

theorem envelope_appError (id : Option Json) (err : AppError) :
    Envelope (echoedId id) (appErrorToJsonRpc id err) := by
  cases err <;> exact envelope_error _ _ _ _

theorem get_error_jsonRpcResult (id : Option Json) (result : Json) :
    (jsonRpcResult id result).get "error" = none := by
  rw [jsonRpcResult]
  split
  · exact LawfulMcpSdk.result_error _ _
  · rfl

/-- **Every result response to a usable id is an envelope.** -/
theorem envelope_result {id : Option Json} (hid : UsableId id) (result : Json) :
    Envelope (echoedId id) (jsonRpcResult id result) := by
  have herror := get_error_jsonRpcResult id result
  rw [echoedId_eq]
  unfold jsonRpcResult at *
  cases h : id.bind valueToRequestId with
  | some requestId =>
      rw [h] at herror
      refine ⟨LawfulMcpSdk.result_jsonrpc _ _, LawfulMcpSdk.result_id _ _, ?_⟩
      rw [herror, LawfulMcpSdk.result_result]
      exact Bool.false_ne_true.symm
  | none =>
      have hnone : id = none := by
        cases id with
        | none => rfl
        | some v =>
            have hsome := hid v rfl
            rw [show valueToRequestId v = none from h] at hsome
            cases hsome
      subst hnone
      exact ⟨rfl, rfl, Bool.false_ne_true.symm⟩

/-! ## Rejections -/

omit [McpSdk] [LawfulMcpSdk] in
theorem get_code_json (error : RpcError) : error.json.get "code" = some (.int error.code) := rfl

omit [McpSdk] [LawfulMcpSdk] in
theorem get_data_json (error : RpcError) : error.json.get "data" = error.data := by
  cases h : error.data <;> simp [RpcError.json, h, Json.member_cons]

theorem argumentRejection_iff (id : Option Json) (code : Int) (message : String)
    (data : Option Json) :
    ArgumentRejection (jsonRpcErrorWithData id code message data)
      ↔ code = -32602
        ∧ ∀ d, data = some d → ∃ c, d.get "code" = some (.str c) ∧ c ∈ argumentCodes := by
  simp only [ArgumentRejection, get_error_jsonRpcErrorWithData, Option.some.injEq,
    exists_eq_left', get_code_json, get_data_json, Json.int.injEq]
  cases data <;> simp

/-- An application error rejects an argument when its code says so. -/
theorem argumentRejection_appError (id : Option Json) (err : AppError) :
    ArgumentRejection (appErrorToJsonRpc id err) ↔ err.isRejection = true := by
  cases err <;>
    simp [appErrorToJsonRpc, jsonRpcInternalError, jsonRpcError, argumentRejection_iff,
      AppError.isRejection, errorData, Json.member_cons]

theorem argumentRejection_invalidParams (id : Option Json) :
    ArgumentRejection (jsonRpcInvalidParams id) :=
  (argumentRejection_iff _ _ _ _).mpr ⟨rfl, fun _ h => by cases h⟩

theorem not_argumentRejection_result (id : Option Json) (result : Json) :
    ¬ ArgumentRejection (jsonRpcResult id result) := by
  rintro ⟨error, herror, -⟩
  rw [get_error_jsonRpcResult] at herror
  cases herror

end Envelopes

end SystemdMonitoring
