/-
# `SystemdMonitoring.Domain.Responses` — building tool and resource responses

The success envelopes that tools and resources share, pages of rows, and counts
by name.
-/
import SystemdMonitoring.Host
import SystemdMonitoring.Mcp.Rpc

namespace SystemdMonitoring

open Lib

/-! ## Rows -/

structure Pagination (α : Type) where
  rows : List α
  total : Nat
  returned : Nat
  truncated : Bool

/-- `paginate_rows`: the first rows up to a limit. -/
def paginateRows {α : Type} (rows : List α) (limit : Nat) : Pagination α where
  rows := rows.take limit
  total := rows.length
  returned := (rows.take limit).length
  truncated := decide ((rows.take limit).length < rows.length)

/-! ## Counts -/

/-- One more of that name, in a map that is kept in the order of names. -/
def bump (name : String) : List (String × Nat) → List (String × Nat)
  | [] => [(name, 1)]
  | (other, count) :: rest =>
      if name = other then (other, count + 1) :: rest
      else if name < other then (name, 1) :: (other, count) :: rest
      else (other, count) :: bump name rest

def tally (names : List String) : List (String × Nat) :=
  names.foldl (fun counts name => bump name counts) []

def countsJson (counts : List (String × Nat)) : Json :=
  .obj (counts.map (fun entry => (entry.1, .int entry.2)))

/-! ## Responses -/

/-- The canonical RFC 3339 UTC timestamp of tool metadata. -/
def generatedAtUtcString [Chrono] : App String := do
  let now ← utcNow
  return Chrono.toRfc3339Millis now

/-- A successful `tools/call`: a text for people, a structure for programs. -/
def toolSuccessResponse [McpSdk] (id : Option Json) (message : String)
    (structuredContent : Members) : Json :=
  jsonRpcResult id (McpSdk.toValue (.callTool message structuredContent))

/-- A successful `resources/read`: JSON as text. -/
def jsonTextResourceResponse [McpSdk] [SerdeJson] (id : Option Json) (uri : String)
    (structuredContent : Json) : Json :=
  jsonRpcResult id
    (McpSdk.toValue (.readResource "application/json" (SerdeJson.toString structuredContent) uri))

/-! ## Asking a provider -/

/-- Ask, and respond to the answer; a provider's error is a response of its own. -/
def respond [McpSdk] (id : Option Json) (o : ProviderOp) (onRow : o.Row → App Json) : App Json := do
  match ← provider o with
  | .ok row => onRow row
  | .error err => return appErrorToJsonRpc id err

/-- Why arguments are not accepted: they do not decode, or a value is wrong. -/
inductive NormalizeError where
  | invalidParams
  | domain (err : AppError)
  deriving DecidableEq, Repr

def NormalizeError.response [McpSdk] (id : Option Json) : NormalizeError → Json
  | .invalidParams => jsonRpcInvalidParams id
  | .domain err => appErrorToJsonRpc id err

/-- Decoded arguments, or the plain rejection. -/
def decoded {α : Type} (value : Option α) : Except NormalizeError α :=
  match value with
  | some value => .ok value
  | none => .error .invalidParams

/-! ## What handlers return -/

/-- A response that carries a result. -/
def IsResult [McpSdk] (id : Option Json) (response : Json) : Prop :=
  ∃ result, response = jsonRpcResult id result

theorem generatedAtUtcString_returns [Chrono] :
    generatedAtUtcString.Returns (fun _ => True) := fun _ => ⟨_, rfl, trivial⟩

theorem respond_returns [McpSdk] {P : Json → Prop} {id : Option Json} {o : ProviderOp}
    {onRow : o.Row → App Json} (hrow : ∀ row, (onRow row).Returns P)
    (herr : ∀ err, P (appErrorToJsonRpc id err)) : (respond id o onRow).Returns P := by
  intro answer
  cases answer with
  | ok row => exact hrow row
  | error err => exact Prog.Returns.value (herr err)

/-- What a handler asks for: its rows, and whatever it asks for with them. -/
theorem mem_trace_respond_iff [McpSdk] {σ : Type} {h : Host AppSig σ} {s : σ} {id : Option Json}
    {o : ProviderOp} {onRow : o.Row → App Json} {asked : AppSig.Op} :
    asked ∈ ((respond id o onRow).run h s).trace
      ↔ asked = .inl o ∨ ∃ row, (h.answer (.inl o) s).1 = .ok row
        ∧ asked ∈ ((onRow row).run h (h.answer (.inl o) s).2).trace := by
  have hstep : respond id o onRow = Prog.op (S := AppSig) (.inl o) fun answer =>
      match answer with
      | .ok row => onRow row
      | .error err => return appErrorToJsonRpc id err := rfl
  rw [hstep, Prog.run_op, List.mem_cons]
  refine or_congr_right ?_
  cases (h.answer (.inl o) s).1 with
  | ok row =>
      constructor
      · intro hmem
        exact ⟨row, rfl, hmem⟩
      · rintro ⟨_, heq, hmem⟩
        cases heq
        exact hmem
  | error err =>
      refine iff_of_false (fun hmem => by cases hmem) ?_
      rintro ⟨_, heq, -⟩
      cases heq

section Answers

variable [McpSdk] [LawfulMcpSdk]

theorem envelope_isResult {id : Option Json} (hid : UsableId id) {response : Json}
    (h : IsResult id response) : Envelope (echoedId id) response := by
  obtain ⟨result, rfl⟩ := h
  exact envelope_result hid result

theorem envelope_normalizeError (id : Option Json) (err : NormalizeError) :
    Envelope (echoedId id) (err.response id) := by
  cases err with
  | invalidParams => exact envelope_error _ _ _ _
  | domain err => exact envelope_appError id err

/-- A provider's rows become results, so every response to a usable id is an envelope. -/
theorem respond_answers {id : Option Json} (hid : UsableId id) {o : ProviderOp}
    {onRow : o.Row → App Json} (hrow : ∀ row, (onRow row).Returns (IsResult id)) :
    (respond id o onRow).Returns (Envelope (echoedId id)) :=
  respond_returns (fun row => (hrow row).mono fun _ => envelope_isResult hid) (envelope_appError id)

end Answers

end SystemdMonitoring
