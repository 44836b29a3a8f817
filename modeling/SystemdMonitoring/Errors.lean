/-
# `SystemdMonitoring.Errors` — the application's error values

One variant per kind of failure, each with the code and message a client sees.
Internal failures carry an operator diagnostic instead, which no response
repeats.
-/
import SystemdMonitoring.Lib.Json

namespace SystemdMonitoring

open Lib

/-- `AppError`. -/
inductive AppError where
  | badRequest (code message : String)
  | badRequestWithDetails (code message : String) (details : Json)
  | unauthorized (code message : String)
  | forbidden (code message : String)
  | internal (code message : String)
  | notImplemented (code message : String)
  | tooManyRequests (retryAfterSeconds : Nat)
  deriving DecidableEq, Repr

namespace AppError

/-- `AppError::internal`: the code is fixed, the message stays on the server. -/
def internalError (message : String) : AppError := .internal "internal_error" message

/-- `AppError::too_many_requests`: the delay is at least one second. -/
def rateLimited (retryAfterSeconds : Nat) : AppError := .tooManyRequests (max retryAfterSeconds 1)

/-- Whether the error is one of the opaque internal failures. -/
def isInternal : AppError → Bool
  | .internal _ _ => true
  | _ => false

end AppError

/-- The codes that tell a client which of its arguments is wrong. -/
def argumentCodes : List String :=
  ["invalid_params", "invalid_limit", "invalid_order", "invalid_sort", "invalid_state",
    "invalid_scope", "invalid_unit", "invalid_priority", "invalid_fields", "invalid_group_by",
    "invalid_utc_time", "invalid_grep", "invalid_transition_limit", "invalid_container",
    "invalid_pod"]

namespace AppError

/-- Whether the error rejects an argument. -/
def isRejection : AppError → Bool
  | .badRequest code _ => decide (code ∈ argumentCodes)
  | .badRequestWithDetails code _ _ => decide (code ∈ argumentCodes)
  | _ => false

theorem isRejection_of_isInternal {e : AppError} (h : e.isInternal = true) :
    e.isRejection = false := by
  cases e <;> first | rfl | cases h

end AppError
end SystemdMonitoring
