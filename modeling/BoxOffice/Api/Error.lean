import BoxOffice.Json.Value
import BoxOffice.StorageError

set_option autoImplicit false

/-!
# What a client is told about a failure

A client sees the wording of its own mistakes and of conflicts. Failures of the server have one
text per status, whatever their cause, so nothing about the storage leaks.
-/

namespace BoxOffice

inductive ApiError where
  | badRequest (message : String)
  | unauthorized (message : String)
  | booking (cause : BookingError)
  | database (cause : StorageError)
  | internal (reason : String)
deriving DecidableEq

namespace ApiError

def message : ApiError → String
  | badRequest message => message
  | unauthorized message => message
  | booking cause => cause.message
  | database cause => cause.message
  | internal reason => reason

def status : ApiError → Nat
  | badRequest _ => 400
  | unauthorized _ => 401
  | booking cause =>
    match cause.kind with
    | .notFound => 404
    | .conflict => 409
    | .transient => 503
    | .inconsistent | .internal => 500
  | database _ | internal _ => 500

def shown (e : ApiError) : String :=
  if e.status = 503 then "Service temporarily unavailable, please retry"
  else if 500 ≤ e.status then "Internal server error"
  else e.message

/-- The body of the response; its members stand in the order of their names. -/
def body (e : ApiError) : Json :=
  .object [("message", .text e.shown), ("statusCode", .int e.status), ("success", .bool false)]

def brokenOff (detail : Option String) : ApiError :=
  .internal ("handler panicked: " ++ detail.getD "non-string panic payload")

end ApiError

end BoxOffice
