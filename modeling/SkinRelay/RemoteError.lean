import SkinRelay.Json.Schema
import SkinRelay.Json.Format

/-!
Failures of the account service and the session server, as far as their callers tell them apart.
-/

namespace SkinRelay

inductive RemoteError where
  /-- The request was refused, with the reason the service gave. -/
  | badRequest (error message : String)
  | forbidden
  | tooManyRequests
  | serverError (status : Nat)
  | unexpectedStatus (status : Nat)
  /-- No complete reply was received. -/
  | transport
  /-- The reply was complete but not what it should be. -/
  | unreadable (fault : Json.Fault)
  deriving DecidableEq, Repr

namespace RemoteError

/-- The reason inside a refusal. Every part of it may be missing. -/
structure Refusal where
  error : String := ""
  errorMessage : String := ""
  deriving DecidableEq, Repr

def Refusal.format : Json.Format Refusal where
  schema := .record <|
    .cons "error" .defaulted .text <|
    .cons "errorMessage" .defaulted .text .nil
  ofCarrier := fun (error, errorMessage, ()) => { error, errorMessage }
  toCarrier := fun r => (r.error, r.errorMessage, ())
  ofCarrier_toCarrier _ := rfl

/-- The failure that a reply with this status stands for. Its body matters only for a refusal,
whose reason is empty when the body cannot be read. -/
def ofStatus (status : Nat) (body : Bytes) : RemoteError :=
  if status = 400 then
    let refusal := match Refusal.format.read body with
      | .ok refusal => refusal
      | .error _ => {}
    .badRequest refusal.error refusal.errorMessage
  else if status = 403 then .forbidden
  else if status = 429 then .tooManyRequests
  else if 500 ≤ status then .serverError status
  else .unexpectedStatus status

def isRateLimit : RemoteError → Bool
  | .tooManyRequests => true
  | _ => false

def message : RemoteError → String
  | .badRequest error message => s!"400 {error}: {message}"
  | .forbidden => "403: Forbidden"
  | .tooManyRequests => "429: Too Many Requests"
  | .serverError status => s!"{status}: Server error"
  | .unexpectedStatus status => s!"unexpected response status code: {status}"
  | .transport => "Mojang HTTP error"
  | .unreadable _ => "Mojang JSON parse error"

/-- Whether the failure was caused by one of another library. -/
def hasCause : RemoteError → Bool
  | .transport | .unreadable _ => true
  | _ => false

end RemoteError

end SkinRelay
