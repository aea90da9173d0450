import UptimeIntake.Octets

/-!
# Rejections

Why a submission is not accepted. Each cause has one HTTP status and one message for the caller;
the detail of an internal failure is for the log only.
-/

set_option autoImplicit false

namespace UptimeIntake

inductive SubmitError where
  | lengthRequired
  | invalidContentLength
  | payloadTooLarge (size max : Nat)
  /-- The body breaks off, takes too long, or has another length than declared. -/
  | bodyRead
  | decode
  /-- A required field is unset or empty. -/
  | missingFields
  | notRegistered (key : SubmitterKey)
  | futureTimestamp
  | invalidSignature
  | rateLimited
  | internal (detail : String)
  deriving DecidableEq

namespace SubmitError

/-- What the caller is told about failures that are not its own. -/
def unexpectedServerError : String := "Unexpected server error"

def message : SubmitError → String
  | lengthRequired => "Content-Length required"
  | invalidContentLength => "Invalid Content-Length"
  | payloadTooLarge size max =>
    "Payload too large: " ++ toString size ++ " bytes (max: " ++ toString max ++ ")"
  | bodyRead => "Error reading the body"
  | decode => "Error decoding payload"
  | missingFields => "One of required fields wasn't provided"
  | notRegistered key => "Submitter is not registered: " ++ key.toHexString
  | futureTimestamp => "Field created_at is a timestamp in future"
  | invalidSignature => "Invalid signature"
  | rateLimited => "Too many requests per hour"
  | internal detail => "internal error: " ++ detail

def publicMessage : SubmitError → String
  | internal _ => unexpectedServerError
  | e => e.message

def status : SubmitError → Nat
  | lengthRequired => 411
  | payloadTooLarge _ _ => 413
  | invalidContentLength | bodyRead | decode | missingFields | futureTimestamp => 400
  | notRegistered _ | invalidSignature => 401
  | rateLimited => 429
  | internal _ => 500

end SubmitError

end UptimeIntake
