import UptimeIntake.Config.Basic
import UptimeIntake.Http.Request
import UptimeIntake.Submission.Error

/-!
# The body of a submission

Which bodies reach the pipeline. The declared length is checked before anything is read; then
exactly as many bytes must arrive, unbroken and in time.
-/

set_option autoImplicit false

namespace UptimeIntake

open Text

/-- The largest length that can be declared. -/
def maxLength : Nat := UInt64.size - 1

/-- The declared length, if it is at most `max`. -/
def declaredLength (max : Nat) (r : HttpRequest) : Except SubmitError Nat :=
  match r.header? "content-length" with
  | none => .error .lengthRequired
  | some value =>
    match (HttpRequest.visible? value).bind fun cs => Decimal.unsigned? maxLength (trim cs) with
    | none => .error .invalidContentLength
    | some size => if max < size then .error (.payloadTooLarge size max) else .ok size

/-- Reads the parts of a body behind the bytes `seen` and `passed` milliseconds. It fails as soon
as there are too many bytes, the time is up or the body breaks off. -/
def readParts (length timeout passed : Nat) (seen : Bytes) : List BodyPart → Option Bytes
  | [] => if seen.length = length then some seen else none
  | .broken :: _ => none
  | .chunk delay bytes :: rest =>
    if timeout < passed + delay then none
    else if length < seen.length + bytes.length then none
    else readParts length timeout (passed + delay) (seen ++ bytes) rest

/-- Reads a body of the given length within `timeout` milliseconds. -/
def readBody? (length timeout : Nat) (parts : List BodyPart) : Option Bytes :=
  readParts length timeout 0 [] parts

/-- The milliseconds in which a body must be read. -/
def LimitsConfig.bodyReadTimeout (c : LimitsConfig) : Nat :=
  c.bodyReadTimeoutSecs.toNat * 1000

/-- The body that a request brings before the pipeline. -/
def bodyOf (limits : LimitsConfig) (r : HttpRequest) : Except SubmitError Bytes :=
  match declaredLength limits.maxPayloadSize.toNat r with
  | .error e => .error e
  | .ok length =>
    match readBody? length limits.bodyReadTimeout r.body with
    | none => .error .bodyRead
    | some body => .ok body

end UptimeIntake
