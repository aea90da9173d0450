import UptimeIntake.Json.Text
import UptimeIntake.Submission.Error

/-!
# HTTP responses

What the service answers. Rejections carry their message for the caller as a JSON document.
-/

set_option autoImplicit false

namespace UptimeIntake

structure HttpResponse where
  status : Nat
  contentType : Option String := none
  allow : Option String := none
  body : String := ""
  deriving DecidableEq, Repr

namespace HttpResponse

def plainText : String := "text/plain; charset=utf-8"

def jsonType : String := "application/json"

/-- A JSON object with one string member. -/
def memberText (name value : String) : String :=
  String.ofList
    (('\x7b' :: Json.Text.quoteString name ++ ':' :: Json.Text.quoteString value) ++ ['\x7d'])

/-- A JSON object with one string member. -/
def member (status : Nat) (name value : String) : HttpResponse where
  status
  contentType := some jsonType
  body := memberText name value

def statusDocument (status : Nat) (value : String) : HttpResponse :=
  member status "status" value

def accepted : HttpResponse :=
  statusDocument 200 "ok"

def ofError (e : SubmitError) : HttpResponse :=
  member e.status "error" e.publicMessage

def notFound : HttpResponse where
  status := 404

def methodNotAllowed (allow : String) : HttpResponse where
  status := 405
  allow := some allow

def withoutBody (r : HttpResponse) : HttpResponse :=
  { r with body := "" }

end HttpResponse

end UptimeIntake
