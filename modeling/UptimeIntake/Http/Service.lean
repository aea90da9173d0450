import UptimeIntake.Http.Body
import UptimeIntake.Http.Response
import UptimeIntake.Pipeline

/-!
# The HTTP service

Three paths: an identification, the state of the service, and the submissions. Paths are compared
exactly. The first two can be fetched with or without the body; submissions are posted.
-/

set_option autoImplicit false

namespace UptimeIntake

inductive Route where
  | identification
  | health
  | submission
  deriving DecidableEq, Repr

namespace Route

def path : Route → String
  | identification => "/"
  | health => "/health"
  | submission => "/v1/submit"

def ofPath? (path : List Char) : Option Route :=
  [identification, health, submission].find? fun route => route.path.toList = path

def methods : Route → List String
  | identification | health => ["GET", "HEAD"]
  | submission => ["POST"]

/-- The methods that a route allows, as a header value. -/
def allow (route : Route) : String :=
  String.intercalate "," route.methods

end Route

def identification : String := "uptime submission backend"

def healthResponse (isReady : Bool) : HttpResponse :=
  if isReady then .statusDocument 200 "ok" else .statusDocument 503 "starting"

/-- What a request comes to before the pipeline. -/
inductive Reception where
  | answered (response : HttpResponse)
  /-- Its body goes through the pipeline. -/
  | submitted (body : Bytes) (remoteAddr : String)
  deriving DecidableEq

namespace Reception

/-- Receives a request on a route that allows its method. -/
def onRoute (limits : LimitsConfig) (isReady : Bool) (r : HttpRequest) : Route → Reception
  | .identification => .answered ⟨200, some HttpResponse.plainText, none, identification⟩
  | .health => .answered (healthResponse isReady)
  | .submission =>
    match bodyOf limits r with
    | .error e => .answered (.ofError e)
    | .ok body => .submitted body r.remoteAddr

/-- What is sent of an answer to this method. -/
def forMethod (method : String) : Reception → Reception
  | answered response => .answered (if method = "HEAD" then response.withoutBody else response)
  | submitted body remoteAddr => .submitted body remoteAddr

def ofRequest (limits : LimitsConfig) (isReady : Bool) (r : HttpRequest) : Reception :=
  match Route.ofPath? r.path with
  | none => .answered .notFound
  | some route =>
    if route.methods.contains r.method then (onRoute limits isReady r route).forMethod r.method
    else .answered (.methodNotAllowed route.allow)

end Reception

/-- The response to a refusal. There is none if a time is out of range. -/
def Refusal.response? : Refusal → Option HttpResponse
  | rejected e => some (.ofError e)
  | outOfRange => none

def Outcome.response? : Outcome → Option HttpResponse
  | accepted _ => some .accepted
  | refused cause => cause.response?

/-- Answers a request that arrives at the time of day `now` and the reading `moment` of the
monotonic clock. -/
def Pipeline.handle {σ : Type} (p : Pipeline) (isReady : Bool) (now : Instant) (moment : Moment)
    (r : HttpRequest) (state : PipelineState σ) : Option HttpResponse × PipelineState σ :=
  match Reception.ofRequest p.config.limits isReady r with
  | .answered response => (some response, state)
  | .submitted body remoteAddr =>
    let (outcome, state) := p.process ⟨body, remoteAddr, now, moment⟩ state
    (outcome.response?, state)

end UptimeIntake
