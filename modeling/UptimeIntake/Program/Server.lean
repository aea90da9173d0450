import Std.Async.Timer
import Std.Http.Server
import UptimeIntake.Http.Service
import UptimeIntake.Program.Disk
import UptimeIntake.Wiring

/-!
# The server

Answers requests over HTTP. The clocks, the attempts and the destinations are those of the
machine; what is answered is decided by the pipeline.
-/

set_option autoImplicit false

namespace UptimeIntake

open Std.Async Std.Http

structure Server where
  pipeline : Pipeline
  whitelist : IO.Ref (Option Whitelist)
  attempts : IO.Ref AttemptTable
  memory : IO.Ref MemoryStore
  temporaries : IO.Ref Nat
  isReady : IO.Ref Bool

namespace Server

def ofPipeline (pipeline : Pipeline) : IO Server := do
  return {
    pipeline
    whitelist := ← IO.mkRef pipeline.whitelist
    attempts := ← IO.mkRef .empty
    memory := ← IO.mkRef .empty
    temporaries := ← IO.mkRef 0
    isReady := ← IO.mkRef false }

def now : IO Instant := do
  let time ← Std.Time.Timestamp.now
  match Instant.ofParts? time.val.second.val time.val.nano.val.toNat with
  | some t => return t
  | none => throw (IO.userError "the time of day is out of range")

/-! ## Submissions -/

def saveTo (s : Server) (objects : ObjectSet) : Backend → IO DestinationReport
  | .files root =>
    let store := (Backend.files root).destination.store
    Disk.save root s.temporaries (.start store objects)
  | .memory =>
    let store := MemoryStore.store Backend.memory.name
    s.memory.modifyGet fun m => (Saving.start store objects).run store m

def process (s : Server) (body : Bytes) (remoteAddr : String) : IO Outcome := do
  let pipeline := { s.pipeline with whitelist := ← s.whitelist.get }
  let call : Call := ⟨body, remoteAddr, ← now, ← IO.monoNanosNow⟩
  match ← s.attempts.modifyGet (pipeline.accept call) with
  | .error cause => return .refused cause
  | .ok submission =>
    let objects := Pipeline.objects submission remoteAddr call.now
    let backends := pipeline.config.storage.backends
    return .accepted ⟨← backends.mapM (s.saveTo objects)⟩

def respond? (s : Server) (r : HttpRequest) : IO (Option HttpResponse) := do
  match Reception.ofRequest s.pipeline.config.limits (← s.isReady.get) r with
  | .answered response => return some response
  | .submitted body remoteAddr => return (← s.process body remoteAddr).response?

/-! ## Requests over HTTP -/

/-- Reads the parts of a body until it ends, is longer than `length`, or `deadline` passes. The
reading `last` of the clock is that behind the part before. -/
partial def readParts (stream : Body.Stream) (length last deadline : Nat) :
    Async (List BodyPart) := do
  let received : Option Chunk ← Async.race stream.recv do
    sleep (.ofNat (deadline - last))
    throw (IO.userError "the body is late")
  match received with
  | none => return []
  | some chunk =>
    let time ← IO.monoMsNow
    let part := BodyPart.chunk (time - last) chunk.data.toList
    if length < chunk.data.size then return [part]
    return part :: (← readParts stream (length - chunk.data.size) time deadline)

def readBody (limits : LimitsConfig) (head : HttpRequest) (stream : Body.Stream) :
    Async (List BodyPart) := do
  match declaredLength limits.maxPayloadSize.toNat head with
  | .error _ => return []
  | .ok length =>
    let time ← IO.monoMsNow
    try readParts stream length time (time + limits.bodyReadTimeout)
    catch _ => return [.broken]

def peerAddress : Std.Net.SocketAddress → SocketAddress
  | .v4 a => ⟨.v4 a.addr.octets[0] a.addr.octets[1] a.addr.octets[2] a.addr.octets[3], a.port, 0⟩
  | .v6 a => ⟨.v6 a.addr.segments, a.port, 0⟩

/-- A request as received, without its body. -/
def headOf {α : Type} (r : Std.Http.Request α) : HttpRequest where
  method := toString r.line.method
  target := toString r.line.uri
  headers := r.line.headers.toArray.toList.map fun (name, value) =>
    (name.value, Text.Utf8.encodeString value.value)
  body := []
  peer := (r.extensions.get Std.Http.Server.RemoteAddr).map fun peer => peerAddress peer.addr

def withHeader (name : String) (value : Option String) (b : Response.Builder) :
    Response.Builder :=
  match Header.Name.ofString? name, value.bind Header.Value.ofString? with
  | some name, some value => b.header name value
  | _, _ => b

def send (r : HttpResponse) : Async (Response Body.Full) := do
  let status := (Status.ofCode none (UInt16.ofNat r.status)).getD .internalServerError
  let builder := withHeader "content-type" r.contentType <|
    withHeader "allow" r.allow (Response.withStatus status)
  return builder.body (← Body.Full.ofByteArray r.body.toUTF8)

def answer (s : Server) (r : Std.Http.Request Body.Stream) : Async (Response Body.Full) := do
  let head := headOf r
  let body ← readBody s.pipeline.config.limits head r.body
  match ← s.respond? { head with body } with
  | some response => send response
  | none => throw (IO.userError "a time is out of range")

instance : Std.Http.Server.Handler Server where
  ResponseBody := Body.Full
  onRequest s r := s.answer r

end Server

end UptimeIntake
