import Std.Async.Signal
import UptimeIntake.Program.Download
import UptimeIntake.Program.Server
import UptimeIntake.Startup

/-!
# The program

Starts, serves until it is interrupted, and stops: the background tasks end, and requests in
flight are completed.
-/

set_option autoImplicit false

namespace UptimeIntake.Program

open Std.Async

/-! ## Startup -/

def variableNames : List String :=
  ["DOCKER_CONTAINER", "KUBERNETES_SERVICE_HOST", "OTEL_SERVICE_NAME", "RUST_LOG",
   "UPTIME_CONFIG_FILE", "UPTIME_JSON_LOGS", "UPTIME_LISTEN_PORT", "UPTIME_LOG_LEVEL",
   "UPTIME_NETWORK", "UPTIME_REQUESTS_PER_PK_HOURLY", "UPTIME_STORAGE_PATH",
   "UPTIME_VERIFY_SIGNATURE_DISABLED", "UPTIME_WHITELIST_DISABLED", "UPTIME_WHITELIST_FILE",
   "UPTIME_WHITELIST_REFRESH_SECS", "UPTIME_WHITELIST_URL"]

def environment : IO Environment := do
  let values ← variableNames.mapM fun name => do return (name, ← IO.getEnv name)
  return fun name => (values.lookup name).join

/-- A download takes at most this many milliseconds. -/
def downloadTimeout : Nat := 30000

structure Found where
  files : List (String × Option Bytes) := []
  downloads : List (String × Option String) := []

/-- A host on which no more was found than this. -/
def host (env : Environment) (found : Found) : Host where
  environment := env
  contents path := (found.files.lookup path).join
  download address := (found.downloads.lookup address).join
  canBind _ _ := true

def lookUp (source : WhitelistSource) : IO Found := do
  match source with
  | .file path => return { files := [(path, ← Disk.contents path)] }
  | .url address => return { downloads := [(address, ← Download.run downloadTimeout address)] }

def fetch (source : WhitelistSource) : IO FetchResult := do
  let here := host (fun _ => none) (← lookUp source)
  return source.fetch here.contents here.download

/-- Looks up the whitelist until it can be read or the attempts are used up. -/
def lookUpWithRetries (source : WhitelistSource) (backoff : Nat) : Nat → IO Found
  | 0 => lookUp source
  | further + 1 => do
    let found ← lookUp source
    let here := host (fun _ => none) found
    match source.fetch here.contents here.download with
    | .ok _ => return found
    | .error _ =>
      IO.sleep (UInt32.ofNat backoff)
      lookUpWithRetries source backoff further

/-- The host as far as the program looks at it. -/
def findHost (env : Environment) : IO Host := do
  let files ← (env "UPTIME_CONFIG_FILE").toList.mapM fun path => do
    return (path, ← Disk.contents path)
  let here := host env { files }
  match here.startLogging, here.loadConfig with
  | .ok _, .ok c =>
    match c.whitelist.disabled, WhitelistSource.ofConfig c.whitelist with
    | false, .ok source =>
      let found ← lookUpWithRetries source c.whitelist.retryBackoffMs.toNat
        (c.whitelist.initialAttempts.toNat - 1)
      return host env { found with files := files ++ found.files }
    | _, _ => return here
  | _, _ => return here

/-! ## Tasks -/

/-- Drops idle submitters from the attempt table, again and again. -/
partial def cleanUp (s : Server) (stop : IO.Ref Bool) : Async Unit := do
  if ← stop.get then return
  s.attempts.modify (·.cleanup s.pipeline.quota.window (← IO.monoNanosNow))
  sleep (.ofNat (s.pipeline.config.rateLimit.cleanupInterval.toNat * 1000))
  cleanUp s stop

/-- Carries the refresher on: waits for what it waits for and lets it react. -/
partial def refresh (s : Server) (source : WhitelistSource) (stop : IO.Ref Bool)
    (r : Refresher) : Async Unit := do
  let c := s.pipeline.config.whitelist
  let limit := max c.refreshAttempts 1
  let event : RefreshEvent ← match r.phase with
    | .idle => do
      sleep (.ofNat (c.refreshIntervalSecs.toNat * 1000))
      pure .tick
    | .fetching _ => do pure (.fetchEnds (← fetch source))
    | .pausing _ => do
      sleep (.ofNat c.retryBackoffMs.toNat)
      pure .pauseEnds
    | .stopped => return
  let r := (r.react limit event).react limit (.signal (← stop.get))
  let r := r.react limit .wake
  s.whitelist.set (some r.whitelist)
  refresh s source stop r

/-! ## Serving -/

def socketAddress (c : HttpConfig) : Std.Net.SocketAddress :=
  match c.host with
  | .v4 w x y z => .v4 ⟨⟨#v[w, x, y, z]⟩, c.port⟩
  | .v6 groups => .v6 ⟨⟨groups⟩, c.port⟩

def serve (started : Started) : Async (Except StartupError Unit) := do
  let c := started.pipeline.config
  let s ← Server.ofPipeline started.pipeline
  let stop ← IO.mkRef false
  let bound ← try pure (some (← Std.Http.Server.serve (socketAddress c.http) s)) catch _ => pure none
  match bound with
  | none => return .error (.bind c.httpAddress)
  | some listener =>
    background (cleanUp s stop)
    match started.source, started.pipeline.whitelist with
    | some source, some whitelist => background (refresh s source stop (.start whitelist 1 .clear))
    | _, _ => pure ()
    s.isReady.set true
    let interrupt ← Signal.Waiter.mk .sigint false
    discard <| await (← interrupt.wait)
    s.isReady.set false
    stop.set true
    listener.shutdownAndWait
    return .ok ()

/-- Tells why the program ends: its exit code. -/
def report (e : StartupError) : IO UInt32 := do
  if e.message ≠ "" then IO.eprintln ("Error: " ++ e.message)
  match e.cause? with
  | some cause => IO.eprintln ("\nCaused by:\n    " ++ cause)
  | none => pure ()
  return e.exitCode

def run : IO UInt32 := do
  match (← findHost (← environment)).start with
  | .error e => report e
  | .ok started =>
    match ← (serve started).block with
    | .error e => report e
    | .ok () => return 0

end UptimeIntake.Program

def main : IO UInt32 :=
  UptimeIntake.Program.run
