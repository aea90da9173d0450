import UptimeIntake.Config.Load
import UptimeIntake.Telemetry.Config
import UptimeIntake.Telemetry.Filter
import UptimeIntake.Whitelist.Refresher
import UptimeIntake.Whitelist.Source
import UptimeIntake.Wiring

/-!
# Startup

What the program does before it serves: it takes the settings of the logs from the environment,
loads and checks its own settings, loads the whitelist, and binds its address. The first failure
ends it with a message and, for some failures, a cause.
-/

set_option autoImplicit false

namespace UptimeIntake

def version : String := "0.1.0"

/-- What the program finds around it. -/
structure Host where
  environment : Environment
  /-- The bytes of a file that can be read. -/
  contents : String → Option Bytes
  /-- The text at an address that answers. -/
  download : String → Option String
  /-- An address and port can be bound. -/
  canBind : IpAddress → UInt16 → Bool

inductive StartupError where
  | logging (cause : FilterError)
  | settings (cause : LoadError)
  | invalid (cause : ConfigError)
  | noSource
  | whitelist (cause : WhitelistError)
  | bind (address : String)
  deriving DecidableEq, Repr

namespace StartupError

/-- The wording of an error. A log filter that is cut inside a character ends the program without
one. -/
def message : StartupError → String
  | logging .malformed => "Failed to initialize logging"
  | logging .insideCharacter => ""
  | settings cause => cause.message
  | invalid _ => "Invalid configuration"
  | noSource => WhitelistError.notConfigured.message
  | whitelist _ => "Failed to load whitelist"
  | bind address => "Failed to bind " ++ address

/-- The wording of the cause, where it does not hang on the underlying system. -/
def cause? : StartupError → Option String
  | invalid cause => some cause.message
  | whitelist (.parse detail) => some (WhitelistError.parse detail).message
  | _ => none

def exitCode : StartupError → UInt32
  | logging .insideCharacter => 101
  | _ => 1

end StartupError

structure Started where
  telemetry : TelemetryConfig
  source : Option WhitelistSource
  pipeline : Pipeline

namespace Host

/-- The settings of the logs, with a filter that is well formed. -/
def startLogging (host : Host) : Except StartupError TelemetryConfig :=
  let telemetry := TelemetryConfig.ofEnvironment host.environment
  (LogFilter.check telemetry.logFilter).mapError .logging |>.map fun _ => telemetry

def loadConfig (host : Host) : Except StartupError IngestConfig := do
  let c ← (IngestConfig.load host.environment host.contents).mapError .settings
  c.validate.mapError .invalid
  return c

/-- The source of the whitelist and the whitelist in it; there is no source if the whitelist is
disabled. -/
def loadWhitelist (host : Host) (c : WhitelistConfig) :
    Except StartupError (Option WhitelistSource × Whitelist) :=
  if c.disabled then .ok (none, .empty)
  else
    match WhitelistSource.ofConfig c with
    | .error _ => .error .noSource
    | .ok source =>
      let fetched := source.fetch host.contents host.download
      match (initialLoad (fun _ => fetched) c.initialAttempts).result with
      | .error e => .error (.whitelist e)
      | .ok whitelist => .ok (some source, whitelist)

def start (host : Host) : Except StartupError Started := do
  let telemetry ← host.startLogging
  let c ← host.loadConfig
  let (source, whitelist) ← host.loadWhitelist c.whitelist
  if host.canBind c.http.host c.http.port then
    return { telemetry, source, pipeline := c.pipeline whitelist }
  else throw (.bind c.httpAddress)

end Host

end UptimeIntake
