import UptimeIntake.Config.Document
import UptimeIntake.Environment

/-!
# Settings from file and environment

The settings start from a document named in the environment, or from the defaults, and single
variables override single fields: texts always, numbers where they can be read, flags always.
-/

set_option autoImplicit false

namespace UptimeIntake

open Text

inductive LoadError where
  /-- The file cannot be read as text. -/
  | unreadable (path : String)
  /-- The file is no configuration document. -/
  | malformed (path : String)
  deriving DecidableEq, Repr

def LoadError.message : LoadError → String
  | unreadable path => "Failed to read config file " ++ path
  | malformed path => "Failed to parse config file " ++ path

namespace IngestConfig

def override (env : Environment) (c : IngestConfig) : IngestConfig :=
  { http :=
      { c.http with
        port := ((env.natural? (UInt16.size - 1) "UPTIME_LISTEN_PORT").map UInt16.ofNat).getD
          c.http.port }
    limits := c.limits
    rateLimit :=
      { c.rateLimit with
        maxAttempts :=
          ((env.natural? (UInt64.size - 1) "UPTIME_REQUESTS_PER_PK_HOURLY").map UInt64.ofNat).getD
            c.rateLimit.maxAttempts }
    whitelist :=
      { c.whitelist with
        disabled := (env.flag? "UPTIME_WHITELIST_DISABLED").getD c.whitelist.disabled
        file := (env "UPTIME_WHITELIST_FILE").or c.whitelist.file
        url := (env "UPTIME_WHITELIST_URL").or c.whitelist.url
        refreshIntervalSecs :=
          ((env.natural? (UInt64.size - 1) "UPTIME_WHITELIST_REFRESH_SECS").map UInt64.ofNat).getD
            c.whitelist.refreshIntervalSecs }
    storage :=
      { c.storage with localPath := (env "UPTIME_STORAGE_PATH").or c.storage.localPath }
    networkName := (env "UPTIME_NETWORK").getD c.networkName
    verifySignatureDisabled :=
      (env.flag? "UPTIME_VERIFY_SIGNATURE_DISABLED").getD c.verifySignatureDisabled }

def ofFile (path : String) (contents : Option Bytes) : Except LoadError IngestConfig :=
  match contents.bind Utf8.decode with
  | none => .error (.unreadable path)
  | some text =>
    match decode? (Utf8.encode text) with
    | none => .error (.malformed path)
    | some c => .ok c

/-- Loads the settings: the file named by `UPTIME_CONFIG_FILE`, or the defaults, with the
overrides of the environment. -/
def load (env : Environment) (contents : String → Option Bytes) : Except LoadError IngestConfig :=
  match env "UPTIME_CONFIG_FILE" with
  | none => .ok (override env {})
  | some path => (ofFile path (contents path)).map (override env)

end IngestConfig

end UptimeIntake
