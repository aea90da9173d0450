import UptimeIntake.Net.SocketAddress

/-!
# Configuration

The settings of the service with their defaults, what is derived from them, and when they are
valid. Numbers are words of fixed size, as they are in the documents that set them.
-/

set_option autoImplicit false

namespace UptimeIntake

structure HttpConfig where
  host : IpAddress := .v4 0 0 0 0
  port : UInt16 := 8080
  deriving DecidableEq

structure LimitsConfig where
  /-- Bytes of the largest body. -/
  maxPayloadSize : UInt64 := 50000000
  /-- Seconds until a body must be read. -/
  bodyReadTimeoutSecs : UInt64 := 30
  /-- Seconds by which a creation time may lie ahead. -/
  timeDiffDeltaSecs : UInt64 := 300
  deriving DecidableEq

structure RateLimitConfig where
  maxAttempts : UInt64 := 120
  /-- Seconds of the window. -/
  windowSecs : UInt64 := 3600
  cleanupIntervalSecs : UInt64 := 600
  deriving DecidableEq

/-- The whitelist, its source and its refreshes. -/
structure WhitelistConfig where
  /-- Every submitter is let in. -/
  disabled : Bool := false
  file : Option String := none
  url : Option String := none
  refreshIntervalSecs : UInt64 := 600
  initialAttempts : UInt32 := 1
  refreshAttempts : UInt32 := 10
  retryBackoffMs : UInt64 := 1000
  deriving DecidableEq

structure StorageConfig where
  localPath : Option String := none
  memory : Bool := false
  deriving DecidableEq

structure IngestConfig where
  http : HttpConfig := {}
  limits : LimitsConfig := {}
  rateLimit : RateLimitConfig := {}
  whitelist : WhitelistConfig := {}
  storage : StorageConfig := {}
  /-- The network that submissions are signed for. -/
  networkName : String := ""
  /-- Signatures are not checked. -/
  verifySignatureDisabled : Bool := false
  deriving DecidableEq

/-! ## Derived settings -/

/-- The most seconds that a span of time may have, to either side. -/
def maxSpanSecs : Nat := 9223372036854775

/-- The tolerated skew in seconds, if it is a span of time. It is read as a signed word, so that
the upper half of the settings counts as negative. -/
def LimitsConfig.timeDiffDelta? (c : LimitsConfig) : Option Int :=
  let secs := c.timeDiffDeltaSecs.toInt64.toInt
  if secs.natAbs ≤ maxSpanSecs then some secs else none

/-- Seconds between cleanups, at least one. -/
def RateLimitConfig.cleanupInterval (c : RateLimitConfig) : UInt64 :=
  max c.cleanupIntervalSecs 1

def StorageConfig.anyEnabled (c : StorageConfig) : Bool :=
  c.localPath.isSome || c.memory

namespace IngestConfig

/-- The network whose submissions are signed with the discriminator 1. -/
def mainnet : String := "mainnet"

def networkId (c : IngestConfig) : UInt8 :=
  if c.networkName = mainnet then 1 else 0

def httpAddress (c : IngestConfig) : String :=
  String.ofList (SocketAddress.write ⟨c.http.host, c.http.port, 0⟩)

end IngestConfig

/-! ## Validity -/

inductive ConfigError where
  | invalidLimit (detail : String)
  | invalidRateLimit (detail : String)
  | invalidWhitelist (detail : String)
  | missingWhitelistSource
  | noStorageBackend
  deriving DecidableEq, Repr

def ConfigError.message : ConfigError → String
  | invalidLimit detail => "invalid limit: " ++ detail
  | invalidRateLimit detail => "invalid rate limit: " ++ detail
  | invalidWhitelist detail => "invalid whitelist configuration: " ++ detail
  | missingWhitelistSource => "whitelist enabled but neither a file nor a url is configured"
  | noStorageBackend => "no storage backend configured"

/-- Checks the settings; the first fault counts. -/
def IngestConfig.validate (c : IngestConfig) : Except ConfigError Unit :=
  if c.limits.maxPayloadSize = 0 then .error (.invalidLimit "max_payload_size cannot be 0")
  else if c.rateLimit.maxAttempts = 0 then .error (.invalidRateLimit "max_attempts cannot be 0")
  else if c.rateLimit.windowSecs = 0 then .error (.invalidRateLimit "window_secs cannot be 0")
  else if !c.whitelist.disabled && c.whitelist.file.isNone && c.whitelist.url.isNone then
    .error .missingWhitelistSource
  else if !c.whitelist.disabled && c.whitelist.refreshIntervalSecs = 0 then
    .error (.invalidWhitelist "refresh_interval_secs cannot be 0")
  else if !c.storage.anyEnabled then .error .noStorageBackend
  else .ok ()

end UptimeIntake
