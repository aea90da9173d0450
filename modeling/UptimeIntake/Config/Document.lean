import UptimeIntake.Config.Basic
import UptimeIntake.Json.Record

/-!
# Configuration documents

Settings read from JSON. Every field and every section may be absent and then has its default;
null is allowed only for the fields that may be unset.
-/

set_option autoImplicit false

namespace UptimeIntake

open Json

namespace HttpConfig

def fieldNames : List String := ["host", "port"]

def readHost? (v : Value) : Option IpAddress :=
  v.text?.bind fun s => IpAddress.parse? s.toList

def read? (v : Value) : Option HttpConfig := do
  let default : HttpConfig := {}
  let field ← v.fields? fieldNames
  let host ← Value.withDefault default.host readHost? (field "host")
  let port ← Value.withDefault default.port Value.uint16? (field "port")
  return { host, port }

end HttpConfig

namespace LimitsConfig

def fieldNames : List String :=
  ["max_payload_size", "body_read_timeout_secs", "time_diff_delta_secs"]

def read? (v : Value) : Option LimitsConfig := do
  let default : LimitsConfig := {}
  let field ← v.fields? fieldNames
  let maxPayloadSize ←
    Value.withDefault default.maxPayloadSize Value.uint64? (field "max_payload_size")
  let bodyReadTimeoutSecs ←
    Value.withDefault default.bodyReadTimeoutSecs Value.uint64? (field "body_read_timeout_secs")
  let timeDiffDeltaSecs ←
    Value.withDefault default.timeDiffDeltaSecs Value.uint64? (field "time_diff_delta_secs")
  return { maxPayloadSize, bodyReadTimeoutSecs, timeDiffDeltaSecs }

end LimitsConfig

namespace RateLimitConfig

def fieldNames : List String :=
  ["max_attempts", "window_secs", "cleanup_interval_secs"]

def read? (v : Value) : Option RateLimitConfig := do
  let default : RateLimitConfig := {}
  let field ← v.fields? fieldNames
  let maxAttempts ← Value.withDefault default.maxAttempts Value.uint64? (field "max_attempts")
  let windowSecs ← Value.withDefault default.windowSecs Value.uint64? (field "window_secs")
  let cleanupIntervalSecs ←
    Value.withDefault default.cleanupIntervalSecs Value.uint64? (field "cleanup_interval_secs")
  return { maxAttempts, windowSecs, cleanupIntervalSecs }

end RateLimitConfig

namespace WhitelistConfig

def fieldNames : List String :=
  ["disabled", "file", "url", "refresh_interval_secs", "initial_attempts", "refresh_attempts",
   "retry_backoff_ms"]

def read? (v : Value) : Option WhitelistConfig := do
  let default : WhitelistConfig := {}
  let field ← v.fields? fieldNames
  let disabled ← Value.withDefault default.disabled Value.bool? (field "disabled")
  let file ← Value.optional Value.text? (field "file")
  let url ← Value.optional Value.text? (field "url")
  let refreshIntervalSecs ←
    Value.withDefault default.refreshIntervalSecs Value.uint64? (field "refresh_interval_secs")
  let initialAttempts ←
    Value.withDefault default.initialAttempts Value.uint32? (field "initial_attempts")
  let refreshAttempts ←
    Value.withDefault default.refreshAttempts Value.uint32? (field "refresh_attempts")
  let retryBackoffMs ←
    Value.withDefault default.retryBackoffMs Value.uint64? (field "retry_backoff_ms")
  return {
    disabled, file, url, refreshIntervalSecs, initialAttempts, refreshAttempts, retryBackoffMs }

end WhitelistConfig

namespace StorageConfig

def fieldNames : List String := ["local_path", "memory"]

def read? (v : Value) : Option StorageConfig := do
  let default : StorageConfig := {}
  let field ← v.fields? fieldNames
  let localPath ← Value.optional Value.text? (field "local_path")
  let memory ← Value.withDefault default.memory Value.bool? (field "memory")
  return { localPath, memory }

end StorageConfig

namespace IngestConfig

def fieldNames : List String :=
  ["http", "limits", "rate_limit", "whitelist", "storage", "network_name",
   "verify_signature_disabled"]

def read? (v : Value) : Option IngestConfig := do
  let default : IngestConfig := {}
  let field ← v.fields? fieldNames
  let http ← Value.withDefault default.http HttpConfig.read? (field "http")
  let limits ← Value.withDefault default.limits LimitsConfig.read? (field "limits")
  let rateLimit ← Value.withDefault default.rateLimit RateLimitConfig.read? (field "rate_limit")
  let whitelist ← Value.withDefault default.whitelist WhitelistConfig.read? (field "whitelist")
  let storage ← Value.withDefault default.storage StorageConfig.read? (field "storage")
  let networkName ← Value.withDefault default.networkName Value.text? (field "network_name")
  let verifySignatureDisabled ←
    Value.withDefault default.verifySignatureDisabled Value.bool?
      (field "verify_signature_disabled")
  return { http, limits, rateLimit, whitelist, storage, networkName, verifySignatureDisabled }

def decode? (document : Bytes) : Option IngestConfig :=
  (Value.read? document).bind read?

end IngestConfig

end UptimeIntake
