import UptimeIntake.Environment

/-!
# Logging settings

What the environment says about the logs: the name of the service, the filter, and whether the
lines are JSON.
-/

set_option autoImplicit false

namespace UptimeIntake

structure TelemetryConfig where
  serviceName : String := "uptime-backend"
  logFilter : String := "info"
  jsonLogs : Bool := false
  deriving DecidableEq, Repr

namespace TelemetryConfig

def isContainer (env : Environment) : Bool :=
  (env "KUBERNETES_SERVICE_HOST").isSome || (env "DOCKER_CONTAINER").isSome

/-- The settings of an environment. The filter of the service goes before the common one, and
without a flag the lines are JSON in containers. -/
def ofEnvironment (env : Environment) : TelemetryConfig :=
  let default : TelemetryConfig := {}
  { serviceName := (env "OTEL_SERVICE_NAME").getD default.serviceName
    logFilter := ((env "UPTIME_LOG_LEVEL").or (env "RUST_LOG")).getD default.logFilter
    jsonLogs := (env.flag? "UPTIME_JSON_LOGS").getD (isContainer env) }

end TelemetryConfig

end UptimeIntake
