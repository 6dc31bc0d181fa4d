import ServiceBroker.LogFilter

/-!
# Telemetry settings

What a process logs, taken from its environment, and the start of its logging. Inside a container
logs are structured unless the environment says otherwise.
-/

namespace ServiceBroker

/-- Settings of logging. -/
structure TelemetryConfig where
  /-- Name of the service in its first log line. -/
  serviceName : String := "edge-broker"
  /-- A log level or a log filter. -/
  logLevel : String := "info"
  /-- Whether logs are written to the console. -/
  consoleOutput : Bool := true
  /-- Whether logs are structured. -/
  jsonLogs : Bool := false
deriving DecidableEq, Repr, Inhabited

/-- The truth value of a flag, or `fallback` for a text that is none. -/
def parseFlag (value : String) (fallback : Bool) : Bool :=
  let word := Text.toLower (Text.trim value)
  if ["1", "true", "yes", "on"].contains word then true
  else if ["0", "false", "no", "off"].contains word then false
  else fallback

/-- Why logging cannot be started. -/
inductive TelemetryError where
  /-- Neither filter that was tried can be read. -/
  | filter (cause : LogFilterError)
  /-- The process logs already. -/
  | alreadyStarted
deriving DecidableEq, Repr

/-- The wording of a failed start. -/
def TelemetryError.message (e : TelemetryError) : String :=
  "Failed to initialize logging: " ++
    match e with
    | .filter cause => cause.message
    | .alreadyStarted => "a global default trace dispatcher has already been set"

namespace TelemetryConfig

/-- The settings that an environment asks for. -/
def ofEnvironment (lookup : String → Option String) : TelemetryConfig :=
  let inContainer :=
    (lookup "KUBERNETES_SERVICE_HOST").isSome || (lookup "DOCKER_CONTAINER").isSome
  { serviceName := (lookup "EB_SERVICE_NAME").getD "edge-broker"
    logLevel := ((lookup "EB_LOG_LEVEL").or (lookup "RUST_LOG")).getD "info"
    consoleOutput := ((lookup "EB_CONSOLE_OUTPUT").map (parseFlag · true)).getD true
    jsonLogs := ((lookup "EB_JSON_LOGS").map (parseFlag · false)).getD inContainer }

/-- The filter of the log lines: that of the variable `RUST_LOG`, or if there is none that can be
read, the configured one. -/
def filter (c : TelemetryConfig) (lookup : String → Option String) :
    Except LogFilterError (List LogDirective) :=
  match (lookup "RUST_LOG").map LogFilter.parse with
  | some (.ok directives) => .ok directives
  | _ => LogFilter.parse c.logLevel

/-- Starts logging in a process that logs already or does not yet. -/
def start (c : TelemetryConfig) (lookup : String → Option String) (started : Bool) :
    Except TelemetryError (List LogDirective) :=
  match c.filter lookup with
  | .error cause => .error (.filter cause)
  | .ok directives => if started then .error .alreadyStarted else .ok directives

end TelemetryConfig

end ServiceBroker
