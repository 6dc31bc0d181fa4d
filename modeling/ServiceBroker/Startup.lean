import ServiceBroker.Cluster
import ServiceBroker.Telemetry

/-!
# Start of a process

What a process that runs one replica does before it serves: it takes its settings from its
environment, starts logging, and starts the replica on a bus of its own. `Startup.run` is what comes
of that; nothing in it touches the process.
-/

namespace ServiceBroker

namespace Startup

/-- The environment variables that have a meaning. -/
def variableNames : List String :=
  ["KUBERNETES_SERVICE_HOST", "DOCKER_CONTAINER", "RUST_LOG", "EB_SERVICE_NAME", "EB_LOG_LEVEL",
    "EB_CONSOLE_OUTPUT", "EB_JSON_LOGS", "EB_HTTP_HOST", "EB_HTTP_PORT", "EB_IDENTITY_HEADER",
    "EB_BUS_CAPACITY", "EB_SEND_TIMEOUT_MS", "EB_MAX_SUBSCRIPTIONS"]

/-- Why a process does not get to serve. -/
inductive Failure where
  /-- Logging cannot be started. -/
  | logging (cause : TelemetryError)
  /-- The replica refuses its settings. -/
  | settings (cause : BrokerConfigError)
  /-- The replica cannot subscribe to the changes of the registry. -/
  | replication (cause : SubscribeFailure)

/-- The wording of a failed start. -/
def Failure.message : Failure → String
  | .logging cause => "Failed to initialise telemetry: " ++ cause.message
  | .settings cause => "Invalid configuration: " ++ cause.message
  | .replication (.refused cause) =>
    "Failed to start registry synchronisation: " ++ (SyncError.subscribe cause).message
  | .replication .impossibleCapacity =>
    "Failed to start registry synchronisation: no channel has the configured capacity"

/-- Starts a replica alone with the settings of an environment. -/
def run (lookup : String → Option String) : Except Failure (BrokerConfig × Cluster) := do
  let _ ← ((TelemetryConfig.ofEnvironment lookup).start lookup false).mapError .logging
  let config := (default : BrokerConfig).override lookup
  let cluster ← ((Cluster.empty none true).add config).mapError .settings
  match cluster.start 0 with
  | (.ok (), cluster) => return (config, cluster)
  | (.error cause, _) => throw (.replication cause)

end Startup

end ServiceBroker
