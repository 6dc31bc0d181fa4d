import ServiceBroker.Startup

/-!
# Command line

Takes the settings from the environment of the process, starts a replica with them and says where it
would serve and in which state it is, or why it cannot start.
-/

open ServiceBroker

/-- The environment of the process, as far as it has a meaning. -/
def readEnvironment : IO (String → Option String) := do
  let values ← Startup.variableNames.mapM fun name => return (name, ← IO.getEnv name)
  return fun name => (values.lookup name).join

/-- Starts a replica and says what has come of it. -/
def main : IO UInt32 := do
  match Startup.run (← readEnvironment) with
  | .error failure =>
    IO.eprintln failure.message
    return 1
  | .ok (config, cluster) =>
    IO.println ("address " ++ config.gateway.socketAddress)
    match (Gateway.healthResponse (cluster.replica 0)).body.toString? with
    | some state => IO.println state
    | none => return 1
    return 0
