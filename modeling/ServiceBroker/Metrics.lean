import ServiceBroker.Delivery.LiveChannels
import ServiceBroker.RegistryEvent

/-!
# Metrics

Counters and gauges of one process and their exposition as text. Families are listed by name. A
counter with a label has a line for each value of the label that has been counted, and its family is
left out while there is none.
-/

namespace ServiceBroker

/-- What became of a notification. -/
inductive DeliveryOutcome where
  /-- Nobody asked for it. -/
  | noSubscribers
  /-- It was pushed to somebody, whether the pushes succeeded or not. -/
  | dispatched
deriving DecidableEq, Repr

/-- The name of an outcome in metrics. -/
def DeliveryOutcome.label : DeliveryOutcome → String
  | .noSubscribers => "no_subscribers"
  | .dispatched => "dispatched"

/-- Counters and gauges of one process. -/
structure Metrics where
  /-- Whether they have been registered for exposition. -/
  registered : Bool := false
  /-- Registrations applied. -/
  registersApplied : Nat := 0
  /-- Deregistrations applied. -/
  deregistersApplied : Nat := 0
  /-- Messages that held no registry event. -/
  decodeFailures : Nat := 0
  /-- Registry events that could not be published. -/
  publishFailures : Nat := 0
  /-- Size of the registry that changed last. -/
  services : Nat := 0
  /-- Notifications that nobody asked for. -/
  withoutSubscribers : Nat := 0
  /-- Notifications that were pushed to somebody. -/
  dispatched : Nat := 0
  /-- Pushes to consumers without a channel. -/
  notConnected : Nat := 0
  /-- Pushes to channels that closed. -/
  closed : Nat := 0
  /-- Pushes that waited too long. -/
  timeouts : Nat := 0
  /-- Connected consumers of the replica where that changed last. -/
  liveChannels : Nat := 0
deriving DecidableEq, Repr, Inhabited

namespace Metrics

/-- Counts an event that was applied to a registry of `services` services then. -/
def countApplied (m : Metrics) (action : Action) (services : Nat) : Metrics :=
  match action with
  | .register => { m with registersApplied := m.registersApplied + 1, services }
  | .deregister => { m with deregistersApplied := m.deregistersApplied + 1, services }

/-- Counts a message that held no registry event. -/
def countDecodeFailure (m : Metrics) : Metrics := { m with decodeFailures := m.decodeFailures + 1 }

/-- Counts a registry event that could not be published. -/
def countPublishFailure (m : Metrics) : Metrics :=
  { m with publishFailures := m.publishFailures + 1 }

/-- Counts a notification. -/
def countNotification (m : Metrics) : DeliveryOutcome → Metrics
  | .noSubscribers => { m with withoutSubscribers := m.withoutSubscribers + 1 }
  | .dispatched => { m with dispatched := m.dispatched + 1 }

/-- Notes how many consumers are connected to a replica. -/
def gaugeLive (m : Metrics) (channels : LiveChannels) : Metrics :=
  { m with liveChannels := channels.connectionCount }

/-- Counts a failed push. -/
def countPushFailure (m : Metrics) : ChannelError → Metrics
  | .notConnected => { m with notConnected := m.notConnected + 1 }
  | .closed => { m with closed := m.closed + 1 }
  | .timeout => { m with timeouts := m.timeouts + 1 }

/-! ## Exposition -/

/-- A family of metrics with its lines: for each the label, if it has one, and the count. -/
structure Family where
  /-- Name of the family. -/
  name : String
  /-- What it measures. -/
  help : String
  /-- The kind of metric. -/
  kind : String
  /-- The lines. -/
  lines : List (String × Nat)

/-- The lines of a labelled counter; what was never counted has none. -/
def labelled (label : String) (counts : List (String × Nat)) : List (String × Nat) :=
  (counts.filter (·.2 != 0)).map fun (value, n) =>
    ("\x7b" ++ label ++ "=\"" ++ value ++ "\"\x7d", n)

/-- The families in the order of their names. -/
def families (m : Metrics) : List Family := [
  ⟨"eb_live_channels", "Number of consumers holding a live channel", "gauge",
    [("", m.liveChannels)]⟩,
  ⟨"eb_notification_push_failures_total", "Per-consumer notification pushes that failed",
    "counter", labelled "reason" [
      (ChannelError.closed.label, m.closed),
      (ChannelError.notConnected.label, m.notConnected),
      (ChannelError.timeout.label, m.timeouts)]⟩,
  ⟨"eb_notifications_total", "Notifications pushed by producers", "counter",
    labelled "outcome" [
      (DeliveryOutcome.dispatched.label, m.dispatched),
      (DeliveryOutcome.noSubscribers.label, m.withoutSubscribers)]⟩,
  ⟨"eb_registry_decode_failures_total", "Registry-change messages that could not be decoded",
    "counter", [("", m.decodeFailures)]⟩,
  ⟨"eb_registry_events_applied_total", "Registry-change events applied", "counter",
    labelled "action" [
      (Action.deregister.name, m.deregistersApplied),
      (Action.register.name, m.registersApplied)]⟩,
  ⟨"eb_registry_publish_failures_total",
    "Registry-change events that failed to encode or publish", "counter",
    [("", m.publishFailures)]⟩,
  ⟨"eb_registry_services", "Number of services in the local registry", "gauge",
    [("", m.services)]⟩]

/-- The text of a family. -/
def Family.text (f : Family) : String :=
  "# HELP " ++ f.name ++ " " ++ f.help ++ "\n# TYPE " ++ f.name ++ " " ++ f.kind ++ "\n" ++
    String.join (f.lines.map fun (label, n) => f.name ++ label ++ " " ++ toString n ++ "\n")

/-- The exposition of all metrics; empty until they are registered. -/
def text (m : Metrics) : String :=
  if m.registered then
    String.join ((m.families.filter (!·.lines.isEmpty)).map Family.text)
  else ""

end Metrics

end ServiceBroker
