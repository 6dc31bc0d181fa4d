import ServiceBroker.MessageBus.Transport
import ServiceBroker.Metrics
import ServiceBroker.Registry

/-!
# Registry synchronization

Replicas agree on the registry by publishing changes and applying what they read back. A writer
never touches the registry of its own replica: `Synchronizer.publishChange` hands an event to the
transport, and `Synchronizer.handle` applies an event that came from there, on every replica alike.
-/

namespace ServiceBroker

/-- Why a change of the registry is not replicated. -/
inductive SyncError where
  /-- The event cannot be written. -/
  | encoding (cause : Json.ReadError)
  /-- The transport refuses the event. -/
  | publish (cause : BusError)
  /-- The transport refuses the subscription to the changes. -/
  | subscribe (cause : BusError)
deriving DecidableEq

/-- The wording of a change that is not replicated. -/
def SyncError.message : SyncError → String
  | .encoding cause => "failed to encode registry-change event: " ++ cause.message
  | .publish cause => "failed to publish registry-change event: " ++ cause.message
  | .subscribe cause => "failed to subscribe to registry topic: " ++ cause.message

/-- One replica's part in replication: its registry and what it has counted. -/
structure Synchronizer where
  /-- Its settings. -/
  config : SyncConfig := default
  /-- The registry it feeds. -/
  registry : Registry := {}
  /-- Events applied. -/
  eventsApplied : Nat := 0
  /-- Messages that held no event. -/
  decodeFailures : Nat := 0
  /-- Events that could not be published. -/
  publishFailures : Nat := 0

instance : Inhabited Synchronizer := ⟨{}⟩

namespace Synchronizer

/-- What publishing a change leaves behind. -/
structure Published (α : Type) where
  /-- The answer to the writer. -/
  result : Except SyncError α
  /-- The synchronizer then. -/
  sync : Synchronizer
  /-- The transport then. -/
  transport : Transport
  /-- The metrics then. -/
  metrics : Metrics

/-- The same state with another answer. -/
def Published.map (f : α → β) (p : Published α) : Published β :=
  { p with result := p.result.map f }

/-- Publishes a change of the registry under the URN it is about. The registry catches up when the
event is read back. -/
def publishChange (s : Synchronizer) (event : RegistryEvent) (transport : Transport)
    (metrics : Metrics) : Published Unit :=
  match transport.publish s.config.topic event.key event.encode with
  | .ok (_, transport) => ⟨.ok (), s, transport, metrics⟩
  | .error cause =>
    ⟨.error (.publish cause), { s with publishFailures := s.publishFailures + 1 }, transport,
      metrics.countPublishFailure⟩

/-- Publishes the registration of a service for a URN; answers with the service. -/
def register (s : Synchronizer) (urn : Urn) (registration : Registration)
    (transport : Transport) (metrics : Metrics) : Published Service :=
  let service := registration.bind urn
  (s.publishChange (.register service) transport metrics).map fun _ => service

/-- Publishes the deregistration of a URN; answers whether the URN was registered on this replica
before. -/
def deregister (s : Synchronizer) (urn : Urn) (transport : Transport) (metrics : Metrics) :
    Published Bool :=
  let wasPresent := s.registry.contains urn
  (s.publishChange (.deregister urn) transport metrics).map fun _ => wasPresent

/-- Applies a message from the transport; one that holds no event is only counted. -/
def handle (s : Synchronizer) (message : BusMessage) (metrics : Metrics) :
    Synchronizer × Metrics :=
  match RegistryEvent.decode message.payload with
  | .error _ =>
    ({ s with decodeFailures := s.decodeFailures + 1 }, metrics.countDecodeFailure)
  | .ok event =>
    let registry := (s.registry.apply event).2
    ({ s with registry, eventsApplied := s.eventsApplied + 1 },
      metrics.countApplied event.action registry.size)

end Synchronizer

end ServiceBroker
