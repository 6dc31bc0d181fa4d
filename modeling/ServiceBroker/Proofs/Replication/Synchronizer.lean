import ServiceBroker.Proofs.Registry
import ServiceBroker.Replication.Synchronizer

/-!
# What a synchronizer does

A synchronizer handles messages and publishes changes. A message that holds an event is applied, and
any other one is counted; a change that the transport refuses is counted, too. Only handling touches
the registry, so that a synchronizer is what the messages that it has handled have made of it.

## Main definitions

* `RegistryEvent.decodeAll`: the events that some messages hold;
* `Synchronizer.Digests`: the synchronizer has handled some messages, as far as its registry goes;
* `Synchronizer.Idle`: it has handled none.

## Main results

* `Synchronizer.handle_of_ok`, `Synchronizer.handle_of_error`: what handling a message does;
* `Synchronizer.publishChange_of_ok`, `Synchronizer.publishChange_of_error`: what publishing does;
* `Synchronizer.Digests.handle`: messages are handled one after the other;
* `Synchronizer.idle_publishChange`: whoever publishes handles nothing.
-/

namespace ServiceBroker

/-! ## Events in messages -/

namespace RegistryEvent

/-- The events that some messages hold, in order; a message that holds none is left out. -/
def decodeAll (log : List BusMessage) : List RegistryEvent :=
  log.filterMap fun m => (decode m.payload).toOption

/-- Messages are decoded one by one. -/
theorem decodeAll_append (log new : List BusMessage) :
    decodeAll (log ++ new) = decodeAll log ++ decodeAll new := List.filterMap_append

theorem decodeAll_of_ok {m : BusMessage} {event : RegistryEvent}
    (h : decode m.payload = .ok event) : decodeAll [m] = [event] := by
  rw [decodeAll, List.filterMap_cons, h]
  rfl

theorem decodeAll_of_error {m : BusMessage} {e : Json.ReadError}
    (h : decode m.payload = .error e) : decodeAll [m] = [] := by
  rw [decodeAll, List.filterMap_cons, h]
  rfl

end RegistryEvent

namespace Synchronizer

variable {s s' s'' : Synchronizer} {received : List BusMessage} {m : BusMessage}

/-! ## Handling and publishing -/

/-- An event is applied. -/
theorem handle_of_ok {event : RegistryEvent} (h : RegistryEvent.decode m.payload = .ok event)
    (s : Synchronizer) (metrics : Metrics) :
    s.handle m metrics =
      ({ s with
          registry := (s.registry.apply event).2
          eventsApplied := s.eventsApplied + 1 },
        metrics.countApplied event.action (s.registry.apply event).2.size) := by
  unfold handle
  rw [h]

/-- A message that holds no event changes one count. -/
theorem handle_of_error {e : Json.ReadError} (h : RegistryEvent.decode m.payload = .error e)
    (s : Synchronizer) (metrics : Metrics) :
    s.handle m metrics =
      ({ s with decodeFailures := s.decodeFailures + 1 }, metrics.countDecodeFailure) := by
  unfold handle
  rw [h]

section Publishing

variable {event : RegistryEvent} {transport : Transport}

/-- What is accepted changes nothing at the replica that publishes it. -/
theorem publishChange_of_ok {accepted : Nat × Transport}
    (h : transport.publish s.config.topic event.key event.encode = .ok accepted)
    (metrics : Metrics) :
    s.publishChange event transport metrics = ⟨.ok (), s, accepted.2, metrics⟩ := by
  unfold publishChange
  rw [h]

/-- What is refused is counted, by the replica and by the metrics. -/
theorem publishChange_of_error {cause : BusError}
    (h : transport.publish s.config.topic event.key event.encode = .error cause)
    (metrics : Metrics) :
    s.publishChange event transport metrics =
      ⟨.error (.publish cause), { s with publishFailures := s.publishFailures + 1 }, transport,
        metrics.countPublishFailure⟩ := by
  unfold publishChange
  rw [h]

end Publishing

/-- Handling does not change the settings. -/
theorem config_handle (s : Synchronizer) (m : BusMessage) (metrics : Metrics) :
    (s.handle m metrics).1.config = s.config := by
  cases hdecode : RegistryEvent.decode m.payload with
  | error e => rw [handle_of_error hdecode]
  | ok event => rw [handle_of_ok hdecode]

/-- A message that is handled is applied, or is no event. -/
theorem registry_handle (s : Synchronizer) (m : BusMessage) (metrics : Metrics) :
    (s.handle m metrics).1.registry = s.registry.applyAll (RegistryEvent.decodeAll [m]) := by
  cases hdecode : RegistryEvent.decode m.payload with
  | error e =>
    rw [handle_of_error hdecode, RegistryEvent.decodeAll_of_error hdecode, Registry.applyAll_nil]
  | ok event =>
    rw [handle_of_ok hdecode, RegistryEvent.decodeAll_of_ok hdecode]
    rfl

/-! ## What has been handled -/

/-- The synchronizer is a new one that has handled the given messages, as far as its registry and
the counts of messages go. -/
structure Digests (s : Synchronizer) (received : List BusMessage) : Prop where
  registry : s.registry = Registry.empty.applyAll (RegistryEvent.decodeAll received)
  eventsApplied : s.eventsApplied = (RegistryEvent.decodeAll received).length
  handled : s.eventsApplied + s.decodeFailures = received.length

/-- No message was handled between two states of a synchronizer. -/
structure Idle (s s' : Synchronizer) : Prop where
  config : s'.config = s.config
  registry : s'.registry = s.registry
  eventsApplied : s'.eventsApplied = s.eventsApplied
  decodeFailures : s'.decodeFailures = s.decodeFailures

theorem Idle.refl (s : Synchronizer) : s.Idle s := ⟨rfl, rfl, rfl, rfl⟩

theorem Idle.of_eq (h : s' = s) : s.Idle s' := h ▸ .refl s

theorem Idle.trans (h : s.Idle s') (h' : s'.Idle s'') : s.Idle s'' where
  config := h'.config.trans h.config
  registry := h'.registry.trans h.registry
  eventsApplied := h'.eventsApplied.trans h.eventsApplied
  decodeFailures := h'.decodeFailures.trans h.decodeFailures

/-- A new replica has digested nothing. -/
theorem digests_new (config : SyncConfig) : Digests { config } [] := ⟨rfl, rfl, rfl⟩

theorem Digests.idle (h : s.Digests received) (hidle : s.Idle s') : s'.Digests received where
  registry := hidle.registry.trans h.registry
  eventsApplied := hidle.eventsApplied.trans h.eventsApplied
  handled := by
    rw [hidle.eventsApplied, hidle.decodeFailures]
    exact h.handled

/-- One of the two counts grows with every message. -/
theorem Digests.handle (h : s.Digests received) (m : BusMessage) (metrics : Metrics) :
    (s.handle m metrics).1.Digests (received ++ [m]) := by
  have hregistry := s.registry_handle m metrics
  rw [h.registry, ← Registry.applyAll_append, ← RegistryEvent.decodeAll_append] at hregistry
  have happlied := h.eventsApplied
  have hhandled := h.handled
  cases hdecode : RegistryEvent.decode m.payload with
  | error e =>
    rw [handle_of_error hdecode] at hregistry ⊢
    refine ⟨hregistry, ?_, ?_⟩
    · rw [RegistryEvent.decodeAll_append, RegistryEvent.decodeAll_of_error hdecode,
        List.append_nil]
      exact happlied
    · rw [List.length_append, List.length_singleton, ← hhandled, Nat.add_assoc]
  | ok event =>
    rw [handle_of_ok hdecode] at hregistry ⊢
    refine ⟨hregistry, ?_, ?_⟩
    · rw [RegistryEvent.decodeAll_append, RegistryEvent.decodeAll_of_ok hdecode,
        List.length_append, List.length_singleton, ← happlied]
    · rw [List.length_append, List.length_singleton, ← hhandled, Nat.add_right_comm]

/-- A synchronizer that publishes handles nothing. -/
theorem idle_publishChange (s : Synchronizer) (event : RegistryEvent) (transport : Transport)
    (metrics : Metrics) : s.Idle (s.publishChange event transport metrics).sync := by
  cases hpublish : transport.publish s.config.topic event.key event.encode with
  | error cause =>
    rw [publishChange_of_error hpublish]
    exact ⟨rfl, rfl, rfl, rfl⟩
  | ok accepted =>
    rw [publishChange_of_ok hpublish]
    exact .refl s

end Synchronizer

end ServiceBroker
