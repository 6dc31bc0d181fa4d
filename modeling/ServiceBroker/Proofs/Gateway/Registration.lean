import ServiceBroker.Proofs.Gateway.Requests
import ServiceBroker.Proofs.MessageBus.InMemory
import ServiceBroker.Proofs.RegistryEvent
import ServiceBroker.Proofs.Replication.Synchronizer

/-!
# Acknowledged registrations

A producer that is answered 200 has its registration on the bus. The metadata of a registration
stands inside of one container in the request and inside of two in the event, so that metadata which
nests `RegistryEvent.infoDepth + 1` containers is acknowledged and then refused by every replica.

- `Synchronizer.hasRecorded_handle_iff`: when a replica records the service of an event;
- `Gateway.acknowledged_registration_recorded_iff`: when the replicas record a registration that was
  acknowledged.
-/

namespace ServiceBroker

/-! ## Replicas -/

/-- A replica has applied an event, and finds a service under its URN since then. -/
structure Synchronizer.HasRecorded (before after : Synchronizer) (service : Service) : Prop where
  /-- The event was applied. -/
  eventsApplied : after.eventsApplied = before.eventsApplied + 1
  /-- The event was not taken for a message that holds none. -/
  decodeFailures : after.decodeFailures = before.decodeFailures
  /-- The record of the URN is the service. -/
  lookup : after.registry.lookup service.urn = some service

/-- A replica records the service of a registration if and only if an event can carry its
metadata. -/
theorem Synchronizer.hasRecorded_handle_iff (s : Synchronizer) {m : BusMessage} (metrics : Metrics)
    {service : Service} (hpayload : m.payload = (RegistryEvent.register service).encode)
    (hinfo : service.info.Canonical) :
    s.HasRecorded (s.handle m metrics).1 service ↔ service.info.Portable := by
  have hdecode : RegistryEvent.decode m.payload =
      (service.info.reread RegistryEvent.infoDepth).map fun info =>
        .register { service with info } := by
    rw [hpayload]
    exact RegistryEvent.decode_encode (.register service) hinfo
  rw [Json.Value.Portable, ← Json.Value.reread_eq_ok_self_iff]
  cases hreread : service.info.reread RegistryEvent.infoDepth with
  | error e =>
    rw [hreread] at hdecode
    rw [handle_of_error hdecode]
    constructor
    · -- the failure is counted, and a record would leave the count as it was
      intro h
      exact absurd h.decodeFailures (Nat.succ_ne_self _)
    · intro h
      cases h
  | ok info =>
    rw [hreread] at hdecode
    rw [handle_of_ok hdecode]
    -- something is recorded, but perhaps other metadata
    have hlookup : (s.registry.apply (.register { service with info })).2.lookup service.urn =
        some { service with info } := by
      rw [Registry.lookup_apply]
      exact if_pos rfl
    constructor
    · intro h
      have heq : some { service with info } = some service := hlookup.symm.trans h.lookup
      have hsame : info = service.info := congrArg (·.info) (Option.some.inj heq)
      rw [← hsame]
    · intro h
      obtain rfl := Except.ok.inj h
      exact ⟨rfl, rfl, hlookup⟩

/-- Metadata that nests more containers than an event leaves room for costs every replica the
event. -/
private theorem Synchronizer.handle_of_too_deep (s : Synchronizer) {m : BusMessage}
    (metrics : Metrics)
    {service : Service} (hpayload : m.payload = (RegistryEvent.register service).encode)
    (hinfo : service.info.Canonical) (hdeep : RegistryEvent.infoDepth < service.info.depth) :
    (s.handle m metrics).1 = { s with decodeFailures := s.decodeFailures + 1 } := by
  have hdecode := RegistryEvent.decode_encode (.register service) hinfo
  rw [← hpayload] at hdecode
  -- the event opens containers of its own around the metadata
  have hlost : ¬∃ info, service.info.reread RegistryEvent.infoDepth = .ok info := by
    rw [Json.Value.exists_reread_iff]
    exact fun h => Nat.not_lt.mpr h.1 hdeep
  cases hreread : service.info.reread RegistryEvent.infoDepth with
  | error e =>
    have hrefused : RegistryEvent.decode m.payload = .error e := by
      rw [hdecode]
      exact congrArg (Except.map _) hreread
    rw [handle_of_error hrefused]
  | ok info => exact absurd ⟨info, hreread⟩ hlost

namespace Gateway

open Http (Request Response)

variable {replica replica' : Replica} {caller : Urn} {r : Request} {registration : Registration}

/-! ## The gateway -/

/-- A registration that is understood is answered 200 when the bus has taken the event. -/
private theorem registerService_of_publish {n : Nat} {transport : Transport}
    (hbody : decodeBody replica.config.gateway Registration.record.read r = .ok registration)
    (hpublish : replica.transport.publish replica.sync.config.topic caller.display
      (RegistryEvent.register (registration.bind caller)).encode = .ok (n, transport)) :
    registerService replica caller r =
      .ok (.json 200 (registration.bind caller).toJson, { replica with transport }) := by
  have hkey : (RegistryEvent.register (registration.bind caller)).key = caller.display := rfl
  rw [← hkey] at hpublish
  unfold registerService Synchronizer.register
  simp only [hbody, Synchronizer.publishChange_of_ok hpublish, bind, Except.bind]
  rfl

/-- What stands behind a registration that was answered 200: the body was understood, and the bus
has taken the event. -/
private theorem publish_of_registerService {response : Response}
    (h : registerService replica caller r = .ok (response, replica'))
    (hstatus : response.status = 200) :
    ∃ registration n,
      decodeBody replica.config.gateway Registration.record.read r = .ok registration ∧
      response = .json 200 (registration.bind caller).toJson ∧
      replica.transport.publish replica.sync.config.topic caller.display
        (RegistryEvent.register (registration.bind caller)).encode =
          .ok (n, replica'.transport) := by
  unfold registerService at h
  obtain ⟨registration, hbody, h⟩ := Json.exists_of_bind_eq_ok h
  refine ⟨registration, ?_⟩
  unfold Synchronizer.register at h
  cases hpublish : replica.transport.publish replica.sync.config.topic
      (RegistryEvent.register (registration.bind caller)).key
      (RegistryEvent.register (registration.bind caller)).encode with
  | error cause =>
    -- a change that is not replicated is answered 500
    simp only [Synchronizer.publishChange_of_error hpublish] at h
    cases h
    cases hstatus
  | ok published =>
    simp only [Synchronizer.publishChange_of_ok hpublish] at h
    cases h
    exact ⟨published.1, hbody, rfl, hpublish⟩

/-- The metadata of a registration that the gateway understands is canonical. -/
private theorem canonical_of_decodeBody {c : GatewayConfig}
    (h : decodeBody c Registration.record.read r = .ok registration) :
    registration.info.Canonical ∧ registration.info.depth < Json.maxDepth :=
  Registration.canonical_of_readBytes (readBytes_of_decodeBody h)

/-- A body of metadata alone is understood as a registration with nothing but the metadata. -/
theorem decodeBody_info {c : GatewayConfig} {info : Json.Value} (hinfo : info.Canonical)
    (hread : info.reread (Json.maxDepth - 1) = .ok info)
    (hbody : readBody c r = .ok (Json.Value.object [("info", info)]).print) :
    decodeBody c Registration.record.read r = .ok { info } := by
  have hfills : Json.FillsAs Registration.record.fields (Json.maxDepth - 1) true
      Registration.record.empty [("info", info)]
      (info.reread (Json.maxDepth - 1) >>= fun info => .ok { info := some info }) :=
    .cons rfl rfl (Json.Value.readsAs hinfo) fun _ _ => .nil
  have hprint := Json.readBytes_print (Json.Record.readsAs hfills)
  rw [hread] at hprint
  exact decodeBody_of_readBytes hbody hprint

/-! ## A replica by itself -/

/-- A replica on a bus of its own. -/
def lone : Replica := { transport := .memory {} }

/-- A request to register a service of which only the metadata is told. -/
def infoRequest (info : Json.Value) : Request where
  method := "POST"
  path := Bytes.ofString "/services"
  body := (Json.Value.object [("info", info)]).print

/-- Metadata with a number that is not whole, `{"weight":1.5}`. -/
def weighted : Json.Value :=
  .object [("weight", .real ⟨false, 6755399441055744, -52, by decide⟩)]

theorem canonical_weighted : weighted.Canonical :=
  .object (List.pairwise_singleton ..) (List.forall_mem_singleton.mpr (.real _))

/-- Null inside of lists that are nested in each other. -/
def nested : Nat → Json.Value
  | 0 => .null
  | n + 1 => .list [nested n]

theorem canonical_nested (n : Nat) : (nested n).Canonical := by
  induction n with
  | zero => exact .null
  | succ n ih => exact .list (List.forall_mem_singleton.mpr ih)

/-- The registration of metadata alone is acknowledged if the gateway reads the metadata as it was
printed, and neither the request nor the event is too long. -/
theorem registerService_infoRequest {info : Json.Value} (caller : Urn) (hinfo : info.Canonical)
    (hread : info.reread (Json.maxDepth - 1) = .ok info)
    (hbody : readBody lone.config.gateway (infoRequest info) = .ok (infoRequest info).body)
    (hsize : (RegistryEvent.register (Registration.bind { info } caller)).encode.length ≤
      (default : BusConfig).maxPayloadSize) :
    ∃ transport,
      lone.transport.publish "services" caller.display
        (RegistryEvent.register (Registration.bind { info } caller)).encode =
          .ok (0, transport) ∧
      registerService lone caller (infoRequest info) =
        .ok (.json 200 (Registration.bind { info } caller).toJson, { lone with transport }) := by
  -- nobody has subscribed, so that the bus only counts the message
  have hbus : InMemoryBus.publish {} "services" caller.display
      (RegistryEvent.register (Registration.bind { info } caller)).encode =
        .ok (0, { published := 1 }) :=
    InMemoryBus.publish_eq_ok_iff.mpr ⟨rfl, hsize, by simp, by simp⟩
  have hpublish : lone.transport.publish "services" caller.display
      (RegistryEvent.register (Registration.bind { info } caller)).encode =
        .ok (0, .memory { published := 1 }) :=
    congrArg (Except.map _) hbus
  exact ⟨_, hpublish, registerService_of_publish (decodeBody_info hinfo hread hbody) hpublish⟩

/-! ## From the gateway to the replicas -/

/-- Every replica that receives an acknowledged registration records what the producer was answered,
if and only if an event can carry the metadata. -/
theorem acknowledged_registration_recorded_iff {response : Response}
    (h : registerService replica caller r = .ok (response, replica'))
    (hstatus : response.status = 200) :
    ∃ registration n,
      decodeBody replica.config.gateway Registration.record.read r = .ok registration ∧
      response = .json 200 (registration.bind caller).toJson ∧
      replica.transport.publish replica.sync.config.topic caller.display
        (RegistryEvent.register (registration.bind caller)).encode =
          .ok (n, replica'.transport) ∧
      ∀ (s : Synchronizer) (m : BusMessage) (metrics : Metrics),
        m.payload = (RegistryEvent.register (registration.bind caller)).encode →
        (s.HasRecorded (s.handle m metrics).1 (registration.bind caller) ↔
          registration.info.Portable) := by
  obtain ⟨registration, n, hbody, hresponse, hpublish⟩ := publish_of_registerService h hstatus
  refine ⟨registration, n, hbody, hresponse, hpublish, fun s m metrics hpayload => ?_⟩
  exact s.hasRecorded_handle_iff metrics hpayload (canonical_of_decodeBody hbody).1

/-- Metadata with a number in it is acknowledged and then recorded. -/
theorem acknowledged_registration_recorded_weighted :
    ∃ response replica',
      registerService lone ⟨"a", "b"⟩ (infoRequest weighted) = .ok (response, replica') ∧
      response.status = 200 ∧
      ∀ m : BusMessage, m.payload =
          (RegistryEvent.register (Registration.bind { info := weighted } ⟨"a", "b"⟩)).encode →
        Synchronizer.HasRecorded {} (Synchronizer.handle {} m {}).1
          (Registration.bind { info := weighted } ⟨"a", "b"⟩) := by
  have hread : weighted.reread (Json.maxDepth - 1) = .ok weighted :=
    Json.Value.reread_eq_ok_self_iff.mpr (by decide +kernel)
  have hbody : readBody lone.config.gateway (infoRequest weighted) =
      .ok (infoRequest weighted).body := by decide +kernel
  obtain ⟨transport, _, hregister⟩ := registerService_infoRequest ⟨"a", "b"⟩
    canonical_weighted hread hbody (by decide +kernel)
  obtain ⟨registration, _, hdecode, _, _, hrecorded⟩ :=
    acknowledged_registration_recorded_iff hregister rfl
  -- what the gateway has understood is the metadata alone
  obtain rfl := Except.ok.inj (hdecode.symm.trans (decodeBody_info canonical_weighted hread hbody))
  refine ⟨_, _, hregister, rfl, fun m hpayload => ?_⟩
  exact (hrecorded {} m {} hpayload).mpr (by decide +kernel)

/-- Metadata of one more container than an event leaves room for is acknowledged, and every replica
takes its event for a message that holds none. -/
theorem acknowledged_registration_lost_nested :
    ∃ transport,
      lone.transport.publish "services" "a.b"
        (RegistryEvent.register (Registration.bind { info := nested 126 } ⟨"a", "b"⟩)).encode =
          .ok (0, transport) ∧
      registerService lone ⟨"a", "b"⟩ (infoRequest (nested 126)) =
        .ok (.json 200 (Registration.bind { info := nested 126 } ⟨"a", "b"⟩).toJson,
          { lone with transport }) ∧
      ∀ (s : Synchronizer) (m : BusMessage) (metrics : Metrics), m.payload =
          (RegistryEvent.register (Registration.bind { info := nested 126 } ⟨"a", "b"⟩)).encode →
        (s.handle m metrics).1 = { s with decodeFailures := s.decodeFailures + 1 } := by
  have hread : (nested 126).reread (Json.maxDepth - 1) = .ok (nested 126) :=
    Json.Value.reread_eq_ok_self_iff.mpr (by decide +kernel)
  obtain ⟨transport, hpublish, hregister⟩ := registerService_infoRequest ⟨"a", "b"⟩
    (canonical_nested 126) hread (by decide +kernel) (by decide +kernel)
  refine ⟨transport, hpublish, hregister, fun s m metrics hpayload => ?_⟩
  exact s.handle_of_too_deep metrics hpayload (canonical_nested 126) (by decide +kernel)

end Gateway

end ServiceBroker
