import ServiceBroker.Proofs.MessageBus.Unread
import ServiceBroker.Proofs.Registry.Histories
import ServiceBroker.Proofs.Replication.Journal

/-!
# Writers publish, consume loops apply

A writer changes no registry, not even that of its own replica: registering or deregistering a
service hands one message to the bus, or none if the bus refuses it. Only consume loops apply
events, and what they have applied is what they have received.

## Main definitions

* `InMemoryBus.Accepts`: what one accepted message does to a bus;
* `ReplicaGroup.Writes`: what a writer does to its group;
* `Journal.Reachable`: what can become of replicas and their loops from their start on.

## Main results

* `ReplicaGroup.writes_register`, `ReplicaGroup.writes_deregister`: writers do nothing else;
* `Journal.lawful_of_reachable`: in each state that can come about, replicas have handled what
  their loops received.
-/

namespace ServiceBroker

/-! ## One message on a bus -/

/-- What a bus does with one message that it accepts: it counts it, and the message is unread for
the subscriptions to its topic and for no other one. -/
structure InMemoryBus.Accepts (bus : InMemoryBus) (m : BusMessage) (bus' : InMemoryBus) : Prop where
  published : bus'.published = bus.published + 1
  unread : ∀ s unread, bus.Holds s unread →
    bus'.Holds s (if m.topic = s.topic then unread ++ [m] else unread)
  isOpen : ∀ s, bus'.IsOpen s ↔ bus.IsOpen s
  closed : bus'.closed = bus.closed
  config : bus'.config = bus.config

namespace InMemoryBus

variable {bus bus' : InMemoryBus} {topic key : String} {payload : Bytes} {n : Nat}

private theorem accepts_publish (h : bus.publish topic key payload = .ok (n, bus')) :
    bus.Accepts ⟨topic, key, payload⟩ bus' where
  published := by
    obtain ⟨-, -, -, rfl⟩ := publish_eq_ok_iff.mp h
    rfl
  unread s unread hs := hs.publish h
  isOpen s := isOpen_publish h
  closed := by
    obtain ⟨-, -, -, rfl⟩ := publish_eq_ok_iff.mp h
    rfl
  config := config_publish h

/-- Why a bus refuses a payload: it is closed, or the payload is too large. -/
inductive Refuses (bus : InMemoryBus) (payload : Bytes) : BusError → Prop
  | closed : bus.closed = true → Refuses bus payload .closed
  | tooLarge : bus.closed = false → bus.config.maxPayloadSize < payload.length →
      Refuses bus payload (.payloadTooLarge payload.length bus.config.maxPayloadSize)

private theorem refuses_publish {e : BusError} (h : bus.publish topic key payload = .error e) :
    bus.Refuses payload e := by
  unfold publish at h
  dsimp only at h
  split at h
  next hclosed =>
    cases h
    exact .closed hclosed
  next hopen =>
    split at h
    next hsize =>
      cases h
      exact .tooLarge (by simpa using hopen) hsize
    next => split at h <;> cases h

/-- An open bus does not refuse what it has room for. -/
private theorem Refuses.not_fits {e : BusError} (h : bus.Refuses payload e)
    (hopen : bus.closed = false) :
    ¬payload.length ≤ bus.config.maxPayloadSize := by
  cases h with
  | closed hclosed =>
    rw [hopen] at hclosed
    cases hclosed
  | tooLarge _ hlarge => exact Nat.not_le.mpr hlarge

end InMemoryBus

/-! ## Writers -/

namespace ReplicaGroup

variable {g g' : ReplicaGroup} {i : Nat} {bus : InMemoryBus} {event : RegistryEvent}

/-- What a writer at a replica does to its group that publishes an event on a bus, and answers with
something if the bus accepts it. -/
structure Writes {α : Type} (g : ReplicaGroup) (i : Nat) (bus : InMemoryBus) (event : RegistryEvent)
    (answer : α) (result : Except SyncError α × ReplicaGroup) : Prop where
  /-- No replica handles anything, and no loop goes on. -/
  idle : ∀ k, (g.member k).sync.Idle (result.2.member k).sync
  loops : result.2.loops = g.loops
  /-- Other replicas and other transports are left alone. -/
  members : ∀ k, k ≠ i → result.2.member k = g.member k
  transports : ∀ place, place ≠ (g.member i).transport →
    result.2.transports[place]? = g.transports[place]?
  /-- The bus accepts the event unless it is closed or the event is too large. -/
  isOk : result.1.isOk ↔ bus.closed = false ∧ event.encode.length ≤ bus.config.maxPayloadSize
  accepted : ∀ a, result.1 = .ok a → a = answer ∧
    (result.2.member i).sync.publishFailures = (g.member i).sync.publishFailures ∧
    ∃ bus', result.2.transport i = .memory bus' ∧
      bus.Accepts ⟨(g.member i).sync.config.topic, event.urn.display, event.encode⟩ bus'
  /-- A refusal is counted, and leaves the bus as it was. -/
  refused : ∀ e, result.1 = .error e → (∃ cause, e = .publish cause ∧
      bus.Refuses event.encode cause) ∧
    (result.2.member i).sync.publishFailures = (g.member i).sync.publishFailures + 1 ∧
    result.2.transport i = .memory bus

/-- A replica is on a transport of its group if it is on a bus. -/
theorem transport_lt_of_memory (hbus : g.transport i = .memory bus) :
    (g.member i).transport < g.transports.size := by
  by_contra hge
  rw [transport, Array.getD_eq_getD_getElem?, Array.getElem?_eq_none (Nat.le_of_not_lt hge),
    Option.getD_none] at hbus
  cases hbus

theorem idle_setContext {c : ConsumeLoop.Context} (h : (g.member i).sync.Idle c.sync) (k : Nat) :
    (g.member k).sync.Idle ((g.setContext i c).member k).sync := by
  rw [member_setContext]
  split
  next hik => exact hik.1 ▸ h
  next => exact .refl _

theorem member_setContext_ne {c : ConsumeLoop.Context} {k : Nat} (h : k ≠ i) :
    (g.setContext i c).member k = g.member k := by
  rw [member_setContext, if_neg fun heq => h heq.1.symm]

theorem transports_setContext_ne {c : ConsumeLoop.Context} {place : Nat}
    (h : place ≠ (g.member i).transport) :
    (g.setContext i c).transports[place]? = g.transports[place]? :=
  Array.getElem?_setIfInBounds_ne h.symm

/-- Whoever publishes an event is a writer. -/
theorem writes_publishWith {α : Type} (hi : i < g.members.size) (hbus : g.transport i = .memory bus)
    (event : RegistryEvent) (answer : Synchronizer → α) :
    g.Writes i bus event (answer (g.member i).sync)
      (g.publishWith i fun s t m => (s.publishChange event t m).map fun _ => answer s) := by
  have hlt := transport_lt_of_memory hbus
  have hself (c : ConsumeLoop.Context) : ((g.setContext i c).member i).sync = c.sync := by
    rw [member_setContext, if_pos ⟨rfl, hi⟩]
  simp only [publishWith, Synchronizer.publishChange, hbus, Transport.publish]
  cases hpublish : bus.publish (g.member i).sync.config.topic event.key event.encode with
  | ok result =>
    obtain ⟨hopen, hsize, -⟩ := InMemoryBus.publish_eq_ok_iff.mp hpublish
    exact {
      idle := idle_setContext (.refl _)
      loops := rfl
      members := fun k => member_setContext_ne
      transports := fun place => transports_setContext_ne
      isOk := ⟨fun _ => ⟨hopen, hsize⟩, fun _ => rfl⟩
      accepted := by
        rintro a ⟨⟩
        refine ⟨rfl, ?_, result.2, ?_, InMemoryBus.accepts_publish hpublish⟩
        · rw [hself]
          rfl
        · rw [transport_setContext_self g _ hlt]
          rfl
      refused := by rintro e ⟨⟩ }
  | error cause =>
    have hrefuses := InMemoryBus.refuses_publish hpublish
    exact {
      -- a failure is counted in the synchronizer, and that is not handling a message
      idle := idle_setContext ⟨rfl, rfl, rfl, rfl⟩
      loops := rfl
      members := fun k => member_setContext_ne
      transports := fun place => transports_setContext_ne
      isOk := ⟨by rintro ⟨⟩, fun hfits => (hrefuses.not_fits hfits.1 hfits.2).elim⟩
      accepted := by rintro a ⟨⟩
      refused := by
        rintro e ⟨⟩
        refine ⟨⟨cause, rfl, hrefuses⟩, ?_, ?_⟩
        · rw [hself]
          rfl
        · rw [transport_setContext_self g _ hlt]
          rfl }

/-- Registering a service publishes its registration, and answers with the service. -/
theorem writes_register (hi : i < g.members.size) (hbus : g.transport i = .memory bus) (urn : Urn)
    (registration : Registration) :
    g.Writes i bus (.register (registration.bind urn)) (registration.bind urn)
      (g.register i urn registration) :=
  writes_publishWith hi hbus (.register (registration.bind urn)) fun _ => registration.bind urn

/-- Deregistering a URN publishes its deregistration, and answers whether the registry of the
replica has the URN. -/
theorem writes_deregister (hi : i < g.members.size) (hbus : g.transport i = .memory bus)
    (urn : Urn) :
    g.Writes i bus (.deregister urn) ((g.member i).sync.registry.lookup urn).isSome
      (g.deregister i urn) := by
  have hwrites := writes_publishWith hi hbus (.deregister urn) fun s => s.registry.contains urn
  rwa [Registry.contains_eq_isSome_lookup] at hwrites

end ReplicaGroup

/-! ## Runs -/

namespace Journal

/-- What can become of replicas and their loops from their start on. -/
inductive Reachable : Journal → Prop
  /-- New replicas with their settings, each on one of the transports. -/
  | start (transports : Array Transport) (replicas : Array (SyncConfig × Nat)) :
      Reachable ⟨{
        transports
        members := replicas.map fun (config, transport) => { sync := { config }, transport } }, []⟩
  /-- A service is registered or deregistered, or something else is published. -/
  | register {j : Journal} (i : Nat) (urn : Urn) (registration : Registration) :
      Reachable j → Reachable { j with group := (j.group.register i urn registration).2 }
  | deregister {j : Journal} (i : Nat) (urn : Urn) :
      Reachable j → Reachable { j with group := (j.group.deregister i urn).2 }
  | publishChange {j : Journal} (i : Nat) (event : RegistryEvent) :
      Reachable j → Reachable { j with group := (j.group.publishChange i event).2 }
  | publishRaw {j : Journal} (i : Nat) (topic key : String) (payload : Bytes) :
      Reachable j → Reachable { j with group := (j.group.publishRaw i topic key payload).2 }
  /-- One more loop starts for a replica, or loops go on. -/
  | spawn {j : Journal} (i : Nat) : Reachable j → Reachable { j with group := (j.group.spawn i).2 }
  | works {j j' : Journal} : Reachable j → j.Works j' → Reachable j'
  /-- A transport changes: a bus is closed, or somebody else subscribes to it or reads it. -/
  | transport {j : Journal} (i : Nat) (f : Transport → Transport) :
      Reachable j → Reachable { j with group := j.group.modifyTransport i f }
  /-- The signal of a replica changes, or time passes. -/
  | signal {j : Journal} (i : Nat) (f : Signal → Signal) :
      Reachable j → Reachable { j with group := j.group.modifySignal i f }
  | advance {j : Journal} (time : Nat) :
      Reachable j → Reachable { j with group := j.group.advanceTo time }

variable {j : Journal} {i : Nat}

/-! ### Nobody but a loop handles messages -/

theorem idle_publishChange (g : ReplicaGroup) (i : Nat) (event : RegistryEvent) (k : Nat) :
    (g.member k).sync.Idle ((g.publishChange i event).2.member k).sync :=
  ReplicaGroup.idle_setContext ((g.member i).sync.idle_publishChange event _ _) k

theorem idle_publishRaw (g : ReplicaGroup) (i : Nat) (topic key : String) (payload : Bytes)
    (k : Nat) : (g.member k).sync.Idle ((g.publishRaw i topic key payload).2.member k).sync := by
  obtain ⟨transports, -, hpublish⟩ := g.publishRaw_eq i topic key payload
  rw [hpublish]
  exact .refl _

/-- A replica whose synchronizer is put back has handled nothing. -/
theorem idle_setMember {g : ReplicaGroup} {m : Member} (h : m.sync = (g.member i).sync) (k : Nat) :
    (g.member k).sync.Idle ((g.setMember i m).member k).sync :=
  .of_eq (g.member_setMember_congr (·.sync) h k)

theorem idle_spawn (g : ReplicaGroup) (i k : Nat) :
    (g.member k).sync.Idle ((g.spawn i).2.member k).sync := by
  rcases g.spawn_cases i with ⟨_, -, hspawn⟩ | ⟨_, -, hspawn⟩
  · rw [hspawn]
    exact .refl _
  · rw [hspawn]
    exact idle_setMember (g := g) (m := { g.member i with latest := some g.nextLoop }) rfl k

theorem size_publishRaw (g : ReplicaGroup) (i : Nat) (topic key : String) (payload : Bytes) :
    (g.publishRaw i topic key payload).2.members.size = g.members.size := by
  obtain ⟨transports, -, hpublish⟩ := g.publishRaw_eq i topic key payload
  rw [hpublish]

theorem size_spawn (g : ReplicaGroup) (i : Nat) : (g.spawn i).2.members.size = g.members.size := by
  rcases g.spawn_cases i with ⟨_, -, hspawn⟩ | ⟨_, -, hspawn⟩
  · rw [hspawn]
    rfl
  · rw [hspawn]
    exact ReplicaGroup.size_members_setMember ..

/-- In each state that can come about every message received has been handled, once. -/
theorem Reachable.handled (h : j.Reachable) : j.Handled := by
  -- only loops receive and handle messages: all other moves leave both as they are
  induction h with
  | start transports replicas =>
    intro i _
    rw [ReplicaGroup.member, Array.getD_eq_getD_getElem?, Array.getElem?_map]
    cases replicas[i]? with
    | none => exact Synchronizer.digests_new _
    | some replica => exact Synchronizer.digests_new replica.1
  | @register j i urn registration _ ih =>
    exact ih.frame (j.group.size_members_setContext i _) (idle_publishChange _ i _)
  | @deregister j i urn _ ih =>
    exact ih.frame (j.group.size_members_setContext i _) (idle_publishChange _ i _)
  | @publishChange j i event _ ih =>
    exact ih.frame (j.group.size_members_setContext i _) (idle_publishChange _ i _)
  | publishRaw i topic key payload _ ih =>
    exact ih.frame (size_publishRaw ..) (idle_publishRaw _ i topic key payload)
  | spawn i _ ih => exact ih.frame (size_spawn ..) (idle_spawn _ i)
  | works _ hworks ih => exact hworks.handled ih
  | transport i f _ ih => exact ih.frame rfl fun _ => .refl _
  | @signal j i f _ ih => exact ih.frame (j.group.size_members_setMember i _) (idle_setMember rfl)
  | advance time _ ih => exact ih.frame rfl fun _ => .refl _

/-- A loop that takes a message hands it to the synchronizer and stays as it is. -/
private theorem stepLoop_of_takes? {g : ReplicaGroup} {n i : Nat} {m : BusMessage}
    (h : g.takes? n = some (i, m)) :
    ∃ s transport, (g.transport i).receive s = (.message m, transport) ∧
      g.stepLoop n = g.setContext i ⟨((g.member i).sync.handle m g.metrics).1, transport,
        ((g.member i).sync.handle m g.metrics).2⟩ := by
  have hadvances := g.advances_stepLoop n
  rw [h] at hadvances
  generalize g.stepLoop n = g' at hadvances ⊢
  generalize htaken : some (i, m) = received at hadvances
  -- a step in which a message is received is that of a loop that takes it
  cases hadvances with
  | wait => cases htaken
  | @loop before after l l' taken c hloops hdoes =>
    obtain ⟨m', rfl, heq⟩ := Option.map_eq_some_iff.mp htaken.symm
    obtain ⟨rfl, rfl⟩ := Prod.mk.inj heq
    cases hdoes with
    | @take s _ transport _ _ hreceive =>
      refine ⟨s, transport, hreceive, ?_⟩
      rw [← hloops]
      rfl

/-! ### What holds in each state -/

/-- Writers publish, and only loops apply. -/
structure Lawful (j : Journal) : Prop where
  register : ∀ i, i < j.group.members.size → ∀ bus, j.group.transport i = .memory bus →
    ∀ urn registration,
      j.group.Writes i bus (.register (registration.bind urn)) (registration.bind urn)
        (j.group.register i urn registration)
  deregister : ∀ i, i < j.group.members.size → ∀ bus, j.group.transport i = .memory bus → ∀ urn,
    j.group.Writes i bus (.deregister urn) ((j.group.member i).sync.registry.lookup urn).isSome
      (j.group.deregister i urn)
  /-- The counts are those of the messages received. -/
  counted : ∀ i, i < j.group.members.size →
    (j.group.member i).sync.eventsApplied + (j.group.member i).sync.decodeFailures =
      (j.receivedBy i).length
  /-- The registry is made of the events among them. -/
  folded : ∀ i, i < j.group.members.size → (j.group.member i).sync.registry =
    Registry.empty.applyAll (RegistryEvent.decodeAll (j.receivedBy i))
  /-- A message that holds no event is counted and changes nothing else, not even the loop. -/
  undecodable : ∀ n i m e, j.group.takes? n = some (i, m) →
    RegistryEvent.decode m.payload = .error e →
    ∃ s transport, (j.group.transport i).receive s = (.message m, transport) ∧
      j.group.stepLoop n = j.group.setContext i ⟨
        { (j.group.member i).sync with
          decodeFailures := (j.group.member i).sync.decodeFailures + 1 },
        transport, j.group.metrics.countDecodeFailure⟩

/-- Whatever is done with replicas and their loops: a writer hands at most one message to the bus
and changes no registry, and each replica has handled what its loops have received. -/
theorem lawful_of_reachable (h : j.Reachable) : j.Lawful where
  register i hi bus hbus urn registration := j.group.writes_register hi hbus urn registration
  deregister i hi bus hbus urn := j.group.writes_deregister hi hbus urn
  counted i hi := (h.handled i hi).handled
  folded i hi := (h.handled i hi).registry
  undecodable n i m e htakes hdecode := by
    obtain ⟨s, transport, hreceive, hstep⟩ := stepLoop_of_takes? htakes
    rw [Synchronizer.handle_of_error hdecode] at hstep
    exact ⟨s, transport, hreceive, hstep⟩

/-- A replica has received the registration of a service and a message that holds no event. -/
theorem lawful_of_reachable_garbage :
    ∃ j : Journal, j.Reachable ∧ j.Lawful ∧ (j.receivedBy 0).length = 2 ∧
      (j.group.member 0).sync.eventsApplied = 1 ∧ (j.group.member 0).sync.decodeFailures = 1 ∧
      ((j.group.member 0).sync.registry.lookup ⟨"a", "b"⟩).isSome := by
  have hstart := Reachable.start #[.memory { config := default }] #[(default, 0)]
  have hregister := (hstart.spawn 0).register 0 ⟨"a", "b"⟩ {}
  have hgarbage := (hregister.works (.loop 0 .refl)).publishRaw 0 "services" "" []
  have hrun := hgarbage.works (.loop 0 .refl)
  refine ⟨_, hrun, lawful_of_reachable hrun, ?_, ?_, ?_, ?_⟩
  all_goals decide +kernel

end Journal

end ServiceBroker
