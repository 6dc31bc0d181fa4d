import ServiceBroker.Proofs.Cluster.Operations
import ServiceBroker.Proofs.Config.Validation
import ServiceBroker.Proofs.Delivery.Bookkeeping.Pushes

/-!
# Settings with which a replica starts

A replica refuses numbers and spans of zero when it is made. The channels that it is built of have
an upper bound too: beyond it no bus can keep messages and no live channel can buffer frames, and a
process that asks for such a channel panics. The checks say nothing about the upper end. So a
replica starts with settings that it does not refuse if and only if they keep to these bounds as
well.

## Main definitions

* `Node.IsFitted`: the live channels of a replica buffer what its settings say;
* `BrokerConfig.Starts`: a replica can be made, started and asked for live channels.

## Main results

* `Process.fitted_step`: nothing that happens in a process changes what live channels buffer;
* `BrokerConfig.starts_iff`: the settings with which a replica starts.
-/

namespace ServiceBroker

open WebSocket (Session)

/-! ## Buffers of live channels -/

section Buffers

namespace LiveChannels

/-- A live channel can be opened if a channel can have its buffer. -/
theorem isSome_connect_iff {l : LiveChannels} {consumer : Urn} :
    (l.connect consumer).isSome ↔ l.capacity ≤ largestCapacity := by
  unfold connect
  split
  next h => simpa using h
  next h => simpa using h

theorem capacity_of_connect {l l' : LiveChannels} {consumer : Urn} {n : Nat}
    (h : l.connect consumer = some (n, l')) : l'.capacity = l.capacity := by
  unfold connect at h
  split at h
  · cases h
  · cases h
    rfl

end LiveChannels

/-- The live channels of a replica buffer as many frames as its settings say, but at least one. -/
def Node.IsFitted (n : Node) : Prop :=
  n.channels.capacity = max n.config.gateway.liveChannelBuffer 1

namespace Cluster

variable {c c' : Cluster} {i j : Nat}

/-- Changing a replica that stays fitted. -/
theorem isFitted_of_modify {f : Node → Node} (h : ∀ i, (c.node i).IsFitted)
    (hnodes : c'.nodes = c.nodes.modify j f) (hf : (f (c.node j)).IsFitted) (i : Nat) :
    (c'.node i).IsFitted := by
  rcases node_of_modify hnodes i with hsame | ⟨rfl, hset⟩
  · rw [hsame]
    exact h i
  · rw [hset]
    exact hf

theorem isFitted_setChannels (h : ∀ i, (c.node i).IsFitted) {channels : LiveChannels}
    (hcapacity : channels.capacity = (c.node j).channels.capacity) (i : Nat) :
    ((c.setChannels j channels).node i).IsFitted :=
  isFitted_of_modify (f := fun n => { n with channels }) h rfl (hcapacity.trans (h j)) i

private theorem isFitted_add (h : ∀ i, (c.node i).IsFitted) {config : BrokerConfig}
    (hadd : c.add config = .ok c') (i : Nat) : (c'.node i).IsFitted := by
  rw [node_add hadd]
  split
  · exact rfl
  · exact h i

end Cluster

namespace Process

variable {workers : Nat} {p p' : Process}

/-- Nothing that happens in a process changes what live channels buffer. -/
theorem fitted_step (h : ∀ i, (p.cluster.node i).IsFitted) (hstep : p.Step workers p')
    (i : Nat) : (p'.cluster.node i).IsFitted := by
  cases hstep with
  | add hadd => exact Cluster.isFitted_add h hadd i
  | @start j hj =>
    rcases p.cluster.start_cases j with ⟨-, hsame⟩ | ⟨-, ⟨-, hrefused⟩ | ⟨-, hstarted⟩⟩
    · rw [hsame]
      exact h i
    · rw [hrefused]
      exact h i
    · rw [hstarted]
      exact Cluster.isFitted_of_modify (f := fun n => { n with isStarted := true }) h rfl (h j) i
  | publishChange | publishRaw | transport | works | signal | advance | sessions | deliver
  | count | gauge => exact h i
  | isStarted j isStarted =>
    exact Cluster.isFitted_of_modify (f := fun n => { n with isStarted }) h rfl (h j) i
  | subscription j operation =>
    exact Cluster.isFitted_of_modify
      (f := fun n => { n with index := (operation.perform n.index).2 }) h rfl (h j) i
  | connect _ _ _ hconnect =>
    exact Cluster.isFitted_setChannels h (LiveChannels.capacity_of_connect hconnect) i
  | receive => exact Cluster.isFitted_setChannels h LiveChannels.capacity_receive i
  | drop => exact Cluster.isFitted_setChannels h LiveChannels.capacity_drop i
  | push => exact Cluster.isFitted_setChannels h (Push.step_act ..).capacity_eq i
  | @finish _ call report =>
    exact Cluster.isFitted_of_modify (j := call.replica)
      (f := fun n => { n with
        index := (p.cluster.node call.replica).index
        channels := (p.cluster.node call.replica).channels }) h rfl (h call.replica) i
  | abandon =>
    exact Cluster.isFitted_setChannels h
      (actsAll_eq (fun _ _ _ => (Push.step_act ..).capacity_eq) _ _ _) i

/-- At any time live channels buffer what the settings say. -/
theorem fitted_of_reachable (h : p.Reachable workers) (i : Nat) : (p.cluster.node i).IsFitted := by
  obtain ⟨shared, exposed, hsteps⟩ := h
  induction hsteps generalizing i with
  | refl => cases shared <;> exact rfl
  | tail _ hstep ih => exact fitted_step ih hstep i

end Process

/-- At any time a live channel can be opened if a channel can have the buffer that the settings
say. -/
theorem Cluster.isSome_connect_iff {c : Cluster} (h : c.Reachable) {i : Nat} {consumer : Urn} :
    (c.connect i consumer).isSome ↔
      (c.node i).config.gateway.liveChannelBuffer ≤ LiveChannels.largestCapacity := by
  obtain ⟨p, hreachable, rfl, -⟩ := h.exists_process
  have hfitted : (p.cluster.node i).channels.capacity =
    max (p.cluster.node i).config.gateway.liveChannelBuffer 1 :=
      Process.fitted_of_reachable hreachable i
  have hone : 1 ≤ LiveChannels.largestCapacity := by decide
  rw [connect, Option.isSome_map, LiveChannels.isSome_connect_iff, hfitted, max_le_iff]
  exact and_iff_left hone

end Buffers

/-! ## The start of a replica -/

section Start

/-- A bus on which nothing has happened takes a subscription if its channels can exist. -/
private theorem Transport.subscribe_fresh (config : BusConfig) (topic : String) :
    ((memory { config }).subscribe topic).1.map (fun _ => ()) =
      if InMemoryBus.canOpen config then .ok () else .error .impossibleCapacity := by
  have hnone : (∅ : Std.ExtTreeMap String (Broadcast BusMessage))[topic]? = none :=
    Std.ExtTreeMap.getElem?_empty
  unfold subscribe InMemoryBus.subscribe
  simp only [hnone]
  cases InMemoryBus.canOpen config <;> rfl

namespace Cluster

variable {c c' : Cluster} {config : BrokerConfig}

/-- A replica is made if it does not refuse its settings. -/
theorem exists_add_iff : (∃ c', c.add config = .ok c') ↔ config.validate = .ok () := by
  constructor
  · rintro ⟨c', hadd⟩
    obtain ⟨_, hvalid, -⟩ := Json.exists_of_bind_eq_ok hadd
    exact hvalid
  · intro hvalid
    rw [add, hvalid]
    exact ⟨_, rfl⟩

/-- A replica that has not been started starts if it can subscribe. -/
private theorem start_eq_subscribe {i : Nat} (hstarted : (c.node i).isStarted = false) :
    (c.start i).1 =
      ((c.group.transport i).subscribe (c.group.member i).sync.config.topic).1.map fun _ => () := by
  unfold start
  rw [hstarted]
  rcases c.group.spawn_cases i with ⟨_, hsubscribe, hspawn⟩ | ⟨_, hsubscribe, hspawn⟩
  · rw [hsubscribe, hspawn]
    rfl
  · rw [hsubscribe, hspawn]
    rfl

section Own

variable (hsize : c.group.members.size = c.nodes.size) (hown : c.shared = none)
  (hadd : c.add config = .ok c')

include hsize hown hadd

theorem member_add : c'.group.member c.nodes.size =
    { sync := { config := config.sync }, transport := c.group.transports.size } := by
  rcases add_cases hadd with ⟨place, hplace, -⟩ | ⟨-, rfl⟩
  · cases hown.symm.trans hplace
  · simp [added, ReplicaGroup.member, ← hsize]

/-- A replica that does not share a bus has one on which nothing has happened. -/
theorem transport_add : c'.group.transport c.nodes.size = .memory { config := config.bus } := by
  rw [ReplicaGroup.transport, member_add hsize hown hadd]
  rcases add_cases hadd with ⟨place, hplace, -⟩ | ⟨-, rfl⟩
  · cases hown.symm.trans hplace
  · simp [added]

/-- A replica with a bus of its own starts if channels of the capacity of the bus can exist. -/
theorem start_add : (c'.start c.nodes.size).1 =
    if InMemoryBus.canOpen config.bus then .ok () else .error .impossibleCapacity := by
  rw [start_eq_subscribe (by rw [node_add_self hadd]; rfl), transport_add hsize hown hadd]
  exact Transport.subscribe_fresh _ _

end Own

/-- A session that has a live channel pings at the interval of the settings, and is over at once
only if shutdown has been signalled. -/
theorem exists_openSession {i : Nat} {consumer : Urn}
    (hconnect : (c.connect i consumer).isSome) :
    ∃ s, (c.openSession i consumer).2.sessions[(c.openSession i consumer).1]? = some s ∧
      s.period = (c.node i).config.gateway.pingInterval ∧
      s.hasEnded = (c.group.member i).signal.raised := by
  obtain ⟨⟨connection, channels⟩, hchannels⟩ :=
    Option.isSome_iff_exists.mp (Option.isSome_map.symm.trans hconnect)
  have hopened : connect { c with nextSession := c.nextSession + 1 } i consumer =
      some (connection, (setChannels { c with nextSession := c.nextSession + 1 } i
        channels).gaugeLive i) :=
    congrArg (Option.map _) hchannels
  unfold openSession
  simp only [hopened]
  refine ⟨_, Std.ExtTreeMap.getElem?_insert_self, ?_⟩
  unfold Session.start Session.finish Session.send
  split
  next hraised => exact ⟨rfl, hraised.symm⟩
  next hraised => exact ⟨rfl, (Bool.eq_false_of_not_eq_true hraised).symm⟩

end Cluster

/-! ## What settings promise -/

/-- A replica starts with the settings. -/
structure BrokerConfig.Starts (config : BrokerConfig) : Prop where
  /-- It is made, whatever its process has done before. -/
  make : ∀ c : Cluster, c.Reachable → ∃ c', c.add config = .ok c'
  /-- It subscribes to the changes of the registry, if it has a bus of its own. -/
  start : ∀ c c' : Cluster, c.Reachable → c.shared = none → c.add config = .ok c' →
    (c'.start c.nodes.size).1 = .ok ()
  /-- Its gateway does not refuse the settings either. -/
  gateway : config.gateway.validate = .ok ()
  /-- At any time it can open a live channel for any consumer. -/
  connect : ∀ (c : Cluster) (i : Nat) (consumer : Urn), c.Reachable → i < c.nodes.size →
    (c.node i).config = config → (c.connect i consumer).isSome
  /-- At any time it can open a session for any consumer, which pings at an interval and is not over
  before shutdown has been signalled. -/
  session : ∀ (c : Cluster) (i : Nat) (consumer : Urn), c.Reachable → i < c.nodes.size →
    (c.node i).config = config →
    ∃ s, (c.openSession i consumer).2.sessions[(c.openSession i consumer).1]? = some s ∧
      s.period.isZero = false ∧ s.hasEnded = (c.group.member i).signal.raised

namespace BrokerConfig

variable {config : BrokerConfig}

/-- The bus of a replica that starts can keep what it is asked to. -/
theorem Starts.capacity_le (h : config.Starts) : config.bus.capacity ≤ largestSize / 2 := by
  have hempty := Cluster.Reachable.empty none false
  obtain ⟨c', hadd⟩ := h.make _ hempty
  have hstarts := h.start _ c' hempty rfl hadd
  rw [Cluster.start_add rfl rfl hadd] at hstarts
  by_contra hlarge
  rw [if_neg (by simp [InMemoryBus.canOpen, hlarge])] at hstarts
  cases hstarts

/-- The live channels of a replica that starts can buffer what they are asked to. -/
theorem Starts.liveChannelBuffer_le (h : config.Starts) :
    config.gateway.liveChannelBuffer ≤ LiveChannels.largestCapacity := by
  have hempty := Cluster.Reachable.empty none false
  obtain ⟨c', hadd⟩ := h.make _ hempty
  have hreachable := hempty.add hadd
  have hnode := Cluster.node_add_self hadd
  have hsize : (Cluster.empty none false).nodes.size < c'.nodes.size := by
    rw [Cluster.size_add hadd]
    exact Nat.lt_succ_self _
  have hconnect := h.connect c' _ ⟨"a", "b"⟩ hreachable hsize (by rw [hnode]; rfl)
  rw [Cluster.isSome_connect_iff hreachable, hnode] at hconnect
  exact hconnect

/-- A replica starts if and only if it does not refuse the settings, its bus can keep as many
messages as they say, and its live channels can buffer as many frames. -/
theorem starts_iff (config : BrokerConfig) : config.Starts ↔
    config.validate = .ok () ∧ config.bus.capacity ≤ largestSize / 2 ∧
      config.gateway.liveChannelBuffer ≤ LiveChannels.largestCapacity := by
  constructor
  · intro h
    exact ⟨Cluster.exists_add_iff.mp (h.make _ (.empty none false)), h.capacity_le,
      h.liveChannelBuffer_le⟩
  · rintro ⟨hvalid, hcapacity, hbuffer⟩
    obtain ⟨hgateway, -, -, -, hbus⟩ := validate_eq_ok_iff.mp hvalid
    obtain ⟨-, -, -, -, -, hping⟩ := GatewayConfig.validate_eq_ok_iff.mp hgateway
    have hconnect {c : Cluster} {i : Nat} (consumer : Urn) (hc : c.Reachable)
        (hconfig : (c.node i).config = config) : (c.connect i consumer).isSome := by
      rw [Cluster.isSome_connect_iff hc, hconfig]
      exact hbuffer
    refine ⟨fun c _ => Cluster.exists_add_iff.mpr hvalid, fun c c' hc hown hadd => ?_, hgateway,
      fun c i consumer hc _ hconfig => hconnect consumer hc hconfig,
      fun c i consumer hc _ hconfig => ?_⟩
    · -- a replica on a bus of its own is the first to subscribe there
      obtain ⟨p, hp, rfl, -⟩ := hc.exists_process
      rw [Cluster.start_add (Process.audited_of_reachable hp).size hown hadd]
      exact if_pos (by simp [InMemoryBus.canOpen, hcapacity, Nat.pos_of_ne_zero hbus])
    · obtain ⟨s, hs, hperiod, hended⟩ :=
        Cluster.exists_openSession (hconnect consumer hc hconfig)
      refine ⟨s, hs, ?_, hended⟩
      rw [hperiod, hconfig]
      exact hping

/-- Nothing is refused of a bus and of live channels too large to be, but no replica starts with
them. -/
theorem not_starts_tooLarge :
    let withBus : BrokerConfig := { bus := { capacity := 0x8000000000000000 } }
    let withBuffer : BrokerConfig := { gateway := { liveChannelBuffer := 0x2000000000000000 } }
    withBus.validate = .ok () ∧ ¬withBus.Starts ∧
      withBuffer.validate = .ok () ∧ ¬withBuffer.Starts := by
  refine ⟨rfl, fun h => absurd h.capacity_le ?_, rfl, fun h => absurd h.liveChannelBuffer_le ?_⟩
  all_goals decide

end BrokerConfig

end Start

end ServiceBroker
