import ServiceBroker.Proofs.Cluster.Settling
import ServiceBroker.Proofs.Delivery.Reports
import ServiceBroker.Proofs.Gateway.Requests
import ServiceBroker.Proofs.Replication.Run

/-!
# Clients are confined to their own identity

Whatever a client sends, it acts under the URN of its certificate alone: it changes no subscription
but its own, announces no service but its own, opens no live channel but its own, and its
notifications carry its URN. Without a valid identity it changes nothing at all.

- `SubscriptionIndex.AgreesExcept`: nobody else's subscriptions have changed;
- `Cluster.ConfinedTo`: all that has happened to a cluster was done in the name of one client;
- `Cluster.serve_confined`: every request is confined to its caller.
-/

namespace ServiceBroker

/-! ## Subscriptions -/

namespace SubscriptionIndex

/-- Two indices say the same about everybody but one consumer. -/
structure AgreesExcept (consumer : Urn) (before after : SubscriptionIndex) : Prop where
  /-- Nobody else holds more or less than before. -/
  consumers : ∀ other, other ≠ consumer → after.consumers[other]? = before.consumers[other]?
  /-- Nobody else is matched by more or fewer notifications than before. -/
  entered : ∀ other, other ≠ consumer → ∀ topic,
    Entered after.topics other topic ↔ Entered before.topics other topic

variable {consumer : Urn} {index before middle after : SubscriptionIndex}

theorem AgreesExcept.refl (consumer : Urn) (index : SubscriptionIndex) :
    AgreesExcept consumer index index :=
  ⟨fun _ _ => rfl, fun _ _ _ => .rfl⟩

theorem AgreesExcept.trans (h : AgreesExcept consumer before middle)
    (h' : AgreesExcept consumer middle after) : AgreesExcept consumer before after :=
  ⟨fun other hne => (h'.consumers other hne).trans (h.consumers other hne),
    fun other hne topic => (h'.entered other hne topic).trans (h.entered other hne topic)⟩

private theorem agreesExcept_enter (scope : Scope) (new : DescriptorMap) :
    AgreesExcept consumer index (index.enter consumer scope new) where
  consumers other hne := by rw [consumers_enter, if_neg (Ne.symm hne)]
  entered other hne topic := by simp [enter, entered_attachAll, hne]

private theorem agreesExcept_withdraw (scope : Scope) (gone : List Descriptor.Key)
    (left : DescriptorMap) :
    AgreesExcept consumer index (index.withdraw consumer scope gone left) where
  consumers other hne := by rw [consumers_withdraw, if_neg (Ne.symm hne)]
  entered other hne topic := by simp [withdraw, entered_detachAll, hne]

private theorem agreesExcept_removeAll (index : SubscriptionIndex) (consumer : Urn) :
    AgreesExcept consumer index (index.removeAll consumer).2 := by
  unfold removeAll
  split
  · exact .refl consumer index
  next holding _ =>
    refine ⟨fun other hne => ?_, fun other hne topic => entered_detachAll.trans (by simp [hne])⟩
    simp [Std.ExtTreeMap.getElem?_erase, Ne.symm hne]

/-- An operation is about nobody but the consumer that asks for it. -/
theorem agreesExcept_perform (operation : Operation) (index : SubscriptionIndex) :
    AgreesExcept operation.consumer index (operation.perform index).2 := by
  -- what is refused changes nothing, and the rest concerns the entry of the consumer
  cases operation with
  | add consumer scope descriptors =>
    simp only [Operation.perform]
    split
    next h =>
      rcases add_cases h with ⟨-, -, rfl⟩ | ⟨-, -, -, -, -, rfl⟩
      · exact .refl ..
      · exact agreesExcept_enter ..
    next => exact .refl ..
  | remove consumer scope descriptors =>
    simp only [Operation.perform]
    split
    next h =>
      rcases remove_cases h with rfl | ⟨held, -, rfl⟩
      · exact .refl ..
      · exact agreesExcept_withdraw ..
    next => exact .refl ..
  | removeAll consumer => exact agreesExcept_removeAll index consumer

end SubscriptionIndex

/-! ## Messages and frames -/

/-- The message announces a change of the service of a URN, under that URN. -/
def BusMessage.Announces (m : BusMessage) (urn : Urn) : Prop :=
  m.key = urn.display ∧ ∃ event : RegistryEvent, event.urn = urn ∧ m.payload = event.encode

/-- The frame carries a notification of the producer. -/
def IsFrameOf (producer : Urn) (frame : Bytes) : Prop :=
  ∃ notification : Notification, frame = (notification.envelope producer).frame

/-- Publishing a change announces the service that the event is about. -/
private theorem Synchronizer.trace_publishChange (s : Synchronizer) (event : RegistryEvent)
    (transport : Transport) (metrics : Metrics) :
    ∃ published, transport.Trace published
        (s.publishChange event transport metrics).transport ∧
      ∀ m ∈ published, m.Announces event.urn := by
  cases h : transport.publish s.config.topic event.key event.encode with
  | error cause =>
    rw [publishChange_of_error h]
    exact ⟨[], .start, fun m hm => absurd hm List.not_mem_nil⟩
  | ok accepted =>
    rw [publishChange_of_ok h]
    have htrace : transport.Trace ([] ++ [⟨s.config.topic, event.key, event.encode⟩]) accepted.2 :=
      .publish _ .start h
    refine ⟨_, htrace, fun m hm => ?_⟩
    obtain rfl := List.mem_singleton.mp hm
    exact ⟨rfl, event, rfl, rfl⟩

namespace Dispatch

/-- The pushes of a delivery carry its frame and no other. -/
private theorem trace_startAll (now : Nat) (frame : Bytes) (consumers : List Urn)
    (channels : LiveChannels) :
    ∃ pushed, channels.Trace [] pushed (startAll .live now frame consumers channels).2 ∧
      ∀ push ∈ pushed, push.2 = frame := by
  induction consumers generalizing channels with
  | nil => exact ⟨[], .start, fun _ h => absurd h List.not_mem_nil⟩
  | cons consumer consumers ih =>
    -- a push reaches the connection of its consumer, if there is one
    have hpush : ∃ pushed,
        channels.Trace [] pushed (startPush .live now frame channels consumer).2 ∧
        ∀ push ∈ pushed, push.2 = frame := by
      rw [startPush_live, LiveChannels.push]
      split
      · exact ⟨[], .start, fun _ h => absurd h List.not_mem_nil⟩
      next connection _ =>
        have htrace : channels.Trace [] ([] ++ [(connection, frame)])
            (channels.pushTo connection frame).2 := .pushTo connection frame .start
        refine ⟨_, htrace, fun push h => ?_⟩
        rw [List.mem_singleton.mp h]
    obtain ⟨pushed, htrace, hframe⟩ := hpush
    obtain ⟨pushed', htrace', hframe'⟩ := ih (startPush .live now frame channels consumer).2
    refine ⟨pushed ++ pushed', htrace.trans htrace', fun push h => ?_⟩
    exact (List.mem_append.mp h).elim (hframe push) (hframe' push)

theorem trace_start (config : DeliveryConfig) (index : SubscriptionIndex) (now : Nat)
    (producer : Urn) (notification : Notification) (channels : LiveChannels) :
    ∃ pushed, channels.Trace [] pushed
        (start config index .live now producer notification channels).2 ∧
      ∀ push ∈ pushed, IsFrameOf producer push.2 := by
  obtain ⟨pushed, htrace, hframe⟩ := trace_startAll now (notification.envelope producer).frame
    (index.subscribers producer notification.descriptor.key) channels
  exact ⟨pushed, htrace, fun push h => ⟨notification, hframe push h⟩⟩

end Dispatch

/-! ## Requests at a replica -/

/-- All that has happened to a replica was done in the name of one client. -/
structure Replica.ConfinedTo (caller : Urn) (before after : Replica) : Prop where
  index : SubscriptionIndex.AgreesExcept caller before.index after.index
  transport : ∃ published, before.transport.Trace published after.transport ∧
    ∀ m ∈ published, m.Announces caller
  channels : ∃ pushed, before.channels.Trace [] pushed after.channels ∧
    ∀ push ∈ pushed, IsFrameOf caller push.2

theorem Replica.ConfinedTo.refl (caller : Urn) (replica : Replica) :
    ConfinedTo caller replica replica :=
  ⟨.refl .., ⟨[], .start, fun _ h => absurd h List.not_mem_nil⟩,
    ⟨[], .start, fun _ h => absurd h List.not_mem_nil⟩⟩

/-- What is done in the name of a caller is confined to it. -/
theorem Gateway.Served.confinedTo {replica after : Replica} {caller : Urn} {reply : Gateway.Reply}
    (h : Gateway.Served replica caller reply after) :
    Replica.ConfinedTo caller replica after := by
  have hsame := Replica.ConfinedTo.refl caller replica
  cases h with
  | read => exact hsame
  | subscribed _ operation hconsumer =>
    exact { hsame with index := hconsumer ▸ SubscriptionIndex.agreesExcept_perform .. }
  | published _ event hurn =>
    exact { hsame with transport := hurn ▸ Synchronizer.trace_publishChange .. }
  | delivering notification =>
    exact { hsame with channels := Dispatch.trace_start replica.config.delivery .. }
  | delivered _ notification =>
    exact { hsame with channels := Dispatch.trace_start replica.config.delivery .. }
  | upgrade => exact hsame

/-! ## Requests in a cluster -/

namespace Cluster

/-- All that has happened to a cluster was done in the name of one client, apart from what goes on
by itself. -/
structure ConfinedTo (caller : Urn) (before after : Cluster) : Prop where
  /-- On no replica have the subscriptions of anybody else changed. -/
  index : ∀ i, SubscriptionIndex.AgreesExcept caller (before.node i).index (after.node i).index
  /-- Every message published announces the service of the client. -/
  transport : ∀ place, ∃ published,
    (before.group.transportAt place).Trace published (after.group.transportAt place) ∧
      ∀ m ∈ published, m.Announces caller
  /-- Every live channel opened belongs to the client, and every frame pushed is its own. -/
  channels : ∀ i, ∃ opened pushed,
    (before.node i).channels.Trace opened pushed (after.node i).channels ∧
      (∀ consumer ∈ opened, consumer = caller) ∧ ∀ push ∈ pushed, IsFrameOf caller push.2

variable {caller : Urn} {c c' c'' : Cluster} {i : Nat}

theorem Undisturbed.confinedTo (h : c.Undisturbed c') (caller : Urn) : ConfinedTo caller c c' where
  index j := by
    rw [h.index]
    exact .refl ..
  transport place := ⟨[], h.transport place, fun _ h => absurd h List.not_mem_nil⟩
  channels j := ⟨[], [], h.channels j, fun _ h => absurd h List.not_mem_nil,
    fun _ h => absurd h List.not_mem_nil⟩

theorem ConfinedTo.trans (h : ConfinedTo caller c c') (h' : ConfinedTo caller c' c'') :
    ConfinedTo caller c c'' where
  index j := (h.index j).trans (h'.index j)
  transport place := by
    obtain ⟨published, htrace, hown⟩ := h.transport place
    obtain ⟨published', htrace', hown'⟩ := h'.transport place
    exact ⟨_, htrace.trans htrace', fun m hm => (List.mem_append.mp hm).elim (hown m) (hown' m)⟩
  channels j := by
    obtain ⟨opened, pushed, htrace, hopened, hpushed⟩ := h.channels j
    obtain ⟨opened', pushed', htrace', hopened', hpushed'⟩ := h'.channels j
    exact ⟨_, _, htrace.trans htrace',
      fun o ho => (List.mem_append.mp ho).elim (hopened o) (hopened' o),
      fun p hp => (List.mem_append.mp hp).elim (hpushed p) (hpushed' p)⟩

/-- Every live channel was there before or belongs to the client. -/
theorem ConfinedTo.owner? (h : ConfinedTo caller c c') {n : Nat} {consumer : Urn}
    (hn : (c'.node i).channels.owner? n = some consumer) :
    (c.node i).channels.owner? n = some consumer ∨ consumer = caller := by
  obtain ⟨opened, pushed, htrace, hopened, -⟩ := h.channels i
  exact (htrace.owner? hn).imp id (hopened consumer)

/-- Every frame that a connection will hand out was pushed before or is one of the client. -/
theorem ConfinedTo.mem_queue (h : ConfinedTo caller c c') {n : Nat} {frame : Bytes}
    (hframe : frame ∈ (c'.node i).channels.queue n) :
    frame ∈ (c.node i).channels.queue n ∨ IsFrameOf caller frame := by
  obtain ⟨opened, pushed, htrace, -, hpushed⟩ := h.channels i
  exact (htrace.mem_queue hframe).imp id (hpushed (n, frame))

/-- Nothing has happened to a replica that is put back as it was taken. -/
theorem setReplica_replica (c : Cluster) (i : Nat) : c.setReplica i (c.replica i) = c := by
  unfold setReplica replica
  dsimp only
  rw [c.group.setContext_self i, c.modify_self i]

/-- A replica is put back after a request that was confined to its caller. -/
theorem confinedTo_setReplica {replica : Replica}
    (h : Replica.ConfinedTo caller (c.replica i) replica) :
    ConfinedTo caller c (c.setReplica i replica) := by
  -- everywhere but at this replica and its transport nothing changes
  have hnode := c.node_setReplica i replica
  have hsame := (Undisturbed.refl c).confinedTo caller
  constructor
  case index =>
    intro j
    rcases hnode j with heq | ⟨rfl, heq⟩
    · rw [heq]
      exact hsame.index j
    · rw [heq]
      exact h.index
  case transport =>
    intro place
    rcases c.group.transportAt_setContext i ⟨replica.sync, replica.transport, replica.metrics⟩ place
      with heq | ⟨rfl, heq⟩
    · obtain ⟨published, htrace, hown⟩ := hsame.transport place
      exact ⟨published, heq ▸ htrace, hown⟩
    · obtain ⟨published, htrace, hown⟩ := h.transport
      exact ⟨published, heq ▸ htrace, hown⟩
  case channels =>
    intro j
    rcases hnode j with heq | ⟨rfl, heq⟩
    · rw [heq]
      exact hsame.channels j
    · obtain ⟨pushed, htrace, hown⟩ := h.channels
      exact ⟨[], pushed, heq ▸ htrace, fun _ h => absurd h List.not_mem_nil, hown⟩

theorem confinedTo_connect {connection : Nat} (h : c.connect i caller = some (connection, c')) :
    ConfinedTo caller c c' := by
  obtain ⟨channels, hconnect, rfl⟩ := Cluster.exists_of_connect h
  have hnode := c.node_setChannels i channels
  have hsame := (Undisturbed.refl c).confinedTo caller
  constructor
  case index =>
    intro j
    show SubscriptionIndex.AgreesExcept caller _ ((c.setChannels i channels).node j).index
    rcases hnode j with heq | ⟨rfl, heq⟩
    · rw [heq]
      exact hsame.index j
    · rw [heq]
      exact hsame.index i
  case transport => exact hsame.transport
  case channels =>
    intro j
    show ∃ opened pushed, LiveChannels.Trace _ opened pushed
      ((c.setChannels i channels).node j).channels ∧ _
    rcases hnode j with heq | ⟨rfl, heq⟩
    · rw [heq]
      exact hsame.channels j
    · rw [heq]
      -- the only channel that is opened is that of the caller
      have htrace : (c.node i).channels.Trace ([] ++ [caller]) [] channels :=
        .connect .start hconnect
      exact ⟨_, _, htrace, fun o ho => List.mem_singleton.mp ho,
        fun _ h => absurd h List.not_mem_nil⟩

/-- A session is opened for nobody but the client that asked for it. -/
theorem confinedTo_openSession (c : Cluster) (i : Nat) (caller : Urn) :
    ConfinedTo caller c (c.openSession i caller).2 := by
  rcases c.openSession_cases i caller with
    ⟨_, _, hopened⟩ | ⟨_, opened, _, nextSession, sessions, hconnect, hreads, hopened⟩
  · rw [hopened]
    exact (settled_sessions ..).toUndisturbed.confinedTo caller
  · have hsettled := (settled_settleChannels hreads.trace).trans
      (settled_sessions _ sessions nextSession)
    rw [hopened]
    exact (confinedTo_connect hconnect).trans (hsettled.toUndisturbed.confinedTo caller)

/-- A request is seen through in the name of its caller. -/
theorem confinedTo_complete {deadline : Nat} {reply : Gateway.Reply}
    (hreply : ∀ consumer, reply = .upgrade consumer → consumer = caller) :
    ConfinedTo caller c (c.complete i deadline reply).2 := by
  cases reply with
  | answer response =>
    rw [complete]
    exact (Undisturbed.refl c).confinedTo caller
  | upgrade consumer =>
    rw [complete, Prod.map_snd, id, hreply consumer rfl]
    exact confinedTo_openSession ..
  | delivering d =>
    rw [complete, Prod.map_snd, id]
    exact (undisturbed_awaitDelivery ..).confinedTo caller

/-- Every request to a resource that is not public is confined to its caller: one without a valid
identity is refused and changes nothing in the whole cluster; and all that is done for one of a
known caller, until it is answered, is done in the name of this caller. -/
theorem serve_confined (c : Cluster) (i : Nat) (r : Http.Request) (canUpgrade : Bool)
    (hprivate : ∀ resource, Gateway.Resource.ofPath? r.path = some resource →
      ¬resource.IsPublic) :
    match Gateway.callerOf (c.node i).config.gateway.identityHeader r with
    | .error _ => ∃ response, c.serve i r canUpgrade = (.error response, c) ∧
        ¬Gateway.Grants response
    | .ok caller => ConfinedTo caller c (c.serve i r canUpgrade).2 := by
  cases hcaller : Gateway.callerOf (c.node i).config.gateway.identityHeader r with
  | error e =>
    -- the body of a stranger is not waited for
    have harrival : c.arrival i r = c.now := by
      rw [arrival, Gateway.readsBody_of_stranger hcaller]
      rfl
    rcases Nat.lt_or_ge (c.arrival i r) (c.requestDeadline i) with hearly | hlate
    · obtain ⟨response, hserve, hrefused⟩ :=
        @Gateway.serve_of_stranger (c.replica i) r canUpgrade e hprivate hcaller
      refine ⟨response, ?_, hrefused⟩
      rw [serve_of_early hearly, passTo_of_le harrival.le, serveBefore, hserve]
      simp only [setReplica_replica, complete]
    · refine ⟨.empty 408, ?_, by simp [Gateway.Grants, Http.Response.empty]⟩
      rw [serve_of_late hlate, passTo_of_le (hlate.trans harrival.le)]
  | ok caller =>
    -- while the body comes, only what goes on by itself does
    have hwaited (time : Nat) : ConfinedTo caller c (c.passTo time) :=
      (c.undisturbed_passTo time).1.confinedTo caller
    rcases Nat.lt_or_ge (c.arrival i r) (c.requestDeadline i) with hearly | hlate
    · rw [← (c.undisturbed_passTo (c.arrival i r)).1.config i] at hcaller
      have hserved : Gateway.Served ((c.passTo (c.arrival i r)).replica i) caller _ _ :=
        @Gateway.serve_of_caller _ r canUpgrade caller hprivate hcaller
      have hrequest := confinedTo_setReplica hserved.confinedTo
      rw [serve_of_early hearly]
      exact (hwaited _).trans
        (hrequest.trans (confinedTo_complete fun _ h => hserved.upgrade_eq h))
    · rw [serve_of_late hlate]
      exact hwaited _

/-- A push by `a.b` whose body tells another URN. -/
def disguisedPush : Http.Request where
  method := "POST"
  path := Bytes.ofString "/notifications"
  peerName := some "a.b"
  body := (Json.Value.object [("name", .string "n"), ("version", .string "1"),
    ("urn", (⟨"x", "y"⟩ : Urn).toJson)]).print

/-- The URN in the body of a push does not count. -/
theorem serve_confined_disguisedPush :
    (∀ resource, Gateway.Resource.ofPath? disguisedPush.path = some resource →
      ¬resource.IsPublic) ∧
    ConfinedTo ⟨"a", "b"⟩ { nodes := #[default] }
      (Cluster.serve { nodes := #[default] } 0 disguisedPush false).2 := by
  have hprivate : ∀ resource, Gateway.Resource.ofPath? disguisedPush.path = some resource →
      ¬resource.IsPublic := by
    intro resource h
    have hpath : Gateway.Resource.ofPath? disguisedPush.path = some .notifications := rfl
    obtain rfl := Option.some.inj (hpath.symm.trans h)
    simp [Gateway.Resource.IsPublic]
  exact ⟨hprivate, serve_confined { nodes := #[default] } 0 disguisedPush false hprivate⟩

end Cluster

end ServiceBroker
