import ServiceBroker.MessageBus.InMemory

/-!
# Transports

What a replica reaches other replicas by: an in-memory bus, a transport that cannot be reached, or a
link that can be lost and comes back with the next subscription.
-/

namespace ServiceBroker

/-- A link that carries one connection at a time. Every subscription opens a fresh one, which ends
the one before. -/
structure Link where
  /-- How many of the next subscriptions will be refused. -/
  refusals : Nat := 0
  /-- The number of subscriptions tried. -/
  subscribes : Nat := 0
  /-- The connection that carries messages. -/
  current : Option Nat := none
  /-- Every connection with a reader, by number. -/
  connections : Std.ExtTreeMap Nat (Broadcast BusMessage) := ∅

namespace Link

/-- Messages that a connection keeps for its reader. -/
def capacity : Nat := 16

/-- Loses the connection. What it kept can still be read. -/
def disconnect (l : Link) : Link :=
  match l.current with
  | none => l
  | some n => { l with current := none, connections := l.connections.modify n (·.close) }

/-- Opens a fresh connection, unless it is refused. -/
def subscribe (l : Link) (topic : String) : Except BusError BusSubscription × Link :=
  let number := l.subscribes
  let l := { l with subscribes := number + 1 }
  if 0 < l.refusals then
    (.error (.transport "refused"), { l with refusals := l.refusals - 1 })
  else
    let l := l.disconnect
    let connection := (Broadcast.ofCapacity capacity).subscribe number
    (.ok ⟨topic, number⟩, { l with
      current := some number
      connections := l.connections.insert number connection })

/-- Publishes a message on the connection. -/
def publish (l : Link) (m : BusMessage) : Except BusError (Nat × Link) :=
  match l.current.bind fun n => (l.connections[n]?).map (n, ·) with
  | none => .error .closed
  | some (n, connection) =>
    if connection.readerCount = 0 then .error .closed
    else .ok (connection.readerCount,
      { l with connections := l.connections.insert n (connection.send m) })

end Link

/-- What a replica reaches other replicas by. -/
inductive Transport where
  /-- A bus in the same process. -/
  | memory (bus : InMemoryBus)
  /-- Nothing that can be reached, for a reason. -/
  | unreachable (reason : String)
  /-- A link that can be lost. -/
  | link (l : Link)

namespace Transport

/-- Publishes a payload; gives the number of subscriptions it was handed to. -/
def publish (t : Transport) (topic key : String) (payload : Bytes) :
    Except BusError (Nat × Transport) :=
  match t with
  | .memory bus => (bus.publish topic key payload).map fun (n, bus) => (n, .memory bus)
  | .unreachable reason => .error (.transport reason)
  | .link l => (l.publish ⟨topic, key, payload⟩).map fun (n, l) => (n, .link l)

/-- Opens a subscription to what is published on a topic from now on. -/
def subscribe (t : Transport) (topic : String) :
    Except SubscribeFailure BusSubscription × Transport :=
  match t with
  | .memory bus =>
    match bus.subscribe topic with
    | .ok (s, bus) => (.ok s, .memory bus)
    | .error e => (.error e, t)
  | .unreachable reason => (.error (.refused (.transport reason)), t)
  | .link l =>
    let (result, l) := l.subscribe topic
    (result.mapError .refused, .link l)

/-- How many of the next subscriptions will be refused. -/
def refusals : Transport → Nat
  | .link l => l.refusals
  | _ => 0

/-- The channel that a subscription reads. -/
def channel? (t : Transport) (s : BusSubscription) : Option (Broadcast BusMessage) :=
  match t with
  | .memory bus => bus.topics[s.topic]?
  | .unreachable _ => none
  | .link l => l.connections[s.reader]?

/-- The number of messages that a subscription will still find. -/
def unread (t : Transport) (s : BusSubscription) : Nat :=
  ((t.channel? s).map (·.unread s.reader)).getD 0

/-- Takes the next message for a subscription. -/
def receive (t : Transport) (s : BusSubscription) : Received BusMessage × Transport :=
  match t with
  | .memory bus =>
    let (received, bus) := bus.receive s
    (received, .memory bus)
  | .unreachable _ => (.closed, t)
  | .link l =>
    match l.connections[s.reader]? with
    | none => (.closed, t)
    | some connection =>
      let (received, connection) := connection.receive s.reader
      (received, .link { l with connections := l.connections.insert s.reader connection })

/-- Ends a subscription. -/
def unsubscribe (t : Transport) (s : BusSubscription) : Transport :=
  match t with
  | .memory bus => .memory (bus.unsubscribe s)
  | .unreachable _ => t
  | .link l =>
    .link { l with connections := l.connections.modify s.reader (·.unsubscribe s.reader) }

end Transport

end ServiceBroker
