import ServiceBroker.Bytes
import ServiceBroker.Config.Broker
import ServiceBroker.MessageBus.Broadcast

/-!
# The in-memory message bus

A bus carries messages on topics. Each topic is a broadcast channel that is opened by its first
subscription; until then messages on it are lost. A closed bus accepts nothing, but open
subscriptions still find what was kept for them.
-/

namespace ServiceBroker

/-- A message on a topic. -/
structure BusMessage where
  /-- Topic it was published on. -/
  topic : String
  /-- Routing key. -/
  key : String
  /-- Content. -/
  payload : Bytes
deriving DecidableEq, Repr

/-- Why a bus refuses a message or a subscription. -/
inductive BusError where
  | closed
  | payloadTooLarge (size max : Nat)
  | transport (reason : String)
deriving DecidableEq, Repr

/-- The wording of a refusal by a bus. -/
def BusError.message : BusError → String
  | .closed => "message bus closed"
  | .payloadTooLarge size max =>
    "payload of " ++ toString size ++ " bytes exceeds limit of " ++ toString max ++ " bytes"
  | .transport reason => "transport error: " ++ reason

/-- Why a subscription cannot be opened. -/
inductive SubscribeFailure where
  /-- The bus refuses it. -/
  | refused (error : BusError)
  /-- No channel of the configured capacity can exist; the process that asks for one ends. -/
  | impossibleCapacity
deriving DecidableEq, Repr

/-- An open subscription. -/
structure BusSubscription where
  /-- Topic it listens on. -/
  topic : String
  /-- Number that tells it from every other one. -/
  reader : Nat
deriving DecidableEq, Repr

/-- A bus inside one process. -/
structure InMemoryBus where
  /-- Its settings. -/
  config : BusConfig := default
  /-- The number of messages accepted. -/
  published : Nat := 0
  /-- Whether it has been closed. -/
  closed : Bool := false
  /-- The channel of each topic. -/
  topics : Std.ExtTreeMap String (Broadcast BusMessage) := ∅
  /-- The number of the next subscription. -/
  nextReader : Nat := 0

namespace InMemoryBus

/-- Whether channels of the configured capacity can exist. -/
def canOpen (config : BusConfig) : Bool :=
  0 < config.capacity && config.capacity ≤ largestSize / 2

/-- The number of open subscriptions on a topic that can still get new messages. -/
def subscriberCount (bus : InMemoryBus) (topic : String) : Nat :=
  if bus.closed then 0 else ((bus.topics[topic]?).map (·.readerCount)).getD 0

/-- Publishes a payload; gives the number of subscriptions it was handed to. -/
def publish (bus : InMemoryBus) (topic key : String) (payload : Bytes) :
    Except BusError (Nat × InMemoryBus) :=
  let size := payload.length
  if bus.closed then .error .closed
  else if bus.config.maxPayloadSize < size then
    .error (.payloadTooLarge size bus.config.maxPayloadSize)
  else
    let bus := { bus with published := bus.published + 1 }
    match bus.topics[topic]? with
    | none => .ok (0, bus)
    | some channel =>
      .ok (channel.readerCount,
        { bus with topics := bus.topics.insert topic (channel.send ⟨topic, key, payload⟩) })

/-- Opens a subscription to what is published on a topic from now on. -/
def subscribe (bus : InMemoryBus) (topic : String) :
    Except SubscribeFailure (BusSubscription × InMemoryBus) :=
  if bus.closed then .error (.refused .closed)
  else
    match bus.topics[topic]?, canOpen bus.config with
    | none, false => .error .impossibleCapacity
    | channel?, _ =>
      let channel := channel?.getD (.ofCapacity bus.config.capacity)
      .ok (⟨topic, bus.nextReader⟩, { bus with
        topics := bus.topics.insert topic (channel.subscribe bus.nextReader)
        nextReader := bus.nextReader + 1 })

/-- Takes the next message for a subscription. -/
def receive (bus : InMemoryBus) (s : BusSubscription) : Received BusMessage × InMemoryBus :=
  match bus.topics[s.topic]? with
  | none => (.closed, bus)
  | some channel =>
    let (received, channel) := channel.receive s.reader
    (received, { bus with topics := bus.topics.insert s.topic channel })

/-- Ends a subscription. -/
def unsubscribe (bus : InMemoryBus) (s : BusSubscription) : InMemoryBus :=
  match bus.topics[s.topic]? with
  | none => bus
  | some channel => { bus with topics := bus.topics.insert s.topic (channel.unsubscribe s.reader) }

/-- Closes the bus. -/
def close (bus : InMemoryBus) : InMemoryBus :=
  { bus with closed := true, topics := bus.topics.map fun _ channel => channel.close }

end InMemoryBus

end ServiceBroker
