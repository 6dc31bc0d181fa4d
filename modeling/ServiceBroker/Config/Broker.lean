import ServiceBroker.Config.Gateway
import ServiceBroker.Text

/-!
# Configuration of a replica

The settings of every part of a replica, the check that it can start with them, and the environment
variables that override some of them. A variable whose text cannot be understood is ignored.
-/

namespace ServiceBroker

/-! ## Registry synchronization -/

/-- Settings of registry synchronization. -/
structure SyncConfig where
  /-- Topic that carries the changes of the registry. -/
  topic : String := "services"
  /-- Pause before a closed subscription is opened again. -/
  resubscribeDelay : Duration := { nanos := 1000000000 }
deriving DecidableEq

namespace SyncConfig

instance : Inhabited SyncConfig := ⟨{}⟩

/-- What has been read of the settings. -/
structure Draft where
  topic : Option String := none
  resubscribeDelay : Option Duration := none

/-- How the settings are read; every field may be absent. -/
def record : Json.Record Draft SyncConfig where
  name := "SyncConfig"
  fields := [
    .of "topic" Draft.topic (fun d v => { d with topic := some v }) Json.readString,
    .of "resubscribe_delay" Draft.resubscribeDelay
      (fun d v => { d with resubscribeDelay := some v }) Duration.read]
  empty := {}
  finish := fun d =>
    let c : SyncConfig := default
    .ok ⟨d.topic.getD c.topic, d.resubscribeDelay.getD c.resubscribeDelay⟩

/-- The settings as data. -/
def toJson (c : SyncConfig) : Json.Value :=
  .object [("topic", .string c.topic), ("resubscribe_delay", c.resubscribeDelay.toJson)]

end SyncConfig

/-! ## Subscriptions -/

/-- Settings of the subscription index. -/
structure SubscriptionConfig where
  /-- Descriptors that one consumer may hold over all scopes. -/
  maxDescriptorsPerConsumer : Nat := 1024
deriving DecidableEq

namespace SubscriptionConfig

instance : Inhabited SubscriptionConfig := ⟨{}⟩

/-- How the settings are read; every field may be absent. -/
def record : Json.Record (Option Nat) SubscriptionConfig where
  name := "SubscriptionConfig"
  fields := [.of "max_descriptors_per_consumer" id (fun _ v => some v) readSize]
  empty := none
  finish := fun d =>
    let c : SubscriptionConfig := default
    .ok ⟨d.getD c.maxDescriptorsPerConsumer⟩

/-- The settings as data. -/
def toJson (c : SubscriptionConfig) : Json.Value :=
  .object [("max_descriptors_per_consumer", .integer c.maxDescriptorsPerConsumer)]

end SubscriptionConfig

/-! ## Delivery -/

/-- Settings of notification delivery. -/
structure DeliveryConfig where
  /-- How long one push to one consumer may wait. -/
  sendTimeout : Duration := { nanos := 2000000000 }
deriving DecidableEq

namespace DeliveryConfig

instance : Inhabited DeliveryConfig := ⟨{}⟩

/-- How the settings are read; every field may be absent. -/
def record : Json.Record (Option Duration) DeliveryConfig where
  name := "DeliveryConfig"
  fields := [.of "send_timeout" id (fun _ v => some v) Duration.read]
  empty := none
  finish := fun d =>
    let c : DeliveryConfig := default
    .ok ⟨d.getD c.sendTimeout⟩

/-- The settings as data. -/
def toJson (c : DeliveryConfig) : Json.Value :=
  .object [("send_timeout", c.sendTimeout.toJson)]

end DeliveryConfig

/-! ## The whole -/

/-- Settings of the message bus. -/
structure BusConfig where
  /-- Messages that a topic keeps for subscribers that lag behind. -/
  capacity : Nat := 1000
  /-- The largest payload in bytes. -/
  maxPayloadSize : Nat := 1048576
deriving DecidableEq

instance : Inhabited BusConfig := ⟨{}⟩

/-- Settings of a replica. -/
structure BrokerConfig where
  /-- Settings of the gateway. -/
  gateway : GatewayConfig := default
  /-- Settings of registry synchronization. -/
  sync : SyncConfig := default
  /-- Settings of the subscription index. -/
  subscriptions : SubscriptionConfig := default
  /-- Settings of notification delivery. -/
  delivery : DeliveryConfig := default
  /-- Settings of the message bus. -/
  bus : BusConfig := default
deriving DecidableEq

instance : Inhabited BrokerConfig := ⟨{}⟩

/-- Settings with which a replica cannot start, with the reason. -/
inductive BrokerConfigError where
  /-- The gateway refuses its settings. -/
  | gateway (reason : String)
  | invalid (reason : String)
deriving DecidableEq, Repr

/-- The wording of refused settings. -/
def BrokerConfigError.message : BrokerConfigError → String
  | .gateway reason => "gateway: " ++ reason
  | .invalid reason => "invalid configuration: " ++ reason

namespace BrokerConfig

/-- Refuses settings with which a replica cannot start. -/
def validate (c : BrokerConfig) : Except BrokerConfigError Unit := do
  c.gateway.validate.mapError fun e => .gateway e.message
  if c.sync.topic.isEmpty then throw (.invalid "sync.topic cannot be empty")
  if c.subscriptions.maxDescriptorsPerConsumer = 0 then
    throw (.invalid "subscriptions.max_descriptors_per_consumer cannot be 0")
  if c.delivery.sendTimeout.isZero then throw (.invalid "delivery.send_timeout cannot be 0")
  if c.bus.capacity = 0 then throw (.invalid "bus.capacity cannot be 0")

/-! ## Environment -/

/-- The value of a variable that can be understood. -/
def parseVariable? (lookup : String → Option String) (name : String)
    (parse : String → Option α) : Option α :=
  (lookup name).bind fun raw => parse (Text.trim raw)

/-- The settings with the overrides of an environment. -/
def override (c : BrokerConfig) (lookup : String → Option String) : BrokerConfig :=
  let size? := Text.parseNat? largestSize
  let host := parseVariable? lookup "EB_HTTP_HOST" Address.parse?
  let port := parseVariable? lookup "EB_HTTP_PORT" (Text.parseNat? largestPort)
  let header := (lookup "EB_IDENTITY_HEADER").map fun raw => Text.toLower (Text.trim raw)
  let capacity := parseVariable? lookup "EB_BUS_CAPACITY" size?
  let timeout := parseVariable? lookup "EB_SEND_TIMEOUT_MS" fun s =>
    (size? s).bind fun millis => Duration.ofNanos? (millis * 1000000)
  let descriptors := parseVariable? lookup "EB_MAX_SUBSCRIPTIONS" size?
  { c with
    gateway := { c.gateway with
      host := host.getD c.gateway.host
      port := port.getD c.gateway.port
      identityHeader := header.getD c.gateway.identityHeader }
    subscriptions := ⟨descriptors.getD c.subscriptions.maxDescriptorsPerConsumer⟩
    delivery := ⟨timeout.getD c.delivery.sendTimeout⟩
    bus := { c.bus with capacity := capacity.getD c.bus.capacity } }

end BrokerConfig

end ServiceBroker
