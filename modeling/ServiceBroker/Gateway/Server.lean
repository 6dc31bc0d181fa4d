import ServiceBroker.Gateway.Identity
import ServiceBroker.Gateway.Route
import ServiceBroker.Gateway.Upgrade

/-!
# Serving requests

What a replica does with a request. Checks come in a fixed order: route and method, declared length,
identity, path, body, and at last the one operation that the request asks for.

`Gateway.serve` gives the reply to a request together with the replica as it is then. A reply may be
a delivery under way, which is answered when its pushes have ended, or the go-ahead for a live
channel.
-/

namespace ServiceBroker

/-- What a request works on: one replica, its transport, the metrics of the process and the time. -/
structure Replica where
  /-- The configuration. -/
  config : BrokerConfig := default
  /-- Who asked for which notifications. -/
  index : SubscriptionIndex := {}
  /-- The live channels. -/
  channels : LiveChannels := {}
  /-- The registry and its synchronization. -/
  sync : Synchronizer := {}
  /-- The transport to other replicas. -/
  transport : Transport
  /-- The metrics of the process. -/
  metrics : Metrics := {}
  /-- The time in milliseconds. -/
  now : Nat := 0

namespace Gateway

open Http (Request Response)

/-- The reply to a request. -/
inductive Reply where
  /-- An answer. -/
  | answer (response : Response)
  /-- A delivery that is answered when its pushes have ended. -/
  | delivering (dispatch : Dispatch)
  /-- The go-ahead for a live channel of a consumer. -/
  | upgrade (consumer : Urn)

/-! ## Bodies -/

/-- The length that a request declares for its body. -/
def declaredLength? (r : Request) : Option Nat :=
  ((r.header? "content-length").bind headerText?).bind (Text.parseNat? largestSize)

/-- Whether the request declares a body that is too long. -/
def declaresTooLong (c : GatewayConfig) (r : Request) : Bool :=
  match declaredLength? r with
  | some length => c.maxBodySize < length
  | none => false

/-- The body of a request, if it is not longer than allowed and declared. -/
def readBody (c : GatewayConfig) (r : Request) : Except Response Bytes :=
  let limit := match declaredLength? r with
    | some length => min c.maxBodySize length
    | none => c.maxBodySize
  if limit < r.body.length then
    .error (.text 413 "Failed to buffer the request body: length limit exceeded")
  else .ok r.body

/-- What the body of a request holds in JSON. -/
def decodeBody (c : GatewayConfig) (reader : Json.Reader α) (r : Request) :
    Except Response α := do
  let body ← readBody c r
  (Json.readBytes reader body).mapError fun e =>
    (ApiError.badRequest ("invalid JSON body: " ++ e.message)).response

/-- Whether the body of a request is read: no check that comes before it refuses the request, and
the operation has one. -/
def readsBody (c : GatewayConfig) (r : Request) : Bool :=
  match Resource.ofPath? r.path with
  | none => false
  | some resource =>
    let isReached := !declaresTooLong c r && (callerOf c.identityHeader r).isOk
    match resource.operation? r.method with
    | some (.ofClient .registerService) | some (.ofClient .pushNotification) => isReached
    | some (.ofClient .subscribe) | some (.ofClient .unsubscribe) =>
      isReached && resource.scope.isOk
    | _ => false

/-! ## Operations -/

/-- The answer to a producer when its notification has been delivered. -/
def reportResponse (report : DeliveryReport) : Response :=
  match report.outcome with
  | .noSubscribers => .empty 205
  | .dispatched => .json 200 (.object [
      ("delivered", .integer report.delivered.length),
      ("failed", .integer report.failed.length)])

/-- The answer to a consumer that has subscribed. -/
def subscribeResponse (outcome : SubscribeOutcome) : Response :=
  .json (if 0 < outcome.added then 201 else 200) (.object [
    ("added", .integer outcome.added), ("total", .integer outcome.total)])

/-- The state of health of a replica. -/
def healthResponse (replica : Replica) : Response :=
  .json 200 (.object [
    ("live_channels", .integer replica.channels.connectionCount),
    ("service", .string "edge-broker"),
    ("services", .integer replica.sync.registry.size),
    ("status", .string "healthy"),
    ("version", .string "0.1.0")])

/-- The metrics of the process. -/
def metricsResponse (m : Metrics) : Response :=
  { status := 200
    contentType := some "text/plain; version=0.0.4"
    body := Bytes.ofString m.text }

/-- The replica after a change of the registry was published. -/
def afterPublish (replica : Replica) (p : Synchronizer.Published α) : Replica :=
  { replica with sync := p.sync, transport := p.transport, metrics := p.metrics }

/-- Registers the service that the body describes under the URN of the caller. -/
def registerService (replica : Replica) (caller : Urn) (r : Request) :
    Except Response (Response × Replica) := do
  let registration ← decodeBody replica.config.gateway Registration.record.read r
  let p := replica.sync.register caller registration replica.transport replica.metrics
  let response := match p.result with
    | .ok service => .json 200 service.toJson
    | .error e => (ApiError.ofSync e).response
  return (response, afterPublish replica p)

/-- Deregisters the service of the caller. -/
def deregisterService (replica : Replica) (caller : Urn) : Response × Replica :=
  let p := replica.sync.deregister caller replica.transport replica.metrics
  let response := match p.result with
    | .ok true => .empty 204
    | .ok false => (ApiError.notFound ("service " ++ caller.display)).response
    | .error e => (ApiError.ofSync e).response
  (response, afterPublish replica p)

/-- Subscribes the caller to the descriptors in the body, in the scope that the path names. -/
def subscribe (replica : Replica) (caller : Urn) (resource : Resource) (r : Request) :
    Except Response (Response × Replica) := do
  let scope ← resource.scope
  let descriptors ←
    decodeBody replica.config.gateway (Json.readList Descriptor.record.read) r
  match replica.index.add caller scope descriptors with
  | .ok (outcome, index) => return (subscribeResponse outcome, { replica with index })
  | .error e => throw (ApiError.ofSubscription e).response

/-- Unsubscribes the caller from the descriptors in the body, in the scope that the path names. -/
def unsubscribe (replica : Replica) (caller : Urn) (resource : Resource) (r : Request) :
    Except Response (Response × Replica) := do
  let scope ← resource.scope
  let descriptors ←
    decodeBody replica.config.gateway (Json.readList Descriptor.record.read) r
  match replica.index.remove caller scope descriptors with
  | .ok (_, index) => return (.empty 204, { replica with index })
  | .error e => throw (ApiError.ofSubscription e).response

/-- Counts a delivery that has ended and answers it. -/
def finishDelivery (replica : Replica) (report : DeliveryReport) : Response × Replica :=
  (reportResponse report, { replica with metrics := replica.metrics.countReport report })

/-- Pushes the notification in the body to its consumers. -/
def pushNotification (replica : Replica) (caller : Urn) (r : Request) :
    Except Response (Reply × Replica) := do
  let notification ← decodeBody replica.config.gateway Notification.record.read r
  let (dispatch, channels) := Dispatch.start replica.config.delivery replica.index .live
    replica.now caller notification replica.channels
  let replica := { replica with channels }
  match dispatch.report? with
  | some report =>
    let (response, replica) := finishDelivery replica report
    return (.answer response, replica)
  | none => return (.delivering dispatch, replica)

/-- Does what a known caller asks for. -/
def perform (replica : Replica) (operation : ClientOperation) (resource : Resource)
    (caller : Urn) (r : Request) (canUpgrade : Bool) : Except Response (Reply × Replica) :=
  let answered (x : Except Response (Response × Replica)) : Except Response (Reply × Replica) :=
    x.map fun (response, replica) => (.answer response, replica)
  match operation with
  | .listServices =>
    answered (.ok (.json 200 (ServiceList.mk replica.sync.registry.toList).toJson, replica))
  | .registerService => answered (registerService replica caller r)
  | .deregisterService => answered (.ok (deregisterService replica caller))
  | .listSubscriptions =>
    answered (.ok (.json 200 (replica.index.subscriptions caller).toJson, replica))
  | .removeAllSubscriptions =>
    answered (.ok (.empty 204, { replica with index := (replica.index.removeAll caller).2 }))
  | .subscribe => answered (subscribe replica caller resource r)
  | .unsubscribe => answered (unsubscribe replica caller resource r)
  | .pushNotification => pushNotification replica caller r
  | .openLiveChannel =>
    match refuseUpgrade? r canUpgrade with
    | some response => .error response
    | none => .ok (.upgrade caller, replica)

/-- Does what a request asks for, if its caller is known or need not be. -/
def authorize (replica : Replica) (operation : Operation) (resource : Resource) (r : Request)
    (canUpgrade : Bool) : Except Response (Reply × Replica) :=
  match operation with
  | .health => .ok (.answer (healthResponse replica), replica)
  | .metrics => .ok (.answer (metricsResponse replica.metrics), replica)
  | .ofClient operation =>
    match callerOf replica.config.gateway.identityHeader r with
    | .error e => .error e.response
    | .ok caller => perform replica operation resource caller r canUpgrade

/-- Serves a request; `canUpgrade` says whether its connection can be upgraded. -/
def serve (replica : Replica) (r : Request) (canUpgrade : Bool) : Reply × Replica :=
  let tooLong : Response := .text 413 "length limit exceeded"
  let refuseLong (response : Response) : Response :=
    if declaresTooLong replica.config.gateway r then
      { tooLong with allow := response.allow }
    else response
  let finish (response : Response) : Reply :=
    .answer (if r.method = "HEAD" then { response with body := [] } else response)
  match Resource.ofPath? r.path with
  | none => (finish (refuseLong (.empty 404)), replica)
  | some resource =>
    match resource.operation? r.method with
    | none => (finish (refuseLong { status := 405, allow := some resource.allow }), replica)
    | some operation =>
      if declaresTooLong replica.config.gateway r then (finish tooLong, replica)
      else
        match authorize replica operation resource r canUpgrade with
        | .error response => (finish response, replica)
        | .ok (.answer response, replica) => (finish response, replica)
        | .ok (reply, replica) => (reply, replica)

end Gateway

end ServiceBroker
