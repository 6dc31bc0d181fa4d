import ServiceBroker.Config.Broker
import ServiceBroker.Delivery.LiveChannels
import ServiceBroker.Metrics
import ServiceBroker.Notification
import ServiceBroker.SubscriptionIndex

/-!
# Delivering notifications

A notification is matched against the subscription index, put into its envelope once and pushed to
every matching consumer. The pushes run side by side, each for as long as the send timeout allows;
a failed push is reported, never repeated.

A `Dispatch` is a delivery under way. It starts with `Dispatch.start`; `Dispatch.settle` looks which
of its pushes have ended at a given time, and `Dispatch.report?` is its report once all have.
Times are in milliseconds.
-/

namespace ServiceBroker

/-- What became of a notification, for its producer. -/
structure DeliveryReport where
  /-- Whether anybody asked for it. -/
  outcome : DeliveryOutcome
  /-- Consumers that got it. -/
  delivered : List Urn
  /-- Consumers that asked for it and could not be reached. -/
  failed : List (Urn × ChannelError)
deriving DecidableEq, Repr

/-- The number of consumers that asked for the notification. -/
def DeliveryReport.matched (r : DeliveryReport) : Nat := r.delivered.length + r.failed.length

/-- Why a whole delivery fails. -/
inductive DeliveryError where
  /-- The envelope cannot be written. -/
  | encoding (cause : Json.ReadError)
deriving DecidableEq

/-- The wording of a failed delivery. -/
def DeliveryError.message : DeliveryError → String
  | .encoding cause => "failed to encode notification: " ++ cause.message

/-- What is behind a consumer when its channel is not a live one: an endpoint with a fixed
behaviour, for rehearsals. -/
inductive Endpoint where
  /-- Accepts a frame after some milliseconds. -/
  | accepts (delay : Nat)
  /-- Is closed. -/
  | closed
  /-- Never answers. -/
  | hangs
deriving DecidableEq, Repr

/-- Where pushes go. -/
inductive Route where
  /-- To the live channels. -/
  | live
  /-- To endpoints with a fixed behaviour. -/
  | scripted (endpoints : List (Urn × Endpoint))

/-- The state of one push of a delivery. -/
inductive PushState where
  /-- It has ended. -/
  | ended (result : PushResult)
  /-- It waits for a slot of a live channel. -/
  | waits (ticket : Ticket)
  /-- It will succeed at a time. -/
  | due (time : Nat)
  /-- It will not end by itself. -/
  | stuck
deriving DecidableEq, Repr

/-- A delivery under way. -/
structure Dispatch where
  /-- When the pushes that have not ended are given up. -/
  deadline : Nat
  /-- The push to each consumer that asked for the notification. -/
  pushes : List (Urn × PushState)

namespace Dispatch

/-- Starts the push of a frame to a consumer. -/
def startPush (route : Route) (now : Nat) (frame : Bytes) (channels : LiveChannels)
    (consumer : Urn) : PushState × LiveChannels :=
  match route with
  | .live =>
    match channels.push consumer frame with
    | (.ended result, channels) => (.ended result, channels)
    | (.waits ticket, channels) => (.waits ticket, channels)
  | .scripted endpoints =>
    match endpoints.lookup consumer with
    | none => (.ended (some .notConnected), channels)
    | some (.accepts 0) => (.ended none, channels)
    | some (.accepts delay) => (.due (now + delay), channels)
    | some .closed => (.ended (some .closed), channels)
    | some .hangs => (.stuck, channels)

/-- Starts the pushes of a frame to some consumers. -/
def startAll (route : Route) (now : Nat) (frame : Bytes) :
    List Urn → LiveChannels → List (Urn × PushState) × LiveChannels
  | [], channels => ([], channels)
  | consumer :: consumers, channels =>
    let (state, channels) := startPush route now frame channels consumer
    let (pushes, channels) := startAll route now frame consumers channels
    ((consumer, state) :: pushes, channels)

/-- Starts the delivery of a notification from a producer. -/
def start (config : DeliveryConfig) (index : SubscriptionIndex) (route : Route) (now : Nat)
    (producer : Urn) (notification : Notification) (channels : LiveChannels) :
    Dispatch × LiveChannels :=
  let consumers := index.subscribers producer notification.descriptor.key
  let frame := (notification.envelope producer).frame
  let (pushes, channels) := startAll route now frame consumers channels
  (⟨now + config.sendTimeout.millisUp, pushes⟩, channels)

/-- Looks whether a push has ended by the time `now`; one that has not when the deadline has come
is given up. -/
def settlePush (deadline now : Nat) (state : PushState) (channels : LiveChannels) :
    PushState × LiveChannels :=
  match state with
  | .ended result => (.ended result, channels)
  | .due time =>
    if time ≤ now then (.ended none, channels)
    else if deadline ≤ now then (.ended (some .timeout), channels)
    else (.due time, channels)
  | .stuck => (if deadline ≤ now then .ended (some .timeout) else .stuck, channels)
  | .waits ticket =>
    match channels.collect ticket with
    | (some result, channels) => (.ended result, channels)
    | (none, channels) =>
      if deadline ≤ now then (.ended (some .timeout), channels.cancel ticket)
      else (.waits ticket, channels)

/-- Looks which pushes have ended by the time `now`. -/
def settlePushes (deadline now : Nat) :
    List (Urn × PushState) → LiveChannels → List (Urn × PushState) × LiveChannels
  | [], channels => ([], channels)
  | (consumer, state) :: pushes, channels =>
    let (state, channels) := settlePush deadline now state channels
    let (pushes, channels) := settlePushes deadline now pushes channels
    ((consumer, state) :: pushes, channels)

/-- Looks which pushes of the delivery have ended by the time `now`. -/
def settle (d : Dispatch) (now : Nat) (channels : LiveChannels) : Dispatch × LiveChannels :=
  let (pushes, channels) := settlePushes d.deadline now d.pushes channels
  ({ d with pushes }, channels)

/-- Gives up the delivery: no push of it that waits will be accepted. -/
def cancel (d : Dispatch) (channels : LiveChannels) : LiveChannels :=
  d.pushes.foldl (fun channels (_, state) =>
    match state with
    | .waits ticket => channels.cancel ticket
    | _ => channels) channels

/-- The results of the pushes, if all have ended. -/
def results? (d : Dispatch) : Option (List (Urn × PushResult)) :=
  d.pushes.mapM fun (consumer, state) =>
    match state with
    | .ended result => some (consumer, result)
    | _ => none

/-- The report of the delivery, if all pushes have ended. -/
def report? (d : Dispatch) : Option DeliveryReport :=
  (d.results?).map fun results =>
    { outcome := if results.isEmpty then .noSubscribers else .dispatched
      delivered := results.filterMap fun (consumer, result) =>
        if result.isNone then some consumer else none
      failed := results.filterMap fun (consumer, result) => result.map (consumer, ·) }

/-- The next time at which a push ends by itself or is given up. -/
def nextTime? (d : Dispatch) : Option Nat :=
  let times := d.pushes.filterMap fun (_, state) =>
    match state with
    | .ended _ => none
    | .due time => some (min time d.deadline)
    | _ => some d.deadline
  times.min?

/-- Lets the time pass until the delivery has ended, when nothing else happens meanwhile. `steps`
bounds the number of times at which pushes end. Gives the report and the time then. -/
def runAlone : (steps : Nat) → Dispatch → (now : Nat) → LiveChannels →
    Option DeliveryReport × Nat × LiveChannels
  | 0, d, now, channels => (d.report?, now, channels)
  | steps + 1, d, now, channels =>
    match d.nextTime? with
    | none => (d.report?, now, channels)
    | some time =>
      let (d, channels) := d.settle (max now time) channels
      runAlone steps d (max now time) channels

end Dispatch

/-- Counts a delivery that has ended: its failed pushes and its outcome. -/
def Metrics.countReport (m : Metrics) (r : DeliveryReport) : Metrics :=
  (r.failed.foldl (fun m (_, error) => m.countPushFailure error) m).countNotification r.outcome

end ServiceBroker
