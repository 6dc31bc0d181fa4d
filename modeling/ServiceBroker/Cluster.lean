import ServiceBroker.Gateway.Server
import ServiceBroker.Replication.Group
import ServiceBroker.WebSocket.Session

/-!
# Clusters

Whole replicas in one process with a common clock: what each replica knows, the consume loops that
keep their registries alike, and the WebSocket sessions of their consumers. A cluster is worked by
one operation after the other; after each, loops and sessions run until all have to wait
(`Cluster.settle`). Time is in milliseconds. It passes by `Cluster.advance`, and while a delivery
has to wait.
-/

namespace ServiceBroker

open WebSocket (Session)

/-- What belongs to one replica alone. -/
structure Node where
  /-- The configuration. -/
  config : BrokerConfig
  /-- Who asked for which notifications. -/
  index : SubscriptionIndex
  /-- The live channels. -/
  channels : LiveChannels
  /-- Whether its consume loop has been started, and not been waited for since. -/
  isStarted : Bool := false

instance : Inhabited Node := ⟨{ config := default, index := {}, channels := {} }⟩

/-- Whole replicas with a common clock. -/
structure Cluster where
  /-- Their registries, transports and consume loops. -/
  group : ReplicaGroup := { transports := #[], members := #[] }
  /-- What belongs to each replica alone. -/
  nodes : Array Node := #[]
  /-- The transport that all replicas share; without one, each has its own bus. -/
  shared : Option Nat := none
  /-- The sessions by their numbers. -/
  sessions : Std.ExtTreeMap Nat Session := ∅
  /-- The number of the next session. -/
  nextSession : Nat := 0

namespace Cluster

/-- The node at a place. -/
def node (c : Cluster) (i : Nat) : Node := c.nodes.getD i default

/-- The time. -/
def now (c : Cluster) : Nat := c.group.now

/-! ## Replicas -/

/-- No replicas yet, with a bus for all of them or with one for each; with the metrics of the
process exposed or not. -/
def empty (shared : Option BusConfig) (exposed : Bool) : Cluster :=
  let metrics : Metrics := { registered := exposed }
  match shared with
  | none => { group := { transports := #[], members := #[], metrics } }
  | some config =>
    { group := { transports := #[.memory { config }], members := #[], metrics }
      shared := some 0 }

/-- Adds a replica, if it can start with its configuration. -/
def add (c : Cluster) (config : BrokerConfig) : Except BrokerConfigError Cluster := do
  config.validate
  let (transports, transport) := match c.shared with
    | some place => (c.group.transports, place)
    | none =>
      (c.group.transports.push (.memory { config := config.bus }), c.group.transports.size)
  return { c with
    group := { c.group with
      transports
      members := c.group.members.push { sync := { config := config.sync }, transport } }
    nodes := c.nodes.push {
      config
      index := .empty config.subscriptions.maxDescriptorsPerConsumer
      channels := .ofCapacity config.gateway.liveChannelBuffer } }

/-- The replica at a place, as a request sees it. -/
def replica (c : Cluster) (i : Nat) : Replica where
  config := (c.node i).config
  index := (c.node i).index
  channels := (c.node i).channels
  sync := (c.group.member i).sync
  transport := c.group.transport i
  metrics := c.group.metrics
  now := c.now

/-- Puts a replica back after a request. -/
def setReplica (c : Cluster) (i : Nat) (r : Replica) : Cluster :=
  { c with
    group := c.group.setContext i ⟨r.sync, r.transport, r.metrics⟩
    nodes := c.nodes.modify i fun n => { n with index := r.index, channels := r.channels } }

/-- Starts the consume loop of a replica, if it has not been started. -/
def start (c : Cluster) (i : Nat) : Except SubscribeFailure Unit × Cluster :=
  if (c.node i).isStarted then (.ok (), c)
  else
    let (result, group) := c.group.spawn i
    match result with
    | .error e => (.error e, { c with group })
    | .ok () =>
      (.ok (), { c with group, nodes := c.nodes.modify i fun n => { n with isStarted := true } })

/-! ## Live channels -/

/-- Puts the live channels of a replica back. -/
def setChannels (c : Cluster) (i : Nat) (channels : LiveChannels) : Cluster :=
  { c with nodes := c.nodes.modify i fun n => { n with channels } }

/-- Notes in the metrics how many live channels a replica has now. -/
def gaugeLive (c : Cluster) (i : Nat) : Cluster :=
  { c with group := { c.group with metrics := c.group.metrics.gaugeLive (c.node i).channels } }

/-- Opens a live channel for a consumer at a replica; `none` if no such channel can exist. The
channels are counted only after the new one is there: nothing keeps other tasks from changing them
in between, but here each operation ends before the next one begins. -/
def connect (c : Cluster) (i : Nat) (consumer : Urn) : Option (Nat × Cluster) :=
  ((c.node i).channels.connect consumer).map fun (connection, channels) =>
    (connection, (c.setChannels i channels).gaugeLive i)

/-- Puts back the live channels of a replica after some may have been dropped. They are counted
again if there are fewer than before; as in `connect`, no other operation comes in between. -/
def settleChannels (c : Cluster) (i : Nat) (channels : LiveChannels) : Cluster :=
  if channels.connectionCount = (c.node i).channels.connectionCount then c.setChannels i channels
  else (c.setChannels i channels).gaugeLive i

/-- Drops the reading end of a live channel. -/
def disconnect (c : Cluster) (i connection : Nat) : Cluster :=
  c.settleChannels i ((c.node i).channels.drop connection)

/-- Takes the oldest frame of a live channel. -/
def receive (c : Cluster) (i connection : Nat) : Received Bytes × Cluster :=
  let (received, channels) := (c.node i).channels.receive connection
  (received, c.settleChannels i channels)

/-! ## Sessions -/

/-- Runs a session until it has to wait. -/
def runSession (c : Cluster) (number : Nat) (s : Session) : Cluster :=
  let channels := (c.node s.replica).channels
  let signal := (c.group.member s.replica).signal
  let ran := s.run c.now signal (s.stepBound c.now channels) channels
  { c.settleChannels ran.1.replica ran.2 with sessions := c.sessions.insert number ran.1 }

/-- Runs consume loops and sessions until all have to wait. -/
def settle (c : Cluster) : Cluster :=
  c.sessions.toList.foldl (fun c (number, s) => c.runSession number s)
    { c with group := c.group.settle }

/-- Starts a session for a consumer at a replica. If no live channel can exist the session is over
at once. -/
def openSession (c : Cluster) (i : Nat) (consumer : Urn) : Nat × Cluster :=
  let number := c.nextSession
  let session (connection : Nat) : Session :=
    { replica := i, connection, period := (c.node i).config.gateway.pingInterval,
      started := c.now }
  let c := { c with nextSession := number + 1 }
  match c.connect i consumer with
  | none =>
    (number, { c with sessions := c.sessions.insert number { session 0 with hasEnded := true } })
  | some (connection, c) =>
    let (s, channels) :=
      (session connection).start (c.group.member i).signal (c.node i).channels
    (number, { c.settleChannels i channels with sessions := c.sessions.insert number s })

/-- Changes a session. -/
def modifySession (c : Cluster) (number : Nat) (f : Session → Session) : Cluster :=
  { c with sessions := c.sessions.modify number f }

/-! ## Time -/

/-- The next time at which a loop or a session goes on by itself. -/
def nextTime? (c : Cluster) : Option Nat :=
  let pings := c.sessions.toList.filterMap fun (_, s) =>
    if s.hasEnded then none else some s.nextPing
  (pings ++ c.group.nextTime?.toList).min?

/-- Lets the time pass at once up to a time. -/
def advanceTo (c : Cluster) (time : Nat) : Cluster :=
  { c with group := c.group.advanceTo time }

/-- Lets some milliseconds pass at once. -/
def advance (c : Cluster) (millis : Nat) : Cluster := c.advanceTo (c.now + millis)

/-- Lets the time pass up to the first of some times, but not beyond a limit. The clock goes on by a
millisecond at least. -/
def advanceWithin (c : Cluster) (limit : Nat) (times : List Nat) : Cluster :=
  c.advanceTo (max (c.now + 1) ((limit :: times).min?.getD limit))

/-- Lets the time pass up to a time while loops and sessions go on. `steps` bounds the times at
which something happens. -/
def pass (time : Nat) : (steps : Nat) → Cluster → Cluster
  | 0, c => c
  | steps + 1, c =>
    if time ≤ c.now then c
    else
      let c := c.settle
      pass time steps (c.advanceWithin time c.nextTime?.toList)

/-- Lets the time pass up to a time while loops and sessions go on. -/
def passTo (c : Cluster) (time : Nat) : Cluster := pass time (time - c.now) c

/-! ## Requests

A request is timed from the moment when its head is there, before its caller is known and before
anything of its body is read. Whenever it might go on, the clock is looked at first: a request whose
time is up is dropped and answered 408, even if it could be answered at this very moment. A delivery
is dropped with its request, and nothing of it is counted.
-/

/-- The time at which a request that comes now is given up. -/
def requestDeadline (c : Cluster) (i : Nat) : Nat :=
  c.now + (c.node i).config.gateway.requestTimeout.millisUp

/-- The time at which a request that comes now is there as far as it is read. -/
def arrival (c : Cluster) (i : Nat) (r : Http.Request) : Nat :=
  if Gateway.readsBody (c.node i).config.gateway r then c.now + r.bodyDelay else c.now

/-- Lets the time pass until a delivery has ended or its request is given up. Whenever something
happens, first the clock of the request is looked at and then the delivery. `steps` bounds the times
at which something happens. -/
def awaitDelivery (i deadline : Nat) : (steps : Nat) → Dispatch → Cluster →
    Http.Response × Cluster
  | 0, d, c => (.empty 408, c.settleChannels i (d.cancel (c.node i).channels))
  | steps + 1, d, c =>
    if deadline ≤ c.now then (.empty 408, c.settleChannels i (d.cancel (c.node i).channels))
    else
      let c := c.settle
      let (d, channels) := d.settle c.now (c.node i).channels
      let c := c.settleChannels i channels
      match d.report? with
      | some report =>
        let (response, replica) := Gateway.finishDelivery (c.replica i) report
        (response, c.setReplica i replica)
      | none =>
        let times := d.nextTime?.toList ++ c.nextTime?.toList
        awaitDelivery i deadline steps d (c.advanceWithin deadline times)

/-- Sees a request at a replica through once its reply is known: the session that it asks for is
opened, the delivery that it has started is waited for. -/
def complete (c : Cluster) (i deadline : Nat) : Gateway.Reply → Except Http.Response Nat × Cluster
  | .answer response => (.error response, c)
  | .upgrade consumer => (c.openSession i consumer).map .ok id
  | .delivering dispatch =>
    (awaitDelivery i deadline (deadline - c.now) dispatch c).map .error id

/-- Serves a request at a replica once it is there as far as it is read. -/
def serveBefore (c : Cluster) (deadline i : Nat) (r : Http.Request) (canUpgrade : Bool) :
    Except Http.Response Nat × Cluster :=
  let served := Gateway.serve (c.replica i) r canUpgrade
  (c.setReplica i served.2).complete i deadline served.1

/-- Serves a request at a replica; if the request opens a live channel, gives the number of its
session. A body that comes too late is not waited for. -/
def serve (c : Cluster) (i : Nat) (r : Http.Request) (canUpgrade : Bool) :
    Except Http.Response Nat × Cluster :=
  let deadline := c.requestDeadline i
  let arrival := c.arrival i r
  if deadline ≤ arrival then (.error (.empty 408), c.passTo deadline)
  else (c.passTo arrival).serveBefore deadline i r canUpgrade

/-! ## Shutdown -/

/-- Signals shutdown to the tasks of a replica and waits for its consume loop. -/
def shutdown (c : Cluster) (i : Nat) : Cluster :=
  { c with
    group := c.group.modifySignal i (·.set true)
    nodes := c.nodes.modify i fun n => { n with isStarted := false } }.settle

end Cluster

end ServiceBroker
