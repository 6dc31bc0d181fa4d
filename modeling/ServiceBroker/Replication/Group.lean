import ServiceBroker.Replication.ConsumeLoop

/-!
# Groups of replicas

Several replicas in one process with a common clock: the synchronizer of each, the transports they
are on and the consume loops that run. After every operation the loops run until all have to wait:
`ReplicaGroup.settle`. Time is in milliseconds and passes only by `ReplicaGroup.advanceTo`.
-/

namespace ServiceBroker

/-- One replica's part of a group. -/
structure Member where
  /-- Its synchronizer. -/
  sync : Synchronizer
  /-- The transport it is on, by its place in the group. -/
  transport : Nat := 0
  /-- The signal that its tasks watch. -/
  signal : Signal := {}
  /-- The consume loop that was started last. -/
  latest : Option Nat := none

instance : Inhabited Member := ⟨{ sync := {} }⟩

/-- Replicas with a common clock. -/
structure ReplicaGroup where
  /-- The time. -/
  now : Nat := 0
  /-- The transports. -/
  transports : Array Transport
  /-- The replicas. -/
  members : Array Member
  /-- The consume loops, in the order in which they go on. -/
  loops : List ConsumeLoop := []
  /-- The number of the next loop. -/
  nextLoop : Nat := 0
  /-- The metrics of the process. -/
  metrics : Metrics := {}

namespace ReplicaGroup

/-- The replica at a place. -/
def member (g : ReplicaGroup) (i : Nat) : Member := g.members.getD i default

/-- The transport that the replica at a place is on. -/
def transport (g : ReplicaGroup) (i : Nat) : Transport :=
  g.transports.getD (g.member i).transport (.unreachable "")

/-- Changes the replica at a place. -/
def setMember (g : ReplicaGroup) (i : Nat) (m : Member) : ReplicaGroup :=
  { g with members := g.members.setIfInBounds i m }

/-- Puts a synchronizer, its transport and the metrics back. -/
def setContext (g : ReplicaGroup) (i : Nat) (c : ConsumeLoop.Context) : ReplicaGroup :=
  let m := g.member i
  { g with
    members := g.members.setIfInBounds i { m with sync := c.sync }
    transports := g.transports.setIfInBounds m.transport c.transport
    metrics := c.metrics }

/-! ## Loops -/

/-- Runs a loop until it has to wait. -/
def runLoop (g : ReplicaGroup) (l : ConsumeLoop) : ConsumeLoop × ReplicaGroup :=
  let m := g.member l.replica
  let c : ConsumeLoop.Context := ⟨m.sync, g.transport l.replica, g.metrics⟩
  let (l, c) := l.run g.now m.signal (l.stepBound c) c
  (l, g.setContext l.replica c)

/-- Puts a loop behind those that go on no later than it. -/
def enqueue (l : ConsumeLoop) : List ConsumeLoop → List ConsumeLoop
  | [] => [l]
  | k :: loops => if k.dueTime ≤ l.dueTime then k :: enqueue l loops else l :: k :: loops

/-- Puts loops in the order in which they go on; of two that go on at one time the first stays
first. -/
def inOrder (loops : List ConsumeLoop) : List ConsumeLoop :=
  loops.foldl (fun queue l => enqueue l queue) []

theorem enqueue_perm (l : ConsumeLoop) (queue : List ConsumeLoop) :
    (enqueue l queue).Perm (l :: queue) := by
  induction queue with
  | nil => exact .refl _
  | cons k queue ih =>
    unfold enqueue
    split
    · exact (ih.cons k).trans (.swap l k queue)
    · exact .refl _

/-- Ordering loops neither adds nor loses one. -/
theorem inOrder_perm (loops : List ConsumeLoop) : (inOrder loops).Perm loops := by
  suffices ∀ queue, (loops.foldl (fun queue l => enqueue l queue) queue).Perm (queue ++ loops) by
    simpa [inOrder] using this []
  induction loops with
  | nil => simp
  | cons l loops ih =>
    intro queue
    exact (ih _).trans (((enqueue_perm l queue).append_right loops).trans List.perm_middle.symm)

/-- Runs some loops, each until it has to wait. -/
def runLoops : List ConsumeLoop → ReplicaGroup → List ConsumeLoop × ReplicaGroup
  | [], g => ([], g)
  | l :: loops, g =>
    let (l, g) := g.runLoop l
    let (loops, g) := runLoops loops g
    (l :: loops, g)

/-- Runs every loop until it has to wait. Loops that have stopped are forgotten. A loop that
subscribes again may end the subscription of another one, so there are `rounds` rounds. -/
def settleRounds : (rounds : Nat) → ReplicaGroup → ReplicaGroup
  | 0, g => g
  | rounds + 1, g =>
    let (loops, g) := runLoops (inOrder g.loops) g
    settleRounds rounds { g with loops := loops.filter (·.isRunning) }

/-- Runs every loop until all have to wait. -/
def settle (g : ReplicaGroup) : ReplicaGroup := settleRounds (g.loops.length + 1) g

/-- Whether the loop that a replica started last is running; `none` if it never started one. -/
def isRunning (g : ReplicaGroup) (i : Nat) : Option Bool :=
  (g.member i).latest.map fun number => g.loops.any (·.number == number)

/-- Subscribes a replica to the changes of the registry and starts a loop that applies them. -/
def spawn (g : ReplicaGroup) (i : Nat) : Except SubscribeFailure Unit × ReplicaGroup :=
  let m := g.member i
  let (result, transport) := (g.transport i).subscribe m.sync.config.topic
  let g := { g with transports := g.transports.setIfInBounds m.transport transport }
  match result with
  | .error e => (.error e, g)
  | .ok s =>
    let l : ConsumeLoop := { number := g.nextLoop, replica := i, state := .listening s }
    (.ok (), { g.setMember i { m with latest := some l.number } with
      loops := g.loops ++ [l]
      nextLoop := g.nextLoop + 1 })

/-- The time at which a loop goes on by itself. -/
def nextTime? (g : ReplicaGroup) : Option Nat := (g.loops.filterMap (·.nextTime?)).min?

/-! ## Operations -/

/-- Publishes a change of the registry from a replica. -/
def publishWith (g : ReplicaGroup) (i : Nat)
    (publish : Synchronizer → Transport → Metrics → Synchronizer.Published α) :
    Except SyncError α × ReplicaGroup :=
  let p := publish (g.member i).sync (g.transport i) g.metrics
  (p.result, g.setContext i ⟨p.sync, p.transport, p.metrics⟩)

/-- Publishes an event from a replica. -/
def publishChange (g : ReplicaGroup) (i : Nat) (event : RegistryEvent) :
    Except SyncError Unit × ReplicaGroup :=
  g.publishWith i fun s t m => s.publishChange event t m

/-- Registers a service for a URN at a replica. -/
def register (g : ReplicaGroup) (i : Nat) (urn : Urn) (registration : Registration) :
    Except SyncError Service × ReplicaGroup :=
  g.publishWith i fun s t m => s.register urn registration t m

/-- Deregisters a URN at a replica. -/
def deregister (g : ReplicaGroup) (i : Nat) (urn : Urn) :
    Except SyncError Bool × ReplicaGroup :=
  g.publishWith i fun s t m => s.deregister urn t m

/-- Registers the first services of a namespace, up to the first failure, while no loop runs. -/
def burst (g : ReplicaGroup) (i : Nat) (ns : String) (count : Nat) :
    Except SyncError Unit × ReplicaGroup :=
  (List.range count).foldl (fun (result, g) n =>
    match result with
    | .error e => (.error e, g)
    | .ok () =>
      let (result, g) := g.register i ⟨ns, toString n⟩ {}
      (result.map fun _ => (), g)) (.ok (), g)

/-- Publishes a payload on the transport of a replica. -/
def publishRaw (g : ReplicaGroup) (i : Nat) (topic key : String) (payload : Bytes) :
    Except BusError Nat × ReplicaGroup :=
  match (g.transport i).publish topic key payload with
  | .error e => (.error e, g)
  | .ok (n, transport) =>
    (.ok n, { g with transports := g.transports.setIfInBounds (g.member i).transport transport })

/-- Changes the transport of a replica. -/
def modifyTransport (g : ReplicaGroup) (i : Nat) (f : Transport → Transport) : ReplicaGroup :=
  { g with transports := g.transports.modify (g.member i).transport f }

/-- Changes the signal of a replica. -/
def modifySignal (g : ReplicaGroup) (i : Nat) (f : Signal → Signal) : ReplicaGroup :=
  let m := g.member i
  g.setMember i { m with signal := f m.signal }

/-- Lets the time pass at once up to a time. -/
def advanceTo (g : ReplicaGroup) (time : Nat) : ReplicaGroup :=
  { g with now := max g.now time }

end ReplicaGroup

end ServiceBroker
