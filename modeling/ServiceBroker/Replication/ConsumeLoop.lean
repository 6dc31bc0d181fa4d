import ServiceBroker.Replication.Synchronizer

/-!
# Consume loops

A consume loop reads a replica's subscription and applies what it finds. When the subscription ends
it waits for a while and subscribes again, as often as it takes. It stops for good when it sees the
shutdown signal raised or its sender gone.

`ConsumeLoop.step` is one step of a loop at a given time in milliseconds; `ConsumeLoop.run` goes on
until the loop has to wait.
-/

namespace ServiceBroker

/-- A signal that tasks watch. -/
structure Signal where
  /-- Its value; raised, it asks tasks to stop. -/
  raised : Bool := false
  /-- The number of times it was set. -/
  version : Nat := 0
  /-- Whether its sender has gone. -/
  dropped : Bool := false
deriving DecidableEq, Repr, Inhabited

/-- Sets the signal. -/
def Signal.set (s : Signal) (raised : Bool) : Signal :=
  { s with raised, version := s.version + 1 }

/-- What a consume loop is doing. -/
inductive LoopState where
  /-- It reads a subscription. -/
  | listening (subscription : BusSubscription)
  /-- It will subscribe again at a time. -/
  | waiting (wake : Nat)
  /-- It has stopped. -/
  | stopped
deriving DecidableEq, Repr

/-- A loop that applies what one replica reads from the transport. -/
structure ConsumeLoop where
  /-- Number that tells it from every other loop. -/
  number : Nat
  /-- The replica it works for. -/
  replica : Nat
  /-- The version of the signal that it has seen. -/
  seen : Nat := 0
  /-- What it is doing. -/
  state : LoopState
deriving Repr

namespace ConsumeLoop

/-- What a loop works on. -/
structure Context where
  /-- The synchronizer it feeds. -/
  sync : Synchronizer
  /-- The transport it reads. -/
  transport : Transport
  /-- The metrics of the process. -/
  metrics : Metrics

/-- Whether the loop is running. -/
def isRunning (l : ConsumeLoop) : Bool := l.state != .stopped

/-- Stops the loop; a subscription it reads ends. -/
def stop (l : ConsumeLoop) (c : Context) : ConsumeLoop × Context :=
  ({ l with state := .stopped },
    match l.state with
    | .listening s => { c with transport := c.transport.unsubscribe s }
    | _ => c)

/-- When a loop that starts to wait now will subscribe again. -/
def wakeTime (now : Nat) (c : Context) : Nat := now + c.sync.config.resubscribeDelay.millisUp

/-- One step of a loop at the time `now`; `none` if it has to wait. -/
def step (now : Nat) (signal : Signal) (l : ConsumeLoop) (c : Context) :
    Option (ConsumeLoop × Context) :=
  match l.state with
  | .stopped => none
  | .listening s =>
    if signal.raised then some (l.stop c)
    else if signal.version ≠ l.seen then some ({ l with seen := signal.version }, c)
    else if signal.dropped then some (l.stop c)
    else
      match c.transport.receive s with
      | (.pending, _) => none
      | (.closed, transport) =>
        some ({ l with state := .waiting (wakeTime now c) },
          { c with transport := transport.unsubscribe s })
      | (.message m, transport) =>
        let (sync, metrics) := c.sync.handle m c.metrics
        some (l, { sync, transport, metrics })
  | .waiting wake =>
    if signal.version ≠ l.seen then
      if signal.raised then some (l.stop c)
      else some ({ l with seen := signal.version, state := .waiting (wakeTime now c) }, c)
    else if signal.dropped then some (l.stop c)
    else if now < wake then none
    else
      match c.transport.subscribe c.sync.config.topic with
      | (.ok s, transport) => some ({ l with state := .listening s }, { c with transport })
      | (.error _, transport) =>
        some ({ l with state := .waiting (wakeTime now c) }, { c with transport })

/-- Runs a loop until it has to wait. `steps` bounds the steps. -/
def run (now : Nat) (signal : Signal) : (steps : Nat) → ConsumeLoop → Context →
    ConsumeLoop × Context
  | 0, l, c => (l, c)
  | steps + 1, l, c =>
    match l.step now signal c with
    | none => (l, c)
    | some (l, c) => run now signal steps l c

/-- The steps that a loop can take before it has to wait: one for each message that it will find
and for each subscription that will be refused, and some to see a signal, to subscribe again and to
stop. -/
def stepBound (l : ConsumeLoop) (c : Context) : Nat :=
  4 + c.transport.refusals + match l.state with
    | .listening s => c.transport.unread s
    | _ => 0

/-- The time at which a loop that waits goes on by itself. -/
def nextTime? (l : ConsumeLoop) : Option Nat :=
  match l.state with
  | .waiting wake => some wake
  | _ => none

/-- The time at which a loop goes on; one that reads its subscription is ready at any time. -/
def dueTime (l : ConsumeLoop) : Nat := l.nextTime?.getD 0

end ConsumeLoop

end ServiceBroker
