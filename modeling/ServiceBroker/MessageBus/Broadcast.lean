import Std.Data.ExtTreeMap

/-!
# Broadcast channels

A broadcast channel hands every message to every reader that was there when the message was sent.
It keeps the last `size` messages; a reader that falls further behind goes on at the oldest one
kept. Messages are numbered from zero in the order in which they were sent, and a reader is known by
the number of the message it waits for.
-/

namespace ServiceBroker

/-- What a reader of a channel finds. -/
inductive Received (α : Type) where
  /-- The next message. -/
  | message (a : α)
  /-- Nothing yet. -/
  | pending
  /-- Nothing any more. -/
  | closed
deriving DecidableEq, Repr

/-- A channel that hands every message to every reader. -/
structure Broadcast (α : Type) where
  /-- The number of messages kept. -/
  size : Nat
  /-- The number of messages sent. -/
  sent : Nat := 0
  /-- The messages kept, by their numbers. -/
  kept : Std.ExtTreeMap Nat α := ∅
  /-- For each reader the number of the message it waits for. -/
  readers : Std.ExtTreeMap Nat Nat := ∅
  /-- Whether the sending side has gone. -/
  closed : Bool := false

namespace Broadcast

/-- A new channel for `capacity` messages, rounded up to a power of two. -/
def ofCapacity (capacity : Nat) : Broadcast α := { size := capacity.nextPowerOfTwo }

/-- The number of readers. -/
def readerCount (c : Broadcast α) : Nat := c.readers.size

/-- The number of the oldest message kept. -/
def oldest (c : Broadcast α) : Nat := c.sent - c.size

/-- Adds a reader, which waits for the next message sent. -/
def subscribe (c : Broadcast α) (reader : Nat) : Broadcast α :=
  { c with readers := c.readers.insert reader c.sent }

/-- Takes a reader away. -/
def unsubscribe (c : Broadcast α) (reader : Nat) : Broadcast α :=
  { c with readers := c.readers.erase reader }

/-- Sends a message to the readers; without readers it is lost. -/
def send (c : Broadcast α) (a : α) : Broadcast α :=
  if c.readers.isEmpty then c
  else
    let kept := if c.size ≤ c.sent then c.kept.erase (c.sent - c.size) else c.kept
    { c with sent := c.sent + 1, kept := kept.insert c.sent a }

/-- Ends the sending side. What is kept can still be read. -/
def close (c : Broadcast α) : Broadcast α := { c with closed := true }

/-- The number of messages that a reader will still find. -/
def unread (c : Broadcast α) (reader : Nat) : Nat :=
  match c.readers[reader]? with
  | none => 0
  | some position => c.sent - max position c.oldest

/-- Takes the next message for a reader; one that lags behind goes on at the oldest message kept. -/
def receive (c : Broadcast α) (reader : Nat) : Received α × Broadcast α :=
  match c.readers[reader]? with
  | none => (.closed, c)
  | some position =>
    let position := max position c.oldest
    match c.kept[position]? with
    | some a => (.message a, { c with readers := c.readers.insert reader (position + 1) })
    | none => (if c.closed then .closed else .pending, c)

end Broadcast

end ServiceBroker
