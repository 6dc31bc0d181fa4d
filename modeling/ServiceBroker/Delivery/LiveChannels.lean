import Std.Data.ExtTreeMap
import ServiceBroker.Bytes
import ServiceBroker.MessageBus.Broadcast
import ServiceBroker.Urn

/-!
# Live channels

Each consumer has at most one live channel: a newer one supersedes it. A channel buffers a bounded
number of frames; a push to a full channel waits for a slot, first come, first served.

- `LiveChannels.connect` connects a consumer, `LiveChannels.drop` ends a connection;
- `LiveChannels.push` hands a frame to a channel or makes the push wait, `LiveChannels.cancel` gives
  up a push that waits;
- `LiveChannels.receive` takes the oldest frame of a channel, so that the first push that waits gets
  its slot.

A superseded channel ends once it is drained and nothing can be pushed to it any more: no push waits
on it and nobody holds a handle to it.
-/

namespace ServiceBroker

/-- Why a push to one consumer did not happen. -/
inductive ChannelError where
  /-- The consumer has no live channel. -/
  | notConnected
  /-- The channel was closed while the push waited. -/
  | closed
  /-- The push waited too long. -/
  | timeout
deriving DecidableEq, Repr

/-- The wording of a failed push. -/
def ChannelError.message : ChannelError → String
  | .notConnected => "consumer has no live channel"
  | .closed => "live channel closed"
  | .timeout => "live channel send timed out"

/-- The name of the cause in metrics. -/
def ChannelError.label : ChannelError → String
  | .notConnected => "not_connected"
  | .closed => "closed"
  | .timeout => "timeout"

/-- The result of a push: `none`, or why it failed. -/
abbrev PushResult := Option ChannelError

/-- A push that waits for a slot. -/
structure Ticket where
  /-- The connection it waits on. -/
  connection : Nat
  /-- Number that tells it from every other push. -/
  number : Nat
deriving DecidableEq, Repr

/-- A channel whose reader is still there. -/
structure LiveChannel where
  /-- The consumer it belongs to. -/
  consumer : Urn
  /-- Frames that were accepted and not received yet, the oldest first. -/
  buffer : List Bytes := []
  /-- Pushes that wait for a slot, by their numbers, the first to come first. -/
  waiting : List (Nat × Bytes) := []
  /-- Handles to the channel that are held outside. -/
  handles : Nat := 0

/-- The live channels of one replica. -/
structure LiveChannels where
  /-- Frames that a channel buffers. -/
  capacity : Nat := 64
  /-- The channels whose readers are still there, by connection. -/
  channels : Std.ExtTreeMap Nat LiveChannel := ∅
  /-- The connection of each connected consumer. -/
  current : Std.ExtTreeMap Urn Nat := ∅
  /-- The number of the next connection. -/
  nextConnection : Nat := 0
  /-- The number of the next push that waits. -/
  nextPush : Nat := 0
  /-- How pushes that waited have ended, until this is asked for. -/
  ended : Std.ExtTreeMap Nat PushResult := ∅

namespace LiveChannels

/-- No channels yet; each will buffer `capacity` frames, but at least one. -/
def ofCapacity (capacity : Nat) : LiveChannels := { capacity := max capacity 1 }

/-- The number of connected consumers. -/
def connectionCount (l : LiveChannels) : Nat := l.current.size

/-- Whether the consumer is connected. -/
def isConnected (l : LiveChannels) (consumer : Urn) : Bool := l.current.contains consumer

/-- Changes a channel, if its reader is still there. -/
def modify (l : LiveChannels) (connection : Nat) (f : LiveChannel → LiveChannel) : LiveChannels :=
  match l.channels[connection]? with
  | some c => { l with channels := l.channels.insert connection (f c) }
  | none => l

/-! ## Connections -/

/-- The largest buffer that a channel can have. -/
def largestCapacity : Nat := 0x1fffffffffffffff

/-- Opens a channel for a consumer, superseding the one it has; `none` if no channel can have such
a buffer. -/
def connect (l : LiveChannels) (consumer : Urn) : Option (Nat × LiveChannels) :=
  if largestCapacity < l.capacity then none
  else some (l.nextConnection, { l with
    channels := l.channels.insert l.nextConnection { consumer }
    current := l.current.insert consumer l.nextConnection
    nextConnection := l.nextConnection + 1 })

/-- Whether the connection is the current one of its consumer. -/
def isCurrent (l : LiveChannels) (connection : Nat) : Bool :=
  match l.channels[connection]? with
  | some c => l.current[c.consumer]? == some connection
  | none => false

/-- Drops the reading end of a connection. Pushes that wait on it fail; the consumer is no longer
connected unless a newer connection has taken over. -/
def drop (l : LiveChannels) (connection : Nat) : LiveChannels :=
  match l.channels[connection]? with
  | none => l
  | some c => { l with
      channels := l.channels.erase connection
      current := if l.isCurrent connection then l.current.erase c.consumer else l.current
      ended := l.ended.insertMany (c.waiting.map fun (number, _) => (number, some .closed)) }

/-- Takes a handle to the channel of a consumer, which keeps the channel from ending. -/
def hold (l : LiveChannels) (consumer : Urn) : Option (Nat × LiveChannels) :=
  (l.current[consumer]?).map fun connection =>
    (connection, l.modify connection fun c => { c with handles := c.handles + 1 })

/-- Gives a handle back. -/
def release (l : LiveChannels) (connection : Nat) : LiveChannels :=
  l.modify connection fun c => { c with handles := c.handles - 1 }

/-! ## Pushes -/

/-- How a push starts. -/
inductive Start where
  /-- It ends at once. -/
  | ended (result : PushResult)
  /-- It waits for a slot. -/
  | waits (ticket : Ticket)
deriving DecidableEq, Repr

/-- Pushes a frame to a connection. -/
def pushTo (l : LiveChannels) (connection : Nat) (frame : Bytes) : Start × LiveChannels :=
  match l.channels[connection]? with
  | none => (.ended (some .closed), l)
  | some c =>
    if c.waiting.isEmpty && c.buffer.length < l.capacity then
      (.ended none, l.modify connection fun c => { c with buffer := c.buffer ++ [frame] })
    else
      let l := l.modify connection fun c =>
        { c with waiting := c.waiting ++ [(l.nextPush, frame)] }
      (.waits ⟨connection, l.nextPush⟩, { l with nextPush := l.nextPush + 1 })

/-- Pushes a frame to a consumer. -/
def push (l : LiveChannels) (consumer : Urn) (frame : Bytes) : Start × LiveChannels :=
  match l.current[consumer]? with
  | none => (.ended (some .notConnected), l)
  | some connection => l.pushTo connection frame

/-- Asks how a push that waited has ended; `none` while it still waits. -/
def collect (l : LiveChannels) (ticket : Ticket) : Option PushResult × LiveChannels :=
  match l.ended[ticket.number]? with
  | some result => (some result, { l with ended := l.ended.erase ticket.number })
  | none => (none, l)

/-- Gives up a push that waits. -/
def cancel (l : LiveChannels) (ticket : Ticket) : LiveChannels :=
  { l.modify ticket.connection fun c =>
      { c with waiting := c.waiting.filter fun (number, _) => number != ticket.number } with
    ended := l.ended.erase ticket.number }

/-! ## Reading -/

/-- Takes the oldest frame of a connection. The slot goes to the first push that waits. -/
def receive (l : LiveChannels) (connection : Nat) : Received Bytes × LiveChannels :=
  match l.channels[connection]? with
  | none => (.closed, l)
  | some c =>
    match c.buffer with
    | [] =>
      let ends := !l.isCurrent connection && c.waiting.isEmpty && c.handles == 0
      (if ends then .closed else .pending, l)
    | frame :: buffer =>
      match c.waiting with
      | [] => (.message frame, l.modify connection fun c => { c with buffer })
      | (number, next) :: waiting =>
        let l := l.modify connection fun c => { c with buffer := buffer ++ [next], waiting }
        (.message frame, { l with ended := l.ended.insert number none })

end LiveChannels

end ServiceBroker
