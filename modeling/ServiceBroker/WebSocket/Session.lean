import ServiceBroker.Delivery.LiveChannels
import ServiceBroker.Duration
import ServiceBroker.Replication.ConsumeLoop
import ServiceBroker.WebSocket.Inbox

/-!
# Live-channel sessions

A session carries a consumer's live channel over a WebSocket: every frame of the channel becomes a
message, pings are answered, and the server pings at its own interval. The session ends when the
client goes, when the channel is superseded (close code 1008) or when the process shuts down (close
code 1001); then it drops its connection.

`Session.step` takes one of the things that may come next; `Session.run` takes them until the
session has to wait. Times are in milliseconds.
-/

namespace ServiceBroker.WebSocket

/-- A message of the server. -/
inductive Outgoing where
  | text (s : String)
  | binary (data : Bytes)
  | ping (data : Bytes)
  | pong (data : Bytes)
  | close (code : Nat) (reason : String)
deriving DecidableEq

/-- A pushed frame as a message: a text if it is one. -/
def Outgoing.ofFrame (frame : Bytes) : Outgoing :=
  match frame.toString? with
  | some s => .text s
  | none => .binary frame

/-- The message that closes a superseded session. -/
def supersededClose : Outgoing := .close 1008 "superseded by a newer connection"

/-- The message that closes a session when the process shuts down. -/
def shutdownClose : Outgoing := .close 1001 "shutting down"

/-- What the client has done with its end. -/
inductive ClientEnd where
  /-- It may send and read. -/
  | active
  /-- It has sent or read a close message. -/
  | closing
  /-- It has gone. -/
  | gone
deriving DecidableEq, Repr

/-- A WebSocket with the session at its server's end. -/
structure Session where
  /-- The replica that serves it. -/
  replica : Nat
  /-- The connection whose frames it carries. -/
  connection : Nat
  /-- Time between pings. -/
  period : Duration
  /-- When it started. -/
  started : Nat
  /-- The version of the shutdown signal that it has seen. -/
  seen : Nat := 0
  /-- Pings that the server has sent. -/
  pings : Nat := 0
  /-- What the client has sent and the session has not taken. -/
  inbox : Inbox := {}
  /-- What the server has sent and the client has not read, the oldest first. -/
  outbound : List Outgoing := []
  /-- Whether the session has ended. -/
  hasEnded : Bool := false
  /-- The client's end. -/
  client : ClientEnd := .active

namespace Session

/-! ## The server's end -/

/-- Sends a message to the client. -/
def send (s : Session) (m : Outgoing) : Session := { s with outbound := s.outbound ++ [m] }

/-- Ends the session. -/
def finish (s : Session) (channels : LiveChannels) : Session × LiveChannels :=
  ({ s with hasEnded := true }, channels.drop s.connection)

/-- Starts the session. It ends at once if shutdown has been signalled. -/
def start (s : Session) (signal : Signal) (channels : LiveChannels) : Session × LiveChannels :=
  if signal.raised then (s.send shutdownClose).finish channels else (s, channels)

/-- What may come next in a session. -/
inductive Branch where
  /-- A frame of the channel, or its end. -/
  | pushed
  /-- A message of the client, or its end. -/
  | incoming
  /-- The time for a ping. -/
  | ping
  /-- A change of the shutdown signal. -/
  | shutdown
deriving DecidableEq, Repr

/-- The time at which the next ping is sent. -/
def nextPing (s : Session) : Nat :=
  (s.started * 1000000 + (s.pings + 1) * s.period.nanos + 999999) / 1000000

/-- Takes what comes next on a branch; `none` if nothing has come there. -/
def step (s : Session) (branch : Branch) (now : Nat) (signal : Signal) (channels : LiveChannels) :
    Option (Session × LiveChannels) :=
  if s.hasEnded then none
  else
    match branch with
    | .pushed =>
      match channels.receive s.connection with
      | (.message frame, channels) => some (s.send (.ofFrame frame), channels)
      | (.closed, channels) => some ((s.send supersededClose).finish channels)
      | (.pending, _) => none
    | .incoming =>
      match s.inbox.next? with
      | some (.ping data, inbox) => some ({ s with inbox }.send (.pong data), channels)
      | some (.ignored, inbox) => some ({ s with inbox }, channels)
      | some (.ended, inbox) => some ({ s with inbox }.finish channels)
      | none => if s.client = .gone then some (s.finish channels) else none
    | .ping =>
      if s.nextPing ≤ now then some ({ s with pings := s.pings + 1 }.send (.ping []), channels)
      else none
    | .shutdown =>
      if signal.version ≠ s.seen ∨ signal.dropped then
        some ((s.send shutdownClose).finish channels)
      else none

/-- Takes what comes next on the first branch that has something. -/
def stepAny (s : Session) (now : Nat) (signal : Signal) (channels : LiveChannels) :
    Option (Session × LiveChannels) :=
  [Branch.pushed, .incoming, .ping, .shutdown].findSome? fun branch =>
    s.step branch now signal channels

/-- Runs the session until it has to wait. `steps` bounds the steps. -/
def run (now : Nat) (signal : Signal) : (steps : Nat) → Session → LiveChannels →
    Session × LiveChannels
  | 0, s, channels => (s, channels)
  | steps + 1, s, channels =>
    match s.stepAny now signal channels with
    | none => (s, channels)
    | some (s, channels) => run now signal steps s channels

/-- The steps that the session can take before it has to wait: one for each frame of its channel,
each message of the client (of at least two bytes), each ping that is due, and one to end. -/
def stepBound (s : Session) (now : Nat) (channels : LiveChannels) : Nat :=
  let frames := ((channels.channels[s.connection]?).map fun c =>
    c.buffer.length + c.waiting.length).getD 0
  let pings := (now - s.started) * 1000000 / s.period.nanos - s.pings
  frames + s.inbox.bytes.length + pings + 2

/-! ## The client's end -/

/-- Sends bytes as they are; `none` if there is nobody to take them. -/
def clientSendBytes (s : Session) (bytes : Bytes) : Option Session :=
  if s.hasEnded then none
  else some { s with inbox := { s.inbox with bytes := s.inbox.bytes ++ bytes } }

/-- Sends a frame if the client is not closing; says whether there was somebody to take it. -/
def clientSend (s : Session) (f : Frame) : Bool × Session :=
  if s.client ≠ .active then (false, s)
  else
    let s := { s with client := if f.opcode = .close then .closing else s.client }
    match s.clientSendBytes (f.encode {}) with
    | some s => (true, s)
    | none => (false, s)

/-- What the client finds when it reads. -/
inductive Found where
  | message (m : Outgoing)
  /-- The stream is over. -/
  | ended
deriving DecidableEq

/-- Takes the messages that have arrived, up to a close message or the end of the stream. A client
that is not closing answers each ping before it goes on to read; if nobody is there to take the
answer, the stream is over for it. -/
def clientTake (s : Session) : List Outgoing → List Found × Session
  | [] => (if s.hasEnded then [.ended] else [], { s with outbound := [] })
  | .close code reason :: rest =>
    ([.message (.close code reason)], { s with
      outbound := rest
      client := if s.client = .gone then .gone else .closing })
  | .ping data :: rest =>
    if s.client = .active then
      match s.clientSend { opcode := .pong, payload := data } with
      | (true, s) =>
        let (found, s) := s.clientTake rest
        (.message (.ping data) :: found, s)
      | (false, s) => ([.message (.ping data), .ended], { s with outbound := [] })
    else
      let (found, s) := s.clientTake rest
      (.message (.ping data) :: found, s)
  | m :: rest =>
    let (found, s) := s.clientTake rest
    (.message m :: found, s)

/-- Reads all that has arrived. -/
def clientRead (s : Session) : List Found × Session := s.clientTake s.outbound

/-- Lets the client vanish. -/
def clientDrop (s : Session) : Session := { s with client := .gone }

end Session

end ServiceBroker.WebSocket
