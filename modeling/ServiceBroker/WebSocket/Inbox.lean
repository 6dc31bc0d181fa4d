import ServiceBroker.WebSocket.Frame

/-!
# Messages from clients

What a server makes of the bytes that a client sends: frames are put together to messages, and a
violation of the protocol ends the reading. The broker answers pings; other messages are checked and
then ignored.
-/

namespace ServiceBroker.WebSocket

/-- Whether the byte is a continuation byte of UTF-8 between two bounds. -/
def between (low high b : UInt8) : Bool := low ≤ b && b ≤ high

/-- Whether the second byte may follow the first byte of a character of three or four bytes. -/
def followsLead (lead b : UInt8) : Bool :=
  if lead = 0xe0 then between 0xa0 0xbf b
  else if lead = 0xed then between 0x80 0x9f b
  else if lead = 0xf0 then between 0x90 0xbf b
  else if lead = 0xf4 then between 0x80 0x8f b
  else between 0x80 0xbf b

/-- Whether the bytes are the start of a character that lacks at least one byte. -/
def isUnfinishedChar : Bytes → Bool
  | [lead] => between 0xc2 0xf4 lead
  | [lead, b] => between 0xe0 0xf4 lead && followsLead lead b
  | [lead, b, c] => between 0xf0 0xf4 lead && followsLead lead b && between 0x80 0xbf c
  | _ => false

/-- Whether the bytes can be continued to a text. -/
def isTextSoFar (bytes : Bytes) : Bool :=
  [0, 1, 2, 3].any fun missing =>
    let whole := bytes.length - missing
    (missing == 0 || isUnfinishedChar (bytes.drop whole)) &&
      (Bytes.toString? (bytes.take whole)).isSome

/-- A message whose last frame has not come. -/
structure Fragment where
  /-- Whether it is a text. -/
  isText : Bool
  /-- What has come so far. -/
  data : Bytes

/-- Whether what has come so far is acceptable, the last frame being there or not. -/
def Fragment.isValid (f : Fragment) (final : Bool) : Bool :=
  f.data.length ≤ maxMessageSize &&
    (!f.isText || (if final then (Bytes.toString? f.data).isSome else isTextSoFar f.data))

/-- Bytes from a client that have not been used. -/
structure Inbox where
  /-- Bytes that make no whole frame yet. -/
  bytes : Bytes := []
  /-- A message whose last frame has not come. -/
  fragment : Option Fragment := none

/-- What a client has sent, as far as the broker cares. -/
inductive Incoming where
  /-- A ping, which is to be answered with the same data. -/
  | ping (data : Bytes)
  /-- Something that the broker ignores. -/
  | ignored
  /-- The end: the client closes, or it has violated the protocol. -/
  | ended

namespace Inbox

/-- Takes a data frame. -/
def takeData (inbox : Inbox) (f : Frame) : Incoming × Inbox :=
  let fragment? : Option Fragment := match inbox.fragment, f.opcode with
    | none, .text => some ⟨true, f.payload⟩
    | none, .binary => some ⟨false, f.payload⟩
    | some fragment, .continuation => some { fragment with data := fragment.data ++ f.payload }
    | _, _ => none
  match fragment? with
  | none => (.ended, inbox)
  | some fragment =>
    if !fragment.isValid f.final then (.ended, inbox)
    else (.ignored, { inbox with fragment := if f.final then none else some fragment })

/-- Takes the next frame, if a whole one has come. -/
def next? (inbox : Inbox) : Option (Incoming × Inbox) :=
  match Frame.decode inbox.bytes with
  | .incomplete => none
  | .violation => some (.ended, inbox)
  | .frame f rest =>
    let inbox := { inbox with bytes := rest }
    match f.opcode with
    | .ping => some (.ping f.payload, inbox)
    | .pong => some (.ignored, inbox)
    | .close => some (.ended, inbox)
    | _ => some (inbox.takeData f)

end Inbox

end ServiceBroker.WebSocket
