import ServiceBroker.Bytes

/-!
# WebSocket frames

The frames of a WebSocket as a server reads them from a client and as it hands them to one. A client
masks every frame; `Frame.encode` writes a frame under a mask and `Frame.decode` reads one back.
-/

namespace ServiceBroker.WebSocket

/-- Kinds of frames. -/
inductive Opcode where
  | continuation
  | text
  | binary
  | close
  | ping
  | pong
deriving DecidableEq, Repr

namespace Opcode

/-- The number of a kind of frame. -/
def code : Opcode → UInt8
  | .continuation => 0
  | .text => 1
  | .binary => 2
  | .close => 8
  | .ping => 9
  | .pong => 10

/-- The kind of frame of a number; the other numbers are reserved. -/
def ofCode? (n : UInt8) : Option Opcode :=
  [.continuation, .text, .binary, .close, .ping, .pong].find? (·.code == n)

/-- Whether it is a control frame, which may stand between the frames of a message. -/
def isControl (o : Opcode) : Bool := 8 ≤ o.code

end Opcode

/-- A frame. -/
structure Frame where
  /-- Whether it is the last one of its message. -/
  final : Bool := true
  /-- Its kind. -/
  opcode : Opcode
  /-- What it carries, unmasked. -/
  payload : Bytes
deriving DecidableEq

/-- A mask: four bytes that are laid on the payload again and again. -/
structure Mask where
  a : UInt8 := 0
  b : UInt8 := 0
  c : UInt8 := 0
  d : UInt8 := 0
deriving DecidableEq, Repr

/-- Lays a mask on a payload, or takes it off. -/
def Mask.apply (m : Mask) : Bytes → Bytes
  | [] => []
  | b :: rest => (b ^^^ m.a) :: Mask.apply ⟨m.b, m.c, m.d, m.a⟩ rest

/-- A number in `count` bytes, the most significant first. -/
def bigEndian (n : Nat) : (count : Nat) → Bytes
  | 0 => []
  | count + 1 => UInt8.ofNat (n >>> (8 * count)) :: bigEndian n count

/-- The number in some bytes, the most significant first. -/
def ofBigEndian (bytes : Bytes) : Nat := bytes.foldl (fun n b => n * 256 + b.toNat) 0

/-- The largest payload of a frame that is accepted. -/
def maxFrameSize : Nat := 16777216

/-- The largest message that is accepted. -/
def maxMessageSize : Nat := 67108864

/-- The largest payload of a control frame. -/
def maxControlSize : Nat := 125

/-- What reading a frame has come to. -/
inductive Decoded where
  /-- More bytes are needed. -/
  | incomplete
  /-- The bytes violate the protocol. -/
  | violation
  /-- A frame, and the bytes behind it. -/
  | frame (f : Frame) (rest : Bytes)

namespace Frame

/-- The text of a frame under a mask. -/
def encode (f : Frame) (mask : Mask) : Bytes :=
  let size := f.payload.length
  let first := f.opcode.code ||| (if f.final then 0x80 else 0)
  let length :=
    if size < 126 then [UInt8.ofNat size ||| 0x80]
    else if size < 65536 then (126 ||| 0x80) :: bigEndian size 2
    else (127 ||| 0x80) :: bigEndian size 8
  first :: length ++ [mask.a, mask.b, mask.c, mask.d] ++ mask.apply f.payload

/-- The size of a payload, whose first byte is `n`, and the bytes behind it. -/
def readSize? (n : UInt8) (bytes : Bytes) : Option (Nat × Bytes) :=
  let count := if n < 126 then 0 else if n = 126 then 2 else 8
  if count = 0 then some (n.toNat, bytes)
  else if bytes.length < count then none
  else some (ofBigEndian (bytes.take count), bytes.drop count)

/-- The mask in front of a payload, and the bytes behind it; without a mask there is none. -/
def readMask? (masked : Bool) (bytes : Bytes) : Option (Option Mask × Bytes) :=
  if !masked then some (none, bytes)
  else
    match bytes with
    | a :: b :: c :: d :: rest => some (some ⟨a, b, c, d⟩, rest)
    | _ => none

/-- Whether a frame with these properties is allowed from a client. The reserved bits are not used,
and a control frame is short and in one piece. -/
def isAllowed (final : Bool) (reserved : UInt8) (opcode : Opcode) (size : Nat) : Bool :=
  reserved == 0 && (!opcode.isControl || (final && size ≤ maxControlSize))

/-- Reads a frame from a client. -/
def decode : Bytes → Decoded
  | first :: second :: rest =>
    match (readSize? (second &&& 0x7f) rest).bind fun (size, rest) =>
        (readMask? (0x80 ≤ second) rest).map (size, ·) with
    | none => .incomplete
    | some (size, mask?, rest) =>
      match Opcode.ofCode? (first &&& 0x0f) with
      | none => .violation
      | some opcode =>
        if maxFrameSize < size then .violation
        else if rest.length < size then .incomplete
        else
          match mask? with
          | none => .violation
          | some mask =>
            let final : Bool := 0x80 ≤ first
            if isAllowed final (first &&& 0x70) opcode size then
              .frame ⟨final, opcode, mask.apply (rest.take size)⟩ (rest.drop size)
            else .violation
  | _ => .incomplete

end Frame

end ServiceBroker.WebSocket
