import ServiceBroker.Json.Token

/-!
# Values that nobody asked for

The value of an unknown member is passed over. Its grammar is checked, but not its depth, the range
of its numbers or the surrogates of its strings. The containers that are open are held on a stack.
-/

namespace ServiceBroker.Json

open Ascii

/-- A container that is open. -/
inductive Frame where
  | list
  | object
deriving DecidableEq, Repr

/-- What may come next while a value is skipped. -/
inductive Due where
  /-- The start of a value. -/
  | value
  /-- The first element of the innermost container, or its end. -/
  | element
  /-- A comma, or the end of the innermost container. -/
  | separator
deriving DecidableEq, Repr

/-- The byte that closes a container. -/
def Frame.closing : Frame → UInt8
  | .list => closeBracket
  | .object => closeBrace

/-- The fault of a container in which neither a comma nor its end follows. -/
def Frame.unseparated : Frame → Fault
  | .list => .expectedItemSeparator
  | .object => .expectedMemberSeparator

/-- The part that ended with a container open. -/
def Frame.part : Frame → Part
  | .list => .list
  | .object => .object

/-- Skips what stands before the value of an element: nothing in a list, the key and a colon in an
object. -/
def Frame.skipKey (size : Nat) (bytes : Bytes) : Frame → Except ReadError Bytes
  | .list => .ok bytes
  | .object => do
    match skipBlank bytes with
    | [] => .error (.ended .object)
    | b :: rest =>
      if b ≠ quote then .error (.grammar .keyNotString)
      else
        let rest ← skipChars size rest
        match skipBlank rest with
        | [] => .error (.ended .object)
        | b :: rest => if b = colon then .ok rest else .error (.grammar .expectedColon)

/-- Skips the scalar or opens the container that starts with the byte `b`; gives the containers
then open and what is due. -/
def skipStart (size : Nat) (stack : List Frame) (b : UInt8) (rest : Bytes) :
    Except ReadError (Due × List Frame × Bytes) :=
  let scalar (r : Except ReadError Bytes) := r.map fun rest => (.separator, stack, rest)
  if b = quote then scalar (skipChars size rest)
  else if b = openBrace then .ok (.element, .object :: stack, rest)
  else if b = openBracket then .ok (.element, .list :: stack, rest)
  else if b = minus then scalar (skipNumber rest)
  else if isDigit b then scalar (skipNumber (b :: rest))
  else if b = 0x6e then scalar (readLetters [0x75, 0x6c, 0x6c] rest)
  else if b = 0x74 then scalar (readLetters [0x72, 0x75, 0x65] rest)
  else if b = 0x66 then scalar (readLetters [0x61, 0x6c, 0x73, 0x65] rest)
  else .error (.grammar .expectedValue)

/-- Skips to the end of a value. `steps` bounds the steps: each takes a byte, or makes a value due
that takes one. -/
def skipLoop (size : Nat) : (steps : Nat) → Due → List Frame → Bytes → Except ReadError Bytes
  | 0, _, _, _ => .error (.ended .value)
  | steps + 1, .value, stack, bytes =>
    match skipBlank bytes with
    | [] => .error (.ended .value)
    | b :: rest =>
      match skipStart size stack b rest with
      | .ok (due, stack, rest) => skipLoop size steps due stack rest
      | .error e => .error e
  | _ + 1, _, [], bytes => .ok bytes
  | steps + 1, due, frame :: stack, bytes =>
    match skipBlank bytes with
    | [] => .error (.ended frame.part)
    | b :: rest =>
      if b = frame.closing then skipLoop size steps .separator stack rest
      else if due = .separator ∧ b ≠ comma then .error (.grammar frame.unseparated)
      else
        match frame.skipKey size (if due = .separator then rest else b :: rest) with
        | .ok rest => skipLoop size steps .value (frame :: stack) rest
        | .error e => .error e

/-- Skips a value. -/
def skipValue (size : Nat) (bytes : Bytes) : Except ReadError Bytes :=
  skipLoop size (2 * size + 2) .value [] bytes

end ServiceBroker.Json
