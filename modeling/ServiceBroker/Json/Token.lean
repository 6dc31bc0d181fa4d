import ServiceBroker.Json.Number
import ServiceBroker.Json.Printer

/-!
# Reading scalars

`readChars` reads the rest of a string and `readToken` what stands at the start of a value: a whole
scalar or the opening of a container. `skipChars` passes over a string without looking at what it
means.

A loop is bounded by `size`, which is at least the number of bytes left: where it is used up the
text has ended.
-/

namespace ServiceBroker.Json

open Ascii

/-- Whether the byte is blank between the parts of a text. -/
def isBlank (b : UInt8) : Bool := b == space || b == lineFeed || b == tab || b == carriageReturn

/-- The text without the blanks in front. -/
def skipBlank (bytes : Bytes) : Bytes := bytes.dropWhile isBlank

/-! ## Strings -/

/-- The number that four hexadecimal digits stand for. -/
def hexNumber? (a b c d : UInt8) : Option Nat := do
  let a ← Bytes.hexValue? a
  let b ← Bytes.hexValue? b
  let c ← Bytes.hexValue? c
  let d ← Bytes.hexValue? d
  return ((a * 16 + b) * 16 + c) * 16 + d

/-- Reads four hexadecimal digits. -/
def readHex : Bytes → Except ReadError (Nat × Bytes)
  | a :: b :: c :: d :: rest =>
    match hexNumber? a b c d with
    | some n => .ok (n, rest)
    | none => .error (.grammar .invalidEscape)
  | _ => .error (.ended .string)

/-- Reads one given byte inside a surrogate pair. -/
def readPairByte (expected : UInt8) : Bytes → Except ReadError Bytes
  | [] => .error (.ended .string)
  | b :: rest =>
    if b = expected then .ok rest else .error (.grammar .unfinishedSurrogatePair)

/-- Whether the number is a trailing surrogate. -/
def isTrailing (n : Nat) : Bool := 0xdc00 ≤ n && n ≤ 0xdfff

/-- Reads the digits of a numbered character, and the second escape if the first is a leading
surrogate. -/
def readNumbered (bytes : Bytes) : Except ReadError (Char × Bytes) := do
  let (n, rest) ← readHex bytes
  if isTrailing n then .error (.grammar .loneSurrogate)
  else if n < 0xd800 ∨ 0xdbff < n then .ok (Char.ofNat n, rest)
  else
    let rest ← readPairByte backslash rest
    let rest ← readPairByte 0x75 rest
    let (m, rest) ← readHex rest
    if isTrailing m then
      .ok (Char.ofNat (0x10000 + (n - 0xd800) * 0x400 + (m - 0xdc00)), rest)
    else .error (.grammar .loneSurrogate)

/-- The byte that a one-letter escape stands for. -/
def plainEscape? (b : UInt8) : Option UInt8 :=
  if b = quote ∨ b = backslash ∨ b = slash then some b
  else if b = 0x62 then some 0x08
  else if b = 0x66 then some 0x0c
  else if b = 0x6e then some lineFeed
  else if b = 0x72 then some carriageReturn
  else if b = 0x74 then some tab
  else none

/-- Reads an escape, its backslash read, and gives the bytes it stands for. -/
def readEscape : Bytes → Except ReadError (Bytes × Bytes)
  | [] => .error (.ended .string)
  | b :: rest =>
    match plainEscape? b with
    | some e => .ok ([e], rest)
    | none =>
      if b = 0x75 then (readNumbered rest).map fun (c, rest) => (String.utf8EncodeChar c, rest)
      else .error (.grammar .invalidEscape)

/-- Reads a string to its closing quote; `done` are the bytes read so far, the last one first. -/
def readChars : (size : Nat) → (done : Reversed) → Bytes → Except ReadError (String × Bytes)
  | 0, _, _ => .error (.ended .string)
  | _ + 1, _, [] => .error (.ended .string)
  | size + 1, done, b :: rest =>
    if b = quote then
      match Bytes.toString? done.reverse with
      | some s => .ok (s, rest)
      | none => .error (.grammar .invalidCodePoint)
    else if b = backslash then
      match readEscape rest with
      | .ok (meant, rest) => readChars size (pushBytes meant done) rest
      | .error e => .error e
    else if b < 0x20 then .error (.grammar .controlCharacter)
    else readChars size (b :: done) rest

/-- Skips an escape, its backslash read. -/
def skipEscape : Bytes → Except ReadError Bytes
  | [] => .error (.ended .string)
  | b :: rest =>
    if (plainEscape? b).isSome then .ok rest
    else if b = 0x75 then (readHex rest).map (·.2)
    else .error (.grammar .invalidEscape)

/-- Skips a string to its closing quote. -/
def skipChars : (size : Nat) → Bytes → Except ReadError Bytes
  | 0, _ => .error (.ended .string)
  | _ + 1, [] => .error (.ended .string)
  | size + 1, b :: rest =>
    if b = quote then .ok rest
    else if b = backslash then
      match skipEscape rest with
      | .ok rest => skipChars size rest
      | .error e => .error e
    else if b < 0x20 then .error (.grammar .controlCharacter)
    else skipChars size rest

/-! ## Starts of values -/

/-- Reads the rest of a word letter by letter. -/
def readLetters : (word : Bytes) → Bytes → Except ReadError Bytes
  | [], bytes => .ok bytes
  | _ :: _, [] => .error (.ended .value)
  | letter :: word, b :: rest =>
    if b = letter then readLetters word rest else .error (.grammar .expectedIdent)

/-- Reads what stands at the start of a value: a whole scalar or the opening of a container. -/
def readToken (size : Nat) (bytes : Bytes) : Except ReadError (Token × Bytes) :=
  match skipBlank bytes with
  | [] => .error (.ended .value)
  | b :: rest =>
    if b = quote then (readChars size [] rest).map fun (s, rest) => (.string s, rest)
    else if b = openBrace then .ok (.object, rest)
    else if b = openBracket then .ok (.list, rest)
    else if b = minus then readNumber true rest
    else if isDigit b then readNumber false (b :: rest)
    else if b = 0x6e then (readLetters [0x75, 0x6c, 0x6c] rest).map (.null, ·)
    else if b = 0x74 then (readLetters [0x72, 0x75, 0x65] rest).map (.boolean true, ·)
    else if b = 0x66 then (readLetters [0x61, 0x6c, 0x73, 0x65] rest).map (.boolean false, ·)
    else .error (.grammar .expectedValue)

end ServiceBroker.Json
