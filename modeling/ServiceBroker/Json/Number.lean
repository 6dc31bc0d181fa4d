import ServiceBroker.Json.Error
import ServiceBroker.Ascii

/-!
# Reading numbers

A number without fraction and exponent that fits 64 bits, signed or unsigned, is read exactly. Any
other is read as a floating-point number: its digits are gathered into a 64-bit significand, further
digits only count for the place of the point, and the significand is scaled by one rounded power of
ten at a time. So the result may differ from the nearest floating-point number in its last place.
-/

namespace ServiceBroker.Json

open Ascii

/-- The largest significand that is gathered. -/
def largestSignificand : Nat := 0xffffffffffffffff

/-- Gathers digits into a significand as long as it fits; gives it with the number of digits
taken and those that are left. -/
def gatherDigits : (significand taken : Nat) → (digits : List UInt8) → Nat × Nat × List UInt8
  | significand, taken, [] => (significand, taken, [])
  | significand, taken, d :: digits =>
    let next := significand * 10 + digitValue d
    if largestSignificand < next then (significand, taken, d :: digits)
    else gatherDigits next (taken + 1) digits

/-- Ten to the power `n`, rounded; for `n` up to 308. -/
def tenTo (n : Nat) : Binary64 := (Binary64.ofNat? (Nat.pow 10 n)).getD (.zero false)

/-- Scales a number by ten to the power `exponent`, in steps of at most 308 places; `none` if the
result is too large. `steps` bounds the steps; a number is zero after three. -/
def scaleByTens (x : Binary64) : (steps : Nat) → (exponent : Int) → Option Binary64
  | steps, exponent =>
    if exponent.natAbs ≤ 308 then
      if 0 ≤ exponent then x.mul (tenTo exponent.natAbs) else x.div (tenTo exponent.natAbs)
    else if x.isZero then some x
    else if 0 ≤ exponent then none
    else match steps, x.div (tenTo 308) with
      | steps + 1, some y => scaleByTens y steps (exponent + 308)
      | _, _ => some (.zero false)

/-- The floating-point number `significand * 10 ^ exponent` with a sign. -/
def realOf (negative : Bool) (significand : Nat) (exponent : Int) : Except ReadError Token :=
  match (Binary64.ofNat? significand).bind fun x => scaleByTens x 4 exponent with
  | some x => .ok (.real (if negative then x.neg else x))
  | none => .error (.grammar .numberOutOfRange)

/-- The number made of a whole significand: a negative one is exact down to `-2 ^ 63`, but a
negative zero is a floating-point number. -/
def wholeOf (negative : Bool) (significand : Nat) : Except ReadError Token :=
  if !negative then .ok (.integer significand)
  else if 0 < significand ∧ significand ≤ 0x8000000000000000 then .ok (.integer (-significand))
  else realOf true significand 0

/-- Reads an exponent, its letter read, and makes the number. An exponent above `2 ^ 31 - 1` is
too large unless it is negative or the significand is zero: then the number is zero. -/
def readExponent (negative : Bool) (significand : Nat) (places : Int) (bytes : Bytes) :
    Except ReadError (Token × Bytes) :=
  let (down, bytes) := match bytes with
    | b :: rest => if b = minus then (true, rest) else if b = plus then (false, rest)
      else (false, bytes)
    | [] => (false, [])
  match bytes with
  | [] => .error (.ended .value)
  | b :: _ =>
    if !isDigit b then .error (.grammar .invalidNumber)
    else
      let (digits, rest) := bytes.span isDigit
      let power := (digits.dropWhile (· = zero)).take 11 |>.foldl
        (fun n d => n * 10 + digitValue d) 0
      if 0x80000000 ≤ power then
        if significand ≠ 0 ∧ !down then .error (.grammar .numberOutOfRange)
        else .ok (.real (.zero negative), rest)
      else
        match realOf negative significand (if down then places - power else places + power) with
        | .ok token => .ok (token, rest)
        | .error e => .error e

/-- Reads what may follow the fraction of a number, and makes the number. -/
def readAfterFraction (negative : Bool) (significand : Nat) (places : Int) (bytes : Bytes) :
    Except ReadError (Token × Bytes) :=
  match bytes with
  | b :: rest =>
    if b = 0x65 ∨ b = 0x45 then readExponent negative significand places rest
    else (realOf negative significand places).map (·, bytes)
  | [] => (realOf negative significand places).map (·, [])

/-- Reads a fraction, its point read, and the rest of the number. -/
def readFraction (negative : Bool) (significand : Nat) (places : Int) (bytes : Bytes) :
    Except ReadError (Token × Bytes) :=
  let (digits, rest) := bytes.span isDigit
  match digits, rest with
  | [], [] => .error (.ended .value)
  | [], _ => .error (.grammar .invalidNumber)
  | digits, rest =>
    let (significand, taken, _) := gatherDigits significand 0 digits
    readAfterFraction negative significand (places - taken) rest

/-- Reads what may follow the whole part of a number, and makes the number; `dropped` digits of
the whole part did not fit the significand. -/
def readAfterWhole (negative : Bool) (significand dropped : Nat) (bytes : Bytes) :
    Except ReadError (Token × Bytes) :=
  let plain : Except ReadError Token :=
    if dropped = 0 then wholeOf negative significand else realOf negative significand dropped
  match bytes with
  | b :: rest =>
    if b = point then readFraction negative significand dropped rest
    else if b = 0x65 ∨ b = 0x45 then readExponent negative significand dropped rest
    else plain.map (·, bytes)
  | [] => plain.map (·, [])

/-- Reads a number, its sign read. -/
def readNumber (negative : Bool) (bytes : Bytes) : Except ReadError (Token × Bytes) :=
  match bytes with
  | [] => .error (.ended .value)
  | b :: rest =>
    if b = zero then
      match rest with
      | c :: _ => if isDigit c then .error (.grammar .invalidNumber)
        else readAfterWhole negative 0 0 rest
      | [] => readAfterWhole negative 0 0 rest
    else if isDigit b then
      let (digits, rest) := bytes.span isDigit
      let (significand, _, left) := gatherDigits 0 0 digits
      readAfterWhole negative significand left.length rest
    else .error (.grammar .invalidNumber)

/-! ## Numbers that nobody asked for -/

/-- Skips an exponent, its letter read. -/
def skipExponent (bytes : Bytes) : Except ReadError Bytes :=
  let bytes := match bytes with
    | b :: rest => if b = minus ∨ b = plus then rest else bytes
    | [] => []
  match bytes.span isDigit with
  | ([], _) => .error (.grammar .invalidNumber)
  | (_, rest) => .ok rest

/-- Skips an exponent if one follows. -/
def skipAfterFraction (bytes : Bytes) : Except ReadError Bytes :=
  match bytes with
  | b :: rest => if b = 0x65 ∨ b = 0x45 then skipExponent rest else .ok bytes
  | [] => .ok []

/-- Skips a fraction and an exponent if they follow. -/
def skipAfterWhole (bytes : Bytes) : Except ReadError Bytes :=
  match bytes with
  | b :: rest =>
    if b = point then
      match rest.span isDigit with
      | ([], _) => .error (.grammar .invalidNumber)
      | (_, rest) => skipAfterFraction rest
    else skipAfterFraction bytes
  | [] => .ok []

/-- Skips a number, its sign read. Only its grammar matters, and an early end is a fault of it. -/
def skipNumber (bytes : Bytes) : Except ReadError Bytes :=
  match bytes.span isDigit with
  | ([], _) => .error (.grammar .invalidNumber)
  | (d :: digits, rest) =>
    if d = zero ∧ digits ≠ [] then .error (.grammar .invalidNumber) else skipAfterWhole rest

end ServiceBroker.Json
