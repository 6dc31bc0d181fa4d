import ServiceBroker.Json.Record
import ServiceBroker.Text

/-!
# Spans of time

A span is a whole number of nanoseconds below `2 ^ 64` seconds. People write it as numbers with
units, such as `1h 30m`:

- `Duration.display` splits a span into units, largest first;
- `Duration.parse?` adds up numbers with units in any order.
-/

namespace ServiceBroker

/-- The nanoseconds of a second. -/
def Duration.secondNanos : Nat := 1000000000

/-- The least number that does not fit 64 bits. -/
def Duration.wordLimit : Nat := 0x10000000000000000

/-- A span of time. -/
structure Duration where
  /-- The number of nanoseconds. -/
  nanos : Nat
  /-- The whole seconds fit 64 bits. -/
  bounded : nanos < Duration.wordLimit * Duration.secondNanos := by decide
deriving DecidableEq

namespace Duration

instance : Inhabited Duration := ⟨⟨0, by decide⟩⟩

/-- The span of `n` nanoseconds, if it is not too long. -/
def ofNanos? (n : Nat) : Option Duration :=
  if h : n < wordLimit * secondNanos then some ⟨n, h⟩ else none

/-- Whether the span is empty. -/
def isZero (d : Duration) : Bool := d.nanos == 0

/-- The span in whole milliseconds, rounded up. -/
def millisUp (d : Duration) : Nat := (d.nanos + 999999) / 1000000

/-! ## Units -/

/-- Units of time. A month is 30.44 days and a year 365.25 days. -/
inductive TimeUnit where
  | nanosecond
  | microsecond
  | millisecond
  | second
  | minute
  | hour
  | day
  | week
  | month
  | year
deriving DecidableEq, Repr

/-- Seconds in a unit, and nanoseconds for a unit below a second. -/
def TimeUnit.length : TimeUnit → Nat × Nat
  | .nanosecond => (0, 1)
  | .microsecond => (0, 1000)
  | .millisecond => (0, 1000000)
  | .second => (1, 0)
  | .minute => (60, 0)
  | .hour => (3600, 0)
  | .day => (86400, 0)
  | .week => (604800, 0)
  | .month => (2630016, 0)
  | .year => (31557600, 0)

/-- The length by which a fraction of a unit is multiplied: up to a minute fractions are kept to
the nanosecond, of longer units to the second. -/
def TimeUnit.fractionLength : TimeUnit → Nat × Nat
  | .second => (0, secondNanos)
  | .minute => (0, 60000000000)
  | unit => unit.length

/-- The names that can be written for each unit. -/
def TimeUnit.names : List (TimeUnit × List String) :=
  [(.nanosecond, ["nanos", "nsec", "ns"]),
    (.microsecond, ["usec", "us", "µs"]),
    (.millisecond, ["millis", "msec", "ms"]),
    (.second, ["seconds", "second", "secs", "sec", "s"]),
    (.minute, ["minutes", "minute", "mins", "min", "m"]),
    (.hour, ["hours", "hour", "hrs", "hr", "h"]),
    (.day, ["days", "day", "d"]),
    (.week, ["weeks", "week", "wks", "wk", "w"]),
    (.month, ["months", "month", "M"]),
    (.year, ["years", "year", "yrs", "yr", "y"])]

/-- The unit of a name. -/
def TimeUnit.ofName? (name : String) : Option TimeUnit :=
  (names.find? (·.2.contains name)).map (·.1)

/-! ## Writing -/

/-- A part of a span under its unit; an absent one is left out. -/
def part (count : Nat) (unit : String) : List String :=
  if count = 0 then [] else [toString count ++ unit]

/-- A part of a span whose unit has a plural. -/
def pluralPart (count : Nat) (unit : String) : List String :=
  part count (if count = 1 then unit else unit ++ "s")

/-- The parts of a span, the largest unit first. -/
def parts (d : Duration) : List String :=
  let seconds := d.nanos / secondNanos
  let nanos := d.nanos % secondNanos
  let inYear := seconds % 31557600
  let inMonth := inYear % 2630016
  let inDay := inMonth % 86400
  pluralPart (seconds / 31557600) "year" ++ pluralPart (inYear / 2630016) "month" ++
    pluralPart (inMonth / 86400) "day" ++ part (inDay / 3600) "h" ++
    part (inDay % 3600 / 60) "m" ++ part (inDay % 60) "s" ++ part (nanos / 1000000) "ms" ++
    part (nanos / 1000 % 1000) "us" ++ part (nanos % 1000) "ns"

/-- The span as people write it. -/
def display (d : Duration) : String :=
  if d.isZero then "0s" else " ".intercalate d.parts

/-! ## Reading -/

/-- A number that fits 64 bits. -/
def word? (n : Nat) : Option Nat := if n < wordLimit then some n else none

/-- Appends a digit to a number, if the result fits 64 bits. -/
def appendDigit? (n : Nat) (digit : Char) : Option Nat := word? (n * 10 + (digit.toNat - 48))

/-- Whether the character may stand in the name of a unit. -/
def isUnitChar (c : Char) : Bool := c.isAlpha || c == 'µ'

/-- A fraction: the number made of its digits, and one followed by as many zeros. -/
structure Fraction where
  numerator : Nat
  denominator : Nat

/-- Reads digits and blanks as one number, going on from `n`. -/
def readWhole? : (n : Nat) → List Char → Option (Nat × List Char)
  | n, [] => some (n, [])
  | n, c :: cs =>
    if c.isDigit then (appendDigit? n c).bind (readWhole? · cs)
    else if Text.isBlank c then readWhole? n cs
    else some (n, c :: cs)

/-- Reads digits and blanks as a fraction. -/
def readFraction? : Fraction → List Char → Option (Fraction × List Char)
  | f, [] => some (f, [])
  | f, c :: cs =>
    if c.isDigit then do
      let denominator ← word? (f.denominator * 10)
      let numerator ← appendDigit? f.numerator c
      readFraction? ⟨numerator, denominator⟩ cs
    else if Text.isBlank c then readFraction? f cs
    else some (f, c :: cs)

/-- Adds seconds and nanoseconds to a span. -/
def add? (d : Duration) (seconds nanos : Nat) : Option Duration := do
  let _ ← word? (d.nanos % secondNanos + nanos)
  ofNanos? (d.nanos + seconds * secondNanos + nanos)

/-- Adds `n` units and a fraction of a unit to a span. -/
def addUnits? (d : Duration) (n : Nat) (fraction : Option Fraction) (unit : TimeUnit) :
    Option Duration := do
  let seconds ← word? (n * unit.length.1)
  let nanos ← word? (n * unit.length.2)
  let d ← d.add? seconds nanos
  match fraction with
  | none => return d
  | some f =>
    let seconds ← word? (f.numerator * unit.fractionLength.1)
    let nanos ← word? (f.numerator * unit.fractionLength.2)
    d.add? (seconds / f.denominator) (nanos / f.denominator)

/-- Reads groups of a number and a unit and adds them to a span. `steps` bounds the groups; each
takes a character. -/
def readGroups? : (steps : Nat) → Duration → List Char → Option Duration
  | 0, _, _ => none
  | steps + 1, d, cs => do
    let (n, cs) ← readWhole? 0 cs
    let (fraction, cs) ← match cs with
      | '.' :: cs => do
        let (f, cs) ← readFraction? ⟨0, 1⟩ cs
        if f.denominator = 1 then none else some (some f, cs)
      | cs => some (none, cs)
    let (name, cs) := cs.span isUnitChar
    let unit ← TimeUnit.ofName? (String.ofList name)
    let d ← d.addUnits? n fraction unit
    match cs.dropWhile Text.isBlank with
    | [] => return d
    | c :: rest => if c.isDigit then readGroups? steps d (c :: rest) else none

/-- The span that a text describes. Zero may be written without a unit. -/
def parse? (s : String) : Option Duration :=
  if s = "0" then some ⟨0, by decide⟩
  else
    match s.toList.dropWhile Text.isBlank with
    | [] => none
    | c :: cs => if c.isDigit then readGroups? (cs.length + 1) ⟨0, by decide⟩ (c :: cs) else none

/-! ## JSON -/

/-- Reads a span as people write it. -/
def read : Json.Reader Duration :=
  let expected := "a duration"
  Json.readParsed expected parse? fun s => .wrongValue (.string s) expected

/-- The span as data. -/
def toJson (d : Duration) : Json.Value := .string d.display

end Duration

end ServiceBroker
