import ServiceBroker.Json.Record

/-!
# Addresses

IP addresses of both versions as people write them, and socket addresses. An address of version 6
is written with its longest run of zero groups, if there are two or more, as `::`.
-/

namespace ServiceBroker

/-- An address of version 4: its bytes from the front. -/
structure Address4 where
  a : UInt8
  b : UInt8
  c : UInt8
  d : UInt8
deriving DecidableEq, Repr

/-- An IP address. -/
inductive Address where
  | v4 (address : Address4)
  /-- Eight groups of 16 bits. -/
  | v6 (groups : List UInt16)
deriving DecidableEq, Repr

namespace Address

/-! ## Writing -/

/-- An address of version 4 with its bytes in decimal. -/
def display4 (x : Address4) : String :=
  ".".intercalate ([x.a, x.b, x.c, x.d].map fun byte => toString byte.toNat)

/-- Groups in hexadecimal with colons between them. -/
def displayGroups (groups : List UInt16) : String :=
  ":".intercalate (groups.map fun g => String.ofList (Nat.toDigits 16 g.toNat))

/-- The number of zero groups from each position on. -/
def zeroRuns : List UInt16 → List Nat
  | [] => []
  | g :: groups =>
    let runs := zeroRuns groups
    (if g = 0 then runs.headD 0 + 1 else 0) :: runs

/-- An address of version 6. -/
def display6 (groups : List UInt16) : String :=
  match groups with
  | [0, 0, 0, 0, 0, 0xffff, g, h] =>
    let byte (n : Nat) : UInt8 := UInt8.ofNat n
    "::ffff:" ++ display4
      ⟨byte (g.toNat / 256), byte g.toNat, byte (h.toNat / 256), byte h.toNat⟩
  | groups =>
    let runs := zeroRuns groups
    let longest := runs.foldl max 0
    if longest ≤ 1 then displayGroups groups
    else
      let start := runs.findIdx (· == longest)
      displayGroups (groups.take start) ++ "::" ++ displayGroups (groups.drop (start + longest))

/-- The address as people write it. -/
def display : Address → String
  | .v4 x => display4 x
  | .v6 groups => display6 groups

/-- The address with a port. -/
def withPort (address : Address) (port : Nat) : String :=
  match address with
  | .v4 x => display4 x ++ ":" ++ toString port
  | .v6 groups => "[" ++ display6 groups ++ "]:" ++ toString port

/-! ## Reading -/

/-- The value of a hexadecimal digit of either case. -/
def hexDigit? (c : Char) : Option Nat :=
  if c.isDigit then some (c.toNat - 48)
  else if 'a' ≤ c ∧ c ≤ 'f' then some (c.toNat - 87)
  else if 'A' ≤ c ∧ c ≤ 'F' then some (c.toNat - 55)
  else none

/-- Reads a group of up to four hexadecimal digits. -/
def readGroup? (cs : List Char) : Option (UInt16 × List Char) :=
  let (digits, rest) := cs.span fun c => (hexDigit? c).isSome
  if digits.isEmpty || 4 < digits.length then none
  else some (UInt16.ofNat (digits.foldl (fun n c => n * 16 + (hexDigit? c).getD 0) 0), rest)

/-- Reads a byte in decimal without leading zeros. -/
def readByte? (cs : List Char) : Option (UInt8 × List Char) :=
  let (digits, rest) := cs.span Char.isDigit
  let n := digits.foldl (fun n c => n * 10 + (c.toNat - 48)) 0
  if digits.isEmpty || 3 < digits.length || 255 < n || (digits.head? == some '0' && digits ≠ ['0'])
  then none
  else some (UInt8.ofNat n, rest)

/-- Reads one given character. -/
def readChar? (c : Char) : List Char → Option (List Char)
  | d :: rest => if d = c then some rest else none
  | [] => none

/-- Reads four bytes with points between them. -/
def read4? (cs : List Char) : Option (Address4 × List Char) := do
  let (a, cs) ← readByte? cs
  let (b, cs) ← readByte? (← readChar? '.' cs)
  let (c, cs) ← readByte? (← readChar? '.' cs)
  let (d, cs) ← readByte? (← readChar? '.' cs)
  return (⟨a, b, c, d⟩, cs)

/-- The two groups that an address of version 4 fills. -/
def embed (x : Address4) : List UInt16 :=
  [UInt16.ofNat (x.a.toNat * 256 + x.b.toNat), UInt16.ofNat (x.c.toNat * 256 + x.d.toNat)]

/-- Reads up to `limit` groups with colons between them; where two are still wanted an address of
version 4 may stand as the last ones. Gives the groups, whether they end that way, and the rest. -/
def readGroups : (limit : Nat) → (first : Bool) → List Char → List UInt16 × Bool × List Char
  | 0, _, cs => ([], false, cs)
  | limit + 1, first, cs =>
    let start? := if first then some cs else readChar? ':' cs
    match start? with
    | none => ([], false, cs)
    | some start =>
      match (if limit = 0 then none else read4? start) with
      | some (x, rest) => (embed x, true, rest)
      | none =>
        match readGroup? start with
        | none => ([], false, cs)
        | some (g, rest) =>
          let (groups, embedded, rest) := readGroups limit false rest
          (g :: groups, embedded, rest)

/-- Reads an address of version 6. -/
def read6? (cs : List Char) : Option (List UInt16 × List Char) := do
  let (front, embedded, cs) := readGroups 8 true cs
  if front.length = 8 then return (front, cs)
  else if embedded then none
  else
    let cs ← readChar? ':' (← readChar? ':' cs)
    let (back, _, cs) := readGroups (7 - front.length) true cs
    return (front ++ List.replicate (8 - front.length - back.length) 0 ++ back, cs)

/-- The address that a text describes. -/
def parse? (s : String) : Option Address :=
  match read4? s.toList with
  | some (x, []) => some (.v4 x)
  | some _ => none
  | none =>
    match read6? s.toList with
    | some (groups, []) => some (.v6 groups)
    | _ => none

/-! ## JSON -/

/-- Reads an address as people write it. -/
def read : Json.Reader Address :=
  Json.readParsed "IP address" parse? fun _ => .malformedAddress

/-- The address as data. -/
def toJson (address : Address) : Json.Value := .string address.display

end Address

end ServiceBroker
