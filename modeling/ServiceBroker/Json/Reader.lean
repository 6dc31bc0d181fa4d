import ServiceBroker.Json.Skip

/-!
# Reading JSON

A `Reader` reads one value from the front of a text and gives what is left. `Value.read` reads
free-form data, `readBytes` reads a whole text, and `readString`, `readNat`, `readList` read values
of one kind.

A reader is told how many containers may still be opened and a bound on the number of bytes left;
`maxDepth` containers may be open at a time.
-/

namespace ServiceBroker.Json

open Ascii

/-- The number of containers that may be open at a time. -/
def maxDepth : Nat := 127

/-- Reads a value from the front of a text, given the number of containers that may still be
opened and a bound on the number of bytes left. -/
abbrev Reader (α : Type) := (depth size : Nat) → Bytes → Except ReadError (α × Bytes)

/-- Reads a text that holds one value and blanks around it. -/
def readBytes (reader : Reader α) (bytes : Bytes) : Except ReadError α :=
  match reader maxDepth bytes.length bytes with
  | .ok (a, rest) =>
    if skipBlank rest = [] then .ok a else .error (.grammar .trailingCharacters)
  | .error e => .error e

/-! ## Steps through containers -/

/-- Opens a container: one fewer may be opened inside it. -/
def enter : (depth : Nat) → Except ReadError Nat
  | 0 => .error (.grammar .recursionLimit)
  | depth + 1 => .ok depth

/-- Moves to the next item of a list. Gives whether there is one, and the text from its start or
from behind the end of the list. -/
def nextItem (first : Bool) (bytes : Bytes) : Except ReadError (Bool × Bytes) :=
  match skipBlank bytes with
  | [] => .error (.ended .list)
  | b :: rest =>
    if b = closeBracket then .ok (false, rest)
    else if first then .ok (true, b :: rest)
    else if b = comma then
      match skipBlank rest with
      | [] => .error (.ended .value)
      | c :: rest =>
        if c = closeBracket then .error (.grammar .trailingComma) else .ok (true, c :: rest)
    else .error (.grammar .expectedItemSeparator)

/-- Moves to the next member of an object. Gives whether there is one, and the text from behind
the quote that opens its key or from behind the end of the object. -/
def nextMember (first : Bool) (bytes : Bytes) : Except ReadError (Bool × Bytes) :=
  match skipBlank bytes with
  | [] => .error (.ended .object)
  | b :: rest =>
    if b = closeBrace then .ok (false, rest)
    else if first then
      if b = quote then .ok (true, rest) else .error (.grammar .keyNotString)
    else if b = comma then
      match skipBlank rest with
      | [] => .error (.ended .value)
      | c :: rest =>
        if c = quote then .ok (true, rest)
        else if c = closeBrace then .error (.grammar .trailingComma)
        else .error (.grammar .keyNotString)
    else .error (.grammar .expectedMemberSeparator)

/-- Reads the colon between a key and its value. -/
def readColon (bytes : Bytes) : Except ReadError Bytes :=
  match skipBlank bytes with
  | [] => .error (.ended .object)
  | b :: rest => if b = colon then .ok rest else .error (.grammar .expectedColon)

/-- Reads the items of a list to its end with a reader of one item; `done` are the items read so
far, the last one first. -/
def readItems (item : Bytes → Except ReadError (α × Bytes)) :
    (size : Nat) → (done : List α) → Bytes → Except ReadError (List α × Bytes)
  | 0, _, _ => .error (.ended .list)
  | size + 1, done, bytes =>
    match nextItem done.isEmpty bytes with
    | .error e => .error e
    | .ok (false, rest) => .ok (done.reverse, rest)
    | .ok (true, rest) =>
      match item rest with
      | .ok (a, rest) => readItems item size (a :: done) rest
      | .error e => .error e

/-- Reads the members of an object to its end with a reader of one value, and gives them as they
stand in the text; `done` are the members read so far, the last one first. -/
def readMembers (value : Bytes → Except ReadError (Value × Bytes)) (bound : Nat) :
    (size : Nat) → (done : List Member) → Bytes → Except ReadError (List Member × Bytes)
  | 0, _, _ => .error (.ended .object)
  | size + 1, done, bytes =>
    match nextMember done.isEmpty bytes with
    | .error e => .error e
    | .ok (false, rest) => .ok (done.reverse, rest)
    | .ok (true, rest) =>
      let member : Except ReadError (Member × Bytes) := do
        let (key, rest) ← readChars bound [] rest
        let rest ← readColon rest
        let (v, rest) ← value rest
        return ((key, v), rest)
      match member with
      | .ok (m, rest) => readMembers value bound size (m :: done) rest
      | .error e => .error e

/-! ## Free-form data -/

/-- Reads a value of any kind. -/
def Value.read : Reader Value
  | depth, size, bytes => do
    let (token, rest) ← readToken size bytes
    match token with
    | .null => .ok (.null, rest)
    | .boolean b => .ok (.boolean b, rest)
    | .integer i => .ok (.integer i, rest)
    | .real x => .ok (.real x, rest)
    | .string s => .ok (.string s, rest)
    | .list =>
      match depth with
      | 0 => .error (.grammar .recursionLimit)
      | depth + 1 =>
        (readItems (Value.read depth size) size [] rest).map fun (items, rest) =>
          (.list items, rest)
    | .object =>
      match depth with
      | 0 => .error (.grammar .recursionLimit)
      | depth + 1 =>
        (readMembers (Value.read depth size) size size [] rest).map fun (members, rest) =>
          (.object (sortMembers members), rest)
termination_by structural depth => depth

/-! ## Values of one kind -/

/-- Refuses a value of another kind than the expected one. -/
def wrongType (found : Token) (expected : String) : Except ReadError α :=
  .error (.data (.wrongType found expected))

/-- Reads a string; `expected` names in a refusal what was asked for. -/
def readStringAs (expected : String) : Reader String := fun _ size bytes => do
  match ← readToken size bytes with
  | (.string s, rest) => .ok (s, rest)
  | (found, _) => wrongType found expected

/-- Reads a string. -/
def readString : Reader String := readStringAs "a string"

/-- Reads a natural number up to `largest`; `expected` names it in a refusal. -/
def readNat (largest : Nat) (expected : String) : Reader Nat := fun _ size bytes => do
  match ← readToken size bytes with
  | (.integer i, rest) =>
    if 0 ≤ i ∧ i ≤ largest then .ok (i.toNat, rest)
    else .error (.data (.wrongValue (.integer i) expected))
  | (found, _) => wrongType found expected

/-- Reads a list of values. -/
def readList (item : Reader α) : Reader (List α) := fun depth size bytes => do
  match ← readToken size bytes with
  | (.list, rest) =>
    let depth ← enter depth
    readItems (item depth size) size [] rest
  | (found, _) => wrongType found "a sequence"

/-- Reads a string and understands it; a text that means nothing is refused by `refuse`. -/
def readParsed (expected : String) (parse : String → Option α) (refuse : String → Mismatch) :
    Reader α := fun depth size bytes => do
  let (s, rest) ← readStringAs expected depth size bytes
  match parse s with
  | some a => .ok (a, rest)
  | none => .error (.data (refuse s))

end ServiceBroker.Json
