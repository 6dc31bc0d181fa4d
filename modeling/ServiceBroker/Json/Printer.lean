import ServiceBroker.Json.Value
import ServiceBroker.Ascii

/-!
# Writing JSON

Compact text: no blanks, members in the order in which they are held. In a string only the quote,
the backslash and the control characters are escaped.

The text is built last byte first, so that long lists cost no stack: `Value.push v done` puts the
text of `v` after the text `done`.
-/

namespace ServiceBroker.Json

open Ascii

/-! ## Strings -/

/-- The bytes that stand for a byte of a string. -/
def escapeByte (b : UInt8) : Bytes :=
  if b = quote then [backslash, quote]
  else if b = backslash then [backslash, backslash]
  else if 0x20 ≤ b then [b]
  else if b = 0x08 then [backslash, 0x62]
  else if b = 0x0c then [backslash, 0x66]
  else if b = lineFeed then [backslash, 0x6e]
  else if b = carriageReturn then [backslash, 0x72]
  else if b = tab then [backslash, 0x74]
  else [backslash, 0x75, zero, zero] ++ (Bytes.hexByte b).map fun c => c.toUInt8

/-- The text of a string without its quotes. -/
def escape (bytes : Bytes) : Bytes := bytes.flatMap escapeByte

/-- A text under construction, its last byte first. -/
abbrev Reversed := List UInt8

/-- Puts bytes after a text under construction. -/
def pushBytes (bytes : Bytes) (done : Reversed) : Reversed := bytes.reverseAux done

/-- Puts the text of a string after a text under construction. -/
def pushString (s : String) (done : Reversed) : Reversed :=
  quote :: pushBytes (escape (Bytes.ofString s)) (quote :: done)

/-! ## Values -/

namespace Value

mutual

/-- Puts the text of a value after a text under construction. -/
def push : Value → Reversed → Reversed
  | .null, done => pushBytes (Bytes.ofString "null") done
  | .boolean true, done => pushBytes (Bytes.ofString "true") done
  | .boolean false, done => pushBytes (Bytes.ofString "false") done
  | .integer i, done => pushBytes (Bytes.ofString (toString i)) done
  | .real x, done => pushBytes (Bytes.ofString x.text) done
  | .string s, done => pushString s done
  | .list items, done => closeBracket :: pushItems true items (openBracket :: done)
  | .object members, done => closeBrace :: pushMembers true members (openBrace :: done)
termination_by structural v => v

/-- Puts the items of a list, with commas between them, after a text under construction. -/
def pushItems : (first : Bool) → List Value → Reversed → Reversed
  | _, [], done => done
  | first, v :: vs, done => pushItems false vs (push v (if first then done else comma :: done))
termination_by structural _ vs => vs

/-- Puts the members of an object, with commas between them, after a text under construction. -/
def pushMembers : (first : Bool) → List Member → Reversed → Reversed
  | _, [], done => done
  | first, m :: ms, done =>
    pushMembers false ms (pushMember m (if first then done else comma :: done))
termination_by structural _ ms => ms

/-- Puts a member after a text under construction. -/
def pushMember : Member → Reversed → Reversed
  | (key, v), done => push v (colon :: pushString key done)
termination_by structural m => m

end

/-- The compact text of a value. -/
def print (v : Value) : Bytes := (v.push []).reverse

end Value

end ServiceBroker.Json
