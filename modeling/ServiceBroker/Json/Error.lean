import ServiceBroker.Json.Value
import ServiceBroker.Text

/-!
# Why a JSON text is refused

A text is refused for its grammar, for the data it holds, or because it ends too soon.
`ReadError.message` is the wording.
-/

namespace ServiceBroker.Json

/-- What the text was inside of when it ended. -/
inductive Part where
  | value
  | object
  | list
  | string
deriving DecidableEq, Repr

/-- Faults of grammar. -/
inductive Fault where
  | expectedValue
  | expectedIdent
  | expectedColon
  | expectedMemberSeparator
  | expectedItemSeparator
  | trailingCharacters
  | trailingComma
  | keyNotString
  | invalidNumber
  | numberOutOfRange
  | invalidEscape
  | invalidCodePoint
  | controlCharacter
  | loneSurrogate
  | unfinishedSurrogatePair
  | recursionLimit
deriving DecidableEq, Repr

/-- What stands at the start of a value: a whole scalar, or the opening of a container. -/
inductive Token where
  | null
  | boolean (b : Bool)
  | integer (i : Int)
  | real (x : Binary64)
  | string (s : String)
  | list
  | object
deriving DecidableEq

/-- Faults of data: the grammar is right, but this is not what was asked for. -/
inductive Mismatch where
  /-- A value of another kind than the expected one. -/
  | wrongType (found : Token) (expected : String)
  /-- A value of the right kind that is out of range or cannot be understood. -/
  | wrongValue (found : Token) (expected : String)
  /-- A record given as a list that lacks the item at `position`. -/
  | wrongLength (position : Nat) (expected : String)
  /-- A record without a required member. -/
  | missingField (name : String)
  /-- A record with a member given twice. -/
  | duplicateField (name : String)
  /-- A name that is none of the known ones. -/
  | unknownVariant (name : String) (known : List String)
  /-- A value that fits none of the shapes of a type. -/
  | noVariant (type : String)
  /-- A text that is not an IP address. -/
  | malformedAddress
  /-- A fault stated by the value itself. -/
  | custom (text : String)
deriving DecidableEq

/-- Why a JSON text is refused. -/
inductive ReadError where
  | grammar (fault : Fault)
  | data (mismatch : Mismatch)
  | ended (within : Part)
deriving DecidableEq

/-! ## Wording -/

/-- The wording of a fault of grammar. -/
def Fault.message : Fault → String
  | .expectedValue => "expected value"
  | .expectedIdent => "expected ident"
  | .expectedColon => "expected `:`"
  | .expectedMemberSeparator => "expected `,` or `\x7d`"
  | .expectedItemSeparator => "expected `,` or `]`"
  | .trailingCharacters => "trailing characters"
  | .trailingComma => "trailing comma"
  | .keyNotString => "key must be a string"
  | .invalidNumber => "invalid number"
  | .numberOutOfRange => "number out of range"
  | .invalidEscape => "invalid escape"
  | .invalidCodePoint => "invalid unicode code point"
  | .controlCharacter =>
    "control character (\\u0000-\\u001F) found while parsing a string"
  | .loneSurrogate => "lone leading surrogate in hex escape"
  | .unfinishedSurrogatePair => "unexpected end of hex escape"
  | .recursionLimit => "recursion limit exceeded"

/-- How a message calls what was found. -/
def Token.describe : Token → String
  | .null => "null"
  | .boolean b => "boolean `" ++ (if b then "true" else "false") ++ "`"
  | .integer i => "integer `" ++ toString i ++ "`"
  | .real x => "floating point `" ++ x.text ++ "`"
  | .string s => "string " ++ Text.quoted s
  | .list => "sequence"
  | .object => "map"

/-- A list of names as a choice between them. -/
def choice : List String → String
  | [] => "nothing"
  | [a] => "`" ++ a ++ "`"
  | [a, b] => "`" ++ a ++ "` or `" ++ b ++ "`"
  | names => "one of " ++ ", ".intercalate (names.map fun name => "`" ++ name ++ "`")

/-- The wording of a fault of data. -/
def Mismatch.message : Mismatch → String
  | .wrongType found expected => "invalid type: " ++ found.describe ++ ", expected " ++ expected
  | .wrongValue found expected => "invalid value: " ++ found.describe ++ ", expected " ++ expected
  | .wrongLength position expected =>
    "invalid length " ++ toString position ++ ", expected " ++ expected
  | .missingField name => "missing field `" ++ name ++ "`"
  | .duplicateField name => "duplicate field `" ++ name ++ "`"
  | .unknownVariant name known => "unknown variant `" ++ name ++ "`, expected " ++ choice known
  | .noVariant type => "data did not match any variant of untagged enum " ++ type
  | .malformedAddress => "invalid IP address syntax"
  | .custom text => text

/-- The wording of an early end. -/
def Part.message : Part → String
  | .value => "EOF while parsing a value"
  | .object => "EOF while parsing an object"
  | .list => "EOF while parsing a list"
  | .string => "EOF while parsing a string"

/-- The wording of a refusal. -/
def ReadError.message : ReadError → String
  | .grammar fault => fault.message
  | .data mismatch => mismatch.message
  | .ended within => within.message

end ServiceBroker.Json
