/-!
# Bytes with a meaning of their own

Names for the ASCII bytes that delimit texts.
-/

namespace ServiceBroker.Ascii

/-- A tab. -/
abbrev tab : UInt8 := 0x09
/-- The end of a line. -/
abbrev lineFeed : UInt8 := 0x0a
/-- The return to the start of a line. -/
abbrev carriageReturn : UInt8 := 0x0d
/-- A space. -/
abbrev space : UInt8 := 0x20
/-- A double quote, around texts. -/
abbrev quote : UInt8 := 0x22
/-- A plus sign. -/
abbrev plus : UInt8 := 0x2b
/-- A comma, between members. -/
abbrev comma : UInt8 := 0x2c
/-- A minus sign. -/
abbrev minus : UInt8 := 0x2d
/-- The point of a decimal. -/
abbrev point : UInt8 := 0x2e
/-- A slash, between the segments of a path. -/
abbrev slash : UInt8 := 0x2f
/-- The first decimal digit. -/
abbrev zero : UInt8 := 0x30
/-- The last decimal digit. -/
abbrev nine : UInt8 := 0x39
/-- A colon, behind a key. -/
abbrev colon : UInt8 := 0x3a
/-- The start of a list. -/
abbrev openBracket : UInt8 := 0x5b
/-- A backslash, in front of an escape. -/
abbrev backslash : UInt8 := 0x5c
/-- The end of a list. -/
abbrev closeBracket : UInt8 := 0x5d
/-- The start of an object. -/
abbrev openBrace : UInt8 := 0x7b
/-- The end of an object. -/
abbrev closeBrace : UInt8 := 0x7d

/-- Whether the byte is a decimal digit. -/
def isDigit (b : UInt8) : Bool := zero ≤ b && b ≤ nine

/-- The value of a decimal digit. -/
def digitValue (b : UInt8) : Nat := b.toNat - 0x30

end ServiceBroker.Ascii
