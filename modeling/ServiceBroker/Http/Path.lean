import ServiceBroker.Ascii
import ServiceBroker.Bytes

/-!
# Request paths

A path without its query and fragment, cut at its slashes, and the percent decoding of a segment. A
percent sign that no two hexadecimal digits follow stands for itself.
-/

namespace ServiceBroker.Http

/-- The path without its query and fragment. -/
def barePath (path : Bytes) : Bytes := path.takeWhile fun b => b != 0x3f && b != 0x23

/-- The segments of a path that starts with a slash; other paths have none. -/
def segments? (path : Bytes) : Option (List Bytes) :=
  match (barePath path).splitOn Ascii.slash with
  | [] :: segments => some segments
  | _ => none

/-- The bytes that a segment stands for. -/
def percentDecode : Bytes → Bytes
  | [] => []
  | 0x25 :: a :: b :: rest =>
    match Bytes.hexValue? a, Bytes.hexValue? b with
    | some x, some y => UInt8.ofNat (x * 16 + y) :: percentDecode rest
    | _, _ => 0x25 :: percentDecode (a :: b :: rest)
  | b :: rest => b :: percentDecode rest

end ServiceBroker.Http
