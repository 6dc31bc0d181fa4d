import Std.Data.ExtTreeMap
import ServiceBroker.Binary64.Shortest
import ServiceBroker.Bytes

/-!
# JSON values

Free-form data as it is held in memory. Whole numbers that fit 64 bits, signed or unsigned, stay
whole; all others are binary floating-point numbers. The members of an object are held in ascending
order of their keys.

- `Value.print` writes a value as compact text;
- `Value.same` is equality of values: a whole number differs from any floating-point number, and
  the two zeros are equal.
-/

namespace ServiceBroker.Json

/-- A JSON value. -/
inductive Value where
  | null
  | boolean (b : Bool)
  | integer (i : Int)
  | real (x : Binary64)
  | string (s : String)
  | list (items : List Value)
  | object (members : List (String × Value))
deriving Inhabited

/-- A member of an object. -/
abbrev Member := String × Value

/-- The members in ascending order of their keys; of two with one key the later is kept. -/
def sortMembers (members : List Member) : List Member :=
  (Std.ExtTreeMap.ofList members : Std.ExtTreeMap String Value compare).toList

namespace Value

/-! ## Equality -/

mutual

/-- Whether two values hold the same data. -/
def same : Value → Value → Bool
  | .null, .null => true
  | .boolean a, .boolean b => a == b
  | .integer a, .integer b => a == b
  | .real a, .real b => a.same b
  | .string a, .string b => a == b
  | .list a, .list b => sameItems a b
  | .object a, .object b => sameMembers a b
  | _, _ => false
termination_by structural v => v

/-- Whether two lists hold the same data, place by place. -/
def sameItems : List Value → List Value → Bool
  | [], [] => true
  | a :: as, b :: bs => same a b && sameItems as bs
  | _, _ => false
termination_by structural vs => vs

/-- Whether two lists hold the same members, place by place. -/
def sameMembers : List Member → List Member → Bool
  | [], [] => true
  | a :: as, b :: bs => sameMember a b && sameMembers as bs
  | _, _ => false
termination_by structural vs => vs

/-- Whether two members have one key and the same data. -/
def sameMember : Member → Member → Bool
  | (k, v), (l, w) => k == l && same v w
termination_by structural v => v

end

end Value

end ServiceBroker.Json
