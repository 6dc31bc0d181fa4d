import ServiceBroker.Json.Record
import ServiceBroker.Text

/-!
# Identities

A client is known by its URN, `namespace.id`, which is taken from the common name of its
certificate. URNs are the keys of every registry and subscription look-up and the routing keys on
the message bus.

- `Urn.ofCommonName?` keeps the first two dot-delimited segments of a common name;
- `Urn.display` writes a URN as `namespace.id`.
-/

namespace ServiceBroker

/-- Identity of a service or consumer. -/
structure Urn where
  /-- Namespace the client belongs to. -/
  ns : String
  /-- Name of the client within the namespace. -/
  id : String
deriving DecidableEq, Hashable, Repr, Inhabited

/-- A common name from which no identity can be taken. -/
structure IdentityError where
  /-- The common name as it was presented. -/
  commonName : String
deriving DecidableEq, Repr

/-- The wording of a refused common name. -/
def IdentityError.message (e : IdentityError) : String :=
  "invalid identity: common name " ++ Text.quoted e.commonName ++
    " is not of the form <namespace>.<id>"

namespace Urn

/-- The URN in a common name `<namespace>.<id>` or `<namespace>.<id>.<suffix>`, of which neither
the namespace nor the id may be empty. -/
def ofCommonName? (name : String) : Option Urn :=
  let isDot (c : Char) : Bool := c == '.'
  let (ns, rest) := name.toList.span (!isDot ·)
  match rest with
  | [] => none
  | _ :: rest =>
    let id := rest.takeWhile (!isDot ·)
    if ns.isEmpty || id.isEmpty then none else some ⟨String.ofList ns, String.ofList id⟩

/-- The URN in a common name, or why there is none. -/
def ofCommonName (name : String) : Except IdentityError Urn :=
  match ofCommonName? name with
  | some urn => .ok urn
  | none => .error ⟨name⟩

/-- The URN as `namespace.id`. -/
def display (urn : Urn) : String := urn.ns ++ "." ++ urn.id

/-! ## Order -/

/-- URNs are ordered by namespace, then by id. -/
instance : Ord Urn where
  compare := compareLex (compareOn Urn.ns) (compareOn Urn.id)

theorem compare_eq (a b : Urn) :
    compare a b = (compare a.ns b.ns).then (compare a.id b.id) := rfl

instance : Std.TransOrd Urn :=
  inferInstanceAs (Std.TransCmp (compareLex (compareOn Urn.ns) (compareOn Urn.id)))

instance : Std.LawfulEqOrd Urn where
  eq_of_compare {a b} h := by
    rw [compare_eq, Ordering.then_eq_eq] at h
    cases a
    cases b
    simp_all

/-! ## JSON -/

/-- What has been read of a URN. -/
structure Draft where
  ns : Option String := none
  id : Option String := none

/-- How a URN is read. -/
def record : Json.Record Draft Urn where
  name := "Urn"
  fields := [
    .of "namespace" Draft.ns (fun d v => { d with ns := some v }) Json.readString,
    .of "id" Draft.id (fun d v => { d with id := some v }) Json.readString]
  empty := {}
  finish := fun d => do
    return ⟨← Json.Record.required "namespace" d.ns, ← Json.Record.required "id" d.id⟩

/-- The URN as data. -/
def toJson (urn : Urn) : Json.Value :=
  .object [("namespace", .string urn.ns), ("id", .string urn.id)]

end Urn

end ServiceBroker
