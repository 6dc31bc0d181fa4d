import ServiceBroker.Json.Record

/-!
# Notification descriptors

A class of notification, identified by name and version. The description is carried along but takes
no part in equality, hashing or order: all three look at the `Descriptor.key` alone.
-/

namespace ServiceBroker

/-- What identifies a class of notification. -/
structure Descriptor.Key where
  /-- Name of the class. -/
  name : String
  /-- Version of the class. -/
  version : String
deriving DecidableEq, Hashable, Repr, Inhabited

/-- A class of notification with its description. -/
structure Descriptor where
  /-- Name of the class. -/
  name : String
  /-- Version of the class. -/
  version : String
  /-- Human readable description. -/
  description : String := ""
deriving DecidableEq, Repr, Inhabited

namespace Descriptor

/-! ## Keys -/

/-- Keys are ordered by name, then by version. -/
instance : Ord Key where
  compare := compareLex (compareOn Key.name) (compareOn Key.version)

theorem Key.compare_eq (a b : Key) :
    compare a b = (compare a.name b.name).then (compare a.version b.version) := rfl

instance : Std.TransOrd Key :=
  inferInstanceAs (Std.TransCmp (compareLex (compareOn Key.name) (compareOn Key.version)))

instance : Std.LawfulEqOrd Key where
  eq_of_compare {a b} h := by
    rw [Key.compare_eq, Ordering.then_eq_eq] at h
    cases a
    cases b
    simp_all

/-- What identifies the descriptor. -/
def key (d : Descriptor) : Key := ⟨d.name, d.version⟩

/-- The descriptor of a key with a description. -/
def ofKey (key : Key) (description : String) : Descriptor := ⟨key.name, key.version, description⟩

@[simp]
theorem key_ofKey (key : Key) (description : String) : (ofKey key description).key = key := rfl

theorem ofKey_inj {key key' : Key} {description description' : String} :
    ofKey key description = ofKey key' description' ↔ key = key' ∧ description = description' := by
  constructor
  · intro h
    exact ⟨congrArg Descriptor.key h, congrArg Descriptor.description h⟩
  · rintro ⟨rfl, rfl⟩
    rfl

/-- Whether two descriptors name one class. -/
def same (a b : Descriptor) : Bool := a.key == b.key

/-- Descriptors are ordered by their keys. -/
instance : Ord Descriptor where
  compare := compareOn key

instance : Std.TransOrd Descriptor := inferInstanceAs (Std.TransCmp (compareOn key))

/-- Descriptors hash by their keys. -/
instance : Hashable Descriptor where
  hash d := hash d.key

/-! ## JSON -/

/-- What has been read of a descriptor. -/
structure Draft where
  name : Option String := none
  version : Option String := none
  description : Option String := none

/-- How a descriptor is read; its description may be absent. -/
def record : Json.Record Draft Descriptor where
  name := "NotificationDescriptor"
  fields := [
    .of "name" Draft.name (fun d v => { d with name := some v }) Json.readString,
    .of "version" Draft.version (fun d v => { d with version := some v }) Json.readString,
    .of "description" Draft.description (fun d v => { d with description := some v })
      Json.readString]
  empty := {}
  finish := fun d => do
    return {
      name := ← Json.Record.required "name" d.name
      version := ← Json.Record.required "version" d.version
      description := d.description.getD "" }

/-- The descriptor as data; an empty description is left out. -/
def toJson (d : Descriptor) : Json.Value :=
  .object <|
    [("name", .string d.name), ("version", .string d.version)] ++
      if d.description = "" then [] else [("description", .string d.description)]

end Descriptor

end ServiceBroker
