import ServiceBroker.Json.Reader

/-!
# Reading records

A record is read from an object, member by member in any order, or from a list, by position. What
has been read so far is a draft; each `Field` says how its member is called, whether the draft
holds it already and how to read it into the draft. When the text of the record ends, `finish`
makes the record of the draft or names the first required field that is missing.

Members of an object that no field asks for are skipped.
-/

namespace ServiceBroker.Json

open Ascii

/-- A field of a record whose parts are gathered in drafts of type `δ`. -/
structure Field (δ : Type) where
  /-- The key of its member. -/
  name : String
  /-- Whether the draft holds it already. -/
  isHeld : δ → Bool
  /-- Reads it into the draft. -/
  read : δ → Reader δ

/-- The field that `get` finds in a draft and `set` puts there. -/
def Field.of (name : String) (get : δ → Option α) (set : δ → α → δ) (reader : Reader α) :
    Field δ where
  name
  isHeld := fun draft => (get draft).isSome
  read := fun draft depth size bytes =>
    (reader depth size bytes).map fun (a, rest) => (set draft a, rest)

/-- How a record is read. -/
structure Record (δ α : Type) where
  /-- The name of the record in refusals. -/
  name : String
  /-- The fields in their order. -/
  fields : List (Field δ)
  /-- The draft in which nothing has been read. -/
  empty : δ
  /-- The record made of a draft, or the first required field that it lacks. -/
  finish : δ → Except String α

namespace Record

/-- Reads the members of an object to its end. -/
def readObject (fields : List (Field δ)) (depth bound : Nat) :
    (size : Nat) → (first : Bool) → δ → Bytes → Except ReadError (δ × Bytes)
  | 0, _, _, _ => .error (.ended .object)
  | size + 1, first, draft, bytes =>
    match nextMember first bytes with
    | .error e => .error e
    | .ok (false, rest) => .ok (draft, rest)
    | .ok (true, rest) =>
      let member : Except ReadError (δ × Bytes) := do
        let (key, rest) ← readChars bound [] rest
        match fields.find? (·.name == key) with
        | none =>
          let rest ← readColon rest
          return (draft, ← skipValue bound rest)
        | some field =>
          if field.isHeld draft then .error (.data (.duplicateField field.name))
          else field.read draft depth bound (← readColon rest)
      match member with
      | .ok (draft, rest) => readObject fields depth bound size false draft rest
      | .error e => .error e

/-- Reads fields by position from the items of a list, as far as there are items. Gives whether
the end of the list was met. -/
def readPlaces (depth bound : Nat) :
    List (Field δ) → (first : Bool) → δ → Bytes → Except ReadError (Bool × δ × Bytes)
  | [], _, draft, bytes => .ok (false, draft, bytes)
  | field :: fields, first, draft, bytes =>
    match nextItem first bytes with
    | .error e => .error e
    | .ok (false, rest) => .ok (true, draft, rest)
    | .ok (true, rest) =>
      match field.read draft depth bound rest with
      | .ok (draft, rest) => readPlaces depth bound fields false draft rest
      | .error e => .error e

/-- Reads the end of a list whose items have all been read. -/
def readListEnd (bytes : Bytes) : Except ReadError Bytes :=
  match skipBlank bytes with
  | [] => .error (.ended .list)
  | b :: rest =>
    if b = closeBracket then .ok rest
    else if b = comma ∧ (skipBlank rest).head? = some closeBracket then
      .error (.grammar .trailingComma)
    else .error (.grammar .trailingCharacters)

/-- How refusals call the record given as a list. -/
def listShape (record : Record δ α) : String :=
  let count := record.fields.length
  "struct " ++ record.name ++ " with " ++ toString count ++
    (if count = 1 then " element" else " elements")

/-- The position of a field. -/
def position (record : Record δ α) (name : String) : Nat :=
  record.fields.findIdx (·.name == name)

/-- Reads the record. -/
def read (record : Record δ α) : Reader α := fun depth size bytes => do
  match ← readToken size bytes with
  | (.object, rest) =>
    let depth ← enter depth
    let (draft, rest) ← readObject record.fields depth size size true record.empty rest
    match record.finish draft with
    | .ok a => .ok (a, rest)
    | .error name => .error (.data (.missingField name))
  | (.list, rest) =>
    let depth ← enter depth
    let (ended, draft, rest) ← readPlaces depth size record.fields true record.empty rest
    match record.finish draft with
    | .ok a => return (a, ← if ended then .ok rest else readListEnd rest)
    | .error name =>
      .error (.data (.wrongLength (record.position name) record.listShape))
  | (found, _) => wrongType found ("struct " ++ record.name)

/-- The field's value, required under its name. -/
def required (name : String) : Option α → Except String α
  | some a => .ok a
  | none => .error name

end Record

end ServiceBroker.Json
