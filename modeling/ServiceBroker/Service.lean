import ServiceBroker.Descriptor
import ServiceBroker.Urn

/-!
# Services

A producer registers a service with a `Registration`, which never names the producer: the URN of a
`Service` is always that of the caller.

`Service.same` compares records as the registry does: descriptors by their keys, metadata by
`Json.Value.same`.
-/

namespace ServiceBroker

/-- What a producer says about its service. -/
structure Registration where
  /-- Human readable description. -/
  description : String := ""
  /-- Where consumers reach the service. -/
  endpointUri : String := ""
  /-- Status reported by the producer. -/
  status : String := ""
  /-- Notifications the service announces it may publish. -/
  notifications : List Descriptor := []
  /-- Free-form metadata. -/
  info : Json.Value := .null
deriving Inhabited

/-- A registered service. -/
structure Service extends Registration where
  /-- Identity of the producer. -/
  urn : Urn
deriving Inhabited

namespace Registration

/-- The service that a producer registers. -/
def bind (r : Registration) (urn : Urn) : Service := { r with urn }

/-- What has been read of a registration, with or without a URN. -/
structure Draft where
  urn : Option Urn := none
  description : Option String := none
  endpointUri : Option String := none
  status : Option String := none
  notifications : Option (List Descriptor) := none
  info : Option Json.Value := none

/-- The fields that a registration and a service have in common. -/
def fields : List (Json.Field Draft) := [
  .of "description" Draft.description (fun d v => { d with description := some v })
    Json.readString,
  .of "endpoint_uri" Draft.endpointUri (fun d v => { d with endpointUri := some v })
    Json.readString,
  .of "status" Draft.status (fun d v => { d with status := some v }) Json.readString,
  .of "notifications" Draft.notifications (fun d v => { d with notifications := some v })
    (Json.readList Descriptor.record.read),
  .of "info" Draft.info (fun d v => { d with info := some v }) Json.Value.read]

/-- The registration in a draft; every field may be absent. -/
def ofDraft (d : Draft) : Registration where
  description := d.description.getD ""
  endpointUri := d.endpointUri.getD ""
  status := d.status.getD ""
  notifications := d.notifications.getD []
  info := d.info.getD .null

/-- How a registration is read. -/
def record : Json.Record Draft Registration where
  name := "ServiceRegistration"
  fields := fields
  empty := {}
  finish := fun d => .ok (ofDraft d)

/-- The members that a registration and a service have in common, but for the metadata. -/
def members (r : Registration) : List Json.Member :=
  [("description", .string r.description),
    ("endpoint_uri", .string r.endpointUri),
    ("status", .string r.status),
    ("notifications", .list (r.notifications.map (·.toJson)))]

/-- The registration as data. -/
def toJson (r : Registration) : Json.Value := .object (r.members ++ [("info", r.info)])

/-- Whether two registrations say the same. -/
def same (a b : Registration) : Bool :=
  a.description == b.description && a.endpointUri == b.endpointUri && a.status == b.status &&
    a.notifications.map (·.key) == b.notifications.map (·.key) && a.info.same b.info

end Registration

namespace Service

/-- A service of which only the identity is known. -/
def bare (urn : Urn) : Service := { urn }

/-- Whether two records are equal as far as the registry can tell. -/
def same (a b : Service) : Bool := a.urn == b.urn && a.toRegistration.same b.toRegistration

/-- How a service is read; only its URN is required. -/
def record : Json.Record Registration.Draft Service where
  name := "Service"
  fields := .of "urn" Registration.Draft.urn (fun d v => { d with urn := some v })
    Urn.record.read :: Registration.fields
  empty := {}
  finish := fun d => do
    return (Registration.ofDraft d).bind (← Json.Record.required "urn" d.urn)

/-- The service as data; absent metadata is left out. -/
def toJson (s : Service) : Json.Value :=
  .object <|
    ("urn", s.urn.toJson) :: s.members ++
      match s.info with
      | .null => []
      | info => [("info", info)]

end Service

/-! ## Lists of services -/

/-- The services known to a replica. -/
structure ServiceList where
  /-- The services. -/
  services : List Service

namespace ServiceList

/-- How a list of services is read. -/
def record : Json.Record (Option (List Service)) ServiceList where
  name := "ServiceList"
  fields := [.of "services" id (fun _ v => some v) (Json.readList Service.record.read)]
  empty := none
  finish := fun d => return ⟨← Json.Record.required "services" d⟩

/-- The list of services as data. -/
def toJson (list : ServiceList) : Json.Value :=
  .object [("services", .list (list.services.map (·.toJson)))]

end ServiceList

end ServiceBroker
