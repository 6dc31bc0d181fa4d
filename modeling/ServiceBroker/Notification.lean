import ServiceBroker.Descriptor
import ServiceBroker.Urn

/-!
# Notifications

A producer pushes a `Notification`; each consumer that asked for its class gets an `Envelope`,
which adds the URN of the producer.
-/

namespace ServiceBroker

/-- A notification as its producer pushes it. -/
structure Notification where
  /-- Name of its class. -/
  name : String
  /-- Version of its class. -/
  version : String
  /-- Free-form content. -/
  payload : Json.Value := .null
deriving Inhabited

/-- A notification as its consumers get it. -/
structure Envelope extends Notification where
  /-- Producer that pushed the notification. -/
  urn : Urn
deriving Inhabited

namespace Notification

/-- The class the notification is published under. -/
def descriptor (n : Notification) : Descriptor := { name := n.name, version := n.version }

/-- The envelope that consumers get when `producer` pushes the notification. -/
def envelope (n : Notification) (producer : Urn) : Envelope := { n with urn := producer }

/-- What has been read of a notification or an envelope. -/
structure Draft where
  name : Option String := none
  version : Option String := none
  payload : Option Json.Value := none
  urn : Option Urn := none

/-- The fields that notifications and envelopes have in common. -/
def fields : List (Json.Field Draft) := [
  .of "name" Draft.name (fun d v => { d with name := some v }) Json.readString,
  .of "version" Draft.version (fun d v => { d with version := some v }) Json.readString,
  .of "payload" Draft.payload (fun d v => { d with payload := some v }) Json.Value.read]

/-- How a notification is read; its payload may be absent. -/
def record : Json.Record Draft Notification where
  name := "NotificationFromProducer"
  fields := fields
  empty := {}
  finish := fun d => do
    return {
      name := ← Json.Record.required "name" d.name
      version := ← Json.Record.required "version" d.version
      payload := d.payload.getD .null }

/-- The members that notifications and envelopes have in common. -/
def members (n : Notification) : List Json.Member :=
  [("name", .string n.name), ("version", .string n.version), ("payload", n.payload)]

/-- The notification as data. -/
def toJson (n : Notification) : Json.Value := .object n.members

end Notification

namespace Envelope

/-- How an envelope is read; it lacks nothing. -/
def record : Json.Record Notification.Draft Envelope where
  name := "NotificationToConsumer"
  fields := Notification.fields ++
    [.of "urn" Notification.Draft.urn (fun d v => { d with urn := some v }) Urn.record.read]
  empty := {}
  finish := fun d => do
    return {
      name := ← Json.Record.required "name" d.name
      version := ← Json.Record.required "version" d.version
      payload := ← Json.Record.required "payload" d.payload
      urn := ← Json.Record.required "urn" d.urn }

/-- The envelope as data. -/
def toJson (e : Envelope) : Json.Value := .object (e.members ++ [("urn", e.urn.toJson)])

/-- The frame that carries the envelope. -/
def frame (e : Envelope) : Bytes := e.toJson.print

end Envelope

end ServiceBroker
