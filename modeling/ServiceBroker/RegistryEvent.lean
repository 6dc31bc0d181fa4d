import ServiceBroker.Service

/-!
# Registry events

The unit of replication between replicas: one service was registered or deregistered. An event
travels on the bus as JSON under the URN of its service.
-/

namespace ServiceBroker

/-- What happened to a service. -/
inductive Action where
  | register
  | deregister
deriving DecidableEq, Repr

namespace Action

/-- The name of an action. -/
def name : Action → String
  | .register => "register"
  | .deregister => "deregister"

/-- The names of all actions. -/
def names : List String := [name .register, name .deregister]

/-- The action of a name. -/
def ofName (s : String) : Except Json.ReadError Action :=
  if s = name .register then .ok .register
  else if s = name .deregister then .ok .deregister
  else .error (.data (.unknownVariant s names))

/-- Reads an action: its name, or an object with its name as the only key and null as value. -/
def read : Json.Reader Action := fun depth size bytes => do
  match Json.skipBlank bytes with
  | [] => .error (.ended .value)
  | b :: rest =>
    if b = Ascii.quote then
      let (s, rest) ← Json.readChars size [] rest
      return (← ofName s, rest)
    else if b = Ascii.openBrace then
      let depth ← Json.enter depth
      let (s, rest) ← Json.readStringAs "variant identifier" depth size rest
      let action ← ofName s
      let rest ← Json.readColon rest
      match ← Json.readToken size rest with
      | (.null, rest) =>
        match Json.skipBlank rest with
        | [] => .error (.ended .object)
        | b :: rest =>
          if b = Ascii.closeBrace then .ok (action, rest)
          else .error (.grammar .expectedValue)
      | (found, _) => Json.wrongType found "unit"
    else .error (.grammar .expectedValue)

/-- The action as data. -/
def toJson (a : Action) : Json.Value := .string a.name

end Action

/-- A change of the registry. -/
structure RegistryEvent where
  /-- What happened. -/
  action : Action
  /-- The service it happened to. -/
  service : Service

namespace RegistryEvent

/-- A service was registered. -/
def register (service : Service) : RegistryEvent := ⟨.register, service⟩

/-- The service of a URN was deregistered; only its identity matters. -/
def deregister (urn : Urn) : RegistryEvent := ⟨.deregister, .bare urn⟩

/-- The URN the event is about. -/
def urn (e : RegistryEvent) : Urn := e.service.urn

/-- The routing key of the event on the bus. -/
def key (e : RegistryEvent) : String := e.urn.display

/-- Whether two events are equal as far as the registry can tell. -/
def same (a b : RegistryEvent) : Bool := a.action == b.action && a.service.same b.service

/-- What has been read of an event. -/
structure Draft where
  action : Option Action := none
  service : Option Service := none

/-- How an event is read. -/
def record : Json.Record Draft RegistryEvent where
  name := "RegistryChangeEvent"
  fields := [
    .of "action" Draft.action (fun d v => { d with action := some v }) Action.read,
    .of "service" Draft.service (fun d v => { d with service := some v }) Service.record.read]
  empty := {}
  finish := fun d => do
    return ⟨← Json.Record.required "action" d.action, ← Json.Record.required "service" d.service⟩

/-- The event as data. -/
def toJson (e : RegistryEvent) : Json.Value :=
  .object [("action", e.action.toJson), ("service", e.service.toJson)]

/-- The event as a bus payload. -/
def encode (e : RegistryEvent) : Bytes := e.toJson.print

/-- The event in a bus payload. -/
def decode (payload : Bytes) : Except Json.ReadError RegistryEvent :=
  Json.readBytes record.read payload

end RegistryEvent

end ServiceBroker
