import ServiceBroker.RegistryEvent

/-!
# The service registry

A replica's view of every registered service: at most one record per URN. The registry changes only
by applying registry events, and applying one never fails.
-/

namespace ServiceBroker

/-- The effect of applying one event. -/
inductive ApplyOutcome where
  /-- A URN that was not present was registered. -/
  | inserted
  /-- A different record was overwritten. -/
  | replaced
  /-- An equal record was overwritten. -/
  | unchanged
  /-- A URN that was present was deregistered. -/
  | removed
  /-- A URN that was not present was deregistered. -/
  | absent
deriving DecidableEq, Repr

/-- Whether the contents of the registry changed. -/
def ApplyOutcome.isMutation : ApplyOutcome → Bool
  | .inserted | .replaced | .removed => true
  | .unchanged | .absent => false

/-- The registered services by their URNs. -/
structure Registry where
  /-- The record of each registered URN. -/
  services : Std.ExtTreeMap Urn Service := ∅

namespace Registry

/-- The registry without services. -/
def empty : Registry := {}

instance : Inhabited Registry := ⟨empty⟩

/-- The record of a URN. -/
def lookup (r : Registry) (urn : Urn) : Option Service := r.services[urn]?

/-- Whether the URN is registered. -/
def contains (r : Registry) (urn : Urn) : Bool := r.services.contains urn

/-- The number of registered services. -/
def size (r : Registry) : Nat := r.services.size

/-- Every record, in the order of the URNs. -/
def toList (r : Registry) : List Service := r.services.toList.map (·.2)

/-- What registering a service over the record `previous` amounts to. -/
def registerOutcome (previous : Option Service) (service : Service) : ApplyOutcome :=
  match previous with
  | none => .inserted
  | some s => if s.same service then .unchanged else .replaced

/-- Applies an event. A registration overwrites the record of its URN in any case. -/
def apply (r : Registry) (e : RegistryEvent) : ApplyOutcome × Registry :=
  match e.action with
  | .register =>
    (registerOutcome (r.lookup e.urn) e.service, ⟨r.services.insert e.urn e.service⟩)
  | .deregister =>
    (if r.contains e.urn then .removed else .absent, ⟨r.services.erase e.urn⟩)

/-- The registry after some events. -/
def applyAll (r : Registry) (events : List RegistryEvent) : Registry :=
  events.foldl (fun r e => (r.apply e).2) r

end Registry

end ServiceBroker
