import ServiceBroker.Descriptor
import ServiceBroker.Urn

/-!
# Subscriptions as consumers see them

A subscription covers notifications of one service, or of every service of a namespace. A scope is
read from an object by trial: with a `namespace` and an `id` it is a service, with a `namespace`
alone a namespace.

Two orders are laid on scopes. Their own order puts every service before every namespace;
`Scope.listing` is the order of read-backs, by namespace with the namespace itself in front of its
services.
-/

namespace ServiceBroker

/-- What a subscription is scoped to. -/
inductive Scope where
  /-- One service. -/
  | service (ns id : String)
  /-- Every service in a namespace. -/
  | namespaceWide (ns : String)
deriving DecidableEq, Hashable, Repr

namespace Scope

/-- The scope of one service. -/
def ofUrn (urn : Urn) : Scope := .service urn.ns urn.id

/-- The namespace a scope lies in. -/
def ns : Scope → String
  | .service ns _ => ns
  | .namespaceWide ns => ns

/-- The service a scope covers, if it is one. -/
def id? : Scope → Option String
  | .service _ id => some id
  | .namespaceWide _ => none

/-! ## Order -/

/-- Services come before namespaces. -/
def level : Scope → Nat
  | .service _ _ => 0
  | .namespaceWide _ => 1

/-- The id of a service; a namespace has none. -/
def idOrEmpty : Scope → String
  | .service _ id => id
  | .namespaceWide _ => ""

/-- Services are ordered before namespaces, then by namespace and id. -/
instance : Ord Scope where
  compare := compareLex (compareOn level) (compareLex (compareOn ns) (compareOn idOrEmpty))

instance : Std.TransOrd Scope :=
  inferInstanceAs (Std.TransCmp
    (compareLex (compareOn level) (compareLex (compareOn ns) (compareOn idOrEmpty))))

instance : Std.LawfulEqOrd Scope where
  eq_of_compare {a b} h := by
    have h : ((compare a.level b.level).then
        ((compare a.ns b.ns).then (compare a.idOrEmpty b.idOrEmpty))) = .eq := h
    rw [Ordering.then_eq_eq, Ordering.then_eq_eq] at h
    cases a <;> cases b <;> simp_all [level, ns, idOrEmpty]

/-- The order of read-backs: by namespace, the namespace itself before its services, and these by
id. -/
def listing : Scope → Scope → Ordering :=
  compareLex (compareOn ns) (compareLex (compareOn fun s => s.id?.isSome) (compareOn idOrEmpty))

/-! ## JSON -/

/-- The text of the member `name`, if there is exactly one and it is a string. -/
def soleText (members : List Json.Member) (name : String) : Option String :=
  match members.filter (·.1 == name) with
  | [(_, .string s)] => some s
  | _ => none

/-- The scope that the members of an object describe. A service is tried first. -/
def ofMembers? (members : List Json.Member) : Option Scope :=
  match soleText members "namespace", soleText members "id" with
  | some ns, some id => some (.service ns id)
  | some ns, none => some (.namespaceWide ns)
  | none, _ => none

/-- Reads a scope. The whole value is read before it is looked at. -/
def read : Json.Reader Scope := fun depth size bytes => do
  let noVariant := .error (.data (.noVariant "SubscriptionScope"))
  match ← Json.readToken size bytes with
  | (.object, rest) =>
    let depth ← Json.enter depth
    let (members, rest) ← Json.readMembers (Json.Value.read depth size) size size [] rest
    match ofMembers? members with
    | some scope => .ok (scope, rest)
    | none => noVariant
  | (.list, rest) =>
    let depth ← Json.enter depth
    let _ ← Json.readItems (Json.Value.read depth size) size [] rest
    noVariant
  | _ => noVariant

/-- The scope as data. -/
def toJson : Scope → Json.Value
  | .service ns id => .object [("namespace", .string ns), ("id", .string id)]
  | .namespaceWide ns => .object [("namespace", .string ns)]

end Scope

/-! ## Subscriptions -/

/-- One scope's worth of a consumer's subscriptions. -/
structure Subscription where
  /-- Whose notifications are asked for. -/
  scope : Scope
  /-- The classes of notification that are asked for. -/
  notifications : List Descriptor
deriving DecidableEq, Repr

namespace Subscription

/-- What has been read of a subscription. -/
structure Draft where
  scope : Option Scope := none
  notifications : Option (List Descriptor) := none

/-- How a subscription is read. -/
def record : Json.Record Draft Subscription where
  name := "Subscription"
  fields := [
    .of "scope" Draft.scope (fun d v => { d with scope := some v }) Scope.read,
    .of "notifications" Draft.notifications (fun d v => { d with notifications := some v })
      (Json.readList Descriptor.record.read)]
  empty := {}
  finish := fun d => do
    return ⟨← Json.Record.required "scope" d.scope,
      ← Json.Record.required "notifications" d.notifications⟩

/-- The subscription as data. -/
def toJson (s : Subscription) : Json.Value :=
  .object [("scope", s.scope.toJson), ("notifications", .list (s.notifications.map (·.toJson)))]

end Subscription

/-- Every subscription a consumer holds. -/
structure SubscriptionList where
  /-- One entry for each scope. -/
  subscriptions : List Subscription
deriving DecidableEq, Repr

namespace SubscriptionList

/-- Whether nothing is subscribed to. -/
def isEmpty (list : SubscriptionList) : Bool := list.subscriptions.isEmpty

/-- The number of descriptors over all scopes. -/
def descriptorCount (list : SubscriptionList) : Nat :=
  (list.subscriptions.flatMap (·.notifications)).length

/-- How a subscription list is read. -/
def record : Json.Record (Option (List Subscription)) SubscriptionList where
  name := "SubscriptionList"
  fields := [.of "subscriptions" id (fun _ v => some v) (Json.readList Subscription.record.read)]
  empty := none
  finish := fun d => return ⟨← Json.Record.required "subscriptions" d⟩

/-- The subscription list as data. -/
def toJson (list : SubscriptionList) : Json.Value :=
  .object [("subscriptions", .list (list.subscriptions.map (·.toJson)))]

end SubscriptionList

end ServiceBroker
