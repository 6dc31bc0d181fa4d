import Std.Data.ExtTreeSet
import ServiceBroker.Subscription

/-!
# The subscription index

Which consumer asked for which class of notification from whom. The index holds two maps that say
the same: `consumers` leads from a consumer to the descriptors it holds in each scope, `topics` from
a scope and a descriptor to the consumers that hold it. So a notification is matched by two
look-ups, however many descriptors are held.

- `SubscriptionIndex.add` and `SubscriptionIndex.remove` change what one consumer holds in one
  scope; a call that fails changes nothing;
- `SubscriptionIndex.subscriptions` is the read-back of one consumer;
- `SubscriptionIndex.subscribers` are the consumers of a notification.
-/

namespace ServiceBroker

/-! ## Results -/

/-- What an add has done. -/
structure SubscribeOutcome where
  /-- Descriptors that the scope did not hold before. -/
  added : Nat
  /-- Descriptors that the scope holds now. -/
  total : Nat
deriving DecidableEq, Repr

/-- What a remove has done. -/
structure UnsubscribeOutcome where
  /-- Descriptors that were held and are gone. -/
  removed : Nat
  /-- Descriptors that the scope still holds. -/
  remaining : Nat
deriving DecidableEq, Repr

/-- What is wrong with a scope. -/
inductive ScopeFault where
  | emptyNamespace
  | emptyId
deriving DecidableEq, Repr

/-- Why an add or remove is refused. -/
inductive SubscriptionError where
  /-- The namespace or the id of the scope is empty. -/
  | invalidScope (fault : ScopeFault)
  /-- The descriptor at a position has an empty name. -/
  | invalidDescriptor (position : Nat)
  /-- The consumer would hold too many descriptors over all scopes. -/
  | limitExceeded (consumer : Urn) (requested limit : Nat)
deriving DecidableEq, Repr

/-- The wording of what is wrong with a scope. -/
def ScopeFault.message : ScopeFault → String
  | .emptyNamespace => "namespace must not be empty"
  | .emptyId => "service id must not be empty"

/-- The wording of a refused add or remove. -/
def SubscriptionError.message : SubscriptionError → String
  | .invalidScope fault => "invalid subscription scope: " ++ fault.message
  | .invalidDescriptor position =>
    "invalid notification descriptor at position " ++ toString position ++
      ": name must not be empty"
  | .limitExceeded consumer requested limit =>
    "consumer " ++ consumer.display ++ " would hold " ++ toString requested ++
      " descriptors, limit is " ++ toString limit

/-! ## The index -/

/-- Keys of descriptors, each with its description. -/
abbrev DescriptorMap := Std.ExtTreeMap Descriptor.Key String

/-- What one consumer holds. -/
structure Holding where
  /-- The descriptors held in each scope. -/
  scopes : Std.ExtTreeMap Scope DescriptorMap := ∅
  /-- The number of descriptors over all scopes. -/
  total : Nat := 0

/-- A class of notification in a scope. -/
structure Topic where
  /-- Whose notifications. -/
  scope : Scope
  /-- Which class. -/
  key : Descriptor.Key
deriving DecidableEq, Hashable, Repr

namespace Topic

/-- Topics are ordered by scope, then by class. -/
instance : Ord Topic where
  compare := compareLex (compareOn Topic.scope) (compareOn Topic.key)

instance : Std.TransOrd Topic :=
  inferInstanceAs (Std.TransCmp (compareLex (compareOn Topic.scope) (compareOn Topic.key)))

instance : Std.LawfulEqOrd Topic where
  eq_of_compare {a b} h := by
    have h : (compare a.scope b.scope).then (compare a.key b.key) = .eq := h
    rw [Ordering.then_eq_eq] at h
    cases a
    cases b
    simp_all

end Topic

/-- Which consumer asked for which class of notification from whom. -/
structure SubscriptionIndex where
  /-- Descriptors that one consumer may hold over all scopes. -/
  limit : Nat := 1024
  /-- What each consumer holds. -/
  consumers : Std.ExtTreeMap Urn Holding := ∅
  /-- Who holds each class in each scope. -/
  topics : Std.ExtTreeMap Topic (Std.ExtTreeSet Urn) := ∅

namespace SubscriptionIndex

/-- The index without subscriptions. -/
def empty (limit : Nat) : SubscriptionIndex := { limit }

/-- The number of consumers with a subscription. -/
def consumerCount (index : SubscriptionIndex) : Nat := index.consumers.size

/-- The number of topics with a subscriber. -/
def topicCount (index : SubscriptionIndex) : Nat := index.topics.size

/-- What a consumer holds in a scope. -/
def held (index : SubscriptionIndex) (consumer : Urn) (scope : Scope) : DescriptorMap :=
  ((index.consumers[consumer]?).bind fun h => h.scopes[scope]?).getD ∅

/-- The number of descriptors that a consumer holds over all scopes. -/
def total (index : SubscriptionIndex) (consumer : Urn) : Nat :=
  ((index.consumers[consumer]?).map (·.total)).getD 0

/-- Refuses a scope with an empty namespace or id. -/
def checkScope : Scope → Except SubscriptionError Unit
  | .namespaceWide ns => if ns = "" then .error (.invalidScope .emptyNamespace) else .ok ()
  | .service ns id =>
    if ns = "" then .error (.invalidScope .emptyNamespace)
    else if id = "" then .error (.invalidScope .emptyId)
    else .ok ()

/-- Refuses descriptors of which one has an empty name. -/
def checkDescriptors (descriptors : List Descriptor) : Except SubscriptionError Unit :=
  match descriptors.findIdx? (·.name == "") with
  | some position => .error (.invalidDescriptor position)
  | none => .ok ()

/-! ### Adding -/

/-- The descriptors that are not held yet, each once; of two with one key the later is kept. -/
def fresh (held : DescriptorMap) (descriptors : List Descriptor) : DescriptorMap :=
  .ofList ((descriptors.filter fun d => !held.contains d.key).map fun d => (d.key, d.description))

/-- Enters a consumer under a topic. -/
def attach (topics : Std.ExtTreeMap Topic (Std.ExtTreeSet Urn)) (consumer : Urn)
    (topic : Topic) : Std.ExtTreeMap Topic (Std.ExtTreeSet Urn) :=
  topics.insert topic ((topics[topic]?.getD ∅).insert consumer)

/-- Subscribes a consumer to descriptors in a scope. -/
def add (index : SubscriptionIndex) (consumer : Urn) (scope : Scope)
    (descriptors : List Descriptor) :
    Except SubscriptionError (SubscribeOutcome × SubscriptionIndex) := do
  checkScope scope
  checkDescriptors descriptors
  let held := index.held consumer scope
  let fresh := fresh held descriptors
  if fresh.isEmpty then return (⟨0, held.size⟩, index)
  let requested := index.total consumer + fresh.size
  if index.limit < requested then throw (.limitExceeded consumer requested index.limit)
  let now := held.insertMany fresh.toList
  let scopes := ((index.consumers[consumer]?).map (·.scopes)).getD ∅
  return (⟨fresh.size, now.size⟩, { index with
    consumers := index.consumers.insert consumer ⟨scopes.insert scope now, requested⟩
    topics := fresh.keys.foldl (fun topics key => attach topics consumer ⟨scope, key⟩)
      index.topics })

/-! ### Removing -/

/-- Takes a consumer out from under a topic; a topic without consumers is dropped. -/
def detach (topics : Std.ExtTreeMap Topic (Std.ExtTreeSet Urn)) (consumer : Urn)
    (topic : Topic) : Std.ExtTreeMap Topic (Std.ExtTreeSet Urn) :=
  match topics[topic]? with
  | none => topics
  | some subscribers =>
    let left := subscribers.erase consumer
    if left.isEmpty then topics.erase topic else topics.insert topic left

/-- The keys of descriptors that are held, each once, and what is held without them. -/
def takeKeys (held : DescriptorMap) (descriptors : List Descriptor) :
    List Descriptor.Key × DescriptorMap :=
  descriptors.foldl (fun (gone, held) d =>
    if held.contains d.key then (d.key :: gone, held.erase d.key) else (gone, held)) ([], held)

/-- Unsubscribes a consumer from descriptors in a scope. -/
def remove (index : SubscriptionIndex) (consumer : Urn) (scope : Scope)
    (descriptors : List Descriptor) :
    Except SubscriptionError (UnsubscribeOutcome × SubscriptionIndex) := do
  checkScope scope
  checkDescriptors descriptors
  match index.consumers[consumer]? with
  | none => return (⟨0, 0⟩, index)
  | some holding =>
    match holding.scopes[scope]? with
    | none => return (⟨0, 0⟩, index)
    | some held =>
      let (gone, left) := takeKeys held descriptors
      let scopes :=
        if left.isEmpty then holding.scopes.erase scope else holding.scopes.insert scope left
      return (⟨gone.length, left.size⟩, { index with
        consumers :=
          if scopes.isEmpty then index.consumers.erase consumer
          else index.consumers.insert consumer ⟨scopes, holding.total - gone.length⟩
        topics := gone.foldl (fun topics key => detach topics consumer ⟨scope, key⟩)
          index.topics })

/-- The topics under which a holding is entered. -/
def Holding.topics (holding : Holding) : List Topic :=
  holding.scopes.toList.flatMap fun (scope, held) => held.keys.map fun key => ⟨scope, key⟩

/-- Drops every subscription of a consumer, known or not. -/
def removeAll (index : SubscriptionIndex) (consumer : Urn) :
    UnsubscribeOutcome × SubscriptionIndex :=
  match index.consumers[consumer]? with
  | none => (⟨0, 0⟩, index)
  | some holding =>
    (⟨holding.total, 0⟩, { index with
      consumers := index.consumers.erase consumer
      topics := (Holding.topics holding).foldl (fun topics topic => detach topics consumer topic)
        index.topics })

/-! ### Looking up -/

/-- Everything a consumer is subscribed to, scope by scope in the order of read-backs. -/
def subscriptions (index : SubscriptionIndex) (consumer : Urn) : SubscriptionList :=
  let scopes := ((index.consumers[consumer]?).map fun h => h.scopes.toList).getD []
  let sorted := scopes.mergeSort fun a b => (Scope.listing a.1 b.1).isLE
  ⟨sorted.map fun (scope, held) =>
    ⟨scope, held.toList.map fun (key, description) => Descriptor.ofKey key description⟩⟩

/-- The consumers entered under a topic. -/
def holders (index : SubscriptionIndex) (topic : Topic) : List Urn :=
  (index.topics[topic]?.getD ∅).toList

/-- The consumers that get a notification of the class `key` pushed by `producer`, each once and
in their order: those subscribed to the namespace of the producer and those subscribed to the
producer itself. -/
def subscribers (index : SubscriptionIndex) (producer : Urn) (key : Descriptor.Key) : List Urn :=
  let wide := index.topics[(⟨.namespaceWide producer.ns, key⟩ : Topic)]?.getD ∅
  (wide.insertMany (index.holders ⟨.ofUrn producer, key⟩)).toList

end SubscriptionIndex

end ServiceBroker
