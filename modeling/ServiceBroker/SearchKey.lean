import ServiceBroker.Subscription

/-!
# Keys of ordered sets and hash maps

Descriptors, scopes and URNs are looked up in ordered sets and in hash maps. Beside their order this
asks for an equality, for a comparison that may have no answer, and for a way to be hashed. Scopes
and URNs have these part by part; those of a descriptor leave the description out.
-/

namespace ServiceBroker

/-- A hash function with states of type `σ`, which takes texts and numbers one after the other. -/
structure Hasher (σ : Type) where
  /-- Takes a text. -/
  text : σ → String → σ
  /-- Takes a number. -/
  number : σ → Nat → σ

/-- What ordered sets and hash maps ask of ordered values. -/
class SearchKey (α : Type) [Ord α] where
  /-- Whether two values are equal. -/
  same : α → α → Bool
  /-- Compares two values, if they can be compared. -/
  partialCompare : α → α → Option Ordering
  /-- Gives a value to a hash function. -/
  feed : {σ : Type} → Hasher σ → σ → α → σ

/-- Of two comparisons the second decides if the first finds no difference. -/
def thenPartial : Option Ordering → Option Ordering → Option Ordering
  | some .eq, second => second
  | first, _ => first

instance : SearchKey Urn where
  same a b := a.ns == b.ns && a.id == b.id
  partialCompare a b := thenPartial (some (compare a.ns b.ns)) (some (compare a.id b.id))
  feed h state urn := h.text (h.text state urn.ns) urn.id

instance : SearchKey Scope where
  same
    | .service ns id, .service ns' id' => ns == ns' && id == id'
    | .namespaceWide ns, .namespaceWide ns' => ns == ns'
    | _, _ => false
  partialCompare
    | .service ns id, .service ns' id' =>
      thenPartial (some (compare ns ns')) (some (compare id id'))
    | .namespaceWide ns, .namespaceWide ns' => some (compare ns ns')
    | a, b => some (compare a.level b.level)
  feed h state
    | .service ns id => h.text (h.text (h.number state 0) ns) id
    | .namespaceWide ns => h.text (h.number state 1) ns

instance : SearchKey Descriptor where
  same := Descriptor.same
  partialCompare a b := some (compare a b)
  feed h state d := h.text (h.text state d.name) d.version

end ServiceBroker
