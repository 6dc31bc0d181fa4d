import ServiceBroker.Proofs.SubscriptionIndex.ReadBack
import ServiceBroker.SearchKey

/-!
# The laws of keys

Ordered sets and hash maps keep their promises only if the equality, the order and the hashing of
their keys agree. They do for descriptors, scopes and URNs. So no ordered set of descriptors holds
two of one name and version.

## Main definitions

* `SearchKey.Lawful`: what makes the values of a type good keys;
* `Scope.Below`, `Urn.Below`: the orders of scopes and of URNs, with texts in the order of their
  UTF-8 forms.

## Main results

* `Descriptor.lawful_key`, `Scope.lawful_key`, `Urn.lawful_key`: all three types have good keys;
* `Descriptor.distinct_toList`: an ordered set tells its descriptors apart by name and version;
* `Descriptor.keys_fresh`: the descriptors that an add collects are such a set;
* `SearchKey.laws`: all of it together.
-/

namespace ServiceBroker

/-! ## Laws -/

/-- The values of a type are good keys of ordered sets and of hash maps. -/
structure SearchKey.Lawful (α : Type) [Ord α] [Hashable α] [SearchKey α] : Prop where
  /-- Any two values can be compared. -/
  total : ∀ a b : α, (compare a b).isLE ∨ (compare b a).isLE
  swap : ∀ a b : α, compare b a = (compare a b).swap
  antisymm : ∀ a b : α, (compare a b).isLE → (compare b a).isLE → same a b
  trans : ∀ a b c : α, (compare a b).isLE → (compare b c).isLE → (compare a c).isLE
  /-- The comparison that may have no answer always has that of the order. -/
  partialCompare_eq : ∀ a b : α, partialCompare a b = some (compare a b)
  /-- Values are equal in the order if and only if they are equal. -/
  eq_iff : ∀ a b : α, compare a b = .eq ↔ same a b
  /-- No hash function tells equal values apart. -/
  feed_eq : ∀ a b : α, same a b → ∀ {σ : Type} (h : Hasher σ) (state : σ),
    feed h state a = feed h state b
  hash_eq : ∀ a b : α, same a b → hash a = hash b

theorem thenPartial_some (first second : Ordering) :
    thenPartial (some first) (some second) = some (first.then second) := by
  cases first <;> rfl

namespace SearchKey

/-- A transitive order gives good keys if the equality is that of the order and hashing looks at
nothing else. -/
theorem Lawful.of_transOrd {α : Type} [Ord α] [Hashable α] [SearchKey α] [Std.TransOrd α]
    (hpartial : ∀ a b : α, partialCompare a b = some (compare a b))
    (heq : ∀ a b : α, compare a b = .eq ↔ same a b)
    (hfeed : ∀ a b : α, same a b → ∀ {σ : Type} (h : Hasher σ) (state : σ),
      feed h state a = feed h state b)
    (hhash : ∀ a b : α, same a b → hash a = hash b) : Lawful α where
  total a b := by
    rw [Std.OrientedOrd.eq_swap (a := b)]
    cases compare a b <;> simp
  swap a b := Std.OrientedOrd.eq_swap
  antisymm a b hab hba := (heq a b).mp (Std.OrientedCmp.isLE_antisymm hab hba)
  trans a b c hab hbc := Std.TransCmp.isLE_trans hab hbc
  partialCompare_eq := hpartial
  eq_iff := heq
  feed_eq := hfeed
  hash_eq := hhash

/-- Values that are equal as keys only if they are the same are good keys. -/
theorem Lawful.of_lawfulEqOrd {α : Type} [Ord α] [Hashable α] [SearchKey α] [Std.TransOrd α]
    [Std.LawfulEqOrd α] (hpartial : ∀ a b : α, partialCompare a b = some (compare a b))
    (hsame : ∀ a b : α, same a b ↔ a = b) : Lawful α := by
  refine .of_transOrd hpartial (fun a b => ?_) (fun a b h => ?_) fun a b h => ?_
  · rw [hsame, Std.LawfulEqOrd.compare_eq_iff_eq]
  · rw [(hsame a b).mp h]
    exact fun _ _ => rfl
  · rw [(hsame a b).mp h]

end SearchKey

/-! ## URNs -/

/-- One URN comes before another: its namespace is earlier, or the namespaces are the same and its
id is earlier. -/
def Urn.Below (a b : Urn) : Prop :=
  Bytes.ofString a.ns < Bytes.ofString b.ns ∨
    a.ns = b.ns ∧ Bytes.ofString a.id < Bytes.ofString b.id

namespace Urn

/-- URNs are equal if they are the same. -/
theorem same_iff {a b : Urn} : SearchKey.same a b ↔ a = b := by
  cases a
  cases b
  simp [SearchKey.same]

theorem lawful_key : SearchKey.Lawful Urn :=
  .of_lawfulEqOrd (fun _ _ => thenPartial_some ..) fun _ _ => same_iff

/-- URNs are ordered by their namespaces, then by their identifiers. -/
theorem compare_eq_lt_iff {a b : Urn} : compare a b = .lt ↔ a.Below b := by
  rw [compare_eq, Ordering.then_eq_lt, Std.LawfulEqCmp.compare_eq_iff_eq, Text.compare_eq_lt_iff,
    Text.compare_eq_lt_iff]
  rfl

end Urn

/-! ## Scopes -/

/-- One scope comes before another: it is that of a service and the other one that of a namespace,
or both are of one kind and its namespace is earlier, or the namespace is the same and its id is
earlier. -/
inductive Scope.Below : Scope → Scope → Prop
  | level (ns id ns' : String) : Below (.service ns id) (.namespaceWide ns')
  | service {ns id ns' id' : String} : Urn.Below ⟨ns, id⟩ ⟨ns', id'⟩ →
      Below (.service ns id) (.service ns' id')
  | namespaceWide {ns ns' : String} : Bytes.ofString ns < Bytes.ofString ns' →
      Below (.namespaceWide ns) (.namespaceWide ns')

namespace Scope

/-- Whole namespaces are ordered as their names are. -/
theorem compare_namespaceWide (ns ns' : String) :
    compare (namespaceWide ns) (namespaceWide ns') = compare ns ns' := by
  have hcompare : compare (namespaceWide ns) (namespaceWide ns') =
      (compare ns ns').then (compare "" "") := rfl
  rw [hcompare, Std.ReflOrd.compare_self, Ordering.then_eq]

theorem same_iff {a b : Scope} : SearchKey.same a b ↔ a = b := by
  cases a <;> cases b <;> simp [SearchKey.same]

theorem lawful_key : SearchKey.Lawful Scope := by
  refine .of_lawfulEqOrd (fun a b => ?_) fun _ _ => same_iff
  cases a with
  | service ns id =>
    cases b with
    | service ns' id' => exact thenPartial_some ..
    | namespaceWide ns' => rfl
  | namespaceWide ns =>
    cases b with
    | service ns' id' => rfl
    | namespaceWide ns' => rw [compare_namespaceWide]; rfl

theorem compare_eq_lt_iff {a b : Scope} : compare a b = .lt ↔ a.Below b := by
  constructor
  · intro h
    cases a with
    | service ns id =>
      cases b with
      | service ns' id' => exact .service (Urn.compare_eq_lt_iff.mp h)
      | namespaceWide ns' => exact .level ns id ns'
    | namespaceWide ns =>
      cases b with
      | service ns' id' => cases h
      | namespaceWide ns' =>
        rw [compare_namespaceWide] at h
        exact .namespaceWide (Text.compare_eq_lt_iff.mp h)
  · rintro (⟨ns, id, ns'⟩ | h | h)
    · rfl
    · exact Urn.compare_eq_lt_iff.mpr h
    · rw [compare_namespaceWide]
      exact Text.compare_eq_lt_iff.mpr h

end Scope

/-! ## Descriptors -/

namespace Descriptor

/-- Descriptors are equal if they name one class, whatever their descriptions say. -/
theorem same_iff {a b : Descriptor} : SearchKey.same a b ↔ a.key = b.key :=
  beq_iff_eq (a := a.key) (b := b.key)

theorem compare_eq_iff {a b : Descriptor} : compare a b = .eq ↔ a.key = b.key :=
  Std.LawfulEqOrd.compare_eq_iff_eq (a := a.key)

theorem lawful_key : SearchKey.Lawful Descriptor := by
  refine .of_transOrd (fun a b => rfl) (fun a b => ?_) (fun a b h σ hasher state => ?_)
    fun a b h => ?_
  · rw [same_iff, compare_eq_iff]
  · have hname : a.name = b.name := congrArg Key.name (same_iff.mp h)
    have hversion : a.version = b.version := congrArg Key.version (same_iff.mp h)
    simp only [SearchKey.feed, hname, hversion]
  · exact congrArg (hash : Key → UInt64) (same_iff.mp h)

/-- What is asked of two descriptors as keys has nothing to do with their descriptions. -/
structure WithoutDescriptions (a b a' b' : Descriptor) : Prop where
  compare_eq : compare a' b' = compare a b
  partialCompare_eq : SearchKey.partialCompare a' b' = SearchKey.partialCompare a b
  same_eq : SearchKey.same a' b' = SearchKey.same a b
  feed_eq : ∀ {σ : Type} (h : Hasher σ) (state : σ),
    SearchKey.feed h state a' = SearchKey.feed h state a
  hash_eq : hash a' = hash a

private theorem withoutDescriptions (a b : Descriptor) (x y : String) :
    WithoutDescriptions a b { a with description := x } { b with description := y } :=
  ⟨rfl, rfl, rfl, fun _ _ => rfl, rfl⟩

/-! ### Ordered sets -/

/-- The ordered set of descriptors that were inserted one after the other. -/
def collect (ds : List Descriptor) : Std.ExtTreeSet Descriptor := ds.foldl (·.insert ·) ∅

theorem mem_foldl_insert {d : Descriptor} (ds : List Descriptor) (set : Std.ExtTreeSet Descriptor) :
    d ∈ ds.foldl (·.insert ·) set ↔ (∃ e ∈ ds, e.key = d.key) ∨ d ∈ set := by
  induction ds generalizing set with
  | nil => simp
  | cons e ds ih =>
    rw [List.foldl_cons, ih, Std.ExtTreeSet.mem_insert, compare_eq_iff, List.exists_mem_cons_iff,
      or_assoc, or_left_comm]

/-- A set has a descriptor if one of its class was put in. -/
theorem mem_collect {d : Descriptor} {ds : List Descriptor} :
    d ∈ collect ds ↔ ∃ e ∈ ds, e.key = d.key := by
  simp [collect, mem_foldl_insert]

/-- A set has a descriptor if and only if one of its key is among those that it holds. -/
theorem mem_iff_exists_mem_toList {d : Descriptor} {set : Std.ExtTreeSet Descriptor} :
    d ∈ set ↔ ∃ e ∈ set.toList, e.key = d.key := by
  let _ : BEq Descriptor := ⟨same⟩
  have _ : Std.LawfulBEqCmp (compare : Descriptor → Descriptor → Ordering) :=
    ⟨compare_eq_iff.trans same_iff.symm⟩
  rw [Std.ExtTreeSet.mem_iff_contains, ← Std.ExtTreeSet.contains_toList,
    List.contains_iff_exists_mem_beq]
  exact exists_congr fun e => and_congr_right fun _ => same_iff.trans eq_comm

/-- An ordered set tells its descriptors apart by name and version, and holds them in order. -/
theorem distinct_toList (set : Std.ExtTreeSet Descriptor) :
    set.toList.Pairwise fun a b => a.Before b ∧ a.key ≠ b.key := by
  refine set.ordered_toList.imp fun {a b} h => ⟨compare_key_eq_lt_iff.mp h, fun heq => ?_⟩
  rw [compare_eq_iff.mpr heq] at h
  cases h

/-- The keys of an ordered set are those of the descriptors that were inserted. -/
theorem exists_mem_toList_collect {key : Key} {ds : List Descriptor} :
    (∃ d ∈ (collect ds).toList, d.key = key) ↔ ∃ d ∈ ds, d.key = key := by
  have hmem : ofKey key "" ∈ collect ds ↔ _ := mem_iff_exists_mem_toList
  rw [mem_collect] at hmem
  exact hmem.symm

/-- The descriptors that an add finds not held yet are the ordered set of those given. -/
theorem keys_fresh (held : DescriptorMap) (ds : List Descriptor) :
    (SubscriptionIndex.fresh held ds).keys =
      (collect (ds.filter fun d => !held.contains d.key)).toList.map key := by
  -- the same keys, both times in their strict order
  have hkeys := (SubscriptionIndex.fresh held ds).ordered_keys
  have hset : ((collect (ds.filter fun d => !held.contains d.key)).toList.map key).Pairwise
      fun a b => compare a b = .lt :=
    List.pairwise_map.mpr (collect (ds.filter fun d => !held.contains d.key)).ordered_toList
  have _ : Std.Asymm fun a b : Key => compare a b = .lt := ⟨fun _ _ => Std.OrientedCmp.not_lt_of_lt⟩
  refine hkeys.eq_of_mem_iff hset fun k => ?_
  rw [Std.ExtTreeMap.mem_keys, SubscriptionIndex.mem_fresh, List.mem_map, List.mem_map,
    exists_mem_toList_collect]
  simp only [List.mem_filter, Bool.not_eq_true', ← Bool.not_eq_true,
    ← Std.ExtTreeMap.mem_iff_contains]
  constructor
  · rintro ⟨hnew, d, hd, rfl⟩
    exact ⟨d, ⟨hd, hnew⟩, rfl⟩
  · rintro ⟨d, ⟨hd, hnew⟩, rfl⟩
    exact ⟨hnew, d, hd, rfl⟩

end Descriptor

/-! ## All of it -/

namespace SearchKey

/-- Descriptors, scopes and URNs are good keys. Descriptions of descriptors take no part in it,
texts are compared byte by byte, and services come before namespaces. So an ordered set of
descriptors, whatever was inserted and in whatever order, holds one descriptor for each name and
version that was inserted; the descriptors that an add to a subscription index collects are such a
set. -/
theorem laws :
    Lawful Descriptor ∧ Lawful Scope ∧ Lawful Urn ∧
    (∀ (a b : Descriptor) (x y : String), a.WithoutDescriptions b
      { a with description := x } { b with description := y }) ∧
    (∀ a b : Descriptor, compare a b = .lt ↔ a.Before b) ∧
    (∀ a b : Scope, compare a b = .lt ↔ a.Below b) ∧
    (∀ a b : Urn, compare a b = .lt ↔ a.Below b) ∧
    (∀ ds : List Descriptor,
      (Descriptor.collect ds).toList.Pairwise (fun a b => a.Before b ∧ a.key ≠ b.key) ∧
      ∀ key, (∃ d ∈ (Descriptor.collect ds).toList, d.key = key) ↔ ∃ d ∈ ds, d.key = key) ∧
    ∀ (held : DescriptorMap) (ds : List Descriptor), (SubscriptionIndex.fresh held ds).keys =
      (Descriptor.collect (ds.filter fun d => !held.contains d.key)).toList.map (·.key) :=
  ⟨Descriptor.lawful_key, Scope.lawful_key, Urn.lawful_key, Descriptor.withoutDescriptions,
    fun _ _ => Descriptor.compare_key_eq_lt_iff, fun _ _ => Scope.compare_eq_lt_iff,
    fun _ _ => Urn.compare_eq_lt_iff,
    fun _ => ⟨Descriptor.distinct_toList _, fun _ => Descriptor.exists_mem_toList_collect⟩,
    Descriptor.keys_fresh⟩

end SearchKey

end ServiceBroker
