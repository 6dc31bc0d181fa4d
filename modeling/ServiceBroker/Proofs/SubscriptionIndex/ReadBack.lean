import Mathlib.Data.List.Sort
import ServiceBroker.Proofs.SubscriptionIndex.Admission
import ServiceBroker.Proofs.SubscriptionIndex.Batches
import ServiceBroker.Proofs.Text.Order

/-!
# Read-backs

The read-back of a consumer depends on nothing but what the consumer holds. Its scopes and, in each
scope, its descriptors stand in a strict order, so that there is only one list to show them.

## Main definitions

* `Scope.Before`, `Descriptor.Before`: the orders of read-backs, with texts in the order of their
  UTF-8 forms;
* `SubscriptionList.Shows`: a list shows what is held, scope by scope, in these orders;
* `SubscriptionList.ofEntries`: the list made of entries that come in any order.

## Main results

* `SubscriptionList.Shows.unique`: no other list shows the same;
* `SubscriptionIndex.WellFormed.shows_ofEntries`: the read-back shows what a consumer holds, in
  whatever order the entries come;
* `SubscriptionIndex.subscriptions_canonical`: so runs that leave the same to a consumer leave the
  same read-back.
-/

namespace ServiceBroker

/-! ## The orders of read-backs -/

/-- One scope stands before another in a read-back: it lies in an earlier namespace, or it is the
namespace of a service, or both are services of one namespace and its id is earlier. -/
inductive Scope.Before : Scope → Scope → Prop
  | ns {a b : Scope} : Bytes.ofString a.ns < Bytes.ofString b.ns → Before a b
  | level (ns id : String) : Before (.namespaceWide ns) (.service ns id)
  | id (ns : String) {id id' : String} : Bytes.ofString id < Bytes.ofString id' →
      Before (.service ns id) (.service ns id')

/-- One descriptor stands before another: its name is earlier, or the names are the same and its
version is earlier. -/
def Descriptor.Before (a b : Descriptor) : Prop :=
  Bytes.ofString a.name < Bytes.ofString b.name ∨
    a.name = b.name ∧ Bytes.ofString a.version < Bytes.ofString b.version

namespace Scope

instance : Std.TransCmp listing :=
  inferInstanceAs (Std.TransCmp
    (compareLex (compareOn ns) (compareLex (compareOn fun s => s.id?.isSome)
      (compareOn idOrEmpty))))

theorem listing_eq (a b : Scope) : listing a b =
    (compare a.ns b.ns).then ((compare a.id?.isSome b.id?.isSome).then
      (compare a.idOrEmpty b.idOrEmpty)) := rfl

private theorem eq_of_listing {a b : Scope} (h : listing a b = .eq) : a = b := by
  rw [listing_eq, Ordering.then_eq_eq, Ordering.then_eq_eq] at h
  cases a <;> cases b <;> simp_all [ns, id?, idOrEmpty]

theorem listing_eq_lt_iff {a b : Scope} : listing a b = .lt ↔ a.Before b := by
  -- the first of the three comparisons that is not equal decides
  rw [listing_eq, Ordering.then_eq_lt, Ordering.then_eq_lt, Std.LawfulEqCmp.compare_eq_iff_eq,
    Std.LawfulEqCmp.compare_eq_iff_eq, Text.compare_eq_lt_iff, Text.compare_eq_lt_iff]
  constructor
  · rintro (hns | ⟨hns, hlevel | ⟨hlevel, hid⟩⟩)
    · exact .ns hns
    · -- only a namespace has no id, and only a service has one
      cases a with
      | service => cases b <;> cases hlevel
      | namespaceWide ns =>
        cases b with
        | service ns' id =>
          obtain rfl : ns = ns' := hns
          exact .level ns id
        | namespaceWide => cases hlevel
    · -- the ids are compared for two namespaces as well, but then they are equal
      cases a with
      | service ns id =>
        cases b with
        | service ns' id' =>
          obtain rfl : ns = ns' := hns
          exact .id ns hid
        | namespaceWide => cases hlevel
      | namespaceWide =>
        cases b with
        | service => cases hlevel
        | namespaceWide => exact absurd hid (List.lt_irrefl _)
  · rintro (hns | _ | ⟨ns, hid⟩)
    · exact .inl hns
    · exact .inr ⟨rfl, .inl rfl⟩
    · exact .inr ⟨rfl, .inr ⟨rfl, hid⟩⟩

instance : Std.Asymm Before where
  asymm a b h h' := by
    rw [← listing_eq_lt_iff] at h h'
    rw [Std.OrientedCmp.gt_of_lt h] at h'
    cases h'

end Scope

namespace Descriptor

theorem compare_key_eq_lt_iff {a b : Descriptor} : compare a.key b.key = .lt ↔ a.Before b := by
  rw [Key.compare_eq, Ordering.then_eq_lt, Std.LawfulEqCmp.compare_eq_iff_eq,
    Text.compare_eq_lt_iff, Text.compare_eq_lt_iff]
  rfl

instance : Std.Asymm Before where
  asymm a b h h' := by
    rw [← compare_key_eq_lt_iff] at h h'
    rw [Std.OrientedCmp.gt_of_lt h] at h'
    cases h'

end Descriptor

/-! ## What a read-back shows -/

/-- The list shows what is held in each scope. Scopes and descriptors stand in a strict order, so
none of them is shown twice. -/
structure SubscriptionList.Shows (list : SubscriptionList) (held : Scope → DescriptorMap) :
    Prop where
  /-- A scope is shown if and only if something is held in it. -/
  mem_scopes : ∀ scope, scope ∈ list.subscriptions.map (·.scope) ↔ held scope ≠ ∅
  /-- Scopes stand in their order. -/
  ordered_scopes : (list.subscriptions.map (·.scope)).Pairwise Scope.Before
  /-- A scope is shown with the descriptors that are held in it, and their descriptions. -/
  mem_notifications : ∀ s ∈ list.subscriptions, ∀ d,
    d ∈ s.notifications ↔ (held s.scope)[d.key]? = some d.description
  /-- No scope is shown without descriptors. -/
  notifications_ne : ∀ s ∈ list.subscriptions, s.notifications ≠ []
  /-- The descriptors of a scope stand in their order. -/
  ordered_notifications : ∀ s ∈ list.subscriptions, s.notifications.Pairwise Descriptor.Before

namespace SubscriptionList

/-- There is only one list to show what is held. -/
theorem Shows.unique {list list' : SubscriptionList} {held : Scope → DescriptorMap}
    (h : list.Shows held) (h' : list'.Shows held) : list = list' := by
  have hsub {list list' : SubscriptionList} (h : list.Shows held) (h' : list'.Shows held) :
      ∀ s ∈ list.subscriptions, s ∈ list'.subscriptions := by
    intro s hs
    have hscope := (h.mem_scopes s.scope).mp (List.mem_map_of_mem hs)
    obtain ⟨t, ht, hts⟩ := List.mem_map.mp ((h'.mem_scopes s.scope).mpr hscope)
    have hnotifications : t.notifications = s.notifications := by
      refine (h'.ordered_notifications t ht).eq_of_mem_iff (h.ordered_notifications s hs)
        fun d => ?_
      rw [h'.mem_notifications t ht, h.mem_notifications s hs, hts]
    obtain rfl : t = s := by
      cases t
      cases s
      simp_all
    exact ht
  -- the same entries, in one order
  have hordered {list : SubscriptionList} (h : list.Shows held) :
      list.subscriptions.Pairwise (InvImage Scope.Before Subscription.scope) :=
    (List.pairwise_map.mp h.ordered_scopes :)
  have heq := (hordered h).eq_of_mem_iff (hordered h') fun s => ⟨hsub h h' s, hsub h' h s⟩
  cases list
  cases list'
  simp_all

end SubscriptionList

/-! ## What is read back -/

/-- The descriptors of a map, in the order of their keys. -/
def DescriptorMap.descriptors (held : DescriptorMap) : List Descriptor :=
  held.toList.map fun (key, description) => .ofKey key description

namespace DescriptorMap

theorem mem_descriptors {held : DescriptorMap} {d : Descriptor} :
    d ∈ descriptors held ↔ held[d.key]? = some d.description := by
  rw [descriptors, List.mem_map, ← Std.ExtTreeMap.mem_toList_iff_getElem?_eq_some]
  constructor
  · rintro ⟨⟨key, description⟩, hmem, rfl⟩
    exact hmem
  · exact fun hmem => ⟨_, hmem, rfl⟩

private theorem descriptors_ne_nil {held : DescriptorMap} (h : held ≠ ∅) :
    descriptors held ≠ [] := by
  simpa [descriptors] using h

private theorem pairwise_descriptors (held : DescriptorMap) :
    (descriptors held).Pairwise Descriptor.Before := by
  rw [descriptors, List.pairwise_map]
  refine List.Pairwise.imp (fun {p q} hlt => ?_) held.ordered_keys_toList
  exact Descriptor.compare_key_eq_lt_iff.mp hlt

end DescriptorMap

namespace SubscriptionList

/-- The list made of what is held in each scope, whatever the order in which the scopes come. -/
def ofEntries (entries : List (Scope × DescriptorMap)) : SubscriptionList :=
  ⟨(entries.mergeSort fun a b => (Scope.listing a.1 b.1).isLE).map fun (scope, held) =>
    ⟨scope, DescriptorMap.descriptors held⟩⟩

/-- Entries of different scopes are sorted strictly. -/
theorem pairwise_mergeSort {entries : List (Scope × DescriptorMap)}
    (hne : entries.Pairwise fun a b => a.1 ≠ b.1) :
    (entries.mergeSort fun a b => (Scope.listing a.1 b.1).isLE).Pairwise
      fun a b => a.1.Before b.1 := by
  have hle : (entries.mergeSort fun a b => (Scope.listing a.1 b.1).isLE).Pairwise
      fun a b => (Scope.listing a.1 b.1).isLE := by
    refine List.pairwise_mergeSort (fun a b c hab hbc => ?_) (fun a b => ?_) _
    · exact Std.TransCmp.isLE_trans hab hbc
    · cases h : Scope.listing a.1 b.1 with
      | gt => simp [Std.OrientedCmp.lt_of_gt h]
      | lt | eq => rfl
  -- sorting leaves equal scopes side by side, and there are none
  refine hle.imp₂ (fun a b hle hne => ?_)
    (((List.mergeSort_perm entries _).pairwise_iff fun h => h.symm).mpr hne)
  cases h : Scope.listing a.1 b.1 with
  | lt => exact Scope.listing_eq_lt_iff.mp h
  | eq => exact absurd (Scope.eq_of_listing h) hne
  | gt => simp [h] at hle

end SubscriptionList

namespace SubscriptionIndex

variable {index : SubscriptionIndex} {consumer : Urn}

private theorem subscriptions_eq_ofEntries (index : SubscriptionIndex) (consumer : Urn) :
    index.subscriptions consumer = .ofEntries (index.scopesOf consumer).toList := by
  rw [subscriptions, toList_scopesOf]
  rfl

/-- A consumer has one entry for each scope in which it holds something. -/
theorem WellFormed.mem_toList_scopesOf (hwf : index.WellFormed) {scope : Scope}
    {held : DescriptorMap} :
    (scope, held) ∈ (index.scopesOf consumer).toList ↔
      index.held consumer scope ≠ ∅ ∧ index.held consumer scope = held := by
  rw [Std.ExtTreeMap.mem_toList_iff_getElem?_eq_some, hwf.getElem?_scopesOf]
  split
  next hempty => simp [hempty]
  next hne => simp [hne]

/-- In whatever order the entries of a consumer come, the list made of them shows what the consumer
holds. -/
theorem WellFormed.shows_ofEntries (hwf : index.WellFormed) {entries : List (Scope × DescriptorMap)}
    (hperm : entries.Perm (index.scopesOf consumer).toList) :
    (SubscriptionList.ofEntries entries).Shows (index.held consumer) := by
  have hsorted := (List.mergeSort_perm entries fun a b => (Scope.listing a.1 b.1).isLE).trans hperm
  -- every entry is a scope with what is held there, and never an empty one
  have hmem {s : Subscription} (hs : s ∈ (SubscriptionList.ofEntries entries).subscriptions) :
      index.held consumer s.scope ≠ ∅ ∧
        s.notifications = DescriptorMap.descriptors (index.held consumer s.scope) := by
    obtain ⟨⟨scope, held⟩, hentry, rfl⟩ := List.mem_map.mp hs
    obtain ⟨hne, rfl⟩ := hwf.mem_toList_scopesOf.mp (hsorted.mem_iff.mp hentry)
    exact ⟨hne, rfl⟩
  refine ⟨fun scope => ⟨fun hscope => ?_, fun hne => ?_⟩, ?_, fun s hs d => ?_, fun s hs => ?_,
    fun s hs => ?_⟩
  · obtain ⟨s, hs, rfl⟩ := List.mem_map.mp hscope
    exact (hmem hs).1
  · have hentry := hsorted.mem_iff.mpr (hwf.mem_toList_scopesOf.mpr ⟨hne, rfl⟩)
    exact List.mem_map.mpr ⟨_, List.mem_map_of_mem hentry, rfl⟩
  · rw [List.pairwise_map, SubscriptionList.ofEntries, List.pairwise_map]
    refine SubscriptionList.pairwise_mergeSort ((hperm.pairwise_iff Ne.symm).mpr ?_)
    exact (index.scopesOf consumer).distinct_keys_toList.imp fun hne heq =>
      hne (Std.LawfulEqCmp.compare_eq_iff_eq.mpr heq)
  · rw [(hmem hs).2, DescriptorMap.mem_descriptors]
  · rw [(hmem hs).2]
    exact DescriptorMap.descriptors_ne_nil (hmem hs).1
  · rw [(hmem hs).2]
    exact DescriptorMap.pairwise_descriptors _

/-- After any operations the read-back of a consumer shows what the consumer holds, each scope and
each descriptor once and in order, and counts as many descriptors as are accounted for. It depends
neither on the order in which the entries of the consumer come nor on the way that led to them. -/
theorem subscriptions_canonical (limit : Nat) (operations : List Operation) (consumer : Urn) :
    let index := (run limit operations).2
    (index.subscriptions consumer).Shows (index.held consumer) ∧
    (index.subscriptions consumer).descriptorCount = index.total consumer ∧
    (∀ entries : List (Scope × DescriptorMap), entries.Perm (index.scopesOf consumer).toList →
      SubscriptionList.ofEntries entries = index.subscriptions consumer) ∧
    ∀ (limit' : Nat) (operations' : List Operation),
      (∀ scope, (run limit' operations').2.held consumer scope = index.held consumer scope) →
      (run limit' operations').2.subscriptions consumer = index.subscriptions consumer := by
  have hwf (limit : Nat) (operations : List Operation) : (run limit operations).2.WellFormed :=
    ((wellFormed_empty limit).runAll operations).1
  have hshows (limit : Nat) (operations : List Operation) :
      ((run limit operations).2.subscriptions consumer).Shows
        ((run limit operations).2.held consumer) := by
    rw [subscriptions_eq_ofEntries]
    exact (hwf limit operations).shows_ofEntries (.refl _)
  refine ⟨hshows limit operations, (hwf limit operations).descriptorCount_subscriptions consumer,
    fun entries hperm => ?_, fun limit' operations' hheld => ?_⟩
  · exact ((hwf limit operations).shows_ofEntries hperm).unique (hshows limit operations)
  · have hshows' := hshows limit' operations'
    rw [funext hheld] at hshows'
    exact hshows'.unique (hshows limit operations)

/-- A namespace and one of its services, subscribed to one after the other, are read back alike
whichever came first, in whatever order their entries come, and whatever was held in between. -/
theorem subscriptions_canonical_reordered :
    let consumer : Urn := ⟨"a", "b"⟩
    let wide : Operation :=
      .add consumer (.namespaceWide "shop") [⟨"stock", "1", "x"⟩, ⟨"price", "2", ""⟩]
    let narrow : Operation := .add consumer (.service "shop" "cart") [⟨"order", "1", "y"⟩]
    let between : List Operation :=
      [.add consumer (.namespaceWide "bank") [⟨"rate", "1", ""⟩],
        .remove consumer (.namespaceWide "bank") [⟨"rate", "1", "z"⟩]]
    let index := (run 1024 [wide, narrow]).2
    let index' := (run 3 ([narrow] ++ between ++ [wide])).2
    let entries := (index.scopesOf consumer).toList.reverse
    entries.Perm (index.scopesOf consumer).toList ∧ entries ≠ (index.scopesOf consumer).toList ∧
      SubscriptionList.ofEntries entries = index.subscriptions consumer ∧
      (∀ scope, index'.held consumer scope = index.held consumer scope) ∧
      index'.subscriptions consumer = index.subscriptions consumer ∧
      (index.subscriptions consumer).descriptorCount = 3 := by
  intro consumer wide narrow between index index' entries
  have hscopes : index'.scopesOf consumer = index.scopesOf consumer := by decide +kernel
  have hheld (scope : Scope) : index'.held consumer scope = index.held consumer scope := by
    rw [held_eq, held_eq, hscopes]
  have hperm : entries.Perm (index.scopesOf consumer).toList := List.reverse_perm _
  obtain ⟨-, hcount, hentries, hruns⟩ := subscriptions_canonical 1024 [wide, narrow] consumer
  exact ⟨hperm, by decide +kernel, hentries entries hperm, hheld, hruns 3 _ hheld,
    hcount.trans (by decide +kernel)⟩

end SubscriptionIndex

end ServiceBroker
