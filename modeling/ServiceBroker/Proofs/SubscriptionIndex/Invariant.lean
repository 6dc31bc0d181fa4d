import Mathlib.Algebra.GroupWithZero.Nat
import ServiceBroker.Proofs.SubscriptionIndex.Entries

/-!
# The two maps of a subscription index agree

The representation invariant of the subscription index: what consumers hold is counted, named and
within the limit, and they are entered under exactly the topics that they hold.

- `Holding.WellFormed`: what one consumer holds is counted and within the limit, without empty
  parts;
- `SubscriptionIndex.WellFormed`: so is what every consumer holds, and a consumer is entered under
  exactly the topics that it holds;
- `SubscriptionIndex.heldTopics`: the topics that a consumer holds, with `WellFormed.total_eq` for
  their number.
-/

namespace ServiceBroker

/-! ## What one consumer holds -/

/-- Neither the namespace nor the id of the scope is empty. -/
def Scope.IsNamed (scope : Scope) : Prop := scope.ns ≠ "" ∧ scope.id? ≠ some ""

/-- The number of descriptors over all scopes, scope by scope. -/
def Holding.size (holding : Holding) : Nat :=
  (holding.scopes.toList.map fun entry => entry.2.size).sum

/-- What one consumer holds is counted and within a limit, without empty parts. -/
structure Holding.WellFormed (limit : Nat) (holding : Holding) : Prop where
  /-- Some scope is held. -/
  scopes_ne : holding.scopes ≠ ∅
  /-- In a scope that is held some descriptor is held. -/
  held_ne : ∀ (scope : Scope) (held : DescriptorMap),
    holding.scopes[scope]? = some held → held ≠ ∅
  /-- A scope that is held names something. -/
  scope_named : ∀ (scope : Scope) (held : DescriptorMap),
    holding.scopes[scope]? = some held → scope.IsNamed
  /-- A descriptor that is held has a name. -/
  key_named : ∀ (scope : Scope) (held : DescriptorMap), holding.scopes[scope]? = some held →
    ∀ key ∈ held, key.name ≠ ""
  /-- The count is right. -/
  total_eq : holding.total = holding.size
  /-- The count is within the limit. -/
  total_le : holding.total ≤ limit

namespace SubscriptionIndex

section Topics

variable {holding : Holding} {topic : Topic}

theorem mem_topics :
    topic ∈ Holding.topics holding ↔
      ∃ held : DescriptorMap, holding.scopes[topic.scope]? = some held ∧ topic.key ∈ held := by
  simp only [Holding.topics, List.mem_flatMap, List.mem_map, Std.ExtTreeMap.mem_keys]
  constructor
  · rintro ⟨⟨scope, held⟩, hmem, key, hkey, rfl⟩
    exact ⟨held, Std.ExtTreeMap.mem_toList_iff_getElem?_eq_some.mp hmem, hkey⟩
  · rintro ⟨held, hscope, hkey⟩
    exact ⟨(topic.scope, held), Std.ExtTreeMap.mem_toList_iff_getElem?_eq_some.mpr hscope,
      topic.key, hkey, rfl⟩

/-- A consumer is entered under each topic once. -/
private theorem nodup_topics (holding : Holding) : (Holding.topics holding).Nodup := by
  rw [Holding.topics, List.nodup_flatMap]
  constructor
  · intro entry _
    -- the keys of one scope differ
    refine List.Nodup.map ?_ entry.2.nodup_keys
    intro a b hab
    exact (Topic.mk.inj hab).2
  · refine holding.scopes.distinct_keys_toList.imp ?_
    intro a b hne
    -- the topics of two scopes differ in their scopes
    refine List.disjoint_left.mpr ?_
    intro topic ha hb
    obtain ⟨_, _, rfl⟩ := List.mem_map.mp ha
    obtain ⟨_, _, hb⟩ := List.mem_map.mp hb
    exact hne (Std.LawfulEqCmp.compare_eq_iff_eq.mpr (Topic.mk.inj hb).1.symm)

/-- The topics under which a holding is entered, as a finite set. -/
def topicSet (holding : Holding) : Finset Topic := (Holding.topics holding).toFinset

theorem mem_topicSet :
    topic ∈ topicSet holding ↔
      ∃ held : DescriptorMap, holding.scopes[topic.scope]? = some held ∧ topic.key ∈ held := by
  rw [topicSet, List.mem_toFinset, mem_topics]

/-- As many topics as descriptors over all scopes. -/
theorem card_topicSet (holding : Holding) : (topicSet holding).card = holding.size := by
  rw [topicSet, List.toFinset_card_of_nodup (nodup_topics holding), Holding.topics,
    List.length_flatMap, Holding.size]
  simp

/-- A well-formed holding is entered under some topic. -/
theorem exists_mem_topicSet {limit : Nat} (h : holding.WellFormed limit) :
    ∃ topic, topic ∈ topicSet holding := by
  -- some scope is held, and some descriptor in it
  obtain ⟨⟨scope, held⟩, hscope⟩ := List.exists_mem_of_ne_nil holding.scopes.toList
    (by simpa using h.scopes_ne)
  rw [Std.ExtTreeMap.mem_toList_iff_getElem?_eq_some] at hscope
  obtain ⟨key, hkey⟩ := List.exists_mem_of_ne_nil held.keys (by simpa using h.held_ne _ _ hscope)
  exact ⟨⟨scope, key⟩, mem_topicSet.mpr ⟨held, hscope, Std.ExtTreeMap.mem_keys.mp hkey⟩⟩

end Topics

/-! ## The invariant -/

/-- What every consumer holds is well formed, and a consumer is entered under exactly the topics
that it holds. -/
structure WellFormed (index : SubscriptionIndex) : Prop where
  /-- A consumer is entered under a topic if and only if it holds it. -/
  entered_iff : ∀ (consumer : Urn) (topic : Topic),
    Entered index.topics consumer topic ↔ topic.key ∈ index.held consumer topic.scope
  /-- No topic is kept for nobody. -/
  noneEmpty : NoneEmpty index.topics
  /-- What a consumer holds is well formed. -/
  holding : ∀ (consumer : Urn) (holding : Holding),
    index.consumers[consumer]? = some holding → holding.WellFormed index.limit

theorem wellFormed_empty (limit : Nat) : (empty limit).WellFormed where
  entered_iff consumer topic := by simp [Entered, held, empty]
  noneEmpty topic subscribers h := by simp [empty] at h
  holding consumer holding h := by simp [empty] at h

section Held

variable {index : SubscriptionIndex} {consumer other : Urn} {scope : Scope}

theorem held_of_holding {holding : Holding} (h : index.consumers[consumer]? = some holding) :
    index.held consumer scope = (holding.scopes[scope]?).getD ∅ := by
  simp [held, h]

/-- A topic is held if some holding has it. -/
theorem mem_held_iff {topic : Topic} :
    topic.key ∈ index.held consumer topic.scope ↔
      ∃ holding : Holding, index.consumers[consumer]? = some holding ∧
        topic ∈ topicSet holding := by
  cases hconsumer : index.consumers[consumer]? with
  | none => simp [held, hconsumer]
  | some holding =>
    rw [held_of_holding hconsumer]
    cases hscope : holding.scopes[topic.scope]? <;> simp [mem_topicSet, hscope]

/-- What a consumer holds in each scope. -/
def scopesOf (index : SubscriptionIndex) (consumer : Urn) :
    Std.ExtTreeMap Scope DescriptorMap :=
  ((index.consumers[consumer]?).map fun holding : Holding => holding.scopes).getD ∅

theorem held_eq (index : SubscriptionIndex) (consumer : Urn) (scope : Scope) :
    index.held consumer scope = ((index.scopesOf consumer)[scope]?).getD ∅ := by
  cases h : index.consumers[consumer]? <;> simp [held, scopesOf, h]

/-- The scopes of a consumer as a read-back goes through them. -/
theorem toList_scopesOf (index : SubscriptionIndex) (consumer : Urn) :
    ((index.consumers[consumer]?).map fun h => h.scopes.toList).getD [] =
      (index.scopesOf consumer).toList := by
  cases h : index.consumers[consumer]? <;> simp [scopesOf, h]

/-- The topics that a consumer holds. -/
def heldTopics (index : SubscriptionIndex) (consumer : Urn) : Finset Topic :=
  topicSet ⟨index.scopesOf consumer, 0⟩

theorem mem_heldTopics {topic : Topic} :
    topic ∈ index.heldTopics consumer ↔ topic.key ∈ index.held consumer topic.scope := by
  rw [heldTopics, mem_topicSet, held_eq]
  cases (index.scopesOf consumer)[topic.scope]? <;> simp

theorem size_scopesOf (index : SubscriptionIndex) (consumer : Urn) (total : Nat) :
    (⟨index.scopesOf consumer, total⟩ : Holding).size = (index.heldTopics consumer).card := by
  rw [heldTopics, card_topicSet]
  rfl

/-- What is held in addition counts in addition. -/
theorem card_heldTopics_add {before after : SubscriptionIndex} {more : List Topic}
    (hmem : ∀ topic : Topic, topic.key ∈ after.held consumer topic.scope ↔
      topic.key ∈ before.held consumer topic.scope ∨ topic ∈ more)
    (hnew : ∀ topic ∈ more, topic.key ∉ before.held consumer topic.scope) (hnodup : more.Nodup) :
    (after.heldTopics consumer).card = (before.heldTopics consumer).card + more.length := by
  rw [← List.toFinset_card_of_nodup hnodup, ← Finset.card_union_of_disjoint]
  · congr 1
    ext topic
    simp [mem_heldTopics, hmem]
  · rw [Finset.disjoint_left]
    intro topic hbefore hmore
    exact hnew topic (List.mem_toFinset.mp hmore) (mem_heldTopics.mp hbefore)

/-- The count of a well-formed index is right for consumers that hold nothing as well. -/
theorem WellFormed.total_eq (hwf : index.WellFormed) (consumer : Urn) :
    index.total consumer = (index.heldTopics consumer).card := by
  rw [← size_scopesOf index consumer 0]
  cases h : index.consumers[consumer]? with
  | none =>
    -- a consumer that is not entered holds nothing
    have hnil : (∅ : Std.ExtTreeMap Scope DescriptorMap).toList = [] := by simp
    simp [total, scopesOf, h, Holding.size, hnil]
  | some holding => simpa [total, scopesOf, h, Holding.size] using (hwf.holding _ _ h).total_eq

/-- No consumer holds more than the limit. -/
theorem WellFormed.total_le (hwf : index.WellFormed) (consumer : Urn) :
    index.total consumer ≤ index.limit := by
  cases h : index.consumers[consumer]? with
  | none => simp [total, h]
  | some holding => simpa [total, h] using (hwf.holding _ _ h).total_le

/-- A scope in which a consumer holds something. -/
theorem WellFormed.of_scope (hwf : index.WellFormed) {held : DescriptorMap}
    (h : (index.scopesOf consumer)[scope]? = some held) :
    held ≠ ∅ ∧ scope.IsNamed ∧ ∀ key ∈ held, key.name ≠ "" := by
  cases hconsumer : index.consumers[consumer]? with
  | none => simp [scopesOf, hconsumer] at h
  | some holding =>
    simp only [scopesOf, hconsumer, Option.map_some, Option.getD_some] at h
    have hholding := hwf.holding _ _ hconsumer
    exact ⟨hholding.held_ne _ _ h, hholding.scope_named _ _ h, hholding.key_named _ _ h⟩

/-- Every descriptor that is held has a name. -/
theorem WellFormed.key_named (hwf : index.WellFormed) {key : Descriptor.Key}
    (h : key ∈ index.held consumer scope) : key.name ≠ "" := by
  rw [held_eq] at h
  cases hsome : (index.scopesOf consumer)[scope]? with
  | none => simp [hsome] at h
  | some held => exact (hwf.of_scope hsome).2.2 key (by simpa [hsome] using h)

end Held

end SubscriptionIndex

end ServiceBroker
