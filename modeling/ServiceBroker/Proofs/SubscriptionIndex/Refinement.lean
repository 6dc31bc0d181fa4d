import ServiceBroker.Proofs.SubscriptionIndex.Operations

/-!
# The index as a set of subscriptions

The subscription index answers as if it stored nothing but a finite set of pairs: which consumer
asked for which topic. The reference is stated on that set alone, by membership and cardinality.

## Main definitions

* `Roster`: the finite set, with `Roster.add`, `Roster.remove` and `Roster.removeAll`;
* `SubscriptionIndex.Represents`: an index holds exactly the subscriptions of a roster.

## Main results

* `Represents.perform`: one operation gives the same answer on both sides and keeps them together;
* `run_refines`: so does every run, and counts and look-ups are those of the roster.
-/

namespace ServiceBroker

/-! ## The reference -/

/-- Which consumer asked for which topic. -/
abbrev Roster := Finset (Urn × Topic)

namespace Roster

/-- The subscriptions of a consumer. -/
def ofConsumer (roster : Roster) (consumer : Urn) : Roster := roster.filter (·.1 = consumer)

/-- The subscriptions of a consumer in a scope. -/
def inScope (roster : Roster) (consumer : Urn) (scope : Scope) : Roster :=
  roster.filter fun entry => entry.1 = consumer ∧ entry.2.scope = scope

/-- The subscriptions that a consumer asks for. -/
def asked (consumer : Urn) (scope : Scope) (descriptors : List Descriptor) : Roster :=
  (descriptors.map fun d => (consumer, (⟨scope, d.key⟩ : Topic))).toFinset

/-- Adds what is asked for, up to a limit on what the consumer holds. -/
def add (limit : Nat) (roster : Roster) (consumer : Urn) (scope : Scope)
    (descriptors : List Descriptor) : Except SubscriptionError (SubscribeOutcome × Roster) := do
  SubscriptionIndex.checkScope scope
  SubscriptionIndex.checkDescriptors descriptors
  let new := asked consumer scope descriptors \ roster
  let requested := (roster.ofConsumer consumer).card + new.card
  if new ≠ ∅ ∧ limit < requested then throw (.limitExceeded consumer requested limit)
  else
    let roster := roster ∪ new
    return (⟨new.card, (roster.inScope consumer scope).card⟩, roster)

/-- Removes what is asked for. -/
def remove (roster : Roster) (consumer : Urn) (scope : Scope) (descriptors : List Descriptor) :
    Except SubscriptionError (UnsubscribeOutcome × Roster) := do
  SubscriptionIndex.checkScope scope
  SubscriptionIndex.checkDescriptors descriptors
  let gone := roster ∩ asked consumer scope descriptors
  let roster := roster \ gone
  return (⟨gone.card, (roster.inScope consumer scope).card⟩, roster)

/-- Removes all subscriptions of a consumer. -/
def removeAll (roster : Roster) (consumer : Urn) : UnsubscribeOutcome × Roster :=
  (⟨(roster.ofConsumer consumer).card, 0⟩, roster \ roster.ofConsumer consumer)

/-- The answer to an operation and the roster then; a refused one changes nothing. -/
def perform (limit : Nat) (operation : SubscriptionIndex.Operation) (roster : Roster) :
    SubscriptionIndex.Answer × Roster :=
  match operation with
  | .add consumer scope descriptors =>
    match roster.add limit consumer scope descriptors with
    | .ok (outcome, roster) => (.subscribed outcome, roster)
    | .error e => (.refused e, roster)
  | .remove consumer scope descriptors =>
    match roster.remove consumer scope descriptors with
    | .ok (outcome, roster) => (.unsubscribed outcome, roster)
    | .error e => (.refused e, roster)
  | .removeAll consumer =>
    let (outcome, roster) := roster.removeAll consumer
    (.unsubscribed outcome, roster)

/-- The answers to operations on a roster that starts empty, and the roster then. -/
def run (limit : Nat) (operations : List SubscriptionIndex.Operation) :
    List SubscriptionIndex.Answer × Roster :=
  SubscriptionIndex.Operation.runAll (perform limit) operations ∅

theorem mem_asked {consumer other : Urn} {scope : Scope} {descriptors : List Descriptor}
    {topic : Topic} :
    (other, topic) ∈ asked consumer scope descriptors ↔
      other = consumer ∧ topic.scope = scope ∧ topic.key ∈ descriptors.map (·.key) := by
  obtain ⟨elsewhere, key⟩ := topic
  simp only [asked, List.mem_toFinset, List.mem_map, Prod.mk.injEq, Topic.mk.injEq]
  constructor
  · rintro ⟨d, hd, rfl, rfl, rfl⟩
    exact ⟨rfl, rfl, d, hd, rfl⟩
  · rintro ⟨rfl, rfl, d, hd, rfl⟩
    exact ⟨d, hd, rfl, rfl, rfl⟩

end Roster

namespace SubscriptionIndex

/-! ## Representation -/

/-- An index holds exactly the subscriptions of a roster. -/
def Represents (index : SubscriptionIndex) (roster : Roster) : Prop :=
  ∀ (consumer : Urn) (topic : Topic),
    (consumer, topic) ∈ roster ↔ topic.key ∈ index.held consumer topic.scope

private theorem represents_empty (limit : Nat) : (empty limit).Represents ∅ := by
  intro consumer topic
  simp [held, empty]

section Represents

variable {index : SubscriptionIndex} {roster : Roster} {consumer : Urn} {scope : Scope}
  {descriptors : List Descriptor}

/-- What a consumer holds over all scopes. -/
theorem Represents.card_ofConsumer (h : index.Represents roster) (hwf : index.WellFormed)
    (consumer : Urn) : (roster.ofConsumer consumer).card = index.total consumer := by
  -- the subscriptions of a consumer are the topics that it holds, each with its URN
  have hinj : Function.Injective (Prod.mk (β := Topic) consumer) := Prod.mk_right_injective consumer
  rw [hwf.total_eq, ← Finset.card_image_of_injective _ hinj]
  congr 1
  ext ⟨other, topic⟩
  simp only [Roster.ofConsumer, Finset.mem_filter, h other topic, Finset.mem_image,
    mem_heldTopics, Prod.mk.injEq]
  constructor
  · rintro ⟨hheld, rfl⟩
    exact ⟨topic, hheld, rfl, rfl⟩
  · rintro ⟨_, hheld, rfl, rfl⟩
    exact ⟨hheld, rfl⟩

/-- The subscriptions of a consumer to the topics of one scope, counted by their keys. -/
theorem card_eq_of_keys (consumer : Urn) (scope : Scope) {entries : Roster}
    {keys : Finset Descriptor.Key}
    (h : ∀ (other : Urn) (topic : Topic), (other, topic) ∈ entries ↔
      other = consumer ∧ topic.scope = scope ∧ topic.key ∈ keys) :
    entries.card = keys.card := by
  -- in one scope a key makes one subscription
  have hinj : Function.Injective fun key => (consumer, Topic.mk scope key) :=
    fun a b hab => (Topic.mk.inj (Prod.mk.inj hab).2).2
  rw [← Finset.card_image_of_injective _ hinj]
  congr 1
  ext ⟨other, elsewhere, key⟩
  rw [h, Finset.mem_image]
  constructor
  · rintro ⟨rfl, rfl, hkey⟩
    exact ⟨key, hkey, rfl⟩
  · rintro ⟨_, hkey, heq⟩
    obtain ⟨rfl, htopic⟩ := Prod.mk.inj heq
    obtain ⟨rfl, rfl⟩ := Topic.mk.inj htopic
    exact ⟨rfl, rfl, hkey⟩

/-- What a consumer holds in a scope. -/
theorem Represents.card_inScope (h : index.Represents roster) (consumer : Urn) (scope : Scope) :
    (roster.inScope consumer scope).card = (index.held consumer scope).size := by
  rw [← card_keySet]
  refine card_eq_of_keys consumer scope fun other topic => ?_
  rw [Roster.inScope, Finset.mem_filter, h, mem_keySet]
  constructor
  · rintro ⟨hheld, rfl, rfl⟩
    exact ⟨rfl, rfl, hheld⟩
  · rintro ⟨rfl, rfl, hheld⟩
    exact ⟨hheld, rfl, rfl⟩

/-! ## Operations -/

theorem Represents.mem_new (h : index.Represents roster) (other : Urn) (topic : Topic) :
    (other, topic) ∈ Roster.asked consumer scope descriptors \ roster ↔
      other = consumer ∧ topic.scope = scope ∧
        topic.key ∈ fresh (index.held consumer scope) descriptors := by
  rw [Finset.mem_sdiff, Roster.mem_asked, h, mem_fresh]
  constructor
  · rintro ⟨⟨rfl, rfl, hasked⟩, hheld⟩
    exact ⟨rfl, rfl, hheld, hasked⟩
  · rintro ⟨rfl, rfl, hheld, hasked⟩
    exact ⟨⟨rfl, rfl, hasked⟩, hheld⟩

theorem Represents.card_new (h : index.Represents roster) :
    (Roster.asked consumer scope descriptors \ roster).card =
      (fresh (index.held consumer scope) descriptors).size := by
  rw [← card_keySet]
  refine card_eq_of_keys consumer scope fun other topic => ?_
  rw [h.mem_new, mem_keySet]

theorem Represents.new_eq_empty_iff (h : index.Represents roster) :
    Roster.asked consumer scope descriptors \ roster = ∅ ↔
      (fresh (index.held consumer scope) descriptors).isEmpty = true := by
  rw [← Finset.card_eq_zero, h.card_new, Std.ExtTreeMap.isEmpty_iff,
    Std.ExtTreeMap.eq_empty_iff_size_eq_zero]

/-- Adding what is new keeps index and roster together. -/
theorem Represents.enter (h : index.Represents roster) (consumer : Urn) (scope : Scope)
    (descriptors : List Descriptor) :
    (index.enter consumer scope (fresh (index.held consumer scope) descriptors)).Represents
      (roster ∪ (Roster.asked consumer scope descriptors \ roster)) := by
  intro other topic
  rw [Finset.mem_union, h.mem_new, h, held_enter]
  by_cases hboth : consumer = other ∧ scope = topic.scope
  · obtain ⟨rfl, rfl⟩ := hboth
    simp
  · rw [if_neg hboth, or_iff_left]
    rintro ⟨rfl, rfl, -⟩
    exact hboth ⟨rfl, rfl⟩

theorem Represents.mem_gone (h : index.Represents roster) {held : DescriptorMap}
    (hsome : (index.scopesOf consumer)[scope]? = some held) (other : Urn) (topic : Topic) :
    (other, topic) ∈ roster ∩ Roster.asked consumer scope descriptors ↔
      other = consumer ∧ topic.scope = scope ∧ topic.key ∈ (takeKeys held descriptors).1 := by
  rw [Finset.mem_inter, Roster.mem_asked, h, mem_takeKeys_gone, ← held_of_scopesOf hsome]
  constructor
  · rintro ⟨hheld, rfl, rfl, hasked⟩
    exact ⟨rfl, rfl, hheld, hasked⟩
  · rintro ⟨rfl, rfl, hheld, hasked⟩
    exact ⟨hheld, rfl, rfl, hasked⟩

theorem Represents.card_gone (h : index.Represents roster) {held : DescriptorMap}
    (hsome : (index.scopesOf consumer)[scope]? = some held) :
    (roster ∩ Roster.asked consumer scope descriptors).card =
      (takeKeys held descriptors).1.length := by
  rw [← List.toFinset_card_of_nodup (splits_takeKeys held descriptors).nodup]
  refine card_eq_of_keys consumer scope fun other topic => ?_
  rw [h.mem_gone hsome, List.mem_toFinset]

/-- Removing what is held keeps index and roster together. -/
theorem Represents.withdraw (h : index.Represents roster) {held : DescriptorMap}
    (hsome : (index.scopesOf consumer)[scope]? = some held) (descriptors : List Descriptor) :
    (index.withdraw consumer scope (takeKeys held descriptors).1
        (takeKeys held descriptors).2).Represents
      (roster \ (roster ∩ Roster.asked consumer scope descriptors)) := by
  intro other topic
  rw [Finset.mem_sdiff, h.mem_gone hsome, h, held_withdraw]
  by_cases hboth : consumer = other ∧ scope = topic.scope
  · obtain ⟨rfl, rfl⟩ := hboth
    rw [if_pos ⟨rfl, rfl⟩, held_of_scopesOf hsome, mem_takeKeys_gone, mem_takeKeys_left]
    tauto
  · rw [if_neg hboth, and_iff_left]
    rintro ⟨rfl, rfl, -⟩
    exact hboth ⟨rfl, rfl⟩

/-- Adding answers alike and keeps index and roster together. -/
theorem Represents.perform_add (h : index.Represents roster) (hwf : index.WellFormed)
    (consumer : Urn) (scope : Scope) (descriptors : List Descriptor) :
    ((Operation.add consumer scope descriptors).perform index).1 =
        (roster.perform index.limit (.add consumer scope descriptors)).1 ∧
      ((Operation.add consumer scope descriptors).perform index).2.Represents
        (roster.perform index.limit (.add consumer scope descriptors)).2 := by
  simp only [Operation.perform, Roster.perform, add_eq, Roster.add, bind_checkAll]
  cases checkAll scope descriptors with
  | error e => exact ⟨rfl, h⟩
  | ok =>
    simp only [bind, Except.bind, h.card_ofConsumer hwf, h.card_new]
    by_cases hnew : Roster.asked consumer scope descriptors \ roster = ∅
    -- nothing is new: both sides stay as they are, whatever the limit
    · have hfresh := h.new_eq_empty_iff.mp hnew
      have hsize := congrArg Finset.card hnew
      rw [h.card_new, Finset.card_empty] at hsize
      simp only [hfresh, hnew, hsize, ↓reduceIte, ne_eq, not_true_eq_false, false_and,
        Finset.union_empty, h.card_inScope]
      exact ⟨rfl, h⟩
    -- something is new: both sides compare the same number with the limit
    · have hfresh := h.new_eq_empty_iff.not.mp hnew
      have hafter := h.enter consumer scope descriptors
      have hscope := hafter.card_inScope consumer scope
      rw [held_enter, if_pos ⟨rfl, rfl⟩, size_insertMany_fresh] at hscope
      by_cases hlimit : index.limit <
          index.total consumer + (fresh (index.held consumer scope) descriptors).size
      · simp only [hfresh, hnew, hlimit, Bool.false_eq_true, ↓reduceIte, ne_eq,
          not_false_eq_true, and_self]
        exact ⟨rfl, h⟩
      · simp only [hfresh, hnew, hlimit, Bool.false_eq_true, ↓reduceIte, ne_eq,
          not_false_eq_true, and_false, hscope]
        exact ⟨rfl, hafter⟩

/-- Removing answers alike and keeps index and roster together. -/
theorem Represents.perform_remove (h : index.Represents roster) (limit : Nat)
    (consumer : Urn) (scope : Scope) (descriptors : List Descriptor) :
    ((Operation.remove consumer scope descriptors).perform index).1 =
        (roster.perform limit (.remove consumer scope descriptors)).1 ∧
      ((Operation.remove consumer scope descriptors).perform index).2.Represents
        (roster.perform limit (.remove consumer scope descriptors)).2 := by
  simp only [Operation.perform, Roster.perform, remove_eq, Roster.remove, bind_checkAll]
  cases checkAll scope descriptors with
  | error e => exact ⟨rfl, h⟩
  | ok =>
    simp only [bind, Except.bind]
    cases hsome : (index.scopesOf consumer)[scope]? with
    | none =>
      -- the consumer holds nothing in the scope, so that the roster has nothing to remove either
      have hheld : index.held consumer scope = ∅ := by simp [held_eq, hsome]
      have hgone : roster ∩ Roster.asked consumer scope descriptors = ∅ := by
        ext ⟨other, topic⟩
        rw [Finset.mem_inter, h, Roster.mem_asked]
        refine iff_of_false ?_ (Finset.notMem_empty _)
        rintro ⟨hmem, rfl, rfl, -⟩
        simp [hheld] at hmem
      simp only [hgone, Finset.card_empty, Finset.sdiff_empty, h.card_inScope, hheld,
        Std.ExtTreeMap.size_empty]
      exact ⟨rfl, h⟩
    | some held =>
      have hafter := h.withdraw hsome descriptors
      have hscope := hafter.card_inScope consumer scope
      rw [held_withdraw, if_pos ⟨rfl, rfl⟩] at hscope
      simp only [h.card_gone hsome, hscope]
      exact ⟨rfl, hafter⟩

/-- Dropping a consumer answers alike and keeps index and roster together. -/
theorem Represents.perform_removeAll (h : index.Represents roster) (hwf : index.WellFormed)
    (limit : Nat) (consumer : Urn) :
    ((Operation.removeAll consumer).perform index).1 =
        (roster.perform limit (.removeAll consumer)).1 ∧
      ((Operation.removeAll consumer).perform index).2.Represents
        (roster.perform limit (.removeAll consumer)).2 := by
  constructor
  · simp only [Operation.perform, Roster.perform, Roster.removeAll, h.card_ofConsumer hwf]
    unfold SubscriptionIndex.removeAll total
    cases index.consumers[consumer]? <;> rfl
  · intro other topic
    -- everything of the consumer goes, and nothing of others
    have hheld := index.held_removeAll consumer other topic.scope
    simp only [Operation.perform, Roster.perform, Roster.removeAll, Roster.ofConsumer,
      Finset.mem_sdiff, Finset.mem_filter, hheld, h other topic]
    by_cases heq : consumer = other
    · simp [heq]
    · simp [heq, Ne.symm heq]

/-- Every operation answers alike and keeps index and roster together. -/
theorem Represents.perform (h : index.Represents roster) (hwf : index.WellFormed)
    (operation : Operation) :
    (operation.perform index).1 = (roster.perform index.limit operation).1 ∧
      (operation.perform index).2.Represents (roster.perform index.limit operation).2 := by
  cases operation with
  | add consumer scope descriptors => exact h.perform_add hwf consumer scope descriptors
  | remove consumer scope descriptors => exact h.perform_remove _ consumer scope descriptors
  | removeAll consumer => exact h.perform_removeAll hwf _ consumer

/-- Every run of operations gives the same answers and keeps index and roster together. -/
theorem Represents.runAll (h : index.Represents roster) (hwf : index.WellFormed)
    (operations : List Operation) :
    (Operation.runAll Operation.perform operations index).1 =
        (Operation.runAll (Roster.perform index.limit) operations roster).1 ∧
      (Operation.runAll Operation.perform operations index).2.Represents
        (Operation.runAll (Roster.perform index.limit) operations roster).2 := by
  induction operations generalizing index roster with
  | nil => exact ⟨rfl, h⟩
  | cons operation operations ih =>
    obtain ⟨hanswer, hnext⟩ := h.perform hwf operation
    -- the limit stays, so that the roster goes on with the same one
    obtain ⟨hwf', hlimit⟩ := hwf.perform operation
    obtain ⟨hanswers, hlast⟩ := ih hnext hwf'
    rw [hlimit] at hanswers hlast
    exact ⟨congrArg₂ List.cons hanswer hanswers, hlast⟩

/-! ## Counts and look-ups -/

/-- The consumers are those that hold something. -/
theorem Represents.consumerCount_eq (h : index.Represents roster) (hwf : index.WellFormed) :
    index.consumerCount = (roster.image Prod.fst).card := by
  rw [consumerCount, ← card_keySet]
  congr 1
  ext consumer
  rw [mem_keySet, Std.ExtTreeMap.mem_iff_isSome_getElem?, Option.isSome_iff_exists,
    Finset.mem_image]
  constructor
  · rintro ⟨holding, hsome⟩
    -- no consumer is kept that holds nothing
    obtain ⟨topic, htopic⟩ := exists_mem_topicSet (hwf.holding _ _ hsome)
    exact ⟨(consumer, topic), (h _ _).mpr (mem_held_iff.mpr ⟨holding, hsome, htopic⟩), rfl⟩
  · rintro ⟨⟨_, topic⟩, hmem, rfl⟩
    obtain ⟨holding, hsome, -⟩ := mem_held_iff.mp ((h _ _).mp hmem)
    exact ⟨holding, hsome⟩

/-- The topics are those that someone holds. -/
theorem Represents.topicCount_eq (h : index.Represents roster) (hwf : index.WellFormed) :
    index.topicCount = (roster.image Prod.snd).card := by
  rw [topicCount, ← card_keySet]
  congr 1
  ext topic
  rw [mem_keySet, Std.ExtTreeMap.mem_iff_isSome_getElem?, Option.isSome_iff_exists,
    Finset.mem_image]
  constructor
  · rintro ⟨subscribers, hsome⟩
    -- no topic is kept for nobody
    obtain ⟨consumer, hmem⟩ := List.exists_mem_of_ne_nil subscribers.toList
      (by simpa using hwf.noneEmpty _ _ hsome)
    refine ⟨(consumer, topic), (h _ _).mpr ((hwf.entered_iff _ _).mp ?_), rfl⟩
    rw [Entered, hsome]
    exact Std.ExtTreeSet.mem_toList.mp hmem
  · rintro ⟨⟨consumer, topic⟩, hmem, rfl⟩
    have hentered := (hwf.entered_iff _ _).mpr ((h _ _).mp hmem)
    rw [Entered] at hentered
    cases hsome : index.topics[topic]? with
    | none => simp [hsome] at hentered
    | some subscribers => exact ⟨subscribers, rfl⟩

/-- A notification goes to those that hold its class for the namespace of the producer or for the
producer itself. -/
theorem WellFormed.mem_subscribers (hwf : index.WellFormed) (producer consumer : Urn)
    (key : Descriptor.Key) :
    consumer ∈ index.subscribers producer key ↔
      key ∈ index.held consumer (.namespaceWide producer.ns) ∨
        key ∈ index.held consumer (.service producer.ns producer.id) := by
  -- the look-ups go by `topics`, the holdings by `consumers`: the invariant ties them
  rw [← hwf.entered_iff consumer ⟨.namespaceWide producer.ns, key⟩,
    ← hwf.entered_iff consumer ⟨.service producer.ns producer.id, key⟩, subscribers,
    Std.ExtTreeSet.mem_toList, Std.ExtTreeSet.mem_insertMany_list, holders,
    List.contains_iff_mem, Std.ExtTreeSet.mem_toList]
  rfl

/-- A notification goes to those that subscribed to the namespace or to the producer itself. -/
theorem Represents.mem_subscribers (h : index.Represents roster) (hwf : index.WellFormed)
    (producer consumer : Urn) (key : Descriptor.Key) :
    consumer ∈ index.subscribers producer key ↔
      (consumer, ⟨.namespaceWide producer.ns, key⟩) ∈ roster ∨
        (consumer, ⟨.service producer.ns producer.id, key⟩) ∈ roster := by
  rw [h, h, hwf.mem_subscribers]

theorem nodup_subscribers (index : SubscriptionIndex) (producer : Urn) (key : Descriptor.Key) :
    (index.subscribers producer key).Nodup := by
  rw [subscribers]
  exact Std.ExtTreeSet.distinct_toList.imp Std.ReflCmp.ne_of_cmp_ne_eq

end Represents

/-- For every limit and every run of operations the index answers exactly like the roster; the
numbers of consumers and topics are those of the roster, and a notification is matched by exactly
the consumers that the roster has in either scope of its producer. -/
theorem run_refines (limit : Nat) (operations : List Operation) :
    let index := (run limit operations).2
    let roster := (Roster.run limit operations).2
    (run limit operations).1 = (Roster.run limit operations).1 ∧
      index.consumerCount = (roster.image Prod.fst).card ∧
      index.topicCount = (roster.image Prod.snd).card ∧
      ∀ (producer : Urn) (d : Descriptor),
        (index.subscribers producer d.key).Nodup ∧
        ∀ consumer, consumer ∈ index.subscribers producer d.key ↔
          (consumer, ⟨.namespaceWide producer.ns, d.key⟩) ∈ roster ∨
            (consumer, ⟨.service producer.ns producer.id, d.key⟩) ∈ roster := by
  have hwf := (wellFormed_empty limit).runAll operations
  have h := (represents_empty limit).runAll (wellFormed_empty limit) operations
  refine ⟨h.1, h.2.consumerCount_eq hwf.1, h.2.topicCount_eq hwf.1, fun producer d => ?_⟩
  exact ⟨nodup_subscribers _ _ _, fun consumer => h.2.mem_subscribers hwf.1 producer consumer d.key⟩

end SubscriptionIndex

end ServiceBroker
