import ServiceBroker.Proofs.SubscriptionIndex.Privacy
import ServiceBroker.Proofs.SubscriptionIndex.Refinement

/-!
# Subscribing in batches

Descriptors can be added in one call or in several. Who is subscribed to what does not depend on it,
but a description may: of two descriptors with one key a call keeps the later, while a descriptor
that is held already stays as it is.

## Main definitions

* `descriptionIn`: the description that a list of descriptors gives last with a key;
* `Tally`: no key that is new has different descriptions in two lists.

## Main results

* `held_add` and `getElem?_held_add`: what a consumer holds after an add;
* `WellFormed.ext_held`: a well-formed index is settled by the descriptors that are held;
* `held_eq_of_subscriptions`: these are settled by the read-back;
* `add_append_iff`: both ways have the same outcome, the same subscribers and the same counts, and
  the same read-backs if and only if the descriptions tally.
-/

namespace ServiceBroker.SubscriptionIndex

variable {index index' after : SubscriptionIndex} {consumer other : Urn} {scope elsewhere : Scope}
  {held : DescriptorMap} {descriptors xs ys : List Descriptor} {outcome : SubscribeOutcome}

/-! ## Descriptions -/

/-- The description that a list of descriptors gives last with a key. -/
def descriptionIn (descriptors : List Descriptor) (key : Descriptor.Key) : Option String :=
  descriptors.reverse.findSome? fun d => if d.key = key then some d.description else none

private theorem descriptionIn_append (xs ys : List Descriptor) (key : Descriptor.Key) :
    descriptionIn (xs ++ ys) key = (descriptionIn ys key).or (descriptionIn xs key) := by
  rw [descriptionIn, List.reverse_append, List.findSome?_append, descriptionIn, descriptionIn]

/-- A descriptor that is fresh has the description that is given last. -/
theorem getElem?_fresh (held : DescriptorMap) (descriptors : List Descriptor)
    (key : Descriptor.Key) :
    (fresh held descriptors)[key]? =
      if key ∈ held then none else descriptionIn descriptors key := by
  have hfilter (p : Descriptor → Bool) (f : Descriptor → Option String) (ds : List Descriptor) :
      (ds.filter p).findSome? f = ds.findSome? fun d => if p d then f d else none := by
    induction ds with
    | nil => rfl
    | cons d ds ih =>
      rw [List.filter_cons, List.findSome?_cons]
      cases p d <;> simp [List.findSome?_cons, ih]
  rw [fresh, Std.ExtTreeMap.ofList_eq_insertMany_empty, Std.ExtTreeMap.getElem?_insertMany_list,
    List.findSomeRev?_eq_findSome?_reverse, ← List.map_reverse, ← List.filter_reverse,
    List.findSome?_map, hfilter, Std.ExtTreeMap.getElem?_empty, Option.or_none]
  split
  next hmem =>
    -- no descriptor with the key has passed
    rw [List.findSome?_eq_none_iff]
    intro d _
    by_cases hkey : d.key = key
    · simp [hkey, Std.ExtTreeMap.mem_iff_contains.mp hmem]
    · simp [hkey]
  next hmem =>
    rw [descriptionIn]
    congr 1
    funext d
    by_cases hkey : d.key = key
    · simp [hkey, hmem]
    · simp [hkey]

/-- Of two maps, the second one counts that is entered into the first. -/
theorem getElem?_insertMany (held new : DescriptorMap) (key : Descriptor.Key) :
    (held.insertMany new.toList)[key]? = (new[key]?).or held[key]? := by
  cases hnew : new[key]? with
  | none =>
    rw [Std.ExtTreeMap.getElem?_insertMany_list_of_contains_eq_false, Option.none_or]
    rw [Std.ExtTreeMap.map_fst_toList_eq_keys, ← Bool.not_eq_true, List.contains_iff_mem,
      Std.ExtTreeMap.mem_keys, Std.ExtTreeMap.mem_iff_isSome_getElem?, hnew]
    exact Bool.false_ne_true
  | some description =>
    rw [Std.ExtTreeMap.getElem?_insertMany_list_of_mem Std.ReflCmp.compare_self
      Std.ExtTreeMap.distinct_keys_toList (Std.ExtTreeMap.mem_toList_iff_getElem?_eq_some.mpr hnew),
      Option.some_or]

/-! ## One add -/

/-- What a consumer holds after an add: what it has held and the fresh descriptors. -/
theorem held_add (h : index.add consumer scope descriptors = .ok (outcome, after)) (other : Urn)
    (elsewhere : Scope) :
    after.held other elsewhere =
      if consumer = other ∧ scope = elsewhere then
        (index.held consumer scope).insertMany
          (fresh (index.held consumer scope) descriptors).toList
      else index.held other elsewhere := by
  rcases add_cases h with ⟨hnone, -, rfl⟩ | ⟨-, -, -, -, -, rfl⟩
  · split
    next heq =>
      obtain ⟨rfl, rfl⟩ := heq
      have hnil : (∅ : DescriptorMap).toList = [] := by simp
      rw [hnone, hnil, Std.ExtTreeMap.insertMany_nil]
    next => rfl
  · exact held_enter other elsewhere

/-- A descriptor that is held keeps its description, and a fresh one has the description that is
given last. -/
theorem getElem?_held_add (h : index.add consumer scope descriptors = .ok (outcome, after))
    (key : Descriptor.Key) :
    (after.held consumer scope)[key]? =
      ((index.held consumer scope)[key]?).or (descriptionIn descriptors key) := by
  rw [held_add h, if_pos ⟨rfl, rfl⟩, getElem?_insertMany, getElem?_fresh]
  by_cases hkey : key ∈ index.held consumer scope
  · obtain ⟨description, hsome⟩ := Option.isSome_iff_exists.mp
      (Std.ExtTreeMap.mem_iff_isSome_getElem?.mp hkey)
    rw [if_pos hkey, hsome, Option.none_or, Option.some_or]
  · rw [if_neg hkey, Std.ExtTreeMap.getElem?_eq_none hkey, Option.none_or, Option.or_none]

/-- An add tells how much the scope has grown, and to what. -/
theorem outcome_add (h : index.add consumer scope descriptors = .ok (outcome, after)) :
    outcome.total = (after.held consumer scope).size ∧
      (index.held consumer scope).size + outcome.added = outcome.total := by
  have hsize : (after.held consumer scope).size = (index.held consumer scope).size +
      (fresh (index.held consumer scope) descriptors).size := by
    rw [held_add h, if_pos ⟨rfl, rfl⟩, size_insertMany_fresh]
  rcases add_cases h with ⟨hnone, rfl, rfl⟩ | ⟨-, -, -, -, rfl, rfl⟩
  · exact ⟨rfl, rfl⟩
  · exact ⟨hsize.symm, rfl⟩

theorem limit_add (h : index.add consumer scope descriptors = .ok (outcome, after)) :
    after.limit = index.limit := by
  rcases add_cases h with ⟨-, -, rfl⟩ | ⟨-, -, -, -, -, rfl⟩ <;> rfl

theorem WellFormed.add (hwf : index.WellFormed)
    (h : index.add consumer scope descriptors = .ok (outcome, after)) : after.WellFormed := by
  have hperform := (hwf.perform (.add consumer scope descriptors)).1
  rwa [Operation.perform, h] at hperform

/-! ## What is held settles an index -/

/-- A scope is kept if something is held in it. -/
theorem WellFormed.getElem?_scopesOf (hwf : index.WellFormed) (consumer : Urn) (scope : Scope) :
    (index.scopesOf consumer)[scope]? =
      if index.held consumer scope = ∅ then none else some (index.held consumer scope) := by
  rw [held_eq]
  cases hscope : (index.scopesOf consumer)[scope]? with
  | none => simp
  | some held => simp [(hwf.of_scope hscope).1]

/-- A consumer is kept if it holds something, with the right count. -/
theorem WellFormed.getElem?_consumers (hwf : index.WellFormed) (consumer : Urn) :
    index.consumers[consumer]? = if index.scopesOf consumer = ∅ then none
      else some ⟨index.scopesOf consumer, (index.heldTopics consumer).card⟩ := by
  rw [← hwf.total_eq]
  cases hconsumer : index.consumers[consumer]? with
  | none => simp [scopesOf, hconsumer]
  | some holding =>
    have hne := (hwf.holding _ _ hconsumer).scopes_ne
    simp [scopesOf, total, hconsumer, hne]

/-- A well-formed index is settled by its limit and the descriptors that are held. -/
theorem WellFormed.ext_held (hwf : index.WellFormed) (hwf' : index'.WellFormed)
    (hlimit : index'.limit = index.limit)
    (hheld : ∀ consumer scope, index'.held consumer scope = index.held consumer scope) :
    index' = index := by
  refine hwf.ext hwf' fun consumer => ⟨hlimit, ?_⟩
  have hscopes : index'.scopesOf consumer = index.scopesOf consumer := by
    refine Std.ExtTreeMap.ext_getElem? fun scope => ?_
    rw [hwf'.getElem?_scopesOf, hwf.getElem?_scopesOf, hheld]
  rw [hwf'.getElem?_consumers, hwf.getElem?_consumers, heldTopics, heldTopics, hscopes]

/-- A descriptor is held if and only if the read-back has it. -/
theorem getElem?_held_iff (index : SubscriptionIndex) (consumer : Urn) (scope : Scope)
    (key : Descriptor.Key) (description : String) :
    (index.held consumer scope)[key]? = some description ↔
      ∃ s ∈ (index.subscriptions consumer).subscriptions,
        s.scope = scope ∧ .ofKey key description ∈ s.notifications := by
  rw [subscriptions, toList_scopesOf, held_eq]
  simp only [List.mem_map, List.mem_mergeSort]
  constructor
  · intro hheld
    -- nothing is held under a scope that the consumer does not have
    cases hscope : (index.scopesOf consumer)[scope]? with
    | none => simp [hscope] at hheld
    | some held =>
      rw [hscope, Option.getD_some] at hheld
      exact ⟨_, ⟨_, Std.ExtTreeMap.mem_toList_iff_getElem?_eq_some.mpr hscope, rfl⟩, rfl,
        List.mem_map.mpr ⟨_, Std.ExtTreeMap.mem_toList_iff_getElem?_eq_some.mpr hheld, rfl⟩⟩
  · rintro ⟨_, ⟨⟨scope, held⟩, hscope, rfl⟩, rfl, hmem⟩
    obtain ⟨⟨key', description'⟩, hheld, heq⟩ := List.mem_map.mp hmem
    obtain ⟨rfl, rfl⟩ := Descriptor.ofKey_inj.mp heq
    rw [Std.ExtTreeMap.mem_toList_iff_getElem?_eq_some] at hscope hheld
    rw [hscope, Option.getD_some, hheld]

/-- What a consumer holds is settled by its read-back. -/
theorem held_eq_of_subscriptions
    (h : index'.subscriptions consumer = index.subscriptions consumer) (scope : Scope) :
    index'.held consumer scope = index.held consumer scope := by
  refine Std.ExtTreeMap.ext_getElem? fun key => Option.ext fun description => ?_
  rw [getElem?_held_iff, h, ← getElem?_held_iff]

/-! ## Indexes that differ in descriptions only -/

/-- Two indexes hold the same keys for everybody. -/
def SameKeys (index index' : SubscriptionIndex) : Prop :=
  ∀ (consumer : Urn) (scope : Scope) (key : Descriptor.Key),
    key ∈ index'.held consumer scope ↔ key ∈ index.held consumer scope

/-- Indexes that hold the same keys have the same topics and the same consumers. -/
private theorem WellFormed.sameKeys (hwf : index.WellFormed) (hwf' : index'.WellFormed)
    (h : SameKeys index index') :
    index'.topics = index.topics ∧ index'.consumerCount = index.consumerCount := by
  refine ⟨hwf.topics_ext hwf' fun consumer topic => h consumer topic.scope topic.key, ?_⟩
  rw [consumerCount, ← card_keySet, consumerCount, ← card_keySet]
  congr 1
  ext consumer
  -- a consumer is kept if it holds some key
  have hkept {i : SubscriptionIndex} (hi : i.WellFormed) : consumer ∈ keySet i.consumers ↔
      ∃ topic : Topic, topic.key ∈ i.held consumer topic.scope := by
    rw [mem_keySet, Std.ExtTreeMap.mem_iff_isSome_getElem?, Option.isSome_iff_exists]
    constructor
    · rintro ⟨holding, hholding⟩
      obtain ⟨topic, htopic⟩ := exists_mem_topicSet (hi.holding _ _ hholding)
      exact ⟨topic, mem_held_iff.mpr ⟨holding, hholding, htopic⟩⟩
    · rintro ⟨topic, htopic⟩
      obtain ⟨holding, hholding, -⟩ := mem_held_iff.mp htopic
      exact ⟨holding, hholding⟩
  rw [hkept hwf', hkept hwf]
  exact exists_congr fun topic => h consumer topic.scope topic.key

/-! ## Batches -/

/-- No key that is new has different descriptions in two lists. -/
def Tally (held : DescriptorMap) (xs ys : List Descriptor) : Prop :=
  ∀ key ∉ held, ∀ x ∈ descriptionIn xs key, ∀ y ∈ descriptionIn ys key, x = y

section Batches

variable {once between twice : SubscriptionIndex} {first second : SubscribeOutcome}

/-- What a consumer holds after two adds to one scope: where both lists give a description, the
first one counts. -/
theorem getElem?_held_add_add (hfirst : index.add consumer scope xs = .ok (first, between))
    (hsecond : between.add consumer scope ys = .ok (second, twice)) (key : Descriptor.Key) :
    (twice.held consumer scope)[key]? = ((index.held consumer scope)[key]?).or
      ((descriptionIn xs key).or (descriptionIn ys key)) := by
  rw [getElem?_held_add hsecond, getElem?_held_add hfirst, Option.or_assoc]

/-- What a consumer holds after one add of two lists: where both give a description, the second one
counts. -/
theorem getElem?_held_add_append
    (honce : index.add consumer scope (xs ++ ys) = .ok (outcome, once)) (key : Descriptor.Key) :
    (once.held consumer scope)[key]? = ((index.held consumer scope)[key]?).or
      ((descriptionIn ys key).or (descriptionIn xs key)) := by
  rw [getElem?_held_add honce, descriptionIn_append]

/-- Elsewhere both ways leave what has been held. -/
theorem held_add_elsewhere (honce : index.add consumer scope (xs ++ ys) = .ok (outcome, once))
    (hfirst : index.add consumer scope xs = .ok (first, between))
    (hsecond : between.add consumer scope ys = .ok (second, twice))
    (h : ¬(consumer = other ∧ scope = elsewhere)) :
    once.held other elsewhere = twice.held other elsewhere := by
  rw [held_add honce, if_neg h, held_add hsecond, if_neg h, held_add hfirst, if_neg h]

private theorem sameKeys_add_append
    (honce : index.add consumer scope (xs ++ ys) = .ok (outcome, once))
    (hfirst : index.add consumer scope xs = .ok (first, between))
    (hsecond : between.add consumer scope ys = .ok (second, twice)) : SameKeys twice once := by
  intro other elsewhere key
  by_cases h : consumer = other ∧ scope = elsewhere
  · obtain ⟨rfl, rfl⟩ := h
    -- whether there is a description does not depend on the order
    rw [Std.ExtTreeMap.mem_iff_isSome_getElem?, Std.ExtTreeMap.mem_iff_isSome_getElem?,
      getElem?_held_add_append honce, getElem?_held_add_add hfirst hsecond]
    simp only [Option.isSome_or, Bool.or_comm]
  · rw [held_add_elsewhere honce hfirst hsecond h]

theorem held_eq_iff_tally (honce : index.add consumer scope (xs ++ ys) = .ok (outcome, once))
    (hfirst : index.add consumer scope xs = .ok (first, between))
    (hsecond : between.add consumer scope ys = .ok (second, twice)) :
    (∀ other elsewhere, once.held other elsewhere = twice.held other elsewhere) ↔
      Tally (index.held consumer scope) xs ys := by
  -- the two ways differ at a key only if it is new and the batches describe it differently
  have hkey (key : Descriptor.Key) :
      (once.held consumer scope)[key]? = (twice.held consumer scope)[key]? ↔
        (key ∉ index.held consumer scope → ∀ x ∈ descriptionIn xs key,
          ∀ y ∈ descriptionIn ys key, x = y) := by
    rw [getElem?_held_add_append honce, getElem?_held_add_add hfirst hsecond,
      Std.ExtTreeMap.mem_iff_isSome_getElem?]
    cases (index.held consumer scope)[key]? with
    | some description => simp
    | none => cases descriptionIn xs key <;> cases descriptionIn ys key <;> simp [eq_comm]
  constructor
  · intro hheld key
    exact (hkey key).mp (by rw [hheld])
  · intro htally other elsewhere
    by_cases h : consumer = other ∧ scope = elsewhere
    · obtain ⟨rfl, rfl⟩ := h
      exact Std.ExtTreeMap.ext_getElem? fun key => (hkey key).mpr (htally key)
    · exact held_add_elsewhere honce hfirst hsecond h

/-- Two lists of descriptors can be added in one call or in two. If neither way fails, both have
the same outcome, and lead to the same subscribers and the same counts. They lead to the same
read-backs, and then to the same index, if and only if no key that is new has different descriptions
in the two lists. -/
theorem add_append_iff (limit : Nat) (operations : List Operation)
    (honce : (run limit operations).2.add consumer scope (xs ++ ys) = .ok (outcome, once))
    (hfirst : (run limit operations).2.add consumer scope xs = .ok (first, between))
    (hsecond : between.add consumer scope ys = .ok (second, twice)) :
    (outcome = ⟨first.added + second.added, second.total⟩ ∧
      (∀ producer key, once.subscribers producer key = twice.subscribers producer key) ∧
      once.consumerCount = twice.consumerCount ∧ once.topicCount = twice.topicCount) ∧
    ((∀ other, once.subscriptions other = twice.subscriptions other) ↔
      Tally ((run limit operations).2.held consumer scope) xs ys) ∧
    (once = twice ↔ Tally ((run limit operations).2.held consumer scope) xs ys) := by
  have hwf : (run limit operations).2.WellFormed := ((wellFormed_empty limit).runAll operations).1
  have hwfOnce : once.WellFormed := hwf.add honce
  have hwfTwice : twice.WellFormed := (hwf.add hfirst).add hsecond
  -- the keys agree either way, so the indexes can only differ in descriptions
  have hkeys : SameKeys twice once := sameKeys_add_append honce hfirst hsecond
  obtain ⟨htopics, hconsumers⟩ := hwfTwice.sameKeys hwfOnce hkeys
  have hlimit : once.limit = twice.limit := by
    rw [limit_add honce, limit_add hsecond, limit_add hfirst]
  rw [← held_eq_iff_tally honce hfirst hsecond]
  refine ⟨⟨?_, fun producer key => ?_, hconsumers, ?_⟩, ?_, ?_⟩
  · -- the outcomes are told by the sizes of the scope
    have hsize : (once.held consumer scope).size = (twice.held consumer scope).size := by
      rw [← card_keySet, ← card_keySet]
      congr 1
      ext key
      rw [mem_keySet, mem_keySet, hkeys]
    obtain ⟨htotal, hadded⟩ := outcome_add honce
    obtain ⟨htotal₁, hadded₁⟩ := outcome_add hfirst
    obtain ⟨htotal₂, hadded₂⟩ := outcome_add hsecond
    obtain ⟨added, total⟩ := outcome
    rw [SubscribeOutcome.mk.injEq]
    dsimp only at htotal hadded
    omega
  · rw [subscribers, holders, htopics, subscribers, holders]
  · rw [topicCount, htopics, topicCount]
  · constructor
    · exact fun hsubscriptions other _ => held_eq_of_subscriptions (hsubscriptions other) _
    · intro hheld other
      rw [hwfTwice.ext_held hwfOnce hlimit hheld]
  · exact ⟨fun heq _ _ => heq ▸ rfl, hwfTwice.ext_held hwfOnce hlimit⟩

end Batches

/-- A second list repeats a descriptor of the first one with its description: adding both at once
makes no difference. -/
theorem add_append_iff_repeated :
    let consumer : Urn := ⟨"a", "b"⟩
    let scope : Scope := .namespaceWide "n"
    let xs : List Descriptor := [⟨"price", "1", "x"⟩]
    let ys : List Descriptor := [⟨"stock", "1", "z"⟩, ⟨"price", "1", "x"⟩]
    ∃ outcome once first between second twice,
      (run 2 []).2.add consumer scope (xs ++ ys) = .ok (outcome, once) ∧
      (run 2 []).2.add consumer scope xs = .ok (first, between) ∧
      between.add consumer scope ys = .ok (second, twice) ∧ once = twice := by
  intro consumer scope xs ys
  have hok {ε α : Type} (result : Except ε α) (h : result.isOk) : ∃ a, result = .ok a := by
    cases result with
    | error e => cases h
    | ok a => exact ⟨a, rfl⟩
  obtain ⟨⟨outcome, once⟩, honce⟩ :=
    hok ((run 2 []).2.add consumer scope (xs ++ ys)) (by decide +kernel)
  obtain ⟨⟨second, twice⟩, hboth⟩ :=
    hok ((run 2 []).2.add consumer scope xs >>= fun p => p.2.add consumer scope ys)
      (by decide +kernel)
  cases hfirst : (run 2 []).2.add consumer scope xs with
  | error e =>
    rw [hfirst] at hboth
    cases hboth
  | ok result =>
    obtain ⟨first, between⟩ := result
    rw [hfirst] at hboth
    have htally : Tally ((run 2 []).2.held consumer scope) xs ys := by
      intro key _ x hx y hy
      -- the first list has one key, with one description
      obtain ⟨d, hd, hx⟩ := List.exists_of_findSome?_eq_some hx
      obtain rfl : d = ⟨"price", "1", "x"⟩ := by simpa [xs] using hd
      split at hx
      next hkey =>
        cases hx
        subst hkey
        cases hy
        rfl
      next => cases hx
    exact ⟨outcome, once, first, between, second, twice, honce, rfl, hboth,
      (add_append_iff 2 [] honce hfirst hboth).2.2.mpr htally⟩

/-- In one call the later of two descriptions counts, in two calls the earlier one, although both
ways are answered and the descriptors are the same. -/
theorem descriptions_depend_on_batches :
    let add (descriptors : List Descriptor) : Operation :=
      .add ⟨"a", "b"⟩ (.namespaceWide "n") descriptors
    let x : Descriptor := ⟨"price", "1", "x"⟩
    let y : Descriptor := ⟨"price", "1", "y"⟩
    (run 1024 [add ([x] ++ [y])]).1 = [.subscribed ⟨1, 1⟩] ∧
      (run 1024 [add [x], add [y]]).1 = [.subscribed ⟨1, 1⟩, .subscribed ⟨0, 1⟩] ∧
      (run 1024 [add ([x] ++ [y])]).2.subscriptions ⟨"a", "b"⟩ ≠
        (run 1024 [add [x], add [y]]).2.subscriptions ⟨"a", "b"⟩ := by
  decide +kernel

end ServiceBroker.SubscriptionIndex
