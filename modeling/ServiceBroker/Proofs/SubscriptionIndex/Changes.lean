import ServiceBroker.Proofs.SubscriptionIndex.Invariant

/-!
# Changes of a subscription index

What adding descriptors, removing them and dropping a consumer do to both maps, and that the
invariant is kept.

- `SubscriptionIndex.enter`, `SubscriptionIndex.withdraw`: the index after the last step of adding
  and of removing, with `add_eq` and `remove_eq` for what comes before it;
- `WellFormed.enter`, `WellFormed.withdraw`, `WellFormed.removeAll`: these keep the invariant.
-/

namespace ServiceBroker

namespace SubscriptionIndex

/-! ## Adding -/

/-- The index after a consumer has been given new descriptors in a scope. -/
def enter (index : SubscriptionIndex) (consumer : Urn) (scope : Scope) (new : DescriptorMap) :
    SubscriptionIndex :=
  { index with
    consumers := index.consumers.insert consumer
      ⟨(index.scopesOf consumer).insert scope
        ((index.held consumer scope).insertMany new.toList), index.total consumer + new.size⟩
    topics := attachAll index.topics consumer (new.keys.map (Topic.mk scope)) }

/-- Adding is to check what is asked for, and then to enter what is new if it is within the
limit. -/
theorem add_eq (index : SubscriptionIndex) (consumer : Urn) (scope : Scope)
    (descriptors : List Descriptor) :
    index.add consumer scope descriptors = (do
      checkScope scope
      checkDescriptors descriptors
      let held := index.held consumer scope
      let new := fresh held descriptors
      let requested := index.total consumer + new.size
      if new.isEmpty then return (⟨0, held.size⟩, index)
      else if index.limit < requested then throw (.limitExceeded consumer requested index.limit)
      else return (⟨new.size, held.size + new.size⟩, index.enter consumer scope new)) := by
  unfold add enter attachAll
  cases checkScope scope with
  | error e => rfl
  | ok =>
    cases checkDescriptors descriptors with
    | error e => rfl
    | ok =>
      simp only [size_insertMany_fresh, List.foldl_map, bind, Except.bind]
      split
      · rfl
      · split <;> rfl

/-- A scope that passes the check has names in it. -/
theorem isNamed_of_checkScope {scope : Scope} (h : checkScope scope = .ok ()) : scope.IsNamed := by
  cases scope <;> simp only [checkScope] at h <;> split at h <;>
    simp_all [Scope.IsNamed, Scope.ns, Scope.id?]

/-- So do descriptors that pass theirs. -/
theorem named_of_checkDescriptors {descriptors : List Descriptor}
    (h : checkDescriptors descriptors = .ok ()) {key : Descriptor.Key}
    (hkey : key ∈ descriptors.map (·.key)) : key.name ≠ "" := by
  obtain ⟨d, hd, rfl⟩ := List.mem_map.mp hkey
  unfold checkDescriptors at h
  split at h
  next => cases h
  next hnone =>
    rw [List.findIdx?_eq_none_iff] at hnone
    simpa [Descriptor.key] using hnone d hd

section Enter

variable {index : SubscriptionIndex} {consumer : Urn} {scope : Scope} {new : DescriptorMap}

/-- What is entered for one consumer leaves the holdings of the others alone. -/
theorem consumers_enter (other : Urn) :
    (index.enter consumer scope new).consumers[other]? =
      if consumer = other then
        some ⟨(index.scopesOf consumer).insert scope
          ((index.held consumer scope).insertMany new.toList), index.total consumer + new.size⟩
      else index.consumers[other]? := by
  simp [enter, Std.ExtTreeMap.getElem?_insert]

theorem scopesOf_enter :
    (index.enter consumer scope new).scopesOf consumer =
      (index.scopesOf consumer).insert scope
        ((index.held consumer scope).insertMany new.toList) := by
  rw [scopesOf, consumers_enter, if_pos rfl]
  rfl

/-- A consumer holds what is entered, and what it held before. -/
theorem held_enter (other : Urn) (elsewhere : Scope) :
    (index.enter consumer scope new).held other elsewhere =
      if consumer = other ∧ scope = elsewhere then
        (index.held consumer scope).insertMany new.toList
      else index.held other elsewhere := by
  by_cases hother : consumer = other
  · subst hother
    rw [held_eq, scopesOf_enter, Std.ExtTreeMap.getElem?_insert]
    by_cases hscope : scope = elsewhere
    · simp [hscope]
    · simp [hscope, held_eq]
  · rw [if_neg fun h => hother h.1, held, consumers_enter, if_neg hother, held]

/-- A consumer that is given new descriptors holds as many more. -/
theorem card_heldTopics_enter (hnew : ∀ key ∈ new, key ∉ index.held consumer scope) :
    ((index.enter consumer scope new).heldTopics consumer).card =
      (index.heldTopics consumer).card + new.size := by
  have hinj : Function.Injective (Topic.mk scope) := fun a b hab => (Topic.mk.inj hab).2
  rw [← new.length_keys, ← List.length_map (f := Topic.mk scope)]
  refine card_heldTopics_add ?_ ?_ (new.nodup_keys.map hinj)
  · rintro ⟨elsewhere, key⟩
    rw [held_enter]
    by_cases hscope : scope = elsewhere
    · subst hscope
      simp
    · simp [hscope]
  · intro topic hmem
    obtain ⟨key, hkey, rfl⟩ := List.mem_map.mp hmem
    exact hnew key (Std.ExtTreeMap.mem_keys.mp hkey)

/-- Giving a consumer new descriptors keeps the invariant. -/
theorem WellFormed.enter (hwf : index.WellFormed) (hscope : scope.IsNamed) (hne : new ≠ ∅)
    (hnamed : ∀ key ∈ new, key.name ≠ "")
    (hnew : ∀ key ∈ new, key ∉ index.held consumer scope)
    (hlimit : index.total consumer + new.size ≤ index.limit) :
    (index.enter consumer scope new).WellFormed where
  entered_iff other topic := by
    have hstep : Entered (index.enter consumer scope new).topics other topic ↔
        Entered index.topics other topic ∨
          other = consumer ∧ topic ∈ new.keys.map (Topic.mk scope) := entered_attachAll
    rw [hstep, hwf.entered_iff, held_enter]
    obtain ⟨elsewhere, key⟩ := topic
    by_cases hboth : consumer = other ∧ scope = elsewhere
    · obtain ⟨rfl, rfl⟩ := hboth
      simp
    · rw [if_neg hboth]
      -- another consumer or another scope: nothing is entered there
      refine ⟨?_, .inl⟩
      rintro (hheld | ⟨hother, hmem⟩)
      · exact hheld
      · obtain ⟨_, _, heq⟩ := List.mem_map.mp hmem
        exact absurd ⟨hother.symm, (Topic.mk.inj heq).1⟩ hboth
  noneEmpty := hwf.noneEmpty.attachAll _ _
  holding other holding hsome := by
    rw [consumers_enter] at hsome
    split at hsome
    next heq =>
      subst heq
      obtain rfl := Option.some.inj hsome
      -- what the consumer holds in each scope now
      have hinsert : ∀ (elsewhere : Scope) (held : DescriptorMap),
          ((index.scopesOf consumer).insert scope
            ((index.held consumer scope).insertMany new.toList))[elsewhere]? = some held →
          held ≠ ∅ ∧ elsewhere.IsNamed ∧ ∀ key ∈ held, key.name ≠ "" := by
        intro elsewhere held hheld
        rw [Std.ExtTreeMap.getElem?_insert] at hheld
        split at hheld
        next heq =>
          obtain rfl := Std.LawfulEqCmp.compare_eq_iff_eq.mp heq
          obtain rfl := Option.some.inj hheld
          refine ⟨?_, hscope, fun key hkey => ?_⟩
          · rw [Ne, Std.ExtTreeMap.insertMany_list_eq_empty_iff]
            simp [hne]
          · rcases mem_insertMany_fresh.mp hkey with hold | hkey
            · exact hwf.key_named hold
            · exact hnamed key hkey
        next => exact hwf.of_scope hheld
      refine ⟨Std.ExtTreeMap.insert_ne_empty, fun s m h => (hinsert s m h).1,
        fun s m h => (hinsert s m h).2.1, fun s m h => (hinsert s m h).2.2, ?_, hlimit⟩
      have hcard := card_heldTopics_enter hnew
      -- the count and the number of descriptors grow alike
      rw [← size_scopesOf _ _ (index.total consumer + new.size), scopesOf_enter] at hcard
      rw [hcard, hwf.total_eq]
    next => exact hwf.holding _ _ hsome

end Enter

/-! ## Removing -/

/-- The scopes of a consumer after descriptors have been taken out of one; a scope without
descriptors is dropped. -/
def scopesWithout (index : SubscriptionIndex) (consumer : Urn) (scope : Scope)
    (left : DescriptorMap) : Std.ExtTreeMap Scope DescriptorMap :=
  if left.isEmpty then (index.scopesOf consumer).erase scope
  else (index.scopesOf consumer).insert scope left

/-- The index after the keys `gone` of a consumer have been taken out of a scope. -/
def withdraw (index : SubscriptionIndex) (consumer : Urn) (scope : Scope)
    (gone : List Descriptor.Key) (left : DescriptorMap) : SubscriptionIndex :=
  let scopes := index.scopesWithout consumer scope left
  { index with
    consumers :=
      if scopes.isEmpty then index.consumers.erase consumer
      else index.consumers.insert consumer ⟨scopes, index.total consumer - gone.length⟩
    topics := detachAll index.topics consumer (gone.map (Topic.mk scope)) }

/-- Removing is to check what is asked for, and then to withdraw what there is of it. -/
theorem remove_eq (index : SubscriptionIndex) (consumer : Urn) (scope : Scope)
    (descriptors : List Descriptor) :
    index.remove consumer scope descriptors = (do
      checkScope scope
      checkDescriptors descriptors
      match (index.scopesOf consumer)[scope]? with
      | none => return (⟨0, 0⟩, index)
      | some held =>
        let (gone, left) := takeKeys held descriptors
        return (⟨gone.length, left.size⟩, index.withdraw consumer scope gone left)) := by
  unfold remove withdraw scopesWithout scopesOf total detachAll
  cases checkScope scope with
  | error e => rfl
  | ok =>
    cases checkDescriptors descriptors with
    | error e => rfl
    | ok =>
      simp only [List.foldl_map, bind, Except.bind]
      cases index.consumers[consumer]? with
      | none => simp
      | some holding => rfl

section Withdraw

variable {index : SubscriptionIndex} {consumer : Urn} {scope : Scope}
  {gone : List Descriptor.Key} {held left : DescriptorMap}

theorem getElem?_scopesWithout (elsewhere : Scope) :
    (index.scopesWithout consumer scope left)[elsewhere]? =
      if scope = elsewhere then (if left.isEmpty then none else some left)
      else (index.scopesOf consumer)[elsewhere]? := by
  unfold scopesWithout
  split <;> simp [Std.ExtTreeMap.getElem?_erase, Std.ExtTreeMap.getElem?_insert]

/-- A consumer is forgotten when nothing is left of its holding. -/
theorem consumers_withdraw (other : Urn) :
    (index.withdraw consumer scope gone left).consumers[other]? =
      if consumer = other then
        if (index.scopesWithout consumer scope left).isEmpty then none
        else some ⟨index.scopesWithout consumer scope left, index.total consumer - gone.length⟩
      else index.consumers[other]? := by
  unfold withdraw
  dsimp only
  split <;> simp [Std.ExtTreeMap.getElem?_erase, Std.ExtTreeMap.getElem?_insert]

theorem scopesOf_withdraw :
    (index.withdraw consumer scope gone left).scopesOf consumer =
      index.scopesWithout consumer scope left := by
  rw [scopesOf, consumers_withdraw, if_pos rfl]
  split
  next hempty => simpa using (Std.ExtTreeMap.isEmpty_iff.mp hempty).symm
  next => rfl

/-- What is withdrawn from one scope is not missed in the others. -/
theorem held_withdraw (other : Urn) (elsewhere : Scope) :
    (index.withdraw consumer scope gone left).held other elsewhere =
      if consumer = other ∧ scope = elsewhere then left else index.held other elsewhere := by
  by_cases hother : consumer = other
  · subst hother
    rw [held_eq, scopesOf_withdraw, getElem?_scopesWithout]
    by_cases hscope : scope = elsewhere
    · simp only [hscope, and_self, ↓reduceIte]
      split
      next hempty => simpa using (Std.ExtTreeMap.isEmpty_iff.mp hempty).symm
      next => rfl
    · simp [hscope, held_eq]
  · rw [if_neg fun h => hother h.1, held, consumers_withdraw, if_neg hother, held]

theorem held_of_scopesOf (hsome : (index.scopesOf consumer)[scope]? = some held) :
    index.held consumer scope = held := by
  rw [held_eq, hsome, Option.getD_some]

/-- What is taken counts no more. -/
theorem card_heldTopics_withdraw (hsome : (index.scopesOf consumer)[scope]? = some held)
    (hsplit : Splits held gone left) :
    (index.heldTopics consumer).card =
      ((index.withdraw consumer scope gone left).heldTopics consumer).card + gone.length := by
  have hinj : Function.Injective (Topic.mk scope) := fun a b hab => (Topic.mk.inj hab).2
  rw [← List.length_map (f := Topic.mk scope)]
  refine card_heldTopics_add ?_ ?_ (hsplit.nodup.map hinj)
  · rintro ⟨elsewhere, key⟩
    rw [held_withdraw]
    by_cases hscope : scope = elsewhere
    · subst hscope
      simp [held_of_scopesOf hsome, hsplit.mem_held, or_comm]
    · simp [hscope]
  · intro topic hmem
    obtain ⟨key, hkey, rfl⟩ := List.mem_map.mp hmem
    rw [held_withdraw, if_pos ⟨rfl, rfl⟩]
    exact hsplit.not_mem_left key hkey

/-- A remove never takes more than what is counted. -/
theorem WellFormed.length_le_total (hwf : index.WellFormed)
    (hsome : (index.scopesOf consumer)[scope]? = some held) (hsplit : Splits held gone left) :
    gone.length ≤ index.total consumer := by
  rw [hwf.total_eq, card_heldTopics_withdraw hsome hsplit]
  exact Nat.le_add_left _ _

/-- Taking descriptors from a consumer keeps the invariant. -/
theorem WellFormed.withdraw (hwf : index.WellFormed)
    (hsome : (index.scopesOf consumer)[scope]? = some held) (hsplit : Splits held gone left) :
    (index.withdraw consumer scope gone left).WellFormed where
  entered_iff other topic := by
    have hstep : Entered (index.withdraw consumer scope gone left).topics other topic ↔
        Entered index.topics other topic ∧
          ¬(other = consumer ∧ topic ∈ gone.map (Topic.mk scope)) := entered_detachAll
    rw [hstep, hwf.entered_iff, held_withdraw]
    obtain ⟨elsewhere, key⟩ := topic
    by_cases hboth : consumer = other ∧ scope = elsewhere
    · obtain ⟨rfl, rfl⟩ := hboth
      -- what is left was not taken
      have hsep : key ∈ left → key ∉ gone := fun hleft hgone => hsplit.not_mem_left key hgone hleft
      rw [held_of_scopesOf hsome, hsplit.mem_held]
      simp only [List.mem_map, Topic.mk.injEq, true_and, exists_eq_right, and_self, ↓reduceIte]
      tauto
    · rw [if_neg hboth, and_iff_left]
      rintro ⟨hother, hmem⟩
      obtain ⟨_, _, heq⟩ := List.mem_map.mp hmem
      exact hboth ⟨hother.symm, (Topic.mk.inj heq).1⟩
  noneEmpty := hwf.noneEmpty.detachAll _ _
  holding other holding hholding := by
    rw [consumers_withdraw] at hholding
    split at hholding
    next heq =>
      subst heq
      split at hholding
      next => cases hholding
      next hne =>
        obtain rfl := Option.some.inj hholding
        -- what the consumer still holds in each scope
        have hkept : ∀ (elsewhere : Scope) (held : DescriptorMap),
            (index.scopesWithout consumer scope left)[elsewhere]? = some held →
            held ≠ ∅ ∧ elsewhere.IsNamed ∧ ∀ key ∈ held, key.name ≠ "" := by
          intro elsewhere held' hheld
          rw [getElem?_scopesWithout] at hheld
          split at hheld
          next heq =>
            subst heq
            split at hheld
            next => cases hheld
            next hleft =>
              obtain rfl := Option.some.inj hheld
              obtain ⟨-, hnamed, hkeys⟩ := hwf.of_scope hsome
              exact ⟨fun h => hleft (Std.ExtTreeMap.isEmpty_iff.mpr h), hnamed,
                fun key hkey => hkeys key ((hsplit.mem_held key).mpr (.inr hkey))⟩
          next => exact hwf.of_scope hheld
        have hcard := card_heldTopics_withdraw hsome hsplit
        refine ⟨fun h => hne (Std.ExtTreeMap.isEmpty_iff.mpr h), fun s m h => (hkept s m h).1,
          fun s m h => (hkept s m h).2.1, fun s m h => (hkept s m h).2.2, ?_, ?_⟩
        · dsimp only
          -- the count and the number of descriptors shrink alike
          have hsize := size_scopesOf (index.withdraw consumer scope gone left) consumer
            (index.total consumer - gone.length)
          rw [scopesOf_withdraw] at hsize
          rw [hsize, hwf.total_eq, hcard, Nat.add_sub_cancel]
        · exact (Nat.sub_le _ _).trans (hwf.total_le consumer)
    next => exact hwf.holding _ _ hholding

end Withdraw

/-! ## Dropping a consumer -/

section RemoveAll

variable {index : SubscriptionIndex} {consumer : Urn}

/-- A consumer that is dropped holds nothing any more, and the others hold what they held. -/
theorem held_removeAll (index : SubscriptionIndex) (consumer other : Urn) (scope : Scope) :
    (index.removeAll consumer).2.held other scope =
      if consumer = other then ∅ else index.held other scope := by
  unfold removeAll
  split
  next hnone =>
    split
    next heq =>
      subst heq
      simp [held, hnone]
    next => rfl
  next =>
    by_cases heq : consumer = other <;> simp [held, Std.ExtTreeMap.getElem?_erase, heq]

/-- Dropping a consumer keeps the invariant. -/
theorem WellFormed.removeAll (hwf : index.WellFormed) (consumer : Urn) :
    (index.removeAll consumer).2.WellFormed := by
  have hheld := index.held_removeAll consumer
  unfold SubscriptionIndex.removeAll at hheld ⊢
  split at hheld
  next => exact hwf
  next holding hsome =>
    refine ⟨fun other topic => ?_, hwf.noneEmpty.detachAll _ _, fun other holding hholding => ?_⟩
    · refine entered_detachAll.trans ?_
      rw [hwf.entered_iff, hheld]
      by_cases heq : consumer = other
      · subst heq
        -- a consumer is taken out from under exactly the topics that it holds
        have hmem : topic.key ∈ index.held consumer topic.scope ↔
            topic ∈ Holding.topics holding := by
          simp [mem_held_iff, hsome, topicSet]
        simp [hmem]
      · simp [heq, Ne.symm heq]
    · dsimp only at hholding
      rw [Std.ExtTreeMap.getElem?_erase] at hholding
      split at hholding
      · cases hholding
      · exact hwf.holding _ _ hholding

end RemoveAll

end SubscriptionIndex

end ServiceBroker
