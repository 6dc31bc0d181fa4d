import ServiceBroker.Proofs.SubscriptionIndex.Writes

/-!
# Which adds and removes are refused

The scope is looked at first, then the names of the descriptors, and at last, for an add, how many
descriptors the consumer would hold over all scopes. Only descriptors that the scope does not hold
yet count, and each of them once. A call that is refused has written nothing.

## Main definitions

* `FirstUnnamed`: the first position without a name;
* `Malformed`: why an add or a remove is refused whoever asks;
* `freshCount`: how many descriptors of a list are new in a scope;
* `AddRefused`: why an add is refused.

## Main results

* `add_eq_error_iff`, `remove_eq_error_iff`: there are no other reasons, and each is found;
* `added_of_add`: what is not refused adds all that is new;
* `on_addInPlace_of_refused`, `on_removeInPlace_of_refused`: what is refused leaves the index alone.
-/

namespace ServiceBroker.SubscriptionIndex

variable {index after : SubscriptionIndex} {consumer : Urn} {scope : Scope}
  {descriptors : List Descriptor} {e : SubscriptionError}

/-! ## What is malformed -/

/-- The first position of a descriptor without a name. -/
def FirstUnnamed (descriptors : List Descriptor) (position : Nat) : Prop :=
  (∃ d, descriptors[position]? = some d ∧ d.name = "") ∧
    ∀ earlier < position, ∀ d, descriptors[earlier]? = some d → d.name ≠ ""

/-- Why an add or a remove is refused whoever asks for it: the first reason of those that apply. -/
inductive Malformed (scope : Scope) (descriptors : List Descriptor) : SubscriptionError → Prop
  | emptyNamespace : scope.ns = "" → Malformed scope descriptors (.invalidScope .emptyNamespace)
  | emptyId : scope.ns ≠ "" → scope.id? = some "" →
      Malformed scope descriptors (.invalidScope .emptyId)
  | unnamed {position : Nat} : scope.IsNamed → FirstUnnamed descriptors position →
      Malformed scope descriptors (.invalidDescriptor position)

private theorem malformed_of_checkScope (h : checkScope scope = .error e) :
    Malformed scope descriptors e := by
  cases scope with
  | namespaceWide ns =>
    rw [checkScope] at h
    split at h <;> cases h
    exact .emptyNamespace ‹_›
  | service ns id =>
    rw [checkScope] at h
    split at h
    next hns =>
      cases h
      exact .emptyNamespace hns
    next hns =>
      split at h <;> cases h
      exact .emptyId hns (congrArg some ‹_›)

theorem checkScope_of_isNamed (h : scope.IsNamed) : checkScope scope = .ok () := by
  obtain ⟨hns, hid⟩ := h
  cases scope with
  | namespaceWide ns => exact if_neg hns
  | service ns id =>
    have hid : id ≠ "" := fun heq => hid (congrArg some heq)
    exact (if_neg hns).trans (if_neg hid)

/-- The check of the descriptors finds the first position without a name. -/
theorem firstUnnamed_iff {position : Nat} :
    FirstUnnamed descriptors position ↔
      descriptors.findIdx? (·.name == "") = some position := by
  rw [List.findIdx?_eq_some_iff_getElem]
  simp only [FirstUnnamed, List.getElem?_eq_some_iff, beq_iff_eq]
  constructor
  · rintro ⟨⟨d, ⟨hposition, rfl⟩, hname⟩, hearlier⟩
    exact ⟨hposition, hname, fun earlier hlt => hearlier earlier hlt _ ⟨by omega, rfl⟩⟩
  · rintro ⟨hposition, hname, hearlier⟩
    refine ⟨⟨_, ⟨hposition, rfl⟩, hname⟩, ?_⟩
    rintro earlier hlt d ⟨_, rfl⟩
    exact hearlier earlier hlt

private theorem checkDescriptors_of_named (h : ∀ d ∈ descriptors, d.name ≠ "") :
    checkDescriptors descriptors = .ok () := by
  have hnone : descriptors.findIdx? (·.name == "") = none := by
    simpa [List.findIdx?_eq_none_iff] using h
  rw [checkDescriptors, hnone]

/-- The checks fail for the reasons above and no others. -/
theorem checkAll_eq_error_iff :
    checkAll scope descriptors = .error e ↔ Malformed scope descriptors e := by
  have hnamed (h : scope.IsNamed) : checkAll scope descriptors = checkDescriptors descriptors := by
    rw [checkAll, checkScope_of_isNamed h]
    rfl
  constructor
  · intro h
    -- the descriptors are looked at only if the scope is named
    cases hscope : checkScope scope with
    | error e' =>
      rw [checkAll, hscope] at h
      cases h
      exact malformed_of_checkScope hscope
    | ok =>
      have hscope := isNamed_of_checkScope hscope
      rw [hnamed hscope, checkDescriptors] at h
      split at h <;> cases h
      exact .unnamed hscope (firstUnnamed_iff.mpr ‹_›)
  · intro h
    cases h with
    | emptyNamespace hns =>
      cases scope <;> simp_all [checkAll, checkScope, Scope.ns, bind, Except.bind]
    | emptyId hns hid =>
      cases scope <;> simp_all [checkAll, checkScope, Scope.ns, Scope.id?, bind, Except.bind]
    | unnamed hscope hposition =>
      rw [hnamed hscope, checkDescriptors, firstUnnamed_iff.mp hposition]

theorem checkAll_of_named (hscope : scope.IsNamed) (hnamed : ∀ d ∈ descriptors, d.name ≠ "") :
    checkAll scope descriptors = .ok () := by
  rw [checkAll, checkScope_of_isNamed hscope]
  exact checkDescriptors_of_named hnamed

/-! ## What is new -/

/-- The number of descriptors in a list that a consumer does not hold in a scope yet, each counted
once. -/
def freshCount (index : SubscriptionIndex) (consumer : Urn) (scope : Scope)
    (descriptors : List Descriptor) : Nat :=
  ((descriptors.map (·.key)).toFinset \ keySet (index.held consumer scope)).card

theorem size_fresh (index : SubscriptionIndex) (consumer : Urn) (scope : Scope)
    (descriptors : List Descriptor) :
    (fresh (index.held consumer scope) descriptors).size =
      index.freshCount consumer scope descriptors := by
  -- both are the keys that are named and not held
  rw [← card_keySet, freshCount]
  congr 1
  ext key
  rw [mem_keySet, mem_fresh, Finset.mem_sdiff, List.mem_toFinset, mem_keySet, and_comm]

/-- The read-back of a consumer lists as many descriptors as are counted. -/
theorem WellFormed.descriptorCount_subscriptions (hwf : index.WellFormed) (consumer : Urn) :
    (index.subscriptions consumer).descriptorCount = index.total consumer := by
  rw [hwf.total_eq, ← size_scopesOf index consumer 0, Holding.size, subscriptions, toList_scopesOf,
    SubscriptionList.descriptorCount, List.flatMap_map]
  -- how the scopes are sorted does not matter
  rw [((List.mergeSort_perm _ _).flatMap_right _).length_eq, List.length_flatMap]
  simp

/-- Why an add is refused: it is malformed, or something in it is new and the consumer would hold
more descriptors over all scopes than it may. -/
inductive AddRefused (index : SubscriptionIndex) (consumer : Urn) (scope : Scope)
    (descriptors : List Descriptor) : SubscriptionError → Prop
  | malformed {e : SubscriptionError} : Malformed scope descriptors e →
      AddRefused index consumer scope descriptors e
  | limit : scope.IsNamed → (∀ d ∈ descriptors, d.name ≠ "") →
      0 < index.freshCount consumer scope descriptors →
      index.limit < (index.subscriptions consumer).descriptorCount +
        index.freshCount consumer scope descriptors →
      AddRefused index consumer scope descriptors (.limitExceeded consumer
        ((index.subscriptions consumer).descriptorCount +
          index.freshCount consumer scope descriptors) index.limit)

/-- Once nothing is malformed, the number of new descriptors decides. -/
private theorem add_of_named (hwf : index.WellFormed) (hscope : scope.IsNamed)
    (hnamed : ∀ d ∈ descriptors, d.name ≠ "") (consumer : Urn) :
    let n := index.freshCount consumer scope descriptors
    let requested := (index.subscriptions consumer).descriptorCount + n
    let size := (index.held consumer scope).size
    index.add consumer scope descriptors =
      if n = 0 then .ok (⟨0, size⟩, index)
      else if index.limit < requested then .error (.limitExceeded consumer requested index.limit)
      else .ok (⟨n, size + n⟩,
        index.enter consumer scope (fresh (index.held consumer scope) descriptors)) := by
  intro n requested size
  have hempty : (fresh (index.held consumer scope) descriptors).isEmpty = true ↔ n = 0 := by
    rw [Std.ExtTreeMap.isEmpty_eq_size_beq_zero, size_fresh, beq_iff_eq]
  rw [add_eq, bind_checkAll, checkAll_of_named hscope hnamed]
  simp only [size_fresh, ← hwf.descriptorCount_subscriptions, hempty, bind, Except.bind]
  rfl

/-- An add fails for the reasons above and no others. -/
theorem add_eq_error_iff (hwf : index.WellFormed) :
    index.add consumer scope descriptors = .error e ↔
      index.AddRefused consumer scope descriptors e := by
  cases hchecked : checkAll scope descriptors with
  | error e' =>
    -- the number of descriptors does not matter then
    have hadd : index.add consumer scope descriptors = .error e' := by
      rw [add_eq, bind_checkAll, hchecked]
      rfl
    rw [hadd]
    constructor
    · intro h
      cases h
      exact .malformed (checkAll_eq_error_iff.mp hchecked)
    · intro h
      cases h with
      | malformed hmalformed =>
        rw [checkAll_eq_error_iff.mpr hmalformed] at hchecked
        cases hchecked
        rfl
      | limit hscope hnamed =>
        rw [checkAll_of_named hscope hnamed] at hchecked
        cases hchecked
  | ok =>
    obtain ⟨hscope, hnamed⟩ := named_of_checkAll hchecked
    rw [add_of_named hwf hscope hnamed]
    constructor
    · intro h
      split_ifs at h with hnone hlimit
      cases h
      exact .limit hscope hnamed (Nat.pos_of_ne_zero hnone) hlimit
    · intro h
      cases h with
      | malformed hmalformed =>
        rw [checkAll_eq_error_iff.mpr hmalformed] at hchecked
        cases hchecked
      | limit _ _ hsome hlimit => rw [if_neg hsome.ne', if_pos hlimit]

theorem remove_eq_error_iff :
    index.remove consumer scope descriptors = .error e ↔ Malformed scope descriptors e := by
  rw [remove_eq, bind_checkAll, ← checkAll_eq_error_iff]
  cases checkAll scope descriptors with
  | error e' => constructor <;> intro h <;> cases h <;> rfl
  | ok =>
    -- behind the checks nothing is refused any more
    refine iff_of_false ?_ nofun
    dsimp only [bind, Except.bind]
    split <;> nofun

/-! ## What is not refused -/

/-- An add that is not refused adds all that is new. -/
theorem added_of_add {outcome : SubscribeOutcome}
    (h : index.add consumer scope descriptors = .ok (outcome, after)) :
    outcome.added = index.freshCount consumer scope descriptors := by
  rcases add_cases h with ⟨hnone, rfl, -⟩ | ⟨-, -, -, -, rfl, -⟩
  · rw [← size_fresh, hnone]
    rfl
  · exact size_fresh ..

theorem exists_add_of_not_refused (hwf : index.WellFormed)
    (h : ¬∃ e, index.AddRefused consumer scope descriptors e) :
    ∃ outcome after, index.add consumer scope descriptors = .ok (outcome, after) := by
  cases hadd : index.add consumer scope descriptors with
  | error e => exact absurd ⟨e, (add_eq_error_iff hwf).mp hadd⟩ h
  | ok result => exact ⟨result.1, result.2, rfl⟩

/-! ## What is refused -/

/-- An add that is refused leaves the index as it was, and so does a remove. -/
theorem on_addInPlace_of_refused (hwf : index.WellFormed)
    (h : index.AddRefused consumer scope descriptors e) :
    (addInPlace consumer scope descriptors).on index = (.error e, index) := by
  rw [on_addInPlace, (add_eq_error_iff hwf).mpr h]
  rfl

theorem on_removeInPlace_of_refused (h : Malformed scope descriptors e) :
    (removeInPlace consumer scope descriptors).on index = (.error e, index) := by
  rw [on_removeInPlace, remove_eq_error_iff.mpr h]
  rfl

end ServiceBroker.SubscriptionIndex
