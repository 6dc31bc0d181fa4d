import ServiceBroker.Proofs.SubscriptionIndex.Changes

/-!
# Operations on a subscription index

Whatever is asked of an index, in whatever order, its two maps agree.

## Main definitions

* `SubscriptionIndex.Operation`: what can be asked of an index, with `Operation.perform` for its
  answer and its effect;
* `SubscriptionIndex.run`: the answers to some operations and the index after them.

## Main results

* `WellFormed.perform`: every operation keeps the invariant;
* `wellFormed_run`: every index that operations lead to is well formed, and no remove takes more
  than what is counted.
-/

namespace ServiceBroker

namespace SubscriptionIndex

/-! ## Operations -/

/-- What can be asked of an index in the name of a consumer. -/
inductive Operation where
  | add (consumer : Urn) (scope : Scope) (descriptors : List Descriptor)
  | remove (consumer : Urn) (scope : Scope) (descriptors : List Descriptor)
  | removeAll (consumer : Urn)

/-- The consumer in whose name an operation is asked for. -/
def Operation.consumer : Operation → Urn
  | .add consumer _ _ | .remove consumer _ _ | .removeAll consumer => consumer

/-- What an operation answers. -/
inductive Answer where
  | subscribed (outcome : SubscribeOutcome)
  | unsubscribed (outcome : UnsubscribeOutcome)
  | refused (error : SubscriptionError)
deriving DecidableEq

/-- The answer to an operation and the index then; a refused one changes nothing. -/
def Operation.perform (operation : Operation) (index : SubscriptionIndex) :
    Answer × SubscriptionIndex :=
  match operation with
  | .add consumer scope descriptors =>
    match index.add consumer scope descriptors with
    | .ok (outcome, index) => (.subscribed outcome, index)
    | .error e => (.refused e, index)
  | .remove consumer scope descriptors =>
    match index.remove consumer scope descriptors with
    | .ok (outcome, index) => (.unsubscribed outcome, index)
    | .error e => (.refused e, index)
  | .removeAll consumer =>
    let (outcome, index) := index.removeAll consumer
    (.unsubscribed outcome, index)

/-- Works through operations one after the other: their answers and the state after all of them. -/
def Operation.runAll {σ : Type} (perform : Operation → σ → Answer × σ) :
    List Operation → σ → List Answer × σ
  | [], state => ([], state)
  | operation :: operations, state =>
    let (answer, state) := perform operation state
    let (answers, state) := runAll perform operations state
    (answer :: answers, state)

/-- The answers to operations on an index that starts without subscriptions, and the index then. -/
def run (limit : Nat) (operations : List Operation) : List Answer × SubscriptionIndex :=
  Operation.runAll Operation.perform operations (empty limit)

theorem limit_removeAll (index : SubscriptionIndex) (consumer : Urn) :
    (index.removeAll consumer).2.limit = index.limit := by
  unfold removeAll
  split <;> rfl

/-- Both checks, one after the other. -/
def checkAll (scope : Scope) (descriptors : List Descriptor) : Except SubscriptionError Unit := do
  checkScope scope
  checkDescriptors descriptors

theorem bind_checkAll {α : Type} {scope : Scope} {descriptors : List Descriptor}
    (result : Except SubscriptionError α) :
    (do checkScope scope; checkDescriptors descriptors; result) =
      (do checkAll scope descriptors; result) := by
  rw [checkAll, bind_assoc]

theorem named_of_checkAll {scope : Scope} {descriptors : List Descriptor}
    (h : checkAll scope descriptors = .ok ()) :
    scope.IsNamed ∧ ∀ d ∈ descriptors, d.name ≠ "" := by
  cases hscope : checkScope scope with
  | error e =>
    rw [checkAll, hscope] at h
    cases h
  | ok =>
    rw [checkAll, hscope] at h
    exact ⟨isNamed_of_checkScope hscope,
      fun d hd => named_of_checkDescriptors h (List.mem_map_of_mem hd)⟩

/-- What adding does when it is not refused. -/
theorem add_cases {index after : SubscriptionIndex} {consumer : Urn} {scope : Scope}
    {descriptors : List Descriptor} {outcome : SubscribeOutcome}
    (h : index.add consumer scope descriptors = .ok (outcome, after)) :
    let held := index.held consumer scope
    let new := fresh held descriptors
    new = ∅ ∧ outcome = ⟨0, held.size⟩ ∧ after = index ∨
      scope.IsNamed ∧ (∀ key ∈ descriptors.map (·.key), key.name ≠ "") ∧ new ≠ ∅ ∧
        index.total consumer + new.size ≤ index.limit ∧
        outcome = ⟨new.size, held.size + new.size⟩ ∧ after = index.enter consumer scope new := by
  rw [add_eq, bind_checkAll] at h
  cases hchecked : checkAll scope descriptors with
  | error e =>
    rw [hchecked] at h
    cases h
  | ok =>
    obtain ⟨hscope, hnamed⟩ := named_of_checkAll hchecked
    simp only [hchecked, bind, Except.bind, pure, Except.pure] at h
    split at h
    next hempty =>
      cases h
      exact .inl ⟨Std.ExtTreeMap.isEmpty_iff.mp hempty, rfl, rfl⟩
    next hne =>
      split at h
      next => cases h
      next hlimit =>
        cases h
        exact .inr ⟨hscope, List.forall_mem_map.mpr hnamed,
          fun h => hne (Std.ExtTreeMap.isEmpty_iff.mpr h), Nat.le_of_not_lt hlimit, rfl, rfl⟩

/-- What may be held under a limit may be held under a larger one. -/
theorem add_of_limit_le {index after : SubscriptionIndex} {consumer : Urn} {scope : Scope}
    {descriptors : List Descriptor} {outcome : SubscribeOutcome} {limit : Nat}
    (hlimit : index.limit ≤ limit)
    (h : index.add consumer scope descriptors = .ok (outcome, after)) :
    { index with limit }.add consumer scope descriptors = .ok (outcome, { after with limit }) := by
  rw [add_eq, bind_checkAll] at h ⊢
  cases hchecked : checkAll scope descriptors with
  | error e =>
    rw [hchecked] at h
    cases h
  | ok =>
    simp only [hchecked, bind, Except.bind, pure, Except.pure] at h ⊢
    -- nothing is compared with the limit when there is nothing to add
    split at h
    next hempty =>
      cases h
      exact if_pos hempty
    next hne =>
      split at h
      · cases h
      next hfits =>
        cases h
        refine (if_neg hne).trans (if_neg fun hlarge => hfits ?_)
        exact Nat.lt_of_le_of_lt hlimit hlarge

/-- What removing does when it is not refused. -/
theorem remove_cases {index after : SubscriptionIndex} {consumer : Urn} {scope : Scope}
    {descriptors : List Descriptor} {outcome : UnsubscribeOutcome}
    (h : index.remove consumer scope descriptors = .ok (outcome, after)) :
    after = index ∨
      ∃ held, (index.scopesOf consumer)[scope]? = some held ∧
        after = index.withdraw consumer scope (takeKeys held descriptors).1
          (takeKeys held descriptors).2 := by
  rw [remove_eq, bind_checkAll] at h
  cases hchecked : checkAll scope descriptors with
  | error e =>
    rw [hchecked] at h
    cases h
  | ok =>
    simp only [hchecked, bind, Except.bind, pure, Except.pure] at h
    split at h
    next =>
      cases h
      exact .inl rfl
    next held hsome =>
      cases h
      exact .inr ⟨held, hsome, rfl⟩

/-- Every operation keeps the invariant and the limit. -/
theorem WellFormed.perform {index : SubscriptionIndex} (hwf : index.WellFormed)
    (operation : Operation) :
    (operation.perform index).2.WellFormed ∧ (operation.perform index).2.limit = index.limit := by
  cases operation with
  | add consumer scope descriptors =>
    simp only [Operation.perform]
    split
    next outcome after h =>
      rcases add_cases h with ⟨-, -, rfl⟩ | ⟨hscope, hnamed, hne, hlimit, -, rfl⟩
      · exact ⟨hwf, rfl⟩
      · exact ⟨hwf.enter hscope hne (fun key hkey => hnamed key (mem_fresh.mp hkey).2)
          (fun key hkey => (mem_fresh.mp hkey).1) hlimit, rfl⟩
    next => exact ⟨hwf, rfl⟩
  | remove consumer scope descriptors =>
    simp only [Operation.perform]
    split
    next outcome after h =>
      rcases remove_cases h with rfl | ⟨held, hsome, rfl⟩
      · exact ⟨hwf, rfl⟩
      · exact ⟨hwf.withdraw hsome (splits_takeKeys held descriptors), rfl⟩
    next => exact ⟨hwf, rfl⟩
  | removeAll consumer => exact ⟨hwf.removeAll consumer, limit_removeAll index consumer⟩

/-- A run of operations keeps the invariant and the limit. -/
theorem WellFormed.runAll {index : SubscriptionIndex} (hwf : index.WellFormed)
    (operations : List Operation) :
    (Operation.runAll Operation.perform operations index).2.WellFormed ∧
      (Operation.runAll Operation.perform operations index).2.limit = index.limit := by
  -- the induction is on the operations, over any well-formed index
  induction operations generalizing index with
  | nil => exact ⟨hwf, rfl⟩
  | cons operation operations ih =>
    obtain ⟨hstep, hlimit⟩ := hwf.perform operation
    obtain ⟨hrun, hrunLimit⟩ := ih hstep
    exact ⟨hrun, hrunLimit.trans hlimit⟩

/-- Every index that operations lead to, refused ones included, is well formed within its limit; so
the number of descriptors that a remove takes is never more than the consumer's count, from which it
is subtracted. -/
theorem wellFormed_run (limit : Nat) (operations : List Operation) :
    (run limit operations).2.WellFormed ∧ (run limit operations).2.limit = limit ∧
      ∀ (consumer : Urn) (holding : Holding) (scope : Scope) (held : DescriptorMap)
        (descriptors : List Descriptor),
        (run limit operations).2.consumers[consumer]? = some holding →
        holding.scopes[scope]? = some held →
        (takeKeys held descriptors).1.length ≤ holding.total := by
  obtain ⟨hwf, hlimit⟩ := (wellFormed_empty limit).runAll operations
  refine ⟨hwf, hlimit, ?_⟩
  intro consumer holding scope held descriptors hholding hheld
  have hsome : ((run limit operations).2.scopesOf consumer)[scope]? = some held := by
    simpa [scopesOf, hholding] using hheld
  have hle := WellFormed.length_le_total hwf hsome (splits_takeKeys held descriptors)
  have htotal : (run limit operations).2.total consumer = holding.total := by
    simp [total, hholding]
  exact htotal ▸ hle

end SubscriptionIndex

end ServiceBroker
