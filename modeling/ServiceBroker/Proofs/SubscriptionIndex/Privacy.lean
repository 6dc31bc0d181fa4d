import ServiceBroker.Proofs.SubscriptionIndex.Operations

/-!
# Consumers do not notice each other

All consumers share the topics of an index, and a topic is dropped with its last consumer. Still a
consumer gets the answers and the read-back that it would get if it had the index for itself.

## Main definitions

* `SubscriptionIndex.Alike`: two indexes hold the same for a consumer;
* `SubscriptionIndex.answersTo`: the answers that one consumer gets in a run.

## Main results

* `Alike.perform` and `Alike.perform_other`: an operation of the consumer does the same to both, and
  one of another consumer is not noticed;
* `Alike.runAll`: a run looks to a consumer as if nobody else had asked for anything;
* `WellFormed.ext`: the topics of a well-formed index are settled by what consumers hold, so that
  operations of different consumers commute;
* `run_private`: runs with the same operations of a consumer are the same to it.
-/

namespace ServiceBroker.SubscriptionIndex

/-- Two indexes hold the same for a consumer and have the same limit. -/
structure Alike (consumer : Urn) (index index' : SubscriptionIndex) : Prop where
  limit : index'.limit = index.limit
  holding : index'.consumers[consumer]? = index.consumers[consumer]?

variable {consumer : Urn} {index index' index'' : SubscriptionIndex} {operation : Operation}

namespace Alike

theorem refl (consumer : Urn) (index : SubscriptionIndex) : Alike consumer index index := ⟨rfl, rfl⟩

theorem trans (h : Alike consumer index index') (h' : Alike consumer index' index'') :
    Alike consumer index index'' :=
  ⟨h'.limit.trans h.limit, h'.holding.trans h.holding⟩

theorem symm (h : Alike consumer index index') : Alike consumer index' index :=
  ⟨h.limit.symm, h.holding.symm⟩

/-! ## What a consumer sees -/

theorem scopesOf (h : Alike consumer index index') :
    index'.scopesOf consumer = index.scopesOf consumer := by
  rw [SubscriptionIndex.scopesOf, h.holding, SubscriptionIndex.scopesOf]

theorem held (h : Alike consumer index index') (scope : Scope) :
    index'.held consumer scope = index.held consumer scope := by
  rw [held_eq, h.scopesOf, held_eq]

theorem total (h : Alike consumer index index') : index'.total consumer = index.total consumer := by
  rw [SubscriptionIndex.total, h.holding, SubscriptionIndex.total]

theorem subscriptions (h : Alike consumer index index') :
    index'.subscriptions consumer = index.subscriptions consumer := by
  rw [SubscriptionIndex.subscriptions, h.holding, SubscriptionIndex.subscriptions]

/-! ## One operation -/

theorem enter (h : Alike consumer index index') (scope : Scope) (new : DescriptorMap) :
    Alike consumer (index.enter consumer scope new) (index'.enter consumer scope new) where
  limit := h.limit
  holding := by
    rw [consumers_enter, consumers_enter, if_pos rfl, if_pos rfl, h.scopesOf, h.held, h.total]

theorem withdraw (h : Alike consumer index index') (scope : Scope) (gone : List Descriptor.Key)
    (left : DescriptorMap) :
    Alike consumer (index.withdraw consumer scope gone left)
      (index'.withdraw consumer scope gone left) where
  limit := h.limit
  holding := by
    rw [consumers_withdraw, consumers_withdraw, if_pos rfl, if_pos rfl, scopesWithout, h.scopesOf,
      h.total, scopesWithout]

theorem removeAll (h : Alike consumer index index') :
    (index'.removeAll consumer).1 = (index.removeAll consumer).1 ∧
      Alike consumer (index.removeAll consumer).2 (index'.removeAll consumer).2 := by
  unfold SubscriptionIndex.removeAll
  rw [h.holding]
  cases hholding : index.consumers[consumer]? with
  | none => exact ⟨rfl, h⟩
  | some holding => exact ⟨rfl, h.limit, by simp⟩

/-- An operation of a consumer has the same answer in both indexes and does the same to what they
hold for it. -/
theorem perform (h : Alike operation.consumer index index') :
    (operation.perform index').1 = (operation.perform index).1 ∧
      Alike operation.consumer (operation.perform index).2 (operation.perform index').2 := by
  cases operation with
  | add consumer scope descriptors =>
    simp only [Operation.consumer] at h ⊢
    -- what an add looks at is the limit and what is held for its consumer, and both are the same
    simp only [Operation.perform, add_eq, bind_checkAll, h.held, h.total, h.limit]
    cases checkAll scope descriptors with
    | error e => exact ⟨rfl, h⟩
    | ok =>
      simp only [bind, Except.bind]
      generalize fresh (index.held consumer scope) descriptors = new
      by_cases hnew : new.isEmpty
      · simp only [hnew, if_true]
        exact ⟨rfl, h⟩
      · simp only [hnew, Bool.false_eq_true, if_false]
        by_cases hlimit : index.limit < index.total consumer + new.size
        · simp only [hlimit, if_true]
          exact ⟨rfl, h⟩
        · simp only [hlimit, if_false]
          exact ⟨rfl, h.enter scope new⟩
  | remove consumer scope descriptors =>
    simp only [Operation.consumer] at h ⊢
    -- a remove looks at the scopes of its consumer only
    simp only [Operation.perform, remove_eq, bind_checkAll, h.scopesOf]
    cases checkAll scope descriptors with
    | error e => exact ⟨rfl, h⟩
    | ok =>
      simp only [bind, Except.bind]
      cases (index.scopesOf consumer)[scope]? with
      | none => exact ⟨rfl, h⟩
      | some held => exact ⟨rfl, h.withdraw scope _ _⟩
  | removeAll consumer =>
    obtain ⟨houtcome, halike⟩ := h.removeAll
    exact ⟨congrArg Answer.unsubscribed houtcome, halike⟩

/-- An operation of another consumer is not noticed. -/
theorem perform_other (index : SubscriptionIndex) (h : operation.consumer ≠ consumer) :
    Alike consumer index (operation.perform index).2 := by
  cases operation with
  | add other scope descriptors =>
    simp only [Operation.consumer] at h
    simp only [Operation.perform]
    split
    next outcome after hadd =>
      rcases add_cases hadd with ⟨-, -, rfl⟩ | ⟨-, -, -, -, -, rfl⟩
      · exact .refl _ _
      · -- what changes is the entry of the other consumer
        exact ⟨rfl, by rw [consumers_enter, if_neg h]⟩
    next => exact .refl _ _
  | remove other scope descriptors =>
    simp only [Operation.consumer] at h
    simp only [Operation.perform]
    split
    next outcome after hremove =>
      rcases remove_cases hremove with rfl | ⟨held, -, rfl⟩
      · exact .refl _ _
      · exact ⟨rfl, by rw [consumers_withdraw, if_neg h]⟩
    next => exact .refl _ _
  | removeAll other =>
    simp only [Operation.consumer] at h
    -- at most the entry of the other consumer goes
    refine ⟨limit_removeAll index other, ?_⟩
    simp only [Operation.perform, SubscriptionIndex.removeAll]
    split
    · rfl
    · simp only [Std.ExtTreeMap.getElem?_erase, Std.LawfulEqCmp.compare_eq_iff_eq]
      rw [if_neg h]

/-- Indexes that hold the same for a consumer do so after any operation. -/
theorem step (h : Alike consumer index index') (operation : Operation) :
    Alike consumer (operation.perform index).2 (operation.perform index').2 := by
  by_cases hconsumer : operation.consumer = consumer
  · subst hconsumer
    exact h.perform.2
  · exact ((perform_other index hconsumer).symm.trans h).trans (perform_other index' hconsumer)

end Alike

/-! ## Operations of different consumers -/

/-- The topics of a well-formed index are settled by the keys that its consumers hold. -/
theorem WellFormed.topics_ext (h : index.WellFormed) (h' : index'.WellFormed)
    (hkeys : ∀ (consumer : Urn) (topic : Topic),
      topic.key ∈ index'.held consumer topic.scope ↔ topic.key ∈ index.held consumer topic.scope) :
    index'.topics = index.topics := by
  refine Std.ExtTreeMap.ext_getElem? fun topic => ?_
  -- the same consumers are entered under the topic
  have hsame : (index'.topics[topic]?).getD ∅ = (index.topics[topic]?).getD ∅ := by
    refine Std.ExtTreeSet.ext_mem fun consumer => ?_
    exact (h'.entered_iff _ _).trans ((hkeys _ _).trans (h.entered_iff _ _).symm)
  -- no topic is kept for nobody, so that the sets tell which topics there are
  cases hsome : index.topics[topic]? with
  | none =>
    cases hsome' : index'.topics[topic]? with
    | none => rfl
    | some subscribers =>
      rw [hsome, hsome', Option.getD_some, Option.getD_none] at hsame
      exact absurd hsame (h'.noneEmpty _ _ hsome')
  | some subscribers =>
    cases hsome' : index'.topics[topic]? with
    | none =>
      rw [hsome, hsome', Option.getD_some, Option.getD_none] at hsame
      exact absurd hsame.symm (h.noneEmpty _ _ hsome)
    | some subscribers' =>
      rw [hsome, hsome', Option.getD_some, Option.getD_some] at hsame
      rw [hsame]

/-- A well-formed index is settled by what its consumers hold. -/
theorem WellFormed.ext (h : index.WellFormed) (h' : index'.WellFormed)
    (halike : ∀ consumer, Alike consumer index index') : index' = index := by
  have htopics : index'.topics = index.topics :=
    h.topics_ext h' fun consumer topic => by rw [(halike consumer).held]
  have hconsumers : index'.consumers = index.consumers :=
    Std.ExtTreeMap.ext_getElem? fun consumer => (halike consumer).holding
  obtain ⟨limit, consumers, topics⟩ := index
  obtain ⟨limit', consumers', topics'⟩ := index'
  obtain rfl : limit' = limit := (halike ⟨"", ""⟩).limit
  obtain rfl : consumers' = consumers := hconsumers
  obtain rfl : topics' = topics := htopics
  rfl

/-- Operations of different consumers have the same answers and the same effect in either order. -/
theorem WellFormed.perform_comm (hwf : index.WellFormed) {a b : Operation}
    (h : a.consumer ≠ b.consumer) :
    (a.perform (b.perform index).2).1 = (a.perform index).1 ∧
      (b.perform (a.perform index).2).1 = (b.perform index).1 ∧
      (b.perform (a.perform index).2).2 = (a.perform (b.perform index).2).2 := by
  have ha := Alike.perform (Alike.perform_other index h.symm)
  have hb := Alike.perform (Alike.perform_other index h)
  refine ⟨ha.1, hb.1, ?_⟩
  refine WellFormed.ext ((hwf.perform b).1.perform a).1 ((hwf.perform a).1.perform b).1 ?_
  intro consumer
  -- each consumer notices at most one of the two
  by_cases hconsumer : a.consumer = consumer
  · subst hconsumer
    exact ha.2.symm.trans (Alike.perform_other _ h.symm)
  · have hstep := (Alike.perform_other index hconsumer).step b
    exact (Alike.perform_other _ hconsumer).symm.trans hstep

/-! ## Runs -/

/-- The answers to the operations of one consumer, out of the answers to all. -/
def answersTo (consumer : Urn) (operations : List Operation) (answers : List Answer) :
    List Answer :=
  ((operations.zip answers).filter (·.1.consumer = consumer)).map (·.2)

/-- A run looks to a consumer as if nobody else had asked for anything. -/
theorem Alike.runAll (h : Alike consumer index index') (operations : List Operation) :
    let own := operations.filter (·.consumer = consumer)
    answersTo consumer operations (Operation.runAll Operation.perform operations index).1 =
        (Operation.runAll Operation.perform own index').1 ∧
      Alike consumer (Operation.runAll Operation.perform operations index).2
        (Operation.runAll Operation.perform own index').2 := by
  -- the induction is on the operations, over any indexes that hold the same for the consumer
  induction operations generalizing index index' with
  | nil => exact ⟨rfl, h⟩
  | cons operation operations ih =>
    by_cases hconsumer : operation.consumer = consumer
    · subst hconsumer
      obtain ⟨hanswer, hnext⟩ := h.perform
      obtain ⟨hanswers, hlast⟩ := ih hnext
      simp only [List.filter_cons, decide_true, if_true, Operation.runAll]
      refine ⟨?_, hlast⟩
      rw [← hanswers, hanswer, answersTo, List.zip_cons_cons, List.filter_cons, if_pos (by simp)]
      rfl
    · obtain ⟨hanswers, hlast⟩ := ih ((perform_other index hconsumer).symm.trans h)
      simp only [List.filter_cons, hconsumer, decide_false, Bool.false_eq_true, if_false,
        Operation.runAll]
      refine ⟨?_, hlast⟩
      rw [← hanswers, answersTo, List.zip_cons_cons, List.filter_cons, if_neg (by simpa)]
      rfl

/-- Consumers cannot affect one another. In runs that have the same operations of a consumer,
whatever others ask for in between, it gets the same answers, and its read-back is the same at the
end; and at any time operations of different consumers may change places, with the same answers and
the same index after both. -/
theorem run_private (limit : Nat) (consumer : Urn) {operations operations' : List Operation}
    (h : operations.filter (·.consumer = consumer) = operations'.filter (·.consumer = consumer)) :
    answersTo consumer operations (run limit operations).1 =
        answersTo consumer operations' (run limit operations').1 ∧
      (run limit operations).2.subscriptions consumer =
        (run limit operations').2.subscriptions consumer ∧
      ∀ a b : Operation, a.consumer ≠ b.consumer →
        let index := (run limit operations).2
        (a.perform (b.perform index).2).1 = (a.perform index).1 ∧
          (b.perform (a.perform index).2).1 = (b.perform index).1 ∧
          (b.perform (a.perform index).2).2 = (a.perform (b.perform index).2).2 := by
  obtain ⟨hanswers, halike⟩ := (Alike.refl consumer (empty limit)).runAll operations
  obtain ⟨hanswers', halike'⟩ := (Alike.refl consumer (empty limit)).runAll operations'
  have hwf := ((wellFormed_empty limit).runAll operations).1
  refine ⟨?_, ?_, fun a b hne => hwf.perform_comm hne⟩
  · rw [run, hanswers, h, run, hanswers']
  · rw [run, ← halike.subscriptions, h, run, halike'.subscriptions]

/-- The consumer `a.b` gets to a topic that somebody else holds already, keeps it when that one
leaves, and then exceeds its limit. -/
def crowded : List Operation :=
  let topic (consumer : Urn) (name : String) : Operation :=
    .add consumer (.namespaceWide "n") [⟨name, "1", ""⟩]
  [topic ⟨"x", "y"⟩ "price", topic ⟨"a", "b"⟩ "price", topic ⟨"x", "y"⟩ "stock",
    .removeAll ⟨"x", "y"⟩, topic ⟨"a", "b"⟩ "stock"]

/-- What `a.b` asks for in `crowded`, without the others. -/
def alone : List Operation :=
  [.add ⟨"a", "b"⟩ (.namespaceWide "n") [⟨"price", "1", ""⟩],
    .add ⟨"a", "b"⟩ (.namespaceWide "n") [⟨"stock", "1", ""⟩]]

/-- In a crowd a consumer is refused at its own limit, as it is alone, and keeps what it holds. -/
theorem run_private_crowded :
    crowded.filter (·.consumer = ⟨"a", "b"⟩) = alone.filter (·.consumer = ⟨"a", "b"⟩) ∧
      answersTo ⟨"a", "b"⟩ crowded (run 1 crowded).1 =
        [.subscribed ⟨1, 1⟩, .refused (.limitExceeded ⟨"a", "b"⟩ 2 1)] ∧
      (run 1 crowded).2.subscriptions ⟨"a", "b"⟩ = (run 1 alone).2.subscriptions ⟨"a", "b"⟩ ∧
      (Operation.removeAll ⟨"x", "y"⟩).consumer ≠ (Operation.removeAll ⟨"a", "b"⟩).consumer ∧
      let index := (run 1 crowded).2
      ((Operation.removeAll ⟨"a", "b"⟩).perform
          ((Operation.removeAll ⟨"x", "y"⟩).perform index).2).1 =
        ((Operation.removeAll ⟨"a", "b"⟩).perform index).1 := by
  have hsame : crowded.filter (·.consumer = ⟨"a", "b"⟩) =
      alone.filter (·.consumer = ⟨"a", "b"⟩) := rfl
  have hne : (Operation.removeAll ⟨"x", "y"⟩).consumer ≠
      (Operation.removeAll ⟨"a", "b"⟩).consumer := by decide
  obtain ⟨hanswers, hsubscriptions, hcomm⟩ := run_private 1 ⟨"a", "b"⟩ hsame
  refine ⟨hsame, hanswers.trans ?_, hsubscriptions, hne, (hcomm _ _ hne).2.1⟩
  decide +kernel

end ServiceBroker.SubscriptionIndex
