import ServiceBroker.Proofs.SubscriptionIndex.Operations

/-!
# Writing to an index in place

`SubscriptionIndex.add` and `SubscriptionIndex.remove` give a new index. A running broker has one
index, to which a call writes entry by entry, so that a call that is refused midway would leave what
it has written. Here the calls are told write by write, with their checks where they stand.

## Main definitions

* `Call`: a call that writes to an index; what it has written before it is refused stays;
* `addInPlace`, `removeInPlace`: adding and removing, write by write.

## Main results

* `on_addInPlace`, `on_removeInPlace`: they do what `SubscriptionIndex.add` and
  `SubscriptionIndex.remove` do, and leave the index alone if they are refused.
-/

namespace ServiceBroker.SubscriptionIndex

/-! ## Calls -/

/-- A call on an index, which may read it, write to it and be refused. -/
abbrev Call (α : Type) := ExceptT SubscriptionError (StateM SubscriptionIndex) α

namespace Call

variable {α β : Type}

/-- The result of a call on an index, and the index then. -/
def on (call : Call α) (index : SubscriptionIndex) :
    Except SubscriptionError α × SubscriptionIndex :=
  call.run.run index

/-- Checks something before the call goes on. -/
def check (checked : Except SubscriptionError Unit) : Call Unit := ExceptT.mk (pure checked)

/-- Changes the index. -/
def write (f : SubscriptionIndex → SubscriptionIndex) : Call Unit := modify f

/-- Changes the index if a condition holds. -/
def writeIf (c : Prop) [Decidable c] (f : SubscriptionIndex → SubscriptionIndex) : Call Unit :=
  if c then write f else pure ()

variable {index : SubscriptionIndex}

@[simp]
theorem on_pure (a : α) : (pure a : Call α).on index = (.ok a, index) := rfl

@[simp]
theorem on_get : (get : Call SubscriptionIndex).on index = (.ok index, index) := rfl

@[simp]
theorem on_check (checked : Except SubscriptionError Unit) :
    (check checked).on index = (checked, index) := rfl

@[simp]
theorem on_write (f : SubscriptionIndex → SubscriptionIndex) :
    (write f).on index = (.ok (), f index) := rfl

/-- What a call has written stays, whether or not the next one is made. -/
theorem on_bind (call : Call α) (next : α → Call β) :
    (call >>= next).on index =
      match call.on index with
      | (.ok a, after) => (next a).on after
      | (.error e, after) => (.error e, after) := by
  unfold on
  rw [ExceptT.run_bind, StateT.run_bind]
  -- the state is threaded below the errors, so it is there in both cases
  cases (call.run.run index : Except SubscriptionError α × SubscriptionIndex) with
  | mk result after => cases result <;> rfl

/-- Writes one after the other. -/
theorem on_forM {entries : List α} {f : α → SubscriptionIndex → SubscriptionIndex} :
    (forM entries fun entry => write (f entry)).on index =
      (.ok (), entries.foldl (fun index entry => f entry index) index) := by
  induction entries generalizing index with
  | nil => rfl
  | cons entry entries ih =>
    rw [List.forM_cons, on_bind, on_write]
    exact ih

@[simp]
theorem on_writeIf (c : Prop) [Decidable c] (f : SubscriptionIndex → SubscriptionIndex) :
    (writeIf c f).on index = (.ok (), if c then f index else index) := by
  unfold writeIf
  split <;> rfl

/-- A call that writes only once it can be refused no more. -/
def settled (index : SubscriptionIndex) :
    Except SubscriptionError (α × SubscriptionIndex) →
      Except SubscriptionError α × SubscriptionIndex
  | .ok (a, after) => (.ok a, after)
  | .error e => (.error e, index)

/-- A check in front is made either way. -/
theorem on_check_bind {checked : Except SubscriptionError Unit} {call : Unit → Call α}
    {result : Unit → Except SubscriptionError (α × SubscriptionIndex)}
    (h : (call ()).on index = settled index (result ())) :
    (check checked >>= call).on index = settled index (checked >>= result) := by
  rw [on_bind, on_check]
  cases checked with
  | error e => rfl
  | ok => exact h

end Call

/-! ## Single writes -/

/-- What a consumer holds; one that is not known holds nothing. -/
def holdingOf (index : SubscriptionIndex) (consumer : Urn) : Holding :=
  (index.consumers[consumer]?).getD {}

/-- Writes to what a consumer holds. -/
def amend (consumer : Urn) (f : Holding → Holding) (index : SubscriptionIndex) :
    SubscriptionIndex :=
  { index with consumers := index.consumers.insert consumer (f (index.holdingOf consumer)) }

/-- Writes what a consumer holds in a scope. -/
def amendScope (consumer : Urn) (scope : Scope) (f : DescriptorMap → DescriptorMap) :
    SubscriptionIndex → SubscriptionIndex :=
  amend consumer fun holding =>
    { holding with scopes := holding.scopes.insert scope (f (holding.scopes[scope]?.getD ∅)) }

/-- Writes the number of descriptors that a consumer holds. -/
def amendTotal (consumer : Urn) (f : Nat → Nat) : SubscriptionIndex → SubscriptionIndex :=
  amend consumer fun holding => { holding with total := f holding.total }

/-- Drops a scope of a consumer. -/
def dropScope (consumer : Urn) (scope : Scope) : SubscriptionIndex → SubscriptionIndex :=
  amend consumer fun holding => { holding with scopes := holding.scopes.erase scope }

/-- Drops a consumer. -/
def dropConsumer (consumer : Urn) (index : SubscriptionIndex) : SubscriptionIndex :=
  { index with consumers := index.consumers.erase consumer }

/-- Enters a consumer under a topic. -/
def enterTopic (consumer : Urn) (topic : Topic) (index : SubscriptionIndex) : SubscriptionIndex :=
  { index with topics := attach index.topics consumer topic }

/-- Takes a consumer out from under a topic. -/
def leaveTopic (consumer : Urn) (topic : Topic) (index : SubscriptionIndex) : SubscriptionIndex :=
  { index with topics := detach index.topics consumer topic }

/-! ## The calls -/

/-- Subscribes a consumer to descriptors in a scope, write by write: first the topics, then the
scope, and at last the count. -/
def addInPlace (consumer : Urn) (scope : Scope) (descriptors : List Descriptor) :
    Call SubscribeOutcome := do
  Call.check (checkScope scope)
  Call.check (checkDescriptors descriptors)
  let index ← get
  let held := index.held consumer scope
  let new := fresh held descriptors
  if new.isEmpty then return ⟨0, held.size⟩
  let requested := index.total consumer + new.size
  if index.limit < requested then throw (.limitExceeded consumer requested index.limit)
  forM new.keys fun key => Call.write (enterTopic consumer ⟨scope, key⟩)
  Call.write (amendScope consumer scope fun held => held.insertMany new.toList)
  let now := (← get).held consumer scope
  Call.write (amendTotal consumer fun total => total + new.size)
  return ⟨new.size, now.size⟩

/-- Unsubscribes a consumer from descriptors in a scope, write by write: first the scope, which is
dropped if nothing is left, then the count, then a consumer without scopes, and at last the
topics. -/
def removeInPlace (consumer : Urn) (scope : Scope) (descriptors : List Descriptor) :
    Call UnsubscribeOutcome := do
  Call.check (checkScope scope)
  Call.check (checkDescriptors descriptors)
  match ((← get).scopesOf consumer)[scope]? with
  | none => return ⟨0, 0⟩
  | some held =>
    let (gone, left) := takeKeys held descriptors
    Call.write (amendScope consumer scope fun _ => left)
    Call.writeIf left.isEmpty (dropScope consumer scope)
    Call.write (amendTotal consumer fun total => total - gone.length)
    Call.writeIf ((← get).scopesOf consumer).isEmpty (dropConsumer consumer)
    forM gone fun key => Call.write (leaveTopic consumer ⟨scope, key⟩)
    return ⟨gone.length, left.size⟩

/-! ## The writes of one call -/

section Writes

variable (index : SubscriptionIndex) (consumer : Urn)

theorem scopes_holdingOf : (index.holdingOf consumer).scopes = index.scopesOf consumer := by
  cases h : index.consumers[consumer]? <;> simp [holdingOf, scopesOf, h]

theorem total_holdingOf : (index.holdingOf consumer).total = index.total consumer := by
  cases h : index.consumers[consumer]? <;> simp [holdingOf, total, h]

@[simp]
theorem holdingOf_amend (f : Holding → Holding) :
    (amend consumer f index).holdingOf consumer = f (index.holdingOf consumer) := by
  simp [amend, holdingOf]

/-- Of two writes to what a consumer holds, the second one sees the first. -/
private theorem amend_amend (f g : Holding → Holding) :
    amend consumer g (amend consumer f index) = amend consumer (g ∘ f) index := by
  rw [amend, holdingOf_amend]
  unfold amend
  dsimp only [Function.comp]
  -- the topics are left alone, and the second write is to the same key
  congr 1
  refine Std.ExtTreeMap.ext_getElem? fun other => ?_
  simp only [Std.ExtTreeMap.getElem?_insert]
  split <;> rfl

private theorem foldl_enterTopic (scope : Scope) (keys : List Descriptor.Key) :
    keys.foldl (fun index key => enterTopic consumer ⟨scope, key⟩ index) index =
      { index with topics := attachAll index.topics consumer (keys.map (Topic.mk scope)) } := by
  induction keys generalizing index with
  | nil => rfl
  | cons key keys ih => exact ih _

private theorem foldl_leaveTopic (scope : Scope) (keys : List Descriptor.Key) :
    keys.foldl (fun index key => leaveTopic consumer ⟨scope, key⟩ index) index =
      { index with topics := detachAll index.topics consumer (keys.map (Topic.mk scope)) } := by
  induction keys generalizing index with
  | nil => rfl
  | cons key keys ih => exact ih _

theorem held_amendScope (scope : Scope) (f : DescriptorMap → DescriptorMap) :
    (amendScope consumer scope f index).held consumer scope = f (index.held consumer scope) := by
  rw [held_eq, ← scopes_holdingOf, amendScope, holdingOf_amend, Std.ExtTreeMap.getElem?_insert_self,
    Option.getD_some, scopes_holdingOf, ← held_eq]

/-- The topics, the scope and the count of an add, written one after the other. -/
private theorem enter_eq_writes (scope : Scope) (new : DescriptorMap) :
    index.enter consumer scope new =
      amendTotal consumer (fun total => total + new.size)
        (amendScope consumer scope (fun held => held.insertMany new.toList)
          { index with
            topics := attachAll index.topics consumer (new.keys.map (Topic.mk scope)) }) := by
  rw [amendTotal, amendScope, amend_amend, amend, enter]
  dsimp only [Function.comp]
  -- the topics that were written first do not change what the consumer holds
  rw [held_eq, ← scopes_holdingOf, ← total_holdingOf]
  rfl

end Writes

/-- Adding write by write is adding, and leaves the index alone if it is refused. -/
theorem on_addInPlace (index : SubscriptionIndex) (consumer : Urn) (scope : Scope)
    (descriptors : List Descriptor) :
    (addInPlace consumer scope descriptors).on index =
      Call.settled index (index.add consumer scope descriptors) := by
  rw [add_eq, addInPlace]
  refine Call.on_check_bind (Call.on_check_bind ?_)
  rw [Call.on_bind, Call.on_get]
  dsimp only
  split
  next => rfl
  next =>
    split
    next => rfl
    next =>
      -- nothing can be refused any more
      simp only [Call.on_bind, Call.on_forM, Call.on_write, Call.on_get, Call.on_pure]
      rw [foldl_enterTopic, held_amendScope, enter_eq_writes, ← size_insertMany_fresh]
      rfl

/-- What is dropped need not have been written before. -/
private theorem erase_insert {α β : Type} [Ord α] [Std.TransOrd α] [Std.LawfulEqOrd α]
    (m : Std.ExtTreeMap α β) (a : α) (b : β) : (m.insert a b).erase a = m.erase a := by
  refine Std.ExtTreeMap.ext_getElem? fun other => ?_
  rw [Std.ExtTreeMap.getElem?_erase, Std.ExtTreeMap.getElem?_insert, Std.ExtTreeMap.getElem?_erase]
  split <;> rfl

/-- The scope and the count of a remove, written one after the other. -/
private theorem amend_scopesWithout (index : SubscriptionIndex) (consumer : Urn) (scope : Scope)
    (left : DescriptorMap) (f : Nat → Nat) :
    amendTotal consumer f
        (if left.isEmpty then
          dropScope consumer scope (amendScope consumer scope (fun _ => left) index)
        else amendScope consumer scope (fun _ => left) index) =
      { index with
        consumers := index.consumers.insert consumer
          ⟨index.scopesWithout consumer scope left, f (index.total consumer)⟩ } := by
  unfold amendTotal dropScope amendScope scopesWithout
  split
  next =>
    -- the scope is written empty, dropped and then counted
    rw [amend_amend, amend_amend, amend]
    dsimp only [Function.comp]
    rw [erase_insert, scopes_holdingOf, total_holdingOf]
  next =>
    rw [amend_amend, amend]
    dsimp only [Function.comp]
    rw [scopes_holdingOf, total_holdingOf]

/-- The consumer and the topics of a remove, written after its scope and its count. -/
private theorem withdraw_eq_writes (index : SubscriptionIndex) (consumer : Urn) (scope : Scope)
    (gone : List Descriptor.Key) (left : DescriptorMap) :
    let counted : SubscriptionIndex := { index with
      consumers := index.consumers.insert consumer
        ⟨index.scopesWithout consumer scope left, index.total consumer - gone.length⟩ }
    index.withdraw consumer scope gone left =
      gone.foldl (fun index key => leaveTopic consumer ⟨scope, key⟩ index)
        (if (counted.scopesOf consumer).isEmpty then dropConsumer consumer counted
        else counted) := by
  intro counted
  have hscopes : counted.scopesOf consumer = index.scopesWithout consumer scope left := by
    simp [counted, scopesOf]
  rw [foldl_leaveTopic, hscopes, withdraw]
  split
  next =>
    -- here the consumer is dropped, although it has just been written
    rw [← erase_insert index.consumers]
    rfl
  next => rfl

/-- Removing write by write is removing, and leaves the index alone if it is refused. -/
theorem on_removeInPlace (index : SubscriptionIndex) (consumer : Urn) (scope : Scope)
    (descriptors : List Descriptor) :
    (removeInPlace consumer scope descriptors).on index =
      Call.settled index (index.remove consumer scope descriptors) := by
  rw [remove_eq, removeInPlace]
  refine Call.on_check_bind (Call.on_check_bind ?_)
  rw [Call.on_bind, Call.on_get]
  dsimp only
  cases (index.scopesOf consumer)[scope]? with
  | none => rfl
  | some held =>
    dsimp only
    simp only [Call.on_bind, Call.on_forM, Call.on_write, Call.on_writeIf, Call.on_get,
      Call.on_pure, amend_scopesWithout]
    rw [withdraw_eq_writes]
    rfl

end ServiceBroker.SubscriptionIndex
