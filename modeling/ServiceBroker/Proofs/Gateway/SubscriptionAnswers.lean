import ServiceBroker.Proofs.Gateway.PushAnswers
import ServiceBroker.Proofs.Gateway.Registration
import ServiceBroker.Proofs.SubscriptionIndex.Admission

/-!
# Answers to subscriptions

A client subscribes or unsubscribes by a request that names a scope in its path and descriptors in
its body. A refused one is answered by 400, or 422 if the client would hold too much, and changes
nothing.

## Main definitions

* `SubscriptionIndex.Admits`: which adds and removes an index refuses, and that it is left alone by
  those;
* `Gateway.IsScoped`: which requests subscribe or unsubscribe;
* `Gateway.AnswersAdd`, `Gateway.AnswersRemove`: how they are to be answered.

## Main results

* `Gateway.serve_subscribe`, `Gateway.serve_unsubscribe`: what such a request does to a replica;
* `Gateway.admission_exact`: whatever index operations have led to, all of this holds.
-/

namespace ServiceBroker

open Http (Request Response)
open SubscriptionIndex (Call Malformed addInPlace removeInPlace)

/-! ## The index -/

/-- Which adds and removes an index refuses, and that it is left alone by those. -/
structure SubscriptionIndex.Admits (index : SubscriptionIndex) (limit : Nat) (consumer : Urn)
    (scope : Scope) (descriptors : List Descriptor) : Prop where
  /-- The index has the limit it was made with. -/
  limit_eq : index.limit = limit
  /-- An add is refused for the reasons there are, and for the first of them. -/
  add_eq_error_iff : ∀ e, index.add consumer scope descriptors = .error e ↔
    index.AddRefused consumer scope descriptors e
  /-- Any other add adds all that is new. -/
  added : ∀ outcome after, index.add consumer scope descriptors = .ok (outcome, after) →
    outcome.added = index.freshCount consumer scope descriptors
  /-- A remove is refused if it is malformed. -/
  remove_eq_error_iff : ∀ e, index.remove consumer scope descriptors = .error e ↔
    Malformed scope descriptors e
  /-- Write by write, an add does the same. -/
  on_addInPlace : (addInPlace consumer scope descriptors).on index =
    Call.settled index (index.add consumer scope descriptors)
  /-- So does a remove. -/
  on_removeInPlace : (removeInPlace consumer scope descriptors).on index =
    Call.settled index (index.remove consumer scope descriptors)
  /-- An add that is refused has written nothing. -/
  add_unchanged : ∀ e, index.AddRefused consumer scope descriptors e →
    (addInPlace consumer scope descriptors).on index = (.error e, index)
  /-- A remove that is refused has written nothing. -/
  remove_unchanged : ∀ e, Malformed scope descriptors e →
    (removeInPlace consumer scope descriptors).on index = (.error e, index)

private theorem SubscriptionIndex.admits_run (limit : Nat) (operations : List Operation)
    (consumer : Urn)
    (scope : Scope) (descriptors : List Descriptor) :
    (run limit operations).2.Admits limit consumer scope descriptors := by
  obtain ⟨hwf, hlimit⟩ := (wellFormed_empty limit).runAll operations
  exact {
    limit_eq := hlimit
    add_eq_error_iff := fun _ => SubscriptionIndex.add_eq_error_iff hwf
    added := fun _ _ => added_of_add
    remove_eq_error_iff := fun _ => SubscriptionIndex.remove_eq_error_iff
    on_addInPlace := SubscriptionIndex.on_addInPlace ..
    on_removeInPlace := SubscriptionIndex.on_removeInPlace ..
    add_unchanged := fun _ => on_addInPlace_of_refused hwf
    remove_unchanged := fun _ => on_removeInPlace_of_refused }

/-- The status with which an add or a remove is refused. -/
def SubscriptionError.status : SubscriptionError → Nat
  | .invalidScope _ => 400
  | .invalidDescriptor _ => 400
  | .limitExceeded _ _ _ => 422

namespace Gateway

/-- The request of a known caller to change what it is subscribed to in a scope, with a body that is
not too long. -/
structure IsScoped (config : GatewayConfig) (method : String) (r : Request) (caller : Urn)
    (scope : Scope) (descriptors : List Descriptor) : Prop where
  path : ∃ resource, Resource.ofPath? r.path = some resource ∧ resource.scope = .ok scope
  method : r.method = method
  caller : callerOf config.identityHeader r = .ok caller
  length : declaresTooLong config r = false
  body : decodeBody config (Json.readList Descriptor.record.read) r = .ok descriptors

private theorem status_ofSubscription (e : SubscriptionError) :
    (ApiError.ofSubscription e).response.status = e.status := by
  cases e <;> rfl

/-! ## Serving -/

section Serving

variable {replica : Replica} {r : Request} {caller : Urn} {scope : Scope}
  {descriptors : List Descriptor}

/-- A path that names a scope is asked to add to it or to remove from it. -/
theorem operations_of_scope {resource : Resource} (h : resource.scope = .ok scope) :
    resource.operation? "POST" = some (.ofClient .subscribe) ∧
      resource.operation? "DELETE" = some (.ofClient .unsubscribe) := by
  cases resource with
  | namespaceScope | serviceScope => exact ⟨rfl, rfl⟩
  | services | subscriptions | notifications | health | metrics => cases h

/-- The reply that comes of the result of an operation, and the replica then. -/
def replyOf (replica : Replica) : Except Response (Response × Replica) → Reply × Replica
  | .ok (response, after) => (.answer response, after)
  | .error response => (.answer response, replica)

/-- Such a request is answered as its operation says, and changes nothing if that refuses it. -/
theorem serve_of_isScoped {method : String} {operation : ClientOperation} {canUpgrade : Bool}
    {result : Except Response (Response × Replica)}
    (h : IsScoped replica.config.gateway method r caller scope descriptors)
    (hmethod : method ≠ "HEAD")
    (hoperation : ∀ resource : Resource, resource.scope = .ok scope →
      resource.operation? method = some (.ofClient operation) ∧
        perform replica operation resource caller r canUpgrade =
          result.map fun (response, after) => (.answer response, after)) :
    serve replica r canUpgrade = replyOf replica result := by
  obtain ⟨resource, hpath, hscope⟩ := h.path
  obtain ⟨hasked, hperform⟩ := hoperation resource hscope
  rw [← h.method] at hasked hmethod
  have hperformed : authorize replica (.ofClient operation) resource r canUpgrade =
      perform replica operation resource caller r canUpgrade := by
    simp only [authorize, h.caller]
  rw [serve_of_authorize hpath hasked hmethod h.length (hperformed.trans hperform)]
  cases result <;> rfl

/-- What a request to subscribe does to a replica is told by the add. -/
theorem serve_subscribe (h : IsScoped replica.config.gateway "POST" r caller scope descriptors)
    (canUpgrade : Bool) :
    serve replica r canUpgrade = match replica.index.add caller scope descriptors with
      | .ok (outcome, index) => (.answer (subscribeResponse outcome), { replica with index })
      | .error e => (.answer (ApiError.ofSubscription e).response, replica) := by
  have hsubscribe (resource : Resource) (hscope : resource.scope = .ok scope) :
      subscribe replica caller resource r = match replica.index.add caller scope descriptors with
        | .ok (outcome, index) => .ok (subscribeResponse outcome, { replica with index })
        | .error e => .error (ApiError.ofSubscription e).response := by
    unfold subscribe
    rw [hscope, h.body]
    rfl
  rw [serve_of_isScoped h (by decide) fun resource hscope =>
    ⟨(operations_of_scope hscope).1, congrArg (Except.map _) (hsubscribe resource hscope)⟩]
  cases replica.index.add caller scope descriptors <;> rfl

/-- What a request to unsubscribe does to a replica is told by the remove. -/
theorem serve_unsubscribe (h : IsScoped replica.config.gateway "DELETE" r caller scope descriptors)
    (canUpgrade : Bool) :
    serve replica r canUpgrade = match replica.index.remove caller scope descriptors with
      | .ok (_, index) => (.answer (.empty 204), { replica with index })
      | .error e => (.answer (ApiError.ofSubscription e).response, replica) := by
  have hunsubscribe (resource : Resource) (hscope : resource.scope = .ok scope) :
      unsubscribe replica caller resource r =
        match replica.index.remove caller scope descriptors with
        | .ok (_, index) => .ok (.empty 204, { replica with index })
        | .error e => .error (ApiError.ofSubscription e).response := by
    unfold unsubscribe
    rw [hscope, h.body]
    rfl
  rw [serve_of_isScoped h (by decide) fun resource hscope =>
    ⟨(operations_of_scope hscope).2, congrArg (Except.map _) (hunsubscribe resource hscope)⟩]
  cases replica.index.remove caller scope descriptors <;> rfl

end Serving

/-- A request to subscribe is answered as the index admits it: 400 or 422 if it is refused, which
leaves the replica as it was, 201 if something was added, and 200 otherwise. -/
structure AnswersAdd (replica : Replica) (caller : Urn) (scope : Scope)
    (descriptors : List Descriptor) (reply : Reply × Replica) : Prop where
  refused : ∀ e, replica.index.AddRefused caller scope descriptors e →
    ∃ response, reply = (.answer response, replica) ∧ response.status = e.status
  accepted : (¬∃ e, replica.index.AddRefused caller scope descriptors e) →
    ∃ response index, reply = (.answer response, { replica with index }) ∧
      response.status = if 0 < replica.index.freshCount caller scope descriptors then 201 else 200

/-- A request to unsubscribe is answered as the index admits it: 400 if it is refused, which leaves
the replica as it was, and 204 otherwise. -/
structure AnswersRemove (replica : Replica) (scope : Scope) (descriptors : List Descriptor)
    (reply : Reply × Replica) : Prop where
  refused : ∀ e, Malformed scope descriptors e →
    ∃ response, reply = (.answer response, replica) ∧ response.status = 400
  accepted : (¬∃ e, Malformed scope descriptors e) →
    ∃ response index, reply = (.answer response, { replica with index }) ∧ response.status = 204

private theorem answersAdd_serve {replica : Replica} {r : Request} {caller : Urn} {scope : Scope}
    {descriptors : List Descriptor} (hwf : replica.index.WellFormed)
    (h : IsScoped replica.config.gateway "POST" r caller scope descriptors) (canUpgrade : Bool) :
    AnswersAdd replica caller scope descriptors (serve replica r canUpgrade) := by
  rw [serve_subscribe h canUpgrade]
  constructor
  case refused =>
    intro e he
    rw [(SubscriptionIndex.add_eq_error_iff hwf).mpr he]
    exact ⟨_, rfl, status_ofSubscription e⟩
  case accepted =>
    intro hnone
    obtain ⟨outcome, after, hadd⟩ := SubscriptionIndex.exists_add_of_not_refused hwf hnone
    -- the status tells whether the outcome adds anything
    rw [hadd, ← SubscriptionIndex.added_of_add hadd]
    exact ⟨_, after, rfl, rfl⟩

private theorem answersRemove_serve {replica : Replica} {r : Request} {caller : Urn} {scope : Scope}
    {descriptors : List Descriptor}
    (h : IsScoped replica.config.gateway "DELETE" r caller scope descriptors) (canUpgrade : Bool) :
    AnswersRemove replica scope descriptors (serve replica r canUpgrade) := by
  rw [serve_unsubscribe h canUpgrade]
  constructor
  case refused =>
    intro e he
    rw [SubscriptionIndex.remove_eq_error_iff.mpr he]
    refine ⟨_, rfl, (status_ofSubscription e).trans ?_⟩
    cases he <;> rfl
  case accepted =>
    intro hnone
    cases hremove : replica.index.remove caller scope descriptors with
    | error e => exact absurd ⟨e, SubscriptionIndex.remove_eq_error_iff.mp hremove⟩ hnone
    | ok removed => exact ⟨_, removed.2, rfl, rfl⟩

/-- Whatever operations have led to its index, a replica refuses exactly the adds and removes that
there is a reason to refuse, names the first reason, and is left as it was; all others are
accepted. -/
theorem admission_exact (limit : Nat) (operations : List SubscriptionIndex.Operation)
    (replica : Replica) (hindex : replica.index = (SubscriptionIndex.run limit operations).2)
    (consumer : Urn) (scope : Scope) (descriptors : List Descriptor) :
    replica.index.Admits limit consumer scope descriptors ∧
      ∀ (r : Request) (canUpgrade : Bool),
        (IsScoped replica.config.gateway "POST" r consumer scope descriptors →
          AnswersAdd replica consumer scope descriptors (serve replica r canUpgrade)) ∧
        (IsScoped replica.config.gateway "DELETE" r consumer scope descriptors →
          AnswersRemove replica scope descriptors (serve replica r canUpgrade)) := by
  have hwf : replica.index.WellFormed := by
    rw [hindex]
    exact ((SubscriptionIndex.wellFormed_empty limit).runAll operations).1
  constructor
  case left =>
    rw [hindex]
    exact SubscriptionIndex.admits_run limit operations consumer scope descriptors
  case right =>
    exact fun r canUpgrade => ⟨fun h => answersAdd_serve hwf h canUpgrade,
      fun h => answersRemove_serve h canUpgrade⟩

/-- A replica at which a client holds one descriptor of a namespace and one of a service in it. -/
def crowded : Replica :=
  { lone with
    index := (SubscriptionIndex.run 3 [.add ⟨"c", "d"⟩ (.namespaceWide "a") [⟨"k", "1", ""⟩],
      .add ⟨"c", "d"⟩ (.service "a" "b") [⟨"n", "1", ""⟩]]).2 }

/-- What the client asks for then: one descriptor is held there already, and one is named twice. -/
def wanted : List Descriptor :=
  [⟨"k", "1", ""⟩, ⟨"n", "1", ""⟩, ⟨"n", "1", ""⟩, ⟨"m", "1", ""⟩]

/-- Its request. -/
def wantedRequest : Request where
  method := "POST"
  path := Bytes.ofString "/subscriptions/a"
  peerName := some "c.d"
  body := Bytes.ofString "[[\"k\",\"1\"],[\"n\",\"1\"],[\"n\",\"1\"],[\"m\",\"1\"]]"

private theorem isScoped_wantedRequest :
    IsScoped crowded.config.gateway "POST" wantedRequest ⟨"c", "d"⟩ (.namespaceWide "a")
      wanted where
  path := ⟨.namespaceScope (Bytes.ofString "a"), rfl, rfl⟩
  method := rfl
  caller := rfl
  length := rfl
  body := decodeBody_of_readBytes rfl rfl

/-- Two descriptors are new and two are held, one of them elsewhere, which is one too many. -/
theorem admission_exact_crowded :
    (SubscriptionIndex.addInPlace ⟨"c", "d"⟩ (.namespaceWide "a") wanted).on crowded.index =
        (.error (.limitExceeded ⟨"c", "d"⟩ 4 3), crowded.index) ∧
      ∃ response, serve crowded wantedRequest false = (.answer response, crowded) ∧
        response.status = 422 := by
  obtain ⟨hindex, hanswers⟩ :=
    admission_exact 3 _ crowded rfl ⟨"c", "d"⟩ (.namespaceWide "a") wanted
  have hwf : crowded.index.WellFormed := (SubscriptionIndex.wellFormed_run 3 _).1
  have hheld : (crowded.index.subscriptions ⟨"c", "d"⟩).descriptorCount = 2 := by
    rw [hwf.descriptorCount_subscriptions]
    decide +kernel
  have hfresh : crowded.index.freshCount ⟨"c", "d"⟩ (.namespaceWide "a") wanted = 2 := by
    decide +kernel
  have hrefused : crowded.index.AddRefused ⟨"c", "d"⟩ (.namespaceWide "a") wanted
      (.limitExceeded ⟨"c", "d"⟩ 4 3) := by
    have hlimit : crowded.index.AddRefused ⟨"c", "d"⟩ (.namespaceWide "a") wanted
        (.limitExceeded ⟨"c", "d"⟩ ((crowded.index.subscriptions ⟨"c", "d"⟩).descriptorCount +
          crowded.index.freshCount ⟨"c", "d"⟩ (.namespaceWide "a") wanted)
          crowded.index.limit) := by
      refine .limit ⟨by decide, by decide⟩ (by decide) ?_ ?_
      · rw [hfresh]
        decide
      · rw [hheld, hfresh, hindex.limit_eq]
        decide
    rwa [hheld, hfresh, hindex.limit_eq] at hlimit
  exact ⟨hindex.add_unchanged _ hrefused,
    ((hanswers wantedRequest false).1 isScoped_wantedRequest).refused _ hrefused⟩

end Gateway

end ServiceBroker
