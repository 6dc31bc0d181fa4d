import ServiceBroker.Gateway.Server
import ServiceBroker.Proofs.Json.Canonical
import ServiceBroker.Proofs.SubscriptionIndex.Operations

/-!
# What a request can do

Whatever its path, headers and body are, a request does one of a few things to a replica, and each
in the name of its caller.

- `Gateway.Served`: all that can become of a replica by one request, with the reply;
- `Gateway.serve_of_caller`: nothing else happens;
- `Gateway.serve_of_stranger`: a request without a valid identity is refused and changes nothing;
- `Gateway.serve_cases`: all requests together;
- `Gateway.serve_congr_body`: a body that is not read does not matter.
-/

namespace ServiceBroker

namespace Gateway

open Http (Request Response)

/-- What a request of `caller` can do to a replica, and the reply to it. -/
inductive Served (replica : Replica) (caller : Urn) : Reply → Replica → Prop
  /-- It is refused or only reads. -/
  | read (response : Response) : Served replica caller (.answer response) replica
  /-- It changes what the caller is subscribed to. -/
  | subscribed (response : Response) (operation : SubscriptionIndex.Operation) :
      operation.consumer = caller →
      Served replica caller (.answer response)
        { replica with index := (operation.perform replica.index).2 }
  /-- It publishes a change of the service of the caller. -/
  | published (response : Response) (event : RegistryEvent) : event.urn = caller →
      Served replica caller (.answer response)
        (afterPublish replica
          (replica.sync.publishChange event replica.transport replica.metrics))
  /-- It pushes a notification of the caller, and some of its pushes wait. -/
  | delivering (notification : Notification) :
      Served replica caller
        (.delivering (Dispatch.start replica.config.delivery replica.index .live replica.now caller
          notification replica.channels).1)
        { replica with channels := (Dispatch.start replica.config.delivery replica.index .live
            replica.now caller notification replica.channels).2 }
  /-- It pushes a notification of the caller, and all of its pushes have ended at once. -/
  | delivered (response : Response) (notification : Notification) (report : DeliveryReport) :
      (Dispatch.start replica.config.delivery replica.index .live replica.now caller
        notification replica.channels).1.report? = some report →
      Served replica caller (.answer response)
        { replica with
          channels := (Dispatch.start replica.config.delivery replica.index .live
            replica.now caller notification replica.channels).2
          metrics := replica.metrics.countReport report }
  /-- It may open a live channel for the caller. -/
  | upgrade : Served replica caller (.upgrade caller) replica

/-- How an answer is worded does not matter. -/
theorem Served.answer {replica replica' : Replica} {caller : Urn} {response : Response}
    (h : Served replica caller (.answer response) replica') (other : Response) :
    Served replica caller (.answer other) replica' := by
  cases h with
  | read => exact .read other
  | subscribed _ operation hconsumer => exact .subscribed other operation hconsumer
  | published _ event hurn => exact .published other event hurn
  | delivered _ notification report hreport => exact .delivered other notification report hreport

/-- A live channel is granted to the caller alone. -/
theorem Served.upgrade_eq {replica replica' : Replica} {caller consumer : Urn} {reply : Reply}
    (h : Served replica caller reply replica') (hreply : reply = .upgrade consumer) :
    consumer = caller := by
  cases h with
  | upgrade => exact (Reply.upgrade.inj hreply).symm
  | read | subscribed | published | delivering | delivered => cases hreply

/-! ## Operations of a caller -/

section Operations

variable {replica replica' : Replica} {caller : Urn} {r : Request} {response : Response}
  {reply : Reply} {resource : Resource} {canUpgrade : Bool}

/-- What a request holds was read of its body. -/
theorem readBytes_of_decodeBody {α : Type} {config : GatewayConfig} {reader : Json.Reader α} {a : α}
    (h : decodeBody config reader r = .ok a) : Json.readBytes reader r.body = .ok a := by
  unfold decodeBody at h
  obtain ⟨body, hbody, h⟩ := Json.exists_of_bind_eq_ok h
  -- a body is taken whole or refused
  have hsame : body = r.body := by
    unfold readBody at hbody
    dsimp only at hbody
    split_ifs at hbody
    exact (Except.ok.inj hbody).symm
  subst hsame
  cases hread : Json.readBytes reader r.body with
  | error e =>
    rw [hread] at h
    cases h
  | ok read =>
    rw [hread] at h
    cases h
    rfl

/-- A body that is not too long holds what its text does. -/
theorem decodeBody_of_readBytes {α : Type} {config : GatewayConfig} {reader : Json.Reader α}
    {body : Bytes} {a : α} (hbody : readBody config r = .ok body)
    (hread : Json.readBytes reader body = .ok a) : decodeBody config reader r = .ok a := by
  unfold decodeBody
  rw [hbody]
  exact congrArg (Except.mapError _) hread

theorem served_registerService (h : registerService replica caller r = .ok (response, replica')) :
    Served replica caller (.answer response) replica' := by
  unfold registerService at h
  obtain ⟨registration, _, h⟩ := Json.exists_of_bind_eq_ok h
  cases h
  exact .published _ (.register (registration.bind caller)) rfl

theorem served_deregisterService (response : Response) :
    Served replica caller (.answer response) (deregisterService replica caller).2 :=
  .published response (.deregister caller) rfl

theorem served_subscribe (h : subscribe replica caller resource r = .ok (response, replica')) :
    Served replica caller (.answer response) replica' := by
  unfold subscribe at h
  obtain ⟨scope, _, h⟩ := Json.exists_of_bind_eq_ok h
  obtain ⟨descriptors, _, h⟩ := Json.exists_of_bind_eq_ok h
  cases hadd : replica.index.add caller scope descriptors with
  | error e =>
    rw [hadd] at h
    cases h
  | ok added =>
    rw [hadd] at h
    cases h
    have hserved : Served replica caller _ _ :=
      .subscribed (subscribeResponse added.1) (.add caller scope descriptors) rfl
    simpa only [SubscriptionIndex.Operation.perform, hadd] using hserved

theorem served_unsubscribe
    (h : unsubscribe replica caller resource r = .ok (response, replica')) :
    Served replica caller (.answer response) replica' := by
  unfold unsubscribe at h
  obtain ⟨scope, _, h⟩ := Json.exists_of_bind_eq_ok h
  obtain ⟨descriptors, _, h⟩ := Json.exists_of_bind_eq_ok h
  cases hremove : replica.index.remove caller scope descriptors with
  | error e =>
    rw [hremove] at h
    cases h
  | ok removed =>
    rw [hremove] at h
    cases h
    have hserved : Served replica caller _ _ :=
      .subscribed (.empty 204) (.remove caller scope descriptors) rfl
    simpa only [SubscriptionIndex.Operation.perform, hremove] using hserved

theorem served_pushNotification
    (h : pushNotification replica caller r = .ok (reply, replica')) :
    Served replica caller reply replica' := by
  unfold pushNotification at h
  obtain ⟨notification, _, h⟩ := Json.exists_of_bind_eq_ok h
  cases hreport : (Dispatch.start replica.config.delivery replica.index .live replica.now caller
      notification replica.channels).1.report? with
  | none =>
    simp only [hreport] at h
    cases h
    exact .delivering notification
  | some report =>
    simp only [hreport] at h
    cases h
    exact .delivered _ notification report hreport

/-- Whatever a caller asks for is done in its name. -/
theorem served_perform {operation : ClientOperation}
    (h : perform replica operation resource caller r canUpgrade = .ok (reply, replica')) :
    Served replica caller reply replica' := by
  -- most operations give an answer, which becomes the reply
  have hanswered {x : Except Response (Response × Replica)}
      (hx : ∀ {response replica'}, x = .ok (response, replica') →
        Served replica caller (.answer response) replica')
      (h : x.map (fun answer => (Reply.answer answer.1, answer.2)) =
        .ok (reply, replica')) : Served replica caller reply replica' := by
    cases x with
    | error e => cases h
    | ok answer =>
      cases h
      exact hx rfl
  cases operation with
  | listServices =>
    cases h
    exact .read _
  | registerService => exact hanswered served_registerService h
  | deregisterService =>
    cases h
    exact served_deregisterService _
  | listSubscriptions =>
    cases h
    exact .read _
  | removeAllSubscriptions =>
    cases h
    exact .subscribed _ (.removeAll caller) rfl
  | subscribe => exact hanswered served_subscribe h
  | unsubscribe => exact hanswered served_unsubscribe h
  | pushNotification => exact served_pushNotification h
  | openLiveChannel =>
    unfold perform at h
    dsimp only at h
    split at h
    · cases h
    · cases h
      exact .upgrade

end Operations

/-! ## Requests -/

/-- The resource is one that is served without an identity. -/
def Resource.IsPublic (resource : Resource) : Prop := resource = .health ∨ resource = .metrics

/-- What is asked of a resource that is not public is asked in the name of a client. -/
theorem exists_ofClient {resource : Resource} {method : String} {operation : Operation}
    (hprivate : ¬resource.IsPublic) (h : resource.operation? method = some operation) :
    ∃ client, operation = .ofClient client := by
  obtain ⟨before, after, heq, _⟩ := List.lookup_eq_some_iff.mp h
  have hmem : ∃ name, (name, operation) ∈ resource.operations :=
    ⟨_, heq ▸ List.mem_append_right before (List.mem_cons_self ..)⟩
  cases resource with
  | health => exact absurd (.inl rfl) hprivate
  | metrics => exact absurd (.inr rfl) hprivate
  | services | subscriptions | namespaceScope | serviceScope | notifications =>
    simp only [Resource.operations, List.mem_cons, Prod.mk.injEq, List.not_mem_nil, or_false]
      at hmem
    grind

/-- A caller without a valid identity is answered 401 or 403. -/
theorem status_of_callerOf {header : String} {r : Request} {e : ApiError}
    (h : callerOf header r = .error e) : e.status = 401 ∨ e.status = 403 := by
  -- a name that is no identity is refused wherever it comes from
  have hidentity {name : String} (h : identityOf name = .error e) : e.status = 403 := by
    unfold identityOf at h
    cases hname : Urn.ofCommonName (Text.trim name) with
    | ok urn =>
      rw [hname] at h
      cases h
    | error fault =>
      rw [hname] at h
      cases h
      rfl
  unfold callerOf at h
  split at h
  · exact .inr (hidentity h)
  · split at h
    · cases h
      exact .inl rfl
    · split at h
      · cases h
        exact .inr rfl
      · exact .inr (hidentity h)

/-- The response grants what was asked for. -/
def Grants (response : Response) : Prop :=
  (200 ≤ response.status ∧ response.status < 300) ∨ response.status = 101

section Requests

variable {replica : Replica} {r : Request} {canUpgrade : Bool}

/-- A request without a valid identity is refused and changes nothing, unless it asks for what is
public. -/
theorem serve_of_stranger {e : ApiError}
    (hprivate : ∀ resource, Resource.ofPath? r.path = some resource → ¬resource.IsPublic)
    (hcaller : callerOf replica.config.gateway.identityHeader r = .error e) :
    ∃ response, serve replica r canUpgrade = (.answer response, replica) ∧ ¬Grants response := by
  unfold serve
  dsimp only
  -- the answer to `HEAD` lacks the body only
  have hfinish (response : Response) (h : ¬Grants response) :
      ∃ response', (Reply.answer (if r.method = "HEAD" then { response with body := [] }
        else response), replica) = (.answer response', replica) ∧ ¬Grants response' := by
    refine ⟨_, rfl, ?_⟩
    split <;> exact h
  split
  · refine hfinish _ ?_
    split <;> simp [Grants, Response.empty, Response.text]
  next resource hresource =>
    split
    · refine hfinish _ ?_
      split <;> simp [Grants, Response.text]
    next operation hoperation =>
      obtain ⟨client, rfl⟩ := exists_ofClient (hprivate _ hresource) hoperation
      split
      · refine hfinish _ ?_
        simp [Grants, Response.text]
      next =>
        have hrefused : authorize replica (.ofClient client) resource r canUpgrade =
            .error e.response := by
          unfold authorize
          simp only [hcaller]
        simp only [hrefused]
        refine hfinish _ ?_
        have hstatus : e.response.status = e.status := rfl
        unfold Grants
        rw [hstatus]
        rcases status_of_callerOf hcaller with h | h <;> omega

/-- A request of a known caller does nothing but what is done in its name. -/
theorem serve_of_caller {caller : Urn}
    (hprivate : ∀ resource, Resource.ofPath? r.path = some resource → ¬resource.IsPublic)
    (hcaller : callerOf replica.config.gateway.identityHeader r = .ok caller) :
    Served replica caller (serve replica r canUpgrade).1 (serve replica r canUpgrade).2 := by
  unfold serve
  dsimp only
  split
  · exact .read _
  next resource hresource =>
    split
    · exact .read _
    next operation hoperation =>
      -- a resource that is not public has operations of clients only
      obtain ⟨client, rfl⟩ := exists_ofClient (hprivate _ hresource) hoperation
      split
      · exact .read _
      next hlength =>
        have hserved {reply : Reply} {replica' : Replica}
            (h : authorize replica (.ofClient client) resource r canUpgrade =
              .ok (reply, replica')) :
            Served replica caller reply replica' := by
          unfold authorize at h
          simp only [hcaller] at h
          exact served_perform h
        split
        · exact .read _
        next h => exact (hserved h).answer _
        next h => exact hserved h

/-- A request for what is public changes nothing, whoever sends it. -/
theorem serve_of_public {resource : Resource} (hpublic : resource.IsPublic)
    (hpath : Resource.ofPath? r.path = some resource) :
    ∃ response, serve replica r canUpgrade = (.answer response, replica) := by
  unfold serve
  simp only [hpath]
  split
  · exact ⟨_, rfl⟩
  next operation hoperation =>
    split
    · exact ⟨_, rfl⟩
    · -- a public resource has one operation, which only reads
      obtain ⟨before, after, heq, -⟩ := List.lookup_eq_some_iff.mp hoperation
      have hmem : ∃ name, (name, operation) ∈ resource.operations :=
        ⟨_, heq ▸ List.mem_append_right before List.mem_cons_self⟩
      rcases hpublic with rfl | rfl
      all_goals
        obtain ⟨name, hname⟩ := hmem
        obtain ⟨-, rfl⟩ := Prod.mk.inj (List.mem_singleton.mp hname)
        exact ⟨_, rfl⟩

/-- Every request only reads, or is one of a known caller in whose name all is done. -/
theorem serve_cases (replica : Replica) (r : Request) (canUpgrade : Bool) :
    (∃ response, serve replica r canUpgrade = (.answer response, replica)) ∨
      ∃ caller, callerOf replica.config.gateway.identityHeader r = .ok caller ∧
        Served replica caller (serve replica r canUpgrade).1 (serve replica r canUpgrade).2 := by
  by_cases hpublic : ∃ resource, Resource.ofPath? r.path = some resource ∧ resource.IsPublic
  · obtain ⟨resource, hpath, hpublic⟩ := hpublic
    exact .inl (serve_of_public hpublic hpath)
  · have hprivate (resource : Resource) (hpath : Resource.ofPath? r.path = some resource) :
        ¬resource.IsPublic := fun h => hpublic ⟨resource, hpath, h⟩
    cases hcaller : callerOf replica.config.gateway.identityHeader r with
    | error e =>
      obtain ⟨response, hserve, -⟩ := serve_of_stranger hprivate hcaller
      exact .inl ⟨response, hserve⟩
    | ok caller => exact .inr ⟨caller, rfl, serve_of_caller hprivate hcaller⟩

/-! ## Bodies -/

/-- The body of a request without a valid identity is not read. -/
theorem readsBody_of_stranger {config : GatewayConfig} {e : ApiError}
    (h : callerOf config.identityHeader r = .error e) : readsBody config r = false := by
  unfold readsBody
  split
  · rfl
  next resource _ =>
    have hrefused : (callerOf config.identityHeader r).isOk = false := by
      rw [h]
      rfl
    rw [hrefused, Bool.and_false]
    cases resource.operation? r.method with
    | none => rfl
    | some operation =>
      cases operation with
      | health | metrics => rfl
      | ofClient operation => cases operation <;> rfl

/-- Whether an operation on a resource gets as far as to the body of its request: it has one, and
the path names a scope if it should. -/
def ClientOperation.readsBodyAt (operation : ClientOperation) (resource : Resource) : Bool :=
  match operation with
  | .registerService | .pushNotification => true
  | .subscribe | .unsubscribe => resource.scope.isOk
  | _ => false

/-- With a known caller and no length that is too long, the operation decides whether the body of a
request is read. -/
theorem readsBody_of_caller {config : GatewayConfig} {resource : Resource}
    {operation : ClientOperation} {caller : Urn} (hpath : Resource.ofPath? r.path = some resource)
    (hoperation : resource.operation? r.method = some (.ofClient operation))
    (hlength : declaresTooLong config r = false)
    (hcaller : callerOf config.identityHeader r = .ok caller) :
    readsBody config r = operation.readsBodyAt resource := by
  simp only [readsBody, hpath, hoperation, hlength, hcaller]
  cases operation <;> rfl

/-- If a path that should name a scope does not, this is found out before the body is read. -/
private theorem perform_congr_body {operation : ClientOperation} {resource : Resource}
    {caller : Urn} (h : operation.readsBodyAt resource = false) (body : Bytes) :
    perform replica operation resource caller { r with body } canUpgrade =
      perform replica operation resource caller r canUpgrade := by
  cases operation with
  | registerService | pushNotification => cases h
  | subscribe | unsubscribe =>
    cases hscope : resource.scope with
    | error response => simp only [perform, subscribe, unsubscribe, hscope]; rfl
    | ok scope =>
      rw [ClientOperation.readsBodyAt, hscope] at h
      cases h
  | listServices | deregisterService | listSubscriptions | removeAllSubscriptions => rfl
  | openLiveChannel => rfl

/-- Only a body that is read bears on what a request does. -/
theorem serve_congr_body (h : readsBody replica.config.gateway r = false) (body : Bytes) :
    serve replica { r with body } canUpgrade = serve replica r canUpgrade := by
  have hlength : declaresTooLong replica.config.gateway { r with body } =
    declaresTooLong replica.config.gateway r := rfl
  have hcaller : callerOf replica.config.gateway.identityHeader { r with body } =
    callerOf replica.config.gateway.identityHeader r := rfl
  unfold serve
  dsimp only
  split
  · rfl
  next resource hpath =>
    split
    · rfl
    next operation hoperation =>
      rw [hlength]
      split
      · rfl
      next hshort =>
        -- the request has got as far as to its operation
        suffices hsame : authorize replica operation resource { r with body } canUpgrade =
            authorize replica operation resource r canUpgrade by rw [hsame]
        cases operation with
        | health | metrics => rfl
        | ofClient operation =>
          simp only [authorize, hcaller]
          cases hknown : callerOf replica.config.gateway.identityHeader r with
          | error e => rfl
          | ok caller =>
            rw [readsBody_of_caller hpath hoperation (Bool.eq_false_of_not_eq_true hshort)
              hknown] at h
            exact perform_congr_body h body

end Requests

end Gateway

end ServiceBroker
