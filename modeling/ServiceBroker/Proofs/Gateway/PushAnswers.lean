import ServiceBroker.Proofs.Cluster.Settling
import ServiceBroker.Proofs.Delivery.Reports
import ServiceBroker.Proofs.Gateway.Requests

/-!
# Answers to pushed notifications

A push is answered when its delivery has a report, and given up when its request has come to its
end.

## Main definitions

* `Gateway.AnswersPush`: how a push is to be answered, and what is to be counted;
* `Gateway.IsPush`: which requests push a notification.

## Main results

* `Gateway.serve_of_isPush`: what a push does to a replica is told by the report, if there is one at
  once;
* `Cluster.answersPush_serve`: a push is answered and counted as promised whenever its body and its
  single pushes take less time than its request may take;
* `Cluster.serveBefore_of_waits`: it is neither when a single push of it waits until its request is
  given up and nobody reads.
-/

namespace ServiceBroker

open Http (Request Response)

/-! ## What is promised -/

namespace Gateway

/-- How a notification that `k` consumers asked for is to be answered, and what is to be counted
meanwhile. -/
structure AnswersPush (k : Nat) (response : Response) (m m' : Metrics) : Prop where
  /-- If nobody asked for it, its producer is told so. -/
  nobody : k = 0 → response = .empty 205 ∧
    m'.withoutSubscribers = m.withoutSubscribers + 1 ∧ m'.dispatched = m.dispatched
  /-- Otherwise it is told how many were reached and how many were not. -/
  somebody : k ≠ 0 →
    (∃ delivered failed : Nat, delivered + failed = k ∧ response = .json 200 (.object [
      ("delivered", .integer delivered), ("failed", .integer failed)])) ∧
    m'.dispatched = m.dispatched + 1 ∧ m'.withoutSubscribers = m.withoutSubscribers

/-- The request of a known caller to push a notification, with a body that is not too long. -/
structure IsPush (config : GatewayConfig) (r : Request) (caller : Urn)
    (notification : Notification) : Prop where
  path : Resource.ofPath? r.path = some .notifications
  method : r.method = "POST"
  caller : callerOf config.identityHeader r = .ok caller
  length : declaresTooLong config r = false
  body : decodeBody config Notification.record.read r = .ok notification

/-- The body of a push is read. -/
private theorem readsBody_of_isPush {config : GatewayConfig} {r : Request} {caller : Urn}
    {notification : Notification} (h : IsPush config r caller notification) :
    readsBody config r = true := by
  have hoperation : Resource.notifications.operation? r.method =
      some (.ofClient .pushNotification) := by
    rw [h.method]
    decide
  exact readsBody_of_caller h.path hoperation h.length h.caller

/-- A report is answered and counted as promised. -/
private theorem answersPush_of_report {d : Dispatch} {report : DeliveryReport}
    (h : d.report? = some report) (m : Metrics) :
    AnswersPush d.pushes.length (reportResponse report) m (m.countReport report) := by
  have houtcome := Dispatch.outcome_of_report h
  have hmatched := Dispatch.matched_of_report h
  constructor
  · intro hnone
    rw [if_pos (List.length_eq_zero_iff.mp hnone)] at houtcome
    rw [m.dispatched_countReport, m.withoutSubscribers_countReport, houtcome]
    exact ⟨by rw [reportResponse, houtcome], rfl, rfl⟩
  · intro hsome
    rw [if_neg fun hnil => hsome (List.length_eq_zero_iff.mpr hnil)] at houtcome
    rw [m.dispatched_countReport, m.withoutSubscribers_countReport, houtcome]
    exact ⟨⟨_, _, hmatched, by rw [reportResponse, houtcome]⟩, rfl, rfl⟩

theorem AnswersPush.of_same {k : Nat} {response : Response} {m m' m'' : Metrics}
    (h : AnswersPush k response m' m'') (hsame : m.SameNotifications m') :
    AnswersPush k response m m'' := by
  constructor
  · intro hnone
    rw [← hsame.dispatched, ← hsame.withoutSubscribers]
    exact h.nobody hnone
  · intro hsome
    rw [← hsame.dispatched, ← hsame.withoutSubscribers]
    exact h.somebody hsome

/-! ## Serving -/

section Serving

variable {replica : Replica} {r : Request} {caller : Urn} {notification : Notification}

/-- A request gets the reply of its operation. If that refuses it, it changes nothing. -/
theorem serve_of_authorize {resource : Resource} {operation : Operation}
    {result : Except Response (Reply × Replica)} {canUpgrade : Bool}
    (hpath : Resource.ofPath? r.path = some resource)
    (hoperation : resource.operation? r.method = some operation) (hmethod : r.method ≠ "HEAD")
    (hlength : declaresTooLong replica.config.gateway r = false)
    (h : authorize replica operation resource r canUpgrade = result) :
    serve replica r canUpgrade = match result with
      | .ok served => served
      | .error response => (.answer response, replica) := by
  unfold serve
  simp only [hpath, hoperation, hlength, Bool.false_eq_true, if_false, h, hmethod]
  cases result with
  | error response => rfl
  | ok served =>
    -- only answers are looked at again, for the sake of `HEAD`
    obtain ⟨reply, after⟩ := served
    cases reply <;> rfl

/-- What becomes of a notification is told by the report, if there is one at once. -/
theorem pushNotification_of_body
    (hbody : decodeBody replica.config.gateway Notification.record.read r = .ok notification) :
    let started := Dispatch.start replica.config.delivery replica.index .live replica.now caller
      notification replica.channels
    pushNotification replica caller r = .ok (match started.1.report? with
      | some report => (.answer (reportResponse report),
        { replica with channels := started.2, metrics := replica.metrics.countReport report })
      | none => (.delivering started.1, { replica with channels := started.2 })) := by
  intro started
  -- once the body is read, all is told by the report
  have hread : pushNotification replica caller r = match started.1.report? with
      | some report => .ok (
        .answer (finishDelivery { replica with channels := started.2 } report).1,
        (finishDelivery { replica with channels := started.2 } report).2)
      | none => .ok (.delivering started.1, { replica with channels := started.2 }) := by
    rw [pushNotification, hbody]
    rfl
  rw [hread]
  cases started.1.report? <;> rfl

/-- A push is answered at once if all single pushes have ended, and waited for otherwise. -/
theorem serve_of_isPush (h : IsPush replica.config.gateway r caller notification)
    (canUpgrade : Bool) :
    let started := Dispatch.start replica.config.delivery replica.index .live replica.now caller
      notification replica.channels
    serve replica r canUpgrade = match started.1.report? with
      | some report => (.answer (reportResponse report),
        { replica with channels := started.2, metrics := replica.metrics.countReport report })
      | none => (.delivering started.1, { replica with channels := started.2 }) := by
  intro started
  have hoperation : Resource.notifications.operation? r.method =
      some (.ofClient .pushNotification) := by
    rw [h.method]
    decide
  have hmethod : r.method ≠ "HEAD" := by
    rw [h.method]
    decide
  have hperformed : authorize replica (.ofClient .pushNotification) .notifications r canUpgrade =
      pushNotification replica caller r := by
    simp only [authorize, h.caller, perform]
  rw [pushNotification_of_body h.body] at hperformed
  exact serve_of_authorize h.path hoperation hmethod h.length hperformed

end Serving

end Gateway

/-! ## Waiting -/

namespace Cluster

open Gateway (AnswersPush IsPush)

variable {c : Cluster} {i : Nat}

@[simp]
theorem deadline_look (c : Cluster) (i : Nat) (d : Dispatch) :
    (c.look i d).1.deadline = d.deadline :=
  d.deadline_settle ..

theorem length_look (c : Cluster) (i : Nat) (d : Dispatch) :
    (c.look i d).1.pushes.length = d.pushes.length :=
  d.length_settle ..

/-- There is a report as soon as the time of the delivery is over. -/
private theorem isSome_report_look {d : Dispatch} (h : d.deadline ≤ c.now) (i : Nat) :
    ((c.look i d).1.report?).isSome := by
  rw [← (settled_settle c).now] at h
  exact d.isSome_report_settle h _

/-- Without sessions only the loops go on. -/
theorem settle_of_sessions (h : c.sessions = ∅) :
    c.settle = { c with group := c.group.settle } := by
  rw [settle, h]
  rfl

/-- A push waits on while nobody reads the channel that it waits on and its time is not over. -/
private theorem waits_look {d : Dispatch} {consumer : Urn} {ticket : Ticket}
    (hsessions : c.sessions = ∅)
    (hnow : c.now < d.deadline) (hended : (c.node i).channels.ended[ticket.number]? = none)
    (h : (consumer, PushState.waits ticket) ∈ d.pushes) :
    (consumer, PushState.waits ticket) ∈ (c.look i d).1.pushes ∧
      ((c.look i d).2.node i).channels.ended[ticket.number]? = none ∧
      (c.look i d).2.sessions = ∅ := by
  have hloops := settle_of_sessions hsessions
  have hnode : c.settle.node i = c.node i := by rw [hloops]; rfl
  have hkept : c.settle.sessions = ∅ := by rw [hloops, ← hsessions]
  rw [← (settled_settle c).now] at hnow
  rw [← hnode] at hended
  obtain ⟨hwaits, hnone⟩ := Dispatch.waits_settle hnow hended h
  refine ⟨hwaits, ?_, by rw [look, sessions_settleChannels, hkept]⟩
  rw [look, node_settleChannels]
  -- the channels are put back as they were left
  rcases c.settle.node_setChannels i (d.settle c.settle.now (c.settle.node i).channels).2 i
    with hsame | ⟨-, hset⟩
  · rw [hsame, hended]
  · rw [hset]
    exact hnone

/-- A delivery that is over before its request is answered with its report. The induction is on the
bound for the times at which something happens; the clock goes on between them. -/
private theorem answersPush_awaitDelivery {deadline steps : Nat} {d : Dispatch}
    (hsteps : deadline ≤ c.now + steps) (hnow : c.now < deadline) (hd : d.deadline < deadline) :
    AnswersPush d.pushes.length (awaitDelivery i deadline steps d c).1 c.group.metrics
      (awaitDelivery i deadline steps d c).2.group.metrics := by
  induction steps generalizing d c with
  | zero => omega
  | succ steps ih =>
    have hsettled := settled_look c i d
    have hreported (h : d.deadline ≤ c.now) := isSome_report_look h i
    rw [awaitDelivery_succ, if_neg (Nat.not_le.mpr hnow), ← length_look c i d]
    cases hreport : (c.look i d).1.report? with
    | some report =>
      exact (Gateway.answersPush_of_report hreport _).of_same hsettled.metrics
    | none =>
      -- the delivery would have a report if its time were up
      have hearly : c.now < d.deadline := by
        by_contra hlate
        have hreported := hreported (Nat.not_lt.mp hlate)
        rw [hreport] at hreported
        cases hreported
      -- the clock goes on, but not beyond the end of the delivery
      obtain ⟨time, htime, hle⟩ := Dispatch.exists_nextTime_le hreport
      rw [deadline_look] at hle
      have hkept := hsettled.now
      have hbefore : (c.look i d).2.now < deadline := by omega
      obtain ⟨hgoes, -⟩ := now_advanceWithin hbefore
        ((c.look i d).1.nextTime?.toList ++ (c.look i d).2.nextTime?.toList)
      have hmem : time ∈ (c.look i d).1.nextTime?.toList := by
        rw [htime]
        exact List.mem_singleton.mpr rfl
      have hends := now_advanceWithin_le (c.look i d).2 deadline (List.mem_append_left
        (c.look i d).2.nextTime?.toList hmem)
      have hd' : (c.look i d).1.deadline < deadline := by rwa [deadline_look]
      exact (ih (by omega) (by omega) hd').of_same hsettled.metrics

/-- A request is given up, and nothing is counted, when a push waits until the end of the request
and nobody reads the channel that it waits on. -/
private theorem awaitDelivery_of_waits {deadline steps : Nat} {d : Dispatch} {consumer : Urn}
    {ticket : Ticket} (hsessions : c.sessions = ∅) (hd : deadline ≤ d.deadline)
    (hended : (c.node i).channels.ended[ticket.number]? = none)
    (hwaits : (consumer, PushState.waits ticket) ∈ d.pushes) :
    (awaitDelivery i deadline steps d c).1 = .empty 408 ∧
      c.group.metrics.SameNotifications (awaitDelivery i deadline steps d c).2.group.metrics := by
  induction steps generalizing d c with
  | zero => exact ⟨rfl, (settled_settleChannels (d.trace_cancel _)).metrics⟩
  | succ steps ih =>
    rw [awaitDelivery_succ]
    split
    · exact ⟨rfl, (settled_settleChannels (d.trace_cancel _)).metrics⟩
    next hnot =>
      -- no session goes on that could read, so that the push still waits
      have hsettled := settled_look c i d
      have hnow : c.now < d.deadline := by omega
      obtain ⟨hwaits', hended', hsessions'⟩ := waits_look hsessions hnow hended hwaits
      rw [Dispatch.report_eq_none hwaits']
      rw [← deadline_look c i d] at hd
      obtain ⟨hanswer, hmetrics⟩ := ih (c := (c.look i d).2.advanceWithin _ _) hsessions' hd hended'
        hwaits'
      exact ⟨hanswer, hsettled.metrics.trans hmetrics⟩

theorem complete_delivering (c : Cluster) (i deadline : Nat) (d : Dispatch) :
    c.complete i deadline (.delivering d) =
      (awaitDelivery i deadline (deadline - c.now) d c).map .error id := rfl

/-! ## Pushes at a cluster -/

/-- The delivery that a push starts at a replica, with the live channels then. -/
def started (c : Cluster) (i : Nat) (caller : Urn) (notification : Notification) :
    Dispatch × LiveChannels :=
  Dispatch.start (c.node i).config.delivery (c.node i).index .live c.now caller notification
    (c.node i).channels

/-- A replica answers a push with a response, and counts it, as is promised. -/
def AnswersPush (c : Cluster) (i : Nat) (r : Request) (canUpgrade : Bool) (caller : Urn)
    (notification : Notification) : Prop :=
  ∃ response, (c.serve i r canUpgrade).1 = .error response ∧
    Gateway.AnswersPush
      ((c.node i).index.subscribers caller notification.descriptor.key).length response
      c.group.metrics (c.serve i r canUpgrade).2.group.metrics

section Serving

variable {r : Request} {caller : Urn} {notification : Notification}

theorem length_started (c : Cluster) (i : Nat) (caller : Urn) (notification : Notification) :
    (c.started i caller notification).1.pushes.length =
      ((c.node i).index.subscribers caller notification.descriptor.key).length :=
  Dispatch.length_start ..

private theorem deadline_started (c : Cluster) (i : Nat) (caller : Urn)
    (notification : Notification) :
    (c.started i caller notification).1.deadline =
      c.now + (c.node i).config.delivery.sendTimeout.millisUp := rfl

/-- The cluster in which a push has been started. -/
def afterStart (c : Cluster) (i : Nat) (caller : Urn) (notification : Notification) : Cluster :=
  c.setReplica i { c.replica i with channels := (c.started i caller notification).2 }

/-- What a push does to its replica before anything is waited for. -/
theorem serve_replica (h : IsPush (c.node i).config.gateway r caller notification)
    (canUpgrade : Bool) :
    Gateway.serve (c.replica i) r canUpgrade =
      match (c.started i caller notification).1.report? with
      | some report => (.answer (Gateway.reportResponse report),
        { c.replica i with
          channels := (c.started i caller notification).2
          metrics := c.group.metrics.countReport report })
      | none => (.delivering (c.started i caller notification).1,
        { c.replica i with channels := (c.started i caller notification).2 }) :=
  Gateway.serve_of_isPush h canUpgrade

/-- A push is answered at once if all of its single pushes end at once. -/
theorem serveBefore_of_report {report : DeliveryReport}
    (h : IsPush (c.node i).config.gateway r caller notification)
    (hreport : (c.started i caller notification).1.report? = some report) (deadline : Nat)
    (canUpgrade : Bool) :
    c.serveBefore deadline i r canUpgrade = (.error (Gateway.reportResponse report),
      c.setReplica i { c.replica i with
        channels := (c.started i caller notification).2
        metrics := c.group.metrics.countReport report }) := by
  rw [serveBefore, serve_replica h, hreport]
  rfl

/-- Otherwise it is waited for. -/
theorem serveBefore_of_report_eq_none (h : IsPush (c.node i).config.gateway r caller notification)
    (hreport : (c.started i caller notification).1.report? = none) (deadline : Nat)
    (canUpgrade : Bool) :
    c.serveBefore deadline i r canUpgrade =
      (awaitDelivery i deadline (deadline - c.now) (c.started i caller notification).1
        (c.afterStart i caller notification)).map .error id := by
  rw [serveBefore, serve_replica h, hreport]
  rfl

/-- A push is answered and counted if its single pushes are given up before its request is. -/
private theorem answersPush_serveBefore {deadline : Nat}
    (h : IsPush (c.node i).config.gateway r caller notification)
    (hdeadline : c.now + (c.node i).config.delivery.sendTimeout.millisUp < deadline)
    (canUpgrade : Bool) :
    ∃ response, (c.serveBefore deadline i r canUpgrade).1 = .error response ∧
      Gateway.AnswersPush
        ((c.node i).index.subscribers caller notification.descriptor.key).length response
        c.group.metrics (c.serveBefore deadline i r canUpgrade).2.group.metrics := by
  rw [← length_started]
  cases hreport : (c.started i caller notification).1.report? with
  | some report =>
    rw [serveBefore_of_report h hreport deadline canUpgrade]
    exact ⟨_, rfl, Gateway.answersPush_of_report hreport c.group.metrics⟩
  | none =>
    rw [serveBefore_of_report_eq_none h hreport deadline canUpgrade, Prod.map_fst, Prod.map_snd, id]
    have hstarted := deadline_started c i caller notification
    have hanswers : Gateway.AnswersPush _ _ (c.afterStart i caller notification).group.metrics _ :=
      answersPush_awaitDelivery (i := i) (d := (c.started i caller notification).1)
        (c := c.afterStart i caller notification)
        (show deadline ≤ c.now + (deadline - c.now) by omega) (show c.now < deadline by omega)
        (by omega)
    exact ⟨_, rfl, hanswers⟩

/-- A push is given up, and not counted, when a single push of it waits until its request is given
up, and nobody reads the channel that it waits on. -/
theorem serveBefore_of_waits {deadline : Nat} {consumer : Urn} {ticket : Ticket}
    (h : IsPush (c.node i).config.gateway r caller notification)
    (hdeadline : deadline ≤ c.now + (c.node i).config.delivery.sendTimeout.millisUp)
    (hsessions : c.sessions = ∅) (hended : (c.node i).channels.ended[ticket.number]? = none)
    (hwaits : (consumer, PushState.waits ticket) ∈ (c.started i caller notification).1.pushes)
    (canUpgrade : Bool) :
    (c.serveBefore deadline i r canUpgrade).1 = .error (.empty 408) ∧
      c.group.metrics.SameNotifications
        (c.serveBefore deadline i r canUpgrade).2.group.metrics := by
  have hreport := Dispatch.report_eq_none hwaits
  -- starting a push ends none that waits
  have hnobody : ((c.afterStart i caller notification).node i).channels.ended[ticket.number]? =
      none := by
    rcases node_setReplica c i { c.replica i with channels := (c.started i caller notification).2 }
      i with hsame | ⟨-, hset⟩
    · rw [afterStart, hsame, hended]
    · have hstart : (c.started i caller notification).2.ended = (c.node i).channels.ended :=
        Dispatch.ended_start ..
      rw [afterStart, hset]
      dsimp only
      rw [hstart, hended]
  have hgiven : (awaitDelivery i deadline (deadline - c.now) (c.started i caller notification).1
      (c.afterStart i caller notification)).1 = .empty 408 ∧ _ :=
    awaitDelivery_of_waits hsessions hdeadline hnobody hwaits
  obtain ⟨hanswer, hmetrics⟩ := hgiven
  rw [serveBefore_of_report_eq_none h hreport deadline canUpgrade, Prod.map_fst, Prod.map_snd, id]
  exact ⟨congrArg Except.error hanswer, hmetrics⟩

/-- The request of a push is there when its body is. -/
theorem arrival_of_isPush (h : IsPush (c.node i).config.gateway r caller notification) :
    c.arrival i r = c.now + r.bodyDelay :=
  if_pos (Gateway.readsBody_of_isPush h)

/-- A push is answered and counted whenever its body and then its single pushes take less time than
its request may take, however full or closed the channels of its consumers are. -/
theorem answersPush_serve (h : IsPush (c.node i).config.gateway r caller notification)
    (htimeouts : r.bodyDelay + (c.node i).config.delivery.sendTimeout.millisUp <
      (c.node i).config.gateway.requestTimeout.millisUp) (canUpgrade : Bool) :
    c.AnswersPush i r canUpgrade caller notification := by
  have harrival := arrival_of_isPush h
  have hdeadline : c.requestDeadline i =
      c.now + (c.node i).config.gateway.requestTimeout.millisUp := rfl
  have hnow : (c.passTo (c.arrival i r)).now = c.arrival i r := now_passTo (by omega)
  -- while the body comes, nobody subscribes and nothing is counted
  obtain ⟨hundisturbed, hsame⟩ := c.undisturbed_passTo (c.arrival i r)
  have hearly : (c.passTo (c.arrival i r)).now +
      ((c.passTo (c.arrival i r)).node i).config.delivery.sendTimeout.millisUp <
        c.requestDeadline i := by
    rw [hundisturbed.config]
    omega
  rw [AnswersPush, serve_of_early (by omega), ← hundisturbed.index]
  rw [← hundisturbed.config] at h
  obtain ⟨response, hresponse, hanswers⟩ := answersPush_serveBefore h hearly canUpgrade
  exact ⟨response, hresponse, hanswers.of_same hsame⟩

end Serving

end Cluster

end ServiceBroker
