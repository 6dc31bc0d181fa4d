import ServiceBroker.Proofs.Cluster.ReachableTraffic
import ServiceBroker.Proofs.Config.Validation
import ServiceBroker.Proofs.Gateway.SubscriptionAnswers

/-!
# Requests that end before their pushes

Two times bound a push: the delivery gives a single push up after `send_timeout`, and the gateway
gives the request up after `request_timeout`. Nothing relates the two settings. The second time
starts first, since a request is timed before its body is there. If it is not the longer one, a
request ends while a push of it still waits; then its producer is not told what became of the
notification, and the notification is not counted.

## Main definitions

* `Cluster.AnswersEveryPush`: with some settings, every push whose body comes soon enough is
  answered and counted.

## Main results

* `Cluster.answersEveryPush_iff`: this is so exactly if the body and single pushes take less time
  than requests may take.
-/

namespace ServiceBroker

open Http (Request)
open Gateway (IsPush Resource)

theorem BrokerConfig.maxDescriptorsPerConsumer_ne_zero {config : BrokerConfig}
    (h : config.validate = .ok ()) : config.subscriptions.maxDescriptorsPerConsumer ≠ 0 :=
  (validate_eq_ok_iff.mp h).2.2.1

theorem BrokerConfig.requestTimeout_pos {config : BrokerConfig} (h : config.validate = .ok ()) :
    0 < config.gateway.requestTimeout.millisUp := by
  obtain ⟨-, -, -, -, htimeout, -⟩ :=
    GatewayConfig.validate_eq_ok_iff.mp (validate_eq_ok_iff.mp h).1
  exact Duration.millisUp_pos htimeout

namespace Cluster

/-! ## What is promised -/

/-- With these settings, a replica answers and counts every push whose body comes within some
milliseconds after its head, whatever has happened before. -/
def AnswersEveryPush (config : BrokerConfig) (delay : Nat) : Prop :=
  ∀ (c : Cluster) (i : Nat), c.Reachable → i < c.nodes.size → (c.node i).config = config →
    ∀ (r : Request) (caller : Urn) (notification : Notification) (canUpgrade : Bool),
      r.bodyDelay ≤ delay → IsPush config.gateway r caller notification →
        c.AnswersPush i r canUpgrade caller notification

/-! ## A client that reads nothing

One client subscribes to its own notifications, connects, and pushes without ever reading.
-/

/-- The client. -/
def echo : Urn := ⟨"a", "b"⟩

/-- Its request to subscribe. -/
def echoSubscribes : Request where
  method := "POST"
  path := Bytes.ofString "/subscriptions/a"
  peerName := some "a.b"
  body := Bytes.ofString "[[\"n\",\"\"]]"

/-- Its notification. -/
def echoed : Notification := { name := "n", version := "" }

/-- Its request to push the notification, with a body that takes some milliseconds. -/
def echoNotifies (delay : Nat) : Request where
  method := "POST"
  path := Bytes.ofString "/notifications"
  peerName := some "a.b"
  body := Bytes.ofString "[\"n\",\"\"]"
  bodyDelay := delay

/-- A body of no declared length is read if it is short enough. -/
theorem decodeBody_of_le {α : Type} {config : GatewayConfig} {reader : Json.Reader α} {r : Request}
    {a : α} (hdeclared : Gateway.declaredLength? r = none)
    (hle : r.body.length ≤ config.maxBodySize)
    (h : Json.readBytes reader r.body = .ok a) :
    Gateway.decodeBody config reader r = .ok a := by
  have hbody : Gateway.readBody config r = .ok r.body := by
    rw [Gateway.readBody, hdeclared]
    exact if_neg (Nat.not_lt.mpr hle)
  exact Gateway.decodeBody_of_readBytes hbody h

theorem isPush_echoNotifies {config : GatewayConfig} (h : 10 ≤ config.maxBodySize) (delay : Nat) :
    IsPush config (echoNotifies delay) echo echoed := by
  have hread : Json.readBytes Notification.record.read (echoNotifies delay).body = .ok echoed := rfl
  have hlength : (echoNotifies delay).body.length ≤ 10 := by
    show (echoNotifies 0).body.length ≤ 10
    decide
  exact ⟨rfl, rfl, rfl, rfl, decodeBody_of_le rfl (hlength.trans h) hread⟩

/-- Under the smallest limit the client may subscribe. -/
private theorem exists_add_echo_one : ∃ outcome index, (SubscriptionIndex.empty 1).add echo
      (.namespaceWide "a") [⟨"n", "", ""⟩] = .ok (outcome, index) ∧
    index.subscribers echo echoed.descriptor.key = [echo] := by
  refine ⟨_, _, rfl, ?_⟩
  decide +kernel

private theorem exists_add_echo {limit : Nat} (h : limit ≠ 0) :
    ∃ outcome index, (SubscriptionIndex.empty limit).add echo (.namespaceWide "a")
        [⟨"n", "", ""⟩] = .ok (outcome, index) ∧
      index.subscribers echo echoed.descriptor.key = [echo] := by
  obtain ⟨outcome, index, hadd, hsubscribers⟩ := exists_add_echo_one
  have hlimit : (SubscriptionIndex.empty 1).limit ≤ limit := Nat.pos_of_ne_zero h
  have hadd' := SubscriptionIndex.add_of_limit_le hlimit hadd
  exact ⟨outcome, _, hadd', hsubscribers⟩

/-- The client may subscribe. -/
private theorem serve_echoSubscribes {replica : Replica} {outcome : SubscribeOutcome}
    {index : SubscriptionIndex} (hbody : 10 ≤ replica.config.gateway.maxBodySize)
    (h : replica.index.add echo (.namespaceWide "a") [⟨"n", "", ""⟩] = .ok (outcome, index)) :
    Gateway.serve replica echoSubscribes false =
      (.answer (Gateway.subscribeResponse outcome), { replica with index }) := by
  have hread : Json.readBytes (Json.readList Descriptor.record.read) echoSubscribes.body =
      .ok [⟨"n", "", ""⟩] := rfl
  have hlength : echoSubscribes.body.length ≤ 10 := by decide
  have hscoped : Gateway.IsScoped replica.config.gateway "POST" echoSubscribes echo
      (.namespaceWide "a") [⟨"n", "", ""⟩] := {
    path := ⟨.namespaceScope (Bytes.ofString "a"), rfl, rfl⟩
    method := rfl
    caller := rfl
    length := rfl
    body := decodeBody_of_le rfl (hlength.trans hbody) hread }
  rw [Gateway.serve_subscribe hscoped, h]

/-- A replica with one client, whose channel holds `k` frames that were not read. -/
structure Unread (config : BrokerConfig) (k : Nat) (c : Cluster) : Prop where
  size : 0 < c.nodes.size
  configured : (c.node 0).config = config
  subscribers : (c.node 0).index.subscribers echo echoed.descriptor.key = [echo]
  sessions : c.sessions = ∅
  capacity : (c.node 0).channels.capacity = max config.gateway.liveChannelBuffer 1
  ended : (c.node 0).channels.ended = ∅
  current : (c.node 0).channels.current[echo]? = some 0
  channel : ∃ channel, (c.node 0).channels.channels[0]? = some channel ∧ channel.waiting = [] ∧
    channel.buffer.length = k

section Unread

variable {config : BrokerConfig} {c : Cluster} {k : Nat}

/-- The client subscribes at a replica that has just started. -/
private theorem exists_subscribed (hvalid : config.validate = .ok ())
    (hbody : 10 ≤ config.gateway.maxBodySize) :
    ∃ c : Cluster, c.Reachable ∧ 0 < c.nodes.size ∧ (c.node 0).config = config ∧
      (c.node 0).index.subscribers echo echoed.descriptor.key = [echo] ∧ c.sessions = ∅ ∧
      (c.node 0).channels = .ofCapacity config.gateway.liveChannelBuffer := by
  obtain ⟨c, hadd, hsize, hnode, hsessions⟩ : ∃ c, (Cluster.empty none false).add config = .ok c ∧
      c.nodes.size = 1 ∧ c.node 0 = .ofConfig config ∧ c.sessions = ∅ := by
    rw [add, hvalid]
    exact ⟨_, rfl, rfl, rfl, rfl⟩
  have hpos : 0 < c.nodes.size := by omega
  have hconfig : (c.node 0).config = config := by rw [hnode]; rfl
  have hchannels : (c.node 0).channels = .ofCapacity config.gateway.liveChannelBuffer := by
    rw [hnode]
    rfl
  -- settings that are not refused leave room for one descriptor
  obtain ⟨outcome, index, hindex, hsubscribers⟩ :=
    exists_add_echo (BrokerConfig.maxDescriptorsPerConsumer_ne_zero hvalid)
  have hreplica : Gateway.serve (c.replica 0) echoSubscribes false =
      (.answer (Gateway.subscribeResponse outcome), { c.replica 0 with index }) := by
    refine serve_echoSubscribes (by rw [replica, hconfig]; exact hbody) ?_
    rw [replica, hnode]
    exact hindex
  have hserve : (c.serve 0 echoSubscribes false).2 =
      c.setReplica 0 { c.replica 0 with index } := by
    rw [serve_of_prompt rfl (hconfig.symm ▸ BrokerConfig.requestTimeout_pos hvalid), serveBefore,
      hreplica]
    rfl
  have hreachable := (Reachable.add (.empty none false) hadd).serve echoSubscribes false hpos
  rw [hserve] at hreachable
  refine ⟨_, hreachable, ?_, ?_, ?_, hsessions, ?_⟩
  · rw [size_setReplica]
    exact hpos
  all_goals
    rw [node_setReplica_self hpos]
    dsimp only
  · exact hconfig
  · exact hsubscribers
  · exact hchannels

/-- Then it connects. -/
private theorem exists_unread_zero (hvalid : config.validate = .ok ())
    (hbody : 10 ≤ config.gateway.maxBodySize)
    (hbuffer : config.gateway.liveChannelBuffer ≤ LiveChannels.largestCapacity) :
    ∃ c : Cluster, c.Reachable ∧ Unread config 0 c := by
  obtain ⟨c, hreachable, hsize, hconfig, hsubscribers, hsessions, hchannels⟩ :=
    exists_subscribed hvalid hbody
  obtain ⟨channels, hconnect⟩ : ∃ channels,
      (LiveChannels.ofCapacity config.gateway.liveChannelBuffer).connect echo =
        some (0, channels) := by
    -- a larger capacity would make the process stop instead
    have hcapacity : ¬LiveChannels.largestCapacity < max config.gateway.liveChannelBuffer 1 := by
      have hone : 1 ≤ LiveChannels.largestCapacity := by decide
      omega
    exact ⟨_, if_neg hcapacity⟩
  have hconnected : c.connect 0 echo = some (0, (c.setChannels 0 channels).gaugeLive 0) := by
    rw [connect, hchannels, hconnect]
    rfl
  obtain ⟨-, hopened⟩ := LiveChannels.connect_eq_some hconnect
  have hnode : ((c.setChannels 0 channels).gaugeLive 0).node 0 = { c.node 0 with channels } :=
    node_setChannels_self hsize channels
  refine ⟨_, hreachable.connect hsize hconnected, ?size, ?configured, ?subscribers, hsessions,
    ?capacity, ?ended, ?current, ?channel⟩
  case size => exact hsize.trans_eq (size_setChannels ..).symm
  all_goals
    rw [hnode]
    dsimp only
  case configured => exact hconfig
  case subscribers => exact hsubscribers
  all_goals rw [hopened]
  case capacity | ended => rfl
  case current => exact Std.ExtTreeMap.getElem?_insert_self
  case channel => exact ⟨_, Std.ExtTreeMap.getElem?_insert_self, rfl, rfl⟩

private theorem Unread.isPush (h : Unread config k c) (hbody : 10 ≤ config.gateway.maxBodySize)
    (delay : Nat) : IsPush (c.node 0).config.gateway (echoNotifies delay) echo echoed := by
  rw [h.configured]
  exact isPush_echoNotifies hbody delay

/-- Time may pass, since there is no session that could read. -/
theorem Unread.passTo (h : Unread config k c) (time : Nat) : Unread config k (c.passTo time) := by
  obtain ⟨hnodes, hsessions⟩ : (c.passTo time).nodes = c.nodes ∧ (c.passTo time).sessions = ∅ := by
    refine passTo_induct (P := fun c' => c'.nodes = c.nodes ∧ c'.sessions = ∅)
      (fun c' h => ?_) (fun _ _ h => h) ⟨rfl, h.sessions⟩ time
    rw [settle_of_sessions h.2]
    exact h
  have hnode : (c.passTo time).node 0 = c.node 0 := by rw [node, hnodes, node]
  refine ⟨hnodes ▸ h.size, ?_, ?_, hsessions, ?_, ?_, ?_, ?_⟩ <;> rw [hnode]
  exacts [h.configured, h.subscribers, h.capacity, h.ended, h.current, h.channel]

/-- All that a push does is to push one frame to the channel. -/
private theorem Unread.exists_started (h : Unread config k c) :
    ∃ frame, c.started 0 echo echoed =
      (⟨c.now + (c.node 0).config.delivery.sendTimeout.millisUp,
        [(echo, .ofStart ((c.node 0).channels.pushTo 0 frame).1)]⟩,
        ((c.node 0).channels.pushTo 0 frame).2) :=
  Dispatch.start_of_subscribers h.subscribers h.current c.now

/-- While there is room, a push adds a frame. -/
private theorem Unread.exists_succ (hreachable : c.Reachable) (h : Unread config k c)
    (hvalid : config.validate = .ok ()) (hbody : 10 ≤ config.gateway.maxBodySize)
    (hk : k < max config.gateway.liveChannelBuffer 1) :
    ∃ c' : Cluster, c'.Reachable ∧ Unread config (k + 1) c' := by
  obtain ⟨channel, hchannel, hwaiting, hlength⟩ := h.channel
  obtain ⟨frame, hstarted⟩ := h.exists_started
  have hroom : channel.HasRoom (c.node 0).channels.capacity := by
    rw [h.capacity]
    exact ⟨hwaiting, hlength ▸ hk⟩
  have hended : ((c.node 0).channels.pushTo 0 frame).1 = .ended none := by
    rw [LiveChannels.start_pushTo, hchannel]
    exact if_pos hroom
  rw [hended] at hstarted
  have hreport : (c.started 0 echo echoed).1.report? = some ⟨.dispatched, [echo], []⟩ := by
    rw [hstarted]
    rfl
  have htimeout : 0 < (c.node 0).config.gateway.requestTimeout.millisUp :=
    h.configured.symm ▸ BrokerConfig.requestTimeout_pos hvalid
  have hserved := hreachable.serve (echoNotifies 0) false h.size
  rw [serve_of_prompt rfl htimeout, serveBefore_of_report (h.isPush hbody 0) hreport,
    hstarted] at hserved
  have hchannel' : ((c.node 0).channels.pushTo 0 frame).2.channels[0]? =
      some { channel with buffer := channel.buffer ++ [frame] } := by
    rw [LiveChannels.channels_pushTo, if_pos rfl, hchannel]
    exact congrArg some (if_pos hroom)
  refine ⟨_, hserved, ?size, ?configured, ?subscribers, h.sessions, ?capacity, ?ended, ?current,
    ?channel⟩
  case size =>
    rw [size_setReplica]
    exact h.size
  all_goals
    rw [node_setReplica_self h.size]
    dsimp only
  case configured => exact h.configured
  case subscribers => exact h.subscribers
  case capacity => rw [LiveChannels.capacity_pushTo, h.capacity]
  case ended => rw [LiveChannels.ended_pushTo, h.ended]
  case current => rw [LiveChannels.current_pushTo, h.current]
  case channel =>
    exact ⟨_, hchannel', hwaiting, by rw [List.length_append, hlength, List.length_singleton]⟩

private theorem exists_unread (hvalid : config.validate = .ok ())
    (hbody : 10 ≤ config.gateway.maxBodySize)
    (hbuffer : config.gateway.liveChannelBuffer ≤ LiveChannels.largestCapacity)
    (hk : k ≤ max config.gateway.liveChannelBuffer 1) :
    ∃ c : Cluster, c.Reachable ∧ Unread config k c := by
  induction k with
  | zero => exact exists_unread_zero hvalid hbody hbuffer
  | succ k ih =>
    obtain ⟨c, hreachable, hc⟩ := ih (by omega)
    exact hc.exists_succ hreachable hvalid hbody hk

/-- A request that is given up is not answered with a report. -/
private theorem not_answersPush_of_timeout {i : Nat} {r : Request} {canUpgrade : Bool}
    {caller consumer : Urn} {notification : Notification}
    (hsubscribers : (c.node i).index.subscribers caller notification.descriptor.key = [consumer])
    (h : (c.serve i r canUpgrade).1 = .error (.empty 408)) :
    ¬c.AnswersPush i r canUpgrade caller notification := by
  rintro ⟨response, hresponse, hanswers⟩
  rw [h] at hresponse
  cases hresponse
  rw [hsubscribers] at hanswers
  obtain ⟨⟨delivered, failed, -, hjson⟩, -⟩ := hanswers.somebody one_ne_zero
  have hstatus : 408 = 200 := congrArg Http.Response.status hjson
  omega

/-- Once the channel is full, a push waits for its whole time, and is given up with its request if
that ends by then. -/
private theorem Unread.serveBefore_eq (h : Unread config (max config.gateway.liveChannelBuffer 1) c)
    (hbody : 10 ≤ config.gateway.maxBodySize) (delay : Nat) {deadline : Nat}
    (hdeadline : deadline ≤ c.now + config.delivery.sendTimeout.millisUp) :
    (c.serveBefore deadline 0 (echoNotifies delay) false).1 = .error (.empty 408) := by
  obtain ⟨channel, hchannel, hwaiting, hlength⟩ := h.channel
  obtain ⟨frame, hstarted⟩ := h.exists_started
  have hfull : ¬channel.HasRoom (c.node 0).channels.capacity := by
    rw [h.capacity]
    exact fun hroom => absurd hroom.2 (by omega)
  -- the frame finds no room, so that the push waits for somebody to read, and nobody does
  have hwaits : ((c.node 0).channels.pushTo 0 frame).1 =
      .waits ⟨0, (c.node 0).channels.nextPush⟩ := by
    rw [LiveChannels.start_pushTo, hchannel]
    exact if_neg hfull
  have hmem : (echo, PushState.waits ⟨0, (c.node 0).channels.nextPush⟩) ∈
      (c.started 0 echo echoed).1.pushes := by
    rw [hstarted, hwaits]
    exact List.mem_singleton.mpr rfl
  have hended : (c.node 0).channels.ended[(c.node 0).channels.nextPush]? = none := by
    rw [h.ended]
    exact Std.ExtTreeMap.getElem?_empty
  rw [← h.configured] at hdeadline
  exact (serveBefore_of_waits (h.isPush hbody delay) hdeadline h.sessions hended hmem false).1

/-- Then a request is given up if it may not take longer than its body and the push. -/
private theorem Unread.not_answersPush
    (h : Unread config (max config.gateway.liveChannelBuffer 1) c)
    (hbody : 10 ≤ config.gateway.maxBodySize) {delay : Nat}
    (htimeouts : config.gateway.requestTimeout.millisUp ≤
      delay + config.delivery.sendTimeout.millisUp) :
    ¬c.AnswersPush 0 (echoNotifies delay) false echo echoed := by
  refine not_answersPush_of_timeout h.subscribers ?_
  have harrival : c.arrival 0 (echoNotifies delay) = c.now + delay :=
    arrival_of_isPush (h.isPush hbody delay)
  have hdeadline : c.requestDeadline 0 = c.now + config.gateway.requestTimeout.millisUp := by
    rw [requestDeadline, h.configured]
  rcases Nat.lt_or_ge (c.arrival 0 (echoNotifies delay)) (c.requestDeadline 0) with hearly | hlate
  · have hnow : (c.passTo (c.arrival 0 (echoNotifies delay))).now =
        c.arrival 0 (echoNotifies delay) := now_passTo (by omega)
    rw [serve_of_early hearly]
    exact (h.passTo _).serveBefore_eq hbody delay (by omega)
  · rw [serve_of_late hlate]

end Unread

/-! ## The two times -/

/-- Settings under which a request may take no more than a second, half as long as a push. -/
def impatient : BrokerConfig :=
  { gateway := { (default : GatewayConfig) with
      requestTimeout := { nanos := Duration.secondNanos }, liveChannelBuffer := 1 } }

/-- A replica with these settings, at which the client has subscribed. -/
def subscribedImpatient : Cluster :=
  ((((empty none false).add impatient).toOption.getD {}).serve 0 echoSubscribes false).2

/-- The replica when the client has connected and has not read the one frame that its channel can
buffer. -/
def unreadImpatient : Cluster :=
  ((((subscribedImpatient.connect 0 echo).map Prod.snd).getD {}).serve 0 (echoNotifies 0) false).2

end Cluster

end ServiceBroker
