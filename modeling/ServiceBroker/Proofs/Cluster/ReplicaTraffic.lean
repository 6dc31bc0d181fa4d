import ServiceBroker.Proofs.Cluster.Reachable
import ServiceBroker.Proofs.Delivery.Uninterrupted

/-!
# The traffic of a replica

All that bears on notifications at a replica is traffic. What a replica is asked for, and what goes
on there by itself, is done by moves of it.

## Main definitions

* `Traffic.Shows`: the traffic is that of a replica;
* `Traffic.CatchesUp`: the traffic of a replica leads to what has become of it.

## Main results

* `Traffic.Shows.exists_unasked`: a replica that is not asked for anything goes on by moves that
  push nothing;
* `Traffic.Shows.exists_serve`: a request is seen through by moves of traffic, and notifications are
  pushed by these in the name of its caller alone.
-/

namespace ServiceBroker

open Http (Request)
open WebSocket (Session)

namespace Traffic

open Cluster (Unasked)

/-- The traffic is that of a replica. -/
structure Shows (t : Traffic) (c : Cluster) (i : Nat) : Prop where
  patience : t.patience = (c.node i).config.delivery.sendTimeout.millisUp
  index : t.index = (c.node i).index
  channels : t.channels = (c.node i).channels
  now : t.now = c.now

variable {t : Traffic} {c c' : Cluster} {i : Nat}

/-- A replica that is not asked for anything has some traffic, but none that pushes. -/
theorem Shows.exists_unasked (h : t.Shows c i) (h' : Unasked i c c') :
    ∃ t', t.LeadsTo [] t' ∧ t'.Shows c' i := by
  have hreads := h'.channels
  rw [← h.channels] at hreads
  obtain ⟨received, hlead⟩ := leadsTo_reads hreads
  have hlater : { t with channels := (c'.node i).channels, received }.now ≤ c'.now := by
    show t.now ≤ c'.now
    rw [h.now]
    exact h'.now
  refine ⟨_, hlead.trans (leadsTo_advance hlater), ?_, ?_, rfl, rfl⟩
  · rw [h'.config]
    exact h.patience
  · rw [h'.index]
    exact h.index

/-- A live channel is opened by a move. -/
theorem Shows.exists_connect (h : t.Shows c i) (hi : i < c.nodes.size) {consumer : Urn} {n : Nat}
    (hconnect : c.connect i consumer = some (n, c')) : ∃ t', t.LeadsTo [] t' ∧ t'.Shows c' i := by
  obtain ⟨channels, hchannels, rfl⟩ := Cluster.exists_of_connect hconnect
  rw [← h.channels] at hchannels
  have hlead : t.LeadsTo [] { t with channels } := by
    refine ⟨(List.append_nil _).symm, [.connect consumer], ?_⟩
    show t.move (.connect consumer) = { t with channels }
    rw [move, hchannels]
  have hnode : ((c.setChannels i channels).gaugeLive i).node i = { c.node i with channels } :=
    c.node_setChannels_self hi channels
  refine ⟨_, hlead, ?_, ?_, ?_, h.now⟩
  all_goals rw [hnode]
  · exact h.patience
  · exact h.index

section Delivery

variable {d : Dispatch}

/-- Looking at a delivery after loops and sessions have gone on. -/
private theorem exists_look (hi : i < c.nodes.size) (hchannels : t.channels = (c.node i).channels)
    (hnow : t.now = c.now) (hd : d.ShownBy t.pushes) :
    ∃ pushes received, (c.look i d).1.ShownBy pushes ∧ t.LeadsTo [] { t with
      channels := ((c.look i d).2.node i).channels, pushes, received } := by
  -- first everything else goes on, which for this traffic is reading and dropping
  have hsettle := c.unasked_settle (i := i)
  have hreads := hsettle.channels
  rw [← hchannels] at hreads
  obtain ⟨received, hread⟩ := leadsTo_reads hreads
  -- then the waiting pushes look at what has become of them
  obtain ⟨pushes, hshown, hlead⟩ :=
    leadsTo_settle (t := { t with channels := (c.settle.node i).channels, received }) hd
  have htime : t.now = c.settle.now := hnow.trans c.settled_settle.now.symm
  have hfirst : (c.look i d).1 = (d.settle t.now (c.settle.node i).channels).1 := by
    rw [htime]
    rfl
  have hsecond : ((c.look i d).2.node i).channels =
      (d.settle t.now (c.settle.node i).channels).2 := by
    have hi' : i < c.settle.nodes.size := by
      rw [Cluster.size_settle]
      exact hi
    rw [htime, Cluster.look, Cluster.node_settleChannels, Cluster.node_setChannels_self hi']
  rw [hfirst, hsecond]
  exact ⟨pushes, received, hshown, hread.trans hlead⟩

/-- Some moves lead to the live channels of a replica and to its time. -/
def CatchesUp (t : Traffic) (c : Cluster) (i : Nat) : Prop :=
  ∃ pushes received, t.LeadsTo [] { t with
    channels := (c.node i).channels, now := c.now, pushes, received }

theorem CatchesUp.of_leadsTo {pushes : List Push} {received : List Reception}
    {channels : LiveChannels} {now : Nat}
    (hlead : t.LeadsTo [] { t with channels, now, pushes, received })
    (h : CatchesUp { t with channels, now, pushes, received } c i) : t.CatchesUp c i := by
  obtain ⟨pushes', received', hlead'⟩ := h
  exact ⟨pushes', received', hlead.trans hlead'⟩

private theorem catchesUp_self (hchannels : t.channels = (c.node i).channels)
    (hnow : t.now = c.now) :
    t.CatchesUp c i := by
  refine ⟨t.pushes, t.received, ?_⟩
  rw [← hchannels, ← hnow]
  exact .refl t

/-- A delivery is given up. -/
private theorem catchesUp_cancel (hi : i < c.nodes.size)
    (hchannels : t.channels = (c.node i).channels)
    (hnow : t.now = c.now) (hd : d.ShownBy t.pushes) :
    t.CatchesUp (c.settleChannels i (d.cancel (c.node i).channels)) i := by
  obtain ⟨pushes, hlead⟩ := leadsTo_cancel hd
  have hnode := c.node_setChannels_self hi (d.cancel (c.node i).channels)
  have htime : (c.settleChannels i (d.cancel (c.node i).channels)).now = c.now :=
    (Cluster.settled_settleChannels (d.trace_cancel _)).now
  refine ⟨pushes, t.received, ?_⟩
  rw [Cluster.node_settleChannels, hnode, htime, ← hnow, ← hchannels]
  exact hlead

/-- A delivery is waited for. -/
private theorem catchesUp_awaitDelivery (hi : i < c.nodes.size)
    (hchannels : t.channels = (c.node i).channels) (hnow : t.now = c.now)
    (hd : d.ShownBy t.pushes) (deadline steps : Nat) :
    t.CatchesUp (Cluster.awaitDelivery i deadline steps d c).2 i := by
  have hstart : t.LeadsTo [] { t with channels := (c.node i).channels, now := c.now } := by
    rw [← hchannels, ← hnow]
    exact .refl t
  -- by then the pushes have caught up and still show the delivery
  refine Cluster.awaitDelivery_induct (P := fun c d => i < c.nodes.size ∧ ∃ pushes received,
    t.LeadsTo [] { t with channels := (c.node i).channels, now := c.now, pushes, received } ∧
      d.ShownBy pushes)
    (Q := (t.CatchesUp · i)) ?look ?wait ?report ?cancel
    ⟨hi, t.pushes, t.received, hstart, hd⟩ deadline steps
  case look =>
    rintro c d ⟨hi, pushes, received, hlead, hd⟩
    obtain ⟨pushes', received', hshown, hlook⟩ := exists_look (t := { t with
      channels := (c.node i).channels, now := c.now, pushes, received }) hi rfl rfl hd
    have htime : (c.look i d).2.now = c.now := (c.settled_look i d).now
    refine ⟨?_, pushes', received', ?_, hshown⟩
    · rw [Cluster.look, Cluster.size_settleChannels, Cluster.size_settle]
      exact hi
    · rw [htime]
      exact hlead.trans hlook
  case wait =>
    rintro c d time ⟨hi, pushes, received, hlead, hd⟩
    exact ⟨hi, pushes, received, hlead.trans (leadsTo_advance (le_max_left c.now time)), hd⟩
  case report =>
    rintro c d report ⟨hi, pushes, received, hlead, hd⟩ -
    -- what the report tells is not written to the channels
    refine .of_leadsTo hlead (catchesUp_self ?_ rfl)
    rw [Cluster.node_setReplica_self hi]
    rfl
  case cancel =>
    rintro c d ⟨hi, pushes, received, hlead, hd⟩
    exact .of_leadsTo hlead (catchesUp_cancel (t := { t with
      channels := (c.node i).channels, now := c.now, pushes, received }) hi rfl rfl hd)

private theorem Shows.exists_of_catchesUp (h : t.Shows c i) (h' : c.Undisturbed c')
    (hup : t.CatchesUp c' i) : ∃ t', t.LeadsTo [] t' ∧ t'.Shows c' i := by
  obtain ⟨pushes, received, hlead⟩ := hup
  refine ⟨_, hlead, ?_, ?_, rfl, rfl⟩
  · rw [h'.config]
    exact h.patience
  · rw [h'.index]
    exact h.index

end Delivery

section Serving

variable {t' : Traffic} {replica : Replica} {caller : Urn} {reply : Gateway.Reply}

/-- A replica that is put back after a request is shown if its index and channels are. -/
theorem Shows.setReplica (h : t.Shows c i) (hi : i < c.nodes.size)
    (hpatience : t'.patience = t.patience) (hnow : t'.now = t.now)
    (hindex : t'.index = replica.index) (hchannels : t'.channels = replica.channels) :
    t'.Shows (c.setReplica i replica) i := by
  have hnode := c.node_setReplica_self hi replica
  refine ⟨?_, ?_, ?_, hnow.trans h.now⟩
  all_goals rw [hnode]
  · exact hpatience.trans h.patience
  · exact hindex
  · exact hchannels

/-- A session is opened by moves of traffic. -/
theorem Shows.exists_openSession (h : t.Shows c i) (hi : i < c.nodes.size) (consumer : Urn) :
    ∃ t', t.LeadsTo [] t' ∧ t'.Shows (c.openSession i consumer).2 i := by
  rcases c.unasked_openSession i consumer with hunasked | ⟨n, opened, hconnect, hunasked⟩
  · exact h.exists_unasked (hunasked i)
  · obtain ⟨t', hlead, hshows⟩ := h.exists_connect hi hconnect
    obtain ⟨t'', hlead', hshows'⟩ := hshows.exists_unasked (hunasked i)
    exact ⟨t'', hlead.trans hlead', hshows'⟩

/-- A push starts by moves of its producer. -/
private theorem Shows.exists_start (h : t.Shows c i) (hi : i < c.nodes.size) (caller : Urn)
    (notification : Notification) (replica : Replica) (hindex : replica.index = (c.node i).index)
    (hchannels : replica.channels = (c.started i caller notification).2) :
    ∃ t', t.LeadsTo [⟨caller, notification, t.index⟩] t' ∧ t'.Shows (c.setReplica i replica) i ∧
      (c.started i caller notification).1.ShownBy t'.pushes := by
  have hstarted : Dispatch.start (c.node i).config.delivery t.index .live t.now caller
      notification t.channels = c.started i caller notification := by
    rw [h.index, h.now, h.channels]
    rfl
  obtain ⟨pushes, hshown, hlead⟩ := leadsTo_start h.patience.symm caller notification
  rw [hstarted] at hshown hlead
  exact ⟨_, hlead, h.setReplica hi rfl rfl (h.index.trans hindex.symm) hchannels.symm, hshown⟩

/-- What a request does in the name of its caller is done by moves of traffic. -/
private theorem Shows.exists_served (h : t.Shows c i) (hi : i < c.nodes.size)
    (hserved : Gateway.Served (c.replica i) caller reply replica) (deadline : Nat) :
    ∃ posts t', t.LeadsTo posts t' ∧
      t'.Shows ((c.setReplica i replica).complete i deadline reply).2 i ∧
      ∀ post ∈ posts, post.producer = caller := by
  have hnobody : ∀ post ∈ ([] : List Post), post.producer = caller := fun _ hmem => by cases hmem
  have hcaller (notification : Notification) :
      ∀ post ∈ [(⟨caller, notification, t.index⟩ : Post)], post.producer = caller :=
    fun post hmem => by rw [List.mem_singleton.mp hmem]
  have hsize (replica : Replica) : i < (c.setReplica i replica).nodes.size := by
    rw [Cluster.size_setReplica]
    exact hi
  cases hserved with
  | read response => exact ⟨[], t, .refl t, h.setReplica hi rfl rfl h.index h.channels, hnobody⟩
  | subscribed response operation =>
    have hlead : t.LeadsTo [] (t.move (.subscription operation)) :=
      ⟨(List.append_nil _).symm, [.subscription operation], rfl⟩
    refine ⟨[], _, hlead, h.setReplica hi rfl rfl ?_ h.channels, hnobody⟩
    show (operation.perform t.index).2 = _
    rw [h.index]
    rfl
  | published response event =>
    exact ⟨[], t, .refl t, h.setReplica hi rfl rfl h.index h.channels, hnobody⟩
  | delivered response notification report =>
    obtain ⟨t', hlead, hshows, -⟩ := h.exists_start hi caller notification { c.replica i with
      channels := (c.started i caller notification).2
      metrics := c.group.metrics.countReport report } rfl rfl
    exact ⟨_, t', hlead, hshows, hcaller notification⟩
  | delivering notification =>
    obtain ⟨t', hlead, hshows, hshown⟩ := h.exists_start hi caller notification
      { c.replica i with channels := (c.started i caller notification).2 } rfl rfl
    rw [Cluster.complete_delivering, Prod.map_snd, id]
    -- until the delivery has ended nothing else is pushed
    obtain ⟨t'', hlead', hshows'⟩ := hshows.exists_of_catchesUp
      (Cluster.undisturbed_awaitDelivery ..)
      (catchesUp_awaitDelivery (hsize _) hshows.channels hshows.now hshown _ _)
    exact ⟨_, t'', hlead.trans hlead', hshows', hcaller notification⟩
  | upgrade =>
    have hput : t.Shows (c.setReplica i (c.replica i)) i :=
      h.setReplica hi rfl rfl h.index h.channels
    obtain ⟨t', hlead, hshows⟩ := hput.exists_openSession (hsize _) caller
    exact ⟨[], t', hlead, hshows, hnobody⟩

/-- A request is seen through by moves of traffic, and all notifications that these push are pushed
by its caller. -/
theorem Shows.exists_serve (h : t.Shows c i) (hi : i < c.nodes.size) (r : Request)
    (canUpgrade : Bool) :
    ∃ posts t', t.LeadsTo posts t' ∧ t'.Shows (c.serve i r canUpgrade).2 i ∧
      ∀ post ∈ posts,
        Gateway.callerOf (c.node i).config.gateway.identityHeader r = .ok post.producer := by
  -- until the request is there, the replica is not asked for anything
  have hwait (time : Nat) := h.exists_unasked (c.unasked_passTo time)
  rcases Nat.lt_or_ge (c.arrival i r) (c.requestDeadline i) with hearly | hlate
  · obtain ⟨t', hlead, hshows⟩ := hwait (c.arrival i r)
    have hi' : i < (c.passTo (c.arrival i r)).nodes.size := by
      rw [Cluster.size_passTo]
      exact hi
    rw [Cluster.serve_of_early hearly, ← (c.undisturbed_passTo (c.arrival i r)).1.config i]
    generalize c.passTo (c.arrival i r) = c' at hshows hi'
    rcases Gateway.serve_cases (c'.replica i) r canUpgrade with
      ⟨response, hserve⟩ | ⟨caller, hcaller, hserved⟩
    · refine ⟨[], t', hlead, ?_, fun _ hmem => by cases hmem⟩
      rw [Cluster.serveBefore, hserve]
      exact hshows.setReplica hi' rfl rfl hshows.index hshows.channels
    · obtain ⟨posts, t'', hlead', hshows', hposts⟩ :=
        hshows.exists_served hi' hserved (c.requestDeadline i)
      refine ⟨posts, t'', hlead.trans hlead', hshows', fun post hmem => ?_⟩
      rw [hposts post hmem]
      exact hcaller
  · obtain ⟨t', hlead, hshows⟩ := hwait (c.requestDeadline i)
    rw [Cluster.serve_of_late hlate]
    exact ⟨[], t', hlead, hshows, fun _ hmem => by cases hmem⟩

end Serving

end Traffic

end ServiceBroker
