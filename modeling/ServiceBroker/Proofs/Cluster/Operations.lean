import ServiceBroker.Proofs.Cluster.LiveGauge
import ServiceBroker.Proofs.Cluster.ReachableTraffic
import ServiceBroker.Proofs.Gateway.Confinement

/-!
# Whole operations, step by step

A cluster is worked by one operation after the other, and a request is seen through before the next
one begins. All that an operation does is done in steps of a process in which tasks take turns. So
what holds after all steps of all processes holds after all operations on clusters.

## Main definitions

* `Process.Comes`: a cluster comes about in a process, with some deliveries under way.

## Main results

* `Process.Comes.settle`, `Process.Comes.awaitDelivery`, `Process.Comes.serve`: loops and sessions
  that go on, deliveries that are waited for and whole requests are steps;
* `Cluster.Reachable.exists_process`: every cluster that can come about does so in a process.
-/

namespace ServiceBroker

open Http (Request)
open WebSocket (Session)

/-- Nobody is connected by reading or dropping live channels. -/
theorem LiveChannels.Reads.connectionCount_le {l l' : LiveChannels} (h : l.Reads l') :
    l'.connectionCount ≤ l.connectionCount := by
  unfold LiveChannels.connectionCount
  induction h with
  | start => exact le_rfl
  | receive n _ ih =>
    rw [current_receive]
    exact ih
  | drop n _ ih =>
    -- a channel that is dropped was perhaps the current one of its consumer
    refine le_trans ?_ ih
    unfold LiveChannels.drop
    split
    · exact le_rfl
    · dsimp only
      split
      · exact Std.ExtTreeMap.size_erase_le
      · exact le_rfl

namespace Cluster

variable {c : Cluster} {i : Nat}

/-! ## Putting back what was not changed -/

theorem modify_modify (nodes : Array Node) (i : Nat) (f g : Node → Node) :
    (nodes.modify i f).modify i g = nodes.modify i (g ∘ f) := by
  refine Array.ext_getElem? fun j => ?_
  simp only [Array.getElem?_modify]
  split
  next => rw [Option.map_map]
  next => rfl

/-- A request that has only pushed leaves everything but the live channels alone. -/
theorem setReplica_channels (c : Cluster) (i : Nat) (channels : LiveChannels) :
    c.setReplica i { c.replica i with channels } = c.setChannels i channels := by
  have hnodes : (c.nodes.modify i fun n => { n with index := (c.node i).index, channels }) =
      c.nodes.modify i fun n => { n with channels } := modify_congr rfl
  unfold setReplica replica
  dsimp only
  rw [ReplicaGroup.setContext_self, hnodes]
  rfl

/-- A request that has only subscribed leaves everything but the index alone. -/
theorem setReplica_index (c : Cluster) (i : Nat) (index : SubscriptionIndex) :
    c.setReplica i { c.replica i with index } =
      { c with nodes := c.nodes.modify i fun n => { n with index } } := by
  have hnodes : (c.nodes.modify i fun n => { n with index, channels := (c.node i).channels }) =
      c.nodes.modify i fun n => { n with index } := modify_congr rfl
  unfold setReplica replica
  dsimp only
  rw [ReplicaGroup.setContext_self, hnodes]

/-- A request that has only published leaves everything but the group alone. -/
theorem setReplica_published (c : Cluster) (i : Nat) (event : RegistryEvent) :
    c.setReplica i (Gateway.afterPublish (c.replica i)
      ((c.replica i).sync.publishChange event (c.replica i).transport (c.replica i).metrics)) =
      { c with group := (c.group.publishChange i event).2 } := by
  have hnodes := c.modify_self i
  exact congrArg (fun nodes => { c with group := (c.group.publishChange i event).2, nodes }) hnodes

@[simp]
theorem setChannels_self (c : Cluster) (i : Nat) :
    c.setChannels i (c.node i).channels = c := by
  rw [← setReplica_channels]
  exact c.setReplica_replica i

theorem setChannels_setChannels (c : Cluster) (i : Nat) (channels channels' : LiveChannels) :
    (c.setChannels i channels).setChannels i channels' = c.setChannels i channels' := by
  unfold setChannels
  dsimp only
  rw [modify_modify]
  rfl

theorem patience_setChannels (hi : i < c.nodes.size) (channels : LiveChannels) :
    (c.setChannels i channels).patience i = c.patience i := by
  rw [patience, node_setChannels_self hi]
  rfl

/-- Live channels of a replica that is there are counted when they are put back with fewer consumers
connected than before. -/
private theorem settleChannels_eq (hi : i < c.nodes.size) (channels : LiveChannels) :
    c.settleChannels i channels =
      if channels.connectionCount = (c.node i).channels.connectionCount then
        c.setChannels i channels
      else (c.setChannels i channels).setGauge channels.connectionCount := by
  rw [settleChannels, gaugeLive_eq, node_setChannels_self hi]

/-- A replica that is not there has no live channels. -/
private theorem settleChannels_of_size_le (hi : c.nodes.size ≤ i) {channels : LiveChannels}
    (hreads : (c.node i).channels.Reads channels) : c.settleChannels i channels = c := by
  have hnone : (c.node i).channels.connectionCount = 0 := by
    rw [node_of_size_le hi]
    rfl
  have hle := hreads.connectionCount_le
  have hnodes : c.nodes.modify i (fun n => { n with channels }) = c.nodes := by
    refine Array.ext_getElem? fun j => ?_
    rw [Array.getElem?_modify]
    split
    next heq => rw [Array.getElem?_eq_none (heq ▸ hi), Option.map_none]
    next => rfl
  rw [settleChannels, if_pos (by omega), setChannels, hnodes]

/-- Whether live channels are counted once or twice while they get fewer does not matter. -/
private theorem settleChannels_settleChannels (hi : i < c.nodes.size)
    {channels channels' : LiveChannels}
    (hle : channels.connectionCount ≤ (c.node i).channels.connectionCount)
    (hle' : channels'.connectionCount ≤ channels.connectionCount) :
    (c.settleChannels i channels).settleChannels i channels' = c.settleChannels i channels' := by
  have hi' : i < (c.settleChannels i channels).nodes.size := (size_settleChannels ..).symm ▸ hi
  have hnode : (c.settleChannels i channels).node i = { c.node i with channels } := by
    rw [node_settleChannels, node_setChannels_self hi]
  have hput (n : Nat) : ((c.setChannels i channels).setGauge n).setChannels i channels' =
      (c.setChannels i channels').setGauge n :=
    congrArg (setGauge · n) (setChannels_setChannels ..)
  rw [settleChannels_eq hi', hnode, settleChannels_eq hi, settleChannels_eq hi]
  dsimp only
  by_cases hfirst : channels.connectionCount = (c.node i).channels.connectionCount
  · rw [if_pos hfirst, hfirst, setChannels_setChannels]
  · have hfewer : channels'.connectionCount ≠ (c.node i).channels.connectionCount := by omega
    rw [if_neg hfirst, if_neg hfewer, hput]
    split
    next hsame => rw [hsame]
    next => rfl

/-- A delivery that has ended is counted after its pushes. -/
theorem setReplica_finished (hi : i < c.nodes.size) (channels : LiveChannels)
    (report : DeliveryReport) :
    (c.setChannels i channels).setReplica i (Gateway.finishDelivery
        ((c.setChannels i channels).replica i) report).2 =
      c.setReplica i { c.replica i with
        channels, metrics := c.group.metrics.countReport report } := by
  have hnode := node_setChannels_self hi channels
  unfold setReplica Gateway.finishDelivery replica
  dsimp only
  rw [hnode]
  unfold setChannels
  dsimp only
  rw [modify_modify]
  rfl

end Cluster

/-! ## Steps -/

namespace Process

/-- Whether a cluster comes about in a process with one worker, with some deliveries under way and
some updates of the gauge of live channels. -/
def ComesAmid (c : Cluster) (calls : List Call) (updates : List GaugeUpdate) : Prop :=
  ∃ reports, Reachable 1 ⟨c, calls, reports, updates⟩

/-- Whether a cluster comes about in a process with one worker, with some deliveries under way. -/
def Comes (c : Cluster) (calls : List Call) : Prop := ComesAmid c calls []

variable {c c' : Cluster} {calls : List Call} {i : Nat}

/-- A step leads on, whatever was reported before. -/
theorem ComesAmid.step {calls' : List Call} {updates updates' : List GaugeUpdate}
    (h : ComesAmid c calls updates)
    (hstep : ∀ reports, ∃ reports',
      Step 1 ⟨c, calls, reports, updates⟩ ⟨c', calls', reports', updates'⟩) :
    ComesAmid c' calls' updates' := by
  obtain ⟨reports, shared, exposed, hsteps⟩ := h
  obtain ⟨reports', hstep⟩ := hstep reports
  exact ⟨reports', shared, exposed, hsteps.tail hstep⟩

theorem Comes.step {calls' : List Call} (h : Comes c calls)
    (hstep : ∀ reports, ∃ reports',
      Step 1 ⟨c, calls, reports, []⟩ ⟨c', calls', reports', []⟩) : Comes c' calls' :=
  ComesAmid.step h hstep

theorem Comes.placed (h : Comes c calls) :
    c.group.Placed ∧ c.group.members.size = c.nodes.size := by
  obtain ⟨reports, hreachable⟩ := h
  have haudited := audited_of_reachable hreachable
  exact ⟨haudited.counted.placed, haudited.size⟩

/-! ### Live channels -/

/-- After a change the live channels are counted and the gauge is set, before the one worker does
anything else. -/
theorem ComesAmid.gaugeLive (h : ComesAmid c calls [.changed i]) : Comes (c.gaugeLive i) calls :=
  have hcounted : ComesAmid c calls [.counted (c.node i).channels.connectionCount] :=
    h.step fun reports => ⟨reports, .count (p := ⟨c, calls, reports, [.changed i]⟩) (k := 0) rfl⟩
  hcounted.step fun reports => ⟨reports, .gauge
    (p := ⟨c, calls, reports, [.counted (c.node i).channels.connectionCount]⟩) (k := 0) rfl⟩

theorem Comes.connect (h : Comes c calls) (hi : i < c.nodes.size) {consumer : Urn} {n : Nat}
    (hconnect : c.connect i consumer = some (n, c')) : Comes c' calls := by
  obtain ⟨channels, hchannels, rfl⟩ := Cluster.exists_of_connect hconnect
  have hopened : ComesAmid (c.setChannels i channels) calls [.changed i] := by
    refine ComesAmid.step h fun reports => ⟨reports, ?_⟩
    exact .connect (p := ⟨c, calls, reports, []⟩) consumer hi Nat.one_pos hchannels
  exact hopened.gaugeLive

theorem Comes.receive (h : Comes c calls) (n : Nat) :
    Comes (c.settleChannels i ((c.node i).channels.receive n).2) calls := by
  rw [Cluster.settleChannels, if_pos (connectionCount_receive ..)]
  exact h.step fun reports => ⟨reports, .receive (p := ⟨c, calls, reports, []⟩) i n⟩

theorem Comes.drop (h : Comes c calls) (n : Nat) :
    Comes (c.settleChannels i ((c.node i).channels.drop n)) calls := by
  have hdropped : ComesAmid (c.setChannels i ((c.node i).channels.drop n)) calls
      (if ((c.node i).channels.drop n).connectionCount = (c.node i).channels.connectionCount then []
        else [.changed i]) :=
    ComesAmid.step h fun reports =>
      ⟨reports, .drop (p := ⟨c, calls, reports, []⟩) i n Nat.one_pos⟩
  unfold Cluster.settleChannels
  split
  next hsame =>
    rw [if_pos hsame] at hdropped
    exact hdropped
  next hfewer =>
    rw [if_neg hfewer] at hdropped
    exact hdropped.gaugeLive

/-- Live channels that are read and dropped for a while are so one after the other. -/
theorem Comes.reads (h : Comes c calls) {channels : LiveChannels}
    (hreads : (c.node i).channels.Reads channels) : Comes (c.settleChannels i channels) calls := by
  by_cases hi : i < c.nodes.size
  · -- each time the channels are put back, and once more is as good as each time
    have hnode (channels : LiveChannels) :
        ((c.settleChannels i channels).node i).channels = channels := by
      rw [Cluster.node_settleChannels, Cluster.node_setChannels_self hi]
    have hagain {channels : LiveChannels} (hreads : (c.node i).channels.Reads channels)
        {channels' : LiveChannels} (hlast : channels.Reads channels') :
        (c.settleChannels i channels).settleChannels i channels' = c.settleChannels i channels' :=
      Cluster.settleChannels_settleChannels hi hreads.connectionCount_le hlast.connectionCount_le
    induction hreads with
    | start =>
      rw [Cluster.settleChannels, if_pos rfl, Cluster.setChannels_self]
      exact h
    | @receive channels n hreads ih =>
      have hreceived := ih.receive (i := i) n
      rw [hnode, hagain hreads (.receive n .start)] at hreceived
      exact hreceived
    | @drop channels n hreads ih =>
      have hdropped := ih.drop (i := i) n
      rw [hnode, hagain hreads (.drop n .start)] at hdropped
      exact hdropped
  · rw [Cluster.settleChannels_of_size_le (Nat.le_of_not_lt hi) hreads]
    exact h

/-! ### Loops and sessions -/

theorem Comes.sessions (h : Comes c calls) (sessions : Std.ExtTreeMap Nat Session)
    (nextSession : Nat) : Comes { c with sessions, nextSession } calls :=
  h.step fun reports => ⟨reports, .sessions sessions nextSession⟩

theorem Comes.advanceTo (h : Comes c calls) (time : Nat) : Comes (c.advanceTo time) calls :=
  h.step fun reports => ⟨reports, .advance time⟩

theorem Comes.runSession (h : Comes c calls) (number : Nat) (s : Session) :
    Comes (c.runSession number s) calls := by
  obtain ⟨channels, sessions, hreads, hran⟩ := c.exists_runSession number s
  rw [hran]
  exact (h.reads hreads).sessions _ _

/-- Loops and sessions that run until all have to wait go on step by step. -/
theorem Comes.settle (h : Comes c calls) : Comes c.settle calls := by
  obtain ⟨received, hworks⟩ := Journal.exists_works_settle (j := ⟨c.group, []⟩) h.placed.1
  have hloops : Comes { c with group := c.group.settle } calls :=
    h.step fun reports => ⟨reports, .works (p := ⟨c, calls, reports, []⟩) hworks⟩
  exact Cluster.settle_induct (P := (Comes · calls)) hloops fun _ number s hc =>
    hc.runSession number s

theorem Comes.passTo (h : Comes c calls) (time : Nat) : Comes (c.passTo time) calls :=
  Cluster.passTo_induct (P := (Comes · calls)) (fun _ h => h.settle)
    (fun _ time h => h.advanceTo time) h time

theorem Comes.openSession (h : Comes c calls) (hi : i < c.nodes.size) (consumer : Urn) :
    Comes (c.openSession i consumer).2 calls := by
  rcases c.openSession_cases i consumer with
    ⟨nextSession, sessions, hopened⟩ |
    ⟨n, opened, channels, nextSession, sessions, hconnect, hreads, hopened⟩
  · rw [hopened]
    exact h.sessions sessions nextSession
  · rw [hopened]
    exact ((h.connect hi hconnect).reads hreads).sessions sessions nextSession

/-! ### Deliveries -/

section Deliveries

variable {before live : List Push}

theorem last_call (calls : List Call) (call : Call) :
    (calls ++ [call])[calls.length]? = some call ∧
      (calls ++ [call]).eraseIdx calls.length = calls := by
  refine ⟨by simp, ?_⟩
  rw [List.eraseIdx_append_of_length_le le_rfl, Nat.sub_self]
  exact List.append_nil calls

/-- What becomes of the last delivery when one of its pushes takes some actions. -/
theorem Comes.acts (actions : List Push.Action) (hactions : .abandon ∉ actions) {push : Push}
    {after : List Push} (hi : i < c.nodes.size)
    (h : Comes c (calls ++ [⟨i, before ++ push :: after⟩])) :
    Comes (c.setChannels i (push.acts c.now (c.patience i) actions (c.node i).channels).2)
      (calls ++ [⟨i, before ++
        (push.acts c.now (c.patience i) actions (c.node i).channels).1 :: after⟩]) := by
  induction actions generalizing c push with
  | nil =>
    simp only [Push.acts, Cluster.setChannels_self]
    exact h
  | cons action actions ih =>
    obtain ⟨haction, hrest⟩ : .abandon ≠ action ∧ .abandon ∉ actions := by simpa using hactions
    -- one action is one step of the process, and then the push stands where it stood
    let acted := push.act c.now (c.patience i) (c.node i).channels action
    have hact : Comes (c.setChannels i acted.2)
        (calls ++ [⟨i, before ++ { push with stage := acted.1 } :: after⟩]) := by
      refine h.step fun reports => ⟨reports, ?_⟩
      obtain ⟨hcall, -⟩ := last_call calls ⟨i, before ++ push :: after⟩
      have hpush : (before ++ push :: after)[before.length]? = some push := by simp
      have hstep : Step 1 ⟨c, calls ++ [⟨i, before ++ push :: after⟩], reports, []⟩ _ :=
        .push hcall hi hpush (Ne.symm haction)
      rw [act] at hstep
      simpa using hstep
    have hlater := ih hrest ((Cluster.size_setChannels ..).symm ▸ hi) hact
    rw [Cluster.patience_setChannels hi, Cluster.node_setChannels_self hi,
      Cluster.setChannels_setChannels] at hlater
    exact hlater

/-- The pushes of the last delivery take some actions, one push after the other. -/
theorem Comes.actsAll (actions : List Push.Action) (hactions : .abandon ∉ actions)
    (hi : i < c.nodes.size) (h : Comes c (calls ++ [⟨i, before ++ live⟩])) :
    Comes
      (c.setChannels i (Push.actsAll c.now (c.patience i) actions live (c.node i).channels).2)
      (calls ++
        [⟨i, before ++
          (Push.actsAll c.now (c.patience i) actions live (c.node i).channels).1⟩]) := by
  induction live generalizing c before with
  | nil =>
    simp only [Push.actsAll, Cluster.setChannels_self]
    exact h
  | cons push live ih =>
    -- the first push acts, and then counts as one of those before
    have hfirst := h.acts actions hactions hi
    rw [List.append_cons before] at hfirst
    have hrest := ih ((Cluster.size_setChannels ..).symm ▸ hi) hfirst
    rw [Cluster.patience_setChannels hi, Cluster.node_setChannels_self hi,
      Cluster.setChannels_setChannels, ← List.append_cons before] at hrest
    exact hrest

variable {d : Dispatch}

/-- Live channels that were pushed to are put back as those that were read and dropped are. -/
theorem settleChannels_of_count {channels : LiveChannels}
    (h : channels.connectionCount = (c.node i).channels.connectionCount) :
    c.settleChannels i channels = c.setChannels i channels :=
  if_pos h

/-- A delivery starts. -/
theorem Comes.deliver (h : Comes c calls) (hi : i < c.nodes.size) (caller : Urn)
    (notification : Notification) :
    ∃ pushes, List.Forall₂ (Push.Shows (c.started i caller notification).1.deadline) pushes
        (c.started i caller notification).1.pushes ∧
      Comes (c.setChannels i (c.started i caller notification).2)
        (calls ++ [⟨i, pushes⟩]) := by
  let post : Post := ⟨caller, notification, (c.node i).index⟩
  have hposted : Comes c (calls ++ [⟨i, [] ++ post.pushes⟩]) :=
    h.step fun reports => ⟨reports, .deliver (p := ⟨c, calls, reports, []⟩) caller notification hi⟩
  have hsent := hposted.actsAll [.seek, .send] (by simp) hi
  obtain ⟨hchannels, hshows⟩ := Push.actsAll_seek_send c.now (c.patience i) post.frame
    post.consumers (c.node i).channels
  rw [List.nil_append] at hsent
  refine ⟨_, hshows, ?_⟩
  rw [show (c.started i caller notification).2 = _ from hchannels.symm]
  exact hsent

/-- A delivery is looked at. -/
theorem Comes.look {pushes : List Push} (hi : i < c.nodes.size)
    (hshows : List.Forall₂ (Push.Shows d.deadline) pushes d.pushes)
    (h : Comes c (calls ++ [⟨i, pushes⟩])) :
    ∃ pushes', List.Forall₂ (Push.Shows d.deadline) pushes' (c.look i d).1.pushes ∧
      Comes (c.look i d).2 (calls ++ [⟨i, pushes'⟩]) := by
  have hsettled := h.settle
  have hi' : i < c.settle.nodes.size := (Cluster.size_settle c).symm ▸ hi
  obtain ⟨hchannels, hlooked⟩ := Push.actsAll_look hshows c.settle.now (c.settle.patience i)
    (c.settle.node i).channels
  rw [← List.nil_append pushes] at hsettled
  have hacted := hsettled.actsAll [.look] (by simp) hi'
  refine ⟨_, hlooked, ?_⟩
  -- who is connected does not change, so that the gauge need not be set
  have hcount := connectionCount_actsAll c.settle.now (c.settle.patience i) [.look] pushes
    (c.settle.node i).channels
  rw [hchannels] at hcount hacted
  have hlook : (c.look i d).2 = c.settle.setChannels i _ := settleChannels_of_count hcount
  rw [hlook]
  exact hacted

/-- A delivery that has a report ends. -/
theorem Comes.finish {pushes : List Push} {report : DeliveryReport}
    (hshows : List.Forall₂ (Push.Shows d.deadline) pushes d.pushes)
    (hreport : d.report? = some report) (h : Comes c (calls ++ [⟨i, pushes⟩])) :
    Comes (c.setReplica i (Gateway.finishDelivery (c.replica i) report).2) calls := by
  refine h.step fun reports => ⟨reports ++ [report], ?_⟩
  obtain ⟨hcall, herase⟩ := last_call calls ⟨i, pushes⟩
  have hstep : Step 1 ⟨c, calls ++ [⟨i, pushes⟩], reports, []⟩ _ :=
    .finish hcall ((Push.report?_of_shows hshows).trans hreport)
  rw [herase] at hstep
  exact hstep

/-- A delivery is given up. -/
theorem Comes.cancel {pushes : List Push} (hi : i < c.nodes.size)
    (hshows : List.Forall₂ (Push.Shows d.deadline) pushes d.pushes)
    (h : Comes c (calls ++ [⟨i, pushes⟩])) :
    Comes (c.settleChannels i (d.cancel (c.node i).channels)) calls := by
  have hcancel := Push.actsAll_abandon hshows c.now (c.patience i) (c.node i).channels
  have hcount := connectionCount_actsAll c.now (c.patience i) [.abandon] pushes
    (c.node i).channels
  rw [hcancel] at hcount
  rw [settleChannels_of_count hcount]
  refine h.step fun reports => ⟨reports, ?_⟩
  obtain ⟨hcall, herase⟩ := last_call calls ⟨i, pushes⟩
  have hstep : Step 1 ⟨c, calls ++ [⟨i, pushes⟩], reports, []⟩ _ := .abandon hcall hi
  dsimp only at hstep
  rw [hcancel, herase] at hstep
  exact hstep

/-- A delivery is waited for. -/
theorem Comes.awaitDelivery (deadline steps : Nat) {pushes : List Push} (hi : i < c.nodes.size)
    (hshows : List.Forall₂ (Push.Shows d.deadline) pushes d.pushes)
    (h : Comes c (calls ++ [⟨i, pushes⟩])) :
    Comes (Cluster.awaitDelivery i deadline steps d c).2 calls := by
  -- the last call of the process is the delivery that is waited for, in every round
  refine Cluster.awaitDelivery_induct (P := fun c d => i < c.nodes.size ∧
    ∃ pushes, List.Forall₂ (Push.Shows d.deadline) pushes d.pushes ∧
      Comes c (calls ++ [⟨i, pushes⟩]))
    (Q := (Comes · calls)) ?look ?wait ?report ?cancel ⟨hi, pushes, hshows, h⟩ deadline steps
  case look =>
    rintro c d ⟨hi, pushes, hshows, h⟩
    refine ⟨(Cluster.size_look c i d).symm ▸ hi, ?_⟩
    rw [Cluster.deadline_look]
    exact h.look hi hshows
  case wait => exact fun c d time ⟨hi, pushes, hshows, h⟩ => ⟨hi, pushes, hshows, h.advanceTo time⟩
  case report =>
    exact fun c d report ⟨_, pushes, hshows, h⟩ hreport => h.finish hshows hreport
  case cancel => exact fun c d ⟨hi, pushes, hshows, h⟩ => h.cancel hi hshows

end Deliveries

/-! ### Requests -/

/-- What a request does in the name of its caller is done in steps. -/
theorem Comes.served {caller : Urn} {reply : Gateway.Reply} {replica : Replica} (h : Comes c calls)
    (hi : i < c.nodes.size) (hserved : Gateway.Served (c.replica i) caller reply replica)
    (deadline : Nat) : Comes ((c.setReplica i replica).complete i deadline reply).2 calls := by
  -- each kind of reply changes one part of the replica, and one step of the process changes that
  -- part
  cases hserved with
  | read response =>
    rw [Cluster.setReplica_replica]
    exact h
  | subscribed response operation =>
    rw [Cluster.setReplica_index, Cluster.modify_congr
      (g := fun n => { n with index := (operation.perform n.index).2 }) rfl]
    exact h.step fun reports => ⟨reports, .subscription i operation⟩
  | published response event =>
    rw [Cluster.setReplica_published]
    exact h.step fun reports => ⟨reports, .publishChange (p := ⟨c, calls, reports, []⟩) event hi⟩
  | delivered response notification report hreport =>
    obtain ⟨pushes, hshows, hdelivers⟩ := h.deliver hi caller notification
    have hfinished := hdelivers.finish hshows hreport
    rw [Cluster.setReplica_finished hi] at hfinished
    exact hfinished
  | delivering notification =>
    obtain ⟨pushes, hshows, hdelivers⟩ := h.deliver hi caller notification
    rw [Cluster.complete_delivering, Prod.map_snd, id, Cluster.setReplica_channels]
    exact hdelivers.awaitDelivery _ _ ((Cluster.size_setChannels ..).symm ▸ hi) hshows
  | upgrade =>
    rw [Cluster.setReplica_replica]
    exact h.openSession hi caller

/-- A request is seen through in steps. -/
theorem Comes.serve (h : Comes c calls) (hi : i < c.nodes.size) (r : Request) (canUpgrade : Bool) :
    Comes (c.serve i r canUpgrade).2 calls := by
  rcases Nat.lt_or_ge (c.arrival i r) (c.requestDeadline i) with hearly | hlate
  · have hi' : i < (c.passTo (c.arrival i r)).nodes.size := (Cluster.size_passTo ..).symm ▸ hi
    rw [Cluster.serve_of_early hearly, Cluster.serveBefore]
    rcases Gateway.serve_cases ((c.passTo (c.arrival i r)).replica i) r canUpgrade with
      ⟨response, hserve⟩ | ⟨caller, -, hserved⟩
    · rw [hserve, Cluster.setReplica_replica]
      exact h.passTo _
    · exact (h.passTo _).served hi' hserved _
  · rw [Cluster.serve_of_late hlate]
    exact h.passTo _

end Process

/-! ## All reachable clusters -/

/-- Every cluster that can come about does so in a process with one worker, when neither a delivery
is under way nor an update of the gauge of live channels. -/
theorem Cluster.Reachable.exists_process {c : Cluster} (h : c.Reachable) :
    ∃ p : Process, p.Reachable 1 ∧ p.cluster = c ∧ p.calls = [] ∧ p.updates = [] := by
  have hsessions {c : Cluster} (h : Process.Comes c [])
      (sessions : Std.ExtTreeMap Nat Session) : Process.Comes { c with sessions } [] :=
    h.sessions sessions c.nextSession
  -- no delivery is under way between two steps, since a request is waited for to its end
  suffices hcomes : Process.Comes c [] by
    obtain ⟨reports, hreachable⟩ := hcomes
    exact ⟨_, hreachable, rfl, rfl, rfl⟩
  induction h with
  | empty shared exposed => exact ⟨[], shared, exposed, .refl⟩
  | add _ hadd ih => exact ih.step fun reports => ⟨reports, .add hadd⟩
  | start _ hi ih => exact ih.step fun reports => ⟨reports, .start (p := ⟨_, [], reports, []⟩) hi⟩
  | serve r canUpgrade _ hi ih => exact ih.serve hi r canUpgrade
  | connect _ hi hconnect ih => exact ih.connect hi hconnect
  | disconnect n _ _ ih => exact ih.drop n
  | receive n _ _ ih => exact ih.receive n
  | clientSend | clientSendBytes | clientRead | clientDrop => exact hsessions ‹_› _
  | publish topic key payload _ _ ih =>
    exact ih.step fun reports =>
      ⟨reports, .publishRaw (p := ⟨_, [], reports, []⟩) _ topic key payload⟩
  | closeBus _ _ ih =>
    exact ih.step fun reports => ⟨reports, .transport (p := ⟨_, [], reports, []⟩) _ _⟩
  | settle _ ih => exact ih.settle
  | advance millis _ ih => exact ih.advanceTo _
  | @shutdown c i _ _ ih =>
    let signalled : Cluster := { c with group := c.group.modifySignal i (·.set true) }
    have hsignalled : Process.Comes signalled [] :=
      ih.step fun reports => ⟨reports, .signal (p := ⟨c, [], reports, []⟩) i _⟩
    have hstopped : Process.Comes { signalled with
        nodes := c.nodes.modify i fun n => { n with isStarted := false } } [] :=
      hsignalled.step fun reports =>
        ⟨reports, .isStarted (p := ⟨signalled, [], reports, []⟩) i false⟩
    exact hstopped.settle

end ServiceBroker
