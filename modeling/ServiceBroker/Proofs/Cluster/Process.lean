import Mathlib.Logic.Relation
import ServiceBroker.Proofs.Cluster.Lifetimes
import ServiceBroker.Proofs.Delivery.Calls
import ServiceBroker.Proofs.Replication.Counts

/-!
# The metrics of a process

A process runs replicas, and its metrics say what all of them have done since it started. This is
said about every state of the process, at the grain at which tasks take turns: consume loops go on
step by step, live channels are opened, read and dropped, and the pushes of the deliveries under way
go on in any order. Beside the replicas the reports of the deliveries that have ended are noted.

Tasks are run by some workers at the same time. Most of what a task does between two waits can be
taken as one step, since no other task can disturb it: registries and indices are locked, counters
are only added to, and the size of a registry is noted by the one loop that changes it. The gauge of
live channels is different. A task that opens or drops a channel changes the channels, then counts
them, and then sets the gauge, and nothing keeps another worker from doing the same in between. So
these are three steps here.

## Main definitions

* `Process`, `Process.Step`: a process, and what can happen in it;
* `Cluster.Audited`: the invariant of the counters;
* `Process.Counts`: what the exposition of the metrics says about a process, apart from its live
  channels.

## Main results

* `Process.audited_step`: nothing that happens breaks the invariant;
* `Process.counts_of_reachable`: at any time the counters agree with what they report.
-/

namespace ServiceBroker

namespace Cluster

/-! ## The invariant -/

/-- Sets the gauge of live channels. -/
def setGauge (c : Cluster) (n : Nat) : Cluster :=
  { c with group := { c.group with metrics := { c.group.metrics with liveChannels := n } } }

theorem gaugeLive_eq (c : Cluster) (i : Nat) :
    c.gaugeLive i = c.setGauge (c.node i).channels.connectionCount := rfl

/-- The metrics have counted what the replicas and the reports say. -/
structure Audited (c : Cluster) (reports : List DeliveryReport) : Prop where
  size : c.group.members.size = c.nodes.size
  shared : ∀ place, c.shared = some place → place < c.group.transports.size
  counted : c.group.Counted
  reports : c.group.metrics.Reports reports

variable {c c' : Cluster} {reports : List DeliveryReport} {i : Nat}

private theorem audited_empty (shared : Option BusConfig) (exposed : Bool) :
    Audited (.empty shared exposed) [] := by
  cases shared with
  | none =>
    refine ⟨rfl, fun place h => ?_, ReplicaGroup.counted_nil #[] exposed,
      Metrics.reports_nil exposed⟩
    cases h
  | some config =>
    refine ⟨rfl, fun place h => ?_, ReplicaGroup.counted_nil _ exposed, Metrics.reports_nil exposed⟩
    cases h
    exact Nat.one_pos

/-- Replication counts no delivery. -/
theorem Audited.replicate (h : c.Audited reports) {g : ReplicaGroup} (hg : c.group.Replicates g) :
    Audited { c with group := g } reports where
  size := hg.size.trans h.size
  shared place hplace := hg.transports.symm ▸ h.shared place hplace
  counted := hg.counted h.counted
  reports := h.reports.congr hg.deliveries

/-- What belongs to a replica alone is not counted. -/
theorem Audited.modify (h : c.Audited reports) (f : Node → Node) :
    Audited { c with nodes := c.nodes.modify i f } reports :=
  ⟨h.size.trans (Array.size_modify ..).symm, h.shared, h.counted, h.reports⟩

/-- Nor do live channels bear on what is counted. -/
theorem Audited.setGauge (h : c.Audited reports) (n : Nat) : (c.setGauge n).Audited reports where
  size := h.size
  shared := h.shared
  counted := h.counted.of_eq ⟨h.counted.placed.replica_lt, h.counted.placed.transport_lt⟩ rfl
    (fun _ => rfl) rfl
  reports := h.reports.congr rfl

/-- A delivery has ended, and is counted. -/
theorem Audited.finishDelivery (h : c.Audited reports) (report : DeliveryReport) :
    (c.setReplica i (Gateway.finishDelivery (c.replica i) report).2).Audited
      (reports ++ [report]) := by
  have hframe := c.group.metrics.countReport_frame report
  have hsync (k : Nat) : ((c.group.setContext i ⟨(c.group.member i).sync, c.group.transport i,
      c.group.metrics.countReport report⟩).member k).sync = (c.group.member k).sync :=
    ReplicaGroup.member_setContext_congr (·.sync) _ _ _ _ rfl
  have hplaced := h.counted.placed
  constructor
  case size =>
    rw [size_setReplica, ← h.size]
    exact ReplicaGroup.size_members_setContext ..
  case shared =>
    intro place hplace
    show place < (c.group.transports.setIfInBounds _ _).size
    rw [Array.size_setIfInBounds]
    exact h.shared place hplace
  case counted =>
    exact h.counted.of_eq (hplaced.setContext i _ hplaced.replica_lt)
      (ReplicaGroup.size_members_setContext ..) hsync hframe.1
  case reports => exact h.reports.countReport report

/-- No transport is lost when a replica is added, and the replica is on one of them. -/
private theorem exists_of_add {config : BrokerConfig}
    (hshared : ∀ place, c.shared = some place → place < c.group.transports.size)
    (h : c.add config = .ok c') :
    ∃ transports transport, c.group.transports.size ≤ transports.size ∧
      transport < transports.size ∧ c' = c.added config transports transport := by
  rcases add_cases h with ⟨place, hplace, hc'⟩ | ⟨-, hc'⟩
  · exact ⟨_, place, le_rfl, hshared place hplace, hc'⟩
  · refine ⟨_, _, ?_, ?_, hc'⟩
    · rw [Array.size_push]
      exact Nat.le_succ _
    · rw [Array.size_push]
      exact Nat.lt_succ_self _

/-- A replica that is added has counted nothing. -/
theorem Audited.add (h : c.Audited reports) {config : BrokerConfig} (hadd : c.add config = .ok c') :
    c'.Audited reports := by
  obtain ⟨transports, transport, hsize, hlt, rfl⟩ := exists_of_add h.shared hadd
  have hplaced := h.counted.placed
  have hcounted : ReplicaGroup.Counted { c.group with transports } :=
    h.counted.of_eq ⟨hplaced.replica_lt, fun k hk => (hplaced.transport_lt k hk).trans_le hsize⟩ rfl
      (fun _ => rfl) rfl
  refine ⟨?_, fun place hplace => (h.shared place hplace).trans_le hsize,
    hcounted.push hlt ⟨_, rfl⟩, h.reports⟩
  show (c.group.members.push _).size = (c.nodes.push _).size
  rw [Array.size_push, Array.size_push, h.size]

/-- A replica that is started or stopped counts nothing. -/
theorem Audited.start (h : c.Audited reports) (hi : i < c.nodes.size) :
    (c.start i).2.Audited reports := by
  have hspawn := h.replicate (ReplicaGroup.replicates_spawn (h.size.symm ▸ hi))
  rcases c.start_cases i with ⟨-, hsame⟩ | ⟨-, ⟨-, hrefused⟩ | ⟨-, hstarted⟩⟩
  · rw [hsame]
    exact h
  · rw [hrefused]
    exact hspawn
  · rw [hstarted]
    exact hspawn.modify _

end Cluster

/-! ## Processes -/

/-- How long a push of a delivery at a replica may wait. -/
def Cluster.patience (c : Cluster) (i : Nat) : Nat :=
  (c.node i).config.delivery.sendTimeout.millisUp

/-- A delivery under way. -/
structure Call where
  /-- The replica that delivers. -/
  replica : Nat
  /-- Its pushes. -/
  pushes : List Push

/-- Where a task is that has opened or ended a live channel and has yet to set the gauge. -/
inductive GaugeUpdate where
  /-- The live channels of a replica have changed. -/
  | changed (replica : Nat)
  /-- They have been counted. -/
  | counted (count : Nat)
deriving DecidableEq

/-- Replicas in one process, with the deliveries of their producers. -/
structure Process where
  /-- The replicas. -/
  cluster : Cluster
  /-- The deliveries under way. -/
  calls : List Call := []
  /-- The reports of the deliveries that have ended, in this order. -/
  reports : List DeliveryReport := []
  /-- The updates of the gauge of live channels that are under way. -/
  updates : List GaugeUpdate := []

namespace Process

/-- A process that has just started, with a bus for all replicas or with one for each. -/
def start (shared : Option BusConfig) (exposed : Bool) : Process :=
  { cluster := .empty shared exposed }

/-- Replication, or time, has gone on. -/
def withGroup (p : Process) (group : ReplicaGroup) : Process :=
  { p with cluster := { p.cluster with group } }

/-- A live channel of a replica is dropped. If fewer consumers are connected now, the gauge has to
be set. -/
def dropped (p : Process) (i n : Nat) : Process :=
  let channels := (p.cluster.node i).channels.drop n
  { p with
    cluster := p.cluster.setChannels i channels
    updates :=
      if channels.connectionCount = (p.cluster.node i).channels.connectionCount then p.updates
      else p.updates ++ [.changed i] }

/-- A push of a delivery acts. -/
def act (p : Process) (k : Nat) (call : Call) (place : Nat) (push : Push)
    (action : Push.Action) : Process :=
  let acted := push.act p.cluster.now (p.cluster.patience call.replica)
    (p.cluster.node call.replica).channels action
  { p with
    cluster := p.cluster.setChannels call.replica acted.2
    calls := p.calls.set k
      { call with pushes := call.pushes.set place { push with stage := acted.1 } } }

/-- What can happen in a process with some workers. From opening or dropping a live channel until
the gauge is set a task does not wait, and so keeps its worker. -/
inductive Step (workers : Nat) (p : Process) : Process → Prop
  | add {config : BrokerConfig} {c : Cluster} : p.cluster.add config = .ok c →
      Step workers p { p with cluster := c }
  | start {i : Nat} : i < p.cluster.nodes.size →
      Step workers p { p with cluster := (p.cluster.start i).2 }
  /-- A replica publishes a change of its registry, whether the bus accepts it or not. -/
  | publishChange {i : Nat} (event : RegistryEvent) : i < p.cluster.nodes.size →
      Step workers p (p.withGroup (p.cluster.group.publishChange i event).2)
  /-- Something is published from elsewhere, or happens to a bus. -/
  | publishRaw (i : Nat) (topic key : String) (payload : Bytes) :
      Step workers p (p.withGroup (p.cluster.group.publishRaw i topic key payload).2)
  | transport (i : Nat) (f : Transport → Transport) :
      Step workers p (p.withGroup (p.cluster.group.modifyTransport i f))
  /-- Loops go on. -/
  | works {j : Journal} : Journal.Works ⟨p.cluster.group, []⟩ j →
      Step workers p (p.withGroup j.group)
  /-- A signal changes, or it is noted whether a replica has been started. -/
  | signal (i : Nat) (f : Signal → Signal) :
      Step workers p (p.withGroup (p.cluster.group.modifySignal i f))
  | isStarted (i : Nat) (isStarted : Bool) : Step workers p { p with
      cluster := { p.cluster with
        nodes := p.cluster.nodes.modify i fun n => { n with isStarted } } }
  /-- Time passes. -/
  | advance (time : Nat) : Step workers p { p with cluster := p.cluster.advanceTo time }
  /-- A consumer changes its subscriptions. -/
  | subscription (i : Nat) (operation : SubscriptionIndex.Operation) : Step workers p { p with
      cluster := { p.cluster with nodes := p.cluster.nodes.modify i fun n =>
        { n with index := (operation.perform n.index).2 } } }
  /-- A live channel is opened, whose consumer may have had another one before. -/
  | connect {i n : Nat} (consumer : Urn) {channels : LiveChannels} : i < p.cluster.nodes.size →
      p.updates.length < workers →
      (p.cluster.node i).channels.connect consumer = some (n, channels) →
      Step workers p { p with
        cluster := p.cluster.setChannels i channels
        updates := p.updates ++ [.changed i] }
  /-- A live channel is read or dropped. -/
  | receive (i n : Nat) : Step workers p { p with
      cluster := p.cluster.setChannels i ((p.cluster.node i).channels.receive n).2 }
  | drop (i n : Nat) : p.updates.length < workers → Step workers p (p.dropped i n)
  /-- The live channels of a replica are counted after a change. -/
  | count {k i : Nat} : p.updates[k]? = some (.changed i) → Step workers p { p with
      updates := p.updates.set k (.counted (p.cluster.node i).channels.connectionCount) }
  /-- The gauge is set to what was counted. -/
  | gauge {k n : Nat} : p.updates[k]? = some (.counted n) → Step workers p { p with
      cluster := p.cluster.setGauge n
      updates := p.updates.eraseIdx k }
  /-- Sessions come, change and go. -/
  | sessions (sessions : Std.ExtTreeMap Nat WebSocket.Session) (nextSession : Nat) :
      Step workers p { p with cluster := { p.cluster with sessions, nextSession } }
  /-- A producer pushes a notification, which is matched. -/
  | deliver {i : Nat} (producer : Urn) (notification : Notification) : i < p.cluster.nodes.size →
      Step workers p { p with calls := p.calls ++
        [⟨i, Post.pushes ⟨producer, notification, (p.cluster.node i).index⟩⟩] }
  /-- A push of a delivery goes on. -/
  | push {k : Nat} {call : Call} {place : Nat} {push : Push} {action : Push.Action} :
      p.calls[k]? = some call → call.replica < p.cluster.nodes.size →
      call.pushes[place]? = some push → action ≠ .abandon →
      Step workers p (p.act k call place push action)
  /-- A delivery has ended. -/
  | finish {k : Nat} {call : Call} {report : DeliveryReport} : p.calls[k]? = some call →
      Push.report? call.pushes = some report → Step workers p { p with
        cluster := p.cluster.setReplica call.replica
          (Gateway.finishDelivery (p.cluster.replica call.replica) report).2
        calls := p.calls.eraseIdx k
        reports := p.reports ++ [report] }
  /-- A delivery is given up with its request. -/
  | abandon {k : Nat} {call : Call} : p.calls[k]? = some call →
      call.replica < p.cluster.nodes.size →
      Step workers p { p with
        cluster := p.cluster.setChannels call.replica
          (Push.actsAll p.cluster.now (p.cluster.patience call.replica) [.abandon] call.pushes
            (p.cluster.node call.replica).channels).2
        calls := p.calls.eraseIdx k }

/-- Some steps. -/
def Steps (workers : Nat) : Process → Process → Prop := Relation.ReflTransGen (Step workers)

/-- Whether the process comes about with some workers. -/
def Reachable (workers : Nat) (p : Process) : Prop :=
  ∃ shared exposed, Steps workers (start shared exposed) p

variable {workers : Nat} {p p' : Process}

/-! ### The invariant is kept -/

/-- Whatever happens in a process, its metrics count it. -/
theorem audited_step (h : p.cluster.Audited p.reports) (hstep : p.Step workers p') :
    p'.cluster.Audited p'.reports := by
  cases hstep with
  | add hadd => exact h.add hadd
  | start hi => exact h.start hi
  | publishChange event hi =>
    exact h.replicate (ReplicaGroup.replicates_publishChange (h.size.symm ▸ hi) event)
  | publishRaw i topic key payload =>
    exact h.replicate (ReplicaGroup.replicates_publishRaw ..)
  | transport i f => exact h.replicate (ReplicaGroup.replicates_modifyTransport ..)
  | works hworks => exact h.replicate (hworks.replicates h.counted)
  | signal i f => exact h.replicate (ReplicaGroup.replicates_modifySignal ..)
  | advance time => exact h.replicate (ReplicaGroup.replicates_advanceTo ..)
  | isStarted | subscription => exact h.modify _
  | connect | receive | drop | push | abandon => exact h.modify _
  | count _ => exact h
  | gauge _ => exact h.setGauge _
  | sessions sessions nextSession => exact ⟨h.size, h.shared, h.counted, h.reports⟩
  | deliver producer notification _ => exact h
  | finish _ _ => exact h.finishDelivery _

theorem audited_of_reachable (h : p.Reachable workers) : p.cluster.Audited p.reports := by
  obtain ⟨shared, exposed, hsteps⟩ := h
  induction hsteps with
  | refl => exact Cluster.audited_empty shared exposed
  | tail _ hstep ih => exact audited_step ih hstep

/-! ### What the metrics say -/

/-- What is exposed of the metrics of a process agrees with the process, apart from its live
channels. -/
structure Counts (p : Process) : Prop where
  /-- What the synchronizers have counted, summed over all of them. -/
  applied : ((p.cluster.group.metrics.lines "eb_registry_events_applied_total").map (·.2)).sum =
    p.cluster.group.total (·.eventsApplied)
  decodeFailures : p.cluster.group.metrics.lines "eb_registry_decode_failures_total" =
    [("", p.cluster.group.total (·.decodeFailures))]
  publishFailures : p.cluster.group.metrics.lines "eb_registry_publish_failures_total" =
    [("", p.cluster.group.total (·.publishFailures))]
  /-- The deliveries that have ended with each outcome. -/
  notifications : p.cluster.group.metrics.lines "eb_notifications_total" =
    Metrics.labelled "outcome" ([.dispatched, .noSubscribers].map fun outcome =>
      (outcome.label, p.reports.countP (·.outcome = outcome)))
  /-- The pushes that have failed for each reason, over the reports of these deliveries. -/
  pushFailures : p.cluster.group.metrics.lines "eb_notification_push_failures_total" =
    Metrics.labelled "reason" ([.closed, .notConnected, .timeout].map fun reason =>
      (reason.label, (p.reports.flatMap (·.failed)).countP (·.2 = reason)))
  /-- The gauge shows the registry of the only replica. -/
  services : p.cluster.nodes.size = 1 → p.cluster.group.metrics.lines "eb_registry_services" =
    [("", (p.cluster.group.member 0).sync.registry.size)]

/-- At any time, and with any number of workers, the counters agree with what they report. -/
theorem counts_of_reachable (h : p.Reachable workers) : p.Counts := by
  have haudited := audited_of_reachable h
  refine ⟨?_, ?_, ?_, ?_, ?_, fun hone => ?_⟩
  · rw [Metrics.lines_eventsApplied, Metrics.sum_labelled, ← haudited.counted.applied]
    simp [Nat.add_comm]
  · rw [← haudited.counted.decodeFailures]
    simp [Metrics.lines, Metrics.families]
  · rw [← haudited.counted.publishFailures]
    simp [Metrics.lines, Metrics.families]
  · rw [Metrics.lines_notifications]
    simp only [haudited.reports.notifications]
  · rw [Metrics.lines_pushFailures]
    simp only [haudited.reports.pushFailures]
  · rw [← haudited.counted.services (haudited.size.trans hone).le]
    simp [Metrics.lines, Metrics.families]

end Process

end ServiceBroker
