import Mathlib.Algebra.GroupWithZero.Nat
import ServiceBroker.Delivery.Dispatch
import ServiceBroker.Proofs.Replication.Synchronizer

/-!
# What is counted

Each part of the program counts what is its own and leaves the other counts alone.

## Main definitions

* `Metrics.lines`: the lines of a family in the exposition;
* `Metrics.notifications`, `Metrics.pushFailures`: the counts under a label;
* `Metrics.Reports`: the counts of deliveries are those of some reports;
* `Synchronizer.CountedIn`: what a synchronizer has counted, the metrics have counted.

## Main results

* `Metrics.notifications_countReport`, `Metrics.pushFailures_countReport`: a report is counted once,
  with every failed push;
* `Synchronizer.countedIn_handle`, `Synchronizer.countedIn_publishChange`: a synchronizer counts on
  both sides.
-/

namespace ServiceBroker

namespace Metrics

/-! ## Exposition -/

/-- The lines of a family, by its name. -/
def lines (m : Metrics) (family : String) : List (String × Nat) :=
  (m.families.filter (·.name = family)).flatMap (·.lines)

/-- The deliveries that were counted under an outcome. -/
def notifications (m : Metrics) : DeliveryOutcome → Nat
  | .noSubscribers => m.withoutSubscribers
  | .dispatched => m.dispatched

/-- The failed pushes that were counted under a reason. -/
def pushFailures (m : Metrics) : ChannelError → Nat
  | .notConnected => m.notConnected
  | .closed => m.closed
  | .timeout => m.timeouts

variable (m : Metrics)

theorem lines_notifications : m.lines "eb_notifications_total" =
    labelled "outcome" ([.dispatched, .noSubscribers].map fun outcome =>
      (outcome.label, m.notifications outcome)) := by
  simp [lines, families, notifications]

theorem lines_pushFailures : m.lines "eb_notification_push_failures_total" =
    labelled "reason" ([.closed, .notConnected, .timeout].map fun reason =>
      (reason.label, m.pushFailures reason)) := by
  simp [lines, families, pushFailures]

theorem lines_eventsApplied : m.lines "eb_registry_events_applied_total" =
    labelled "action" [(Action.deregister.name, m.deregistersApplied),
      (Action.register.name, m.registersApplied)] := by
  simp [lines, families]

/-- Lines that are left out add nothing. -/
theorem sum_labelled (label : String) (counts : List (String × Nat)) :
    ((labelled label counts).map (·.2)).sum = (counts.map (·.2)).sum := by
  unfold labelled
  rw [List.map_map]
  induction counts with
  | nil => rfl
  | cons count counts ih =>
    rw [List.filter_cons]
    split
    next => simpa using ih
    next hzero =>
      have hzero : count.2 = 0 := by simpa using hzero
      simpa [hzero] using ih

/-! ## Deliveries -/

/-- The counts of deliveries alone. -/
def deliveries (m : Metrics) : Metrics where
  withoutSubscribers := m.withoutSubscribers
  dispatched := m.dispatched
  notConnected := m.notConnected
  closed := m.closed
  timeouts := m.timeouts

/-- The counts of replication alone. -/
def replication (m : Metrics) : Metrics where
  registersApplied := m.registersApplied
  deregistersApplied := m.deregistersApplied
  decodeFailures := m.decodeFailures
  publishFailures := m.publishFailures
  services := m.services

/-- The counts of deliveries are those of some reports. -/
structure Reports (m : Metrics) (reports : List DeliveryReport) : Prop where
  /-- Each report is counted under its outcome. -/
  notifications : ∀ outcome, m.notifications outcome = reports.countP (·.outcome = outcome)
  /-- Each failed push is counted under its reason. -/
  pushFailures : ∀ reason,
    m.pushFailures reason = (reports.flatMap (·.failed)).countP (·.2 = reason)

/-- No delivery has been counted yet. -/
theorem reports_nil (registered : Bool) : Reports { registered } [] where
  notifications outcome := by cases outcome <;> rfl
  pushFailures reason := by cases reason <;> rfl

variable {m} {m' : Metrics} {reports : List DeliveryReport}

theorem Reports.congr (h : m.Reports reports) (heq : m'.deliveries = m.deliveries) :
    m'.Reports reports where
  notifications outcome := by
    have hsame : m'.deliveries.notifications outcome = m.deliveries.notifications outcome := by
      rw [heq]
    rw [← h.notifications]
    cases outcome <;> exact hsame
  pushFailures reason := by
    have hsame : m'.deliveries.pushFailures reason = m.deliveries.pushFailures reason := by
      rw [heq]
    rw [← h.pushFailures]
    cases reason <;> exact hsame

section Failures

variable (m) (failed : List (Urn × ChannelError))

private theorem pushFailures_countPushFailure (error reason : ChannelError) :
    (m.countPushFailure error).pushFailures reason =
      m.pushFailures reason + if error = reason then 1 else 0 := by
  cases error <;> cases reason <;> rfl

/-- Each failed push is counted under its reason, and nothing else is. -/
theorem foldl_countPushFailure :
    let counted := failed.foldl (fun m push => m.countPushFailure push.2) m
    (∀ reason, counted.pushFailures reason = m.pushFailures reason + failed.countP (·.2 = reason)) ∧
      (∀ outcome, counted.notifications outcome = m.notifications outcome) ∧
      counted.replication = m.replication ∧ counted.liveChannels = m.liveChannels := by
  induction failed generalizing m with
  | nil => exact ⟨fun _ => rfl, fun _ => rfl, rfl, rfl⟩
  | cons push failed ih =>
    obtain ⟨hfailures, hnotifications, hreplication, hlive⟩ := ih (m.countPushFailure push.2)
    rw [List.foldl_cons]
    refine ⟨fun reason => ?_, fun outcome => ?_, ?_, ?_⟩
    · rw [hfailures, pushFailures_countPushFailure, List.countP_cons]
      simp only [decide_eq_true_eq]
      omega
    · rw [hnotifications]
      cases push.2 <;> cases outcome <;> rfl
    · rw [hreplication]
      cases push.2 <;> rfl
    · rw [hlive]
      cases push.2 <;> rfl

end Failures

section CountReport

variable (m) (report : DeliveryReport)

/-- A report is counted once, under its outcome. -/
theorem notifications_countReport (outcome : DeliveryOutcome) :
    (m.countReport report).notifications outcome =
      m.notifications outcome + if report.outcome = outcome then 1 else 0 := by
  obtain ⟨-, hnotifications, -, -⟩ := m.foldl_countPushFailure report.failed
  rw [← hnotifications, countReport]
  cases report.outcome <;> cases outcome <;> rfl

/-- Every failed push of a report is counted under its reason. -/
theorem pushFailures_countReport (reason : ChannelError) :
    (m.countReport report).pushFailures reason =
      m.pushFailures reason + report.failed.countP (·.2 = reason) := by
  obtain ⟨hfailures, -, -, -⟩ := m.foldl_countPushFailure report.failed
  rw [← hfailures, countReport]
  cases report.outcome <;> cases reason <;> rfl

/-- Counting a report leaves all other counts alone. -/
theorem countReport_frame :
    (m.countReport report).replication = m.replication ∧
      (m.countReport report).liveChannels = m.liveChannels := by
  obtain ⟨-, -, hreplication, hlive⟩ := m.foldl_countPushFailure report.failed
  rw [← hreplication, ← hlive, countReport]
  cases report.outcome <;> exact ⟨rfl, rfl⟩

end CountReport

theorem Reports.countReport (h : m.Reports reports) (report : DeliveryReport) :
    (m.countReport report).Reports (reports ++ [report]) where
  notifications outcome := by
    rw [notifications_countReport, h.notifications, List.countP_append]
    simp [List.countP_cons]
  pushFailures reason := by
    rw [pushFailures_countReport, h.pushFailures, List.flatMap_append, List.countP_append]
    simp

end Metrics

/-! ## Replication -/

namespace Synchronizer

/-- What was counted between two states of a synchronizer was counted in the metrics, and nothing
else was. -/
structure CountedIn (s s' : Synchronizer) (m m' : Metrics) : Prop where
  applied : m'.registersApplied + m'.deregistersApplied + s.eventsApplied =
    m.registersApplied + m.deregistersApplied + s'.eventsApplied
  decodeFailures : m'.decodeFailures + s.decodeFailures = m.decodeFailures + s'.decodeFailures
  publishFailures : m'.publishFailures + s.publishFailures = m.publishFailures + s'.publishFailures
  /-- The size of the registry is noted whenever it may have changed. -/
  services : m.services = s.registry.size → m'.services = s'.registry.size
  deliveries : m'.deliveries = m.deliveries
  liveChannels : m'.liveChannels = m.liveChannels

theorem CountedIn.refl (s : Synchronizer) (m : Metrics) : CountedIn s s m m :=
  ⟨rfl, rfl, rfl, id, rfl, rfl⟩

/-- A message is counted on both sides, whether it holds an event or not. -/
theorem countedIn_handle (s : Synchronizer) (message : BusMessage) (m : Metrics) :
    CountedIn s (s.handle message m).1 m (s.handle message m).2 := by
  cases hdecode : RegistryEvent.decode message.payload with
  | error e =>
    rw [handle_of_error hdecode]
    exact ⟨rfl, Nat.add_right_comm .., rfl, id, rfl, rfl⟩
  | ok event =>
    rw [handle_of_ok hdecode]
    cases event.action with
    | register | deregister =>
      refine ⟨?_, rfl, rfl, fun _ => rfl, rfl, rfl⟩
      simp only [Metrics.countApplied]
      omega

/-- A change that cannot be published is counted on both sides. -/
theorem countedIn_publishChange (s : Synchronizer) (event : RegistryEvent) (transport : Transport)
    (m : Metrics) :
    CountedIn s (s.publishChange event transport m).sync m
      (s.publishChange event transport m).metrics := by
  cases hpublish : transport.publish s.config.topic event.key event.encode with
  | error cause =>
    rw [publishChange_of_error hpublish]
    exact ⟨rfl, rfl, Nat.add_right_comm .., id, rfl, rfl⟩
  | ok accepted =>
    rw [publishChange_of_ok hpublish]
    exact .refl s m

end Synchronizer

end ServiceBroker
