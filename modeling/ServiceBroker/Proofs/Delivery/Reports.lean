import ServiceBroker.Delivery.Dispatch
import ServiceBroker.Proofs.Delivery.Channels.Histories
import ServiceBroker.Proofs.Metrics

/-!
# Delivery reports

However its pushes go, a delivery has one result for each consumer that was matched, and all of them
once its time is over.

- `Dispatch.matched_of_report`: a report counts as many consumers as were matched;
- `Dispatch.isSome_report_settle`: there is a report as soon as the deadline has come;
- `Metrics.countReport`: a report is counted once, under its outcome.
-/

namespace ServiceBroker

namespace Dispatch

variable {d : Dispatch} {report : DeliveryReport}

/-! ## One result for each push -/

/-- The result of a push, if it has ended. -/
def result? (push : Urn × PushState) : Option (Urn × PushResult) :=
  match push.2 with
  | .ended result => some (push.1, result)
  | _ => none

theorem results_eq (d : Dispatch) : d.results? = d.pushes.mapM result? := rfl

theorem length_of_results {results : List (Urn × PushResult)} (h : d.results? = some results) :
    results.length = d.pushes.length := by
  have hlength (pushes : List (Urn × PushState)) (results : List (Urn × PushResult))
      (h : pushes.mapM result? = some results) : results.length = pushes.length := by
    induction pushes generalizing results with
    | nil =>
      obtain rfl : [] = results := Option.some.inj h
      rfl
    | cons push pushes ih =>
      rw [List.mapM_cons] at h
      obtain ⟨result, -, h⟩ := Option.bind_eq_some_iff.mp h
      obtain ⟨rest, hrest, h⟩ := Option.bind_eq_some_iff.mp h
      obtain rfl : result :: rest = results := Option.some.inj h
      rw [List.length_cons, ih rest hrest, List.length_cons]
  exact hlength d.pushes results h

/-- A push has either gone through or failed. -/
theorem length_delivered_add_failed (results : List (Urn × PushResult)) :
    (results.filterMap fun push => if push.2.isNone then some push.1 else none).length +
      (results.filterMap fun push => push.2.map (push.1, ·)).length = results.length := by
  induction results with
  | nil => rfl
  | cons push results ih =>
    rw [List.filterMap_cons, List.filterMap_cons, List.length_cons]
    obtain ⟨consumer, _ | error⟩ := push
    · simp only [Option.isNone_none, if_true, Option.map_none, List.length_cons]
      omega
    · simp only [Option.isNone_some, Bool.false_eq_true, if_false, Option.map_some,
        List.length_cons]
      omega

/-- A report counts as many consumers as were matched. -/
theorem matched_of_report (h : d.report? = some report) : report.matched = d.pushes.length := by
  obtain ⟨results, hresults, rfl⟩ := Option.map_eq_some_iff.mp h
  rw [← length_of_results hresults]
  exact length_delivered_add_failed results

/-- The outcome of a report tells whether anybody was matched. -/
theorem outcome_of_report (h : d.report? = some report) :
    report.outcome = if d.pushes = [] then .noSubscribers else .dispatched := by
  obtain ⟨results, hresults, rfl⟩ := Option.map_eq_some_iff.mp h
  have hlength := length_of_results hresults
  have hempty : results.isEmpty = d.pushes.isEmpty := by
    rw [Bool.eq_iff_iff, List.isEmpty_iff_length_eq_zero, List.isEmpty_iff_length_eq_zero, hlength]
  rw [hempty]
  simp only [List.isEmpty_iff]

/-! ## Looking at a push -/

/-- A push that was told something has ended so. -/
theorem settlePush_of_ended {ticket : Ticket} {channels : LiveChannels} {result : PushResult}
    (h : channels.ended[ticket.number]? = some result) (deadline now : Nat) :
    settlePush deadline now (.waits ticket) channels =
      (.ended result, { channels with ended := channels.ended.erase ticket.number }) := by
  have hcollect := channels.collect_eq ticket
  rw [h] at hcollect
  simp only [settlePush, hcollect]

/-- A push that was told nothing is given up at its deadline, and waits on until then. -/
theorem settlePush_of_none {ticket : Ticket} {channels : LiveChannels}
    (h : channels.ended[ticket.number]? = none) (deadline now : Nat) :
    settlePush deadline now (.waits ticket) channels =
      if deadline ≤ now then (.ended (some .timeout), channels.cancel ticket)
      else (.waits ticket, channels) := by
  simp only [settlePush, LiveChannels.collect_of_none h]

/-! ## The deadline -/

/-- A push that has not ended by its deadline is given up then. -/
private theorem exists_ended_settlePush {deadline now : Nat} (h : deadline ≤ now)
    (state : PushState)
    (channels : LiveChannels) :
    ∃ result, (settlePush deadline now state channels).1 = .ended result := by
  cases state with
  | ended result => exact ⟨result, rfl⟩
  | due time =>
    by_cases hdue : time ≤ now
    · exact ⟨none, by simp only [settlePush, hdue, if_true]⟩
    · exact ⟨some .timeout, by simp only [settlePush, hdue, if_false, h, if_true]⟩
  | stuck => exact ⟨some .timeout, by simp only [settlePush, h, if_true]⟩
  | waits ticket =>
    cases hended : channels.ended[ticket.number]? with
    | some result => exact ⟨result, by rw [settlePush_of_ended hended]⟩
    | none => exact ⟨some .timeout, by rw [settlePush_of_none hended, if_pos h]⟩

theorem settlePushes_cons (deadline now : Nat) (push : Urn × PushState)
    (pushes : List (Urn × PushState)) (channels : LiveChannels) :
    settlePushes deadline now (push :: pushes) channels =
      ((push.1, (settlePush deadline now push.2 channels).1) ::
        (settlePushes deadline now pushes (settlePush deadline now push.2 channels).2).1,
        (settlePushes deadline now pushes (settlePush deadline now push.2 channels).2).2) := rfl

theorem length_settlePushes (deadline now : Nat) (pushes : List (Urn × PushState))
    (channels : LiveChannels) :
    (settlePushes deadline now pushes channels).1.length = pushes.length := by
  induction pushes generalizing channels with
  | nil => rfl
  | cons push pushes ih => rw [settlePushes_cons, List.length_cons, ih, List.length_cons]

@[simp]
theorem deadline_settle (d : Dispatch) (now : Nat) (channels : LiveChannels) :
    (d.settle now channels).1.deadline = d.deadline := rfl

/-- Looking at a delivery loses none of its pushes. -/
theorem length_settle (d : Dispatch) (now : Nat) (channels : LiveChannels) :
    (d.settle now channels).1.pushes.length = d.pushes.length :=
  length_settlePushes ..

/-- All results are there once the deadline has come. -/
theorem isSome_report_settle {now : Nat} (h : d.deadline ≤ now) (channels : LiveChannels) :
    ((d.settle now channels).1.report?).isSome := by
  have hresults (pushes : List (Urn × PushState)) (channels : LiveChannels) :
      ((settlePushes d.deadline now pushes channels).1.mapM result?).isSome := by
    induction pushes generalizing channels with
    | nil => rfl
    | cons push pushes ih =>
      obtain ⟨result, hended⟩ := exists_ended_settlePush h push.2 channels
      obtain ⟨rest, hrest⟩ := Option.isSome_iff_exists.mp
        (ih (settlePush d.deadline now push.2 channels).2)
      rw [settlePushes_cons, hended, List.mapM_cons, hrest]
      rfl
  rw [report?, Option.isSome_map]
  exact hresults d.pushes channels

/-! ## Pushes that wait -/

/-- If there is no report, a push has not ended. -/
private theorem exists_result_eq_none (h : d.report? = none) :
    ∃ push ∈ d.pushes, result? push = none := by
  have hresults (pushes : List (Urn × PushState)) (h : pushes.mapM result? = none) :
      ∃ push ∈ pushes, result? push = none := by
    induction pushes with
    | nil => cases h
    | cons push pushes ih =>
      cases hpush : result? push with
      | none => exact ⟨push, List.mem_cons_self, hpush⟩
      | some result =>
        rw [List.mapM_cons, hpush] at h
        cases hrest : pushes.mapM result? with
        | none =>
          obtain ⟨other, hmem, hother⟩ := ih hrest
          exact ⟨other, List.mem_cons_of_mem _ hmem, hother⟩
        | some results =>
          rw [hrest] at h
          cases h
  rw [report?, results_eq, Option.map_eq_none_iff] at h
  exact hresults d.pushes h

/-- Then something happens by the deadline. -/
theorem exists_nextTime_le (h : d.report? = none) :
    ∃ time, d.nextTime? = some time ∧ time ≤ d.deadline := by
  obtain ⟨push, hmem, hnone⟩ := exists_result_eq_none h
  unfold nextTime?
  dsimp only
  generalize hnext : (fun x : Urn × PushState => _) = next
  have htime : ∃ time, next push = some time ∧ time ≤ d.deadline := by
    obtain ⟨consumer, state⟩ := push
    subst hnext
    cases state with
    | ended result => cases hnone
    | due time => exact ⟨_, rfl, Nat.min_le_right time d.deadline⟩
    | waits | stuck => exact ⟨_, rfl, Nat.le_refl _⟩
  obtain ⟨time, hpush, hle⟩ := htime
  have htimes : time ∈ d.pushes.filterMap next := List.mem_filterMap.mpr ⟨push, hmem, hpush⟩
  obtain ⟨first, hfirst⟩ := Option.isSome_iff_exists.mp (List.isSome_min?_of_mem htimes)
  have hfirst_le : first ≤ time := (List.min?_eq_some_iff.mp hfirst).2 time htimes
  exact ⟨first, hfirst, Nat.le_trans hfirst_le hle⟩

/-- While a push waits there is no report. -/
theorem report_eq_none {consumer : Urn} {ticket : Ticket}
    (h : (consumer, PushState.waits ticket) ∈ d.pushes) : d.report? = none := by
  have hresults (pushes : List (Urn × PushState)) (h : (consumer, .waits ticket) ∈ pushes) :
      pushes.mapM result? = none := by
    induction pushes with
    | nil => exact absurd h List.not_mem_nil
    | cons push pushes ih =>
      rw [List.mapM_cons]
      rcases List.mem_cons.mp h with rfl | hmem
      · rfl
      · rw [ih hmem]
        cases result? push <;> rfl
  rw [report?, results_eq, hresults d.pushes h, Option.map_none]

/-- Looking at a push tells no other push anything. -/
private theorem ended_settlePush {number : Nat} {channels : LiveChannels}
    (h : channels.ended[number]? = none) (deadline now : Nat) (state : PushState) :
    (settlePush deadline now state channels).2.ended[number]? = none := by
  -- what a push was told goes when it has heard it, and what others were told stays
  have herase (other : Nat) : (channels.ended.erase other)[number]? = none := by
    rw [Std.ExtTreeMap.getElem?_erase]
    split
    · rfl
    · exact h
  cases state with
  | ended | stuck => exact h
  | due time =>
    unfold settlePush
    dsimp only
    split
    · exact h
    · split <;> exact h
  | waits ticket =>
    cases hended : channels.ended[ticket.number]? with
    | some result =>
      rw [settlePush_of_ended hended]
      exact herase _
    | none =>
      rw [settlePush_of_none hended]
      split
      · exact herase _
      · exact h

/-- Looking at some pushes tells no other push anything. -/
private theorem ended_settlePushes {number : Nat} {channels : LiveChannels}
    (h : channels.ended[number]? = none) (deadline now : Nat) (pushes : List (Urn × PushState)) :
    (settlePushes deadline now pushes channels).2.ended[number]? = none := by
  induction pushes generalizing channels with
  | nil => exact h
  | cons push pushes ih =>
    rw [settlePushes_cons]
    exact ih (ended_settlePush h deadline now push.2)

/-- A push waits on among others, which are looked at before it or after it. -/
private theorem waits_settlePushes {consumer : Urn} {deadline now : Nat} {ticket : Ticket}
    {channels : LiveChannels} {pushes : List (Urn × PushState)} (hnow : now < deadline)
    (hended : channels.ended[ticket.number]? = none)
    (h : (consumer, PushState.waits ticket) ∈ pushes) :
    (consumer, PushState.waits ticket) ∈ (settlePushes deadline now pushes channels).1 := by
  induction pushes generalizing channels with
  | nil => exact absurd h List.not_mem_nil
  | cons push pushes ih =>
    rw [settlePushes_cons]
    rcases List.mem_cons.mp h with rfl | hrest
    · rw [settlePush_of_none hended, if_neg (Nat.not_le.mpr hnow)]
      exact List.mem_cons_self
    · exact List.mem_cons_of_mem _ (ih (ended_settlePush hended deadline now push.2) hrest)

/-- A push waits on while nothing was told to it and its time is not over. -/
theorem waits_settle {consumer : Urn} {ticket : Ticket} {now : Nat} {channels : LiveChannels}
    (hnow : now < d.deadline) (hended : channels.ended[ticket.number]? = none)
    (h : (consumer, PushState.waits ticket) ∈ d.pushes) :
    (consumer, PushState.waits ticket) ∈ (d.settle now channels).1.pushes ∧
      (d.settle now channels).2.ended[ticket.number]? = none :=
  ⟨waits_settlePushes hnow hended h, ended_settlePushes hended d.deadline now d.pushes⟩

/-- There is a push for each consumer that was matched. -/
theorem length_start (config : DeliveryConfig) (index : SubscriptionIndex) (route : Route)
    (now : Nat) (producer : Urn) (notification : Notification) (channels : LiveChannels) :
    (start config index route now producer notification channels).1.pushes.length =
      (index.subscribers producer notification.descriptor.key).length := by
  have hall (frame : Bytes) (consumers : List Urn) (channels : LiveChannels) :
      (startAll route now frame consumers channels).1.length = consumers.length := by
    induction consumers generalizing channels with
    | nil => rfl
    | cons consumer consumers ih =>
      rw [startAll]
      exact congrArg (· + 1) (ih _)
  exact hall ..

end Dispatch

/-! ## Live pushes -/

/-- The state of a push that was handed to the live channels. -/
def PushState.ofStart : LiveChannels.Start → PushState
  | .ended result => .ended result
  | .waits ticket => .waits ticket

namespace Dispatch

theorem startPush_live (now : Nat) (frame : Bytes) (channels : LiveChannels) (consumer : Urn) :
    startPush .live now frame channels consumer =
      (.ofStart (channels.push consumer frame).1, (channels.push consumer frame).2) := by
  unfold startPush
  dsimp only
  split
  next h =>
    rw [h]
    rfl
  next h =>
    rw [h]
    rfl

/-- A push that starts tells no other push anything. -/
private theorem ended_startPush (route : Route) (now : Nat) (frame : Bytes)
    (channels : LiveChannels)
    (consumer : Urn) : (startPush route now frame channels consumer).2.ended = channels.ended := by
  cases route with
  | live =>
    rw [startPush_live, LiveChannels.push]
    split
    · rfl
    · exact LiveChannels.ended_pushTo
  | scripted endpoints =>
    unfold startPush
    dsimp only
    split <;> rfl

private theorem ended_startAll (route : Route) (now : Nat) (frame : Bytes) (consumers : List Urn)
    (channels : LiveChannels) :
    (startAll route now frame consumers channels).2.ended = channels.ended := by
  induction consumers generalizing channels with
  | nil => rfl
  | cons consumer consumers ih =>
    rw [startAll]
    exact (ih _).trans (ended_startPush route now frame channels consumer)

/-- Starting a delivery tells no push anything that waited before. -/
theorem ended_start (config : DeliveryConfig) (index : SubscriptionIndex) (route : Route)
    (now : Nat) (producer : Urn) (notification : Notification) (channels : LiveChannels) :
    (start config index route now producer notification channels).2.ended = channels.ended :=
  ended_startAll ..

/-- All that a delivery does to the live channels is to push its frame to each consumer in turn. -/
theorem channels_startAll (now : Nat) (frame : Bytes) (consumers : List Urn)
    (channels : LiveChannels) :
    (startAll .live now frame consumers channels).2 =
      consumers.foldl (fun channels consumer => (channels.push consumer frame).2) channels := by
  induction consumers generalizing channels with
  | nil => rfl
  | cons consumer consumers ih =>
    rw [List.foldl_cons, ← ih, startAll, startPush_live]

/-- A notification that one connected consumer asked for is pushed to its channel, and that is
all. -/
theorem start_of_subscribers {config : DeliveryConfig} {index : SubscriptionIndex}
    {producer consumer : Urn} {notification : Notification} {channels : LiveChannels} {n : Nat}
    (h : index.subscribers producer notification.descriptor.key = [consumer])
    (hcurrent : channels.current[consumer]? = some n) (now : Nat) :
    ∃ frame, start config index .live now producer notification channels =
      (⟨now + config.sendTimeout.millisUp,
        [(consumer, .ofStart (channels.pushTo n frame).1)]⟩, (channels.pushTo n frame).2) := by
  refine ⟨(notification.envelope producer).frame, ?_⟩
  have hpush (frame : Bytes) : channels.push consumer frame = channels.pushTo n frame := by
    rw [LiveChannels.push, hcurrent]
  rw [start, h]
  simp only [startAll, startPush_live, hpush]

end Dispatch

/-! ## Counting -/

namespace Metrics

theorem dispatched_countReport (m : Metrics) (report : DeliveryReport) :
    (m.countReport report).dispatched =
      m.dispatched + if report.outcome = .dispatched then 1 else 0 :=
  m.notifications_countReport report .dispatched

theorem withoutSubscribers_countReport (m : Metrics) (report : DeliveryReport) :
    (m.countReport report).withoutSubscribers =
      m.withoutSubscribers + if report.outcome = .noSubscribers then 1 else 0 :=
  m.notifications_countReport report .noSubscribers

end Metrics

end ServiceBroker
