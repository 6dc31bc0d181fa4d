import ServiceBroker.Config.Broker
import ServiceBroker.Proofs.Delivery.Deadlines
import ServiceBroker.Proofs.Delivery.Independence.Runs
import ServiceBroker.Proofs.SubscriptionIndex.Refinement

/-!
# Deliveries

The delivery of a notification from some time on, with the pushes that belong to it and the report
once all of them are over.

- `Delivery`: the delivery of a notification from some time on;
- `Delivery.matching`, `Delivery.otherwise`: the same delivery, had others been matched;
- `Delivery.report?_eq_some_iff`: when the report is there, and what it says;
- `Delivery.perm_of_report?`: it tells of each consumer that was matched once.
-/

namespace ServiceBroker

/-- A push with a result is over. -/
theorem Push.Stage.eq_over {stage : Push.Stage} {result : PushResult}
    (h : stage.result? = some result) : ∃ connection?, stage = .over connection? (some result) := by
  rcases stage with _ | _ | _ | ⟨connection?, report?⟩
  · cases h
  · cases h
  · cases h
  · exact ⟨connection?, by rw [show report? = some result from h]⟩

/-- The delivery of a notification, from some time on. -/
structure Delivery where
  /-- The traffic at that time. -/
  before : Traffic
  /-- The notification. -/
  post : Post
  /-- The consumers that are matched. -/
  consumers : List Urn

/-- The delivery of a notification of a producer to those that ask for it. -/
def Traffic.deliver (t : Traffic) (producer : Urn) (notification : Notification) : Delivery :=
  { before := t
    post := ⟨producer, notification, t.index⟩
    consumers := t.index.subscribers producer notification.descriptor.key }

namespace Delivery

/-- The same delivery, had others been matched. -/
def matching (d : Delivery) (others : List Urn) : Delivery := { d with consumers := others }

/-- The traffic when the consumers are matched. -/
def called (d : Delivery) : Traffic :=
  { d.before with
    posts := d.before.posts ++ [d.post]
    pushes := d.before.pushes ++ d.consumers.map fun consumer =>
      { consumer, frame := d.post.frame } }

/-- The traffic some moves later. -/
def after (d : Delivery) (moves : List Move) : Traffic := d.called.run moves

/-- A producer that pushes a notification calls for its delivery. -/
theorem called_deliver (t : Traffic) (producer : Urn) (notification : Notification) :
    (t.deliver producer notification).called = t.move (.post producer notification) := rfl

/-! ## The pushes of a delivery -/

/-- The place of the push to a consumer. -/
def place (d : Delivery) (consumer : Urn) : Nat :=
  d.before.pushes.length + d.consumers.idxOf consumer

/-- The places of all pushes. -/
def places (d : Delivery) : List Nat := d.consumers.map d.place

/-- How far the push to a consumer has come. -/
def stage? (d : Delivery) (later : Traffic) (consumer : Urn) : Option Push.Stage :=
  (later.pushes[d.place consumer]?).map (·.stage)

/-- The result for a consumer, once its push is over. -/
def result? (d : Delivery) (later : Traffic) (consumer : Urn) : Option PushResult :=
  (d.stage? later consumer).bind (·.result?)

/-- The report, once all pushes are over. -/
def report? (d : Delivery) (later : Traffic) : Option DeliveryReport :=
  Push.report? (d.places.filterMap (later.pushes[·]?))

/-- Where the pushes stand when others are matched; those to consumers that are not are left out. -/
def placeIn? (d : Delivery) (others : List Urn) (place : Nat) : Option Nat :=
  if place < d.before.pushes.length then some place
  else match d.consumers[place - d.before.pushes.length]? with
    | some consumer =>
      if consumer ∈ others then some ((d.matching others).place consumer) else none
    | none => some (place - d.consumers.length + others.length)

/-- What happens otherwise, when others are matched. -/
def otherwise (d : Delivery) (others : List Urn) (moves : List Move) : List Move :=
  moves.filterMap (Move.at? (d.placeIn? others))

/-- The delivery is not given up, and its pushes take their turns before time passes. -/
structure Runs (d : Delivery) (moves : List Move) : Prop where
  prompt : Traffic.Prompt d.places d.called moves
  kept : ∀ place ∈ d.places, .push place .abandon ∉ moves

variable {d : Delivery} {consumer : Urn} {moves : List Move} {report : DeliveryReport}

/-- The pushes of earlier notifications stand before those of the delivery. -/
theorem getElem?_called_of_lt {place : Nat} (h : place < d.before.pushes.length) :
    d.called.pushes[place]? = d.before.pushes[place]? :=
  List.getElem?_append_left h

/-- The pushes of the delivery stand in the order of their consumers. -/
theorem getElem?_called_add (d : Delivery) (j : Nat) :
    d.called.pushes[d.before.pushes.length + j]? =
      (d.consumers[j]?).map (⟨·, d.post.frame, .matched⟩) := by
  show (d.before.pushes ++ _)[d.before.pushes.length + j]? = _
  rw [List.getElem?_append_right (Nat.le_add_right ..), Nat.add_sub_cancel_left, List.getElem?_map]

theorem length_called (d : Delivery) :
    d.called.pushes.length = d.before.pushes.length + d.consumers.length := by
  rw [called, List.length_append, List.length_map]

/-- Every consumer that is matched gets its push. -/
theorem getElem?_called (h : consumer ∈ d.consumers) :
    d.called.pushes[d.place consumer]? = some ⟨consumer, d.post.frame, .matched⟩ := by
  rw [place, getElem?_called_add, List.getElem?_idxOf h, Option.map_some]

/-- Each push keeps its consumer and its frame. -/
theorem exists_stages (d : Delivery) (moves : List Move) :
    ∃ stage : Urn → Push.Stage, ∀ consumer ∈ d.consumers,
      (d.after moves).pushes[d.place consumer]? =
        some ⟨consumer, d.post.frame, stage consumer⟩ := by
  have hstage (consumer : Urn) : ∃ stage, consumer ∈ d.consumers →
      (d.after moves).pushes[d.place consumer]? = some ⟨consumer, d.post.frame, stage⟩ := by
    by_cases hmem : consumer ∈ d.consumers
    · obtain ⟨stage, hstage⟩ := Traffic.exists_stage_run (getElem?_called hmem) moves
      exact ⟨stage, fun _ => hstage⟩
    · exact ⟨.matched, fun h => absurd h hmem⟩
  choose stage hstage using hstage
  exact ⟨stage, hstage⟩

section Stages

variable {stage : Urn → Push.Stage}
  (hstage : ∀ consumer ∈ d.consumers,
    (d.after moves).pushes[d.place consumer]? = some ⟨consumer, d.post.frame, stage consumer⟩)

include hstage

private theorem stage?_eq (h : consumer ∈ d.consumers) :
    d.stage? (d.after moves) consumer = some (stage consumer) := by
  rw [stage?, hstage consumer h]
  rfl

theorem result?_eq (h : consumer ∈ d.consumers) :
    d.result? (d.after moves) consumer = (stage consumer).result? := by
  rw [result?, stage?_eq hstage h]
  rfl

/-- What is reported, consumer by consumer. -/
theorem report?_eq_some_iff : d.report? (d.after moves) = some report ↔
    (∀ consumer ∈ d.consumers, (stage consumer).result?.isSome) ∧
      (report.outcome = if d.consumers.isEmpty then .noSubscribers else .dispatched) ∧
      (report.delivered = d.consumers.filterMap fun consumer =>
        if (stage consumer).result? = some none then some consumer else none) ∧
      report.failed = d.consumers.filterMap fun consumer =>
        (stage consumer).result?.join.map (consumer, ·) := by
  have hpushes : d.places.filterMap ((d.after moves).pushes[·]?) =
      d.consumers.map fun consumer => ⟨consumer, d.post.frame, stage consumer⟩ := by
    rw [places, List.filterMap_map, ← List.filterMap_eq_map]
    exact List.filterMap_congr hstage
  rw [report?, hpushes, Push.report?_eq_some_iff]
  simp only [List.forall_mem_map, List.isEmpty_map, List.filterMap_map, Function.comp_def]

theorem mem_delivered (hreport : d.report? (d.after moves) = some report) :
    consumer ∈ report.delivered ↔
      consumer ∈ d.consumers ∧ (stage consumer).result? = some none := by
  obtain ⟨-, -, hdelivered, -⟩ := (report?_eq_some_iff hstage).mp hreport
  rw [hdelivered, List.mem_filterMap]
  constructor
  · rintro ⟨other, hmem, hsome⟩
    split at hsome
    next hresult =>
      obtain rfl := Option.some.inj hsome
      exact ⟨hmem, hresult⟩
    next => cases hsome
  · rintro ⟨hmem, hresult⟩
    exact ⟨consumer, hmem, if_pos hresult⟩

theorem mem_failed (hreport : d.report? (d.after moves) = some report) {error : ChannelError} :
    (consumer, error) ∈ report.failed ↔
      consumer ∈ d.consumers ∧ (stage consumer).result? = some (some error) := by
  obtain ⟨-, -, -, hfailed⟩ := (report?_eq_some_iff hstage).mp hreport
  rw [hfailed, List.mem_filterMap]
  constructor
  · rintro ⟨other, hmem, hsome⟩
    obtain ⟨error', herror, heq⟩ := Option.map_eq_some_iff.mp hsome
    cases heq
    exact ⟨hmem, Option.join_eq_some_iff.mp herror⟩
  · rintro ⟨hmem, hresult⟩
    exact ⟨consumer, hmem, by rw [hresult]; rfl⟩

/-- The consumers that are reported are those that were matched. -/
theorem perm_of_report? (hreport : d.report? (d.after moves) = some report) :
    (report.delivered ++ report.failed.map (·.1)).Perm d.consumers := by
  obtain ⟨hsome, -, hdelivered, hfailed⟩ := (report?_eq_some_iff hstage).mp hreport
  rw [hdelivered, hfailed]
  -- by its result, each consumer stands in the one list or in the other
  generalize d.consumers = consumers at hsome
  induction consumers with
  | nil => exact .refl _
  | cons consumer consumers ih =>
    have hrest := ih fun other hmem => hsome other (List.mem_cons_of_mem _ hmem)
    obtain ⟨result, hresult⟩ := Option.isSome_iff_exists.mp (hsome consumer List.mem_cons_self)
    rw [List.filterMap_cons, List.filterMap_cons, hresult]
    cases result with
    | none => exact hrest.cons consumer
    | some error => exact List.perm_middle.trans (hrest.cons consumer)

end Stages

theorem isSome_report? : (d.report? (d.after moves)).isSome ↔
    ∀ consumer ∈ d.consumers, (d.result? (d.after moves) consumer).isSome := by
  obtain ⟨stage, hstage⟩ := exists_stages d moves
  have hresults : (∀ consumer ∈ d.consumers, (d.result? (d.after moves) consumer).isSome) ↔
      ∀ consumer ∈ d.consumers, (stage consumer).result?.isSome :=
    forall₂_congr fun consumer hmem => by rw [result?_eq hstage hmem]
  rw [hresults, Option.isSome_iff_exists]
  constructor
  · rintro ⟨report, hreport⟩
    exact ((report?_eq_some_iff hstage).mp hreport).1
  · intro hsome
    exact ⟨⟨_, _, _⟩, (report?_eq_some_iff hstage).mpr ⟨hsome, rfl, rfl, rfl⟩⟩

end Delivery

end ServiceBroker
