import ServiceBroker.Proofs.Delivery.Uninterrupted

/-!
# The report of a delivery

Whoever has pushed a notification waits until all of its pushes are over, in whatever order they
went on, and reports their results.

- `Push.report?`: the report of some pushes, once all of them are over;
- `Push.report?_eq_some_iff`: what is reported;
- `Push.report?_of_shows`: a delivery that is not interrupted reports the same.
-/

namespace ServiceBroker

/-- A push as it is reported; one that has not been started, or was abandoned, has no end. -/
def Push.Stage.state : Push.Stage → PushState
  | .matched | .holds _ | .over _ none => .stuck
  | .waits ticket _ => .waits ticket
  | .over _ (some result) => .ended result

/-- The result of a push that is over and was not abandoned. -/
def Push.Stage.result? : Push.Stage → Option PushResult
  | .over _ report? => report?
  | _ => none

namespace Push

/-- The report of some pushes, once all of them are over. -/
def report? (pushes : List Push) : Option DeliveryReport :=
  Dispatch.report? ⟨0, pushes.map fun push => (push.consumer, push.stage.state)⟩

variable {pushes : List Push} {report : DeliveryReport}

/-- Each push with its result, if all are over. -/
private theorem results?_eq (deadline : Nat) (pushes : List Push) :
    Dispatch.results? ⟨deadline, pushes.map fun push => (push.consumer, push.stage.state)⟩ =
      pushes.mapM fun push => push.stage.result?.map (push.consumer, ·) := by
  rw [Dispatch.results?, List.mapM_map]
  congr 1
  funext push
  obtain ⟨consumer, frame, stage⟩ := push
  rcases stage with - | - | - | ⟨connection?, - | result⟩ <;> rfl

/-- All pushes are over if each has a result. -/
private theorem mapM_result? (pushes : List Push) :
    pushes.mapM (fun push => push.stage.result?.map (push.consumer, ·)) =
      if ∀ push ∈ pushes, push.stage.result?.isSome then
        some (pushes.filterMap fun push => push.stage.result?.map (push.consumer, ·))
      else none := by
  induction pushes with
  | nil => rfl
  | cons push pushes ih =>
    rw [List.mapM_cons, ih]
    simp only [List.forall_mem_cons]
    cases hresult : push.stage.result? with
    | none => rfl
    | some result =>
      rw [List.filterMap_cons, hresult]
      by_cases hall : ∀ push ∈ pushes, push.stage.result?.isSome
      · rw [if_pos hall, if_pos ⟨rfl, hall⟩]
        rfl
      · rw [if_neg hall, if_neg fun h => hall h.2]
        rfl

/-- The consumers whose pushes succeeded are reported as delivered, the others with the reasons. -/
theorem report?_eq_some_iff : report? pushes = some report ↔
    (∀ push ∈ pushes, push.stage.result?.isSome) ∧
      (report.outcome = if pushes.isEmpty then .noSubscribers else .dispatched) ∧
      (report.delivered = pushes.filterMap fun push =>
        if push.stage.result? = some none then some push.consumer else none) ∧
      report.failed = pushes.filterMap fun push =>
        push.stage.result?.join.map (push.consumer, ·) := by
  rw [report?, Dispatch.report?, results?_eq, mapM_result?]
  split
  swap
  next hsome => simp [hsome]
  next hsome =>
    obtain ⟨outcome, delivered, failed⟩ := report
    have hempty : (pushes.filterMap fun push =>
        push.stage.result?.map (push.consumer, ·)).isEmpty = pushes.isEmpty := by
      cases pushes with
      | nil => rfl
      | cons push pushes =>
        obtain ⟨result, hresult⟩ := Option.isSome_iff_exists.mp (hsome push (List.mem_cons_self ..))
        rw [List.filterMap_cons, hresult]
        rfl
    -- each of the three fields is read off the results push by push
    have hdelivered (push : Push) : ((push.stage.result?.map (push.consumer, ·)).bind fun result =>
        if result.2.isNone then some result.1 else none) =
        if push.stage.result? = some none then some push.consumer else none := by
      rcases push.stage.result? with - | - | error <;> rfl
    have hfailed (push : Push) : ((push.stage.result?.map (push.consumer, ·)).bind fun result =>
        result.2.map (result.1, ·)) = push.stage.result?.join.map (push.consumer, ·) := by
      rcases push.stage.result? with - | - | error <;> rfl
    simp only [Option.map_some, hempty, List.filterMap_filterMap, hdelivered, hfailed,
      Option.some.injEq, DeliveryReport.mk.injEq]
    constructor
    · rintro ⟨rfl, rfl, rfl⟩
      exact ⟨hsome, rfl, rfl, rfl⟩
    · rintro ⟨-, rfl, rfl, rfl⟩
      exact ⟨rfl, rfl, rfl⟩

/-- A push of a delivery that is not interrupted is reported as its delivery shows it. -/
private theorem Shows.eq_state {deadline : Nat} {push : Push} {single : Urn × PushState}
    (h : push.Shows deadline single) : (push.consumer, push.stage.state) = single := by
  obtain ⟨consumer, state⟩ := single
  obtain ⟨rfl, hstage⟩ := h
  cases state with
  | ended result =>
    obtain ⟨connection?, hover⟩ := hstage
    rw [hover]
    rfl
  | waits ticket =>
    have hwaits : push.stage = .waits ticket deadline := hstage
    rw [hwaits]
    rfl
  | due | stuck => exact hstage.elim

/-- A delivery that is not interrupted is reported as its pushes are. -/
theorem report?_of_shows {d : Dispatch} (h : List.Forall₂ (Shows d.deadline) pushes d.pushes) :
    report? pushes = d.report? := by
  have hpushes : pushes.map (fun push => (push.consumer, push.stage.state)) = d.pushes := by
    generalize d.pushes = singles at h
    induction h with
    | nil => rfl
    | cons hpush _ ih => rw [List.map_cons, hpush.eq_state, ih]
  rw [report?, hpushes]
  rfl

end Push

end ServiceBroker
