import ServiceBroker.Proofs.Delivery.Deliveries

/-!
# Reports of deliveries are exact

A notification is delivered while everybody else goes on: consumers connect, read and go away, other
notifications are delivered, and the pushes of this one take their turns in any order. What is
reported at last is exact. It tells of each consumer that was matched what became of its push, and
that does not depend on the others.

## Main definitions

* `Delivery.Exact`: what is true of the report of a delivery, and of all that it does.

## Main results

* `Delivery.exact_of_reachable`: deliveries are exact, whatever happens meanwhile.
-/

namespace ServiceBroker

namespace Delivery

/-- A delivery is exact whose pushes may wait for a configured time. Moments of a run are the
moves that lead there. -/
structure Exact (config : DeliveryConfig) (d : Delivery) : Prop where
  /-- The call is the move by which the producer pushes the notification. It matches the
  subscriptions of that time. -/
  called : d.consumers = d.before.index.subscribers d.post.producer d.post.key ∧
    d.called = d.before.move (.post d.post.producer d.post.notification)
  /-- The consumers that are reported are those that were matched, each of them once. -/
  partition : ∀ moves report, d.report? (d.after moves) = some report →
    (report.delivered ++ report.failed.map (·.1)).Nodup ∧
    (∀ consumer, consumer ∈ report.delivered ++ report.failed.map (·.1) ↔
      consumer ∈ d.consumers) ∧
    (report.outcome = .noSubscribers ↔ d.consumers = [])
  /-- What is reported is what became of the pushes. -/
  results : ∀ moves report, d.report? (d.after moves) = some report → ∀ consumer ∈ d.consumers,
    (consumer ∈ report.delivered ↔ d.result? (d.after moves) consumer = some none) ∧
    ∀ error, (consumer, error) ∈ report.failed ↔
      d.result? (d.after moves) consumer = some (some error)
  /-- A consumer is not connected if it was not when its push began. -/
  notConnected : ∀ moves report, d.report? (d.after moves) = some report →
    ∀ consumer ∈ d.consumers, ∃ began, began ++ [.push (d.place consumer) .seek] <+: moves ∧
      d.stage? (d.after began) consumer = some .matched ∧
      ((consumer, .notConnected) ∈ report.failed ↔
        (d.after began).channels.current[consumer]? = none)
  /-- A connection is closed if its reader had gone before the push to it was over. -/
  closed : ∀ moves report, d.report? (d.after moves) = some report →
    ∀ consumer, (consumer, .closed) ∈ report.failed →
      ∃ n began closing action, began ++ [.push (d.place consumer) .seek] <+: closing ∧
        closing ++ [.push (d.place consumer) action] <+: moves ∧
        (d.after began).channels.current[consumer]? = some n ∧
        (∃ stage, d.stage? (d.after closing) consumer = some stage ∧ stage.IsUnderWay n) ∧
        (d.after closing).channels.channels[n]? = none
  /-- A push times out if it was in line for a full buffer for all the time for which it may
  wait. -/
  timeout : ∀ moves report, d.report? (d.after moves) = some report →
    ∀ consumer, (consumer, .timeout) ∈ report.failed →
      ∃ sent gaveUp, sent ++ [.push (d.place consumer) .send] <+: gaveUp ∧
        gaveUp ++ [.push (d.place consumer) .look] <+: moves ∧
        (d.after sent).now + config.sendTimeout.millisUp ≤ (d.after gaveUp).now ∧
        ∀ between, sent ++ [.push (d.place consumer) .send] <+: between → between <+: gaveUp →
          (d.after between).Starves (d.place consumer)
  /-- What becomes of the push to a consumer, and what the consumer receives, is the same had others
  been matched, or nobody else. -/
  independent : ∀ moves others consumer, (consumer ∈ others ↔ consumer ∈ d.consumers) →
    let later := (d.matching others).after (d.otherwise others moves)
    (consumer ∈ d.consumers →
      (d.matching others).result? later consumer = d.result? (d.after moves) consumer) ∧
    later.receivedBy consumer = (d.after moves).receivedBy consumer
  /-- The call changes nothing but the channels of those that were matched. -/
  untouched : (d.called.index = d.before.index ∧ d.called.channels = d.before.channels) ∧
    ∀ moves action, ∀ place ∈ d.places,
      let acted := (d.after moves).move (.push place action)
      acted.index = (d.after moves).index ∧
      acted.channels.current = (d.after moves).channels.current ∧
      ∀ n consumer, (d.after moves).channels.owner? n = some consumer → consumer ∉ d.consumers →
        acted.channels.channels[n]? = (d.after moves).channels.channels[n]?
  /-- The report is there in time: until then the call is not late, and may be brought to its end by
  turns of its own alone. -/
  inTime : ∀ moves, d.Runs moves → (d.report? (d.after moves)).isSome ∨
    (d.after moves).now ≤ d.before.now + config.sendTimeout.millisUp ∧
    ∃ rest, (∀ m ∈ rest, (∃ millis, m = .advance millis) ∨
        ∃ place ∈ d.places, ∃ action, .push place action = m) ∧
      d.Runs (moves ++ rest) ∧ (d.report? (d.after (moves ++ rest))).isSome ∧
      (d.after (moves ++ rest)).now ≤ d.before.now + config.sendTimeout.millisUp

variable {d : Delivery} {consumer : Urn} {moves : List Move} {report : DeliveryReport}

/-! ## Who is reported, and why -/

theorem outcome_eq (hreport : d.report? (d.after moves) = some report) :
    report.outcome = .noSubscribers ↔ d.consumers = [] := by
  obtain ⟨stage, hstage⟩ := exists_stages d moves
  obtain ⟨-, houtcome, -, -⟩ := (report?_eq_some_iff hstage).mp hreport
  rw [houtcome, ← List.isEmpty_iff]
  cases d.consumers.isEmpty <;> simp

theorem exists_began (hreachable : d.called.IsReachable)
    (hreport : d.report? (d.after moves) = some report) (hmem : consumer ∈ d.consumers) :
    ∃ began, began ++ [.push (d.place consumer) .seek] <+: moves ∧
      d.stage? (d.after began) consumer = some .matched ∧
      ((consumer, .notConnected) ∈ report.failed ↔
        (d.after began).channels.current[consumer]? = none) := by
  obtain ⟨stage, hstage⟩ := exists_stages d moves
  have hlater := hstage consumer hmem
  obtain ⟨result, hresult⟩ := Option.isSome_iff_exists.mp
    (((report?_eq_some_iff hstage).mp hreport).1 consumer hmem)
  -- a push that has a result is over, so it began
  obtain ⟨connection?, hover⟩ := Push.Stage.eq_over hresult
  obtain ⟨began, hprefix, hmatched, hcurrent⟩ := Traffic.exists_began (getElem?_called hmem) moves
    hlater (by rw [hover]; nofun) (by rw [hover]; rintro ⟨_, heq⟩; cases heq)
  refine ⟨began, hprefix, ?_, ?_⟩
  · rw [stage?, after, hmatched]
    rfl
  · -- it went nowhere exactly if that is what it reports
    have hreported := (hreachable.run moves).told.reported _ (List.mem_of_getElem? hlater)
      connection? result hover
    rw [mem_failed hstage hreport, and_iff_right hmem, hresult, Option.some_inj, ← hreported, after,
      hcurrent, hover]
    rfl

/-- The push of a consumer that was not reached has ended with the error that is reported. -/
theorem push_of_failed {error : ChannelError} (hreport : d.report? (d.after moves) = some report)
    (hfailed : (consumer, error) ∈ report.failed) :
    consumer ∈ d.consumers ∧ ∃ connection?, (d.after moves).pushes[d.place consumer]? =
      some ⟨consumer, d.post.frame, .over connection? (some error)⟩ := by
  obtain ⟨stage, hstage⟩ := exists_stages d moves
  obtain ⟨hmem, hresult⟩ := (mem_failed hstage hreport).mp hfailed
  obtain ⟨connection?, hover⟩ := Push.Stage.eq_over hresult
  exact ⟨hmem, connection?, hover ▸ hstage consumer hmem⟩

theorem exists_closed (hreachable : d.called.IsReachable)
    (hreport : d.report? (d.after moves) = some report)
    (hfailed : (consumer, .closed) ∈ report.failed) :
    ∃ n began closing action, began ++ [.push (d.place consumer) .seek] <+: closing ∧
      closing ++ [.push (d.place consumer) action] <+: moves ∧
      (d.after began).channels.current[consumer]? = some n ∧
      (∃ stage, d.stage? (d.after closing) consumer = some stage ∧ stage.IsUnderWay n) ∧
      (d.after closing).channels.channels[n]? = none := by
  obtain ⟨hmem, connection?, hlater⟩ := push_of_failed hreport hfailed
  obtain ⟨n, began, closing, action, hbegan, hclosing, -, hcurrent, ⟨last, hlast, hunderWay⟩,
    hgone⟩ := Traffic.exists_closed hreachable (getElem?_called hmem) moves hlater
  refine ⟨n, began, closing, action, hbegan, hclosing, hcurrent, ⟨last, ?_, hunderWay⟩, hgone⟩
  rw [stage?, after, hlast]
  rfl

theorem exists_starved (hreachable : d.called.IsReachable)
    (hreport : d.report? (d.after moves) = some report)
    (hfailed : (consumer, .timeout) ∈ report.failed) :
    ∃ sent gaveUp, sent ++ [.push (d.place consumer) .send] <+: gaveUp ∧
      gaveUp ++ [.push (d.place consumer) .look] <+: moves ∧
      (d.after sent).now + d.before.patience ≤ (d.after gaveUp).now ∧
      ∀ between, sent ++ [.push (d.place consumer) .send] <+: between → between <+: gaveUp →
        (d.after between).Starves (d.place consumer) := by
  obtain ⟨hmem, connection?, hlater⟩ := push_of_failed hreport hfailed
  exact Traffic.exists_starved hreachable (getElem?_called hmem) moves hlater

/-! ## What others notice -/

/-- Nothing has happened yet when the consumers are matched. -/
theorem sound_called (h : d.before.Sound) : d.called.Sound := by
  refine h.append (fun push hpush => ?_) _
  obtain ⟨consumer, -, rfl⟩ := List.mem_map.mp hpush
  rfl

/-- A turn of the delivery changes no channel of somebody that was not matched. -/
theorem act_untouched (hsound : d.before.Sound) (moves : List Move) (action : Push.Action)
    {place : Nat} (hplace : place ∈ d.places) :
    let acted := (d.after moves).move (.push place action)
    acted.index = (d.after moves).index ∧
    acted.channels.current = (d.after moves).channels.current ∧
    ∀ n consumer, (d.after moves).channels.owner? n = some consumer → consumer ∉ d.consumers →
      acted.channels.channels[n]? = (d.after moves).channels.channels[n]? := by
  obtain ⟨matched, hmem, rfl⟩ := List.mem_map.mp hplace
  obtain ⟨stage, hstage⟩ := exists_stages d moves
  have hpush := hstage matched hmem
  have hlater : (d.after moves).Sound := (sound_called hsound).run moves
  have hstep := (Push.mk matched d.post.frame (stage matched)).step_act (d.after moves).now
    (d.after moves).patience (d.after moves).channels action
  rw [Traffic.move_push hpush]
  refine ⟨rfl, hstep.frame.1, fun n consumer howner hnot => ?_⟩
  -- a push aims at connections of its own consumer, which this one is not
  refine hlater.aimed.apart hlater.coherent hpush hstep howner ?_
  rintro rfl
  exact hnot hmem

/-! ## What happens when others are matched -/

section Others

variable {others : List Urn}

/-- The pushes of earlier notifications stay where they are, those of later ones come behind the
pushes of the delivery, and among these each stands where its consumer does. -/
theorem placeIn?_cases (d : Delivery) (others : List Urn) (place : Nat) :
    (place < d.before.pushes.length ∧ d.placeIn? others place = some place) ∨
    (∃ j consumer, d.consumers[j]? = some consumer ∧ place = d.before.pushes.length + j ∧
      d.placeIn? others place = if consumer ∈ others then
        some (d.before.pushes.length + others.idxOf consumer) else none) ∨
    ∃ k, place = d.before.pushes.length + d.consumers.length + k ∧
      d.placeIn? others place = some (d.before.pushes.length + others.length + k) := by
  unfold placeIn?
  rcases Nat.lt_or_ge place d.before.pushes.length with hlt | hge
  · exact .inl ⟨hlt, if_pos hlt⟩
  obtain ⟨j, rfl⟩ := Nat.exists_eq_add_of_le hge
  rw [if_neg (Nat.not_lt.mpr hge), Nat.add_sub_cancel_left]
  right
  cases hj : d.consumers[j]? with
  | some consumer => exact .inl ⟨j, consumer, hj, rfl, rfl⟩
  | none =>
    obtain ⟨k, rfl⟩ := Nat.exists_eq_add_of_le (List.getElem?_eq_none_iff.mp hj)
    refine .inr ⟨k, (Nat.add_assoc ..).symm, congrArg some ?_⟩
    omega

/-- Every push stands at a place of its own. -/
private theorem placeIn?_injective (hnodup : d.consumers.Nodup) (i j k : Nat)
    (hi : d.placeIn? others i = some k) (hj : d.placeIn? others j = some k) : i = j := by
  -- where a push comes to stand tells which of the three kinds it is of
  have hcases {place : Nat} (h : d.placeIn? others place = some k) :
      (place = k ∧ k < d.before.pushes.length) ∨
      (∃ l consumer, d.consumers[l]? = some consumer ∧ consumer ∈ others ∧
        place = d.before.pushes.length + l ∧
        k = d.before.pushes.length + others.idxOf consumer) ∨
      (d.before.pushes.length + others.length ≤ k ∧
        place + others.length = k + d.consumers.length) := by
    rcases placeIn?_cases d others place with
      ⟨hlt, heq⟩ | ⟨l, consumer, hl, rfl, heq⟩ | ⟨l, rfl, heq⟩ <;> rw [heq] at h
    · cases h
      exact .inl ⟨rfl, hlt⟩
    · split at h
      next hmem =>
        cases h
        exact .inr (.inl ⟨l, consumer, hl, hmem, rfl, rfl⟩)
      next => cases h
    · cases h
      exact .inr (.inr ⟨Nat.le_add_right .., by omega⟩)
  have hidxOf {consumer : Urn} (hmem : consumer ∈ others) :
      others.idxOf consumer < others.length := List.idxOf_lt_length_iff.mpr hmem
  rcases hcases hi with ⟨rfl, hlt⟩ | ⟨l, consumer, hl, hmem, rfl, hk⟩ | ⟨hle, hsum⟩
  · rcases hcases hj with ⟨rfl, -⟩ | ⟨_, _, -, -, -, hk⟩ | ⟨hle, -⟩ <;> omega
  · have hlt := hidxOf hmem
    rcases hcases hj with ⟨rfl, hlt⟩ | ⟨l', other, hl', -, rfl, hk'⟩ | ⟨hle, -⟩
    · omega
    · -- the same place is that of the same consumer, which was matched once
      obtain rfl : consumer = other := (List.idxOf_inj hmem).mp (by omega)
      have hlength := (List.getElem?_eq_some_iff.mp hl).1
      rw [(List.getElem?_inj hlength hnodup).mp (hl.trans hl'.symm)]
    · omega
  · rcases hcases hj with ⟨rfl, hlt⟩ | ⟨_, _, -, hmem, -, hk⟩ | ⟨-, hsum'⟩
    · omega
    · have hlt := hidxOf hmem
      omega
    · omega

/-- Where a push goes that is there when the consumers are matched. -/
private theorem placeIn?_of_push (others : List Urn) {place : Nat} {push : Push}
    (hpush : d.called.pushes[place]? = some push) :
    (place < d.before.pushes.length ∧ d.placeIn? others place = some place) ∨
    ∃ consumer ∈ d.consumers, push = ⟨consumer, d.post.frame, .matched⟩ ∧
      d.placeIn? others place = if consumer ∈ others then
        some ((d.matching others).place consumer) else none := by
  rcases placeIn?_cases d others place with
    hfirst | ⟨j, consumer, hj, rfl, heq⟩ | ⟨k, rfl, -⟩
  · exact .inl hfirst
  · rw [getElem?_called_add, hj] at hpush
    exact .inr ⟨consumer, List.mem_of_getElem? hj, (Option.some.inj hpush).symm, heq⟩
  · -- no later push is there yet
    have hlt := (List.getElem?_eq_some_iff.mp hpush).1
    rw [length_called] at hlt
    omega

/-- When the consumers are matched, all is the same for whoever is matched in either case. -/
private theorem alike_called (hmatched : consumer ∈ others ↔ consumer ∈ d.consumers) :
    Traffic.Alike consumer (d.placeIn? others) (.refl Nat) d.called (d.matching others).called := by
  refine {
    index := rfl
    now := rfl
    patience := rfl
    capacity := rfl
    current := rfl
    nextConnection := rfl
    owner := fun _ => rfl
    channel := ?channel
    received := rfl
    pushes := ?pushes
    left := ?left
    appended := ?appended
    told := fun _ _ _ _ _ _ => rfl }
  case channel =>
    intro n _
    -- nobody has got another number yet
    have hsame : (LiveChannel.renumber (.refl Nat)) = id :=
      funext fun c => c.renumber_refl
    show d.before.channels.channels[n]? = (d.before.channels.channels[n]?).map _
    rw [hsame, Option.map_id]
    rfl
  case pushes =>
    intro place place' push hplace hpush
    rcases placeIn?_of_push others hpush with ⟨hlt, heq⟩ | ⟨matched, -, rfl, heq⟩
    · cases heq.symm.trans hplace
      rw [getElem?_called_of_lt hlt] at hpush
      have hpush' := (getElem?_called_of_lt (d := d.matching others) hlt).trans hpush
      exact ⟨push, hpush', rfl, rfl, fun _ => Push.Stage.renumber_refl.symm⟩
    · rw [heq] at hplace
      split at hplace
      next hmem =>
        cases hplace
        exact ⟨_, getElem?_called (d := d.matching others) hmem, rfl, rfl, fun _ => rfl⟩
      next => cases hplace
  case left =>
    -- a push that is left out is one to a consumer that is matched here only
    intro place push hplace hpush
    rcases placeIn?_of_push others hpush with ⟨-, heq⟩ | ⟨matched, hmem, rfl, heq⟩
    · cases heq.symm.trans hplace
    · rw [heq] at hplace
      split at hplace
      next => cases hplace
      next hnot =>
        rintro rfl
        exact hnot (hmatched.mpr hmem)
  case appended =>
    intro k
    rw [length_called, length_called]
    rcases placeIn?_cases d others (d.before.pushes.length + d.consumers.length + k) with
      ⟨hlt, -⟩ | ⟨j, matched, hj, heq, -⟩ | ⟨l, heq, hsome⟩
    · omega
    · have hlt := (List.getElem?_eq_some_iff.mp hj).1
      omega
    · obtain rfl : k = l := by omega
      exact hsome

/-- What becomes of the push to a consumer, and what it receives, does not depend on who else is
matched. -/
theorem result?_matching (hsound : d.before.Sound) (hnodup : d.consumers.Nodup)
    (moves : List Move) (hmatched : consumer ∈ others ↔ consumer ∈ d.consumers) :
    let later := (d.matching others).after (d.otherwise others moves)
    (consumer ∈ d.consumers →
      (d.matching others).result? later consumer = d.result? (d.after moves) consumer) ∧
    later.receivedBy consumer = (d.after moves).receivedBy consumer := by
  intro later
  obtain ⟨ρ, halike⟩ := (alike_called hmatched).run (sound_called hsound)
    (sound_called (d := d.matching others) hsound) (placeIn?_injective hnodup) moves
  refine ⟨fun hmem => ?_, halike.received⟩
  obtain ⟨stage, hstage⟩ := exists_stages d moves
  obtain ⟨place', hplace, hpush⟩ := halike.counterpart (hstage consumer hmem) rfl
  -- the counterpart is the push to the consumer
  obtain rfl : (d.matching others).place consumer = place' := by
    rcases placeIn?_cases d others (d.place consumer) with
      ⟨hlt, -⟩ | ⟨j, found, hj, heq, hsome⟩ | ⟨k, heq, -⟩
    · exact absurd hlt (Nat.not_lt.mpr (Nat.le_add_right ..))
    · obtain rfl : j = d.consumers.idxOf consumer := (Nat.add_left_cancel heq).symm
      obtain rfl : found = consumer :=
        Option.some.inj (hj.symm.trans (List.getElem?_idxOf hmem))
      rw [hsome, if_pos (hmatched.mpr hmem)] at hplace
      exact Option.some.inj hplace
    · have hlt := List.idxOf_lt_length_iff.mpr hmem
      rw [place] at heq
      omega
  have hlater : later.pushes[(d.matching others).place consumer]? = _ := hpush
  rw [result?_eq hstage hmem, result?, stage?, hlater]
  exact Push.Stage.result?_renumber

end Others

/-! ## When the report is there -/

theorem patience_after (d : Delivery) (moves : List Move) :
    (d.after moves).patience = d.before.patience := Traffic.patience_run d.called moves

/-- A push that is not abandoned is never late. -/
theorem timely_after (h : d.Runs moves) {place : Nat} (hplace : place ∈ d.places) :
    (d.after moves).Timely d.before.now place := by
  refine Traffic.Timely.run ?_ hplace h.prompt (h.kept place hplace)
  obtain ⟨consumer, hmem, rfl⟩ := List.mem_map.mp hplace
  exact ⟨_, getElem?_called hmem, rfl⟩

/-- The report of a delivery that is not given up is there in time, or can be. -/
theorem report?_inTime (h : d.Runs moves) : (d.report? (d.after moves)).isSome ∨
    (d.after moves).now ≤ d.before.now + d.before.patience ∧
    ∃ rest, (∀ m ∈ rest, (∃ millis, m = .advance millis) ∨
        ∃ place ∈ d.places, ∃ action, .push place action = m) ∧
      d.Runs (moves ++ rest) ∧ (d.report? (d.after (moves ++ rest))).isSome ∧
      (d.after (moves ++ rest)).now ≤ d.before.now + d.before.patience := by
  by_cases hreport : (d.report? (d.after moves)).isSome
  · exact .inl hreport
  right
  -- some push is not over, and it is not late
  have hnow : (d.after moves).now ≤ d.before.now + d.before.patience := by
    rw [isSome_report?, not_forall₂] at hreport
    obtain ⟨consumer, hmem, hresult⟩ := hreport
    obtain ⟨push, hpush, htimely⟩ := timely_after h (List.mem_map_of_mem hmem)
    rw [patience_after] at htimely
    refine htimely.now_le ?_
    rw [result?, stage?, hpush] at hresult
    exact Option.not_isSome_iff_eq_none.mp hresult
  obtain ⟨rest, hown, hprompt, hend, hover⟩ := Traffic.exists_rest
    (fun place hplace => timely_after h hplace) (patience_after d moves ▸ hnow)
  have hafter : d.after (moves ++ rest) = (d.after moves).run rest := Traffic.run_append ..
  refine ⟨hnow, rest, fun m hm => ?_, ⟨?_, fun place hplace hmem => ?_⟩, ?_, ?_⟩
  · rcases hown m hm with hadvance | ⟨place, hplace, action, -, heq⟩
    · exact .inl hadvance
    · exact .inr ⟨place, hplace, action, heq⟩
  · exact (Traffic.prompt_append ..).mpr ⟨h.prompt, hprompt⟩
  · rcases List.mem_append.mp hmem with hmem | hmem
    · exact h.kept place hplace hmem
    · rcases hown _ hmem with ⟨_, heq⟩ | ⟨_, _, _, hne, heq⟩
      · cases heq
      · cases heq
        exact hne rfl
  · rw [isSome_report?]
    intro consumer hmem
    obtain ⟨push, hpush, hresult⟩ := hover _ (List.mem_map_of_mem hmem)
    rw [result?, stage?, hafter, hpush]
    exact hresult
  · rw [hafter, hend, patience_after]

/-! ## Exactness -/

/-- At every time of every run from start-up, whoever pushes a notification, and whatever happens
while it is delivered: the delivery is exact. -/
theorem exact_of_reachable (config : DeliveryConfig) {t : Traffic} (h : t.IsReachable)
    (hpatience : t.patience = config.sendTimeout.millisUp) (producer : Urn)
    (notification : Notification) : (t.deliver producer notification).Exact config := by
  have hcalled := called_deliver t producer notification
  -- from the call on, the run is one from start-up as well
  have hreachable : (t.deliver producer notification).called.IsReachable :=
    hcalled ▸ h.run [.post producer notification]
  have hnodup : (t.deliver producer notification).consumers.Nodup :=
    SubscriptionIndex.nodup_subscribers ..
  constructor
  case called => exact ⟨rfl, hcalled⟩
  case partition =>
    intro moves report hreport
    obtain ⟨stage, hstage⟩ := exists_stages _ moves
    have hperm := perm_of_report? hstage hreport
    exact ⟨hperm.nodup_iff.mpr hnodup, fun _ => hperm.mem_iff, outcome_eq hreport⟩
  case results =>
    intro moves report hreport consumer hmem
    obtain ⟨stage, hstage⟩ := exists_stages _ moves
    rw [result?_eq hstage hmem]
    exact ⟨(mem_delivered hstage hreport).trans (and_iff_right hmem), fun error =>
      (mem_failed hstage hreport).trans (and_iff_right hmem)⟩
  case notConnected =>
    intro moves report hreport consumer hmem
    exact exists_began hreachable hreport hmem
  case closed =>
    intro moves report hreport consumer hfailed
    exact exists_closed hreachable hreport hfailed
  case timeout =>
    intro moves report hreport consumer hfailed
    rw [← hpatience]
    exact exists_starved hreachable hreport hfailed
  case independent =>
    intro moves others consumer hmatched
    exact result?_matching h.sound hnodup moves hmatched
  case untouched =>
    exact ⟨⟨rfl, rfl⟩, fun moves action place hplace => act_untouched h.sound moves action hplace⟩
  case inTime =>
    intro moves hruns
    rw [← hpatience]
    exact report?_inTime hruns

/-- Four consumers ask for the notifications of a namespace. Three of them are connected; the buffer
of the first connection is full with an earlier notification. -/
def oneBufferFull : Traffic := (Traffic.start 1 1 5).run [
  .subscription (.add ⟨"a", "b"⟩ (.namespaceWide "a") [⟨"n", "", ""⟩]),
  .subscription (.add ⟨"a", "d"⟩ (.namespaceWide "a") [⟨"n", "", ""⟩]),
  .subscription (.add ⟨"a", "f"⟩ (.namespaceWide "a") [⟨"n", "", ""⟩]),
  .subscription (.add ⟨"a", "h"⟩ (.namespaceWide "a") [⟨"n", "", ""⟩]),
  .connect ⟨"a", "f"⟩, .post ⟨"a", "b"⟩ ⟨"n", "", .null⟩, .push 2 .seek, .push 2 .send,
  .connect ⟨"a", "b"⟩, .connect ⟨"a", "h"⟩]

/-- Everything that may happen to a push happens to one of four: the first gets the frame, the
second is not connected, the third waits for a buffer that stays full, and the fourth loses its
reader before it sends. Waiting for 4.5 milliseconds takes five of them. -/
theorem exact_of_reachable_oneBufferFull :
    let config : DeliveryConfig := { sendTimeout := { nanos := 4500000 } }
    let d := oneBufferFull.deliver ⟨"a", "b"⟩ ⟨"n", "", .null⟩
    oneBufferFull.IsReachable ∧ oneBufferFull.patience = config.sendTimeout.millisUp ∧
      d.Exact config ∧
      d.report? (d.after [.push 4 .seek, .push 4 .send, .push 5 .seek, .push 6 .seek,
        .push 6 .send, .push 7 .seek, .drop 2, .push 7 .send, .advance 5, .push 6 .look]) =
        some ⟨.dispatched, [⟨"a", "b"⟩],
          [(⟨"a", "d"⟩, .notConnected), (⟨"a", "f"⟩, .timeout), (⟨"a", "h"⟩, .closed)]⟩ := by
  intro config d
  have hreachable : oneBufferFull.IsReachable := ⟨1, 1, 5, _, rfl⟩
  have hpatience : oneBufferFull.patience = config.sendTimeout.millisUp := by decide +kernel
  exact ⟨hreachable, hpatience, exact_of_reachable config hreachable hpatience _ _,
    by decide +kernel⟩

end Delivery

end ServiceBroker
