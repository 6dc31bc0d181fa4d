import ServiceBroker.Proofs.Delivery.Ledger

/-!
# What the ledger sees of an action

What is noted of pushes and of connections, before and after an action of one push. Only the push
that acts gets another stage, and the others do not notice it.

- `LiveChannels.waitingOn`: the pushes that wait on a connection, with their frames;
- `Traffic.acted`: the traffic after an action of one push, with `Traffic.acted_ne` for the other
  pushes and `outcome?_acted_self`, `number?_acted_self`, `sending?_acted_self` for the one;
- `Traffic.pushes_move_cases`: nobody but a push itself changes how far it has come.
-/

namespace ServiceBroker

namespace LiveChannels

/-- The pushes that wait on a connection. -/
def waitingOn (l : LiveChannels) (n : Nat) : List (Nat × Bytes) :=
  ((l.channels[n]?).map (·.waiting)).getD []

variable {l l' : LiveChannels} {n m : Nat} {c : LiveChannel}

theorem waitingOn_of_some (h : l.channels[n]? = some c) : l.waitingOn n = c.waiting := by
  rw [waitingOn, h]
  rfl

theorem waitingOn_of_none (h : l.channels[n]? = none) : l.waitingOn n = [] := by
  rw [waitingOn, h]
  rfl

theorem waitingOn_congr (h : l'.channels[n]? = l.channels[n]?) :
    l'.waitingOn n = l.waitingOn n := by
  rw [waitingOn, h, waitingOn]

/-- Handles do not matter for who waits and what is buffered. -/
theorem modify_handles (l : LiveChannels) (n m : Nat) (f : Nat → Nat) :
    (l.modify n fun c => { c with handles := f c.handles }).waitingOn m = l.waitingOn m ∧
      (l.modify n fun c => { c with handles := f c.handles }).buffered m = l.buffered m := by
  rw [waitingOn, waitingOn, buffered, buffered, channels_modify]
  split
  · cases l.channels[m]? <;> exact ⟨rfl, rfl⟩
  · exact ⟨rfl, rfl⟩

/-- A push that is given up leaves the line. -/
theorem waitingOn_cancel (l : LiveChannels) (ticket : Ticket) :
    (l.cancel ticket).waitingOn ticket.connection =
      (l.waitingOn ticket.connection).filter (·.1 ≠ ticket.number) := by
  rw [waitingOn, channels_cancel, if_pos rfl, waitingOn]
  cases l.channels[ticket.connection]? with
  | none => rfl
  | some c =>
    refine List.filter_congr fun w _ => ?_
    by_cases heq : w.1 = ticket.number <;> simp [heq]

theorem buffered_cancel (l : LiveChannels) (ticket : Ticket) (n : Nat) :
    (l.cancel ticket).buffered n = l.buffered n := by
  rw [buffered, channels_cancel, buffered]
  split
  · cases l.channels[n]? <;> rfl
  · rfl

/-- A push fails that waits on a connection when this is dropped. -/
theorem Booked.ended_drop_of_mem {held : List Nat} {tickets : List Ticket}
    (h : l.Booked held tickets) (hc : l.channels[n]? = some c) {number : Nat}
    (hnumber : number ∈ c.line) : (l.drop n).ended[number]? = some (some .closed) := by
  obtain ⟨w, hw, rfl⟩ := List.mem_map.mp hnumber
  rw [LiveChannels.drop, hc]
  refine Std.ExtTreeMap.getElem?_insertMany_list_of_mem Std.ReflCmp.compare_self ?_
    (List.mem_map.mpr ⟨w, hw, rfl⟩)
  rw [List.pairwise_map]
  refine (List.pairwise_map.mp (h.nodup n c hc)).imp fun hne heq => hne ?_
  exact Std.LawfulEqCmp.compare_eq_iff_eq.mp heq

/-- A push whose handle is given back after it has sent its frame changes one channel. -/
theorem channels_sent (l : LiveChannels) (n m : Nat) (frame : Bytes) (hne : n ≠ m) :
    ((l.pushTo n frame).2.release n).channels[m]? = l.channels[m]? := by
  rw [release, channels_modify, if_neg hne, channels_pushTo, if_neg hne]

theorem sent_of_some (h : l.channels[n]? = some c) (frame : Bytes) :
    ((l.pushTo n frame).2.release n).waitingOn n =
        (c.offer l.capacity l.nextPush frame).waiting ∧
      ((l.pushTo n frame).2.release n).buffered n =
        (c.offer l.capacity l.nextPush frame).buffer := by
  rw [waitingOn, buffered, release, channels_modify, if_pos rfl, channels_pushTo, if_pos rfl, h]
  exact ⟨rfl, rfl⟩

end LiveChannels

namespace Push

variable {channels channels' : LiveChannels} {push : Push} {stage : Stage}

/-- An action of a push leaves alone how others have ended that waited. -/
theorem Step.ended_eq (h : Step channels push stage channels') {number : Nat}
    (hother : ∀ ticket, push.stage.ticket? = some ticket → ticket.number ≠ number) :
    channels'.ended[number]? = channels.ended[number]? := by
  have herase {ticket : Ticket} (hne : ticket.number ≠ number) :
      (channels.ended.erase ticket.number)[number]? = channels.ended[number]? := by
    rw [Std.ExtTreeMap.getElem?_erase, if_neg (by simpa using hne)]
  cases h with
  | stay | miss | refuse | skip => rfl
  | hold | release =>
    have hsame {n : Nat} {f : LiveChannel → LiveChannel} :
        (channels.modify n f).ended = channels.ended := LiveChannels.ended_modify
    exact congrArg (·[number]?) hsame
  | accept | queue =>
    rw [LiveChannels.release, LiveChannels.ended_modify, LiveChannels.ended_pushTo]
  | collect hwaits => exact herase (hother _ (by rw [hwaits]; rfl))
  | cancel hwaits => exact herase (hother _ (by rw [hwaits]; rfl))

/-- An action of a push leaves the number of frames alone that channels buffer. -/
theorem Step.capacity_eq (h : Step channels push stage channels') :
    channels'.capacity = channels.capacity := by
  cases h with
  | stay | miss | refuse | skip | collect => rfl
  | hold | release => exact LiveChannels.capacity_modify
  | accept | queue => exact LiveChannels.capacity_modify.trans LiveChannels.capacity_pushTo
  | cancel => exact LiveChannels.capacity_cancel _

/-- A push that was let in and looks is told so, even if its time is over. -/
theorem report_of_act {now patience deadline : Nat} {ticket : Ticket} {result report : PushResult}
    {connection? : Option Nat} {action : Action} (hwaits : push.stage = .waits ticket deadline)
    (hended : channels.ended[ticket.number]? = some result)
    (h : (push.act now patience channels action).1 = .over connection? (some report)) :
    report = result := by
  cases action with
  | look =>
    rw [act_look_of_ended hwaits hended] at h
    cases h
    rfl
  | seek | send | abandon =>
    simp only [act, hwaits] at h
    cases h

end Push

namespace Traffic

variable {t : Traffic} {b : Ledger} {place : Nat} {push : Push} {stage : Push.Stage}
  {channels : LiveChannels}

/-- The traffic after an action of the push at a place. -/
def acted (t : Traffic) (place : Nat) (push : Push) (stage : Push.Stage)
    (channels : LiveChannels) : Traffic :=
  { t with pushes := t.pushes.set place { push with stage }, channels }

/-- What the move of a push is. -/
theorem move_push (hpush : t.pushes[place]? = some push) (action : Push.Action) :
    t.move (.push place action) = t.acted place push
      (push.act t.now t.patience t.channels action).1
      (push.act t.now t.patience t.channels action).2 := by
  rw [move, hpush]
  rfl

/-- Nobody but a push itself changes how far it has come. -/
theorem pushes_move_cases (hpush : t.pushes[place]? = some push) (m : Move) :
    (t.move m).pushes[place]? = some push ∨
      ∃ action stage channels, m = .push place action ∧
        push.Turn t.now t.patience t.channels action stage channels ∧
        t.move m = t.acted place push stage channels := by
  cases m with
  | post producer notification =>
    -- new pushes come behind those that are there
    left
    exact (List.getElem?_append_left (List.getElem?_eq_some_iff.mp hpush).1).trans hpush
  | push other action =>
    by_cases heq : other = place
    · subst heq
      right
      exact ⟨action, _, _, rfl, push.turn_act .., move_push hpush action⟩
    · left
      rw [move]
      split
      · exact hpush
      · exact (List.getElem?_set_ne heq).trans hpush
  | connect consumer =>
    left
    rw [move]
    split <;> exact hpush
  | subscription | drop | receive | advance => exact .inl hpush

/-- The push at a place was given up together with its request. -/
def IsAbandoned (t : Traffic) (place : Nat) : Prop :=
  ∃ push, t.pushes[place]? = some push ∧ push.stage.IsAbandoned

/-! ## Actions of pushes -/

theorem pushes_acted_self (hpush : t.pushes[place]? = some push) :
    (t.acted place push stage channels).pushes[place]? = some { push with stage } :=
  List.getElem?_set_self (List.getElem?_eq_some_iff.mp hpush).1

theorem pushes_acted_ne {other : Nat} (hne : other ≠ place) :
    (t.acted place push stage channels).pushes[other]? = t.pushes[other]? :=
  List.getElem?_set_ne hne.symm

/-- A push that is there after one has acted is that one or was there before. -/
theorem pushes_acted_cases (hpush : t.pushes[place]? = some push) {other : Nat} {p : Push}
    (hp : (t.acted place push stage channels).pushes[other]? = some p) :
    (other = place ∧ p = { push with stage }) ∨ (other ≠ place ∧ t.pushes[other]? = some p) := by
  by_cases heq : other = place
  · subst heq
    rw [pushes_acted_self hpush] at hp
    exact .inl ⟨rfl, (Option.some.inj hp).symm⟩
  · rw [pushes_acted_ne heq] at hp
    exact .inr ⟨heq, hp⟩

/-- Different pushes wait with different numbers. -/
theorem Booked.place_eq (h : t.Booked) {other : Nat} {push' : Push} {ticket ticket' : Ticket}
    (hpush : t.pushes[place]? = some push) (hpush' : t.pushes[other]? = some push')
    (hticket : push.stage.ticket? = some ticket) (hticket' : push'.stage.ticket? = some ticket')
    (hnumber : ticket.number = ticket'.number) : place = other := by
  have hnodup := h.distinct
  rw [tickets, List.map_filterMap] at hnodup
  have hpairs := List.pairwise_iff_getElem.mp (List.pairwise_filterMap.mp hnodup)
  obtain ⟨hplace, hget⟩ := List.getElem?_eq_some_iff.mp hpush
  obtain ⟨hother, hget'⟩ := List.getElem?_eq_some_iff.mp hpush'
  -- the one that stands first has another number than the one behind it
  rcases lt_trichotomy place other with hlt | heq | hgt
  · exact absurd hnumber (hpairs place other hplace hother hlt _ (by rw [hget, hticket]; rfl) _
      (by rw [hget', hticket']; rfl))
  · exact heq
  · exact absurd hnumber.symm (hpairs other place hother hplace hgt _ (by rw [hget', hticket']; rfl)
      _ (by rw [hget, hticket]; rfl))

/-- Only the own ticket matters for how far a push has come. -/
theorem stage_congr {ended ended' : Std.ExtTreeMap Nat PushResult}
    (h : ∀ ticket, stage.ticket? = some ticket → ended'[ticket.number]? = ended[ticket.number]?) :
    stage.outcome? ended' = stage.outcome? ended ∧ stage.number? ended' = stage.number? ended := by
  cases stage with
  | waits ticket deadline =>
    have hsame := h ticket rfl
    exact ⟨hsame, by rw [Push.Stage.number?, hsame, Push.Stage.number?]⟩
  | _ => exact ⟨rfl, rfl⟩

/-- The other pushes are where they were. -/
theorem acted_ne (hbooked : t.Booked) (hpush : t.pushes[place]? = some push)
    (hstep : push.Step t.channels stage channels) {other : Nat} (hne : other ≠ place) :
    (t.acted place push stage channels).outcome? other = t.outcome? other ∧
      (t.acted place push stage channels).number? other = t.number? other ∧
      (t.acted place push stage channels).sending? other = t.sending? other := by
  have hsame : (t.acted place push stage channels).pushes[other]? = t.pushes[other]? :=
    pushes_acted_ne hne
  rw [outcome?, outcome?, number?, number?, sending?, sending?, hsame]
  cases hpush' : t.pushes[other]? with
  | none => exact ⟨rfl, rfl, rfl⟩
  | some push' =>
    have hcongr : push'.stage.outcome? channels.ended = push'.stage.outcome? t.channels.ended ∧
        push'.stage.number? channels.ended = push'.stage.number? t.channels.ended := by
      refine stage_congr fun ticket' hticket' => hstep.ended_eq fun ticket hticket hnumber => ?_
      exact hne (hbooked.place_eq hpush hpush' hticket hticket' hnumber).symm
    exact ⟨hcongr.1, hcongr.2, rfl⟩

theorem outcome?_of_push (hpush : t.pushes[place]? = some push) :
    t.outcome? place = push.stage.outcome? t.channels.ended := by
  rw [outcome?, hpush, Option.bind_some]

theorem number?_of_push (hpush : t.pushes[place]? = some push) :
    t.number? place = push.stage.number? t.channels.ended := by
  rw [number?, hpush, Option.bind_some]

/-- Who waits under a number has a ticket with this number. -/
theorem number?_eq_some {number : Nat} (h : t.number? place = some number) :
    ∃ push ticket, t.pushes[place]? = some push ∧ push.stage.ticket? = some ticket ∧
      ticket.number = number ∧ t.channels.ended[number]? = none := by
  obtain ⟨push, hpush, hnumber⟩ := Option.bind_eq_some_iff.mp h
  refine ⟨push, ?_⟩
  cases hstage : push.stage with
  | waits ticket deadline =>
    rw [hstage, Push.Stage.number?] at hnumber
    split at hnumber
    next hended =>
      obtain rfl := Option.some.inj hnumber
      exact ⟨ticket, hpush, rfl, rfl, hended⟩
    next => cases hnumber
  | _ =>
    rw [hstage] at hnumber
    cases hnumber

theorem sending?_of_push (hpush : t.pushes[place]? = some push) :
    t.sending? place = (push.stage.sentTo?).map fun n => ⟨place, n, push.frame⟩ := by
  rw [sending?, hpush, Option.bind_some]

theorem isAbandoned_of_push (hpush : t.pushes[place]? = some push) :
    t.IsAbandoned place ↔ push.stage.IsAbandoned := by
  simp [IsAbandoned, hpush]

theorem outcome?_acted_self (hpush : t.pushes[place]? = some push) :
    (t.acted place push stage channels).outcome? place = stage.outcome? channels.ended :=
  outcome?_of_push (pushes_acted_self hpush)

theorem number?_acted_self (hpush : t.pushes[place]? = some push) :
    (t.acted place push stage channels).number? place = stage.number? channels.ended :=
  number?_of_push (pushes_acted_self hpush)

theorem sending?_acted_self (hpush : t.pushes[place]? = some push) :
    (t.acted place push stage channels).sending? place =
      (stage.sentTo?).map fun n => ⟨place, n, push.frame⟩ :=
  sending?_of_push (pushes_acted_self hpush)

theorem isAbandoned_acted_self (hpush : t.pushes[place]? = some push) :
    (t.acted place push stage channels).IsAbandoned place ↔ stage.IsAbandoned :=
  isAbandoned_of_push (pushes_acted_self hpush)

theorem lt_length_acted (hpush : t.pushes[place]? = some push) :
    place < (t.acted place push stage channels).pushes.length := by
  rw [acted, List.length_set]
  exact (List.getElem?_eq_some_iff.mp hpush).1

/-- What has arrived without being noted as completed stays so as long as the result is no
success. -/
theorem completion?_congr {t' : Traffic} (hsending : t'.sending? place = t.sending? place)
    (hsuccess : t'.outcome? place = some none ↔ t.outcome? place = some none) :
    t'.completion? place = t.completion? place := by
  rw [completion?, completion?, hsending]
  simp only [hsuccess]

end Traffic

end ServiceBroker
