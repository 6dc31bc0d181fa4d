import ServiceBroker.Proofs.Delivery.Bookkeeping.Readers

/-!
# No frame is lost or made up

A connection gives its reader the payloads of the pushes that have completed on it, each once and in
the order in which they obtained their slots; those that wait for a slot are served in the order of
their arrival. A push that has failed gives nothing to anybody.

This holds however the pushes of all deliveries, the readers and the consumers that connect again
take turns. In particular a push may look whether its frame was accepted at any time, also after its
deadline, and it may be given up at any time.

## Main definitions

* `Traffic.Conserved`: what traffic and ledger say about it.

## Main results

* `Traffic.Kept.drop`, `Traffic.Kept.move`: the books are kept when a connection is dropped, and so
  by every move;
* `Traffic.conserved_run`: frames are conserved along every run.
-/

namespace ServiceBroker

namespace Traffic

variable {t : Traffic} {b : Ledger} {n : Nat} {c : LiveChannel}

/-- Nothing is lost or made up: what traffic and ledger say about every connection, given the
configured number of frames that a channel buffers. -/
structure Conserved (t : Traffic) (b : Ledger) (capacity : Nat) : Prop where
  /-- The frames that were read from a connection, that were left in its buffer when the reader went
  away and that are in its buffer are those of the pushes that have completed on it, in the order in
  which these obtained their slots. -/
  frames : ∀ n, t.readFrom n ++ b.leftAt n ++ t.channels.buffered n =
    (b.completedAt n).map (·.frame)
  /-- As long as the reader is there nothing is left. -/
  left : ∀ n, t.channels.channels[n]? ≠ none → b.leftAt n = []
  /-- Those who came first were served first, and before all who still wait. -/
  order : ∀ n,
    (b.completedAt n ++ (b.arrivedAt n).filter fun e => (t.number? e.place).isSome).Sublist
      (b.arrivedAt n)
  /-- What has arrived are the frames that pushes have sent, each of them once. -/
  arrived : ∀ e, e ∈ b.arrived ↔ t.sending? e.place = some e
  once : (b.arrived.map (·.place)).Nodup
  /-- A buffer holds no more frames than it may. -/
  bounded : ∀ n, (t.channels.buffered n).length ≤ max 1 capacity
  /-- A push has completed exactly if its result is success; if it was given up with its request, it
  may have completed before. -/
  result : ∀ place, ¬t.IsAbandoned place →
    (place ∈ b.completed.map (·.place) ↔ t.outcome? place = some none)
  /-- A push that has failed is not among them, so that nobody gets its frame. -/
  failed : ∀ place error, t.outcome? place = some (some error) →
    place ∉ b.completed.map (·.place)

/-! ## Dropping -/

/-- The pushes that wait on a connection fail when it is dropped, and no other push notices. -/
theorem ended_drop_ticket (h : t.Booked) (hc : t.channels.channels[n]? = some c) {ticket : Ticket}
    (hticket : ticket ∈ t.tickets) : (t.channels.drop n).ended[ticket.number]? =
      if ticket.connection = n ∧ t.channels.ended[ticket.number]? = none then some (some .closed)
      else t.channels.ended[ticket.number]? := by
  by_cases hline : ticket.number ∈ c.line
  · obtain ⟨hmem, hended⟩ := h.line n c hc ticket.number hline
    have hconnection : ticket.connection = n :=
      congrArg Ticket.connection (h.eq_of_number hticket hmem rfl)
    rw [h.ended_drop_of_mem hc hline, if_pos ⟨hconnection, hended⟩]
  · rw [LiveChannels.ended_drop hc hline, if_neg]
    rintro ⟨rfl, hended⟩
    -- who still waits stands in line
    rcases h.ticket ticket hticket c hc with hmem | hlet
    · exact hline hmem
    · rw [hended] at hlet
      cases hlet

theorem Ledger.leftAt_append_losses (b : Ledger) (t : Traffic) (n m : Nat) :
    { b with left := b.left ++ losses t (.drop n) }.leftAt m =
      b.leftAt m ++ if n = m then t.channels.buffered n else [] := by
  rw [leftAt, List.filterMap_append, leftAt, losses, List.filterMap_map]
  by_cases heq : n = m
  · rw [if_pos heq]
    simp [heq]
  · rw [if_neg heq]
    simp [heq]

/-- No push succeeds because a connection is dropped, nor does one fail that has succeeded. -/
private theorem outcome?_drop (h : t.Booked) (hc : t.channels.channels[n]? = some c) (place : Nat) :
    (t.move (.drop n)).outcome? place = some none ↔ t.outcome? place = some none := by
  cases hpush : t.pushes[place]? with
  | none =>
    rw [outcome?, outcome?, show (t.move (.drop n)).pushes[place]? = none from hpush, hpush]
    rfl
  | some push =>
    rw [outcome?_of_push hpush, outcome?_of_push (t := t.move (.drop n)) hpush]
    cases hstage : push.stage with
    | waits ticket deadline =>
      have hticket : ticket ∈ t.tickets :=
        List.mem_filterMap.mpr ⟨push, List.mem_of_getElem? hpush, by rw [hstage]; rfl⟩
      show (t.channels.drop n).ended[ticket.number]? = some none ↔
        t.channels.ended[ticket.number]? = some none
      rw [ended_drop_ticket h hc hticket]
      split
      next hfails => simp [hfails.2]
      next => rfl
    | _ => rfl

/-- Nobody waits on the connection any more, and on another everybody who has waited. -/
private theorem Kept.number?_drop (h : Kept t b) (hc : t.channels.channels[n]? = some c) {m : Nat}
    {e : Entry} (he : e ∈ b.arrivedAt m) :
    (t.move (.drop n)).number? e.place = if n = m then none else t.number? e.place := by
  -- an entry of the book belongs to a push that has sent to this connection
  obtain ⟨harrived, hm⟩ := List.mem_filter.mp he
  obtain ⟨push, hpush, hsent⟩ := Option.bind_eq_some_iff.mp ((h.arrived e).mp harrived)
  obtain ⟨m', hsentTo, hentry⟩ := Option.map_eq_some_iff.mp hsent
  have hconnection : m' = m := by
    rw [← hentry] at hm
    exact of_decide_eq_true hm
  rw [number?_of_push hpush, number?_of_push (t := t.move (.drop n)) hpush]
  cases hstage : push.stage with
  | waits ticket deadline =>
    rw [hstage] at hsentTo
    have hself : ticket.connection = m := (Option.some.inj hsentTo).trans hconnection
    have hended := ended_drop_ticket h.booked hc
      (List.mem_filterMap.mpr ⟨push, List.mem_of_getElem? hpush, by rw [hstage]; rfl⟩)
    -- the number of a push that waits is gone once the push is told something
    show (if (t.channels.drop n).ended[ticket.number]? = none then _ else _) = _
    by_cases heq : n = m
    · rw [hended]
      cases t.channels.ended[ticket.number]? <;> simp [hself, heq]
    · rw [if_neg fun hfails => heq (hfails.1.symm.trans hself)] at hended
      rw [hended, if_neg heq, Push.Stage.number?]
  | _ => exact (ite_self none).symm

/-- The reader of a connection goes away. -/
private theorem Kept.drop_of_some (h : Kept t b) (hc : t.channels.channels[n]? = some c) :
    Kept (t.move (.drop n)) (b.note t (.drop n)) := by
  have hleft := b.leftAt_append_losses t n
  have hat (m : Nat) : (t.channels.drop n).channels[m]? = _ := t.channels.channels_drop n m
  refine h.still (coherent_move h.coherent _) (h.booked.move h.coherent _) (fun place => rfl)
    (outcome?_drop h.booked hc) (fun place => id) (fun m => ?_) fun m hm => ?_
  · rw [hleft]
    show Balanced _ _ _ ((t.channels.drop n).waitingOn m) (t.readFrom m) _
      ((t.channels.drop n).buffered m)
    have hat := hat m
    have hbalanced := h.balanced m
    -- what was in the buffer is lost, and nothing of it was lost before
    by_cases heq : n = m
    · subst heq
      rw [if_pos rfl] at hat
      rw [h.left n (.inl (by simp [hc]))] at hbalanced ⊢
      rw [if_pos rfl, LiveChannels.waitingOn_of_none hat, LiveChannels.buffered_of_none hat]
      exact hbalanced.drop fun e he => (h.number?_drop hc he).trans (if_pos rfl)
    · rw [if_neg heq] at hat
      rw [if_neg heq, LiveChannels.waitingOn_congr hat, LiveChannels.buffered_congr hat,
        List.append_nil]
      exact hbalanced.congr fun e he => (h.number?_drop hc he).trans (if_neg heq)
  · -- numbers are not given again, so nothing will be there under this one
    change (t.channels.drop n).channels[m]? ≠ none ∨ (t.channels.drop n).nextConnection ≤ m at hm
    rw [hat, LiveChannels.nextConnection_drop] at hm
    have hlt := h.coherent.fresh n c.consumer (LiveChannels.owner?_eq_some.mpr ⟨c, hc, rfl⟩)
    have hne : n ≠ m := by
      rintro rfl
      rcases hm with hpresent | hfresh
      · exact hpresent (if_pos rfl)
      · omega
    rw [hleft, if_neg hne, List.append_nil]
    rw [if_neg hne] at hm
    exact h.left m hm

theorem Kept.drop (h : Kept t b) (n : Nat) :
    Kept (t.move (.drop n)) (b.note t (.drop n)) := by
  cases hc : t.channels.channels[n]? with
  | some c => exact h.drop_of_some hc
  | none =>
    have hmove : t.move (.drop n) = t := by
      show { t with channels := t.channels.drop n } = t
      rw [LiveChannels.drop_of_none hc]
    have hnothing : losses t (.drop n) = [] := by
      rw [losses, LiveChannels.buffered_of_none hc, List.map_nil]
    rw [b.note_of_losses hnothing, hmove]
    exact h.rest h.coherent h.booked rfl (fun place => .inl rfl) rfl (fun m => ⟨rfl, rfl⟩)
      fun m => id

/-! ## Runs -/

/-- Every move keeps the books in order. -/
theorem Kept.move (h : Kept t b) (m : Move) : Kept (t.move m) (b.note t m) := by
  -- most moves concern neither channels nor pushes, so there is nothing to note
  have hquiet (m : Move) (hlosses : losses t m = []) (hchannels : (t.move m).channels = t.channels)
      (hpushes : (t.move m).pushes = t.pushes) (hread : (t.move m).received = t.received) :
      Kept (t.move m) (b.note t m) := by
    rw [b.note_of_losses hlosses]
    refine h.rest (coherent_move h.coherent m) (h.booked.move h.coherent m) ?_
      (fun place => .inl ?_) hread (fun n => ?_) fun n => ?_
    · rw [hchannels]
    · rw [hpushes]
    · rw [hchannels]
      exact ⟨rfl, rfl⟩
    · rw [hchannels]
      exact id
  cases m with
  | subscription operation => exact hquiet _ rfl rfl rfl rfl
  | advance millis => exact hquiet _ rfl rfl rfl rfl
  | post producer notification => exact h.post producer notification
  | connect consumer => exact h.connect consumer
  | drop n => exact h.drop n
  | receive n => exact h.receive n
  | push place action =>
    cases hpush : t.pushes[place]? with
    | some push => exact h.act hpush action
    | none =>
      -- there is no push at this place yet
      have hmove : t.move (.push place action) = t := by rw [Traffic.move, hpush]
      exact hquiet _ rfl (by rw [hmove]) (by rw [hmove]) (by rw [hmove])

theorem kept_start (limit capacity patience : Nat) : Kept (start limit capacity patience) {} where
  coherent := LiveChannels.coherent_ofCapacity capacity
  booked := booked_start limit capacity patience
  arrived e := by simp [sending?, start]
  once := List.nodup_nil
  balanced n := by
    have hnone : (start limit capacity patience).channels.channels[n]? = none := by
      simp [start, LiveChannels.ofCapacity]
    rw [LiveChannels.waitingOn_of_none hnone, LiveChannels.buffered_of_none hnone]
    exact Balanced.nil _
  left n _ := rfl
  completed place hplace := by simp [outcome?, start] at hplace
  succeeded e he := by cases he

theorem Kept.run (h : Kept t b) (moves : List Move) : Kept (t.run moves) (ledger t b moves) := by
  rw [Traffic.run]
  induction moves generalizing t b with
  | nil => exact h
  | cons m moves ih => exact ih (h.move m)

/-- The number of frames that channels buffer never changes. -/
theorem capacity_move (t : Traffic) (m : Move) :
    (t.move m).channels.capacity = t.channels.capacity := by
  cases m with
  | push place action =>
    rw [Traffic.move]
    split
    · rfl
    next push hpush => exact (push.step_act t.now t.patience t.channels action).capacity_eq
  | connect consumer =>
    rw [Traffic.move]
    split
    · rfl
    next n channels hconnect => rw [(LiveChannels.connect_eq_some hconnect).2]
  | drop n => exact LiveChannels.capacity_drop
  | receive n => exact LiveChannels.capacity_receive
  | subscription | post | advance => rfl

theorem capacity_run (limit capacity patience : Nat) (moves : List Move) :
    ((start limit capacity patience).run moves).channels.capacity = max capacity 1 :=
  run_induction (P := fun t => t.channels.capacity = max capacity 1) rfl
    (fun t m ht => (capacity_move t m).trans ht) moves

end Traffic

end ServiceBroker
