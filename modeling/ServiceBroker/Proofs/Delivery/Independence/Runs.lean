import ServiceBroker.Proofs.Delivery.Independence.Pushes

/-!
# Consumers do not notice each other

What becomes of the pushes to a consumer, and which frames it receives, does not depend on the
pushes to anybody else. Two traffics in which a consumer sees the same go on so, although the pushes
to other consumers act in one of them only.

- `Traffic.Alike.post`, `Traffic.Alike.connect`, `Traffic.Alike.drop`, `Traffic.Alike.receive`: the
  moves of others than pushes;
- `Traffic.Alike.move` and `Traffic.Alike.run`: the consumer goes on seeing the same.
-/

namespace ServiceBroker

namespace Traffic

variable {t t' : Traffic} {consumer : Urn} {place? : Nat → Option Nat} {ρ : Equiv.Perm Nat}
  {place place' : Nat} {push push' : Push} {stage : Push.Stage} {channels : LiveChannels}

namespace Alike

/-! ### Moves of others -/

/-- A notification is pushed in both traffics. -/
theorem post (h : Alike consumer place? ρ t t') (producer : Urn) (notification : Notification) :
    Alike consumer place? ρ (t.move (.post producer notification))
      (t'.move (.post producer notification)) := by
  let posted : Post := ⟨producer, notification, t.index⟩
  have hpushes : (t.move (.post producer notification)).pushes = t.pushes ++ posted.pushes := rfl
  have hpushes' : (t'.move (.post producer notification)).pushes =
      t'.pushes ++ posted.pushes := by
    rw [move, h.index]
  refine { h with pushes := ?pushes, left := ?left, appended := ?appended, told := ?told }
  case pushes =>
    intro place place' push hplace hpush
    rw [hpushes']
    rcases getElem?_append_cases (hpushes ▸ hpush) with hold | ⟨k, rfl, hnew⟩
    · obtain ⟨push', hpush', halike⟩ := h.pushes place place' push hplace hold
      have hlt' := (List.getElem?_eq_some_iff.mp hpush').1
      exact ⟨push', (List.getElem?_append_left hlt').trans hpush', halike⟩
    · -- the new pushes are the same
      cases hplace.symm.trans (h.appended k)
      have hmatched := Post.stage_of_mem_pushes (List.mem_of_getElem? hnew)
      refine ⟨push, ?_, rfl, rfl, fun _ => by rw [hmatched]; rfl⟩
      rwa [List.getElem?_append_right (Nat.le_add_right ..), Nat.add_sub_cancel_left]
  case left =>
    intro place push hplace hpush
    rcases getElem?_append_cases (hpushes ▸ hpush) with hold | ⟨k, rfl, -⟩
    · exact h.left place push hplace hold
    · -- every new push has a counterpart
      rw [h.appended k] at hplace
      cases hplace
  case appended =>
    intro k
    rw [hpushes, hpushes', List.length_append, List.length_append, Nat.add_assoc, Nat.add_assoc]
    exact h.appended _
  case told =>
    intro place push ticket hpush hconsumer hticket
    rcases getElem?_append_cases (hpushes ▸ hpush) with hold | ⟨k, rfl, hnew⟩
    · exact h.told place push ticket hold hconsumer hticket
    · -- a push that has just been matched does not wait
      rw [Post.stage_of_mem_pushes (List.mem_of_getElem? hnew)] at hticket
      cases hticket

/-- A consumer connects in both traffics. -/
theorem connect (h : Alike consumer place? ρ t t') (other : Urn) :
    Alike consumer place? ρ (t.move (.connect other)) (t'.move (.connect other)) := by
  -- the capacity is the same, so both connect or neither does
  by_cases htooLarge : LiveChannels.largestCapacity < t.channels.capacity
  · have hstill : t.channels.connect other = none := if_pos htooLarge
    have hstill' : t'.channels.connect other = none := if_pos (h.capacity ▸ htooLarge)
    rw [move, hstill, move, hstill']
    exact h
  obtain ⟨l, hconnect⟩ : ∃ l, t.channels.connect other = some (t.channels.nextConnection, l) :=
    ⟨_, if_neg htooLarge⟩
  obtain ⟨l', hconnect'⟩ : ∃ l', t'.channels.connect other =
      some (t.channels.nextConnection, l') :=
    ⟨_, (if_neg (h.capacity ▸ htooLarge)).trans (by rw [h.nextConnection])⟩
  obtain ⟨-, hl⟩ := LiveChannels.connect_eq_some hconnect
  obtain ⟨-, hl'⟩ := LiveChannels.connect_eq_some hconnect'
  rw [move, hconnect, move, hconnect']
  refine { h with
    capacity := ?capacity
    current := ?current
    nextConnection := ?nextConnection
    owner := ?owner
    channel := ?channel
    told := ?told }
  case capacity =>
    rw [hl, hl']
    exact h.capacity
  case current =>
    rw [hl, hl']
    show t'.channels.current.insert other _ = t.channels.current.insert other _
    rw [h.current, h.nextConnection]
  case nextConnection =>
    rw [hl, hl']
    exact congrArg (· + 1) h.nextConnection
  case owner =>
    intro n
    rw [LiveChannels.owner?_connect hconnect, LiveChannels.owner?_connect hconnect', h.owner]
  case channel =>
    intro n hn
    -- the new channel is empty, the others are as they were
    rw [LiveChannels.owner?_connect hconnect] at hn
    rw [LiveChannels.channels_connect hconnect, LiveChannels.channels_connect hconnect']
    split
    · rfl
    next hne => exact h.channel n (by rwa [if_neg hne] at hn)
  case told =>
    rw [hl, hl']
    exact h.told

section Told

variable {ticket : Ticket}

/-- When a connection is dropped, those are told that it is closed who waited on it, in both
traffics the same. -/
private theorem told_drop (h : Alike consumer place? ρ t t') (ht : t.Sound) (ht' : t'.Sound)
    (n : Nat)
    (hpush : t.pushes[place]? = some push) (hconsumer : push.consumer = consumer)
    (hticket : push.stage.ticket? = some ticket) :
    (t'.channels.drop n).ended[ρ ticket.number]? = (t.channels.drop n).ended[ticket.number]? := by
  have htold := h.told place push ticket hpush hconsumer hticket
  have howner := h.owner n
  rw [LiveChannels.owner?, LiveChannels.owner?] at howner
  cases hc : t.channels.channels[n]? with
  -- without an owner in the one traffic there is none in the other
  | none =>
    have hc' : t'.channels.channels[n]? = none :=
      Option.map_eq_none_iff.mp (by rw [howner, hc]; rfl)
    rw [LiveChannels.drop_of_none hc', LiveChannels.drop_of_none hc]
    exact htold
  | some c =>
    rw [hc] at howner
    obtain ⟨c', hc', -⟩ := Option.map_eq_some_iff.mp howner
    -- the ticket and its counterpart are for the same connection
    obtain ⟨place', -, hpush'⟩ := h.counterpart hpush hconsumer
    have hdrop := ended_drop_ticket ht.booked hc (mem_tickets.mpr ⟨place, push, hpush, hticket⟩)
    have hdrop' := ended_drop_ticket ht'.booked hc'
      (mem_tickets.mpr ⟨place', _, hpush', Push.Stage.ticket?_renumber hticket⟩)
    rw [hdrop', hdrop, htold]

/-- When a connection is read, the same push to the consumer is told in both traffics that it was
let in, if it is one. -/
private theorem told_receive (h : Alike consumer place? ρ t t') (ht : t.Sound) (ht' : t'.Sound)
    (n : Nat)
    (hpush : t.pushes[place]? = some push) (hconsumer : push.consumer = consumer)
    (hticket : push.stage.ticket? = some ticket) :
    (t'.channels.receive n).2.ended[ρ ticket.number]? =
      (t.channels.receive n).2.ended[ticket.number]? := by
  have htold := h.told place push ticket hpush hconsumer hticket
  obtain ⟨place', -, hpush'⟩ := h.counterpart hpush hconsumer
  by_cases howner : t.channels.owner? n = some consumer
  · -- the first in line of the one channel is the counterpart of the first in line of the other
    obtain ⟨c, hc, -⟩ := LiveChannels.owner?_eq_some.mp howner
    have hc' : t'.channels.channels[n]? = some (c.renumber ρ) := by
      rw [h.channel n howner, hc]
      rfl
    rw [LiveChannels.ended_receive_of_some hc, LiveChannels.ended_receive_of_some hc',
      LiveChannel.line_renumber, List.head?_map, htold]
    simp [LiveChannel.renumber]
  · have howner' : t'.channels.owner? n ≠ some consumer := h.owner n ▸ howner
    have hticket' := Push.Stage.ticket?_renumber (ρ := ρ) hticket
    rw [ht.ended_receive_of_ne hpush hticket (hconsumer ▸ howner),
      ht'.ended_receive_of_ne hpush' hticket' howner', htold]

end Told

/-- A connection is dropped in both traffics. -/
theorem drop (h : Alike consumer place? ρ t t') (ht : t.Sound) (ht' : t'.Sound) (n : Nat) :
    Alike consumer place? ρ (t.move (.drop n)) (t'.move (.drop n)) := by
  refine { h with
    capacity := ?capacity
    current := ?current
    nextConnection := ?nextConnection
    owner := ?owner
    channel := ?channel
    told := ?told }
  case capacity =>
    rw [move, move, LiveChannels.capacity_drop, LiveChannels.capacity_drop, h.capacity]
  case current =>
    rw [move, move, LiveChannels.current_drop, LiveChannels.current_drop, h.owner, h.current]
  case nextConnection =>
    rw [move, move, LiveChannels.nextConnection_drop, LiveChannels.nextConnection_drop,
      h.nextConnection]
  case owner =>
    intro m
    rw [move, move, LiveChannels.owner?_drop, LiveChannels.owner?_drop, h.owner]
  case channel =>
    intro m hm
    -- the channel that goes is no longer the consumer's
    rw [move, LiveChannels.owner?_drop] at hm
    rw [move, move, LiveChannels.channels_drop, LiveChannels.channels_drop]
    split
    · rfl
    next hne => exact h.channel m (by rwa [if_neg hne] at hm)
  case told => exact fun _ _ _ => h.told_drop ht ht' n

/-- A connection is read in both traffics. -/
theorem receive (h : Alike consumer place? ρ t t') (ht : t.Sound) (ht' : t'.Sound) (n : Nat) :
    Alike consumer place? ρ (t.move (.receive n)) (t'.move (.receive n)) := by
  refine { h with
    capacity := ?capacity
    current := ?current
    nextConnection := ?nextConnection
    owner := ?owner
    channel := ?channel
    received := ?received
    told := ?told }
  case capacity =>
    rw [move, move, LiveChannels.capacity_receive, LiveChannels.capacity_receive, h.capacity]
  case current =>
    rw [move, move, LiveChannels.current_receive, LiveChannels.current_receive, h.current]
  case nextConnection =>
    rw [move, move, LiveChannels.nextConnection_receive, LiveChannels.nextConnection_receive,
      h.nextConnection]
  case owner =>
    intro m
    rw [move, move, LiveChannels.owner?_receive, LiveChannels.owner?_receive, h.owner]
  case channel =>
    intro m hm
    rw [move, LiveChannels.owner?_receive] at hm
    rw [move, move, LiveChannels.channels_receive, LiveChannels.channels_receive, h.channel m hm]
    split
    · cases t.channels.channels[m]? with
      | none => rfl
      | some c => exact congrArg some (c.shift_renumber ρ)
    · rfl
  case received =>
    rw [receivedBy_receive, receivedBy_receive, h.received]
    refine congrArg (t.receivedBy consumer ++ ·) ?_
    -- of what others receive the consumer sees nothing, in either traffic
    by_cases howner : t.channels.owner? n = some consumer
    · rw [reception_eq, reception_eq, h.channel n howner]
      cases t.channels.channels[n]? <;> rfl
    · rw [filterMap_reception_of_ne howner, filterMap_reception_of_ne fun howner' =>
        howner ((h.owner n).symm.trans howner')]
  case told => exact fun _ _ _ => h.told_receive ht ht' n

/-! ### Runs -/

/-- Whoever sees the same in two traffics sees the same after a move. -/
theorem move (h : Alike consumer place? ρ t t') (ht : t.Sound) (ht' : t'.Sound)
    (hinjective : ∀ i j k, place? i = some k → place? j = some k → i = j) (m : Move) :
    ∃ σ, Alike consumer place? σ (t.move m) (t'.run (m.at? place?).toList) := by
  cases m with
  | subscription operation =>
    have hindex : (operation.perform t'.index).2 = (operation.perform t.index).2 := by
      rw [h.index]
    exact ⟨ρ, { h with index := hindex }⟩
  | post producer notification => exact ⟨ρ, h.post producer notification⟩
  | push place action => exact h.act ht ht' hinjective place action
  | connect other => exact ⟨ρ, h.connect other⟩
  | drop n => exact ⟨ρ, h.drop ht ht' n⟩
  | receive n => exact ⟨ρ, h.receive ht ht' n⟩
  | advance millis => exact ⟨ρ, { h with now := congrArg (· + millis) h.now }⟩

/-- It sees the same all along, whatever pushes to others do in either. -/
theorem run (h : Alike consumer place? ρ t t') (ht : t.Sound) (ht' : t'.Sound)
    (hinjective : ∀ i j k, place? i = some k → place? j = some k → i = j) (moves : List Move) :
    ∃ σ, Alike consumer place? σ (t.run moves) (t'.run (moves.filterMap (Move.at? place?))) := by
  -- the numbers may be others after each move, the places stay the same
  induction moves generalizing t t' ρ with
  | nil => exact ⟨ρ, h⟩
  | cons m moves ih =>
    obtain ⟨σ, hmove⟩ := h.move ht ht' hinjective m
    have hrun : t'.run ((m :: moves).filterMap (Move.at? place?)) =
        (t'.run (m.at? place?).toList).run (moves.filterMap (Move.at? place?)) := by
      rw [← run_append, List.filterMap_cons]
      cases m.at? place? <;> rfl
    rw [hrun]
    exact ih hmove (ht.move m) (ht'.run _)

end Alike

end Traffic

end ServiceBroker
