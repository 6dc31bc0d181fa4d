import ServiceBroker.Proofs.Delivery.Failures

/-!
# Pushes go to their own consumers

A push is under way to connections of its own consumer only. So what a push does, and what happens
to the connections of others, does not change the channels of a consumer, nor what those are told
who wait for one of them.

## Main definitions

* `Traffic.Aimed`: pushes are under way to connections of their own consumers;
* `Traffic.Sound`: what is true of all traffic, whoever has asked for what.

## Main results

* `Traffic.Aimed.apart`: a push leaves the channels of others alone;
* `Traffic.Sound.ended_receive_of_ne`: so do reads of the channels of others with the pushes that
  wait.
-/

namespace ServiceBroker

/-! ## Pushes and the connections of others -/

namespace Traffic

variable {t : Traffic} {place : Nat} {push : Push} {stage : Push.Stage} {channels : LiveChannels}

/-- A push is under way to no connection but one of its consumer. -/
def Aimed (t : Traffic) : Prop :=
  ∀ push ∈ t.pushes, ∀ n, push.stage.IsUnderWay n →
    n < t.channels.nextConnection ∧ ∀ c, t.channels.owner? n = some c → c = push.consumer

/-- A push stays with the channel that it has aimed at. -/
theorem Aimed.act (h : t.Aimed) (hcoherent : t.channels.Coherent)
    (hpush : t.pushes[place]? = some push) {action : Push.Action}
    (hturn : push.Turn t.now t.patience t.channels action stage channels) :
    (t.acted place push stage channels).Aimed := by
  obtain ⟨-, hnext, howner⟩ := hturn.step.frame
  have hmem := List.mem_of_getElem? hpush
  intro p hp n hn
  simp only [acted, hnext, howner]
  rcases List.mem_or_eq_of_mem_set hp with hold | rfl
  · exact h p hold n hn
  cases hturn with
  | wait | idle => exact h push hmem n hn
  | hold _ hcurrent =>
    obtain rfl := hn
    have hn := hcoherent.owner _ _ hcurrent
    exact ⟨hcoherent.fresh _ _ hn, fun c hc => Option.some.inj (hc.symm.trans hn)⟩
  | queue hholds =>
    obtain rfl := hn
    exact h push hmem _ (by rw [hholds]; rfl)
  | miss | refuse | accept | collect | expire | skip | release | quit => exact hn.elim

/-- Pushes that have just been matched are not under way to any connection. -/
theorem Aimed.append (h : t.Aimed) {pushes : List Push}
    (hmatched : ∀ push ∈ pushes, push.stage = .matched) (posts : List Post) :
    Aimed { t with posts, pushes := t.pushes ++ pushes } := by
  intro p hp n hn
  rcases List.mem_append.mp hp with hold | hnew
  · exact h p hold n hn
  · rw [hmatched p hnew] at hn
    exact hn.elim

theorem Aimed.move (h : t.Aimed) (hcoherent : t.channels.Coherent) (m : Move) :
    (t.move m).Aimed := by
  cases m with
  | subscription | advance => exact h
  | post => exact h.append (fun _ => Post.stage_of_mem_pushes) _
  | push place action =>
    rw [Traffic.move]
    split
    · exact h
    next push hpush => exact h.act hcoherent hpush (push.turn_act ..)
  | connect consumer =>
    rw [Traffic.move]
    split
    · exact h
    next m channels hconnect =>
      obtain ⟨hm, hchannels⟩ := LiveChannels.connect_eq_some hconnect
      intro p hp n hn
      -- the new number is larger than any that a push has aimed at
      obtain ⟨hlt, hconsumer⟩ := h p hp n hn
      refine ⟨?_, fun c hc => hconsumer c ?_⟩
      · rw [hchannels]
        exact Nat.lt_succ_of_lt hlt
      · rwa [LiveChannels.owner?_connect hconnect, if_neg (by omega)] at hc
  | drop m =>
    intro p hp n hn
    obtain ⟨hlt, hconsumer⟩ := h p hp n hn
    refine ⟨by rwa [Traffic.move, LiveChannels.nextConnection_drop], fun c hc => hconsumer c ?_⟩
    rw [Traffic.move, LiveChannels.owner?_drop] at hc
    split at hc
    · cases hc
    · exact hc
  | receive m =>
    intro p hp n hn
    simp only [Traffic.move, LiveChannels.owner?_receive, LiveChannels.nextConnection_receive]
    exact h p hp n hn

/-- A push leaves the channels of all consumers but its own alone. -/
theorem Aimed.apart (h : t.Aimed) (hcoherent : t.channels.Coherent)
    (hpush : t.pushes[place]? = some push) (hstep : push.Step t.channels stage channels) {n : Nat}
    {consumer : Urn} (howner : t.channels.owner? n = some consumer)
    (hne : push.consumer ≠ consumer) : channels.channels[n]? = t.channels.channels[n]? := by
  have hidle : ¬push.stage.IsUnderWay n := fun hn =>
    hne ((h push (List.mem_of_getElem? hpush) n hn).2 consumer howner).symm
  refine (hstep.apart hidle fun hcurrent => hne ?_).1
  exact Option.some.inj ((hcoherent.owner _ n hcurrent).symm.trans howner)

/-- What is true of all traffic, whoever has asked for what. -/
structure Sound (t : Traffic) : Prop where
  coherent : t.channels.Coherent
  booked : t.Booked
  aimed : t.Aimed

theorem Sound.append (h : t.Sound) {pushes : List Push}
    (hmatched : ∀ push ∈ pushes, push.stage = .matched) (posts : List Post) :
    Sound { t with posts, pushes := t.pushes ++ pushes } :=
  ⟨h.coherent, h.booked.append hmatched posts, h.aimed.append hmatched posts⟩

theorem Sound.move (h : t.Sound) (m : Move) : (t.move m).Sound :=
  ⟨coherent_move h.coherent m, h.booked.move h.coherent m, h.aimed.move h.coherent m⟩

theorem Sound.run (h : t.Sound) (moves : List Move) : (t.run moves).Sound :=
  run_induction h (fun _ m h => h.move m) moves

/-- Traffic is sound at any time of any run. -/
theorem IsReachable.sound (h : t.IsReachable) : t.Sound :=
  h.induct (fun limit capacity patience => ⟨LiveChannels.coherent_ofCapacity capacity,
    booked_start limit capacity patience, fun _ hmem => absurd hmem List.not_mem_nil⟩)
    fun _ m h => h.move m

end Traffic

/-! ## Reading -/

namespace Traffic

variable {t : Traffic} {n place : Nat} {push : Push} {consumer : Urn}

theorem receivedBy_receive (t : Traffic) (n : Nat) (consumer : Urn) :
    (t.move (.receive n)).receivedBy consumer = t.receivedBy consumer ++
      (reception t.channels n).toList.filterMap fun r =>
        if r.consumer = consumer then some r.frame else none :=
  List.filterMap_append

/-- Nobody receives anything through the connection of another. -/
theorem filterMap_reception_of_ne {l : LiveChannels} {consumer : Urn}
    (h : l.owner? n ≠ some consumer) :
    ((reception l n).toList.filterMap fun r =>
      if r.consumer = consumer then some r.frame else none) = [] := by
  refine List.filterMap_eq_nil_iff.mpr fun r hr => if_neg fun heq => h ?_
  rw [Option.mem_toList, reception_eq] at hr
  obtain ⟨c, hc, hframe⟩ := Option.bind_eq_some_iff.mp hr
  obtain ⟨frame, -, rfl⟩ := Option.map_eq_some_iff.mp hframe
  rw [LiveChannels.owner?, hc, ← heq]
  rfl

/-- A push is told nothing when a connection of somebody else is read. -/
theorem Sound.ended_receive_of_ne (h : t.Sound) {ticket : Ticket}
    (hpush : t.pushes[place]? = some push) (hticket : push.stage.ticket? = some ticket)
    (howner : t.channels.owner? n ≠ some push.consumer) :
    (t.channels.receive n).2.ended[ticket.number]? = t.channels.ended[ticket.number]? := by
  cases hc : t.channels.channels[n]? with
  | none => rw [LiveChannels.receive_of_none hc]
  | some c =>
    rw [LiveChannels.ended_receive_of_some hc, if_neg fun hfirst => howner ?_]
    -- whoever is first in line waits for a channel of its own consumer
    have hmem := (h.booked.line n c hc _ (List.mem_of_head? hfirst.2)).1
    have heq := h.booked.eq_of_number hmem (mem_tickets.mpr ⟨place, push, hpush, hticket⟩) rfl
    have hunderWay : push.stage.IsUnderWay n :=
      Push.Stage.isUnderWay_iff.mpr (.inr ⟨ticket, hticket, (congrArg Ticket.connection heq).symm⟩)
    have hown : t.channels.owner? n = some c.consumer := by rw [LiveChannels.owner?, hc]; rfl
    rw [hown, (h.aimed push (List.mem_of_getElem? hpush) n hunderWay).2 _ hown]

/-- The channel to which a push to the consumer is under way is one of the consumer. -/
theorem Sound.owner_of_isUnderWay (h : t.Sound) (hpush : t.pushes[place]? = some push)
    (hconsumer : push.consumer = consumer) {c : LiveChannel}
    (hunderWay : push.stage.IsUnderWay n) (hc : t.channels.channels[n]? = some c) :
    t.channels.owner? n = some consumer := by
  have howner : t.channels.owner? n = some c.consumer := by rw [LiveChannels.owner?, hc]; rfl
  rw [howner, (h.aimed push (List.mem_of_getElem? hpush) n hunderWay).2 _ howner, hconsumer]

/-- Nobody waits in a line of the consumer but pushes to it. -/
theorem Sound.exists_push_of_mem_line (h : t.Sound) {number : Nat} {c : LiveChannel}
    (howner : t.channels.owner? n = some consumer) (hc : t.channels.channels[n]? = some c)
    (hnumber : number ∈ c.line) : ∃ (place : Nat) (push : Push), t.pushes[place]? = some push ∧
      push.consumer = consumer ∧ push.stage.ticket? = some ⟨n, number⟩ := by
  obtain ⟨place, push, hpush, hticket⟩ := mem_tickets.mp (h.booked.line n c hc number hnumber).1
  refine ⟨place, push, hpush, ?_, hticket⟩
  have hunderWay := Push.Stage.isUnderWay_iff.mpr (.inr ⟨_, hticket, rfl⟩)
  exact ((h.aimed push (List.mem_of_getElem? hpush) n hunderWay).2 consumer howner).symm

end Traffic

end ServiceBroker
