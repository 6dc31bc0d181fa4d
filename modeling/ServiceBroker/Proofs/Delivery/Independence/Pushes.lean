import ServiceBroker.Proofs.Delivery.Aims
import ServiceBroker.Proofs.Delivery.Independence.Renumbering

/-!
# Pushes that a consumer does not notice

Two traffics in which a consumer sees the same go on so when pushes act, although those to other
consumers act in one of them only. The numbers under which pushes wait may differ.

## Main definitions

* `Traffic.Alike`: a consumer sees the same in two traffics, up to such numbers.

## Main results

* `Traffic.Alike.act_left`, `Traffic.Alike.act_right`: pushes to others act in one of the two;
* `Traffic.Alike.exists_follows`: what a push to the consumer does in the one traffic it does in the
  other;
* `Traffic.Alike.act`: the consumer goes on seeing the same when a push acts.
-/

namespace ServiceBroker

/-! ## What a consumer sees -/

/-- Two pushes are those of the same frame to the same consumer and have come equally far, as far as
this is the consumer that looks. -/
structure Push.Alike (consumer : Urn) (ρ : Equiv.Perm Nat) (push push' : Push) : Prop where
  sameConsumer : push'.consumer = push.consumer
  sameFrame : push'.frame = push.frame
  stage : push.consumer = consumer → push'.stage = push.stage.renumber ρ

/-- The move when pushes stand at other places; none if it is one of a push that is left out. -/
def Move.at? (place? : Nat → Option Nat) : Move → Option Move
  | .push place action => (place? place).map (.push · action)
  | m => some m

namespace Traffic

/-- In two traffics a consumer sees the same, up to the numbers of pushes that wait. The pushes of
the first stand at other places in the second, or are left out if they are to others. -/
structure Alike (consumer : Urn) (place? : Nat → Option Nat) (ρ : Equiv.Perm Nat)
    (t t' : Traffic) : Prop where
  index : t'.index = t.index
  now : t'.now = t.now
  patience : t'.patience = t.patience
  capacity : t'.channels.capacity = t.channels.capacity
  current : t'.channels.current = t.channels.current
  nextConnection : t'.channels.nextConnection = t.channels.nextConnection
  owner : ∀ n, t'.channels.owner? n = t.channels.owner? n
  channel : ∀ n, t.channels.owner? n = some consumer →
    t'.channels.channels[n]? = (t.channels.channels[n]?).map (·.renumber ρ)
  received : t'.receivedBy consumer = t.receivedBy consumer
  pushes : ∀ (place place' : Nat) (push : Push), place? place = some place' →
    t.pushes[place]? = some push →
    ∃ push', t'.pushes[place']? = some push' ∧ Push.Alike consumer ρ push push'
  left : ∀ (place : Nat) (push : Push), place? place = none → t.pushes[place]? = some push →
    push.consumer ≠ consumer
  appended : ∀ k, place? (t.pushes.length + k) = some (t'.pushes.length + k)
  /-- Pushes to the consumer that wait were told the same. -/
  told : ∀ (place : Nat) (push : Push) (ticket : Ticket), t.pushes[place]? = some push →
    push.consumer = consumer → push.stage.ticket? = some ticket →
    t'.channels.ended[ρ ticket.number]? = t.channels.ended[ticket.number]?

variable {t t' : Traffic} {consumer : Urn} {place? : Nat → Option Nat} {ρ : Equiv.Perm Nat}
  {place place' : Nat} {push push' : Push} {stage : Push.Stage} {channels : LiveChannels}

namespace Alike

/-- The push to the consumer that stands at a place has its counterpart. -/
theorem counterpart (h : Alike consumer place? ρ t t') (hpush : t.pushes[place]? = some push)
    (hconsumer : push.consumer = consumer) :
    ∃ place', place? place = some place' ∧ t'.pushes[place']? =
      some ⟨consumer, push.frame, push.stage.renumber ρ⟩ := by
  cases hplace : place? place with
  | none => exact absurd hconsumer (h.left place push hplace hpush)
  | some place' =>
    obtain ⟨push', hpush', halike⟩ := h.pushes place place' push hplace hpush
    refine ⟨place', rfl, hpush'.trans (congrArg some ?_)⟩
    rw [← halike.stage hconsumer, ← halike.sameFrame, ← hconsumer, ← halike.sameConsumer]

/-! ### Pushes to others -/

/-- Pushes to others act in the first traffic. -/
theorem act_left (h : Alike consumer place? ρ t t') (ht : t.Sound)
    (hpush : t.pushes[place]? = some push) (hstep : push.Step t.channels stage channels)
    (hne : push.consumer ≠ consumer) :
    Alike consumer place? ρ (t.acted place push stage channels) t' := by
  obtain ⟨hcurrent, hnext, howner⟩ := hstep.frame
  refine { h with
    capacity := h.capacity.trans hstep.capacity_eq.symm
    current := h.current.trans hcurrent.symm
    nextConnection := h.nextConnection.trans hnext.symm
    owner := fun n => (h.owner n).trans (howner n).symm
    channel := ?channel
    pushes := ?pushes
    left := ?left
    appended := ?appended
    told := ?told }
  case channel =>
    intro n hn
    -- a push to somebody else does not touch the channels of the consumer
    have hn : t.channels.owner? n = some consumer := (howner n).symm.trans hn
    exact (h.channel n hn).trans (by rw [acted, ht.aimed.apart ht.coherent hpush hstep hn hne])
  case pushes =>
    intro other other' p hother hp
    rcases pushes_acted_cases hpush hp with ⟨rfl, rfl⟩ | ⟨-, hp⟩
    · -- its stage need not agree, for it is not a push to the consumer
      obtain ⟨p', hp', halike⟩ := h.pushes other other' push hother hpush
      exact ⟨p', hp', halike.sameConsumer, halike.sameFrame, fun heq => absurd heq hne⟩
    · exact h.pushes other other' p hother hp
  case left =>
    intro other p hother hp
    rcases pushes_acted_cases hpush hp with ⟨-, rfl⟩ | ⟨-, hp⟩
    · exact hne
    · exact h.left other p hother hp
  case appended =>
    intro k
    rw [acted, List.length_set]
    exact h.appended k
  case told =>
    -- the push that acts is another than the one that waits, and so has another number
    intro other p ticket hp hconsumer hticket
    rcases pushes_acted_cases hpush hp with ⟨-, rfl⟩ | ⟨heq, hp⟩
    · exact absurd hconsumer hne
    · have hsame := hstep.ended_eq fun own hown hnumber =>
        heq (ht.booked.place_eq hpush hp hown hticket hnumber).symm
      exact (h.told other p ticket hp hconsumer hticket).trans hsame.symm

/-- Pushes to others act in the second traffic. -/
theorem act_right (h : Alike consumer place? ρ t t') (ht' : t'.Sound)
    (hpush : t'.pushes[place']? = some push') (hstep : push'.Step t'.channels stage channels)
    (hne : push'.consumer ≠ consumer) :
    Alike consumer place? ρ t (t'.acted place' push' stage channels) := by
  obtain ⟨hcurrent, hnext, howner⟩ := hstep.frame
  refine { h with
    capacity := hstep.capacity_eq.trans h.capacity
    current := hcurrent.trans h.current
    nextConnection := hnext.trans h.nextConnection
    owner := fun n => (howner n).trans (h.owner n)
    channel := ?channel
    pushes := ?pushes
    appended := ?appended
    told := ?told }
  case channel =>
    intro n hn
    have hn' : t'.channels.owner? n = some consumer := (h.owner n).trans hn
    exact (ht'.aimed.apart ht'.coherent hpush hstep hn' hne).trans (h.channel n hn)
  case pushes =>
    -- the counterpart of a push may be the one that acts, but then it is to somebody else
    intro other other' p hother hp
    obtain ⟨p', hp', halike⟩ := h.pushes other other' p hother hp
    by_cases heq : other' = place'
    · subst heq
      cases hp'.symm.trans hpush
      exact ⟨_, pushes_acted_self hpush, halike.sameConsumer, halike.sameFrame,
        fun heq => absurd (halike.sameConsumer.trans heq) hne⟩
    · exact ⟨p', (pushes_acted_ne heq).trans hp', halike⟩
  case appended =>
    intro k
    rw [acted, List.length_set]
    exact h.appended k
  case told =>
    intro other p ticket hp hconsumer hticket
    obtain ⟨other', -, hp'⟩ := h.counterpart hp hconsumer
    have heq : other' ≠ place' := by
      rintro rfl
      cases hp'.symm.trans hpush
      exact hne rfl
    refine (hstep.ended_eq fun own hown hnumber => heq ?_).trans
      (h.told other p ticket hp hconsumer hticket)
    exact (ht'.booked.place_eq hpush hp' hown (Push.Stage.ticket?_renumber hticket) hnumber).symm

/-! ### Pushes to the consumer -/

/-- A push to the consumer that has to wait gets the next number, which need not be the same in both
traffics. -/
private theorem exists_renumbering (h : Alike consumer place? ρ t t') (ht : t.Sound)
    (ht' : t'.Sound) :
    ∃ σ : Equiv.Perm Nat, σ t.channels.nextPush = t'.channels.nextPush ∧
      ∀ (place : Nat) (push : Push) (ticket : Ticket), t.pushes[place]? = some push →
        push.consumer = consumer → push.stage.ticket? = some ticket →
        σ ticket.number = ρ ticket.number := by
  refine ⟨ρ.trans (Equiv.swap (ρ t.channels.nextPush) t'.channels.nextPush), ?_,
    fun place push ticket hpush hconsumer hticket => ?_⟩
  · rw [Equiv.trans_apply, Equiv.swap_apply_left]
  · -- numbers that were given are neither of the two that are exchanged
    have hlt := (ht.booked.ticket_lt ticket (mem_tickets.mpr ⟨place, push, hpush, hticket⟩)).2
    obtain ⟨place', -, hpush'⟩ := h.counterpart hpush hconsumer
    have hlt' := (ht'.booked.ticket_lt _
      (mem_tickets.mpr ⟨place', _, hpush', Push.Stage.ticket?_renumber hticket⟩)).2
    rw [Equiv.trans_apply]
    refine Equiv.swap_apply_of_ne_of_ne (fun heq => ?_) (Nat.ne_of_lt hlt')
    exact absurd (ρ.injective heq) (Nat.ne_of_lt hlt)

/-- An action by which a push to the consumer comes to a stage in the first traffic has its
counterpart in the second, after which those who wait are numbered anew. -/
structure Follows (consumer : Urn) (ρ σ : Equiv.Perm Nat) (t t' : Traffic) (push' : Push)
    (action : Push.Action) (stage : Push.Stage) (channels channels' : LiveChannels) : Prop where
  turn : push'.Turn t'.now t'.patience t'.channels action (stage.renumber σ) channels'
  /-- Whoever waits keeps its number. -/
  kept : ∀ (place : Nat) (push : Push) (ticket : Ticket), t.pushes[place]? = some push →
    push.consumer = consumer → push.stage.ticket? = some ticket → σ ticket.number = ρ ticket.number
  channel : ∀ n, t.channels.owner? n = some consumer →
    channels'.channels[n]? = (channels.channels[n]?).map (·.renumber σ)
  told : ∀ ticket, stage.ticket? = some ticket →
    channels'.ended[σ ticket.number]? = channels.ended[ticket.number]?

/-- Where a reader has gone in the first traffic it has gone in the second. -/
theorem channels_eq_none (h : Alike consumer place? ρ t t') {n : Nat}
    (hgone : t.channels.channels[n]? = none) : t'.channels.channels[n]? = none := by
  have howner := h.owner n
  rw [LiveChannels.owner?, LiveChannels.owner?, hgone] at howner
  exact Option.map_eq_none_iff.mp howner

/-- The channel that a push to the consumer is on its way to has its counterpart. -/
theorem channels_of_isUnderWay (h : Alike consumer place? ρ t t') (ht : t.Sound)
    (hpush : t.pushes[place]? = some push) (hconsumer : push.consumer = consumer) {n : Nat}
    {c : LiveChannel} (hunderWay : push.stage.IsUnderWay n)
    (hc : t.channels.channels[n]? = some c) :
    t'.channels.channels[n]? = some (c.renumber ρ) := by
  rw [h.channel n (ht.owner_of_isUnderWay hpush hconsumer hunderWay hc), hc]
  rfl

/-- A push to the consumer that has to wait in the first traffic has to wait in the second, where
its number may be another. -/
private theorem exists_follows_queue (h : Alike consumer place? ρ t t') (ht : t.Sound)
    (ht' : t'.Sound)
    (hpush : t.pushes[place]? = some push) (hconsumer : push.consumer = consumer)
    (hpush' : Push.Alike consumer ρ push push') {n : Nat} {c : LiveChannel}
    (hstage : push.stage = .holds n) (hc : t.channels.channels[n]? = some c)
    (hroom : ¬c.HasRoom t.channels.capacity) :
    ∃ σ channels', Follows consumer ρ σ t t' push' .send
      (.waits ⟨n, t.channels.nextPush⟩ (t.now + t.patience))
      ((t.channels.pushTo n push.frame).2.release n) channels' := by
  obtain ⟨σ, hnext, hsame⟩ := h.exists_renumbering ht ht'
  have hstage' : push'.stage = .holds n := by rw [hpush'.stage hconsumer, hstage]; rfl
  have hc' := h.channels_of_isUnderWay ht hpush hconsumer (by rw [hstage]; rfl) hc
  -- renumbering changes nobody's place in the line, so there is no room either
  have hroom' : ¬(c.renumber ρ).HasRoom t'.channels.capacity :=
    mt (c.hasRoom_renumber ρ _).mp (h.capacity ▸ hroom)
  have hturn' : push'.Turn t'.now t'.patience t'.channels .send
      (.waits ⟨n, σ t.channels.nextPush⟩ (t.now + t.patience))
      ((t'.channels.pushTo n push'.frame).2.release n) := by
    rw [hnext, ← h.now, ← h.patience]
    exact .queue hstage' hc' hroom'
  refine ⟨σ, _, hturn', hsame, fun m hm => ?_, fun ticket hticket => ?_⟩
  · -- those who waited before keep their numbers, so the channels were alike under `σ` as well
    have hchannel : t'.channels.channels[m]? = (t.channels.channels[m]?).map (·.renumber σ) := by
      rw [h.channel m hm]
      refine Option.map_congr fun c' hc' => LiveChannel.renumber_congr fun number hnumber => ?_
      obtain ⟨place, push, hpush, hconsumer, hticket⟩ := ht.exists_push_of_mem_line hm hc' hnumber
      exact (hsame place push _ hpush hconsumer hticket).symm
    rw [hpush'.sameFrame]
    refine LiveChannels.channels_sent_renumber hchannel fun c' _ => ?_
    rw [h.capacity, ← hnext]
    exact c'.offer_renumber σ ..
  · -- a new number was told nothing yet
    cases hticket
    simp only [LiveChannels.release, LiveChannels.ended_modify, LiveChannels.ended_pushTo]
    rw [hnext, ht.booked.ended_lt _ (le_refl _), ht'.booked.ended_lt _ (le_refl _)]

/-- What comes of an action of a push to the consumer in the first traffic comes of it in the
second. -/
theorem exists_follows (h : Alike consumer place? ρ t t') (ht : t.Sound) (ht' : t'.Sound)
    (hpush : t.pushes[place]? = some push) (hconsumer : push.consumer = consumer)
    (hpush' : Push.Alike consumer ρ push push') {action : Push.Action}
    (hturn : push.Turn t.now t.patience t.channels action stage channels) :
    ∃ σ channels', Follows consumer ρ σ t t' push' action stage channels channels' := by
  -- what the push was told before, and at which stage its counterpart is
  have htold {ticket : Ticket} (hticket : push.stage.ticket? = some ticket) :=
    h.told place push ticket hpush hconsumer hticket
  have hstage' {before : Push.Stage} (hstage : push.stage = before) :
      push'.stage = before.renumber ρ := hstage ▸ hpush'.stage hconsumer
  have hwaits {ticket : Ticket} {deadline : Nat} (hstage : push.stage = .waits ticket deadline) :
      push'.stage = .waits ⟨ticket.connection, ρ ticket.number⟩ deadline := hstage' hstage
  -- only a push that has to wait makes another numbering necessary
  have hkeep {channels' : LiveChannels}
      (hturn' : push'.Turn t'.now t'.patience t'.channels action (stage.renumber ρ) channels')
      (hchannel : ∀ n, t.channels.owner? n = some consumer →
        channels'.channels[n]? = (channels.channels[n]?).map (·.renumber ρ))
      (hended : ∀ ticket, stage.ticket? = some ticket →
        channels'.ended[ρ ticket.number]? = channels.ended[ticket.number]?) :
      ∃ σ channels', Follows consumer ρ σ t t' push' action stage channels channels' :=
    ⟨ρ, channels', hturn', fun _ _ _ _ _ _ => rfl, hchannel, hended⟩
  -- a push that does not wait has no ticket
  have hnobody {P : Ticket → Prop} : ∀ ticket, none = some ticket → P ticket :=
    fun ticket heq => absurd heq.symm (Option.some_ne_none ticket)
  have hcurrent : t'.channels.current[push'.consumer]? = t.channels.current[push.consumer]? := by
    rw [h.current, hpush'.sameConsumer]
  cases hturn with
  | miss hstage hmiss =>
    exact hkeep (.miss (hstage' hstage) (hcurrent.trans hmiss)) h.channel hnobody
  | @hold n hstage hfound =>
    refine hkeep (.hold (hstage' hstage) (hcurrent.trans hfound)) (fun m hm => ?_) hnobody
    exact LiveChannels.channels_modify_renumber (h.channel m hm) fun _ _ => rfl
  | refuse hstage hgone =>
    exact hkeep (.refuse (hstage' hstage) (h.channels_eq_none hgone)) h.channel hnobody
  | @accept n c hstage hc hroom =>
    have hc' := h.channels_of_isUnderWay ht hpush hconsumer (by rw [hstage]; rfl) hc
    have hroom' : (c.renumber ρ).HasRoom t'.channels.capacity :=
      (c.hasRoom_renumber ρ _).mpr (h.capacity ▸ hroom)
    refine hkeep (.accept (hstage' hstage) hc' hroom') (fun m hm => ?_) hnobody
    rw [hpush'.sameFrame]
    refine LiveChannels.channels_sent_renumber (h.channel m hm) fun c' hc' => ?_
    cases hc.symm.trans hc'
    rw [h.capacity]
    exact c.offer_renumber_of_hasRoom ρ hroom ..
  | queue hstage hc hroom =>
    exact h.exists_follows_queue ht ht' hpush hconsumer hpush' hstage hc hroom
  | @collect ticket deadline result hstage hended =>
    have hended' := (htold (by rw [hstage]; rfl)).trans hended
    have hturn' := @Push.Turn.collect t'.now t'.patience _ _ _ _ _ (hwaits hstage) hended'
    exact hkeep hturn' h.channel hnobody
  -- both clocks show the same, so it is as late in the second traffic
  | @expire ticket deadline hstage hended hlate =>
    have hended' := (htold (by rw [hstage]; rfl)).trans hended
    have hturn' := @Push.Turn.expire t'.now t'.patience _ _ _ _ (hwaits hstage) hended'
      (h.now ▸ hlate)
    refine hkeep hturn' (fun m hm => ?_) hnobody
    exact LiveChannels.channels_cancel_renumber (h.channel m hm) ..
  | wait hstage hended hearly =>
    have hended' := (htold (by rw [hstage]; rfl)).trans hended
    have hturn' := @Push.Turn.wait t'.now t'.patience _ _ _ _ (hwaits hstage) hended'
      (h.now ▸ hearly)
    rw [hpush'.stage hconsumer] at hturn'
    exact hkeep hturn' h.channel fun _ => htold
  | skip hstage => exact hkeep (.skip (hstage' hstage)) h.channel hnobody
  | release hstage =>
    refine hkeep (.release (hstage' hstage)) (fun m hm => ?_) hnobody
    exact LiveChannels.channels_modify_renumber (h.channel m hm) fun _ _ => rfl
  | @quit ticket deadline hstage =>
    have hturn' := @Push.Turn.quit t'.now t'.patience t'.channels _ _ _ (hwaits hstage)
    refine hkeep hturn' (fun m hm => ?_) hnobody
    exact LiveChannels.channels_cancel_renumber (h.channel m hm) ..
  | idle hnot =>
    -- an action that is not up next in the one is not up next in the other
    have hnot' : ¬push'.stage.Takes action := by
      rwa [hpush'.stage hconsumer, Push.Stage.takes_renumber]
    have hturn' := @Push.Turn.idle t'.now t'.patience t'.channels _ _ hnot'
    rw [hpush'.stage hconsumer] at hturn'
    exact hkeep hturn' h.channel fun _ => htold

/-- A push to the consumer acts in both traffics. -/
private theorem act_both (h : Alike consumer place? ρ t t') (ht : t.Sound) (ht' : t'.Sound)
    (hinjective : ∀ i j k, place? i = some k → place? j = some k → i = j)
    (hplace : place? place = some place') (hpush : t.pushes[place]? = some push)
    (hpush' : t'.pushes[place']? = some push') (halike : Push.Alike consumer ρ push push')
    {σ : Equiv.Perm Nat} {action : Push.Action}
    {channels' : LiveChannels} (hstep : push.Step t.channels stage channels)
    (hfollows : Follows consumer ρ σ t t' push' action stage channels channels') :
    Alike consumer place? σ (t.acted place push stage channels)
      (t'.acted place' push' (stage.renumber σ) channels') := by
  have hstep' := hfollows.turn.step
  obtain ⟨hcurrent, hnext, howner⟩ := hstep.frame
  obtain ⟨hcurrent', hnext', howner'⟩ := hstep'.frame
  refine {
    index := h.index
    now := h.now
    patience := h.patience
    capacity := hstep'.capacity_eq.trans (h.capacity.trans hstep.capacity_eq.symm)
    current := hcurrent'.trans (h.current.trans hcurrent.symm)
    nextConnection := hnext'.trans (h.nextConnection.trans hnext.symm)
    owner := fun n => (howner' n).trans ((h.owner n).trans (howner n).symm)
    channel := fun n hn => hfollows.channel n ((howner n).symm.trans hn)
    received := h.received
    pushes := ?pushes
    left := ?left
    appended := ?appended
    told := ?told }
  case pushes =>
    intro other other' p hother hp
    rcases pushes_acted_cases hpush hp with ⟨rfl, rfl⟩ | ⟨heq, hp⟩
    · cases hplace.symm.trans hother
      exact ⟨_, pushes_acted_self hpush', halike.sameConsumer, halike.sameFrame, fun _ => rfl⟩
    · -- the counterpart of another push stands at another place
      have heq' : other' ≠ place' := fun heq' => heq (hinjective _ _ _ hother (heq' ▸ hplace))
      obtain ⟨p', hp', hsame⟩ := h.pushes other other' p hother hp
      refine ⟨p', (pushes_acted_ne heq').trans hp', hsame.sameConsumer, hsame.sameFrame,
        fun hconsumer => (hsame.stage hconsumer).trans ?_⟩
      -- `σ` agrees with `ρ` on the numbers of those who wait
      exact Push.Stage.renumber_congr fun ticket hticket =>
        (hfollows.kept other p ticket hp hconsumer hticket).symm
  case left =>
    intro other p hother hp
    rcases pushes_acted_cases hpush hp with ⟨rfl, -⟩ | ⟨-, hp⟩
    · cases hplace.symm.trans hother
    · exact h.left other p hother hp
  case appended =>
    intro k
    rw [acted, acted, List.length_set, List.length_set]
    exact h.appended k
  case told =>
    intro other p ticket hp hother hticket
    rcases pushes_acted_cases hpush hp with ⟨rfl, rfl⟩ | ⟨heq, hp⟩
    · exact hfollows.told ticket hticket
    · -- the numbers of other pushes are others in both traffics
      have hne := hstep.ended_eq fun own hown hnumber =>
        heq (ht.booked.place_eq hpush hp hown hticket hnumber).symm
      obtain ⟨other', hother', hp'⟩ := h.counterpart hp hother
      have hticket' := Push.Stage.ticket?_renumber (ρ := ρ) hticket
      have hne' := hstep'.ended_eq fun own hown hnumber => heq (hinjective _ _ _ hother'
        (ht'.booked.place_eq hpush' hp' hown hticket' hnumber ▸ hplace))
      show channels'.ended[σ ticket.number]? = channels.ended[ticket.number]?
      rw [hfollows.kept other p ticket hp hother hticket, hne']
      exact (h.told other p ticket hp hother hticket).trans hne.symm

/-- The action of a push is made by its counterpart, too, if there is one. -/
theorem act (h : Alike consumer place? ρ t t') (ht : t.Sound) (ht' : t'.Sound)
    (hinjective : ∀ i j k, place? i = some k → place? j = some k → i = j) (place : Nat)
    (action : Push.Action) : ∃ σ, Alike consumer place? σ (t.move (.push place action))
      (t'.run ((place? place).map (.push · action)).toList) := by
  cases hpush : t.pushes[place]? with
  | none =>
    -- no push is there yet, and none at the place that its counterpart will have
    have hstill : t.move (.push place action) = t := by rw [move, hpush]
    rw [hstill]
    cases hplace : place? place with
    | none => exact ⟨ρ, h⟩
    | some place' =>
      obtain ⟨k, rfl⟩ := Nat.exists_eq_add_of_le (List.getElem?_eq_none_iff.mp hpush)
      cases hplace.symm.trans (h.appended k)
      have hpush' : t'.pushes[t'.pushes.length + k]? = none :=
        List.getElem?_eq_none_iff.mpr (Nat.le_add_right ..)
      have hstill' : t'.run (Option.map (Move.push · action)
          (some (t'.pushes.length + k))).toList = t' := by
        show t'.move (.push _ action) = t'
        rw [move, hpush']
      exact ⟨ρ, hstill'.symm ▸ h⟩
  | some push =>
    have hturn := push.turn_act t.now t.patience t.channels action
    rw [move_push hpush]
    cases hplace : place? place with
    | none => exact ⟨ρ, h.act_left ht hpush hturn.step (h.left place push hplace hpush)⟩
    | some place' =>
      obtain ⟨push', hpush', halike⟩ := h.pushes place place' push hplace hpush
      have hact' : t'.run (Option.map (Move.push · action) (some place')).toList =
          t'.acted place' push' (push'.act t'.now t'.patience t'.channels action).1
            (push'.act t'.now t'.patience t'.channels action).2 := move_push hpush' action
      rw [hact']
      by_cases hconsumer : push.consumer = consumer
      · obtain ⟨σ, channels', hfollows⟩ := h.exists_follows ht ht' hpush hconsumer halike hturn
        have hboth := h.act_both ht ht' hinjective hplace hpush hpush' halike hturn.step hfollows
        rw [hfollows.turn.act_eq]
        exact ⟨σ, hboth⟩
      · -- the two actions need not be alike, but the consumer notices neither
        have hother : push'.consumer ≠ consumer := halike.sameConsumer ▸ hconsumer
        exact ⟨ρ, (h.act_left ht hpush hturn.step hconsumer).act_right ht' hpush'
          (push'.step_act ..) hother⟩

end Alike

end Traffic

end ServiceBroker
