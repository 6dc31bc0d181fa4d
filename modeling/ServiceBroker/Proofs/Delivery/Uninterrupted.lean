import ServiceBroker.Proofs.Delivery.PushSteps
import ServiceBroker.Proofs.Delivery.Reports

/-!
# Pushes that are not interrupted

`Dispatch` hands the frame of a notification to one consumer after the other, and later looks at one
push after the other. That is one of the orders in which the tasks of the pushes may take their
turns: nobody else moves while a consumer is served, and the pushes go on in the order of the
consumers. So whatever is true of all traffic is true of deliveries as they are run.

## Main definitions

* `Traffic.LeadsTo`: some moves lead from one state of the traffic to another;
* `Dispatch.ShownBy`: the last pushes of the traffic are those of a delivery.

## Main results

* `Push.acts_seek_send`: a push that takes its handle and sends its frame at once does what
  `Dispatch.startPush` does;
* `Traffic.leadsTo_start`, `Traffic.leadsTo_settle` and `Traffic.leadsTo_cancel`: so do all pushes
  of a delivery when it is started, looked at and given up.
-/

namespace ServiceBroker

/-! ## Handles that are given back at once -/

/-- Whether there is room for a push does not depend on the handles. -/
private theorem LiveChannel.offer_withHandles (c : LiveChannel) (handles capacity number : Nat)
    (frame : Bytes) : { c with handles }.offer capacity number frame =
      { c.offer capacity number frame with handles } := by
  by_cases hroom : c.HasRoom capacity
  · have hoffer : c.offer capacity number frame = { c with buffer := c.buffer ++ [frame] } :=
      if_pos hroom
    rw [hoffer]
    exact if_pos hroom
  · have hoffer : c.offer capacity number frame =
        { c with waiting := c.waiting ++ [(number, frame)] } := if_neg hroom
    rw [hoffer]
    exact if_neg hroom

namespace LiveChannels

/-- Live channels are the same if all that can be asked of them is. -/
theorem ext_getElem? {l l' : LiveChannels} (hcapacity : l.capacity = l'.capacity)
    (hchannels : ∀ n : Nat, l.channels[n]? = l'.channels[n]?) (hcurrent : l.current = l'.current)
    (hnextConnection : l.nextConnection = l'.nextConnection) (hnextPush : l.nextPush = l'.nextPush)
    (hended : l.ended = l'.ended) : l = l' := by
  cases l
  cases l'
  obtain rfl := Std.ExtTreeMap.ext_getElem? hchannels
  simp_all only

variable (l : LiveChannels) (n : Nat) (frame : Bytes)

/-- A push starts in the same way through a handle. -/
private theorem start_pushTo_held : ((l.held n).pushTo n frame).1 = (l.pushTo n frame).1 := by
  rw [start_pushTo, start_pushTo, held, channels_modify, if_pos rfl, nextPush_modify,
    capacity_modify]
  cases l.channels[n]? <;> rfl

/-- A handle that is given back after the push leaves no trace. -/
private theorem release_pushTo_held :
    ((l.held n).pushTo n frame).2.release n = (l.pushTo n frame).2 := by
  apply ext_getElem?
  · simp only [release, held, capacity_modify, capacity_pushTo]
  · -- only the channel itself differs, and only while the handle is held
    intro m
    rw [release, channels_modify, channels_pushTo, channels_pushTo, held, channels_modify,
      capacity_modify, nextPush_modify]
    by_cases heq : n = m
    · simp only [heq, if_true]
      cases l.channels[m]? with
      | none => rfl
      | some c =>
        simp only [Option.map_some, LiveChannel.offer_withHandles, Nat.add_sub_cancel]
        rw [← LiveChannel.handles_offer l.capacity l.nextPush frame]
    · simp only [heq, if_false]
  · simp only [release, held, current_modify, current_pushTo]
  · simp only [release, held, nextConnection_modify, nextConnection_pushTo]
  · -- whether there is room does not depend on the handles
    have hfull : (∃ c, (l.held n).channels[n]? = some c ∧ ¬c.HasRoom (l.held n).capacity) ↔
        ∃ c, l.channels[n]? = some c ∧ ¬c.HasRoom l.capacity := by
      rw [held, channels_modify, if_pos rfl, capacity_modify]
      cases l.channels[n]? with
      | none => simp only [Option.map_none]
      | some c => simp [LiveChannel.HasRoom]
    have hnext : (l.held n).nextPush = l.nextPush := nextPush_modify
    simp only [release, nextPush_modify, pushTo_eq, hfull, hnext]
  · simp only [release, held, ended_modify, ended_pushTo]

end LiveChannels

/-! ## Pushes that go on one after the other -/

/-- A push that is looked at has ended or waits on. -/
private theorem Dispatch.settlePush_waits (deadline now : Nat) (ticket : Ticket)
    (channels : LiveChannels) :
    (∃ result, (settlePush deadline now (.waits ticket) channels).1 = .ended result) ∨
      settlePush deadline now (.waits ticket) channels = (.waits ticket, channels) := by
  cases hended : channels.ended[ticket.number]? with
  | some result => exact .inl ⟨result, by rw [settlePush_of_ended hended]⟩
  | none =>
    rw [settlePush_of_none hended]
    by_cases hlate : deadline ≤ now
    · exact .inl ⟨some .timeout, by rw [if_pos hlate]⟩
    · exact .inr (if_neg hlate)

namespace Push

/-- A push as far as the push of a delivery that is given up at a time. -/
def Shows (deadline : Nat) (push : Push) (single : Urn × PushState) : Prop :=
  push.consumer = single.1 ∧ match single.2 with
    | .ended result => ∃ connection?, push.stage = .over connection? (some result)
    | .waits ticket => push.stage = .waits ticket deadline
    | .due _ | .stuck => False

/-- Some actions of one push, one after the other. -/
def acts (now patience : Nat) : List Action → Push → LiveChannels → Push × LiveChannels
  | [], push, channels => (push, channels)
  | action :: actions, push, channels =>
    let acted := push.act now patience channels action
    acts now patience actions { push with stage := acted.1 } acted.2

/-- The same actions of some pushes, one push after the other. -/
def actsAll (now patience : Nat) (actions : List Action) :
    List Push → LiveChannels → List Push × LiveChannels
  | [], channels => ([], channels)
  | push :: pushes, channels =>
    let acted := acts now patience actions push channels
    let rest := actsAll now patience actions pushes acted.2
    (acted.1 :: rest.1, rest.2)

variable {push : Push} {now patience deadline : Nat} {channels : LiveChannels}
  {single : Urn × PushState}

/-- A push that takes its handle and sends its frame at once does what a delivery does for its
consumer. -/
theorem acts_seek_send (now patience : Nat) (channels : LiveChannels)
    (hstage : push.stage = .matched) :
    let started := Dispatch.startPush .live now push.frame channels push.consumer
    (push.acts now patience [.seek, .send] channels).2 = started.2 ∧
      (push.acts now patience [.seek, .send] channels).1.Shows (now + patience)
        (push.consumer, started.1) := by
  rw [Dispatch.startPush_live, LiveChannels.push]
  cases hcurrent : channels.current[push.consumer]? with
  | none =>
    have hhold := LiveChannels.hold_of_none hcurrent
    have hacts : push.acts now patience [.seek, .send] channels =
        ({ push with stage := .over none (some (some .notConnected)) }, channels) := by
      simp only [acts, act, hstage, hhold]
    rw [hacts]
    exact ⟨rfl, rfl, none, rfl⟩
  | some n =>
    have hhold := LiveChannels.hold_of_some hcurrent
    have hstart := channels.start_pushTo_held n push.frame
    have hrelease := channels.release_pushTo_held n push.frame
    simp only [acts, act, hstage, hhold]
    -- taking the handle and giving it back leaves the channels as a push without it does
    generalize (channels.held n).pushTo n push.frame = sent at hstart hrelease ⊢
    obtain ⟨start, after⟩ := sent
    dsimp only at hstart hrelease ⊢
    rw [← hstart, ← hrelease]
    cases start with
    | ended result => exact ⟨rfl, rfl, some n, rfl⟩
    | waits ticket => exact ⟨rfl, rfl, rfl⟩

/-- A push that looks does what a delivery does when it is looked at. -/
private theorem Shows.acts_look (h : push.Shows deadline single) (now patience : Nat)
    (channels : LiveChannels) :
    let settled := Dispatch.settlePush deadline now single.2 channels
    (push.acts now patience [.look] channels).2 = settled.2 ∧
      (push.acts now patience [.look] channels).1.Shows deadline (single.1, settled.1) := by
  obtain ⟨consumer, state⟩ := single
  obtain ⟨hconsumer, hstage⟩ := h
  cases state with
  | ended result =>
    obtain ⟨connection?, hover⟩ := hstage
    simp only [acts, act, hover]
    exact ⟨rfl, hconsumer, connection?, rfl⟩
  | waits ticket =>
    have hwaits : push.stage = .waits ticket deadline := hstage
    simp only [acts, act, hwaits]
    -- a push that waits has ended after a look, or is as it was
    rcases Dispatch.settlePush_waits deadline now ticket channels with ⟨result, hended⟩ | hsame
    · generalize Dispatch.settlePush deadline now (.waits ticket) channels = settled at hended ⊢
      obtain ⟨state, after⟩ := settled
      obtain rfl : state = .ended result := hended
      exact ⟨rfl, hconsumer, some ticket.connection, rfl⟩
    · rw [hsame]
      exact ⟨rfl, hconsumer, rfl⟩
  | due | stuck => exact hstage.elim

/-- A push that is abandoned is given up as by its delivery. -/
private theorem Shows.acts_abandon (h : push.Shows deadline single) :
    (push.acts now patience [.abandon] channels).2 = match single.2 with
      | .waits ticket => channels.cancel ticket
      | _ => channels := by
  obtain ⟨consumer, state⟩ := single
  obtain ⟨-, hstage⟩ := h
  cases state with
  | ended result =>
    obtain ⟨connection?, hover⟩ := hstage
    simp only [acts, act, hover]
  | waits ticket =>
    have hwaits : push.stage = .waits ticket deadline := hstage
    simp only [acts, act, hwaits]
  | due | stuck => exact hstage.elim

/-- Starting the pushes of a delivery. -/
theorem actsAll_seek_send (now patience : Nat) (frame : Bytes) (consumers : List Urn)
    (channels : LiveChannels) :
    let acted := actsAll now patience [.seek, .send]
      (consumers.map fun consumer => { consumer, frame }) channels
    let started := Dispatch.startAll .live now frame consumers channels
    acted.2 = started.2 ∧ List.Forall₂ (Shows (now + patience)) acted.1 started.1 := by
  induction consumers generalizing channels with
  | nil => exact ⟨rfl, .nil⟩
  | cons consumer consumers ih =>
    let push : Push := { consumer, frame }
    have hmatched : push.stage = .matched := rfl
    obtain ⟨hchannels, hshows⟩ := acts_seek_send now patience channels hmatched
    rw [List.map_cons, actsAll, Dispatch.startAll]
    dsimp only at hchannels hshows ⊢
    rw [hchannels]
    exact ⟨(ih _).1, .cons hshows (ih _).2⟩

/-- Looking at the pushes of a delivery. -/
theorem actsAll_look {pushes : List Push} {singles : List (Urn × PushState)}
    (h : List.Forall₂ (Shows deadline) pushes singles) (now patience : Nat)
    (channels : LiveChannels) :
    let acted := actsAll now patience [.look] pushes channels
    let settled := Dispatch.settlePushes deadline now singles channels
    acted.2 = settled.2 ∧ List.Forall₂ (Shows deadline) acted.1 settled.1 := by
  induction h generalizing channels with
  | nil => exact ⟨rfl, .nil⟩
  | cons hpush _ ih =>
    obtain ⟨hchannels, hshows⟩ := hpush.acts_look now patience channels
    rw [actsAll, Dispatch.settlePushes_cons]
    dsimp only at hchannels hshows ⊢
    rw [hchannels]
    exact ⟨(ih _).1, .cons hshows (ih _).2⟩

/-- Giving the pushes of a delivery up. -/
theorem actsAll_abandon {pushes : List Push} {d : Dispatch}
    (h : List.Forall₂ (Shows d.deadline) pushes d.pushes) (now patience : Nat)
    (channels : LiveChannels) :
    (actsAll now patience [.abandon] pushes channels).2 = d.cancel channels := by
  obtain ⟨deadline, singles⟩ := d
  dsimp only at h
  unfold Dispatch.cancel
  dsimp only
  induction h generalizing channels with
  | nil => rfl
  | cons hpush _ ih =>
    rw [actsAll, List.foldl_cons, hpush.acts_abandon]
    exact ih _

end Push

/-! ## Traffic -/

/-- The last pushes of the traffic are those of a delivery. -/
def Dispatch.ShownBy (d : Dispatch) (pushes : List Push) : Prop :=
  ∃ before live, pushes = before ++ live ∧ List.Forall₂ (Push.Shows d.deadline) live d.pushes

namespace Traffic

variable {t t' t'' : Traffic} {posts posts' : List Post} {d : Dispatch}

/-- Some moves, by which some notifications are pushed, lead from one state to another. -/
def LeadsTo (t : Traffic) (posts : List Post) (t' : Traffic) : Prop :=
  t'.posts = t.posts ++ posts ∧ ∃ moves, t.run moves = t'

theorem LeadsTo.refl (t : Traffic) : t.LeadsTo [] t :=
  ⟨(List.append_nil _).symm, [], rfl⟩

theorem LeadsTo.trans (h : t.LeadsTo posts t') (h' : t'.LeadsTo posts' t'') :
    t.LeadsTo (posts ++ posts') t'' := by
  obtain ⟨hposts, moves, hrun⟩ := h
  obtain ⟨hposts', moves', hrun'⟩ := h'
  refine ⟨by rw [hposts', hposts, List.append_assoc], moves ++ moves', ?_⟩
  rw [← hrun', ← hrun]
  exact run_append ..

theorem IsReachable.of_leadsTo (h : t.IsReachable) (h' : t.LeadsTo posts t') : t'.IsReachable := by
  obtain ⟨-, moves, rfl⟩ := h'
  exact h.run moves

/-- A push in the midst of others acts. -/
private theorem run_acts (actions : List Push.Action) {push : Push} {before after : List Push}
    (h : t.pushes = before ++ push :: after) :
    t.run (actions.map (.push before.length)) = { t with
      pushes := before ++ (push.acts t.now t.patience actions t.channels).1 :: after
      channels := (push.acts t.now t.patience actions t.channels).2 } := by
  induction actions generalizing t push with
  | nil =>
    rw [Push.acts, ← h]
    rfl
  | cons action actions ih =>
    have hplace : t.pushes[before.length]? = some push := by simp [h]
    have hmove : t.move (.push before.length action) = { t with
        pushes := before ++
          { push with stage := (push.act t.now t.patience t.channels action).1 } :: after
        channels := (push.act t.now t.patience t.channels action).2 } := by
      rw [move, hplace, h]
      simp
    rw [List.map_cons, run, List.foldl_cons, hmove]
    exact ih rfl

/-- The last pushes act, one after the other. -/
theorem leadsTo_actsAll (actions : List Push.Action) {before live : List Push}
    (h : t.pushes = before ++ live) :
    t.LeadsTo [] { t with
      pushes := before ++ (Push.actsAll t.now t.patience actions live t.channels).1
      channels := (Push.actsAll t.now t.patience actions live t.channels).2 } := by
  induction live generalizing t before with
  | nil =>
    rw [Push.actsAll, ← h]
    exact .refl t
  | cons push live ih =>
    -- the first push acts, and then counts as one of those before
    have hrun := run_acts actions h
    generalize hacted : push.acts t.now t.patience actions t.channels = acted at hrun
    have hfirst : t.LeadsTo [] { t with
        pushes := before ++ acted.1 :: live, channels := acted.2 } :=
      ⟨(List.append_nil _).symm, _, hrun⟩
    have hrest := hfirst.trans (ih (t := { t with
      pushes := before ++ acted.1 :: live, channels := acted.2 }) (List.append_cons ..))
    rw [Push.actsAll, hacted]
    dsimp only at hrest ⊢
    rw [List.append_cons]
    exact hrest

/-- A delivery is started by moves of its own. -/
theorem leadsTo_start {config : DeliveryConfig} (h : config.sendTimeout.millisUp = t.patience)
    (producer : Urn) (notification : Notification) :
    let started := Dispatch.start config t.index .live t.now producer notification t.channels
    ∃ pushes, started.1.ShownBy pushes ∧ t.LeadsTo [⟨producer, notification, t.index⟩] { t with
      posts := t.posts ++ [⟨producer, notification, t.index⟩], pushes, channels := started.2 } := by
  intro started
  let post : Post := ⟨producer, notification, t.index⟩
  let posted : Traffic := { t with posts := t.posts ++ [post], pushes := t.pushes ++ post.pushes }
  have hpost : t.LeadsTo [post] posted := ⟨rfl, [.post producer notification], rfl⟩
  obtain ⟨hchannels, hshows⟩ := Push.actsAll_seek_send t.now t.patience post.frame post.consumers
    t.channels
  have hpushes : posted.LeadsTo [] { posted with
      pushes := t.pushes ++ (Push.actsAll t.now t.patience [.seek, .send] post.pushes t.channels).1
      channels := started.2 } := by
    have hall := leadsTo_actsAll (t := posted) [.seek, .send] rfl
    rw [show started.2 = _ from hchannels.symm]
    exact hall
  have hdeadline : started.1.deadline = t.now + t.patience := by rw [← h]; rfl
  refine ⟨_, ⟨t.pushes, _, rfl, ?_⟩, hpost.trans hpushes⟩
  rw [hdeadline]
  exact hshows

/-- A delivery is looked at by moves of its own. -/
theorem leadsTo_settle (h : d.ShownBy t.pushes) :
    ∃ pushes, (d.settle t.now t.channels).1.ShownBy pushes ∧
      t.LeadsTo [] { t with pushes, channels := (d.settle t.now t.channels).2 } := by
  obtain ⟨before, live, hpushes, hshows⟩ := h
  obtain ⟨hchannels, hshows'⟩ := Push.actsAll_look hshows t.now t.patience t.channels
  have hlead := leadsTo_actsAll [.look] hpushes
  rw [hchannels] at hlead
  exact ⟨_, ⟨before, _, rfl, hshows'⟩, hlead⟩

/-- A delivery is given up by moves of its own. -/
theorem leadsTo_cancel (h : d.ShownBy t.pushes) :
    ∃ pushes, t.LeadsTo [] { t with pushes, channels := d.cancel t.channels } := by
  obtain ⟨before, live, hpushes, hshows⟩ := h
  have hlead := leadsTo_actsAll [.abandon] hpushes
  rw [Push.actsAll_abandon hshows] at hlead
  exact ⟨_, hlead⟩

/-- Connections are read and dropped by moves. -/
theorem leadsTo_reads {channels : LiveChannels} (h : t.channels.Reads channels) :
    ∃ received, t.LeadsTo [] { t with channels, received } := by
  induction h with
  | start => exact ⟨t.received, .refl t⟩
  | @receive channels n _ ih =>
    obtain ⟨received, hlead⟩ := ih
    have hread : LeadsTo { t with channels, received } [] { t with
        channels := (channels.receive n).2
        received := received ++ (reception channels n).toList } :=
      ⟨(List.append_nil _).symm, [.receive n], rfl⟩
    exact ⟨_, hlead.trans hread⟩
  | @drop channels n _ ih =>
    obtain ⟨received, hlead⟩ := ih
    have hdrop : LeadsTo { t with channels, received } [] { t with
        channels := channels.drop n, received } := ⟨(List.append_nil _).symm, [.drop n], rfl⟩
    exact ⟨_, hlead.trans hdrop⟩

/-- Time passes by a move. -/
theorem leadsTo_advance {now : Nat} (h : t.now ≤ now) : t.LeadsTo [] { t with now } := by
  refine ⟨(List.append_nil _).symm, [.advance (now - t.now)], ?_⟩
  show { t with now := t.now + (now - t.now) } = { t with now }
  rw [Nat.add_sub_cancel' h]

end Traffic

end ServiceBroker
