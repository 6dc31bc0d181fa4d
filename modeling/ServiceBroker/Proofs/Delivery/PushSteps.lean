import ServiceBroker.Proofs.Delivery.Traffic

/-!
# What an action of a push can do

An action does something only at the stages that take it, and then one of a few things.

- `Push.Turn`: an action of a push and what comes of it; `Push.turn_iff`: this is all that actions
  do;
- `Push.Step`: what an action may do, whatever the action is;
- `Traffic.coherent_move`: whatever moves, consumers keep channels of their own.
-/

namespace ServiceBroker

/-! ## What an action can do -/

namespace Push

/-- The action does something at the stage. -/
def Stage.Takes : Stage → Action → Prop
  | .matched, .seek | .matched, .abandon => True
  | .holds _, .send | .holds _, .abandon => True
  | .waits _ _, .look | .waits _ _, .abandon => True
  | _, _ => False

/-- What comes of an action of a push that may wait for `patience` milliseconds. -/
inductive Turn (now patience : Nat) (channels : LiveChannels) (push : Push) :
    Action → Stage → LiveChannels → Prop
  /-- There is no live channel to take a handle to. -/
  | miss : push.stage = .matched → channels.current[push.consumer]? = none →
      Turn now patience channels push .seek (.over none (some (some .notConnected))) channels
  /-- It takes a handle to the current connection of its consumer. -/
  | hold {n : Nat} : push.stage = .matched → channels.current[push.consumer]? = some n →
      Turn now patience channels push .seek (.holds n) (channels.held n)
  /-- The reader of its connection has gone. -/
  | refuse {n : Nat} : push.stage = .holds n → channels.channels[n]? = none →
      Turn now patience channels push .send (.over (some n) (some (some .closed))) channels
  /-- Its frame is accepted at once. -/
  | accept {n : Nat} {c : LiveChannel} : push.stage = .holds n →
      channels.channels[n]? = some c → c.HasRoom channels.capacity →
      Turn now patience channels push .send (.over (some n) (some none))
        ((channels.pushTo n push.frame).2.release n)
  /-- Its frame has to wait, and its time begins to run. -/
  | queue {n : Nat} {c : LiveChannel} : push.stage = .holds n →
      channels.channels[n]? = some c → ¬c.HasRoom channels.capacity →
      Turn now patience channels push .send (.waits ⟨n, channels.nextPush⟩ (now + patience))
        ((channels.pushTo n push.frame).2.release n)
  /-- It is told how its waiting has ended. -/
  | collect {ticket : Ticket} {deadline : Nat} {result : PushResult} :
      push.stage = .waits ticket deadline → channels.ended[ticket.number]? = some result →
      Turn now patience channels push .look (.over (some ticket.connection) (some result))
        { channels with ended := channels.ended.erase ticket.number }
  /-- Its time is over, and it was not told anything. -/
  | expire {ticket : Ticket} {deadline : Nat} : push.stage = .waits ticket deadline →
      channels.ended[ticket.number]? = none → deadline ≤ now →
      Turn now patience channels push .look
        (.over (some ticket.connection) (some (some .timeout))) (channels.cancel ticket)
  /-- It waits on. -/
  | wait {ticket : Ticket} {deadline : Nat} : push.stage = .waits ticket deadline →
      channels.ended[ticket.number]? = none → now < deadline →
      Turn now patience channels push .look push.stage channels
  /-- It is given up before it has looked for a connection. -/
  | skip : push.stage = .matched →
      Turn now patience channels push .abandon (.over none none) channels
  /-- It is given up before it has sent anything. -/
  | release {n : Nat} : push.stage = .holds n →
      Turn now patience channels push .abandon (.over none none) (channels.release n)
  /-- It is given up while it waits. -/
  | quit {ticket : Ticket} {deadline : Nat} : push.stage = .waits ticket deadline →
      Turn now patience channels push .abandon (.over (some ticket.connection) none)
        (channels.cancel ticket)
  /-- The action is not up. -/
  | idle {action : Action} : ¬push.stage.Takes action →
      Turn now patience channels push action push.stage channels

variable {now patience : Nat} {channels channels' : LiveChannels} {push : Push} {action : Action}
  {stage : Stage}

theorem act_of_not_takes (h : ¬push.stage.Takes action) :
    push.act now patience channels action = (push.stage, channels) := by
  -- only the actions that a stage takes have an arm of their own
  obtain ⟨consumer, frame, before⟩ := push
  cases before <;> cases action <;> first | rfl | exact absurd trivial h

/-- A turn says what its action does. -/
theorem Turn.act_eq (h : Turn now patience channels push action stage channels') :
    push.act now patience channels action = (stage, channels') := by
  cases h with
  | miss hstage hcurrent => simp only [act, hstage, LiveChannels.hold_of_none hcurrent]
  | hold hstage hcurrent => simp only [act, hstage, LiveChannels.hold_of_some hcurrent]
  | @refuse n hstage hgone =>
    have hrelease : channels.release n = channels := LiveChannels.modify_of_none hgone
    simp only [act, hstage, LiveChannels.pushTo_of_none hgone, hrelease]
  | accept hstage hc hroom =>
    have hpushTo := LiveChannels.pushTo_of_some hc push.frame
    rw [if_pos hroom] at hpushTo
    simp only [act, hstage]
    rw [hpushTo]
  | queue hstage hc hroom =>
    have hpushTo := LiveChannels.pushTo_of_some hc push.frame
    rw [if_neg hroom] at hpushTo
    simp only [act, hstage]
    rw [hpushTo]
  | collect hstage hended => simp only [act, hstage, Dispatch.settlePush_of_ended hended]
  | expire hstage hended hlate =>
    simp only [act, hstage, Dispatch.settlePush_of_none hended, hlate, if_true]
  | wait hstage hended hearly =>
    simp only [act, hstage, Dispatch.settlePush_of_none hended, Nat.not_le.mpr hearly, if_false]
  | skip hstage | release hstage | quit hstage => simp only [act, hstage]
  | idle hnot => exact act_of_not_takes hnot

/-- Some turn takes place, whatever the action is. -/
private theorem exists_turn (now patience : Nat) (channels : LiveChannels) (push : Push)
    (action : Action) :
    ∃ stage channels', Turn now patience channels push action stage channels' := by
  by_cases htakes : push.stage.Takes action
  swap
  · exact ⟨_, _, .idle htakes⟩
  -- what is up comes out as the channels are found at that moment
  cases hstage : push.stage with
  | matched =>
    cases action with
    | seek =>
      cases hcurrent : channels.current[push.consumer]? with
      | none => exact ⟨_, _, .miss hstage hcurrent⟩
      | some n => exact ⟨_, _, .hold hstage hcurrent⟩
    | abandon => exact ⟨_, _, .skip hstage⟩
    | send | look => exact absurd htakes (by rw [hstage]; exact id)
  | holds n =>
    cases action with
    | send =>
      cases hc : channels.channels[n]? with
      | none => exact ⟨_, _, .refuse hstage hc⟩
      | some c =>
        by_cases hroom : c.HasRoom channels.capacity
        · exact ⟨_, _, .accept hstage hc hroom⟩
        · exact ⟨_, _, .queue hstage hc hroom⟩
    | abandon => exact ⟨_, _, .release hstage⟩
    | seek | look => exact absurd htakes (by rw [hstage]; exact id)
  | waits ticket deadline =>
    cases action with
    | look =>
      cases hended : channels.ended[ticket.number]? with
      | some result => exact ⟨_, _, .collect hstage hended⟩
      | none =>
        rcases Nat.lt_or_ge now deadline with hearly | hlate
        · exact ⟨_, _, .wait hstage hended hearly⟩
        · exact ⟨_, _, .expire hstage hended hlate⟩
    | abandon => exact ⟨_, _, .quit hstage⟩
    | seek | send => exact absurd htakes (by rw [hstage]; exact id)
  | _ => exact absurd htakes (by rw [hstage]; cases action <;> exact id)

/-- Turns are all that actions do. -/
theorem turn_iff : Turn now patience channels push action stage channels' ↔
    push.act now patience channels action = (stage, channels') := by
  refine ⟨Turn.act_eq, fun h => ?_⟩
  obtain ⟨_, _, hturn⟩ := exists_turn now patience channels push action
  cases hturn.act_eq.symm.trans h
  exact hturn

theorem turn_act (push : Push) (now patience : Nat) (channels : LiveChannels) (action : Action) :
    Turn now patience channels push action (push.act now patience channels action).1
      (push.act now patience channels action).2 :=
  turn_iff.mpr rfl

/-- A push that is over does nothing any more. -/
theorem Stage.not_takes_over {connection? : Option Nat} {report? : Option PushResult}
    (action : Action) : ¬(Stage.over connection? report?).Takes action := by
  cases action <;> exact id

/-- A frame that is sent to a channel with room is accepted. -/
theorem act_send_of_hasRoom {n : Nat} {c : LiveChannel} (hstage : push.stage = .holds n)
    (hc : channels.channels[n]? = some c) (hroom : c.HasRoom channels.capacity) :
    (push.act now patience channels .send).1 = .over (some n) (some none) :=
  congrArg Prod.fst (Turn.accept hstage hc hroom).act_eq

/-- A push that waits is told how its waiting has ended. -/
theorem act_look_of_ended {deadline : Nat} {ticket : Ticket} {result : PushResult}
    (hstage : push.stage = .waits ticket deadline)
    (hended : channels.ended[ticket.number]? = some result) :
    (push.act now patience channels .look).1 = .over (some ticket.connection) (some result) :=
  congrArg Prod.fst (Turn.collect hstage hended).act_eq

/-- What can become of the stage of a push, and of the live channels, by one action. -/
inductive Step (channels : LiveChannels) (push : Push) : Stage → LiveChannels → Prop
  /-- Nothing. -/
  | stay : Step channels push push.stage channels
  /-- There is no live channel to take a handle to. -/
  | miss : push.stage = .matched → channels.current[push.consumer]? = none →
      Step channels push (.over none (some (some .notConnected))) channels
  /-- It takes a handle to the current connection of its consumer. -/
  | hold {n : Nat} : push.stage = .matched → channels.current[push.consumer]? = some n →
      Step channels push (.holds n)
        (channels.modify n fun c => { c with handles := c.handles + 1 })
  /-- The reader of its connection has gone. -/
  | refuse {n : Nat} : push.stage = .holds n → channels.channels[n]? = none →
      Step channels push (.over (some n) (some (some .closed))) channels
  /-- Its frame is accepted at once. -/
  | accept {n : Nat} {c : LiveChannel} : push.stage = .holds n →
      channels.channels[n]? = some c → c.HasRoom channels.capacity →
      Step channels push (.over (some n) (some none)) ((channels.pushTo n push.frame).2.release n)
  /-- Its frame has to wait. -/
  | queue {n deadline : Nat} {c : LiveChannel} : push.stage = .holds n →
      channels.channels[n]? = some c → ¬c.HasRoom channels.capacity →
      Step channels push (.waits ⟨n, channels.nextPush⟩ deadline)
        ((channels.pushTo n push.frame).2.release n)
  /-- It is told how its waiting has ended. -/
  | collect {ticket : Ticket} {deadline : Nat} {result : PushResult} :
      push.stage = .waits ticket deadline → channels.ended[ticket.number]? = some result →
      Step channels push (.over (some ticket.connection) (some result))
        { channels with ended := channels.ended.erase ticket.number }
  /-- It has waited too long, or is given up with its request. -/
  | cancel {ticket : Ticket} {deadline : Nat} {report? : Option PushResult} :
      push.stage = .waits ticket deadline → report? ≠ some none →
      Step channels push (.over (some ticket.connection) report?) (channels.cancel ticket)
  /-- It is given up before it has looked for a connection. -/
  | skip : push.stage = .matched → Step channels push (.over none none) channels
  /-- It is given up before it has sent anything. -/
  | release {n : Nat} : push.stage = .holds n →
      Step channels push (.over none none) (channels.release n)

/-- A turn does no more than `Step` says, at whatever time it takes place. -/
theorem Turn.step (h : Turn now patience channels push action stage channels') :
    Step channels push stage channels' := by
  cases h with
  | miss hstage hcurrent => exact .miss hstage hcurrent
  | hold hstage hcurrent => exact .hold hstage hcurrent
  | refuse hstage hgone => exact .refuse hstage hgone
  | accept hstage hc hroom => exact .accept hstage hc hroom
  | queue hstage hc hroom => exact .queue hstage hc hroom
  | collect hstage hended => exact .collect hstage hended
  | expire hstage | quit hstage => exact .cancel hstage (by simp)
  | skip hstage => exact .skip hstage
  | release hstage => exact .release hstage
  | wait | idle => exact .stay

/-- An action does no more than `Step` says. -/
theorem step_act (push : Push) (now patience : Nat) (channels : LiveChannels) (action : Action) :
    Step channels push (push.act now patience channels action).1
      (push.act now patience channels action).2 :=
  (push.turn_act now patience channels action).step

section Step

variable {channels channels' : LiveChannels} {push : Push} {stage : Stage}

/-- No action of a push opens or closes a channel. -/
theorem Step.frame (h : Step channels push stage channels') :
    channels'.current = channels.current ∧ channels'.nextConnection = channels.nextConnection ∧
      ∀ n, channels'.owner? n = channels.owner? n := by
  -- handles come and go without anything else being changed
  have hrelease (l : LiveChannels) (n : Nat) : (l.release n).current = l.current ∧
      (l.release n).nextConnection = l.nextConnection ∧
      ∀ m, (l.release n).owner? m = l.owner? m :=
    ⟨LiveChannels.current_modify, LiveChannels.nextConnection_modify,
      fun _ => LiveChannels.owner?_modify fun _ => rfl⟩
  have hsent (n : Nat) : ((channels.pushTo n push.frame).2.release n).current = channels.current ∧
      ((channels.pushTo n push.frame).2.release n).nextConnection = channels.nextConnection ∧
      ∀ m, ((channels.pushTo n push.frame).2.release n).owner? m = channels.owner? m := by
    obtain ⟨hcurrent, hnext, howner⟩ := hrelease (channels.pushTo n push.frame).2 n
    exact ⟨by rw [hcurrent, LiveChannels.current_pushTo],
      by rw [hnext, LiveChannels.nextConnection_pushTo],
      fun m => by rw [howner, LiveChannels.owner?_pushTo]⟩
  cases h with
  | stay | miss | refuse | skip => exact ⟨rfl, rfl, fun _ => rfl⟩
  | collect => exact ⟨rfl, rfl, fun _ => rfl⟩
  | hold =>
    exact ⟨LiveChannels.current_modify, LiveChannels.nextConnection_modify,
      fun _ => LiveChannels.owner?_modify fun _ => rfl⟩
  | accept | queue => exact hsent _
  | cancel =>
    exact ⟨LiveChannels.current_cancel _, LiveChannels.nextConnection_cancel _,
      fun _ => LiveChannels.owner?_cancel _⟩
  | release => exact hrelease channels _

/-- A push that holds a handle may send its frame, which is then put at the end of one queue. All
other actions add nothing to any queue. -/
theorem Step.sent (h : Step channels push stage channels') :
    (stage.sentTo? = push.stage.sentTo? ∧
      ∀ m, (channels'.queue m).Sublist (channels.queue m)) ∨
    ∃ n, push.stage = .holds n ∧ stage.sentTo? = some n ∧
      ∀ m, (channels'.queue m).Sublist
        (if n = m then channels.queue m ++ [push.frame] else channels.queue m) := by
  have hsame {l l' : LiveChannels} {m : Nat} (h : l'.queue m = l.queue m) :
      (l'.queue m).Sublist (l.queue m) := h ▸ .refl _
  -- with or without a reader, the frame is put into no other queue
  have hsent {n : Nat} (m : Nat) :
      (((channels.pushTo n push.frame).2.release n).queue m).Sublist
        (if n = m then channels.queue m ++ [push.frame] else channels.queue m) := by
    have hrelease : ((channels.pushTo n push.frame).2.release n).queue m =
        (channels.pushTo n push.frame).2.queue m :=
      LiveChannels.queue_modify_of_frames fun _ => rfl
    rw [hrelease, LiveChannels.queue_pushTo]
    by_cases heq : n = m
    · rw [if_pos heq]
      split
      · exact .refl _
      · exact List.sublist_append_left ..
    · rw [if_neg heq, if_neg fun h => heq h.1]
  cases h with
  | stay => exact .inl ⟨rfl, fun _ => .refl _⟩
  | miss hstage | skip hstage =>
    rw [hstage]
    exact .inl ⟨rfl, fun _ => .refl _⟩
  | hold hstage =>
    rw [hstage]
    exact .inl ⟨rfl, fun m => hsame (LiveChannels.queue_modify_of_frames fun _ => rfl)⟩
  | refuse hstage =>
    -- who is refused has sent, although the queue stays as it was
    refine .inr ⟨_, hstage, rfl, fun m => ?_⟩
    split
    · exact List.sublist_append_left ..
    · exact .refl _
  | accept hstage | queue hstage => exact .inr ⟨_, hstage, rfl, hsent⟩
  | collect hstage =>
    rw [hstage]
    exact .inl ⟨rfl, fun _ => .refl _⟩
  | cancel hstage =>
    rw [hstage]
    exact .inl ⟨rfl, LiveChannels.queue_cancel_sublist channels _⟩
  | release hstage =>
    rw [hstage]
    exact .inl ⟨rfl, fun m => hsame (LiveChannels.queue_modify_of_frames fun _ => rfl)⟩

end Step

end Push

/-! ## Coherence -/

namespace Traffic

variable {t : Traffic}

theorem coherent_move (h : t.channels.Coherent) (m : Move) : (t.move m).channels.Coherent := by
  cases m with
  | push place action =>
    rw [move]
    split
    · exact h
    next push hpush =>
      obtain ⟨hcurrent, hnext, howner⟩ :=
        (push.step_act t.now t.patience t.channels action).frame
      exact h.congr hcurrent howner hnext
  | connect consumer =>
    rw [move]
    split
    · exact h
    next n channels hconnect => exact h.connect hconnect
  | drop n => exact h.drop n
  | receive n =>
    exact h.congr LiveChannels.current_receive (fun _ => LiveChannels.owner?_receive)
      LiveChannels.nextConnection_receive
  | subscription | post | advance => exact h

/-- Consumers are connected through channels of their own at any time of any run. -/
theorem IsReachable.coherent {t : Traffic} (h : t.IsReachable) : t.channels.Coherent :=
  h.induct (P := fun t => t.channels.Coherent)
    (fun _ capacity _ => LiveChannels.coherent_ofCapacity capacity) fun _ m h => coherent_move h m

end Traffic

end ServiceBroker
