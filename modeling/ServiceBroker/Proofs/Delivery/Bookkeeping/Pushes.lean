import ServiceBroker.Proofs.Delivery.Bookkeeping.Actions

/-!
# Pushes keep the books

What the ledger has noted agrees with the live channels and with the results of pushes. Here this is
shown for the actions of pushes. A push that sends its frame arrives at a connection; what else a
push does leaves alone what has arrived, but a push that gives up leaves the line of its connection.

## Main definitions

* `Traffic.Kept`: what traffic and ledger keep.

## Main results

* `Traffic.Kept.act`: they keep it when a push acts.
-/

namespace ServiceBroker

namespace Traffic

variable {t : Traffic} {b : Ledger} {place : Nat} {push : Push} {stage : Push.Stage}
  {channels : LiveChannels}

/-- What is kept by every move. -/
structure Kept (t : Traffic) (b : Ledger) : Prop where
  coherent : t.channels.Coherent
  booked : t.Booked
  arrived : ∀ e, e ∈ b.arrived ↔ t.sending? e.place = some e
  once : (b.arrived.map (·.place)).Nodup
  balanced : ∀ n, Balanced (b.arrivedAt n) (b.completedAt n) t.number? (t.channels.waitingOn n)
    (t.readFrom n) (b.leftAt n) (t.channels.buffered n)
  /-- Nothing is left of a connection that is there, or has not been opened yet. -/
  left : ∀ n, t.channels.channels[n]? ≠ none ∨ t.channels.nextConnection ≤ n → b.leftAt n = []
  completed : ∀ place, t.outcome? place = some none → ∃ e ∈ b.completed, e.place = place
  succeeded : ∀ e ∈ b.completed, t.outcome? e.place = some none ∨ t.IsAbandoned e.place

theorem Kept.mem_arrived (h : Kept t b) {e : Entry} (he : e ∈ b.completed) : e ∈ b.arrived := by
  have hat : e ∈ b.completedAt e.connection := List.mem_filter.mpr ⟨he, by simp⟩
  exact List.mem_of_mem_filter ((h.balanced e.connection).order.mem (List.mem_append_left _ hat))

/-- A push that has sent nothing has not arrived anywhere. -/
private theorem Kept.notMem_arrived (h : Kept t b) (hplace : t.sending? place = none) :
    place ∉ b.arrived.map (·.place) := by
  intro hmem
  obtain ⟨e, he, rfl⟩ := List.mem_map.mp hmem
  rw [(h.arrived e).mp he] at hplace
  cases hplace

/-- What is left of connections is not changed by pushes. -/
theorem Kept.left_acted (h : Kept t b) (hstep : push.Step t.channels stage channels) (n : Nat)
    (hn : channels.channels[n]? ≠ none ∨ channels.nextConnection ≤ n) : b.leftAt n = [] := by
  obtain ⟨-, hnext, howner⟩ := hstep.frame
  rw [hnext] at hn
  refine h.left n (hn.imp_left fun hpresent hnone => hpresent ?_)
  have hsame := howner n
  rw [LiveChannels.owner?, LiveChannels.owner?, hnone] at hsame
  exact Option.map_eq_none_iff.mp hsame

/-- An action by which nothing is sent and nothing completes. -/
theorem Kept.act_quiet (h : Kept t b) (hpush : t.pushes[place]? = some push)
    (hstep : push.Step t.channels stage channels) (hsentTo : stage.sentTo? = push.stage.sentTo?)
    (hsuccess : stage.outcome? channels.ended = some none →
      push.stage.outcome? t.channels.ended = some none)
    (hended : push.stage.outcome? t.channels.ended = some none ∨ push.stage.IsAbandoned →
      stage.outcome? channels.ended = some none ∨ stage.IsAbandoned)
    (hbalanced : ∀ n, Balanced (b.arrivedAt n) (b.completedAt n)
      (t.acted place push stage channels).number? (channels.waitingOn n) (t.readFrom n)
      (b.leftAt n) (channels.buffered n)) :
    Kept (t.acted place push stage channels) (b.watch t (t.acted place push stage channels)) := by
  have hothers {other : Nat} (hne : other ≠ place) := acted_ne h.booked hpush hstep hne
  have hsending (other : Nat) :
      (t.acted place push stage channels).sending? other = t.sending? other := by
    by_cases hne : other = place
    · rw [hne, sending?_acted_self hpush, sending?_of_push hpush, hsentTo]
    · exact (hothers hne).2.2
  have hnothing : news completion? t (t.acted place push stage channels) = [] := by
    rw [news_eq_of_place (lt_length_acted hpush) fun other hne =>
      completion?_congr (hsending other) (by rw [(hothers hne).1])]
    -- what is success now was so before
    rw [completion?, completion?, hsending, outcome?_acted_self hpush, outcome?_of_push hpush]
    by_cases hnow : stage.outcome? channels.ended = some none
    · rw [if_pos (hsuccess hnow), if_pos hnow]
      cases t.sending? place <;> rfl
    · rw [if_neg hnow, Option.toList_none, ite_self]
  obtain ⟨hcurrent, hnext, howner⟩ := hstep.frame
  rw [Ledger.watch, news_eq_nil hsending, hnothing, List.append_nil, List.append_nil]
  constructor
  case coherent => exact h.coherent.congr hcurrent howner hnext
  case booked => exact h.booked.act h.coherent hpush hstep
  case arrived =>
    intro e
    rw [hsending]
    exact h.arrived e
  case once => exact h.once
  case balanced => exact hbalanced
  case left => exact h.left_acted hstep
  case completed =>
    intro other hother
    by_cases hne : other = place
    · subst hne
      rw [outcome?_acted_self hpush] at hother
      exact h.completed other ((outcome?_of_push hpush).trans (hsuccess hother))
    · rw [(hothers hne).1] at hother
      exact h.completed other hother
  case succeeded =>
    intro e he
    by_cases hne : e.place = place
    · rw [hne, outcome?_acted_self hpush, isAbandoned_acted_self hpush]
      have hbefore := h.succeeded e he
      rw [hne, outcome?_of_push hpush, isAbandoned_of_push hpush] at hbefore
      exact hended hbefore
    · rw [(hothers hne).1, IsAbandoned, pushes_acted_ne hne]
      exact h.succeeded e he

/-- A push arrives by sending its frame, and completes at once if this is accepted. -/
private theorem news_arrive (hbooked : t.Booked) (hpush : t.pushes[place]? = some push) {m : Nat}
    (hstep : push.Step t.channels stage channels) (hholds : push.stage = .holds m)
    (hsentTo : stage.sentTo? = some m) :
    news sending? t (t.acted place push stage channels) = [⟨place, m, push.frame⟩] ∧
      news completion? t (t.acted place push stage channels) =
        if stage.outcome? channels.ended = some none then [⟨place, m, push.frame⟩] else [] := by
  -- only this place can have news, so the news are its own
  have hne {other : Nat} (hne : other ≠ place) := acted_ne hbooked hpush hstep hne
  have hbefore : t.sending? place = none := by rw [sending?_of_push hpush, hholds]; rfl
  have hafter : (t.acted place push stage channels).sending? place =
      some ⟨place, m, push.frame⟩ := by
    rw [sending?_acted_self hpush, hsentTo]
    rfl
  -- whoever still holds the handle has not succeeded yet
  have hnothing : t.outcome? place ≠ some none := by
    rw [outcome?_of_push hpush, hholds]
    exact (Option.some_ne_none none).symm
  constructor
  · rw [news_eq_of_place (lt_length_acted hpush) fun other hother => (hne hother).2.2, hbefore,
      hafter]
    rfl
  · rw [news_eq_of_place (lt_length_acted hpush) fun other hother =>
      completion?_congr (hne hother).2.2 (by rw [(hne hother).1])]
    rw [completion?, if_neg hnothing, completion?, hafter, outcome?_acted_self hpush]
    by_cases hsuccess : stage.outcome? channels.ended = some none
    · rw [if_pos hsuccess, if_pos hsuccess]
      rfl
    · rw [if_neg hsuccess, if_neg hsuccess]
      rfl

/-- A frame that is sent to one connection does not concern the books of the others. -/
private theorem Kept.balanced_arrive (h : Kept t b) (hpush : t.pushes[place]? = some push) {m : Nat}
    (hstep : push.Step t.channels stage channels) (hnew : place ∉ b.arrived.map (·.place))
    (hothers : ∀ n, m ≠ n → channels.channels[n]? = t.channels.channels[n]?)
    {completed : List Entry} (hcompleted : ∀ e ∈ completed, e = ⟨place, m, push.frame⟩)
    (hbalanced : Balanced (b.arrivedAt m ++ [⟨place, m, push.frame⟩])
      (b.completedAt m ++ completed) (t.acted place push stage channels).number?
      (channels.waitingOn m) (t.readFrom m) (b.leftAt m) (channels.buffered m)) (n : Nat) :
    Balanced ((b.arrived ++ [(⟨place, m, push.frame⟩ : Entry)]).filter (·.connection = n))
      ((b.completed ++ completed).filter (·.connection = n))
      (t.acted place push stage channels).number? (channels.waitingOn n) (t.readFrom n)
      (b.leftAt n) (channels.buffered n) := by
  rw [List.filter_append, List.filter_append, List.filter_singleton]
  by_cases hm : m = n
  · subst hm
    -- all of what is new concerns this connection
    have hall : completed.filter (·.connection = m) = completed :=
      List.filter_eq_self.mpr fun e he => by simp [hcompleted e he]
    rw [hall, decide_eq_true rfl, cond_true]
    exact hbalanced
  · -- nothing of what is new concerns this connection
    have hnone : completed.filter (·.connection = n) = [] :=
      List.filter_eq_nil_iff.mpr fun e he => by simp [hcompleted e he, hm]
    rw [hnone, decide_eq_false hm, cond_false, List.append_nil, List.append_nil,
      LiveChannels.buffered_congr (hothers n hm), LiveChannels.waitingOn_congr (hothers n hm)]
    -- who has arrived here before is not the push that arrives now
    refine (h.balanced n).congr fun e he => (acted_ne h.booked hpush hstep fun hplace => ?_).2.1
    exact hnew (hplace ▸ List.mem_map_of_mem (List.mem_of_mem_filter he))

/-- The push sends its frame to a connection. -/
private theorem Kept.act_arrive (h : Kept t b) (hpush : t.pushes[place]? = some push) {m : Nat}
    (hstep : push.Step t.channels stage channels) (hholds : push.stage = .holds m)
    (hsentTo : stage.sentTo? = some m)
    (hothers : ∀ n, m ≠ n → channels.channels[n]? = t.channels.channels[n]?)
    (completed : List Entry)
    (hcompleted : completed = if stage.outcome? channels.ended = some none then
      [⟨place, m, push.frame⟩] else [])
    (hbalanced : place ∉ (b.arrivedAt m).map (·.place) →
      Balanced (b.arrivedAt m ++ [⟨place, m, push.frame⟩]) (b.completedAt m ++ completed)
        (t.acted place push stage channels).number? (channels.waitingOn m) (t.readFrom m)
        (b.leftAt m) (channels.buffered m)) :
    Kept (t.acted place push stage channels) (b.watch t (t.acted place push stage channels)) := by
  have hne {other : Nat} (hne : other ≠ place) := acted_ne h.booked hpush hstep hne
  have hnew : place ∉ b.arrived.map (·.place) :=
    h.notMem_arrived (by rw [sending?_of_push hpush, hholds]; rfl)
  have hcompletedOn : ∀ e ∈ completed, e = ⟨place, m, push.frame⟩ := by
    intro e he
    rw [hcompleted] at he
    split at he
    · exact List.mem_singleton.mp he
    · cases he
  obtain ⟨hsending, hcompletion⟩ := news_arrive h.booked hpush hstep hholds hsentTo
  obtain ⟨hcurrent, hnext, howner⟩ := hstep.frame
  rw [Ledger.watch, hsending, hcompletion, ← hcompleted]
  constructor
  case coherent => exact h.coherent.congr hcurrent howner hnext
  case booked => exact h.booked.act h.coherent hpush hstep
  case arrived =>
    -- what has arrived is what was sent before, and the frame of this push
    intro e
    rw [List.mem_append, List.mem_singleton]
    by_cases hplace : e.place = place
    · rw [hplace, sending?_acted_self hpush, hsentTo, Option.map_some, Option.some.injEq, eq_comm]
      exact or_iff_right fun hmem => hnew (hplace ▸ List.mem_map_of_mem hmem)
    · rw [(hne hplace).2.2, ← h.arrived e]
      exact or_iff_left fun heq => hplace (heq ▸ rfl)
  case once =>
    rw [List.map_append, List.map_singleton, ← List.concat_eq_append]
    exact h.once.concat hnew
  case balanced =>
    -- a push that is in no book is not in that of the connection
    refine h.balanced_arrive hpush hstep hnew hothers hcompletedOn (hbalanced fun hmem => hnew ?_)
    obtain ⟨e, he, hplace⟩ := List.mem_map.mp hmem
    exact hplace ▸ List.mem_map_of_mem (List.mem_of_mem_filter he)
  case left => exact h.left_acted hstep
  case completed =>
    intro other hother
    by_cases hplace : other = place
    · subst hplace
      -- if this push succeeds, it has just been noted
      rw [outcome?_acted_self hpush] at hother
      rw [hcompleted, if_pos hother]
      exact ⟨_, List.mem_append_right _ (List.mem_singleton_self _), rfl⟩
    · rw [(hne hplace).1] at hother
      obtain ⟨e, he, hplace'⟩ := h.completed other hother
      exact ⟨e, List.mem_append_left _ he, hplace'⟩
  case succeeded =>
    -- this push was not noted as completed before, since it had not arrived
    intro e he
    rcases List.mem_append.mp he with hold | hnow
    · have hplace : e.place ≠ place := fun heq =>
        hnew (heq ▸ List.mem_map_of_mem (h.mem_arrived hold))
      rw [(hne hplace).1, IsAbandoned, pushes_acted_ne hplace]
      exact h.succeeded e hold
    · rw [hcompletedOn e hnow]
      rw [hcompleted] at hnow
      split at hnow
      next hsuccess => exact .inl ((outcome?_acted_self hpush).trans hsuccess)
      next => cases hnow

/-- A push that waits gives up, or has been let in and is abandoned. -/
private theorem Kept.act_cancel (h : Kept t b) (hpush : t.pushes[place]? = some push)
    {ticket : Ticket}
    {deadline : Nat} {report? : Option PushResult} (hstage : push.stage = .waits ticket deadline)
    (hnot : report? ≠ some none)
    (hlet : t.channels.ended[ticket.number]? = some none → report? = none) :
    Kept (t.acted place push (.over (some ticket.connection) report?) (t.channels.cancel ticket))
      (b.watch t (t.acted place push (.over (some ticket.connection) report?)
        (t.channels.cancel ticket))) := by
  have hstep : push.Step t.channels (.over (some ticket.connection) report?)
      (t.channels.cancel ticket) := .cancel hstage hnot
  have hticket : push.stage.ticket? = some ticket := by rw [hstage]; rfl
  have hsent : t.sending? place = some ⟨place, ticket.connection, push.frame⟩ := by
    rw [sending?_of_push hpush, hstage]
    rfl
  -- it sends nothing new, and does not complete by giving up
  refine h.act_quiet hpush hstep (by rw [hstage]; rfl) (fun hnow => absurd hnow hnot)
    (fun hbefore => ?_) fun n => ?_
  · rw [hstage] at hbefore
    rcases hbefore with hended | ⟨_, hover⟩
    · exact .inr ⟨_, congrArg _ (hlet hended)⟩
    · cases hover
  · -- the push leaves the line in which it stands, and no other
    rw [LiveChannels.buffered_cancel]
    by_cases heq : ticket.connection = n
    · rw [← heq, LiveChannels.waitingOn_cancel]
      refine (h.balanced ticket.connection).quit fun e _ => ?_
      by_cases hplace : e.place = place
      · -- its own number goes, unless it was told something before
        rw [hplace, number?_acted_self hpush, number?_of_push hpush, hstage, Push.Stage.number?,
          Push.Stage.number?]
        by_cases hended : t.channels.ended[ticket.number]? = none <;> simp [hended]
      · rw [(acted_ne h.booked hpush hstep hplace).2.1, if_neg]
        intro hsame
        obtain ⟨push', ticket', hpush', hticket', hnumber, -⟩ := number?_eq_some hsame
        exact hplace (h.booked.place_eq hpush hpush' hticket hticket' hnumber.symm).symm
    · -- at any other connection the line is as it was, and so are those in it
      have hwaiting : (t.channels.cancel ticket).waitingOn n = t.channels.waitingOn n :=
        LiveChannels.waitingOn_congr (by rw [LiveChannels.channels_cancel, if_neg heq])
      rw [hwaiting]
      refine (h.balanced n).congr fun e he => ?_
      obtain ⟨he, hn⟩ := List.mem_filter.mp he
      refine (acted_ne h.booked hpush hstep fun hplace => heq ?_).2.1
      have harrived := (h.arrived e).mp he
      rw [hplace, hsent, Option.some.injEq] at harrived
      rw [← of_decide_eq_true hn, ← harrived]

/-- The reader of the connection has gone. -/
private theorem Kept.act_refuse (h : Kept t b) (hpush : t.pushes[place]? = some push) {m : Nat}
    (hstage : push.stage = .holds m) (hgone : t.channels.channels[m]? = none) :
    Kept (t.acted place push (.over (some m) (some (some .closed))) t.channels)
      (b.watch t (t.acted place push (.over (some m) (some (some .closed))) t.channels)) := by
  have hstep : push.Step t.channels (.over (some m) (some (some .closed))) t.channels :=
    .refuse hstage hgone
  refine h.act_arrive hpush hstep hstage rfl (fun n _ => rfl) [] rfl fun hnew => ?_
  rw [List.append_nil]
  refine Balanced.refuse ((h.balanced m).congr fun e he => ?_) hnew (number?_acted_self hpush)
  refine (acted_ne h.booked hpush hstep fun hplace => hnew ?_).2.1
  exact hplace ▸ List.mem_map_of_mem he

/-- There is a slot for the frame, so nobody waits. -/
private theorem Kept.act_accept (h : Kept t b) (hpush : t.pushes[place]? = some push) {m : Nat}
    {c : LiveChannel} (hstage : push.stage = .holds m) (hc : t.channels.channels[m]? = some c)
    (hroom : c.HasRoom t.channels.capacity) :
    Kept (t.acted place push (.over (some m) (some none))
        ((t.channels.pushTo m push.frame).2.release m))
      (b.watch t (t.acted place push (.over (some m) (some none))
        ((t.channels.pushTo m push.frame).2.release m))) := by
  have hstep : push.Step t.channels (.over (some m) (some none))
      ((t.channels.pushTo m push.frame).2.release m) := .accept hstage hc hroom
  obtain ⟨hwaiting, hbuffer⟩ := LiveChannels.sent_of_some hc push.frame
  rw [LiveChannel.offer, if_pos hroom] at hwaiting hbuffer
  refine h.act_arrive hpush hstep hstage rfl
    (fun n hne => t.channels.channels_sent m n push.frame hne)
    [⟨place, m, push.frame⟩] rfl fun hnew => ?_
  -- there is a slot only if nobody waits for one
  have hbalanced := h.balanced m
  rw [LiveChannels.waitingOn_of_some hc, LiveChannels.buffered_of_some hc, hroom.1] at hbalanced
  rw [hwaiting, hbuffer, hroom.1]
  refine Balanced.accept (hbalanced.congr fun e he => ?_) hnew (number?_acted_self hpush)
  refine (acted_ne h.booked hpush hstep fun hplace => hnew ?_).2.1
  exact hplace ▸ List.mem_map_of_mem he

/-- There is no slot for the frame, so its push goes to the end of the line. -/
private theorem Kept.act_queue (h : Kept t b) (hpush : t.pushes[place]? = some push)
    {m deadline : Nat}
    {c : LiveChannel} (hstage : push.stage = .holds m) (hc : t.channels.channels[m]? = some c)
    (hroom : ¬c.HasRoom t.channels.capacity) :
    Kept (t.acted place push (.waits ⟨m, t.channels.nextPush⟩ deadline)
        ((t.channels.pushTo m push.frame).2.release m))
      (b.watch t (t.acted place push (.waits ⟨m, t.channels.nextPush⟩ deadline)
        ((t.channels.pushTo m push.frame).2.release m))) := by
  have hstep : push.Step t.channels (.waits ⟨m, t.channels.nextPush⟩ deadline)
      ((t.channels.pushTo m push.frame).2.release m) := .queue hstage hc hroom
  obtain ⟨hwaiting, hbuffer⟩ := LiveChannels.sent_of_some hc push.frame
  rw [LiveChannel.offer, if_neg hroom] at hwaiting hbuffer
  -- the number of the ticket has not been given before
  have hended : ((t.channels.pushTo m push.frame).2.release m).ended[t.channels.nextPush]? =
      none := by
    rw [hstep.ended_eq fun ticket hticket => by rw [hstage] at hticket; cases hticket]
    exact h.booked.ended_lt t.channels.nextPush le_rfl
  have houtcome : Push.Stage.outcome? (.waits ⟨m, t.channels.nextPush⟩ deadline)
      ((t.channels.pushTo m push.frame).2.release m).ended = none := hended
  refine h.act_arrive hpush hstep hstage rfl
    (fun n hne => t.channels.channels_sent m n push.frame hne)
    [] (by rw [houtcome]; rfl) fun hnew => ?_
  have hbalanced := h.balanced m
  rw [LiveChannels.waitingOn_of_some hc, LiveChannels.buffered_of_some hc] at hbalanced
  rw [hwaiting, hbuffer, List.append_nil]
  have hsame {e : Entry} (he : e ∈ b.arrivedAt m) : (t.acted place push
      (.waits ⟨m, t.channels.nextPush⟩ deadline)
      ((t.channels.pushTo m push.frame).2.release m)).number? e.place = t.number? e.place :=
    (acted_ne h.booked hpush hstep fun hplace =>
      hnew (hplace ▸ List.mem_map_of_mem he)).2.1
  refine Balanced.queue (hbalanced.congr fun e he => hsame he) hnew ?_ fun e he hnumber => ?_
  · rw [number?_acted_self hpush, Push.Stage.number?, if_pos hended]
  · rw [hsame he] at hnumber
    obtain ⟨push', ticket', hpush', hticket', hnumber, -⟩ := number?_eq_some hnumber
    have hlt := (h.booked.ticket_lt ticket' (List.mem_filterMap.mpr
      ⟨push', List.mem_of_getElem? hpush', hticket'⟩)).2
    omega

/-- An action that sends nothing and by which nobody leaves a line. -/
theorem Kept.act_still (h : Kept t b) (hpush : t.pushes[place]? = some push)
    (hstep : push.Step t.channels stage channels) (hsentTo : stage.sentTo? = push.stage.sentTo?)
    (hsuccess : stage.outcome? channels.ended = some none →
      push.stage.outcome? t.channels.ended = some none)
    (hended : push.stage.outcome? t.channels.ended = some none ∨ push.stage.IsAbandoned →
      stage.outcome? channels.ended = some none ∨ stage.IsAbandoned)
    (hnumber : stage.number? channels.ended = push.stage.number? t.channels.ended)
    (hchannels : ∀ n, channels.waitingOn n = t.channels.waitingOn n ∧
      channels.buffered n = t.channels.buffered n) :
    Kept (t.acted place push stage channels) (b.watch t (t.acted place push stage channels)) := by
  refine h.act_quiet hpush hstep hsentTo hsuccess hended fun n => ?_
  rw [(hchannels n).1, (hchannels n).2]
  refine (h.balanced n).congr fun e _ => ?_
  by_cases hne : e.place = place
  · rw [hne, number?_acted_self hpush, number?_of_push hpush, hnumber]
  · exact (acted_ne h.booked hpush hstep hne).2.1

/-- A push that has sent nothing yet does something else than to send its frame. -/
theorem Kept.act_unsent (h : Kept t b) (hpush : t.pushes[place]? = some push)
    (hstep : push.Step t.channels stage channels)
    (hstage : push.stage = .matched ∨ ∃ n, push.stage = .holds n) (hsentTo : stage.sentTo? = none)
    (hresult : stage.outcome? channels.ended ≠ some none)
    (hnumber : stage.number? channels.ended = none)
    (hchannels : ∀ n, channels.waitingOn n = t.channels.waitingOn n ∧
      channels.buffered n = t.channels.buffered n) :
    Kept (t.acted place push stage channels) (b.watch t (t.acted place push stage channels)) := by
  -- before, it has no connection, no result and no number, and was not given up
  have hbefore : push.stage.sentTo? = none ∧ push.stage.outcome? t.channels.ended = none ∧
      push.stage.number? t.channels.ended = none ∧ ¬push.stage.IsAbandoned := by
    rcases hstage with hstage | ⟨n, hstage⟩ <;>
      simp [hstage, Push.Stage.sentTo?, Push.Stage.outcome?, Push.Stage.number?,
        Push.Stage.IsAbandoned]
  obtain ⟨hsent, hnothing, hnobody, hpresent⟩ := hbefore
  refine h.act_still hpush hstep (hsentTo.trans hsent.symm) (fun hnow => absurd hnow hresult)
    (fun hended => ?_) (hnumber.trans hnobody.symm) hchannels
  rw [hnothing] at hended
  exact absurd hended (by simp [hpresent])

/-- Every action of a push keeps the books in order. -/
theorem Kept.act (h : Kept t b) (hpush : t.pushes[place]? = some push) (action : Push.Action) :
    Kept (t.move (.push place action)) (b.note t (.push place action)) := by
  have hstep := push.step_act t.now t.patience t.channels action
  have hreport {ticket : Ticket} {deadline : Nat} {result report : PushResult}
      {connection? : Option Nat} (hwaits : push.stage = .waits ticket deadline)
      (hended : t.channels.ended[ticket.number]? = some result)
      (hover : (push.act t.now t.patience t.channels action).1 =
        .over connection? (some report)) : report = result :=
    Push.report_of_act hwaits hended hover
  rw [b.note_of_losses (m := .push place action) rfl, move_push hpush]
  generalize push.act t.now t.patience t.channels action = acted at hstep hreport ⊢
  obtain ⟨stage, channels⟩ := acted
  cases hstep with
  | stay => exact h.act_still hpush .stay rfl id id rfl fun n => ⟨rfl, rfl⟩
  | miss hstage hnone =>
    exact h.act_unsent hpush (.miss hstage hnone) (.inl hstage) rfl (by simp [Push.Stage.outcome?])
      rfl fun n => ⟨rfl, rfl⟩
  | hold hstage hcurrent =>
    exact h.act_unsent hpush (.hold hstage hcurrent) (.inl hstage) rfl
      (by simp [Push.Stage.outcome?]) rfl fun n => t.channels.modify_handles _ n (· + 1)
  | skip hstage =>
    exact h.act_unsent hpush (.skip hstage) (.inl hstage) rfl (by simp [Push.Stage.outcome?]) rfl
      fun n => ⟨rfl, rfl⟩
  | release hstage =>
    exact h.act_unsent hpush (.release hstage) (.inr ⟨_, hstage⟩) rfl
      (by simp [Push.Stage.outcome?]) rfl fun n => t.channels.modify_handles _ n (· - 1)
  | @collect ticket deadline result hstage hended =>
    refine h.act_still hpush (.collect hstage hended) (by rw [hstage]; rfl) (fun hnow => ?_)
      (fun hbefore => ?_) ?_ fun n => ⟨rfl, rfl⟩
    · rw [hstage]
      exact hended.trans hnow
    · rw [hstage] at hbefore
      rcases hbefore with hlet | ⟨_, hover⟩
      · exact .inl (hended.symm.trans hlet)
      · cases hover
    · rw [hstage, Push.Stage.number?, Push.Stage.number?, hended]
      rfl
  | @cancel ticket deadline report? hstage hnot =>
    refine h.act_cancel hpush hstage hnot fun hlet => ?_
    -- who was let in and looks is told so, so this one does not look but is abandoned
    cases report? with
    | none => rfl
    | some report =>
      obtain rfl := hreport hstage hlet rfl
      exact absurd rfl hnot
  | refuse hstage hgone => exact h.act_refuse hpush hstage hgone
  | accept hstage hc hroom => exact h.act_accept hpush hstage hc hroom
  | queue hstage hc hroom => exact h.act_queue hpush hstage hc hroom

end Traffic

end ServiceBroker
