import ServiceBroker.Proofs.Delivery.Channels.Queue

/-!
# What operations do to live channels

Each operation is told by what it does to the queue of a connection: a push puts a frame at its end,
a read takes the first one, and a push that is given up takes its frame back.

- `channels_pushTo`, `channels_cancel`, `channels_receive`, `channels_drop`: one channel is changed
  and no other;
- `queue_pushTo`, `queue_receive_of_ne`, `queue_cancel_sublist`: what becomes of the queues.
-/

namespace ServiceBroker

namespace LiveChannels

variable {l l' : LiveChannels} {consumer : Urn} {n m : Nat} {frame : Bytes}

/-! ## Connections -/

theorem connect_eq_some (h : l.connect consumer = some (n, l')) :
    n = l.nextConnection ∧ l' = { l with
      channels := l.channels.insert l.nextConnection { consumer }
      current := l.current.insert consumer l.nextConnection
      nextConnection := l.nextConnection + 1 } := by
  unfold connect at h
  split at h
  · cases h
  · cases h
    exact ⟨rfl, rfl⟩

/-- A new channel is empty, and leaves the others alone. -/
theorem channels_connect (h : l.connect consumer = some (n, l')) (m : Nat) :
    l'.channels[m]? = if n = m then some { consumer } else l.channels[m]? := by
  obtain ⟨rfl, rfl⟩ := connect_eq_some h
  simp only [Std.ExtTreeMap.getElem?_insert, Std.LawfulEqCmp.compare_eq_iff_eq]

/-- The channel that is opened is the current one of its consumer from then on. -/
theorem current_connect (h : l.connect consumer = some (n, l')) (other : Urn) :
    l'.current[other]? = if consumer = other then some n else l.current[other]? := by
  obtain ⟨rfl, rfl⟩ := connect_eq_some h
  simp only [Std.ExtTreeMap.getElem?_insert, Std.LawfulEqCmp.compare_eq_iff_eq]

/-- A connection that is not there cannot be dropped. -/
theorem drop_of_none (h : l.channels[n]? = none) : l.drop n = l := by
  rw [drop, h]

/-- A connection that is dropped is gone, and leaves the others alone. -/
theorem channels_drop (l : LiveChannels) (n m : Nat) :
    (l.drop n).channels[m]? = if n = m then none else l.channels[m]? := by
  by_cases heq : n = m
  · subst heq
    rw [if_pos rfl, drop]
    cases h : l.channels[n]? <;> simp [h]
  · rw [if_neg heq, drop]
    split
    · rfl
    · simp [Std.ExtTreeMap.getElem?_erase, heq]

@[simp]
theorem capacity_drop : (l.drop n).capacity = l.capacity := by
  unfold drop
  split <;> rfl

@[simp]
theorem nextConnection_drop : (l.drop n).nextConnection = l.nextConnection := by
  unfold drop
  split <;> rfl

@[simp]
theorem nextPush_drop : (l.drop n).nextPush = l.nextPush := by
  unfold drop
  split <;> rfl

/-- Dropping a connection connects nobody. -/
theorem current_of_current_drop (h : (l.drop n).current[consumer]? = some m) :
    l.current[consumer]? = some m := by
  unfold drop at h
  split at h
  · exact h
  · dsimp only at h
    split at h
    · rw [Std.ExtTreeMap.getElem?_erase] at h
      split at h
      · cases h
      · exact h
    · exact h

/-- Nobody is connected through a connection that was dropped. -/
theorem current_drop_ne (howner : ∀ c m, l.current[c]? = some m → l.owner? m = some c) :
    (l.drop n).current[consumer]? ≠ some n := by
  intro h
  have hcurrent := current_of_current_drop h
  obtain ⟨c, hc, hconsumer⟩ := owner?_eq_some.mp (howner _ _ hcurrent)
  -- the connection is the current one of its owner, so that it is taken out
  have hisCurrent : l.isCurrent n = true := by
    rw [isCurrent, hc]
    simp [hconsumer, hcurrent]
  unfold drop at h
  rw [hc] at h
  simp only [hisCurrent, if_true, hconsumer, Std.ExtTreeMap.getElem?_erase_self] at h
  cases h

/-- A channel to which a handle was taken. -/
def held (l : LiveChannels) (n : Nat) : LiveChannels :=
  l.modify n fun c => { c with handles := c.handles + 1 }

/-- A consumer that is not connected has no channel to hold. -/
theorem hold_of_none (h : l.current[consumer]? = none) : l.hold consumer = none := by
  rw [hold, h]
  rfl

/-- Who takes a handle takes it to the channel through which the consumer is connected. -/
theorem hold_of_some (h : l.current[consumer]? = some n) :
    l.hold consumer = some (n, l.held n) := by
  rw [hold, h]
  rfl

/-! ## Pushes -/

theorem pushTo_of_none (h : l.channels[n]? = none) (frame : Bytes) :
    l.pushTo n frame = (.ended (some .closed), l) := by
  unfold pushTo
  rw [h]

/-- A push changes one channel, as far as its reader is there, and takes a number if it waits. -/
theorem pushTo_eq (l : LiveChannels) (n : Nat) (frame : Bytes) :
    (l.pushTo n frame).2 = { l.modify n (·.offer l.capacity l.nextPush frame) with
      nextPush := if ∃ c, l.channels[n]? = some c ∧ ¬c.HasRoom l.capacity then l.nextPush + 1
        else l.nextPush } := by
  unfold pushTo
  cases h : l.channels[n]? with
  -- without a reader there is no channel to change, and nobody waits
  | none =>
    simp only [modify, h, reduceCtorEq, false_and, exists_false, if_false]
  | some c =>
    by_cases hroom : c.HasRoom l.capacity
    · -- the check of the step is `HasRoom`, and either branch is an `offer`
      have hcheck : (c.waiting.isEmpty && decide (c.buffer.length < l.capacity)) = true := by
        simpa [LiveChannel.HasRoom] using hroom
      have hchange := modify_congr (f := fun c => { c with buffer := c.buffer ++ [frame] })
        (g := (·.offer l.capacity l.nextPush frame)) h (by rw [LiveChannel.offer, if_pos hroom])
      simp only [hcheck, if_true, hchange, Option.some.injEq, exists_eq_left', hroom,
        not_true_eq_false, if_false]
      simp only [modify, h]
    · have hcheck : (c.waiting.isEmpty && decide (c.buffer.length < l.capacity)) = false := by
        simpa [LiveChannel.HasRoom] using hroom
      have hchange := modify_congr
        (f := fun c => { c with waiting := c.waiting ++ [(l.nextPush, frame)] })
        (g := (·.offer l.capacity l.nextPush frame)) h (by rw [LiveChannel.offer, if_neg hroom])
      simp only [hcheck, Bool.false_eq_true, if_false, hchange, Option.some.injEq,
        exists_eq_left', hroom, not_false_eq_true, if_true, nextPush_modify]

/-- How a push starts. -/
theorem start_pushTo (l : LiveChannels) (n : Nat) (frame : Bytes) :
    (l.pushTo n frame).1 = match l.channels[n]? with
      | none => .ended (some .closed)
      | some c => if c.HasRoom l.capacity then .ended none else .waits ⟨n, l.nextPush⟩ := by
  unfold pushTo
  cases l.channels[n]? with
  | none => rfl
  | some c =>
    by_cases hroom : c.HasRoom l.capacity
    · have hcheck : (c.waiting.isEmpty && decide (c.buffer.length < l.capacity)) = true := by
        simpa [LiveChannel.HasRoom] using hroom
      simp only [hcheck, if_true, hroom]
    · have hcheck : (c.waiting.isEmpty && decide (c.buffer.length < l.capacity)) = false := by
        simpa [LiveChannel.HasRoom] using hroom
      simp only [hcheck, Bool.false_eq_true, if_false, hroom, nextPush_modify]

/-- A push starts at once if there is room, and waits otherwise. -/
theorem pushTo_of_some {c : LiveChannel} (h : l.channels[n]? = some c) (frame : Bytes) :
    l.pushTo n frame = (if c.HasRoom l.capacity then .ended none else .waits ⟨n, l.nextPush⟩,
      (l.pushTo n frame).2) :=
  Prod.ext (by rw [start_pushTo, h]) rfl

/-- A push concerns one channel. -/
theorem channels_pushTo (l : LiveChannels) (n m : Nat) (frame : Bytes) :
    (l.pushTo n frame).2.channels[m]? =
      if n = m then (l.channels[m]?).map (·.offer l.capacity l.nextPush frame)
      else l.channels[m]? := by
  rw [pushTo_eq]
  exact channels_modify l n m _

@[simp]
theorem capacity_pushTo : (l.pushTo n frame).2.capacity = l.capacity := by
  rw [pushTo_eq]
  exact capacity_modify

@[simp]
theorem current_pushTo : (l.pushTo n frame).2.current = l.current := by
  rw [pushTo_eq]
  exact current_modify

@[simp]
theorem nextConnection_pushTo : (l.pushTo n frame).2.nextConnection = l.nextConnection := by
  rw [pushTo_eq]
  exact nextConnection_modify

@[simp]
theorem ended_pushTo : (l.pushTo n frame).2.ended = l.ended := by
  rw [pushTo_eq]
  exact ended_modify

/-- A push puts its frame at the end of a queue, if the reader is there. -/
theorem queue_pushTo (l : LiveChannels) (n m : Nat) (frame : Bytes) :
    (l.pushTo n frame).2.queue m =
      if n = m ∧ (l.owner? m).isSome then l.queue m ++ [frame] else l.queue m := by
  rw [queue, channels_pushTo, owner?]
  by_cases heq : n = m
  · simp only [heq, if_true, true_and]
    cases h : l.channels[m]? with
    | none => simp [queue_of_none h]
    | some c => simp [LiveChannel.frames_offer, queue_of_some h]
  · simp only [heq, if_false, false_and]
    rfl

@[simp]
theorem owner?_pushTo : (l.pushTo n frame).2.owner? m = l.owner? m := by
  rw [pushTo_eq]
  exact owner?_modify fun _ => LiveChannel.consumer_offer ..

theorem collect_of_none {ticket : Ticket} (h : l.ended[ticket.number]? = none) :
    l.collect ticket = (none, l) := by
  unfold collect
  rw [h]

/-- Asking for a result takes it away, and leaves everything else alone. -/
theorem collect_eq (l : LiveChannels) (ticket : Ticket) :
    l.collect ticket = (l.ended[ticket.number]?,
      { l with ended := l.ended.erase ticket.number }) := by
  cases h : l.ended[ticket.number]? with
  | some result => rw [collect, h]
  | none =>
    have herase : l.ended.erase ticket.number = l.ended := by
      refine Std.ExtTreeMap.ext_getElem? fun number => ?_
      rw [Std.ExtTreeMap.getElem?_erase]
      split
      next heq => rw [← Std.LawfulEqCmp.compare_eq_iff_eq.mp heq, h]
      next => rfl
    rw [collect_of_none h, herase]

/-- So does giving one up. -/
theorem channels_cancel (l : LiveChannels) (ticket : Ticket) (m : Nat) :
    (l.cancel ticket).channels[m]? =
      if ticket.connection = m then (l.channels[m]?).map (·.withdraw ticket.number)
      else l.channels[m]? :=
  channels_modify ..

@[simp]
theorem capacity_cancel (ticket : Ticket) : (l.cancel ticket).capacity = l.capacity :=
  capacity_modify

@[simp]
theorem current_cancel (ticket : Ticket) : (l.cancel ticket).current = l.current := current_modify

@[simp]
theorem nextConnection_cancel (ticket : Ticket) :
    (l.cancel ticket).nextConnection = l.nextConnection := nextConnection_modify

@[simp]
theorem owner?_cancel (ticket : Ticket) : (l.cancel ticket).owner? m = l.owner? m :=
  owner?_modify (f := (·.withdraw ticket.number)) fun _ => rfl

/-- A push that is given up takes its frame back, and no other. -/
theorem queue_cancel_sublist (l : LiveChannels) (ticket : Ticket) (m : Nat) :
    ((l.cancel ticket).queue m).Sublist (l.queue m) := by
  rw [queue, channels_cancel]
  split
  · cases h : l.channels[m]? with
    | none => exact List.nil_sublist _
    | some c =>
      rw [queue_of_some h]
      exact c.frames_withdraw_sublist ticket.number
  · exact .refl _

/-! ## Reading -/

/-- A read takes the first frame of the buffer, and lets the first push in that waits. -/
theorem receive_of_buffer {c : LiveChannel} {buffer : List Bytes} (h : l.channels[n]? = some c)
    (hbuffer : c.buffer = frame :: buffer) :
    l.receive n = (.message frame, { l.modify n LiveChannel.shift with
      ended := match c.waiting.head? with
        | none => l.ended
        | some (number, _) => l.ended.insert number none }) := by
  unfold receive
  simp only [h, hbuffer]
  cases hwaiting : c.waiting with
  | nil =>
    refine congrArg (Prod.mk _) ?_
    have hchange := modify_congr (f := fun c => { c with buffer }) (g := LiveChannel.shift) h
      (by simp [LiveChannel.shift, hbuffer, hwaiting])
    rw [List.head?_nil, hchange, ← ended_modify (l := l) (n := n)]
  | cons first waiting =>
    have hchange := modify_congr
      (f := fun c => { c with buffer := buffer ++ [first.2], waiting })
      (g := LiveChannel.shift) h (by simp [LiveChannel.shift, hbuffer, hwaiting])
    simp only [hchange, List.head?_cons, ended_modify]

/-- A read finds nothing where nothing is buffered, and changes nothing. -/
theorem receive_of_empty {c : LiveChannel} (h : l.channels[n]? = some c) (hbuffer : c.buffer = []) :
    l.receive n =
      (if l.isCurrent n = false ∧ c.waiting = [] ∧ c.handles = 0 then .closed
        else .pending, l) := by
  unfold receive
  simp [h, hbuffer, and_assoc]

theorem receive_of_none (h : l.channels[n]? = none) : l.receive n = (.closed, l) := by
  unfold receive
  rw [h]

theorem receive_ne_message {c : LiveChannel} (h : l.channels[n]? = some c)
    (hbuffer : c.buffer = []) :
    (l.receive n).1 ≠ .message frame := by
  rw [receive_of_empty h hbuffer]
  dsimp only
  split <;> nofun

/-- So does reading. -/
theorem channels_receive (l : LiveChannels) (n m : Nat) :
    (l.receive n).2.channels[m]? =
      if n = m then (l.channels[m]?).map LiveChannel.shift else l.channels[m]? := by
  cases h : l.channels[n]? with
  | none =>
    rw [receive_of_none h]
    split
    next heq => rw [← heq, h, Option.map_none]
    next => rfl
  | some c =>
    cases hbuffer : c.buffer with
    | nil =>
      have hshift : c.shift = c := by rw [LiveChannel.shift, hbuffer]
      rw [receive_of_empty h hbuffer]
      by_cases heq : n = m
      · rw [if_pos heq, ← heq, h, Option.map_some, hshift]
      · rw [if_neg heq]
    | cons frame buffer =>
      rw [receive_of_buffer h hbuffer]
      exact channels_modify l n m _

theorem channels_receive_self {c : LiveChannel} (h : l.channels[n]? = some c) :
    (l.receive n).2.channels[n]? = some c.shift := by
  rw [channels_receive, if_pos rfl, h, Option.map_some]

theorem channels_receive_ne {m : Nat} (h : n ≠ m) :
    (l.receive n).2.channels[m]? = l.channels[m]? := by
  rw [channels_receive, if_neg h]

/-- A read touches no more than one channel and the results of pushes that waited. -/
theorem receive_eq (l : LiveChannels) (n : Nat) :
    ∃ channels ended, (l.receive n).2 = { l with channels, ended } := by
  cases h : l.channels[n]? with
  | none => exact ⟨_, _, by rw [receive_of_none h]⟩
  | some c =>
    cases hbuffer : c.buffer with
    | nil => exact ⟨_, _, by rw [receive_of_empty h hbuffer]⟩
    | cons frame buffer =>
      rw [receive_of_buffer h hbuffer, modify, h]
      exact ⟨_, _, rfl⟩

@[simp]
theorem capacity_receive : (l.receive n).2.capacity = l.capacity := by
  obtain ⟨_, _, h⟩ := l.receive_eq n
  rw [h]

@[simp]
theorem current_receive : (l.receive n).2.current = l.current := by
  obtain ⟨_, _, h⟩ := l.receive_eq n
  rw [h]

@[simp]
theorem nextConnection_receive : (l.receive n).2.nextConnection = l.nextConnection := by
  obtain ⟨_, _, h⟩ := l.receive_eq n
  rw [h]

@[simp]
theorem nextPush_receive : (l.receive n).2.nextPush = l.nextPush := by
  obtain ⟨_, _, h⟩ := l.receive_eq n
  rw [h]

@[simp]
theorem owner?_receive : (l.receive n).2.owner? m = l.owner? m := by
  rw [owner?, channels_receive, owner?]
  split
  · cases l.channels[m]? <;> simp
  · rfl

/-- A frame that is received was the first of its queue; the other queues stay as they are. -/
theorem queue_of_receive (h : (l.receive n).1 = .message frame) :
    l.queue n = frame :: (l.receive n).2.queue n := by
  cases hc : l.channels[n]? with
  | none =>
    rw [receive_of_none hc] at h
    cases h
  | some c =>
    cases hbuffer : c.buffer with
    | nil => exact absurd h (receive_ne_message hc hbuffer)
    | cons first buffer =>
      rw [receive_of_buffer hc hbuffer] at h
      cases h
      rw [queue_of_some hc, queue_of_some (channels_receive_self hc),
        LiveChannel.frames_eq_cons_shift hbuffer]

/-- A read leaves the queues of the other connections alone. -/
theorem queue_receive_of_ne (h : n ≠ m) : (l.receive n).2.queue m = l.queue m :=
  queue_congr (channels_receive_ne h)

/-- A read that finds no frame changes nothing. -/
theorem receive_eq_self (h : ∀ frame, (l.receive n).1 ≠ .message frame) :
    (l.receive n).2 = l := by
  cases hc : l.channels[n]? with
  | none => rw [receive_of_none hc]
  | some c =>
    cases hbuffer : c.buffer with
    | nil => rw [receive_of_empty hc hbuffer]
    | cons frame buffer => exact absurd (by rw [receive_of_buffer hc hbuffer]) (h frame)

end LiveChannels

end ServiceBroker
