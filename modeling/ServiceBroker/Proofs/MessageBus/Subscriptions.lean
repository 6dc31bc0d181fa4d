import ServiceBroker.Proofs.MessageBus.History

/-!
# What a subscription receives

A bus hands a subscription what is accepted on its topic while the subscription is open, in the
order of publication. A subscription that lags behind misses what is not kept any more: each channel
keeps as many messages as the configured capacity, rounded up to a power of two.

## Main definitions

* `InMemoryBus.History.Lawful`: all that the users of a bus may rely on.

## Main results

* `InMemoryBus.History.lawful_run`: every history is lawful.
-/

namespace ServiceBroker.InMemoryBus

namespace History

/-- What the users of a bus may rely on when some operations have been performed. -/
structure Lawful (h : History) (config : BusConfig) (done : List Operation) : Prop where
  /-- Each subscription is told from every other one. -/
  nodup : (h.mailboxes.map (·.subscription)).Nodup
  /-- A subscription receives, in the order of publication and each of them once, messages that were
  accepted on its topic since it was opened. The unread ones are those behind the last that it
  received. -/
  mail : ∀ box ∈ h.mailboxes,
    ∃ past, past ++ box.unread = box.mail h.accepted ∧ box.received.Sublist past ∧
      past.getLast? = box.received.getLast?
  /-- A subscription that is read over and over finds the last of its unread messages, as many as
  the bus keeps, and then nothing more. -/
  drain : ∀ box ∈ h.mailboxes, ∀ n,
    let kept := box.unread.rtake config.capacity.nextPowerOfTwo
    h.bus.takes box.subscription n =
      (kept.take n).map .message ++ List.replicate (n - kept.length)
        (if .close ∈ done then .closed else .pending)
  /-- Whether a message is accepted depends on its size and on whether the bus was closed. If it is,
  the publisher is told the number of the subscriptions that are open on its topic. -/
  publish : ∀ topic key payload,
    (h.bus.publish topic key payload).map Prod.fst =
      if .close ∈ done then .error .closed
      else if config.maxPayloadSize < payload.length then
        .error (.payloadTooLarge payload.length config.maxPayloadSize)
      else .ok (h.mailboxes.countP (·.subscription.topic = topic))
  /-- A message that is refused changes nothing. -/
  refused : ∀ topic key payload error, h.bus.publish topic key payload = .error error →
    h.step (.publish topic key payload) = h
  /-- As long as the bus is not closed, everybody gets a subscription of his own; then nobody. -/
  subscribe : ∀ topic, canOpen config →
    if .close ∈ done then h.bus.subscribe topic = .error (.refused .closed)
    else ∃ s bus, h.bus.subscribe topic = .ok (s, bus) ∧ s.topic = topic ∧
      s ∉ h.mailboxes.map (·.subscription)
  /-- Once the bus is closed, what an open subscription will have received in the end is settled,
  whatever else is done. -/
  closed : .close ∈ done → ∀ later, ∀ box ∈ h.mailboxes, .unsubscribe box.subscription ∉ later →
    ∃ box' ∈ (h.after later).mailboxes, box'.subscription = box.subscription ∧
      box'.final config.capacity.nextPowerOfTwo = box.final config.capacity.nextPowerOfTwo
  /-- The bus counts what it accepts. -/
  published : h.bus.published = h.accepted.length

variable {h : History} {topic key : String} {payload : Bytes} {s : BusSubscription}

/-! ## What never changes, and closing -/

theorem config_step (h : History) (op : Operation) : (h.step op).bus.config = h.bus.config := by
  cases op with
  | subscribe topic =>
    rw [step]
    split
    next heq => exact config_subscribe heq
    next => rfl
  | unsubscribe s => exact config_unsubscribe h.bus s
  | publish topic key payload =>
    rw [step]
    split
    next heq => exact config_publish heq
    next => rfl
  | receive s => exact config_receive h.bus s
  | close => rfl

theorem config_run (config : BusConfig) (ops : List Operation) :
    (run config ops).bus.config = config := by
  have hafter (h : History) : (h.after ops).bus.config = h.bus.config := by
    induction ops generalizing h with
    | nil => rfl
    | cons op ops ih => exact (ih (h.step op)).trans (config_step h op)
  exact hafter _

/-- A bus is closed by closing it, and remains so. -/
theorem closed_step (h : History) (op : Operation) :
    (h.step op).bus.closed = true ↔ h.bus.closed = true ∨ op = .close := by
  cases op with
  | subscribe topic =>
    rw [step]
    split
    next heq =>
      obtain ⟨-, -, rfl⟩ := subscribe_eq_ok heq
      simp
    next => simp
  | unsubscribe s => simp [step]
  | publish topic key payload =>
    rw [step]
    split
    next heq =>
      obtain ⟨-, -, -, rfl⟩ := publish_eq_ok_iff.mp heq
      simp
    next => simp
  | receive s => simp [step]
  | close => simp [step, InMemoryBus.close]

theorem closed_after (h : History) (ops : List Operation) :
    (h.after ops).bus.closed = true ↔ h.bus.closed = true ∨ .close ∈ ops := by
  induction ops generalizing h with
  | nil => simp [after]
  | cons op ops ih =>
    have hops := ih (h.step op)
    rw [closed_step, or_assoc] at hops
    rw [List.mem_cons, eq_comm (a := Operation.close)]
    exact hops

/-- On a closed bus, what an open subscription will have received in the end is not changed by
reading it, nor by anything else but ending it. -/
private theorem Tracks.final_step (ht : h.Tracks) (hclosed : h.bus.closed = true) {box : Mailbox}
    (hbox : box ∈ h.mailboxes) {op : Operation} (hop : op ≠ .unsubscribe box.subscription) :
    ∃ box' ∈ (h.step op).mailboxes, box'.subscription = box.subscription ∧
      box'.final h.bus.keeps = box.final h.bus.keeps := by
  cases op with
  | subscribe topic =>
    rw [History.step]
    split
    next heq =>
      -- a closed bus opens no subscription
      rw [(subscribe_eq_ok heq).1] at hclosed
      cases hclosed
    next => exact ⟨box, hbox, rfl, rfl⟩
  | unsubscribe s =>
    have hne : box.subscription ≠ s := fun heq => hop (heq ▸ rfl)
    exact ⟨box, List.mem_filter.mpr ⟨hbox, decide_eq_true hne⟩, rfl, rfl⟩
  | publish topic key payload =>
    rw [History.step]
    split
    next heq =>
      -- and it accepts no message
      rw [(publish_eq_ok_iff.mp heq).1] at hclosed
      cases hclosed
    next => exact ⟨box, hbox, rfl, rfl⟩
  | receive s =>
    refine ⟨_, List.mem_map_of_mem hbox, subscription_take _ s _ box, ?_⟩
    by_cases hself : s = box.subscription
    · subst hself
      rcases ht.take_self hbox with ⟨-, htake, -⟩ | ⟨m, rest, hcons, htake, -⟩
      · rw [htake]
      · -- the message moves from what is kept to what was received
        rw [htake, Mailbox.final, Mailbox.final, hcons, rtake_rest hcons, List.append_assoc]
        rfl
    · rw [take_of_ne hself]
  | close => exact ⟨box, hbox, rfl, rfl⟩

private theorem Tracks.final_after (ht : h.Tracks) (hclosed : h.bus.closed = true) {box : Mailbox}
    (hbox : box ∈ h.mailboxes) {ops : List Operation}
    (hops : .unsubscribe box.subscription ∉ ops) :
    ∃ box' ∈ (h.after ops).mailboxes, box'.subscription = box.subscription ∧
      box'.final h.bus.keeps = box.final h.bus.keeps := by
  induction ops generalizing h box with
  | nil => exact ⟨box, hbox, rfl, rfl⟩
  | cons op ops ih =>
    rw [List.mem_cons, not_or] at hops
    obtain ⟨box', hbox', hsubscription, hfinal⟩ := ht.final_step hclosed hbox (Ne.symm hops.1)
    have hclosed' := (closed_step h op).mpr (.inl hclosed)
    have hkeeps : (h.step op).bus.keeps = h.bus.keeps := by
      rw [keeps, config_step, keeps]
    rw [← hsubscription] at hops
    obtain ⟨box'', hbox'', hsubscription', hfinal'⟩ := ih (ht.step op) hclosed' hbox' hops.2
    rw [hkeeps] at hfinal'
    exact ⟨box'', hbox'', hsubscription'.trans hsubscription, hfinal'.trans hfinal⟩

/-! ## The law -/

/-- What the publisher of a message is told. -/
private theorem Tracks.publish_eq (ht : h.Tracks) (topic key : String) (payload : Bytes) :
    (h.bus.publish topic key payload).map Prod.fst =
      if h.bus.closed then .error .closed
      else if h.bus.config.maxPayloadSize < payload.length then
        .error (.payloadTooLarge payload.length h.bus.config.maxPayloadSize)
      else .ok (h.mailboxes.countP (·.subscription.topic = topic)) := by
  have hcount := readerCount_eq ht.nodup ht.isOpen topic
  rw [List.countP_map] at hcount
  -- the guards stand in the order in which they are asked; then the readers are counted
  unfold InMemoryBus.publish
  dsimp only
  split
  · rfl
  split
  · rfl
  cases hc : h.bus.topics[topic]? with
  | none =>
    rw [hc] at hcount
    exact congrArg _ hcount
  | some c =>
    rw [hc] at hcount
    exact congrArg _ hcount

/-- Who asks for a subscription gets one that nobody has. -/
private theorem Tracks.subscribe_eq (ht : h.Tracks) (topic : String) (hcan : canOpen h.bus.config) :
    if h.bus.closed then h.bus.subscribe topic = .error (.refused .closed)
    else ∃ s bus, h.bus.subscribe topic = .ok (s, bus) ∧ s.topic = topic ∧
      s ∉ h.mailboxes.map (·.subscription) := by
  split
  next hclosed =>
    unfold InMemoryBus.subscribe
    rw [if_pos hclosed]
  next hopen =>
    obtain ⟨bus, heq⟩ : ∃ bus, h.bus.subscribe topic = .ok (⟨topic, h.bus.nextReader⟩, bus) := by
      unfold InMemoryBus.subscribe
      rw [if_neg hopen, hcan]
      cases h.bus.topics[topic]? with
      | none => exact ⟨_, rfl⟩
      | some c => exact ⟨_, rfl⟩
    refine ⟨_, bus, heq, rfl, fun hmem => ?_⟩
    obtain ⟨box, hbox, hsubscription⟩ := List.mem_map.mp hmem
    -- numbers of readers are given out in order, so that a new one is nobody's
    have hlt := (ht.holds box hbox).reader_lt ht.sound
    rw [hsubscription] at hlt
    exact Nat.lt_irrefl _ hlt

/-- Every history of a bus is lawful. -/
theorem lawful_run (config : BusConfig) (ops : List Operation) :
    (run config ops).Lawful config ops := by
  have ht := tracks_run config ops
  have hconfig := config_run config ops
  have hkeeps : (run config ops).bus.keeps = config.capacity.nextPowerOfTwo := by
    rw [keeps, hconfig]
  -- a new bus is open, so it is closed by one of the operations
  have hclosed : (run config ops).bus.closed = true ↔ .close ∈ ops := by
    rw [run, closed_after]
    simp
  refine ⟨ht.nodup, ht.mail, ?_, ?_, ?_, ?_, ?_, ht.published⟩
  · intro box hbox n
    have htakes := (ht.holds box hbox).takes_eq ht.sound n
    simp only [atEnd, hkeeps, hclosed] at htakes
    exact htakes
  · intro topic key payload
    have hpublish := ht.publish_eq topic key payload
    simp only [hclosed, hconfig] at hpublish
    exact hpublish
  · intro topic key payload error hrefused
    rw [step, hrefused]
  · intro topic hcan
    have hsubscribe := ht.subscribe_eq topic (hconfig.symm ▸ hcan)
    simp only [hclosed] at hsubscribe
    exact hsubscribe
  · intro hdone later box hbox hlater
    have hfinal := ht.final_after (hclosed.mpr hdone) hbox hlater
    rw [hkeeps] at hfinal
    exact hfinal

end History

end ServiceBroker.InMemoryBus
