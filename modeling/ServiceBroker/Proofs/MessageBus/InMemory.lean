import ServiceBroker.MessageBus.Transport
import ServiceBroker.Proofs.MessageBus.Broadcast

/-!
# Every channel of an in-memory bus

Whatever is done with a bus, all of its channels are of one size, are open as long as the bus is and
have handed out only what was sent on them.

- `InMemoryBus.Reachable`: the buses that the operations make of a new one;
- `Reachable.sound`: every channel of such a bus is sound;
- `publish_eq_ok_iff`: what a bus that accepts a payload does with it;
- `Reads`: how far a subscription has read the log of its topic;
- `Reads.publish`, `Reads.receive_eq`: a message that is accepted goes to the end of the log, and a
  subscription finds the next one of the log that is still kept.
-/

namespace ServiceBroker.InMemoryBus

variable {bus bus' : InMemoryBus} {topic key : String} {payload : Bytes} {n : Nat}
  {s : BusSubscription} {c : Broadcast BusMessage}

/-- The buses that the operations make of a new one with some settings. -/
inductive Reachable (config : BusConfig) : InMemoryBus → Prop
  | new : Reachable config { config }
  | publish {bus bus' : InMemoryBus} {topic key : String} {payload : Bytes} {n : Nat} :
      Reachable config bus → bus.publish topic key payload = .ok (n, bus') → Reachable config bus'
  | subscribe {bus bus' : InMemoryBus} {topic : String} {s : BusSubscription} :
      Reachable config bus → bus.subscribe topic = .ok (s, bus') → Reachable config bus'
  | receive {bus : InMemoryBus} (s : BusSubscription) :
      Reachable config bus → Reachable config (bus.receive s).2
  | unsubscribe {bus : InMemoryBus} (s : BusSubscription) :
      Reachable config bus → Reachable config (bus.unsubscribe s)
  | close {bus : InMemoryBus} : Reachable config bus → Reachable config bus.close

/-- The number of messages that each channel of a bus keeps. -/
def keeps (bus : InMemoryBus) : Nat := bus.config.capacity.nextPowerOfTwo

theorem keeps_pos (bus : InMemoryBus) : 0 < bus.keeps :=
  Nat.pos_of_isPowerOfTwo (Nat.isPowerOfTwo_nextPowerOfTwo _)

/-- Every channel is sound, and is open as long as the bus is. -/
structure Sound (bus : InMemoryBus) : Prop where
  channel : ∀ (topic : String) (c : Broadcast BusMessage), bus.topics[topic]? = some c →
    c.Sound bus.keeps bus.nextReader
  closed_eq : ∀ (topic : String) (c : Broadcast BusMessage), bus.topics[topic]? = some c →
    c.closed = bus.closed

/-! ## What an operation does -/

/-- What a bus that accepts a payload does with it. -/
theorem publish_eq_ok_iff : bus.publish topic key payload = .ok (n, bus') ↔
    bus.closed = false ∧ payload.length ≤ bus.config.maxPayloadSize ∧
      n = ((bus.topics[topic]?).map (·.readerCount)).getD 0 ∧
      bus' = { bus with
        published := bus.published + 1
        topics := match bus.topics[topic]? with
          | none => bus.topics
          | some c => bus.topics.insert topic (c.send ⟨topic, key, payload⟩) } := by
  unfold publish
  cases bus.closed with
  | true => simp
  | false =>
    by_cases hsize : bus.config.maxPayloadSize < payload.length
    · simp [hsize, Nat.not_le.mpr hsize]
    · simp only [Bool.false_eq_true, if_false, hsize, Nat.not_lt.mp hsize, true_and]
      cases bus.topics[topic]? <;> simp [eq_comm]

/-- A message goes to the channel of its topic. -/
theorem topics_publish (h : bus.publish topic key payload = .ok (n, bus')) (other : String) :
    bus'.topics[other]? =
      if topic = other then (bus.topics[topic]?).map (·.send ⟨topic, key, payload⟩)
      else bus.topics[other]? := by
  obtain ⟨_, _, _, rfl⟩ := publish_eq_ok_iff.mp h
  cases hc : bus.topics[topic]? with
  | none =>
    dsimp only
    split
    next heq => rw [← heq, hc, Option.map_none]
    next => rfl
  | some c => simp [Std.ExtTreeMap.getElem?_insert]

/-- A new subscription reads the channel of its topic, which it opens if it is the first. -/
theorem subscribe_eq_ok (h : bus.subscribe topic = .ok (s, bus')) :
    bus.closed = false ∧ s = ⟨topic, bus.nextReader⟩ ∧
      bus' = { bus with
        topics := bus.topics.insert topic
          (((bus.topics[topic]?).getD (.ofCapacity bus.config.capacity)).subscribe bus.nextReader)
        nextReader := bus.nextReader + 1 } := by
  unfold subscribe at h
  split at h
  · cases h
  next hopen =>
    refine ⟨by simpa using hopen, ?_⟩
    split at h
    · cases h
    · cases h
      exact ⟨rfl, rfl⟩

/-- A subscription finds nothing without a channel of its topic. -/
theorem receive_of_none (hc : bus.topics[s.topic]? = none) : bus.receive s = (.closed, bus) := by
  unfold receive
  rw [hc]

theorem unsubscribe_of_none (hc : bus.topics[s.topic]? = none) : bus.unsubscribe s = bus := by
  unfold unsubscribe
  rw [hc]

/-- A subscription takes its messages from the channel of its topic. -/
theorem receive_eq (hc : bus.topics[s.topic]? = some c) :
    bus.receive s = ((c.receive s.reader).1,
      { bus with topics := bus.topics.insert s.topic (c.receive s.reader).2 }) := by
  unfold receive
  rw [hc]

theorem unsubscribe_eq (hc : bus.topics[s.topic]? = some c) :
    bus.unsubscribe s =
      { bus with topics := bus.topics.insert s.topic (c.unsubscribe s.reader) } := by
  unfold unsubscribe
  rw [hc]

theorem config_publish (h : bus.publish topic key payload = .ok (n, bus')) :
    bus'.config = bus.config := by
  obtain ⟨_, _, _, rfl⟩ := publish_eq_ok_iff.mp h
  rfl

theorem config_subscribe (h : bus.subscribe topic = .ok (s, bus')) : bus'.config = bus.config := by
  obtain ⟨_, _, rfl⟩ := subscribe_eq_ok h
  rfl

@[simp]
theorem config_receive (bus : InMemoryBus) (s : BusSubscription) :
    (bus.receive s).2.config = bus.config := by
  unfold receive
  split <;> rfl

@[simp]
theorem config_unsubscribe (bus : InMemoryBus) (s : BusSubscription) :
    (bus.unsubscribe s).config = bus.config := by
  unfold unsubscribe
  split <;> rfl

/-! ## Every reachable bus is sound -/

theorem sound_new (config : BusConfig) : Sound { config } where
  channel topic c h := by simp at h
  closed_eq topic c h := by simp at h

/-- Replacing one channel by a sound one keeps a bus sound. -/
theorem Sound.insert (h : bus.Sound) (topic : String) {bound : Nat} (hle : bus.nextReader ≤ bound)
    (hc : c.Sound bus.keeps bound) (hclosed : c.closed = bus.closed) :
    Sound { bus with topics := bus.topics.insert topic c, nextReader := bound } where
  channel other c' hc' := by
    simp only [Std.ExtTreeMap.getElem?_insert] at hc'
    split at hc'
    · cases hc'
      exact hc
    · exact (h.channel other c' hc').mono hle
  closed_eq other c' hc' := by
    simp only [Std.ExtTreeMap.getElem?_insert] at hc'
    split at hc'
    · cases hc'
      exact hclosed
    · exact h.closed_eq other c' hc'

theorem Sound.publish (h : bus.Sound) (heq : bus.publish topic key payload = .ok (n, bus')) :
    bus'.Sound := by
  obtain ⟨_, _, _, rfl⟩ := publish_eq_ok_iff.mp heq
  cases hc : bus.topics[topic]? with
  | none => exact ⟨h.channel, h.closed_eq⟩
  | some c =>
    -- only the channel of the topic is replaced, and sending keeps it sound
    have hsend := (h.channel topic c hc).send ⟨topic, key, payload⟩
    have hins := h.insert topic Nat.le.refl hsend
      ((c.closed_send _).trans (h.closed_eq topic c hc))
    exact ⟨hins.channel, hins.closed_eq⟩

theorem Sound.subscribe (h : bus.Sound) (heq : bus.subscribe topic = .ok (s, bus')) :
    bus'.Sound := by
  obtain ⟨hopen, _, rfl⟩ := subscribe_eq_ok heq
  refine h.insert _ (Nat.le_succ _) (Broadcast.Sound.subscribe ?_) ?_
  · cases hc : bus.topics[topic]? with
    | none => exact Broadcast.sound_ofCapacity ..
    | some c => exact h.channel topic c hc
  · cases hc : bus.topics[topic]? with
    | none => exact hopen.symm
    | some c => exact h.closed_eq topic c hc

theorem Sound.receive (h : bus.Sound) (s : BusSubscription) : (bus.receive s).2.Sound := by
  cases hc : bus.topics[s.topic]? with
  | none =>
    rw [InMemoryBus.receive_of_none hc]
    exact h
  | some c =>
    rw [receive_eq hc]
    refine h.insert _ Nat.le.refl ((h.channel _ c hc).receive _) ?_
    rw [Broadcast.closed_receive]
    exact h.closed_eq _ c hc

theorem Sound.unsubscribe (h : bus.Sound) (s : BusSubscription) : (bus.unsubscribe s).Sound := by
  cases hc : bus.topics[s.topic]? with
  | none =>
    rw [InMemoryBus.unsubscribe_of_none hc]
    exact h
  | some c =>
    rw [unsubscribe_eq hc]
    exact h.insert _ Nat.le.refl ((h.channel _ c hc).unsubscribe _) (h.closed_eq _ c hc)

theorem Sound.close (h : bus.Sound) : bus.close.Sound where
  channel topic c hc := by
    simp only [InMemoryBus.close, Std.ExtTreeMap.getElem?_map, Option.map_eq_some_iff] at hc
    obtain ⟨c, hc, rfl⟩ := hc
    exact (h.channel topic c hc).close
  closed_eq topic c hc := by
    simp only [InMemoryBus.close, Std.ExtTreeMap.getElem?_map, Option.map_eq_some_iff] at hc
    obtain ⟨c, hc, rfl⟩ := hc
    rfl

/-- No operation changes the settings. -/
theorem Reachable.config_eq {config : BusConfig} (h : Reachable config bus) :
    bus.config = config := by
  induction h with
  | new => rfl
  | publish _ heq ih => exact (config_publish heq).trans ih
  | subscribe _ heq ih => exact (config_subscribe heq).trans ih
  | receive s _ ih => exact (config_receive _ s).trans ih
  | unsubscribe s _ ih => exact (config_unsubscribe _ s).trans ih
  | close _ ih => exact ih

/-- Every channel of a bus that the operations lead to is sound. -/
theorem Reachable.sound {config : BusConfig} (h : Reachable config bus) : bus.Sound := by
  induction h with
  | new => exact sound_new config
  | publish _ heq ih => exact ih.publish heq
  | subscribe _ heq ih => exact ih.subscribe heq
  | receive s _ ih => exact ih.receive s
  | unsubscribe s _ ih => exact ih.unsubscribe s
  | close _ ih => exact ih.close

/-! ## Subscriptions and logs -/

/-- The messages that an operation adds to the log of a topic. -/
def accepted {ε α : Type} (topic : String) (result : Except ε α) (m : BusMessage) :
    List BusMessage :=
  if result.isOk ∧ m.topic = topic then [m] else []

@[simp]
theorem accepted_ok {ε α : Type} (topic : String) (a : α) (m : BusMessage) :
    accepted topic (.ok a : Except ε α) m = if m.topic = topic then [m] else [] := by
  simp [accepted, Except.isOk, Except.toBool]

@[simp]
theorem accepted_error {ε α : Type} (topic : String) (e : ε) (m : BusMessage) :
    accepted topic (.error e : Except ε α) m = [] := by
  simp [accepted, Except.isOk, Except.toBool]

/-- The subscription to an open topic waits for the message `k` of a log. -/
structure Reads (bus : InMemoryBus) (s : BusSubscription) (log : List BusMessage) (k : Nat) :
    Prop where
  le_length : k ≤ log.length
  channel : ∃ c base, bus.topics[s.topic]? = some c ∧ c.closed = false ∧ c.size = bus.keeps ∧
    c.Carries base log ∧ c.Awaits s.reader base k

section Reads

variable {log : List BusMessage} {k : Nat}

/-- A message that is accepted goes to the end of the log of its topic. -/
theorem Reads.publish (h : bus.Reads s log k)
    (heq : bus.publish topic key payload = .ok (n, bus')) :
    bus'.Reads s (log ++ if topic = s.topic then [⟨topic, key, payload⟩] else []) k := by
  obtain ⟨hk, c, base, hc, hopen, hsize, hcarries, hawaits⟩ := h
  have htopics := topics_publish heq s.topic
  -- the size of a channel is settled by the settings of the bus
  have hkeeps : bus'.keeps = bus.keeps :=
    congrArg (·.capacity.nextPowerOfTwo) (config_publish heq)
  by_cases htopic : topic = s.topic
  · subst htopic
    rw [if_pos rfl, hc, Option.map_some] at htopics
    rw [if_pos rfl]
    refine ⟨?_, c.send _, base, htopics, ?_, ?_, ?_, hawaits.send _⟩
    · rw [List.length_append]
      exact Nat.le_add_right_of_le hk
    · rw [c.closed_send, hopen]
    · rw [c.size_send, hsize, hkeeps]
    · exact hcarries.send hawaits.isEmpty_readers _
  · rw [if_neg htopic, hc] at htopics
    rw [if_neg htopic, List.append_nil]
    exact ⟨hk, c, base, htopics, hopen, hsize.trans hkeeps.symm, hcarries, hawaits⟩

/-- Replacing the channel of a topic by one that carries the same log keeps a subscription where it
is, if its reader is. -/
theorem Reads.insert (h : bus.Reads s log k) (topic : String) {c' : Broadcast BusMessage}
    (hc' : ∀ c base, bus.topics[s.topic]? = some c → topic = s.topic → c.Carries base log →
      c.Awaits s.reader base k → c'.closed = c.closed ∧ c'.size = c.size ∧
        c'.Carries base log ∧ c'.Awaits s.reader base k) :
    Reads { bus with topics := bus.topics.insert topic c' } s log k := by
  obtain ⟨hk, c, base, hc, hopen, hsize, hcarries, hawaits⟩ := h
  by_cases htopic : topic = s.topic
  · obtain ⟨hclosed', hsize', hcarries', hawaits'⟩ := hc' c base hc htopic hcarries hawaits
    exact ⟨hk, c', base, by simp [htopic], hclosed'.trans hopen, hsize'.trans hsize, hcarries',
      hawaits'⟩
  · refine ⟨hk, c, base, ?_, hopen, hsize, hcarries, hawaits⟩
    rw [Std.ExtTreeMap.getElem?_insert, if_neg (by simpa using htopic), hc]

/-- What one subscription takes does not move another one. -/
theorem Reads.receive (h : bus.Reads s log k) {s' : BusSubscription}
    (hne : s'.reader ≠ s.reader) : (bus.receive s').2.Reads s log k := by
  cases hc' : bus.topics[s'.topic]? with
  | none =>
    rw [InMemoryBus.receive_of_none hc']
    exact h
  | some c' =>
    rw [InMemoryBus.receive_eq hc']
    refine h.insert _ fun c base hc htopic hcarries hawaits => ?_
    obtain rfl : c = c' := by rw [htopic, hc] at hc'; exact Option.some.inj hc'
    exact ⟨c.closed_receive _, c.size_receive _, hcarries.receive _, hawaits.receive hne⟩

/-- The end of one subscription does not move another one. -/
theorem Reads.unsubscribe (h : bus.Reads s log k) {s' : BusSubscription}
    (hne : s'.reader ≠ s.reader) : (bus.unsubscribe s').Reads s log k := by
  cases hc' : bus.topics[s'.topic]? with
  | none =>
    rw [InMemoryBus.unsubscribe_of_none hc']
    exact h
  | some c' =>
    rw [InMemoryBus.unsubscribe_eq hc']
    refine h.insert _ fun c base hc htopic hcarries hawaits => ?_
    obtain rfl : c = c' := by rw [htopic, hc] at hc'; exact Option.some.inj hc'
    exact ⟨rfl, rfl, hcarries.unsubscribe _, hawaits.unsubscribe hne⟩

/-- The number of a subscription has been given away. -/
theorem Reads.reader_lt (h : bus.Reads s log k) (hsound : bus.Sound) :
    s.reader < bus.nextReader := by
  obtain ⟨_, c, _, hc, _, _, _, hawaits⟩ := h
  exact (hsound.channel _ c hc).reader_lt _ _ hawaits

/-- A new subscription does not move another one. -/
theorem Reads.subscribe (h : bus.Reads s log k) (hsound : bus.Sound) {s' : BusSubscription}
    (heq : bus.subscribe topic = .ok (s', bus')) : bus'.Reads s log k := by
  obtain ⟨_, _, rfl⟩ := subscribe_eq_ok heq
  have hread : Reads { bus with topics := bus.topics.insert topic (((bus.topics[topic]?).getD
      (.ofCapacity bus.config.capacity)).subscribe bus.nextReader) } s log k := by
    refine h.insert topic fun c base hc htopic hcarries hawaits => ?_
    rw [htopic, hc, Option.getD_some]
    -- the number of the new subscription has not been given away before
    have hlt := (hsound.channel _ c hc).reader_lt _ _ hawaits
    exact ⟨rfl, rfl, hcarries.subscribe _, hawaits.subscribe (Nat.ne_of_gt hlt)⟩
  exact ⟨hread.le_length, hread.channel⟩

/-- A new subscription starts a log. -/
theorem Sound.reads_nil (h : bus.Sound) (heq : bus.subscribe topic = .ok (s, bus')) :
    bus'.Reads s [] 0 := by
  have hsound := h.subscribe heq
  obtain ⟨hopen, rfl, rfl⟩ := subscribe_eq_ok heq
  have hc := hsound.channel topic _ Std.ExtTreeMap.getElem?_insert_self
  have hclosed := hsound.closed_eq topic _ Std.ExtTreeMap.getElem?_insert_self
  exact ⟨Nat.le_refl 0, _, _, Std.ExtTreeMap.getElem?_insert_self, hclosed.trans hopen, hc.size_eq,
    hc.carries_nil, Std.ExtTreeMap.getElem?_insert_self⟩

/-- A subscription finds the message that it waits for or, if that is no longer kept, the oldest one
that is. -/
theorem Reads.receive_eq (h : bus.Reads s log k) :
    match log[Broadcast.nextIndex bus.keeps log.length k]? with
    | some m => (bus.receive s).1 = .message m ∧
        (bus.receive s).2.Reads s log (Broadcast.nextIndex bus.keeps log.length k + 1)
    | none => (bus.receive s).1 = .pending := by
  obtain ⟨hk, c, base, hc, hopen, hsize, hcarries, hawaits⟩ := h
  have hreceive := hcarries.receive_eq hawaits hopen
  rw [InMemoryBus.receive_eq hc, ← hsize]
  cases hm : log[Broadcast.nextIndex c.size log.length k]? with
  | none =>
    rw [hm] at hreceive
    exact congrArg Prod.fst hreceive
  | some m =>
    rw [hm] at hreceive
    rw [hreceive]
    exact ⟨rfl, (List.getElem?_eq_some_iff.mp hm).1, _, base, Std.ExtTreeMap.getElem?_insert_self,
      hopen, hsize, ⟨hcarries.sent_eq, hcarries.kept_eq⟩, Std.ExtTreeMap.getElem?_insert_self⟩

/-- A subscription has drained the log when it waits for the message behind its end. -/
theorem Reads.unread_eq_zero_iff (h : bus.Reads s log k) :
    (Transport.memory bus).unread s = 0 ↔ k = log.length := by
  obtain ⟨hk, c, base, hc, _, hsize, hcarries, hawaits⟩ := h
  rw [Transport.unread, Transport.channel?, hc, Option.map_some, Option.getD_some]
  exact hcarries.unread_eq_zero_iff hawaits hk (hsize ▸ bus.keeps_pos)

end Reads

end ServiceBroker.InMemoryBus
