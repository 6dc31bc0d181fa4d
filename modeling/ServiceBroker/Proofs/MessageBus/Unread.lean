import Mathlib.Data.List.DropRight
import Mathlib.Data.List.Nodup
import Mathlib.Data.List.Perm.Basic
import ServiceBroker.Proofs.MessageBus.InMemory

/-!
# Unread messages

What was sent on a channel since a reader took a message for the last time is unread. A channel
keeps the last messages only, so a reader finds the first of the last `size` unread ones. Closing a
channel changes nothing about what it has kept.

## Main definitions

* `Broadcast.Holds`, `InMemoryBus.Holds`: these messages are unread;
* `InMemoryBus.IsOpen`: a subscription is one of the readers of its topic.

## Main results

* `Holds.receive_self`, `Holds.takes_eq`: what a subscription finds that is read once, or over and
  over;
* `readerCount_eq`: the readers of a topic are the open subscriptions to it.
-/

namespace ServiceBroker

/-! ## What a channel holds for a reader -/

namespace Broadcast

variable {α : Type}

/-- The channel has sent the given messages since its reader took one for the last time. -/
def Holds (c : Broadcast α) (reader : Nat) (unread : List α) : Prop :=
  ∃ base log k, c.Carries base log ∧ c.Awaits reader base k ∧ k ≤ log.length ∧
    log.drop k = unread

section Holds

variable {c : Broadcast α} {reader other : Nat} {unread : List α}

/-- From the next message that a reader finds to the end of the log stand the last unread ones. -/
private theorem drop_nextIndex (log : List α) (size k : Nat) :
    log.drop (nextIndex size log.length k) = (log.drop k).rtake size := by
  rw [List.rtake, List.drop_drop, List.length_drop, nextIndex]
  congr 1
  omega

/-- A reader finds the first of the last `size` unread messages, and those after it stay unread. -/
theorem Holds.receive_self (h : c.Holds reader unread) :
    (unread.rtake c.size = [] ∧ c.receive reader = (if c.closed then .closed else .pending, c)) ∨
      ∃ a rest, unread.rtake c.size = a :: rest ∧ (c.receive reader).1 = .message a ∧
        (c.receive reader).2.Holds reader rest := by
  obtain ⟨base, log, k, hcarries, hawaits, -, rfl⟩ := h
  rw [hcarries.receive_eq_of_awaits hawaits, ← drop_nextIndex]
  generalize nextIndex c.size log.length k = next
  rcases Nat.lt_or_ge next log.length with hlt | hge
  · right
    refine ⟨log[next], log.drop (next + 1), List.drop_eq_getElem_cons hlt, ?_, ?_⟩
    · rw [List.getElem?_eq_getElem hlt]
    · rw [List.getElem?_eq_getElem hlt]
      exact ⟨base, log, next + 1, ⟨hcarries.sent_eq, hcarries.kept_eq⟩,
        Std.ExtTreeMap.getElem?_insert_self, hlt, rfl⟩
  · left
    refine ⟨List.drop_eq_nil_of_le hge, ?_⟩
    rw [List.getElem?_eq_none hge]

/-- A message that is sent is unread at first. -/
theorem Holds.send (h : c.Holds reader unread) (a : α) :
    (c.send a).Holds reader (unread ++ [a]) := by
  obtain ⟨base, log, k, hcarries, hawaits, hk, rfl⟩ := h
  refine ⟨base, log ++ [a], k, hcarries.send hawaits.isEmpty_readers a, hawaits.send a, ?_, ?_⟩
  · rw [List.length_append]
    exact Nat.le_add_right_of_le hk
  · exact List.drop_append_of_le_length hk

theorem Holds.receive (h : c.Holds reader unread) (hne : other ≠ reader) :
    (c.receive other).2.Holds reader unread := by
  obtain ⟨base, log, k, hcarries, hawaits, hk⟩ := h
  exact ⟨base, log, k, hcarries.receive other, hawaits.receive hne, hk⟩

theorem Holds.subscribe (h : c.Holds reader unread) (hne : other ≠ reader) :
    (c.subscribe other).Holds reader unread := by
  obtain ⟨base, log, k, hcarries, hawaits, hk⟩ := h
  exact ⟨base, log, k, hcarries.subscribe other, hawaits.subscribe hne, hk⟩

theorem Holds.unsubscribe (h : c.Holds reader unread) (hne : other ≠ reader) :
    (c.unsubscribe other).Holds reader unread := by
  obtain ⟨base, log, k, hcarries, hawaits, hk⟩ := h
  exact ⟨base, log, k, hcarries.unsubscribe other, hawaits.unsubscribe hne, hk⟩

theorem Holds.close (h : c.Holds reader unread) : c.close.Holds reader unread := by
  obtain ⟨base, log, k, hcarries, hawaits, hk⟩ := h
  exact ⟨base, log, k, ⟨hcarries.sent_eq, hcarries.kept_eq⟩, hawaits, hk⟩

/-- Nothing is unread for a new reader. -/
theorem Sound.holds_nil {size bound : Nat} (h : c.Sound size bound) :
    (c.subscribe reader).Holds reader [] :=
  ⟨c.sent, [], 0, h.carries_nil.subscribe reader, Std.ExtTreeMap.getElem?_insert_self, le_rfl, rfl⟩

end Holds

/-! ### Who reads a channel -/

section Readers

variable {c : Broadcast α} {reader other : Nat}

@[simp]
theorem readers_send (c : Broadcast α) (a : α) : (c.send a).readers = c.readers := by
  unfold send
  split <;> rfl

@[simp]
theorem mem_readers_subscribe : reader ∈ (c.subscribe other).readers ↔
    reader = other ∨ reader ∈ c.readers := by
  rw [subscribe, Std.ExtTreeMap.mem_insert, Std.LawfulEqCmp.compare_eq_iff_eq, eq_comm]

@[simp]
theorem mem_readers_unsubscribe : reader ∈ (c.unsubscribe other).readers ↔
    reader ≠ other ∧ reader ∈ c.readers := by
  rw [unsubscribe, Std.ExtTreeMap.mem_erase, ne_eq, Std.LawfulEqCmp.compare_eq_iff_eq, ne_comm]

/-- Only a reader of the channel takes messages from it, and remains one. -/
@[simp]
theorem mem_readers_receive : reader ∈ (c.receive other).2.readers ↔ reader ∈ c.readers := by
  unfold receive
  split
  next => exact Iff.rfl
  next position hposition =>
    dsimp only
    split
    next =>
      -- to move the position of a reader inserts nobody new
      have hother : other ∈ c.readers := by
        rw [Std.ExtTreeMap.mem_iff_isSome_getElem?, hposition]
        rfl
      rw [Std.ExtTreeMap.mem_insert, Std.LawfulEqCmp.compare_eq_iff_eq]
      constructor
      · rintro (rfl | hmem)
        · exact hother
        · exact hmem
      · exact Or.inr
    next => exact Iff.rfl

end Readers

end Broadcast

/-! ## What a bus holds for a subscription -/

namespace InMemoryBus

/-- The subscription is open, and since it was read last the given messages were accepted on its
topic. -/
def Holds (bus : InMemoryBus) (s : BusSubscription) (unread : List BusMessage) : Prop :=
  ∃ c, bus.topics[s.topic]? = some c ∧ c.Holds s.reader unread

/-- The subscription reads the channel of its topic. -/
def IsOpen (bus : InMemoryBus) (s : BusSubscription) : Prop :=
  ∃ c, bus.topics[s.topic]? = some c ∧ s.reader ∈ c.readers

/-- What a subscription finds that has nothing left to read. -/
def atEnd (bus : InMemoryBus) : Received BusMessage := if bus.closed then .closed else .pending

/-- What a subscription finds when it is read `n` times in a row. -/
def takes (bus : InMemoryBus) (s : BusSubscription) : Nat → List (Received BusMessage)
  | 0 => []
  | n + 1 => (bus.receive s).1 :: (bus.receive s).2.takes s n

section Bus

variable {bus bus' : InMemoryBus} {topic key : String} {payload : Bytes} {n : Nat}
  {s s' : BusSubscription} {c : Broadcast BusMessage} {unread : List BusMessage}

@[simp]
theorem closed_receive (bus : InMemoryBus) (s : BusSubscription) :
    (bus.receive s).2.closed = bus.closed := by
  unfold receive
  split <;> rfl

@[simp]
theorem atEnd_receive (bus : InMemoryBus) (s : BusSubscription) :
    (bus.receive s).2.atEnd = bus.atEnd := by
  rw [atEnd, closed_receive, atEnd]

@[simp]
theorem published_receive (bus : InMemoryBus) (s : BusSubscription) :
    (bus.receive s).2.published = bus.published := by
  unfold receive
  split <;> rfl

@[simp]
theorem closed_unsubscribe (bus : InMemoryBus) (s : BusSubscription) :
    (bus.unsubscribe s).closed = bus.closed := by
  unfold unsubscribe
  split <;> rfl

@[simp]
theorem published_unsubscribe (bus : InMemoryBus) (s : BusSubscription) :
    (bus.unsubscribe s).published = bus.published := by
  unfold unsubscribe
  split <;> rfl

@[simp]
theorem keeps_receive (bus : InMemoryBus) (s : BusSubscription) :
    (bus.receive s).2.keeps = bus.keeps := by
  rw [keeps, config_receive, keeps]

/-- A message that is accepted is unread for the subscriptions to its topic. -/
theorem Holds.publish (h : bus.Holds s unread)
    (heq : bus.publish topic key payload = .ok (n, bus')) :
    bus'.Holds s (if topic = s.topic then unread ++ [⟨topic, key, payload⟩] else unread) := by
  obtain ⟨c, hc, hholds⟩ := h
  have htopics := topics_publish heq s.topic
  by_cases htopic : topic = s.topic
  · subst htopic
    rw [if_pos rfl, hc, Option.map_some] at htopics
    rw [if_pos rfl]
    exact ⟨_, htopics, hholds.send _⟩
  · rw [if_neg htopic, hc] at htopics
    rw [if_neg htopic]
    exact ⟨c, htopics, hholds⟩

/-- Replacing the channel of a topic by one that holds the same for a reader. -/
theorem Holds.insert (h : bus.Holds s unread) (htopics : bus'.topics = bus.topics.insert topic c)
    (hc : ∀ old, bus.topics[topic]? = some old → topic = s.topic → old.Holds s.reader unread →
      c.Holds s.reader unread) : bus'.Holds s unread := by
  obtain ⟨old, hold, hholds⟩ := h
  rw [Holds, htopics, Std.ExtTreeMap.getElem?_insert]
  split
  next heq =>
    have htopic : topic = s.topic := Std.LawfulEqCmp.compare_eq_iff_eq.mp heq
    exact ⟨c, rfl, hc old (htopic ▸ hold) htopic hholds⟩
  next => exact ⟨old, hold, hholds⟩

/-- On the same topic different subscriptions have different numbers. -/
theorem reader_ne (hne : s' ≠ s) (htopic : s'.topic = s.topic) : s'.reader ≠ s.reader := by
  intro hreader
  obtain ⟨topic, reader⟩ := s
  obtain ⟨topic', reader'⟩ := s'
  exact hne (BusSubscription.mk.injEq .. ▸ ⟨htopic, hreader⟩)

/-- What is unread for one subscription stays so when another one is read. -/
theorem Holds.receive (h : bus.Holds s unread) (hne : s' ≠ s) :
    (bus.receive s').2.Holds s unread := by
  cases hc : bus.topics[s'.topic]? with
  | none =>
    rw [InMemoryBus.receive_of_none hc]
    exact h
  | some c =>
    rw [InMemoryBus.receive_eq hc]
    refine h.insert rfl fun old hold htopic hholds => ?_
    obtain rfl : c = old := Option.some.inj (hc.symm.trans hold)
    exact hholds.receive (reader_ne hne htopic)

/-- It stays so when another one is given up. -/
theorem Holds.unsubscribe (h : bus.Holds s unread) (hne : s' ≠ s) :
    (bus.unsubscribe s').Holds s unread := by
  cases hc : bus.topics[s'.topic]? with
  | none =>
    rw [InMemoryBus.unsubscribe_of_none hc]
    exact h
  | some c =>
    rw [InMemoryBus.unsubscribe_eq hc]
    refine h.insert rfl fun old hold htopic hholds => ?_
    obtain rfl : c = old := Option.some.inj (hc.symm.trans hold)
    exact hholds.unsubscribe (reader_ne hne htopic)

/-- A subscription has a number that was given before. -/
theorem Holds.reader_lt (h : bus.Holds s unread) (hsound : bus.Sound) :
    s.reader < bus.nextReader := by
  obtain ⟨c, hc, _, _, _, _, hawaits, _⟩ := h
  exact (hsound.channel _ c hc).reader_lt _ _ hawaits

/-- A new subscription leaves the others what is unread for them. -/
theorem Holds.subscribe (h : bus.Holds s unread) (hsound : bus.Sound)
    (heq : bus.subscribe topic = .ok (s', bus')) : bus'.Holds s unread := by
  obtain ⟨-, -, rfl⟩ := subscribe_eq_ok heq
  refine h.insert rfl fun old hold htopic hholds => ?_
  rw [hold]
  exact hholds.subscribe (h.reader_lt hsound).ne'

/-- A bus that is closed keeps what is unread. -/
theorem Holds.close (h : bus.Holds s unread) : bus.close.Holds s unread := by
  obtain ⟨c, hc, hholds⟩ := h
  refine ⟨c.close, ?_, hholds.close⟩
  show (bus.topics.map fun _ channel => channel.close)[s.topic]? = some c.close
  rw [Std.ExtTreeMap.getElem?_map, hc, Option.map_some]

/-- Nothing is unread for a new subscription. -/
theorem Sound.holds_nil (hsound : bus.Sound) (heq : bus.subscribe topic = .ok (s, bus')) :
    bus'.Holds s [] := by
  obtain ⟨-, rfl, rfl⟩ := subscribe_eq_ok heq
  refine ⟨_, Std.ExtTreeMap.getElem?_insert_self, ?_⟩
  cases hc : bus.topics[topic]? with
  | none => exact (Broadcast.sound_ofCapacity bus.config.capacity 0).holds_nil
  | some c => exact (hsound.channel topic c hc).holds_nil

/-- A subscription finds the first of the last unread messages that are kept. -/
theorem Holds.receive_self (h : bus.Holds s unread) (hsound : bus.Sound) :
    (unread.rtake bus.keeps = [] ∧
        (bus.receive s).1 = bus.atEnd ∧
        (bus.receive s).2.Holds s unread) ∨
      ∃ m rest, unread.rtake bus.keeps = m :: rest ∧ (bus.receive s).1 = .message m ∧
        (bus.receive s).2.Holds s rest := by
  obtain ⟨c, hc, hholds⟩ := h
  rw [InMemoryBus.receive_eq hc, ← (hsound.channel _ c hc).size_eq, atEnd,
    ← hsound.closed_eq _ c hc]
  rcases hholds.receive_self with ⟨hnil, hreceive⟩ | ⟨m, rest, hcons, hmessage, hrest⟩
  · left
    rw [hreceive]
    exact ⟨hnil, rfl, c, Std.ExtTreeMap.getElem?_insert_self, hholds⟩
  · right
    exact ⟨m, rest, hcons, hmessage, _, Std.ExtTreeMap.getElem?_insert_self, hrest⟩

/-- A subscription will find nothing when nothing is unread for it. -/
theorem Holds.unread_eq_zero_iff (h : bus.Holds s unread) (hsound : bus.Sound) :
    (Transport.memory bus).unread s = 0 ↔ unread = [] := by
  obtain ⟨c, hc, base, log, k, hcarries, hawaits, hk, rfl⟩ := h
  have hpos : 0 < c.size := (hsound.channel _ c hc).size_eq ▸ bus.keeps_pos
  rw [Transport.unread, Transport.channel?, hc, Option.map_some, Option.getD_some,
    hcarries.unread_eq_zero_iff hawaits hk hpos, List.drop_eq_nil_iff]
  omega

/-- What is left of the last unread messages after the first of them is kept too. -/
theorem rtake_rest {size : Nat} {m : BusMessage} {rest : List BusMessage}
    (h : unread.rtake size = m :: rest) : rest.rtake size = rest := by
  have hlength : (unread.rtake size).length ≤ size := by
    rw [List.rtake, List.length_drop]
    omega
  rw [h, List.length_cons] at hlength
  rw [List.rtake, Nat.sub_eq_zero_of_le (by omega), List.drop_zero]

/-- A subscription that is read over and over finds the last unread messages that are kept, one
after the other, and then nothing more. -/
theorem Holds.takes_eq (h : bus.Holds s unread) (hsound : bus.Sound) (n : Nat) :
    bus.takes s n = ((unread.rtake bus.keeps).take n).map .message ++
      List.replicate (n - (unread.rtake bus.keeps).length) bus.atEnd := by
  induction n generalizing bus unread with
  | zero => simp [takes]
  | succ n ih =>
    rw [takes]
    have hsound' := hsound.receive s
    rcases h.receive_self hsound with ⟨hnil, hended, hrest⟩ | ⟨m, rest, hcons, hmessage, hrest⟩
    · -- at the end every attempt finds the same
      have hih := ih hrest hsound'
      rw [keeps_receive, atEnd_receive, hnil] at hih
      rw [hended, hih, hnil, List.take_nil, List.take_nil]
      rfl
    · have hih := ih hrest hsound'
      rw [keeps_receive, atEnd_receive, rtake_rest hcons] at hih
      rw [hmessage, hih, hcons, List.length_cons, Nat.add_sub_add_right]
      rfl

/-! ### Which subscriptions are open -/

theorem isOpen_insert (htopics : bus'.topics = bus.topics.insert topic c) :
    bus'.IsOpen s ↔ if topic = s.topic then s.reader ∈ c.readers else bus.IsOpen s := by
  rw [IsOpen, htopics, Std.ExtTreeMap.getElem?_insert]
  by_cases htopic : topic = s.topic
  · rw [if_pos (Std.LawfulEqCmp.compare_eq_iff_eq.mpr htopic), if_pos htopic]
    simp
  · rw [if_neg (by simpa using htopic), if_neg htopic, IsOpen]

/-- Publishing neither opens a subscription nor gives one up. -/
theorem isOpen_publish (heq : bus.publish topic key payload = .ok (n, bus')) :
    bus'.IsOpen s ↔ bus.IsOpen s := by
  rw [IsOpen, topics_publish heq, IsOpen]
  split
  next htopic =>
    rw [← htopic]
    cases bus.topics[topic]? with
    | none => simp
    | some c => simp
  next => exact Iff.rfl

theorem isOpen_subscribe (heq : bus.subscribe topic = .ok (s', bus')) :
    bus'.IsOpen s ↔ s = s' ∨ bus.IsOpen s := by
  obtain ⟨-, rfl, rfl⟩ := subscribe_eq_ok heq
  obtain ⟨topic', reader⟩ := s
  rw [isOpen_insert rfl, Broadcast.mem_readers_subscribe, BusSubscription.mk.injEq]
  dsimp only
  split
  next htopic =>
    subst htopic
    rw [IsOpen]
    cases bus.topics[topic]? with
    | none => simp [Broadcast.ofCapacity]
    | some c => simp
  next htopic => simp [Ne.symm htopic]

/-- Nor does reading. -/
theorem isOpen_receive : (bus.receive s').2.IsOpen s ↔ bus.IsOpen s := by
  cases hc : bus.topics[s'.topic]? with
  | none =>
    rw [InMemoryBus.receive_of_none hc]
  | some c =>
    rw [InMemoryBus.receive_eq hc, isOpen_insert rfl, Broadcast.mem_readers_receive]
    split
    next htopic => simp [IsOpen, ← htopic, hc]
    next => exact Iff.rfl

theorem isOpen_unsubscribe : (bus.unsubscribe s').IsOpen s ↔ s ≠ s' ∧ bus.IsOpen s := by
  obtain ⟨topic, reader⟩ := s
  obtain ⟨topic', reader'⟩ := s'
  rw [ne_eq, BusSubscription.mk.injEq]
  cases hc : bus.topics[topic']? with
  | none =>
    rw [InMemoryBus.unsubscribe_of_none hc]
    -- without a channel of the topic no subscription to it is open
    constructor
    · rintro ⟨c, htopic, hreader⟩
      refine ⟨fun heq => ?_, c, htopic, hreader⟩
      rw [← heq.1, show bus.topics[topic]? = some c from htopic] at hc
      cases hc
    · exact And.right
  | some c =>
    rw [InMemoryBus.unsubscribe_eq hc, isOpen_insert rfl, Broadcast.mem_readers_unsubscribe]
    dsimp only
    split
    next htopic =>
      subst htopic
      simp [IsOpen, hc]
    next htopic => simp [Ne.symm htopic]

theorem isOpen_close : bus.close.IsOpen s ↔ bus.IsOpen s := by
  rw [IsOpen, IsOpen, InMemoryBus.close]
  dsimp only
  rw [Std.ExtTreeMap.getElem?_map]
  cases bus.topics[s.topic]? with
  | none => simp
  | some c => simp [Broadcast.close]

/-- The readers of the channel of a topic are the open subscriptions to it. -/
theorem readerCount_eq {opened : List BusSubscription} (hnodup : opened.Nodup)
    (hopen : ∀ s, bus.IsOpen s ↔ s ∈ opened) (topic : String) :
    ((bus.topics[topic]?).map (·.readerCount)).getD 0 = opened.countP (·.topic = topic) := by
  cases hc : bus.topics[topic]? with
  | none =>
    rw [Option.map_none, Option.getD_none, eq_comm, List.countP_eq_zero]
    intro s hs
    obtain ⟨c, hc', -⟩ := (hopen s).mpr hs
    simp only [decide_eq_true_eq]
    rintro rfl
    rw [hc] at hc'
    cases hc'
  | some c =>
    -- the numbers of these subscriptions are the keys of the readers, each of them once
    have hperm : c.readers.keys.Perm
        ((opened.filter (·.topic = topic)).map (·.reader)) := by
      refine (List.perm_ext_iff_of_nodup Std.ExtTreeMap.nodup_keys ?_).mpr fun reader => ?_
      · refine (hnodup.filter _).map_on fun s hs s' hs' hreader => ?_
        simp only [List.mem_filter, decide_eq_true_eq] at hs hs'
        cases s
        cases s'
        rw [BusSubscription.mk.injEq]
        exact ⟨hs.2.trans hs'.2.symm, hreader⟩
      · have hreader := hopen ⟨topic, reader⟩
        rw [IsOpen, hc] at hreader
        simp only [Option.some.injEq, exists_eq_left'] at hreader
        rw [Std.ExtTreeMap.mem_keys, hreader, List.mem_map]
        simp only [List.mem_filter, decide_eq_true_eq]
        constructor
        · intro hmem
          exact ⟨_, ⟨hmem, rfl⟩, rfl⟩
        · rintro ⟨s, ⟨hmem, rfl⟩, rfl⟩
          exact hmem
    have hlength := hperm.length_eq
    rw [Std.ExtTreeMap.length_keys, List.length_map, ← List.countP_eq_length_filter] at hlength
    exact hlength

end Bus

end InMemoryBus

end ServiceBroker
