import ServiceBroker.MessageBus.Broadcast

/-!
# What a channel still holds of a log

A channel with a reader carries the log of the messages sent on it: message `k` of the log has the
number `base + k`, and the channel keeps the last `size` of them. A reader that lags by more goes on
at the oldest one kept.

- `Broadcast.Carries`: the channel carries a log;
- `Carries.send`: a message that is sent goes to the end of the log;
- `Carries.receive_eq`: what a reader finds, said by the log alone.
-/

namespace ServiceBroker.Broadcast

variable {α : Type}

/-- The number of messages sent and not handed to a reader, kept or not. -/
def backlog (c : Broadcast α) (reader : Nat) : Nat :=
  match c.readers[reader]? with
  | some position => c.sent - position
  | none => 0

/-- The channel has sent the messages of a log, of which the first has the number `base`, and keeps
the last `size` of them. -/
structure Carries (c : Broadcast α) (base : Nat) (log : List α) : Prop where
  /-- The log is what was sent since `base`. -/
  sent_eq : c.sent = base + log.length
  /-- From the oldest one kept, the numbers lead to the messages of the log and to nothing else. -/
  kept_eq : ∀ k, c.oldest ≤ base + k → c.kept[base + k]? = log[k]?

/-- The reader waits for the message `k` of a log whose first message has the number `base`. -/
def Awaits (c : Broadcast α) (reader base k : Nat) : Prop := c.readers[reader]? = some (base + k)

section Carries

variable {c : Broadcast α} {base : Nat} {log : List α} {reader k : Nat}

/-- A channel that somebody reads has readers. -/
theorem Awaits.isEmpty_readers (h : c.Awaits reader base k) : c.readers.isEmpty = false := by
  rw [Awaits] at h
  rw [Std.ExtTreeMap.isEmpty_eq_false_iff]
  intro hempty
  simp [hempty] at h

/-- A message that is sent goes to the end of the log. -/
theorem Carries.send (h : c.Carries base log) (hreaders : c.readers.isEmpty = false) (a : α) :
    (c.send a).Carries base (log ++ [a]) := by
  obtain ⟨hsent, hkept⟩ := h
  unfold Broadcast.send
  rw [if_neg (by simp [hreaders])]
  refine ⟨?_, fun i hi => ?_⟩
  · dsimp only
    rw [hsent, List.length_append, List.length_singleton, Nat.add_assoc]
  · simp only [oldest] at hi hkept ⊢
    rw [Std.ExtTreeMap.getElem?_insert]
    -- the number of the message that is sent, or one before it
    by_cases hlast : c.sent = base + i
    · have hi : i = log.length := by omega
      simp [hlast, hi]
    · have hold : c.kept[base + i]? = log[i]? := hkept i (by omega)
      have hne : i ≠ log.length := by omega
      have happend : (log ++ [a])[i]? = log[i]? := by
        rcases Nat.lt_or_gt_of_ne hne with hlt | hgt
        · exact List.getElem?_append_left hlt
        · rw [List.getElem?_eq_none (by simp; omega), List.getElem?_eq_none (Nat.le_of_lt hgt)]
      -- the message that makes room is older than the ones the log is compared on
      rw [if_neg (by simpa using hlast), happend, ← hold]
      split
      · rw [Std.ExtTreeMap.getElem?_erase, if_neg]
        simp only [Std.LawfulEqCmp.compare_eq_iff_eq]
        omega
      · rfl

/-- A message that is sent is not skipped by those that wait for an earlier one. -/
theorem Awaits.send (h : c.Awaits reader base k) (a : α) : (c.send a).Awaits reader base k := by
  unfold Awaits Broadcast.send at *
  split <;> exact h

@[simp]
theorem size_send (c : Broadcast α) (a : α) : (c.send a).size = c.size := by
  unfold send
  split <;> rfl

@[simp]
theorem closed_send (c : Broadcast α) (a : α) : (c.send a).closed = c.closed := by
  unfold send
  split <;> rfl

@[simp]
theorem size_receive (c : Broadcast α) (reader : Nat) : (c.receive reader).2.size = c.size := by
  unfold receive
  split
  next => rfl
  next =>
    dsimp only
    split <;> rfl

@[simp]
theorem closed_receive (c : Broadcast α) (reader : Nat) :
    (c.receive reader).2.closed = c.closed := by
  unfold receive
  split
  next => rfl
  next =>
    dsimp only
    split <;> rfl

/-- The message that a reader finds: the one it waits for, unless that is no longer kept. -/
def nextIndex (size length k : Nat) : Nat := max k (length - size)

/-- What a reader finds in the log, and where it is then. Whether it may still expect something
behind the end of the log depends on the sending side alone. -/
theorem Carries.receive_eq_of_awaits (h : c.Carries base log) (hreader : c.Awaits reader base k) :
    c.receive reader =
      match log[nextIndex c.size log.length k]? with
      | some a => (.message a, { c with
          readers := c.readers.insert reader (base + (nextIndex c.size log.length k + 1)) })
      | none => (if c.closed then .closed else .pending, c) := by
  -- counted from `base`, the reader goes on where the log says
  have hposition : max (base + k) c.oldest = base + nextIndex c.size log.length k := by
    simp only [oldest, nextIndex, h.sent_eq]
    omega
  have hkept := h.kept_eq (nextIndex c.size log.length k) (hposition ▸ Nat.le_max_right ..)
  unfold receive
  rw [Awaits] at hreader
  simp only [hreader, hposition, hkept]
  cases log[nextIndex c.size log.length k]? <;> rfl

/-- What a reader of an open channel finds in the log, and where it is then. -/
theorem Carries.receive_eq (h : c.Carries base log) (hreader : c.Awaits reader base k)
    (hopen : c.closed = false) :
    c.receive reader =
      match log[nextIndex c.size log.length k]? with
      | some a => (.message a, { c with
          readers := c.readers.insert reader (base + (nextIndex c.size log.length k + 1)) })
      | none => (.pending, c) := by
  rw [h.receive_eq_of_awaits hreader, hopen]
  rfl

/-- The reader of a log has drained it when it waits for the message behind its end. -/
theorem Carries.unread_eq_zero_iff (h : c.Carries base log) (hreader : c.Awaits reader base k)
    (hk : k ≤ log.length) (hsize : 0 < c.size) : c.unread reader = 0 ↔ k = log.length := by
  rw [Awaits] at hreader
  simp only [unread, hreader, oldest, h.sent_eq]
  omega

/-- Only `send` changes what a channel carries. -/
theorem Carries.receive (h : c.Carries base log) (other : Nat) :
    (c.receive other).2.Carries base log := by
  unfold Broadcast.receive
  split
  next => exact h
  next =>
    dsimp only
    split
    next => exact ⟨h.sent_eq, h.kept_eq⟩
    next => exact h

/-- What a channel carries does not depend on who reads it. -/
theorem Carries.subscribe (h : c.Carries base log) (other : Nat) :
    (c.subscribe other).Carries base log := ⟨h.sent_eq, h.kept_eq⟩

theorem Carries.unsubscribe (h : c.Carries base log) (other : Nat) :
    (c.unsubscribe other).Carries base log := ⟨h.sent_eq, h.kept_eq⟩

/-- What another reader does leaves a reader where it is. -/
theorem Awaits.receive (h : c.Awaits reader base k) {other : Nat} (hne : other ≠ reader) :
    (c.receive other).2.Awaits reader base k := by
  unfold Broadcast.receive
  split
  next => exact h
  next =>
    dsimp only
    split
    next => exact (Std.ExtTreeMap.getElem?_insert ..).trans ((if_neg (by simpa using hne)).trans h)
    next => exact h

/-- Nor does it matter to a reader that another one comes or goes. -/
theorem Awaits.subscribe (h : c.Awaits reader base k) {other : Nat} (hne : other ≠ reader) :
    (c.subscribe other).Awaits reader base k :=
  (Std.ExtTreeMap.getElem?_insert ..).trans ((if_neg (by simpa using hne)).trans h)

theorem Awaits.unsubscribe (h : c.Awaits reader base k) {other : Nat} (hne : other ≠ reader) :
    (c.unsubscribe other).Awaits reader base k :=
  (Std.ExtTreeMap.getElem?_erase ..).trans ((if_neg (by simpa using hne)).trans h)

/-- What is pending for the reader of a log. -/
theorem Carries.backlog_eq (h : c.Carries base log) (hreader : c.Awaits reader base k) :
    c.backlog reader = log.length - k := by
  rw [Awaits] at hreader
  simp only [backlog, hreader, h.sent_eq]
  omega

end Carries

/-! ## Channels of a bus -/

/-- A channel of the given size has handed out nothing that was not sent, to readers with numbers
below `bound`. -/
structure Sound (c : Broadcast α) (size bound : Nat) : Prop where
  size_eq : c.size = size
  reader_lt : ∀ reader position, c.readers[reader]? = some position → reader < bound
  kept_lt : ∀ n a, c.kept[n]? = some a → n < c.sent

/-- A new channel holds nothing and has nobody to read it. -/
theorem sound_ofCapacity (capacity bound : Nat) :
    (ofCapacity capacity : Broadcast α).Sound capacity.nextPowerOfTwo bound where
  size_eq := rfl
  reader_lt reader position h := by simp [ofCapacity] at h
  kept_lt n a h := by simp [ofCapacity] at h

section Sound

variable {c : Broadcast α} {size bound : Nat}

theorem Sound.mono (h : c.Sound size bound) {bound' : Nat} (hle : bound ≤ bound') :
    c.Sound size bound' :=
  ⟨h.size_eq, fun reader position hr => Nat.lt_of_lt_of_le (h.reader_lt reader position hr) hle,
    h.kept_lt⟩

/-- A reader that comes gets a number that nobody has. -/
theorem Sound.subscribe (h : c.Sound size bound) :
    (c.subscribe bound).Sound size (bound + 1) := by
  refine ⟨h.size_eq, fun reader position hr => ?_, h.kept_lt⟩
  rw [Broadcast.subscribe, Std.ExtTreeMap.getElem?_insert] at hr
  split at hr
  next heq => exact Nat.lt_succ_of_le (Nat.le_of_eq (Std.LawfulEqCmp.compare_eq_iff_eq.mp heq).symm)
  next => exact Nat.lt_succ_of_lt (h.reader_lt reader position hr)

theorem Sound.unsubscribe (h : c.Sound size bound) (reader : Nat) :
    (c.unsubscribe reader).Sound size bound := by
  refine ⟨h.size_eq, fun other position hr => ?_, h.kept_lt⟩
  rw [Broadcast.unsubscribe, Std.ExtTreeMap.getElem?_erase] at hr
  split at hr
  next => cases hr
  next => exact h.reader_lt other position hr

/-- A channel never holds more than its size. -/
theorem Sound.send (h : c.Sound size bound) (a : α) : (c.send a).Sound size bound := by
  unfold Broadcast.send
  split
  next => exact h
  next =>
    refine ⟨h.size_eq, h.reader_lt, fun n b hb => ?_⟩
    simp only [Std.ExtTreeMap.getElem?_insert] at hb
    split at hb
    next heq =>
      exact Nat.lt_succ_of_le (Nat.le_of_eq (Std.LawfulEqCmp.compare_eq_iff_eq.mp heq).symm)
    next =>
      -- what was kept before, without the message that makes room
      refine Nat.lt_succ_of_lt (h.kept_lt n b ?_)
      split at hb
      next =>
        rw [Std.ExtTreeMap.getElem?_erase] at hb
        split at hb
        next => cases hb
        next => exact hb
      next => exact hb

theorem Sound.close (h : c.Sound size bound) : c.close.Sound size bound :=
  ⟨h.size_eq, h.reader_lt, h.kept_lt⟩

/-- A reader that reads goes on, but not beyond the end. -/
theorem Sound.receive (h : c.Sound size bound) (reader : Nat) :
    (c.receive reader).2.Sound size bound := by
  unfold Broadcast.receive
  split
  next => exact h
  next position hposition =>
    dsimp only
    split
    next a ha =>
      refine ⟨h.size_eq, fun other position' hr => ?_, h.kept_lt⟩
      rw [Std.ExtTreeMap.getElem?_insert] at hr
      split at hr
      next heq =>
        -- the reader that moves on was known, and nobody else moves
        obtain rfl := Std.LawfulEqCmp.compare_eq_iff_eq.mp heq
        exact h.reader_lt reader position hposition
      next => exact h.reader_lt other position' hr
    next => exact h

/-- A new reader of a sound channel starts a log. -/
theorem Sound.carries_nil (h : c.Sound size bound) : c.Carries c.sent [] := by
  refine ⟨rfl, fun k _ => ?_⟩
  rw [List.getElem?_nil]
  cases hkept : c.kept[c.sent + k]? with
  | none => rfl
  | some a => exact absurd (h.kept_lt _ _ hkept) (by omega)

end Sound

end ServiceBroker.Broadcast
