import ServiceBroker.Delivery.LiveChannels

/-!
# One live channel

A channel hands its frames to its reader in the order in which they were pushed, whether they were
accepted at once or had to wait. What happens to one channel happens to no other.

- `LiveChannel.offer`, `LiveChannel.withdraw`, `LiveChannel.shift`: what happens to one channel;
- `LiveChannels.queue`, `LiveChannels.owner?`: the frames of a connection, and whose it is;
- `LiveChannels.channels_modify`, `LiveChannels.queue_modify_of_frames`: what it means for all
  channels that one changes.
-/

namespace ServiceBroker

/-! ## One channel -/

namespace LiveChannel

/-- The frames of a channel in the order in which its reader gets them. -/
def frames (c : LiveChannel) : List Bytes := c.buffer ++ c.waiting.map (·.2)

/-- Whether there is a slot for a push that comes now. -/
def HasRoom (c : LiveChannel) (capacity : Nat) : Prop :=
  c.waiting = [] ∧ c.buffer.length < capacity

instance (c : LiveChannel) (capacity : Nat) : Decidable (c.HasRoom capacity) :=
  inferInstanceAs (Decidable (c.waiting = [] ∧ c.buffer.length < capacity))

/-- The channel after a push, which is accepted or waits under a number. -/
def offer (c : LiveChannel) (capacity number : Nat) (frame : Bytes) : LiveChannel :=
  if c.HasRoom capacity then { c with buffer := c.buffer ++ [frame] }
  else { c with waiting := c.waiting ++ [(number, frame)] }

/-- The channel after a push that waited was given up. -/
def withdraw (c : LiveChannel) (number : Nat) : LiveChannel :=
  { c with waiting := c.waiting.filter fun (k, _) => k != number }

/-- The channel after a read: the first push that waits gets the slot of the frame. -/
def shift (c : LiveChannel) : LiveChannel :=
  match c.buffer with
  | [] => c
  | _ :: buffer =>
    { c with buffer := buffer ++ (c.waiting.take 1).map (·.2), waiting := c.waiting.tail }

variable {c : LiveChannel}

/-- A channel stays that of its consumer, whatever is pushed. -/
@[simp]
theorem consumer_offer (capacity number : Nat) (frame : Bytes) :
    (c.offer capacity number frame).consumer = c.consumer := by
  unfold offer
  split <;> rfl

@[simp]
theorem consumer_shift : c.shift.consumer = c.consumer := by
  unfold shift
  split <;> rfl

/-- A push holds its handle until it gives it back. -/
@[simp]
theorem handles_offer (capacity number : Nat) (frame : Bytes) :
    (c.offer capacity number frame).handles = c.handles := by
  unfold offer
  split <;> rfl

@[simp]
theorem handles_shift : c.shift.handles = c.handles := by
  unfold shift
  split <;> rfl

/-- A push puts its frame behind all others. -/
theorem frames_offer (capacity number : Nat) (frame : Bytes) :
    (c.offer capacity number frame).frames = c.frames ++ [frame] := by
  unfold offer
  split
  next hroom => simp [frames, hroom.1]
  next => simp [frames]

/-- A push that is given up takes its frame with it, and no other. -/
theorem frames_withdraw_sublist (number : Nat) : (c.withdraw number).frames.Sublist c.frames :=
  (List.Sublist.refl _).append (List.filter_sublist.map _)

/-- A read takes the first frame. -/
theorem frames_eq_cons_shift {frame : Bytes} {buffer : List Bytes}
    (h : c.buffer = frame :: buffer) : c.frames = frame :: c.shift.frames := by
  unfold shift frames
  simp only [h, List.cons_append, List.append_assoc, ← List.map_append, ← List.drop_one,
    List.take_append_drop]

end LiveChannel

namespace LiveChannels

variable {l l' : LiveChannels} {consumer : Urn} {n m : Nat} {frame : Bytes}

/-- The frames of a connection, accepted or waiting; none if its reader has gone. -/
def queue (l : LiveChannels) (n : Nat) : List Bytes :=
  ((l.channels[n]?).map LiveChannel.frames).getD []

/-- The consumer to whom a connection belongs, while its reader is there. -/
def owner? (l : LiveChannels) (n : Nat) : Option Urn := (l.channels[n]?).map (·.consumer)

/-- The queue of a connection that is there. -/
theorem queue_of_some {c : LiveChannel} (h : l.channels[n]? = some c) : l.queue n = c.frames := by
  rw [queue, h]
  rfl

/-- Nothing is queued on a connection whose reader has gone. -/
theorem queue_of_none (h : l.channels[n]? = none) : l.queue n = [] := by
  rw [queue, h]
  rfl

theorem queue_congr (h : l'.channels[n]? = l.channels[n]?) : l'.queue n = l.queue n := by
  rw [queue, h, queue]

/-- A consumer owns a connection if there is a channel of its own. -/
theorem owner?_eq_some {c : Urn} :
    l.owner? n = some c ↔ ∃ channel, l.channels[n]? = some channel ∧ channel.consumer = c :=
  Option.map_eq_some_iff

/-! ## Changing one channel -/

section Modify

variable {f : LiveChannel → LiveChannel}

/-- A change of one channel leaves the others alone. -/
theorem channels_modify (l : LiveChannels) (n m : Nat) (f : LiveChannel → LiveChannel) :
    (l.modify n f).channels[m]? =
      if n = m then (l.channels[m]?).map f else l.channels[m]? := by
  by_cases heq : n = m
  · subst heq
    rw [if_pos rfl, modify]
    cases h : l.channels[n]? <;> simp [h]
  · rw [if_neg heq, modify]
    split
    · simp [Std.ExtTreeMap.getElem?_insert, heq]
    · rfl

@[simp]
theorem capacity_modify : (l.modify n f).capacity = l.capacity := by
  unfold modify
  split <;> rfl

@[simp]
theorem current_modify : (l.modify n f).current = l.current := by
  unfold modify
  split <;> rfl

@[simp]
theorem nextConnection_modify : (l.modify n f).nextConnection = l.nextConnection := by
  unfold modify
  split <;> rfl

@[simp]
theorem nextPush_modify : (l.modify n f).nextPush = l.nextPush := by
  unfold modify
  split <;> rfl

@[simp]
theorem ended_modify : (l.modify n f).ended = l.ended := by
  unfold modify
  split <;> rfl

/-- Where there is no channel, there is nothing to change. -/
theorem modify_of_none (h : l.channels[n]? = none) : l.modify n f = l := by
  unfold modify
  rw [h]

/-- Only what a change does to the channel that is there counts. -/
theorem modify_congr {c : LiveChannel} {g : LiveChannel → LiveChannel}
    (h : l.channels[n]? = some c) (hfg : f c = g c) : l.modify n f = l.modify n g := by
  unfold modify
  rw [h]
  simp only [hfg]

/-- A channel keeps its owner when its other parts change. -/
theorem owner?_modify (hf : ∀ c, (f c).consumer = c.consumer) :
    (l.modify n f).owner? m = l.owner? m := by
  rw [owner?, channels_modify, owner?]
  split
  · cases l.channels[m]? <;> simp [hf]
  · rfl

/-- A channel keeps its queue when neither its buffer nor the pushes that wait change. -/
theorem queue_modify_of_frames (hf : ∀ c, (f c).frames = c.frames) :
    (l.modify n f).queue m = l.queue m := by
  rw [queue, channels_modify, queue]
  split
  · cases l.channels[m]? <;> simp [hf]
  · rfl

end Modify

end LiveChannels

end ServiceBroker
