import ServiceBroker.Proofs.Delivery.Reports
import ServiceBroker.Proofs.SubscriptionIndex.Operations

/-!
# Traffic of one replica

Everything that bears on notifications at one replica, at the grain at which tasks take turns:
consumers subscribe, connect and read, producers push, and every single push of every notification
goes its own way. It first takes a handle to the live channel of its consumer, then sends its frame
through it, then waits if it has to; others may move in between.

- `Push.act`: one action of one push;
- `Traffic.move`: one move of anybody;
- `Traffic.IsReachable`: some run from start-up leads here.

Times are in milliseconds.
-/

namespace ServiceBroker

/-! ## Pushes -/

/-- A notification that a producer has pushed. -/
structure Post where
  /-- Who pushed it. -/
  producer : Urn
  /-- What was pushed. -/
  notification : Notification
  /-- The subscriptions by which it was matched. -/
  index : SubscriptionIndex

namespace Post

/-- The frame that carries the notification. -/
def frame (p : Post) : Bytes := (p.notification.envelope p.producer).frame

/-- The class of the notification. -/
def key (p : Post) : Descriptor.Key := p.notification.descriptor.key

/-- The consumers that were matched. -/
def consumers (p : Post) : List Urn := p.index.subscribers p.producer p.key

/-- The consumer held a descriptor of the class, for the namespace of the producer or for the
producer itself, when the notification was matched. -/
def AskedBy (p : Post) (consumer : Urn) : Prop :=
  p.key ∈ p.index.held consumer (.namespaceWide p.producer.ns) ∨
    p.key ∈ p.index.held consumer (.service p.producer.ns p.producer.id)

instance (p : Post) (consumer : Urn) : Decidable (p.AskedBy consumer) :=
  inferInstanceAs (Decidable (_ ∨ _))

end Post

/-- How far a push to one consumer has come. -/
inductive Push.Stage where
  /-- Its consumer was matched. -/
  | matched
  /-- It has a handle to a connection and will send its frame there. -/
  | holds (connection : Nat)
  /-- It waits for a slot until a time. -/
  | waits (ticket : Ticket) (deadline : Nat)
  /-- It is over; its frame was sent to a connection or to none, and its result was reported, unless
  it was abandoned. -/
  | over (connection? : Option Nat) (report? : Option PushResult)
deriving DecidableEq, Repr

/-- The connection to which the frame was sent. -/
def Push.Stage.sentTo? : Push.Stage → Option Nat
  | .waits ticket _ => some ticket.connection
  | .over connection? _ => connection?
  | _ => none

/-- The push is under way and may still be accepted by the connection. -/
def Push.Stage.IsUnderWay (connection : Nat) : Push.Stage → Prop
  | .holds n => n = connection
  | .waits ticket _ => ticket.connection = connection
  | _ => False

instance (connection : Nat) : (stage : Push.Stage) → Decidable (stage.IsUnderWay connection)
  | .holds n => inferInstanceAs (Decidable (n = connection))
  | .waits ticket _ => inferInstanceAs (Decidable (ticket.connection = connection))
  | .matched | .over _ _ => isFalse id

/-- The push of a frame to one consumer. -/
structure Push where
  consumer : Urn
  frame : Bytes
  stage : Push.Stage := .matched

/-- The pushes of a notification, one to each consumer that was matched. -/
def Post.pushes (p : Post) : List Push :=
  p.consumers.map fun consumer => { consumer, frame := p.frame }

/-- Nothing has happened yet to the pushes of a notification. -/
theorem Post.stage_of_mem_pushes {p : Post} {push : Push} (h : push ∈ p.pushes) :
    push.stage = .matched := by
  obtain ⟨consumer, -, rfl⟩ := List.mem_map.mp h
  rfl

/-- What a push can do. -/
inductive Push.Action where
  /-- It takes a handle to the live channel of its consumer. -/
  | seek
  /-- It sends its frame. -/
  | send
  /-- It looks whether its frame was accepted, and gives up when its time is over. -/
  | look
  /-- It is given up together with its request. -/
  | abandon
deriving DecidableEq, Repr

namespace Push

/-- An action of a push that may wait for `patience` milliseconds: its stage then, and the live
channels. An action that is not up next does nothing. -/
def act (push : Push) (now patience : Nat) (channels : LiveChannels) :
    Action → Stage × LiveChannels
  | .seek =>
    match push.stage with
    | .matched =>
      match channels.hold push.consumer with
      | none => (.over none (some (some .notConnected)), channels)
      | some (connection, channels) => (.holds connection, channels)
    | stage => (stage, channels)
  | .send =>
    match push.stage with
    | .holds connection =>
      match channels.pushTo connection push.frame with
      | (.ended result, channels) =>
        (.over (some connection) (some result), channels.release connection)
      | (.waits ticket, channels) =>
        (.waits ticket (now + patience), channels.release connection)
    | stage => (stage, channels)
  | .look =>
    match push.stage with
    | .waits ticket deadline =>
      match Dispatch.settlePush deadline now (.waits ticket) channels with
      | (.ended result, channels) => (.over (some ticket.connection) (some result), channels)
      | (_, channels) => (.waits ticket deadline, channels)
    | stage => (stage, channels)
  | .abandon =>
    match push.stage with
    | .matched => (.over none none, channels)
    | .holds connection => (.over none none, channels.release connection)
    | .waits ticket _ => (.over (some ticket.connection) none, channels.cancel ticket)
    | stage => (stage, channels)

end Push

/-! ## Moves -/

/-- A frame that was received. -/
structure Reception where
  /-- The connection by which it came. -/
  connection : Nat
  /-- The consumer that got it. -/
  consumer : Urn
  frame : Bytes
deriving DecidableEq

/-- What bears on notifications at one replica, with all that has happened. -/
structure Traffic where
  /-- How long a push may wait. -/
  patience : Nat
  /-- Who asked for which notifications. -/
  index : SubscriptionIndex
  /-- The live channels. -/
  channels : LiveChannels
  /-- The time. -/
  now : Nat := 0
  /-- The notifications pushed so far. -/
  posts : List Post := []
  /-- The pushes to single consumers so far. -/
  pushes : List Push := []
  /-- The frames received so far. -/
  received : List Reception := []

/-- A move of somebody. -/
inductive Move where
  /-- A consumer changes its subscriptions. -/
  | subscription (operation : SubscriptionIndex.Operation)
  /-- A producer pushes a notification, which is matched. -/
  | post (producer : Urn) (notification : Notification)
  /-- The push at a place goes on. -/
  | push (place : Nat) (action : Push.Action)
  /-- A consumer opens a live channel. -/
  | connect (consumer : Urn)
  /-- A connection is dropped. -/
  | drop (connection : Nat)
  /-- A connection is read. -/
  | receive (connection : Nat)
  /-- Time passes. -/
  | advance (millis : Nat)

namespace Traffic

/-- No traffic yet. -/
def start (limit capacity patience : Nat) : Traffic :=
  { patience, index := .empty limit, channels := .ofCapacity capacity }

/-- The reception by which a read ends. -/
def reception (channels : LiveChannels) (connection : Nat) : Option Reception :=
  match (channels.receive connection).1, channels.owner? connection with
  | .message frame, some consumer => some ⟨connection, consumer, frame⟩
  | _, _ => none

/-- A move of somebody; one that is not possible changes nothing. -/
def move (t : Traffic) : Move → Traffic
  | .subscription operation => { t with index := (operation.perform t.index).2 }
  | .post producer notification =>
    let post : Post := ⟨producer, notification, t.index⟩
    { t with posts := t.posts ++ [post], pushes := t.pushes ++ post.pushes }
  | .push place action =>
    match t.pushes[place]? with
    | none => t
    | some push =>
      let acted := push.act t.now t.patience t.channels action
      { t with
        pushes := t.pushes.set place { push with stage := acted.1 }
        channels := acted.2 }
  | .connect consumer =>
    match t.channels.connect consumer with
    | none => t
    | some (_, channels) => { t with channels }
  | .drop connection => { t with channels := t.channels.drop connection }
  | .receive connection =>
    { t with
      channels := (t.channels.receive connection).2
      received := t.received ++ (reception t.channels connection).toList }
  | .advance millis => { t with now := t.now + millis }

/-- Some moves, one after the other. -/
def run (t : Traffic) (moves : List Move) : Traffic := moves.foldl move t

/-- Some run from start-up leads here. -/
def IsReachable (t : Traffic) : Prop :=
  ∃ limit capacity patience moves, t = (start limit capacity patience).run moves

/-- What is kept by every move is kept by every run. -/
theorem run_induction {P : Traffic → Prop} {t : Traffic} (h : P t)
    (hmove : ∀ t m, P t → P (t.move m)) (moves : List Move) : P (t.run moves) := by
  unfold run
  induction moves generalizing t with
  | nil => exact h
  | cons m moves ih => exact ih (hmove t m h)

theorem run_append (t : Traffic) (moves rest : List Move) :
    t.run (moves ++ rest) = (t.run moves).run rest := List.foldl_append

theorem run_concat (t : Traffic) (moves : List Move) (m : Move) :
    t.run (moves ++ [m]) = (t.run moves).move m := List.foldl_concat ..

theorem IsReachable.run {t : Traffic} (h : t.IsReachable) (moves : List Move) :
    (t.run moves).IsReachable := by
  obtain ⟨limit, capacity, patience, earlier, rfl⟩ := h
  exact ⟨limit, capacity, patience, earlier ++ moves, (run_append ..).symm⟩

/-- What holds at start-up and is kept by every move holds wherever a run may lead. -/
theorem IsReachable.induct {t : Traffic} {P : Traffic → Prop} (h : t.IsReachable)
    (hstart : ∀ limit capacity patience, P (start limit capacity patience))
    (hmove : ∀ t m, P t → P (t.move m)) : P t := by
  obtain ⟨limit, capacity, patience, moves, rfl⟩ := h
  exact run_induction (hstart limit capacity patience) hmove moves

/-- How long pushes may wait does not change. -/
theorem patience_move (t : Traffic) (m : Move) : (t.move m).patience = t.patience := by
  cases m with
  | push place action =>
    rw [move]
    split <;> rfl
  | connect consumer =>
    rw [move]
    split <;> rfl
  | subscription | post | drop | receive | advance => rfl

theorem patience_run (t : Traffic) (moves : List Move) : (t.run moves).patience = t.patience :=
  run_induction (P := fun later => later.patience = t.patience) rfl
    (fun later m h => (patience_move later m).trans h) moves

/-- A read gives the first frame of the buffer to the owner of the channel. -/
theorem reception_eq (l : LiveChannels) (n : Nat) :
    reception l n = (l.channels[n]?).bind fun c =>
      c.buffer.head?.map fun frame => ⟨n, c.consumer, frame⟩ := by
  rw [reception, LiveChannels.owner?]
  cases hc : l.channels[n]? with
  | none => simp [LiveChannels.receive_of_none hc]
  | some c =>
    cases hbuffer : c.buffer with
    | nil =>
      rw [Option.bind_some, hbuffer]
      split
      next hread _ => exact absurd hread (LiveChannels.receive_ne_message hc hbuffer)
      next => rfl
    | cons frame buffer =>
      rw [LiveChannels.receive_of_buffer hc hbuffer, Option.bind_some, hbuffer]
      rfl

/-- The frames that a consumer has received, over all of its connections. -/
def receivedBy (t : Traffic) (consumer : Urn) : List Bytes :=
  t.received.filterMap fun r => if r.consumer = consumer then some r.frame else none

section Set

variable {α β : Type} {l : List α} {k : Nat} {a b : α}

/-- A list with one element changed, taken apart at its place. -/
theorem exists_of_set (hk : l[k]? = some a) (b : α) :
    ∃ before after, l = before ++ a :: after ∧ l.set k b = before ++ b :: after := by
  obtain ⟨hlt, hget⟩ := List.getElem?_eq_some_iff.mp hk
  obtain ⟨before, after, hl, -, hset⟩ := List.exists_of_set hlt
  exact ⟨before, after, hget ▸ hl, hset⟩

/-- What stands at a place of two lists in a row stands in the one or in the other. -/
theorem getElem?_append_cases {l' : List α} (h : (l ++ l')[k]? = some a) :
    l[k]? = some a ∨ ∃ j, k = l.length + j ∧ l'[j]? = some a := by
  rcases Nat.lt_or_ge k l.length with hlt | hge
  · rw [List.getElem?_append_left hlt] at h
    exact .inl h
  · obtain ⟨j, rfl⟩ := Nat.exists_eq_add_of_le hge
    rw [List.getElem?_append_right hge, Nat.add_sub_cancel_left] at h
    exact .inr ⟨j, rfl, h⟩

theorem perm_filterMap_set {f : α → Option β} {y : β} (hk : l[k]? = some a) (ha : f a = none)
    (hb : f b = some y) : ((l.set k b).filterMap f).Perm (y :: l.filterMap f) := by
  obtain ⟨before, after, hl, hset⟩ := exists_of_set hk b
  rw [hset, hl]
  simp only [List.filterMap_append, List.filterMap_cons, ha, hb]
  exact List.perm_middle

theorem perm_filterMap_of_set {f : α → Option β} {y : β} (hk : l[k]? = some a) (ha : f a = some y)
    (hb : f b = none) : (l.filterMap f).Perm (y :: (l.set k b).filterMap f) := by
  obtain ⟨before, after, hl, hset⟩ := exists_of_set hk b
  rw [hset, hl]
  simp only [List.filterMap_append, List.filterMap_cons, ha, hb]
  exact List.perm_middle

theorem filterMap_set {f : α → Option β} (hk : l[k]? = some a) (hab : f b = f a) :
    (l.set k b).filterMap f = l.filterMap f := by
  obtain ⟨before, after, hl, hset⟩ := exists_of_set hk b
  rw [hset, hl]
  simp only [List.filterMap_append, List.filterMap_cons, hab]

end Set

end Traffic

end ServiceBroker
