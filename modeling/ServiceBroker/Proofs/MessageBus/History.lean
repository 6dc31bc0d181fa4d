import ServiceBroker.Proofs.MessageBus.Unread

/-!
# Histories of a bus

To say what a subscription receives, whatever is done with a bus, a `History` notes beside the bus
what it has accepted and, for every open subscription, what that has received and what is unread.

## Main definitions

* `InMemoryBus.Operation`: what the users of a bus can do, at any time and in any order;
* `InMemoryBus.History`: a bus, what it has accepted and the mailboxes of its open subscriptions;
* `InMemoryBus.History.Tracks`: what is noted about a bus is so.

## Main results

* `InMemoryBus.History.Tracks.step`: every operation keeps the notes true;
* `InMemoryBus.History.tracks_run`: the notes agree with the bus.
-/

namespace ServiceBroker.InMemoryBus

/-! ## Histories of a bus -/

/-- What the users of a bus can do. -/
inductive Operation where
  | subscribe (topic : String)
  | unsubscribe (s : BusSubscription)
  | publish (topic key : String) (payload : Bytes)
  | receive (s : BusSubscription)
  | close
deriving DecidableEq

/-- An open subscription and its messages. -/
structure Mailbox where
  /-- The subscription. -/
  subscription : BusSubscription
  /-- How many messages the bus had accepted, on any topic, when the subscription was opened. -/
  since : Nat
  /-- What the subscription has received. -/
  received : List BusMessage := []
  /-- What was accepted on its topic after the message that it received last. -/
  unread : List BusMessage := []

namespace Mailbox

/-- What was accepted on the topic of the subscription since it was opened. -/
def mail (box : Mailbox) (accepted : List BusMessage) : List BusMessage :=
  (accepted.drop box.since).filter (·.topic = box.subscription.topic)

/-- A message was accepted. -/
def post (m : BusMessage) (box : Mailbox) : Mailbox :=
  if m.topic = box.subscription.topic then { box with unread := box.unread ++ [m] } else box

/-- A subscription was read. Those of its unread messages that were not kept are passed over. -/
def take (size : Nat) (s : BusSubscription) (found : Received BusMessage) (box : Mailbox) :
    Mailbox :=
  match found with
  | .message m =>
    if box.subscription = s then
      { box with received := box.received ++ [m], unread := (box.unread.rtake size).tail }
    else box
  | .pending => box
  | .closed => box

/-- All that the subscription will have received in the end if nothing more is accepted. -/
def final (size : Nat) (box : Mailbox) : List BusMessage := box.received ++ box.unread.rtake size

end Mailbox

/-- A bus, with notes about what was done with it. -/
structure History where
  /-- The bus. -/
  bus : InMemoryBus
  /-- The messages that it has accepted, in the order of their publication. -/
  accepted : List BusMessage := []
  /-- The subscriptions that are open. -/
  mailboxes : List Mailbox := []

namespace History

/-- Performs an operation and notes what has come of it. -/
def step (h : History) : Operation → History
  | .subscribe topic =>
    match h.bus.subscribe topic with
    | .ok (s, bus) =>
      { h with bus, mailboxes := { subscription := s, since := h.accepted.length } :: h.mailboxes }
    | .error _ => h
  | .unsubscribe s =>
    { h with
      bus := h.bus.unsubscribe s
      mailboxes := h.mailboxes.filter (·.subscription ≠ s) }
  | .publish topic key payload =>
    match h.bus.publish topic key payload with
    | .ok (_, bus) =>
      { bus
        accepted := h.accepted ++ [⟨topic, key, payload⟩]
        mailboxes := h.mailboxes.map (·.post ⟨topic, key, payload⟩) }
    | .error _ => h
  | .receive s =>
    { h with
      bus := (h.bus.receive s).2
      mailboxes := h.mailboxes.map (·.take h.bus.keeps s (h.bus.receive s).1) }
  | .close => { h with bus := h.bus.close }

/-- What comes of a series of operations. -/
def after (h : History) (ops : List Operation) : History := ops.foldl step h

/-- What comes of a series of operations on a new bus. -/
def run (config : BusConfig) (ops : List Operation) : History :=
  after { bus := { config } } ops

/-! ## The notes agree with the bus -/

/-- What is noted about a bus is so. -/
structure Tracks (h : History) : Prop where
  sound : h.bus.Sound
  nodup : (h.mailboxes.map (·.subscription)).Nodup
  isOpen : ∀ s, h.bus.IsOpen s ↔ s ∈ h.mailboxes.map (·.subscription)
  holds : ∀ box ∈ h.mailboxes, h.bus.Holds box.subscription box.unread
  since_le : ∀ box ∈ h.mailboxes, box.since ≤ h.accepted.length
  mail : ∀ box ∈ h.mailboxes,
    ∃ past, past ++ box.unread = box.mail h.accepted ∧ box.received.Sublist past ∧
      past.getLast? = box.received.getLast?
  published : h.bus.published = h.accepted.length

variable {h : History} {topic key : String} {payload : Bytes} {s : BusSubscription}

@[simp]
theorem subscription_post (m : BusMessage) (box : Mailbox) :
    (box.post m).subscription = box.subscription := by
  unfold Mailbox.post
  split <;> rfl

@[simp]
theorem since_post (m : BusMessage) (box : Mailbox) : (box.post m).since = box.since := by
  unfold Mailbox.post
  split <;> rfl

@[simp]
theorem received_post (m : BusMessage) (box : Mailbox) :
    (box.post m).received = box.received := by
  unfold Mailbox.post
  split <;> rfl

/-- What is accepted is unread for the subscriptions to its topic. -/
theorem unread_post (m : BusMessage) (box : Mailbox) : (box.post m).unread =
    if m.topic = box.subscription.topic then box.unread ++ [m] else box.unread := by
  unfold Mailbox.post
  split <;> rfl

/-- A mailbox stays that of its subscription. -/
@[simp]
theorem subscription_take (size : Nat) (s : BusSubscription) (found : Received BusMessage)
    (box : Mailbox) : (box.take size s found).subscription = box.subscription := by
  unfold Mailbox.take
  cases found with
  | message m => dsimp only; split <;> rfl
  | pending | closed => rfl

@[simp]
theorem since_take (size : Nat) (s : BusSubscription) (found : Received BusMessage)
    (box : Mailbox) : (box.take size s found).since = box.since := by
  unfold Mailbox.take
  cases found with
  | message m => dsimp only; split <;> rfl
  | pending | closed => rfl

/-- A subscription that is read leaves the mailboxes of the others alone. -/
theorem take_of_ne {size : Nat} {found : Received BusMessage} {box : Mailbox}
    (hne : s ≠ box.subscription) : box.take size s found = box := by
  unfold Mailbox.take
  cases found with
  | message m => exact if_neg hne.symm
  | pending | closed => rfl

/-- Reading a subscription takes the first of its last unread messages, if there is one. -/
theorem Tracks.take_self (ht : h.Tracks) {box : Mailbox} (hbox : box ∈ h.mailboxes) :
    (box.unread.rtake h.bus.keeps = [] ∧
        box.take h.bus.keeps box.subscription (h.bus.receive box.subscription).1 = box ∧
        (h.bus.receive box.subscription).2.Holds box.subscription box.unread) ∨
      ∃ m rest, box.unread.rtake h.bus.keeps = m :: rest ∧
        box.take h.bus.keeps box.subscription (h.bus.receive box.subscription).1 =
          { box with received := box.received ++ [m], unread := rest } ∧
        (h.bus.receive box.subscription).2.Holds box.subscription rest := by
  rcases (ht.holds box hbox).receive_self ht.sound with
    ⟨hnil, hended, hrest⟩ | ⟨m, rest, hcons, hmessage, hrest⟩
  · left
    refine ⟨hnil, ?_, hrest⟩
    rw [hended, atEnd]
    split <;> rfl
  · right
    refine ⟨m, rest, hcons, ?_, hrest⟩
    -- the message is the first of those that are kept, so that the tail is what remains
    rw [hmessage, Mailbox.take, if_pos rfl, hcons, List.tail_cons]

/-- There is nothing to note about a new bus. -/
private theorem tracks_new (config : BusConfig) : Tracks { bus := { config } } where
  sound := sound_new config
  nodup := List.nodup_nil
  isOpen s := by simp [IsOpen]
  holds box hbox := by cases hbox
  since_le box hbox := by cases hbox
  mail box hbox := by cases hbox
  published := rfl

/-- A subscription that is opened gets a mailbox of its own. -/
theorem Tracks.subscribe (ht : h.Tracks) (topic : String) : (h.step (.subscribe topic)).Tracks := by
  rw [step]
  split
  next s bus heq =>
    have hisOpen (s' : BusSubscription) : bus.IsOpen s' ↔
        s' = s ∨ s' ∈ h.mailboxes.map (·.subscription) := by
      rw [isOpen_subscribe heq, ht.isOpen]
    -- the number of the new subscription has not been given away before
    have hnew : s ∉ h.mailboxes.map (·.subscription) := by
      intro hmem
      obtain ⟨box, hbox, rfl⟩ := List.mem_map.mp hmem
      have hlt := (ht.holds box hbox).reader_lt ht.sound
      rw [(subscribe_eq_ok heq).2.1] at hlt
      exact Nat.lt_irrefl _ hlt
    -- its mailbox is empty, and those of the others stay as they are
    constructor
    case sound => exact ht.sound.subscribe heq
    case nodup =>
      rw [List.map_cons, List.nodup_cons]
      exact ⟨hnew, ht.nodup⟩
    case isOpen =>
      intro s'
      rw [List.map_cons, List.mem_cons]
      exact hisOpen s'
    case holds =>
      intro box hbox
      rcases List.mem_cons.mp hbox with rfl | hbox
      · exact ht.sound.holds_nil heq
      · exact (ht.holds box hbox).subscribe ht.sound heq
    case since_le =>
      intro box hbox
      rcases List.mem_cons.mp hbox with rfl | hbox
      · exact le_rfl
      · exact ht.since_le box hbox
    case mail =>
      intro box hbox
      rcases List.mem_cons.mp hbox with rfl | hbox
      · refine ⟨[], ?_, List.nil_sublist _, rfl⟩
        rw [Mailbox.mail, List.drop_length, List.filter_nil]
        rfl
      · exact ht.mail box hbox
    case published =>
      obtain ⟨-, -, rfl⟩ := subscribe_eq_ok heq
      exact ht.published
  next => exact ht

/-- A subscription that is given up takes its mailbox with it. -/
theorem Tracks.unsubscribe (ht : h.Tracks) (s : BusSubscription) :
    (h.step (.unsubscribe s)).Tracks := by
  -- mailboxes are taken away, and none of those that stay changes
  have hsublist : (h.mailboxes.filter (·.subscription ≠ s)).Sublist h.mailboxes :=
    List.filter_sublist
  constructor
  case sound => exact ht.sound.unsubscribe s
  case nodup => exact ht.nodup.sublist (hsublist.map _)
  case isOpen =>
    intro s'
    show (h.bus.unsubscribe s).IsOpen s' ↔ _
    rw [isOpen_unsubscribe, ht.isOpen]
    simp only [step, List.mem_map, List.mem_filter, decide_eq_true_eq]
    constructor
    · rintro ⟨hne, box, hbox, rfl⟩
      exact ⟨box, ⟨hbox, hne⟩, rfl⟩
    · rintro ⟨box, ⟨hbox, hne⟩, rfl⟩
      exact ⟨hne, box, hbox, rfl⟩
  case holds =>
    intro box hbox
    obtain ⟨hbox, hne⟩ := List.mem_filter.mp hbox
    exact (ht.holds box hbox).unsubscribe (of_decide_eq_true hne).symm
  case since_le => exact fun box hbox => ht.since_le box (hsublist.subset hbox)
  case mail => exact fun box hbox => ht.mail box (hsublist.subset hbox)
  case published => exact (published_unsubscribe h.bus s).trans ht.published

/-- A message that is accepted goes to the mailboxes on its topic. -/
theorem Tracks.publish (ht : h.Tracks) (topic key : String) (payload : Bytes) :
    (h.step (.publish topic key payload)).Tracks := by
  rw [step]
  split
  next n bus heq =>
    have hsubscriptions : (h.mailboxes.map (·.post ⟨topic, key, payload⟩)).map (·.subscription) =
        h.mailboxes.map (·.subscription) := by
      rw [List.map_map]
      exact List.map_congr_left fun box _ => subscription_post _ box
    constructor
    case sound => exact ht.sound.publish heq
    case nodup =>
      rw [hsubscriptions]
      exact ht.nodup
    case isOpen =>
      intro s
      rw [hsubscriptions, isOpen_publish heq]
      exact ht.isOpen s
    case holds =>
      intro _ hmem
      obtain ⟨box, hbox, rfl⟩ := List.mem_map.mp hmem
      rw [subscription_post, unread_post]
      exact (ht.holds box hbox).publish heq
    case since_le =>
      intro _ hmem
      obtain ⟨box, hbox, rfl⟩ := List.mem_map.mp hmem
      rw [since_post, List.length_append]
      exact Nat.le_add_right_of_le (ht.since_le box hbox)
    case mail =>
      intro _ hmem
      obtain ⟨box, hbox, rfl⟩ := List.mem_map.mp hmem
      obtain ⟨past, hpast, hreceived⟩ := ht.mail box hbox
      rw [← received_post ⟨topic, key, payload⟩ box] at hreceived
      refine ⟨past, ?_, hreceived⟩
      rw [Mailbox.mail, since_post, subscription_post,
        List.drop_append_of_le_length (ht.since_le box hbox), List.filter_append, unread_post]
      change _ = box.mail h.accepted ++ _
      rw [← hpast]
      -- the message goes to the end of the mail if it is on the topic
      by_cases htopic : topic = box.subscription.topic
      · simp [htopic]
      · simp [htopic]
    case published =>
      rw [List.length_append, ← ht.published]
      obtain ⟨-, -, -, rfl⟩ := publish_eq_ok_iff.mp heq
      rfl
  next => exact ht

/-- Receiving takes from the mailbox of the subscription, and from no other. -/
theorem Tracks.receive (ht : h.Tracks) (s : BusSubscription) : (h.step (.receive s)).Tracks := by
  have hsubscriptions : (h.mailboxes.map (·.take h.bus.keeps s (h.bus.receive s).1)).map
      (·.subscription) = h.mailboxes.map (·.subscription) := by
    rw [List.map_map]
    exact List.map_congr_left fun box _ => subscription_take _ s _ box
  constructor
  case sound => exact ht.sound.receive s
  case nodup =>
    show ((h.mailboxes.map _).map _).Nodup
    rw [hsubscriptions]
    exact ht.nodup
  case isOpen =>
    intro s'
    show (h.bus.receive s).2.IsOpen s' ↔ s' ∈ (h.mailboxes.map _).map _
    rw [hsubscriptions, isOpen_receive]
    exact ht.isOpen s'
  case holds =>
    intro _ hmem
    obtain ⟨box, hbox, rfl⟩ := List.mem_map.mp hmem
    rw [subscription_take]
    by_cases hself : s = box.subscription
    · subst hself
      rcases ht.take_self hbox with ⟨-, htake, hrest⟩ | ⟨m, rest, -, htake, hrest⟩
      · rw [htake]
        exact hrest
      · rw [htake]
        exact hrest
    · rw [take_of_ne hself]
      exact (ht.holds box hbox).receive hself
  case since_le =>
    intro _ hmem
    obtain ⟨box, hbox, rfl⟩ := List.mem_map.mp hmem
    rw [since_take]
    exact ht.since_le box hbox
  case mail =>
    intro _ hmem
    obtain ⟨box, hbox, rfl⟩ := List.mem_map.mp hmem
    obtain ⟨past, hpast, hreceived, hlast⟩ := ht.mail box hbox
    by_cases hself : s = box.subscription
    · subst hself
      rcases ht.take_self hbox with ⟨-, htake, -⟩ | ⟨m, rest, hcons, htake, -⟩
      · rw [htake]
        exact ⟨past, hpast, hreceived, hlast⟩
      · rw [htake]
        -- what was not kept is passed over, and then comes the message that was received
        let passed := box.unread.take (box.unread.length - h.bus.keeps)
        have hunread : passed ++ m :: rest = box.unread := by
          rw [← hcons]
          exact List.take_append_drop ..
        refine ⟨past ++ passed ++ [m], ?_, ?_, ?_⟩
        · rw [List.append_assoc, List.append_assoc, List.singleton_append, hunread]
          exact hpast
        · exact (hreceived.trans (List.sublist_append_left past passed)).append (.refl [m])
        · rw [List.getLast?_concat, List.getLast?_concat]
    · rw [take_of_ne hself]
      exact ⟨past, hpast, hreceived, hlast⟩
  case published => exact (published_receive h.bus s).trans ht.published

theorem Tracks.close (ht : h.Tracks) : (h.step .close).Tracks where
  sound := ht.sound.close
  nodup := ht.nodup
  isOpen s := isOpen_close.trans (ht.isOpen s)
  holds box hbox := (ht.holds box hbox).close
  since_le := ht.since_le
  mail := ht.mail
  published := ht.published

/-- Every operation keeps the notes true. -/
theorem Tracks.step (ht : h.Tracks) (op : Operation) : (h.step op).Tracks := by
  cases op with
  | subscribe topic => exact ht.subscribe topic
  | unsubscribe s => exact ht.unsubscribe s
  | publish topic key payload => exact ht.publish topic key payload
  | receive s => exact ht.receive s
  | close => exact ht.close

theorem Tracks.after (ht : h.Tracks) (ops : List Operation) : (h.after ops).Tracks := by
  induction ops generalizing h with
  | nil => exact ht
  | cons op ops ih => exact ih (ht.step op)

/-- What is noted of a bus is so, whatever has been done with it. -/
theorem tracks_run (config : BusConfig) (ops : List Operation) : (run config ops).Tracks :=
  (tracks_new config).after ops

end History

end ServiceBroker.InMemoryBus
