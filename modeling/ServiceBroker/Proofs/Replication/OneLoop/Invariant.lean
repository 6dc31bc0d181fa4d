import ServiceBroker.Proofs.Replication.OneLoop.BusSteps

/-!
# One loop for each replica

Replicas on one bus, of which none has two loops running, have received messages that the bus has
accepted, each of them at most once and in this order.

- `ReplicaGroup.Pauses`: what becomes of a group while none of its loops goes on;
- `Journal.Exclusive`: no replica has two loops running, and what a loop has received and what it
  will find were accepted in this order;
- `Journal.Exclusive.frame`, `Journal.Exclusive.spawn`: the invariant is kept when no loop goes on,
  and when one starts for a replica that has none.
-/

namespace ServiceBroker

/-! ## Groups on a bus -/

/-- No loop of the replica is running. -/
def ReplicaGroup.AtRest (g : ReplicaGroup) (i : Nat) : Prop :=
  ∀ l ∈ g.loops, l.replica = i → l.isRunning = false

instance (g : ReplicaGroup) (i : Nat) : Decidable (g.AtRest i) :=
  inferInstanceAs (Decidable (∀ l ∈ g.loops, l.replica = i → l.isRunning = false))

namespace ReplicaGroup

/-- What can become of a group while none of its loops goes on: no message is handled, but signals
may be raised and replicas added. -/
structure Pauses (g g' : ReplicaGroup) : Prop where
  loops : g'.loops = g.loops
  size_le : g.members.size ≤ g'.members.size
  idle : ∀ i, i < g.members.size → (g.member i).sync.Idle (g'.member i).sync
  signal : ∀ i, (g'.member i).signal = (g.member i).signal ∨
    (g'.member i).signal = (g.member i).signal.set true

variable {g g' : ReplicaGroup} {i : Nat}

theorem member_congr (h : g'.members = g.members) (i : Nat) : g'.member i = g.member i := by
  rw [member, h, ← member]

theorem pauses_of_eq (hloops : g'.loops = g.loops) (hmembers : g'.members = g.members) :
    g.Pauses g' where
  loops := hloops
  size_le := hmembers ▸ le_rfl
  idle i _ := .of_eq (congrArg (·.sync) (member_congr hmembers i))
  signal i := .inl (congrArg (·.signal) (member_congr hmembers i))

/-- One replica changes, but handles nothing. -/
theorem pauses_of_set {m : Member} (hloops : g'.loops = g.loops)
    (hmembers : g'.members = g.members.setIfInBounds i m) (hidle : (g.member i).sync.Idle m.sync)
    (hsignal : m.signal = (g.member i).signal ∨ m.signal = (g.member i).signal.set true) :
    g.Pauses g' := by
  have hmember (k : Nat) : g'.member k = (g.setMember i m).member k := member_congr hmembers k
  refine ⟨hloops, hmembers ▸ Array.size_setIfInBounds.ge, fun k _ => ?_, fun k => ?_⟩
  all_goals
    rw [hmember, member_setMember]
    split
  · next hik => exact hik.1 ▸ hidle
  · exact .refl _
  · next hik => exact hik.1 ▸ hsignal
  · exact .inl rfl

end ReplicaGroup

namespace Journal

open ConsumeLoop (Distinct Heeds ActsOn)

/-- The messages that were accepted on the topic of a replica. -/
def acceptedFor (accepted : List BusMessage) (g : ReplicaGroup) (i : Nat) : List BusMessage :=
  accepted.filter (·.topic = (g.member i).sync.config.topic)

/-- What the loop has received and what it will find was accepted in this order, each message
once. -/
structure Follows (bus : InMemoryBus) (accepted : List BusMessage) (j : Journal)
    (l : ConsumeLoop) : Prop where
  replica_lt : l.replica < j.group.members.size
  heeds : l.Heeds (j.group.member l.replica).signal
  finds : ∀ s, l.state = .listening s → s.topic = (j.group.member l.replica).sync.config.topic ∧
    ∃ unread, bus.Holds s unread ∧
      (j.receivedBy l.replica ++ unread).Sublist (acceptedFor accepted j.group l.replica)

/-- No replica on the bus has two loops running, and each has received messages that were accepted,
each once. -/
structure Exclusive (bus : InMemoryBus) (accepted : List BusMessage) (j : Journal) : Prop where
  onBus : j.group.OnBus bus
  sound : bus.Sound
  received_lt : ∀ p ∈ j.received, p.1 < j.group.members.size
  quiet : ∀ i, (j.group.member i).signal.version = 0 → (j.group.member i).signal.raised = false
  distinct : j.group.loops.Pairwise Distinct
  follows : ∀ l ∈ j.group.loops, Follows bus accepted j l
  once : ∀ i, (j.receivedBy i).Sublist (acceptedFor accepted j.group i)

variable {bus bus' : InMemoryBus} {accepted new : List BusMessage} {j : Journal} {g : ReplicaGroup}
  {i : Nat}

theorem acceptedFor_congr {g' : ReplicaGroup}
    (h : (g.member i).sync.config = (g'.member i).sync.config) :
    acceptedFor accepted g i = acceptedFor accepted g' i := by
  rw [acceptedFor, h, ← acceptedFor]

theorem receivedBy_eq_nil (h : ∀ p ∈ j.received, p.1 < j.group.members.size)
    (hi : j.group.members.size ≤ i) : j.receivedBy i = [] := by
  rw [receivedBy, List.filterMap_eq_nil_iff]
  rintro ⟨k, m⟩ hp
  exact if_neg (Nat.ne_of_lt (Nat.lt_of_lt_of_le (h _ hp) hi))

/-- A group on a bus is placed there. -/
theorem Exclusive.placed (h : Exclusive bus accepted j) : j.group.Placed where
  replica_lt l hl := (h.follows l hl).replica_lt
  transport_lt i hi := by
    rw [h.onBus.member_transport, h.onBus.transports_eq]
    exact Nat.zero_lt_one

/-! ### When no loop goes on -/

/-- The invariant is kept while messages are accepted that are unread for the subscriptions to their
topics. -/
theorem Exclusive.frame (h : Exclusive bus accepted j) (hpauses : j.group.Pauses g)
    (honBus : g.OnBus bus') (hsound : bus'.Sound)
    (hholds : ∀ s unread, bus.Holds s unread →
      bus'.Holds s (unread ++ new.filter (·.topic = s.topic))) :
    Exclusive bus' (accepted ++ new) ⟨g, j.received⟩ := by
  obtain ⟨hloops, hsize, hidle, hsignal⟩ := hpauses
  have haccepted (i : Nat) (hi : i < j.group.members.size) :
      acceptedFor (accepted ++ new) g i = acceptedFor accepted j.group i ++
        new.filter (·.topic = (j.group.member i).sync.config.topic) := by
    rw [acceptedFor, (hidle i hi).config, List.filter_append, ← acceptedFor]
  constructor
  case onBus => exact honBus
  case sound => exact hsound
  case received_lt => exact fun p hp => Nat.lt_of_lt_of_le (h.received_lt p hp) hsize
  case quiet =>
    intro i
    rcases hsignal i with hsame | hset
    · rw [hsame]
      exact h.quiet i
    · -- a signal counts how often it was set
      rw [hset]
      intro hzero
      cases hzero
  case distinct => exact hloops ▸ h.distinct
  case follows =>
    intro l hl
    have hfollows := h.follows l (hloops ▸ hl)
    have hlt := hfollows.replica_lt
    refine ⟨Nat.lt_of_lt_of_le hlt hsize, ?_, fun s hs => ?_⟩
    · rcases hsignal l.replica with hsame | hset
      · rw [hsame]
        exact hfollows.heeds
      · rw [hset]
        exact hfollows.heeds.set true
    · obtain ⟨htopic, unread, hunread, hsublist⟩ := hfollows.finds s hs
      refine ⟨by rw [(hidle _ hlt).config, htopic], _, hholds s unread hunread, ?_⟩
      rw [haccepted _ hlt, ← htopic, ← List.append_assoc]
      exact hsublist.append (.refl _)
  case once =>
    intro i
    show (j.receivedBy i).Sublist _
    -- a replica that is added may be on another topic, but has received nothing yet
    rcases Nat.lt_or_ge i j.group.members.size with hi | hi
    · rw [haccepted i hi]
      exact (h.once i).trans (List.sublist_append_left ..)
    · rw [receivedBy_eq_nil h.received_lt hi]
      exact List.nil_sublist _

/-- The invariant is kept while nothing is accepted. -/
theorem Exclusive.frame_nil (h : Exclusive bus accepted j) (hpauses : j.group.Pauses g)
    (honBus : g.OnBus bus') (hsound : bus'.Sound)
    (hholds : ∀ s unread, bus.Holds s unread → bus'.Holds s unread) :
    Exclusive bus' accepted ⟨g, j.received⟩ := by
  have hframe : Exclusive bus' (accepted ++ []) ⟨g, j.received⟩ :=
    h.frame hpauses honBus hsound fun s unread hunread => by
      simpa using hholds s unread hunread
  rwa [List.append_nil] at hframe

/-- Loops may be put in another order and forgotten. -/
theorem Exclusive.arrange (h : Exclusive bus accepted j) {loops : List ConsumeLoop}
    (hsubperm : loops.Subperm j.group.loops) :
    Exclusive bus accepted { j with group := { j.group with loops } } := by
  refine ⟨⟨h.onBus.transports_eq, h.onBus.transport_eq⟩, h.sound, h.received_lt, h.quiet, ?_,
    fun l hl => ?_, h.once⟩
  · obtain ⟨loops', hperm, hsublist⟩ := hsubperm
    exact (h.distinct.sublist hsublist).perm hperm fun hdistinct => hdistinct.symm
  · have hfollows := h.follows l (hsubperm.subset hl)
    exact ⟨hfollows.replica_lt, hfollows.heeds, hfollows.finds⟩

/-- One more loop. -/
theorem Exclusive.addLoop (h : Exclusive bus accepted j) {l : ConsumeLoop}
    (hdistinct : ∀ l₁ ∈ j.group.loops, l₁.Distinct l) (hfollows : Follows bus accepted j l)
    (nextLoop : Nat) :
    Exclusive bus accepted
      { j with group := { j.group with loops := j.group.loops ++ [l], nextLoop } } := by
  refine ⟨⟨h.onBus.transports_eq, h.onBus.transport_eq⟩, h.sound, h.received_lt, h.quiet, ?_,
    fun l₁ h₁ => ?_, h.once⟩
  · refine List.pairwise_append.mpr ⟨h.distinct, List.pairwise_singleton .., fun l₁ h₁ l₂ h₂ => ?_⟩
    rw [List.mem_singleton.mp h₂]
    exact hdistinct l₁ h₁
  · obtain h₁ | h₁ := List.mem_append.mp h₁
    · have hold := h.follows l₁ h₁
      exact ⟨hold.replica_lt, hold.heeds, hold.finds⟩
    · rw [List.mem_singleton.mp h₁]
      exact ⟨hfollows.replica_lt, hfollows.heeds, hfollows.finds⟩

/-- A loop starts for a replica that has none running, unless the bus is closed. -/
theorem Exclusive.spawn (h : Exclusive bus accepted j) (hi : i < j.group.members.size)
    (hrest : j.group.AtRest i) :
    ∃ bus', Exclusive bus' accepted { j with group := (j.group.spawn i).2 } ∧
      (bus.closed = true → bus' = bus ∧ (j.group.spawn i).2.loops = j.group.loops) := by
  simp only [ReplicaGroup.spawn, h.onBus.transport, Transport.subscribe]
  cases hsubscribe : bus.subscribe (j.group.member i).sync.config.topic with
  | error e =>
    refine ⟨bus, ?_, fun _ => ⟨rfl, rfl⟩⟩
    exact h.frame_nil (ReplicaGroup.pauses_of_eq rfl rfl) (h.onBus.setTransport i bus) h.sound
      fun _ _ hholds => hholds
  | ok result =>
    obtain ⟨s, bus'⟩ := result
    obtain ⟨hopen, hs, -⟩ := InMemoryBus.subscribe_eq_ok hsubscribe
    -- the loops that are there do not notice the new subscription
    have hpauses : j.group.Pauses (ReplicaGroup.setMember { j.group with
        transports := j.group.transports.setIfInBounds (j.group.member i).transport (.memory bus') }
        i { j.group.member i with latest := some j.group.nextLoop }) :=
      ReplicaGroup.pauses_of_set rfl rfl (.refl _) (.inl rfl)
    have hframe := h.frame_nil hpauses
      ((h.onBus.setTransport i bus').setMember i (h.onBus.member_transport i))
      (h.sound.subscribe hsubscribe) fun s unread hholds => hholds.subscribe h.sound hsubscribe
    refine ⟨bus', hframe.addLoop (fun l₁ h₁ => ⟨fun hrunning _ heq => ?_, fun s₁ hs₁ hs₂ => ?_⟩)
      ⟨?_, ⟨Nat.zero_le _, fun heq => hframe.quiet _ heq.symm⟩, ?_⟩ _, fun hclosed => ?_⟩
    · rw [hrest l₁ h₁ heq] at hrunning
      cases hrunning
    · -- the new subscription has a number that no other one has
      obtain ⟨-, unread, hholds, -⟩ := (h.follows l₁ h₁).finds s₁ hs₁
      obtain rfl := LoopState.listening.inj hs₂
      have hlt := hholds.reader_lt h.sound
      rw [hs] at hlt
      exact Nat.lt_irrefl _ hlt
    · exact (ReplicaGroup.size_members_setMember ..).symm ▸ hi
    · rintro _ ⟨⟩
      refine ⟨?_, [], h.sound.holds_nil hsubscribe, ?_⟩
      · rw [hs]
        exact (congrArg (·.topic) (hpauses.idle i hi).config).symm
      · rw [List.append_nil]
        exact hframe.once i
    · rw [hopen] at hclosed
      cases hclosed

end Journal

end ServiceBroker
