import ServiceBroker.Proofs.MessageBus.Unread
import ServiceBroker.Proofs.Replication.Journal

/-!
# What the steps of a loop mean for the bus

A loop takes messages from its subscription, gives it up or opens a new one. Other subscriptions do
not notice it.

- `ConsumeLoop.ActsOn`: what one step of a loop means for the bus;
- `ConsumeLoop.Does.exists_actsOn`: every step means something of this kind;
- `ConsumeLoop.Distinct`, `ConsumeLoop.Heeds`: two loops that have nothing in common, and a loop
  that has seen of its signal what there was.
-/

namespace ServiceBroker

/-! ## Loops on a bus -/

namespace ConsumeLoop

variable {bus bus' : InMemoryBus} {topic : String} {l l' : ConsumeLoop} {taken : Option BusMessage}

/-- What one step of a loop that subscribes to a topic means for the bus. -/
structure ActsOn (topic : String) (bus : InMemoryBus) (l : ConsumeLoop)
    (taken : Option BusMessage) (bus' : InMemoryBus) (l' : ConsumeLoop) : Prop where
  sound : bus'.Sound
  closed : bus'.closed = bus.closed
  /-- Other subscriptions do not notice it. -/
  others : ∀ s unread, l.state ≠ .listening s → bus.Holds s unread → bus'.Holds s unread
  /-- The loop takes messages from its subscription, or has opened a new one. -/
  reads : ∀ s, l'.state = .listening s →
    (l.state = .listening s ∧ ∀ unread, bus.Holds s unread →
      ∃ rest, bus'.Holds s rest ∧ (taken.toList ++ rest).Sublist unread) ∨
    (taken = none ∧ bus.closed = false ∧ s.topic = topic ∧ bus'.Holds s [] ∧
      ∀ s' unread, bus.Holds s' unread → s' ≠ s)
  takes : taken.isSome → l'.state = l.state ∧ ∃ s, l.state = .listening s

/-- A step by which a loop neither reads nor subscribes. -/
theorem actsOn_of_not_listening (hsound : bus'.Sound) (hclosed : bus'.closed = bus.closed)
    (hothers : ∀ s unread, l.state ≠ .listening s → bus.Holds s unread → bus'.Holds s unread)
    (hstate : ∀ s, l'.state ≠ .listening s) : ActsOn topic bus l none bus' l' where
  sound := hsound
  closed := hclosed
  others := hothers
  reads s hs := absurd hs (hstate s)
  takes h := by cases h

/-- A loop that stops gives up its subscription. -/
private theorem exists_actsOn_stop (hsound : bus.Sound) (sync : Synchronizer) (metrics : Metrics) :
    ∃ bus', (l.stop ⟨sync, .memory bus, metrics⟩).2.transport = .memory bus' ∧
      ActsOn topic bus l none bus' (l.stop ⟨sync, .memory bus, metrics⟩).1 := by
  have hstopped (s : BusSubscription) :
      (l.stop ⟨sync, .memory bus, metrics⟩).1.state ≠ .listening s := by rintro ⟨⟩
  cases hstate : l.state with
  | listening s =>
    refine ⟨bus.unsubscribe s, ?_, actsOn_of_not_listening (hsound.unsubscribe s)
      (bus.closed_unsubscribe s) (fun s' unread hs' hholds => ?_) hstopped⟩
    · simp only [ConsumeLoop.stop, hstate, Transport.unsubscribe]
    · exact hholds.unsubscribe fun heq => hs' (heq ▸ hstate)
  | waiting wake =>
    refine ⟨bus, ?_, actsOn_of_not_listening hsound rfl (fun _ _ _ hholds => hholds) hstopped⟩
    simp only [ConsumeLoop.stop, hstate]
  | stopped =>
    refine ⟨bus, ?_, actsOn_of_not_listening hsound rfl (fun _ _ _ hholds => hholds) hstopped⟩
    simp only [ConsumeLoop.stop, hstate]

/-- A loop that takes a message leaves the unread ones that come after it. -/
private theorem actsOn_take {s : BusSubscription} {m : BusMessage} (hsound : bus.Sound)
    (hs : l.state = .listening s) (hmessage : (bus.receive s).1 = .message m) :
    ActsOn topic bus l (some m) (bus.receive s).2 l := by
  refine ⟨hsound.receive s, bus.closed_receive s,
    fun s' unread hs' hholds => hholds.receive fun heq => hs' (heq ▸ hs), fun s' hs' => ?_,
    fun _ => ⟨rfl, s, hs⟩⟩
  obtain rfl : s = s' := LoopState.listening.inj (hs.symm.trans hs')
  refine .inl ⟨hs, fun unread hholds => ?_⟩
  rcases hholds.receive_self hsound with ⟨-, hnone, -⟩ | ⟨m', rest, hcons, hfound, hrest⟩
  · rw [hmessage, InMemoryBus.atEnd] at hnone
    split at hnone <;> cases hnone
  · obtain rfl : m = m' := Received.message.inj (hmessage.symm.trans hfound)
    -- messages that are no longer kept are skipped
    refine ⟨rest, hrest, ?_⟩
    rw [Option.toList_some, List.singleton_append, ← hcons]
    exact List.drop_sublist _ _

/-- A loop that loses its subscription does not find anything. -/
private theorem actsOn_lose {s : BusSubscription} (hsound : bus.Sound) (hs : l.state = .listening s)
    (hstate : ∀ s, l'.state ≠ .listening s) :
    ActsOn topic bus l none ((bus.receive s).2.unsubscribe s) l' := by
  refine actsOn_of_not_listening ((hsound.receive s).unsubscribe s) ?_
    (fun s' unread hs' hholds => ?_) hstate
  · rw [InMemoryBus.closed_unsubscribe, InMemoryBus.closed_receive]
  · have hne : s ≠ s' := fun heq => hs' (heq ▸ hs)
    exact (hholds.receive hne).unsubscribe hne

/-- A loop that subscribes gets a subscription that nobody had before. -/
private theorem actsOn_subscribe {s : BusSubscription} (hsound : bus.Sound)
    (hopened : bus.subscribe topic = .ok (s, bus')) (hs' : l'.state = .listening s) :
    ActsOn topic bus l none bus' l' := by
  obtain ⟨hopen, hs, hbus⟩ := InMemoryBus.subscribe_eq_ok hopened
  refine ⟨hsound.subscribe hopened, by rw [hbus],
    fun s' unread _ hholds => hholds.subscribe hsound hopened, fun s₁ hs₁ => ?_, by rintro ⟨⟩⟩
  obtain rfl := LoopState.listening.inj (hs'.symm.trans hs₁)
  refine .inr ⟨rfl, hopen, by rw [hs], hsound.holds_nil hopened, ?_⟩
  rintro s' unread hholds rfl
  have hlt := hholds.reader_lt hsound
  rw [hs] at hlt
  exact Nat.lt_irrefl _ hlt

theorem Does.exists_actsOn {now : Nat} {signal : Signal} {sync : Synchronizer} {metrics : Metrics}
    {c : Context} (hsound : bus.Sound)
    (h : Does now signal l ⟨sync, .memory bus, metrics⟩ taken l' c) :
    ∃ bus', c.transport = .memory bus' ∧ ActsOn sync.config.topic bus l taken bus' l' := by
  -- whatever the loop does, it does to its own subscription or to a new one
  cases h with
  | stop => exact exists_actsOn_stop hsound sync metrics
  | see state _ hstate =>
    refine ⟨bus, rfl, hsound, rfl, fun _ _ _ hholds => hholds, fun s hs => ?_, by rintro ⟨⟩⟩
    obtain rfl | ⟨-, rfl⟩ := hstate
    · exact .inl ⟨hs, fun unread hholds => ⟨unread, hholds, List.Sublist.refl _⟩⟩
    · cases hs
  | @take s m transport _ hs hreceive =>
    simp only [Transport.receive] at hreceive
    obtain ⟨hmessage, rfl⟩ := Prod.mk.inj hreceive
    exact ⟨_, rfl, actsOn_take hsound hs hmessage⟩
  | @lose s transport _ hs hreceive =>
    simp only [Transport.receive] at hreceive
    obtain ⟨-, rfl⟩ := Prod.mk.inj hreceive
    exact ⟨_, rfl, actsOn_lose hsound hs (by rintro s' ⟨⟩)⟩
  | @subscribe wake s transport hwake hsubscribe =>
    simp only [Transport.subscribe] at hsubscribe
    split at hsubscribe
    next s₀ bus' hopened =>
      cases hsubscribe
      exact ⟨bus', rfl, actsOn_subscribe hsound hopened rfl⟩
    next => cases hsubscribe
  | @refused wake e transport hwake hsubscribe =>
    simp only [Transport.subscribe] at hsubscribe
    split at hsubscribe
    next => cases hsubscribe
    next =>
      cases hsubscribe
      exact ⟨bus, rfl, actsOn_of_not_listening hsound rfl (fun _ _ _ hholds => hholds)
        (by rintro s ⟨⟩)⟩

/-- Two loops do not both run for one replica, and do not both read one subscription. -/
def Distinct (l l' : ConsumeLoop) : Prop :=
  (l.isRunning → l'.isRunning → l.replica ≠ l'.replica) ∧
    ∀ s, l.state = .listening s → l'.state ≠ .listening s

theorem Distinct.symm {l l' : ConsumeLoop} (h : l.Distinct l') : l'.Distinct l :=
  ⟨fun hl' hl heq => h.1 hl hl' heq.symm, fun s hs' hs => h.2 s hs hs'⟩

/-- A loop will see the signal before it is raised, or when it is. -/
structure Heeds (signal : Signal) (l : ConsumeLoop) : Prop where
  seen_le : l.seen ≤ signal.version
  raised : l.seen = signal.version → signal.raised = false

theorem Heeds.set {signal : Signal} {l : ConsumeLoop} (h : l.Heeds signal) (raised : Bool) :
    l.Heeds (signal.set raised) where
  seen_le := Nat.le_succ_of_le h.seen_le
  raised heq := absurd heq (Nat.ne_of_lt (Nat.lt_succ_of_le h.seen_le))

theorem Does.heeds {now : Nat} {signal : Signal} {l l' : ConsumeLoop} {c c' : Context}
    {taken : Option BusMessage} (h : Does now signal l c taken l' c') (hl : l.Heeds signal) :
    l'.Heeds signal := by
  rcases h.seen_eq with hseen | ⟨hseen, hlow⟩
  · exact ⟨hseen ▸ hl.seen_le, hseen ▸ hl.raised⟩
  · exact ⟨hseen.le, fun _ => hlow⟩

end ConsumeLoop

end ServiceBroker
