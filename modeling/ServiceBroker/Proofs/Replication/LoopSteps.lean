import ServiceBroker.Replication.Group

/-!
# What a consume loop does in one step

A step of a loop is one of six, on whatever transport. Only one of them hands a message to the
synchronizer, and that one leaves the loop as it is, whether the message held an event or not.

- `ConsumeLoop.takes?`: the message that a loop takes in its next step;
- `ConsumeLoop.Does`: the six steps;
- `ConsumeLoop.does_of_step`: every step is one of them, and takes what `takes?` says;
- `Does.sync_eq`, `Does.isRunning`, `Does.not_raised`: what all of them have in common;
- `ReplicaGroup.spawn_cases`: how a loop starts.
-/

namespace ServiceBroker

namespace ConsumeLoop

/-- The message that a loop takes in its next step: what it finds on its subscription, unless it
sees to its signal first. -/
def takes? (signal : Signal) (l : ConsumeLoop) (transport : Transport) : Option BusMessage :=
  match l.state with
  | .listening s =>
    if signal.raised ∨ signal.version ≠ l.seen ∨ signal.dropped then none
    else
      match (transport.receive s).1 with
      | .message m => some m
      | _ => none
  | _ => none

/-- What a loop can do in one step, with the message that it takes. -/
inductive Does (now : Nat) (signal : Signal) (l : ConsumeLoop) (c : Context) :
    Option BusMessage → ConsumeLoop → Context → Prop
  /-- It stops. -/
  | stop : Does now signal l c none (l.stop c).1 (l.stop c).2
  /-- It sees the signal; if it waits, it waits from then on. -/
  | see (state : LoopState) :
      signal.raised = false →
      (state = l.state ∨ (∃ wake, l.state = .waiting wake) ∧ state = .waiting (wakeTime now c)) →
      Does now signal l c none { l with seen := signal.version, state } c
  /-- It takes a message, which the synchronizer handles. -/
  | take {s : BusSubscription} {m : BusMessage} {transport : Transport} :
      signal.raised = false → l.state = .listening s →
      c.transport.receive s = (.message m, transport) →
      Does now signal l c (some m) l
        ⟨(c.sync.handle m c.metrics).1, transport, (c.sync.handle m c.metrics).2⟩
  /-- Its subscription has ended, and it starts to wait. -/
  | lose {s : BusSubscription} {transport : Transport} :
      signal.raised = false → l.state = .listening s →
      c.transport.receive s = (.closed, transport) →
      Does now signal l c none { l with state := .waiting (wakeTime now c) }
        { c with transport := transport.unsubscribe s }
  /-- It subscribes again. -/
  | subscribe {wake : Nat} {s : BusSubscription} {transport : Transport} :
      l.state = .waiting wake →
      c.transport.subscribe c.sync.config.topic = (.ok s, transport) →
      Does now signal l c none { l with state := .listening s } { c with transport }
  /-- It is refused a subscription and waits on. -/
  | refused {wake : Nat} {e : SubscribeFailure} {transport : Transport} :
      l.state = .waiting wake →
      c.transport.subscribe c.sync.config.topic = (.error e, transport) →
      Does now signal l c none { l with state := .waiting (wakeTime now c) } { c with transport }

variable {now : Nat} {signal : Signal} {l l' : ConsumeLoop} {c c' : Context}

/-- A loop that has stopped takes no step. -/
theorem step_stopped (hl : l.state = .stopped) (now : Nat) (signal : Signal) (c : Context) :
    l.step now signal c = none := by
  simp only [step, hl]

/-- A loop that reads a subscription looks at its signal before it turns to the transport. -/
private theorem does_of_listening {s : BusSubscription} (hs : l.state = .listening s)
    (h : l.step now signal c = some (l', c')) :
    Does now signal l c (l.takes? signal c.transport) l' c' := by
  unfold takes?
  simp only [step, hs] at h ⊢
  split at h
  next hraised =>
    cases h
    rw [if_pos (.inl hraised)]
    exact .stop
  next hraised =>
    have hlow : signal.raised = false := by simpa using hraised
    split at h
    next hseen =>
      cases h
      rw [if_pos (.inr (.inl hseen))]
      exact .see (.listening s) hlow (.inl hs.symm)
    next hseen =>
      split at h
      next hdropped =>
        cases h
        rw [if_pos (.inr (.inr hdropped))]
        exact .stop
      next hdropped =>
        rw [if_neg (by simp [hraised, hseen, hdropped])]
        -- what it finds on the transport decides
        split at h
        next => cases h
        next transport hreceive =>
          cases h
          rw [hreceive]
          exact .lose hlow hs hreceive
        next m transport hreceive =>
          cases h
          rw [hreceive]
          exact .take hlow hs hreceive

/-- A loop that waits takes no message: it sees its signal, or tries to subscribe. -/
private theorem does_of_waiting {wake : Nat} (hwake : l.state = .waiting wake)
    (h : l.step now signal c = some (l', c')) :
    Does now signal l c (l.takes? signal c.transport) l' c' := by
  unfold takes?
  simp only [step, hwake] at h ⊢
  split at h
  next =>
    split at h
    next =>
      cases h
      exact .stop
    next hraised =>
      cases h
      exact .see _ (by simpa using hraised) (.inr ⟨⟨wake, hwake⟩, rfl⟩)
  next =>
    split at h
    next =>
      cases h
      exact .stop
    next =>
      split at h
      next => cases h
      next =>
        -- its time has come
        split at h
        next s transport hsubscribe =>
          cases h
          exact .subscribe hwake hsubscribe
        next e transport hsubscribe =>
          cases h
          exact .refused hwake hsubscribe

theorem does_of_step (h : l.step now signal c = some (l', c')) :
    Does now signal l c (l.takes? signal c.transport) l' c' := by
  cases hstate : l.state with
  | listening s => exact does_of_listening hstate h
  | waiting wake => exact does_of_waiting hstate h
  | stopped =>
    rw [step_stopped hstate] at h
    cases h

/-- A loop that cannot take a step takes no message. -/
theorem takes?_eq_none (h : l.step now signal c = none) : l.takes? signal c.transport = none := by
  unfold step at h
  unfold takes?
  split
  next s hs =>
    simp only [hs] at h
    split
    next => rfl
    next hquiet =>
      -- the signal is quiet, so the loop waits for a message
      obtain ⟨hraised, hseen, hdropped⟩ : signal.raised = false ∧ signal.version = l.seen ∧
          signal.dropped = false := by simpa using hquiet
      simp only [hraised, hseen, hdropped, ne_eq, not_true_eq_false, if_false,
        Bool.false_eq_true] at h
      split at h
      next hreceive => rw [hreceive]
      next => cases h
      next => cases h
  next => rfl

section Does

variable {taken : Option BusMessage}

/-- A loop works for one replica. -/
theorem Does.replica_eq (h : Does now signal l c taken l' c') : l'.replica = l.replica := by
  cases h with
  | stop => rfl
  | see | take | lose | subscribe | refused => rfl

/-- The synchronizer handles what the loop takes, and nothing else. -/
theorem Does.sync_eq (h : Does now signal l c taken l' c') :
    c'.sync = taken.elim c.sync fun m => (c.sync.handle m c.metrics).1 := by
  cases h with
  | stop =>
    unfold ConsumeLoop.stop
    dsimp only
    split <;> rfl
  | see | take | lose | subscribe | refused => rfl

/-- A loop that has stopped is not revived. -/
theorem Does.isRunning (h : Does now signal l c taken l' c') (hrunning : l'.isRunning) :
    l.isRunning := by
  cases h with
  | stop => cases hrunning
  | see state _ hstate =>
    obtain rfl | ⟨⟨wake, hwake⟩, -⟩ := hstate
    · exact hrunning
    · rw [ConsumeLoop.isRunning, hwake]
      rfl
  | take _ hs | lose _ hs =>
    rw [ConsumeLoop.isRunning, hs]
    rfl
  | subscribe hwake | refused hwake =>
    rw [ConsumeLoop.isRunning, hwake]
    rfl

/-- A loop that has seen a signal did not find it raised. -/
theorem Does.seen_eq (h : Does now signal l c taken l' c') :
    l'.seen = l.seen ∨ l'.seen = signal.version ∧ signal.raised = false := by
  cases h with
  | see _ hlow => exact .inr ⟨rfl, hlow⟩
  | stop => exact .inl rfl
  | take | lose | subscribe | refused => exact .inl rfl

/-- Once the signal is raised no loop takes a message. -/
theorem Does.not_raised {m : BusMessage} (h : Does now signal l c (some m) l' c') :
    signal.raised = false := by
  cases h with
  | take hlow => exact hlow

end Does

end ConsumeLoop

/-! ## Starting a loop -/

namespace ReplicaGroup

/-- A group after a replica has asked its transport for a subscription. -/
def asked (g : ReplicaGroup) (i : Nat) : ReplicaGroup :=
  { g with
    transports := g.transports.setIfInBounds (g.member i).transport
      ((g.transport i).subscribe (g.member i).sync.config.topic).2 }

/-- A loop starts behind the others if its replica gets a subscription, and none starts if it is
refused one. -/
theorem spawn_cases (g : ReplicaGroup) (i : Nat) :
    (∃ e, ((g.transport i).subscribe (g.member i).sync.config.topic).1 = .error e ∧
      g.spawn i = (.error e, g.asked i)) ∨
    ∃ s, ((g.transport i).subscribe (g.member i).sync.config.topic).1 = .ok s ∧
      g.spawn i = (.ok (), {
        (g.asked i).setMember i { g.member i with latest := some g.nextLoop } with
        loops := g.loops ++ [{ number := g.nextLoop, replica := i, state := .listening s }]
        nextLoop := g.nextLoop + 1 }) := by
  unfold spawn asked
  dsimp only
  cases ((g.transport i).subscribe (g.member i).sync.config.topic).1 with
  | error e => exact .inl ⟨e, rfl, rfl⟩
  | ok s => exact .inr ⟨s, rfl, rfl⟩

end ReplicaGroup

end ServiceBroker
