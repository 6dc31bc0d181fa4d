import ServiceBroker.Proofs.Replication.OneLoop.Advance
import ServiceBroker.Proofs.Replication.Writers

/-!
# What may happen while no loop goes on

Messages are published, the bus closes, signals are raised, and replicas are added and started. None
of this gives a replica a second loop, or anything to find to one that has read everything.

- `Journal.Passes`: what may happen to replicas on a bus while none of their loops goes on;
- `Journal.Exclusive.passes_publishRaw` and the like: each of these happens so.
-/

namespace ServiceBroker

/-- The bus closes; a transport without one stays as it is. -/
def Transport.closeBus : Transport → Transport
  | .memory bus => .memory bus.close
  | t => t

namespace Journal

variable {bus bus' : InMemoryBus} {accepted accepted' new : List BusMessage} {j j' : Journal}
  {g : ReplicaGroup} {i : Nat}

/-- What may happen to replicas on a bus while none of their loops goes on. -/
structure Passes (bus : InMemoryBus) (accepted : List BusMessage) (j : Journal)
    (bus' : InMemoryBus) (accepted' : List BusMessage) (j' : Journal) : Prop where
  exclusive : Exclusive bus' accepted' j'
  size_le : j.group.members.size ≤ j'.group.members.size
  exhausted : ∀ i, Exhausted bus j.group i → Exhausted bus' j'.group i
  idle : ∀ i, i < j.group.members.size → (j.group.member i).sync.Idle (j'.group.member i).sync
  signal : ∀ i, (j'.group.member i).signal = (j.group.member i).signal ∨
    (j'.group.member i).signal = (j.group.member i).signal.set true
  received : j'.received = j.received

/-- Replicas pass on to what they become, if the bus only accepts more and stays closed once it
is. -/
theorem Exclusive.passes (h : Exclusive bus accepted j) (hpauses : j.group.Pauses g)
    (honBus : g.OnBus bus') (hsound : bus'.Sound)
    (hholds : ∀ s unread, bus.Holds s unread →
      bus'.Holds s (unread ++ new.filter (·.topic = s.topic)))
    (hclosed : bus.closed = true → bus'.closed = true ∧ new = []) :
    Passes bus accepted j bus' (accepted ++ new) ⟨g, j.received⟩ where
  exclusive := h.frame hpauses honBus hsound hholds
  size_le := hpauses.size_le
  exhausted i hexhausted := by
    obtain ⟨hclosed', rfl⟩ := hclosed hexhausted.closed
    refine ⟨hclosed', fun l hl hi s hs => ?_⟩
    exact hholds s [] (hexhausted.finds l (hpauses.loops ▸ hl) hi s hs)
  idle := hpauses.idle
  signal := hpauses.signal
  received := rfl

/-- Nothing is accepted. -/
theorem Exclusive.passes_nil (h : Exclusive bus accepted j) (hpauses : j.group.Pauses g)
    (honBus : g.OnBus bus') (hsound : bus'.Sound)
    (hholds : ∀ s unread, bus.Holds s unread → bus'.Holds s unread)
    (hclosed : bus.closed = true → bus'.closed = true) :
    Passes bus accepted j bus' accepted ⟨g, j.received⟩ := by
  have hpasses : Passes bus accepted j bus' (accepted ++ []) ⟨g, j.received⟩ :=
    h.passes hpauses honBus hsound
      (fun s unread hunread => by simpa using hholds s unread hunread)
      fun hbus => ⟨hclosed hbus, rfl⟩
  rwa [List.append_nil] at hpasses

/-- Nothing happens on the bus. -/
theorem Exclusive.passes_self (h : Exclusive bus accepted j) (hpauses : j.group.Pauses g)
    (honBus : g.OnBus bus) : Passes bus accepted j bus accepted ⟨g, j.received⟩ :=
  h.passes_nil hpauses honBus h.sound (fun _ _ hholds => hholds) id

/-- A message is published, and what the bus accepts is noted. -/
theorem Exclusive.passes_published (h : Exclusive bus accepted j) {m : BusMessage} {n : Nat}
    (hpublish : bus.publish m.topic m.key m.payload = .ok (n, bus')) (hpauses : j.group.Pauses g)
    (honBus : g.OnBus bus') : Passes bus accepted j bus' (accepted ++ [m]) ⟨g, j.received⟩ := by
  have hopen := (InMemoryBus.publish_eq_ok_iff.mp hpublish).1
  refine h.passes hpauses honBus (h.sound.publish hpublish) (fun s unread hunread => ?_)
    fun hclosed => ?_
  · have hholds := hunread.publish hpublish
    by_cases htopic : m.topic = s.topic
    · have hfilter : [m].filter (·.topic = s.topic) = [m] := by simp [htopic]
      rw [if_pos htopic] at hholds
      rwa [hfilter]
    · have hfilter : [m].filter (·.topic = s.topic) = [] := by simp [htopic]
      rw [if_neg htopic] at hholds
      rwa [hfilter, List.append_nil]
  · rw [hopen] at hclosed
    cases hclosed

/-- Something is published by anybody. -/
theorem Exclusive.passes_publishRaw (h : Exclusive bus accepted j) (i : Nat) (m : BusMessage) :
    ∃ bus', Passes bus accepted j bus'
      (accepted ++ if (j.group.publishRaw i m.topic m.key m.payload).1.isOk then [m] else [])
      ⟨(j.group.publishRaw i m.topic m.key m.payload).2, j.received⟩ := by
  cases hpublish : bus.publish m.topic m.key m.payload with
  | error e =>
    refine ⟨bus, ?_⟩
    rw [ReplicaGroup.publishRaw_of_error (h.onBus.transport i) hpublish]
    simp only [Except.isOk, Except.toBool, Bool.false_eq_true, if_false, List.append_nil]
    exact h.passes_self (ReplicaGroup.pauses_of_eq rfl rfl) h.onBus
  | ok result =>
    refine ⟨result.2, ?_⟩
    rw [ReplicaGroup.publishRaw_of_ok (h.onBus.transport i) hpublish]
    simp only [Except.isOk, Except.toBool, if_true]
    exact h.passes_published hpublish (ReplicaGroup.pauses_of_eq rfl rfl)
      (h.onBus.setTransport i result.2)

/-- A replica publishes a change. -/
theorem Exclusive.passes_publishChange (h : Exclusive bus accepted j) (i : Nat)
    (event : RegistryEvent) :
    ∃ bus', Passes bus accepted j bus'
      (accepted ++ if (j.group.publishChange i event).1.isOk then
        [⟨(j.group.member i).sync.config.topic, event.key, event.encode⟩] else [])
      ⟨(j.group.publishChange i event).2, j.received⟩ := by
  have hpauses : j.group.Pauses (j.group.publishChange i event).2 :=
    ReplicaGroup.pauses_of_set rfl rfl ((j.group.member i).sync.idle_publishChange event _ _)
      (.inl rfl)
  cases hpublish : bus.publish (j.group.member i).sync.config.topic event.key event.encode with
  | error e =>
    -- a bus that refuses the event stays as it was, and nothing is accepted
    refine ⟨bus, ?_⟩
    rw [ReplicaGroup.publishChange_of_error (h.onBus.transport i) hpublish] at hpauses ⊢
    simp only [Except.isOk, Except.toBool, Bool.false_eq_true, if_false, List.append_nil]
    exact h.passes_self hpauses (h.onBus.setContext i rfl)
  | ok result =>
    refine ⟨result.2, ?_⟩
    rw [ReplicaGroup.publishChange_of_ok (h.onBus.transport i) hpublish] at hpauses ⊢
    simp only [Except.isOk, Except.toBool, if_true]
    exact h.passes_published hpublish hpauses (h.onBus.setContext i rfl)

/-- The bus is closed. -/
theorem Exclusive.passes_closeBus (h : Exclusive bus accepted j) (i : Nat) :
    Passes bus accepted j bus.close accepted
      ⟨j.group.modifyTransport i (·.closeBus), j.received⟩ := by
  refine h.passes_nil (ReplicaGroup.pauses_of_eq rfl rfl) ⟨?_, h.onBus.transport_eq⟩ h.sound.close
    (fun _ _ hholds => hholds.close) fun _ => rfl
  rw [ReplicaGroup.modifyTransport, h.onBus.member_transport, h.onBus.transports_eq]
  rfl

/-- The signal of a replica is raised. -/
theorem Exclusive.passes_signal (h : Exclusive bus accepted j) (i : Nat) :
    Passes bus accepted j bus accepted ⟨j.group.modifySignal i (·.set true), j.received⟩ :=
  h.passes_self (ReplicaGroup.pauses_of_set rfl rfl (.refl _) (.inr rfl))
    (h.onBus.setMember i (h.onBus.member_transport i))

/-- A replica is added. -/
theorem Exclusive.passes_push (h : Exclusive bus accepted j) (config : SyncConfig) :
    Passes bus accepted j bus accepted
      ⟨{ j.group with members := j.group.members.push { sync := { config } } }, j.received⟩ := by
  -- all other places hold the same replica
  have hmember (k : Nat) (hk : k ≠ j.group.members.size) : ReplicaGroup.member
      { j.group with members := j.group.members.push { sync := { config } } } k =
        j.group.member k := by
    simp only [ReplicaGroup.member, Array.getD_eq_getD_getElem?, Array.getElem?_push, if_neg hk]
  refine h.passes_self ⟨rfl, ?_, fun k hk => ?_, fun k => .inl ?_⟩
    ⟨h.onBus.transports_eq, fun m hm => ?_⟩
  · rw [Array.size_push]
    exact Nat.le_succ _
  · rw [hmember k (Nat.ne_of_lt hk)]
    exact .refl _
  · -- a new replica has the signal that stands for one that is not there
    by_cases hk : k = j.group.members.size
    · subst hk
      simp only [ReplicaGroup.member, Array.getD_eq_getD_getElem?, Array.getElem?_push_size]
      rw [Array.getElem?_eq_none le_rfl]
      rfl
    · rw [hmember k hk]
  · obtain hm | rfl := Array.mem_push.mp hm
    · exact h.onBus.transport_eq m hm
    · rfl

theorem signal_spawn (g : ReplicaGroup) (i k : Nat) :
    ((g.spawn i).2.member k).signal = (g.member k).signal := by
  rcases g.spawn_cases i with ⟨_, -, hspawn⟩ | ⟨_, -, hspawn⟩
  · rw [hspawn]
    rfl
  · rw [hspawn]
    exact g.member_setMember_congr (m := { g.member i with latest := some g.nextLoop }) (·.signal)
      rfl k

/-- A replica is started that has no loop running. -/
theorem Exclusive.passes_spawn (h : Exclusive bus accepted j) (hi : i < j.group.members.size)
    (hrest : j.group.AtRest i) :
    ∃ bus', Passes bus accepted j bus' accepted ⟨(j.group.spawn i).2, j.received⟩ := by
  obtain ⟨bus', hexclusive, hclosed⟩ := h.spawn hi hrest
  refine ⟨bus', hexclusive, (size_spawn ..).ge, fun k hexhausted => ?_,
    fun k _ => idle_spawn j.group i k, fun k => .inl (signal_spawn j.group i k), rfl⟩
  obtain ⟨rfl, hloops⟩ := hclosed hexhausted.closed
  exact ⟨hexhausted.closed, fun l hl => hexhausted.finds l (hloops ▸ hl)⟩

end Journal

end ServiceBroker
