import ServiceBroker.Proofs.Replication.Digested

/-!
# Replicas converge

A replica that has drained its subscription holds what the events of the log make of an empty
registry, unless it lagged behind by more messages than the bus keeps. If it did, the messages that
it lost were not among the last ones kept, so that it still agrees with the log about every URN with
an event among those.

- `Converging`: the invariant of a run;
- `Converging.step`, `Run.converging`: every step keeps it, so every run does;
- `registry_of_drained`: drained replicas agree with the log, and with each other.
-/

namespace ServiceBroker

/-! ## The invariant -/

namespace ReplicaGroup

/-- Two loops work for different replicas and read different subscriptions. -/
def Apart (l l' : ConsumeLoop) : Prop :=
  l.replica ≠ l'.replica ∧
    ∀ s s', l.state = .listening s → l'.state = .listening s' → s.reader ≠ s'.reader

/-- A loop has stopped, or it has digested the log of a topic up to the message that it waits
for. -/
structure Follows (bus : InMemoryBus) (topic : String) (log : List BusMessage) (lagged : Prop)
    (l : ConsumeLoop) (r : Registry) : Prop where
  state : l.state = .stopped ∨ ∃ s, l.state = .listening s
  reads : ∀ s, l.state = .listening s →
    s.topic = topic ∧ ∃ k, bus.Reads s log k ∧ Digested bus.keeps log lagged k r

/-- The invariant of a run: every replica with a loop that is running has digested the log up to the
message that the loop waits for. -/
structure Converging (config : BusConfig) (topic : String) (log : List BusMessage)
    (lagged : Nat → Prop) (bus : InMemoryBus) (g : ReplicaGroup) : Prop where
  onBus : g.OnBus bus
  config_eq : bus.config = config
  apart : g.loops.Pairwise Apart
  replica_lt : ∀ l ∈ g.loops, l.replica < g.members.size
  follows : ∀ l ∈ g.loops,
    Follows bus topic log (lagged l.replica) l (g.member l.replica).sync.registry

variable {config : BusConfig} {topic : String} {log new : List BusMessage}
  {lagged lagged' : Nat → Prop} {bus bus' : InMemoryBus} {g g' : ReplicaGroup}

theorem Apart.symm {l l' : ConsumeLoop} (h : Apart l l') : Apart l' l :=
  ⟨h.1.symm, fun s s' hs hs' => (h.2 s' s hs' hs).symm⟩

theorem Follows.mono {lag lag' : Prop} {l : ConsumeLoop} {r : Registry}
    (h : Follows bus topic log lag l r) (himp : lag → lag') : Follows bus topic log lag' l r where
  state := h.state
  reads s hs := by
    obtain ⟨htopic, k, hreads, hdigested⟩ := h.reads s hs
    exact ⟨htopic, k, hreads, hdigested.mono himp⟩

theorem Converging.mono (h : Converging config topic log lagged bus g)
    (himp : ∀ i, lagged i → lagged' i) : Converging config topic log lagged' bus g where
  onBus := h.onBus
  config_eq := h.config_eq
  apart := h.apart
  replica_lt := h.replica_lt
  follows l hl := (h.follows l hl).mono (himp _)

/-- A loop goes on following the log when the bus adds to it and leaves the subscription where it
is. -/
theorem Follows.frame {lag : Prop} {l : ConsumeLoop} {r : Registry}
    (h : Follows bus topic log lag l r) (new : List BusMessage) (hconfig : bus'.config = bus.config)
    (hreads : ∀ s k, l.state = .listening s → s.topic = topic → bus.Reads s log k →
      bus'.Reads s (log ++ new) k) :
    Follows bus' topic (log ++ new) lag l r where
  state := h.state
  reads s hs := by
    obtain ⟨htopic, k, hread, hdigested⟩ := h.reads s hs
    have hkeeps : bus'.keeps = bus.keeps := by rw [InMemoryBus.keeps, hconfig, InMemoryBus.keeps]
    refine ⟨htopic, k, hreads s k hs htopic hread, ?_⟩
    rw [hkeeps]
    exact hdigested.append hread.le_length new

/-- The invariant is kept when only the bus changes, and what it carries only at the end. -/
theorem Converging.frame (h : Converging config topic log lagged bus g) (new : List BusMessage)
    (honBus : g'.OnBus bus')
    (hconfig : bus'.config = bus.config) (hloops : g'.loops = g.loops)
    (hsize : g'.members.size = g.members.size)
    (hregistry : ∀ i, (g'.member i).sync.registry = (g.member i).sync.registry)
    (hreads : ∀ s k, s.topic = topic → bus.Reads s log k → bus'.Reads s (log ++ new) k) :
    Converging config topic (log ++ new) lagged bus' g' where
  onBus := honBus
  config_eq := hconfig.trans h.config_eq
  apart := hloops ▸ h.apart
  replica_lt l hl := by
    rw [hsize]
    exact h.replica_lt l (hloops ▸ hl)
  follows l hl := by
    rw [hregistry]
    exact (h.follows l (hloops ▸ hl)).frame new hconfig fun s k _ => hreads s k

/-- The invariant is kept when one loop goes on, if the others stay where they are. -/
theorem Converging.replace (h : Converging config topic log lagged bus g)
    {before after : List ConsumeLoop} {l l' : ConsumeLoop} {c : ConsumeLoop.Context}
    (hloops : g.loops = before ++ l :: after) (hreplica : l'.replica = l.replica)
    (hstate : ∀ s, l'.state = .listening s → l.state = .listening s)
    (htransport : c.transport = .memory bus') (hconfig : bus'.config = bus.config)
    (hothers : ∀ l₁ ∈ g.loops, Apart l l₁ → ∀ s k, l₁.state = .listening s →
      bus.Reads s log k → bus'.Reads s log k)
    (hfollows : Follows bus' topic log (lagged l.replica) l' c.sync.registry) :
    Converging config topic log lagged bus'
      { g.setContext l.replica c with loops := before ++ l' :: after } := by
  have hlt := h.replica_lt l (hloops ▸ List.mem_append_right _ (List.mem_cons_self ..))
  -- the loops other than `l` are apart from it, and so from `l'`
  have hothers_l {l₁ : ConsumeLoop} (h₁ : l₁ ∈ before ∨ l₁ ∈ after) :
      l₁ ∈ g.loops ∧ Apart l l₁ :=
    hloops ▸ others_of_pairwise (fun _ _ => Apart.symm) (hloops ▸ h.apart) h₁
  have hapart_l' (l₁ : ConsumeLoop) (h₁ : l₁ ∈ before ∨ l₁ ∈ after) : Apart l' l₁ := by
    obtain ⟨-, hreplicas, hreaders⟩ := hothers_l h₁
    exact ⟨hreplica ▸ hreplicas, fun s s' hs hs' => hreaders s s' (hstate s hs) hs'⟩
  have honBus := h.onBus.setContext l.replica htransport
  constructor
  case onBus => exact ⟨honBus.transports_eq, honBus.transport_eq⟩
  case config_eq => exact hconfig.trans h.config_eq
  case apart => exact pairwise_replace (fun _ _ => Apart.symm) (hloops ▸ h.apart) hapart_l'
  case replica_lt =>
    intro l₁ h₁
    change l₁.replica < (g.setContext l.replica c).members.size
    rw [size_members_setContext]
    obtain rfl | h₁ := mem_replaced h₁
    · exact hreplica ▸ hlt
    · exact h.replica_lt l₁ (hothers_l h₁).1
  case follows =>
    intro l₁ h₁
    change Follows bus' topic log (lagged l₁.replica) l₁
      ((g.setContext l.replica c).member l₁.replica).sync.registry
    rw [member_setContext]
    obtain rfl | h₁ := mem_replaced h₁
    · rw [if_pos ⟨hreplica.symm, hlt⟩, hreplica]
      exact hfollows
    · obtain ⟨hin, hap⟩ := hothers_l h₁
      rw [if_neg fun heq => hap.1 heq.1]
      have hsame := (h.follows l₁ hin).frame [] hconfig fun s k hs _ hread => by
        rw [List.append_nil]
        exact hothers l₁ hin hap s k hs hread
      rwa [List.append_nil] at hsame

/-- The invariant is kept by one step of a loop. -/
theorem Converging.loop (h : Converging config topic log lagged bus g)
    (hlag : ∀ i, ¬g.PendingAtMost i bus.keeps → lagged i) {before after : List ConsumeLoop}
    {l l' : ConsumeLoop} {c : ConsumeLoop.Context} (hloops : g.loops = before ++ l :: after)
    (hstep : l.step g.now (g.member l.replica).signal
      ⟨(g.member l.replica).sync, g.transport l.replica, g.metrics⟩ = some (l', c)) :
    ∃ bus', Converging config topic log lagged bus'
      { g.setContext l.replica c with loops := before ++ l' :: after } := by
  have hl : l ∈ g.loops := by
    rw [hloops]
    exact List.mem_append_right _ (List.mem_cons_self ..)
  have hfollows := h.follows l hl
  rw [h.onBus.transport] at hstep
  obtain hstopped | ⟨s, hs⟩ := hfollows.state
  · rw [ConsumeLoop.step_stopped hstopped] at hstep
    cases hstep
  obtain ⟨htopic, k, hreads, hdigested⟩ := hfollows.reads s hs
  obtain ⟨rfl, rfl⟩ | ⟨version, rfl, rfl⟩ | ⟨m, hm, rfl, hnext, hsync, htransport⟩ :=
    ConsumeLoop.step_listening hs hreads hstep
  -- the loop stops, and its subscription ends
  · refine ⟨bus.unsubscribe s, h.replace hloops rfl (fun _ hs' => by cases hs') rfl
      (bus.config_unsubscribe s) (fun l₁ _ hapart s₁ k₁ hs₁ hread => ?_) ?_⟩
    · exact hread.unsubscribe (hapart.2 s s₁ hs hs₁)
    · exact ⟨.inl rfl, fun _ hs' => by cases hs'⟩
  -- the loop has seen the signal, and reads on
  · exact ⟨bus, h.replace hloops rfl (fun _ hs' => hs') rfl rfl (fun _ _ _ _ _ _ hread => hread)
      ⟨hfollows.state, hfollows.reads⟩⟩
  -- the loop applies a message
  · have hkeeps : (bus.receive s).2.keeps = bus.keeps :=
      congrArg (·.capacity.nextPowerOfTwo) (bus.config_receive s)
    refine ⟨(bus.receive s).2, h.replace hloops rfl (fun _ hs' => hs') htransport
      (bus.config_receive s) (fun l₁ _ hapart s₁ k₁ hs₁ hread => ?_) ⟨hfollows.state, ?_⟩⟩
    · exact hread.receive (hapart.2 s s₁ hs hs₁)
    · intro s' hs'
      obtain rfl : s = s' := LoopState.listening.inj (hs.symm.trans hs')
      refine ⟨htopic, _, hnext, ?_⟩
      rw [hsync, Synchronizer.registry_handle, hkeeps]
      refine hdigested.receive hm fun hpending => hlag _ fun hmost => ?_
      -- more is pending than is kept
      have hle := hmost _ hl rfl s (ConsumeLoop.mem_subscription?.mpr hs)
      rw [h.onBus.transport, hreads.backlog_eq] at hle
      omega

theorem Converging.stepLoop (h : Converging config topic log lagged bus g)
    (hlag : ∀ i, ¬g.PendingAtMost i bus.keeps → lagged i) (n : Nat) :
    ∃ bus', Converging config topic log lagged bus' (g.stepLoop n) := by
  unfold ReplicaGroup.stepLoop
  split
  next => exact ⟨bus, h⟩
  next l hl =>
    dsimp only
    split
    next => exact ⟨bus, h⟩
    next l' c hstep =>
      obtain ⟨hn, rfl⟩ := List.getElem?_eq_some_iff.mp hl
      -- the loops before and behind the one that goes on
      have hloops : g.loops = g.loops.take n ++ g.loops[n] :: g.loops.drop (n + 1) := by
        rw [List.getElem_cons_drop, List.take_append_drop]
      rw [List.set_eq_take_append_cons_drop, if_pos hn]
      exact h.loop hlag hloops hstep

/-- The invariant is kept when something is published. -/
theorem Converging.published (h : Converging config topic log lagged bus g) {m : BusMessage}
    {n : Nat} (hpublish : bus.publish m.topic m.key m.payload = .ok (n, bus'))
    (honBus : g'.OnBus bus') (hloops : g'.loops = g.loops)
    (hsize : g'.members.size = g.members.size)
    (hregistry : ∀ i, (g'.member i).sync.registry = (g.member i).sync.registry) :
    Converging config topic (log ++ if m.topic = topic then [m] else []) lagged bus' g' := by
  refine h.frame _ honBus (InMemoryBus.config_publish hpublish) hloops hsize hregistry ?_
  rintro s k rfl hreads
  exact hreads.publish hpublish

theorem Converging.publishRaw (h : Converging config topic log lagged bus g) (i : Nat)
    (m : BusMessage) :
    ∃ bus', Converging config topic
      (log ++ InMemoryBus.accepted topic (g.publishRaw i m.topic m.key m.payload).1 m) lagged bus'
      (g.publishRaw i m.topic m.key m.payload).2 := by
  cases hpublish : bus.publish m.topic m.key m.payload with
  | error e =>
    refine ⟨bus, ?_⟩
    rw [publishRaw_of_error (h.onBus.transport i) hpublish, InMemoryBus.accepted_error,
      List.append_nil]
    exact h
  | ok result =>
    refine ⟨result.2, ?_⟩
    rw [publishRaw_of_ok (h.onBus.transport i) hpublish, InMemoryBus.accepted_ok]
    exact h.published hpublish (h.onBus.setTransport i result.2) rfl rfl fun _ => rfl

theorem Converging.publishChange (h : Converging config topic log lagged bus g) (i : Nat)
    (event : RegistryEvent) :
    ∃ bus', Converging config topic
      (log ++ InMemoryBus.accepted topic (g.publishChange i event).1
        ⟨(g.member i).sync.config.topic, event.key, event.encode⟩) lagged bus'
      (g.publishChange i event).2 := by
  -- publishing never touches a registry, not even that of the writer
  have hregistry : ∀ (c : ConsumeLoop.Context) (j : Nat),
      c.sync.registry = (g.member i).sync.registry →
      ((g.setContext i c).member j).sync.registry = (g.member j).sync.registry := by
    intro c j hc
    rw [member_setContext]
    split
    next hij => rw [← hij.1]; exact hc
    next => rfl
  cases hpublish : bus.publish (g.member i).sync.config.topic event.key event.encode with
  | error e =>
    refine ⟨bus, ?_⟩
    rw [publishChange_of_error (h.onBus.transport i) hpublish, InMemoryBus.accepted_error]
    refine h.frame [] (h.onBus.setContext i rfl) rfl rfl (g.size_members_setContext i _)
      (fun j => hregistry _ j rfl) ?_
    intro s k _ hreads
    rwa [List.append_nil]
  | ok result =>
    refine ⟨result.2, ?_⟩
    rw [publishChange_of_ok (h.onBus.transport i) hpublish, InMemoryBus.accepted_ok]
    exact h.published
      (m := ⟨(g.member i).sync.config.topic, event.key, event.encode⟩) hpublish
      (h.onBus.setContext i rfl) rfl (g.size_members_setContext i _)
      fun j => hregistry ⟨(g.member i).sync, .memory result.2, g.metrics⟩ j rfl

/-- The invariant is kept by every step. -/
theorem Converging.step (h : Converging config topic log lagged bus g)
    (hlag : ∀ i, ¬g.PendingAtMost i config.capacity.nextPowerOfTwo → lagged i)
    (hstep : Step topic g new g') :
    ∃ bus', Converging config topic (log ++ new) lagged bus' g' := by
  cases hstep with
  | publishRaw i m => exact h.publishRaw i m
  | publishChange i event => exact h.publishChange i event
  | loop n =>
    rw [List.append_nil]
    refine h.stepLoop (fun i => ?_) n
    rw [InMemoryBus.keeps, h.config_eq]
    exact hlag i
  | signal i f =>
    -- a signal reaches the loops at their next step
    refine ⟨bus, h.frame [] (h.onBus.setMember i (h.onBus.member_transport i)) rfl rfl
      (g.size_members_setMember i _) (fun j => ?_) ?_⟩
    · rw [modifySignal, member_setMember]
      split
      next hij => rw [← hij.1]
      next => rfl
    · intro s k _ hreads
      rwa [List.append_nil]
  | time t =>
    refine ⟨bus, h.frame [] ⟨h.onBus.transports_eq, h.onBus.transport_eq⟩ rfl rfl rfl
      (fun _ => rfl) ?_⟩
    intro s k _ hreads
    rwa [List.append_nil]

/-! ## Runs -/

/-- The invariant is kept when a loop is added that works for a replica without one and reads a
subscription of its own. -/
theorem Converging.addLoop (h : Converging config topic log lagged bus g) {l : ConsumeLoop}
    (hapart : ∀ l₁ ∈ g.loops, Apart l₁ l) (hlt : l.replica < g.members.size)
    (hfollows : Follows bus topic log (lagged l.replica) l (g.member l.replica).sync.registry)
    (nextLoop : Nat) :
    Converging config topic log lagged bus { g with loops := g.loops ++ [l], nextLoop } where
  onBus := ⟨h.onBus.transports_eq, h.onBus.transport_eq⟩
  config_eq := h.config_eq
  apart := List.pairwise_append.mpr ⟨h.apart, List.pairwise_singleton .., fun l₁ h₁ l₂ h₂ =>
    List.mem_singleton.mp h₂ ▸ hapart l₁ h₁⟩
  replica_lt l₁ h₁ := by
    obtain h₁ | h₁ := List.mem_append.mp h₁
    · exact h.replica_lt l₁ h₁
    · obtain rfl := List.mem_singleton.mp h₁
      exact hlt
  follows l₁ h₁ := by
    obtain h₁ | h₁ := List.mem_append.mp h₁
    · exact h.follows l₁ h₁
    · obtain rfl := List.mem_singleton.mp h₁
      exact hfollows

/-- The invariant holds when one more replica has subscribed. -/
theorem Converging.spawn (h : Converging config topic [] lagged bus g) (hsound : bus.Sound)
    {i : Nat} {s : BusSubscription} (hsubscribe : bus.subscribe topic = .ok (s, bus'))
    (hi : i < g.members.size) (hregistry : (g.member i).sync.registry = .empty)
    (hfresh : ∀ l ∈ g.loops, l.replica ≠ i) {m : Member} (htransport : m.transport = 0)
    (hsync : m.sync = (g.member i).sync) (number nextLoop : Nat) :
    Converging config topic [] lagged bus'
      { ReplicaGroup.setMember { g with
          transports := g.transports.setIfInBounds (g.member i).transport (.memory bus') } i m with
        loops := g.loops ++ [{ number, replica := i, state := .listening s }]
        nextLoop } := by
  have hs : s = ⟨topic, bus.nextReader⟩ := (InMemoryBus.subscribe_eq_ok hsubscribe).2.1
  have hmember : ∀ j, ((g.setMember i m).member j).sync = (g.member j).sync := by
    intro j
    rw [member_setMember]
    split
    next hij => rw [hsync, hij.1]
    next => rfl
  -- the loops that are there do not notice the new subscription
  have hothers : Converging config topic [] lagged bus' (ReplicaGroup.setMember { g with
      transports := g.transports.setIfInBounds (g.member i).transport (.memory bus') } i m) :=
    h.frame [] ((h.onBus.setTransport i bus').setMember i htransport)
      (InMemoryBus.config_subscribe hsubscribe) rfl (g.size_members_setMember i m)
      (fun j => congrArg (·.registry) (hmember j))
      fun s k _ hreads => hreads.subscribe hsound hsubscribe
  refine hothers.addLoop (fun l₁ h₁ => ⟨hfresh l₁ h₁, fun s₁ s₂ hs₁ hs₂ => ?_⟩) ?_
    ⟨.inr ⟨s, rfl⟩, ?_⟩ nextLoop
  -- the new subscription has a number that no other one has
  · obtain ⟨_, _, hreads, _⟩ := (h.follows l₁ h₁).reads s₁ hs₁
    obtain rfl : s = s₂ := LoopState.listening.inj hs₂
    rw [hs]
    exact Nat.ne_of_lt (hreads.reader_lt hsound)
  · rw [size_members_setMember]
    exact hi
  · rintro _ ⟨⟩
    refine ⟨by rw [hs], 0, hsound.reads_nil hsubscribe, ?_⟩
    have hempty : ((g.setMember i m).member i).sync.registry = .empty := by
      rw [hmember, hregistry]
    exact hempty ▸ .nil _ _

/-- The loops of a group that has been launched wait for the first message of the log. -/
theorem Launched.converging (h : Launched config topic g) (lagged : Nat → Prop) :
    ∃ bus, bus.Sound ∧ Converging config topic [] lagged bus g := by
  induction h with
  | @ready g bus hreachable htransports hmembers hloops =>
    refine ⟨bus, hreachable.sound, ⟨htransports, hmembers⟩, hreachable.config_eq, ?_, ?_, ?_⟩
    · -- without loops there is nothing that could follow the log wrongly
      rw [hloops]
      exact .nil
    · simp [hloops]
    · simp [hloops]
  | @spawn g g' i _ hi htopic hregistry hfresh hspawn ih =>
    obtain ⟨bus, hsound, hconv⟩ := ih
    simp only [ReplicaGroup.spawn, hconv.onBus.transport, Transport.subscribe, htopic] at hspawn
    cases hsubscribe : bus.subscribe topic with
    | error e =>
      simp only [hsubscribe] at hspawn
      cases hspawn
    | ok result =>
      obtain ⟨s, bus'⟩ := result
      simp only [hsubscribe] at hspawn
      cases hspawn
      -- the new subscription starts at the end of the bus, where the log will start
      exact ⟨bus', hsound.subscribe hsubscribe, hconv.spawn hsound hsubscribe hi hregistry hfresh
        (m := { g.member i with latest := some g.nextLoop }) (hconv.onBus.member_transport i) rfl
        _ _⟩

/-- Every run keeps the invariant. -/
theorem Run.converging {g₀ : ReplicaGroup} {visited : List ReplicaGroup}
    (hlaunched : Launched config topic g₀) (h : Run topic g₀ visited log g) :
    ∃ bus, Converging config topic log
      (fun i => ∃ v ∈ visited, ¬v.PendingAtMost i config.capacity.nextPowerOfTwo) bus g := by
  -- the induction is on the run; a replica that has lagged in a group visited has lagged ever since
  induction h with
  | start =>
    obtain ⟨bus, _, hconv⟩ := hlaunched.converging _
    exact ⟨bus, hconv⟩
  | @step visited log new g g' hrun hstep ih =>
    obtain ⟨bus, hconv⟩ := ih
    refine (hconv.mono fun i ⟨v, hv, hlag⟩ => ⟨v, List.mem_cons_of_mem _ hv, hlag⟩).step
      (fun i hlag => ⟨g, List.mem_cons_of_mem _ hrun.mem_visited, hlag⟩) hstep

/-- A replica that has drained its subscription has digested the whole log. -/
theorem Converging.digested_of_drained (h : Converging config topic log lagged bus g) {i : Nat}
    (hdrained : g.Drained i) :
    Digested config.capacity.nextPowerOfTwo log (lagged i) log.length
      (g.member i).sync.registry := by
  obtain ⟨l, hl, rfl, s, hs, hunread⟩ := hdrained
  rw [ConsumeLoop.mem_subscription?] at hs
  obtain ⟨_, k, hreads, hdigested⟩ := (h.follows l hl).reads s hs
  rw [h.onBus.transport, hreads.unread_eq_zero_iff] at hunread
  rwa [hunread, InMemoryBus.keeps, h.config_eq] at hdigested

/-- Replicas converge. Whenever replicas that subscribed to a topic before its log began have
drained their subscriptions, each that never had more messages pending than the bus keeps holds what
the events of the log make of an empty registry, so that any two of them hold the same; and each
agrees with the log about every URN with an event among the last messages that the bus keeps. -/
theorem registry_of_drained {g₀ : ReplicaGroup} {visited : List ReplicaGroup}
    (hlaunched : Launched config topic g₀) (hrun : Run topic g₀ visited log g) :
    (∀ i, g.Drained i →
      (∀ v ∈ visited, v.PendingAtMost i config.capacity.nextPowerOfTwo) →
      (g.member i).sync.registry = Registry.empty.applyAll (RegistryEvent.decodeAll log)) ∧
    (∀ i j, g.Drained i → g.Drained j →
      (∀ v ∈ visited, v.PendingAtMost i config.capacity.nextPowerOfTwo ∧
        v.PendingAtMost j config.capacity.nextPowerOfTwo) →
      (g.member i).sync.registry = (g.member j).sync.registry) ∧
    (∀ i urn, g.Drained i →
      (∃ e ∈ RegistryEvent.decodeAll (log.drop (log.length - config.capacity.nextPowerOfTwo)),
        e.urn = urn) →
      (g.member i).sync.registry.lookup urn =
        (Registry.empty.applyAll (RegistryEvent.decodeAll log)).lookup urn) := by
  obtain ⟨bus, hconv⟩ := hrun.converging hlaunched
  have hfold : ∀ i, g.Drained i →
      (∀ v ∈ visited, v.PendingAtMost i config.capacity.nextPowerOfTwo) →
      (g.member i).sync.registry = Registry.empty.applyAll (RegistryEvent.decodeAll log) :=
    fun i hdrained hmost => (hconv.digested_of_drained hdrained).eq_applyAll
      fun ⟨v, hv, hlag⟩ => hlag (hmost v hv)
  refine ⟨hfold, fun i j hi hj hmost => ?_, fun i urn hi hurn => ?_⟩
  · rw [hfold i hi fun v hv => (hmost v hv).1, hfold j hj fun v hv => (hmost v hv).2]
  · exact (hconv.digested_of_drained hi).lookup_eq hurn

/-- Two replicas that have just subscribed, on a bus that keeps one message. -/
def launchedPair : ReplicaGroup :=
  let g : ReplicaGroup := {
    transports := #[.memory { config := { (default : BusConfig) with capacity := 1 } }]
    members := #[{ sync := {} }, { sync := {} }] }
  ((g.spawn 0).2.spawn 1).2

private theorem launched_launchedPair :
    Launched { (default : BusConfig) with capacity := 1 } "services" launchedPair := by
  refine .spawn (.spawn (.ready .new rfl (by decide) rfl) ?_ rfl rfl ?_ (Prod.ext rfl rfl)) ?_ rfl
    rfl ?_ (Prod.ext rfl rfl)
  all_goals decide

/-- Both replicas of a pair drain a log of two messages. The second one loses the first of them, and
still finds the service that the other one registered. -/
theorem registry_of_drained_launchedPair :
    ∃ visited log g, Run "services" launchedPair visited log g ∧ log.length = 2 ∧
      g.Drained 0 ∧ g.Drained 1 ∧ (∃ v ∈ visited, ¬v.PendingAtMost 1 1) ∧
      (g.member 0).sync.registry = Registry.empty.applyAll (RegistryEvent.decodeAll log) ∧
      (g.member 1).sync.registry.lookup ⟨"a", "b"⟩ =
        (Registry.empty.applyAll (RegistryEvent.decodeAll log)).lookup ⟨"a", "b"⟩ := by
  -- the first replica keeps up, the second one reads when two messages have been sent
  have hstart : Run "services" launchedPair _ _ _ := .start
  have hread := (hstart.step (.publishRaw 1 ⟨"services", "", []⟩)).step (.loop 0)
  have hrun := ((hread.step (.publishChange 0 (.register (.bare ⟨"a", "b"⟩)))).step
    (.loop 0)).step (.loop 1)
  obtain ⟨hfold, _, hlookup⟩ := registry_of_drained launched_launchedPair hrun
  refine ⟨_, _, _, hrun, ?_, ?_, ?_, ?_, hfold 0 ?_ ?_, hlookup 1 _ ?_ ?_⟩
  all_goals decide +kernel

end ReplicaGroup

end ServiceBroker
