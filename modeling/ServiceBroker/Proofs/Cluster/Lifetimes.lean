import Mathlib.Logic.Relation
import ServiceBroker.Proofs.Cluster.Settling
import ServiceBroker.Proofs.Cluster.Starting
import ServiceBroker.Proofs.Replication.OneLoop.Passing
import ServiceBroker.Proofs.Replication.OneLoop.Raised

/-!
# Stopped replicas stay stopped

Replicas on one bus are started and shut down, again and again and in any order, while messages are
published, time passes and the bus may close. No replica ever has two consume loops running, so it
handles each message at most once. A replica that was shut down handles nothing any more, even if
it is started again; nor does one that has read everything on a closed bus.

## Main definitions

* `Lifetime`: replicas on one bus, with what their loops have received and the bus has accepted;
* `Lifetime.Step`: what can happen to them; loops go on by single steps, in any order;
* `Cluster.IsShutDown`, `Cluster.IsDrained`: a replica that will not handle anything any more.

## Main results

* `Lifetime.Sound.exists_steps_shutdown`: a shutdown is such a series of steps;
* `Lifetime.lawful_of_steps`: what holds at any time in the lives of the replicas.
-/

namespace ServiceBroker

/-! ## Replicas that are added and started -/

namespace Cluster

variable {c c' : Cluster} {i : Nat}

theorem isStarted_modify (c : Cluster) (g : ReplicaGroup) (i : Nat) (isStarted : Bool) {k : Nat}
    (hk : k < c.nodes.size) :
    (node { c with
      group := g
      nodes := c.nodes.modify i fun n => { n with isStarted } } k).isStarted =
        if i = k then isStarted else (c.node k).isStarted := by
  simp only [node, Array.getD_eq_getD_getElem?, Array.getElem?_modify,
    Array.getElem?_eq_getElem hk]
  split <;> rfl

/-- A replica that is added to others on one bus. -/
theorem add_shared {config : BrokerConfig} (hshared : c.shared = some 0)
    (h : c.add config = .ok c') : c' = c.added config c.group.transports 0 := by
  rcases add_cases h with ⟨place, hplace, rfl⟩ | ⟨hnone, -⟩
  · cases hshared.symm.trans hplace
    rfl
  · cases hshared.symm.trans hnone

/-- The replica has been shut down: its signal is raised, and none of its loops is running. -/
def IsShutDown (c : Cluster) (i : Nat) : Prop :=
  (c.group.member i).signal.raised ∧ c.group.AtRest i

instance (c : Cluster) (i : Nat) : Decidable (c.IsShutDown i) :=
  inferInstanceAs (Decidable ((c.group.member i).signal.raised ∧ c.group.AtRest i))

/-- The bus of the replica is closed, and its loops have read all that was kept for them. -/
def IsDrained (c : Cluster) (i : Nat) : Prop :=
  ∃ bus, c.group.transport i = .memory bus ∧ bus.closed = true ∧
    ∀ l ∈ c.group.loops, l.replica = i → ∀ s ∈ l.subscription?, (c.group.transport i).unread s = 0

end Cluster

/-! ## Lifetimes -/

/-- Replicas on one bus, with what their loops have received and what the bus has accepted. -/
structure Lifetime where
  /-- The replicas. -/
  cluster : Cluster
  /-- What was received: every message with the replica that received it, in this order. -/
  received : List (Nat × BusMessage) := []
  /-- The messages that the bus has accepted. -/
  accepted : List BusMessage := []

namespace Lifetime

open Cluster (IsShutDown IsDrained)

/-- No replicas yet, and a bus that all of them will share. -/
def start (config : BusConfig) (exposed : Bool) : Lifetime :=
  { cluster := .empty (some config) exposed }

/-- What the loops work on, with what they have received. -/
def journal (h : Lifetime) : Journal := ⟨h.cluster.group, h.received⟩

/-- A message was published, and the bus has accepted or refused it. -/
def published {ε α : Type} (h : Lifetime) (m : BusMessage) (result : Except ε α × ReplicaGroup) :
    Lifetime :=
  { h with
    cluster := { h.cluster with group := result.2 }
    accepted := h.accepted ++ if result.1.isOk then [m] else [] }

/-- What can happen to replicas on one bus. -/
inductive Step (h : Lifetime) : Lifetime → Prop
  | add {config : BrokerConfig} {c : Cluster} : h.cluster.add config = .ok c →
      Step h { h with cluster := c }
  | start {i : Nat} : i < h.cluster.nodes.size → Step h { h with cluster := (h.cluster.start i).2 }
  /-- Somebody publishes a payload, or a replica a change of the registry. -/
  | publishRaw (i : Nat) (m : BusMessage) :
      Step h (h.published m (h.cluster.group.publishRaw i m.topic m.key m.payload))
  | publishChange (i : Nat) (event : RegistryEvent) :
      Step h (h.published
        ⟨(h.cluster.group.member i).sync.config.topic, event.key, event.encode⟩
        (h.cluster.group.publishChange i event))
  /-- The bus closes, or time passes. -/
  | closeBus (i : Nat) : Step h { h with
      cluster := { h.cluster with group := h.cluster.group.modifyTransport i (·.closeBus) } }
  | advance (millis : Nat) : Step h { h with cluster := h.cluster.advance millis }
  /-- Loops go on. -/
  | works {j : Journal} : h.journal.Works j → Step h { h with
      cluster := { h.cluster with group := j.group }
      received := j.received }
  /-- The shutdown of a replica begins; it has ended when none of the loops is running. -/
  | signal (i : Nat) : Step h { h with
      cluster := { h.cluster with group := h.cluster.group.modifySignal i (·.set true) } }
  | shutDown {i : Nat} : i < h.cluster.nodes.size → h.cluster.IsShutDown i → Step h { h with
      cluster := { h.cluster with
        nodes := h.cluster.nodes.modify i fun n => { n with isStarted := false } } }

/-- Some steps. -/
def Steps : Lifetime → Lifetime → Prop := Relation.ReflTransGen Step

/-- The invariant of the lives of replicas on one bus: a replica that is not started has no loop
running. -/
structure Sound (bus : InMemoryBus) (h : Lifetime) : Prop where
  exclusive : h.journal.Exclusive bus h.accepted
  handled : h.journal.Handled
  size_eq : h.cluster.nodes.size = h.cluster.group.members.size
  shared : h.cluster.shared = some 0
  sessions : h.cluster.sessions = ∅
  atRest : ∀ i, i < h.cluster.nodes.size → (h.cluster.node i).isStarted = false →
    h.cluster.group.AtRest i

variable {bus : InMemoryBus} {h h' : Lifetime} {i : Nat}

theorem sound_start (config : BusConfig) (exposed : Bool) :
    Sound { config } (start config exposed) where
  exclusive := {
    onBus := ⟨rfl, fun m hm => absurd hm (Array.not_mem_empty m)⟩
    sound := InMemoryBus.sound_new config
    received_lt := fun p hp => by cases hp
    quiet := fun _ _ => rfl
    distinct := .nil
    follows := fun l hl => by cases hl
    once := fun i => List.nil_sublist _ }
  handled i hi := by cases hi
  size_eq := rfl
  shared := rfl
  sessions := rfl
  atRest i hi := by cases hi

/-- Either loops go on, or something else happens. -/
theorem Sound.passes_or_works (hsound : h.Sound bus) (hstep : h.Step h') :
    (∃ bus', h.journal.Passes bus h.accepted bus' h'.accepted h'.journal) ∨
      h.journal.Works h'.journal ∧ h'.accepted = h.accepted := by
  have hexclusive := hsound.exclusive
  have hsame : h.journal.Passes bus h.accepted bus h.accepted h.journal :=
    hexclusive.passes_self (ReplicaGroup.pauses_of_eq rfl rfl) hexclusive.onBus
  -- only loops receive messages: in every other step the replicas stay idle
  cases hstep with
  | @add config c hadd =>
    left
    rw [Cluster.add_shared hsound.shared hadd]
    exact ⟨bus, hexclusive.passes_push config.sync⟩
  | @start i hi =>
    left
    rcases h.cluster.start_cases i with ⟨-, hstart⟩ | ⟨hstarted, ⟨-, hstart⟩ | ⟨-, hstart⟩⟩
    · rw [hstart]
      exact ⟨bus, hsame⟩
    all_goals
      rw [hstart]
      exact hexclusive.passes_spawn (hsound.size_eq ▸ hi) (hsound.atRest i hi hstarted)
  | publishRaw i m => exact .inl (hexclusive.passes_publishRaw i m)
  | publishChange i event => exact .inl (hexclusive.passes_publishChange i event)
  | closeBus i => exact .inl ⟨_, hexclusive.passes_closeBus i⟩
  | advance millis =>
    exact .inl ⟨bus, hexclusive.passes_self (ReplicaGroup.pauses_of_eq rfl rfl)
      ⟨hexclusive.onBus.transports_eq, hexclusive.onBus.transport_eq⟩⟩
  | works hworks => exact .inr ⟨hworks, rfl⟩
  | signal i => exact .inl ⟨bus, hexclusive.passes_signal i⟩
  | shutDown hi hdown => exact .inl ⟨bus, hsame⟩

/-- A replica that is added has handled nothing, and nothing was received for it. -/
private theorem handled_push (hexclusive : h.journal.Exclusive bus h.accepted)
    (hhandled : h.journal.Handled) (config : SyncConfig) :
    Journal.Handled ⟨{ h.cluster.group with
      members := h.cluster.group.members.push { sync := { config } } }, h.received⟩ := by
  intro i hi
  show (ReplicaGroup.member { h.cluster.group with
    members := h.cluster.group.members.push { sync := { config } } } i).sync.Digests
      (h.journal.receivedBy i)
  simp only [ReplicaGroup.member, Array.getD_eq_getD_getElem?, Array.getElem?_push]
  split
  next heq =>
    -- whatever was received was received for a replica that was there before
    rw [Journal.receivedBy_eq_nil hexclusive.received_lt heq.ge]
    exact Synchronizer.digests_new config
  next hne =>
    rw [Array.size_push] at hi
    have hold := hhandled i (Nat.lt_of_le_of_ne (Nat.le_of_lt_succ hi) hne)
    rwa [ReplicaGroup.member, Array.getD_eq_getD_getElem?] at hold

/-- The invariant is kept when a replica is added. -/
theorem Sound.add {bus' : InMemoryBus} (hsound : h.Sound bus) {config : BrokerConfig} {c : Cluster}
    (hadd : h.cluster.add config = .ok c)
    (hexclusive : Journal.Exclusive bus' h.accepted ⟨c.group, h.received⟩) :
    Sound bus' { h with cluster := c } := by
  obtain rfl := Cluster.add_shared hsound.shared hadd
  refine ⟨hexclusive, handled_push hsound.exclusive hsound.handled config.sync, ?_, hsound.shared,
    hsound.sessions, fun i hi hstarted => ?_⟩
  · show (h.cluster.nodes.push _).size = (h.cluster.group.members.push _).size
    rw [Array.size_push, Array.size_push, hsound.size_eq]
  · rw [Cluster.node_added] at hstarted
    split at hstarted
    -- no loop works for the replica that is added
    next heq =>
      intro l hl hreplica
      have hlt := (hsound.exclusive.follows l hl).replica_lt
      exact absurd hreplica (Nat.ne_of_lt (heq ▸ hsound.size_eq ▸ hlt))
    next hne =>
      rw [Cluster.added, Array.size_push] at hi
      exact hsound.atRest i (Nat.lt_of_le_of_ne (Nat.le_of_lt_succ hi) hne) hstarted

/-- The invariant is kept when a replica is started. -/
theorem Sound.start {bus' : InMemoryBus} (hsound : h.Sound bus)
    (hexclusive : Journal.Exclusive bus' h.accepted ⟨(h.cluster.start i).2.group, h.received⟩) :
    ∃ bus', Sound bus' { h with cluster := (h.cluster.start i).2 } := by
  have hhandled : Journal.Handled ⟨(h.cluster.group.spawn i).2, h.received⟩ :=
    hsound.handled.frame (Journal.size_spawn ..) (Journal.idle_spawn _ i)
  have hsize : (h.cluster.group.spawn i).2.members.size = h.cluster.group.members.size :=
    Journal.size_spawn ..
  rcases h.cluster.start_cases i with
    ⟨-, hstart⟩ | ⟨-, ⟨hloops, hstart⟩ | ⟨⟨l, hl, hloops⟩, hstart⟩⟩
  · -- a replica that is started already stays as it is
    rw [hstart]
    exact ⟨bus, hsound⟩
  · rw [hstart] at hexclusive ⊢
    -- a refused subscription leaves the loops as they were
    refine ⟨bus', hexclusive, hhandled, hsound.size_eq.trans hsize.symm, hsound.shared,
      hsound.sessions, fun k hk hstarted l hl => ?_⟩
    exact hsound.atRest k hk hstarted l (hloops ▸ hl)
  · rw [hstart] at hexclusive ⊢
    refine ⟨bus', hexclusive, hhandled, ?_, hsound.shared, hsound.sessions,
      fun k hk hstarted l₁ h₁ hreplica => ?_⟩
    · exact (Array.size_modify ..).trans (hsound.size_eq.trans hsize.symm)
    · -- the loop that has started belongs to a replica that counts as started
      have hk' : k < h.cluster.nodes.size := by simpa using hk
      rw [Cluster.isStarted_modify h.cluster _ i true hk'] at hstarted
      split at hstarted
      next => cases hstarted
      next hne =>
        rw [hloops] at h₁
        obtain h₁ | h₁ := List.mem_append.mp h₁
        · exact hsound.atRest k hk' hstarted l₁ h₁ hreplica
        · rw [List.mem_singleton.mp h₁, hl] at hreplica
          exact absurd hreplica hne

/-- The invariant is kept when a shutdown returns. -/
theorem Sound.shutDown (hsound : h.Sound bus) (hdown : h.cluster.IsShutDown i) :
    Sound bus { h with cluster := { h.cluster with
      nodes := h.cluster.nodes.modify i fun n => { n with isStarted := false } } } := by
  refine ⟨hsound.exclusive, hsound.handled, (Array.size_modify ..).trans hsound.size_eq,
    hsound.shared, hsound.sessions, fun k hk hstarted => ?_⟩
  have hk' : k < h.cluster.nodes.size := by simpa using hk
  rw [Cluster.isStarted_modify h.cluster h.cluster.group i false hk'] at hstarted
  split at hstarted
  next hik => exact hik ▸ hdown.2
  next => exact hsound.atRest k hk' hstarted

/-- The invariant is kept when nothing is started, shut down or added. -/
theorem Sound.group {bus' : InMemoryBus} (hsound : h.Sound bus) {g : ReplicaGroup}
    {received : List (Nat × BusMessage)} {accepted : List BusMessage}
    (hexclusive : Journal.Exclusive bus' accepted ⟨g, received⟩)
    (hhandled : Journal.Handled ⟨g, received⟩)
    (hsize : g.members.size = h.cluster.group.members.size)
    (hrest : ∀ i, h.cluster.group.AtRest i → g.AtRest i) :
    Sound bus' ⟨{ h.cluster with group := g }, received, accepted⟩ where
  exclusive := hexclusive
  handled := hhandled
  size_eq := hsound.size_eq.trans hsize.symm
  shared := hsound.shared
  sessions := hsound.sessions
  atRest k hk hstarted := hrest k (hsound.atRest k hk hstarted)

/-- The invariant is kept by every step. -/
theorem Sound.step (hsound : h.Sound bus) (hstep : h.Step h') : ∃ bus', h'.Sound bus' := by
  obtain ⟨bus', hexclusive⟩ : ∃ bus', h'.journal.Exclusive bus' h'.accepted := by
    rcases hsound.passes_or_works hstep with ⟨bus', hpasses⟩ | ⟨hworks, haccepted⟩
    · exact ⟨bus', hpasses.exclusive⟩
    · rw [haccepted]
      exact hworks.exclusive hsound.exclusive
  have hhandled := hsound.handled
  -- where no loop goes on nothing is received, and what was received before stays handled
  cases hstep with
  | add hadd => exact ⟨bus', hsound.add hadd hexclusive⟩
  | start hi => exact hsound.start hexclusive
  | publishRaw i m =>
    have hsize := Journal.size_publishRaw h.cluster.group i m.topic m.key m.payload
    refine ⟨bus', hsound.group hexclusive
      (hhandled.frame hsize (Journal.idle_publishRaw _ i m.topic m.key m.payload)) hsize ?_⟩
    obtain ⟨transports, -, hpublish⟩ :=
      h.cluster.group.publishRaw_eq i m.topic m.key m.payload
    rw [hpublish]
    exact fun _ hrest => hrest
  | publishChange i event =>
    have hsize := h.cluster.group.size_members_setContext i
    exact ⟨bus', hsound.group hexclusive
      (hhandled.frame (hsize _) (Journal.idle_publishChange _ i event)) (hsize _)
      fun _ hrest => hrest⟩
  | closeBus i =>
    exact ⟨bus', hsound.group hexclusive (hhandled.frame rfl fun _ => .refl _) rfl
      fun _ hrest => hrest⟩
  | advance millis =>
    exact ⟨bus', hsound.group hexclusive (hhandled.frame rfl fun _ => .refl _) rfl
      fun _ hrest => hrest⟩
  | works hworks =>
    exact ⟨bus', hsound.group hexclusive (hworks.handled hhandled) hworks.size_members_eq
      fun i => hworks.atRest⟩
  | signal i =>
    have hsize := h.cluster.group.size_members_setMember i
    exact ⟨bus', hsound.group hexclusive
      (hhandled.frame (hsize _) (Journal.idle_setMember rfl)) (hsize _) fun _ hrest => hrest⟩
  | shutDown hi hdown => exact ⟨bus, hsound.shutDown hdown⟩

theorem Sound.steps (hsound : h.Sound bus) (hsteps : h.Steps h') : ∃ bus', h'.Sound bus' := by
  induction hsteps with
  | refl => exact ⟨bus, hsound⟩
  | tail _ hstep ih =>
    obtain ⟨bus', hsound'⟩ := ih
    exact hsound'.step hstep

/-! ### Replicas that handle nothing any more -/

/-- The signal of the replica is raised, or nothing is left for it on a closed bus. -/
def Silent (bus : InMemoryBus) (h : Lifetime) (i : Nat) : Prop :=
  (h.cluster.group.member i).signal.raised ∨ Journal.Exhausted bus h.cluster.group i

private theorem onBus_unique {g : ReplicaGroup} {bus' : InMemoryBus} (h : g.OnBus bus)
    (h' : g.OnBus bus') : bus = bus' := by
  have heq := h.transport 0
  rw [h'.transport 0] at heq
  exact (Transport.memory.inj heq).symm

/-- A silent replica handles nothing in a step, and stays silent. -/
private theorem Sound.silent_step (hsound : h.Sound bus) (hstep : h.Step h')
    (hi : i < h.cluster.group.members.size) (hsilent : h.Silent bus i) :
    ∃ bus', h'.Sound bus' ∧ i < h'.cluster.group.members.size ∧ h'.Silent bus' i ∧
      (h.cluster.group.member i).sync.Idle (h'.cluster.group.member i).sync := by
  obtain ⟨bus', hsound'⟩ := hsound.step hstep
  refine ⟨bus', hsound', ?_⟩
  rcases hsound.passes_or_works hstep with ⟨bus₁, hpasses⟩ | ⟨hworks, -⟩
  · -- no loop goes on, and a signal that has been raised is never lowered
    obtain rfl := onBus_unique hpasses.exclusive.onBus hsound'.exclusive.onBus
    refine ⟨Nat.lt_of_lt_of_le hi hpasses.size_le, ?_, hpasses.idle i hi⟩
    -- a signalled loop stops before it takes anything, and an exhausted bus has nothing to take
    rcases hsilent with hraised | hexhausted
    · left
      rcases hpasses.signal i with hsame | hset
      · exact hsame ▸ hraised
      · exact hset ▸ rfl
    · exact .inr (hpasses.exhausted i hexhausted)
  · refine ⟨hworks.size_members_eq ▸ hi, ?_⟩
    rcases hsilent with hraised | hexhausted
    · obtain ⟨hsync, hsignal⟩ := hworks.raised hraised
      exact ⟨.inl (hsignal ▸ hraised), .of_eq hsync⟩
    · obtain ⟨hsync, bus₁, hexclusive, hexhausted'⟩ := hworks.exhausted hsound.exclusive hexhausted
      obtain rfl := onBus_unique hexclusive.onBus hsound'.exclusive.onBus
      exact ⟨.inr hexhausted', .of_eq hsync⟩

/-- A silent replica handles nothing any more. -/
theorem Sound.idle_of_silent (hsound : h.Sound bus) (hsteps : h.Steps h')
    (hi : i < h.cluster.group.members.size) (hsilent : h.Silent bus i) :
    (h.cluster.group.member i).sync.Idle (h'.cluster.group.member i).sync := by
  -- the induction is on the steps, and every one of them leaves the replica silent
  suffices ∃ bus', h'.Sound bus' ∧ i < h'.cluster.group.members.size ∧ h'.Silent bus' i ∧
      (h.cluster.group.member i).sync.Idle (h'.cluster.group.member i).sync by
    obtain ⟨_, -, -, -, hidle⟩ := this
    exact hidle
  induction hsteps with
  | refl => exact ⟨bus, hsound, hi, hsilent, .refl _⟩
  | tail _ hstep ih =>
    obtain ⟨bus₁, hsound₁, hi₁, hsilent₁, hidle₁⟩ := ih
    obtain ⟨bus₂, hsound₂, hi₂, hsilent₂, hidle₂⟩ := hsound₁.silent_step hstep hi₁ hsilent₁
    exact ⟨bus₂, hsound₂, hi₂, hsilent₂, hidle₁.trans hidle₂⟩

/-- A drained replica will find nothing. -/
private theorem Sound.exhausted_of_isDrained (hsound : h.Sound bus)
    (hdrained : h.cluster.IsDrained i) :
    Journal.Exhausted bus h.cluster.group i := by
  have honBus : h.cluster.group.OnBus bus := hsound.exclusive.onBus
  obtain ⟨bus', hbus', hclosed, hunread⟩ := hdrained
  rw [honBus.transport] at hbus' hunread
  obtain rfl := Transport.memory.inj hbus'
  refine ⟨hclosed, fun l hl hi s hs => ?_⟩
  obtain ⟨-, unread, hholds, -⟩ := (hsound.exclusive.follows l hl).finds s hs
  have hzero := hunread l hl hi s (ConsumeLoop.mem_subscription?.mpr hs)
  rwa [(hholds.unread_eq_zero_iff hsound.exclusive.sound).mp hzero] at hholds

/-! ### Shutting down -/

private theorem settle_of_no_sessions {c : Cluster} (hsessions : c.sessions = ∅) :
    c.settle = { c with group := c.group.settle } := by
  rw [Cluster.settle_eq, hsessions]
  rfl

/-- A shutdown is a series of steps, after which no loop of the replica is running. -/
theorem Sound.exists_steps_shutdown (hsound : h.Sound bus) (hi : i < h.cluster.nodes.size) :
    ∃ received, h.Steps { h with cluster := h.cluster.shutdown i, received } ∧
      (h.cluster.shutdown i).IsShutDown i := by
  let signalled : Lifetime := { h with
    cluster := { h.cluster with group := h.cluster.group.modifySignal i (·.set true) } }
  have hsignal : h.Step signalled := .signal i
  obtain ⟨bus', hsignalled⟩ := hsound.step hsignal
  have hraised : (signalled.cluster.group.member i).signal.raised := by
    show (ReplicaGroup.member (h.cluster.group.setMember i _) i).signal.raised
    rw [ReplicaGroup.member_setMember, if_pos ⟨rfl, hsound.size_eq ▸ hi⟩]
    rfl
  -- the loops go on until all have to wait; those of the replica stop
  obtain ⟨received, hworks⟩ := Journal.exists_works_settle hsignalled.exclusive.placed
  have hrest : signalled.cluster.group.settle.AtRest i := fun l hl hreplica =>
    absurd hreplica (ReplicaGroup.replica_ne_settle hraised
      (fun l hl hreplica => hreplica ▸ (hsignalled.exclusive.follows l hl).heeds) l hl)
  have hdown : IsShutDown { h.cluster with group := signalled.cluster.group.settle } i :=
    ⟨(hworks.raised hraised).2 ▸ hraised, hrest⟩
  have hshutdown : h.cluster.shutdown i = { h.cluster with
      group := signalled.cluster.group.settle
      nodes := h.cluster.nodes.modify i fun n => { n with isStarted := false } } :=
    settle_of_no_sessions hsound.sessions
  rw [hshutdown]
  refine ⟨received, ?_, hdown⟩
  exact ((Relation.ReflTransGen.single hsignal).tail (.works hworks)).tail (.shutDown hi hdown)

/-! ### What holds at any time -/

/-- Stopped replicas stay stopped. -/
structure Lawful (h : Lifetime) : Prop where
  /-- No replica has two loops running. -/
  one_loop : ∀ i, h.cluster.group.loops.countP (fun l => l.replica = i ∧ l.isRunning) ≤ 1
  /-- A replica receives every message at most once that the bus accepts on its topic. -/
  once : ∀ i, i < h.cluster.nodes.size → (h.journal.receivedBy i).Sublist
    (h.accepted.filter (·.topic = (h.cluster.group.member i).sync.config.topic))
  /-- It has handled what it has received, each message once. -/
  handled : ∀ i, i < h.cluster.nodes.size →
    (h.cluster.group.member i).sync.Digests (h.journal.receivedBy i)
  /-- When a shutdown returns, no loop of the replica is running. -/
  shutdown : ∀ i, i < h.cluster.nodes.size →
    ∃ received, h.Steps { h with cluster := h.cluster.shutdown i, received } ∧
      (h.cluster.shutdown i).IsShutDown i
  /-- A replica that was shut down or has drained a closed bus handles nothing any more. -/
  stopped : ∀ i, i < h.cluster.nodes.size → h.cluster.IsShutDown i ∨ h.cluster.IsDrained i →
    ∀ h', h.Steps h' →
      (h.cluster.group.member i).sync.Idle (h'.cluster.group.member i).sync

/-- Of distinct loops at most one is running for a replica. -/
private theorem countP_le_one {loops : List ConsumeLoop} (h : loops.Pairwise ConsumeLoop.Distinct)
    (i : Nat) : loops.countP (fun l => l.replica = i ∧ l.isRunning) ≤ 1 := by
  induction loops with
  | nil => exact Nat.zero_le 1
  | cons l loops ih =>
    obtain ⟨hl, hloops⟩ := List.pairwise_cons.mp h
    rw [List.countP_cons]
    split
    next hrunning =>
      simp only [decide_eq_true_eq] at hrunning
      -- no other loop is running for the replica
      have hnone : loops.countP (fun l => l.replica = i ∧ l.isRunning) = 0 := by
        rw [List.countP_eq_zero]
        intro l₁ h₁ hrunning₁
        simp only [decide_eq_true_eq] at hrunning₁
        exact (hl l₁ h₁).1 hrunning.2 hrunning₁.2 (hrunning.1.trans hrunning₁.1.symm)
      rw [hnone]
    next => exact ih hloops

/-- Whatever happens to replicas on one bus: none has two loops running, each handles a message at
most once, and one that was stopped handles nothing any more. -/
theorem lawful_of_steps {config : BusConfig} {exposed : Bool}
    (hsteps : (start config exposed).Steps h) : h.Lawful := by
  obtain ⟨bus, hsound⟩ := (sound_start config exposed).steps hsteps
  refine ⟨fun i => countP_le_one hsound.exclusive.distinct i, fun i _ => hsound.exclusive.once i,
    fun i hi => hsound.handled i (hsound.size_eq ▸ hi),
    fun i hi => hsound.exists_steps_shutdown hi, fun i hi hstopped h' hsteps' => ?_⟩
  refine hsound.idle_of_silent hsteps' (hsound.size_eq ▸ hi) ?_
  exact hstopped.imp And.left hsound.exhausted_of_isDrained

/-- A replica has received a message when it is shut down. It is started again, but does not receive
the next message. -/
theorem lawful_of_steps_restarted :
    ∃ h h' : Lifetime, h.Lawful ∧ h.cluster.IsShutDown 0 ∧ h.Steps h' ∧
      (h'.cluster.node 0).isStarted ∧ h'.accepted.length = 2 ∧
      (h'.journal.receivedBy 0).length = 1 ∧
      (h.cluster.group.member 0).sync.Idle (h'.cluster.group.member 0).sync := by
  let message : BusMessage := ⟨"services", "", []⟩
  have hadd : (start default false).cluster.add default = .ok _ := rfl
  have hstarted := (Relation.ReflTransGen.single (Step.add hadd)).tail (.start (i := 0) (by decide))
  have hread := (hstarted.tail (.publishRaw 0 message)).tail (.works (.loop 0 .refl))
  have hstopped := (hread.tail (.signal 0)).tail (.works (.loop 0 .refl))
  have hdown := hstopped.tail (.shutDown (i := 0) (by decide) (by decide +kernel))
  have hlawful := lawful_of_steps hdown
  have hsteps {h : Lifetime} (hi : 0 < h.cluster.nodes.size) :=
    (((Relation.ReflTransGen.single (Step.start hi)).tail (.publishRaw 0 message)).tail
      (.works (.loop 0 .refl)))
  refine ⟨_, _, hlawful, ?_, hsteps ?_, ?_, ?_, ?_, hlawful.stopped 0 ?_ (.inl ?_) _ (hsteps ?_)⟩
  all_goals decide +kernel

end Lifetime

end ServiceBroker
