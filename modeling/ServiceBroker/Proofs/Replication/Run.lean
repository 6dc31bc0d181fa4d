import ServiceBroker.Proofs.MessageBus.InMemory
import ServiceBroker.Proofs.Replication.Synchronizer
import ServiceBroker.Replication.Group

/-!
# Runs of a group of replicas

Replicas on one in-memory bus, each with one consume loop, take their steps in any order: somebody
publishes something, or one of the loops goes on by one step.

- `ReplicaGroup.Launched`: the groups whose loops have just subscribed;
- `ReplicaGroup.Step`: one step, and what it adds to the log of the topic;
- `ReplicaGroup.Run`: some steps, with the groups visited and the log;
- `ReplicaGroup.Drained`, `ReplicaGroup.PendingAtMost`: what is waiting for a replica;
- `ReplicaGroup.OnBus`: a group on one bus, and what publishing on it changes.
-/

namespace ServiceBroker

/-- The number of messages sent and not handed to a subscription, kept or not. -/
def Transport.backlog (t : Transport) (s : BusSubscription) : Nat :=
  ((t.channel? s).map (·.backlog s.reader)).getD 0

/-- What is pending for the subscription that reads a log. -/
theorem InMemoryBus.Reads.backlog_eq {bus : InMemoryBus} {s : BusSubscription}
    {log : List BusMessage} {k : Nat} (h : bus.Reads s log k) :
    (Transport.memory bus).backlog s = log.length - k := by
  obtain ⟨_, c, base, hc, _, _, hcarries, hawaits⟩ := h
  rw [Transport.backlog, Transport.channel?, hc, Option.map_some, Option.getD_some]
  exact hcarries.backlog_eq hawaits

/-- The subscription that a loop reads. -/
def ConsumeLoop.subscription? (l : ConsumeLoop) : Option BusSubscription :=
  match l.state with
  | .listening s => some s
  | _ => none

/-- A loop has a subscription while it listens. -/
theorem ConsumeLoop.mem_subscription? {l : ConsumeLoop} {s : BusSubscription} :
    s ∈ l.subscription? ↔ l.state = .listening s := by
  unfold subscription?
  cases l.state <;> simp

/-! ## One of several -/

section Replace

variable {α : Type} {R : α → α → Prop} {before after : List α} {a a' b : α}

/-- An element of a list in which one was replaced is the new one or one of the others. -/
theorem mem_replaced (h : b ∈ before ++ a' :: after) : b = a' ∨ b ∈ before ∨ b ∈ after := by
  obtain h | h := List.mem_append.mp h
  · exact .inr (.inl h)
  · exact (List.mem_cons.mp h).imp_right .inr

/-- Any two elements of a list are related, so each of the others is to the one among them. -/
theorem others_of_pairwise (hsymm : ∀ a b, R a b → R b a)
    (h : (before ++ a :: after).Pairwise R) (hb : b ∈ before ∨ b ∈ after) :
    b ∈ before ++ a :: after ∧ R a b := by
  obtain ⟨-, hafter, hcross⟩ := List.pairwise_append.mp h
  obtain hb | hb := hb
  · exact ⟨List.mem_append_left _ hb, hsymm _ _ (hcross b hb a (List.mem_cons_self ..))⟩
  · exact ⟨List.mem_append_right _ (List.mem_cons_of_mem _ hb),
      (List.pairwise_cons.mp hafter).1 b hb⟩

/-- They stay so when one of them is replaced by an element that is related to the others. -/
theorem pairwise_replace (hsymm : ∀ a b, R a b → R b a) (h : (before ++ a :: after).Pairwise R)
    (ha' : ∀ b, b ∈ before ∨ b ∈ after → R a' b) : (before ++ a' :: after).Pairwise R := by
  obtain ⟨hbefore, hafter, hcross⟩ := List.pairwise_append.mp h
  refine List.pairwise_append.mpr ⟨hbefore, List.pairwise_cons.mpr ⟨fun b hb => ha' b (.inr hb),
    (List.pairwise_cons.mp hafter).2⟩, fun b hb b' hb' => ?_⟩
  obtain rfl | hb' := List.mem_cons.mp hb'
  · exact hsymm _ _ (ha' b (.inl hb))
  · exact hcross b hb b' (List.mem_cons_of_mem _ hb')

end Replace

namespace ReplicaGroup

/-! ## The runs -/

/-- One of the loops goes on by one step, unless it has to wait. -/
def stepLoop (g : ReplicaGroup) (n : Nat) : ReplicaGroup :=
  match g.loops[n]? with
  | none => g
  | some l =>
    let m := g.member l.replica
    match l.step g.now m.signal ⟨m.sync, g.transport l.replica, g.metrics⟩ with
    | none => g
    | some (l', c) => { g.setContext l.replica c with loops := g.loops.set n l' }

/-- The replicas of a group that has one bus with the given settings, some of which have just
subscribed to a topic with an empty registry. -/
inductive Launched (config : BusConfig) (topic : String) : ReplicaGroup → Prop
  | ready {g : ReplicaGroup} {bus : InMemoryBus} :
      bus.Reachable config → g.transports = #[.memory bus] → (∀ m ∈ g.members, m.transport = 0) →
      g.loops = [] → Launched config topic g
  | spawn {g g' : ReplicaGroup} {i : Nat} :
      Launched config topic g → i < g.members.size → (g.member i).sync.config.topic = topic →
      (g.member i).sync.registry = .empty → (∀ l ∈ g.loops, l.replica ≠ i) →
      g.spawn i = (.ok (), g') → Launched config topic g'

/-- One step of a group, and what it adds to the log of a topic. -/
inductive Step (topic : String) (g : ReplicaGroup) : List BusMessage → ReplicaGroup → Prop
  /-- Any payload is published on any topic; the bus accepts or refuses it. -/
  | publishRaw (i : Nat) (m : BusMessage) :
      Step topic g (InMemoryBus.accepted topic (g.publishRaw i m.topic m.key m.payload).1 m)
        (g.publishRaw i m.topic m.key m.payload).2
  /-- A replica publishes a change; the bus accepts or refuses it. -/
  | publishChange (i : Nat) (event : RegistryEvent) :
      Step topic g
        (InMemoryBus.accepted topic (g.publishChange i event).1
          ⟨(g.member i).sync.config.topic, event.key, event.encode⟩)
        (g.publishChange i event).2
  /-- One of the loops goes on. -/
  | loop (n : Nat) : Step topic g [] (g.stepLoop n)
  /-- A replica is asked to stop, or its signal changes in another way. -/
  | signal (i : Nat) (f : Signal → Signal) : Step topic g [] (g.modifySignal i f)
  /-- Time passes. -/
  | time (t : Nat) : Step topic g [] (g.advanceTo t)

/-- Some steps of a group: the groups visited, the last one first, and the log of the topic. -/
inductive Run (topic : String) (g₀ : ReplicaGroup) :
    List ReplicaGroup → List BusMessage → ReplicaGroup → Prop
  | start : Run topic g₀ [g₀] [] g₀
  | step {visited : List ReplicaGroup} {log new : List BusMessage} {g g' : ReplicaGroup} :
      Run topic g₀ visited log g → Step topic g new g' →
      Run topic g₀ (g' :: visited) (log ++ new) g'

/-- The replica is running and has read everything that its subscription will find. -/
def Drained (g : ReplicaGroup) (i : Nat) : Prop :=
  ∃ l ∈ g.loops, l.replica = i ∧ ∃ s ∈ l.subscription?, (g.transport i).unread s = 0

/-- No subscription of the replica has more than so many messages pending. -/
def PendingAtMost (g : ReplicaGroup) (i n : Nat) : Prop :=
  ∀ l ∈ g.loops, l.replica = i → ∀ s ∈ l.subscription?, (g.transport i).backlog s ≤ n

instance (g : ReplicaGroup) (i : Nat) : Decidable (g.Drained i) :=
  inferInstanceAs (Decidable (∃ l ∈ g.loops, l.replica = i ∧
    ∃ s ∈ l.subscription?, (g.transport i).unread s = 0))

instance (g : ReplicaGroup) (i n : Nat) : Decidable (g.PendingAtMost i n) :=
  inferInstanceAs (Decidable (∀ l ∈ g.loops, l.replica = i →
    ∀ s ∈ l.subscription?, (g.transport i).backlog s ≤ n))

theorem Run.mem_visited {topic : String} {g₀ g : ReplicaGroup} {visited : List ReplicaGroup}
    {log : List BusMessage} (h : Run topic g₀ visited log g) : g ∈ visited := by
  cases h <;> exact List.mem_cons_self ..

/-! ## Putting back what was taken -/

/-- Whether or not a place is in an array, the element that is found there can be put back. -/
theorem setIfInBounds_getD {α : Type} (xs : Array α) (i : Nat) (fallback : α) :
    xs.setIfInBounds i (xs.getD i fallback) = xs := by
  refine Array.ext_getElem? fun j => ?_
  rw [Array.getElem?_setIfInBounds, Array.getD_eq_getD_getElem?]
  split
  next heq =>
    subst heq
    split
    next hlt => rw [Array.getElem?_eq_getElem hlt, Option.getD_some]
    next hge => rw [Array.getElem?_eq_none (Nat.le_of_not_lt hge)]
  next => rfl

/-- Nothing has happened to a replica that is put back as it was taken. -/
theorem setContext_self (g : ReplicaGroup) (i : Nat) :
    g.setContext i ⟨(g.member i).sync, g.transport i, g.metrics⟩ = g := by
  have hmembers : g.members.setIfInBounds i (g.member i) = g.members := setIfInBounds_getD ..
  have htransports :
      g.transports.setIfInBounds (g.member i).transport (g.transport i) = g.transports :=
    setIfInBounds_getD ..
  unfold setContext
  dsimp only
  rw [hmembers, htransports]

/-! ## Groups on one bus -/

/-- All replicas of a group are on one bus. -/
structure OnBus (g : ReplicaGroup) (bus : InMemoryBus) : Prop where
  transports_eq : g.transports = #[.memory bus]
  transport_eq : ∀ m ∈ g.members, m.transport = 0

section OnBus

variable {g : ReplicaGroup} {bus bus' : InMemoryBus}

/-- All replicas use the only transport. -/
theorem OnBus.member_transport (h : g.OnBus bus) (i : Nat) : (g.member i).transport = 0 := by
  unfold member
  -- a place outside of the group stands for a replica on the first transport
  by_cases hi : i < g.members.size
  · rw [← Array.getElem_eq_getD (h := hi)]
    exact h.transport_eq _ (Array.getElem_mem hi)
  · rw [Array.getD_eq_getD_getElem?, Array.getElem?_eq_none (Nat.le_of_not_lt hi)]
    rfl

/-- For all of them it is the same bus. -/
theorem OnBus.transport (h : g.OnBus bus) (i : Nat) : g.transport i = .memory bus := by
  rw [ReplicaGroup.transport, h.member_transport i, h.transports_eq]
  rfl

/-- One member of a group is set, if there is one at the place. -/
theorem member_setMember (g : ReplicaGroup) (i j : Nat) (m : Member) :
    (g.setMember i m).member j = if i = j ∧ i < g.members.size then m else g.member j := by
  simp only [setMember, member, Array.getD_eq_getD_getElem?, Array.getElem?_setIfInBounds]
  by_cases hij : i = j
  · subst hij
    by_cases hi : i < g.members.size
    · simp [hi]
    · simp [hi]
  · simp [hij]

/-- What the new member has in common with the one that it replaces does not change. -/
theorem member_setMember_congr {α : Type} (f : Member → α) (g : ReplicaGroup) {i : Nat} {m : Member}
    (h : f m = f (g.member i)) (j : Nat) : f ((g.setMember i m).member j) = f (g.member j) := by
  rw [member_setMember]
  split
  next hij => rw [h, hij.1]
  next => rfl

theorem member_setContext (g : ReplicaGroup) (i j : Nat) (c : ConsumeLoop.Context) :
    (g.setContext i c).member j =
      if i = j ∧ i < g.members.size then { g.member i with sync := c.sync } else g.member j :=
  g.member_setMember i j _

theorem member_setContext_congr {α : Type} (f : Member → α) (g : ReplicaGroup) (i j : Nat)
    (c : ConsumeLoop.Context) (h : f { g.member i with sync := c.sync } = f (g.member i)) :
    f ((g.setContext i c).member j) = f (g.member j) :=
  member_setMember_congr f { g with
    transports := g.transports.setIfInBounds (g.member i).transport c.transport
    metrics := c.metrics } h j

@[simp]
theorem size_members_setMember (g : ReplicaGroup) (i : Nat) (m : Member) :
    (g.setMember i m).members.size = g.members.size := Array.size_setIfInBounds

@[simp]
theorem size_members_setContext (g : ReplicaGroup) (i : Nat) (c : ConsumeLoop.Context) :
    (g.setContext i c).members.size = g.members.size := Array.size_setIfInBounds

theorem OnBus.setMember (h : g.OnBus bus) (i : Nat) {m : Member} (hm : m.transport = 0) :
    (g.setMember i m).OnBus bus where
  transports_eq := h.transports_eq
  transport_eq m' hm' := by
    obtain hold | rfl := Array.mem_or_eq_of_mem_setIfInBounds hm'
    · exact h.transport_eq m' hold
    · exact hm

theorem OnBus.setTransport (h : g.OnBus bus) (i : Nat) (bus' : InMemoryBus) :
    OnBus { g with
      transports := g.transports.setIfInBounds (g.member i).transport (.memory bus') } bus' where
  transports_eq := by simp [h.member_transport i, h.transports_eq]
  transport_eq := h.transport_eq

theorem OnBus.setContext (h : g.OnBus bus) (i : Nat) {c : ConsumeLoop.Context}
    (hc : c.transport = .memory bus') : (g.setContext i c).OnBus bus' := by
  have hset := (h.setTransport i bus').setMember i
    (m := { g.member i with sync := c.sync }) (h.member_transport i)
  refine ⟨?_, hset.transport_eq⟩
  rw [← hset.transports_eq, ReplicaGroup.setContext, hc]
  rfl

end OnBus

section Publishing

variable {g : ReplicaGroup} {i : Nat} {topic key : String} {payload : Bytes} {bus : InMemoryBus}
  {event : RegistryEvent}

/-- Publishing a payload changes the transports and nothing else. -/
theorem publishRaw_eq (g : ReplicaGroup) (i : Nat) (topic key : String) (payload : Bytes) :
    ∃ transports : Array Transport, transports.size = g.transports.size ∧
      (g.publishRaw i topic key payload).2 = { g with transports } := by
  unfold publishRaw
  split
  next => exact ⟨g.transports, rfl, rfl⟩
  next => exact ⟨_, Array.size_setIfInBounds, rfl⟩

theorem publishRaw_of_error {e : BusError} (hbus : g.transport i = .memory bus)
    (h : bus.publish topic key payload = .error e) :
    g.publishRaw i topic key payload = (.error e, g) := by
  rw [publishRaw, hbus, Transport.publish, h]
  rfl

/-- What the bus accepts is all that changes. -/
theorem publishRaw_of_ok {accepted : Nat × InMemoryBus} (hbus : g.transport i = .memory bus)
    (h : bus.publish topic key payload = .ok accepted) :
    g.publishRaw i topic key payload =
      (.ok accepted.1,
        { g with
          transports :=
            g.transports.setIfInBounds (g.member i).transport (.memory accepted.2) }) := by
  rw [publishRaw, hbus, Transport.publish, h]
  rfl

/-- A change that the bus refuses is counted, by the replica and in the metrics. -/
theorem publishChange_of_error {e : BusError} (hbus : g.transport i = .memory bus)
    (h : bus.publish (g.member i).sync.config.topic event.key event.encode = .error e) :
    g.publishChange i event =
      (.error (.publish e), g.setContext i
        { sync :=
            { (g.member i).sync with publishFailures := (g.member i).sync.publishFailures + 1 }
          transport := .memory bus
          metrics := g.metrics.countPublishFailure }) := by
  have hpublish : (Transport.memory bus).publish (g.member i).sync.config.topic event.key
      event.encode = .error e := by
    rw [Transport.publish, h]
    rfl
  rw [publishChange, publishWith, hbus, Synchronizer.publishChange_of_error hpublish]

/-- So it is for a change that a replica publishes. -/
theorem publishChange_of_ok {accepted : Nat × InMemoryBus} (hbus : g.transport i = .memory bus)
    (h : bus.publish (g.member i).sync.config.topic event.key event.encode = .ok accepted) :
    g.publishChange i event =
      (.ok (), g.setContext i
        { sync := (g.member i).sync, transport := .memory accepted.2, metrics := g.metrics }) := by
  have hpublish : (Transport.memory bus).publish (g.member i).sync.config.topic event.key
      event.encode = .ok (accepted.1, .memory accepted.2) := by
    rw [Transport.publish, h]
    rfl
  rw [publishChange, publishWith, hbus, Synchronizer.publishChange_of_ok hpublish]

end Publishing

end ReplicaGroup

end ServiceBroker
