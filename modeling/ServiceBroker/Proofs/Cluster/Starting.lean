import ServiceBroker.Cluster
import ServiceBroker.Proofs.Json.Canonical
import ServiceBroker.Proofs.Replication.LoopSteps

/-!
# Replicas that are added and started

A replica that is added comes behind the others, on the transport that all share or on one of its
own, and has done nothing yet. When it is started a loop starts for it, unless it has been started
before; if it is refused a subscription it counts as not started.

- `Cluster.added`: a cluster with one more replica;
- `Cluster.add_cases`: what becomes of a cluster to which a replica is added;
- `Cluster.start_cases`: what becomes of a cluster when a replica is started.
-/

namespace ServiceBroker

/-- A replica that has done nothing. -/
def Node.ofConfig (config : BrokerConfig) : Node where
  config
  index := .empty config.subscriptions.maxDescriptorsPerConsumer
  channels := .ofCapacity config.gateway.liveChannelBuffer

namespace Cluster

variable {c c' : Cluster} {config : BrokerConfig} {i : Nat}

/-! ## Adding a replica -/

/-- A cluster with one more replica, on one of the transports. -/
def added (c : Cluster) (config : BrokerConfig) (transports : Array Transport) (transport : Nat) :
    Cluster :=
  { c with
    group := { c.group with
      transports
      members := c.group.members.push { sync := { config := config.sync }, transport } }
    nodes := c.nodes.push (.ofConfig config) }

/-- A replica that is added is on the transport that all share, or on a bus of its own. -/
theorem add_cases (h : c.add config = .ok c') :
    (∃ place, c.shared = some place ∧ c' = c.added config c.group.transports place) ∨
      c.shared = none ∧ c' = c.added config
        (c.group.transports.push (.memory { config := config.bus })) c.group.transports.size := by
  unfold add at h
  obtain ⟨_, -, h⟩ := Json.exists_of_bind_eq_ok h
  cases hshared : c.shared with
  | none =>
    simp only [hshared] at h
    cases h
    exact .inr ⟨rfl, by rw [added, hshared]; rfl⟩
  | some place =>
    simp only [hshared] at h
    cases h
    exact .inl ⟨place, rfl, by rw [added, hshared]; rfl⟩

theorem exists_added (h : c.add config = .ok c') :
    ∃ transports transport, c' = c.added config transports transport := by
  rcases add_cases h with ⟨place, -, rfl⟩ | ⟨-, rfl⟩
  · exact ⟨_, place, rfl⟩
  · exact ⟨_, _, rfl⟩

/-- Nothing happens to the replicas that are there. -/
theorem node_added (c : Cluster) (config : BrokerConfig) (transports : Array Transport)
    (transport i : Nat) : (c.added config transports transport).node i =
      if i = c.nodes.size then .ofConfig config else c.node i := by
  rw [node, added, Array.getD_eq_getD_getElem?, Array.getElem?_push]
  split
  · rfl
  · rw [node, Array.getD_eq_getD_getElem?]

/-- A replica that is added comes last, and leaves the others as they are. -/
theorem node_add (h : c.add config = .ok c') (i : Nat) :
    c'.node i = if i = c.nodes.size then .ofConfig config else c.node i := by
  obtain ⟨_, _, rfl⟩ := exists_added h
  exact node_added ..

theorem node_add_self (h : c.add config = .ok c') : c'.node c.nodes.size = .ofConfig config := by
  rw [node_add h, if_pos rfl]

/-- There is one replica more then. -/
theorem size_add (h : c.add config = .ok c') : c'.nodes.size = c.nodes.size + 1 := by
  obtain ⟨_, _, rfl⟩ := exists_added h
  exact Array.size_push _

theorem now_add (h : c.add config = .ok c') : c'.now = c.now := by
  obtain ⟨_, _, rfl⟩ := exists_added h
  rfl

/-! ## Starting a replica -/

/-- Starting a replica starts a loop for it, unless it has been started before. -/
theorem start_cases (c : Cluster) (i : Nat) :
    ((c.node i).isStarted = true ∧ (c.start i).2 = c) ∨
      (c.node i).isStarted = false ∧
        ((c.group.spawn i).2.loops = c.group.loops ∧
            (c.start i).2 = { c with group := (c.group.spawn i).2 } ∨
          (∃ l : ConsumeLoop, l.replica = i ∧
              (c.group.spawn i).2.loops = c.group.loops ++ [l]) ∧
            (c.start i).2 = { c with
              group := (c.group.spawn i).2
              nodes := c.nodes.modify i fun n => { n with isStarted := true } }) := by
  unfold start
  split
  next hstarted => exact .inl ⟨hstarted, rfl⟩
  next hstarted =>
    refine .inr ⟨by simpa using hstarted, ?_⟩
    rcases c.group.spawn_cases i with ⟨e, -, hspawn⟩ | ⟨s, -, hspawn⟩
    · rw [hspawn]
      exact .inl ⟨rfl, rfl⟩
    · rw [hspawn]
      exact .inr ⟨⟨_, rfl, rfl⟩, rfl⟩

end Cluster

end ServiceBroker
