import ServiceBroker.Cluster

/-!
# Single replicas of a cluster

What becomes of each replica when one of them is changed.

- `Cluster.node_of_modify`: one replica was changed, and the others are as they were;
- `Cluster.node_setReplica_self`, `Cluster.node_setChannels_self`: what has become of the one;
- `Cluster.nodes_settleChannels`, `Cluster.settleChannels_sessions`: live channels that have settled
  change nothing else but the gauge.
-/

namespace ServiceBroker

namespace Cluster

open WebSocket (Session)

variable {c c' : Cluster}

/-- There is nothing at a place that no replica has. -/
theorem node_of_size_le {i : Nat} (h : c.nodes.size ≤ i) : c.node i = default := by
  rw [node, Array.getD_eq_getD_getElem?, Array.getElem?_eq_none h, Option.getD_none]

/-- What belongs to a replica after one of them was changed. -/
theorem node_of_modify {i : Nat} {f : Node → Node} (h : c'.nodes = c.nodes.modify i f) (j : Nat) :
    c'.node j = c.node j ∨ i = j ∧ c'.node j = f (c.node j) := by
  simp only [node, Array.getD_eq_getD_getElem?, h, Array.getElem?_modify]
  split
  next heq =>
    cases c.nodes[j]? with
    | none => exact .inl rfl
    | some n => exact .inr ⟨heq, rfl⟩
  next => exact .inl rfl

/-- Only what a change makes of the replica that is there counts. -/
theorem modify_congr {i : Nat} {f g : Node → Node} (h : f (c.node i) = g (c.node i)) :
    c.nodes.modify i f = c.nodes.modify i g := by
  refine Array.ext_getElem? fun j => ?_
  rw [Array.getElem?_modify, Array.getElem?_modify]
  split
  next heq =>
    subst heq
    cases hnode : c.nodes[i]? with
    | none => rfl
    | some n =>
      have hget : c.node i = n := by
        rw [node, Array.getD_eq_getD_getElem?, hnode, Option.getD_some]
      rw [Option.map_some, Option.map_some, ← hget, h]
  next => rfl

/-- Nothing has happened to a replica whose parts are put back as they were. -/
theorem modify_self (c : Cluster) (i : Nat) :
    (c.nodes.modify i fun n =>
      { n with index := (c.node i).index, channels := (c.node i).channels }) = c.nodes := by
  have hid : c.nodes.modify i id = c.nodes := by
    refine Array.ext_getElem? fun j => ?_
    rw [Array.getElem?_modify, Option.map_id, id, ite_self]
  have hsame : (c.nodes.modify i fun n =>
      { n with index := (c.node i).index, channels := (c.node i).channels }) =
        c.nodes.modify i id := modify_congr rfl
  exact hsame.trans hid

/-- What a request does at one replica changes its index and its channels alone. -/
theorem node_setReplica (c : Cluster) (i : Nat) (r : Replica) (j : Nat) :
    (c.setReplica i r).node j = c.node j ∨ i = j ∧
      (c.setReplica i r).node j = { c.node j with index := r.index, channels := r.channels } :=
  node_of_modify (f := fun n => { n with index := r.index, channels := r.channels }) rfl j

theorem node_setChannels (c : Cluster) (i : Nat) (channels : LiveChannels) (j : Nat) :
    (c.setChannels i channels).node j = c.node j ∨
      i = j ∧ (c.setChannels i channels).node j = { c.node j with channels } :=
  node_of_modify (f := fun n => { n with channels }) rfl j

theorem node_setReplica_self {i : Nat} (h : i < c.nodes.size) (r : Replica) :
    (c.setReplica i r).node i = { c.node i with index := r.index, channels := r.channels } := by
  simp only [node, setReplica, Array.getD_eq_getD_getElem?, Array.getElem?_modify, if_true,
    Array.getElem?_eq_getElem h, Option.map_some, Option.getD_some]

/-- The live channels of one replica are changed, and nothing else of it. -/
theorem node_setChannels_self {i : Nat} (h : i < c.nodes.size) (channels : LiveChannels) :
    (c.setChannels i channels).node i = { c.node i with channels } := by
  simp only [node, setChannels, Array.getD_eq_getD_getElem?, Array.getElem?_modify, if_true,
    Array.getElem?_eq_getElem h, Option.map_some, Option.getD_some]

theorem size_setReplica (c : Cluster) (i : Nat) (r : Replica) :
    (c.setReplica i r).nodes.size = c.nodes.size := Array.size_modify ..

theorem size_setChannels (c : Cluster) (i : Nat) (channels : LiveChannels) :
    (c.setChannels i channels).nodes.size = c.nodes.size := Array.size_modify ..

/-- Whether live channels are counted when they are put back or not, the replicas are the same. -/
@[simp]
theorem nodes_settleChannels (c : Cluster) (i : Nat) (channels : LiveChannels) :
    (c.settleChannels i channels).nodes = (c.setChannels i channels).nodes := by
  unfold settleChannels
  split <;> rfl

@[simp]
theorem sessions_settleChannels (c : Cluster) (i : Nat) (channels : LiveChannels) :
    (c.settleChannels i channels).sessions = c.sessions := by
  unfold settleChannels
  split <;> rfl

/-- Live channels that settle are those that the replica has from now on. -/
@[simp]
theorem node_settleChannels (c : Cluster) (i : Nat) (channels : LiveChannels) (j : Nat) :
    (c.settleChannels i channels).node j = (c.setChannels i channels).node j := by
  rw [node, nodes_settleChannels, node]

/-- Which sessions there are does not matter to live channels. -/
theorem settleChannels_sessions (c : Cluster) (i : Nat) (channels : LiveChannels)
    (sessions : Std.ExtTreeMap Nat Session) (nextSession : Nat) :
    settleChannels { c with sessions, nextSession } i channels =
      { c.settleChannels i channels with sessions, nextSession } := by
  by_cases hsame : channels.connectionCount = (c.node i).channels.connectionCount
  · rw [settleChannels, settleChannels, if_pos hsame]
    exact if_pos hsame
  · rw [settleChannels, settleChannels, if_neg hsame]
    exact if_neg hsame

theorem size_settleChannels (c : Cluster) (i : Nat) (channels : LiveChannels) :
    (c.settleChannels i channels).nodes.size = c.nodes.size := by
  rw [nodes_settleChannels]
  exact size_setChannels ..

end Cluster

end ServiceBroker
