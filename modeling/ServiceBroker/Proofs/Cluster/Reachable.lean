import ServiceBroker.Proofs.Cluster.Starting
import ServiceBroker.Proofs.Gateway.PushAnswers

/-!
# What clusters can become

A replica sees requests through one after the other; between them loops and sessions go on.

- `Cluster.Reachable`: what clusters can become from their start on;
- `Cluster.Unasked`: a replica was not asked for anything, though others may have been;
- `Cluster.unasked_settle`, `Cluster.unasked_passTo`, `Cluster.unasked_awaitDelivery`: what goes on
  by itself, and deliveries at other replicas, leave a replica unasked.
-/

namespace ServiceBroker

open Http (Request)
open WebSocket (Session)

namespace Cluster

/-! ## Single replicas -/

section Nodes

variable {c : Cluster} {i : Nat}

theorem size_runSession (c : Cluster) (number : Nat) (s : Session) :
    (c.runSession number s).nodes.size = c.nodes.size := by
  obtain ⟨channels, sessions, -, hran⟩ := c.exists_runSession number s
  rw [hran]
  exact size_settleChannels ..

/-- No replica is lost while loops and sessions go on. -/
theorem size_settle (c : Cluster) : c.settle.nodes.size = c.nodes.size :=
  settle_induct (P := fun settled => settled.nodes.size = c.nodes.size) rfl
    fun _ number s h => (size_runSession _ number s).trans h

theorem size_passTo (c : Cluster) (time : Nat) : (c.passTo time).nodes.size = c.nodes.size :=
  passTo_induct (P := fun c' => c'.nodes.size = c.nodes.size)
    (fun c' h => (size_settle c').trans h) (fun _ _ h => h) rfl time

end Nodes

/-! ## Replicas that are not asked -/

/-- A replica was not asked for anything: at most its live channels were read or dropped, and time
has passed. -/
structure Unasked (i : Nat) (c c' : Cluster) : Prop where
  size : c.nodes.size ≤ c'.nodes.size
  config : (c'.node i).config = (c.node i).config
  index : (c'.node i).index = (c.node i).index
  channels : (c.node i).channels.Reads (c'.node i).channels
  now : c.now ≤ c'.now

section Unasked

variable {c c' c'' : Cluster} {i j : Nat}

/-- A replica that is what it was has not been asked for anything. -/
theorem Unasked.of_node (hnode : c'.node i = c.node i) (hsize : c.nodes.size ≤ c'.nodes.size)
    (hnow : c.now ≤ c'.now) : Unasked i c c' where
  size := hsize
  config := by rw [hnode]
  index := by rw [hnode]
  channels := by
    rw [hnode]
    exact .start
  now := hnow

theorem Unasked.of_nodes (hnodes : c'.nodes = c.nodes) (hnow : c.now ≤ c'.now) :
    Unasked i c c' :=
  .of_node (by rw [node, hnodes, node]) (by rw [hnodes]) hnow

theorem Unasked.refl (i : Nat) (c : Cluster) : Unasked i c c := .of_nodes rfl le_rfl

theorem Unasked.trans (h : Unasked i c c') (h' : Unasked i c' c'') : Unasked i c c'' where
  size := h.size.trans h'.size
  config := h'.config.trans h.config
  index := h'.index.trans h.index
  channels := h.channels.trans h'.channels
  now := h.now.trans h'.now

theorem unasked_setReplica (h : j ≠ i) (r : Replica) : Unasked i c (c.setReplica j r) := by
  rcases node_setReplica c j r i with hsame | ⟨heq, -⟩
  · exact .of_node hsame (size_setReplica c j r).ge le_rfl
  · exact absurd heq h

/-- Putting back live channels that were only read. -/
theorem unasked_setChannels {channels : LiveChannels}
    (h : j = i → (c.node i).channels.Reads channels) :
    Unasked i c (c.setChannels j channels) := by
  refine ⟨(size_setChannels ..).ge, ?_, ?_, ?_, le_rfl⟩
  all_goals rcases node_setChannels c j channels i with hsame | ⟨heq, hset⟩
  · rw [hsame]
  · rw [hset]
  · rw [hsame]
  · rw [hset]
  · rw [hsame]
    exact .start
  · rw [hset]
    exact h heq

/-- Live channels of a replica may settle, but nothing is pushed to them. -/
theorem unasked_settleChannels {channels : LiveChannels}
    (h : j = i → (c.node i).channels.Reads channels) :
    Unasked i c (c.settleChannels j channels) := by
  unfold settleChannels
  split
  · exact unasked_setChannels h
  · exact (unasked_setChannels h).trans (.of_nodes rfl le_rfl)

/-- Sessions are nothing that a replica is asked for. -/
theorem unasked_sessions (c : Cluster) (sessions : Std.ExtTreeMap Nat Session) (nextSession : Nat) :
    Unasked i c { c with sessions, nextSession } := .of_nodes rfl le_rfl

private theorem unasked_runSession (c : Cluster) (number : Nat) (s : Session) :
    Unasked i c (c.runSession number s) := by
  obtain ⟨channels, sessions, hreads, hran⟩ := c.exists_runSession number s
  have hchannels : Unasked i c (c.settleChannels s.replica channels) :=
    unasked_settleChannels fun heq => heq ▸ hreads
  rw [hran]
  exact hchannels.trans (unasked_sessions ..)

/-- While loops and sessions go on, no replica is asked for anything. -/
theorem unasked_settle (c : Cluster) : Unasked i c c.settle :=
  settle_induct (.of_nodes rfl c.group.settled_settle.now.ge) fun _ number s h =>
    h.trans (unasked_runSession _ number s)

theorem unasked_advanceTo (c : Cluster) (time : Nat) : Unasked i c (c.advanceTo time) :=
  .of_nodes rfl (le_max_left ..)

/-- Nor is one while time passes. -/
theorem unasked_passTo (c : Cluster) (time : Nat) : Unasked i c (c.passTo time) :=
  passTo_induct (fun c' h => h.trans (unasked_settle c'))
    (fun c' time h => h.trans (unasked_advanceTo c' time)) (.refl i c) time

/-- A replica is not asked while another one waits for a delivery. -/
theorem unasked_awaitDelivery (h : j ≠ i) (deadline steps : Nat) (d : Dispatch) (c : Cluster) :
    Unasked i c (awaitDelivery j deadline steps d c).2 := by
  have hother (c : Cluster) (channels : LiveChannels) :
      Unasked i c (c.settleChannels j channels) := unasked_settleChannels fun heq => absurd heq h
  refine awaitDelivery_induct (P := fun c' _ => Unasked i c c') ?look ?wait ?report ?cancel
    (.refl i c) deadline steps
  case look => exact fun c' _ hc => hc.trans ((unasked_settle c').trans (hother _ _))
  case wait => exact fun c' _ time hc => hc.trans (unasked_advanceTo c' time)
  case report => exact fun _ _ _ hc _ => hc.trans (unasked_setReplica h _)
  case cancel => exact fun c' _ hc => hc.trans (hother c' _)

/-- A session that is opened reads at most the channel that was opened for it. -/
theorem unasked_openSession (c : Cluster) (j : Nat) (consumer : Urn) :
    (∀ i, Unasked i c (c.openSession j consumer).2) ∨
      ∃ n c', c.connect j consumer = some (n, c') ∧
        ∀ i, Unasked i c' (c.openSession j consumer).2 := by
  rcases c.openSession_cases j consumer with
    ⟨_, _, hopened⟩ | ⟨n, c', _, _, _, hconnect, hreads, hopened⟩
  · exact .inl fun i => hopened ▸ unasked_sessions ..
  · refine .inr ⟨n, c', hconnect, fun i => ?_⟩
    rw [hopened]
    exact (unasked_settleChannels fun heq => heq ▸ hreads).trans (unasked_sessions ..)

end Unasked

/-! ## Reachable clusters -/

/-- What clusters can become from their start on. -/
inductive Reachable : Cluster → Prop
  | empty (shared : Option BusConfig) (exposed : Bool) : Reachable (.empty shared exposed)
  | add {c c' : Cluster} {config : BrokerConfig} : Reachable c → c.add config = .ok c' →
      Reachable c'
  | start {c : Cluster} {i : Nat} : Reachable c → i < c.nodes.size → Reachable (c.start i).2
  | serve {c : Cluster} {i : Nat} (r : Request) (canUpgrade : Bool) : Reachable c →
      i < c.nodes.size → Reachable (c.serve i r canUpgrade).2
  /-- A live channel is opened, dropped or read. -/
  | connect {c c' : Cluster} {i connection : Nat} {consumer : Urn} : Reachable c →
      i < c.nodes.size → c.connect i consumer = some (connection, c') → Reachable c'
  | disconnect {c : Cluster} {i : Nat} (connection : Nat) : Reachable c → i < c.nodes.size →
      Reachable (c.disconnect i connection)
  | receive {c : Cluster} {i : Nat} (connection : Nat) : Reachable c → i < c.nodes.size →
      Reachable (c.receive i connection).2
  /-- The client of a session sends, reads or vanishes. -/
  | clientSend {c : Cluster} (session : Nat) (frame : WebSocket.Frame) : Reachable c →
      Reachable (c.modifySession session fun s => (s.clientSend frame).2)
  | clientSendBytes {c : Cluster} (session : Nat) (bytes : Bytes) : Reachable c →
      Reachable (c.modifySession session fun s => (s.clientSendBytes bytes).getD s)
  | clientRead {c : Cluster} (session : Nat) : Reachable c →
      Reachable (c.modifySession session fun s => s.clientRead.2)
  | clientDrop {c : Cluster} (session : Nat) : Reachable c →
      Reachable (c.modifySession session (·.clientDrop))
  /-- Something is published on a bus from elsewhere, or the bus closes. -/
  | publish {c : Cluster} {i : Nat} (topic key : String) (payload : Bytes) : Reachable c →
      i < c.nodes.size → Reachable { c with group := (c.group.publishRaw i topic key payload).2 }
  | closeBus {c : Cluster} {i : Nat} : Reachable c → i < c.nodes.size →
      Reachable { c with group := c.group.modifyTransport i fun
        | .memory bus => .memory bus.close
        | t => t }
  /-- Loops and sessions go on, or time passes. -/
  | settle {c : Cluster} : Reachable c → Reachable c.settle
  | advance {c : Cluster} (millis : Nat) : Reachable c → Reachable (c.advance millis)
  | shutdown {c : Cluster} {i : Nat} : Reachable c → i < c.nodes.size → Reachable (c.shutdown i)

/-- Settings that are accepted lead on. -/
theorem Reachable.add_getD {c : Cluster} {config : BrokerConfig} (h : c.Reachable)
    (hadd : (c.add config).isOk) : ((c.add config).toOption.getD {}).Reachable := by
  cases hadded : c.add config with
  | error e =>
    rw [hadded] at hadd
    cases hadd
  | ok c' => exact h.add hadded

/-- So does a live channel that is opened. -/
theorem Reachable.connect_getD {c : Cluster} {i : Nat} {consumer : Urn} (h : c.Reachable)
    (hi : i < c.nodes.size) (hconnect : (c.connect i consumer).isSome) :
    (((c.connect i consumer).map Prod.snd).getD {}).Reachable := by
  obtain ⟨⟨connection, c'⟩, hconnected⟩ := Option.isSome_iff_exists.mp hconnect
  rw [hconnected]
  exact h.connect hi hconnected

end Cluster

end ServiceBroker
