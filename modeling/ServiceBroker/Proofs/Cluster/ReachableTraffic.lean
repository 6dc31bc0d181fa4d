import ServiceBroker.Proofs.Cluster.ReplicaTraffic
import ServiceBroker.Proofs.Cluster.Starting

/-!
# All reachable clusters have traffic

Each replica of each cluster that can come about is in a state to which some moves of traffic lead.
So what holds after all moves of traffic, in whatever order tasks take their turns, holds of every
replica at any time.

- `Cluster.unasked_serve`, `Cluster.unasked_start` and the like: what one replica is asked for
  leaves the others unasked;
- `Cluster.size_serve` and the like: no replica is lost;
- `Cluster.Reachable.exists_shows`: traffic shows every replica of a reachable cluster.
-/

namespace ServiceBroker

open Http (Request)
open WebSocket (Session)

namespace Cluster

variable {c c' : Cluster} {i j : Nat}

/-- A consumer that connects asks one replica only. -/
theorem unasked_connect (h : j ≠ i) {consumer : Urn} {n : Nat}
    (hconnect : c.connect j consumer = some (n, c')) : Unasked i c c' := by
  obtain ⟨channels, -, rfl⟩ := exists_of_connect hconnect
  have hput : Unasked i c (c.setChannels j channels) := unasked_setChannels fun heq => absurd heq h
  exact hput.trans (.of_nodes rfl le_rfl)

/-- A request that is seen through was for one replica only. -/
private theorem unasked_complete (h : j ≠ i) (c : Cluster) (deadline : Nat)
    (reply : Gateway.Reply) :
    Unasked i c (c.complete j deadline reply).2 := by
  cases reply with
  | answer response => exact .refl i c
  | upgrade consumer =>
    rw [complete, Prod.map_snd, id]
    rcases c.unasked_openSession j consumer with hunasked | ⟨n, opened, hconnect, hunasked⟩
    · exact hunasked i
    · exact (unasked_connect h hconnect).trans (hunasked i)
  | delivering d =>
    rw [complete_delivering, Prod.map_snd, id]
    exact unasked_awaitDelivery h ..

/-- A replica is not asked by a request to another one. -/
theorem unasked_serve (h : j ≠ i) (c : Cluster) (r : Request) (canUpgrade : Bool) :
    Unasked i c (c.serve j r canUpgrade).2 := by
  rcases Nat.lt_or_ge (c.arrival j r) (c.requestDeadline j) with hearly | hlate
  · rw [serve_of_early hearly]
    exact (unasked_passTo c _).trans ((unasked_setReplica h _).trans (unasked_complete h _ _ _))
  · rw [serve_of_late hlate]
    exact unasked_passTo c _

/-- Whether a consume loop was started is nothing that a replica is asked for. -/
theorem unasked_of_isStarted {isStarted : Bool}
    (hnodes : c'.nodes = c.nodes.modify j fun n => { n with isStarted })
    (hnow : c.now ≤ c'.now) : Unasked i c c' := by
  have hsize : c.nodes.size ≤ c'.nodes.size := by rw [hnodes, Array.size_modify]
  rcases node_of_modify hnodes i with hsame | ⟨-, hset⟩
  · exact .of_node hsame hsize hnow
  · refine ⟨hsize, ?_, ?_, ?_, hnow⟩ <;> rw [hset]
    exact .start

theorem now_spawn (g : ReplicaGroup) (i : Nat) : (g.spawn i).2.now = g.now := by
  rcases g.spawn_cases i with ⟨_, -, hspawn⟩ | ⟨_, -, hspawn⟩
  · rw [hspawn]
    rfl
  · rw [hspawn]
    rfl

/-- A replica that is started asks for nothing at all. -/
theorem unasked_start (c : Cluster) (j : Nat) : Unasked i c (c.start j).2 := by
  have hnow : c.now ≤ (c.group.spawn j).2.now := (now_spawn c.group j).ge
  rcases c.start_cases j with ⟨-, hsame⟩ | ⟨-, ⟨-, hrefused⟩ | ⟨-, hstarted⟩⟩
  · rw [hsame]
    exact .refl i c
  · rw [hrefused]
    exact .of_nodes rfl hnow
  · rw [hstarted]
    exact unasked_of_isStarted rfl hnow

theorem now_publishRaw (g : ReplicaGroup) (i : Nat) (topic key : String) (payload : Bytes) :
    (g.publishRaw i topic key payload).2.now = g.now := by
  unfold ReplicaGroup.publishRaw
  split <;> rfl

/-! ### How many replicas there are -/

theorem size_connect {consumer : Urn} {n : Nat} (h : c.connect j consumer = some (n, c')) :
    c'.nodes.size = c.nodes.size := by
  obtain ⟨channels, -, rfl⟩ := exists_of_connect h
  exact size_setChannels ..

theorem size_openSession (c : Cluster) (j : Nat) (consumer : Urn) :
    (c.openSession j consumer).2.nodes.size = c.nodes.size := by
  rcases c.openSession_cases j consumer with
    ⟨_, _, hopened⟩ | ⟨_, _, _, _, _, hconnect, -, hopened⟩
  · rw [hopened]
  · rw [hopened]
    exact (size_settleChannels ..).trans (size_connect hconnect)

theorem size_look (c : Cluster) (j : Nat) (d : Dispatch) :
    (c.look j d).2.nodes.size = c.nodes.size :=
  (size_settleChannels ..).trans (size_settle c)

theorem size_awaitDelivery (j deadline steps : Nat) (d : Dispatch) (c : Cluster) :
    (awaitDelivery j deadline steps d c).2.nodes.size = c.nodes.size :=
  awaitDelivery_induct (P := fun c' _ => c'.nodes.size = c.nodes.size)
    (Q := fun c' => c'.nodes.size = c.nodes.size)
    (fun _ _ h => (size_look ..).trans h) (fun _ _ _ h => h)
    (fun _ _ _ h _ => (size_setReplica ..).trans h) (fun _ _ h => (size_settleChannels ..).trans h)
    rfl deadline steps

theorem size_complete (c : Cluster) (j deadline : Nat) (reply : Gateway.Reply) :
    (c.complete j deadline reply).2.nodes.size = c.nodes.size := by
  cases reply with
  | answer response => rfl
  | upgrade consumer => exact size_openSession ..
  | delivering d =>
    rw [complete_delivering, Prod.map_snd, id]
    exact size_awaitDelivery ..

/-- No replica is lost when a request is served. -/
theorem size_serve (c : Cluster) (j : Nat) (r : Request) (canUpgrade : Bool) :
    (c.serve j r canUpgrade).2.nodes.size = c.nodes.size := by
  rcases Nat.lt_or_ge (c.arrival j r) (c.requestDeadline j) with hearly | hlate
  · rw [serve_of_early hearly]
    exact (size_complete ..).trans ((size_setReplica ..).trans (size_passTo ..))
  · rw [serve_of_late hlate]
    exact size_passTo ..

theorem size_start (c : Cluster) (j : Nat) : (c.start j).2.nodes.size = c.nodes.size := by
  rcases c.start_cases j with ⟨-, hsame⟩ | ⟨-, ⟨-, hrefused⟩ | ⟨-, hstarted⟩⟩
  · rw [hsame]
  · rw [hrefused]
  · rw [hstarted]
    exact Array.size_modify ..

/-! ### All of them have traffic -/

/-- A replica that has just been added has seen nothing but time pass. -/
private theorem exists_shows_added {config : BrokerConfig} (h : c.add config = .ok c') :
    ∃ t : Traffic, t.IsReachable ∧ t.Shows c' c.nodes.size := by
  have hnode := node_add_self h
  let t : Traffic := .start config.subscriptions.maxDescriptorsPerConsumer
    config.gateway.liveChannelBuffer config.delivery.sendTimeout.millisUp
  refine ⟨t.run [.advance c.now], ⟨_, _, _, _, rfl⟩, ?_, ?_, ?_, ?_⟩
  · rw [hnode]
    rfl
  · rw [hnode]
    rfl
  · rw [hnode]
    rfl
  · exact (Nat.zero_add c.now).trans (now_add h).symm

/-- Traffic shows the replica that is added, and goes on showing the others. -/
theorem exists_shows_add {config : BrokerConfig} (h : c.add config = .ok c')
    (ih : i < c.nodes.size → ∃ t : Traffic, t.IsReachable ∧ t.Shows c i)
    (hi : i < c'.nodes.size) : ∃ t : Traffic, t.IsReachable ∧ t.Shows c' i := by
  have hsize := size_add h
  rw [hsize] at hi
  rcases Nat.lt_succ_iff_lt_or_eq.mp hi with hold | rfl
  · obtain ⟨t, hreachable, hshows⟩ := ih hold
    have hnode : c'.node i = c.node i := by rw [node_add h, if_neg (Nat.ne_of_lt hold)]
    have hunasked : Unasked i c c' := .of_node hnode (by omega) (now_add h).ge
    obtain ⟨t', hlead, hshows'⟩ := hshows.exists_unasked hunasked
    exact ⟨t', hreachable.of_leadsTo hlead, hshows'⟩
  · exact exists_shows_added h

/-- Traffic shows every replica of every cluster that can come about. -/
theorem Reachable.exists_shows (h : c.Reachable) (hi : i < c.nodes.size) :
    ∃ t : Traffic, t.IsReachable ∧ t.Shows c i := by
  -- a replica that is not asked goes on as before
  have hunasked {c c' : Cluster} (hsize : c'.nodes.size = c.nodes.size) (h : Unasked i c c')
      (ih : i < c.nodes.size → ∃ t : Traffic, t.IsReachable ∧ t.Shows c i)
      (hi : i < c'.nodes.size) : ∃ t : Traffic, t.IsReachable ∧ t.Shows c' i := by
    obtain ⟨t, hreachable, hshows⟩ := ih (hsize ▸ hi)
    obtain ⟨t', hlead, hshows'⟩ := hshows.exists_unasked h
    exact ⟨t', hreachable.of_leadsTo hlead, hshows'⟩
  induction h with
  | empty shared exposed => cases shared <;> cases hi
  | add _ hadd ih => exact exists_shows_add hadd ih hi
  | @start c j _ _ ih => exact hunasked (size_start c j) (unasked_start c j) ih hi
  | @serve c j r canUpgrade _ _ ih =>
    rw [size_serve] at hi
    by_cases heq : j = i
    · subst heq
      obtain ⟨t, hreachable, hshows⟩ := ih hi
      obtain ⟨posts, t', hlead, hshows', -⟩ := hshows.exists_serve hi r canUpgrade
      exact ⟨t', hreachable.of_leadsTo hlead, hshows'⟩
    · exact hunasked (size_serve c j r canUpgrade) (unasked_serve heq c r canUpgrade) ih
        (by rwa [size_serve])
  | @connect c c' j n consumer _ _ hconnect ih =>
    have hsize := size_connect hconnect
    by_cases heq : j = i
    · subst heq
      obtain ⟨t, hreachable, hshows⟩ := ih (hsize ▸ hi)
      obtain ⟨t', hlead, hshows'⟩ := hshows.exists_connect (hsize ▸ hi) hconnect
      exact ⟨t', hreachable.of_leadsTo hlead, hshows'⟩
    · exact hunasked hsize (unasked_connect heq hconnect) ih hi
  | @disconnect c j n _ _ ih =>
    have hdrop : Unasked i c (c.disconnect j n) := unasked_settleChannels fun heq =>
      heq ▸ .drop n .start
    exact hunasked (size_settleChannels ..) hdrop ih hi
  | @receive c j n _ _ ih =>
    have hread : Unasked i c (c.receive j n).2 := unasked_settleChannels fun heq =>
      heq ▸ .receive n .start
    exact hunasked (size_settleChannels ..) hread ih hi
  | @clientSend c session frame _ ih =>
    exact hunasked (c := c) rfl (.of_nodes rfl le_rfl) ih hi
  | @clientSendBytes c session bytes _ ih =>
    exact hunasked (c := c) rfl (.of_nodes rfl le_rfl) ih hi
  | @clientRead c session _ ih => exact hunasked (c := c) rfl (.of_nodes rfl le_rfl) ih hi
  | @clientDrop c session _ ih => exact hunasked (c := c) rfl (.of_nodes rfl le_rfl) ih hi
  | @publish c j topic key payload _ _ ih =>
    exact hunasked (c := c) rfl (.of_nodes rfl (now_publishRaw ..).ge) ih hi
  | @closeBus c j _ _ ih => exact hunasked (c := c) rfl (.of_nodes rfl le_rfl) ih hi
  | @settle c _ ih => exact hunasked (size_settle c) (unasked_settle c) ih hi
  | @advance c millis _ ih =>
    exact hunasked (c := c) rfl (unasked_advanceTo c (c.now + millis)) ih hi
  | @shutdown c j _ _ ih =>
    have hsize : (c.shutdown j).nodes.size = c.nodes.size := by
      rw [Cluster.shutdown, size_settle]
      exact Array.size_modify ..
    let signalled : Cluster := { c with
      group := c.group.modifySignal j (·.set true)
      nodes := c.nodes.modify j fun n => { n with isStarted := false } }
    have hsignalled : Unasked i c signalled := unasked_of_isStarted rfl le_rfl
    exact hunasked hsize (hsignalled.trans (unasked_settle signalled)) ih hi

end Cluster

end ServiceBroker
