import Mathlib.Algebra.BigOperators.Group.Finset.Basic
import ServiceBroker.Proofs.Metrics
import ServiceBroker.Proofs.Replication.Writers

/-!
# Replication is counted twice

Every synchronizer counts what it has applied, what it could not decode and what it could not
publish; the metrics of the process count the same for all replicas together. So the metrics are
the sums of the counts, whatever writers and loops do.

## Main definitions

* `ReplicaGroup.total`: the sum of a count over all replicas;
* `ReplicaGroup.Counted`: the metrics are the sums of the counts;
* `ReplicaGroup.Replicates`: what replication makes of a group.

## Main results

* `ReplicaGroup.Counted.setContext`: a replica that has counted something leaves the sums right;
* `ReplicaGroup.replicates_publishChange`, `Journal.Works.replicates`: writers and loops do no more.
-/

namespace ServiceBroker

namespace ConsumeLoop

/-- A loop counts what its synchronizer handles, and nothing else. -/
theorem Does.countedIn {now : Nat} {signal : Signal} {l l' : ConsumeLoop} {c c' : Context}
    {taken : Option BusMessage} (h : Does now signal l c taken l' c') :
    c.sync.CountedIn c'.sync c.metrics c'.metrics := by
  cases h with
  | stop =>
    unfold ConsumeLoop.stop
    dsimp only
    split <;> exact .refl _ _
  | take => exact Synchronizer.countedIn_handle ..
  | see | lose | subscribe | refused => exact .refl _ _

end ConsumeLoop

namespace ReplicaGroup

variable {g g' g'' : ReplicaGroup} {i : Nat} {c : ConsumeLoop.Context}

/-! ## Sums -/

/-- The sum of a count over all replicas. -/
def total (g : ReplicaGroup) (count : Synchronizer → Nat) : Nat :=
  ∑ i ∈ Finset.range g.members.size, count (g.member i).sync

/-- What is counted over all replicas depends on their synchronizers alone. -/
theorem total_congr (hsize : g'.members.size = g.members.size)
    (hsync : ∀ k, (g'.member k).sync = (g.member k).sync) (count : Synchronizer → Nat) :
    g'.total count = g.total count := by
  simp only [total, hsize, hsync]

/-- One replica counts, and all others stay as they are. -/
theorem total_setContext (hi : i < g.members.size) (c : ConsumeLoop.Context)
    (count : Synchronizer → Nat) :
    (g.setContext i c).total count + count (g.member i).sync = g.total count + count c.sync := by
  have hmem : i ∈ Finset.range g.members.size := Finset.mem_range.mpr hi
  have hrest : ∑ k ∈ (Finset.range g.members.size).erase i,
        count ((g.setContext i c).member k).sync =
      ∑ k ∈ (Finset.range g.members.size).erase i, count (g.member k).sync :=
    Finset.sum_congr rfl fun k hk => by rw [member_setContext_ne (Finset.ne_of_mem_erase hk)]
  have hself : ((g.setContext i c).member i).sync = c.sync := by
    rw [member_setContext, if_pos ⟨rfl, hi⟩]
  rw [total, total, size_members_setContext, ← Finset.add_sum_erase _ _ hmem,
    ← Finset.add_sum_erase _ _ hmem, hrest, hself]
  omega

/-- A replica that is added has counted nothing. -/
theorem total_push {m : Member} (count : Synchronizer → Nat) (hcount : count m.sync = 0) :
    total { g with members := g.members.push m } count = g.total count := by
  have hlast : (member { g with members := g.members.push m } g.members.size) = m := by
    simp [member, Array.getD_eq_getD_getElem?]
  have hold (k : Nat) (hk : k ∈ Finset.range g.members.size) :
      member { g with members := g.members.push m } k = g.member k := by
    have hne : k ≠ g.members.size := Nat.ne_of_lt (Finset.mem_range.mp hk)
    simp only [member, Array.getD_eq_getD_getElem?, Array.getElem?_push, if_neg hne]
  rw [total, Array.size_push, Finset.range_add_one, Finset.sum_insert Finset.notMem_range_self,
    hlast, hcount, Nat.zero_add, total]
  exact Finset.sum_congr rfl fun k hk => by rw [hold k hk]

/-! ## The metrics are the sums -/

/-- What the synchronizers of all replicas have counted, the metrics have counted. -/
structure Counted (g : ReplicaGroup) : Prop where
  placed : g.Placed
  applied : g.metrics.registersApplied + g.metrics.deregistersApplied = g.total (·.eventsApplied)
  decodeFailures : g.metrics.decodeFailures = g.total (·.decodeFailures)
  publishFailures : g.metrics.publishFailures = g.total (·.publishFailures)
  /-- The size of the only registry is noted. -/
  services : g.members.size ≤ 1 → g.metrics.services = (g.member 0).sync.registry.size

theorem counted_nil (transports : Array Transport) (registered : Bool) :
    Counted { transports, members := #[], metrics := { registered } } where
  placed := ⟨fun _ hl => (List.not_mem_nil hl).elim, fun i hi => (Nat.not_lt_zero i hi).elim⟩
  applied := rfl
  decodeFailures := rfl
  publishFailures := rfl
  services _ := rfl

/-- Nothing was counted, neither by a synchronizer nor in the metrics. -/
theorem Counted.of_eq (h : g.Counted) (hplaced : g'.Placed)
    (hsize : g'.members.size = g.members.size)
    (hsync : ∀ k, (g'.member k).sync = (g.member k).sync)
    (hmetrics : g'.metrics.replication = g.metrics.replication) : g'.Counted := by
  have hcount (count : Metrics → Nat) :
      count g'.metrics.replication = count g.metrics.replication := by rw [hmetrics]
  constructor
  case placed => exact hplaced
  case applied =>
    rw [total_congr hsize hsync, ← h.applied]
    exact hcount fun m => m.registersApplied + m.deregistersApplied
  case decodeFailures =>
    rw [total_congr hsize hsync, ← h.decodeFailures]
    exact hcount (·.decodeFailures)
  case publishFailures =>
    rw [total_congr hsize hsync, ← h.publishFailures]
    exact hcount (·.publishFailures)
  case services =>
    intro hone
    rw [hsync, ← h.services (hsize ▸ hone)]
    exact hcount (·.services)

/-- What one replica has counted, the metrics have counted. -/
theorem Counted.setContext (h : g.Counted) (hi : i < g.members.size)
    (hcounted : (g.member i).sync.CountedIn c.sync g.metrics c.metrics) :
    (g.setContext i c).Counted := by
  have hmetrics : (g.setContext i c).metrics = c.metrics := rfl
  constructor
  case placed => exact h.placed.setContext i c h.placed.replica_lt
  case applied =>
    have htotal := total_setContext hi c (·.eventsApplied)
    have happlied := hcounted.applied
    have hbefore := h.applied
    rw [hmetrics]
    omega
  case decodeFailures =>
    have htotal := total_setContext hi c (·.decodeFailures)
    have hfailures := hcounted.decodeFailures
    have hbefore := h.decodeFailures
    rw [hmetrics]
    omega
  case publishFailures =>
    have htotal := total_setContext hi c (·.publishFailures)
    have hfailures := hcounted.publishFailures
    have hbefore := h.publishFailures
    rw [hmetrics]
    omega
  case services =>
    intro hone
    rw [size_members_setContext] at hone
    -- a gauge shows the last replica that has set it, here the only one
    obtain rfl : i = 0 := by omega
    rw [hmetrics, hcounted.services (h.services hone), member_setContext, if_pos ⟨rfl, hi⟩]

/-- A replica that is added has counted nothing, and its registry is empty. -/
theorem Counted.push (h : g.Counted) {m : Member} (hplaced : m.transport < g.transports.size)
    (hnew : ∃ config, m.sync = { config }) :
    Counted { g with members := g.members.push m } := by
  obtain ⟨config, hsync⟩ := hnew
  have hcount (count : Synchronizer → Nat) (hzero : count { config } = 0) :
      total { g with members := g.members.push m } count = g.total count :=
    total_push count (by rw [hsync, hzero])
  have hmember (k : Nat) : member { g with members := g.members.push m } k =
      if k = g.members.size then m else g.member k := by
    simp only [member, Array.getD_eq_getD_getElem?, Array.getElem?_push]
    split <;> rfl
  constructor
  case placed =>
    refine ⟨fun l hl => ?_, fun k hk => ?_⟩
    · have hlt := h.placed.replica_lt l hl
      rw [Array.size_push]
      omega
    · rw [hmember]
      rw [Array.size_push] at hk
      split
      next => exact hplaced
      next hne => exact h.placed.transport_lt k (by omega)
  case applied =>
    rw [hcount _ rfl]
    exact h.applied
  case decodeFailures =>
    rw [hcount _ rfl]
    exact h.decodeFailures
  case publishFailures =>
    rw [hcount _ rfl]
    exact h.publishFailures
  case services =>
    -- the replica is the first one, so that the registry that was noted before was empty
    intro hone
    rw [Array.size_push] at hone
    have hnone : g.members.size = 0 := by omega
    have hempty : (g.member 0).sync.registry.size = m.sync.registry.size := by
      rw [member, Array.getD_eq_getD_getElem?, Array.getElem?_eq_none hnone.le, hsync]
      rfl
    rw [hmember, if_pos hnone.symm, ← hempty]
    exact h.services (by omega)

/-! ## Replication -/

/-- Replication has gone on: it is counted on both sides, and no delivery and no channel is. -/
structure Replicates (g g' : ReplicaGroup) : Prop where
  counted : g.Counted → g'.Counted
  size : g'.members.size = g.members.size
  transports : g'.transports.size = g.transports.size
  deliveries : g'.metrics.deliveries = g.metrics.deliveries
  liveChannels : g'.metrics.liveChannels = g.metrics.liveChannels

theorem Replicates.refl (g : ReplicaGroup) : g.Replicates g := ⟨id, rfl, rfl, rfl, rfl⟩

theorem Replicates.trans (h : g.Replicates g') (h' : g'.Replicates g'') : g.Replicates g'' where
  counted := h'.counted ∘ h.counted
  size := h'.size.trans h.size
  transports := h'.transports.trans h.transports
  deliveries := h'.deliveries.trans h.deliveries
  liveChannels := h'.liveChannels.trans h.liveChannels

/-- Whatever counts nothing replicates. -/
theorem Replicates.of_eq (hplaced : g.Placed → g'.Placed)
    (hsize : g'.members.size = g.members.size)
    (htransports : g'.transports.size = g.transports.size)
    (hsync : ∀ k, (g'.member k).sync = (g.member k).sync) (hmetrics : g'.metrics = g.metrics) :
    g.Replicates g' where
  counted h := h.of_eq (hplaced h.placed) hsize hsync (by rw [hmetrics])
  size := hsize
  transports := htransports
  deliveries := by rw [hmetrics]
  liveChannels := by rw [hmetrics]

/-- A loop goes on, and the metrics count what its replica counts. -/
theorem replicates_setContext (hi : i < g.members.size)
    (hcounted : (g.member i).sync.CountedIn c.sync g.metrics c.metrics) :
    g.Replicates (g.setContext i c) where
  counted h := h.setContext hi hcounted
  size := size_members_setContext ..
  transports := Array.size_setIfInBounds
  deliveries := hcounted.deliveries
  liveChannels := hcounted.liveChannels

/-- What becomes of a transport does not matter to the counts. -/
theorem replicates_transports (g : ReplicaGroup) {transports : Array Transport}
    (hsize : transports.size = g.transports.size) : g.Replicates { g with transports } :=
  .of_eq (fun h => ⟨h.replica_lt, fun k hk => hsize ▸ h.transport_lt k hk⟩) rfl hsize
    (fun _ => rfl) rfl

theorem replicates_loops (g : ReplicaGroup) {loops : List ConsumeLoop} {nextLoop : Nat}
    (hloops : g.Placed → ∀ l ∈ loops, l.replica < g.members.size) :
    g.Replicates { g with loops, nextLoop } :=
  .of_eq (fun h => ⟨hloops h, h.transport_lt⟩) rfl rfl (fun _ => rfl) rfl

theorem replicates_setMember (g : ReplicaGroup) {m : Member} (hsync : m.sync = (g.member i).sync)
    (htransport : m.transport = (g.member i).transport) : g.Replicates (g.setMember i m) := by
  have hsize : (g.setMember i m).members.size = g.members.size := Array.size_setIfInBounds
  refine .of_eq (fun h => ⟨fun l hl => hsize ▸ h.replica_lt l hl, fun k hk => ?_⟩) hsize rfl
    (member_setMember_congr (·.sync) g hsync) rfl
  rw [member_setMember_congr (·.transport) g htransport]
  exact h.transport_lt k (hsize ▸ hk)

/-- A replica publishes a change, and both count it if it is refused. -/
theorem replicates_publishChange (hi : i < g.members.size) (event : RegistryEvent) :
    g.Replicates (g.publishChange i event).2 :=
  replicates_setContext hi (Synchronizer.countedIn_publishChange ..)

theorem replicates_publishRaw (g : ReplicaGroup) (i : Nat) (topic key : String) (payload : Bytes) :
    g.Replicates (g.publishRaw i topic key payload).2 := by
  obtain ⟨transports, hsize, hpublish⟩ := g.publishRaw_eq i topic key payload
  rw [hpublish]
  exact g.replicates_transports hsize

theorem replicates_modifyTransport (g : ReplicaGroup) (i : Nat) (f : Transport → Transport) :
    g.Replicates (g.modifyTransport i f) :=
  g.replicates_transports (Array.size_modify ..)

theorem replicates_modifySignal (g : ReplicaGroup) (i : Nat) (f : Signal → Signal) :
    g.Replicates (g.modifySignal i f) := g.replicates_setMember rfl rfl

/-- A replica is started, which counts nothing. -/
theorem replicates_spawn (hi : i < g.members.size) : g.Replicates (g.spawn i).2 := by
  have hasked : g.Replicates (g.asked i) := g.replicates_transports Array.size_setIfInBounds
  rcases g.spawn_cases i with ⟨_, -, hspawn⟩ | ⟨_, -, hspawn⟩
  · rw [hspawn]
    exact hasked
  · rw [hspawn]
    have hset : (g.asked i).Replicates
        ((g.asked i).setMember i { g.member i with latest := some g.nextLoop }) :=
      replicates_setMember _ rfl rfl
    refine hasked.trans (hset.trans (replicates_loops _ fun hplaced l hl => ?_))
    -- only the new loop was not there before
    rw [size_members_setMember]
    rcases List.mem_append.mp hl with hl | hl
    · have hlt := hplaced.replica_lt l hl
      rwa [size_members_setMember] at hlt
    · rw [List.mem_singleton.mp hl]
      exact hi

theorem replicates_advanceTo (g : ReplicaGroup) (time : Nat) : g.Replicates (g.advanceTo time) :=
  .of_eq (fun h => ⟨h.replica_lt, h.transport_lt⟩) rfl rfl (fun _ => rfl) rfl

/-- A loop that goes on counts what it takes. -/
theorem Advances.replicates {received : Option (Nat × BusMessage)} (h : g.Advances received g')
    (hplaced : g.Placed) : g.Replicates g' := by
  cases h with
  | wait => exact .refl g
  | @loop before after l l' taken c hloops hdoes =>
    have hlt (k : ConsumeLoop) (hk : k ∈ before ++ l :: after) : k.replica < g.members.size :=
      hplaced.replica_lt k (hloops ▸ hk)
    refine (replicates_setContext (hlt l (by simp)) hdoes.countedIn).trans
      (replicates_loops _ fun _ k hk => ?_)
    rw [size_members_setContext]
    -- the loop that has gone on works for the replica for which it worked before
    rcases List.mem_append.mp hk with hk | hk
    · exact hlt k (List.mem_append_left _ hk)
    rcases List.mem_cons.mp hk with rfl | hk
    · rw [hdoes.replica_eq]
      exact hlt l (by simp)
    · exact hlt k (by simp [hk])

end ReplicaGroup

/-- Loops that go on replicate. -/
theorem Journal.Works.replicates {j j' : Journal} (h : j.Works j') (hcounted : j.group.Counted) :
    j.group.Replicates j'.group := by
  refine h.induct (P := fun k => j.group.Replicates k.group) (.refl _) ?_ ?_
  · exact fun k taken g hk hadvance =>
      hk.trans (hadvance.replicates (hk.counted hcounted).placed)
  · exact fun k loops hk hperm => hk.trans (ReplicaGroup.replicates_loops _ fun hplaced l hl =>
      hplaced.replica_lt l (hperm.subset hl))

end ServiceBroker
