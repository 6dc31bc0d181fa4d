import ServiceBroker.Proofs.Cluster.Process

/-!
# The gauge of live channels

Opening and dropping a live channel changes the channels, then counts them, and then sets the gauge.
If one worker runs all tasks, no other task changes the channels before the gauge is set, and so the
gauge shows them whenever no update of it is under way. With two workers this can go wrong: two
channels are opened at the same time, the worker that counted first sets the gauge last, and the
gauge shows one channel less than there are until the next one is opened or dropped.

## Main definitions

* `Process.Agrees`: what the exposition of the metrics says about a process;
* `Process.Gauged`: the invariant of the gauge if there is one worker.

## Main results

* `Process.gauged_step`: with one worker, nothing that happens breaks the invariant;
* `Process.agrees_iff`: the counters agree with what they report for any number of workers, and the
  gauge of live channels does so for one only.
-/

namespace ServiceBroker

namespace Process

variable {workers : Nat} {p p' : Process}

/-! ## One worker -/

/-- How many consumers are connected to the first replica. -/
def liveCount (p : Process) : Nat := (p.cluster.node 0).channels.connectionCount

/-- While one worker runs all tasks, at most one update of the gauge is under way; what it has
counted is still so, and the gauge is right when none is under way. -/
structure Gauged (p : Process) : Prop where
  alone : p.updates.length ≤ 1
  placed : ∀ i, .changed i ∈ p.updates → i < p.cluster.nodes.size
  counted : ∀ n, .counted n ∈ p.updates → p.cluster.nodes.size ≤ 1 → n = p.liveCount
  atRest : p.updates = [] → p.cluster.nodes.size ≤ 1 →
    p.cluster.group.metrics.liveChannels = p.liveCount

private theorem gauged_start (shared : Option BusConfig) (exposed : Bool) :
    (start shared exposed).Gauged where
  alone := Nat.zero_le 1
  placed i hi := absurd hi List.not_mem_nil
  counted n hn := absurd hn List.not_mem_nil
  atRest _ _ := by cases shared <;> rfl

theorem connectionCount_receive (channels : LiveChannels) (n : Nat) :
    (channels.receive n).2.connectionCount = channels.connectionCount := by
  rw [LiveChannels.connectionCount, LiveChannels.current_receive, LiveChannels.connectionCount]

/-- An action of a push leaves the number of live channels as it is. -/
theorem connectionCount_act (push : Push) (now patience : Nat) (channels : LiveChannels)
    (action : Push.Action) :
    (push.act now patience channels action).2.connectionCount = channels.connectionCount := by
  have hframe := (push.step_act now patience channels action).frame
  rw [LiveChannels.connectionCount, hframe.1, LiveChannels.connectionCount]

/-- What no action of a push changes of the live channels, no pushes change. -/
theorem actsAll_eq {α : Type} {f : LiveChannels → α} {now patience : Nat}
    (hact : ∀ (push : Push) (channels : LiveChannels) (action : Push.Action),
      f (push.act now patience channels action).2 = f channels)
    (actions : List Push.Action) (pushes : List Push) (channels : LiveChannels) :
    f (Push.actsAll now patience actions pushes channels).2 = f channels := by
  have hacts (actions : List Push.Action) (push : Push) (channels : LiveChannels) :
      f (push.acts now patience actions channels).2 = f channels := by
    induction actions generalizing push channels with
    | nil => rfl
    | cons action actions ih =>
      rw [Push.acts, ih]
      exact hact push channels action
  induction pushes generalizing channels with
  | nil => rfl
  | cons push pushes ih =>
    rw [Push.actsAll, ih]
    exact hacts actions push channels

theorem connectionCount_actsAll (now patience : Nat) (actions : List Push.Action)
    (pushes : List Push) (channels : LiveChannels) :
    (Push.actsAll now patience actions pushes channels).2.connectionCount =
      channels.connectionCount :=
  actsAll_eq (fun push channels action => connectionCount_act push now patience channels action)
    actions pushes channels

/-- Neither the live channels of the first replica nor their gauge have changed. -/
structure SameGauge (p p' : Process) : Prop where
  updates : p'.updates = p.updates
  size : p'.cluster.nodes.size = p.cluster.nodes.size
  gauge : p'.cluster.group.metrics.liveChannels = p.cluster.group.metrics.liveChannels
  live : p'.liveCount = p.liveCount

theorem Gauged.of_same (h : p.Gauged) (hsame : p.SameGauge p') : p'.Gauged := by
  obtain ⟨hupdates, hsize, hgauge, hlive⟩ := hsame
  constructor
  case alone =>
    rw [hupdates]
    exact h.alone
  case placed =>
    rw [hupdates, hsize]
    exact h.placed
  case counted =>
    rw [hupdates, hsize, hlive]
    exact h.counted
  case atRest =>
    rw [hupdates, hsize, hgauge, hlive]
    exact h.atRest

/-- What belongs to a replica alone changes, but not the number of its live channels. -/
theorem sameGauge_modify {i : Nat} {f : Node → Node} (calls : List Call)
    (hf : (f (p.cluster.node i)).channels.connectionCount =
      (p.cluster.node i).channels.connectionCount) :
    p.SameGauge { p with
      cluster := { p.cluster with nodes := p.cluster.nodes.modify i f }, calls } where
  updates := rfl
  size := Array.size_modify ..
  gauge := rfl
  live := by
    have hmodified : ({ p.cluster with nodes := p.cluster.nodes.modify i f } : Cluster).nodes =
      p.cluster.nodes.modify i f := rfl
    unfold liveCount
    rcases Cluster.node_of_modify hmodified 0 with hsame | ⟨rfl, hset⟩
    · rw [hsame]
    · rw [hset, hf]

theorem sameGauge_withGroup {group : ReplicaGroup} (h : p.cluster.group.Replicates group) :
    p.SameGauge (p.withGroup group) :=
  ⟨rfl, rfl, h.liveChannels, rfl⟩

/-- A live channel has been opened or dropped by the one task that runs. -/
theorem Gauged.changed {i : Nat} {channels : LiveChannels} (h : p.updates = [])
    (hi : i < p.cluster.nodes.size) :
    Gauged { p with
      cluster := p.cluster.setChannels i channels, updates := p.updates ++ [.changed i] } := by
  rw [h, List.nil_append]
  constructor
  case alone => exact le_rfl
  case placed =>
    intro j hj
    rw [GaugeUpdate.changed.inj (List.mem_singleton.mp hj)]
    exact hi.trans_eq (Cluster.size_setChannels ..).symm
  case counted => exact fun n hn => by cases List.mem_singleton.mp hn
  case atRest => exact fun hnone => by cases hnone

/-- A replica that is added has no live channel. -/
theorem Gauged.add (h : p.Gauged) {config : BrokerConfig} {c : Cluster}
    (hadd : p.cluster.add config = .ok c) : Gauged { p with cluster := c } := by
  have hsize := Cluster.size_add hadd
  have hgauge : c.group.metrics = p.cluster.group.metrics := by
    rcases Cluster.add_cases hadd with ⟨_, -, rfl⟩ | ⟨-, rfl⟩ <;> rfl
  -- if it is the first one, then no live channel was counted before
  have hlive (hone : c.nodes.size ≤ 1) : liveCount { p with cluster := c } = p.liveCount := by
    have hnone : p.cluster.nodes.size = 0 := by omega
    have hbefore : p.liveCount = 0 := by
      rw [liveCount, Cluster.node_of_size_le hnone.le]
      rfl
    rw [hbefore, liveCount, Cluster.node_add hadd, if_pos hnone.symm]
    rfl
  have hfewer : p.cluster.nodes.size ≤ c.nodes.size := by omega
  constructor
  case alone => exact h.alone
  case placed => exact fun i hi => (h.placed i hi).trans_le hfewer
  case counted =>
    intro n hn hone
    exact (h.counted n hn (hfewer.trans hone)).trans (hlive hone).symm
  case atRest =>
    intro hnone hone
    rw [hgauge, hlive hone]
    exact h.atRest hnone (hfewer.trans hone)

/-- The only update that is under way. -/
theorem Gauged.updates_eq (h : p.Gauged) {k : Nat} {update : GaugeUpdate}
    (hk : p.updates[k]? = some update) : p.updates = [update] ∧ k = 0 := by
  obtain ⟨hlt, hget⟩ := List.getElem?_eq_some_iff.mp hk
  have hone := h.alone
  obtain rfl : k = 0 := by omega
  obtain ⟨only, honly⟩ := List.length_eq_one_iff.mp (by omega : p.updates.length = 1)
  refine ⟨?_, rfl⟩
  rw [honly] at hk ⊢
  rw [Option.some.inj hk]

/-- The live channels are counted, as no other task changes them. -/
theorem Gauged.count (h : p.Gauged) {k i : Nat} (hk : p.updates[k]? = some (.changed i)) :
    Gauged { p with
      updates := p.updates.set k (.counted (p.cluster.node i).channels.connectionCount) } := by
  obtain ⟨hupdates, rfl⟩ := h.updates_eq hk
  have hi : i < p.cluster.nodes.size := h.placed i (by rw [hupdates]; exact List.mem_cons_self)
  rw [hupdates]
  constructor
  case alone => exact le_rfl
  case placed => exact fun j hj => by cases List.mem_singleton.mp hj
  case counted =>
    intro n hn hone
    obtain rfl : i = 0 := Nat.lt_one_iff.mp (hi.trans_le hone)
    exact GaugeUpdate.counted.inj (List.mem_singleton.mp hn)
  case atRest => exact fun hnone => by cases hnone

/-- The gauge is set to what is still so. -/
theorem Gauged.gauge (h : p.Gauged) {k n : Nat} (hk : p.updates[k]? = some (.counted n)) :
    Gauged { p with cluster := p.cluster.setGauge n, updates := p.updates.eraseIdx k } := by
  obtain ⟨hupdates, rfl⟩ := h.updates_eq hk
  have hcounted := h.counted n (by rw [hupdates]; exact List.mem_cons_self)
  rw [hupdates]
  constructor
  case alone => exact Nat.zero_le 1
  case placed => exact fun j hj => absurd hj List.not_mem_nil
  case counted => exact fun m hm => absurd hm List.not_mem_nil
  case atRest => exact fun _ hone => hcounted hone

/-- If one worker runs all tasks, the gauge stays right. -/
theorem gauged_step (hworkers : workers ≤ 1) (haudited : p.cluster.Audited p.reports)
    (h : p.Gauged) (hstep : p.Step workers p') : p'.Gauged := by
  have hsize := haudited.size
  cases hstep with
  | add hadd => exact h.add hadd
  | @start i hi =>
    have hspawn := sameGauge_withGroup (ReplicaGroup.replicates_spawn (hsize.symm ▸ hi))
    rcases p.cluster.start_cases i with ⟨-, hsame⟩ | ⟨-, ⟨-, hrefused⟩ | ⟨-, hstarted⟩⟩
    · rw [hsame]
      exact h
    · rw [hrefused]
      exact h.of_same hspawn
    · rw [hstarted]
      exact (h.of_same hspawn).of_same (sameGauge_modify (i := i) _ rfl)
  | publishChange event hi =>
    exact h.of_same (sameGauge_withGroup
      (ReplicaGroup.replicates_publishChange (hsize.symm ▸ hi) event))
  | publishRaw => exact h.of_same (sameGauge_withGroup (ReplicaGroup.replicates_publishRaw ..))
  | transport => exact h.of_same (sameGauge_withGroup (ReplicaGroup.replicates_modifyTransport ..))
  | works hworks =>
    exact h.of_same (sameGauge_withGroup (hworks.replicates haudited.counted))
  | signal => exact h.of_same (sameGauge_withGroup (ReplicaGroup.replicates_modifySignal ..))
  | advance => exact h.of_same (sameGauge_withGroup (ReplicaGroup.replicates_advanceTo ..))
  | isStarted => exact h.of_same (sameGauge_modify _ rfl)
  | subscription => exact h.of_same (sameGauge_modify _ rfl)
  | connect consumer hi hfree _ => exact .changed (List.eq_nil_of_length_eq_zero (by omega)) hi
  | receive i n => exact h.of_same (sameGauge_modify _ (connectionCount_receive ..))
  | drop i n hfree =>
    unfold dropped
    dsimp only
    split
    next hsame => exact h.of_same (sameGauge_modify _ hsame)
    next hfewer =>
      -- a replica that is not there has no live channel to drop
      have hi : i < p.cluster.nodes.size := by
        by_contra hmissing
        rw [Cluster.node_of_size_le (Nat.le_of_not_lt hmissing)] at hfewer
        exact hfewer rfl
      exact .changed (List.eq_nil_of_length_eq_zero (by omega)) hi
  | count hk => exact h.count hk
  | gauge hk => exact h.gauge hk
  | sessions => exact h.of_same ⟨rfl, rfl, rfl, rfl⟩
  | deliver => exact h.of_same ⟨rfl, rfl, rfl, rfl⟩
  | push => exact h.of_same (sameGauge_modify _ (connectionCount_act ..))
  | @finish _ call report _ _ =>
    have hsame := sameGauge_modify (p := p) (i := call.replica) (f := fun n => { n with
      index := (p.cluster.node call.replica).index
      channels := (p.cluster.node call.replica).channels }) p.calls rfl
    exact h.of_same
      ⟨rfl, hsame.size, (p.cluster.group.metrics.countReport_frame report).2, hsame.live⟩
  | abandon => exact h.of_same (sameGauge_modify _ (connectionCount_actsAll ..))

theorem gauged_of_reachable (hworkers : workers ≤ 1) (h : p.Reachable workers) : p.Gauged := by
  obtain ⟨shared, exposed, hsteps⟩ := h
  -- the induction is on the steps, and needs that the counters are right before each
  induction hsteps with
  | refl => exact gauged_start shared exposed
  | tail hsteps hstep ih =>
    have haudited := audited_of_reachable ⟨shared, exposed, hsteps⟩
    exact gauged_step hworkers haudited ih hstep

/-! ## What the metrics say -/

/-- What is exposed of the metrics of a process agrees with the process. -/
structure Agrees (p : Process) : Prop extends Counts p where
  /-- The gauge shows the live channels of the only replica. -/
  liveChannels : p.cluster.nodes.size = 1 → p.cluster.group.metrics.lines "eb_live_channels" =
    [("", (p.cluster.node 0).channels.connectionCount)]

theorem lines_liveChannels (m : Metrics) : m.lines "eb_live_channels" = [("", m.liveChannels)] := by
  simp [Metrics.lines, Metrics.families]

/-- With one worker, the metrics agree with what they report when no update is under way. -/
private theorem agrees_of_le_one (hworkers : workers ≤ 1) (h : p.Reachable workers)
    (hrest : p.updates = []) : p.Agrees := by
  refine ⟨counts_of_reachable h, fun hone => ?_⟩
  rw [lines_liveChannels, (gauged_of_reachable hworkers h).atRest hrest hone.le, liveCount]

/-! ## Two workers -/

/-- Two workers open a live channel each at the only replica. The first one has counted one channel
when the second one opens its own, and sets the gauge after the second one, which has counted two
of them. -/
theorem exists_racing (hworkers : 1 < workers) :
    ∃ p : Process, p.Reachable workers ∧ p.updates = [] ∧ p.cluster.nodes.size = 1 ∧
      p.cluster.group.metrics.liveChannels = 1 ∧ p.liveCount = 2 := by
  have hadd : (start none true).cluster.add default = .ok _ := rfl
  have hadded : Steps workers (start none true) _ := .single (.add hadd)
  have hfirst := hadded.tail (.connect (i := 0) (n := 0) ⟨"a", "b"⟩ (by decide)
    (Nat.zero_lt_of_lt hworkers) rfl)
  have hcounted := hfirst.tail (.count (k := 0) (i := 0) rfl)
  have hsecond := hcounted.tail (.connect (i := 0) (n := 1) ⟨"c", "d"⟩ (by decide) hworkers rfl)
  have hcounted' := hsecond.tail (.count (k := 1) (i := 0) rfl)
  have hset := (hcounted'.tail (.gauge (k := 1) (n := 2) rfl)).tail (.gauge (k := 0) (n := 1) rfl)
  refine ⟨_, ⟨none, true, hset⟩, rfl, rfl, rfl, ?_⟩
  decide +kernel

/-- The counters and the size of the registry are exposed as they are at any time, with any number
of workers. The number of live channels is so too, whenever no update of its gauge is under way, if
and only if there are no two workers. -/
theorem agrees_iff (workers : Nat) :
    (∀ p : Process, p.Reachable workers → p.Counts) ∧
      ((∀ p : Process, p.Reachable workers → p.updates = [] → p.Agrees) ↔ workers ≤ 1) := by
  refine ⟨fun p h => counts_of_reachable h, fun hagrees => ?_, fun hworkers p h hrest =>
    agrees_of_le_one hworkers h hrest⟩
  by_contra hmany
  obtain ⟨p, hreachable, hrest, hone, hgauge, hlive⟩ := exists_racing (Nat.lt_of_not_le hmany)
  have hlines := (hagrees p hreachable hrest).liveChannels hone
  rw [lines_liveChannels, hgauge, ← liveCount, hlive] at hlines
  cases hlines

/-- A replica has been sent something that is no event, and a notification was pushed to a consumer
that was not connected. -/
theorem agrees_iff_unreached :
    ∃ p : Process, p.Reachable 1 ∧ p.updates = [] ∧ p.cluster.nodes.size = 1 ∧
      p.cluster.group.total (·.decodeFailures) = 1 ∧
      p.reports = [⟨.dispatched, [], [(⟨"a", "b"⟩, .notConnected)]⟩] ∧ p.Agrees := by
  have hadd : (start none true).cluster.add default = .ok _ := rfl
  have hadded : Steps 1 (start none true) _ := .single (.add hadd)
  have hstarted := hadded.tail (.start (i := 0) (by decide))
  have hread := (hstarted.tail (.publishRaw 0 "services" "" [])).tail (.works (.loop 0 .refl))
  have hsubscribed := hread.tail
    (.subscription 0 (.add ⟨"a", "b"⟩ (.namespaceWide "a") [⟨"n", "", ""⟩]))
  have hdelivers := hsubscribed.tail (.deliver (i := 0) ⟨"a", "b"⟩ ⟨"n", "", .null⟩ (by decide))
  have hpushed := hdelivers.tail (@Step.push _ _ 0 _ 0 _ .seek rfl (by decide +kernel) rfl nofun)
  have hfinished := hpushed.tail
    (@Step.finish _ _ 0 _ ⟨.dispatched, [], [(⟨"a", "b"⟩, .notConnected)]⟩ rfl (by decide +kernel))
  have hreachable : Reachable 1 _ := ⟨none, true, hfinished⟩
  refine ⟨_, hreachable, rfl, ?_, ?_, ?_, (agrees_iff 1).2.mpr le_rfl _ hreachable rfl⟩
  all_goals decide +kernel

/-- After a race of two workers, two live channels are open at the only replica and no update is
under way, but the gauge shows one. -/
theorem not_agrees_racing :
    ∃ p : Process, p.Reachable 2 ∧ p.updates = [] ∧ p.cluster.nodes.size = 1 ∧
      p.cluster.group.metrics.lines "eb_live_channels" = [("", 1)] ∧
      (p.cluster.node 0).channels.connectionCount = 2 ∧ ¬p.Agrees := by
  obtain ⟨p, hreachable, hrest, hone, hgauge, hlive⟩ := exists_racing Nat.one_lt_two
  have hlines : p.cluster.group.metrics.lines "eb_live_channels" = [("", 1)] := by
    rw [lines_liveChannels, hgauge]
  refine ⟨p, hreachable, hrest, hone, hlines, hlive, fun hagrees => ?_⟩
  have hexposed := hagrees.liveChannels hone
  rw [hlines, ← liveCount, hlive] at hexposed
  cases hexposed

end Process

end ServiceBroker
