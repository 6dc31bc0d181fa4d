import ServiceBroker.Proofs.Cluster.Settling
import ServiceBroker.Proofs.SubscriptionIndex.Entries

/-!
# Who owns the live channel of a consumer

A consumer is connected through the channel that was opened for it last, until this is dropped. A
channel that was superseded before may be dropped at any time, which disconnects nobody. This is
said about histories: a cluster together with the channels that were opened at one of its replicas
and those that were dropped.

## Main definitions

* `ChannelHistory`: what has happened to the live channels of a replica;
* `ChannelHistory.owned?`: the channel that a consumer owns according to its history;
* `ChannelHistory.Lawful`: what the replica says about it.

## Main results

* `LiveChannels.Coherent.current_drop`: dropping a channel disconnects its owner, if it has not
  been superseded, and nobody else;
* `ChannelHistory.owned_run`: the replica and its history agree after any operations.
-/

namespace ServiceBroker

/-- What has happened to the live channels of a replica. -/
structure ChannelHistory where
  /-- The cluster to which the replica belongs. -/
  cluster : Cluster
  /-- The channels that were opened, with their consumers, the newest first. -/
  opened : List (Nat × Urn) := []
  /-- The channels that were dropped. -/
  dropped : List Nat := []

namespace ChannelHistory

/-- What somebody does to the live channels of a replica. -/
inductive Operation where
  /-- A channel is opened for a consumer. -/
  | connect (consumer : Urn)
  /-- A channel is dropped. -/
  | disconnect (connection : Nat)

/-- The channel that was opened last for a consumer. -/
def latest? (h : ChannelHistory) (consumer : Urn) : Option Nat :=
  (h.opened.find? (·.2 = consumer)).map (·.1)

/-- The channel that was opened last for a consumer, unless it was dropped. -/
def owned? (h : ChannelHistory) (consumer : Urn) : Option Nat :=
  (h.latest? consumer).filter (· ∉ h.dropped)

/-- The consumers that own a channel. -/
def owners (h : ChannelHistory) : Finset Urn :=
  (h.opened.map (·.2)).toFinset.filter fun consumer => (h.owned? consumer).isSome

/-- The live channels of a replica. -/
def channels (h : ChannelHistory) (i : Nat) : LiveChannels := (h.cluster.node i).channels

/-- Performs an operation at a replica. Only what was opened can be dropped, and nothing is opened
where no channel can have the buffer that is asked for. -/
def step (i : Nat) (h : ChannelHistory) : Operation → ChannelHistory
  | .connect consumer =>
    match h.cluster.connect i consumer with
    | none => h
    | some (n, cluster) => { h with cluster, opened := (n, consumer) :: h.opened }
  | .disconnect n =>
    if n ∈ h.opened.map (·.1) then
      { h with cluster := h.cluster.disconnect i n, dropped := n :: h.dropped }
    else h

/-- Performs some operations, one after the other. -/
def run (i : Nat) (h : ChannelHistory) (operations : List Operation) : ChannelHistory :=
  operations.foldl (step i) h

/-- No channel has been opened yet, the gauge shows that, and those to come will buffer some number
of frames. -/
structure Begins (c : Cluster) (i capacity : Nat) : Prop where
  bound : i < c.nodes.size
  channels : (c.node i).channels = .ofCapacity capacity
  gauge : c.group.metrics.liveChannels = 0

/-- A replica and the history of its live channels agree. -/
structure Lawful (i : Nat) (h : ChannelHistory) : Prop where
  /-- A consumer is connected through the channel that was opened last for it, if this was not
  dropped. -/
  current : ∀ consumer, (h.channels i).current[consumer]? = h.owned? consumer
  /-- Dropping a channel that was superseded changes nothing: neither who is connected, nor the
  gauge. -/
  superseded : ∀ n consumer, (n, consumer) ∈ h.opened → h.latest? consumer ≠ some n →
    ((h.step i (.disconnect n)).channels i).current = (h.channels i).current ∧
      (h.step i (.disconnect n)).cluster.group = h.cluster.group
  /-- Dropping the channel of a consumer leaves all other consumers alone. -/
  others : ∀ n consumer, (n, consumer) ∈ h.opened → ∀ other, other ≠ consumer →
    ((h.step i (.disconnect n)).channels i).current[other]? = (h.channels i).current[other]?
  /-- Whatever channel is dropped, no other one is touched. -/
  apart : ∀ n m, m ≠ n →
    ((h.step i (.disconnect n)).channels i).channels[m]? = (h.channels i).channels[m]?
  /-- The consumers that are connected are counted, and the gauge shows their number. -/
  count : (h.channels i).connectionCount = h.owners.card
  gauge : h.cluster.group.metrics.liveChannels = (h.channels i).connectionCount

/-- What every operation keeps. -/
structure Sound (i : Nat) (h : ChannelHistory) : Prop where
  bound : i < h.cluster.nodes.size
  coherent : (h.channels i).Coherent
  current : ∀ consumer, (h.channels i).current[consumer]? = h.owned? consumer
  /-- Numbers of channels are given once. -/
  distinct : (h.opened.map (·.1)).Nodup
  fresh : ∀ e ∈ h.opened, e.1 < (h.channels i).nextConnection
  dropped : ∀ n ∈ h.dropped, n ∈ h.opened.map (·.1)
  gauge : h.cluster.group.metrics.liveChannels = (h.channels i).connectionCount

variable {h : ChannelHistory} {i n : Nat} {consumer : Urn}

theorem mem_opened_of_latest? (hlatest : h.latest? consumer = some n) :
    (n, consumer) ∈ h.opened := by
  obtain ⟨⟨m, other⟩, hfind, rfl⟩ := Option.map_eq_some_iff.mp hlatest
  have hother : other = consumer := by simpa using List.find?_some hfind
  subst hother
  exact List.mem_of_find?_eq_some hfind

theorem owned?_eq_some : h.owned? consumer = some n ↔
    h.latest? consumer = some n ∧ n ∉ h.dropped := by
  rw [owned?, Option.filter_eq_some_iff, decide_eq_true_iff]

/-- Of the channels that are owned, one that is dropped is taken out. -/
private theorem owned?_cons_dropped (n : Nat) (consumer : Urn) (cluster : Cluster) :
    { h with cluster, dropped := n :: h.dropped }.owned? consumer =
      if h.owned? consumer = some n then none else h.owned? consumer := by
  refine Option.ext fun m => ?_
  have hafter : { h with cluster, dropped := n :: h.dropped }.owned? consumer = some m ↔
      h.owned? consumer = some m ∧ m ≠ n := by
    rw [owned?_eq_some, owned?_eq_some, List.mem_cons, not_or, and_assoc, and_comm (b := m ≠ n)]
    rfl
  rw [hafter]
  split
  next heq => simp +contextual [heq, eq_comm]
  next hne =>
    refine and_iff_left_of_imp fun heq hsame => hne ?_
    rw [heq, hsame]

/-- The consumer for which a channel was opened. -/
private theorem Sound.consumer_eq (hs : h.Sound i) {other : Urn} (hn : (n, consumer) ∈ h.opened)
    (hother : (n, other) ∈ h.opened) : other = consumer :=
  congrArg Prod.snd (List.inj_on_of_nodup_map hs.distinct hother hn rfl)

/-- Who is connected through a channel is the one for whom it was opened. -/
theorem Sound.mem_opened (hs : h.Sound i) (hcurrent : (h.channels i).current[consumer]? = some n) :
    h.latest? consumer = some n ∧ (n, consumer) ∈ h.opened := by
  rw [hs.current, owned?_eq_some] at hcurrent
  exact ⟨hcurrent.1, mem_opened_of_latest? hcurrent.1⟩

/-! ## Starting -/

private theorem sound_of_begins {c : Cluster} {capacity : Nat} (h : Begins c i capacity) :
    Sound i { cluster := c } where
  bound := h.bound
  coherent := by
    show (c.node i).channels.Coherent
    rw [h.channels]
    exact LiveChannels.coherent_ofCapacity capacity
  current consumer := by
    show (c.node i).channels.current[consumer]? = none
    rw [h.channels]
    exact Std.ExtTreeMap.getElem?_empty
  distinct := List.nodup_nil
  fresh e he := by cases he
  dropped n hn := by cases hn
  gauge := by
    show _ = (c.node i).channels.connectionCount
    rw [h.channels, h.gauge]
    exact Std.ExtTreeMap.size_empty.symm

/-! ## Opening -/

/-- A channel that is opened is owned at once. -/
theorem Sound.connect (hs : h.Sound i) (consumer : Urn) :
    (h.step i (.connect consumer)).Sound i := by
  rw [step]
  cases hconnect : (h.channels i).connect consumer with
  | none =>
    have hnothing : h.cluster.connect i consumer = none := by
      rw [Cluster.connect, show (h.cluster.node i).channels.connect consumer = none from hconnect]
      rfl
    rw [hnothing]
    exact hs
  | some opened =>
    obtain ⟨n, channels⟩ := opened
    have hopened : h.cluster.connect i consumer =
        some (n, (h.cluster.setChannels i channels).gaugeLive i) := by
      rw [Cluster.connect,
        show (h.cluster.node i).channels.connect consumer = some (n, channels) from hconnect]
      rfl
    obtain ⟨hn, hchannels⟩ := LiveChannels.connect_eq_some hconnect
    have hnode := Cluster.node_setChannels_self hs.bound channels
    have hafter : (((h.cluster.setChannels i channels).gaugeLive i).node i).channels = channels :=
      congrArg Node.channels hnode
    -- the new channel has not been there before
    have hnew : n ∉ h.opened.map (·.1) := by
      intro hmem
      obtain ⟨e, he, rfl⟩ := List.mem_map.mp hmem
      have hlt := hs.fresh e he
      omega
    rw [hopened]
    -- the new channel supersedes the one that its consumer had, and nobody else's
    constructor
    case bound => exact hs.bound.trans_eq (Cluster.size_setChannels ..).symm
    case coherent =>
      rw [ChannelHistory.channels, hafter]
      exact hs.coherent.connect hconnect
    case current =>
      intro other
      rw [ChannelHistory.channels, hafter, LiveChannels.current_connect hconnect, owned?, latest?,
        List.find?_cons]
      by_cases heq : consumer = other
      · have hpresent : n ∉ h.dropped := fun hmem => hnew (hs.dropped n hmem)
        simp [heq, hpresent, Option.filter]
      · rw [if_neg heq, decide_eq_false heq]
        exact hs.current other
    case distinct => exact List.nodup_cons.mpr ⟨hnew, hs.distinct⟩
    case fresh =>
      intro e he
      rw [ChannelHistory.channels, hafter, hchannels]
      rcases List.mem_cons.mp he with rfl | he
      · exact hn ▸ Nat.lt_succ_self _
      · exact Nat.lt_succ_of_lt (hs.fresh e he)
    case dropped => exact fun m hm => List.mem_cons_of_mem _ (hs.dropped m hm)
    case gauge => rfl

/-! ## Dropping -/

/-- The live channels after one of them was dropped. -/
theorem channels_disconnect (hs : h.Sound i) (n : Nat) :
    ((h.cluster.disconnect i n).node i).channels = (h.channels i).drop n := by
  rw [Cluster.disconnect, Cluster.node_settleChannels, Cluster.node_setChannels_self hs.bound]
  rfl

/-- The gauge is set if the number of connected consumers has changed. -/
private theorem gauge_disconnect (hs : h.Sound i) (n : Nat) :
    (h.cluster.disconnect i n).group.metrics.liveChannels =
      ((h.channels i).drop n).connectionCount := by
  rw [Cluster.disconnect, Cluster.settleChannels]
  split
  next hsame => exact hs.gauge.trans hsame.symm
  next =>
    show ((h.cluster.setChannels i _).node i).channels.connectionCount = _
    rw [Cluster.node_setChannels_self hs.bound]
    rfl

/-- A channel that is dropped is not owned any more. -/
theorem Sound.disconnect (hs : h.Sound i) (n : Nat) : (h.step i (.disconnect n)).Sound i := by
  rw [step]
  split
  -- only a connection that was opened can be dropped
  swap
  · exact hs
  next hmem =>
    constructor
    case bound =>
      rw [Cluster.disconnect, Cluster.size_settleChannels]
      exact hs.bound
    case coherent =>
      rw [ChannelHistory.channels, channels_disconnect hs]
      exact hs.coherent.drop n
    case current =>
      intro consumer
      rw [ChannelHistory.channels, channels_disconnect hs, hs.coherent.current_drop, hs.current]
      exact (owned?_cons_dropped n consumer _).symm
    case distinct => exact hs.distinct
    case fresh =>
      intro e he
      rw [ChannelHistory.channels, channels_disconnect hs, LiveChannels.nextConnection_drop]
      exact hs.fresh e he
    case dropped =>
      intro m hm
      rcases List.mem_cons.mp hm with rfl | hm
      · exact hmem
      · exact hs.dropped m hm
    case gauge =>
      rw [ChannelHistory.channels, channels_disconnect hs]
      exact gauge_disconnect hs n

/-! ## Histories -/

theorem Sound.step (hs : h.Sound i) (operation : Operation) : (h.step i operation).Sound i := by
  cases operation with
  | connect consumer => exact hs.connect consumer
  | disconnect n => exact hs.disconnect n

theorem Sound.run (hs : h.Sound i) (operations : List Operation) :
    (h.run i operations).Sound i := by
  rw [ChannelHistory.run]
  induction operations generalizing h with
  | nil => exact hs
  | cons operation operations ih => exact ih (hs.step operation)

/-- Dropping a channel disconnects nobody but its owner. -/
theorem Sound.current_step (hs : h.Sound i) (hn : (n, consumer) ∈ h.opened) {other : Urn}
    (hother : other = consumer → h.latest? consumer ≠ some n) :
    ((h.step i (.disconnect n)).channels i).current[other]? = (h.channels i).current[other]? := by
  rw [ChannelHistory.step, if_pos (List.mem_map_of_mem hn), ChannelHistory.channels,
    channels_disconnect hs, hs.coherent.current_drop, if_neg]
  -- whoever is connected through the channel has opened it last
  intro hcurrent
  obtain ⟨hlatest, hmem⟩ := hs.mem_opened hcurrent
  obtain rfl := hs.consumer_eq hn hmem
  exact hother rfl hlatest

/-- Dropping a channel touches no other one. -/
theorem Sound.channels_step (hs : h.Sound i) {m : Nat} (hne : m ≠ n) :
    ((h.step i (.disconnect n)).channels i).channels[m]? = (h.channels i).channels[m]? := by
  rw [ChannelHistory.step]
  split
  · rw [ChannelHistory.channels, channels_disconnect hs, LiveChannels.channels_drop,
      if_neg hne.symm]
  · rfl

/-- A replica and the history of its live channels agree after any operations. -/
theorem owned_run {c : Cluster} {i capacity : Nat} (h : Begins c i capacity)
    (operations : List Operation) : Lawful i (run i { cluster := c } operations) := by
  have hs := (sound_of_begins h).run operations
  generalize run i { cluster := c } operations = h at hs ⊢
  refine ⟨hs.current, fun n consumer hn hsuperseded => ?_, fun n consumer hn other hne =>
    hs.current_step hn fun heq => absurd heq hne, fun n m hne => hs.channels_step hne, ?_, hs.gauge⟩
  · -- a superseded connection is nobody's current one, so dropping it changes no entry
    have hcurrent : ((h.step i (.disconnect n)).channels i).current = (h.channels i).current :=
      Std.ExtTreeMap.ext_getElem? fun other => hs.current_step hn fun heq => heq ▸ hsuperseded
    refine ⟨hcurrent, ?_⟩
    rw [step, if_pos (List.mem_map_of_mem hn), ChannelHistory.channels,
      channels_disconnect hs] at hcurrent
    have hsame : ((h.channels i).drop n).connectionCount = (h.channels i).connectionCount := by
      rw [LiveChannels.connectionCount, hcurrent, LiveChannels.connectionCount]
    have hput : h.cluster.disconnect i n =
        h.cluster.setChannels i ((h.channels i).drop n) := if_pos hsame
    rw [step, if_pos (List.mem_map_of_mem hn), hput]
    rfl
  · -- the keys of the entries are the consumers that own a channel
    rw [LiveChannels.connectionCount, ← SubscriptionIndex.card_keySet]
    congr 1
    ext consumer
    rw [SubscriptionIndex.mem_keySet, Std.ExtTreeMap.mem_iff_isSome_getElem?, hs.current, owners,
      Finset.mem_filter, List.mem_toFinset]
    refine (and_iff_right_of_imp fun hsome => ?_).symm
    obtain ⟨n, hn⟩ := Option.isSome_iff_exists.mp hsome
    exact List.mem_map_of_mem (mem_opened_of_latest? (owned?_eq_some.mp hn).1)

/-- A cluster of one replica whose channels buffer one frame. -/
def single : Cluster :=
  { nodes := #[{ config := default, index := {}, channels := .ofCapacity 1 }] }

/-- A consumer opens a second channel, and drops the first. -/
theorem owned_run_reconnected : Begins single 0 1 ∧
    Lawful 0 (run 0 { cluster := single }
      [.connect ⟨"shop", "cart"⟩, .connect ⟨"shop", "cart"⟩, .disconnect 0]) :=
  ⟨⟨by decide, rfl, rfl⟩, owned_run ⟨by decide, rfl, rfl⟩ _⟩

end ChannelHistory

end ServiceBroker
