import ServiceBroker.Proofs.Cluster.Nodes
import ServiceBroker.Proofs.Cluster.Readers

/-!
# What goes on by itself

Between requests loops and sessions go on, and time passes. Nothing is published, pushed or opened
then, and no notification is counted.

- `Cluster.Undisturbed`: nothing was published, pushed, opened or subscribed to;
- `Cluster.Settled`: moreover no notification was counted, and no time has passed;
- `Cluster.settle_induct`, `Cluster.passTo_induct`, `Cluster.awaitDelivery_induct`: what is kept
  while loops and sessions go on, while time passes, and while a delivery is waited for;
- `Cluster.settled_settle`, `Cluster.undisturbed_passTo`, `Cluster.undisturbed_awaitDelivery`:
  loops, sessions and deliveries that wait leave the cluster so.
-/

namespace ServiceBroker

namespace Cluster

open WebSocket (Session)

variable {c c' c'' : Cluster}

/-- Nothing was subscribed to, opened, pushed or published. -/
structure Undisturbed (c c' : Cluster) : Prop where
  config : ∀ i, (c'.node i).config = (c.node i).config
  index : ∀ i, (c'.node i).index = (c.node i).index
  channels : ∀ i, (c.node i).channels.Trace [] [] (c'.node i).channels
  transport : ∀ place, (c.group.transportAt place).Trace [] (c'.group.transportAt place)

/-- Nothing was subscribed to, opened, pushed, published or counted, and it has taken no time. -/
structure Settled (c c' : Cluster) : Prop extends Undisturbed c c' where
  now : c'.now = c.now
  metrics : c.group.metrics.SameNotifications c'.group.metrics

theorem Undisturbed.of_eq (hnodes : c'.nodes = c.nodes)
    (htransports : c'.group.transports = c.group.transports) : c.Undisturbed c' where
  config i := by rw [node, hnodes, node]
  index i := by rw [node, hnodes, node]
  channels i := by
    rw [node, node, hnodes]
    exact .start
  transport place := by
    rw [ReplicaGroup.transportAt, ReplicaGroup.transportAt, htransports]
    exact .start

theorem Undisturbed.refl (c : Cluster) : c.Undisturbed c := .of_eq rfl rfl

theorem Undisturbed.trans (h : c.Undisturbed c') (h' : c'.Undisturbed c'') : c.Undisturbed c'' where
  config i := (h'.config i).trans (h.config i)
  index i := (h'.index i).trans (h.index i)
  channels i := (h.channels i).trans (h'.channels i)
  transport place := (h.transport place).trans (h'.transport place)

theorem Settled.refl (c : Cluster) : c.Settled c := ⟨.refl c, rfl, .refl _⟩

theorem Settled.trans (h : c.Settled c') (h' : c'.Settled c'') : c.Settled c'' :=
  ⟨h.toUndisturbed.trans h'.toUndisturbed, h'.now.trans h.now, h.metrics.trans h'.metrics⟩

/-- Putting back live channels that were not pushed to. -/
theorem settled_setChannels {i : Nat} {channels : LiveChannels}
    (h : (c.node i).channels.Trace [] [] channels) : c.Settled (c.setChannels i channels) := by
  have hnode := c.node_setChannels i channels
  have hundisturbed : c.Undisturbed (c.setChannels i channels) := by
    constructor
    case config | index =>
      intro j
      rcases hnode j with h | ⟨-, h⟩ <;> rw [h]
    case channels =>
      intro j
      rcases hnode j with hsame | ⟨rfl, hset⟩
      · rw [hsame]
        exact .start
      · rw [hset]
        exact h
    case transport => exact fun place => .start
  exact ⟨hundisturbed, rfl, .refl _⟩

/-- Counting live channels counts no notification. -/
private theorem settled_gaugeLive (c : Cluster) (i : Nat) : c.Settled (c.gaugeLive i) :=
  ⟨.of_eq rfl rfl, rfl, rfl, rfl⟩

theorem settled_settleChannels {i : Nat} {channels : LiveChannels}
    (h : (c.node i).channels.Trace [] [] channels) : c.Settled (c.settleChannels i channels) := by
  unfold settleChannels
  split
  · exact settled_setChannels h
  · exact (settled_setChannels h).trans (settled_gaugeLive ..)

theorem settled_sessions (c : Cluster) (sessions : Std.ExtTreeMap Nat Session) (nextSession : Nat) :
    c.Settled { c with sessions, nextSession } := ⟨.of_eq rfl rfl, rfl, .refl _⟩

/-- A session that runs reads live channels of its replica, and is put back. -/
theorem exists_runSession (c : Cluster) (number : Nat) (s : Session) :
    ∃ channels sessions, (c.node s.replica).channels.Reads channels ∧
      c.runSession number s = { c.settleChannels s.replica channels with sessions } := by
  have hrun := s.reads_run c.now (c.group.member s.replica).signal
    (s.stepBound c.now (c.node s.replica).channels) (c.node s.replica).channels
  unfold runSession
  dsimp only
  generalize s.run c.now (c.group.member s.replica).signal
    (s.stepBound c.now (c.node s.replica).channels) (c.node s.replica).channels = ran at hrun ⊢
  obtain ⟨hreplica, hreads⟩ := hrun
  rw [hreplica]
  exact ⟨_, _, hreads, rfl⟩

/-- First the consume loops settle, then the sessions one after the other. -/
theorem settle_eq (c : Cluster) :
    c.settle = c.sessions.toList.foldl (fun c session => c.runSession session.1 session.2)
      { c with group := c.group.settle } := rfl

/-- What holds once the loops have settled, and still does after each session that runs, holds when
all have to wait. -/
theorem settle_induct {P : Cluster → Prop} {c : Cluster}
    (hloops : P { c with group := c.group.settle })
    (hsession : ∀ c number s, P c → P (c.runSession number s)) : P c.settle := by
  rw [settle_eq]
  generalize { c with group := c.group.settle } = settled at hloops ⊢
  -- the induction is on the sessions that run one after the other
  induction c.sessions.toList generalizing settled with
  | nil => exact hloops
  | cons session sessions ih => exact ih _ (hsession _ _ _ hloops)

private theorem settled_runSession (c : Cluster) (number : Nat) (s : Session) :
    c.Settled (c.runSession number s) := by
  obtain ⟨channels, sessions, hreads, hran⟩ := c.exists_runSession number s
  rw [hran]
  exact (settled_settleChannels hreads.trace).trans (settled_sessions ..)

/-- Loops and sessions leave alone what only requests change. -/
theorem settled_settle (c : Cluster) : c.Settled c.settle := by
  have hgroup := c.group.settled_settle
  refine settle_induct ⟨⟨fun _ => rfl, fun _ => rfl, fun _ => .start, hgroup.transport⟩, hgroup.now,
    hgroup.metrics⟩ fun _ number s h => ?_
  exact h.trans (settled_runSession _ number s)

/-- A live channel that is opened is put among those of its replica, and the gauge is set. -/
theorem exists_of_connect {consumer : Urn} {n : Nat} (h : c.connect i consumer = some (n, c')) :
    ∃ channels, (c.node i).channels.connect consumer = some (n, channels) ∧
      c' = (c.setChannels i channels).gaugeLive i := by
  obtain ⟨⟨_, channels⟩, hchannels, heq⟩ := Option.map_eq_some_iff.mp h
  cases heq
  exact ⟨channels, hchannels, rfl⟩

/-- A session is opened with a live channel of its own, which it reads or drops at most; without one
it is over at once. -/
theorem openSession_cases (c : Cluster) (i : Nat) (consumer : Urn) :
    (∃ nextSession sessions, (c.openSession i consumer).2 = { c with nextSession, sessions }) ∨
      ∃ n opened channels nextSession sessions, c.connect i consumer = some (n, opened) ∧
        (opened.node i).channels.Reads channels ∧ (c.openSession i consumer).2 =
          { opened.settleChannels i channels with nextSession, sessions } := by
  unfold openSession
  dsimp only
  split
  next => exact .inl ⟨_, _, rfl⟩
  next n c' hopened =>
    obtain ⟨channels, hconnect, rfl⟩ := exists_of_connect hopened
    -- which number the next session gets does not matter to the channels
    let opened : Cluster := (c.setChannels i channels).gaugeLive i
    have hconnected : c.connect i consumer = some (n, opened) := by
      rw [connect, show (c.node i).channels.connect consumer = _ from hconnect]
      rfl
    let started : Session × LiveChannels := Session.start
      { replica := i, connection := n, period := (c.node i).config.gateway.pingInterval,
        started := c.now } (opened.group.member i).signal (opened.node i).channels
    have hsettled := opened.settleChannels_sessions i started.2 c.sessions (c.nextSession + 1)
    let sessions := c.sessions.insert c.nextSession started.1
    refine .inr ⟨n, opened, started.2, c.nextSession + 1, sessions, hconnected,
      Session.reads_start .., ?_⟩
    exact congrArg (fun settled : Cluster => { settled with sessions }) hsettled

/-- Time passes without anything being changed. -/
theorem undisturbed_advanceTo (c : Cluster) (time : Nat) : c.Undisturbed (c.advanceTo time) :=
  .of_eq rfl rfl

/-- What a finished delivery counts changes nothing else. -/
theorem undisturbed_finishDelivery (c : Cluster) (i : Nat) (report : DeliveryReport) :
    c.Undisturbed (c.setReplica i (Gateway.finishDelivery (c.replica i) report).2) := by
  -- index, channels and transport are put back as they were taken
  have hnode (j : Nat) :
      (c.setReplica i (Gateway.finishDelivery (c.replica i) report).2).node j = c.node j := by
    rcases node_setReplica c i (Gateway.finishDelivery (c.replica i) report).2 j with h | ⟨rfl, h⟩
    · exact h
    · exact h
  have htransport (place : Nat) :
      (c.setReplica i (Gateway.finishDelivery (c.replica i) report).2).group.transportAt place =
        c.group.transportAt place := by
    rcases c.group.transportAt_setContext i ⟨(c.group.member i).sync, c.group.transport i,
      c.group.metrics.countReport report⟩ place with h | ⟨rfl, h⟩ <;> exact h
  exact ⟨fun j => by rw [hnode], fun j => by rw [hnode], fun j => by rw [hnode]; exact .start,
    fun place => by rw [htransport]; exact .start⟩

/-! ### The passing of time -/

/-- The clock goes on, and not beyond the limit. -/
theorem now_advanceWithin {limit : Nat} (h : c.now < limit) (times : List Nat) :
    c.now < (c.advanceWithin limit times).now ∧ (c.advanceWithin limit times).now ≤ limit := by
  have hmin : (limit :: times).min?.getD limit ≤ limit := by
    cases hmin : (limit :: times).min? with
    | none => exact Nat.le_refl _
    | some time => exact (List.min?_eq_some_iff.mp hmin).2 limit List.mem_cons_self
  have hnow : (c.advanceWithin limit times).now =
      max c.now (max (c.now + 1) ((limit :: times).min?.getD limit)) := rfl
  rw [hnow]
  omega

/-- Nor beyond any of the times, as long as that lies ahead. -/
theorem now_advanceWithin_le (c : Cluster) (limit : Nat) {time : Nat} {times : List Nat}
    (h : time ∈ times) :
    (c.advanceWithin limit times).now ≤ max (c.now + 1) time := by
  have hmem : time ∈ limit :: times := List.mem_cons_of_mem _ h
  obtain ⟨first, hfirst⟩ := Option.isSome_iff_exists.mp (List.isSome_min?_of_mem hmem)
  have hle : first ≤ time := (List.min?_eq_some_iff.mp hfirst).2 time hmem
  have hnow : (c.advanceWithin limit times).now =
      max c.now (max (c.now + 1) ((limit :: times).min?.getD limit)) := rfl
  rw [hnow, hfirst, Option.getD_some]
  omega

theorem pass_succ (time steps : Nat) (c : Cluster) :
    pass time (steps + 1) c = if time ≤ c.now then c else
      pass time steps (c.settle.advanceWithin time c.settle.nextTime?.toList) := rfl

/-- What loops and sessions leave so, and the clock too, stays so until a time has come. -/
theorem passTo_induct {P : Cluster → Prop} (hsettle : ∀ c, P c → P c.settle)
    (hadvance : ∀ c time, P c → P (c.advanceTo time)) {c : Cluster} (h : P c) (time : Nat) :
    P (c.passTo time) := by
  unfold passTo
  generalize time - c.now = steps
  -- the induction is on the bound for the times at which something happens
  induction steps generalizing c with
  | zero => exact h
  | succ steps ih =>
    rw [pass_succ]
    split
    · exact h
    · exact ih (hadvance _ _ (hsettle c h))

/-- A time that has come need not be waited for. -/
@[simp]
theorem passTo_of_le {time : Nat} (h : time ≤ c.now) : c.passTo time = c := by
  rw [passTo, Nat.sub_eq_zero_of_le h]
  rfl

theorem now_passTo {time : Nat} (h : c.now ≤ time) : (c.passTo time).now = time := by
  suffices hpass : ∀ steps, time ≤ c.now + steps → (pass time steps c).now = time from
    hpass _ (by omega)
  intro steps hsteps
  induction steps generalizing c with
  | zero => exact Nat.le_antisymm h hsteps
  | succ steps ih =>
    rw [pass_succ]
    split
    next hcome => exact Nat.le_antisymm h hcome
    next hnot =>
      have hsettled := (settled_settle c).now
      have hbefore : c.settle.now < time := by omega
      obtain ⟨hgoes, hends⟩ := now_advanceWithin hbefore c.settle.nextTime?.toList
      exact ih hends (by omega)

/-- While time passes nothing is pushed or published, and no notification is counted. -/
theorem undisturbed_passTo (c : Cluster) (time : Nat) :
    c.Undisturbed (c.passTo time) ∧
      c.group.metrics.SameNotifications (c.passTo time).group.metrics := by
  refine passTo_induct (P := fun c' => c.Undisturbed c' ∧
    c.group.metrics.SameNotifications c'.group.metrics) (fun c' h => ?_) (fun c' time h => ?_)
    ⟨.refl c, .refl _⟩ time
  · have hsettled := settled_settle c'
    exact ⟨h.1.trans hsettled.toUndisturbed, h.2.trans hsettled.metrics⟩
  · exact ⟨h.1.trans (undisturbed_advanceTo c' time), h.2⟩

/-! ### Deliveries that are waited for -/

/-- Looks at a delivery after loops and sessions have gone on. -/
def look (c : Cluster) (i : Nat) (d : Dispatch) : Dispatch × Cluster :=
  let looked := d.settle c.settle.now (c.settle.node i).channels
  (looked.1, c.settle.settleChannels i looked.2)

theorem settled_look (c : Cluster) (i : Nat) (d : Dispatch) : c.Settled (c.look i d).2 :=
  (settled_settle c).trans (settled_settleChannels (d.trace_settle ..))

/-- A delivery that is waited for is given up when its request has come to its end, and answered
once it has a report before that. -/
theorem awaitDelivery_succ (i deadline steps : Nat) (d : Dispatch) (c : Cluster) :
    awaitDelivery i deadline (steps + 1) d c =
      if deadline ≤ c.now then (.empty 408, c.settleChannels i (d.cancel (c.node i).channels))
      else match (c.look i d).1.report? with
        | some report =>
          ((Gateway.finishDelivery ((c.look i d).2.replica i) report).1,
            (c.look i d).2.setReplica i
              (Gateway.finishDelivery ((c.look i d).2.replica i) report).2)
        | none =>
          awaitDelivery i deadline steps (c.look i d).1 ((c.look i d).2.advanceWithin deadline
            ((c.look i d).1.nextTime?.toList ++ (c.look i d).2.nextTime?.toList)) := rfl

/-- What holds while a delivery is waited for, whatever is looked at and however long it takes, and
what holds when it has come to its end, by its report or with its request. -/
theorem awaitDelivery_induct {i : Nat} {P : Cluster → Dispatch → Prop} {Q : Cluster → Prop}
    (hlook : ∀ c d, P c d → P (c.look i d).2 (c.look i d).1)
    (hwait : ∀ c d time, P c d → P (c.advanceTo time) d)
    (hreport : ∀ c d report, P c d → d.report? = some report →
      Q (c.setReplica i (Gateway.finishDelivery (c.replica i) report).2))
    (hcancel : ∀ c d, P c d → Q (c.settleChannels i (d.cancel (c.node i).channels)))
    {c : Cluster} {d : Dispatch} (h : P c d) (deadline steps : Nat) :
    Q (awaitDelivery i deadline steps d c).2 := by
  -- the induction is on the bound for the times at which something happens
  induction steps generalizing d c with
  | zero => exact hcancel c d h
  | succ steps ih =>
    have hlooked := hlook c d h
    rw [awaitDelivery_succ]
    split
    · exact hcancel c d h
    · split
      next report hsome => exact hreport _ _ report hlooked hsome
      next => exact ih (hwait _ _ _ hlooked)

/-- While a delivery is waited for nothing else is pushed or published. -/
theorem undisturbed_awaitDelivery (i deadline steps : Nat) (d : Dispatch) (c : Cluster) :
    c.Undisturbed (awaitDelivery i deadline steps d c).2 := by
  refine awaitDelivery_induct (P := fun c' _ => c.Undisturbed c') ?look ?wait ?report ?cancel
    (.refl c) deadline steps
  case look => exact fun c' d h => h.trans (settled_look c' i d).toUndisturbed
  case wait => exact fun c' _ time h => h.trans (undisturbed_advanceTo c' time)
  case report => exact fun c' _ report h _ => h.trans (undisturbed_finishDelivery c' i report)
  case cancel =>
    exact fun c' d h => h.trans (settled_settleChannels (d.trace_cancel _)).toUndisturbed

/-! ### Requests -/

section Requests

variable {i : Nat} {r : Http.Request}

/-- A request that is not there in time is given up. -/
theorem serve_of_late (h : c.requestDeadline i ≤ c.arrival i r) (canUpgrade : Bool) :
    c.serve i r canUpgrade = (.error (.empty 408), c.passTo (c.requestDeadline i)) :=
  if_pos h

/-- A request that is there in time is served when it is there. -/
theorem serve_of_early (h : c.arrival i r < c.requestDeadline i) (canUpgrade : Bool) :
    c.serve i r canUpgrade =
      (c.passTo (c.arrival i r)).serveBefore (c.requestDeadline i) i r canUpgrade :=
  if_neg (Nat.not_le.mpr h)

/-- A request whose body comes with its head is served at once. -/
theorem serve_of_prompt (hbody : r.bodyDelay = 0)
    (htimeout : 0 < (c.node i).config.gateway.requestTimeout.millisUp) (canUpgrade : Bool) :
    c.serve i r canUpgrade = c.serveBefore (c.requestDeadline i) i r canUpgrade := by
  have harrival : c.arrival i r = c.now := by
    rw [arrival, hbody, Nat.add_zero, ite_self]
  have hearly : c.arrival i r < c.requestDeadline i := by
    rw [harrival]
    exact Nat.lt_add_of_pos_right htimeout
  rw [serve_of_early hearly, passTo_of_le (Nat.le_of_eq harrival)]

end Requests

end Cluster

end ServiceBroker
