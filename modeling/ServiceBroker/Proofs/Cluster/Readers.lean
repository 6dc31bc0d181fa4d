import ServiceBroker.Cluster
import ServiceBroker.Proofs.Replication.LoopSteps
import ServiceBroker.Proofs.Replication.Synchronizer
import ServiceBroker.Proofs.WebSocket.SessionSteps

/-!
# What loops, sessions and deliveries read

Consume loops read the transports, sessions read the live channels and deliveries that wait look how
their pushes have ended. They may apply what they read, subscribe again and give connections up, but
they publish nothing, push nothing and open no live channel; and no notification is counted.

- `Transport.Trace`: a history of operations on a transport, told by what it publishes;
- `Metrics.SameNotifications`: no notification was counted;
- `ReplicaGroup.settled_settle`: loops that go on publish nothing and count no notification;
- `WebSocket.Session.reads_run`: sessions that go on only read and drop channels;
- `Dispatch.trace_settle`, `Dispatch.trace_cancel`: deliveries that wait push nothing.
-/

namespace ServiceBroker

/-! ## Transports -/

/-- What may become of a transport by a series of operations, told by the messages that were
published. -/
inductive Transport.Trace (t : Transport) : List BusMessage → Transport → Prop
  | start : Trace t [] t
  | publish {published : List BusMessage} {t' t'' : Transport} {n : Nat} (m : BusMessage) :
      Trace t published t' → t'.publish m.topic m.key m.payload = .ok (n, t'') →
      Trace t (published ++ [m]) t''
  | receive {published : List BusMessage} {t' : Transport} (s : BusSubscription) :
      Trace t published t' → Trace t published (t'.receive s).2
  | subscribe {published : List BusMessage} {t' : Transport} (topic : String) :
      Trace t published t' → Trace t published (t'.subscribe topic).2
  | unsubscribe {published : List BusMessage} {t' : Transport} (s : BusSubscription) :
      Trace t published t' → Trace t published (t'.unsubscribe s)

theorem Transport.Trace.trans {t t' t'' : Transport} {published published' : List BusMessage}
    (h : t.Trace published t') (h' : t'.Trace published' t'') :
    t.Trace (published ++ published') t'' := by
  induction h' with
  | start => simpa using h
  | publish m _ hpublish ih => simpa using ih.publish m hpublish
  | receive s _ ih => exact ih.receive s
  | subscribe topic _ ih => exact ih.subscribe topic
  | unsubscribe s _ ih => exact ih.unsubscribe s

/-! ## Metrics -/

/-- No notification was counted between two readings of the metrics. -/
structure Metrics.SameNotifications (m m' : Metrics) : Prop where
  dispatched : m'.dispatched = m.dispatched
  withoutSubscribers : m'.withoutSubscribers = m.withoutSubscribers

namespace Metrics.SameNotifications

variable {m m' m'' : Metrics}

/-- Nothing has been counted if nothing has happened. -/
theorem refl (m : Metrics) : m.SameNotifications m := ⟨rfl, rfl⟩

theorem trans (h : m.SameNotifications m') (h' : m'.SameNotifications m'') :
    m.SameNotifications m'' :=
  ⟨h'.dispatched.trans h.dispatched, h'.withoutSubscribers.trans h.withoutSubscribers⟩

/-- A message that is handled is no notification. -/
theorem handle (s : Synchronizer) (message : BusMessage) (m : Metrics) :
    m.SameNotifications (s.handle message m).2 := by
  cases hdecode : RegistryEvent.decode message.payload with
  | error e =>
    rw [Synchronizer.handle_of_error hdecode]
    exact ⟨rfl, rfl⟩
  | ok event =>
    rw [Synchronizer.handle_of_ok hdecode]
    cases event.action <;> exact ⟨rfl, rfl⟩

end Metrics.SameNotifications

/-! ## Consume loops -/

/-- What a loop makes of what it works on: it publishes nothing and counts no notification. -/
structure ConsumeLoop.Context.Reads (c c' : ConsumeLoop.Context) : Prop where
  transport : c.transport.Trace [] c'.transport
  metrics : c.metrics.SameNotifications c'.metrics

namespace ConsumeLoop

variable {now : Nat} {signal : Signal} {l l' : ConsumeLoop} {c c' c'' : Context}

theorem Context.Reads.refl (c : Context) : c.Reads c := ⟨.start, .refl _⟩

theorem Context.Reads.trans (h : c.Reads c') (h' : c'.Reads c'') : c.Reads c'' :=
  ⟨h.transport.trans h'.transport, h.metrics.trans h'.metrics⟩

/-- A loop that stops gives its subscription up, and publishes nothing. -/
theorem reads_stop (l : ConsumeLoop) (c : Context) : c.Reads (l.stop c).2 := by
  unfold stop
  dsimp only
  split
  · exact ⟨.unsubscribe _ .start, .refl _⟩
  · exact .refl c

/-- Whatever a loop does, it reads its subscription, gives it up or asks for another one. -/
theorem Does.reads {taken : Option BusMessage} (h : Does now signal l c taken l' c') :
    c.Reads c' := by
  cases h with
  | stop => exact reads_stop l c
  | see => exact .refl c
  | @take s _ _ _ _ hreceive =>
    have hread : c.transport.Trace [] (c.transport.receive s).2 := .receive s .start
    rw [hreceive] at hread
    exact ⟨hread, .handle ..⟩
  | @lose s _ _ _ hreceive =>
    have hread : c.transport.Trace [] (c.transport.receive s).2 := .receive s .start
    rw [hreceive] at hread
    exact ⟨.unsubscribe s hread, .refl _⟩
  | subscribe _ hresult | refused _ hresult =>
    have hsubscribe : c.transport.Trace [] (c.transport.subscribe c.sync.config.topic).2 :=
      .subscribe _ .start
    rw [hresult] at hsubscribe
    exact ⟨hsubscribe, .refl _⟩

/-- Nor does a loop that goes on; it keeps working for its replica. -/
theorem reads_run (now : Nat) (signal : Signal) (steps : Nat) (l : ConsumeLoop) (c : Context) :
    (l.run now signal steps c).1.replica = l.replica ∧ c.Reads (l.run now signal steps c).2 := by
  induction steps generalizing l c with
  | zero => exact ⟨rfl, .refl c⟩
  | succ steps ih =>
    unfold run
    split
    · exact ⟨rfl, .refl c⟩
    next l' c' hstep =>
      have hdoes := does_of_step hstep
      exact ⟨(ih l' c').1.trans hdoes.replica_eq, hdoes.reads.trans (ih l' c').2⟩

end ConsumeLoop

namespace ReplicaGroup

/-- The transport at a place. -/
def transportAt (g : ReplicaGroup) (place : Nat) : Transport :=
  g.transports.getD place (.unreachable "")

theorem transport_eq (g : ReplicaGroup) (i : Nat) :
    g.transport i = g.transportAt (g.member i).transport := rfl

/-- A loop leaves all transports alone but its own. -/
theorem transportAt_setContext (g : ReplicaGroup) (i : Nat) (c : ConsumeLoop.Context)
    (place : Nat) :
    (g.setContext i c).transportAt place = g.transportAt place ∨
      place = (g.member i).transport ∧ (g.setContext i c).transportAt place = c.transport := by
  simp only [transportAt, setContext, Array.getD_eq_getD_getElem?, Array.getElem?_setIfInBounds]
  split
  next heq =>
    split
    · exact .inr ⟨heq.symm, rfl⟩
    next hbound =>
      refine .inl ?_
      rw [Array.getElem?_eq_none (heq ▸ Nat.le_of_not_lt hbound)]
  next => exact .inl rfl

/-- What loops make of a group. -/
structure Settled (g g' : ReplicaGroup) : Prop where
  now : g'.now = g.now
  transport : ∀ place, (g.transportAt place).Trace [] (g'.transportAt place)
  metrics : g.metrics.SameNotifications g'.metrics

variable {g g' g'' : ReplicaGroup}

theorem Settled.refl (g : ReplicaGroup) : g.Settled g := ⟨rfl, fun _ => .start, .refl _⟩

theorem Settled.trans (h : g.Settled g') (h' : g'.Settled g'') : g.Settled g'' :=
  ⟨h'.now.trans h.now, fun place => (h.transport place).trans (h'.transport place),
    h.metrics.trans h'.metrics⟩

/-- What a loop has read is all that changes for its group. -/
private theorem settled_setContext {i : Nat} {c : ConsumeLoop.Context}
    (h : ConsumeLoop.Context.Reads ⟨(g.member i).sync, g.transport i, g.metrics⟩ c) :
    g.Settled (g.setContext i c) := by
  refine ⟨rfl, fun place => ?_, h.metrics⟩
  rcases g.transportAt_setContext i c place with hsame | ⟨rfl, hset⟩
  · rw [hsame]
    exact .start
  · rw [hset]
    exact h.transport

private theorem settled_runLoop (g : ReplicaGroup) (l : ConsumeLoop) :
    g.Settled (g.runLoop l).2 := by
  unfold runLoop
  dsimp only
  obtain ⟨hreplica, hreads⟩ := ConsumeLoop.reads_run g.now (g.member l.replica).signal
    (l.stepBound ⟨(g.member l.replica).sync, g.transport l.replica, g.metrics⟩) l
    ⟨(g.member l.replica).sync, g.transport l.replica, g.metrics⟩
  rw [hreplica]
  exact settled_setContext hreads

/-- Loops go on one after the other. -/
private theorem settled_runLoops (loops : List ConsumeLoop) (g : ReplicaGroup) :
    g.Settled (runLoops loops g).2 := by
  induction loops generalizing g with
  | nil => exact .refl g
  | cons l loops ih => exact (settled_runLoop g l).trans (ih _)

/-- They take turns until none has anything to do. -/
theorem settled_settleRounds (rounds : Nat) (g : ReplicaGroup) :
    g.Settled (settleRounds rounds g) := by
  induction rounds generalizing g with
  | zero => exact .refl g
  | succ rounds ih =>
    have hloops := settled_runLoops (inOrder g.loops) g
    -- that loops which have stopped are forgotten does not matter
    have hforget (loops : List ConsumeLoop) (g : ReplicaGroup) : g.Settled { g with loops } :=
      ⟨rfl, fun _ => .start, .refl _⟩
    exact hloops.trans ((hforget _ _).trans (ih _))

/-- Loops that go on publish nothing, and count no notification. -/
theorem settled_settle (g : ReplicaGroup) : g.Settled g.settle := settled_settleRounds _ g

end ReplicaGroup

/-! ## Sessions -/

namespace WebSocket.Session

variable {s s' : Session} {now : Nat} {signal : Signal} {channels channels' : LiveChannels}

/-- A session that goes on reads its channel, and drops it at the end. -/
theorem reads_run (now : Nat) (signal : Signal) (steps : Nat) (s : Session)
    (channels : LiveChannels) :
    (s.run now signal steps channels).1.replica = s.replica ∧
      channels.Reads (s.run now signal steps channels).2 := by
  induction steps generalizing s channels with
  | zero => exact ⟨rfl, .start⟩
  | succ steps ih =>
    unfold run
    split
    · exact ⟨rfl, .start⟩
    next s' channels' hstep =>
      obtain ⟨branch, _, hbranch⟩ := List.exists_of_findSome?_eq_some hstep
      obtain ⟨-, hadvance⟩ := advance_step hbranch
      exact ⟨(ih s' channels').1.trans hadvance.replica_eq,
        hadvance.reads.trans (ih s' channels').2⟩

/-- So does one that has just been opened. -/
theorem reads_start (s : Session) (signal : Signal) (channels : LiveChannels) :
    channels.Reads (s.start signal channels).2 := by
  unfold start
  split
  · exact .drop _ .start
  · exact .start

end WebSocket.Session

/-! ## Deliveries -/

namespace Dispatch

/-- A push that waits is told how its waiting has ended, or leaves the line. -/
private theorem trace_settlePush (deadline now : Nat) (state : PushState)
    (channels : LiveChannels) :
    channels.Trace [] [] (settlePush deadline now state channels).2 := by
  unfold settlePush
  split
  · exact .start
  · split
    · exact .start
    · split <;> exact .start
  · exact .start
  next ticket =>
    -- a waiting push looks whether its frame was taken, and leaves the line if its time is up
    have hcollect : channels.Trace [] [] (channels.collect ticket).2 := .collect _ .start
    split
    · rename_i result after heq
      rwa [heq] at hcollect
    · rename_i after heq
      rw [heq] at hcollect
      split
      · exact .cancel _ hcollect
      · exact hcollect

private theorem trace_settlePushes (deadline now : Nat) (pushes : List (Urn × PushState))
    (channels : LiveChannels) :
    channels.Trace [] [] (settlePushes deadline now pushes channels).2 := by
  induction pushes generalizing channels with
  | nil => exact .start
  | cons push pushes ih => exact (trace_settlePush deadline now push.2 channels).trans (ih _)

/-- A delivery that looks how its pushes have ended pushes nothing. -/
theorem trace_settle (d : Dispatch) (now : Nat) (channels : LiveChannels) :
    channels.Trace [] [] (d.settle now channels).2 := trace_settlePushes ..

/-- Nor does one that is given up. -/
theorem trace_cancel (d : Dispatch) (channels : LiveChannels) :
    channels.Trace [] [] (d.cancel channels) := by
  unfold cancel
  induction d.pushes generalizing channels with
  | nil => exact .start
  | cons push pushes ih =>
    obtain ⟨consumer, state⟩ := push
    rw [List.foldl_cons]
    cases state with
    | waits ticket => exact LiveChannels.Trace.trans (.cancel ticket .start) (ih _)
    | ended | due | stuck => exact ih _

end Dispatch

end ServiceBroker
