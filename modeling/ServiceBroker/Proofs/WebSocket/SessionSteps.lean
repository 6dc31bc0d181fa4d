import ServiceBroker.Proofs.Delivery.Channels.Histories
import ServiceBroker.WebSocket.Session

/-!
# What a session does in one step

A step of a session is one of seven, on one of its four branches. It reads the live channel of the
session or drops it, and does nothing else to the live channels; a session that is over takes no
step.

- `Session.Advance`: the seven steps;
- `Session.advance_step`: every step is one of them;
- `Advance.replica_eq`, `Advance.reads`: what all of them have in common.
-/

namespace ServiceBroker.WebSocket.Session

variable {s s' : Session} {signal : Signal} {channels channels' : LiveChannels} {branch : Branch}
  {now : Nat}

/-- What can become of a session, and of the live channels, by one step on a branch. -/
inductive Advance (s : Session) (signal : Signal) (channels : LiveChannels) :
    Branch → Session → LiveChannels → Prop
  /-- A frame is forwarded. -/
  | forward {frame : Bytes} {channels' : LiveChannels} :
      channels.receive s.connection = (.message frame, channels') →
      Advance s signal channels .pushed (s.send (.ofFrame frame)) channels'
  /-- The channel has ended, since it was superseded. -/
  | supersede {channels' : LiveChannels} :
      channels.receive s.connection = (.closed, channels') →
      Advance s signal channels .pushed ((s.send supersededClose).finish channels').1
        ((s.send supersededClose).finish channels').2
  /-- A ping of the client is answered. -/
  | answer {data : Bytes} {inbox : Inbox} :
      Advance s signal channels .incoming ({ s with inbox }.send (.pong data)) channels
  /-- A message of the client is ignored. -/
  | ignore {inbox : Inbox} : Advance s signal channels .incoming { s with inbox } channels
  /-- The client has gone. -/
  | leave {inbox : Inbox} :
      Advance s signal channels .incoming ({ s with inbox }.finish channels).1
        ({ s with inbox }.finish channels).2
  /-- It is time for a ping. -/
  | ping :
      Advance s signal channels .ping ({ s with pings := s.pings + 1 }.send (.ping [])) channels
  /-- The signal has changed, or its sender has gone. -/
  | shutDown : signal.version ≠ s.seen ∨ signal.dropped = true →
      Advance s signal channels .shutdown ((s.send shutdownClose).finish channels).1
        ((s.send shutdownClose).finish channels).2

theorem advance_step (h : s.step branch now signal channels = some (s', channels')) :
    s.hasEnded = false ∧ Advance s signal channels branch s' channels' := by
  unfold step at h
  split at h
  · cases h
  next hrunning =>
    refine ⟨Bool.eq_false_iff.mpr hrunning, ?_⟩
    -- for each branch, the cases are those in which it is ready
    cases branch with
    | pushed =>
      dsimp only at h
      split at h
      next frame channels₁ hread =>
        cases h
        exact .forward hread
      next channels₁ hread =>
        cases h
        exact .supersede hread
      next => cases h
    | incoming =>
      dsimp only at h
      split at h
      next data inbox _ =>
        cases h
        exact .answer
      next inbox _ =>
        cases h
        exact .ignore
      next inbox _ =>
        cases h
        exact .leave
      next =>
        split at h
        · cases h
          exact .leave
        · cases h
    | ping =>
      dsimp only at h
      split at h
      · cases h
        exact .ping
      · cases h
    | shutdown =>
      dsimp only at h
      split at h
      next hsignal =>
        cases h
        exact .shutDown hsignal
      next => cases h

/-- A session keeps to its replica. -/
theorem Advance.replica_eq (h : Advance s signal channels branch s' channels') :
    s'.replica = s.replica := by
  cases h <;> rfl

/-- A session only reads its own live channel, and drops it at the end. -/
theorem Advance.reads (h : Advance s signal channels branch s' channels') :
    channels.Reads channels' := by
  cases h with
  | forward hread =>
    have hreads : channels.Reads (channels.receive s.connection).2 := .receive _ .start
    rwa [hread] at hreads
  | supersede hread =>
    have hreads : channels.Reads (channels.receive s.connection).2 := .receive _ .start
    rw [hread] at hreads
    exact .drop _ hreads
  | answer | ignore | ping => exact .start
  | leave | shutDown => exact .drop _ .start

end ServiceBroker.WebSocket.Session
