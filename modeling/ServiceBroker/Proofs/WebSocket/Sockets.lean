import ServiceBroker.Proofs.WebSocket.World

/-!
# Single WebSockets

What holds of one WebSocket while its session runs, forwards frames and ends, beside what holds of
the traffic.

- `Socket.Sound`: the invariant of one WebSocket;
- `Socket.Sound.keep`, `Socket.Sound.sameServer`: neither others nor the client matter to it;
- `Socket.Sound.goOn`, `Socket.Sound.finish`: it is kept when the session goes on and when it ends.
-/

namespace ServiceBroker

namespace WebSocket

namespace Socket

open LiveTraffic

variable {l l' : LiveTraffic} {socket : Socket} {s : Session}

/-- What holds of one WebSocket, beside what holds of its traffic. -/
structure Sound (l : LiveTraffic) (socket : Socket) : Prop where
  old : socket.connection < l.traffic.channels.nextConnection
  seen : socket.session.seen = 0
  unstarted : socket.hasStarted = false → socket.session.hasEnded = false
  /-- The channel is there as long as its session. -/
  owner : l.traffic.channels.owner? socket.connection =
    if socket.session.hasEnded then none else some socket.consumer
  /-- Nothing but texts, pings and pongs stand before the end. -/
  running : socket.session.hasEnded = false → ∀ m ∈ socket.sent, m.IsCurrent
  shape : ∃ current close?, socket.sent = current ++ Option.toList close? ∧
    (∀ m ∈ current, m.IsCurrent) ∧ ∀ m ∈ close?, m = supersededClose ∨ m = shutdownClose
  /-- What was read of the channel was forwarded, but for a frame that may have failed at last. -/
  frames : socket.forwarded <+: l.traffic.readFrom socket.connection
  complete : socket.session.hasEnded = false ∨ supersededClose ∈ socket.sent →
    socket.forwarded = l.traffic.readFrom socket.connection
  superseded : supersededClose ∈ socket.sent → l.book.leftAt socket.connection = [] ∧
    ∃ n, socket.connection < n ∧ (n, socket.consumer) ∈ l.opened
  shutdown : shutdownClose ∈ socket.sent → l.signal.raised = true ∨ l.signal.dropped = true

/-- What others do does not matter. -/
theorem Sound.keep (h : socket.Sound l) (hkeeps : l.Keeps l' socket.connection) :
    socket.Sound l' where
  old := h.old.trans_le hkeeps.next
  seen := h.seen
  unstarted := h.unstarted
  owner := hkeeps.owner.trans h.owner
  running := h.running
  shape := h.shape
  frames := hkeeps.read ▸ h.frames
  complete hcomplete := (h.complete hcomplete).trans hkeeps.read.symm
  superseded hsent := by
    obtain ⟨hleft, n, hlt, hmem⟩ := h.superseded hsent
    exact ⟨hkeeps.left.trans hleft, n, hlt, hkeeps.opened _ hmem⟩
  shutdown hsent := hkeeps.signal (h.shutdown hsent)

/-- What the client does does not matter. -/
theorem Sound.sameServer (h : socket.Sound l) (hserver : socket.session.SameServer s) :
    Sound l { socket with session := s } := by
  have hsame : connection { socket with session := s } = socket.connection := hserver.connection
  exact {
    old := hsame ▸ h.old
    seen := hserver.seen.trans h.seen
    unstarted := fun hnot => hserver.hasEnded.trans (h.unstarted hnot)
    owner := by
      rw [hsame, hserver.hasEnded]
      exact h.owner
    running := fun hnot => h.running (hserver.hasEnded ▸ hnot)
    shape := h.shape
    frames := hsame ▸ h.frames
    complete := fun hcomplete => hsame ▸ h.complete (hserver.hasEnded ▸ hcomplete)
    superseded := fun hsent => hsame ▸ h.superseded hsent
    shutdown := h.shutdown }

theorem sent_after (socket : Socket) {messages : List Outgoing}
    (h : s.outbound = socket.session.outbound ++ messages) :
    (socket.after s).sent = socket.sent ++ messages := by
  rw [after, h, List.drop_left]

theorem forwarded_after (socket : Socket) {messages : List Outgoing}
    (h : s.outbound = socket.session.outbound ++ messages) :
    (socket.after s).forwarded = socket.forwarded ++ messages.filterMap Outgoing.frame? := by
  rw [forwarded, socket.sent_after h, List.filterMap_append, forwarded]

/-- The session goes on. -/
theorem Sound.goOn (h : socket.Sound l) {messages : List Outgoing}
    (hbefore : socket.session.hasEnded = false) (hafter : s.hasEnded = false)
    (hconnection : s.connection = socket.session.connection) (hseen : s.seen = socket.session.seen)
    (houtbound : s.outbound = socket.session.outbound ++ messages)
    (hmessages : ∀ m ∈ messages, m.IsCurrent)
    (hnext : l.traffic.channels.nextConnection ≤ l'.traffic.channels.nextConnection)
    (howner : l'.traffic.channels.owner? socket.connection =
      l.traffic.channels.owner? socket.connection)
    (hread : l'.traffic.readFrom socket.connection =
      l.traffic.readFrom socket.connection ++ messages.filterMap Outgoing.frame?) :
    (socket.after s).Sound l' := by
  have hsent := socket.sent_after houtbound
  -- as long as it runs, a session sends no close frame
  have hcurrent : ∀ m ∈ (socket.after s).sent, m.IsCurrent := by
    rw [hsent]
    intro m hm
    rcases List.mem_append.mp hm with hold | hnew
    · exact h.running hbefore m hold
    · exact hmessages m hnew
  have hsame : (socket.after s).connection = socket.connection := hconnection
  have hforwarded : (socket.after s).forwarded =
      l'.traffic.readFrom (socket.after s).connection := by
    rw [socket.forwarded_after houtbound, h.complete (.inl hbefore), hsame, hread]
  exact {
    old := hsame ▸ h.old.trans_le hnext
    seen := hseen.trans h.seen
    unstarted := fun _ => hafter
    owner := by
      have howned := h.owner
      rw [if_neg (by simp [hbefore])] at howned
      rw [hsame, howner, howned]
      exact (if_neg (by simp [after, hafter])).symm
    running := fun _ => hcurrent
    shape := ⟨_, none, (List.append_nil _).symm, hcurrent, by simp⟩
    frames := hforwarded ▸ List.prefix_rfl
    complete := fun _ => hforwarded
    superseded := fun hclose => (hcurrent _ hclose).elim
    shutdown := fun hclose => (hcurrent _ hclose).elim }

/-- The session ends, perhaps with a close message. -/
theorem Sound.finish (h : socket.Sound l) (close? : Option Outgoing)
    (hbefore : socket.session.hasEnded = false) (hafter : s.hasEnded = true)
    (hconnection : s.connection = socket.session.connection) (hseen : s.seen = socket.session.seen)
    (houtbound : s.outbound = socket.session.outbound ++ close?.toList)
    (hclose : ∀ m ∈ close?, m = supersededClose ∨ m = shutdownClose)
    (hnext : l.traffic.channels.nextConnection ≤ l'.traffic.channels.nextConnection)
    (howner : l'.traffic.channels.owner? socket.connection = none)
    (hread : l.traffic.readFrom socket.connection <+: l'.traffic.readFrom socket.connection)
    (hsuperseded : supersededClose ∈ close? →
      l'.traffic.readFrom socket.connection = l.traffic.readFrom socket.connection ∧
        l'.book.leftAt socket.connection = [] ∧
        ∃ n, socket.connection < n ∧ (n, socket.consumer) ∈ l'.opened)
    (hshutdown : shutdownClose ∈ close? →
      l'.signal.raised = true ∨ l'.signal.dropped = true) :
    (socket.after s).Sound l' := by
  have hsent := socket.sent_after houtbound
  -- neither close message carries a frame
  have hforwarded : (socket.after s).forwarded = l.traffic.readFrom socket.connection := by
    have hnothing : close?.toList.filterMap Outgoing.frame? = [] := by
      rw [List.filterMap_eq_nil_iff]
      intro m hm
      rcases hclose m (Option.mem_toList.mp hm) with rfl | rfl <;> rfl
    rw [socket.forwarded_after houtbound, hnothing, List.append_nil, h.complete (.inl hbefore)]
  -- whatever closes the session is sent now, since it was running before
  have hlast {m : Outgoing} (hm : m ∈ (socket.after s).sent) (hnot : ¬m.IsCurrent) :
      m ∈ close? := by
    rw [hsent] at hm
    rcases List.mem_append.mp hm with hold | hnew
    · exact absurd (h.running hbefore m hold) hnot
    · exact Option.mem_toList.mp hnew
  have hsame : (socket.after s).connection = socket.connection := hconnection
  rw [← hsame] at hread howner hsuperseded hforwarded
  have hover {P : Prop} (hnot : (socket.after s).session.hasEnded = false) : P :=
    absurd (hafter.symm.trans hnot) (by decide)
  exact {
    old := hsame ▸ h.old.trans_le hnext
    seen := hseen.trans h.seen
    unstarted := fun hnot => absurd (show true = false from hnot) (by decide)
    owner := howner.trans (if_pos hafter).symm
    running := hover
    shape := ⟨_, close?, hsent, h.running hbefore, hclose⟩
    frames := hforwarded ▸ hread
    complete := fun hcomplete => hcomplete.elim hover fun hmem =>
      hforwarded.trans (hsuperseded (hlast hmem id)).1.symm
    superseded := fun hmem => (hsuperseded (hlast hmem id)).2
    shutdown := fun hmem => hshutdown (hlast hmem id) }

end Socket

end WebSocket

end ServiceBroker
