import ServiceBroker.Proofs.Delivery.Conservation
import ServiceBroker.Proofs.Json.Utf8
import ServiceBroker.Proofs.WebSocket.SessionSteps

/-!
# Sessions among other traffic

Every session carries the live channel of one consumer, and takes its turns whenever it likes: it
takes what comes next on any of its branches, or fails to send it. Between two turns anybody else
may move: pushes and other consumers, the client at the other end of the WebSocket, and whoever
signals shutdown. What the server sends over a WebSocket is noted beside, and so is what was opened,
pushed and read; nobody looks at these notes.

## Main definitions

* `Socket`: a WebSocket with all that the server has sent over it;
* `LiveTraffic`: the traffic of a replica with its sessions;
* `LiveTraffic.move`: a move of anybody.

## Main results

* `Session.taken_take`: a turn does no more than `Session.Taken` says;
* `LiveTraffic.exists_turns_run`: a session that runs until it has to wait takes turns.
-/

namespace ServiceBroker

/-! ## Moves -/

/-- The connection that is read or dropped by a move of traffic. -/
def Move.connection? : Move → Option Nat
  | .receive n => some n
  | .drop n => some n
  | _ => none

namespace WebSocket

open Traffic (Ledger)

/-! ## Messages -/

namespace Outgoing

/-- The frame that a text carries. -/
def frame? : Outgoing → Option Bytes
  | .text s => some (Bytes.ofString s)
  | _ => none

/-- The message may stand before the end of a session: it is a text, a ping or a pong. -/
def IsCurrent : Outgoing → Prop
  | .text _ | .ping _ | .pong _ => True
  | .binary _ | .close _ _ => False

/-- A frame that is text is sent as this text. -/
theorem ofFrame_of_isText {frame : Bytes} (h : frame.IsText) :
    (ofFrame frame).frame? = some frame ∧ (ofFrame frame).IsCurrent := by
  obtain ⟨s, rfl⟩ := h
  rw [ofFrame, Bytes.toString?_ofString]
  exact ⟨rfl, trivial⟩

end Outgoing

namespace Session

variable {s s' : Session} {signal : Signal} {channels channels' : LiveChannels} {branch : Branch}
  {now : Nat}

/-! ## Clients -/

/-- What a client can do. -/
inductive ClientAction where
  /-- It sends bytes as they are. -/
  | sendBytes (bytes : Bytes)
  /-- It sends a frame. -/
  | send (f : Frame)
  /-- It reads all that has arrived. -/
  | read
  /-- It vanishes. -/
  | vanish

/-- The session after an action of its client. -/
def clientAct (s : Session) : ClientAction → Session
  | .sendBytes bytes => (s.clientSendBytes bytes).getD s
  | .send f => (s.clientSend f).2
  | .read => s.clientRead.2
  | .vanish => s.clientDrop

/-- The server's end is the same. -/
structure SameServer (s s' : Session) : Prop where
  connection : s'.connection = s.connection
  seen : s'.seen = s.seen
  hasEnded : s'.hasEnded = s.hasEnded

theorem SameServer.refl (s : Session) : s.SameServer s := ⟨rfl, rfl, rfl⟩

theorem SameServer.trans {s'' : Session} (h : s.SameServer s') (h' : s'.SameServer s'') :
    s.SameServer s'' :=
  ⟨h'.connection.trans h.connection, h'.seen.trans h.seen, h'.hasEnded.trans h.hasEnded⟩

theorem sameServer_clientSendBytes (s : Session) (bytes : Bytes) :
    s.SameServer ((s.clientSendBytes bytes).getD s) := by
  unfold clientSendBytes
  split <;> exact ⟨rfl, rfl, rfl⟩

theorem sameServer_clientSend (s : Session) (f : Frame) : s.SameServer (s.clientSend f).2 := by
  unfold clientSend
  split
  · exact .refl s
  · dsimp only
    split
    next s' hsent =>
      have hsame := sameServer_clientSendBytes
        { s with client := if f.opcode = .close then .closing else s.client } (f.encode {})
      rw [hsent] at hsame
      exact ⟨hsame.connection, hsame.seen, hsame.hasEnded⟩
    next => exact ⟨rfl, rfl, rfl⟩

/-- The induction is on the messages that have arrived; a ping may be answered in between. -/
private theorem sameServer_clientTake (s : Session) (messages : List Outgoing) :
    s.SameServer (s.clientTake messages).2 := by
  induction messages generalizing s with
  | nil => exact ⟨rfl, rfl, rfl⟩
  | cons m rest ih =>
    cases m with
    | close code reason => exact ⟨rfl, rfl, rfl⟩
    | text | binary | pong => exact ih s
    | ping data =>
      -- the pong goes to the inbox, or is lost if nobody takes it
      unfold clientTake
      split
      · have hanswered := s.sameServer_clientSend { opcode := .pong, payload := data }
        split
        next s₁ hsend =>
          rw [hsend] at hanswered
          exact hanswered.trans (ih s₁)
        next s₁ hsend =>
          rw [hsend] at hanswered
          exact ⟨hanswered.connection, hanswered.seen, hanswered.hasEnded⟩
      · exact ih s

/-- A client cannot reach the server's end. -/
theorem sameServer_clientAct (s : Session) (action : ClientAction) :
    s.SameServer (s.clientAct action) := by
  cases action with
  | sendBytes bytes => exact s.sameServer_clientSendBytes bytes
  | send f => exact s.sameServer_clientSend f
  | read => exact s.sameServer_clientTake s.outbound
  | vanish => exact ⟨rfl, rfl, rfl⟩

/-! ## Turns -/

/-- What a session can do. -/
inductive Turn where
  /-- It starts, unless shutdown has been signalled. -/
  | start
  /-- It takes what comes next on a branch. -/
  | step (branch : Branch)
  /-- It takes what comes next on a branch, but what it sends does not get through. -/
  | fail (branch : Branch)
  /-- It is given up, with all that it holds. -/
  | abandon

/-- The moves by which a session reads its channel or drops it when it makes a step. -/
def movesOf (s : Session) (branch : Branch) (s' : Session) : List Move :=
  if s'.hasEnded then [.drop s.connection]
  else if branch = .pushed then [.receive s.connection]
  else []

/-- The session after a turn, the live channels that it leaves, and the moves by which it has come
to this; `none` if it cannot take this turn. A message that does not get through ends the
session. -/
def take (s : Session) (hasStarted : Bool) (now : Nat) (signal : Signal) (channels : LiveChannels) :
    Turn → Option (Session × LiveChannels × List Move)
  | .start =>
    if hasStarted then none
    else
      let (s', channels) := { s with started := now }.start signal channels
      some (s', channels, if s'.hasEnded then [.drop s.connection] else [])
  | .step branch =>
    if hasStarted then
      (s.step branch now signal channels).map fun (s', channels) =>
        (s', channels, s.movesOf branch s')
    else none
  | .fail branch =>
    if hasStarted then
      (s.step branch now signal channels).map fun (s', channels) =>
        let (ended, channels) := s.finish channels
        (ended, channels, s.movesOf branch s' ++ [.drop s.connection])
    else none
  | .abandon =>
    if s.hasEnded then none
    else
      let (ended, channels) := s.finish channels
      some (ended, channels, [.drop s.connection])

/-- All that a turn of a session that has not ended can amount to: the messages that are sent, the
moves that are made, and whether the session is over then. -/
inductive Taken (s : Session) (signal : Signal) (channels : LiveChannels) :
    List Outgoing → List Move → Bool → Prop
  /-- The session goes on, and sends no more than a ping or a pong. -/
  | stay {messages : List Outgoing} : (∀ m ∈ messages, m.IsCurrent ∧ m.frame? = none) →
      Taken s signal channels messages [] false
  /-- A frame is forwarded. -/
  | forward {frame : Bytes} : (channels.receive s.connection).1 = .message frame →
      Taken s signal channels [.ofFrame frame] [.receive s.connection] false
  /-- The session is closed because its channel was superseded. -/
  | supersede : (channels.receive s.connection).1 = .closed →
      Taken s signal channels [supersededClose] [.drop s.connection] true
  /-- The session is closed because of the shutdown signal. -/
  | shutDown : signal.raised = true ∨ signal.version ≠ s.seen ∨ signal.dropped = true →
      Taken s signal channels [shutdownClose] [.drop s.connection] true
  /-- The session is over without a word. It may have taken something before that it could not
  send. -/
  | leave {moves : List Move} : (∀ m ∈ moves, m.connection? = some s.connection) →
      Taken s signal channels [] (moves ++ [.drop s.connection]) true

/-- A session reads and drops no channel but its own. -/
theorem Taken.connection? {messages : List Outgoing} {moves : List Move} {ended : Bool}
    (h : Taken s signal channels messages moves ended) :
    ∀ m ∈ moves, m.connection? = some s.connection := by
  intro m hm
  cases h with
  | stay => cases hm
  | forward | supersede | shutDown =>
    rw [List.mem_singleton.mp hm]
    rfl
  | leave hmoves =>
    rcases List.mem_append.mp hm with hold | hlast
    · exact hmoves m hold
    · rw [List.mem_singleton.mp hlast]
      rfl

/-- The live channels after a step are what the moves say. -/
theorem Advance.channels_movesOf {t : Traffic}
    (h : Advance s signal t.channels branch s' channels') (hrunning : s.hasEnded = false) :
    (t.run (s.movesOf branch s')).channels = channels' := by
  cases h with
  | forward hread =>
    rw [movesOf, if_neg (by simp [send, hrunning]), if_pos rfl]
    exact congrArg Prod.snd hread
  | supersede hread =>
    -- a read that finds the end changes nothing
    have hsame := LiveChannels.receive_eq_self (l := t.channels) (n := s.connection)
      fun frame hmessage => by rw [hread] at hmessage; cases hmessage
    rw [hread] at hsame
    exact congrArg (·.drop s.connection) hsame.symm
  | answer | ignore | ping =>
    rw [movesOf, if_neg (by simp [send, hrunning]), if_neg (by simp)]
    rfl
  | leave | shutDown => rfl

theorem connection?_of_mem_movesOf (s : Session) (branch : Branch) (s' : Session) :
    ∀ m ∈ s.movesOf branch s', m.connection? = some s.connection := by
  rw [movesOf]
  intro m hm
  split at hm
  · rw [List.mem_singleton.mp hm]
    rfl
  split at hm
  · rw [List.mem_singleton.mp hm]
    rfl
  · cases hm

/-- What a step amounts to. -/
theorem Advance.taken (h : Advance s signal channels branch s' channels')
    (hrunning : s.hasEnded = false) :
    ∃ messages, Taken s signal channels messages (s.movesOf branch s') s'.hasEnded ∧
      s'.outbound = s.outbound ++ messages ∧ s'.connection = s.connection ∧ s'.seen = s.seen := by
  -- a session that goes on moves only when it has read something
  have hmoves {branch : Branch} {s' : Session} (hsame : s'.hasEnded = s.hasEnded) :
      s.movesOf branch s' = if branch = .pushed then [.receive s.connection] else [] := by
    rw [movesOf, hsame, hrunning, if_neg Bool.false_ne_true]
  have hstay {messages : List Outgoing} {branch : Branch} {s' : Session}
      (hsame : s'.hasEnded = s.hasEnded) (hbranch : branch ≠ .pushed)
      (hmessages : ∀ m ∈ messages, m.IsCurrent ∧ m.frame? = none) :
      Taken s signal channels messages (s.movesOf branch s') s'.hasEnded := by
    rw [hmoves hsame, if_neg hbranch, hsame, hrunning]
    exact .stay hmessages
  cases h with
  | @forward frame _ hread =>
    refine ⟨[.ofFrame frame], ?_, rfl, rfl, rfl⟩
    have hsame : (s.send (.ofFrame frame)).hasEnded = s.hasEnded := rfl
    rw [hmoves hsame, if_pos rfl, hsame, hrunning]
    exact .forward (congrArg Prod.fst hread)
  | supersede hread => exact ⟨_, .supersede (congrArg Prod.fst hread), rfl, rfl, rfl⟩
  | @answer data inbox =>
    exact ⟨[.pong data], hstay rfl (by decide) (by simp [Outgoing.IsCurrent, Outgoing.frame?]), rfl,
      rfl, rfl⟩
  | ignore =>
    exact ⟨[], hstay rfl (by decide) (by simp), (List.append_nil _).symm, rfl, rfl⟩
  | leave =>
    have hnothing : ∀ m ∈ ([] : List Move), m.connection? = some s.connection := by simp
    exact ⟨[], .leave hnothing, (List.append_nil _).symm, rfl, rfl⟩
  | ping =>
    exact ⟨[.ping []], hstay rfl (by decide) (by simp [Outgoing.IsCurrent, Outgoing.frame?]), rfl,
      rfl, rfl⟩
  | shutDown hsignal => exact ⟨_, .shutDown (.inr hsignal), rfl, rfl, rfl⟩

/-- A session that starts goes on, or ends at once if shutdown has been signalled. -/
private theorem taken_start {t : Traffic} (hrunning : s.hasEnded = false) (now : Nat) :
    let started := { s with started := now }.start signal t.channels
    let moves : List Move := if started.1.hasEnded then [.drop s.connection] else []
    ∃ messages, Taken s signal t.channels messages moves started.1.hasEnded ∧
      started.1.outbound = s.outbound ++ messages ∧ started.1.connection = s.connection ∧
      started.1.seen = s.seen ∧ (t.run moves).channels = started.2 := by
  dsimp only
  rw [start]
  by_cases hraised : signal.raised = true
  · rw [if_pos hraised]
    exact ⟨_, .shutDown (.inl hraised), rfl, rfl, rfl, rfl⟩
  · rw [if_neg hraised]
    dsimp only
    rw [hrunning]
    exact ⟨[], .stay (by simp), (List.append_nil _).symm, rfl, rfl, rfl⟩

/-- A turn does no more than `Taken` says. -/
theorem taken_take {t : Traffic} {hasStarted : Bool} {turn : Turn} {moves : List Move}
    (hunstarted : hasStarted = false → s.hasEnded = false)
    (h : s.take hasStarted t.now signal t.channels turn = some (s', channels', moves)) :
    s.hasEnded = false ∧ ∃ messages, Taken s signal t.channels messages moves s'.hasEnded ∧
      s'.outbound = s.outbound ++ messages ∧ s'.connection = s.connection ∧ s'.seen = s.seen ∧
      (t.run moves).channels = channels' := by
  cases turn with
  | start =>
    rw [take] at h
    split at h
    · cases h
    next hstarted =>
      have hrunning := hunstarted (Bool.eq_false_iff.mpr hstarted)
      cases h
      exact ⟨hrunning, taken_start hrunning t.now⟩
  | step branch =>
    rw [take] at h
    split at h
    swap
    · cases h
    obtain ⟨⟨s₁, channels₁⟩, hstep, heq⟩ := Option.map_eq_some_iff.mp h
    obtain ⟨rfl, rfl, rfl⟩ : s₁ = s' ∧ channels₁ = channels' ∧ s.movesOf branch s₁ = moves := by
      simpa using heq
    obtain ⟨hrunning, hadvance⟩ := advance_step hstep
    obtain ⟨messages, htaken, hserver⟩ := hadvance.taken hrunning
    exact ⟨hrunning, messages, htaken, hserver.1, hserver.2.1, hserver.2.2,
      hadvance.channels_movesOf hrunning⟩
  | fail branch =>
    rw [take] at h
    split at h
    swap
    · cases h
    obtain ⟨⟨s₁, channels₁⟩, hstep, heq⟩ := Option.map_eq_some_iff.mp h
    obtain ⟨rfl, rfl, rfl⟩ : (s.finish channels₁).1 = s' ∧ (s.finish channels₁).2 = channels' ∧
        s.movesOf branch s₁ ++ [.drop s.connection] = moves := by
      simpa using heq
    obtain ⟨hrunning, hadvance⟩ := advance_step hstep
    refine ⟨hrunning, [], .leave (s.connection?_of_mem_movesOf branch s₁),
      (List.append_nil _).symm, rfl, rfl, ?_⟩
    -- after what the step does the channel is dropped, perhaps once more
    rw [Traffic.run_append]
    exact congrArg (·.drop s.connection) (hadvance.channels_movesOf hrunning)
  | abandon =>
    rw [take] at h
    split at h
    · cases h
    next hrunning =>
      cases h
      have hnothing : ∀ m ∈ ([] : List Move), m.connection? = some s.connection := by simp
      exact ⟨Bool.eq_false_iff.mpr hrunning, [], .leave hnothing, (List.append_nil _).symm, rfl,
        rfl, rfl⟩

end Session

/-! ## Sockets -/

/-- A WebSocket with all that the server has sent over it. -/
structure Socket where
  /-- The session at its end. -/
  session : Session
  /-- The consumer that has opened it. -/
  consumer : Urn
  /-- Whether the session has started. -/
  hasStarted : Bool := false
  /-- What the server has sent, the first message first. -/
  sent : List Outgoing := []

namespace Socket

/-- The connection whose frames the session carries. -/
def connection (socket : Socket) : Nat := socket.session.connection

/-- The frames that were forwarded over the WebSocket. -/
def forwarded (socket : Socket) : List Bytes := socket.sent.filterMap Outgoing.frame?

/-- The WebSocket after its session has taken a turn, with the messages added that it has sent. -/
def after (socket : Socket) (s : Session) : Socket :=
  { socket with
    session := s
    hasStarted := true
    sent := socket.sent ++ s.outbound.drop socket.session.outbound.length }

end Socket

/-- The traffic of a replica with the sessions that carry its live channels. -/
structure LiveTraffic where
  traffic : Traffic
  /-- What is noted of pushes and connections. -/
  book : Ledger := {}
  /-- The signal for shutdown. -/
  signal : Signal := {}
  /-- The WebSockets that were opened. -/
  sockets : List Socket := []
  /-- The live channels that were opened, with their consumers. -/
  opened : List (Nat × Urn) := []

/-- A move of somebody. -/
inductive LiveMove where
  /-- Somebody moves who is no session. -/
  | traffic (m : Move)
  /-- A consumer opens a WebSocket, whose session opens a live channel and will send pings. -/
  | upgrade (consumer : Urn) (period : Duration)
  /-- The session of the WebSocket at a place takes a turn. -/
  | turn (place : Nat) (turn : Session.Turn)
  /-- The client of the WebSocket at a place does something. -/
  | client (place : Nat) (action : Session.ClientAction)
  /-- Shutdown is signalled. -/
  | shutdown
  /-- The sender of the signal goes away. -/
  | abandon

namespace LiveTraffic

/-- No traffic yet. -/
def start (limit capacity patience : Nat) : LiveTraffic :=
  { traffic := .start limit capacity patience }

/-- The live channel that is opened by a move of traffic. -/
def opening? (t : Traffic) : Move → Option (Nat × Urn)
  | .connect consumer => (t.channels.connect consumer).map fun opened => (opened.1, consumer)
  | _ => none

/-- A move of traffic, which is noted. -/
def goes (l : LiveTraffic) (m : Move) : LiveTraffic :=
  { l with
    traffic := l.traffic.move m
    book := l.book.note l.traffic m
    opened := l.opened ++ (opening? l.traffic m).toList }

/-- Some session reads the connection. -/
def IsCarried (l : LiveTraffic) (connection : Nat) : Prop :=
  connection ∈ l.sockets.map (·.connection)

instance (l : LiveTraffic) (connection : Nat) : Decidable (l.IsCarried connection) :=
  inferInstanceAs (Decidable (_ ∈ _))

/-- A move of somebody; one that is not possible changes nothing. Nobody but its session reads or
drops the channel of a session. -/
def move (l : LiveTraffic) : LiveMove → LiveTraffic
  | .traffic m => if ∃ n ∈ m.connection?, l.IsCarried n then l else l.goes m
  | .upgrade consumer period =>
    match opening? l.traffic (.connect consumer) with
    | none => l
    | some (connection, _) =>
      let session : Session := { replica := 0, connection, period, started := l.traffic.now }
      { l.goes (.connect consumer) with sockets := l.sockets ++ [{ session, consumer }] }
  | .turn place turn =>
    match l.sockets[place]? with
    | none => l
    | some socket =>
      match socket.session.take socket.hasStarted l.traffic.now l.signal l.traffic.channels
        turn with
      | none => l
      | some (s, channels, moves) =>
        let l' := moves.foldl goes l
        { l' with
          traffic := { l'.traffic with channels }
          sockets := l.sockets.set place (socket.after s) }
  | .client place action =>
    match l.sockets[place]? with
    | none => l
    | some socket =>
      { l with sockets :=
          l.sockets.set place { socket with session := socket.session.clientAct action } }
  | .shutdown => { l with signal := l.signal.set true }
  | .abandon => { l with signal := { l.signal with dropped := true } }

/-- Some moves, one after the other. -/
def run (l : LiveTraffic) (moves : List LiveMove) : LiveTraffic := moves.foldl move l

/-! ## Sessions as they run -/

variable {l : LiveTraffic}

/-- Reading and dropping channels takes no time and signals nothing. -/
private theorem frame_foldl_goes {n : Nat} {moves : List Move}
    (hmoves : ∀ m ∈ moves, m.connection? = some n) :
    (moves.foldl goes l).traffic.now = l.traffic.now ∧
      (moves.foldl goes l).signal = l.signal := by
  induction moves generalizing l with
  | nil => exact ⟨rfl, rfl⟩
  | cons m moves ih =>
    obtain ⟨hm, hrest⟩ := List.forall_mem_cons.mp hmoves
    have hnow : (l.goes m).traffic.now = l.traffic.now := by
      cases m with
      | receive | drop => rfl
      | subscription | post | push | connect | advance => cases hm
    obtain ⟨hnow', hsignal⟩ := ih (l := l.goes m) hrest
    exact ⟨hnow'.trans hnow, hsignal⟩

/-- After a step as a turn the session and the live channels are what the step makes of them. -/
private theorem move_step {place : Nat} {socket : Socket} {branch : Session.Branch} {s : Session}
    {channels : LiveChannels} (hsocket : l.sockets[place]? = some socket)
    (hstarted : socket.hasStarted = true)
    (hstep : socket.session.step branch l.traffic.now l.signal l.traffic.channels =
      some (s, channels)) :
    (l.move (.turn place (.step branch))).sockets[place]? = some (socket.after s) ∧
      (l.move (.turn place (.step branch))).traffic.channels = channels ∧
      (l.move (.turn place (.step branch))).traffic.now = l.traffic.now ∧
      (l.move (.turn place (.step branch))).signal = l.signal := by
  obtain ⟨hnow, hsignal⟩ := frame_foldl_goes (l := l)
    (socket.session.connection?_of_mem_movesOf branch s)
  simp only [move, hsocket, Session.take, hstarted, if_true, hstep, Option.map_some]
  refine ⟨?_, trivial, hnow, hsignal⟩
  exact List.getElem?_set_self (List.getElem?_eq_some_iff.mp hsocket).1

/-- A session that takes steps until it has to wait takes turns, so that whatever holds of all runs
holds of this as well. The induction is on the steps that it may take. -/
theorem exists_turns_run (steps : Nat) {place : Nat} {socket : Socket}
    (hsocket : l.sockets[place]? = some socket) (hstarted : socket.hasStarted = true) :
    ∃ (branches : List Session.Branch) (socket' : Socket),
      (l.run (branches.map fun branch => .turn place (.step branch))).sockets[place]? =
        some socket' ∧
      (socket'.session,
          (l.run (branches.map fun branch => .turn place (.step branch))).traffic.channels) =
        Session.run l.traffic.now l.signal steps socket.session l.traffic.channels := by
  induction steps generalizing l socket with
  | zero => exact ⟨[], socket, hsocket, rfl⟩
  | succ steps ih =>
    rw [Session.run]
    split
    next => exact ⟨[], socket, hsocket, rfl⟩
    next s channels hany =>
      obtain ⟨branch, -, hstep⟩ := List.exists_of_findSome?_eq_some hany
      obtain ⟨hplace, hchannels, hnow, hsignal⟩ := move_step hsocket hstarted hstep
      -- the step is the first turn, and the others follow at the same time
      obtain ⟨branches, socket', hafter, hran⟩ := ih hplace rfl
      rw [hchannels, hnow, hsignal] at hran
      exact ⟨branch :: branches, socket', hafter, hran⟩

end LiveTraffic

end WebSocket

end ServiceBroker
