import ServiceBroker.Proofs.WebSocket.Sockets

/-!
# What the server sends over a WebSocket

Over every WebSocket the server sends the frames of one live channel, in order and without a gap,
with pings and pongs between them, and in the end at most one close message. It says there that the
channel was superseded only if this is so and every frame that it had accepted was sent before, and
that the process shuts down only if this was signalled. However a session ends, its consumer is not
connected through it any more, and no other connection notices.

This holds however sessions, pushes, clients and others take turns.

## Main definitions

* `Socket.Lawful`: what holds of one WebSocket;
* `LiveTraffic.Lawful`: what holds of all of them, and of a turn of a session;
* `LiveTraffic.Sound`: the invariant of all of them.

## Main results

* `LiveTraffic.Sound.move`: every move keeps the invariant;
* `LiveTraffic.lawful_sessions`: every run is lawful.
-/

namespace ServiceBroker

namespace WebSocket

/-! ## What holds -/

/-- What the server has sent over a WebSocket, and what has become of its connection. -/
structure Socket.Lawful (l : LiveTraffic) (socket : Socket) : Prop where
  /-- It has sent texts, pings and pongs, then at most one close message, and nothing after it. -/
  shape : ∃ current close?, socket.sent = current ++ Option.toList close? ∧
    (∀ m ∈ current, m.IsCurrent) ∧ ∀ m ∈ close?, m = supersededClose ∨ m = shutdownClose
  /-- The texts are the first of the frames that its channel has accepted, in order. -/
  frames : socket.forwarded <+: l.accepted socket.connection
  /-- It says that the channel was superseded only if its consumer has opened a newer one, and only
  after every frame that the channel has accepted. -/
  superseded : supersededClose ∈ socket.sent →
    (∃ n, socket.connection < n ∧ (n, socket.consumer) ∈ l.opened) ∧
      socket.forwarded = l.accepted socket.connection
  /-- It says that the process shuts down only if this was signalled, or nobody can signal it any
  more. -/
  shutdown : shutdownClose ∈ socket.sent → l.signal.raised = true ∨ l.signal.dropped = true
  /-- Once the session has ended nobody is connected through its channel. -/
  ended : socket.session.hasEnded = true → ∀ consumer : Urn,
    l.traffic.channels.current[consumer]? ≠ some socket.connection

/-- What holds of all WebSockets. -/
structure LiveTraffic.Lawful (l : LiveTraffic) : Prop where
  sockets : ∀ socket ∈ l.sockets, socket.Lawful l
  /-- No turn of a session, in particular none that ends it, touches the entry of a consumer that is
  connected through another channel. -/
  untouched : ∀ place socket turn (consumer : Urn) n, l.sockets[place]? = some socket →
    n ≠ socket.connection → l.traffic.channels.current[consumer]? = some n →
    (l.move (.turn place turn)).traffic.channels.current[consumer]? = some n

namespace LiveTraffic

variable {l l' : LiveTraffic} {n : Nat}

/-! ## All moves -/

/-- What every move keeps. -/
structure Sound (l : LiveTraffic) : Prop extends World l where
  sockets : ∀ socket ∈ l.sockets, socket.Sound l
  /-- Every session has a channel of its own. -/
  distinct : (l.sockets.map (·.connection)).Nodup

/-- What a session does when it takes a turn. -/
theorem Sound.after (h : l.Sound) {socket : Socket} (hsocket : socket ∈ l.sockets) {s : Session}
    {messages : List Outgoing} {moves : List Move}
    (htaken : socket.session.Taken l.signal l.traffic.channels messages moves s.hasEnded)
    (hbefore : socket.session.hasEnded = false)
    (houtbound : s.outbound = socket.session.outbound ++ messages)
    (hconnection : s.connection = socket.session.connection)
    (hseen : s.seen = socket.session.seen) :
    (socket.after s).Sound (moves.foldl goes l) := by
  have hs := h.sockets socket hsocket
  have howner := hs.owner
  rw [if_neg (by simp [hbefore])] at howner
  have hgone (l' : LiveTraffic) :
      (l'.goes (.drop socket.connection)).traffic.channels.owner? socket.connection = none :=
    (LiveChannels.owner?_drop ..).trans (if_pos rfl)
  generalize hended : s.hasEnded = ended at htaken
  cases htaken with
  | stay hmessages =>
    -- neither a ping nor a pong carries a frame
    refine hs.goOn hbefore hended hconnection hseen houtbound (fun m hm => (hmessages m hm).1)
      (le_refl _) rfl ?_
    have hnothing : messages.filterMap Outgoing.frame? = [] :=
      List.filterMap_eq_nil_iff.mpr fun m hm => (hmessages m hm).2
    rw [hnothing, List.append_nil]
    rfl
  | @forward frame hread =>
    have hreadFrom := Traffic.readFrom_of_message hread
    -- the frame that is read was accepted, and so it is text
    have hmem : frame ∈ (l.goes (.receive socket.connection)).accepted socket.connection := by
      rw [(h.toWorld.goes _).accepted_eq]
      refine List.mem_append_left _ (List.mem_append_left _ ?_)
      exact hreadFrom ▸ List.mem_append_right _ (List.mem_singleton_self _)
    obtain ⟨hframe, hcurrent⟩ :=
      Outgoing.ofFrame_of_isText ((h.toWorld.goes _).isText_accepted hmem)
    refine hs.goOn hbefore hended hconnection hseen houtbound (by simpa using hcurrent)
      (next_foldl l _) LiveChannels.owner?_receive ?_
    rw [List.filterMap_cons, hframe]
    exact hreadFrom
  | supersede hclosed =>
    -- the channel has ended: it is drained, and its consumer has a newer one
    obtain ⟨c, hc, hconsumer⟩ := LiveChannels.owner?_eq_some.mp howner
    obtain ⟨hbuffer, hcurrent⟩ := LiveChannels.of_receive_closed hc hclosed
    rw [hconsumer] at hcurrent
    have hleft := h.kept.left socket.connection (.inl (by simp [hc]))
    refine hs.finish (some supersededClose) hbefore hended hconnection hseen houtbound
      (by simp) (next_foldl l _) (hgone l) List.prefix_rfl (fun _ => ⟨rfl, ?_, ?_⟩) ?_
    · refine (l.book.leftAt_append_losses l.traffic socket.connection socket.connection).trans ?_
      rw [if_pos rfl, hleft, hbuffer]
      rfl
    · obtain ⟨n, hlt, hmem⟩ := (h.newest _ _ howner).resolve_left hcurrent
      exact ⟨n, hlt, List.mem_append_left _ hmem⟩
    · simp [supersededClose, shutdownClose]
  | shutDown hsignal =>
    -- the session has not seen any signal yet, so a change of it is the first one
    refine hs.finish (some shutdownClose) hbefore hended hconnection hseen houtbound
      (by simp) (next_foldl l _) (hgone l) List.prefix_rfl ?_ fun _ => ?_
    · simp [supersededClose, shutdownClose]
    · rw [hs.seen] at hsignal
      rcases hsignal with hraised | hset | hdropped
      · exact .inl hraised
      · exact .inl (h.signal hset)
      · exact .inr hdropped
  | leave =>
    -- a frame may have been read and not sent, but what was sent was read
    refine hs.finish none hbefore hended hconnection hseen houtbound (by simp)
      (next_foldl l _) ?_ (prefix_foldl l _ _) (by simp) (by simp)
    rw [List.foldl_append]
    exact hgone _

/-- One WebSocket changes, and no other one notices. -/
theorem Sound.set (h : l.Sound) {place : Nat} {socket socket' : Socket}
    (hsocket : l.sockets[place]? = some socket) (hworld : l'.World)
    (hsockets : l'.sockets = l.sockets.set place socket')
    (hconnection : socket'.connection = socket.connection) (hself : socket'.Sound l')
    (hothers : ∀ other : Socket, other.connection ≠ socket.connection → other.Sound l →
      other.Sound l') : l'.Sound := by
  obtain ⟨before, after, hbefore, hset⟩ := Traffic.exists_of_set hsocket socket'
  have hdistinct := h.distinct
  have hsound := h.sockets
  rw [hbefore, List.map_append, List.map_cons] at hdistinct
  rw [hbefore] at hsound
  -- the channel of this session is none of those of the sessions before and behind it
  have hapart := List.nodup_middle.mp hdistinct
  rw [List.nodup_cons, ← List.map_append] at hapart
  refine ⟨hworld, fun other hother => ?_, ?_⟩
  · rw [hsockets, hset, List.mem_append, List.mem_cons, or_left_comm, ← List.mem_append] at hother
    rcases hother with rfl | hother
    · exact hself
    · refine hothers other (fun heq => hapart.1 ?_) (hsound other ?_)
      · exact heq ▸ List.mem_map_of_mem hother
      · exact (List.mem_append.mp hother).elim (List.mem_append_left _)
          fun hin => List.mem_append_right _ (List.mem_cons_of_mem _ hin)
  · rw [hsockets, hset, List.map_append, List.map_cons, hconnection]
    exact hdistinct

theorem Keeps.sockets (l : LiveTraffic) (sockets : List Socket) (n : Nat) :
    l.Keeps { l with sockets } n := ⟨le_refl _, rfl, rfl, rfl, fun _ he => he, id⟩

theorem World.sockets (h : l.World) (sockets : List Socket) : World { l with sockets } :=
  ⟨h.kept, h.text, h.signal, h.newest, h.unread⟩

/-- The live channels that a session leaves are those to which its moves lead. -/
private theorem move_turn {place : Nat} {turn : Session.Turn} {socket : Socket} {s : Session}
    {channels : LiveChannels} {moves : List Move} (hsocket : l.sockets[place]? = some socket)
    (htake : socket.session.take socket.hasStarted l.traffic.now l.signal l.traffic.channels turn =
      some (s, channels, moves))
    (hchannels : (l.traffic.run moves).channels = channels) :
    l.move (.turn place turn) =
      { moves.foldl goes l with sockets := l.sockets.set place (socket.after s) } := by
  rw [LiveTraffic.move, hsocket]
  dsimp only
  rw [htake]
  dsimp only
  rw [← hchannels, ← traffic_foldl_goes]

/-- A turn does nothing, or the session of that place takes it. -/
theorem turn_cases {place : Nat} (turn : Session.Turn) {socket : Socket}
    (hsocket : l.sockets[place]? = some socket)
    (hunstarted : socket.hasStarted = false → socket.session.hasEnded = false) :
    l.move (.turn place turn) = l ∨
      ∃ s moves messages, socket.session.hasEnded = false ∧
        socket.session.Taken l.signal l.traffic.channels messages moves s.hasEnded ∧
        s.outbound = socket.session.outbound ++ messages ∧
        s.connection = socket.session.connection ∧ s.seen = socket.session.seen ∧
        l.move (.turn place turn) =
          { moves.foldl goes l with sockets := l.sockets.set place (socket.after s) } := by
  cases htake : socket.session.take socket.hasStarted l.traffic.now l.signal l.traffic.channels
      turn with
  | none =>
    rw [LiveTraffic.move, hsocket]
    dsimp only
    rw [htake]
    exact .inl rfl
  | some taken =>
    obtain ⟨s, channels, moves⟩ := taken
    obtain ⟨hrunning, messages, htaken, houtbound, hconnection, hseen, hchannels⟩ :=
      Session.taken_take hunstarted htake
    exact .inr ⟨s, moves, messages, hrunning, htaken, houtbound, hconnection, hseen,
      move_turn hsocket htake hchannels⟩

/-- A session takes a turn. -/
theorem Sound.turn (h : l.Sound) (place : Nat) (turn : Session.Turn) :
    (l.move (.turn place turn)).Sound := by
  cases hsocket : l.sockets[place]? with
  | none =>
    rw [LiveTraffic.move, hsocket]
    exact h
  | some socket =>
    have hmem := List.mem_of_getElem? hsocket
    have hs := h.sockets socket hmem
    obtain hidle | ⟨s, moves, messages, hrunning, htaken, houtbound, hconnection, hseen, hmove⟩ :=
      turn_cases turn hsocket hs.unstarted
    · rw [hidle]
      exact h
    · rw [hmove]
      refine h.set hsocket ((h.toWorld.foldl_goes moves).sockets _) rfl hconnection ?_
        fun other hne hother => ?_
      · -- the session itself is left as its actions leave it
        exact (h.after hmem htaken hrunning houtbound hconnection hseen).keep (.sockets _ _ _)
      · -- and its moves concern no connection but its own
        refine hother.keep (.trans (keeps_foldl hother.old fun m hm heq => hne ?_) (.sockets _ _ _))
        exact Option.some.inj (heq.symm.trans (htaken.connection? m hm))

/-- A client acts. -/
theorem Sound.client (h : l.Sound) (place : Nat) (action : Session.ClientAction) :
    (l.move (.client place action)).Sound := by
  rw [LiveTraffic.move]
  cases hsocket : l.sockets[place]? with
  | none => exact h
  | some socket =>
    have hs := h.sockets socket (List.mem_of_getElem? hsocket)
    have hserver := socket.session.sameServer_clientAct action
    refine h.set hsocket (h.toWorld.sockets _) rfl hserver.connection ?_
      fun other _ hother => hother.keep (.sockets _ _ _)
    exact (hs.sameServer hserver).keep (.sockets _ _ _)

/-- A WebSocket is opened. -/
theorem Sound.upgrade (h : l.Sound) (consumer : Urn) (period : Duration) :
    (l.move (.upgrade consumer period)).Sound := by
  rw [LiveTraffic.move]
  cases hconnect : l.traffic.channels.connect consumer with
  | none =>
    rw [opening?, hconnect]
    exact h
  | some opened =>
    obtain ⟨k, channels⟩ := opened
    have hopening : opening? l.traffic (.connect consumer) = some (k, consumer) := by
      rw [opening?, hconnect]
      rfl
    have hmove : (l.traffic.move (.connect consumer)).channels = channels := by
      rw [Traffic.move, hconnect]
    obtain ⟨hk, hchannels⟩ := LiveChannels.connect_eq_some hconnect
    rw [hopening]
    dsimp only
    -- nobody has had a channel with the new number, so that nothing was read of it
    have hread : (l.goes (.connect consumer)).traffic.readFrom k = [] := by
      have hmoved := (Traffic.readFrom_move l.traffic (.connect consumer) k).2 (by intro h; cases h)
      exact hmoved.trans (h.unread k hk.ge)
    refine ⟨(h.toWorld.goes _).sockets _, fun socket hsocket => ?_, ?_⟩
    · -- old sessions do not notice, and the new one has sent nothing
      rcases List.mem_append.mp hsocket with hold | hnew
      · have hs := h.sockets socket hold
        have hother : (Move.connect consumer).connection? ≠ some socket.connection := by
          intro heq
          cases heq
        exact hs.keep (.trans (keeps_goes hs.old hother) (.sockets _ _ _))
      · rw [List.mem_singleton.mp hnew]
        exact {
          old := by
            show k < (l.traffic.move (.connect consumer)).channels.nextConnection
            rw [hmove, hchannels]
            exact hk ▸ Nat.lt_succ_self _
          seen := rfl
          unstarted := fun _ => rfl
          owner := by
            show (l.traffic.move (.connect consumer)).channels.owner? k = some consumer
            rw [hmove, LiveChannels.owner?_connect hconnect, if_pos rfl]
          running := fun _ m hm => by cases hm
          shape := ⟨[], none, rfl, by simp, by simp⟩
          frames := List.nil_prefix
          complete := fun _ => hread.symm
          superseded := fun hm => by cases hm
          shutdown := fun hm => by cases hm }
    · rw [List.map_append, List.map_singleton, ← List.concat_eq_append]
      refine h.distinct.concat fun hmem => ?_
      obtain ⟨socket, hsocket, heq⟩ := List.mem_map.mp hmem
      have hold := (h.sockets socket hsocket).old
      rw [heq] at hold
      exact absurd hk hold.ne

theorem sound_start (limit capacity patience : Nat) : (start limit capacity patience).Sound where
  toWorld := world_start limit capacity patience
  sockets socket hsocket := by cases hsocket
  distinct := List.nodup_nil

/-- Shutdown is signalled, or the signal is given up. -/
theorem Sound.signalled (h : l.Sound) {signal : Signal}
    (hraised : signal.version ≠ 0 → signal.raised = true)
    (hover : signal.raised = true ∨ signal.dropped = true) : Sound { l with signal } where
  toWorld := ⟨h.kept, h.text, hraised, h.newest, h.unread⟩
  sockets socket hsocket := by
    have hkeeps : l.Keeps { l with signal } socket.connection :=
      ⟨le_refl _, rfl, rfl, rfl, fun _ he => he, fun _ => hover⟩
    exact (h.sockets socket hsocket).keep hkeeps
  distinct := h.distinct

theorem Sound.move (h : l.Sound) (m : LiveMove) : (l.move m).Sound := by
  cases m with
  | turn place turn => exact h.turn place turn
  | client place action => exact h.client place action
  | upgrade consumer period => exact h.upgrade consumer period
  | traffic m =>
    rw [LiveTraffic.move]
    split
    · exact h
    next hfree =>
      refine ⟨h.toWorld.goes m, fun socket hsocket => ?_, h.distinct⟩
      have hs := h.sockets socket hsocket
      refine hs.keep (keeps_goes hs.old fun heq => hfree ?_)
      exact ⟨_, heq, List.mem_map_of_mem hsocket⟩
  | shutdown => exact h.signalled (fun _ => rfl) (.inl rfl)
  | abandon => exact h.signalled h.signal (.inr rfl)

theorem Sound.run (h : l.Sound) (moves : List LiveMove) : (l.run moves).Sound := by
  rw [LiveTraffic.run]
  induction moves generalizing l with
  | nil => exact h
  | cons m moves ih => exact ih (h.move m)

/-! ## Runs -/

/-- What is kept says what the server has sent. -/
theorem Sound.lawful_socket (h : l.Sound) {socket : Socket} (hsocket : socket ∈ l.sockets) :
    socket.Lawful l := by
  have hs := h.sockets socket hsocket
  have haccepted := h.accepted_eq socket.connection
  -- a session that has ended has no channel any more
  have hgone (hended : socket.session.hasEnded = true) :
      l.traffic.channels.owner? socket.connection = none := hs.owner.trans (if_pos hended)
  refine ⟨hs.shape, ?_, fun hsent => ?_, hs.shutdown, fun hended consumer hcurrent => ?_⟩
  · rw [haccepted, List.append_assoc]
    exact hs.frames.trans (List.prefix_append _ _)
  · -- what was accepted was read, left or is buffered, and nothing is left or buffered
    obtain ⟨hleft, hnewer⟩ := hs.superseded hsent
    refine ⟨hnewer, ?_⟩
    have hended : socket.session.hasEnded = true :=
      Bool.not_eq_false _ |>.mp fun hrunning => hs.running hrunning _ hsent
    have hbuffered : l.traffic.channels.buffered socket.connection = [] :=
      LiveChannels.buffered_of_none (Option.map_eq_none_iff.mp (hgone hended))
    rw [haccepted, hleft, hbuffered, List.append_nil, List.append_nil]
    exact hs.complete (.inr hsent)
  · have howner := h.kept.coherent.owner consumer _ hcurrent
    rw [hgone hended] at howner
    cases howner

theorem Sound.untouched (h : l.Sound) {place : Nat} {socket : Socket} (turn : Session.Turn)
    {consumer : Urn} (hsocket : l.sockets[place]? = some socket) (hne : n ≠ socket.connection)
    (hcurrent : l.traffic.channels.current[consumer]? = some n) :
    (l.move (.turn place turn)).traffic.channels.current[consumer]? = some n := by
  have hs := h.sockets socket (List.mem_of_getElem? hsocket)
  obtain hidle | ⟨s, moves, messages, -, htaken, -, -, -, hmove⟩ :=
    turn_cases turn hsocket hs.unstarted
  · rw [hidle]
    exact hcurrent
  · rw [hmove]
    exact h.toWorld.current_foldl htaken.connection? hne hcurrent

/-- After every run the server has kept to the protocol on all WebSockets. -/
theorem lawful_sessions (limit capacity patience : Nat) (moves : List LiveMove) :
    ((start limit capacity patience).run moves).Lawful := by
  have h := (sound_start limit capacity patience).run moves
  exact ⟨fun socket hsocket => h.lawful_socket hsocket,
    fun place socket turn consumer n hsocket hne hcurrent => h.untouched turn hsocket hne hcurrent⟩

end LiveTraffic

end WebSocket

end ServiceBroker
