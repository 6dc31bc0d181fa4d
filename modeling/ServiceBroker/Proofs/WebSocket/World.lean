import ServiceBroker.Proofs.WebSocket.Sessions

/-!
# The world of the sessions

What holds of the traffic beside the sessions of WebSockets, and what it leaves alone that concerns
the session of one connection.

## Main definitions

* `LiveTraffic.World`: what holds of the traffic beside the sessions;
* `LiveTraffic.Keeps`: what concerns the session of a connection is left alone.

## Main results

* `LiveTraffic.World.goes`, `LiveTraffic.keeps_goes`: so it is with every move of traffic;
* `LiveTraffic.World.accepted_eq`: what a connection has accepted has been read, was left or is
  buffered.
-/

namespace ServiceBroker

/-! ## Frames are text -/

/-- Notifications are carried by text. -/
private theorem Post.isText_frame (p : Post) : p.frame.IsText := Json.Value.isText_print _

namespace Traffic

variable {t : Traffic}

private theorem isText_move (h : ∀ push ∈ t.pushes, push.frame.IsText) (m : Move) :
    ∀ push ∈ (t.move m).pushes, push.frame.IsText := by
  cases m with
  | post producer notification =>
    intro push hpush
    rcases List.mem_append.mp hpush with hold | hnew
    · exact h push hold
    · obtain ⟨consumer, -, rfl⟩ := List.mem_map.mp hnew
      exact Post.isText_frame _
  | push place action =>
    rw [move]
    split
    · exact h
    next acting hacting =>
      intro push hpush
      -- a push that acts keeps its frame
      rcases List.mem_or_eq_of_mem_set hpush with hold | rfl
      · exact h push hold
      · exact h acting (List.mem_of_getElem? hacting)
  | connect consumer =>
    rw [move]
    split <;> exact h
  | subscription | drop | receive | advance => exact h

/-- Only opening and dropping channels changes who is connected, and through which. -/
theorem entries_move (t : Traffic) (m : Move) :
    ((t.move m).channels.current = t.channels.current ∧
      (t.move m).channels.nextConnection = t.channels.nextConnection ∧
      ∀ n, (t.move m).channels.owner? n = t.channels.owner? n) ∨
    (∃ consumer n, m = .connect consumer ∧
      t.channels.connect consumer = some (n, (t.move m).channels)) ∨
    ∃ n, m = .drop n ∧ (t.move m).channels = t.channels.drop n := by
  cases m with
  | subscription | post | advance => exact .inl ⟨rfl, rfl, fun _ => rfl⟩
  | receive n =>
    exact .inl ⟨LiveChannels.current_receive, LiveChannels.nextConnection_receive,
      fun _ => LiveChannels.owner?_receive⟩
  | drop n => exact .inr (.inr ⟨n, rfl, rfl⟩)
  | push place action =>
    refine .inl ?_
    rw [move]
    split
    · exact ⟨rfl, rfl, fun _ => rfl⟩
    next push hpush => exact (push.step_act t.now t.patience t.channels action).frame
  | connect consumer =>
    rw [move]
    split
    · exact .inl ⟨rfl, rfl, fun _ => rfl⟩
    next n channels hconnect => exact .inr (.inl ⟨consumer, n, rfl, hconnect⟩)

theorem nextConnection_move (t : Traffic) (m : Move) :
    t.channels.nextConnection ≤ (t.move m).channels.nextConnection := by
  rcases t.entries_move m with ⟨-, hnext, -⟩ | ⟨_, _, -, hconnect⟩ | ⟨_, -, hdrop⟩
  · exact hnext.ge
  · rw [(LiveChannels.connect_eq_some hconnect).2]
    exact Nat.le_succ _
  · rw [hdrop]
    exact LiveChannels.nextConnection_drop.ge

/-- What was read of a connection stays, and only by reading it more is added. -/
theorem readFrom_move (t : Traffic) (m : Move) (n : Nat) :
    t.readFrom n <+: (t.move m).readFrom n ∧
      (m ≠ .receive n → (t.move m).readFrom n = t.readFrom n) := by
  cases m with
  | receive k =>
    rw [readFrom_receive]
    refine ⟨List.prefix_append .., fun hne => ?_⟩
    rw [if_neg fun heq => hne (congrArg _ heq), List.append_nil]
  | push place action =>
    have hread : (t.move (.push place action)).readFrom n = t.readFrom n := by
      rw [readFrom, move]
      split <;> rfl
    exact ⟨hread ▸ List.prefix_rfl, fun _ => hread⟩
  | connect consumer =>
    have hread : (t.move (.connect consumer)).readFrom n = t.readFrom n := by
      rw [readFrom, move]
      split <;> rfl
    exact ⟨hread ▸ List.prefix_rfl, fun _ => hread⟩
  | subscription | post | drop | advance => exact ⟨List.prefix_rfl, fun _ => rfl⟩

/-- A read that finds a frame adds it. -/
theorem readFrom_of_message {n : Nat} {frame : Bytes}
    (h : (t.channels.receive n).1 = .message frame) :
    (t.move (.receive n)).readFrom n = t.readFrom n ++ [frame] := by
  cases hc : t.channels.channels[n]? with
  | none =>
    rw [LiveChannels.receive_of_none hc] at h
    cases h
  | some c =>
    cases hbuffer : c.buffer with
    | nil => exact absurd h (LiveChannels.receive_ne_message hc hbuffer)
    | cons first buffer =>
      rw [LiveChannels.receive_of_buffer hc hbuffer] at h
      cases h
      rw [readFrom_receive_of_buffer hc hbuffer, if_pos rfl]

end Traffic

/-- A channel ends when it is drained and not the current one of its consumer. -/
theorem LiveChannels.of_receive_closed {l : LiveChannels} {n : Nat} {c : LiveChannel}
    (hc : l.channels[n]? = some c) (h : (l.receive n).1 = .closed) :
    l.buffered n = [] ∧ l.current[c.consumer]? ≠ some n := by
  cases hbuffer : c.buffer with
  | cons first buffer =>
    rw [receive_of_buffer hc hbuffer] at h
    cases h
  | nil =>
    -- the current channel of a consumer goes on, however empty it is
    refine ⟨(buffered_of_some hc).trans hbuffer, fun hcurrent => ?_⟩
    have hisCurrent : l.isCurrent n = true := by
      rw [isCurrent, hc]
      simp [hcurrent]
    rw [receive_of_empty hc hbuffer, if_neg (by simp [hisCurrent])] at h
    cases h

namespace WebSocket

/-- The frames that a connection has accepted, in the order in which their pushes obtained slots. -/
def LiveTraffic.accepted (l : LiveTraffic) (n : Nat) : List Bytes :=
  (l.book.completedAt n).map (·.frame)

namespace LiveTraffic

variable {l l' : LiveTraffic} {n : Nat}

/-! ## Moves of traffic -/

/-- What holds of the traffic beside the sessions. -/
structure World (l : LiveTraffic) : Prop where
  kept : l.traffic.Kept l.book
  text : ∀ push ∈ l.traffic.pushes, push.frame.IsText
  /-- Shutdown is all that is ever signalled. -/
  signal : l.signal.version ≠ 0 → l.signal.raised = true
  /-- A channel is the current one of its consumer until this opens another one. -/
  newest : ∀ n consumer, l.traffic.channels.owner? n = some consumer →
    l.traffic.channels.current[consumer]? = some n ∨ ∃ m, n < m ∧ (m, consumer) ∈ l.opened
  /-- Nothing is read of a channel before it is opened. -/
  unread : ∀ n, l.traffic.channels.nextConnection ≤ n → l.traffic.readFrom n = []

theorem world_start (limit capacity patience : Nat) : (start limit capacity patience).World where
  kept := Traffic.kept_start limit capacity patience
  text push hpush := by cases hpush
  signal hset := absurd rfl hset
  newest n consumer howner := by
    simp [start, Traffic.start, LiveChannels.ofCapacity, LiveChannels.owner?] at howner
  unread n _ := rfl

/-- What concerns the session of a connection is left alone. -/
structure Keeps (l l' : LiveTraffic) (n : Nat) : Prop where
  next : l.traffic.channels.nextConnection ≤ l'.traffic.channels.nextConnection
  owner : l'.traffic.channels.owner? n = l.traffic.channels.owner? n
  read : l'.traffic.readFrom n = l.traffic.readFrom n
  left : l'.book.leftAt n = l.book.leftAt n
  opened : ∀ e ∈ l.opened, e ∈ l'.opened
  signal : (l.signal.raised = true ∨ l.signal.dropped = true) →
    l'.signal.raised = true ∨ l'.signal.dropped = true

theorem Keeps.refl (l : LiveTraffic) (n : Nat) : l.Keeps l n :=
  ⟨le_refl _, rfl, rfl, rfl, fun _ he => he, id⟩

theorem Keeps.trans {l'' : LiveTraffic} (h : l.Keeps l' n) (h' : l'.Keeps l'' n) :
    l.Keeps l'' n :=
  ⟨h.next.trans h'.next, h'.owner.trans h.owner, h'.read.trans h.read, h'.left.trans h.left,
    fun e he => h'.opened e (h.opened e he), h'.signal ∘ h.signal⟩

/-- A channel that is there after a move of traffic is the current one of its consumer, unless this
has opened a newer one. -/
private theorem World.newest_goes (h : l.World) (m : Move) (n : Nat) (consumer : Urn)
    (howner : (l.goes m).traffic.channels.owner? n = some consumer) :
    (l.goes m).traffic.channels.current[consumer]? = some n ∨
      ∃ m', n < m' ∧ (m', consumer) ∈ (l.goes m).opened := by
  -- whoever was newer is so still
  have hopened (hnewer : ∃ m', n < m' ∧ (m', consumer) ∈ l.opened) :
      ∃ m', n < m' ∧ (m', consumer) ∈ (l.goes m).opened := by
    obtain ⟨m', hlt, hmem⟩ := hnewer
    exact ⟨m', hlt, List.mem_append_left _ hmem⟩
  change (l.traffic.move m).channels.owner? n = some consumer at howner
  show (l.traffic.move m).channels.current[consumer]? = some n ∨ _
  rcases l.traffic.entries_move m with ⟨hcurrent, -, howners⟩ | ⟨other, k, rfl, hconnect⟩ |
    ⟨k, -, hdrop⟩
  · -- nothing was opened or dropped
    rw [howners] at howner
    rw [hcurrent]
    exact (h.newest n consumer howner).imp_right hopened
  · -- the channel is the new one, or was there before and may be superseded by it
    have hk := (LiveChannels.connect_eq_some hconnect).1
    have hnew : (k, other) ∈ (l.goes (.connect other)).opened := by
      refine List.mem_append_right _ ?_
      rw [opening?, hconnect]
      exact List.mem_singleton_self _
    rw [LiveChannels.owner?_connect hconnect] at howner
    rw [LiveChannels.current_connect hconnect]
    by_cases heq : k = n
    · rw [if_pos heq, Option.some.injEq] at howner
      rw [if_pos howner]
      exact .inl (congrArg some heq)
    · rw [if_neg heq] at howner
      have hlt := h.kept.coherent.fresh n consumer howner
      by_cases hself : other = consumer
      · exact .inr ⟨k, by omega, hself ▸ hnew⟩
      · rw [if_neg hself]
        exact (h.newest n consumer howner).imp_right hopened
  · -- only the channel that is dropped loses its entry
    rw [hdrop, LiveChannels.owner?_drop] at howner
    split at howner
    · cases howner
    next hne =>
      refine (h.newest n consumer howner).imp (fun hcurrent => ?_) hopened
      rw [hdrop, h.kept.coherent.current_drop, if_neg, hcurrent]
      rw [hcurrent, Option.some.injEq]
      exact fun heq => hne heq.symm

theorem World.goes (h : l.World) (m : Move) : (l.goes m).World where
  kept := h.kept.move m
  text := Traffic.isText_move h.text m
  signal := h.signal
  newest := h.newest_goes m
  unread n hn := by
    have hle := (l.traffic.nextConnection_move m).trans hn
    have hnothing : (l.goes m).traffic.readFrom n = l.traffic.readFrom n := by
      by_cases hm : m = .receive n
      · -- there is nothing to read of a channel that is not there
        have hnone : l.traffic.channels.buffered n = [] :=
          LiveChannels.buffered_of_none (h.kept.coherent.channels_eq_none hle)
        rw [hm, LiveTraffic.goes, Traffic.readFrom_receive, hnone, if_pos rfl]
        exact List.append_nil _
      · exact (Traffic.readFrom_move l.traffic m n).2 hm
    rw [hnothing]
    exact h.unread n hle

/-- A move of traffic leaves the connections alone that it does not read or drop. -/
theorem keeps_goes {m : Move} (hn : n < l.traffic.channels.nextConnection)
    (hm : m.connection? ≠ some n) : l.Keeps (l.goes m) n where
  next := l.traffic.nextConnection_move m
  read := by
    refine (Traffic.readFrom_move l.traffic m n).2 fun heq => hm ?_
    rw [heq]
    rfl
  opened e he := List.mem_append_left _ he
  signal := id
  owner := by
    show (l.traffic.move m).channels.owner? n = l.traffic.channels.owner? n
    rcases l.traffic.entries_move m with ⟨-, -, howners⟩ | ⟨_, k, -, hconnect⟩ | ⟨k, rfl, hdrop⟩
    · exact howners n
    · -- a channel that is opened gets a new number
      have hk := (LiveChannels.connect_eq_some hconnect).1
      exact (LiveChannels.owner?_connect hconnect n).trans (if_neg (by omega))
    · have hne : k ≠ n := fun heq => hm (congrArg some heq)
      rw [hdrop]
      exact (LiveChannels.owner?_drop ..).trans (if_neg hne)
  left := by
    cases m with
    | drop k =>
      have hne : k ≠ n := fun heq => hm (congrArg some heq)
      have hlosses := l.book.leftAt_append_losses l.traffic k n
      rw [if_neg hne, List.append_nil] at hlosses
      exact hlosses
    | subscription | post | push | connect | receive | advance =>
      exact congrArg (List.filterMap _) (List.append_nil l.book.left)

/-! ### Several moves -/

theorem World.foldl_goes (h : l.World) (moves : List Move) :
    (moves.foldl LiveTraffic.goes l).World := by
  induction moves generalizing l with
  | nil => exact h
  | cons m moves ih => exact ih (h.goes m)

theorem keeps_foldl {moves : List Move}
    (hn : n < l.traffic.channels.nextConnection) (hmoves : ∀ m ∈ moves, m.connection? ≠ some n) :
    l.Keeps (moves.foldl LiveTraffic.goes l) n := by
  induction moves generalizing l with
  | nil => exact .refl l n
  | cons m moves ih =>
    obtain ⟨hm, hrest⟩ := List.forall_mem_cons.mp hmoves
    have hkeeps := keeps_goes hn hm
    exact hkeeps.trans (ih (hn.trans_le hkeeps.next) hrest)

theorem traffic_foldl_goes (l : LiveTraffic) (moves : List Move) :
    (moves.foldl LiveTraffic.goes l).traffic = l.traffic.run moves := by
  rw [Traffic.run]
  induction moves generalizing l with
  | nil => rfl
  | cons m moves ih => exact ih (l.goes m)

theorem next_foldl (l : LiveTraffic) (moves : List Move) :
    l.traffic.channels.nextConnection ≤
      (moves.foldl LiveTraffic.goes l).traffic.channels.nextConnection := by
  induction moves generalizing l with
  | nil => exact le_refl _
  | cons m moves ih => exact (l.traffic.nextConnection_move m).trans (ih (l.goes m))

theorem prefix_foldl (l : LiveTraffic) (moves : List Move) (n : Nat) :
    l.traffic.readFrom n <+: (moves.foldl LiveTraffic.goes l).traffic.readFrom n := by
  induction moves generalizing l with
  | nil => exact List.prefix_rfl
  | cons m moves ih => exact (Traffic.readFrom_move l.traffic m n).1.trans (ih (l.goes m))

/-- What a channel has accepted is text. -/
theorem World.isText_accepted (h : l.World) {frame : Bytes} (hframe : frame ∈ l.accepted n) :
    frame.IsText := by
  obtain ⟨e, he, rfl⟩ := List.mem_map.mp hframe
  have harrived := h.kept.mem_arrived (List.mem_of_mem_filter he)
  obtain ⟨push, hpush, hsent⟩ := Option.bind_eq_some_iff.mp ((h.kept.arrived e).mp harrived)
  obtain ⟨k, -, hentry⟩ := Option.map_eq_some_iff.mp hsent
  rw [← hentry]
  exact h.text push (List.mem_of_getElem? hpush)

/-- What was read of a channel, it has accepted before. -/
theorem World.accepted_eq (h : l.World) (n : Nat) :
    l.accepted n = l.traffic.readFrom n ++ l.book.leftAt n ++ l.traffic.channels.buffered n :=
  (h.kept.balanced n).frames.symm

/-- Moves that read or drop one channel leave the entries of all others. -/
theorem World.current_foldl (h : l.World) {moves : List Move} {k : Nat}
    (hmoves : ∀ m ∈ moves, m.connection? = some k) (hne : n ≠ k) {consumer : Urn}
    (hcurrent : l.traffic.channels.current[consumer]? = some n) :
    (moves.foldl LiveTraffic.goes l).traffic.channels.current[consumer]? = some n := by
  induction moves generalizing l with
  | nil => exact hcurrent
  | cons m moves ih =>
    obtain ⟨hm, hrest⟩ := List.forall_mem_cons.mp hmoves
    refine ih (h.goes m) hrest ?_
    cases m with
    | receive j =>
      show (l.traffic.channels.receive j).2.current[consumer]? = some n
      rw [LiveChannels.current_receive, hcurrent]
    | drop j =>
      obtain rfl := Option.some.inj hm
      show (l.traffic.channels.drop j).current[consumer]? = some n
      -- the entry is that of another channel, so it is not taken out
      rw [h.kept.coherent.current_drop, if_neg, hcurrent]
      rw [hcurrent, Option.some.injEq]
      exact hne
    | subscription | post | push | connect | advance => cases hm

end LiveTraffic

end WebSocket

end ServiceBroker
