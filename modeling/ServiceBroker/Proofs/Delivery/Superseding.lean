import ServiceBroker.Proofs.Delivery.Waiting.Traffic

/-!
# Superseded channels

When a consumer connects again its new channel supersedes the old one. Whether the old one is closed
to notifications from then on depends on the pushes that are under way: one that has a handle to the
old channel, or waits for a slot of it, still goes through, and is reported as delivered although
its frame came to a connection that had been given up.

- `Traffic.TakesNothingNew`: from some time on, a channel gives nothing but what it had accepted,
  then ends, and no push is reported as delivered through it;
- `Traffic.Retired`: what keeps a superseded channel so when no push is under way to it;
- `Traffic.takesNothingNew_iff`: it is so for every continuation exactly when no push was under way
  to the channel at the moment when it was superseded.
-/

namespace ServiceBroker

/-! ## Pushes to other channels -/

/-- A push that is not under way to a connection, and does not find it to be the current one of its
consumer, leaves it alone. -/
theorem Push.Step.apart {channels channels' : LiveChannels} {push : Push} {stage : Push.Stage}
    {n : Nat} (h : Push.Step channels push stage channels') (hidle : ¬push.stage.IsUnderWay n)
    (hcurrent : channels.current[push.consumer]? ≠ some n) :
    channels'.channels[n]? = channels.channels[n]? ∧ ¬stage.IsUnderWay n ∧
      (stage = .over (some n) (some none) → push.stage = stage) := by
  -- the stage before tells which other connection is concerned
  have hother {m : Nat} (hholds : push.stage = .holds m) : m ≠ n := fun heq =>
    hidle (by rw [hholds]; exact heq)
  have hmodify {l : LiveChannels} {m : Nat} (hne : m ≠ n) (f : LiveChannel → LiveChannel) :
      (l.modify m f).channels[n]? = l.channels[n]? := by
    rw [LiveChannels.channels_modify, if_neg hne]
  have hpushTo {m : Nat} (hne : m ≠ n) :
      ((channels.pushTo m push.frame).2.release m).channels[n]? = channels.channels[n]? := by
    rw [LiveChannels.release, hmodify hne, LiveChannels.channels_pushTo, if_neg hne]
  cases h with
  | stay => exact ⟨rfl, hidle, fun _ => rfl⟩
  | miss | skip => exact ⟨rfl, id, fun heq => by cases heq⟩
  | @hold m _ hfound =>
    have hne : m ≠ n := fun heq => hcurrent (heq ▸ hfound)
    exact ⟨hmodify hne _, hne, fun heq => by cases heq⟩
  | refuse => exact ⟨rfl, id, fun heq => by cases heq⟩
  | accept hholds =>
    refine ⟨hpushTo (hother hholds), id, fun heq => ?_⟩
    cases heq
    exact absurd rfl (hother hholds)
  | queue hholds =>
    exact ⟨hpushTo (hother hholds), hother hholds, fun heq => by cases heq⟩
  | @collect ticket _ _ hwaits =>
    have hne : ticket.connection ≠ n := fun heq => hidle (by rw [hwaits]; exact heq)
    refine ⟨rfl, id, fun heq => ?_⟩
    cases heq
    exact absurd rfl hne
  | @cancel ticket _ _ hwaits hnot =>
    have hne : ticket.connection ≠ n := fun heq => hidle (by rw [hwaits]; exact heq)
    refine ⟨by rw [LiveChannels.channels_cancel, if_neg hne], id, fun heq => ?_⟩
    cases heq
    exact absurd rfl hnot
  | release hholds => exact ⟨hmodify (hother hholds) _, id, fun heq => by cases heq⟩

/-- The frames that a connection has accepted and that were not received yet. -/
def LiveChannels.buffered (l : LiveChannels) (n : Nat) : List Bytes :=
  ((l.channels[n]?).map (·.buffer)).getD []

namespace LiveChannels

variable {l l' : LiveChannels} {n : Nat}

theorem buffered_of_some {c : LiveChannel} (h : l.channels[n]? = some c) :
    l.buffered n = c.buffer := by
  rw [buffered, h]
  rfl

theorem buffered_of_none (h : l.channels[n]? = none) : l.buffered n = [] := by
  rw [buffered, h]
  rfl

theorem buffered_congr (h : l'.channels[n]? = l.channels[n]?) : l'.buffered n = l.buffered n := by
  rw [buffered, h, buffered]

end LiveChannels

namespace Traffic

variable {t later : Traffic} {n : Nat} {c : LiveChannel}

/-- The frames that were read from a connection. -/
def readFrom (t : Traffic) (n : Nat) : List Bytes :=
  t.received.filterMap fun r => if r.connection = n then some r.frame else none

/-- The frames that a connection has accepted, read or not. -/
def accepted (t : Traffic) (n : Nat) : List Bytes := t.readFrom n ++ t.channels.buffered n

/-- From the time of `t` until `later`, a connection has given nothing but what it had accepted by
then, and ends after that. -/
structure TakesNothingNew (t : Traffic) (n : Nat) (later : Traffic) : Prop where
  /-- What was read was accepted by then. -/
  reads : later.readFrom n <+: t.accepted n
  /-- The reader gets what is left of that, frame by frame, and then the end. -/
  next : ∀ c : LiveChannel, later.channels.channels[n]? = some c →
    (later.channels.receive n).1 = match (t.accepted n).drop (later.readFrom n).length with
      | [] => .closed
      | frame :: _ => .message frame
  /-- No push is reported as delivered through the connection that was not so by then. -/
  reports : ∀ (place : Nat) (push : Push), later.pushes[place]? = some push →
    push.stage = .over (some n) (some none) → t.pushes[place]? = some push

/-! ## Channels to which no push is under way -/

/-- A channel to which no push is under way has no line and no handles. -/
theorem Booked.idle (h : t.Booked) (hidle : ∀ push ∈ t.pushes, ¬push.stage.IsUnderWay n)
    (hc : t.channels.channels[n]? = some c) : c.waiting = [] ∧ c.handles = 0 := by
  have hheld : n ∉ t.held := fun hmem => by
    obtain ⟨push, hpush, hholds⟩ := List.mem_filterMap.mp hmem
    exact hidle push hpush (Push.Stage.isUnderWay_iff.mpr (.inl hholds))
  refine ⟨LiveChannel.line_eq_nil.mp (List.eq_nil_iff_forall_not_mem.mpr fun number hmem => ?_), ?_⟩
  · obtain ⟨push, hpush, hticket⟩ := List.mem_filterMap.mp (h.line n c hc number hmem).1
    exact hidle push hpush (Push.Stage.isUnderWay_iff.mpr (.inr ⟨_, hticket, rfl⟩))
  · rw [h.handles n c hc, List.count_eq_zero_of_not_mem hheld]

/-- A read takes the frame that is first in the buffer of its connection. -/
theorem readFrom_receive (t : Traffic) (m n : Nat) :
    (t.move (.receive m)).readFrom n =
      t.readFrom n ++ if m = n then (t.channels.buffered n).head?.toList else [] := by
  have hread : (t.move (.receive m)).readFrom n = t.readFrom n ++
      (reception t.channels m).toList.filterMap fun r =>
        if r.connection = n then some r.frame else none := List.filterMap_append
  rw [hread, reception_eq]
  refine congrArg (t.readFrom n ++ ·) ?_
  by_cases heq : m = n
  · subst heq
    rw [if_pos rfl, LiveChannels.buffered]
    cases t.channels.channels[m]? with
    | none => rfl
    | some c => cases hbuffer : c.buffer <;> simp [hbuffer]
  · rw [if_neg heq]
    cases t.channels.channels[m]? with
    | none => rfl
    | some c => cases hbuffer : c.buffer <;> simp [hbuffer, heq]

/-- A connection without a line gives its reader what is in its buffer, frame by frame. -/
private theorem head?_append_buffered
    (hwaiting : ∀ c : LiveChannel, t.channels.channels[n]? = some c →
    c.waiting = []) :
    (t.channels.buffered n).head?.toList ++ (t.channels.receive n).2.buffered n =
      t.channels.buffered n := by
  cases hc : t.channels.channels[n]? with
  | none => simp [LiveChannels.receive_of_none hc, LiveChannels.buffered, hc]
  | some c =>
    rw [LiveChannels.buffered_of_some (LiveChannels.channels_receive_self hc),
      LiveChannels.buffered_of_some hc]
    cases hbuffer : c.buffer <;> simp [LiveChannel.shift, hbuffer, hwaiting c hc]

/-- Reading moves frames from the buffer to the reader, and no others if nobody waits. -/
private theorem accepted_receive (hwaiting : ∀ c : LiveChannel, t.channels.channels[n]? = some c →
    c.waiting = []) (m : Nat) : (t.move (.receive m)).accepted n = t.accepted n := by
  rw [accepted, accepted, readFrom_receive, List.append_assoc]
  refine congrArg (t.readFrom n ++ ·) ?_
  change _ ++ (t.channels.receive m).2.buffered n = _
  by_cases heq : m = n
  · subst heq
    rw [if_pos rfl]
    exact head?_append_buffered hwaiting
  · have hsame : (t.channels.receive m).2.buffered n = t.channels.buffered n :=
      LiveChannels.buffered_congr (LiveChannels.channels_receive_ne heq)
    rw [if_neg heq, List.nil_append, hsame]

/-- A connection that was superseded at the time of `t`, when no push was under way to it, and what
has become of it. -/
structure Retired (t : Traffic) (n : Nat) (later : Traffic) : Prop where
  coherent : later.channels.Coherent
  booked : later.Booked
  old : n < later.channels.nextConnection
  current : ∀ consumer : Urn, later.channels.current[consumer]? ≠ some n
  idle : ∀ push ∈ later.pushes, ¬push.stage.IsUnderWay n
  accepted : ∀ c : LiveChannel, later.channels.channels[n]? = some c →
    later.accepted n = t.accepted n
  within : later.accepted n <+: t.accepted n
  reports : ∀ (place : Nat) (push : Push), later.pushes[place]? = some push →
    push.stage = .over (some n) (some none) → t.pushes[place]? = some push

namespace Retired

/-- Nobody takes a handle to a connection that is retired, so that it stays so. -/
theorem act (h : Retired t n later) {place : Nat} {push : Push} {stage : Push.Stage}
    {channels : LiveChannels} (hpush : later.pushes[place]? = some push)
    (hstep : Push.Step later.channels push stage channels) :
    Retired t n { later with pushes := later.pushes.set place { push with stage }, channels } := by
  have hmem := List.mem_of_getElem? hpush
  obtain ⟨hcurrent, hnext, howner⟩ := hstep.frame
  obtain ⟨hsame, hidle, hreport⟩ := hstep.apart (h.idle push hmem) (h.current push.consumer)
  have hkept : channels.buffered n = later.channels.buffered n := LiveChannels.buffered_congr hsame
  constructor
  case coherent => exact h.coherent.congr hcurrent howner hnext
  case booked => exact h.booked.act h.coherent hpush hstep
  case old => exact hnext ▸ h.old
  case current => exact fun consumer => hcurrent ▸ h.current consumer
  case idle =>
    intro p hp
    rcases List.mem_or_eq_of_mem_set hp with hold | rfl
    · exact h.idle p hold
    · exact hidle
  case accepted =>
    intro c hc
    rw [← h.accepted c (hsame ▸ hc), Traffic.accepted, Traffic.accepted, hkept]
    rfl
  case within =>
    refine Eq.mp (congrArg (· <+: t.accepted n) ?_) h.within
    rw [Traffic.accepted, Traffic.accepted, hkept]
    rfl
  case reports =>
    intro k p hp hover
    dsimp only at hp
    by_cases heq : place = k
    · subst heq
      obtain ⟨hlt, -⟩ := List.getElem?_eq_some_iff.mp hpush
      rw [List.getElem?_set_self hlt] at hp
      cases hp
      -- it was reported before
      have hbefore := hreport hover
      exact hbefore ▸ h.reports place push hpush (hbefore.trans hover)
    · rw [List.getElem?_set_ne heq] at hp
      exact h.reports k p hp hover

/-- A move that is not about pushes, opens no connection of the same number and leaves the buffer to
its reader keeps a connection retired. -/
theorem keep (h : Retired t n later) {later' : Traffic} (hcoherent : later'.channels.Coherent)
    (hbooked : later'.Booked) (hpushes : later'.pushes = later.pushes)
    (hold : later.channels.nextConnection ≤ later'.channels.nextConnection)
    (hcurrent : ∀ consumer : Urn, later'.channels.current[consumer]? = some n →
      later.channels.current[consumer]? = some n)
    (haccepted : later'.accepted n = later.accepted n ∨
      later'.channels.channels[n]? = none ∧ later'.readFrom n = later.readFrom n)
    (hpresent : later'.channels.channels[n]? ≠ none → later.channels.channels[n]? ≠ none) :
    Retired t n later' := by
  refine ⟨hcoherent, hbooked, h.old.trans_le hold, fun consumer hc =>
    h.current consumer (hcurrent consumer hc), hpushes ▸ h.idle, fun c hc => ?_, ?_,
    hpushes ▸ h.reports⟩
  · obtain ⟨c', hc'⟩ := Option.ne_none_iff_exists'.mp (hpresent (by simp [hc]))
    -- a channel that is still there has accepted what it had accepted before
    rcases haccepted with hsame | ⟨hgone, -⟩
    · rw [hsame, h.accepted c' hc']
    · rw [hgone] at hc
      cases hc
  · rcases haccepted with hsame | ⟨hgone, hread⟩
    · rw [hsame]
      exact h.within
    · have hempty : later'.accepted n = later.readFrom n := by
        rw [Traffic.accepted, LiveChannels.buffered, hgone, hread]
        exact List.append_nil _
      rw [hempty]
      exact (List.prefix_append ..).trans h.within

/-- A push that has just been matched is under way to nothing and reports nothing. -/
theorem append (h : Retired t n later) {pushes : List Push}
    (hmatched : ∀ push ∈ pushes, push.stage = .matched) (posts : List Post) :
    Retired t n { later with posts, pushes := later.pushes ++ pushes } := by
  have hbooked := h.booked.append hmatched posts
  refine ⟨h.coherent, hbooked, h.old, h.current, fun push hpush => ?_, h.accepted, h.within,
    fun place push hpush hover => ?_⟩
  · rcases List.mem_append.mp hpush with hold | hnew
    · exact h.idle push hold
    · rw [hmatched push hnew]
      exact id
  · rcases getElem?_append_cases hpush with hold | ⟨k, -, hnew⟩
    · exact h.reports place push hold hover
    · rw [hmatched push (List.mem_of_getElem? hnew)] at hover
      cases hover

/-- A connection that is opened has another number. -/
theorem connect (h : Retired t n later) {consumer : Urn} {m : Nat} {channels : LiveChannels}
    (hconnect : later.channels.connect consumer = some (m, channels)) :
    Retired t n { later with channels } := by
  obtain ⟨hm, hchannels⟩ := LiveChannels.connect_eq_some hconnect
  have hne : m ≠ n := fun heq => absurd h.old (by omega)
  have hsame : channels.channels[n]? = later.channels.channels[n]? := by
    rw [LiveChannels.channels_connect hconnect, if_neg hne]
  refine h.keep (h.coherent.connect hconnect) (LiveChannels.Booked.connect h.booked hconnect) rfl
    ?_ (fun other hc => ?_) (.inl ?_) (hsame ▸ id)
  · rw [hchannels]
    exact Nat.le_succ _
  · dsimp only at hc
    rw [LiveChannels.current_connect hconnect] at hc
    split at hc
    · exact absurd (Option.some.inj hc) hne
    · exact hc
  · rw [Traffic.accepted, Traffic.accepted, LiveChannels.buffered_congr hsame]
    rfl

/-- What a connection had accepted goes with its reader. -/
theorem drop (h : Retired t n later) (m : Nat) : Retired t n (later.move (.drop m)) := by
  have hdrop := LiveChannels.channels_drop later.channels m n
  refine h.keep (coherent_move h.coherent _) (h.booked.move h.coherent _) rfl
    (le_of_eq LiveChannels.nextConnection_drop.symm)
    (fun _ => LiveChannels.current_of_current_drop) ?_ ?_
  · by_cases heq : m = n
    · exact .inr ⟨by rw [Traffic.move, hdrop, if_pos heq], rfl⟩
    · rw [if_neg heq] at hdrop
      left
      rw [Traffic.accepted, Traffic.accepted, Traffic.move, LiveChannels.buffered_congr hdrop]
      rfl
  · rw [Traffic.move, hdrop]
    split
    · exact fun hne => absurd rfl hne
    · exact id

/-- A connection to which no push is under way has no line, so that reading makes room for
nobody. -/
theorem receive (h : Retired t n later) (m : Nat) : Retired t n (later.move (.receive m)) := by
  have hwaiting (c : LiveChannel) (hc : later.channels.channels[n]? = some c) :
      c.waiting = [] := (h.booked.idle h.idle hc).1
  refine h.keep (coherent_move h.coherent _) (h.booked.move h.coherent _) rfl
    (le_of_eq LiveChannels.nextConnection_receive.symm)
    (fun consumer hc => ?_) (.inl (accepted_receive hwaiting m)) ?_
  · rwa [Traffic.move, LiveChannels.current_receive] at hc
  · rw [Traffic.move, LiveChannels.channels_receive]
    split
    · exact mt Option.map_eq_none_iff.mpr
    · exact id

theorem move (h : Retired t n later) (m : Move) : Retired t n (later.move m) := by
  cases m with
  | subscription | advance =>
    exact h.keep h.coherent h.booked rfl (le_refl _) (fun _ => id) (.inl rfl) id
  | post => exact h.append (fun _ => Post.stage_of_mem_pushes) _
  | push place action =>
    rw [Traffic.move]
    split
    · exact h
    next push hpush => exact h.act hpush (push.step_act ..)
  | connect consumer =>
    rw [Traffic.move]
    split
    · exact h
    next m channels hconnect => exact h.connect hconnect
  | drop m => exact h.drop m
  | receive m => exact h.receive m

theorem run (h : Retired t n later) (moves : List Move) : Retired t n (later.run moves) :=
  run_induction h (fun _ m h => h.move m) moves

/-- A connection that is retired gives what it had accepted, and then ends. -/
theorem takesNothingNew (h : Retired t n later) : TakesNothingNew t n later := by
  refine ⟨(List.prefix_append ..).trans h.within, fun c hc => ?_, h.reports⟩
  obtain ⟨hwaiting, hhandles⟩ := h.booked.idle h.idle hc
  have hleft : (t.accepted n).drop (later.readFrom n).length = c.buffer := by
    rw [← h.accepted c hc, Traffic.accepted, List.drop_left, LiveChannels.buffered_of_some hc]
  rw [hleft]
  cases hbuffer : c.buffer with
  | nil =>
    have hnotCurrent : later.channels.isCurrent n = false := by
      rw [LiveChannels.isCurrent, hc]
      simpa using h.current c.consumer
    rw [LiveChannels.receive_of_empty hc hbuffer, if_pos ⟨hnotCurrent, hwaiting, hhandles⟩]
  | cons frame buffer => rw [LiveChannels.receive_of_buffer hc hbuffer]

end Retired

/-! ## Pushes that are under way -/

/-- The push at a place after an action. -/
theorem pushes_move {place : Nat} {push : Push} (hpush : t.pushes[place]? = some push)
    (action : Push.Action) :
    (t.move (.push place action)).pushes[place]? =
      some { push with stage := (push.act t.now t.patience t.channels action).1 } := by
  obtain ⟨hlt, -⟩ := List.getElem?_eq_some_iff.mp hpush
  rw [move, hpush]
  exact List.getElem?_set_self hlt

/-- Some moves bring a push that is under way to a connection to be reported as delivered through
it. -/
def CanReport (t : Traffic) (n : Nat) : Prop :=
  ∃ (moves : List Move) (place : Nat) (before after : Push), t.pushes[place]? = some before ∧
    before.stage.IsUnderWay n ∧ (t.run moves).pushes[place]? = some after ∧
    after.stage = .over (some n) (some none)

/-- A push that has a handle to a connection without a line sends its frame, if need be after a
read. -/
private theorem Booked.canReport_of_holds (h : t.Booked) (hc : t.channels.channels[n]? = some c)
    (hline : c.line = []) {place : Nat} {push : Push} (hpush : t.pushes[place]? = some push)
    (hholds : push.stage = .holds n) : t.CanReport n := by
  have hunderWay : push.stage.IsUnderWay n := hholds ▸ rfl
  by_cases hroom : c.buffer.length < t.channels.capacity
  · exact ⟨[.push place .send], place, push, _, hpush, hunderWay, pushes_move hpush .send,
      Push.act_send_of_hasRoom hholds hc ⟨LiveChannel.line_eq_nil.mp hline, hroom⟩⟩
  · have hpos := h.capacity.1
    have hbuffer : c.buffer ≠ [] := List.ne_nil_of_length_pos (by omega)
    have hread : (t.move (.receive n)).channels.channels[n]? = some c.shift :=
      LiveChannels.channels_receive_self hc
    refine ⟨[.receive n, .push place .send], place, push, _, hpush, hunderWay,
      pushes_move (t := t.move (.receive n)) hpush .send, ?_⟩
    refine Push.act_send_of_hasRoom hholds hread ⟨?_, ?_⟩
    · rw [← LiveChannel.line_eq_nil, LiveChannel.line_shift hbuffer, hline, List.tail_nil]
    · have hle := (h.buffer n c hc).1
      rw [LiveChannel.length_buffer_shift hbuffer, if_pos hline, Traffic.move,
        LiveChannels.capacity_receive]
      omega

/-- A push that waits on a connection without a line was let in, and is told so when it looks. -/
private theorem Booked.canReport_of_waits (h : t.Booked) (hc : t.channels.channels[n]? = some c)
    (hline : c.line = []) {place : Nat} {push : Push} (hpush : t.pushes[place]? = some push)
    {ticket : Ticket} {deadline : Nat} (hwaits : push.stage = .waits ticket deadline)
    (hconnection : ticket.connection = n) : t.CanReport n := by
  subst hconnection
  have hticket : ticket ∈ t.tickets :=
    List.mem_filterMap.mpr ⟨push, List.mem_of_getElem? hpush, by rw [hwaits]; rfl⟩
  have hended := (h.ticket ticket hticket c hc).resolve_left (by simp [hline])
  exact ⟨[.push place .look], place, push, _, hpush, hwaits ▸ rfl, pushes_move hpush .look,
    Push.act_look_of_ended hwaits hended⟩

/-- Whoever is first in line is let in by a read, and told so when it looks. -/
private theorem Booked.canReport_of_line (h : t.Booked) (hc : t.channels.channels[n]? = some c)
    (hline : c.line ≠ []) : t.CanReport n := by
  obtain ⟨number, line, heq⟩ := List.exists_cons_of_ne_nil hline
  have hticket := (h.line n c hc number (heq ▸ List.mem_cons_self)).1
  obtain ⟨first, hfirst, hwaits⟩ := List.mem_filterMap.mp hticket
  obtain ⟨place, hplace⟩ := List.mem_iff_getElem?.mp hfirst
  cases hstage : first.stage with
  | waits ticket deadline =>
    rw [hstage] at hwaits
    obtain rfl : ticket = ⟨n, number⟩ := Option.some.inj hwaits
    have hended : (t.move (.receive n)).channels.ended[number]? = some none := by
      rw [Traffic.move, LiveChannels.ended_receive hc (h.buffer_ne_nil hc hline), heq]
      exact if_pos rfl
    exact ⟨[.receive n, .push place .look], place, first, _, hplace, hstage ▸ rfl,
      pushes_move (t := t.move (.receive n)) hplace .look, Push.act_look_of_ended hstage hended⟩
  | _ =>
    rw [hstage] at hwaits
    cases hwaits

/-- Where a push is under way to a connection with a reader, one can be brought to be reported. -/
private theorem Booked.canReport (h : t.Booked) (hc : t.channels.channels[n]? = some c)
    {push : Push} (hpush : push ∈ t.pushes) (hunderWay : push.stage.IsUnderWay n) :
    t.CanReport n := by
  by_cases hline : c.line = []
  · obtain ⟨place, hplace⟩ := List.mem_iff_getElem?.mp hpush
    cases hstage : push.stage with
    | holds m =>
      rw [hstage] at hunderWay
      obtain rfl : m = n := hunderWay
      exact h.canReport_of_holds hc hline hplace hstage
    | waits ticket deadline =>
      rw [hstage] at hunderWay
      exact h.canReport_of_waits hc hline hplace hstage hunderWay
    | _ =>
      rw [hstage] at hunderWay
      exact absurd hunderWay id
  · -- the push has to let those before it go first
    exact h.canReport_of_line hc hline

/-! ## Superseding -/

/-- At every time of every run from start-up, for a consumer that is connected through a channel:
when it opens a new one, the old one takes no new notification, whatever happens from then on, if
and only if no push is under way to the old one at that moment. A push is under way when it has
taken its handle and not sent its frame yet, or waits for a slot. -/
theorem takesNothingNew_iff (ht : t.IsReachable) {consumer : Urn}
    (hcurrent : t.channels.current[consumer]? = some n) :
    (∀ moves, TakesNothingNew t n ((t.move (.connect consumer)).run moves)) ↔
      ∀ push ∈ t.pushes, ¬push.stage.IsUnderWay n := by
  have hcoherent := ht.coherent
  have hbooked := ht.booked
  have howner := hcoherent.owner consumer n hcurrent
  have hold := hcoherent.fresh n consumer howner
  obtain ⟨c, hc, -⟩ := LiveChannels.owner?_eq_some.mp howner
  -- the new channel is another one, and leaves the old one as it is
  obtain ⟨channels, hconnect⟩ : ∃ channels,
      t.channels.connect consumer = some (t.channels.nextConnection, channels) :=
    ⟨_, if_neg (Nat.not_lt.mpr (hbooked.capacity.2 (by omega)))⟩
  have hmove : t.move (.connect consumer) = { t with channels } := by rw [move, hconnect]
  have hsame : channels.channels[n]? = t.channels.channels[n]? := by
    rw [LiveChannels.channels_connect hconnect, if_neg (by omega)]
  have hcoherent' := coherent_move hcoherent (.connect consumer)
  have hbooked' := hbooked.move hcoherent (.connect consumer)
  rw [hmove] at hcoherent' hbooked' ⊢
  constructor
  · intro hnothing push hpush hunderWay
    obtain ⟨moves', place, before, after, hbefore, hstage, hafter, hover⟩ :=
      Booked.canReport hbooked' (hsame.trans hc) hpush hunderWay
    have hsame := (hnothing moves').reports place after hafter hover
    rw [Option.some.inj (hbefore.symm.trans hsame), hover] at hstage
    exact hstage
  · intro hidle moves'
    suffices hretired : Retired t n { t with channels } from (hretired.run moves').takesNothingNew
    refine ⟨hcoherent', hbooked', ?_, fun other => ?_, hidle, fun _ _ => ?_, ?_,
      fun _ _ hpush _ => hpush⟩
    · rw [(LiveChannels.connect_eq_some hconnect).2]
      exact Nat.lt_succ_of_lt hold
    · dsimp only
      rw [LiveChannels.current_connect hconnect]
      split
      · exact fun heq => absurd (Option.some.inj heq) (by omega)
      next hne =>
        -- the old channel belonged to the consumer alone
        intro hother
        have howner' := hcoherent.owner other n hother
        exact hne (Option.some.inj (howner.symm.trans howner'))
    · rw [accepted, accepted, LiveChannels.buffered_congr hsame]
      rfl
    · rw [accepted, LiveChannels.buffered_congr hsame]
      exact List.prefix_rfl

/-- A consumer asks for the notifications of a namespace and connects; one is pushed, and the push
takes its handle to the channel. -/
def takingHandle : List Move := [
  .subscription (.add ⟨"a", "b"⟩ (.namespaceWide "a") [⟨"n", "", ""⟩]), .connect ⟨"a", "b"⟩,
  .post ⟨"a", "b"⟩ ⟨"n", "", .null⟩, .push 0 .seek]

/-- The push has taken its handle. -/
def handleTaken : Traffic := (start 1 1 0).run takingHandle

/-- It has sent its frame, too. -/
def frameSent : Traffic := (start 1 1 0).run (takingHandle ++ [.push 0 .send])

/-- Once the frame is sent, and stands in the buffer, the consumer may connect again. -/
theorem takesNothingNew_iff_frameSent :
    frameSent.IsReachable ∧ frameSent.channels.current[(⟨"a", "b"⟩ : Urn)]? = some 0 ∧
      (frameSent.accepted 0).length = 1 ∧
      ∀ moves, TakesNothingNew frameSent 0 ((frameSent.move (.connect ⟨"a", "b"⟩)).run moves) := by
  have hreachable : frameSent.IsReachable := ⟨1, 1, 0, _, rfl⟩
  have hcurrent : frameSent.channels.current[(⟨"a", "b"⟩ : Urn)]? = some 0 := by decide +kernel
  have hidle : ∀ push ∈ frameSent.pushes, ¬push.stage.IsUnderWay 0 := by decide +kernel
  exact ⟨hreachable, hcurrent, by decide +kernel,
    (takesNothingNew_iff hreachable hcurrent).mpr hidle⟩

/-- When the consumer connects again before the frame is sent, the old channel, which had accepted
nothing, takes the frame: its reader gets it, and the push is reported as delivered through it. -/
theorem superseded_takes_frame_handleTaken :
    let later := (handleTaken.move (.connect ⟨"a", "b"⟩)).run [.push 0 .send, .receive 0]
    handleTaken.IsReachable ∧ handleTaken.channels.current[(⟨"a", "b"⟩ : Urn)]? = some 0 ∧
      later.channels.current[(⟨"a", "b"⟩ : Urn)]? = some 1 ∧
      handleTaken.accepted 0 = [] ∧ (later.readFrom 0).length = 1 ∧
      (handleTaken.pushes[0]?).map (·.stage) = some (.holds 0) ∧
      (later.pushes[0]?).map (·.stage) = some (.over (some 0) (some none)) ∧
      ¬TakesNothingNew handleTaken 0 later := by
  intro later
  have hcurrent : handleTaken.channels.current[(⟨"a", "b"⟩ : Urn)]? = some 0 := by decide +kernel
  have hnew : later.channels.current[(⟨"a", "b"⟩ : Urn)]? = some 1 := by decide +kernel
  have haccepted : handleTaken.accepted 0 = [] := by decide +kernel
  have hread : (later.readFrom 0).length = 1 := by decide +kernel
  have hholds : (handleTaken.pushes[0]?).map (·.stage) = some (.holds 0) := by decide +kernel
  have hover : (later.pushes[0]?).map (·.stage) = some (.over (some 0) (some none)) := by
    decide +kernel
  refine ⟨⟨1, 1, 0, _, rfl⟩, hcurrent, hnew, haccepted, hread, hholds, hover, fun h => ?_⟩
  have hnothing := h.reads
  rw [haccepted, List.prefix_nil] at hnothing
  rw [hnothing] at hread
  cases hread

end Traffic

end ServiceBroker
