import ServiceBroker.Proofs.Delivery.Conservation

/-!
# Why pushes fail

A push that is over tells something about moments of the run in which it went on. Such a moment is a
prefix of the moves of the run, followed by a move of the push itself.

## Main definitions

* `Traffic.Told`: what those are told who wait for a slot;
* `Traffic.Starves`: a push stands in the line of a channel whose buffer is full.

## Main results

* `Traffic.exists_began`: a push goes where its consumer was connected when it began;
* `Traffic.exists_closed`: it is refused as closed when the reader of that connection has gone;
* `Traffic.exists_starved`: it times out when it has starved for as long as it may wait.
-/

namespace ServiceBroker

/-! ## What those are told who wait -/

namespace Push

variable {now patience : Nat} {channels channels' : LiveChannels} {push : Push} {action : Action}
  {stage : Stage}

/-- An action of a push tells nobody how waiting has ended. -/
private theorem Turn.ended_of_ended (h : Turn now patience channels push action stage channels')
    {number : Nat} {result : PushResult} (hended : channels'.ended[number]? = some result) :
    channels.ended[number]? = some result := by
  have herase {m : Nat} (hended : (channels.ended.erase m)[number]? = some result) :
      channels.ended[number]? = some result := by
    rw [Std.ExtTreeMap.getElem?_erase] at hended
    split at hended
    · cases hended
    · exact hended
  cases h with
  | miss | refuse | wait | skip | idle => exact hended
  | hold | release =>
    simpa only [LiveChannels.held, LiveChannels.release, LiveChannels.ended_modify] using hended
  | accept | queue =>
    simpa only [LiveChannels.release, LiveChannels.ended_modify, LiveChannels.ended_pushTo]
      using hended
  | collect | expire | quit => exact herase hended

end Push

namespace Traffic

variable {t : Traffic} {place : Nat} {push : Push} {stage : Push.Stage} {channels : LiveChannels}

/-- What those are told who wait for a slot, and what they report. -/
structure Told (t : Traffic) : Prop where
  /-- Waiting ends when there is a slot or the reader has gone. -/
  ended : ∀ (number : Nat) (result : PushResult), t.channels.ended[number]? = some result →
    result = none ∨ result = some .closed
  /-- Nobody waits for a reader that has gone without being told so. -/
  gone : ∀ ticket ∈ t.tickets, t.channels.channels[ticket.connection]? = none →
    t.channels.ended[ticket.number]? ≠ none
  /-- That its consumer is not connected is reported by a push that has sent nothing. -/
  reported : ∀ p ∈ t.pushes, ∀ connection? result, p.stage = .over connection? (some result) →
    (connection? = none ↔ result = some .notConnected)

private theorem told_start (limit capacity patience : Nat) :
    (start limit capacity patience).Told where
  ended number result h := by simp [start, LiveChannels.ofCapacity] at h
  gone ticket h := absurd h List.not_mem_nil
  reported p h := absurd h List.not_mem_nil

theorem mem_tickets {ticket : Ticket} : ticket ∈ t.tickets ↔
    ∃ (place : Nat) (push : Push), t.pushes[place]? = some push ∧
      push.stage.ticket? = some ticket := by
  rw [tickets, List.mem_filterMap]
  constructor
  · rintro ⟨push, hpush, hticket⟩
    obtain ⟨place, hplace⟩ := List.mem_iff_getElem?.mp hpush
    exact ⟨place, push, hplace, hticket⟩
  · rintro ⟨place, push, hplace, hticket⟩
    exact ⟨push, List.mem_of_getElem? hplace, hticket⟩

/-- An action of a push leaves it to others what those are told who wait. -/
theorem Told.act (h : t.Told) (hbooked : t.Booked) (hpush : t.pushes[place]? = some push)
    {action : Push.Action}
    (hturn : push.Turn t.now t.patience t.channels action stage channels) :
    (t.acted place push stage channels).Told := by
  -- no reader comes or goes
  have hgone {n : Nat} (hnone : channels.channels[n]? = none) :
      t.channels.channels[n]? = none := by
    have howner := hturn.step.frame.2.2 n
    rw [LiveChannels.owner?, LiveChannels.owner?, hnone] at howner
    exact Option.map_eq_none_iff.mp howner.symm
  constructor
  case ended =>
    intro number result hended
    exact h.ended number result (hturn.ended_of_ended hended)
  case gone =>
    intro ticket hmem hnone
    obtain ⟨other, push', hpush', hticket⟩ := mem_tickets.mp hmem
    rcases pushes_acted_cases hpush hpush' with ⟨rfl, rfl⟩ | ⟨heq, hpush'⟩
    · -- the push itself waits on, or has just found its reader
      have hold (hstage : push.stage.ticket? = some ticket) :
          t.channels.ended[ticket.number]? ≠ none :=
        h.gone ticket (mem_tickets.mpr ⟨other, push, hpush, hstage⟩) (hgone hnone)
      cases hturn with
      | wait | idle => exact hold hticket
      | queue _ hc =>
        cases hticket
        rw [hgone hnone] at hc
        cases hc
      | miss | hold | refuse | accept | collect | expire | skip | release | quit => cases hticket
    · -- whoever else waits has another number
      have hsame : channels.ended[ticket.number]? = t.channels.ended[ticket.number]? :=
        hturn.step.ended_eq fun own hown hnumber =>
          heq (hbooked.place_eq hpush hpush' hown hticket hnumber).symm
      rw [acted, hsame]
      exact h.gone ticket (mem_tickets.mpr ⟨other, push', hpush', hticket⟩) (hgone hnone)
  case reported =>
    intro p hp connection? result hover
    rcases List.mem_or_eq_of_mem_set hp with hold | rfl
    · exact h.reported p hold connection? result hover
    have hmem := List.mem_of_getElem? hpush
    cases hturn with
    | wait | idle => exact h.reported push hmem connection? result hover
    | collect _ hended =>
      cases hover
      rcases h.ended _ _ hended with rfl | rfl <;> simp
    | miss | refuse | accept | expire =>
      cases hover
      simp
    | hold | queue | skip | release | quit => cases hover

/-- A push that has just been matched neither waits nor reports anything. -/
theorem Told.append (h : t.Told) {pushes : List Push}
    (hmatched : ∀ push ∈ pushes, push.stage = .matched) (posts : List Post) :
    Told { t with posts, pushes := t.pushes ++ pushes } where
  ended := h.ended
  gone ticket hmem := by
    obtain ⟨p, hp, hticket⟩ := List.mem_filterMap.mp hmem
    rcases List.mem_append.mp hp with hold | hnew
    · exact h.gone ticket (List.mem_filterMap.mpr ⟨p, hold, hticket⟩)
    · rw [hmatched p hnew] at hticket
      cases hticket
  reported p hp connection? result hover := by
    rcases List.mem_append.mp hp with hold | hnew
    · exact h.reported p hold connection? result hover
    · rw [hmatched p hnew] at hover
      cases hover

/-- Whoever waits has a reader when another one comes. -/
theorem Told.connect (h : t.Told) {consumer : Urn} {n : Nat}
    (hconnect : t.channels.connect consumer = some (n, channels)) :
    Told { t with channels } := by
  have hended : channels.ended = t.channels.ended := by
    rw [(LiveChannels.connect_eq_some hconnect).2]
  refine ⟨by rw [hended]; exact h.ended, fun ticket hmem hnone => ?_, h.reported⟩
  rw [LiveChannels.channels_connect hconnect] at hnone
  rw [hended]
  -- the new connection has a reader, the others have theirs if they had one
  split at hnone
  · cases hnone
  · exact h.gone ticket hmem hnone

/-- Whoever waits for a reader that goes is told so. -/
theorem Told.drop (h : t.Told) (hbooked : t.Booked) (n : Nat) : (t.move (.drop n)).Told := by
  cases hc : t.channels.channels[n]? with
  | none =>
    rw [Traffic.move, LiveChannels.drop_of_none hc]
    exact h
  | some c =>
    constructor
    case ended =>
      intro number result hended
      rw [Traffic.move] at hended
      -- those in line are told now, the others were told before
      by_cases hline : number ∈ c.line
      · rw [hbooked.ended_drop_of_mem hc hline] at hended
        exact .inr (Option.some.inj hended).symm
      · rw [LiveChannels.ended_drop hc hline] at hended
        exact h.ended number result hended
    case gone =>
      intro ticket hmem hnone
      -- who waited on this connection is told, the others may have been told before
      rw [Traffic.move, LiveChannels.channels_drop] at hnone
      rw [Traffic.move, ended_drop_ticket hbooked hc hmem]
      split
      · exact Option.some_ne_none _
      next hnot =>
        split at hnone
        next heq => exact fun hwaits => hnot ⟨heq.symm, hwaits⟩
        next => exact h.gone ticket hmem hnone
    case reported => exact h.reported

/-- Whoever is let in by a read is told so. -/
theorem Told.receive (h : t.Told) (n : Nat) : (t.move (.receive n)).Told := by
  cases hc : t.channels.channels[n]? with
  | none =>
    have hsame : (t.channels.receive n).2 = t.channels := by
      rw [LiveChannels.receive_of_none hc]
    refine ⟨?_, ?_, h.reported⟩
    · rw [Traffic.move, hsame]
      exact h.ended
    · rw [Traffic.move, hsame]
      exact h.gone
  | some c =>
    have hended := LiveChannels.ended_receive_of_some hc
    constructor
    case ended =>
      intro number result hresult
      rw [Traffic.move, hended] at hresult
      -- the first in line is the only one that a read tells anything
      split at hresult
      · exact .inl (Option.some.inj hresult).symm
      · exact h.ended number result hresult
    case gone =>
      intro ticket hmem hnone
      -- a read takes nobody's reader away
      rw [Traffic.move, LiveChannels.channels_receive] at hnone
      rw [Traffic.move, hended]
      split
      · exact Option.some_ne_none _
      · refine h.gone ticket hmem ?_
        split at hnone
        · exact Option.map_eq_none_iff.mp hnone
        · exact hnone
    case reported => exact h.reported

/-- Whoever reads or drops a connection tells those who wait on it. -/
theorem Told.move (h : t.Told) (hbooked : t.Booked) (m : Move) : (t.move m).Told := by
  cases m with
  | subscription | advance => exact ⟨h.ended, h.gone, h.reported⟩
  | post => exact h.append (fun _ => Post.stage_of_mem_pushes) _
  | push place action =>
    rw [Traffic.move]
    split
    · exact h
    next push hpush => exact h.act hbooked hpush (push.turn_act ..)
  | connect consumer =>
    rw [Traffic.move]
    split
    · exact h
    next n channels hconnect => exact h.connect hconnect
  | drop n => exact h.drop hbooked n
  | receive n => exact h.receive n

theorem IsReachable.told (h : t.IsReachable) : t.Told :=
  (h.induct (P := fun t => t.channels.Coherent ∧ t.Booked ∧ t.Told)
    (fun limit capacity patience => ⟨LiveChannels.coherent_ofCapacity capacity,
      booked_start limit capacity patience, told_start limit capacity patience⟩)
    fun _ m h => ⟨coherent_move h.1 m, h.2.1.move h.1 m, h.2.2.move h.2.1 m⟩).2.2

end Traffic

/-! ## When a push began -/

namespace Push

/-- The connection that a push has found. -/
def Stage.target? : Stage → Option Nat
  | .matched => none
  | .holds n => some n
  | .waits ticket _ => some ticket.connection
  | .over connection? _ => connection?

variable {now patience : Nat} {channels channels' : LiveChannels} {push : Push} {action : Action}
  {stage : Stage}

/-- A push goes where its consumer is connected when it looks, and nowhere else afterwards. -/
private theorem Turn.target?_eq (h : Turn now patience channels push action stage channels')
    (hnot : ¬stage.IsAbandoned) :
    (push.stage = .matched ∧ action = .seek ∧
        channels.current[push.consumer]? = stage.target?) ∨
      (stage.target? = push.stage.target? ∧ ¬push.stage.IsAbandoned ∧
        (push.stage = .matched → stage = .matched)) := by
  -- a stage between looking for a connection and the end is neither of the two exceptions
  have hbusy {before : Stage} (hstage : push.stage = before)
      (hbefore : ∀ connection? report?, before ≠ .over connection? report?)
      (hne : before ≠ .matched) :
      ¬push.stage.IsAbandoned ∧ (push.stage = .matched → stage = .matched) :=
    ⟨fun ⟨connection?, hover⟩ => hbefore connection? none (hstage.symm.trans hover),
      fun hmatched => absurd (hstage.symm.trans hmatched) hne⟩
  cases h with
  | miss hstage hcurrent | hold hstage hcurrent => exact .inl ⟨hstage, rfl, hcurrent⟩
  | refuse hstage | accept hstage | queue hstage =>
    exact .inr ⟨by rw [hstage]; rfl, hbusy hstage nofun nofun⟩
  | collect hstage | expire hstage => exact .inr ⟨by rw [hstage]; rfl, hbusy hstage nofun nofun⟩
  | skip | release | quit => exact absurd ⟨_, rfl⟩ hnot
  | wait | idle => exact .inr ⟨rfl, hnot, id⟩

end Push

namespace Traffic

variable {t : Traffic} {place : Nat} {consumer : Urn} {frame : Bytes} {first stage : Push.Stage}

/-- A push stays at its place, with its consumer and its frame. -/
theorem exists_stage_run (hpush : t.pushes[place]? = some ⟨consumer, frame, first⟩)
    (moves : List Move) :
    ∃ stage, (t.run moves).pushes[place]? = some ⟨consumer, frame, stage⟩ := by
  -- the last move may be a turn of the push, which changes its stage only
  induction moves using List.reverseRecOn with
  | nil => exact ⟨first, hpush⟩
  | append_singleton moves m ih =>
    obtain ⟨stage, hstage⟩ := ih
    rw [run_concat]
    rcases pushes_move_cases hstage m with hsame | ⟨_, after, _, -, -, hacted⟩
    · exact ⟨stage, hsame⟩
    · exact ⟨after, hacted ▸ pushes_acted_self hstage⟩

/-- A push that began, and was not abandoned, found its consumer connected where it went. -/
theorem exists_began (hpush : t.pushes[place]? = some ⟨consumer, frame, .matched⟩)
    (moves : List Move) (hlater : (t.run moves).pushes[place]? = some ⟨consumer, frame, stage⟩)
    (hbegun : stage ≠ .matched) (hnot : ¬stage.IsAbandoned) :
    ∃ earlier, earlier ++ [.push place .seek] <+: moves ∧
      (t.run earlier).pushes[place]? = some ⟨consumer, frame, .matched⟩ ∧
      (t.run earlier).channels.current[consumer]? = stage.target? := by
  -- the last move is either the one at which it began, or comes after that
  induction moves using List.reverseRecOn generalizing stage with
  | nil =>
    cases hpush.symm.trans hlater
    exact absurd rfl hbegun
  | append_singleton moves m ih =>
    obtain ⟨mid, hmid⟩ := exists_stage_run hpush moves
    have hextend {earlier : List Move} (h : earlier ++ [.push place .seek] <+: moves) :
        earlier ++ [.push place .seek] <+: moves ++ [m] := h.trans (List.prefix_append ..)
    rw [run_concat] at hlater
    rcases pushes_move_cases hmid m with hsame | ⟨action, after, channels, rfl, hturn, hacted⟩
    · cases hsame.symm.trans hlater
      obtain ⟨earlier, hprefix, hrest⟩ := ih hmid hbegun hnot
      exact ⟨earlier, hextend hprefix, hrest⟩
    · rw [hacted, pushes_acted_self hmid] at hlater
      cases hlater
      rcases hturn.target?_eq hnot with ⟨hmatched, rfl, hcurrent⟩ | ⟨htarget, hgoes, hstill⟩
      · -- this is the moment at which it began
        obtain rfl : mid = .matched := hmatched
        exact ⟨moves, List.prefix_rfl, hmid, hcurrent⟩
      · obtain ⟨earlier, hprefix, hrest⟩ := ih hmid (fun heq => hbegun (hstill heq)) hgoes
        rw [htarget]
        exact ⟨earlier, hextend hprefix, hrest⟩

/-- A push that has come to a stage took a turn that led there, and has stayed there since. -/
theorem exists_turn_to (hpush : t.pushes[place]? = some ⟨consumer, frame, first⟩)
    (moves : List Move) (hlater : (t.run moves).pushes[place]? = some ⟨consumer, frame, stage⟩)
    (hfirst : first ≠ stage) :
    ∃ earlier action before channels, earlier ++ [.push place action] <+: moves ∧
      (t.run earlier).pushes[place]? = some ⟨consumer, frame, before⟩ ∧ before ≠ stage ∧
      Push.Turn (t.run earlier).now t.patience (t.run earlier).channels
        ⟨consumer, frame, before⟩ action stage channels ∧
      ∀ between, earlier ++ [.push place action] <+: between → between <+: moves →
        (t.run between).pushes[place]? = some ⟨consumer, frame, stage⟩ := by
  induction moves using List.reverseRecOn with
  | nil =>
    cases hpush.symm.trans hlater
    exact absurd rfl hfirst
  | append_singleton moves m ih =>
    obtain ⟨mid, hmid⟩ := exists_stage_run hpush moves
    by_cases heq : mid = stage
    · -- it was there before the last move
      subst heq
      obtain ⟨earlier, action, before, channels, hprefix, hbefore, hne, hturn, hsince⟩ := ih hmid
      refine ⟨earlier, action, before, channels, hprefix.trans (List.prefix_append ..), hbefore,
        hne, hturn, fun between hfrom hto => ?_⟩
      rcases List.prefix_concat_iff.mp hto with rfl | hto
      · exact hlater
      · exact hsince between hfrom hto
    · -- otherwise the last move brought it there
      have hmoved := hlater
      rw [run_concat] at hmoved
      rcases pushes_move_cases hmid m with hsame | ⟨action, after, channels, rfl, hturn, hacted⟩
      · cases hsame.symm.trans hmoved
        exact absurd rfl heq
      · rw [hacted, pushes_acted_self hmid] at hmoved
        cases hmoved
        rw [patience_run] at hturn
        refine ⟨moves, action, mid, channels, List.prefix_rfl, hmid, heq, hturn,
          fun between hfrom hto => ?_⟩
        rw [hto.eq_of_length (le_antisymm hto.length_le hfrom.length_le)]
        exact hlater

/-! ## Connections whose reader has gone -/

/-- A push is refused as closed if it had found a connection when it began, and the reader of that
connection has gone before the push was over. -/
theorem exists_closed (h : t.IsReachable)
    (hpush : t.pushes[place]? = some ⟨consumer, frame, .matched⟩) (moves : List Move)
    {connection? : Option Nat}
    (hlater : (t.run moves).pushes[place]? =
      some ⟨consumer, frame, .over connection? (some (some .closed))⟩) :
    ∃ n began closing action, began ++ [.push place .seek] <+: closing ∧
      closing ++ [.push place action] <+: moves ∧
      (t.run began).pushes[place]? = some ⟨consumer, frame, .matched⟩ ∧
      (t.run began).channels.current[consumer]? = some n ∧
      (∃ stage, (t.run closing).pushes[place]? = some ⟨consumer, frame, stage⟩ ∧
        stage.IsUnderWay n) ∧
      (t.run closing).channels.channels[n]? = none := by
  obtain ⟨closing, action, before, channels, hprefix, hbefore, hne, hturn, -⟩ :=
    exists_turn_to hpush moves hlater nofun
  -- whichever way the push was told, it was under way to a connection without a reader
  obtain ⟨n, hunderWay, htarget, hgone⟩ : ∃ n, before.IsUnderWay n ∧ before.target? = some n ∧
      (t.run closing).channels.channels[n]? = none := by
    cases hturn with
    | @refuse n hholds hgone =>
      obtain rfl : before = .holds n := hholds
      exact ⟨n, rfl, rfl, hgone⟩
    | @collect ticket deadline _ hwaits hended =>
      obtain rfl : before = .waits ticket deadline := hwaits
      refine ⟨ticket.connection, rfl, rfl, ?_⟩
      have hbooked := (h.run closing).booked
      cases hc : (t.run closing).channels.channels[ticket.connection]? with
      | none => rfl
      | some c =>
        -- as long as there is a reader, nobody is told that it has gone
        have hticket := mem_tickets.mpr ⟨place, _, hbefore, rfl⟩
        rcases hbooked.ticket ticket hticket c hc with hline | hlet
        · have hwaiting := (hbooked.line _ c hc _ hline).2
          rw [hended] at hwaiting
          cases hwaiting
        · rw [hended] at hlet
          cases hlet
    | wait | idle => exact absurd rfl hne
  obtain ⟨began, hbegan, hmatched, hcurrent⟩ := exists_began hpush closing hbefore
    (by rintro rfl; exact hunderWay) (by rintro ⟨connection?, rfl⟩; exact hunderWay)
  exact ⟨n, began, closing, action, hbegan, hprefix, hmatched, hcurrent.trans htarget,
    ⟨before, hbefore, hunderWay⟩, hgone⟩

/-! ## Channels without a slot -/

/-- The push at a place stands in the line of a channel whose buffer is full. -/
def Starves (t : Traffic) (place : Nat) : Prop :=
  ∃ (push : Push) (ticket : Ticket) (deadline : Nat) (c : LiveChannel),
    t.pushes[place]? = some push ∧ push.stage = .waits ticket deadline ∧
      t.channels.channels[ticket.connection]? = some c ∧ ticket.number ∈ c.line ∧
      c.buffer.length = t.channels.capacity

variable {ticket : Ticket} {deadline : Nat}

/-- Whoever waits and was not told anything starves. -/
theorem IsReachable.starves (h : t.IsReachable)
    (hpush : t.pushes[place]? = some ⟨consumer, frame, .waits ticket deadline⟩)
    (hended : t.channels.ended[ticket.number]? = none) : t.Starves place := by
  have hticket := mem_tickets.mpr ⟨place, _, hpush, rfl⟩
  obtain ⟨c, hc⟩ : ∃ c, t.channels.channels[ticket.connection]? = some c :=
    Option.ne_none_iff_exists'.mp fun hgone => h.told.gone ticket hticket hgone hended
  -- a ticket whose number was told nothing is in line, and behind a full buffer
  have hline : ticket.number ∈ c.line := (h.booked.ticket ticket hticket c hc).resolve_right
    (by rw [hended]; exact nofun)
  exact ⟨_, ticket, deadline, c, hpush, rfl, hc, hline,
    (h.booked.buffer _ c hc).2 (List.ne_nil_of_mem hline)⟩

/-- No turn takes back what a push was told that goes on waiting. -/
private theorem Booked.ended_turn (h : t.Booked) {other : Nat} {action : Push.Action}
    (hpush : t.pushes[place]? = some ⟨consumer, frame, .waits ticket deadline⟩)
    (hstill : (t.move (.push other action)).pushes[place]? =
      some ⟨consumer, frame, .waits ticket deadline⟩)
    {result : PushResult} (hended : t.channels.ended[ticket.number]? = some result) :
    (t.move (.push other action)).channels.ended[ticket.number]? = some result := by
  rw [Traffic.move]
  split
  · exact hended
  next push' hpush' =>
    by_cases heq : other = place
    · -- had it looked, it would not wait any more
      subst heq
      cases hpush.symm.trans hpush'
      rw [pushes_move hpush] at hstill
      have hturn := (Push.mk consumer frame (.waits ticket deadline)).turn_act t.now t.patience
        t.channels action
      generalize Push.act _ t.now t.patience t.channels action = acted at hturn hstill
      obtain ⟨stage, channels⟩ := acted
      cases hstill
      cases hturn with
      | wait | idle => exact hended
      | queue hholds => cases hholds
    · -- another push has another number
      refine ((push'.step_act ..).ended_eq fun other' hother hnumber => ?_).trans hended
      exact heq (h.place_eq hpush' hpush hother rfl hnumber)

/-- What a push was told while it waits stays until it looks. -/
private theorem Booked.ended_move (h : t.Booked)
    (hpush : t.pushes[place]? = some ⟨consumer, frame, .waits ticket deadline⟩) (m : Move)
    (hstill : (t.move m).pushes[place]? = some ⟨consumer, frame, .waits ticket deadline⟩)
    {result : PushResult} (hended : t.channels.ended[ticket.number]? = some result) :
    (t.move m).channels.ended[ticket.number]? = some result := by
  have hticket := mem_tickets.mpr ⟨place, _, hpush, rfl⟩
  cases m with
  | subscription | post | advance => exact hended
  | push other action => exact h.ended_turn hpush hstill hended
  | connect consumer =>
    rw [Traffic.move]
    split
    · exact hended
    next n channels hconnect =>
      rw [(LiveChannels.connect_eq_some hconnect).2]
      exact hended
  | drop n =>
    cases hc : t.channels.channels[n]? with
    | none =>
      rw [Traffic.move, LiveChannels.drop_of_none hc]
      exact hended
    | some c =>
      -- only who was not told anything is told now
      rw [Traffic.move, ended_drop_ticket h hc hticket, if_neg fun hfails => ?_]
      · exact hended
      · rw [hended] at hfails
        cases hfails.2
  | receive n =>
    cases hc : t.channels.channels[n]? with
    | none =>
      rw [Traffic.move, LiveChannels.receive_of_none hc]
      exact hended
    | some c =>
      rw [Traffic.move, LiveChannels.ended_receive_of_some hc, if_neg fun hfirst => ?_]
      · exact hended
      · -- who stands in line was not told anything
        have hwaiting := (h.line n c hc _ (List.mem_of_head? hfirst.2)).2
        rw [hended] at hwaiting
        cases hwaiting

/-- Whoever was not told anything at last was not told anything before. -/
private theorem IsReachable.ended_eq_none (h : t.IsReachable) (moves : List Move)
    (hstill : ∀ between, between <+: moves →
      (t.run between).pushes[place]? = some ⟨consumer, frame, .waits ticket deadline⟩)
    (hlater : (t.run moves).channels.ended[ticket.number]? = none) :
    t.channels.ended[ticket.number]? = none := by
  induction moves using List.reverseRecOn with
  | nil => exact hlater
  | append_singleton moves m ih =>
    have hextend : moves <+: moves ++ [m] := List.prefix_append ..
    refine ih (fun between hbetween => hstill between (hbetween.trans hextend)) ?_
    refine Option.eq_none_iff_forall_ne_some.mpr fun result hended => ?_
    have hkept := (h.run moves).booked.ended_move (hstill moves hextend) m
      (run_concat t moves m ▸ hstill _ List.prefix_rfl) hended
    rw [run_concat, hkept] at hlater
    cases hlater

/-- A push times out if it has starved for as long as it may wait, from the moment when it sent its
frame. -/
theorem exists_starved (h : t.IsReachable)
    (hpush : t.pushes[place]? = some ⟨consumer, frame, .matched⟩) (moves : List Move)
    {connection? : Option Nat}
    (hlater : (t.run moves).pushes[place]? =
      some ⟨consumer, frame, .over connection? (some (some .timeout))⟩) :
    ∃ sent gaveUp, sent ++ [.push place .send] <+: gaveUp ∧
      gaveUp ++ [.push place .look] <+: moves ∧
      (t.run sent).now + t.patience ≤ (t.run gaveUp).now ∧
      ∀ between, sent ++ [.push place .send] <+: between → between <+: gaveUp →
        (t.run between).Starves place := by
  -- the last turn that changed the stage is the look at which the push gave up
  obtain ⟨gaveUp, action, before, channels, hprefix, hbefore, hne, hturn, -⟩ :=
    exists_turn_to hpush moves hlater nofun
  obtain ⟨ticket, deadline, rfl, rfl, hended, hlate⟩ : ∃ ticket deadline,
      before = .waits ticket deadline ∧ action = .look ∧
      (t.run gaveUp).channels.ended[ticket.number]? = none ∧ deadline ≤ (t.run gaveUp).now := by
    cases hturn with
    | @expire ticket deadline hwaits hended hlate =>
      exact ⟨ticket, deadline, hwaits, rfl, hended, hlate⟩
    | collect _ hended => rcases (h.run gaveUp).told.ended _ _ hended with heq | heq <;> cases heq
    | wait | idle => exact absurd rfl hne
  -- the one before it is the sending, at which the deadline was set
  obtain ⟨sent, action, before, channels, hsent, -, hne, hturn, hsince⟩ :=
    exists_turn_to hpush gaveUp hbefore nofun
  obtain ⟨rfl, rfl⟩ : action = .send ∧ deadline = (t.run sent).now + t.patience := by
    cases hturn with
    | queue => exact ⟨rfl, rfl⟩
    | wait | idle => exact absurd rfl hne
  refine ⟨sent, gaveUp, hsent, hprefix, hlate, fun between hfrom hto => ?_⟩
  obtain ⟨rest, rfl⟩ := hto
  have hwaits := hsince between hfrom (List.prefix_append ..)
  -- in between, the stage has stayed the same
  have hstill (part : List Move) (hpart : part <+: rest) :
      ((t.run between).run part).pushes[place]? =
        some ⟨consumer, frame, .waits ticket ((t.run sent).now + t.patience)⟩ := by
    rw [← run_append]
    exact hsince _ (hfrom.trans (List.prefix_append ..))
      ((List.prefix_append_right_inj _).mpr hpart)
  rw [run_append] at hended
  exact (h.run between).starves hwaits ((h.run between).ended_eq_none rest hstill hended)

end Traffic

end ServiceBroker
