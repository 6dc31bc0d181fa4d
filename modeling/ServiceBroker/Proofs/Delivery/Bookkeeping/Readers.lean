import ServiceBroker.Proofs.Delivery.Bookkeeping.Pushes

/-!
# Readers keep the books

What traffic and ledger keep, they keep when notifications are matched and consumers connect and
read. A reader takes the first frame of the buffer, and the first push in line gets the slot.

- `Traffic.Kept.still`, `Traffic.Kept.rest`: moves that the ledger hardly notices;
- `Traffic.Kept.post`, `Traffic.Kept.connect`: notifications are matched and connections opened;
- `Traffic.Kept.receive`: a connection is read.
-/

namespace ServiceBroker

namespace Traffic

variable {t t' : Traffic} {b : Ledger} {n : Nat} {c : LiveChannel} {frame : Bytes}
  {buffer : List Bytes}

/-- A move by which nothing is sent and nothing completes. -/
theorem Kept.still (h : Kept t b) {left : List (Nat × Bytes)} (hcoherent : t'.channels.Coherent)
    (hbooked : t'.Booked) (hsending : ∀ place, t'.sending? place = t.sending? place)
    (hsuccess : ∀ place, t'.outcome? place = some none ↔ t.outcome? place = some none)
    (habandoned : ∀ place, t.IsAbandoned place → t'.IsAbandoned place)
    (hbalanced : ∀ n, Balanced (b.arrivedAt n) (b.completedAt n) t'.number?
      (t'.channels.waitingOn n) (t'.readFrom n) ({ b with left }.leftAt n) (t'.channels.buffered n))
    (hleft : ∀ n, t'.channels.channels[n]? ≠ none ∨ t'.channels.nextConnection ≤ n →
      { b with left }.leftAt n = []) :
    Kept t' { b.watch t t' with left } := by
  -- without a new frame or success there are no news to note
  have hnothing : news completion? t t' = [] :=
    news_eq_nil fun place => completion?_congr (hsending place) (hsuccess place)
  rw [Ledger.watch, news_eq_nil hsending, hnothing, List.append_nil, List.append_nil]
  constructor
  case coherent => exact hcoherent
  case booked => exact hbooked
  case arrived =>
    intro e
    rw [hsending]
    exact h.arrived e
  case once => exact h.once
  case balanced => exact hbalanced
  case left => exact hleft
  case completed => exact fun place hplace => h.completed place ((hsuccess place).mp hplace)
  case succeeded =>
    exact fun e he => (h.succeeded e he).imp (hsuccess e.place).mpr (habandoned e.place)

/-- A move that touches neither pushes nor what waits, is buffered or was read. -/
theorem Kept.rest (h : Kept t b) (hcoherent : t'.channels.Coherent) (hbooked : t'.Booked)
    (hended : t'.channels.ended = t.channels.ended)
    (hpushes : ∀ place : Nat, t'.pushes[place]? = t.pushes[place]? ∨
      t.pushes[place]? = none ∧ ∃ push : Push, t'.pushes[place]? = some push ∧
        push.stage = .matched)
    (hread : t'.received = t.received)
    (hchannels : ∀ n, t'.channels.waitingOn n = t.channels.waitingOn n ∧
      t'.channels.buffered n = t.channels.buffered n)
    (hleft : ∀ n, t'.channels.channels[n]? ≠ none ∨ t'.channels.nextConnection ≤ n →
      t.channels.channels[n]? ≠ none ∨ t.channels.nextConnection ≤ n) :
    Kept t' (b.watch t t') := by
  -- pushes that have just been matched have done nothing
  have hsame (place : Nat) : t'.outcome? place = t.outcome? place ∧
      t'.number? place = t.number? place ∧ t'.sending? place = t.sending? place := by
    rcases hpushes place with heq | ⟨hnone, push, hpush, hstage⟩
    · rw [outcome?, number?, sending?, heq, hended]
      exact ⟨rfl, rfl, rfl⟩
    · rw [outcome?_of_push hpush, number?_of_push hpush, sending?_of_push hpush, hstage, outcome?,
        number?, sending?, hnone]
      exact ⟨rfl, rfl, rfl⟩
  refine h.still hcoherent hbooked (fun place => (hsame place).2.2)
    (fun place => by rw [(hsame place).1]) (fun place habandoned => ?_) (fun n => ?_)
    fun n hn => h.left n (hleft n hn)
  · obtain ⟨push, hpush, hstage⟩ := habandoned
    rcases hpushes place with heq | ⟨hnone, -⟩
    · exact ⟨push, heq.trans hpush, hstage⟩
    · rw [hnone] at hpush
      cases hpush
  · rw [(hchannels n).1, (hchannels n).2, readFrom, hread]
    exact (h.balanced n).congr fun e _ => (hsame e.place).2.1

/-- The pushes of a notification that is matched have not done anything yet. -/
theorem Kept.post (h : Kept t b) (producer : Urn) (notification : Notification) :
    Kept (t.move (.post producer notification)) (b.note t (.post producer notification)) := by
  rw [b.note_of_losses rfl]
  refine h.rest h.coherent (h.booked.move h.coherent _) rfl (fun place => ?_) rfl
    (fun n => ⟨rfl, rfl⟩) fun n => id
  rw [move]
  dsimp only
  -- at the places behind all others stand pushes that have just been matched
  rcases Nat.lt_or_ge place t.pushes.length with hlt | hge
  · exact .inl (List.getElem?_append_left hlt)
  · rw [List.getElem?_append_right hge]
    cases hpush : (Post.pushes ⟨producer, notification, t.index⟩)[place - t.pushes.length]? with
    | none => exact .inl (List.getElem?_eq_none hge).symm
    | some push =>
      obtain ⟨consumer, -, rfl⟩ := List.mem_map.mp (List.mem_of_getElem? hpush)
      exact .inr ⟨List.getElem?_eq_none hge, _, rfl, rfl⟩

/-- A connection that is opened has handed out nothing and holds nothing. -/
theorem Kept.connect (h : Kept t b) (consumer : Urn) :
    Kept (t.move (.connect consumer)) (b.note t (.connect consumer)) := by
  have hcoherent := coherent_move h.coherent (.connect consumer)
  have hbooked := h.booked.move h.coherent (.connect consumer)
  rw [b.note_of_losses rfl]
  cases hconnect : t.channels.connect consumer with
  | none =>
    have hmove : t.move (.connect consumer) = t := by rw [move, hconnect]
    rw [hmove]
    exact h.rest h.coherent h.booked rfl (fun place => .inl rfl) rfl (fun n => ⟨rfl, rfl⟩)
      fun n => id
  | some opened =>
    obtain ⟨m, channels⟩ := opened
    have hmove : t.move (.connect consumer) = { t with channels } := by rw [move, hconnect]
    obtain ⟨hm, hchannels⟩ := LiveChannels.connect_eq_some hconnect
    rw [hmove] at hcoherent hbooked ⊢
    have hat (n : Nat) := LiveChannels.channels_connect hconnect n
    -- a channel with this number has not been there before, and the new one is empty
    have hfresh : t.channels.channels[m]? = none := h.coherent.channels_eq_none (ge_of_eq hm)
    refine h.rest hcoherent hbooked (by rw [hchannels]) (fun place => .inl rfl) rfl (fun n => ?_)
      fun n hn => ?_
    · by_cases heq : m = n
      · subst heq
        have hnew := hat m
        rw [if_pos rfl] at hnew
        dsimp only
        rw [LiveChannels.waitingOn_of_some hnew, LiveChannels.buffered_of_some hnew,
          LiveChannels.waitingOn_of_none hfresh, LiveChannels.buffered_of_none hfresh]
        exact ⟨rfl, rfl⟩
      · have hold := hat n
        rw [if_neg heq] at hold
        exact ⟨LiveChannels.waitingOn_congr hold, LiveChannels.buffered_congr hold⟩
    · dsimp only at hn
      rw [hat n] at hn
      have hnext : channels.nextConnection = m + 1 := by rw [hchannels, hm]
      by_cases heq : m = n
      · exact .inr (by omega)
      · rw [if_neg heq] at hn
        exact hn.imp id fun hle => by omega

/-! ### Reading -/

/-- A read of a connection with a frame in its buffer. -/
theorem readFrom_receive_of_buffer (hc : t.channels.channels[n]? = some c)
    (hbuffer : c.buffer = frame :: buffer) (m : Nat) :
    (t.move (.receive n)).readFrom m =
      if n = m then t.readFrom m ++ [frame] else t.readFrom m := by
  rw [readFrom_receive]
  split
  next heq =>
    subst heq
    rw [LiveChannels.buffered_of_some hc, hbuffer]
    rfl
  next => exact List.append_nil _

/-- The buffer that was read loses its first frame, and the first in line gets the slot. -/
theorem lines_receive_self (hc : t.channels.channels[n]? = some c)
    (hbuffer : c.buffer = frame :: buffer) :
    (t.move (.receive n)).channels.waitingOn n = c.waiting.tail ∧
      (t.move (.receive n)).channels.buffered n =
        buffer ++ (c.waiting.take 1).map (·.2) := by
  have hshift : (t.move (.receive n)).channels.channels[n]? = some c.shift :=
    LiveChannels.channels_receive_self hc
  rw [LiveChannels.waitingOn_of_some hshift, LiveChannels.buffered_of_some hshift,
    LiveChannel.shift, hbuffer]
  exact ⟨rfl, rfl⟩

theorem lines_receive_ne {m : Nat} (hne : n ≠ m) :
    (t.move (.receive n)).channels.waitingOn m = t.channels.waitingOn m ∧
      (t.move (.receive n)).channels.buffered m = t.channels.buffered m := by
  have hsame : (t.move (.receive n)).channels.channels[m]? = t.channels.channels[m]? :=
    LiveChannels.channels_receive_ne hne
  exact ⟨LiveChannels.waitingOn_congr hsame, LiveChannels.buffered_congr hsame⟩

/-- Reading leaves nothing behind. -/
private theorem Kept.left_receive (h : Kept t b) (n m : Nat)
    (hm : (t.channels.receive n).2.channels[m]? ≠ none ∨
      (t.channels.receive n).2.nextConnection ≤ m) : b.leftAt m = [] := by
  rw [LiveChannels.channels_receive, LiveChannels.nextConnection_receive] at hm
  refine h.left m (hm.imp_left fun hne hnone => hne ?_)
  rw [hnone]
  split <;> rfl

/-- The reader takes a frame when nobody waits. -/
private theorem Kept.receive_of_nobody (h : Kept t b) (hc : t.channels.channels[n]? = some c)
    (hbuffer : c.buffer = frame :: buffer) (hwaiting : c.waiting = []) :
    Kept (t.move (.receive n)) (b.note t (.receive n)) := by
  -- nobody is served, so no push learns anything
  have hended : (t.move (.receive n)).channels.ended = t.channels.ended := by
    show (t.channels.receive n).2.ended = _
    rw [LiveChannels.receive_of_buffer hc hbuffer, hwaiting]
    rfl
  have hnumber : (t.move (.receive n)).number? = t.number? := by
    funext place
    rw [number?, number?, hended]
    rfl
  have houtcome (place : Nat) : (t.move (.receive n)).outcome? place = t.outcome? place := by
    rw [outcome?, outcome?, hended]
    rfl
  rw [b.note_of_losses rfl]
  refine h.still (coherent_move h.coherent _) (h.booked.move h.coherent _) (fun place => rfl)
    (fun place => by rw [houtcome]) (fun place => id) (fun m => ?_) (h.left_receive n)
  rw [hnumber, readFrom_receive_of_buffer hc hbuffer]
  have hbalanced := h.balanced m
  by_cases heq : n = m
  · subst heq
    -- here the first frame moves from the buffer to what was read
    obtain ⟨hline, hshift⟩ := lines_receive_self hc hbuffer
    have hleft : b.leftAt n = [] := h.left n (.inl (by simp [hc]))
    rw [LiveChannels.waitingOn_of_some hc, LiveChannels.buffered_of_some hc, hwaiting, hbuffer,
      hleft] at hbalanced
    rw [if_pos rfl, hline, hshift, hwaiting, hleft]
    simpa using hbalanced.take
  · obtain ⟨hline, hsame⟩ := lines_receive_ne (t := t) heq
    rw [if_neg heq, hline, hsame]
    exact hbalanced

section Serving

/-! A reader takes a frame, and the first in line gets the slot. -/

variable {number : Nat} {next : Bytes} {waiting : List (Nat × Bytes)}

theorem ended_serve (hc : t.channels.channels[n]? = some c) (hbuffer : c.buffer = frame :: buffer)
    (hwaiting : c.waiting = (number, next) :: waiting) (other : Nat) :
    (t.move (.receive n)).channels.ended[other]? =
      if number = other then some none else t.channels.ended[other]? := by
  show (t.channels.receive n).2.ended[other]? = _
  rw [LiveChannels.ended_receive hc (by simp [hbuffer]), LiveChannel.line, hwaiting]
  simp

/-- The push that is served has no result before. -/
theorem Booked.ended_first (h : t.Booked) (hc : t.channels.channels[n]? = some c)
    (hwaiting : c.waiting = (number, next) :: waiting) : t.channels.ended[number]? = none :=
  (h.line n c hc number (by simp [LiveChannel.line, hwaiting])).2

/-- Who is served does not wait any more. -/
theorem number?_serve (h : t.Booked) (hc : t.channels.channels[n]? = some c)
    (hbuffer : c.buffer = frame :: buffer) (hwaiting : c.waiting = (number, next) :: waiting)
    (place : Nat) : (t.move (.receive n)).number? place =
      if t.number? place = some number then none else t.number? place := by
  show (t.pushes[place]?).bind _ = _
  rw [number?]
  cases t.pushes[place]? with
  | none => rfl
  | some push =>
    rw [Option.bind_some, Option.bind_some]
    cases push.stage with
    | waits ticket deadline =>
      rw [Push.Stage.number?, Push.Stage.number?, ended_serve hc hbuffer hwaiting]
      by_cases heq : number = ticket.number
      · simp [← heq, h.ended_first hc hwaiting]
      · rw [if_neg heq]
        split
        next => rw [if_neg fun hsame => heq (Option.some.inj hsame).symm]
        next => rfl
    | _ => rfl

/-- Who is served has completed. -/
theorem outcome?_serve_self (hc : t.channels.channels[n]? = some c)
    (hbuffer : c.buffer = frame :: buffer) (hwaiting : c.waiting = (number, next) :: waiting)
    {place : Nat} (hnumber : t.number? place = some number) :
    t.outcome? place = none ∧ (t.move (.receive n)).outcome? place = some none := by
  obtain ⟨push, ticket, hpush, hticket, hself, hended⟩ := number?_eq_some hnumber
  rw [outcome?_of_push hpush, outcome?_of_push (t := t.move (.receive n)) hpush]
  cases hstage : push.stage with
  | waits ticket' deadline =>
    rw [hstage] at hticket
    obtain rfl := Option.some.inj hticket
    rw [Push.Stage.outcome?, Push.Stage.outcome?, ended_serve hc hbuffer hwaiting, hself, hended,
      if_pos rfl]
    exact ⟨rfl, rfl⟩
  | _ =>
    rw [hstage] at hticket
    cases hticket

/-- Nobody else notices. -/
private theorem outcome?_serve_ne (h : t.Booked) (hc : t.channels.channels[n]? = some c)
    (hbuffer : c.buffer = frame :: buffer) (hwaiting : c.waiting = (number, next) :: waiting)
    {place : Nat} (hnumber : t.number? place ≠ some number) :
    (t.move (.receive n)).outcome? place = t.outcome? place := by
  cases hpush : t.pushes[place]? with
  | none =>
    rw [outcome?, outcome?, show (t.move (.receive n)).pushes[place]? = none from hpush, hpush]
    rfl
  | some push =>
    rw [number?_of_push hpush] at hnumber
    rw [outcome?_of_push hpush, outcome?_of_push (t := t.move (.receive n)) hpush]
    cases hstage : push.stage with
    | waits ticket deadline =>
      rw [hstage] at hnumber
      rw [Push.Stage.outcome?, Push.Stage.outcome?, ended_serve hc hbuffer hwaiting, if_neg]
      -- with the same number it would be the one that is served
      rintro rfl
      exact hnumber (if_pos (h.ended_first hc hwaiting))
    | _ => rfl

/-- Different pushes wait under different numbers. -/
private theorem Booked.place_eq_of_number? (h : t.Booked) {place other : Nat}
    (hplace : t.number? place = some number) (hother : t.number? other = some number) :
    place = other := by
  obtain ⟨push, ticket, hpush, hticket, hself, -⟩ := number?_eq_some hplace
  obtain ⟨push', ticket', hpush', hticket', hself', -⟩ := number?_eq_some hother
  exact h.place_eq hpush hpush' hticket hticket' (hself.trans hself'.symm)

/-- The books of the connection say who is served, and those of all others stay in order. -/
private theorem Kept.balanced_serve (h : Kept t b) (hc : t.channels.channels[n]? = some c)
    (hbuffer : c.buffer = frame :: buffer) (hwaiting : c.waiting = (number, next) :: waiting) :
    ∃ e ∈ b.arrived, t.number? e.place = some number ∧ ∀ m,
      Balanced (b.arrivedAt m) ((b.completed ++ [e]).filter (·.connection = m))
        (t.move (.receive n)).number? ((t.move (.receive n)).channels.waitingOn m)
        ((t.move (.receive n)).readFrom m) (b.leftAt m)
        ((t.move (.receive n)).channels.buffered m) := by
  have hnumber := number?_serve h.booked hc hbuffer hwaiting
  have hleft : b.leftAt n = [] := h.left n (.inl (by simp [hc]))
  -- the one who is served is the first who waits
  have hbalanced := h.balanced n
  rw [LiveChannels.waitingOn_of_some hc, LiveChannels.buffered_of_some hc, hwaiting, hbuffer,
    hleft] at hbalanced
  obtain ⟨e, he, hfirst, hserved⟩ := hbalanced.serve fun e _ => hnumber e.place
  obtain ⟨harrived, hconnection⟩ := List.mem_filter.mp he
  refine ⟨e, harrived, hfirst, fun m => ?_⟩
  rw [readFrom_receive_of_buffer hc hbuffer, List.filter_append, List.filter_cons, List.filter_nil]
  by_cases heq : n = m
  · subst heq
    obtain ⟨hline, hshift⟩ := lines_receive_self hc hbuffer
    rw [if_pos rfl, hline, hshift, hwaiting, hleft, if_pos hconnection]
    exact hserved
  · obtain ⟨hline, hsame⟩ := lines_receive_ne (t := t) heq
    have hnot : ¬decide (e.connection = m) = true := fun hm =>
      heq ((of_decide_eq_true hconnection).symm.trans (of_decide_eq_true hm))
    rw [if_neg heq, hline, hsame, if_neg hnot, List.append_nil]
    refine (h.balanced m).congr fun e' he' => ?_
    rw [hnumber, if_neg]
    intro hsame
    -- it would be the same push, which has sent its frame to another connection
    obtain ⟨harrived', hm⟩ := List.mem_filter.mp he'
    have hsending := (h.arrived e').mp harrived'
    rw [h.booked.place_eq_of_number? hsame hfirst, (h.arrived e).mp harrived,
      Option.some.injEq] at hsending
    exact hnot (hsending ▸ hm)

/-- The reader takes a frame, and the push that is first in line completes. -/
private theorem Kept.receive_of_line (h : Kept t b) (hc : t.channels.channels[n]? = some c)
    (hbuffer : c.buffer = frame :: buffer) (hwaiting : c.waiting = (number, next) :: waiting) :
    Kept (t.move (.receive n)) (b.note t (.receive n)) := by
  obtain ⟨e, harrived, hfirst, hbalanced⟩ := h.balanced_serve hc hbuffer hwaiting
  obtain ⟨hbefore, hafter⟩ := outcome?_serve_self hc hbuffer hwaiting hfirst
  have hothers {place : Nat} (hne : place ≠ e.place) :
      (t.move (.receive n)).outcome? place = t.outcome? place :=
    outcome?_serve_ne h.booked hc hbuffer hwaiting fun hsame =>
      hne (h.booked.place_eq_of_number? hsame hfirst)
  have hsame (place : Nat) : (t.move (.receive n)).sending? place = t.sending? place := rfl
  have hnews : news completion? t (t.move (.receive n)) = [e] := by
    obtain ⟨push, -, hpush, -⟩ := number?_eq_some hfirst
    have hlt : e.place < (t.move (.receive n)).pushes.length :=
      (List.getElem?_eq_some_iff.mp hpush).1
    rw [news_eq_of_place hlt fun place hne =>
        completion?_congr (hsame place) (by rw [hothers hne]),
      completion?, hbefore, if_neg (Option.some_ne_none none).symm, completion?, hafter,
      if_pos rfl, hsame, (h.arrived e).mp harrived]
    rfl
  rw [b.note_of_losses rfl, Ledger.watch, hnews, news_eq_nil hsame, List.append_nil]
  constructor
  case coherent => exact coherent_move h.coherent _
  case booked => exact h.booked.move h.coherent _
  case arrived => exact h.arrived
  case once => exact h.once
  case balanced => exact hbalanced
  case left => exact h.left_receive n
  case completed =>
    -- who succeeds is the one who is served now, or has succeeded before
    intro place hplace
    by_cases heq : place = e.place
    · exact ⟨e, List.mem_append_right _ (List.mem_singleton_self _), heq.symm⟩
    · rw [hothers heq] at hplace
      obtain ⟨e', he', hplace'⟩ := h.completed place hplace
      exact ⟨e', List.mem_append_left _ he', hplace'⟩
  case succeeded =>
    intro e' he'
    rcases List.mem_append.mp he' with hold | hnew
    · refine (h.succeeded e' hold).imp_left fun hsuccess => ?_
      by_cases heq : e'.place = e.place
      · rw [heq]
        exact hafter
      · rw [hothers heq]
        exact hsuccess
    · rw [List.mem_singleton.mp hnew]
      exact .inl hafter

end Serving

theorem Kept.receive (h : Kept t b) (n : Nat) :
    Kept (t.move (.receive n)) (b.note t (.receive n)) := by
  -- a read that finds nothing changes nothing
  have hnothing (hsame : (t.channels.receive n).2 = t.channels)
      (hreception : reception t.channels n = none) :
      Kept (t.move (.receive n)) (b.note t (.receive n)) := by
    have hmove : t.move (.receive n) = t := by
      show { t with
        channels := (t.channels.receive n).2
        received := t.received ++ (reception t.channels n).toList } = t
      rw [hsame, hreception, Option.toList_none, List.append_nil]
    rw [b.note_of_losses rfl, hmove]
    exact h.rest h.coherent h.booked rfl (fun place => .inl rfl) rfl (fun m => ⟨rfl, rfl⟩)
      fun m => id
  cases hc : t.channels.channels[n]? with
  | none =>
    refine hnothing (by rw [LiveChannels.receive_of_none hc]) ?_
    rw [reception_eq, hc, Option.bind_none]
  | some c =>
    cases hbuffer : c.buffer with
    | nil =>
      refine hnothing (by rw [LiveChannels.receive_of_empty hc hbuffer]) ?_
      rw [reception_eq, hc, Option.bind_some, hbuffer, List.head?_nil, Option.map_none]
    | cons frame buffer =>
      cases hwaiting : c.waiting with
      | nil => exact h.receive_of_nobody hc hbuffer hwaiting
      | cons first waiting => exact h.receive_of_line hc hbuffer hwaiting

end Traffic

end ServiceBroker
