import ServiceBroker.Proofs.Delivery.Waiting.Booked

/-!
# Handles and tickets of traffic

Live channels agree with the pushes of a traffic about handles and tickets at any time. It follows
that whoever stands in a line will be told how its waiting has ended, and that a channel on which no
push is under way has no handles and no line.

- `Booked.connect`, `Booked.drop`, `Booked.receive`: connections come, go and are read;
- `Traffic.Booked.act`: an action of a push takes or gives back what the live channels count;
- `Traffic.IsReachable.booked`: live channels and pushes agree at any time of any run.
-/

namespace ServiceBroker

namespace LiveChannels

namespace Booked

variable {l l' : LiveChannels} {held : List Nat} {tickets : List Ticket} {n : Nat} {c : LiveChannel}

/-! ### Connections -/

/-- A new channel has no handles and no line. -/
theorem connect (h : l.Booked held tickets) {consumer : Urn}
    (hconnect : l.connect consumer = some (n, l')) : l'.Booked held tickets := by
  obtain ⟨hn, hl'⟩ := connect_eq_some hconnect
  have hnext : l'.nextConnection = n + 1 := by rw [hl', hn]
  -- a channel of a larger capacity would not have been made
  have hcapacity : l.capacity ≤ largestCapacity := by
    unfold LiveChannels.connect at hconnect
    split at hconnect
    · cases hconnect
    next hle => exact Nat.not_lt.mp hle
  have hended : l'.ended = l.ended := by rw [hl']
  have hsame : l'.capacity = l.capacity := by rw [hl']
  constructor
  case capacity =>
    rw [hsame]
    exact ⟨h.capacity.1, fun _ => hcapacity⟩
  case buffer =>
    intro m c' hc'
    rw [hsame]
    rcases eq_some_of_connect hconnect hc' with ⟨-, rfl⟩ | hc
    · exact ⟨Nat.zero_le _, fun hne => absurd rfl hne⟩
    · exact h.buffer m c' hc
  case nodup =>
    intro m c' hc'
    rcases eq_some_of_connect hconnect hc' with ⟨-, rfl⟩ | hc
    · exact List.nodup_nil
    · exact h.nodup m c' hc
  case line =>
    intro m c' hc' number hmem
    rcases eq_some_of_connect hconnect hc' with ⟨-, rfl⟩ | hc
    · exact absurd hmem List.not_mem_nil
    · rw [hended]
      exact h.line m c' hc number hmem
  case ticket =>
    intro ticket hmem c' hc'
    -- nobody has a ticket for the new connection yet
    have hlt := (h.ticket_lt ticket hmem).1
    rcases eq_some_of_connect hconnect hc' with ⟨heq, -⟩ | hc
    · omega
    · rw [hended]
      exact h.ticket ticket hmem c' hc
  case distinct => exact h.distinct
  case handles =>
    intro m c' hc'
    rcases eq_some_of_connect hconnect hc' with ⟨rfl, rfl⟩ | hc
    · -- nobody has a handle to a connection that has not been there before
      have hnotMem : n ∉ held := fun hmem => by
        have hlt := h.held_lt n hmem
        omega
      exact (List.count_eq_zero_of_not_mem hnotMem).symm
    · exact h.handles m c' hc
  case held_lt =>
    intro m hm
    have hlt := h.held_lt m hm
    omega
  case ticket_lt =>
    intro ticket hmem
    obtain ⟨hconnection, hnumber⟩ := h.ticket_lt ticket hmem
    rw [hl']
    exact ⟨Nat.lt_succ_of_lt hconnection, hnumber⟩
  case ended_lt =>
    intro number hle
    rw [hl'] at hle ⊢
    exact h.ended_lt number hle

/-- The line of a connection goes with its reader. -/
theorem drop (h : l.Booked held tickets) (n : Nat) : (l.drop n).Booked held tickets := by
  cases hn : l.channels[n]? with
  | none =>
    -- without a reader there is nothing to drop
    have hsame : l.drop n = l := by rw [LiveChannels.drop, hn]
    rwa [hsame]
  | some gone =>
    constructor
    case capacity => simpa using h.capacity
    case buffer =>
      intro m c hc
      rw [capacity_drop]
      exact h.buffer m c (eq_some_of_drop hc).2
    case nodup => exact fun m c hc => h.nodup m c (eq_some_of_drop hc).2
    case line =>
      intro m c hc number hmem
      obtain ⟨hne, hc⟩ := eq_some_of_drop hc
      -- nobody stands in two lines, so those in the others are not told anything
      rw [ended_drop hn fun hgone => hne (h.eq_of_mem_line hn hc hgone hmem)]
      exact h.line m c hc number hmem
    case ticket =>
      intro ticket hmem c hc
      obtain ⟨hne, hc⟩ := eq_some_of_drop hc
      -- the ticket belongs to another connection, so its number is not told anything
      have hnotMem : ticket.number ∉ gone.line := fun hgone => by
        have hticket := (h.line n gone hn _ hgone).1
        exact hne (congrArg Ticket.connection (h.eq_of_number hticket hmem rfl))
      rw [ended_drop hn hnotMem]
      exact h.ticket ticket hmem c hc
    case distinct => exact h.distinct
    case handles => exact fun m c hc => h.handles m c (eq_some_of_drop hc).2
    case held_lt => simpa using h.held_lt
    case ticket_lt => simpa using h.ticket_lt
    case ended_lt =>
      intro number hle
      rw [nextPush_drop] at hle
      -- whoever stands in the line has a number that was given before
      have hnotMem : number ∉ gone.line := fun hgone =>
        absurd (h.ticket_lt _ (h.line n gone hn _ hgone).1).2 (Nat.not_lt.mpr hle)
      rw [ended_drop hn hnotMem]
      exact h.ended_lt number hle

/-- A read of a frame lets the first in line in. -/
theorem receive_of_buffer (h : l.Booked held tickets) (hfirst : l.channels[n]? = some c)
    (hbuffer : c.buffer ≠ []) : (l.receive n).2.Booked held tickets := by
  have hended := ended_receive hfirst hbuffer
  constructor
  case capacity => simpa using h.capacity
  case buffer =>
    intro m c' hc'
    rw [capacity_receive]
    rcases eq_some_of_receive hfirst hc' with ⟨rfl, rfl⟩ | ⟨-, hc⟩
    · -- the buffer stays full as long as there is a line
      obtain ⟨hle, hfull⟩ := h.buffer n c hfirst
      rw [LiveChannel.length_buffer_shift hbuffer, LiveChannel.line_shift hbuffer]
      split
      next hnil =>
        rw [hnil]
        exact ⟨(Nat.sub_le _ _).trans hle, fun hne => absurd List.tail_nil hne⟩
      next hline => exact ⟨hle, fun _ => hfull hline⟩
    · exact h.buffer m c' hc
  case nodup =>
    intro m c' hc'
    rcases eq_some_of_receive hfirst hc' with ⟨rfl, rfl⟩ | ⟨-, hc⟩
    · rw [LiveChannel.line_shift hbuffer]
      exact (h.nodup n c hfirst).tail
    · exact h.nodup m c' hc
  case line =>
    intro m c' hc' number hmem
    -- who still stands in a line is not the one that is let in
    rw [hended, if_neg (h.head?_ne_of_receive hfirst hbuffer hc' hmem)]
    rcases eq_some_of_receive hfirst hc' with ⟨rfl, rfl⟩ | ⟨-, hc⟩
    · rw [LiveChannel.line_shift hbuffer] at hmem
      exact h.line n c hfirst number (List.mem_of_mem_tail hmem)
    · exact h.line m c' hc number hmem
  case ticket =>
    intro ticket hmem c' hc'
    rw [hended]
    by_cases htold : c.line.head? = some ticket.number
    · exact .inr (if_pos htold)
    rw [if_neg htold]
    rcases eq_some_of_receive hfirst hc' with ⟨heq, rfl⟩ | ⟨-, hc⟩
    · refine (h.ticket ticket hmem c (heq ▸ hfirst)).imp (fun hin => ?_) id
      -- who is in line and not told anything is not the first
      rw [LiveChannel.line_shift hbuffer]
      cases hline : c.line with
      | nil => exact absurd (hline ▸ hin) List.not_mem_nil
      | cons number line =>
        rw [hline] at hin htold
        exact (List.mem_cons.mp hin).resolve_left fun heq => htold (heq ▸ rfl)
    · exact h.ticket ticket hmem c' hc
  case distinct => exact h.distinct
  case handles =>
    intro m c' hc'
    rcases eq_some_of_receive hfirst hc' with ⟨rfl, rfl⟩ | ⟨-, hc⟩
    · rw [LiveChannel.handles_shift]
      exact h.handles n c hfirst
    · exact h.handles m c' hc
  case held_lt => simpa using h.held_lt
  case ticket_lt => simpa using h.ticket_lt
  case ended_lt =>
    intro number hle
    rw [nextPush_receive] at hle
    -- whoever is told something has a ticket
    have hnot : c.line.head? ≠ some number := fun htold =>
      have hticket := (h.line n c hfirst number (List.mem_of_head? htold)).1
      absurd (h.ticket_lt _ hticket).2 (Nat.not_lt.mpr hle)
    rw [hended, if_neg hnot]
    exact h.ended_lt number hle

theorem receive (h : l.Booked held tickets) (n : Nat) : (l.receive n).2.Booked held tickets := by
  by_cases hfound : ∃ c, l.channels[n]? = some c ∧ c.buffer ≠ []
  · obtain ⟨c, hc, hbuffer⟩ := hfound
    exact h.receive_of_buffer hc hbuffer
  · -- there is nothing to read
    have hnothing (frame : Bytes) : (l.receive n).1 ≠ .message frame := fun hread => by
      cases hc : l.channels[n]? with
      | none => simp [receive_of_none hc] at hread
      | some c =>
        have hempty : c.buffer = [] := not_not.mp fun hne => hfound ⟨c, hc, hne⟩
        exact receive_ne_message hc hempty hread
    rwa [receive_eq_self hnothing]

end Booked

end LiveChannels

/-! ## Traffic -/

namespace Push.Stage

/-- The connection to which a push holds a handle. -/
def held? : Stage → Option Nat
  | .holds n => some n
  | _ => none

/-- The ticket with which a push waits. -/
def ticket? : Stage → Option Ticket
  | .waits ticket _ => some ticket
  | _ => none

theorem isUnderWay_iff {stage : Stage} {n : Nat} :
    stage.IsUnderWay n ↔
      stage.held? = some n ∨ ∃ ticket, stage.ticket? = some ticket ∧ ticket.connection = n := by
  cases stage <;> simp [IsUnderWay, held?, ticket?]

end Push.Stage

namespace Traffic

variable {t : Traffic}

/-- The connections to which pushes hold handles. -/
def held (t : Traffic) : List Nat := t.pushes.filterMap (·.stage.held?)

/-- The tickets with which pushes wait. -/
def tickets (t : Traffic) : List Ticket := t.pushes.filterMap (·.stage.ticket?)

/-- The live channels agree with the pushes. -/
def Booked (t : Traffic) : Prop := t.channels.Booked t.held t.tickets

theorem booked_start (limit capacity patience : Nat) : (start limit capacity patience).Booked :=
  LiveChannels.booked_ofCapacity capacity

/-- An action of a push takes or gives back what the live channels count. -/
theorem Booked.act (h : t.Booked) (hl : t.channels.Coherent) {place : Nat} {push : Push}
    {stage : Push.Stage} {channels : LiveChannels} (hpush : t.pushes[place]? = some push)
    (hstep : Push.Step t.channels push stage channels) :
    Booked { t with pushes := t.pushes.set place { push with stage }, channels } := by
  let after : Traffic := { t with pushes := t.pushes.set place { push with stage }, channels }
  -- what becomes of handles and tickets is told by the stage before and the stage after
  have hheldSame (hsame : stage.held? = push.stage.held?) : after.held = t.held :=
    filterMap_set hpush hsame
  have hticketsSame (hsame : stage.ticket? = push.stage.ticket?) : after.tickets = t.tickets :=
    filterMap_set hpush hsame
  have hgiven {n : Nat} (hbefore : push.stage.held? = some n) (hafter : stage.held? = none) :
      t.held.Perm (n :: after.held) := perm_filterMap_of_set hpush hbefore hafter
  have hreturned {ticket : Ticket} (hbefore : push.stage.ticket? = some ticket)
      (hafter : stage.ticket? = none) : t.tickets.Perm (ticket :: after.tickets) :=
    perm_filterMap_of_set hpush hbefore hafter
  change channels.Booked after.held after.tickets
  cases hstep with
  | stay =>
    rw [hheldSame rfl, hticketsSame rfl]
    exact h
  | miss hmatched | skip hmatched =>
    rw [hheldSame (by rw [hmatched]; rfl), hticketsSame (by rw [hmatched]; rfl)]
    exact h
  | @hold n hmatched hcurrent =>
    have htaken : after.held.Perm (n :: t.held) :=
      perm_filterMap_set hpush (by rw [hmatched]; rfl) rfl
    have hlt := hl.fresh n _ (hl.owner _ n hcurrent)
    rw [hticketsSame (by rw [hmatched]; rfl)]
    exact (LiveChannels.Booked.hold h hlt).perm htaken.symm (.refl _)
  | @refuse n hholds hgone =>
    have hrelease : t.channels.release n = t.channels := LiveChannels.modify_of_none hgone
    have hbefore := LiveChannels.Booked.perm h (hgiven (by rw [hholds]; rfl) rfl) (.refl _)
    rw [hticketsSame (by rw [hholds]; rfl)]
    exact hrelease ▸ hbefore.release
  | @accept n c hholds hc hroom =>
    have hbefore := LiveChannels.Booked.perm h (hgiven (by rw [hholds]; rfl) rfl) (.refl _)
    rw [hticketsSame (by rw [hholds]; rfl)]
    refine (hbefore.pushTo_of_hasRoom (fun c' hc' => ?_) push.frame).release
    rw [hc] at hc'
    cases hc'
    exact hroom
  | @queue n deadline c hholds hc hroom =>
    have hlt := h.held_lt n (List.mem_filterMap.mpr
      ⟨push, List.mem_of_getElem? hpush, by rw [hholds]; rfl⟩)
    have htaken : after.tickets.Perm (⟨n, t.channels.nextPush⟩ :: t.tickets) :=
      perm_filterMap_set hpush (by rw [hholds]; rfl) rfl
    have hbefore := LiveChannels.Booked.perm h (hgiven (by rw [hholds]; rfl) rfl) (.refl _)
    exact (hbefore.pushTo_of_not_hasRoom hlt hc hroom push.frame).release.perm (.refl _) htaken.symm
  | collect hwaits hended =>
    have hbefore := LiveChannels.Booked.perm h (.refl _) (hreturned (by rw [hwaits]; rfl) rfl)
    rw [hheldSame (by rw [hwaits]; rfl)]
    exact hbefore.collect hended
  | cancel hwaits =>
    have hbefore := LiveChannels.Booked.perm h (.refl _) (hreturned (by rw [hwaits]; rfl) rfl)
    rw [hheldSame (by rw [hwaits]; rfl)]
    exact hbefore.cancel
  | release hholds =>
    have hbefore := LiveChannels.Booked.perm h (hgiven (by rw [hholds]; rfl) rfl) (.refl _)
    rw [hticketsSame (by rw [hholds]; rfl)]
    exact hbefore.release

/-- Pushes that have just been matched hold nothing and wait for nothing. -/
theorem Booked.append (h : t.Booked) {pushes : List Push}
    (hmatched : ∀ push ∈ pushes, push.stage = .matched) (posts : List Post) :
    Booked { t with posts, pushes := t.pushes ++ pushes } := by
  have hnone {β : Type} (f : Push.Stage → Option β) (hf : f .matched = none) :
      pushes.filterMap (fun push => f push.stage) = [] := by
    rw [List.filterMap_eq_nil_iff]
    intro push hpush
    rw [hmatched push hpush]
    exact hf
  unfold Booked held tickets
  simp only [List.filterMap_append, hnone Push.Stage.held? rfl, hnone Push.Stage.ticket? rfl,
    List.append_nil]
  exact h

/-- Every move leaves live channels and pushes in agreement. -/
theorem Booked.move (h : t.Booked) (hl : t.channels.Coherent) (m : Move) : (t.move m).Booked := by
  cases m with
  | post => exact h.append (fun _ => Post.stage_of_mem_pushes) _
  | push place action =>
    rw [Traffic.move]
    split
    · exact h
    next push hpush => exact h.act hl hpush (push.step_act ..)
  | connect consumer =>
    rw [Traffic.move]
    split
    · exact h
    next n channels hconnect => exact LiveChannels.Booked.connect h hconnect
  | drop n => exact LiveChannels.Booked.drop h n
  | receive n => exact LiveChannels.Booked.receive h n
  | subscription | advance => exact h

/-- Live channels and pushes agree at any time of any run. -/
theorem IsReachable.booked (h : t.IsReachable) : t.Booked :=
  (h.induct (P := fun t => t.channels.Coherent ∧ t.Booked)
    (fun limit capacity patience => ⟨LiveChannels.coherent_ofCapacity capacity,
      booked_start limit capacity patience⟩)
    fun _ m h => ⟨coherent_move h.1 m, h.2.move h.1 m⟩).2

end Traffic

end ServiceBroker
