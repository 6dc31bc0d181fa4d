import ServiceBroker.Proofs.Delivery.Waiting.Lines

/-!
# Who holds a channel and who waits on it

A channel counts the handles to it and has a line of numbers; a push knows the connection that it
holds or its ticket. That both agree is what `LiveChannels.Booked` says. It is kept when handles are
taken and given back, and when frames are pushed or withdrawn.

- `LiveChannels.Booked`: live channels agree with the handles that are held and the tickets that are
  out;
- `Booked.hold`, `Booked.release`: handles come and go;
- `Booked.pushTo_of_hasRoom`, `Booked.pushTo_of_not_hasRoom`, `Booked.collect`, `Booked.cancel`:
  frames are pushed, and tickets come and go.
-/

namespace ServiceBroker

namespace LiveChannels

/-- Live channels agree with the connections to which handles are held, each as often as there are
handles, and with the tickets of the pushes that wait or have not asked yet how their waiting has
ended. -/
structure Booked (l : LiveChannels) (held : List Nat) (tickets : List Ticket) : Prop where
  /-- Buffers have a slot, and no more than is possible. -/
  capacity : 0 < l.capacity ∧ (0 < l.nextConnection → l.capacity ≤ largestCapacity)
  /-- Buffers hold no more than they can, and there is a line only where the buffer is full. -/
  buffer : ∀ (n : Nat) (c : LiveChannel), l.channels[n]? = some c →
    c.buffer.length ≤ l.capacity ∧ (c.line ≠ [] → c.buffer.length = l.capacity)
  nodup : ∀ (n : Nat) (c : LiveChannel), l.channels[n]? = some c → c.line.Nodup
  /-- Whoever stands in line has a ticket for it and has not been told anything. -/
  line : ∀ (n : Nat) (c : LiveChannel), l.channels[n]? = some c → ∀ number ∈ c.line,
    ⟨n, number⟩ ∈ tickets ∧ l.ended[number]? = none
  /-- Whoever has a ticket stands in line or was let in, unless the reader has gone. -/
  ticket : ∀ ticket ∈ tickets, ∀ c : LiveChannel, l.channels[ticket.connection]? = some c →
    ticket.number ∈ c.line ∨ l.ended[ticket.number]? = some none
  distinct : (tickets.map (·.number)).Nodup
  handles : ∀ (n : Nat) (c : LiveChannel), l.channels[n]? = some c → c.handles = held.count n
  /-- Numbers are not given before their time. -/
  held_lt : ∀ n ∈ held, n < l.nextConnection
  ticket_lt : ∀ ticket ∈ tickets,
    ticket.connection < l.nextConnection ∧ ticket.number < l.nextPush
  ended_lt : ∀ number, l.nextPush ≤ number → l.ended[number]? = none

theorem booked_ofCapacity (capacity : Nat) : (ofCapacity capacity).Booked [] [] where
  capacity := ⟨lt_of_lt_of_le Nat.one_pos (le_max_right ..), fun h => absurd h (lt_irrefl 0)⟩
  buffer n c h := by simp [ofCapacity] at h
  nodup n c h := by simp [ofCapacity] at h
  line n c h := by simp [ofCapacity] at h
  ticket ticket h := absurd h List.not_mem_nil
  distinct := List.nodup_nil
  handles n c h := by simp [ofCapacity] at h
  held_lt n h := absurd h List.not_mem_nil
  ticket_lt ticket h := absurd h List.not_mem_nil
  ended_lt number h := by simp [ofCapacity]

variable {l l' : LiveChannels} {held held' : List Nat} {tickets tickets' : List Ticket}
  {n m : Nat} {c : LiveChannel} {frame : Bytes}

namespace Booked

/-- The order of handles and tickets does not matter. -/
theorem perm (h : l.Booked held tickets) (hheld : held.Perm held')
    (htickets : tickets.Perm tickets') : l.Booked held' tickets' where
  capacity := h.capacity
  buffer := h.buffer
  nodup := h.nodup
  line n c hc number hnumber :=
    ⟨htickets.mem_iff.mp (h.line n c hc number hnumber).1, (h.line n c hc number hnumber).2⟩
  ticket ticket hmem := h.ticket ticket (htickets.mem_iff.mpr hmem)
  distinct := (htickets.map _).nodup_iff.mp h.distinct
  handles n c hc := (h.handles n c hc).trans (hheld.count_eq n)
  held_lt n hmem := h.held_lt n (hheld.mem_iff.mpr hmem)
  ticket_lt ticket hmem := h.ticket_lt ticket (htickets.mem_iff.mpr hmem)
  ended_lt := h.ended_lt

/-- Tickets with the same number are the same. -/
theorem eq_of_number (h : l.Booked held tickets) {a b : Ticket} (ha : a ∈ tickets)
    (hb : b ∈ tickets) (hab : a.number = b.number) : a = b :=
  List.inj_on_of_nodup_map h.distinct ha hb hab

/-- A number stands in one line only. -/
theorem eq_of_mem_line (h : l.Booked held tickets) {c' : LiveChannel} {number : Nat}
    (hc : l.channels[n]? = some c) (hc' : l.channels[m]? = some c') (hn : number ∈ c.line)
    (hm : number ∈ c'.line) : n = m :=
  congrArg Ticket.connection
    (h.eq_of_number (h.line n c hc number hn).1 (h.line m c' hc' number hm).1 rfl)

/-- A number that is still to be given stands in no line. -/
private theorem nextPush_notMem_line (h : l.Booked held tickets) (hc : l.channels[n]? = some c) :
    l.nextPush ∉ c.line := fun hmem =>
  absurd (h.ticket_lt _ (h.line n c hc _ hmem).1).2 (lt_irrefl _)

/-- The buffer of a channel with a line is not empty. -/
theorem buffer_ne_nil (h : l.Booked held tickets) (hc : l.channels[n]? = some c)
    (hline : c.line ≠ []) : c.buffer ≠ [] := by
  have hfull := (h.buffer n c hc).2 hline
  exact List.ne_nil_of_length_pos (hfull ▸ h.capacity.1)

/-- A buffer that has no room for a push is full. -/
theorem length_buffer_of_not_hasRoom (h : l.Booked held tickets) (hc : l.channels[n]? = some c)
    (hroom : ¬c.HasRoom l.capacity) : c.buffer.length = l.capacity := by
  by_cases hline : c.line = []
  · have hle := (h.buffer n c hc).1
    have hge := Nat.not_lt.mp fun hlt => hroom ⟨LiveChannel.line_eq_nil.mp hline, hlt⟩
    exact le_antisymm hle hge
  · exact (h.buffer n c hc).2 hline

/-- Who is first in line at a connection stands in no line once the connection was read. -/
theorem head?_ne_of_receive (h : l.Booked held tickets) (hc : l.channels[n]? = some c)
    (hbuffer : c.buffer ≠ []) {c' : LiveChannel} (hc' : (l.receive n).2.channels[m]? = some c')
    {number : Nat} (hmem : number ∈ c'.line) : c.line.head? ≠ some number := by
  intro hhead
  rcases eq_some_of_receive hc hc' with ⟨rfl, rfl⟩ | ⟨hne, hc'⟩
  · rw [LiveChannel.line_shift hbuffer] at hmem
    have hnodup := h.nodup n c hc
    rw [← List.cons_head?_tail hhead] at hnodup
    exact (List.nodup_cons.mp hnodup).1 hmem
  · exact hne (h.eq_of_mem_line hc hc' (List.mem_of_head? hhead) hmem)

/-! ### Handles -/

/-- Only handles change, and the count is right. -/
theorem modify_handles (h : l.Booked held tickets) (f : Nat → Nat)
    (hlt : ∀ m ∈ held', m < l.nextConnection)
    (hcount : ∀ m, held'.count m = if n = m then f (held.count m) else held.count m) :
    (l.modify n fun c => { c with handles := f c.handles }).Booked held' tickets := by
  constructor
  case capacity => simpa using h.capacity
  case buffer =>
    intro m c' hc'
    obtain ⟨c, hc, hbuffer, hline, -⟩ := exists_of_modify_handles hc'
    rw [hbuffer, hline, capacity_modify]
    exact h.buffer m c hc
  case nodup =>
    intro m c' hc'
    -- the lines stay, and so does what their members were told
    obtain ⟨c, hc, -, hline, -⟩ := exists_of_modify_handles hc'
    rw [hline]
    exact h.nodup m c hc
  case line =>
    intro m c' hc'
    obtain ⟨c, hc, -, hline, -⟩ := exists_of_modify_handles hc'
    rw [hline, ended_modify]
    exact h.line m c hc
  case ticket =>
    intro ticket hmem c' hc'
    obtain ⟨c, hc, -, hline, -⟩ := exists_of_modify_handles hc'
    rw [hline, ended_modify]
    exact h.ticket ticket hmem c hc
  case distinct => exact h.distinct
  case handles =>
    intro m c' hc'
    obtain ⟨c, hc, -, -, hhandles⟩ := exists_of_modify_handles hc'
    rw [hhandles, hcount, h.handles m c hc]
  case held_lt => simpa using hlt
  case ticket_lt => simpa using h.ticket_lt
  case ended_lt => simpa using h.ended_lt

theorem hold (h : l.Booked held tickets) (hn : n < l.nextConnection) :
    (l.modify n fun c => { c with handles := c.handles + 1 }).Booked (n :: held) tickets := by
  refine h.modify_handles (· + 1) (fun m hm => ?_) fun m => ?_
  · rcases List.mem_cons.mp hm with rfl | hm
    · exact hn
    · exact h.held_lt m hm
  · rw [List.count_cons]
    by_cases heq : n = m <;> simp [heq]

theorem release (h : l.Booked (n :: held) tickets) : (l.release n).Booked held tickets := by
  refine h.modify_handles (· - 1) (fun m hm => h.held_lt m (List.mem_cons_of_mem _ hm)) fun m => ?_
  rw [List.count_cons]
  by_cases heq : n = m <;> simp [heq]

/-! ### Pushes -/

/-- A push that is accepted or refused at once leaves handles and tickets alone. -/
theorem pushTo_of_hasRoom (h : l.Booked held tickets)
    (hroom : ∀ c, l.channels[n]? = some c → c.HasRoom l.capacity) (frame : Bytes) :
    (l.pushTo n frame).2.Booked held tickets := by
  -- no number is given, since nobody has to wait
  have hnext : (l.pushTo n frame).2.nextPush = l.nextPush := by
    rw [pushTo_eq]
    exact if_neg fun ⟨c, hc, hnot⟩ => hnot (hroom c hc)
  constructor
  case capacity => simpa using h.capacity
  case buffer =>
    intro m c' hc'
    rw [capacity_pushTo]
    obtain ⟨c, hc, hline, -, ⟨hnil, hlength⟩ | hbuffer⟩ := exists_of_pushTo_of_hasRoom hroom hc'
    · exact ⟨hlength, fun hne => absurd (hline.trans hnil) hne⟩
    · rw [hbuffer, hline]
      exact h.buffer m c hc
  case nodup =>
    intro m c' hc'
    obtain ⟨c, hc, hline, -⟩ := exists_of_pushTo_of_hasRoom hroom hc'
    rw [hline]
    exact h.nodup m c hc
  case line =>
    intro m c' hc'
    obtain ⟨c, hc, hline, -⟩ := exists_of_pushTo_of_hasRoom hroom hc'
    rw [hline, ended_pushTo]
    exact h.line m c hc
  case ticket =>
    intro ticket hmem c' hc'
    obtain ⟨c, hc, hline, -⟩ := exists_of_pushTo_of_hasRoom hroom hc'
    rw [hline, ended_pushTo]
    exact h.ticket ticket hmem c hc
  case distinct => exact h.distinct
  case handles =>
    intro m c' hc'
    obtain ⟨c, hc, -, hhandles, -⟩ := exists_of_pushTo_of_hasRoom hroom hc'
    rw [hhandles]
    exact h.handles m c hc
  case held_lt => simpa using h.held_lt
  case ticket_lt => simpa [hnext] using h.ticket_lt
  case ended_lt => simpa [hnext] using h.ended_lt

/-- A push that has to wait gets a ticket. -/
theorem pushTo_of_not_hasRoom (h : l.Booked held tickets) (hn : n < l.nextConnection)
    (hc : l.channels[n]? = some c) (hroom : ¬c.HasRoom l.capacity) (frame : Bytes) :
    (l.pushTo n frame).2.Booked held (⟨n, l.nextPush⟩ :: tickets) := by
  have hnext : (l.pushTo n frame).2.nextPush = l.nextPush + 1 := by
    rw [pushTo_eq]
    exact if_pos ⟨c, hc, hroom⟩
  constructor
  case capacity => simpa using h.capacity
  case buffer =>
    intro m c' hc'
    rw [capacity_pushTo]
    obtain ⟨c₀, hc₀, hbuffer, -, ⟨rfl, -⟩ | ⟨-, hline⟩⟩ :=
      exists_of_pushTo_of_not_hasRoom hc hroom hc'
    · obtain rfl : c = c₀ := Option.some.inj (hc.symm.trans hc₀)
      have hfull := h.length_buffer_of_not_hasRoom hc hroom
      rw [hbuffer]
      exact ⟨le_of_eq hfull, fun _ => hfull⟩
    · rw [hbuffer, hline]
      exact h.buffer m c₀ hc₀
  case nodup =>
    intro m c' hc'
    obtain ⟨c₀, hc₀, -, -, ⟨-, hline⟩ | ⟨-, hline⟩⟩ := exists_of_pushTo_of_not_hasRoom hc hroom hc'
    · rw [hline]
      exact List.concat_eq_append ▸ (h.nodup m c₀ hc₀).concat (h.nextPush_notMem_line hc₀)
    · rw [hline]
      exact h.nodup m c₀ hc₀
  case line =>
    intro m c' hc' number hmem
    rw [ended_pushTo]
    obtain ⟨c₀, hc₀, -, -, hline⟩ := exists_of_pushTo_of_not_hasRoom hc hroom hc'
    -- who stands in a line was there before or is the push itself
    have hcases : number ∈ c₀.line ∨ n = m ∧ number = l.nextPush := by
      rcases hline with ⟨heq, hline⟩ | ⟨-, hline⟩
      · rw [hline] at hmem
        exact (List.mem_append.mp hmem).imp id fun hnew => ⟨heq, List.mem_singleton.mp hnew⟩
      · exact .inl (hline ▸ hmem)
    rcases hcases with hold | ⟨rfl, rfl⟩
    · obtain ⟨hticket, hended⟩ := h.line m c₀ hc₀ number hold
      exact ⟨List.mem_cons_of_mem _ hticket, hended⟩
    · exact ⟨List.mem_cons_self, h.ended_lt _ (le_refl _)⟩
  case ticket =>
    intro ticket hmem c' hc'
    rw [ended_pushTo]
    obtain ⟨c₀, hc₀, -, -, hline⟩ := exists_of_pushTo_of_not_hasRoom hc hroom hc'
    rcases List.mem_cons.mp hmem with rfl | hold
    · obtain ⟨-, hline⟩ | ⟨hne, -⟩ := hline
      · exact .inl (hline ▸ List.mem_append_right _ (List.mem_singleton_self _))
      · exact absurd rfl hne
    · refine (h.ticket ticket hold c₀ hc₀).imp (fun hin => ?_) id
      obtain ⟨-, hline⟩ | ⟨-, hline⟩ := hline
      · exact hline ▸ List.mem_append_left _ hin
      · exact hline ▸ hin
  case distinct =>
    -- the number of the new ticket was still to be given
    rw [List.map_cons, List.nodup_cons]
    refine ⟨fun hmem => ?_, h.distinct⟩
    obtain ⟨ticket, hticket, hnumber⟩ := List.mem_map.mp hmem
    exact absurd (hnumber ▸ (h.ticket_lt ticket hticket).2) (lt_irrefl _)
  case handles =>
    intro m c' hc'
    obtain ⟨c₀, hc₀, -, hhandles, -⟩ := exists_of_pushTo_of_not_hasRoom hc hroom hc'
    rw [hhandles]
    exact h.handles m c₀ hc₀
  case held_lt => simpa using h.held_lt
  case ticket_lt =>
    intro ticket hmem
    rw [nextConnection_pushTo, hnext]
    rcases List.mem_cons.mp hmem with rfl | hold
    · exact ⟨hn, Nat.lt_succ_self _⟩
    · exact (h.ticket_lt ticket hold).imp id fun hlt => hlt.trans (Nat.lt_succ_self _)
  case ended_lt =>
    intro number hle
    rw [ended_pushTo]
    exact h.ended_lt number (by omega)

/-- A ticket that is given back has a number of its own. -/
theorem number_ne_of_mem {ticket other : Ticket} (h : l.Booked held (ticket :: tickets))
    (hmem : other ∈ tickets) : other.number ≠ ticket.number := fun heq =>
  (List.nodup_cons.mp (List.map_cons ▸ h.distinct)).1 (heq ▸ List.mem_map_of_mem hmem)

/-- A push that is told how its waiting has ended gives its ticket back. -/
theorem collect {ticket : Ticket} {result : PushResult} (h : l.Booked held (ticket :: tickets))
    (hended : l.ended[ticket.number]? = some result) :
    Booked { l with ended := l.ended.erase ticket.number } held tickets := by
  have herase {number : Nat} (hne : number ≠ ticket.number) :
      (l.ended.erase ticket.number)[number]? = l.ended[number]? := by
    simp [Std.ExtTreeMap.getElem?_erase, hne.symm]
  constructor
  case capacity => exact h.capacity
  case buffer => exact h.buffer
  case nodup => exact h.nodup
  case line =>
    intro n c hc number hmem
    obtain ⟨hticket, hnone⟩ := h.line n c hc number hmem
    -- whoever stands in line has not been told anything
    have hne : number ≠ ticket.number := by
      rintro rfl
      rw [hended] at hnone
      cases hnone
    refine ⟨(List.mem_cons.mp hticket).resolve_left fun heq => hne (heq ▸ rfl), ?_⟩
    show (l.ended.erase ticket.number)[number]? = none
    rw [herase hne, hnone]
  case ticket =>
    intro other hmem c hc
    show _ ∨ (l.ended.erase ticket.number)[other.number]? = some none
    rw [herase (h.number_ne_of_mem hmem)]
    exact h.ticket other (.tail _ hmem) c hc
  case distinct => exact (List.nodup_cons.mp (List.map_cons ▸ h.distinct)).2
  case handles => exact h.handles
  case held_lt => exact h.held_lt
  case ticket_lt => exact fun other hmem => h.ticket_lt other (.tail _ hmem)
  case ended_lt =>
    intro number hle
    show (l.ended.erase ticket.number)[number]? = none
    rw [Std.ExtTreeMap.getElem?_erase]
    split
    · rfl
    · exact h.ended_lt number hle

/-- Whoever stands in a line after a push was given up stood there before, with another number. -/
theorem mem_line_cancel {ticket : Ticket} {c' : LiveChannel} {number : Nat}
    (h : l.Booked held (ticket :: tickets)) (hc : l.channels[m]? = some c)
    (hline : c'.line = if ticket.connection = m then c.line.filter (· != ticket.number)
      else c.line) : number ∈ c'.line ↔ number ∈ c.line ∧ number ≠ ticket.number := by
  rw [hline]
  split
  · simp
  next hne =>
    refine (and_iff_left_of_imp fun hmem => ?_).symm
    -- the ticket is for another connection
    rintro rfl
    have hticket := (h.line m c hc _ hmem).1
    exact hne (congrArg Ticket.connection (h.eq_of_number List.mem_cons_self hticket rfl))

/-- A push that is given up while it waits leaves the line. -/
theorem cancel {ticket : Ticket} (h : l.Booked held (ticket :: tickets)) :
    (l.cancel ticket).Booked held tickets := by
  -- a number that is not the one given up was told the same
  have herase {number : Nat} (hne : number ≠ ticket.number) :
      (l.cancel ticket).ended[number]? = l.ended[number]? := by
    simp [LiveChannels.cancel, Std.ExtTreeMap.getElem?_erase, hne.symm]
  have hnext : (l.cancel ticket).nextPush = l.nextPush := nextPush_modify
  -- the line of any connection loses at most the number of the ticket
  have hsublist {m : Nat} {c c' : LiveChannel}
      (hline : c'.line = if ticket.connection = m then c.line.filter (· != ticket.number)
        else c.line) : c'.line.Sublist c.line := by
    rw [hline]
    split
    · exact List.filter_sublist
    · exact .refl _
  constructor
  case capacity => simpa using h.capacity
  case buffer =>
    intro m c' hc'
    obtain ⟨c, hc, hbuffer, -, hline⟩ := exists_of_cancel hc'
    rw [hbuffer, capacity_cancel]
    -- where there is still a line there was one before, so the buffer is full
    refine (h.buffer m c hc).imp id fun hfull hne => hfull fun hnil => hne ?_
    exact List.sublist_nil.mp (hnil ▸ hsublist hline)
  case nodup =>
    intro m c' hc'
    obtain ⟨c, hc, -, -, hline⟩ := exists_of_cancel hc'
    exact (hsublist hline).nodup (h.nodup m c hc)
  case line =>
    intro m c' hc' number hmem
    obtain ⟨c, hc, -, -, hline⟩ := exists_of_cancel hc'
    obtain ⟨hmem, hne⟩ := (h.mem_line_cancel hc hline).mp hmem
    obtain ⟨hticket, hended⟩ := h.line m c hc number hmem
    refine ⟨(List.mem_cons.mp hticket).resolve_left fun heq => hne (heq ▸ rfl), ?_⟩
    rw [herase hne, hended]
  case ticket =>
    intro other hmem c' hc'
    -- the other tickets have other numbers
    have hne := h.number_ne_of_mem hmem
    obtain ⟨c, hc, -, -, hline⟩ := exists_of_cancel hc'
    rw [herase hne, h.mem_line_cancel hc hline]
    exact (h.ticket other (.tail _ hmem) c hc).imp (⟨·, hne⟩) id
  case distinct => exact (List.nodup_cons.mp (List.map_cons ▸ h.distinct)).2
  case handles =>
    intro m c' hc'
    obtain ⟨c, hc, -, hhandles, -⟩ := exists_of_cancel hc'
    rw [hhandles]
    exact h.handles m c hc
  case held_lt => simpa using h.held_lt
  case ticket_lt =>
    intro other hmem
    rw [nextConnection_cancel, hnext]
    exact h.ticket_lt other (.tail _ hmem)
  case ended_lt =>
    intro number hle
    by_cases hne : number = ticket.number
    · simp [LiveChannels.cancel, hne]
    · rw [herase hne]
      exact h.ended_lt number (hnext ▸ hle)

end Booked

end LiveChannels

end ServiceBroker
