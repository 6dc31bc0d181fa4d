import ServiceBroker.Proofs.Delivery.PushSteps

/-!
# Lines of pushes that wait

Every channel has a line of the numbers of those pushes that wait for a slot. Each operation is told
here by what it makes of buffers, lines and handles, and by whom it tells how their waiting has
ended.

- `LiveChannel.line`: the numbers of the pushes that wait, the first to come first;
- `LiveChannels.ended_drop`, `LiveChannels.ended_receive`: who is told by a drop or a read;
- `LiveChannels.exists_of_pushTo_of_hasRoom` and the like: a channel afterwards, told from what it
  was before.
-/

namespace ServiceBroker

/-! ## Lines -/

namespace LiveChannel

/-- The numbers of the pushes that wait for a slot, the first to come first. -/
def line (c : LiveChannel) : List Nat := c.waiting.map (·.1)

variable {c : LiveChannel} {capacity number : Nat} {frame : Bytes}

@[simp]
theorem line_eq_nil : c.line = [] ↔ c.waiting = [] := List.map_eq_nil_iff

theorem line_offer_of_hasRoom (h : c.HasRoom capacity) :
    (c.offer capacity number frame).line = c.line := by
  rw [offer, if_pos h]
  rfl

theorem line_offer_of_not_hasRoom (h : ¬c.HasRoom capacity) :
    (c.offer capacity number frame).line = c.line ++ [number] := by
  rw [offer, if_neg h]
  simp [line]

theorem line_withdraw : (c.withdraw number).line = c.line.filter (· != number) := by
  rw [line, withdraw, line, List.filter_map]
  rfl

/-- The first in line gets the slot of the frame that is read. -/
theorem line_shift (h : c.buffer ≠ []) : c.shift.line = c.line.tail := by
  obtain ⟨frame, buffer, hbuffer⟩ := List.exists_cons_of_ne_nil h
  simp only [shift, hbuffer, line, List.map_tail]

/-- A buffer stays as full as it was while there is a line, and has a slot more when there is
none. -/
theorem length_buffer_shift (h : c.buffer ≠ []) :
    c.shift.buffer.length = if c.line = [] then c.buffer.length - 1 else c.buffer.length := by
  obtain ⟨frame, buffer, hbuffer⟩ := List.exists_cons_of_ne_nil h
  cases hwaiting : c.waiting <;> simp [shift, line, hbuffer, hwaiting]

/-- A push that has to wait leaves the buffer alone. -/
private theorem buffer_offer_of_not_hasRoom (h : ¬c.HasRoom capacity) :
    (c.offer capacity number frame).buffer = c.buffer := by
  rw [offer, if_neg h]

end LiveChannel

namespace LiveChannels

variable {l l' : LiveChannels} {n m : Nat} {c : LiveChannel} {frame : Bytes}

/-- How pushes that waited have ended once a connection is dropped: those in its line have failed,
for the others nothing changes. -/
theorem ended_drop (hc : l.channels[n]? = some c) {number : Nat} (h : number ∉ c.line) :
    (l.drop n).ended[number]? = l.ended[number]? := by
  rw [LiveChannels.drop, hc]
  refine Std.ExtTreeMap.getElem?_insertMany_list_of_contains_eq_false ?_
  rw [List.map_map, Bool.eq_false_iff]
  exact fun hmem => h (List.contains_iff_mem.mp hmem)

/-- Who is first in line is let in by a read; nobody else is told anything. -/
theorem ended_receive (hc : l.channels[n]? = some c) (hbuffer : c.buffer ≠ []) (number : Nat) :
    (l.receive n).2.ended[number]? =
      if c.line.head? = some number then some none else l.ended[number]? := by
  obtain ⟨frame, buffer, hbuffer⟩ := List.exists_cons_of_ne_nil hbuffer
  rw [receive_of_buffer hc hbuffer]
  cases hwaiting : c.waiting with
  | nil => simp [LiveChannel.line, hwaiting]
  | cons first waiting =>
    simp [LiveChannel.line, hwaiting, Std.ExtTreeMap.getElem?_insert]

/-- The same, whether or not there is anything to read. -/
theorem ended_receive_of_some (hc : l.channels[n]? = some c) (number : Nat) :
    (l.receive n).2.ended[number]? =
      if c.buffer ≠ [] ∧ c.line.head? = some number then some none else l.ended[number]? := by
  by_cases hbuffer : c.buffer = []
  · have hnot : ¬(c.buffer ≠ [] ∧ c.line.head? = some number) := fun h => h.1 hbuffer
    rw [receive_of_empty hc hbuffer, if_neg hnot]
  · rw [ended_receive hc hbuffer]
    simp only [ne_eq, hbuffer, not_false_eq_true, true_and]

/-! ### Channels afterwards

What an operation makes of the channels, told from a channel afterwards. -/

section Afterwards

variable {c' : LiveChannel}

/-- Where one channel was changed, any channel is one of those before, changed or not. -/
theorem exists_of_changed {f : LiveChannel → LiveChannel}
    (h : (if n = m then (l.channels[m]?).map f else l.channels[m]?) = some c') :
    ∃ c, l.channels[m]? = some c ∧ c' = if n = m then f c else c := by
  split at h
  next heq =>
    obtain ⟨c, hc, rfl⟩ := Option.map_eq_some_iff.mp h
    exact ⟨c, hc, (if_pos heq).symm⟩
  next hne => exact ⟨c', h, (if_neg hne).symm⟩

theorem exists_of_modify_handles {f : Nat → Nat}
    (h : (l.modify n fun c => { c with handles := f c.handles }).channels[m]? = some c') :
    ∃ c, l.channels[m]? = some c ∧ c'.buffer = c.buffer ∧ c'.line = c.line ∧
      c'.handles = if n = m then f c.handles else c.handles := by
  rw [channels_modify] at h
  obtain ⟨c, hc, rfl⟩ := exists_of_changed h
  refine ⟨c, hc, ?_⟩
  split
  · exact ⟨rfl, rfl, rfl⟩
  · exact ⟨rfl, rfl, rfl⟩

/-- A buffer gets longer only where there is no line. -/
theorem exists_of_pushTo_of_hasRoom
    (hroom : ∀ c, l.channels[n]? = some c → c.HasRoom l.capacity)
    (h : (l.pushTo n frame).2.channels[m]? = some c') :
    ∃ c, l.channels[m]? = some c ∧ c'.line = c.line ∧ c'.handles = c.handles ∧
      (c.line = [] ∧ c'.buffer.length ≤ l.capacity ∨ c'.buffer = c.buffer) := by
  rw [channels_pushTo] at h
  obtain ⟨c, hc, rfl⟩ := exists_of_changed h
  refine ⟨c, hc, ?_⟩
  split
  next heq =>
    have hroom := hroom c (heq ▸ hc)
    refine ⟨LiveChannel.line_offer_of_hasRoom hroom, LiveChannel.handles_offer ..,
      .inl ⟨LiveChannel.line_eq_nil.mpr hroom.1, ?_⟩⟩
    rw [LiveChannel.offer, if_pos hroom, List.length_append, List.length_singleton]
    exact hroom.2
  next => exact ⟨rfl, rfl, .inr rfl⟩

/-- One line gets longer by the number of the push. -/
theorem exists_of_pushTo_of_not_hasRoom (hc : l.channels[n]? = some c)
    (hroom : ¬c.HasRoom l.capacity) (h : (l.pushTo n frame).2.channels[m]? = some c') :
    ∃ c₀, l.channels[m]? = some c₀ ∧ c'.buffer = c₀.buffer ∧ c'.handles = c₀.handles ∧
      (n = m ∧ c'.line = c₀.line ++ [l.nextPush] ∨ n ≠ m ∧ c'.line = c₀.line) := by
  rw [channels_pushTo] at h
  obtain ⟨c₀, hc₀, rfl⟩ := exists_of_changed h
  refine ⟨c₀, hc₀, ?_⟩
  split
  next heq =>
    obtain rfl : c = c₀ := Option.some.inj (hc.symm.trans (heq ▸ hc₀))
    exact ⟨LiveChannel.buffer_offer_of_not_hasRoom hroom, LiveChannel.handles_offer ..,
      .inl ⟨heq, LiveChannel.line_offer_of_not_hasRoom hroom⟩⟩
  next hne => exact ⟨rfl, rfl, .inr ⟨hne, rfl⟩⟩

/-- One line loses the number of the ticket. -/
theorem exists_of_cancel {ticket : Ticket} (h : (l.cancel ticket).channels[m]? = some c') :
    ∃ c, l.channels[m]? = some c ∧ c'.buffer = c.buffer ∧ c'.handles = c.handles ∧
      c'.line = if ticket.connection = m then c.line.filter (· != ticket.number) else c.line := by
  rw [channels_cancel] at h
  obtain ⟨c, hc, rfl⟩ := exists_of_changed h
  refine ⟨c, hc, ?_⟩
  split
  · exact ⟨rfl, rfl, LiveChannel.line_withdraw⟩
  · exact ⟨rfl, rfl, rfl⟩

theorem eq_some_of_connect {consumer : Urn} (hconnect : l.connect consumer = some (n, l'))
    (h : l'.channels[m]? = some c') :
    n = m ∧ c' = { consumer } ∨ l.channels[m]? = some c' := by
  rw [channels_connect hconnect] at h
  split at h
  next heq => exact .inl ⟨heq, (Option.some.inj h).symm⟩
  next => exact .inr h

theorem eq_some_of_drop (h : (l.drop n).channels[m]? = some c') :
    n ≠ m ∧ l.channels[m]? = some c' := by
  rw [channels_drop] at h
  split at h
  · cases h
  next hne => exact ⟨hne, h⟩

theorem eq_some_of_receive (hc : l.channels[n]? = some c)
    (h : (l.receive n).2.channels[m]? = some c') :
    n = m ∧ c' = c.shift ∨ n ≠ m ∧ l.channels[m]? = some c' := by
  rw [channels_receive] at h
  obtain ⟨c₀, hc₀, rfl⟩ := exists_of_changed h
  split
  next heq =>
    obtain rfl : c = c₀ := Option.some.inj (hc.symm.trans (heq ▸ hc₀))
    exact .inl ⟨heq, rfl⟩
  next hne => exact .inr ⟨hne, hc₀⟩

end Afterwards

end LiveChannels

end ServiceBroker
