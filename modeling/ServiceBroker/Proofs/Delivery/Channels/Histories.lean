import ServiceBroker.Proofs.Delivery.Channels.Operations

/-!
# Histories of live channels

What a series of operations makes of live channels, whatever the operations are and however many.
Every consumer keeps a channel of its own, and what stands in a queue was there before or has been
pushed.

- `LiveChannels.Coherent`: consumers are connected through channels of their own;
- `LiveChannels.Trace`: a history of operations, told by what it opens and pushes;
- `LiveChannels.Reads`: a history of reads and drops only.
-/

namespace ServiceBroker

namespace LiveChannels

variable {l l' : LiveChannels} {consumer : Urn} {n m : Nat} {frame : Bytes}

/-! ## Coherence -/

/-- Consumers are connected through channels of their own, and no channel has a number that is
still to be given. -/
structure Coherent (l : LiveChannels) : Prop where
  owner : ∀ c n, l.current[c]? = some n → l.owner? n = some c
  fresh : ∀ n c, l.owner? n = some c → n < l.nextConnection

theorem coherent_ofCapacity (capacity : Nat) : (ofCapacity capacity).Coherent := by
  constructor
  · intro c n h
    simp [ofCapacity] at h
  · intro n c h
    simp [ofCapacity, owner?] at h

/-- Coherence is about owners and current connections alone. -/
theorem Coherent.congr (h : l.Coherent) (hcurrent : l'.current = l.current)
    (howner : ∀ n, l'.owner? n = l.owner? n) (hnext : l'.nextConnection = l.nextConnection) :
    l'.Coherent := by
  constructor
  · intro c n hc
    rw [howner]
    exact h.owner c n (hcurrent ▸ hc)
  · intro n c hc
    rw [hnext]
    exact h.fresh n c (howner n ▸ hc)

theorem owner?_connect (h : l.connect consumer = some (n, l')) (m : Nat) :
    l'.owner? m = if n = m then some consumer else l.owner? m := by
  rw [owner?, channels_connect h]
  split <;> rfl

theorem owner?_drop (l : LiveChannels) (n m : Nat) :
    (l.drop n).owner? m = if n = m then none else l.owner? m := by
  rw [owner?, channels_drop]
  split <;> rfl

/-- Who is connected once a connection is dropped is told by owners and current connections. -/
theorem current_drop (l : LiveChannels) (n : Nat) :
    (l.drop n).current = match l.owner? n with
      | some consumer =>
        if l.current[consumer]? = some n then l.current.erase consumer else l.current
      | none => l.current := by
  rw [drop, owner?]
  cases hc : l.channels[n]? with
  | none => rfl
  | some c => simp [isCurrent, hc]

/-- A connection whose number is still to be given is not there. -/
theorem Coherent.channels_eq_none (h : l.Coherent) (hle : l.nextConnection ≤ n) :
    l.channels[n]? = none := by
  cases hc : l.channels[n]? with
  | none => rfl
  | some c =>
    have hlt := h.fresh n c.consumer (owner?_eq_some.mpr ⟨c, hc, rfl⟩)
    omega

theorem Coherent.connect (h : l.Coherent) (hconnect : l.connect consumer = some (n, l')) :
    l'.Coherent := by
  obtain ⟨hn, hl'⟩ := connect_eq_some hconnect
  have hnext : l'.nextConnection = n + 1 := by rw [hl', hn]
  constructor
  · intro c m hc
    rw [current_connect hconnect] at hc
    rw [owner?_connect hconnect]
    split at hc
    next heq =>
      obtain rfl := Option.some.inj hc
      rw [if_pos rfl, heq]
    next =>
      -- no connection had the new number
      have hlt := h.fresh m c (h.owner c m hc)
      rw [if_neg (by omega)]
      exact h.owner c m hc
  · intro m c hc
    rw [owner?_connect hconnect] at hc
    rw [hnext]
    split at hc
    · omega
    · have hlt := h.fresh m c hc
      omega

/-- Who was connected through a connection that is dropped is so no more, and for the others nothing
changes. -/
theorem Coherent.current_drop (h : l.Coherent) (n : Nat) (consumer : Urn) :
    (l.drop n).current[consumer]? =
      if l.current[consumer]? = some n then none else l.current[consumer]? := by
  split
  next hcurrent =>
    refine Option.eq_none_iff_forall_ne_some.mpr fun m hm => ?_
    have heq : some m = some n := (current_of_current_drop hm).symm.trans hcurrent
    exact current_drop_ne h.owner (heq ▸ hm)
  next hcurrent =>
    unfold LiveChannels.drop
    split
    · rfl
    next c hc =>
      show (if l.isCurrent n then l.current.erase c.consumer else l.current)[consumer]? = _
      split
      next hisCurrent =>
        -- only the owner is disconnected
        rw [Std.ExtTreeMap.getElem?_erase, if_neg]
        intro heq
        obtain rfl := Std.LawfulEqCmp.compare_eq_iff_eq.mp heq
        simp only [isCurrent, hc, beq_iff_eq] at hisCurrent
        exact hcurrent hisCurrent
      next => rfl

theorem Coherent.drop (h : l.Coherent) (n : Nat) : (l.drop n).Coherent := by
  constructor
  · intro c m hc
    have hne : n ≠ m := by
      rintro rfl
      exact current_drop_ne h.owner hc
    rw [owner?_drop, if_neg hne]
    exact h.owner c m (current_of_current_drop hc)
  · intro m c hc
    rw [owner?_drop] at hc
    rw [nextConnection_drop]
    split at hc
    · cases hc
    · exact h.fresh m c hc

/-! ## Histories -/

/-- What may become of live channels by a series of operations, told by the consumers for which a
channel was opened and by the frames that were pushed, each with its connection. -/
inductive Trace (l : LiveChannels) : List Urn → List (Nat × Bytes) → LiveChannels → Prop
  | start : Trace l [] [] l
  | connect {opened : List Urn} {pushed : List (Nat × Bytes)} {l' l'' : LiveChannels} {n : Nat}
      {consumer : Urn} : Trace l opened pushed l' → l'.connect consumer = some (n, l'') →
      Trace l (opened ++ [consumer]) pushed l''
  | pushTo {opened : List Urn} {pushed : List (Nat × Bytes)} {l' : LiveChannels} (n : Nat)
      (frame : Bytes) : Trace l opened pushed l' →
      Trace l opened (pushed ++ [(n, frame)]) (l'.pushTo n frame).2
  | drop {opened : List Urn} {pushed : List (Nat × Bytes)} {l' : LiveChannels} (n : Nat) :
      Trace l opened pushed l' → Trace l opened pushed (l'.drop n)
  | collect {opened : List Urn} {pushed : List (Nat × Bytes)} {l' : LiveChannels}
      (ticket : Ticket) : Trace l opened pushed l' → Trace l opened pushed (l'.collect ticket).2
  | cancel {opened : List Urn} {pushed : List (Nat × Bytes)} {l' : LiveChannels}
      (ticket : Ticket) : Trace l opened pushed l' → Trace l opened pushed (l'.cancel ticket)
  | receive {opened : List Urn} {pushed : List (Nat × Bytes)} {l' : LiveChannels} (n : Nat) :
      Trace l opened pushed l' → Trace l opened pushed (l'.receive n).2

namespace Trace

variable {opened opened' : List Urn} {pushed pushed' : List (Nat × Bytes)} {l'' : LiveChannels}

theorem trans (h : Trace l opened pushed l') (h' : Trace l' opened' pushed' l'') :
    Trace l (opened ++ opened') (pushed ++ pushed') l'' := by
  induction h' with
  | start => simpa using h
  | connect _ hconnect ih => simpa using ih.connect hconnect
  | pushTo n frame _ ih => simpa using ih.pushTo n frame
  | drop n _ ih => exact ih.drop n
  | collect ticket _ ih => exact ih.collect ticket
  | cancel ticket _ ih => exact ih.cancel ticket
  | receive n _ ih => exact ih.receive n

/-- Every channel was there before or is one of those opened. -/
theorem owner? (h : Trace l opened pushed l') {c : Urn} (hc : l'.owner? n = some c) :
    l.owner? n = some c ∨ c ∈ opened := by
  induction h with
  | start => exact .inl hc
  | @connect opened _ l' l'' m consumer _ hconnect ih =>
    obtain ⟨channel, hchannel, hconsumer⟩ := owner?_eq_some.mp hc
    -- the channel is the new one, which is opened for its consumer, or was there before
    rw [channels_connect hconnect] at hchannel
    split at hchannel
    · cases hchannel
      exact .inr (by simp [← hconsumer])
    · have hbefore : l'.owner? n = some c := owner?_eq_some.mpr ⟨channel, hchannel, hconsumer⟩
      exact (ih hbefore).imp id fun hmem => List.mem_append_left _ hmem
  | pushTo m frame _ ih => exact ih (by simpa using hc)
  | @drop _ _ l' m _ ih =>
    obtain ⟨channel, hchannel, hconsumer⟩ := owner?_eq_some.mp hc
    rw [channels_drop] at hchannel
    split at hchannel
    · cases hchannel
    · exact ih (owner?_eq_some.mpr ⟨channel, hchannel, hconsumer⟩)
  | collect ticket _ ih =>
    rw [collect_eq] at hc
    exact ih hc
  | cancel ticket _ ih => exact ih (by simpa using hc)
  | receive m _ ih => exact ih (by simpa using hc)

/-- Every frame in a queue was there before or is one of those pushed. -/
theorem mem_queue (h : Trace l opened pushed l') (hframe : frame ∈ l'.queue n) :
    frame ∈ l.queue n ∨ (n, frame) ∈ pushed := by
  induction h with
  | start => exact .inl hframe
  | @connect opened _ l' l'' m consumer _ hconnect ih =>
    rw [queue, channels_connect hconnect] at hframe
    split at hframe
    · simp [LiveChannel.frames] at hframe
    · exact ih hframe
  | @pushTo _ _ l' m new _ ih =>
    rw [queue_pushTo] at hframe
    split at hframe
    next hto =>
      rcases List.mem_append.mp hframe with hold | hnew
      · exact (ih hold).imp id fun hmem => List.mem_append_left _ hmem
      · obtain rfl := List.mem_singleton.mp hnew
        exact .inr (by simp [hto.1])
    next => exact (ih hframe).imp id fun hmem => List.mem_append_left _ hmem
  | @drop _ _ l' m _ ih =>
    rw [queue, channels_drop] at hframe
    split at hframe
    · cases hframe
    · exact ih hframe
  | collect ticket _ ih =>
    rw [collect_eq] at hframe
    exact ih hframe
  -- what is withdrawn was in the line, so a queue only gets shorter
  | cancel ticket _ ih => exact ih ((queue_cancel_sublist ..).mem hframe)
  | @receive _ _ l' m _ ih =>
    by_cases hfound : ∃ first, (l'.receive m).1 = .message first
    · obtain ⟨first, hfirst⟩ := hfound
      -- the frame that is read is the first of its queue
      by_cases heq : m = n
      · subst heq
        exact ih (queue_of_receive hfirst ▸ List.mem_cons_of_mem _ hframe)
      · exact ih (queue_receive_of_ne heq ▸ hframe)
    · exact ih (receive_eq_self (not_exists.mp hfound) ▸ hframe)

end Trace

/-- What may become of live channels when they are only read and dropped. -/
inductive Reads (l : LiveChannels) : LiveChannels → Prop
  | start : Reads l l
  | receive {l' : LiveChannels} (n : Nat) : Reads l l' → Reads l (l'.receive n).2
  | drop {l' : LiveChannels} (n : Nat) : Reads l l' → Reads l (l'.drop n)

theorem Reads.trans {l'' : LiveChannels} (h : Reads l l') (h' : Reads l' l'') : Reads l l'' := by
  induction h' with
  | start => exact h
  | receive n _ ih => exact ih.receive n
  | drop n _ ih => exact ih.drop n

/-- Then nothing is opened or pushed. -/
theorem Reads.trace (h : Reads l l') : Trace l [] [] l' := by
  induction h with
  | start => exact .start
  | receive n _ ih => exact ih.receive n
  | drop n _ ih => exact ih.drop n

end LiveChannels

end ServiceBroker
