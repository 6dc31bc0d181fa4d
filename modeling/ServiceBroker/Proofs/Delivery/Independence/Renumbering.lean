import Mathlib.Logic.Equiv.Basic
import ServiceBroker.Proofs.Delivery.Calls
import ServiceBroker.Proofs.Delivery.Waiting.Traffic

/-!
# Other numbers for those who wait

The numbers under which pushes wait are given to all consumers in turn, so that those of one depend
on the others. What happens to a channel does not depend on the numbers: it commutes with giving
other numbers to those who wait.

- `LiveChannel.renumber`, `Push.Stage.renumber`: the same with other numbers;
- `LiveChannel.offer_renumber`, `LiveChannel.withdraw_renumber`, `LiveChannel.shift_renumber`: what
  happens to a channel;
- `LiveChannels.channels_sent_renumber`, `LiveChannels.channels_cancel_renumber`: what happens to
  it among others.
-/

namespace ServiceBroker

/-! ## Numbers of pushes that wait -/

namespace LiveChannel

/-- The channel with other numbers for those who wait. -/
def renumber (ρ : Equiv.Perm Nat) (c : LiveChannel) : LiveChannel :=
  { c with waiting := c.waiting.map fun w => (ρ w.1, w.2) }

variable (ρ : Equiv.Perm Nat) (c : LiveChannel)

theorem line_renumber : (c.renumber ρ).line = c.line.map ρ := by
  simp only [line, renumber, List.map_map]
  rfl

/-- Whether there is room does not depend on the numbers. -/
theorem hasRoom_renumber (capacity : Nat) :
    (c.renumber ρ).HasRoom capacity ↔ c.HasRoom capacity := by
  simp only [HasRoom, renumber, List.map_eq_nil_iff]

theorem offer_renumber_of_hasRoom {capacity : Nat} (h : c.HasRoom capacity) (number number' : Nat)
    (frame : Bytes) : (c.renumber ρ).offer capacity number' frame =
      (c.offer capacity number frame).renumber ρ := by
  rw [offer, if_pos ((hasRoom_renumber ρ c capacity).mpr h), offer, if_pos h]
  rfl

/-- A frame that is pushed waits under the number that it has in each of the two. -/
theorem offer_renumber (capacity number : Nat) (frame : Bytes) :
    (c.renumber ρ).offer capacity (ρ number) frame =
      (c.offer capacity number frame).renumber ρ := by
  by_cases hroom : c.HasRoom capacity
  · exact offer_renumber_of_hasRoom ρ c hroom number (ρ number) frame
  · -- whoever finds no room goes to the end of the line, under the new number
    rw [offer, if_neg (mt (hasRoom_renumber ρ c capacity).mp hroom), offer, if_neg hroom]
    simp [renumber]

/-- A frame that is withdrawn is so under the number that it has in each. -/
theorem withdraw_renumber (number : Nat) :
    (c.renumber ρ).withdraw (ρ number) = (c.withdraw number).renumber ρ := by
  simp only [withdraw, renumber, List.filter_map]
  congr 2
  refine List.filter_congr fun w _ => ?_
  show (ρ w.1 != ρ number) = (w.1 != number)
  rw [Bool.eq_iff_iff, bne_iff_ne, bne_iff_ne, ne_eq, ρ.apply_eq_iff_eq]

/-- Who is first in line does not depend on the numbers. -/
theorem shift_renumber : (c.renumber ρ).shift = c.shift.renumber ρ := by
  unfold shift
  cases hbuffer : c.buffer with
  | nil => simp only [renumber, hbuffer]
  | cons frame buffer =>
    simp only [renumber, hbuffer, List.map_tail, ← List.map_take, List.map_map]
    rfl

variable {ρ c}

/-- Only the numbers of those who wait matter. -/
theorem renumber_congr {σ : Equiv.Perm Nat} (h : ∀ number ∈ c.line, ρ number = σ number) :
    c.renumber ρ = c.renumber σ := by
  have hwaiting : (c.waiting.map fun w => (ρ w.1, w.2)) = c.waiting.map fun w => (σ w.1, w.2) :=
    List.map_congr_left fun w hw => by rw [h w.1 (List.mem_map_of_mem hw)]
  rw [renumber, hwaiting, renumber]

theorem renumber_refl : c.renumber (.refl Nat) = c := by
  simp [renumber]

end LiveChannel

namespace LiveChannels

variable {l l' : LiveChannels} {σ : Equiv.Perm Nat} {n m : Nat}

/-- What happens to a channel happens to its counterpart. -/
theorem channels_modify_renumber
    (h : l'.channels[m]? = (l.channels[m]?).map (·.renumber σ)) {f g : LiveChannel → LiveChannel}
    (hfg : ∀ c, l.channels[n]? = some c → g (c.renumber σ) = (f c).renumber σ) :
    (l'.modify n g).channels[m]? = ((l.modify n f).channels[m]?).map (·.renumber σ) := by
  rw [channels_modify, channels_modify, h]
  split
  next heq =>
    subst heq
    cases hc : l.channels[n]? with
    | none => rfl
    | some c => exact congrArg some (hfg c hc)
  next => rfl

/-- What is sent to a channel is sent to its counterpart. -/
theorem channels_sent_renumber
    (h : l'.channels[m]? = (l.channels[m]?).map (·.renumber σ)) {frame : Bytes}
    (hoffer : ∀ c, l.channels[n]? = some c → (c.renumber σ).offer l'.capacity l'.nextPush frame =
      (c.offer l.capacity l.nextPush frame).renumber σ) :
    ((l'.pushTo n frame).2.release n).channels[m]? =
      (((l.pushTo n frame).2.release n).channels[m]?).map (·.renumber σ) := by
  refine channels_modify_renumber ?_ fun _ _ => rfl
  rw [channels_pushTo, channels_pushTo, h]
  split
  next heq =>
    subst heq
    cases hc : l.channels[n]? with
    | none => rfl
    | some c => exact congrArg some (hoffer c hc)
  next => rfl

/-- A push is given up under the number that it has in each of the two. -/
theorem channels_cancel_renumber (h : l'.channels[m]? = (l.channels[m]?).map (·.renumber σ))
    (n number : Nat) : (l'.cancel ⟨n, σ number⟩).channels[m]? =
      ((l.cancel ⟨n, number⟩).channels[m]?).map (·.renumber σ) := by
  rw [channels_cancel, channels_cancel, h]
  split
  · cases l.channels[m]? with
    | none => rfl
    | some c => exact congrArg some (c.withdraw_renumber σ number)
  · rfl

end LiveChannels

namespace Push.Stage

/-- The stage with another number for the ticket. -/
def renumber (ρ : Equiv.Perm Nat) : Stage → Stage
  | .waits ticket deadline => .waits ⟨ticket.connection, ρ ticket.number⟩ deadline
  | stage => stage

variable {ρ : Equiv.Perm Nat} {stage : Stage}

/-- The connection on which a push waits stays the same. -/
theorem ticket?_renumber {ticket : Ticket} (h : stage.ticket? = some ticket) :
    (stage.renumber ρ).ticket? = some ⟨ticket.connection, ρ ticket.number⟩ := by
  cases stage <;> cases h
  rfl

theorem renumber_congr {σ : Equiv.Perm Nat}
    (h : ∀ ticket, stage.ticket? = some ticket → ρ ticket.number = σ ticket.number) :
    stage.renumber ρ = stage.renumber σ := by
  cases stage with
  | waits ticket deadline => rw [renumber, h ticket rfl, renumber]
  | _ => rfl

theorem renumber_refl : stage.renumber (.refl Nat) = stage := by
  cases stage <;> rfl

/-- Which actions do something does not depend on the numbers. -/
theorem takes_renumber {action : Action} :
    (stage.renumber ρ).Takes action ↔ stage.Takes action := by
  cases stage <;> cases action <;> exact Iff.rfl

/-- Nor does the result of a push. -/
theorem result?_renumber : (stage.renumber ρ).result? = stage.result? := by
  cases stage <;> rfl

end Push.Stage

end ServiceBroker
