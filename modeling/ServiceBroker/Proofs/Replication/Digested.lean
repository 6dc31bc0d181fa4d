import ServiceBroker.Proofs.Replication.LoopSteps
import ServiceBroker.Proofs.Replication.Run
import ServiceBroker.Proofs.Replication.Synchronizer

/-!
# Digesting a log

What a replica has made of a log, up to the message that it waits for. If it lagged behind, the
messages that it lost were not among the last ones kept.

- `Digested`: what a replica has made of a log;
- `Digested.receive`: it digests the message that it receives next;
- `Digested.eq_applyAll`, `Digested.lookup_eq`: what it holds once it has read everything;
- `ConsumeLoop.step_listening`: what a loop may do that reads an open subscription.
-/

namespace ServiceBroker

/-! ## Digesting a log -/

/-- The registry is made of the messages of a log before message `k`: of all of them or, if the
replica lagged behind, of those from some message on, which itself is not among the last `keeps`. -/
def Digested (keeps : Nat) (log : List BusMessage) (lagged : Prop) (k : Nat) (r : Registry) :
    Prop :=
  ∃ j r₀, (j = 0 ∧ r₀ = .empty ∨ lagged ∧ j + keeps ≤ log.length) ∧ j ≤ k ∧
    r = Registry.applyAll r₀ (RegistryEvent.decodeAll ((log.take k).drop j))

namespace Digested

variable {keeps k : Nat} {log : List BusMessage} {lagged : Prop} {r : Registry}

theorem nil (keeps : Nat) (lagged : Prop) : Digested keeps [] lagged 0 .empty :=
  ⟨0, .empty, .inl ⟨rfl, rfl⟩, Nat.le_refl 0, rfl⟩

theorem mono (h : Digested keeps log lagged k r) {lagged' : Prop} (himp : lagged → lagged') :
    Digested keeps log lagged' k r := by
  obtain ⟨j, r₀, hj, hjk, hr⟩ := h
  exact ⟨j, r₀, hj.imp_right fun ⟨hlag, hle⟩ => ⟨himp hlag, hle⟩, hjk, hr⟩

/-- What is sent later does not matter. -/
theorem append (h : Digested keeps log lagged k r) (hk : k ≤ log.length) (new : List BusMessage) :
    Digested keeps (log ++ new) lagged k r := by
  obtain ⟨j, r₀, hj, hjk, hr⟩ := h
  have hlength : log.length ≤ (log ++ new).length := by
    rw [List.length_append]
    exact Nat.le_add_right ..
  refine ⟨j, r₀, hj.imp_right fun ⟨hlag, hle⟩ => ⟨hlag, Nat.le_trans hle hlength⟩, hjk, ?_⟩
  rw [hr, List.take_append_of_le_length hk]

/-- The next message is digested. -/
theorem next (h : Digested keeps log lagged k r) {m : BusMessage} (hm : log[k]? = some m) :
    Digested keeps log lagged (k + 1) (r.applyAll (RegistryEvent.decodeAll [m])) := by
  obtain ⟨j, r₀, hj, hjk, rfl⟩ := h
  obtain ⟨hk, rfl⟩ := List.getElem?_eq_some_iff.mp hm
  refine ⟨j, r₀, hj, Nat.le_succ_of_le hjk, ?_⟩
  rw [List.take_succ_eq_append_getElem hk, List.drop_append_of_le_length (by simp; omega),
    RegistryEvent.decodeAll_append, Registry.applyAll_append]

/-- A message is digested after some that were lost. -/
theorem skip (hlag : lagged) {m : BusMessage} (hm : log[k]? = some m)
    (hk : k + keeps ≤ log.length) (r : Registry) :
    Digested keeps log lagged (k + 1) (r.applyAll (RegistryEvent.decodeAll [m])) := by
  obtain ⟨hlt, rfl⟩ := List.getElem?_eq_some_iff.mp hm
  refine ⟨k, r, .inr ⟨hlag, hk⟩, Nat.le_succ k, ?_⟩
  rw [List.take_succ_eq_append_getElem hlt, List.drop_left' (by simp; omega)]

/-- What a replica that finds a message makes of it. -/
theorem receive (h : Digested keeps log lagged k r) {m : BusMessage}
    (hm : log[Broadcast.nextIndex keeps log.length k]? = some m)
    (hlag : keeps < log.length - k → lagged) :
    Digested keeps log lagged (Broadcast.nextIndex keeps log.length k + 1)
      (r.applyAll (RegistryEvent.decodeAll [m])) := by
  -- either the message that the replica waits for is still kept, or the oldest one kept is next
  by_cases hkept : log.length - k ≤ keeps
  · have hnext : Broadcast.nextIndex keeps log.length k = k := Nat.max_eq_left (by omega)
    rw [hnext] at hm ⊢
    exact h.next hm
  · have hnext : Broadcast.nextIndex keeps log.length k = log.length - keeps :=
      Nat.max_eq_right (by omega)
    rw [hnext] at hm ⊢
    exact skip (hlag (Nat.lt_of_not_le hkept)) hm (by omega) r

/-- A replica that never lagged behind has made everything of the whole log. -/
theorem eq_applyAll (h : Digested keeps log lagged log.length r) (hlag : ¬lagged) :
    r = Registry.empty.applyAll (RegistryEvent.decodeAll log) := by
  obtain ⟨j, r₀, ⟨rfl, rfl⟩ | ⟨hlagged, _⟩, _, hr⟩ := h
  · rw [hr, List.take_length, List.drop_zero]
  · exact absurd hlagged hlag

/-- A replica agrees with the whole log about a URN with an event among the last messages. -/
theorem lookup_eq (h : Digested keeps log lagged log.length r) {urn : Urn}
    (hurn : ∃ e ∈ RegistryEvent.decodeAll (log.drop (log.length - keeps)), e.urn = urn) :
    r.lookup urn = (Registry.empty.applyAll (RegistryEvent.decodeAll log)).lookup urn := by
  obtain ⟨j, r₀, hj, hjk, rfl⟩ := h
  rw [List.take_length]
  obtain ⟨rfl, rfl⟩ | ⟨_, hkeeps⟩ := hj
  · rw [List.drop_zero]
  · -- the events from message `j` on are among those of the last messages
    have hlast : ∃ e ∈ RegistryEvent.decodeAll (log.drop j), e.urn = urn := by
      obtain ⟨e, he, hurn⟩ := hurn
      have hsub := List.drop_sublist_drop_left log (Nat.le_sub_of_add_le hkeeps)
      exact ⟨e, (hsub.filterMap _).mem he, hurn⟩
    calc (r₀.applyAll (RegistryEvent.decodeAll (log.drop j))).lookup urn
        = ((Registry.empty.applyAll (RegistryEvent.decodeAll (log.take j))).applyAll
            (RegistryEvent.decodeAll (log.drop j))).lookup urn :=
          Registry.lookup_applyAll_congr _ _ _ hlast
      _ = (Registry.empty.applyAll (RegistryEvent.decodeAll log)).lookup urn := by
          rw [← Registry.applyAll_append, ← RegistryEvent.decodeAll_append,
            List.take_append_drop]

end Digested

/-! ## One step of a loop -/

/-- What a loop that reads an open subscription may do: it stops, it sees the signal, or it applies
the message that it finds. -/
theorem ConsumeLoop.step_listening {bus : InMemoryBus} {l l' : ConsumeLoop} {s : BusSubscription}
    {log : List BusMessage} {k now : Nat} {signal : Signal} {sync : Synchronizer}
    {metrics : Metrics} {c : Context} (hs : l.state = .listening s) (hreads : bus.Reads s log k)
    (h : l.step now signal ⟨sync, .memory bus, metrics⟩ = some (l', c)) :
    (l' = { l with state := .stopped } ∧ c = ⟨sync, .memory (bus.unsubscribe s), metrics⟩) ∨
    (∃ version, l' = { l with seen := version } ∧ c = ⟨sync, .memory bus, metrics⟩) ∨
    (∃ m, log[Broadcast.nextIndex bus.keeps log.length k]? = some m ∧ l' = l ∧
      (bus.receive s).2.Reads s log (Broadcast.nextIndex bus.keeps log.length k + 1) ∧
      c.sync = (sync.handle m metrics).1 ∧ c.transport = .memory (bus.receive s).2) := by
  -- the loop stops in two places
  have hstop : l.stop ⟨sync, .memory bus, metrics⟩ =
      ({ l with state := .stopped }, ⟨sync, .memory (bus.unsubscribe s), metrics⟩) := by
    simp only [stop, hs, Transport.unsubscribe]
  simp only [step, hs, hstop] at h
  split at h
  · cases h
    exact .inl ⟨rfl, rfl⟩
  split at h
  · cases h
    exact .inr (.inl ⟨_, by rw [hs], rfl⟩)
  split at h
  · cases h
    exact .inl ⟨rfl, rfl⟩
  -- the signal is quiet, and the loop looks for a message
  have hreceive := hreads.receive_eq
  simp only [Transport.receive] at h
  cases hm : log[Broadcast.nextIndex bus.keeps log.length k]? with
  | none =>
    rw [hm] at hreceive
    simp only [hreceive] at h
    cases h
  | some m =>
    rw [hm] at hreceive
    simp only [hreceive.1] at h
    cases h
    exact .inr (.inr ⟨m, rfl, rfl, hreceive.2, rfl, rfl⟩)

end ServiceBroker
