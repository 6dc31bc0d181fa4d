import ServiceBroker.Notification
import ServiceBroker.Proofs.Service

/-!
# Printed notifications and envelopes

A notification and its envelope open one container each around the payload. So an envelope leaves as
much room for the payload as the notification did, and consumers can read every payload that a
producer could push, but for floating-point numbers.

- `Notification.readsAs`, `Envelope.readsAs`: what is read of printed records;
- `Notification.canonical_of_read`: the payload of a notification that has been read;
- `Notification.readBytes_frame`: the frame of a notification that has been read is read as its
  envelope.
-/

namespace ServiceBroker

open Json (ReadsAs FillsAs)

variable {depth : Nat}

/-- A notification is read back but for its payload. -/
theorem Notification.readsAs (n : Notification) (hpayload : n.payload.Canonical) :
    ReadsAs Notification.record.read (depth + 1) n.toJson
      ((n.payload.reread depth).map fun payload => { n with payload }) := by
  have hfills : FillsAs Notification.record.fields depth true Notification.record.empty n.members
      (n.payload.reread depth >>= fun payload => .ok {
        name := some n.name, version := some n.version, payload := some payload }) :=
    .put rfl rfl (.string _ _) <| .put rfl rfl (.string _ _) <|
      .cons rfl rfl (Json.Value.readsAs hpayload) fun _ _ => .nil
  exact Json.Record.readsAs_of_finish hfills fun _ => rfl

/-- An envelope is read back but for its payload. -/
theorem Envelope.readsAs (e : Envelope) (hpayload : e.payload.Canonical) :
    ReadsAs Envelope.record.read (depth + 2) e.toJson
      ((e.payload.reread (depth + 1)).map fun payload => { e with payload }) := by
  have hfills : FillsAs Envelope.record.fields (depth + 1) true Envelope.record.empty
      (e.members ++ [("urn", e.urn.toJson)])
      (e.payload.reread (depth + 1) >>= fun payload => .ok {
        name := some e.name, version := some e.version, payload := some payload,
        urn := some e.urn }) :=
    .put rfl rfl (.string _ _) <| .put rfl rfl (.string _ _) <|
      .cons rfl rfl (Json.Value.readsAs hpayload) fun _ _ => .put rfl rfl e.urn.readsAs .nil
  exact Json.Record.readsAs_of_finish hfills fun _ => rfl

/-! ## Notifications that have been read -/

/-- The payload of a notification that has been read is canonical, whether it was there or not, and
nests fewer containers than could be opened. -/
theorem Notification.canonical_of_read {size : Nat} {bytes rest : Bytes} {n : Notification}
    (h : Notification.record.read (depth + 1) size bytes = .ok (n, rest)) :
    n.payload.Canonical ∧ n.payload.depth ≤ depth := by
  have hkeeps : ∀ field ∈ Notification.record.fields,
      field.Keeps (fun draft => ∀ v ∈ draft.payload, v.Canonical ∧ v.depth ≤ depth) depth := by
    unfold Notification.record Notification.fields
    simp only [List.forall_mem_cons]
    -- both other fields leave the payload as it is
    refine ⟨Json.Field.keeps_of fun _ _ _ _ _ h _ => h, Json.Field.keeps_of fun _ _ _ _ _ h _ => h,
      Json.Field.keeps_of fun _ _ _ _ _ _ hread v hv => ?_, List.forall_mem_nil _⟩
    cases hv
    exact Json.canonical_of_read hread
  obtain ⟨draft, hdraft, hfinish⟩ :=
    Json.Record.exists_draft_of_read (fun _ hv => by cases hv) hkeeps h
  obtain ⟨name, _, hfinish⟩ := Json.exists_of_bind_eq_ok hfinish
  obtain ⟨version, _, hfinish⟩ := Json.exists_of_bind_eq_ok hfinish
  cases hfinish
  dsimp only
  cases hpayload : draft.payload with
  | none => exact ⟨.null, Nat.zero_le _⟩
  | some v => exact hdraft v hpayload

/-- The frame of a notification that has been read is read as its envelope, if each floating-point
number in the payload is read as it is printed. -/
theorem Notification.readBytes_frame {bytes : Bytes} {n : Notification}
    (h : Json.readBytes Notification.record.read bytes = .ok n)
    (hreals : ∀ x ∈ n.payload.reals, Json.reread x = .ok x) (producer : Urn) :
    Json.readBytes Envelope.record.read (n.envelope producer).frame =
      .ok (n.envelope producer) := by
  obtain ⟨_, hread⟩ := Json.exists_read_of_readBytes h
  obtain ⟨hcanonical, hdepth⟩ := canonical_of_read hread
  have hprint := Json.readBytes_print ((n.envelope producer).readsAs hcanonical)
  -- the envelope leaves room for as many containers as the notification did
  have hkept : (n.envelope producer).payload.reread (Json.maxDepth - 1) = .ok n.payload :=
    Json.Value.reread_eq_ok_self_iff.mpr ⟨hdepth, hreals⟩
  exact hprint.trans (congrArg (Except.map _) hkept)

end ServiceBroker
