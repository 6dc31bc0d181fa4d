import ServiceBroker.Proofs.Json.Records
import ServiceBroker.Service

/-!
# Printed services

A URN and a descriptor that were printed are read back. A service is read back but for its metadata,
of which `Json.Value.reread` says what becomes of it.

- `Urn.readsAs`, `Descriptor.readsAs`, `Service.readsAs`: what is read of printed records;
- `Registration.canonical_of_read`: the metadata of a registration that has been read.
-/

namespace ServiceBroker

open Json (ReadsAs FillsAs)

variable {depth : Nat}

/-- A URN is read back. -/
theorem Urn.readsAs (urn : Urn) : ReadsAs Urn.record.read (depth + 1) urn.toJson (.ok urn) := by
  have hfills : FillsAs Urn.record.fields depth true Urn.record.empty
      [("namespace", .string urn.ns), ("id", .string urn.id)]
      (.ok { ns := some urn.ns, id := some urn.id }) :=
    .put rfl rfl (.string _ _) (.put rfl rfl (.string _ _) .nil)
  exact Json.Record.readsAs hfills

/-- So is a descriptor, its description included. -/
theorem Descriptor.readsAs (d : Descriptor) :
    ReadsAs Descriptor.record.read (depth + 1) d.toJson (.ok d) := by
  obtain ⟨name, version, description⟩ := d
  unfold Descriptor.toJson
  split
  next hempty =>
    -- an empty description is left out, and is what an absent one is taken for
    have hfills : FillsAs Descriptor.record.fields depth true Descriptor.record.empty
        [("name", .string name), ("version", .string version)]
        (.ok { name := some name, version := some version }) :=
      .put rfl rfl (.string _ _) (.put rfl rfl (.string _ _) .nil)
    dsimp only at hempty
    subst hempty
    exact Json.Record.readsAs hfills
  next =>
    have hfills : FillsAs Descriptor.record.fields depth true Descriptor.record.empty
        [("name", .string name), ("version", .string version),
          ("description", .string description)]
        (.ok { name := some name, version := some version, description := some description }) :=
      .put rfl rfl (.string _ _) (.put rfl rfl (.string _ _) (.put rfl rfl (.string _ _) .nil))
    exact Json.Record.readsAs hfills

/-- The draft that the members of a service leave, with what was read of the metadata. -/
def Service.draft (s : Service) (info : Option Json.Value) : Registration.Draft where
  urn := some s.urn
  description := some s.description
  endpointUri := some s.endpointUri
  status := some s.status
  notifications := some s.notifications
  info

/-- The members of a service fill the draft of it in their order. -/
theorem Service.fillsAs (s : Service) {more : List Json.Member}
    {result : Except Json.ReadError Registration.Draft}
    (h : FillsAs Service.record.fields (depth + 2) false (s.draft none) more result) :
    FillsAs Service.record.fields (depth + 2) true Service.record.empty
      (("urn", s.urn.toJson) :: s.members ++ more) result :=
  .put rfl rfl s.urn.readsAs <| .put rfl rfl (.string _ _) <| .put rfl rfl (.string _ _) <|
    .put rfl rfl (.string _ _) <| .put rfl rfl (.list_self fun d _ => d.readsAs) h

/-- A service is read back but for its metadata. -/
theorem Service.readsAs (s : Service) (hinfo : s.info.Canonical) :
    ReadsAs Service.record.read (depth + 3) s.toJson
      ((s.info.reread (depth + 2)).map fun info => { s with info }) := by
  unfold Service.toJson
  split
  next hnull =>
    -- absent metadata is left out, and is what is taken for it then
    have hfills : FillsAs Service.record.fields (depth + 2) true Service.record.empty
        (("urn", s.urn.toJson) :: s.members ++ []) (.ok (s.draft none)) := s.fillsAs .nil
    rw [hnull]
    exact Json.Record.readsAs hfills
  next =>
    have hfills : FillsAs Service.record.fields (depth + 2) true Service.record.empty
        (("urn", s.urn.toJson) :: s.members ++ [("info", s.info)])
        (s.info.reread (depth + 2) >>= fun info => .ok (s.draft (some info))) :=
      s.fillsAs (.cons rfl rfl (Json.Value.readsAs hinfo) fun _ _ => .nil)
    exact Json.Record.readsAs_of_finish hfills fun _ => rfl

/-! ## Registrations that have been read -/

/-- The metadata of a registration that has been read is canonical, and nests fewer containers than
could be opened. -/
theorem Registration.canonical_of_read {size : Nat} {bytes rest : Bytes} {r : Registration}
    (h : Registration.record.read (depth + 1) size bytes = .ok (r, rest)) :
    r.info.Canonical ∧ r.info.depth ≤ depth := by
  have hkeeps : ∀ field ∈ Registration.record.fields,
      field.Keeps (fun draft => ∀ v ∈ draft.info, v.Canonical ∧ v.depth ≤ depth) depth := by
    unfold Registration.record Registration.fields
    simp only [List.forall_mem_cons]
    -- all fields but the last leave the metadata as it is
    refine ⟨Json.Field.keeps_of fun _ _ _ _ _ h _ => h, Json.Field.keeps_of fun _ _ _ _ _ h _ => h,
      Json.Field.keeps_of fun _ _ _ _ _ h _ => h, Json.Field.keeps_of fun _ _ _ _ _ h _ => h,
      Json.Field.keeps_of fun _ _ _ _ _ _ hread v hv => ?_, List.forall_mem_nil _⟩
    cases hv
    exact Json.canonical_of_read hread
  obtain ⟨draft, hdraft, hfinish⟩ :=
    Json.Record.exists_draft_of_read (fun _ hv => by cases hv) hkeeps h
  cases hfinish
  unfold Registration.ofDraft
  cases hinfo : draft.info with
  | none => exact ⟨.null, Nat.zero_le _⟩
  | some v => exact hdraft v hinfo

/-- What is read of free-form data is canonical and not too deep. -/
theorem Registration.canonical_of_readBytes {bytes : Bytes} {r : Registration}
    (h : Json.readBytes Registration.record.read bytes = .ok r) :
    r.info.Canonical ∧ r.info.depth < Json.maxDepth := by
  obtain ⟨_, hread⟩ := Json.exists_read_of_readBytes h
  obtain ⟨hcanonical, hdepth⟩ := canonical_of_read hread
  exact ⟨hcanonical, Nat.lt_succ_of_le hdepth⟩

end ServiceBroker
