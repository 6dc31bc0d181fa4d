import ServiceBroker.Proofs.Service
import ServiceBroker.RegistryEvent

/-!
# Events on the bus

An event is read back from its payload but for the metadata of its service. The metadata stands
inside of two containers, so that it may nest two containers fewer than can be opened.

- `RegistryEvent.decode_encode`: what is read of the payload of an event;
- `RegistryEvent.decode_encode_eq_self_iff`: an event is read back as it was if and only if the
  metadata of its service is `Json.Value.Portable`;
- `RegistryEvent.decode_encode_of_whole`: without floating-point numbers, the number of containers
  decides, and alone.
-/

namespace ServiceBroker

open Json (ReadsAs FillsAs)

variable {depth : Nat}

theorem Action.readsAs (a : Action) : ReadsAs Action.read depth a.toJson (.ok a) := by
  intro size rest _ hsize
  rw [toJson, Json.Value.text, Json.stringText_append] at hsize ⊢
  simp only [List.length_cons, List.length_append] at hsize
  have hchars := Json.readChars_escape a.name rest (show _ < size by omega)
  have hname : ofName a.name = .ok a := by cases a <;> rfl
  unfold Action.read
  rw [Json.skipBlank_cons (by decide)]
  simp only [if_true, hchars, bind, Except.bind, hname]
  rfl

theorem RegistryEvent.readsAs (e : RegistryEvent) (hinfo : e.service.info.Canonical) :
    ReadsAs RegistryEvent.record.read (depth + 4) e.toJson
      ((e.service.info.reread (depth + 2)).map fun info =>
        { e with service := { e.service with info } }) := by
  have hfills : FillsAs RegistryEvent.record.fields (depth + 3) true RegistryEvent.record.empty
      [("action", e.action.toJson), ("service", e.service.toJson)]
      ((e.service.info.reread (depth + 2)).map (fun info => { e.service with info }) >>=
        fun service => .ok { action := some e.action, service := some service }) :=
    .put rfl rfl e.action.readsAs (.cons rfl rfl (e.service.readsAs hinfo) fun _ _ => .nil)
  -- what was read of the metadata is put into the service, and the service into the event
  have hsame : ((e.service.info.reread (depth + 2)).map fun info => { e.service with info }).map
      (fun service => { e with service }) = (e.service.info.reread (depth + 2)).map fun info =>
        { e with service := { e.service with info } } := by
    cases e.service.info.reread (depth + 2) <;> rfl
  rw [← hsame]
  exact Json.Record.readsAs_of_finish hfills fun _ => rfl

/-- The number of containers that the metadata of a service may nest on the bus. -/
def RegistryEvent.infoDepth : Nat := Json.maxDepth - 2

/-- What is read of the payload of an event. -/
theorem RegistryEvent.decode_encode (e : RegistryEvent) (hinfo : e.service.info.Canonical) :
    decode e.encode = (e.service.info.reread infoDepth).map fun info =>
      { e with service := { e.service with info } } := by
  exact Json.readBytes_print (e.readsAs hinfo)

/-- Metadata that an event carries as it is: it nests no more containers than an event leaves room
for, and each floating-point number in it is read as it is printed. -/
def Json.Value.Portable (info : Json.Value) : Prop :=
  info.depth ≤ RegistryEvent.infoDepth ∧ ∀ x ∈ info.reals, Json.reread x = .ok x

instance (info : Json.Value) : Decidable info.Portable :=
  inferInstanceAs (Decidable (_ ∧ _))

-- `5e+36` is read as `5.0000000000000004e+36`
example : ¬(Json.Value.real ⟨false, 8470329472543003, 69, by decide⟩).Portable := by
  decide +kernel

theorem RegistryEvent.decode_encode_eq_self_iff {e : RegistryEvent}
    (hinfo : e.service.info.Canonical) :
    decode e.encode = .ok e ↔ e.service.info.Portable := by
  rw [decode_encode e hinfo, Json.Value.Portable, ← Json.Value.reread_eq_ok_self_iff]
  constructor
  · intro h
    obtain ⟨info, hreread, heq⟩ := Json.exists_of_map_eq_ok h
    have hsame : info = e.service.info := congrArg (fun e : RegistryEvent => e.service.info) heq
    rw [hreread, hsame]
  · intro h
    rw [h]
    rfl

/-- An event whose metadata holds no floating-point number is read back as it was, or its metadata
nests too many containers. Metadata in memory is always canonical: its whole numbers have 64 bits,
and its members are held in the order of their keys. -/
theorem RegistryEvent.decode_encode_of_whole (e : RegistryEvent)
    (hinfo : e.service.info.Canonical) (hwhole : e.service.info.reals = []) :
    decode e.encode =
      if e.service.info.depth ≤ 125 then .ok e else .error (.grammar .recursionLimit) := by
  have hreals : ∀ x ∈ e.service.info.reals, Json.reread x = .ok x := by
    rw [hwhole]
    exact List.forall_mem_nil _
  have hreread : e.service.info.reread infoDepth =
      if e.service.info.depth ≤ 125 then .ok e.service.info
      else .error (.grammar .recursionLimit) :=
    Json.Value.reread_eq_ite hreals
  rw [decode_encode e hinfo, hreread]
  split <;> rfl

/-- Metadata of `n + 2` containers, with the largest and the least whole number in it. -/
def Json.Value.stacked : Nat → Json.Value
  | 0 => .object [("", .integer (2 ^ 64 - 1)), ("\"é\n", .integer (-2 ^ 63)),
      ("a", .list [.null, .boolean true, .string "\u0000"])]
  | n + 1 => .list [stacked n]

theorem Json.Value.canonical_stacked (n : Nat) : (stacked n).Canonical := by
  induction n with
  | zero =>
    have hlargest : Json.Fits (2 ^ 64 - 1) := by unfold Json.Fits; decide
    have hleast : Json.Fits (-2 ^ 63) := by unfold Json.Fits; decide
    refine .object (by unfold Json.Ordered; decide) (List.forall_mem_cons.mpr
      ⟨.integer hlargest, List.forall_mem_cons.mpr ⟨.integer hleast,
        List.forall_mem_singleton.mpr (.list ?_)⟩⟩)
    exact List.forall_mem_cons.mpr ⟨.null, List.forall_mem_cons.mpr ⟨.boolean true,
      List.forall_mem_singleton.mpr (.string _)⟩⟩
  | succ n ih => exact .list (List.forall_mem_singleton.mpr ih)

/-- The registration of a service with such metadata. -/
def RegistryEvent.stacked (n : Nat) : RegistryEvent :=
  .register { Service.bare ⟨"a", "b"⟩ with
    notifications := [⟨"n", "1", "é"⟩, ⟨"n", "2", ""⟩], info := .stacked n }

/-- An event leaves room for 125 containers, and no more. -/
theorem RegistryEvent.decode_encode_of_whole_stacked :
    decode (stacked 123).encode = .ok (stacked 123) ∧
      decode (stacked 124).encode = .error (.grammar .recursionLimit) := by
  have hdepth : (stacked 123).service.info.depth ≤ 125 ∧
      ¬(stacked 124).service.info.depth ≤ 125 := by
    decide +kernel
  rw [decode_encode_of_whole (stacked 123) (Json.Value.canonical_stacked 123) (by decide +kernel),
    decode_encode_of_whole (stacked 124) (Json.Value.canonical_stacked 124) (by decide +kernel),
    if_pos hdepth.1, if_neg hdepth.2]
  exact ⟨rfl, rfl⟩

end ServiceBroker
