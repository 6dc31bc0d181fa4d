import ServiceBroker.Proofs.Registry.Histories

/-!
# Which registrations count as mutations

`Service.same` passes over two things: the descriptions of the notifications, and the signs of the
zeros in the metadata. `Service.essence` is a record without them.

- `Service.same_iff`: records are the same if their essences are equal;
- `Registry.isMutation_iff`: an event is a mutation if it changes the essence of a record;
- `Registry.isMutation_iff_changes_iff`: it tells whether the contents changed unless a record is
  overwritten by another one of the same essence.
-/

namespace ServiceBroker

/-! ## Zeros without signs -/

namespace Binary64

/-- The number, with zero always positive. -/
def withoutZeroSign (x : Binary64) : Binary64 := if x.isZero then zero false else x

theorem isZero_withoutZeroSign (x : Binary64) : x.withoutZeroSign.isZero = x.isZero := by
  unfold withoutZeroSign
  split
  next h => rw [h]; rfl
  next => rfl

/-- Numbers have one value if they are the same but for the sign of a zero. -/
theorem same_iff (x y : Binary64) : x.same y = true ↔ x.withoutZeroSign = y.withoutZeroSign := by
  constructor
  · intro h
    rw [same, Bool.or_eq_true, Bool.and_eq_true, beq_iff_eq] at h
    rcases h with ⟨hx, hy⟩ | heq
    · rw [withoutZeroSign, withoutZeroSign, if_pos hx, if_pos hy]
    · rw [heq]
  · intro h
    -- a zero and another number are told apart by `isZero`
    have hzero : x.isZero = y.isZero := by
      rw [← isZero_withoutZeroSign x, h, isZero_withoutZeroSign]
    rw [same, Bool.or_eq_true, Bool.and_eq_true, beq_iff_eq]
    by_cases hx : x.isZero = true
    · exact .inl ⟨hx, hzero ▸ hx⟩
    · refine .inr ?_
      rwa [withoutZeroSign, withoutZeroSign, if_neg hx, if_neg (hzero ▸ hx)] at h

end Binary64

namespace Json.Value

mutual

/-- The value, with every zero positive. -/
def withoutZeroSigns : Value → Value
  | .real x => .real x.withoutZeroSign
  | .list items => .list (itemsWithoutZeroSigns items)
  | .object members => .object (membersWithoutZeroSigns members)
  | v => v
termination_by structural v => v

/-- The items, with every zero positive. -/
def itemsWithoutZeroSigns : List Value → List Value
  | [] => []
  | v :: vs => v.withoutZeroSigns :: itemsWithoutZeroSigns vs
termination_by structural vs => vs

/-- The members, with every zero positive. -/
def membersWithoutZeroSigns : List Member → List Member
  | [] => []
  | m :: ms => memberWithoutZeroSigns m :: membersWithoutZeroSigns ms
termination_by structural ms => ms

/-- The member, with every zero positive. -/
def memberWithoutZeroSigns : Member → Member
  | (key, v) => (key, v.withoutZeroSigns)
termination_by structural m => m

end

mutual

/-- Values are the same if they are equal but for the signs of zeros. -/
theorem same_iff : (v w : Value) → (v.same w = true ↔ v.withoutZeroSigns = w.withoutZeroSigns)
  | .real x, .real y => by simp [same, withoutZeroSigns, Binary64.same_iff]
  | .list vs, .list ws => by simp [same, withoutZeroSigns, sameItems_iff vs ws]
  | .object ms, .object ns => by simp [same, withoutZeroSigns, sameMembers_iff ms ns]
  | .null, w | .boolean _, w | .integer _, w | .string _, w => by
    cases w <;> simp [same, withoutZeroSigns]
  | .real _, .null | .real _, .boolean _ | .real _, .integer _ | .real _, .string _
  | .real _, .list _ | .real _, .object _
  | .list _, .null | .list _, .boolean _ | .list _, .integer _ | .list _, .string _
  | .list _, .real _ | .list _, .object _
  | .object _, .null | .object _, .boolean _ | .object _, .integer _ | .object _, .string _
  | .object _, .real _ | .object _, .list _ => by simp [same, withoutZeroSigns]
termination_by structural v => v

theorem sameItems_iff : (vs ws : List Value) →
    (sameItems vs ws = true ↔ itemsWithoutZeroSigns vs = itemsWithoutZeroSigns ws)
  | [], ws => by cases ws <;> simp [sameItems, itemsWithoutZeroSigns]
  | v :: vs, [] => by simp [sameItems, itemsWithoutZeroSigns]
  | v :: vs, w :: ws => by
    simp [sameItems, itemsWithoutZeroSigns, same_iff v w, sameItems_iff vs ws]
termination_by structural vs => vs

theorem sameMembers_iff : (ms ns : List Member) →
    (sameMembers ms ns = true ↔ membersWithoutZeroSigns ms = membersWithoutZeroSigns ns)
  | [], ns => by cases ns <;> simp [sameMembers, membersWithoutZeroSigns]
  | m :: ms, [] => by simp [sameMembers, membersWithoutZeroSigns]
  | m :: ms, n :: ns => by
    simp [sameMembers, membersWithoutZeroSigns, sameMember_iff m n, sameMembers_iff ms ns]
termination_by structural ms => ms

theorem sameMember_iff : (m n : Member) →
    (sameMember m n = true ↔ memberWithoutZeroSigns m = memberWithoutZeroSigns n)
  | (k, v), (l, w) => by simp [sameMember, memberWithoutZeroSigns, same_iff v w]
termination_by structural m => m

end

end Json.Value

/-! ## Essences -/

/-- A registration without what equality passes over: no notification has a description, and no
zero in the metadata a sign. -/
def Registration.essence (r : Registration) : Registration :=
  { r with
    notifications := r.notifications.map fun d => .ofKey d.key ""
    info := r.info.withoutZeroSigns }

/-- A record without what equality passes over. -/
def Service.essence (s : Service) : Service := s.toRegistration.essence.bind s.urn

/-- Registrations say the same if they have the same essence. -/
theorem Registration.same_iff (a b : Registration) : a.same b = true ↔ a.essence = b.essence := by
  -- the keys are what is left of the notifications
  have hnotifications (r : Registration) : r.essence.notifications =
      (r.notifications.map Descriptor.key).map (Descriptor.ofKey · "") := by
    rw [List.map_map]
    rfl
  have hkeys : a.essence.notifications = b.essence.notifications ↔
      a.notifications.map Descriptor.key = b.notifications.map Descriptor.key := by
    rw [hnotifications, hnotifications]
    exact List.map_inj_right fun _ _ h => (Descriptor.ofKey_inj.mp h).1
  rw [Registration.mk.injEq, hkeys]
  simp [same, essence, Json.Value.same_iff, and_assoc]

/-- So do records. -/
theorem Service.same_iff (a b : Service) : a.same b = true ↔ a.essence = b.essence := by
  have heq : a.essence = b.essence ↔
      a.toRegistration.essence = b.toRegistration.essence ∧ a.urn = b.urn := by
    rw [Service.mk.injEq]
    rfl
  rw [heq, same, Bool.and_eq_true, beq_iff_eq, Registration.same_iff, and_comm]

/-! ## Mutations -/

namespace Registry

/-- An event changes the contents: some URN has another record afterwards, or none any more. -/
def Changes (r : Registry) (e : RegistryEvent) : Prop :=
  ∃ urn, (r.apply e).2.lookup urn ≠ r.lookup urn

variable (r : Registry) (e : RegistryEvent)

/-- An event changes at most the record of its URN. -/
theorem changes_iff : r.Changes e ↔ e.leaves ≠ r.lookup e.urn := by
  constructor
  · rintro ⟨urn, hne⟩
    rw [lookup_apply] at hne
    split at hne
    next heq => rwa [heq]
    next => exact absurd rfl hne
  · intro hne
    refine ⟨e.urn, ?_⟩
    rwa [lookup_apply, if_pos rfl]

/-- An event is a mutation if it changes the essence of the record of its URN. -/
theorem isMutation_iff : (r.apply e).1.isMutation = true ↔
    e.leaves.map Service.essence ≠ (r.lookup e.urn).map Service.essence := by
  unfold apply RegistryEvent.leaves
  cases e.action with
  | register =>
    cases r.lookup e.urn with
    | none => simp [registerOutcome, ApplyOutcome.isMutation]
    | some s =>
      have hsame : some e.service.essence = some s.essence ↔ s.same e.service = true := by
        rw [Service.same_iff, Option.some_inj, eq_comm]
      rw [Option.map_some, Option.map_some, ne_eq, hsame]
      cases h : s.same e.service <;> simp [registerOutcome, h, ApplyOutcome.isMutation]
  | deregister =>
    rw [contains_eq_isSome_lookup]
    cases r.lookup e.urn <;> simp [ApplyOutcome.isMutation]

/-- An event overwrites a record by a different one that has the same essence. -/
def PassesOver : Prop :=
  ∃ old new, r.lookup e.urn = some old ∧ e.leaves = some new ∧ old.essence = new.essence ∧ old ≠ new

/-- A change is passed over if it overwrites a record by another one of the same essence. -/
theorem passesOver_iff : r.PassesOver e ↔
    e.leaves.map Service.essence = (r.lookup e.urn).map Service.essence ∧
      e.leaves ≠ r.lookup e.urn := by
  unfold PassesOver
  cases e.leaves with
  | none => cases r.lookup e.urn <;> simp
  | some new => cases r.lookup e.urn <;> simp [eq_comm]

/-- An event is a mutation exactly if it changes the contents, unless it overwrites a record by a
different one of the same essence. -/
theorem isMutation_iff_changes_iff :
    ((r.apply e).1.isMutation = true ↔ r.Changes e) ↔ ¬ r.PassesOver e := by
  rw [isMutation_iff, changes_iff, passesOver_iff]
  constructor
  · rintro htells ⟨hessence, hne⟩
    exact htells.mpr hne hessence
  · -- a change of the essence is a change, so only the other direction can fail
    intro hpasses
    refine ⟨fun hne heq => hne (congrArg _ heq), fun hne hessence => hpasses ⟨hessence, hne⟩⟩

/-- A producer registers again with another description of its only notification: its record
changes, but this does not count as a mutation. -/
theorem changes_of_description :
    let announce (description : String) : RegistryEvent :=
      .register { urn := ⟨"a", "b"⟩, notifications := [⟨"n", "1", description⟩] }
    let r := empty.applyAll [announce "x"]
    ¬ ((r.apply (announce "y")).1.isMutation = true ↔ r.Changes (announce "y")) := by
  intro announce r
  have hlookup : r.lookup ⟨"a", "b"⟩ = (announce "x").leaves := by
    show (empty.applyAll [announce "x"]).lookup _ = _
    rw [applyAll_cons, applyAll_nil, lookup_apply]
    rfl
  have hessence : (announce "y").leaves.map Service.essence =
      (announce "x").leaves.map Service.essence := rfl
  have hne : (announce "y").leaves ≠ (announce "x").leaves := by
    simp [announce, RegistryEvent.register, RegistryEvent.leaves]
  rw [isMutation_iff, changes_iff]
  show ¬ (_ ≠ (r.lookup ⟨"a", "b"⟩).map _ ↔ _ ≠ r.lookup ⟨"a", "b"⟩)
  rw [hlookup]
  exact fun htells => htells.mpr hne hessence

end Registry

end ServiceBroker
