import ServiceBroker.Proofs.Json.Objects
import ServiceBroker.Proofs.Service
import ServiceBroker.Subscription

/-!
# Subscriptions in JSON

Read-backs survive printing: a list of subscriptions is read as it was printed, kinds of scopes and
descriptions included.

Texts that were not printed are read more loosely. A scope is read from the members of an object as
they stand in the text, and the object is taken for the scope of a service only if it has exactly
one `id` and this is a string. Any other `id` is passed over like a member of any other name.

## Main definitions

* `Scope.KeepsId`: an object with an `id` is not read as a namespace.

## Main results

* `Scope.readBytes_eq_ok_iff`: the scope that a text is read as;
* `Scope.keepsId_iff`: the objects with an `id` that are not read as a namespace;
* `SubscriptionList.readBytes_toJson`: a printed list of subscriptions is read back.
-/

namespace ServiceBroker

open Json (ReadsAs FillsAs Only)

variable {depth size : Nat} {bytes rest : Bytes} {members : List Json.Member}

/-! ## Scopes by their members -/

namespace Scope

theorem soleText_eq_some_iff {name s : String} :
    soleText members name = some s ↔ Only members name (.string s) := by
  rw [Json.only_iff_filter]
  unfold soleText
  constructor
  · intro h
    split at h
    next key s' heq =>
      cases h
      have hkey : (key, Json.Value.string s) ∈ members.filter (·.1 == name) := by
        rw [heq]
        exact List.mem_singleton_self _
      obtain rfl : key = name := by simpa using (List.mem_filter.mp hkey).2
      exact heq
    next => cases h
  · intro h
    rw [h]

theorem soleText_eq_none_iff {name : String} :
    soleText members name = none ↔ ∀ s, ¬Only members name (.string s) := by
  rw [Option.eq_none_iff_forall_ne_some]
  simp only [ne_eq, soleText_eq_some_iff]

theorem ofMembers?_eq_service_iff {ns id : String} :
    ofMembers? members = some (.service ns id) ↔
      Only members "namespace" (.string ns) ∧ Only members "id" (.string id) := by
  rw [← soleText_eq_some_iff, ← soleText_eq_some_iff]
  unfold ofMembers?
  split <;> simp_all

theorem ofMembers?_eq_namespaceWide_iff {ns : String} :
    ofMembers? members = some (.namespaceWide ns) ↔
      Only members "namespace" (.string ns) ∧ ∀ id, ¬Only members "id" (.string id) := by
  rw [← soleText_eq_some_iff, ← soleText_eq_none_iff]
  unfold ofMembers?
  split <;> simp_all

/-- A scope is read from the members of an object. -/
theorem read_of_readObject (h : Json.readObject depth size bytes = .ok (members, rest)) :
    read depth size bytes = match ofMembers? members with
      | some scope => .ok (scope, rest)
      | none => .error (.data (.noVariant "SubscriptionScope")) := by
  unfold Json.readObject at h
  obtain ⟨⟨token, inside⟩, htoken, h⟩ := Json.exists_of_bind_eq_ok h
  cases token with
  | object =>
    obtain ⟨inner, henter, hmembers⟩ := Json.exists_of_bind_eq_ok h
    unfold read
    cases hscope : ofMembers? members with
    | some scope => simp only [htoken, henter, hmembers, hscope, bind, Except.bind]
    | none => simp only [htoken, henter, hmembers, hscope, bind, Except.bind]
  | null | boolean | integer | real | string | list => cases h

/-- Nothing but an object is read as a scope. -/
private theorem exists_readObject_of_read {scope : Scope}
    (h : read depth size bytes = .ok (scope, rest)) :
    ∃ members, Json.readObject depth size bytes = .ok (members, rest) := by
  unfold read at h
  obtain ⟨⟨token, inside⟩, htoken, h⟩ := Json.exists_of_bind_eq_ok h
  cases token with
  | object =>
    obtain ⟨inner, henter, h⟩ := Json.exists_of_bind_eq_ok h
    obtain ⟨⟨members, after⟩, hmembers, h⟩ := Json.exists_of_bind_eq_ok h
    refine ⟨members, ?_⟩
    unfold Json.readObject
    simp only [htoken, henter, bind, Except.bind]
    dsimp only at h
    split at h
    next =>
      cases h
      exact hmembers
    next => cases h
  | list =>
    -- a list is read to its end and refused then
    obtain ⟨inner, henter, h⟩ := Json.exists_of_bind_eq_ok h
    obtain ⟨items, hitems, h⟩ := Json.exists_of_bind_eq_ok h
    cases h
  | null | boolean | integer | real | string => cases h

/-- A text is read as a scope if and only if it is an object whose members describe it. -/
theorem readBytes_eq_ok_iff {scope : Scope} : Json.readBytes read bytes = .ok scope ↔
    ∃ members, Json.readBytes Json.readObject bytes = .ok members ∧
      ofMembers? members = some scope := by
  simp only [Json.readBytes_eq_ok_iff]
  constructor
  · rintro ⟨rest, hread, hblank⟩
    obtain ⟨members, hmembers⟩ := exists_readObject_of_read hread
    refine ⟨members, ⟨rest, hmembers, hblank⟩, ?_⟩
    rw [read_of_readObject hmembers] at hread
    split at hread
    next hscope =>
      cases hread
      exact hscope
    next => cases hread
  · rintro ⟨members, ⟨rest, hmembers, hblank⟩, hscope⟩
    refine ⟨rest, ?_, hblank⟩
    rw [read_of_readObject hmembers, hscope]

private theorem eq_some_of_readBytes {scope : Scope}
    (hmembers : Json.readBytes Json.readObject bytes = .ok members)
    (h : Json.readBytes read bytes = .ok scope) : ofMembers? members = some scope := by
  obtain ⟨members', hmembers', hscope⟩ := readBytes_eq_ok_iff.mp h
  cases hmembers.symm.trans hmembers'
  exact hscope

/-! ## Objects with an id -/

/-- An object with an `id` is read as the scope of the service with this id, or not at all. -/
def KeepsId (bytes : Bytes) (members : List Json.Member) : Prop :=
  ∀ v, ("id", v) ∈ members → ∀ scope, Json.readBytes read bytes = .ok scope →
    ∃ ns id, scope = .service ns id ∧ v = .string id

/-- A text is read as the scope of a service if it is an object with exactly one `namespace` and
exactly one `id`, both of them strings, and as that of a namespace if it has such a `namespace` but
no such `id`. So an object with an `id` is kept from being read as a namespace if and only if the
`id` is such a one or there is no such `namespace`. -/
theorem keepsId_iff (bytes : Bytes) :
    (∀ ns id, Json.readBytes read bytes = .ok (.service ns id) ↔
      ∃ members, Json.readBytes Json.readObject bytes = .ok members ∧
        Only members "namespace" (.string ns) ∧ Only members "id" (.string id)) ∧
    (∀ ns, Json.readBytes read bytes = .ok (.namespaceWide ns) ↔
      ∃ members, Json.readBytes Json.readObject bytes = .ok members ∧
        Only members "namespace" (.string ns) ∧ ∀ id, ¬Only members "id" (.string id)) ∧
    ∀ members v, Json.readBytes Json.readObject bytes = .ok members → ("id", v) ∈ members →
      (KeepsId bytes members ↔ (∃ id, Only members "id" (.string id)) ∨
        ∀ ns, ¬Only members "namespace" (.string ns)) := by
  have hservice (ns id : String) : Json.readBytes read bytes = .ok (.service ns id) ↔
      ∃ members, Json.readBytes Json.readObject bytes = .ok members ∧
        Only members "namespace" (.string ns) ∧ Only members "id" (.string id) := by
    simp only [readBytes_eq_ok_iff, ofMembers?_eq_service_iff]
  have hwide (ns : String) : Json.readBytes read bytes = .ok (.namespaceWide ns) ↔
      ∃ members, Json.readBytes Json.readObject bytes = .ok members ∧
        Only members "namespace" (.string ns) ∧ ∀ id, ¬Only members "id" (.string id) := by
    simp only [readBytes_eq_ok_iff, ofMembers?_eq_namespaceWide_iff]
  refine ⟨hservice, hwide, fun members v hmembers hid =>
    ⟨fun hkeeps => ?_, fun h w hw scope hscope => ?_⟩⟩
  · -- with a `namespace` and without an `id` that counts, the namespace would be read
    by_contra hnot
    rw [not_or, not_exists, not_forall_not] at hnot
    obtain ⟨hnoId, ns, hns⟩ := hnot
    obtain ⟨_, _, heq, _⟩ := hkeeps v hid _ ((hwide ns).mpr ⟨members, hmembers, hns, hnoId⟩)
    cases heq
  · -- whatever the text is read as, its members decide
    have hscope := eq_some_of_readBytes hmembers hscope
    cases scope with
    | service ns id =>
      obtain ⟨_, honly⟩ := ofMembers?_eq_service_iff.mp hscope
      exact ⟨ns, id, rfl, honly.eq_of_mem hw⟩
    | namespaceWide ns =>
      obtain ⟨hns, hnoId⟩ := ofMembers?_eq_namespaceWide_iff.mp hscope
      rcases h with ⟨id, honly⟩ | hnoNs
      · exact absurd honly (hnoId id)
      · exact absurd hns (hnoNs ns)

/-- The `id` may stand in front, and members of other names between. -/
theorem keepsId_string :
    let members : List Json.Member :=
      [("id", .string "cart"), ("note", .null), ("namespace", .string "shop")]
    let bytes := (Json.Value.object members).print
    Json.readBytes Json.readObject bytes = .ok members ∧ ("id", .string "cart") ∈ members ∧
      Json.readBytes read bytes = .ok (.service "shop" "cart") ∧ KeepsId bytes members := by
  intro members bytes
  have hmembers : Json.readBytes Json.readObject bytes = .ok members := by
    refine Json.readBytes_print (.object ?_ (by simp [members, Json.Value.reread]))
    simp [members, Json.Value.Canonical.string, Json.Value.Canonical.null]
  have hid : Only members "id" (.string "cart") := ⟨[], _, rfl, by simp⟩
  have hns : Only members "namespace" (.string "shop") :=
    ⟨[("id", .string "cart"), ("note", .null)], [], rfl, by simp⟩
  obtain ⟨hservice, _, hkeeps⟩ := keepsId_iff bytes
  exact ⟨hmembers, List.mem_cons_self, (hservice _ _).mpr ⟨members, hmembers, hns, hid⟩,
    (hkeeps members _ hmembers List.mem_cons_self).mpr (.inl ⟨_, hid⟩)⟩

/-- An `id` that is a number is passed over, and the scope is the whole namespace. -/
theorem not_keepsId_integer :
    let members : List Json.Member := [("namespace", .string "shop"), ("id", .integer 7)]
    let bytes := Bytes.ofString "\x7b\"namespace\":\"shop\",\"id\":7\x7d"
    Json.readBytes Json.readObject bytes = .ok members ∧ ("id", .integer 7) ∈ members ∧
      Json.readBytes read bytes = .ok (.namespaceWide "shop") ∧ ¬KeepsId bytes members := by
  intro members bytes
  have hbytes : bytes = (Json.Value.object members).print := by decide +kernel
  have hmembers : Json.readBytes Json.readObject bytes = .ok members := by
    have hseven : Json.Value.Canonical (.integer 7) := .integer ⟨by decide, by decide⟩
    rw [hbytes]
    refine Json.readBytes_print (.object ?_ (by simp [members, Json.Value.reread]))
    simpa [members, Json.Value.Canonical.string] using hseven
  have hread : Json.readBytes read bytes = .ok (.namespaceWide "shop") :=
    readBytes_eq_ok_iff.mpr ⟨members, hmembers, rfl⟩
  refine ⟨hmembers, by simp [members], hread, fun hkeeps => ?_⟩
  obtain ⟨_, _, heq, _⟩ := hkeeps (.integer 7) (by simp [members]) _ hread
  cases heq

end Scope

/-! ## Round trips -/

/-- An object of strings that was printed is read as the scope that its members describe. -/
theorem Scope.readsAs_of_strings {scope : Scope} (hstrings : ∀ m ∈ members, ∃ s, m.2 = .string s)
    (hscope : ofMembers? members = some scope) :
    ReadsAs read (depth + 1) (.object members) (.ok scope) := by
  intro size rest hrest hsize
  have hmembers : ReadsAs Json.readObject (depth + 1) (.object members) (.ok members) := by
    refine .object (fun m hm => ?_) (fun m hm => ?_)
    all_goals
      obtain ⟨s, hs⟩ := hstrings m hm
      rw [hs]
    · exact .string s
    · rw [Json.Value.reread]
  rw [read_of_readObject (hmembers size rest hrest hsize), hscope]
  rfl

/-- A printed scope is read back, and as the kind of scope that it was. -/
theorem Scope.readsAs (scope : Scope) :
    ReadsAs Scope.read (depth + 1) scope.toJson (.ok scope) := by
  cases scope with
  | service ns id => exact readsAs_of_strings (by simp) rfl
  | namespaceWide ns => exact readsAs_of_strings (by simp) rfl

theorem Subscription.readsAs (s : Subscription) :
    ReadsAs Subscription.record.read (depth + 3) s.toJson (.ok s) := by
  have hfills : FillsAs Subscription.record.fields (depth + 2) true Subscription.record.empty
      [("scope", s.scope.toJson), ("notifications", .list (s.notifications.map (·.toJson)))]
      (.ok { scope := some s.scope, notifications := some s.notifications }) :=
    .put rfl rfl s.scope.readsAs (.put rfl rfl (.list_self fun d _ => d.readsAs) .nil)
  exact Json.Record.readsAs hfills

theorem SubscriptionList.readsAs (list : SubscriptionList) :
    ReadsAs SubscriptionList.record.read (depth + 5) list.toJson (.ok list) := by
  have hfills : FillsAs SubscriptionList.record.fields (depth + 4) true
      SubscriptionList.record.empty
      [("subscriptions", .list (list.subscriptions.map (·.toJson)))]
      (.ok (some list.subscriptions)) :=
    .put rfl rfl (.list_self fun s _ => s.readsAs) .nil
  exact Json.Record.readsAs hfills

/-- A printed list of subscriptions is read back, whatever its texts are: the scopes as they were,
the one of a service never as that of a namespace or the other way round, and the descriptors with
their descriptions. -/
theorem SubscriptionList.readBytes_toJson (list : SubscriptionList) :
    Json.readBytes SubscriptionList.record.read list.toJson.print = .ok list ∧
      ∀ scope : Scope, Json.readBytes Scope.read scope.toJson.print = .ok scope :=
  ⟨Json.readBytes_print list.readsAs, fun scope => Json.readBytes_print scope.readsAs⟩

end ServiceBroker
