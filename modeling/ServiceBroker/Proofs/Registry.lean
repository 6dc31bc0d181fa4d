import ServiceBroker.Registry

/-!
# The last event about a URN decides

- `RegistryEvent.leaves`: the record that an event leaves for its URN;
- `Registry.lookup_apply`: what an event does to the record of a URN;
- `Registry.lookup_applyAll`: the last event about a URN decides what is registered for it.
-/

namespace ServiceBroker

/-- The record that an event leaves for its URN. -/
def RegistryEvent.leaves (e : RegistryEvent) : Option Service :=
  match e.action with
  | .register => some e.service
  | .deregister => none

namespace Registry

variable (r : Registry) (urn : Urn)

/-- An event decides the record of its URN and leaves every other one. -/
theorem lookup_apply (e : RegistryEvent) :
    (r.apply e).2.lookup urn = if e.urn = urn then e.leaves else r.lookup urn := by
  unfold apply lookup RegistryEvent.leaves
  cases e.action with
  | register => simp [Std.ExtTreeMap.getElem?_insert]
  | deregister => simp [Std.ExtTreeMap.getElem?_erase]

theorem applyAll_nil : r.applyAll [] = r := rfl

theorem applyAll_cons (e : RegistryEvent) (es : List RegistryEvent) :
    r.applyAll (e :: es) = (r.apply e).2.applyAll es := rfl

theorem applyAll_append (es es' : List RegistryEvent) :
    r.applyAll (es ++ es') = (r.applyAll es).applyAll es' := List.foldl_append

/-- The last event about a URN decides what is registered for it. -/
theorem lookup_applyAll (es : List RegistryEvent) :
    (r.applyAll es).lookup urn =
      match es.reverse.find? (fun e => e.urn = urn) with
      | some e => e.leaves
      | none => r.lookup urn := by
  -- from the last event on
  induction h : es.reverse generalizing es with
  | nil => rw [List.reverse_eq_nil_iff.mp h, applyAll_nil]; rfl
  | cons e before ih =>
    obtain rfl : es = before.reverse ++ [e] := by
      rw [← List.reverse_reverse es, h, List.reverse_cons]
    rw [applyAll_append, applyAll_cons, applyAll_nil, lookup_apply, List.find?_cons]
    by_cases hurn : e.urn = urn
    · simp [hurn]
    · simp only [hurn, if_false, decide_false]
      exact ih before.reverse (List.reverse_reverse _)

/-- After an event about a URN it does not matter what was registered for it before. -/
theorem lookup_applyAll_congr (r' : Registry) {es : List RegistryEvent}
    (h : ∃ e ∈ es, e.urn = urn) : (r.applyAll es).lookup urn = (r'.applyAll es).lookup urn := by
  obtain ⟨e, he, hurn⟩ := h
  have hfound : (es.reverse.find? (fun e => e.urn = urn)).isSome := by
    rw [List.find?_isSome]
    exact ⟨e, List.mem_reverse.mpr he, decide_eq_true hurn⟩
  obtain ⟨last, hlast⟩ := Option.isSome_iff_exists.mp hfound
  rw [lookup_applyAll, lookup_applyAll, hlast]

end Registry

end ServiceBroker
