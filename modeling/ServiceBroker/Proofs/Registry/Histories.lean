import ServiceBroker.Proofs.Registry

/-!
# Histories of a registry

A registry is what a history of events has made of the empty one. Events about different URNs do not
notice each other, and a history that is applied once more changes nothing, so that events may be
delivered more than once.

- `RegistryEvent.amountsTo`: what an event can amount to, by whether its URN is registered;
- `Registry.outcomes`: what each event of a history amounts to;
- `Registry.applyAll_applyAll`: a history that is applied twice;
- `Registry.applyAll_swap`, `Registry.outcomes_swap`: neighbours about different URNs change places;
- `Registry.determined_applyAll`: what is known of the registry after a history.
-/

namespace ServiceBroker

/-- What an event can amount to when its URN is registered, or when it is not. -/
def RegistryEvent.amountsTo (e : RegistryEvent) (isRegistered : Bool) : List ApplyOutcome :=
  match e.action, isRegistered with
  | .register, false => [.inserted]
  | .register, true => [.replaced, .unchanged]
  | .deregister, true => [.removed]
  | .deregister, false => [.absent]

namespace Registry

variable {r r' : Registry} {urn : Urn} {e : RegistryEvent}

/-- Registries are told from each other by their records. -/
theorem ext_lookup (h : ∀ urn, r.lookup urn = r'.lookup urn) : r = r' := by
  obtain ⟨services⟩ := r
  obtain ⟨services'⟩ := r'
  exact congrArg Registry.mk (Std.ExtTreeMap.ext_getElem? h)

theorem contains_eq_isSome_lookup (r : Registry) (urn : Urn) :
    r.contains urn = (r.lookup urn).isSome :=
  Std.ExtTreeMap.contains_eq_isSome_getElem?

/-! ## One event -/

/-- What an event amounts to depends on the record of its URN alone. -/
theorem fst_apply_congr (h : r.lookup e.urn = r'.lookup e.urn) :
    (r.apply e).1 = (r'.apply e).1 := by
  unfold apply
  cases e.action with
  | register => exact congrArg (registerOutcome · e.service) h
  | deregister => simp only [contains_eq_isSome_lookup, h]

private theorem fst_apply_mem_amountsTo (r : Registry) (e : RegistryEvent) :
    (r.apply e).1 ∈ e.amountsTo (r.contains e.urn) := by
  rw [contains_eq_isSome_lookup]
  unfold apply RegistryEvent.amountsTo
  cases e.action with
  | register =>
    cases r.lookup e.urn with
    | none => exact List.mem_singleton_self _
    | some s => by_cases hsame : s.same e.service <;> simp [registerOutcome, hsame]
  | deregister =>
    cases h : r.lookup e.urn <;> simp [contains_eq_isSome_lookup, h]

/-- A URN is added or taken away as the outcome says. -/
theorem size_apply (r : Registry) (e : RegistryEvent) :
    (r.apply e).2.size + [(r.apply e).1].count .removed =
      r.size + [(r.apply e).1].count .inserted := by
  have hinsert : (r.services.insert e.urn e.service).size =
      if r.contains e.urn then r.size else r.size + 1 := Std.ExtTreeMap.size_insert
  have herase : (r.services.erase e.urn).size =
      if r.contains e.urn then r.size - 1 else r.size := Std.ExtTreeMap.size_erase
  rw [contains_eq_isSome_lookup] at hinsert herase
  unfold apply
  cases e.action with
  | register =>
    simp only [size] at hinsert ⊢
    cases h : r.lookup e.urn with
    | none => simpa [registerOutcome, h] using hinsert
    | some s =>
      by_cases hsame : s.same e.service <;> simpa [registerOutcome, hsame, h] using hinsert
  | deregister =>
    simp only [size, contains_eq_isSome_lookup] at herase ⊢
    cases h : r.lookup e.urn with
    | none => simpa [h] using herase
    | some s =>
      -- one record less, so that there was one
      have hpos : r.services.size ≠ 0 := by
        rw [Ne, ← Std.ExtTreeMap.eq_empty_iff_size_eq_zero]
        intro hempty
        simp [lookup, hempty] at h
      simp only [h, Option.isSome_some, if_true] at herase
      simpa [h, herase] using Nat.sub_one_add_one hpos

/-- Events about different URNs may change places. -/
theorem apply_comm {a b : RegistryEvent} (h : a.urn ≠ b.urn) (r : Registry) :
    ((r.apply a).2.apply b).2 = ((r.apply b).2.apply a).2 := by
  refine ext_lookup fun urn => ?_
  simp only [lookup_apply]
  by_cases ha : a.urn = urn
  · have hb : b.urn ≠ urn := ha ▸ h.symm
    rw [if_neg hb, if_pos ha, if_pos ha]
  · rw [if_neg ha, if_neg ha]

/-- What an event amounts to does not depend on one about another URN. -/
theorem fst_apply_apply {a b : RegistryEvent} (h : a.urn ≠ b.urn) (r : Registry) :
    ((r.apply a).2.apply b).1 = (r.apply b).1 := by
  refine fst_apply_congr ?_
  rw [lookup_apply, if_neg h]

/-! ## Histories -/

/-- What each of some events amounts to. -/
def outcomes : Registry → List RegistryEvent → List ApplyOutcome
  | _, [] => []
  | r, e :: es => (r.apply e).1 :: outcomes (r.apply e).2 es

variable (r)

theorem outcomes_append (es es' : List RegistryEvent) :
    r.outcomes (es ++ es') = r.outcomes es ++ (r.applyAll es).outcomes es' := by
  induction es generalizing r with
  | nil => rfl
  | cons e es ih => rw [List.cons_append, outcomes, ih, outcomes, List.cons_append, applyAll_cons]

theorem length_outcomes (es : List RegistryEvent) : (r.outcomes es).length = es.length := by
  induction es generalizing r with
  | nil => rfl
  | cons e es ih => rw [outcomes, List.length_cons, ih, List.length_cons]

/-- What an event of a history amounts to. -/
theorem getElem?_outcomes (before : List RegistryEvent) (e : RegistryEvent)
    (after : List RegistryEvent) :
    (r.outcomes (before ++ e :: after))[before.length]? = some ((r.applyAll before).apply e).1 := by
  rw [outcomes_append, List.getElem?_append_right (Nat.le_of_eq (r.length_outcomes before)),
    length_outcomes, Nat.sub_self, outcomes, List.getElem?_cons_zero]

/-- The records are those that were inserted and not removed. -/
theorem size_applyAll (es : List RegistryEvent) :
    (r.applyAll es).size + (r.outcomes es).count .removed =
      r.size + (r.outcomes es).count .inserted := by
  induction es generalizing r with
  | nil => rfl
  | cons e es ih =>
    have hfirst := r.size_apply e
    have hrest := ih (r.apply e).2
    rw [applyAll_cons, outcomes, List.count_cons, List.count_cons]
    simp only [List.count_singleton] at hfirst
    omega

/-- A history that is applied once more changes nothing. -/
theorem applyAll_applyAll (es : List RegistryEvent) :
    (r.applyAll es).applyAll es = r.applyAll es := by
  refine ext_lookup fun urn => ?_
  by_cases h : ∃ e ∈ es, e.urn = urn
  · exact lookup_applyAll_congr _ _ _ h
  · -- nothing is said about the URN
    have hnone : es.reverse.find? (fun e => e.urn = urn) = none := by
      rw [List.find?_eq_none]
      intro e he
      rw [decide_eq_true_eq]
      exact fun hurn => h ⟨e, List.mem_reverse.mp he, hurn⟩
    rw [(r.applyAll es).lookup_applyAll, hnone]

section Swap

variable (before after : List RegistryEvent) {a b : RegistryEvent}

/-- Neighbours about different URNs may change places in a history. -/
theorem applyAll_swap (h : a.urn ≠ b.urn) :
    r.applyAll (before ++ b :: a :: after) = r.applyAll (before ++ a :: b :: after) := by
  simp only [applyAll_append, applyAll_cons, apply_comm h]

/-- What neighbours about different URNs amount to changes places with them. -/
theorem outcomes_swap (h : a.urn ≠ b.urn) :
    r.outcomes (before ++ a :: b :: after) = r.outcomes before ++
        ((r.applyAll before).apply a).1 :: ((r.applyAll before).apply b).1 ::
          (((r.applyAll before).apply a).2.apply b).2.outcomes after ∧
      r.outcomes (before ++ b :: a :: after) = r.outcomes before ++
        ((r.applyAll before).apply b).1 :: ((r.applyAll before).apply a).1 ::
          (((r.applyAll before).apply a).2.apply b).2.outcomes after := by
  simp only [outcomes_append, outcomes, fst_apply_apply h, fst_apply_apply h.symm, apply_comm h,
    and_self]

end Swap

/-! ## The registry after a history -/

/-- The last event about each URN has determined the registry, and events that do not bear on each
other may come in any order. -/
structure Determined (history : List RegistryEvent) (r : Registry) : Prop where
  /-- The last event about a URN decides: it left its service, or nothing. -/
  lookup : ∀ urn, r.lookup urn =
    (history.reverse.find? fun e => e.urn = urn).bind RegistryEvent.leaves
  /-- Every record is kept under its own URN. -/
  urn_eq : ∀ urn s, r.lookup urn = some s → s.urn = urn
  /-- An event amounts to what its action and the presence of its URN admit. -/
  outcome : ∀ before e after, history = before ++ e :: after →
    ∃ outcome ∈ e.amountsTo ((empty.applyAll before).lookup e.urn).isSome,
      (empty.outcomes history)[before.length]? = some outcome
  /-- As many services are registered as were inserted and not removed. -/
  size : r.size + (empty.outcomes history).count .removed =
    (empty.outcomes history).count .inserted
  /-- The history may be applied once more. -/
  replay : r.applyAll history = r
  /-- Neighbours about different URNs may change places: that leads to the same registry, and each
  event amounts to the same. -/
  swap : ∀ before a b after, history = before ++ a :: b :: after → a.urn ≠ b.urn →
    empty.applyAll (before ++ b :: a :: after) = r ∧
    ∃ first x y last, first.length = before.length ∧
      empty.outcomes history = first ++ x :: y :: last ∧
      empty.outcomes (before ++ b :: a :: after) = first ++ y :: x :: last

/-- Every finite history determines the registry that it makes of the empty one. -/
theorem determined_applyAll (history : List RegistryEvent) :
    Determined history (empty.applyAll history) := by
  have hlookup : ∀ urn, (empty.applyAll history).lookup urn =
      (history.reverse.find? fun e => e.urn = urn).bind RegistryEvent.leaves := by
    intro urn
    rw [lookup_applyAll]
    cases history.reverse.find? (fun e => e.urn = urn) with
    | none => exact Std.ExtTreeMap.getElem?_empty
    | some e => rfl
  refine ⟨hlookup, ?_, ?_, ?_, applyAll_applyAll _ history, ?_⟩
  · intro urn s hs
    rw [hlookup, Option.bind_eq_some_iff] at hs
    obtain ⟨e, hfound, hleaves⟩ := hs
    have hurn : e.urn = urn := by simpa using List.find?_some hfound
    rw [← hurn]
    -- only a registration leaves a record
    unfold RegistryEvent.leaves at hleaves
    split at hleaves
    · cases hleaves
      rfl
    · cases hleaves
  · rintro before e after rfl
    refine ⟨_, ?_, getElem?_outcomes _ _ _ _⟩
    rw [← contains_eq_isSome_lookup]
    exact fst_apply_mem_amountsTo _ _
  · exact (size_applyAll empty history).trans (Nat.zero_add _)
  · rintro before a b after rfl hne
    obtain ⟨hfirst, hsecond⟩ := outcomes_swap empty before after hne
    exact ⟨applyAll_swap _ before after hne, _, _, _, _, length_outcomes _ _, hfirst, hsecond⟩

end Registry

end ServiceBroker
