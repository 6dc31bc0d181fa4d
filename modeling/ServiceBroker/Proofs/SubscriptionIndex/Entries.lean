import Mathlib.Data.Finset.Card
import Mathlib.Data.Finset.Dedup
import Mathlib.Data.Finset.Image
import ServiceBroker.SubscriptionIndex

/-!
# What a subscription index holds

The effect of each step of adding and removing, said by membership: which keys are fresh, which are
taken, who is entered under a topic afterwards. Numbers of descriptors are cardinalities of finite
sets, so that they follow from membership as well.

- `mem_fresh` and `mem_takeKeys_left`, `mem_takeKeys_gone`: the descriptors that an add or remove is
  about;
- `entered_attachAll` and `entered_detachAll`: who is entered under a topic afterwards;
- `card_keySet`: sizes as cardinalities.
-/

namespace ServiceBroker

namespace SubscriptionIndex

/-! ## Keys of maps -/

section KeySet

variable {α β : Type} [Ord α] [Std.TransOrd α] [DecidableEq α]

/-- The keys of a map as a finite set. -/
def keySet (m : Std.ExtTreeMap α β) : Finset α := m.keys.toFinset

@[simp]
theorem mem_keySet [Std.LawfulEqOrd α] (m : Std.ExtTreeMap α β) (a : α) :
    a ∈ keySet m ↔ a ∈ m := by
  simp [keySet]

/-- A map has as many keys as entries. -/
theorem card_keySet (m : Std.ExtTreeMap α β) : (keySet m).card = m.size := by
  rw [keySet, List.toFinset_card_of_nodup m.nodup_keys, Std.ExtTreeMap.length_keys]

end KeySet

/-! ## Descriptors that are added -/

/-- A descriptor is fresh if it is asked for and not held. -/
theorem mem_fresh {held : DescriptorMap} {descriptors : List Descriptor} {key : Descriptor.Key} :
    key ∈ fresh held descriptors ↔ key ∉ held ∧ key ∈ descriptors.map (·.key) := by
  simp only [fresh, Std.ExtTreeMap.mem_ofList, List.contains_iff_mem, List.mem_map,
    List.mem_filter, Bool.not_eq_true', ← Bool.not_eq_true, ← Std.ExtTreeMap.mem_iff_contains]
  constructor
  · rintro ⟨_, ⟨d, ⟨hd, hnew⟩, rfl⟩, rfl⟩
    exact ⟨hnew, d, hd, rfl⟩
  · rintro ⟨hnew, d, hd, rfl⟩
    exact ⟨_, ⟨d, ⟨hd, hnew⟩, rfl⟩, rfl⟩

/-- What is held after the fresh descriptors have been entered. -/
theorem mem_insertMany_fresh {held new : DescriptorMap} {key : Descriptor.Key} :
    key ∈ held.insertMany new.toList ↔ key ∈ held ∨ key ∈ new := by
  simp [Std.ExtTreeMap.mem_insertMany_list]

/-- No descriptor is counted twice when the fresh ones are entered. -/
theorem size_insertMany_fresh (held : DescriptorMap) (descriptors : List Descriptor) :
    (held.insertMany (fresh held descriptors).toList).size =
      held.size + (fresh held descriptors).size := by
  rw [← card_keySet, ← card_keySet held, ← card_keySet (fresh held descriptors),
    ← Finset.card_union_of_disjoint]
  · congr 1
    ext key
    simp
  · rw [Finset.disjoint_left]
    intro key hheld hfresh
    rw [mem_keySet] at hheld hfresh
    exact (mem_fresh.mp hfresh).1 hheld

/-! ## Descriptors that are taken -/

/-- One step of `takeKeys`. -/
def takeKey (state : List Descriptor.Key × DescriptorMap) (d : Descriptor) :
    List Descriptor.Key × DescriptorMap :=
  if state.2.contains d.key then (d.key :: state.1, state.2.erase d.key) else state

/-- Keys are taken one after the other. -/
theorem takeKeys_eq (held : DescriptorMap) (descriptors : List Descriptor) :
    takeKeys held descriptors = descriptors.foldl takeKey ([], held) := rfl

/-- What has been taken and what is left are parts of what was held, without overlap and without
repetition. -/
structure Splits (held : DescriptorMap) (gone : List Descriptor.Key) (left : DescriptorMap) :
    Prop where
  /-- What was held is taken or left. -/
  mem_held : ∀ key, key ∈ held ↔ key ∈ gone ∨ key ∈ left
  /-- What is taken is no longer left. -/
  not_mem_left : ∀ key ∈ gone, key ∉ left
  /-- Nothing is taken twice. -/
  nodup : gone.Nodup
  /-- The numbers add up. -/
  size_eq : gone.length + left.size = held.size

/-- A key that is taken is one that was held, or none. -/
theorem Splits.takeKey {held : DescriptorMap} {state : List Descriptor.Key × DescriptorMap}
    (h : Splits held state.1 state.2) (d : Descriptor) :
    Splits held (takeKey state d).1 (takeKey state d).2 := by
  obtain ⟨gone, left⟩ := state
  unfold SubscriptionIndex.takeKey
  split
  next hd =>
    have hleft : d.key ∈ left := Std.ExtTreeMap.mem_iff_contains.mpr hd
    have hgone : d.key ∉ gone := fun hmem => h.not_mem_left _ hmem hleft
    -- the key goes over from what is left to what is taken
    constructor
    case mem_held =>
      intro key
      rw [h.mem_held, List.mem_cons, Std.ExtTreeMap.mem_erase]
      by_cases heq : d.key = key
      · subst heq
        simp [hleft]
      · simp [heq, Ne.symm heq]
    case not_mem_left =>
      intro key hkey
      rw [Std.ExtTreeMap.mem_erase]
      rcases List.mem_cons.mp hkey with rfl | hmem
      · simp
      · exact fun hboth => h.not_mem_left _ hmem hboth.2
    case nodup => exact List.nodup_cons.mpr ⟨hgone, h.nodup⟩
    case size_eq =>
      have hsize := h.size_eq
      -- the key was left, so that there is one to subtract
      have hpos : left.size ≠ 0 := by
        rw [Ne, ← Std.ExtTreeMap.eq_empty_iff_size_eq_zero]
        rintro rfl
        simp at hleft
      rw [Std.ExtTreeMap.size_erase, if_pos hd, List.length_cons]
      dsimp only at hsize ⊢
      omega
  next => exact h

/-- The keys that `takeKeys` has gone through are no longer left. -/
theorem mem_foldl_takeKey (descriptors : List Descriptor)
    (state : List Descriptor.Key × DescriptorMap) (key : Descriptor.Key) :
    key ∈ (descriptors.foldl takeKey state).2 ↔
      key ∈ state.2 ∧ key ∉ descriptors.map (·.key) := by
  induction descriptors generalizing state with
  | nil => simp
  | cons d descriptors ih =>
    -- one step takes one key
    have hstep : key ∈ (takeKey state d).2 ↔ key ∈ state.2 ∧ key ≠ d.key := by
      unfold takeKey
      split
      · rw [Std.ExtTreeMap.mem_erase, ne_eq, Std.LawfulEqCmp.compare_eq_iff_eq]
        exact ⟨fun h => ⟨h.2, Ne.symm h.1⟩, fun h => ⟨Ne.symm h.2, h.1⟩⟩
      · rename_i hd
        refine ⟨fun h => ⟨h, ?_⟩, And.left⟩
        rintro rfl
        exact hd (Std.ExtTreeMap.mem_iff_contains.mp h)
    rw [List.foldl_cons, ih, hstep, List.map_cons, List.mem_cons, not_or, and_assoc]

theorem splits_takeKeys (held : DescriptorMap) (descriptors : List Descriptor) :
    Splits held (takeKeys held descriptors).1 (takeKeys held descriptors).2 := by
  have hstart : Splits held [] held := ⟨by simp, by simp, by simp, by simp⟩
  rw [takeKeys_eq]
  -- the induction is on the descriptors, over any state that splits what was held
  generalize hstate : (([], held) : List Descriptor.Key × DescriptorMap) = state
  replace hstart : Splits held state.1 state.2 := hstate ▸ hstart
  clear hstate
  induction descriptors generalizing state with
  | nil => exact hstart
  | cons d descriptors ih => exact ih _ (hstart.takeKey d)

/-- What is left of a scope. -/
theorem mem_takeKeys_left {held : DescriptorMap} {descriptors : List Descriptor}
    {key : Descriptor.Key} :
    key ∈ (takeKeys held descriptors).2 ↔ key ∈ held ∧ key ∉ descriptors.map (·.key) := by
  rw [takeKeys_eq, mem_foldl_takeKey]

/-- What is taken out of a scope. -/
theorem mem_takeKeys_gone {held : DescriptorMap} {descriptors : List Descriptor}
    {key : Descriptor.Key} :
    key ∈ (takeKeys held descriptors).1 ↔ key ∈ held ∧ key ∈ descriptors.map (·.key) := by
  have hsplit := splits_takeKeys held descriptors
  rw [hsplit.mem_held key, mem_takeKeys_left]
  constructor
  · intro hgone
    refine ⟨.inl hgone, not_not.mp fun hnot => hsplit.not_mem_left key hgone ?_⟩
    exact mem_takeKeys_left.mpr ⟨(hsplit.mem_held key).mpr (.inl hgone), hnot⟩
  · rintro ⟨hgone | ⟨-, hnot⟩, hmem⟩
    · exact hgone
    · exact absurd hmem hnot

/-! ## Who is entered under a topic -/

/-- The consumer is entered under the topic. -/
def Entered (topics : Std.ExtTreeMap Topic (Std.ExtTreeSet Urn)) (consumer : Urn)
    (topic : Topic) : Prop :=
  consumer ∈ (topics[topic]?.getD ∅ : Std.ExtTreeSet Urn)

/-- No topic is kept for nobody. -/
def NoneEmpty (topics : Std.ExtTreeMap Topic (Std.ExtTreeSet Urn)) : Prop :=
  ∀ (topic : Topic) (subscribers : Std.ExtTreeSet Urn),
    topics[topic]? = some subscribers → subscribers ≠ ∅

variable {topics : Std.ExtTreeMap Topic (Std.ExtTreeSet Urn)} {consumer other : Urn}
  {topic entry : Topic}

/-- A consumer is entered under one more topic. -/
private theorem entered_attach :
    Entered (attach topics consumer entry) other topic ↔
      Entered topics other topic ∨ other = consumer ∧ topic = entry := by
  unfold Entered attach
  rw [Std.ExtTreeMap.getElem?_insert]
  by_cases heq : entry = topic
  · subst heq
    simp [Std.ExtTreeSet.mem_insert, eq_comm (a := other), or_comm]
  · simp [heq, Ne.symm heq]

theorem NoneEmpty.attach (h : NoneEmpty topics) (consumer : Urn) (entry : Topic) :
    NoneEmpty (SubscriptionIndex.attach topics consumer entry) := by
  intro topic subscribers hsome
  rw [SubscriptionIndex.attach, Std.ExtTreeMap.getElem?_insert] at hsome
  split at hsome
  · obtain rfl := Option.some.inj hsome
    simp
  · exact h topic subscribers hsome

/-- A consumer is taken out from under one topic. -/
private theorem entered_detach :
    Entered (detach topics consumer entry) other topic ↔
      Entered topics other topic ∧ ¬(other = consumer ∧ topic = entry) := by
  unfold Entered detach
  split
  next hnone =>
    -- nobody is entered under the topic
    refine ⟨fun h => ⟨h, ?_⟩, And.left⟩
    rintro ⟨-, rfl⟩
    simp [hnone] at h
  next subscribers hsome =>
    by_cases heq : entry = topic
    · subst heq
      have hmem : other ∈ subscribers.erase consumer ↔ other ∈ subscribers ∧ other ≠ consumer := by
        rw [Std.ExtTreeSet.mem_erase, ne_eq, Std.LawfulEqCmp.compare_eq_iff_eq, and_comm,
          eq_comm (a := consumer)]
      dsimp only
      split
      next hempty =>
        -- the consumer was the only one, and the topic is dropped
        rw [Std.ExtTreeSet.isEmpty_iff] at hempty
        rw [hempty] at hmem
        simpa [hsome] using hmem
      next => simpa [hsome] using hmem
    · dsimp only
      split <;> simp [Std.ExtTreeMap.getElem?_erase, Std.ExtTreeMap.getElem?_insert, heq,
        Ne.symm heq]

theorem NoneEmpty.detach (h : NoneEmpty topics) (consumer : Urn) (entry : Topic) :
    NoneEmpty (detach topics consumer entry) := by
  intro topic subscribers hsome
  unfold SubscriptionIndex.detach at hsome
  split at hsome
  · exact h topic subscribers hsome
  · dsimp only at hsome
    split at hsome
    · rw [Std.ExtTreeMap.getElem?_erase] at hsome
      split at hsome
      · cases hsome
      · exact h topic subscribers hsome
    · rename_i hne
      rw [Std.ExtTreeMap.getElem?_insert] at hsome
      split at hsome
      · obtain rfl := Option.some.inj hsome
        simpa [Std.ExtTreeSet.isEmpty_iff] using hne
      · exact h topic subscribers hsome

/-- Enters a consumer under several topics. -/
def attachAll (topics : Std.ExtTreeMap Topic (Std.ExtTreeSet Urn)) (consumer : Urn)
    (entries : List Topic) : Std.ExtTreeMap Topic (Std.ExtTreeSet Urn) :=
  entries.foldl (fun topics topic => attach topics consumer topic) topics

/-- Takes a consumer out from under several topics. -/
def detachAll (topics : Std.ExtTreeMap Topic (Std.ExtTreeSet Urn)) (consumer : Urn)
    (entries : List Topic) : Std.ExtTreeMap Topic (Std.ExtTreeSet Urn) :=
  entries.foldl (fun topics topic => detach topics consumer topic) topics

/-- A consumer is entered under some topics, and stays under those where it was. -/
theorem entered_attachAll {entries : List Topic} :
    Entered (attachAll topics consumer entries) other topic ↔
      Entered topics other topic ∨ other = consumer ∧ topic ∈ entries := by
  unfold attachAll
  induction entries generalizing topics with
  | nil => simp
  | cons entry entries ih =>
    rw [List.foldl_cons, ih, entered_attach, List.mem_cons, or_assoc, and_or_left]

theorem NoneEmpty.attachAll (h : NoneEmpty topics) (consumer : Urn) (entries : List Topic) :
    NoneEmpty (attachAll topics consumer entries) := by
  unfold SubscriptionIndex.attachAll
  induction entries generalizing topics with
  | nil => exact h
  | cons entry entries ih => exact ih (h.attach consumer entry)

/-- A consumer is taken out from under some topics, and from under no others. -/
theorem entered_detachAll {entries : List Topic} :
    Entered (detachAll topics consumer entries) other topic ↔
      Entered topics other topic ∧ ¬(other = consumer ∧ topic ∈ entries) := by
  unfold detachAll
  induction entries generalizing topics with
  | nil => simp
  | cons entry entries ih =>
    rw [List.foldl_cons, ih, entered_detach, List.mem_cons, and_assoc, ← not_or, and_or_left]

theorem NoneEmpty.detachAll (h : NoneEmpty topics) (consumer : Urn) (entries : List Topic) :
    NoneEmpty (detachAll topics consumer entries) := by
  unfold SubscriptionIndex.detachAll
  induction entries generalizing topics with
  | nil => exact h
  | cons entry entries ih => exact ih (h.detach consumer entry)

end SubscriptionIndex

end ServiceBroker
