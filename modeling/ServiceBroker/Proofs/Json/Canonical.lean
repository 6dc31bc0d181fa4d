import ServiceBroker.Proofs.Json.RealNumbers

/-!
# Values that can be read

## Main definitions

* `Value.Canonical`: whole numbers fit 64 bits and members are in the order of their keys;
* `Value.depth`: how many containers a value nests;
* `Value.reals`: the floating-point numbers in a value.

## Main results

* `sortMembers_eq`: members in order stay as they are;
* `canonical_of_read`: a value that has been read is canonical, and nests no more containers than
  could be opened.
-/

namespace ServiceBroker.Json

open Ascii

namespace Value

/-! ## Depth and numbers -/

mutual

/-- The number of containers that a value nests. -/
def depth : Value → Nat
  | .list items => depthItems items + 1
  | .object members => depthMembers members + 1
  | _ => 0
termination_by structural v => v

/-- The number of containers that the items of a list nest. -/
def depthItems : List Value → Nat
  | [] => 0
  | v :: vs => max (depth v) (depthItems vs)
termination_by structural vs => vs

/-- The number of containers that the members of an object nest. -/
def depthMembers : List Member → Nat
  | [] => 0
  | m :: ms => max (depthMember m) (depthMembers ms)
termination_by structural ms => ms

/-- The number of containers that a member nests. -/
def depthMember : Member → Nat
  | (_, v) => depth v
termination_by structural m => m

end

mutual

/-- The floating-point numbers in a value, in the order of its text. -/
def reals : Value → List Binary64
  | .real x => [x]
  | .list items => realsItems items
  | .object members => realsMembers members
  | _ => []
termination_by structural v => v

/-- The floating-point numbers in the items of a list. -/
def realsItems : List Value → List Binary64
  | [] => []
  | v :: vs => reals v ++ realsItems vs
termination_by structural vs => vs

/-- The floating-point numbers in the members of an object. -/
def realsMembers : List Member → List Binary64
  | [] => []
  | m :: ms => realsMember m ++ realsMembers ms
termination_by structural ms => ms

/-- The floating-point numbers in a member. -/
def realsMember : Member → List Binary64
  | (_, v) => reals v
termination_by structural m => m

end

/-- The items of a list are at most as deep as the deepest of them. -/
theorem depthItems_le_iff {items : List Value} {n : Nat} :
    depthItems items ≤ n ↔ ∀ v ∈ items, v.depth ≤ n := by
  induction items with
  | nil => simp [depthItems]
  | cons v vs ih => rw [depthItems, Nat.max_le, ih, List.forall_mem_cons]

theorem depthMembers_le_iff {members : List Member} {n : Nat} :
    depthMembers members ≤ n ↔ ∀ m ∈ members, m.2.depth ≤ n := by
  induction members with
  | nil => simp [depthMembers]
  | cons m ms ih => rw [depthMembers, depthMember, Nat.max_le, ih, List.forall_mem_cons]

/-- The floating-point numbers of a list are those of its items. -/
theorem mem_realsItems {items : List Value} {x : Binary64} :
    x ∈ realsItems items ↔ ∃ v ∈ items, x ∈ v.reals := by
  induction items with
  | nil => simp [realsItems]
  | cons v vs ih => simp [realsItems, ih]

theorem mem_realsMembers {members : List Member} {x : Binary64} :
    x ∈ realsMembers members ↔ ∃ m ∈ members, x ∈ m.2.reals := by
  induction members with
  | nil => simp [realsMembers]
  | cons m ms ih =>
    obtain ⟨key, v⟩ := m
    simp [realsMembers, realsMember, ih]

/-- A bound on the depth and a property of the floating-point numbers, item by item. -/
theorem forall_items_iff {items : List Value} {n : Nat} {p : Binary64 → Prop} :
    (∀ v ∈ items, v.depth ≤ n ∧ ∀ x ∈ v.reals, p x) ↔
      depthItems items ≤ n ∧ ∀ x ∈ realsItems items, p x := by
  simp only [depthItems_le_iff, mem_realsItems, forall_exists_index, and_imp]
  exact ⟨fun h => ⟨fun v hv => (h v hv).1, fun x v hv => (h v hv).2 x⟩,
    fun ⟨hdepth, hreals⟩ v hv => ⟨hdepth v hv, fun x => hreals x v hv⟩⟩

/-- A bound on the depth and a property of the floating-point numbers, member by member. -/
theorem forall_members_iff {members : List Member} {n : Nat} {p : Binary64 → Prop} :
    (∀ m ∈ members, m.2.depth ≤ n ∧ ∀ x ∈ m.2.reals, p x) ↔
      depthMembers members ≤ n ∧ ∀ x ∈ realsMembers members, p x := by
  simp only [depthMembers_le_iff, mem_realsMembers, forall_exists_index, and_imp]
  exact ⟨fun h => ⟨fun m hm => (h m hm).1, fun x m hm => (h m hm).2 x⟩,
    fun ⟨hdepth, hreals⟩ m hm => ⟨hdepth m hm, fun x => hreals x m hm⟩⟩

end Value

/-! ## Canonical values -/

/-- Members in ascending order of their keys, each key once. -/
def Ordered (members : List Member) : Prop := members.Pairwise fun m n => compare m.1 n.1 = .lt

/-- The values that can be read: whole numbers fit 64 bits and members are in order. -/
inductive Value.Canonical : Value → Prop
  | null : Canonical .null
  | boolean (b : Bool) : Canonical (.boolean b)
  | integer {i : Int} : Fits i → Canonical (.integer i)
  | real (x : Binary64) : Canonical (.real x)
  | string (s : String) : Canonical (.string s)
  | list {items : List Value} : (∀ v ∈ items, v.Canonical) → Canonical (.list items)
  | object {members : List Member} : Ordered members → (∀ m ∈ members, m.2.Canonical) →
      Canonical (.object members)

theorem ordered_sortMembers (members : List Member) : Ordered (sortMembers members) :=
  Std.ExtTreeMap.ordered_keys_toList

/-- No two members in order have the same key. -/
theorem Ordered.distinct {members : List Member} (h : Ordered members) :
    members.Pairwise fun m n => ¬compare m.1 n.1 = .eq :=
  h.imp fun hlt heq => by rw [hlt] at heq; cases heq

/-- The members that are kept are some of those that were given. -/
theorem mem_of_mem_sortMembers {members : List Member} {m : Member} (h : m ∈ sortMembers members) :
    m ∈ members := by
  obtain ⟨key, v⟩ := m
  rw [sortMembers, Std.ExtTreeMap.mem_toList_iff_getElem?_eq_some,
    Std.ExtTreeMap.ofList_eq_insertMany_empty, Std.ExtTreeMap.getElem?_insertMany_list,
    Std.ExtTreeMap.getElem?_empty, Option.or_none, List.findSomeRev?_eq_findSome?_reverse] at h
  obtain ⟨⟨key', v'⟩, hmem, hfound⟩ := List.exists_of_findSome?_eq_some h
  dsimp only at hfound
  split at hfound
  next heq =>
    obtain rfl := Std.LawfulEqCmp.compare_eq_iff_eq.mp heq
    obtain rfl := Option.some.inj hfound
    exact List.mem_reverse.mp hmem
  next => cases hfound

/-- Members in order stay as they are. -/
theorem sortMembers_eq {members : List Member} (h : Ordered members) :
    sortMembers members = members := by
  have hself : ∀ key : String, compare key key = .eq := fun _ => Std.ReflCmp.compare_self
  have hnodup : ∀ {ms : List Member}, Ordered ms → ms.Nodup := fun hms =>
    hms.distinct.imp fun hne heq => hne (by rw [heq, hself])
  -- the two lists have the same members, each once, and both are in order
  have hperm : (sortMembers members).Perm members := by
    rw [List.perm_ext_iff_of_nodup (hnodup (ordered_sortMembers members)) (hnodup h)]
    refine fun m => ⟨mem_of_mem_sortMembers, fun hm => ?_⟩
    obtain ⟨key, v⟩ := m
    rw [sortMembers, Std.ExtTreeMap.mem_toList_iff_getElem?_eq_some]
    exact Std.ExtTreeMap.getElem?_ofList_of_mem (hself key) h.distinct hm
  refine hperm.eq_of_pairwise (fun m n _ _ hmn hnm => ?_) (ordered_sortMembers members) h
  rw [Std.OrientedCmp.gt_of_lt hmn] at hnm
  cases hnm

/-! ## What has been read -/

private theorem gatherDigits_le (digits : Bytes) :
    ∀ significand taken, significand ≤ largestSignificand →
    (gatherDigits significand taken digits).1 ≤ largestSignificand := by
  induction digits with
  | nil => exact fun _ _ h => h
  | cons d digits ih =>
    intro significand taken h
    rw [gatherDigits]
    split
    next => exact h
    next hle => exact ih _ _ (Nat.le_of_not_lt hle)

/-- What can be read as a number. -/
def NumberToken : Token → Prop
  | .integer i => Fits i
  | .real _ => True
  | _ => False

/-- Where a result comes from. -/
theorem exists_of_map_eq_ok {ε α β : Type} {r : Except ε α} {f : α → β} {b : β}
    (h : r.map f = .ok b) : ∃ a, r = .ok a ∧ f a = b := by
  cases r with
  | error e => cases h
  | ok a => exact ⟨a, rfl, Except.ok.inj h⟩

theorem exists_of_bind_eq_ok {ε α β : Type} {r : Except ε α} {f : α → Except ε β} {b : β}
    (h : r >>= f = .ok b) : ∃ a, r = .ok a ∧ f a = .ok b := by
  cases r with
  | error e => cases h
  | ok a => exact ⟨a, rfl, h⟩

section

variable {negative : Bool} {significand dropped : Nat} {places : Int} {bytes rest : Bytes}
  {token : Token}

private theorem numberToken_realOf {exponent : Int}
    (h : realOf negative significand exponent = .ok token) : NumberToken token := by
  unfold realOf at h
  split at h
  next => cases h; trivial
  next => cases h

private theorem numberToken_wholeOf (hle : significand ≤ largestSignificand)
    (h : wholeOf negative significand = .ok token) : NumberToken token := by
  unfold wholeOf at h
  simp only [largestSignificand] at hle
  split at h
  · cases h
    exact ⟨by omega, by omega⟩
  split at h
  · cases h
    exact ⟨by omega, by omega⟩
  · exact numberToken_realOf h

private theorem numberToken_readExponent
    (h : readExponent negative significand places bytes = .ok (token, rest)) :
    NumberToken token := by
  unfold readExponent at h
  split at h
  next down bytes' _ =>
    split at h
    next => cases h
    next b _ =>
      split at h
      next => cases h
      next =>
        dsimp only at h
        split at h
        next =>
          split at h
          next => cases h
          next =>
            cases h
            trivial
        next =>
          split at h
          next hreal =>
            cases h
            exact numberToken_realOf hreal
          next => cases h

/-- A number is what was made of its digits, whatever text was left. -/
private theorem eq_ok_of_map {r : Except ReadError Token}
    (h : r.map (·, bytes) = .ok (token, rest)) :
    r = .ok token := by
  obtain ⟨token', hr, heq⟩ := exists_of_map_eq_ok h
  cases heq
  exact hr

private theorem numberToken_readAfterFraction
    (h : readAfterFraction negative significand places bytes = .ok (token, rest)) :
    NumberToken token := by
  unfold readAfterFraction at h
  split at h
  · split at h
    · exact numberToken_readExponent h
    · exact numberToken_realOf (eq_ok_of_map h)
  · exact numberToken_realOf (eq_ok_of_map h)

private theorem numberToken_readFraction
    (h : readFraction negative significand places bytes = .ok (token, rest)) :
    NumberToken token := by
  unfold readFraction at h
  dsimp only at h
  split at h
  · cases h
  · cases h
  · exact numberToken_readAfterFraction h

private theorem numberToken_readAfterWhole (hle : significand ≤ largestSignificand)
    (h : readAfterWhole negative significand dropped bytes = .ok (token, rest)) :
    NumberToken token := by
  -- the number may end with its whole part
  have hplain : (if dropped = 0 then wholeOf negative significand
      else realOf negative significand dropped) = .ok token → NumberToken token := by
    split
    · exact numberToken_wholeOf hle
    · exact numberToken_realOf
  unfold readAfterWhole at h
  dsimp only at h
  split at h
  · split at h
    · exact numberToken_readFraction h
    split at h
    · exact numberToken_readExponent h
    · exact hplain (eq_ok_of_map h)
  · exact hplain (eq_ok_of_map h)

/-- What is read as a number is a token of one. -/
private theorem numberToken_readNumber (h : readNumber negative bytes = .ok (token, rest)) :
    NumberToken token := by
  unfold readNumber at h
  split at h
  · cases h
  split at h
  · split at h
    · split at h
      · cases h
      · exact numberToken_readAfterWhole (by decide) h
    · exact numberToken_readAfterWhole (by decide) h
  split at h
  · exact numberToken_readAfterWhole (gatherDigits_le _ _ _ (by decide)) h
  · cases h

end

/-- A whole number that has been read fits 64 bits. -/
private theorem fits_of_readToken {size : Nat} {bytes rest : Bytes} {i : Int}
    (h : readToken size bytes = .ok (.integer i, rest)) : Fits i := by
  unfold readToken at h
  split at h
  · cases h
  split at h
  · obtain ⟨_, _, heq⟩ := exists_of_map_eq_ok h
    cases heq
  split at h
  · cases h
  split at h
  · cases h
  split at h
  · exact numberToken_readNumber h
  split at h
  · exact numberToken_readNumber h
  -- the words
  repeat
    split at h
    · obtain ⟨_, _, heq⟩ := exists_of_map_eq_ok h
      cases heq
  · cases h

/-- Every item that has been read comes from the reader of one item. -/
private theorem forall_of_readItems {α : Type} {item : Bytes → Except ReadError (α × Bytes)}
    {p : α → Prop}
    (hitem : ∀ bytes a rest, item bytes = .ok (a, rest) → p a) {size : Nat} :
    ∀ {done : List α} {bytes rest : Bytes} {items : List α}, (∀ a ∈ done, p a) →
      readItems item size done bytes = .ok (items, rest) → ∀ a ∈ items, p a := by
  induction size with
  | zero =>
    intro done bytes rest items _ h
    cases h
  | succ size ih =>
    intro done bytes rest items hdone h
    rw [readItems] at h
    split at h
    next => cases h
    next =>
      cases h
      -- the list is at its end: what has been read is turned around
      exact fun a ha => hdone a (List.mem_reverse.mp ha)
    next =>
      split at h
      next a _ ha => exact ih (List.forall_mem_cons.mpr ⟨hitem _ _ _ ha, hdone⟩) h
      next => cases h

/-- The value of every member that has been read comes from the reader of one value. -/
private theorem forall_of_readMembers {value : Bytes → Except ReadError (Value × Bytes)}
    {p : Value → Prop}
    (hvalue : ∀ bytes v rest, value bytes = .ok (v, rest) → p v) {bound size : Nat} :
    ∀ {done : List Member} {bytes rest : Bytes} {members : List Member}, (∀ m ∈ done, p m.2) →
      readMembers value bound size done bytes = .ok (members, rest) → ∀ m ∈ members, p m.2 := by
  induction size with
  | zero =>
    intro done bytes rest members _ h
    cases h
  | succ size ih =>
    intro done bytes rest members hdone h
    rw [readMembers] at h
    split at h
    next => cases h
    next =>
      cases h
      exact fun m hm => hdone m (List.mem_reverse.mp hm)
    next =>
      dsimp only at h
      split at h
      next m _ hm =>
        refine ih (List.forall_mem_cons.mpr ⟨?_, hdone⟩) h
        -- a member is read as its key, a colon and its value
        obtain ⟨_, _, hm⟩ := exists_of_bind_eq_ok hm
        obtain ⟨_, _, hm⟩ := exists_of_bind_eq_ok hm
        obtain ⟨_, hv, hm⟩ := exists_of_bind_eq_ok hm
        cases hm
        exact hvalue _ _ _ hv
      next => cases h

/-- A value that has been read is canonical, and nests no more containers than could be opened. -/
theorem canonical_of_read {depth size : Nat} :
    ∀ {bytes rest : Bytes} {v : Value}, Value.read depth size bytes = .ok (v, rest) →
      v.Canonical ∧ v.depth ≤ depth := by
  -- the items and members of a container are read with one container fewer to open
  induction depth using Nat.strongRecOn with
  | _ depth ih =>
    intro bytes rest v h
    rw [Value.read] at h
    obtain ⟨⟨token, rest'⟩, htoken, h⟩ := exists_of_bind_eq_ok h
    cases token with
    | null => cases h; exact ⟨.null, Nat.zero_le _⟩
    | boolean b => cases h; exact ⟨.boolean b, Nat.zero_le _⟩
    | integer i => cases h; exact ⟨.integer (fits_of_readToken htoken), Nat.zero_le _⟩
    | real x => cases h; exact ⟨.real x, Nat.zero_le _⟩
    | string s => cases h; exact ⟨.string s, Nat.zero_le _⟩
    | list =>
      cases depth with
      | zero => cases h
      | succ depth =>
        obtain ⟨⟨items, _⟩, hitems, heq⟩ := exists_of_map_eq_ok h
        cases heq
        have hall := forall_of_readItems (fun _ _ _ hv => ih depth (Nat.lt_succ_self _) hv)
          (List.forall_mem_nil fun v : Value => v.Canonical ∧ v.depth ≤ depth) hitems
        refine ⟨.list fun v hv => (hall v hv).1, ?_⟩
        rw [Value.depth, Nat.succ_le_succ_iff, Value.depthItems_le_iff]
        exact fun v hv => (hall v hv).2
    | object =>
      cases depth with
      | zero => cases h
      | succ depth =>
        obtain ⟨⟨members, _⟩, hmembers, heq⟩ := exists_of_map_eq_ok h
        cases heq
        have hall := forall_of_readMembers (p := fun v => v.Canonical ∧ v.depth ≤ depth)
          (fun _ _ _ hv => ih depth (Nat.lt_succ_self _) hv) (fun _ hm => by cases hm) hmembers
        have hsorted : ∀ m ∈ sortMembers members, m.2.Canonical ∧ m.2.depth ≤ depth :=
          fun m hm => hall m (mem_of_mem_sortMembers hm)
        refine ⟨.object (ordered_sortMembers members) fun m hm => (hsorted m hm).1, ?_⟩
        rw [Value.depth, Nat.succ_le_succ_iff, Value.depthMembers_le_iff]
        exact fun m hm => (hsorted m hm).2

/-- A whole text is read if a value is read from its front and nothing but blanks is left. -/
theorem readBytes_eq_ok_iff {α : Type} {reader : Reader α} {bytes : Bytes} {a : α} :
    readBytes reader bytes = .ok a ↔
      ∃ rest, reader maxDepth bytes.length bytes = .ok (a, rest) ∧ skipBlank rest = [] := by
  unfold readBytes
  cases reader maxDepth bytes.length bytes with
  | error e => simp
  | ok result =>
    obtain ⟨b, rest⟩ := result
    dsimp only
    split
    next hblank => simp [hblank]
    next hmore =>
      constructor
      · intro h
        cases h
      · rintro ⟨_, heq, hblank⟩
        cases heq
        exact absurd hblank hmore

/-- What is read of a whole text is read from its start, and with all containers to open. -/
theorem exists_read_of_readBytes {α : Type} {reader : Reader α} {bytes : Bytes} {a : α}
    (h : readBytes reader bytes = .ok a) :
    ∃ rest, reader maxDepth bytes.length bytes = .ok (a, rest) := by
  obtain ⟨rest, hread, _⟩ := readBytes_eq_ok_iff.mp h
  exact ⟨rest, hread⟩

end ServiceBroker.Json
