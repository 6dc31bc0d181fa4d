import ServiceBroker.Proofs.Json.Canonical

/-!
# Printing and reading

## Main definitions

* `ReadsAs`: what a reader makes of a value that was printed;
* `Value.reread`: what becomes of free-form data that is printed and read.

## Main results

* `readBytes_print`: how a whole text is read;
* `Value.readsAs`: free-form data is read as `Value.reread` says;
* `Value.reread_eq_ok_self_iff`: it stays as it is if and only if it nests no more containers than
  can be opened and each of its floating-point numbers stays as it is;
* `Value.exists_reread_iff`: it can be read at all if and only if it nests no more containers than
  can be opened and each of its floating-point numbers can be read;
* `Value.reread_eq_ite`: if each of its floating-point numbers stays as it is, the number of
  containers alone decides.
-/

namespace ServiceBroker.Json

open Ascii

variable {α β : Type}

/-- What a reader makes of the text of a value, whatever follows. -/
def ReadsAs (reader : Reader α) (depth : Nat) (v : Value) (result : Except ReadError α) : Prop :=
  ∀ size rest, Ends rest → (v.text ++ rest).length ≤ size →
    reader depth size (v.text ++ rest) = result.map (·, rest)

/-- How a whole text is read. -/
theorem readBytes_print {reader : Reader α} {v : Value} {result : Except ReadError α}
    (h : ReadsAs reader maxDepth v result) : readBytes reader v.print = result := by
  have hread := h v.text.length [] ends_nil (Nat.le_of_eq (congrArg _ (List.append_nil _)))
  rw [List.append_nil] at hread
  rw [readBytes, Value.print_eq, hread]
  cases result <;> rfl

/-! ## Starts -/

/-- A byte that starts a value is neither blank nor the end of a container. -/
def Starts (b : UInt8) : Prop := isBlank b = false ∧ b ≠ closeBracket ∧ b ≠ closeBrace

instance (b : UInt8) : Decidable (Starts b) :=
  inferInstanceAs (Decidable (isBlank b = false ∧ b ≠ closeBracket ∧ b ≠ closeBrace))

/-- A number may start with a digit. -/
theorem starts_of_isDigit {b : UInt8} (h : isDigit b) : Starts b := by
  refine ⟨(digit_starts h).1, ?_, ?_⟩
  · rintro rfl
    cases h
  · rintro rfl
    cases h

private theorem exists_starts_of_isReal {text : Bytes} (h : IsReal text) :
    ∃ b rest, text = b :: rest ∧ Starts b := by
  obtain ⟨digits, more, rfl, hdigits, _⟩ := h
  obtain ⟨b, rest, rfl, hb⟩ := hdigits.exists_cons
  exact ⟨b, rest ++ more, rfl, starts_of_isDigit hb⟩

/-- The text of a value starts with a byte that starts a value. -/
theorem Value.exists_starts (v : Value) : ∃ b rest, v.text = b :: rest ∧ Starts b := by
  have hminus : Starts minus := by decide
  cases v with
  | null => exact ⟨_, _, rfl, by decide⟩
  | boolean b => cases b <;> exact ⟨_, _, rfl, by decide⟩
  | integer i =>
    rw [text, ofString_toString_int]
    split
    · exact ⟨minus, _, rfl, hminus⟩
    · obtain ⟨b, rest, hdigits, hb⟩ := (isWhole_digitBytes i.natAbs).exists_cons
      exact ⟨b, rest, hdigits, starts_of_isDigit hb⟩
  | real x =>
    obtain ⟨real, hreal, htext⟩ := ofString_text x
    rw [text, htext]
    split
    · exact ⟨minus, _, rfl, hminus⟩
    · exact exists_starts_of_isReal hreal
  | string s => exact ⟨_, _, rfl, by decide⟩
  | list items => exact ⟨_, _, rfl, by decide⟩
  | object members => exact ⟨_, _, rfl, by decide⟩

/-! ## Lists -/

private theorem ends_itemsText (items : List Value) (rest : Bytes) :
    Ends (Value.itemsText false items ++ closeBracket :: rest) := by
  cases items with
  | nil => exact ends_cons (by simp) _
  | cons v vs => exact ends_cons (by simp) _

theorem readToken_openBracket (size : Nat) (rest : Bytes) :
    readToken size (openBracket :: rest) = .ok (.list, rest) := rfl

private theorem nextItem_end (first : Bool) (rest : Bytes) :
    nextItem first (closeBracket :: rest) = .ok (false, rest) := rfl

/-- A further item is found behind its comma. -/
private theorem nextItem_text (first : Bool) (v : Value) (rest : Bytes) :
    nextItem first (separator first ++ (v.text ++ rest)) = .ok (true, v.text ++ rest) := by
  obtain ⟨b, more, hv, hblank, hbracket, _⟩ := v.exists_starts
  rw [hv, List.cons_append]
  cases first with
  | true =>
    rw [separator, if_pos rfl, List.nil_append, nextItem, skipBlank_cons hblank]
    simp only [if_neg hbracket, if_true]
  | false =>
    rw [separator, if_neg Bool.false_ne_true, List.singleton_append, nextItem,
      skipBlank_cons (by decide)]
    simp only [skipBlank_cons hblank, if_neg hbracket]
    rfl

/-- The items of a list are read one by one. -/
theorem readItems_text {item : Bytes → Except ReadError (α × Bytes)} {print : β → Value}
    {f : β → Except ReadError α} {bound : Nat} {bs : List β} :
    (∀ b ∈ bs, ∀ rest, Ends rest → ((print b).text ++ rest).length ≤ bound →
      item ((print b).text ++ rest) = (f b).map (·, rest)) →
    ∀ (size : Nat) (done : List α) (rest : Bytes),
      (Value.itemsText done.isEmpty (bs.map print) ++ closeBracket :: rest).length ≤ bound →
      (Value.itemsText done.isEmpty (bs.map print) ++ closeBracket :: rest).length ≤ size →
      readItems item size done
          (Value.itemsText done.isEmpty (bs.map print) ++ closeBracket :: rest) =
        (bs.mapM f).map fun as => (done.reverse ++ as, rest) := by
  -- the induction is on the items, over any items read before them
  induction bs with
  | nil =>
    intro _ size done rest _ hsize
    rw [List.map_nil, Value.itemsText, List.nil_append] at hsize ⊢
    cases size with
    | zero => cases hsize
    | succ size =>
      rw [readItems, nextItem_end, List.mapM_nil]
      simp [pure, Except.pure, Except.map]
  | cons b bs ih =>
    intro hitem size done rest hbound hsize
    rw [List.map_cons, Value.itemsText, List.append_assoc, List.append_assoc] at hbound hsize ⊢
    have hpos : 0 < (print b).text.length := by
      obtain ⟨c, more, hv, _⟩ := (print b).exists_starts
      simp [hv]
    simp only [List.length_append] at hbound hsize
    cases size with
    | zero => omega
    | succ size =>
      have hb := hitem b (List.mem_cons_self ..) _ (ends_itemsText (bs.map print) rest)
        (by simp only [List.length_append]; omega)
      rw [readItems, nextItem_text]
      simp only [hb, List.mapM_cons]
      cases f b with
      | error e => rfl
      | ok a =>
        have hrest := ih (fun c hc => hitem c (List.mem_cons_of_mem _ hc)) size (a :: done) rest
          (by simp only [List.isEmpty_cons, List.length_append]; omega)
          (by simp only [List.isEmpty_cons, List.length_append]; omega)
        rw [List.isEmpty_cons] at hrest
        simp only [Except.map, hrest]
        cases bs.mapM f with
        | error e => rfl
        | ok as => simp [bind, Except.bind, pure, Except.pure]

/-! ## Objects -/

theorem readToken_openBrace (size : Nat) (rest : Bytes) :
    readToken size (openBrace :: rest) = .ok (.object, rest) := rfl

theorem nextMember_end (first : Bool) (rest : Bytes) :
    nextMember first (closeBrace :: rest) = .ok (false, rest) := rfl

theorem nextMember_text (first : Bool) (key : String) (rest : Bytes) :
    nextMember first (separator first ++ (stringText key ++ rest)) =
      .ok (true, escape (Bytes.ofString key) ++ quote :: rest) := by
  rw [stringText_append]
  cases first <;> rfl

/-- Behind a member the next one follows, or the end of the object. -/
theorem ends_membersText (members : List Member) (rest : Bytes) :
    Ends (Value.membersText false members ++ closeBrace :: rest) := by
  cases members with
  | nil => exact ends_cons (by simp) _
  | cons m ms => exact ends_cons (by simp) _

theorem membersText_cons_append (first : Bool) (key : String) (v : Value) (members : List Member)
    (rest : Bytes) :
    Value.membersText first ((key, v) :: members) ++ closeBrace :: rest =
      separator first ++ (stringText key ++ colon ::
        (v.text ++ (Value.membersText false members ++ closeBrace :: rest))) := by
  rw [Value.membersText, Value.memberText, List.append_assoc, List.append_assoc,
    List.append_assoc, List.cons_append]

theorem length_lt_memberText (first : Bool) (key : String) (rest : Bytes) :
    rest.length < (separator first ++ (stringText key ++ colon :: rest)).length := by
  simp only [List.length_append, List.length_cons]
  omega

/-- The key of a member is read back from its escaped text, up to the colon. -/
theorem readChars_memberText {bound : Nat} {first : Bool} {key : String} {rest : Bytes}
    (hbound : (separator first ++ (stringText key ++ colon :: rest)).length ≤ bound) :
    readChars bound [] (escape (Bytes.ofString key) ++ quote :: colon :: rest) =
      .ok (key, colon :: rest) := by
  simp only [List.length_append, List.length_cons, stringText] at hbound
  exact readChars_escape key _ (by omega)

theorem readColon_cons (rest : Bytes) : readColon (colon :: rest) = .ok rest := rfl

/-- A function of values at work on the value of a member. -/
def onValue (f : Value → Except ReadError Value) (m : Member) : Except ReadError Member :=
  (f m.2).map (m.1, ·)

theorem onValue_mk (f : Value → Except ReadError Value) (key : String) (v : Value) :
    onValue f (key, v) = (f v).map (key, ·) := rfl

/-- The members of an object are read one by one. -/
theorem readMembers_text {value : Bytes → Except ReadError (Value × Bytes)}
    {f : Value → Except ReadError Value} {bound : Nat} {members : List Member} :
    (∀ m ∈ members, ∀ rest, Ends rest → (m.2.text ++ rest).length ≤ bound →
      value (m.2.text ++ rest) = (f m.2).map (·, rest)) →
    ∀ (size : Nat) (done : List Member) (rest : Bytes),
      (Value.membersText done.isEmpty members ++ closeBrace :: rest).length ≤ bound →
      (Value.membersText done.isEmpty members ++ closeBrace :: rest).length ≤ size →
      readMembers value bound size done
          (Value.membersText done.isEmpty members ++ closeBrace :: rest) =
        (members.mapM (onValue f)).map fun ms => (done.reverse ++ ms, rest) := by
  -- the induction is on the members, over any members read before them
  induction members with
  | nil =>
    intro _ size done rest _ hsize
    rw [Value.membersText, List.nil_append] at hsize ⊢
    cases size with
    | zero => cases hsize
    | succ size =>
      rw [readMembers, nextMember_end, List.mapM_nil]
      simp [pure, Except.pure, Except.map]
  | cons m ms ih =>
    intro hvalue size done rest hbound hsize
    obtain ⟨key, v⟩ := m
    rw [membersText_cons_append] at hbound hsize ⊢
    have hkey := readChars_memberText hbound
    replace hbound := Nat.lt_of_lt_of_le (length_lt_memberText ..) hbound
    replace hsize := Nat.lt_of_lt_of_le (length_lt_memberText ..) hsize
    cases size with
    | zero => cases hsize
    | succ size =>
      have hv := hvalue (key, v) (List.mem_cons_self ..) _ (ends_membersText ms rest)
        (Nat.le_of_lt hbound)
      rw [List.length_append] at hbound hsize
      rw [readMembers, nextMember_text]
      simp only [hkey, readColon_cons, hv, bind, Except.bind, pure, Except.pure, List.mapM_cons,
        onValue_mk]
      cases f v with
      | error e => rfl
      | ok w =>
        have hrest := ih (fun n hn => hvalue n (List.mem_cons_of_mem _ hn)) size ((key, w) :: done)
          rest (by rw [List.isEmpty_cons]; omega) (by rw [List.isEmpty_cons]; omega)
        rw [List.isEmpty_cons] at hrest
        simp only [Except.map, hrest]
        cases ms.mapM (onValue f) with
        | error e => rfl
        | ok ms => simp

/-! ## Free-form data -/

/-- What becomes of free-form data that is printed and read when so many containers can be
opened. -/
def Value.reread : (depth : Nat) → Value → Except ReadError Value
  | depth, v =>
    match v with
    | .null => .ok .null
    | .boolean b => .ok (.boolean b)
    | .integer i => .ok (.integer i)
    | .real x => (Json.reread x).map .real
    | .string s => .ok (.string s)
    | .list items =>
      match depth with
      | 0 => .error (.grammar .recursionLimit)
      | depth + 1 => (items.mapM (Value.reread depth)).map .list
    | .object members =>
      match depth with
      | 0 => .error (.grammar .recursionLimit)
      | depth + 1 => (members.mapM (onValue (Value.reread depth))).map .object
termination_by structural depth => depth

/-- A string is read back, whatever its characters are. -/
theorem readToken_string (s : String) (rest : Bytes) {size : Nat}
    (hsize : (stringText s ++ rest).length ≤ size) :
    readToken size (stringText s ++ rest) = .ok (.string s, rest) := by
  rw [stringText_append] at hsize ⊢
  simp only [List.length_cons, List.length_append] at hsize
  rw [readToken, skipBlank_cons (by decide)]
  simp only [if_true, readChars_escape s rest (show _ < size by omega)]
  rfl

/-- The keys stay when values are read again. -/
private theorem keys_of_mapM_onValue {f : Value → Except ReadError Value} {members : List Member} :
    ∀ {ms : List Member}, members.mapM (onValue f) = .ok ms →
      ms.map (·.1) = members.map (·.1) := by
  induction members with
  | nil =>
    intro ms h
    cases h
    rfl
  | cons m members ih =>
    intro ms h
    rw [List.mapM_cons] at h
    obtain ⟨n, hn, h⟩ := exists_of_bind_eq_ok h
    obtain ⟨ns, hns, h⟩ := exists_of_bind_eq_ok h
    obtain ⟨v, _, hv⟩ := exists_of_map_eq_ok hn
    cases h
    rw [List.map_cons, List.map_cons, ih hns, ← hv]

private theorem Ordered.of_keys {members ms : List Member} (h : Ordered members)
    (hkeys : ms.map (·.1) = members.map (·.1)) : Ordered ms := by
  have hpairwise : (members.map (·.1)).Pairwise fun a b => compare a b = .lt :=
    List.pairwise_map.mpr h
  rw [← hkeys] at hpairwise
  exact List.pairwise_map.mp hpairwise

/-- Free-form data is read as `Value.reread` says. -/
theorem Value.readsAs {depth : Nat} : ∀ {v : Value}, v.Canonical →
    ReadsAs Value.read depth v (v.reread depth) := by
  -- the items and members of a container are read with one container fewer to open
  induction depth using Nat.strongRecOn with
  | _ depth ih =>
    intro v hv size rest hrest hsize
    rw [Value.read]
    unfold Value.reread
    cases hv with
    | null => rfl
    | boolean b => cases b <;> rfl
    | integer hi =>
      rw [Value.text, readToken_integer hi size hrest]
      rfl
    | real x =>
      rw [Value.text, readToken_real x size hrest]
      dsimp only
      cases Json.reread x <;> rfl
    | string s =>
      rw [Value.text, readToken_string s rest hsize]
      rfl
    | @list items hitems =>
      rw [text_list_append] at hsize ⊢
      rw [readToken_openBracket]
      cases depth with
      | zero => rfl
      | succ depth =>
        rw [← List.map_id items] at hsize ⊢
        have hread : readItems (Value.read depth size) size []
            (itemsText true (items.map id) ++ closeBracket :: rest) =
            (items.mapM (Value.reread depth)).map fun items => (items, rest) :=
          readItems_text (fun v hv rest hrest hle =>
            ih depth (Nat.lt_succ_self _) (hitems v hv) size rest hrest hle)
            size [] rest (Nat.le_of_succ_le hsize) (Nat.le_of_succ_le hsize)
        rw [List.map_id] at hread ⊢
        simp only [bind, Except.bind, hread]
        cases items.mapM (Value.reread depth) <;> rfl
    | @object members hordered hmembers =>
      rw [text_object_append] at hsize ⊢
      rw [readToken_openBrace]
      cases depth with
      | zero => rfl
      | succ depth =>
        have hread : readMembers (Value.read depth size) size size []
            (membersText true members ++ closeBrace :: rest) =
            (members.mapM (onValue (Value.reread depth))).map fun members => (members, rest) :=
          readMembers_text (fun m hm rest hrest hle =>
            ih depth (Nat.lt_succ_self _) (hmembers m hm) size rest hrest hle)
            size [] rest (Nat.le_of_succ_le hsize) (Nat.le_of_succ_le hsize)
        simp only [bind, Except.bind, hread]
        cases hms : members.mapM (onValue (Value.reread depth)) with
        | error e => rfl
        | ok ms =>
          -- the keys are in order still, so that sorting the members changes nothing
          have hsort := sortMembers_eq (hordered.of_keys (keys_of_mapM_onValue hms))
          simp only [Except.map, hsort]

/-! ## What stays as it is -/

theorem mapM_eq_ok_self_iff {ε β : Type} {f : β → Except ε β} {bs : List β} :
    bs.mapM f = .ok bs ↔ ∀ b ∈ bs, f b = .ok b := by
  induction bs with
  | nil => simp [pure, Except.pure]
  | cons b bs ih =>
    rw [List.mapM_cons, List.forall_mem_cons, ← ih]
    constructor
    · intro h
      obtain ⟨c, hc, h⟩ := exists_of_bind_eq_ok h
      obtain ⟨cs, hcs, h⟩ := exists_of_bind_eq_ok h
      cases h
      exact ⟨hc, hcs⟩
    · rintro ⟨hb, hbs⟩
      rw [hb, hbs]
      rfl

theorem onValue_eq_ok_self_iff {f : Value → Except ReadError Value} {m : Member} :
    onValue f m = .ok m ↔ f m.2 = .ok m.2 := by
  obtain ⟨key, v⟩ := m
  rw [onValue_mk]
  cases f v with
  | error e => simp [Except.map]
  | ok w => simp [Except.map]

theorem map_eq_ok_iff {ε β γ : Type} {f : β → γ} (hf : ∀ b c, f b = f c → b = c) {r : Except ε β}
    {b : β} : r.map f = .ok (f b) ↔ r = .ok b := by
  cases r with
  | error e => simp [Except.map]
  | ok c => simpa [Except.map] using ⟨hf c b, congrArg f⟩

/-- Free-form data stays as it is if and only if it nests no more containers than can be opened and
each of its floating-point numbers stays as it is. -/
theorem Value.reread_eq_ok_self_iff {depth : Nat} : ∀ {v : Value},
    v.reread depth = .ok v ↔ v.depth ≤ depth ∧ ∀ x ∈ v.reals, Json.reread x = .ok x := by
  induction depth using Nat.strongRecOn with
  | _ depth ih =>
    intro v
    unfold Value.reread
    cases v with
    | null | boolean | integer | string => simp [Value.depth, Value.reals]
    | real x =>
      rw [map_eq_ok_iff fun _ _ => Value.real.inj]
      simp [Value.depth, Value.reals]
    | list items =>
      -- a container takes one of the depth, and all of it is left to each of its items
      cases depth with
      | zero => simp [Value.depth]
      | succ depth =>
        rw [map_eq_ok_iff fun _ _ => Value.list.inj, mapM_eq_ok_self_iff, Value.depth,
          Nat.succ_le_succ_iff, Value.reals, ← forall_items_iff]
        simp only [ih depth (Nat.lt_succ_self _)]
    | object members =>
      cases depth with
      | zero => simp [Value.depth]
      | succ depth =>
        rw [map_eq_ok_iff fun _ _ => Value.object.inj, mapM_eq_ok_self_iff, Value.depth,
          Nat.succ_le_succ_iff, Value.reals, ← forall_members_iff]
        simp only [onValue_eq_ok_self_iff, ih depth (Nat.lt_succ_self _)]

/-! ## What can be read at all -/

theorem exists_mapM_eq_ok_iff {ε β γ : Type} {f : β → Except ε γ} {bs : List β} :
    (∃ cs, bs.mapM f = .ok cs) ↔ ∀ b ∈ bs, ∃ c, f b = .ok c := by
  induction bs with
  | nil => simp [pure, Except.pure]
  | cons b bs ih =>
    rw [List.mapM_cons, List.forall_mem_cons, ← ih]
    constructor
    · rintro ⟨_, h⟩
      obtain ⟨c, hc, h⟩ := exists_of_bind_eq_ok h
      obtain ⟨cs, hcs, _⟩ := exists_of_bind_eq_ok h
      exact ⟨⟨c, hc⟩, cs, hcs⟩
    · rintro ⟨⟨c, hc⟩, cs, hcs⟩
      refine ⟨c :: cs, ?_⟩
      rw [hc, hcs]
      rfl

theorem exists_map_eq_ok_iff {ε β γ : Type} {f : β → γ} {r : Except ε β} :
    (∃ c, r.map f = .ok c) ↔ ∃ b, r = .ok b := by
  cases r with
  | error e => simp [Except.map]
  | ok b => simp [Except.map]

theorem exists_onValue_eq_ok_iff {f : Value → Except ReadError Value} {m : Member} :
    (∃ n, onValue f m = .ok n) ↔ ∃ w, f m.2 = .ok w :=
  exists_map_eq_ok_iff

/-- Free-form data can be read if and only if it nests no more containers than can be opened and
each of its floating-point numbers can be read. -/
theorem Value.exists_reread_iff {depth : Nat} : ∀ {v : Value},
    (∃ w, v.reread depth = .ok w) ↔
      v.depth ≤ depth ∧ ∀ x ∈ v.reals, ∃ y, Json.reread x = .ok y := by
  induction depth using Nat.strongRecOn with
  | _ depth ih =>
    intro v
    unfold Value.reread
    cases v with
    | null | boolean | integer | string => simp [Value.depth, Value.reals]
    | real x =>
      rw [exists_map_eq_ok_iff]
      simp [Value.depth, Value.reals]
    | list items =>
      -- no container can be opened at depth zero
      cases depth with
      | zero => simp [Value.depth]
      | succ depth =>
        rw [exists_map_eq_ok_iff, exists_mapM_eq_ok_iff, Value.depth, Nat.succ_le_succ_iff,
          Value.reals, ← forall_items_iff]
        simp only [ih depth (Nat.lt_succ_self _)]
    | object members =>
      cases depth with
      | zero => simp [Value.depth]
      | succ depth =>
        rw [exists_map_eq_ok_iff, exists_mapM_eq_ok_iff, Value.depth, Nat.succ_le_succ_iff,
          Value.reals, ← forall_members_iff]
        simp only [exists_onValue_eq_ok_iff, ih depth (Nat.lt_succ_self _)]

/-! ## Where no number is lost -/

/-- If each item is kept or refused, and always for one reason, so is the list. -/
theorem mapM_eq_ite {ε β : Type} {f : β → Except ε β} {p : β → Prop} [DecidablePred p] {e : ε}
    {bs : List β} (h : ∀ b ∈ bs, f b = if p b then .ok b else .error e) :
    bs.mapM f = if ∀ b ∈ bs, p b then .ok bs else .error e := by
  induction bs with
  | nil => simp [pure, Except.pure]
  | cons b bs ih =>
    obtain ⟨hb, hbs⟩ := List.forall_mem_cons.mp h
    rw [List.mapM_cons, hb, ih hbs]
    by_cases hkept : p b
    · by_cases hrest : ∀ b ∈ bs, p b
      · rw [if_pos hkept, if_pos hrest, if_pos (List.forall_mem_cons.mpr ⟨hkept, hrest⟩)]
        rfl
      · rw [if_pos hkept, if_neg hrest, if_neg fun hall => hrest (List.forall_mem_cons.mp hall).2]
        rfl
    · rw [if_neg hkept, if_neg fun hall => hkept (List.forall_mem_cons.mp hall).1]
      rfl

private theorem onValue_eq_ite {f : Value → Except ReadError Value} {m : Member} {p : Prop}
    [Decidable p]
    {e : ReadError} (h : f m.2 = if p then .ok m.2 else .error e) :
    onValue f m = if p then .ok m else .error e := by
  rw [onValue, h]
  split <;> rfl

/-- Free-form data whose floating-point numbers stay as they are stays as it is, or nests too many
containers. -/
theorem Value.reread_eq_ite {depth : Nat} :
    ∀ {v : Value}, (∀ x ∈ v.reals, Json.reread x = .ok x) →
      v.reread depth = if v.depth ≤ depth then .ok v else .error (.grammar .recursionLimit) := by
  induction depth using Nat.strongRecOn with
  | _ depth ih =>
    intro v hreals
    unfold Value.reread
    cases v with
    | null | boolean | integer | string => simp [Value.depth]
    | real x =>
      have hx : Json.reread x = .ok x := hreals x (List.mem_singleton_self x)
      simp [Value.depth, hx, Except.map]
    | list items =>
      cases depth with
      | zero => simp [Value.depth]
      | succ depth =>
        -- the floating-point numbers of an item are some of those of the list
        have hitems := mapM_eq_ite fun v hv => ih depth (Nat.lt_succ_self _)
          fun x hx => hreals x (mem_realsItems.mpr ⟨v, hv, hx⟩)
        simp only [hitems, Value.depth, Nat.succ_le_succ_iff, depthItems_le_iff]
        split <;> rfl
    | object members =>
      cases depth with
      | zero => simp [Value.depth]
      | succ depth =>
        have hmembers := mapM_eq_ite fun m hm => onValue_eq_ite (ih depth (Nat.lt_succ_self _)
          fun x hx => hreals x (mem_realsMembers.mpr ⟨m, hm, hx⟩))
        simp only [hmembers, Value.depth, Nat.succ_le_succ_iff, depthMembers_le_iff]
        split <;> rfl

end ServiceBroker.Json
