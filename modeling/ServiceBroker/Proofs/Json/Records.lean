import ServiceBroker.Json.Record
import ServiceBroker.Proofs.Json.Reread

/-!
# Printed records

What a record reader makes of an object that was printed, member by member. A record whose fields
read what was printed of them back is itself read back.

## Main definitions

* `FillsAs`: what the members of a printed object make of a draft;
* `Field.Keeps`: a property of drafts that a field keeps.

## Main results

* `ReadsAs.string`, `ReadsAs.parsed`, `ReadsAs.nat`, `ReadsAs.list`: strings, texts that are
  understood, numbers and lists are read back;
* `FillsAs.nil`, `FillsAs.cons`: the members of an object are read one by one;
* `Record.readsAs`: a record is made of the draft that the members leave;
* `Record.exists_draft_of_read`: what every field keeps holds of the draft of a record.
-/

namespace ServiceBroker.Json

open Ascii

variable {α δ : Type} {depth : Nat}

/-! ## Strings, numbers and lists -/

theorem ReadsAs.string (expected s : String) :
    ReadsAs (readStringAs expected) depth (.string s) (.ok s) := by
  intro size rest _ hsize
  have htoken : readToken size ((Value.string s).text ++ rest) = .ok (.string s, rest) := by
    rw [Value.text] at hsize ⊢
    exact readToken_string s rest hsize
  rw [readStringAs, htoken]
  rfl

/-- A text is read back if it is understood. -/
theorem ReadsAs.parsed {expected s : String} {parse : String → Option α}
    {refuse : String → Mismatch} {a : α} (h : parse s = some a) :
    ReadsAs (readParsed expected parse refuse) depth (.string s) (.ok a) := by
  intro size rest hrest hsize
  rw [readParsed, ReadsAs.string expected s size rest hrest hsize]
  simp only [bind, Except.bind, Except.map, h]

/-- A natural number of 64 bits is read back if it is no larger than asked for. -/
theorem ReadsAs.nat {largest n : Nat} (hn : n ≤ largest) (hlargest : largest ≤ 0xffffffffffffffff)
    (expected : String) : ReadsAs (readNat largest expected) depth (.integer n) (.ok n) := by
  intro size rest hrest _
  have hfits : Fits n := by
    unfold Fits
    omega
  have hasked : 0 ≤ (n : Int) ∧ (n : Int) ≤ largest := ⟨Int.natCast_nonneg n, Int.ofNat_le.mpr hn⟩
  have htoken : readToken size ((Value.integer n).text ++ rest) = .ok (.integer n, rest) :=
    readToken_integer hfits size hrest
  rw [readNat, htoken]
  exact if_pos hasked

/-- A number that has been read is no larger than asked for. -/
theorem le_of_readNat {largest size n : Nat} {expected : String} {bytes rest : Bytes}
    (h : readNat largest expected depth size bytes = .ok (n, rest)) : n ≤ largest := by
  unfold readNat at h
  obtain ⟨_, _, h⟩ := exists_of_bind_eq_ok h
  split at h
  next =>
    split at h
    next hasked =>
      cases h
      omega
    next => cases h
  next => cases h

/-- A list is read item by item. -/
theorem ReadsAs.list {β : Type} {item : Reader α} {print : β → Value} {bs : List β}
    {f : β → Except ReadError α} (h : ∀ b ∈ bs, ReadsAs item depth (print b) (f b)) :
    ReadsAs (readList item) (depth + 1) (.list (bs.map print)) (bs.mapM f) := by
  intro size rest hrest hsize
  rw [Value.text_list_append] at hsize ⊢
  have hread : readItems (item depth size) size []
      (Value.itemsText true (bs.map print) ++ closeBracket :: rest) =
      (bs.mapM f).map fun as => (as, rest) :=
    readItems_text (fun b hb rest hrest hle => h b hb size rest hrest hle) size [] rest
      (Nat.le_of_succ_le hsize) (Nat.le_of_succ_le hsize)
  rw [readList, readToken_openBracket]
  exact hread

/-- A list is read back if its items are. -/
theorem ReadsAs.list_self {item : Reader α} {print : α → Value} {as : List α}
    (h : ∀ a ∈ as, ReadsAs item depth (print a) (.ok a)) :
    ReadsAs (readList item) (depth + 1) (.list (as.map print)) (.ok as) := by
  have hself : as.mapM (fun a => (.ok a : Except ReadError α)) = .ok as :=
    mapM_eq_ok_self_iff.mpr fun _ _ => rfl
  exact hself ▸ ReadsAs.list h

/-! ## Members -/

/-- What the members of a printed object make of a draft. -/
def FillsAs (fields : List (Field δ)) (depth : Nat) (first : Bool) (draft : δ)
    (members : List Member) (result : Except ReadError δ) : Prop :=
  ∀ bound size rest, (Value.membersText first members ++ closeBrace :: rest).length ≤ bound →
    (Value.membersText first members ++ closeBrace :: rest).length ≤ size →
    Record.readObject fields depth bound size first draft
      (Value.membersText first members ++ closeBrace :: rest) = result.map (·, rest)

section

variable {fields : List (Field δ)} {first : Bool} {draft : δ}

theorem FillsAs.nil : FillsAs fields depth first draft [] (.ok draft) := by
  intro bound size rest _ hsize
  rw [Value.membersText, List.nil_append] at hsize ⊢
  cases size with
  | zero => cases hsize
  | succ size =>
    rw [Record.readObject, nextMember_end]
    rfl

/-- A member is read by its field and put into the draft, and then the others are read. -/
theorem FillsAs.cons {name key : String} {get : δ → Option α} {set : δ → α → δ}
    {reader : Reader α} {v : Value} {members : List Member} {r : Except ReadError α}
    {result : α → Except ReadError δ}
    (hfield : fields.find? (·.name == key) = some (.of name get set reader))
    (hheld : get draft = none) (hread : ReadsAs reader depth v r)
    (hmembers : ∀ a, r = .ok a → FillsAs fields depth false (set draft a) members (result a)) :
    FillsAs fields depth first draft ((key, v) :: members) (r >>= result) := by
  intro bound size rest hbound hsize
  rw [membersText_cons_append] at hbound hsize ⊢
  have hkey := readChars_memberText hbound
  replace hbound := Nat.lt_of_lt_of_le (length_lt_memberText ..) hbound
  replace hsize := Nat.lt_of_lt_of_le (length_lt_memberText ..) hsize
  cases size with
  | zero => cases hsize
  | succ size =>
    have hv := hread bound _ (ends_membersText members rest) (Nat.le_of_lt hbound)
    rw [List.length_append] at hbound hsize
    -- the member was not there before, so that it is no duplicate
    have hnone : ((get draft).isSome = true) = False := by simp [hheld]
    rw [Record.readObject, nextMember_text]
    simp only [hkey, hfield, Field.of, hnone, readColon_cons, hv, bind, Except.bind, if_false]
    cases r with
    | error e => rfl
    | ok a => exact hmembers a rfl bound size rest (by omega) (by omega)

/-- A member that is read back is put into the draft. -/
theorem FillsAs.put {name key : String} {get : δ → Option α} {set : δ → α → δ}
    {reader : Reader α} {v : Value} {a : α} {members : List Member} {result : Except ReadError δ}
    (hfield : fields.find? (·.name == key) = some (.of name get set reader))
    (hheld : get draft = none) (hread : ReadsAs reader depth v (.ok a))
    (hmembers : FillsAs fields depth false (set draft a) members result) :
    FillsAs fields depth first draft ((key, v) :: members) result :=
  FillsAs.cons hfield hheld hread fun _ ha => Except.ok.inj ha ▸ hmembers

end

/-! ## Records -/

/-- A record is made of the draft that the members leave. -/
theorem Record.readsAs {record : Record δ α} {members : List Member}
    {r : Except ReadError δ}
    (h : FillsAs record.fields depth true record.empty members r) :
    ReadsAs record.read (depth + 1) (.object members) (r >>= fun draft =>
      (record.finish draft).mapError fun name => .data (.missingField name)) := by
  intro size rest hrest hsize
  rw [Value.text_object_append] at hsize ⊢
  have hread := h size size rest (Nat.le_of_succ_le hsize) (Nat.le_of_succ_le hsize)
  rw [Record.read, readToken_openBrace]
  simp only [bind, Except.bind, enter, hread]
  cases r with
  | error e => rfl
  | ok draft =>
    simp only [Except.map]
    cases record.finish draft <;> rfl

/-- A record that lacks nothing is made as soon as the one part that may be refused is read. -/
theorem Record.readsAs_of_finish {β : Type} {record : Record δ α} {members : List Member}
    {r : Except ReadError β} {draft : β → δ} {make : β → α}
    (h : FillsAs record.fields depth true record.empty members (r >>= fun b => .ok (draft b)))
    (hfinish : ∀ b, record.finish (draft b) = .ok (make b)) :
    ReadsAs record.read (depth + 1) (.object members) (r.map make) := by
  have hsame : ((r >>= fun b => .ok (draft b)) >>= fun d => (record.finish d).mapError
      fun name => .data (.missingField name)) = r.map make := by
    cases r with
    | error e => rfl
    | ok b => exact congrArg (Except.mapError _) (hfinish b)
  rw [← hsame]
  exact Record.readsAs h

/-! ## Drafts -/

/-- A field keeps a property of drafts if a draft still has it when the field was read into it. -/
def Field.Keeps (p : δ → Prop) (depth : Nat) (field : Field δ) : Prop :=
  ∀ ⦃draft draft' : δ⦄ ⦃size : Nat⦄ ⦃bytes rest : Bytes⦄, p draft →
    field.read draft depth size bytes = .ok (draft', rest) → p draft'

theorem Field.keeps_of {p : δ → Prop} {name : String} {get : δ → Option α} {set : δ → α → δ}
    {reader : Reader α}
    (h : ∀ ⦃draft : δ⦄ ⦃a : α⦄ ⦃size : Nat⦄ ⦃bytes rest : Bytes⦄, p draft →
      reader depth size bytes = .ok (a, rest) → p (set draft a)) :
    (Field.of name get set reader).Keeps p depth := by
  intro draft draft' size bytes rest hdraft hread
  obtain ⟨⟨a, _⟩, ha, heq⟩ := exists_of_map_eq_ok hread
  cases heq
  exact h hdraft ha

section

variable {fields : List (Field δ)} {p : δ → Prop}

/-- What every field keeps holds of the draft that the members of an object leave. -/
private theorem Record.holds_of_readObject (hkeeps : ∀ field ∈ fields, field.Keeps p depth)
    {bound size : Nat} :
    ∀ {first : Bool} {draft draft' : δ} {bytes rest : Bytes}, p draft →
      readObject fields depth bound size first draft bytes = .ok (draft', rest) → p draft' := by
  induction size with
  | zero =>
    intro first draft draft' bytes rest _ h
    cases h
  | succ size ih =>
    intro first draft draft' bytes rest hdraft h
    rw [readObject] at h
    split at h
    next => cases h
    next =>
      cases h
      exact hdraft
    next =>
      dsimp only at h
      split at h
      next hmember =>
        -- the draft that one member leaves goes on to the others
        refine ih ?_ h
        obtain ⟨_, _, hmember⟩ := exists_of_bind_eq_ok hmember
        split at hmember
        next =>
          -- a member that no field asks for is skipped
          obtain ⟨_, _, hmember⟩ := exists_of_bind_eq_ok hmember
          obtain ⟨_, _, hmember⟩ := exists_of_bind_eq_ok hmember
          cases hmember
          exact hdraft
        next hfound =>
          split at hmember
          next => cases hmember
          next =>
            obtain ⟨_, _, hmember⟩ := exists_of_bind_eq_ok hmember
            exact hkeeps _ (List.mem_of_find?_eq_some hfound) hdraft hmember
      next => cases h

/-- What every field keeps holds of the draft that the items of a list leave. -/
private theorem Record.holds_of_readPlaces {bound : Nat} :
    ∀ {fields : List (Field δ)} {first ended : Bool} {draft draft' : δ} {bytes rest : Bytes},
      (∀ field ∈ fields, field.Keeps p depth) → p draft →
      readPlaces depth bound fields first draft bytes = .ok (ended, draft', rest) →
      p draft' := by
  intro fields
  induction fields with
  | nil =>
    intro first ended draft draft' bytes rest _ hdraft h
    cases h
    exact hdraft
  | cons field fields ih =>
    intro first ended draft draft' bytes rest hkeeps hdraft h
    obtain ⟨hfield, hfields⟩ := List.forall_mem_cons.mp hkeeps
    rw [readPlaces] at h
    split at h
    next => cases h
    next =>
      cases h
      exact hdraft
    next =>
      split at h
      -- the field keeps what held of the draft, and so do those behind it
      next hread => exact ih hfields (hfield hdraft hread) h
      next => cases h

end

/-- A record that has been read was made of a draft of which all holds that its fields keep. -/
theorem Record.exists_draft_of_read {record : Record δ α} {p : δ → Prop} (hempty : p record.empty)
    (hkeeps : ∀ field ∈ record.fields, field.Keeps p depth) {size : Nat} {bytes rest : Bytes}
    {a : α} (h : record.read (depth + 1) size bytes = .ok (a, rest)) :
    ∃ draft, p draft ∧ record.finish draft = .ok a := by
  unfold Record.read at h
  obtain ⟨⟨token, _⟩, _, h⟩ := exists_of_bind_eq_ok h
  dsimp only at h
  split at h
  next =>
    obtain ⟨_, henter, h⟩ := exists_of_bind_eq_ok h
    cases henter
    obtain ⟨⟨draft, _⟩, hread, h⟩ := exists_of_bind_eq_ok h
    refine ⟨draft, holds_of_readObject hkeeps hempty hread, ?_⟩
    dsimp only at h
    split at h
    next hfinish =>
      cases h
      exact hfinish
    next => cases h
  next =>
    obtain ⟨_, henter, h⟩ := exists_of_bind_eq_ok h
    cases henter
    obtain ⟨⟨ended, draft, _⟩, hread, h⟩ := exists_of_bind_eq_ok h
    refine ⟨draft, holds_of_readPlaces hkeeps hempty hread, ?_⟩
    dsimp only at h
    split at h
    next hfinish =>
      -- the record is made, whether or not the end of the list was met
      split at h
      all_goals
        obtain ⟨_, _, h⟩ := exists_of_bind_eq_ok h
        cases h
        exact hfinish
    next => cases h
  next => cases h

end ServiceBroker.Json
