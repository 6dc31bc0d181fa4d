import ServiceBroker.Json.Reader

/-!
# What is printed, and how it is read

## Main definitions

* `Value.text`: the text of a value, written from its start;
* `Ends`: what may stand behind a value that has been printed.

## Main results

* `Value.print_eq`: a value is printed as its text;
* `readChars_escape`: a string is read back from its text.
-/

namespace ServiceBroker.Json

open Ascii

/-! ## Texts from their start -/

/-- The text of a string. -/
def stringText (s : String) : Bytes := quote :: (escape (Bytes.ofString s) ++ [quote])

theorem stringText_append (s : String) (rest : Bytes) :
    stringText s ++ rest = quote :: (escape (Bytes.ofString s) ++ quote :: rest) := by
  rw [stringText, List.cons_append, List.append_assoc, List.singleton_append]

/-- What stands before an item or a member: a comma, unless it is the first. -/
def separator (first : Bool) : Bytes := if first then [] else [comma]

namespace Value

mutual

/-- The text of a value. -/
def text : Value → Bytes
  | .null => Bytes.ofString "null"
  | .boolean true => Bytes.ofString "true"
  | .boolean false => Bytes.ofString "false"
  | .integer i => Bytes.ofString (toString i)
  | .real x => Bytes.ofString x.text
  | .string s => stringText s
  | .list items => openBracket :: (itemsText true items ++ [closeBracket])
  | .object members => openBrace :: (membersText true members ++ [closeBrace])
termination_by structural v => v

/-- The text of the items of a list. -/
def itemsText : (first : Bool) → List Value → Bytes
  | _, [] => []
  | first, v :: vs => separator first ++ (text v ++ itemsText false vs)
termination_by structural _ vs => vs

/-- The text of the members of an object. -/
def membersText : (first : Bool) → List Member → Bytes
  | _, [] => []
  | first, m :: ms => separator first ++ (memberText m ++ membersText false ms)
termination_by structural _ ms => ms

/-- The text of a member. -/
def memberText : Member → Bytes
  | (key, v) => stringText key ++ colon :: text v
termination_by structural m => m

end

/-- The text of a list opens, and closes behind its items. -/
theorem text_list_append (items : List Value) (rest : Bytes) :
    (list items).text ++ rest = openBracket :: (itemsText true items ++ closeBracket :: rest) := by
  rw [text, List.cons_append, List.append_assoc, List.singleton_append]

theorem text_object_append (members : List Member) (rest : Bytes) :
    (object members).text ++ rest =
      openBrace :: (membersText true members ++ closeBrace :: rest) := by
  rw [text, List.cons_append, List.append_assoc, List.singleton_append]

theorem reverse_pushBytes (bytes : Bytes) (done : Reversed) :
    (pushBytes bytes done).reverse = done.reverse ++ bytes := by
  rw [pushBytes, List.reverseAux_eq, List.reverse_append, List.reverse_reverse]

theorem reverse_pushString (s : String) (done : Reversed) :
    (pushString s done).reverse = done.reverse ++ stringText s := by
  simp [pushString, stringText, reverse_pushBytes]

theorem reverse_comma (first : Bool) (done : Reversed) :
    (if first then done else comma :: done).reverse = done.reverse ++ separator first := by
  cases first <;> simp [separator]

mutual

/-- What the printer has done, told from its end, is the text of the value. -/
theorem reverse_push (v : Value) (done : Reversed) :
    (v.push done).reverse = done.reverse ++ v.text := by
  match v with
  | .null | .boolean true | .boolean false | .integer _ | .real _ =>
    simp only [push, text, reverse_pushBytes]
  | .string s => simp only [push, text, reverse_pushString]
  | .list items => simp [push, text, reverse_pushItems]
  | .object members => simp [push, text, reverse_pushMembers]
termination_by structural v

/-- The printer goes through the items of a list in their order. -/
theorem reverse_pushItems (first : Bool) (items : List Value) (done : Reversed) :
    (pushItems first items done).reverse = done.reverse ++ itemsText first items := by
  match items with
  | [] => simp only [pushItems, itemsText, List.append_nil]
  | v :: vs =>
    simp only [pushItems, itemsText, reverse_pushItems false vs, reverse_push v, reverse_comma,
      List.append_assoc]
termination_by structural items

/-- It goes through the members of an object in theirs. -/
theorem reverse_pushMembers (first : Bool) (members : List Member) (done : Reversed) :
    (pushMembers first members done).reverse = done.reverse ++ membersText first members := by
  match members with
  | [] => simp only [pushMembers, membersText, List.append_nil]
  | m :: ms =>
    simp only [pushMembers, membersText, reverse_pushMembers false ms, reverse_pushMember m,
      reverse_comma, List.append_assoc]
termination_by structural members

private theorem reverse_pushMember (m : Member) (done : Reversed) :
    (pushMember m done).reverse = done.reverse ++ memberText m := by
  match m with
  | (key, v) => simp [pushMember, memberText, reverse_push v, reverse_pushString]
termination_by structural m

end

/-- A value is printed as its text. -/
theorem print_eq (v : Value) : v.print = v.text := by
  rw [print, reverse_push, List.reverse_nil, List.nil_append]

end Value

/-! ## Ends -/

/-- What may stand behind a value that has been printed: nothing, or a byte that ends it. -/
def Ends (rest : Bytes) : Prop :=
  ∀ b ∈ rest.head?, b = comma ∨ b = closeBracket ∨ b = closeBrace

/-- A value may end with the text. -/
theorem ends_nil : Ends [] := fun _ h => by cases h

/-- A value may be followed by a comma or by a closing bracket. -/
theorem ends_cons {b : UInt8} (h : b = comma ∨ b = closeBracket ∨ b = closeBrace)
    (rest : Bytes) : Ends (b :: rest) := fun _ hb => Option.some.inj hb ▸ h

/-- What ends a value goes on with no number. -/
theorem Ends.not_number {rest : Bytes} (h : Ends rest) :
    ∀ b ∈ rest.head?, isDigit b = false ∧ b ≠ point ∧ b ≠ 0x65 ∧ b ≠ 0x45 := by
  intro b hb
  obtain rfl | rfl | rfl := h b hb <;> decide

/-- What starts with a byte that is not blank has no blanks in front. -/
theorem skipBlank_cons {b : UInt8} (h : isBlank b = false) (rest : Bytes) :
    skipBlank (b :: rest) = b :: rest := List.dropWhile_cons_of_neg (by simp [h])

/-! ## Strings -/

/-- The two digits of a control character lead back to it. -/
private theorem control_read (b : UInt8) (h : b < 0x20) :
    hexNumber? zero zero (Nat.digitChar (b.toNat / 16)).toUInt8
      (Nat.digitChar (b.toNat % 16)).toUInt8 = some b.toNat ∧
    String.utf8EncodeChar (Char.ofNat b.toNat) = [b] := by
  have hall : ∀ n < 32, hexNumber? zero zero (Nat.digitChar (n / 16)).toUInt8
      (Nat.digitChar (n % 16)).toUInt8 = some n ∧
      String.utf8EncodeChar (Char.ofNat n) = [UInt8.ofNat n] := by decide +kernel
  have hb := hall b.toNat (UInt8.lt_iff_toNat_lt.mp h)
  rwa [UInt8.ofNat_toNat] at hb

/-- Whatever stands for a byte of a string is read as that byte. -/
private theorem readChars_escapeByte (size : Nat) (done : Reversed) (b : UInt8) (rest : Bytes) :
    readChars (size + 1) done (escapeByte b ++ rest) = readChars size (b :: done) rest := by
  unfold escapeByte
  split
  next h => subst h; rfl
  next hquote =>
  split
  next h => subst h; rfl
  next hbackslash =>
  split
  next hplain =>
    have hcontrol : ¬b < 0x20 := UInt8.not_lt.mpr hplain
    rw [List.singleton_append, readChars, if_neg hquote, if_neg hbackslash, if_neg hcontrol]
  next hcontrol =>
  -- the control characters with a letter of their own
  split
  next h => subst h; rfl
  split
  next h => subst h; rfl
  split
  next h => subst h; rfl
  split
  next h => subst h; rfl
  split
  next h => subst h; rfl
  -- the numbered control characters
  obtain ⟨hhex, hchar⟩ := control_read b (UInt8.not_le.mp hcontrol)
  have hlt : b.toNat < 32 := UInt8.lt_iff_toNat_lt.mp (UInt8.not_le.mp hcontrol)
  have hnumber : readNumbered
      ([zero, zero] ++ (Bytes.hexByte b).map (fun c => c.toUInt8) ++ rest) =
      .ok (Char.ofNat b.toNat, rest) := by
    have htrailing : isTrailing b.toNat = false := by simp [isTrailing]; omega
    simp only [Bytes.hexByte, List.map_cons, List.map_nil, List.cons_append, List.nil_append,
      readNumbered, readHex, hhex, bind, Except.bind, htrailing]
    rw [if_neg (by simp), if_pos (by omega)]
  have hescape : readEscape
      (0x75 :: ([zero, zero] ++ (Bytes.hexByte b).map (fun c => c.toUInt8) ++ rest)) =
      .ok ([b], rest) := by
    have hplain : plainEscape? 0x75 = none := rfl
    simp only [readEscape, hplain, hnumber, if_true, Except.map, hchar]
  change readChars (size + 1) done (backslash ::
    0x75 :: ([zero, zero] ++ (Bytes.hexByte b).map (fun c => c.toUInt8) ++ rest)) = _
  rw [readChars, if_neg (by decide), if_pos rfl, hescape]
  rfl

/-- The bytes of a string are read to its closing quote. -/
private theorem readChars_escape_append (bytes rest : Bytes) :
    ∀ (size : Nat) (done : Reversed), (escape bytes).length < size →
      readChars size done (escape bytes ++ quote :: rest) =
        match Bytes.toString? (done.reverse ++ bytes) with
        | some s => .ok (s, rest)
        | none => .error (.grammar .invalidCodePoint) := by
  -- UTF-8 is looked at only at the closing quote, so that the induction is on the bytes
  induction bytes with
  | nil =>
    intro size done hsize
    obtain ⟨size, rfl⟩ := Nat.exists_eq_add_of_lt hsize
    rw [escape, List.flatMap_nil, List.nil_append, List.append_nil]
    exact if_pos rfl
  | cons b bytes ih =>
    intro size done hsize
    have hlength : 1 ≤ (escapeByte b).length := by
      unfold escapeByte
      repeat' split
      all_goals simp
    rw [escape, List.flatMap_cons, List.length_append] at hsize
    obtain ⟨size, rfl⟩ := Nat.exists_eq_add_of_lt (Nat.zero_lt_of_lt hsize)
    rw [escape, List.flatMap_cons, List.append_assoc, readChars_escapeByte, ← escape,
      ih _ _ (by rw [escape]; omega), List.reverse_cons, List.append_assoc, List.singleton_append]

/-- A string is read back from its text. -/
theorem readChars_escape (s : String) (rest : Bytes) {size : Nat}
    (hsize : (escape (Bytes.ofString s)).length < size) :
    readChars size [] (escape (Bytes.ofString s) ++ quote :: rest) = .ok (s, rest) := by
  rw [readChars_escape_append _ _ _ _ hsize, List.reverse_nil, List.nil_append,
    Bytes.toString?_ofString]

end ServiceBroker.Json
