import ServiceBroker.Proofs.Json.RealNumbers

/-!
# What is printed is UTF-8

A printed value is the UTF-8 form of a text, whatever strings it holds: of the bytes of a string
only some ASCII characters are escaped, by ASCII characters again, so that the characters of several
bytes stay as they are.

## Main definitions

* `Bytes.IsText`: are the bytes the UTF-8 form of a text?

## Main results

* `Json.isText_escape`: strings are written as text;
* `Json.Value.isText_print`: values are printed as text.
-/

namespace ServiceBroker

/-! ## Texts -/

/-- The bytes are the UTF-8 form of a text. -/
def Bytes.IsText (bytes : Bytes) : Prop := ∃ s, Bytes.ofString s = bytes

namespace Bytes.IsText

theorem ofString (s : String) : (Bytes.ofString s).IsText := ⟨s, rfl⟩

theorem nil : IsText [] := ⟨"", rfl⟩

/-- Two texts after one another are a text. -/
theorem append {a b : Bytes} (ha : a.IsText) (hb : b.IsText) : IsText (a ++ b) := by
  obtain ⟨s, rfl⟩ := ha
  obtain ⟨t, rfl⟩ := hb
  exact ⟨s ++ t, Bytes.ofString_append s t⟩

/-- ASCII characters are a text. -/
theorem of_ascii {bytes : Bytes} (h : ∀ b ∈ bytes, b < 128) : bytes.IsText := by
  refine ⟨String.ofList (bytes.map fun b => Char.ofNat b.toNat), ?_⟩
  have hchar : ∀ n < 128, (Char.ofNat n).toNat < 128 ∧ (Char.ofNat n).toUInt8 = UInt8.ofNat n := by
    decide
  rw [Bytes.ofString_ascii, List.map_map]
  · refine (List.map_congr_left fun b hb => ?_).trans (List.map_id bytes)
    have hsame := (hchar b.toNat (UInt8.lt_iff_toNat_lt.mp (h b hb))).2
    simpa using hsame
  · intro c hc
    obtain ⟨b, hb, rfl⟩ := List.mem_map.mp hc
    exact (hchar b.toNat (UInt8.lt_iff_toNat_lt.mp (h b hb))).1

theorem cons {b : UInt8} {bytes : Bytes} (hb : b < 128) (h : bytes.IsText) :
    IsText (b :: bytes) := by
  have hfirst : IsText [b] := of_ascii (by simpa using hb)
  exact hfirst.append h

end Bytes.IsText

namespace Json

open Ascii

/-! ## Strings -/

/-- An ASCII character is written in ASCII characters. -/
private theorem escapeByte_ascii {b : UInt8} (hb : b < 128) : ∀ d ∈ escapeByte b, d < 128 := by
  have hall : ∀ n < 128, ∀ d ∈ escapeByte (UInt8.ofNat n), d < 128 := by decide +kernel
  have h := hall b.toNat (UInt8.lt_iff_toNat_lt.mp hb)
  rwa [UInt8.ofNat_toNat] at h

/-- Bytes that are not ASCII are written as they are. -/
private theorem escape_of_le {bytes : Bytes} (h : ∀ b ∈ bytes, 128 ≤ b) : escape bytes = bytes := by
  have hbyte {b : UInt8} (hb : 128 ≤ b) : escapeByte b = [b] := by
    have hle : 128 ≤ b.toNat := UInt8.le_iff_toNat_le.mp hb
    have hne (d : UInt8) (hd : d.toNat < 128) : b ≠ d := by
      rintro rfl
      omega
    rw [escapeByte, if_neg (hne quote (by decide)), if_neg (hne backslash (by decide)), if_pos]
    exact UInt8.le_iff_toNat_le.mpr (Nat.le_trans (by decide) hle)
  induction bytes with
  | nil => rfl
  | cons b bytes ih =>
    obtain ⟨hb, hrest⟩ := List.forall_mem_cons.mp h
    rw [escape, List.flatMap_cons, hbyte hb, ← escape, ih hrest]
    rfl

/-- A character is one byte of ASCII, or several bytes of which none is ASCII. -/
theorem utf8EncodeChar_cases (c : Char) :
    (∃ b : UInt8, b < 128 ∧ String.utf8EncodeChar c = [b]) ∨
      ∀ b ∈ String.utf8EncodeChar c, 128 ≤ b := by
  have hhigh {n : Nat} (hn : 128 ≤ n ∧ n < 256) : 128 ≤ UInt8.ofNat n := by
    rw [UInt8.le_iff_toNat_le, UInt8.toNat_ofNat', Nat.mod_eq_of_lt hn.2]
    exact hn.1
  unfold String.utf8EncodeChar
  dsimp only
  split
  next hlow =>
    refine .inl ⟨_, ?_, rfl⟩
    rw [UInt8.lt_iff_toNat_lt, UInt8.toNat_ofNat', Nat.mod_eq_of_lt (by omega)]
    exact Nat.lt_succ_of_le hlow
  next =>
    -- every byte has its highest bit set, as leading byte or as continuation
    refine .inr ?_
    split
    · simp only [List.forall_mem_cons, List.not_mem_nil, false_implies, implies_true, and_true]
      exact ⟨hhigh (by omega), hhigh (by omega)⟩
    split
    · simp only [List.forall_mem_cons, List.not_mem_nil, false_implies, implies_true, and_true]
      exact ⟨hhigh (by omega), hhigh (by omega), hhigh (by omega)⟩
    · simp only [List.forall_mem_cons, List.not_mem_nil, false_implies, implies_true, and_true]
      exact ⟨hhigh (by omega), hhigh (by omega), hhigh (by omega), hhigh (by omega)⟩

/-- A string is written as text. The induction is on its characters, since a byte alone may be no
text. -/
theorem isText_escape (s : String) : (escape (Bytes.ofString s)).IsText := by
  rw [Bytes.ofString_eq_flatMap]
  induction s.toList with
  | nil => exact .nil
  | cons c cs ih =>
    rw [List.flatMap_cons, escape, List.flatMap_append]
    refine .append ?_ ih
    rcases utf8EncodeChar_cases c with ⟨b, hb, hc⟩ | hc
    · rw [hc, List.flatMap_singleton]
      exact .of_ascii (escapeByte_ascii hb)
    · refine ⟨String.ofList [c], ?_⟩
      rw [← escape, escape_of_le hc, Bytes.ofString_ofList, List.flatMap_singleton]

/-- A string is printed as a text. -/
theorem isText_stringText (s : String) : (stringText s).IsText :=
  .cons (by decide) (.append (isText_escape s) (.cons (by decide) .nil))

theorem isText_separator (first : Bool) : (separator first).IsText := by
  cases first
  · exact .cons (by decide) .nil
  · exact .nil

/-! ## Values -/

namespace Value

mutual

/-- So is every value. -/
theorem isText_text (v : Value) : v.text.IsText := by
  match v with
  | .null | .boolean true | .boolean false | .integer _ | .real _ => exact .ofString _
  | .string s => exact isText_stringText s
  | .list items =>
    have hclose : Bytes.IsText [closeBracket] := .cons (by decide) .nil
    exact .cons (by decide) ((isText_itemsText true items).append hclose)
  | .object members =>
    have hclose : Bytes.IsText [closeBrace] := .cons (by decide) .nil
    exact .cons (by decide) ((isText_membersText true members).append hclose)
termination_by structural v

theorem isText_itemsText (first : Bool) (items : List Value) : (itemsText first items).IsText := by
  match items with
  | [] => exact .nil
  | v :: vs =>
    exact (isText_separator first).append ((isText_text v).append (isText_itemsText false vs))
termination_by structural items

theorem isText_membersText (first : Bool) (members : List Member) :
    (membersText first members).IsText := by
  match members with
  | [] => exact .nil
  | m :: ms =>
    exact (isText_separator first).append
      ((isText_memberText m).append (isText_membersText false ms))
termination_by structural members

/-- So is every member of an object. -/
private theorem isText_memberText (m : Member) : (memberText m).IsText := by
  match m with
  | (key, v) => exact (isText_stringText key).append (.cons (by decide) (isText_text v))
termination_by structural m

end

/-- Values are printed as text. -/
theorem isText_print (v : Value) : v.print.IsText := by
  rw [print_eq]
  exact isText_text v

end Value

end Json

end ServiceBroker
