import Mathlib.Data.List.TakeDrop
import ServiceBroker.Proofs.Json.Text

/-!
# Printed whole numbers

A whole number of 64 bits, signed or unsigned, is read back as itself, whatever value follows.

- `digitBytes`, `IsWhole`: the digits of a whole number, and what may stand for one;
- `readNumber_whole`: the reader goes on behind the digits;
- `readToken_integer`: a whole number is read back.
-/

namespace ServiceBroker

/-- The UTF-8 form of a text, character by character. -/
theorem Bytes.ofString_ofList (cs : List Char) :
    Bytes.ofString (String.ofList cs) = cs.flatMap String.utf8EncodeChar := by
  induction cs with
  | nil => rfl
  | cons c cs ih =>
    rw [← List.singleton_append, String.ofList_append, Bytes.ofString_append, ih,
      List.flatMap_append, Bytes.ofString, String.toByteArray_ofList, List.utf8Encode_singleton]
    simp

theorem Bytes.ofString_eq_flatMap (s : String) :
    Bytes.ofString s = s.toList.flatMap String.utf8EncodeChar := by
  rw [← Bytes.ofString_ofList, String.ofList_toList]

/-- The UTF-8 form of a text of ASCII characters. -/
theorem Bytes.ofString_ascii {cs : List Char} (h : ∀ c ∈ cs, c.toNat < 128) :
    Bytes.ofString (String.ofList cs) = cs.map Char.toUInt8 := by
  rw [Bytes.ofString_ofList]
  induction cs with
  | nil => rfl
  | cons c cs ih =>
    have hsize : c.utf8Size = 1 := by
      have hlt : c.val.toNat < 128 := h c (List.mem_cons_self ..)
      rw [Char.utf8Size, if_pos]
      rw [UInt32.le_iff_toNat_le]
      exact Nat.le_of_lt_succ hlt
    rw [List.flatMap_cons, ih fun d hd => h d (List.mem_cons_of_mem _ hd), List.map_cons,
      String.utf8EncodeChar_eq_singleton hsize]
    rfl

namespace Json

open Ascii

/-! ## Digits -/

@[simp]
theorem isDigit_zero : isDigit zero = true := rfl

/-- A natural number in decimal digits. -/
def digitBytes (n : Nat) : Bytes := (Nat.toDigits 10 n).map Char.toUInt8

/-- The characters of a decimal digit. -/
theorem isDigit_toUInt8 {c : Char} (h : c.isDigit) :
    isDigit c.toUInt8 ∧ digitValue c.toUInt8 = c.toNat - 48 := by
  have hall : ∀ n < 58, 48 ≤ n → isDigit (Char.ofNat n).toUInt8 ∧
      digitValue (Char.ofNat n).toUInt8 = n - 48 := by decide
  obtain ⟨hlow, hhigh⟩ := Char.isDigit_iff_toNat.mp h
  have hc := hall c.toNat (Nat.lt_succ_of_le hhigh) hlow
  rwa [Char.ofNat_toNat] at hc

theorem toDigits_isDigit {n : Nat} {c : Char} (h : c ∈ Nat.toDigits 10 n) : c.isDigit :=
  Nat.isDigit_of_mem_toDigits (by decide) (by decide) h

theorem digitBytes_isDigit {n : Nat} {b : UInt8} (h : b ∈ digitBytes n) : isDigit b := by
  obtain ⟨c, hc, rfl⟩ := List.mem_map.mp h
  exact (isDigit_toUInt8 (toDigits_isDigit hc)).1

theorem digitBytes_ne_nil (n : Nat) : digitBytes n ≠ [] := by
  rw [digitBytes, ne_eq, List.map_eq_nil_iff]
  exact Nat.toDigits_ne_nil

/-- Only the number zero starts with the digit zero. -/
private theorem head?_toDigits (n : Nat) : (Nat.toDigits 10 n).head? = some '0' ↔ n = 0 := by
  induction n using Nat.strongRecOn with
  | _ n ih =>
    by_cases hn : n < 10
    · rw [Nat.toDigits_of_lt_base hn]
      simp
    · -- a number of several digits starts like the number without the last one
      have hle : 10 ≤ n := Nat.le_of_not_lt hn
      have hhead : (Nat.toDigits 10 n).head? = (Nat.toDigits 10 (n / 10)).head? := by
        rw [Nat.toDigits_of_base_le (by decide) hle, List.head?_append,
          List.head?_eq_some_head Nat.toDigits_ne_nil, Option.some_or]
      rw [hhead, ih (n / 10) (by omega)]
      omega

/-- The digits of a number that fits are all gathered. -/
private theorem gatherDigits_eq (cs : List Char) (hcs : ∀ c ∈ cs, c.isDigit) :
    ∀ significand taken, Nat.ofDigitChars 10 cs significand ≤ largestSignificand →
      gatherDigits significand taken (cs.map Char.toUInt8) =
        (Nat.ofDigitChars 10 cs significand, taken + cs.length, []) := by
  induction cs with
  | nil => intro significand taken _; rfl
  | cons c cs ih =>
    intro significand taken hle
    have hvalue := (isDigit_toUInt8 (hcs c (List.mem_cons_self ..))).2
    have hnext : 10 * significand + (c.toNat - '0'.toNat) =
        significand * 10 + digitValue c.toUInt8 := by
      rw [hvalue, Nat.mul_comm]
      rfl
    rw [Nat.ofDigitChars_cons, hnext] at hle ⊢
    -- the digits that follow make the significand no smaller
    have hfits : significand * 10 + digitValue c.toUInt8 ≤ largestSignificand := by
      rw [Nat.ofDigitChars_eq_ofDigitChars_zero] at hle
      have hpos : 0 < 10 ^ cs.length := Nat.pow_pos (by decide)
      have hgrow := Nat.le_mul_of_pos_left (significand * 10 + digitValue c.toUInt8) hpos
      exact Nat.le_trans (Nat.le_trans hgrow (Nat.le_add_right ..)) hle
    rw [List.map_cons, gatherDigits, if_neg (Nat.not_lt.mpr hfits),
      ih (fun d hd => hcs d (List.mem_cons_of_mem _ hd)) _ _ hle, List.length_cons,
      Nat.add_assoc, Nat.add_comm 1]

/-- What has a property is taken off the front of a list, up to what does not have it. -/
theorem span_append {α : Type} {p : α → Bool} {as rest : List α} (has : ∀ a ∈ as, p a)
    (hrest : ∀ a ∈ rest.head?, p a = false) : (as ++ rest).span p = (as, rest) := by
  rw [List.span_eq_takeWhile_dropWhile, List.takeWhile_append_of_pos has,
    List.dropWhile_append_of_pos has]
  cases rest with
  | nil => rw [List.takeWhile_nil, List.append_nil, List.dropWhile_nil]
  | cons a rest =>
    have ha : ¬p a = true := by simp [hrest a rfl]
    rw [List.takeWhile_cons_of_neg ha, List.append_nil, List.dropWhile_cons_of_neg ha]

/-! ## Whole parts -/

/-- The whole part of a number: digits of which the first is zero only if it stands alone. -/
structure IsWhole (digits : Bytes) : Prop where
  /-- There is a digit. -/
  ne_nil : digits ≠ []
  /-- There is nothing but digits. -/
  isDigit : ∀ b ∈ digits, isDigit b
  /-- A zero in front stands alone. -/
  no_leading_zero : digits.head? = some zero → digits = [zero]

theorem eq_zero_of_head?_digitBytes {n : Nat} (h : (digitBytes n).head? = some zero) : n = 0 := by
  rw [digitBytes, List.head?_map, Option.map_eq_some_iff] at h
  obtain ⟨c, hc, hzero⟩ := h
  have hdigit := toDigits_isDigit (List.mem_of_mem_head? hc)
  have hlow : 48 ≤ c.toNat := (Char.isDigit_iff_toNat.mp hdigit).1
  have hvalue : 0 = c.toNat - 48 := by
    rw [← (isDigit_toUInt8 hdigit).2, hzero]
    rfl
  have hchar : c = '0' := by
    rw [← Char.toNat_inj]
    exact Nat.le_antisymm (Nat.le_of_sub_eq_zero hvalue.symm) hlow
  rwa [hchar, head?_toDigits] at hc

theorem isWhole_digitBytes (n : Nat) : IsWhole (digitBytes n) where
  ne_nil := digitBytes_ne_nil n
  isDigit _ := digitBytes_isDigit
  no_leading_zero h := by
    rw [eq_zero_of_head?_digitBytes h]
    rfl

/-- The byte that a number or its whole part starts with. -/
theorem IsWhole.exists_cons {digits : Bytes} (h : IsWhole digits) :
    ∃ b rest, digits = b :: rest ∧ Ascii.isDigit b := by
  cases digits with
  | nil => exact absurd rfl h.ne_nil
  | cons b rest => exact ⟨b, rest, rfl, h.isDigit b (List.mem_cons_self ..)⟩

/-- A number is read as its whole part, and then what follows. -/
theorem readNumber_whole {digits rest : Bytes} (h : IsWhole digits)
    (hrest : ∀ b ∈ rest.head?, Ascii.isDigit b = false) (negative : Bool) :
    readNumber negative (digits ++ rest) =
      readAfterWhole negative (gatherDigits 0 0 digits).1 (gatherDigits 0 0 digits).2.2.length
        rest := by
  obtain ⟨b, more, rfl, hb⟩ := h.exists_cons
  by_cases hzero : b = zero
  · -- a zero stands alone
    subst hzero
    obtain rfl : more = [] := (List.cons.inj (h.no_leading_zero rfl)).2
    cases rest with
    | nil => rfl
    | cons c rest =>
      have hc : Ascii.isDigit c = false := hrest c rfl
      simp only [List.singleton_append, readNumber, hc]
      rfl
  · -- the first digit and those behind it
    have hspan := span_append h.isDigit hrest
    rw [List.cons_append] at hspan ⊢
    simp only [readNumber, if_neg hzero, hb, if_true, hspan]

/-- What is read of a number that ends behind its whole part. -/
private theorem readAfterWhole_ends {rest : Bytes} (h : Ends rest) (negative : Bool)
    (significand : Nat) :
    readAfterWhole negative significand 0 rest = (wholeOf negative significand).map (·, rest) := by
  cases rest with
  | nil => rfl
  | cons b rest =>
    obtain ⟨_, hpoint, he, hE⟩ := h.not_number b rfl
    simp only [readAfterWhole, if_neg hpoint, he, hE, or_self, if_false, if_true]

/-- A natural number of 64 bits is read back. -/
theorem readNumber_digitBytes {n : Nat} (hn : n ≤ largestSignificand) {rest : Bytes}
    (h : Ends rest) (negative : Bool) :
    readNumber negative (digitBytes n ++ rest) = (wholeOf negative n).map (·, rest) := by
  have hvalue := gatherDigits_eq (Nat.toDigits 10 n) (fun _ => toDigits_isDigit) 0 0
  rw [Nat.ofDigitChars_ten_toDigits] at hvalue
  rw [readNumber_whole (isWhole_digitBytes n) (fun b hb => (h.not_number b hb).1), digitBytes,
    hvalue hn, List.length_nil, readAfterWhole_ends h]

/-! ## Whole numbers -/

/-- A digit is neither blank nor the start of anything but a number. -/
theorem digit_starts {b : UInt8} (h : Ascii.isDigit b) :
    isBlank b = false ∧ b ≠ quote ∧ b ≠ openBrace ∧ b ≠ openBracket ∧ b ≠ minus := by
  have hne : ∀ c, Ascii.isDigit c = false → b ≠ c := by
    rintro c hc rfl
    exact absurd h (by simp [hc])
  refine ⟨?_, hne _ rfl, hne _ rfl, hne _ rfl, hne _ rfl⟩
  simp [isBlank, hne space rfl, hne lineFeed rfl, hne tab rfl, hne carriageReturn rfl]

/-- A number is read when a digit stands at the start of a value. -/
theorem readToken_digits {digits : Bytes} (h : IsWhole digits) (size : Nat) (rest : Bytes) :
    readToken size (digits ++ rest) = readNumber false (digits ++ rest) := by
  obtain ⟨b, more, rfl, hb⟩ := h.exists_cons
  obtain ⟨hblank, hquote, hbrace, hbracket, hminus⟩ := digit_starts hb
  rw [List.cons_append, readToken, skipBlank_cons hblank]
  simp only [if_neg hquote, if_neg hbrace, if_neg hbracket, if_neg hminus, hb, if_true]

/-- A number is read when a minus sign stands at the start of a value. -/
private theorem readToken_minus (size : Nat) (bytes : Bytes) :
    readToken size (minus :: bytes) = readNumber true bytes := rfl

/-- The text of a whole number. -/
theorem ofString_toString_int (i : Int) :
    Bytes.ofString (toString i) = (if i < 0 then [minus] else []) ++ digitBytes i.natAbs := by
  have hnat : ∀ n : Nat, Bytes.ofString n.repr = digitBytes n := fun n => by
    rw [Nat.repr_eq_ofList_toDigits, Bytes.ofString_ascii, digitBytes]
    intro c hc
    have hhigh := (Char.isDigit_iff_toNat.mp (toDigits_isDigit hc)).2
    exact Nat.lt_of_le_of_lt hhigh (by decide)
  rw [Int.toString_eq_repr, Int.repr_eq_if]
  by_cases hneg : i < 0
  · have habs : (-i).toNat = i.natAbs := by omega
    rw [if_neg (by omega), if_pos hneg, Bytes.ofString_append, hnat, habs]
    rfl
  · have habs : i.toNat = i.natAbs := by omega
    rw [if_pos (by omega), if_neg hneg, hnat, habs, List.nil_append]

/-- The whole numbers of 64 bits, signed or unsigned. -/
def Fits (i : Int) : Prop := -0x8000000000000000 ≤ i ∧ i ≤ 0xffffffffffffffff

/-- A whole number of 64 bits is read back. -/
theorem readToken_integer {i : Int} (hi : Fits i) (size : Nat) {rest : Bytes} (h : Ends rest) :
    readToken size (Bytes.ofString (toString i) ++ rest) = .ok (.integer i, rest) := by
  obtain ⟨hlow, hhigh⟩ := hi
  have hfits : i.natAbs ≤ largestSignificand := by
    simp only [largestSignificand]
    omega
  rw [ofString_toString_int, List.append_assoc]
  by_cases hneg : i < 0
  · have hsign : -(i.natAbs : Int) = i := by omega
    rw [if_pos hneg, List.singleton_append, readToken_minus, readNumber_digitBytes hfits h, wholeOf,
      if_neg (by simp), if_pos (by omega), hsign]
    rfl
  · have hsign : (i.natAbs : Int) = i := by omega
    rw [if_neg hneg, List.nil_append, readToken_digits (isWhole_digitBytes _),
      readNumber_digitBytes hfits h, wholeOf, if_pos (by simp), hsign]
    rfl

end Json

end ServiceBroker
