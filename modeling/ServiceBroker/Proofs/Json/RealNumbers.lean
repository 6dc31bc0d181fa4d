import ServiceBroker.Proofs.Json.WholeNumbers

/-!
# Printed floating-point numbers

The text of a floating-point number is read as one, but not always as the same one: `reread` is what
becomes of it.

- `IsReal`: the texts that are read as floating-point numbers, or refused as out of range;
- `isReal_positional`, `isReal_scientific`: both notations are such texts;
- `readToken_real`: a floating-point number is read as `reread` says.
-/

namespace ServiceBroker

namespace Json

open Ascii

/-! ## Texts of floating-point numbers -/

/-- A text is read as a floating-point number, or refused, whatever value follows. -/
def ReadsReal (read : Bytes → Except ReadError (Token × Bytes)) (text : Bytes) : Prop :=
  ∃ r : Except ReadError Binary64, ∀ rest, Ends rest →
    read (text ++ rest) = r.map fun x => (.real x, rest)

section ReadsReal

variable {negative : Bool} {significand dropped : Nat} {places : Int} {text digits : Bytes}

theorem realOf_eq (negative : Bool) (significand : Nat) (exponent : Int) :
    ∃ r : Except ReadError Binary64, realOf negative significand exponent = r.map .real := by
  unfold realOf
  split
  next x _ => exact ⟨.ok _, rfl⟩
  next => exact ⟨.error _, rfl⟩

/-- An exponent ends the number. -/
private theorem readsReal_exponent {sign : UInt8} (hsign : sign = minus ∨ sign = plus)
    (hdigits : ∀ b ∈ digits, Ascii.isDigit b) (hne : digits ≠ []) :
    ReadsReal (readExponent negative significand places) (sign :: digits) := by
  obtain ⟨b, more, rfl⟩ := List.exists_cons_of_ne_nil hne
  have hb : Ascii.isDigit b = true := hdigits b (List.mem_cons_self ..)
  have hspan : ∀ rest, Ends rest → (b :: (more ++ rest)).span Ascii.isDigit = (b :: more, rest) :=
    fun rest hrest => span_append hdigits fun c hc => (hrest.not_number c hc).1
  -- the sign and the digits decide the rest of the work
  let power :=
    ((b :: more).dropWhile (· = zero)).take 11 |>.foldl (fun n d => n * 10 + digitValue d) 0
  obtain ⟨down, r, hread⟩ : ∃ (down : Bool) (r : Except ReadError Binary64), ∀ rest, Ends rest →
      readExponent negative significand places (sign :: b :: more ++ rest) =
        if 0x80000000 ≤ power then
          if significand ≠ 0 ∧ !down then .error (.grammar .numberOutOfRange)
          else .ok (.real (.zero negative), rest)
        else r.map fun x => (.real x, rest) := by
    obtain rfl | rfl := hsign
    · obtain ⟨r, hr⟩ := realOf_eq negative significand (places - power)
      refine ⟨true, r, fun rest hrest => ?_⟩
      simp only [readExponent, List.cons_append, if_true, hb, hspan rest hrest]
      rw [hr]
      cases r <;> rfl
    · have hplus : (plus : UInt8) ≠ minus := by decide
      obtain ⟨r, hr⟩ := realOf_eq negative significand (places + power)
      refine ⟨false, r, fun rest hrest => ?_⟩
      simp only [readExponent, List.cons_append, if_neg hplus, if_true, hb, hspan rest hrest,
        Bool.false_eq_true, if_false]
      rw [hr]
      cases r <;> rfl
  by_cases hlarge : 0x80000000 ≤ power
  · by_cases hover : significand ≠ 0 ∧ !down
    · exact ⟨.error (.grammar .numberOutOfRange), fun rest hrest => by
        rw [hread rest hrest, if_pos hlarge, if_pos hover]; rfl⟩
    · exact ⟨.ok (.zero negative), fun rest hrest => by
        rw [hread rest hrest, if_pos hlarge, if_neg hover]; rfl⟩
  · exact ⟨r, fun rest hrest => by rw [hread rest hrest, if_neg hlarge]⟩

/-- So does the last digit of the fraction. -/
theorem readsReal_afterFraction_nil :
    ReadsReal (readAfterFraction negative significand places) [] := by
  obtain ⟨r, hr⟩ := realOf_eq negative significand places
  refine ⟨r, fun rest hrest => ?_⟩
  cases rest with
  | nil => rw [List.append_nil, readAfterFraction, hr]; cases r <;> rfl
  | cons b rest =>
    obtain ⟨_, _, he, hE⟩ := hrest.not_number b rfl
    rw [List.nil_append, readAfterFraction, if_neg (by simp [he, hE]), hr]
    cases r <;> rfl

private theorem readsReal_afterFraction_exponent
    (h : ReadsReal (readExponent negative significand places) text) :
    ReadsReal (readAfterFraction negative significand places) (0x65 :: text) := h

/-- The digits of the fraction are read up to the first character that is none. -/
private theorem readsReal_fraction (hdigits : ∀ b ∈ digits, Ascii.isDigit b) (hne : digits ≠ [])
    (htext : ∀ b ∈ text.head?, Ascii.isDigit b = false)
    (h : ∀ significand places, ReadsReal (readAfterFraction negative significand places) text) :
    ReadsReal (readFraction negative significand places) (digits ++ text) := by
  obtain ⟨r, hr⟩ := h (gatherDigits significand 0 digits).1
    (places - (gatherDigits significand 0 digits).2.1)
  refine ⟨r, fun rest hrest => ?_⟩
  have hhead : ∀ b ∈ (text ++ rest).head?, Ascii.isDigit b = false := fun b hb => by
    cases text with
    | nil => exact (hrest.not_number b hb).1
    | cons c text => exact htext b hb
  obtain ⟨b, more, rfl⟩ := List.exists_cons_of_ne_nil hne
  rw [List.append_assoc, readFraction, span_append hdigits hhead]
  exact hr rest hrest

private theorem readsReal_afterWhole_point
    (h : ReadsReal (readFraction negative significand dropped) text) :
    ReadsReal (readAfterWhole negative significand dropped) (point :: text) := h

private theorem readsReal_afterWhole_exponent
    (h : ReadsReal (readExponent negative significand dropped) text) :
    ReadsReal (readAfterWhole negative significand dropped) (0x65 :: text) := h

theorem readsReal_number (hdigits : IsWhole digits) {b : UInt8} (hb : Ascii.isDigit b = false)
    (h : ∀ significand dropped,
      ReadsReal (readAfterWhole negative significand dropped) (b :: text)) :
    ReadsReal (readNumber negative) (digits ++ b :: text) := by
  obtain ⟨r, hr⟩ := h (gatherDigits 0 0 digits).1 (gatherDigits 0 0 digits).2.2.length
  refine ⟨r, fun rest hrest => ?_⟩
  have hhead : ∀ c ∈ (b :: text ++ rest).head?, Ascii.isDigit c = false := by
    rintro c ⟨⟩
    exact hb
  rw [List.append_assoc, readNumber_whole hdigits hhead]
  exact hr rest hrest

end ReadsReal

/-! ## Decimals -/

/-- A text is a whole part and something behind it that makes it a floating-point number. -/
def IsReal (text : Bytes) : Prop :=
  ∃ digits more, text = digits ++ more ∧ IsWhole digits ∧
    ∀ negative, ReadsReal (readNumber negative) text

/-- A number with a fraction is a real one. -/
theorem IsReal.of_fraction {digits fraction more : Bytes} (hdigits : IsWhole digits)
    (hfraction : ∀ b ∈ fraction, Ascii.isDigit b) (hne : fraction ≠ [])
    (hmore : ∀ b ∈ more.head?, Ascii.isDigit b = false)
    (h : ∀ negative significand places,
      ReadsReal (readAfterFraction negative significand places) more) :
    IsReal (digits ++ point :: (fraction ++ more)) :=
  ⟨digits, _, rfl, hdigits, fun negative => readsReal_number hdigits rfl fun _ _ =>
    readsReal_afterWhole_point (readsReal_fraction hfraction hne hmore (h negative))⟩

/-- So is one with an exponent. -/
private theorem IsReal.of_exponent {digits more : Bytes} (hdigits : IsWhole digits)
    (h : ∀ negative significand places, ReadsReal (readExponent negative significand places) more) :
    IsReal (digits ++ 0x65 :: more) :=
  ⟨digits, _, rfl, hdigits, fun negative => readsReal_number hdigits rfl fun significand dropped =>
    readsReal_afterWhole_exponent (h negative significand dropped)⟩

/-- Zeros as bytes. -/
theorem map_zeros (n : Nat) : (Binary64.zeros n).map Char.toUInt8 = List.replicate n zero :=
  List.map_replicate

/-- The bytes of zeros and of the digits of a number are digits. -/
theorem isDigit_of_mem_zeros {n k : Nat} {b : UInt8}
    (h : b ∈ List.replicate k zero ∨ b ∈ digitBytes n) : Ascii.isDigit b := by
  obtain hzero | hdigit := h
  · rw [List.eq_of_mem_replicate hzero]
    rfl
  · exact digitBytes_isDigit hdigit

/-- Zeros behind the digits of a number scale it, unless the number is zero itself. -/
private theorem isWhole_scaled {n k : Nat} (h : n = 0 → k = 0) :
    IsWhole (digitBytes n ++ List.replicate k zero) where
  ne_nil := by simp [digitBytes_ne_nil]
  isDigit b hb := isDigit_of_mem_zeros (List.mem_append.mp hb).symm
  no_leading_zero hhead := by
    have hne := digitBytes_ne_nil n
    rw [List.head?_append, List.head?_eq_some_head hne, Option.some_or,
      ← List.head?_eq_some_head] at hhead
    have hzero := eq_zero_of_head?_digitBytes hhead
    rw [(isWhole_digitBytes n).no_leading_zero hhead, h hzero]
    rfl

/-- The first digits of a number that is not zero. -/
private theorem isWhole_take {n k : Nat} (hn : n ≠ 0) (hk : 0 < k) :
    IsWhole ((digitBytes n).take k) where
  ne_nil := by
    rw [ne_eq, List.take_eq_nil_iff]
    rintro (hzero | hnil)
    · omega
    · exact digitBytes_ne_nil n hnil
  isDigit b hb := digitBytes_isDigit (List.mem_of_mem_take hb)
  no_leading_zero hhead := by
    rw [List.head?_take, if_neg (by omega)] at hhead
    exact absurd (eq_zero_of_head?_digitBytes hhead) hn

/-- A decimal in positional notation, if its digits do not start with a zero that is scaled. -/
theorem isReal_positional (d : Binary64.Decimal) (hd : d.digits = 0 → d.exponent = 0) :
    IsReal (d.positional.map Char.toUInt8) := by
  have hlength : (digitBytes d.digits).length = (Nat.toDigits 10 d.digits).length :=
    List.length_map _
  unfold Binary64.Decimal.positional
  dsimp only
  split
  next hexponent =>
    -- the digits, zeros and an empty fraction
    have hsplit : List.map Char.toUInt8 (Nat.toDigits 10 d.digits ++
        Binary64.zeros d.exponent.toNat ++ ['.', '0']) =
        (digitBytes d.digits ++ List.replicate d.exponent.toNat zero) ++
          point :: ([zero] ++ []) := by
      rw [List.map_append, List.map_append, map_zeros]
      rfl
    rw [hsplit]
    exact .of_fraction (isWhole_scaled fun hzero => by rw [hd hzero]; rfl) (by simp) (by simp)
      (by simp) fun _ _ _ => readsReal_afterFraction_nil
  next hexponent =>
  split
  next hpoint =>
    -- the point stands among the digits
    have hsplit : List.map Char.toUInt8 ((Nat.toDigits 10 d.digits).take
        ((Nat.toDigits 10 d.digits).length + d.exponent).toNat ++ ['.'] ++
        (Nat.toDigits 10 d.digits).drop
          ((Nat.toDigits 10 d.digits).length + d.exponent).toNat) =
        (digitBytes d.digits).take ((Nat.toDigits 10 d.digits).length + d.exponent).toNat ++
          point :: ((digitBytes d.digits).drop
            ((Nat.toDigits 10 d.digits).length + d.exponent).toNat ++ []) := by
      rw [List.map_append, List.map_append, List.map_take, List.map_drop, List.append_nil,
        List.append_assoc]
      rfl
    have hne : d.digits ≠ 0 := fun hzero => by
      have hscale := hd hzero
      omega
    rw [hsplit]
    refine .of_fraction (isWhole_take hne (by omega))
      (fun b hb => digitBytes_isDigit (List.mem_of_mem_drop hb)) ?_ (by simp)
      fun _ _ _ => readsReal_afterFraction_nil
    rw [ne_eq, List.drop_eq_nil_iff]
    omega
  next hpoint =>
    -- zeros stand between the point and the digits
    have hsplit : List.map Char.toUInt8 (['0', '.'] ++ Binary64.zeros
        (-((Nat.toDigits 10 d.digits).length + d.exponent)).toNat ++ Nat.toDigits 10 d.digits) =
        [zero] ++ point :: ((List.replicate
          (-((Nat.toDigits 10 d.digits).length + d.exponent)).toNat zero ++
            digitBytes d.digits) ++ []) := by
      rw [List.map_append, List.map_append, map_zeros, List.append_nil, List.append_assoc]
      rfl
    rw [hsplit]
    exact .of_fraction ⟨by simp, by simp, by simp⟩
      (fun b hb => isDigit_of_mem_zeros (List.mem_append.mp hb)) (by simp [digitBytes_ne_nil])
      (by simp) fun _ _ _ => readsReal_afterFraction_nil

/-- A decimal with a power of ten. -/
theorem isReal_scientific (d : Binary64.Decimal) : IsReal (d.scientific.map Char.toUInt8) := by
  have hwhole := isWhole_digitBytes d.digits
  -- the first digit stands before the point
  obtain ⟨b, more, hdigits, hb⟩ := hwhole.exists_cons
  have hfirst : IsWhole [b] := ⟨by simp, by simpa using hb, by rintro ⟨⟩; rfl⟩
  unfold Binary64.Decimal.scientific
  dsimp only
  generalize hpower : ((Nat.toDigits 10 d.digits).length : Int) + d.exponent - 1 = power
  -- the sign and the digits of the power
  have hexponent : ∀ negative significand places, ReadsReal
      (readExponent negative significand places)
      ((if power < 0 then minus else plus) :: digitBytes power.natAbs) :=
    fun _ _ _ => readsReal_exponent (by split <;> simp) (fun _ => digitBytes_isDigit)
      (digitBytes_ne_nil _)
  have htake : ((Nat.toDigits 10 d.digits).take 1).map Char.toUInt8 = [b] := by
    rw [List.map_take, ← digitBytes, hdigits]
    rfl
  have hpowerText : List.map Char.toUInt8
      (['e', if power < 0 then '-' else '+'] ++ Nat.toDigits 10 power.natAbs) =
      0x65 :: (if power < 0 then minus else plus) :: digitBytes power.natAbs := by
    rw [digitBytes]
    split <;> rfl
  rw [List.append_assoc, List.map_append, List.map_append, hpowerText, htake]
  by_cases hone : (Nat.toDigits 10 d.digits).length = 1
  · rw [if_pos hone]
    exact .of_exponent hfirst hexponent
  · have hdrop : ((Nat.toDigits 10 d.digits).drop 1).map Char.toUInt8 = more := by
      rw [List.map_drop, ← digitBytes, hdigits]
      rfl
    have hmore : more ≠ [] := by
      rintro rfl
      rw [← List.length_map Char.toUInt8, ← digitBytes, hdigits] at hone
      exact hone rfl
    rw [if_neg hone, List.map_cons, hdrop]
    exact .of_fraction hfirst
      (fun c hc => hwhole.isDigit c (hdigits ▸ List.mem_cons_of_mem _ hc)) hmore
      (by rintro _ ⟨⟩; rfl) fun negative significand places => readsReal_afterFraction_exponent
        (hexponent negative significand places)

/-! ## Floating-point numbers -/

/-- Zero lies below the interval of reals that round to another number. -/
private theorem scale_quarters_pos {x : Binary64} (hx : x.isZero = false) (shift : Int) :
    0 < (Binary64.scale x.quarters.1 1 shift).1 := by
  have hsignificand : x.significand ≠ 0 := by simpa [Binary64.isZero] using hx
  have hquarters : 0 < x.quarters.1 := by
    unfold Binary64.quarters
    dsimp only
    split <;> omega
  unfold Binary64.scale
  split
  · rw [Nat.shiftLeft_eq]
    exact Nat.mul_pos hquarters (Nat.two_pow_pos _)
  · exact hquarters

/-- The decimal of a number other than zero has a digit other than zero. -/
private theorem decimalOf?_ne_zero {x : Binary64} (hx : x.isZero = false) {count : Nat}
    {d : Binary64.Decimal} (h : x.decimalOf? count = some d) : d.digits ≠ 0 := by
  have hlow := scale_quarters_pos hx (x.exponent - 2)
  unfold Binary64.decimalOf? at h
  simp only at h
  -- all that counts is that the lower end of the interval is above zero
  generalize (Binary64.scale x.quarters.1 1 (x.exponent - 2)).1 = low at h hlow
  generalize (Binary64.scale x.quarters.2.1 1 (x.exponent - 2)) = mid at h
  generalize (Binary64.scale x.quarters.2.2 1 (x.exponent - 2)).1 = high at h
  generalize Binary64.leadingExponent mid.1 mid.2 - ↑count + 1 = place at h
  have hup : 0 < Nat.pow 10 (-place).toNat := Nat.pow_pos (by decide)
  generalize Nat.pow 10 (-place).toNat = up at h hup
  generalize mid.2 * Nat.pow 10 place.toNat = grid at h
  generalize mid.1 * up / grid = below at h
  -- what is inside the interval is not zero
  have hinside : (if x.significand % 2 = 0 then
      decide (low * up ≤ below * grid) && decide (below * grid ≤ high * up)
      else decide (low * up < below * grid) && decide (below * grid < high * up)) = true →
      below ≠ 0 := by
    rintro hin rfl
    have hpos := Nat.mul_pos hlow hup
    split at hin
    all_goals
      simp only [Nat.zero_mul, Bool.and_eq_true, decide_eq_true_eq] at hin
      omega
  split at h
  next hbelow _ =>
    have hne := hinside hbelow
    split at h
    · cases h
      exact hne
    split at h
    · cases h
      exact Nat.succ_ne_zero _
    · cases h
      exact fun hsum => hne (Nat.eq_zero_of_add_eq_zero_right hsum)
  next hbelow _ =>
    cases h
    exact hinside hbelow
  next =>
    cases h
    exact Nat.succ_ne_zero _
  next => cases h

private theorem digits_strip_ne_zero {d : Binary64.Decimal} (hd : d.digits ≠ 0) (steps : Nat) :
    (d.strip steps).digits ≠ 0 := by
  induction steps generalizing d with
  | zero => exact hd
  | succ steps ih =>
    rw [Binary64.Decimal.strip]
    split
    next hten => exact ih (by dsimp only; omega)
    next => exact hd

/-- Only the decimal of zero has no digit other than zero, and that is not scaled. -/
private theorem exponent_shortest {x : Binary64} (h : x.shortest.digits = 0) :
    x.shortest.exponent = 0 := by
  unfold Binary64.shortest at h ⊢
  split
  next => rfl
  next hx =>
    rw [if_neg hx] at h
    split
    next d hd =>
      obtain ⟨n, _, hn⟩ := List.exists_of_findSome?_eq_some hd
      simp only [hd] at h
      exact absurd h (digits_strip_ne_zero (decimalOf?_ne_zero (by simpa using hx) hn) 18)
    next => rfl

private theorem toDigits_ascii {n : Nat} {c : Char} (h : c ∈ Nat.toDigits 10 n) : c.toNat < 128 :=
  Nat.lt_of_le_of_lt (Char.isDigit_iff_toNat.mp (toDigits_isDigit h)).2 (by decide)

private theorem positional_ascii (d : Binary64.Decimal) : ∀ c ∈ d.positional, c.toNat < 128 := by
  have hdigits : ∀ c ∈ Nat.toDigits 10 d.digits, c.toNat < 128 := fun _ => toDigits_ascii
  have hzeros : ∀ n, ∀ c ∈ Binary64.zeros n, c.toNat < 128 := fun n c hc => by
    rw [List.eq_of_mem_replicate hc]
    decide
  unfold Binary64.Decimal.positional
  dsimp only
  intro c hc
  -- the point stands behind the digits, between them or before them
  split at hc
  · simp only [List.mem_append, List.mem_cons, List.not_mem_nil, or_false] at hc
    obtain (hc | hc) | rfl | rfl := hc
    · exact hdigits c hc
    · exact hzeros _ c hc
    · decide
    · decide
  split at hc
  · simp only [List.mem_append, List.mem_cons, List.not_mem_nil, or_false] at hc
    obtain (hc | rfl) | hc := hc
    · exact hdigits c (List.mem_of_mem_take hc)
    · decide
    · exact hdigits c (List.mem_of_mem_drop hc)
  · simp only [List.mem_append, List.mem_cons, List.not_mem_nil, or_false] at hc
    obtain ((rfl | rfl) | hc) | hc := hc
    · decide
    · decide
    · exact hzeros _ c hc
    · exact hdigits c hc

private theorem scientific_ascii (d : Binary64.Decimal) : ∀ c ∈ d.scientific, c.toNat < 128 := by
  have hdigits : ∀ c ∈ Nat.toDigits 10 d.digits, c.toNat < 128 := fun _ => toDigits_ascii
  unfold Binary64.Decimal.scientific
  dsimp only
  intro c hc
  simp only [List.mem_append, List.mem_cons, List.not_mem_nil, or_false] at hc
  obtain ((hc | hc) | rfl | rfl) | hc := hc
  · exact hdigits c (List.mem_of_mem_take hc)
  · split at hc
    · cases hc
    · obtain rfl | hc := List.mem_cons.mp hc
      · decide
      · exact hdigits c (List.mem_of_mem_drop hc)
  · decide
  · split <;> decide
  · exact toDigits_ascii hc

/-- The text of a floating-point number is a sign and what is read as one. -/
theorem ofString_text (x : Binary64) : ∃ text, IsReal text ∧
    Bytes.ofString x.text = (if x.negative then [minus] else []) ++ text := by
  -- a sign in front of characters of one byte each
  have hsigned : ∀ cs : List Char, (∀ c ∈ cs, c.toNat < 128) →
      Bytes.ofString (x.signed cs) =
        (if x.negative then [minus] else []) ++ cs.map Char.toUInt8 := by
    intro cs hcs
    unfold Binary64.signed
    split
    · rw [Bytes.ofString_ascii]
      · rfl
      · exact List.forall_mem_cons.mpr ⟨by decide, hcs⟩
    · rw [Bytes.ofString_ascii hcs, List.nil_append]
  unfold Binary64.text
  dsimp only
  split
  · exact ⟨_, isReal_positional _ exponent_shortest, hsigned _ (positional_ascii _)⟩
  · exact ⟨_, isReal_scientific _, hsigned _ (scientific_ascii _)⟩

/-- What becomes of a floating-point number that is printed and read. -/
def reread (x : Binary64) : Except ReadError Binary64 :=
  match readToken 0 (Bytes.ofString x.text) with
  | .ok (.real y, _) => .ok y
  | .ok _ => .error (.grammar .invalidNumber)
  | .error e => .error e

/-- A floating-point number is read as `reread` says, whatever value follows. -/
theorem readToken_real (x : Binary64) (size : Nat) {rest : Bytes} (h : Ends rest) :
    readToken size (Bytes.ofString x.text ++ rest) = (reread x).map fun y => (.real y, rest) := by
  obtain ⟨text, ⟨digits, more, rfl, hdigits, hread⟩, htext⟩ := ofString_text x
  obtain ⟨r, hr⟩ := hread x.negative
  -- neither the size nor what follows matters, so that the number alone tells the result
  have htoken : ∀ size rest, Ends rest → readToken size (Bytes.ofString x.text ++ rest) =
      r.map fun y => (.real y, rest) := by
    intro size rest hrest
    rw [htext]
    cases hnegative : x.negative with
    | true =>
      rw [hnegative] at hr
      exact hr rest hrest
    | false =>
      rw [hnegative] at hr
      rw [if_neg Bool.false_ne_true, List.nil_append, List.append_assoc, readToken_digits hdigits,
        ← List.append_assoc]
      exact hr rest hrest
  have hreread : reread x = r := by
    have halone := htoken 0 [] ends_nil
    rw [List.append_nil] at halone
    rw [reread, halone]
    cases r <;> rfl
  rw [htoken size rest h, hreread]

end Json

end ServiceBroker
