import ServiceBroker.Proofs.Json.RealNumbers

/-!
# The order of texts

Texts are ordered by their characters, byte strings by their bytes. UTF-8 keeps the order, since the
first byte of a character tells how long its form is and grows with it: no form starts another one,
and where two forms differ the smaller byte belongs to the smaller character.

- `Text.utf8EncodeChar_append_lt`: the first character that differs decides;
- `Text.ofString_lt_iff`: a text comes before another if and only if its UTF-8 form does;
- `Text.compare_eq_lt_iff`: so texts are compared byte by byte.
-/

namespace ServiceBroker.Text

/-- Of two characters the smaller has the smaller form, whatever follows them. -/
theorem utf8EncodeChar_append_lt {c d : Char} (h : c < d) (r s : Bytes) :
    String.utf8EncodeChar c ++ r < String.utf8EncodeChar d ++ s := by
  have hlt : c.val.toNat < d.val.toNat := UInt32.lt_iff_toNat_lt.mp h
  have hd : d.val.toNat < 0x110000 := by
    rcases d.valid with hlow | ⟨-, hhigh⟩
    · exact Nat.lt_trans hlow (by decide)
    · exact hhigh
  -- the digits to base 64, of which each continuation byte holds one
  have hdigit₂ (n : Nat) : n / 4096 = n / 64 / 64 := by omega
  have hdigit₃ (n : Nat) : n / 262144 = n / 64 / 64 / 64 := by omega
  have hbyte (n : Nat) : (n % 64 + 128) % 256 = n % 64 + 128 := by omega
  unfold String.utf8EncodeChar
  dsimp only
  -- as many bytes on both sides, or a greater first byte on the right
  split_ifs
  all_goals
    simp only [List.cons_append, List.nil_append, List.cons_lt_cons_iff, UInt8.lt_iff_toNat_lt,
      ← UInt8.toNat_inj, UInt8.toNat_ofNat', hdigit₂, hdigit₃, hbyte]
    omega

private theorem flatMap_utf8EncodeChar_lt {cs ds : List Char} (h : cs < ds) :
    cs.flatMap String.utf8EncodeChar < ds.flatMap String.utf8EncodeChar := by
  induction h with
  | @nil d ds =>
    -- a character has some byte
    obtain ⟨b, bytes, hd⟩ := List.exists_cons_of_ne_nil (String.utf8EncodeChar_ne_nil (c := d))
    rw [List.flatMap_nil, List.flatMap_cons, hd, List.cons_append]
    exact List.nil_lt_cons b _
  | @cons c cs ds _ ih =>
    rw [List.flatMap_cons, List.flatMap_cons]
    exact List.append_left_lt ih
  | rel hcd =>
    rw [List.flatMap_cons, List.flatMap_cons]
    exact utf8EncodeChar_append_lt hcd _ _

/-- A text comes before another if and only if its UTF-8 form does. -/
theorem ofString_lt_iff (s t : String) : Bytes.ofString s < Bytes.ofString t ↔ s < t := by
  have hkeeps {s t : String} (h : s < t) : Bytes.ofString s < Bytes.ofString t := by
    rw [Bytes.ofString_eq_flatMap, Bytes.ofString_eq_flatMap]
    exact flatMap_utf8EncodeChar_lt h
  refine ⟨fun h => ?_, hkeeps⟩
  by_contra hst
  by_cases hts : t < s
  · exact List.lt_asymm h (hkeeps hts)
  · obtain rfl : s = t := String.le_antisymm (String.not_lt.mp hts) (String.not_lt.mp hst)
    exact List.lt_irrefl _ h

/-- Texts are compared as their UTF-8 forms are. -/
theorem compare_eq_lt_iff {s t : String} :
    compare s t = .lt ↔ Bytes.ofString s < Bytes.ofString t := by
  rw [ofString_lt_iff]
  exact compareOfLessAndEq_eq_lt

end ServiceBroker.Text
