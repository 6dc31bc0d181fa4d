import ServiceBroker.Gateway.Identity
import ServiceBroker.Proofs.Json.Utf8

/-!
# Two ways to present a common name

The common name of a caller comes with the request, if the server has checked the certificate
itself, or stands in a header field. A header field can carry any text without control characters,
but it is understood only if it is ASCII. So the two ways agree on names of ASCII characters, and on
names that hold no identity at all.

## Main definitions

* `Http.IsFieldValue`: what a header field can carry;
* `Text.IsAscii`: which texts are understood there;
* `Gateway.outcome`: the identity of a caller, or the status of its refusal.

## Main results

* `Gateway.callerOf_eq_notUtf8_iff`: when a header field is refused for its encoding;
* `Gateway.outcome_eq_iff`: when both ways have the same outcome;
* `Gateway.identity_sources_agree_iff`: the two together;
* `Gateway.identity_sources_differ_accented`: a name that the header field cannot present.
-/

namespace ServiceBroker

/-! ## Header fields -/

/-- The bytes that a header field can carry: no control characters but the tab. -/
def Http.IsFieldValue (value : Bytes) : Prop :=
  ∀ b ∈ value, (0x20 ≤ b ∧ b ≠ 0x7f) ∨ b = Ascii.tab

instance (value : Bytes) : Decidable (Http.IsFieldValue value) :=
  List.decidableBAll (fun b => (0x20 ≤ b ∧ b ≠ 0x7f) ∨ b = Ascii.tab) value

/-- A text of ASCII characters only. -/
def Text.IsAscii (s : String) : Prop := ∀ c ∈ s.toList, c.toNat < 0x80

instance (s : String) : Decidable (Text.IsAscii s) :=
  List.decidableBAll (fun c : Char => c.toNat < 0x80) s.toList

/-- A character is ASCII if and only if all bytes of its UTF-8 form are. -/
theorem Json.forall_utf8EncodeChar_lt_iff (c : Char) :
    (∀ b ∈ String.utf8EncodeChar c, b < 0x80) ↔ c.toNat < 0x80 := by
  have hsize : c.utf8Size = 1 ↔ c.toNat < 0x80 := by
    rw [Char.utf8Size_eq_one_iff, UInt32.le_iff_toNat_le]
    exact Nat.lt_succ_iff.symm
  constructor
  · intro hlow
    rcases utf8EncodeChar_cases c with ⟨b, -, hc⟩ | hhigh
    · rw [← hsize, ← String.length_utf8EncodeChar, hc, List.length_singleton]
    · -- there is a first byte, and it cannot be both
      obtain ⟨b, hb⟩ := List.exists_mem_of_length_pos
        (String.length_utf8EncodeChar c ▸ c.utf8Size_pos)
      exact absurd (hhigh b hb) (UInt8.not_le.mpr (hlow b hb))
  · intro hc b hb
    rw [String.utf8EncodeChar_eq_singleton (hsize.mpr hc), List.mem_singleton] at hb
    rw [hb, UInt8.lt_iff_toNat_lt, UInt32.toNat_toUInt8]
    exact Nat.lt_of_le_of_lt (Nat.mod_le _ _) hc

/-- A text is ASCII if and only if all bytes of its UTF-8 form are. -/
theorem Text.isAscii_iff (s : String) : IsAscii s ↔ ∀ b ∈ Bytes.ofString s, b < 0x80 := by
  simp only [Bytes.ofString_eq_flatMap, IsAscii, ← Json.forall_utf8EncodeChar_lt_iff,
    List.mem_flatMap, forall_exists_index, and_imp]
  exact ⟨fun h b c hc hb => h c hc b hb, fun h c hc b hb => h b c hc hb⟩

namespace Gateway

open Http (Request)

/-- Of what a header field can carry, ASCII is understood. -/
theorem headerText?_eq {value : Bytes} (h : Http.IsFieldValue value) :
    headerText? value = if value.all (· < 0x80) then Bytes.toString? value else none := by
  have hbyte (b : UInt8) (hb : (0x20 ≤ b ∧ b ≠ 0x7f) ∨ b = Ascii.tab) :
      ((0x20 ≤ b && b < 0x7f) || b == Ascii.tab) = true ↔ decide (b < 0x80) = true := by
    simp only [Bool.or_eq_true, Bool.and_eq_true, decide_eq_true_eq, beq_iff_eq]
    simp only [Ascii.tab, UInt8.le_iff_toNat_le, UInt8.lt_iff_toNat_lt, ne_eq, ← UInt8.toNat_inj,
      UInt8.reduceToNat] at hb ⊢
    omega
  refine if_congr ?_ rfl rfl
  rw [List.all_eq_true, List.all_eq_true]
  exact forall₂_congr fun b hb => hbyte b (h b hb)

theorem headerText?_eq_none_iff {value : Bytes} (h : Http.IsFieldValue value) :
    headerText? value = none ↔ ∃ b ∈ value, 0x80 ≤ b := by
  rw [headerText?_eq h]
  split
  case isTrue hascii =>
    have hlow : ∀ b ∈ value, b < 0x80 := by simpa using hascii
    obtain ⟨s, rfl⟩ := Bytes.IsText.of_ascii hlow
    simpa using hlow
  case isFalse hother =>
    simpa using hother

/-- What is understood is the name that the field carries. -/
private theorem headerText?_ofString {name : String} (h : Http.IsFieldValue (Bytes.ofString name)) :
    headerText? (Bytes.ofString name) = if Text.IsAscii name then some name else none := by
  have hlow : (Bytes.ofString name).all (· < 0x80) = true ↔ Text.IsAscii name := by
    rw [Text.isAscii_iff, List.all_eq_true]
    exact forall₂_congr fun b _ => decide_eq_true_iff
  rw [headerText?_eq h, Bytes.toString?_ofString]
  exact if_congr hlow rfl rfl

/-! ## Both ways -/

/-- The refusal of a header field for its encoding. -/
def notUtf8 : ApiError := .forbidden "identity header is not valid UTF-8"

/-- The identity of a caller, or the status with which the request is refused. -/
def outcome (header : String) (r : Request) : Except Nat Urn :=
  (callerOf header r).mapError ApiError.status

variable {header name : String} {r : Request} {value : Bytes}

private theorem callerOf_of_peerName (h : r.peerName = some name) :
    callerOf header r = identityOf name := by
  rw [callerOf, h]

/-- A header field is read as text, and the text as a common name. -/
theorem callerOf_of_header (hpeer : r.peerName = none)
    (hheader : r.header? (Text.toLower header) = some value) :
    callerOf header r = (headerText? value).elim (.error notUtf8) identityOf := by
  rw [callerOf, hpeer, hheader]
  dsimp only
  cases headerText? value with
  | none => rw [Option.elim_none, notUtf8]
  | some name => rw [Option.elim_some]

/-- A name without an identity is refused as such. -/
theorem identityOf_of_none (h : Urn.ofCommonName? (Text.trim name) = none) :
    identityOf name = .error (.ofIdentity ⟨Text.trim name⟩) := by
  rw [identityOf, Urn.ofCommonName, h]
  rfl

theorem identityOf_of_some {urn : Urn} (h : Urn.ofCommonName? (Text.trim name) = some urn) :
    identityOf name = .ok urn := by
  rw [identityOf, Urn.ofCommonName, h]
  rfl

/-- The refusal of a name is not worded as that of an encoding. -/
theorem ofIdentity_ne_notUtf8 (e : IdentityError) : ApiError.ofIdentity e ≠ notUtf8 := by
  have hmessage : e.message = "invalid identity: common name " ++
      (Text.quoted e.commonName ++ " is not of the form <namespace>.<id>") :=
    String.append_assoc
  have hstart := (congrArg String.toList hmessage).trans String.toList_append
  rw [ApiError.ofIdentity, notUtf8, Ne, ApiError.forbidden.injEq]
  intro hsame
  -- they differ in their second letter
  have hletter := congrArg (·[1]?) hstart
  rw [hsame, List.getElem?_append_left (by decide)] at hletter
  exact absurd hletter (by decide)

private theorem identityOf_ne_notUtf8 (name : String) : identityOf name ≠ .error notUtf8 := by
  cases h : Urn.ofCommonName? (Text.trim name) with
  | none =>
    rw [identityOf_of_none h]
    simpa using ofIdentity_ne_notUtf8 _
  | some urn =>
    rw [identityOf_of_some h]
    nofun

/-- A header field is refused for its encoding if and only if it is not ASCII. -/
theorem callerOf_eq_notUtf8_iff (hpeer : r.peerName = none)
    (hheader : r.header? (Text.toLower header) = some value) (hvalue : Http.IsFieldValue value) :
    callerOf header r = .error notUtf8 ↔ ∃ b ∈ value, 0x80 ≤ b := by
  rw [callerOf_of_header hpeer hheader, ← headerText?_eq_none_iff hvalue]
  cases headerText? value with
  | none => exact iff_of_true rfl rfl
  | some name => simpa using identityOf_ne_notUtf8 name

/-- Both ways have the same outcome for a name if and only if it is ASCII or holds no identity. -/
theorem outcome_eq_iff {certified presented : Request} (hcertified : certified.peerName = some name)
    (hpresented : presented.peerName = none)
    (hheader : presented.header? (Text.toLower header) = some (Bytes.ofString name))
    (hvalue : Http.IsFieldValue (Bytes.ofString name)) :
    outcome header certified = outcome header presented ↔
      Text.IsAscii name ∨ Urn.ofCommonName? (Text.trim name) = none := by
  rw [outcome, outcome, callerOf_of_peerName hcertified, callerOf_of_header hpresented hheader,
    headerText?_ofString hvalue]
  by_cases hascii : Text.IsAscii name
  · simp [hascii]
  · -- the header field is refused by 403, and so is a name without an identity
    rw [if_neg hascii]
    cases h : Urn.ofCommonName? (Text.trim name) with
    | none =>
      rw [identityOf_of_none h]
      exact iff_of_true rfl (.inr rfl)
    | some urn =>
      rw [identityOf_of_some h]
      exact iff_of_false nofun (by simp [hascii])

/-- How a common name fares that comes with the request, and one in the header field of that name:
the two agree exactly for ASCII and for what holds no identity, and the field is refused for its
encoding exactly if it holds a byte that is not ASCII, whether or not it is UTF-8. -/
theorem identity_sources_agree_iff (header : String) :
    (∀ (name : String) (certified presented : Request), certified.peerName = some name →
      presented.peerName = none →
      presented.header? (Text.toLower header) = some (Bytes.ofString name) →
      Http.IsFieldValue (Bytes.ofString name) →
      (outcome header certified = outcome header presented ↔
        Text.IsAscii name ∨ Urn.ofCommonName? (Text.trim name) = none)) ∧
    ∀ (r : Request) (value : Bytes), r.peerName = none →
      r.header? (Text.toLower header) = some value → Http.IsFieldValue value →
      (callerOf header r = .error notUtf8 ↔ ∃ b ∈ value, 0x80 ≤ b) := by
  constructor
  case left =>
    intro name certified presented hcertified hpresented hheader hvalue
    exact outcome_eq_iff hcertified hpresented hheader hvalue
  case right =>
    intro r value hpeer hheader hvalue
    exact callerOf_eq_notUtf8_iff hpeer hheader hvalue

/-- A look at the subscriptions by a caller whose common name the server has checked. -/
def certifiedRequest (name : String) : Request where
  method := "GET"
  path := Bytes.ofString "/subscriptions"
  peerName := some name

/-- A look at the subscriptions by a caller whose common name stands in a header field. -/
def presentedRequest (value : Bytes) : Request where
  method := "GET"
  path := Bytes.ofString "/subscriptions"
  headers := [("x-ssl-client-cn", value)]

theorem header?_presentedRequest (value : Bytes) :
    (presentedRequest value).header? (Text.toLower "X-SSL-Client-CN") = some value := by
  have hname : Text.toLower "X-SSL-Client-CN" = "x-ssl-client-cn" := by decide +kernel
  rw [hname]
  rfl

/-- Blanks around a name do not count either way. A lone byte `0xff` is no UTF-8. -/
theorem identity_sources_agree_spaced :
    outcome "X-SSL-Client-CN" (certifiedRequest " shop.cart \t") =
      outcome "X-SSL-Client-CN" (presentedRequest (Bytes.ofString " shop.cart \t")) ∧
    callerOf "X-SSL-Client-CN" (presentedRequest [0xff]) = .error notUtf8 :=
  ⟨((identity_sources_agree_iff "X-SSL-Client-CN").1 " shop.cart \t" _ _ rfl rfl
      (header?_presentedRequest _) (by decide)).mpr (.inl (by decide)),
    ((identity_sources_agree_iff "X-SSL-Client-CN").2 _ [0xff] rfl (header?_presentedRequest _)
      (by decide)).mpr ⟨0xff, by decide, by decide⟩⟩

/-- A name with an accent is UTF-8 and fits into a header field, but identifies its caller only if
the server has checked the certificate. -/
theorem identity_sources_differ_accented :
    Http.IsFieldValue (Bytes.ofString "é.b") ∧ (Bytes.ofString "é.b").IsText ∧
      outcome "X-SSL-Client-CN" (certifiedRequest "é.b") = .ok ⟨"é", "b"⟩ ∧
      outcome "X-SSL-Client-CN" (presentedRequest (Bytes.ofString "é.b")) = .error 403 ∧
      callerOf "X-SSL-Client-CN" (presentedRequest (Bytes.ofString "é.b")) = .error notUtf8 := by
  have hcaller : callerOf "X-SSL-Client-CN" (presentedRequest (Bytes.ofString "é.b")) =
      .error notUtf8 := by
    rw [callerOf_of_header rfl (header?_presentedRequest _)]
    decide
  refine ⟨by decide, .ofString _, by decide, ?_, hcaller⟩
  rw [outcome, hcaller]
  rfl

end Gateway

end ServiceBroker
