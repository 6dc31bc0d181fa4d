import Mathlib.Data.List.TakeDrop
import Mathlib.Data.List.TakeWhile
import ServiceBroker.RegistryEvent

/-!
# Identities in common names

A common name holds an identity if neither of its first two dot-delimited segments is empty. What
stands behind a second dot does not count, be it empty or full of dots.

## Main definitions

* `Urn.IsSegment`: what can stand between two dots as a namespace or id;
* `Urn.IsIn`: the common names that hold a URN;
* `Urn.segments`: what stands between the dots of a text.

## Main results

* `Urn.ofCommonName?_eq_some_iff`: the URN that is found is the one that is held;
* `Urn.isIn_iff`: the first two segments of a common name settle its URN;
* `Urn.commonName_grammar`: the two together, with what follows for the text of a URN.
-/

namespace ServiceBroker.Urn

variable {name a b : String} {urn : Urn}

/-! ## Common names -/

/-- What can stand between two dots as a namespace or id: some characters, and no dot. -/
def IsSegment (s : String) : Prop := s ≠ "" ∧ '.' ∉ s.toList

/-- The common names that hold a URN: `namespace.id` and `namespace.id.suffix`, with any suffix. -/
structure IsIn (urn : Urn) (name : String) : Prop where
  /-- The namespace is a segment. -/
  ns : IsSegment urn.ns
  /-- The id is a segment. -/
  id : IsSegment urn.id
  /-- Both stand at the start of the name. -/
  name_eq : name = urn.ns ++ "." ++ urn.id ∨
    ∃ suffix, name = urn.ns ++ "." ++ urn.id ++ "." ++ suffix

/-- What stands between the dots of a text, and before the first and behind the last of them. -/
def segments (name : String) : List String := (name.toList.splitOn '.').map String.ofList

/-! ## The first two segments -/

theorem segments_of_notMem (h : '.' ∉ name.toList) : segments name = [name] := by
  rw [segments, List.splitOn_eq_singleton h, List.map_singleton, String.ofList_toList]

theorem toList_append_dot (a b : String) :
    (a ++ "." ++ b).toList = a.toList ++ '.' :: b.toList := by
  rw [String.toList_append, String.toList_append, List.append_assoc]
  rfl

theorem segments_append (h : '.' ∉ a.toList) (b : String) :
    segments (a ++ "." ++ b) = a :: segments b := by
  rw [segments, toList_append_dot, List.splitOn_append_cons_self_of_not_mem h, List.map_cons,
    String.ofList_toList, segments]

/-- A text with a dot in it is cut at the first one. -/
theorem exists_of_mem (h : '.' ∈ name.toList) :
    ∃ a b : String, '.' ∉ a.toList ∧ name = a ++ "." ++ b := by
  obtain ⟨before, after, heq, hbefore⟩ := List.eq_append_cons_of_mem h
  refine ⟨String.ofList before, String.ofList after, by rwa [String.toList_ofList], ?_⟩
  rw [← String.toList_inj, toList_append_dot, String.toList_ofList, String.toList_ofList, heq]

theorem append_dot_assoc (a b c : String) :
    a ++ "." ++ b ++ "." ++ c = a ++ "." ++ (b ++ "." ++ c) := by
  simp only [String.append_assoc]

/-- A text has no dot, one dot, or more; it is cut at the first two of them. -/
inductive Shape : String → Prop
  | plain {name : String} : '.' ∉ name.toList → Shape name
  | pair {a b : String} : '.' ∉ a.toList → '.' ∉ b.toList → Shape (a ++ "." ++ b)
  | more {a b : String} (suffix : String) : '.' ∉ a.toList → '.' ∉ b.toList →
      Shape (a ++ "." ++ b ++ "." ++ suffix)

theorem shape (name : String) : Shape name := by
  by_cases hfirst : '.' ∈ name.toList
  · obtain ⟨a, rest, ha, rfl⟩ := exists_of_mem hfirst
    by_cases hsecond : '.' ∈ rest.toList
    · obtain ⟨b, suffix, hb, rfl⟩ := exists_of_mem hsecond
      rw [← append_dot_assoc]
      exact .more suffix ha hb
    · exact .pair ha hsecond
  · exact .plain hfirst

/-- The first two segments of a common name settle its URN. -/
theorem isIn_iff :
    urn.IsIn name ↔ urn.ns ≠ "" ∧ urn.id ≠ "" ∧ (segments name).take 2 = [urn.ns, urn.id] := by
  constructor
  · rintro ⟨⟨hns, hnsDot⟩, ⟨hid, hidDot⟩, rfl | ⟨suffix, rfl⟩⟩
    · rw [segments_append hnsDot, segments_of_notMem hidDot]
      exact ⟨hns, hid, rfl⟩
    · rw [append_dot_assoc, segments_append hnsDot, segments_append hidDot]
      exact ⟨hns, hid, rfl⟩
  · rintro ⟨hns, hid, htake⟩
    -- by the number of dots in the name
    cases shape name with
    | plain hdot =>
      rw [segments_of_notMem hdot] at htake
      cases htake
    | pair ha hb =>
      rw [segments_append ha, segments_of_notMem hb] at htake
      cases htake
      exact ⟨⟨hns, ha⟩, ⟨hid, hb⟩, .inl rfl⟩
    | more suffix ha hb =>
      rw [append_dot_assoc, segments_append ha, segments_append hb] at htake
      cases htake
      exact ⟨⟨hns, ha⟩, ⟨hid, hb⟩, .inr ⟨suffix, rfl⟩⟩

/-! ## What is found -/

theorem ne_dot (h : '.' ∉ name.toList) : ∀ c ∈ name.toList, (!(c == '.')) = true := by
  intro c hc
  simpa using ne_of_mem_of_not_mem hc h

private theorem ofCommonName?_of_notMem (h : '.' ∉ name.toList) : ofCommonName? name = none := by
  rw [ofCommonName?, List.span_eq_takeWhile_dropWhile, List.dropWhile_eq_nil_iff.mpr (ne_dot h)]

/-- Between the first dot and the next one stands the id. -/
theorem ofCommonName?_append {id rest : String} (h : '.' ∉ a.toList)
    (hid : rest.toList.takeWhile (fun c => !(c == '.')) = id.toList) :
    ofCommonName? (a ++ "." ++ rest) = if a = "" ∨ id = "" then none else some ⟨a, id⟩ := by
  have htake : ('.' :: rest.toList).takeWhile (fun c => !(c == '.')) = [] := rfl
  have hdrop : ('.' :: rest.toList).dropWhile (fun c => !(c == '.')) = '.' :: rest.toList := rfl
  rw [ofCommonName?, toList_append_dot, List.span_eq_takeWhile_dropWhile,
    List.takeWhile_append_of_pos (ne_dot h), List.dropWhile_append_of_pos (ne_dot h), htake, hdrop]
  simp only [hid, List.append_nil, String.ofList_toList, Bool.or_eq_true, List.isEmpty_iff,
    String.toList_eq_nil_iff]

/-- The URN that is found in a common name is the one that it holds. -/
theorem ofCommonName?_eq_some_iff : ofCommonName? name = some urn ↔ urn.IsIn name := by
  rw [isIn_iff]
  -- once the first two segments are known, neither may be empty
  have hpair (ns id : String) : (if ns = "" ∨ id = "" then none else some (⟨ns, id⟩ : Urn)) =
      some urn ↔ urn.ns ≠ "" ∧ urn.id ≠ "" ∧ [ns, id] = [urn.ns, urn.id] := by
    rw [Option.ite_none_left_eq_some, not_or, Option.some_inj]
    constructor
    · rintro ⟨⟨hns, hid⟩, rfl⟩
      exact ⟨hns, hid, rfl⟩
    · rintro ⟨hns, hid, heq⟩
      cases heq
      exact ⟨⟨hns, hid⟩, rfl⟩
  cases shape name with
  | plain hdot =>
    rw [ofCommonName?_of_notMem hdot, segments_of_notMem hdot]
    simp
  | pair ha hb =>
    rw [ofCommonName?_append ha (List.takeWhile_eq_self_iff.mpr (ne_dot hb)), hpair,
      segments_append ha, segments_of_notMem hb]
    rfl
  | @more a b suffix ha hb =>
    have hid : (b ++ "." ++ suffix).toList.takeWhile (fun c => !(c == '.')) = b.toList := by
      rw [toList_append_dot, List.takeWhile_append_of_pos (ne_dot hb)]
      simp
    rw [append_dot_assoc, ofCommonName?_append ha hid, hpair, segments_append ha,
      segments_append hb]
    rfl

theorem ofCommonName_eq_ok_iff : ofCommonName name = .ok urn ↔ urn.IsIn name := by
  rw [← ofCommonName?_eq_some_iff, ofCommonName]
  cases ofCommonName? name <;> simp

/-- A common name that holds no URN is refused under its own text. -/
theorem ofCommonName_eq_error_iff {e : IdentityError} :
    ofCommonName name = .error e ↔ e = ⟨name⟩ ∧ ∀ urn : Urn, ¬urn.IsIn name := by
  simp only [← ofCommonName?_eq_some_iff, ← Option.eq_none_iff_forall_ne_some, ofCommonName]
  cases ofCommonName? name with
  | none => simp [eq_comm]
  | some urn => simp

/-! ## Texts of URNs -/

/-- The text of a URN that some common name holds is itself a common name that holds it. -/
theorem IsIn.display (h : urn.IsIn name) : urn.IsIn urn.display := ⟨h.ns, h.id, .inl rfl⟩

theorem IsIn.unique {urn' : Urn} (h : urn.IsIn name) (h' : urn'.IsIn name) : urn = urn' := by
  rw [← ofCommonName?_eq_some_iff] at h h'
  exact Option.some.inj (h.symm.trans h')

/-- URNs that common names hold are told apart by their texts. -/
theorem IsIn.display_inj {urn' : Urn} {name' : String} (h : urn.IsIn name) (h' : urn'.IsIn name') :
    urn.display = urn'.display ↔ urn = urn' := by
  refine ⟨fun heq => ?_, congrArg Urn.display⟩
  exact h.display.unique (heq ▸ h'.display)

/-- Two common names hold one URN if and only if they have the same first two segments. -/
theorem IsIn.eq_iff {urn' : Urn} {name' : String} (h : urn.IsIn name) (h' : urn'.IsIn name') :
    urn = urn' ↔ (segments name).take 2 = (segments name').take 2 := by
  rw [(isIn_iff.mp h).2.2, (isIn_iff.mp h').2.2]
  cases urn
  cases urn'
  simp

/-- A common name is accepted if and only if it is `namespace.id` or `namespace.id.suffix`, with any
suffix and with a namespace and an id that are not empty and have no dot in them; these two make the
URN, and every other name is refused under its own text. A URN that was accepted is read back from
its text, and such URNs and the keys of their events are told apart by these texts. Two names are
accepted as one URN if and only if they have the same first two segments. -/
theorem commonName_grammar :
    (∀ (name : String) (urn : Urn), ofCommonName name = .ok urn ↔ urn.IsIn name) ∧
    (∀ (name : String) (e : IdentityError),
      ofCommonName name = .error e ↔ e = ⟨name⟩ ∧ ∀ urn : Urn, ¬urn.IsIn name) ∧
    (∀ (name : String) (urn : Urn),
      ofCommonName name = .ok urn → ofCommonName urn.display = .ok urn) ∧
    (∀ (name name' : String) (urn urn' : Urn),
      ofCommonName name = .ok urn → ofCommonName name' = .ok urn' →
      (urn.display = urn'.display ↔ urn = urn') ∧
      (urn = urn' ↔ (segments name).take 2 = (segments name').take 2)) ∧
    ∀ (name name' : String) (e e' : RegistryEvent),
      ofCommonName name = .ok e.urn → ofCommonName name' = .ok e'.urn →
      (e.key = e'.key ↔ e.urn = e'.urn) := by
  have hheld {name : String} {urn : Urn} : ofCommonName name = .ok urn → urn.IsIn name :=
    ofCommonName_eq_ok_iff.mp
  refine ⟨fun _ _ => ofCommonName_eq_ok_iff, fun _ _ => ofCommonName_eq_error_iff, ?_, ?_, ?_⟩
  · intro name urn h
    exact ofCommonName_eq_ok_iff.mpr (hheld h).display
  · intro name name' urn urn' h h'
    exact ⟨(hheld h).display_inj (hheld h'), (hheld h).eq_iff (hheld h')⟩
  · intro name name' e e' h h'
    exact (hheld h).display_inj (hheld h')

/-- A suffix may be empty or start with a dot, an id may not. -/
theorem commonName_grammar_suffixed :
    let pos : Urn := ⟨"retail", "pos-7"⟩
    ofCommonName "retail.pos-7." = .ok pos ∧ ofCommonName "retail.pos-7..edge" = .ok pos ∧
      ofCommonName pos.display = .ok pos ∧
      (segments "retail.pos-7.").take 2 = (segments "retail.pos-7..edge").take 2 ∧
      (RegistryEvent.deregister pos).key = (RegistryEvent.register (.bare pos)).key ∧
      ofCommonName "retail..pos-7" = .error ⟨"retail..pos-7"⟩ ∧
      ∀ urn : Urn, ¬urn.IsIn "retail..pos-7" := by
  intro pos
  obtain ⟨-, hrefused, hread, hsame, hkey⟩ := commonName_grammar
  have hempty : ofCommonName "retail.pos-7." = .ok pos := by decide
  have hdotted : ofCommonName "retail.pos-7..edge" = .ok pos := by decide
  have hrepeated : ofCommonName "retail..pos-7" = .error ⟨"retail..pos-7"⟩ := by decide
  exact ⟨hempty, hdotted, hread _ _ hempty, (hsame _ _ _ _ hempty hdotted).2.mp rfl,
    (hkey _ _ (.deregister pos) (.register (.bare pos)) hempty hdotted).mpr rfl, hrepeated,
    ((hrefused _ _).mp hrepeated).2⟩

end ServiceBroker.Urn
