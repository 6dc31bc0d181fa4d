import ServiceBroker.Proofs.Json.Reread

/-!
# Objects as they stand in a text

Where an object is read as free-form data its members are sorted, and of two with one key the later
is kept. Here the members are read as they stand in the text, so that repeated keys are seen.

## Main definitions

* `readObject`: reads the members of an object;
* `Only`: an object has exactly one member of a name.

## Main results

* `ReadsAs.object`: the members of a printed object are read back.
-/

namespace ServiceBroker.Json

open Ascii

/-! ## Members -/

/-- Exactly one member has the name, and this is its value. -/
def Only (members : List Member) (name : String) (v : Value) : Prop :=
  ∃ before after, members = before ++ (name, v) :: after ∧ ∀ m ∈ before ++ after, m.1 ≠ name

theorem only_iff_filter {members : List Member} {name : String} {v : Value} :
    Only members name v ↔ members.filter (·.1 == name) = [(name, v)] := by
  rw [List.filter_eq_cons_iff]
  simp only [Only, List.mem_append, or_imp, forall_and, List.filter_eq_nil_iff, beq_iff_eq,
    true_and, ne_eq]

/-- The value is that of every member that has the name. -/
theorem Only.eq_of_mem {members : List Member} {name : String} {v w : Value}
    (h : Only members name v) (hmem : (name, w) ∈ members) : w = v := by
  obtain ⟨before, after, rfl, hothers⟩ := h
  simp only [List.mem_append, List.mem_cons, Prod.mk.injEq, true_and] at hmem hothers
  rcases hmem with hbefore | rfl | hafter
  · exact absurd rfl (hothers _ (.inl hbefore))
  · rfl
  · exact absurd rfl (hothers _ (.inr hafter))

/-! ## Reading -/

/-- Reads the members of an object as they stand in the text. -/
def readObject : Reader (List Member) := fun depth size bytes => do
  match ← readToken size bytes with
  | (.object, rest) =>
    let depth ← enter depth
    readMembers (Value.read depth size) size size [] rest
  | (found, _) => wrongType found "a map"

/-- The members of a printed object are read back if their values stay as they are. -/
theorem ReadsAs.object {depth : Nat} {members : List Member}
    (hcanonical : ∀ m ∈ members, m.2.Canonical)
    (hstays : ∀ m ∈ members, m.2.reread depth = .ok m.2) :
    ReadsAs readObject (depth + 1) (.object members) (.ok members) := by
  intro size rest hrest hsize
  rw [Value.text_object_append] at hsize ⊢
  have hread : readMembers (Value.read depth size) size size []
      (Value.membersText true members ++ closeBrace :: rest) =
      (members.mapM (onValue (Value.reread depth))).map fun members => (members, rest) :=
    readMembers_text (fun m hm rest hrest hle =>
      Value.readsAs (hcanonical m hm) size rest hrest hle)
      size [] rest (Nat.le_of_succ_le hsize) (Nat.le_of_succ_le hsize)
  rw [mapM_eq_ok_self_iff.mpr fun m hm => onValue_eq_ok_self_iff.mpr (hstays m hm)] at hread
  rw [readObject, readToken_openBrace]
  exact hread

end ServiceBroker.Json
