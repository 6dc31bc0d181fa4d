import Mathlib.Algebra.GroupWithZero.Nat
import ServiceBroker.Duration
import ServiceBroker.Proofs.Json.RealNumbers

/-!
# Spans of time as people write them

A span that is written in units is read back to the nanosecond, up to the longest one. A month and a
year are no whole numbers of each other, so the units do not nest; but each unit is split off what
the larger ones leave, and the parts add up to the span. No sum on the way is larger than the span,
so none of them overflows.

## Main definitions

* `Duration.Term`: a number with the name of a unit;
* `Duration.terms`: the terms that a span is written with.

## Main results

* `Duration.readGroups?_terms`: terms are read one by one and added up;
* `Duration.sum_terms`: the terms of a span add up to it;
* `Duration.parse?_display`: a span that was written is read back.
-/

namespace ServiceBroker.Duration

/-! ## Terms -/

/-- The nanoseconds of a unit. -/
def TimeUnit.nanos (unit : TimeUnit) : Nat := unit.length.1 * secondNanos + unit.length.2

/-- A number with the name of a unit. -/
structure Term where
  count : Nat
  name : String
  unit : TimeUnit
  /-- The name stands for the unit. -/
  named : TimeUnit.ofName? name = some unit := by decide

namespace Term

/-- The term as it is written. -/
def text (t : Term) : String := toString t.count ++ t.name

/-- The nanoseconds of the term. -/
def nanos (t : Term) : Nat := t.count * t.unit.nanos

/-- A unit below a second is counted up to a second. -/
def IsSplit (t : Term) : Prop := t.count * t.unit.length.2 < secondNanos

end Term

/-! ## Names of units -/

/-- Names of units are made of letters. -/
theorem isUnitChar_of_ofName? {name : String} {unit : TimeUnit}
    (h : TimeUnit.ofName? name = some unit) :
    name.toList ≠ [] ∧ ∀ c ∈ name.toList, isUnitChar c := by
  have hall : ∀ entry ∈ TimeUnit.names, ∀ name ∈ entry.2,
      name.toList ≠ [] ∧ ∀ c ∈ name.toList, isUnitChar c := by
    simp [TimeUnit.names, isUnitChar]
  obtain ⟨entry, hentry, -⟩ := Option.map_eq_some_iff.mp h
  have hname := List.find?_some hentry
  exact hall entry (List.mem_of_find?_eq_some hentry) name (List.contains_iff_mem.mp hname)

/-- A letter goes on no number. -/
private theorem not_number_of_isUnitChar {c : Char} (h : isUnitChar c) :
    c.isDigit = false ∧ Text.isBlank c = false ∧ c ≠ '.' := by
  -- the letters are those of ASCII and the micro sign
  have hbounds : 65 ≤ c.toNat ∧ c.toNat ≤ 122 ∨ c.toNat = 181 := by
    obtain halpha | hmicro := Bool.or_eq_true_iff.mp h
    · left
      have hcases : (c.isUpper || c.isLower) = true := halpha
      obtain hupper | hlower := Bool.or_eq_true_iff.mp hcases
      · obtain ⟨hlow, hhigh⟩ : 'A'.val ≤ c.val ∧ c.val ≤ 'Z'.val := of_decide_eq_true hupper
        rw [UInt32.le_iff_toNat_le] at hlow hhigh
        exact ⟨hlow, Nat.le_trans hhigh (by decide)⟩
      · have hboth : (decide ('a'.val ≤ c.val) && decide (c.val ≤ 'z'.val)) = true := hlower
        obtain ⟨hlow, hhigh⟩ : 'a'.val ≤ c.val ∧ c.val ≤ 'z'.val := by simpa using hboth
        rw [UInt32.le_iff_toNat_le] at hlow hhigh
        exact ⟨Nat.le_trans (by decide) hlow, hhigh⟩
    · right
      rw [beq_iff_eq.mp hmicro]
      rfl
  refine ⟨?_, ?_, ?_⟩
  · rw [Bool.eq_false_iff, ne_eq, Char.isDigit_iff_toNat]
    rintro ⟨_, hle⟩
    have hle : c.toNat ≤ 57 := hle
    omega
  · simp only [Text.isBlank, Bool.or_eq_false_iff, Bool.and_eq_false_iff, decide_eq_false_iff_not,
      beq_eq_false_iff_ne]
    omega
  · rintro rfl
    revert hbounds
    decide

/-- A digit is not blank. -/
theorem isBlank_of_isDigit {c : Char} (h : c.isDigit) : Text.isBlank c = false := by
  obtain ⟨hlow, hhigh⟩ := Char.isDigit_iff_toNat.mp h
  have hlow : 48 ≤ c.toNat := hlow
  have hhigh : c.toNat ≤ 57 := hhigh
  simp only [Text.isBlank, Bool.or_eq_false_iff, Bool.and_eq_false_iff, decide_eq_false_iff_not,
    beq_eq_false_iff_ne]
  omega

/-! ## Reading terms -/

/-- Digits are read as a number, up to what goes on no number. -/
private theorem readWhole?_digits {cs rest : List Char} (hcs : ∀ c ∈ cs, c.isDigit)
    (hrest : ∀ c ∈ rest.head?, c.isDigit = false ∧ Text.isBlank c = false) (n : Nat)
    (hfits : Nat.ofDigitChars 10 cs n < wordLimit) :
    readWhole? n (cs ++ rest) = some (Nat.ofDigitChars 10 cs n, rest) := by
  induction cs generalizing n with
  | nil =>
    cases rest with
    | nil => rfl
    | cons c rest =>
      obtain ⟨hdigit, hblank⟩ := hrest c rfl
      simp [readWhole?, hdigit, hblank]
  | cons c cs ih =>
    have hnext : 10 * n + (c.toNat - '0'.toNat) = n * 10 + (c.toNat - 48) := by
      rw [Nat.mul_comm]
      rfl
    rw [Nat.ofDigitChars_cons, hnext] at hfits ⊢
    -- the digits that follow make the number no smaller
    have hword : n * 10 + (c.toNat - 48) < wordLimit := by
      rw [Nat.ofDigitChars_eq_ofDigitChars_zero] at hfits
      have hpos : 0 < 10 ^ cs.length := Nat.pow_pos (by decide)
      have hgrow := Nat.le_mul_of_pos_left (n * 10 + (c.toNat - 48)) hpos
      omega
    rw [List.cons_append, readWhole?, if_pos (hcs c (List.mem_cons_self ..)), appendDigit?, word?,
      if_pos hword]
    exact ih (fun d hd => hcs d (List.mem_cons_of_mem _ hd)) _ hfits

private theorem word?_of_lt {n : Nat} (h : n < wordLimit) : word? n = some n := if_pos h

private theorem ofNanos?_nanos (d : Duration) : ofNanos? d.nanos = some d := dif_pos d.bounded

/-- What is part of a span fits a span. -/
theorem lt_of_add_eq_nanos {m n : Nat} {sum : Duration} (h : m + n = sum.nanos) :
    m < wordLimit * secondNanos :=
  Nat.lt_of_le_of_lt (Nat.le.intro h) sum.bounded

/-- What makes another span with the first one is added to it. -/
private theorem add?_eq {d sum : Duration} {seconds nanos : Nat}
    (hcarry : d.nanos % secondNanos + nanos < wordLimit)
    (hsum : d.nanos + seconds * secondNanos + nanos = sum.nanos) :
    d.add? seconds nanos = some sum := by
  rw [add?, word?_of_lt hcarry, hsum, ofNanos?_nanos]
  rfl

/-- The parts of a term that fits a span fit 64 bits. -/
private theorem Term.word_of_fits {t : Term} (hsplit : t.IsSplit)
    (hfits : t.nanos < wordLimit * secondNanos) :
    t.count * t.unit.length.1 < wordLimit ∧ t.count * t.unit.length.2 < wordLimit := by
  rw [nanos, TimeUnit.nanos, Nat.mul_add, ← Nat.mul_assoc] at hfits
  have hsecond : secondNanos < wordLimit := by decide
  exact ⟨Nat.lt_of_mul_lt_mul_right (Nat.lt_of_le_of_lt (Nat.le_add_right ..) hfits),
    Nat.lt_trans hsplit hsecond⟩

private theorem Term.count_lt {t : Term} (hsplit : t.IsSplit)
    (hfits : t.nanos < wordLimit * secondNanos) :
    t.count < wordLimit := by
  obtain ⟨hseconds, hnanos⟩ := word_of_fits hsplit hfits
  have hunit : ∀ unit : TimeUnit, 0 < unit.length.1 ∨ 0 < unit.length.2 := by
    intro unit
    cases unit <;> decide
  obtain hpos | hpos := hunit t.unit
  · exact Nat.lt_of_le_of_lt (Nat.le_mul_of_pos_right _ hpos) hseconds
  · exact Nat.lt_of_le_of_lt (Nat.le_mul_of_pos_right _ hpos) hnanos

/-- A term is added to a span that leaves room for it. -/
private theorem addUnits?_term {d sum : Duration} {t : Term} (hsplit : t.IsSplit)
    (hsum : d.nanos + t.nanos = sum.nanos) : d.addUnits? t.count none t.unit = some sum := by
  have hfits := lt_of_add_eq_nanos ((Nat.add_comm ..).trans hsum)
  obtain ⟨hseconds, hnanos⟩ := Term.word_of_fits hsplit hfits
  have hparts : d.nanos + t.count * t.unit.length.1 * secondNanos + t.count * t.unit.length.2 =
      sum.nanos := by
    rw [← hsum, Term.nanos, TimeUnit.nanos, Nat.mul_add, Nat.mul_assoc, Nat.add_assoc]
  -- two parts of a second are less than two seconds
  have hcarry : d.nanos % secondNanos + t.count * t.unit.length.2 < wordLimit :=
    Nat.lt_trans (Nat.add_lt_add (Nat.mod_lt _ (by decide)) hsplit)
      (by decide : secondNanos + secondNanos < wordLimit)
  rw [addUnits?, word?_of_lt hseconds, Option.bind_eq_bind, Option.bind_some, word?_of_lt hnanos,
    Option.bind_eq_bind, Option.bind_some, add?_eq hcarry hparts]
  rfl

/-- The characters of a term. -/
theorem Term.toList_text (t : Term) : t.text.toList = Nat.toDigits 10 t.count ++ t.name.toList := by
  rw [text, String.toList_append, Nat.toString_eq_ofList_toDigits, String.toList_ofList]

/-- The number of a term is read up to its name, which starts with a letter. -/
private theorem Term.readWhole?_text {t : Term} (hcount : t.count < wordLimit) (rest : List Char) :
    readWhole? 0 (t.text.toList ++ rest) = some (t.count, t.name.toList ++ rest) ∧
      (t.name.toList ++ rest).head? ≠ some '.' := by
  obtain ⟨hne, hname⟩ := isUnitChar_of_ofName? t.named
  obtain ⟨c, cs, hcs⟩ := List.exists_cons_of_ne_nil hne
  obtain ⟨hdigit, hblank, hpoint⟩ := not_number_of_isUnitChar (hname c (by simp [hcs]))
  have hvalue := Nat.ofDigitChars_ten_toDigits (n := t.count)
  refine ⟨?_, by simpa [hcs] using hpoint⟩
  rw [toList_text, List.append_assoc, readWhole?_digits (fun c => Json.toDigits_isDigit), hvalue]
  · rw [hcs]
    rintro _ ⟨⟩
    exact ⟨hdigit, hblank⟩
  · rwa [hvalue]

/-- A term is read off the front of a text. -/
theorem readGroups?_term {d sum : Duration} {t : Term} (hsplit : t.IsSplit)
    (hsum : d.nanos + t.nanos = sum.nanos) (rest : List Char)
    (hrest : ∀ c ∈ rest.head?, isUnitChar c = false) (steps : Nat) :
    readGroups? (steps + 1) d (t.text.toList ++ rest) =
      match rest.dropWhile Text.isBlank with
      | [] => some sum
      | c :: rest => if c.isDigit then readGroups? steps sum (c :: rest) else none := by
  have hcount : t.count < wordLimit :=
    Term.count_lt hsplit (lt_of_add_eq_nanos ((Nat.add_comm ..).trans hsum))
  obtain ⟨hwhole, hpoint⟩ := Term.readWhole?_text hcount rest
  -- the name of the unit ends where the rest begins
  have hspan : (t.name.toList ++ rest).span isUnitChar = (t.name.toList, rest) :=
    Json.span_append (isUnitChar_of_ofName? t.named).2 hrest
  rw [readGroups?, hwhole]
  simp only [Option.bind_eq_bind, Option.bind_some]
  split
  next hfraction => exact absurd (congrArg List.head? hfraction) hpoint
  next =>
    rw [hspan, String.ofList_toList, t.named, Option.bind_some, addUnits?_term hsplit hsum]
    rfl

/-- The terms that follow the first one are written after a blank. -/
theorem toList_text_cons (t u : Term) (ts : List Term) :
    (" ".intercalate ((t :: u :: ts).map Term.text)).toList =
      t.text.toList ++ ' ' :: (" ".intercalate ((u :: ts).map Term.text)).toList := by
  rw [List.map_cons, List.map_cons, String.intercalate_cons_cons, ← List.map_cons,
    String.append_assoc, String.toList_append, String.toList_append]
  rfl

/-- The text of terms starts with a digit. -/
theorem exists_digit_of_terms {ts : List Term} (hts : ts ≠ []) :
    ∃ c cs, (" ".intercalate (ts.map Term.text)).toList = c :: cs ∧ c.isDigit := by
  obtain ⟨t, ts, rfl⟩ := List.exists_cons_of_ne_nil hts
  obtain ⟨c, cs, hcs⟩ := List.exists_cons_of_ne_nil (Nat.toDigits_ne_nil (n := t.count) (b := 10))
  have hdigit : c.isDigit := Json.toDigits_isDigit (n := t.count) (hcs ▸ List.mem_cons_self ..)
  cases ts with
  | nil =>
    rw [List.map_singleton, String.intercalate_singleton, Term.toList_text, hcs]
    exact ⟨c, _, rfl, hdigit⟩
  | cons u ts =>
    rw [toList_text_cons, Term.toList_text, hcs]
    exact ⟨c, _, rfl, hdigit⟩

/-- Terms with blanks between them are read one by one and added up. -/
theorem readGroups?_terms {ts : List Term} (hts : ts ≠ []) (hsplit : ∀ t ∈ ts, t.IsSplit)
    {steps : Nat} (hsteps : ts.length ≤ steps) {d sum : Duration}
    (hsum : d.nanos + (ts.map Term.nanos).sum = sum.nanos) :
    readGroups? steps d (" ".intercalate (ts.map Term.text)).toList = some sum := by
  induction ts generalizing steps d with
  | nil => exact absurd rfl hts
  | cons t ts ih =>
    obtain ⟨ht, hsplit⟩ := List.forall_mem_cons.mp hsplit
    rw [List.map_cons, List.sum_cons] at hsum
    cases steps with
    | zero => cases hsteps
    | succ steps =>
      cases ts with
      | nil =>
        rw [List.map_nil, List.sum_nil, Nat.add_zero] at hsum
        have hread := readGroups?_term ht hsum [] (by simp) steps
        rw [List.append_nil] at hread
        rw [List.map_singleton, String.intercalate_singleton]
        exact hread
      | cons u us =>
        -- the span up to here leaves room for the terms that follow
        obtain ⟨next, hnext⟩ : ∃ next : Duration, d.nanos + t.nanos = next.nanos :=
          ⟨⟨_, lt_of_add_eq_nanos ((Nat.add_assoc ..).trans hsum)⟩, rfl⟩
        rw [← Nat.add_assoc, hnext] at hsum
        have hread := ih (List.cons_ne_nil u us) hsplit (Nat.le_of_succ_le_succ hsteps) hsum
        obtain ⟨c, cs, hcs, hdigit⟩ := exists_digit_of_terms (List.cons_ne_nil u us)
        have hspace : isUnitChar ' ' = false := by decide
        have hskip : (' ' :: c :: cs).dropWhile Text.isBlank = c :: cs := by
          rw [List.dropWhile_cons_of_pos (by decide),
            List.dropWhile_cons_of_neg (by simp [isBlank_of_isDigit hdigit])]
        rw [hcs] at hread
        rw [toList_text_cons, hcs, readGroups?_term ht hnext _ (by simpa using hspace) steps, hskip,
          ← hread]
        exact if_pos hdigit

/-- Each term takes a character at least. -/
theorem length_le_of_terms (ts : List Term) :
    ts.length ≤ (" ".intercalate (ts.map Term.text)).toList.length := by
  induction ts with
  | nil => exact Nat.zero_le _
  | cons t ts ih =>
    cases ts with
    | nil =>
      obtain ⟨c, cs, hcs, _⟩ := exists_digit_of_terms (List.cons_ne_nil t [])
      rw [hcs, List.length_cons, List.length_cons]
      exact Nat.succ_le_succ (Nat.zero_le _)
    | cons u ts =>
      simp only [toList_text_cons, List.length_append, List.length_cons] at ih ⊢
      omega

/-- Terms that add up to a span are read as the span. -/
theorem parse?_terms {ts : List Term} (hts : ts ≠ []) (hsplit : ∀ t ∈ ts, t.IsSplit)
    {sum : Duration} (hsum : (ts.map Term.nanos).sum = sum.nanos) :
    parse? (" ".intercalate (ts.map Term.text)) = some sum := by
  obtain ⟨c, cs, hcs, hdigit⟩ := exists_digit_of_terms hts
  have hread := readGroups?_terms hts hsplit (length_le_of_terms ts) (d := ⟨0, by decide⟩)
    ((Nat.zero_add _).trans hsum)
  have hzero : " ".intercalate (ts.map Term.text) ≠ "0" := by
    intro h
    have hname : TimeUnit.ofName? "" = none := by decide
    rw [h] at hread
    simp [readGroups?, readWhole?, appendDigit?, word?, wordLimit, hname] at hread
  rw [parse?, if_neg hzero, hcs, List.dropWhile_cons_of_neg (by simp [isBlank_of_isDigit hdigit])]
  rw [hcs, List.length_cons] at hread
  exact (if_pos hdigit).trans hread

/-! ## Writing terms -/

/-- A term whose name has a plural. -/
def Term.plural (count : Nat) (name : String) (unit : TimeUnit)
    (hone : TimeUnit.ofName? name = some unit)
    (hmany : TimeUnit.ofName? (name ++ "s") = some unit) : Term where
  count
  name := if count = 1 then name else name ++ "s"
  unit
  named := by split <;> assumption

/-- A span split into units, the largest one first. -/
def split (d : Duration) : List Term :=
  let seconds := d.nanos / secondNanos
  let nanos := d.nanos % secondNanos
  let inYear := seconds % 31557600
  let inMonth := inYear % 2630016
  let inDay := inMonth % 86400
  [.plural (seconds / 31557600) "year" .year (by decide) (by decide),
    .plural (inYear / 2630016) "month" .month (by decide) (by decide),
    .plural (inMonth / 86400) "day" .day (by decide) (by decide),
    { count := inDay / 3600, name := "h", unit := .hour },
    { count := inDay % 3600 / 60, name := "m", unit := .minute },
    { count := inDay % 60, name := "s", unit := .second },
    { count := nanos / 1000000, name := "ms", unit := .millisecond },
    { count := nanos / 1000 % 1000, name := "us", unit := .microsecond },
    { count := nanos % 1000, name := "ns", unit := .nanosecond }]

/-- The terms that a span is written with. -/
def terms (d : Duration) : List Term :=
  if d.isZero then [{ count := 0, name := "s", unit := .second }]
  else d.split.filter (·.count ≠ 0)

/-- The units of a span add up to it. -/
private theorem sum_split (d : Duration) : (d.split.map Term.nanos).sum = d.nanos := by
  rw [split]
  -- with proofs of the steps, as the two sides are too large to be compared by computation
  simp -implicitDefEqProofs only [List.map_cons, List.map_nil, List.sum_cons, List.sum_nil,
    Term.nanos, Term.plural, TimeUnit.nanos, TimeUnit.length, secondNanos]
  omega

/-- What is absent adds nothing. -/
private theorem sum_filter (ts : List Term) :
    ((ts.filter (·.count ≠ 0)).map Term.nanos).sum = (ts.map Term.nanos).sum := by
  induction ts with
  | nil => rfl
  | cons t ts ih =>
    by_cases ht : t.count = 0
    · have hzero : t.nanos = 0 := by rw [Term.nanos, ht, Nat.zero_mul]
      rw [List.filter_cons_of_neg (by simpa using ht), ih, List.map_cons, List.sum_cons, hzero,
        Nat.zero_add]
    · rw [List.filter_cons_of_pos (by simpa using ht), List.map_cons, List.map_cons, List.sum_cons,
        List.sum_cons, ih]

/-- The terms of a span add up to it. -/
theorem sum_terms (d : Duration) : (d.terms.map Term.nanos).sum = d.nanos := by
  rw [terms]
  split
  next hzero =>
    rw [List.map_singleton, List.sum_singleton, Term.nanos, Nat.zero_mul]
    exact (beq_iff_eq.mp hzero).symm
  next => rw [sum_filter, sum_split]

/-- A unit of whole seconds has no part below a second. -/
private theorem Term.isSplit_of_seconds {t : Term} (h : t.unit.length.2 = 0) : t.IsSplit := by
  rw [IsSplit, h, Nat.mul_zero]
  decide

private theorem isSplit_of_mem_split {d : Duration} {t : Term} (h : t ∈ d.split) : t.IsSplit := by
  have hlt : d.nanos % secondNanos < 1000000000 := Nat.mod_lt _ (by decide)
  revert t
  rw [split]
  simp only [List.forall_mem_cons]
  refine ⟨Term.isSplit_of_seconds rfl, Term.isSplit_of_seconds rfl, Term.isSplit_of_seconds rfl,
    Term.isSplit_of_seconds rfl, Term.isSplit_of_seconds rfl, Term.isSplit_of_seconds rfl,
    ?_, ?_, ?_, by simp⟩
  all_goals
    simp only [Term.IsSplit, TimeUnit.length, secondNanos] at hlt ⊢
    omega

private theorem isSplit_of_mem_terms {d : Duration} {t : Term} (h : t ∈ d.terms) : t.IsSplit := by
  rw [terms] at h
  split at h
  next =>
    obtain rfl := List.mem_singleton.mp h
    exact Term.isSplit_of_seconds rfl
  next => exact isSplit_of_mem_split (List.mem_filter.mp h).1

/-- A span that is not zero has a term, as its terms add up to it. -/
private theorem terms_ne_nil (d : Duration) : d.terms ≠ [] := by
  intro h
  have hsum := d.sum_terms
  rw [h, List.map_nil, List.sum_nil] at hsum
  have hzero : d.isZero := beq_iff_eq.mpr hsum.symm
  rw [terms, if_pos hzero] at h
  cases h

/-- The parts of a span are the texts of its units. -/
private theorem parts_eq (d : Duration) :
    d.parts = (d.split.filter (·.count ≠ 0)).map Term.text := by
  have hpart : ∀ ts : List Term, (ts.filter (·.count ≠ 0)).map Term.text =
      ts.flatMap fun t => part t.count t.name := by
    intro ts
    induction ts with
    | nil => rfl
    | cons t ts ih =>
      rw [List.flatMap_cons, part]
      split
      next ht => rw [List.filter_cons_of_neg (by simpa using ht), ih, List.nil_append]
      next ht =>
        rw [List.filter_cons_of_pos (by simpa using ht), List.map_cons, ih]
        rfl
  -- the units stand from years down to nanoseconds in both
  rw [hpart, split, parts]
  simp only [List.flatMap_cons, List.flatMap_nil, List.append_nil, List.append_assoc, pluralPart,
    Term.plural]

/-- A span is written with its terms. -/
theorem display_eq (d : Duration) : d.display = " ".intercalate (d.terms.map Term.text) := by
  rw [display, terms]
  split
  next => rfl
  next => rw [parts_eq]

/-- A span that was written is read back. -/
theorem parse?_display (d : Duration) : parse? d.display = some d := by
  rw [display_eq]
  exact parse?_terms d.terms_ne_nil (fun _ => isSplit_of_mem_terms) d.sum_terms

/-- The longest span has all units but weeks. -/
example : parse? "584542046090years 7months 15days 17h 5m 3s 999ms 999us 999ns" =
    some ⟨wordLimit * secondNanos - 1, by decide⟩ := by
  decide +kernel

end ServiceBroker.Duration
