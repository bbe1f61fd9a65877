import SolrClause.Json.Numeral
import SolrClause.Proofs.Text.Digits

/-! Numerals survive being written. A numeral is read up to the first character that it cannot go on
with, and the digits of an integer are gathered without loss as long as they fit. -/

namespace SolrClause.Json

open SolrClause.Number SolrClause.Text

namespace Numeral

def fractionChars : List Char → List Char
  | [] => []
  | d :: ds => '.' :: d :: ds

/-- An exponent has its sign written out. -/
def exponentChars : Option Exponent → List Char
  | none => []
  | some e => 'e' :: (if e.negative then '-' else '+') :: e.digits

def chars (n : Numeral) : List Char :=
  (if n.negative then ['-'] else []) ++
    (n.whole ++ (fractionChars n.fraction ++ exponentChars n.exponent))

/-- Digits as the whole part of a numeral has them: a zero stands in front only on its own. -/
structure Whole (ds : List Char) : Prop where
  ne_nil : ds ≠ []
  isDigit : ∀ c ∈ ds, isDigit c = true
  eq_zero : ds.head? = some '0' → ds = ['0']

/-- The parts of a numeral are digits, and those that must be there are. -/
structure WellFormed (n : Numeral) : Prop where
  whole : Whole n.whole
  fraction : ∀ c ∈ n.fraction, Text.isDigit c = true
  exponent_ne_nil : ∀ e ∈ n.exponent, e.digits ≠ []
  exponent : ∀ e ∈ n.exponent, ∀ c ∈ e.digits, Text.isDigit c = true

theorem wellFormed_of_no_exponent {negative : Bool} {whole fraction : List Char}
    (hwhole : Whole whole) (hfraction : ∀ c ∈ fraction, Text.isDigit c = true) :
    (⟨negative, whole, fraction, none⟩ : Numeral).WellFormed where
  whole := hwhole
  fraction := hfraction
  exponent_ne_nil _ h := nomatch h
  exponent _ h := nomatch h

/-- The text writes whether an exponent is negative. -/
inductive WritesSign : List Char → Bool → Prop
  | minus : WritesSign ['-'] true
  | plus : WritesSign ['+'] false
  | bare : WritesSign [] false

inductive WritesExponent : List Char → Option Exponent → Prop
  | none : WritesExponent [] none
  | some {mark : Char} {sign ds : List Char} {negative : Bool} (hmark : mark = 'e' ∨ mark = 'E')
      (hsign : WritesSign sign negative) (hne : ds ≠ [])
      (hds : ∀ c ∈ ds, Text.isDigit c = true) :
      WritesExponent (mark :: (sign ++ ds)) (some ⟨negative, ds⟩)

/-- The text writes the numeral. Only the exponent can be written in more than one way. -/
inductive Writes : List Char → Numeral → Prop
  | mk {negative : Bool} {whole fraction power : List Char} {exponent : Option Exponent}
      (hwhole : Whole whole) (hfraction : ∀ c ∈ fraction, Text.isDigit c = true)
      (hexponent : WritesExponent power exponent) :
      Writes ((if negative then ['-'] else []) ++ (whole ++ (fractionChars fraction ++ power)))
        ⟨negative, whole, fraction, exponent⟩

theorem writesExponent_exponentChars {e : Option Exponent} (hne : ∀ x ∈ e, x.digits ≠ [])
    (hds : ∀ x ∈ e, ∀ c ∈ x.digits, Text.isDigit c = true) :
    WritesExponent (exponentChars e) e := by
  cases e with
  | none => exact .none
  | some e =>
    have hsign : WritesSign [if e.negative then '-' else '+'] e.negative := by
      cases e.negative with
      | true => exact .minus
      | false => exact .plus
    exact .some (.inl rfl) hsign (hne e rfl) (hds e rfl)

theorem writes_chars {n : Numeral} (h : n.WellFormed) : n.Writes n.chars :=
  .mk h.whole h.fraction (writesExponent_exponentChars h.exponent_ne_nil h.exponent)

/-- No numeral goes on in the text. -/
def Ends (text : List Char) : Prop :=
  ∀ c ∈ text.head?, Text.isDigit c = false ∧ c ≠ '.' ∧ c ≠ 'e' ∧ c ≠ 'E'

theorem ends_nil : Ends [] := by
  intro c h
  cases h

theorem ends_cons {c : Char} {rest : List Char} (hdigit : Text.isDigit c = false) (hpoint : c ≠ '.')
    (hsmall : c ≠ 'e') (hlarge : c ≠ 'E') : Ends (c :: rest) := by
  rintro d ⟨⟩
  exact ⟨hdigit, hpoint, hsmall, hlarge⟩

theorem Ends.noDigit {text : List Char} (h : Ends text) : NoDigit text := fun c hc => (h c hc).1

/-! ### Reading -/

section Reading

variable {ds rest : List Char}

theorem readDigits_append (hne : ds ≠ []) (hds : ∀ c ∈ ds, Text.isDigit c = true)
    (hrest : NoDigit rest) : readDigits (ds ++ rest) = .ok (ds, rest) := by
  obtain ⟨d, tail, rfl⟩ := List.exists_cons_of_ne_nil hne
  have hfirst : Text.isDigit d = true := hds d List.mem_cons_self
  rw [List.cons_append, readDigits, if_pos hfirst, ← List.cons_append, takeDigits_append hds hrest]

theorem readWhole_append (h : Whole ds) (hrest : NoDigit rest) :
    readWhole (ds ++ rest) = .ok (ds, rest) := by
  have hdigits := readDigits_append h.ne_nil h.isDigit hrest
  obtain ⟨d, tail, rfl⟩ := List.exists_cons_of_ne_nil h.ne_nil
  by_cases hzero : d = '0'
  · subst hzero
    obtain ⟨-, rfl⟩ : '0' = '0' ∧ tail = [] := by simpa using h.eq_zero rfl
    cases rest with
    | nil => rfl
    | cons c rest =>
      have hc : Text.isDigit c = false := hrest c rfl
      simp [readWhole, hc]
  · rw [List.cons_append, readWhole, ← List.cons_append, hdigits]
    rintro _ ⟨⟩
    exact hzero rfl

theorem readFraction_append (hds : ∀ c ∈ ds, Text.isDigit c = true) (hrest : NoDigit rest)
    (hpoint : rest.head? ≠ some '.') :
    readFraction (fractionChars ds ++ rest) = .ok (ds, rest) := by
  cases ds with
  | cons d tail => exact readDigits_append (List.cons_ne_nil d tail) hds hrest
  | nil =>
    cases rest with
    | nil => rfl
    | cons c rest =>
      rw [fractionChars, List.nil_append, readFraction]
      rintro _ ⟨⟩
      exact hpoint rfl

/-- The sign is taken off whatever digits follow it. -/
theorem takeSign_append {sign : List Char} {negative : Bool} (hsign : WritesSign sign negative)
    (hne : ds ≠ []) (hds : ∀ c ∈ ds, Text.isDigit c = true) :
    takeSign (sign ++ (ds ++ rest)) = (negative, ds ++ rest) := by
  cases hsign with
  | minus => rfl
  | plus => rfl
  | bare =>
    obtain ⟨d, tail, rfl⟩ := List.exists_cons_of_ne_nil hne
    have hdigit : Text.isDigit d = true := hds d List.mem_cons_self
    rw [List.nil_append, List.cons_append, takeSign.eq_def]
    split
    · rename_i heq
      obtain ⟨rfl, -⟩ := List.cons.inj heq
      exact absurd hdigit (by decide)
    · rename_i heq
      obtain ⟨rfl, -⟩ := List.cons.inj heq
      exact absurd hdigit (by decide)
    · rfl

theorem readExponent_append {power : List Char} {e : Option Exponent} (h : WritesExponent power e)
    (hrest : Ends rest) : readExponent (power ++ rest) = .ok (e, rest) := by
  cases h with
  | @some mark sign ds negative hmark hsign hne hds =>
    have hdigits := readDigits_append hne hds hrest.noDigit
    rw [List.cons_append, List.append_assoc, readExponent, if_pos hmark,
      takeSign_append hsign hne hds]
    simp [hdigits, bind, Except.bind]
  | none =>
    cases rest with
    | nil => rfl
    | cons c rest =>
      obtain ⟨-, -, hsmall, hlarge⟩ := hrest c rfl
      rw [List.nil_append, readExponent, if_neg (by simp [hsmall, hlarge])]

/-- No digit and no point starts an exponent. -/
theorem noDigit_exponent {power : List Char} {e : Option Exponent} (h : WritesExponent power e)
    (hrest : Ends rest) : NoDigit (power ++ rest) ∧ (power ++ rest).head? ≠ some '.' := by
  cases h with
  | none => exact ⟨hrest.noDigit, fun hc => (hrest '.' hc).2.1 rfl⟩
  | some hmark =>
    rcases hmark with rfl | rfl
    · exact ⟨noDigit_cons (by decide), fun hc => absurd (Option.some.inj hc) (by decide)⟩
    · exact ⟨noDigit_cons (by decide), fun hc => absurd (Option.some.inj hc) (by decide)⟩

theorem noDigit_fractionChars (hrest : NoDigit rest) : NoDigit (fractionChars ds ++ rest) := by
  cases ds with
  | nil => exact hrest
  | cons d tail => exact noDigit_cons (by decide)

/-- A numeral is read from a text that writes it, up to where no numeral goes on. -/
theorem read_writes {text : List Char} {n : Numeral} (h : n.Writes text) (hrest : Ends rest) :
    read (text ++ rest) = .ok (n, rest) := by
  cases h with
  | @mk negative whole fraction power exponent hwhole hfraction hexponent =>
    have hpower := noDigit_exponent hexponent hrest
    have hexponent := readExponent_append hexponent hrest
    have hafter : NoDigit (fractionChars fraction ++ (power ++ rest)) :=
      noDigit_fractionChars hpower.1
    have hfraction := readFraction_append hfraction hpower.1 hpower.2
    have hread := readWhole_append hwhole hafter
    simp only [List.append_assoc] at *
    cases negative with
    | true =>
      simp only [if_true, List.cons_append, List.nil_append, read, bind, Except.bind, hread,
        hfraction, hexponent]
    | false =>
      obtain ⟨d, tail, hcons⟩ := List.exists_cons_of_ne_nil hwhole.ne_nil
      have hminus : d ≠ '-' := by
        rintro rfl
        exact absurd (hwhole.isDigit '-' (hcons ▸ List.mem_cons_self)) (by decide)
      simp only [hcons, List.cons_append] at hread ⊢
      simp [read, bind, Except.bind, hminus, hread, hfraction, hexponent]

end Reading

/-- A numeral starts with a minus or a digit. -/
theorem exists_cons_of_writes {text : List Char} {n : Numeral} (h : n.Writes text) :
    ∃ c rest, text = c :: rest ∧ (c = '-' ∨ Text.isDigit c = true) := by
  cases h with
  | @mk negative whole fraction power exponent hwhole =>
    cases negative with
    | true => exact ⟨'-', _, rfl, .inl rfl⟩
    | false =>
      obtain ⟨d, tail, hcons⟩ := List.exists_cons_of_ne_nil hwhole.ne_nil
      exact ⟨d, _, by rw [hcons]; rfl, .inr (hwhole.isDigit d (hcons ▸ List.mem_cons_self))⟩

/-! ### Values -/

theorem le_foldl (value : Nat) (ds : List Char) :
    value ≤ ds.foldl (fun value c => 10 * value + digitValue c) value := by
  induction ds generalizing value with
  | nil => exact Nat.le_refl value
  | cons d ds ih =>
    have := ih (10 * value + digitValue d)
    rw [List.foldl_cons]
    omega

/-- Digits are gathered to the end if their number fits. -/
theorem gather_of_lt {value : Nat} {ds : List Char}
    (h : ds.foldl (fun value c => 10 * value + digitValue c) value < UInt64.size) :
    gather value ds = (ds.foldl (fun value c => 10 * value + digitValue c) value, []) := by
  induction ds generalizing value with
  | nil => rfl
  | cons d ds ih =>
    rw [List.foldl_cons] at h ⊢
    have hlonger : 10 * value + digitValue d < UInt64.size := Nat.lt_of_le_of_lt (le_foldl _ ds) h
    rw [gather]
    simp only [if_pos hlonger]
    exact ih h

/-- Some digits are left over if their number does not fit. -/
theorem gather_of_le {value : Nat} {ds : List Char} (hvalue : value < UInt64.size)
    (h : UInt64.size ≤ ds.foldl (fun value c => 10 * value + digitValue c) value) :
    (gather value ds).2 ≠ [] := by
  induction ds generalizing value with
  | nil => exact absurd h (Nat.not_le.mpr hvalue)
  | cons d ds ih =>
    rw [List.foldl_cons] at h
    rw [gather]
    by_cases hlonger : 10 * value + digitValue d < UInt64.size
    · simp only [if_pos hlonger]
      exact ih hlonger h
    · simp only [if_neg hlonger]
      exact List.cons_ne_nil d ds

/-! ### Integers -/

/-- The numeral of digits after a minus or no sign, without a fraction or an exponent. -/
def ofDigits (negative : Bool) (ds : List Char) : Numeral := ⟨negative, ds, [], none⟩

/-- The integer that digits write after a minus or no sign. -/
def signedValue (negative : Bool) (ds : List Char) : Int :=
  if negative then -(decimalValue ds : Int) else decimalValue ds

theorem chars_ofDigits (negative : Bool) (ds : List Char) :
    (ofDigits negative ds).chars = (if negative then ['-'] else []) ++ ds := by
  rw [chars, ofDigits, fractionChars, exponentChars, List.append_nil, List.append_nil]

theorem wellFormed_ofDigits {ds : List Char} (h : Whole ds) (negative : Bool) :
    (ofDigits negative ds).WellFormed :=
  wellFormed_of_no_exponent h fun _ hc => absurd hc List.not_mem_nil

theorem value?_ofDigits_of_lt {ds : List Char} (h : decimalValue ds < UInt64.size)
    (negative : Bool) :
    (ofDigits negative ds).value? = some (integerValue negative (decimalValue ds)) := by
  simp [value?, ofDigits, gather_of_lt h, decimalValue]

/-- Digits that do not fit 64 bits stand for no integer. -/
theorem value?_ofDigits_of_le {ds : List Char} (h : UInt64.size ≤ decimalValue ds)
    (negative : Bool) :
    (ofDigits negative ds).value? = none ∨
      ∃ x, (ofDigits negative ds).value? = some (.float x) := by
  have hexcess : (gather 0 ds).2.isEmpty = false := by
    simpa using gather_of_le (by decide) h
  simp only [value?, ofDigits, hexcess, Bool.false_and, Bool.false_eq_true, if_false]
  generalize scale _ _ = magnitude
  cases magnitude with
  | none => exact .inl rfl
  | some x => exact .inr ⟨_, rfl⟩

theorem eq_of_integerValue {negative : Bool} {magnitude : Nat} {value : Int}
    (h : integerValue negative magnitude = .integer value) (hvalue : 0 ≤ value) :
    negative = false ∧ value = magnitude := by
  rw [integerValue] at h
  split_ifs at h with hplain hfloat
  · cases h
    simpa using hplain
  · cases h
    omega

/-- An integer that is not negative is written as digits without a sign, and fits 64 bits. -/
theorem eq_ofDigits_of_value? {n : Numeral} {value : Int} (h : n.value? = some (.integer value))
    (hvalue : 0 ≤ value) :
    ∃ ds, n = ofDigits false ds ∧ value = decimalValue ds ∧ decimalValue ds < UInt64.size := by
  obtain ⟨negative, whole, fraction, exponent⟩ := n
  have hread := h
  simp only [value?] at h
  split at h
  · rename_i hplain
    simp only [Bool.and_eq_true, List.isEmpty_iff, Option.isNone_iff_eq_none] at hplain
    obtain ⟨⟨hexcess, rfl⟩, rfl⟩ := hplain
    have hfits : decimalValue whole < UInt64.size := by
      by_contra hlong
      exact gather_of_le (by decide) (Nat.not_lt.mp hlong) hexcess
    rw [← ofDigits, value?_ofDigits_of_lt hfits] at hread
    obtain ⟨rfl, hdigits⟩ := eq_of_integerValue (Option.some.inj hread) hvalue
    exact ⟨whole, rfl, hdigits, hfits⟩
  · obtain ⟨x, -, hx⟩ := Option.map_eq_some_iff.mp h
    cases hx

/-- The integers that stand for floats: a negative zero, and those that fit 64 bits neither with a
sign nor without. -/
def Widened (negative : Bool) (value : Int) : Prop :=
  negative ∧ value = 0 ∨ value < Int64.minValue.toInt ∨ UInt64.size ≤ value

instance (negative : Bool) (value : Int) : Decidable (Widened negative value) := by
  unfold Widened; infer_instance

section Widened

variable {negative : Bool} {ds : List Char}

theorem integerValue_of_not_widened {magnitude : Nat}
    (h : ¬Widened negative (if negative then -(magnitude : Int) else magnitude)) :
    integerValue negative magnitude =
      .integer (if negative then -(magnitude : Int) else magnitude) := by
  have hleast : Int64.minValue.toInt = -9223372036854775808 := rfl
  cases negative with
  | false => rfl
  | true =>
    have hfits : ¬(magnitude = 0 ∨ 0x8000000000000000 < magnitude) := by
      simp [Widened] at h
      omega
    rw [integerValue, if_neg (by decide), if_neg hfits]
    rfl

/-- An integer that is not widened is what its digits stand for. -/
theorem value?_of_not_widened (h : ¬Widened negative (signedValue negative ds)) :
    (ofDigits negative ds).value? = some (.integer (signedValue negative ds)) := by
  have hfits : decimalValue ds < UInt64.size := by
    have hleast : Int64.minValue.toInt = -9223372036854775808 := rfl
    have hsize : (UInt64.size : Int) = 18446744073709551616 := rfl
    cases negative <;> simp [Widened, signedValue] at h <;> omega
  rw [value?_ofDigits_of_lt hfits, integerValue_of_not_widened h, signedValue]

/-- A widened integer is a float, unless it is too large for one. -/
theorem value?_of_widened (h : Widened negative (signedValue negative ds)) :
    (ofDigits negative ds).value? = none ∨
      ∃ x, (ofDigits negative ds).value? = some (.float x) := by
  by_cases hfits : decimalValue ds < UInt64.size
  · -- Digits that fit are widened for their sign.
    have hsign : negative = true ∧
        (decimalValue ds = 0 ∨ 0x8000000000000000 < decimalValue ds) := by
      have hleast : Int64.minValue.toInt = -9223372036854775808 := rfl
      have hsize : UInt64.size = 18446744073709551616 := rfl
      cases negative <;> simp [Widened, signedValue] at h ⊢ <;> omega
    right
    rw [value?_ofDigits_of_lt hfits, integerValue, hsign.1, if_neg (by decide), if_pos hsign.2]
    exact ⟨_, rfl⟩
  · exact value?_ofDigits_of_le (Nat.not_lt.mp hfits) negative

end Widened

def ofInt (value : Int) : Numeral := ofDigits (decide (value < 0)) (digits value.natAbs)

theorem chars_ofInt (value : Int) : (ofInt value).chars = (Scalar.integerText value).toList := by
  rw [Scalar.integerText, String.toList_ofList, ofInt, chars_ofDigits]
  simp

theorem whole_digits (n : Nat) : Whole (digits n) where
  ne_nil := digits_ne_nil n
  isDigit _ := isDigit_of_mem_digits
  eq_zero h := by
    rcases Nat.eq_zero_or_pos n with rfl | hpos
    · exact digits_zero
    · exact absurd h (head?_digits hpos)

theorem wellFormed_ofInt (value : Int) : (ofInt value).WellFormed :=
  wellFormed_ofDigits (whole_digits value.natAbs) _

/-- The numeral of an integer stands for it, if it fits 64 bits with or without a sign. -/
theorem value?_ofInt {value : Int} (hlow : Int64.minValue.toInt ≤ value)
    (hhigh : value < UInt64.size) :
    (ofInt value).value? = some (.integer value) := by
  have hvalue : signedValue (decide (value < 0)) (digits value.natAbs) = value := by
    rw [signedValue, decimalValue_digits]
    by_cases hnegative : value < 0
    · rw [decide_eq_true hnegative, if_pos rfl]
      omega
    · rw [decide_eq_false hnegative, if_neg (by decide)]
      omega
  have hkept : ¬Widened (decide (value < 0)) value := by
    simp only [Widened, decide_eq_true_eq]
    omega
  rw [ofInt, value?_of_not_widened (by rwa [hvalue]), hvalue]

end Numeral

end SolrClause.Json
