import SolrClause.Proofs.Json.Float
import SolrClause.Proofs.Number.Interval

/-! Short numerals are read as the nearest float: their digits and their power of ten are floats, so
that there is one rounding. The numeral that a float is written as rounds to that float, so a short
one is read back. -/

namespace SolrClause.Json.Numeral

open SolrClause.Number SolrClause.Number.Binary64 SolrClause.Text

/-- All digits as one number. -/
def significand (n : Numeral) : Nat := decimalValue (n.whole ++ n.fraction)

/-- The power of ten that counts the last digit. -/
def power (n : Numeral) : Int := n.exponentValue - n.fraction.length

/-- What a numeral stands for before any rounding, without its sign. -/
def toRat (n : Numeral) : ℚ := n.significand * 10 ^ n.power

/-- The digits and the power of ten are floats: they have 53 bits at most, and `10 ^ 22` is the last
power of ten that is one. -/
def Short (n : Numeral) : Prop := n.significand < 2 * leadingBit ∧ n.power.natAbs ≤ 22

instance (n : Numeral) : Decidable n.Short := by unfold Short; infer_instance

section Short

variable {n : Numeral} {x : Binary64} {q : ℚ} {significand : Nat} {exponent k : Int}

/-- A numeral with a fraction or an exponent is a product with one power of ten. -/
theorem value?_eq_scale (hfits : n.significand < UInt64.size)
    (hfloat : n.fraction ≠ [] ∨ n.exponent ≠ none) :
    n.value? = (scale (.ofNat n.significand) n.power).map fun x =>
      .float (if n.negative then x.neg else x) := by
  have hsplit : n.fraction.foldl (fun value c => 10 * value + digitValue c)
      (decimalValue n.whole) = n.significand := (List.foldl_append ..).symm
  have hwhole : gather 0 n.whole = (decimalValue n.whole, []) := by
    refine gather_of_lt (Nat.lt_of_le_of_lt ?_ hfits)
    rw [← hsplit]
    exact le_foldl _ _
  have hfraction : gather (decimalValue n.whole) n.fraction = (n.significand, []) := by
    rw [gather_of_lt (by rwa [hsplit]), hsplit]
  have hpower : ((0 : Nat) : Int) - n.fraction.length + n.exponentValue = n.power := by
    rw [power]
    omega
  have hinteger : ¬(n.fraction.isEmpty && n.exponent.isNone) = true := by
    rw [Bool.and_eq_true, List.isEmpty_iff, Option.isNone_iff_eq_none]
    exact fun h => hfloat.elim (fun hne => hne h.1) fun hne => hne h.2
  simp only [value?, hwhole, hfraction, List.isEmpty_nil, Bool.true_and, if_neg hinteger,
    List.length_nil, Nat.sub_zero, hpower]

theorem neg_ofMagnitude {m : Nat} (h : m < signBit) :
    (ofMagnitude false m).neg = ofMagnitude true m := by
  rw [neg, isNegative_ofMagnitude h, magnitudeBits_ofMagnitude h]
  rfl

/-- Scaling by a power of ten that is a float rounds once. -/
theorem scale_eq (hx : HasMagnitude x q) (hk : k.natAbs ≤ 22) (h : Legal significand exponent)
    (hpos : 0 < significand) (hround : RoundsTo significand exponent (q * 10 ^ k)) :
    scale x k = some (ofMagnitude false (magnitude significand exponent)) := by
  have hten := hasMagnitude_powerOfTen hk
  have hstep : k.natAbs ≤ greatestPower := Nat.le_trans hk (by decide)
  rw [scale]
  by_cases hnegative : k < 0
  · have hpower : q * 10 ^ k = q / 10 ^ k.natAbs := by
      have hneg : k = -(k.natAbs : Int) := by omega
      rw [div_eq_mul_inv, ← zpow_natCast, ← zpow_neg, ← hneg]
    rw [hpower] at hround
    obtain ⟨steps, hsteps⟩ := Nat.exists_eq_add_one_of_ne_zero (Int.natAbs_ne_zero.mpr hnegative.ne)
    rw [if_pos hnegative]
    conv in shrink _ _ _ => rw [hsteps]
    rw [shrink, ← hsteps, if_pos hstep, magnitudeDiv_eq hx hten (by positivity) h hpos hround]
  · have hpower : q * 10 ^ k = q * 10 ^ k.natAbs := by
      have hnatAbs : (k.natAbs : Int) = k := by omega
      rw [← zpow_natCast, hnatAbs]
    rw [hpower] at hround
    have hfinite := magnitude_lt h
    have hbits : magnitude significand exponent < signBit := Nat.lt_trans hfinite (by decide)
    rw [if_neg hnegative, if_pos hstep, magnitudeMul_eq hx hten h hpos hround]
    simp [isInfinite, magnitudeBits_ofMagnitude hbits, hfinite.ne]

/-- A short numeral is read as the number that it rounds to. -/
theorem value?_of_roundsTo (hshort : n.Short) (hfloat : n.fraction ≠ [] ∨ n.exponent ≠ none)
    (h : Legal significand exponent) (hpos : 0 < significand)
    (hround : RoundsTo significand exponent n.toRat) :
    n.value? = some (.float (ofMagnitude n.negative (magnitude significand exponent))) := by
  have hfits : n.significand < UInt64.size := Nat.lt_trans hshort.1 (by decide)
  have hbits : magnitude significand exponent < signBit :=
    Nat.lt_trans (magnitude_lt h) (by decide)
  have hscale := scale_eq (hasMagnitude_ofNat hshort.1) hshort.2 h hpos hround
  rw [value?_eq_scale hfits hfloat, hscale, Option.map_some]
  cases n.negative with
  | false => rfl
  | true => rw [if_pos rfl, neg_ofMagnitude hbits]

end Short

/-! ### Written floats -/

section Decimals

variable {negative : Bool} {d : Decimal}

theorem decimalValue_append_zeros (ds : List Char) (k : Nat) :
    decimalValue (ds ++ List.replicate k '0') = 10 ^ k * decimalValue ds := by
  show Nat.ofDigitChars 10 (ds ++ List.replicate k '0') 0 = _
  rw [Nat.ofDigitChars_append, Nat.ofDigitChars_replicate_zero]
  rfl

theorem decimalValue_zeros_append (k : Nat) (ds : List Char) :
    decimalValue (List.replicate k '0' ++ ds) = decimalValue ds := by
  show Nat.ofDigitChars 10 (List.replicate k '0' ++ ds) 0 = _
  rw [Nat.ofDigitChars_append, Nat.ofDigitChars_replicate_zero]
  rfl

theorem exponentValue_digits (negative : Bool) (whole fraction : List Char) (k : Int) :
    (⟨negative, whole, fraction, some ⟨decide (k < 0), digits k.natAbs⟩⟩ : Numeral).exponentValue =
      k := by
  rw [exponentValue]
  dsimp only
  rw [decimalValue_digits]
  by_cases hnegative : k < 0
  · rw [decide_eq_true hnegative, if_pos rfl]
    omega
  · rw [decide_eq_false hnegative, if_neg (by decide)]
    omega

theorem toRat_of_no_exponent (negative : Bool) (whole fraction : List Char) :
    (⟨negative, whole, fraction, none⟩ : Numeral).toRat =
      decimalValue (whole ++ fraction) * 10 ^ (-(fraction.length : Int)) := by
  rw [← zero_sub]
  rfl

theorem toRat_positional : (positional negative d).toRat = d.coefficient * 10 ^ d.exponent := by
  rw [positional]
  split
  · -- One more zero stands after the point.
    rename_i hwhole
    obtain ⟨k, hk⟩ := Int.eq_ofNat_of_zero_le hwhole
    have hzeros : digits d.coefficient ++ List.replicate k '0' ++ ['0'] =
        digits d.coefficient ++ List.replicate (k + 1) '0' := by
      rw [List.append_assoc, List.replicate_succ']
    rw [toRat_of_no_exponent, hk, Int.toNat_natCast, hzeros, decimalValue_append_zeros,
      decimalValue_digits, List.length_singleton]
    push_cast
    rw [zpow_neg_one, zpow_natCast]
    ring
  · rename_i hfraction
    split
    · rename_i hplaces
      have hlength : -((((digits d.coefficient).length - ((digits d.coefficient).length -
          (-d.exponent).toNat) : Nat)) : Int) = d.exponent := by omega
      rw [toRat_of_no_exponent, List.take_append_drop, decimalValue_digits, List.length_drop,
        hlength]
    · rename_i hplaces
      have hlength : -(((-d.exponent).toNat - (digits d.coefficient).length +
          (digits d.coefficient).length : Nat) : Int) = d.exponent := by omega
      rw [toRat_of_no_exponent, List.singleton_append, ← List.cons_append, ← List.replicate_succ,
        decimalValue_zeros_append, decimalValue_digits, List.length_append, List.length_replicate,
        hlength]

theorem toRat_scientific : (scientific negative d).toRat = d.coefficient * 10 ^ d.exponent := by
  have hlength : (digits d.coefficient).length ≠ 0 := by
    rw [Ne, List.length_eq_zero_iff]
    exact digits_ne_nil _
  have hpower : (scientific negative d).power = d.exponent := by
    rw [power, scientific, exponentValue_digits, List.length_drop, Decimal.leadingExponent]
    omega
  rw [toRat, hpower, significand, scientific, List.take_append_drop, decimalValue_digits]

/-- A numeral stands for the decimal that it writes. -/
theorem toRat_ofDecimal : (ofDecimal negative d).toRat = d.coefficient * 10 ^ d.exponent := by
  rw [ofDecimal]
  split
  · exact toRat_positional
  · exact toRat_scientific

/-- No decimal is written as an integer. -/
theorem fraction_or_exponent_ofDecimal :
    (ofDecimal negative d).fraction ≠ [] ∨ (ofDecimal negative d).exponent ≠ none := by
  rw [ofDecimal]
  split
  · left
    rw [positional]
    split
    · exact List.cons_ne_nil _ _
    · split
      · rw [Ne, List.drop_eq_nil_iff]
        omega
      · exact List.append_ne_nil_of_right_ne_nil _ (digits_ne_nil _)
  · exact .inr (Option.some_ne_none _)

theorem negative_ofDecimal : (ofDecimal negative d).negative = negative := by
  rw [ofDecimal]
  split
  · rw [positional]
    split
    · rfl
    · split <;> rfl
  · rfl

end Decimals

/-- A float whose numeral is short is read back from it. -/
theorem value?_ofFinite {x : Binary64} {negative : Bool} {significand : Nat} {exponent : Int}
    (h : x.content = .finite negative significand exponent)
    (hshort : (ofFinite negative significand exponent).Short) :
    (ofFinite negative significand exponent).value? = some (.float x) := by
  obtain ⟨hlegal, rfl⟩ := legal_of_content h
  rcases Nat.eq_zero_or_pos significand with rfl | hpos
  · obtain rfl : exponent = leastExponent :=
      Decidable.byContradiction fun hne => absurd (hlegal.leading hne) (by decide)
    cases negative <;> decide +kernel
  · have hround : RoundsTo significand exponent (ofFinite negative significand exponent).toRat := by
      rw [ofFinite, toRat_ofDecimal]
      exact Shortest.roundsTo_decimal hlegal hpos
    rw [value?_of_roundsTo hshort fraction_or_exponent_ofDecimal hlegal hpos hround, ofFinite,
      negative_ofDecimal]

end SolrClause.Json.Numeral
