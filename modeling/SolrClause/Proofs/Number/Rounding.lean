import Mathlib.Algebra.Order.Field.Power
import Mathlib.Data.Nat.Cast.Order.Field
import Mathlib.Tactic.FieldSimp
import Mathlib.Tactic.Linarith
import Mathlib.Tactic.Positivity
import Mathlib.Tactic.Ring
import SolrClause.Proofs.Number.Binary64

/-! Rounding a quotient to the nearest number: every quotient in the interval around a number is
rounded to it. -/

namespace SolrClause.Number.Binary64

/-! ### Whole numbers -/

section Whole

variable {numerator denominator whole : Nat}

/-- The whole number nearest to a quotient is told by the halves around it. At a half it is the even
one. -/
theorem nearestWhole_eq (hpos : 0 < denominator)
    (hlow : 2 * whole * denominator ≤ 2 * numerator + denominator)
    (hhigh : 2 * numerator ≤ (2 * whole + 1) * denominator)
    (hodd : whole % 2 = 1 → 2 * whole * denominator < 2 * numerator + denominator ∧
      2 * numerator < (2 * whole + 1) * denominator) :
    nearestWhole numerator denominator = whole := by
  have hdivision := Nat.div_add_mod numerator denominator
  have hrest := Nat.mod_lt numerator hpos
  rw [nearestWhole]
  generalize numerator / denominator = quotient at *
  generalize numerator % denominator = rest at *
  subst hdivision
  have hquotient : quotient = whole ∨ quotient + 1 = whole := by
    have hupper : quotient < whole + 1 := by
      by_contra hge
      have := Nat.mul_le_mul_right denominator (Nat.not_lt.mp hge)
      nlinarith
    have hlower : whole < quotient + 2 := by
      by_contra hge
      have := Nat.mul_le_mul_right denominator (Nat.not_lt.mp hge)
      nlinarith
    omega
  rcases hquotient with rfl | rfl
  · have hhalf : 2 * rest ≤ denominator := by nlinarith
    have htie : 2 * rest = denominator → quotient % 2 = 0 := by
      intro htie
      by_contra hne
      have := (hodd (by omega)).2
      nlinarith
    split
    · rfl
    · split
      · omega
      · have := htie (by omega)
        omega
  · have hhalf : denominator ≤ 2 * rest := by nlinarith
    have htie : 2 * rest = denominator → (quotient + 1) % 2 = 0 := by
      intro htie
      by_contra hne
      have := (hodd (by omega)).1
      nlinarith
    split
    · omega
    · split
      · rfl
      · have := htie (by omega)
        omega

theorem nearestWhole_of_quotient {q : ℚ} (hpos : 0 < denominator)
    (hq : (numerator : ℚ) / denominator = q) (hlow : whole - 1 / 2 ≤ q) (hhigh : q ≤ whole + 1 / 2)
    (hodd : whole % 2 = 1 → whole - 1 / 2 < q ∧ q < whole + 1 / 2) :
    nearestWhole numerator denominator = whole := by
  have hdenominator : (0 : ℚ) < denominator := Nat.cast_pos.mpr hpos
  have hnumerator : (numerator : ℚ) = q * denominator := by
    rw [← hq, div_mul_cancel₀ _ hdenominator.ne']
  refine nearestWhole_eq hpos ?_ ?_ fun h => ?_
  · have : (2 * whole * denominator : ℚ) ≤ 2 * numerator + denominator := by
      rw [hnumerator]
      nlinarith
    exact_mod_cast this
  · have : (2 * numerator : ℚ) ≤ (2 * whole + 1) * denominator := by
      rw [hnumerator]
      nlinarith
    exact_mod_cast this
  · obtain ⟨hlow, hhigh⟩ := hodd h
    have hlow' : (2 * whole * denominator : ℚ) < 2 * numerator + denominator := by
      rw [hnumerator]
      nlinarith
    have hhigh' : (2 * numerator : ℚ) < (2 * whole + 1) * denominator := by
      rw [hnumerator]
      nlinarith
    exact ⟨by exact_mod_cast hlow', by exact_mod_cast hhigh'⟩

end Whole

/-! ### The last place -/

section Place

variable {numerator denominator : Nat}

theorem inUnits_div (numerator denominator : Nat) (exponent : Int) :
    ((inUnits numerator denominator exponent).1 : ℚ) / (inUnits numerator denominator exponent).2 =
      numerator / denominator * 2 ^ (-exponent) := by
  obtain ⟨k, rfl | rfl⟩ := exponent.eq_nat_or_neg
  · simp [inUnits, Nat.shiftLeft_eq, div_eq_mul_inv]
    ring
  · simp [inUnits, Nat.shiftLeft_eq]
    ring

theorem inUnits_pos (h : 0 < denominator) (exponent : Int) :
    0 < (inUnits numerator denominator exponent).2 := by
  simpa [inUnits, Nat.shiftLeft_eq] using h

/-- A quotient lies between the powers of two that the lengths of its parts give. -/
theorem log2_bounds (hnumerator : 0 < numerator) (hdenominator : 0 < denominator) :
    (2 : ℚ) ^ ((numerator.log2 : Int) - denominator.log2 - 1) < numerator / denominator ∧
      (numerator / denominator : ℚ) < 2 ^ ((numerator.log2 : Int) - denominator.log2 + 1) := by
  have htop : (2 : ℚ) ^ numerator.log2 ≤ numerator := by
    exact_mod_cast Nat.log2_self_le hnumerator.ne'
  have htop' : (numerator : ℚ) < 2 ^ (numerator.log2 + 1) := by
    exact_mod_cast Nat.lt_log2_self
  have hbottom : (2 : ℚ) ^ denominator.log2 ≤ denominator := by
    exact_mod_cast Nat.log2_self_le hdenominator.ne'
  have hbottom' : (denominator : ℚ) < 2 ^ (denominator.log2 + 1) := by
    exact_mod_cast Nat.lt_log2_self
  have hpos : (0 : ℚ) < denominator := Nat.cast_pos.mpr hdenominator
  have hlow : (2 : ℚ) ^ ((numerator.log2 : Int) - denominator.log2 - 1) =
      2 ^ numerator.log2 / 2 ^ (denominator.log2 + 1) := by
    rw [sub_sub, zpow_sub₀ two_ne_zero, zpow_natCast]
    norm_cast
  have hhigh : (2 : ℚ) ^ ((numerator.log2 : Int) - denominator.log2 + 1) =
      2 ^ (numerator.log2 + 1) / 2 ^ denominator.log2 := by
    rw [sub_add_eq_add_sub, zpow_sub₀ two_ne_zero, zpow_natCast]
    norm_cast
  rw [hlow, hhigh]
  constructor
  · exact div_lt_div₀' htop hbottom' (by positivity) hpos
  · exact div_lt_div₀ htop' hbottom (by positivity) (by positivity)

theorem cast_leadingBit : (leadingBit : ℚ) = 2 ^ 52 := by norm_num [leadingBit]

/-- The last place puts a quotient between the leading bit and the next one, unless the least
exponent is above that place. -/
theorem lastPlace_spec (hnumerator : 0 < numerator) (hdenominator : 0 < denominator) :
    ∃ place, lastPlace numerator denominator = max leastExponent place ∧
      leadingBit * 2 ^ place ≤ (numerator / denominator : ℚ) ∧
      (numerator / denominator : ℚ) < 2 * leadingBit * 2 ^ place := by
  obtain ⟨hlow, hhigh⟩ := log2_bounds hnumerator hdenominator
  rw [lastPlace]
  have hlow' : (numerator.log2 : Int) - denominator.log2 - 1 =
      (numerator.log2 : Int) - denominator.log2 - 53 + 52 := by omega
  have hhigh' : (numerator.log2 : Int) - denominator.log2 + 1 =
      (numerator.log2 : Int) - denominator.log2 - 53 + 54 := by omega
  rw [hlow', zpow_add₀ two_ne_zero] at hlow
  rw [hhigh', zpow_add₀ two_ne_zero] at hhigh
  generalize (numerator.log2 : Int) - denominator.log2 - 53 = low at *
  have hunits := inUnits_div numerator denominator low
  have hbottom := @inUnits_pos numerator denominator hdenominator low
  generalize inUnits numerator denominator low = units at *
  obtain ⟨top, bottom⟩ := units
  generalize (numerator / denominator : ℚ) = q at *
  dsimp only at hunits hbottom ⊢
  have hpower : (0 : ℚ) < 2 ^ low := by positivity
  have hq : q = top / bottom * 2 ^ low := by
    rw [hunits, mul_assoc, ← zpow_add₀ two_ne_zero, neg_add_cancel, zpow_zero, mul_one]
  have hcondition : bottom <<< 53 ≤ top ↔ 2 * leadingBit * 2 ^ low ≤ q := by
    have hbottom : (0 : ℚ) < bottom := Nat.cast_pos.mpr hbottom
    rw [hq, mul_le_mul_iff_left₀ hpower, le_div_iff₀ hbottom, Nat.shiftLeft_eq, cast_leadingBit]
    norm_cast
    rw [mul_comm bottom, pow_succ' 2 52]
  rw [cast_leadingBit] at *
  by_cases hcarry : bottom <<< 53 ≤ top
  · refine ⟨low + 1, by rw [if_pos hcarry], ?_, ?_⟩
    · have := hcondition.mp hcarry
      rw [zpow_add_one₀ two_ne_zero]
      linarith
    · rw [zpow_add_one₀ two_ne_zero]
      norm_num at hhigh ⊢
      linarith
  · refine ⟨low, by rw [if_neg hcarry], ?_, ?_⟩
    · norm_num at hlow ⊢
      linarith
    · exact not_le.mp fun hle => hcarry (hcondition.mpr hle)

theorem place_le {place place' : Int} {q : ℚ} (h : leadingBit * 2 ^ place ≤ q)
    (h' : q < 2 * leadingBit * 2 ^ place') : place ≤ place' := by
  have hpowers : (2 : ℚ) ^ place < 2 ^ (place' + 1) := by
    have hleading : (0 : ℚ) < leadingBit := by simp [cast_leadingBit]
    rw [zpow_add_one₀ two_ne_zero]
    nlinarith
  exact Int.lt_add_one_iff.mp ((zpow_lt_zpow_iff_right₀ one_lt_two).mp hpowers)

/-- The last place of a quotient is the one that puts it between the leading bit and the next one,
or the least one if it is below that. -/
theorem lastPlace_eq (hnumerator : 0 < numerator) (hdenominator : 0 < denominator) {place : Int}
    (hleast : leastExponent ≤ place)
    (hlow : place ≠ leastExponent → leadingBit * 2 ^ place ≤ (numerator / denominator : ℚ))
    (hhigh : (numerator / denominator : ℚ) < 2 * leadingBit * 2 ^ place) :
    lastPlace numerator denominator = place := by
  obtain ⟨place', hplace', hlow', hhigh'⟩ := lastPlace_spec hnumerator hdenominator
  have hle : place' ≤ place := place_le hlow' hhigh
  rw [hplace']
  by_cases hne : place = leastExponent
  · omega
  · have hge : place ≤ place' := place_le (hlow hne) hhigh'
    omega

end Place

/-! ### The interval around a number -/

/-- How far below a number the numbers go that round to it, in units of its last place. Below a
power of two the last place is half as wide. -/
def gapBelow (significand : Nat) (exponent : Int) : ℚ :=
  if significand = leadingBit ∧ exponent ≠ leastExponent then 1 / 4 else 1 / 2

/-- The quotient rounds to `significand * 2 ^ exponent`. The ends belong to an even significand. -/
structure RoundsTo (significand : Nat) (exponent : Int) (q : ℚ) : Prop where
  low : (significand - gapBelow significand exponent) * 2 ^ exponent ≤ q
  high : q ≤ (significand + 1 / 2) * 2 ^ exponent
  odd : significand % 2 = 1 → (significand - gapBelow significand exponent) * 2 ^ exponent < q ∧
    q < (significand + 1 / 2) * 2 ^ exponent

section Rounding

variable {numerator denominator significand : Nat} {exponent : Int}

theorem gapBelow_le : gapBelow significand exponent ≤ 1 / 2 := by
  rw [gapBelow]
  split <;> norm_num

theorem ofRatio_of_place {place : Int} {whole : Nat} (hnumerator : 0 < numerator)
    (hplace : lastPlace numerator denominator = place)
    (hwhole : nearestWhole (inUnits numerator denominator place).1
      (inUnits numerator denominator place).2 = whole)
    (hfinite : magnitude whole place < infinityBits) :
    ofRatio numerator denominator = ofMagnitude false (magnitude whole place) := by
  rw [magnitude] at hfinite ⊢
  rw [ofRatio, if_neg hnumerator.ne', hplace]
  dsimp only
  rw [hwhole, if_pos hfinite]

/-- The number nearest to a quotient in units of a place, by the halves around it. -/
theorem nearestWhole_inUnits {place : Int} {whole : Nat} {q : ℚ} (hdenominator : 0 < denominator)
    (hq : (numerator / denominator : ℚ) = q) (hlow : (whole - 1 / 2) * 2 ^ place ≤ q)
    (hhigh : q ≤ (whole + 1 / 2) * 2 ^ place)
    (hodd : whole % 2 = 1 → (whole - 1 / 2) * 2 ^ place < q ∧ q < (whole + 1 / 2) * 2 ^ place) :
    nearestWhole (inUnits numerator denominator place).1 (inUnits numerator denominator place).2 =
      whole := by
  have hpower : (0 : ℚ) < 2 ^ place := by positivity
  have hunits : ((inUnits numerator denominator place).1 : ℚ) /
      (inUnits numerator denominator place).2 = q / 2 ^ place := by
    rw [inUnits_div, hq, zpow_neg, div_eq_mul_inv q]
  refine nearestWhole_of_quotient (inUnits_pos hdenominator place) hunits ?_ ?_ fun h => ?_
  · rwa [le_div_iff₀ hpower]
  · rwa [div_le_iff₀ hpower]
  · rw [lt_div_iff₀ hpower, div_lt_iff₀ hpower]
    exact hodd h

/-- A quotient at least as large as the leading bit of the number that it rounds to. -/
theorem ofRatio_of_le (h : Legal significand exponent) (hnumerator : 0 < numerator)
    (hdenominator : 0 < denominator)
    (hround : RoundsTo significand exponent (numerator / denominator))
    (hleading : exponent ≠ leastExponent →
      leadingBit * 2 ^ exponent ≤ (numerator / denominator : ℚ)) :
    ofRatio numerator denominator = ofMagnitude false (magnitude significand exponent) := by
  have hpower : (0 : ℚ) < 2 ^ exponent := by positivity
  have hgap := @gapBelow_le significand exponent
  have hlt : (significand : ℚ) + 1 ≤ 2 * leadingBit := by exact_mod_cast h.lt
  obtain ⟨hlow, hhigh, hodd⟩ := hround
  have hbelow : ((significand : ℚ) - 1 / 2) * 2 ^ exponent ≤
      (significand - gapBelow significand exponent) * 2 ^ exponent :=
    mul_le_mul_of_nonneg_right (by linarith) hpower.le
  have hplace : lastPlace numerator denominator = exponent := by
    refine lastPlace_eq hnumerator hdenominator h.least hleading (lt_of_le_of_lt hhigh ?_)
    exact mul_lt_mul_of_pos_right (by linarith) hpower
  have hwhole := nearestWhole_inUnits hdenominator rfl (hbelow.trans hlow) hhigh fun h =>
    ⟨lt_of_le_of_lt hbelow (hodd h).1, (hodd h).2⟩
  exact ofRatio_of_place hnumerator hplace hwhole (magnitude_lt h)

/-- Just below a power of two a quotient has twice the significand in half the units. -/
theorem bounds_in_halves {bit unit q : ℚ} (hbit : 1 ≤ bit) (hunit : 0 < unit)
    (hlow : (bit - 1 / 4) * (unit * 2) ≤ q) (hhigh : q < bit * (unit * 2)) :
    bit * unit ≤ q ∧ q < 2 * bit * unit ∧ (2 * bit - 1 / 2) * unit ≤ q ∧
      q ≤ (2 * bit + 1 / 2) * unit := by
  refine ⟨?_, ?_, ?_, ?_⟩ <;> nlinarith

/-- A quotient below the power of two that it rounds up to. -/
theorem ofRatio_of_lt (h : Legal leadingBit exponent) (hne : exponent ≠ leastExponent)
    (hnumerator : 0 < numerator) (hdenominator : 0 < denominator)
    (hlow : (leadingBit - 1 / 4 : ℚ) * 2 ^ exponent ≤ numerator / denominator)
    (hhigh : (numerator / denominator : ℚ) < leadingBit * 2 ^ exponent) :
    ofRatio numerator denominator = ofMagnitude false (magnitude leadingBit exponent) := by
  have hmagnitude : magnitude (2 * leadingBit) (exponent - 1) = magnitude leadingBit exponent := by
    have hleast := h.least
    simp only [magnitude, leadingBit, leastExponent] at *
    omega
  have hleast : leastExponent ≤ exponent - 1 := by
    have hleast := h.least
    omega
  have hhalf : (2 : ℚ) ^ exponent = 2 ^ (exponent - 1) * 2 := by
    rw [← zpow_add_one₀ two_ne_zero, sub_add_cancel]
  have hleading : (1 : ℚ) ≤ leadingBit := by
    rw [cast_leadingBit]
    norm_num
  have hdouble : ((2 * leadingBit : Nat) : ℚ) = 2 * leadingBit := by rw [Nat.cast_mul]; rfl
  rw [hhalf] at hlow hhigh
  obtain ⟨hplaceLow, hplaceHigh, hwholeLow, hwholeHigh⟩ :=
    bounds_in_halves hleading (show (0 : ℚ) < 2 ^ (exponent - 1) by positivity) hlow hhigh
  have hplace : lastPlace numerator denominator = exponent - 1 :=
    lastPlace_eq hnumerator hdenominator hleast (fun _ => hplaceLow) hplaceHigh
  have hwhole : nearestWhole (inUnits numerator denominator (exponent - 1)).1
      (inUnits numerator denominator (exponent - 1)).2 = 2 * leadingBit := by
    have heven : ¬2 * leadingBit % 2 = 1 := by omega
    refine nearestWhole_inUnits hdenominator rfl ?_ ?_ fun h => absurd h heven
    · rw [hdouble]
      exact hwholeLow
    · rw [hdouble]
      exact hwholeHigh
  have hfinite : magnitude (2 * leadingBit) (exponent - 1) < infinityBits := by
    rw [hmagnitude]
    exact magnitude_lt h
  rw [ofRatio_of_place hnumerator hplace hwhole hfinite, hmagnitude]

/-- A quotient in the interval around a number is rounded to it. -/
theorem ofRatio_eq (h : Legal significand exponent) (hpos : 0 < significand)
    (hdenominator : 0 < denominator)
    (hround : RoundsTo significand exponent (numerator / denominator)) :
    ofRatio numerator denominator = ofMagnitude false (magnitude significand exponent) := by
  have hpower : (0 : ℚ) < 2 ^ exponent := by positivity
  have hgap := @gapBelow_le significand exponent
  have hsignificand : (1 : ℚ) ≤ significand := by exact_mod_cast hpos
  have hnumerator : 0 < numerator := by
    refine Nat.pos_of_ne_zero fun hzero => ?_
    have hlow := hround.low
    rw [hzero, Nat.cast_zero, zero_div] at hlow
    nlinarith
  by_cases hbelow : exponent ≠ leastExponent ∧
      (numerator / denominator : ℚ) < leadingBit * 2 ^ exponent
  · obtain ⟨hne, hbelow⟩ := hbelow
    obtain rfl : significand = leadingBit := by
      have hlt : (significand : ℚ) < leadingBit + 1 := by
        have hlow := hround.low
        nlinarith
      have hlt : significand < leadingBit + 1 := by exact_mod_cast hlt
      exact Nat.le_antisymm (Nat.lt_succ_iff.mp hlt) (h.leading hne)
    have hlow := hround.low
    rw [gapBelow, if_pos ⟨rfl, hne⟩] at hlow
    exact ofRatio_of_lt h hne hnumerator hdenominator hlow hbelow
  · refine ofRatio_of_le h hnumerator hdenominator hround fun hne => ?_
    exact not_lt.mp fun hlt => hbelow ⟨hne, hlt⟩

end Rounding

/-! ### Products and quotients -/

section Magnitudes

variable {x y : Binary64} {p q : ℚ} {significand : Nat} {exponent : Int}

/-- The number is finite, and the quotient is its magnitude. -/
def HasMagnitude (x : Binary64) (q : ℚ) : Prop :=
  ∃ top bottom, x.ratio? = some (top, bottom) ∧ 0 < bottom ∧ (top / bottom : ℚ) = q

theorem hasMagnitude_ofMagnitude (h : Legal significand exponent) (negative : Bool) :
    HasMagnitude (ofMagnitude negative (magnitude significand exponent))
      (significand * 2 ^ exponent) := by
  refine ⟨(scaled significand exponent).1, (scaled significand exponent).2, ?_, ?_, ?_⟩
  · rw [ratio?, content_ofMagnitude h]
  · simp [scaled, Nat.shiftLeft_eq]
  · obtain ⟨k, rfl | rfl⟩ := exponent.eq_nat_or_neg
    · simp [scaled, Nat.shiftLeft_eq]
    · simp [scaled, Nat.shiftLeft_eq, div_eq_mul_inv]

theorem roundsTo_self : RoundsTo significand exponent (significand * 2 ^ exponent) := by
  have hpower : (0 : ℚ) < 2 ^ exponent := by positivity
  have hgap : 0 < gapBelow significand exponent := by
    rw [gapBelow]
    split <;> norm_num
  have hlow : (significand - gapBelow significand exponent) * 2 ^ exponent <
      significand * 2 ^ exponent := by nlinarith
  have hhigh : significand * 2 ^ exponent < (significand + 1 / 2 : ℚ) * 2 ^ exponent := by nlinarith
  exact ⟨hlow.le, hhigh.le, fun _ => ⟨hlow, hhigh⟩⟩

theorem log2_le {n : Nat} (hpos : 0 < n) (h : n < 2 * leadingBit) : n.log2 ≤ 52 :=
  Nat.lt_succ_iff.mp ((Nat.log2_lt hpos.ne').mpr h)

/-- A whole number of at most 53 bits, moved to where its first bit is the leading one. -/
theorem legal_shifted {n : Nat} (hpos : 0 < n) (h : n < 2 * leadingBit) :
    Legal (n * 2 ^ (52 - n.log2)) ((n.log2 : Int) - 52) := by
  have hleading : leadingBit = 2 ^ 52 := by decide
  have hlength := log2_le hpos h
  have hsplit : leadingBit = 2 ^ n.log2 * 2 ^ (52 - n.log2) := by
    rw [← Nat.pow_add, Nat.add_sub_cancel' hlength, hleading]
  refine ⟨?_, by omega, ?_, fun _ => ?_⟩
  · simp only [leastExponent]
    omega
  · rw [hsplit, ← Nat.mul_assoc, ← Nat.pow_succ']
    exact Nat.mul_lt_mul_of_pos_right Nat.lt_log2_self (Nat.two_pow_pos _)
  · rw [hsplit]
    exact Nat.mul_le_mul_right _ (Nat.log2_self_le hpos.ne')

/-- A whole number of at most 53 bits is kept as it is. -/
theorem hasMagnitude_ofNat {n : Nat} (h : n < 2 * leadingBit) : HasMagnitude (ofNat n) n := by
  rcases Nat.eq_zero_or_pos n with rfl | hpos
  · have hlegal : Legal 0 leastExponent :=
      ⟨Int.le_refl _, by decide, by decide, fun hne => absurd rfl hne⟩
    have hzero : ofNat 0 = ofMagnitude false (magnitude 0 leastExponent) := by decide
    rw [hzero]
    simpa using hasMagnitude_ofMagnitude hlegal false
  · have hlegal := legal_shifted hpos h
    have hvalue : ((n * 2 ^ (52 - n.log2) : Nat) : ℚ) * 2 ^ ((n.log2 : Int) - 52) = n := by
      have hexponent : (n.log2 : Int) - 52 = -((52 - n.log2 : Nat) : Int) := by
        have hlength := log2_le hpos h
        omega
      rw [hexponent, zpow_neg, zpow_natCast]
      push_cast
      field_simp
    have hround := @roundsTo_self (n * 2 ^ (52 - n.log2)) ((n.log2 : Int) - 52)
    rw [hvalue] at hround
    have hofNat : ofNat n = ofMagnitude false
        (magnitude (n * 2 ^ (52 - n.log2)) ((n.log2 : Int) - 52)) :=
      ofRatio_eq hlegal (Nat.mul_pos hpos (Nat.two_pow_pos _)) Nat.one_pos (by simpa using hround)
    rw [hofNat]
    have := hasMagnitude_ofMagnitude hlegal false
    rwa [hvalue] at this

theorem hasMagnitude_powerOfTen {k : Nat} (h : k ≤ 22) : HasMagnitude (powerOfTen k) (10 ^ k) := by
  have hratio : ∀ k < 23, ∃ ratio ∈ (powerOfTen k).ratio?,
      0 < ratio.2 ∧ ratio.1 = 10 ^ k * ratio.2 := by
    decide +kernel
  obtain ⟨⟨top, bottom⟩, hmem, hpos, heq⟩ := hratio k (by omega)
  refine ⟨top, bottom, hmem, hpos, ?_⟩
  have hbottom : (bottom : ℚ) ≠ 0 := by exact_mod_cast hpos.ne'
  rw [div_eq_iff hbottom]
  exact_mod_cast heq

theorem magnitudeMul_eq (hx : HasMagnitude x p) (hy : HasMagnitude y q)
    (h : Legal significand exponent) (hpos : 0 < significand)
    (hround : RoundsTo significand exponent (p * q)) :
    x.magnitudeMul y = ofMagnitude false (magnitude significand exponent) := by
  obtain ⟨a, b, hxratio, hb, rfl⟩ := hx
  obtain ⟨c, d, hyratio, hd, rfl⟩ := hy
  rw [magnitudeMul, hxratio, hyratio]
  refine ofRatio_eq h hpos (Nat.mul_pos hb hd) ?_
  rwa [Nat.cast_mul, Nat.cast_mul, mul_div_mul_comm]

theorem magnitudeDiv_eq (hx : HasMagnitude x p) (hy : HasMagnitude y q) (hq : q ≠ 0)
    (h : Legal significand exponent) (hpos : 0 < significand)
    (hround : RoundsTo significand exponent (p / q)) :
    x.magnitudeDiv y = ofMagnitude false (magnitude significand exponent) := by
  obtain ⟨a, b, hxratio, hb, rfl⟩ := hx
  obtain ⟨c, d, hyratio, hd, rfl⟩ := hy
  have hc : c ≠ 0 := by
    rintro rfl
    exact hq (by simp)
  rw [magnitudeDiv, hxratio, hyratio]
  dsimp only
  rw [if_neg hc]
  refine ofRatio_eq h hpos (Nat.mul_pos hb (Nat.pos_of_ne_zero hc)) ?_
  rwa [Nat.cast_mul, Nat.cast_mul, ← div_div_div_eq]

end Magnitudes

end SolrClause.Number.Binary64
