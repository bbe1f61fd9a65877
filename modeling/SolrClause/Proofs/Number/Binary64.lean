import SolrClause.Number.Binary64

/-! Finite numbers as significands and exponents: the magnitude of the bits is made of the two, and
nothing but the sign is left beside it. -/

namespace SolrClause.Number.Binary64

/-- The significand and the exponent belong to a finite number: only at the least exponent may the
leading bit be missing. -/
structure Legal (significand : Nat) (exponent : Int) : Prop where
  least : leastExponent ≤ exponent
  most : exponent ≤ 971
  lt : significand < 2 * leadingBit
  leading : exponent ≠ leastExponent → leadingBit ≤ significand

/-- The bits of a finite number without its sign. -/
def magnitude (significand : Nat) (exponent : Int) : Nat :=
  (exponent - leastExponent).toNat * leadingBit + significand

section Bits

variable {significand : Nat} {exponent : Int} {negative : Bool} {x : Binary64} {m : Nat}

theorem magnitude_lt (h : Legal significand exponent) :
    magnitude significand exponent < infinityBits := by
  obtain ⟨hleast, hmost, hlt, -⟩ := h
  simp only [magnitude, leastExponent, leadingBit, infinityBits] at *
  omega

theorem toNat_bits_ofMagnitude (h : m < signBit) :
    (ofMagnitude negative m).bits.toNat = if negative then signBit + m else m := by
  have hfits : (if negative then signBit + m else m) < 2 ^ 64 := by
    simp only [signBit] at h ⊢
    split <;> omega
  rw [ofMagnitude, UInt64.toNat_ofNat', Nat.mod_eq_of_lt hfits]

theorem magnitudeBits_ofMagnitude (h : m < signBit) :
    (ofMagnitude negative m).magnitudeBits = m := by
  rw [magnitudeBits, toNat_bits_ofMagnitude h]
  simp only [signBit] at h ⊢
  split <;> omega

theorem isNegative_ofMagnitude (h : m < signBit) :
    (ofMagnitude negative m).isNegative = negative := by
  rw [isNegative, toNat_bits_ofMagnitude h]
  cases negative <;> simp [h]

theorem ofMagnitude_magnitudeBits (x : Binary64) :
    ofMagnitude x.isNegative x.magnitudeBits = x := by
  have hbits := x.bits.toNat_lt
  have hmagnitude : x.magnitudeBits < signBit := Nat.mod_lt _ (by decide)
  have htoNat : (ofMagnitude x.isNegative x.magnitudeBits).bits.toNat = x.bits.toNat := by
    rw [toNat_bits_ofMagnitude hmagnitude, isNegative, magnitudeBits]
    by_cases hsign : signBit ≤ x.bits.toNat
    · rw [decide_eq_true hsign, if_pos rfl]
      simp only [signBit] at *
      omega
    · rw [decide_eq_false hsign, if_neg (by decide), Nat.mod_eq_of_lt (Nat.not_le.mp hsign)]
  exact congrArg mk (UInt64.toNat_inj.mp htoNat)

/-- The content of a number whose significand and exponent are legal is the two. -/
theorem content_ofMagnitude (h : Legal significand exponent) :
    (ofMagnitude negative (magnitude significand exponent)).content =
      .finite negative significand exponent := by
  have hbits : magnitude significand exponent < signBit :=
    Nat.lt_trans (magnitude_lt h) (by decide)
  obtain ⟨hleast, hmost, hlt, hleading⟩ := h
  rw [content, magnitudeBits_ofMagnitude hbits, isNegative_ofMagnitude hbits]
  by_cases hsmall : significand < leadingBit
  · -- The leading bit is missing.
    obtain rfl : exponent = leastExponent :=
      Decidable.byContradiction fun hne => absurd (hleading hne) (Nat.not_le.mpr hsmall)
    have hmagnitude : magnitude significand leastExponent = significand := by
      simp [magnitude]
    rw [hmagnitude, if_pos (Nat.div_eq_of_lt hsmall), Nat.mod_eq_of_lt hsmall]
  · have hfield : magnitude significand exponent / leadingBit =
        (exponent - leastExponent).toNat + 1 := by
      simp only [magnitude, leadingBit] at *
      omega
    have hfraction : leadingBit + magnitude significand exponent % leadingBit = significand := by
      simp only [magnitude, leadingBit] at *
      omega
    have hfinite : (exponent - leastExponent).toNat + 1 < 2047 := by
      simp only [leastExponent] at *
      omega
    have hexponent : (((exponent - leastExponent).toNat + 1 : Nat) : Int) - 1 + leastExponent =
        exponent := by
      simp only [leastExponent] at *
      omega
    rw [hfraction, hfield, if_neg (Nat.succ_ne_zero _), if_pos hfinite, hexponent]

/-- A finite number has a legal significand and exponent, and its bits are made of them. -/
theorem legal_of_content (h : x.content = .finite negative significand exponent) :
    Legal significand exponent ∧ x = ofMagnitude negative (magnitude significand exponent) := by
  have hx := ofMagnitude_magnitudeBits x
  have hdivision := Nat.div_add_mod' x.magnitudeBits leadingBit
  have hfraction : x.magnitudeBits % leadingBit < leadingBit := Nat.mod_lt _ (by decide)
  rw [content] at h
  generalize x.magnitudeBits / leadingBit = field at *
  generalize x.magnitudeBits % leadingBit = fraction at *
  split at h
  · rename_i hfield
    cases h
    refine ⟨⟨Int.le_refl _, by decide, by omega, fun hne => absurd rfl hne⟩, ?_⟩
    have hmagnitude : magnitude significand leastExponent = x.magnitudeBits := by
      rw [← hdivision, hfield]
      simp [magnitude]
    rw [hmagnitude, hx]
  · split at h
    · rename_i hfield hfinite
      cases h
      have hexponent : ((field : Int) - 1 + leastExponent - leastExponent).toNat = field - 1 := by
        omega
      refine ⟨⟨?_, ?_, ?_, fun _ => Nat.le_add_right _ _⟩, ?_⟩
      · omega
      · simp only [leastExponent]
        omega
      · omega
      · have hmagnitude : magnitude (leadingBit + fraction) ((field : Int) - 1 + leastExponent) =
            x.magnitudeBits := by
          rw [magnitude, hexponent, ← hdivision]
          simp only [leadingBit]
          omega
        rw [hmagnitude, hx]
    · split at h <;> cases h

end Bits

end SolrClause.Number.Binary64
