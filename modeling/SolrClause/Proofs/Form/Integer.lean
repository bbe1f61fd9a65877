import SolrClause.Proofs.Form.Scalar

/-! Integers of a JSON text, read as scalars. An integer of 64 bits is kept as it is, and one that
needs the bit of the sign is refused. Past those a number is a float before it is looked at as a
scalar, and so is a negative zero: these are not refused, as far as a float can hold them. -/

namespace SolrClause.Scalar

open SolrClause.Json SolrClause.Json.Numeral

theorem ofValue_float (x : Number.Binary64) : ofValue (.number (.float x)) = .ok (.float x) := rfl

theorem ofValue_integer_of_lt {n : Int} (h : Int64.maxValue.toInt < n) :
    ofValue (.number (.integer n)) = .error .noScalar := by
  have hrange : ¬(Int64.minValue.toInt ≤ n ∧ n ≤ Int64.maxValue.toInt) :=
    fun hfits => absurd hfits.2 (Int.not_le.mpr h)
  rw [ofValue, ofValue?, integerOfValue?, if_neg hrange]
  rfl

/-- A number of a text is a scalar as the value that it stands for, unless it is too large. -/
theorem ofJson_number (levels : Nat) (n : Numeral) :
    ofJson levels (.number n) =
      match n.value? with
      | none => .error .numberOutOfRange
      | some number => ofValue (.number number) := by
  rw [ofJson, Document.value, Numeral.number]
  cases n.value? <;> rfl

section Literals

variable {negative : Bool} {ds : List Char}

/-- An integer in a text is read as itself if it fits 64 bits with a sign, and is refused if it fits
only without one. A widened integer is neither: it is read as a float, unless it is too large. -/
theorem parse_integer_text (h : Whole ds) :
    (¬Widened negative (signedValue negative ds) →
      signedValue negative ds ≤ Int64.maxValue.toInt →
      ∃ k : Int64, k.toInt = signedValue negative ds ∧
        parse ofJson ((if negative then ['-'] else []) ++ ds) = .ok (.integer k)) ∧
    (¬Widened negative (signedValue negative ds) →
      Int64.maxValue.toInt < signedValue negative ds →
      parse ofJson ((if negative then ['-'] else []) ++ ds) = .error .noScalar) ∧
    (Widened negative (signedValue negative ds) →
      parse ofJson ((if negative then ['-'] else []) ++ ds) = .error .numberOutOfRange ∨
        ∃ x, parse ofJson ((if negative then ['-'] else []) ++ ds) = .ok (.float x)) := by
  have hparse : parse ofJson ((if negative then ['-'] else []) ++ ds) =
      ofJson levelLimit (.number (ofDigits negative ds)) := by
    rw [← chars_ofDigits]
    exact parse_writes_tight ofJson (.number (writes_chars (wellFormed_ofDigits h negative)))
  rw [hparse, ofJson_number]
  refine ⟨fun hkept hhigh => ?_, fun hkept hhigh => ?_, fun hwidened => ?_⟩
  · have hlow : Int64.minValue.toInt ≤ signedValue negative ds :=
      Int.not_lt.mp fun hlow => hkept (.inr (.inl hlow))
    have htoInt := Int64.toInt_ofInt_of_le hlow (Int.lt_of_le_of_lt hhigh (by decide))
    rw [value?_of_not_widened hkept]
    exact ⟨Int64.ofInt (signedValue negative ds), htoInt, ofValue_integer_of_fits hlow hhigh⟩
  · rw [value?_of_not_widened hkept]
    exact ofValue_integer_of_lt hhigh
  · rcases value?_of_widened hwidened with hnone | ⟨x, hx⟩
    · rw [hnone]
      exact .inl rfl
    · rw [hx]
      exact .inr ⟨x, ofValue_float x⟩

/-- The least integer of 64 bits with a sign, the first one past them and the first one past 64
bits without a sign. -/
theorem parse_integer_text_bounds :
    (∃ k : Int64, k.toInt = -9223372036854775808 ∧
      parse ofJson ('-' :: "9223372036854775808".toList) = .ok (.integer k)) ∧
    parse ofJson "9223372036854775808".toList = .error .noScalar ∧
    ∃ x, parse ofJson "18446744073709551616".toList = .ok (.float x) := by
  have hwhole : Whole "9223372036854775808".toList ∧ Whole "18446744073709551616".toList :=
    ⟨⟨by decide, List.all_eq_true.mp (by decide), by decide⟩,
      ⟨by decide, List.all_eq_true.mp (by decide), by decide⟩⟩
  have hleast := (@parse_integer_text true _ hwhole.1).1 (by decide) (by decide)
  have hpast := (@parse_integer_text false _ hwhole.1).2.1 (by decide) (by decide)
  have hwidened := (@parse_integer_text false _ hwhole.2).2.2 (by decide)
  exact ⟨hleast, hpast, hwidened.resolve_left (by decide +kernel)⟩

end Literals

/-- Integers that are read as floats: the first one past 64 bits, the first one below those with a
sign, and a negative zero. -/
theorem parse_widened :
    parse ofJson "18446744073709551616".toList = .ok (.float ⟨0x43F0000000000000⟩) ∧
    parse ofJson "-9223372036854775809".toList = .ok (.float ⟨0xC3E0000000000000⟩) ∧
    parse ofJson "-0".toList = .ok (.float ⟨0x8000000000000000⟩) := by
  decide +kernel

end SolrClause.Scalar
