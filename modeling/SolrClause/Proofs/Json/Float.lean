import SolrClause.Json.Fault
import SolrClause.Proofs.Json.Numeral
import SolrClause.Proofs.Number.Shortest

/-! Finite floats are written as numerals. The digits of a decimal are split into a whole part, a
fraction and an exponent, as the notation asks for it. -/

namespace SolrClause.Json.Numeral

open SolrClause.Number SolrClause.Text

/-- The numeral of a decimal with its digits in their places. -/
def positional (negative : Bool) (d : Decimal) : Numeral :=
  let ds := digits d.coefficient
  let places := (-d.exponent).toNat
  if 0 ≤ d.exponent then ⟨negative, ds ++ List.replicate d.exponent.toNat '0', ['0'], none⟩
  else if places < ds.length then
    ⟨negative, ds.take (ds.length - places), ds.drop (ds.length - places), none⟩
  else ⟨negative, ['0'], List.replicate (places - ds.length) '0' ++ ds, none⟩

/-- The numeral of a decimal with one whole digit and an exponent. -/
def scientific (negative : Bool) (d : Decimal) : Numeral :=
  let ds := digits d.coefficient
  let exponent := d.leadingExponent
  ⟨negative, ds.take 1, ds.drop 1, some ⟨decide (exponent < 0), digits exponent.natAbs⟩⟩

def ofDecimal (negative : Bool) (d : Decimal) : Numeral :=
  if Style.json.isPositional d.leadingExponent then positional negative d
  else scientific negative d

section Decimals

variable {negative : Bool} {d : Decimal}

theorem fractionChars_of_ne_nil {ds : List Char} (h : ds ≠ []) : fractionChars ds = '.' :: ds := by
  obtain ⟨d, tail, rfl⟩ := List.exists_cons_of_ne_nil h
  rfl

theorem chars_positional : (positional negative d).chars = (if negative then ['-'] else []) ++
    (d.positional ++ (if Style.json.markWhole && 0 ≤ d.exponent then ['.', '0'] else [])) := by
  rw [positional, Decimal.positional]
  by_cases hwhole : 0 ≤ d.exponent
  · simp [hwhole, chars, fractionChars, exponentChars, Style.json]
  · by_cases hplaces : (-d.exponent).toNat < (digits d.coefficient).length
    · have hfraction : (digits d.coefficient).drop
          ((digits d.coefficient).length - (-d.exponent).toNat) ≠ [] := by
        rw [Ne, List.drop_eq_nil_iff]
        omega
      simp [hwhole, hplaces, chars, fractionChars_of_ne_nil hfraction, exponentChars]
    · have hfraction : List.replicate ((-d.exponent).toNat - (digits d.coefficient).length) '0' ++
          digits d.coefficient ≠ [] := List.append_ne_nil_of_right_ne_nil _ (digits_ne_nil _)
      simp [hwhole, hplaces, chars, fractionChars_of_ne_nil hfraction, exponentChars]

theorem chars_scientific :
    (scientific negative d).chars = (if negative then ['-'] else []) ++ d.scientific := by
  rw [scientific, Decimal.scientific]
  obtain ⟨first, rest, hcons⟩ := List.exists_cons_of_ne_nil (digits_ne_nil d.coefficient)
  cases rest <;> simp [hcons, chars, fractionChars, exponentChars]

theorem chars_ofDecimal : (ofDecimal negative d).chars =
    (if negative then ['-'] else []) ++ Style.json.writeDecimal d := by
  rw [ofDecimal, Style.writeDecimal]
  split
  · exact chars_positional
  · exact chars_scientific

theorem whole_of_head {ds : List Char} (hne : ds ≠ []) (hds : ∀ c ∈ ds, Text.isDigit c = true)
    (hhead : ds.head? ≠ some '0') : Whole ds :=
  ⟨hne, hds, fun h => absurd h hhead⟩

theorem wellFormed_positional (h : d.coefficient = 0 → d.exponent = 0) :
    (positional negative d).WellFormed := by
  have hdigit : ∀ c ∈ digits d.coefficient, Text.isDigit c = true := fun _ => isDigit_of_mem_digits
  have hzeros (n : Nat) : ∀ c ∈ List.replicate n '0', Text.isDigit c = true := by
    intro c hc
    rw [List.eq_of_mem_replicate hc]
    decide
  simp only [positional]
  split
  · refine wellFormed_of_no_exponent ?_ (by simp [show Text.isDigit '0' = true by decide])
    rcases Nat.eq_zero_or_pos d.coefficient with hzero | hpos
    · rw [h hzero]
      simpa using whole_digits d.coefficient
    · refine whole_of_head ?_ ?_ ?_
      · exact List.append_ne_nil_of_left_ne_nil (digits_ne_nil _) _
      · intro c hc
        exact (List.mem_append.mp hc).elim (hdigit c) (hzeros _ c)
      · obtain ⟨first, rest, hcons⟩ := List.exists_cons_of_ne_nil (digits_ne_nil d.coefficient)
        have hfirst := head?_digits hpos
        rwa [hcons] at hfirst ⊢
  · rename_i hexponent
    have hpos : 0 < d.coefficient := Nat.pos_of_ne_zero fun hzero => hexponent (by simp [h hzero])
    split
    · rename_i hplaces
      refine wellFormed_of_no_exponent ?_ ?_
      · refine whole_of_head ?_ ?_ ?_
        · rw [Ne, List.take_eq_nil_iff, not_or]
          exact ⟨by omega, digits_ne_nil _⟩
        · exact fun c hc => hdigit c (List.mem_of_mem_take hc)
        · rw [List.head?_take, if_neg (by omega)]
          exact head?_digits hpos
      · exact fun c hc => hdigit c (List.mem_of_mem_drop hc)
    · refine wellFormed_of_no_exponent ?_ ?_
      · exact whole_digits 0
      · intro c hc
        exact (List.mem_append.mp hc).elim (hzeros _ c) (hdigit c)

theorem wellFormed_scientific : (scientific negative d).WellFormed := by
  obtain ⟨first, rest, hcons⟩ := List.exists_cons_of_ne_nil (digits_ne_nil d.coefficient)
  have hdigit : ∀ c ∈ first :: rest, Text.isDigit c = true := by
    intro c hc
    rw [← hcons] at hc
    exact isDigit_of_mem_digits hc
  simp only [scientific, hcons]
  refine ⟨⟨List.cons_ne_nil _ _, ?_, ?_⟩, ?_, ?_, ?_⟩
  · exact fun c hc => hdigit c (List.mem_of_mem_take hc)
  · rintro ⟨⟩
    rfl
  · exact fun c hc => hdigit c (List.mem_of_mem_drop hc)
  · rintro e ⟨⟩
    exact digits_ne_nil _
  · rintro e ⟨⟩ c hc
    exact isDigit_of_mem_digits hc

theorem wellFormed_ofDecimal (h : d.coefficient = 0 → d.exponent = 0) :
    (ofDecimal negative d).WellFormed := by
  rw [ofDecimal]
  split
  · exact wellFormed_positional h
  · exact wellFormed_scientific

end Decimals

def ofFinite (negative : Bool) (significand : Nat) (exponent : Int) : Numeral :=
  ofDecimal negative (Shortest.decimal Style.json.tie significand exponent)

theorem chars_ofFinite (negative : Bool) (significand : Nat) (exponent : Int) :
    (ofFinite negative significand exponent).chars =
      Style.json.writeFinite negative significand exponent :=
  chars_ofDecimal

theorem wellFormed_ofFinite (negative : Bool) (significand : Nat) (exponent : Int) :
    (ofFinite negative significand exponent).WellFormed :=
  wellFormed_ofDecimal Shortest.exponent_decimal

end SolrClause.Json.Numeral
