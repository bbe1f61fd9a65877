import Mathlib.Data.List.TakeDrop
import SolrClause.Number.Notation
import SolrClause.Text.Digits

/-! Decimal digits as they are written and read: the digits of a number, with zeros in front or
without, give the number back, and they are taken from a text up to what follows them. -/

namespace SolrClause.Text

open Number

/-- The text does not start with a digit. -/
def NoDigit (text : List Char) : Prop := ∀ c ∈ text.head?, isDigit c = false

theorem noDigit_cons {c : Char} {rest : List Char} (h : isDigit c = false) :
    NoDigit (c :: rest) := by
  rintro d ⟨⟩
  exact h

theorem isDigit_of_mem_digits {n : Nat} {c : Char} (h : c ∈ digits n) : isDigit c = true :=
  Nat.isDigit_of_mem_toDigits (by decide) (by decide) h

theorem decimalValue_digits (n : Nat) : decimalValue (digits n) = n :=
  Nat.ofDigitChars_ten_toDigits

theorem digits_ne_nil (n : Nat) : digits n ≠ [] := Nat.toDigits_ne_nil

theorem digits_zero : digits 0 = ['0'] := rfl

/-- The digits of a positive number do not start with a zero. -/
theorem head?_digits {n : Nat} (h : 0 < n) : (digits n).head? ≠ some '0' := by
  induction n using Nat.strongRecOn with
  | _ n ih =>
    by_cases hn : n < 10
    · have hchar : ∀ m < 10, 0 < m → [Nat.digitChar m].head? ≠ some '0' := by decide
      rw [digits, Nat.toDigits_of_lt_base hn]
      exact hchar n hn h
    · have hfront : (digits (n / 10)).head? ≠ some '0' := ih (n / 10) (by omega) (by omega)
      rw [digits, Nat.toDigits_of_base_le (by decide) (by omega)]
      cases hds : digits (n / 10) with
      | nil => exact absurd hds (digits_ne_nil _)
      | cons d ds =>
        rw [digits] at hds
        rw [digits, hds] at hfront
        rwa [hds]

section Padded

variable {width n : Nat}

theorem isDigit_of_mem_paddedDigits {c : Char} (h : c ∈ paddedDigits width n) :
    isDigit c = true := by
  rw [paddedDigits, List.mem_append] at h
  rcases h with h | h
  · rw [List.eq_of_mem_replicate h]
    decide
  · exact isDigit_of_mem_digits h

theorem decimalValue_paddedDigits (width n : Nat) : decimalValue (paddedDigits width n) = n := by
  show Nat.ofDigitChars 10 (paddedDigits width n) 0 = n
  rw [paddedDigits, Nat.ofDigitChars_append, Nat.ofDigitChars_replicate_zero, Nat.mul_zero]
  exact decimalValue_digits n

theorem length_paddedDigits (hwidth : 0 < width) (h : n < Nat.pow 10 width) :
    (paddedDigits width n).length = width := by
  have hlength : (digits n).length ≤ width := (Nat.length_toDigits_le_iff (by decide) hwidth).mpr h
  rw [paddedDigits, List.length_append, List.length_replicate]
  omega

theorem paddedDigits_ne_nil (width n : Nat) : paddedDigits width n ≠ [] := by
  rw [paddedDigits]
  exact List.append_ne_nil_of_right_ne_nil _ (digits_ne_nil n)

end Padded

/-- Digits are told apart from what follows them. -/
theorem takeWhile_isDigit {ds rest : List Char} (hds : ∀ c ∈ ds, isDigit c = true)
    (hrest : NoDigit rest) : (ds ++ rest).takeWhile isDigit = ds := by
  rw [List.takeWhile_append_of_pos hds]
  cases rest with
  | nil => rw [List.takeWhile_nil, List.append_nil]
  | cons c rest => rw [List.takeWhile_cons_of_neg (by simp [hrest c rfl]), List.append_nil]

theorem takeDigits_append {ds rest : List Char} (hds : ∀ c ∈ ds, isDigit c = true)
    (hrest : NoDigit rest) : takeDigits (ds ++ rest) = (ds, rest) := by
  have hdrop : (ds ++ rest).dropWhile isDigit = rest := by
    rw [List.dropWhile_append_of_pos hds]
    cases rest with
    | nil => rfl
    | cons c rest => exact List.dropWhile_cons_of_neg (by simp [hrest c rfl])
  rw [takeDigits, List.span_eq_takeWhile_dropWhile, takeWhile_isDigit hds hrest, hdrop]

end SolrClause.Text
