import SolrClause.Proofs.Clause.Order
import SolrClause.Proofs.Fragment
import SolrClause.Proofs.Json.Printable
import SolrClause.Proofs.Literal.Signs
import SolrClause.Proofs.Text.Digits

/-! Line breaks in clauses. Escaping, quoting and grouping neither add a line break nor take one
away, and scalars other than texts have none. So a clause is one line exactly if the field and the
texts that it is made from are. -/

namespace SolrClause

open SolrClause.Json (Printable)
open SolrClause.Number

/-! ### Numbers and timestamps -/

namespace Number

theorem printable_digits (n : Nat) : Printable (digits n) :=
  Json.printable_of_isDigit fun _ => Text.isDigit_of_mem_digits

theorem printable_paddedDigits (width n : Nat) : Printable (paddedDigits width n) :=
  Json.printable_of_isDigit fun _ => Text.isDigit_of_mem_paddedDigits

theorem printable_zeros (n : Nat) : Printable (List.replicate n '0') := by
  intro c hc
  rw [List.eq_of_mem_replicate hc]
  decide

theorem printable_positional (d : Decimal) : Printable d.positional := by
  have htake (n : Nat) : Printable ((digits d.coefficient).take n) :=
    fun c hc => printable_digits _ c (List.mem_of_mem_take hc)
  have hdrop (n : Nat) : Printable ((digits d.coefficient).drop n) :=
    fun c hc => printable_digits _ c (List.mem_of_mem_drop hc)
  have hpoint : 0x20 ≤ '.'.toNat := by decide
  have hzero : 0x20 ≤ '0'.toNat := by decide
  unfold Decimal.positional
  dsimp only
  split
  · exact Json.printable_append.mpr ⟨printable_digits _, printable_zeros _⟩
  · split
    · simp only [Json.printable_append, Json.printable_cons]
      exact ⟨htake _, hpoint, hdrop _⟩
    · simp only [Json.printable_append, Json.printable_cons]
      exact ⟨hzero, hpoint, printable_zeros _, printable_digits _⟩

theorem printable_writeFinite (negative : Bool) (significand : Nat) (exponent : Int) :
    Printable (Style.plain.writeFinite negative significand exponent) := by
  rw [Style.writeFinite, Json.printable_append]
  constructor
  · cases negative <;> simp
  · -- the plain style writes every number with all its digits in their places
    show Printable (Decimal.positional _ ++ [])
    rw [List.append_nil]
    exact printable_positional _

end Number

theorem Timestamp.printable_chars (t : Timestamp) : Printable t.chars := by
  have hyear : Printable (yearText t.date.year) := by
    unfold yearText
    split
    · exact printable_paddedDigits 4 _
    · refine Json.printable_cons.mpr ⟨?_, printable_paddedDigits 4 _⟩
      split <;> decide
  have hfraction : Printable (fractionText (t.nanos % nanosPerSecond)) := by
    have hpoint (width n : Nat) : Printable ('.' :: paddedDigits width n) :=
      Json.printable_cons.mpr ⟨by decide, printable_paddedDigits width n⟩
    unfold fractionText
    split
    · exact Json.printable_nil
    · split
      · exact hpoint 3 _
      · split
        · exact hpoint 6 _
        · exact hpoint 9 _
  simp [chars, hyear, hfraction, printable_paddedDigits]

namespace Scalar

variable {value : Scalar}

theorem printable_display (h : value.asText? = none) : Printable value.display.toList := by
  cases value with
  | boolean b => cases b <;> simp [display, booleanText]
  | integer n =>
    rw [display, integerText, String.toList_ofList, Json.printable_append]
    refine ⟨?_, printable_digits _⟩
    split <;> simp
  | float x =>
    rw [display, floatText]
    split
    · simp
    · split <;> simp
    · rw [String.toList_ofList]
      exact printable_writeFinite _ _ _
  | timestamp t =>
    rw [display, Timestamp.text, String.toList_ofList]
    exact t.printable_chars
  | text s => cases h

/-- Only a text has line breaks. -/
theorem newline_mem_display :
    '\n' ∈ value.display.toList ↔ ∃ text ∈ value.asText?, '\n' ∈ text.toList := by
  cases value with
  | text s => simp [display, asText?]
  | boolean | integer | float | timestamp =>
    simpa [asText?] using (printable_display rfl).newline_notMem

end Scalar

/-! ### Fragments -/

namespace Fragment

theorem newline_mem_literal {value : Scalar} :
    '\n' ∈ (literal value).toList ↔ '\n' ∈ value.display.toList := by
  rw [toList_literal, Literal.mem_sanitizeChars (by decide) (by decide)]

theorem newline_mem_ofBound {bound : Option Scalar} :
    '\n' ∈ (ofBound bound).toList ↔ ∃ value ∈ bound, '\n' ∈ value.display.toList := by
  cases bound with
  | none => simp [ofBound, wildcard]
  | some value => simp [ofBound, newline_mem_literal]

theorem newline_mem_ofComparison (comparison : Comparison) {value : Scalar} :
    '\n' ∈ (ofComparison value comparison).toList ↔ '\n' ∈ value.display.toList := by
  cases comparison with
  | equals => exact newline_mem_literal
  | contains => simp [toList_contains, newline_mem_literal]
  | startsWith => simp [toList_startsWith, newline_mem_literal]
  | endsWith => simp [toList_endsWith, newline_mem_literal]
  | expression => exact Iff.rfl

/-- A fragment has the line breaks of its scalars, and no others. -/
theorem newline_mem_ofPredicate {p : Predicate} :
    '\n' ∈ (ofPredicate p).toList ↔ ∃ value ∈ p.scalars, '\n' ∈ value.display.toList := by
  cases p with
  | compare comparison value =>
    rw [ofPredicate, newline_mem_ofComparison]
    simp [Predicate.scalars]
  | between range =>
    have hopen : '\n' ≠ (if range.includeLower then '[' else '{') := by split <;> decide
    have hclose : '\n' ≠ (if range.includeUpper then ']' else '}') := by split <;> decide
    have hrange : '\n' ∈ (ofRange range).toList ↔
        '\n' ∈ (ofBound range.lower).toList ∨ '\n' ∈ (ofBound range.upper).toList := by
      simp [toList_ofRange, innerChars, hopen, hclose]
    rw [ofPredicate, hrange, newline_mem_ofBound, newline_mem_ofBound]
    simp only [Predicate.mem_scalars_between, or_and_right, exists_or]

end Fragment

/-! ### Clauses -/

namespace Compiler

variable {config : Config}

theorem newline_mem_intercalate {parts : List (List Char)} :
    '\n' ∈ [' '].intercalate parts ↔ ∃ part ∈ parts, '\n' ∈ part := by
  induction parts with
  | nil => simp
  | cons part parts ih =>
    cases parts with
    | nil => simp
    | cons next parts =>
      rw [List.intercalate_cons_cons, List.mem_append, List.mem_append, ih]
      simp

/-- Neither the match for any value nor the parentheses and spaces of a group have line breaks. -/
theorem newline_mem_body {parts : List String} :
    '\n' ∈ (body parts).toList ↔ ∃ part ∈ parts, '\n' ∈ part.toList := by
  match parts with
  | [] => simp [body, matchAny]
  | [part] => simp [body]
  | part :: next :: parts =>
    have hgroup : (body (part :: next :: parts)).toList =
        '(' :: [' '].intercalate ((part :: next :: parts).map String.toList) ++ [')'] := by
      simp [body, String.toList_intercalate]
    rw [hgroup, List.mem_append, List.mem_cons, newline_mem_intercalate]
    simp

theorem newline_mem_fragments {predicates : List Predicate} :
    (∃ fragment ∈ fragments config predicates, '\n' ∈ fragment.toList) ↔
      ∃ p ∈ predicates, ∃ value ∈ p.scalars, '\n' ∈ value.display.toList := by
  simp only [fragments_eq, List.mem_map, exists_exists_and_eq_and,
    (arrange_perm config predicates).mem_iff, Fragment.newline_mem_ofPredicate]

/-- A clause has the line breaks of its field and of its scalars, and no others. -/
theorem newline_mem_clause {c : Criteria} :
    '\n' ∈ (clause config c).toList ↔ '\n' ∈ c.field.toList ∨
      ∃ p ∈ c.predicates, ∃ value ∈ p.scalars, '\n' ∈ value.display.toList := by
  have hmark : '\n' ∉ (if c.negating then "-" else "").toList := by split <;> decide
  have hcolon : '\n' ∉ ":".toList := by decide
  rw [clause, clauseOf]
  simp only [String.toList_append, List.mem_append, hmark, hcolon, false_or, or_false,
    newline_mem_body, newline_mem_fragments]
  exact Iff.rfl

end Compiler

/-- The field and the texts of the predicates have no line breaks. -/
structure Criteria.OneLine (c : Criteria) : Prop where
  field : '\n' ∉ c.field.toList
  texts : ∀ p ∈ c.predicates, ∀ value ∈ p.scalars, ∀ text ∈ value.asText?, '\n' ∉ text.toList

instance (c : Criteria) : Decidable c.OneLine :=
  decidable_of_iff
    ('\n' ∉ c.field.toList ∧
      ∀ p ∈ c.predicates, ∀ value ∈ p.scalars, ∀ text ∈ value.asText?, '\n' ∉ text.toList)
    ⟨fun ⟨hfield, htexts⟩ => ⟨hfield, htexts⟩, fun ⟨hfield, htexts⟩ => ⟨hfield, htexts⟩⟩

/-- Criteria have a clause of one line exactly if the field and the texts have no line breaks. -/
theorem Compiler.newline_notMem_clause_iff {config : Config} {c : Criteria} :
    '\n' ∉ (clause config c).toList ↔ c.OneLine := by
  rw [newline_mem_clause]
  simp only [Scalar.newline_mem_display]
  constructor
  · intro h
    refine ⟨fun hfield => h (.inl hfield), fun p hp value hvalue text htext hbreak => ?_⟩
    exact h (.inr ⟨p, hp, value, hvalue, text, htext, hbreak⟩)
  · rintro h (hfield | ⟨p, hp, value, hvalue, text, htext, hbreak⟩)
    · exact h.field hfield
    · exact h.texts p hp value hvalue text htext hbreak

end SolrClause
